import StellarSwipe.Governance.ConvictionEffects
import StellarSwipe.Library.DistinctList
import StellarSwipe.Library.Runs

/-!
# Conviction voters

Recomputing a proposal's conviction adds what each of its listed voters has: the sum over the live
votes as long as the list names every voter with a vote once.
-/

namespace StellarSwipe.Governance

open FixedWidth Program Runs DistinctList Table

/-- The total conviction of the live votes at a time. -/
def liveConviction (now : Nat) (calibration : ConvictionCalibration)
    (votes : Table Address ConvictionVote) : Int :=
  Table.sum (fun _ vote => vote.convictionAt now calibration) votes

/-- The list names every voter with a vote, and none of them twice; votes commit no
negative amounts. -/
structure ConvictionProposal.Listed (proposal : ConvictionProposal) : Prop where
  distinct : proposal.voters.Nodup
  named : ∀ voter vote, proposal.votes.lookup voter = some vote → voter ∈ proposal.voters
  tokens : ∀ voter vote, proposal.votes.lookup voter = some vote → 0 ≤ vote.tokensCommitted

section Refresh

variable {now : Nat} {calibration : ConvictionCalibration} {voters : List Address}
  {votes : Table Address ConvictionVote} {total : Int}

theorem refreshVotes_kept (now : Nat) (calibration : ConvictionCalibration)
    (voters : List Address) (votes : Table Address ConvictionVote) (total : Int) :
    (∀ voter vote, (refreshVotes now calibration voters votes total).1.lookup voter = some vote →
      ∃ pre, votes.lookup voter = some pre ∧ vote.tokensCommitted = pre.tokensCommitted) ∧
    liveConviction now calibration (refreshVotes now calibration voters votes total).1 =
      liveConviction now calibration votes := by
  induction voters generalizing votes total with
  | nil => exact ⟨fun voter vote hit => ⟨vote, hit, rfl⟩, rfl⟩
  | cons voter rest ih =>
    rw [refreshVotes]
    cases hit : votes.lookup voter with
    | none => exact ih votes total
    | some vote =>
      obtain ⟨tokens, conviction⟩ := ih
        (votes.insert voter (updateVoteConviction now calibration vote))
        (i128.saturatingAdd total (updateVoteConviction now calibration vote).currentConviction)
      refine ⟨fun other refreshed read => ?_, conviction.trans ?_⟩
      · obtain ⟨middle, inserted, same⟩ := tokens other refreshed read
        rw [lookup_insert] at inserted
        split at inserted
        next here =>
          cases inserted
          exact ⟨vote, here ▸ hit, same⟩
        next => exact ⟨middle, inserted, same⟩
      · have unmoved : (updateVoteConviction now calibration vote).convictionAt now calibration =
          vote.convictionAt now calibration := rfl
        rw [liveConviction, sum_insert, contribution_of_some hit, unmoved]
        simp only [liveConviction]
        omega

/-- Refreshing distinct voters adds up their convictions while the sum fits. The
induction is on the list: a refreshed vote is not looked up again. -/
theorem refreshVotes_total (distinct : voters.Nodup)
    (tokens : ∀ voter vote, votes.lookup voter = some vote → 0 ≤ vote.tokensCommitted)
    (nonneg : 0 ≤ total) (room : total + (voters.map (Table.contribution
      (fun _ vote => vote.convictionAt now calibration) votes)).sum ≤ i128.high) :
    (refreshVotes now calibration voters votes total).2 = total + (voters.map
      (Table.contribution (fun _ vote => vote.convictionAt now calibration) votes)).sum := by
  induction voters generalizing votes total with
  | nil => simp [refreshVotes]
  | cons voter rest ih =>
    obtain ⟨fresh, restDistinct⟩ := List.nodup_cons.mp distinct
    rw [List.map_cons, List.sum_cons] at room ⊢
    have contributionNonneg : ∀ other, 0 ≤ Table.contribution
        (fun _ (vote : ConvictionVote) => vote.convictionAt now calibration) votes other := by
      intro other
      cases read : votes.lookup other with
      | none => rw [contribution_of_none read]
      | some vote =>
        rw [contribution_of_some read]
        exact calculateConviction_nonneg calibration (tokens other vote read) _
    have restNonneg : 0 ≤ (rest.map (Table.contribution
        (fun _ (vote : ConvictionVote) => vote.convictionAt now calibration) votes)).sum := by
      apply List.sum_nonneg
      intro term mem
      obtain ⟨other, _, rfl⟩ := List.mem_map.mp mem
      exact contributionNonneg other
    rw [refreshVotes]
    cases hit : votes.lookup voter with
    | none =>
      rw [contribution_of_none hit, zero_add] at room ⊢
      exact ih restDistinct tokens nonneg room
    | some vote =>
      have here := contributionNonneg voter
      rw [contribution_of_some hit] at room here ⊢
      have added : i128.saturatingAdd total (vote.convictionAt now calibration) =
          total + vote.convictionAt now calibration := by
        apply i128.clamp_of_holds
        simp only [Range.Holds, i128_low]
        omega
      have others : rest.map (Table.contribution (fun _ vote => vote.convictionAt now calibration)
            (votes.insert voter (updateVoteConviction now calibration vote))) =
          rest.map (Table.contribution (fun _ vote => vote.convictionAt now calibration)
            votes) := by
        apply List.map_congr_left
        intro other mem
        have different : other ≠ voter := by
          rintro rfl
          exact fresh mem
        simp only [Table.contribution, lookup_insert, if_neg different]
      have tokensThere : ∀ other hit,
          (votes.insert voter (updateVoteConviction now calibration vote)).lookup other =
            some hit → 0 ≤ hit.tokensCommitted := by
        intro other has read
        rw [lookup_insert] at read
        split at read
        · cases read
          exact tokens voter vote hit
        · exact tokens other has read
      have sumNonneg : 0 ≤ total + vote.convictionAt now calibration := by omega
      have later := ih restDistinct tokensThere sumNonneg
        (by rw [others]; omega)
      simp only [updateVoteConviction, added]
      rw [others] at later
      simp only [updateVoteConviction] at later
      omega

theorem refreshVotes_counts {proposal : ConvictionProposal} (listed : proposal.Listed)
    (refreshed : refreshVotes now calibration proposal.voters proposal.votes 0 = (votes, total))
    (room : liveConviction now calibration proposal.votes ≤ i128.high) :
    total = liveConviction now calibration votes := by
  have counted : (proposal.voters.map (Table.contribution
      (fun _ (vote : ConvictionVote) => vote.convictionAt now calibration) proposal.votes)).sum =
      liveConviction now calibration proposal.votes :=
    sum_of_keys listed.distinct listed.named
  have kept := (refreshVotes_kept now calibration proposal.voters proposal.votes 0).2
  have added := refreshVotes_total listed.distinct listed.tokens (le_refl 0)
    (by rw [counted, Int.zero_add]; exact room)
  rw [refreshed] at kept added
  simp only at kept added
  omega

end Refresh

section Listed

variable {pre after : ConvictionProposal} {voter : Address} {vote : ConvictionVote}

theorem ConvictionProposal.Listed.join (listed : pre.Listed) (nonneg : 0 ≤ vote.tokensCommitted)
    (votes : after.votes = pre.votes.insert voter vote)
    (voters : after.voters = pushNew pre.voters voter) : after.Listed where
  distinct := by
    rw [voters]
    exact pushNew_nodup listed.distinct voter
  named := by
    intro other has hit
    rw [votes, lookup_insert] at hit
    rw [voters, mem_pushNew]
    split at hit
    next same => exact Or.inr same
    next => exact Or.inl (listed.named other has hit)
  tokens := by
    intro other has hit
    rw [votes, lookup_insert] at hit
    split at hit
    · cases hit
      exact nonneg
    · exact listed.tokens other has hit

theorem ConvictionProposal.Listed.leave (listed : pre.Listed)
    (votes : after.votes = pre.votes.erase voter) (voters : after.voters = pre.voters) :
    after.Listed where
  distinct := voters ▸ listed.distinct
  named := by
    intro other has hit
    rw [votes, lookup_erase] at hit
    split at hit
    · cases hit
    · rw [voters]
      exact listed.named other has hit
  tokens := by
    intro other has hit
    rw [votes, lookup_erase] at hit
    split at hit
    · cases hit
    · exact listed.tokens other has hit

variable {calibration : ConvictionCalibration}

theorem ConvictionProposal.Listed.refresh {now : Nat} {votes : Table Address ConvictionVote}
    {total : Int} (listed : pre.Listed)
    (refreshed : refreshVotes now calibration pre.voters pre.votes 0 = (votes, total))
    (written : after.votes = votes) (voters : after.voters = pre.voters) : after.Listed := by
  have kept := (refreshVotes_kept now calibration pre.voters pre.votes 0).1
  rw [refreshed, ← written] at kept
  refine ⟨voters ▸ listed.distinct, fun other has hit => ?_, fun other has hit => ?_⟩
  · obtain ⟨old, present, _⟩ := kept other has hit
    rw [voters]
    exact listed.named other old present
  · obtain ⟨old, present, same⟩ := kept other has hit
    rw [same]
    exact listed.tokens other old present

theorem updateConvictionVote_tokens {now : Nat} {updated : ConvictionVote} {newTokens : Int}
    (nonneg : 0 ≤ newTokens)
    (changed : updateConvictionVote now calibration vote newTokens = .ok updated) :
    0 ≤ updated.tokensCommitted := by
  simp only [updateConvictionVote] at changed
  split at changed
  next =>
    cases changed
    exact nonneg
  next notRaised =>
    split at changed
    next =>
      obtain ⟨scaled, _, changed⟩ := bind_ok changed
      obtain ⟨reduced, _, changed⟩ := bind_ok changed
      cases changed
      exact nonneg
    next notLowered =>
      cases changed
      omega

theorem applyVoteSwitchDecay_nonneg {tokens : Int} (nonneg : 0 ≤ tokens) :
    0 ≤ applyVoteSwitchDecay tokens := by
  apply i128.le_clamp (by decide)
  rw [tdiv_eq_floor nonneg]
  omega

end Listed

def ConvictionVotingPool.Listed (pool : ConvictionVotingPool) : Prop :=
  ∀ proposalId proposal, pool.proposals.lookup proposalId = some proposal → proposal.Listed

/-- Every proposal of every pool is listed. -/
def VotersListed (store : ConvictionStore) : Prop :=
  ∀ poolId pool, store.pool poolId = some pool → pool.Listed

/-- A voter without a vote is not in the list that voting adds the voter to, and the
recomputed conviction fits its type. -/
def VotersGuard (store : ConvictionStore) (input : ConvictionInput) : Prop :=
  match input.call with
  | .vote poolId proposalId voter _ =>
    ∀ proposal, store.proposal poolId proposalId = some proposal →
      proposal.votes.lookup voter = none → voter ∉ proposal.voters
  | .update poolId proposalId =>
    ∀ proposal, store.proposal poolId proposalId = some proposal →
      liveConviction input.env.timestamp store.calibrated proposal.votes ≤ i128.high
  | _ => True

instance (store : ConvictionStore) (input : ConvictionInput) :
    Decidable (VotersGuard store input) := by
  unfold VotersGuard
  obtain ⟨_, call⟩ := input
  cases call <;> infer_instance

/-- What an accepted recomputation leaves: the proposal's accumulated conviction is the
conviction of its live votes at that time. -/
def CountsVotersOnce (taken : Transition ConvictionStore ConvictionInput) : Prop :=
  match taken.input.call with
  | .update poolId proposalId => Accepts taken.input.exec taken.pre →
    ∀ proposal, taken.after.proposal poolId proposalId = some proposal →
      proposal.convictionAccumulated =
        liveConviction taken.input.env.timestamp taken.pre.calibrated proposal.votes
  | _ => True

instance (taken : Transition ConvictionStore ConvictionInput) :
    Decidable (CountsVotersOnce taken) := by
  unfold CountsVotersOnce
  split <;> infer_instance

section Steps

variable {pre after : ConvictionStore} {poolId : Nat} {written : ConvictionVotingPool}

theorem ConvictionVotingPool.Listed.putProposal {pool : ConvictionVotingPool} {proposalId : Nat}
    {proposal : ConvictionProposal} (others : pool.Listed) (listed : proposal.Listed) :
    (pool.putProposal proposalId proposal).Listed := by
  intro other hit lookup
  rw [lookup_putProposal] at lookup
  split at lookup
  · cases lookup
    exact listed
  · exact others other hit lookup

theorem effect_listed {input : ConvictionInput} (valid : VotersListed pre)
    (guard : VotersGuard pre input)
    (effect : ConvictionEffect input.env pre input.call poolId written) : written.Listed := by
  obtain ⟨env, call⟩ := input
  cases effect with
  | createPool funded rate =>
    intro proposalId proposal hit
    cases hit
  | createProposal has pos within =>
    apply (valid _ _ has).putProposal
    exact ⟨List.nodup_nil, nofun, nofun⟩
  | revote has listed pos voted changed =>
    have proposalListed := valid _ _ has _ _ listed
    apply (valid _ _ has).putProposal
    exact proposalListed.join (updateConvictionVote_tokens pos.le changed) rfl
      (pushNew_of_mem (proposalListed.named _ _ voted)).symm
  | @firstVote _ proposalId voter tokens pool proposal has listed pos unvoted =>
    have fresh : voter ∉ proposal.voters :=
      guard proposal (by rw [proposal_of_listed has, listed]) unvoted
    apply (valid _ _ has).putProposal
    exact (valid _ _ has _ _ listed).join pos.le rfl (pushNew_of_fresh fresh).symm
  | update has listed refreshed =>
    apply (valid _ _ has).putProposal
    exact (valid _ _ has _ _ listed).refresh refreshed rfl rfl
  | @updateFunded _ proposalId pool proposal votes total has listed refreshed active covered =>
    have others : ({ pool with
        fundingAmount := i128.saturatingSub pool.fundingAmount proposal.requestedAmount
        }).Listed := valid poolId pool has
    apply others.putProposal
    exact (valid _ _ has _ _ listed).refresh refreshed rfl rfl
  | @execute _ proposalId pool proposal has listed covered =>
    have others : ({ pool with
        fundingAmount := i128.saturatingSub pool.fundingAmount proposal.requestedAmount
        }).Listed := valid poolId pool has
    have proposalListed := valid _ _ has _ _ listed
    apply others.putProposal
    exact ⟨proposalListed.distinct, proposalListed.named, proposalListed.tokens⟩
  | change has left voted joined =>
    have sourceListed := valid _ _ has _ _ left
    have nonneg := applyVoteSwitchDecay_nonneg (sourceListed.tokens _ _ voted)
    refine ConvictionVotingPool.Listed.putProposal ?_ ?_
    · apply (valid _ _ has).putProposal
      exact sourceListed.leave rfl rfl
    · exact (valid _ _ has _ _ joined).join nonneg rfl rfl
  | @refill _ pool has due =>
    have others : pool.Listed := valid poolId pool has
    exact others
  | withdraw has listed voted =>
    apply (valid _ _ has).putProposal
    exact (valid _ _ has _ _ listed).leave rfl rfl

theorem step_listed (input : ConvictionInput) (guard : VotersGuard pre input)
    (valid : VotersListed pre) : VotersListed (convictionStep input pre) := by
  refine invoke_rule (wp_mono (exec_outcome input) ?_ fun _ _ _ => valid)
  rintro _ after (⟨touched, written, effect, writes⟩ | ⟨_, kept⟩) poolId pool has
  · rw [writes poolId] at has
    split at has
    · cases has
      exact effect_listed valid guard effect
    · exact valid poolId pool has
  · exact valid poolId pool (kept poolId ▸ has)

theorem step_counts (input : ConvictionInput) (guard : VotersGuard pre input)
    (valid : VotersListed pre) : CountsVotersOnce ⟨pre, input, convictionStep input pre⟩ := by
  obtain ⟨env, call⟩ := input
  cases call with
  | update target proposalId =>
    intro accepts hit lookup
    obtain ⟨value, gave⟩ := gave_of_accepts accepts
    change (convictionStep _ pre).proposal target proposalId = some hit at lookup
    rcases wp_ok (exec_outcome _) gave with ⟨touched, written, effect, writes⟩ | ⟨quiet, _⟩
    · -- Both ways to recompute store the refreshed votes with their total.
      have counted : ∀ {pool : ConvictionVotingPool} {proposal : ConvictionProposal}
          {votes : Table Address ConvictionVote} {total : Int},
          pre.pool target = some pool → pool.proposals.lookup proposalId = some proposal →
          refreshVotes env.timestamp pre.calibrated proposal.voters proposal.votes 0 =
            (votes, total) →
          total = liveConviction env.timestamp pre.calibrated votes := by
        intro pool proposal votes total has listed refreshed
        apply refreshVotes_counts (valid _ _ has _ _ listed) refreshed
        exact guard proposal (by rw [proposal_of_listed has, listed])
      cases effect with
      | update has listed refreshed =>
        have reached := (writes target).trans (if_pos rfl)
        rw [convictionStep, proposal_of_listed reached, lookup_putProposal, if_pos rfl] at lookup
        cases lookup
        exact counted has listed refreshed
      | updateFunded has listed refreshed active covered =>
        have reached := (writes target).trans (if_pos rfl)
        rw [convictionStep, proposal_of_listed reached, lookup_putProposal, if_pos rfl] at lookup
        cases lookup
        exact counted has listed refreshed
    · cases quiet
  | _ => trivial

end Steps

/-- Along every run in which no voter who left a proposal votes on it anew and
convictions fit their type, every recomputation gives the sum of the convictions of the
distinct voters with a live vote. -/
theorem conviction_counts_voters_once (admin : Address) (inputs : List ConvictionInput)
    (guarded : ∀ taken ∈ trace convictionStep (.initial admin) inputs,
      VotersGuard taken.pre taken.input) :
    ∀ taken ∈ trace convictionStep (.initial admin) inputs, CountsVotersOnce taken := by
  intro taken mem
  have none_yet : VotersListed (.initial admin) := by
    intro poolId pool has
    cases has
  have listed := (transition_invariant convictionStep VotersListed VotersGuard
    (fun _ input guard valid => step_listed input guard valid) _ none_yet inputs guarded taken
    mem).1
  have stepped := transition_is_step convictionStep _ inputs taken mem
  obtain ⟨pre, input, after⟩ := taken
  obtain rfl : after = convictionStep input pre := stepped
  exact step_counts input (guarded _ mem) listed

section Runs

/-- A vote moved from one proposal to another, both recomputed a day later. -/
def movedVote : List ConvictionInput :=
  [⟨.at 0 0 [1], .createPool 1 (amountOf 1000) (amountOf 0) 1⟩,
    ⟨.at 0 0 [2], .createProposal 1 2 "grant" (amountOf 100) 3⟩,
    ⟨.at 0 0 [2], .createProposal 1 2 "other" (amountOf 100) 3⟩,
    ⟨.at 0 0 [4], .vote 1 1 4 (amountOf 100000)⟩,
    ⟨.at 0 0 [5], .vote 1 1 5 (amountOf 100000)⟩,
    ⟨.at 0 0 [4], .change 1 1 2 4⟩,
    ⟨.at 86400 0 [], .update 1 1⟩,
    ⟨.at 86400 0 [], .update 1 2⟩]

/-- A voter who withdraws and votes again, and a recomputation a day later. -/
def votedAgain : List ConvictionInput :=
  [⟨.at 0 0 [1], .createPool 1 (amountOf 1000) (amountOf 0) 1⟩,
    ⟨.at 0 0 [2], .createProposal 1 2 "grant" (amountOf 100) 3⟩,
    ⟨.at 0 0 [4], .vote 1 1 4 (amountOf 100000)⟩,
    ⟨.at 0 0 [4], .withdraw 1 1 4⟩,
    ⟨.at 0 0 [4], .vote 1 1 4 (amountOf 100000)⟩,
    ⟨.at 86400 0 [], .update 1 1⟩]

/-- Moving a vote keeps every recomputation exact. -/
theorem movedVote_counted : (trace convictionStep (.initial 1) movedVote).length = 8 ∧
      ∀ taken ∈ trace convictionStep (.initial 1) movedVote, CountsVotersOnce taken :=
  ⟨by decide, conviction_counts_voters_once 1 movedVote (by decide)⟩

/-- A voter who withdrew and voted again is counted twice. -/
theorem voter_counted_twice : ¬ ∀ (admin : Address) (inputs : List ConvictionInput),
      ∀ taken ∈ trace convictionStep (.initial admin) inputs, CountsVotersOnce taken := by
  intro every
  have counted := every 1 votedAgain
  have twice : ¬ ∀ taken ∈ trace convictionStep (.initial 1) votedAgain,
      CountsVotersOnce taken := by
    decide
  exact twice counted

end Runs

end StellarSwipe.Governance
