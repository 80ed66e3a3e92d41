import StellarSwipe.Governance.BallotRuns

/-!
# The ledger of vote credits

Whatever is called, a user's credits are available or used, and a ballot costs the square of its
votes.
-/

namespace StellarSwipe.Governance

open FixedWidth Program Runs Table

/-- What a user's ballots cost together. -/
def QuadraticState.spentBy (state : QuadraticState) (user : Address) : Int :=
  sum (fun key ballot => if key.2 = user then ballot.creditsSpent else 0) state.ballots

/-- The ledger of credits, and what was used of them where that is what ballots cost. -/
structure CreditsKept (spends : Prop) (state : QuadraticState) : Prop where
  balanced : ∀ user credits, state.credits.lookup user = some credits →
    credits.availableCredits + credits.usedCredits = credits.totalCredits
  squared : ∀ key ballot, state.ballots.lookup key = some ballot → 0 < ballot.votesAllocated ∧
    ballot.creditsSpent = ballot.votesAllocated * ballot.votesAllocated
  spent : spends → ∀ user credits, state.credits.lookup user = some credits →
    credits.usedCredits = state.spentBy user

/-- Credits are allocated to users without ballots, and refunds find none. -/
def SpendGuard (store : GovStore) (call : GovernanceCall) : Prop :=
  match call with
  | .quadratic (.allocate user) => store.quadratic.spentBy user = 0
  | .quadratic (.refund proposalId) => ∀ voter ∈ store.quadratic.votersOf proposalId,
    store.quadratic.ballots.lookup (proposalId, voter) = none
  | _ => True

instance (store : GovStore) (call : GovernanceCall) : Decidable (SpendGuard store call) := by
  unfold SpendGuard
  split <;> infer_instance

section Credits

variable {spends : Prop} {state after : QuadraticState} {proposalId : Nat} {voter : Address}

/-- Writing the credits of one user, where the ballots of others cost what they did. -/
theorem CreditsKept.writes (kept : CreditsKept spends state) {credits : VoteCredits}
    (written : after.credits = state.credits.insert voter credits)
    (splits : credits.availableCredits + credits.usedCredits = credits.totalCredits)
    (squared : ∀ key ballot, after.ballots.lookup key = some ballot → 0 < ballot.votesAllocated ∧
      ballot.creditsSpent = ballot.votesAllocated * ballot.votesAllocated)
    (used : spends → credits.usedCredits = after.spentBy voter ∧
      ∀ user ≠ voter, after.spentBy user = state.spentBy user) : CreditsKept spends after := by
  refine ⟨fun user has hit => ?_, squared, fun exact user has hit => ?_⟩
  all_goals rw [written, lookup_insert] at hit; split at hit
  · cases hit
    exact splits
  · exact kept.balanced user has hit
  next here =>
    cases hit
    exact here ▸ (used exact).1
  next apart => exact (kept.spent exact user has hit).trans ((used exact).2 user apart).symm

variable {env : Env} {pre ended : GovStore}

theorem BallotCast.credits (kept : CreditsKept spends pre.quadratic) {votes : Int}
    {voteType : VoteType} (cast : BallotCast env pre proposalId voter votes voteType ended) :
    CreditsKept spends ended.quadratic := by
  obtain @⟨_, credits, has, isOpen, fresh, credited, pos, affordable⟩ := cast
  have costs (user : Address) : sum (fun key ballot => if key.2 = user then ballot.creditsSpent
      else 0) (pre.quadratic.ballots.insert (proposalId, voter)
        ⟨votes, votes * votes, voteType⟩) = pre.quadratic.spentBy user +
          if voter = user then votes * votes else 0 := by
    rw [sum_insert, contribution_of_none fresh, sub_zero]
    rfl
  refine kept.writes rfl ?_ (fun key ballot hit => ?_) fun exact => ⟨?_, fun user apart => ?_⟩
  · have := kept.balanced voter credits credited
    simp only [VoteCredits.spent]
    omega
  · have hit : (pre.quadratic.ballots.insert (proposalId, voter) _).lookup key = _ := hit
    rw [lookup_insert] at hit
    split at hit
    next =>
      cases hit
      exact ⟨pos, rfl⟩
    next => exact kept.squared key ballot hit
  · refine Eq.trans ?_ (costs voter).symm
    rw [if_pos rfl, ← kept.spent exact voter credits credited]
    rfl
  · exact (costs user).trans (by rw [if_neg apart.symm, Int.add_zero])

theorem CreditsKept.takeBack (kept : CreditsKept spends pre.quadratic) {proposal : Proposal}
    {previous : QuadraticVote} {credits : VoteCredits}
    (recorded : pre.quadratic.ballots.lookup (proposalId, voter) = some previous)
    (credited : pre.quadratic.credits.lookup voter = some credits) : CreditsKept spends
      (pre.takeBack proposalId voter proposal previous credits).quadratic := by
  have costs (user : Address) : sum (fun key ballot => if key.2 = user then ballot.creditsSpent
      else 0) (pre.quadratic.ballots.erase (proposalId, voter)) =
        pre.quadratic.spentBy user - if voter = user then previous.creditsSpent else 0 := by
    rw [sum_erase, contribution_of_some recorded]
    rfl
  refine kept.writes rfl ?_ (fun key ballot hit => ?_) fun exact => ⟨?_, fun user apart => ?_⟩
  · have := kept.balanced voter credits credited
    simp only [VoteCredits.released]
    omega
  · have hit : (pre.quadratic.ballots.erase (proposalId, voter)).lookup key = _ := hit
    rw [lookup_erase] at hit
    split at hit
    next => cases hit
    next => exact kept.squared key ballot hit
  · refine Eq.trans ?_ (costs voter).symm
    rw [if_pos rfl, ← kept.spent exact voter credits credited]
    rfl
  · exact (costs user).trans (by rw [if_neg apart.symm, Int.sub_zero])

/-- A voter is refunded nothing where what is used is what ballots cost. -/
theorem refundVoter_credits (kept : CreditsKept spends pre.quadratic)
    (unballoted : spends → pre.quadratic.ballots.lookup (proposalId, voter) = none) :
    wlp (refundVoter proposalId voter) (fun _ after => CreditsKept spends after.quadratic ∧
      after.quadratic.ballots = pre.quadratic.ballots) pre := by
  simp only [refundVoter, wp_rules]
  cases cast : pre.quadratic.ballots.lookup (proposalId, voter) with
  | none => exact ⟨kept, rfl⟩
  | some ballot =>
    simp only [wp_rules]
    cases credited : pre.quadratic.credits.lookup voter with
    | none => exact ⟨kept, rfl⟩
    | some credits =>
      simp only [wp_rules, wp_release, wp_putQuadratic]
      refine fun _ _ => ⟨kept.writes rfl ?_ kept.squared fun exact => ?_, rfl⟩
      · have := kept.balanced voter credits credited
        simp only [VoteCredits.released]
        omega
      · cases cast.symm.trans (unballoted exact)

theorem QuadraticEffect.credits (kept : CreditsKept spends pre.quadratic) {call : QuadraticCall}
    (effect : QuadraticEffect env pre call ended) (unrefunded : ∀ refunded, call ≠ .refund refunded)
    (guard : spends → SpendGuard pre (.quadratic call)) : CreditsKept spends ended.quadratic := by
  cases effect with
  | configure | verify => exact ⟨kept.balanced, kept.squared, kept.spent⟩
  | allocate =>
    exact kept.writes rfl (Int.add_zero _) kept.squared fun exact =>
      ⟨(guard exact).symm, fun _ _ => rfl⟩
  | @verifyWithBonus user _ identities credits credited =>
    refine kept.writes rfl ?_ kept.squared fun exact =>
      ⟨kept.spent exact user credits credited, fun _ _ => rfl⟩
    have := kept.balanced user credits credited
    simp only [VoteCredits.raised]
    omega
  | cast cast => exact cast.credits kept
  | reallocate has recorded credited cast => exact cast.credits (kept.takeBack recorded credited)
  | refund => exact absurd rfl (unrefunded _)

theorem QuadraticCall.exec_credits (kept : CreditsKept spends pre.quadratic)
    (call : QuadraticCall) (guard : spends → SpendGuard pre (.quadratic call)) :
    wlp (call.exec env) (fun _ after => CreditsKept spends after.quadratic) pre := by
  by_cases refunds : ∃ refunded, call = .refund refunded
  · obtain ⟨refunded, rfl⟩ := refunds
    simp only [exec, refundCreditsOnFailure, wlp_rules, wp_getProposal]
    intro _ _ _
    refine wp_then (@each_rule _ _ _ _ (fun _ _ => True) (fun _ after =>
      CreditsKept spends after.quadratic ∧ after.quadratic.ballots = pre.quadratic.ballots)
        (pre.quadratic.votersOf refunded) [] ?_ pre ⟨kept, rfl⟩) fun _ _ kept => kept.1
    rintro _ voter middle mem ⟨kept, same⟩
    refine wp_then (refundVoter_credits kept fun exact => ?_) fun _ _ later =>
      ⟨later.1, later.2.trans same⟩
    exact same ▸ guard exact voter mem
  · exact wp_then (call.exec_effect env) fun _ _ effect =>
      effect.credits kept (fun refunded called => refunds ⟨refunded, called⟩) guard

theorem GovernanceEffect.quadratic_same {call : GovernanceCall}
    (effect : GovernanceEffect env pre call ended)
    (other : ∀ quadratic, call ≠ .quadratic quadratic) : ended.quadratic = pre.quadratic := by
  cases effect with
  | settings effect => exact effect.redecided.quadratic
  | power effect => exact effect.redecided.quadratic
  | treasury call effect => exact effect.redecided.quadratic
  | timelock effect => exact effect.redecided.quadratic
  | quadratic effect => exact absurd rfl (other _)
  | reputationVote score effect => cases effect; rfl
  | proposal effect =>
    cases effect with
    | create | cancel => rfl
    | castVote cast => cases cast; rfl
    | finalize finalized => exact finalized.redecided.quadratic
    | execute executed => exact executed.redecided.quadratic

end Credits

/-- Along every run of the contract credits are available or used and ballots cost the square of
their votes; and what is used is what ballots cost if every step of the run meets the guard. -/
theorem vote_credits_kept (admin : Address) (balances : Table Address Int) (holders : List Address)
    (totalSupply : Int) (timestamp sequence : Nat) (inputs : List GovernanceInput) :
    let start := governanceStart admin balances holders totalSupply timestamp sequence
    CreditsKept (∀ taken ∈ trace governanceStep start inputs,
        SpendGuard taken.pre.store taken.input.call)
      (final governanceStep start inputs).store.quadratic := by
  intro start
  generalize guards : (∀ taken ∈ trace governanceStep start inputs,
    SpendGuard taken.pre.store taken.input.call) = spends
  refine guarded_invariant governanceStep (fun ledger => CreditsKept spends ledger.store.quadratic)
    (fun ledger input => spends → SpendGuard ledger.store input.call) ?_ start ?_ inputs
    fun taken mem exact => guards.mpr exact taken mem
  · rintro ledger ⟨arrival, call⟩ guard kept
    rcases GovTransition.cases ledger ⟨arrival, call⟩ with ⟨returns, effect⟩ | ⟨_, same⟩
    · by_cases votes : ∃ quadratic, call = .quadratic quadratic
      · obtain ⟨quadratic, rfl⟩ := votes
        obtain ⟨_, gave⟩ := gave_of_accepts returns
        exact wp_ok (quadratic.exec_credits kept guard) gave
      · exact effect.quadratic_same (fun call called => votes ⟨call, called⟩) ▸ kept
    · exact same ▸ kept
  · exact ⟨fun _ _ hit => absurd hit.symm (Option.some_ne_none _),
      fun _ _ hit => absurd hit.symm (Option.some_ne_none _),
      fun _ _ _ hit => absurd hit.symm (Option.some_ne_none _)⟩

/-- A vote of five that is lowered to three: what is used is what the ballot costs. -/
theorem lowered_vote_spent :
    CreditsKept True (final governanceStep votingHolders ballotsOfBoth).store.quadratic := by
  have guards : ∀ taken ∈ trace governanceStep votingHolders ballotsOfBoth,
      SpendGuard taken.pre.store taken.input.call := by decide +kernel
  have kept := vote_credits_kept 9 (AList.insert 1 5000 (AList.insert 2 5000 ∅)) [1, 2] 10000 0 0
    ballotsOfBoth
  dsimp only at kept
  rw [← votingHolders] at kept
  exact ⟨kept.balanced, kept.squared, fun _ => kept.spent guards⟩

end StellarSwipe.Governance
