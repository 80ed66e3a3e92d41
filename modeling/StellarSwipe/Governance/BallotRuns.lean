import StellarSwipe.Governance.Ballots

/-!
# Ballots stay in order

The vote with the power of the snapshot looks at the votes recorded in the proposal and at the
discussion; the quadratic ballot at quadratic ballots alone.
-/

namespace StellarSwipe.Governance

open FixedWidth Program Runs Table Proposal GovStore Range QuadraticVote

/-- The power of the snapshot raised by a reputation score. -/
def reputationWeight (store : GovStore) (proposalId : Nat) (voter : Address)
    (reputationScore : Nat) : Int :=
  (voteSnapshot store proposalId voter *
    (satCount u32Max 10000 (reputationScore / 2) : Nat)).tdiv 10000

/-- The condition on a step. A new proposal takes an unused id. A vote is cast by somebody
without a quadratic ballot on the proposal. A quadratic ballot is cast by somebody without
such a vote, after the discussion. No tally saturates. -/
def BallotGuard (ledger : Ledger GovStore) (input : GovernanceInput) : Prop :=
  match input.call with
  | .proposal (.create _ _ _ _ _ _ _) =>
    ledger.store.proposal ledger.store.proposals.nextProposalId = none
  | .proposal (.castVote proposalId voter _) => ledger.store.ballot proposalId voter = none
  | .reputationVote proposalId voter voteType reputationScore =>
    ledger.store.ballot proposalId voter = none ∧
      ∀ proposal ∈ ledger.store.proposal proposalId, i128.Holds (proposal.tallyOf voteType +
        reputationWeight ledger.store proposalId voter reputationScore)
  | .quadratic (.cast proposalId voter votesDesired voteType) =>
    ∀ proposal ∈ ledger.store.proposal proposalId, proposal.voters.lookup voter = none ∧
      proposal.discussionEndsAt ≤ (ledger.env input.arrival).timestamp ∧
      i128.Holds (proposal.tallyOf voteType + votesDesired)
  | .quadratic (.reallocate proposalId voter newVotesDesired voteType) =>
    ∀ proposal ∈ ledger.store.proposal proposalId, i128.Holds (proposal.tallyOf voteType -
        ballotWeight voteType (ledger.store.ballot proposalId voter) + newVotesDesired)
  | _ => True

instance (ledger : Ledger GovStore) (input : GovernanceInput) :
    Decidable (BallotGuard ledger input) := by
  unfold BallotGuard
  split <;> infer_instance

variable (proposal : Proposal) (voteType : VoteType)

theorem Proposal.tallyOf_tallied (other : VoteType) (change : Int → Int) :
    (proposal.tallied voteType change).tallyOf other =
      if voteType = other then change (proposal.tallyOf other) else proposal.tallyOf other := by
  cases voteType <;> cases other <;> rfl

@[simp] theorem Proposal.tallied_voters (change : Int → Int) :
    (proposal.tallied voteType change).voters = proposal.voters := by
  cases voteType <;> rfl

@[simp] theorem Proposal.tallied_discussionEndsAt (change : Int → Int) :
    (proposal.tallied voteType change).discussionEndsAt = proposal.discussionEndsAt := by
  cases voteType <;> rfl

theorem Proposal.tallyOf_withVote (voter : Address) (vote : Vote) (other : VoteType)
    (change : Int → Int) : (proposal.withVote voter vote change).tallyOf other =
      if vote.voteType = other then change (proposal.tallyOf other) else proposal.tallyOf other := by
  rw [← proposal.tallyOf_tallied vote.voteType other change]
  cases other <;> rfl

theorem Proposal.tallyOf_withBallot (other : VoteType) (change : Int → Int) :
    (proposal.withBallot voteType change).tallyOf other =
      if voteType = other then change (proposal.tallyOf other) else proposal.tallyOf other := by
  rw [← proposal.tallyOf_tallied voteType other change]
  cases other <;> rfl

theorem Proposal.tallyOf_undecided :
    proposal.undecided.tallyOf voteType = proposal.tallyOf voteType := by
  cases voteType <;> rfl

section Calls

variable {env : Env} {pre after : GovStore} {timestamp now proposalId : Nat}

theorem reputationVote_adds (env : Env) (voted : Nat) (voter : Address)
    (voteType : VoteType) (reputationScore : Nat) :
    wlp ((GovernanceCall.reputationVote voted voter voteType reputationScore).exec env)
      (fun _ after => ∃ proposal, VoteAdmitted env pre voted voter proposal ∧
        0 ≤ reputationWeight pre voted voter reputationScore ∧
        after = pre.putProposal voted (proposal.withVote voter
          ⟨voteType, reputationWeight pre voted voter reputationScore, env.timestamp⟩
          fun tally => i128.saturatingAdd tally
            (reputationWeight pre voted voter reputationScore))) pre := by
  simp only [GovernanceCall.exec, castReputationWeightedVote, wlp_rules, wp_initialized,
    wp_auth, wp_getProposal, wp_putProposal]
  intro _ _ proposal has discussed _ _ isOpen fresh pos scaled multiplied _
  obtain ⟨_, rfl⟩ := checkedMul_ok multiplied
  have power : 0 ≤ voteSnapshot pre voted voter := by omega
  exact ⟨proposal, ⟨has, by omega, isOpen, fresh⟩,
    Int.tdiv_nonneg (mul_nonneg power (Int.natCast_nonneg _)) (by decide), rfl⟩

theorem BallotStep.untouched (same : after.proposal proposalId = pre.proposal proposalId)
    (ballots : ∀ voter, after.ballot proposalId voter = pre.ballot proposalId voter) :
    BallotStep pre after now proposalId := by
  cases hit : pre.proposal proposalId with
  | none => exact .absent hit (same.trans hit) ballots
  | some proposal => exact .kept hit (same.trans hit) ⟨rfl, fun _ => rfl, rfl⟩ ballots

theorem BallotStep.of_undecided (quadratic : after.quadratic = pre.quadratic)
    (same : (after.proposal proposalId).map undecided =
      (pre.proposal proposalId).map undecided) : BallotStep pre after now proposalId := by
  have ballots : ∀ voter, after.ballot proposalId voter = pre.ballot proposalId voter := by
    intro voter
    rw [ballot, quadratic]
    rfl
  cases hit : pre.proposal proposalId with
  | none =>
    rw [hit, Option.map_none, Option.map_eq_none_iff] at same
    exact .absent hit same ballots
  | some proposal =>
    rw [hit, Option.map_some] at same
    obtain ⟨later, has, same⟩ := Option.map_eq_some_iff.mp same
    have voters : later.undecided.voters = proposal.undecided.voters := congrArg _ same
    have discussion : later.undecided.discussionEndsAt = proposal.undecided.discussionEndsAt :=
      congrArg _ same
    refine .kept hit has ⟨voters, fun voteType => ?_, discussion⟩ ballots
    rw [← later.tallyOf_undecided, same, proposal.tallyOf_undecided]

theorem Redecided.ballotStep (redecided : Redecided pre after) :
    BallotStep pre after now proposalId :=
  .of_undecided redecided.quadratic (redecided.proposals proposalId)

theorem VoteAdmitted.ballotStep (kept : BallotsKept pre timestamp proposalId) {voted : Nat}
    {voter : Address} {proposal : Proposal} {vote : Vote} {change : Int → Int}
    (admitted : VoteAdmitted env pre voted voter proposal) (nonneg : 0 ≤ vote.votingPower)
    (unballoted : pre.ballot voted voter = none) (adds : change (proposal.tallyOf vote.voteType) =
      proposal.tallyOf vote.voteType + vote.votingPower)
    (fits : i128.Holds (proposal.tallyOf vote.voteType + vote.votingPower)) :
    BallotStep pre (pre.putProposal voted (proposal.withVote voter vote change))
      env.timestamp proposalId := by
  by_cases here : proposalId = voted
  · subst here
    have counted : ∀ voteType, (proposal.withVote voter vote change).tallyOf voteType =
        proposal.tallyOf voteType + vote.weight voteType := by
      intro voteType
      rw [tallyOf_withVote, Vote.weight]
      split
      next same => rw [← same, adds]
      next => rw [Int.add_zero]
    refine .voted admitted.has ((proposal_putProposal _ _ _ _).trans
      (if_pos rfl)) admitted.fresh unballoted admitted.discussed nonneg rfl counted
      (fun voteType => ?_) ?_ fun _ => rfl
    · rw [tallyOf_withVote]
      split
      next same => rwa [← same, adds]
      next => exact kept.held proposal voteType admitted.has
    · simp only [withVote, tallied_discussionEndsAt]
  · exact .untouched ((proposal_putProposal _ _ _ _).trans (if_neg here))
      fun _ => rfl

/-- The storage from which a ballot is cast: the voter's previous ballot, if there was one,
is taken out of the ballots and out of the tallies. -/
structure TakenBack (pre middle : GovStore) (voted : Nat) (voter : Address)
    (proposal rest : Proposal) : Prop where
  has : pre.proposal voted = some proposal
  proposals : ∀ other, middle.proposal other =
    if other = voted then some rest else pre.proposal other
  ballots : ∀ other someone, middle.ballot other someone =
    if other = voted ∧ someone = voter then none else pre.ballot other someone
  voters : rest.voters = proposal.voters
  discussion : rest.discussionEndsAt = proposal.discussionEndsAt
  tallies : ∀ voteType, rest.tallyOf voteType =
    proposal.tallyOf voteType - ballotWeight voteType (pre.ballot voted voter)

theorem TakenBack.of_fresh {voted : Nat} {voter : Address} {proposal : Proposal}
    (has : pre.proposal voted = some proposal) (fresh : pre.ballot voted voter = none) :
    TakenBack pre pre voted voter proposal proposal := by
  refine ⟨has, fun other => ?_, fun other someone => ?_, rfl, rfl, fun voteType => ?_⟩
  · split
    next same => rw [same, has]
    next => rfl
  · split
    next same => rw [same.1, same.2, fresh]
    next => rfl
  · simp [fresh, ballotWeight]

variable {previous : QuadraticVote}

/-- Taking back is exact while the tally stays within its type. -/
theorem TakenBack.of_previous {voted : Nat} {voter : Address} {proposal : Proposal}
    (credits : VoteCredits) (has : pre.proposal voted = some proposal)
    (recorded : pre.ballot voted voter = some previous)
    (fits : i128.Holds (proposal.tallyOf previous.voteType - previous.votesAllocated)) :
    TakenBack pre (pre.takeBack voted voter proposal previous credits) voted voter proposal
      (proposal.tallied previous.voteType fun tally =>
        i128.saturatingSub tally previous.votesAllocated) := by
  refine ⟨has, pre.proposal_takeBack voted voter proposal previous credits,
    fun other someone => ?_, proposal.tallied_voters _ _, proposal.tallied_discussionEndsAt _ _,
    fun voteType => ?_⟩
  · have erased := lookup_erase pre.quadratic.ballots (voted, voter) (other, someone)
    simp only [Prod.mk.injEq] at erased
    exact erased
  · rw [tallyOf_tallied, recorded, ballotWeight, Option.map_some, Option.getD_some,
      weight]
    split
    next same => rw [← same, saturatingSub, clamp_of_holds _ fits]
    next => rw [Int.sub_zero]

variable {middle : GovStore} {voted : Nat} {voter : Address} {votes : Int}
  {voteType : VoteType} {proposal rest : Proposal}

theorem BallotCast.ballots (cast : BallotCast env middle voted voter votes voteType after)
    (other : Nat) (someone : Address) : after.ballot other someone =
      if other = voted ∧ someone = voter then some ⟨votes, votes * votes, voteType⟩
      else middle.ballot other someone := by
  obtain ⟨has, isOpen, fresh, credited, pos, affordable⟩ := cast
  have inserted := lookup_insert middle.quadratic.ballots (voted, voter)
    (other, someone) ⟨votes, votes * votes, voteType⟩
  simp only [Prod.mk.injEq] at inserted
  exact inserted

theorem BallotCast.pos (cast : BallotCast env middle voted voter votes voteType after) :
    0 < votes := by
  obtain ⟨_, _, _, _, pos, _⟩ := cast
  exact pos

theorem TakenBack.elsewhere (back : TakenBack pre middle voted voter proposal rest)
    (cast : BallotCast env middle voted voter votes voteType after)
    (distinct : proposalId ≠ voted) : BallotStep pre after now proposalId := by
  obtain ⟨_, _, _, written⟩ := cast.written
  refine .untouched ?_ fun someone => ?_
  · rw [written, if_neg distinct, back.proposals, if_neg distinct]
  · rw [cast.ballots, back.ballots, if_neg (not_and_of_not_left _ distinct),
      if_neg (not_and_of_not_left _ distinct)]

theorem TakenBack.ballotStep (back : TakenBack pre middle voted voter proposal rest)
    (cast : BallotCast env middle voted voter votes voteType after)
    (admitted : pre.ballot voted voter = none →
      proposal.voters.lookup voter = none ∧ proposal.discussionEndsAt ≤ now)
    (held : ∀ other, i128.Holds (rest.tallyOf other))
    (fits : i128.Holds (rest.tallyOf voteType + votes)) : BallotStep pre after now voted := by
  obtain ⟨hit, has, _, written⟩ := cast.written
  rw [back.proposals, if_pos rfl, Option.some.injEq] at has
  subst has
  have counted : ∀ other, (rest.withBallot voteType fun tally =>
      i128.saturatingAdd tally votes).tallyOf other =
        rest.tallyOf other + weight other ⟨votes, votes * votes, voteType⟩ := by
    intro other
    rw [tallyOf_withBallot, weight]
    split
    next same => rw [← same, saturatingAdd, clamp_of_holds _ fits]
    next => rw [Int.add_zero]
  have nonneg : 0 ≤ QuadraticVote.votesAllocated ⟨votes, votes * votes, voteType⟩ :=
    cast.pos.le
  refine .balloted back.has ((written voted).trans (if_pos rfl)) admitted nonneg ?_
    (fun other => ?_) (fun other => ?_) ?_ fun someone => ?_
  · simp only [withBallot, tallied_voters, back.voters]
  · rw [counted, back.tallies]
  · rw [counted, weight]
    split
    next same => exact same ▸ fits
    next => simpa only [Int.add_zero] using held other
  · simp only [withBallot, tallied_discussionEndsAt, back.discussion]
  · rw [cast.ballots, back.ballots]
    simp only [true_and]
    split <;> rfl

theorem BallotsKept.rest_holds (kept : BallotsKept pre timestamp voted) {voter : Address}
    (has : pre.proposal voted = some proposal)
    (recorded : pre.ballot voted voter = some previous) :
    i128.Holds (proposal.tallyOf previous.voteType - previous.votesAllocated) := by
  have ballots : ∀ key ballot, pre.quadratic.ballots.lookup (voted, key) = some ballot →
      0 ≤ weight previous.voteType ballot := by
    intro key ballot hit
    rw [weight]
    split
    · exact kept.ballots key ballot hit
    · exact le_refl 0
  have part := le_tally ballots recorded
  rw [weight, if_pos rfl] at part
  have powers : 0 ≤ Table.sum (fun _ vote => Vote.weight previous.voteType vote)
      proposal.voters := by
    refine sum_nonneg fun someone vote hit => ?_
    rw [Vote.weight]
    split
    · exact kept.powers proposal someone vote has hit
    · exact le_refl 0
  have whole := kept.law.tallies proposal previous.voteType has
  have nonneg := kept.ballots voter previous recorded
  obtain ⟨above, below⟩ := kept.held proposal previous.voteType has
  rw [recordedVotes] at whole
  rw [i128_low] at above
  refine ⟨?_, by omega⟩
  rw [i128_low]
  omega

end Calls

section Steps

variable {ledger : Ledger GovStore} {input : GovernanceInput} {proposalId : Nat}
  {after : GovStore}

theorem QuadraticEffect.ballotStep {arrival : Arrival} {call : QuadraticCall}
    (effect : QuadraticEffect (ledger.env arrival) ledger.store call after)
    (guard : BallotGuard ledger ⟨arrival, .quadratic call⟩)
    (kept : ∀ proposalId, BallotsKept ledger.store ledger.timestamp proposalId) :
    BallotStep ledger.store after (ledger.env arrival).timestamp proposalId := by
  cases effect with
  | configure | allocate | verify | verifyWithBonus | refund =>
    exact .untouched rfl fun _ => rfl
  | @cast voted voter votes voteType after cast =>
    obtain ⟨proposal, has, _, fresh⟩ : ∃ proposal, ledger.store.proposal voted =
        some proposal ∧ proposal.IsOpen ∧ ledger.store.ballot voted voter = none := by
      obtain ⟨has, isOpen, fresh, credited, pos, affordable⟩ := cast
      exact ⟨_, has, isOpen, fresh⟩
    have back := TakenBack.of_fresh has fresh
    obtain ⟨unvoted, discussed, fits⟩ := guard proposal has
    by_cases here : proposalId = voted
    · subst here
      exact back.ballotStep cast (fun _ => ⟨unvoted, discussed⟩)
        (fun other => (kept proposalId).held proposal other has) fits
    · exact back.elsewhere cast here
  | @reallocate voted voter votes voteType proposal previous credits after has recorded
      credited cast =>
    have back := TakenBack.of_previous credits has recorded
      ((kept voted).rest_holds has recorded)
    have fits := guard proposal has
    by_cases here : proposalId = voted
    · subst here
      refine back.ballotStep cast (fun fresh => ?_) (fun other => ?_) ?_
      · rw [ballot, recorded] at fresh
        cases fresh
      · rw [tallyOf_tallied]
        split
        · exact i128.clamp_holds _
        · exact (kept proposalId).held proposal other has
      · rw [back.tallies]
        exact fits
    · exact back.elsewhere cast here

theorem GovernanceEffect.ballotStep {arrival : Arrival} {call : GovernanceCall}
    (effect : GovernanceEffect (ledger.env arrival) ledger.store call after)
    (guard : BallotGuard ledger ⟨arrival, call⟩)
    (kept : ∀ proposalId, BallotsKept ledger.store ledger.timestamp proposalId)
    (unweighted : ∀ voted voter voteType score, call ≠ .reputationVote voted voter voteType score) :
    BallotStep ledger.store after (ledger.env arrival).timestamp proposalId := by
  cases effect with
  | settings effect => exact effect.redecided.ballotStep
  | power effect => exact effect.redecided.ballotStep
  | treasury call effect => exact effect.redecided.ballotStep
  | proposal effect =>
    cases effect with
    | @create proposer proposalType title description payload category quadratic proposal isNew
        snapshots tokens staked deposits =>
      have unused : ledger.store.proposal ledger.store.proposals.nextProposalId = none := guard
      have written := lookup_insert ledger.store.proposals.proposals
        ledger.store.proposals.nextProposalId proposalId proposal
      by_cases here : proposalId = ledger.store.proposals.nextProposalId
      · subst here
        exact .made unused (written.trans (if_pos rfl)) isNew fun _ => rfl
      · exact .untouched (written.trans (if_neg here)) fun _ => rfl
    | castVote cast =>
      obtain ⟨admitted, pos, counted⟩ := cast
      exact admitted.ballotStep (kept proposalId) pos.le guard rfl counted
    | finalize finalized staked deposits =>
      exact .of_undecided finalized.redecided.quadratic (finalized.redecided.proposals proposalId)
    | execute executed => exact executed.redecided.ballotStep
    | cancel has unexecuted =>
      refine Redecided.ballotStep (.putProposal _ has ?_)
      rfl
  | timelock effect => exact effect.redecided.ballotStep
  | quadratic effect => exact effect.ballotStep guard kept
  | reputationVote score effect => exact absurd rfl (unweighted _ _ _ score)

theorem step_ballots (guard : BallotGuard ledger input)
    (kept : ∀ proposalId, BallotsKept ledger.store ledger.timestamp proposalId) (proposalId : Nat) :
    BallotsKept (governanceStep input ledger).store (governanceStep input ledger).timestamp
      proposalId := by
  refine (kept proposalId).step (Nat.le_add_right _ input.arrival.seconds) ?_
  obtain ⟨arrival, call⟩ := input
  rcases GovTransition.cases ledger ⟨arrival, call⟩ with ⟨returns, effect⟩ | ⟨_, same⟩
  · by_cases weighted : ∃ voted voter voteType score,
        call = .reputationVote voted voter voteType score
    · obtain ⟨voted, voter, voteType, score, rfl⟩ := weighted
      obtain ⟨unballoted, fits⟩ := guard
      obtain ⟨_, gave⟩ := gave_of_accepts returns
      obtain ⟨proposal, admitted, nonneg, written⟩ :=
        wp_ok (reputationVote_adds (ledger.env arrival) voted voter voteType score) gave
      have exactly := fits proposal admitted.has
      have after : (governanceStep ⟨arrival, .reputationVote voted voter voteType score⟩
        ledger).store = _ := written
      rw [after]
      exact admitted.ballotStep (kept proposalId) nonneg unballoted
        (clamp_of_holds _ exactly) exactly
    · exact effect.ballotStep guard kept
        fun voted voter voteType score called => weighted ⟨voted, voter, voteType, score, called⟩
  · exact .untouched (congrArg (fun store => store.proposal proposalId) same)
      fun voter => congrArg (fun store => store.ballot proposalId voter) same

end Steps

/-- Along every run whose steps meet the guard the ballots of every proposal are in order. -/
theorem ballots_in_order (admin : Address) (balances : Table Address Int)
    (holders : List Address) (totalSupply : Int) (timestamp sequence : Nat)
    (inputs : List GovernanceInput) (guarded : ∀ taken ∈ trace governanceStep
      (governanceStart admin balances holders totalSupply timestamp sequence) inputs,
      BallotGuard taken.pre taken.input) (proposalId : Nat) : BallotLaw (final governanceStep
        (governanceStart admin balances holders totalSupply timestamp sequence) inputs).store
      (final governanceStep
        (governanceStart admin balances holders totalSupply timestamp sequence) inputs).timestamp
      proposalId := by
  have initially : ∀ proposalId, BallotsKept
      (governanceStart admin balances holders totalSupply timestamp sequence).store timestamp
      proposalId := by
    intro proposalId
    have never : ∀ {claim : Prop} {proposal : Proposal}, (governanceStart admin balances holders
        totalSupply timestamp sequence).store.proposal proposalId = some proposal → claim := by
      intro claim proposal hit
      cases hit
    refine ⟨⟨fun _ _ => never, fun _ => never, fun _ _ => never⟩, fun _ _ _ => never,
      fun voter ballot hit => ?_, fun _ _ => never, fun _ _ => rfl⟩
    cases hit
  have kept := guarded_invariant governanceStep
    (fun ledger => ∀ proposalId, BallotsKept ledger.store ledger.timestamp proposalId) BallotGuard
    (fun ledger input guard kept => step_ballots guard kept)
    (governanceStart admin balances holders totalSupply timestamp sequence) initially inputs guarded
  exact (kept proposalId).law

section Runs

/-- Two holders with five thousand tokens each. -/
def votingHolders : Ledger GovStore :=
  governanceStart 9 (AList.insert 1 5000 (AList.insert 2 5000 ∅)) [1, 2] 10000 0 0

/-- Both stake and receive quadratic credits, and the first makes a proposal and votes. -/
def votedByHolder : List GovernanceInput :=
  [⟨⟨0, 0, [1]⟩, .power (.stake 1 (amountOf 2000))⟩,
    ⟨⟨0, 0, [2]⟩, .power (.stake 2 (amountOf 2000))⟩,
    ⟨⟨0, 0, []⟩, .quadratic (.configure ⟨true, 1000000, 10000, false⟩)⟩,
    ⟨⟨0, 0, []⟩, .quadratic (.allocate 1)⟩,
    ⟨⟨0, 0, []⟩, .quadratic (.allocate 2)⟩,
    ⟨⟨0, 0, [1]⟩, .proposal (.create 1 (.signalProposal "signal") "Signal" "A signal" []
      .general false)⟩,
    ⟨⟨60, 0, [1]⟩, .proposal (.castVote 1 1 .for)⟩]

def ballotsOfBoth : List GovernanceInput :=
  votedByHolder ++ [⟨⟨1, 0, [2]⟩, .quadratic (.cast 1 2 (amountOf 5) .against)⟩,
    ⟨⟨1, 0, [2]⟩, .quadratic (.reallocate 1 2 (amountOf 3) .for)⟩]

def ballotsOfOne : List GovernanceInput :=
  votedByHolder ++ [⟨⟨1, 0, [1]⟩, .quadratic (.cast 1 1 (amountOf 5) .for)⟩]

theorem ballotsOfBoth_in_order : BallotLaw (final governanceStep votingHolders ballotsOfBoth).store
      (final governanceStep votingHolders ballotsOfBoth).timestamp 1 :=
  ballots_in_order 9 (AList.insert 1 5000 (AList.insert 2 5000 ∅)) [1, 2] 10000 0 0 ballotsOfBoth
    (by decide) 1

/-- Whoever voted casts a quadratic ballot on the same proposal. -/
theorem voter_casts_twice :
    ¬ ∀ (admin : Address) (balances : Table Address Int) (holders : List Address)
        (totalSupply : Int) (timestamp sequence : Nat) (inputs : List GovernanceInput)
        (proposalId : Nat), BallotLaw (final governanceStep
            (governanceStart admin balances holders totalSupply timestamp sequence) inputs).store
          (final governanceStep
            (governanceStart admin balances holders totalSupply timestamp sequence)
            inputs).timestamp proposalId := by
  intro every
  have law : BallotLaw (final governanceStep votingHolders ballotsOfOne).store
      (final governanceStep votingHolders ballotsOfOne).timestamp 1 :=
    every 9 (AList.insert 1 5000 (AList.insert 2 5000 ∅)) [1, 2] 10000 0 0 ballotsOfOne 1
  have both : ∃ proposal ∈ (final governanceStep votingHolders ballotsOfOne).store.proposal 1,
      ¬ (proposal.voters.lookup 1 = none) ∧
        ¬ (final governanceStep votingHolders ballotsOfOne).store.ballot 1 1 = none := by
    decide
  obtain ⟨proposal, has, voted, balloted⟩ := both
  exact (law.single proposal 1 has).elim voted balloted

end Runs

end StellarSwipe.Governance
