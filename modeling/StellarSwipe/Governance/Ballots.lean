import StellarSwipe.Governance.ContractEffects

/-!
# Ballots of a proposal

Votes with the power of the snapshot are recorded in the proposal, quadratic ballots beside it,
and both are added to the same tallies.
-/

namespace StellarSwipe.Governance

open FixedWidth Program Runs Table QuadraticVote

def Vote.weight (voteType : VoteType) (vote : Vote) : Int :=
  if vote.voteType = voteType then vote.votingPower else 0

def QuadraticVote.weight (voteType : VoteType) (ballot : QuadraticVote) : Int :=
  if ballot.voteType = voteType then ballot.votesAllocated else 0

def recordedVotes (quadratic : QuadraticState) (proposalId : Nat) (proposal : Proposal)
    (voteType : VoteType) : Int :=
  Table.sum (fun _ vote => vote.weight voteType) proposal.voters +
    Table.tally (weight voteType) quadratic.ballots proposalId

def GovStore.ballot (store : GovStore) (proposalId : Nat) (voter : Address) :
    Option QuadraticVote :=
  store.quadratic.ballots.lookup (proposalId, voter)

/-- The ballots of a proposal are in order at a time: one for each address, none while the
discussion lasts, and tallies that are their sums. -/
structure BallotLaw (store : GovStore) (timestamp proposalId : Nat) : Prop where
  single : ∀ proposal voter, store.proposal proposalId = some proposal →
    proposal.voters.lookup voter = none ∨ store.ballot proposalId voter = none
  discussed : ∀ proposal, store.proposal proposalId = some proposal →
    timestamp < proposal.discussionEndsAt → ∀ voter, proposal.voters.lookup voter = none ∧
      store.ballot proposalId voter = none
  tallies : ∀ proposal voteType, store.proposal proposalId = some proposal →
    proposal.tallyOf voteType = recordedVotes store.quadratic proposalId proposal voteType

/-- The order of ballots with what every step needs of the step before. -/
structure BallotsKept (store : GovStore) (timestamp proposalId : Nat) : Prop where
  law : BallotLaw store timestamp proposalId
  powers : ∀ proposal voter vote, store.proposal proposalId = some proposal →
    proposal.voters.lookup voter = some vote → 0 ≤ vote.votingPower
  ballots : ∀ voter ballot, store.ballot proposalId voter = some ballot →
    0 ≤ ballot.votesAllocated
  held : ∀ proposal voteType, store.proposal proposalId = some proposal →
    i128.Holds (proposal.tallyOf voteType)
  absent : store.proposal proposalId = none → ∀ voter, store.ballot proposalId voter = none

/-- Two versions of a proposal with the same votes. -/
structure SameVotes (prior later : Proposal) : Prop where
  voters : later.voters = prior.voters
  tallies : ∀ voteType, later.tallyOf voteType = prior.tallyOf voteType
  discussion : later.discussionEndsAt = prior.discussionEndsAt

def ballotWeight (voteType : VoteType) (ballot : Option QuadraticVote) : Int :=
  (ballot.map (weight voteType)).getD 0

inductive BallotStep (pre after : GovStore) (now proposalId : Nat) : Prop where
  /-- There is no proposal. -/
  | absent (missing : pre.proposal proposalId = none)
      (still : after.proposal proposalId = none)
      (ballots : ∀ voter, after.ballot proposalId voter = pre.ballot proposalId voter)
  /-- The proposal is made. -/
  | made {proposal : Proposal} (missing : pre.proposal proposalId = none)
      (has : after.proposal proposalId = some proposal) (isNew : proposal.IsNew)
      (ballots : ∀ voter, after.ballot proposalId voter = pre.ballot proposalId voter)
  /-- The proposal keeps its votes. -/
  | kept {prior later : Proposal} (hit : pre.proposal proposalId = some prior)
      (has : after.proposal proposalId = some later) (same : SameVotes prior later)
      (ballots : ∀ voter, after.ballot proposalId voter = pre.ballot proposalId voter)
  /-- A vote is added. -/
  | voted {prior later : Proposal} {voter : Address} {vote : Vote}
      (hit : pre.proposal proposalId = some prior)
      (has : after.proposal proposalId = some later)
      (fresh : prior.voters.lookup voter = none)
      (unballoted : pre.ballot proposalId voter = none)
      (discussed : prior.discussionEndsAt ≤ now) (nonneg : 0 ≤ vote.votingPower)
      (voters : later.voters = prior.voters.insert voter vote)
      (tallies : ∀ voteType, later.tallyOf voteType =
        prior.tallyOf voteType + vote.weight voteType)
      (held : ∀ voteType, i128.Holds (later.tallyOf voteType))
      (discussion : later.discussionEndsAt = prior.discussionEndsAt)
      (ballots : ∀ other, after.ballot proposalId other = pre.ballot proposalId other)
  /-- A ballot is cast for the first time, or again in place of the previous one. -/
  | balloted {prior later : Proposal} {voter : Address} {ballot : QuadraticVote}
      (hit : pre.proposal proposalId = some prior)
      (has : after.proposal proposalId = some later)
      (admitted : pre.ballot proposalId voter = none →
        prior.voters.lookup voter = none ∧ prior.discussionEndsAt ≤ now)
      (nonneg : 0 ≤ ballot.votesAllocated) (voters : later.voters = prior.voters)
      (tallies : ∀ voteType, later.tallyOf voteType = prior.tallyOf voteType -
        ballotWeight voteType (pre.ballot proposalId voter) + ballot.weight voteType)
      (held : ∀ voteType, i128.Holds (later.tallyOf voteType))
      (discussion : later.discussionEndsAt = prior.discussionEndsAt)
      (ballots : ∀ other, after.ballot proposalId other =
        if other = voter then some ballot else pre.ballot proposalId other)

section Steps

variable {pre after : GovStore} {timestamp now proposalId : Nat}

/-- The votes of a proposal that is stored are all there is to keep. -/
theorem BallotsKept.of_stored {proposal : Proposal}
    (has : after.proposal proposalId = some proposal)
    (single : ∀ voter, proposal.voters.lookup voter = none ∨ after.ballot proposalId voter = none)
    (discussed : now < proposal.discussionEndsAt → ∀ voter,
      proposal.voters.lookup voter = none ∧ after.ballot proposalId voter = none)
    (tallies : ∀ voteType, proposal.tallyOf voteType =
      recordedVotes after.quadratic proposalId proposal voteType)
    (powers : ∀ voter vote, proposal.voters.lookup voter = some vote → 0 ≤ vote.votingPower)
    (ballots : ∀ voter ballot, after.ballot proposalId voter = some ballot →
      0 ≤ ballot.votesAllocated) (held : ∀ voteType, i128.Holds (proposal.tallyOf voteType)) :
    BallotsKept after now proposalId := by
  have only : ∀ other, after.proposal proposalId = some other → other = proposal := by
    intro other hit
    exact Option.mem_unique hit has
  refine ⟨⟨?_, ?_, ?_⟩, ?_, ballots, ?_, ?_⟩
  · rintro other voter hit
    cases only other hit
    exact single voter
  · rintro other hit
    cases only other hit
    exact discussed
  · rintro other voteType hit
    cases only other hit
    exact tallies voteType
  · rintro other voter vote hit
    cases only other hit
    exact powers voter vote
  · rintro other voteType hit
    cases only other hit
    exact held voteType
  · intro missing
    rw [missing] at has
    cases has

theorem BallotsKept.made (kept : BallotsKept pre timestamp proposalId) {proposal : Proposal}
    (missing : pre.proposal proposalId = none) (has : after.proposal proposalId = some proposal)
    (isNew : proposal.IsNew)
    (ballots : ∀ voter, after.ballot proposalId voter = pre.ballot proposalId voter) :
    BallotsKept after now proposalId := by
  have none_cast : ∀ voter, after.ballot proposalId voter = none := by
    intro voter
    rw [ballots]
    exact kept.absent missing voter
  have unvoted : ∀ voter, proposal.voters.lookup voter = none := by
    intro voter
    rw [isNew.voters]
    rfl
  refine .of_stored has (fun voter => .inl (unvoted voter))
    (fun _ voter => ⟨unvoted voter, none_cast voter⟩) (fun voteType => ?_)
    (fun voter vote hit => ?_) (fun voter ballot hit => ?_) fun voteType => ?_
  · rw [isNew.unvoted, recordedVotes, isNew.voters, tally_absent none_cast]
    rfl
  · rw [unvoted] at hit
    cases hit
  · rw [none_cast] at hit
    cases hit
  · rw [isNew.unvoted]
    decide

/-- Whoever casts a ballot again was admitted when the first one was cast. -/
theorem BallotsKept.eligible (kept : BallotsKept pre timestamp proposalId)
    (passed : timestamp ≤ now) {prior : Proposal} {voter : Address}
    (hit : pre.proposal proposalId = some prior)
    (admitted : pre.ballot proposalId voter = none →
      prior.voters.lookup voter = none ∧ prior.discussionEndsAt ≤ now) :
    prior.voters.lookup voter = none ∧ prior.discussionEndsAt ≤ now := by
  by_cases fresh : pre.ballot proposalId voter = none
  · exact admitted fresh
  · refine ⟨(kept.law.single prior voter hit).resolve_right fresh, ?_⟩
    by_contra early
    have begun : timestamp < prior.discussionEndsAt := by omega
    exact fresh (kept.law.discussed prior hit begun voter).2

theorem tally_recast {voter : Address} {ballot : QuadraticVote}
    (ballots : ∀ other, after.ballot proposalId other =
      if other = voter then some ballot else pre.ballot proposalId other) (voteType : VoteType) :
    Table.tally (weight voteType) after.quadratic.ballots proposalId =
      Table.tally (weight voteType)
        (pre.quadratic.ballots.insert (proposalId, voter) ballot) proposalId := by
  refine tally_congr fun other => ?_
  rw [lookup_insert]
  simp only [Prod.mk.injEq, true_and]
  exact ballots other

theorem BallotsKept.step (kept : BallotsKept pre timestamp proposalId) (passed : timestamp ≤ now)
    (step : BallotStep pre after now proposalId) : BallotsKept after now proposalId := by
  -- Ballots that are the same for everybody add up to the same.
  have sameTally : (∀ voter, after.ballot proposalId voter = pre.ballot proposalId voter) →
      ∀ voteType, Table.tally (weight voteType) after.quadratic.ballots proposalId =
        Table.tally (weight voteType) pre.quadratic.ballots proposalId :=
    fun ballots voteType => tally_congr ballots
  cases step with
  | absent missing still ballots =>
    have never : ∀ {claim : Prop} {proposal : Proposal},
        after.proposal proposalId = some proposal → claim := by
      intro claim proposal hit
      rw [still] at hit
      cases hit
    refine ⟨⟨fun _ _ => never, fun _ => never, fun _ _ => never⟩, fun _ _ _ => never, ?_,
      fun _ _ => never, ?_⟩
    · intro voter ballot hit
      exact kept.ballots voter ballot (ballots voter ▸ hit)
    · intro _ voter
      rw [ballots]
      exact kept.absent missing voter
  | made missing has isNew ballots => exact kept.made missing has isNew ballots
  | @kept prior later hit has same ballots =>
    refine .of_stored has (fun voter => ?_) (fun early voter => ?_) (fun voteType => ?_)
      (fun voter vote recorded => ?_) (fun voter ballot recorded => ?_) fun voteType => ?_
    · rw [same.voters, ballots]
      exact kept.law.single prior voter hit
    · rw [same.voters, ballots]
      rw [same.discussion] at early
      exact kept.law.discussed prior hit (passed.trans_lt early) voter
    · rw [same.tallies, recordedVotes, same.voters, sameTally ballots]
      exact kept.law.tallies prior voteType hit
    · rw [same.voters] at recorded
      exact kept.powers prior voter vote hit recorded
    · exact kept.ballots voter ballot (ballots voter ▸ recorded)
    · rw [same.tallies]
      exact kept.held prior voteType hit
  | @voted prior later voter vote hit has fresh unballoted discussed nonneg voters tallies
      held discussion ballots =>
    refine .of_stored has (fun other => ?_) (fun early => ?_) (fun voteType => ?_)
      (fun other recordedVote recorded => ?_) (fun other ballot recorded => ?_) held
    · rw [voters, lookup_insert, ballots]
      split
      next same => exact .inr (same ▸ unballoted)
      next => exact kept.law.single prior other hit
    · exact absurd early (not_lt.mpr (discussion ▸ discussed))
    · rw [tallies, recordedVotes, voters, sameTally ballots, sum_insert,
        contribution_of_none fresh, kept.law.tallies prior voteType hit, recordedVotes]
      omega
    · rw [voters, lookup_insert] at recorded
      split at recorded
      · cases recorded
        exact nonneg
      · exact kept.powers prior other recordedVote hit recorded
    · exact kept.ballots other ballot (ballots other ▸ recorded)
  | @balloted prior later voter ballot hit has admitted nonneg voters tallies held
      discussion ballots =>
    have eligible := kept.eligible passed hit admitted
    refine .of_stored has (fun other => ?_) (fun early => ?_) (fun voteType => ?_)
      (fun other vote recorded => ?_) (fun other cast recorded => ?_) held
    · rw [voters, ballots]
      split
      next same => exact .inl (same ▸ eligible.1)
      next => exact kept.law.single prior other hit
    · exact absurd early (not_lt.mpr (discussion ▸ eligible.2))
    · rw [tallies, recordedVotes, voters, tally_recast ballots, tally_insert, if_pos rfl,
        kept.law.tallies prior voteType hit, recordedVotes, ballotWeight,
        GovStore.ballot]
      omega
    · rw [voters] at recorded
      exact kept.powers prior other vote hit recorded
    · rw [ballots] at recorded
      split at recorded
      · cases recorded
        exact nonneg
      · exact kept.ballots other cast recorded

end Steps

end StellarSwipe.Governance
