import StellarSwipe.Governance.Proposals

/-!
# Quadratic voting

A user's voting power buys credits, and a number of votes costs its square in credits.
-/

namespace StellarSwipe.Governance

open FixedWidth Program DistinctList

namespace QuadraticState

variable (state : QuadraticState)

def votingConfig : QuadraticVotingConfig := state.config.getD .default

def putCredits (user : Address) (credits : VoteCredits) : QuadraticState :=
  { state with credits := state.credits.insert user credits }

def votersOf (proposalId : Nat) : List Address := (state.proposalVoters.lookup proposalId).getD []

def storeBallot (proposalId : Nat) (voter : Address) (ballot : QuadraticVote) : QuadraticState :=
  { state with
    ballots := state.ballots.insert (proposalId, voter) ballot
    proposalVoters := if voter ∈ state.votersOf proposalId then state.proposalVoters
      else state.proposalVoters.insert proposalId (state.votersOf proposalId ++ [voter]) }

def removeBallot (proposalId : Nat) (voter : Address) : QuadraticState :=
  { state with ballots := state.ballots.erase (proposalId, voter) }

end QuadraticState

/-- Arithmetic that stops the call when it leaves the type. -/
def raw (value : Int) : GovProgram Int := orTrap (i128.checked value)

def putQuadratic (quadratic : QuadraticState) : GovProgram Unit :=
  modify fun store => store.putQuadratic quadratic

def setQuadraticVotingConfig (config : QuadraticVotingConfig) : GovProgram Unit := do
  putQuadratic { (← get).quadratic with config := some config }

variable (env : Env)

/-- Give a user credits for the voting power of now, all of them available. -/
def allocateVoteCredits (user : Address) : GovProgram Int := do
  let store ← get
  let config := store.quadratic.votingConfig
  ensure (config.enabled = true) .invalidGovernanceConfig
  let staked := getEffectiveVotingPower store env.sequence user
  let weighted ← raw (staked * config.voteCreditsPerToken)
  let capped := min (weighted.tdiv creditPrecision) config.maxCreditsPerUser
  putQuadratic (store.quadratic.putCredits user ⟨capped, 0, capped, ∅⟩)
  pure capped

/-- Credits with an amount moved from available to used. -/
def VoteCredits.spend (credits : VoteCredits) (proposalId : Nat) (cost : Int) :
    GovProgram VoteCredits := do
  let used ← raw (credits.usedCredits + cost)
  let available ← raw (credits.availableCredits - cost)
  pure { credits with
    usedCredits := used
    availableCredits := available
    proposalsVoted := credits.proposalsVoted.insert proposalId cost }

/-- Credits with an amount moved back from used to available. -/
def VoteCredits.release (credits : VoteCredits) (proposalId : Nat) (cost : Int) :
    GovProgram VoteCredits := do
  let used ← raw (credits.usedCredits - cost)
  let available ← raw (credits.availableCredits + cost)
  pure { credits with
    usedCredits := used
    availableCredits := available
    proposalsVoted := credits.proposalsVoted.erase proposalId }

variable (proposalId : Nat)

/-- Cast a ballot of a number of votes for its square in credits. -/
def castQuadraticVote (voter : Address) (votesDesired : Int) (voteType : VoteType) :
    GovProgram Unit := do
  requireAuth env voter
  ensure (¬ votesDesired ≤ 0) .invalidAmount
  let config := (← get).quadratic.votingConfig
  ensure (config.enabled = true) .invalidGovernanceConfig
  ensure (config.sybilResistanceEnabled = true →
    ∃ identity ∈ (← get).quadratic.identities.lookup voter, identity.verified = true)
    .invalidProposal
  let proposal ← getProposal proposalId
  let now := env.timestamp
  ensure (¬ now < proposal.votingStarts) .votingNotStarted
  ensure (¬ proposal.votingEnds ≤ now) .votingEnded
  ensure proposal.IsOpen .proposalNotActive
  ensure ((← get).quadratic.ballots.lookup (proposalId, voter) = none) .alreadyVoted
  let creditsRequired ← ofExcept (checkedMul votesDesired votesDesired)
  let credits ← orFail ((← get).quadratic.credits.lookup voter) .noVotingPower
  ensure (¬ credits.availableCredits < creditsRequired) .insufficientBalance
  let spent ← credits.spend proposalId creditsRequired
  putQuadratic ((← get).quadratic.putCredits voter spent)
  let counted := proposal.tallied voteType fun tally => i128.saturatingAdd tally votesDesired
  putProposal proposalId { counted with status := proposal.activated }
  putQuadratic ((← get).quadratic.storeBallot proposalId voter
    ⟨votesDesired, creditsRequired, voteType⟩)

/-- Take a ballot back and cast it again. -/
def reallocateQuadraticVotes (voter : Address) (newVotesDesired : Int) (voteType : VoteType) :
    GovProgram Unit := do
  requireAuth env voter
  let proposal ← getProposal proposalId
  ensure (¬ proposal.votingEnds ≤ env.timestamp) .votingEnded
  let previous ← orFail ((← get).quadratic.ballots.lookup (proposalId, voter)) .proposalNotFound
  let credits ← orFail ((← get).quadratic.credits.lookup voter) .noVotingPower
  let released ← credits.release proposalId previous.creditsSpent
  putQuadratic ((← get).quadratic.putCredits voter released)
  putProposal proposalId
    (proposal.tallied previous.voteType fun tally => i128.saturatingSub tally previous.votesAllocated)
  putQuadratic ((← get).quadratic.removeBallot proposalId voter)
  castQuadraticVote env proposalId voter newVotesDesired voteType

/-- A bonus of half the credits of a user who has any. -/
def grantVerifiedUserBonus (user : Address) : GovProgram Unit := do
  match (← get).quadratic.credits.lookup user with
  | none => pure ()
  | some credits => do
    let bonus := credits.totalCredits.tdiv 2
    let total ← raw (credits.totalCredits + bonus)
    let available ← raw (credits.availableCredits + bonus)
    putQuadratic ((← get).quadratic.putCredits user
      { credits with totalCredits := total, availableCredits := available })

/-- Accept an identity, whose proof is checked elsewhere. -/
def verifyIdentity (user : Address) (method : VerificationMethod) : GovProgram Unit := do
  let quadratic := (← get).quadratic
  putQuadratic { quadratic with
    identities := quadratic.identities.insert user ⟨true, method, env.timestamp⟩ }
  grantVerifiedUserBonus user

/-- Return the credits of a voter's ballot. -/
def refundVoter (voter : Address) : GovProgram Unit := do
  match (← get).quadratic.ballots.lookup (proposalId, voter) with
  | none => pure ()
  | some ballot => do
    match (← get).quadratic.credits.lookup voter with
    | none => pure ()
    | some credits => do
      let released ← credits.release proposalId ballot.creditsSpent
      putQuadratic ((← get).quadratic.putCredits voter released)

/-- Return the credits of every ballot of a proposal that failed or was cancelled. The
ballots stay. -/
def refundCreditsOnFailure : GovProgram Unit := do
  let proposal ← getProposal proposalId
  ensure (proposal.status = .failed ∨ proposal.status = .cancelled) .proposalNotActive
  each (refundVoter proposalId) ((← get).quadratic.votersOf proposalId)

inductive QuadraticCall where
  | configure (config : QuadraticVotingConfig)
  | allocate (user : Address)
  | verify (user : Address) (method : VerificationMethod)
  | cast (proposalId : Nat) (voter : Address) (votesDesired : Amount) (voteType : VoteType)
  | reallocate (proposalId : Nat) (voter : Address) (newVotesDesired : Amount)
      (voteType : VoteType)
  | refund (proposalId : Nat)

/-- The operation of a call. -/
def QuadraticCall.exec (call : QuadraticCall) (env : Env) : GovProgram Unit :=
  match call with
  | .configure config => setQuadraticVotingConfig config
  | .allocate user => discard (allocateVoteCredits env user)
  | .verify user method => verifyIdentity env user method
  | .cast proposalId voter votesDesired voteType =>
    castQuadraticVote env proposalId voter votesDesired voteType
  | .reallocate proposalId voter newVotesDesired voteType =>
    reallocateQuadraticVotes env proposalId voter newVotesDesired voteType
  | .refund proposalId => refundCreditsOnFailure proposalId

end StellarSwipe.Governance
