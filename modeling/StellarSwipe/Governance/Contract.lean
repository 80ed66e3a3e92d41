import StellarSwipe.Governance.Timelock
import StellarSwipe.Governance.QuadraticVoting
import StellarSwipe.Governance.Treasury
import StellarSwipe.Library.Runs

/-!
# The governance contract

The calls of all parts of the contract arrive in any order at any times and work on one storage.
-/

namespace StellarSwipe.Governance

open FixedWidth Program Runs

def configureGovernance (config : GovernanceConfig) : GovProgram Unit := do
  ensure (¬ (config.minProposalThreshold ≤ 0 ∨ config.votingPeriod = 0 ∨
    10000 < config.quorumThreshold ∨ 10000 < config.approvalThreshold)) .invalidGovernanceConfig
  modify fun store => { store with proposals := { store.proposals with config := some config } }

/-- Vote with the power of the snapshot, raised by the voter's reputation. -/
def castReputationWeightedVote (env : Env) (proposalId : Nat) (voter : Address)
    (voteType : VoteType) (reputationScore : Nat) : GovProgram Unit := do
  requireAuth env voter
  let proposal ← getProposal proposalId
  let now := env.timestamp
  ensure (¬ (0 < proposal.discussionEndsAt ∧ now < proposal.discussionEndsAt))
    .discussionPeriodActive
  ensure (¬ now < proposal.votingStarts) .votingNotStarted
  ensure (¬ proposal.votingEnds ≤ now) .votingEnded
  ensure proposal.IsOpen .proposalNotActive
  ensure (proposal.voters.lookup voter = none) .alreadyVoted
  let tokenPower := voteSnapshot (← get) proposalId voter
  ensure (¬ tokenPower ≤ 0) .noVotingPower
  let multiplier := satCount u32Max 10000 (reputationScore / 2)
  let scaled ← ofExcept (checkedMul tokenPower multiplier)
  let weighted := scaled.tdiv 10000
  let counted := proposal.tallied voteType fun tally => i128.saturatingAdd tally weighted
  putProposal proposalId { counted with
    voters := proposal.voters.insert voter ⟨voteType, weighted, now⟩
    voterList := proposal.voterList ++ [voter]
    status := proposal.activated }

/-- One call that changes how the contract works. -/
inductive SettingsCall where
  | configure (route : Route) (admin : Address) (config : GovernanceConfig)
  | setSpendWindow (admin : Address) (windowSecs : Nat) (cap : Amount)

/-- The entry point of a call. -/
def SettingsCall.exec (call : SettingsCall) (env : Env) : GovProgram Unit :=
  match call with
  | .configure .direct admin config => do
    requireInitialized
    requireParameterCapability env admin
    requireNoTimelockBypass
    configureGovernance config
  | .configure (.timelocked actionId) admin config => do
    requireInitialized
    discard (executeAdminAction env actionId admin)
    configureGovernance config
  | .setSpendWindow admin windowSecs cap => setTreasurySpendWindow env admin windowSecs cap

/-- One call of the contract. -/
inductive GovernanceCall where
  | settings (call : SettingsCall)
  | power (call : PowerCall)
  | treasury (call : TreasuryCall)
  | proposal (call : ProposalCall)
  | timelock (call : TimelockCall)
  | quadratic (call : QuadraticCall)
  | reputationVote (proposalId : Nat) (voter : Address) (voteType : VoteType)
      (reputationScore : Nat)

def GovernanceCall.exec (call : GovernanceCall) (env : Env) : GovProgram Unit :=
  match call with
  | .settings call => call.exec env
  | .power call => call.exec env
  | .treasury call => call.exec env
  | .proposal call => call.exec env
  | .timelock call => call.exec env
  | .quadratic call => call.exec env
  | .reputationVote proposalId voter voteType reputationScore => do
    requireInitialized
    castReputationWeightedVote env proposalId voter voteType reputationScore

/-- A call that arrives some time after the last one. -/
structure GovernanceInput where
  arrival : Arrival
  call : GovernanceCall

def governanceStep (input : GovernanceInput) (ledger : Ledger GovStore) :
    Ledger GovStore :=
  ledger.call input.arrival input.call.exec

abbrev GovTransition := Transition (Ledger GovStore) GovernanceInput

namespace GovTransition

variable (taken : GovTransition)

/-- The time at which the call arrived. -/
def now : Nat := taken.pre.timestamp + taken.input.arrival.seconds

def Returned : Prop :=
  Accepts (taken.input.call.exec (taken.pre.env taken.input.arrival)) taken.pre.store
deriving Decidable

end GovTransition

def governanceStart (admin : Address) (balances : Table Address Int) (holders : List Address)
    (totalSupply : Int) (timestamp sequence : Nat) : Ledger GovStore :=
  ⟨.initial admin balances holders totalSupply, timestamp, sequence⟩

end StellarSwipe.Governance
