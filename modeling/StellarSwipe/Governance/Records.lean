import StellarSwipe.Governance.Types
import StellarSwipe.Library.KeyedSum

/-!
# Records of governance

What the governance contract stores about tokens, delegations, proposals, the timelock, quadratic
votes and the treasury.
-/

namespace StellarSwipe.Governance

/-- A token of the treasury; the native one has no issuer. -/
structure Asset where
  code : String
  issuer : Option Address
deriving DecidableEq

/-- The governance token: free and staked balances, the number of votes that lock a
holder's stake, every holder seen, and the total supply of the metadata. -/
structure TokenLedger where
  balances : Table Address Int
  staked : Table Address Int
  voteLocks : Table Address Nat
  holders : List Address
  totalSupply : Option Int

structure VoteDelegation where
  delegate : Address
  delegatedPower : Int
  active : Bool

/-- Delegations by delegator, the delegators in the order they first delegated, and the
ledgers at which delegations expire. -/
structure DelegationState where
  delegations : Table Address VoteDelegation
  delegators : List Address
  expiries : Table Address Nat

def DelegationState.empty : DelegationState := ⟨∅, [], ∅⟩

inductive ProposalCategory where
  | parameterChange
  | contractUpgrade
  | treasuryTransfer
  | general
deriving DecidableEq

/-- Overrides of the global thresholds, zero for none. -/
structure CategoryThreshold where
  quorumBps : Nat
  supermajorityBps : Nat

inductive ProposalType where
  | parameterChange (parameter : String) (current proposed : Int)
  | treasurySpend (recipient : Address) (amount : Int) (asset : Asset) (purpose : String)
  | featureToggle (feature : String) (enabled : Bool)
  | contractUpgrade (contract : String) (wasmHash : Bytes)
  | signalProposal (text : String)
  | custom (executor : Address)
deriving DecidableEq

inductive ProposalStatus where
  | pending
  | active
  | succeeded
  | failed
  | executed
  | cancelled
  | expired
  | withdrawn
deriving DecidableEq

inductive VoteType where
  | for
  | against
  | abstain
deriving DecidableEq

structure Vote where
  voteType : VoteType
  votingPower : Int
  timestamp : Nat

structure Proposal where
  proposer : Address
  proposalType : ProposalType
  title : String
  description : String
  executionPayload : Bytes
  votingStarts : Nat
  votingEnds : Nat
  votesFor : Int
  votesAgainst : Int
  votesAbstain : Int
  status : ProposalStatus
  voters : Table Address Vote
  voterList : List Address
  executedAt : Option Nat
  discussionEndsAt : Nat
  category : ProposalCategory
  useQuadraticVoting : Bool
  quadraticTotalSupply : Int
  executionDeadline : Nat

structure GovernanceConfig where
  minProposalThreshold : Int
  votingPeriod : Nat
  votingDelay : Nat
  quorumThreshold : Nat
  approvalThreshold : Nat
  executionDelay : Nat
  discussionDuration : Nat

def GovernanceConfig.default : GovernanceConfig where
  minProposalThreshold := 1000
  votingPeriod := 7 * 24 * 60 * 60
  votingDelay := 60
  quorumThreshold := 1000
  approvalThreshold := 5000
  executionDelay := 0
  discussionDuration := 0

/-- The proposals with their order and next id, the voting power of each holder when a
proposal was made, and the thresholds votes are held against. -/
structure ProposalsState where
  proposals : Table Nat Proposal
  proposalIds : List Nat
  nextProposalId : Nat
  voteSnapshots : Table Nat (Table Address Int)
  config : Option GovernanceConfig
  categoryThresholds : Table ProposalCategory CategoryThreshold

def ProposalsState.empty : ProposalsState := ⟨∅, [], 1, ∅, some .default, ∅⟩

structure DepositConfig where
  amount : Int
  minParticipationBps : Nat

def DepositConfig.default : DepositConfig := ⟨1000, 500⟩

/-- The deposits held for proposals, and who receives a forfeited one. -/
structure DepositState where
  config : Option DepositConfig
  locked : Table Nat Address
  treasuryAddress : Option Address

/-- What executed proposals set. -/
structure Registry where
  parameters : Table String Int
  features : Table String Bool
  upgrades : Table String Bytes

inductive ActionType where
  | treasurySpend
  | parameterChange
  | contractUpgrade
  | emergencyPause
  | custom
deriving DecidableEq

structure QueuedAction where
  id : Nat
  actionType : ActionType
  proposalId : Nat
  executionPayload : Bytes
  queuedAt : Nat
  executionAvailable : Nat
  executed : Bool
  cancelled : Bool

structure Timelock where
  queuedActions : List QueuedAction
  delayConfig : Table ActionType Nat
  minDelay : Nat
  maxDelay : Nat
  guardian : Address
  nextActionId : Nat

/-- An administrative action waiting for its delay. -/
structure AdminTimelockEntry where
  id : Nat
  actionType : String
  caller : Address
  queuedAt : Nat
  executionAvailable : Nat
  executed : Bool
  cancelled : Bool

/-- Credits and costs of quadratic votes are kept in fixed point. -/
def creditPrecision : Int := 1000000

structure QuadraticVotingConfig where
  enabled : Bool
  voteCreditsPerToken : Nat
  maxCreditsPerUser : Int
  sybilResistanceEnabled : Bool

def QuadraticVotingConfig.default : QuadraticVotingConfig :=
  ⟨false, 1, 10000 * creditPrecision, false⟩

structure VoteCredits where
  totalCredits : Int
  usedCredits : Int
  availableCredits : Int
  proposalsVoted : Table Nat Int

structure QuadraticVote where
  votesAllocated : Int
  creditsSpent : Int
  voteType : VoteType

inductive VerificationMethod where
  | brightId
  | worldId
  | gitcoinPassport
  | custom

structure IdentityVerification where
  verified : Bool
  verificationMethod : VerificationMethod
  verifiedAt : Nat

/-- Credits by user, ballots by proposal and voter, and the voters of each proposal. -/
structure QuadraticState where
  config : Option QuadraticVotingConfig
  credits : Table Address VoteCredits
  ballots : Table (Nat × Address) QuadraticVote
  proposalVoters : Table Nat (List Address)
  identities : Table Address IdentityVerification

def QuadraticState.empty : QuadraticState := ⟨none, ∅, ∅, ∅, ∅⟩

structure BudgetApproval where
  proposalId : Nat
  approvedCap : Int
  totalDrawn : Int
  approvedAt : Nat

structure Budget where
  allocated : Int
  spent : Int
  remaining : Int
  spendLimit : Int
  periodStart : Nat
  periodEnd : Nat
  autoRenew : Bool

structure RecurringPayment where
  id : Nat
  recipient : Address
  amount : Int
  asset : Asset
  frequency : Nat
  category : String
  purpose : String
  approvedByProposal : Option Nat
  lastPayment : Nat
  endDate : Option Nat
  active : Bool

structure TreasurySpend where
  id : Nat
  recipient : Address
  amount : Int
  asset : Asset
  category : String
  purpose : String
  approvedByProposal : Option Nat
  executedAt : Nat

structure Treasury where
  assets : Table Asset Int
  trackedAssets : List Asset
  budgets : Table String Budget
  budgetCategories : List String
  approvedBudgets : Table String BudgetApproval
  recurringPayments : List RecurringPayment
  spendingHistory : List TreasurySpend
  rebalanceTargets : Table Asset Int
  nextRecurringPaymentId : Nat
  nextSpendId : Nat

def Treasury.empty : Treasury := ⟨∅, [], ∅, [], ∅, [], [], ∅, 1, 1⟩

structure SpendWindowConfig where
  windowSecs : Nat
  cap : Int
  anchor : Nat
deriving DecidableEq

structure SpendWindowState where
  windowStart : Nat
  spent : Int

/-- The cap on treasury spending in a window, and what the current window has used. -/
structure SpendWindow where
  config : Option SpendWindowConfig
  state : Option SpendWindowState

end StellarSwipe.Governance
