import StellarSwipe.Host
import StellarSwipe.Library.KeyedSum

/-!
# Records and storage of the cross-chain modules

What the bridge keeps besides its transfers by lock and burn: signers and their proposals,
validator sets, messages, monitored transfers and fees.
-/

namespace StellarSwipe.CrossChain

/-- What the modelled functions return in place of a value. -/
inductive CrossChainError where
  | text (message : String)
  | messageTooLarge

inductive ChainId where
  | stellar
  | ethereum
  | bitcoin
  | polygon
  | bnb
deriving DecidableEq

inductive ProposalStatus where
  | pending
  | executed
  | cancelled
  | expired
deriving DecidableEq

structure BridgeSecurityConfig where
  maxTransferAmount : Int
  dailyTransferLimit : Int
  minValidatorSignatures : Nat
  transferDelaySeconds : Nat

inductive ProposalType where
  | addValidator (validator : Address)
  | removeValidator (validator : Address)
  | updateSecurityLimits (limits : BridgeSecurityConfig)
  | pauseBridge
  | unpauseBridge
  | updateRequiredSignatures (count : Nat)
  | emergencyWithdraw (assetId : String) (amount : Int) (recipient : Address)

structure GovernanceProposal where
  proposer : Address
  proposalType : ProposalType
  description : String
  signatures : List Address
  status : ProposalStatus
  createdAt : Nat
  executedAt : Option Nat
  expiry : Nat

structure BridgeGovernance where
  signers : List Address
  requiredSignatures : Nat
  nextProposalId : Nat
deriving DecidableEq

inductive BridgeStatus where
  | active
  | paused
  | deprecated

structure Bridge where
  validators : List Address
  minValidatorSignatures : Nat
  status : BridgeStatus
  securityConfig : BridgeSecurityConfig

/-- A validator set that was approved and waits for its activation. -/
structure PendingValidatorSet where
  validators : List Address
  minValidatorSignatures : Nat
  version : Nat
  activateAt : Nat

/-- Governances, proposals by bridge and id, bridges, and for each bridge the validator set
that attests, the one that waits, the version and the delay. -/
structure MultisigState where
  governances : Table Nat BridgeGovernance
  proposals : Table (Nat × Nat) GovernanceProposal
  bridges : Table Nat Bridge
  activeSets : Table Nat (List Address)
  pendingSets : Table Nat PendingValidatorSet
  versions : Table Nat Nat
  delays : Table Nat Nat

inductive MessageStatus where
  | pending
  | relayed
  | delivered
  | failed
  | callbackReceived
deriving DecidableEq

structure CrossChainMessage where
  sourceChain : ChainId
  targetChain : ChainId
  sender : Address
  targetContract : String
  payload : Bytes
  gasLimit : Nat
  callbackRequired : Bool
  status : MessageStatus
  sentAt : Nat
  deliveredAt : Option Nat
  nonce : Nat

structure MessagingState where
  messages : Table Nat CrossChainMessage
  nextMessageId : Nat
  bridgeForChain : Table ChainId Nat
  outboundSeq : Table ChainId Nat
  expectedNonce : Table ChainId Nat

def MessagingState.empty : MessagingState := ⟨∅, 1, ∅, ∅, ∅⟩

inductive VerificationMethod where
  | blockConfirmations
  | epochFinality
  | probabilistic

structure ChainFinalityConfig where
  requiredConfirmations : Nat
  averageBlockTime : Nat
  reorgDepthLimit : Nat
  verificationMethod : VerificationMethod

inductive MonitoringStatus where
  | pending
  | confirming
  | finalized
  | reorged
  | failed
deriving DecidableEq

structure MonitoredTransaction where
  sourceChain : ChainId
  txHash : String
  blockNumber : Nat
  confirmations : Nat
  status : MonitoringStatus
  firstSeen : Nat
  finalizedAt : Option Nat

inductive TransferStatus where
  | pending
  | finalized
  | validatorApproved
  | minting
  | complete
  | failed
deriving DecidableEq

/-- An asset; the native one has no issuer. -/
structure Asset where
  code : String
  issuer : Option Address
deriving DecidableEq

structure BridgeTransfer where
  bridgeId : Nat
  sourceChain : ChainId
  destinationChain : ChainId
  amount : Int
  feePaid : Int
  stellarAsset : Asset
  user : String
  status : TransferStatus
  validatorSignatures : List String
  createdAt : Nat
  completedAt : Option Nat
  statusUpdatedAt : Nat

structure LatencyCircuitBreakerConfig where
  latencyThresholdSecs : Nat
  windowSize : Nat

def LatencyCircuitBreakerConfig.default : LatencyCircuitBreakerConfig := ⟨800, 10⟩

structure DataPoint where
  timestamp : Nat
  value : Int

structure BridgeAnalytics where
  totalTransfers : Nat
  totalVolume : Int
  totalFees : Int
  avgTransferTimeSeconds : Nat
  volumeByAsset : Table Asset Int
  dataPoints : List DataPoint

def BridgeAnalytics.empty : BridgeAnalytics := ⟨0, 0, 0, 0, ∅, []⟩

structure ValidatorAnalytics where
  totalSignaturesProvided : Nat
  onTimeSignatures : Nat
  lateSignatures : Nat
  avgResponseTimeSeconds : Nat
  uptimePct : Nat

def ValidatorAnalytics.empty : ValidatorAnalytics := ⟨0, 0, 0, 0, 10000⟩

structure MonitoringState where
  monitored : Table Nat MonitoredTransaction
  transfers : Table Nat BridgeTransfer
  chainConfigs : Table ChainId ChainFinalityConfig
  latencyWindow : List Nat
  circuitBreakerTripped : Bool
  breakerConfig : Option LatencyCircuitBreakerConfig
  bridgeAnalytics : Table Nat BridgeAnalytics
  validatorAnalytics : Table (Address × Nat) ValidatorAnalytics

def MonitoringState.empty : MonitoringState := ⟨∅, ∅, ∅, [], false, none, ∅, ∅⟩

structure BridgeFeeConfig where
  baseFeeBps : Nat
  minFee : Int
  maxFee : Int
  validatorRewardPct : Nat
  treasuryPct : Nat
  dynamicAdjustmentEnabled : Bool

structure BridgeFeeStats where
  totalFeesCollected : Int
  feesDistributedValidators : Int
  feesToTreasury : Int
  transfersCount : Nat
  avgFee : Int

def BridgeFeeStats.empty : BridgeFeeStats := ⟨0, 0, 0, 0, 0⟩

structure ValidatorReward where
  bridgeId : Nat
  validator : Address
  amount : Int

/-- Fees by bridge, and the rewards announced so far. -/
structure FeeState where
  configs : Table Nat BridgeFeeConfig
  stats : Table Nat BridgeFeeStats
  treasuries : Table Nat Address
  dailyTransfers : Table Nat Nat
  rewards : List ValidatorReward

def FeeState.empty : FeeState := ⟨∅, ∅, ∅, ∅, []⟩

/-- Everything that the cross-chain modules store. -/
structure CrossChainStore where
  multisig : MultisigState
  messaging : MessagingState
  monitoring : MonitoringState
  fees : FeeState

/-- The storage of bridges that are set up, before anything is proposed, sent, monitored or
collected. -/
def CrossChainStore.initial (governances : Table Nat BridgeGovernance)
    (bridges : Table Nat Bridge) (activeSets : Table Nat (List Address))
    (versions delays : Table Nat Nat) : CrossChainStore where
  multisig := ⟨governances, ∅, bridges, activeSets, ∅, versions, delays⟩
  messaging := .empty
  monitoring := .empty
  fees := .empty

/-!
## Programs of the cross-chain modules

How the modules read and write their part of the storage.
-/

open FixedWidth Program

abbrev ChainProgram := Program CrossChainStore CrossChainError

/-- The host's check that an address authorized this call. -/
def requireAuth (env : Env) (address : Address) : ChainProgram Unit :=
  demand (address ∈ env.auths)

/-- Continue only under a condition, otherwise return the text. -/
def check (condition : Prop) [Decidable condition] (message : String) : ChainProgram Unit :=
  ensure condition (.text message)

def orMissing {α : Type} (value : Option α) (message : String) : ChainProgram α :=
  orFail value (.text message)

/-- A signed amount that stops the call when it leaves its type. -/
def amount (value : Int) : ChainProgram Int := orTrap (i128.checked value)

/-- A counter that stops the call when it leaves its type. -/
def counter (limit value : Nat) : ChainProgram Nat :=
  orTrap (if value ≤ limit then some value else none)

def putMultisig (multisig : MultisigState) : ChainProgram Unit :=
  modify fun store => { store with multisig }

def putMessaging (messaging : MessagingState) : ChainProgram Unit :=
  modify fun store => { store with messaging }

def putMonitoring (monitoring : MonitoringState) : ChainProgram Unit :=
  modify fun store => { store with monitoring }

def putFees (fees : FeeState) : ChainProgram Unit :=
  modify fun store => { store with fees }

section Rules

variable {pre : CrossChainStore} {post : Unit → CrossChainStore → Prop}
  {fault : Fault CrossChainError → CrossChainStore → Prop}

theorem wp_auth (env : Env) (address : Address) :
    wp (requireAuth env address) post (fun _ _ => True) pre ↔
      (address ∈ env.auths → post () pre) := by
  simp [requireAuth]

theorem wp_check (condition : Prop) [Decidable condition] (message : String) :
    wp (check condition message) post (fun _ _ => True) pre ↔ (condition → post () pre) := by
  simp [check]

theorem wp_found {α : Type} {post : α → CrossChainStore → Prop} (value : Option α)
    (message : String) : wp (orMissing value message) post (fun _ _ => True) pre ↔
      ∀ has, value = some has → post has pre := by
  simp [orMissing]

theorem wp_amount {post : Int → CrossChainStore → Prop} (value : Int) :
    wp (amount value) post (fun _ _ => True) pre ↔ (i128.Holds value → post value pre) := by
  simp only [amount, wp_orTrap, asks_true]
  constructor
  · intro every held
    exact every value (if_pos held)
  · intro holds has same
    obtain ⟨held, rfl⟩ := i128.checked_ok same
    exact holds held

theorem wp_counter {post : Nat → CrossChainStore → Prop} (limit value : Nat) :
    wp (counter limit value) post (fun _ _ => True) pre ↔ (value ≤ limit → post value pre) := by
  simp only [counter, wp_orTrap, asks_true]
  constructor
  · intro every held
    exact every value (if_pos held)
  · intro holds has same
    split at same
    next held => exact Option.some.inj same ▸ holds held
    next => cases same

theorem wp_putMultisig (multisig : MultisigState) :
    wp (putMultisig multisig) post fault pre ↔ post () { pre with multisig } :=
  Iff.rfl

theorem wp_putMessaging (messaging : MessagingState) : wp (putMessaging messaging) post fault pre ↔
      post () { pre with messaging } :=
  Iff.rfl

theorem wp_putMonitoring (monitoring : MonitoringState) :
    wp (putMonitoring monitoring) post fault pre ↔
      post () { pre with monitoring } :=
  Iff.rfl

theorem wp_putFees (fees : FeeState) :
    wp (putFees fees) post fault pre ↔ post () { pre with fees } :=
  Iff.rfl

end Rules

end StellarSwipe.CrossChain
