import StellarSwipe.Host
import StellarSwipe.Library.KeyedSum

/-!
# Records of the bridge

What the bridge contract stores about its validators, the transfers that it mints and burns for,
the limits on their volume, and the liquidity pools of wrapped assets.
-/

namespace StellarSwipe.Bridge

/-- The error codes that the modelled functions return. -/
inductive BridgeError where
  | alreadyInitialized
  | invalidAmount
  | invalidValidatorSet
  | unauthorizedValidator
  | transferNotFound
  | transferAlreadyExecuted
  | replayDetected
  | signatureAlreadyUsed
  | notEnoughValidatorApprovals
  | dailyLimitExceeded
  | maxTransferExceeded
  | insufficientWrappedBalance
  | withdrawalNotReady
  | invalidOperation
  | dynamicLiquidityLimitExceeded
  | unsupportedDestinationChain
  | contractPaused
  | invalidTokenMetadata
  | messageAlreadyConsumed
  | perRouteLimitExceeded
  | aggregateWindowLimitExceeded
  | transferPermanentlyFailed
  | transferNotRetryable
  | messageExpired
  | invalidMessageExpiry
  | identicalPoolAssets
  | poolAlreadyExists
  | unauthorizedRecipient
  | poolInvariantViolation
  | poolTradingPaused

inductive ChainId where
  | ethereum
  | polygon
  | bnb
  | bitcoin
deriving DecidableEq

inductive TransferKind where
  | lockMint
  | burnUnlock
deriving DecidableEq

inductive TransferStatus where
  | pendingValidators
  | readyToExecute
  | completed
  | cancelled
  | failed
deriving DecidableEq

inductive ValidatorApprovalKind where
  | lockMint
  | burnUnlock
deriving DecidableEq

structure ValidatorApproval where
  validator : Address
  signature : String
  approvedAt : Nat
  kind : ValidatorApprovalKind

structure ValidatorSet where
  validators : List Address
  requiredSignatures : Nat

structure SecurityConfig where
  maxTransferAmount : Int
  dailyTransferLimit : Int
  requiredValidatorSignatures : Nat
  withdrawDelaySeconds : Nat

structure BridgeConfig where
  admin : Address
  validatorSet : ValidatorSet
  security : SecurityConfig
  nextTransferId : Nat

/-- A wrapped asset that is registered; its key is the wrapped asset itself. -/
structure WrappedAsset where
  sourceChain : ChainId
  sourceAsset : String
  decimals : Nat

/-- What identifies a message of another chain. -/
structure SourceMessage where
  sourceChain : ChainId
  sourceTxHash : String
  sourceNonce : Nat
deriving DecidableEq

/-- The chains and the wrapped asset that a limit on volume is set for. -/
structure Route where
  sourceChain : ChainId
  destinationChain : ChainId
  wrappedAsset : String
deriving DecidableEq

/-- A transfer. Without an expiry, `expiresAt` is zero. -/
structure BridgeTransfer where
  kind : TransferKind
  user : Address
  sourceChain : ChainId
  destinationChain : ChainId
  sourceAsset : String
  wrappedAsset : String
  amount : Int
  sourceTxHash : String
  sourceNonce : Nat
  destinationRecipient : String
  approvals : List ValidatorApproval
  status : TransferStatus
  createdAt : Nat
  executedAt : Option Nat
  failureReason : Option String
  retryable : Bool
  expiresAt : Nat

namespace BridgeTransfer

variable (transfer : BridgeTransfer)

def message : SourceMessage :=
  ⟨transfer.sourceChain, transfer.sourceTxHash, transfer.sourceNonce⟩

def route : Route := ⟨transfer.sourceChain, transfer.destinationChain, transfer.wrappedAsset⟩

end BridgeTransfer

/-- The amount moved in a day, which is named by its first second. -/
structure DailyVolume where
  dayStart : Nat
  totalAmount : Int

structure WithdrawalRouteConfig where
  perMessageLimit : Int
  aggregateWindowLimit : Int
  windowSeconds : Nat
deriving DecidableEq

structure WithdrawalWindow where
  windowStart : Nat
  totalVolume : Int

def daySeconds : Nat := 86400

/-- How long a message registered without an expiry is valid. -/
def defaultMessageValiditySeconds : Nat := daySeconds

/-- How far in the future an expiry may lie. -/
def maxMessageValiditySeconds : Nat := 7 * daySeconds

def dayBucket (timestamp : Nat) : Nat := timestamp / daySeconds * daySeconds

inductive PoolType where
  | constantProduct
  | stableSwap
deriving DecidableEq

/-- A pool of two assets in their order. -/
structure LiquidityPool where
  assetA : String
  assetB : String
  reserveA : Int
  reserveB : Int
  totalLpTokens : Int
  feeBps : Nat
  rewardBps : Nat
  poolType : PoolType
  createdAt : Nat
  tradingPaused : Bool

structure LiquidityPosition where
  lpTokens : Int
  rewardsEarned : Int

/-- The pools, the positions by pool and provider, the pool of each pair, and who may
receive withdrawals or pause trading. -/
structure LiquidityState where
  poolCounter : Nat
  pools : Table Nat LiquidityPool
  positions : Table (Nat × Address) LiquidityPosition
  poolByPair : Table (String × String) Nat
  withdrawalApprovals : Table (Address × Address) Bool
  poolOperators : Table Nat Address

def LiquidityState.empty : LiquidityState := ⟨0, ∅, ∅, ∅, ∅, ∅⟩

end StellarSwipe.Bridge
