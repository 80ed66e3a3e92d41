import StellarSwipe.Host
import StellarSwipe.Library.KeyedSum

/-!
# Data of the trade executor

What a copy trade reads and writes: the configuration by the admin, the market's breaker, the
users' volumes and counters, the receipts and the trade that awaits its confirmation.
-/

namespace StellarSwipe.TradeExecutor

open FixedWidth Program

inductive ContractError where
  | notInitialized
  | positionLimitReached
  | insufficientBalance
  | invalidAmount
  | reentrancyDetected
  | unauthorized
  | tradeNotFound
  | slippageExceeded
  | positionPctTooHigh
  | oraclePriceStale
  | oracleUnavailable
  | dailyVolumeLimitExceeded
  | openInterestLimitReached
  | dcaPlanNotFound
  | dcaPlanAlreadyExists
  | signalExpired
  | intervalNotDue
  | circuitBreakerActive
  | featureDisabled
  | belowMinimumTradeSize
  | gracePeriodExpired
  | queuedTradeNotFound
  | notTradeOwner
  | confirmationDepthNotReached
  | tooManyOpenPositions
  | nonceAlreadyUsed
  | tradeExpired
  | contractPaused

/-- The public number of an error. -/
def ContractError.code : ContractError → Nat
  | .notInitialized => 1
  | .positionLimitReached => 2
  | .insufficientBalance => 3
  | .invalidAmount => 4
  | .reentrancyDetected => 5
  | .unauthorized => 6
  | .tradeNotFound => 7
  | .slippageExceeded => 8
  | .positionPctTooHigh => 9
  | .oraclePriceStale => 10
  | .oracleUnavailable => 11
  | .dailyVolumeLimitExceeded => 12
  | .openInterestLimitReached => 15
  | .dcaPlanNotFound => 16
  | .dcaPlanAlreadyExists => 17
  | .signalExpired => 18
  | .intervalNotDue => 19
  | .circuitBreakerActive => 22
  | .featureDisabled => 23
  | .belowMinimumTradeSize => 25
  | .gracePeriodExpired => 26
  | .queuedTradeNotFound => 27
  | .notTradeOwner => 28
  | .confirmationDepthNotReached => 30
  | .tooManyOpenPositions => 31
  | .nonceAlreadyUsed => 32
  | .tradeExpired => 33
  | .contractPaused => 34

def circuitBreakerDurationLedgers : Nat := 720

def defaultMaxOpenPositions : Nat := 50

def maxPositionsPerUser : Nat := 20

def maxPositionPctBps : Nat := 2000

def defaultEstimatedCopyTradeFee : Int := 500000

def maxBatchSize : Nat := 10

def defaultMinTradeSize : Int := 1000

def tradeTimeoutLedgers : Nat := 120

def defaultConfirmationDepth : Nat := 10

def defaultGracePeriodLedgers : Nat := 10

def defaultMaxRetryCount : Nat := 3

def defaultDeadLetterRetentionLedgers : Nat := 518400

/-- The trade that a user copies. -/
structure Trade where
  user : Address
  token : Address
  amount : Int
  portfolioPctBps : Option Nat
deriving DecidableEq

structure InsufficientBalanceDetail where
  required : Int
  available : Int

inductive TradeStatus where
  | pending
  | partiallyFilled
  | executedAwaitingConfirmation
  | filled
  | failed
deriving DecidableEq

structure TradeOrder where
  executionLedger : Nat
  tradeId : Nat
  user : Address
  amount : Int
  expiresAtLedger : Nat
  status : TradeStatus

structure PartialFillRecord where
  requestedAmount : Int
  filledAmount : Int
  remainingAmount : Int
  detectedAtLedger : Nat

/-- What a receipt is the hash of. -/
structure TradeReceipt where
  user : Address
  token : Address
  amount : Int
  price : Int
  timestamp : Nat
  receiptId : Nat

/-- An open position, with the pair and the amount of the trade that it was opened for. -/
structure Position where
  user : Address
  pair : Option Address
  amount : Int

structure Portfolio where
  positions : Table Nat Position
  nextPosition : Nat

namespace Portfolio

def empty : Portfolio := ⟨∅, 1⟩

variable (portfolio : Portfolio)

def record (position : Position) : Portfolio where
  positions := portfolio.positions.insert portfolio.nextPosition position
  nextPosition := portfolio.nextPosition + 1

def close (positionId : Nat) : Portfolio :=
  { portfolio with positions := portfolio.positions.erase positionId }

def Holds (user : Address) (positionId : Nat) : Prop :=
  ∃ position ∈ portfolio.positions.lookup positionId, position.user = user
deriving Decidable

end Portfolio

/-- What the oracle answers for an asset pair. -/
structure OracleReading where
  price : Int
  updatedAt : Nat

/-- The contracts around an invocation: the balances that tokens report, if they do, whether
the portfolio refuses a position, what the oracle answers, and what a swap brings. -/
structure Outside where
  balance : Address → Address → Option Int
  portfolioRefuses : Portfolio → Address → Nat → Bool
  oracle : Nat → OracleReading
  swap : Except ContractError Int

structure CircuitBreaker where
  active : Bool
  ledger : Option Nat

/-- What the admin, the keeper and governance set. -/
structure TradeConfig where
  admin : Option Address
  userPortfolio : Option Address
  stopLossPortfolio : Option Address
  oracle : Option Address
  sdexRouter : Option Address
  positionLimitExempt : Table Address Bool
  copyTradeEstimatedFee : Option Int
  dailyVolumeLimit : Option Int
  maxOpenInterestPerPair : Option Int
  maxOpenPositions : Option Nat
  minTradeSize : Table Address Int
  sdexPrice : Table Address Int
  featureFlags : Table String Bool
  paused : Bool
  confirmationDepth : Option Nat
  tradeGracePeriod : Option Nat
  maxRetryCount : Option Nat
  deadLetterRetentionLedgers : Option Nat

namespace TradeConfig

/-- The configuration before anything is set. -/
def blank : TradeConfig where
  admin := none
  userPortfolio := none
  stopLossPortfolio := none
  oracle := none
  sdexRouter := none
  positionLimitExempt := ∅
  copyTradeEstimatedFee := none
  dailyVolumeLimit := none
  maxOpenInterestPerPair := none
  maxOpenPositions := none
  minTradeSize := ∅
  sdexPrice := ∅
  featureFlags := ∅
  paused := false
  confirmationDepth := none
  tradeGracePeriod := none
  maxRetryCount := none
  deadLetterRetentionLedgers := none

variable (config : TradeConfig)

def effectiveEstimatedFee : Int := config.copyTradeEstimatedFee.getD defaultEstimatedCopyTradeFee

def effectiveMinTradeSize (token : Address) : Int :=
  (config.minTradeSize.lookup token).getD defaultMinTradeSize

def effectiveMaxOpenPositions : Nat := config.maxOpenPositions.getD defaultMaxOpenPositions

def volumeLimit : Int := config.dailyVolumeLimit.getD 0

def effectiveGracePeriod : Nat := config.tradeGracePeriod.getD defaultGracePeriodLedgers

def effectiveMaxRetryCount : Nat := config.maxRetryCount.getD defaultMaxRetryCount

def effectiveDeadLetterRetention : Nat :=
  config.deadLetterRetentionLedgers.getD defaultDeadLetterRetentionLedgers

def depth : Nat := config.confirmationDepth.getD defaultConfirmationDepth

def isExempt (user : Address) : Bool := (config.positionLimitExempt.lookup user).getD false

/-- A feature is enabled unless its flag says otherwise. -/
def isFlagEnabled (name : String) : Bool := (config.featureFlags.lookup name).getD true

end TradeConfig

structure MarketStore where
  config : TradeConfig
  breaker : CircuitBreaker
  lastInsufficientBalance : Table Address InsufficientBalanceDetail
  dailyVolume : Table Address Int
  dailyVolumeDay : Table Address Nat
  openInterestPerPair : Table Address Int
  userPositionCount : Table Address Nat
  feeDeductedFromReceived : Table Address Nat
  tradeReceipts : Table Nat TradeReceipt
  nextTradeReceiptId : Option Nat
  pendingTradeConfirmation : Option TradeOrder
  partialFills : Table (Address × Nat) PartialFillRecord
  executionLock : Bool
  portfolio : Portfolio

/-- The market before anything is called. -/
def MarketStore.blank : MarketStore where
  config := .blank
  breaker := ⟨false, none⟩
  lastInsufficientBalance := ∅
  dailyVolume := ∅
  dailyVolumeDay := ∅
  openInterestPerPair := ∅
  userPositionCount := ∅
  feeDeductedFromReceived := ∅
  tradeReceipts := ∅
  nextTradeReceiptId := none
  pendingTradeConfirmation := none
  partialFills := ∅
  executionLock := false
  portfolio := .empty

abbrev MarketProgram := Program MarketStore ContractError

/-- The host's check that an address authorized this call. -/
def requireAuth {σ : Type} (env : Env) (address : Address) : Program σ ContractError Unit :=
  demand (address ∈ env.auths)

/-- The admin must be set and have authorized the call. -/
def admitAdmin {σ : Type} (env : Env) (config : TradeConfig) : Program σ ContractError Unit := do
  let admin ← orFail config.admin .notInitialized
  requireAuth env admin

end StellarSwipe.TradeExecutor
