import StellarSwipe.Library.KeyedSum
import StellarSwipe.Token

/-!
# Data and storage of the fee collector

The records that the collector stores, its limits and defaults, and the failures of its entry
points.
-/

namespace StellarSwipe.FeeCollector

open FixedWidth

/-- Why an entry point of the collector fails. -/
inductive ContractError where
  | alreadyInitialized
  | notInitialized
  | unauthorized
  | invalidAmount
  | insufficientTreasuryBalance
  | withdrawalNotQueued
  | timelockNotElapsed
  | arithmeticOverflow
  | feeRateTooHigh
  | feeRateTooLow
  | oracleNotConfigured
  | oracleConversionFailed
  | feeRoundedToZero
  | burnRateTooHigh
  | invalidFeeConfiguration
  | networkConditionInvalid
  | failedCollectionNotFound
  | retryLimitExceeded
  | waterfallNotConfigured
  | invalidMultiplierBounds
  | selfReferralNotAllowed
  | referralAlreadyRegistered
  | unauthorizedCaller
  | invalidTokenMetadata
  | payoutExceedsCap
  | insufficientInsuranceBalance
  | claimAlreadyProcessed
  | contractPaused
  | insufficientTokenBalance
  | insufficientTokenAllowance
  | tokenOperationFailed

/-- A failed token call as the collector reports it. -/
def ContractError.ofTokenFailure : TokenFailure → ContractError
  | .unauthorized => .unauthorized
  | .insufficientBalance => .insufficientTokenBalance
  | .insufficientAllowance => .insufficientTokenAllowance
  | .invalidRequest | .overflow | .otherContractError _ | .hostError => .tokenOperationFailed

/-- A traded asset; only the oracle looks into it. -/
structure Asset where
  code : String
  issuer : Option Address
deriving DecidableEq

structure FeeOptimizationConfig where
  maxDynamicRateBps : Nat
  congestionSensitivityBps : Nat
  minEffectiveRateBps : Nat
  maxRetryAttempts : Nat

structure FailedFeeCollection where
  id : String
  trader : Address
  token : Address
  tradeAmount : Int
  tradeAsset : Asset
  retryCount : Nat
  lastError : String
deriving DecidableEq

structure QueuedWithdrawal where
  recipient : Address
  token : Address
  amount : Int
  queuedAt : Nat

structure MonthlyTradeVolume where
  monthBucket : Nat
  volumeUsd : Int

structure VolumeTier where
  volumeThresholdUsd : Int
  discountBps : Nat

structure CongestionConfig where
  minMultiplierBps : Nat
  maxMultiplierBps : Nat
  stalenessThresholdSecs : Nat
  defaultMultiplierBps : Nat

structure CongestionSignal where
  multiplierBps : Nat
  updatedAt : Nat

structure WaterfallTier where
  name : String
  priority : Nat
  targetAmount : Int
  minimumAmount : Int
  recipient : Address

structure TokenMetadata where
  symbol : String
  name : String
  decimals : Nat

/-- The fee settings as one collection reads them, kept in temporary storage under the
version of the settings. -/
structure TxFeeConfigCache where
  optimizationConfig : FeeOptimizationConfig
  networkScore : Nat
  burnRate : Nat
  protocolToken : Option Address

def maxFeeRateBps : Nat := 100

def minFeeRateBps : Nat := 1

def defaultFeeRateBps : Nat := 30

def defaultBurnRateBps : Nat := 1000

def maxBurnRateBps : Nat := 10000

def defaultMaxRebateBps : Nat := 8000

def defaultRevenueShareRateBps : Nat := 2000

def secondsPerDay : Nat := 86400

/-- Thirty days at five seconds a ledger. -/
def ledgersPerMonthApprox : Nat := 518400

def silverTierVolumeUsd : Int := 10000 * 10000000

def goldTierVolumeUsd : Int := 50000 * 10000000

def silverDiscountBps : Nat := 5

def goldDiscountBps : Nat := 10

def maxBatchFeeSize : Nat := 20

def oracleRatePrecision : Int := 1000000

def FeeOptimizationConfig.defaultConfig : FeeOptimizationConfig := ⟨100, 50, minFeeRateBps, 3⟩

def CongestionConfig.defaultConfig : CongestionConfig := ⟨10000, 50000, 300, 10000⟩

def clearedProtocolToken : Address := 0

/-- At most eighteen decimals, a symbol of one to twelve and a name of one to sixty-four
characters. -/
def TokenMetadata.Valid (metadata : TokenMetadata) : Prop :=
  metadata.decimals ≤ 18 ∧
    (1 ≤ metadata.symbol.utf8ByteSize ∧ metadata.symbol.utf8ByteSize ≤ 12) ∧
    metadata.name.utf8ByteSize ≠ 0 ∧ metadata.name.utf8ByteSize ≤ 64
deriving Decidable

/-- The day of a moment, in which fees and rebates are totalled. -/
def dayOf (timestamp : Nat) : Nat := timestamp / secondsPerDay

/-- A share of an amount in basis points, rounded towards zero, if the product fits. -/
def bpsOf (amount : Int) (bps : Nat) : Option Int :=
  (i128.checkedMul amount bps).map (·.tdiv 10000)

/-- A number cast to thirty-two bits. -/
def asU32 (value : Nat) : Nat := value % 2 ^ 32

/-! ## The fee collector's storage and what it reaches outside

The entries are grouped into settings, the ledgers of collected fees, and the records of traders.
A world is the collector at its address among the tokens. What the price oracle, another contract,
answers during a call is an input of the call.
-/

open Program

/-- Entries that administrators and users set. An absent entry has its default. -/
structure Settings where
  initialized : Bool
  admin : Option Address
  paused : Bool
  authorizedCaller : Table Address Bool
  oracleContract : Option Address
  feeRate : Option Nat
  burnRate : Option Nat
  networkConditionScore : Option Nat
  feeOptimizationConfig : Option FeeOptimizationConfig
  configVersion : Nat
  congestionConfig : Option CongestionConfig
  congestionSignal : Option CongestionSignal
  protocolToken : Option Address
  registeredTokenMetadata : Table Address TokenMetadata
  revenueShareRateBps : Option Nat
  referrer : Table Address Address
  referralFeeShareBps : Option Nat
  volumeDiscountConfig : Option (List VolumeTier)
  waterfallConfig : Option (List WaterfallTier)
  payoutCurrency : Table Address Address
  insurancePayoutCap : Table Address Int
  maxRebateBps : Option Nat

namespace Settings

def empty : Settings :=
  ⟨false, none, false, ∅, none, none, none, none, none, 0, none, none, none, ∅, none, ∅, none, none,
    none, ∅, ∅, none⟩

variable (settings : Settings)

def getFeeRate : Nat := settings.feeRate.getD defaultFeeRateBps

def getBurnRate : Nat := settings.burnRate.getD defaultBurnRateBps

def getNetworkConditionScore : Nat := settings.networkConditionScore.getD 0

def getFeeOptimizationConfig : FeeOptimizationConfig :=
  settings.feeOptimizationConfig.getD .defaultConfig

def getCongestionConfig : CongestionConfig := settings.congestionConfig.getD .defaultConfig

def getRevenueShareRateBps : Nat :=
  settings.revenueShareRateBps.getD defaultRevenueShareRateBps

def getReferralFeeShareBps : Nat := settings.referralFeeShareBps.getD 0

def getMaxRebateBps : Nat := settings.maxRebateBps.getD defaultMaxRebateBps

def isAuthorizedCaller (caller : Address) : Bool :=
  (settings.authorizedCaller.lookup caller).getD false

/-- The next version of the settings, wrapping around. -/
def bumpConfigVersion : Settings :=
  { settings with configVersion := asU32 (settings.configVersion + 1) }

end Settings

/-- What the collector owes and holds, in every token. -/
structure Accounts where
  treasury : Table Address Int
  insurance : Table Address Int
  revenueSharePool : Table Address Int
  pendingFees : Table (Address × Address) Int
  dailyFeeTotal : Table (Address × Nat) Int
  epochRebateDistributed : Table (Address × Nat) Int

/-- What the collector remembers about traders, and its caches. -/
structure Traders where
  hasTraded : Table Address Bool
  monthlyVolume : Table Address MonthlyTradeVolume
  feeCache : Table Nat TxFeeConfigCache

structure Store where
  settings : Settings
  accounts : Accounts
  traders : Traders
  queuedWithdrawal : Option QueuedWithdrawal
  failedCollections : Table String FailedFeeCollection
  processedClaims : Table String Bool

def Accounts.empty : Accounts := ⟨∅, ∅, ∅, ∅, ∅, ∅⟩

def Store.empty : Store := ⟨.empty, .empty, ⟨∅, ∅, ∅⟩, none, ∅, ∅⟩

/-- The collector at its own address among the tokens. -/
structure World where
  self : Address
  store : Store
  tokens : Tokens

/-- A deployed collector with the fees that providers are owed. No entry point credits
them; the settlement layer that shares the storage does. -/
def World.deployed (self : Address) (tokens : Tokens)
    (pendingFees : Table (Address × Address) Int) : World :=
  ⟨self, { Store.empty with accounts := { Accounts.empty with pendingFees } }, tokens⟩

/-- What the oracle answers during a call, where it answers. -/
structure Feed where
  convertToBase : Int → Asset → Option Int
  getRate : Address → Address → Option Int

/-- An oracle that knows nothing. -/
def Feed.silent : Feed := ⟨fun _ _ => none, fun _ _ => none⟩

/-- An oracle at which everything is worth the same. -/
def Feed.par : Feed := ⟨fun amount _ => some amount, fun _ _ => some oracleRatePrecision⟩

abbrev FeeProgram := Program World ContractError

namespace World

variable (world : World)

def setSettings (settings : Settings) : World :=
  { world with store := { world.store with settings } }

def setAccounts (accounts : Accounts) : World :=
  { world with store := { world.store with accounts } }

def setTraders (traders : Traders) : World :=
  { world with store := { world.store with traders } }

def setQueued (queued : Option QueuedWithdrawal) : World :=
  { world with store := { world.store with queuedWithdrawal := queued } }

def setFailed (failed : Table String FailedFeeCollection) : World :=
  { world with store := { world.store with failedCollections := failed } }

def setTokens (tokens : Tokens) : World := { world with tokens }

end World

variable (env : Env)

/-- The host's check that an address authorized this call; the collector signs nothing. -/
def requireAuth (address : Address) : FeeProgram Unit := do
  let world ← get
  demand (address ∈ env.auths ∧ address ≠ world.self)

def requireInitialized : FeeProgram Unit := do
  ensure ((← get).store.settings.initialized = true) .notInitialized

def requireNotPaused : FeeProgram Unit := do
  ensure ((← get).store.settings.paused = false) .contractPaused

/-- The stored administrator; reading it aborts when there is none. -/
def getAdmin : FeeProgram Address := do
  orTrap (← get).store.settings.admin

/-- The stored administrator has authorized this call. -/
def requireAdmin : FeeProgram Unit := do
  requireAuth env (← getAdmin)

/-- The administrator passed as an argument is the stored one, who has authorized. -/
def requireNamedAdmin (admin : Address) : FeeProgram Unit := do
  requireInitialized
  let has ← getAdmin
  requireAuth env has
  ensure (has = admin) .unauthorized

/-- The caller is the administrator or an allowlisted contract. -/
def requireAdminOrListed (caller : Address) : FeeProgram Unit := do
  requireAuth env caller
  let admin ← getAdmin
  ensure (caller = admin ∨ (← get).store.settings.isAuthorizedCaller caller = true)
    .unauthorizedCaller

/-- Registered metadata must be valid; a token without metadata passes. -/
def validateTokenMetadata (token : Address) : FeeProgram Unit := do
  match (← get).store.settings.registeredTokenMetadata.lookup token with
  | some metadata => ensure metadata.Valid .invalidTokenMetadata
  | none => pure ()

def transfer (env : Env) (token sender receiver : Address) (amount : Int) : FeeProgram Unit := do
  let world ← get
  match world.tokens.transfer env token sender receiver amount with
  | .ok tokens => set (world.setTokens tokens)
  | .error failure => fail (.ofTokenFailure failure)

def burn (env : Env) (token sender : Address) (amount : Int) : FeeProgram Unit := do
  let world ← get
  match world.tokens.burn env token sender amount with
  | .ok tokens => set (world.setTokens tokens)
  | .error failure => fail (.ofTokenFailure failure)

section Rules

variable {post : Unit → World → Prop} {fault : Fault ContractError → World → Prop} {world : World}
  {env : Env}

variable (token : Address)

@[simp] theorem wp_auth (address : Address) : wp (requireAuth env address) post fault world ↔
      (address ∈ env.auths ∧ address ≠ world.self → post () world) ∧
        (¬ (address ∈ env.auths ∧ address ≠ world.self) → fault .trap world) := by
  simp only [requireAuth, wp_rules]

@[simp] theorem wp_initialized : wp requireInitialized post fault world ↔
      (world.store.settings.initialized = true → post () world) ∧
        (¬ world.store.settings.initialized = true → fault (.error .notInitialized) world) := by
  simp only [requireInitialized, wp_rules]

@[simp] theorem wp_notPaused : wp requireNotPaused post fault world ↔
      (world.store.settings.paused = false → post () world) ∧
        (¬ world.store.settings.paused = false → fault (.error .contractPaused) world) := by
  simp only [requireNotPaused, wp_rules]

@[simp] theorem wp_getAdmin {post : Address → World → Prop} : wp getAdmin post fault world ↔
      (∀ admin, world.store.settings.admin = some admin → post admin world) ∧
        (world.store.settings.admin = none → fault .trap world) := by
  simp only [getAdmin, wp_rules]

@[simp] theorem wp_validateTokenMetadata : wp (validateTokenMetadata token) post fault world ↔
      ((∀ metadata, world.store.settings.registeredTokenMetadata.lookup token = some metadata →
          metadata.Valid) → post () world) ∧
        (¬ (∀ metadata, world.store.settings.registeredTokenMetadata.lookup token =
          some metadata → metadata.Valid) → fault (.error .invalidTokenMetadata) world) := by
  simp only [validateTokenMetadata, wp_rules]
  cases world.store.settings.registeredTokenMetadata.lookup token <;> simp

@[simp] theorem wp_transfer (sender receiver : Address) (amount : Int) :
    wp (transfer env token sender receiver amount) post fault world ↔
      (∀ tokens, world.tokens.transfer env token sender receiver amount = .ok tokens →
        post () (world.setTokens tokens)) ∧
      (∀ failure, world.tokens.transfer env token sender receiver amount = .error failure →
        fault (.error (.ofTokenFailure failure)) world) := by
  simp only [transfer, wp_rules]
  cases world.tokens.transfer env token sender receiver amount <;> simp

@[simp] theorem wp_burn (sender : Address) (amount : Int) :
    wp (burn env token sender amount) post fault world ↔
      (∀ tokens, world.tokens.burn env token sender amount = .ok tokens →
        post () (world.setTokens tokens)) ∧
      (∀ failure, world.tokens.burn env token sender amount = .error failure →
        fault (.error (.ofTokenFailure failure)) world) := by
  simp only [burn, wp_rules]
  cases world.tokens.burn env token sender amount <;> simp

end Rules

end StellarSwipe.FeeCollector
