import StellarSwipe.FeeCollector.Storage

/-!
# Collecting fees

A trader pays a share of its trade. Its first trade is free.
-/

namespace StellarSwipe.FeeCollector

open Program FixedWidth

/-- The congestion multiplier in force: the signal within its bounds while it is fresh. -/
def Settings.currentEffectiveMultiplier (settings : Settings) (now : Nat) : Nat :=
  let config := settings.getCongestionConfig
  match settings.congestionSignal with
  | some signal =>
    if config.stalenessThresholdSecs < now - signal.updatedAt then config.defaultMultiplierBps
    else max config.minMultiplierBps (min signal.multiplierBps config.maxMultiplierBps)
  | none => config.defaultMultiplierBps

/-- The largest discount of the tiers that a volume reaches. -/
def bestDiscount (volumeUsd : Int) (tiers : List VolumeTier) : Nat :=
  tiers.foldl (fun best tier =>
    if tier.volumeThresholdUsd ≤ volumeUsd ∧ best < tier.discountBps then tier.discountBps
    else best) 0

/-- The base rate under congestion, less the volume discount. -/
def Settings.feeRateForVolume (settings : Settings) (now : Nat) (volumeUsd : Int) : Nat :=
  let adjusted := asU32
    (min (settings.getFeeRate * settings.currentEffectiveMultiplier now) u64Max / 10000)
  let discount := match settings.volumeDiscountConfig with
    | some tiers => bestDiscount volumeUsd tiers
    | none =>
      if goldTierVolumeUsd ≤ volumeUsd then goldDiscountBps
      else if silverTierVolumeUsd ≤ volumeUsd then silverDiscountBps
      else 0
  max (adjusted - discount) minFeeRateBps

/-- The rate a payment in a token is charged. -/
def TxFeeConfigCache.effectiveFeeRate (cache : TxFeeConfigCache) (baseRate : Nat)
    (token : Address) : Nat :=
  let config := cache.optimizationConfig
  let adjustment := asU32 (min (cache.networkScore * config.congestionSensitivityBps) u64Max / 10000)
  let floored := max (satCount u32Max baseRate adjustment) config.minEffectiveRateBps
  let rate := min floored (min config.maxDynamicRateBps maxFeeRateBps)
  if cache.protocolToken = some token then max (rate / 2) minFeeRateBps else rate

/-- The fee of a trade and the part of it that is burned, if the products fit. -/
def feeAndBurnAmounts (tradeAmount : Int) (feeRateBps burnRateBps : Nat) : Option (Int × Int) := do
  let fee ← bpsOf tradeAmount feeRateBps
  let burned ← bpsOf fee burnRateBps
  pure (fee, burned)

variable (env : Env)

def currentMonthBucket : Nat := env.sequence / ledgersPerMonthApprox

/-- The volume of the current month; an older entry is dropped. -/
def activeMonthlyTradeVolume (user : Address) : FeeProgram (Option MonthlyTradeVolume) := do
  let world ← get
  match world.store.traders.monthlyVolume.lookup user with
  | some volume =>
    if volume.monthBucket = currentMonthBucket env then pure (some volume)
    else do
      set (world.setTraders { world.store.traders with
        monthlyVolume := world.store.traders.monthlyVolume.erase user })
      pure none
  | none => pure none

variable (feed : Feed)

def recordTradeVolume (user : Address) (tradeAsset : Asset) (amount : Int) : FeeProgram Unit := do
  discard (orFail (← get).store.settings.oracleContract .oracleNotConfigured)
  let usdVolume ← orFail (feed.convertToBase amount tradeAsset) .oracleConversionFailed
  let active ← activeMonthlyTradeVolume env user
  let current := (active.map MonthlyTradeVolume.volumeUsd).getD 0
  let updated ← orFail (i128.checkedAdd current usdVolume) .arithmeticOverflow
  modify fun world => world.setTraders { world.store.traders with
    monthlyVolume := world.store.traders.monthlyVolume.insert user
      ⟨currentMonthBucket env, updated⟩ }

def loadTxFeeConfig : FeeProgram TxFeeConfigCache := do
  let world ← get
  let settings := world.store.settings
  let key := settings.configVersion % 10
  match world.store.traders.feeCache.lookup key with
  | some cached => pure cached
  | none => do
    let computed : TxFeeConfigCache := ⟨settings.getFeeOptimizationConfig,
      settings.getNetworkConditionScore, settings.getBurnRate, settings.protocolToken⟩
    set (world.setTraders { world.store.traders with
      feeCache := world.store.traders.feeCache.insert key computed })
    pure computed

variable (trader : Address) (token : Address)

def burnOwn (amount : Int) : FeeProgram Unit := do
  if 0 < amount then burn env token (← get).self amount
  else pure ()

/-- Pay the trader's referrer its share, and return what is left to distribute. -/
def payReferrer (fee distributable : Int) : FeeProgram Int := do
  let world ← get
  match world.store.settings.referrer.lookup trader with
  | none => pure distributable
  | some referrer => do
    let share := (bpsOf fee world.store.settings.getReferralFeeShareBps).getD 0
    let paid := min share distributable
    if 0 < paid then do
      transfer env token world.self referrer paid
      pure (i128.saturatingSub distributable paid)
    else pure distributable

namespace Accounts

variable (accounts : Accounts)

def addRevenueSharePool (token : Address) (amount : Int) : Accounts :=
  { accounts with
    revenueSharePool := accounts.revenueSharePool.insert token
      (i128.saturatingAdd (accounts.revenueSharePool.read token) amount) }

def addDailyFeeTotal (token : Address) (day : Nat) (amount : Int) : Accounts :=
  { accounts with
    dailyFeeTotal := accounts.dailyFeeTotal.insert (token, day)
      (i128.saturatingAdd (accounts.dailyFeeTotal.read (token, day)) amount) }

def setTreasury (token : Address) (balance : Int) : Accounts :=
  { accounts with treasury := accounts.treasury.insert token balance }

end Accounts

/-- Put the revenue share into its pool and the rest into the treasury. -/
def creditFee (distributable remaining : Int) : FeeProgram Unit := do
  let world ← get
  let share := min ((bpsOf distributable world.store.settings.getRevenueShareRateBps).getD 0)
    remaining
  let treasuryCredit := i128.saturatingSub remaining share
  if 0 < share then set (world.setAccounts (world.store.accounts.addRevenueSharePool token share))
  else pure ()
  let accounts := (← get).store.accounts
  let updated ← orFail (i128.checkedAdd (accounts.treasury.read token) treasuryCredit)
    .arithmeticOverflow
  modify fun world => world.setAccounts (world.store.accounts.setTreasury token updated)

def chargeFee (tradeAmount : Int) (tradeAsset : Asset) (fee burned : Int) : FeeProgram Int := do
  transfer env token trader (← get).self fee
  let distributable ← orFail (i128.checkedSub fee burned) .arithmeticOverflow
  burnOwn env token burned
  let remaining ← payReferrer env trader token fee distributable
  creditFee token distributable remaining
  recordTradeVolume env feed trader tradeAsset tradeAmount
  modify fun world => world.setAccounts
    (world.store.accounts.addDailyFeeTotal token (dayOf env.timestamp) fee)
  pure fee

def collectFeeWithRecovery (tradeAmount : Int) (tradeAsset : Asset) : FeeProgram Int := do
  requireInitialized
  requireNotPaused
  requireAuth env trader
  ensure (0 < tradeAmount) .invalidAmount
  let world ← get
  if (world.store.traders.hasTraded.lookup trader).getD false = false then do
    set (world.setTraders { world.store.traders with
      hasTraded := world.store.traders.hasTraded.insert trader true })
    -- The first trade is free, also when its volume cannot be recorded.
    discard (attempt (recordTradeVolume env feed trader tradeAsset tradeAmount))
    pure 0
  else do
    let cache ← loadTxFeeConfig
    let active ← activeMonthlyTradeVolume env trader
    let volumeUsd := (active.map MonthlyTradeVolume.volumeUsd).getD 0
    let baseRate := (← get).store.settings.feeRateForVolume env.timestamp volumeUsd
    let feeRate := cache.effectiveFeeRate baseRate token
    let (fee, burned) ← orFail (feeAndBurnAmounts tradeAmount feeRate cache.burnRate)
      .arithmeticOverflow
    ensure (0 < fee) .feeRoundedToZero
    chargeFee env feed trader token tradeAmount tradeAsset fee burned

def collectFee (tradeAmount : Int) (tradeAsset : Asset) : FeeProgram Int :=
  collectFeeWithRecovery env feed trader token tradeAmount tradeAsset

structure BatchFeeInput where
  trader : Address
  token : Address
  tradeAmount : Int
  tradeAsset : Asset

def collectEach (env : Env) (feed : Feed) : List BatchFeeInput → FeeProgram (List Int)
  | [] => pure []
  | item :: rest => do
    let fee ← collectFeeWithRecovery env feed item.trader item.token item.tradeAmount
      item.tradeAsset
    let fees ← collectEach env feed rest
    pure (fee :: fees)

/-- Collect the fees of up to twenty trades, all or none. -/
def batchCollectFees (items : List BatchFeeInput) : FeeProgram (List Int) := do
  ensure (items.length ≠ 0 ∧ items.length ≤ maxBatchFeeSize) .invalidAmount
  discard loadTxFeeConfig
  collectEach env feed items

def queueFailedFeeCollection (admin : Address) (failed : FailedFeeCollection) :
    FeeProgram Unit := do
  requireNamedAdmin env admin
  modify fun world => world.setFailed (world.store.failedCollections.insert failed.id failed)

structure RetryConfig where
  maxAttempts : Nat
  baseDelayLedgers : Nat
  maxDelayLedgers : Option Nat

/-- The ledgers to wait after a number of attempts: the base delay, doubled with each
attempt after the first, up to the cap. -/
def RetryConfig.delay (config : RetryConfig) (attempt : Nat) : Nat :=
  let exponent := attempt - 1
  let multiplier := if exponent < 32 then asU32 (2 ^ exponent) else u32Max
  let delay := min (config.baseDelayLedgers * multiplier) u32Max
  match config.maxDelayLedgers with
  | some cap => min delay cap
  | none => delay

/-- The ledgers to wait before the next attempt, or nothing when none is left. A limit of
zero attempts is a misuse that aborts. -/
def shouldRetry (attempt : Nat) (config : RetryConfig) : FeeProgram (Option Nat) := do
  demand (0 < config.maxAttempts)
  if config.maxAttempts ≤ attempt then pure none
  else pure (some (config.delay attempt))

/-- The retries of failed collections back off from five to two hundred ledgers. -/
def Settings.retryConfig (settings : Settings) : RetryConfig :=
  ⟨settings.getFeeOptimizationConfig.maxRetryAttempts, 5, some 200⟩

/-- The record of a collection with one more attempt counted. -/
def FailedFeeCollection.retried (failed : FailedFeeCollection) : FailedFeeCollection :=
  { failed with retryCount := satCount u32Max failed.retryCount 1 }

def retryFailedFeeCollection (admin : Address) (id : String) : FeeProgram Int := do
  requireNamedAdmin env admin
  let world ← get
  let failed ← orFail (world.store.failedCollections.lookup id) .failedCollectionNotFound
  let delay ← shouldRetry failed.retryCount world.store.settings.retryConfig
  ensure (delay ≠ none) .retryLimitExceeded
  let record := failed.retried
  modify fun world => world.setFailed (world.store.failedCollections.insert record.id record)
  match ← attempt (collectFeeWithRecovery env feed record.trader record.token record.tradeAmount
    record.tradeAsset) with
  | .ok fee => do
    modify fun world => world.setFailed (world.store.failedCollections.erase id)
    pure fee
  | .error reason => fail reason

end StellarSwipe.FeeCollector
