import StellarSwipe.TradeExecutor.Types

/-!
# Market copy trades

A trade goes through its gates, is counted against the user's volume of the day, and is then
opened with the portfolio, receipted and left to be confirmed.
-/

namespace StellarSwipe.TradeExecutor

open FixedWidth Program

/-- A sum that stops at the largest amount when it cannot be represented. -/
def raised (current amount : Int) : Int := (i128.checkedAdd current amount).getD i128.high

namespace MarketStore

variable (store : MarketStore)

/-- The breaker trips trades until its time has passed. -/
def marketCircuitBreakerActiveReadonly (env : Env) : Bool :=
  store.breaker.active && decide
    (env.sequence - store.breaker.ledger.getD env.sequence < circuitBreakerDurationLedgers)

def openInterestForPair (pair : Address) : Int := store.openInterestPerPair.read pair

/-- The trade would push the pair's open interest past its limit. -/
def ExceedsOpenInterest (pair : Address) (amount : Int) : Prop :=
  let maxOpenInterest := store.config.maxOpenInterestPerPair.getD 0
  0 < maxOpenInterest ∧ maxOpenInterest < raised (store.openInterestForPair pair) amount
deriving Decidable

variable (user : Address)

def positionCount : Nat := (store.userPositionCount.lookup user).getD 0

def AtPositionCap (exempt : Bool) : Prop :=
  exempt = false ∧ store.config.effectiveMaxOpenPositions ≤ store.positionCount user
deriving Decidable

/-- The volume of a user on a day, as far as it is recorded. -/
def volumeOn (today : Nat) (user : Address) : Int :=
  if (store.dailyVolumeDay.lookup user).getD 0 = today then store.dailyVolume.read user else 0

end MarketStore

def secondsPerDay : Nat := 86400

variable (env : Env)

/-- The day of an invocation. -/
def today : Nat := env.timestamp / secondsPerDay

/-- The check of the breaker, which resets it once its time has passed. -/
def marketCircuitBreakerActive : MarketProgram Bool := do
  let breaker := (← get).breaker
  if breaker.active = false then pure false
  else if circuitBreakerDurationLedgers ≤ env.sequence - breaker.ledger.getD env.sequence then do
    modify fun store => { store with breaker := ⟨false, none⟩ }
    pure false
  else pure true

/-- What the user lacks to hold an amount and a fee, if anything. -/
def balanceShortfall (available amount estimatedFee : Int) : Option InsufficientBalanceDetail :=
  match i128.checkedAdd amount estimatedFee with
  | none => some ⟨i128.high, available⟩
  | some required => if required ≤ available then none else some ⟨required, available⟩

/-- The amount by a percentage of the balance, unless this comes to nothing. -/
def portfolioShare (portfolioValue : Int) (pctBps : Nat) (explicitAmount : Int) : Int :=
  let computed := ((i128.checkedMul portfolioValue pctBps).map (·.tdiv 10000)).getD 0
  if computed ≤ 0 then explicitAmount else computed

/-- The configuration that is read once for a whole batch. -/
structure BatchExecutionContext where
  portfolio : Address
  estimatedFee : Int
  dailyLimit : Int
  circuitBreakerActive : Bool

def putLock (locked : Bool) : MarketProgram Unit :=
  modify fun store => { store with executionLock := locked }

/-- An error that takes back the lock and nothing else. -/
def failUnlocked {α : Type} (reason : ContractError) : MarketProgram α := do
  putLock false
  fail reason

def ensureUnlocked (condition : Prop) [Decidable condition] (reason : ContractError) :
    MarketProgram Unit :=
  if condition then pure () else failUnlocked reason

def countVolume (limit : Int) (trade : Trade) : MarketProgram Unit := do
  if 0 < limit then do
    let newVolume := raised ((← get).volumeOn (today env) trade.user) trade.amount
    ensureUnlocked (¬ limit < newVolume) .dailyVolumeLimitExceeded
    modify fun store => { store with
      dailyVolume := store.dailyVolume.insert trade.user newVolume
      dailyVolumeDay := store.dailyVolumeDay.insert trade.user (today env) }
  else pure ()

variable (outside : Outside)

/-- The balance that a token reports. A token that does not answer aborts the invocation. -/
def readBalance (token user : Address) : MarketProgram Int :=
  orTrap (outside.balance token user)

variable (trade : Trade)

def resolveTradeAmount : MarketProgram Int := do
  match trade.portfolioPctBps with
  | none => pure trade.amount
  | some pctBps => do
    ensureUnlocked (¬ maxPositionPctBps < pctBps) .positionPctTooHigh
    if (← get).config.oracle = none then pure trade.amount
    else do
      let portfolioValue ← readBalance outside trade.token trade.user
      pure (portfolioShare portfolioValue pctBps trade.amount)

/-- Whether the fee is left to be deducted from what the trade receives. -/
def checkBalance (effectiveAmount fee : Int) : MarketProgram Bool := do
  let available ← readBalance outside trade.token trade.user
  match balanceShortfall available effectiveAmount fee with
  | none => do
    modify fun store => { store with
      lastInsufficientBalance := store.lastInsufficientBalance.erase trade.user }
    pure false
  | some detail => do
    ensureBalance detail (balanceShortfall available effectiveAmount 0)
    modify fun store => { store with
      lastInsufficientBalance := store.lastInsufficientBalance.erase trade.user }
    pure true
where
  ensureBalance (detail : InsufficientBalanceDetail) :
      Option InsufficientBalanceDetail → MarketProgram Unit
    | none => pure ()
    | some _ => do
      modify fun store => { store with
        lastInsufficientBalance := store.lastInsufficientBalance.insert trade.user detail }
      failUnlocked .insufficientBalance

def validateAndRecordPosition (position : Position) (exempt : Bool) : MarketProgram Unit := do
  let store ← get
  let maxPositions := if exempt = true then u32Max else maxPositionsPerUser
  ensureUnlocked (outside.portfolioRefuses store.portfolio position.user maxPositions = false)
    .positionLimitReached
  modify fun store => { store with portfolio := store.portfolio.record position }

namespace MarketStore

variable (store : MarketStore)

def increaseOpenInterest (pair : Address) (amount : Int) : MarketStore :=
  let next := raised (store.openInterestForPair pair) amount
  { store with openInterestPerPair := store.openInterestPerPair.insert pair next }

def decreaseOpenInterest (pair : Address) (amount : Int) : MarketStore :=
  let next := max (i128.saturatingSub (store.openInterestForPair pair) amount) 0
  { store with openInterestPerPair := store.openInterestPerPair.insert pair next }

variable (user : Address)

def incrementUserPositionCount : MarketStore :=
  let next := satCount u32Max (store.positionCount user) 1
  { store with userPositionCount := store.userPositionCount.insert user next }

def decrementUserPositionCount : MarketStore :=
  let next := store.positionCount user - 1
  { store with userPositionCount := store.userPositionCount.insert user next }

def deductFeeFromReceived : MarketStore :=
  let tradeId := satCount u64Max ((store.feeDeductedFromReceived.lookup user).getD 0) 1
  { store with feeDeductedFromReceived := store.feeDeductedFromReceived.insert user tradeId }

def receiptId : Nat := store.nextTradeReceiptId.getD 1

def recordTradeReceipt (env : Env) (user token : Address) (amount : Int) : MarketStore :=
  { store with
    tradeReceipts := store.tradeReceipts.insert store.receiptId
      ⟨user, token, amount, (store.config.sdexPrice.lookup token).getD 0, env.timestamp,
        store.receiptId⟩
    nextTradeReceiptId := some (satCount u64Max store.receiptId 1) }

/-- Leave an executed trade to be confirmed, in place of whichever was left before. -/
def awaitConfirmation (env : Env) (tradeId : Nat) (user : Address) (amount : Int) : MarketStore :=
  let pendingOrder : TradeOrder :=
    { executionLedger := env.sequence
      tradeId
      user
      amount
      expiresAtLedger := satCount u32Max env.sequence tradeTimeoutLedgers
      status := .executedAwaitingConfirmation }
  { store with pendingTradeConfirmation := some pendingOrder }

def opened (env : Env) (trade : Trade) (effectiveAmount : Int) (deductsFee : Bool) : MarketStore :=
  let counted := (store.increaseOpenInterest trade.token trade.amount).incrementUserPositionCount
    trade.user
  let charged := if deductsFee = true then counted.deductFeeFromReceived trade.user else counted
  let receipted := charged.recordTradeReceipt env trade.user trade.token effectiveAmount
  { receipted.awaitConfirmation env store.receiptId trade.user effectiveAmount with
    executionLock := false }

end MarketStore

/-- Whether the breaker stops a trade, as it was read for the batch or as it is. -/
def breakerTripped : Option BatchExecutionContext → MarketProgram Bool
  | some context => pure context.circuitBreakerActive
  | none => marketCircuitBreakerActive env

def executeMarketCopyTrade (requireUserAuth : Bool) (batchCtx : Option BatchExecutionContext) :
    MarketProgram Unit := do
  demand (requireUserAuth = true → trade.user ∈ env.auths)
  ensure (¬ trade.amount ≤ 0) .invalidAmount
  let store ← get
  ensure (¬ trade.amount < store.config.effectiveMinTradeSize trade.token) .belowMinimumTradeSize
  let tripped ← breakerTripped env batchCtx
  ensure (tripped = false) .circuitBreakerActive
  ensure (¬ store.ExceedsOpenInterest trade.token trade.amount) .openInterestLimitReached
  ensure (store.executionLock = false) .reentrancyDetected
  putLock true
  countVolume env ((batchCtx.map (·.dailyLimit)).getD store.config.volumeLimit) trade
  ensureUnlocked (batchCtx.isSome = true ∨ store.config.userPortfolio.isSome = true)
    .notInitialized
  let exempt := store.config.isExempt trade.user
  ensureUnlocked (¬ store.AtPositionCap trade.user exempt) .tooManyOpenPositions
  let effectiveAmount ← resolveTradeAmount outside trade
  let fee := (batchCtx.map (·.estimatedFee)).getD store.config.effectiveEstimatedFee
  let useFeeFallback ← checkBalance outside trade effectiveAmount fee
  validateAndRecordPosition outside ⟨trade.user, some trade.token, effectiveAmount⟩ exempt
  modify fun store => store.opened env trade effectiveAmount
    (useFeeFallback && decide (0 < fee))

structure SimulationValidations where
  minTradeSizeOk : Bool
  circuitBreakerOk : Bool
  openInterestOk : Bool
  dailyVolumeOk : Bool
  positionCapOk : Bool
  positionPctOk : Bool
  balanceOk : Bool

structure SimulationResult where
  wouldSucceed : Bool
  effectiveAmount : Int
  estimatedFee : Int
  feePaidFromReceived : Bool
  availableBalance : Int
  requiredBalance : Int
  validations : SimulationValidations
  failureReason : Option Nat

/-- Note an error unless one is noted already. -/
def noteFailure (failed : Bool) (reason : ContractError) (failureReason : Option Nat) :
    Option Nat :=
  if failed = true ∧ failureReason = none then some reason.code else failureReason

/-- How the dry run reads the two balance checks: whether one passes, whether the fee is
left out, and what balance is required. -/
def simulateBalance (available effectiveAmount fee : Int) : Bool × Bool × Int :=
  match balanceShortfall available effectiveAmount fee with
  | none => (true, false, i128.saturatingAdd effectiveAmount fee)
  | some _ =>
    match balanceShortfall available effectiveAmount 0 with
    | none => (true, true, effectiveAmount)
    | some detail => (false, false, detail.required)

/-- The amount that the dry run finds. -/
def simulateAmount (store : MarketStore) (available : Int) (trade : Trade) : Int :=
  match trade.portfolioPctBps with
  | none => trade.amount
  | some pctBps =>
    if maxPositionPctBps < pctBps then trade.amount
    else if store.config.oracle = none then trade.amount
    else portfolioShare available pctBps trade.amount

/-- Dry-run a trade. It stops only when the token does not report a balance. -/
def simulateMarketCopyTrade : MarketProgram SimulationResult := do
  let store ← get
  let minTradeSizeOk := decide (store.config.effectiveMinTradeSize trade.token ≤ trade.amount)
  let circuitBreakerOk := !store.marketCircuitBreakerActiveReadonly env
  let openInterestOk := !decide (store.ExceedsOpenInterest trade.token trade.amount)
  let limit := store.config.volumeLimit
  let dailyVolumeOk := decide (0 < limit →
    raised (store.volumeOn (today env) trade.user) trade.amount ≤ limit)
  let positionCapOk :=
    !decide (store.AtPositionCap trade.user (store.config.isExempt trade.user))
  let positionPctOk := decide (∀ pctBps ∈ trade.portfolioPctBps, pctBps ≤ maxPositionPctBps)
  let available ← readBalance outside trade.token trade.user
  let effectiveAmount := simulateAmount store available trade
  let fee := store.config.effectiveEstimatedFee
  let (balanceOk, feePaidFromReceived, requiredBalance) :=
    simulateBalance available effectiveAmount fee
  let failureReason :=
    noteFailure (!balanceOk) .insufficientBalance <|
    noteFailure (!positionPctOk) .positionPctTooHigh <|
    noteFailure (!positionCapOk) .tooManyOpenPositions <|
    noteFailure (!dailyVolumeOk) .dailyVolumeLimitExceeded <|
    noteFailure (!openInterestOk) .openInterestLimitReached <|
    noteFailure (!circuitBreakerOk) .circuitBreakerActive <|
    noteFailure (!minTradeSizeOk) .belowMinimumTradeSize <|
    noteFailure (decide (trade.amount ≤ 0)) .invalidAmount none
  pure
    { wouldSucceed := failureReason.isNone
      effectiveAmount
      estimatedFee := fee
      feePaidFromReceived
      availableBalance := available
      requiredBalance
      validations := ⟨minTradeSizeOk, circuitBreakerOk, openInterestOk, dailyVolumeOk,
        positionCapOk, positionPctOk, balanceOk⟩
      failureReason }

end StellarSwipe.TradeExecutor
