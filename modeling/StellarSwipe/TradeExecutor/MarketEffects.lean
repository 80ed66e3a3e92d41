import StellarSwipe.TradeExecutor.Market

/-!
# What a market trade does

A trade is turned away at its first gates, which changes nothing but the breaker; or it is counted
and then fails, which leaves the count; or it is opened.
-/

namespace StellarSwipe.TradeExecutor

open FixedWidth Program MarketStore

section Rules

variable {α : Type} {store : MarketStore} {fault : Fault ContractError → MarketStore → Prop}
  {post : Unit → MarketStore → Prop}

@[simp] theorem wp_auth {σ : Type} {store : σ} {post : Unit → σ → Prop}
    {fault : Fault ContractError → σ → Prop} (env : Env) (address : Address) :
    wp (requireAuth env address) post fault store ↔
      (address ∈ env.auths → post () store) ∧ (address ∉ env.auths → fault .trap store) := by
  simp [requireAuth]

@[simp] theorem wp_putLock (locked : Bool) :
    wp (putLock locked) post fault store ↔ post () { store with executionLock := locked } :=
  Iff.rfl

@[simp] theorem wp_failUnlocked {post : α → MarketStore → Prop} (reason : ContractError) :
    wp (failUnlocked reason) post fault store ↔
      fault (.error reason) { store with executionLock := false } := Iff.rfl

@[simp] theorem wp_ensureUnlocked (condition : Prop)
    [Decidable condition] (reason : ContractError) :
    wp (ensureUnlocked condition reason) post fault store ↔ (condition → post () store) ∧
        (¬ condition → fault (.error reason) { store with executionLock := false }) := by
  simp [ensureUnlocked]

@[simp] theorem wp_readBalance {post : Int → MarketStore → Prop} (outside : Outside)
    (token user : Address) : wp (readBalance outside token user) post fault store ↔
      (∀ available, outside.balance token user = some available → post available store) ∧
        (outside.balance token user = none → fault .trap store) := by
  simp [readBalance]

end Rules

variable (store : MarketStore) (env : Env) (batchCtx : Option BatchExecutionContext)

/-- The day's limit, as it was read for the batch or as it is. -/
def MarketStore.limitFor : Int :=
  (batchCtx.map (·.dailyLimit)).getD store.config.volumeLimit

def MarketStore.feeFor : Int :=
  (batchCtx.map (·.estimatedFee)).getD store.config.effectiveEstimatedFee

/-- Whether the breaker stops a trade. -/
def MarketStore.trippedFor : Bool :=
  (batchCtx.map (·.circuitBreakerActive)).getD (store.marketCircuitBreakerActiveReadonly env)

/-- The gates that a trade passes before anything is written. -/
structure Admissible (env : Env) (batchCtx : Option BatchExecutionContext)
    (store : MarketStore) (trade : Trade) : Prop where
  pos : 0 < trade.amount
  sized : store.config.effectiveMinTradeSize trade.token ≤ trade.amount
  untripped : store.trippedFor env batchCtx = false
  interest : ¬ store.ExceedsOpenInterest trade.token trade.amount
  unlocked : store.executionLock = false
  volume : 0 < store.limitFor batchCtx →
    raised (store.volumeOn (today env) trade.user) trade.amount ≤ store.limitFor batchCtx

theorem admissible_iff (store : MarketStore) (trade : Trade) : Admissible env batchCtx store trade ↔
      0 < trade.amount ∧ store.config.effectiveMinTradeSize trade.token ≤ trade.amount ∧
      store.trippedFor env batchCtx = false ∧
      ¬ store.ExceedsOpenInterest trade.token trade.amount ∧ store.executionLock = false ∧
      (0 < store.limitFor batchCtx → raised (store.volumeOn (today env) trade.user) trade.amount ≤
          store.limitFor batchCtx) :=
  ⟨fun ⟨pos, sized, untripped, interest, unlocked, volume⟩ =>
    ⟨pos, sized, untripped, interest, unlocked, volume⟩,
    fun ⟨pos, sized, untripped, interest, unlocked, volume⟩ =>
    ⟨pos, sized, untripped, interest, unlocked, volume⟩⟩

instance (store : MarketStore) : DecidablePred (Admissible env batchCtx store) :=
  fun trade => decidable_of_iff' _ (admissible_iff env batchCtx store trade)

namespace MarketStore

variable (store : MarketStore)

def counted (env : Env) (limit : Int) (trade : Trade) : MarketStore :=
  if 0 < limit then
    { store with
      dailyVolume := store.dailyVolume.insert trade.user
        (raised (store.volumeOn (today env) trade.user) trade.amount)
      dailyVolumeDay := store.dailyVolumeDay.insert trade.user (today env) }
  else store

variable (env : Env) (limit : Int) (trade : Trade)

@[simp] theorem counted_config : (store.counted env limit trade).config = store.config := by
  rw [counted]
  split <;> rfl

@[simp] theorem counted_portfolio :
    (store.counted env limit trade).portfolio = store.portfolio := by
  rw [counted]
  split <;> rfl

@[simp] theorem counted_executionLock :
    (store.counted env limit trade).executionLock = store.executionLock := by
  rw [counted]
  split <;> rfl

@[simp] theorem counted_pending : (store.counted env limit trade).pendingTradeConfirmation =
      store.pendingTradeConfirmation := by
  rw [counted]
  split <;> rfl

@[simp] theorem counted_receiptId :
    (store.counted env limit trade).nextTradeReceiptId = store.nextTradeReceiptId := by
  rw [counted]
  split <;> rfl

theorem opened_eq (effectiveAmount : Int) (deductsFee : Bool) :
    store.opened env trade effectiveAmount deductsFee =
      { store with
        openInterestPerPair := store.openInterestPerPair.insert trade.token
          (raised (store.openInterestForPair trade.token) trade.amount)
        userPositionCount := store.userPositionCount.insert trade.user
          (satCount u32Max (store.positionCount trade.user) 1)
        feeDeductedFromReceived :=
          (store.opened env trade effectiveAmount deductsFee).feeDeductedFromReceived
        tradeReceipts := store.tradeReceipts.insert store.receiptId
          ⟨trade.user, trade.token, effectiveAmount,
            (store.config.sdexPrice.lookup trade.token).getD 0, env.timestamp, store.receiptId⟩
        nextTradeReceiptId := some (satCount u64Max store.receiptId 1)
        pendingTradeConfirmation := some ⟨env.sequence, store.receiptId, trade.user,
          effectiveAmount, satCount u32Max env.sequence tradeTimeoutLedgers,
          .executedAwaitingConfirmation⟩
        executionLock := false } := by
  cases deductsFee <;> rfl

def resolvedAmount (outside : Outside) (trade : Trade) : Option Int :=
  match trade.portfolioPctBps with
  | none => some trade.amount
  | some pctBps =>
    if maxPositionPctBps < pctBps then none
    else if store.config.oracle = none then some trade.amount
    else (outside.balance trade.token trade.user).map fun value =>
      portfolioShare value pctBps trade.amount

end MarketStore

/-- What a trade does to the market, by what it reports. -/
inductive TradeEffect (env : Env) (outside : Outside) (batchCtx : Option BatchExecutionContext)
    (pre : MarketStore) (trade : Trade) : Except ContractError Unit → MarketStore → Prop where
  | turnedAway {reason : ContractError} {breaker : CircuitBreaker}
      (inadmissible : ¬ Admissible env batchCtx pre trade) :
      TradeEffect env outside batchCtx pre trade (.error reason)
        { pre with breaker }
  | unopened {reason : ContractError} {breaker : CircuitBreaker}
      {shortfalls : Table Address InsufficientBalanceDetail}
      (admissible : Admissible env batchCtx pre trade) :
      TradeEffect env outside batchCtx pre trade (.error reason)
        { pre.counted env (pre.limitFor batchCtx) trade with
          breaker
          lastInsufficientBalance := shortfalls }
  | opened {effectiveAmount : Int} {deductsFee : Bool} {breaker : CircuitBreaker}
      {shortfalls : Table Address InsufficientBalanceDetail}
      (admissible : Admissible env batchCtx pre trade)
      (resolved : pre.resolvedAmount outside trade = some effectiveAmount) :
      TradeEffect env outside batchCtx pre trade (.ok ())
        ({ pre.counted env (pre.limitFor batchCtx) trade with
          breaker
          lastInsufficientBalance := shortfalls
          executionLock := true
          portfolio := pre.portfolio.record
            ⟨trade.user, some trade.token, effectiveAmount⟩ }.opened env trade effectiveAmount
              deductsFee)

/-- The check of the breaker changes nothing else, and finds what a read would. -/
theorem marketCircuitBreakerActive_spec (pre : MarketStore) : wp (marketCircuitBreakerActive env)
      (fun tripped after => tripped = pre.marketCircuitBreakerActiveReadonly env ∧
        ∃ breaker, after = { pre with breaker })
      (fun _ _ => False) pre := by
  rw [marketCircuitBreakerActive, wp_bind, wp_get, wp_ite]
  refine ⟨fun quiet => ⟨by simp [marketCircuitBreakerActiveReadonly, quiet],
    pre.breaker, rfl⟩, fun active => ?_⟩
  rw [Bool.not_eq_false] at active
  rw [wp_ite]
  refine ⟨fun elapsed => ?_, fun recent => ?_⟩
  · simp only [wp_rules]
    refine ⟨?_, _, rfl⟩
    simp [marketCircuitBreakerActiveReadonly, active, elapsed]
  · refine ⟨?_, pre.breaker, rfl⟩
    simp [marketCircuitBreakerActiveReadonly, active, not_le.mp recent]

theorem breakerTripped_spec (pre : MarketStore) : wp (breakerTripped env batchCtx)
      (fun tripped after => tripped = pre.trippedFor env batchCtx ∧
        ∃ breaker, after = { pre with breaker })
      (fun _ _ => False) pre := by
  cases batchCtx with
  | none => exact marketCircuitBreakerActive_spec env pre
  | some context => exact ⟨rfl, pre.breaker, rfl⟩

section Trade

variable {env : Env} {outside : Outside} {batchCtx : Option BatchExecutionContext}
  {pre : MarketStore} {trade : Trade}

theorem TradeEffect.config {result : Except ContractError Unit} {after : MarketStore}
    (effect : TradeEffect env outside batchCtx pre trade result after) :
    after.config = pre.config := by
  cases effect with
  | turnedAway => rfl
  | unopened => exact pre.counted_config env _ trade
  | opened =>
    rw [opened_eq]
    exact pre.counted_config env _ trade

/-- The postcondition on a fault. -/
def Failed (env : Env) (outside : Outside) (batchCtx : Option BatchExecutionContext)
    (pre : MarketStore) (trade : Trade) (reason : Fault ContractError)
    (after : MarketStore) : Prop :=
  reason.holds (fun error => TradeEffect env outside batchCtx pre trade (.error error) after) True

theorem resolveTradeAmount_spec {store : MarketStore} (config : store.config = pre.config) :
    wp (resolveTradeAmount outside trade)
      (fun effectiveAmount after => pre.resolvedAmount outside trade = some effectiveAmount ∧
        after = store) (fun reason after => reason.holds
        (fun _ => after = { store with executionLock := false }) True) store := by
  rw [resolveTradeAmount, resolvedAmount]
  cases trade.portfolioPctBps with
  | none => exact ⟨rfl, rfl⟩
  | some pctBps =>
    rw [wp_bind, wp_ensureUnlocked]
    refine ⟨fun within => ?_, fun _ => rfl⟩
    rw [wp_bind, wp_get, wp_ite, config]
    refine ⟨fun blind => ⟨by simp only [if_neg within, if_pos blind], rfl⟩, fun seen => ?_⟩
    rw [wp_bind, wp_readBalance]
    refine ⟨fun value read => ⟨?_, rfl⟩, fun _ => trivial⟩
    simp only [if_neg within, if_neg seen, read, Option.map_some]

theorem checkBalance_spec (store : MarketStore) (effectiveAmount fee : Int) :
    wp (checkBalance outside trade effectiveAmount fee)
      (fun _ after => ∃ shortfalls, after = { store with lastInsufficientBalance := shortfalls })
      (fun reason after => reason.holds (fun _ => ∃ shortfalls, after =
        { store with
          lastInsufficientBalance := shortfalls
          executionLock := false }) True) store := by
  simp only [checkBalance, wp_bind, wp_readBalance]
  refine ⟨fun available _ => ?_, fun _ => trivial⟩
  split
  next => exact ⟨_, rfl⟩
  next detail _ =>
    rw [wp_bind, checkBalance.ensureBalance.eq_def]
    split
    next => exact ⟨_, rfl⟩
    next => exact ⟨_, rfl⟩

theorem countVolume_spec (env : Env) (limit : Int) (trade : Trade) (store : MarketStore) :
    wp (countVolume env limit trade) (fun _ after =>
        (0 < limit → raised (store.volumeOn (today env) trade.user) trade.amount ≤ limit) ∧
          after = store.counted env limit trade)
      (fun reason after => reason = .error .dailyVolumeLimitExceeded ∧
        ¬ (0 < limit → raised (store.volumeOn (today env) trade.user) trade.amount ≤ limit) ∧
          after = { store with executionLock := false }) store := by
  rw [countVolume, wp_ite]
  refine ⟨fun limited => ?_, fun unlimited => ⟨fun limited => absurd limited unlimited, ?_⟩⟩
  · simp only [wp_rules, wp_ensureUnlocked]
    refine ⟨fun within => ⟨fun _ => not_lt.mp within, ?_⟩, fun exceeds => ⟨trivial, ?_, trivial⟩⟩
    · rw [counted, if_pos limited]
    · exact fun within => exceeds (not_lt.mpr (within limited))
  · rw [counted, if_neg unlimited]

/-- What follows the gates: the trade is counted and then opened, or fails. -/
theorem executeMarketCopyTrade_counted {breaker : CircuitBreaker}
    (admissible : Admissible env batchCtx pre trade) (exempt : Bool) (portfolioSet : Prop)
    [Decidable portfolioSet] : wp (do
      ensureUnlocked portfolioSet .notInitialized
      ensureUnlocked (¬ pre.AtPositionCap trade.user exempt) .tooManyOpenPositions
      let effectiveAmount ← resolveTradeAmount outside trade
      let useFeeFallback ← checkBalance outside trade effectiveAmount (pre.feeFor batchCtx)
      validateAndRecordPosition outside ⟨trade.user, some trade.token, effectiveAmount⟩ exempt
      modify fun store => store.opened env trade effectiveAmount
        (useFeeFallback && decide (0 < pre.feeFor batchCtx)))
      (fun _ after => TradeEffect env outside batchCtx pre trade (.ok ()) after)
      (Failed env outside batchCtx pre trade)
      { pre.counted env (pre.limitFor batchCtx) trade with
        breaker
        executionLock := true } := by
  have config := pre.counted_config env (pre.limitFor batchCtx) trade
  have portfolio := pre.counted_portfolio env (pre.limitFor batchCtx) trade
  have lock : (pre.counted env (pre.limitFor batchCtx) trade).executionLock = false := by
    rw [pre.counted_executionLock, admissible.unlocked]
  have unopened (reason : ContractError) (shortfalls : Table Address InsufficientBalanceDetail) :
      TradeEffect env outside batchCtx pre trade (.error reason)
        { pre.counted env (pre.limitFor batchCtx) trade with
          breaker
          lastInsufficientBalance := shortfalls
          executionLock := false } := by
    rw [← lock]
    exact .unopened admissible
  simp only [wp_bind, wp_ensureUnlocked]
  refine ⟨fun _ => ⟨fun _ => ?_, fun _ => unopened _ _⟩, fun _ => unopened _ _⟩
  refine wp_mono (resolveTradeAmount_spec config) ?_ fun reason _ stopped => ?_
  · rintro effectiveAmount _ ⟨resolved, rfl⟩
    refine wp_mono (checkBalance_spec _ effectiveAmount _) ?_ fun reason _ stopped => ?_
    · rintro deducts _ ⟨shortfalls, rfl⟩
      simp only [validateAndRecordPosition, wp_rules, wp_ensureUnlocked]
      refine ⟨fun _ => ?_, fun _ => unopened _ _⟩
      rw [portfolio]
      exact .opened admissible resolved
    · cases reason with
      | error => obtain ⟨_, rfl⟩ := stopped; exact unopened _ _
      | trap => trivial
  · cases reason with
    | error => obtain rfl := stopped; exact unopened _ _
    | trap => trivial

theorem executeMarketCopyTrade_effect (requireUserAuth : Bool) :
    wp (executeMarketCopyTrade env outside trade requireUserAuth batchCtx)
      (fun _ after => TradeEffect env outside batchCtx pre trade (.ok ()) after)
      (Failed env outside batchCtx pre trade) pre := by
  have away {breaker : CircuitBreaker} {reason : ContractError}
      (inadmissible : ¬ Admissible env batchCtx pre trade) :
      Failed env outside batchCtx pre trade (.error reason) { pre with breaker } :=
    .turnedAway inadmissible
  simp only [executeMarketCopyTrade, wp_rules]
  refine ⟨fun _ => ⟨fun pos => ⟨fun sized => ?_, fun small =>
    away fun admissible => small (not_lt.mpr admissible.sized)⟩, fun nothing =>
    away fun admissible => nothing (not_le.mpr admissible.pos)⟩, fun _ => trivial⟩
  refine wp_mono (breakerTripped_spec env batchCtx pre) ?_ fun _ _ never => never.elim
  rintro _ _ ⟨rfl, breaker, rfl⟩
  refine ⟨fun untripped => ⟨fun interest => ⟨fun unlocked => ?_, fun locked =>
    away fun admissible => locked admissible.unlocked⟩, fun exceeds =>
    away fun admissible => exceeds admissible.interest⟩, fun stopped =>
    away fun admissible => stopped admissible.untripped⟩
  rw [wp_putLock]
  refine wp_mono (countVolume_spec env (pre.limitFor batchCtx) trade _) ?_ ?_
  · rintro _ _ ⟨volume, rfl⟩
    have admissible : Admissible env batchCtx pre trade :=
      ⟨not_le.mp pos, not_lt.mp sized, untripped, interest, unlocked, volume⟩
    have onward := @executeMarketCopyTrade_counted env outside batchCtx pre trade breaker
      admissible (pre.config.isExempt trade.user)
      (batchCtx.isSome = true ∨ pre.config.userPortfolio.isSome = true)
    simp only [wp_bind] at onward
    rw [counted] at onward ⊢
    split <;> rename_i limited <;> simp only [limited, if_true, if_false] at onward <;> exact onward
  · rintro reason _ ⟨rfl, exceeds, rfl⟩
    have same : ({ pre with
        breaker
        executionLock := false } : MarketStore) = { pre with breaker } := by
      rw [← unlocked]
    show Failed _ _ _ _ _ _ _
    rw [same]
    exact away fun admissible => exceeds admissible.volume

end Trade

end StellarSwipe.TradeExecutor
