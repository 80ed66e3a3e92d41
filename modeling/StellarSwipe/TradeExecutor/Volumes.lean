import StellarSwipe.TradeExecutor.Limits
import StellarSwipe.TradeExecutor.MarketRuns
import StellarSwipe.TradeExecutor.QueueLifecycle

/-!
# What failed trades consume

Batches and the queue swallow the error of a trade, so what it wrote stays.
-/

namespace StellarSwipe.TradeExecutor

open FixedWidth Program Runs Table MarketTransition

structure BatchTradeInput where
  user : Address
  token : Address
  amount : Int

structure BatchTradeResult where
  ok : Bool
  errorCode : Nat
  atomicRollback : Bool

variable (env : Env)

def prepareBatchContext : MarketProgram BatchExecutionContext := do
  let config := (← get).config
  let portfolio ← orFail config.userPortfolio .notInitialized
  let circuitBreakerActive ← marketCircuitBreakerActive env
  pure ⟨portfolio, config.effectiveEstimatedFee, config.volumeLimit, circuitBreakerActive⟩

def BatchTradeInput.trade (input : BatchTradeInput) : Trade :=
  ⟨input.user, input.token, input.amount, none⟩

def BatchTradeInput.execute (input : BatchTradeInput) (env : Env) (outside : Outside)
    (context : BatchExecutionContext) : MarketProgram Unit :=
  executeMarketCopyTrade env outside input.trade true (some context)

def batchResult : Except ContractError Unit → BatchTradeResult
  | .ok () => ⟨true, 0, false⟩
  | .error reason => ⟨false, reason.code, false⟩

/-- The trades of a batch, one after another. An atomic batch aborts when one fails. -/
def batchExecuteImpl (outside : Outside) (trades : List BatchTradeInput) (atomic : Bool) :
    MarketProgram (List BatchTradeResult) := do
  ensure (¬ (trades.length = 0 ∨ maxBatchSize < trades.length)) .invalidAmount
  ensure ((trades.map fun trade => (trade.user, trade.token)).Nodup) .invalidAmount
  let context ← prepareBatchContext env
  let outcomes ← attemptEach (fun trade => trade.execute env outside context) trades
  let results := outcomes.map batchResult
  demand (atomic = true → ∀ result ∈ results, result.ok = true)
  pure results

/-- The attempts of a batch in a context, up to the first abort. -/
def batchAttempts (outside : Outside) (context : BatchExecutionContext)
    (trades : List BatchTradeInput) (store : MarketStore) :
    List (Attempt MarketStore ContractError Unit BatchTradeInput) :=
  attempts (fun trade => trade.execute env outside context) trades store

theorem batch_reports {env : Env} {outside : Outside} {trades : List BatchTradeInput}
    {atomic : Bool} {store after : MarketStore} {results : List BatchTradeResult}
    (gave : batchExecuteImpl env outside trades atomic store = .ok results after) :
    ∃ context middle, prepareBatchContext env store = .ok context middle ∧
      results = (batchAttempts env outside context trades middle).map
        fun entry => batchResult entry.result := by
  have spec : wlp (batchExecuteImpl env outside trades atomic)
      (fun results _ => ∃ context middle, prepareBatchContext env store = .ok context middle ∧
        results = (batchAttempts env outside context trades middle).map
          fun entry => batchResult entry.result) store := by
    simp only [batchExecuteImpl, wp_bind, wp_ensure]
    refine ⟨fun _ => ⟨fun _ => ?_, fun _ => trivial⟩, fun _ => trivial⟩
    refine (wp_iff _).mpr ⟨fun context middle prepared => ?_, fun _ _ _ => trivial⟩
    refine (wp_iff _).mpr ⟨fun outcomes final ran => ?_, fun _ _ _ => trivial⟩
    simp only [wp_demand, wp_pure]
    refine ⟨fun _ => ⟨context, middle, prepared, ?_⟩, fun _ => trivial⟩
    rw [attemptEach_results _ _ _ _ _ ran, List.map_map]
    rfl
  exact wp_ok spec gave

section Copies

open Relation

variable (outside : Outside)

/-- A trade's call of the market's runs. -/
def CopyStep (pre after : MarketStore) : Prop := ∃ trade requireUserAuth batchCtx swallowed,
  after = invoke (MarketCall.exec env outside (.copy trade requireUserAuth batchCtx swallowed)) pre

variable {env outside}

/-- A trade whose error is received is such a call. -/
theorem copyStep_of_attempt {trade : Trade} {requireUserAuth : Bool}
    {batchCtx : Option BatchExecutionContext} {pre after : MarketStore}
    {result : Except ContractError Unit}
    (ran : attempt (executeMarketCopyTrade env outside trade requireUserAuth batchCtx) pre =
      .ok result after) : CopyStep env outside pre after := by
  refine ⟨trade, requireUserAuth, batchCtx, true, ?_⟩
  rw [MarketCall.exec, if_pos rfl, invoke_discard, invoke_of_ok ran]

theorem executeMarketCopyTrade_copies (trade : Trade) (requireUserAuth : Bool)
    (batchCtx : Option BatchExecutionContext) (pre : MarketStore) :
    wp (executeMarketCopyTrade env outside trade requireUserAuth batchCtx)
      (fun _ after => CopyStep env outside pre after)
      (fun fault after => fault.holds (fun _ => CopyStep env outside pre after) True) pre := by
  refine (wp_iff _).mpr ⟨fun value after ran => ?_, fun fault after ran => ?_⟩
  · exact copyStep_of_attempt (by rw [attempt, ran])
  · cases fault with
    | trap => trivial
    | error reason => exact copyStep_of_attempt (by rw [attempt, ran])

theorem batch_copies {trades : List BatchTradeInput} {atomic : Bool} {pre : MarketStore} :
    wlp (batchExecuteImpl env outside trades atomic)
      (fun _ after => ∃ breaker, ReflTransGen (CopyStep env outside) { pre with breaker } after)
      pre := by
  simp only [batchExecuteImpl, prepareBatchContext, wlp_rules]
  intro _ _ portfolio _
  refine wp_then (marketCircuitBreakerActive_spec env pre) ?_
  rintro tripped _ ⟨_, breaker, rfl⟩
  refine wp_then (attemptEach_rule
    (ReflTransGen (CopyStep env outside) { pre with breaker }) trades _ ?_ .refl) ?_
  · intro entry tried reached
    exact reached.tail (copyStep_of_attempt (attempts_run _ _ _ entry tried))
  · intro outcomes after reached
    exact fun _ => ⟨breaker, reached⟩

theorem executeQueue_copies (ids remaining : List Nat) (executed : Nat) (pre : QueueStore) :
    wlp (executeQueue env outside ids remaining executed)
      (fun _ after => ReflTransGen (CopyStep env outside) pre.market after.market) pre := by
  induction ids generalizing remaining executed pre with
  | nil => exact .refl
  | cons tradeId rest ih =>
    rw [executeQueue, wlp, wp_bind, wp_get]
    cases pre.queuedTrades.lookup tradeId with
    | none => exact ih _ _ _
    | some queued =>
      simp only [wp_ite]
      refine ⟨fun _ => ?_, fun _ => ih _ _ _⟩
      have onward {middle : QueueStore} (step : CopyStep env outside pre.market middle.market)
          (left : List Nat) (done : Nat) : wlp (executeQueue env outside rest left done)
            (fun _ after => ReflTransGen (CopyStep env outside) pre.market after.market) middle :=
        wp_then (ih left done middle) fun _ _ later => .head step later
      simp only [attemptOnMarket, wp_bind, wp_attempt, wp_zoom, wp_get, wp_modify]
      refine wp_mono (executeMarketCopyTrade_copies _ _ _ _) (fun _ _ step => ?_) ?_
      · exact onward (by simpa only [QueueStore.file_market] using step) _ _
      · rintro (reason | _) _ step
        · exact onward (by simpa only [QueueStore.file_market, Fault.holds_error] using step) _ _
        · trivial

theorem sweepOrders_copies (token : Address) (currentPrice : Int) (ids nextIds : List Nat)
    (processed : Nat) (pre : LimitStore) :
    wlp (sweepOrders env outside token currentPrice ids nextIds processed)
      (fun _ after => ReflTransGen (CopyStep env outside) pre.market after.market) pre := by
  induction ids generalizing nextIds processed pre with
  | nil => exact .refl
  | cons orderId rest ih =>
    rw [sweepOrders, wlp, wp_bind, wp_get]
    cases pre.pendingLimitOrders.lookup orderId with
    | none => exact ih _ _ _
    | some order =>
      cases decides : order.disposition env token currentPrice with
      | stays => simpa only [decides] using ih _ _ _
      | expires =>
        simp only [decides, removeOrder, wp_bind, wp_modify]
        exact ih _ _ _
      | executes =>
        simp only [decides, onMarket, removeOrder, wp_bind, wp_zoom, wp_modify]
        refine wp_mono (executeMarketCopyTrade_copies _ _ _ _) (fun _ _ step => ?_) ?_
        · exact wp_then (ih _ _ _) fun _ _ later => .head step later
        · rintro (reason | _) _ _ <;> trivial

theorem executeQueuedTrades_copies (pre : QueueStore) : wlp (executeQueuedTrades env outside)
      (fun _ after => ReflTransGen (CopyStep env outside) pre.market after.market) pre := by
  simp only [executeQueuedTrades, wlp_rules]
  exact executeQueue_copies _ _ _ pre

theorem checkPendingLimitOrders_copies (token : Address) (pre : LimitStore) :
    wlp (checkPendingLimitOrders env outside token)
      (fun _ after => ReflTransGen (CopyStep env outside) pre.market after.market) pre := by
  simp only [checkPendingLimitOrders, wlp_rules]
  exact fun currentPrice _ => sweepOrders_copies token currentPrice _ _ _ pre

end Copies
/-- Nothing of the user's allowances and nothing that a trade leaves was changed. -/
structure Unconsumed (pre after : MarketStore) : Prop where
  volume : ∀ user, after.dailyVolume.lookup user = pre.dailyVolume.lookup user
  day : ∀ user, after.dailyVolumeDay.lookup user = pre.dailyVolumeDay.lookup user
  interest : after.openInterestPerPair = pre.openInterestPerPair
  positions : after.userPositionCount = pre.userPositionCount
  receipts : after.tradeReceipts = pre.tradeReceipts
  receiptId : after.nextTradeReceiptId = pre.nextTradeReceiptId
  lock : after.executionLock = pre.executionLock
  pending : after.pendingTradeConfirmation = pre.pendingTradeConfirmation

/-- The trade passes the gates and is counted against a limit, and this shows: the volume of
the day is not at the largest amount already. -/
structure Counts (env : Env) (batchCtx : Option BatchExecutionContext) (store : MarketStore)
    (trade : Trade) : Prop where
  admissible : Admissible env batchCtx store trade
  limited : 0 < store.limitFor batchCtx
  shows : ¬ (store.dailyVolumeDay.lookup trade.user = some (today env) ∧
    store.dailyVolume.lookup trade.user = some i128.high)

theorem counts_iff (batchCtx : Option BatchExecutionContext) (store : MarketStore)
    (trade : Trade) : Counts env batchCtx store trade ↔
      Admissible env batchCtx store trade ∧ 0 < store.limitFor batchCtx ∧
      ¬ (store.dailyVolumeDay.lookup trade.user = some (today env) ∧
        store.dailyVolume.lookup trade.user = some i128.high) :=
  ⟨fun ⟨admissible, limited, shows⟩ => ⟨admissible, limited, shows⟩,
    fun ⟨admissible, limited, shows⟩ => ⟨admissible, limited, shows⟩⟩

instance (batchCtx : Option BatchExecutionContext) (store : MarketStore) :
    DecidablePred (Counts env batchCtx store) :=
  fun trade => decidable_of_iff' _ (counts_iff env batchCtx store trade)

theorem raised_eq_iff {current amount : Int} (pos : 0 < amount) :
    raised current amount = current ↔ current = i128.high := by
  rw [raised, Range.checkedAdd, Range.checked]
  split
  next held =>
    rw [Option.getD_some]
    have := held.2
    constructor <;> intro same <;> omega
  next => exact eq_comm

section Failures

variable {env : Env} {outside : Outside} {batchCtx : Option BatchExecutionContext}
  {pre after : MarketStore} {trade : Trade}

theorem counted_unconsumed_iff (admissible : Admissible env batchCtx pre trade) :
    Unconsumed pre (pre.counted env (pre.limitFor batchCtx) trade) ↔
      ¬ Counts env batchCtx pre trade := by
  rw [counts_iff, MarketStore.counted]
  by_cases limited : 0 < pre.limitFor batchCtx
  case neg =>
    rw [if_neg limited]
    refine ⟨fun _ counts => limited counts.2.1, fun _ => ?_⟩
    exact ⟨fun _ => rfl, fun _ => rfl, rfl, rfl, rfl, rfl, rfl, rfl⟩
  rw [if_pos limited]
  simp only [admissible, limited, true_and, not_not]
  constructor
  · intro unconsumed
    have day := unconsumed.day trade.user
    have volume := unconsumed.volume trade.user
    rw [AList.lookup_insert] at day volume
    refine ⟨day.symm, ?_⟩
    have own : pre.volumeOn (today env) trade.user =
        (pre.dailyVolume.lookup trade.user).getD 0 := by
      rw [MarketStore.volumeOn, ← day]
      exact if_pos rfl
    rw [← volume, Option.getD_some] at own
    rw [← volume, own.symm, (raised_eq_iff admissible.pos).mp own.symm]
  · rintro ⟨day, volume⟩
    have own : pre.volumeOn (today env) trade.user = i128.high := by
      rw [MarketStore.volumeOn, day, Table.read, volume]
      exact if_pos rfl
    have same : raised (pre.volumeOn (today env) trade.user) trade.amount = i128.high := by
      rw [own]
      exact (raised_eq_iff admissible.pos).mpr rfl
    rw [same]
    refine ⟨fun user => ?_, fun user => ?_, rfl, rfl, rfl, rfl, rfl, rfl⟩
    · rw [lookup_insert]
      split
      next own => rw [own, volume]
      next => rfl
    · rw [lookup_insert]
      split
      next own => rw [own, day]
      next => rfl

variable {reason : ContractError}

/-- A failed trade consumes exactly when it was counted. -/
theorem TradeEffect.unconsumed_iff
    (effect : TradeEffect env outside batchCtx pre trade (.error reason) after) :
    Unconsumed pre after ↔ ¬ Counts env batchCtx pre trade := by
  cases effect with
  | turnedAway inadmissible =>
    refine ⟨fun _ counts => inadmissible counts.admissible, fun _ => ?_⟩
    exact ⟨fun _ => rfl, fun _ => rfl, rfl, rfl, rfl, rfl, rfl, rfl⟩
  | unopened admissible =>
    rw [← counted_unconsumed_iff admissible]
    constructor
    · intro unconsumed
      exact ⟨unconsumed.volume, unconsumed.day, unconsumed.interest, unconsumed.positions,
        unconsumed.receipts, unconsumed.receiptId, unconsumed.lock, unconsumed.pending⟩
    · intro unconsumed
      exact ⟨unconsumed.volume, unconsumed.day, unconsumed.interest, unconsumed.positions,
        unconsumed.receipts, unconsumed.receiptId, unconsumed.lock, unconsumed.pending⟩

theorem attempt_unconsumed_iff {requireUserAuth : Bool}
    (attempted : attempt (executeMarketCopyTrade env outside trade requireUserAuth batchCtx) pre
      = .ok (.error reason) after) : Unconsumed pre after ↔ ¬ Counts env batchCtx pre trade := by
  have spec : wlp (attempt (executeMarketCopyTrade env outside trade requireUserAuth batchCtx))
      (fun result after => TradeEffect env outside batchCtx pre trade result after) pre := by
    refine (wp_attempt _).mpr (wp_mono (executeMarketCopyTrade_effect requireUserAuth)
      (fun _ _ effect => effect) ?_)
    rintro (reason | _) after effect
    · exact effect
    · trivial
  exact (wp_ok spec attempted).unconsumed_iff

end Failures

def MarketTransition.traded (taken : MarketTransition) (user : Address) (day : Nat) : Int :=
  match taken.executes with
  | some trade => if trade.user = user ∧ today taken.env = day then trade.amount else 0
  | none => 0

def tradedOn (user : Address) (day : Nat) (past : List MarketTransition) : Int :=
  (past.map fun taken => taken.traded user day).sum

def MarketStore.recordedDay (store : MarketStore) (user : Address) : Nat :=
  (store.dailyVolumeDay.lookup user).getD 0

/-- A trade is executed under a limit and with a volume that can be represented, and one that
fails and is swallowed was not counted. -/
def MarketTransition.Thrifty (taken : MarketTransition) : Prop :=
  match taken.input.call with
  | .copy trade _ batchCtx swallowed =>
    if taken.executes.isSome = true then
      0 < taken.pre.store.limitFor batchCtx ∧
        i128.Holds (taken.pre.store.volumeOn (today taken.env) trade.user + trade.amount)
    else swallowed = true → ¬ Counts taken.env batchCtx taken.pre.store trade
  | _ => True

instance (taken : MarketTransition) : Decidable taken.Thrifty := by
  unfold MarketTransition.Thrifty
  refine taken.input.call.casesOn ?_ ?_ ?_ ?_ ?_ ?_ ?_ <;> intros <;> infer_instance

structure VolumesKept (past : List MarketTransition) (ledger : Ledger MarketStore) : Prop where
  recorded : ∀ user, ledger.store.dailyVolume.read user =
    tradedOn user (ledger.store.recordedDay user) past
  latest : ∀ user day, ledger.store.recordedDay user < day → tradedOn user day past = 0
  begun : ∀ user, ledger.store.recordedDay user ≤ ledger.timestamp / secondsPerDay

section Steps

variable {past : List MarketTransition} {ledger : Ledger MarketStore} {input : MarketInput}

theorem tradedOn_concat (user : Address) (day : Nat) (past : List MarketTransition)
    (taken : MarketTransition) :
    tradedOn user day (past ++ [taken]) = tradedOn user day past + taken.traded user day := by
  simp [tradedOn]

theorem VolumesKept.unmoved {after : Ledger MarketStore} (kept : VolumesKept past ledger)
    (later : ledger.timestamp ≤ after.timestamp)
    (unexecuted : executes ⟨ledger, input, after⟩ = none)
    (volume : ∀ user, after.store.dailyVolume.lookup user = ledger.store.dailyVolume.lookup user)
    (day : ∀ user, after.store.dailyVolumeDay.lookup user =
      ledger.store.dailyVolumeDay.lookup user) :
    VolumesKept (past ++ [⟨ledger, input, after⟩]) after := by
  have recordedDay (user : Address) : after.store.recordedDay user =
      ledger.store.recordedDay user := by
    rw [MarketStore.recordedDay, day, MarketStore.recordedDay]
  have nothing (user : Address) (day : Nat) :
      traded ⟨ledger, input, after⟩ user day = 0 := by
    rw [traded, unexecuted]
  refine ⟨fun user => ?_, fun user day => ?_, fun user => ?_⟩
  · rw [tradedOn_concat, nothing, Int.add_zero, recordedDay, ← kept.recorded, Table.read, volume,
      Table.read]
  · rw [tradedOn_concat, nothing, Int.add_zero, recordedDay]
    exact kept.latest user day
  · rw [recordedDay]
    exact (kept.begun user).trans (Nat.div_le_div_right later)

theorem VolumesKept.volumeOn (kept : VolumesKept past ledger) {day : Nat}
    (later : ledger.timestamp / secondsPerDay ≤ day) (user : Address) :
    ledger.store.volumeOn day user = tradedOn user day past := by
  rw [MarketStore.volumeOn]
  split
  next same =>
    have recorded : ledger.store.recordedDay user = day := same
    rw [kept.recorded, recorded]
  next other =>
    have early := lt_of_le_of_ne ((kept.begun user).trans later) other
    exact (kept.latest user day early).symm

theorem VolumesKept.executed {after : Ledger MarketStore} (kept : VolumesKept past ledger)
    (now : after.timestamp = ledger.timestamp + input.arrival.seconds) {trade : Trade}
    (executes : executes ⟨ledger, input, after⟩ = some trade)
    (fits : i128.Holds (ledger.store.volumeOn (today (ledger.env input.arrival)) trade.user +
      trade.amount)) (volume : after.store.dailyVolume = ledger.store.dailyVolume.insert trade.user
      (raised (ledger.store.volumeOn (today (ledger.env input.arrival)) trade.user) trade.amount))
    (day : after.store.dailyVolumeDay = ledger.store.dailyVolumeDay.insert trade.user
      (today (ledger.env input.arrival))) :
    VolumesKept (past ++ [⟨ledger, input, after⟩]) after := by
  set current := today (ledger.env input.arrival) with current_eq
  have later : ledger.timestamp / secondsPerDay ≤ current :=
    Nat.div_le_div_right (Nat.le_add_right _ _)
  have sum : raised (ledger.store.volumeOn current trade.user) trade.amount =
      tradedOn trade.user current past + trade.amount := by
    rw [raised, Range.checkedAdd, Range.checked, if_pos fits, Option.getD_some, kept.volumeOn later]
  have traded (user : Address) (on : Nat) :
      traded ⟨ledger, input, after⟩ user on =
        if trade.user = user ∧ current = on then trade.amount else 0 := by
    rw [traded, executes]
    rfl
  have recordedDay (user : Address) : after.store.recordedDay user =
      if user = trade.user then current else ledger.store.recordedDay user := by
    rw [MarketStore.recordedDay, day, lookup_insert]
    split <;> rfl
  refine ⟨fun user => ?_, fun user on => ?_, fun user => ?_⟩
  · rw [tradedOn_concat, traded, recordedDay, volume, read_insert]
    split
    next own => rw [own, if_pos ⟨rfl, rfl⟩, sum]
    next other => rw [if_neg fun own => other own.1.symm, Int.add_zero, kept.recorded]
  · rw [tradedOn_concat, traded, recordedDay]
    split
    next own =>
      intro after'
      rw [if_neg fun same => after'.ne same.2, Int.add_zero]
      exact kept.latest user on (((kept.begun user).trans later).trans_lt after')
    next other =>
      intro after'
      rw [if_neg fun own => other own.1.symm, Int.add_zero]
      exact kept.latest user on after'
  · rw [recordedDay, now]
    split
    next => exact le_rfl
    next => exact (kept.begun user).trans later

theorem VolumesKept.step (kept : VolumesKept past ledger)
    (thrifty : MarketTransition.Thrifty ⟨ledger, input, marketStep input ledger⟩) :
    VolumesKept (past ++ [⟨ledger, input, marketStep input ledger⟩]) (marketStep input ledger) := by
  have later : ledger.timestamp ≤ (marketStep input ledger).timestamp := Nat.le_add_right _ _
  by_cases returns : MarketTransition.Returned ⟨ledger, input, marketStep input ledger⟩
  case neg =>
    have same : (marketStep input ledger).store = ledger.store := invoke_of_rejected returns
    exact kept.unmoved later (executes_of_rejected returns) (fun _ => by rw [same])
      fun _ => by rw [same]
  have effect := marketStep_effect input ledger
  obtain ⟨arrival, outside, call⟩ := input
  dsimp only at effect
  generalize has : (marketStep ⟨arrival, outside, call⟩ ledger).store = after at effect
  have same {other : MarketStore} (volume : after.dailyVolume = other.dailyVolume)
      (day : after.dailyVolumeDay = other.dailyVolumeDay) :
      (∀ user, (marketStep ⟨arrival, outside, call⟩ ledger).store.dailyVolume.lookup user =
        other.dailyVolume.lookup user) ∧
      ∀ user, (marketStep ⟨arrival, outside, call⟩ ledger).store.dailyVolumeDay.lookup user =
        other.dailyVolumeDay.lookup user := by
    rw [has, volume, day]
    exact ⟨fun _ => rfl, fun _ => rfl⟩
  cases effect with
  | rejected rejected => exact absurd returns rejected
  | @executed trade requireUserAuth swallowed batchCtx after accepts effect =>
    set input : MarketInput := ⟨arrival, outside, .copy trade requireUserAuth batchCtx swallowed⟩
    have executes : executes ⟨ledger, input, marketStep input ledger⟩ = some trade :=
      if_pos accepts
    have guard : 0 < ledger.store.limitFor batchCtx ∧
        i128.Holds (ledger.store.volumeOn (today (ledger.env arrival)) trade.user + trade.amount) :=
      cast (if_pos (by rw [executes]; rfl)) thrifty
    refine kept.executed rfl executes guard.2 ?_ ?_ <;> rw [has] <;> cases effect <;>
      rw [MarketStore.opened_eq, MarketStore.counted, if_pos guard.1]
  | @failed trade requireUserAuth batchCtx reason after refuses effect =>
    set input : MarketInput := ⟨arrival, outside, .copy trade requireUserAuth batchCtx true⟩
    have unexecuted : executes ⟨ledger, input, marketStep input ledger⟩ = none :=
      if_neg refuses
    have guard : true = true → ¬ Counts (ledger.env arrival) batchCtx ledger.store trade :=
      cast (if_neg (by rw [unexecuted]; exact Bool.false_ne_true)) thrifty
    have unconsumed := effect.unconsumed_iff.mpr (guard rfl)
    exact kept.unmoved later unexecuted (fun user => by rw [has]; exact unconsumed.volume user)
      fun user => by rw [has]; exact unconsumed.day user
  | finalized => exact kept.unmoved later rfl (same rfl rfl).1 (same rfl rfl).2
  | filled => exact kept.unmoved later rfl (same rfl rfl).1 (same rfl rfl).2
  | partlyFilled => exact kept.unmoved later rfl (same rfl rfl).1 (same rfl rfl).2
  | triggered => exact kept.unmoved later rfl (same rfl rfl).1 (same rfl rfl).2
  | cancelled => exact kept.unmoved later rfl (same rfl rfl).1 (same rfl rfl).2
  | unplanned => exact kept.unmoved later rfl (same rfl rfl).1 (same rfl rfl).2
  | planned => exact kept.unmoved later rfl (same rfl rfl).1 (same rfl rfl).2
  | elsewhere => exact kept.unmoved later rfl (same rfl rfl).1 (same rfl rfl).2

end Steps

theorem volumes_kept (timestamp sequence : Nat) (inputs : List MarketInput)
    (thrifty : ∀ taken ∈ trace marketStep (marketStart timestamp sequence) inputs,
      MarketTransition.Thrifty taken) :
    VolumesKept (trace marketStep (marketStart timestamp sequence) inputs)
      (final marketStep (marketStart timestamp sequence) inputs) := by
  refine transition_history_invariant marketStep VolumesKept MarketTransition.Thrifty
    (fun past ledger input guard kept => kept.step guard) (marketStart timestamp sequence) ?_
    inputs thrifty
  exact ⟨fun _ => rfl, fun _ _ _ => rfl, fun _ => Nat.zero_le _⟩

/-- A trade that a batch or the queue reports as failed consumes nothing exactly when it was
not counted; and where trades are thrifty, the volume of a day is what was traded on it. -/
theorem failures_consume_when_counted (env : Env) (outside : Outside) :
    (∀ (trades : List BatchTradeInput) (atomic : Bool) (store after : MarketStore)
      (results : List BatchTradeResult),
      batchExecuteImpl env outside trades atomic store = .ok results after →
      ∃ context middle, prepareBatchContext env store = .ok context middle ∧
        results = (batchAttempts env outside context trades middle).map
          (fun entry => batchResult entry.result) ∧
        ∀ entry ∈ batchAttempts env outside context trades middle, ∀ reason,
          entry.result = .error reason → (Unconsumed entry.pre entry.after ↔
            ¬ Counts env (some context) entry.pre entry.item.trade)) ∧ (∀ store : QueueStore,
      ∀ entry ∈ queueAttempts env outside store.queuedTrades store.queuedTradeIds
        store.market, ∀ reason, entry.result = .error reason →
          (Unconsumed entry.pre entry.after ↔ ¬ Counts env none entry.pre entry.item.trade)) ∧
    ∀ (timestamp sequence : Nat) (inputs : List MarketInput),
      (∀ taken ∈ trace marketStep (marketStart timestamp sequence) inputs,
        MarketTransition.Thrifty taken) →
      VolumesKept (trace marketStep (marketStart timestamp sequence) inputs)
        (final marketStep (marketStart timestamp sequence) inputs) := by
  refine ⟨fun trades atomic store after results gave => ?_,
    fun store entry mem reason failed => ?_, volumes_kept⟩
  · obtain ⟨context, middle, prepared, reports⟩ := batch_reports gave
    refine ⟨context, middle, prepared, reports, fun entry mem reason failed => ?_⟩
    have ran := attempts_run _ _ _ entry mem
    rw [failed] at ran
    exact attempt_unconsumed_iff ran
  · have ran := attempts_run _ _ _ entry mem
    rw [failed] at ran
    exact attempt_unconsumed_iff ran

def limitedMarket : MarketStore :=
  let config : TradeConfig :=
    { TradeConfig.blank with
      userPortfolio := some 9
      dailyVolumeLimit := some 10000 }
  { MarketStore.blank with config }

def limitedContext : BatchExecutionContext := ⟨9, defaultEstimatedCopyTradeFee, 10000, false⟩

def penniless : Outside := ⟨fun _ _ => some 0, fun _ _ _ => false, fun _ => ⟨0, 0⟩, .ok 0⟩

/-- A trade of a batch that fails for want of balance uses up the volume of its user. -/
theorem failed_trade_consumes : ¬ ∀ (env : Env) (outside : Outside) (trades : List BatchTradeInput)
      (store middle : MarketStore) (context : BatchExecutionContext),
      prepareBatchContext env store = .ok context middle →
      ∀ entry ∈ batchAttempts env outside context trades middle, ∀ reason,
        entry.result = .error reason → Unconsumed entry.pre entry.after := by
  intro every
  have unconsumed := every (.at 0 0 [1]) penniless [⟨1, 2, 2000⟩] limitedMarket limitedMarket
    limitedContext rfl _ List.mem_cons_self .insufficientBalance rfl
  have volume := unconsumed.volume 1
  exact absurd volume (by decide)

/-- A trade below the smallest size is turned away and consumes nothing. -/
def thriftyDay : List MarketInput :=
  let outside : Outside :=
    ⟨fun _ _ => some 1000000, fun _ _ _ => false, fun _ => ⟨0, 0⟩, .ok 0⟩
  [⟨⟨1, 1, []⟩, outside, .elsewhere limitedMarket.config ⟨false, none⟩ ∅⟩,
    ⟨⟨1, 1, []⟩, outside, .copy ⟨1, 2, 2000, none⟩ false none true⟩,
    ⟨⟨1, 1, []⟩, outside, .copy ⟨1, 2, 10, none⟩ false none true⟩,
    ⟨⟨1, 1, []⟩, outside, .copy ⟨1, 2, 3000, none⟩ false none true⟩]

theorem thrifty_day_kept : VolumesKept (trace marketStep (marketStart 0 0) thriftyDay)
      (final marketStep (marketStart 0 0) thriftyDay) :=
  (failures_consume_when_counted (.at 0 0 []) penniless).2.2 0 0 thriftyDay (by decide)

end StellarSwipe.TradeExecutor
