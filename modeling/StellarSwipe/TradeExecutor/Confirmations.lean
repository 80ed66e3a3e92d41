import StellarSwipe.TradeExecutor.MarketRuns

/-!
# Confirming executed trades

An executed trade waits in the one place there is until it is finalized or partially filled.
-/

namespace StellarSwipe.TradeExecutor

open FixedWidth Program Runs MarketTransition List

structure ExecutedTrade where
  tradeId : Nat
  user : Address
  executionLedger : Nat
deriving DecidableEq

def ExecutedTrade.expiry (executed : ExecutedTrade) : Nat :=
  satCount u32Max executed.executionLedger tradeTimeoutLedgers

namespace MarketTransition

variable (taken : MarketTransition)

/-- The trade that a step executes, under the number of its receipt. -/
def executedTrade : Option ExecutedTrade :=
  taken.executes.map fun trade =>
    ⟨taken.pre.store.receiptId, trade.user, taken.env.sequence⟩

/-- The number and user of the trade that a step finalizes or partially fills. -/
def resolves : Option (Nat × Address) :=
  if taken.Returned then
    match taken.input.call with
    | .finalizeTrade =>
      taken.pre.store.pendingTradeConfirmation.map fun order => (order.tradeId, order.user)
    | .recordPartialFill _ user tradeId requestedAmount filledAmount =>
      if filledAmount = requestedAmount then none else some (tradeId, user)
    | _ => none
  else none

def outstanding (waiting : List ExecutedTrade) : List ExecutedTrade :=
  waiting.filter (fun executed => taken.resolves ≠ some (executed.tradeId, executed.user)) ++
    taken.executedTrade.toList

end MarketTransition

/-- The trades of a run that were executed and not resolved. -/
def outstanding (past : List MarketTransition) : List ExecutedTrade :=
  past.foldl (fun waiting taken => taken.outstanding waiting) []

/-- Until it times out, the trade can be finalized once its depth has passed, and the admin
can fill it partially. -/
def StillConfirmable (ledger : Ledger MarketStore) (executed : ExecutedTrade) : Prop :=
  ∀ arrival : Arrival, (ledger.env arrival).sequence < executed.expiry →
    (ledger.store.config.depth ≤ (ledger.env arrival).sequence - executed.executionLedger →
      ∃ after, finalizeTrade (ledger.env arrival) ledger.store = .ok () after ∧
        ∃ order ∈ after.pendingTradeConfirmation, order.tradeId = executed.tradeId ∧
          order.user = executed.user ∧ order.status = .filled) ∧
    ∀ admin requestedAmount filledAmount, ledger.store.config.admin = some admin →
      admin ∈ arrival.auths → 0 ≤ filledAmount → filledAmount < requestedAmount →
      ∃ after, recordPartialFill (ledger.env arrival) admin executed.user executed.tradeId
          requestedAmount filledAmount ledger.store = .ok () after ∧
        ∃ order ∈ after.pendingTradeConfirmation, order.tradeId = executed.tradeId ∧
          order.user = executed.user ∧ order.status = .partiallyFilled

/-- The place is the trade's own. -/
structure Awaits (store : MarketStore) (executed : ExecutedTrade) (order : TradeOrder) : Prop where
  hit : store.pendingTradeConfirmation = some order
  tradeId : order.tradeId = executed.tradeId
  user : order.user = executed.user
  executionLedger : order.executionLedger = executed.executionLedger
  expiry : order.expiresAtLedger = executed.expiry
  status : order.status = .executedAwaitingConfirmation

theorem Awaits.confirmable {ledger : Ledger MarketStore} {executed : ExecutedTrade}
    {order : TradeOrder} (awaits : Awaits ledger.store executed order) :
    StillConfirmable ledger executed := by
  refine fun arrival _ => ⟨fun deep => ?_, fun admin requestedAmount filledAmount set authorized
    nonneg part => ?_⟩
  · have spec : wp (finalizeTrade (ledger.env arrival))
        (fun _ after => ∃ order ∈ after.pendingTradeConfirmation,
          order.tradeId = executed.tradeId ∧ order.user = executed.user ∧ order.status = .filled)
        (fun _ _ => False) ledger.store := by
      simp only [finalizeTrade, wp_rules, awaits.hit]
      refine ⟨fun hit same => ?_, fun missing => by cases missing⟩
      cases same
      refine ⟨fun _ => ⟨fun _ => ⟨_, rfl, awaits.tradeId, awaits.user, rfl⟩, fun shallow => ?_⟩,
        fun other => other awaits.status⟩
      rw [awaits.executionLedger] at shallow
      exact shallow (not_lt.mpr deep)
    cases ran : finalizeTrade (ledger.env arrival) ledger.store with
    | ok _ after => exact ⟨after, rfl, wp_ok spec ran⟩
    | error _ _ => exact (wp_error spec ran).elim
  · have spec : wp (recordPartialFill (ledger.env arrival) admin executed.user executed.tradeId
          requestedAmount filledAmount)
        (fun _ after => ∃ order ∈ after.pendingTradeConfirmation,
          order.tradeId = executed.tradeId ∧ order.user = executed.user ∧
            order.status = .partiallyFilled)
        (fun _ _ => False) ledger.store := by
      simp only [recordPartialFill, admitAdmin, wp_rules, wp_auth, wp_ite, awaits.hit, set]
      have valid : ¬ (requestedAmount < 0 ∨ filledAmount < 0 ∨ requestedAmount < filledAmount) := by
        omega
      refine ⟨fun _ => ⟨fun _ => ⟨fun hit same => ?_, fun missing => by cases missing⟩,
        fun unauthorized => unauthorized authorized⟩, fun invalid => invalid valid⟩
      cases same
      refine ⟨fun _ => ⟨fun hit same => ?_, fun missing => by cases missing⟩,
        fun unauthorized => unauthorized authorized⟩
      cases same
      refine ⟨fun _ => ⟨fun whole => absurd whole part.ne, fun _ => ⟨_, rfl, awaits.tradeId,
        awaits.user, rfl⟩⟩, fun other => ?_⟩
      exact other fun different => different.elim (· awaits.tradeId) (· awaits.user)
    cases ran : recordPartialFill (ledger.env arrival) admin executed.user executed.tradeId
        requestedAmount filledAmount ledger.store with
    | ok _ after => exact ⟨after, rfl, wp_ok spec ran⟩
    | error _ _ => exact (wp_error spec ran).elim

/-- Every trade that is not resolved has timed out or has the place. -/
def OutstandingKept (past : List MarketTransition) (ledger : Ledger MarketStore) : Prop :=
  ∀ executed ∈ outstanding past, executed.expiry ≤ ledger.sequence ∨
    ∃ order, Awaits ledger.store executed order

/-- A trade is executed only when no other one waits that has not timed out. -/
def MarketTransition.Unhurried (taken : MarketTransition) : Prop :=
  taken.executes.isSome = true → ∀ order ∈ taken.pre.store.pendingTradeConfirmation,
    order.status = .executedAwaitingConfirmation → order.expiresAtLedger ≤ taken.env.sequence
deriving Decidable

section Steps

variable {past : List MarketTransition} {ledger : Ledger MarketStore} {input : MarketInput}

theorem outstanding_concat (past : List MarketTransition) (taken : MarketTransition) :
    outstanding (past ++ [taken]) = taken.outstanding (outstanding past) := by
  rw [outstanding, outstanding, foldl_append, foldl_cons, foldl_nil]

theorem executedTrade_of_unexecuted {taken : MarketTransition} (unexecuted : taken.executes = none) :
    taken.executedTrade = none := by
  rw [executedTrade, unexecuted, Option.map_none]

theorem OutstandingKept.unmoved {after : Ledger MarketStore} (kept : OutstandingKept past ledger)
    (later : ledger.sequence ≤ after.sequence)
    (unexecuted : executedTrade ⟨ledger, input, after⟩ = none)
    (same : after.store.pendingTradeConfirmation = ledger.store.pendingTradeConfirmation) :
    OutstandingKept (past ++ [⟨ledger, input, after⟩]) after := by
  intro executed listed
  rw [outstanding_concat, MarketTransition.outstanding, unexecuted, Option.toList_none,
    append_nil, mem_filter] at listed
  rcases kept executed listed.1 with expired | ⟨order, awaits⟩
  · exact .inl (expired.trans later)
  · exact .inr ⟨order, ⟨same.trans awaits.hit, awaits.tradeId, awaits.user,
      awaits.executionLedger, awaits.expiry, awaits.status⟩⟩

theorem OutstandingKept.resolved {after : Ledger MarketStore}
    (kept : OutstandingKept past ledger) (later : ledger.sequence ≤ after.sequence)
    (unexecuted : executedTrade ⟨ledger, input, after⟩ = none)
    {order : TradeOrder} (hit : ledger.store.pendingTradeConfirmation = some order)
    (resolves : resolves ⟨ledger, input, after⟩ = some (order.tradeId, order.user)) :
    OutstandingKept (past ++ [⟨ledger, input, after⟩]) after := by
  intro executed listed
  rw [outstanding_concat, MarketTransition.outstanding, unexecuted, Option.toList_none,
    append_nil, mem_filter, decide_eq_true_eq] at listed
  rcases kept executed listed.1 with expired | ⟨other, awaits⟩
  · exact .inl (expired.trans later)
  · cases Option.mem_unique hit awaits.hit
    exact absurd (resolves.trans (by rw [awaits.tradeId, awaits.user])) listed.2

variable {batchCtx : Option BatchExecutionContext} {pre after : MarketStore}

theorem TradeEffect.pending_of_error {env : Env} {outside : Outside} {trade : Trade}
    {reason : ContractError}
    (effect : TradeEffect env outside batchCtx pre trade (.error reason) after) :
    after.pendingTradeConfirmation = pre.pendingTradeConfirmation := by
  cases effect with
  | turnedAway => rfl
  | unopened => exact pre.counted_pending env _ trade

theorem TradeEffect.awaits {env : Env} {outside : Outside} {trade : Trade}
    (effect : TradeEffect env outside batchCtx pre trade (.ok ()) after) :
    ∃ order, Awaits after ⟨pre.receiptId, trade.user, env.sequence⟩ order := by
  cases effect with
  | opened =>
    rw [MarketStore.opened_eq]
    refine ⟨_, rfl, ?_, rfl, rfl, rfl, rfl⟩
    exact congrArg (Option.getD · 1) (pre.counted_receiptId env _ trade)

/-- Every step keeps the places, when trades are not hurried. -/
theorem OutstandingKept.step (kept : OutstandingKept past ledger)
    (unhurried : MarketTransition.Unhurried ⟨ledger, input, marketStep input ledger⟩) :
    OutstandingKept (past ++ [⟨ledger, input, marketStep input ledger⟩])
      (marketStep input ledger) := by
  have later : ledger.sequence ≤ (marketStep input ledger).sequence := Nat.le_add_right _ _
  by_cases returns : MarketTransition.Returned ⟨ledger, input, marketStep input ledger⟩
  case neg =>
    refine kept.unmoved later (executedTrade_of_unexecuted (executes_of_rejected returns)) ?_
    exact congrArg MarketStore.pendingTradeConfirmation (invoke_of_rejected returns)
  have effect := marketStep_effect input ledger
  have resolving : resolves ⟨ledger, input, marketStep input ledger⟩ =
      match input.call with
      | .finalizeTrade =>
        ledger.store.pendingTradeConfirmation.map fun order => (order.tradeId, order.user)
      | .recordPartialFill _ user tradeId requestedAmount filledAmount =>
        if filledAmount = requestedAmount then none else some (tradeId, user)
      | _ => none := if_pos returns
  obtain ⟨arrival, outside, call⟩ := input
  dsimp only at effect resolving
  generalize has : (marketStep ⟨arrival, outside, call⟩ ledger).store = after at effect
  have pending := congrArg MarketStore.pendingTradeConfirmation has
  cases effect with
  | rejected rejected => exact absurd returns rejected
  | @executed trade requireUserAuth swallowed batchCtx after accepts effect =>
    intro executed listed
    rw [outstanding_concat, MarketTransition.outstanding, mem_append, mem_filter] at listed
    set step : MarketInput := ⟨arrival, outside, .copy trade requireUserAuth batchCtx swallowed⟩
    have executes : executes ⟨ledger, step, marketStep step ledger⟩ = some trade :=
      if_pos accepts
    rcases listed with ⟨prior, _⟩ | now
    · left
      rcases kept executed prior with expired | ⟨order, awaits⟩
      · exact expired.trans later
      · have free := unhurried (by rw [executes]; rfl) order awaits.hit awaits.status
        exact awaits.expiry ▸ free
    · right
      rw [executedTrade, executes] at now
      cases List.mem_singleton.mp now
      rw [has]
      exact effect.awaits
  | failed refuses effect =>
    exact kept.unmoved later (executedTrade_of_unexecuted (if_neg refuses))
      (pending.trans effect.pending_of_error)
  | finalized hit =>
    refine kept.resolved later (executedTrade_of_unexecuted rfl) hit ?_
    rw [resolving, hit]
    rfl
  | filled whole =>
    exact kept.unmoved later (executedTrade_of_unexecuted rfl) pending
  | partlyFilled part hit own owner =>
    refine kept.resolved later (executedTrade_of_unexecuted rfl) hit ?_
    rw [resolving, own, owner]
    exact if_neg part
  | triggered =>
    exact kept.unmoved later (executedTrade_of_unexecuted rfl) pending
  | cancelled =>
    exact kept.unmoved later (executedTrade_of_unexecuted rfl) pending
  | unplanned =>
    exact kept.unmoved later (executedTrade_of_unexecuted rfl) pending
  | planned =>
    exact kept.unmoved later (executedTrade_of_unexecuted rfl) pending
  | elsewhere =>
    exact kept.unmoved later (executedTrade_of_unexecuted rfl) pending

end Steps

/-- In every run, an executed trade that is not resolved can be confirmed until it times out,
when no trade is executed while an earlier one still waits. -/
theorem executed_trades_confirmable (timestamp sequence : Nat) (inputs : List MarketInput)
    (unhurried : ∀ taken ∈ trace marketStep (marketStart timestamp sequence) inputs,
      MarketTransition.Unhurried taken) :
    ∀ executed ∈ outstanding (trace marketStep (marketStart timestamp sequence) inputs),
      StillConfirmable (final marketStep (marketStart timestamp sequence) inputs) executed := by
  have kept := transition_history_invariant marketStep OutstandingKept MarketTransition.Unhurried
    (fun past ledger input guard kept => kept.step guard) (marketStart timestamp sequence)
    (fun _ listed => by cases listed) inputs unhurried
  intro executed listed
  rcases kept executed listed with expired | ⟨order, awaits⟩
  · intro arrival inTime
    exact absurd inTime (not_lt.mpr (expired.trans (Nat.le_add_right _ _)))
  · exact awaits.confirmable

def twoTrades (apart : Nat) : List MarketInput :=
  let config : TradeConfig := { TradeConfig.blank with userPortfolio := some 9 }
  let outside : Outside :=
    ⟨fun _ _ => some 1000000, fun _ _ _ => false, fun _ => ⟨0, 0⟩, .ok 0⟩
  [⟨⟨1, 1, []⟩, outside, .elsewhere config ⟨false, none⟩ ∅⟩,
    ⟨⟨1, 1, [1]⟩, outside, .copy ⟨1, 2, 2000, none⟩ true none false⟩,
    ⟨⟨1, apart, [3]⟩, outside, .copy ⟨3, 2, 2000, none⟩ true none false⟩]

/-- The second trade takes the place of the first, which can no longer be confirmed. -/
theorem later_trade_displaces : ¬ ∀ (timestamp sequence : Nat) (inputs : List MarketInput),
      ∀ executed ∈ outstanding (trace marketStep (marketStart timestamp sequence) inputs),
        StillConfirmable (final marketStep (marketStart timestamp sequence) inputs) executed := by
  intro every
  have confirmable := every 0 0 (twoTrades 1) ⟨1, 1, 2⟩ (by decide) ⟨50, 50, []⟩ (by decide)
  obtain ⟨after, finalized, order, hit, tradeId, _⟩ := confirmable.1 (by decide)
  cases finalized
  cases hit
  cases tradeId

/-- A trade that comes after the first has timed out does not hurry it. -/
theorem timed_out_first :
    let inputs := twoTrades 120
    ∀ executed ∈ outstanding (trace marketStep (marketStart 0 0) inputs),
      StillConfirmable (final marketStep (marketStart 0 0) inputs) executed :=
  executed_trades_confirmable 0 0 (twoTrades 120) (by decide)

end StellarSwipe.TradeExecutor
