import StellarSwipe.Library.Runs
import StellarSwipe.TradeExecutor.MarketEffects

/-!
# Runs of the market

What the entry points do to the market, one trade at a time: an attempted trade, whose error is
swallowed with what it wrote, as batches and the queue do, or taken back with the call; a
confirmation of the last trade; a position closed by a trigger or by its user; and an interval of
a plan.
-/

namespace StellarSwipe.TradeExecutor

open FixedWidth Program Runs

def finalizeTrade (env : Env) : MarketProgram Unit := do
  let store ← get
  let order ← orFail store.pendingTradeConfirmation .tradeNotFound
  ensure (order.status = .executedAwaitingConfirmation) .unauthorized
  ensure (¬ env.sequence - order.executionLedger < store.config.depth)
    .confirmationDepthNotReached
  modify fun store => { store with
    pendingTradeConfirmation := some { order with status := .filled } }

/-- A complete fill is accepted and changes nothing. -/
def recordPartialFill (env : Env) (caller user : Address) (tradeId : Nat)
    (requestedAmount filledAmount : Int) : MarketProgram Unit := do
  ensure (¬ (requestedAmount < 0 ∨ filledAmount < 0 ∨ requestedAmount < filledAmount))
    .invalidAmount
  requireAuth env caller
  let store ← get
  admitAdmin env store.config
  let order ← orFail store.pendingTradeConfirmation .tradeNotFound
  ensure (¬ (order.tradeId ≠ tradeId ∨ order.user ≠ user)) .tradeNotFound
  if filledAmount = requestedAmount then pure ()
  else do
    let remainingAmount := (i128.checkedSub requestedAmount filledAmount).getD requestedAmount
    modify fun store => { store with
      partialFills := store.partialFills.insert (user, tradeId)
        ⟨requestedAmount, filledAmount, remainingAmount, env.sequence⟩
      pendingTradeConfirmation := some { order with status := .partiallyFilled } }

/-- Close an open position of the user. The portfolio aborts when there is none. -/
def closeByTrigger (user : Address) (positionId : Nat) : MarketProgram Unit := do
  demand ((← get).portfolio.Holds user positionId)
  modify fun store =>
    let closed : MarketStore := { store with portfolio := store.portfolio.close positionId }
    closed.decrementUserPositionCount user

/-- Close a position of the caller by a swap, whose token and amount the caller names. -/
def cancelCopyTrade (env : Env) (outside : Outside) (caller user : Address) (tradeId : Nat)
    (fromToken : Address) (amount entryPrice : Int) : MarketProgram Unit := do
  requireAuth env caller
  ensure (caller = user) .unauthorized
  let store ← get
  ensure (store.config.userPortfolio.isSome = true) .notInitialized
  ensure (store.portfolio.Holds user tradeId) .tradeNotFound
  ensure (store.config.sdexRouter.isSome = true) .notInitialized
  let exitPrice ← ofExcept outside.swap
  let product ← orFail (i128.checkedMul amount entryPrice) .invalidAmount
  let _realizedPnl ← orTrap (i128.checkedSub exitPrice (product.tdiv 10000000))
  modify fun store =>
    let closed : MarketStore := { store with portfolio := store.portfolio.close tradeId }
    (closed.decreaseOpenInterest fromToken amount).decrementUserPositionCount user

/-- A position for an interval of a plan, when a portfolio is configured. -/
def openForPlan (outside : Outside) (user : Address) (amount : Int) : MarketProgram Unit := do
  let store ← get
  if store.config.userPortfolio = none then pure ()
  else do
    let exempt := store.config.isExempt user
    let maxPositions := if exempt = true then u32Max else maxPositionsPerUser
    ensure (outside.portfolioRefuses store.portfolio user maxPositions = false)
      .positionLimitReached
    modify fun store => { store with
      portfolio := store.portfolio.record ⟨user, none, amount⟩ }

/-- A call that reaches the market. -/
inductive MarketCall where
  | copy (trade : Trade) (requireUserAuth : Bool) (batchCtx : Option BatchExecutionContext)
      (swallowed : Bool)
  | finalizeTrade
  | recordPartialFill (caller user : Address) (tradeId : Nat) (requestedAmount filledAmount : Int)
  | trigger (user : Address) (positionId : Nat)
  | cancel (caller user : Address) (tradeId : Nat) (fromToken : Address) (amount entryPrice : Int)
  | interval (user : Address) (amount : Int)
  | elsewhere (config : TradeConfig) (breaker : CircuitBreaker)
      (shortfalls : Table Address InsufficientBalanceDetail)

def MarketCall.exec (env : Env) (outside : Outside) : MarketCall → MarketProgram Unit
  | .copy trade requireUserAuth batchCtx swallowed =>
    let attempted := executeMarketCopyTrade env outside trade requireUserAuth batchCtx
    if swallowed = true then discard (attempt attempted) else attempted
  | .finalizeTrade => TradeExecutor.finalizeTrade env
  | .recordPartialFill caller user tradeId requestedAmount filledAmount =>
    TradeExecutor.recordPartialFill env caller user tradeId requestedAmount filledAmount
  | .trigger user positionId => closeByTrigger user positionId
  | .cancel caller user tradeId fromToken amount entryPrice =>
    cancelCopyTrade env outside caller user tradeId fromToken amount entryPrice
  | .interval user amount => openForPlan outside user amount
  | .elsewhere config breaker shortfalls => modify fun store => { store with
      config
      breaker
      lastInsufficientBalance := shortfalls }

structure MarketInput where
  arrival : Arrival
  outside : Outside
  call : MarketCall

def marketStep (input : MarketInput) (ledger : Ledger MarketStore) : Ledger MarketStore :=
  ledger.call input.arrival fun env => input.call.exec env input.outside

def marketStart (timestamp sequence : Nat) : Ledger MarketStore :=
  ⟨.blank, timestamp, sequence⟩

abbrev MarketTransition := Transition (Ledger MarketStore) MarketInput

namespace MarketTransition

variable (taken : MarketTransition)

def env : Env := taken.pre.env taken.input.arrival

def executes : Option Trade :=
  match taken.input.call with
  | .copy trade requireUserAuth batchCtx _ =>
    if Accepts (executeMarketCopyTrade taken.env taken.input.outside trade requireUserAuth batchCtx)
      taken.pre.store then some trade else none
  | _ => none

def Returned : Prop :=
  Accepts (taken.input.call.exec taken.env taken.input.outside) taken.pre.store
deriving Decidable

end MarketTransition

theorem executes_of_rejected {taken : MarketTransition} (rejected : ¬ taken.Returned) :
    taken.executes = none := by
  rw [MarketTransition.executes]
  split
  next trade requireUserAuth batchCtx swallowed called =>
    split
    next accepts =>
      refine absurd ?_ rejected
      rw [MarketTransition.Returned, called, MarketCall.exec]
      cases swallowed with
      | false => exact accepts
      | true =>
        obtain ⟨value, after, ran⟩ := accepts
        have spec : wp (discard (attempt (executeMarketCopyTrade taken.env taken.input.outside trade
            requireUserAuth batchCtx))) (fun _ _ => True) (fun _ _ => False)
            taken.pre.store := (wp_discard _).mpr ((wp_attempt _).mpr (wp_of_ok ran trivial))
        exact (accepts_iff_wp _ _).mpr spec
    next => rfl
  next => rfl

/-- What a step does to the market, by its call. -/
inductive MarketEffect (env : Env) (outside : Outside) (pre : MarketStore) :
    MarketCall → MarketStore → Prop where
  | rejected {call : MarketCall}
      (rejected : ¬ Accepts (call.exec env outside) pre) :
      MarketEffect env outside pre call pre
  | executed {trade : Trade} {requireUserAuth swallowed : Bool}
      {batchCtx : Option BatchExecutionContext} {after : MarketStore}
      (accepts : Accepts (executeMarketCopyTrade env outside trade requireUserAuth batchCtx) pre)
      (effect : TradeEffect env outside batchCtx pre trade (.ok ()) after) :
      MarketEffect env outside pre (.copy trade requireUserAuth batchCtx swallowed) after
  | failed {trade : Trade} {requireUserAuth : Bool} {batchCtx : Option BatchExecutionContext}
      {reason : ContractError} {after : MarketStore}
      (refuses : ¬ Accepts (executeMarketCopyTrade env outside trade requireUserAuth batchCtx) pre)
      (effect : TradeEffect env outside batchCtx pre trade (.error reason) after) :
      MarketEffect env outside pre (.copy trade requireUserAuth batchCtx true) after
  | finalized {order : TradeOrder} (hit : pre.pendingTradeConfirmation = some order) :
      MarketEffect env outside pre .finalizeTrade
        { pre with pendingTradeConfirmation := some { order with status := .filled } }
  | filled {caller user : Address} {tradeId : Nat} {requestedAmount filledAmount : Int}
      (whole : filledAmount = requestedAmount) :
      MarketEffect env outside pre
        (.recordPartialFill caller user tradeId requestedAmount filledAmount) pre
  | partlyFilled {caller user : Address} {tradeId : Nat} {requestedAmount filledAmount : Int}
      {order : TradeOrder} {partialFills : Table (Address × Nat) PartialFillRecord}
      (part : filledAmount ≠ requestedAmount)
      (hit : pre.pendingTradeConfirmation = some order) (own : order.tradeId = tradeId)
      (owner : order.user = user) :
      MarketEffect env outside pre
        (.recordPartialFill caller user tradeId requestedAmount filledAmount)
        { pre with
          partialFills
          pendingTradeConfirmation := some { order with status := .partiallyFilled } }
  | triggered {user : Address} {positionId : Nat} (holds : pre.portfolio.Holds user positionId) :
      MarketEffect env outside pre (.trigger user positionId)
        (MarketStore.decrementUserPositionCount
          { pre with portfolio := pre.portfolio.close positionId } user)
  | cancelled {user fromToken : Address} {tradeId : Nat} {amount entryPrice : Int}
      (holds : pre.portfolio.Holds user tradeId) :
      MarketEffect env outside pre (.cancel user user tradeId fromToken amount entryPrice)
        ((MarketStore.decreaseOpenInterest
          { pre with portfolio := pre.portfolio.close tradeId } fromToken
            amount).decrementUserPositionCount user)
  | unplanned {user : Address} {amount : Int}
      (unset : pre.config.userPortfolio = none) :
      MarketEffect env outside pre (.interval user amount) pre
  | planned {user : Address} {amount : Int}
      (set : pre.config.userPortfolio ≠ none) :
      MarketEffect env outside pre (.interval user amount)
        { pre with portfolio := pre.portfolio.record ⟨user, none, amount⟩ }
  | elsewhere {config : TradeConfig} {breaker : CircuitBreaker}
      {shortfalls : Table Address InsufficientBalanceDetail} :
      MarketEffect env outside pre (.elsewhere config breaker shortfalls)
        { pre with
          config
          breaker
          lastInsufficientBalance := shortfalls }

theorem marketStep_effect (input : MarketInput) (ledger : Ledger MarketStore) :
    MarketEffect (ledger.env input.arrival) input.outside ledger.store input.call
      (marketStep input ledger).store := by
  by_cases returns : Accepts (input.call.exec (ledger.env input.arrival) input.outside)
    ledger.store
  case neg =>
    have same : (marketStep input ledger).store = ledger.store := invoke_of_rejected returns
    rw [same]
    exact .rejected returns
  obtain ⟨_, ran⟩ := gave_of_accepts returns
  suffices spec : wlp (input.call.exec (ledger.env input.arrival) input.outside)
      (fun _ after => MarketEffect (ledger.env input.arrival) input.outside ledger.store input.call
        after) ledger.store from wp_ok spec ran
  obtain ⟨arrival, outside, call⟩ := input
  cases call with
  | copy trade requireUserAuth batchCtx swallowed =>
    have effect : wp (executeMarketCopyTrade (ledger.env arrival) outside trade requireUserAuth
        batchCtx) _ _ ledger.store := executeMarketCopyTrade_effect requireUserAuth
    have executed : wp (executeMarketCopyTrade (ledger.env arrival) outside trade requireUserAuth
        batchCtx)
        (fun _ after => MarketEffect (ledger.env arrival) outside ledger.store
          (.copy trade requireUserAuth batchCtx swallowed) after)
        (fun reason after => reason.holds (fun _ => swallowed = true →
          MarketEffect (ledger.env arrival) outside ledger.store
            (.copy trade requireUserAuth batchCtx swallowed) after) True) ledger.store := by
      refine (wp_iff _).mpr ⟨fun _ after ran => ?_, ?_⟩
      · exact .executed ⟨_, _, ran⟩ (wp_ok effect ran)
      · rintro (reason | _) after stopped
        · rintro rfl
          refine .failed ?_ (wp_error effect stopped)
          rintro ⟨_, _, accepted⟩
          cases accepted.symm.trans stopped
        · trivial
    cases swallowed with
    | false => exact wp_then executed (fun _ _ held => held)
    | true =>
      refine (wp_discard _).mpr ((wp_attempt _).mpr
        (wp_mono executed (fun _ _ held => held) ?_))
      rintro (reason | _) after held
      · exact held rfl
      · trivial
  | finalizeTrade =>
    simp only [MarketCall.exec, finalizeTrade, wp_rules]
    exact ⟨fun order hit => ⟨fun _ => ⟨fun _ => .finalized hit, fun _ => trivial⟩,
      fun _ => trivial⟩, fun _ => trivial⟩
  | recordPartialFill caller user tradeId requestedAmount filledAmount =>
    simp only [MarketCall.exec, recordPartialFill, admitAdmin, wp_rules, wp_auth, wp_ite]
    refine ⟨fun _ => ⟨fun _ => ⟨fun admin _ => ⟨fun _ => ⟨fun order hit => ⟨fun same => ⟨fun whole =>
      .filled whole, fun part => ?_⟩, fun _ => trivial⟩, fun _ => trivial⟩,
      fun _ => trivial⟩, fun _ => trivial⟩, fun _ => trivial⟩, fun _ => trivial⟩
    simp only [not_or, not_not, ne_eq] at same
    exact .partlyFilled part hit same.1 same.2
  | trigger user positionId =>
    simp only [MarketCall.exec, closeByTrigger, wp_rules]
    exact ⟨fun holds => .triggered holds, fun _ => trivial⟩
  | cancel caller user tradeId fromToken amount entryPrice =>
    simp only [MarketCall.exec, cancelCopyTrade, wp_rules, wp_auth]
    refine ⟨fun _ => ⟨?_, fun _ => trivial⟩, fun _ => trivial⟩
    rintro rfl
    exact ⟨fun _ => ⟨fun holds => ⟨fun _ => ⟨fun _ _ => ⟨fun _ _ => ⟨fun _ _ => .cancelled holds,
      fun _ => trivial⟩, fun _ => trivial⟩, fun _ _ => trivial⟩, fun _ => trivial⟩,
      fun _ => trivial⟩, fun _ => trivial⟩
  | interval user amount =>
    simp only [MarketCall.exec, openForPlan, wp_rules, wp_ite]
    exact ⟨fun unset => .unplanned unset, fun set => ⟨fun _ => .planned set, fun _ => trivial⟩⟩
  | elsewhere => exact .elsewhere

end StellarSwipe.TradeExecutor
