import StellarSwipe.Host
import StellarSwipe.Library.KeyedSum

/-!
# Settlement orders

An order is settled by fills, each within the caller's bounds and no later than the order's
deadline, until it is fully settled, fails, is cancelled by its owner or expires.
-/

namespace StellarSwipe.Settlement

open FixedWidth Program

inductive SettlementStatus where
  | opened
  | partiallyFilled
  | fullySettled
  | failed
  | cancelled
  | expired
deriving DecidableEq

structure FillRecord where
  fillIndex : Nat
  filledAmount : Int
  executionPrice : Int
  ledger : Nat
  isFinal : Bool

structure SlippageBounds where
  minOutput : Amount
  maxInput : Amount

structure SettlementOrder where
  orderId : Nat
  user : Address
  requestedAmount : Int
  settledAmount : Int
  status : SettlementStatus
  fillCount : Nat
  createdAtLedger : Nat
  lastFillLedger : Nat
  minOutput : Int
  maxInput : Int
  deadlineLedger : Nat

namespace SettlementOrder

variable (order : SettlementOrder)

def remaining : Int := max (i128.saturatingSub order.requestedAmount order.settledAmount) 0

def IsClosed : Prop :=
  order.status = .fullySettled ∨ order.status = .failed ∨ order.status = .cancelled ∨
    order.status = .expired
deriving Decidable

/-- The deadline has passed. A deadline of zero never does. -/
def IsPastDeadline (now : Nat) : Prop := order.deadlineLedger ≠ 0 ∧ order.deadlineLedger < now
deriving Decidable

end SettlementOrder

inductive SettlementError where
  | orderNotFound
  | orderAlreadyClosed
  | invalidFillAmount
  | fillExceedsRemaining
  | orderIdOverflow
  | invalidSlippageBounds
  | slippageBoundsViolated
  | invalidDeadline
  | orderExpired
  | unauthorized

structure SettlementStore where
  orders : Table Nat SettlementOrder
  fills : Table (Nat × Nat) FillRecord
  nextOrderId : Option Nat
  userOrders : Table Address (List Nat)

def SettlementStore.empty : SettlementStore := ⟨∅, ∅, none, ∅⟩

abbrev SettlementProgram := Program SettlementStore SettlementError

def nextOrderId : SettlementProgram Nat := do
  let id := (← get).nextOrderId.getD 1
  let next ← orFail (checkedCount u64Max id 1) .orderIdOverflow
  modify fun store => { store with nextOrderId := some next }
  pure id

def saveOrder (order : SettlementOrder) : SettlementProgram Unit :=
  modify fun store => { store with orders := store.orders.insert order.orderId order }

variable (env : Env) (orderId : Nat)

def loadOrder : SettlementProgram SettlementOrder := do
  orFail ((← get).orders.lookup orderId) .orderNotFound

def saveFill (fill : FillRecord) : SettlementProgram Unit :=
  modify fun store =>
    { store with fills := store.fills.insert (orderId, fill.fillIndex) fill }

variable (user : Address)

def appendUserOrder (orderId : Nat) : SettlementProgram Unit :=
  modify fun store =>
    let ids := (store.userOrders.lookup user).getD []
    { store with userOrders := store.userOrders.insert user (ids ++ [orderId]) }

def SettlementOrder.new (requestedAmount : Int) (slippage : SlippageBounds) (deadlineLedger : Nat) :
    SettlementOrder where
  orderId
  user
  requestedAmount
  settledAmount := 0
  status := .opened
  fillCount := 0
  createdAtLedger := env.sequence
  lastFillLedger := 0
  minOutput := slippage.minOutput
  maxInput := slippage.maxInput
  deadlineLedger

def createOrderInternal (requestedAmount : Amount) (slippage : SlippageBounds)
    (deadlineLedger : Nat) : SettlementProgram Nat := do
  ensure (¬ (requestedAmount : Int) ≤ 0) .invalidFillAmount
  ensure (¬ ((slippage.minOutput : Int) < 0 ∨ (slippage.maxInput : Int) < 0))
    .invalidSlippageBounds
  let orderId ← nextOrderId
  saveOrder (.new env orderId user requestedAmount slippage deadlineLedger)
  appendUserOrder user orderId
  pure orderId

def createSettlementOrder (requestedAmount : Amount) (slippage : SlippageBounds) :
    SettlementProgram Nat :=
  createOrderInternal env user requestedAmount slippage 0

def createSettlementOrderWithDeadline (requestedAmount : Amount) (slippage : SlippageBounds)
    (deadlineLedger : Nat) : SettlementProgram Nat := do
  ensure (¬ (deadlineLedger ≠ 0 ∧ deadlineLedger ≤ env.sequence)) .invalidDeadline
  createOrderInternal env user requestedAmount slippage deadlineLedger

/-- Mark an order expired once its deadline has passed, which is an error of its own. -/
def expireOrder (order : SettlementOrder) : SettlementProgram Unit :=
  if ¬ order.IsClosed ∧ order.IsPastDeadline env.sequence then do
    saveOrder { order with status := .expired }
    fail .orderExpired
  else pure ()

def cancelSettlementOrder (caller : Address) : SettlementProgram Unit := do
  let order ← loadOrder orderId
  ensure (caller = order.user) .unauthorized
  expireOrder env order
  ensure (¬ order.IsClosed) .orderAlreadyClosed
  saveOrder { order with status := .cancelled }

/-- The running totals of an order after a fill, and its status by what remains. -/
def SettlementOrder.filled (env : Env) (order : SettlementOrder) (fillAmount : Int) :
    SettlementOrder :=
  let filled := { order with
    settledAmount := (i128.checkedAdd order.settledAmount fillAmount).getD i128.high
    fillCount := satCount u32Max order.fillCount 1
    lastFillLedger := env.sequence }
  { filled with
    status := if filled.remaining = 0 then .fullySettled else .partiallyFilled }

def SettlementOrder.fill (order : SettlementOrder) (fillAmount executionPrice : Int) :
    FillRecord where
  fillIndex := order.fillCount
  filledAmount := fillAmount
  executionPrice
  ledger := env.sequence
  isFinal := decide (order.remaining = 0)

structure BatchSettlementResult where
  orderId : Nat
  batchFilled : Int
  totalSettled : Int
  remaining : Int
  status : SettlementStatus
  fillIndex : Nat

def settleBatch (fillAmount inputAmount executionPrice : Amount) :
    SettlementProgram BatchSettlementResult := do
  ensure (¬ ((fillAmount : Int) < 0 ∨ (inputAmount : Int) < 0)) .invalidFillAmount
  let order ← loadOrder orderId
  expireOrder env order
  ensure (¬ order.IsClosed) .orderAlreadyClosed
  ensure (¬ ((fillAmount : Int) < order.minOutput ∨ order.maxInput < (inputAmount : Int)))
    .slippageBoundsViolated
  ensure (¬ order.remaining < (fillAmount : Int)) .fillExceedsRemaining
  let settled := order.filled env fillAmount
  let fill := settled.fill env fillAmount executionPrice
  saveFill orderId fill
  saveOrder settled
  pure ⟨orderId, fillAmount, settled.settledAmount, settled.remaining, settled.status,
    fill.fillIndex⟩

def failSettlementOrder : SettlementProgram Unit := do
  let order ← loadOrder orderId
  ensure (¬ order.IsClosed) .orderAlreadyClosed
  saveOrder { order with status := .failed }

inductive SettlementCall where
  | create (user : Address) (requestedAmount : Amount) (slippage : SlippageBounds)
  | createWithDeadline (user : Address) (requestedAmount : Amount) (slippage : SlippageBounds)
      (deadlineLedger : Nat)
  | cancel (orderId : Nat) (caller : Address)
  | settle (orderId : Nat) (fillAmount inputAmount executionPrice : Amount)
  | fail (orderId : Nat)

def SettlementCall.exec (call : SettlementCall) (env : Env) : SettlementProgram Unit :=
  match call with
  | .create user requestedAmount slippage =>
    discard (createSettlementOrder env user requestedAmount slippage)
  | .createWithDeadline user requestedAmount slippage deadlineLedger =>
    discard (createSettlementOrderWithDeadline env user requestedAmount slippage deadlineLedger)
  | .cancel orderId caller => cancelSettlementOrder env orderId caller
  | .settle orderId fillAmount inputAmount executionPrice =>
    discard (settleBatch env orderId fillAmount inputAmount executionPrice)
  | .fail orderId => failSettlementOrder orderId

/-- A call that arrives. Its caller either passes an error on, which undoes its writes, or
handles it, which keeps them. -/
structure SettlementInput where
  arrival : Arrival
  handled : Bool
  call : SettlementCall

def SettlementInput.exec (input : SettlementInput) (env : Env) : SettlementProgram Unit :=
  if input.handled = true then discard (attempt (input.call.exec env)) else input.call.exec env

def settlementStep (input : SettlementInput) (ledger : Ledger SettlementStore) :
    Ledger SettlementStore :=
  ledger.call input.arrival input.exec

def settlementStart (timestamp sequence : Nat) : Ledger SettlementStore :=
  ⟨.empty, timestamp, sequence⟩

/-- What a call does, whether it returns or stops with an error. -/
inductive SettlementEffect (env : Env) (pre : SettlementStore) :
    SettlementCall → SettlementStore → Prop where
  | none {call : SettlementCall} : SettlementEffect env pre call pre
  | created {call : SettlementCall} {user : Address} {requestedAmount : Amount}
      {slippage : SlippageBounds} {deadlineLedger : Nat} {after : SettlementStore}
      (pos : 0 < (requestedAmount : Int))
      (orders : after.orders = pre.orders.insert (pre.nextOrderId.getD 1)
        (.new env (pre.nextOrderId.getD 1) user requestedAmount slippage deadlineLedger))
      (fills : after.fills = pre.fills)
      (next : after.nextOrderId = some (pre.nextOrderId.getD 1 + 1)) :
      SettlementEffect env pre call after
  | closed {call : SettlementCall} {orderId : Nat} {order : SettlementOrder}
      {status : SettlementStatus} {after : SettlementStore}
      (hit : pre.orders.lookup orderId = some order) (live : ¬ order.IsClosed)
      (unsettled : status = .failed ∨ status = .cancelled ∨ status = .expired)
      (orders : after.orders = pre.orders.insert order.orderId { order with status })
      (fills : after.fills = pre.fills) (next : after.nextOrderId = pre.nextOrderId) :
      SettlementEffect env pre call after
  | filled {orderId : Nat} {fillAmount inputAmount executionPrice : Amount}
      {order : SettlementOrder} {after : SettlementStore}
      (hit : pre.orders.lookup orderId = some order) (live : ¬ order.IsClosed)
      (inTime : ¬ order.IsPastDeadline env.sequence) (pos : 0 ≤ (fillAmount : Int))
      (given : 0 ≤ (inputAmount : Int)) (output : order.minOutput ≤ fillAmount)
      (input : (inputAmount : Int) ≤ order.maxInput)
      (fits : (fillAmount : Int) ≤ order.remaining)
      (fills : after.fills = pre.fills.insert
        (orderId, (order.filled env fillAmount).fillCount)
        ((order.filled env fillAmount).fill env fillAmount executionPrice))
      (orders : after.orders = pre.orders.insert order.orderId (order.filled env fillAmount))
      (next : after.nextOrderId = pre.nextOrderId) :
      SettlementEffect env pre (.settle orderId fillAmount inputAmount executionPrice) after

section Effects

variable {env : Env} {pre : SettlementStore} {call : SettlementCall}

/-- The postcondition of a call, on a return and on an error. -/
def Effects (env : Env) (pre : SettlementStore) (call : SettlementCall) {α : Type}
    (program : SettlementProgram α) : Prop :=
  wp program (fun _ after => SettlementEffect env pre call after)
    (fun _ after => SettlementEffect env pre call after) pre

theorem createOrderInternal_effect (user : Address) (requestedAmount : Amount)
    (slippage : SlippageBounds) (deadlineLedger : Nat) : Effects env pre call
      (createOrderInternal env user requestedAmount slippage deadlineLedger) := by
  simp only [Effects, createOrderInternal, nextOrderId, saveOrder, appendUserOrder, wp_rules,
    checkedCount_eq_some]
  refine ⟨fun pos => ⟨fun _ => ⟨?_, fun _ => .none⟩, fun _ => .none⟩, fun _ => .none⟩
  rintro _ ⟨_, rfl⟩
  exact .created (not_le.mp pos) rfl rfl rfl

theorem wp_expireOrder {post : Unit → SettlementStore → Prop} {orderId : Nat}
    {order : SettlementOrder} (hit : pre.orders.lookup orderId = some order)
    (onward : (¬ order.IsClosed → ¬ order.IsPastDeadline env.sequence) → post () pre) :
    wp (expireOrder env order) post (fun _ after => SettlementEffect env pre call after) pre := by
  rw [expireOrder, wp_ite]
  refine ⟨fun expires => ?_, fun inTime => onward fun live past => inTime ⟨live, past⟩⟩
  simp only [saveOrder, wp_rules]
  exact .closed hit expires.1 (.inr (.inr rfl)) rfl rfl rfl

theorem SettlementCall.exec_effect (call : SettlementCall) :
    Effects env pre call (call.exec env) := by
  cases call with
  | create user requestedAmount slippage =>
    exact (wp_discard _).mpr (createOrderInternal_effect user requestedAmount slippage 0)
  | createWithDeadline user requestedAmount slippage deadlineLedger =>
    refine (wp_discard _).mpr ((wp_bind _ _).mpr ((wp_ensure _ _).mpr ⟨fun _ => ?_, fun _ => .none⟩))
    exact createOrderInternal_effect user requestedAmount slippage deadlineLedger
  | cancel orderId caller =>
    simp only [Effects, exec, cancelSettlementOrder, loadOrder, wp_rules]
    refine ⟨fun order hit => ⟨fun _ => wp_expireOrder hit fun _ => ?_, fun _ => .none⟩,
      fun _ => .none⟩
    exact ⟨fun live => .closed hit live (.inr (.inl rfl)) rfl rfl rfl, fun _ => .none⟩
  | settle orderId fillAmount inputAmount executionPrice =>
    simp only [Effects, exec, settleBatch, loadOrder, wp_rules, saveFill, saveOrder, not_or, not_lt]
    refine ⟨fun pos => ⟨fun order hit => wp_expireOrder hit fun inTime => ?_,
      fun _ => .none⟩, fun _ => .none⟩
    refine ⟨fun live => ⟨fun bounds => ⟨fun fits => ?_, fun _ => .none⟩, fun _ => .none⟩,
      fun _ => .none⟩
    exact .filled hit live (inTime live) pos.1 pos.2 bounds.1 bounds.2 fits rfl rfl rfl
  | fail orderId =>
    simp only [Effects, exec, failSettlementOrder, loadOrder, wp_rules, saveOrder]
    exact ⟨fun order hit => ⟨fun live => .closed hit live (.inl rfl) rfl rfl rfl,
      fun _ => .none⟩, fun _ => .none⟩

/-- A step has an effect of its call, whether its caller passes errors on or handles them. -/
theorem settlementStep_effect (input : SettlementInput) (ledger : Ledger SettlementStore) :
    SettlementEffect (ledger.env input.arrival) ledger.store input.call
      (settlementStep input ledger).store := by
  have effect : Effects (ledger.env input.arrival) ledger.store input.call
      (input.call.exec (ledger.env input.arrival)) := input.call.exec_effect
  refine @invoke_rule _ _ _ _ (SettlementEffect _ _ _) _ ?_
  rw [SettlementInput.exec]
  split
  next =>
    rw [wp_discard, wp_attempt]
    refine wp_mono effect (fun _ _ taken => taken) fun reason _ taken => ?_
    cases reason with
    | error => exact taken
    | trap => exact .none
  next => exact wp_mono effect (fun _ _ taken => taken) fun _ _ _ => .none

end Effects

end StellarSwipe.Settlement
