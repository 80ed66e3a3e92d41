import StellarSwipe.AutoTrade.Iceberg

/-!
# What a call does to an iceberg order

An opening, a new price and a fill of a whole slice place an order on the exchange; a fill is
first taken from the order of the exchange that it comes from.
-/

namespace StellarSwipe.AutoTrade

open FixedWidth Program Runs

inductive IcebergCall where
  | creates (request : OrderRequest)
  | fills (sdexOrderId : Nat) (filledAmount fillPrice : Int)
  | reprices (orderId : Nat) (user : Address) (newPrice : Int)
  | cancels (orderId : Nat) (user : Address)

/-- A call runs; a fill is first taken from the order on the exchange. -/
def IcebergCall.exec (env : Env) : IcebergCall → IcebergProgram Unit
  | .creates request => discard (createIcebergOrder env request)
  | .fills sdexOrderId filledAmount fillPrice => do
    modify (·.take sdexOrderId filledAmount)
    onSdexFill env sdexOrderId filledAmount fillPrice
  | .reprices orderId user newPrice => updateIcebergPrice env orderId user newPrice
  | .cancels orderId user => discard (cancelIcebergOrder env orderId user)

structure IcebergInput where
  arrival : Arrival
  call : IcebergCall

def icebergStep (input : IcebergInput) (ledger : Ledger IcebergStore) : Ledger IcebergStore :=
  ledger.call input.arrival fun env => input.call.exec env

abbrev IcebergTransition := Transition (Ledger IcebergStore) IcebergInput

namespace IcebergTransition

variable (taken : IcebergTransition)

/-- The surroundings of the call. -/
def env : Env := taken.pre.env taken.input.arrival

def Returned : Prop := Accepts (taken.input.call.exec taken.env) taken.pre.store
deriving Decidable

def filledFor (orderId : Nat) (taken : IcebergTransition) : Int :=
  if taken.Returned then
    match taken.input.call with
    | .fills sdexOrderId filledAmount _ =>
      if taken.pre.store.sdexToIceberg.lookup sdexOrderId = some orderId then filledAmount
      else 0
    | _ => 0
  else 0

end IcebergTransition

/-- The slice that follows a fill of a whole one. -/
def IcebergOrder.nextSlice (order : IcebergOrder) (filledAmount : Int) : Int :=
  if order.totalAmount - (order.filledAmount + filledAmount) < order.visibleAmount then
    order.totalAmount - (order.filledAmount + filledAmount)
  else order.visibleAmount

/-- What a call that returns does to the storage. -/
inductive IcebergEffect (env : Env) (pre : IcebergStore) : IcebergCall → IcebergStore → Prop
  | created {request order sdexOrderId} :
    order.totalAmount = request.totalAmount → order.visibleAmount = request.visibleAmount →
    order.filledAmount = 0 → order.status = .active → 0 < request.totalAmount →
    request.visibleAmount ≤ request.totalAmount →
    sdexOrderNumber env request.visibleAmount request.price = some sdexOrderId →
    IcebergEffect env pre (.creates request)
      ((({ pre with orderCounter := pre.orderCounter + 1 }.place sdexOrderId
        request.visibleAmount).storeOrder (pre.orderCounter + 1) order).mapCurrent
          (pre.orderCounter + 1) sdexOrderId)
  | filled {sdexOrderId filledAmount fillPrice orderId order average history} :
    pre.sdexToIceberg.lookup sdexOrderId = some orderId →
    pre.icebergOrders.lookup orderId = some order →
    (order.visibleAmount ≤ order.currentVisibleFilled + filledAmount →
      order.totalAmount ≤ order.filledAmount + filledAmount) →
    IcebergEffect env pre (.fills sdexOrderId filledAmount fillPrice)
      ({ pre.take sdexOrderId filledAmount with fillHistory := history }.storeOrder orderId
        { order.counted filledAmount average with
          status :=
            if order.visibleAmount ≤ order.currentVisibleFilled + filledAmount then .filled
            else if 0 < order.filledAmount + filledAmount then .partiallyFilled
            else order.status })
  | replenished {sdexOrderId filledAmount fillPrice orderId order average history newSdexOrder} :
    pre.sdexToIceberg.lookup sdexOrderId = some orderId →
    pre.icebergOrders.lookup orderId = some order →
    order.visibleAmount ≤ order.currentVisibleFilled + filledAmount →
    order.filledAmount + filledAmount < order.totalAmount →
    sdexOrderNumber env (order.nextSlice filledAmount) order.price = some newSdexOrder →
    IcebergEffect env pre (.fills sdexOrderId filledAmount fillPrice)
      ((({ pre.take sdexOrderId filledAmount with fillHistory := history }.place newSdexOrder
        (order.nextSlice filledAmount)).mapCurrent orderId newSdexOrder).storeOrder orderId
        { order.counted filledAmount average with
          currentVisibleFilled := 0
          status := .partiallyFilled })
  | repriced {orderId user newPrice order newSdexOrder} :
    pre.icebergOrders.lookup orderId = some order →
    order.status = .active ∨ order.status = .partiallyFilled →
    sdexOrderNumber env (order.visibleAmount - order.currentVisibleFilled) newPrice =
      some newSdexOrder →
    IcebergEffect env pre (.reprices orderId user newPrice)
      (((pre.place newSdexOrder (order.visibleAmount - order.currentVisibleFilled)).storeOrder
        orderId { order with price := newPrice }).mapCurrent orderId newSdexOrder)
  | cancelled {orderId user order} :
    pre.icebergOrders.lookup orderId = some order → order.status ≠ .filled →
    IcebergEffect env pre (.cancels orderId user)
      (pre.storeOrder orderId { order with status := .cancelled })

section Specs

variable {env : Env} {store : IcebergStore} {fault : Fault String → IcebergStore → Prop}

@[simp] theorem wp_placeSdexLimitOrder {post : Nat → IcebergStore → Prop} (amount price : Int) :
    wp (placeSdexLimitOrder env amount price) post fault store ↔
      (∀ sdexOrderId, sdexOrderNumber env amount price = some sdexOrderId →
        post sdexOrderId (store.place sdexOrderId amount)) ∧
      (sdexOrderNumber env amount price = none → fault .trap store) := by
  simp [placeSdexLimitOrder]

@[simp] theorem wp_getIcebergOrder {post : IcebergOrder → IcebergStore → Prop} (orderId : Nat) :
    wp (getIcebergOrder orderId) post fault store ↔
      (∀ order, store.icebergOrders.lookup orderId = some order → post order store) ∧
      (store.icebergOrders.lookup orderId = none → fault (.error "Order not found") store) := by
  simp [getIcebergOrder]

@[simp] theorem wp_cancelCurrentSdexOrder {post : Unit → IcebergStore → Prop} (orderId : Nat) :
    wp (cancelCurrentSdexOrder orderId) post fault store ↔ post () store := by
  simp only [cancelCurrentSdexOrder, cancelSdexOrder, wp_rules]
  split <;> rfl

theorem recordFill_spec (orderId : Nat) (filledAmount price : Int) :
    wlp (recordFill orderId filledAmount price)
      (fun _ after => ∃ history, after = { store with fillHistory := history }) store := by
  simp only [recordFill, wp_rules]
  split
  next =>
    simp only [wlp_rules]
    exact fun _ _ => ⟨_, rfl⟩
  next => exact ⟨_, rfl⟩

theorem OrderRequest.visibleAmount_le {request : OrderRequest} (pos : 0 < request.totalAmount)
    (part : request.visiblePct ≤ maxVisiblePct) : request.visibleAmount ≤ request.totalAmount := by
  have share : (request.visiblePct : Int) ≤ 10000 := by
    have bound : maxVisiblePct ≤ 10000 := by decide
    exact_mod_cast part.trans bound
  rw [visibleAmount, tdiv_eq_floor (Int.mul_nonneg pos.le (Int.natCast_nonneg _))]
  refine Int.ediv_le_of_le_mul (by decide) ?_
  exact Int.mul_le_mul_of_nonneg_left share pos.le

theorem createIcebergOrder_spec (request : OrderRequest) : wlp (createIcebergOrder env request)
      (fun _ after => IcebergEffect env store (.creates request) after) store := by
  simp only [createIcebergOrder, wlp_rules, wp_placeSdexLimitOrder, checkedCount_eq_some]
  rintro _ pos _ ⟨_, part⟩ _ _ orderId ⟨_, rfl⟩ sdexOrderId numbered
  exact .created rfl rfl rfl rfl pos (request.visibleAmount_le pos part) numbered

theorem onSdexFill_spec (sdexOrderId : Nat) (filledAmount fillPrice : Int) :
    wlp (onSdexFill env sdexOrderId filledAmount fillPrice)
      (fun _ after => IcebergEffect env store (.fills sdexOrderId filledAmount fillPrice) after)
      (store.take sdexOrderId filledAmount) := by
  have mapped : (store.take sdexOrderId filledAmount).sdexToIceberg = store.sdexToIceberg := by
    rw [IcebergStore.take]
    split <;> rfl
  have has : (store.take sdexOrderId filledAmount).icebergOrders = store.icebergOrders := by
    rw [IcebergStore.take]
    split <;> rfl
  simp only [onSdexFill, wlp_rules, wp_getIcebergOrder, mapped, has]
  intro orderId maps order hit _ _ average _
  refine wp_mono (recordFill_spec _ _ _) ?_ fun _ _ stopped => stopped
  rintro _ _ ⟨history, rfl⟩
  simp only [wp_ite, wlp_rules, wp_placeSdexLimitOrder]
  constructor
  · intro (whole : order.visibleAmount ≤ order.currentVisibleFilled + filledAmount) remaining
      (difference : i128.checked (order.totalAmount - (order.filledAmount + filledAmount)) =
        some remaining)
    obtain ⟨_, rfl⟩ := (Range.checked_eq_some _ _ _).mp difference
    constructor
    · intro left newSdexOrder numbered
      exact .replenished maps hit whole (by omega) numbered
    · intro nothing
      have effect := @IcebergEffect.filled env store sdexOrderId filledAmount fillPrice orderId
        order average history maps hit fun _ => by omega
      rwa [if_pos whole] at effect
  · intro (part : ¬ order.visibleAmount ≤ order.currentVisibleFilled + filledAmount)
    have effect := @IcebergEffect.filled env store sdexOrderId filledAmount fillPrice orderId
      order average history maps hit fun whole => absurd whole part
    rwa [if_neg part] at effect

end Specs

theorem IcebergCall.exec_spec (env : Env) (call : IcebergCall) (store : IcebergStore) :
    wlp (call.exec env) (fun _ after => IcebergEffect env store call after) store := by
  cases call with
  | creates request => exact (wp_discard _).mpr (createIcebergOrder_spec request)
  | fills sdexOrderId filledAmount fillPrice =>
    simp only [IcebergCall.exec, wp_rules]
    exact onSdexFill_spec sdexOrderId filledAmount fillPrice
  | reprices orderId user newPrice =>
    simp only [IcebergCall.exec, updateIcebergPrice, wlp_rules, wp_getIcebergOrder,
      wp_cancelCurrentSdexOrder, wp_placeSdexLimitOrder]
    intro _ order hit _ active _ remaining difference newSdexOrder numbered
    obtain ⟨_, rfl⟩ := (Range.checked_eq_some _ _ _).mp difference
    exact .repriced hit active numbered
  | cancels orderId user =>
    refine (wp_discard _).mpr ?_
    simp only [cancelIcebergOrder, wlp_rules, wp_getIcebergOrder, wp_cancelCurrentSdexOrder]
    exact fun _ order hit _ cancellable _ _ => .cancelled hit cancellable.1

theorem icebergStep_effect (input : IcebergInput) (ledger : Ledger IcebergStore) :
    (IcebergTransition.Returned ⟨ledger, input, icebergStep input ledger⟩ ∧
      IcebergEffect (ledger.env input.arrival) ledger.store input.call
        (icebergStep input ledger).store) ∨
    (¬ IcebergTransition.Returned ⟨ledger, input, icebergStep input ledger⟩ ∧
      (icebergStep input ledger).store = ledger.store) := by
  by_cases gave : IcebergTransition.Returned ⟨ledger, input, icebergStep input ledger⟩
  · obtain ⟨value, lands⟩ := gave_of_accepts gave
    exact .inl ⟨gave, wp_ok (IcebergCall.exec_spec _ _ _) lands⟩
  · exact .inr ⟨gave, invoke_of_rejected gave⟩

end StellarSwipe.AutoTrade
