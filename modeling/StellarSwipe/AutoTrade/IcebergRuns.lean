import StellarSwipe.AutoTrade.IcebergEffects

/-!
# The lifecycle of an iceberg order

A fill is credited to the current slice, whatever order of the exchange it comes from.
-/

namespace StellarSwipe.AutoTrade

open FixedWidth Program Runs Table IcebergTransition Option

def IcebergStore.placement (store : IcebergStore) : IcebergCall → Option (Int × Int)
  | .creates request => some (request.visibleAmount, request.price)
  | .fills sdexOrderId filledAmount _ =>
    (store.sdexToIceberg.lookup sdexOrderId).bind fun orderId =>
      (store.icebergOrders.lookup orderId).bind fun order =>
        if order.visibleAmount ≤ order.currentVisibleFilled + filledAmount ∧
            order.filledAmount + filledAmount < order.totalAmount then
          some (order.nextSlice filledAmount, order.price)
        else none
  | .reprices orderId _ newPrice =>
    (store.icebergOrders.lookup orderId).map fun order =>
      (order.visibleAmount - order.currentVisibleFilled, newPrice)
  | .cancels _ _ => none

namespace IcebergTransition

variable (taken : IcebergTransition)

def PlacesFresh : Prop :=
  ∀ placed ∈ taken.pre.store.placement taken.input.call,
    ∀ sdexOrderId ∈ sdexOrderNumber taken.env placed.1 placed.2,
      taken.pre.store.sdex.lookup sdexOrderId = none
deriving Decidable

/-- An order on the exchange is filled by no more than what is open of it. -/
def FillsPlaced : Prop :=
  match taken.input.call with
  | .fills sdexOrderId filledAmount _ =>
    0 ≤ filledAmount ∧ ∃ displayed ∈ taken.pre.store.sdex.lookup sdexOrderId,
      filledAmount ≤ displayed
  | _ => True

/-- What the exchange is taken to do. -/
def Honest : Prop := taken.Returned → taken.PlacesFresh ∧ taken.FillsPlaced

/-- A fill comes from the current slice of an order that is not cancelled, and a fill of all
that remains fills a whole slice; a price is changed while the slice is within what remains. -/
def InOrder : Prop :=
  taken.Returned →
  match taken.input.call with
  | .fills sdexOrderId filledAmount _ =>
    ∀ orderId ∈ taken.pre.store.sdexToIceberg.lookup sdexOrderId,
      ∀ order ∈ taken.pre.store.icebergOrders.lookup orderId,
        taken.pre.store.currentSdexOrder.lookup orderId = some sdexOrderId ∧
        order.status ≠ .cancelled ∧
        (order.filledAmount + filledAmount = order.totalAmount →
          order.visibleAmount ≤ order.currentVisibleFilled + filledAmount)
  | .reprices orderId _ _ =>
    ∀ order ∈ taken.pre.store.icebergOrders.lookup orderId,
      order.visibleAmount - order.currentVisibleFilled ≤ order.totalAmount - order.filledAmount
  | _ => True

instance : Decidable taken.FillsPlaced := by
  unfold FillsPlaced
  refine taken.input.call.casesOn ?_ ?_ ?_ ?_ <;> intros <;> infer_instance

instance : Decidable taken.Honest := inferInstanceAs (Decidable (_ → _ ∧ _))

instance : Decidable taken.InOrder := by
  unfold InOrder
  refine @instDecidableForall _ _ _ (taken.input.call.casesOn ?_ ?_ ?_ ?_) <;> intros <;>
    infer_instance

end IcebergTransition

/-- The amount of the current slice that is open on the exchange. -/
def IcebergStore.displayed (store : IcebergStore) (orderId : Nat) : Option Int :=
  (store.currentSdexOrder.lookup orderId).bind store.sdex.lookup

/-- The counts of an order: what was filled is within its total, what is displayed within what
remains, and the order is filled exactly when nothing remains. -/
structure CountsTrue (store : IcebergStore) (filled : Int) (orderId : Nat)
    (order : IcebergOrder) : Prop where
  counted : order.filledAmount = filled
  bounded : order.filledAmount ≤ order.totalAmount
  displayed : ∃ displayed ∈ store.displayed orderId,
    displayed ≤ order.totalAmount - order.filledAmount
  complete : order.status = .filled ↔ order.filledAmount = order.totalAmount

def StaysCancelled (pre after : IcebergStore) : Prop :=
  ∀ orderId order, pre.icebergOrders.lookup orderId = some order → order.status = .cancelled →
    ∃ later ∈ after.icebergOrders.lookup orderId, later.status = .cancelled

/-- The lifecycle of all orders over the transitions taken so far. -/
structure Lifecycle (past : List IcebergTransition) (store : IcebergStore) : Prop where
  counts : ∀ orderId order, store.icebergOrders.lookup orderId = some order →
    CountsTrue store (past.map (filledFor orderId)).sum orderId order
  cancelled : ∀ taken ∈ past, StaysCancelled taken.pre.store taken.after.store

/-- What carries the counts of an order: it has a current order on the exchange that is mapped
to it, and it is only filled once its slice is. -/
structure OrderKept (store : IcebergStore) (orderId : Nat) (order : IcebergOrder) : Prop where
  pos : 0 < order.totalAmount
  bounded : order.filledAmount ≤ order.totalAmount
  complete : order.status = .filled ↔ order.filledAmount = order.totalAmount
  whole : order.status = .filled → order.visibleAmount ≤ order.currentVisibleFilled
  current : ∃ sdexOrderId displayed, store.currentSdexOrder.lookup orderId = some sdexOrderId ∧
    store.sdexToIceberg.lookup sdexOrderId = some orderId ∧
    store.sdex.lookup sdexOrderId = some displayed ∧
    displayed ≤ order.totalAmount - order.filledAmount

section Kept

variable {pre after : IcebergStore} {orderId other sdexOrderId : Nat}
variable {order changed : IcebergOrder} {displayed amount : Int}

/-- An order whose current order on the exchange is left alone keeps what it is. -/
theorem OrderKept.frame (kept : OrderKept pre orderId order)
    (same : ∀ sdexOrderId displayed, pre.currentSdexOrder.lookup orderId = some sdexOrderId →
      pre.sdexToIceberg.lookup sdexOrderId = some orderId →
      pre.sdex.lookup sdexOrderId = some displayed →
      after.currentSdexOrder.lookup orderId = some sdexOrderId ∧
      after.sdexToIceberg.lookup sdexOrderId = some orderId ∧
      after.sdex.lookup sdexOrderId = some displayed) : OrderKept after orderId order := by
  obtain ⟨sdexOrderId, displayed, current, mapped, shown, within⟩ := kept.current
  obtain ⟨current, mapped, shown⟩ := same sdexOrderId displayed current mapped shown
  exact ⟨kept.pos, kept.bounded, kept.complete, kept.whole,
    ⟨sdexOrderId, displayed, current, mapped, shown, within⟩⟩

theorem OrderKept.placed_elsewhere (kept : OrderKept pre other order)
    (fresh : pre.sdex.lookup sdexOrderId = none) (distinct : other ≠ orderId)
    (currents : after.currentSdexOrder = pre.currentSdexOrder.insert orderId sdexOrderId)
    (maps : after.sdexToIceberg = pre.sdexToIceberg.insert sdexOrderId orderId)
    (book : after.sdex = pre.sdex.insert sdexOrderId amount) : OrderKept after other order := by
  refine kept.frame fun tested shown current mapped displays => ?_
  have differ : tested ≠ sdexOrderId := by
    rintro rfl
    cases displays.symm.trans fresh
  refine ⟨?_, ?_, ?_⟩
  · rwa [currents, lookup_insert, if_neg distinct]
  · rwa [maps, lookup_insert, if_neg differ]
  · rwa [book, lookup_insert, if_neg differ]

theorem OrderKept.filled_elsewhere (kept : OrderKept pre other order)
    (mapped : pre.sdexToIceberg.lookup sdexOrderId = some orderId) (distinct : other ≠ orderId)
    (currents : after.currentSdexOrder = pre.currentSdexOrder)
    (maps : after.sdexToIceberg = pre.sdexToIceberg)
    (book : after.sdex = pre.sdex.insert sdexOrderId amount) : OrderKept after other order := by
  refine kept.frame fun tested shown current own displays => ?_
  have differ : tested ≠ sdexOrderId := by
    rintro rfl
    exact distinct (mem_unique own mapped)
  rw [currents, maps, book, lookup_insert, if_neg differ]
  exact ⟨current, own, displays⟩

end Kept

/-- All orders are kept, their counts are their fills, and what was cancelled stays so. -/
structure IcebergKept (past : List IcebergTransition) (store : IcebergStore) : Prop where
  orders : ∀ orderId order, store.icebergOrders.lookup orderId = some order →
    OrderKept store orderId order
  counted : ∀ orderId order, store.icebergOrders.lookup orderId = some order →
    order.filledAmount = (past.map (filledFor orderId)).sum
  issued : ∀ orderId order, store.icebergOrders.lookup orderId = some order →
    orderId ≤ store.orderCounter
  unborn : ∀ orderId, store.icebergOrders.lookup orderId = none →
    (past.map (filledFor orderId)).sum = 0
  cancelled : ∀ taken ∈ past, StaysCancelled taken.pre.store taken.after.store

namespace IcebergKept

variable {past : List IcebergTransition} {taken : IcebergTransition}

theorem lifecycle {store : IcebergStore} (kept : IcebergKept past store) :
    Lifecycle past store := by
  refine ⟨fun orderId order has => ?_, kept.cancelled⟩
  have own := kept.orders orderId order has
  obtain ⟨sdexOrderId, displayed, current, _, shown, within⟩ := own.current
  refine ⟨kept.counted orderId order has, own.bounded, ⟨displayed, ?_, within⟩, own.complete⟩
  rw [IcebergStore.displayed, current, bind_some]
  exact shown

theorem idle (kept : IcebergKept past taken.pre.store) (same : taken.after.store = taken.pre.store)
    (nothing : ∀ orderId, taken.filledFor orderId = 0) :
    IcebergKept (past ++ [taken]) taken.after.store := by
  have sums (orderId : Nat) : ((past ++ [taken]).map (filledFor orderId)).sum =
      (past.map (filledFor orderId)).sum := by
    rw [List.map_append, List.sum_append, List.map_singleton, List.sum_singleton, nothing,
      Int.add_zero]
  rw [same]
  refine ⟨kept.orders, fun orderId order has => ?_, kept.issued, fun orderId absent => ?_,
    fun other mem => ?_⟩
  · rw [sums]
    exact kept.counted orderId order has
  · rw [sums]
    exact kept.unborn orderId absent
  · rcases mem_snoc.mp mem with prior | rfl
    · exact kept.cancelled other prior
    · rw [same]
      exact fun orderId order has cancelled => ⟨order, has, cancelled⟩

/-- A step that changes one order, or adds one, and fills what its count says. -/
theorem changes (kept : IcebergKept past taken.pre.store) {orderId : Nat}
    {changed : IcebergOrder} (orders : taken.after.store.icebergOrders =
      taken.pre.store.icebergOrders.insert orderId changed)
    (own : OrderKept taken.after.store orderId changed)
    (others : ∀ other order, other ≠ orderId → OrderKept taken.pre.store other order →
      OrderKept taken.after.store other order)
    (counter : taken.pre.store.orderCounter ≤ taken.after.store.orderCounter)
    (numbered : orderId ≤ taken.after.store.orderCounter)
    (elsewhere : ∀ other, other ≠ orderId → taken.filledFor other = 0)
    (counts : changed.filledAmount = (past.map (filledFor orderId)).sum + taken.filledFor orderId)
    (stays : ∀ order, taken.pre.store.icebergOrders.lookup orderId = some order →
      order.status = .cancelled → changed.status = .cancelled) :
    IcebergKept (past ++ [taken]) taken.after.store := by
  have lookup (tested : Nat) : taken.after.store.icebergOrders.lookup tested =
      if tested = orderId then some changed
      else taken.pre.store.icebergOrders.lookup tested := by
    rw [orders, lookup_insert]
  have sums (tested : Nat) : ((past ++ [taken]).map (filledFor tested)).sum =
      (past.map (filledFor tested)).sum + taken.filledFor tested := by
    rw [List.map_append, List.sum_append, List.map_singleton, List.sum_singleton]
  refine ⟨fun tested order has => ?_, fun tested order has => ?_,
    fun tested order has => ?_, fun tested absent => ?_, fun other mem => ?_⟩
  · rw [lookup] at has
    split at has
    next same =>
      cases has
      exact same ▸ own
    next differ => exact others tested order differ (kept.orders tested order has)
  · rw [lookup] at has
    rw [sums]
    split at has
    next same =>
      cases has
      exact same ▸ counts
    next differ => rw [elsewhere tested differ, Int.add_zero, kept.counted tested order has]
  · rw [lookup] at has
    split at has
    next same => exact same ▸ numbered
    next => exact (kept.issued tested order has).trans counter
  · rw [lookup] at absent
    split at absent
    next => cases absent
    next differ => rw [sums, elsewhere tested differ, Int.add_zero, kept.unborn tested absent]
  · rcases mem_snoc.mp mem with prior | rfl
    · exact kept.cancelled other prior
    · intro tested order has cancelled
      by_cases same : tested = orderId
      · subst same
        exact ⟨changed, (lookup tested).trans (if_pos rfl), stays order has cancelled⟩
      · exact ⟨order, (lookup tested).trans ((if_neg same).trans has), cancelled⟩

theorem rewrites (kept : IcebergKept past taken.pre.store) {orderId : Nat}
    {order changed : IcebergOrder} {amount : Int}
    (hit : taken.pre.store.icebergOrders.lookup orderId = some order)
    (orders : taken.after.store.icebergOrders =
      taken.pre.store.icebergOrders.insert orderId changed)
    (counter : taken.after.store.orderCounter = taken.pre.store.orderCounter)
    (own : OrderKept taken.after.store orderId changed)
    (others : ∀ other order, other ≠ orderId → OrderKept taken.pre.store other order →
      OrderKept taken.after.store other order)
    (fills : ∀ other, taken.filledFor other = if other = orderId then amount else 0)
    (counts : changed.filledAmount = order.filledAmount + amount)
    (stays : order.status = .cancelled → changed.status = .cancelled) :
    IcebergKept (past ++ [taken]) taken.after.store := by
  refine kept.changes orders own others counter.ge ?_ ?_ ?_ ?_
  · rw [counter]
    exact kept.issued orderId order hit
  · intro other differ
    rw [fills, if_neg differ]
  · rw [fills, if_pos rfl, ← kept.counted orderId order hit, counts]
  · intro old has
    cases mem_unique hit has
    exact stays

end IcebergKept

theorem OrderKept.filled {pre after : IcebergStore} {orderId sdexOrderId : Nat}
    {order : IcebergOrder} {displayed amount average : Int} (kept : OrderKept pre orderId order)
    (current : pre.currentSdexOrder.lookup orderId = some sdexOrderId)
    (shown : pre.sdex.lookup sdexOrderId = some displayed) (pos : 0 ≤ amount)
    (part : amount ≤ displayed) (last : order.filledAmount + amount = order.totalAmount →
      order.visibleAmount ≤ order.currentVisibleFilled + amount)
    (nothing : order.visibleAmount ≤ order.currentVisibleFilled + amount →
      order.totalAmount ≤ order.filledAmount + amount)
    (currents : after.currentSdexOrder = pre.currentSdexOrder)
    (maps : after.sdexToIceberg = pre.sdexToIceberg)
    (book : after.sdex = pre.sdex.insert sdexOrderId (displayed - amount)) :
    OrderKept after orderId { order.counted amount average with
      status :=
        if order.visibleAmount ≤ order.currentVisibleFilled + amount then .filled
        else if 0 < order.filledAmount + amount then .partiallyFilled
        else order.status } := by
  obtain ⟨named, open_, same, mapped, displays, within⟩ := kept.current
  cases mem_unique current same
  cases mem_unique shown displays
  have bounded := kept.bounded
  have total := kept.pos
  refine ⟨kept.pos, ?_, ?_, ?_, sdexOrderId, displayed - amount, ?_, ?_, ?_, ?_⟩
  · show order.filledAmount + amount ≤ order.totalAmount
    omega
  · show (if _ then _ else _) = OrderStatus.filled ↔
      order.filledAmount + amount = order.totalAmount
    by_cases whole : order.visibleAmount ≤ order.currentVisibleFilled + amount
    · have reached := nothing whole
      rw [if_pos whole]
      exact ⟨fun _ => by omega, fun _ => rfl⟩
    · rw [if_neg whole]
      refine ⟨fun status => ?_, fun reached => absurd (last reached) whole⟩
      split at status
      next => cases status
      next =>
        have prior := kept.whole status
        omega
  · show (if _ then _ else _) = OrderStatus.filled →
      order.visibleAmount ≤ order.currentVisibleFilled + amount
    intro status
    by_contra part
    rw [if_neg part] at status
    split at status
    next => cases status
    next =>
      have prior := kept.whole status
      omega
  · rw [currents]
    exact current
  · rw [maps]
    exact mapped
  · rw [book, lookup_insert, if_pos rfl]
  · show displayed - amount ≤ order.totalAmount - (order.filledAmount + amount)
    omega

section Steps

variable {past : List IcebergTransition} {ledger : Ledger IcebergStore} {input : IcebergInput}

theorem take_of_shown {store : IcebergStore} {sdexOrderId : Nat} {displayed : Int}
    (shown : store.sdex.lookup sdexOrderId = some displayed) (amount : Int) :
    store.take sdexOrderId amount = store.place sdexOrderId (displayed - amount) := by
  rw [IcebergStore.take, shown]

theorem filledFor_fills {taken : IcebergTransition} {sdexOrderId orderId : Nat}
    {filledAmount fillPrice : Int}
    (called : taken.input.call = .fills sdexOrderId filledAmount fillPrice)
    (gave : taken.Returned)
    (mapped : taken.pre.store.sdexToIceberg.lookup sdexOrderId = some orderId) (other : Nat) :
    taken.filledFor other = if other = orderId then filledAmount else 0 := by
  rw [filledFor, if_pos gave, called]
  show (if _ = some other then _ else _) = _
  rw [mapped]
  by_cases same : other = orderId
  · rw [if_pos same, if_pos (congrArg some same.symm)]
  · rw [if_neg same, if_neg fun alike => same (Option.some.inj alike).symm]

theorem IcebergKept.created {after : Ledger IcebergStore} {request : OrderRequest}
    {order : IcebergOrder} {sdexOrderId : Nat} (kept : IcebergKept past ledger.store)
    (called : input.call = .creates request)
    (honest : IcebergTransition.PlacesFresh ⟨ledger, input, after⟩)
    (total : order.totalAmount = request.totalAmount)
    (unfilled : order.filledAmount = 0) (active : order.status = .active)
    (pos : 0 < request.totalAmount) (part : request.visibleAmount ≤ request.totalAmount)
    (numbered : sdexOrderNumber (ledger.env input.arrival) request.visibleAmount request.price =
      some sdexOrderId)
    (lands : after.store = (({ ledger.store with
      orderCounter := ledger.store.orderCounter + 1 }.place sdexOrderId
        request.visibleAmount).storeOrder (ledger.store.orderCounter + 1) order).mapCurrent
          (ledger.store.orderCounter + 1) sdexOrderId) :
    IcebergKept (past ++ [⟨ledger, input, after⟩]) after.store := by
  have fresh : ledger.store.sdex.lookup sdexOrderId = none := by
    refine honest (request.visibleAmount, request.price) ?_ sdexOrderId numbered
    show _ ∈ ledger.store.placement input.call
    rw [called]
    rfl
  have absent : ledger.store.icebergOrders.lookup (ledger.store.orderCounter + 1) = none := by
    cases has : ledger.store.icebergOrders.lookup (ledger.store.orderCounter + 1) with
    | none => rfl
    | some other => exact absurd (kept.issued _ other has) (by omega)
  have nothing (tested : Nat) : filledFor tested ⟨ledger, input, after⟩ = 0 := by
    rw [filledFor, called]
    split <;> rfl
  refine @IcebergKept.changes past ⟨ledger, input, after⟩ kept (ledger.store.orderCounter + 1)
    order ?_ ?_ ?_ ?_ ?_ ?_ ?_ ?_
  · rw [lands]
    rfl
  · rw [lands]
    refine ⟨by omega, by omega, ?_, ?_, sdexOrderId, request.visibleAmount,
      AList.lookup_insert _, AList.lookup_insert _, AList.lookup_insert _, by omega⟩
    · rw [active, unfilled, total]
      exact ⟨fun status => (by cases status), fun reached => by omega⟩
    · rw [active]
      exact fun status => (by cases status)
  · intro other old differ own
    rw [lands]
    exact own.placed_elsewhere fresh differ rfl rfl rfl
  · rw [lands]
    exact Nat.le_succ _
  · rw [lands]
    exact le_rfl
  · exact fun other _ => nothing other
  · rw [nothing, kept.unborn _ absent, unfilled, Int.add_zero]
  · intro old has
    cases has.symm.trans absent

theorem IcebergKept.filled {after : Ledger IcebergStore} {sdexOrderId orderId : Nat}
    {filledAmount fillPrice average : Int} {order : IcebergOrder}
    {history : Table Nat (List FillEvent)} (kept : IcebergKept past ledger.store)
    (called : input.call = .fills sdexOrderId filledAmount fillPrice)
    (gave : IcebergTransition.Returned ⟨ledger, input, after⟩)
    (honest : IcebergTransition.FillsPlaced ⟨ledger, input, after⟩)
    (ordered : IcebergTransition.InOrder ⟨ledger, input, after⟩)
    (mapped : ledger.store.sdexToIceberg.lookup sdexOrderId = some orderId)
    (hit : ledger.store.icebergOrders.lookup orderId = some order)
    (nothing : order.visibleAmount ≤ order.currentVisibleFilled + filledAmount →
      order.totalAmount ≤ order.filledAmount + filledAmount)
    (lands : after.store = { ledger.store.take sdexOrderId filledAmount with
      fillHistory := history }.storeOrder orderId
        { order.counted filledAmount average with
          status :=
            if order.visibleAmount ≤ order.currentVisibleFilled + filledAmount then .filled
            else if 0 < order.filledAmount + filledAmount then .partiallyFilled
            else order.status }) :
    IcebergKept (past ++ [⟨ledger, input, after⟩]) after.store := by
  simp only [IcebergTransition.FillsPlaced, called] at honest
  have inOrder := ordered gave
  simp only [called] at inOrder
  obtain ⟨pos, displayed, shown, part⟩ := honest
  obtain ⟨current, live, last⟩ := inOrder orderId mapped order hit
  have own := kept.orders orderId order hit
  rw [take_of_shown shown] at lands
  refine @IcebergKept.rewrites past ⟨ledger, input, after⟩ kept orderId order _ filledAmount hit
    (by rw [lands]; rfl) (by rw [lands]; rfl) ?_ ?_ (filledFor_fills called gave mapped) rfl
    fun cancelled => absurd cancelled live
  · exact own.filled current shown pos part last nothing (by rw [lands]; rfl)
      (by rw [lands]; rfl) (by rw [lands]; rfl)
  · intro other old differ elsewhere
    rw [lands]
    exact elsewhere.filled_elsewhere mapped differ rfl rfl rfl

variable {after : Ledger IcebergStore} {order : IcebergOrder}

/-- A fill of a whole slice that places the next one. -/
theorem IcebergKept.replenished {sdexOrderId orderId newSdexOrder : Nat}
    {filledAmount fillPrice average : Int} {history : Table Nat (List FillEvent)}
    (kept : IcebergKept past ledger.store)
    (called : input.call = .fills sdexOrderId filledAmount fillPrice)
    (gave : IcebergTransition.Returned ⟨ledger, input, after⟩)
    (honest : IcebergTransition.PlacesFresh ⟨ledger, input, after⟩ ∧
      IcebergTransition.FillsPlaced ⟨ledger, input, after⟩)
    (ordered : IcebergTransition.InOrder ⟨ledger, input, after⟩)
    (mapped : ledger.store.sdexToIceberg.lookup sdexOrderId = some orderId)
    (hit : ledger.store.icebergOrders.lookup orderId = some order)
    (whole : order.visibleAmount ≤ order.currentVisibleFilled + filledAmount)
    (left : order.filledAmount + filledAmount < order.totalAmount)
    (numbered : sdexOrderNumber (ledger.env input.arrival) (order.nextSlice filledAmount)
      order.price = some newSdexOrder)
    (lands : after.store = (({ ledger.store.take sdexOrderId filledAmount with
      fillHistory := history }.place newSdexOrder (order.nextSlice filledAmount)).mapCurrent
        orderId newSdexOrder).storeOrder orderId
          { order.counted filledAmount average with
            currentVisibleFilled := 0
            status := .partiallyFilled }) :
    IcebergKept (past ++ [⟨ledger, input, after⟩]) after.store := by
  have fresh : ledger.store.sdex.lookup newSdexOrder = none := by
    refine honest.1 (order.nextSlice filledAmount, order.price) ?_ newSdexOrder numbered
    show _ ∈ ledger.store.placement input.call
    rw [called, IcebergStore.placement, mapped, bind_some, hit, bind_some, if_pos ⟨whole, left⟩]
    rfl
  have placed := honest.2
  simp only [IcebergTransition.FillsPlaced, called] at placed
  have inOrder := ordered gave
  simp only [called] at inOrder
  obtain ⟨pos, displayed, shown, part⟩ := placed
  obtain ⟨current, live, _⟩ := inOrder orderId mapped order hit
  have own := kept.orders orderId order hit
  have next : order.nextSlice filledAmount ≤
      order.totalAmount - (order.filledAmount + filledAmount) := by
    rw [IcebergOrder.nextSlice]
    split <;> omega
  have stillFresh : (ledger.store.place sdexOrderId (displayed - filledAmount)).sdex.lookup
      newSdexOrder = none := by
    have differ : newSdexOrder ≠ sdexOrderId := by
      rintro rfl
      cases shown.symm.trans fresh
    exact (lookup_insert _ _ _ _).trans ((if_neg differ).trans fresh)
  rw [take_of_shown shown] at lands
  refine @IcebergKept.rewrites past ⟨ledger, input, after⟩ kept orderId order _ filledAmount hit
    (by rw [lands]; rfl) (by rw [lands]; rfl) ?_ ?_ (filledFor_fills called gave mapped) rfl
    fun cancelled => absurd cancelled live
  · rw [lands]
    refine ⟨own.pos, left.le, ?_, fun status => (by cases status), newSdexOrder, _,
      AList.lookup_insert _, AList.lookup_insert _, AList.lookup_insert _, next⟩
    refine ⟨fun status => (by cases status), fun reached => absurd left ?_⟩
    exact not_lt.mpr (le_of_eq reached.symm)
  · intro other old differ elsewhere
    have middle : OrderKept (ledger.store.place sdexOrderId (displayed - filledAmount)) other
        old := elsewhere.filled_elsewhere mapped differ rfl rfl rfl
    rw [lands]
    exact middle.placed_elsewhere stillFresh differ rfl rfl rfl

/-- A change of the price that places the rest of the slice anew. -/
theorem IcebergKept.repriced {orderId newSdexOrder : Nat} {user : Address} {newPrice : Int}
    (kept : IcebergKept past ledger.store) (called : input.call = .reprices orderId user newPrice)
    (gave : IcebergTransition.Returned ⟨ledger, input, after⟩)
    (honest : IcebergTransition.PlacesFresh ⟨ledger, input, after⟩)
    (ordered : IcebergTransition.InOrder ⟨ledger, input, after⟩)
    (hit : ledger.store.icebergOrders.lookup orderId = some order)
    (numbered : sdexOrderNumber (ledger.env input.arrival)
      (order.visibleAmount - order.currentVisibleFilled) newPrice = some newSdexOrder)
    (lands : after.store = ((ledger.store.place newSdexOrder
      (order.visibleAmount - order.currentVisibleFilled)).storeOrder orderId
        { order with price := newPrice }).mapCurrent orderId newSdexOrder) :
    IcebergKept (past ++ [⟨ledger, input, after⟩]) after.store := by
  have fresh : ledger.store.sdex.lookup newSdexOrder = none := by
    refine honest (order.visibleAmount - order.currentVisibleFilled, newPrice) ?_ newSdexOrder
      numbered
    show _ ∈ ledger.store.placement input.call
    rw [called, IcebergStore.placement, hit]
    rfl
  have inOrder := ordered gave
  simp only [called] at inOrder
  have within := inOrder order hit
  have own := kept.orders orderId order hit
  have nothing (tested : Nat) : filledFor tested ⟨ledger, input, after⟩ = 0 := by
    rw [filledFor, called]
    split <;> rfl
  refine @IcebergKept.rewrites past ⟨ledger, input, after⟩ kept orderId order
    { order with price := newPrice } 0 hit (by rw [lands]; rfl) (by rw [lands]; rfl) ?_ ?_
    (fun other => (nothing other).trans (ite_self 0).symm) (Int.add_zero _).symm id
  · rw [lands]
    exact ⟨own.pos, own.bounded, own.complete, own.whole, newSdexOrder, _,
      AList.lookup_insert _, AList.lookup_insert _, AList.lookup_insert _, within⟩
  · intro other old differ elsewhere
    rw [lands]
    exact elsewhere.placed_elsewhere fresh differ rfl rfl rfl

theorem IcebergKept.cancels {orderId : Nat} {user : Address}
    (kept : IcebergKept past ledger.store) (called : input.call = .cancels orderId user)
    (hit : ledger.store.icebergOrders.lookup orderId = some order)
    (unfilled : order.status ≠ .filled)
    (lands : after.store = ledger.store.storeOrder orderId { order with status := .cancelled }) :
    IcebergKept (past ++ [⟨ledger, input, after⟩]) after.store := by
  have own := kept.orders orderId order hit
  have nothing (tested : Nat) : filledFor tested ⟨ledger, input, after⟩ = 0 := by
    rw [filledFor, called]
    split <;> rfl
  refine @IcebergKept.rewrites past ⟨ledger, input, after⟩ kept orderId order
    { order with status := .cancelled } 0 hit (by rw [lands]; rfl) (by rw [lands]; rfl) ?_ ?_
    (fun other => (nothing other).trans (ite_self 0).symm) (Int.add_zero _).symm fun _ => rfl
  · refine ⟨own.pos, own.bounded, ?_, fun status => (by cases status), ?_⟩
    · exact ⟨fun status => (by cases status),
        fun reached => absurd (own.complete.mpr reached) unfilled⟩
    · rw [lands]
      exact own.current
  · intro other old _ elsewhere
    rw [lands]
    exact elsewhere.frame fun _ _ current mapped shown => ⟨current, mapped, shown⟩

theorem IcebergKept.step (kept : IcebergKept past ledger.store)
    (honest : IcebergTransition.Honest ⟨ledger, input, icebergStep input ledger⟩)
    (ordered : IcebergTransition.InOrder ⟨ledger, input, icebergStep input ledger⟩) :
    IcebergKept (past ++ [⟨ledger, input, icebergStep input ledger⟩])
      (icebergStep input ledger).store := by
  rcases icebergStep_effect input ledger with ⟨gave, effect⟩ | ⟨rejected, same⟩
  · have honestly := honest gave
    generalize called : input.call = call at effect
    generalize lands : (icebergStep input ledger).store = landed at effect
    rw [← lands]
    cases effect with
    | created total _ unfilled active pos part numbered =>
      exact kept.created called honestly.1 total unfilled active pos part numbered lands
    | filled mapped hit nothing =>
      exact kept.filled called gave honestly.2 ordered mapped hit nothing lands
    | replenished mapped hit whole left numbered =>
      exact kept.replenished called gave honestly ordered mapped hit whole left numbered
        lands
    | repriced hit _ numbered =>
      exact kept.repriced called gave honestly.1 ordered hit numbered lands
    | cancelled hit unfilled => exact kept.cancels called hit unfilled lands
  · refine @IcebergKept.idle past ⟨ledger, input, icebergStep input ledger⟩ kept same
      fun orderId => ?_
    rw [filledFor, if_neg rejected]

end Steps

/-- No order was created yet. -/
def icebergStart (timestamp sequence : Nat) : Ledger IcebergStore := ⟨.blank, timestamp, sequence⟩

/-- In every run in which the exchange behaves and fills come in order, the counts of all orders
are true and what is cancelled stays cancelled. -/
theorem iceberg_lifecycle (timestamp sequence : Nat) (inputs : List IcebergInput)
    (honest : ∀ taken ∈ trace icebergStep (icebergStart timestamp sequence) inputs,
      IcebergTransition.Honest taken)
    (ordered : ∀ taken ∈ trace icebergStep (icebergStart timestamp sequence) inputs,
      IcebergTransition.InOrder taken) :
    Lifecycle (trace icebergStep (icebergStart timestamp sequence) inputs)
      (final icebergStep (icebergStart timestamp sequence) inputs).store := by
  have kept := transition_history_invariant icebergStep
    (fun past ledger => IcebergKept past ledger.store)
    (fun taken => IcebergTransition.Honest taken ∧ IcebergTransition.InOrder taken)
    (fun _ _ _ guard kept => kept.step guard.1 guard.2) (icebergStart timestamp sequence)
    ⟨fun _ _ has => (by cases has), fun _ _ has => (by cases has),
      fun _ _ has => (by cases has), fun _ _ => rfl, fun _ mem => (by cases mem)⟩
    inputs fun taken mem => ⟨honest taken mem, ordered taken mem⟩
  exact kept.lifecycle

/-- User 1 shows 1000 at a time of a total, and the slices are filled at a price of 5. -/
def slicedRun (totalAmount : Int) (visiblePct : Nat) (fills : List (Nat × Int)) :
    List IcebergInput :=
  ⟨⟨1, 1, [1]⟩, .creates ⟨1, ⟨"XLM", "USDC"⟩, .buy, totalAmount, visiblePct, 5⟩⟩ ::
    fills.map fun fill => ⟨⟨1, 1, []⟩, .fills fill.1 fill.2 5⟩

/-- A last slice that is smaller is filled, and the order is not. -/
theorem small_last_slice_never_filled : ¬ ∀ (timestamp sequence : Nat) (inputs : List IcebergInput),
      (∀ taken ∈ trace icebergStep (icebergStart timestamp sequence) inputs,
        IcebergTransition.Honest taken) →
      Lifecycle (trace icebergStep (icebergStart timestamp sequence) inputs)
        (final icebergStep (icebergStart timestamp sequence) inputs).store := by
  intro every
  have lifecycle := every 0 0 (slicedRun 2500 4000 [(1006, 1000), (1007, 1000), (508, 500)])
    (by decide +kernel)
  have there : ((final icebergStep (icebergStart 0 0) (slicedRun 2500 4000 [(1006, 1000),
      (1007, 1000), (508, 500)])).store.icebergOrders.lookup 1).isSome = true := by
    decide +kernel
  have complete : ∀ order ∈ (final icebergStep (icebergStart 0 0) (slicedRun 2500 4000
      [(1006, 1000), (1007, 1000), (508, 500)])).store.icebergOrders.lookup 1,
      order.status = .partiallyFilled ∧ order.filledAmount = order.totalAmount := by
    decide +kernel
  obtain ⟨order, has⟩ := Option.isSome_iff_exists.mp there
  obtain ⟨status, reached⟩ := complete order has
  have filled := (lifecycle.counts 1 order has).complete.mpr reached
  cases status.symm.trans filled

/-- An order of two slices that are filled in pieces. -/
theorem two_slices_filled : Lifecycle (trace icebergStep (icebergStart 0 0)
        (slicedRun 2000 5000 [(1006, 400), (1006, 600), (1008, 1000)]))
      (final icebergStep (icebergStart 0 0)
        (slicedRun 2000 5000 [(1006, 400), (1006, 600), (1008, 1000)])).store :=
  iceberg_lifecycle 0 0 _ (by decide +kernel) (by decide +kernel)

end StellarSwipe.AutoTrade
