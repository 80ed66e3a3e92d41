import StellarSwipe.Host
import StellarSwipe.Library.KeyedSum
import StellarSwipe.Library.Runs

/-!
# Iceberg orders

An iceberg order shows the exchange one slice of its amount at a time; when a whole slice is
filled the next one is placed.
-/

namespace StellarSwipe.AutoTrade

open FixedWidth Program

inductive OrderSide where
  | buy
  | sell

inductive OrderStatus where
  | active
  | partiallyFilled
  | filled
  | cancelled
  | failed
deriving DecidableEq

structure AssetPair where
  base : String
  quote : String

structure IcebergOrder where
  id : Nat
  user : Address
  pair : AssetPair
  side : OrderSide
  totalAmount : Int
  visibleAmount : Int
  price : Int
  filledAmount : Int
  currentVisibleFilled : Int
  status : OrderStatus
  createdAt : Nat
  avgFillPrice : Int

structure FillEvent where
  orderId : Nat
  filledAmount : Int
  price : Int
  totalFilled : Int

structure CancellationInfo where
  filledAmount : Int
  remainingAmount : Int
  avgFillPrice : Int

/-- The contract's tables, and the open amount of every order placed on the exchange. -/
structure IcebergStore where
  orderCounter : Nat
  icebergOrders : Table Nat IcebergOrder
  sdexToIceberg : Table Nat Nat
  currentSdexOrder : Table Nat Nat
  fillHistory : Table Nat (List FillEvent)
  sdex : Table Nat Int

abbrev IcebergProgram := Program IcebergStore String

def maxVisiblePct : Nat := 5000

def minVisibleAmount : Int := 1000

def basisPoints : Int := 10000

namespace IcebergStore

variable (store : IcebergStore)

def blank : IcebergStore := ⟨0, ∅, ∅, ∅, ∅, ∅⟩

def storeOrder (orderId : Nat) (order : IcebergOrder) : IcebergStore :=
  { store with icebergOrders := store.icebergOrders.insert orderId order }

/-- An order on the exchange becomes the current one of an iceberg order. -/
def mapCurrent (orderId sdexOrderId : Nat) : IcebergStore :=
  { store with
    sdexToIceberg := store.sdexToIceberg.insert sdexOrderId orderId
    currentSdexOrder := store.currentSdexOrder.insert orderId sdexOrderId }

def place (sdexOrderId : Nat) (amount : Int) : IcebergStore :=
  { store with sdex := store.sdex.insert sdexOrderId amount }

end IcebergStore

/-- An unsigned 64-bit number, wrapped, of what is not negative. -/
def castU64 (value : Int) : Nat := (max value 0).toNat % 2 ^ 64

variable (env : Env)

/-- The number that the exchange gives an order. -/
def sdexOrderNumber (amount price : Int) : Option Nat :=
  (checkedCount u64Max env.timestamp (castU64 amount)).bind (checkedCount u64Max · (castU64 price))

def placeSdexLimitOrder (amount price : Int) : IcebergProgram Nat := do
  let sdexOrderId ← orTrap (sdexOrderNumber env amount price)
  modify (·.place sdexOrderId amount)
  pure sdexOrderId

/-- The exchange fills a part of an order. -/
def IcebergStore.take (store : IcebergStore) (sdexOrderId : Nat) (amount : Int) : IcebergStore :=
  match store.sdex.lookup sdexOrderId with
  | none => store
  | some displayed => store.place sdexOrderId (displayed - amount)

/-- The arguments of an order. -/
structure OrderRequest where
  user : Address
  pair : AssetPair
  side : OrderSide
  totalAmount : Int
  visiblePct : Nat
  price : Int

/-- The slice of an order that is shown. -/
def OrderRequest.visibleAmount (request : OrderRequest) : Int :=
  (request.totalAmount * request.visiblePct).tdiv basisPoints

def createIcebergOrder (request : OrderRequest) : IcebergProgram Nat := do
  demand (request.user ∈ env.auths)
  ensure (0 < request.totalAmount) "Invalid total amount"
  ensure (0 < request.price) "Invalid price"
  ensure (request.visiblePct ≠ 0 ∧ request.visiblePct ≤ maxVisiblePct) "Invalid visible percentage"
  demand (i128.Holds (request.totalAmount * request.visiblePct))
  ensure (minVisibleAmount ≤ request.visibleAmount) "Visible amount too small"
  let store ← get
  let orderId ← orTrap (checkedCount u64Max store.orderCounter 1)
  modify fun store => { store with orderCounter := orderId }
  let sdexOrderId ← placeSdexLimitOrder env request.visibleAmount request.price
  modify (·.storeOrder orderId
    { id := orderId
      user := request.user
      pair := request.pair
      side := request.side
      totalAmount := request.totalAmount
      visibleAmount := request.visibleAmount
      price := request.price
      filledAmount := 0
      currentVisibleFilled := 0
      status := .active
      createdAt := env.timestamp
      avgFillPrice := 0 })
  modify (·.mapCurrent orderId sdexOrderId)
  pure orderId

variable (orderId : Nat)

def getIcebergOrder : IcebergProgram IcebergOrder := do
  let store ← get
  orFail (store.icebergOrders.lookup orderId) "Order not found"

/-- The average price after a fill, nothing where a step overflows or nothing is filled. -/
def IcebergOrder.averagePrice (order : IcebergOrder) (filledAmount fillPrice : Int) : Option Int := do
  let prior ← i128.checkedMul order.avgFillPrice order.filledAmount
  let later ← i128.checkedMul fillPrice filledAmount
  let totalValue ← i128.checkedAdd prior later
  i128.checkedDiv totalValue (order.filledAmount + filledAmount)

def recordFill (filledAmount price : Int) : IcebergProgram Unit := do
  let store ← get
  let history := (store.fillHistory.lookup orderId).getD []
  let totalFilled ← match history.getLast? with
    | some last => orTrap (i128.checkedAdd last.totalFilled filledAmount)
    | none => pure filledAmount
  modify fun store =>
    { store with
      fillHistory := store.fillHistory.insert orderId
        (history ++ [⟨orderId, filledAmount, price, totalFilled⟩]) }

def IcebergOrder.counted (order : IcebergOrder) (filledAmount average : Int) : IcebergOrder :=
  { order with
    filledAmount := order.filledAmount + filledAmount
    currentVisibleFilled := order.currentVisibleFilled + filledAmount
    avgFillPrice := average }

def onSdexFill (sdexOrderId : Nat) (filledAmount fillPrice : Int) : IcebergProgram Unit := do
  let store ← get
  let icebergId ← orFail (store.sdexToIceberg.lookup sdexOrderId) "SDEX order not mapped"
  let iceberg ← getIcebergOrder icebergId
  demand (i128.Holds (iceberg.filledAmount + filledAmount))
  demand (i128.Holds (iceberg.currentVisibleFilled + filledAmount))
  let average ← orTrap (iceberg.averagePrice filledAmount fillPrice)
  let counted := iceberg.counted filledAmount average
  recordFill icebergId filledAmount fillPrice
  if counted.visibleAmount ≤ counted.currentVisibleFilled then do
    let remaining ← orTrap (i128.checkedSub counted.totalAmount counted.filledAmount)
    if 0 < remaining then do
      let newVisible := if remaining < counted.visibleAmount then remaining
        else counted.visibleAmount
      let newSdexOrder ← placeSdexLimitOrder env newVisible counted.price
      modify (·.mapCurrent icebergId newSdexOrder)
      modify (·.storeOrder icebergId { counted with
        currentVisibleFilled := 0
        status := .partiallyFilled })
    else modify (·.storeOrder icebergId { counted with status := .filled })
  else modify (·.storeOrder icebergId { counted with
    status := if 0 < counted.filledAmount then .partiallyFilled else counted.status })

/-- The exchange's placeholder for a cancellation accepts it and does nothing. -/
def cancelSdexOrder (_sdexOrderId : Nat) : IcebergProgram Unit := pure ()

def cancelCurrentSdexOrder : IcebergProgram Unit := do
  let store ← get
  match store.currentSdexOrder.lookup orderId with
  | some sdexOrderId => cancelSdexOrder sdexOrderId
  | none => pure ()

def cancelIcebergOrder (user : Address) : IcebergProgram CancellationInfo := do
  demand (user ∈ env.auths)
  let iceberg ← getIcebergOrder orderId
  ensure (iceberg.user = user) "Not order owner"
  ensure (iceberg.status ≠ .filled ∧ iceberg.status ≠ .cancelled) "Order not cancellable"
  cancelCurrentSdexOrder orderId
  modify (·.storeOrder orderId { iceberg with status := .cancelled })
  let remaining ← orTrap (i128.checkedSub iceberg.totalAmount iceberg.filledAmount)
  pure ⟨iceberg.filledAmount, remaining, iceberg.avgFillPrice⟩

def updateIcebergPrice (user : Address) (newPrice : Int) : IcebergProgram Unit := do
  demand (user ∈ env.auths)
  let iceberg ← getIcebergOrder orderId
  ensure (iceberg.user = user) "Not order owner"
  ensure (iceberg.status = .active ∨ iceberg.status = .partiallyFilled) "Order not active"
  ensure (0 < newPrice) "Invalid price"
  cancelCurrentSdexOrder orderId
  let remainingVisible ← orTrap
    (i128.checkedSub iceberg.visibleAmount iceberg.currentVisibleFilled)
  let newSdexOrder ← placeSdexLimitOrder env remainingVisible newPrice
  modify (·.storeOrder orderId { iceberg with price := newPrice })
  modify (·.mapCurrent orderId newSdexOrder)

end StellarSwipe.AutoTrade
