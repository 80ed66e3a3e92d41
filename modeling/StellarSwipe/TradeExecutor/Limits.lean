import StellarSwipe.Common.ReplayProtection
import StellarSwipe.TradeExecutor.Market

/-!
# Limit orders

A limit order waits, under a number of its own, until the cached price of its token comes down to
its limit.
-/

namespace StellarSwipe.TradeExecutor

open FixedWidth Program ReplayProtection

def featCopyTrade : String := "copy_trade"

structure PendingLimitOrder where
  orderId : Nat
  trade : Trade
  limitPrice : Int
  expiresAtLedger : Nat
deriving DecidableEq

/-- The waiting orders and the replay protection, beside the market. -/
structure LimitStore where
  market : MarketStore
  replay : ReplayStore
  pendingLimitOrders : Table Nat PendingLimitOrder
  pendingLimitOrderIds : List Nat
  nextLimitOrderId : Option Nat

abbrev LimitProgram := Program LimitStore ContractError

def mapReplayError : ReplayError → ContractError
  | .expired => .tradeExpired
  | .invalidNonce => .nonceAlreadyUsed
  | .duplicateTx => .nonceAlreadyUsed

def onMarket {α : Type} (program : MarketProgram α) : LimitProgram α :=
  zoom LimitStore.market (fun market store => { store with market }) id program

/-- Run replay protection on its own storage. -/
def onReplay {α : Type} (program : ReplayProgram α) : LimitProgram α :=
  zoom LimitStore.replay (fun replay store => { store with replay }) mapReplayError
    program

inductive OrderType where
  | market
  | limit

/-- The arguments of a copy trade. -/
structure CopyTrade where
  trade : Trade
  orderType : OrderType
  limitPrice : Option Int
  nonce : Nat
  txHash : Bytes
  expiryTs : Nat

/-- The number of the next order. The counter aborts when it is exhausted. -/
def nextLimitOrderId : LimitProgram Nat := do
  let id := (← get).nextLimitOrderId.getD 1
  let next ← orTrap (checkedCount u64Max id 1)
  modify fun store => { store with nextLimitOrderId := some next }
  pure id

def storePendingOrder (order : PendingLimitOrder) : LimitProgram Unit :=
  modify fun store => { store with
    pendingLimitOrderIds := store.pendingLimitOrderIds ++ [order.orderId]
    pendingLimitOrders := store.pendingLimitOrders.insert order.orderId order }

variable (env : Env) (outside : Outside)

/-- The user must hold the amount and the fee already. -/
def checkLimitBalance (trade : Trade) : MarketProgram Unit := do
  let available ← readBalance outside trade.token trade.user
  match balanceShortfall available trade.amount (← get).config.effectiveEstimatedFee with
  | none =>
    modify fun store => { store with
      lastInsufficientBalance := store.lastInsufficientBalance.erase trade.user }
  | some detail => do
    modify fun store => { store with
      lastInsufficientBalance := store.lastInsufficientBalance.insert trade.user detail }
    fail .insufficientBalance

def placeLimitOrder (trade : Trade) (limitPrice : Option Int) : LimitProgram Unit := do
  requireAuth env trade.user
  ensure (¬ trade.amount ≤ 0) .invalidAmount
  let price ← orFail limitPrice .invalidAmount
  ensure (¬ price ≤ 0) .invalidAmount
  ensure (¬ trade.amount < (← get).market.config.effectiveMinTradeSize trade.token)
    .belowMinimumTradeSize
  onMarket (checkLimitBalance outside trade)
  let orderId ← nextLimitOrderId
  let expiresAtLedger := satCount u32Max env.sequence tradeTimeoutLedgers
  storePendingOrder ⟨orderId, trade, price, expiresAtLedger⟩

def executeCopyTrade (request : CopyTrade) : LimitProgram Unit := do
  ensure ((← get).market.config.paused = false) .contractPaused
  onReplay
    (verifyAndCommit env request.trade.user request.nonce request.txHash request.expiryTs)
  ensure ((← get).market.config.isFlagEnabled featCopyTrade = true) .featureDisabled
  match request.orderType with
  | .market => onMarket (executeMarketCopyTrade env outside request.trade true none)
  | .limit => placeLimitOrder env outside request.trade request.limitPrice

/-- What a sweep does with an order. -/
inductive Disposition where
  | stays
  | expires
  | executes
deriving DecidableEq

def PendingLimitOrder.disposition (order : PendingLimitOrder) (env : Env) (token : Address)
    (currentPrice : Int) : Disposition :=
  if order.trade.token ≠ token then .stays
  else if order.expiresAtLedger ≤ env.sequence then .expires
  else if currentPrice ≤ order.limitPrice then .executes
  else .stays

def removeOrder (orderId : Nat) : LimitProgram Unit :=
  modify fun store => { store with
    pendingLimitOrders := store.pendingLimitOrders.erase orderId }

/-- The market trade of an order. Its user authorized the order. -/
def PendingLimitOrder.execute (order : PendingLimitOrder) (env : Env) (outside : Outside) :
    MarketProgram Unit :=
  executeMarketCopyTrade env outside order.trade false none

/-- The numbers that stay and how many orders were processed. An order that fails to be
executed stops the sweep. -/
def sweepOrders (env : Env) (outside : Outside) (token : Address) (currentPrice : Int) :
    List Nat → List Nat → Nat → LimitProgram (List Nat × Nat)
  | [], nextIds, processed => pure (nextIds, processed)
  | orderId :: rest, nextIds, processed => do
    match (← get).pendingLimitOrders.lookup orderId with
    | none => sweepOrders env outside token currentPrice rest nextIds processed
    | some order =>
      match order.disposition env token currentPrice with
      | .stays => sweepOrders env outside token currentPrice rest (nextIds ++ [orderId]) processed
      | .expires => do
        removeOrder orderId
        sweepOrders env outside token currentPrice rest nextIds
          (satCount u32Max processed 1)
      | .executes => do
        onMarket (order.execute env outside)
        removeOrder orderId
        sweepOrders env outside token currentPrice rest nextIds
          (satCount u32Max processed 1)

def checkPendingLimitOrders (token : Address) : LimitProgram Nat := do
  let store ← get
  let currentPrice ← orFail (store.market.config.sdexPrice.lookup token) .oracleUnavailable
  let (nextIds, processed) ←
    sweepOrders env outside token currentPrice store.pendingLimitOrderIds [] 0
  modify fun store => { store with pendingLimitOrderIds := nextIds }
  pure processed

/-- A call about orders, or whatever other entry points make of the market in between. -/
inductive LimitCall where
  | trade (request : CopyTrade)
  | sweep (token : Address)
  | elsewhere (market : MarketStore)

def LimitCall.exec : LimitCall → LimitProgram Unit
  | .trade request => executeCopyTrade env outside request
  | .sweep token => discard (checkPendingLimitOrders env outside token)
  | .elsewhere market => modify fun store => { store with market }

structure LimitInput where
  arrival : Arrival
  outside : Outside
  call : LimitCall

def limitStep (input : LimitInput) (ledger : Ledger LimitStore) : Ledger LimitStore :=
  ledger.call input.arrival fun env => input.call.exec env input.outside

def limitStart (timestamp sequence : Nat) : Ledger LimitStore :=
  ⟨⟨.blank, .empty, ∅, [], none⟩, timestamp, sequence⟩

end StellarSwipe.TradeExecutor
