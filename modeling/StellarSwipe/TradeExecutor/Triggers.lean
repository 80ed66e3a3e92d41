import StellarSwipe.TradeExecutor.MarketEffects

/-!
# Price triggers

A position is closed for its owner when the oracle's price falls to the stop loss, rises to the
take profit or falls a given distance below the highest price that the trailing stop saw.
-/

namespace StellarSwipe.TradeExecutor

open FixedWidth Program

def maxOraclePriceAgeSecs : Nat := 300

/-- The largest percentage, in basis points. -/
def fullBps : Int := 10000

/-- A product that stops at the ends of the amounts. -/
def saturatingMul (left right : Int) : Int := i128.clamp (left * right)

/-- The triggers of the positions, by owner and position, beside the market. -/
structure TriggerStore where
  market : MarketStore
  stopLoss : Table (Address × Nat) Int
  takeProfit : Table (Address × Nat) Int
  trailBps : Table (Address × Nat) Nat
  trailPeak : Table (Address × Nat) Int

abbrev TriggerProgram := Program TriggerStore ContractError

variable (env : Env) (outside : Outside) (user : Address) (tradeId : Nat)

def setStopLoss (stopLossPrice : Int) : TriggerProgram Unit := do
  requireAuth env user
  modify fun store => { store with
    stopLoss := store.stopLoss.insert (user, tradeId) stopLossPrice }

def setTakeProfit (takeProfitPrice : Int) : TriggerProgram Unit := do
  requireAuth env user
  modify fun store => { store with
    takeProfit := store.takeProfit.insert (user, tradeId) takeProfitPrice }

def setTrailingStop (trailBps : Nat) (initialPrice : Int) : TriggerProgram Unit := do
  requireAuth env user
  modify fun store => { store with
    trailBps := store.trailBps.insert (user, tradeId) trailBps
    trailPeak := store.trailPeak.insert (user, tradeId) initialPrice }

def TriggerStore.getTrailingStop (store : TriggerStore) (user : Address) (tradeId : Nat) :
    Option (Nat × Int) := do
  let bps ← store.trailBps.lookup (user, tradeId)
  let peak ← store.trailPeak.lookup (user, tradeId)
  pure (bps, peak)

/-- Keep the highest price. -/
def updateTrailingPeak (currentPrice : Int) : TriggerProgram Int := do
  let peak := ((← get).trailPeak.lookup (user, tradeId)).getD 0
  if peak < currentPrice then do
    modify fun store => { store with
      trailPeak := store.trailPeak.insert (user, tradeId) currentPrice }
    pure currentPrice
  else pure peak

def fetchOracleAndPortfolio : TriggerProgram Unit := do
  let config := (← get).market.config
  ensure (config.oracle.isSome = true) .notInitialized
  ensure (config.stopLossPortfolio.isSome = true) .notInitialized

/-- The oracle's price, unless it was never set or is too old. -/
def fetchCurrentPrice (assetPair : Nat) : TriggerProgram Int := do
  let reading := outside.oracle assetPair
  ensure (reading.updatedAt ≠ 0) .oracleUnavailable
  ensure (¬ maxOraclePriceAgeSecs < env.timestamp - reading.updatedAt) .oraclePriceStale
  pure reading.price

/-- Close an open position of the user. The portfolio aborts when there is none. -/
def closePositionKeeper : TriggerProgram Unit := do
  demand ((← get).market.portfolio.Holds user tradeId)
  modify fun store =>
    let closed : MarketStore :=
      { store.market with portfolio := store.market.portfolio.close tradeId }
    { store with market := closed.decrementUserPositionCount user }

/-- Close the position when the price calls for it. -/
def triggerWhen (condition : Prop) [Decidable condition] (user : Address) (tradeId : Nat) :
    TriggerProgram Bool :=
  if condition then do
    closePositionKeeper user tradeId
    pure true
  else pure false

def checkAndTriggerStopLoss (assetPair : Nat) : TriggerProgram Bool := do
  fetchOracleAndPortfolio
  let stopLossPrice ← orFail ((← get).stopLoss.lookup (user, tradeId)) .notInitialized
  let currentPrice ← fetchCurrentPrice env outside assetPair
  triggerWhen (currentPrice ≤ stopLossPrice) user tradeId

/-- The stop loss comes first: a price that calls for both takes no profit. -/
def checkAndTriggerTakeProfit (assetPair : Nat) : TriggerProgram Bool := do
  fetchOracleAndPortfolio
  let takeProfitPrice ← orFail ((← get).takeProfit.lookup (user, tradeId)) .notInitialized
  let currentPrice ← fetchCurrentPrice env outside assetPair
  let stopLoss := (← get).stopLoss.lookup (user, tradeId)
  triggerWhen ((∀ stopLossPrice ∈ stopLoss, ¬ currentPrice ≤ stopLossPrice) ∧
    takeProfitPrice ≤ currentPrice) user tradeId

/-- The price at which a trailing stop fires. -/
def triggerPrice (peak : Int) (trailBps : Nat) : Int :=
  (saturatingMul peak (fullBps - trailBps)).tdiv fullBps

def checkAndTriggerTrailingStop (assetPair : Nat) : TriggerProgram Bool := do
  fetchOracleAndPortfolio
  let (trailBps, _) ← orFail ((← get).getTrailingStop user tradeId) .notInitialized
  let currentPrice ← fetchCurrentPrice env outside assetPair
  let peak ← updateTrailingPeak user tradeId currentPrice
  triggerWhen (currentPrice ≤ triggerPrice peak trailBps) user tradeId

inductive TriggerKind where
  | stopLoss
  | takeProfit
  | trailingStop
deriving DecidableEq

def TriggerKind.check : TriggerKind → Env → Outside → Address → Nat → Nat → TriggerProgram Bool
  | .stopLoss => checkAndTriggerStopLoss
  | .takeProfit => checkAndTriggerTakeProfit
  | .trailingStop => checkAndTriggerTrailingStop

/-- What other entry points do to the portfolio. -/
inductive PortfolioMove where
  | opens (position : Position)
  | closes (positionId : Nat)

def PortfolioMove.apply (portfolio : Portfolio) : PortfolioMove → Portfolio
  | .opens position => portfolio.record position
  | .closes positionId => portfolio.close positionId

/-- A call to the triggers, or whatever happens in between: positions are opened and closed
and the rest of the market is replaced. -/
inductive TriggerCall where
  | stopLossAt (user : Address) (tradeId : Nat) (stopLossPrice : Int)
  | takeProfitAt (user : Address) (tradeId : Nat) (takeProfitPrice : Int)
  | trailFrom (user : Address) (tradeId trailBps : Nat) (initialPrice : Int)
  | check (kind : TriggerKind) (user : Address) (tradeId assetPair : Nat)
  | elsewhere (moves : List PortfolioMove) (market : MarketStore)

/-- What a call returns: whether a check fired. -/
def TriggerCall.exec : TriggerCall → TriggerProgram Bool
  | .stopLossAt user tradeId price => do
    setStopLoss env user tradeId price
    pure false
  | .takeProfitAt user tradeId price => do
    setTakeProfit env user tradeId price
    pure false
  | .trailFrom user tradeId trailBps initialPrice => do
    setTrailingStop env user tradeId trailBps initialPrice
    pure false
  | .check kind user tradeId assetPair => kind.check env outside user tradeId assetPair
  | .elsewhere moves market => do
    modify fun store =>
      let moved := moves.foldl PortfolioMove.apply store.market.portfolio
      { store with market := { market with portfolio := moved } }
    pure false

structure TriggerInput where
  arrival : Arrival
  outside : Outside
  call : TriggerCall

def triggerStep (input : TriggerInput) (ledger : Ledger TriggerStore) : Ledger TriggerStore :=
  ledger.call input.arrival fun env => input.call.exec env input.outside

/-- A deployment with no triggers. -/
def triggerStart (timestamp sequence : Nat) : Ledger TriggerStore :=
  ⟨⟨.blank, ∅, ∅, ∅, ∅⟩, timestamp, sequence⟩

end StellarSwipe.TradeExecutor
