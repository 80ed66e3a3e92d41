import StellarSwipe.Host
import StellarSwipe.Library.DistinctList
import StellarSwipe.Library.KeyedSum

/-!
# The positions of a user's portfolio

A position is kept under a number. Three indexes name positions by user: the mixed list of the
first layout, and the lists of open and of closed positions of the second.
-/

namespace StellarSwipe.UserPortfolio

open Program

inductive PositionStatus where
  | open
  | closed
  | closing
deriving DecidableEq

structure Position where
  entryPrice : Int
  amount : Int
  status : PositionStatus
  realizedPnl : Int
deriving DecidableEq

inductive PortfolioError where
  | positionAlreadyClosed
  | exposureCapExceeded
  | invalidCapAmount

structure CostLot where
  entryPrice : Int
  amount : Int

structure TaxEvent where
  positionId : Nat
  openTs : Nat
  closeTs : Nat
  entryPrice : Int
  exitPrice : Int
  amount : Int
  realizedPnl : Int
  assetPair : Nat

structure PortfolioConfig where
  admin : Option Address
  oracle : Option Address
  oracleAssetPair : Nat
  tradeExecutor : Option Address
  kycRequiredMode : Bool
  kycVerified : Table Address Bool
  restricted : Table Address Bool

structure PortfolioStore where
  config : PortfolioConfig
  nextPositionId : Option Nat
  positions : Table Nat Position
  positionOpenedAt : Table Nat Nat
  positionAsset : Table Nat Nat
  userPositions : Table Address (List Nat)
  userOpenPositions : Table Address (List Nat)
  userClosedPositions : Table Address (List Nat)
  migratedUser : Table Address Bool
  migrationQueue : List Address
  userFifoLots : Table Address (List CostLot)
  userFifoRealizedPnl : Table Address Int
  userTaxEvents : Table Address (List TaxEvent)
  currentStreak : Table Address Nat
  bestStreak : Table Address Nat
  userAssetCap : Table (Address × Nat) Int
  userAssetExposure : Table (Address × Nat) Int

abbrev PortfolioProgram := Program PortfolioStore PortfolioError

namespace PortfolioConfig

variable (config : PortfolioConfig) (user : Address)

def isKycVerified : Bool := (config.kycVerified.lookup user).getD false

def isRestricted : Bool := (config.restricted.lookup user).getD false

/-- Nothing is configured. -/
def blank : PortfolioConfig where
  admin := none
  oracle := none
  oracleAssetPair := 0
  tradeExecutor := none
  kycRequiredMode := false
  kycVerified := ∅
  restricted := ∅

end PortfolioConfig

namespace PortfolioStore

variable (store : PortfolioStore) (user : Address)

/-- A contract that was just initialized. -/
def blank : PortfolioStore where
  config := .blank
  nextPositionId := some 1
  positions := ∅
  positionOpenedAt := ∅
  positionAsset := ∅
  userPositions := ∅
  userOpenPositions := ∅
  userClosedPositions := ∅
  migratedUser := ∅
  migrationQueue := []
  userFifoLots := ∅
  userFifoRealizedPnl := ∅
  userTaxEvents := ∅
  currentStreak := ∅
  bestStreak := ∅
  userAssetCap := ∅
  userAssetExposure := ∅

/-- The numbers of a user's positions, open and closed mixed. -/
def positionsOf : List Nat := (store.userPositions.lookup user).getD []

def openPositionsOf : List Nat := (store.userOpenPositions.lookup user).getD []

def closedPositionsOf : List Nat := (store.userClosedPositions.lookup user).getD []

def fifoRealized : Int := (store.userFifoRealizedPnl.lookup user).getD 0

def fifoLots : List CostLot := (store.userFifoLots.lookup user).getD []

def getExposure (assetId : Nat) : Int := (store.userAssetExposure.lookup (user, assetId)).getD 0

def getCap (assetId : Nat) : Option Int := store.userAssetCap.lookup (user, assetId)

end PortfolioStore

/-!
## Opening and closing positions

A position is opened under the next number and joins its user's indexes. It is closed by its user,
wholly or in parts, or by the trade executor; a position that is closed leaves the index of open
positions for that of closed ones.
-/

open FixedWidth

variable (env : Env) (user : Address)

/-- The gates that both ways of opening pass. -/
def requireOpening (entryPrice amount : Int) : PortfolioProgram Unit := do
  demand (user ∈ env.auths)
  demand (0 < entryPrice ∧ 0 < amount)
  let store ← get
  demand (store.config.kycRequiredMode = true → store.config.isKycVerified user = true)
  demand (store.config.isRestricted user = false)

namespace PortfolioStore

variable (store : PortfolioStore) (user : Address) (positionId : Nat)

/-- A new position under a number, in its user's mixed list and list of open positions. -/
def enlist (entryPrice amount : Int) : PortfolioStore :=
  { store with
    nextPositionId := some (positionId + 1)
    positions := store.positions.insert positionId ⟨entryPrice, amount, .open, 0⟩
    userPositions := store.userPositions.insert user (store.positionsOf user ++ [positionId])
    userOpenPositions :=
      store.userOpenPositions.insert user (store.openPositionsOf user ++ [positionId]) }

def addExposure (assetId : Nat) (amount : Int) : PortfolioStore :=
  { store with
    userAssetExposure := store.userAssetExposure.insert (user, assetId)
      (i128.saturatingAdd (store.getExposure user assetId) amount) }

/-- From the list of open positions to the list of closed ones. -/
def markPositionClosed : PortfolioStore :=
  { store with
    userOpenPositions := store.userOpenPositions.insert user
      ((store.openPositionsOf user).filter (· ≠ positionId))
    userClosedPositions :=
      if positionId ∈ store.closedPositionsOf user then store.userClosedPositions
      else store.userClosedPositions.insert user
        (store.closedPositionsOf user ++ [positionId]) }

def put (position : Position) : PortfolioStore :=
  { store with positions := store.positions.insert positionId position }

def recordTax (event : TaxEvent) : PortfolioStore :=
  { store with
    userTaxEvents := store.userTaxEvents.insert user
      ((store.userTaxEvents.lookup user).getD [] ++ [event]) }

/-- A profitable close makes the streak longer, another ends it. -/
def updateStreaks (realizedPnl : Int) : PortfolioStore :=
  let current := (store.currentStreak.lookup user).getD 0
  let best := (store.bestStreak.lookup user).getD 0
  if 0 < realizedPnl then
    let current := satCount u32Max current 1
    { store with
      bestStreak := if best < current then store.bestStreak.insert user current
        else store.bestStreak
      currentStreak := store.currentStreak.insert user current }
  else { store with currentStreak := store.currentStreak.insert user 0 }

end PortfolioStore

def nextPosition : PortfolioProgram Nat := do
  let store ← get
  let positionId ← orTrap store.nextPositionId
  demand (positionId < u64Max)
  pure positionId

def openPosition (entryPrice amount : Int) : PortfolioProgram Nat := do
  requireOpening env user entryPrice amount
  let positionId ← nextPosition
  modify (·.enlist user positionId entryPrice amount)
  modify fun store =>
    { store with
      positionOpenedAt := store.positionOpenedAt.insert positionId env.timestamp }
  pure positionId

variable (assetId : Nat)

def setAssetExposureCap (capAmount : Int) : PortfolioProgram Unit := do
  demand (user ∈ env.auths)
  ensure (0 < capAmount) .invalidCapAmount
  modify fun store =>
    { store with userAssetCap := store.userAssetCap.insert (user, assetId) capAmount }

def removeAssetExposureCap : PortfolioProgram Unit := do
  demand (user ∈ env.auths)
  modify fun store =>
    { store with userAssetCap := store.userAssetCap.erase (user, assetId) }

def PortfolioStore.WithinCap (store : PortfolioStore) (user : Address) (assetId : Nat)
    (newAmount : Int) : Prop :=
  ∀ cap ∈ store.getCap user assetId,
    i128.saturatingAdd (store.getExposure user assetId) newAmount ≤ cap
deriving Decidable

def checkCap (newAmount : Int) : PortfolioProgram Unit := do
  let store ← get
  ensure (store.WithinCap user assetId newAmount) .exposureCapExceeded

def openPositionWithCapCheck (entryPrice amount : Int) : PortfolioProgram Nat := do
  requireOpening env user entryPrice amount
  checkCap user assetId amount
  let positionId ← nextPosition
  modify (·.enlist user positionId entryPrice amount)
  modify fun store =>
    { store with positionAsset := store.positionAsset.insert positionId assetId }
  modify (·.addExposure user assetId amount)
  pure positionId

variable (positionId : Nat) (position : Position)

/-- The amount is not negative, the entry price is positive, and the realized value fits. -/
def Position.Sound : Prop :=
  0 ≤ position.amount ∧ 0 < position.entryPrice ∧ i128.low ≤ position.realizedPnl
deriving Decidable

def assertPositionInvariants : PortfolioProgram Unit :=
  demand position.Sound

def requireOpenPosition : PortfolioProgram Position := do
  let store ← get
  demand (positionId ∈ store.positionsOf user)
  let position ← orTrap (store.positions.lookup positionId)
  assertPositionInvariants position
  ensure (position.status = .open) .positionAlreadyClosed
  pure position

/-- Lock the position, close it and move it between the indexes. -/
def finalizeClose (closed : Position) : PortfolioProgram Unit := do
  modify (·.put positionId { position with status := .closing })
  assertPositionInvariants closed
  modify (·.put positionId closed)
  modify (·.markPositionClosed user positionId)

def appendTaxEvent (exitPrice realizedPnl : Int) (assetPair : Nat) : PortfolioProgram Unit :=
  modify fun store => store.recordTax user
    ⟨positionId, (store.positionOpenedAt.lookup positionId).getD 0, env.timestamp,
      position.entryPrice, exitPrice, position.amount, realizedPnl, assetPair⟩

def closePosition (realizedPnl exitPrice : Int) (assetPair : Nat) : PortfolioProgram Unit := do
  demand (user ∈ env.auths)
  let position ← requireOpenPosition user positionId
  let realized ← orTrap (i128.checkedAdd position.realizedPnl realizedPnl)
  let closed := { position with status := .closed, realizedPnl := realized }
  finalizeClose user positionId position closed
  appendTaxEvent env user positionId closed exitPrice realizedPnl assetPair
  modify (·.updateStreaks user realizedPnl)

def closePositionKeeper (caller user : Address) (positionId assetPair : Nat) :
    PortfolioProgram Unit := do
  demand (caller ∈ env.auths)
  let store ← get
  let tradeExecutor ← orTrap store.config.tradeExecutor
  demand (caller = tradeExecutor)
  let position ← requireOpenPosition user positionId
  let closed := { position with status := .closed }
  finalizeClose user positionId position closed
  appendTaxEvent env user positionId closed 0 0 assetPair

def closePositionPartial (closeAmount realizedPnlDelta : Int) : PortfolioProgram Int := do
  demand (user ∈ env.auths)
  demand (0 < closeAmount)
  let position ← requireOpenPosition user positionId
  demand (closeAmount ≤ position.amount)
  let remaining ← orTrap (i128.checkedSub position.amount closeAmount)
  let realized ← orTrap (i128.checkedAdd position.realizedPnl realizedPnlDelta)
  let reduced := { position with amount := remaining, realizedPnl := realized }
  if remaining = 0 then
    finalizeClose user positionId reduced { reduced with status := .closed }
  else do
    assertPositionInvariants reduced
    modify (·.put positionId reduced)
  pure remaining

def addCostLot (entryPrice amount : Int) : PortfolioProgram Unit := do
  demand (user ∈ env.auths)
  demand (0 < entryPrice ∧ 0 < amount)
  modify fun store =>
    { store with
      userFifoLots := store.userFifoLots.insert user
        (store.fifoLots user ++ [⟨entryPrice, amount⟩]) }

/-- What is realized of a lot, nothing where the product does not fit. -/
def CostLot.realized (lot : CostLot) (exitPrice consumed : Int) : Int :=
  (((i128.checkedSub exitPrice lot.entryPrice).bind (i128.checkedMul · consumed)).bind
    (i128.checkedDiv · lot.entryPrice)).getD 0

/-- Consume lots from the front. The answer is what was not consumed, what was realized and
the lots that are left. -/
def consumeLots (exitPrice remaining totalPnl : Int) : List CostLot → Int × Int × List CostLot
  | [] => (remaining, totalPnl, [])
  | lot :: rest =>
    if remaining ≤ 0 then
      let (unmet, realized, kept) := consumeLots exitPrice remaining totalPnl rest
      (unmet, realized, lot :: kept)
    else
      let consumed := if lot.amount ≤ remaining then lot.amount else remaining
      let totalPnl := if 0 < lot.entryPrice then
        i128.saturatingAdd totalPnl (lot.realized exitPrice consumed) else totalPnl
      let leftover := i128.saturatingSub lot.amount consumed
      let (unmet, realized, kept) :=
        consumeLots exitPrice (i128.saturatingSub remaining consumed) totalPnl rest
      (unmet, realized, if 0 < leftover then { lot with amount := leftover } :: kept else kept)

def closeFifo (closeAmount exitPrice : Int) : PortfolioProgram Int := do
  demand (user ∈ env.auths)
  demand (0 < closeAmount ∧ 0 < exitPrice)
  let store ← get
  let (unmet, totalPnl, newLots) := consumeLots exitPrice closeAmount 0 (store.fifoLots user)
  demand (unmet ≤ 0)
  modify fun store =>
    { store with
      userFifoLots := store.userFifoLots.insert user newLots
      userFifoRealizedPnl := store.userFifoRealizedPnl.insert user
        (i128.saturatingAdd (store.fifoRealized user) totalPnl) }
  pure totalPnl

end StellarSwipe.UserPortfolio
