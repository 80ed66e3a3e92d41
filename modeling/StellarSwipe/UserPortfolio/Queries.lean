import StellarSwipe.UserPortfolio.Positions

/-!
# Reading and migrating a portfolio

The profit and loss of a user adds up what the mixed list names, open positions by the oracle's
price and closed ones by what they realized.
-/

namespace StellarSwipe.UserPortfolio

open FixedWidth Program

def maxInlineClosedPositions : Nat := 20

def maxPriceAgeSecs : Nat := 300

structure OraclePrice where
  price : Int
  decimals : Nat
  timestamp : Nat

/-- The oracle contract's answer for a pair, nothing where the call fails. -/
abbrev OracleCall := Nat → Option OraclePrice

variable (env : Env)

def OraclePrice.Fresh (price : OraclePrice) : Prop :=
  price.timestamp ≠ 0 ∧ env.timestamp - price.timestamp ≤ maxPriceAgeSecs
deriving Decidable

/-- The price without its decimals, which aborts where their scale does not fit. -/
def oraclePriceToI128 (price : OraclePrice) : PortfolioProgram Int := do
  let scale ← orTrap (i128.checked (10 ^ price.decimals))
  pure (if scale = 0 then price.price else price.price.tdiv scale)

structure PnlSummary where
  realizedPnl : Int
  unrealizedPnl : Option Int
  totalPnl : Int
  roiBps : Int

def i32Min : Int := -2 ^ 31

def i32Max : Int := 2 ^ 31 - 1

def roiBasisPoints (totalPnl totalInvested : Int) : Int :=
  if totalInvested = 0 then 0
  else
    match (i128.checkedMul totalPnl 10000).bind (i128.checkedDiv · totalInvested) with
    | none => 0
    | some quotient => max i32Min (min quotient i32Max)

namespace PortfolioStore

variable (store : PortfolioStore) (user : Address)

def recordedPositions : List Position :=
  (store.positionsOf user).filterMap fun positionId => store.positions.lookup positionId

/-- What the positions that are not open have realized, each as far as it fits. -/
def realizedByPositions : Int :=
  i128.accumulate 0 (((store.recordedPositions user).filter (·.status ≠ .open)).map
    (·.realizedPnl))

def totalInvested : Int :=
  i128.accumulate 0 ((store.recordedPositions user).map (·.amount))

def realizedPnl : Int :=
  let realized := store.realizedByPositions user
  (i128.checkedAdd realized (store.fifoRealized user)).getD realized

end PortfolioStore

/-- What an open position is worth beyond its entry at a price, nothing where it does not
fit. -/
def Position.unrealized (price : Int) (position : Position) : Option Int :=
  if position.status ≠ .open ∨ position.entryPrice = 0 then none
  else ((i128.checkedSub price position.entryPrice).bind (i128.checkedMul · position.amount)).bind
    (i128.checkedDiv · position.entryPrice)

/-- The summary of a user's positions and lots, given the oracle's answers. -/
def computeGetPnl (getPrice : OracleCall) (user : Address) : PortfolioProgram PnlSummary := do
  let store ← get
  let _oracle ← orTrap store.config.oracle
  let positions := store.recordedPositions user
  let realized := store.realizedPnl user
  let currentPrice ← match getPrice store.config.oracleAssetPair with
    | none => pure none
    | some price => if price.Fresh env then some <$> oraclePriceToI128 price else pure none
  let unrealizedPnl :=
    if positions.all (·.status ≠ .open) then some 0
    else currentPrice.map fun price =>
      i128.accumulate 0 (positions.filterMap (·.unrealized price))
  let totalPnl := (unrealizedPnl.bind (i128.checkedAdd realized ·)).getD realized
  pure ⟨realized, unrealizedPnl, totalPnl, roiBasisPoints totalPnl (store.totalInvested user)⟩

structure PortfolioPosition where
  positionId : Nat
  position : Position

structure Portfolio where
  openPositions : List PortfolioPosition
  closedPositions : List PortfolioPosition
  closedPositionIds : List Nat

namespace PortfolioStore

variable (store : PortfolioStore) (user : Address)

/-- The listed numbers whose position is on record with a status that meets a test. -/
def withStatus (test : PositionStatus → Bool) (positionIds : List Nat) : List Nat :=
  positionIds.filter fun positionId =>
    ((store.positions.lookup positionId).map fun position => test position.status).getD false

def rebuiltOpen : List Nat := store.withStatus (· = .open) (store.positionsOf user)

def rebuiltClosed : List Nat := store.withStatus (· ≠ .open) (store.positionsOf user)

/-- Both indexes as the mixed list has them. -/
def reindex : PortfolioStore :=
  { store with
    userOpenPositions := store.userOpenPositions.insert user (store.rebuiltOpen user)
    userClosedPositions := store.userClosedPositions.insert user (store.rebuiltClosed user) }

/-- The recorded positions of a status, with their numbers. -/
def load (status : PositionStatus) (positionIds : List Nat) : List PortfolioPosition :=
  positionIds.filterMap fun positionId =>
    (store.positions.lookup positionId).bind fun position =>
      if position.status = status then some ⟨positionId, position⟩ else none

end PortfolioStore

variable (store : PortfolioStore) (user : Address)

def rebuildPositionIndexes : PortfolioProgram (List Nat × List Nat) := do
  let store ← get
  modify (·.reindex user)
  pure (store.rebuiltOpen user, store.rebuiltClosed user)

def getOpenPositionIds : PortfolioProgram (List Nat) := do
  let store ← get
  match store.userOpenPositions.lookup user with
  | some positionIds => pure positionIds
  | none => do
    let rebuilt ← rebuildPositionIndexes user
    pure rebuilt.1

def getClosedPositionIds : PortfolioProgram (List Nat) := do
  let store ← get
  match store.userClosedPositions.lookup user with
  | some positionIds => pure positionIds
  | none => do
    let rebuilt ← rebuildPositionIndexes user
    pure rebuilt.2

def getPortfolio (includeClosed : Bool) : PortfolioProgram Portfolio := do
  let openIds ← getOpenPositionIds user
  let store ← get
  let openPositions := store.load .open openIds
  if includeClosed = true then do
    let closedIds ← getClosedPositionIds user
    let store ← get
    pure ⟨openPositions,
      if closedIds.length ≤ maxInlineClosedPositions then store.load .closed closedIds else [],
      closedIds⟩
  else
    pure ⟨openPositions, [], []⟩

def requireAdmin : PortfolioProgram Unit := do
  let store ← get
  let admin ← orTrap store.config.admin
  demand (admin ∈ env.auths)

/-- Every position of the mixed list is on record. -/
def PortfolioStore.Recorded : Prop :=
  ∀ positionId ∈ store.positionsOf user, (store.positions.lookup positionId).isSome = true
deriving Decidable

def PortfolioStore.migrated : PortfolioStore :=
  { store.reindex user with migratedUser := store.migratedUser.insert user true }

def migrateUser : PortfolioProgram Unit := do
  let store ← get
  if store.migratedUser.lookup user = none then do
    demand (store.Recorded user)
    modify (·.migrated user)

def registerMigrationUsers (users : List Address) : PortfolioProgram Unit := do
  requireAdmin env
  modify fun store => { store with migrationQueue := store.migrationQueue ++ users }

/-- The users that a batch takes, from the tail of the queue. -/
def PortfolioStore.batch (batchSize : Nat) : List Address :=
  store.migrationQueue.reverse.take batchSize

def migratePortfolioV1ToV2 (batchSize : Nat) : PortfolioProgram Nat := do
  requireAdmin env
  let store ← get
  let users := store.batch batchSize
  each migrateUser users
  modify fun after => { after with
    migrationQueue := store.migrationQueue.take (store.migrationQueue.length - users.length) }
  pure users.length

end StellarSwipe.UserPortfolio
