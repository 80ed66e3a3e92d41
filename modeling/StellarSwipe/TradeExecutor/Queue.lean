import StellarSwipe.TradeExecutor.MarketEffects

/-!
# Queued trades and dead letters

A queued trade waits for its grace period, during which its user may cancel it, and is then
executed as a market trade.
-/

namespace StellarSwipe.TradeExecutor

open FixedWidth Program

structure QueuedTrade where
  queuedTradeId : Nat
  trade : Trade
  queuedAtLedger : Nat
  retryCount : Nat

structure FailedTrade where
  tradeId : Nat
  trade : Trade
  failureCode : Nat
  retryCount : Nat
  deadLetteredAtLedger : Nat

structure QueueStore where
  market : MarketStore
  queuedTrades : Table Nat QueuedTrade
  queuedTradeIds : List Nat
  nextQueuedTradeId : Option Nat
  deadLetters : Table Nat FailedTrade
  deadLetterIds : Table Address (List Nat)
  deadLetterAllIds : List Nat

abbrev QueueProgram := Program QueueStore ContractError

variable (env : Env)

def requireAdmin : QueueProgram Unit := do
  admitAdmin env (← get).market.config

namespace QueueStore

variable (store : QueueStore)

def upcomingId : Nat := store.nextQueuedTradeId.getD 1

def deadLettersOf (user : Address) : List Nat := (store.deadLetterIds.lookup user).getD []

def storeQueuedTrade (queued : QueuedTrade) : QueueStore :=
  { store with
    queuedTrades := store.queuedTrades.insert queued.queuedTradeId queued
    queuedTradeIds := store.queuedTradeIds ++ [queued.queuedTradeId] }

/-- Write a dead letter and list it twice. -/
def deadLetterTrade (failed : FailedTrade) : QueueStore :=
  { store with
    deadLetters := store.deadLetters.insert failed.tradeId failed
    deadLetterIds := store.deadLetterIds.insert failed.trade.user
      (store.deadLettersOf failed.trade.user ++ [failed.tradeId])
    deadLetterAllIds := store.deadLetterAllIds ++ [failed.tradeId] }

/-- Remove a dead letter and its first listing in both lists. -/
def removeDeadLetter (failed : FailedTrade) (tradeId : Nat) : QueueStore :=
  { store with
    deadLetters := store.deadLetters.erase tradeId
    deadLetterIds := store.deadLetterIds.insert failed.trade.user
      ((store.deadLettersOf failed.trade.user).erase tradeId)
    deadLetterAllIds := store.deadLetterAllIds.erase tradeId }

end QueueStore

def QueuedTrade.failed (queued : QueuedTrade) (env : Env) (reason : ContractError) : FailedTrade where
  tradeId := queued.queuedTradeId
  trade := queued.trade
  failureCode := reason.code
  retryCount := satCount u32Max queued.retryCount 1
  deadLetteredAtLedger := env.sequence

/-- A dead letter queued again starts anew. -/
def FailedTrade.requeued (failed : FailedTrade) (env : Env) (tradeId : Nat) : QueuedTrade where
  queuedTradeId := tradeId
  trade := failed.trade
  queuedAtLedger := env.sequence
  retryCount := 0

def TradeConfig.GracePeriodElapsed (config : TradeConfig) (env : Env) (queuedAtLedger : Nat) :
    Prop :=
  config.effectiveGracePeriod ≤ env.sequence - queuedAtLedger
deriving Decidable

def queueCopyTrade (trade : Trade) : QueueProgram Nat := do
  requireAuth env trade.user
  let store ← get
  ensure (¬ store.market.AtPositionCap trade.user (store.market.config.isExempt trade.user))
    .tooManyOpenPositions
  let queuedTradeId := store.upcomingId
  modify fun store => { store with
    nextQueuedTradeId := some (satCount u64Max queuedTradeId 1) }
  modify fun store => store.storeQueuedTrade ⟨queuedTradeId, trade, env.sequence, 0⟩
  pure queuedTradeId

def cancelQueuedTrade (user : Address) (queuedTradeId : Nat) : QueueProgram Unit := do
  requireAuth env user
  let store ← get
  let queued ← orFail (store.queuedTrades.lookup queuedTradeId) .queuedTradeNotFound
  ensure (queued.trade.user = user) .notTradeOwner
  ensure (¬ store.market.config.GracePeriodElapsed env queued.queuedAtLedger)
    .gracePeriodExpired
  modify fun store => { store with
    queuedTrades := store.queuedTrades.erase queuedTradeId
    queuedTradeIds := store.queuedTradeIds.erase queuedTradeId }

/-- The market trade of a queued trade. Its user authorized the queueing. -/
def QueuedTrade.execute (queued : QueuedTrade) (env : Env) (outside : Outside) :
    MarketProgram Unit :=
  executeMarketCopyTrade env outside queued.trade false none

/-- What becomes of a queued trade and its dead letter when it was attempted. -/
def QueuedTrade.outcome (queued : QueuedTrade) (env : Env) (maxRetries : Nat) :
    Except ContractError Unit → Option QueuedTrade × Option FailedTrade
  | .ok () => (none, none)
  | .error reason =>
    let retryCount := satCount u32Max queued.retryCount 1
    if maxRetries ≤ retryCount then (none, some (queued.failed env reason))
    else (some { queued with retryCount }, none)

def QueueStore.file (store : QueueStore) (queuedTradeId : Nat) :
    Option QueuedTrade × Option FailedTrade → QueueStore
  | (some updated, _) =>
    { store with queuedTrades := store.queuedTrades.insert queuedTradeId updated }
  | (none, some failed) =>
    let lettered := store.deadLetterTrade failed
    { lettered with queuedTrades := lettered.queuedTrades.erase queuedTradeId }
  | (none, none) => { store with queuedTrades := store.queuedTrades.erase queuedTradeId }

/-- Run a market program on the market, with its error as a value. -/
def attemptOnMarket (program : MarketProgram Unit) : QueueProgram (Except ContractError Unit) :=
  attempt (zoom QueueStore.market (fun market store => { store with market }) id
    program)

def executeQueue (env : Env) (outside : Outside) :
    List Nat → List Nat → Nat → QueueProgram (List Nat × Nat)
  | [], remaining, executed => pure (remaining, executed)
  | queuedTradeId :: rest, remaining, executed => do
    let store ← get
    match store.queuedTrades.lookup queuedTradeId with
    | none => executeQueue env outside rest remaining executed
    | some queued =>
      if store.market.config.GracePeriodElapsed env queued.queuedAtLedger then do
        let result ← attemptOnMarket (queued.execute env outside)
        let maxRetries := (← get).market.config.effectiveMaxRetryCount
        let outcome := queued.outcome env maxRetries result
        modify fun store => store.file queuedTradeId outcome
        executeQueue env outside rest
          (if outcome.1.isSome = true then remaining ++ [queuedTradeId] else remaining)
          (if result.isOk = true then satCount u32Max executed 1 else executed)
      else executeQueue env outside rest (remaining ++ [queuedTradeId]) executed

def executeQueuedTrades (outside : Outside) : QueueProgram Nat := do
  let (remaining, executed) ← executeQueue env outside (← get).queuedTradeIds [] 0
  modify fun store => { store with queuedTradeIds := remaining }
  pure executed

def requeueDeadLetteredTrade (tradeId : Nat) : QueueProgram Unit := do
  requireAdmin env
  let failed ← orFail ((← get).deadLetters.lookup tradeId) .queuedTradeNotFound
  modify fun store => store.removeDeadLetter failed tradeId
  modify fun store => store.storeQueuedTrade (failed.requeued env tradeId)

def discardDeadLetteredTrade (tradeId : Nat) : QueueProgram Unit := do
  requireAdmin env
  let failed ← orFail ((← get).deadLetters.lookup tradeId) .queuedTradeNotFound
  modify fun store => store.removeDeadLetter failed tradeId

/-- Remove old dead letters among the given numbers, as many as may be removed. -/
def pruneLetters (env : Env) (retention maxEntries : Nat) : List Nat → Nat → QueueProgram Nat
  | [], removed => pure removed
  | id :: rest, removed =>
    if removed < maxEntries then do
      match (← get).deadLetters.lookup id with
      | none => pruneLetters env retention maxEntries rest removed
      | some failed =>
        if retention ≤ env.sequence - failed.deadLetteredAtLedger then do
          modify fun store => store.removeDeadLetter failed id
          pruneLetters env retention maxEntries rest (satCount u32Max removed 1)
        else pruneLetters env retention maxEntries rest removed
    else pure removed

def pruneDeadLetterQueue (user : Option Address) (maxEntries : Nat) : QueueProgram Nat := do
  requireAdmin env
  let store ← get
  let ids := match user with
    | some user => store.deadLettersOf user
    | none => store.deadLetterAllIds
  pruneLetters env store.market.config.effectiveDeadLetterRetention maxEntries ids 0

/-- A call to the queue, or whatever other entry points make of the market in between. The
retry limit stays as it is. -/
inductive QueueCall where
  | queue (trade : Trade)
  | cancel (user : Address) (queuedTradeId : Nat)
  | execute
  | requeue (tradeId : Nat)
  | drop (tradeId : Nat)
  | prune (user : Option Address) (maxEntries : Nat)
  | elsewhere (market : MarketStore)

def QueueCall.exec (outside : Outside) : QueueCall → QueueProgram Unit
  | .queue trade => discard (queueCopyTrade env trade)
  | .cancel user queuedTradeId => cancelQueuedTrade env user queuedTradeId
  | .execute => discard (executeQueuedTrades env outside)
  | .requeue tradeId => requeueDeadLetteredTrade env tradeId
  | .drop tradeId => discardDeadLetteredTrade env tradeId
  | .prune user maxEntries => discard (pruneDeadLetterQueue env user maxEntries)
  | .elsewhere market => modify fun store =>
    let config := { market.config with maxRetryCount := store.market.config.maxRetryCount }
    { store with market := { market with config } }

structure QueueInput where
  arrival : Arrival
  outside : Outside
  call : QueueCall

def queueStep (input : QueueInput) (ledger : Ledger QueueStore) : Ledger QueueStore :=
  ledger.call input.arrival fun env => input.call.exec env input.outside

/-- An empty queue under a retry limit. -/
def queueStart (timestamp sequence : Nat) (maxRetries : Fin (u32Max + 1)) : Ledger QueueStore :=
  let config := { TradeConfig.blank with maxRetryCount := some maxRetries.val }
  ⟨⟨{ MarketStore.blank with config }, ∅, [], none, ∅, ∅, []⟩, timestamp, sequence⟩

end StellarSwipe.TradeExecutor
