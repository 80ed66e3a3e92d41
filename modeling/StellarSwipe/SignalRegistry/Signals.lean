import Mathlib.Data.List.Sort
import StellarSwipe.Host
import StellarSwipe.Library.KeyedSum
import StellarSwipe.Library.Runs

/-!
# Signals

A provider's signals are active until they expire, are cancelled, or are closed by the average
return of the recorded trades.
-/

namespace StellarSwipe.SignalRegistry

open FixedWidth Program

inductive SignalStatus where
  | pending
  | active
  | executed
  | expired
  | successful
  | failed
  | providerDeleted
  | cancelled
deriving DecidableEq

inductive SignalAction where
  | buy
  | sell

structure Signal where
  id : Nat
  provider : Address
  action : SignalAction
  price : Int
  timestamp : Nat
  submittedAt : Nat
  expiry : Nat
  status : SignalStatus
  executions : Nat
  successfulExecutions : Nat
  totalVolume : Int
  totalRoi : Int
  warningEmitted : Bool

structure SignalV1 where
  id : Nat
  provider : Address
  action : SignalAction
  price : Int
  timestamp : Nat
  expiry : Nat
  status : SignalStatus
  executions : Nat
  successfulExecutions : Nat
  totalVolume : Int
  totalRoi : Int

structure ProviderPerformance where
  totalSignals : Nat
  successfulSignals : Nat
  failedSignals : Nat
  successRate : Nat
  avgReturn : Int
  totalVolume : Int

inductive RegistryError where
  | tradingPaused
  | unauthorized
  | invalidParameter
  | invalidAssetPair
  | submissionQuotaExceeded
  | signalLimitExceeded
  | cooldownNotElapsed
  | rateLimitExceeded
  | incompatibleStorageLayout
  | invalidPrice
  | invalidVolume
  | oraclePriceOutOfBounds
  | signalNotFound
  | notFound
  | notOwner
  | notActive
  | lifetimeNotElapsed

/-- What the parts of the registry that are left to a call decide about it. -/
structure Gates where
  signalsPaused : Bool
  tradingPaused : Bool
  unauthorized : Bool
  badAssetPair : Bool
  badTexts : Bool
  providerInactive : Bool
  quotaExceeded : Bool
  coolingDown : Bool
  dailyLimitReached : Bool
  rateLimited : Bool
  stops : Bool

/-- Nothing stands in the way. -/
def Gates.clear : Gates :=
  ⟨false, false, false, false, false, false, false, false, false, false, false⟩

structure SignalStore where
  admin : Address
  pruneKeepers : List Address
  signalCounter : Nat
  signals : Table Nat Signal
  signalsV1 : Table Nat SignalV1
  activeCounts : Table Address Nat
  providerStats : Table Address ProviderPerformance
  banReasons : Table Address String
  stakeTiers : Table Address Nat
  providerStakes : Table Address Int
  goldSignalLimit : Fin (2 ^ 32)
  silverSignalLimit : Fin (2 ^ 32)
  bronzeSignalLimit : Fin (2 ^ 32)
  minSignalLifetime : Nat
  expiryCleanupCursor : Nat
  archiveCursor : Nat
  migrationCursor : Nat
  schemaVersion : Nat

abbrev SignalProgram := Program SignalStore RegistryError

def maxExpirySeconds : Nat := 2592000

def warningWindow : Nat := 720

def goldTierStake : Int := 1000000000

def maxSettlementPrice : Int := 1000000000000000000

def successThresholdBps : Int := 200

def failureThresholdBps : Int := -500

def minRoiBps : Int := -10000

def maxCleanupBatchSize : Nat := 100

def archiveThresholdSeconds : Nat := 2592000

def maxMigrationBatch : Nat := 256

namespace SignalStore

variable (store : SignalStore) (provider : Address)

def activeCount : Nat := (store.activeCounts.lookup provider).getD 0

def putCount (count : Nat) : SignalStore :=
  { store with activeCounts := store.activeCounts.insert provider count }

def incrementActive : SignalStore :=
  store.putCount provider (satCount u32Max (store.activeCount provider) 1)

def decrementActive : SignalStore :=
  if 0 < store.activeCount provider then
    store.putCount provider (store.activeCount provider - 1)
  else store

def putSignal (signalId : Nat) (signal : Signal) : SignalStore :=
  { store with signals := store.signals.insert signalId signal }

def removeSignal (signalId : Nat) : SignalStore :=
  { store with signals := store.signals.erase signalId }

def limitOf (tier : Nat) : Nat :=
  match tier with
  | 3 => store.goldSignalLimit
  | 2 => store.silverSignalLimit
  | _ => store.bronzeSignalLimit

/-- The tier of the provider's profile, or else of the provider's stake. -/
def stakeTier : Nat :=
  match store.stakeTiers.lookup provider with
  | some tier => tier
  | none =>
    let amount := (store.providerStakes.lookup provider).getD 0
    if goldTierStake ≤ amount then 3
    else if goldTierStake / 2 ≤ amount then 2
    else if goldTierStake / 10 ≤ amount then 1
    else 0

def statsOf : ProviderPerformance :=
  (store.providerStats.lookup provider).getD ⟨0, 0, 0, 0, 0, 0⟩

/-- The ids of the stored signals in ascending order. -/
def sortedIds : List Nat := store.signals.keys.insertionSort (· ≤ ·)

end SignalStore

variable (signal : Signal) (provider : Address)

def validateProviderSignalLimit (tier : Nat) : SignalProgram Unit := do
  let store ← get
  ensure (store.activeCount provider < store.limitOf tier) .signalLimitExceeded

def nextSignalId : SignalProgram Nat := do
  let counter ← orTrap (checkedCount u64Max (← get).signalCounter 1)
  modify fun store => { store with signalCounter := counter }
  pure counter

variable (store : SignalStore)

/-- The performance of a provider begins with the first signal. -/
def initializeStats : SignalStore :=
  if (store.providerStats.lookup provider).isSome then store
  else
    { store with providerStats := store.providerStats.insert provider ⟨0, 0, 0, 0, 0, 0⟩ }

def createSignalInternal (env : Env) (gates : Gates) (provider : Address) (action : SignalAction)
    (price : Int) (expiry : Nat) : SignalProgram Nat := do
  ensure (¬ gates.signalsPaused) .tradingPaused
  ensure (¬ gates.tradingPaused) .tradingPaused
  ensure (¬ gates.badAssetPair) .invalidAssetPair
  ensure (0 < price) .invalidParameter
  ensure (¬ gates.badTexts) .invalidParameter
  ensure (env.timestamp < expiry) .invalidParameter
  let store ← get
  ensure (store.banReasons.lookup provider = none) .unauthorized
  ensure (¬ gates.providerInactive) .unauthorized
  ensure (¬ gates.quotaExceeded) .submissionQuotaExceeded
  validateProviderSignalLimit provider (store.stakeTier provider)
  ensure (¬ gates.coolingDown) .cooldownNotElapsed
  ensure (¬ gates.dailyLimitReached) .signalLimitExceeded
  ensure (¬ gates.rateLimited) .rateLimitExceeded
  demand (expiry ≤ env.timestamp + maxExpirySeconds)
  let id ← nextSignalId
  demand (¬ gates.stops)
  modify (·.putSignal id ⟨id, provider, action, price, env.timestamp, env.timestamp, expiry, .active,
    0, 0, 0, 0, false⟩)
  modify (·.incrementActive provider)
  modify (initializeStats provider)
  pure id

def createSignal (env : Env) (gates : Gates) (provider : Address) (action : SignalAction)
    (price : Int) (expiry : Nat) : SignalProgram Nat := do
  demand (provider ∈ env.auths)
  createSignalInternal env gates provider action price expiry

/-- A template and its overrides come to an action, a price and hours until the expiry. -/
def submitSignalFromTemplate (env : Env) (gates : Gates) (provider : Address)
    (action : SignalAction) (price : Int) (expiryHours : Nat) : SignalProgram Nat := do
  let expiry ← orTrap (checkedCount u64Max env.timestamp (expiryHours * 60 * 60))
  createSignal env gates provider action price expiry

variable (now : Nat)

def Signal.isExpired : Prop := signal.expiry < now
deriving Decidable

/-- An account's existence cannot be asked for, so it is assumed. -/
def checkProviderExists (_provider : Address) : Bool := true

/-- A read of a signal. It expires a signal that is due, and warns once before that. -/
def getSignal (env : Env) (gates : Gates) (signalId : Nat) : SignalProgram (Option Signal) := do
  demand (¬ gates.stops)
  match (← get).signals.lookup signalId with
  | none => pure none
  | some signal =>
    if signal.status = .active ∧ ¬ checkProviderExists signal.provider then
      modify (·.putSignal signalId { signal with status := .providerDeleted })
      pure (some { signal with status := .providerDeleted })
    else
      let current :=
        if signal.status = .active ∧ signal.isExpired env.timestamp then
          { signal with status := .expired }
        else signal
      if signal.status = .active ∧ signal.isExpired env.timestamp then
        modify (·.putSignal signalId current)
        modify (·.decrementActive signal.provider)
      else pure ()
      if current.expiry - env.timestamp ≤ warningWindow ∧ ¬ current.warningEmitted then
        modify (·.putSignal signalId { current with warningEmitted := true })
        pure (some { current with warningEmitted := true })
      else pure (some current)

def clampBatch (limit : Nat) : Nat :=
  if limit = 0 ∨ maxCleanupBatchSize < limit then maxCleanupBatchSize else limit

/-- The ids that a sweep examines: as many as its budget, after the cursor and around. -/
def cursorWindow (ids : List Nat) (cursor budget : Nat) : List Nat :=
  (ids.rotate (ids.filter (· ≤ cursor)).length).take budget

/-- The signals that are found under ids and meet a test. -/
def SignalStore.select (test : Signal → Bool) (ids : List Nat) : List (Nat × Signal) :=
  ids.filterMap fun id => ((store.signals.lookup id).filter test).map (id, ·)

/-- Every active one among the signals leaves its provider's count. -/
def releaseSlots (removed : List (Nat × Signal)) (store : SignalStore) : SignalStore :=
  removed.foldl (fun store entry =>
    if entry.2.status = .active then store.decrementActive entry.2.provider else store) store

def cleanupExpiredSignals (env : Env) (gates : Gates) (limit : Nat) : SignalProgram (Nat × Nat) := do
  demand (¬ gates.stops)
  let store ← get
  let window := cursorWindow store.sortedIds store.expiryCleanupCursor (clampBatch limit)
  let expired := store.select
    (fun signal => signal.status = .active ∧ signal.isExpired env.timestamp) window
  modify fun store =>
    { store with expiryCleanupCursor := window.getLast?.getD store.expiryCleanupCursor }
  modify fun store => expired.foldl (fun store entry =>
    store.putSignal entry.1 { entry.2 with status := .expired }) store
  modify (releaseSlots expired)
  pure (window.length, expired.length)

def pruneExpiredSignals (env : Env) (gates : Gates) (caller : Address) (maxEntries : Nat) :
    SignalProgram Nat := do
  demand (caller ∈ env.auths)
  let store ← get
  ensure (caller = store.admin ∨ caller ∈ store.pruneKeepers) .unauthorized
  demand (¬ gates.stops)
  let pruned := (store.select (·.isExpired env.timestamp) store.sortedIds).take maxEntries
  modify fun store => pruned.foldl (fun store entry => store.removeSignal entry.1) store
  modify (releaseSlots pruned)
  pure pruned.length

def Signal.isArchivable : Bool :=
  (match signal.status with
    | .expired => true
    | .active => signal.isExpired now
    | _ => false) && archiveThresholdSeconds < now - signal.expiry

def archiveOldSignals (env : Env) (gates : Gates) (limit : Nat) : SignalProgram Nat := do
  demand (¬ gates.stops)
  let store ← get
  let window := cursorWindow store.sortedIds store.archiveCursor (clampBatch limit)
  let archived := store.select (·.isArchivable env.timestamp) window
  modify fun store => { store with archiveCursor := window.getLast?.getD store.archiveCursor }
  modify fun store => archived.foldl (fun store entry => store.removeSignal entry.1) store
  modify (releaseSlots archived)
  pure archived.length

def cancelSignal (env : Env) (gates : Gates) (provider : Address) (signalId : Nat) :
    SignalProgram Unit := do
  demand (provider ∈ env.auths)
  demand (¬ gates.stops)
  let signal ← orFail ((← get).signals.lookup signalId) .notFound
  ensure (signal.provider = provider) .notOwner
  ensure (signal.status = .active) .notActive
  ensure ((← get).minSignalLifetime ≤ env.timestamp - signal.submittedAt) .lifetimeNotElapsed
  modify (·.putSignal signalId { signal with status := .cancelled })
  modify (·.decrementActive provider)

def failSignal (signalId : Nat) : SignalStore :=
  match store.signals.lookup signalId with
  | none => store
  | some signal =>
    if signal.provider = provider ∧ signal.status = .active then
      store.putSignal signalId { signal with status := .failed }
    else store

def applyBan (reasonHash : String) (store : SignalStore) : SignalStore :=
  store.sortedIds.foldl (failSignal provider)
    { store with banReasons := store.banReasons.insert provider reasonHash }

def banProvider (env : Env) (gates : Gates) (caller provider : Address) (reasonHash : String) :
    SignalProgram Unit := do
  ensure (¬ gates.unauthorized) .unauthorized
  demand (caller ∈ env.auths)
  modify (applyBan provider reasonHash)
  demand (¬ gates.stops)

/-- The return of a trade in basis points, at least the loss of everything. -/
def calculateRoi (entryPrice exitPrice : Int) (action : SignalAction) : Option Int := do
  let priceDiff ← (match action with
    | .buy => i128.checkedSub exitPrice entryPrice
    | .sell => i128.checkedSub entryPrice exitPrice)
  let scaled ← i128.checkedMul priceDiff 10000
  let roi ← i128.checkedDiv scaled entryPrice
  some (if roi < minRoiBps then minRoiBps else roi)

def updateSignalStats (volume roi : Int) : Option Signal := do
  let executions ← checkedCount u32Max signal.executions 1
  let successfulExecutions ←
    (if 0 < roi then checkedCount u32Max signal.successfulExecutions 1
    else some signal.successfulExecutions)
  let totalVolume ← i128.checkedAdd signal.totalVolume volume
  let totalRoi ← i128.checkedAdd signal.totalRoi roi
  some { signal with executions, successfulExecutions, totalVolume, totalRoi }

theorem updateSignalStats_eq {signal traded : Signal} {volume roi : Int}
    (updated : updateSignalStats signal volume roi = some traded) :
    ∃ successfulExecutions, traded = { signal with
      executions := signal.executions + 1
      successfulExecutions
      totalVolume := signal.totalVolume + volume
      totalRoi := signal.totalRoi + roi } := by
  unfold updateSignalStats at updated
  obtain ⟨executions, counted, rest⟩ := Option.bind_eq_some_iff.mp updated
  obtain ⟨successes, _, rest⟩ := Option.bind_eq_some_iff.mp rest
  obtain ⟨totalVolume, summed, rest⟩ := Option.bind_eq_some_iff.mp rest
  obtain ⟨totalRoi, added, rest⟩ := Option.bind_eq_some_iff.mp rest
  obtain ⟨_, rfl⟩ := (checkedCount_eq_some _ _ _ _).mp counted
  obtain ⟨_, rfl⟩ := i128.checked_ok summed
  obtain ⟨_, rfl⟩ := i128.checked_ok added
  exact ⟨successes, (Option.some.inj rest).symm⟩

def evaluateSignalStatus : SignalStatus :=
  if signal.expiry < now ∧ signal.executions = 0 then .failed
  else if signal.executions = 0 then signal.status
  else
    let avgRoi := signal.totalRoi.tdiv signal.executions
    if successThresholdBps < avgRoi then .successful
    else if avgRoi < failureThresholdBps then .failed
    else .active

def getSignalAverageRoi : Int :=
  if signal.executions = 0 then 0 else signal.totalRoi.tdiv signal.executions

def shouldUpdateProviderStats (oldStatus newStatus : SignalStatus) : Bool :=
  oldStatus ≠ newStatus ∧ (newStatus = .successful ∨ newStatus = .failed)

/-- The rolling average of returns, which starts over where it overflows. -/
def rollingAverage (avgReturn signalRoi : Int) (count : Nat) : Int :=
  let oldTotal := (i128.checkedMul avgReturn (count - 1)).getD 0
  ((i128.checkedAdd oldTotal signalRoi).getD oldTotal).tdiv count

/-- A signal that goes from open to closed is counted. -/
def updateProviderPerformance (stats : ProviderPerformance) (oldStatus newStatus : SignalStatus)
    (signalRoi signalVolume : Int) : Option ProviderPerformance :=
  if ¬ ((oldStatus = .active ∨ oldStatus = .pending) ∧
      (newStatus = .successful ∨ newStatus = .failed)) then some stats
  else do
    let totalSignals ← checkedCount u32Max stats.totalSignals 1
    let successfulSignals ←
      (if newStatus = .successful then checkedCount u32Max stats.successfulSignals 1
      else some stats.successfulSignals)
    let failedSignals ←
      (if newStatus = .failed then checkedCount u32Max stats.failedSignals 1
      else some stats.failedSignals)
    let successRate := successfulSignals * 10000 / totalSignals % 2 ^ 32
    let avgReturn := rollingAverage stats.avgReturn signalRoi totalSignals
    let totalVolume ← i128.checkedAdd stats.totalVolume signalVolume
    some ⟨totalSignals, successfulSignals, failedSignals, successRate, avgReturn, totalVolume⟩

/-- A signal that changed to a closed status is brought to its provider's performance. -/
def recordPerformance (oldStatus : SignalStatus) (updated : Signal) : SignalProgram Unit :=
  if shouldUpdateProviderStats oldStatus updated.status then do
    let stats ← orTrap (updateProviderPerformance ((← get).statsOf updated.provider) oldStatus
      updated.status (getSignalAverageRoi updated) updated.totalVolume)
    modify fun store =>
      { store with providerStats := store.providerStats.insert updated.provider stats }
  else pure ()

def recordTradeExecution (env : Env) (gates : Gates) (executor : Address) (signalId : Nat)
    (entryPrice exitPrice volume : Int) : SignalProgram Unit := do
  ensure (¬ gates.tradingPaused) .tradingPaused
  demand (executor ∈ env.auths)
  ensure (¬ gates.rateLimited) .tradingPaused
  ensure (0 < entryPrice ∧ 0 < exitPrice) .invalidPrice
  ensure (0 < volume) .invalidVolume
  ensure (entryPrice ≤ maxSettlementPrice ∧ exitPrice ≤ maxSettlementPrice) .oraclePriceOutOfBounds
  let signal ← orFail ((← get).signals.lookup signalId) .signalNotFound
  let roi ← orTrap (calculateRoi entryPrice exitPrice signal.action)
  let traded ← orTrap (updateSignalStats signal volume roi)
  let newStatus := evaluateSignalStatus traded env.timestamp
  let updated := { traded with status := newStatus }
  modify (·.putSignal signalId updated)
  if signal.status = .active ∧ newStatus ≠ .active then modify (·.decrementActive signal.provider)
  else pure ()
  recordPerformance signal.status updated
  demand (¬ gates.stops)

def v1ToV2 (signal : SignalV1) : Signal :=
  ⟨signal.id, signal.provider, signal.action, signal.price, signal.timestamp, signal.timestamp,
    signal.expiry, signal.status, signal.executions, signal.successfulExecutions,
    signal.totalVolume, signal.totalRoi, false⟩

/-- A legacy record moves, if it stands under its own id. -/
def migrateSignal (id : Nat) : SignalStore :=
  match store.signalsV1.lookup id with
  | none => store
  | some signal =>
    if signal.id = id then
      { store.putSignal id (v1ToV2 signal) with signalsV1 := store.signalsV1.erase id }
    else store

/-- A legacy record is left among the numbered ones. -/
def SignalStore.hasV1 (maxId : Nat) : Bool :=
  store.signalsV1.keys.any fun id => 1 ≤ id && id ≤ maxId

/-- The last id that a batch scans. -/
def SignalStore.scanTo (batchSize : Nat) : Nat :=
  min (max store.migrationCursor 1 + (batchSize - 1)) store.signalCounter

def SignalStore.batchIds (batchSize : Nat) : List Nat :=
  List.range' (max store.migrationCursor 1)
    (store.scanTo batchSize + 1 - max store.migrationCursor 1)

def migrateSignalsV1ToV2 (env : Env) (gates : Gates) (caller : Address) (batchSize : Nat) :
    SignalProgram Unit := do
  ensure (¬ gates.unauthorized) .unauthorized
  demand (caller ∈ env.auths)
  let store ← get
  ensure (store.schemaVersion = 1 ∨ store.schemaVersion = 2) .incompatibleStorageLayout
  ensure (0 < batchSize ∧ batchSize ≤ maxMigrationBatch) .invalidParameter
  demand (¬ gates.stops)
  let maxId := store.signalCounter
  if maxId = 0 then pure ()
  else if ¬ store.hasV1 maxId then
    modify fun store => { store with migrationCursor := maxId + 1 }
  else
    modify fun store => (store.batchIds batchSize).foldl migrateSignal store
    modify fun after => { after with migrationCursor := store.scanTo batchSize + 1 }
    if maxId ≤ store.scanTo batchSize ∧ ¬ (← get).hasV1 maxId then
      modify fun store => { store with migrationCursor := maxId + 1, schemaVersion := 2 }
    else pure ()

inductive SignalCall where
  | creates (provider : Address) (action : SignalAction) (price : Amount) (expiry : Nat)
  | createsFromTemplate (provider : Address) (action : SignalAction) (price : Amount)
      (expiryHours : Nat)
  | gets (signalId : Nat)
  | records (executor : Address) (signalId : Nat) (entryPrice exitPrice volume : Amount)
  | cancels (provider : Address) (signalId : Nat)
  | bans (caller provider : Address) (reasonHash : String)
  | cleansUp (limit : Nat)
  | prunes (caller : Address) (maxEntries : Nat)
  | archives (limit : Nat)
  | migrates (caller : Address) (batchSize : Nat)

structure SignalInput where
  arrival : Arrival
  gates : Gates
  call : SignalCall

def SignalCall.run (env : Env) (gates : Gates) : SignalCall → SignalProgram Unit
  | .creates provider action price expiry =>
    discard (createSignal env gates provider action price expiry)
  | .createsFromTemplate provider action price expiryHours =>
    discard (submitSignalFromTemplate env gates provider action price expiryHours)
  | .gets signalId => discard (getSignal env gates signalId)
  | .records executor signalId entryPrice exitPrice volume =>
    recordTradeExecution env gates executor signalId entryPrice exitPrice volume
  | .cancels provider signalId => cancelSignal env gates provider signalId
  | .bans caller provider reasonHash => banProvider env gates caller provider reasonHash
  | .cleansUp limit => discard (cleanupExpiredSignals env gates limit)
  | .prunes caller maxEntries => discard (pruneExpiredSignals env gates caller maxEntries)
  | .archives limit => discard (archiveOldSignals env gates limit)
  | .migrates caller batchSize => migrateSignalsV1ToV2 env gates caller batchSize

def signalStep (input : SignalInput) (ledger : Ledger SignalStore) : Ledger SignalStore :=
  ledger.call input.arrival fun env => input.call.run env input.gates

abbrev SignalTransition := Runs.Transition (Ledger SignalStore) SignalInput

namespace SignalTransition

variable (taken : SignalTransition)

def env : Env := taken.pre.env taken.input.arrival

def Returned : Prop :=
  Accepts (taken.input.call.run taken.env taken.input.gates) taken.pre.store
deriving Decidable

end SignalTransition

/-- A trade would make a closed signal active again. -/
def SignalStore.reopens (signalId : Nat) (entryPrice exitPrice volume : Int) : Bool :=
  match store.signals.lookup signalId with
  | none => false
  | some signal =>
    signal.status ≠ .active ∧
      (((calculateRoi entryPrice exitPrice signal.action).bind
        (updateSignalStats signal volume)).map (evaluateSignalStatus · now)) = some .active

end StellarSwipe.SignalRegistry
