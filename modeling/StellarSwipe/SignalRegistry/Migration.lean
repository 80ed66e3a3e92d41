import Mathlib.Data.List.Infix
import Mathlib.Logic.Function.Basic
import StellarSwipe.SignalRegistry.Signals

/-!
# Migration of the legacy signals

Batches move the legacy records in the order of their ids, from a cursor on, while signals are
created, traded, cancelled and swept.
-/

namespace StellarSwipe.SignalRegistry

open FixedWidth Program Runs Table SignalStore List

inductive SignalCategory where
  | scalp
  | swing
  | longTerm
  | arbitrage
  | premium

inductive RiskLevel where
  | low
  | medium
  | high

/-- What a record of either kind says besides. -/
structure SignalDetails where
  assetPair : String
  rationale : String
  category : SignalCategory
  tags : List String
  riskLevel : RiskLevel
  isCollaborative : Bool

structure MigrationSnapshot where
  recordCount : Nat
  totalVolumeSum : Int
deriving DecidableEq

structure MigrationVerification where
  verified : Bool
  pre : MigrationSnapshot
  post : MigrationSnapshot
deriving DecidableEq

/-- The registry with what its records say besides and what the migration notes. -/
structure MigrationStore where
  registry : SignalStore
  details : Nat → SignalDetails
  detailsV1 : Nat → SignalDetails
  v1TargetTotal : Option Nat
  preSnapshot : Option MigrationSnapshot
  verification : Option MigrationVerification

abbrev MigrationProgram := Program MigrationStore RegistryError

def onRegistry {α : Type} (program : SignalProgram α) : MigrationProgram α :=
  zoom MigrationStore.registry (fun registry store => { store with registry }) id
    program

def snapshotOf (volumes : List Int) : MigrationSnapshot :=
  volumes.foldl (fun snapshot volume =>
    ⟨satCount u32Max snapshot.recordCount 1,
      i128.saturatingAdd snapshot.totalVolumeSum volume⟩) ⟨0, 0⟩

/-- The volumes of the legacy records up to an id, in the order of their ids. -/
def volumesV1 (v1 : Table Nat SignalV1) (maxId : Nat) : List Int :=
  (List.range' 1 maxId).filterMap fun id => (v1.lookup id).map (·.totalVolume)

def volumesV2 (v2 : Table Nat Signal) (maxId : Nat) : List Int :=
  (List.range' 1 maxId).filterMap fun id => (v2.lookup id).map (·.totalVolume)

def snapshotV1 (v1 : Table Nat SignalV1) (maxId : Nat) : MigrationSnapshot :=
  snapshotOf (volumesV1 v1 maxId)

def snapshotV2 (v2 : Table Nat Signal) (maxId : Nat) : MigrationSnapshot :=
  snapshotOf (volumesV2 v2 maxId)

def countV1Keys (v1 : Table Nat SignalV1) (maxId : Nat) : Nat := (snapshotV1 v1 maxId).recordCount

def reconcile (pre post : MigrationSnapshot) : MigrationVerification := ⟨pre = post, pre, post⟩

/-- A legacy record moves, if it stands under its own id. -/
def migrateRecord (store : MigrationStore) (id : Nat) : MigrationStore :=
  match store.registry.signalsV1.lookup id with
  | none => store
  | some signal =>
    if signal.id = id then
      { store with
        registry := { store.registry.putSignal id (v1ToV2 signal) with
          signalsV1 := store.registry.signalsV1.erase id }
        details := Function.update store.details id (store.detailsV1 id) }
    else store

namespace MigrationStore

variable (store : MigrationStore)

def setMigrationCursor (cursor : Nat) : MigrationStore :=
  { store with registry := { store.registry with migrationCursor := cursor } }

/-- The first batch notes how many records there are to move, and their snapshot. -/
def beginMigration (maxId : Nat) : MigrationStore :=
  match store.v1TargetTotal with
  | some _ => store
  | none =>
    { store with
      v1TargetTotal := some (countV1Keys store.registry.signalsV1 maxId)
      preSnapshot := some (snapshotV1 store.registry.signalsV1 maxId) }

/-- The last batch notes the new schema and whether the snapshots agree. -/
def finishMigration (maxId : Nat) : MigrationStore :=
  { store with
    registry := { store.registry with migrationCursor := maxId + 1, schemaVersion := 2 }
    verification :=
      match store.preSnapshot with
      | none => store.verification
      | some pre => some (reconcile pre (snapshotV2 store.registry.signals maxId)) }

def migrateBatch (ids : List Nat) : MigrationStore := ids.foldl migrateRecord store

end MigrationStore

/-- The migration with its snapshots. -/
def migrateVerified (env : Env) (gates : Gates) (caller : Address) (batchSize : Nat) :
    MigrationProgram Unit := do
  ensure (¬ gates.unauthorized) .unauthorized
  demand (caller ∈ env.auths)
  let store ← get
  ensure (store.registry.schemaVersion = 1 ∨ store.registry.schemaVersion = 2)
    .incompatibleStorageLayout
  ensure (0 < batchSize ∧ batchSize ≤ maxMigrationBatch) .invalidParameter
  demand (¬ gates.stops)
  let maxId := store.registry.signalCounter
  if maxId = 0 then pure ()
  else if countV1Keys store.registry.signalsV1 maxId = 0 then
    modify (·.setMigrationCursor (maxId + 1))
  else
    modify (·.beginMigration maxId)
    modify (·.migrateBatch (store.registry.batchIds batchSize))
    modify (·.setMigrationCursor (store.registry.scanTo batchSize + 1))
    if maxId ≤ store.registry.scanTo batchSize ∧
        countV1Keys (← get).registry.signalsV1 maxId = 0 then
      modify (·.finishMigration maxId)
    else pure ()

def deduplicateTags (tags : List String) : List String :=
  tags.foldl (fun unique tag => if tag ∈ unique then unique else unique ++ [tag]) []

/-- What a new signal says besides. -/
def SignalDetails.created (details : SignalDetails) : SignalDetails :=
  { details with tags := deduplicateTags details.tags, isCollaborative := false }

/-- A program that creates a signal, and what that signal says besides. -/
def creating (details : SignalDetails) (program : SignalProgram Nat) : MigrationProgram Unit := do
  let id ← onRegistry program
  modify fun store =>
    { store with details := Function.update store.details id details.created }

def runMigration (env : Env) (gates : Gates) (details : SignalDetails) :
    SignalCall → MigrationProgram Unit
  | .creates provider action price expiry =>
    creating details (createSignal env gates provider action price expiry)
  | .createsFromTemplate provider action price expiryHours =>
    creating details (submitSignalFromTemplate env gates provider action price expiryHours)
  | .migrates caller batchSize => migrateVerified env gates caller batchSize
  | call => onRegistry (call.run env gates)

structure MigrationInput where
  arrival : Arrival
  gates : Gates
  call : SignalCall
  details : SignalDetails

def migrationStep (input : MigrationInput) (ledger : Ledger MigrationStore) :
    Ledger MigrationStore :=
  ledger.call input.arrival fun env => runMigration env input.gates input.details input.call

namespace MigrationStore

variable (store : MigrationStore)

/-- A stored signal with what it says besides. -/
def record (id : Nat) : Option (Signal × SignalDetails) :=
  (store.registry.signals.lookup id).map (·, store.details id)

def recordV1 (id : Nat) : Option (SignalV1 × SignalDetails) :=
  (store.registry.signalsV1.lookup id).map (·, store.detailsV1 id)

end MigrationStore

/-- A legacy record as it is stored after it moved. -/
def moved (legacy : SignalV1 × SignalDetails) : Signal × SignalDetails :=
  (v1ToV2 legacy.1, legacy.2)

section Snapshots

/-- A snapshot grows by one volume at a time. -/
theorem snapshotOf_concat (volumes : List Int) (volume : Int) : snapshotOf (volumes ++ [volume]) =
      ⟨satCount u32Max (snapshotOf volumes).recordCount 1,
        i128.saturatingAdd (snapshotOf volumes).totalVolumeSum volume⟩ := by
  rw [snapshotOf, foldl_append]
  rfl

/-- A snapshot counts its volumes, up to the largest number it can hold. -/
theorem snapshotOf_count (volumes : List Int) :
    (snapshotOf volumes).recordCount = min volumes.length u32Max := by
  induction volumes using List.reverseRecOn with
  | nil => rfl
  | append_singleton front volume ih =>
    rw [snapshotOf_concat, length_append]
    show satCount u32Max (snapshotOf front).recordCount 1 = _
    rw [ih, saturating_count_min]
    rfl

/-- Neither the count nor a running sum of the volumes leaves its type. -/
def Summable (volumes : List Int) : Prop :=
  volumes.length ≤ u32Max ∧ ∀ front ∈ volumes.inits, i128.Holds front.sum
deriving Decidable

/-- Within its types a snapshot is the number of the records and the sum of their volumes. The
induction is on the records from the last one. -/
theorem snapshotOf_summable {volumes : List Int} (summable : Summable volumes) :
    snapshotOf volumes = ⟨volumes.length, volumes.sum⟩ := by
  obtain ⟨few, holds⟩ := summable
  have count := snapshotOf_count volumes
  rw [Nat.min_eq_left few] at count
  suffices sum : ∀ front, front <+: volumes → (snapshotOf front).totalVolumeSum = front.sum by
    rw [← count, ← sum volumes (prefix_refl _)]
  intro front taken
  induction front using List.reverseRecOn with
  | nil => rfl
  | append_singleton front volume ih =>
    have within := holds _ ((mem_inits _ _).mpr taken)
    rw [sum_append, sum_singleton] at within ⊢
    rw [snapshotOf_concat]
    show i128.saturatingAdd (snapshotOf front).totalVolumeSum volume = _
    rw [ih ((prefix_append _ _).trans taken), Range.saturatingAdd, Range.clamp_of_holds _ within]

/-- No legacy record is counted when none stands. -/
theorem countV1Keys_eq_zero {v1 : Table Nat SignalV1} {maxId : Nat} :
    countV1Keys v1 maxId = 0 ↔ ∀ id, 1 ≤ id → id ≤ maxId → v1.lookup id = none := by
  have pos : 0 < u32Max := by decide
  have empty : countV1Keys v1 maxId = 0 ↔ volumesV1 v1 maxId = [] := by
    rw [countV1Keys, snapshotV1, snapshotOf_count, ← length_eq_zero_iff]
    omega
  rw [empty, volumesV1, filterMap_eq_nil_iff]
  constructor
  · intro none id above below
    simpa using none id (List.mem_range'_1.mpr ⟨above, by omega⟩)
  · intro none id mem
    obtain ⟨above, below⟩ := List.mem_range'_1.mp mem
    rw [none id above (by omega)]
    rfl

end Snapshots

section Batches

variable {store after : MigrationStore} {ids : List Nat}

/-- Legacy records stand under their own ids. -/
def MigrationStore.OwnIds (store : MigrationStore) : Prop :=
  ∀ id signal, store.registry.signalsV1.lookup id = some signal → signal.id = id

theorem recordV1_eq_none {id : Nat} :
    store.recordV1 id = none ↔ store.registry.signalsV1.lookup id = none := by
  simp [MigrationStore.recordV1]

/-- A legacy record is gone from its id alone. -/
theorem migrateRecord_recordV1 (own : store.OwnIds) (id tested : Nat) :
    (migrateRecord store id).recordV1 tested =
      if tested = id then none else store.recordV1 tested := by
  unfold migrateRecord
  split
  next absent =>
    split
    next same => rw [same, recordV1_eq_none.mpr absent]
    next => rfl
  next signal hit =>
    rw [if_pos (own id signal hit)]
    simp only [MigrationStore.recordV1, lookup_erase]
    split <;> rfl

/-- A legacy record arrives under its id, unless one is stored there. -/
theorem migrateRecord_record (own : store.OwnIds) (id tested : Nat) :
    (migrateRecord store id).record tested =
      if tested = id then ((store.recordV1 id).map moved).or (store.record id)
      else store.record tested := by
  unfold migrateRecord
  split
  next absent =>
    split
    next same => rw [same, recordV1_eq_none.mpr absent, Option.map_none, Option.none_or]
    next => rfl
  next signal hit =>
    rw [if_pos (own id signal hit)]
    simp only [MigrationStore.record, MigrationStore.recordV1, putSignal, lookup_insert]
    split
    next same => simp [same, hit, moved]
    next differ => rw [Function.update_of_ne differ]

/-- Legacy records stay under their own ids. -/
theorem migrateRecord_own (own : store.OwnIds) (id : Nat) : (migrateRecord store id).OwnIds := by
  intro tested signal left
  unfold migrateRecord at left
  split at left
  next => exact own tested signal left
  next other hit =>
    rw [if_pos (own id other hit), lookup_erase] at left
    split at left
    next => cases left
    next => exact own tested signal left

/-- A batch over some ids takes the legacy records under them, and stores each. -/
structure Batched (ids : List Nat) (pre after : MigrationStore) : Prop where
  left : ∀ id, after.recordV1 id = if id ∈ ids then none else pre.recordV1 id
  has : ∀ id, after.record id =
    if id ∈ ids then ((pre.recordV1 id).map moved).or (pre.record id) else pre.record id
  rest : ∃ signals signalsV1 details, after = { pre with
    registry := { pre.registry with signals, signalsV1 }
    details }

/-- The induction is on the ids that the batch scans. -/
theorem migrateBatch_spec (own : store.OwnIds) (ids : List Nat) :
    Batched ids store (store.migrateBatch ids) := by
  induction ids generalizing store with
  | nil => exact ⟨fun _ => rfl, fun _ => rfl, _, _, _, rfl⟩
  | cons id rest ih =>
    obtain ⟨left, has, signals, signalsV1, details, same⟩ :=
      ih (migrateRecord_own own id)
    refine ⟨fun tested => (left tested).trans ?_, fun tested => (has tested).trans ?_, ?_⟩
    · rw [migrateRecord_recordV1 own]
      by_cases first : tested = id <;> by_cases later : tested ∈ rest <;> simp [first, later]
    · rw [migrateRecord_recordV1 own, migrateRecord_record own]
      by_cases first : tested = id <;> by_cases later : tested ∈ rest <;> simp [first, later]
    · refine ⟨signals, signalsV1, details, same.trans ?_⟩
      unfold migrateRecord
      split
      next => rfl
      next signal hit =>
        rw [if_pos (own id signal hit)]
        rfl

end Batches

/-- The legacy records and the cursor stay, and signals appear only under ids that were given
out meanwhile. -/
structure Undisturbed (pre after : SignalStore) : Prop where
  legacy : after.signalsV1 = pre.signalsV1
  cursor : after.migrationCursor = pre.migrationCursor
  issued : pre.signalCounter ≤ after.signalCounter
  fresh : ∀ id, pre.signals.lookup id = none → after.signals.lookup id = none ∨
    pre.signalCounter < id ∧ id ≤ after.signalCounter

namespace Undisturbed

variable {pre middle after : SignalStore}

variable (store : SignalStore)

theorem refl : Undisturbed store store :=
  ⟨rfl, rfl, le_rfl, fun _ absent => .inl absent⟩

theorem trans (first : Undisturbed pre middle) (second : Undisturbed middle after) :
    Undisturbed pre after where
  legacy := second.legacy.trans first.legacy
  cursor := second.cursor.trans first.cursor
  issued := first.issued.trans second.issued
  fresh id absent := by
    rcases first.fresh id absent with still | ⟨above, below⟩
    · rcases second.fresh id still with last | ⟨above, below⟩
      · exact .inl last
      · exact .inr ⟨first.issued.trans_lt above, below⟩
    · exact .inr ⟨above, below.trans second.issued⟩

theorem of_same (legacy : after.signalsV1 = pre.signalsV1)
    (cursor : after.migrationCursor = pre.migrationCursor)
    (counter : after.signalCounter = pre.signalCounter)
    (signals : after.signals = pre.signals) : Undisturbed pre after :=
  ⟨legacy, cursor, counter.ge, fun _ absent => .inl (signals ▸ absent)⟩

theorem put {id : Nat} {old : Signal} (hit : pre.signals.lookup id = some old)
    (signal : Signal) : Undisturbed pre (pre.putSignal id signal) := by
  refine ⟨rfl, rfl, le_rfl, fun tested absent => .inl ?_⟩
  rw [putSignal, lookup_insert]
  split
  next same =>
    rw [same, hit] at absent
    cases absent
  next => exact absent

theorem remove (id : Nat) : Undisturbed store (store.removeSignal id) := by
  refine ⟨rfl, rfl, le_rfl, fun tested absent => .inl ?_⟩
  rw [removeSignal, lookup_erase]
  split
  next => rfl
  next => exact absent

variable (provider : Address)

theorem decrement : Undisturbed store (store.decrementActive provider) := by
  unfold decrementActive
  split
  next => exact of_same rfl rfl rfl rfl
  next => exact refl store

theorem initialized : Undisturbed store (initializeStats provider store) := by
  unfold initializeStats
  split
  next => exact refl store
  next => exact of_same rfl rfl rfl rfl

theorem create (store : SignalStore) (signal : Signal) (provider : Address) :
    Undisturbed store (({ store with signalCounter := store.signalCounter + 1 }.putSignal
      (store.signalCounter + 1) signal).incrementActive provider) := by
  refine ⟨rfl, rfl, Nat.le_succ _, fun tested absent => ?_⟩
  by_cases new : tested = store.signalCounter + 1
  · exact .inr ⟨by omega, new.le⟩
  · exact .inl ((lookup_insert _ _ _ _).trans ((if_neg new).trans absent))

theorem sweep {ι : Type} {change : SignalStore → ι → SignalStore}
    (each : ∀ store entry, Undisturbed store (change store entry)) (entries : List ι)
    (store : SignalStore) : Undisturbed store (entries.foldl change store) := by
  induction entries generalizing store with
  | nil => exact refl store
  | cons entry rest ih =>
    exact (each store entry).trans (ih (change store entry))

theorem rewrite {entries : List (Nat × Signal)} (change : Signal → Signal) {store : SignalStore}
    (has : ∀ entry ∈ entries, store.signals.lookup entry.1 ≠ none) :
    Undisturbed store (entries.foldl (fun store entry =>
      store.putSignal entry.1 (change entry.2)) store) := by
  induction entries generalizing store with
  | nil => exact refl store
  | cons entry rest ih =>
    obtain ⟨old, hit⟩ := Option.ne_none_iff_exists'.mp (has entry mem_cons_self)
    refine (put hit (change entry.2)).trans (ih fun other mem => ?_)
    rw [putSignal, lookup_insert]
    split
    next => exact Option.some_ne_none _
    next => exact has other (mem_cons_of_mem _ mem)

theorem release (removed : List (Nat × Signal)) (store : SignalStore) :
    Undisturbed store (releaseSlots removed store) := by
  refine sweep (fun store entry => ?_) removed store
  split
  next => exact decrement store _
  next => exact refl store

theorem failing (store : SignalStore) (id : Nat) :
    Undisturbed store (failSignal provider store id) := by
  unfold failSignal
  cases hit : store.signals.lookup id with
  | none => exact refl store
  | some signal =>
    dsimp only
    split
    next => exact put hit _
    next => exact refl store

end Undisturbed

section Calls

variable {env : Env} {gates : Gates} {store : SignalStore} {action : SignalAction}

/-- A creation writes under the next id only. -/
theorem createSignal_undisturbed {provider : Address} {price : Int} {expiry : Nat} :
    wlp (createSignal env gates provider action price expiry)
      (fun id after => Undisturbed store after ∧ id = store.signalCounter + 1 ∧
        ∀ other, other ≠ id → after.signals.lookup other = store.signals.lookup other) store := by
  unfold createSignal createSignalInternal validateProviderSignalLimit nextSignalId
  simp only [wlp_rules, checkedCount_eq_some]
  rintro _ _ _ _ _ _ _ _ _ _ _ _ _ _ _ counter ⟨_, rfl⟩ _
  refine ⟨(Undisturbed.create store _ provider).trans (Undisturbed.initialized _ provider), rfl,
    fun other differ => ?_⟩
  unfold initializeStats
  split <;> exact (lookup_insert _ _ _ _).trans (if_neg differ)

/-- Every call but the migration and those that create leaves the counter too. -/
theorem run_undisturbed (call : SignalCall) (other : ∀ caller batchSize,
    call ≠ .migrates caller batchSize) :
    wlp (call.run env gates) (fun _ after => Undisturbed store after) store := by
  cases call with
  | creates provider action price expiry =>
    simp only [SignalCall.run, wp_discard]
    exact wp_then createSignal_undisturbed (fun _ _ kept => kept.1)
  | createsFromTemplate provider action price expiryHours =>
    simp only [SignalCall.run, wlp_rules, submitSignalFromTemplate]
    exact fun _ _ =>
      wp_then createSignal_undisturbed (fun _ _ kept => kept.1)
  | gets signalId =>
    simp only [SignalCall.run, wp_discard]
    unfold getSignal
    simp only [wlp_rules]
    intro _
    cases hit : store.signals.lookup signalId with
    | none => exact Undisturbed.refl store
    | some signal =>
      have put (written : Signal) : Undisturbed store (store.putSignal signalId written) :=
        Undisturbed.put hit written
      have closed (written : Signal) := (put written).trans
        (Undisturbed.decrement _ signal.provider)
      have still (written : Signal) : ((store.putSignal signalId written).decrementActive
          signal.provider).signals.lookup signalId = some written := by
        unfold decrementActive
        split <;> exact AList.lookup_insert _
      simp only [checkProviderExists, not_true_eq_false, and_false, wp_ite, wp_rules, false_implies,
        not_false_eq_true, true_implies, true_and]
      exact ⟨fun _ => ⟨fun _ => (closed _).trans (Undisturbed.put (still _) _), fun _ => closed _⟩,
        fun _ => ⟨fun _ => put _, fun _ => Undisturbed.refl store⟩⟩
  | records executor signalId entryPrice exitPrice volume =>
    unfold SignalCall.run recordTradeExecution recordPerformance
    simp only [wlp_rules, wp_ite]
    rintro _ _ _ _ _ _ signal hit _ _ traded _
    have put (written : Signal) : Undisturbed store (store.putSignal signalId written) :=
      Undisturbed.put hit written
    refine ⟨fun _ => ⟨fun _ _ _ _ => ?_, fun _ _ => ?_⟩,
      fun _ => ⟨fun _ _ _ _ => ?_, fun _ _ => ?_⟩⟩
    · exact ((put _).trans (Undisturbed.decrement _ _)).trans (Undisturbed.of_same rfl rfl rfl rfl)
    · exact (put _).trans (Undisturbed.decrement _ _)
    · exact (put _).trans (Undisturbed.of_same rfl rfl rfl rfl)
    · exact put _
  | cancels provider signalId =>
    unfold SignalCall.run cancelSignal
    simp only [wlp_rules]
    exact fun _ _ signal hit _ _ _ =>
      (Undisturbed.put hit _).trans (Undisturbed.decrement _ _)
  | bans caller provider reasonHash =>
    unfold SignalCall.run banProvider applyBan
    simp only [wlp_rules]
    intro _ _ _
    have reasoned (reasons : Table Address String) :
        Undisturbed store { store with banReasons := reasons } :=
      Undisturbed.of_same rfl rfl rfl rfl
    exact (reasoned _).trans (Undisturbed.sweep (Undisturbed.failing provider) _ _)
  | cleansUp limit =>
    simp only [SignalCall.run, wp_discard]
    unfold cleanupExpiredSignals
    simp only [wlp_rules]
    intro _
    have swept (cursor : Nat) :
        Undisturbed store { store with expiryCleanupCursor := cursor } :=
      Undisturbed.of_same rfl rfl rfl rfl
    refine ((swept _).trans (Undisturbed.rewrite
      (fun signal => { signal with status := .expired }) fun entry mem => ?_)).trans
        (Undisturbed.release _ _)
    obtain ⟨id, _, kept⟩ := List.mem_filterMap.mp mem
    obtain ⟨signal, passed, rfl⟩ := Option.map_eq_some_iff.mp kept
    exact Option.ne_none_iff_exists'.mpr ⟨signal, Option.eq_some_of_filter_eq_some passed⟩
  | prunes caller maxEntries =>
    simp only [SignalCall.run, wp_discard]
    unfold pruneExpiredSignals
    simp only [wlp_rules]
    exact fun _ _ _ =>
      (Undisturbed.sweep (fun store entry => Undisturbed.remove store _) _ _).trans
        (Undisturbed.release _ _)
  | archives limit =>
    simp only [SignalCall.run, wp_discard]
    unfold archiveOldSignals
    simp only [wlp_rules]
    have swept (cursor : Nat) : Undisturbed store { store with archiveCursor := cursor } :=
      Undisturbed.of_same rfl rfl rfl rfl
    exact fun _ => ((swept _).trans
      (Undisturbed.sweep (fun store entry => Undisturbed.remove store _) _ _)).trans
        (Undisturbed.release _ _)
  | migrates caller batchSize => exact absurd rfl (other caller batchSize)

/-- What every call but the migration leaves. -/
structure Aside (pre after : MigrationStore) : Prop where
  registry : Undisturbed pre.registry after.registry
  detailsV1 : after.detailsV1 = pre.detailsV1
  v1TargetTotal : after.v1TargetTotal = pre.v1TargetTotal
  preSnapshot : after.preSnapshot = pre.preSnapshot
  verification : after.verification = pre.verification

/-- No call beside the migration touches a legacy record. -/
theorem Aside.recordV1 {pre after : MigrationStore} (aside : Aside pre after) (id : Nat) :
    after.recordV1 id = pre.recordV1 id := by
  rw [MigrationStore.recordV1, aside.registry.legacy, aside.detailsV1, MigrationStore.recordV1]

/-- A creation leaves every stored record as it is. -/
theorem creating_spec {store : MigrationStore} {details : SignalDetails} {provider : Address}
    {action : SignalAction} {price : Int} {expiry : Nat} :
    wp (creating details (createSignal env gates provider action price expiry))
      (fun _ after => Aside store after ∧
        ∀ id, id ≤ store.registry.signalCounter → after.record id = store.record id)
      (fun _ _ => True) store := by
  unfold creating onRegistry
  rw [wp_bind, wp_zoom]
  refine wp_mono createSignal_undisturbed (fun id after kept => ?_) fun reason _ _ => ?_
  · obtain ⟨undisturbed, rfl, elsewhere⟩ := kept
    refine ⟨⟨undisturbed, rfl, rfl, rfl, rfl⟩, fun id given => ?_⟩
    have other : id ≠ store.registry.signalCounter + 1 := by omega
    simp only [MigrationStore.record, elsewhere id other, Function.update_of_ne other]
  · cases reason <;> exact trivial

variable {details : SignalDetails}

theorem creatingFromTemplate_spec {store : MigrationStore} {provider : Address} {price : Int}
    {expiryHours : Nat} :
    wp (creating details (submitSignalFromTemplate env gates provider action price expiryHours))
      (fun _ after => Aside store after ∧
        ∀ id, id ≤ store.registry.signalCounter → after.record id = store.record id)
      (fun _ _ => True) store := by
  unfold creating onRegistry submitSignalFromTemplate
  rw [wp_bind, wp_zoom]
  simp only [wlp_rules, Fault.holds_trap]
  intro expiry _
  have created := @creating_spec env gates store details provider action price expiry
  rwa [creating, onRegistry, wp_bind, wp_zoom] at created

/-- Every call but the migration keeps what the migration has noted. -/
theorem runMigration_aside {store : MigrationStore} (call : SignalCall)
    (other : ∀ caller batchSize, call ≠ .migrates caller batchSize) :
    wp (runMigration env gates details call) (fun _ after => Aside store after)
      (fun _ _ => True) store := by
  have rest := @run_undisturbed env gates store.registry call other
  have aside : wp (onRegistry (call.run env gates)) (fun _ after => Aside store after)
      (fun _ _ => True) store := by
    rw [onRegistry, wp_zoom]
    refine wp_mono rest (fun _ _ undisturbed => ⟨undisturbed, rfl, rfl, rfl, rfl⟩)
      fun reason _ _ => ?_
    cases reason <;> exact trivial
  cases call with
  | creates provider action price expiry =>
    exact wp_then creating_spec (fun _ _ kept => kept.1)
  | createsFromTemplate provider action price expiryHours =>
    exact wp_then creatingFromTemplate_spec (fun _ _ kept => kept.1)
  | migrates caller batchSize => exact absurd rfl (other caller batchSize)
  | _ => exact aside

end Calls

section Steps

variable {env : Env} {gates : Gates} {store after : MigrationStore} {batchSize : Nat}

/-- The storage when a batch has moved its records and the cursor. -/
def MigrationStore.batched (store : MigrationStore) (batchSize : Nat) : MigrationStore :=
  ((store.beginMigration store.registry.signalCounter).migrateBatch
    (store.registry.batchIds batchSize)).setMigrationCursor
      (store.registry.scanTo batchSize + 1)

/-- A call finds nothing to move, moves a batch, or moves the last batch. -/
inductive MigrationStep (store : MigrationStore) (batchSize : Nat) : MigrationStore → Prop where
  | idle (none : store.registry.signalCounter = 0) : MigrationStep store batchSize store
  | empty (gone : countV1Keys store.registry.signalsV1 store.registry.signalCounter = 0) :
    MigrationStep store batchSize
      (store.setMigrationCursor (store.registry.signalCounter + 1))
  | batch (some : countV1Keys store.registry.signalsV1 store.registry.signalCounter ≠ 0)
      (more : ¬ (store.registry.signalCounter ≤ store.registry.scanTo batchSize ∧
        countV1Keys (store.batched batchSize).registry.signalsV1
          store.registry.signalCounter = 0)) :
    MigrationStep store batchSize (store.batched batchSize)
  | last (some : countV1Keys store.registry.signalsV1 store.registry.signalCounter ≠ 0)
      (reaches : store.registry.signalCounter ≤ store.registry.scanTo batchSize)
      (gone : countV1Keys (store.batched batchSize).registry.signalsV1
        store.registry.signalCounter = 0) :
    MigrationStep store batchSize
      ((store.batched batchSize).finishMigration store.registry.signalCounter)

/-- A call of the migration is one of its steps. -/
theorem migrateVerified_spec {caller : Address} : wlp (migrateVerified env gates caller batchSize)
      (fun _ after => MigrationStep store batchSize after) store := by
  unfold migrateVerified
  simp only [wlp_rules, wp_ite]
  intro _ _ _ _ _
  exact ⟨fun none => .idle none, fun _ => ⟨fun gone => .empty gone,
    fun some => ⟨fun last => .last some last.1 last.2, fun more => .batch some more⟩⟩⟩

/-- The two ways to ask whether a legacy record is left agree. -/
theorem hasV1_iff {registry : SignalStore} {maxId : Nat} : registry.hasV1 maxId = true ↔
      countV1Keys registry.signalsV1 maxId ≠ 0 := by
  simp only [ne_eq, countV1Keys_eq_zero, hasV1, AList.lookup_eq_none, AList.mem_keys, any_eq_true,
    Bool.and_eq_true, decide_eq_true_eq, not_forall, not_not]
  exact ⟨fun ⟨id, held, low, high⟩ => ⟨id, low, high, held⟩,
    fun ⟨id, low, high, held⟩ => ⟨id, held, low, high⟩⟩

/-- A batch moves the registry as it does without the records. -/
theorem migrateBatch_registry (store : MigrationStore) (ids : List Nat) :
    (store.migrateBatch ids).registry = ids.foldl migrateSignal store.registry := by
  induction ids generalizing store with
  | nil => rfl
  | cons id rest ih =>
    have moves : (migrateRecord store id).registry = migrateSignal store.registry id := by
      unfold migrateRecord migrateSignal
      cases store.registry.signalsV1.lookup id with
      | none => rfl
      | some signal => by_cases own : signal.id = id <;> simp only [own, if_true, if_false]
    exact (ih (migrateRecord store id)).trans (moves ▸ rfl)

theorem beginMigration_same (store : MigrationStore) (maxId : Nat) :
    ∃ total snapshot, store.beginMigration maxId =
      { store with v1TargetTotal := total, preSnapshot := snapshot } := by
  unfold MigrationStore.beginMigration
  split
  next => exact ⟨_, _, rfl⟩
  next => exact ⟨_, _, rfl⟩

/-- Both forms of the migration return together. -/
theorem migrateVerified_agrees (caller : Address) (store : MigrationStore) :
    wp (migrateVerified env gates caller batchSize)
      (fun _ after => wp (migrateSignalsV1ToV2 env gates caller batchSize)
        (fun _ registry => registry = after.registry) (fun _ _ => False) store.registry)
      (fun _ _ => wp (migrateSignalsV1ToV2 env gates caller batchSize) (fun _ _ => False)
        (fun _ _ => True) store.registry) store := by
  have scanned (maxId : Nat) (ids : List Nat) :
      ((store.beginMigration maxId).migrateBatch ids).registry =
        ids.foldl migrateSignal store.registry := by
    obtain ⟨total, snapshot, begun⟩ := beginMigration_same store maxId
    rw [migrateBatch_registry, begun]
  have left (registry : SignalStore) (maxId : Nat) :
      ¬ registry.hasV1 maxId = true ↔ countV1Keys registry.signalsV1 maxId = 0 := by
    rw [hasV1_iff, not_not]
  simp only [migrateVerified, migrateSignalsV1ToV2, wp_rules, wp_ite, left,
    MigrationStore.setMigrationCursor, MigrationStore.finishMigration, scanned]
  by_cases none : store.registry.signalCounter = 0
  · simp +contextual [none]
  · by_cases empty : countV1Keys store.registry.signalsV1 store.registry.signalCounter = 0
    · simp +contextual [none, empty]
    · by_cases last : store.registry.signalCounter ≤ store.registry.scanTo batchSize ∧
          countV1Keys (foldl migrateSignal store.registry
            (store.registry.batchIds batchSize)).signalsV1 store.registry.signalCounter = 0
      · simp +contextual [none, empty, last]
      · simp +contextual only [none, empty, last, not_true_eq_false, not_false_eq_true,
          Bool.false_eq_true, false_implies, true_implies, implies_true, and_self, and_true,
          true_and, not_not]

/-- The snapshots change nothing about what a call does to the registry. -/
theorem migrateVerified_registry (caller : Address) (store : MigrationStore) :
    (invoke (migrateVerified env gates caller batchSize) store).registry =
      invoke (migrateSignalsV1ToV2 env gates caller batchSize) store.registry := by
  have agrees := @migrateVerified_agrees env gates batchSize caller store
  rcases ran : migrateVerified env gates caller batchSize store with
    ⟨value, after⟩ | ⟨fault, after⟩
  · obtain ⟨_, _, gave, rfl⟩ := returns_of_wp (wp_ok agrees ran)
    rw [invoke_of_ok ran, invoke_of_ok gave]
  · have stopped := wp_error agrees ran
    rw [invoke_of_rejected fun ⟨_, _, gave⟩ => wp_ok stopped gave]
    simp only [invoke, ran]

/-- A batch moves what stands under the ids it scans, and the notes and the counter are those
of its beginning. -/
theorem batched_spec (own : store.OwnIds) (batchSize : Nat) :
    (∀ id, (store.batched batchSize).recordV1 id =
        if id ∈ store.registry.batchIds batchSize then none else store.recordV1 id) ∧
      (∀ id, (store.batched batchSize).record id = if id ∈ store.registry.batchIds batchSize then
          ((store.recordV1 id).map moved).or (store.record id) else store.record id) ∧
      (store.batched batchSize).registry.signalCounter = store.registry.signalCounter ∧
      (store.batched batchSize).registry.migrationCursor = store.registry.scanTo batchSize + 1 ∧
      (store.batched batchSize).v1TargetTotal =
        (store.beginMigration store.registry.signalCounter).v1TargetTotal ∧
      (store.batched batchSize).preSnapshot =
        (store.beginMigration store.registry.signalCounter).preSnapshot ∧
      (store.batched batchSize).verification = store.verification := by
  obtain ⟨total, snapshot, begun⟩ := beginMigration_same store store.registry.signalCounter
  rw [MigrationStore.batched, begun]
  obtain ⟨left, has, signals, signalsV1, details, same⟩ := @migrateBatch_spec
    { store with v1TargetTotal := total, preSnapshot := snapshot } own
    (store.registry.batchIds batchSize)
  refine ⟨left, has, ?_, rfl, ?_, ?_, ?_⟩ <;> simp [MigrationStore.setMigrationCursor, same]

/-- A batch scans from its cursor to its end. -/
theorem mem_batchIds {registry : SignalStore} {id : Nat} : id ∈ registry.batchIds batchSize ↔
      max registry.migrationCursor 1 ≤ id ∧ id ≤ registry.scanTo batchSize := by
  rw [batchIds, List.mem_range'_1]
  omega

end Steps

end StellarSwipe.SignalRegistry
