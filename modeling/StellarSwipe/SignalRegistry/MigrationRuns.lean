import StellarSwipe.SignalRegistry.ActiveCountRuns
import StellarSwipe.SignalRegistry.Migration

/-!
# Runs of the migration

Each legacy record is moved at most once and as it was, nothing stored is overwritten, and a
cursor beyond the last id leaves no legacy record.
-/

namespace StellarSwipe.SignalRegistry

open FixedWidth Program Runs Table MigrationStore Option

abbrev MigrationTransition := Runs.Transition (Ledger MigrationStore) MigrationInput

/-- Before the migration: legacy records stand under their own ids, all ids were given out, and
none has both a legacy record and a stored signal. -/
structure MigrationStart (store : MigrationStore) : Prop where
  numbered : ∀ id signal, store.registry.signalsV1.lookup id = some signal →
    signal.id = id ∧ 1 ≤ id ∧ id ≤ store.registry.signalCounter
  has : ∀ id, store.record id ≠ none → id ≤ store.registry.signalCounter
  apart : ∀ id, store.recordV1 id ≠ none → store.record id = none
  cursor : store.registry.migrationCursor ≤ 1
  notBegun : store.v1TargetTotal = none

/-- Where the next batch begins. -/
def MigrationStore.next (store : MigrationStore) : Nat :=
  max store.registry.migrationCursor 1

/-- How far the migration has come: the records under the cursor are moved, the others are as
they were and have no stored signal yet. -/
structure Progress (start store : MigrationStore) : Prop where
  issued : start.registry.signalCounter ≤ store.registry.signalCounter
  left : ∀ id, store.recordV1 id = if id < store.next then none else start.recordV1 id
  has : ∀ id, store.record id ≠ none → id ≤ store.registry.signalCounter
  apart : ∀ id, store.recordV1 id ≠ none → store.record id = none
  begun : (store.v1TargetTotal = none ∧ ∀ id, store.recordV1 id = start.recordV1 id) ∨
    (store.v1TargetTotal ≠ none ∧ store.preSnapshot =
      some (snapshotV1 start.registry.signalsV1 start.registry.signalCounter))

section Progress

variable {start store after : MigrationStore} {batchSize : Nat} {id : Nat}

theorem recordV1_some (held : store.recordV1 id ≠ none) :
    ∃ signal, store.registry.signalsV1.lookup id = some signal :=
  Option.ne_none_iff_exists'.mp fun absent => held (recordV1_eq_none.mpr absent)

/-- At the start legacy records stand under given ids. -/
theorem MigrationStart.within (legacy : MigrationStart start) (held : start.recordV1 id ≠ none) :
    1 ≤ id ∧ id ≤ start.registry.signalCounter := by
  obtain ⟨signal, hit⟩ := recordV1_some held
  exact (legacy.numbered id signal hit).2

/-- Nothing has moved at the start. -/
theorem MigrationStart.progress (legacy : MigrationStart start) : Progress start start := by
  refine ⟨le_rfl, fun id => ?_, legacy.has, legacy.apart, .inl ⟨legacy.notBegun, fun _ => rfl⟩⟩
  split
  next low =>
    by_contra held
    have above := (legacy.within held).1
    have cursor := legacy.cursor
    rw [MigrationStore.next, max_eq_right cursor] at low
    omega
  next => rfl

/-- What has not moved stands as it did, beyond the cursor. -/
theorem Progress.same (progress : Progress start store) (held : store.recordV1 id ≠ none) :
    store.next ≤ id ∧ store.recordV1 id = start.recordV1 id := by
  have left := progress.left id
  split at left
  next => exact absurd left held
  next high => exact ⟨not_lt.mp high, left⟩

/-- Legacy records stand under given ids throughout. -/
theorem Progress.within (progress : Progress start store) (legacy : MigrationStart start)
    (held : store.recordV1 id ≠ none) : 1 ≤ id ∧ id ≤ store.registry.signalCounter := by
  obtain ⟨above, below⟩ := legacy.within ((progress.same held).2 ▸ held)
  exact ⟨above, below.trans progress.issued⟩

/-- Legacy records stand under their own ids throughout. -/
theorem Progress.own (progress : Progress start store) (legacy : MigrationStart start) :
    store.OwnIds := by
  intro id signal hit
  have held : store.recordV1 id ≠ none := by simp [recordV1, hit]
  obtain ⟨_, same⟩ := progress.same held
  obtain ⟨first, prior⟩ := recordV1_some (same ▸ held)
  simp only [recordV1, hit, prior, map_some, Option.some.injEq,
    Prod.mk.injEq] at same
  rw [same.1]
  exact (legacy.numbered id first prior).1

/-- The count finds whether any legacy record is left. -/
theorem Progress.count_eq_zero (progress : Progress start store) (legacy : MigrationStart start) :
    countV1Keys store.registry.signalsV1 store.registry.signalCounter = 0 ↔
      ∀ id, store.recordV1 id = none := by
  rw [countV1Keys_eq_zero]
  constructor
  · intro none id
    by_contra held
    obtain ⟨above, below⟩ := progress.within legacy held
    exact held (recordV1_eq_none.mpr (none id above below))
  · intro none id _ _
    exact recordV1_eq_none.mp (none id)

/-- While a legacy record is left a batch scans at least one id. -/
theorem Progress.scans (progress : Progress start store) (legacy : MigrationStart start)
    (some : countV1Keys store.registry.signalsV1 store.registry.signalCounter ≠ 0)
    (batchSize : Nat) : store.next ≤ store.registry.scanTo batchSize := by
  obtain ⟨id, held⟩ : ∃ id, store.recordV1 id ≠ none := by
    by_contra none
    exact some ((progress.count_eq_zero legacy).mpr (not_exists_not.mp none))
  have first := (progress.same held).1
  have below := (progress.within legacy held).2
  simp only [MigrationStore.next, SignalStore.scanTo] at first ⊢
  omega

/-- The first snapshot is of the records at the start, however many ids were given out since. -/
theorem snapshotV1_issued (legacy : MigrationStart start) {v1 : Table Nat SignalV1} {maxId : Nat}
    (issued : start.registry.signalCounter ≤ maxId)
    (same : ∀ id, (v1.lookup id).map (·.totalVolume) =
      (start.registry.signalsV1.lookup id).map (·.totalVolume)) : snapshotV1 v1 maxId =
      snapshotV1 start.registry.signalsV1 start.registry.signalCounter := by
  obtain ⟨more, rfl⟩ := Nat.exists_eq_add_of_le issued
  rw [snapshotV1, snapshotV1, volumesV1, volumesV1, ← List.range'_append_1, List.filterMap_append]
  have later : (List.range' (1 + start.registry.signalCounter) more).filterMap
      (fun id => (v1.lookup id).map (·.totalVolume)) = [] := by
    refine List.filterMap_eq_nil_iff.mpr fun id mem => ?_
    have high := (List.mem_range'_1.mp mem).1
    rw [same, map_eq_none_iff, ← recordV1_eq_none]
    by_contra held
    have below := (legacy.within held).2
    omega
  rw [later, List.append_nil]
  exact congrArg snapshotOf (List.filterMap_congr fun id _ => same id)

theorem volume_of_recordV1 (store : MigrationStore) (id : Nat) :
    (store.registry.signalsV1.lookup id).map (·.totalVolume) =
      (store.recordV1 id).map (·.1.totalVolume) := by
  simp [recordV1, Function.comp_def]

theorem volume_of_record (store : MigrationStore) (id : Nat) :
    (store.registry.signals.lookup id).map (·.totalVolume) =
      (store.record id).map (·.1.totalVolume) := by
  simp [record, Function.comp_def]

/-- The first snapshot is the one of the start. -/
theorem Progress.snapshot (progress : Progress start store) (legacy : MigrationStart start) :
    (store.beginMigration store.registry.signalCounter).v1TargetTotal ≠ none ∧
      (store.beginMigration store.registry.signalCounter).preSnapshot =
        some (snapshotV1 start.registry.signalsV1 start.registry.signalCounter) := by
  rcases progress.begun with ⟨none, untouched⟩ | ⟨begun, noted⟩
  · have same : snapshotV1 store.registry.signalsV1 store.registry.signalCounter = _ :=
      snapshotV1_issued legacy progress.issued fun id => by
        rw [volume_of_recordV1, volume_of_recordV1, untouched id]
    simp [beginMigration, none, same]
  · obtain ⟨total, hit⟩ := Option.ne_none_iff_exists'.mp begun
    simp [beginMigration, hit, noted]

/-- A batch is progress. -/
theorem Progress.batched (progress : Progress start store) (legacy : MigrationStart start)
    (some : countV1Keys store.registry.signalsV1 store.registry.signalCounter ≠ 0)
    (batchSize : Nat) : Progress start (store.batched batchSize) := by
  obtain ⟨left, has, counter, cursor, total, snapped, _⟩ :=
    batched_spec (progress.own legacy) batchSize
  have scans := progress.scans legacy some batchSize
  have next : (store.batched batchSize).next = store.registry.scanTo batchSize + 1 := by
    rw [MigrationStore.next, cursor]
    omega
  have scanned {id : Nat} : id ∈ store.registry.batchIds batchSize ↔
      store.next ≤ id ∧ id ≤ store.registry.scanTo batchSize := mem_batchIds
  refine ⟨counter ▸ progress.issued, fun id => ?_, fun id held => ?_, fun id held => ?_, .inr ?_⟩
  · rw [left, progress.left, next]
    simp only [scanned]
    by_cases low : id < store.next
    · rw [if_pos low, if_neg (by omega), if_pos (by omega)]
    · by_cases high : id ≤ store.registry.scanTo batchSize
      · rw [if_pos ⟨not_lt.mp low, high⟩, if_pos (by omega)]
      · rw [if_neg (by omega), if_neg low, if_neg (by omega)]
  · rw [has] at held
    rw [counter]
    split at held
    next =>
      by_cases waiting : store.recordV1 id = none
      · rw [waiting, map_none, none_or] at held
        exact progress.has id held
      · exact (progress.within legacy waiting).2
    next => exact progress.has id held
  · rw [left] at held
    rw [has]
    split at held
    next => exact absurd rfl held
    next out => rw [if_neg out, progress.apart id held]
  · rw [total, snapped]
    exact progress.snapshot legacy

theorem Progress.finished (progress : Progress start store) {maxId : Nat}
    (same : store.next = (store.finishMigration maxId).next) :
    Progress start (store.finishMigration maxId) := by
  refine ⟨progress.issued, fun id => ?_, progress.has, progress.apart, progress.begun⟩
  rw [← same]
  exact progress.left id

/-- Every step of the migration is progress. -/
theorem Progress.step (progress : Progress start store) (legacy : MigrationStart start)
    (step : MigrationStep store batchSize after) : Progress start after := by
  cases step with
  | idle => exact progress
  | empty gone =>
    have none := (progress.count_eq_zero legacy).mp gone
    refine ⟨progress.issued, fun id => (none id).trans ?_, progress.has, progress.apart,
      progress.begun⟩
    split
    next => rfl
    next high =>
      by_contra held
      have below := (legacy.within (Ne.symm held)).2
      have issued := progress.issued
      simp only [MigrationStore.next, setMigrationCursor] at high
      omega
  | batch some => exact progress.batched legacy some batchSize
  | last some reaches gone =>
    have batched := progress.batched legacy some batchSize
    obtain ⟨_, _, _, cursor, _⟩ := batched_spec (progress.own legacy) batchSize
    have scanned : store.registry.scanTo batchSize = store.registry.signalCounter :=
      le_antisymm (min_le_right _ _) reaches
    apply batched.finished
    rw [MigrationStore.next, cursor, scanned]
    rfl

theorem record_eq_none : store.record id = none ↔ store.registry.signals.lookup id = none := by
  simp [record]

/-- Calls beside the migration keep its progress. -/
theorem Progress.besides (progress : Progress start store) (legacy : MigrationStart start)
    (aside : Aside store after) : Progress start after := by
  have left := aside.recordV1
  obtain ⟨undisturbed, _, total, snapped, _⟩ := aside
  have next : after.next = store.next := by rw [MigrationStore.next, undisturbed.cursor]; rfl
  refine ⟨progress.issued.trans undisturbed.issued, fun id => ?_, fun id held => ?_,
    fun id held => ?_, ?_⟩
  · rw [left, next, progress.left]
  · by_cases absent : store.record id = none
    · rcases undisturbed.fresh id (record_eq_none.mp absent) with still | ⟨_, given⟩
      · exact absurd (record_eq_none.mpr still) held
      · exact given
    · exact (progress.has id absent).trans undisturbed.issued
  · rw [left] at held
    rcases undisturbed.fresh id (record_eq_none.mp (progress.apart id held)) with still | ⟨new, _⟩
    · exact record_eq_none.mpr still
    · have given := (progress.within legacy held).2
      omega
  · rw [total, snapped]
    simpa only [left] using progress.begun

end Progress

/-- A call that stores signals under ids of their own. -/
def SignalCall.Stores : SignalCall → Prop
  | .creates .. | .createsFromTemplate .. | .migrates .. => True
  | _ => False

namespace MigrationTransition

variable (taken : MigrationTransition)

def env : Env := taken.pre.env taken.input.arrival

def Returned : Prop :=
  Accepts (runMigration taken.env taken.input.gates taken.input.details taken.input.call)
    taken.pre.store
deriving Decidable

/-- The legacy record under an id is taken. -/
def Moves (id : Nat) : Prop :=
  taken.pre.store.recordV1 id ≠ none ∧ taken.after.store.recordV1 id = none
deriving Decidable

/-- The last legacy records are taken. -/
def Empties : Prop :=
  (∃ id, taken.pre.store.recordV1 id ≠ none) ∧ ∀ id, taken.after.store.recordV1 id = none

end MigrationTransition

section Calls

variable {start : MigrationStore} {ledger : Ledger MigrationStore} {input : MigrationInput}

/-- A call changes nothing, migrates, or leaves the migration aside. -/
inductive MigrationEffect (input : MigrationInput) (pre after : MigrationStore) : Prop where
  | nothing (same : after = pre)
  | migrates (caller : Address) (batchSize : Nat)
      (called : input.call = .migrates caller batchSize)
      (step : MigrationStep pre batchSize after)
  | leaves (aside : Aside pre after) (has : input.call.Stores →
      ∀ id, id ≤ pre.registry.signalCounter → after.record id = pre.record id)

/-- A step migrates or leaves the migration aside. -/
theorem migrationEffect (ledger : Ledger MigrationStore) (input : MigrationInput) :
    MigrationEffect input ledger.store (migrationStep input ledger).store := by
  by_cases accepts : Accepts (runMigration (ledger.env input.arrival) input.gates input.details
      input.call) ledger.store
  · obtain ⟨_, gave⟩ := gave_of_accepts accepts
    cases called : input.call with
    | migrates caller batchSize =>
      rw [called] at gave
      have step := wp_ok migrateVerified_spec gave
      rw [← called] at step
      exact .migrates caller batchSize called step
    | creates provider action price expiry =>
      rw [called] at gave
      have kept := wp_ok creating_spec gave
      rw [← called] at kept
      exact .leaves kept.1 fun _ => kept.2
    | createsFromTemplate provider action price expiryHours =>
      rw [called] at gave
      have kept := wp_ok creatingFromTemplate_spec gave
      rw [← called] at kept
      exact .leaves kept.1 fun _ => kept.2
    | _ =>
      refine .leaves (wp_ok (runMigration_aside input.call ?_) gave) ?_
      · intro caller batchSize migrates
        rw [called] at migrates
        cases migrates
      · intro stores
        rw [called] at stores
        cases stores
  · exact .nothing (invoke_of_rejected accepts)

/-- Every call of the registry is progress. -/
theorem Progress.next_call (progress : Progress start ledger.store)
    (legacy : MigrationStart start) : Progress start (migrationStep input ledger).store := by
  cases migrationEffect ledger input with
  | nothing same => exact same ▸ progress
  | migrates caller batchSize called step => exact progress.step legacy step
  | leaves aside has => exact progress.besides legacy aside

/-- A step moves nothing, or what a batch scans. -/
theorem MigrationStep.cases_batch {store after : MigrationStore} {batchSize : Nat}
    (own : store.OwnIds) (step : MigrationStep store batchSize after) :
    ((∀ id, after.recordV1 id = store.recordV1 id) ∧ ∀ id, after.record id = store.record id) ∨
      ((∀ id, after.recordV1 id =
          if id ∈ store.registry.batchIds batchSize then none else store.recordV1 id) ∧
        ∀ id, after.record id = if id ∈ store.registry.batchIds batchSize then
            ((store.recordV1 id).map moved).or (store.record id) else store.record id) := by
  obtain ⟨left, has, _⟩ := batched_spec own batchSize
  cases step with
  | idle => exact .inl ⟨fun _ => rfl, fun _ => rfl⟩
  | empty => exact .inl ⟨fun _ => rfl, fun _ => rfl⟩
  | batch => exact .inr ⟨left, has⟩
  | last => exact .inr ⟨left, has⟩

/-- A call that stores overwrites no record. -/
theorem Progress.keeps_stored (progress : Progress start ledger.store)
    (legacy : MigrationStart start) (stores : input.call.Stores) {id : Nat}
    {record : Signal × SignalDetails} (hit : ledger.store.record id = some record) :
    (migrationStep input ledger).store.record id = some record := by
  have present : ledger.store.record id ≠ none := hit ▸ some_ne_none record
  cases migrationEffect ledger input with
  | nothing same => exact same ▸ hit
  | leaves aside has => rw [has stores id (progress.has id present), hit]
  | migrates caller batchSize called step =>
    have absent : ledger.store.recordV1 id = none := by
      by_contra held
      exact present (progress.apart id held)
    rcases step.cases_batch (progress.own legacy) with ⟨_, same⟩ | ⟨_, has⟩
    · rw [same, hit]
    · rw [has, absent, hit]
      split <;> rfl

/-- A record that is taken was not stored and is stored as it was. -/
theorem Progress.copies (progress : Progress start ledger.store) (legacy : MigrationStart start)
    {id : Nat} (moves : MigrationTransition.Moves ⟨ledger, input, migrationStep input ledger⟩ id) :
    ledger.store.record id = none ∧
      (migrationStep input ledger).store.record id = (start.recordV1 id).map moved := by
  obtain ⟨held, taken⟩ := moves
  have absent := progress.apart id held
  have same := (progress.same held).2
  refine ⟨absent, ?_⟩
  cases migrationEffect ledger input with
  | nothing same => exact absurd (same ▸ taken) held
  | leaves aside => exact absurd ((aside.recordV1 id).symm.trans taken) held
  | migrates caller batchSize called step =>
    rcases step.cases_batch (progress.own legacy) with ⟨untouched, _⟩ | ⟨left, has⟩
    · exact absurd ((untouched id).symm.trans taken) held
    · have scanned : id ∈ ledger.store.registry.batchIds batchSize := by
        by_contra out
        have still := left id
        rw [if_neg out] at still
        exact held (still.symm.trans taken)
      rw [has, if_pos scanned, absent, same, or_none]

/-- A legacy record that has moved does not come back. -/
theorem Progress.stays_gone (progress : Progress start ledger.store)
    (legacy : MigrationStart start) {id : Nat} (gone : ledger.store.recordV1 id = none) :
    (migrationStep input ledger).store.recordV1 id = none := by
  cases migrationEffect ledger input with
  | nothing same => exact same ▸ gone
  | leaves aside => exact (aside.recordV1 id).trans gone
  | migrates caller batchSize called step =>
    rcases step.cases_batch (progress.own legacy) with ⟨untouched, _⟩ | ⟨left, _⟩
    · exact (untouched id).trans gone
    · rw [left, gone]
      split <;> rfl

end Calls

namespace MigrationStore

variable (store : MigrationStore)

def legacyVolumes : List Int :=
  volumesV1 store.registry.signalsV1 store.registry.signalCounter

def migratedVolumes (start store : MigrationStore) : List Int :=
  (List.range' 1 store.registry.signalCounter).filterMap fun id =>
    if start.recordV1 id = none then none
    else (store.registry.signals.lookup id).map (·.totalVolume)

/-- The volumes under all ids, of what is left or else of what is stored. -/
def volumes : List Int :=
  (List.range' 1 store.registry.signalCounter).filterMap fun id =>
    ((store.registry.signalsV1.lookup id).map (·.totalVolume)).or
      ((store.registry.signals.lookup id).map (·.totalVolume))

/-- A batch that moves all that is left. -/
def LastBatch (batchSize : Nat) : Prop :=
  store.registry.signalsV1.keys ≠ [] ∧
    ∀ id ∈ store.registry.signalsV1.keys, id ≤ store.registry.scanTo batchSize
deriving Decidable

/-- The batch reaches the counter, no signal is stored but those that were legacy records, and
no sum leaves its type. -/
def LastBatchSound (start store : MigrationStore) (batchSize : Nat) : Prop :=
  store.registry.signalCounter ≤ store.registry.scanTo batchSize ∧
    (∀ id ∈ store.registry.signals.keys, id ∈ start.registry.signalsV1.keys) ∧
    Summable start.legacyVolumes ∧ Summable store.volumes
deriving Decidable

/-- The verification says whether as many records moved as there were, with the same volume. -/
def Truthful (start store : MigrationStore) (verification : MigrationVerification) : Prop :=
  verification.verified = true ↔
    (migratedVolumes start store).length = start.legacyVolumes.length ∧
      (migratedVolumes start store).sum = start.legacyVolumes.sum
deriving Decidable

end MigrationStore

/-- A batch that moves the last legacy records is sound. -/
def MigrationTransition.Sound (start : Ledger MigrationStore) (taken : MigrationTransition) :
    Prop :=
  taken.Returned →
  match taken.input.call with
  | .migrates _ batchSize => taken.pre.store.LastBatch batchSize →
      MigrationStore.LastBatchSound start.store taken.pre.store batchSize
  | _ => True

instance (start : Ledger MigrationStore) (taken : MigrationTransition) :
    Decidable (taken.Sound start) := by
  unfold MigrationTransition.Sound
  refine @instDecidableForall _ _ _
    (taken.input.call.casesOn ?_ ?_ ?_ ?_ ?_ ?_ ?_ ?_ ?_ ?_) <;> intros <;> infer_instance

section Comparison

open MigrationStore

variable {start store : MigrationStore} {batchSize : Nat}

theorem mem_keys_iff_recordV1 {id : Nat} :
    id ∈ store.registry.signalsV1.keys ↔ store.recordV1 id ≠ none := by
  rw [mem_keys_iff, ne_eq, recordV1_eq_none]
  exact Option.ne_none_iff_exists'.symm

theorem mem_keys_iff_record {id : Nat} :
    id ∈ store.registry.signals.keys ↔ store.record id ≠ none := by
  rw [mem_keys_iff, ne_eq, record_eq_none]
  exact Option.ne_none_iff_exists'.symm

/-- After the last batch the stored signals are those that were stored and those that moved. -/
theorem volumesV2_last (own : store.OwnIds)
    (gone : ∀ id, (store.batched batchSize).recordV1 id = none) :
    volumesV2 (store.batched batchSize).registry.signals store.registry.signalCounter =
      store.volumes := by
  obtain ⟨left, has, _⟩ := batched_spec own batchSize
  refine List.filterMap_congr fun id _ => ?_
  rw [volume_of_record, volume_of_record, volume_of_recordV1, has]
  split
  next =>
    rw [map_or, map_map]
    rfl
  next out =>
    have waiting := left id
    rw [if_neg out, gone] at waiting
    rw [← waiting]
    rfl

/-- The second snapshot sees the volumes of the records that moved. -/
theorem volumesV2_migrated (progress : Progress start store) (own : store.OwnIds)
    (others : ∀ id ∈ store.registry.signals.keys, id ∈ start.registry.signalsV1.keys) :
    volumesV2 (store.batched batchSize).registry.signals store.registry.signalCounter =
      migratedVolumes start (store.batched batchSize) := by
  obtain ⟨left, has, counter, _⟩ := batched_spec own batchSize
  rw [migratedVolumes, counter]
  refine List.filterMap_congr fun id _ => ?_
  split
  next absent =>
    rw [volume_of_record, map_eq_none_iff]
    have unmoved : store.recordV1 id = none := by
      by_contra held
      exact held ((progress.same held).2.trans absent)
    have unstored : store.record id = none := by
      by_contra held
      exact mem_keys_iff_recordV1.mp (others id (mem_keys_iff_record.mpr held)) absent
    rw [has, unmoved, unstored]
    split <;> rfl
  next => rfl

/-- A sound batch that moves the last legacy records notes a truthful verification. -/
theorem Progress.verifies {ledger : Ledger MigrationStore} {input : MigrationInput}
    {first : Ledger MigrationStore} (progress : Progress first.store ledger.store)
    (legacy : MigrationStart first.store)
    (sound : MigrationTransition.Sound first ⟨ledger, input, migrationStep input ledger⟩)
    (empties : MigrationTransition.Empties ⟨ledger, input, migrationStep input ledger⟩) :
    ∃ verification, (migrationStep input ledger).store.verification = some verification ∧
      Truthful first.store (migrationStep input ledger).store verification := by
  obtain ⟨⟨id, held⟩, gone⟩ := empties
  have gave : MigrationTransition.Returned ⟨ledger, input, migrationStep input ledger⟩ := by
    by_contra rejected
    have same : (migrationStep input ledger).store = ledger.store := invoke_of_rejected rejected
    exact held (same ▸ gone id)
  have own := progress.own legacy
  have allowed := sound gave
  cases migrationEffect ledger input with
  | nothing same => exact absurd (same ▸ gone id) held
  | leaves aside => exact absurd ((aside.recordV1 id).symm.trans (gone id)) held
  | migrates caller batchSize called step =>
    obtain ⟨left, has, counter, _, _, snapped, _⟩ := batched_spec own batchSize
    generalize (migrationStep input ledger).store = after at *
    simp only [called] at allowed
    have last (moved : ∀ id, (ledger.store.batched batchSize).recordV1 id = none) :
        LastBatchSound first.store ledger.store batchSize := by
      refine allowed ⟨List.ne_nil_of_mem (mem_keys_iff_recordV1.mpr held), fun tested listed => ?_⟩
      have waiting := mem_keys_iff_recordV1.mp listed
      by_contra beyond
      have still := left tested
      rw [if_neg fun scanned => beyond (mem_batchIds.mp scanned).2] at still
      exact waiting (still.symm.trans (moved tested))
    cases step with
    | idle => exact absurd (gone id) held
    | empty => exact absurd (gone id) held
    | batch some more =>
      have drained := ((progress.batched legacy some batchSize).count_eq_zero legacy).mpr gone
      rw [counter] at drained
      exact absurd ⟨(last gone).1, drained⟩ more
    | last some reaches drained =>
      obtain ⟨_, others, pre, during⟩ := last gone
      have post : snapshotV2 (ledger.store.batched batchSize).registry.signals
          ledger.store.registry.signalCounter = _ :=
        snapshotOf_summable (volumesV2_last own gone ▸ during)
      have noted : snapshotV1 first.store.registry.signalsV1
          first.store.registry.signalCounter = _ := snapshotOf_summable pre
      have begun : (ledger.store.batched batchSize).preSnapshot = _ :=
        snapped.trans (progress.snapshot legacy).2
      refine ⟨_, by rw [finishMigration, begun], ?_⟩
      rw [noted, post, volumesV2_migrated progress own others]
      simp only [Truthful, reconcile, decide_eq_true_eq, MigrationSnapshot.mk.injEq]
      exact ⟨fun same => ⟨same.1.symm, same.2.symm⟩, fun same => ⟨same.1.symm, same.2.symm⟩⟩

end Comparison

/-- What a run has done to the legacy records of its start. -/
structure Lossless (start : Ledger MigrationStore) (past : List MigrationTransition)
    (ledger : Ledger MigrationStore) : Prop where
  kept : ∀ taken ∈ past, taken.input.call.Stores → ∀ id record,
    taken.pre.store.record id = some record → taken.after.store.record id = some record
  copied : ∀ taken ∈ past, ∀ id, MigrationTransition.Moves taken id →
    taken.pre.store.record id = none ∧
      taken.after.store.record id = (start.store.recordV1 id).map moved
  once : ∀ id, start.store.recordV1 id ≠ none →
    past.countP (fun taken => MigrationTransition.Moves taken id) =
      if ledger.store.recordV1 id = none then 1 else 0
  unmoved : ∀ id, ledger.store.recordV1 id ≠ none →
    ledger.store.recordV1 id = start.store.recordV1 id
  emptied : ledger.store.registry.signalCounter < ledger.store.registry.migrationCursor →
    ∀ id, ledger.store.recordV1 id = none

/-- And the batch that moved the last of them noted a truthful comparison, which stays. -/
structure Migrated (start : Ledger MigrationStore) (past : List MigrationTransition)
    (ledger : Ledger MigrationStore) : Prop extends Lossless start past ledger where
  verified : (∃ id, start.store.recordV1 id ≠ none) →
    (∀ id, ledger.store.recordV1 id = none) →
    ∃ taken ∈ past, MigrationTransition.Empties taken ∧ ∃ verification,
      ledger.store.verification = some verification ∧
        taken.after.store.verification = some verification ∧
        MigrationStore.Truthful start.store taken.after.store verification

section Runs

variable {start ledger : Ledger MigrationStore} {past : List MigrationTransition}
  {input : MigrationInput}

/-- The verification is noted by the batch that moves the last legacy record, and by no other
call. -/
theorem Progress.verification_stays (progress : Progress start.store ledger.store)
    (legacy : MigrationStart start.store) (gone : ∀ id, ledger.store.recordV1 id = none) :
    (migrationStep input ledger).store.verification = ledger.store.verification := by
  have none := (progress.count_eq_zero legacy).mpr gone
  cases migrationEffect ledger input with
  | nothing same => rw [same]
  | leaves aside => exact aside.verification
  | migrates caller batchSize called step =>
    generalize (migrationStep input ledger).store = after at step ⊢
    cases step with
    | idle => rfl
    | empty => rfl
    | batch some => exact absurd none some
    | last some => exact absurd none some

/-- One step loses nothing. -/
theorem Lossless.step (lossless : Lossless start past ledger)
    (progress : Progress start.store ledger.store) (legacy : MigrationStart start.store) :
    Lossless start (past ++ [⟨ledger, input, migrationStep input ledger⟩])
      (migrationStep input ledger) := by
  have next : Progress start.store (migrationStep input ledger).store :=
    progress.next_call legacy
  refine ⟨?_, ?_, fun id initial => ?_, fun id held => (next.same held).2, fun beyond id => ?_⟩
  · intro taken mem stores id record hit
    rcases mem_snoc.mp mem with prior | rfl
    · exact lossless.kept taken prior stores id record hit
    · exact progress.keeps_stored legacy stores hit
  · intro taken mem id moves
    rcases mem_snoc.mp mem with prior | rfl
    · exact lossless.copied taken prior id moves
    · exact progress.copies legacy moves
  · rw [List.countP_append, lossless.once id initial]
    by_cases pre : ledger.store.recordV1 id = none
    · have after : (migrationStep input ledger).store.recordV1 id = none :=
        progress.stays_gone legacy pre
      simp [MigrationTransition.Moves, pre, after]
    · by_cases after : (migrationStep input ledger).store.recordV1 id = none <;>
        simp [MigrationTransition.Moves, pre, after]
  · by_contra held
    have low := (next.same held).1
    have given := (next.within legacy held).2
    simp only [MigrationStore.next] at low
    omega

/-- One sound step keeps the verification truthful. -/
theorem Migrated.step (migrated : Migrated start past ledger)
    (progress : Progress start.store ledger.store) (legacy : MigrationStart start.store)
    (sound : MigrationTransition.Sound start ⟨ledger, input, migrationStep input ledger⟩) :
    Migrated start (past ++ [⟨ledger, input, migrationStep input ledger⟩])
      (migrationStep input ledger) := by
  refine ⟨migrated.toLossless.step progress legacy, fun some gone => ?_⟩
  by_cases pre : ∀ id, ledger.store.recordV1 id = none
  · obtain ⟨taken, mem, empties, verification, noted, hit, truthful⟩ :=
      migrated.verified some pre
    exact ⟨taken, List.mem_append_left _ mem, empties, verification,
      (progress.verification_stays legacy pre).trans noted, hit, truthful⟩
  · have empties : MigrationTransition.Empties ⟨ledger, input, migrationStep input ledger⟩ :=
      ⟨not_forall.mp pre, gone⟩
    obtain ⟨verification, noted, truthful⟩ := progress.verifies legacy sound empties
    exact ⟨_, List.mem_append_right _ (List.mem_singleton_self _), empties, verification, noted,
      noted, truthful⟩

/-- An empty run has lost nothing. -/
theorem Lossless.initially (legacy : MigrationStart start.store) : Lossless start [] start := by
  refine ⟨fun _ mem => (by cases mem), fun _ mem => (by cases mem),
    fun id held => (if_neg held).symm, fun _ _ => rfl, fun beyond id => ?_⟩
  by_contra held
  obtain ⟨above, below⟩ := legacy.within held
  have cursor := legacy.cursor
  omega

theorem Migrated.initially (legacy : MigrationStart start.store) : Migrated start [] start := by
  refine ⟨.initially legacy, fun some none => ?_⟩
  obtain ⟨id, held⟩ := some
  exact absurd (none id) held

/-- From every start, in every run, legacy records move once and as they were and nothing stored
is overwritten; and if its last batch is sound, the verification is truthful. -/
theorem migration_lossless_and_verified (start : Ledger MigrationStore)
    (legacy : MigrationStart start.store) (inputs : List MigrationInput) :
    Lossless start (trace migrationStep start inputs) (final migrationStep start inputs) ∧
      ((∀ taken ∈ trace migrationStep start inputs,
          MigrationTransition.Sound start taken) →
        Migrated start (trace migrationStep start inputs)
          (final migrationStep start inputs)) := by
  constructor
  · exact (transition_history_invariant migrationStep
      (fun past ledger => Progress start.store ledger.store ∧ Lossless start past ledger)
      (fun _ => True)
      (fun past ledger input _ ⟨progress, lossless⟩ =>
        ⟨progress.next_call legacy, lossless.step progress legacy⟩)
      start ⟨legacy.progress, .initially legacy⟩ inputs fun _ _ => trivial).2
  · intro sound
    exact (transition_history_invariant migrationStep
      (fun past ledger => Progress start.store ledger.store ∧ Migrated start past ledger)
      (MigrationTransition.Sound start)
      (fun past ledger input allowed ⟨progress, migrated⟩ =>
        ⟨progress.next_call legacy, migrated.step progress legacy allowed⟩)
      start ⟨legacy.progress, .initially legacy⟩ inputs sound).2

/-- A legacy record of provider 5. -/
def legacySignal (id : Nat) (totalVolume : Int) : SignalV1 :=
  ⟨id, 5, .buy, 100, 900, 50000, .active, 1, 1, totalVolume, 20⟩

def legacyTable : Table Nat SignalV1 :=
  (AList.insert 1 (legacySignal 1 100) ∅).insert 2 (legacySignal 2 200)

def someDetails : SignalDetails := ⟨"XLM/USDC", "trend", .swing, ["fx"], .low, false⟩

def twoLegacy : Ledger MigrationStore where
  store :=
    { registry := { (registryStart 1 1000 10).store with
        signalCounter := 2
        signalsV1 := legacyTable
        schemaVersion := 1 }
      details := fun _ => someDetails
      detailsV1 := fun _ => someDetails
      v1TargetTotal := none
      preSnapshot := none
      verification := none }
  timestamp := 1000
  sequence := 10

/-- The example starts with legacy records only. -/
theorem twoLegacy_start : MigrationStart twoLegacy.store := by
  have lookup (id : Nat) : twoLegacy.store.registry.signalsV1.lookup id =
      if id = 2 then some (legacySignal 2 200) else if id = 1 then some (legacySignal 1 100)
      else none := by
    simp only [twoLegacy, legacyTable, lookup_insert]
    rfl
  refine ⟨fun id signal hit => ?_, fun id held => absurd rfl held, fun _ _ => rfl, le_rfl, rfl⟩
  rw [lookup] at hit
  split at hit
  next second =>
    cases hit
    exact ⟨second.symm, by omega, second.le⟩
  next =>
    split at hit
    next first =>
      cases hit
      exact ⟨first.symm, by omega, by rw [first]; decide⟩
    next => cases hit

def migrates (batchSize : Nat) : MigrationInput :=
  ⟨⟨1, 1, [1]⟩, .clear, .migrates 1 batchSize, someDetails⟩

/-- An executor records a trade on the first signal. -/
def tradesFirst : MigrationInput :=
  ⟨⟨1, 1, [7]⟩, .clear, .records 7 1 (amountOf 100) (amountOf 101) (amountOf 40), someDetails⟩

/-- Provider 6 creates a signal. -/
def createsOther : MigrationInput :=
  ⟨⟨1, 1, [6]⟩, .clear, .creates 6 .sell (amountOf 70) 5000, someDetails⟩

/-- A signal is created between the batches. -/
def createsBetween : List MigrationInput := [migrates 1, createsOther, migrates 5]

/-- One record after the other, and a trade that adds to the first one's volume. -/
theorem traded_migration : Migrated twoLegacy
      (trace migrationStep twoLegacy [migrates 1, tradesFirst, migrates 1])
      (final migrationStep twoLegacy [migrates 1, tradesFirst, migrates 1]) :=
  (migration_lossless_and_verified twoLegacy twoLegacy_start _).2 (by decide +kernel)

/-- A signal that is created between the batches makes the comparison fail, though all records
moved as they were. -/
theorem created_signal_fails_verification :
    ¬ ∀ (start : Ledger MigrationStore), MigrationStart start.store → ∀ inputs,
      Migrated start (trace migrationStep start inputs)
        (final migrationStep start inputs) := by
  intro every
  have migrated := every twoLegacy twoLegacy_start createsBetween
  have noted : (final migrationStep twoLegacy createsBetween).store.verification =
      some ⟨false, ⟨2, 300⟩, ⟨3, 300⟩⟩ := by decide +kernel
  have untrue : ∀ taken ∈ trace migrationStep twoLegacy createsBetween,
      taken.after.store.verification = some ⟨false, ⟨2, 300⟩, ⟨3, 300⟩⟩ →
        ¬ MigrationStore.Truthful twoLegacy.store taken.after.store
          ⟨false, ⟨2, 300⟩, ⟨3, 300⟩⟩ := by decide +kernel
  obtain ⟨taken, mem, _, verification, hit, recorded, truthful⟩ :=
    migrated.verified ⟨1, by decide⟩ (migrated.emptied (by decide +kernel))
  obtain rfl := mem_unique hit noted
  exact untrue taken mem recorded truthful

end Runs

end StellarSwipe.SignalRegistry
