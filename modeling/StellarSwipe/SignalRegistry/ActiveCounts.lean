import Mathlib.Data.List.Rotate
import StellarSwipe.SignalRegistry.Signals

/-!
# The count of active signals

Every operation that takes a signal out of the active ones must take one off its provider's count,
and every one that puts a signal among them must add one.
-/

namespace StellarSwipe.SignalRegistry

open FixedWidth Program Runs Table SignalStore

def activeWeight (provider : Address) (_ : Nat) (signal : Signal) : Int :=
  if signal.provider = provider ∧ signal.status = .active then 1 else 0

def SignalStore.activeSignals (store : SignalStore) (provider : Address) : Int :=
  store.signals.sum (activeWeight provider)

/-- The cached counts are the numbers of active signals, and so the limit of a tier admits a
new signal exactly when the provider's active signals are below it. -/
structure CountsExact (store : SignalStore) : Prop where
  counted : ∀ provider, (store.activeCount provider : Int) = store.activeSignals provider
  admits : ∀ provider tier, Accepts (validateProviderSignalLimit provider tier) store ↔
    store.activeSignals provider < store.limitOf tier

/-- Signals and legacy records stand under ids that were given out, and never under the same. -/
structure Numbered (store : SignalStore) : Prop where
  issued : ∀ id signal, store.signals.lookup id = some signal → id ≤ store.signalCounter
  legacy : ∀ id signal, store.signalsV1.lookup id = some signal → id ≤ store.signalCounter
  apart : ∀ id signal, store.signalsV1.lookup id = some signal →
    store.signals.lookup id = none

/-- A step that counts along: no trade makes a closed signal active again, nobody with an active
signal is banned, and no active record is migrated. -/
def SignalTransition.CountsAlong (taken : SignalTransition) : Prop :=
  taken.Returned →
  match taken.input.call with
  | .records _ signalId entryPrice exitPrice volume =>
    taken.pre.store.reopens taken.env.timestamp signalId entryPrice exitPrice volume = false
  | .bans _ provider _ => taken.pre.store.activeSignals provider = 0
  | .migrates _ batchSize =>
    ∀ id ∈ taken.pre.store.batchIds batchSize,
      ∀ signal ∈ taken.pre.store.signalsV1.lookup id, signal.id = id → signal.status ≠ .active
  | _ => True

instance (taken : SignalTransition) : Decidable taken.CountsAlong := by
  unfold SignalTransition.CountsAlong
  refine @instDecidableForall _ _ _
    (taken.input.call.casesOn ?_ ?_ ?_ ?_ ?_ ?_ ?_ ?_ ?_ ?_) <;> intros <;> infer_instance

/-- What a run keeps: exact counts over numbered signals. -/
structure CountKept (store : SignalStore) : Prop where
  counted : ∀ provider, (store.activeCount provider : Int) = store.activeSignals provider
  numbered : Numbered store

/-- The invariant says that each count is the number of active signals. -/
theorem CountKept.exact {store : SignalStore} (kept : CountKept store) : CountsExact store := by
  refine ⟨kept.counted, fun provider tier => ?_⟩
  rw [accepts_iff_wp, ← kept.counted]
  unfold validateProviderSignalLimit
  simp only [wp_rules, Int.ofNat_lt]
  simp

/-- The invariant reads the signals, the counter and the counts only. -/
theorem CountKept.of_same {pre after : SignalStore} (kept : CountKept pre)
    (signals : after.signals = pre.signals) (legacy : after.signalsV1 = pre.signalsV1)
    (counter : after.signalCounter = pre.signalCounter)
    (counts : after.activeCounts = pre.activeCounts) : CountKept after := by
  obtain ⟨counted, issued, known, apart⟩ := kept
  rw [← signals, ← counter] at issued
  rw [← legacy, ← counter] at known
  rw [← legacy, ← signals] at apart
  refine ⟨fun provider => ?_, issued, known, apart⟩
  rw [activeCount, activeSignals, counts, signals]
  exact counted provider

section Signals

variable {store : SignalStore} {provider other : Address} {id : Nat} {signal old : Signal}

theorem activeWeight_nonneg : 0 ≤ activeWeight provider id signal := by
  unfold activeWeight
  split <;> decide

theorem activeSignals_nonneg : 0 ≤ store.activeSignals provider :=
  sum_nonneg fun _ _ _ => activeWeight_nonneg

theorem activeWeight_le (hit : store.signals.lookup id = some signal) :
    activeWeight provider id signal ≤ store.activeSignals provider := by
  have part : Table.contribution (activeWeight provider) store.signals id ≤ _ :=
    contribution_le_sum (fun _ _ _ => activeWeight_nonneg) id
  rwa [contribution_of_some hit] at part

theorem activeWeight_inactive (closed : signal.status ≠ .active) :
    activeWeight provider id signal = 0 :=
  if_neg fun active => closed active.2

/-- Writing over a signal exchanges its weight. -/
theorem activeSignals_put_found (hit : store.signals.lookup id = some old) :
    (store.putSignal id signal).activeSignals provider =
      store.activeSignals provider - activeWeight provider id old +
        activeWeight provider id signal := by
  rw [activeSignals, putSignal, sum_insert, contribution_of_some hit]
  rfl

/-- A signal under a new id adds its weight. -/
theorem activeSignals_put_fresh (absent : store.signals.lookup id = none) :
    (store.putSignal id signal).activeSignals provider =
      store.activeSignals provider + activeWeight provider id signal := by
  rw [activeSignals, putSignal, sum_insert, contribution_of_none absent, sub_zero]
  rfl

/-- A removed signal takes its weight along. -/
theorem activeSignals_remove (hit : store.signals.lookup id = some old) :
    (store.removeSignal id).activeSignals provider =
      store.activeSignals provider - activeWeight provider id old := by
  rw [activeSignals, removeSignal, sum_erase, contribution_of_some hit]
  rfl

theorem activeCount_put (count : Nat) : (store.putCount provider count).activeCount other =
    if other = provider then count else store.activeCount other := by
  rw [activeCount, putCount, lookup_insert]
  split <;> rfl

theorem activeCount_decrement : (store.decrementActive provider).activeCount other =
    if other = provider then store.activeCount provider - 1 else store.activeCount other := by
  unfold decrementActive
  split
  next => exact activeCount_put _
  next empty =>
    split
    next same =>
      subst same
      omega
    next => rfl

theorem decrement_eq : ∃ counts,
    store.decrementActive provider = { store with activeCounts := counts } := by
  unfold decrementActive
  split
  next => exact ⟨_, rfl⟩
  next => exact ⟨store.activeCounts, rfl⟩

theorem Numbered.recount (numbered : Numbered store) (counts : Table Address Nat) :
    Numbered { store with activeCounts := counts } :=
  ⟨numbered.issued, numbered.legacy, numbered.apart⟩

theorem Numbered.decrement (numbered : Numbered store) (provider : Address) :
    Numbered (store.decrementActive provider) := by
  obtain ⟨counts, same⟩ := @decrement_eq store provider
  exact same ▸ numbered.recount counts

/-- Writing over a signal uses no new id. -/
theorem Numbered.put (numbered : Numbered store) (hit : store.signals.lookup id = some old) :
    Numbered (store.putSignal id signal) := by
  refine ⟨fun tested has known => ?_, numbered.legacy, fun tested legacy known => ?_⟩
  · rw [putSignal, lookup_insert] at known
    split at known
    next same => exact same ▸ numbered.issued id old hit
    next => exact numbered.issued tested has known
  · rw [putSignal, lookup_insert]
    split
    next same =>
      subst same
      cases (numbered.apart tested legacy known).symm.trans hit
    next => exact numbered.apart tested legacy known

/-- A signal may change as long as it stays as active as it was. -/
theorem CountKept.rewrite (kept : CountKept store)
    (hit : store.signals.lookup id = some old) (provided : signal.provider = old.provider)
    (activity : signal.status = .active ↔ old.status = .active) :
    CountKept (store.putSignal id signal) := by
  refine ⟨fun provider => ?_, kept.numbered.put hit⟩
  have same : activeWeight provider id signal = activeWeight provider id old := by
    simp only [activeWeight, provided, activity]
  rw [activeSignals_put_found hit, same, sub_add_cancel]
  exact kept.counted provider

/-- A signal that stops being active gives up one slot. -/
theorem CountKept.close (kept : CountKept store) (hit : store.signals.lookup id = some old)
    (active : old.status = .active) (closed : signal.status ≠ .active) :
    CountKept ((store.putSignal id signal).decrementActive old.provider) := by
  refine ⟨fun provider => ?_, (kept.numbered.put hit).decrement _⟩
  obtain ⟨counts, same⟩ := @decrement_eq (store.putSignal id signal) old.provider
  have signals : ((store.putSignal id signal).decrementActive old.provider).activeSignals
      provider = store.activeSignals provider - activeWeight provider id old := by
    rw [same]
    show (store.putSignal id signal).activeSignals provider = _
    rw [activeSignals_put_found hit, activeWeight_inactive closed, add_zero]
  have count := kept.counted provider
  have part : activeWeight provider id old ≤ _ := activeWeight_le hit
  rw [signals, activeCount_decrement]
  show ((if provider = old.provider then store.activeCount old.provider - 1
    else store.activeCount provider : Nat) : Int) = _
  by_cases own : provider = old.provider
  · subst own
    have one : activeWeight old.provider id old = 1 := if_pos ⟨rfl, active⟩
    rw [if_pos rfl]
    omega
  · have none : activeWeight provider id old = 0 := if_neg fun both => own both.1.symm
    rw [if_neg own]
    omega

/-- An active signal under the next id takes one slot. -/
theorem CountKept.add (kept : CountKept store)
    (fresh : store.signalCounter + 1 = id) (provided : signal.provider = provider)
    (active : signal.status = .active) (room : store.activeCount provider + 1 ≤ u32Max) :
    CountKept (({ store with signalCounter := id }.putSignal id signal).incrementActive
      provider) := by
  have absent : store.signals.lookup id = none := by
    cases known : store.signals.lookup id with
    | none => rfl
    | some has =>
      have issued := kept.numbered.issued id has known
      omega
  refine ⟨fun tested => ?_, fun tested has known => ?_, fun tested legacy known => ?_,
    fun tested legacy known => ?_⟩
  · have signals : (({ store with signalCounter := id }.putSignal id signal).incrementActive
        provider).activeSignals tested =
          store.activeSignals tested + activeWeight tested id signal :=
      @activeSignals_put_fresh { store with signalCounter := id } tested id signal absent
    have exactly : satCount u32Max (store.activeCount provider) 1 =
        store.activeCount provider + 1 := saturating_count_exact room
    have count := kept.counted tested
    rw [signals, incrementActive, activeCount_put]
    show ((if tested = provider then satCount u32Max (store.activeCount provider) 1
      else store.activeCount tested : Nat) : Int) = _
    rw [exactly]
    by_cases own : tested = provider
    · subst own
      have one : activeWeight tested id signal = 1 := if_pos ⟨provided, active⟩
      rw [if_pos rfl]
      omega
    · have none : activeWeight tested id signal = 0 :=
        if_neg fun both => own (both.1.symm.trans provided)
      rw [if_neg own]
      omega
  · have looked : (store.signals.insert id signal).lookup tested = some has := known
    rw [lookup_insert] at looked
    show tested ≤ id
    split at looked
    next same => exact same.le
    next =>
      have issued := kept.numbered.issued tested has looked
      omega
  · have issued := kept.numbered.legacy tested legacy known
    show tested ≤ id
    omega
  · have issued := kept.numbered.legacy tested legacy known
    show (store.signals.insert id signal).lookup tested = none
    rw [lookup_insert, if_neg (by omega)]
    exact kept.numbered.apart tested legacy known

/-- Empty statistics change no count. -/
theorem CountKept.initialized (kept : CountKept store) (provider : Address) :
    CountKept (initializeStats provider store) := by
  unfold initializeStats
  split
  next => exact kept
  next => exact kept.of_same rfl rfl rfl rfl

/-- Every tier limit is a 32-bit number. -/
theorem SignalStore.limitOf_le (store : SignalStore) (tier : Nat) :
    store.limitOf tier ≤ u32Max := by
  unfold limitOf
  split <;> exact Nat.le_of_lt_succ (Fin.isLt _)

end Signals

/-- A change of swept signals: each closes or goes, and the counts are left for later. -/
structure Retires (retire : SignalStore → Nat × Signal → SignalStore) : Prop where
  signals : ∀ store entry provider, store.signals.lookup entry.1 = some entry.2 →
    (retire store entry).activeSignals provider =
      store.activeSignals provider - activeWeight provider entry.1 entry.2
  elsewhere : ∀ store entry id, id ≠ entry.1 →
    (retire store entry).signals.lookup id = store.signals.lookup id
  numbered : ∀ store entry, Numbered store →
    store.signals.lookup entry.1 = some entry.2 → Numbered (retire store entry)
  counts : ∀ store entry, (retire store entry).activeCounts = store.activeCounts

/-- Marking signals expired retires them. -/
theorem retires_expired : Retires fun store entry =>
    store.putSignal entry.1 { entry.2 with status := .expired } := by
  refine ⟨fun store entry provider hit => ?_, fun store entry id differ => ?_,
    fun store entry numbered hit => numbered.put hit, fun _ _ => rfl⟩
  · have closed : activeWeight provider entry.1 { entry.2 with status := .expired } = 0 :=
      activeWeight_inactive fun active => (by cases active)
    rw [activeSignals_put_found hit, closed, add_zero]
  · rw [putSignal, lookup_insert, if_neg differ]

/-- Removing signals retires them. -/
theorem retires_removed : Retires fun store entry => store.removeSignal entry.1 := by
  refine ⟨fun store entry provider hit => activeSignals_remove hit,
    fun store entry id differ => ?_, fun store entry numbered _ => ?_, fun _ _ => rfl⟩
  · rw [removeSignal, lookup_erase, if_neg differ]
  · refine ⟨fun id signal known => ?_, numbered.legacy, fun id legacy known => ?_⟩
    · rw [removeSignal, lookup_erase] at known
      split at known
      next => cases known
      next => exact numbered.issued id signal known
    · rw [removeSignal, lookup_erase]
      split
      next => rfl
      next => exact numbered.apart id legacy known

section Sweeps

variable {store : SignalStore} {entries : List (Nat × Signal)}
variable {retire : SignalStore → Nat × Signal → SignalStore}

/-- The active signals of a provider among the swept ones. -/
def sweptActive (provider : Address) (entries : List (Nat × Signal)) : Nat :=
  entries.countP fun entry => entry.2.provider = provider ∧ entry.2.status = .active

theorem sweptActive_cons (provider : Address) (entry : Nat × Signal) :
    (sweptActive provider (entry :: entries) : Int) =
      sweptActive provider entries + activeWeight provider entry.1 entry.2 := by
  rw [sweptActive, List.countP_cons, activeWeight, sweptActive]
  split <;> split <;> simp_all

/-- The induction is on what was swept; the ids are distinct, so each signal is still there
when its turn comes. -/
theorem Retires.sweep (retires : Retires retire) (numbered : Numbered store)
    (distinct : (entries.map Prod.fst).Nodup)
    (hit : ∀ entry ∈ entries, store.signals.lookup entry.1 = some entry.2) :
    (∀ provider, (entries.foldl retire store).activeSignals provider =
        store.activeSignals provider - sweptActive provider entries) ∧
      (entries.foldl retire store).activeCounts = store.activeCounts ∧
      Numbered (entries.foldl retire store) := by
  induction entries generalizing store with
  | nil => exact ⟨fun provider => (sub_zero _).symm, rfl, numbered⟩
  | cons entry rest ih =>
    obtain ⟨fresh, restDistinct⟩ := List.nodup_cons.mp distinct
    have own := hit entry List.mem_cons_self
    have still : ∀ other ∈ rest,
        (retire store entry).signals.lookup other.1 = some other.2 := by
      intro other mem
      rw [retires.elsewhere store entry other.1 fun same =>
        fresh (same ▸ List.mem_map_of_mem mem)]
      exact hit other (List.mem_cons_of_mem _ mem)
    obtain ⟨signals, counts, last⟩ := ih
      (retires.numbered store entry numbered own) restDistinct still
    refine ⟨fun provider => ?_, counts.trans (retires.counts store entry), last⟩
    rw [List.foldl_cons, signals, retires.signals store entry provider own, sweptActive_cons]
    omega

/-- Giving up slots lowers each count by what the provider had among the entries. -/
theorem releaseSlots_spec (store : SignalStore) (entries : List (Nat × Signal)) :
    (∃ counts, releaseSlots entries store = { store with activeCounts := counts }) ∧
      ∀ provider, (releaseSlots entries store).activeCount provider =
        store.activeCount provider - sweptActive provider entries := by
  induction entries generalizing store with
  | nil => exact ⟨⟨store.activeCounts, rfl⟩, fun _ => rfl⟩
  | cons entry rest ih =>
    rw [releaseSlots, List.foldl_cons]
    split
    next active =>
      obtain ⟨⟨counts, same⟩, released⟩ :=
        ih (store.decrementActive entry.2.provider)
      obtain ⟨prior, decremented⟩ := @decrement_eq store entry.2.provider
      refine ⟨⟨counts, same.trans (by rw [decremented])⟩, fun provider => ?_⟩
      refine (released provider).trans ?_
      rw [activeCount_decrement, sweptActive, sweptActive, List.countP_cons]
      by_cases own : provider = entry.2.provider
      · subst own
        simp only [if_true, active, and_self, decide_true]
        omega
      · simp only [if_neg own, Ne.symm own, false_and, decide_false, Bool.false_eq_true,
          if_false, Nat.add_zero]
    next closed =>
      obtain ⟨same, released⟩ := ih store
      refine ⟨same, fun provider => (released provider).trans ?_⟩
      rw [sweptActive, sweptActive, List.countP_cons]
      simp only [closed, and_false, decide_false, Bool.false_eq_true, if_false, Nat.add_zero]

/-- A sweep retires distinct signals and gives up their slots. -/
theorem CountKept.sweep (kept : CountKept store) (retires : Retires retire)
    (distinct : (entries.map Prod.fst).Nodup)
    (hit : ∀ entry ∈ entries, store.signals.lookup entry.1 = some entry.2) :
    CountKept (releaseSlots entries (entries.foldl retire store)) := by
  obtain ⟨signals, counts, numbered⟩ := retires.sweep kept.numbered distinct hit
  obtain ⟨⟨later, same⟩, released⟩ := releaseSlots_spec (entries.foldl retire store) entries
  refine ⟨fun provider => ?_, same ▸ numbered.recount later⟩
  have remaining : (0 : Int) ≤ (entries.foldl retire store).activeSignals provider :=
    activeSignals_nonneg
  have lands : (releaseSlots entries (entries.foldl retire store)).activeSignals provider =
      (entries.foldl retire store).activeSignals provider := by rw [same]; rfl
  have counted : (entries.foldl retire store).activeCount provider =
      store.activeCount provider := by
    rw [activeCount, counts, activeCount]
  have count := kept.counted provider
  rw [released, counted, lands]
  rw [signals] at remaining ⊢
  omega

variable {ids : List Nat} {test : Signal → Bool}

theorem select_distinct (distinct : ids.Nodup) : ((store.select test ids).map Prod.fst).Nodup := by
  refine List.Sublist.nodup ?_ distinct
  unfold select
  induction ids with
  | nil => exact .slnil
  | cons id rest ih =>
    rw [List.filterMap_cons]
    have onward := ih (List.nodup_cons.mp distinct).2
    split
    next => exact onward.cons id
    next entry kept =>
      obtain ⟨signal, _, rfl⟩ := Option.map_eq_some_iff.mp kept
      exact onward.cons_cons id

/-- A selected entry is stored as it was selected. -/
theorem select_found {entry : Nat × Signal} (mem : entry ∈ store.select test ids) :
    store.signals.lookup entry.1 = some entry.2 := by
  obtain ⟨id, _, kept⟩ := List.mem_filterMap.mp mem
  obtain ⟨signal, passed, rfl⟩ := Option.map_eq_some_iff.mp kept
  exact Option.eq_some_of_filter_eq_some passed

theorem SignalStore.sortedIds_distinct (store : SignalStore) : store.sortedIds.Nodup :=
  (List.perm_insertionSort _ _).nodup_iff.mpr store.signals.keys_nodup

/-- A window of distinct ids names none twice. -/
theorem cursorWindow_distinct (distinct : ids.Nodup) (cursor budget : Nat) :
    (cursorWindow ids cursor budget).Nodup :=
  (List.nodup_rotate.mpr distinct).sublist (List.take_sublist _ _)

end Sweeps

end StellarSwipe.SignalRegistry
