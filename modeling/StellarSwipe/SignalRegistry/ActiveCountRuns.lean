import StellarSwipe.SignalRegistry.ActiveCounts

/-!
# Runs that count along

The counts stay exact in every run in which no closed signal is made active by a trade, nobody
with an active signal is banned, and no active legacy record is migrated.
-/

namespace StellarSwipe.SignalRegistry

open FixedWidth Program Runs Table

section Operations

variable {store : SignalStore} {env : Env} {gates : Gates} {provider : Address}

/-- The storage of an operation that keeps the counts. -/
def Keeps (program : SignalProgram Unit) (store : SignalStore) : Prop :=
  wp program (fun _ after => CountKept after) (fun _ _ => True) store

/-- A new signal is counted for its provider. -/
theorem createSignalInternal_kept (kept : CountKept store) (provider : Address)
    (action : SignalAction) (price : Int) (expiry : Nat) :
    wlp (createSignalInternal env gates provider action price expiry)
      (fun _ after => CountKept after) store := by
  unfold createSignalInternal validateProviderSignalLimit nextSignalId
  simp only [wlp_rules, checkedCount_eq_some]
  rintro _ _ _ _ _ _ _ _ _ below _ _ _ _ counter ⟨_, rfl⟩ _
  have bound := store.limitOf_le (store.stakeTier provider)
  exact (kept.add rfl rfl rfl (Nat.succ_le_of_lt (below.trans_le bound))).initialized provider

/-- Creating a signal keeps the counts exact. -/
theorem createSignal_kept (kept : CountKept store) (provider : Address)
    (action : SignalAction) (price : Int) (expiry : Nat) :
    wlp (createSignal env gates provider action price expiry)
      (fun _ after => CountKept after) store := by
  unfold createSignal
  simp only [wlp_rules]
  exact fun _ => createSignalInternal_kept kept provider action price expiry

/-- A template is a creation with a price of its own. -/
theorem submitSignalFromTemplate_kept (kept : CountKept store) (provider : Address)
    (action : SignalAction) (price : Int) (expiryHours : Nat) :
    wlp (submitSignalFromTemplate env gates provider action price expiryHours)
      (fun _ after => CountKept after) store := by
  unfold submitSignalFromTemplate
  simp only [wlp_rules]
  exact fun expiry _ => createSignal_kept kept provider action price expiry

/-- A read that finds a signal expired gives up its slot. -/
theorem getSignal_kept (kept : CountKept store) (signalId : Nat) :
    wlp (getSignal env gates signalId) (fun _ after => CountKept after) store := by
  unfold getSignal
  simp only [wlp_rules]
  intro _
  cases hit : store.signals.lookup signalId with
  | none => exact kept
  | some signal =>
    simp only [checkProviderExists, not_true_eq_false, and_false, wp_ite, wp_rules, false_implies,
      not_false_eq_true, true_implies, true_and]
    refine ⟨fun due => ?_, fun live => ?_⟩
    · simp only [if_pos due]
      have closed := @CountKept.close store signalId { signal with status := .expired } signal
        kept hit due.1 (fun active => (by cases active))
      refine ⟨fun _ => @CountKept.rewrite _ signalId _ { signal with status := .expired } closed ?_
        rfl Iff.rfl, fun _ => closed⟩
      obtain ⟨counts, same⟩ := @decrement_eq
        (store.putSignal signalId { signal with status := .expired }) signal.provider
      rw [same]
      exact (lookup_insert _ _ _ _).trans (if_pos rfl)
    · simp only [if_neg live]
      exact ⟨fun _ => kept.rewrite hit rfl Iff.rfl, fun _ => kept⟩

/-- The statistics of a provider are no part of the counts. -/
theorem recordPerformance_kept (kept : CountKept store) (oldStatus : SignalStatus)
    {updated : Signal} {stops : Prop} :
    wlp (recordPerformance oldStatus updated) (fun _ after => ¬ stops → CountKept after) store := by
  unfold recordPerformance
  simp only [wlp_rules, wp_ite]
  exact ⟨fun _ _ _ _ => kept.of_same rfl rfl rfl rfl, fun _ _ => kept⟩

/-- A trade that reopens nothing keeps the counts exact. -/
theorem recordTradeExecution_kept (kept : CountKept store) (executor : Address) (signalId : Nat)
    (entryPrice exitPrice volume : Int)
    (stays : store.reopens env.timestamp signalId entryPrice exitPrice volume = false) :
    Keeps (recordTradeExecution env gates executor signalId entryPrice exitPrice volume) store := by
  unfold Keeps recordTradeExecution
  simp only [wlp_rules, wp_ite]
  rintro _ _ _ _ _ _ signal hit roi gave traded updated
  obtain ⟨_, rfl⟩ := updateSignalStats_eq updated
  generalize evaluated : evaluateSignalStatus _ env.timestamp = newStatus
  refine ⟨fun closes => recordPerformance_kept (kept.close hit closes.1 closes.2) _,
    fun stays' => recordPerformance_kept ?_ _⟩
  refine kept.rewrite hit rfl ⟨fun active => ?_, fun active => ?_⟩
  · by_contra closed
    have active : newStatus = .active := active
    simp [SignalStore.reopens, hit, closed, gave, updated, evaluated, active] at stays
  · by_contra closed
    exact stays' ⟨active, closed⟩

/-- A cancelled signal gives up its slot. -/
theorem cancelSignal_kept (kept : CountKept store) (provider : Address) (signalId : Nat) :
    Keeps (cancelSignal env gates provider signalId) store := by
  unfold Keeps cancelSignal
  simp only [wlp_rules]
  intro _ _ signal hit owned active _
  exact owned ▸ kept.close hit active fun cancelled => (by cases cancelled)

/-- A ban changes no signal of a provider without active ones. -/
theorem failSignal_idle (idle : store.activeSignals provider = 0) (id : Nat) :
    failSignal provider store id = store := by
  unfold failSignal
  cases hit : store.signals.lookup id with
  | none => rfl
  | some signal =>
    refine if_neg fun active => ?_
    have part : activeWeight provider id signal ≤ _ := activeWeight_le hit
    rw [idle, activeWeight, if_pos active] at part
    omega

/-- A ban of a provider without active signals keeps the counts exact. -/
theorem banProvider_kept (kept : CountKept store) (caller : Address)
    (reasonHash : String) (idle : store.activeSignals provider = 0) :
    Keeps (banProvider env gates caller provider reasonHash) store := by
  unfold Keeps banProvider
  simp only [wlp_rules]
  intro _ _ _
  have still (reasons : Table Address String) (id : Nat) :
      failSignal provider { store with banReasons := reasons } id =
        { store with banReasons := reasons } :=
    @failSignal_idle { store with banReasons := reasons } provider idle id
  rw [applyBan, List.foldl_fixed' (still _)]
  exact kept.of_same rfl rfl rfl rfl

/-- The cleanup gives up the slots of what it removes. -/
theorem cleanupExpiredSignals_kept (kept : CountKept store) (limit : Nat) :
    wlp (cleanupExpiredSignals env gates limit) (fun _ after => CountKept after) store := by
  unfold cleanupExpiredSignals
  simp only [wlp_rules]
  intro _
  have moved (cursor : Nat) : CountKept { store with expiryCleanupCursor := cursor } :=
    kept.of_same rfl rfl rfl rfl
  exact (moved _).sweep retires_expired
    (select_distinct (cursorWindow_distinct store.sortedIds_distinct _ _))
    fun entry mem => select_found mem

/-- Pruning gives up the slots of what it removes. -/
theorem pruneExpiredSignals_kept (kept : CountKept store) (caller : Address) (maxEntries : Nat) :
    wlp (pruneExpiredSignals env gates caller maxEntries) (fun _ after => CountKept after)
      store := by
  unfold pruneExpiredSignals
  simp only [wlp_rules]
  intro _ _ _
  have part := List.take_sublist maxEntries
    (store.select (·.isExpired env.timestamp) store.sortedIds)
  exact kept.sweep retires_removed
    ((select_distinct store.sortedIds_distinct).sublist (part.map Prod.fst))
    fun entry mem => select_found (part.mem mem)

/-- The archive gives up the slots of what it removes. -/
theorem archiveOldSignals_kept (kept : CountKept store) (limit : Nat) :
    wlp (archiveOldSignals env gates limit) (fun _ after => CountKept after) store := by
  unfold archiveOldSignals
  simp only [wlp_rules]
  intro _
  have moved (cursor : Nat) : CountKept { store with archiveCursor := cursor } :=
    kept.of_same rfl rfl rfl rfl
  exact (moved _).sweep retires_removed
    (select_distinct (cursorWindow_distinct store.sortedIds_distinct _ _))
    fun entry mem => select_found mem

/-- What is left of the legacy records stood before. -/
theorem migrateSignal_v1 (id tested : Nat) (signal : SignalV1)
    (left : (migrateSignal store id).signalsV1.lookup tested = some signal) :
    store.signalsV1.lookup tested = some signal := by
  unfold migrateSignal at left
  split at left
  next => exact left
  next =>
    split at left
    next =>
      rw [lookup_erase] at left
      split at left
      next => cases left
      next => exact left
    next => exact left

/-- A legacy record that is not active moves uncounted. -/
theorem migrateSignal_kept (kept : CountKept store) (id : Nat)
    (inactive : ∀ signal ∈ store.signalsV1.lookup id, signal.id = id → signal.status ≠ .active) :
    CountKept (migrateSignal store id) := by
  unfold migrateSignal
  split
  next => exact kept
  next signal hit =>
    split
    next own =>
      have absent := kept.numbered.apart id signal hit
      refine ⟨fun provider => ?_, fun tested has known => ?_, fun tested legacy known => ?_,
        fun tested legacy known => ?_⟩
      · have closed : activeWeight provider id (v1ToV2 signal) = 0 :=
          activeWeight_inactive (inactive signal hit own)
        refine (kept.counted provider).trans ?_
        show _ = (store.putSignal id (v1ToV2 signal)).activeSignals provider
        rw [activeSignals_put_fresh absent, closed, add_zero]
      · have looked : (store.signals.insert id (v1ToV2 signal)).lookup tested = some has :=
          known
        rw [lookup_insert] at looked
        split at looked
        next same => exact same ▸ kept.numbered.legacy id signal hit
        next => exact kept.numbered.issued tested has looked
      · rw [lookup_erase] at known
        split at known
        next => cases known
        next => exact kept.numbered.legacy tested legacy known
      · rw [lookup_erase] at known
        split at known
        next => cases known
        next differ =>
          refine (lookup_insert _ _ _ _).trans ((if_neg differ).trans ?_)
          exact kept.numbered.apart tested legacy known
    next => exact kept

/-- A batch without active records. The induction is on the ids that it scans. -/
theorem migrateBatch_kept (kept : CountKept store) (ids : List Nat)
    (inactive : ∀ id ∈ ids, ∀ signal ∈ store.signalsV1.lookup id,
      signal.id = id → signal.status ≠ .active) : CountKept (ids.foldl migrateSignal store) := by
  induction ids generalizing store with
  | nil => exact kept
  | cons id rest ih =>
    refine ih (migrateSignal_kept kept id (inactive id List.mem_cons_self)) ?_
    intro other mem signal left
    exact inactive other (List.mem_cons_of_mem _ mem) signal
      (migrateSignal_v1 id other signal left)

/-- A batch of legacy records that are not active keeps the counts exact. -/
theorem migrateSignalsV1ToV2_kept (kept : CountKept store) (caller : Address) (batchSize : Nat)
    (inactive : ∀ id ∈ store.batchIds batchSize, ∀ signal ∈ store.signalsV1.lookup id,
      signal.id = id → signal.status ≠ .active) :
    Keeps (migrateSignalsV1ToV2 env gates caller batchSize) store := by
  have batch := migrateBatch_kept kept (store.batchIds batchSize) inactive
  unfold Keeps migrateSignalsV1ToV2
  simp only [wlp_rules, wp_ite]
  intro _ _ _ _ _
  exact ⟨fun _ => kept, fun _ => ⟨fun _ => kept.of_same rfl rfl rfl rfl, fun _ =>
    ⟨fun _ => batch.of_same rfl rfl rfl rfl, fun _ => batch.of_same rfl rfl rfl rfl⟩⟩⟩

end Operations

/-- One step keeps the counts exact. -/
theorem CountKept.step {ledger : Ledger SignalStore} {input : SignalInput}
    (kept : CountKept ledger.store)
    (along : SignalTransition.CountsAlong ⟨ledger, input, signalStep input ledger⟩) :
    CountKept (signalStep input ledger).store := by
  by_cases gave : SignalTransition.Returned ⟨ledger, input, signalStep input ledger⟩
  · have allowed := along gave
    suffices specified : wlp (input.call.run (ledger.env input.arrival) input.gates)
        (fun _ after => CountKept after) ledger.store from
      invoke_rule (wp_mono specified (fun _ _ later => later) fun _ _ _ => kept)
    cases called : input.call with
    | creates provider action price expiry =>
      simp only [SignalCall.run, wp_discard]
      exact createSignal_kept kept provider action price expiry
    | createsFromTemplate provider action price expiryHours =>
      simp only [SignalCall.run, wp_discard]
      exact submitSignalFromTemplate_kept kept provider action price expiryHours
    | gets signalId =>
      simp only [SignalCall.run, wp_discard]
      exact getSignal_kept kept signalId
    | records executor signalId entryPrice exitPrice volume =>
      simp only [called] at allowed
      exact recordTradeExecution_kept kept executor signalId _ _ _ allowed
    | cancels provider signalId => exact cancelSignal_kept kept provider signalId
    | bans caller provider reasonHash =>
      simp only [called] at allowed
      exact banProvider_kept kept caller reasonHash allowed
    | cleansUp limit =>
      simp only [SignalCall.run, wp_discard]
      exact cleanupExpiredSignals_kept kept limit
    | prunes caller maxEntries =>
      simp only [SignalCall.run, wp_discard]
      exact pruneExpiredSignals_kept kept caller maxEntries
    | archives limit =>
      simp only [SignalCall.run, wp_discard]
      exact archiveOldSignals_kept kept limit
    | migrates caller batchSize =>
      simp only [called] at allowed
      exact migrateSignalsV1ToV2_kept kept caller batchSize allowed
  · have same : (signalStep input ledger).store = ledger.store := invoke_of_rejected gave
    exact same ▸ kept

/-- From numbered signals with exact counts, every run that counts along keeps the counts exact,
and the limits admit by the active signals. -/
theorem active_counts_exact (start : Ledger SignalStore) (exact : CountsExact start.store)
    (numbered : Numbered start.store) (inputs : List SignalInput)
    (along : ∀ taken ∈ trace signalStep start inputs, SignalTransition.CountsAlong taken) :
    CountsExact (final signalStep start inputs).store := by
  have kept := transition_history_invariant signalStep (fun _ ledger => CountKept ledger.store)
    SignalTransition.CountsAlong (fun _ _ _ along kept => kept.step along) start
    ⟨exact.counted, numbered⟩ inputs along
  exact kept.exact

/-- No signals yet, with the default limits. -/
def registryStart (admin : Address) (timestamp sequence : Nat) : Ledger SignalStore where
  store := ⟨admin, [], 0, ∅, ∅, ∅, ∅, ∅, ∅, ∅, 20, 10, 5, 0, 0, 0, 1, 2⟩
  timestamp
  sequence

/-- An empty registry counts exactly. -/
theorem registryStart_exact (admin : Address) (timestamp sequence : Nat) :
    CountKept (registryStart admin timestamp sequence).store :=
  ⟨fun _ => rfl, fun _ _ hit => (by cases hit), fun _ _ hit => (by cases hit),
    fun _ _ hit => (by cases hit)⟩

/-- Provider 5 creates a signal that expires at 5000. -/
def createdSignal : SignalInput :=
  ⟨⟨1, 1, [5]⟩, .clear, .creates 5 .buy (amountOf 100) 5000⟩

def bannedProvider : SignalInput := ⟨⟨1, 1, [1]⟩, .clear, .bans 1 5 "evidence"⟩

/-- A ban takes the signal out of the active ones and leaves the count. -/
theorem ban_keeps_count :
    ¬ ∀ (start : Ledger SignalStore), CountsExact start.store → Numbered start.store →
      ∀ inputs, CountsExact (final signalStep start inputs).store := by
  intro every
  have kept := registryStart_exact 1 1000 10
  have counted := (every (registryStart 1 1000 10) kept.exact kept.numbered
    [createdSignal, bannedProvider]).counted 5
  revert counted
  decide +kernel

/-- A trade that closes a signal, and another that expires, are counted out. -/
theorem closed_signals_counted_out : CountsExact (final signalStep (registryStart 1 1000 10)
      [createdSignal, createdSignal,
        ⟨⟨1, 1, [7]⟩, .clear, .records 7 1 (amountOf 100) (amountOf 110) (amountOf 1000)⟩,
        ⟨⟨9000, 9, []⟩, .clear, .cleansUp 0⟩]).store :=
  active_counts_exact (registryStart 1 1000 10) (registryStart_exact 1 1000 10).exact
    (registryStart_exact 1 1000 10).numbered _ (by decide +kernel)

end StellarSwipe.SignalRegistry
