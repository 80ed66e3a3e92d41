import StellarSwipe.SignalRegistry.ActiveCountRuns

/-!
# Closed signals in the performance of a provider

A signal that closes as a success or a failure adds one signal and its volume to its provider's
performance.
-/

namespace StellarSwipe.SignalRegistry

open FixedWidth Program Runs Table SignalStore

def Signal.Closed (signal : Signal) : Prop :=
  signal.status = .successful ∨ signal.status = .failed ∨ signal.status = .cancelled ∨
    signal.status = .expired
deriving Decidable

/-- The totals of a provider add up, and the rate is that of the successes. -/
structure ProviderPerformance.Exact (stats : ProviderPerformance) : Prop where
  total : stats.totalSignals = stats.successfulSignals + stats.failedSignals
  rate : 0 < stats.totalSignals →
    stats.successRate = 10000 * stats.successfulSignals / stats.totalSignals

namespace SignalTransition

variable (taken : SignalTransition)

def Trades (signalId : Nat) : Prop :=
  match taken.input.call with
  | .records _ traded _ _ _ => traded = signalId
  | _ => False

instance (signalId : Nat) : Decidable (taken.Trades signalId) := by
  unfold Trades
  refine taken.input.call.casesOn ?_ ?_ ?_ ?_ ?_ ?_ ?_ ?_ ?_ ?_ <;> intros <;> infer_instance

def gain (measure : ProviderPerformance → Int) (provider : Address) (signalId : Nat) : Int :=
  if taken.Trades signalId then
    measure (taken.after.store.statsOf provider) -
      measure (taken.pre.store.statsOf provider)
  else 0

/-- No trade makes a signal that is not active active again. -/
def StaysClosed : Prop :=
  taken.Returned →
  match taken.input.call with
  | .records _ signalId entryPrice exitPrice volume =>
    taken.pre.store.reopens taken.env.timestamp signalId entryPrice exitPrice volume = false
  | _ => True

instance : Decidable taken.StaysClosed := by
  unfold StaysClosed
  refine @instDecidableForall _ _ _
    (taken.input.call.casesOn ?_ ?_ ?_ ?_ ?_ ?_ ?_ ?_ ?_ ?_) <;> intros <;> infer_instance

end SignalTransition

def gained (measure : ProviderPerformance → Int) (past : List SignalTransition)
    (provider : Address) (signalId : Nat) : Int :=
  (past.map fun taken => taken.gain measure provider signalId).sum

def signalsGained : List SignalTransition → Address → Nat → Int := gained (·.totalSignals)

def volumeGained : List SignalTransition → Address → Nat → Int := gained (·.totalVolume)

structure CountsOnce (past : List SignalTransition) (store : SignalStore) : Prop where
  stayClosed : ∀ taken ∈ past, ∀ signalId old,
    taken.pre.store.signals.lookup signalId = some old →
    ∃ new, taken.after.store.signals.lookup signalId = some new ∧
      new.provider = old.provider ∧ (old.Closed → new.Closed)
  owner : ∀ taken ∈ past, ∀ provider,
    taken.after.store.statsOf provider ≠ taken.pre.store.statsOf provider →
    ∃ signalId, taken.Trades signalId ∧
      ∃ signal ∈ taken.pre.store.signals.lookup signalId, signal.provider = provider
  once : ∀ provider signalId, signalsGained past provider signalId ≤ 1
  volume : ∀ provider signalId, ∀ signal ∈ store.signals.lookup signalId,
    volumeGained past provider signalId ≤ signal.totalVolume
  stats : ∀ provider, (store.statsOf provider).Exact

/-- The calls that a provider, its executors, the admin and a cleanup make; signals are neither
removed nor taken over from the legacy records. -/
def SignalCall.Registers : SignalCall → Prop
  | .prunes _ _ => False
  | .archives _ => False
  | .migrates _ _ => False
  | _ => True

instance (call : SignalCall) : Decidable call.Registers := by
  unfold SignalCall.Registers
  refine call.casesOn ?_ ?_ ?_ ?_ ?_ ?_ ?_ ?_ ?_ ?_ <;> intros <;> infer_instance

/-- No signals and no performance yet. -/
structure Blank (store : SignalStore) : Prop where
  signals : store.signals = ∅
  stats : store.providerStats = ∅

/-- One more signal of some volume. -/
structure ProviderPerformance.Counts (pre after : ProviderPerformance) (volume : Int) : Prop where
  totalSignals : after.totalSignals = pre.totalSignals + 1
  totalVolume : after.totalVolume = pre.totalVolume + volume
  exact : pre.Exact → after.Exact

/-- The update counts a signal that goes from open to closed, and nothing else. -/
theorem updateProviderPerformance_spec {stats after : ProviderPerformance}
    {oldStatus newStatus : SignalStatus} {signalRoi signalVolume : Int}
    (updated : updateProviderPerformance stats oldStatus newStatus signalRoi signalVolume =
      some after) : after = stats ∨ (oldStatus = .active ∨ oldStatus = .pending) ∧
        (newStatus = .successful ∨ newStatus = .failed) ∧ stats.Counts after signalVolume := by
  unfold updateProviderPerformance at updated
  split at updated
  next => exact .inl (Option.some.inj updated).symm
  next closing =>
    obtain ⟨open', closed⟩ := not_not.mp closing
    obtain ⟨total, counted, rest⟩ := Option.bind_eq_some_iff.mp updated
    obtain ⟨successes, succeeded, rest⟩ := Option.bind_eq_some_iff.mp rest
    obtain ⟨failures, failed, rest⟩ := Option.bind_eq_some_iff.mp rest
    obtain ⟨volume, summed, rest⟩ := Option.bind_eq_some_iff.mp rest
    obtain ⟨_, rfl⟩ := (checkedCount_eq_some _ _ _ _).mp counted
    obtain ⟨_, rfl⟩ := i128.checked_ok summed
    cases rest
    refine .inr ⟨open', closed, rfl, rfl, fun exact => ?_⟩
    have counts : stats.totalSignals + 1 = successes + failures := by
      have total := exact.total
      rcases closed with rfl | rfl <;>
        simp only [if_true, if_false, reduceCtorEq, Option.some.injEq, checkedCount_eq_some]
          at succeeded failed <;> omega
    refine ⟨counts, fun _ => ?_⟩
    -- the rate is at most 10000, so the cast to 32 bits loses nothing
    have part : successes * 10000 / (stats.totalSignals + 1) ≤ 10000 :=
      Nat.div_le_of_le_mul (by omega)
    show successes * 10000 / (stats.totalSignals + 1) % 2 ^ 32 = _
    rw [Nat.mod_eq_of_lt (by omega), Nat.mul_comm]

theorem statsOf_insert (store : SignalStore) (provider tested : Address)
    (stats : ProviderPerformance) :
    { store with providerStats := store.providerStats.insert provider stats }.statsOf tested =
      if tested = provider then stats else store.statsOf tested := by
  rw [statsOf, lookup_insert]
  split <;> rfl

theorem statsOf_initialized (store : SignalStore) (provider tested : Address) :
    (initializeStats provider store).statsOf tested = store.statsOf tested := by
  unfold initializeStats
  split
  next => rfl
  next absent =>
    rw [statsOf_insert]
    split
    next same =>
      subst same
      rw [statsOf, Option.not_isSome_iff_eq_none.mp absent]
      rfl
    next => rfl

/-- A signal that was executed is not pending any more. -/
theorem evaluate_executed {signal : Signal} {now : Nat} (executed : signal.executions ≠ 0) :
    evaluateSignalStatus signal now = .successful ∨ evaluateSignalStatus signal now = .failed ∨
      evaluateSignalStatus signal now = .active := by
  unfold evaluateSignalStatus
  rw [if_neg fun idle => executed idle.2, if_neg executed]
  dsimp only
  split
  next => exact .inl rfl
  next =>
    split
    next => exact .inr (.inl rfl)
    next => exact .inr (.inr rfl)

/-- What a stored signal keeps. -/
structure Signal.Precedes (old new : Signal) : Prop where
  provider : new.provider = old.provider
  volume : old.totalVolume ≤ new.totalVolume
  closed : old.Closed → new.Closed

theorem Signal.Precedes.refl (signal : Signal) : signal.Precedes signal :=
  ⟨rfl, le_rfl, fun closed => closed⟩

theorem Signal.Precedes.trans {first second third : Signal} (prior : first.Precedes second)
    (later : second.Precedes third) : first.Precedes third :=
  ⟨later.provider.trans prior.provider, prior.volume.trans later.volume,
    later.closed ∘ prior.closed⟩

/-- No signal comes or goes or is opened again, and no performance changes. -/
structure Quiet (pre after : SignalStore) : Prop where
  signals : ∀ signalId, Option.Rel Signal.Precedes (pre.signals.lookup signalId)
    (after.signals.lookup signalId)
  stats : ∀ provider, after.statsOf provider = pre.statsOf provider
  counter : after.signalCounter = pre.signalCounter

/-- One new open signal without volume, under the next id. -/
structure Created (pre after : SignalStore) (signal : Signal) : Prop where
  signals : after.signals = pre.signals.insert (pre.signalCounter + 1) signal
  fresh : ¬ signal.Closed ∧ signal.totalVolume = 0
  stats : ∀ provider, after.statsOf provider = pre.statsOf provider
  counter : after.signalCounter = pre.signalCounter + 1

/-- One signal is traded, and its provider's performance counts it if that closes it. -/
structure Traded (pre after : SignalStore) (signalId : Nat) (signal updated : Signal) : Prop where
  hit : pre.signals.lookup signalId = some signal
  signals : after.signals = pre.signals.insert signalId updated
  precedes : signal.Precedes updated
  counter : after.signalCounter = pre.signalCounter
  scored : (∀ provider, after.statsOf provider = pre.statsOf provider) ∨
    ¬ signal.Closed ∧ updated.Closed ∧ ∃ stats : ProviderPerformance,
      (∀ provider, after.statsOf provider =
        if provider = signal.provider then stats else pre.statsOf provider) ∧
      (pre.statsOf signal.provider).Counts stats updated.totalVolume

section Quiet

variable {pre middle after : SignalStore} {signalId : Nat} {old new : Signal}

theorem Quiet.refl (store : SignalStore) : Quiet store store := by
  refine ⟨fun signalId => ?_, fun _ => rfl, rfl⟩
  cases store.signals.lookup signalId with
  | none => exact .none
  | some signal => exact .some (.refl signal)

theorem Quiet.of_same (quiet : Quiet pre middle) (signals : after.signals = middle.signals)
    (stats : after.providerStats = middle.providerStats)
    (counter : after.signalCounter = middle.signalCounter) : Quiet pre after := by
  refine ⟨fun signalId => ?_, fun provider => ?_, counter.trans quiet.counter⟩
  · rw [signals]
    exact quiet.signals signalId
  · rw [statsOf, stats]
    exact quiet.stats provider

theorem Quiet.decrement (quiet : Quiet pre middle) (provider : Address) :
    Quiet pre (middle.decrementActive provider) := by
  obtain ⟨counts, same⟩ := @decrement_eq middle provider
  exact quiet.of_same (same ▸ rfl) (same ▸ rfl) (same ▸ rfl)

/-- A signal may be written over by a later version of itself. -/
theorem Quiet.overwrite (quiet : Quiet pre middle)
    (hit : pre.signals.lookup signalId = some old) (precedes : old.Precedes new) :
    Quiet pre (middle.putSignal signalId new) := by
  refine ⟨fun tested => ?_, quiet.stats, quiet.counter⟩
  rw [putSignal, lookup_insert]
  split
  next same =>
    rw [same, hit]
    exact .some precedes
  next => exact quiet.signals tested

/-- The same after other quiet writes. -/
theorem Quiet.put (quiet : Quiet pre middle) (hit : middle.signals.lookup signalId = some old)
    (precedes : old.Precedes new) : Quiet pre (middle.putSignal signalId new) := by
  have known := quiet.signals signalId
  rw [hit] at known
  generalize prior : pre.signals.lookup signalId = has at known
  cases known with
  | some follows => exact quiet.overwrite prior (follows.trans precedes)

theorem Quiet.fail (quiet : Quiet pre middle) (provider : Address) (signalId : Nat) :
    Quiet pre (failSignal provider middle signalId) := by
  unfold failSignal
  split
  next => exact quiet
  next signal hit =>
    split
    next active => exact quiet.put hit ⟨rfl, le_rfl, fun _ => .inr (.inl rfl)⟩
    next => exact quiet

theorem Quiet.failAll (quiet : Quiet pre middle) (provider : Address) (ids : List Nat) :
    Quiet pre (ids.foldl (failSignal provider) middle) := by
  induction ids generalizing middle with
  | nil => exact quiet
  | cons signalId rest ih => exact ih (quiet.fail provider _)

/-- Marking signals expired changes no statistics. -/
theorem Quiet.expireAll (quiet : Quiet pre middle) (entries : List (Nat × Signal))
    (hit : ∀ entry ∈ entries, pre.signals.lookup entry.1 = some entry.2) :
    Quiet pre (entries.foldl (fun store entry =>
      store.putSignal entry.1 { entry.2 with status := .expired }) middle) := by
  induction entries generalizing middle with
  | nil => exact quiet
  | cons entry rest ih =>
    refine ih (quiet.overwrite (hit entry List.mem_cons_self)
      ⟨rfl, le_rfl, fun _ => .inr (.inr (.inr rfl))⟩) fun other mem => ?_
    exact hit other (List.mem_cons_of_mem _ mem)

end Quiet

section Operations

variable {store : SignalStore} {env : Env} {gates : Gates}

variable (provider : Address)

/-- A creation adds one signal without executions. -/
theorem createSignal_effect (action : SignalAction) (price : Int) (expiry : Nat) :
    wlp (createSignal env gates provider action price expiry)
      (fun _ after => ∃ signal, Created store after signal) store := by
  unfold createSignal createSignalInternal validateProviderSignalLimit nextSignalId
  simp only [wlp_rules, checkedCount_eq_some]
  rintro _ _ _ _ _ _ _ _ _ _ _ _ _ _ _ counter ⟨_, rfl⟩ _
  refine ⟨⟨store.signalCounter + 1, provider, action, price, env.timestamp, env.timestamp, expiry,
    .active, 0, 0, 0, 0, false⟩, ?_, ⟨by simp [Signal.Closed], rfl⟩,
    fun tested => statsOf_initialized _ provider tested, ?_⟩
  · unfold initializeStats
    split <;> rfl
  · unfold initializeStats
    split <;> rfl

theorem submitSignalFromTemplate_effect (action : SignalAction) (price : Int) (expiryHours : Nat) :
    wlp (submitSignalFromTemplate env gates provider action price expiryHours)
      (fun _ after => ∃ signal, Created store after signal) store := by
  unfold submitSignalFromTemplate
  simp only [wlp_rules]
  exact fun expiry _ => createSignal_effect provider action price expiry

/-- A read changes no statistics. -/
theorem getSignal_effect (signalId : Nat) :
    wlp (getSignal env gates signalId) (fun _ after => Quiet store after) store := by
  unfold getSignal
  simp only [wlp_rules]
  intro _
  cases hit : store.signals.lookup signalId with
  | none => exact .refl store
  | some signal =>
    simp only [checkProviderExists, not_true_eq_false, and_false, wp_ite, wp_rules, false_implies,
      not_false_eq_true, true_implies, true_and]
    refine ⟨fun due => ?_, fun live => ?_⟩
    · simp only [if_pos due]
      have expires (warned : Bool) :
          signal.Precedes { signal with status := .expired, warningEmitted := warned } :=
        ⟨rfl, le_rfl, fun _ => .inr (.inr (.inr rfl))⟩
      have expired := ((Quiet.refl store).overwrite hit
        (expires signal.warningEmitted)).decrement signal.provider
      exact ⟨fun _ => expired.overwrite hit (expires true), fun _ => expired⟩
    · simp only [if_neg live]
      exact ⟨fun _ => (Quiet.refl store).put hit ⟨rfl, le_rfl, fun closed => closed⟩,
        fun _ => .refl store⟩

/-- A cancellation changes no statistics. -/
theorem cancelSignal_effect (signalId : Nat) :
    wlp (cancelSignal env gates provider signalId) (fun _ after => Quiet store after) store := by
  unfold cancelSignal
  simp only [wlp_rules]
  intro _ _ signal hit _ _ _
  have cancelled : signal.Precedes { signal with status := .cancelled } :=
    ⟨rfl, le_rfl, fun _ => .inr (.inr (.inl rfl))⟩
  exact ((Quiet.refl store).put hit cancelled).decrement provider

/-- A ban changes no statistics. -/
theorem banProvider_effect (caller provider : Address) (reasonHash : String) :
    wlp (banProvider env gates caller provider reasonHash) (fun _ after => Quiet store after)
      store := by
  unfold banProvider
  simp only [wlp_rules]
  intro _ _ _
  have banned (reasons : Table Address String) :
      Quiet store { store with banReasons := reasons } :=
    (Quiet.refl store).of_same rfl rfl rfl
  exact (banned _).failAll provider _

/-- The cleanup changes no statistics. -/
theorem cleanupExpiredSignals_effect (limit : Nat) :
    wlp (cleanupExpiredSignals env gates limit) (fun _ after => Quiet store after) store := by
  unfold cleanupExpiredSignals
  simp only [wlp_rules]
  intro _
  generalize cursorWindow store.sortedIds _ _ = window
  obtain ⟨⟨counts, released⟩, _⟩ := releaseSlots_spec _ _
  rw [released]
  have moved : Quiet store
      { store with expiryCleanupCursor := window.getLast?.getD store.expiryCleanupCursor } :=
    (Quiet.refl store).of_same rfl rfl rfl
  exact (moved.expireAll _ fun entry mem => select_found mem).of_same rfl rfl rfl

/-- The statistics change when a signal is decided, and only then. -/
theorem recordPerformance_effect (oldStatus : SignalStatus) (updated : Signal) :
    wlp (recordPerformance oldStatus updated)
      (fun _ after => (∃ table, after = { store with providerStats := table }) ∧
        ((∀ provider, after.statsOf provider = store.statsOf provider) ∨
          (oldStatus = .active ∨ oldStatus = .pending) ∧
            (updated.status = .successful ∨ updated.status = .failed) ∧ ∃ stats,
              (∀ provider, after.statsOf provider =
                if provider = updated.provider then stats else store.statsOf provider) ∧
              (store.statsOf updated.provider).Counts stats updated.totalVolume)) store := by
  unfold recordPerformance
  simp only [wlp_rules, wp_ite]
  refine ⟨fun _ stats evaluated => ⟨⟨_, rfl⟩, ?_⟩, fun _ =>
    ⟨⟨store.providerStats, rfl⟩, .inl trivial⟩⟩
  rcases updateProviderPerformance_spec evaluated with rfl | ⟨opened, closed, counts⟩
  · refine .inl fun provider => (statsOf_insert _ _ _ _).trans ?_
    split
    next same => rw [same]
    next => rfl
  · exact .inr ⟨opened, closed, stats, fun provider => statsOf_insert _ _ provider _, counts⟩

theorem recordPerformance_traded {signalId : Nat} {signal updated : Signal}
    (hit : store.signals.lookup signalId = some signal) (precedes : signal.Precedes updated)
    (counts : Table Address Nat) {stops : Prop} : wp (recordPerformance signal.status updated)
      (fun _ after => ¬ stops → ∃ signal updated, Traded store after signalId signal updated)
      (fun _ _ => True) { store.putSignal signalId updated with activeCounts := counts } := by
  refine wp_mono (recordPerformance_effect _ _) (fun _ after effect _ => ?_)
    fun _ _ later => later
  obtain ⟨⟨table, rfl⟩, scored⟩ := effect
  refine ⟨signal, updated, hit, rfl, precedes, rfl, ?_⟩
  rcases scored with same | ⟨opened, closed, stats, scores, counted⟩
  · exact .inl same
  · rw [precedes.provider] at counted scores
    refine .inr ⟨?_, ?_, stats, scores, counted⟩
    · rcases opened with active | pending
      · simp [Signal.Closed, active]
      · simp [Signal.Closed, pending]
    · rcases closed with success | failure
      · exact .inl success
      · exact .inr (.inl failure)

/-- A trade adds one execution and may decide the signal. -/
theorem recordTradeExecution_effect (executor : Address) (signalId : Nat)
    (entryPrice exitPrice volume : Int)
    (stays : store.reopens env.timestamp signalId entryPrice exitPrice volume = false) :
    wlp (recordTradeExecution env gates executor signalId entryPrice exitPrice volume)
      (fun _ after => ∃ signal updated, Traded store after signalId signal updated) store := by
  unfold recordTradeExecution
  simp only [wlp_rules, wp_ite]
  rintro _ _ _ _ pos _ signal hit roi gave traded updated
  obtain ⟨successes, counted⟩ := updateSignalStats_eq updated
  generalize evaluated : evaluateSignalStatus traded env.timestamp = newStatus
  have executed : newStatus = .successful ∨ newStatus = .failed ∨ newStatus = .active :=
    evaluated ▸ evaluate_executed (by simp [counted])
  have closes (closed : signal.Closed) : newStatus = .successful ∨ newStatus = .failed := by
    rcases executed with success | failure | active
    · exact .inl success
    · exact .inr failure
    · have inactive : signal.status ≠ .active := fun open' => by
        simp [Signal.Closed, open'] at closed
      simp [reopens, hit, inactive, gave, updated, evaluated, active] at stays
  have precedes : signal.Precedes { traded with status := newStatus } := by
    subst counted
    exact ⟨rfl, show signal.totalVolume ≤ signal.totalVolume + volume by omega,
      fun closed => (closes closed).imp_right .inl⟩
  refine ⟨fun _ => ?_, fun _ => recordPerformance_traded hit precedes store.activeCounts⟩
  obtain ⟨counts, same⟩ := @decrement_eq
    (store.putSignal signalId { traded with status := newStatus }) signal.provider
  rw [same]
  exact recordPerformance_traded hit precedes counts

end Operations

/-- What a run keeps, beside the law: ids are given out upwards, and nothing was counted for a
signal that is still open or does not exist yet. -/
structure OnceKept (past : List SignalTransition) (store : SignalStore) : Prop where
  law : CountsOnce past store
  issued : ∀ signalId signal, store.signals.lookup signalId = some signal →
    signalId ≤ store.signalCounter
  unborn : ∀ signalId, store.signalCounter < signalId → ∀ measure provider,
    gained measure past provider signalId = 0
  idle : ∀ signalId signal, store.signals.lookup signalId = some signal → ¬ signal.Closed →
    ∀ measure provider, gained measure past provider signalId = 0

section Steps

variable {past : List SignalTransition} {taken : SignalTransition}

/-- What a run gained grows by what its last step gained. -/
theorem gained_append (measure : ProviderPerformance → Int) (provider : Address) (signalId : Nat) :
    gained measure (past ++ [taken]) provider signalId =
      gained measure past provider signalId + taken.gain measure provider signalId := by
  simp only [gained, List.map_append, List.sum_append, List.map_cons, List.map_nil,
    List.sum_singleton]

theorem gained_still (still : ∀ provider,
      taken.after.store.statsOf provider = taken.pre.store.statsOf provider)
    (measure : ProviderPerformance → Int) (provider : Address) (signalId : Nat) :
    gained measure (past ++ [taken]) provider signalId = gained measure past provider signalId := by
  rw [gained_append, SignalTransition.gain, still, sub_self, ite_self, add_zero]

/-- A step without new statistics gains nothing. -/
theorem CountsOnce.still (law : CountsOnce past taken.pre.store) (still : ∀ provider,
      taken.after.store.statsOf provider = taken.pre.store.statsOf provider)
    (stayClosed : ∀ signalId old, taken.pre.store.signals.lookup signalId = some old →
      ∃ new, taken.after.store.signals.lookup signalId = some new ∧
        new.provider = old.provider ∧ (old.Closed → new.Closed))
    (volume : ∀ provider signalId, ∀ signal ∈ taken.after.store.signals.lookup signalId,
      volumeGained past provider signalId ≤ signal.totalVolume) :
    CountsOnce (past ++ [taken]) taken.after.store := by
  refine ⟨fun prior mem => ?_, fun prior mem => ?_, fun provider signalId => ?_,
    fun provider signalId signal hit => ?_, fun provider => still provider ▸ law.stats provider⟩
  · rcases List.mem_append.mp mem with pre | last
    · exact law.stayClosed prior pre
    · exact List.mem_singleton.mp last ▸ stayClosed
  · rcases List.mem_append.mp mem with pre | last
    · exact law.owner prior pre
    · exact fun provider changed => absurd (still provider)
        (List.mem_singleton.mp last ▸ changed)
  · exact (gained_still still _ provider signalId).trans_le (law.once provider signalId)
  · exact (gained_still still _ provider signalId).trans_le (volume provider signalId signal hit)

/-- A quiet step keeps the law. -/
theorem OnceKept.quiet (kept : OnceKept past taken.pre.store)
    (quiet : Quiet taken.pre.store taken.after.store) :
    OnceKept (past ++ [taken]) taken.after.store := by
  have prior {signalId : Nat} {new : Signal}
      (hit : taken.after.store.signals.lookup signalId = some new) :
      ∃ old, taken.pre.store.signals.lookup signalId = some old ∧ old.Precedes new := by
    have related := quiet.signals signalId
    rw [hit] at related
    generalize taken.pre.store.signals.lookup signalId = has at related
    cases related with
    | some precedes => exact ⟨_, rfl, precedes⟩
  refine ⟨kept.law.still quiet.stats (fun signalId old hit => ?_)
    fun provider signalId new hit => ?_, fun signalId new hit => ?_,
    fun signalId fresh measure provider => ?_, fun signalId new hit opened measure provider => ?_⟩
  · have related := quiet.signals signalId
    rw [hit] at related
    generalize taken.after.store.signals.lookup signalId = has at related
    cases related with
    | some precedes => exact ⟨_, rfl, precedes.provider, precedes.closed⟩
  · obtain ⟨old, has, precedes⟩ := prior hit
    exact (kept.law.volume provider signalId old has).trans precedes.volume
  · obtain ⟨old, has, _⟩ := prior hit
    exact (kept.issued signalId old has).trans quiet.counter.ge
  · rw [gained_still quiet.stats]
    exact kept.unborn signalId (quiet.counter ▸ fresh) measure provider
  · obtain ⟨old, has, precedes⟩ := prior hit
    rw [gained_still quiet.stats]
    exact kept.idle signalId old has (fun closed => opened (precedes.closed closed)) measure
      provider

/-- A new signal has gained nothing. -/
theorem OnceKept.created (kept : OnceKept past taken.pre.store) {signal : Signal}
    (created : Created taken.pre.store taken.after.store signal) :
    OnceKept (past ++ [taken]) taken.after.store := by
  have looked (signalId : Nat) : taken.after.store.signals.lookup signalId =
      if signalId = taken.pre.store.signalCounter + 1 then some signal
      else taken.pre.store.signals.lookup signalId := by
    rw [created.signals, lookup_insert]
  have unborn := kept.unborn (taken.pre.store.signalCounter + 1) (Nat.lt_succ_self _)
  refine ⟨kept.law.still created.stats (fun signalId old hit => ⟨old, ?_, rfl, fun closed =>
    closed⟩) fun provider signalId new hit => ?_, fun signalId new hit => ?_,
    fun signalId fresh measure provider => ?_, fun signalId new hit opened measure provider => ?_⟩
  · have issued := kept.issued signalId old hit
    rw [looked, if_neg (by omega)]
    exact hit
  · rw [looked] at hit
    split at hit
    next same =>
      cases hit
      rw [same, volumeGained, unborn, created.fresh.2]
    next => exact kept.law.volume provider signalId new hit
  · rw [created.counter]
    rw [looked] at hit
    split at hit
    next same => exact same.le
    next => exact (kept.issued signalId new hit).trans (Nat.le_succ _)
  · rw [gained_still created.stats]
    rw [created.counter] at fresh
    exact kept.unborn signalId (by omega) measure provider
  · rw [gained_still created.stats]
    rw [looked] at hit
    split at hit
    next same => rw [same, unborn]
    next => exact kept.idle signalId new hit opened measure provider

/-- A signal that is decided counts once. -/
theorem OnceKept.counted (kept : OnceKept past taken.pre.store) {signalId : Nat}
    {signal updated : Signal} {stats : ProviderPerformance}
    (trades : ∀ tested, taken.Trades tested ↔ tested = signalId)
    (traded : Traded taken.pre.store taken.after.store signalId signal updated)
    (opened : ¬ signal.Closed) (closed : updated.Closed)
    (scores : ∀ provider, taken.after.store.statsOf provider =
      if provider = signal.provider then stats else taken.pre.store.statsOf provider)
    (counts : (taken.pre.store.statsOf signal.provider).Counts stats updated.totalVolume) :
    OnceKept (past ++ [taken]) taken.after.store := by
  have looked (tested : Nat) : taken.after.store.signals.lookup tested =
      if tested = signalId then some updated
      else taken.pre.store.signals.lookup tested := by
    rw [traded.signals, lookup_insert]
  have elsewhere {tested : Nat} (other : tested ≠ signalId)
      (measure : ProviderPerformance → Int) (provider : Address) :
      gained measure (past ++ [taken]) provider tested = gained measure past provider tested := by
    rw [gained_append, SignalTransition.gain, if_neg fun trade => other ((trades tested).mp trade),
      add_zero]
  have here (measure : ProviderPerformance → Int) (provider : Address) :
      gained measure (past ++ [taken]) provider signalId = if provider = signal.provider then
        measure stats - measure (taken.pre.store.statsOf signal.provider) else 0 := by
    rw [gained_append, kept.idle signalId signal traded.hit opened, zero_add,
      SignalTransition.gain, if_pos ((trades signalId).mpr rfl), scores]
    split
    next same => rw [same]
    next => exact sub_self _
  have nonneg : 0 ≤ signal.totalVolume := by
    have part := kept.law.volume signal.provider signalId signal traded.hit
    rwa [volumeGained, kept.idle signalId signal traded.hit opened] at part
  refine ⟨⟨fun prior mem => ?_, fun prior mem => ?_, fun provider tested => ?_,
    fun provider tested new hit => ?_, fun provider => ?_⟩, fun tested new hit => ?_,
    fun tested fresh measure provider => ?_, fun tested new hit stillOpen measure provider => ?_⟩
  · rcases mem_snoc.mp mem with pre | rfl
    · exact kept.law.stayClosed prior pre
    · intro tested old hit
      rw [looked]
      split
      next same =>
        cases Option.mem_unique traded.hit (same ▸ hit)
        exact ⟨updated, rfl, traded.precedes.provider, traded.precedes.closed⟩
      next => exact ⟨old, hit, rfl, fun closed => closed⟩
  · rcases mem_snoc.mp mem with pre | rfl
    · exact kept.law.owner prior pre
    · intro provider changed
      refine ⟨signalId, (trades signalId).mpr rfl, signal, traded.hit, ?_⟩
      by_contra other
      exact changed ((scores provider).trans (if_neg (Ne.symm other)))
  · by_cases same : tested = signalId
    · subst same
      rw [signalsGained, here]
      have one := counts.totalSignals
      split <;> omega
    · exact (elsewhere same _ provider).trans_le (kept.law.once provider tested)
  · rw [looked] at hit
    by_cases same : tested = signalId
    · subst same
      cases Option.mem_unique (if_pos rfl) hit
      rw [volumeGained, here]
      have sum := counts.totalVolume
      have grown := traded.precedes.volume
      split <;> omega
    · rw [if_neg same] at hit
      exact (elsewhere same _ provider).trans_le (kept.law.volume provider tested new hit)
  · rw [scores]
    split
    next => exact counts.exact (kept.law.stats signal.provider)
    next => exact kept.law.stats provider
  · rw [traded.counter]
    rw [looked] at hit
    split at hit
    next same => exact same ▸ kept.issued signalId signal traded.hit
    next => exact kept.issued tested new hit
  · have issued := kept.issued signalId signal traded.hit
    rw [traded.counter] at fresh
    rw [elsewhere (by omega)]
    exact kept.unborn tested fresh measure provider
  · rw [looked] at hit
    split at hit
    next => exact absurd closed (Option.some.inj hit ▸ stillOpen)
    next other =>
      rw [elsewhere other]
      exact kept.idle tested new hit stillOpen measure provider

/-- A trade counts at most once. -/
theorem OnceKept.traded (kept : OnceKept past taken.pre.store) {signalId : Nat}
    {signal updated : Signal} (trades : ∀ tested, taken.Trades tested ↔ tested = signalId)
    (traded : Traded taken.pre.store taken.after.store signalId signal updated) :
    OnceKept (past ++ [taken]) taken.after.store := by
  rcases traded.scored with same | ⟨opened, closed, stats, scores, counts⟩
  · refine kept.quiet ⟨fun tested => ?_, same, traded.counter⟩
    have still := (Quiet.refl taken.pre.store).overwrite traded.hit traded.precedes
    rw [traded.signals]
    exact still.signals tested
  · exact kept.counted trades traded opened closed scores counts

/-- One step keeps the law. -/
theorem OnceKept.step {ledger : Ledger SignalStore} {input : SignalInput}
    (kept : OnceKept past ledger.store) (listed : input.call.Registers)
    (stays : SignalTransition.StaysClosed ⟨ledger, input, signalStep input ledger⟩) :
    OnceKept (past ++ [⟨ledger, input, signalStep input ledger⟩])
      (signalStep input ledger).store := by
  let step (after : SignalStore) : SignalTransition :=
    ⟨ledger, input, { signalStep input ledger with store := after }⟩
  suffices follows : OnceKept (past ++ [step (signalStep input ledger).store])
      (signalStep input ledger).store from follows
  have unchanged : OnceKept (past ++ [step ledger.store]) ledger.store :=
    @OnceKept.quiet past (step ledger.store) kept (.refl ledger.store)
  by_cases gave : SignalTransition.Returned ⟨ledger, input, signalStep input ledger⟩
  · have allowed := stays gave
    have quietly (after : SignalStore) (quiet : Quiet ledger.store after) :
        OnceKept (past ++ [step after]) after := @OnceKept.quiet past (step after) kept quiet
    have creates (after : SignalStore) (new : ∃ signal, Created ledger.store after signal) :
        OnceKept (past ++ [step after]) after :=
      let ⟨_, created⟩ := new
      @OnceKept.created past (step after) kept _ created
    suffices specified : wlp (input.call.run (ledger.env input.arrival) input.gates)
        (fun _ after => OnceKept (past ++ [step after]) after) ledger.store from
      @invoke_rule _ _ _ _ (fun after => OnceKept (past ++ [step after]) after) _
        (wp_mono specified (fun _ _ later => later) fun _ _ _ => unchanged)
    cases called : input.call with
    | creates provider action price expiry =>
      simp only [SignalCall.run, wp_discard]
      exact wp_mono (createSignal_effect provider action price expiry)
        (fun _ => creates) fun _ _ stopped => stopped
    | createsFromTemplate provider action price expiryHours =>
      simp only [SignalCall.run, wp_discard]
      exact wp_mono (submitSignalFromTemplate_effect provider action price expiryHours)
        (fun _ => creates) fun _ _ stopped => stopped
    | gets signalId =>
      simp only [SignalCall.run, wp_discard]
      exact wp_mono (getSignal_effect signalId) (fun _ => quietly)
        fun _ _ stopped => stopped
    | records executor signalId entryPrice exitPrice volume =>
      simp only [called] at allowed
      refine wp_mono (recordTradeExecution_effect executor signalId _ _ _ allowed)
        (fun _ after effect => ?_) fun _ _ stopped => stopped
      obtain ⟨signal, updated, traded⟩ := effect
      refine @OnceKept.traded past (step after) kept signalId signal updated (fun tested => ?_)
        traded
      simp only [SignalTransition.Trades, step, called]
      exact eq_comm
    | cancels provider signalId =>
      exact wp_mono (cancelSignal_effect provider signalId) (fun _ => quietly)
        fun _ _ stopped => stopped
    | bans caller provider reasonHash =>
      exact wp_mono (banProvider_effect caller provider reasonHash) (fun _ => quietly)
        fun _ _ stopped => stopped
    | cleansUp limit =>
      simp only [SignalCall.run, wp_discard]
      exact wp_mono (cleanupExpiredSignals_effect limit) (fun _ => quietly)
        fun _ _ stopped => stopped
    | prunes caller maxEntries => simp [SignalCall.Registers, called] at listed
    | archives limit => simp [SignalCall.Registers, called] at listed
    | migrates caller batchSize => simp [SignalCall.Registers, called] at listed
  · have same : (signalStep input ledger).store = ledger.store := invoke_of_rejected gave
    exact same ▸ unchanged

end Steps

/-- Without signals nothing was gained. -/
theorem Blank.kept {store : SignalStore} (blank : Blank store) : OnceKept [] store := by
  have absent (signalId : Nat) : store.signals.lookup signalId = none := by
    rw [blank.signals]
    rfl
  have zero (provider : Address) : store.statsOf provider = ⟨0, 0, 0, 0, 0, 0⟩ := by
    rw [statsOf, blank.stats]
    rfl
  refine ⟨⟨fun _ mem => (by cases mem), fun _ mem => (by cases mem),
    fun _ _ => zero_le_one, fun _ signalId signal hit => ?_, fun provider => ?_⟩,
    fun signalId signal hit => ?_, fun _ _ _ _ => rfl, fun _ _ _ _ _ _ => rfl⟩
  · cases (absent signalId).symm.trans hit
  · rw [zero]
    exact ⟨rfl, fun pos => absurd pos (lt_irrefl 0)⟩
  · cases (absent signalId).symm.trans hit

/-- From a registry without signals, closed signals stay closed and count once in every run in
which no trade makes one active again. -/
theorem closed_signals_count_once (start : Ledger SignalStore) (blank : Blank start.store)
    (inputs : List SignalInput) (listed : ∀ input ∈ inputs, input.call.Registers)
    (stays : ∀ taken ∈ trace signalStep start inputs, SignalTransition.StaysClosed taken) :
    CountsOnce (trace signalStep start inputs) (final signalStep start inputs).store := by
  have kept := transition_history_invariant signalStep
    (fun past ledger => OnceKept past ledger.store)
    (fun taken => taken.input.call.Registers ∧ SignalTransition.StaysClosed taken)
    (fun _ _ _ allowed kept => kept.step allowed.1 allowed.2) start blank.kept inputs
    fun taken mem => ⟨listed taken.input (input_mem signalStep mem), stays taken mem⟩
  exact kept.law

/-- Executor 7 trades the first signal. -/
def tradedSignal (exitPrice : Nat) : SignalInput :=
  ⟨⟨1, 1, [7]⟩, .clear, .records 7 1 (amountOf 100) (amountOf exitPrice) (amountOf 1000)⟩

theorem registryStart_blank : Blank (registryStart 1 1000 10).store := ⟨rfl, rfl⟩

/-- A loss brings the average of a successful signal back between the thresholds, and the next
gain counts the signal again. -/
theorem reopened_signal_counts_twice : ¬ ∀ (start : Ledger SignalStore), Blank start.store →
      ∀ inputs : List SignalInput, (∀ input ∈ inputs, input.call.Registers) →
        CountsOnce (trace signalStep start inputs) (final signalStep start inputs).store := by
  intro every
  have once := (every (registryStart 1 1000 10) registryStart_blank
    [createdSignal, tradedSignal 110, tradedSignal 91, tradedSignal 110]
    (by decide +kernel)).once 5 1
  revert once
  decide +kernel

/-- A signal that succeeds, and loses afterwards without opening again, counts once. -/
theorem successful_signal_counts_once : CountsOnce (trace signalStep (registryStart 1 1000 10)
        [createdSignal, tradedSignal 110, tradedSignal 97, bannedProvider])
      (final signalStep (registryStart 1 1000 10)
        [createdSignal, tradedSignal 110, tradedSignal 97, bannedProvider]).store :=
  closed_signals_count_once (registryStart 1 1000 10) registryStart_blank _ (by decide +kernel)
    (by decide +kernel)

end StellarSwipe.SignalRegistry
