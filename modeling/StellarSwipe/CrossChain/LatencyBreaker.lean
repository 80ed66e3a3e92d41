import Mathlib.Data.List.DropRight
import StellarSwipe.CrossChain.MonitoringEffects

/-!
# The latency breaker

Latencies are recorded in a window, and the breaker trips when the average over a full window is
above a threshold; only clearing resets both.
-/

namespace StellarSwipe.CrossChain

open FixedWidth Program Runs List

/-- What is done to the breaker. -/
inductive BreakerCall where
  | configure (config : LatencyCircuitBreakerConfig)
  | record (latency : Nat)
  | clear

/-- The function of a call. -/
def BreakerCall.exec (call : BreakerCall) : ChainProgram Unit :=
  match call with
  | .configure config => setLatencyCircuitBreakerConfig config
  | .record latency => recordFinalityLatency latency
  | .clear => clearCircuitBreaker

def breakerStep (call : BreakerCall) (store : CrossChainStore) : CrossChainStore :=
  invoke call.exec store

abbrev BreakerTransition := Transition CrossChainStore BreakerCall

structure LatencyRecord where
  config : LatencyCircuitBreakerConfig
  latency : Nat

/-- What was recorded since the breaker was last cleared, oldest first. -/
def sinceClear (past : List BreakerTransition) : List LatencyRecord :=
  past.foldl (fun records taken => match taken.input with
    | .configure _ => records
    | .record latency => records ++ [⟨taken.pre.monitoring.latencyConfig, latency⟩]
    | .clear => []) []

def latencies (records : List LatencyRecord) : List Nat := records.map LatencyRecord.latency

/-- The newest latency completes a full window with an average above the threshold. -/
def SlowWindow (records : List LatencyRecord) : Prop :=
  ∃ newest ∈ records.getLast?, newest.config.windowSize ≤ records.length ∧
    newest.config.latencyThresholdSecs <
      ((latencies records).rtake newest.config.windowSize).sum / newest.config.windowSize

/-- A latency is recorded in a window of some size that the window can still fill, or from
which nothing was dropped, and the window's sum fits. -/
def RecordFits (past : List BreakerTransition) (store : CrossChainStore)
    (call : BreakerCall) : Prop :=
  match call with
  | .record latency =>
    let size := store.monitoring.latencyConfig.windowSize
    size ≠ 0 ∧
      (store.monitoring.latencyWindow.length = (sinceClear past).length ∨
        size ≤ store.monitoring.latencyWindow.length + 1) ∧
      ((latencies (sinceClear past) ++ [latency]).rtake size).sum ≤ u64Max
  | .configure _ | .clear => True

instance (past : List BreakerTransition) (store : CrossChainStore) (call : BreakerCall) :
    Decidable (RecordFits past store call) := by
  unfold RecordFits
  split <;> infer_instance

/-- A recorded latency was accepted, and the window holds the last ones since the last
clearing. -/
def WindowKept (prior : List BreakerTransition) (taken : BreakerTransition) : Prop :=
  ∀ latency, taken.input = .record latency →
    Accepts taken.input.exec taken.pre ∧
      taken.after.monitoring.latencyWindow =
        (latencies (sinceClear (prior ++ [taken]))).rtake
          taken.pre.monitoring.latencyConfig.windowSize

section Windows

variable {size : Nat}

theorem foldl_saturating {largest start : Nat} {values : List Nat}
    (fits : start + values.sum ≤ largest) :
    values.foldl (satCount largest) start = start + values.sum := by
  induction values generalizing start with
  | nil => rfl
  | cons value rest ih =>
    rw [sum_cons] at fits
    rw [foldl_cons, saturating_count_exact (by omega), ih (by omega),
      sum_cons, Nat.add_assoc]

theorem rtake_of_suffix {held all : List Nat} (ends : held <:+ all)
    (enough : held.length = all.length ∨ size ≤ held.length) :
    held.rtake size = all.rtake size := by
  obtain ⟨front, rfl⟩ := ends
  rw [length_append] at enough
  have dropped : front.length ≤ (front ++ held).length - size ∨ front = [] := by
    rw [length_append]
    rcases enough with whole | long
    · exact .inr (eq_nil_of_length_eq_zero (by omega))
    · exact .inl (by omega)
  rcases dropped with past | rfl
  · rw [List.rtake, List.rtake, drop_append, drop_eq_nil_of_le past, nil_append,
      length_append]
    congr 1
    rw [length_append] at past
    omega
  · rfl

theorem rtake_length (values : List Nat) : (values.rtake size).length = min size values.length := by
  rw [List.rtake, length_drop]
  omega

theorem rtake_suffix (values : List Nat) : values.rtake size <:+ values := drop_suffix _ _

end Windows

section Histories

variable {past : List BreakerTransition} {store after : CrossChainStore}

theorem sinceClear_concat (taken : BreakerTransition) :
    sinceClear (past ++ [taken]) = match taken.input with
      | .configure _ => sinceClear past
      | .record latency =>
        sinceClear past ++ [⟨taken.pre.monitoring.latencyConfig, latency⟩]
      | .clear => [] := by
  simp only [sinceClear, foldl_append, foldl_cons, foldl_nil]

/-- The window ends what was recorded since the last clearing, and the breaker is tripped if
some window was slow since then. -/
structure BreakerFollows (past : List BreakerTransition) (store : CrossChainStore) : Prop where
  ends : store.monitoring.latencyWindow <:+ latencies (sinceClear past)
  tripped : store.monitoring.circuitBreakerTripped = true ↔
    ∃ prior, prior <+: sinceClear past ∧ SlowWindow prior

theorem recordFinalityLatency_spec (latency : Nat) {window : List Nat}
    (isWindow : window = (store.monitoring.latencyWindow ++ [latency]).rtake
      store.monitoring.latencyConfig.windowSize)
    (present : store.monitoring.latencyConfig.windowSize ≠ 0) (fits : window.sum ≤ u64Max) :
    wp (recordFinalityLatency latency) (fun _ after => after.monitoring.latencyWindow = window ∧
        (after.monitoring.circuitBreakerTripped = true ↔
          store.monitoring.circuitBreakerTripped = true ∨
            store.monitoring.latencyConfig.windowSize ≤ window.length ∧
            store.monitoring.latencyConfig.latencyThresholdSecs < window.sum / window.length))
      (fun _ _ => False) store := by
  have total : window.foldl (satCount u64Max) 0 = window.sum := by
    rw [foldl_saturating (by omega), Nat.zero_add]
  have some : window.length ≠ 0 := by
    rw [isWindow, rtake_length]
    simp
    omega
  rw [List.rtake] at isWindow
  simp only [recordFinalityLatency, wp_rules, wp_putMonitoring, wp_ite, ← isWindow, total,
    if_neg some, Option.some.injEq, forall_eq', reduceCtorEq]
  refine ⟨fun short => ⟨trivial, ?_⟩, fun full => ⟨⟨fun slow => ⟨trivial, ?_⟩, fun quick =>
    ⟨trivial, ?_⟩⟩, fun never => never⟩⟩
  · simp [not_le.mpr short]
  · simp [slow, not_lt.mp full]
  · simp [quick]

theorem latencies_concat (records : List LatencyRecord) (record : LatencyRecord) :
    latencies (records ++ [record]) = latencies records ++ [record.latency] := by
  simp [latencies]

/-- The records of a history with one more make one more window. -/
theorem slowWindow_concat (records : List LatencyRecord) (record : LatencyRecord) :
    (∃ prior, prior <+: records ++ [record] ∧ SlowWindow prior) ↔
      (∃ prior, prior <+: records ∧ SlowWindow prior) ∨ SlowWindow (records ++ [record]) := by
  simp only [prefix_concat_iff]
  constructor
  · rintro ⟨prior, rfl | inside, slow⟩
    · exact .inr slow
    · exact .inl ⟨prior, inside, slow⟩
  · rintro (⟨prior, inside, slow⟩ | slow)
    · exact ⟨prior, .inr inside, slow⟩
    · exact ⟨_, .inl rfl, slow⟩

/-- Every call keeps the breaker on what was recorded, and a recorded latency is accepted. -/
theorem BreakerFollows.step (follows : BreakerFollows past store) {call : BreakerCall}
    (fits : RecordFits past store call) :
    BreakerFollows (past ++ [⟨store, call, breakerStep call store⟩])
        (breakerStep call store) ∧ WindowKept past ⟨store, call, breakerStep call store⟩ := by
  cases call with
  | configure config =>
    refine ⟨⟨?_, ?_⟩, fun latency recorded => by cases recorded⟩ <;> rw [sinceClear_concat]
    · exact follows.ends
    · exact follows.tripped
  | clear =>
    refine ⟨⟨?_, ?_⟩, fun latency recorded => by cases recorded⟩ <;> rw [sinceClear_concat]
    · exact nil_suffix
    · refine ⟨fun tripped => (by cases tripped), ?_⟩
      rintro ⟨prior, inside, newest, last, _⟩
      rw [List.prefix_nil.mp inside] at last
      cases last
  | record latency =>
    obtain ⟨present, enough, sums⟩ := fits
    have records := @sinceClear_concat past
      ⟨store, .record latency, breakerStep (.record latency) store⟩
    -- the window with the new latency ends the history with it
    have pushed : (store.monitoring.latencyWindow ++ [latency]).rtake
        store.monitoring.latencyConfig.windowSize =
          (latencies (sinceClear past) ++ [latency]).rtake
            store.monitoring.latencyConfig.windowSize := by
      refine rtake_of_suffix ?_ ?_
      · obtain ⟨front, same⟩ := follows.ends
        exact ⟨front, by rw [← same, append_assoc]⟩
      · simp only [length_append, length_singleton, latencies, length_map]
        omega
    obtain ⟨_, after, gave, isWindow, tripped⟩ :=
      returns_of_wp (recordFinalityLatency_spec latency pushed.symm present sums)
    have left : breakerStep (.record latency) store = after := invoke_of_ok gave
    rw [left] at records ⊢
    refine ⟨⟨?_, ?_⟩, fun other recorded => ?_⟩
    · rw [isWindow, records, latencies_concat]
      exact rtake_suffix _
    · rw [records, slowWindow_concat, ← follows.tripped, tripped, SlowWindow, latencies_concat]
      simp only [List.getLast?_concat, Option.mem_some_iff, exists_eq_left']
      rw [rtake_length]
      simp only [length_append, length_singleton, latencies, length_map]
      refine or_congr Iff.rfl ?_
      by_cases full : store.monitoring.latencyConfig.windowSize ≤ (sinceClear past).length + 1
      · rw [min_eq_left full]
        exact and_congr_left fun _ => iff_of_true le_rfl full
      · rw [min_eq_right (by omega)]
        exact iff_of_false (fun both => full both.1) fun both => full both.1
    · obtain rfl := BreakerCall.record.inj recorded
      refine ⟨⟨_, after, gave⟩, ?_⟩
      rw [records, latencies_concat]
      exact isWindow

end Histories

/-- After every call, recorded latencies were accepted with their window kept, and the breaker
is tripped exactly when a window was slow since the last clearing. -/
structure BreakerHolds (start : CrossChainStore) (calls : List BreakerCall) : Prop where
  kept : ∀ prior taken later, trace breakerStep start calls = prior ++ taken :: later →
    WindowKept prior taken
  tripped : (final breakerStep start calls).monitoring.circuitBreakerTripped = true ↔
    ∃ prior, prior <+: sinceClear (trace breakerStep start calls) ∧ SlowWindow prior

theorem BreakerFollows.start (governances : Table Nat BridgeGovernance) (bridges : Table Nat Bridge)
    (activeSets : Table Nat (List Address)) (versions delays : Table Nat Nat) :
    BreakerFollows [] (.initial governances bridges activeSets versions delays) where
  ends := nil_suffix
  tripped := by
    refine ⟨fun tripped => (by cases tripped), ?_⟩
    rintro ⟨prior, inside, newest, last, _⟩
    rw [List.prefix_nil.mp inside] at last
    cases last

/-- In every run whose recorded latencies all fit, each is accepted and leaves the last
latencies since the last clearing, and the breaker is tripped exactly when a window was slow. -/
theorem latency_breaker (governances : Table Nat BridgeGovernance) (bridges : Table Nat Bridge)
    (activeSets : Table Nat (List Address)) (versions delays : Table Nat Nat)
    (calls : List BreakerCall) (fits : ∀ prior taken later,
      trace breakerStep (.initial governances bridges activeSets versions delays) calls =
        prior ++ taken :: later → RecordFits prior taken.pre taken.input) :
    BreakerHolds (.initial governances bridges activeSets versions delays) calls := by
  have follows : ∀ inputs, (∀ prior taken later,
      trace breakerStep (.initial governances bridges activeSets versions delays) inputs =
        prior ++ taken :: later → RecordFits prior taken.pre taken.input) →
      BreakerFollows
        (trace breakerStep (.initial governances bridges activeSets versions delays) inputs)
        (final breakerStep (.initial governances bridges activeSets versions delays) inputs) :=
    past_invariant breakerStep BreakerFollows RecordFits
      (fun _ _ _ fits follows => (follows.step fits).1) _ (.start _ _ _ _ _)
  refine ⟨fun prior taken later split => ?_, (follows calls fits).tripped⟩
  obtain ⟨run, starts, steps⟩ := transitions_split breakerStep _ split
  have pre := follows (prior.map Transition.input) fun first placed rest place =>
    fits first placed (rest ++ taken :: later) (by
      rw [split, ← run, place, append_assoc, cons_append])
  rw [run, ← starts] at pre
  have kept := (pre.step (fits prior taken later split)).2
  rw [← steps] at kept
  exact kept

section Configured

/-- The breaker with a window of two latencies trips on the second slow one. -/
def slowLatencies : List BreakerCall := [.configure ⟨200, 2⟩, .record 300, .record 400]

def emptyWindow : List BreakerCall := [.configure ⟨200, 0⟩, .record 300]

theorem slow_latencies_trip : BreakerHolds (.initial ∅ ∅ ∅ ∅ ∅) slowLatencies :=
  latency_breaker ∅ ∅ ∅ ∅ ∅ slowLatencies (OneShot.forall_places (by decide))

/-- Recording in a window of size zero divides by zero. -/
theorem empty_window_fails : ¬ ∀ calls, BreakerHolds (.initial ∅ ∅ ∅ ∅ ∅) calls := by
  intro every
  obtain ⟨accepted, _⟩ := (every emptyWindow).kept [_] _ [] rfl 300 rfl
  exact absurd accepted (by decide)

end Configured

end StellarSwipe.CrossChain
