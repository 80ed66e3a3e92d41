import Mathlib.Data.List.Induction
import Mathlib.Data.List.Basic

/-!
# Runs of a state machine

A total step function takes one input at a time, and a law about the final state of every run is
one about every state reached.
-/

namespace Runs

variable {σ ι : Type}

/-- One step taken: the state before it, its input and the state after it. -/
structure Transition (σ ι : Type) where
  pre : σ
  input : ι
  after : σ

/-- The state after taking every input in order. -/
def final (step : ι → σ → σ) : σ → List ι → σ
  | state, [] => state
  | state, input :: rest => final step (step input state) rest

/-- The transitions taken, oldest first. -/
def trace (step : ι → σ → σ) : σ → List ι → List (Transition σ ι)
  | _, [] => []
  | state, input :: rest =>
    ⟨state, input, step input state⟩ :: trace step (step input state) rest

/-- What is in a list with one more item at its end was there before or is that item. -/
theorem mem_snoc {α : Type} {items : List α} {item last : α} :
    item ∈ items ++ [last] ↔ item ∈ items ∨ item = last := by
  simp only [List.mem_append, List.mem_singleton]

variable (step : ι → σ → σ)

variable (state : σ)

theorem final_append (first second : List ι) :
    final step state (first ++ second) = final step (final step state first) second := by
  induction first generalizing state with
  | nil => rfl
  | cons input rest ih => exact ih (step input state)

theorem transitions_append (first second : List ι) : trace step state (first ++ second) =
      trace step state first ++ trace step (final step state first) second := by
  induction first generalizing state with
  | nil => rfl
  | cons input rest ih =>
    simp only [List.cons_append, trace, final, ih]

variable (inputs : List ι)

/-- The last transition of a run starts where the earlier inputs ended. -/
theorem transitions_concat (input : ι) :
    trace step state (inputs ++ [input]) = trace step state inputs ++
      [⟨final step state inputs, input, step input (final step state inputs)⟩] := by
  rw [transitions_append]
  rfl

/-- Every transition is the step function at its own state and input. -/
theorem transition_is_step (taken : Transition σ ι) (mem : taken ∈ trace step state inputs) :
    taken.after = step taken.input taken.pre := by
  induction inputs generalizing state with
  | nil => simp [trace] at mem
  | cons input rest ih =>
    rcases List.mem_cons.mp mem with rfl | later
    · rfl
    · exact ih (step input state) later

/-- The inputs of a run are its transitions' inputs. -/
theorem transitions_inputs : (trace step state inputs).map Transition.input = inputs := by
  induction inputs generalizing state with
  | nil => rfl
  | cons input rest ih =>
    simp only [trace, List.map_cons, ih]

variable {taken : Transition σ ι}

/-- The input of a transition is an input of its run. -/
theorem input_mem {state : σ} {inputs : List ι} (mem : taken ∈ trace step state inputs) :
    taken.input ∈ inputs := by
  have listed := List.mem_map_of_mem (f := Transition.input) mem
  rwa [transitions_inputs] at listed

/-- A transition in the middle of a run: what came before it is a run of its own, which
ends where the transition starts. The induction is on the earlier transitions. -/
theorem transitions_split {prior later : List (Transition σ ι)} {inputs : List ι} (state : σ)
    (split : trace step state inputs = prior ++ taken :: later) :
    trace step state (prior.map Transition.input) = prior ∧
      taken.pre = final step state (prior.map Transition.input) ∧
      taken.after = step taken.input taken.pre := by
  induction prior generalizing state inputs with
  | nil =>
    cases inputs with
    | nil => simp [trace] at split
    | cons input rest =>
      obtain ⟨rfl, _⟩ := List.cons.inj split
      exact ⟨rfl, rfl, rfl⟩
  | cons first prior ih =>
    cases inputs with
    | nil => simp [trace] at split
    | cons input rest =>
      obtain ⟨rfl, onward⟩ := List.cons.inj split
      obtain ⟨same, starts, steps⟩ := ih (step input state) onward
      exact ⟨by simp only [List.map_cons, trace, same], starts, steps⟩

variable (invariant : List (Transition σ ι) → σ → Prop)

/-- An invariant of states and transitions taken so far holds after every run
whose steps all meet the guard, which may look at the transitions before the step. The
induction is on the inputs from the right, so the invariant is available at the state where
the last step starts. -/
theorem past_invariant (guard : List (Transition σ ι) → σ → ι → Prop)
    (keeps : ∀ past state input, guard past state input → invariant past state →
      invariant (past ++ [⟨state, input, step input state⟩]) (step input state)) (start : σ)
    (initially : invariant [] start) (inputs : List ι)
    (guarded : ∀ prior taken later, trace step start inputs = prior ++ taken :: later →
      guard prior taken.pre taken.input) :
    invariant (trace step start inputs) (final step start inputs) := by
  induction inputs using List.reverseRecOn with
  | nil => exact initially
  | append_singleton front input ih =>
    rw [transitions_concat] at guarded ⊢
    have past := ih fun prior taken later split =>
      guarded prior taken (later ++ _) (by rw [split, List.append_assoc, List.cons_append])
    have allowed := guarded _ _ [] rfl
    rw [final_append]
    exact keeps _ _ input allowed past

/-- A guard that looks at the step alone. -/
theorem history_invariant (guard : σ → ι → Prop)
    (keeps : ∀ past state input, guard state input → invariant past state →
      invariant (past ++ [⟨state, input, step input state⟩]) (step input state)) (start : σ)
    (initially : invariant [] start) (inputs : List ι)
    (guarded : ∀ taken ∈ trace step start inputs, guard taken.pre taken.input) :
    invariant (trace step start inputs) (final step start inputs) :=
  past_invariant step invariant (fun _ => guard) keeps start initially inputs
    fun _ taken _ split => guarded taken (split ▸ List.mem_append_right _ List.mem_cons_self)

/-- A guard that looks at the whole transition. -/
theorem transition_history_invariant (guard : Transition σ ι → Prop)
    (keeps : ∀ past state input, guard ⟨state, input, step input state⟩ → invariant past state →
      invariant (past ++ [⟨state, input, step input state⟩]) (step input state)) (start : σ)
    (initially : invariant [] start) (inputs : List ι)
    (guarded : ∀ taken ∈ trace step start inputs, guard taken) :
    invariant (trace step start inputs) (final step start inputs) := by
  refine history_invariant step invariant
    (fun state input => guard ⟨state, input, step input state⟩) keeps start initially inputs
    fun taken mem => ?_
  show guard ⟨taken.pre, taken.input, step taken.input taken.pre⟩
  rw [← transition_is_step step start inputs taken mem]
  exact guarded taken mem

/-- A state invariant holds after every run whose steps all meet the guard. -/
theorem guarded_invariant (invariant : σ → Prop) (guard : σ → ι → Prop)
    (keeps : ∀ state input, guard state input → invariant state → invariant (step input state))
    (start : σ) (initially : invariant start) (inputs : List ι)
    (guarded : ∀ taken ∈ trace step start inputs, guard taken.pre taken.input) :
    invariant (final step start inputs) :=
  history_invariant step (fun _ state => invariant state) guard
    (fun _ state input => keeps state input) start initially inputs guarded

/-- An invariant that every step keeps holds before and after each transition. -/
theorem transition_invariant (invariant : σ → Prop) (guard : σ → ι → Prop)
    (keeps : ∀ state input, guard state input → invariant state → invariant (step input state))
    (start : σ) (initially : invariant start) (inputs : List ι)
    (guarded : ∀ taken ∈ trace step start inputs, guard taken.pre taken.input)
    (taken : Transition σ ι) (mem : taken ∈ trace step start inputs) :
    invariant taken.pre ∧ invariant taken.after := by
  induction inputs generalizing start with
  | nil => simp [trace] at mem
  | cons input rest ih =>
    have allowed : guard start input :=
      guarded ⟨start, input, step input start⟩ List.mem_cons_self
    have next := keeps start input allowed initially
    rcases List.mem_cons.mp mem with rfl | later
    · exact ⟨initially, next⟩
    · exact ih (step input start) next
        (fun other inside => guarded other (List.mem_cons_of_mem _ inside)) later

section Leads

variable {step} {allowed : ι → Prop} {pre middle after : σ}

variable (step allowed) in
/-- One state leads to another by inputs that are all allowed. -/
def Leads (pre after : σ) : Prop :=
  ∃ inputs, (∀ input ∈ inputs, allowed input) ∧ final step pre inputs = after

theorem Leads.refl (state : σ) : Leads step allowed state state :=
  ⟨[], by simp, rfl⟩

theorem Leads.single {input : ι} (permitted : allowed input) (state : σ) :
    Leads step allowed state (step input state) := by
  refine ⟨[input], fun other mem => ?_, rfl⟩
  cases List.mem_singleton.mp mem
  exact permitted

theorem Leads.trans (prior : Leads step allowed pre middle)
    (later : Leads step allowed middle after) : Leads step allowed pre after := by
  obtain ⟨first, firstAllowed, rfl⟩ := prior
  obtain ⟨second, secondAllowed, rfl⟩ := later
  refine ⟨first ++ second, fun input mem => ?_, final_append step pre first second⟩
  rcases List.mem_append.mp mem with inFirst | inSecond
  · exact firstAllowed input inFirst
  · exact secondAllowed input inSecond

/-- What every allowed step keeps survives. The induction is on the inputs. -/
theorem Leads.keeps (leads : Leads step allowed pre after) (invariant : σ → Prop)
    (kept : ∀ state input, allowed input → invariant state → invariant (step input state))
    (holds : invariant pre) : invariant after := by
  obtain ⟨inputs, permitted, rfl⟩ := leads
  induction inputs generalizing pre with
  | nil => exact holds
  | cons input rest ih =>
    exact ih (kept pre input (permitted input List.mem_cons_self) holds)
      fun other mem => permitted other (List.mem_cons_of_mem _ mem)

end Leads

end Runs

/-! ## Events that happen once

Events are added to a list one at a time. Some of them count. If a counting event needs
something unspent and spends it, and what is spent stays spent, at most one event of the
list counts.
-/

namespace OneShot

variable {ε : Type} {counts : ε → Prop} [DecidablePred counts] {pre after : Prop}
  {past : List ε} {event : ε}

/-- At most one event so far counts, and one that did left its mark. -/
structure Once (counts : ε → Prop) [DecidablePred counts] (spent : Prop) (past : List ε) :
    Prop where
  once : past.countP (fun event => counts event) ≤ 1
  spent : 0 < past.countP (fun event => counts event) → spent

theorem Once.nil : Once counts pre [] := ⟨Nat.zero_le 1, fun counted => absurd counted (by simp)⟩

/-- One more event: it counts only if nothing is spent, spends when it counts, and never
restores. -/
theorem Once.concat (prior : Once counts pre past) (unspent : counts event → ¬ pre)
    (spends : counts event → after) (stays : pre → after) :
    Once counts after (past ++ [event]) := by
  by_cases counting : counts event
  · have none : past.countP (fun event => counts event) = 0 := by
      by_contra some
      exact unspent counting (prior.spent (Nat.pos_of_ne_zero some))
    refine ⟨?_, fun _ => spends counting⟩
    simp [List.countP_append, none, counting]
  · have same : (past ++ [event]).countP (fun event => counts event) =
        past.countP fun event => counts event := by
      simp [List.countP_append, counting]
    refine ⟨?_, fun counted => stays (prior.spent ?_)⟩
    · rw [same]
      exact prior.once
    · rwa [same] at counted

/-- A place in a list with one more event is the new one or a place in the list. -/
theorem place_concat {prior later : List ε} {placed : ε}
    (placing : past ++ [event] = prior ++ placed :: later) :
    (prior = past ∧ placed = event ∧ later = []) ∨
      ∃ rest, later = rest ++ [event] ∧ past = prior ++ placed :: rest := by
  rcases List.eq_nil_or_concat later with rfl | ⟨rest, last, rfl⟩
  · obtain ⟨rfl, same⟩ := List.append_inj' placing rfl
    cases (List.cons.inj same).1
    exact .inl ⟨rfl, rfl, rfl⟩
  · rw [List.concat_eq_append, ← List.cons_append, ← List.append_assoc] at placing
    obtain ⟨same, ends⟩ := List.append_inj' placing rfl
    cases (List.cons.inj ends).1
    exact .inr ⟨rest, List.concat_eq_append, same⟩

/-- What holds at every position of a list holds of every place in it. -/
theorem forall_places {holds : List ε → ε → Prop} {events : List ε}
    (every : ∀ position : Fin events.length, holds (events.take position) (events.get position)) :
    ∀ prior placed later, events = prior ++ placed :: later → holds prior placed := by
  rintro prior placed later rfl
  have inside : prior.length < (prior ++ placed :: later).length := by simp
  simpa using every ⟨prior.length, inside⟩

end OneShot
