import Mathlib.Logic.Basic

/-!
# Programs over storage

A program reads and writes one storage and may stop early.
-/

/-- Why a program stopped: an error its caller receives, or a host abort. -/
inductive Fault (ε : Type) where
  | error (reason : ε)
  | trap
deriving DecidableEq

/-- A condition on a fault, given for errors and for the abort. -/
def Fault.holds {ε : Type} (error : ε → Prop) (trap : Prop) : Fault ε → Prop
  | .error reason => error reason
  | .trap => trap

@[simp] theorem Fault.holds_error {ε : Type} (error : ε → Prop) (trap : Prop) (reason : ε) :
    (Fault.error reason).holds error trap ↔ error reason := Iff.rfl

@[simp] theorem Fault.holds_trap {ε : Type} (error : ε → Prop) (trap : Prop) :
    (Fault.trap : Fault ε).holds error trap ↔ trap := Iff.rfl

/-- A pure computation returned, so its first step did and the rest went on from there. -/
theorem bind_ok {ε α β : Type} {first : Except ε β} {next : β → Except ε α} {value : α}
    (gave : first >>= next = .ok value) :
    ∃ middle, first = .ok middle ∧ next middle = .ok value := by
  cases first with
  | error reason => cases gave
  | ok middle => exact ⟨middle, rfl, gave⟩

/-- A program over the storage `σ`, with errors `ε` and value `α`. -/
abbrev Program (σ ε α : Type) := EStateM (Fault ε) σ α

namespace Program

variable {σ τ ε δ α β ι : Type}

/-- Return an error to the caller, keeping every write made so far. -/
def fail (reason : ε) : Program σ ε α := throw (.error reason)

/-- Abort the invocation. -/
def trap : Program σ ε α := throw .trap

/-- Continue only under a condition, otherwise return the error. -/
def ensure (condition : Prop) [Decidable condition] (reason : ε) : Program σ ε Unit :=
  if condition then pure () else fail reason

/-- Continue only under a condition, otherwise abort. -/
def demand (condition : Prop) [Decidable condition] : Program σ ε Unit :=
  if condition then pure () else trap

def orFail (value : Option α) (reason : ε) : Program σ ε α :=
  match value with
  | some hit => pure hit
  | none => fail reason

def orTrap (value : Option α) : Program σ ε α :=
  match value with
  | some hit => pure hit
  | none => trap

/-- A pure check that may reject, as a program. -/
def ofExcept (value : Except ε α) : Program σ ε α :=
  match value with
  | .ok hit => pure hit
  | .error reason => fail reason

/-- Receive an error as a value. Its writes stay and a trap is not caught. -/
def attempt (program : Program σ ε α) : Program σ ε (Except ε α) := fun store =>
  match program store with
  | .ok value after => .ok (.ok value) after
  | .error (.error reason) after => .ok (.error reason) after
  | .error .trap after => .error .trap after

/-- Run a program on a part of the storage and translate its errors. -/
def zoom (part : σ → τ) (replace : τ → σ → σ) (translate : δ → ε)
    (program : Program τ δ α) : Program σ ε α := fun store =>
  match program (part store) with
  | .ok value after => .ok value (replace after store)
  | .error (.error reason) after => .error (.error (translate reason)) (replace after store)
  | .error .trap after => .error .trap (replace after store)

/-- Run a body on each item in order, receiving each item's error as a value. -/
def attemptEach (body : ι → Program σ ε α) : List ι → Program σ ε (List (Except ε α))
  | [] => pure []
  | item :: rest => do
    let result ← attempt (body item)
    let results ← attemptEach body rest
    pure (result :: results)

/-- Run a body on each item in order, stopping at the first fault. -/
def each (body : ι → Program σ ε Unit) : List ι → Program σ ε Unit
  | [] => pure ()
  | item :: rest => do
    body item
    each body rest

/-- The storage after an outermost invocation: kept on success, restored otherwise. -/
def invoke (program : Program σ ε α) (store : σ) : σ :=
  match program store with
  | .ok _ after => after
  | .error _ _ => store

/-- The value that an outermost invocation returns, or the given one when it stops. -/
def valueOr (fallback : α) (program : Program σ ε α) (store : σ) : α :=
  match program store with
  | .ok value _ => value
  | .error _ _ => fallback

/-- An outermost invocation returns a value rather than an error or a trap. -/
def Accepts (program : Program σ ε α) (store : σ) : Prop :=
  ∃ value after, program store = .ok value after

/-- Whether an outermost invocation returns, as a computed answer. -/
def accepted (program : Program σ ε α) (store : σ) : Bool :=
  match program store with
  | .ok _ _ => true
  | .error _ _ => false

theorem accepted_iff (program : Program σ ε α) (store : σ) :
    accepted program store = true ↔ Accepts program store := by
  simp only [accepted, Accepts]
  cases program store <;> simp

instance (program : Program σ ε α) (store : σ) : Decidable (Accepts program store) :=
  decidable_of_iff _ (accepted_iff program store)

/-- The weakest precondition of a program for a postcondition on its returned
value and storage and one on its fault and the storage it leaves behind. -/
def wp (program : Program σ ε α) (post : α → σ → Prop) (fault : Fault ε → σ → Prop)
    (store : σ) : Prop :=
  match program store with
  | .ok value after => post value after
  | .error reason after => fault reason after

/-- Whatever the program returns satisfies the postcondition, and it may also stop. -/
abbrev wlp (program : Program σ ε α) (post : α → σ → Prop) (store : σ) : Prop :=
  wp program post (fun _ _ => True) store

section Rules

variable {post : α → σ → Prop} {fault : Fault ε → σ → Prop} {store : σ}

@[simp] theorem wp_pure (value : α) :
    wp (pure value : Program σ ε α) post fault store ↔ post value store := Iff.rfl

@[simp] theorem wp_bind (program : Program σ ε β) (next : β → Program σ ε α) :
    wp (program >>= next) post fault store ↔
      wp program (fun value after => wp (next value) post fault after) fault store := by
  simp only [wp, bind, EStateM.bind]
  cases program store <;> rfl

@[simp] theorem wp_map (program : Program σ ε β) (f : β → α) : wp (f <$> program) post fault store ↔
      wp program (fun value after => post (f value) after) fault store := by
  simp only [wp, Functor.map, EStateM.map]
  cases program store <;> rfl

@[simp] theorem wp_discard {post : PUnit → σ → Prop} (program : Program σ ε β) :
    wp (discard program) post fault store ↔ wp program (fun _ after => post ⟨⟩ after) fault store :=
  wp_map program fun _ => PUnit.unit

@[simp] theorem wp_get {post : σ → σ → Prop} :
    wp (get : Program σ ε σ) post fault store ↔ post store store := Iff.rfl

@[simp] theorem wp_set {post : PUnit → σ → Prop} (after : σ) :
    wp (set after : Program σ ε PUnit) post fault store ↔ post ⟨⟩ after := Iff.rfl

@[simp] theorem wp_modify {post : PUnit → σ → Prop} (f : σ → σ) :
    wp (modify f : Program σ ε PUnit) post fault store ↔ post ⟨⟩ (f store) := Iff.rfl

@[simp] theorem wp_fail (reason : ε) :
    wp (fail reason : Program σ ε α) post fault store ↔ fault (.error reason) store := Iff.rfl

@[simp] theorem wp_trap : wp (trap : Program σ ε α) post fault store ↔ fault .trap store := Iff.rfl

@[simp] theorem wp_ite (condition : Prop) [Decidable condition] (left right : Program σ ε α) :
    wp (if condition then left else right) post fault store ↔
      (condition → wp left post fault store) ∧ (¬ condition → wp right post fault store) := by
  by_cases holds : condition <;> simp [holds]

@[simp] theorem wp_ensure {post : Unit → σ → Prop} (condition : Prop) [Decidable condition]
    (reason : ε) : wp (ensure condition reason) post fault store ↔
      (condition → post () store) ∧ (¬ condition → fault (.error reason) store) := by
  simp [ensure]

@[simp] theorem wp_demand {post : Unit → σ → Prop} (condition : Prop) [Decidable condition] :
    wp (demand condition) post fault store ↔
      (condition → post () store) ∧ (¬ condition → fault .trap store) := by
  simp [demand]

@[simp] theorem wp_orFail (value : Option α) (reason : ε) :
    wp (orFail value reason) post fault store ↔ (∀ hit, value = some hit → post hit store) ∧
        (value = none → fault (.error reason) store) := by
  cases value <;> simp [orFail]

@[simp] theorem wp_orTrap (value : Option α) : wp (orTrap value) post fault store ↔
      (∀ hit, value = some hit → post hit store) ∧ (value = none → fault .trap store) := by
  cases value <;> simp [orTrap]

@[simp] theorem wp_ofExcept (value : Except ε α) : wp (ofExcept value) post fault store ↔
      (∀ hit, value = .ok hit → post hit store) ∧
        (∀ reason, value = .error reason → fault (.error reason) store) := by
  cases value <;> simp [ofExcept]

@[simp] theorem wp_attempt {post : Except ε α → σ → Prop} (program : Program σ ε α) :
    wp (attempt program) post fault store ↔ wp program (fun value after => post (.ok value) after)
        (fun reason after => reason.holds (fun error => post (.error error) after)
          (fault .trap after)) store := by
  simp only [wp, attempt]
  rcases program store with ⟨value, after⟩ | ⟨reason | _, after⟩ <;> rfl

@[simp] theorem wp_zoom (part : σ → τ) (replace : τ → σ → σ) (translate : δ → ε)
    (program : Program τ δ α) : wp (zoom part replace translate program) post fault store ↔
      wp program (fun value after => post value (replace after store))
        (fun reason after => reason.holds
          (fun error => fault (.error (translate error)) (replace after store))
          (fault .trap (replace after store))) (part store) := by
  simp only [wp, zoom]
  rcases program (part store) with ⟨value, after⟩ | ⟨reason | _, after⟩ <;> rfl

/-- How the operations that do not branch are specified. -/
abbrev OperationRules (σ ε : Type) : Prop :=
  ∀ {fault : Fault ε → σ → Prop} {store : σ}, (∀ {α} (post : α → σ → Prop) (value : α),
      wp (pure value : Program σ ε α) post fault store ↔ post value store) ∧
    (∀ {α β} (post : α → σ → Prop) (program : Program σ ε β) (next : β → Program σ ε α),
      wp (program >>= next) post fault store ↔
        wp program (fun value after => wp (next value) post fault after) fault store) ∧
    (∀ {β} (post : PUnit → σ → Prop) (program : Program σ ε β),
      wp (discard program) post fault store ↔
        wp program (fun _ after => post ⟨⟩ after) fault store) ∧
    (∀ post : σ → σ → Prop, wp (get : Program σ ε σ) post fault store ↔ post store store) ∧
    (∀ (post : PUnit → σ → Prop) (after : σ),
      wp (set after : Program σ ε PUnit) post fault store ↔ post ⟨⟩ after) ∧
    (∀ (post : PUnit → σ → Prop) (f : σ → σ),
      wp (modify f : Program σ ε PUnit) post fault store ↔ post ⟨⟩ (f store)) ∧
    (∀ {α} (post : α → σ → Prop) (reason : ε), wp (fail reason : Program σ ε α) post fault store ↔
      fault (.error reason) store) ∧
    (∀ {α} (post : α → σ → Prop),
      wp (trap : Program σ ε α) post fault store ↔ fault .trap store) ∧
    (∀ (post : Unit → σ → Prop) (condition : Prop) [Decidable condition] (reason : ε),
      wp (ensure condition reason) post fault store ↔
        (condition → post () store) ∧ (¬ condition → fault (.error reason) store)) ∧
    (∀ (post : Unit → σ → Prop) (condition : Prop) [Decidable condition],
      wp (demand condition) post fault store ↔
        (condition → post () store) ∧ (¬ condition → fault .trap store)) ∧
    (∀ {α} (post : α → σ → Prop) (value : Option α) (reason : ε),
      wp (orFail value reason) post fault store ↔
        (∀ hit, value = some hit → post hit store) ∧
          (value = none → fault (.error reason) store)) ∧
    (∀ {α} (post : α → σ → Prop) (value : Option α), wp (orTrap value) post fault store ↔
      (∀ hit, value = some hit → post hit store) ∧
        (value = none → fault .trap store)) ∧
    (∀ {α} (post : α → σ → Prop) (value : Except ε α), wp (ofExcept value) post fault store ↔
      (∀ hit, value = .ok hit → post hit store) ∧
        (∀ reason, value = .error reason → fault (.error reason) store))

/-- The rules of these operations, for rewriting a program with all of them. -/
theorem wp_rules : OperationRules σ ε :=
  ⟨fun _ => wp_pure, fun _ => wp_bind, fun _ => wp_discard, fun _ => wp_get, fun _ => wp_set,
    fun _ => wp_modify, fun _ => wp_fail, fun _ => wp_trap, fun _ => wp_ensure,
    fun _ => wp_demand, fun _ => wp_orFail, fun _ => wp_orTrap, fun _ => wp_ofExcept⟩

/-- Where nothing is asked of a fault, the conditions on faults go. -/
theorem asks_true : (∀ p : Prop, (p → True) = True) ∧ (∀ α : Type, (α → True) = True) ∧
    ∀ p, (p ∧ True) = p :=
  ⟨fun p => implies_true p, fun α => implies_true α, and_true⟩

/-- The rules of a program of whose faults nothing is asked. -/
theorem wlp_rules : (∀ p : Prop, (p → True) = True) ∧ (∀ α : Type, (α → True) = True) ∧
    (∀ p, (p ∧ True) = p) ∧ ∀ {σ ε : Type}, OperationRules σ ε :=
  ⟨asks_true.1, asks_true.2.1, asks_true.2.2, wp_rules⟩

variable {knownFault : Fault ε → σ → Prop} {known : α → σ → Prop}

/-- A program known by one specification meets every weaker one. -/
theorem wp_mono {program : Program σ ε α} (specified : wp program known knownFault store)
    (gave : ∀ value after, known value after → post value after)
    (stopped : ∀ reason after, knownFault reason after → fault reason after) :
    wp program post fault store := by
  simp only [wp] at specified ⊢
  cases result : program store with
  | ok value after => exact gave value after (by simpa only [result] using specified)
  | error reason after => exact stopped reason after (by simpa only [result] using specified)

/-- A program of which only the returns matter meets every weaker specification of them. -/
theorem wp_then {program : Program σ ε α} (specified : wp program known knownFault store)
    (gave : ∀ value after, known value after → post value after) :
    wp program post (fun _ _ => True) store :=
  wp_mono specified gave fun _ _ _ => trivial

variable {after : σ}

/-- What a specification says of a returned value. -/
theorem wp_ok {program : Program σ ε α} (specified : wp program post fault store) {value : α}
    (gave : program store = .ok value after) : post value after := by
  simpa only [wp, gave] using specified

/-- What a specification says of a fault. -/
theorem wp_error {program : Program σ ε α} (specified : wp program post fault store)
    {reason : Fault ε} (stopped : program store = .error reason after) : fault reason after := by
  simpa only [wp, stopped] using specified

/-- A specification of one result. -/
theorem wp_of_ok {program : Program σ ε α} {value : α}
    (gave : program store = .ok value after) (holds : post value after) :
    wp program post fault store := by
  simpa only [wp, gave] using holds

theorem wp_of_error {program : Program σ ε α} {reason : Fault ε}
    (stopped : program store = .error reason after) (holds : fault reason after) :
    wp program post fault store := by
  simpa only [wp, stopped] using holds

/-- A specification is exactly its statement about every result. -/
theorem wp_iff (program : Program σ ε α) : wp program post fault store ↔
      (∀ value after, program store = .ok value after → post value after) ∧
        (∀ reason after, program store = .error reason after → fault reason after) := by
  constructor
  · intro specified
    exact ⟨fun _ _ => wp_ok specified, fun _ _ => wp_error specified⟩
  · rintro ⟨gave, stopped⟩
    simp only [wp]
    cases result : program store with
    | ok value after => exact gave value after result
    | error reason after => exact stopped reason after result

end Rules

/-- A property of the storage after an invocation follows from the program's
specification: its successful storage, or the initial one on any fault. -/
theorem invoke_rule {program : Program σ ε α} {property : σ → Prop} {store : σ}
    (specified : wp program (fun _ after => property after) (fun _ _ => property store) store) :
    property (invoke program store) := by
  simp only [wp] at specified
  simp only [invoke]
  cases result : program store with
  | ok value after => simpa only [result] using specified
  | error reason after => simpa only [result] using specified

variable {program : Program σ ε α}

/-- An accepted invocation leaves the storage its program returned. -/
theorem invoke_of_ok {store after : σ} {value : α}
    (gave : program store = .ok value after) : invoke program store = after := by
  simp only [invoke, gave]

theorem valueOr_of_ok {fallback value : α} {store after : σ}
    (gave : program store = .ok value after) : valueOr fallback program store = value := by
  simp only [valueOr, gave]

theorem valueOr_of_rejected {fallback : α} {store : σ} (rejected : ¬ Accepts program store) :
    valueOr fallback program store = fallback := by
  simp only [valueOr]
  cases result : program store with
  | ok value after => exact absurd ⟨value, after, result⟩ rejected
  | error reason after => rfl

/-- An accepted invocation returns the storage that it leaves. -/
theorem gave_of_accepts {store : σ} (accepts : Accepts program store) :
    ∃ value, program store = .ok value (invoke program store) := by
  obtain ⟨value, after, gave⟩ := accepts
  exact ⟨value, by rw [invoke_of_ok gave, gave]⟩

/-- An invocation that is not accepted changes nothing. -/
theorem invoke_of_rejected {store : σ} (rejected : ¬ Accepts program store) :
    invoke program store = store := by
  simp only [invoke]
  cases result : program store with
  | ok value after => exact absurd ⟨value, after, result⟩ rejected
  | error reason after => rfl

/-- Discarding the value does not change what an invocation leaves. -/
theorem invoke_discard (program : Program σ ε α) (store : σ) :
    invoke (discard program) store = invoke program store := by
  simp only [invoke, discard, Functor.mapConst, Function.comp, EStateM.map]
  cases program store <;> rfl

theorem accepts_iff_wp (program : Program σ ε α) (store : σ) :
    Accepts program store ↔ wp program (fun _ _ => True) (fun _ _ => False) store := by
  rw [wp_iff]
  constructor
  · rintro ⟨_, _, gave⟩
    refine ⟨fun _ _ _ => trivial, fun _ _ stopped => ?_⟩
    rw [gave] at stopped
    cases stopped
  · rintro ⟨_, never⟩
    cases result : program store with
    | ok value after => exact ⟨value, after, result⟩
    | error reason after => exact (never reason after result).elim

/-- A program that cannot stop returns what it is specified to. -/
theorem returns_of_wp {store : σ} {post : α → σ → Prop}
    (specified : wp program post (fun _ _ => False) store) :
    ∃ value after, program store = .ok value after ∧ post value after := by
  simp only [wp] at specified
  cases result : program store with
  | ok value after => exact ⟨value, after, rfl, by simpa only [result] using specified⟩
  | error reason after => exact absurd specified (by simp only [result, not_false_eq_true])

theorem accepts_discard {store : σ} : Accepts (discard program) store ↔ Accepts program store := by
  rw [accepts_iff_wp, accepts_iff_wp, wp_discard]

theorem returned_of_discard {store after : σ} (gave : discard program store = .ok () after) :
    ∃ value, program store = .ok value after := by
  have kept := gave_of_accepts (accepts_discard.mp ⟨_, _, gave⟩)
  rwa [← invoke_discard, invoke_of_ok gave] at kept

/-- A loop's rule: what is known after the items done so far, and what any stop along
the way leaves. The induction is on the items still to do. -/
theorem each_rule {body : ι → Program σ ε Unit} {fault : Fault ε → σ → Prop}
    (invariant : List ι → σ → Prop) (items done : List ι)
    (keeps : ∀ past item store, item ∈ items → invariant past store →
      wp (body item) (fun _ after => invariant (past ++ [item]) after) fault store)
    (store : σ) (holds : invariant done store) :
    wp (each body items) (fun _ after => invariant (done ++ items) after) fault store := by
  induction items generalizing done store with
  | nil => simpa [each] using holds
  | cons item rest ih =>
    simp only [each, wp_bind]
    refine wp_mono (keeps done item store List.mem_cons_self holds) ?_
      fun _ _ stopped => stopped
    intro _ after kept
    have later := ih (done ++ [item])
      (fun past other state mem => keeps past other state (List.mem_cons_of_mem _ mem))
      after kept
    simpa using later

/-- One item of a list run by `attemptEach`, with the storage around it. -/
structure Attempt (σ ε α ι : Type) where
  item : ι
  pre : σ
  result : Except ε α
  after : σ

/-- The items that `attemptEach` runs, up to the first trap. -/
def attempts (body : ι → Program σ ε α) : List ι → σ → List (Attempt σ ε α ι)
  | [], _ => []
  | item :: rest, store =>
    match body item store with
    | .ok value after => ⟨item, store, .ok value, after⟩ :: attempts body rest after
    | .error (.error reason) after =>
      ⟨item, store, .error reason, after⟩ :: attempts body rest after
    | .error .trap _ => []

/-- Each recorded attempt is the body's own run on its item. -/
theorem attempts_run (body : ι → Program σ ε α) (items : List ι) (store : σ)
    (entry : Attempt σ ε α ι) (mem : entry ∈ attempts body items store) :
    attempt (body entry.item) entry.pre = .ok entry.result entry.after := by
  induction items generalizing store with
  | nil => simp [attempts] at mem
  | cons item rest ih =>
    simp only [attempts] at mem
    rcases ran : body item store with ⟨value, after⟩ | ⟨reason | _, after⟩
    · simp only [ran, List.mem_cons] at mem
      rcases mem with rfl | later
      · simp [attempt, ran]
      · exact ih after later
    · simp only [ran, List.mem_cons] at mem
      rcases mem with rfl | later
      · simp [attempt, ran]
      · exact ih after later
    · simp [ran] at mem

variable {body : ι → Program σ ε α}

/-- What is known of an item's program, returned or erred, is known of its record. -/
theorem attempts_rule {items : List ι} {store : σ}
    {entry : Attempt σ ε α ι} (mem : entry ∈ attempts body items store) (post : σ → Prop)
    (specified : wp (body entry.item) (fun _ after => post after) (fun _ after => post after)
      entry.pre) : post entry.after := by
  have ran := attempts_run body items store entry mem
  have known : wp (attempt (body entry.item)) (fun _ after => post after) (fun _ _ => True)
      entry.pre := by
    refine (wp_attempt _).mpr (wp_mono specified (fun _ _ held => held) ?_)
    rintro (reason | _) after held
    · exact held
    · trivial
  exact wp_ok known ran

/-- What every item keeps holds where each recorded item starts. -/
theorem attempts_before (invariant : σ → Prop) (keeps : ∀ item store, invariant store →
      wp (body item) (fun _ after => invariant after) (fun _ after => invariant after) store)
    {items : List ι} {store : σ} (holds : invariant store) :
    ∀ entry ∈ attempts body items store, invariant entry.pre := by
  induction items generalizing store with
  | nil => simp [attempts]
  | cons item rest ih =>
    have kept := keeps item store holds
    rw [attempts]
    rcases ran : body item store with ⟨value, after⟩ | ⟨reason | _, after⟩
    · rintro entry (_ | ⟨_, later⟩)
      · exact holds
      · exact ih (wp_ok kept ran) entry later
    · rintro entry (_ | ⟨_, later⟩)
      · exact holds
      · exact ih (wp_error kept ran) entry later
    · simp

/-- Every record is about an item of the list. -/
theorem attempts_item (body : ι → Program σ ε α) (items : List ι) (store : σ)
    (entry : Attempt σ ε α ι) (mem : entry ∈ attempts body items store) : entry.item ∈ items := by
  induction items generalizing store with
  | nil => simp [attempts] at mem
  | cons item rest ih =>
    simp only [attempts] at mem
    rcases ran : body item store with ⟨value, after⟩ | ⟨reason | _, after⟩
    · simp only [ran, List.mem_cons] at mem
      rcases mem with rfl | later
      · exact List.mem_cons_self
      · exact List.mem_cons_of_mem _ (ih after later)
    · simp only [ran, List.mem_cons] at mem
      rcases mem with rfl | later
      · exact List.mem_cons_self
      · exact List.mem_cons_of_mem _ (ih after later)
    · simp [ran] at mem

/-- A property that every recorded item keeps, whether it returned or erred, survives
the whole list. The induction is on the items and the property is carried through
errors, because an erring item's writes stay. -/
theorem attemptEach_rule (invariant : σ → Prop) (items : List ι) (store : σ)
    (keeps : ∀ entry ∈ attempts body items store, invariant entry.pre → invariant entry.after)
    (holds : invariant store) :
    wp (attemptEach body items) (fun _ after => invariant after) (fun _ _ => True) store := by
  induction items generalizing store with
  | nil => exact holds
  | cons item rest ih =>
    simp only [attemptEach, wp_bind, wp_attempt, wp_pure]
    simp only [attempts] at keeps
    rw [wp_iff]
    refine ⟨fun value after ran => ?_, fun reason after ran => ?_⟩
    · simp only [ran] at keeps
      have kept := keeps _ List.mem_cons_self holds
      exact ih after
        (fun entry mem => keeps entry (List.mem_cons_of_mem _ mem)) kept
    · cases reason with
      | trap => trivial
      | error reason =>
        simp only [ran] at keeps
        have kept := keeps _ List.mem_cons_self holds
        exact ih after
          (fun entry mem => keeps entry (List.mem_cons_of_mem _ mem)) kept

/-- The recorded results are exactly what a returning `attemptEach` returns. -/
theorem attemptEach_results (body : ι → Program σ ε α) (items : List ι) (store after : σ)
    (results : List (Except ε α)) (gave : attemptEach body items store = .ok results after) :
    results = (attempts body items store).map Attempt.result := by
  induction items generalizing store results with
  | nil =>
    simp only [attemptEach, pure, EStateM.pure, EStateM.Result.ok.injEq] at gave
    simp [attempts, ← gave.1]
  | cons item rest ih =>
    simp only [attemptEach, bind, EStateM.bind, attempt] at gave
    rcases ran : body item store with ⟨value, middle⟩ | ⟨reason | _, middle⟩
    all_goals simp only [ran] at gave
    all_goals try
      cases later : attemptEach body rest middle with
      | error reason final => simp [later] at gave
      | ok tail final =>
        simp only [later, pure, EStateM.pure, EStateM.Result.ok.injEq] at gave
        obtain ⟨rfl, rfl⟩ := gave
        simp [attempts, ran, ← ih middle tail later]
    cases gave

end Program
