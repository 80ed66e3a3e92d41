import Mathlib.Order.Defs.Unbundled
import StellarSwipe.Library.Program

/-!
# What programs leave alone

A program leaves a part of the storage alone when the part is the same after every return.
-/

namespace Program

variable {σ τ ε δ α β ρ : Type} {part : σ → ρ}

/-- Whenever the program returns, the part is as it was. -/
def Leaves (part : σ → ρ) (program : Program σ ε α) : Prop :=
  ∀ pre, wp program (fun _ after => part after = part pre) (fun _ _ => True) pre

theorem leaves_pure (value : α) : Leaves part (pure value : Program σ ε α) :=
  fun _ => (wp_pure value).mpr rfl

theorem leaves_get : Leaves part (get : Program σ ε σ) := fun _ => wp_get.mpr rfl

theorem leaves_bind {program : Program σ ε β} {next : β → Program σ ε α}
    (first : Leaves part program) (second : ∀ value, Leaves part (next value)) :
    Leaves part (program >>= next) := by
  intro pre
  rw [wp_bind]
  refine wp_then (first pre) (fun value middle same => ?_)
  exact wp_then (second value middle) (fun _ _ onward => onward.trans same)

theorem leaves_modify {change : σ → σ} (same : ∀ store, part (change store) = part store) :
    Leaves part (modify change : Program σ ε PUnit) :=
  fun pre => (wp_modify change).mpr (same pre)

variable (condition : Prop)

theorem leaves_ensure [Decidable condition] (reason : ε) :
    Leaves part (ensure condition reason : Program σ ε Unit) := by
  intro pre
  rw [wp_ensure]
  exact ⟨fun _ => rfl, fun _ => trivial⟩

theorem leaves_demand [Decidable condition] :
    Leaves part (demand condition : Program σ ε Unit) := by
  intro pre
  rw [wp_demand]
  exact ⟨fun _ => rfl, fun _ => trivial⟩

theorem leaves_orFail (value : Option α) (reason : ε) :
    Leaves part (orFail value reason : Program σ ε α) := by
  intro pre
  rw [wp_orFail]
  exact ⟨fun _ _ => rfl, fun _ => trivial⟩

theorem leaves_ite [Decidable condition] {left right : Program σ ε α} (first : Leaves part left)
    (second : Leaves part right) : Leaves part (if condition then left else right) := by
  split
  next => exact first
  next => exact second

/-- A program on another part of the storage. -/
theorem leaves_zoom {inner : σ → τ} {replace : τ → σ → σ} {translate : δ → ε}
    (program : Program τ δ α) (same : ∀ value store, part (replace value store) = part store) :
    Leaves part (zoom inner replace translate program) := by
  intro pre
  rw [wp_zoom]
  refine (wp_iff _).mpr ⟨fun _ after _ => same after pre, fun reason after _ => ?_⟩
  cases reason <;> trivial

section Moves

variable {related : σ → σ → Prop}

/-- Wherever the program stops, the storage is related to where it started. -/
def Moves (related : σ → σ → Prop) (program : Program σ ε α) : Prop :=
  ∀ pre, wp program (fun _ after => related pre after)
    (fun _ after => related pre after) pre

theorem moves_modify {change : σ → σ} (moved : ∀ store, related store (change store)) :
    Moves related (modify change : Program σ ε PUnit) :=
  fun pre => (wp_modify change).mpr (moved pre)

theorem moves_bind [IsTrans σ related] {program : Program σ ε β} {next : β → Program σ ε α}
    (first : Moves related program) (second : ∀ value, Moves related (next value)) :
    Moves related (program >>= next) := by
  intro pre
  rw [wp_bind]
  refine wp_mono (first pre) (fun value middle moved => ?_) fun _ _ moved => moved
  exact wp_mono (second value middle) (fun _ _ onward => IsTrans.trans _ _ _ moved onward)
    fun _ _ onward => IsTrans.trans _ _ _ moved onward

section Unchanged

variable [Std.Refl related]

theorem moves_pure (value : α) : Moves related (pure value : Program σ ε α) :=
  fun pre => (wp_pure value).mpr (Std.Refl.refl pre)

theorem moves_get : Moves related (get : Program σ ε σ) :=
  fun pre => wp_get.mpr (Std.Refl.refl pre)

theorem moves_ensure (condition : Prop) [Decidable condition] (reason : ε) :
    Moves related (ensure condition reason : Program σ ε Unit) := by
  intro pre
  rw [wp_ensure]
  exact ⟨fun _ => Std.Refl.refl pre, fun _ => Std.Refl.refl pre⟩

theorem moves_demand (condition : Prop) [Decidable condition] :
    Moves related (demand condition : Program σ ε Unit) := by
  intro pre
  rw [wp_demand]
  exact ⟨fun _ => Std.Refl.refl pre, fun _ => Std.Refl.refl pre⟩

theorem moves_orFail (value : Option α) (reason : ε) :
    Moves related (orFail value reason : Program σ ε α) := by
  intro pre
  rw [wp_orFail]
  exact ⟨fun _ _ => Std.Refl.refl pre, fun _ => Std.Refl.refl pre⟩

theorem moves_orTrap (value : Option α) : Moves related (orTrap value : Program σ ε α) := by
  intro pre
  rw [wp_orTrap]
  exact ⟨fun _ _ => Std.Refl.refl pre, fun _ => Std.Refl.refl pre⟩

theorem moves_ofExcept (value : Except ε α) : Moves related (ofExcept value : Program σ ε α) := by
  intro pre
  rw [wp_ofExcept]
  exact ⟨fun _ _ => Std.Refl.refl pre, fun _ _ => Std.Refl.refl pre⟩

end Unchanged

theorem moves_ite (condition : Prop) [Decidable condition] {left right : Program σ ε α}
    (first : Moves related left) (second : Moves related right) :
    Moves related (if condition then left else right) := by
  split
  next => exact first
  next => exact second

variable {program : Program σ ε α}

theorem moves_attempt (moved : Moves related program) : Moves related (attempt program) := by
  intro pre
  rw [wp_attempt]
  refine wp_mono (moved pre) (fun _ _ onward => onward) fun reason _ onward => ?_
  cases reason <;> exact onward

theorem moves_discard (moved : Moves related program) : Moves related (discard program) :=
  fun pre => (wp_discard program).mpr (moved pre)

end Moves

end Program
