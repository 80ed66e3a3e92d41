import Mathlib.Algebra.Order.BigOperators.Group.List
import Mathlib.Algebra.BigOperators.Ring.List
import Mathlib.Data.List.Forall2
import Mathlib.Tactic.Linarith

/-!
# Apportionment by weight

A total is divided among weights by giving each the floor of its exact share.
-/

namespace Apportionment

variable {divisor : Int} {weights : List Int}

variable (total : Int)

/-- Floors and fractions together account for the whole scaled total. -/
theorem floors_fractions (divisor : Int) (weights : List Int) :
    divisor * (weights.map fun weight => total * weight / divisor).sum +
      (weights.map fun weight => total * weight % divisor).sum = total * weights.sum := by
  induction weights with
  | nil => simp
  | cons weight rest ih =>
    have division := Int.mul_ediv_add_emod (total * weight) divisor
    simp only [List.map_cons, List.sum_cons, mul_add]
    omega

theorem fractions_nonneg (pos : 0 < divisor) (weights : List Int) :
    0 ≤ (weights.map fun weight => total * weight % divisor).sum := by
  apply List.sum_nonneg
  intro fraction mem
  obtain ⟨weight, _, rfl⟩ := List.mem_map.mp mem
  exact Int.emod_nonneg _ (by omega)

/-- The floors never exceed the total. -/
theorem floors_le (pos : 0 < weights.sum) :
    (weights.map fun weight => total * weight / weights.sum).sum ≤ total := by
  have account := floors_fractions total weights.sum weights
  have fractions := fractions_nonneg total pos weights
  have scaled : weights.sum * (weights.map fun weight => total * weight / weights.sum).sum ≤
      weights.sum * total := by linarith [mul_comm total weights.sum]
  exact le_of_mul_le_mul_left scaled pos

/-- What the floors leave over is at most a unit for each weight. -/
theorem rest_le_length (pos : 0 < weights.sum) :
    total - (weights.map fun weight => total * weight / weights.sum).sum ≤ weights.length := by
  have account := floors_fractions total weights.sum weights
  have fractions : (weights.map fun weight => total * weight % weights.sum).sum ≤
      (weights.map fun weight => total * weight % weights.sum).length • weights.sum := by
    refine List.sum_le_card_nsmul _ _ fun fraction mem => ?_
    obtain ⟨weight, _, rfl⟩ := List.mem_map.mp mem
    exact (Int.emod_lt_of_pos _ pos).le
  rw [List.length_map, nsmul_eq_mul] at fractions
  have scaled : weights.sum *
      (total - (weights.map fun weight => total * weight / weights.sum).sum) ≤
        weights.sum * weights.length := by
    rw [mul_sub, mul_comm weights.sum total, mul_comm weights.sum (weights.length : Int)]
    omega
  exact le_of_mul_le_mul_left scaled pos

/-- Lists that are related through a third one, item by item. -/
theorem forall₂_comp {α β γ : Type} {first : α → β → Prop} {later : β → γ → Prop}
    {both : α → γ → Prop} (step : ∀ a b c, first a b → later b c → both a c)
    {left : List α} {middle : List β} {right : List γ} (related : List.Forall₂ first left middle)
    (continued : List.Forall₂ later middle right) : List.Forall₂ both left right := by
  induction related generalizing right with
  | nil =>
    cases continued
    exact .nil
  | cons head _ ih =>
    cases continued with
    | cons next rest => exact .cons (step _ _ _ head next) (ih rest)

end Apportionment
