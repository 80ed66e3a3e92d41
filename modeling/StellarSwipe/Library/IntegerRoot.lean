import Mathlib.Data.Nat.Sqrt
import Mathlib.Tactic.Linarith

/-!
# Integer square roots by descent

Newton's iteration from above: replace a guess by the mean of itself and the quotient, as long as
that is smaller.
-/

namespace IntegerRoot

def mean (number guess : Nat) : Nat := (guess + number / guess) / 2

/-- Improve the guess while the mean is smaller, for at most the given steps. -/
def descend (number : Nat) : Nat → Nat → Nat
  | 0, guess => guess
  | steps + 1, guess =>
    if mean number guess < guess then descend number steps (mean number guess) else guess

variable {number guess : Nat}

/-- Two numbers with a given sum have the largest product when they are equal. -/
theorem rest_mul_le {root rest : Nat} (total : 2 * root = guess + rest) :
    rest * guess ≤ root * root := by
  rcases Nat.le_total guess rest with below | above
  · obtain ⟨gap, rfl⟩ := Nat.exists_eq_add_of_le (show guess ≤ root by omega)
    obtain rfl : rest = guess + gap + gap := by omega
    nlinarith
  · obtain ⟨gap, rfl⟩ := Nat.exists_eq_add_of_le (show rest ≤ root by omega)
    obtain rfl : guess = rest + gap + gap := by omega
    nlinarith

/-- The mean of a guess is never below the root. -/
theorem sqrt_le_mean (pos : 0 < guess) : Nat.sqrt number ≤ mean number guess := by
  by_cases close : guess ≤ 2 * Nat.sqrt number
  · have quotient : 2 * Nat.sqrt number - guess ≤ number / guess := by
      rw [Nat.le_div_iff_mul_le pos]
      obtain ⟨rest, total⟩ := Nat.exists_eq_add_of_le close
      have below : 2 * Nat.sqrt number - guess = rest := by omega
      rw [below]
      have square := Nat.sqrt_le number
      calc rest * guess ≤ Nat.sqrt number * Nat.sqrt number := rest_mul_le total
        _ ≤ number := square
    simp only [mean]
    omega
  · simp only [mean]
    generalize number / guess = quotient
    omega

/-- A guess between one and the number makes, with its quotient, no more than the number. -/
theorem add_quotient_le (above : 2 ≤ guess) (below : guess < number) :
    guess + number / guess ≤ number := by
  have product : number / guess * guess ≤ number := Nat.div_mul_le_self _ _
  have pos : 1 ≤ number / guess := (Nat.one_le_div_iff (by omega)).mpr below.le
  by_cases one : number / guess = 1
  · omega
  · have two : 2 ≤ number / guess := by omega
    nlinarith

/-- A guess that the mean does not improve is at most the root. -/
theorem le_sqrt_of_settled (pos : 0 < guess) (settled : guess ≤ mean number guess) :
    guess ≤ Nat.sqrt number := by
  rw [Nat.le_sqrt, ← Nat.le_div_iff_mul_le pos]
  simp only [mean] at settled
  omega

/-- With at least as many steps as the guess, descent ends at the root. The induction
is on the steps, and every step keeps the guess at least the root and below the
steps that are left. -/
theorem descend_eq_sqrt (pos : 0 < number) {steps : Nat} (enough : guess ≤ steps)
    (above : Nat.sqrt number ≤ guess) : descend number steps guess = Nat.sqrt number := by
  have rootPositive : 0 < Nat.sqrt number := Nat.sqrt_pos.mpr pos
  induction steps generalizing guess with
  | zero => omega
  | succ steps ih =>
    simp only [descend]
    split
    next improved =>
      exact ih (by omega) (sqrt_le_mean (by omega))
    next settled =>
      exact Nat.le_antisymm (le_sqrt_of_settled (by omega) (by omega)) above

end IntegerRoot
