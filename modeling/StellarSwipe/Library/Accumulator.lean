import StellarSwipe.Library.KeyedSum
import Mathlib.Tactic.Linarith

/-!
# Reward-per-share accumulators

A global index grows by the reward per unit of stake, each stake remembers the index at which it
was last settled, and has since earned its stake times the difference, in scaled units.
-/

namespace Accumulator

open Table

/-- The index increment and the carry account for the whole funding. -/
theorem increment_exact (funding total : Int) :
    funding / total * total + funding % total = funding := by
  rw [mul_comm]
  exact Int.mul_ediv_add_emod funding total

/-- Crediting whole units takes at most what was earned, and all but less than one
unit of it. -/
theorem credited_bounds {scale : Int} (pos : 0 < scale) (earned : Int) :
    scale * (earned / scale) ≤ earned ∧ earned < scale * (earned / scale) + scale := by
  have division := Int.mul_ediv_add_emod earned scale
  have below := Int.emod_lt_of_pos earned pos
  have above := Int.emod_nonneg earned (by omega : scale ≠ 0)
  omega

section Outstanding

variable {κ : Type} [DecidableEq κ] {current raised : Int} {snapshot later : κ → Int}
  {stakes : Table κ Int}

/-- The scaled units that all stakes have earned since they were last settled. -/
def outstanding (current : Int) (snapshot : κ → Int) (stakes : Table κ Int) : Int :=
  Table.sum (fun key stake => stake * (current - snapshot key)) stakes

theorem outstanding_nonneg (nonneg : ∀ key stake, stakes.lookup key = some stake → 0 ≤ stake)
    (behind : ∀ key, snapshot key ≤ current) : 0 ≤ outstanding current snapshot stakes := by
  apply sum_nonneg
  intro key stake hit
  exact mul_nonneg (nonneg key stake hit) (sub_nonneg.mpr (behind key))

/-- Raising the index adds at most the increment times the total stake. -/
theorem outstanding_raise_le (nonneg : ∀ key stake, stakes.lookup key = some stake → 0 ≤ stake)
    (forward : ∀ key, snapshot key ≤ later key) :
    outstanding raised later stakes ≤ outstanding current snapshot stakes +
      (raised - current) * Table.sum (fun _ stake => stake) stakes := by
  rw [outstanding, outstanding, ← sum_mul_left, ← sum_add]
  apply sum_le_sum
  intro key stake hit
  have lag := mul_le_mul_of_nonneg_left (forward key) (nonneg key stake hit)
  linarith [mul_sub stake raised (later key), mul_sub stake current (snapshot key),
    mul_comm (raised - current) stake, mul_sub stake raised current]

/-- Settling one stake removes exactly what it had earned. -/
theorem outstanding_settle {key : κ} (settled : later key = current)
    (others : ∀ other, other ≠ key → later other = snapshot other) :
    outstanding current later stakes =
      outstanding current snapshot stakes - stakes.read key * (current - snapshot key) := by
  have reweighed := sum_reweigh (fun key stake => stake * (current - snapshot key))
    (fun key stake => stake * (current - later key)) stakes key
    (fun other stake distinct => by rw [others other distinct])
  rw [contribution_eq_read (by simp), contribution_eq_read (by simp), settled,
    sub_self, mul_zero, add_zero] at reweighed
  exact reweighed

/-- A settled stake may be changed without earning or losing anything. -/
theorem outstanding_write {key : κ} (settled : snapshot key = current) (stake : Int) :
    outstanding current snapshot (stakes.write key stake) =
      outstanding current snapshot stakes := by
  rw [outstanding, outstanding, sum_write (by simp), settled]
  simp

/-- Snapshots matter only where there is a stake. -/
theorem outstanding_congr
    (agree : ∀ key stake, stakes.lookup key = some stake → later key = snapshot key) :
    outstanding current later stakes = outstanding current snapshot stakes := by
  apply sum_congr
  intro key stake hit
  rw [agree key stake hit]

end Outstanding

section Debts

/-!
## Debts

A stake may remember a debt in whole units instead of the index. It is owed what it has
accumulated over its debt, and nothing when the debt was rounded up above that.
-/

variable {scale index stake debt : Int}

def owed (scale index stake debt : Int) : Int := max 0 (stake * index - scale * debt)

theorem owed_nonneg (scale index stake debt : Int) : 0 ≤ owed scale index stake debt :=
  le_max_left _ _

/-- Raising the index adds at most the stake times the increment. -/
theorem owed_raise_le {delta : Int} (stakeNonneg : 0 ≤ stake) (forward : 0 ≤ delta) :
    owed scale (index + delta) stake debt ≤ owed scale index stake debt + stake * delta := by
  have grown : 0 ≤ stake * delta := mul_nonneg stakeNonneg forward
  rw [owed, owed, mul_add]
  omega

/-- Crediting what is owed in whole units removes exactly those units. -/
theorem owed_credited (pos : 0 < scale) (above : debt < stake * index / scale) :
    owed scale index stake (stake * index / scale) =
      owed scale index stake debt - scale * (stake * index / scale - debt) := by
  have bounds := (credited_bounds pos (stake * index)).1
  have more : scale * debt ≤ scale * (stake * index / scale) :=
    mul_le_mul_of_nonneg_left above.le pos.le
  rw [owed, owed, mul_sub]
  omega

/-- Nothing is owed over a debt that covers what was accumulated. -/
theorem owed_covered (covered : stake * index ≤ scale * debt) :
    owed scale index stake debt = 0 := by
  rw [owed]
  omega

/-- The whole units over a debt are owed. -/
theorem credited_le_owed (pos : 0 < scale) :
    scale * max 0 (stake * index / scale - debt) ≤ owed scale index stake debt := by
  have bounds := (credited_bounds pos (stake * index)).1
  rw [owed]
  rcases le_total 0 (stake * index / scale - debt) with above | under
  · rw [max_eq_right above, mul_sub]
    omega
  · rw [max_eq_left under, mul_zero]
    exact le_max_left _ _

end Debts

end Accumulator
