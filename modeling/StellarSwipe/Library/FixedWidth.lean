import Mathlib.Order.Lattice
import Mathlib.Algebra.Order.Group.Int
import Mathlib.Tactic.Ring

/-!
# Fixed-width integers as ranges

A machine integer is an unbounded integer with the range of its type.
-/

namespace FixedWidth

/-- The values of a machine integer type. The bounds are in order, so the range
is never empty and clamping always has somewhere to go. -/
structure Range where
  low : Int
  high : Int
  ordered : low ≤ high

namespace Range

variable (range : Range)

variable (left : Int) (right : Int) (value : Int)

/-- A mathematical integer that the type can hold. -/
def Holds : Prop := range.low ≤ value ∧ value ≤ range.high
deriving Decidable

/-- The exact value when the type can hold it. -/
def checked : Option Int := if range.Holds value then some value else none

/-- The nearest value that the type can hold. -/
def clamp : Int := max range.low (min value range.high)

def checkedAdd : Option Int := range.checked (left + right)

def checkedSub : Option Int := range.checked (left - right)

def checkedMul : Option Int := range.checked (left * right)

/-- Division truncates toward zero and fails on a zero divisor. -/
def checkedDiv : Option Int :=
  if right = 0 then none else range.checked (left.tdiv right)

def saturatingAdd : Int := range.clamp (left + right)

def saturatingSub : Int := range.clamp (left - right)

@[simp] theorem checked_eq_some (result : Int) :
    range.checked value = some result ↔ range.Holds value ∧ value = result := by
  by_cases held : range.Holds value <;> simp [checked, held]

theorem checked_ok {value result : Int} (computed : range.checked value = some result) :
    range.Holds value ∧ value = result := (range.checked_eq_some value result).mp computed

@[simp] theorem checked_eq_none : range.checked value = none ↔ ¬ range.Holds value := by
  by_cases held : range.Holds value <;> simp [checked, held]

/-- A value of the type is not moved by clamping. -/
theorem clamp_of_holds {value : Int} (held : range.Holds value) : range.clamp value = value := by
  obtain ⟨above, below⟩ := held
  simp only [clamp]
  omega

/-- Clamping always lands in the type. -/
theorem clamp_holds : range.Holds (range.clamp value) := by
  have ordered := range.ordered
  simp only [Holds, clamp]
  omega

/-- From above the lower bound, clamping can only lose value. -/
theorem clamp_le {value : Int} (above : range.low ≤ value) : range.clamp value ≤ value := by
  simp only [clamp]
  omega

/-- A bound that the type can hold survives clamping. -/
theorem le_clamp {bound value : Int} (held : bound ≤ range.high) (below : bound ≤ value) :
    bound ≤ range.clamp value := by
  simp only [clamp]
  omega

/-- Saturating addition of what a type can hold never exceeds the exact sum. -/
theorem saturatingAdd_le {left right : Int} (above : range.low ≤ left + right) :
    range.saturatingAdd left right ≤ left + right :=
  range.clamp_le above

end Range

variable (largest : Nat)

/-- Saturating addition of an unsigned counter with the given largest value. -/
def satCount (left right : Nat) : Nat := min (left + right) largest

/-- Checked addition of an unsigned counter with the given largest value. -/
def checkedCount (left right : Nat) : Option Nat :=
  if left + right ≤ largest then some (left + right) else none

@[simp] theorem checkedCount_eq_some (left right result : Nat) :
    checkedCount largest left right = some result ↔
      left + right ≤ largest ∧ left + right = result := by
  by_cases room : left + right ≤ largest <;> simp [checkedCount, room]

/-- Below the largest value the counter moves exactly. -/
theorem saturating_count_exact {largest left right : Nat} (room : left + right ≤ largest) :
    satCount largest left right = left + right :=
  Nat.min_eq_left room

/-- A counter never passes its largest value. -/
theorem saturating_count_bounded (left right : Nat) : satCount largest left right ≤ largest :=
  Nat.min_le_right _ _

/-- A counter that has saturated stays at its largest value. -/
theorem saturating_count_min (count : Nat) :
    satCount largest (min count largest) 1 = min (count + 1) largest := by
  simp only [satCount]
  omega

variable {numerator divisor : Int}

/-- Truncating division of a nonnegative number by a positive one is the floor. -/
theorem tdiv_eq_floor (nonneg : 0 ≤ numerator) : numerator.tdiv divisor = numerator / divisor :=
  Int.tdiv_eq_ediv_of_nonneg nonneg

/-- Truncating remainder of a nonnegative number is the Euclidean one. -/
theorem tmod_eq_emod (nonneg : 0 ≤ numerator) : numerator.tmod divisor = numerator % divisor :=
  Int.tmod_eq_emod_of_nonneg nonneg

end FixedWidth
