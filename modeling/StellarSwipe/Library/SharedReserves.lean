import Mathlib.Data.Rat.Cast.Order
import Mathlib.Algebra.Order.Field.Basic
import Mathlib.Tactic.Linarith
import Mathlib.Tactic.Positivity
import Mathlib.Tactic.Ring

/-!
# Shares of two reserves

Two reserves are owned in shares. The value of a share squared is the product of the reserves over
the square of the supply.
-/

namespace SharedReserves

/-- The square of what a share is worth. -/
def value (first second supply : Int) : Rat := (first * second : Rat) / (supply : Rat) ^ 2

variable {first second supply first' second' supply' : Int}

/-- The value does not fall when neither reserve falls in proportion to the supply. -/
theorem value_le (present : 0 < supply) (left : 0 < supply') (nonneg : 0 ≤ second)
    (nonnegAfter : 0 ≤ first') (firstSide : first * supply' ≤ first' * supply)
    (secondSide : second * supply' ≤ second' * supply) :
    value first second supply ≤ value first' second' supply' := by
  have supplied : (0 : Rat) < supply := by exact_mod_cast present
  have suppliedAfter : (0 : Rat) < supply' := by exact_mod_cast left
  have products : (first * supply') * (second * supply') ≤
      (first' * supply) * (second' * supply) :=
    mul_le_mul firstSide secondSide (mul_nonneg nonneg left.le) (mul_nonneg nonnegAfter present.le)
  rw [value, value, div_le_div_iff₀ (by positivity) (by positivity)]
  have cast : ((first * supply') * (second * supply') : Rat) ≤
      (first' * supply) * (second' * supply) := by exact_mod_cast products
  calc (first * second : Rat) * (supply' : Rat) ^ 2
      = (first * supply') * (second * supply') := by ring
    _ ≤ (first' * supply) * (second' * supply) := cast
    _ = (first' * second' : Rat) * (supply : Rat) ^ 2 := by ring

/-- The value does not fall when the product of the reserves does not. -/
theorem value_le_of_product (present : 0 < supply) (product : first * second ≤ first' * second') :
    value first second supply ≤ value first' second' supply := by
  have supplied : (0 : Rat) < supply := by exact_mod_cast present
  have cast : (first * second : Rat) ≤ first' * second' := by exact_mod_cast product
  exact div_le_div_of_nonneg_right cast (by positivity)

variable {reserve amount minted burnt : Int}

/-- Shares rounded down are backed by what was deposited. -/
theorem minted_backed (present : 0 < reserve) (rounded : minted ≤ amount * supply / reserve) :
    minted * reserve ≤ amount * supply :=
  (mul_le_mul_of_nonneg_right rounded present.le).trans (Int.ediv_mul_le _ present.ne')

/-- A deposit for shares that it backs raises the reserve in proportion. -/
theorem deposit_side (backed : minted * reserve ≤ amount * supply) :
    reserve * (supply + minted) ≤ (reserve + amount) * supply := by
  linarith [mul_comm minted reserve, mul_add reserve supply minted, add_mul reserve amount supply]

/-- Shares of two deposits, one after the other, are backed by both amounts together. -/
theorem backed_append {amount' minted' : Int} (nonneg : 0 ≤ reserve) (pos : 0 < amount)
    (nonneg' : 0 ≤ amount') (backed : minted * reserve ≤ amount * supply)
    (later : minted' * (reserve + amount) ≤ amount' * (supply + minted)) :
    (minted + minted') * reserve ≤ (amount + amount') * supply := by
  have grown : 0 < reserve + amount := by omega
  have side : reserve * (supply + minted) ≤ (reserve + amount) * supply := deposit_side backed
  have scaled : minted' * reserve * (reserve + amount) ≤
      amount' * supply * (reserve + amount) := by
    calc minted' * reserve * (reserve + amount)
        = minted' * (reserve + amount) * reserve := by ring
      _ ≤ amount' * (supply + minted) * reserve := mul_le_mul_of_nonneg_right later nonneg
      _ = amount' * (reserve * (supply + minted)) := by ring
      _ ≤ amount' * ((reserve + amount) * supply) := mul_le_mul_of_nonneg_left side nonneg'
      _ = amount' * supply * (reserve + amount) := by ring
  have backed' := le_of_mul_le_mul_right scaled grown
  linarith [add_mul minted minted' reserve, add_mul amount amount' supply]

/-- A payment for shares rounded down leaves the reserve in proportion. -/
theorem withdrawal_side (present : 0 < supply) :
    reserve * (supply - burnt) ≤ (reserve - reserve * burnt / supply) * supply := by
  have paid := Int.ediv_mul_le (reserve * burnt) present.ne'
  linarith [mul_sub reserve supply burnt, sub_mul reserve (reserve * burnt / supply) supply]

/-- Withdrawing the shares of a deposit at once pays at most the deposit. -/
theorem round_trip_le (present : 0 < supply + minted)
    (backed : minted * reserve ≤ amount * supply) :
    (reserve + amount) * minted / (supply + minted) ≤ amount := by
  refine Int.ediv_le_of_le_mul present ?_
  linarith [add_mul reserve amount minted, mul_add amount supply minted, mul_comm minted reserve]

variable {reserveIn reserveOut : Int}

/-- A swap that pays by the product, rounded down, does not lower the product. -/
theorem swap_product (present : 0 < reserveIn + amount) : reserveIn * reserveOut ≤
      (reserveIn + amount) * (reserveOut - amount * reserveOut / (reserveIn + amount)) := by
  have paid := Int.mul_ediv_self_le (x := amount * reserveOut) present.ne'
  linarith [mul_sub (reserveIn + amount) reserveOut (amount * reserveOut / (reserveIn + amount)),
    add_mul reserveIn amount reserveOut]

/-- What two amounts buy, one after the other, both amounts together would also buy. -/
theorem bought_append {amount' out out' : Int}
    (bought : out * (reserveIn + amount) ≤ amount * reserveOut)
    (later : out' * (reserveIn + amount + amount') ≤ amount' * (reserveOut - out)) :
    (out + out') * (reserveIn + (amount + amount')) ≤ (amount + amount') * reserveOut := by
  calc (out + out') * (reserveIn + (amount + amount'))
      = out * (reserveIn + amount) + out * amount' +
          out' * (reserveIn + amount + amount') := by ring
    _ ≤ amount * reserveOut + out * amount' + amount' * (reserveOut - out) := by omega
    _ = (amount + amount') * reserveOut := by ring

end SharedReserves
