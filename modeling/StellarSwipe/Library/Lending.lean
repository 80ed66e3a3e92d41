import Mathlib.Algebra.Order.BigOperators.Group.Finset
import StellarSwipe.Library.KeyedSum

/-!
# Weight lent to delegates

Every holder keeps a part of a weight and may lend a part to one delegate.
-/

namespace Lending

open Table

variable {κ : Type} [DecidableEq κ] {own lent weight : κ → Int} {delegate : κ → κ}

def commanded (own lent : κ → Int) (delegate : κ → κ) (lenders : Finset κ) (holder : κ) : Int :=
  own holder + ∑ lender ∈ lenders with delegate lender = holder, lent lender

/-- Holders that keep and lend within their weight command no more than it. -/
theorem commanded_le (within : ∀ key, own key + lent key ≤ weight key)
    (ownNonneg : ∀ key, 0 ≤ own key) (lentNonneg : ∀ key, 0 ≤ lent key)
    (holders lenders : Finset κ) : ∑ holder ∈ holders, commanded own lent delegate lenders holder ≤
      ∑ key ∈ holders ∪ lenders, weight key := by
  have borrowed : ∑ holder ∈ holders, ∑ lender ∈ lenders with delegate lender = holder,
      lent lender ≤ ∑ lender ∈ lenders, lent lender := by
    apply Finset.sum_fiberwise_le_sum_of_sum_fiber_nonneg
    intro holder _
    exact Finset.sum_nonneg fun lender _ => lentNonneg lender
  have kept : ∑ holder ∈ holders, own holder ≤ ∑ key ∈ holders ∪ lenders, own key :=
    Finset.sum_le_sum_of_subset_of_nonneg Finset.subset_union_left fun key _ _ => ownNonneg key
  have given : ∑ lender ∈ lenders, lent lender ≤ ∑ key ∈ holders ∪ lenders, lent key :=
    Finset.sum_le_sum_of_subset_of_nonneg Finset.subset_union_right fun key _ _ => lentNonneg key
  calc ∑ holder ∈ holders, commanded own lent delegate lenders holder
      = ∑ holder ∈ holders, own holder + ∑ holder ∈ holders,
          ∑ lender ∈ lenders with delegate lender = holder, lent lender :=
        Finset.sum_add_distrib
    _ ≤ ∑ key ∈ holders ∪ lenders, own key + ∑ key ∈ holders ∪ lenders, lent key := by omega
    _ = ∑ key ∈ holders ∪ lenders, (own key + lent key) := Finset.sum_add_distrib.symm
    _ ≤ ∑ key ∈ holders ∪ lenders, weight key := Finset.sum_le_sum fun key _ => within key

/-- The values that distinct keys read are at most the total of a nonnegative table. The
induction is on the keys, each splitting its entry off the table. -/
theorem reads_le_total {table : Table κ Int}
    (nonneg : ∀ key value, table.lookup key = some value → 0 ≤ value) (keys : Finset κ) :
    ∑ key ∈ keys, table.read key ≤ table.total := by
  induction keys using Finset.induction_on generalizing table with
  | empty =>
    rw [Finset.sum_empty]
    exact sum_nonneg nonneg
  | insert key rest fresh ih =>
    have restNonneg : ∀ other value, (table.erase key).lookup other = some value → 0 ≤ value := by
      intro other value hit
      rw [lookup_erase] at hit
      split at hit
      · cases hit
      · exact nonneg other value hit
    have others : ∑ other ∈ rest, table.read other =
        ∑ other ∈ rest, Table.read (table.erase key) other := by
      apply Finset.sum_congr rfl
      intro other mem
      have different : other ≠ key := by
        rintro rfl
        exact fresh mem
      rw [read_erase, if_neg different]
    have bounded := ih restNonneg
    rw [total_erase] at bounded
    rw [Finset.sum_insert fresh, others]
    omega

end Lending
