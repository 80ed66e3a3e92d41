import Mathlib.Algebra.BigOperators.Group.List.Basic
import Mathlib.Algebra.Order.BigOperators.Group.List
import Mathlib.Data.List.Nodup
import StellarSwipe.Library.FixedWidth

/-!
# Lists that are searched

A list that a value joins only when it is not there yet names every value once.
-/

namespace DistinctList

variable {α : Type} [DecidableEq α] {items : List α} {item other : α}

/-- The list with a value at the end, unless the value is there. -/
def pushNew (items : List α) (item : α) : List α :=
  if item ∈ items then items else items ++ [item]

theorem pushNew_of_mem (mem : item ∈ items) : pushNew items item = items :=
  if_pos mem

theorem pushNew_of_fresh (fresh : item ∉ items) : pushNew items item = items ++ [item] :=
  if_neg fresh

theorem mem_pushNew : other ∈ pushNew items item ↔ other ∈ items ∨ other = item := by
  by_cases mem : item ∈ items
  · rw [pushNew_of_mem mem]
    constructor
    · exact Or.inl
    · rintro (prior | rfl)
      · exact prior
      · exact mem
  · rw [pushNew_of_fresh mem, List.mem_append, List.mem_singleton]

/-- A value that is pushed twice is listed once. -/
theorem pushNew_nodup (distinct : items.Nodup) (item : α) : (pushNew items item).Nodup := by
  by_cases mem : item ∈ items
  · rwa [pushNew_of_mem mem]
  · rw [pushNew_of_fresh mem, List.nodup_append]
    refine ⟨distinct, List.nodup_singleton item, fun prior present last single => ?_⟩
    rw [List.mem_singleton] at single
    rintro rfl
    exact mem (single ▸ present)

section Search

variable {matching : α → Bool} {hit replacement : α}

omit [DecidableEq α] in
def replaceFirst (matching : α → Bool) (replacement : α) : List α → List α
  | [] => []
  | item :: rest =>
    if matching item then replacement :: rest
    else item :: replaceFirst matching replacement rest

end Search

end DistinctList

/-!
## Sums over listed keys

A list that names each key once, and an amount for every key. Its sum changes with the amount of one
key by what that key's amount changes, and grows at the end with the list.
-/

namespace ListedSums

variable {κ : Type} {keys : List κ} {key : κ} {amount other : κ → Int}

def total (amount : κ → Int) (keys : List κ) : Int := (keys.map amount).sum

@[simp] theorem total_concat : total amount (keys ++ [key]) = total amount keys + amount key := by
  rw [total, List.map_append, List.sum_append, List.map_singleton, List.sum_singleton, total]

/-- Amounts that agree on the listed keys have the same sum. -/
theorem total_congr (agree : ∀ key ∈ keys, amount key = other key) :
    total amount keys = total other keys :=
  congrArg List.sum (List.map_congr_left agree)

/-- The amount of one listed key changes, and the sum changes with it. -/
theorem total_changed (distinct : keys.Nodup) (listed : key ∈ keys)
    (agree : ∀ tested, tested ≠ key → other tested = amount tested) :
    total other keys = total amount keys - amount key + other key := by
  induction keys with
  | nil => cases listed
  | cons first rest ih =>
    obtain ⟨fresh, restDistinct⟩ := List.nodup_cons.mp distinct
    simp only [total, List.map_cons, List.sum_cons] at ih ⊢
    rcases List.mem_cons.mp listed with rfl | later
    · have rest_same : (rest.map other).sum = (rest.map amount).sum :=
        total_congr fun tested mem => agree tested fun same => fresh (same ▸ mem)
      rw [rest_same]
      omega
    · have first_same : other first = amount first := by
        apply agree
        rintro rfl
        exact fresh later
      rw [ih restDistinct later, first_same]
      omega

end ListedSums

namespace FixedWidth.Range

variable (range : Range)

/-- Add every amount in order, leaving out what does not fit. -/
def accumulate (start : Int) : List Int → Int
  | [] => start
  | amount :: rest => accumulate ((range.checkedAdd start amount).getD start) rest

/-- Every partial sum from a start fits. -/
def PartialSums (start : Int) : List Int → Prop
  | [] => True
  | amount :: rest => range.Holds (start + amount) ∧ PartialSums (start + amount) rest

instance PartialSums.decidable : (start : Int) → (amounts : List Int) →
    Decidable (range.PartialSums start amounts)
  | _, [] => isTrue trivial
  | start, amount :: rest =>
    have := PartialSums.decidable (start + amount) rest
    inferInstanceAs (Decidable (_ ∧ _))

variable {range}

/-- Where every partial sum fits nothing is left out. -/
theorem accumulate_of_partialSums {start : Int} {amounts : List Int}
    (fits : range.PartialSums start amounts) :
    range.accumulate start amounts = start + amounts.sum := by
  induction amounts generalizing start with
  | nil => simp [accumulate]
  | cons amount rest ih =>
    obtain ⟨held, onward⟩ := fits
    have exact_sum : (range.checkedAdd start amount).getD start = start + amount := by
      rw [checkedAdd, checked, if_pos held, Option.getD_some]
    rw [accumulate, exact_sum, ih onward, List.sum_cons, Int.add_assoc]

/-- Where every partial sum fits nothing saturates. -/
theorem foldl_saturatingAdd_of_partialSums {start : Int} {amounts : List Int}
    (fits : range.PartialSums start amounts) :
    amounts.foldl range.saturatingAdd start = start + amounts.sum := by
  induction amounts generalizing start with
  | nil => simp
  | cons amount rest ih =>
    rw [List.foldl_cons, saturatingAdd, range.clamp_of_holds fits.1, ih fits.2, List.sum_cons,
      Int.add_assoc]

end FixedWidth.Range
