import Mathlib.Data.List.Sort

/-!
# Bubble sort

A pass carries the greatest of the items it compares to their end.
-/

namespace BubbleSort

variable {α : Type} [LinearOrder α]

/-- So many neighbours are compared from the front, and swapped where they are out of order. -/
def bubblePass : Nat → List α → List α
  | compares + 1, first :: second :: rest =>
    if second < first then second :: bubblePass compares (first :: rest)
    else first :: bubblePass compares (second :: rest)
  | _, items => items

/-- Passes that compare one pair less each time, down to none. -/
def bubblePasses : Nat → List α → List α
  | 0, items => items
  | passes + 1, items => bubblePasses passes (bubblePass passes items)

variable (items : List α)

def bubbleSort : List α := bubblePasses items.length items

/-- A pass over a front part carries its greatest item to its end, before what follows. The
induction is on the comparisons; whichever of two neighbours is greater goes on. -/
theorem bubblePass_carries (compares : Nat) (items rest : List α)
    (sized : items.length = compares + 1) : ∃ front last, front.length = compares ∧
      bubblePass compares (items ++ rest) = front ++ last :: rest ∧
      (front ++ [last]).Perm items ∧ ∀ item ∈ items, item ≤ last := by
  induction compares generalizing items with
  | zero =>
    obtain ⟨item, rfl⟩ := List.length_eq_one_iff.mp sized
    refine ⟨[], item, rfl, rfl, .refl _, fun other mem => ?_⟩
    exact (List.mem_singleton.mp mem).le
  | succ compares ih =>
    match items, sized with
    | first :: second :: others, sized =>
      have size : others.length + 1 = compares + 1 := Nat.succ.inj sized
      simp only [List.cons_append, bubblePass]
      by_cases swap : second < first
      · obtain ⟨front, last, sizes, passed, same, above⟩ :=
          ih (first :: others) size
        refine ⟨second :: front, last, by simp [sizes], ?_, ?_, fun item mem => ?_⟩
        · rw [if_pos swap, List.cons_append, ← passed, List.cons_append]
        · exact (same.cons second).trans (.swap first second others)
        · rcases List.mem_cons.mp mem with rfl | later
          · exact above _ List.mem_cons_self
          · rcases List.mem_cons.mp later with rfl | inside
            · exact swap.le.trans (above first List.mem_cons_self)
            · exact above item (List.mem_cons_of_mem _ inside)
      · obtain ⟨front, last, sizes, passed, same, above⟩ :=
          ih (second :: others) size
        refine ⟨first :: front, last, by simp [sizes], ?_, same.cons first,
          fun item mem => ?_⟩
        · rw [if_neg swap, List.cons_append, ← passed, List.cons_append]
        · rcases List.mem_cons.mp mem with rfl | later
          · exact (not_lt.mp swap).trans (above second List.mem_cons_self)
          · exact above item later

/-- What stands behind is in order and above the rest, and stays so pass after pass. -/
theorem bubblePasses_sorts (passes : Nat) (items sorted : List α) (sized : items.length = passes)
    (inOrder : sorted.Pairwise (· ≤ ·)) (above : ∀ item ∈ items, ∀ later ∈ sorted, item ≤ later) :
    (bubblePasses passes (items ++ sorted)).Pairwise (· ≤ ·) ∧
      (bubblePasses passes (items ++ sorted)).Perm (items ++ sorted) := by
  induction passes generalizing items sorted with
  | zero =>
    obtain rfl := List.length_eq_zero_iff.mp sized
    exact ⟨inOrder, .refl _⟩
  | succ passes ih =>
    obtain ⟨front, last, sizes, passed, same, greatest⟩ :=
      bubblePass_carries passes items sorted sized
    have inside {item : α} (mem : item ∈ front) : item ∈ items :=
      same.subset (List.mem_append_left _ mem)
    have lastInside : last ∈ items := same.subset (by simp)
    obtain ⟨ordered, kept⟩ := ih front (last :: sorted) sizes
      (List.pairwise_cons.mpr ⟨above last lastInside, inOrder⟩) fun item mem later behind => by
        rcases List.mem_cons.mp behind with rfl | further
        · exact greatest item (inside mem)
        · exact above item (inside mem) later further
    rw [bubblePasses, passed]
    refine ⟨ordered, kept.trans ?_⟩
    have moved : (front ++ last :: sorted) = (front ++ [last]) ++ sorted := by simp
    rw [moved]
    exact same.append_right sorted

theorem bubbleSort_sorted : (bubbleSort items).Pairwise (· ≤ ·) := by
  have sorts := bubblePasses_sorts items.length items [] rfl List.Pairwise.nil (by simp)
  rw [List.append_nil] at sorts
  exact sorts.1

theorem bubbleSort_perm : (bubbleSort items).Perm items := by
  have sorts := bubblePasses_sorts items.length items [] rfl List.Pairwise.nil (by simp)
  rw [List.append_nil] at sorts
  exact sorts.2

/-- There is one order of the items, so it is the one of every other sort. -/
theorem bubbleSort_eq : bubbleSort items = items.insertionSort (· ≤ ·) :=
  ((bubbleSort_perm items).trans (items.perm_insertionSort (· ≤ ·)).symm).eq_of_pairwise
    (fun _ _ _ _ below above => le_antisymm below above) (bubbleSort_sorted items)
    (items.pairwise_insertionSort (· ≤ ·))

section Settling

variable {β : Type} (key : β → Nat)

/-- One pass that carries an item along: smaller neighbours step before it, and the first one
that is not smaller is carried on. It tells whether it swapped any. -/
def carry : β → List β → List β × Bool
  | item, [] => ([item], false)
  | item, next :: rest =>
    if key next < key item then (next :: (carry item rest).1, true)
    else (item :: (carry next rest).1, (carry next rest).2)

/-- The pairs that stand in the wrong order. -/
def inversions : List β → Nat
  | [] => 0
  | item :: rest => rest.countP (key · < key item) + inversions rest

theorem carry_perm (item : β) (rest : List β) : (carry key item rest).1.Perm (item :: rest) := by
  induction rest generalizing item with
  | nil => exact .refl _
  | cons next rest ih =>
    rw [carry]
    split
    · exact ((ih item).cons next).trans (.swap item next rest)
    · exact (ih next).cons item

/-- A pass mends a pair for sure when it swaps. The induction is on the items it passes. -/
theorem carry_inversions (item : β) (rest : List β) :
    inversions key (carry key item rest).1 + (carry key item rest).2.toNat ≤
      inversions key (item :: rest) := by
  induction rest generalizing item with
  | nil => simp [carry, inversions]
  | cons next rest ih =>
    rw [carry]
    split
    next swap =>
      have carried := ih item
      have counted := (carry_perm key item rest).countP_eq (key · < key next)
      simp only [inversions, List.countP_cons, counted, swap, not_lt_of_gt swap, decide_true,
        decide_false, if_true, Bool.toNat_true] at carried ⊢
      grind
    next keep =>
      have carried := ih next
      have counted := (carry_perm key next rest).countP_eq (key · < key item)
      simp only [inversions, List.countP_cons, counted] at carried ⊢
      omega

/-- A pass that swaps nothing found the items in order. -/
theorem carry_kept (item : β) (rest : List β) (kept : (carry key item rest).2 = false) :
    (carry key item rest).1 = item :: rest ∧ (item :: rest).Pairwise (key · ≤ key ·) := by
  induction rest generalizing item with
  | nil => exact ⟨rfl, List.pairwise_singleton _ _⟩
  | cons next rest ih =>
    rw [carry] at kept ⊢
    split at kept
    · cases kept
    next keep =>
      obtain ⟨same, ordered⟩ := ih next kept
      rw [if_neg keep, same]
      refine ⟨rfl, List.pairwise_cons.mpr ⟨fun other mem => ?_, ordered⟩⟩
      rcases List.mem_cons.mp mem with rfl | later
      · exact not_lt.mp keep
      · exact (not_lt.mp keep).trans (List.rel_of_pairwise_cons ordered later)

/-- Items of one key keep their order in a pass. -/
theorem carry_filter (number : Nat) (item : β) (rest : List β) :
    (carry key item rest).1.filter (key · = number) = (item :: rest).filter (key · = number) := by
  induction rest generalizing item with
  | nil => rfl
  | cons next rest ih =>
    rw [carry]
    split
    next swap =>
      have apart : ¬ (key next = number ∧ key item = number) := by omega
      simp only [List.filter_cons, ih item]
      grind
    next => simp only [List.filter_cons, ih next]

/-- Passes over the items until one swaps nothing. -/
def settle (items : List β) : List β :=
  match items with
  | [] => []
  | item :: rest =>
    if _swapped : (carry key item rest).2 = true then settle (carry key item rest).1
    else (carry key item rest).1
termination_by inversions key items
decreasing_by
  have mended := carry_inversions key item rest
  rw [_swapped, Bool.toNat_true] at mended
  omega

/-- The passes leave the items in the stable order of their keys. -/
theorem settle_stable (items : List β) : (settle key items).Pairwise (key · ≤ key ·) ∧
    ∀ number, (settle key items).filter (key · = number) = items.filter (key · = number) := by
  fun_induction settle key items with
  | case1 => exact ⟨.nil, fun _ => rfl⟩
  | case2 item rest swapped ih => exact ⟨ih.1, fun number =>
      (ih.2 number).trans (carry_filter key number item rest)⟩
  | case3 item rest kept =>
    obtain ⟨same, ordered⟩ := carry_kept key item rest (by simpa using kept)
    exact ⟨same ▸ ordered, fun number => carry_filter key number item rest⟩

end Settling

end BubbleSort
