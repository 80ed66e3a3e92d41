import Mathlib.Data.List.Infix
import StellarSwipe.Library.KeyedSum
import StellarSwipe.Library.Runs

/-!
# Revisions of a table

A loop over items that reads the entry of each item's key, changes it, and writes it back.
-/

namespace Table

open Runs

variable {κ α β ι : Type} [DecidableEq κ]

/-- The entry of a key, or what an absent one counts as. -/
def entryOr (fallback : α) (table : Table κ α) (key : κ) : α := (table.lookup key).getD fallback

theorem entryOr_insert (fallback : α) (table : Table κ α) (key tested : κ) (entry : α) :
    entryOr fallback (table.insert key entry) tested =
      if tested = key then entry else table.entryOr fallback tested := by
  rw [entryOr, lookup_insert]
  split <;> rfl

/-- Change the entries of the items one after another, and list what the changes answer. -/
def reviseAll (fallback : α) (key : ι → κ) (change : ι → α → Option (α × β)) :
    List ι → Table κ α → Option (Table κ α × List β)
  | [], table => some (table, [])
  | item :: rest, table => do
    let revised ← change item (table.entryOr fallback (key item))
    let later ← reviseAll fallback key change rest (table.insert (key item) revised.1)
    some (later.1, revised.2 :: later.2)

variable {fallback : α} {key : ι → κ} {change : ι → α → Option (α × β)} {items : List ι}
variable {table : Table κ α}

theorem reviseAll_isSome (distinct : (items.map key).Nodup) :
    (reviseAll fallback key change items table).isSome ↔
      ∀ item ∈ items, (change item (table.entryOr fallback (key item))).isSome := by
  induction items generalizing table with
  | nil => simp [reviseAll]
  | cons item rest ih =>
    obtain ⟨fresh, restDistinct⟩ := List.nodup_cons.mp distinct
    rw [List.forall_mem_cons, reviseAll]
    cases changed : change item (table.entryOr fallback (key item)) with
    | none => simp
    | some revised =>
      have still (other : ι) (mem : other ∈ rest) :
          entryOr fallback (table.insert (key item) revised.1) (key other) =
            table.entryOr fallback (key other) := by
        have differ : key other ≠ key item := fun same =>
          fresh (same ▸ List.mem_map_of_mem mem)
        rw [entryOr_insert, if_neg differ]
      have onward := @ih (table.insert (key item) revised.1) restDistinct
      rw [forall₂_congr fun other mem => by rw [still other mem]] at onward
      rw [← onward]
      cases later : reviseAll fallback key change rest (table.insert (key item) revised.1) <;>
        simp [later]

/-- The entries of the items' keys are the changed ones; the others stay. -/
theorem reviseAll_some (distinct : (items.map key).Nodup) {after : Table κ α} {answers : List β}
    (revised : reviseAll fallback key change items table = some (after, answers)) :
    (∀ item ∈ items, ∃ answer, change item (table.entryOr fallback (key item)) =
        some (after.entryOr fallback (key item), answer)) ∧
      ∀ tested ∉ items.map key, after.entryOr fallback tested = table.entryOr fallback tested := by
  induction items generalizing table after answers with
  | nil =>
    obtain ⟨rfl, _⟩ := Prod.mk.inj (Option.some.inj revised)
    exact ⟨by simp, fun _ _ => rfl⟩
  | cons item rest ih =>
    obtain ⟨fresh, restDistinct⟩ := List.nodup_cons.mp distinct
    rw [reviseAll] at revised
    obtain ⟨changed, first, onward⟩ := Option.bind_eq_some_iff.mp revised
    obtain ⟨⟨last, others⟩, followed, result⟩ := Option.bind_eq_some_iff.mp onward
    obtain ⟨rfl, _⟩ := Prod.mk.inj (Option.some.inj result)
    obtain ⟨changes, elsewhere⟩ := ih restDistinct followed
    refine ⟨List.forall_mem_cons.mpr ⟨⟨changed.2, ?_⟩, fun other mem => ?_⟩,
      fun tested absent => ?_⟩
    · rw [first, elsewhere _ fresh, entryOr_insert, if_pos rfl]
    · have differ : key other ≠ key item := fun same =>
        fresh (same ▸ List.mem_map_of_mem mem)
      obtain ⟨answer, known⟩ := changes other mem
      rw [entryOr_insert, if_neg differ] at known
      exact ⟨answer, known⟩
    · rw [List.map_cons, List.mem_cons, not_or] at absent
      rw [elsewhere tested absent.2, entryOr_insert, if_neg absent.1]

section Revises

variable {α β γ : Type} {terms : α → β} {gathered : α → γ} {grows : γ → γ → Prop}
  {closed : α → Prop}

/-- The same entry later: its terms stay, what it has gathered grows, and closed it stays. -/
structure Revises (terms : α → β) (gathered : α → γ) (grows : γ → γ → Prop) (closed : α → Prop)
    (prior later : α) : Prop where
  same : terms later = terms prior
  gains : grows (gathered prior) (gathered later)
  done : closed prior → later = prior

instance [IsPreorder γ grows] : IsPreorder α (Revises terms gathered grows closed) where
  refl _ := ⟨rfl, refl_of grows _, fun _ => rfl⟩
  trans _ _ _ one two :=
    ⟨two.same.trans one.same, trans_of grows one.gains two.gains, fun ended =>
      (two.done (one.done ended ▸ ended)).trans (one.done ended)⟩

end Revises

section Records

variable {κ α σ ι : Type} [DecidableEq κ] {continues : α → α → Prop}
  [IsPreorder α continues]

def Continued (continues : α → α → Prop) (prior later : Table κ α) : Prop :=
  ∀ key entry, prior.lookup key = some entry →
    ∃ now, later.lookup key = some now ∧ continues entry now

theorem Continued.trans {first second third : Table κ α}
    (one : Continued continues first second) (two : Continued continues second third) :
    Continued continues first third := by
  intro key entry hit
  obtain ⟨middle, there, onward⟩ := one key entry hit
  obtain ⟨last, here, again⟩ := two key middle there
  exact ⟨last, here, trans_of continues onward again⟩

theorem Continued.refl (table : Table κ α) : Continued continues table table :=
  fun _ entry hit => ⟨entry, hit, refl_of continues entry⟩

theorem continued_insert {table : Table κ α} {key : κ} {entry : α}
    (replaces : ∀ prior, table.lookup key = some prior → continues prior entry) :
    Continued continues table (table.insert key entry) := by
  intro tested prior hit
  rw [lookup_insert]
  split
  next same => exact ⟨entry, rfl, replaces prior (same ▸ hit)⟩
  next => exact ⟨prior, hit, refl_of continues prior⟩

/-- What each step keeps on record stays on record along a run. -/
theorem continued_run (step : ι → σ → σ) (table : σ → Table κ α) (good : σ → Prop)
    (kept : ∀ state input, good state → good (step input state) ∧
      Continued continues (table state) (table (step input state)))
    (start : σ) (holds : good start) (inputs : List ι) : good (final step start inputs) ∧
      Continued continues (table start) (table (final step start inputs)) :=
  guarded_invariant step
    (fun state => good state ∧ Continued continues (table start) (table state)) (fun _ _ => True)
    (fun state input _ held => ⟨(kept state input held.1).1,
      held.2.trans (kept state input held.1).2⟩)
    start ⟨holds, Continued.refl _⟩ inputs fun _ _ => trivial

end Records

end Table
