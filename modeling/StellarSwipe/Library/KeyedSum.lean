import Mathlib.Data.List.AList
import Mathlib.Data.List.Dedup
import Mathlib.Algebra.BigOperators.Group.List.Basic
import Mathlib.Algebra.BigOperators.Ring.List
import Mathlib.Algebra.Order.BigOperators.Group.List
import Mathlib.Tactic.Abel

/-!
# Sums over keyed tables

A table is an association list with distinct keys.
-/

/-- A finite table with one value for each key it holds. -/
abbrev Table (κ : Type) (ν : Type) := AList (fun _ : κ => ν)

namespace Table

variable {κ ν M : Type} [DecidableEq κ]

variable (table : Table κ ν) (key : κ)

/-- Reading after an insertion finds the new value at its key only. -/
theorem lookup_insert (other : κ) (value : ν) : (table.insert key value).lookup other =
      if other = key then some value else table.lookup other := by
  by_cases same : other = key
  · subst same
    simp
  · simp [AList.lookup_insert_ne same, same]

/-- Reading after an erasure finds nothing at its key only. -/
theorem lookup_erase (other : κ) :
    (table.erase key).lookup other = if other = key then none else table.lookup other := by
  by_cases same : other = key
  · subst same
    simp
  · simp [AList.lookup_erase_ne same, same]

/-- Erasing an absent key changes nothing. -/
theorem erase_of_absent {table : Table κ ν} {key : κ} (absent : table.lookup key = none) :
    table.erase key = table :=
  AList.ext (List.kerase_of_notMem_keys fun mem =>
    (AList.lookup_eq_none.mp absent) (AList.mem_keys.mpr mem))

/-- A listed key is one that the table finds. -/
theorem mem_keys_iff : key ∈ table.keys ↔ ∃ value, table.lookup key = some value := by
  rw [← AList.mem_keys, ← AList.lookup_isSome, Option.isSome_iff_exists]

section Sums

variable [AddCommGroup M]

def sum (weight : κ → ν → M) (table : Table κ ν) : M :=
  (table.entries.map fun entry => weight entry.1 entry.2).sum

variable (weight : κ → ν → M) (table : Table κ ν) (key : κ)

/-- What one key contributes: its entry's weight, or nothing. -/
def contribution : M :=
  match table.lookup key with
  | some value => weight key value
  | none => 0

omit [DecidableEq κ] in
@[simp] theorem sum_empty : sum weight (∅ : Table κ ν) = 0 := rfl

omit [DecidableEq κ] in
theorem contribution_of_some [DecidableEq κ] {weight : κ → ν → M} {table : Table κ ν} {key : κ}
    {value : ν} (hit : table.lookup key = some value) :
    contribution weight table key = weight key value := by
  simp only [contribution, hit]

theorem contribution_of_none {weight : κ → ν → M} {table : Table κ ν} {key : κ}
    (absent : table.lookup key = none) : contribution weight table key = 0 := by
  simp only [contribution, absent]

/-- Splitting off one key: its contribution and the rest of the table. -/
theorem sum_split :
    sum weight table = contribution weight table key + sum weight (table.erase key) := by
  cases hit : table.lookup key with
  | none =>
    rw [contribution_of_none hit, zero_add, erase_of_absent hit]
  | some value =>
    have mem : key ∈ table.entries.keys :=
      (mem_keys_iff table key).mpr ⟨value, hit⟩
    obtain ⟨has, pre, after, fresh, listed, erased⟩ := List.exists_of_kerase mem
    have read : table.lookup key = some has := by
      apply AList.mem_lookup_iff.mpr
      rw [listed]
      simp
    have same : has = value := Option.mem_unique read hit
    subst same
    have rest : (table.erase key).entries = pre ++ after := erased
    simp only [contribution_of_some hit, sum, rest, listed, List.map_append, List.map_cons,
      List.sum_append, List.sum_cons]
    abel

/-- Inserting replaces the key's contribution by the new entry's weight. -/
theorem sum_insert (value : ν) : sum weight (table.insert key value) =
      sum weight table - contribution weight table key + weight key value := by
  have inserted : sum weight (table.insert key value) =
      weight key value + sum weight (table.erase key) := by
    simp only [sum, AList.entries_insert, List.map_cons, List.sum_cons]
    rfl
  rw [inserted, sum_split weight table key]
  abel

/-- Erasing removes the key's contribution. -/
theorem sum_erase :
    sum weight (table.erase key) = sum weight table - contribution weight table key := by
  rw [sum_split weight table key]
  abel

/-- Weights that agree on every stored entry have the same sum. -/
theorem sum_congr {weight other : κ → ν → M} (table : Table κ ν)
    (agree : ∀ key value, table.lookup key = some value → weight key value = other key value) :
    sum weight table = sum other table := by
  simp only [sum]
  congr 1
  apply List.map_congr_left
  intro entry mem
  exact agree entry.1 entry.2 (AList.mem_lookup_iff.mpr mem)

/-- A table that holds nothing sums to nothing. -/
theorem sum_absent {weight : κ → ν → M} {table : Table κ ν}
    (absent : ∀ key, table.lookup key = none) : sum weight table = 0 := by
  have zero : sum weight table = sum (fun _ _ => 0) table := by
    apply sum_congr
    intro key value hit
    rw [absent key] at hit
    cases hit
  rw [zero]
  simp [sum]

/-- Distinct keys that cover a table contribute its sum. The induction is on the keys,
each splitting its entry off the table. -/
theorem sum_of_keys {weight : κ → ν → M} {table : Table κ ν} {keys : List κ}
    (distinct : keys.Nodup) (covers : ∀ key value, table.lookup key = some value → key ∈ keys) :
    (keys.map (contribution weight table)).sum = sum weight table := by
  induction keys generalizing table with
  | nil =>
    refine (sum_absent fun key => ?_).symm
    cases hit : table.lookup key with
    | none => rfl
    | some value => exact absurd (covers key value hit) List.not_mem_nil
  | cons key rest ih =>
    obtain ⟨fresh, restDistinct⟩ := List.nodup_cons.mp distinct
    have restCovers : ∀ other value, (table.erase key).lookup other = some value → other ∈ rest := by
      intro other value hit
      rw [lookup_erase] at hit
      split at hit
      · cases hit
      next different =>
        rcases List.mem_cons.mp (covers other value hit) with same | later
        · exact absurd same different
        · exact later
    have others : rest.map (contribution weight (table.erase key)) =
        rest.map (contribution weight table) := by
      apply List.map_congr_left
      intro other mem
      have different : other ≠ key := by
        rintro rfl
        exact fresh mem
      simp only [contribution, lookup_erase, if_neg different]
    rw [List.map_cons, List.sum_cons, ← others, ih restDistinct restCovers, ← sum_split]

/-- Tables whose keys contribute alike have the same sum. Both sums are taken over the keys
of the two tables together. -/
theorem sum_eq_of_contributions {weight : κ → ν → M} {first second : Table κ ν}
    (alike : ∀ key, contribution weight first key = contribution weight second key) :
    sum weight first = sum weight second := by
  have distinct : (first.keys ++ second.keys).dedup.Nodup := List.nodup_dedup _
  have firstCovered : ∀ key value, first.lookup key = some value →
      key ∈ (first.keys ++ second.keys).dedup := by
    intro key value hit
    exact List.mem_dedup.mpr (List.mem_append_left _ ((mem_keys_iff first key).mpr ⟨value, hit⟩))
  have secondCovered : ∀ key value, second.lookup key = some value →
      key ∈ (first.keys ++ second.keys).dedup := by
    intro key value hit
    exact List.mem_dedup.mpr
      (List.mem_append_right _ ((mem_keys_iff second key).mpr ⟨value, hit⟩))
  rw [← sum_of_keys distinct firstCovered, ← sum_of_keys distinct secondCovered]
  exact congrArg List.sum (List.map_congr_left fun key _ => alike key)

/-- Weights that agree away from one key have sums that differ by what that key
contributes. -/
theorem sum_reweigh (other : κ → ν → M) (table : Table κ ν) (key : κ)
    (agree : ∀ tested value, tested ≠ key → weight tested value = other tested value) :
    sum other table =
      sum weight table - contribution weight table key + contribution other table key := by
  have rest : sum weight (table.erase key) = sum other (table.erase key) := by
    apply sum_congr
    intro tested value hit
    apply agree
    rintro rfl
    simp at hit
  rw [sum_split other table key, sum_split weight table key, rest]
  abel

end Sums

section Bounds

variable {weight other : κ → ν → Int} {table : Table κ ν}

omit [DecidableEq κ] in
/-- Nonnegative weights have a nonnegative sum. -/
theorem sum_nonneg [DecidableEq κ]
    (nonneg : ∀ key value, table.lookup key = some value → 0 ≤ weight key value) :
    0 ≤ sum weight table := by
  apply List.sum_nonneg
  intro term mem
  obtain ⟨entry, has, rfl⟩ := List.mem_map.mp mem
  exact nonneg entry.1 entry.2 (AList.mem_lookup_iff.mpr has)

/-- A weight bounded by another on every stored entry has the smaller sum. -/
theorem sum_le_sum
    (bounded : ∀ key value, table.lookup key = some value → weight key value ≤ other key value) :
    sum weight table ≤ sum other table := by
  apply List.sum_le_sum
  intro entry has
  exact bounded entry.1 entry.2 (AList.mem_lookup_iff.mpr has)

/-- With nonnegative weights one key contributes at most the sum. -/
theorem contribution_le_sum
    (nonneg : ∀ key value, table.lookup key = some value → 0 ≤ weight key value) (key : κ) :
    contribution weight table key ≤ sum weight table := by
  rw [sum_split weight table key]
  have rest : 0 ≤ sum weight (table.erase key) := by
    apply sum_nonneg
    intro tested value hit
    rw [lookup_erase] at hit
    split at hit
    · cases hit
    · exact nonneg tested value hit
  omega

omit [DecidableEq κ] in
/-- A common factor leaves the sum. -/
theorem sum_mul_left (factor : Int) (weight : κ → ν → Int) (table : Table κ ν) :
    sum (fun key value => factor * weight key value) table = factor * sum weight table := by
  simp only [sum, List.sum_map_mul_left]

omit [DecidableEq κ] in
/-- Sums of two weights add. -/
theorem sum_add (weight other : κ → ν → Int) (table : Table κ ν) :
    sum (fun key value => weight key value + other key value) table =
      sum weight table + sum other table := by
  simp only [sum, List.sum_map_add]

end Bounds

section Sparse

/-!
A sparse table leaves out the keys whose value is zero: reading an absent key finds
zero, and writing zero erases. Sums over it with weights that vanish at zero read
off the values alone.
-/

variable (table : Table κ Int) (key : κ)

/-- The value at a key, zero when it is absent. -/
def read : Int := (table.lookup key).getD 0

def write (value : Int) : Table κ Int :=
  if value = 0 then table.erase key else table.insert key value

theorem read_write (other : κ) (value : Int) :
    (table.write key value).read other = if other = key then value else table.read other := by
  simp only [read, write]
  by_cases zero : value = 0
  · simp only [zero, if_true, lookup_erase]
    split <;> rfl
  · simp only [zero, if_false, lookup_insert]
    split <;> rfl

variable {weight : κ → Int → Int}

theorem contribution_eq_read (vanishes : ∀ key, weight key 0 = 0) (table : Table κ Int) (key : κ) :
    contribution weight table key = weight key (table.read key) := by
  cases hit : table.lookup key with
  | none => simp [contribution_of_none hit, read, hit, vanishes]
  | some value => simp [contribution_of_some hit, read, hit]

@[simp] theorem read_empty : (∅ : Table κ Int).read key = 0 := by
  simp [read]

theorem read_insert (other : κ) (value : Int) :
    Table.read (table.insert key value) other = if other = key then value else table.read other := by
  simp only [read, lookup_insert]
  split <;> rfl

theorem read_erase (other : κ) :
    Table.read (table.erase key) other = if other = key then 0 else table.read other := by
  simp only [read, lookup_erase]
  split <;> rfl

omit [DecidableEq κ] in
def total : Int := sum (fun _ value => value) table

theorem total_insert (value : Int) :
    total (table.insert key value) = table.total - table.read key + value := by
  rw [total, sum_insert, contribution_eq_read (fun _ => rfl)]
  rfl

theorem total_erase : total (table.erase key) = table.total - table.read key := by
  rw [total, sum_erase, contribution_eq_read (fun _ => rfl)]
  rfl

/-- A table whose reads are nonnegative has a nonnegative total. -/
theorem total_nonneg {table : Table κ Int} (nonneg : ∀ key, 0 ≤ table.read key) :
    0 ≤ table.total := by
  apply sum_nonneg
  intro key value hit
  simpa [read, hit] using nonneg key

/-- Writing changes a sum by the weights of the old and the new value. -/
theorem sum_write (vanishes : ∀ key, weight key 0 = 0) (table : Table κ Int) (key : κ) (value : Int) :
    sum weight (table.write key value) =
      sum weight table - weight key (table.read key) + weight key value := by
  rw [← contribution_eq_read vanishes, write]
  split
  next zero => rw [sum_erase, zero, vanishes, add_zero]
  next => exact sum_insert weight table key value

theorem total_write (value : Int) :
    total (table.write key value) = table.total - table.read key + value := by
  rw [total, sum_write (fun _ => rfl)]
  rfl

/-- With nonnegative values one value is at most the total. -/
theorem read_le_total {table : Table κ Int}
    (nonneg : ∀ key value, table.lookup key = some value → 0 ≤ value) (key : κ) :
    table.read key ≤ table.total := by
  have bounded : contribution (fun _ value => value) table key ≤ table.total :=
    contribution_le_sum nonneg key
  rwa [contribution_eq_read (fun _ => rfl)] at bounded

/-- The entries of a written table are those of the old one and the new value. -/
theorem write_entries {property : Int → Prop} {table : Table κ Int}
    (holds : ∀ key value, table.lookup key = some value → property value) {key : κ} {value : Int}
    (written : value ≠ 0 → property value) :
    ∀ other hit, (table.write key value).lookup other = some hit → property hit := by
  intro other hit lookup
  simp only [write] at lookup
  split at lookup
  · rw [lookup_erase] at lookup
    split at lookup
    · cases lookup
    · exact holds other hit lookup
  · rw [lookup_insert] at lookup
    split at lookup
    next nonzero _ => exact Option.some.inj lookup ▸ written nonzero
    next => exact holds other hit lookup

theorem read_nonneg {table : Table κ Int}
    (nonneg : ∀ key value, table.lookup key = some value → 0 ≤ value) (key : κ) :
    0 ≤ table.read key := by
  cases hit : table.lookup key with
  | none => simp [read, hit]
  | some value => simpa [read, hit] using nonneg key value hit

end Sparse

section Grouped

/-!
A table keyed by a group and an item holds the tables of all groups together. A tally
adds a weight over one group's entries only.
-/

variable {γ : Type} [DecidableEq γ]

/-- The total weight of one group's entries. -/
def tally (weight : ν → Int) (table : Table (γ × κ) ν) (group : γ) : Int :=
  sum (fun key value => if key.1 = group then weight value else 0) table

/-- An insertion replaces one entry's weight in its own group. -/
theorem tally_insert (weight : ν → Int) (table : Table (γ × κ) ν) (group owner : γ) (key : κ)
    (value : ν) : tally weight (table.insert (owner, key) value) group = tally weight table group +
      if owner = group then weight value - ((table.lookup (owner, key)).map weight).getD 0
      else 0 := by
  rw [tally, sum_insert]
  cases hit : table.lookup (owner, key) with
  | none =>
    rw [contribution_of_none hit]
    split <;> simp [tally]
  | some has =>
    rw [contribution_of_some hit]
    split
    · simp only [tally, Option.map_some, Option.getD_some]
      omega
    · simp [tally]

variable {group : γ} {weight : ν → Int}

/-- An insertion at a new key adds its weight. -/
theorem tally_insert_new {table : Table (γ × κ) ν} {key : κ}
    (absent : table.lookup (group, key) = none) (value : ν) :
    tally weight (table.insert (group, key) value) group =
      tally weight table group + weight value := by
  simp [tally_insert, absent]

/-- An insertion over a stored value adds the difference. -/
theorem tally_insert_over {table : Table (γ × κ) ν} {key : κ} {has : ν}
    (hit : table.lookup (group, key) = some has) (value : ν) :
    tally weight (table.insert (group, key) value) group =
      tally weight table group - weight has + weight value := by
  simp only [tally_insert, hit, if_true, Option.map_some, Option.getD_some]
  omega

/-- An insertion in another group changes nothing. -/
theorem tally_insert_other {owner group : γ} (distinct : owner ≠ group) (weight : ν → Int)
    (table : Table (γ × κ) ν) (key : κ) (value : ν) :
    tally weight (table.insert (owner, key) value) group = tally weight table group := by
  simp [tally_insert, distinct]

/-- A tally reads its own group alone. -/
theorem tally_congr {first second : Table (γ × κ) ν}
    (agree : ∀ key, first.lookup (group, key) = second.lookup (group, key)) :
    tally weight first group = tally weight second group := by
  apply sum_eq_of_contributions
  rintro ⟨owner, key⟩
  by_cases own : owner = group
  · subst own
    simp only [contribution, agree key]
  · simp only [contribution, if_neg own]
    cases first.lookup (owner, key) <;> cases second.lookup (owner, key) <;> rfl

theorem tally_nonneg {table : Table (γ × κ) ν}
    (nonneg : ∀ key value, table.lookup (group, key) = some value → 0 ≤ weight value) :
    0 ≤ tally weight table group := by
  apply sum_nonneg
  rintro ⟨owner, key⟩ value hit
  split
  next same => exact nonneg key value (same ▸ hit)
  next => exact le_refl 0

/-- A group without entries tallies to nothing. -/
theorem tally_absent {table : Table (γ × κ) ν} (absent : ∀ key, table.lookup (group, key) = none) :
    tally weight table group = 0 := by
  have zero : tally weight table group = sum (fun _ _ => 0) table := by
    apply sum_congr
    rintro ⟨owner, key⟩ value hit
    split
    next same =>
      obtain rfl := same
      rw [absent key] at hit
      cases hit
    next => rfl
  rw [zero]
  simp [sum]

/-- A nonnegative tally bounds each of its entries. -/
theorem le_tally {table : Table (γ × κ) ν} {key : κ} {value : ν}
    (nonneg : ∀ key value, table.lookup (group, key) = some value → 0 ≤ weight value)
    (hit : table.lookup (group, key) = some value) : weight value ≤ tally weight table group := by
  have grouped : ∀ (other : γ × κ) has, table.lookup other = some has →
      0 ≤ if other.1 = group then weight has else 0 := by
    rintro ⟨owner, other⟩ has present
    split
    next same => exact nonneg other has (same ▸ present)
    next => exact le_refl 0
  have bounded := contribution_le_sum grouped (group, key)
  rwa [contribution_of_some hit, if_pos rfl] at bounded

end Grouped

end Table
