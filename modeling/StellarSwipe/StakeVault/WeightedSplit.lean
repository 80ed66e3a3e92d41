import StellarSwipe.Host
import StellarSwipe.Library.Apportionment

/-!
# Splitting a total by weight

A campaign's funder splits a total among weighted recipients.
-/

namespace StellarSwipe.StakeVault

open FixedWidth List Int

/-- The errors of the campaign module's modelled functions. -/
inductive CampaignError where
  | campaignNotFound
  | campaignClosed
  | invalidAmount
  | insufficientCampaignFunds
  | invalidRecipients
  | batchSizeInvalid
  | allocationNotClaimable
  | allocationExpired
  | allocationNotExpired
  | outstandingLiabilities
  | overflow
  | invalidVestingSchedule
  | vestingNotFound
  | nothingVested
  | claimLimitExceeded
deriving DecidableEq

/-- Maximum number of recipients per distribution or ids per claim or expiry. -/
def maxCampaignBatch : Nat := 50

def add (left right : Int) : Except CampaignError Int :=
  match i128.checkedAdd left right with
  | some sum => .ok sum
  | none => .error .overflow

/-- Put one recipient in its place by address; the scan stops at a duplicate. -/
def insertRecipient (recipient : Address × Nat) :
    List (Address × Nat) → Except CampaignError (List (Address × Nat))
  | [] => .ok [recipient]
  | existing :: rest =>
    if existing.1 = recipient.1 then .error .invalidRecipients
    else if recipient.1 < existing.1 then .ok (recipient :: existing :: rest)
    else do
      let inserted ← insertRecipient recipient rest
      pure (existing :: inserted)

/-- Insertion sort by address, refusing zero weights and duplicates. -/
def canonicalOrder : List (Address × Nat) → List (Address × Nat) →
    Except CampaignError (List (Address × Nat))
  | [], sorted => .ok sorted
  | recipient :: rest, sorted =>
    if recipient.2 = 0 then .error .invalidRecipients
    else do
      let inserted ← insertRecipient recipient sorted
      canonicalOrder rest inserted

def sumWeights : List (Address × Nat) → Int → Except CampaignError Int
  | [], total => .ok total
  | recipient :: rest, total => do
    let next ← add total recipient.2
    sumWeights rest next

/-- A recipient's share so far and its fraction, negative once it got its extra unit. -/
structure Portion where
  recipient : Address
  share : Int
  fraction : Int

/-- The floors and fractions of the recipients, and the sum of the floors. -/
def floorShares (total totalWeight : Int) : List (Address × Nat) → Int →
    Except CampaignError (List Portion × Int)
  | [], floorSum => .ok ([], floorSum)
  | recipient :: rest, floorSum =>
    match i128.checkedMul total recipient.2 with
    | none => .error .overflow
    | some scaled => do
      let next ← add floorSum (scaled.tdiv totalWeight)
      let (portions, final) ← floorShares total totalWeight rest next
      pure (⟨recipient.1, scaled.tdiv totalWeight, scaled.tmod totalWeight⟩ :: portions, final)

/-- The better of the best position so far and a new one: a larger fraction wins, a
tie stays with the earlier address, and a negative fraction has been served. -/
def betterPosition (best : Option (Nat × Int)) (position : Nat) (fraction : Int) :
    Option (Nat × Int) :=
  if fraction < 0 then best
  else match best with
    | some (held, largest) => if fraction ≤ largest then some (held, largest)
      else some (position, fraction)
    | none => some (position, fraction)

def bestPosition : List Portion → Nat → Option (Nat × Int) → Option (Nat × Int)
  | [], _, best => best
  | portion :: rest, position, best =>
    bestPosition rest (position + 1) (betterPosition best position portion.fraction)

/-- The recipient with its extra unit. -/
def Portion.served (portion : Portion) : Portion :=
  { portion with share := portion.share + 1, fraction := -1 }

/-- Hand out the remainder, one unit at a time. -/
def handOut : Nat → List Portion → Except CampaignError (List Portion)
  | 0, portions => .ok portions
  | remainder + 1, portions =>
    match bestPosition portions 0 none with
    | none => .error .overflow
    | some (position, _) => handOut remainder (portions.modify position Portion.served)

/-- One share for each recipient, in ascending address order. -/
def splitByWeight (total : Int) (recipients : List (Address × Nat)) :
    Except CampaignError (List (Address × Int)) :=
  if total ≤ 0 then .error .invalidAmount
  else if recipients.length = 0 ∨ maxCampaignBatch < recipients.length then
    .error .invalidRecipients
  else do
    let sorted ← canonicalOrder recipients []
    let totalWeight ← sumWeights sorted 0
    let (portions, floorSum) ← floorShares total totalWeight sorted 0
    let shares ← handOut (total - floorSum).toNat portions
    pure (shares.map fun portion => (portion.recipient, portion.share))

variable (recipients : List (Address × Nat))

/-- The weights of recipients, as the integers they are summed as. -/
def weightsOf : List Int :=
  recipients.map fun recipient => (recipient.2 : Int)

theorem add_ok {left right sum : Int} (added : add left right = .ok sum) :
    i128.Holds sum ∧ sum = left + right := by
  simp only [add, Range.checkedAdd] at added
  split at added
  next hit =>
    obtain ⟨held, same⟩ := i128.checked_ok hit
    cases added
    exact ⟨same ▸ held, same.symm⟩
  next => cases added

theorem add_of_holds {left right : Int} (held : i128.Holds (left + right)) :
    add left right = .ok (left + right) := by
  simp only [add, Range.checkedAdd, Range.checked, held, if_true]

/-- Every weight is positive, so a nonempty list of them has a positive sum. -/
def Positive : Prop :=
  ∀ recipient ∈ recipients, 0 < recipient.2

/-- Strictly ascending addresses, so no address comes twice. -/
def Ascending : Prop :=
  recipients.Pairwise fun prior later => prior.1 < later.1

/-- In ascending order a recipient finds its place unless its address is there. -/
theorem insertRecipient_cases (recipient : Address × Nat) {sorted : List (Address × Nat)}
    (ascending : Ascending sorted) : (recipient.1 ∈ sorted.map Prod.fst ∧
      insertRecipient recipient sorted = .error .invalidRecipients) ∨
    (recipient.1 ∉ sorted.map Prod.fst ∧ ∃ inserted,
      insertRecipient recipient sorted = .ok inserted ∧
      inserted.Perm (recipient :: sorted) ∧ Ascending inserted) := by
  induction sorted with
  | nil => exact .inr ⟨not_mem_nil, _, rfl, .refl _, pairwise_singleton ..⟩
  | cons existing rest ih =>
    obtain ⟨first, later⟩ := List.pairwise_cons.mp ascending
    rw [insertRecipient, map_cons, mem_cons]
    by_cases same : existing.1 = recipient.1
    · exact .inl ⟨.inl same.symm, if_pos same⟩
    rw [if_neg same]
    by_cases pre : recipient.1 < existing.1
    · rw [if_pos pre]
      have ahead : ∀ other ∈ existing :: rest, recipient.1 < other.1 := by
        intro other mem
        rcases List.mem_cons.mp mem with rfl | inside
        · exact pre
        · exact lt_trans pre (first other inside)
      refine .inr ⟨?_, _, rfl, .refl _, List.pairwise_cons.mpr ⟨ahead, ascending⟩⟩
      rw [← mem_cons, ← map_cons]
      intro listed
      obtain ⟨other, mem, equal⟩ := List.mem_map.mp listed
      exact absurd equal (ne_of_gt (ahead other mem))
    · rw [if_neg pre]
      rcases ih later with ⟨listed, refused⟩ | ⟨absent, inserted, placed, permuted, ordered⟩
      · exact .inl ⟨.inr listed, by rw [refused]; rfl⟩
      · refine .inr ⟨?_, existing :: inserted, by rw [placed]; rfl,
          (permuted.cons existing).trans (.swap ..), ?_⟩
        · rintro (equal | listed)
          · exact same equal.symm
          · exact absent listed
        · refine List.pairwise_cons.mpr ⟨fun other mem => ?_, ordered⟩
          rcases List.mem_cons.mp (permuted.mem_iff.mp mem) with rfl | inside
          · exact lt_of_le_of_ne (not_lt.mp pre) same
          · exact first other inside

/-- Recipients that can be split among: none without weight, none twice. -/
def Splittable : Prop :=
  Positive recipients ∧ (recipients.map Prod.fst).Nodup

instance : Decidable (Splittable recipients) :=
  inferInstanceAs (Decidable ((∀ recipient ∈ recipients, 0 < recipient.2) ∧ _))

/-- The recipients are put in ascending order, or refused when one of them has no weight or
comes twice. The induction is on the recipients that are left. -/
theorem canonicalOrder_cases (recipients : List (Address × Nat)) {sorted : List (Address × Nat)}
    (ascending : Ascending sorted) (pos : Positive sorted) : (¬ Splittable (recipients ++ sorted) ∧
      canonicalOrder recipients sorted = .error .invalidRecipients) ∨
    (Splittable (recipients ++ sorted) ∧ ∃ ordered, canonicalOrder recipients sorted = .ok ordered ∧
      ordered.Perm (recipients ++ sorted) ∧ Ascending ordered) := by
  induction recipients generalizing sorted with
  | nil =>
    have distinct : (sorted.map Prod.fst).Nodup :=
      List.pairwise_map.mpr (ascending.imp fun below => ne_of_lt below)
    exact .inr ⟨⟨pos, distinct⟩, sorted, rfl, .refl _, ascending⟩
  | cons recipient rest ih =>
    rw [canonicalOrder]
    by_cases weightless : recipient.2 = 0
    · refine .inl ⟨fun splittable => ?_, if_pos weightless⟩
      have weight := splittable.1 recipient mem_cons_self
      omega
    rw [if_neg weightless]
    rcases insertRecipient_cases recipient ascending with
      ⟨listed, refused⟩ | ⟨_, inserted, placed, permuted, ordered⟩
    · refine .inl ⟨fun splittable => ?_, by rw [refused]; rfl⟩
      have distinct := splittable.2
      rw [cons_append, map_cons, nodup_cons, map_append] at distinct
      exact distinct.1 (mem_append_right _ listed)
    · have moved : (rest ++ inserted).Perm (recipient :: rest ++ sorted) :=
        (permuted.append_left rest).trans perm_middle
      have same : Splittable (rest ++ inserted) ↔ Splittable (recipient :: rest ++ sorted) :=
        and_congr (by simp only [Positive, moved.mem_iff]) (moved.map Prod.fst).nodup_iff
      have insertedPositive : Positive inserted := by
        intro other mem
        rcases List.mem_cons.mp (permuted.mem_iff.mp mem) with rfl | inside
        · exact Nat.pos_of_ne_zero weightless
        · exact pos other inside
      have continued : (insertRecipient recipient sorted >>= canonicalOrder rest) =
          canonicalOrder rest inserted := by
        rw [placed]
        rfl
      rw [continued, ← same]
      rcases ih ordered insertedPositive with refused | ⟨splittable, final, reached, last, sorts⟩
      · exact .inl refused
      · exact .inr ⟨splittable, final, reached, last.trans moved, sorts⟩

variable {first second : List (Address × Nat)}

theorem Ascending.unique (ascending : Ascending first) (other : Ascending second)
    (permuted : first.Perm second) : first = second :=
  permuted.eq_of_pairwise (fun _ _ _ _ below above => absurd below (lt_asymm above)) ascending other

theorem canonicalOrder_perm (permuted : first.Perm second) :
    canonicalOrder first [] = canonicalOrder second [] := by
  have same : Splittable first ↔ Splittable second :=
    and_congr (by simp only [Positive, permuted.mem_iff]) (permuted.map Prod.fst).nodup_iff
  have cases (recipients : List (Address × Nat)) :=
    @canonicalOrder_cases recipients [] .nil (by simp [Positive])
  simp only [append_nil] at cases
  rcases cases first with ⟨unsplittable, refused⟩ | ⟨splittable, ordered, reached, listed, sorts⟩
  · rcases cases second with ⟨_, refusedToo⟩ | ⟨splittable, _⟩
    · rw [refused, refusedToo]
    · exact absurd (same.mpr splittable) unsplittable
  · rcases cases second with ⟨unsplittable, _⟩ | ⟨_, other, reachedToo, listedToo, sortsToo⟩
    · exact absurd (same.mp splittable) unsplittable
    · rw [reached, reachedToo, sorts.unique sortsToo ((listed.trans permuted).trans listedToo.symm)]

theorem sumWeights_ok {recipients : List (Address × Nat)} {start total : Int}
    (summed : sumWeights recipients start = .ok total) :
    total = start + (weightsOf recipients).sum := by
  induction recipients generalizing start with
  | nil =>
    cases summed
    simp [weightsOf]
  | cons recipient rest ih =>
    obtain ⟨next, added, continued⟩ := bind_ok summed
    have exact := (add_ok added).2
    have later := ih continued
    simp only [weightsOf, map_cons, sum_cons] at later ⊢
    omega

theorem weightsOf_sum_pos {recipients : List (Address × Nat)} (pos : Positive recipients)
    (nonempty : recipients ≠ []) : 0 < (weightsOf recipients).sum := by
  apply sum_pos
  · intro weight mem
    obtain ⟨recipient, known, rfl⟩ := List.mem_map.mp mem
    have above := pos recipient known
    omega
  · simpa [weightsOf] using nonempty

theorem sumWeights_total {recipients : List (Address × Nat)} {start : Int} (nonneg : 0 ≤ start)
    (fits : start + (weightsOf recipients).sum ≤ i128.high) :
    ∃ total, sumWeights recipients start = .ok total := by
  induction recipients generalizing start with
  | nil => exact ⟨start, rfl⟩
  | cons recipient rest ih =>
    rw [weightsOf, map_cons, sum_cons] at fits
    have tail : 0 ≤ (weightsOf rest).sum :=
      sum_nonneg fun weight mem => by
        obtain ⟨_, _, rfl⟩ := List.mem_map.mp mem
        omega
    rw [weightsOf] at tail
    have added := @add_of_holds start recipient.2 ⟨by simp only [i128_low]; omega, by omega⟩
    obtain ⟨total, summed⟩ := @ih (start + recipient.2) (by omega)
      (show _ ≤ i128.high by rw [weightsOf]; omega)
    exact ⟨total, by rw [sumWeights, added]; exact summed⟩

/-- A recipient with the floor of its exact share and the fraction that is left. -/
def Floored (total totalWeight : Int) (recipient : Address × Nat) (portion : Portion) : Prop :=
  portion = ⟨recipient.1, total * recipient.2 / totalWeight, total * recipient.2 % totalWeight⟩

variable {portions : List Portion}

/-- The floors of nonnegative exact shares, with their sum kept beside them. -/
theorem floorShares_ok {total totalWeight start final : Int} {recipients : List (Address × Nat)}
    (nonneg : 0 ≤ total)
    (floored : floorShares total totalWeight recipients start = .ok (portions, final)) :
    List.Forall₂ (Floored total totalWeight) recipients portions ∧
      final = start + (portions.map Portion.share).sum ∧
      ∀ recipient ∈ recipients, i128.Holds (total * recipient.2) := by
  induction recipients generalizing start portions with
  | nil =>
    cases floored
    exact ⟨.nil, by simp, by simp⟩
  | cons recipient rest ih =>
    simp only [floorShares] at floored
    split at floored
    · cases floored
    next scaled hit =>
      obtain ⟨held, rfl⟩ := i128.checked_ok hit
      obtain ⟨next, added, continued⟩ := bind_ok floored
      obtain ⟨⟨tail, reached⟩, later, rest⟩ := bind_ok continued
      cases rest
      obtain ⟨shares, sum, fits⟩ := ih later
      have product : 0 ≤ total * (recipient.2 : Int) := mul_nonneg nonneg (by omega)
      have sumNext := (add_ok added).2
      rw [tdiv_eq_floor product, tmod_eq_emod product]
      rw [tdiv_eq_floor product] at sumNext
      refine ⟨.cons rfl shares, ?_, List.forall_mem_cons.mpr ⟨held, fits⟩⟩
      simp only [map_cons, sum_cons]
      omega

theorem floors_eq {total totalWeight : Int} {recipients : List (Address × Nat)}
    (floored : List.Forall₂ (Floored total totalWeight) recipients portions) :
    portions.map Portion.share =
        (weightsOf recipients).map (fun weight => total * weight / totalWeight) ∧
      portions.map Portion.fraction =
        (weightsOf recipients).map (fun weight => total * weight % totalWeight) := by
  induction floored with
  | nil => exact ⟨rfl, rfl⟩
  | cons first _ ih =>
    cases first
    exact ⟨congrArg _ ih.1, congrArg _ ih.2⟩

/-- When the products fit and the floors add up to what an account can hold, the floors are
computed. -/
theorem floorShares_total {total totalWeight start : Int} {recipients : List (Address × Nat)}
    (nonneg : 0 ≤ total) (pos : 0 < totalWeight) (above : 0 ≤ start)
    (fits : ∀ recipient ∈ recipients, i128.Holds (total * recipient.2))
    (bounded : start + ((weightsOf recipients).map fun weight =>
      total * weight / totalWeight).sum ≤ i128.high) :
    ∃ floored, floorShares total totalWeight recipients start = .ok floored := by
  induction recipients generalizing start with
  | nil => exact ⟨([], start), rfl⟩
  | cons recipient rest ih =>
    obtain ⟨first, later⟩ := List.forall_mem_cons.mp fits
    have floorNonneg (weight : Int) (mem : weight ∈ weightsOf (recipient :: rest)) :
        0 ≤ total * weight / totalWeight := by
      obtain ⟨_, _, rfl⟩ := List.mem_map.mp mem
      exact ediv_nonneg (mul_nonneg nonneg (by omega)) pos.le
    have floor := floorNonneg recipient.2 mem_cons_self
    have tail : 0 ≤ ((weightsOf rest).map fun weight => total * weight / totalWeight).sum :=
      sum_nonneg fun share mem => by
        obtain ⟨weight, listed, rfl⟩ := List.mem_map.mp mem
        exact floorNonneg weight (mem_cons_of_mem _ listed)
    have product : i128.checkedMul total recipient.2 = some (total * recipient.2) :=
      (i128.checked_eq_some _ _).mpr ⟨first, rfl⟩
    simp only [weightsOf, map_cons, sum_cons] at bounded tail
    have added := @add_of_holds start (total * recipient.2 / totalWeight)
      ⟨by simp only [i128_low]; omega, by omega⟩
    obtain ⟨⟨portions, final⟩, reached⟩ := @ih (start + total * recipient.2 / totalWeight)
      (by omega) later (by simp only [weightsOf]; omega)
    have exact : 0 ≤ total * (recipient.2 : Int) := mul_nonneg nonneg (by omega)
    simp only [floorShares, product, tdiv_eq_floor exact, added, bind, Except.bind, reached]
    exact ⟨_, rfl⟩

/-- The recipients that can still get an extra unit. -/
def waiting (portions : List Portion) : Nat := portions.countP (0 ≤ ·.fraction)

theorem bestPosition_cases (portions : List Portion) (start : Nat) (best : Option (Nat × Int)) :
    (bestPosition portions start best = best ∧ (best = none → waiting portions = 0)) ∨
    ∃ front portion back, portions = front ++ portion :: back ∧ 0 ≤ portion.fraction ∧
      bestPosition portions start best = some (start + front.length, portion.fraction) := by
  induction portions generalizing start best with
  | nil => exact .inl ⟨rfl, fun _ => rfl⟩
  | cons portion rest ih =>
    rw [bestPosition]
    rcases ih (start + 1) (betterPosition best start portion.fraction) with
      ⟨same, idle⟩ | ⟨front, chosen, back, split, nonneg, hit⟩
    · rw [same]
      by_cases served : portion.fraction < 0
      · have kept : betterPosition best start portion.fraction = best := if_pos served
        rw [kept] at idle ⊢
        refine .inl ⟨rfl, fun none => ?_⟩
        rw [waiting, countP_cons_of_neg (by simpa using served)]
        exact idle none
      · have chosen : 0 ≤ portion.fraction ∧ (betterPosition best start portion.fraction =
            some (start, portion.fraction)) ∨ (betterPosition best start portion.fraction = best ∧
            best ≠ none) := by
          simp only [betterPosition, served, if_false]
          cases best with
          | none => exact .inl ⟨not_lt.mp served, rfl⟩
          | some held =>
            simp only
            split
            · exact .inr ⟨rfl, by simp⟩
            · exact .inl ⟨not_lt.mp served, rfl⟩
        rcases chosen with ⟨nonneg, first⟩ | ⟨kept, present⟩
        · exact .inr ⟨[], portion, rest, rfl, nonneg, first⟩
        · exact .inl ⟨kept, fun none => absurd none present⟩
    · refine .inr ⟨portion :: front, chosen, back, by rw [split]; rfl, nonneg, ?_⟩
      rw [hit, length_cons]
      congr 2
      omega

/-- A recipient as it was, or with the extra unit that it waited for. -/
def Extra (portion served : Portion) : Prop :=
  served = portion ∨ 0 ≤ portion.fraction ∧ served = portion.served

theorem Extra.trans {portion middle served : Portion} (first : Extra portion middle)
    (later : Extra middle served) : Extra portion served := by
  rcases first with rfl | ⟨waits, rfl⟩
  · exact later
  · rcases later with rfl | ⟨impossible, _⟩
    · exact .inr ⟨waits, rfl⟩
    · exact absurd impossible (by simp [Portion.served])

theorem modify_middle (front back : List Portion) (portion : Portion) :
    (front ++ portion :: back).modify front.length Portion.served =
      front ++ portion.served :: back := by
  induction front with
  | nil => rfl
  | cons first rest ih => exact congrArg _ ih

theorem extra_refl (portions : List Portion) : List.Forall₂ Extra portions portions :=
  List.forall₂_same.mpr fun _ _ => .inl rfl

/-- While no more is left than recipients wait, each unit finds one of them, and no recipient
gets two. The induction is on the units. -/
theorem handOut_serves {remainder : Nat} (enough : remainder ≤ waiting portions) :
    ∃ served, handOut remainder portions = .ok served ∧ List.Forall₂ Extra portions served ∧
      (served.map Portion.share).sum = (portions.map Portion.share).sum + remainder := by
  induction remainder generalizing portions with
  | zero => exact ⟨portions, rfl, extra_refl portions, by simp⟩
  | succ remainder ih =>
    rcases bestPosition_cases portions 0 none with
      ⟨_, idle⟩ | ⟨front, portion, back, rfl, waits, hit⟩
    · have none := idle rfl
      omega
    · have reduced : waiting (front ++ portion :: back) =
          waiting (front ++ portion.served :: back) + 1 := by
        simp [waiting, countP_append, waits, Portion.served]
        omega
      obtain ⟨served, handed, extra, sum⟩ :=
        @ih (front ++ portion.served :: back) (by omega)
      refine ⟨served, ?_, ?_, ?_⟩
      · rw [handOut, hit, Nat.zero_add]
        simp only [modify_middle, handed]
      · have once : List.Forall₂ Extra (front ++ portion :: back)
            (front ++ portion.served :: back) :=
          rel_append (extra_refl front) (.cons (.inr ⟨waits, rfl⟩) (extra_refl back))
        refine Apportionment.forall₂_comp ?_ once extra
        exact fun _ _ _ => Extra.trans
      · rw [sum]
        simp only [map_append, map_cons, sum_append, sum_cons, Portion.served]
        push_cast
        omega

/-- What a recipient gets: the floor of its exact share, or one unit more. -/
def Fair (total totalWeight : Int) (recipient : Address × Nat) (share : Address × Int) : Prop :=
  share.1 = recipient.1 ∧
    (share.2 = total * recipient.2 / totalWeight ∨ share.2 = total * recipient.2 / totalWeight + 1)

structure Accepted (total : Int) (recipients : List (Address × Nat)) : Prop where
  pos : 0 < total
  present : recipients ≠ []
  few : recipients.length ≤ maxCampaignBatch
  splittable : Splittable recipients
  fits : ∀ recipient ∈ recipients, i128.Holds (total * recipient.2)

section Splits

variable {total : Int} {recipients : List (Address × Nat)}

theorem weightsOf_sum_perm {other : List (Address × Nat)} (permuted : other.Perm recipients) :
    (weightsOf other).sum = (weightsOf recipients).sum :=
  (permuted.map _).sum_eq

/-- Floored recipients all wait, and what their floors leave over goes to some of them. -/
theorem rest_waits {portions : List Portion} (pos : 0 < (weightsOf recipients).sum)
    (floored : List.Forall₂ (Floored total (weightsOf recipients).sum) recipients portions) :
    (total - (portions.map Portion.share).sum).toNat ≤ waiting portions := by
  obtain ⟨shares, fractions⟩ := floors_eq floored
  have waits : waiting portions = portions.length := by
    refine List.countP_eq_length.mpr fun portion mem => ?_
    have listed : portion.fraction ∈ portions.map Portion.fraction := mem_map_of_mem mem
    rw [fractions] at listed
    obtain ⟨weight, _, same⟩ := List.mem_map.mp listed
    exact decide_eq_true (same ▸ emod_nonneg _ pos.ne')
  have rest := Apportionment.rest_le_length total pos
  rw [weightsOf, length_map, floored.length_eq, ← weightsOf, ← shares] at rest
  omega

theorem served_fair {portions served : List Portion}
    (floored : List.Forall₂ (Floored total (weightsOf recipients).sum) recipients portions)
    (extra : List.Forall₂ Extra portions served) :
    List.Forall₂ (Fair total (weightsOf recipients).sum) recipients
      (served.map fun portion => (portion.recipient, portion.share)) := by
  rw [forall₂_map_right_iff]
  refine Apportionment.forall₂_comp ?_ floored extra
  rintro recipient _ _ rfl (rfl | ⟨_, rfl⟩)
  · exact ⟨rfl, .inl rfl⟩
  · exact ⟨rfl, .inr rfl⟩

/-- A split gives each recipient its floor or one unit more, and all of the total. -/
theorem splitByWeight_fair {shares : List (Address × Int)}
    (split : splitByWeight total recipients = .ok shares) :
    Accepted total recipients ∧ (shares.map Prod.snd).sum = total ∧
      ∃ ordered : List (Address × Nat), ordered.Perm recipients ∧ Ascending ordered ∧
        List.Forall₂ (Fair total (weightsOf recipients).sum) ordered shares := by
  simp only [splitByWeight] at split
  split at split
  · cases split
  next pos =>
  split at split
  · cases split
  next bounded =>
  obtain ⟨sorted, ordered, weighing⟩ := bind_ok split
  obtain ⟨totalWeight, weighed, flooring⟩ := bind_ok weighing
  obtain ⟨⟨portions, floorSum⟩, floors, handing⟩ := bind_ok flooring
  obtain ⟨served, handed, rest⟩ := bind_ok handing
  cases rest
  rcases @canonicalOrder_cases recipients [] .nil (by simp [Positive]) with
    ⟨_, refused⟩ | ⟨splittable, _, reached, permuted, ascending⟩
  · cases refused.symm.trans ordered
  cases reached.symm.trans ordered
  rw [append_nil] at splittable permuted
  have present : recipients ≠ [] := fun empty => bounded (.inl (by simp [empty]))
  have weight := weightsOf_sum_pos splittable.1 present
  obtain rfl : totalWeight = (weightsOf recipients).sum := by
    rw [← weightsOf_sum_perm permuted]
    simpa using sumWeights_ok weighed
  obtain ⟨floored, rfl, fits⟩ := floorShares_ok (by omega) floors
  have same := weightsOf_sum_perm permuted
  have waits := rest_waits (same ▸ weight) (same.symm ▸ floored)
  have left := Apportionment.floors_le total (same ▸ weight : 0 < (weightsOf sorted).sum)
  rw [same, ← (floors_eq floored).1] at left
  rw [zero_add] at handed
  obtain ⟨_, given, extra, sum⟩ := handOut_serves waits
  cases given.symm.trans handed
  refine ⟨⟨by omega, present, by omega, splittable,
    fun recipient mem => fits recipient (permuted.mem_iff.mpr mem)⟩, ?_,
    sorted, permuted, ascending, ?_⟩
  · rw [map_map]
    have shares : served.map (Prod.snd ∘ fun portion => (portion.recipient, portion.share)) =
        served.map Portion.share := rfl
    rw [shares, sum]
    omega
  · exact same ▸ served_fair (same.symm ▸ floored) extra

/-- Every total and every recipients that are accepted are split: the loop that hands out what
the floors leave over finds a recipient for each unit. -/
theorem splitByWeight_total (accepted : Accepted total recipients)
    (weights : ∀ recipient ∈ recipients, recipient.2 ≤ u32Max) :
    ∃ shares, splitByWeight total recipients = .ok shares := by
  obtain ⟨pos, present, few, splittable, fits⟩ := accepted
  rcases @canonicalOrder_cases recipients [] .nil (by simp [Positive]) with
    ⟨refused, _⟩ | ⟨_, sorted, ordered, permuted, _⟩
  · exact absurd (by rwa [append_nil]) refused
  rw [append_nil] at permuted
  have same := weightsOf_sum_perm permuted
  have weight : 0 < (weightsOf sorted).sum := same ▸ weightsOf_sum_pos splittable.1 present
  have bounded : (weightsOf recipients).sum ≤ (weightsOf recipients).length • (u32Max : Int) := by
    refine sum_le_card_nsmul _ _ fun value mem => ?_
    obtain ⟨recipient, listed, rfl⟩ := List.mem_map.mp mem
    exact_mod_cast weights recipient listed
  rw [weightsOf, length_map, ← weightsOf, ← same, nsmul_eq_mul] at bounded
  have held : total ≤ i128.high := by
    obtain ⟨recipient, listed⟩ := exists_mem_of_ne_nil recipients present
    have one : total * 1 ≤ total * recipient.2 :=
      mul_le_mul_of_nonneg_left (by exact_mod_cast splittable.1 recipient listed) pos.le
    have product := (fits recipient listed).2
    omega
  obtain ⟨totalWeight, weighed⟩ := @sumWeights_total sorted 0 (le_refl 0) (by
    simp only [maxCampaignBatch, u32Max, i128_high] at few bounded ⊢
    omega)
  obtain rfl : totalWeight = (weightsOf sorted).sum := by simpa using sumWeights_ok weighed
  have below := Apportionment.floors_le total weight
  obtain ⟨⟨portions, floorSum⟩, floors⟩ := floorShares_total pos.le weight (le_refl 0)
    (fun recipient mem => fits recipient (permuted.mem_iff.mp mem)) (by omega)
  obtain ⟨floored, rfl, _⟩ := floorShares_ok pos.le floors
  obtain ⟨served, handed, _⟩ := handOut_serves (rest_waits weight floored)
  have nonempty : ¬ (recipients.length = 0 ∨ maxCampaignBatch < recipients.length) := by
    have some := List.length_pos_iff.mpr present
    omega
  rw [splitByWeight, if_neg (by omega), if_neg nonempty, ordered]
  simp only [bind, Except.bind, weighed, floors, zero_add, handed]
  exact ⟨_, rfl⟩

end Splits

variable {shares : List (Address × Int)}

theorem fair_nonneg {total totalWeight : Int} {recipients : List (Address × Nat)}
    (nonneg : 0 ≤ total) (weight : 0 ≤ totalWeight)
    (fair : List.Forall₂ (Fair total totalWeight) recipients shares) :
    ∀ share ∈ shares, 0 ≤ share.2 := by
  induction fair with
  | nil => exact forall_mem_nil _
  | @cons recipient share _ _ first _ ih =>
    refine List.forall_mem_cons.mpr ⟨?_, ih⟩
    have floor : 0 ≤ total * recipient.2 / totalWeight :=
      ediv_nonneg (mul_nonneg nonneg (by omega)) weight
    rcases first.2 with floored | raised <;> omega

theorem splitByWeight_ok {total : Int} {recipients : List (Address × Nat)}
    (split : splitByWeight total recipients = .ok shares) :
    0 < total ∧ (shares.map Prod.snd).sum = total ∧ ∀ share ∈ shares, 0 ≤ share.2 := by
  obtain ⟨accepted, sum, _, _, _, fair⟩ := splitByWeight_fair split
  have weight := weightsOf_sum_pos accepted.splittable.1 accepted.present
  exact ⟨accepted.pos, sum, fair_nonneg accepted.pos.le weight.le fair⟩

/-- A split is exact, fair to each recipient and independent of their order, and what is
accepted is split. -/
theorem weighted_split (total : Int) (recipients : List (Address × Nat))
    (weights : ∀ recipient ∈ recipients, recipient.2 ≤ u32Max) :
    ((∃ shares, splitByWeight total recipients = .ok shares) ↔ Accepted total recipients) ∧
    (∀ shares, splitByWeight total recipients = .ok shares → (shares.map Prod.snd).sum = total ∧
      ∃ ordered : List (Address × Nat), ordered.Perm recipients ∧ Ascending ordered ∧
        List.Forall₂ (Fair total (weightsOf recipients).sum) ordered shares) ∧
    ∀ other : List (Address × Nat), other.Perm recipients →
      splitByWeight total other = splitByWeight total recipients := by
  refine ⟨⟨fun ⟨_, split⟩ => (splitByWeight_fair split).1,
    fun accepted => splitByWeight_total accepted weights⟩, fun _ split =>
    (splitByWeight_fair split).2, fun other permuted => ?_⟩
  rw [splitByWeight, splitByWeight, permuted.length_eq, canonicalOrder_perm permuted]

/-- Ten units among three equal recipients. -/
theorem ten_units_split : splitByWeight 10 [(7, 1), (5, 1), (6, 1)] = .ok [(5, 4), (6, 3), (7, 3)] ∧
    splitByWeight 10 [(5, 1), (6, 1), (7, 1)] = splitByWeight 10 [(7, 1), (5, 1), (6, 1)] :=
  ⟨by decide, (weighted_split 10 [(7, 1), (5, 1), (6, 1)] (by decide)).2.2 _ (by decide)⟩

end StellarSwipe.StakeVault
