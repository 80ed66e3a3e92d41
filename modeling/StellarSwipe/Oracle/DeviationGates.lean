import Mathlib.Data.List.Perm.Basic
import StellarSwipe.Oracle.PriceEffects

/-!
# Gates on the spread of quotes

A submission is held against the spread in basis points, rounded down and cut to 32 bits, and a
read against the spread in percent, rounded down.
-/

namespace StellarSwipe.Oracle

open FixedWidth Program List

/-- The spread of some prices, in parts of the lowest, is within a bound. -/
def SpreadWithin (scale bound : Int) (prices : List Int) : Prop :=
  (prices.foldl max i128.low - prices.foldl min i128.high) * scale ≤
    bound * prices.foldl min i128.high
deriving Decidable

/-- The scaled spread fits, and is within the bound when it is rounded and cut. -/
def PassesCut (bound : Nat) (prices : List Int) : Prop :=
  let scaled := (prices.foldl max i128.low - prices.foldl min i128.high) * 10000
  i128.Holds scaled ∧ scaled / prices.foldl min i128.high % 2 ^ 32 ≤ bound

/-- The scaled spread does not fit, is within the bound, or lies in none of the windows of spreads
that rounding and the cut take to the bound or below. -/
def ClearOfWindows (bound : Nat) (prices : List Int) : Prop :=
  let lowest := prices.foldl min i128.high
  let scaled := (prices.foldl max i128.low - lowest) * 10000
  i128.Holds scaled → scaled ≤ bound * lowest ∨
    ∀ wraps : Nat, ¬ (wraps * 2 ^ 32 * lowest ≤ scaled ∧
      scaled < (wraps * 2 ^ 32 + bound + 1) * lowest)

variable {store : PriceStore} {env : Env} {pair : AssetPair} {fresh : List PriceData}

theorem extremes_step {rest : List Int}
    (machine : ∀ price ∈ rest, 0 < price ∧ price ≤ i128.high) {lowest highest : Int}
    (pos : 0 < lowest) (ordered : lowest ≤ highest) (fits : highest ≤ i128.high) :
    0 < rest.foldl min lowest ∧ rest.foldl min lowest ≤ rest.foldl max highest ∧
      rest.foldl max highest ≤ i128.high := by
  induction rest generalizing lowest highest with
  | nil => exact ⟨pos, ordered, fits⟩
  | cons price rest ih =>
    obtain ⟨first, later⟩ := forall_mem_cons.mp machine
    exact ih later (by omega) (by omega) (by omega)

/-- Of some positive prices of the machine, the lowest is positive and not above the highest. -/
theorem extremes_ordered {prices : List Int}
    (machine : ∀ price ∈ prices, 0 < price ∧ price ≤ i128.high) (quoted : prices ≠ []) :
    0 < prices.foldl min i128.high ∧ prices.foldl min i128.high ≤ prices.foldl max i128.low ∧
        prices.foldl max i128.low ≤ i128.high := by
  obtain ⟨price, rest, rfl⟩ := exists_cons_of_ne_nil quoted
  obtain ⟨⟨above, below⟩, later⟩ := forall_mem_cons.mp machine
  exact extremes_step later (by simp only [i128_high]; omega) (by omega)
    (by simp only [i128_low, i128_high] at *; omega)

/-- A rounded quotient that is cut to 32 bits is within a bound in one window for each wrap. -/
theorem cut_le_iff {scaled lowest : Int} (nonneg : 0 ≤ scaled) (pos : 0 < lowest)
    (bound : Nat) : scaled / lowest % 2 ^ 32 ≤ bound ↔ ∃ wraps : Nat,
      wraps * 2 ^ 32 * lowest ≤ scaled ∧ scaled < (wraps * 2 ^ 32 + bound + 1) * lowest := by
  simp only [← Int.le_ediv_iff_mul_le pos, ← Int.ediv_lt_iff_lt_mul pos]
  have whole := Int.ediv_nonneg nonneg pos.le
  generalize scaled / lowest = quotient at *
  constructor
  · exact fun small => ⟨(quotient / 2 ^ 32).toNat, by omega, by omega⟩
  · rintro ⟨wraps, low, high⟩
    omega

theorem checkDeviation_accepts {prices : List Int}
    (machine : ∀ price ∈ prices, 0 < price ∧ price ≤ i128.high) (quoted : prices ≠ [])
    {threshold : Nat} (configured : threshold ≠ 0)
    (rejects : store.rejectThresholds.lookup pair = some threshold) :
    Accepts (checkDeviation pair prices) store ↔ PassesCut threshold prices := by
  obtain ⟨pos, ordered, high⟩ := extremes_ordered machine quoted
  rw [accepts_iff_wp, PassesCut]
  simp only [checkDeviation, wp_rules, rejects, Option.getD_some, configured, quoted, and_false,
    or_false, if_false, not_le.mpr pos, Range.checkedSub, Range.checkedMul, Range.checked]
  generalize prices.foldl min i128.high = lowest, prices.foldl max i128.low = highest at *
  have spread : i128.Holds (highest - lowest) := ⟨by rw [i128_low]; omega, by omega⟩
  have scaled : 0 ≤ (highest - lowest) * 10000 := by omega
  have cut := Int.emod_nonneg ((highest - lowest) * 10000 / lowest)
    (by decide : (2 : Int) ^ 32 ≠ 0)
  by_cases held : i128.Holds ((highest - lowest) * 10000)
  · simp only [if_pos spread, Option.some.injEq, forall_eq', held, if_true, tdiv_eq_floor scaled,
      reduceCtorEq, ne_eq, configured, not_false_eq_true, true_and, implies_true, and_true,
      imp_false, not_not]
    omega
  · simp [if_pos spread, held]

/-- The gate lets only spreads within its threshold pass just when the spread is clear of the
windows above it. -/
theorem submission_exact_iff {prices : List Int}
    (machine : ∀ price ∈ prices, 0 < price ∧ price ≤ i128.high) (quoted : prices ≠ [])
    {threshold : Nat} (configured : threshold ≠ 0)
    (rejects : store.rejectThresholds.lookup pair = some threshold) :
    (Accepts (checkDeviation pair prices) store → SpreadWithin 10000 threshold prices) ↔
      ClearOfWindows threshold prices := by
  obtain ⟨pos, ordered, _⟩ := extremes_ordered machine quoted
  rw [checkDeviation_accepts machine quoted configured rejects, PassesCut,
    cut_le_iff (by omega) pos]
  simp only [SpreadWithin, ClearOfWindows]
  constructor
  · exact fun exactly held => or_iff_not_imp_right.mpr fun inside =>
      exactly ⟨held, by simpa using inside⟩
  · rintro clear ⟨held, wraps, inside⟩
    exact (clear held).resolve_right fun outside => outside wraps inside

theorem admitFrom_replace {source : Address} {sequence start index : Nat}
    {pending : List (Address × Nat)}
    (replaces : admitFrom source sequence start pending = .ok (.replace index)) :
    start ≤ index ∧ index < start + pending.length := by
  induction pending generalizing start with
  | nil => cases replaces
  | cons head rest ih =>
    simp only [admitFrom] at replaces
    split at replaces
    · split at replaces <;> cases replaces
      simp
    · have := ih replaces
      simp only [length_cons]
      omega

/-- An accepted submission passed the gate with the prices that are quoted after it. -/
theorem submitPairPrice_gated (env : Env) (paused : Bool) (source : Address) (price : Int)
    (confidence : Nat) :
    wlp (submitPairPrice env paused source pair price confidence) (fun _ after =>
      ∃ quotes prices, after.priceMap.lookup pair = some quotes ∧
        prices.Perm (quotes.map PriceData.price) ∧
          Accepts (checkDeviation pair prices) store) store := by
  have gate {prices : List Int} {post : Unit → PriceStore → Prop}
      (passed : Accepts (checkDeviation pair prices) store → post () store) :
      wlp (checkDeviation pair prices) post store :=
    (wp_iff _).mpr ⟨fun value after result => wp_ok checkDeviation_spec result ▸
      passed ⟨value, after, result⟩, fun _ _ _ => trivial⟩
  unfold submitPairPrice authorizePublisher guardTripped
  simp only [wlp_rules]
  intro _ _ _ _ _ _ _ _
  split
  next => exact trivial
  next =>
    simp only [recordRound, wlp_rules]
    refine gate fun passed _ _ => ⟨_, _, AList.lookup_insert _, ?_, passed⟩
    rw [map_append, map_singleton]
  next index admitted =>
    simp only [recordRound, wlp_rules]
    refine gate fun passed _ _ => ⟨_, _, AList.lookup_insert _, ?_, passed⟩
    have inside := (admitFrom_replace admitted).2
    rw [Nat.zero_add, length_map] at inside
    exact (perm_append_singleton _ _).trans
      ((set_perm_cons_eraseIdx inside
        ⟨price, env.timestamp, source, confidence, env.sequence⟩).map PriceData.price).symm

/-- Where no fallback is configured, a read of quotes that agree gives their upper median, and one
of quotes that do not is refused as unreliable. -/
def ReadsMedian (store : PriceStore) (env : Env) (pair : AssetPair) (ascending : List Int) : Prop :=
  ∃ lowest highest median, ascending.head? = some lowest ∧ ascending.getLast? = some highest ∧
    ascending[ascending.length / 2]? = some median ∧
    ((highest - lowest) * 100 ≤ 10 * lowest →
      ∃ confidence, getPriceWithConfidence env pair store = .ok (median, confidence) store) ∧
    (10 * lowest < (highest - lowest) * 100 →
      getPriceWithConfidence env pair store = .error (.error .unreliablePrice) store)

theorem readMedian_exactly (counted : store.minSourceCount ≤ fresh.length)
    {low high middle : PriceData} (pos : 0 < low.price) (ordered : low.price ≤ high.price)
    (fits : high.price ≤ i128.high) (merged : List PriceData)
    (sorts : fresh.mergeSort (fun first second => first.price ≤ second.price) = merged)
    (first : merged.head? = some low) (last : merged.getLast? = some high)
    (median : merged[merged.length / 2]? = some middle) :
    wp (readMedian fresh) (fun value after => after = store ∧ value.1 = middle.price ∧
        i128.Holds ((high.price - low.price) * 100) ∧
        (high.price - low.price) * 100 < 11 * low.price)
      (fun fault after => fault = .error .unreliablePrice ∧ after = store ∧
          i128.Holds ((high.price - low.price) * 100) ∧
          11 * low.price ≤ (high.price - low.price) * 100 ∨
        fault = .trap ∧ ¬ i128.Holds ((high.price - low.price) * 100)) store := by
  have spread : i128.Holds (high.price - low.price) := ⟨by rw [i128_low]; omega, by omega⟩
  simp only [readMedian, wp_rules, sorts, first, last, median, Range.checkedSub, Range.checkedMul,
    Range.checkedDiv, Range.checked]
  have enough : ¬ (0 < store.minSourceCount ∧ fresh.length < store.minSourceCount) := by omega
  by_cases held : i128.Holds ((high.price - low.price) * 100)
  · have scaled : 0 ≤ (high.price - low.price) * 100 := by omega
    have cut : i128.Holds ((high.price - low.price) * 100 / low.price) :=
      ⟨(Int.ediv_nonneg scaled pos.le).trans' (by decide),
        (Int.ediv_le_self _ scaled).trans held.2⟩
    have percent : (high.price - low.price) * 100 / low.price ≤ 10 ↔
        (high.price - low.price) * 100 < 11 * low.price := by
      rw [← Int.lt_add_one_iff]
      exact Int.ediv_lt_iff_lt_mul pos
    simp [enough, spread, held, tdiv_eq_floor scaled, pos.ne', cut, percent]
    exact fun above => not_lt.mp fun below => absurd (percent.mpr below) (not_le.mpr above)
  · simp [enough, spread, held]

theorem getPriceWithConfidence_eq (quotes : store.freshQuotes env pair = .ok fresh)
    (alone : (store.fallbackOf pair).members = []) :
    getPriceWithConfidence env pair store = readMedian fresh store := by
  have reads : getPriceWithConfidence env pair store =
      (ofExcept (store.freshQuotes env pair) >>= fun fresh =>
        if (store.fallbackOf pair).members = [] then readMedian fresh
        else readQuorum env pair fresh) store := rfl
  rw [reads, quotes]
  exact congrFun (if_pos alone) store

theorem readsMedian_iff {ascending : List Int} (quotes : store.freshQuotes env pair = .ok fresh)
    (alone : (store.fallbackOf pair).members = []) (counted : store.minSourceCount ≤ fresh.length)
    (machine : ∀ quote ∈ fresh, 0 < quote.price ∧ quote.price ≤ i128.high) (quoted : fresh ≠ [])
    (sorted : ascending.Pairwise (· ≤ ·)) (same : ascending.Perm (fresh.map PriceData.price)) :
    ReadsMedian store env pair ascending ↔
      ∀ lowest ∈ ascending.head?, ∀ highest ∈ ascending.getLast?,
      i128.Holds ((highest - lowest) * 100) ∧
        ¬ (10 * lowest < (highest - lowest) * 100 ∧ (highest - lowest) * 100 < 11 * lowest) := by
  generalize sorts : fresh.mergeSort (fun first second => first.price ≤ second.price) = merged
  have permuted : merged.Perm fresh := sorts ▸ mergeSort_perm fresh _
  have ordered : merged.Pairwise fun first second => first.price ≤ second.price := by
    have := @pairwise_mergeSort _ (fun first second : PriceData => first.price ≤ second.price)
      (fun _ _ _ => by simpa using Int.le_trans) (fun _ _ => by simpa using Int.le_total _ _) fresh
    simpa [sorts] using this
  obtain rfl : merged.map PriceData.price = ascending :=
    ((permuted.map _).trans same.symm).eq_of_pairwise (fun _ _ _ _ => Int.le_antisymm)
      (pairwise_map.mpr ordered) sorted
  have filled : merged ≠ [] := fun empty => quoted (nil_perm.mp (empty ▸ permuted))
  have first := head?_eq_some_head filled
  have last := getLast?_eq_some_getLast filled
  have median := getElem?_eq_getElem
    (Nat.div_lt_self (length_pos_of_ne_nil filled) (by decide : 1 < 2))
  have low := machine _ (permuted.subset (head_mem filled))
  have high := machine _ (permuted.subset (getLast_mem filled))
  have apart : (merged.head filled).price ≤ (merged.getLast filled).price := by
    cases merged with
    | nil => contradiction
    | cons head rest =>
      rcases mem_cons.mp (getLast_mem filled) with same | mem
      · exact (congrArg PriceData.price same).ge
      · exact (pairwise_cons.mp ordered).1 _ mem
  have spec := readMedian_exactly counted low.1 apart high.2 merged sorts first last median
  simp only [ReadsMedian, getPriceWithConfidence_eq quotes alone, head?_map, getLast?_map,
    length_map, getElem?_map, first, last, median, Option.map_some, Option.some.injEq,
    Option.mem_def, exists_and_left, exists_eq_left', forall_eq']
  constructor
  · rintro ⟨agree, differ⟩
    cases result : readMedian fresh store with
    | ok value after =>
      obtain ⟨_, _, held, _⟩ := wp_ok spec result
      refine ⟨held, fun band => ?_⟩
      cases result.symm.trans (differ band.1)
    | error reason after =>
      rcases wp_error spec result with ⟨_, _, held, above⟩ | ⟨rfl, _⟩
      · exact ⟨held, fun band => absurd band.2 (not_lt.mpr above)⟩
      · by_cases near : ((merged.getLast filled).price - (merged.head filled).price) * 100 ≤
            10 * (merged.head filled).price
        · obtain ⟨_, gave⟩ := agree near
          cases result.symm.trans gave
        · cases result.symm.trans (differ (not_le.mp near))
  · rintro ⟨held, outside⟩
    cases result : readMedian fresh store with
    | ok value after =>
      obtain ⟨rfl, same, _, below⟩ := wp_ok spec result
      exact ⟨fun _ => ⟨value.2, by rw [← same]⟩, fun far => absurd ⟨far, below⟩ outside⟩
    | error reason after =>
      rcases wp_error spec result with ⟨rfl, rfl, _, above⟩ | ⟨_, overflows⟩
      · exact ⟨fun near => by omega, fun _ => rfl⟩
      · exact absurd held overflows

/-- An accepted submission passed the gate with the prices quoted after it, and the gate lets only
spreads within its threshold pass just when the spread is clear of the windows above it. A read
gives the upper median, or refuses, just when the scaled spread fits and is not between ten and
eleven percent. -/
theorem gates_exact_iff (store : PriceStore) (env : Env) (pair : AssetPair) :
    (∀ paused source price confidence, wlp (submitPairPrice env paused source pair price confidence)
      (fun _ after => ∃ quotes prices, after.priceMap.lookup pair = some quotes ∧
        prices.Perm (quotes.map PriceData.price) ∧
          Accepts (checkDeviation pair prices) store) store) ∧
    (∀ prices, (∀ price ∈ prices, 0 < price ∧ price ≤ i128.high) → prices ≠ [] → ∀ threshold ≠ 0,
      store.rejectThresholds.lookup pair = some threshold →
        ((Accepts (checkDeviation pair prices) store → SpreadWithin 10000 threshold prices) ↔
          ClearOfWindows threshold prices)) ∧
    ∀ fresh ascending, store.freshQuotes env pair = .ok fresh →
      (store.fallbackOf pair).members = [] → store.minSourceCount ≤ fresh.length →
      (∀ quote ∈ fresh, 0 < quote.price ∧ quote.price ≤ i128.high) → fresh ≠ [] →
      ascending.Pairwise (· ≤ ·) → ascending.Perm (fresh.map PriceData.price) →
        (ReadsMedian store env pair ascending ↔
          ∀ lowest ∈ ascending.head?, ∀ highest ∈ ascending.getLast?,
            i128.Holds ((highest - lowest) * 100) ∧ ¬ (10 * lowest < (highest - lowest) * 100 ∧
              (highest - lowest) * 100 < 11 * lowest)) := by
  exact ⟨fun _ _ _ _ => submitPairPrice_gated ..,
    fun _ machine quoted _ => submission_exact_iff machine quoted, fun _ _ => readsMedian_iff⟩

/-- A pair that rejects spreads above five percent, with two quotes ten and a half percent apart. -/
def twoQuotes : PriceStore :=
  { PriceStore.blank 0 1 with
    rejectThresholds := AList.insert usdcPair 500 ∅
    priceMap := AList.insert usdcPair [⟨1000, 0, 2, 100, 0⟩, ⟨1105, 0, 3, 100, 0⟩] ∅ }

theorem five_percent_within : (Accepts (checkDeviation usdcPair [20000, 21000]) twoQuotes →
      SpreadWithin 10000 500 [20000, 21000]) ↔ ClearOfWindows 500 [20000, 21000] :=
  (gates_exact_iff twoQuotes (.at 0 0 []) usdcPair).2.1 [20000, 21000] (by decide) (by decide) 500
    (by decide) rfl

/-- A spread just above five percent passes the gate, and one of ten and a half is read. -/
theorem gates_round_down : (Accepts (checkDeviation usdcPair [20000, 21001]) twoQuotes ∧
      ¬ SpreadWithin 10000 500 [20000, 21001]) ∧
    getPriceWithConfidence (.at 0 0 []) usdcPair twoQuotes = .ok (1105, 100) twoQuotes ∧
      10 * 1000 < (1105 - 1000) * 100 := by
  refine ⟨⟨⟨_, _, rfl⟩, by decide⟩, ?_, by decide⟩
  rw [@getPriceWithConfidence_eq _ _ _ [⟨1000, 0, 2, 100, 0⟩, ⟨1105, 0, 3, 100, 0⟩] rfl rfl,
    readMedian, mergeSort_of_pairwise (by decide)]
  rfl

end StellarSwipe.Oracle
