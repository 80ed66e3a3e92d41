import Mathlib.Algebra.Order.Group.Abs
import Mathlib.Algebra.Order.Ring.Int
import StellarSwipe.Oracle.Consensus

/-!
# When a round completes

The products and sums over submitted prices are checked, so a round completes exactly when they
stay in their types.
-/

namespace StellarSwipe.Oracle.Consensus

open FixedWidth Program OracleReputation ConsensusStore Range Option List

/-- How far a price is from a median, in basis points. -/
def deviationOf (price median : Int) : Int := (|price - median| * 10000).tdiv median

/-- One more price in an oracle's reputation stays in its types. -/
def TrackFits (stats : OracleReputation) (price median : Int) : Prop :=
  stats.totalSubmissions + 1 ≤ u32Max ∧ |price - median| * 10000 ≤ i128.high ∧
    stats.avgDeviation * stats.totalSubmissions + deviationOf price median ≤ i128.high
deriving Decidable

/-- The scores of so many submissions, so many of them accurate, stay in their types. -/
def ScoreFits (total accurate : Nat) : Prop :=
  accurate * 60 ≤ u32Max ∧ (100 ≤ total → accurate * 100 ≤ u32Max)
deriving Decidable

namespace ConsensusStore

variable (store : ConsensusStore)

/-- Each pending price as often as its oracle's weight says. -/
def countedPrices : List Int :=
  store.priceSubmissions.flatMap fun submission =>
    List.replicate (store.statsOf submission.oracle).weight submission.price

def sortedPrices : List Int := store.countedPrices.insertionSort (· ≤ ·)

/-- The two prices in the middle, which are one where the number of prices is odd. -/
def lowerMiddle : Int := store.sortedPrices.getD ((store.sortedPrices.length - 1) / 2) 0

def upperMiddle : Int := store.sortedPrices.getD (store.sortedPrices.length / 2) 0

def roundMedian : Int := (store.lowerMiddle + store.upperMiddle).tdiv 2

def countedSubmissions (oracle : Address) : Nat × Nat :=
  let stats := store.statsOf oracle
  match store.priceSubmissions.find? (·.oracle = oracle) with
  | none => (stats.totalSubmissions, stats.accurateSubmissions)
  | some submission =>
    (stats.totalSubmissions + 1, stats.accurateSubmissions +
      if deviationOf submission.price store.roundMedian ≤ 500 then 1 else 0)

/-- The arithmetic of the round stays in its types. -/
def RoundFits : Prop :=
  (store.sortedPrices.length % 2 = 0 →
    store.lowerMiddle + store.upperMiddle ≤ i128.high) ∧
  (∀ submission ∈ store.priceSubmissions,
    TrackFits (store.statsOf submission.oracle) submission.price store.roundMedian) ∧
  ∀ oracle ∈ store.oracles,
    ScoreFits (store.countedSubmissions oracle).1 (store.countedSubmissions oracle).2
deriving Decidable

/-- A consensus is calculated from submissions of registered oracles alone, and it is their
weighted median. -/
def Reaches (env : Env) : Prop :=
  ∃ price after, calculateConsensus env store = .ok price after ∧
    (∀ submission ∈ store.priceSubmissions, submission.oracle ∈ store.oracles) ∧
    IsMedian store.countedPrices price ∧
    after.consensusPrice = some ⟨price, env.timestamp, store.priceSubmissions.length⟩

end ConsensusStore

/-- What a reputation keeps. -/
structure OracleReputation.Sane (stats : OracleReputation) (now : Nat) : Prop where
  accurate : stats.accurateSubmissions ≤ stats.totalSubmissions
  deviation : 0 ≤ stats.avgDeviation
  slashed : stats.lastSlash ≤ now

/-- What the operations keep: every registered oracle is listed once, and has at most one
submission pending, with a positive price and a weight. -/
structure RoundKept (store : ConsensusStore) (now : Nat) : Prop where
  distinct : store.oracles.Nodup
  single : (store.priceSubmissions.map PriceSubmission.oracle).Nodup
  priced : ∀ submission ∈ store.priceSubmissions,
    0 < submission.price ∧ submission.price ≤ i128.high
  weighed : ∀ submission ∈ store.priceSubmissions, (store.statsOf submission.oracle).weight ≠ 0
  sane : ∀ oracle, (store.statsOf oracle).Sane now
  registered : ∀ submission ∈ store.priceSubmissions, submission.oracle ∈ store.oracles

section Reputations

variable {stats after : OracleReputation} {price median : Int} {now : Nat}

theorem deviationOf_nonneg (pos : 0 < median) : 0 ≤ deviationOf price median :=
  Int.tdiv_nonneg (mul_nonneg (abs_nonneg _) (by decide)) pos.le

theorem tdiv_holds {value divisor : Int} (nonneg : 0 ≤ value) (pos : 0 < divisor)
    (fits : value ≤ i128.high) : i128.Holds (value.tdiv divisor) := by
  refine ⟨(by decide : i128.low ≤ 0).trans (Int.tdiv_nonneg nonneg pos.le), ?_⟩
  rw [Int.tdiv_eq_ediv_of_nonneg nonneg]
  exact (Int.ediv_le_self _ nonneg).trans fits

/-- The product is the one operation that can leave its type. -/
theorem deviationBps_eq (priced : 0 < price ∧ price ≤ i128.high)
    (pos : 0 < median ∧ median ≤ i128.high) : deviationBps price median =
      if |price - median| * 10000 ≤ i128.high then some (deviationOf price median) else none := by
  have difference : i128.Holds (price - median) := by
    simp only [Range.Holds, i128_low, i128_high] at *
    omega
  have magnitude : i128.Holds |price - median| := by
    refine ⟨(by decide : i128.low ≤ 0).trans (abs_nonneg _), abs_le.mpr ?_⟩
    simp only [Range.Holds, i128_low, i128_high] at *
    omega
  have nonneg : 0 ≤ |price - median| * 10000 := mul_nonneg (abs_nonneg _) (by decide)
  have nonzero : median ≠ 0 := pos.1.ne'
  simp only [deviationBps, checkedSub, checked, difference,
    magnitude, if_true, bind_eq_bind, bind_some, checkedMul,
    checkedDiv, nonzero, if_false]
  by_cases fits : |price - median| * 10000 ≤ i128.high
  · have product : i128.Holds (|price - median| * 10000) :=
      ⟨(by decide : i128.low ≤ 0).trans nonneg, fits⟩
    have quotient : i128.Holds ((|price - median| * 10000).tdiv median) :=
      tdiv_holds nonneg pos.1 fits
    simp only [product, fits, quotient, if_true, bind_some]
    rfl
  · have product : ¬ i128.Holds (|price - median| * 10000) := fun held => fits held.2
    simp only [product, fits, if_false, bind_none]

def tracked (stats : OracleReputation) (price median : Int) : OracleReputation :=
  { stats with
    totalSubmissions := stats.totalSubmissions + 1
    accurateSubmissions :=
      stats.accurateSubmissions + if deviationOf price median ≤ 500 then 1 else 0
    avgDeviation := (stats.avgDeviation * stats.totalSubmissions + deviationOf price median).tdiv
      (stats.totalSubmissions + 1 : Nat) }

theorem trackOracleAccuracy_eq (sane : stats.Sane now) (priced : 0 < price ∧ price ≤ i128.high)
    (pos : 0 < median ∧ median ≤ i128.high) : stats.trackOracleAccuracy price median =
      if TrackFits stats price median then some (tracked stats price median) else none := by
  have deviations := deviationBps_eq priced pos
  have nonneg := @deviationOf_nonneg price median pos.1
  have product : 0 ≤ stats.avgDeviation * stats.totalSubmissions :=
    mul_nonneg sane.deviation (Int.natCast_nonneg _)
  unfold trackOracleAccuracy
  simp only [deviations, bind_eq_bind]
  by_cases room : stats.totalSubmissions + 1 ≤ u32Max
  · have counted : checkedCount u32Max stats.totalSubmissions 1 =
        some (stats.totalSubmissions + 1) := if_pos room
    rw [counted, bind_some]
    by_cases scaled : |price - median| * 10000 ≤ i128.high
    · have total : ((stats.totalSubmissions + 1 - 1 : Nat) : Int) = stats.totalSubmissions := by
        rw [Nat.add_sub_cancel]
      have counts : (if deviationOf price median ≤ accuracyThresholdTight then
            checkedCount u32Max stats.accurateSubmissions 1
          else if deviationOf price median ≤ accuracyThresholdModerate then
            checkedCount u32Max stats.accurateSubmissions 1
          else some stats.accurateSubmissions) = some (stats.accurateSubmissions +
            if deviationOf price median ≤ 500 then 1 else 0) := by
        have one : checkedCount u32Max stats.accurateSubmissions 1 =
            some (stats.accurateSubmissions + 1) :=
          if_pos ((Nat.succ_le_succ sane.accurate).trans room)
        simp only [accuracyThresholdTight, accuracyThresholdModerate, one]
        split <;> split <;> first | rfl | omega
      rw [if_pos scaled, bind_some, total]
      by_cases fits : stats.avgDeviation * stats.totalSubmissions + deviationOf price median ≤
          i128.high
      · have held : i128.checkedMul stats.avgDeviation stats.totalSubmissions =
            some (stats.avgDeviation * stats.totalSubmissions) :=
          if_pos ⟨(by decide : i128.low ≤ 0).trans product, by omega⟩
        have sum : i128.checkedAdd (stats.avgDeviation * stats.totalSubmissions)
              (deviationOf price median) =
            some (stats.avgDeviation * stats.totalSubmissions + deviationOf price median) :=
          if_pos ⟨(by decide : i128.low ≤ 0).trans (by omega), fits⟩
        have quotient : i128.checkedDiv
              (stats.avgDeviation * stats.totalSubmissions + deviationOf price median)
              (stats.totalSubmissions + 1 : Nat) = some (tracked stats price median).avgDeviation :=
          (if_neg (by omega)).trans (if_pos (tdiv_holds (by omega) (by omega) fits))
        have all : TrackFits stats price median := ⟨room, scaled, fits⟩
        rw [held, bind_some, sum, bind_some, quotient, bind_some, counts, bind_some, if_pos all]
        rfl
      · have refused : ¬ TrackFits stats price median := fun all => fits all.2.2
        rw [if_neg refused, checkedMul, checked]
        by_cases held : i128.Holds (stats.avgDeviation * stats.totalSubmissions)
        · rw [if_pos held, bind_some, checkedAdd, checked,
            if_neg fun sum => fits sum.2]
          rfl
        · rw [if_neg held]
          rfl
    · have refused : ¬ TrackFits stats price median := fun all => scaled all.2.1
      rw [if_neg scaled, bind_none, if_neg refused]
  · have counted : checkedCount u32Max stats.totalSubmissions 1 = none := if_neg room
    have refused : ¬ TrackFits stats price median := fun all => room all.1
    rw [counted, bind_none, if_neg refused]

theorem OracleReputation.Sane.tracked (sane : stats.Sane now) (pos : 0 < median) :
    (tracked stats price median).Sane now := by
  refine ⟨?_, ?_, sane.slashed⟩
  · show stats.accurateSubmissions + (if deviationOf price median ≤ 500 then 1 else 0) ≤
      stats.totalSubmissions + 1
    have accurate := sane.accurate
    split <;> omega
  · have product : 0 ≤ stats.avgDeviation * stats.totalSubmissions :=
      mul_nonneg sane.deviation (Int.natCast_nonneg _)
    have deviation := @deviationOf_nonneg price median pos
    exact Int.tdiv_nonneg (by omega) (Int.natCast_nonneg _)

theorem assess_isSome (sane : stats.Sane now) (priced : 0 < price ∧ price ≤ i128.high)
    (pos : 0 < median ∧ median ≤ i128.high) :
    (stats.assess now price median).isSome ↔ TrackFits stats price median := by
  rw [assess, trackOracleAccuracy_eq sane priced pos]
  by_cases fits : TrackFits stats price median
  · rw [if_pos fits, deviationBps_eq priced pos, if_pos fits.2.1]
    simp only [bind_eq_bind, bind_some, fits, iff_true]
    split <;> rfl
  · rw [if_neg fits]
    simp [fits]

theorem assess_some (sane : stats.Sane now) (priced : 0 < price ∧ price ≤ i128.high)
    (pos : 0 < median ∧ median ≤ i128.high) {answer : Bool}
    (assessed : stats.assess now price median = some (after, answer)) :
    after.Sane now ∧ after.totalSubmissions = stats.totalSubmissions + 1 ∧
      after.accurateSubmissions =
        stats.accurateSubmissions + if deviationOf price median ≤ 500 then 1 else 0 := by
  have fits := (assess_isSome sane priced pos).mp (by rw [assessed]; rfl)
  have kept := @OracleReputation.Sane.tracked stats price median now sane pos.1
  rw [assess, trackOracleAccuracy_eq sane priced pos, if_pos fits,
    deviationBps_eq priced pos, if_pos fits.2.1] at assessed
  simp only [bind_eq_bind, bind_some] at assessed
  split at assessed
  next =>
    obtain ⟨rfl, _⟩ := Prod.mk.inj (Option.some.inj assessed)
    exact ⟨⟨kept.accurate, kept.deviation, le_rfl⟩, rfl, rfl⟩
  next =>
    obtain ⟨rfl, _⟩ := Prod.mk.inj (Option.some.inj assessed)
    exact ⟨kept, rfl, rfl⟩

theorem calculateReputation_isSome (sane : stats.Sane now) :
    (stats.calculateReputation now).isSome ↔ stats.accurateSubmissions * 60 ≤ u32Max := by
  have accurate := sane.accurate
  unfold calculateReputation
  split
  next empty =>
    have zero : stats.accurateSubmissions = 0 := by omega
    simp [zero]
  next counted =>
    rw [checkedScore]
    by_cases fits : stats.accurateSubmissions * 60 ≤ u32Max
    · have score : stats.accurateSubmissions * 60 / stats.totalSubmissions ≤ u32Max :=
        (Nat.div_le_self _ _).trans fits
      have penalty : 0 ≤ stats.avgDeviation.tdiv 1000 := Int.tdiv_nonneg sane.deviation (by decide)
      have deviationScore : i128.saturatingSub 30 (min (stats.avgDeviation.tdiv 1000) 30) =
          30 - min (stats.avgDeviation.tdiv 1000) 30 :=
        i128.clamp_of_holds (by simp only [Range.Holds, i128_low, i128_high]; omega)
      have adds (bonus : Int) (small : 0 ≤ bonus ∧ bonus ≤ 10) :
          (i128.checkedAdd ((stats.accurateSubmissions * 60 / stats.totalSubmissions : Nat) : Int)
            (30 - min (stats.avgDeviation.tdiv 1000) 30)).bind
              (fun total => i128.checkedAdd total bonus) =
            some (((stats.accurateSubmissions * 60 / stats.totalSubmissions : Nat) : Int) +
              (30 - min (stats.avgDeviation.tdiv 1000) 30) + bonus) := by
        generalize stats.accurateSubmissions * 60 / stats.totalSubmissions = accuracyScore at *
        have bound : (accuracyScore : Int) ≤ 2 ^ 32 - 1 := by
          unfold u32Max at score
          omega
        have first : i128.Holds (accuracyScore + (30 - min (stats.avgDeviation.tdiv 1000) 30)) := by
          simp only [Range.Holds, i128_low, i128_high]
          omega
        have second : i128.Holds
            (accuracyScore + (30 - min (stats.avgDeviation.tdiv 1000) 30) + bonus) := by
          simp only [Range.Holds, i128_low, i128_high]
          omega
        rw [checkedAdd, checked, if_pos first, bind_some, checkedAdd, checked, if_pos second]
      simp only [fits, sane.slashed, if_true, bind_eq_bind, bind_some, deviationScore, ← bind_assoc]
      split
      next => rw [adds 10 (by decide)]; simp
      next => rw [adds 0 (by decide)]; simp
    · simp [fits]

theorem shouldRemoveOracle_isSome {reputation : Nat}
    (known : stats.calculateReputation now = some reputation) :
    (stats.shouldRemoveOracle now).isSome ↔
      (100 ≤ stats.totalSubmissions → stats.accurateSubmissions * 100 ≤ u32Max) := by
  rw [shouldRemoveOracle, known, checkedScore]
  by_cases many : 100 ≤ stats.totalSubmissions
  · by_cases fits : stats.accurateSubmissions * 100 ≤ u32Max
    · simp only [many, fits, if_true, bind_eq_bind, bind_some, implies_true, iff_true]
      split <;> rfl
    · simp [many, fits]
  · simp [many]

theorem adjust_isSome (sane : stats.Sane now) : (stats.adjust now).isSome ↔
    ScoreFits stats.totalSubmissions stats.accurateSubmissions := by
  have scores := calculateReputation_isSome sane
  rw [ScoreFits, ← scores, OracleReputation.adjust, adjustOracleWeight]
  cases known : stats.calculateReputation now with
  | none => simp
  | some reputation =>
    have removes := @shouldRemoveOracle_isSome
      { stats with
        weight := weightOf reputation, reputationScore := reputation }
      now reputation known
    simp only [bind_eq_bind, bind_some, isSome_some, true_and]
    rw [← removes]
    cases shouldRemoveOracle _ now <;> simp

theorem adjust_some {answer : Bool} (adjusted : stats.adjust now = some (after, answer)) :
    ∃ reputation, after = { stats with
      weight := weightOf reputation, reputationScore := reputation } := by
  obtain ⟨middle, known, rest⟩ := Option.bind_eq_some_iff.mp adjusted
  obtain ⟨reputation, _, same⟩ := Option.bind_eq_some_iff.mp known
  obtain ⟨poor, _, result⟩ := Option.bind_eq_some_iff.mp rest
  obtain ⟨rfl, _⟩ := Prod.mk.inj (Option.some.inj result)
  exact ⟨reputation, (Option.some.inj same).symm⟩

end Reputations

section Median

variable {store : ConsensusStore} {now : Nat}

theorem weightedPrices_eq (kept : RoundKept store now) :
    store.weightedPrices = store.countedPrices := by
  refine flatMap_congr fun submission mem => ?_
  rw [max_eq_left (Nat.one_le_iff_ne_zero.mpr (kept.weighed submission mem))]

theorem sortedPrices_perm : store.sortedPrices.Perm store.countedPrices :=
  perm_insertionSort _ _

theorem sorted_priced (kept : RoundKept store now) {price : Int}
    (mem : price ∈ store.sortedPrices) : 0 < price ∧ price ≤ i128.high := by
  obtain ⟨submission, pending, copy⟩ := List.mem_flatMap.mp (sortedPrices_perm.mem_iff.mp mem)
  exact (List.mem_replicate.mp copy).2 ▸ kept.priced submission pending

theorem sortedPrices_length (kept : RoundKept store now) (open' : store.priceSubmissions ≠ []) :
    0 < store.sortedPrices.length := by
  obtain ⟨submission, pending⟩ := exists_mem_of_ne_nil _ open'
  have counted : submission.price ∈ store.sortedPrices := by
    refine sortedPrices_perm.mem_iff.mpr (List.mem_flatMap.mpr ⟨submission, pending, ?_⟩)
    exact List.mem_replicate.mpr ⟨kept.weighed submission pending, rfl⟩
  exact length_pos_of_mem counted

theorem getElem?_sorted {index : Nat} (inside : index < store.sortedPrices.length) :
    store.sortedPrices[index]? = some (store.sortedPrices.getD index 0) := by
  rw [getD_eq_getElem?_getD, List.getElem?_eq_getElem inside, getD_some]

theorem getD_priced (kept : RoundKept store now) {index : Nat}
    (inside : index < store.sortedPrices.length) :
    0 < store.sortedPrices.getD index 0 ∧ store.sortedPrices.getD index 0 ≤ i128.high :=
  sorted_priced kept (mem_of_getElem? (getElem?_sorted inside))

theorem roundMedian_odd (odd : store.sortedPrices.length % 2 = 1) :
    store.roundMedian = store.upperMiddle := by
  have one : store.lowerMiddle = store.upperMiddle := by
    rw [lowerMiddle, upperMiddle,
      show (store.sortedPrices.length - 1) / 2 = store.sortedPrices.length / 2 by omega]
  rw [roundMedian, one, ← mul_two, Int.mul_tdiv_cancel _ (by decide)]

/-- The median is the round's, unless the two prices in the middle add up beyond their type. -/
theorem weightedMedian_eq (kept : RoundKept store now) (open' : store.priceSubmissions ≠ []) :
    store.weightedMedian = if store.sortedPrices.length % 2 = 0 →
        store.lowerMiddle + store.upperMiddle ≤ i128.high
      then some store.roundMedian else none := by
  have sized := sortedPrices_length kept open'
  have same : BubbleSort.bubbleSort store.weightedPrices = store.sortedPrices := by
    rw [weightedPrices_eq kept, BubbleSort.bubbleSort_eq, sortedPrices]
  have upper : store.sortedPrices[store.sortedPrices.length / 2]? = some store.upperMiddle :=
    getElem?_sorted (by omega)
  have lower : store.sortedPrices[(store.sortedPrices.length - 1) / 2]? =
      some store.lowerMiddle := getElem?_sorted (by omega)
  have lowerPriced : 0 < store.lowerMiddle := (getD_priced kept (by omega)).1
  have upperPriced : 0 < store.upperMiddle := (getD_priced kept (by omega)).1
  rw [weightedMedian, if_neg open', same]
  by_cases even : store.sortedPrices.length % 2 = 0
  · have pre : store.sortedPrices.length / 2 - 1 = (store.sortedPrices.length - 1) / 2 := by
      omega
    simp only [even, if_true, pre, lower, upper, bind_eq_bind, bind_some,
      checkedAdd, checked, true_implies]
    by_cases fits : store.lowerMiddle + store.upperMiddle ≤ i128.high
    · have held : i128.Holds (store.lowerMiddle + store.upperMiddle) :=
        ⟨(by decide : i128.low ≤ 0).trans (by omega), fits⟩
      simp only [held, fits, if_true, bind_some]
      rfl
    · have overflows : ¬ i128.Holds (store.lowerMiddle + store.upperMiddle) :=
        fun held => fits held.2
      simp only [overflows, fits, if_false, bind_none]
  · rw [roundMedian_odd (by omega)]
    simp only [even, if_false, upper, false_implies, if_true]

theorem roundMedian_priced (kept : RoundKept store now) (open' : store.priceSubmissions ≠ []) :
    0 < store.roundMedian ∧ store.roundMedian ≤ i128.high := by
  have sized := sortedPrices_length kept open'
  have lower := @getD_priced store now kept ((store.sortedPrices.length - 1) / 2) (by omega)
  have upper := @getD_priced store now kept (store.sortedPrices.length / 2) (by omega)
  rw [roundMedian, lowerMiddle, upperMiddle,
    Int.tdiv_eq_ediv_of_nonneg (by omega)]
  omega

theorem roundMedian_isMedian (kept : RoundKept store now) (open' : store.priceSubmissions ≠ []) :
    IsMedian store.countedPrices store.roundMedian := by
  have sized := sortedPrices_length kept open'
  refine ⟨store.sortedPrices, sortedPrices_perm, pairwise_insertionSort _ _, ?_⟩
  have upper : store.sortedPrices[store.sortedPrices.length / 2]? = some store.upperMiddle :=
    getElem?_sorted (by omega)
  rcases Nat.mod_two_eq_zero_or_one store.sortedPrices.length with even | odd
  · refine .inr ⟨even, store.lowerMiddle, ?_, store.upperMiddle, upper, rfl⟩
    rw [show store.sortedPrices.length / 2 - 1 = (store.sortedPrices.length - 1) / 2 by omega]
    exact getElem?_sorted (by omega)
  · exact .inl ⟨odd, roundMedian_odd odd ▸ upper⟩

end Median

section Round

variable {store : ConsensusStore} {now : Nat} {env : Env}

def assessAll (env : Env) (store : ConsensusStore) (price : Int) :
    Option (Table Address OracleReputation × List Bool) :=
  store.oracleStats.reviseAll newReputation PriceSubmission.oracle
    (fun submission stats => stats.assess env.timestamp submission.price price)
    store.priceSubmissions

def adjustAll (env : Env) (store : ConsensusStore) (stats : Table Address OracleReputation) :
    Option (Table Address OracleReputation × List Bool) :=
  stats.reviseAll newReputation id (fun _ stats => stats.adjust env.timestamp) store.oracles

theorem removePoor_spec (oracles removed : List Address) :
    ∃ remaining, store.removePoor oracles removed = { store with oracles := remaining } ∧
      remaining.Sublist store.oracles := by
  have removes (removed : List Address) : ∃ remaining,
      removed.foldl removeOracleInternal store =
        { store with oracles := remaining } ∧ remaining.Sublist store.oracles := by
    induction removed generalizing store with
    | nil => exact ⟨store.oracles, rfl, .refl _⟩
    | cons oracle rest ih =>
      obtain ⟨remaining, same, part⟩ := @ih (store.removeOracleInternal oracle)
      exact ⟨remaining, same, part.trans filter_sublist⟩
  unfold removePoor
  split
  next => exact removes removed
  next => exact ⟨store.oracles, rfl, .refl _⟩

/-- A round that completes went through the median and both loops; one that stops was stopped
by one of them. -/
theorem calculateConsensus_spec (open' : store.priceSubmissions ≠ []) :
    wp (calculateConsensus env) (fun price after => store.weightedMedian = some price ∧
        ∃ assessed, assessAll env store price = some assessed ∧
          ∃ adjusted, adjustAll env store assessed.1 = some adjusted ∧
            ∃ remaining, remaining.Sublist store.oracles ∧
              after = { store with
                oracles := remaining
                oracleStats := adjusted.1
                priceSubmissions := []
                consensusPrice :=
                  some ⟨price, env.timestamp, store.priceSubmissions.length⟩ })
      (fun _ _ => store.weightedMedian = none ∨ ∃ price, store.weightedMedian = some price ∧
        (assessAll env store price = none ∨ ∃ assessed, assessAll env store price = some assessed ∧
            adjustAll env store assessed.1 = none)) store := by
  unfold calculateConsensus
  simp only [wp_rules]
  refine ⟨fun _ => ⟨fun price median => ⟨fun assessed known => ⟨fun adjusted done => ?_, ?_⟩, ?_⟩,
    .inl⟩, fun empty => absurd open' empty⟩
  · obtain ⟨remaining, same, part⟩ := @removePoor_spec
      { store with oracleStats := adjusted.1 } store.oracles
      (((store.oracles.zip adjusted.2).filter (·.2)).map (·.1))
    exact ⟨median, assessed, known, adjusted, done, remaining, part, by rw [same]⟩
  · exact fun stuck => .inr ⟨price, median, .inr ⟨assessed, known, stuck⟩⟩
  · exact fun stuck => .inr ⟨price, median, .inl stuck⟩

theorem OracleReputation.Sane.later {stats : OracleReputation} (sane : stats.Sane now)
    {later : Nat} (passed : now ≤ later) : stats.Sane later :=
  ⟨sane.accurate, sane.deviation, sane.slashed.trans passed⟩

theorem assessAll_isSome (kept : RoundKept store now)
    (open' : store.priceSubmissions ≠ []) (passed : now ≤ env.timestamp) :
    (assessAll env store store.roundMedian).isSome ↔ ∀ submission ∈ store.priceSubmissions,
        TrackFits (store.statsOf submission.oracle) submission.price store.roundMedian := by
  rw [assessAll, Table.reviseAll_isSome kept.single]
  refine forall₂_congr fun submission mem => ?_
  exact assess_isSome ((kept.sane submission.oracle).later passed) (kept.priced submission mem)
    (roundMedian_priced kept open')

variable {assessed : Table Address OracleReputation × List Bool}

theorem assessAll_counts (kept : RoundKept store now) (open' : store.priceSubmissions ≠ [])
    (passed : now ≤ env.timestamp)
    (known : assessAll env store store.roundMedian = some assessed) (oracle : Address) :
    (getOracleStats assessed.1 oracle).Sane env.timestamp ∧
      store.countedSubmissions oracle = ((getOracleStats assessed.1 oracle).totalSubmissions,
        (getOracleStats assessed.1 oracle).accurateSubmissions) := by
  obtain ⟨changed, elsewhere⟩ := Table.reviseAll_some kept.single known
  rw [countedSubmissions]
  cases hit : store.priceSubmissions.find? (·.oracle = oracle) with
  | none =>
    have absent : oracle ∉ store.priceSubmissions.map PriceSubmission.oracle := by
      simpa using hit
    rw [getOracleStats, elsewhere oracle absent]
    exact ⟨(kept.sane oracle).later passed, rfl⟩
  | some submission =>
    have mem := mem_of_find?_eq_some hit
    have own : submission.oracle = oracle := by simpa using List.find?_some hit
    subst own
    obtain ⟨answer, assessment⟩ := changed submission mem
    obtain ⟨sane, total, accurate⟩ := assess_some ((kept.sane submission.oracle).later passed)
      (kept.priced submission mem) (roundMedian_priced kept open') assessment
    refine ⟨sane, ?_⟩
    simp only [getOracleStats, total, accurate, ConsensusStore.statsOf]

theorem adjustAll_isSome (kept : RoundKept store now) (open' : store.priceSubmissions ≠ [])
    (passed : now ≤ env.timestamp) (known : assessAll env store store.roundMedian = some assessed) :
    (adjustAll env store assessed.1).isSome ↔ ∀ oracle ∈ store.oracles,
      ScoreFits (store.countedSubmissions oracle).1 (store.countedSubmissions oracle).2 := by
  rw [adjustAll, Table.reviseAll_isSome (by simpa using kept.distinct)]
  refine forall₂_congr fun oracle _ => ?_
  obtain ⟨sane, counted⟩ := assessAll_counts kept open' passed known oracle
  rw [counted]
  exact adjust_isSome sane

/-- A round reaches its consensus exactly when its arithmetic stays in its types. -/
theorem reaches_iff_fits (kept : RoundKept store now) (open' : store.priceSubmissions ≠ [])
    (passed : now ≤ env.timestamp) : store.Reaches env ↔ store.RoundFits := by
  have specified := @calculateConsensus_spec store env open'
  have assesses := @assessAll_isSome store now env kept open' passed
  have median := weightedMedian_eq kept open'
  constructor
  · rintro ⟨price, after, gave, _⟩
    obtain ⟨hit, assessed, known, adjusted, done, _⟩ := wp_ok specified gave
    rw [median] at hit
    split at hit
    next fits =>
      cases hit
      refine ⟨fits, assesses.mp (by rw [known]; rfl), ?_⟩
      exact (adjustAll_isSome kept open' passed known).mp (by rw [done]; rfl)
    next => cases hit
  · rintro ⟨fits, tracks, scores⟩
    rw [if_pos fits] at median
    obtain ⟨assessed, known⟩ := Option.isSome_iff_exists.mp (assesses.mpr tracks)
    obtain ⟨adjusted, done⟩ := Option.isSome_iff_exists.mp
      ((adjustAll_isSome kept open' passed known).mpr scores)
    cases result : calculateConsensus env store with
    | ok price after =>
      obtain ⟨hit, _, _, _, _, remaining, _, rfl⟩ := wp_ok specified result
      cases mem_unique median hit
      exact ⟨_, _, result, kept.registered, roundMedian_isMedian kept open', rfl⟩
    | error reason after =>
      rcases wp_error specified result with none | ⟨price, hit, stuck⟩
      · cases median.symm.trans none
      · cases mem_unique median hit
        rcases stuck with none | ⟨other, again, none⟩
        · cases known.symm.trans none
        · cases mem_unique known again
          cases done.symm.trans none

end Round

end StellarSwipe.Oracle.Consensus
