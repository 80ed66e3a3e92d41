import StellarSwipe.UserPortfolio.Positions

/-!
# Closes of cost lots

A close takes lots from the front and splits at most one of them.
-/

namespace StellarSwipe.UserPortfolio

open FixedWidth Program List

/-- The lots, or the part of a lot, that a close of an amount takes. -/
def lotsTaken (amount : Int) : List CostLot → List CostLot
  | [] => []
  | lot :: rest =>
    if lot.amount ≤ amount then lot :: lotsTaken (amount - lot.amount) rest
    else if 0 < amount then [{ lot with amount }] else []

def lotsLeft (amount : Int) : List CostLot → List CostLot
  | [] => []
  | lot :: rest =>
    if lot.amount ≤ amount then lotsLeft (amount - lot.amount) rest
    else { lot with amount := lot.amount - amount } :: rest

def lotTotal (lots : List CostLot) : Int := (lots.map (·.amount)).sum

def CostLot.gain (exitPrice : Int) (lot : CostLot) : Int :=
  ((exitPrice - lot.entryPrice) * lot.amount).tdiv lot.entryPrice

/-- What a lot adds to the profit and loss: nothing where its product does not fit. -/
def CostLot.credit (exitPrice : Int) (lot : CostLot) : Int :=
  if i128.Holds ((exitPrice - lot.entryPrice) * lot.amount) then lot.gain exitPrice else 0

/-- What some lots add, in order and up to the bounds of the type. -/
def credited (exitPrice pnl : Int) (lots : List CostLot) : Int :=
  (lots.map (·.credit exitPrice)).foldl i128.saturatingAdd pnl

/-- The sum of what is added fits up to every lot. -/
def CreditsFit (exitPrice : Int) (lots : List CostLot) : Prop :=
  i128.PartialSums 0 (lots.map (·.credit exitPrice))

def gains (exitPrice : Int) (lots : List CostLot) : Int := (lots.map (·.gain exitPrice)).sum

/-- A lot as `add_cost_lot` accepts it. -/
structure CostLot.Valid (lot : CostLot) : Prop where
  priced : 0 < lot.entryPrice
  filled : 0 < lot.amount
  price_le : lot.entryPrice ≤ i128.high
  amount_le : lot.amount ≤ i128.high

/-- The product of every lot fits, and so does the sum of the gains up to every lot. -/
def GainsFit (exitPrice : Int) (lots : List CostLot) : Prop :=
  (∀ lot ∈ lots, i128.Holds ((exitPrice - lot.entryPrice) * lot.amount)) ∧
    i128.PartialSums 0 (lots.map (·.gain exitPrice))

section Lots

variable {exitPrice : Int} {lots : List CostLot} {amount : Int}

theorem lotsLeft_lotsLeft (filled : ∀ lot ∈ lots, 0 < lot.amount) {a b : Int} (first : 0 ≤ a)
    (second : 0 ≤ b) : lotsLeft b (lotsLeft a lots) = lotsLeft (a + b) lots := by
  induction lots generalizing a with
  | nil => rfl
  | cons lot rest ih =>
    have head := filled lot mem_cons_self
    simp only [lotsLeft]
    by_cases whole : lot.amount ≤ a
    · rw [if_pos whole, if_pos (by omega), ih (fun other => filled other ∘ mem_cons_of_mem _)
        (by omega), sub_add_eq_add_sub]
    · rw [if_neg whole, lotsLeft]
      by_cases both : lot.amount ≤ a + b
      · rw [if_pos both, if_pos (by dsimp only; omega)]
        congr 1
        dsimp only
        omega
      · rw [if_neg both, if_neg (by dsimp only; omega)]
        congr 2
        dsimp only
        omega

/-- What is left is the rest of the amount, in order, at the same prices and without empty lots. -/
theorem lotsLeft_spec (valid : ∀ lot ∈ lots, lot.Valid) (amount : Int) (nonneg : 0 ≤ amount)
    (enough : amount ≤ lotTotal lots) : lotTotal (lotsLeft amount lots) = lotTotal lots - amount ∧
      (lotsLeft amount lots).map (·.entryPrice) <:+ lots.map (·.entryPrice) ∧
      ∀ lot ∈ lotsLeft amount lots, lot.Valid := by
  induction lots generalizing amount with
  | nil =>
    obtain rfl : amount = 0 := le_antisymm enough nonneg
    exact ⟨rfl, suffix_refl _, valid⟩
  | cons lot rest ih =>
    obtain ⟨good, later⟩ := List.forall_mem_cons.mp valid
    simp only [lotTotal, map_cons, sum_cons, lotsLeft] at enough ih ⊢
    split
    next whole =>
      obtain ⟨total, ordered, kept⟩ := ih later (amount - lot.amount) (by omega) (by omega)
      exact ⟨by omega, ordered.trans (suffix_cons _ _), kept⟩
    next part =>
      rw [map_cons, map_cons, sum_cons]
      exact ⟨by dsimp only; omega, suffix_refl _, List.forall_mem_cons.mpr ⟨⟨good.priced,
        Int.sub_pos_of_lt (not_le.mp part), good.price_le,
        (Int.sub_le_self _ nonneg).trans good.amount_le⟩, later⟩⟩

theorem credited_of_fits (fits : CreditsFit exitPrice lots) :
    credited exitPrice 0 lots = (lots.map (·.credit exitPrice)).sum :=
  (Range.foldl_saturatingAdd_of_partialSums fits).trans (Int.zero_add _)

/-- Where every product and every sum fits, the lots add what they gain. -/
theorem GainsFit.credited (fits : GainsFit exitPrice lots) :
    credited exitPrice 0 lots = gains exitPrice lots := by
  have same : lots.map (·.credit exitPrice) = lots.map (·.gain exitPrice) :=
    map_congr_left fun lot mem => if_pos (fits.1 lot mem)
  rw [credited_of_fits (by rw [CreditsFit, same]; exact fits.2), same, gains]

/-- A close that splits no lot leaves the rest to a later one. -/
theorem lotsTaken_whole {first second : Int} (some : 0 ≤ first) (more : 0 ≤ second)
    (whole : lotsTaken first lots <+: lots) : lotsTaken (first + second) lots =
      lotsTaken first lots ++ lotsTaken second (lotsLeft first lots) := by
  induction lots generalizing first with
  | nil => rfl
  | cons lot rest ih =>
    simp only [lotsTaken, lotsLeft] at whole ⊢
    by_cases taken : lot.amount ≤ first
    · rw [if_pos taken] at whole ⊢
      rw [if_pos taken, if_pos (by omega), cons_append,
        ← ih (by omega) ((prefix_cons_inj lot).mp whole), sub_add_eq_add_sub]
    · rw [if_neg taken] at whole ⊢
      rw [if_neg taken]
      split at whole
      next pos =>
        have same := (cons_prefix_cons.mp whole).1
        exact absurd (congrArg CostLot.amount same) (by dsimp only; omega)
      next empty =>
        obtain rfl : first = 0 := by omega
        simp [lotsTaken]

theorem CostLot.Valid.realized_eq {lot : CostLot} (valid : lot.Valid) (priced : 0 < exitPrice)
    (accepted : exitPrice ≤ i128.high) (amount : Int) :
    lot.realized exitPrice amount = CostLot.credit exitPrice { lot with amount } := by
  have margin : i128.Holds (exitPrice - lot.entryPrice) := by
    have pos := valid.priced
    have fits := valid.price_le
    simp only [Range.Holds, i128_low, i128_high] at *
    omega
  rw [CostLot.realized, Range.checkedSub, Range.checked, if_pos margin, Option.bind_some,
    Range.checkedMul, Range.checked, CostLot.credit]
  by_cases held : i128.Holds ((exitPrice - lot.entryPrice) * amount)
  · have lowest : i128.low * lot.entryPrice ≤ i128.low * 1 :=
      Int.mul_le_mul_of_nonpos_left (by decide) valid.priced
    have quotient : i128.Holds (((exitPrice - lot.entryPrice) * amount).tdiv lot.entryPrice) :=
      ⟨Int.le_tdiv_of_mul_le valid.priced (lowest.trans ((Int.mul_one _).trans_le held.1)),
        (Int.tdiv_le_tdiv valid.priced held.2).trans (Int.tdiv_le_self _ (by decide))⟩
    rw [if_pos held, if_pos held, Option.bind_some, Range.checkedDiv, if_neg valid.priced.ne',
      Range.checked, if_pos quotient, Option.getD_some, CostLot.gain]
  · rw [if_neg held, if_neg held, Option.bind_none, Option.getD_none]

theorem consumeLots_done (valid : ∀ lot ∈ lots, lot.Valid) (pnl : Int) :
    consumeLots exitPrice 0 pnl lots = (0, pnl, lots) := by
  induction lots with
  | nil => rfl
  | cons lot rest ih => rw [consumeLots, if_pos le_rfl, ih (List.forall_mem_cons.mp valid).2]

/-- The loop leaves the lots of the law, and adds what those it takes add. The induction is on the
lots still to visit. -/
theorem consumeLots_eq (valid : ∀ lot ∈ lots, lot.Valid) (priced : 0 < exitPrice)
    (accepted : exitPrice ≤ i128.high) (amount pnl : Int) (nonneg : 0 ≤ amount)
    (held : amount ≤ i128.high) (enough : amount ≤ lotTotal lots) :
    (consumeLots exitPrice amount pnl lots).1 = 0 ∧
      (consumeLots exitPrice amount pnl lots).2.2 = lotsLeft amount lots ∧
      (consumeLots exitPrice amount pnl lots).2.1 =
        credited exitPrice pnl (lotsTaken amount lots) := by
  induction lots generalizing amount pnl with
  | nil =>
    obtain rfl : amount = 0 := le_antisymm enough nonneg
    exact ⟨rfl, rfl, rfl⟩
  | cons lot rest ih =>
    obtain ⟨good, later⟩ := List.forall_mem_cons.mp valid
    have filled := good.filled
    have fits := good.amount_le
    simp only [lotTotal, map_cons, sum_cons] at enough
    by_cases none : amount = 0
    · subst none
      simp [consumeLots_done valid, lotsLeft, lotsTaken, not_le.mpr filled, credited]
    · have exactly (left right : Int) (low : 0 ≤ left - right) (high : left - right ≤ i128.high) :
          i128.saturatingSub left right = left - right :=
        i128.clamp_of_holds ⟨low.trans' (by decide), high⟩
      by_cases whole : lot.amount ≤ amount
      · have step : consumeLots exitPrice amount pnl (lot :: rest) =
            consumeLots exitPrice (amount - lot.amount)
              (i128.saturatingAdd pnl (lot.realized exitPrice lot.amount)) rest := by
          simp only [consumeLots, if_neg (show ¬ amount ≤ 0 by omega), if_pos whole,
            if_pos good.priced, exactly lot.amount lot.amount (by omega) (by omega),
            exactly amount lot.amount (by omega) (by omega), Int.sub_self, lt_irrefl, if_false]
        have onward (pnl : Int) := ih later (amount - lot.amount) pnl (by omega) (by omega)
          (by rw [lotTotal]; omega)
        rw [step, lotsTaken, lotsLeft, if_pos whole, if_pos whole]
        exact ⟨(onward _).1, (onward _).2.1, by
          rw [(onward _).2.2, good.realized_eq priced accepted]; rfl⟩
      · have step : consumeLots exitPrice amount pnl (lot :: rest) =
            (0, i128.saturatingAdd pnl (lot.realized exitPrice amount),
              { lot with amount := lot.amount - amount } :: rest) := by
          simp only [consumeLots, if_neg (show ¬ amount ≤ 0 by omega), if_neg whole,
            if_pos good.priced, exactly lot.amount amount (by omega) (by omega),
            exactly amount amount (by omega) (by omega), Int.sub_self, consumeLots_done later,
            if_pos (show 0 < lot.amount - amount by omega)]
        rw [step, lotsTaken, lotsLeft, if_neg whole, if_neg whole, if_pos (by omega)]
        exact ⟨rfl, rfl, by rw [good.realized_eq priced accepted]; rfl⟩

/-- Rounding two parts on their own loses at most a unit. -/
theorem truncated_parts (first second : Int) {divisor : Int} (pos : 0 < divisor) :
    first / divisor + second / divisor ≤ (first + second) / divisor ∧
      (first + second) / divisor ≤ first / divisor + second / divisor + 1 := by
  have firstLow := Int.ediv_mul_le first pos.ne'
  have secondLow := Int.ediv_mul_le second pos.ne'
  have firstHigh := Int.lt_ediv_add_one_mul_self first pos
  have secondHigh := Int.lt_ediv_add_one_mul_self second pos
  refine ⟨(Int.le_ediv_iff_mul_le pos).mpr (by rw [Int.add_mul]; omega), ?_⟩
  refine Int.le_of_lt_add_one ((Int.ediv_lt_iff_lt_mul pos).mpr ?_)
  simp only [Int.add_mul, Int.one_mul] at *
  omega

theorem CostLot.gain_parts {lot : CostLot} (priced : 0 < lot.entryPrice) {first second : Int}
    (some : 0 ≤ first) (more : 0 ≤ second) :
    (gain exitPrice { lot with amount := first } + gain exitPrice { lot with amount := second } -
      gain exitPrice { lot with amount := first + second }).natAbs ≤ 1 := by
  simp only [CostLot.gain, Int.mul_add]
  rcases le_total 0 (exitPrice - lot.entryPrice) with rising | falling
  · have firstPart := Int.mul_nonneg rising some
    have secondPart := Int.mul_nonneg rising more
    rw [tdiv_eq_floor firstPart, tdiv_eq_floor secondPart, tdiv_eq_floor (by omega)]
    have parts := truncated_parts ((exitPrice - lot.entryPrice) * first)
      ((exitPrice - lot.entryPrice) * second) priced
    omega
  · have firstPart := Int.mul_nonneg (Int.neg_nonneg_of_nonpos falling) some
    have secondPart := Int.mul_nonneg (Int.neg_nonneg_of_nonpos falling) more
    rw [Int.neg_mul] at firstPart secondPart
    have parts := truncated_parts (-((exitPrice - lot.entryPrice) * first))
      (-((exitPrice - lot.entryPrice) * second)) priced
    rw [← tdiv_eq_floor firstPart, ← tdiv_eq_floor secondPart, ← tdiv_eq_floor (by omega),
      ← Int.neg_add, Int.neg_tdiv, Int.neg_tdiv, Int.neg_tdiv] at parts
    omega

theorem gains_parts (valid : ∀ lot ∈ lots, lot.Valid) {first second : Int} (some : 0 ≤ first)
    (more : 0 < second) : (gains exitPrice (lotsTaken first lots) +
      gains exitPrice (lotsTaken second (lotsLeft first lots)) -
        gains exitPrice (lotsTaken (first + second) lots)).natAbs ≤ 1 := by
  induction lots generalizing first with
  | nil => simp [gains, lotsTaken, lotsLeft]
  | cons lot rest ih =>
    obtain ⟨good, later⟩ := List.forall_mem_cons.mp valid
    simp only [lotsTaken, lotsLeft]
    by_cases whole : lot.amount ≤ first
    · have parts := ih later (Int.sub_nonneg_of_le whole)
      rw [if_pos whole, if_pos whole, if_pos (by omega)]
      rw [sub_add_eq_add_sub] at parts
      simp only [gains, map_cons, sum_cons] at parts ⊢
      omega
    rw [if_neg whole, if_neg whole, lotsTaken]
    dsimp only
    rcases some.eq_or_lt with rfl | pos
    · simp [gains]
    rw [if_pos pos]
    by_cases both : lot.amount ≤ first + second
    · have parts := @CostLot.gain_parts exitPrice _ good.priced _ _ some
        (show 0 ≤ lot.amount - first by omega)
      have same : second - (lot.amount - first) = first + second - lot.amount := by omega
      rw [add_sub_cancel] at parts
      change (_ - CostLot.gain exitPrice lot).natAbs ≤ 1 at parts
      rw [if_pos both, if_pos (by omega), same]
      simp only [gains, map_cons, sum_cons, map_nil, sum_nil] at parts ⊢
      omega
    · have parts := @CostLot.gain_parts exitPrice _ good.priced _ _ some more.le
      rw [if_neg both, if_neg (by omega), if_pos more, if_pos (by omega)]
      simpa [gains] using parts

end Lots

section Closes

variable (env : Env) (user : Address) (exitPrice : Int) (store : PortfolioStore)

/-- A close lowers the lots by its amount, keeps those left in order and filled, and returns what
the lots it takes add: what they gain, where all of it fits. -/
def ClosesExactly (amount : Int) : Prop :=
  ∃ pnl after, closeFifo env user amount exitPrice store = .ok pnl after ∧
    after.fifoLots user = lotsLeft amount (store.fifoLots user) ∧
    lotTotal (after.fifoLots user) = lotTotal (store.fifoLots user) - amount ∧
    (after.fifoLots user).map (·.entryPrice) <:+ (store.fifoLots user).map (·.entryPrice) ∧
    (∀ lot ∈ after.fifoLots user, lot.Valid) ∧
    pnl = credited exitPrice 0 (lotsTaken amount (store.fifoLots user)) ∧
    (GainsFit exitPrice (lotsTaken amount (store.fifoLots user)) →
      pnl = gains exitPrice (lotsTaken amount (store.fifoLots user)))

/-- Two closes leave the lots that one close of both amounts leaves. Where all of it fits they gain
as much, up to a unit, and where the sums fit exactly as much if the first splits no lot. -/
def ClosesCompose (first second : Int) : Prop :=
  ∃ gained middle more after both whole,
    closeFifo env user first exitPrice store = .ok gained middle ∧
    closeFifo env user second exitPrice middle = .ok more after ∧
    closeFifo env user (first + second) exitPrice store = .ok both whole ∧
    after.fifoLots user = whole.fifoLots user ∧
    (GainsFit exitPrice (lotsTaken first (store.fifoLots user)) →
      GainsFit exitPrice (lotsTaken second (middle.fifoLots user)) →
        GainsFit exitPrice (lotsTaken (first + second) (store.fifoLots user)) →
          (gained + more - both).natAbs ≤ 1) ∧
    (lotsTaken first (store.fifoLots user) <+: store.fifoLots user →
      CreditsFit exitPrice (lotsTaken first (store.fifoLots user)) →
        CreditsFit exitPrice (lotsTaken second (middle.fifoLots user)) →
          CreditsFit exitPrice (lotsTaken (first + second) (store.fifoLots user)) →
            gained + more = both)

variable {env user exitPrice store}

theorem closesExactly (signed : user ∈ env.auths) (priced : 0 < exitPrice)
    (accepted : exitPrice ≤ i128.high) (valid : ∀ lot ∈ store.fifoLots user, lot.Valid)
    {amount : Int} (pos : 0 < amount) (held : amount ≤ i128.high)
    (enough : amount ≤ lotTotal (store.fifoLots user)) :
    ClosesExactly env user exitPrice store amount := by
  obtain ⟨met, kept, gained⟩ :=
    consumeLots_eq valid priced accepted amount 0 pos.le held enough
  have specified : wp (closeFifo env user amount exitPrice) (fun pnl after =>
      after.fifoLots user = lotsLeft amount (store.fifoLots user) ∧
        pnl = credited exitPrice 0 (lotsTaken amount (store.fifoLots user)))
      (fun _ _ => False) store := by
    simp only [closeFifo, wp_rules]
    refine ⟨fun _ => ⟨fun _ => ⟨fun _ => ⟨?_, gained⟩, fun unmet => unmet met.le⟩,
      fun refused => refused ⟨pos, priced⟩⟩, fun unsigned => unsigned signed⟩
    rw [PortfolioStore.fifoLots, Table.lookup_insert, if_pos rfl]
    exact kept
  have spec := lotsLeft_spec valid amount pos.le enough
  rw [wp] at specified
  cases gave : closeFifo env user amount exitPrice store with
  | ok pnl after =>
    rw [gave] at specified
    rw [← specified.1] at spec
    exact ⟨pnl, after, gave, specified.1, spec.1, spec.2.1, spec.2.2, specified.2,
      fun fits => specified.2.trans fits.credited⟩
  | error reason after =>
    rw [gave] at specified
    exact specified.elim

/-- Closes of valid lots are exact, and two of them compose. -/
theorem closes_compose (signed : user ∈ env.auths) (priced : 0 < exitPrice)
    (accepted : exitPrice ≤ i128.high) (valid : ∀ lot ∈ store.fifoLots user, lot.Valid) :
    (∀ amount, 0 < amount → amount ≤ i128.high → amount ≤ lotTotal (store.fifoLots user) →
      ClosesExactly env user exitPrice store amount) ∧
    ∀ first second, 0 < first → 0 < second → first + second ≤ i128.high →
      first + second ≤ lotTotal (store.fifoLots user) →
        ClosesCompose env user exitPrice store first second := by
  refine ⟨fun _ => closesExactly signed priced accepted valid,
    fun first second some more held enough => ?_⟩
  obtain ⟨gained, middle, gave, left, remaining, _, kept, adds, gain⟩ :=
    closesExactly signed priced accepted valid some (by omega) (by omega)
  obtain ⟨again, after, returnedAgain, leftAgain, _, _, _, addsAgain, gainAgain⟩ :=
    closesExactly signed priced accepted kept more (by omega) (by omega)
  obtain ⟨both, whole, wholly, leftWhole, _, _, _, addsBoth, gainBoth⟩ :=
    closesExactly signed priced accepted valid (Int.add_pos some more) held enough
  refine ⟨gained, middle, again, after, both, whole, gave, returnedAgain, wholly, ?_, ?_, ?_⟩
  · rw [leftAgain, left, leftWhole]
    exact lotsLeft_lotsLeft (fun lot mem => (valid lot mem).filled) some.le more.le
  · intro fits fitsAgain fitsBoth
    rw [gain fits, gainAgain fitsAgain, gainBoth fitsBoth, left]
    exact gains_parts valid some.le more
  · intro unsplit fits fitsAgain fitsBoth
    rw [adds, addsAgain, addsBoth, credited_of_fits fits, credited_of_fits fitsAgain,
      credited_of_fits fitsBoth, lotsTaken_whole some.le more.le unsplit, left, map_append,
      sum_append]

end Closes

def oneLot (entryPrice amount : Int) : PortfolioStore :=
  { PortfolioStore.blank with
    userFifoLots := AList.insert (β := fun _ => List CostLot) 1 [⟨entryPrice, amount⟩] ∅ }

/-- Two units bought at two compose when sold one by one. -/
theorem twoUnits_compose : ClosesCompose (.at 0 0 [1]) 1 3 (oneLot 2 2) 1 1 :=
  (closes_compose (by decide) (by decide) (by decide) fun lot mem => by
    obtain rfl : lot = ⟨2, 2⟩ := List.mem_singleton.mp mem
    exact ⟨by decide, by decide, by decide, by decide⟩).2
      1 1 (by decide) (by decide) (by decide) (by decide)

/-- Two units sold one by one gain a whole unit less, and a product past the largest amount gains
nothing. -/
theorem halves_lose_unit : (∃ gained middle more after both whole,
      closeFifo (.at 0 0 [1]) 1 1 3 (oneLot 2 2) = .ok gained middle ∧
      closeFifo (.at 0 0 [1]) 1 1 3 middle = .ok more after ∧
      closeFifo (.at 0 0 [1]) 1 2 3 (oneLot 2 2) = .ok both whole ∧
      ¬ (gained + more - both).natAbs < 1) ∧
    ∃ pnl after, closeFifo (.at 0 0 [1]) 1 i128.high 3 (oneLot 1 i128.high) = .ok pnl after ∧
      pnl ≠ gains 3 (lotsTaken i128.high [⟨1, i128.high⟩]) :=
  ⟨⟨0, _, 0, _, 1, _, rfl, rfl, rfl, by decide⟩, 0, _, rfl, by decide⟩

end StellarSwipe.UserPortfolio
