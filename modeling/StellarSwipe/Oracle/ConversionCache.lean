import Mathlib.Algebra.Order.BigOperators.GroupWithZero.List
import Mathlib.Algebra.Order.Ring.Int
import StellarSwipe.Oracle.Conversion

/-!
# The cache of conversion rates

A cached rate answers for every amount, and a conversion rounds at each of its hops.
-/

namespace StellarSwipe.Oracle

open FixedWidth Program Runs Table Range ConversionStore Option

namespace ConversionStore

variable (store : ConversionStore) (asset : Asset)

/-- The prices of the hops along a path. -/
def pathPrices : List Asset → Option (List Int)
  | current :: next :: rest => do
    let price ← (store.normalizedPrice ⟨current, next⟩).toOption
    let prices ← pathPrices (next :: rest)
    some (price :: prices)
  | _ => some []

/-- The prices of the hops that an asset takes to the base currency. The base currency takes
none, an asset with a price takes one, any other those of its path. -/
def hopPrices : Option (List Int) :=
  if asset = store.base then some []
  else
    match store.normalizedPrice ⟨asset, store.base⟩ with
    | .ok price => some [price]
    | .error _ => do
      let path ← (store.findConversionPath asset store.base).toOption
      store.pathPrices path.assets

/-- What the contract keeps: prices are positive. -/
def Positive : Prop := ∀ pair price, store.feeds.lookup pair = some price → 0 < price

end ConversionStore

/-- The price of an asset in the base currency, by the prices of its hops. -/
def unitPrice (prices : List Int) : Int := 10000000 * prices.prod / 10000000 ^ prices.length

/-- The hops multiply to a whole price. -/
def WholePrice (prices : List Int) : Prop :=
  (10000000 : Int) ^ prices.length ∣ 10000000 * prices.prod
deriving Decidable

/-- The amount passes the hops within the type, and reaches the last one whole. -/
def PassesWhole (amount : Int) : List Int → Prop
  | [] => True
  | [last] => i128.Holds (amount * last)
  | first :: second :: rest => 10000000 ∣ amount * first ∧ i128.Holds (amount * first) ∧
    PassesWhole (amount * first / 10000000) (second :: rest)

instance (prices : List Int) (amount : Int) : Decidable (PassesWhole amount prices) := by
  induction prices generalizing amount with
  | nil => exact .isTrue trivial
  | cons first rest ih =>
    cases rest with
    | nil => exact inferInstanceAs (Decidable (i128.Holds _))
    | cons second rest =>
      have := ih (amount * first / 10000000)
      exact inferInstanceAs (Decidable (_ ∧ _ ∧ PassesWhole _ (second :: rest)))

/-- An amount that nothing is cached from unless it converts without a remainder: the whole units
it converts to are all that it is worth, or are worth less than one unit each. -/
def RatesWhole (amount price : Int) : Prop :=
  10000000 ∣ amount * price ∨ amount * price / 10000000 * 10000000 < amount
deriving Decidable

theorem pow10_pos {exponent : Nat} {factor : Int} (hit : pow10 exponent = some factor) :
    0 < factor := by
  induction exponent generalizing factor with
  | zero => exact Option.some.inj hit ▸ Int.one_pos
  | succ exponent ih =>
    obtain ⟨smaller, prior, multiplied⟩ := Option.bind_eq_some_iff.mp hit
    obtain ⟨_, rfl⟩ := i128.checked_ok multiplied
    exact Int.mul_pos (ih prior) (by decide)

theorem normalizeAmount_nonneg {amount normalized : Int} {fromDecimals toDecimals : Nat}
    (nonneg : 0 ≤ amount) (hit : normalizeAmount amount fromDecimals toDecimals = some normalized) :
    0 ≤ normalized := by
  unfold normalizeAmount at hit
  split at hit
  next => exact Option.some.inj hit ▸ nonneg
  next =>
    split at hit
    next =>
      obtain ⟨factor, power, multiplied⟩ := Option.bind_eq_some_iff.mp hit
      obtain ⟨_, rfl⟩ := i128.checked_ok multiplied
      exact Int.mul_nonneg nonneg (pow10_pos power).le
    next =>
      obtain ⟨factor, power, rfl⟩ := Option.map_eq_some_iff.mp hit
      exact Int.tdiv_nonneg nonneg (pow10_pos power).le

/-- Dividing after a whole quotient is dividing once. -/
theorem mul_ediv_of_dvd {amount first : Int} (whole : 10000000 ∣ amount * first) (rest scale : Int) :
    amount * first / 10000000 * rest / scale = amount * (first * rest) / (10000000 * scale) := by
  obtain ⟨carried, exact⟩ := whole
  rw [← Int.mul_assoc, exact, Int.mul_ediv_cancel_left _ (by decide), Int.mul_assoc 10000000,
    Int.mul_ediv_mul_of_pos _ _ (by decide)]

/-- What the hops make of an amount is what the price of a unit makes of it. -/
theorem unitPrice_converts {prices : List Int} (whole : WholePrice prices) (amount : Int) :
    amount * prices.prod / 10000000 ^ prices.length = amount * unitPrice prices / 10000000 := by
  obtain ⟨price, exact⟩ := whole
  have power : (0 : Int) < 10000000 ^ prices.length := Int.pow_pos (by decide)
  have unit : unitPrice prices = price := by
    rw [unitPrice, exact, Int.mul_ediv_cancel_left _ power.ne']
  have scaled : amount * prices.prod * 10000000 = amount * price * 10000000 ^ prices.length := by
    rw [Int.mul_assoc, Int.mul_comm prices.prod, exact, Int.mul_comm _ price, Int.mul_assoc]
  rw [unit, ← Int.mul_ediv_mul_of_pos_left _ _ (by decide : (0 : Int) < 10000000), scaled,
    Int.mul_comm _ (10000000 : Int), Int.mul_ediv_mul_of_pos_left _ _ power]

namespace ConversionStore

variable {store : ConversionStore} {amount : Int} {asset : Asset}

@[simp] theorem normalize_product (product : Int) :
    normalizeAmount product 14 7 = some (product.tdiv 10000000) := by
  have scale : pow10 7 = some 10000000 := by decide
  simp only [normalizeAmount, show ¬ (14 : Nat) = 7 by decide, show ¬ (14 : Nat) < 7 by decide,
    if_false, show 14 - 7 = 7 by decide, scale, map_some]

theorem Positive.normalizedPrice_nonneg (pos : store.Positive) {pair : AssetPair}
    {price : Int} (hit : store.normalizedPrice pair = .ok price) : 0 ≤ price := by
  unfold normalizedPrice at hit
  obtain ⟨rawPrice, has, rescaled⟩ := bind_ok hit
  cases feed : store.feeds.lookup pair with
  | none =>
    rw [feed] at has
    cases has
  | some known =>
    rw [feed] at has
    cases has
    cases fits : rescalePrice rawPrice ((store.feedDecimals.lookup pair).getD 7) 7 with
    | none =>
      simp only [fits] at rescaled
      cases rescaled
    | some normalized =>
      simp only [fits] at rescaled
      cases rescaled
      exact normalizeAmount_nonneg (pos pair rawPrice feed).le fits

theorem convertDirect_exact (pos : store.Positive) (nonneg : 0 ≤ amount)
    {source target : Asset} {price : Int}
    (priced : store.normalizedPrice ⟨source, target⟩ = .ok price)
    (fits : i128.Holds (amount * price)) :
    store.convertDirect amount source target = .ok (amount * price / 10000000) := by
  have product := Int.mul_nonneg nonneg (pos.normalizedPrice_nonneg priced)
  simp only [convertDirect, priced, checkedMul, checked, fits, if_true, normalize_product,
    tdiv_eq_floor product, elim_some, bind, Except.bind]

theorem convertDirect_unpriced {source target : Asset} {reason : ConversionError}
    (unpriced : store.normalizedPrice ⟨source, target⟩ = .error reason) :
    store.convertDirect amount source target = .error reason := by
  simp only [convertDirect, unpriced, bind, Except.bind]

/-- An amount that passes a path whole is converted by its prices at once. The induction is on
the path. -/
theorem convertAlong_exact (pos : store.Positive) {path : List Asset} {prices : List Int}
    (priced : store.pathPrices path = some prices) (nonneg : 0 ≤ amount)
    (passes : PassesWhole amount prices) :
    store.convertAlong amount path = .ok (amount * prices.prod / 10000000 ^ prices.length) := by
  induction path generalizing amount prices with
  | nil =>
    cases priced
    simp [convertAlong]
  | cons current rest ih =>
    cases rest with
    | nil =>
      cases priced
      simp [convertAlong]
    | cons next rest =>
      obtain ⟨price, hit, priced⟩ := bind_eq_some_iff.mp priced
      obtain ⟨others, along, ends⟩ := bind_eq_some_iff.mp priced
      cases ends
      have hit : store.normalizedPrice ⟨current, next⟩ = .ok price := by
        cases read : store.normalizedPrice ⟨current, next⟩ <;> simp_all [Except.toOption]
      have sign := pos.normalizedPrice_nonneg hit
      cases others with
      | nil =>
        have direct := convertDirect_exact pos nonneg hit passes
        have onward := @ih (amount * price / 10000000) [] along
          (Int.ediv_nonneg (Int.mul_nonneg nonneg sign) (by decide)) trivial
        simp only [convertAlong, direct, bind, Except.bind]
        simpa using onward
      | cons second others =>
        obtain ⟨whole, fits, later⟩ := passes
        have direct := convertDirect_exact pos nonneg hit fits
        have onward := ih along (Int.ediv_nonneg (Int.mul_nonneg nonneg sign) (by decide)) later
        simp only [convertAlong, direct, bind, Except.bind]
        rw [onward, mul_ediv_of_dvd whole, ← pow_succ', ← List.prod_cons]
        rfl

/-- A path with a hop that has no price converts nothing. -/
theorem convertAlong_unpriced {path : List Asset} (unpriced : store.pathPrices path = none) :
    ∃ reason, store.convertAlong amount path = .error reason := by
  induction path generalizing amount with
  | nil => cases unpriced
  | cons current rest ih =>
    cases rest with
    | nil => cases unpriced
    | cons next rest =>
      simp only [convertAlong]
      cases direct : store.convertDirect amount current next with
      | error reason => exact ⟨reason, rfl⟩
      | ok converted =>
        refine ih ?_
        cases read : store.normalizedPrice ⟨current, next⟩ with
        | error reason =>
          rw [convertDirect_unpriced read] at direct
          cases direct
        | ok price =>
          cases along : store.pathPrices (next :: rest) with
          | none => rfl
          | some prices => simp [pathPrices, read, along, Except.toOption] at unpriced

theorem convertToBase_exact (pos : store.Positive) {prices : List Int}
    (priced : store.hopPrices asset = some prices) (nonneg : 0 ≤ amount)
    (passes : PassesWhole amount prices) (whole : WholePrice prices) :
    store.convertToBase amount asset = .ok (amount * unitPrice prices / 10000000) := by
  rw [← unitPrice_converts whole]
  unfold hopPrices at priced
  unfold convertToBase
  split at priced
  next isBase =>
    cases priced
    simp [isBase]
  next other =>
    rw [if_neg other]
    split at priced
    next price hit =>
      cases priced
      rw [convertDirect_exact pos nonneg hit passes]
      simp
    next reason hit =>
      obtain ⟨path, searched, priced⟩ := bind_eq_some_iff.mp priced
      have searched : store.findConversionPath asset store.base = .ok path := by
        cases read : store.findConversionPath asset store.base <;>
          simp_all [Except.toOption]
      rw [convertDirect_unpriced hit]
      simp only [convertViaPath, searched, bind, Except.bind]
      exact convertAlong_exact pos priced nonneg passes

theorem convertToBase_unpriced (unpriced : store.hopPrices asset = none) :
    ∃ reason, store.convertToBase amount asset = .error reason := by
  unfold hopPrices at unpriced
  unfold convertToBase
  split at unpriced
  next => cases unpriced
  next other =>
    rw [if_neg other]
    split at unpriced
    next => cases unpriced
    next reason hit =>
      rw [convertDirect_unpriced hit]
      simp only [convertViaPath]
      cases searched : store.findConversionPath asset store.base with
      | error reason => exact ⟨reason, rfl⟩
      | ok path =>
        refine convertAlong_unpriced ?_
        simpa [searched, Except.toOption] using unpriced

end ConversionStore

def cachedAnswer (amount rate : Int) : Except ConversionError Int :=
  ((i128.checkedMul amount rate).bind (i128.checkedDiv · 10000000)).elim
    (.error .conversionOverflow) .ok

theorem cachedAnswer_eq {amount rate : Int} (nonneg : 0 ≤ amount * rate) :
    cachedAnswer amount rate = if i128.Holds (amount * rate) then .ok (amount * rate / 10000000)
      else .error .conversionOverflow := by
  unfold cachedAnswer checkedMul checked
  split
  next fits =>
    have held : i128.Holds (amount * rate / 10000000) := by
      obtain ⟨_, below⟩ := fits
      simp only [i128_high] at below
      simp only [Range.Holds, i128_low, i128_high]
      omega
    have divided : i128.checkedDiv (amount * rate) 10000000 =
        some (amount * rate / 10000000) := by
      simp only [checkedDiv, show ¬ (10000000 : Int) = 0 by decide, if_false,
        tdiv_eq_floor nonneg, checked, if_pos held]
    rw [bind_some, divided]
    rfl
  next => rfl

def keptRate (result amount : Int) : Int :=
  ((i128.checkedMul result 10000000).bind (i128.checkedDiv · amount)).getD 0

/-- The rate kept from an amount that converts without a remainder is the price. -/
theorem keptRate_exact {amount price : Int} (pos : 0 < amount) (nonneg : 0 ≤ price)
    (fits : i128.Holds (amount * price)) (whole : RatesWhole amount price)
    (rated : 0 < keptRate (amount * price / 10000000) amount) :
    keptRate (amount * price / 10000000) amount = price := by
  have product : 0 ≤ amount * price := Int.mul_nonneg pos.le nonneg
  have held : i128.Holds (amount * price / 10000000 * 10000000) := by
    simp only [Range.Holds, i128_low, i128_high] at fits ⊢
    omega
  have kept : keptRate (amount * price / 10000000) amount =
      (i128.checked (amount * price / 10000000 * 10000000 / amount)).getD 0 := by
    simp only [keptRate, checkedMul, checked, if_pos held, bind_some, checkedDiv,
      if_neg pos.ne', tdiv_eq_floor (show 0 ≤ amount * price / 10000000 * 10000000 by omega)]
  rcases whole with whole | worthless
  · have priced : i128.Holds price := by
      have below : price ≤ amount * price := le_mul_of_one_le_left nonneg pos
      simp only [Range.Holds, i128_low, i128_high] at fits ⊢
      omega
    rw [kept, Int.ediv_mul_cancel whole, Int.mul_ediv_cancel_left _ pos.ne', checked,
      if_pos priced, getD_some]
  · rw [kept, Int.ediv_eq_zero_of_lt (by omega) worthless] at rated
    exact absurd rated (by decide)

/-- What a caller of the contract receives. -/
def conversionAnswer (env : Env) (amount : Int) (asset : Asset) (store : ConversionStore) :
    Except (Fault ConversionError) Int :=
  match convertToBase env amount asset store with
  | .ok value _ => .ok value
  | .error reason _ => .error reason

/-- A live rate answers, or else the uncached conversion. -/
def ConversionStore.reply (store : ConversionStore) (now : Nat) (amount : Int)
    (asset : Asset) : Except ConversionError Int :=
  (store.cachedConversion now asset store.base).elim (store.convertToBase amount asset)
    (cachedAnswer amount ·.rate)

theorem convertToBase_spec (env : Env) (amount : Int) (asset : Asset)
    (store : ConversionStore) : wp (convertToBase env amount asset)
      (fun value after => store.reply env.timestamp amount asset = .ok value ∧
        (after = store ∨ store.cachedConversion env.timestamp asset store.base = none ∧
          0 < amount ∧ ∃ result, store.convertToBase amount asset = .ok result ∧
            0 < keptRate result amount ∧ after =
              store.cacheConversion env.timestamp (keptRate result amount) asset store.base))
      (fun reason _ => ∃ error, reason = .error error ∧
        store.reply env.timestamp amount asset = .error error) store := by
  unfold convertToBase reply
  simp only [wp_rules]
  cases store.cachedConversion env.timestamp asset store.base with
  | some cached =>
    simp only [wp_orFail, elim_some, cachedAnswer]
    refine ⟨fun hit answered => ⟨?_, Or.inl trivial⟩, fun failed => ⟨_, rfl, ?_⟩⟩
    · rw [answered]
      rfl
    · rw [failed]
      rfl
  | none =>
    simp only [wp_rules, elim_none]
    refine ⟨fun result converted => ?_, fun reason rejected => ⟨reason, rfl, rejected⟩⟩
    simp only [wp_ite, wp_rules]
    exact ⟨fun pos => ⟨fun rated =>
        ⟨converted, Or.inr ⟨trivial, pos, result, converted, rated, rfl⟩⟩,
      fun _ => ⟨converted, Or.inl trivial⟩⟩, fun _ => ⟨converted, Or.inl trivial⟩⟩

theorem mapError_error_inj {ε α : Type} {left right : Except ε α} :
    left.mapError Fault.error = right.mapError Fault.error ↔ left = right := by
  cases left <;> cases right <;> simp [Except.mapError]

theorem conversionAnswer_eq (env : Env) (amount : Int) (asset : Asset)
    (store : ConversionStore) : conversionAnswer env amount asset store =
      (store.reply env.timestamp amount asset).mapError .error := by
  have specified := convertToBase_spec env amount asset store
  unfold conversionAnswer
  cases ran : convertToBase env amount asset store with
  | ok value after =>
    rw [(wp_ok specified ran).1]
    rfl
  | error reason after =>
    obtain ⟨error, rfl, rejected⟩ := wp_error specified ran
    rw [rejected]
    rfl

namespace ConversionStore

variable {store other : ConversionStore} {amount : Int} {asset : Asset}

def SamePrices (store other : ConversionStore) : Prop :=
  ∃ cache, other = { store with conversionCache := cache }

theorem SamePrices.base (same : store.SamePrices other) : other.base = store.base := by
  obtain ⟨_, rfl⟩ := same
  rfl

theorem SamePrices.recached (same : store.SamePrices other)
    (cache : Table (Asset × Asset) CachedConversion) :
    store.SamePrices { other with conversionCache := cache } := by
  obtain ⟨_, rfl⟩ := same
  exact ⟨cache, rfl⟩

theorem SamePrices.convertAlong (same : store.SamePrices other) (path : List Asset) :
    other.convertAlong amount path = store.convertAlong amount path := by
  obtain ⟨cache, rfl⟩ := same
  induction path generalizing amount with
  | nil => rfl
  | cons current rest ih =>
    cases rest with
    | nil => rfl
    | cons next rest =>
      simp only [convertAlong, ih]
      rfl

theorem SamePrices.convertToBase (same : store.SamePrices other) :
    other.convertToBase amount asset = store.convertToBase amount asset := by
  have along := @SamePrices.convertAlong store other amount same
  obtain ⟨cache, rfl⟩ := same
  simp only [ConversionStore.convertToBase, convertViaPath, along]
  rfl

theorem SamePrices.hopPrices (same : store.SamePrices other) :
    other.hopPrices asset = store.hopPrices asset := by
  have along (path : List Asset) : other.pathPrices path = store.pathPrices path := by
    obtain ⟨cache, rfl⟩ := same
    induction path with
    | nil => rfl
    | cons current rest ih =>
      cases rest with
      | nil => rfl
      | cons next rest =>
        simp only [pathPrices, ih]
        rfl
  obtain ⟨cache, rfl⟩ := same
  simp only [ConversionStore.hopPrices, along]
  rfl

def RatesExact (prices store : ConversionStore) : Prop :=
  ∀ asset cached, store.conversionCache.lookup (asset, prices.base) = some cached →
    ∃ hops ∈ prices.hopPrices asset, WholePrice hops ∧ cached.rate = unitPrice hops

end ConversionStore

namespace ConversionTransition

variable (prices : ConversionStore) (taken : ConversionTransition)

/-- The call returned what the uncached conversion of its amount returns at the given prices. -/
def Transparent : Prop :=
  match taken.input.call with
  | .converts amount asset =>
    conversionAnswer (taken.pre.env taken.input.arrival) amount asset taken.pre.store =
      (prices.convertToBase amount asset).mapError .error
  | .drops _ _ => True

/-- A call on an asset with a price takes whole amounts to the last hop. One that is not answered
from the cache also converts without a remainder, or to too little to be cached. -/
def ConvertsWhole : Prop :=
  match taken.input.call with
  | .converts amount asset => ∀ hops ∈ taken.pre.store.hopPrices asset,
    WholePrice hops ∧ PassesWhole amount hops ∧ i128.Holds (amount * unitPrice hops) ∧
      (taken.pre.store.cachedConversion
          (taken.pre.timestamp + taken.input.arrival.seconds) asset taken.pre.store.base =
          none → RatesWhole amount (unitPrice hops))
  | .drops _ _ => True

instance : Decidable (taken.Transparent prices) := by
  unfold Transparent
  refine taken.input.call.casesOn ?_ ?_ <;> intros <;> infer_instance

end ConversionTransition

def ConversionInput.NonNegative (input : ConversionInput) : Prop :=
  match input.call with
  | .converts amount _ => 0 ≤ amount.val
  | .drops _ _ => True

instance (input : ConversionInput) : Decidable input.NonNegative := by
  unfold ConversionInput.NonNegative
  refine input.call.casesOn ?_ ?_ <;> intros <;> infer_instance

section Steps

variable {prices : ConversionStore} {ledger : Ledger ConversionStore} {input : ConversionInput}

/-- The contract keeps the positive prices that it started from, and exact rates. -/
structure RatesKept (prices store : ConversionStore) : Prop where
  pos : prices.Positive
  same : prices.SamePrices store
  rates : prices.RatesExact store

theorem unitPrice_nonneg {store : ConversionStore} (pos : store.Positive) {asset : Asset}
    {hops : List Int} (priced : store.hopPrices asset = some hops) : 0 ≤ unitPrice hops := by
  have along {path : List Asset} {hops : List Int} (priced : store.pathPrices path = some hops) :
      ∀ price ∈ hops, 0 ≤ price := by
    induction path generalizing hops with
    | nil =>
      cases priced
      simp
    | cons current rest ih =>
      cases rest with
      | nil =>
        cases priced
        simp
      | cons next rest =>
        obtain ⟨price, hit, priced⟩ := bind_eq_some_iff.mp priced
        obtain ⟨others, later, ends⟩ := bind_eq_some_iff.mp priced
        cases ends
        refine List.forall_mem_cons.mpr ⟨?_, ih later⟩
        cases read : store.normalizedPrice ⟨current, next⟩ with
        | error reason => simp [read, Except.toOption] at hit
        | ok known =>
          simp only [read, Except.toOption, Option.some.injEq] at hit
          exact hit ▸ pos.normalizedPrice_nonneg read
  have nonneg : ∀ price ∈ hops, 0 ≤ price := by
    unfold ConversionStore.hopPrices at priced
    split at priced
    next =>
      cases priced
      simp
    next =>
      split at priced
      next price hit =>
        cases priced
        simpa using pos.normalizedPrice_nonneg hit
      next =>
        obtain ⟨path, _, priced⟩ := bind_eq_some_iff.mp priced
        exact along priced
  exact Int.ediv_nonneg (Int.mul_nonneg (by decide) (List.prod_nonneg nonneg))
    (Int.pow_nonneg (by decide))

theorem RatesKept.step (kept : RatesKept prices ledger.store)
    (whole : ConversionTransition.ConvertsWhole ⟨ledger, input, conversionStep input ledger⟩) :
    RatesKept prices (conversionStep input ledger).store := by
  refine invoke_rule ?_
  unfold ConversionTransition.ConvertsWhole at whole
  cases called : input.call with
  | converts amount asset =>
    simp only [ConversionCall.run, wp_rules]
    refine wp_mono (convertToBase_spec _ _ _ _) ?_ fun _ _ _ => kept
    rintro value after ⟨_, rfl | ⟨cold, pos, result, converted, rated, rfl⟩⟩
    · exact kept
    · refine ⟨kept.pos, kept.same.recached _, fun other cached hit => ?_⟩
      rw [cacheConversion, lookup_insert, kept.same.base] at hit
      split at hit
      next key =>
        obtain ⟨rfl, _⟩ := Prod.mk.inj key
        cases hit
        rw [kept.same.convertToBase] at converted
        simp only [called, kept.same.hopPrices, Ledger.env_timestamp] at whole cold
        cases priced : prices.hopPrices other with
        | none =>
          obtain ⟨reason, failed⟩ := convertToBase_unpriced priced
          rw [failed] at converted
          cases converted
        | some hops =>
          obtain ⟨price, passes, fits, fills⟩ := whole hops priced
          cases (convertToBase_exact kept.pos priced pos.le passes price).symm.trans
            converted
          exact ⟨hops, rfl, price, keptRate_exact pos (unitPrice_nonneg kept.pos priced)
            fits (fills cold) rated⟩
      next => exact kept.rates other cached hit
  | drops source target =>
    simp only [ConversionCall.run, dropEntry, wp_modify]
    refine ⟨kept.pos, kept.same.recached _, fun asset cached hit => ?_⟩
    rw [lookup_erase] at hit
    split at hit
    next => cases hit
    next => exact kept.rates asset cached hit

theorem RatesKept.transparent (kept : RatesKept prices ledger.store) (nonneg : input.NonNegative)
    (whole : ConversionTransition.ConvertsWhole ⟨ledger, input, conversionStep input ledger⟩) :
    ConversionTransition.Transparent prices ⟨ledger, input, conversionStep input ledger⟩ := by
  unfold ConversionTransition.Transparent
  unfold ConversionTransition.ConvertsWhole at whole
  unfold ConversionInput.NonNegative at nonneg
  cases called : input.call with
  | drops source target => trivial
  | converts amount asset =>
    simp only [called, kept.same.hopPrices] at nonneg whole ⊢
    rw [conversionAnswer_eq, reply, Ledger.env_timestamp, kept.same.convertToBase]
    cases live : ledger.store.cachedConversion
      (ledger.timestamp + input.arrival.seconds) asset ledger.store.base with
    | none => rfl
    | some cached =>
      obtain ⟨hops, priced, price, rate⟩ :=
        kept.rates asset cached (kept.same.base ▸ eq_some_of_filter_eq_some live)
      obtain ⟨_, passes, fits, _⟩ := whole hops priced
      have product := Int.mul_nonneg nonneg (unitPrice_nonneg kept.pos priced)
      rw [elim_some, rate, cachedAnswer_eq product, if_pos fits,
        convertToBase_exact kept.pos priced nonneg passes price]

end Steps

/-- While prices stay, the cache is transparent in every run whose amounts reach their last hop
whole and whose rates come from amounts that convert without a remainder. -/
theorem conversion_cache_transparent (ledger : Ledger ConversionStore)
    (pos : ledger.store.Positive) (exact : ledger.store.RatesExact ledger.store)
    (inputs : List ConversionInput) (nonneg : ∀ input ∈ inputs, input.NonNegative)
    (whole : ∀ taken ∈ trace conversionStep ledger inputs,
      ConversionTransition.ConvertsWhole taken) :
    ∀ taken ∈ trace conversionStep ledger inputs,
      ConversionTransition.Transparent ledger.store taken := by
  intro taken mem
  have allowed : ∀ other ∈ trace conversionStep ledger inputs,
      other.input.NonNegative ∧ ConversionTransition.ConvertsWhole
        ⟨other.pre, other.input, conversionStep other.input other.pre⟩ := by
    intro other inside
    have stepped := transition_is_step conversionStep ledger inputs other inside
    exact ⟨nonneg other.input (input_mem conversionStep inside), stepped ▸ whole other inside⟩
  have kept := (transition_invariant conversionStep
    (fun reached => RatesKept ledger.store reached.store) (fun state input =>
      input.NonNegative ∧ ConversionTransition.ConvertsWhole
        ⟨state, input, conversionStep input state⟩)
    (fun _ _ both kept => kept.step both.2) ledger ⟨pos, ⟨_, rfl⟩, exact⟩ inputs allowed
    taken mem).1
  have stepped := transition_is_step conversionStep ledger inputs taken mem
  have answered := kept.transparent (allowed taken mem).1 (allowed taken mem).2
  rwa [← stepped] at answered

def pricedUsdc : ConversionStore where
  baseCurrency := none
  feeds := (∅ : Table AssetPair Int).insert ⟨⟨"USDC", some 5⟩, ⟨"XLM", none⟩⟩ 19999999
  feedDecimals := ∅
  pairsList := []
  conversionCache := ∅

/-- Amounts of USDC to convert, a second apart. -/
def usdcConversions (amounts : List Nat) : List ConversionInput :=
  amounts.map fun amount => ⟨⟨1, 1, []⟩, .converts (amountOf amount) ⟨"USDC", some 5⟩⟩

theorem pricedUsdc_positive : pricedUsdc.Positive := by
  intro pair price hit
  rw [pricedUsdc, lookup_insert] at hit
  split at hit
  next => exact Option.some.inj hit ▸ (by decide)
  next => cases hit

theorem pricedUsdc_cold : pricedUsdc.RatesExact pricedUsdc := fun _ _ hit => by cases hit

/-- A caller who converts one unit makes the rate lose all of its decimals. -/
theorem small_amount_spoils_rate : ¬ ∀ (ledger : Ledger ConversionStore), ledger.store.Positive →
      ledger.store.RatesExact ledger.store →
      ∀ inputs : List ConversionInput, (∀ input ∈ inputs, input.NonNegative) →
        ∀ taken ∈ trace conversionStep ledger inputs,
          ConversionTransition.Transparent ledger.store taken := by
  intro every
  have nonneg : ∀ input ∈ usdcConversions [1, 10000000], input.NonNegative := by decide +kernel
  exact absurd (every ⟨pricedUsdc, 1000, 10⟩ pricedUsdc_positive pricedUsdc_cold _ nonneg)
    (by decide +kernel)

instance (taken : ConversionTransition) : Decidable taken.ConvertsWhole := by
  unfold ConversionTransition.ConvertsWhole
  refine taken.input.call.casesOn ?_ ?_ <;> intros <;> infer_instance

/-- A first amount that converts without rounding keeps the price as the rate. -/
theorem whole_amount_keeps_rate : (trace conversionStep ⟨pricedUsdc, 1000, 10⟩
        (usdcConversions [10000000, 1, 12345678])).Forall
      (ConversionTransition.Transparent pricedUsdc) :=
  List.forall_iff_forall_mem.mpr <|
    conversion_cache_transparent ⟨pricedUsdc, 1000, 10⟩ pricedUsdc_positive pricedUsdc_cold _
      (by decide +kernel) (by decide +kernel)

end StellarSwipe.Oracle
