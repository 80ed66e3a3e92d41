import Mathlib.Data.List.MinMax
import StellarSwipe.FeeCollector.RebateCap
import StellarSwipe.FeeCollector.Solvency

/-!
# Whole fees and whole claims

A collected fee is the sum of what is burned, the referrer's part, the revenue pool's and what the
treasury is credited.
-/

namespace StellarSwipe.FeeCollector

open Program FixedWidth Runs World List Int

/-- Whatever has happened before, a collection splits its fee into parts that are not
negative and puts each of them where it belongs. -/
theorem fee_split_exact (self : Address) (tokens : Tokens)
    (pendingFees : Table (Address × Address) Int) (inputs : List Input) (env : Env) (feed : Feed)
    (trader token : Address) (tradeAmount : Int) (tradeAsset : Asset) {fee : Int} {after : World}
    (gave : collectFee env feed trader token tradeAmount tradeAsset
      (final step (deployed self tokens pendingFees) inputs) = .ok fee after) :
    ∃ parts : FeeParts, parts.Split fee ∧ parts.Paid trader token
      (final step (deployed self tokens pendingFees) inputs) after :=
  (wp_ok (collectFeeWithRecovery_pays feed (reached_sound self tokens pendingFees inputs) trader
    token tradeAmount tradeAsset) gave).2.2

def tradedOnce (referrer : Address) : List Input :=
  [⟨.at 0 0 [1], .silent, .setting (.initializeCollector 1)⟩,
    ⟨.at 0 0 [1], .silent, .setting (.setOracleContract 8)⟩,
    ⟨.at 0 0 [1], .silent, .setting (.setReferralFeeShare 1 1000)⟩,
    ⟨.at 0 0 [5], .silent, .setting (.registerReferral referrer 5)⟩,
    ⟨.at 0 0 [5], .par, .collectFee 5 7 1000 ⟨"XLM", none⟩⟩]

def nextTrade : FeeProgram Int := collectFee (.at 0 0 [5]) .par 5 7 100000 ⟨"XLM", none⟩

/-- A fee is split between the burn, referrer 6, the pool and the treasury. -/
theorem referred_trade_split :
    let world := final step (deployed 9 millions ∅) (tradedOnce 6)
    ∃ fee after, nextTrade world = .ok fee after ∧
      ∃ parts : FeeParts, parts.Split fee ∧ parts.Paid 5 7 world after := by
  intro world
  obtain ⟨fee, gave⟩ := gave_of_accepts
    (by decide : Accepts nextTrade world)
  exact ⟨fee, _, gave, fee_split_exact 9 millions ∅ (tradedOnce 6) (.at 0 0 [5]) .par 5 7 100000
    ⟨"XLM", none⟩ gave⟩

/-- The referrer is the collector itself: its share stays in the balance, but it is neither
in the treasury nor in the pool. -/
theorem own_referral_unaccounted : ¬ ∀ (self : Address) (tokens : Tokens)
    (pendingFees : Table (Address × Address) Int) (inputs : List Input) (env : Env) (feed : Feed)
    (trader token : Address) (tradeAmount : Int) (tradeAsset : Asset) (fee : Int) (after : World),
      collectFee env feed trader token tradeAmount tradeAsset
        (final step (deployed self tokens pendingFees) inputs) = .ok fee after →
      ∃ parts : FeeParts, parts.Split fee ∧
        after.store.accounts.treasury.read token = (final step (deployed self tokens
          pendingFees) inputs).store.accounts.treasury.read token + parts.credit ∧
        after.store.accounts.revenueSharePool.read token = (final step (deployed self tokens
          pendingFees) inputs).store.accounts.revenueSharePool.read token + parts.revenue ∧
        after.tokens.balance token self = (final step (deployed self tokens
          pendingFees) inputs).tokens.balance token self + (parts.credit + parts.revenue) := by
  intro every
  obtain ⟨fee, gave⟩ := gave_of_accepts
    (by decide : Accepts nextTrade (final step (deployed 9 millions ∅) (tradedOnce 9)))
  obtain ⟨parts, _, treasury, pool, balance⟩ := every 9 millions ∅ (tradedOnce 9) (.at 0 0 [5]) .par
    5 7 100000 ⟨"XLM", none⟩ fee _ gave
  have gained : (invoke nextTrade (final step (deployed 9 millions ∅)
      (tradedOnce 9))).tokens.balance 7 9 = (final step (deployed 9 millions ∅)
      (tradedOnce 9)).tokens.balance 7 9 + 270 := by decide
  have credited : (invoke nextTrade (final step (deployed 9 millions ∅)
      (tradedOnce 9))).store.accounts.treasury.read 7 = (final step (deployed 9 millions ∅)
      (tradedOnce 9)).store.accounts.treasury.read 7 + 186 := by decide
  have pooled : (invoke nextTrade (final step (deployed 9 millions ∅)
      (tradedOnce 9))).store.accounts.revenueSharePool.read 7 = (final step (deployed 9
      millions ∅) (tradedOnce 9)).store.accounts.revenueSharePool.read 7 + 54 := by decide
  omega

def Accounts.headroom (accounts : Accounts) (token : Address) (day bps : Nat) : Int :=
  i128.saturatingSub (epochCap (accounts.dailyFeeTotal.read (token, day)) bps)
    (accounts.epochRebateDistributed.read (token, day))

/-- A claim pays an amount between nothing and the pending fees, and what it does not pay
stays pending. -/
def ClaimConserves (provider token : Address) (amount : Int) (pre after : World) : Prop :=
  0 ≤ amount ∧ amount ≤ pre.store.accounts.pendingFees.read (provider, token) ∧
    pre.store.accounts.pendingFees.read (provider, token) =
      amount + after.store.accounts.pendingFees.read (provider, token)

/-- A claim conserves the fees exactly when the cap of an epoch that has fees leaves room for
all that are pending. -/
theorem claim_conserves_iff (world : World) (env : Env) (feed : Feed) (provider token : Address)
    {amount : Int} {after : World}
    (gave : claimFees env feed provider token world = .ok amount after) :
    ClaimConserves provider token amount world after ↔
      0 ≤ world.store.accounts.pendingFees.read (provider, token) ∧
        (0 < world.store.accounts.pendingFees.read (provider, token) →
          0 < world.store.accounts.dailyFeeTotal.read (token, dayOf env.timestamp) →
          world.store.accounts.pendingFees.read (provider, token) ≤
            world.store.accounts.headroom token (dayOf env.timestamp)
              world.store.settings.getMaxRebateBps) := by
  obtain ⟨rfl, pending, _⟩ := wp_ok (claimFees_spec env feed world provider token) gave
  rw [ClaimConserves, pending, claimAmount, Accounts.claimable, ← Accounts.headroom]
  generalize world.store.accounts.pendingFees.read (provider, token) = requested
  generalize world.store.accounts.dailyFeeTotal.read (token, dayOf env.timestamp) = fees
  by_cases pos : 0 < requested
  · simp only [if_pos pos]
    by_cases capped : 0 < fees
    · simp only [if_pos capped]
      omega
    · simp only [if_neg capped]
      omega
  · simp only [if_neg pos]
    omega

/-- Provider 3 claims under the cap of the day's fee. -/
def firstClaim : FeeProgram Int := claimFees (.at 1 0 [3]) .par 3 7

def feeCollected (owed : Int) : World :=
  final step (deployed 9 millions ((∅ : Table (Address × Address) Int).insert (3, 7) owed))
    (tradedOnce 6 ++ [⟨.at 0 0 [5], .par, .collectFee 5 7 100000 ⟨"XLM", none⟩⟩])

theorem small_claim_conserves : ∃ amount after, firstClaim (feeCollected 5) = .ok amount after ∧
      ClaimConserves 3 7 amount (feeCollected 5) after := by
  obtain ⟨amount, gave⟩ := gave_of_accepts (by decide : Accepts firstClaim (feeCollected 5))
  exact ⟨amount, _, gave, (claim_conserves_iff (feeCollected 5) (.at 1 0 [3]) .par 3 7
    gave).mpr (by decide)⟩

/-- The cap of 240 binds: of the 250 that are owed, ten are neither paid nor pending. -/
theorem capped_claim_drops : ¬ ∀ (world : World) (env : Env) (feed : Feed)
    (provider token : Address) (amount : Int) (after : World),
      claimFees env feed provider token world = .ok amount after →
        ClaimConserves provider token amount world after := by
  intro every
  obtain ⟨amount, gave⟩ := gave_of_accepts
    (by decide : Accepts firstClaim (feeCollected 250))
  have conserves := every (feeCollected 250) (.at 1 0 [3]) .par 3 7 amount _ gave
  have paid : valueOr 0 firstClaim (feeCollected 250) = 240 := by decide
  obtain rfl : amount = 240 := (valueOr_of_ok gave).symm.trans paid
  exact absurd conserves.2.2 (by decide)

section Waterfall

/-- Tiers in the order of their priority numbers, those of one number as they are configured. -/
structure InPriorityOrder (ordered tiers : List WaterfallTier) : Prop where
  sorted : ordered.Pairwise (·.priority ≤ ·.priority)
  stable : ∀ number, ordered.filter (·.priority = number) = tiers.filter (·.priority = number)

/-- Each tier in turn is given its target, or what remains when that meets its minimum, or
nothing. -/
def greedyResults : List WaterfallTier → Int → List WaterfallTierResult
  | [], _ => []
  | tier :: rest, remaining =>
    let allocated := (tier.allocation remaining).getD 0
    ⟨tier.name, tier.recipient, tier.priority, allocated⟩ ::
      greedyResults rest (remaining - allocated)

def totalAllocated (results : List WaterfallTierResult) : Int :=
  (results.map (·.allocated)).sum

def receivedBy (holder : Address) (results : List WaterfallTierResult) : Int :=
  (results.map fun result => if result.recipient = holder then result.allocated else 0).sum

/-- Every recipient holds what its tiers are given, and the collector pays all of it. -/
def PaysTiers (token : Address) (results : List WaterfallTierResult) (pre after : World) : Prop :=
  ∀ asset holder, after.tokens.balance asset holder = pre.tokens.balance asset holder +
    if asset = token then
      receivedBy holder results - if holder = pre.self then totalAllocated results else 0
    else 0

theorem waterfallOrder_inOrder (tiers : List WaterfallTier) :
    InPriorityOrder (waterfallOrder tiers) tiers := by
  obtain ⟨sorted, kept⟩ := BubbleSort.settle_stable (fun index => (tiers.get index).priority)
    (List.finRange tiers.length)
  refine ⟨List.pairwise_map.mpr sorted, fun number => ?_⟩
  calc (waterfallOrder tiers).filter (·.priority = number)
      = ((List.finRange tiers.length).filter
          fun index => (tiers.get index).priority = number).map tiers.get := by
        rw [waterfallOrder, filter_map]
        exact congrArg _ (kept number)
    _ = tiers.filter (·.priority = number) := by
        have all : (List.finRange tiers.length).map tiers.get = tiers :=
          ext_getElem (by simp) (by simp)
        rw [← Function.comp_def (fun tier : WaterfallTier => decide (tier.priority = number)),
          ← filter_map, all]

/-- What the tiers are given comes out of what there is. The induction is on the tiers. -/
theorem greedyResults_within (tiers : List WaterfallTier) {remaining : Int}
    (nonneg : 0 ≤ remaining) : totalAllocated (greedyResults tiers remaining) ≤ remaining := by
  induction tiers generalizing remaining with
  | nil => exact nonneg
  | cons tier rest ih =>
    simp only [greedyResults, totalAllocated, map_cons, sum_cons] at ih ⊢
    have given : (tier.allocation remaining).getD 0 ≤ remaining := by
      rw [WaterfallTier.allocation]
      split
      · assumption
      · split
        · exact le_refl remaining
        · exact nonneg
    have later := ih (sub_nonneg.mpr given)
    omega

variable {env : Env} {token : Address} {pre : World}

/-- The collector funds tiers greedily and pays them. The induction is on the tiers. -/
theorem fundTiers_greedy (tiers : List WaterfallTier) (remaining distributed : Int) :
    wlp (fundTiers env token tiers remaining distributed)
      (fun outcome after => (after.self = pre.self ∧ after.store = pre.store ∧
        PaysTiers token (greedyResults tiers remaining) pre after) ∧
        outcome.1 = greedyResults tiers remaining ∧
        outcome.2 = distributed + totalAllocated (greedyResults tiers remaining)) pre := by
  induction tiers generalizing pre remaining distributed with
  | nil =>
    refine ⟨⟨rfl, rfl, fun asset holder => ?_⟩, rfl, (add_zero _).symm⟩
    simp [greedyResults, receivedBy, totalAllocated]
  | cons tier rest ih =>
    simp only [fundTiers, greedyResults, totalAllocated, map_cons, sum_cons] at ih ⊢
    cases tier.allocation remaining with
    | none =>
      simp only [wp_rules, Option.getD_none, sub_zero, zero_add]
      refine wp_then (ih remaining distributed) fun outcome after kept => ?_
      refine ⟨⟨kept.1.1, kept.1.2.1, fun asset holder => ?_⟩, congrArg _ kept.2.1, kept.2.2⟩
      rw [kept.1.2.2 asset holder]
      simp [receivedBy, totalAllocated]
    | some allocated =>
      simp only [wlp_rules, wp_transfer, Range.checkedSub, Range.checkedAdd,
        Range.checked_eq_some, Option.getD_some]
      rintro tokens transferred left ⟨_, rfl⟩ total ⟨_, rfl⟩
      obtain ⟨rfl, _⟩ := Tokens.transfer_ok transferred
      refine wp_then (ih (remaining - allocated) (distributed + allocated))
        fun outcome after kept => ?_
      rw [← add_assoc]
      refine ⟨⟨kept.1.1, kept.1.2.1, fun asset holder => ?_⟩, congrArg _ kept.2.1, kept.2.2⟩
      rw [kept.1.2.2 asset holder]
      simp only [setTokens, Tokens.moved_balance, receivedBy, totalAllocated, map_cons, sum_cons,
        @eq_comm _ holder tier.recipient]
      by_cases own : holder = pre.self <;> by_cases same : asset = token <;>
        simp only [own, same, and_true, and_false, true_and, false_and, if_true, if_false] <;> omega

/-- A distribution that returns is the greedy one over the tiers in stable priority order: every
tier's recipient is paid what the tier is given, at most the total is given out, and the treasury
falls by just that. -/
theorem distributeWaterfall_greedy (env : Env) (token : Address) (totalAmount : Int)
    (pre : World) : wlp (distributeWaterfall env token totalAmount) (fun results after =>
      ∃ tiers ordered, pre.store.settings.waterfallConfig = some tiers ∧
        InPriorityOrder ordered tiers ∧ results = greedyResults ordered totalAmount ∧
        PaysTiers token results pre after ∧ totalAllocated results ≤ totalAmount ∧
        ∀ other, after.store.accounts.treasury.read other = pre.store.accounts.treasury.read other -
            if other = token then totalAllocated results else 0) pre := by
  simp only [distributeWaterfall, requireAdmin, wlp_rules, wp_initialized,
    wp_notPaused, wp_getAdmin, wp_auth, Range.checkedSub, Range.checked_eq_some]
  intro _ _ _ _ _ pos tiers configured _
  refine wp_then (fundTiers_greedy (waterfallOrder tiers) totalAmount 0) ?_
  rintro ⟨results, total⟩ middle ⟨⟨_, same, paid⟩, rfl, rfl⟩ balance ⟨_, rfl⟩
  refine ⟨tiers, waterfallOrder tiers, configured, waterfallOrder_inOrder tiers, rfl, paid,
    greedyResults_within _ pos.le, fun other => ?_⟩
  rw [zero_add, same]
  show Table.read (pre.store.accounts.treasury.insert token _) other = _
  rw [Table.read_insert]
  split
  next here => rw [here]
  next => exact (sub_zero _).symm

end Waterfall

/-! ## Volatility bands

The fee for a volatility is meant to be that of the band with the highest threshold it reaches; the
scan keeps the last one reached, whatever the order of the bands.
-/

/-- A fee rate and the least volatility that activates it. -/
structure VolatilityBand where
  volatilityThresholdBps : Nat
  feeRateBps : Nat

/-- The bands, and the rate when none is reached. The setter stores whatever it is given. -/
structure VolatilityBandConfig where
  bands : List VolatilityBand
  baseFeeRateBps : Nat

/-- The volatility that the congestion signal tells, one where there is none. -/
def currentMultiplier (signal : Option CongestionSignal) : Nat :=
  (signal.map (·.multiplierBps)).getD 10000

def feeRateForCurrentVolatility (config : Option VolatilityBandConfig)
    (signal : Option CongestionSignal) : Option Nat :=
  config.map fun config => config.bands.foldl (fun selected band =>
    if band.volatilityThresholdBps ≤ currentMultiplier signal then band.feeRateBps else selected)
    config.baseFeeRateBps

variable (bands : List VolatilityBand) (volatility : Nat)

def reachedBands : List VolatilityBand :=
  bands.filter (·.volatilityThresholdBps ≤ volatility)

def HighestBand (band : VolatilityBand) : Prop :=
  band ∈ reachedBands bands volatility ∧ ∀ other ∈ reachedBands bands volatility,
    other.volatilityThresholdBps ≤ band.volatilityThresholdBps

/-- The scan selects the last of the bands that are reached. The induction is on the bands. -/
theorem scan_selects (selected : Nat) : bands.foldl (fun selected band =>
      if band.volatilityThresholdBps ≤ volatility then band.feeRateBps else selected) selected =
      (((reachedBands bands volatility).getLast?).map (·.feeRateBps)).getD selected := by
  induction bands generalizing selected with
  | nil => rfl
  | cons band rest ih =>
    rw [foldl_cons, ih, reachedBands, reachedBands, filter_cons]
    by_cases reached : band.volatilityThresholdBps ≤ volatility
    · simp [reached, List.getLast?_cons]
    · simp [reached]

/-- A band that comes after a higher one is overruled by a later band that is reached whenever the
higher one is, or has the rate of a band as high. -/
def Overruled (bands : List VolatilityBand) : Prop :=
  ∀ front low back, bands = front ++ low :: back → ∀ high ∈ front,
    low.volatilityThresholdBps < high.volatilityThresholdBps →
      (∃ later ∈ back, later.volatilityThresholdBps ≤ high.volatilityThresholdBps) ∨
        ∃ same ∈ bands, same.volatilityThresholdBps = high.volatilityThresholdBps ∧
          low.feeRateBps = same.feeRateBps

/-- In ascending order no band comes after a higher one. -/
theorem overruled_of_ascending {bands : List VolatilityBand} (ascending : bands.Pairwise
    fun first second => first.volatilityThresholdBps ≤ second.volatilityThresholdBps) :
    Overruled bands := by
  rintro front low back rfl high mem above
  exact absurd above (not_lt.mpr ((pairwise_append.mp ascending).2.2 high mem low
    mem_cons_self))

/-- The scan selects the rate of a band that is reached when none after it is. -/
theorem scan_last {front back : List VolatilityBand} {low : VolatilityBand} {volatility : Nat}
    (reached : low.volatilityThresholdBps ≤ volatility)
    (last : ∀ later ∈ back, ¬ later.volatilityThresholdBps ≤ volatility) (selected : Nat) :
    (front ++ low :: back).foldl (fun selected band =>
      if band.volatilityThresholdBps ≤ volatility then band.feeRateBps else selected) selected =
      low.feeRateBps := by
  have none : reachedBands back volatility = [] :=
    filter_eq_nil_iff.mpr fun later mem => by simpa using last later mem
  rw [scan_selects, reachedBands, filter_append, filter_cons, if_pos (by simpa using reached)]
  change (((_ ++ low :: reachedBands back volatility).getLast?).map _).getD _ = _
  simp [none]

/-- Some band that is reached is the last one. The induction is on the bands from the last one. -/
theorem exists_last_reached {bands : List VolatilityBand} {volatility : Nat}
    (filled : reachedBands bands volatility ≠ []) : ∃ front low back, bands = front ++ low :: back ∧
      low.volatilityThresholdBps ≤ volatility ∧
        ∀ later ∈ back, ¬ later.volatilityThresholdBps ≤ volatility := by
  induction bands using List.reverseRecOn with
  | nil => exact absurd rfl filled
  | append_singleton prior last ih =>
    by_cases reached : last.volatilityThresholdBps ≤ volatility
    · exact ⟨prior, last, [], rfl, reached, by simp⟩
    · obtain ⟨front, low, back, rfl, isReached, after⟩ :=
        ih (by simpa [reachedBands, filter_append, reached] using filled)
      refine ⟨front, low, back ++ [last], by simp, isReached, fun later mem => ?_⟩
      rcases mem_append.mp mem with inside | isLast
      · exact after later inside
      · exact mem_singleton.mp isLast ▸ reached

/-- Some band that is reached is highest. -/
theorem exists_highest {bands : List VolatilityBand} {volatility : Nat}
    (filled : reachedBands bands volatility ≠ []) : ∃ high, HighestBand bands volatility high := by
  obtain ⟨high, hit⟩ := Option.ne_none_iff_exists'.mp
    (mt argmax_eq_none.mp filled : argmax VolatilityBand.volatilityThresholdBps _ ≠ none)
  exact ⟨high, argmax_mem hit, fun other mem => le_of_mem_argmax mem hit⟩

/-- The scan charges the rate of the highest band reached, at every volatility, exactly when bands
that come after higher ones are overruled; where thresholds ascend they are. -/
theorem fee_of_highest_iff (config : VolatilityBandConfig) :
    ((∀ signal, reachedBands config.bands (currentMultiplier signal) ≠ [] →
      ∃ band, HighestBand config.bands (currentMultiplier signal) band ∧
        feeRateForCurrentVolatility (some config) signal = some band.feeRateBps) ↔
      Overruled config.bands) ∧ (config.bands.Pairwise (fun first second =>
      first.volatilityThresholdBps ≤ second.volatilityThresholdBps) → Overruled config.bands) := by
  refine ⟨⟨fun charges front low back split high mem above => ?_,
    fun overruled signal filled => ?_⟩, overruled_of_ascending⟩
  · -- At the threshold of the higher band, the lower one is charged unless a later one is reached.
    by_cases later : ∃ later ∈ back, later.volatilityThresholdBps ≤ high.volatilityThresholdBps
    · exact .inl later
    push Not at later
    have inside : high ∈ reachedBands config.bands high.volatilityThresholdBps := by
      simp [reachedBands, split, mem]
    obtain ⟨band, ⟨among, highest⟩, charged⟩ :=
      charges (some ⟨high.volatilityThresholdBps, 0⟩) (ne_nil_of_mem inside)
    obtain ⟨listed, reached⟩ := mem_filter.mp among
    refine .inr ⟨band, listed, le_antisymm (of_decide_eq_true reached) (highest high inside), ?_⟩
    rw [feeRateForCurrentVolatility, Option.map_some, split] at charged
    exact (scan_last above.le (fun band after => not_le.mpr (later band after)) _).symm.trans
      (Option.some.inj charged)
  · obtain ⟨front, low, back, split, isReached, after⟩ := exists_last_reached filled
    obtain ⟨high, among, highest⟩ := exists_highest filled
    have charged : feeRateForCurrentVolatility (some config) signal = some low.feeRateBps := by
      rw [feeRateForCurrentVolatility, Option.map_some, split, scan_last isReached after]
    have inside : low ∈ reachedBands config.bands (currentMultiplier signal) := by
      simp [reachedBands, split, isReached]
    obtain ⟨listed, reached⟩ := mem_filter.mp among
    have reached := of_decide_eq_true reached
    rcases (highest low inside).eq_or_lt with level | below
    · exact ⟨low, ⟨inside, level ▸ highest⟩, charged⟩
    have pre : high ∈ front := by
      rw [split, mem_append, mem_cons] at listed
      rcases listed with front | rfl | later
      · exact front
      · exact absurd below (lt_irrefl _)
      · exact absurd reached (after high later)
    rcases overruled front low back split high pre below with
      ⟨later, mem, near⟩ | ⟨same, mem, level, rate⟩
    · exact absurd (near.trans reached) (after later mem)
    · exact ⟨same, ⟨mem_filter.mpr ⟨mem, decide_eq_true (level ▸ reached)⟩,
        level ▸ highest⟩, rate ▸ charged⟩

/-- Bands in falling order charge the rate of the lowest. -/
theorem falling_bands_undercharge :
    ¬ ∃ band, HighestBand [⟨20000, 50⟩, ⟨15000, 30⟩] 25000 band ∧ feeRateForCurrentVolatility
      (some ⟨[⟨20000, 50⟩, ⟨15000, 30⟩], 10⟩) (some ⟨25000, 0⟩) = some band.feeRateBps := by
  rintro ⟨band, ⟨mem, highest⟩, charged⟩
  have above := highest ⟨20000, 50⟩ (by simp [reachedBands])
  simp only [reachedBands, mem_filter, mem_cons, not_mem_nil, or_false] at mem
  rcases mem.1 with rfl | rfl
  · exact absurd charged (by decide)
  · exact absurd above (by decide)

end StellarSwipe.FeeCollector
