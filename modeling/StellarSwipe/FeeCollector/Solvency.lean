import StellarSwipe.FeeCollector.Effects

/-!
# Solvency of the fee collector

In each token the collector owes its treasury, its insurance fund, its revenue pool and every
provider's pending fees, and pays them from one balance.
-/

namespace StellarSwipe.FeeCollector

open Program FixedWidth Runs Table World Tokens Accounts Range Option

namespace Accounts

variable (accounts : Accounts)

def pendingIn (token : Address) : Int :=
  Table.sum (fun key pending => if key.2 = token then pending else 0) accounts.pendingFees

/-- What the collector owes in a token. -/
def owed (token : Address) : Int :=
  accounts.treasury.read token + accounts.insurance.read token +
    accounts.revenueSharePool.read token + accounts.pendingIn token

end Accounts

/-- The balance of the collector beyond what it owes. -/
def World.surplus (world : World) (token : Address) : Int :=
  world.tokens.balance token world.self - world.store.accounts.owed token

/-- The collector holds what it owes, in every token. -/
def Solvent (world : World) : Prop :=
  ∀ token, world.store.accounts.owed token ≤ world.tokens.balance token world.self

theorem solvent_iff (world : World) : Solvent world ↔ ∀ token, 0 ≤ world.surplus token := by
  simp only [Solvent, World.surplus, sub_nonneg]

/-- No more than a fee is burned of it, and the revenue pools are not negative. -/
structure Sound (world : World) : Prop where
  burn : world.store.settings.getBurnRate ≤ maxBurnRateBps
  cached : ∀ key config, world.store.traders.feeCache.lookup key = some config →
    config.burnRate ≤ maxBurnRateBps
  pool : ∀ token, 0 ≤ world.store.accounts.revenueSharePool.read token

/-- The later world is sound, and its surplus in a token is at least an amount above the
earlier one, in other tokens at least the earlier one. -/
structure Gains (token : Address) (amount : Int) (pre after : World) : Prop where
  self : after.self = pre.self
  sound : Sound after
  surplus : ∀ other, pre.surplus other + (if other = token then amount else 0) ≤
    after.surplus other

/-- The later world is sound and its surplus in no token is below the earlier one. -/
structure Covers (pre after : World) : Prop where
  self : after.self = pre.self
  sound : Sound after
  surplus : ∀ other, pre.surplus other ≤ after.surplus other

section Relations

variable {token : Address} {amount more : Int} {pre middle after : World}

theorem Gains.trans (prior : Gains token amount pre middle)
    (later : Gains token more middle after) : Gains token (amount + more) pre after := by
  refine ⟨later.self.trans prior.self, later.sound, fun other => ?_⟩
  have first := prior.surplus other
  have second := later.surplus other
  split at first
  next same =>
    rw [if_pos same] at second ⊢
    omega
  next different =>
    rw [if_neg different] at second ⊢
    omega

theorem Gains.covers (gains : Gains token amount pre after) (nonneg : 0 ≤ amount) :
    Covers pre after := by
  refine ⟨gains.self, gains.sound, fun other => ?_⟩
  have above := gains.surplus other
  split at above <;> omega

theorem Covers.gains (covers : Covers pre after) (nonpos : amount ≤ 0) :
    Gains token amount pre after := by
  refine ⟨covers.self, covers.sound, fun other => ?_⟩
  have above := covers.surplus other
  split <;> omega

theorem Covers.refl (sound : Sound pre) : Covers pre pre :=
  ⟨rfl, sound, fun _ => le_refl _⟩

theorem Covers.trans (prior : Covers pre middle) (later : Covers middle after) : Covers pre after :=
  ⟨later.self.trans prior.self, later.sound,
    fun other => (prior.surplus other).trans (later.surplus other)⟩

theorem Covers.solvent (covers : Covers pre after) (solvent : Solvent pre) : Solvent after :=
  (solvent_iff after).mpr fun token =>
    ((solvent_iff pre).mp solvent token).trans (covers.surplus token)

theorem Covers.ofSame (sound : Sound after) (self : after.self = pre.self)
    (tokens : after.tokens = pre.tokens)
    (owed : ∀ token, after.store.accounts.owed token = pre.store.accounts.owed token) :
    Covers pre after :=
  ⟨self, sound, fun token => by rw [World.surplus, World.surplus, owed, tokens, self]⟩

end Relations

section Moves

variable {env : Env} {token : Address} {amount : Int} {pre : World}

theorem transfer_in (sound : Sound pre) {sender : Address} (other : sender ≠ pre.self) :
    wlp (transfer env token sender pre.self amount)
      (fun _ after => Gains token amount pre after) pre := by
  simp only [wp_transfer, implies_true, and_true]
  intro tokens moved
  obtain ⟨rfl, _⟩ := transfer_ok moved
  refine ⟨rfl, ⟨sound.burn, sound.cached, sound.pool⟩, fun held => ?_⟩
  simp only [World.surplus, World.setTokens, moved_balance, and_true, other.symm, and_false,
    if_false]
  split <;> omega

theorem transfer_out (sound : Sound pre) (receiver : Address) :
    wlp (transfer env token pre.self receiver amount)
      (fun _ after => after.store = pre.store ∧ Gains token (-amount) pre after) pre := by
  simp only [wp_transfer, implies_true, and_true]
  intro tokens moved
  obtain ⟨rfl, nonneg, _⟩ := transfer_ok moved
  refine ⟨rfl, rfl, ⟨sound.burn, sound.cached, sound.pool⟩, fun held => ?_⟩
  simp only [World.surplus, World.setTokens, moved_balance, and_true]
  split <;> split <;> omega

variable (accounts : Accounts)

theorem owed_setTreasury (token other : Address) (balance : Int) :
    (accounts.setTreasury token balance).owed other = accounts.owed other +
      if other = token then balance - accounts.treasury.read token else 0 := by
  simp only [Accounts.owed, setTreasury, pendingIn, read_insert]
  split
  next same =>
    subst same
    omega
  next => omega

theorem owed_setInsurance (token other : Address) (balance : Int) :
    (accounts.setInsurance token balance).owed other = accounts.owed other +
      if other = token then balance - accounts.insurance.read token else 0 := by
  simp only [Accounts.owed, setInsurance, pendingIn, read_insert]
  split
  next same =>
    subst same
    omega
  next => omega

theorem burnOwn_burns (nonneg : 0 ≤ amount) :
    wlp (burnOwn env token amount) (fun _ after => ∃ tokens, after = pre.setTokens tokens ∧
      ∀ other holder, tokens.balance other holder = pre.tokens.balance other holder -
        if other = token ∧ holder = pre.self then amount else 0) pre := by
  simp only [burnOwn, wp_ite, wlp_rules, wp_burn]
  refine ⟨fun _ tokens burned => ?_, fun none => ⟨pre.tokens, rfl, fun other holder => ?_⟩⟩
  · obtain ⟨rfl, _⟩ := burn_ok burned
    exact ⟨_, rfl, burned_balance _ _ _ _⟩
  · split <;> omega

/-- A referrer gets a share of what is left to distribute, out of the collector's balance. -/
theorem payReferrer_pays (trader : Address) (fee : Int) {distributable : Int}
    (held : distributable ≤ i128.high) : wlp (payReferrer env trader token fee distributable)
      (fun remaining after => ∃ referral tokens, after = pre.setTokens tokens ∧ 0 ≤ referral ∧
        remaining = distributable - referral ∧ (0 ≤ distributable → 0 ≤ remaining) ∧
        ∀ other holder, tokens.balance other holder = pre.tokens.balance other holder +
          if other = token then
            (if pre.store.settings.referrer.lookup trader = some holder then referral else 0) -
              if holder = pre.self then referral else 0 else 0) pre := by
  simp only [payReferrer, wp_rules]
  cases hit : pre.store.settings.referrer.lookup trader with
  | none => exact ⟨0, pre.tokens, rfl, le_refl _, by omega, id, by simp⟩
  | some referrer =>
    simp only [wp_ite, wp_rules]
    refine ⟨fun pos => ?_, fun _ => ⟨0, pre.tokens, rfl, le_refl _, by omega, id, by simp⟩⟩
    generalize share : min _ distributable = paid at pos ⊢
    have covered : paid ≤ distributable := share ▸ min_le_right _ _
    have exactly : i128.saturatingSub distributable paid = distributable - paid := by
      apply clamp_of_holds
      simp only [Range.Holds, i128_low, i128_high] at held ⊢
      omega
    simp only [wp_transfer, exactly, implies_true, and_true]
    intro tokens moved
    obtain ⟨rfl, _⟩ := transfer_ok moved
    refine ⟨paid, _, rfl, by omega, rfl, by omega, fun other holder => ?_⟩
    rw [moved_balance]
    have named : some referrer = some holder ↔ holder = referrer := by
      rw [some_inj, eq_comm]
    by_cases same : other = token
    · simp only [same, true_and, named, if_true]
      omega
    · simp only [same, false_and, if_false]
      omega

def Accounts.pooled (token : Address) (revenue : Int) : Accounts :=
  if 0 < revenue then accounts.addRevenueSharePool token revenue else accounts

theorem Accounts.pooled_fields (token : Address) (revenue : Int) :
    (accounts.pooled token revenue).treasury = accounts.treasury ∧
    (accounts.pooled token revenue).insurance = accounts.insurance ∧
    (accounts.pooled token revenue).pendingFees = accounts.pendingFees ∧
    ∀ other, (accounts.pooled token revenue).revenueSharePool.read other =
      if other = token ∧ 0 < revenue then
        i128.saturatingAdd (accounts.revenueSharePool.read other) revenue
      else accounts.revenueSharePool.read other := by
  rw [pooled]
  split
  next pos =>
    refine ⟨rfl, rfl, rfl, fun other => ?_⟩
    simp only [addRevenueSharePool, read_insert, pos, and_true]
    split
    next same => rw [same]
    next => rfl
  next none => exact ⟨rfl, rfl, rfl, fun other => (if_neg fun both => none both.2).symm⟩

theorem creditFee_credits {distributable remaining : Int} (whole : 0 ≤ distributable)
    (nonneg : 0 ≤ remaining) (held : remaining ≤ i128.high) :
    wlp (creditFee token distributable remaining)
      (fun _ after => ∃ revenue, 0 ≤ revenue ∧ revenue ≤ remaining ∧
        after = pre.setAccounts ((pre.store.accounts.pooled token revenue).setTreasury token
          (pre.store.accounts.treasury.read token + (remaining - revenue)))) pre := by
  simp only [creditFee, wp_rules]
  generalize split : min ((bpsOf distributable pre.store.settings.getRevenueShareRateBps).getD 0)
    remaining = share
  have covered : share ≤ remaining := split ▸ min_le_right _ _
  have floored : 0 ≤ share := by
    rw [← split]
    refine le_min ?_ nonneg
    simp only [bpsOf, Range.checkedMul, Range.checked]
    split
    · exact Int.tdiv_nonneg (Int.mul_nonneg whole (Int.natCast_nonneg _)) (by decide)
    · exact le_refl _
  have credit : i128.saturatingSub remaining share = remaining - share := by
    apply clamp_of_holds
    simp only [Range.Holds, i128_low, i128_high] at held ⊢
    omega
  rw [credit]
  simp only [wp_ite, wlp_rules, Range.checkedAdd, checked_eq_some]
  refine ⟨fun pos _ added => ?_, fun none _ added => ?_⟩
  · obtain ⟨_, rfl⟩ := added
    refine ⟨share, floored, covered, ?_⟩
    rw [pooled, if_pos pos]
    rfl
  · obtain ⟨_, rfl⟩ := added
    refine ⟨share, floored, covered, ?_⟩
    rw [pooled, if_neg none]

/-- The parts that a fee is split into. -/
structure FeeParts where
  burned : Int
  referral : Int
  revenue : Int
  credit : Int

namespace FeeParts

variable (parts : FeeParts)

/-- The parts are those of a fee. -/
structure Split (fee : Int) : Prop where
  burned : 0 ≤ parts.burned
  referral : 0 ≤ parts.referral
  revenue : 0 ≤ parts.revenue
  credit : 0 ≤ parts.credit
  total : fee = parts.burned + parts.referral + parts.revenue + parts.credit

/-- Where the parts of a trader's fee go: the treasury is credited, the pool too as far as it
goes, and the collector passes on what it burns and what the referrer gets. -/
structure Paid (trader token : Address) (pre after : World) : Prop where
  self : after.self = pre.self
  treasury : ∀ other, after.store.accounts.treasury.read other =
    pre.store.accounts.treasury.read other + if other = token then parts.credit else 0
  pool : ∀ other, after.store.accounts.revenueSharePool.read other =
    if other = token ∧ 0 < parts.revenue then
      i128.saturatingAdd (pre.store.accounts.revenueSharePool.read other) parts.revenue
    else pre.store.accounts.revenueSharePool.read other
  insurance : after.store.accounts.insurance = pre.store.accounts.insurance
  pending : after.store.accounts.pendingFees = pre.store.accounts.pendingFees
  balance : ∀ other holder, after.tokens.balance other holder =
    pre.tokens.balance other holder + if other = token then
      (if holder = pre.self then parts.revenue + parts.credit else 0) -
        (if holder = trader then
          parts.burned + parts.referral + parts.revenue + parts.credit else 0) +
        (if pre.store.settings.referrer.lookup trader = some holder then parts.referral else 0)
    else 0

end FeeParts

theorem Covers.ofTraders (sound : Sound pre) {traders : Traders}
    (cache : traders.feeCache = pre.store.traders.feeCache) :
    Covers pre (pre.setTraders traders) := by
  refine .ofSame ⟨sound.burn, fun key config has => ?_, sound.pool⟩ rfl rfl fun _ => rfl
  exact sound.cached key config (cache ▸ has)

/-- Remembering a trade, or the fee settings in force, burns at most the whole fee. -/
theorem Sound.remembers {after : World} (sound : Sound pre) (remembers : Remembers pre after) :
    Sound after := by
  obtain ⟨traders, rfl, cache⟩ := remembers
  exact (Covers.ofTraders sound cache).sound

theorem Sound.loads (sound : Sound pre) : wlp loadTxFeeConfig
      (fun cache after => cache.burnRate ≤ maxBurnRateBps ∧ Sound after ∧
        ∃ traders, after = pre.setTraders traders) pre := by
  apply wp_then (loadTxFeeConfig_loads pre) ?_
  rintro cache _ (⟨⟨key, has⟩, rfl⟩ | ⟨rate, key, rfl⟩)
  · exact ⟨sound.cached key cache has, sound, _, rfl⟩
  · have burn : cache.burnRate ≤ maxBurnRateBps := rate ▸ sound.burn
    refine ⟨burn, ⟨sound.burn, fun other config hit => ?_, sound.pool⟩, _, rfl⟩
    simp only [setTraders, lookup_insert] at hit
    split at hit
    · cases hit
      exact burn
    · exact sound.cached other config hit

theorem feeAndBurnAmounts_bounds {tradeAmount fee burned : Int} {feeRate burnRate : Nat}
    (amounts : feeAndBurnAmounts tradeAmount feeRate burnRate = some (fee, burned))
    (pos : 0 < fee) (rate : burnRate ≤ maxBurnRateBps) :
    0 ≤ burned ∧ burned ≤ fee ∧ fee ≤ i128.high := by
  simp only [feeAndBurnAmounts, bind_eq_bind, bind_eq_some_iff, pure_def,
    Option.some.injEq, Prod.mk.injEq] at amounts
  obtain ⟨_, feeOf, _, burnOf, rfl, rfl⟩ := amounts
  simp only [bpsOf, map_eq_some_iff, Range.checkedMul, checked_eq_some] at feeOf burnOf
  obtain ⟨_, ⟨held, rfl⟩, rfl⟩ := feeOf
  obtain ⟨_, ⟨_, rfl⟩, rfl⟩ := burnOf
  have product : 0 ≤ tradeAmount * feeRate := by
    by_contra negative
    have mirrored : 0 ≤ (-(tradeAmount * feeRate)).tdiv 10000 :=
      Int.tdiv_nonneg (by omega) (by decide)
    rw [Int.neg_tdiv] at mirrored
    omega
  have bounded : (tradeAmount * feeRate).tdiv 10000 ≤ i128.high := by
    have whole := held.2
    rw [tdiv_eq_floor product]
    omega
  generalize (tradeAmount * feeRate).tdiv 10000 = fee at pos bounded ⊢
  have part : 0 ≤ fee * burnRate := Int.mul_nonneg pos.le (Int.natCast_nonneg _)
  have atMost : fee * burnRate ≤ fee * 10000 := by
    have rate : (burnRate : Int) ≤ 10000 := by exact_mod_cast rate
    exact Int.mul_le_mul_of_nonneg_left rate pos.le
  rw [tdiv_eq_floor part]
  refine ⟨?_, ?_, bounded⟩ <;> omega

section Collections

variable {parts : FeeParts} {trader : Address} {fee : Int} {after : World}

theorem FeeParts.Paid.remembered {traders : Traders}
    (paid : parts.Paid trader token (pre.setTraders traders) after) :
    parts.Paid trader token pre after :=
  ⟨paid.self, paid.treasury, paid.pool, paid.insurance, paid.pending, paid.balance⟩

theorem FeeParts.Paid.covers (paid : parts.Paid trader token pre after)
    (split : parts.Split fee) (other : trader ≠ pre.self) (sound : Sound pre)
    (soundly : Sound after) : Covers pre after := by
  refine ⟨paid.self, soundly, fun held => ?_⟩
  have balance := paid.balance held pre.self
  have pool := paid.pool held
  have added : i128.saturatingAdd (pre.store.accounts.revenueSharePool.read held)
      parts.revenue ≤ pre.store.accounts.revenueSharePool.read held + parts.revenue := by
    apply saturatingAdd_le
    have floor := sound.pool held
    have pos := split.revenue
    simp only [i128_low]
    omega
  have referral := split.referral
  have revenue := split.revenue
  simp only [World.surplus, Accounts.owed, pendingIn, paid.self, paid.treasury held,
    paid.insurance, paid.pending, balance, pool, if_true, other.symm, if_false]
  by_cases same : held = token
  · simp only [same, true_and, if_true] at added ⊢
    split <;> split <;> omega
  · simp only [same, false_and, if_false]
    omega

theorem chargeFee_pays (feed : Feed) (sound : Sound pre) (other : trader ≠ pre.self)
    (tradeAmount : Int) (tradeAsset : Asset) {burned : Int} (nonneg : 0 ≤ burned)
    (part : burned ≤ fee) (held : fee ≤ i128.high) :
    wlp (chargeFee env feed trader token tradeAmount tradeAsset fee burned)
      (fun charged after => charged = fee ∧ Sound after ∧ ∃ parts : FeeParts, parts.Split fee ∧
        parts.Paid trader token pre after) pre := by
  simp only [chargeFee, wlp_rules, wp_transfer, Range.checkedSub, checked_eq_some]
  rintro tokens moved distributable ⟨_, rfl⟩
  obtain ⟨rfl, _⟩ := transfer_ok moved
  apply wp_then (burnOwn_burns nonneg) ?_
  rintro _ _ ⟨burnt, rfl, burning⟩
  apply wp_then (payReferrer_pays trader fee (by omega)) ?_
  rintro remaining _ ⟨referral, referred, rfl, shared, rfl, left, referring⟩
  apply wp_then (creditFee_credits (by omega) (left (by omega)) (by omega)) ?_
  rintro _ _ ⟨revenue, pooled, within, rfl⟩
  apply wp_then (recordTradeVolume_remembers env feed _ trader tradeAsset tradeAmount) ?_
  rintro _ _ ⟨traders, rfl, cache⟩
  obtain ⟨treasury, insurance, pending, pool⟩ :=
    pooled_fields pre.store.accounts token revenue
  refine ⟨trivial, ⟨sound.burn, fun key config has => sound.cached key config (cache ▸ has),
    fun held => ?_⟩, ⟨burned, referral, revenue, fee - burned - referral - revenue⟩,
    ⟨nonneg, shared, pooled, sub_nonneg.mpr within, by dsimp only; omega⟩,
    rfl, fun held => ?_, pool, insurance, pending, fun held holder => ?_⟩
  · refine (le_of_le_of_eq ?_ (pool held).symm)
    have floor := sound.pool held
    split
    · simp only [saturatingAdd, Range.clamp, i128_low, i128_high]
      omega
    · exact floor
  · simp only [setAccounts, setTraders, World.setTokens, addDailyFeeTotal,
      setTreasury, read_insert, treasury]
    split
    next same => rw [same]
    next => exact (add_zero _).symm
  · simp only [World.setTokens] at burning referring
    refine (referring held holder).trans ?_
    rw [burning, moved_balance]
    dsimp only
    by_cases same : held = token
    · simp only [same, true_and, if_true]
      by_cases mine : holder = pre.self
      · simp only [mine, if_true, other.symm, if_false]
        omega
      · by_cases pays : holder = trader
        · simp only [pays, other, if_true, if_false]
          omega
        · simp only [mine, pays, if_false, sub_zero, add_zero, zero_add]
          rfl
    · simp only [same, false_and, if_false]
      omega

/-- A collection takes nothing on a trader's first trade, and else the parts of its fee. -/
theorem collectFeeWithRecovery_pays (feed : Feed) (sound : Sound pre) (trader token : Address)
    (tradeAmount : Int) (tradeAsset : Asset) :
    wlp (collectFeeWithRecovery env feed trader token tradeAmount tradeAsset)
      (fun fee after => trader ≠ pre.self ∧ Sound after ∧ ∃ parts : FeeParts, parts.Split fee ∧
        parts.Paid trader token pre after) pre := by
  simp only [collectFeeWithRecovery, wlp_rules, wp_initialized, wp_notPaused,
    wp_auth, wp_ite, wp_attempt]
  intro _ _ authorized _
  refine ⟨fun _ => ?_, fun _ => ?_⟩
  · have waived : Sound (pre.setTraders { pre.store.traders with
        hasTraded := pre.store.traders.hasTraded.insert trader true }) :=
      sound.remembers ⟨_, rfl, rfl⟩
    have free {after : World} (remembers : Remembers (pre.setTraders { pre.store.traders with
        hasTraded := pre.store.traders.hasTraded.insert trader true }) after) :
        trader ≠ pre.self ∧ Sound after ∧ ∃ parts : FeeParts, parts.Split 0 ∧
          parts.Paid trader token pre after := by
      have soundly := waived.remembers remembers
      obtain ⟨traders, rfl, _⟩ := remembers
      refine ⟨authorized.2, soundly, ⟨0, 0, 0, 0⟩, ⟨le_refl _, le_refl _, le_refl _, le_refl _, rfl⟩,
        rfl, fun held => ?_, fun held => ?_, rfl, rfl, fun held holder => ?_⟩
      · rw [ite_self]
        exact (add_zero _).symm
      · exact (if_neg fun both => lt_irrefl 0 both.2).symm
      · simp [setTraders]
    apply wp_mono (recordTradeVolume_remembers env feed _ trader tradeAsset tradeAmount)
      (fun _ _ remembers => free remembers)
    intro reason after remembers
    cases reason with
    | error => exact free remembers
    | trap => trivial
  · apply wp_then sound.loads ?_
    rintro cache _ ⟨rate, loaded, traders, rfl⟩
    apply wp_then (activeMonthlyTradeVolume_remembers env _ trader) ?_
    rintro active _ remembers amounts computed pos
    obtain ⟨nonneg, part, held⟩ := feeAndBurnAmounts_bounds computed pos rate
    have current := loaded.remembers remembers
    obtain ⟨later, rfl, _⟩ := remembers
    apply wp_then (chargeFee_pays feed current authorized.2 tradeAmount tradeAsset nonneg part
      held) ?_
    rintro _ _ ⟨rfl, soundly, parts, split, paid⟩
    exact ⟨authorized.2, soundly, parts, split, paid.remembered.remembered⟩

theorem collectFeeWithRecovery_covers (feed : Feed) (sound : Sound pre) (trader token : Address)
    (tradeAmount : Int) (tradeAsset : Asset) :
    wlp (collectFeeWithRecovery env feed trader token tradeAmount tradeAsset)
      (fun _ after => Covers pre after) pre :=
  wp_then (collectFeeWithRecovery_pays feed sound trader token tradeAmount tradeAsset)
    fun _ _ ⟨other, soundly, _, split, paid⟩ => paid.covers split other sound soundly

end Collections

theorem collectEach_covers (feed : Feed) (sound : Sound pre) (items : List BatchFeeInput) :
    wlp (collectEach env feed items) (fun _ after => Covers pre after) pre := by
  induction items generalizing pre with
  | nil => exact .refl sound
  | cons item rest ih =>
    simp only [collectEach, wp_rules]
    apply wp_then (collectFeeWithRecovery_covers feed sound item.trader item.token
      item.tradeAmount item.tradeAsset) ?_
    intro _ middle first
    exact wp_then (ih first.sound) (fun _ _ later => first.trans later)

theorem batchCollectFees_covers (feed : Feed) (sound : Sound pre) (items : List BatchFeeInput) :
    wlp (batchCollectFees env feed items) (fun _ after => Covers pre after) pre := by
  simp only [batchCollectFees, wlp_rules]
  intro _
  apply wp_then sound.loads ?_
  rintro _ _ ⟨_, loaded, traders, rfl⟩
  have loading : Covers pre (pre.setTraders traders) := .ofSame loaded rfl rfl fun _ => rfl
  exact wp_then (collectEach_covers feed loaded items)
    (fun _ _ collecting => loading.trans collecting)

theorem Covers.ofFailed (sound : Sound pre) (failed : Table String FailedFeeCollection) :
    Covers pre (pre.setFailed failed) :=
  .ofSame ⟨sound.burn, sound.cached, sound.pool⟩ rfl rfl fun _ => rfl

theorem retryFailedFeeCollection_covers (feed : Feed) (sound : Sound pre) (admin : Address)
    (id : String) :
    wlp (retryFailedFeeCollection env feed admin id) (fun _ after => Covers pre after) pre := by
  simp only [retryFailedFeeCollection, requireNamedAdmin, shouldRetry, wlp_rules,
    wp_initialized, wp_getAdmin, wp_auth, wp_ite, wp_attempt]
  intro _ _ _ _ _ failed _ _
  refine ⟨fun _ impossible => absurd rfl impossible, fun _ _ => ?_⟩
  have counted := Covers.ofFailed sound
    (pre.store.failedCollections.insert failed.retried.id failed.retried)
  apply wp_mono (collectFeeWithRecovery_covers feed counted.sound failed.trader failed.token
    failed.tradeAmount failed.tradeAsset)
  · exact fun _ middle collecting =>
      (counted.trans collecting).trans (.ofFailed collecting.sound _)
  · intro reason _ _
    cases reason <;> trivial

theorem Gains.ofAccounts (sound : Sound pre) {accounts : Accounts}
    (pool : ∀ other, 0 ≤ accounts.revenueSharePool.read other)
    (owed : ∀ other, accounts.owed other + (if other = token then amount else 0) ≤
      pre.store.accounts.owed other) : Gains token amount pre (pre.setAccounts accounts) := by
  refine ⟨rfl, ⟨sound.burn, sound.cached, pool⟩, fun other => ?_⟩
  have less := owed other
  simp only [World.surplus, setAccounts]
  omega

theorem Gains.ofTreasury (sound : Sound pre) (balance : Int) :
    Gains token (pre.store.accounts.treasury.read token - balance) pre
      (pre.setAccounts (pre.store.accounts.setTreasury token balance)) := by
  refine .ofAccounts sound (fun other => sound.pool other) fun other => ?_
  rw [owed_setTreasury]
  split <;> omega

theorem Gains.ofInsurance (sound : Sound pre) (balance : Int) :
    Gains token (pre.store.accounts.insurance.read token - balance) pre
      (pre.setAccounts (pre.store.accounts.setInsurance token balance)) := by
  refine .ofAccounts sound (fun other => sound.pool other) fun other => ?_
  rw [owed_setInsurance]
  split <;> omega

theorem depositInsuranceFund_covers (sound : Sound pre) (sender token : Address) (amount : Int) :
    wlp (depositInsuranceFund env sender token amount) (fun _ after => Covers pre after) pre := by
  simp only [depositInsuranceFund, wlp_rules, wp_initialized, wp_notPaused,
    wp_auth, Range.checkedAdd, checked_eq_some]
  intro _ _ authorized _
  apply wp_then (transfer_in sound authorized.2) ?_
  rintro _ paid paying balance ⟨_, rfl⟩
  exact (paying.trans (.ofInsurance paying.sound _)).covers (by omega)

theorem payoutInsurance_covers (sound : Sound pre) (caller recipient token : Address)
    (amount : Int) (claimId : String) :
    wlp (payoutInsurance env caller recipient token amount claimId)
      (fun _ after => Covers pre after) pre := by
  simp only [payoutInsurance, requireAdminOrListed, wlp_rules, wp_initialized,
    wp_notPaused, wp_auth, wp_getAdmin, Range.checkedSub, checked_eq_some]
  rintro _ _ _ _ _ _ _ _ _ _ balance ⟨_, rfl⟩
  have drawn : Gains token amount pre (pre.setAccounts (pre.store.accounts.setInsurance
      token (pre.store.accounts.insurance.read token - amount))) := by
    have gained : Gains token _ pre _ :=
      .ofInsurance sound (pre.store.accounts.insurance.read token - amount)
    rwa [sub_sub_cancel] at gained
  generalize reached : World.mk _ _ _ = written
  have marked : Gains token amount pre written := by
    subst reached
    exact ⟨drawn.self, ⟨drawn.sound.burn, drawn.sound.cached, drawn.sound.pool⟩, drawn.surplus⟩
  have self : pre.self = written.self := marked.self.symm
  rw [self]
  apply wp_then (transfer_out marked.sound recipient) ?_
  rintro _ after ⟨_, paying⟩
  exact (marked.trans paying).covers (by omega)

/-- The waterfall pays out what it reports as distributed. The induction is on the tiers. -/
theorem fundTiers_gains (sound : Sound pre) (tiers : List WaterfallTier)
    (remaining distributed : Int) : wlp (fundTiers env token tiers remaining distributed)
      (fun outcome after => after.store = pre.store ∧
        Gains token (distributed - outcome.2) pre after) pre := by
  induction tiers generalizing pre remaining distributed with
  | nil => exact ⟨rfl, (Covers.refl sound).gains (by omega)⟩
  | cons tier rest ih =>
    rw [fundTiers]
    cases tier.allocation remaining with
    | none =>
      simp only [wp_rules]
      exact ih sound remaining distributed
    | some allocated =>
      simp only [wlp_rules, Range.checkedSub, Range.checkedAdd, checked_eq_some]
      apply wp_then (transfer_out sound tier.recipient) ?_
      rintro _ paid ⟨same, paying⟩ left _ given ⟨_, rfl⟩
      apply wp_then (ih paying.sound left (distributed + allocated)) ?_
      rintro outcome after ⟨unchanged, later⟩
      refine ⟨unchanged.trans same, ?_⟩
      have total :
          -allocated + (distributed + allocated - outcome.2) = distributed - outcome.2 := by
        omega
      exact total ▸ paying.trans later

theorem distributeWaterfall_covers (sound : Sound pre) (token : Address) (totalAmount : Int) :
    wlp (distributeWaterfall env token totalAmount) (fun _ after => Covers pre after) pre := by
  simp only [distributeWaterfall, requireAdmin, wlp_rules, wp_initialized,
    wp_notPaused, wp_getAdmin, wp_auth, Range.checkedSub, checked_eq_some]
  intro _ _ _ _ _ _ tiers _ _
  apply wp_then (fundTiers_gains sound _ totalAmount 0) ?_
  rintro funded middle ⟨same, funding⟩ balance ⟨_, rfl⟩
  rw [← same]
  exact (funding.trans (.ofTreasury funding.sound _)).covers (by omega)

theorem triggerRevenueShareSnapshot_covers (sound : Sound pre) (caller token : Address) :
    wlp (triggerRevenueShareSnapshot env caller token) (fun _ after => Covers pre after) pre := by
  simp only [triggerRevenueShareSnapshot, requireAdmin, wlp_rules, wp_initialized,
    wp_getAdmin, wp_auth, wp_ite]
  refine fun _ _ _ _ _ => ⟨fun pos => ?_, fun _ => .refl sound⟩
  have cleared : Gains token (pre.store.accounts.revenueSharePool.read token) pre
      (pre.setAccounts { pre.store.accounts with
        revenueSharePool := pre.store.accounts.revenueSharePool.erase token }) := by
    apply Gains.ofAccounts sound
    · intro other
      rw [read_erase]
      split
      · exact le_refl _
      · exact sound.pool other
    · intro other
      simp only [Accounts.owed, pendingIn, read_erase]
      split
      next same =>
        subst same
        omega
      next => omega
  exact cleared.covers pos.le

theorem withdrawTreasuryFees_covers (sound : Sound pre) (recipient token : Address) (amount : Int) :
    wp (withdrawTreasuryFees env recipient token amount) (fun _ after => Covers pre after)
      (fun _ _ => True) pre := by
  unfold withdrawTreasuryFees
  rw [wp_bind, wp_initialized]
  refine ⟨fun _ => ?_, fun _ => trivial⟩
  rw [wp_bind, wp_notPaused]
  refine ⟨fun _ => ?_, fun _ => trivial⟩
  rw [wp_bind, requireAdmin, wp_bind, wp_getAdmin]
  refine ⟨fun _ _ => ?_, fun _ => trivial⟩
  rw [wp_auth]
  refine ⟨fun _ => ?_, fun _ => trivial⟩
  rw [wp_bind, wp_validateTokenMetadata]
  refine ⟨fun _ => ?_, fun _ => trivial⟩
  rw [wp_bind, wp_get, wp_bind, wp_orFail]
  refine ⟨fun queued _ => ?_, fun _ => trivial⟩
  rw [wp_bind, wp_orFail]
  refine ⟨fun availableAt _ => ?_, fun _ => trivial⟩
  simp only [wlp_rules, Range.checkedSub, checked_eq_some]
  rintro _ _ balance ⟨_, rfl⟩
  apply wp_then (transfer_out sound recipient) ?_
  rintro _ paid ⟨same, paying⟩
  rw [← same]
  have drawn := (paying.trans (.ofTreasury paying.sound
    (paid.store.accounts.treasury.read token - amount))).covers (by omega)
  exact drawn.trans (.ofSame ⟨drawn.sound.burn, drawn.sound.cached, drawn.sound.pool⟩ rfl rfl
    fun _ => rfl)

theorem queueWithdrawal_covers (sound : Sound pre) (recipient token : Address) (amount : Int) :
    wlp (queueWithdrawal env recipient token amount) (fun _ after => Covers pre after) pre := by
  apply wp_then (queueWithdrawal_spec env pre recipient token amount) ?_
  rintro _ _ rfl
  exact .ofSame ⟨sound.burn, sound.cached, sound.pool⟩ rfl rfl fun _ => rfl

theorem queueFailedFeeCollection_covers (sound : Sound pre) (admin : Address)
    (failed : FailedFeeCollection) :
    wlp (queueFailedFeeCollection env admin failed) (fun _ after => Covers pre after) pre := by
  apply wp_then (queueFailedFeeCollection_spec env pre admin failed) ?_
  rintro _ _ rfl
  exact .ofFailed sound _

variable {change : Settings → Settings}

theorem changeSettings_covers (sound : Sound pre)
    (burn : (change pre.store.settings).getBurnRate ≤ maxBurnRateBps) :
    wp (changeSettings change) (fun _ after => Covers pre after) (fun _ _ => True) pre := by
  rw [changeSettings, wp_modify]
  exact .ofSame ⟨burn, sound.cached, sound.pool⟩ rfl rfl fun _ => rfl

variable {check : Except ContractError Unit}

theorem adminSetting_covers (sound : Sound pre)
    (burn : check = .ok () → (change pre.store.settings).getBurnRate ≤ maxBurnRateBps) :
    wlp (adminSetting env check change) (fun _ after => Covers pre after) pre := by
  simp only [adminSetting, requireAdmin, wlp_rules, wp_initialized, wp_getAdmin,
    wp_auth]
  exact fun _ _ _ _ _ checked => changeSettings_covers sound (burn checked)

theorem namedSetting_covers (sound : Sound pre) {admin : Address}
    (burn : (change pre.store.settings).getBurnRate ≤ maxBurnRateBps) :
    wlp (namedSetting env admin check change) (fun _ after => Covers pre after) pre := by
  simp only [namedSetting, requireNamedAdmin, wlp_rules, wp_initialized, wp_getAdmin,
    wp_auth]
  exact fun _ _ _ _ _ _ _ => changeSettings_covers sound burn

theorem ownSetting_covers (sound : Sound pre) {user : Address}
    (burn : (change pre.store.settings).getBurnRate ≤ maxBurnRateBps) :
    wlp (ownSetting env user change) (fun _ after => Covers pre after) pre := by
  simp only [ownSetting, wp_bind, wp_initialized, wp_auth, asks_true]
  exact fun _ _ => changeSettings_covers sound burn

theorem setting_covers (sound : Sound pre) (setting : Setting) :
    wlp (setting.exec env) (fun _ after => Covers pre after) pre := by
  cases setting with
  | initializeCollector =>
    simp only [Setting.exec, initializeCollector, wlp_rules, wp_auth]
    exact fun _ _ => changeSettings_covers sound sound.burn
  | setCongestionSignal =>
    simp only [Setting.exec, setCongestionSignal, requireAdminOrListed, wlp_rules,
      wp_initialized, wp_auth, wp_getAdmin]
    exact fun _ _ _ _ _ _ => changeSettings_covers sound sound.burn
  | registerReferral =>
    simp only [Setting.exec, registerReferral, wlp_rules, wp_initialized, wp_auth]
    exact fun _ _ _ _ => changeSettings_covers sound sound.burn
  | setInsurancePayoutCap =>
    simp only [Setting.exec, setInsurancePayoutCap, wlp_rules, wp_initialized,
      wp_auth, wp_getAdmin]
    exact fun _ _ _ _ _ _ => changeSettings_covers sound sound.burn
  | setBurnRate rate =>
    refine adminSetting_covers sound fun checked => ?_
    simp only [check] at checked
    split at checked
    next within => exact within
    next => cases checked
  | pause | unpause | authorizeCaller | revokeCaller | setOracleContract | setFeeRate
  | setCongestionConfig | setProtocolToken | setRevenueShareRateBps | setWaterfallConfig
  | setMaxRebateBps => exact adminSetting_covers sound fun _ => sound.burn
  | setFeeOptimizationConfig | updateNetworkConditions | registerToken | setVolumeDiscountConfig
  | adminOverrideReferral | setReferralFeeShare => exact namedSetting_covers sound sound.burn
  | _ => exact ownSetting_covers sound sound.burn

end Moves

namespace World

variable (world : World) (env : Env) (feed : Feed) (provider token : Address)

/-- What the oracle makes of an amount in a preferred token, where the collector holds it. -/
def quotedPayout (sourceAmount : Int) (prefToken : Address) : Option Int := do
  discard world.store.settings.oracleContract
  let rate ← feed.getRate token prefToken
  guard (0 < rate)
  let product ← i128.checkedMul sourceAmount rate
  let prefAmount := product.tdiv oracleRatePrecision
  guard (0 < prefAmount)
  guard (prefAmount ≤ world.tokens.balance prefToken world.self)
  pure prefAmount

/-- The token and the amount that a payment of pending fees is converted to, if it is. -/
def convertedTo (amount : Int) : Option (Address × Int) :=
  match world.store.settings.payoutCurrency.lookup provider with
  | some prefToken =>
    if 0 < amount ∧ prefToken ≠ token then
      (world.quotedPayout feed token amount prefToken).map fun paid => (prefToken, paid)
    else none
  | none => none

def conversion : Option (Address × Int) :=
  world.convertedTo feed provider token (world.claimAmount env provider token)

end World

/-- What a claim does to the surplus: it covers its payment by the pending fees it clears,
or it is converted and draws its payment from the surplus of another token. -/
inductive ClaimPaid (pre after : World) : Option (Address × Int) → Prop
  | plain (covers : Covers pre after) : ClaimPaid pre after none
  | converted {pref : Address} {paid : Int} (self : after.self = pre.self)
      (sound : Sound after) (drawn : after.surplus pref = pre.surplus pref - paid)
      (others : ∀ other, other ≠ pref → pre.surplus other ≤ after.surplus other) :
    ClaimPaid pre after (some (pref, paid))

theorem ClaimPaid.sound {pre after : World} {conversion : Option (Address × Int)}
    (paid : ClaimPaid pre after conversion) : Sound after := by
  cases paid with
  | plain covers => exact covers.sound
  | converted _ sound => exact sound

section Claims

variable {env : Env} {feed : Feed} {provider token : Address} {amount : Int} {pre : World}

theorem owed_clearPending (accounts : Accounts) (provider token other : Address) :
    (accounts.clearPending provider token).owed other = accounts.owed other -
      if other = token then accounts.pendingFees.read (provider, token) else 0 := by
  have cleared : Table.contribution (fun key pending => if key.2 = other then pending else 0)
      accounts.pendingFees (provider, token) =
      if token = other then accounts.pendingFees.read (provider, token) else 0 := by
    rw [contribution_eq_read]
    exact fun key => ite_self 0
  simp only [Accounts.owed, clearPending, pendingIn, sum_insert, cleared, ite_self]
  by_cases same : other = token
  · rw [if_pos same, if_pos same.symm]
    omega
  · rw [if_neg same, if_neg fun equal : token = other => same equal.symm]
    omega

theorem Gains.ofPending (sound : Sound pre) :
    Gains token (pre.store.accounts.pendingFees.read (provider, token)) pre
      (pre.setAccounts (pre.store.accounts.clearPending provider token)) := by
  refine .ofAccounts sound (fun other => sound.pool other) fun other => ?_
  rw [owed_clearPending]
  omega

theorem settlePlain_covers (env : Env) (sound : Sound pre)
    (owedAmount : amount ≤ pre.store.accounts.pendingFees.read (provider, token))
    (pos : 0 < pre.store.accounts.pendingFees.read (provider, token)) : wlp (do
        transferPositive env token (← get).self provider amount
        modify fun world => world.setAccounts (world.store.accounts.clearPending provider token)
        pure amount)
      (fun _ after => Covers pre after) pre := by
  simp only [transferPositive, wp_rules, wp_ite]
  refine ⟨fun _ => ?_, fun _ => (Gains.ofPending sound).covers pos.le⟩
  apply wp_then (transfer_out sound provider) ?_
  rintro _ paid ⟨same, paying⟩
  have pending : Gains token (paid.store.accounts.pendingFees.read (provider, token)) paid _ :=
    .ofPending paying.sound
  have cleared := paying.trans pending
  rw [same] at cleared ⊢
  exact cleared.covers (by omega)

theorem tryClaim_eq (prefToken : Address) :
    tryClaimInPreferredCurrency env feed provider token amount prefToken = (do
      let world ← get
      match world.quotedPayout feed token amount prefToken with
      | none => pure none
      | some prefAmount => do
        set (world.setAccounts (world.store.accounts.clearPending provider token))
        transfer env prefToken world.self provider prefAmount
        pure (some prefAmount)) := rfl

theorem settleConverted_paid (sound : Sound pre) (other : provider ≠ pre.self)
    {prefToken : Address} {paid : Int} (converts : prefToken ≠ token)
    (pos : 0 < pre.store.accounts.pendingFees.read (provider, token)) : wlp (do
        set (pre.setAccounts (pre.store.accounts.clearPending provider token))
        transfer env prefToken pre.self provider paid
        pure (some paid))
      (fun settled after => settled = some paid ∧
        ClaimPaid pre after (some (prefToken, paid))) pre := by
  simp only [wlp_rules, wp_transfer, true_and]
  intro tokens moved
  obtain ⟨rfl, nonneg, _⟩ := transfer_ok moved
  refine .converted rfl ⟨sound.burn, sound.cached, sound.pool⟩ ?_ fun held different => ?_
  · simp only [World.surplus, World.setTokens, setAccounts, owed_clearPending,
      moved_balance, true_and, if_neg converts, other.symm, if_false, if_true]
    omega
  · simp only [World.surplus, World.setTokens, setAccounts, owed_clearPending,
      moved_balance, different, false_and, if_false]
    split
    next same =>
      subst same
      omega
    next => omega

theorem settleClaim_paid (sound : Sound pre) (other : provider ≠ pre.self)
    (owedAmount : amount ≤ pre.store.accounts.pendingFees.read (provider, token))
    (pos : 0 < pre.store.accounts.pendingFees.read (provider, token)) :
    wp (settleClaim env feed provider token amount)
      (fun _ after => ClaimPaid pre after (pre.convertedTo feed provider token amount))
      (fun _ _ => True) pre := by
  have plain (none : pre.convertedTo feed provider token amount = none) :=
    wp_then (settlePlain_covers env sound owedAmount pos)
      (fun _ after covers => (none ▸ .plain covers :
        ClaimPaid pre after (pre.convertedTo feed provider token amount)))
  rw [settleClaim, wp_bind, convertClaim, wp_bind, wp_get]
  cases chosen : pre.store.settings.payoutCurrency.lookup provider with
  | none => exact plain (by simp only [convertedTo, chosen])
  | some prefToken =>
    simp only [wp_ite]
    refine ⟨fun converts => ?_, fun keeps => ?_⟩
    · rw [tryClaim_eq, wp_bind, wp_get]
      cases quoted : pre.quotedPayout feed token amount prefToken with
      | none =>
        exact plain (by simp only [convertedTo, chosen, if_pos converts, quoted,
          map_none])
      | some paid =>
        have conversion : pre.convertedTo feed provider token amount =
            some (prefToken, paid) := by
          simp only [convertedTo, chosen, if_pos converts, quoted, map_some]
        rw [conversion]
        apply wp_then (settleConverted_paid sound other converts.2 pos) ?_
        rintro _ after ⟨rfl, settled⟩
        exact settled
    · exact plain (by simp only [convertedTo, chosen, if_neg keeps])

theorem ClaimPaid.ofCounted {middle after : World} {conversion : Option (Address × Int)}
    (self : middle.self = pre.self) (surplus : ∀ held, middle.surplus held = pre.surplus held)
    (paid : ClaimPaid middle after conversion) : ClaimPaid pre after conversion := by
  cases paid with
  | plain covers =>
    exact .plain ⟨covers.self.trans self, covers.sound,
      fun held => surplus held ▸ covers.surplus held⟩
  | converted same sound drawn others =>
    exact .converted (same.trans self) sound (surplus _ ▸ drawn)
      fun held different => surplus held ▸ others held different

theorem claimable_le (accounts : Accounts) (day bps : Nat) (requested : Int) :
    accounts.claimable token day bps requested ≤ requested := by
  simp only [claimable]
  split
  · exact min_le_right _ _
  · exact le_refl _

theorem claimFees_paid (sound : Sound pre) : wlp (claimFees env feed provider token)
      (fun _ after => ClaimPaid pre after (pre.conversion env feed provider token)) pre := by
  simp only [claimFees, wlp_rules, wp_initialized, wp_notPaused,
    wp_validateTokenMetadata, wp_auth, wp_ite]
  intro _ _ _ authorized
  refine ⟨fun requested => ?_, fun none => ?_⟩
  · have amount : pre.claimAmount env provider token = pre.store.accounts.claimable token
        (dayOf env.timestamp) pre.store.settings.getMaxRebateBps
        (pre.store.accounts.pendingFees.read (provider, token)) := if_pos requested
    have owedAmount := amount.trans_le (claimable_le pre.store.accounts _ _ _)
    rw [← amount]
    refine ⟨fun _ => ?_, fun _ => ?_⟩
    · let counted := pre.setAccounts (pre.store.accounts.addEpochRebate token
        (dayOf env.timestamp) (pre.claimAmount env provider token))
      have soundly : Sound counted := ⟨sound.burn, sound.cached, sound.pool⟩
      exact wp_then (settleClaim_paid soundly authorized.2 owedAmount requested)
        (fun _ _ paid => .ofCounted (rfl : counted.self = pre.self) (fun _ => rfl) paid)
    · exact settleClaim_paid sound authorized.2 owedAmount requested
  · have amount : pre.claimAmount env provider token = 0 := if_neg none
    have unconverted : pre.conversion env feed provider token = .none := by
      simp only [conversion, convertedTo, amount, lt_irrefl, false_and, if_false]
      split <;> rfl
    rw [unconverted]
    exact .plain (.refl sound)

end Claims

section Runs

variable {env : Env} {feed : Feed} {pre : World}

theorem exec_covers (sound : Sound pre) {call : Call} (silent : call.KeepsRebates)
    (entry : ∀ expired tokens, call ≠ .interlude expired tokens) :
    wp (exec env feed call) (fun _ after => Covers pre after) (fun _ _ => True) pre := by
  cases call <;> rw [exec]
  case setting setting => exact setting_covers sound setting
  case collectFee =>
    rw [wp_discard]
    exact collectFeeWithRecovery_covers feed sound _ _ _ _
  case batchCollectFees items =>
    rw [wp_discard]
    exact batchCollectFees_covers feed sound items
  case queueFailedFeeCollection admin failed =>
    exact queueFailedFeeCollection_covers sound admin failed
  case retryFailedFeeCollection admin id =>
    rw [wp_discard]
    exact retryFailedFeeCollection_covers feed sound admin id
  case claimFees => exact absurd silent id
  case queueWithdrawal recipient token amount =>
    exact queueWithdrawal_covers sound recipient token amount
  case withdrawTreasuryFees recipient token amount =>
    exact withdrawTreasuryFees_covers sound recipient token amount
  case depositInsuranceFund sender token amount =>
    exact depositInsuranceFund_covers sound sender token amount
  case payoutInsurance caller recipient token amount claimId =>
    exact payoutInsurance_covers sound caller recipient token amount claimId
  case distributeWaterfall token totalAmount =>
    rw [wp_discard]
    exact distributeWaterfall_covers sound token totalAmount
  case triggerRevenueShareSnapshot caller token =>
    exact triggerRevenueShareSnapshot_covers sound caller token
  case interlude expired tokens => exact absurd rfl (entry expired tokens)

/-- Entries of the cache that survive its expiry were there. The induction is on the expired
keys. -/
theorem lookup_expired (expired : List Nat) (cache : Table Nat TxFeeConfigCache) (key : Nat)
    (config : TxFeeConfigCache)
    (has : (expired.foldl (fun cache key => cache.erase key) cache).lookup key = some config) :
    cache.lookup key = some config := by
  induction expired generalizing cache with
  | nil => exact has
  | cons first rest ih =>
    have kept := ih (cache.erase first) has
    rw [lookup_erase] at kept
    split at kept
    · cases kept
    · exact kept

theorem Sound.step (sound : Sound pre) (input : Input) : Sound (FeeCollector.step input pre) := by
  apply step_rule Sound sound
  obtain ⟨env, feed, call⟩ := input
  have covered (silent : call.KeepsRebates)
      (entry : ∀ expired tokens, call ≠ .interlude expired tokens) :
      wp (exec env feed call) (fun _ after => Sound after) (fun _ _ => True) pre :=
    wp_then (exec_covers sound silent entry) (fun _ _ covers => covers.sound)
  cases call
  case claimFees =>
    rw [exec, wp_discard]
    exact wp_then (claimFees_paid sound) (fun _ _ paid => paid.sound)
  case interlude expired tokens =>
    exact ⟨sound.burn, fun key config has => sound.cached key config
      (lookup_expired expired _ key config has), sound.pool⟩
  all_goals exact covered trivial (by simp)

theorem reached_sound (self : Address) (tokens : Tokens)
    (pendingFees : Table (Address × Address) Int) (inputs : List Input) :
    Sound (final step (deployed self tokens pendingFees) inputs) := by
  refine guarded_invariant step Sound (fun _ _ => True) (fun _ input _ sound => sound.step input)
    (deployed self tokens pendingFees) ?_ inputs fun _ _ => trivial
  have defaults : defaultBurnRateBps ≤ maxBurnRateBps := by decide
  exact ⟨defaults, nofun, fun token => le_refl _⟩

end Runs

/-- A claim that is converted draws no more than what the collector holds of the payout's
token beyond what it owes in it. -/
def PayoutCovered (world : World) (input : Input) : Prop :=
  ∀ provider token pref paid, input.call = .claimFees provider token →
    Accepts (claimFees input.env input.feed provider token) world →
    world.conversion input.env input.feed provider token = some (pref, paid) →
    paid ≤ world.surplus pref

/-- From any solvent state that a run reaches, an entry point ends in a solvent state exactly
when a converted claim, if it is one, is covered by the surplus of its payout's token. -/
theorem solvency_kept_iff (self : Address) (tokens : Tokens)
    (pendingFees : Table (Address × Address) Int) (inputs : List Input) (input : Input)
    (entry : ∀ expired tokens, input.call ≠ .interlude expired tokens)
    (solvent : Solvent (final step (deployed self tokens pendingFees) inputs)) :
    Solvent (step input (final step (deployed self tokens pendingFees) inputs)) ↔
      PayoutCovered (final step (deployed self tokens pendingFees) inputs) input := by
  have sound := reached_sound self tokens pendingFees inputs
  generalize final step (deployed self tokens pendingFees) inputs = world at solvent sound
  obtain ⟨env, feed, call⟩ := input
  have covered (silent : call.KeepsRebates) :
      Solvent (step ⟨env, feed, call⟩ world) ↔ PayoutCovered world ⟨env, feed, call⟩ := by
    refine iff_of_true ?_ ?_
    · have covers : Covers world (step ⟨env, feed, call⟩ world) :=
        step_rule (fun after => Covers world after) (.refl sound) (exec_covers sound silent entry)
      exact covers.solvent solvent
    · rintro provider token pref paid rfl
      exact absurd silent id
  cases call
  case claimFees provider token =>
    by_cases returns : Accepts (claimFees env feed provider token) world
    · obtain ⟨_, ran⟩ := gave_of_accepts returns
      have paid := wp_ok (claimFees_paid sound) ran
      have stepped : step ⟨env, feed, .claimFees provider token⟩ world =
          invoke (claimFees env feed provider token) world := by
        simp only [step, exec, invoke_discard]
      rw [stepped]
      generalize invoke (claimFees env feed provider token) world = after at paid
      generalize converted : world.conversion env feed provider token = conversion at paid
      cases paid with
      | plain covers =>
        refine iff_of_true (covers.solvent solvent) ?_
        intro claimant source pref paid call _ conversion
        cases call
        cases converted.symm.trans conversion
      | @converted pref paid _ _ drawn others =>
        rw [solvent_iff]
        constructor
        · intro covered claimant source other amount call _ conversion
          cases call
          cases converted.symm.trans conversion
          have left := covered pref
          rw [drawn] at left
          omega
        · intro covered held
          have within := covered provider token pref paid rfl returns converted
          by_cases same : held = pref
          · rw [same, drawn]
            omega
          · exact ((solvent_iff world).mp solvent held).trans (others held same)
    · have stepped : step ⟨env, feed, .claimFees provider token⟩ world = world := by
        simp only [step, exec, invoke_discard, invoke_of_rejected returns]
      rw [stepped]
      refine iff_of_true solvent ?_
      intro claimant source pref paid call accepted _
      cases call
      exact absurd accepted returns
  all_goals exact covered trivial

/-- Everyone holds a thousand of every token. -/
def coffers : Tokens := ⟨fun _ _ => 1000, 0⟩

/-- Provider 3 is owed five of token 7, and provider 4 an amount of token 8. -/
def owedBoth (owed : Int) : Table (Address × Address) Int :=
  (AList.insert (3, 7) 5 ∅).insert (4, 8) owed

/-- Provider 3 prefers token 8, for which the oracle has a rate. -/
def preferringEight : List Input :=
  [⟨.at 0 0 [1], .silent, .setting (.initializeCollector 1)⟩,
    ⟨.at 0 0 [1], .silent, .setting (.setOracleContract 2)⟩,
    ⟨.at 0 0 [3], .silent, .setting (.setPayoutCurrency 3 8)⟩]

def convertedClaim : Input := ⟨.at 1 0 [3], .par, .claimFees 3 7⟩

theorem preferringEight_solvent {owed : Int} (covered : owed ≤ 1000) :
    Solvent (final step (deployed 9 coffers (owedBoth owed)) preferringEight) := by
  intro token
  have accounts : (final step (deployed 9 coffers (owedBoth owed))
      preferringEight).store.accounts = { Accounts.empty with pendingFees := owedBoth owed } := rfl
  have held : (final step (deployed 9 coffers (owedBoth owed)) preferringEight).tokens.balance
      token (final step (deployed 9 coffers (owedBoth owed)) preferringEight).self =
        1000 := rfl
  rw [accounts, held]
  simp only [Accounts.owed, Accounts.empty, pendingIn, owedBoth, read_empty,
    sum_insert, sum_empty, Table.contribution, lookup_insert,
    AList.lookup_empty, Prod.mk.injEq, Nat.reduceEqDiff, false_and, if_false]
  by_cases seven : 7 = token
  · have eight : ¬ 8 = token := fun equal => absurd (seven.trans equal.symm) (by decide)
    rw [if_pos seven, if_neg eight]
    omega
  · rw [if_neg seven]
    split <;> omega

/-- The claim draws five from the collector's own thousand of token 8. -/
theorem convertedClaim_covered : Solvent (step convertedClaim
      (final step (deployed 9 coffers (owedBoth 0)) preferringEight)) := by
  refine (solvency_kept_iff 9 coffers (owedBoth 0) preferringEight convertedClaim (by simp
    [convertedClaim]) (preferringEight_solvent (by decide))).mpr ?_
  intro provider token pref paid call _ converted
  cases call
  have conversion : (final step (deployed 9 coffers (owedBoth 0)) preferringEight).conversion
      convertedClaim.env convertedClaim.feed 3 7 = some (8, 5) := by decide
  cases conversion.symm.trans converted
  decide

/-- The claim draws five from the thousand of token 8 that provider 4 is owed. -/
theorem converted_claim_overdraws : ¬ ∀ (self : Address) (tokens : Tokens)
    (pendingFees : Table (Address × Address) Int) (inputs : List Input) (input : Input),
      (∀ expired tokens, input.call ≠ .interlude expired tokens) →
      Solvent (final step (deployed self tokens pendingFees) inputs) →
      Solvent (step input (final step (deployed self tokens pendingFees) inputs)) := by
  intro every
  have solvent := every 9 coffers (owedBoth 1000) preferringEight convertedClaim
    (by simp [convertedClaim]) (preferringEight_solvent (by decide)) 8
  exact absurd solvent (by decide)

end StellarSwipe.FeeCollector
