import StellarSwipe.FeeCollector.Collection
import StellarSwipe.FeeCollector.Configuration
import StellarSwipe.FeeCollector.Payouts
import StellarSwipe.Library.Runs

/-!
# The fee collector as a state machine

Every entry point is a call, and a step takes one call with its surroundings and the oracle's
answers.
-/

namespace StellarSwipe.FeeCollector

open Program FixedWidth Runs

inductive Call where
  | setting (setting : Setting)
  | collectFee (trader token : Address) (tradeAmount : Int) (tradeAsset : Asset)
  | batchCollectFees (items : List BatchFeeInput)
  | queueFailedFeeCollection (admin : Address) (failed : FailedFeeCollection)
  | retryFailedFeeCollection (admin : Address) (id : String)
  | claimFees (provider token : Address)
  | queueWithdrawal (recipient token : Address) (amount : Int)
  | withdrawTreasuryFees (recipient token : Address) (amount : Int)
  | depositInsuranceFund (sender token : Address) (amount : Int)
  | payoutInsurance (caller recipient token : Address) (amount : Int) (claimId : String)
  | distributeWaterfall (token : Address) (totalAmount : Int)
  | triggerRevenueShareSnapshot (caller token : Address)
  | interlude (expired : List Nat) (tokens : Tokens)

/-- A call, its surroundings, and what the oracle answers during it. -/
structure Input where
  env : Env
  feed : Feed
  call : Call

/-- What happens between calls: temporary entries expire and tokens move elsewhere. -/
def interlude (expired : List Nat) (tokens : Tokens) : FeeProgram Unit :=
  modify fun world => (world.setTraders { world.store.traders with
    feeCache := expired.foldl (fun cache key => cache.erase key)
      world.store.traders.feeCache }).setTokens tokens

def exec (env : Env) (feed : Feed) : Call → FeeProgram Unit
  | .setting setting => setting.exec env
  | .collectFee trader token tradeAmount tradeAsset =>
    discard (FeeCollector.collectFee env feed trader token tradeAmount tradeAsset)
  | .batchCollectFees items => discard (FeeCollector.batchCollectFees env feed items)
  | .queueFailedFeeCollection admin failed =>
    FeeCollector.queueFailedFeeCollection env admin failed
  | .retryFailedFeeCollection admin id =>
    discard (FeeCollector.retryFailedFeeCollection env feed admin id)
  | .claimFees provider token => discard (FeeCollector.claimFees env feed provider token)
  | .queueWithdrawal recipient token amount =>
    FeeCollector.queueWithdrawal env recipient token amount
  | .withdrawTreasuryFees recipient token amount =>
    FeeCollector.withdrawTreasuryFees env recipient token amount
  | .depositInsuranceFund sender token amount =>
    FeeCollector.depositInsuranceFund env sender token amount
  | .payoutInsurance caller recipient token amount claimId =>
    FeeCollector.payoutInsurance env caller recipient token amount claimId
  | .distributeWaterfall token totalAmount =>
    discard (FeeCollector.distributeWaterfall env token totalAmount)
  | .triggerRevenueShareSnapshot caller token =>
    FeeCollector.triggerRevenueShareSnapshot env caller token
  | .interlude expired tokens => FeeCollector.interlude expired tokens

def step (input : Input) (world : World) : World :=
  invoke (exec input.env input.feed input.call) world

/-- A call with the worlds around it. -/
abbrev Taken := Transition World Input

/-- A call with the worlds around it, as a step takes it. -/
def taking (input : Input) (pre : World) : Taken := ⟨pre, input, step input pre⟩

theorem step_rule (property : World → Prop) {input : Input} {pre : World} (held : property pre)
    (established : wp (exec input.env input.feed input.call) (fun _ after => property after)
      (fun _ _ => True) pre) : property (step input pre) :=
  invoke_rule (wp_mono established (fun _ _ known => known) fun _ _ _ => held)

/-- Fees of a day are only added to. -/
def Grown (pre after : Table (Address × Nat) Int) : Prop :=
  ∀ key, pre.read key ≤ i128.high → pre.read key ≤ after.read key ∧ after.read key ≤ i128.high

theorem Grown.refl (fees : Table (Address × Nat) Int) : Grown fees fees :=
  fun _ bounded => ⟨le_refl _, bounded⟩

theorem Grown.trans {pre middle after : Table (Address × Nat) Int}
    (prior : Grown pre middle) (later : Grown middle after) : Grown pre after := by
  intro key bounded
  have first := prior key bounded
  have second := later key first.2
  exact ⟨first.1.trans second.1, second.2⟩

/-- Two worlds that agree on the settings, the queued withdrawal, the failed collections
and the rebates, and between which fees were at most collected. -/
structure Apart (pre after : World) : Prop where
  settings : after.store.settings = pre.store.settings
  queued : after.store.queuedWithdrawal = pre.store.queuedWithdrawal
  failed : after.store.failedCollections = pre.store.failedCollections
  rebates : after.store.accounts.epochRebateDistributed =
    pre.store.accounts.epochRebateDistributed
  fees : Grown pre.store.accounts.dailyFeeTotal after.store.accounts.dailyFeeTotal

section Specifications

variable (env : Env) (feed : Feed) (pre : World)

theorem Apart.refl : Apart pre pre := ⟨rfl, rfl, rfl, rfl, .refl _⟩

variable {pre} in
theorem Apart.trans {middle after : World} (prior : Apart pre middle)
    (later : Apart middle after) : Apart pre after :=
  ⟨later.settings.trans prior.settings, later.queued.trans prior.queued,
    later.failed.trans prior.failed, later.rebates.trans prior.rebates,
    prior.fees.trans later.fees⟩

theorem Apart.ofTraders (traders : Traders) : Apart pre (pre.setTraders traders) :=
  ⟨rfl, rfl, rfl, rfl, .refl _⟩

theorem Apart.ofTokens (tokens : Tokens) : Apart pre (pre.setTokens tokens) :=
  ⟨rfl, rfl, rfl, rfl, .refl _⟩

theorem Apart.ofAccounts {accounts : Accounts}
    (rebates : accounts.epochRebateDistributed = pre.store.accounts.epochRebateDistributed)
    (fees : Grown pre.store.accounts.dailyFeeTotal accounts.dailyFeeTotal) :
    Apart pre (pre.setAccounts accounts) :=
  ⟨rfl, rfl, rfl, rebates, fees⟩

theorem grown_addDailyFeeTotal (accounts : Accounts) (token : Address) (day : Nat) {fee : Int}
    (pos : 0 < fee) :
    Grown accounts.dailyFeeTotal (accounts.addDailyFeeTotal token day fee).dailyFeeTotal := by
  intro key bounded
  simp only [Accounts.addDailyFeeTotal, Table.read_insert]
  split
  next same =>
    subst same
    have ordered := i128.ordered
    simp only [Range.saturatingAdd, Range.clamp]
    omega
  next => exact ⟨le_refl _, bounded⟩

/-- The later world remembers other things of its traders, but the same cached fees. -/
def Remembers (pre after : World) : Prop :=
  ∃ traders, after = pre.setTraders traders ∧ traders.feeCache = pre.store.traders.feeCache

theorem Remembers.refl : Remembers pre pre := ⟨pre.store.traders, rfl, rfl⟩

variable {pre} in
theorem Remembers.apart {after : World} (remembers : Remembers pre after) : Apart pre after := by
  obtain ⟨traders, rfl, _⟩ := remembers
  exact .ofTraders pre traders

theorem activeMonthlyTradeVolume_remembers (user : Address) :
    wp (activeMonthlyTradeVolume env user) (fun _ after => Remembers pre after)
      (fun _ after => Remembers pre after) pre := by
  simp only [activeMonthlyTradeVolume, wp_rules]
  cases pre.store.traders.monthlyVolume.lookup user with
  | none => exact .refl pre
  | some volume =>
    simp only [wp_ite, wp_rules]
    exact ⟨fun _ => .refl pre, fun _ => ⟨_, rfl, rfl⟩⟩

theorem recordTradeVolume_remembers (user : Address) (tradeAsset : Asset) (amount : Int) :
    wp (recordTradeVolume env feed user tradeAsset amount)
      (fun _ after => Remembers pre after) (fun _ after => Remembers pre after) pre := by
  simp only [recordTradeVolume, wp_rules]
  refine ⟨fun _ _ => ⟨fun _ _ => ?_, fun _ => .refl pre⟩, fun _ => .refl pre⟩
  apply wp_mono (activeMonthlyTradeVolume_remembers env pre user) ?_
    fun _ _ remembers => remembers
  rintro active middle ⟨traders, rfl, cache⟩
  exact ⟨fun _ _ => ⟨_, rfl, cache⟩, fun _ => ⟨_, rfl, cache⟩⟩

theorem loadTxFeeConfig_loads : wlp loadTxFeeConfig (fun cache after =>
      (∃ key, pre.store.traders.feeCache.lookup key = some cache) ∧ after = pre ∨
      cache.burnRate = pre.store.settings.getBurnRate ∧
        ∃ key, after = pre.setTraders { pre.store.traders with
          feeCache := pre.store.traders.feeCache.insert key cache }) pre := by
  simp only [loadTxFeeConfig, wp_rules]
  cases has : pre.store.traders.feeCache.lookup
      (pre.store.settings.configVersion % 10) with
  | some cached => exact .inl ⟨⟨_, has⟩, rfl⟩
  | none =>
    simp only [wp_rules]
    exact .inr ⟨trivial, _, rfl⟩

theorem loadTxFeeConfig_apart : wlp loadTxFeeConfig (fun _ after => Apart pre after) pre := by
  apply wp_then (loadTxFeeConfig_loads pre) ?_
  rintro cache _ (⟨_, rfl⟩ | ⟨_, _, rfl⟩)
  · exact .refl _
  · exact .ofTraders pre _

variable (trader : Address) (token : Address)

theorem transfer_apart (sender receiver : Address) (amount : Int) :
    wlp (transfer env token sender receiver amount) (fun _ after => Apart pre after) pre := by
  simp only [wp_transfer, implies_true, and_true]
  exact fun tokens _ => .ofTokens pre tokens

theorem burnOwn_apart (amount : Int) :
    wlp (burnOwn env token amount) (fun _ after => Apart pre after) pre := by
  simp only [burnOwn, wp_ite, wlp_rules, wp_burn]
  exact ⟨fun _ tokens _ => .ofTokens pre tokens, fun _ => .refl pre⟩

theorem payReferrer_apart (fee distributable : Int) :
    wlp (payReferrer env trader token fee distributable) (fun _ after => Apart pre after) pre := by
  simp only [payReferrer, wp_rules]
  cases pre.store.settings.referrer.lookup trader with
  | none => exact .refl pre
  | some referrer =>
    simp only [wp_ite, wlp_rules, wp_transfer]
    exact ⟨fun _ tokens _ => .ofTokens pre tokens, fun _ => .refl pre⟩

theorem creditFee_apart (distributable remaining : Int) :
    wlp (creditFee token distributable remaining) (fun _ after => Apart pre after) pre := by
  simp only [creditFee, wlp_rules, wp_ite]
  refine ⟨fun _ _ _ => ?_, fun _ _ _ => .ofAccounts pre rfl (.refl _)⟩
  exact ⟨rfl, rfl, rfl, rfl, .refl _⟩

theorem chargeFee_apart (tradeAmount : Int) (tradeAsset : Asset) {fee : Int} (burned : Int)
    (pos : 0 < fee) : wlp (chargeFee env feed trader token tradeAmount tradeAsset fee burned)
      (fun _ after => Apart pre after) pre := by
  simp only [chargeFee, wp_rules]
  apply wp_then (transfer_apart env pre token trader pre.self fee) ?_
  intro _ paid transferred
  refine ⟨fun distributable _ => ?_, fun _ => trivial⟩
  apply wp_then (burnOwn_apart env paid token burned) ?_
  intro _ burnt burning
  apply wp_then (payReferrer_apart env burnt trader token fee distributable) ?_
  intro remaining referred referring
  apply wp_then (creditFee_apart referred token distributable remaining) ?_
  intro _ credited crediting
  apply wp_then (recordTradeVolume_remembers env feed credited trader tradeAsset
    tradeAmount) ?_
  intro _ recorded recording
  have settled := (((transferred.trans burning).trans referring).trans crediting).trans
    recording.apart
  exact settled.trans
    (.ofAccounts recorded rfl (grown_addDailyFeeTotal _ token (dayOf env.timestamp) pos))

/-- A collection reaches the fees of its day and nothing that other rules guard. -/
theorem collectFeeWithRecovery_apart (tradeAmount : Int) (tradeAsset : Asset) :
    wlp (collectFeeWithRecovery env feed trader token tradeAmount tradeAsset)
      (fun _ after => Apart pre after) pre := by
  simp only [collectFeeWithRecovery, wlp_rules, wp_initialized, wp_notPaused,
    wp_auth, wp_ite, wp_attempt]
  intro _ _ _ _
  refine ⟨fun _ => ?_, fun _ => ?_⟩
  · have waived := Apart.ofTraders pre { pre.store.traders with
      hasTraded := pre.store.traders.hasTraded.insert trader true }
    apply wp_mono (recordTradeVolume_remembers env feed _ trader tradeAsset tradeAmount)
      (fun _ _ recording => waived.trans recording.apart)
    intro reason after recording
    cases reason with
    | error => exact waived.trans recording.apart
    | trap => trivial
  · apply wp_then (loadTxFeeConfig_apart pre) ?_
    intro cache loaded loading
    apply wp_then (activeMonthlyTradeVolume_remembers env loaded trader) ?_
    intro active current reading amounts _ pos
    exact wp_then (chargeFee_apart env feed current trader token tradeAmount tradeAsset
      amounts.2 pos) (fun _ _ charging => (loading.trans reading.apart).trans charging)

theorem collectEach_apart (items : List BatchFeeInput) :
    wlp (collectEach env feed items) (fun _ after => Apart pre after) pre := by
  induction items generalizing pre with
  | nil => exact .refl pre
  | cons item rest ih =>
    simp only [collectEach, wp_rules]
    apply wp_then (collectFeeWithRecovery_apart env feed pre item.trader item.token
      item.tradeAmount item.tradeAsset) ?_
    intro _ middle first
    exact wp_then (ih middle) (fun _ _ later => first.trans later)

theorem batchCollectFees_apart (items : List BatchFeeInput) :
    wlp (batchCollectFees env feed items) (fun _ after => Apart pre after) pre := by
  simp only [batchCollectFees, wlp_rules]
  intro _
  apply wp_then (loadTxFeeConfig_apart pre) ?_
  intro _ middle loading
  exact wp_then (collectEach_apart env feed middle items)
    (fun _ _ collecting => loading.trans collecting)

/-- The waterfall moves tokens to its tiers. The induction is on the tiers. -/
theorem fundTiers_apart (tiers : List WaterfallTier) (remaining distributed : Int) :
    wlp (fundTiers env token tiers remaining distributed) (fun _ after => Apart pre after) pre := by
  induction tiers generalizing pre remaining distributed with
  | nil => exact .refl pre
  | cons tier rest ih =>
    rw [fundTiers]
    cases tier.allocation remaining with
    | none =>
      simp only [wp_rules]
      exact ih pre remaining distributed
    | some allocated =>
      simp only [wlp_rules, wp_transfer]
      intro tokens _ left _ given _
      exact wp_then (ih (pre.setTokens tokens) left given)
        (fun _ _ later => (Apart.ofTokens pre tokens).trans later)

/-- The calls that collect fees or move money between other accounts. -/
def Call.Bystander : Call → Prop
  | .collectFee _ _ _ _ | .batchCollectFees _ | .depositInsuranceFund _ _ _ => True
  | .payoutInsurance _ _ _ _ _ | .distributeWaterfall _ _ => True
  | .triggerRevenueShareSnapshot _ _ | .interlude _ _ => True
  | _ => False

theorem bystander_apart {call : Call} (bystander : call.Bystander) :
    wp (exec env feed call) (fun _ after => Apart pre after) (fun _ _ => True) pre := by
  cases call <;> rw [exec]
  case setting => exact absurd bystander id
  case queueFailedFeeCollection => exact absurd bystander id
  case retryFailedFeeCollection => exact absurd bystander id
  case claimFees => exact absurd bystander id
  case queueWithdrawal => exact absurd bystander id
  case withdrawTreasuryFees => exact absurd bystander id
  case collectFee =>
    rw [wp_discard]
    exact collectFeeWithRecovery_apart env feed pre _ _ _ _
  case batchCollectFees =>
    rw [wp_discard]
    exact batchCollectFees_apart env feed pre _
  case depositInsuranceFund =>
    simp only [depositInsuranceFund, wlp_rules, wp_initialized, wp_notPaused,
      wp_auth, wp_transfer]
    exact fun _ _ _ _ _ _ _ _ => ⟨rfl, rfl, rfl, rfl, .refl _⟩
  case payoutInsurance =>
    simp only [payoutInsurance, requireAdminOrListed, wlp_rules, wp_initialized,
      wp_notPaused, wp_auth, wp_getAdmin, wp_transfer]
    exact fun _ _ _ _ _ _ _ _ _ _ _ _ _ _ => ⟨rfl, rfl, rfl, rfl, .refl _⟩
  case distributeWaterfall token totalAmount =>
    simp only [distributeWaterfall, requireAdmin, wlp_rules, wp_initialized,
      wp_notPaused, wp_getAdmin, wp_auth]
    intro _ _ _ _ _ _ tiers _ _
    apply wp_then (fundTiers_apart env pre token _ totalAmount 0) ?_
    intro funded middle funding _ _
    exact funding.trans (.ofAccounts middle rfl (.refl _))
  case triggerRevenueShareSnapshot =>
    simp only [triggerRevenueShareSnapshot, requireAdmin, wlp_rules, wp_initialized,
      wp_getAdmin, wp_auth, wp_ite]
    exact fun _ _ _ _ _ => ⟨fun _ => .ofAccounts pre rfl (.refl _), fun _ => .refl pre⟩
  case interlude => exact ⟨rfl, rfl, rfl, rfl, .refl _⟩

end Specifications

end StellarSwipe.FeeCollector
