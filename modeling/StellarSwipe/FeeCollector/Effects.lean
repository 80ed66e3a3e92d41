import StellarSwipe.FeeCollector.Entrypoints

/-!
# What claims, retries and withdrawals do

One theorem for each entry point that reaches an entry guarded by a rule of its own, and from them
the calls that leave the queued withdrawal and the failed collections alone.
-/

namespace StellarSwipe.FeeCollector

open Program FixedWidth Accounts

variable (env : Env) (feed : Feed) (pre : World)

theorem cleared_read (accounts : Accounts) (provider token : Address) :
    (accounts.clearPending provider token).pendingFees.read (provider, token) = 0 := by
  rw [clearPending, Table.read_insert, if_pos rfl]

variable (provider : Address) (token : Address)

theorem convertClaim_spec (amount : Int) : wlp (convertClaim env feed provider token amount)
      (fun converted after => (converted ≠ none →
        after.store.accounts.pendingFees.read (provider, token) = 0) ∧ Apart pre after) pre := by
  simp only [convertClaim, wp_rules]
  cases pre.store.settings.payoutCurrency.lookup provider with
  | none => exact ⟨fun some => absurd rfl some, .refl pre⟩
  | some prefToken =>
    simp only [wp_ite, wp_pure]
    refine ⟨fun _ => ?_, fun _ => ⟨fun some => absurd rfl some, .refl pre⟩⟩
    simp only [tryClaimInPreferredCurrency, wp_rules]
    split
    · exact ⟨fun some => absurd rfl some, .refl pre⟩
    · simp only [wlp_rules, wp_transfer]
      exact fun tokens _ => ⟨fun _ => cleared_read _ provider token, rfl, rfl, rfl, rfl, .refl _⟩

theorem transferPositive_apart (sender receiver : Address) (amount : Int) :
    wlp (transferPositive env token sender receiver amount) (fun _ after => Apart pre after)
      pre := by
  simp only [transferPositive, wp_ite, wp_transfer, wp_pure, asks_true]
  exact ⟨fun _ tokens _ => .ofTokens pre tokens, fun _ => .refl pre⟩

theorem settleClaim_spec (amount : Int) : wp (settleClaim env feed provider token amount)
      (fun paid after => paid = amount ∧
        after.store.accounts.pendingFees.read (provider, token) = 0 ∧ Apart pre after)
      (fun _ _ => True) pre := by
  rw [settleClaim, wp_bind]
  apply wp_then (convertClaim_spec env feed pre provider token amount) ?_
  rintro converted after ⟨cleared, converting⟩
  cases converted with
  | some _ => exact ⟨rfl, cleared nofun, converting⟩
  | none =>
    simp only [wp_rules]
    apply wp_then (transferPositive_apart env after token after.self provider amount) ?_
    intro _ settled settling
    refine ⟨trivial, cleared_read _ provider token, ?_⟩
    exact (converting.trans settling).trans (.ofAccounts settled rfl (.refl _))

/-- The accounts once a claim has been counted against its epoch. -/
def Accounts.withRebate (accounts : Accounts) (token : Address) (day : Nat) (amount : Int) :
    Accounts :=
  if 0 < amount ∧ 0 < accounts.dailyFeeTotal.read (token, day) then
    accounts.addEpochRebate token day amount
  else accounts

def World.claimAmount (world : World) (env : Env) (provider token : Address) : Int :=
  let accounts := world.store.accounts
  let requested := accounts.pendingFees.read (provider, token)
  if 0 < requested then
    accounts.claimable token (dayOf env.timestamp) world.store.settings.getMaxRebateBps requested
  else 0

theorem claimFees_spec : wlp (claimFees env feed provider token)
      (fun amount after => amount = pre.claimAmount env provider token ∧
        (after.store.accounts.pendingFees.read (provider, token) =
          if 0 < pre.store.accounts.pendingFees.read (provider, token) then 0
          else pre.store.accounts.pendingFees.read (provider, token)) ∧
        Apart (pre.setAccounts (pre.store.accounts.withRebate token (dayOf env.timestamp)
          amount)) after) pre := by
  simp only [claimFees, wlp_rules, wp_initialized, wp_notPaused,
    wp_validateTokenMetadata, wp_auth, wp_ite]
  intro _ _ _ _
  refine ⟨fun requested => ?_, fun none => ?_⟩
  · have amount : pre.claimAmount env provider token = pre.store.accounts.claimable token
        (dayOf env.timestamp) pre.store.settings.getMaxRebateBps
        (pre.store.accounts.pendingFees.read (provider, token)) := if_pos requested
    rw [amount]
    refine ⟨fun counted => ?_, fun uncounted => ?_⟩
    · apply wp_then (settleClaim_spec env feed _ provider token _) ?_
      rintro _ _ ⟨rfl, cleared, settling⟩
      rw [withRebate, if_pos counted, if_pos requested]
      exact ⟨rfl, cleared, settling⟩
    · apply wp_then (settleClaim_spec env feed pre provider token _) ?_
      rintro _ _ ⟨rfl, cleared, settling⟩
      rw [withRebate, if_neg uncounted, if_pos requested]
      exact ⟨rfl, cleared, settling⟩
  · have amount : pre.claimAmount env provider token = 0 := if_neg none
    refine ⟨amount.symm, (if_neg none).symm, ?_⟩
    rw [withRebate, if_neg (fun counted => absurd counted.1 (lt_irrefl 0))]
    exact .refl pre

theorem queueWithdrawal_spec (recipient token : Address) (amount : Int) :
    wp (queueWithdrawal env recipient token amount) (fun _ after =>
        after = pre.setQueued (some ⟨recipient, token, amount, env.timestamp⟩))
      (fun _ _ => True) pre := by
  -- Rewriting under the binders would have the kernel count out the day.
  unfold queueWithdrawal
  rw [wp_bind, wp_initialized]
  refine ⟨fun _ => ?_, fun _ => trivial⟩
  rw [wp_bind, wp_notPaused]
  refine ⟨fun _ => ?_, fun _ => trivial⟩
  rw [wp_bind, requireAdmin, wp_bind, wp_getAdmin]
  refine ⟨fun _ _ => ?_, fun _ => trivial⟩
  rw [wp_auth]
  refine ⟨fun _ => ?_, fun _ => trivial⟩
  rw [wp_bind, wp_ensure]
  refine ⟨fun _ => ?_, fun _ => trivial⟩
  rw [wp_bind, wp_validateTokenMetadata]
  refine ⟨fun _ => ?_, fun _ => trivial⟩
  rw [wp_bind, wp_get, wp_bind, wp_ensure]
  refine ⟨fun _ => ?_, fun _ => trivial⟩
  rw [wp_bind, wp_discard, wp_orFail]
  exact ⟨fun _ _ => rfl, fun _ => trivial⟩

theorem withdrawTreasuryFees_spec (recipient token : Address) (amount : Int) :
    wp (withdrawTreasuryFees env recipient token amount) (fun _ after => (∃ queuedAt,
          pre.store.queuedWithdrawal = some ⟨recipient, token, amount, queuedAt⟩ ∧
          queuedAt + secondsPerDay ≤ env.timestamp) ∧ after.store.queuedWithdrawal = none ∧
        Apart (pre.setQueued none) after) (fun _ _ => True) pre := by
  unfold withdrawTreasuryFees
  rw [wp_bind, wp_initialized]
  refine ⟨fun _ => ?_, fun _ => trivial⟩
  rw [wp_bind, wp_notPaused]
  refine ⟨fun _ => ?_, fun _ => trivial⟩
  rw [wp_bind, requireAdmin, wp_bind, wp_getAdmin]
  refine ⟨fun _ _ => ?_, fun _ => trivial⟩
  rw [wp_auth]
  refine ⟨fun _ => ?_, fun _ => trivial⟩
  rw [wp_bind, wp_validateTokenMetadata]
  refine ⟨fun _ => ?_, fun _ => trivial⟩
  rw [wp_bind, wp_get, wp_bind, wp_orFail]
  refine ⟨fun queued hit => ?_, fun _ => trivial⟩
  rw [wp_bind, wp_orFail]
  refine ⟨fun availableAt counted => ?_, fun _ => trivial⟩
  simp only [wlp_rules, wp_transfer]
  intro elapsed _ _ _ tokens _
  obtain ⟨has, matched⟩ := Option.filter_eq_some_iff.mp hit
  obtain ⟨rfl, rfl, rfl⟩ : queued.recipient = recipient ∧ queued.token = token ∧
      queued.amount = amount := by simpa using matched
  obtain ⟨_, available⟩ := (checkedCount_eq_some ..).mp counted
  exact ⟨⟨queued.queuedAt, has, available ▸ elapsed⟩, rfl, rfl, rfl, rfl, rfl, .refl _⟩

theorem queueFailedFeeCollection_spec (admin : Address) (failed : FailedFeeCollection) :
    wlp (queueFailedFeeCollection env admin failed) (fun _ after => after =
        pre.setFailed (pre.store.failedCollections.insert failed.id failed)) pre := by
  simp only [queueFailedFeeCollection, requireNamedAdmin, wlp_rules, wp_initialized,
    wp_getAdmin, wp_auth]

/-- The world in which a retry collects: one more attempt is counted. -/
def World.retrying (world : World) (failed : FailedFeeCollection) : World :=
  world.setFailed (world.store.failedCollections.insert failed.id failed.retried)

/-- The collection that a retry attempts. -/
def FailedFeeCollection.collect (failed : FailedFeeCollection) (env : Env) (feed : Feed) :
    FeeProgram Int :=
  collectFeeWithRecovery env feed failed.trader failed.token failed.tradeAmount failed.tradeAsset

theorem retryFailedFeeCollection_spec (admin : Address) (id : String) :
    wlp (retryFailedFeeCollection env feed admin id)
      (fun _ after => ∃ failed middle, pre.store.failedCollections.lookup id = some failed ∧
        Apart (pre.retrying failed) middle ∧
        after = middle.setFailed (middle.store.failedCollections.erase id)) pre := by
  simp only [retryFailedFeeCollection, requireNamedAdmin, shouldRetry, wlp_rules,
    wp_initialized, wp_getAdmin, wp_auth, wp_ite, wp_attempt]
  intro _ _ _ _ _ failed has _
  refine ⟨fun _ impossible => absurd rfl impossible, fun _ _ => ?_⟩
  apply wp_mono (collectFeeWithRecovery_apart env feed (pre.retrying failed)
    failed.trader failed.token failed.tradeAmount failed.tradeAsset)
  · exact fun _ middle collecting => ⟨failed, middle, has, collecting, rfl⟩
  · intro reason _ _
    cases reason <;> trivial

/-- What a call that returns has done: it set a setting, or reached the entry that its own
rule guards, or stood by. -/
inductive CallEffect (env : Env) (pre after : World) : Call → Prop
  | stoodBy {call : Call} (bystander : call.Bystander) (apart : Apart pre after) :
    CallEffect env pre after call
  | configured (setting : Setting) (settings : Settings)
      (reached : after = pre.setSettings settings) :
    CallEffect env pre after (.setting setting)
  | recorded (admin : Address) (failed : FailedFeeCollection)
      (reached : after =
        pre.setFailed (pre.store.failedCollections.insert failed.id failed)) :
    CallEffect env pre after (.queueFailedFeeCollection admin failed)
  | retried (admin : Address) (id : String) (failed : FailedFeeCollection) (middle : World)
      (has : pre.store.failedCollections.lookup id = some failed)
      (collecting : Apart (pre.retrying failed) middle)
      (reached : after = middle.setFailed (middle.store.failedCollections.erase id)) :
    CallEffect env pre after (.retryFailedFeeCollection admin id)
  | claimed (provider token : Address)
      (claiming : Apart (pre.setAccounts (pre.store.accounts.withRebate token
        (dayOf env.timestamp) (pre.claimAmount env provider token))) after) :
    CallEffect env pre after (.claimFees provider token)
  | requested (recipient token : Address) (amount : Int)
      (reached : after = pre.setQueued (some ⟨recipient, token, amount, env.timestamp⟩)) :
    CallEffect env pre after (.queueWithdrawal recipient token amount)
  | withdrawn (recipient token : Address) (amount : Int)
      (emptied : after.store.queuedWithdrawal = none)
      (paying : Apart (pre.setQueued none) after) :
    CallEffect env pre after (.withdrawTreasuryFees recipient token amount)

theorem exec_effect (call : Call) :
    wp (exec env feed call) (fun _ after => CallEffect env pre after call) (fun _ _ => True)
      pre := by
  have bystanding (bystander : call.Bystander) :
      wp (exec env feed call) (fun _ after => CallEffect env pre after call)
        (fun _ _ => True) pre :=
    wp_then (bystander_apart env feed pre bystander)
      (fun _ _ apart => .stoodBy bystander apart)
  cases call
  case setting setting =>
    rw [exec]
    apply wp_then (setting_configures env setting pre) ?_
    rintro _ _ ⟨settings, reached⟩
    exact .configured setting settings reached
  case queueFailedFeeCollection admin failed =>
    rw [exec]
    exact wp_then (queueFailedFeeCollection_spec env pre admin failed)
      (fun _ _ reached => .recorded admin failed reached)
  case retryFailedFeeCollection admin id =>
    rw [exec, wp_discard]
    apply wp_then (retryFailedFeeCollection_spec env feed pre admin id) ?_
    rintro _ _ ⟨failed, middle, has, collecting, reached⟩
    exact .retried admin id failed middle has collecting reached
  case claimFees provider token =>
    rw [exec, wp_discard]
    apply wp_then (claimFees_spec env feed pre provider token) ?_
    rintro _ _ ⟨rfl, _, claiming⟩
    exact .claimed provider token claiming
  case queueWithdrawal recipient token amount =>
    rw [exec]
    exact wp_then (queueWithdrawal_spec env pre recipient token amount)
      (fun _ _ reached => .requested recipient token amount reached)
  case withdrawTreasuryFees recipient token amount =>
    rw [exec]
    apply wp_then (withdrawTreasuryFees_spec env pre recipient token amount) ?_
    rintro _ _ ⟨_, emptied, paying⟩
    exact .withdrawn recipient token amount emptied paying
  all_goals exact bystanding trivial

/-- The calls that neither fill nor empty the withdrawal slot. -/
def Call.KeepsQueued : Call → Prop
  | .queueWithdrawal _ _ _ | .withdrawTreasuryFees _ _ _ => False
  | _ => True

def Call.KeepsFailed : Call → Prop
  | .queueFailedFeeCollection _ _ | .retryFailedFeeCollection _ _ => False
  | _ => True

def Call.KeepsRebates : Call → Prop
  | .claimFees _ _ => False
  | _ => True

theorem exec_queued {call : Call} (silent : call.KeepsQueued) : wlp (exec env feed call)
      (fun _ after => after.store.queuedWithdrawal = pre.store.queuedWithdrawal) pre := by
  apply wp_then (exec_effect env feed pre call) ?_
  intro _ after effect
  cases effect with
  | stoodBy _ apart => exact apart.queued
  | configured _ _ reached => rw [reached, World.setSettings]
  | recorded _ _ reached => rw [reached, World.setFailed]
  | retried _ _ _ _ _ collecting reached =>
    rw [reached]
    exact collecting.queued
  | claimed _ _ claiming => exact claiming.queued
  | requested => exact absurd silent id
  | withdrawn => exact absurd silent id

theorem exec_failed {call : Call} (silent : call.KeepsFailed) : wlp (exec env feed call)
      (fun _ after => after.store.failedCollections = pre.store.failedCollections) pre := by
  apply wp_then (exec_effect env feed pre call) ?_
  intro _ after effect
  cases effect with
  | stoodBy _ apart => exact apart.failed
  | configured _ _ reached => rw [reached, World.setSettings]
  | recorded => exact absurd silent id
  | retried => exact absurd silent id
  | claimed _ _ claiming => exact claiming.failed
  | requested _ _ _ reached => rw [reached, World.setQueued]
  | withdrawn _ _ _ _ paying => exact paying.failed

end StellarSwipe.FeeCollector
