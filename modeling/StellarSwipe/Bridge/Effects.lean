import StellarSwipe.Bridge.Contract

/-!
# What calls on the bridge write

Calls on transfers write one transfer, and beside it the limits on volume, the wrapped balances or
the records that guard against replays.
-/

namespace StellarSwipe.Bridge

open FixedWidth Program Runs Table

/-- What counting an amount against its route leaves of the windows. -/
inductive RouteConsumed (now : Nat) (pre : BridgeStore) (amount : Int) (route : Route) :
    Table Route WithdrawalWindow → Prop where
  | unset (none : pre.routeConfigs.lookup route = none) :
      RouteConsumed now pre amount route pre.withdrawalWindows
  | unlimited {config : WithdrawalRouteConfig}
      (configured : pre.routeConfigs.lookup route = some config)
      (unlimited : ¬ (0 < config.aggregateWindowLimit ∧ 0 < config.windowSeconds)) :
      RouteConsumed now pre amount route pre.withdrawalWindows
  | counted {config : WithdrawalRouteConfig} {window : WithdrawalWindow}
      (configured : pre.routeConfigs.lookup route = some config)
      (limited : 0 < config.aggregateWindowLimit ∧ 0 < config.windowSeconds)
      (current : window = config.windowAt (pre.withdrawalWindows.lookup route) now)
      (within : sumOrMax window.totalVolume amount ≤ config.aggregateWindowLimit) :
      RouteConsumed now pre amount route (pre.withdrawalWindows.insert route
        ⟨window.windowStart, sumOrMax window.totalVolume amount⟩)

/-- An amount that passed all limits on volume. -/
structure VolumeCounted (now : Nat) (pre : BridgeStore) (amount : Int) (route : Route)
    (windows : Table Route WithdrawalWindow) (volume : DailyVolume) : Prop where
  pos : 0 < amount
  configured : ∃ config, pre.config = some config ∧
    volume.totalAmount ≤ config.security.dailyTransferLimit
  consumed : RouteConsumed now pre amount route windows
  counted : volume = ⟨(DailyVolume.today pre.dailyVolume now).dayStart,
    sumOrMax (DailyVolume.today pre.dailyVolume now).totalAmount amount⟩

section Volume

variable {pre : BridgeStore}

/-- The window of a route takes up an amount within its limits. -/
theorem consumeRoute_spec (env : Env) (amount : Int) (route : Route) :
    wlp (consumeRoute env amount route)
      (fun _ after => ∃ windows, RouteConsumed env.timestamp pre amount route windows ∧
        after = { pre with withdrawalWindows := windows }) pre := by
  simp only [consumeRoute, wp_rules]
  cases configured : pre.routeConfigs.lookup route with
  | none => exact ⟨_, .unset configured, rfl⟩
  | some config =>
    simp only [wlp_rules, wp_ite]
    intro _
    constructor
    · intro limited within
      exact ⟨_, .counted configured limited rfl (not_lt.mp within), rfl⟩
    · intro unlimited
      exact ⟨_, .unlimited configured unlimited, rfl⟩

/-- An amount within the limits is counted for its day and its route. -/
theorem validateAmountAndLimits_spec (env : Env) (amount : Int) (route : Route) :
    wlp (validateAmountAndLimits env amount route) (fun _ after => ∃ windows volume,
        VolumeCounted env.timestamp pre amount route windows volume ∧
        after = { pre with
          withdrawalWindows := windows
          dailyVolume := some volume }) pre := by
  simp only [validateAmountAndLimits, wp_bind, wp_ensure, wp_getConfig, implies_true, and_true]
  intro pos config configured _
  refine wp_then (consumeRoute_spec env amount route) ?_
  rintro _ after ⟨windows, consumed, rfl⟩
  simp only [wp_get, wp_modify]
  intro within _
  exact ⟨windows, _, ⟨not_le.mp pos, ⟨config, configured, not_lt.mp within⟩, consumed, rfl⟩, rfl⟩

/-- Ids are given out in order. -/
theorem takeTransferId_spec : wlp takeTransferId
      (fun transferId after => ∃ config, pre.config = some config ∧
        transferId = config.nextTransferId ∧ after = { pre with
          config := some { config with nextTransferId := config.nextTransferId + 1 } }) pre := by
  simp only [takeTransferId, wlp_rules, wp_getConfig]
  intro config configured _
  exact ⟨config, configured, rfl, rfl⟩

end Volume

/-- The storage with a transfer registered under the next id, and its volume counted. -/
def BridgeStore.registered (store : BridgeStore) (config : BridgeConfig)
    (transfer : BridgeTransfer) (windows : Table Route WithdrawalWindow) (volume : DailyVolume) :
    BridgeStore :=
  { store with
    config := some { config with nextTransferId := config.nextTransferId + 1 }
    transfers := store.transfers.insert config.nextTransferId transfer
    withdrawalWindows := windows
    dailyVolume := some volume }

/-- The storage with an amount added to a wrapped balance and to the total. -/
def BridgeStore.adjusted (store : BridgeStore) (user : Address) (wrappedAsset : String)
    (amount : Int) : BridgeStore :=
  { store with
    wrappedBalances := store.wrappedBalances.insert (user, wrappedAsset)
      (store.wrappedBalances.read (user, wrappedAsset) + amount)
    totalMinted := some (store.minted + amount) }

/-- What a message that is registered at a time writes. -/
inductive LockMintRegistered (now expiresAt : Nat) (pre : BridgeStore)
    (request : LockMintRequest) : BridgeStore → Prop where
  | intro {config : BridgeConfig} {windows : Table Route WithdrawalWindow} {volume : DailyVolume}
      (configured : pre.config = some config) (unexpired : now < expiresAt)
      (fresh : pre.replayLocks.lookup request.message = none)
      (counted : VolumeCounted now pre request.amount request.route windows volume) :
      LockMintRegistered now expiresAt pre request
        { pre.registered config (request.transfer now expiresAt) windows volume with
          replayLocks := pre.replayLocks.insert request.message true }

inductive Approved (now : Nat) (pre : BridgeStore) (validator : Address) (transferId : Nat)
    (signature : String) (kind : TransferKind) (approvalKind : ValidatorApprovalKind) :
    BridgeStore → Prop where
  | intro {config : BridgeConfig} {transfer : BridgeTransfer}
      (configured : pre.config = some config)
      (has : pre.transfer transferId = some transfer) (ofKind : transfer.kind = kind)
      (unfinished : transfer.status ≠ .completed) (mem : validator ∈ config.validatorSet.validators)
      (fresh : ∀ approval ∈ transfer.approvals, approval.validator ≠ validator) :
      Approved now pre validator transferId signature kind approvalKind
        ({ pre with
          usedSignatures := pre.usedSignatures.insert
            (validator, transferId, approvalKind, signature) true }.putTransfer transferId
          (transfer.approvedBy
            (transfer.approvals ++ [ValidatorApproval.mk validator signature now approvalKind])
            config.security.requiredValidatorSignatures))

/-- What a returning call on transfers writes. -/
inductive TransferEffect (now : Nat) (pre : BridgeStore) : TransferCall → BridgeStore → Prop where
  | initiateLockMint {request : LockMintRequest} {expiresAt : Nat} {after : BridgeStore}
      (registered : LockMintRegistered now expiresAt pre request after) :
      TransferEffect now pre (.initiateLockMint request) after
  | initiateLockMintWithExpiry {request : LockMintRequest} {expiresAt : Nat} {after : BridgeStore}
      (registered : LockMintRegistered now expiresAt pre request after) :
      TransferEffect now pre (.initiateLockMintWithExpiry request expiresAt) after
  | approveLockMint {validator : Address} {transferId : Nat} {signature : String}
      {after : BridgeStore}
      (approved : Approved now pre validator transferId signature .lockMint .lockMint after) :
      TransferEffect now pre (.approveLockMint validator transferId signature) after
  | executeLockMint {admin : Address} {transferId : Nat} {transfer : BridgeTransfer}
      (has : pre.transfer transferId = some transfer) (ofKind : transfer.kind = .lockMint)
      (ready : transfer.status = .readyToExecute)
      (unexpired : transfer.expiresAt ≠ 0 → now < transfer.expiresAt)
      (consumedMessages : Table String Bool) :
      TransferEffect now pre (.executeLockMint admin transferId)
        { (pre.adjusted transfer.user transfer.wrappedAsset transfer.amount).putTransfer
            transferId (transfer.completedAt now) with
          consumedMessages }
  | initiateBurnUnlock {request : BurnUnlockRequest} {config : BridgeConfig}
      {windows : Table Route WithdrawalWindow} {volume : DailyVolume}
      (configured : pre.config = some config)
      (covered : (request.amount : Int) ≤
        pre.wrappedBalances.read (request.user, request.route.wrappedAsset))
      (counted : VolumeCounted now pre request.amount request.route windows volume) :
      TransferEffect now pre (.initiateBurnUnlock request)
        ((pre.adjusted request.user request.route.wrappedAsset (-request.amount)).registered
          config (request.transfer config.nextTransferId now) windows volume)
  | approveBurnUnlock {validator : Address} {transferId : Nat} {signature : String}
      {after : BridgeStore}
      (approved : Approved now pre validator transferId signature .burnUnlock .burnUnlock after) :
      TransferEffect now pre (.approveBurnUnlock validator transferId signature) after
  | executeBurnUnlock {admin : Address} {transferId : Nat} {transfer : BridgeTransfer}
      (has : pre.transfer transferId = some transfer) (ofKind : transfer.kind = .burnUnlock)
      (ready : transfer.status = .readyToExecute) :
      TransferEffect now pre (.executeBurnUnlock admin transferId)
        (pre.putTransfer transferId (transfer.completedAt now))
  | markTransferFailed {admin : Address} {transferId : Nat} {reason : String} {retryable : Bool}
      {transfer : BridgeTransfer} (has : pre.transfer transferId = some transfer)
      (unfinished : transfer.status ≠ .completed)
      (revocable : ¬ (transfer.status = .failed ∧ transfer.retryable = false)) :
      TransferEffect now pre (.markTransferFailed admin transferId reason retryable)
        (pre.putTransfer transferId { transfer with
          status := .failed
          failureReason := some reason
          retryable })
  | retryTransfer {admin : Address} {transferId : Nat} {transfer : BridgeTransfer}
      (has : pre.transfer transferId = some transfer) (failed : transfer.status = .failed)
      (revocable : transfer.retryable = true) :
      TransferEffect now pre (.retryTransfer admin transferId)
        (pre.putTransfer transferId { transfer with
          status := .readyToExecute
          failureReason := none
          retryable := false })

section Transfers

variable {pre : BridgeStore}

/-- A returning request registers one transfer and spends its message. -/
theorem initiateLockMintInner_spec (key : MessageKey) (env : Env) (request : LockMintRequest)
    (expiresAt : Nat) : wlp (initiateLockMintInner key env request expiresAt)
      (fun _ after => LockMintRegistered env.timestamp expiresAt pre request after) pre := by
  simp only [initiateLockMintInner, validateMessageExpiry, wp_bind, wp_notPaused,
    wp_auth, wp_ensure, wp_ensureChainAllowed, implies_true, and_true]
  intro _ _ unexpired _ _
  refine wp_then (validateAmountAndLimits_spec env _ _) ?_
  rintro _ after ⟨windows, volume, counted, rfl⟩
  simp only [wp_ensureWrappedAssetExists, wp_get, wp_orTrap, implies_true, and_true]
  intro _ deploymentId _ fresh _
  refine wp_then takeTransferId_spec ?_
  rintro _ final ⟨config, configured, rfl, rfl⟩
  simp only [wp_storeTransfer, wp_modify, wp_pure]
  exact .intro configured (not_le.mp unexpired) fresh counted

/-- A returning approval is by a validator of the set, for the first time. -/
theorem recordApproval_spec {config : BridgeConfig} {transfer : BridgeTransfer} (env : Env)
    (validator : Address) (transferId : Nat) (signature : String) {kind : TransferKind}
    (approvalKind : ValidatorApprovalKind) (configured : pre.config = some config)
    (has : pre.transfer transferId = some transfer) (ofKind : transfer.kind = kind)
    (unfinished : transfer.status ≠ .completed) :
    wlp (recordApproval env config transfer validator transferId signature approvalKind)
      (fun _ after =>
        Approved env.timestamp pre validator transferId signature kind approvalKind after) pre := by
  simp only [recordApproval, verifyAndRecordApproval, wlp_rules, wp_storeTransfer]
  intro mem _ fresh
  exact .intro configured has ofKind unfinished mem fresh

variable {post : Unit → BridgeStore → Prop}

theorem wp_adjustWrapped (user : Address) (wrappedAsset : String) (amount : Int)
    (holds : post () (pre.adjusted user wrappedAsset amount)) :
    wlp (adjustWrapped user wrappedAsset amount) post pre := by
  simp only [adjustWrapped, wp_rules, wp_raw]
  exact fun _ _ => holds

theorem wp_ensureReady (transfer : BridgeTransfer) (unready : BridgeError)
    (holds : transfer.status = .readyToExecute → post () pre) :
    wlp (ensureReady transfer unready) post pre := by
  simp only [ensureReady, wlp_rules]
  exact fun _ _ => holds

/-- Every returning call on transfers has one of the effects. -/
theorem TransferCall.exec_effect (key : MessageKey) (call : TransferCall) (env : Env) :
    wlp (call.exec key env) (fun _ after => TransferEffect env.timestamp pre call after) pre := by
  cases call with
  | initiateLockMint request =>
    simp only [exec, Bridge.initiateLockMint, wp_discard]
    exact wp_then (initiateLockMintInner_spec key env request _)
      (fun _ _ => .initiateLockMint)
  | initiateLockMintWithExpiry request expiresAt =>
    simp only [exec, Bridge.initiateLockMintWithExpiry, wp_discard]
    exact wp_then (initiateLockMintInner_spec key env request expiresAt)
      (fun _ _ => .initiateLockMintWithExpiry)
  | approveLockMint validator transferId signature =>
    simp only [exec, Bridge.approveLockMint, ensureNotExpired, wp_bind, wp_auth,
      wp_getConfig, wp_getTransfer, wp_ensure, implies_true, and_true]
    intro _ config configured transfer has allowed _
    obtain ⟨ofKind, unfinished⟩ := not_or.mp allowed
    exact wp_then (recordApproval_spec env validator transferId signature .lockMint
      configured has (not_not.mp ofKind) unfinished) (fun _ _ => .approveLockMint)
  | executeLockMint admin transferId =>
    simp only [exec, Bridge.executeLockMint, ensureNotExpired, wp_bind, wp_notPaused,
      wp_discard, wp_requireAdmin, wp_auth, wp_getTransfer, wp_ensure, implies_true,
      and_true]
    intro _ _ _ _ _ transfer has ofKind
    refine wp_ensureReady transfer _ fun ready unexpired => ?_
    refine wp_adjustWrapped _ _ _ ?_
    have timely : transfer.expiresAt ≠ 0 → env.timestamp < transfer.expiresAt := by
      intro expiring
      by_contra late
      exact unexpired ⟨expiring, not_lt.mp late⟩
    simp only [wp_storeTransfer, wp_get, wp_orTrap, wp_ite, wp_modify, wp_pure, implies_true,
      and_true]
    intro deploymentId _
    exact ⟨fun _ => .executeLockMint has ofKind ready timely _,
      fun _ => .executeLockMint has ofKind ready timely _⟩
  | initiateBurnUnlock request =>
    simp only [exec, Bridge.initiateBurnUnlock, wp_bind, wp_discard, wp_notPaused,
      wp_auth, wp_ensureChainAllowed]
    intro _ _ _
    refine wp_then (validateAmountAndLimits_spec env _ _) ?_
    rintro _ after ⟨windows, volume, counted, rfl⟩
    simp only [wp_get, wp_ensure, implies_true, and_true]
    intro covered
    refine wp_adjustWrapped _ _ _ ?_
    refine wp_then takeTransferId_spec ?_
    rintro _ final ⟨config, configured, rfl, rfl⟩
    simp only [wp_storeTransfer, wp_pure]
    exact .initiateBurnUnlock configured (not_lt.mp covered) counted
  | approveBurnUnlock validator transferId signature =>
    simp only [exec, Bridge.approveBurnUnlock, wp_bind, wp_auth, wp_getConfig,
      wp_getTransfer, wp_ensure, implies_true, and_true]
    intro _ config configured transfer has allowed
    obtain ⟨ofKind, unfinished⟩ := not_or.mp allowed
    exact wp_then (recordApproval_spec env validator transferId signature .burnUnlock
      configured has (not_not.mp ofKind) unfinished) (fun _ _ => .approveBurnUnlock)
  | executeBurnUnlock admin transferId =>
    simp only [exec, Bridge.executeBurnUnlock, wp_bind, wp_notPaused, wp_requireAdmin,
      wp_auth, wp_getTransfer, wp_ensure, implies_true, and_true]
    intro _ config _ _ _ transfer has ofKind
    refine wp_ensureReady transfer _ fun ready => ?_
    simp only [wp_demand, wp_storeTransfer, implies_true, and_true]
    intro _ _
    exact .executeBurnUnlock has ofKind ready
  | markTransferFailed admin transferId reason retryable =>
    simp only [exec, Bridge.markTransferFailed, wp_bind, wp_discard, wp_requireAdmin,
      wp_auth, wp_getTransfer, wp_ensure, wp_storeTransfer, implies_true, and_true]
    intro _ _ _ _ transfer has allowed revocable
    exact .markTransferFailed has (not_or.mp allowed).1 revocable
  | retryTransfer admin transferId =>
    simp only [exec, Bridge.retryTransfer, wp_bind, wp_discard, wp_requireAdmin, wp_auth,
      wp_getTransfer, wp_ensure, wp_storeTransfer, implies_true, and_true]
    intro _ _ _ _ transfer has failed revocable
    exact .retryTransfer has failed revocable

end Transfers

def SettingsCall.limited (call : SettingsCall) : Option Route :=
  match call with
  | .setWithdrawalRouteLimit _ route _ _ _ => some route
  | _ => none

/-- What a returning call on the settings leaves alone. -/
structure SettingsEffect (now : Nat) (pre : BridgeStore) (call : SettingsCall)
    (after : BridgeStore) : Prop where
  transfers : after.transfers = pre.transfers
  replayLocks : after.replayLocks = pre.replayLocks
  wrappedBalances : after.wrappedBalances = pre.wrappedBalances
  totalMinted : after.totalMinted = pre.totalMinted
  liquidity : after.liquidity = pre.liquidity
  config : after.config = pre.config ∧ after.dailyVolume = pre.dailyVolume ∨
    pre.config = none ∧ after.dailyVolume = some ⟨dayBucket now, 0⟩ ∧
      ∃ config, after.config = some config ∧ config.nextTransferId = 1 ∧
        0 < config.security.dailyTransferLimit
  routes : ∀ route, call.limited ≠ some route →
    after.routeConfigs.lookup route = pre.routeConfigs.lookup route ∧
      after.withdrawalWindows.lookup route = pre.withdrawalWindows.lookup route
  windows : ∀ route window, after.withdrawalWindows.lookup route = some window →
    pre.withdrawalWindows.lookup route = some window ∨ window = ⟨now, 0⟩

section Settings

variable {pre : BridgeStore}

theorem wp_buildValidatorSet {post : ValidatorSet → BridgeStore → Prop}
    (validators : List Address) (requiredSignatures : Nat)
    (holds : ∀ validatorSet, post validatorSet pre) :
    wlp (ofExcept (buildValidatorSet validators requiredSignatures)) post pre := by
  rw [buildValidatorSet]
  split
  · simp
  · exact holds _

/-- Every returning setting has one of the effects. -/
theorem SettingsCall.exec_effect (call : SettingsCall) (env : Env) :
    wlp (call.exec env) (fun _ after => SettingsEffect env.timestamp pre call after) pre := by
  cases call with
  | setUp admin validators required maxTransferAmount dailyTransferLimit withdrawDelaySeconds =>
    simp only [exec, initializeBridge, wp_bind, wp_get, wp_ensure, wp_auth, implies_true,
      and_true]
    intro unset _
    refine wp_buildValidatorSet _ _ fun validatorSet => ?_
    simp only [wp_modify]
    intro valid
    exact ⟨rfl, rfl, rfl, rfl, rfl, .inr ⟨unset, rfl, _, rfl, rfl, not_le.mp (not_or.mp valid).2⟩,
      fun _ _ => ⟨rfl, rfl⟩, fun _ _ => .inl⟩
  | registerWrappedAsset admin sourceChain sourceAsset wrappedAsset decimals =>
    simp only [exec, Bridge.registerWrappedAsset, wp_bind, wp_requireAdmin, wp_auth,
      wp_ensure, wp_modify, implies_true, and_true]
    intro config configured _ _ _ _
    exact ⟨rfl, rfl, rfl, rfl, rfl, .inl ⟨configured.symm, rfl⟩, fun _ _ => ⟨rfl, rfl⟩,
      fun _ _ => .inl⟩
  | applyGovernancePause paused =>
    simp only [exec, Bridge.applyGovernancePause, wp_bind, wp_get, wp_orFail, wp_auth,
      wp_modify, implies_true, and_true]
    intro _ _ _
    exact ⟨rfl, rfl, rfl, rfl, rfl, .inl ⟨rfl, rfl⟩, fun _ _ => ⟨rfl, rfl⟩, fun _ _ => .inl⟩
  | setGovernance | updateLiquidityBuffer | addSupportedChain | removeSupportedChain
  | setDeploymentId =>
    simp only [exec, Bridge.setGovernance, Bridge.updateLiquidityBuffer, Bridge.addSupportedChain,
      Bridge.removeSupportedChain, Bridge.setDeploymentId, wp_bind, wp_discard, wp_requireAdmin,
      wp_auth, wp_ensure, wp_modify, implies_true, and_true]
    intros
    exact ⟨rfl, rfl, rfl, rfl, rfl, .inl ⟨rfl, rfl⟩, fun _ _ => ⟨rfl, rfl⟩, fun _ _ => .inl⟩
  | setWithdrawalRouteLimit admin limited perMessageLimit aggregateWindowLimit windowSeconds =>
    simp only [exec, Bridge.setWithdrawalRouteLimit, wp_bind, wp_discard, wp_requireAdmin,
      wp_auth, wp_ensure, wp_modify, implies_true, and_true]
    intro _ _ _ _ _
    refine ⟨rfl, rfl, rfl, rfl, rfl, .inl ⟨rfl, rfl⟩, fun route other => ⟨?_, ?_⟩, ?_⟩
    · rw [lookup_insert, if_neg]
      rintro rfl
      exact other rfl
    · dsimp only
      split
      · rfl
      · rw [lookup_insert, if_neg]
        rintro rfl
        exact other rfl
    · intro route window has
      dsimp only at has
      split at has
      · exact .inl has
      · rw [lookup_insert] at has
        split at has
        · exact .inr (Option.some.inj has).symm
        · exact .inl has

/-- What a returning call writes. Calls on the pools write the pools alone. -/
inductive BridgeEffect (now : Nat) (pre : BridgeStore) : BridgeCall → BridgeStore → Prop where
  | settings {call : SettingsCall} {after : BridgeStore}
      (effect : SettingsEffect now pre call after) :
      BridgeEffect now pre (.settings call) after
  | transfer {call : TransferCall} {after : BridgeStore}
      (effect : TransferEffect now pre call after) :
      BridgeEffect now pre (.transfer call) after
  | pool (call : PoolCall) (liquidity : LiquidityState) :
      BridgeEffect now pre (.pool call) { pre with liquidity }

theorem wp_requirePoolOperator {post : Unit → BridgeStore → Prop} (caller : Address)
    (poolId : Nat) (holds : post () pre) : wlp (requirePoolOperator caller poolId) post pre := by
  simp only [requirePoolOperator, wp_rules]
  split
  · simp only [wp_ensure, asks_true]
    exact fun _ => holds
  · simp only [wlp_rules, wp_getConfig]
    exact fun _ _ _ => holds

/-- A call on the pools is a program of them, run after the checks of who calls. -/
def PoolCall.onPools (call : PoolCall) (env : Env) : LiquidityProgram Unit :=
  match call with
  | .createLiquidityPool _ assetA assetB poolType feeBps rewardBps =>
    discard (createPool env assetA assetB poolType feeBps rewardBps)
  | .addBridgeLiquidity provider poolId amountA amountB =>
    discard (addLiquidity provider poolId amountA amountB)
  | .removeBridgeLiquidity provider recipient poolId lpAmount =>
    discard (removeLiquidity provider recipient poolId lpAmount)
  | .swapBridgeAssets _ poolId inputAsset amountIn minAmountOut =>
    discard (swap poolId inputAsset amountIn minAmountOut)
  | .approveWithdrawalRecipient provider recipient =>
    Bridge.approveWithdrawalRecipient provider recipient
  | .revokeWithdrawalRecipient provider recipient =>
    Bridge.revokeWithdrawalRecipient provider recipient
  | .setPoolOperator _ poolId operator => Bridge.setPoolOperator poolId operator
  | .pausePoolTrading _ poolId => pauseTrading poolId
  | .resumePoolTrading _ poolId => resumeTrading poolId

/-- A call on pools writes the pools only. -/
theorem PoolCall.exec_pools (call : PoolCall) (env : Env) {post : LiquidityState → Prop}
    (holds : wp (call.onPools env) (fun _ liquidity => post liquidity) (fun _ _ => True)
      pre.liquidity) : wp (call.exec env)
      (fun _ after => ∃ liquidity, post liquidity ∧ after = { pre with liquidity })
      (fun _ _ => True) pre := by
  have onward : ∀ {α : Type} (program : LiquidityProgram α),
      wp program (fun _ liquidity => post liquidity) (fun _ _ => True) pre.liquidity →
      wp (onLiquidity program)
        (fun _ after => ∃ liquidity, post liquidity ∧
          after = { pre with liquidity })
        (fun _ _ => True) pre := by
    intro α program kept
    rw [wp_onLiquidity]
    exact wp_then kept (fun _ liquidity hit => ⟨liquidity, hit, rfl⟩)
  cases call with
  | createLiquidityPool admin assetA assetB poolType feeBps rewardBps =>
    simp only [onPools, wp_discard] at holds
    simp only [exec, wp_rules, wp_requireAdmin, wp_auth, wp_ensureWrappedAssetExists]
    exact fun _ _ _ _ _ _ => onward _ holds
  | addBridgeLiquidity | removeBridgeLiquidity | swapBridgeAssets =>
    simp only [onPools, wp_discard] at holds
    simp only [exec, wp_rules, wp_auth]
    exact fun _ => onward _ holds
  | approveWithdrawalRecipient | revokeWithdrawalRecipient =>
    simp only [exec, wp_bind, wp_auth]
    exact fun _ => onward _ holds
  | setPoolOperator admin poolId operator =>
    simp only [exec, wp_rules, wp_requireAdmin, wp_auth]
    exact fun _ _ _ _ => onward _ holds
  | pausePoolTrading caller poolId | resumePoolTrading caller poolId =>
    simp only [exec, wp_bind]
    refine wp_requirePoolOperator caller poolId ?_
    simp only [wp_auth]
    exact fun _ => onward _ holds

/-- Every returning call has one of the effects. -/
theorem BridgeCall.exec_effect (key : MessageKey) (call : BridgeCall) (env : Env) :
    wlp (call.exec key env) (fun _ after => BridgeEffect env.timestamp pre call after) pre := by
  cases call with
  | settings call =>
    exact wp_then (call.exec_effect env) (fun _ _ => .settings)
  | transfer call =>
    exact wp_then (call.exec_effect key env) (fun _ _ => .transfer)
  | pool call =>
    have anything : wlp (call.onPools env) (fun _ _ => True) pre.liquidity :=
      (wp_iff _).mpr ⟨fun _ _ _ => trivial, fun _ _ _ => trivial⟩
    refine wp_then (call.exec_pools env anything) ?_
    rintro _ after ⟨liquidity, _, rfl⟩
    exact .pool call liquidity

end Settings

/-- A step has its effect, or was refused and changes nothing. -/
theorem BridgeTransition.cases (key : MessageKey) (ledger : Ledger BridgeStore)
    (input : BridgeInput) :
    (BridgeTransition.Returned key ⟨ledger, input, bridgeStep key input ledger⟩ ∧
      BridgeEffect (ledger.timestamp + input.arrival.seconds) ledger.store input.call
        (bridgeStep key input ledger).store) ∨
    (¬ BridgeTransition.Returned key ⟨ledger, input, bridgeStep key input ledger⟩ ∧
      (bridgeStep key input ledger).store = ledger.store) := by
  by_cases returns : Accepts (input.call.exec key (ledger.env input.arrival)) ledger.store
  · obtain ⟨value, gave⟩ := gave_of_accepts returns
    exact .inl ⟨returns, wp_ok (input.call.exec_effect key _) gave⟩
  · exact .inr ⟨returns, invoke_of_rejected returns⟩

/-- What every effect keeps, a step keeps. -/
theorem bridgeStep_keeps (key : MessageKey) (ledger : Ledger BridgeStore) (input : BridgeInput)
    (property : BridgeStore → Prop) (holds : property ledger.store)
    (kept : ∀ after, BridgeEffect (ledger.timestamp + input.arrival.seconds) ledger.store
      input.call after → property after) : property (bridgeStep key input ledger).store := by
  rcases BridgeTransition.cases key ledger input with ⟨_, effect⟩ | ⟨_, same⟩
  · exact kept _ effect
  · rwa [same]

end StellarSwipe.Bridge
