import StellarSwipe.StakeVault.Access

/-!
# Depositing, delegating and withdrawing stake

A deposit and a delegation record first and collect last, so a refused transfer fails the call and
the host restores everything.
-/

namespace StellarSwipe.StakeVault

open Program FixedWidth Activity RewardIndex World

/-- When the stake of an account is unlocked after a deposit now: a fresh stake is
locked for the configured duration, a further one at least until then. -/
def depositLock (current : StakeInfoV2) (now minDuration : Nat) : Nat :=
  if current.balance = 0 then laterBy now minDuration
  else if 0 < minDuration then max current.lockedUntil (laterBy now minDuration)
  else current.lockedUntil

variable (activity : Activity) (env : Env) (staker : Address)

def Activity.stampDeposit : Activity :=
  { activity with
    stakeDepositTimestamps := activity.stakeDepositTimestamps.insert staker env.timestamp
    lastStakeLedger := activity.lastStakeLedger.insert staker env.sequence }

variable (amount : Int)

def depositStake : VaultProgram Unit := do
  ensure ((← get).vault.activity.contractLock = false) .reentrancyDetected
  requireAuth env staker
  requireNotPaused
  ensure (0 < amount) .noStake
  let token ← getStakeToken
  let world ← get
  let current := world.vault.custody.stakeInfo staker
  let newBalance ← orFail (i128.checkedAdd current.balance amount) .stakeOverflow
  let lockedUntil := depositLock current env.timestamp world.vault.settings.stakeDuration
  modify fun world => world.setCustody
    (world.vault.custody.recordStake staker ⟨newBalance, lockedUntil, env.timestamp⟩)
  onIndex (onStakeChange staker newBalance)
  modify fun world => world.setActivity (world.vault.activity.stampDeposit env staker)
  transfer env token staker world.self amount

/-- Stake tokens on behalf of a provider. -/
def delegateStake (delegator provider : Address) (amount : Int) : VaultProgram Unit := do
  requireAuth env delegator
  requireNotPaused
  ensure (0 < amount) .noStake
  let token ← getStakeToken
  let world ← get
  let delegated := world.vault.custody.delegationsTo provider
  let newAmount ← orFail (i128.checkedAdd (delegated.read delegator) amount) .stakeOverflow
  modify fun world => world.setCustody
    (world.vault.custody.recordDelegations provider (delegated.insert delegator newAmount))
  let newTotal ← orFail (i128.checkedAdd (world.vault.custody.totalDelegated provider) amount)
    .stakeOverflow
  modify fun world => world.setCustody
    (world.vault.custody.recordTotalDelegated provider newTotal)
  transfer env token delegator world.self amount

/-- The vault detects a deposit and a withdrawal in the same ledger. -/
def Activity.FlashLoan : Prop :=
  (activity.lastStakeLedger.lookup staker).getD 0 = env.sequence ∧ env.sequence ≠ 0
deriving Decidable

/-- The time-lock of large withdrawals, for the amount it applies to. -/
def requireTimelock : VaultProgram Unit := do
  let world ← get
  if largeWithdrawalThreshold ≤ amount then do
    let requestedAt ← orFail (world.vault.activity.largeWithdrawalRequestedAt.lookup staker)
      .timelockRequired
    ensure (laterBy requestedAt world.vault.settings.withdrawalCooldown ≤ env.timestamp)
      .timelockNotElapsed
  else pure ()

def Activity.consumed : Activity :=
  if largeWithdrawalThreshold ≤ amount then
    { activity with
      largeWithdrawalRequestedAt := activity.largeWithdrawalRequestedAt.erase staker }
  else activity

@[simp] theorem consumed_executionLock :
    (activity.consumed staker amount).executionLock = activity.executionLock := by
  simp only [consumed]
  split <;> rfl

/-- The paying part that full and partial withdrawals share: pay the amount, and
then consume the time-lock request, record what remains and tell the index. -/
def payAndRecord (token staker : Address) (info : StakeInfoV2) (amount remaining : Int) :
    VaultProgram Int := do
  transfer env token (← get).self staker amount
  modify fun world => world.setActivity (world.vault.activity.consumed staker amount)
  modify fun world => world.setCustody
    (world.vault.custody.recordStake staker ⟨remaining, info.lockedUntil, env.timestamp⟩)
  onIndex (onStakeChange staker remaining)
  pure amount

/-- The stake entry of an account, which must not be empty. -/
def getActiveStake : VaultProgram StakeInfoV2 := do
  let info ← orFail ((← get).vault.custody.stakesV2.lookup staker) .noStake
  ensure (info.balance ≠ 0) .noStake
  pure info

/-- Withdraw the whole stake, with the execution lock held by the caller. -/
def doWithdrawLocked : VaultProgram Int := do
  let token ← getStakeToken
  let info ← getActiveStake staker
  ensure (info.lockedUntil ≤ env.timestamp) .stakeLocked
  requireLockupReleased env staker
  ensure (¬ (← get).vault.activity.FlashLoan env staker) .flashLoanDetected
  requireTimelock env staker info.balance
  payAndRecord env token staker info info.balance 0

def World.withLock (world : World) (held : Bool) : World :=
  world.setActivity { world.vault.activity with executionLock := held }

/-- Run a program with the execution lock held, and release it however it ends. -/
def withExecutionLock {α : Type} (program : VaultProgram α) : VaultProgram α := do
  ensure ((← get).vault.activity.executionLock = false) .reentrancyDetected
  modify fun world => world.withLock true
  let result ← attempt program
  modify fun world => world.withLock false
  ofExcept result

def doWithdraw : VaultProgram Int :=
  withExecutionLock (doWithdrawLocked env staker)

/-- Reject a user that has used up its stake changes. -/
def requireRateLimit (user : Address) : VaultProgram Unit := do
  ensure (RateLimit.checkRateLimit (← get).vault.limits env user 0) .rateLimitExceeded

def withdrawStake : VaultProgram Int := do
  requireNotPaused
  requireRateLimit env staker
  requireAuth env staker
  let amount ← doWithdraw env staker
  recordAction env staker
  pure amount

/-- Withdraw a part of the stake, with the execution lock held by the caller. -/
def doPartialUnstakeLocked : VaultProgram Int := do
  let token ← getStakeToken
  let info ← getActiveStake staker
  ensure (amount < info.balance) .invalidAmount
  ensure (info.lockedUntil ≤ env.timestamp) .stakeLocked
  requireLockupReleased env staker
  ensure (¬ (← get).vault.activity.FlashLoan env staker) .flashLoanDetected
  requireTimelock env staker amount
  let remaining := info.balance - amount
  let minimum := (← get).vault.settings.minimum
  ensure (minimum ≤ 0 ∨ minimum ≤ remaining) .remainingStakeBelowMinimum
  payAndRecord env token staker info amount remaining

def doPartialUnstake : VaultProgram Int :=
  withExecutionLock (doPartialUnstakeLocked env staker amount)

/-- Withdraw an amount and leave the remainder staked. -/
def partialUnstake : VaultProgram Int := do
  requireNotPaused
  ensure (0 < amount) .invalidAmount
  requireRateLimit env staker
  requireAuth env staker
  let amount ← doPartialUnstake env staker amount
  recordAction env staker
  pure amount

/-- Initiate a time-locked withdrawal request for a large stake. -/
def requestWithdrawal : VaultProgram Unit := do
  requireAuth env staker
  requireNotPaused
  let world ← get
  if world.vault.custody.stakeOf staker < largeWithdrawalThreshold then pure ()
  else
    set (world.setActivity { world.vault.activity with
      largeWithdrawalRequestedAt :=
        world.vault.activity.largeWithdrawalRequestedAt.insert staker env.timestamp })

section Specifications

variable (env : Env) (pre : World)

variable (staker : Address) (amount : Int)

theorem depositStake_spec :
    wlp (depositStake env staker amount) (fun _ after => ∃ token info index activity,
      pre.vault.settings.stakeToken = some token ∧ staker ≠ pre.self ∧ 0 < amount ∧
      info.balance = pre.vault.custody.stakeOf staker + amount ∧ i128.Holds info.balance ∧
      onStakeChange staker info.balance pre.vault.index = .ok () index ∧
      pre.tokens.refusal env token staker amount = none ∧
      activity.executionLock = pre.vault.activity.executionLock ∧
      after = { pre with
        vault := { pre.vault with
          custody := pre.vault.custody.recordStake staker info
          index
          activity }
        tokens := pre.tokens.moved token staker pre.self amount }) pre := by
  simp only [depositStake, wp_bind, wp_get, wp_ensure, wp_auth, wp_notPaused,
    wp_getStakeToken, Range.checkedAdd, wp_orFail_checked, wp_modify, wp_onIndex, wp_transfer,
    implies_true, and_true, true_and]
  intro _ authorized _ pos token configured held _ index hooked accepted
  exact ⟨token, ⟨_, _, _⟩, index, _, configured, authorized.2, pos, rfl, held, hooked,
    accepted, by rfl, rfl⟩

theorem delegateStake_spec (delegator provider : Address) (amount : Int) :
    wlp (delegateStake env delegator provider amount) (fun _ after => ∃ token delegated,
      pre.vault.settings.stakeToken = some token ∧ delegator ≠ pre.self ∧ 0 < amount ∧
      i128.Holds ((pre.vault.custody.delegationsTo provider).read delegator + amount) ∧
      delegated = (pre.vault.custody.delegationsTo provider).insert delegator
        ((pre.vault.custody.delegationsTo provider).read delegator + amount) ∧
      pre.tokens.refusal env token delegator amount = none ∧
      after = { pre with
        vault := { pre.vault with
          custody := (pre.vault.custody.recordDelegations provider delegated).recordTotalDelegated
            provider (pre.vault.custody.totalDelegated provider + amount) }
        tokens := pre.tokens.moved token delegator pre.self amount }) pre := by
  simp only [delegateStake, wp_bind, wp_get, wp_ensure, wp_auth, wp_notPaused,
    wp_getStakeToken, Range.checkedAdd, wp_orFail_checked, wp_modify, wp_transfer, implies_true,
    and_true, true_and]
  intro authorized _ pos token configured holds _ accepted
  exact ⟨token, _, configured, authorized.2, pos, holds, rfl, accepted, rfl⟩

/-- The state in which a withdrawal finds a stake it may release. -/
structure Payable (env : Env) (world : World) (staker token : Address) (info : StakeInfoV2) :
    Prop where
  configured : world.vault.settings.stakeToken = some token
  has : world.vault.custody.stakesV2.lookup staker = some info
  staked : info.balance ≠ 0
  unlocked : info.lockedUntil ≤ env.timestamp
  free : ¬ world.vault.activity.LockedUp env staker

/-- A large amount has been requested long enough ago. -/
def TimelockElapsed (env : Env) (world : World) (staker : Address) (amount : Int) : Prop :=
  largeWithdrawalThreshold ≤ amount → ∃ requestedAt,
    world.vault.activity.largeWithdrawalRequestedAt.lookup staker = some requestedAt ∧
    laterBy requestedAt world.vault.settings.withdrawalCooldown ≤ env.timestamp

/-- Neither the flash-loan check nor the time-lock stands against the withdrawal. -/
def Timely (env : Env) (world : World) (staker : Address) (amount : Int) : Prop :=
  ¬ world.vault.activity.FlashLoan env staker ∧ TimelockElapsed env world staker amount

theorem requireTimelock_spec : wp (requireTimelock env staker amount)
      (fun _ after => after = pre ∧ TimelockElapsed env pre staker amount)
      (fun fault after => fault ≠ .trap ∧ after = pre ∧
        ¬ TimelockElapsed env pre staker amount) pre := by
  simp only [requireTimelock, wp_rules, wp_ite, true_and, TimelockElapsed]
  refine ⟨fun large => ⟨fun requestedAt has => ⟨?_, ?_⟩, ?_⟩, ?_⟩
  · exact fun elapsed _ => ⟨requestedAt, has, elapsed⟩
  · refine fun early => ⟨by simp, fun elapsed => ?_⟩
    obtain ⟨requested, hit, late⟩ := elapsed large
    obtain rfl := Option.mem_unique has hit
    exact early late
  · refine fun absent => ⟨by simp, fun elapsed => ?_⟩
    obtain ⟨requested, hit, _⟩ := elapsed large
    simp [absent] at hit
  · exact fun small large => absurd large small

def World.paidOut (world : World) (env : Env) (token staker : Address) (info : StakeInfoV2)
    (amount remaining : Int) (index : RewardIndex.Storage) : World :=
  { world with
    vault := { world.vault with
      custody := world.vault.custody.recordStake staker
        ⟨remaining, info.lockedUntil, env.timestamp⟩
      activity := world.vault.activity.consumed staker amount
      index }
    tokens := world.tokens.moved token world.self staker amount }

theorem payAndRecord_spec (token staker : Address) (info : StakeInfoV2) (amount remaining : Int) :
    wp (payAndRecord env token staker info amount remaining) (fun paid after => paid = amount ∧
        pre.tokens.refusal env token pre.self amount = none ∧
        ∃ index, onStakeChange staker remaining pre.vault.index = .ok () index ∧
          after = pre.paidOut env token staker info amount remaining index) (fun fault after =>
        ((∃ failure, pre.tokens.refusal env token pre.self amount = some failure) ∧
          fault ≠ .trap ∧ after = pre.setTokens pre.tokens.refused) ∨
        (pre.tokens.refusal env token pre.self amount = none ∧ ∃ index,
          onStakeChange staker remaining pre.vault.index = .error fault index ∧
          after = pre.paidOut env token staker info amount remaining index)) pre := by
  simp only [payAndRecord, wp_rules, wp_transfer, wp_onIndex, true_and]
  refine ⟨fun failure refused => Or.inl ⟨⟨failure, refused⟩, by simp, trivial⟩,
    fun accepted => ⟨?_, ?_⟩⟩
  · intro _ index hooked
    exact ⟨accepted, index, hooked, rfl⟩
  · intro reason index stopped
    exact Or.inr ⟨accepted, index, stopped, rfl⟩

/-- How a full withdrawal stops, and what each way leaves behind: nothing before the
lockup check, a cleared lockup entry until the payment, and after the payment all of
the withdrawal's effects with the index as its hook left it. -/
inductive WithdrawStopped (env : Env) (pre : World) (staker : Address)
    (fault : Fault StakeVaultError) : World → Prop
  | early (error : fault ≠ .trap)
      (blocked : ∀ token info, ¬ Payable env pre staker token info) :
      WithdrawStopped env pre staker fault pre
  | untimely (error : fault ≠ .trap) (token : Address)
      (info : StakeInfoV2) (payable : Payable env pre staker token info)
      (late : ¬ Timely env pre staker info.balance) :
      WithdrawStopped env pre staker fault
        (pre.setActivity (pre.vault.activity.released staker))
  | refused (error : fault ≠ .trap) (token : Address)
      (info : StakeInfoV2) (payable : Payable env pre staker token info)
      (timely : Timely env pre staker info.balance) (failure : TokenFailure)
      (refusal : pre.tokens.refusal env token pre.self info.balance = some failure) :
      WithdrawStopped env pre staker fault
        ((pre.setActivity (pre.vault.activity.released staker)).setTokens
          pre.tokens.refused)
  | unhooked (token : Address) (info : StakeInfoV2)
      (index : RewardIndex.Storage) (payable : Payable env pre staker token info)
      (timely : Timely env pre staker info.balance)
      (accepted : pre.tokens.refusal env token pre.self info.balance = none)
      (stopped : onStakeChange staker 0 pre.vault.index = .error fault index) :
      WithdrawStopped env pre staker fault
        ((pre.setActivity (pre.vault.activity.released staker)).paidOut env token staker info
          info.balance 0 index)

/-- What a full withdrawal that returns has done. -/
structure Withdrawn (env : Env) (pre : World) (staker token : Address) (info : StakeInfoV2)
    (amount : Int) (after : World) : Prop where
  payable : Payable env pre staker token info
  timely : Timely env pre staker info.balance
  whole : amount = info.balance
  accepted : pre.tokens.refusal env token pre.self info.balance = none
  done : ∃ index, onStakeChange staker 0 pre.vault.index = .ok () index ∧
    after = (pre.setActivity (pre.vault.activity.released staker)).paidOut env token staker
      info info.balance 0 index

theorem doWithdrawLocked_spec : wp (doWithdrawLocked env staker)
      (fun amount after => ∃ token info, Withdrawn env pre staker token info amount after)
      (fun fault after => WithdrawStopped env pre staker fault after) pre := by
  simp only [doWithdrawLocked, getActiveStake, wp_rules, wp_getStakeToken, wp_requireLockupReleased]
  refine ⟨fun token configured => ⟨fun info has => ⟨fun staked => ⟨fun unlocked =>
    ⟨fun free => ⟨fun onTime => ?_, fun loan => ?_⟩, fun locked => ?_⟩, fun early => ?_⟩,
    fun unstaked => ?_⟩, fun absent => ?_⟩, fun unconfigured => ?_⟩
  · have payable : Payable env pre staker token info :=
      ⟨configured, has, staked, unlocked, free⟩
    refine wp_mono (requireTimelock_spec env _ staker info.balance) ?_ ?_
    · rintro _ _ ⟨rfl, elapsed⟩
      have timely : Timely env pre staker info.balance := ⟨onTime, elapsed⟩
      refine wp_mono (payAndRecord_spec env _ token staker info info.balance 0) ?_ ?_
      · rintro _ _ ⟨rfl, accepted, done⟩
        exact ⟨token, info, payable, timely, rfl, accepted, done⟩
      · rintro fault _ (⟨⟨failure, refusal⟩, error, rfl⟩ | ⟨accepted, index, stopped, rfl⟩)
        · exact .refused error token info payable timely failure refusal
        · exact .unhooked token info index payable timely accepted stopped
    · rintro fault _ ⟨error, rfl, early⟩
      refine .untimely error token info payable fun timely => early ?_
      exact timely.2
  · exact .untimely (by simp) token info ⟨configured, has, staked, unlocked, free⟩
      fun timely => loan timely.1
  · exact .early (by simp) fun _ _ payable => payable.free locked
  · exact .early (by simp) fun _ _ payable =>
      early (Option.mem_unique has payable.has ▸ payable.unlocked)
  · exact .early (by simp) fun _ _ payable =>
      unstaked (Option.mem_unique has payable.has ▸ payable.staked)
  · exact .early (by simp) fun _ _ payable => Option.some_ne_none _
      (payable.has.symm.trans absent)
  · exact .early (by simp) fun _ _ payable => Option.some_ne_none _
      (payable.configured.symm.trans unconfigured)

/-- The lock is taken from a free state and given back on a value and on an error. -/
theorem wp_withExecutionLock {α : Type} {post : α → World → Prop}
    {fault : Fault StakeVaultError → World → Prop} (program : VaultProgram α) :
    wp (withExecutionLock program) post fault pre ↔ (pre.vault.activity.executionLock = false →
        wp program (fun value after => post value (after.withLock false))
          (fun reason after => reason.holds
            (fun error => fault (.error error) (after.withLock false)) (fault .trap after))
          (pre.withLock true)) ∧ (¬ pre.vault.activity.executionLock = false →
        fault (.error .reentrancyDetected) pre) := by
  simp only [withExecutionLock, wlp_rules, wp_attempt, Except.ok.injEq, reduceCtorEq, false_implies,
    forall_eq', Except.error.injEq, true_and]

theorem withLock_free (free : pre.vault.activity.executionLock = false) :
    (pre.withLock true).withLock false = pre := by
  simp only [withLock, setActivity, ← free]

/-- Holding the lock around the released lockup and the payment leaves no mark on a
world whose lock was free. -/
theorem released_under_lock (free : pre.vault.activity.executionLock = false) :
    ((pre.withLock true).setActivity
      ((pre.withLock true).vault.activity.released staker)).withLock false =
      pre.setActivity (pre.vault.activity.released staker) := by
  simp only [withLock, setActivity, released, ← free]

theorem paidOut_withLock (held : Bool) (token staker : Address) (info : StakeInfoV2)
    (amount remaining : Int) (index : RewardIndex.Storage) :
    (pre.paidOut env token staker info amount remaining index).withLock held =
      (pre.withLock held).paidOut env token staker info amount remaining index := by
  simp only [withLock, setActivity, paidOut, consumed]
  split <;> rfl

variable {fault : Fault StakeVaultError}

theorem WithdrawStopped.not_trap {staker : Address} {after : World}
    (stopped : WithdrawStopped env pre staker fault after) : fault ≠ .trap := by
  cases stopped with
  | early error => exact error
  | untimely error => exact error
  | refused error => exact error
  | unhooked _ _ _ _ _ _ unhooked =>
    obtain ⟨rfl, _⟩ := wp_error (onStakeChange_spec staker pre.vault.index 0) unhooked
    simp

theorem WithdrawStopped.unlock {staker : Address} {after : World}
    (free : pre.vault.activity.executionLock = false)
    (stopped : WithdrawStopped env (pre.withLock true) staker fault after) :
    WithdrawStopped env pre staker fault (after.withLock false) := by
  have unguarded {token : Address} {info : StakeInfoV2}
      (payable : Payable env (pre.withLock true) staker token info) :
      Payable env pre staker token info :=
    ⟨payable.configured, payable.has, payable.staked, payable.unlocked, payable.free⟩
  cases stopped with
  | early error blocked =>
    rw [withLock_free pre free]
    exact .early error fun token info payable => blocked token info
      ⟨payable.configured, payable.has, payable.staked, payable.unlocked, payable.free⟩
  | untimely error token info payable late =>
    rw [released_under_lock pre staker free]
    exact .untimely error token info (unguarded payable) late
  | refused error token info payable timely failure refusal =>
    have refused : WithdrawStopped env pre staker fault _ :=
      .refused error token info (unguarded payable) timely failure refusal
    rw [← released_under_lock pre staker free] at refused
    exact refused
  | unhooked token info index payable timely accepted unhooked =>
    rw [paidOut_withLock, released_under_lock pre staker free]
    exact .unhooked token info index (unguarded payable) timely accepted unhooked

/-- A guarded full withdrawal does what the unguarded one does, and stops as it does. -/
theorem doWithdraw_spec (free : pre.vault.activity.executionLock = false) :
    wp (doWithdraw env staker)
      (fun amount after => ∃ token info, Withdrawn env pre staker token info amount after)
      (fun fault after => WithdrawStopped env pre staker fault after) pre := by
  rw [doWithdraw, wp_withExecutionLock]
  refine ⟨fun _ => wp_mono (doWithdrawLocked_spec env (pre.withLock true) staker) ?_ ?_,
    fun held => absurd free held⟩
  · rintro amount after ⟨token, info, payable, timely, whole, accepted, index, hooked, rfl⟩
    refine ⟨token, info, ⟨payable.configured, payable.has, payable.staked, payable.unlocked,
      payable.free⟩, timely, whole, accepted, index, hooked, ?_⟩
    rw [paidOut_withLock, released_under_lock pre staker free]
  · intro fault after stopped
    cases fault with
    | trap => exact absurd rfl (stopped.not_trap)
    | error reason => exact stopped.unlock env pre free

theorem withdrawStake_spec : wlp (withdrawStake env staker)
      (fun amount after => ∃ token info middle limits,
        Withdrawn env pre staker token info amount middle ∧ after = middle.setLimits limits)
      pre := by
  simp only [withdrawStake, requireRateLimit, wlp_rules, wp_notPaused, wp_auth,
    wp_recordAction]
  intro _ _ _
  by_cases free : pre.vault.activity.executionLock = false
  · refine wp_then (doWithdraw_spec env pre staker free) ?_
    rintro amount middle ⟨token, info, withdrawn⟩
    exact ⟨token, info, middle, _, withdrawn, rfl⟩
  · rw [doWithdraw, wp_withExecutionLock]
    exact ⟨fun unlocked => absurd unlocked free, fun _ => trivial⟩

/-- A partial withdrawal that returns has paid a part and recorded the rest. -/
theorem partialUnstake_spec : wlp (partialUnstake env staker amount)
      (fun _ after => ∃ token info index limits,
        Payable env pre staker token info ∧ 0 < amount ∧ amount < info.balance ∧
        pre.tokens.refusal env token pre.self amount = none ∧
        onStakeChange staker (info.balance - amount) pre.vault.index = .ok () index ∧
        after = ((pre.setActivity (pre.vault.activity.released staker)).paidOut env token staker
          info amount (info.balance - amount) index).setLimits limits) pre := by
  simp only [partialUnstake, requireRateLimit, wlp_rules, wp_notPaused, wp_auth,
    wp_recordAction, doPartialUnstake, wp_withExecutionLock]
  intro _ pos _ _ free
  simp only [doPartialUnstakeLocked, getActiveStake, wlp_rules, wp_getStakeToken,
    wp_requireLockupReleased, Fault.holds_error]
  intro token configured info has staked less unlocked unheld _
  refine wp_mono (requireTimelock_spec env _ staker amount) ?_ ?_
  · rintro _ _ ⟨rfl, _⟩ _
    refine wp_mono (payAndRecord_spec env _ token staker info amount _) ?_ ?_
    · rintro _ _ ⟨rfl, accepted, index, hooked, rfl⟩
      refine ⟨token, info, index, RateLimit.recordAction pre.vault.limits env staker,
        ⟨configured, has, staked, unlocked, unheld⟩, pos, less, accepted, hooked, ?_⟩
      rw [paidOut_withLock, released_under_lock pre staker free]
      rfl
    · intro fault after _
      cases fault <;> trivial
  · intro fault after _
    cases fault <;> trivial

end Specifications

end StellarSwipe.StakeVault
