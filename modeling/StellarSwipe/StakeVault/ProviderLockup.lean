import StellarSwipe.StakeVault.Exits

/-!
# Provider lockups

A slash or a reward event locks the stake of its provider for some ledgers.
-/

namespace StellarSwipe.StakeVault

open Program Runs Table

/-- One invocation of the vault. The entry points outside the model are told apart by
what they do to lockups: a reward deposit, a reward claim and a campaign claim each lock
one provider for the default length, and no other writes a lockup. -/
inductive Event where
  | entry (call : Call)
  | rewarded (provider : Address) (tokens : Tokens)

def Event.exec (env : Env) : Event → VaultProgram Unit
  | .entry (.elsewhere stakeToken _ tokens) => do
    let world ← get
    StakeVault.elsewhere stakeToken world.vault.activity.providerLockup tokens
  | .entry call => StakeVault.exec env call
  | .rewarded provider tokens => do
    modify fun world => world.setTokens tokens
    let world ← get
    lockProvider env provider world.vault.settings.lockupLedgers

def Event.Exit : Event → Prop
  | .entry (.withdrawStake _) | .entry (.partialUnstake _ _) => True
  | .entry (.processUnstakeQueue _) | .entry (.approveEmergencyUnstake _ _) => True
  | _ => False

/-- The vault at the ledger of its last call. -/
abbrev VaultLedger := Ledger World

/-- A call some ledgers after the last one, and which transfers its tokens refuse. -/
structure VaultInput where
  arrival : Arrival
  refusal : Nat → Option TokenFailure
  event : Event

def advance (input : VaultInput) (ledger : VaultLedger) : VaultLedger :=
  ledger.call input.arrival fun env => input.event.exec { env with refusal := input.refusal }

def LockedUntil (provider : Address) (endLedger : Nat) (world : World) : Prop :=
  ∃ lockup, world.vault.activity.providerLockup.lookup provider = some lockup ∧
    endLedger ≤ lockup.endLedger

/-- The provider's stake and lockup are as they were, and nothing was paid to it. -/
structure Spared (provider : Address) (pre after : World) : Prop where
  stake : after.vault.custody.stakesV2.lookup provider =
    pre.vault.custody.stakesV2.lookup provider
  lockup : after.vault.activity.providerLockup.lookup provider =
    pre.vault.activity.providerLockup.lookup provider
  unpaid : ∀ token, after.tokens.balance token provider ≤ pre.tokens.balance token provider

section Lockups

variable {env : Env} {pre after : World} {provider : Address} {endLedger : Nat}

theorem LockedUntil.lockedUp (active : env.sequence ≤ endLedger)
    (locked : LockedUntil provider endLedger pre) : pre.vault.activity.LockedUp env provider := by
  obtain ⟨lockup, has, later⟩ := locked
  exact ⟨lockup, has, active.trans later⟩

theorem LockedUntil.congr
    (same : after.vault.activity.providerLockup = pre.vault.activity.providerLockup)
    (locked : LockedUntil provider endLedger pre) : LockedUntil provider endLedger after := by
  simpa only [LockedUntil, same] using locked

theorem LockedUntil.relocked (active : env.sequence ≤ endLedger) (locked : LockedUntil provider
    endLedger pre) (other : Address) (ledgers : Nat) : LockedUntil provider endLedger
      (pre.setActivity (pre.vault.activity.locked env other ledgers)) := by
  obtain ⟨lockup, has, later⟩ := locked
  simp only [LockedUntil, World.setActivity, Activity.locked]
  by_cases none : ledgers = 0
  · rw [if_pos none]
    exact ⟨lockup, has, later⟩
  · rw [if_neg none, lookup_insert]
    by_cases same : provider = other
    · subst same
      have unexpired : env.sequence ≤ lockup.endLedger := active.trans later
      rw [if_pos rfl, has, extendedLockup, if_pos unexpired]
      exact ⟨_, rfl, later.trans (le_max_left _ _)⟩
    · rw [if_neg same]
      exact ⟨lockup, has, later⟩

theorem Spared.refl (world : World) : Spared provider world world :=
  ⟨rfl, rfl, fun _ => le_refl _⟩

theorem Spared.trans {middle : World} (prior : Spared provider pre middle)
    (later : Spared provider middle after) : Spared provider pre after :=
  ⟨later.stake.trans prior.stake, later.lockup.trans prior.lockup,
    fun token => (later.unpaid token).trans (prior.unpaid token)⟩

theorem Spared.lockedUp (spared : Spared provider pre after)
    (locked : pre.vault.activity.LockedUp env provider) :
    after.vault.activity.LockedUp env provider := by
  simpa only [Activity.LockedUp, spared.lockup] using locked

theorem Spared.lockedUntil (spared : Spared provider pre after)
    (locked : LockedUntil provider endLedger pre) : LockedUntil provider endLedger after := by
  simpa only [LockedUntil, spared.lockup] using locked

theorem Spared.released {staker : Address} (other : provider ≠ staker) :
    Spared provider pre (pre.setActivity (pre.vault.activity.released staker)) where
  stake := rfl
  lockup := by
    simp only [World.setActivity, Activity.released, lookup_erase, if_neg other]
  unpaid _ := le_refl _

variable {info : StakeInfoV2}

theorem Spared.paidOut {token staker : Address} {amount : Int} (remaining : Int)
    (index : RewardIndex.Storage) (other : provider ≠ staker)
    (accepted : pre.tokens.refusal env token pre.self amount = none) :
    Spared provider pre (pre.paidOut env token staker info amount remaining index) where
  stake := by
    simp only [World.paidOut, Custody.recordStake, lookup_insert, if_neg other]
  lockup := by
    simp only [World.paidOut, Activity.consumed]
    split <;> rfl
  unpaid asset := by
    have covered := Tokens.covered_of_accepted accepted
    simp only [World.paidOut, Tokens.moved_balance, other, and_false, if_false]
    split <;> omega

variable {staker token : Address}

theorem Payable.other (payable : Payable env pre staker token info)
    (locked : pre.vault.activity.LockedUp env provider) : provider ≠ staker := by
  rintro rfl
  exact payable.free locked

theorem Withdrawn.untouched_locked {amount : Int}
    (withdrawn : Withdrawn env pre staker token info amount after)
    (locked : pre.vault.activity.LockedUp env provider) : Spared provider pre after := by
  have other := withdrawn.payable.other locked
  obtain ⟨index, _, rfl⟩ := withdrawn.done
  exact (Spared.released other).trans (.paidOut 0 index other withdrawn.accepted)

/-- A withdrawal that stops has not reached a locked provider either, also when it stops
after its payment. -/
theorem WithdrawStopped.untouched_locked {staker : Address} {fault : Fault StakeVaultError}
    (stopped : WithdrawStopped env pre staker fault after)
    (locked : pre.vault.activity.LockedUp env provider) : Spared provider pre after := by
  cases stopped with
  | early => exact .refl pre
  | untimely _ _ _ payable => exact .released (payable.other locked)
  | refused _ _ _ payable =>
    have released : Spared provider pre
        (pre.setActivity (pre.vault.activity.released staker)) :=
      .released (payable.other locked)
    exact ⟨released.stake, released.lockup, fun _ => le_refl _⟩
  | unhooked token info index payable _ accepted =>
    have other := payable.other locked
    exact (Spared.released other).trans (.paidOut 0 index other accepted)

theorem withdrawStake_spared (staker : Address)
    (locked : pre.vault.activity.LockedUp env provider) :
    wlp (withdrawStake env staker) (fun _ after => Spared provider pre after) pre := by
  apply wp_then (withdrawStake_spec env pre staker) ?_
  rintro _ _ ⟨_, _, middle, limits, withdrawn, rfl⟩
  exact (withdrawn.untouched_locked locked).trans ⟨rfl, rfl, fun _ => le_refl _⟩

theorem partialUnstake_spared (staker : Address) (amount : Int)
    (locked : pre.vault.activity.LockedUp env provider) :
    wlp (partialUnstake env staker amount) (fun _ after => Spared provider pre after) pre := by
  apply wp_then (partialUnstake_spec env pre staker amount) ?_
  rintro _ _ ⟨token, info, index, limits, payable, _, _, accepted, _, rfl⟩
  have other := payable.other locked
  let cleared := pre.setActivity (pre.vault.activity.released staker)
  have released : Spared provider pre cleared := .released other
  have paid : Spared provider cleared
      (cleared.paidOut env token staker info amount (info.balance - amount) index) :=
    .paidOut (info.balance - amount) index other accepted
  exact (released.trans paid).trans ⟨rfl, rfl, fun _ => le_refl _⟩

/-- The queue passes a locked provider by: nothing is paid at its ticket. -/
theorem processUnstakeQueue_spared (limit : Nat) (free : pre.vault.activity.executionLock = false)
    (locked : pre.vault.activity.LockedUp env provider) :
    wlp (processUnstakeQueue env limit) (fun _ after => Spared provider pre after) pre := by
  have bookkeeping {world after : World} (reached : Spared provider pre world)
      (stake : after.vault.custody = world.vault.custody)
      (lockups : after.vault.activity = world.vault.activity)
      (tokens : after.tokens = world.tokens) : Spared provider pre after :=
    reached.trans ⟨by rw [stake], by rw [lockups], fun _ => by rw [tokens]⟩
  apply wp_then (processUnstakeQueue_kept env pre limit)
  intro _ _ kept
  apply kept
    (fun world => Spared provider pre world ∧ world.vault.activity.executionLock = false)
    (Spared provider pre) (fun _ held => held.2) ?_ ?_ (fun _ held => held.1)
    (fun _ _ reached => bookkeeping reached rfl rfl rfl) ⟨.refl pre, free⟩
  · intro _ world request _ _ _ after held _ withdrawn
    exact ⟨bookkeeping (held.1.trans (withdrawn.untouched_locked (held.1.lockedUp locked)))
      rfl rfl rfl, withdrawn.untouched.2.trans held.2⟩
  · intro _ _ _ _ held stopped
    exact held.1.trans (stopped.untouched_locked (held.1.lockedUp locked))

theorem unstakedTokens_unpaid (tokens : Tokens) {self token staker : Address} {penalty net : Int}
    (other : provider ≠ staker) (asset : Address) :
    (unstakedTokens tokens self token staker penalty net).balance asset provider ≤
      tokens.balance asset provider := by
  have burning : (if 0 < penalty then tokens.burned token self penalty else tokens).balance asset
      provider ≤ tokens.balance asset provider := by
    split
    · rw [Tokens.burned_balance]
      split <;> omega
    · exact le_refl _
  simp only [unstakedTokens]
  by_cases pays : 0 < net
  · have given : 0 ≤ if asset = token ∧ provider = self then net else 0 := by
      split <;> omega
    simp only [pays, if_true, Tokens.moved_balance, other, and_false, if_false]
    omega
  · rw [if_neg pays]
    exact burning

theorem approveEmergencyUnstake_spared (signer staker : Address)
    (locked : pre.vault.activity.LockedUp env provider) :
    wlp (approveEmergencyUnstake env signer staker)
      (fun _ after => Spared provider pre after) pre := by
  simp only [approveEmergencyUnstake, getEmergencyConfig, getEmergencyRequest, removeRequest,
    saveRequest, wlp_rules, wp_auth, wp_getStakeToken, wp_ite, true_and]
  intro _ token _ config _ _ request _ _ _
  refine ⟨fun _ => ?_, fun _ => ⟨rfl, rfl, fun _ => le_refl _⟩⟩
  apply wp_then (executeEarlyUnstake_spec env pre staker token config.penaltyBps) ?_
  rintro _ _ ⟨info, _, _, unlocked, rfl⟩
  have other : provider ≠ staker := by
    rintro rfl
    exact unlocked locked
  constructor
  · simp only [World.setActivity, Custody.recordStake, lookup_insert, if_neg other]
  · simp only [World.setActivity, Activity.released, lookup_erase, if_neg other]
  · exact unstakedTokens_unpaid pre.tokens other

theorem exit_spared {event : Event} (exit : event.Exit)
    (free : pre.vault.activity.executionLock = false)
    (locked : pre.vault.activity.LockedUp env provider) :
    wp (event.exec env) (fun _ after => Spared provider pre after) (fun _ _ => True) pre := by
  cases event with
  | rewarded => exact absurd exit id
  | entry call =>
    cases call
    case withdrawStake staker =>
      rw [Event.exec, exec, wp_discard]
      · exact withdrawStake_spared staker locked
      · simp
    case partialUnstake staker amount =>
      rw [Event.exec, exec, wp_discard]
      · exact partialUnstake_spared staker amount locked
      · simp
    case processUnstakeQueue limit =>
      rw [Event.exec, exec, wp_discard]
      · exact processUnstakeQueue_spared limit free locked
      · simp
    case approveEmergencyUnstake signer staker =>
      rw [Event.exec, exec]
      · exact approveEmergencyUnstake_spared signer staker locked
      · simp
    all_goals exact absurd exit id

theorem doSlash_locked (active : env.sequence ≤ endLedger) (other : Address)
    (severity : SlashSeverity) (reason : String) (locked : LockedUntil provider endLedger pre) :
    wp (doSlash env other severity reason) (fun _ after => LockedUntil provider endLedger after)
      (fun _ after => LockedUntil provider endLedger after) pre := by
  apply wp_mono (doSlash_spec env pre other severity reason)
  · rintro _ _ ⟨_, _, _, _, _, disposed, rfl⟩
    have relocked := locked.relocked active other pre.vault.settings.lockupLedgers
    cases disposed <;> exact relocked.congr rfl
  · rintro _ _ ⟨_, stopped⟩
    cases stopped <;> exact locked.congr rfl

theorem exec_locked (call : Call) (inside : ∀ stakeToken lockups tokens,
      call ≠ .elsewhere stakeToken lockups tokens)
    (active : env.sequence ≤ endLedger) (free : pre.vault.activity.executionLock = false)
    (locked : LockedUntil provider endLedger pre) :
    wp (exec env call) (fun _ after => LockedUntil provider endLedger after) (fun _ _ => True)
      pre := by
  have lockedUp := locked.lockedUp active
  have bystanding (bystander : call.Bystander) :
      wp (exec env call) (fun _ after => LockedUntil provider endLedger after) (fun _ _ => True)
        pre :=
    wp_then (bystander_quiet bystander) (fun _ _ quiet => locked.congr quiet.lockups)
  have leaving (exit : (Event.entry call).Exit) :
      wp (exec env call) (fun _ after => LockedUntil provider endLedger after) (fun _ _ => True)
        pre := by
    have spared := exit_spared exit free lockedUp
    rw [Event.exec] at spared
    · exact wp_then spared (fun _ _ reached => reached.lockedUntil locked)
    · exact inside
  cases call
  case elsewhere stakeToken lockups tokens => exact absurd rfl (inside stakeToken lockups tokens)
  case withdrawStake => exact leaving trivial
  case partialUnstake => exact leaving trivial
  case processUnstakeQueue => exact leaving trivial
  case approveEmergencyUnstake => exact leaving trivial
  case slashStake caller slashed severity reason =>
    rw [exec, wp_discard]
    apply wp_then (slashStake_spec env pre caller slashed severity reason) ?_
    rintro _ _ ⟨_, _, _, _, _, _, disposed, rfl⟩
    have relocked := locked.relocked active slashed pre.vault.settings.lockupLedgers
    cases disposed <;> exact relocked.congr rfl
  case batchSlashStake =>
    rw [exec, wp_discard]
    apply batchSlashStake_rule env pre _ _ _ _ (LockedUntil provider endLedger) ?_ locked
    intro _ entry mem held
    exact attempts_rule mem _ (doSlash_locked active _ _ _ held)
  case upkeep upkeep =>
    cases upkeep
    case releaseProviderLockup other =>
      simp only [exec, Upkeep.exec, wp_requireLockupReleased, implies_true, and_true]
      intro unlocked
      have different : provider ≠ other := by
        rintro rfl
        exact unlocked lockedUp
      exact (Spared.released different).lockedUntil locked
    case requestWithdrawal =>
      simp only [exec, Upkeep.exec, requestWithdrawal, wlp_rules, wp_auth,
        wp_notPaused, wp_ite]
      exact fun _ _ => ⟨fun _ => locked, fun _ => locked.congr rfl⟩
    all_goals exact bystanding trivial
  all_goals exact bystanding trivial

/-- No event moves the end of an unexpired lockup inwards. -/
theorem event_locked (event : Event) (active : env.sequence ≤ endLedger)
    (free : pre.vault.activity.executionLock = false)
    (locked : LockedUntil provider endLedger pre) :
    wlp (event.exec env) (fun _ after => LockedUntil provider endLedger after) pre := by
  cases event with
  | rewarded other tokens => exact locked.congr rfl |>.relocked active other _
  | entry call =>
    by_cases outside : ∃ stakeToken lockups tokens, call = .elsewhere stakeToken lockups tokens
    · obtain ⟨stakeToken, lockups, tokens, rfl⟩ := outside
      exact locked.congr rfl
    · have inside : ∀ stakeToken lockups tokens, call ≠ .elsewhere stakeToken lockups tokens :=
        fun stakeToken lockups tokens same => outside ⟨stakeToken, lockups, tokens, same⟩
      rw [Event.exec]
      · exact exec_locked call inside active free locked
      · exact inside

theorem event_free (event : Event) (free : pre.vault.activity.executionLock = false) :
    wlp (event.exec env) (fun _ after => after.vault.activity.executionLock = false) pre := by
  cases event with
  | rewarded other tokens => exact (locked_executionLock ..).trans free
  | entry call =>
    by_cases outside : ∃ stakeToken lockups tokens, call = .elsewhere stakeToken lockups tokens
    · obtain ⟨stakeToken, lockups, tokens, rfl⟩ := outside
      exact free
    · rw [Event.exec]
      · exact wp_then (exec_effect env pre call) fun _ _ effect =>
          (Gated.effect free effect).free
      · exact fun stakeToken lockups tokens same => outside ⟨stakeToken, lockups, tokens, same⟩

end Lockups

section Ledgers

variable {ledger : VaultLedger} {provider : Address} {endLedger : Nat}

variable (input : VaultInput)

theorem advance_free (free : ledger.store.vault.activity.executionLock = false) :
    (advance input ledger).store.vault.activity.executionLock = false :=
  @invoke_rule _ _ _ _ (fun world => world.vault.activity.executionLock = false) _
    (wp_mono (event_free input.event free) (fun _ _ known => known) fun _ _ _ => free)

theorem advance_locked (free : ledger.store.vault.activity.executionLock = false)
    (active : (ledger.env input.arrival).sequence ≤ endLedger)
    (locked : LockedUntil provider endLedger ledger.store) :
    LockedUntil provider endLedger (advance input ledger).store :=
  invoke_rule (wp_mono (event_locked input.event active free locked) (fun _ _ known => known)
    fun _ _ _ => locked)

/-- An exit that arrives before a lockup has ended pays its provider nothing. -/
theorem advance_spared (exit : input.event.Exit)
    (free : ledger.store.vault.activity.executionLock = false)
    (active : (ledger.env input.arrival).sequence ≤ endLedger)
    (locked : LockedUntil provider endLedger ledger.store) :
    Spared provider ledger.store (advance input ledger).store :=
  invoke_rule (wp_mono (exit_spared exit free (locked.lockedUp active))
    (fun _ _ known => known) fun _ _ _ => .refl ledger.store)

theorem sequence_le_final (inputs : List VaultInput) (ledger : VaultLedger) :
    ledger.sequence ≤ (final advance ledger inputs).sequence := by
  induction inputs generalizing ledger with
  | nil => exact le_refl _
  | cons input rest ih =>
    exact (Nat.le_add_right _ _).trans (ih (advance input ledger))

/-- A lockup stays on record through every run that ends before it does. The induction is
on the inputs. -/
theorem run_locked (inputs : List VaultInput) (ledger : VaultLedger)
    (free : ledger.store.vault.activity.executionLock = false)
    (locked : LockedUntil provider endLedger ledger.store)
    (active : (final advance ledger inputs).sequence ≤ endLedger) :
    (final advance ledger inputs).store.vault.activity.executionLock = false ∧
      LockedUntil provider endLedger (final advance ledger inputs).store := by
  induction inputs generalizing ledger with
  | nil => exact ⟨free, locked⟩
  | cons input rest ih =>
    have arrived : (ledger.env input.arrival).sequence ≤ endLedger :=
      (sequence_le_final rest (advance input ledger)).trans active
    exact ih (advance input ledger) (advance_free input free)
      (advance_locked input free arrived locked) active

end Ledgers

/-- A vault that is deployed at some ledger, after some calls. -/
def deployedThen (self : Address) (tokens : Tokens) (timestamp sequence : Nat)
    (inputs : List VaultInput) : VaultLedger :=
  final advance ⟨World.fresh self tokens, timestamp, sequence⟩ inputs

theorem deployedThen_free (self : Address) (tokens : Tokens) (timestamp sequence : Nat)
    (inputs : List VaultInput) : (deployedThen self tokens timestamp sequence
      inputs).store.vault.activity.executionLock = false :=
  guarded_invariant advance
    (fun ledger => ledger.store.vault.activity.executionLock = false) (fun _ _ => True)
    (fun _ input _ free => advance_free input free) _ rfl inputs fun _ _ => trivial

/-- In every run a lockup that was once on record outlasts everything that arrives at or
before its end: its end is never moved to an earlier ledger, and no exit draws on the
provider's stake or pays it anything. -/
theorem lockup_outlasts_exits (self : Address) (tokens : Tokens) (timestamp sequence : Nat)
    (prior later : List VaultInput) (input : VaultInput) (provider : Address)
    (lockup : ProviderLockup) (has : (deployedThen self tokens timestamp sequence
      prior).store.vault.activity.providerLockup.lookup provider = some lockup)
    (active : (deployedThen self tokens timestamp sequence (prior ++ later)).sequence +
      input.arrival.ledgers ≤ lockup.endLedger) :
    let current := deployedThen self tokens timestamp sequence (prior ++ later)
    LockedUntil provider lockup.endLedger (advance input current).store ∧
      (input.event.Exit → Spared provider current.store (advance input current).store) := by
  intro current
  have split : current = final advance (deployedThen self tokens timestamp sequence prior)
      later := final_append advance _ prior later
  have locked : LockedUntil provider lockup.endLedger
      (deployedThen self tokens timestamp sequence prior).store := ⟨lockup, has, le_refl _⟩
  have pre : current.sequence ≤ lockup.endLedger := (Nat.le_add_right _ _).trans active
  have kept := run_locked later _ (deployedThen_free self tokens timestamp sequence prior) locked
    (split ▸ pre)
  rw [← split] at kept
  exact ⟨advance_locked input kept.1 active kept.2,
    fun exit => advance_spared input exit kept.1 active kept.2⟩

/-- A deposit of account 7 and a reward that locks it for a hundred ledgers. -/
def rewardedDeposit : List VaultInput :=
  [⟨⟨0, 1, []⟩, fun _ => none, .entry (.initializeVault 1 2 3)⟩,
    ⟨⟨0, 1, [7]⟩, fun _ => none, .entry (.depositStake 7 500)⟩,
    ⟨⟨0, 1, []⟩, fun _ => none, .rewarded 7 wealthy⟩]

/-- Ninety ledgers after another reward the account withdraws in vain. -/
theorem rewardedDeposit_locked :
    let current := deployedThen 0 wealthy 0 0
      (rewardedDeposit ++ [⟨⟨0, 10, []⟩, fun _ => none, .rewarded 7 wealthy⟩])
    let withdrawal : VaultInput := ⟨⟨0, 90, [7]⟩, fun _ => none, .entry (.withdrawStake 7)⟩
    LockedUntil 7 103 (advance withdrawal current).store ∧
      (withdrawal.event.Exit → Spared 7 current.store (advance withdrawal current).store) :=
  lockup_outlasts_exits 0 wealthy 0 0 rewardedDeposit
    [⟨⟨0, 10, []⟩, fun _ => none, .rewarded 7 wealthy⟩]
    ⟨⟨0, 90, [7]⟩, fun _ => none, .entry (.withdrawStake 7)⟩ 7 ⟨3, 103⟩ (by decide) (by decide)

/-! ## Voting power of a locked stake

A stake that is still locked counts with the highest multiplier among the tiers whose weeks its
remaining time covers. The remaining weeks are narrowed to thirty-two bits.
-/

section LockMultipliers

/-- A voting-power multiplier for stakes locked for at least some weeks. -/
structure LockMultiplierTier where
  weeks : Nat
  bps : Nat
  deriving DecidableEq

def secsPerWeek : Nat := 604800

/-- The largest multiplier, a hundredfold. -/
def maxLockMultiplierBps : Nat := 1000000

/-- The tiers until an admin configures others. -/
def defaultLockMultiplierTiers : List LockMultiplierTier :=
  [⟨1, 10000⟩, ⟨4, 12500⟩, ⟨12, 20000⟩]

/-- The whole weeks of a remaining time, cast to thirty-two bits. -/
def remainingWeeks (remainingSecs : Nat) : Nat :=
  remainingSecs / secsPerWeek % 2 ^ 32

/-- The multiplier of a stake with some time left on its lock, zero when no tier is met. -/
def lockMultiplierBpsForRemaining (tiers : List LockMultiplierTier) (remainingSecs : Nat) : Nat :=
  tiers.foldl (fun applicable tier =>
    if tier.weeks ≤ remainingWeeks remainingSecs ∧ applicable < tier.bps then tier.bps
    else applicable) 0

/-- What the admin's setter makes of the configured tiers, nothing when it refuses the tier. -/
def setLockMultiplierTier (weeks bps : Nat) (tiers : List LockMultiplierTier) :
    Option (List LockMultiplierTier) :=
  if weeks = 0 ∨ bps < 10000 ∨ maxLockMultiplierBps < bps then none
  else
    let updated := tiers.map fun tier => if tier.weeks = weeks then ⟨weeks, bps⟩ else tier
    some (if tiers.any (·.weeks = weeks) then updated else updated ++ [⟨weeks, bps⟩])

/-- The tiers that calls of the setter make of the default ones. -/
inductive AcceptedTiers : List LockMultiplierTier → Prop
  | unset : AcceptedTiers defaultLockMultiplierTiers
  | updated {weeks bps : Nat} {tiers updated : List LockMultiplierTier}
      (accepted : AcceptedTiers tiers) (narrow : weeks < 2 ^ 32)
      (set : setLockMultiplierTier weeks bps tiers = some updated) : AcceptedTiers updated

variable {tiers : List LockMultiplierTier}

/-- The scan finds the least bound of what it starts with and of every tier that is met. The
induction is on the tiers. -/
theorem scan_le_iff (weeks bound : Nat) (tiers : List LockMultiplierTier) (applicable : Nat) :
    tiers.foldl (fun applicable tier =>
      if tier.weeks ≤ weeks ∧ applicable < tier.bps then tier.bps else applicable) applicable
        ≤ bound ↔ applicable ≤ bound ∧ ∀ tier ∈ tiers, tier.weeks ≤ weeks → tier.bps ≤ bound := by
  induction tiers generalizing applicable with
  | nil => simp
  | cons tier rest ih =>
    rw [List.foldl_cons, ih, List.forall_mem_cons]
    split
    next met => exact ⟨fun both => ⟨by omega, fun _ => both.1, both.2⟩,
      fun both => ⟨both.2.1 met.1, both.2.2⟩⟩
    next missed => exact ⟨fun both => ⟨both.1, by omega, both.2⟩, fun both => ⟨both.1, both.2.2⟩⟩

theorem multiplier_le_iff (tiers : List LockMultiplierTier) (remaining bound : Nat) :
    lockMultiplierBpsForRemaining tiers remaining ≤ bound ↔
      ∀ tier ∈ tiers, tier.weeks ≤ remainingWeeks remaining → tier.bps ≤ bound :=
  (scan_le_iff _ bound tiers 0).trans (and_iff_right bound.zero_le)

/-- A multiplier reaches a positive number when a tier that is met does. -/
theorem le_multiplier_iff {remaining bound : Nat} (pos : 0 < bound) :
    bound ≤ lockMultiplierBpsForRemaining tiers remaining ↔
      ∃ tier ∈ tiers, tier.weeks ≤ remainingWeeks remaining ∧ bound ≤ tier.bps := by
  have exceeded := (multiplier_le_iff tiers remaining (bound - 1)).not
  simp only [not_forall, not_le, exists_prop] at exceeded
  constructor
  · intro reached
    obtain ⟨tier, mem, met, above⟩ := exceeded.mp (by omega)
    exact ⟨tier, mem, met, by omega⟩
  · rintro ⟨tier, mem, met, above⟩
    have := exceeded.mpr ⟨tier, mem, met, by omega⟩
    omega

/-- There is always a tier, and every tier asks for some weeks and counts for something. The
induction is on the calls of the setter. -/
theorem AcceptedTiers.earning (accepted : AcceptedTiers tiers) :
    tiers ≠ [] ∧ ∀ tier ∈ tiers, 0 < tier.weeks ∧ tier.weeks < 2 ^ 32 ∧ 0 < tier.bps := by
  induction accepted with
  | unset => decide
  | @updated weeks bps tiers updated _ narrow set ih =>
    simp only [setLockMultiplierTier] at set
    split at set
    · cases set
    next accepts =>
      obtain rfl := Option.some.inj set
      have fresh : 0 < weeks ∧ weeks < 2 ^ 32 ∧ 0 < bps := by omega
      have changed : ∀ tier ∈ tiers.map fun tier =>
          if tier.weeks = weeks then (⟨weeks, bps⟩ : LockMultiplierTier) else tier,
          0 < tier.weeks ∧ tier.weeks < 2 ^ 32 ∧ 0 < tier.bps := by
        rintro _ mem
        obtain ⟨tier, listed, rfl⟩ := List.mem_map.mp mem
        split
        · exact fresh
        · exact ih.2 tier listed
      split
      · exact ⟨by simpa using ih.1, changed⟩
      · refine ⟨by simp, fun tier mem => ?_⟩
        rcases List.mem_append.mp mem with listed | added
        · exact changed tier listed
        · exact List.mem_singleton.mp added ▸ fresh

/-- Below two to the thirty-two weeks the weeks are not cut. -/
theorem remainingWeeks_exact {remaining : Nat} (below : remaining < 2 ^ 32 * secsPerWeek) :
    remainingWeeks remaining = remaining / secsPerWeek :=
  Nat.mod_eq_of_lt (Nat.div_lt_of_lt_mul (Nat.mul_comm _ _ ▸ below))

/-- Up to some remaining time a longer lock never counts less, exactly when that time is below two
to the thirty-two weeks. -/
theorem multiplier_mono_iff (accepted : AcceptedTiers tiers) (longest : Nat) :
    (∀ shorter longer, shorter ≤ longer → longer ≤ longest →
      lockMultiplierBpsForRemaining tiers shorter ≤ lockMultiplierBpsForRemaining tiers longer) ↔
      longest < 2 ^ 32 * secsPerWeek := by
  obtain ⟨some, earning⟩ := accepted.earning
  constructor
  · intro monotone
    by_contra! wraps
    obtain ⟨tier, mem⟩ := List.exists_mem_of_ne_nil tiers some
    obtain ⟨asks, narrow, counts⟩ := earning tier mem
    -- The weeks of the first lock are the tier's, and those of the second are cut to none.
    have shorter : tier.weeks * secsPerWeek < 2 ^ 32 * secsPerWeek :=
      Nat.mul_lt_mul_of_pos_right narrow (by decide)
    have meets : remainingWeeks (tier.weeks * secsPerWeek) = tier.weeks :=
      (remainingWeeks_exact shorter).trans (Nat.mul_div_cancel _ (by decide))
    have earned := (le_multiplier_iff counts).mpr ⟨tier, mem, meets.ge, le_rfl⟩
    have nothing : lockMultiplierBpsForRemaining tiers (2 ^ 32 * secsPerWeek) ≤ 0 := by
      refine (multiplier_le_iff _ _ _).mpr fun other listed met => ?_
      have none : remainingWeeks (2 ^ 32 * secsPerWeek) = 0 := rfl
      have := (earning other listed).1
      omega
    have := monotone _ _ shorter.le wraps
    omega
  · intro below shorter longer ordered within
    refine (multiplier_le_iff _ _ _).mpr fun tier mem met => ?_
    refine (le_multiplier_iff (earning tier mem).2.2).mpr ⟨tier, mem, met.trans ?_, le_rfl⟩
    rw [remainingWeeks_exact (by omega), remainingWeeks_exact (by omega)]
    exact Nat.div_le_div_right ordered

/-- A lock of twelve weeks counts no less than one of five, as every two within a thousand. -/
theorem default_multipliers_mono :
    lockMultiplierBpsForRemaining defaultLockMultiplierTiers (5 * secsPerWeek) ≤
      lockMultiplierBpsForRemaining defaultLockMultiplierTiers (12 * secsPerWeek) :=
  (multiplier_mono_iff .unset (1000 * secsPerWeek)).mpr (by decide) _ _ (by decide) (by decide)

/-- With a tier of eight weeks set, a lock of twelve weeks counts double and one of two to the
thirty-two weeks counts nothing. -/
theorem narrowed_weeks_drop :
    ∃ tiers ∈ setLockMultiplierTier 8 15000 defaultLockMultiplierTiers, ∃ shorter longer,
      shorter ≤ longer ∧ longer < 2 ^ 64 ∧ ¬ lockMultiplierBpsForRemaining tiers shorter ≤
        lockMultiplierBpsForRemaining tiers longer :=
  ⟨_, rfl, 12 * secsPerWeek, 2 ^ 32 * secsPerWeek, by decide, by decide, by decide⟩

end LockMultipliers

end StellarSwipe.StakeVault
