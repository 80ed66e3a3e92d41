import StellarSwipe.StakeVault.Storage

/-!
# What the vault reaches outside its own entries

Authorization, token calls, the reward index, and the provider lockup that every withdrawal
consults.
-/

namespace StellarSwipe.StakeVault

open Program FixedWidth Activity

variable (env : Env)

/-- The host's check that an address authorized this call. The vault signs nothing
and is not its own caller, so its own address never passes. -/
def requireAuth (address : Address) : VaultProgram Unit := do
  let world ← get
  demand (address ∈ env.auths ∧ address ≠ world.self)

/-- The stored administrator, or the error of an uninitialized vault. -/
def getAdmin : VaultProgram Address := do
  orFail (← get).vault.settings.admin .notInitialized

def getStakeToken : VaultProgram Address := do
  orFail (← get).vault.settings.stakeToken .notInitialized

def requireNotPaused : VaultProgram Unit := do
  ensure ((← get).vault.settings.paused = false) .contractPaused

variable (token : Address) (sender : Address)

/-- A token transfer whose failure is a value, as the host's `try_` call gives it. -/
def tryTransfer (receiver : Address) (amount : Int) : VaultProgram (Except TokenFailure Unit) := do
  let world ← get
  match world.tokens.refusal env token sender amount with
  | some failure => do
    set (world.setTokens world.tokens.refused)
    pure (.error failure)
  | none => do
    set (world.setTokens (world.tokens.moved token sender receiver amount))
    pure (.ok ())

def tryBurn (amount : Int) : VaultProgram (Except TokenFailure Unit) := do
  let world ← get
  match world.tokens.refusal env token sender amount with
  | some failure => do
    set (world.setTokens world.tokens.refused)
    pure (.error failure)
  | none => do
    set (world.setTokens (world.tokens.burned token sender amount))
    pure (.ok ())

/-- A failed invocation becomes the vault's own error. -/
def mapResult : Except TokenFailure Unit → VaultProgram Unit
  | .ok () => pure ()
  | .error failure => fail (.ofTokenFailure failure)

/-- A failed invocation aborts, as the client methods without `try_` do. -/
def orAbort : Except TokenFailure Unit → VaultProgram Unit
  | .ok () => pure ()
  | .error _ => trap

def transfer (receiver : Address) (amount : Int) : VaultProgram Unit := do
  mapResult (← tryTransfer env token sender receiver amount)

def burn (amount : Int) : VaultProgram Unit := do
  mapResult (← tryBurn env token sender amount)

def onIndex {α : Type} (program : RewardIndex.IndexProgram α) : VaultProgram α :=
  zoom (fun world => world.vault.index) (fun index world => world.setIndex index) id program

/-- Count a stake change of the user. -/
def recordAction (env : Env) (user : Address) : VaultProgram Unit :=
  modify fun world => world.setLimits (RateLimit.recordAction world.vault.limits env user)

/-- The lockup of a provider that is locked now: an unexpired window is extended
from its original start, an expired one is replaced. -/
def extendedLockup (existing : Option ProviderLockup) (now ledgers : Nat) : ProviderLockup :=
  match existing with
  | some lockup =>
    if now ≤ lockup.endLedger then
      ⟨lockup.startLedger, max lockup.endLedger (ledgersAfter now ledgers)⟩
    else ⟨now, ledgersAfter now ledgers⟩
  | none => ⟨now, ledgersAfter now ledgers⟩

/-- Lock a provider for a number of ledgers; zero is no lock. -/
def Activity.locked (activity : Activity) (env : Env) (provider : Address) (ledgers : Nat) :
    Activity :=
  if ledgers = 0 then activity
  else { activity with
    providerLockup := activity.providerLockup.insert provider
      (extendedLockup (activity.providerLockup.lookup provider) env.sequence ledgers) }

def lockProvider (provider : Address) (ledgers : Nat) : VaultProgram Unit :=
  modify fun world => world.setActivity (world.vault.activity.locked env provider ledgers)

/-- A provider is under a lockup that is still active; bounds are inclusive. -/
def Activity.LockedUp (activity : Activity) (env : Env) (provider : Address) : Prop :=
  ∃ lockup, activity.providerLockup.lookup provider = some lockup ∧ env.sequence ≤ lockup.endLedger

/-- After a lockup check that passed, no entry is left: an elapsed one is cleared. -/
def Activity.released (activity : Activity) (provider : Address) : Activity :=
  { activity with providerLockup := activity.providerLockup.erase provider }

@[simp] theorem locked_executionLock (activity : Activity) (env : Env) (provider : Address)
    (ledgers : Nat) :
    (activity.locked env provider ledgers).executionLock = activity.executionLock := by
  simp only [locked]
  split <;> rfl

/-- Reject a stake-decreasing operation while the provider's lockup is active, and
clear the entry of one that has elapsed. -/
def requireLockupReleased (provider : Address) : VaultProgram Unit := do
  let world ← get
  match world.vault.activity.providerLockup.lookup provider with
  | some lockup => do
    ensure (lockup.endLedger < env.sequence) .stakeLocked
    modify fun world => world.setActivity (world.vault.activity.released provider)
  | none => pure ()

section Rules

variable {α : Type} {post : α → World → Prop} {fault : Fault StakeVaultError → World → Prop}
  {world : World} {env : Env}

@[simp] theorem wp_auth {post : Unit → World → Prop} (address : Address) :
    wp (requireAuth env address) post fault world ↔
      (address ∈ env.auths ∧ address ≠ world.self → post () world) ∧
        (¬ (address ∈ env.auths ∧ address ≠ world.self) → fault .trap world) := by
  simp only [requireAuth, wp_rules]

@[simp] theorem wp_getAdmin {post : Address → World → Prop} : wp getAdmin post fault world ↔
      (∀ admin, world.vault.settings.admin = some admin → post admin world) ∧
        (world.vault.settings.admin = none → fault (.error .notInitialized) world) := by
  simp only [getAdmin, wp_rules]

@[simp] theorem wp_getStakeToken {post : Address → World → Prop} :
    wp getStakeToken post fault world ↔
      (∀ token, world.vault.settings.stakeToken = some token → post token world) ∧
        (world.vault.settings.stakeToken = none → fault (.error .notInitialized) world) := by
  simp only [getStakeToken, wp_rules]

@[simp] theorem wp_notPaused {post : Unit → World → Prop} :
    wp requireNotPaused post fault world ↔ (world.vault.settings.paused = false → post () world) ∧
        (¬ world.vault.settings.paused = false → fault (.error .contractPaused) world) := by
  simp only [requireNotPaused, wp_rules]

@[simp] theorem wp_tryTransfer {post : Except TokenFailure Unit → World → Prop}
    (token sender receiver : Address) (amount : Int) :
    wp (tryTransfer env token sender receiver amount) post fault world ↔
      (∀ failure, world.tokens.refusal env token sender amount = some failure →
        post (.error failure) (world.setTokens world.tokens.refused)) ∧
      (world.tokens.refusal env token sender amount = none →
        post (.ok ()) (world.setTokens (world.tokens.moved token sender receiver amount))) := by
  simp only [tryTransfer, wp_rules]
  cases world.tokens.refusal env token sender amount <;> simp

@[simp] theorem wp_tryBurn {post : Except TokenFailure Unit → World → Prop}
    (token sender : Address) (amount : Int) :
    wp (tryBurn env token sender amount) post fault world ↔
      (∀ failure, world.tokens.refusal env token sender amount = some failure →
        post (.error failure) (world.setTokens world.tokens.refused)) ∧
      (world.tokens.refusal env token sender amount = none →
        post (.ok ()) (world.setTokens (world.tokens.burned token sender amount))) := by
  simp only [tryBurn, wp_rules]
  cases world.tokens.refusal env token sender amount <;> simp

@[simp] theorem wp_mapResult_ok {post : Unit → World → Prop} :
    wp (mapResult (.ok ())) post fault world ↔ post () world := Iff.rfl

@[simp] theorem wp_mapResult_error {post : Unit → World → Prop} (failure : TokenFailure) :
    wp (mapResult (.error failure)) post fault world ↔
      fault (.error (.ofTokenFailure failure)) world := Iff.rfl

@[simp] theorem wp_orAbort_ok {post : Unit → World → Prop} :
    wp (orAbort (.ok ())) post fault world ↔ post () world := Iff.rfl

@[simp] theorem wp_orAbort_error {post : Unit → World → Prop} (failure : TokenFailure) :
    wp (orAbort (.error failure)) post fault world ↔ fault .trap world := Iff.rfl

@[simp] theorem wp_transfer {post : Unit → World → Prop} (token sender receiver : Address)
    (amount : Int) : wp (transfer env token sender receiver amount) post fault world ↔
      (∀ failure, world.tokens.refusal env token sender amount = some failure →
        fault (.error (.ofTokenFailure failure)) (world.setTokens world.tokens.refused)) ∧
      (world.tokens.refusal env token sender amount = none →
        post () (world.setTokens (world.tokens.moved token sender receiver amount))) := by
  simp only [transfer, wp_bind, wp_tryTransfer, wp_mapResult_ok, wp_mapResult_error]

@[simp] theorem wp_burn {post : Unit → World → Prop} (token sender : Address) (amount : Int) :
    wp (burn env token sender amount) post fault world ↔
      (∀ failure, world.tokens.refusal env token sender amount = some failure →
        fault (.error (.ofTokenFailure failure)) (world.setTokens world.tokens.refused)) ∧
      (world.tokens.refusal env token sender amount = none →
        post () (world.setTokens (world.tokens.burned token sender amount))) := by
  simp only [burn, wp_bind, wp_tryBurn, wp_mapResult_ok, wp_mapResult_error]

@[simp] theorem wp_onIndex (program : RewardIndex.IndexProgram α) :
    wp (onIndex program) post fault world ↔
      (∀ value index, program world.vault.index = .ok value index →
        post value (world.setIndex index)) ∧
      (∀ reason index, program world.vault.index = .error reason index →
        fault reason (world.setIndex index)) := by
  rw [onIndex, wp_zoom, wp_iff]
  refine and_congr Iff.rfl (forall_congr' fun reason => ?_)
  cases reason <;> rfl

@[simp] theorem wp_recordAction {post : Unit → World → Prop} (user : Address) :
    wp (recordAction env user) post fault world ↔
      post () (world.setLimits (RateLimit.recordAction world.vault.limits env user)) := Iff.rfl

@[simp] theorem wp_lockProvider {post : Unit → World → Prop} (provider : Address) (ledgers : Nat) :
    wp (lockProvider env provider ledgers) post fault world ↔
      post () (world.setActivity (world.vault.activity.locked env provider ledgers)) := Iff.rfl

@[simp] theorem wp_requireLockupReleased {post : Unit → World → Prop} (provider : Address) :
    wp (requireLockupReleased env provider) post fault world ↔
      (¬ world.vault.activity.LockedUp env provider →
        post () (world.setActivity (world.vault.activity.released provider))) ∧
      (world.vault.activity.LockedUp env provider → fault (.error .stakeLocked) world) := by
  simp only [requireLockupReleased, wp_rules, Activity.LockedUp]
  cases has : world.vault.activity.providerLockup.lookup provider with
  | none =>
    have same : world.setActivity (world.vault.activity.released provider) = world := by
      simp only [released, Table.erase_of_absent has, World.setActivity]
    simp [same]
  | some lockup => simp

end Rules

end StellarSwipe.StakeVault
