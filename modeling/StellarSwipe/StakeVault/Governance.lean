import StellarSwipe.StakeVault.Appeals

/-!
# Administration of the vault

The settings that an administrator changes alone, the governance contract's entry points, and the
actions that signers approve together.
-/

namespace StellarSwipe.StakeVault

open Program FixedWidth Multisig

/-- The stored administrator, or an abort in an uninitialized vault. -/
def expectAdmin : VaultProgram Address := do
  orTrap (← get).vault.settings.admin

def changeSettings (change : Settings → Settings) : VaultProgram Unit :=
  modify fun world => world.setSettings (change world.vault.settings)

/-- One-time initialization. -/
def initializeVault (admin stakeToken signalRegistry : Address) : VaultProgram Unit := do
  demand ((← get).vault.settings.initialized = false)
  changeSettings fun settings => { settings with
    initialized := true
    admin := some admin
    stakeToken := some stakeToken
    signalRegistry := some signalRegistry
    paused := false }

variable (env : Env)

/-- A setting that one administrator changes while no multi-sig configuration is set.
The members differ in how they read the administrator, in the check of their value
and in what they write. -/
def soloSetting (admin : VaultProgram Address) (check : Except StakeVaultError Unit)
    (change : Settings → Settings) : VaultProgram Unit := do
  requireNoMultisig
  requireAuth env (← admin)
  ofExcept check
  changeSettings change

def pause : VaultProgram Unit :=
  soloSetting env expectAdmin (.ok ()) fun settings => { settings with paused := true }

def unpause : VaultProgram Unit :=
  soloSetting env expectAdmin (.ok ()) fun settings => { settings with paused := false }

def setMinimumStakeDuration (durationSecs : Nat) : VaultProgram Unit :=
  soloSetting env getAdmin (.ok ()) fun settings =>
    { settings with minimumStakeDuration := some durationSecs }

def setMinimumStake (minimum : Int) : VaultProgram Unit :=
  soloSetting env expectAdmin (.ok ()) fun settings => { settings with minimumStake := some minimum }

def setWithdrawalCooldown (cooldownSecs : Nat) : VaultProgram Unit :=
  soloSetting env getAdmin (validateCooldown cooldownSecs) fun settings =>
    { settings with withdrawalCooldownSecs := some cooldownSecs }

def configureSlashTiers (tiers : SlashTierConfig) : VaultProgram Unit :=
  soloSetting env getAdmin (validateSlashTiers tiers) fun settings =>
    { settings with slashTierConfig := some tiers }

/-- Appeals stay open for at most thirty days. -/
def validateAppealWindow (windowSecs : Nat) : Except StakeVaultError Unit :=
  if maxAppealWindowSecs < windowSecs then .error .invalidAppealWindow else .ok ()

def setAppealWindow (windowSecs : Nat) : VaultProgram Unit :=
  soloSetting env getAdmin (validateAppealWindow windowSecs) fun settings =>
    { settings with appealWindowSecs := some windowSecs }

def setMaxUnstakeQueueSize (size : Nat) : VaultProgram Unit :=
  soloSetting env getAdmin (.ok ()) fun settings => { settings with maxUnstakeQueueSize := some size }

def setDefaultProviderLockup (ledgers : Nat) : VaultProgram Unit :=
  soloSetting env getAdmin
    (if maxProviderLockupLedgers < ledgers then .error .invalidAmount else .ok ())
    fun settings => { settings with defaultProviderLockupLedgers := some ledgers }

/-- The one setting that the multi-sig configuration does not take over. -/
def setSlashCooldown (ledgers : Nat) : VaultProgram Unit := do
  requireAuth env (← expectAdmin)
  changeSettings fun settings => { settings with slashCooldownLedgers := some ledgers }

def setGovernance (admin governance : Address) : VaultProgram Unit := do
  let has ← getAdmin
  requireAuth env admin
  ensure (admin = has) .unauthorized
  changeSettings fun settings => { settings with governanceAddress := some governance }

/-- The governance contract pauses or resumes the vault, whatever the multi-sig. -/
def applyGovernancePause (paused : Bool) : VaultProgram Unit := do
  let governance ← orFail (← get).vault.settings.governanceAddress .unauthorized
  requireAuth env governance
  changeSettings fun settings => { settings with paused }

def governanceConfigureSlashTiers (governance : Address) (tiers : SlashTierConfig) :
    VaultProgram Unit := do
  let has ← orFail (← get).vault.settings.governanceAddress .unauthorized
  ensure (governance = has) .unauthorized
  requireAuth env governance
  ofExcept (validateSlashTiers tiers)
  changeSettings fun settings => { settings with slashTierConfig := some tiers }

/-- Note when a provider's stake first fell below the minimum. -/
def notifyStakeBelowMinimum (provider : Address) : VaultProgram Unit := do
  let world ← get
  if world.vault.settings.minimum ≤ world.vault.custody.stakeOf provider then pure ()
  else if (world.vault.activity.stakeBelowMinSince.lookup provider).isSome then pure ()
  else set (world.setActivity { world.vault.activity with
    stakeBelowMinSince := world.vault.activity.stakeBelowMinSince.insert provider env.timestamp })

/-- A provider below the minimum may submit signals during a grace period only. -/
def checkSignalSubmissionAllowed (provider : Address) : VaultProgram Unit := do
  let world ← get
  if world.vault.settings.minimum ≤ world.vault.custody.stakeOf provider then
    set (world.setActivity { world.vault.activity with
      stakeBelowMinSince := world.vault.activity.stakeBelowMinSince.erase provider })
  else
    let belowSince := (world.vault.activity.stakeBelowMinSince.lookup provider).getD env.timestamp
    ensure (env.timestamp - belowSince ≤ gracePeriodSecs) .stakeBelowMinimum

/-- Run a program of the multi-sig module on the vault's own proposals. -/
def onMultisig {α : Type} (translate : Multisig.MultisigError → StakeVaultError)
    (program : Program Multisig.Storage Multisig.MultisigError α) : VaultProgram α :=
  zoom (fun world => world.vault.multisig) (fun multisig world => world.setMultisig multisig)
    translate program

variable (caller : Address)

def setMultisigConfig (config : Option Multisig.MultisigConfig) : VaultProgram Unit := do
  requireAuth env caller
  let admin ← getAdmin
  ensure (caller = admin) .unauthorized
  match config with
  | some config => onMultisig (fun _ => .invalidMultiSigConfig) (setConfig config)
  | none => onMultisig (fun _ => .invalidMultiSigConfig) clearConfig

variable (payload : Bytes)

def proposeAction : VaultProgram Nat := do
  requireAuth env caller
  onMultisig (fun _ => .unauthorized) (propose env caller payload)

/-- The vault's errors for an approval that the multi-sig module rejects. -/
def approvalError : Multisig.MultisigError → StakeVaultError
  | .proposalNotFound => .emergencyRequestNotFound
  | .alreadyApproved => .alreadyApproved
  | .proposalExpired => .emergencyRequestExpired
  | _ => .unauthorized

/-- Approve a pending proposal and return its number of approvals. -/
def approveAction (proposalId : Nat) : VaultProgram Nat := do
  requireAuth env caller
  onMultisig approvalError (approve env caller proposalId)

def executionError : Multisig.MultisigError → StakeVaultError
  | .alreadyExecuted => .emergencyRequestNotFound
  | .thresholdNotMet => .unauthorized
  | .proposalExpired => .emergencyRequestExpired
  | _ => .unauthorized

/-- The privileged actions of a payload. -/
inductive Action where
  | pause
  | unpause
  | setMinimumStake
  | setMinimumStakeDuration
  | configureSlashTiers
  | setAppealWindow
  | setWithdrawalCooldown
  | resolveAppeal

/-- The action of a payload's first byte. -/
def Action.ofTag (tag : UInt8) : Option Action :=
  match tag.toNat with
  | 0 => some .pause
  | 1 => some .unpause
  | 2 => some .setMinimumStake
  | 3 => some .setMinimumStakeDuration
  | 4 => some .configureSlashTiers
  | 5 => some .setAppealWindow
  | 6 => some .setWithdrawalCooldown
  | 7 => some .resolveAppeal
  | _ => none

/-- The eight bytes after the tag. -/
def payloadNumber : Nat := decodeLittleEndian payload 1 8

/-- A 128-bit number of the payload cast to 32 bits. -/
def payloadBps (offset : Nat) : Nat :=
  (decodeI128FromBytes payload offset % 2 ^ 32).toNat

def payloadTiers : SlashTierConfig :=
  ⟨payloadBps payload 1, payloadBps payload 17, payloadBps payload 33⟩

/-- The byte after the number decides whether a resolution upholds the slash. -/
def payloadUpholds : Bool := byteAt payload 9 = 1

/-- Perform the action of an approved payload. -/
def performAction : Action → VaultProgram Unit
  | .pause => changeSettings fun settings => { settings with paused := true }
  | .unpause => changeSettings fun settings => { settings with paused := false }
  | .setMinimumStake => changeSettings fun settings =>
    { settings with minimumStake := some (decodeI128FromBytes payload 1) }
  | .setMinimumStakeDuration => changeSettings fun settings =>
    { settings with minimumStakeDuration := some (payloadNumber payload) }
  | .configureSlashTiers => do
    ofExcept (validateSlashTiers (payloadTiers payload))
    changeSettings fun settings => { settings with slashTierConfig := some (payloadTiers payload) }
  | .setAppealWindow => do
    ofExcept (validateAppealWindow (payloadNumber payload))
    changeSettings fun settings => { settings with appealWindowSecs := some (payloadNumber payload) }
  | .setWithdrawalCooldown => do
    ofExcept (validateCooldown (payloadNumber payload))
    changeSettings fun settings =>
      { settings with withdrawalCooldownSecs := some (payloadNumber payload) }
  | .resolveAppeal => doResolveAppeal env (payloadNumber payload) (payloadUpholds payload)

def executeAction (proposalId : Nat) : VaultProgram Unit := do
  requireAuth env caller
  let proposal ← onMultisig (fun _ => .emergencyRequestNotFound) (getProposal proposalId)
  onMultisig executionError (requireCanExecute env proposal)
  let tag ← orFail proposal.payload.head? .unauthorized
  let action ← orFail (Action.ofTag tag) .unauthorized
  performAction env proposal.payload action
  onMultisig (fun _ => .unauthorized) (markExecuted proposalId)

section Specifications

variable (env : Env) (pre : World)

/-- A change of settings that keeps what the initialization set, the pause apart. -/
structure Settings.Tuned (pre after : Settings) : Prop where
  initialized : after.initialized = pre.initialized
  admin : after.admin = pre.admin
  stakeToken : after.stakeToken = pre.stakeToken
  signalRegistry : after.signalRegistry = pre.signalRegistry

theorem initializeVault_spec (admin stakeToken signalRegistry : Address) :
    wlp (initializeVault admin stakeToken signalRegistry)
      (fun _ after => pre.vault.settings.initialized = false ∧
        ∃ settings, settings.initialized = true ∧ settings.stakeToken = some stakeToken ∧
          after = pre.setSettings settings) pre := by
  simp only [initializeVault, changeSettings, wlp_rules]
  exact fun unused => ⟨unused, _, rfl, rfl, rfl⟩

/-- A program that does no more than tune the settings. -/
def Tunes (program : VaultProgram Unit) : Prop :=
  ∀ pre, wp program (fun _ after => ∃ settings, pre.vault.settings.Tuned settings ∧
    after = pre.setSettings settings) (fun _ _ => True) pre

variable {change : Settings → Settings}

theorem changeSettings_tunes (tuned : ∀ settings : Settings, settings.Tuned (change settings)) :
    Tunes (changeSettings change) :=
  fun pre => ⟨_, tuned pre.vault.settings, rfl⟩

theorem soloSetting_tunes {admin : VaultProgram Address} (check : Except StakeVaultError Unit)
    (reads : admin = getAdmin ∨ admin = expectAdmin)
    (tuned : ∀ settings : Settings, settings.Tuned (change settings)) :
    Tunes (soloSetting env admin check change) := by
  intro pre
  rcases reads with rfl | rfl
  all_goals
    simp only [soloSetting, requireNoMultisig, changeSettings, expectAdmin, wlp_rules, wp_getAdmin,
      wp_auth]
    intro _ _ _ _ _ _
    exact ⟨_, tuned pre.vault.settings, rfl⟩

theorem setSlashCooldown_tunes (ledgers : Nat) : Tunes (setSlashCooldown env ledgers) := by
  intro pre
  simp only [setSlashCooldown, expectAdmin, changeSettings, wlp_rules, wp_auth]
  exact fun _ _ _ => ⟨_, by exact ⟨rfl, rfl, rfl, rfl⟩, rfl⟩

theorem setGovernance_tunes (admin governance : Address) :
    Tunes (setGovernance env admin governance) := by
  intro pre
  simp only [setGovernance, changeSettings, wlp_rules, wp_getAdmin, wp_auth]
  exact fun _ _ _ _ => ⟨_, by exact ⟨rfl, rfl, rfl, rfl⟩, rfl⟩

theorem applyGovernancePause_tunes (paused : Bool) : Tunes (applyGovernancePause env paused) := by
  intro pre
  simp only [applyGovernancePause, changeSettings, wlp_rules, wp_auth]
  exact fun _ _ _ => ⟨_, by exact ⟨rfl, rfl, rfl, rfl⟩, rfl⟩

theorem governanceConfigureSlashTiers_tunes (governance : Address) (tiers : SlashTierConfig) :
    Tunes (governanceConfigureSlashTiers env governance tiers) := by
  intro pre
  simp only [governanceConfigureSlashTiers, changeSettings, wlp_rules, wp_auth]
  exact fun _ _ _ _ _ _ => ⟨_, by exact ⟨rfl, rfl, rfl, rfl⟩, rfl⟩

@[simp] theorem wp_onMultisig {α : Type} {post : α → World → Prop}
    {fault : Fault StakeVaultError → World → Prop} {world : World}
    (translate : Multisig.MultisigError → StakeVaultError)
    (program : Program Multisig.Storage Multisig.MultisigError α) :
    wp (onMultisig translate program) post fault world ↔
      wp program (fun value multisig => post value (world.setMultisig multisig))
        (fun reason multisig => reason.holds
          (fun error => fault (.error (translate error)) (world.setMultisig multisig))
          (fault .trap (world.setMultisig multisig))) world.vault.multisig :=
  wp_zoom ..

theorem onMultisig_spec {α : Type} (translate : Multisig.MultisigError → StakeVaultError)
    (program : Program Multisig.Storage Multisig.MultisigError α) :
    wp (onMultisig translate program) (fun _ after => ∃ multisig, after = pre.setMultisig multisig)
      (fun _ _ => True) pre := by
  rw [wp_onMultisig, wp_iff]
  refine ⟨fun _ multisig _ => ⟨multisig, rfl⟩, fun reason _ _ => ?_⟩
  cases reason <;> trivial

variable (caller : Address)

theorem setMultisigConfig_spec (config : Option Multisig.MultisigConfig) :
    wlp (setMultisigConfig env caller config)
      (fun _ after => ∃ multisig, after = pre.setMultisig multisig) pre := by
  simp only [setMultisigConfig, wlp_rules, wp_auth, wp_getAdmin]
  intro _ _ _ _
  cases config <;> exact onMultisig_spec pre _ _

theorem proposeAction_spec (payload : Bytes) : wlp (proposeAction env caller payload)
      (fun _ after => ∃ multisig, after = pre.setMultisig multisig) pre := by
  simp only [proposeAction, wp_bind, wp_auth, asks_true]
  exact fun _ => onMultisig_spec pre _ _

theorem approveAction_spec (proposalId : Nat) : wlp (approveAction env caller proposalId)
      (fun _ after => ∃ multisig, after = pre.setMultisig multisig) pre := by
  simp only [approveAction, wp_bind, wp_auth, asks_true]
  exact fun _ => onMultisig_spec pre _ _

/-- What performing an approved payload has done: tuned the settings, or resolved the
appeal that the payload names. -/
inductive Performed (env : Env) (pre : World) (payload : Bytes) : World → Prop
  | tuned (settings : Settings) (tuned : pre.vault.settings.Tuned settings) :
      Performed env pre payload (pre.setSettings settings)
  | resolved (tagged : payload.head?.bind Action.ofTag = some .resolveAppeal) (token : Address)
      (record : SlashRecord) (appeal : SlashAppeal) (middle : World)
      (resolvable : Resolvable pre (payloadNumber payload) token record appeal)
      (settled : Settled env pre (payloadNumber payload) token record (payloadUpholds payload)
        middle) :
      Performed env pre payload
        (middle.decided (payloadNumber payload) appeal (decision (payloadUpholds payload)))

theorem performAction_spec (payload : Bytes) (action : Action)
    (tagged : payload.head?.bind Action.ofTag = some action) :
    wlp (performAction env payload action)
      (fun _ after => Performed env pre payload after) pre := by
  have tunes {program : VaultProgram Unit} (tuning : Tunes program) :
      wlp program (fun _ after => Performed env pre payload after) pre := by
    refine wp_then (tuning pre) ?_
    rintro _ _ ⟨settings, tuned, rfl⟩
    exact .tuned settings tuned
  cases action with
  | resolveAppeal =>
    refine wp_then (doResolveAppeal_spec env pre _ _) ?_
    rintro _ _ ⟨token, record, appeal, middle, resolvable, settled, rfl⟩
    exact .resolved tagged token record appeal middle resolvable settled
  | pause | unpause | setMinimumStake | setMinimumStakeDuration =>
    rw [performAction]
    exact tunes (changeSettings_tunes fun _ => ⟨rfl, rfl, rfl, rfl⟩)
  | _ =>
    simp only [performAction, wlp_rules]
    exact fun _ _ => tunes (changeSettings_tunes fun _ => ⟨rfl, rfl, rfl, rfl⟩)

theorem Performed.multisig {payload : Bytes} {after : World}
    (performed : Performed env pre payload after) : after.vault.multisig = pre.vault.multisig := by
  cases performed with
  | tuned => rfl
  | resolved _ _ _ _ _ _ settled => exact settled.multisig

theorem executeAction_spec (proposalId : Nat) : wlp (executeAction env caller proposalId)
      (fun _ after => ∃ proposal middle multisig,
        pre.vault.multisig.proposals.lookup proposalId = some proposal ∧
        Multisig.Executable env pre.vault.multisig proposal ∧
        Performed env pre proposal.payload middle ∧ multisig.config = pre.vault.multisig.config ∧
        after = middle.setMultisig multisig) pre := by
  have ignored : ∀ (reason : Fault Multisig.MultisigError),
      reason.holds (fun _ => True) True := by
    rintro (_ | _) <;> trivial
  simp only [executeAction, getProposal, wlp_rules, wp_auth, wp_onMultisig,
    Fault.holds_error]
  intro _ proposal has
  refine wp_mono (requireCanExecute_spec env proposal _) ?_
    fun reason _ _ => ignored reason
  rintro _ _ ⟨rfl, executable⟩ tag first action known
  have tagged : proposal.payload.head?.bind Action.ofTag = some action := by simp [first, known]
  refine wp_then (performAction_spec env pre _ _ tagged) ?_
  intro _ middle performed
  refine wp_mono (markExecuted_spec proposalId _) ?_ fun reason _ _ => ignored reason
  rintro _ _ ⟨marked, _, _, rfl⟩
  exact ⟨proposal, middle, _, has, executable, performed, by simp only [performed.multisig], rfl⟩

end Specifications

end StellarSwipe.StakeVault
