import StellarSwipe.Library.Runs
import StellarSwipe.StakeVault.EmergencyUnstake
import StellarSwipe.StakeVault.Governance
import StellarSwipe.StakeVault.Rewards
import StellarSwipe.StakeVault.UnstakeQueue

/-!
# The vault as a state machine

A step takes one call in its own environment.
-/

namespace StellarSwipe.StakeVault

open Program FixedWidth

/-- The calls that only change settings. -/
inductive Setting where
  | pause
  | unpause
  | setMinimumStakeDuration (durationSecs : Nat)
  | setMinimumStake (minimum : Int)
  | setWithdrawalCooldown (cooldownSecs : Nat)
  | configureSlashTiers (tiers : SlashTierConfig)
  | setAppealWindow (windowSecs : Nat)
  | setMaxUnstakeQueueSize (size : Nat)
  | setDefaultProviderLockup (ledgers : Nat)
  | setSlashCooldown (ledgers : Nat)
  | setGovernance (admin governance : Address)
  | applyGovernancePause (paused : Bool)
  | governanceConfigureSlashTiers (governance : Address) (tiers : SlashTierConfig)
  | configureEmergencyMultisig (caller : Address) (admins : List Address)
      (required penaltyBps timeoutSecs : Nat)
  | setEmergencyCooldown (caller : Address) (cooldownSecs : Nat)

/-- The calls that only change an account's activity entries. -/
inductive Upkeep where
  | notifyStakeBelowMinimum (provider : Address)
  | checkSignalSubmissionAllowed (provider : Address)
  | releaseProviderLockup (provider : Address)
  | requestWithdrawal (staker : Address)
  | requestEmergencyUnstake (staker : Address)
  | expireEmergencyRequest (staker : Address)

/-- The calls that only change the multi-sig module's storage. -/
inductive Approval where
  | setMultisigConfig (caller : Address) (config : Option Multisig.MultisigConfig)
  | proposeAction (caller : Address) (payload : Bytes)
  | approveAction (caller : Address) (proposalId : Nat)

/-- One invocation of the vault. -/
inductive Call where
  | initializeVault (admin stakeToken signalRegistry : Address)
  | setting (setting : Setting)
  | upkeep (upkeep : Upkeep)
  | approval (approval : Approval)
  | executeAction (caller : Address) (proposalId : Nat)
  | depositStake (staker : Address) (amount : Int)
  | delegateStake (delegator provider : Address) (amount : Int)
  | withdrawStake (staker : Address)
  | partialUnstake (staker : Address) (amount : Int)
  | queueUnstake (staker : Address)
  | processUnstakeQueue (limit : Nat)
  | slashStake (caller provider : Address) (severity : SlashSeverity) (reason : String)
  | batchSlashStake (caller : Address) (providers : List Address) (severities : List SlashSeverity)
      (reason : String)
  | appealSlash (appellant : Address) (slashId : Nat) (evidenceUri : String)
  | resolveAppeal (slashId : Nat) (uphold : Bool)
  | batchResolveAppeal (slashIds : List Nat) (upholds : List Bool)
  | approveEmergencyUnstake (signer staker : Address)
  | addIndexRewardAsset (asset : Address)
  | fundIndexRewards (funder asset : Address) (amount : Int)
  | syncIndexStake (staker : Address)
  | claimIndexRewards (staker asset : Address)
  | claimQueuedWithdrawal (claimant : Address) (nonce : Nat)
  | cancelQueuedWithdrawal (claimant : Address) (nonce : Nat)
  | elsewhere (stakeToken : Option Address) (providerLockup : Table Address ProviderLockup)
      (tokens : Tokens)

def Setting.exec (env : Env) : Setting → VaultProgram Unit
  | .pause => StakeVault.pause env
  | .unpause => StakeVault.unpause env
  | .setMinimumStakeDuration durationSecs => StakeVault.setMinimumStakeDuration env durationSecs
  | .setMinimumStake minimum => StakeVault.setMinimumStake env minimum
  | .setWithdrawalCooldown cooldownSecs => StakeVault.setWithdrawalCooldown env cooldownSecs
  | .configureSlashTiers tiers => StakeVault.configureSlashTiers env tiers
  | .setAppealWindow windowSecs => StakeVault.setAppealWindow env windowSecs
  | .setMaxUnstakeQueueSize size => StakeVault.setMaxUnstakeQueueSize env size
  | .setDefaultProviderLockup ledgers => StakeVault.setDefaultProviderLockup env ledgers
  | .setSlashCooldown ledgers => StakeVault.setSlashCooldown env ledgers
  | .setGovernance admin governance => StakeVault.setGovernance env admin governance
  | .applyGovernancePause paused => StakeVault.applyGovernancePause env paused
  | .governanceConfigureSlashTiers governance tiers =>
    StakeVault.governanceConfigureSlashTiers env governance tiers
  | .configureEmergencyMultisig caller admins required penaltyBps timeoutSecs =>
    StakeVault.configureEmergencyMultisig env caller admins required penaltyBps timeoutSecs
  | .setEmergencyCooldown caller cooldownSecs =>
    StakeVault.setEmergencyCooldown env caller cooldownSecs

def Upkeep.exec (env : Env) : Upkeep → VaultProgram Unit
  | .notifyStakeBelowMinimum provider => StakeVault.notifyStakeBelowMinimum env provider
  | .checkSignalSubmissionAllowed provider => StakeVault.checkSignalSubmissionAllowed env provider
  | .releaseProviderLockup provider => requireLockupReleased env provider
  | .requestWithdrawal staker => StakeVault.requestWithdrawal env staker
  | .requestEmergencyUnstake staker => StakeVault.requestEmergencyUnstake env staker
  | .expireEmergencyRequest staker => StakeVault.expireEmergencyRequest env staker

def Approval.exec (env : Env) : Approval → VaultProgram Unit
  | .setMultisigConfig caller config => StakeVault.setMultisigConfig env caller config
  | .proposeAction caller payload => discard (StakeVault.proposeAction env caller payload)
  | .approveAction caller proposalId => discard (StakeVault.approveAction env caller proposalId)

/-- What the entry points outside this model may do to the entries in it. -/
def elsewhere (stakeToken : Option Address) (providerLockup : Table Address ProviderLockup)
    (tokens : Tokens) : VaultProgram Unit :=
  modify fun world => ((world.setSettings { world.vault.settings with
    stakeToken }).setActivity { world.vault.activity with
      providerLockup }).setTokens tokens

def exec (env : Env) : Call → VaultProgram Unit
  | .initializeVault admin stakeToken signalRegistry =>
    StakeVault.initializeVault admin stakeToken signalRegistry
  | .setting setting => setting.exec env
  | .upkeep upkeep => upkeep.exec env
  | .approval approval => approval.exec env
  | .executeAction caller proposalId => StakeVault.executeAction env caller proposalId
  | .depositStake staker amount => StakeVault.depositStake env staker amount
  | .delegateStake delegator provider amount =>
    StakeVault.delegateStake env delegator provider amount
  | .withdrawStake staker => discard (StakeVault.withdrawStake env staker)
  | .partialUnstake staker amount => discard (StakeVault.partialUnstake env staker amount)
  | .queueUnstake staker => discard (StakeVault.queueUnstake env staker)
  | .processUnstakeQueue limit => discard (StakeVault.processUnstakeQueue env limit)
  | .slashStake caller provider severity reason =>
    discard (StakeVault.slashStake env caller provider severity reason)
  | .batchSlashStake caller providers severities reason =>
    discard (StakeVault.batchSlashStake env caller providers severities reason)
  | .appealSlash appellant slashId evidenceUri =>
    StakeVault.appealSlash env appellant slashId evidenceUri
  | .resolveAppeal slashId uphold => StakeVault.resolveAppeal env slashId uphold
  | .batchResolveAppeal slashIds upholds =>
    discard (StakeVault.batchResolveAppeal env slashIds upholds)
  | .approveEmergencyUnstake signer staker => StakeVault.approveEmergencyUnstake env signer staker
  | .addIndexRewardAsset asset => StakeVault.addIndexRewardAsset env asset
  | .fundIndexRewards funder asset amount =>
    discard (StakeVault.fundIndexRewards env funder asset amount)
  | .syncIndexStake staker => StakeVault.syncIndexStake staker
  | .claimIndexRewards staker asset => discard (StakeVault.claimIndexRewards env staker asset)
  | .claimQueuedWithdrawal claimant nonce =>
    discard (StakeVault.claimQueuedWithdrawal env claimant nonce)
  | .cancelQueuedWithdrawal claimant nonce =>
    discard (StakeVault.cancelQueuedWithdrawal env claimant nonce)
  | .elsewhere stakeToken providerLockup tokens =>
    StakeVault.elsewhere stakeToken providerLockup tokens

/-- A call in its environment. -/
abbrev Input := Env × Call

/-- One step of the vault. -/
def step (input : Input) (world : World) : World := invoke (exec input.1 input.2) world

/-- The world that a run reaches from a deployed vault. -/
def reached (self : Address) (tokens : Tokens) (inputs : List Input) : World :=
  Runs.final step (World.fresh self tokens) inputs

/-- Every holder of every token has a thousand units; the runs of the examples start here. -/
def wealthy : Tokens := ⟨fun _ _ => 1000, 0⟩

theorem step_rule {property : World → Prop} {input : Input} {pre : World} (held : property pre)
    (established : wp (exec input.1 input.2) (fun _ after => property after) (fun _ _ => True)
      pre) : property (step input pre) :=
  invoke_rule (wp_mono established (fun _ _ known => known) fun _ _ _ => held)

/-- Two worlds that agree on everything but settings, activity and proposals, and there
on the deployment and the execution lock. -/
structure Aside (pre after : World) : Prop where
  self : after.self = pre.self
  custody : after.vault.custody = pre.vault.custody
  slashing : after.vault.slashing = pre.vault.slashing
  queue : after.vault.queue = pre.vault.queue
  claims : after.vault.claims = pre.vault.claims
  index : after.vault.index = pre.vault.index
  tokens : after.tokens = pre.tokens
  stakeToken : after.vault.settings.stakeToken = pre.vault.settings.stakeToken
  initialized : after.vault.settings.initialized = pre.vault.settings.initialized
  executionLock : after.vault.activity.executionLock = pre.vault.activity.executionLock

section Specifications

variable (env : Env) (pre : World)

theorem Aside.refl : Aside pre pre := ⟨rfl, rfl, rfl, rfl, rfl, rfl, rfl, rfl, rfl, rfl⟩

theorem Aside.ofSettings {settings : Settings} (tuned : pre.vault.settings.Tuned settings) :
    Aside pre (pre.setSettings settings) :=
  ⟨rfl, rfl, rfl, rfl, rfl, rfl, rfl, tuned.stakeToken, tuned.initialized, rfl⟩

theorem Aside.ofActivity {activity : Activity}
    (lock : activity.executionLock = pre.vault.activity.executionLock) :
    Aside pre (pre.setActivity activity) :=
  ⟨rfl, rfl, rfl, rfl, rfl, rfl, rfl, rfl, rfl, lock⟩

theorem Aside.ofMultisig (multisig : Multisig.Storage) : Aside pre (pre.setMultisig multisig) :=
  ⟨rfl, rfl, rfl, rfl, rfl, rfl, rfl, rfl, rfl, rfl⟩

theorem setting_tunes (setting : Setting) : Tunes (setting.exec env) := by
  cases setting with
  | pause | unpause | setMinimumStake =>
    exact soloSetting_tunes env _ (Or.inr rfl) fun _ => ⟨rfl, rfl, rfl, rfl⟩
  | setMinimumStakeDuration | setWithdrawalCooldown | configureSlashTiers | setAppealWindow
  | setMaxUnstakeQueueSize | setDefaultProviderLockup =>
    exact soloSetting_tunes env _ (Or.inl rfl) fun _ => ⟨rfl, rfl, rfl, rfl⟩
  | setSlashCooldown => exact setSlashCooldown_tunes env _
  | setGovernance => exact setGovernance_tunes env _ _
  | applyGovernancePause => exact applyGovernancePause_tunes env _
  | governanceConfigureSlashTiers => exact governanceConfigureSlashTiers_tunes env _ _
  | configureEmergencyMultisig =>
    intro pre
    simp only [Setting.exec, configureEmergencyMultisig, requireAdminCaller, wlp_rules,
      wp_auth, wp_getAdmin]
    exact fun _ _ _ _ _ _ => ⟨_, by exact ⟨rfl, rfl, rfl, rfl⟩, rfl⟩
  | setEmergencyCooldown =>
    intro pre
    simp only [Setting.exec, setEmergencyCooldown, requireAdminCaller, wlp_rules, wp_auth,
      wp_getAdmin]
    exact fun _ _ _ _ => ⟨_, by exact ⟨rfl, rfl, rfl, rfl⟩, rfl⟩

theorem setting_spec (setting : Setting) :
    wlp (setting.exec env) (fun _ after => Aside pre after) pre := by
  refine wp_then (setting_tunes env setting pre) ?_
  rintro _ _ ⟨settings, tuned, rfl⟩
  exact Aside.ofSettings pre tuned

theorem upkeep_spec (upkeep : Upkeep) :
    wlp (upkeep.exec env) (fun _ after => Aside pre after) pre := by
  cases upkeep with
  | notifyStakeBelowMinimum =>
    simp only [Upkeep.exec, notifyStakeBelowMinimum, wp_rules, wp_ite]
    exact ⟨fun _ => Aside.refl pre, fun _ => ⟨fun _ => Aside.refl pre,
      fun _ => Aside.ofActivity pre rfl⟩⟩
  | checkSignalSubmissionAllowed =>
    simp only [Upkeep.exec, checkSignalSubmissionAllowed, wlp_rules, wp_ite]
    exact ⟨fun _ => Aside.ofActivity pre rfl, fun _ _ => Aside.refl pre⟩
  | releaseProviderLockup =>
    simp only [Upkeep.exec, wp_requireLockupReleased, implies_true, and_true]
    exact fun _ => Aside.ofActivity pre rfl
  | requestWithdrawal =>
    simp only [Upkeep.exec, requestWithdrawal, wlp_rules, wp_auth, wp_notPaused,
      wp_ite]
    exact fun _ _ => ⟨fun _ => Aside.refl pre, fun _ => Aside.ofActivity pre rfl⟩
  | requestEmergencyUnstake =>
    simp only [Upkeep.exec, requestEmergencyUnstake, getEmergencyConfig, saveRequest, wlp_rules,
      wp_auth]
    exact fun _ _ _ _ _ => Aside.ofActivity pre rfl
  | expireEmergencyRequest =>
    simp only [Upkeep.exec, expireEmergencyRequest, getEmergencyConfig, getEmergencyRequest,
      removeRequest, wlp_rules]
    exact fun _ _ _ _ _ => Aside.ofActivity pre rfl

theorem approval_stays (approval : Approval) :
    wp (approval.exec env) (fun _ after => ∃ multisig, after = pre.setMultisig multisig)
      (fun _ _ => True) pre := by
  cases approval with
  | setMultisigConfig => exact setMultisigConfig_spec env pre _ _
  | proposeAction =>
    rw [Approval.exec, wp_discard]
    exact proposeAction_spec env pre _ _
  | approveAction =>
    rw [Approval.exec, wp_discard]
    exact approveAction_spec env pre _ _

theorem approval_spec (approval : Approval) :
    wlp (approval.exec env) (fun _ after => Aside pre after) pre := by
  refine wp_then (approval_stays env pre approval) ?_
  rintro _ _ ⟨multisig, rfl⟩
  exact Aside.ofMultisig pre multisig

end Specifications

end StellarSwipe.StakeVault
