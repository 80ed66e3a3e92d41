import StellarSwipe.StakeVault.Staking

/-!
# Emergency early unstake

A staker asks for an early unstake and a configured number of administrators approve it.
-/

namespace StellarSwipe.StakeVault

open Program FixedWidth

variable (env : Env)

/-- The caller must be the stored administrator. -/
def requireAdminCaller (caller : Address) : VaultProgram Unit := do
  requireAuth env caller
  let admin ← getAdmin
  ensure (caller = admin) .unauthorized

def configureEmergencyMultisig (caller : Address) (admins : List Address)
    (required penaltyBps timeoutSecs : Nat) : VaultProgram Unit := do
  requireAdminCaller env caller
  ensure (required ≠ 0 ∧ required ≤ admins.length) .invalidMultiSigConfig
  ensure (penaltyBps ≤ 10000) .invalidEmergencyPenalty
  modify fun world => world.setSettings { world.vault.settings with
    emergencyMultiSigConfig := some ⟨admins, required, penaltyBps, timeoutSecs⟩ }

/-- Admin: set the cooldown between two emergency unstakes of an account. -/
def setEmergencyCooldown (caller : Address) (cooldownSecs : Nat) : VaultProgram Unit := do
  requireAdminCaller env caller
  modify fun world => world.setSettings { world.vault.settings with
    emergencyCooldownSecs := some cooldownSecs }

/-- Seconds still remaining on an account's cooldown. -/
def cooldownRemainingSecs (world : World) (staker : Address) : Nat :=
  let cooldown := world.vault.settings.emergencyCooldown
  if cooldown = 0 then 0
  else match world.vault.activity.lastEmergencyUnstakeAt.lookup staker with
    | none => 0
    | some last => laterBy last cooldown - env.timestamp

def getEmergencyConfig : VaultProgram EmergencyMultiSigConfig := do
  orFail (← get).vault.settings.emergencyMultiSigConfig .emergencyNotConfigured

variable (staker : Address)

def getEmergencyRequest : VaultProgram EmergencyRequest := do
  orFail ((← get).vault.activity.emergencyRequest.lookup staker) .emergencyRequestNotFound

def saveRequest (request : EmergencyRequest) : VaultProgram Unit :=
  modify fun world => world.setActivity { world.vault.activity with
    emergencyRequest := world.vault.activity.emergencyRequest.insert request.staker request }

def removeRequest : VaultProgram Unit :=
  modify fun world => world.setActivity { world.vault.activity with
    emergencyRequest := world.vault.activity.emergencyRequest.erase staker }

def requestEmergencyUnstake : VaultProgram Unit := do
  requireAuth env staker
  discard getEmergencyConfig
  let world ← get
  ensure (world.vault.activity.emergencyRequest.lookup staker = none)
    .emergencyRequestAlreadyExists
  ensure (cooldownRemainingSecs env world staker = 0) .emergencyCooldownActive
  saveRequest ⟨staker, env.timestamp, []⟩

/-- What an emergency unstake of a stake burns. -/
def emergencyPenalty (gross : Int) (penaltyBps : Nat) : Int :=
  min (applyMultiplierBps gross penaltyBps) gross

def burnOrAbort (token sender : Address) (amount : Int) : VaultProgram Unit := do
  if 0 < amount then orAbort (← tryBurn env token sender amount)
  else pure ()

def transferOrAbort (token sender receiver : Address) (amount : Int) : VaultProgram Unit := do
  if 0 < amount then orAbort (← tryTransfer env token sender receiver amount)
  else pure ()

def executeEarlyUnstake (token : Address) (penaltyBps : Nat) : VaultProgram Unit := do
  let info ← getActiveStake staker
  requireLockupReleased env staker
  let gross := info.balance
  let penalty := emergencyPenalty gross penaltyBps
  let net := i128.saturatingSub gross penalty
  modify fun world => world.setCustody
    (world.vault.custody.recordStake staker ⟨0, 0, env.timestamp⟩)
  burnOrAbort env token (← get).self penalty
  transferOrAbort env token (← get).self staker net

def requestExpired (config : EmergencyMultiSigConfig) (request : EmergencyRequest) : Prop :=
  0 < config.timeoutSecs ∧ laterBy request.requestedAt config.timeoutSecs < env.timestamp
deriving Decidable

/-- Admin signer: approve a pending request, executing it with the last approval. -/
def approveEmergencyUnstake (signer staker : Address) : VaultProgram Unit := do
  requireAuth env signer
  let token ← getStakeToken
  let config ← getEmergencyConfig
  ensure (signer ∈ config.admins) .unauthorized
  let request ← getEmergencyRequest staker
  if requestExpired env config request then do
    removeRequest staker
    fail .emergencyRequestExpired
  else do
    ensure (signer ∉ request.approvals) .alreadyApproved
    let approvals := request.approvals ++ [signer]
    if config.required ≤ approvals.length then do
      executeEarlyUnstake env staker token config.penaltyBps
      removeRequest staker
      modify fun world => world.setActivity { world.vault.activity with
        lastEmergencyUnstakeAt :=
          world.vault.activity.lastEmergencyUnstakeAt.insert staker env.timestamp }
    else saveRequest { request with approvals }

/-- Anyone may clean up an expired request. -/
def expireEmergencyRequest : VaultProgram Unit := do
  let config ← getEmergencyConfig
  let request ← getEmergencyRequest staker
  ensure (requestExpired env config request) .emergencyRequestNotExpired
  removeRequest staker

section Specifications

variable (env : Env) (pre : World)

theorem burnOrAbort_spec (token sender : Address) (amount : Int) :
    wlp (burnOrAbort env token sender amount)
      (fun _ after => ((0 < amount) → pre.tokens.refusal env token sender amount = none) ∧
        after = pre.setTokens
          (if 0 < amount then pre.tokens.burned token sender amount else pre.tokens)) pre := by
  simp only [burnOrAbort, wp_ite, wp_rules, wp_tryBurn, wp_orAbort_ok, wp_orAbort_error,
    implies_true, true_and]
  refine ⟨fun pos accepted => ⟨fun _ => accepted, by rw [if_pos pos]⟩, fun none => ?_⟩
  exact ⟨fun pos => absurd pos none, by rw [if_neg none]; rfl⟩

theorem transferOrAbort_spec (token sender receiver : Address) (amount : Int) :
    wlp (transferOrAbort env token sender receiver amount)
      (fun _ after => ((0 < amount) → pre.tokens.refusal env token sender amount = none) ∧
        after = pre.setTokens
          (if 0 < amount then pre.tokens.moved token sender receiver amount else pre.tokens))
      pre := by
  simp only [transferOrAbort, wp_ite, wp_rules, wp_tryTransfer, wp_orAbort_ok, wp_orAbort_error,
    implies_true, true_and]
  refine ⟨fun pos accepted => ⟨fun _ => accepted, by rw [if_pos pos]⟩, fun none => ?_⟩
  exact ⟨fun pos => absurd pos none, by rw [if_neg none]; rfl⟩

/-- The tokens after the penalty is burned and the rest is paid out. -/
def unstakedTokens (tokens : Tokens) (self token staker : Address) (penalty net : Int) : Tokens :=
  let afterBurn := if 0 < penalty then tokens.burned token self penalty else tokens
  if 0 < net then afterBurn.moved token self staker net else afterBurn

/-- What an emergency unstake that executes has done. The stake had to be there and
free of a lockup; the index is not told. -/
structure EarlyUnstaked (env : Env) (pre : World) (staker token : Address) (penaltyBps : Nat)
    (info : StakeInfoV2) (activity : Activity) (after : World) : Prop where
  has : pre.vault.custody.stakesV2.lookup staker = some info
  staked : info.balance ≠ 0
  free : ¬ pre.vault.activity.LockedUp env staker
  unchanged : after = { pre with
    vault := { pre.vault with
      custody := pre.vault.custody.recordStake staker ⟨0, 0, env.timestamp⟩
      activity }
    tokens := unstakedTokens pre.tokens pre.self token staker
      (emergencyPenalty info.balance penaltyBps)
      (i128.saturatingSub info.balance (emergencyPenalty info.balance penaltyBps)) }

theorem executeEarlyUnstake_spec (staker token : Address) (penaltyBps : Nat) :
    wlp (executeEarlyUnstake env staker token penaltyBps)
      (fun _ after => ∃ info, EarlyUnstaked env pre staker token penaltyBps info
        (pre.vault.activity.released staker) after) pre := by
  simp only [executeEarlyUnstake, getActiveStake, wlp_rules, wp_requireLockupReleased]
  intro info has staked free
  refine wp_then (burnOrAbort_spec env _ token _ _) ?_
  rintro _ _ ⟨_, rfl⟩
  refine wp_then (transferOrAbort_spec env _ token _ staker _) ?_
  rintro _ _ ⟨_, rfl⟩
  exact ⟨info, has, staked, free, rfl⟩

/-- The signer's approval completes the number that a pending request needs. -/
structure CompletesApproval (env : Env) (world : World) (signer staker : Address) : Prop where
  authorized : signer ∈ env.auths ∧ signer ≠ world.self
  pending : ∃ config request, world.vault.settings.emergencyMultiSigConfig = some config ∧
    world.vault.activity.emergencyRequest.lookup staker = some request ∧
    signer ∈ config.admins ∧ ¬ requestExpired env config request ∧
    signer ∉ request.approvals ∧ config.required ≤ request.approvals.length + 1

theorem approveEmergencyUnstake_spec (signer staker : Address) :
    wlp (approveEmergencyUnstake env signer staker)
      (fun _ after => ∃ activity, activity.executionLock = pre.vault.activity.executionLock ∧
        (after = pre.setActivity activity ∨
        CompletesApproval env pre signer staker ∧ ∃ token penaltyBps info,
          pre.vault.settings.stakeToken = some token ∧
          EarlyUnstaked env pre staker token penaltyBps info activity after)) pre := by
  simp only [approveEmergencyUnstake, getEmergencyConfig, getEmergencyRequest, removeRequest,
    saveRequest, wlp_rules, wp_auth, wp_getStakeToken, wp_ite, true_and]
  intro authorized token configured config has mem request requested unexpired fresh
  refine ⟨fun completes => ?_, fun _ => ⟨_, by rfl, Or.inl rfl⟩⟩
  refine wp_then (executeEarlyUnstake_spec env pre staker token config.penaltyBps) ?_
  rintro _ _ ⟨info, staked, nonzero, free, rfl⟩
  have completed : CompletesApproval env pre signer staker :=
    ⟨authorized, config, request, has, requested, mem, unexpired, fresh,
      by simpa using completes⟩
  exact ⟨_, by rfl, Or.inr ⟨completed, token, config.penaltyBps, info, configured, staked, nonzero,
    free, rfl⟩⟩

end Specifications

end StellarSwipe.StakeVault
