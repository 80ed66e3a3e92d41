import StellarSwipe.Authority.Distribution

/-!
# Who governs

The admin is set at initialization, handed over by proposal and acceptance, and revoked by the
guardian.
-/

namespace StellarSwipe.Authority

open FixedWidth Program Governance Runs

namespace AuthorityStore

variable (store : AuthorityStore)

/-- The storage with everything set that initialization sets, before the distribution. What
was moved to entries of its own stays: vote locks, delegation expiries, vesting schedules and pending
rewards among them. -/
def reset (admin : Address) (totalSupply : Int) : AuthorityStore :=
  { store with governance :=
    { store.governance with
      access := { store.governance.access with admin := some admin }
      tokens := ⟨∅, ∅, store.governance.tokens.voteLocks, [], some totalSupply⟩
      treasury := .empty
      proposals := { store.governance.proposals with
        proposals := ∅
        proposalIds := []
        nextProposalId := 1
        config := some .default }
      delegation := { store.governance.delegation with
        delegations := ∅
        delegators := [] }
      registry := ⟨∅, ∅, ∅⟩ } }

/-- The storage at the end of initialization. -/
def opened (recipients : DistributionRecipients) : AuthorityStore :=
  let access := store.governance.access
  let opened := store.putAccess { access with
    initialized := true
    paused := false }
  { opened with governance :=
    { opened.governance with
      tokens := recipients.all.foldl TokenLedger.track opened.governance.tokens
      deposits := { opened.governance.deposits with
        treasuryAddress := some recipients.treasury } } }

end AuthorityStore

variable (env : Env) (admin : Address)

/-- Initialize the contract, which is possible whenever it is not initialized. -/
def initializeContract (name symbol : String) (totalSupply : Int)
    (recipients : DistributionRecipients) : AuthorityProgram Unit := do
  requireAuth env admin
  ensure (¬ (← get).governance.access.initialized = true) .alreadyInitialized
  refuse (¬ totalSupply ≤ 0) .invalidSupply
  refuse (¬ (name = "" ∨ symbol = "")) .invalidMetadata
  modify fun store => store.reset admin totalSupply
  initializeDistribution env recipients totalSupply defaultLiquidityRewardBps
    defaultMinClaimThreshold
  modify fun store => store.opened recipients

/-- The check of the admin, as every administrative entry point makes it. -/
def requireAdmin (env : Env) (caller : Address) : AuthorityProgram Unit :=
  onGovernance (Governance.requireAdmin env caller)

def putAdmin (admin : Option Address) : AuthorityProgram Unit :=
  modify fun store => store.putAccess { store.governance.access with admin }

def putPendingAdmin (pending : Option Address) : AuthorityProgram Unit :=
  modify fun store => { store with pendingAdmin := pending }

def proposeKeyRotation (newAdmin : Address) : AuthorityProgram Unit := do
  requireAdmin env admin
  refuse (newAdmin ≠ admin) .invalidMetadata
  putPendingAdmin (some newAdmin)

def acceptKeyRotation (newAdmin : Address) : AuthorityProgram Unit := do
  let pending ← orFail (← get).pendingAdmin (.governance .unauthorized)
  refuse (pending = newAdmin) .unauthorized
  putAdmin (some newAdmin)
  putPendingAdmin none

def cancelKeyRotation : AuthorityProgram Unit := do
  requireAdmin env admin
  putPendingAdmin none

/-- The guardian removes the admin, and with it the mark of initialization. -/
def emergencyRevokeAdmin (guardian : Address) : AuthorityProgram Unit := do
  let has ← orFail (← get).governance.access.guardian (.governance .unauthorized)
  refuse (has = guardian) .unauthorized
  requireAuth env guardian
  putAdmin none
  putPendingAdmin none
  modify fun store => store.putAccess { store.governance.access with initialized := false }

def setGuardian (route : Route) (admin guardian : Address) : AuthorityProgram Unit := do
  onGovernance (route.enter env admin)
  modify fun store => store.putAccess
    { store.governance.access with guardian := some guardian }

def enforceAdminTimelock (env : Env) (admin : Address) : AuthorityProgram Unit := do
  requireAdmin env admin
  modify fun store => store.putAccess
    { store.governance.access with enforceAdminTimelock := true }

variable (caller : Address)

/-- The caller holds a capability, or is the admin. -/
def requireCapability (capability : Capability) : AuthorityProgram Unit := do
  onGovernance requireInitialized
  requireAuth env caller
  let store ← get
  if store.hasCapability caller capability = true then pure ()
  else
    let admin ← orFail store.governance.access.admin (.governance .notInitialized)
    refuse (admin = caller) .unauthorized

def setContractPaused (paused : Bool) : AuthorityProgram Unit := do
  requireCapability env caller .pause
  modify fun store => store.putAccess { store.governance.access with paused }

variable (target : Address)

/-- The shared grant, which drops the outcome of its own check. -/
def recordGrant (capability : Capability) : AuthorityProgram Unit :=
  modify fun store => store.putGrants (store.grants ++ [(capability, target)])

/-- The shared revocation, which drops the outcome of its own check. -/
def eraseGrant (capability : Capability) : AuthorityProgram Unit :=
  modify fun store => store.putGrants
    (store.grants.filter fun grant => decide (grant ≠ (capability, target)))

def grantCapability (capability : Capability) : AuthorityProgram Unit := do
  requireCapability env caller .superAdmin
  onGovernance requireNoTimelockBypass
  recordGrant target capability

def revokeCapability (capability : Capability) : AuthorityProgram Unit := do
  requireCapability env caller .superAdmin
  onGovernance requireNoTimelockBypass
  eraseGrant target capability

/-- Queue a grant or a revocation. Neither who the caller is nor what is to be granted is
looked at. -/
def queueCapability (actionType : String) : AuthorityProgram Unit := do
  onGovernance requireInitialized
  onGovernance (discard (queueAdminAction env caller actionType))

def grantCapabilityTimelocked (actionId : Nat) (target : Address) (capability : Capability) :
    AuthorityProgram Unit := do
  onGovernance requireInitialized
  onGovernance (discard (executeAdminAction env actionId caller))
  recordGrant target capability

def revokeCapabilityTimelocked (actionId : Nat) (target : Address) (capability : Capability) :
    AuthorityProgram Unit := do
  onGovernance requireInitialized
  onGovernance (discard (executeAdminAction env actionId caller))
  eraseGrant target capability

def cancelAdminAction (actionId : Nat) (canceller : Address) : AuthorityProgram Unit := do
  onGovernance requireInitialized
  requireAuth env canceller
  let admin ← orFail (← get).governance.access.admin (.governance .notInitialized)
  refuse (canceller = admin) .unauthorized
  let matching := fun entry : AdminTimelockEntry => decide (entry.id = actionId)
  let entry ← orFail ((← get).governance.adminActions.find? matching)
    (.governance .actionNotFound)
  refuse (¬ (entry.executed = true ∨ entry.cancelled = true)) .invalidCommitteeAction
  modify fun store => store.putGovernance { store.governance with
    adminActions := DistinctList.replaceFirst matching { entry with cancelled := true }
      store.governance.adminActions }

/-- One call of the contract, those about authority and distribution included. -/
inductive AuthorityCall where
  | initializeContract (admin : Address) (name symbol : String) (totalSupply : Amount)
      (recipients : DistributionRecipients)
  | proposeKeyRotation (admin newAdmin : Address)
  | acceptKeyRotation (newAdmin : Address)
  | cancelKeyRotation (admin : Address)
  | emergencyRevokeAdmin (guardian : Address)
  | setGuardian (route : Route) (admin guardian : Address)
  | enforceAdminTimelock (admin : Address)
  | setContractPaused (caller : Address) (paused : Bool)
  | grantCapability (caller target : Address) (capability : Capability)
  | revokeCapability (caller target : Address) (capability : Capability)
  | queueGrantCapability (caller target : Address) (capability : Capability)
  | queueRevokeCapability (caller target : Address) (capability : Capability)
  | grantCapabilityTimelocked (caller : Address) (actionId : Nat) (target : Address)
      (capability : Capability)
  | revokeCapabilityTimelocked (caller : Address) (actionId : Nat) (target : Address)
      (capability : Capability)
  | cancelAdminAction (actionId : Nat) (canceller : Address)
  | createVestingSchedule (route : Route) (admin beneficiary : Address) (totalAmount : Amount)
      (startTime cliffSeconds durationSeconds : Nat)
  | releaseVestedTokens (beneficiary : Address)
  | accrueLiquidityRewards (admin beneficiary : Address) (tradingVolume : Amount)
  | claimLiquidityRewards (beneficiary : Address)
  | setLiquidityMiningConfig (admin : Address) (rewardBps : Nat) (minClaimThreshold : Amount)
  | governance (call : DepositCall)

/-- The entry point of a call. -/
def AuthorityCall.exec (call : AuthorityCall) (env : Env) : AuthorityProgram Unit :=
  match call with
  | .initializeContract admin name symbol totalSupply recipients =>
    Authority.initializeContract env admin name symbol totalSupply recipients
  | .proposeKeyRotation admin newAdmin => Authority.proposeKeyRotation env admin newAdmin
  | .acceptKeyRotation newAdmin => Authority.acceptKeyRotation newAdmin
  | .cancelKeyRotation admin => Authority.cancelKeyRotation env admin
  | .emergencyRevokeAdmin guardian => Authority.emergencyRevokeAdmin env guardian
  | .setGuardian route admin guardian => Authority.setGuardian env route admin guardian
  | .enforceAdminTimelock admin => Authority.enforceAdminTimelock env admin
  | .setContractPaused caller paused => Authority.setContractPaused env caller paused
  | .grantCapability caller target capability =>
    Authority.grantCapability env caller target capability
  | .revokeCapability caller target capability =>
    Authority.revokeCapability env caller target capability
  | .queueGrantCapability caller _ _ => queueCapability env caller "capgrant"
  | .queueRevokeCapability caller _ _ => queueCapability env caller "caprevk"
  | .grantCapabilityTimelocked caller actionId target capability =>
    Authority.grantCapabilityTimelocked env caller actionId target capability
  | .revokeCapabilityTimelocked caller actionId target capability =>
    Authority.revokeCapabilityTimelocked env caller actionId target capability
  | .cancelAdminAction actionId canceller => Authority.cancelAdminAction env actionId canceller
  | .createVestingSchedule route admin beneficiary totalAmount startTime cliffSeconds
      durationSeconds => do
    onGovernance (route.enter env admin)
    Authority.createVestingSchedule beneficiary .custom totalAmount startTime cliffSeconds
      durationSeconds
    trackHolder beneficiary
  | .releaseVestedTokens beneficiary => do
    onGovernance requireInitialized
    requireAuth env beneficiary
    Authority.releaseVestedTokens env beneficiary
  | .accrueLiquidityRewards admin beneficiary tradingVolume => do
    requireAdmin env admin
    Authority.accrueLiquidityRewards beneficiary tradingVolume
  | .claimLiquidityRewards beneficiary => do
    onGovernance requireInitialized
    requireAuth env beneficiary
    Authority.claimLiquidityRewards beneficiary
  | .setLiquidityMiningConfig admin rewardBps minClaimThreshold => do
    requireAdmin env admin
    Authority.setLiquidityMiningConfig rewardBps minClaimThreshold
  | .governance call => onGovernance (call.exec env)

/-- A call that arrives some time after the last one. -/
structure AuthorityInput where
  arrival : Arrival
  call : AuthorityCall

def authorityStep (input : AuthorityInput) (ledger : Ledger AuthorityStore) :
    Ledger AuthorityStore :=
  ledger.call input.arrival input.call.exec

abbrev AuthorityTransition := Transition (Ledger AuthorityStore) AuthorityInput

namespace AuthorityTransition

variable (taken : AuthorityTransition)

def Returned : Prop :=
  Accepts (taken.input.call.exec (taken.pre.env taken.input.arrival)) taken.pre.store
deriving Decidable

end AuthorityTransition

def authorityStart (timestamp sequence : Nat) : Ledger AuthorityStore :=
  ⟨.blank, timestamp, sequence⟩

end StellarSwipe.Authority
