import StellarSwipe.Authority.Contract
import StellarSwipe.Library.Frames

/-!
# Who comes to hold a capability

A direct grant checks its caller. The timelocked one relies on the queue, which looks at neither
the caller nor the grant.
-/

namespace StellarSwipe.Authority

open FixedWidth Program Governance Runs OneShot AuthorityStore AuthorityTransition

def AuthorityStore.MayGrant (store : AuthorityStore) (address : Address) : Prop :=
  store.hasCapability address .superAdmin = true ∨
    store.governance.access.admin = some address
deriving Decidable

/-- A grant asked for by a caller. -/
structure Grant where
  caller : Address
  target : Address
  capability : Capability
deriving DecidableEq

namespace AuthorityCall

def granting : AuthorityCall → Option Grant
  | .grantCapability caller target capability
  | .grantCapabilityTimelocked caller _ target capability => some ⟨caller, target, capability⟩
  | _ => none

def queueing : AuthorityCall → Option Grant
  | .queueGrantCapability caller target capability => some ⟨caller, target, capability⟩
  | _ => none

def grantingBy : AuthorityCall → Option Nat
  | .grantCapabilityTimelocked _ actionId _ _ => some actionId
  | _ => none

end AuthorityCall

namespace AuthorityTransition

def Queues (grant : Grant) (position : Nat) (taken : AuthorityTransition) : Prop :=
  taken.Returned ∧ taken.input.call.queueing = some grant ∧
    grant.caller ∈ taken.input.arrival.auths ∧ taken.pre.store.MayGrant grant.caller ∧
    taken.pre.store.governance.adminActions.length = position
deriving Decidable

variable (past : List AuthorityTransition) (taken : AuthorityTransition)

/-- The caller may make the grant, or could when queueing it. -/
def Entitled (grant : Grant) : Prop :=
  taken.pre.store.MayGrant grant.caller ∨
    ∃ actionId ∈ taken.input.call.grantingBy, ∃ prior ∈ past, prior.Queues grant
      (taken.pre.store.governance.adminActions.findIdx fun entry =>
        decide (entry.id = actionId))
deriving Decidable

def Authorizes (address : Address) (capability : Capability) (taken : AuthorityTransition) : Prop :=
  taken.Returned ∧ ∃ grant ∈ taken.input.call.granting, grant.target = address ∧
    (grant.capability = .superAdmin ∨ grant.capability = capability) ∧
    grant.caller ∈ taken.input.arrival.auths ∧ taken.Entitled past grant
deriving Decidable

def TimelockEntitled : Prop :=
  taken.Returned → taken.input.call.grantingBy.isSome = true →
    ∀ grant ∈ taken.input.call.granting, taken.Entitled past grant
deriving Decidable

end AuthorityTransition

/-- What a returning call does to the grants. -/
inductive GrantEffect (env : Env) (pre : AuthorityStore) :
    AuthorityCall → List (Capability × Address) → Prop where
  | none {call : AuthorityCall} {grants : List (Capability × Address)}
      (kept : grants ⊆ pre.grants) : GrantEffect env pre call grants
  | direct {caller : Address} (target : Address) (capability : Capability)
      (authorized : caller ∈ env.auths) (governs : pre.MayGrant caller) :
      GrantEffect env pre (.grantCapability caller target capability)
        (pre.grants ++ [(capability, target)])
  | timelocked {caller : Address} (actionId : Nat) (target : Address) (capability : Capability)
      (authorized : caller ∈ env.auths) :
      GrantEffect env pre (.grantCapabilityTimelocked caller actionId target capability)
        (pre.grants ++ [(capability, target)])

section Rules

variable {pre : AuthorityStore} {env : Env} {post : Unit → AuthorityStore → Prop}

theorem wp_onGovernance_requireInitialized :
    wp (onGovernance requireInitialized) post (fun _ _ => True) pre ↔
      (pre.governance.access.initialized = true → post () pre) := by
  simp [onGovernance, requireInitialized, Administered.initialized, putGovernance]

theorem wp_auth (address : Address) :
    wp (requireAuth env address) post (fun _ _ => True) pre ↔
      (address ∈ env.auths → post () pre) := by
  simp [requireAuth]

theorem wp_refuse (condition : Prop) [Decidable condition] (error : GovernanceError) :
    wp (refuse condition error) post (fun _ _ => True) pre ↔ (condition → post () pre) := by
  simp [refuse]

end Rules

/-- The entries that only calls about authority write. -/
def AuthorityStore.entrusted (store : AuthorityStore) :
    List (Capability × Address) × Option Address :=
  (store.grants, store.pendingAdmin)

section Frames

open AuthorityStore

theorem onGovernance_leaves {α : Type} (program : GovProgram α) :
    Leaves entrusted (onGovernance program) :=
  leaves_zoom program fun _ _ => rfl

theorem addBalance_leaves (holder : Address) (amount : Int) :
    Leaves entrusted (addBalance holder amount) :=
  leaves_bind leaves_get fun _ =>
    leaves_bind (onGovernance_leaves _) fun _ => leaves_modify fun _ => rfl

variable (beneficiary : Address)

theorem createVestingSchedule_leaves (category : VestingCategory) (totalAmount : Int)
    (startTime cliffSeconds durationSeconds : Nat) :
    Leaves entrusted (createVestingSchedule beneficiary category totalAmount startTime cliffSeconds
      durationSeconds) :=
  leaves_bind (leaves_ensure _ _) fun _ => leaves_bind (leaves_ensure _ _) fun _ =>
    leaves_bind leaves_get fun _ => leaves_bind (leaves_ensure _ _) fun _ =>
      leaves_modify fun _ => rfl

theorem initializeContract_leaves (env : Env) (admin : Address) (name symbol : String)
    (totalSupply : Int) (recipients : DistributionRecipients) :
    Leaves entrusted (initializeContract env admin name symbol totalSupply recipients) := by
  have distributes (rewardBps : Nat) (threshold : Int) : Leaves entrusted
      (initializeDistribution env recipients totalSupply rewardBps threshold) :=
    leaves_bind (leaves_ensure _ _) fun _ => leaves_bind (leaves_ensure _ _) fun _ =>
      leaves_bind (onGovernance_leaves _) fun _ =>
        leaves_bind (addBalance_leaves _ _) fun _ => leaves_bind (addBalance_leaves _ _) fun _ =>
          leaves_bind (addBalance_leaves _ _) fun _ =>
            leaves_bind (createVestingSchedule_leaves _ _ _ _ _ _) fun _ =>
              leaves_bind (createVestingSchedule_leaves _ _ _ _ _ _) fun _ =>
                leaves_modify fun _ => rfl
  exact leaves_bind (leaves_demand _) fun _ => leaves_bind leaves_get fun _ =>
    leaves_bind (leaves_ensure _ _) fun _ => leaves_bind (leaves_ensure _ _) fun _ =>
      leaves_bind (leaves_ensure _ _) fun _ => leaves_bind (leaves_modify fun _ => rfl) fun _ =>
        leaves_bind (distributes _ _) fun _ => leaves_modify fun _ => rfl

theorem releaseVestedTokens_leaves (env : Env) (beneficiary : Address) :
    Leaves entrusted (releaseVestedTokens env beneficiary) :=
  leaves_bind leaves_get fun _ => leaves_bind (leaves_orFail _ _) fun _ =>
    leaves_bind (leaves_ensure _ _) fun _ => leaves_bind (onGovernance_leaves _) fun _ =>
      leaves_bind (leaves_ensure _ _) fun _ => leaves_bind (onGovernance_leaves _) fun _ =>
        leaves_bind (leaves_modify fun _ => rfl) fun _ => addBalance_leaves _ _

theorem getDistribution_leaves : Leaves entrusted getDistribution :=
  leaves_bind leaves_get fun _ => leaves_orFail _ _

theorem accrueLiquidityRewards_leaves (tradingVolume : Int) :
    Leaves entrusted (accrueLiquidityRewards beneficiary tradingVolume) :=
  leaves_bind (leaves_ensure _ _) fun _ => leaves_bind getDistribution_leaves fun _ =>
    leaves_bind (onGovernance_leaves _) fun _ => leaves_bind (leaves_ensure _ _) fun _ =>
      leaves_bind (onGovernance_leaves _) fun _ => leaves_bind (onGovernance_leaves _) fun _ =>
        leaves_bind (leaves_ensure _ _) fun _ => leaves_bind (onGovernance_leaves _) fun _ =>
          leaves_bind leaves_get fun _ => leaves_bind (onGovernance_leaves _) fun _ =>
            leaves_bind (leaves_modify fun _ => rfl) fun _ => leaves_modify fun _ => rfl

theorem claimLiquidityRewards_leaves : Leaves entrusted (claimLiquidityRewards beneficiary) :=
  leaves_bind leaves_get fun _ => leaves_bind getDistribution_leaves fun _ =>
    leaves_bind (leaves_ensure _ _) fun _ => leaves_bind (leaves_ensure _ _) fun _ =>
      leaves_bind (onGovernance_leaves _) fun _ => leaves_bind (onGovernance_leaves _) fun _ =>
        leaves_bind (leaves_modify fun _ => rfl) fun _ => addBalance_leaves _ _

theorem setLiquidityMiningConfig_leaves (rewardBps : Nat) (threshold : Int) :
    Leaves entrusted (setLiquidityMiningConfig rewardBps threshold) :=
  leaves_bind (leaves_ensure _ _) fun _ => leaves_bind getDistribution_leaves fun _ =>
    leaves_modify fun _ => rfl

end Frames

theorem wp_requireCapability {pre : AuthorityStore} {env : Env} {caller : Address}
    {post : Unit → AuthorityStore → Prop}
    (holds : caller ∈ env.auths → pre.MayGrant caller → post () pre) :
    wp (requireCapability env caller .superAdmin) post (fun _ _ => True) pre := by
  rw [requireCapability, wp_bind, wp_onGovernance_requireInitialized]
  intro _
  rw [wp_bind, wp_auth]
  intro authorized
  rw [wp_bind, wp_get]
  split
  next held => exact (wp_pure _).mpr (holds authorized (.inl held))
  next _ =>
    rw [wp_bind, wp_orFail]
    refine ⟨fun admin has => (wp_refuse _ _).mpr fun same => ?_, fun _ => trivial⟩
    exact holds authorized (.inr (same ▸ has))

theorem wp_requireNoTimelockBypass {pre : AuthorityStore}
    {post : Unit → AuthorityStore → Prop} (holds : post () pre) :
    wp (onGovernance requireNoTimelockBypass) post (fun _ _ => True) pre := by
  simp [onGovernance, Governance.requireNoTimelockBypass, putGovernance, holds]

theorem wp_executeAdminAction {pre : AuthorityStore} {env : Env} {actionId : Nat}
    {caller : Address} {post : Unit → AuthorityStore → Prop}
    (holds : ∀ governance, caller ∈ env.auths → post () (pre.putGovernance governance)) :
    wp (onGovernance (discard (executeAdminAction env actionId caller))) post (fun _ _ => True)
      pre := by
  simp [onGovernance, executeAdminAction, wp_discard, Governance.requireAuth]
  intro authorized
  intros
  exact holds _ authorized

theorem AuthorityCall.exec_grants (call : AuthorityCall) (env : Env) {pre : AuthorityStore} :
    wp (call.exec env) (fun _ after => GrantEffect env pre call after.grants)
      (fun _ _ => True) pre := by
  have quiet {program : AuthorityProgram Unit}
      (leaves : Leaves AuthorityStore.grants program) :
      wp program (fun _ after => GrantEffect env pre call after.grants) (fun _ _ => True)
        pre :=
    wp_then (leaves pre) (fun _ after same => .none fun _ inside =>
      (show after.grants = _ from same) ▸ inside)
  have entrusted {program : AuthorityProgram Unit}
      (leaves : Leaves entrusted program) :
      Leaves AuthorityStore.grants program := fun pre =>
    wp_then (leaves pre) (fun _ _ same => congrArg Prod.fst same)
  cases call with
  | grantCapability caller target capability =>
    refine (wp_bind _ _).mpr (wp_requireCapability fun authorized governs => ?_)
    refine (wp_bind _ _).mpr (wp_requireNoTimelockBypass ?_)
    exact .direct target capability authorized governs
  | revokeCapability caller target capability =>
    refine (wp_bind _ _).mpr (wp_requireCapability fun _ _ => ?_)
    refine (wp_bind _ _).mpr (wp_requireNoTimelockBypass ?_)
    exact .none (List.filter_subset_self pre.grants)
  | grantCapabilityTimelocked caller actionId target capability =>
    refine (wp_bind _ _).mpr (wp_onGovernance_requireInitialized.mpr fun _ => ?_)
    refine (wp_bind _ _).mpr (wp_executeAdminAction fun _ authorized => ?_)
    exact .timelocked actionId target capability authorized
  | revokeCapabilityTimelocked caller actionId target capability =>
    refine (wp_bind _ _).mpr (wp_onGovernance_requireInitialized.mpr fun _ => ?_)
    refine (wp_bind _ _).mpr (wp_executeAdminAction fun _ _ => ?_)
    exact .none (List.filter_subset_self pre.grants)
  | initializeContract => exact quiet (entrusted (initializeContract_leaves _ _ _ _ _ _))
  | proposeKeyRotation =>
    exact quiet (leaves_bind (leaves_zoom _ fun _ _ => rfl) fun _ =>
      leaves_bind (leaves_ensure _ _) fun _ => leaves_modify fun _ => rfl)
  | acceptKeyRotation =>
    exact quiet (leaves_bind leaves_get fun _ => leaves_bind (leaves_orFail _ _) fun _ =>
      leaves_bind (leaves_ensure _ _) fun _ => leaves_bind (leaves_modify fun _ => rfl) fun _ =>
        leaves_modify fun _ => rfl)
  | cancelKeyRotation =>
    exact quiet (leaves_bind (leaves_zoom _ fun _ _ => rfl) fun _ => leaves_modify fun _ => rfl)
  | emergencyRevokeAdmin =>
    exact quiet (leaves_bind leaves_get fun _ => leaves_bind (leaves_orFail _ _) fun _ =>
      leaves_bind (leaves_ensure _ _) fun _ => leaves_bind (leaves_demand _) fun _ =>
        leaves_bind (leaves_modify fun _ => rfl) fun _ =>
          leaves_bind (leaves_modify fun _ => rfl) fun _ => leaves_modify fun _ => rfl)
  | setGuardian | enforceAdminTimelock =>
    exact quiet (leaves_bind (leaves_zoom _ fun _ _ => rfl) fun _ => leaves_modify fun _ => rfl)
  | setContractPaused caller paused =>
    refine quiet (leaves_bind (leaves_bind (leaves_zoom _ fun _ _ => rfl) fun _ =>
      leaves_bind (leaves_demand _) fun _ => leaves_bind leaves_get fun store => ?_) fun _ =>
        leaves_modify fun _ => rfl)
    exact leaves_ite _ (leaves_pure _) (leaves_bind (leaves_orFail _ _) fun _ => leaves_ensure _ _)
  | queueGrantCapability | queueRevokeCapability =>
    exact quiet (leaves_bind (leaves_zoom _ fun _ _ => rfl) fun _ => leaves_zoom _ fun _ _ => rfl)
  | cancelAdminAction =>
    exact quiet (leaves_bind (leaves_zoom _ fun _ _ => rfl) fun _ =>
      leaves_bind (leaves_demand _) fun _ => leaves_bind leaves_get fun _ =>
        leaves_bind (leaves_orFail _ _) fun _ => leaves_bind (leaves_ensure _ _) fun _ =>
          leaves_bind leaves_get fun _ => leaves_bind (leaves_orFail _ _) fun _ =>
            leaves_bind (leaves_ensure _ _) fun _ => leaves_modify fun _ => rfl)
  | createVestingSchedule =>
    exact quiet (entrusted (leaves_bind (onGovernance_leaves _) fun _ =>
      leaves_bind (createVestingSchedule_leaves _ _ _ _ _ _) fun _ => leaves_modify fun _ => rfl))
  | releaseVestedTokens =>
    exact quiet (entrusted (leaves_bind (onGovernance_leaves _) fun _ =>
      leaves_bind (leaves_demand _) fun _ => releaseVestedTokens_leaves _ _))
  | accrueLiquidityRewards =>
    exact quiet (entrusted (leaves_bind (onGovernance_leaves _) fun _ =>
      accrueLiquidityRewards_leaves _ _))
  | claimLiquidityRewards =>
    exact quiet (entrusted (leaves_bind (onGovernance_leaves _) fun _ =>
      leaves_bind (leaves_demand _) fun _ => claimLiquidityRewards_leaves _))
  | setLiquidityMiningConfig =>
    exact quiet (entrusted (leaves_bind (onGovernance_leaves _) fun _ =>
      setLiquidityMiningConfig_leaves _ _))
  | governance call => exact quiet (leaves_zoom _ fun _ _ => rfl)

variable {capability : Capability}

theorem AuthorityStore.hasCapability_iff {store : AuthorityStore} {address : Address} :
    store.hasCapability address capability = true ↔
      (.superAdmin, address) ∈ store.grants ∨ (capability, address) ∈ store.grants :=
  decide_eq_true_iff

theorem hasCapability_of_grant {pre after : AuthorityStore} {target address : Address}
    {granted capability : Capability} (appended : after.grants = pre.grants ++ [(granted, target)])
    (held : after.hasCapability address capability = true) :
    pre.hasCapability address capability = true ∨
      target = address ∧ (granted = .superAdmin ∨ granted = capability) := by
  rw [hasCapability_iff, appended] at held
  simp only [List.mem_append, List.mem_singleton, Prod.mk.injEq] at held
  rw [hasCapability_iff]
  rcases held with (prior | ⟨rfl, rfl⟩) | prior | ⟨rfl, rfl⟩
  · exact .inl (.inl prior)
  · exact .inr ⟨rfl, .inl rfl⟩
  · exact .inl (.inr prior)
  · exact .inr ⟨rfl, .inr rfl⟩

theorem AuthorityTransition.cases (ledger : Ledger AuthorityStore) (input : AuthorityInput) :
    (AuthorityTransition.Returned ⟨ledger, input, authorityStep input ledger⟩ ∧
      GrantEffect (ledger.env input.arrival) ledger.store input.call
        (authorityStep input ledger).store.grants) ∨
    (authorityStep input ledger).store = ledger.store := by
  by_cases returns : Accepts (input.call.exec (ledger.env input.arrival)) ledger.store
  · obtain ⟨value, gave⟩ := gave_of_accepts returns
    exact .inl ⟨returns, wp_ok (input.call.exec_grants _) gave⟩
  · exact .inr (invoke_of_rejected returns)

/-- In a step whose timelocked grant, if it is one, is by a caller entitled to it, nobody comes
to hold a capability that was not authorized. -/
theorem AuthorityTransition.authorizes_of_gain {past : List AuthorityTransition}
    {ledger : Ledger AuthorityStore} {input : AuthorityInput}
    (entitled : TimelockEntitled past ⟨ledger, input, authorityStep input ledger⟩)
    {address : Address} (absent : ledger.store.hasCapability address capability ≠ true)
    (gained : (authorityStep input ledger).store.hasCapability address capability = true) :
    Authorizes past address capability ⟨ledger, input, authorityStep input ledger⟩ := by
  rcases cases ledger input with ⟨gave, effect⟩ | same
  · obtain ⟨grants, written⟩ : ∃ grants, (authorityStep input ledger).store.grants = grants :=
      ⟨_, rfl⟩
    rw [written] at effect
    generalize called : input.call = call at effect
    cases effect with
    | none kept =>
      rw [hasCapability_iff, written] at gained
      exact absurd (AuthorityStore.hasCapability_iff.mpr
        (gained.imp (fun inside => kept inside) fun inside => kept inside)) absent
    | @direct caller target granted authorized governs =>
      obtain ⟨same, covers⟩ := (hasCapability_of_grant written gained).resolve_left absent
      exact ⟨gave, ⟨caller, target, granted⟩, by rw [called]; rfl, same, covers, authorized,
        .inl governs⟩
    | @timelocked caller actionId target granted authorized =>
      obtain ⟨same, covers⟩ := (hasCapability_of_grant written gained).resolve_left absent
      have asks : input.call.granting = some ⟨caller, target, granted⟩ := by rw [called]; rfl
      exact ⟨gave, ⟨caller, target, granted⟩, asks, same, covers, authorized,
        entitled gave (by rw [called]; rfl) _ asks⟩
  · rw [same] at gained
    exact absurd gained absent

/-- In every run whose timelocked grants are by callers entitled to them, an address comes to
hold a capability only by a grant that the admin or a holder of all capabilities authorized,
directly or by queueing that very grant. -/
theorem capabilities_authorized (timestamp sequence : Nat) (inputs : List AuthorityInput) :
    let taken := trace authorityStep (authorityStart timestamp sequence) inputs
    (∀ prior step later, taken = prior ++ step :: later →
      AuthorityTransition.TimelockEntitled prior step) →
    ∀ prior step later, taken = prior ++ step :: later → ∀ address capability,
      step.pre.store.hasCapability address capability ≠ true →
      step.after.store.hasCapability address capability = true →
      AuthorityTransition.Authorizes prior address capability step := by
  intro taken entitled prior step later split address capability absent gained
  have guard := entitled prior step later split
  obtain ⟨_, _, steps⟩ := transitions_split authorityStep _ split
  obtain ⟨ledger, input, next⟩ := step
  obtain rfl : next = authorityStep input ledger := steps
  exact authorizes_of_gain guard absent gained

/-- A contract with its first admin, whose timelock is set up. -/
def openedContract : List AuthorityInput :=
  [⟨⟨1, 1, [1]⟩, .initializeContract 1 "Governance" "GOV" ⟨10000, by decide⟩ ⟨2, 3, 4, 5, 6⟩⟩,
    ⟨⟨1, 1, [1]⟩, .governance (.governance (.timelock (.setUp 1 86400 604800 7)))⟩]

def queuedGrant (caller target : Address) : List AuthorityInput :=
  openedContract ++ [⟨⟨1, 1, [caller]⟩, .queueGrantCapability caller target .superAdmin⟩]

/-- The caller makes the grant two days later. -/
def timelockedGrant (caller target : Address) : AuthorityInput :=
  ⟨⟨172800, 1, [caller]⟩, .grantCapabilityTimelocked caller 1 target .superAdmin⟩

/-- A stranger queues a grant of all capabilities to itself and makes it. -/
theorem stranger_grants_itself : ¬ ∀ inputs prior step later,
      trace authorityStep (authorityStart 0 0) inputs = prior ++ step :: later →
      ∀ address capability, step.after.store.governance.access.admin ≠ some address →
        step.pre.store.hasCapability address capability ≠ true →
        step.after.store.hasCapability address capability = true →
        AuthorityTransition.Authorizes prior address capability step := by
  intro every
  have authorizes := every (queuedGrant 9 9 ++ [timelockedGrant 9 9]) _ _ []
    (transitions_concat authorityStep _ _ _) 9 .pause (by decide) (by decide) (by decide)
  exact absurd authorizes (by decide)

/-- The admin's queued grant is authorized. -/
theorem adminGrant_authorized : AuthorityTransition.Authorizes
      (trace authorityStep (authorityStart 0 0) (queuedGrant 1 8)) 8 .pause
      ⟨final authorityStep (authorityStart 0 0) (queuedGrant 1 8), timelockedGrant 1 8,
        final authorityStep (authorityStart 0 0) (queuedGrant 1 8 ++ [timelockedGrant 1 8])⟩ :=
  capabilities_authorized 0 0 (queuedGrant 1 8 ++ [timelockedGrant 1 8])
    (forall_places (by decide)) _ _ [] (transitions_concat authorityStep _ _ _) 8 .pause (by decide)
    (by decide)

end StellarSwipe.Authority
