import StellarSwipe.CrossChain.Contract

/-!
# What calls of signers write

Executing a proposal runs its type and marks it.
-/

namespace StellarSwipe.CrossChain

open FixedWidth Program

/-- A change of the validators that a proposal may ask for. -/
inductive ValidatorChange where
  | add (validator : Address)
  | remove (validator : Address)

namespace ValidatorChange

def validator : ValidatorChange → Address
  | .add validator => validator
  | .remove validator => validator

def apply : ValidatorChange → List Address → List Address
  | .add validator, validators => validators ++ [validator]
  | .remove validator, validators => validators.filter fun other => other ≠ validator

end ValidatorChange

def ProposalType.change : ProposalType → Option ValidatorChange
  | .addValidator validator => some (.add validator)
  | .removeValidator validator => some (.remove validator)
  | _ => none

def MultisigState.staged (state : MultisigState) (now bridgeId : Nat) (approved : List Address)
    (minValidatorSignatures : Nat) : MultisigState :=
  if state.activationDelay bridgeId = 0 then
    { state with
      activeSets := state.activeSets.insert bridgeId approved
      versions := state.versions.insert bridgeId
        (satCount u32Max (state.activeVersion bridgeId) 1)
      pendingSets := state.pendingSets.erase bridgeId }
  else
    { state with
      pendingSets := state.pendingSets.insert bridgeId
        ⟨approved, minValidatorSignatures, satCount u32Max (state.activeVersion bridgeId) 1,
          satCount u64Max now (state.activationDelay bridgeId)⟩ }

def MultisigState.recorded (state : MultisigState) (now bridgeId : Nat) (bridge : Bridge)
    (approved : List Address) : MultisigState :=
  (state.putBridge bridgeId { bridge with validators := approved }).staged now bridgeId approved
    bridge.minValidatorSignatures

/-- What running a type of proposals writes. -/
inductive ProposalTypeRan (now : Nat) (pre : MultisigState) (bridgeId : Nat)
    (proposalType : ProposalType) : MultisigState → Prop where
  | changed {change : ValidatorChange} {bridge : Bridge} (asks : proposalType.change = some change)
      (has : pre.bridges.lookup bridgeId = some bridge) :
      ProposalTypeRan now pre bridgeId proposalType
        (pre.recorded now bridgeId bridge (change.apply bridge.validators))
  | configured {bridge changed : Bridge} (unchanging : proposalType.change = none)
      (has : pre.bridges.lookup bridgeId = some bridge)
      (validators : changed.validators = bridge.validators) :
      ProposalTypeRan now pre bridgeId proposalType (pre.putBridge bridgeId changed)
  | threshold {governance : BridgeGovernance} {count : Nat} (unchanging : proposalType.change = none)
      (governed : pre.governances.lookup bridgeId = some governance) :
      ProposalTypeRan now pre bridgeId proposalType
        (pre.putGovernance bridgeId { governance with requiredSignatures := count })
  | announced (unchanging : proposalType.change = none) :
      ProposalTypeRan now pre bridgeId proposalType pre

/-- What executing a proposal needs and writes. -/
inductive Executed (now : Nat) (pre : MultisigState) (bridgeId proposalId : Nat) :
    MultisigState → Prop where
  | intro {governance : BridgeGovernance} {proposal : GovernanceProposal} {middle : MultisigState}
      (governed : pre.governances.lookup bridgeId = some governance)
      (has : pre.proposals.lookup (bridgeId, proposalId) = some proposal)
      (pending : proposal.status = .pending)
      (enough : governance.requiredSignatures ≤ proposal.signatures.length)
      (timely : now ≤ proposal.expiry)
      (ran : ProposalTypeRan now pre bridgeId proposal.proposalType middle) :
      Executed now pre bridgeId proposalId (middle.putProposal bridgeId proposalId
        { proposal with status := .executed, executedAt := some now })

/-- What making a proposal writes. -/
inductive ProposalMade (now : Nat) (pre : MultisigState) (bridgeId : Nat) (proposer : Address) :
    MultisigState → Prop where
  | intro {governance : BridgeGovernance} (proposalType : ProposalType) (description : String)
      (expiry : Nat) (governed : pre.governances.lookup bridgeId = some governance)
      (mem : proposer ∈ governance.signers) :
      ProposalMade now pre bridgeId proposer
        ((pre.putGovernance bridgeId
            { governance with nextProposalId := governance.nextProposalId + 1 }).putProposal bridgeId
          governance.nextProposalId
          ⟨proposer, proposalType, description, [proposer], .pending, now, none, expiry⟩)

def GovernanceProposal.signedBy (proposal : GovernanceProposal) (signer : Address) :
    GovernanceProposal :=
  { proposal with signatures := proposal.signatures ++ [signer] }

/-- What a returning call of signers writes. -/
inductive MultisigEffect (env : Env) (pre : MultisigState) :
    MultisigCall → MultisigState → Prop where
  | create {bridgeId : Nat} {proposer : Address} (proposalType : ProposalType)
      (description : String) {after : MultisigState}
      (made : ProposalMade env.timestamp pre bridgeId proposer after) :
      MultisigEffect env pre (.create bridgeId proposer proposalType description) after
  | rotate {bridgeId : Nat} {proposer : Address} (newSigners : List Address) (count : Nat)
      {after : MultisigState} (made : ProposalMade env.timestamp pre bridgeId proposer after) :
      MultisigEffect env pre (.rotate bridgeId proposer newSigners count) after
  | sign {bridgeId proposalId : Nat} {signer : Address} {governance : BridgeGovernance}
      {proposal : GovernanceProposal} {after : MultisigState}
      (governed : pre.governances.lookup bridgeId = some governance)
      (has : pre.proposals.lookup (bridgeId, proposalId) = some proposal)
      (mem : signer ∈ governance.signers) (fresh : signer ∉ proposal.signatures)
      (pending : proposal.status = .pending)
      (executed : after = pre.putProposal bridgeId proposalId (proposal.signedBy signer) ∨
        Executed env.timestamp (pre.putProposal bridgeId proposalId (proposal.signedBy signer))
          bridgeId proposalId after) :
      MultisigEffect env pre (.sign bridgeId proposalId signer) after
  | execute {bridgeId proposalId : Nat} {after : MultisigState}
      (executed : Executed env.timestamp pre bridgeId proposalId after) :
      MultisigEffect env pre (.execute bridgeId proposalId) after
  | emergencyExecute {bridgeId proposalId : Nat} {after : MultisigState}
      (executed : Executed env.timestamp pre bridgeId proposalId after) :
      MultisigEffect env pre (.emergencyExecute bridgeId proposalId) after
  | cancel {bridgeId proposalId : Nat} {caller : Address} {proposal : GovernanceProposal}
      (has : pre.proposals.lookup (bridgeId, proposalId) = some proposal)
      (pending : proposal.status = .pending) :
      MultisigEffect env pre (.cancel bridgeId proposalId caller)
        (pre.putProposal bridgeId proposalId { proposal with status := .cancelled })
  | addSigner {bridgeId : Nat} {newSigner : Address} {governance : BridgeGovernance}
      (governed : pre.governances.lookup bridgeId = some governance) :
      MultisigEffect env pre (.addSigner bridgeId newSigner)
        (pre.putGovernance bridgeId
          { governance with signers := governance.signers ++ [newSigner] })
  | removeSigner {bridgeId : Nat} {signer : Address} {governance : BridgeGovernance}
      (governed : pre.governances.lookup bridgeId = some governance) :
      MultisigEffect env pre (.removeSigner bridgeId signer)
        (pre.putGovernance bridgeId
          { governance with signers := governance.signers.filter fun other => other ≠ signer })
  | activate {bridgeId : Nat} {pending : PendingValidatorSet}
      (waiting : pre.pendingSets.lookup bridgeId = some pending)
      (due : pending.activateAt ≤ env.timestamp)
      (newer : pre.activeVersion bridgeId < pending.version) :
      MultisigEffect env pre (.activate bridgeId)
        { pre with
          activeSets := pre.activeSets.insert bridgeId pending.validators
          versions := pre.versions.insert bridgeId pending.version
          pendingSets := pre.pendingSets.erase bridgeId }
  | cancelPending {bridgeId : Nat} (caller : Address) :
      MultisigEffect env pre (.cancelPending bridgeId caller)
        { pre with pendingSets := pre.pendingSets.erase bridgeId }
  | setDelay {bridgeId : Nat} (caller : Address) (delaySeconds : Nat) :
      MultisigEffect env pre (.setDelay bridgeId caller delaySeconds)
        { pre with delays := pre.delays.insert bridgeId delaySeconds }

section Rules

variable {pre : CrossChainStore}

theorem wp_getBridgeGovernance {post : BridgeGovernance → CrossChainStore → Prop}
    (bridgeId : Nat) : wp (getBridgeGovernance bridgeId) post (fun _ _ => True) pre ↔
      ∀ governance, pre.multisig.governances.lookup bridgeId = some governance →
        post governance pre := by
  simp only [getBridgeGovernance, wp_rules, wp_found]

theorem wp_getProposal {post : GovernanceProposal → CrossChainStore → Prop}
    (bridgeId proposalId : Nat) : wp (getProposal bridgeId proposalId) post (fun _ _ => True) pre ↔
      ∀ proposal, pre.multisig.proposals.lookup (bridgeId, proposalId) = some proposal →
        post proposal pre := by
  simp only [getProposal, wp_rules, wp_found]

theorem wp_getBridge {post : Bridge → CrossChainStore → Prop} (bridgeId : Nat) :
    wp (getBridge bridgeId) post (fun _ _ => True) pre ↔
      ∀ bridge, pre.multisig.bridges.lookup bridgeId = some bridge → post bridge pre := by
  simp only [getBridge, wp_rules, wp_found]

theorem wp_getBridgeValidators {post : List Address → CrossChainStore → Prop} (bridgeId : Nat) :
    wp (getBridgeValidators bridgeId) post (fun _ _ => True) pre ↔
      ∀ validators, pre.multisig.bridgeValidators bridgeId = some validators →
        post validators pre := by
  simp only [getBridgeValidators, wp_rules, wp_found]

variable {post : Unit → CrossChainStore → Prop}
  {fault : Fault CrossChainError → CrossChainStore → Prop}

variable (bridgeId : Nat)

theorem wp_storeGovernance (governance : BridgeGovernance) :
    wp (storeGovernance bridgeId governance) post fault pre ↔
      post () { pre with multisig := pre.multisig.putGovernance bridgeId governance } :=
  Iff.rfl

theorem wp_storeProposal (proposalId : Nat) (proposal : GovernanceProposal) :
    wp (storeProposal bridgeId proposalId proposal) post fault pre ↔
      post () { pre with multisig := pre.multisig.putProposal bridgeId proposalId proposal } :=
  Iff.rfl

theorem wp_storeBridge (bridge : Bridge) : wp (storeBridge bridgeId bridge) post fault pre ↔
      post () { pre with multisig := pre.multisig.putBridge bridgeId bridge } :=
  Iff.rfl

theorem wp_stageValidatorChange (env : Env) (bridgeId : Nat) (approved : List Address)
    (minValidatorSignatures : Nat) :
    wp (stageValidatorChange env bridgeId approved minValidatorSignatures) post fault pre ↔
      post () { pre with multisig :=
        pre.multisig.staged env.timestamp bridgeId approved minValidatorSignatures } := by
  simp only [stageValidatorChange, wp_rules, MultisigState.staged]
  split <;> exact Iff.rfl

end Rules

section Effects

variable {pre : CrossChainStore}

theorem executeProposalType_spec (env : Env) (bridgeId : Nat) (proposalType : ProposalType) :
    wlp (executeProposalType env bridgeId proposalType) (fun _ after => ∃ multisig,
        ProposalTypeRan env.timestamp pre.multisig bridgeId proposalType multisig ∧
        after = { pre with multisig }) pre := by
  cases proposalType with
  | addValidator validator =>
    simp only [executeProposalType, executeAddValidator, wp_bind, wp_getBridge, wp_check,
      wp_storeBridge, wp_stageValidatorChange]
    intro bridge has _
    exact ⟨_, .changed (show _ = some (.add validator) from rfl) has, rfl⟩
  | removeValidator validator =>
    simp only [executeProposalType, executeRemoveValidator, wp_bind, wp_getBridge, wp_check,
      wp_storeBridge, wp_stageValidatorChange]
    intro bridge has _ _
    exact ⟨_, .changed (show _ = some (.remove validator) from rfl) has, rfl⟩
  | updateSecurityLimits | pauseBridge | unpauseBridge =>
    simp only [executeProposalType, executeUpdateSecurityLimits, executePauseBridge,
      executeUnpauseBridge, executeSetStatus, wp_bind, wp_getBridge, wp_storeBridge]
    intro bridge has
    refine ⟨_, .configured rfl has ?_, rfl⟩
    rfl
  | updateRequiredSignatures count =>
    simp only [executeProposalType, executeUpdateRequiredSignatures, wp_bind,
      wp_getBridgeGovernance, wp_check, wp_storeGovernance]
    intro governance governed _
    exact ⟨_, .threshold rfl governed, rfl⟩
  | emergencyWithdraw =>
    simp only [executeProposalType, executeEmergencyWithdraw, wp_check]
    intro _
    exact ⟨_, .announced rfl, rfl⟩

theorem executeBridgeProposal_spec (env : Env) (bridgeId proposalId : Nat) :
    wlp (executeBridgeProposal env bridgeId proposalId) (fun _ after => ∃ multisig,
        Executed env.timestamp pre.multisig bridgeId proposalId multisig ∧
        after = { pre with multisig }) pre := by
  simp only [executeBridgeProposal, wp_rules, wp_getBridgeGovernance, wp_getProposal, wp_check,
    wp_ite, wp_storeProposal, implies_true, true_and]
  intro governance governed proposal has pending enough timely
  refine wp_then (executeProposalType_spec env bridgeId proposal.proposalType) ?_
  rintro _ after ⟨middle, ran, rfl⟩
  exact ⟨_, .intro governed has pending (not_lt.mp enough) (not_lt.mp timely) ran, rfl⟩

/-- Running a type of proposals returns an error before it writes. -/
theorem executeProposalType_stops (env : Env) (bridgeId : Nat) (proposalType : ProposalType) :
    wp (executeProposalType env bridgeId proposalType) (fun _ _ => True)
      (fun fault after => fault.holds (fun _ => after = pre) True) pre := by
  cases proposalType <;>
    simp [executeProposalType, executeAddValidator, executeRemoveValidator,
      executeUpdateSecurityLimits, executePauseBridge, executeUnpauseBridge, executeSetStatus,
      executeUpdateRequiredSignatures, executeEmergencyWithdraw, getBridge, getBridgeGovernance,
      check, orMissing, storeBridge, storeGovernance, wp_stageValidatorChange, wp_putMultisig]

/-- What an error of an execution leaves: nothing new, or the mark of an expired proposal. -/
theorem executeBridgeProposal_stops (env : Env) (bridgeId proposalId : Nat) :
    wp (executeBridgeProposal env bridgeId proposalId) (fun _ _ => True)
      (fun fault after => fault.holds (fun _ => after = pre ∨ ∃ proposal,
        pre.multisig.proposals.lookup (bridgeId, proposalId) = some proposal ∧
        proposal.status = .pending ∧ proposal.expiry < env.timestamp ∧
        after = { pre with multisig :=
          pre.multisig.putProposal bridgeId proposalId { proposal with status := .expired } })
        True) pre := by
  simp only [executeBridgeProposal, getBridgeGovernance, getProposal, check, orMissing, wlp_rules,
    wp_ite, wp_storeProposal, Fault.holds_error, true_or]
  intro governance governed proposal has pending enough
  refine ⟨fun late => .inr ⟨proposal, has, pending, late, rfl⟩, fun _ => ?_⟩
  exact wp_mono (executeProposalType_stops env bridgeId proposal.proposalType)
    (fun _ _ _ => trivial) (by rintro (reason | _) after left <;> [exact .inl left; trivial])

/-- What an error of a call of signers leaves: nothing new, the mark of an expired proposal, the
signature of one that could not be executed, or a stale set dropped. -/
inductive MultisigStopped (env : Env) (pre : MultisigState) :
    MultisigCall → MultisigState → Prop where
  | unchanged {call : MultisigCall} : MultisigStopped env pre call pre
  | expired {call : MultisigCall} {bridgeId proposalId : Nat} {proposal : GovernanceProposal}
      (has : pre.proposals.lookup (bridgeId, proposalId) = some proposal)
      (pending : proposal.status = .pending) (late : proposal.expiry < env.timestamp) :
      MultisigStopped env pre call
        (pre.putProposal bridgeId proposalId { proposal with status := .expired })
  | signed {bridgeId proposalId : Nat} {signer : Address} {governance : BridgeGovernance}
      {proposal : GovernanceProposal}
      (governed : pre.governances.lookup bridgeId = some governance)
      (has : pre.proposals.lookup (bridgeId, proposalId) = some proposal)
      (mem : signer ∈ governance.signers) (fresh : signer ∉ proposal.signatures)
      (pending : proposal.status = .pending) :
      MultisigStopped env pre (.sign bridgeId proposalId signer)
        (pre.putProposal bridgeId proposalId (proposal.signedBy signer))
  | dropped {bridgeId : Nat} {pending : PendingValidatorSet}
      (waiting : pre.pendingSets.lookup bridgeId = some pending)
      (stale : pending.version ≤ pre.activeVersion bridgeId) :
      MultisigStopped env pre (.activate bridgeId)
        { pre with pendingSets := pre.pendingSets.erase bridgeId }

theorem validateProposalType_leaves (bridgeId : Nat) (proposalType : ProposalType) :
    wlp (validateProposalType bridgeId proposalType) (fun _ after => after = pre) pre := by
  cases proposalType <;>
    simp only [validateProposalType, wp_rules, wp_getBridge, wp_getBridgeGovernance, wp_check,
      implies_true]

theorem createBridgeProposal_spec (env : Env) (bridgeId : Nat) (proposer : Address)
    (proposalType : ProposalType) (description : String) :
    wlp (createBridgeProposal env bridgeId proposer proposalType description)
      (fun _ after => ∃ multisig,
        ProposalMade env.timestamp pre.multisig bridgeId proposer multisig ∧
        after = { pre with multisig }) pre := by
  simp only [createBridgeProposal, wp_bind, wp_auth, wp_getBridgeGovernance, wp_check]
  intro _ governance governed mem
  refine wp_then (validateProposalType_leaves bridgeId proposalType) ?_
  rintro _ after rfl
  simp only [wp_counter, wp_storeGovernance, wp_storeProposal, wp_pure]
  intro _ _
  exact ⟨_, .intro proposalType description _ governed mem, rfl⟩

theorem MultisigCall.exec_effect (call : MultisigCall) (env : Env) : wlp (call.exec env)
      (fun _ after => ∃ multisig, MultisigEffect env pre.multisig call multisig ∧
        after = { pre with multisig }) pre := by
  cases call with
  | create bridgeId proposer proposalType description =>
    simp only [exec, wp_discard]
    refine wp_then (createBridgeProposal_spec env bridgeId proposer proposalType
      description) ?_
    rintro _ after ⟨multisig, made, rfl⟩
    exact ⟨_, .create proposalType description made, rfl⟩
  | rotate bridgeId proposer newSigners count =>
    simp only [exec, rotateBridgeSigners, wp_rules, wp_check]
    intro _ _
    refine wp_then (createBridgeProposal_spec env bridgeId proposer _ _) ?_
    rintro _ after ⟨multisig, made, rfl⟩
    exact ⟨_, .rotate newSigners count made, rfl⟩
  | sign bridgeId proposalId signer =>
    simp only [exec, signBridgeProposal, wp_rules, wp_auth, wp_getBridgeGovernance,
      wp_getProposal, wp_check, wp_ite, wp_storeProposal, implies_true, true_and]
    intro _ governance governed proposal has mem fresh pending _
    refine ⟨fun _ => ?_, fun _ => ?_⟩
    · refine wp_then (executeBridgeProposal_spec env bridgeId proposalId) ?_
      rintro _ after ⟨multisig, executed, rfl⟩
      exact ⟨_, .sign governed has mem fresh pending (.inr executed), rfl⟩
    · exact ⟨_, .sign governed has mem fresh pending (.inl rfl), rfl⟩
  | execute bridgeId proposalId =>
    refine wp_then (executeBridgeProposal_spec env bridgeId proposalId) ?_
    rintro _ after ⟨multisig, executed, rfl⟩
    exact ⟨_, .execute executed, rfl⟩
  | emergencyExecute bridgeId proposalId =>
    simp only [exec, emergencyExecuteProposal, wp_bind, wp_getBridgeGovernance, wp_getProposal,
      wp_check, wp_counter]
    intro governance governed proposal has _ _ _
    have executes : wlp (executeBridgeProposal env bridgeId proposalId)
        (fun _ after => ∃ multisig,
          MultisigEffect env pre.multisig (.emergencyExecute bridgeId proposalId) multisig ∧
          after = { pre with multisig }) pre := by
      refine wp_then (executeBridgeProposal_spec env bridgeId proposalId) ?_
      rintro _ after ⟨multisig, executed, rfl⟩
      exact ⟨_, .emergencyExecute executed, rfl⟩
    cases proposal.proposalType with
    | pauseBridge | emergencyWithdraw => exact executes
    | _ => exact trivial
  | cancel bridgeId proposalId caller =>
    simp only [exec, cancelProposal, wp_bind, wp_auth, wp_getProposal, wp_check,
      wp_storeProposal]
    intro _ proposal has _ pending
    exact ⟨_, .cancel has pending, rfl⟩
  | addSigner bridgeId newSigner =>
    simp only [exec, CrossChain.addSigner, wp_bind, wp_getBridgeGovernance, wp_check,
      wp_storeGovernance]
    intro governance governed _
    exact ⟨_, .addSigner governed, rfl⟩
  | removeSigner bridgeId signer =>
    simp only [exec, CrossChain.removeSigner, wp_bind, wp_getBridgeGovernance, wp_check,
      wp_storeGovernance]
    intro governance governed _ _
    exact ⟨_, .removeSigner governed, rfl⟩
  | activate bridgeId =>
    simp only [exec, activateValidatorSet, wp_rules, wp_found, wp_check, wp_ite, wp_putMultisig,
      implies_true, true_and]
    intro pending waiting due newer
    exact ⟨_, .activate waiting (not_lt.mp due) (not_le.mp newer), rfl⟩
  | cancelPending bridgeId caller =>
    simp only [exec, cancelPendingValidatorSet, requireGovernanceSigner, wp_rules, wp_auth,
      wp_getBridgeGovernance, wp_check, wp_putMultisig]
    intro _ _ _ _ _
    exact ⟨_, .cancelPending caller, rfl⟩
  | setDelay bridgeId caller delaySeconds =>
    simp only [exec, setValidatorActivationDelay, requireGovernanceSigner, wp_rules, wp_auth,
      wp_getBridgeGovernance, wp_check, wp_putMultisig]
    intro _ _ _ _
    exact ⟨_, .setDelay caller delaySeconds, rfl⟩

theorem validateProposalType_stops (bridgeId : Nat) (proposalType : ProposalType) :
    wp (validateProposalType bridgeId proposalType) (fun _ after => after = pre)
      (fun fault after => fault.holds (fun _ => after = pre) True) pre := by
  cases proposalType <;>
    simp [validateProposalType, getBridge, getBridgeGovernance, check, orMissing]

theorem MultisigCall.exec_stops (call : MultisigCall) (env : Env) :
    wp (call.exec env) (fun _ _ => True) (fun fault after => fault.holds (fun _ => ∃ multisig,
        MultisigStopped env pre.multisig call multisig ∧ after = { pre with multisig })
        True) pre := by
  have unchanged : ∃ multisig,
      MultisigStopped env pre.multisig call multisig ∧ pre = { pre with multisig } :=
    ⟨_, .unchanged, rfl⟩
  have executes {bridgeId proposalId : Nat} :
      wp (executeBridgeProposal env bridgeId proposalId) (fun _ _ => True)
        (fun fault after => fault.holds (fun _ => ∃ multisig,
          MultisigStopped env pre.multisig call multisig ∧ after = { pre with multisig })
          True) pre := by
    refine wp_mono (executeBridgeProposal_stops env bridgeId proposalId)
      (fun _ _ _ => trivial) ?_
    rintro (reason | _) after left
    · rcases left with rfl | ⟨proposal, has, pending, late, rfl⟩
      · exact unchanged
      · exact ⟨_, .expired has pending late, rfl⟩
    · trivial
  have creates {bridgeId : Nat} {proposer : Address} {proposalType : ProposalType}
      {description : String} :
      wp (createBridgeProposal env bridgeId proposer proposalType description) (fun _ _ => True)
        (fun fault after => fault.holds (fun _ => ∃ multisig,
          MultisigStopped env pre.multisig call multisig ∧ after = { pre with multisig })
          True) pre := by
    simp only [createBridgeProposal, requireAuth, getBridgeGovernance, check, orMissing, wlp_rules,
      Fault.holds_error, Fault.holds_trap]
    refine fun _ => ⟨fun governance _ => ⟨fun _ => ?_, fun _ => unchanged⟩, fun _ => unchanged⟩
    refine wp_mono (validateProposalType_stops bridgeId proposalType) ?_ ?_
    · rintro _ after rfl
      simp [counter, storeGovernance, storeProposal, wp_putMultisig]
    · rintro (reason | _) after left
      · exact left ▸ unchanged
      · trivial
  cases call with
  | create bridgeId proposer proposalType description =>
    rw [exec, wp_discard]
    exact creates
  | rotate bridgeId proposer newSigners count =>
    simp only [exec, rotateBridgeSigners, check, wlp_rules, Fault.holds_error]
    exact ⟨fun _ => ⟨fun _ => creates, fun _ => unchanged⟩, fun _ => unchanged⟩
  | sign bridgeId proposalId signer =>
    simp only [exec, signBridgeProposal, requireAuth, getBridgeGovernance, getProposal, check,
      orMissing, wlp_rules, wp_ite, wp_storeProposal, Fault.holds_error, Fault.holds_trap]
    refine fun _ => ⟨fun governance governed => ⟨fun proposal has => ⟨fun mem =>
      ⟨fun fresh => ⟨fun pending => ⟨fun late => ⟨_, .expired has pending late, rfl⟩,
        fun timely _ => ?_⟩, fun _ => unchanged⟩, fun _ => unchanged⟩, fun _ => unchanged⟩,
      fun _ => unchanged⟩, fun _ => unchanged⟩
    refine wp_mono (executeBridgeProposal_stops env bridgeId proposalId)
      (fun _ _ _ => trivial) ?_
    rintro (reason | _) after left
    · rcases left with rfl | ⟨signed, hit, _, late, rfl⟩
      · exact ⟨_, .signed governed has mem fresh pending, rfl⟩
      · cases Option.mem_unique (AList.lookup_insert _) hit
        exact absurd late timely
    · trivial
  | execute bridgeId proposalId => exact executes
  | emergencyExecute bridgeId proposalId =>
    simp only [exec, emergencyExecuteProposal, getBridgeGovernance, getProposal, check, orMissing,
      counter, wlp_rules, Fault.holds_error, Fault.holds_trap]
    refine ⟨fun governance _ => ⟨fun proposal _ => ⟨fun _ => fun _ _ => ⟨fun _ => ?_,
      fun _ => unchanged⟩, fun _ => unchanged⟩, fun _ => unchanged⟩, fun _ => unchanged⟩
    cases proposal.proposalType with
    | pauseBridge | emergencyWithdraw => exact executes
    | _ => exact unchanged
  | activate bridgeId =>
    simp only [exec, activateValidatorSet, check, orMissing, wlp_rules, wp_ite, wp_putMultisig,
      Fault.holds_error]
    exact ⟨fun pending waiting => ⟨fun _ stale => ⟨_, .dropped waiting stale, rfl⟩,
      fun _ => unchanged⟩, fun _ => unchanged⟩
  | _ =>
    simp [exec, cancelProposal, CrossChain.addSigner, CrossChain.removeSigner,
      cancelPendingValidatorSet, setValidatorActivationDelay, requireGovernanceSigner,
      getBridgeGovernance, getProposal, requireAuth, check, orMissing, storeProposal, storeGovernance,
      wp_putMultisig, unchanged]

end Effects

end StellarSwipe.CrossChain
