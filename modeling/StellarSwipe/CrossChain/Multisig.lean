import StellarSwipe.CrossChain.Types

/-!
# Signers of a bridge

Proposals of a bridge's signers collect signatures; the signature that reaches the threshold
executes the proposal, and anybody may try again.
-/

namespace StellarSwipe.CrossChain

open FixedWidth Program

def proposalExpirySeconds : Nat := 604800

def superMajorityPercent : Nat := 75

def defaultValidatorActivationDelaySeconds : Nat := 3600

namespace MultisigState

variable (state : MultisigState) (bridgeId : Nat)

def putGovernance (governance : BridgeGovernance) : MultisigState :=
  { state with governances := state.governances.insert bridgeId governance }

def putProposal (proposalId : Nat) (proposal : GovernanceProposal) : MultisigState :=
  { state with proposals := state.proposals.insert (bridgeId, proposalId) proposal }

def putBridge (bridge : Bridge) : MultisigState :=
  { state with bridges := state.bridges.insert bridgeId bridge }

def activationDelay : Nat :=
  (state.delays.lookup bridgeId).getD defaultValidatorActivationDelaySeconds

def activeVersion : Nat := (state.versions.lookup bridgeId).getD 0

/-- The set that attests: the active one, or the recorded one where none was activated. -/
def bridgeValidators : Option (List Address) :=
  match state.activeSets.lookup bridgeId with
  | some active => some active
  | none => (state.bridges.lookup bridgeId).map Bridge.validators

end MultisigState

variable (env : Env) (bridgeId : Nat)

def getBridgeGovernance : ChainProgram BridgeGovernance := do
  orMissing ((← get).multisig.governances.lookup bridgeId) "Governance not found"

variable (proposalId : Nat)

def getProposal : ChainProgram GovernanceProposal := do
  orMissing ((← get).multisig.proposals.lookup (bridgeId, proposalId)) "Proposal not found"

def getBridge : ChainProgram Bridge := do
  orMissing ((← get).multisig.bridges.lookup bridgeId) "Bridge not found"

def getBridgeValidators : ChainProgram (List Address) := do
  orMissing ((← get).multisig.bridgeValidators bridgeId) "Bridge not found"

def storeGovernance (governance : BridgeGovernance) : ChainProgram Unit := do
  putMultisig ((← get).multisig.putGovernance bridgeId governance)

def storeProposal (proposal : GovernanceProposal) : ChainProgram Unit := do
  putMultisig ((← get).multisig.putProposal bridgeId proposalId proposal)

def storeBridge (bridge : Bridge) : ChainProgram Unit := do
  putMultisig ((← get).multisig.putBridge bridgeId bridge)

/-- Stage an approved set: without a delay it attests at once, otherwise it waits. -/
def stageValidatorChange (approved : List Address) (minValidatorSignatures : Nat) :
    ChainProgram Unit := do
  let state := (← get).multisig
  let delay := state.activationDelay bridgeId
  let version := satCount u32Max (state.activeVersion bridgeId) 1
  if delay = 0 then
    putMultisig { state with
      activeSets := state.activeSets.insert bridgeId approved
      versions := state.versions.insert bridgeId version
      pendingSets := state.pendingSets.erase bridgeId }
  else
    putMultisig { state with
      pendingSets := state.pendingSets.insert bridgeId
        ⟨approved, minValidatorSignatures, version, satCount u64Max env.timestamp delay⟩ }

def activateValidatorSet : ChainProgram Unit := do
  let state := (← get).multisig
  let pending ← orMissing (state.pendingSets.lookup bridgeId) "No pending validator set"
  check (¬ env.timestamp < pending.activateAt) "Activation delay has not elapsed"
  if pending.version ≤ state.activeVersion bridgeId then
    putMultisig { state with pendingSets := state.pendingSets.erase bridgeId }
    fail (.text "Validator set version already active")
  else
    putMultisig { state with
      activeSets := state.activeSets.insert bridgeId pending.validators
      versions := state.versions.insert bridgeId pending.version
      pendingSets := state.pendingSets.erase bridgeId }

def requireGovernanceSigner (caller : Address) : ChainProgram Unit := do
  let governance ← getBridgeGovernance bridgeId
  check (caller ∈ governance.signers) "Not authorized signer"

def cancelPendingValidatorSet (caller : Address) : ChainProgram Unit := do
  requireAuth env caller
  requireGovernanceSigner bridgeId caller
  let state := (← get).multisig
  check ((state.pendingSets.lookup bridgeId).isSome = true) "No pending validator set"
  putMultisig { state with pendingSets := state.pendingSets.erase bridgeId }

def setValidatorActivationDelay (caller : Address) (delaySeconds : Nat) :
    ChainProgram Unit := do
  requireAuth env caller
  requireGovernanceSigner bridgeId caller
  let state := (← get).multisig
  putMultisig { state with delays := state.delays.insert bridgeId delaySeconds }

/-- Record one more validator, and stage the set. -/
def executeAddValidator (validator : Address) : ChainProgram Unit := do
  let bridge ← getBridge bridgeId
  check (validator ∉ bridge.validators) "Already validator"
  let approved := bridge.validators ++ [validator]
  storeBridge bridgeId { bridge with validators := approved }
  stageValidatorChange env bridgeId approved bridge.minValidatorSignatures

/-- Record one validator less, and stage the set. -/
def executeRemoveValidator (validator : Address) : ChainProgram Unit := do
  let bridge ← getBridge bridgeId
  check (validator ∈ bridge.validators) "Validator not found"
  let approved := bridge.validators.filter fun other => other ≠ validator
  check (¬ approved.length < bridge.minValidatorSignatures) "Would drop below min validators"
  storeBridge bridgeId { bridge with validators := approved }
  stageValidatorChange env bridgeId approved bridge.minValidatorSignatures

def executeUpdateSecurityLimits (limits : BridgeSecurityConfig) : ChainProgram Unit := do
  let bridge ← getBridge bridgeId
  storeBridge bridgeId { bridge with securityConfig := limits }

def executeSetStatus (status : BridgeStatus) : ChainProgram Unit := do
  let bridge ← getBridge bridgeId
  storeBridge bridgeId { bridge with status }

def executePauseBridge : ChainProgram Unit :=
  executeSetStatus bridgeId .paused

def executeUnpauseBridge : ChainProgram Unit :=
  executeSetStatus bridgeId .active

def executeUpdateRequiredSignatures (newCount : Nat) : ChainProgram Unit := do
  let governance ← getBridgeGovernance bridgeId
  check (¬ (newCount = 0 ∨ governance.signers.length < newCount)) "Invalid signature count"
  storeGovernance bridgeId { governance with requiredSignatures := newCount }

/-- A withdrawal announces itself and moves nothing. -/
def executeEmergencyWithdraw (value : Int) : ChainProgram Unit :=
  check (¬ value ≤ 0) "Invalid amount"

def executeProposalType (proposalType : ProposalType) : ChainProgram Unit :=
  match proposalType with
  | .addValidator validator => executeAddValidator env bridgeId validator
  | .removeValidator validator => executeRemoveValidator env bridgeId validator
  | .updateSecurityLimits limits => executeUpdateSecurityLimits bridgeId limits
  | .pauseBridge => executePauseBridge bridgeId
  | .unpauseBridge => executeUnpauseBridge bridgeId
  | .updateRequiredSignatures count => executeUpdateRequiredSignatures bridgeId count
  | .emergencyWithdraw _ value _ => executeEmergencyWithdraw value

/-- Execute a pending proposal with enough signatures. One that has expired is marked and
refused. -/
def executeBridgeProposal : ChainProgram Unit := do
  let governance ← getBridgeGovernance bridgeId
  let proposal ← getProposal bridgeId proposalId
  check (proposal.status = .pending) "Proposal not pending"
  check (¬ proposal.signatures.length < governance.requiredSignatures) "Insufficient signatures"
  if proposal.expiry < env.timestamp then
    storeProposal bridgeId proposalId { proposal with status := .expired }
    fail (.text "Proposal expired")
  else
    executeProposalType env bridgeId proposal.proposalType
    storeProposal bridgeId proposalId
      { proposal with status := .executed, executedAt := some env.timestamp }

/-- Execute an emergency at once with three quarters of the signers. -/
def emergencyExecuteProposal : ChainProgram Unit := do
  let governance ← getBridgeGovernance bridgeId
  let proposal ← getProposal bridgeId proposalId
  check (proposal.status = .pending) "Proposal not pending"
  let weighted ← counter u32Max (governance.signers.length * superMajorityPercent)
  check (¬ proposal.signatures.length < weighted / 100) "Requires super-majority for emergency"
  match proposal.proposalType with
  | .pauseBridge | .emergencyWithdraw _ _ _ => executeBridgeProposal env bridgeId proposalId
  | _ => fail (.text "Not emergency proposal")

/-- Whether a proposal of a type may be made. -/
def validateProposalType (proposalType : ProposalType) : ChainProgram Unit :=
  match proposalType with
  | .addValidator validator => do
    let bridge ← getBridge bridgeId
    check (validator ∉ bridge.validators) "Already a validator"
  | .removeValidator validator => do
    let bridge ← getBridge bridgeId
    check (validator ∈ bridge.validators) "Not a validator"
    check (¬ bridge.validators.length ≤ bridge.minValidatorSignatures)
      "Would drop below min validators"
  | .updateRequiredSignatures count => do
    let governance ← getBridgeGovernance bridgeId
    check (¬ (count = 0 ∨ governance.signers.length < count)) "Invalid signature count"
  | .emergencyWithdraw _ value _ => check (¬ value ≤ 0) "Invalid amount"
  | .updateSecurityLimits _ | .pauseBridge | .unpauseBridge => pure ()

/-- Make a proposal, which its proposer signs. -/
def createBridgeProposal (proposer : Address) (proposalType : ProposalType) (description : String) :
    ChainProgram Nat := do
  requireAuth env proposer
  let governance ← getBridgeGovernance bridgeId
  check (proposer ∈ governance.signers) "Not authorized signer"
  validateProposalType bridgeId proposalType
  let proposalId := governance.nextProposalId
  let nextProposalId ← counter u64Max (proposalId + 1)
  let expiry ← counter u64Max (proposalExpirySeconds + env.timestamp)
  storeGovernance bridgeId { governance with nextProposalId }
  storeProposal bridgeId proposalId
    ⟨proposer, proposalType, description, [proposer], .pending, env.timestamp, none, expiry⟩
  pure proposalId

/-- Sign a proposal, and execute it when that reaches the threshold. -/
def signBridgeProposal (signer : Address) : ChainProgram Unit := do
  requireAuth env signer
  let governance ← getBridgeGovernance bridgeId
  let proposal ← getProposal bridgeId proposalId
  check (signer ∈ governance.signers) "Not authorized signer"
  check (signer ∉ proposal.signatures) "Already signed"
  check (proposal.status = .pending) "Proposal not pending"
  if proposal.expiry < env.timestamp then
    storeProposal bridgeId proposalId { proposal with status := .expired }
    fail (.text "Proposal expired")
  else
    let signatures := proposal.signatures ++ [signer]
    storeProposal bridgeId proposalId { proposal with signatures }
    if governance.requiredSignatures ≤ signatures.length then
      executeBridgeProposal env bridgeId proposalId
    else pure ()

def cancelProposal (caller : Address) : ChainProgram Unit := do
  requireAuth env caller
  let proposal ← getProposal bridgeId proposalId
  check (proposal.proposer = caller) "Only proposer can cancel"
  check (proposal.status = .pending) "Proposal not pending"
  storeProposal bridgeId proposalId { proposal with status := .cancelled }

/-- Propose the threshold of a rotation; the new signers themselves are not kept. -/
def rotateBridgeSigners (proposer : Address) (newSigners : List Address)
    (newRequiredSignatures : Nat) : ChainProgram Nat := do
  check (newSigners ≠ []) "Signers cannot be empty"
  check (¬ (newRequiredSignatures = 0 ∨ newSigners.length < newRequiredSignatures))
    "Invalid required signatures"
  createBridgeProposal env bridgeId proposer (.updateRequiredSignatures newRequiredSignatures)
    "Rotate signers"

def addSigner (newSigner : Address) : ChainProgram Unit := do
  let governance ← getBridgeGovernance bridgeId
  check (newSigner ∉ governance.signers) "Already a signer"
  storeGovernance bridgeId { governance with signers := governance.signers ++ [newSigner] }

def removeSigner (signer : Address) : ChainProgram Unit := do
  let governance ← getBridgeGovernance bridgeId
  check (signer ∈ governance.signers) "Signer not found"
  let newSigners := governance.signers.filter fun other => other ≠ signer
  check (¬ newSigners.length < governance.requiredSignatures)
    "Would drop below required signatures"
  storeGovernance bridgeId { governance with signers := newSigners }

/-- One call of signers or on validator sets. -/
inductive MultisigCall where
  | create (bridgeId : Nat) (proposer : Address) (proposalType : ProposalType)
      (description : String)
  | sign (bridgeId proposalId : Nat) (signer : Address)
  | execute (bridgeId proposalId : Nat)
  | emergencyExecute (bridgeId proposalId : Nat)
  | cancel (bridgeId proposalId : Nat) (caller : Address)
  | rotate (bridgeId : Nat) (proposer : Address) (newSigners : List Address)
      (newRequiredSignatures : Nat)
  | addSigner (bridgeId : Nat) (newSigner : Address)
  | removeSigner (bridgeId : Nat) (signer : Address)
  | activate (bridgeId : Nat)
  | cancelPending (bridgeId : Nat) (caller : Address)
  | setDelay (bridgeId : Nat) (caller : Address) (delaySeconds : Nat)

/-- The function of a call. -/
def MultisigCall.exec (call : MultisigCall) (env : Env) : ChainProgram Unit :=
  match call with
  | .create bridgeId proposer proposalType description =>
    discard (createBridgeProposal env bridgeId proposer proposalType description)
  | .sign bridgeId proposalId signer => signBridgeProposal env bridgeId proposalId signer
  | .execute bridgeId proposalId => executeBridgeProposal env bridgeId proposalId
  | .emergencyExecute bridgeId proposalId => emergencyExecuteProposal env bridgeId proposalId
  | .cancel bridgeId proposalId caller => cancelProposal env bridgeId proposalId caller
  | .rotate bridgeId proposer newSigners newRequiredSignatures =>
    discard (rotateBridgeSigners env bridgeId proposer newSigners newRequiredSignatures)
  | .addSigner bridgeId newSigner => CrossChain.addSigner bridgeId newSigner
  | .removeSigner bridgeId signer => CrossChain.removeSigner bridgeId signer
  | .activate bridgeId => activateValidatorSet env bridgeId
  | .cancelPending bridgeId caller => cancelPendingValidatorSet env bridgeId caller
  | .setDelay bridgeId caller delaySeconds =>
    setValidatorActivationDelay env bridgeId caller delaySeconds

end StellarSwipe.CrossChain
