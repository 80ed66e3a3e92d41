import StellarSwipe.Host
import StellarSwipe.Library.KeyedSum

/-!
# N-of-M approval of privileged actions

The shared module keeps a configuration, a counter of proposal ids and the proposals.
-/

namespace StellarSwipe.Multisig

open Program FixedWidth

/-- Maximum number of signers allowed in a config. -/
def maxSigners : Nat := 20

/-- Default timeout for proposals, seven days in seconds. -/
def defaultProposalTimeoutSecs : Nat := 604800

inductive MultisigError where
  | unauthorized
  | proposalNotFound
  | alreadyApproved
  | proposalExpired
  | alreadyExecuted
  | thresholdNotMet
  | invalidConfig
  | duplicateSigner

structure MultisigConfig where
  signers : List Address
  threshold : Nat
  proposalTimeoutSecs : Nat
deriving DecidableEq

inductive ProposalStatus where
  | pending
  | executed
deriving DecidableEq

structure Proposal where
  id : Nat
  proposer : Address
  payload : Bytes
  approvals : List Address
  status : ProposalStatus
  createdAt : Nat
  expiresAt : Nat

/-- The module's storage: `Config`, `NextId` and one `Proposal` entry for each id. -/
structure Storage where
  config : Option MultisigConfig
  nextId : Option Nat
  proposals : Table Nat Proposal

/-- Nothing configured and nothing proposed. -/
def Storage.empty : Storage := ⟨none, none, ∅⟩

/-- The identifier the next proposal receives. -/
def Storage.upcomingId (store : Storage) : Nat := store.nextId.getD 1

/-- Assign the next identifier. The counter's increment is an ordinary addition,
which aborts the invocation when it overflows. -/
def getNextId : Program Storage MultisigError Nat := do
  let store ← get
  let id := store.upcomingId
  let next ← orTrap (checkedCount u64Max id 1)
  set { store with nextId := some next }
  pure id

variable (env : Env) (id : Nat) (config : MultisigConfig)

/-- Validate that a configuration is well-formed. -/
def validateConfig : Except MultisigError Unit :=
  if config.threshold = 0 ∨ config.signers.length < config.threshold then .error .invalidConfig
  else if maxSigners < config.signers.length then .error .invalidConfig
  else if config.signers.Nodup then .ok ()
  else .error .duplicateSigner

/-- Persist a new configuration. -/
def setConfig : Program Storage MultisigError Unit := do
  ofExcept (validateConfig config)
  modify fun store => { store with config := some config }

/-- Remove the configuration, as the stake vault does to restore single-admin use. -/
def clearConfig : Program Storage MultisigError Unit :=
  modify fun store => { store with config := none }

abbrev isSigner (address : Address) : Prop := address ∈ config.signers

/-- Seconds a proposal made under this configuration stays open. -/
def proposalTimeout : Nat :=
  if 0 < config.proposalTimeoutSecs then config.proposalTimeoutSecs else defaultProposalTimeoutSecs

/-- Create a new proposal on behalf of a signer, who thereby approves it. -/
def propose (env : Env) (proposer : Address) (payload : Bytes) :
    Program Storage MultisigError Nat := do
  let config ← orFail (← get).config .invalidConfig
  ensure (isSigner config proposer) .unauthorized
  let id ← getNextId
  let proposal : Proposal :=
    { id
      proposer
      payload
      approvals := [proposer]
      status := .pending
      createdAt := env.timestamp
      expiresAt := satCount u64Max env.timestamp (proposalTimeout config) }
  modify fun store => { store with proposals := store.proposals.insert id proposal }
  pure id

def getProposal : Program Storage MultisigError Proposal := do
  orFail ((← get).proposals.lookup id) .proposalNotFound

abbrev hasApproved (proposal : Proposal) (signer : Address) : Prop := signer ∈ proposal.approvals

/-- Record an approval and return the current number of approvals. -/
def approve (env : Env) (caller : Address) (id : Nat) : Program Storage MultisigError Nat := do
  let config ← orFail (← get).config .invalidConfig
  ensure (isSigner config caller) .unauthorized
  let proposal ← getProposal id
  ensure (proposal.status = .pending) .alreadyExecuted
  ensure (env.timestamp ≤ proposal.expiresAt) .proposalExpired
  ensure (¬ hasApproved proposal caller) .alreadyApproved
  let approved := { proposal with approvals := proposal.approvals ++ [caller] }
  modify fun store => { store with proposals := store.proposals.insert id approved }
  pure approved.approvals.length

/-- Check that a proposal is pending, sufficiently approved and not expired. The
count is of stored approvals, whoever holds a signer's place now. -/
def requireCanExecute (proposal : Proposal) : Program Storage MultisigError Unit := do
  let config ← orFail (← get).config .invalidConfig
  ensure (proposal.status = .pending) .alreadyExecuted
  ensure (config.threshold ≤ proposal.approvals.length) .thresholdNotMet
  ensure (env.timestamp ≤ proposal.expiresAt) .proposalExpired

def markExecuted : Program Storage MultisigError Unit := do
  let proposal ← getProposal id
  ensure (proposal.status = .pending) .alreadyExecuted
  modify fun store =>
    { store with proposals := store.proposals.insert id { proposal with status := .executed } }

/-- Execute a proposal as the module prescribes: load it, check it, do the
privileged work elsewhere, and mark it. -/
def execute (env : Env) (id : Nat) : Program Storage MultisigError Unit := do
  let proposal ← getProposal id
  requireCanExecute env proposal
  markExecuted id

variable (pre : Storage)

theorem setConfig_spec : wlp (setConfig config) (fun _ after =>
      validateConfig config = .ok () ∧ after = { pre with config := some config }) pre := by
  simp [setConfig]

/-- A new proposal takes the next identifier and carries one approval, its
proposer's, given as a signer of the configuration in force. -/
theorem propose_spec (proposer : Address) (payload : Bytes) (pre : Storage) :
    wlp (propose env proposer payload) (fun id after =>
      id = pre.upcomingId ∧ ∃ config proposal, pre.config = some config ∧
        proposer ∈ config.signers ∧ proposal.approvals = [proposer] ∧
        after = { pre with
          nextId := some (id + 1), proposals := pre.proposals.insert id proposal }) pre := by
  simp only [propose, getNextId, wlp_rules, checkedCount_eq_some, and_imp, true_and]
  rintro config configured registered _ _ rfl
  exact ⟨config, _, configured, registered, rfl, rfl⟩

/-- An approval is added once, by a signer of the configuration in force, to a
pending proposal that has not expired. -/
theorem approve_spec (caller : Address) (id : Nat) (pre : Storage) :
    wlp (approve env caller id) (fun _ after =>
      ∃ config proposal, pre.config = some config ∧ caller ∈ config.signers ∧
        pre.proposals.lookup id = some proposal ∧ proposal.status = .pending ∧
        caller ∉ proposal.approvals ∧
        after = { pre with
          proposals := pre.proposals.insert id
            { proposal with approvals := proposal.approvals ++ [caller] } }) pre := by
  simp only [approve, getProposal, wlp_rules]
  intro config configured registered proposal has pending unexpired fresh
  exact ⟨config, proposal, configured, registered, has, pending, fresh, rfl⟩

/-- What the guard has checked of a proposal that may be executed. -/
structure Executable (env : Env) (store : Storage) (proposal : Proposal) : Prop where
  pending : proposal.status = .pending
  unexpired : env.timestamp ≤ proposal.expiresAt
  approved : ∃ config, store.config = some config ∧
    config.threshold ≤ proposal.approvals.length

theorem requireCanExecute_spec (proposal : Proposal) (pre : Storage) :
    wp (requireCanExecute env proposal) (fun _ after => after = pre ∧ Executable env pre proposal)
      (fun _ after => after = pre) pre := by
  simp only [requireCanExecute, wlp_rules, true_and]
  intro config configured pending approved unexpired
  exact ⟨pending, unexpired, config, configured, approved⟩

theorem markExecuted_spec : wp (markExecuted id) (fun _ after =>
      ∃ proposal, pre.proposals.lookup id = some proposal ∧ proposal.status = .pending ∧
        after = { pre with
          proposals := pre.proposals.insert id { proposal with status := .executed } })
      (fun _ after => after = pre) pre := by
  simp only [markExecuted, getProposal, wlp_rules]
  intro proposal has pending
  exact ⟨proposal, has, pending, rfl⟩

theorem execute_spec : wlp (execute env id) (fun _ after =>
      ∃ proposal, pre.proposals.lookup id = some proposal ∧ Executable env pre proposal ∧
        after = { pre with
          proposals := pre.proposals.insert id { proposal with status := .executed } })
      pre := by
  simp only [execute, getProposal, wlp_rules]
  intro proposal has
  refine wp_then (requireCanExecute_spec env proposal pre) ?_
  rintro _ _ ⟨rfl, executable⟩
  refine wp_then (markExecuted_spec id _) ?_
  rintro _ after ⟨marked, hit, pending, rfl⟩
  obtain rfl : marked = proposal := Option.mem_unique hit has
  exact ⟨marked, has, executable, rfl⟩

end StellarSwipe.Multisig
