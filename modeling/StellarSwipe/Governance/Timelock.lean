import StellarSwipe.Governance.Proposals

/-!
# The timelock

The action of a proposal that succeeded can be queued and executed after a delay.
-/

namespace StellarSwipe.Governance

open FixedWidth Program DistinctList

/-- How long an action waits past its time before the guardian may retry it. -/
def stuckGracePeriod : Nat := 86400

variable (env : Env)

/-- Whoever may change parameters, and the admin. -/
def requireParameterCapability (caller : Address) : GovProgram Unit := do
  requireInitialized
  requireAuth env caller
  let access := (← get).access
  if caller ∈ access.parameterChangers then pure ()
  else do
    let admin ← orFail access.admin .notInitialized
    ensure (admin = caller) .unauthorized

def initialDelays : Table ActionType Nat :=
  ((((AList.insert .treasurySpend (2 * 86400) ∅).insert .parameterChange (3 * 86400)).insert
    .contractUpgrade (5 * 86400)).insert .emergencyPause 0).insert .custom (2 * 86400)

def initializeTimelock (admin : Address) (minDelay maxDelay : Nat) (guardian : Address) :
    GovProgram Unit := do
  requireParameterCapability env admin
  ensure (¬ (minDelay < 3600 ∨ 7 * 86400 < maxDelay ∨ maxDelay < minDelay)) .invalidTimelockConfig
  putTimelock ⟨[], initialDelays, minDelay, maxDelay, guardian, 1⟩
  modify fun store =>
    { store with access := { store.access with guardian := some guardian } }

def classifyProposalAction (proposalType : ProposalType) : ActionType :=
  match proposalType with
  | .treasurySpend _ _ _ _ => .treasurySpend
  | .parameterChange _ _ _ => .parameterChange
  | .contractUpgrade _ _ => .contractUpgrade
  | .featureToggle _ _ | .signalProposal _ | .custom _ => .custom

def queueAction (proposalId : Nat) : GovProgram Nat := do
  let proposal ← getProposal proposalId
  ensure (proposal.status = .succeeded) .proposalNotApproved
  let timelock ← getTimelock
  let actionType := classifyProposalAction proposal.proposalType
  let delay := (timelock.delayConfig.lookup actionType).getD timelock.minDelay
  ensure (∀ action ∈ timelock.queuedActions, ¬ (action.proposalId = proposalId ∧
    action.executed = false ∧ action.cancelled = false)) .invalidCommitteeAction
  let id := timelock.nextActionId
  putTimelock { timelock with
    queuedActions := timelock.queuedActions ++
      [{ id
         actionType
         proposalId
         executionPayload := proposal.executionPayload
         queuedAt := env.timestamp
         executionAvailable := satCount u64Max env.timestamp delay
         executed := false
         cancelled := false }]
    nextActionId := satCount u64Max id 1 }
  pure id

def Timelock.find (timelock : Timelock) (actionId : Nat) : Option QueuedAction :=
  timelock.queuedActions.find? fun action => decide (action.id = actionId)

def Timelock.replace (timelock : Timelock) (actionId : Nat) (action : QueuedAction) : Timelock :=
  { timelock with queuedActions :=
      replaceFirst (fun action => decide (action.id = actionId)) action timelock.queuedActions }

def QueuedAction.Waits (action : QueuedAction) : Prop :=
  ¬ (action.executed = true ∨ action.cancelled = true)
deriving Decidable

def executeProposalActionById (proposalId : Nat) : GovProgram Unit := do
  executeProposalAction (← getProposal proposalId)

def markProposalExecuted (proposalId : Nat) : GovProgram Unit := do
  let proposal ← getProposal proposalId
  putProposal proposalId { proposal with
    status := .executed
    executedAt := some env.timestamp }

def runQueuedAction (timelock : Timelock) (actionId : Nat) (action : QueuedAction) :
    GovProgram Unit := do
  executeProposalActionById action.proposalId
  putTimelock (timelock.replace actionId { action with executed := true })
  markProposalExecuted env action.proposalId

variable (actionId : Nat)

def executeQueuedAction (executor : Address) : GovProgram Unit := do
  requireAuth env executor
  let timelock ← getTimelock
  let action ← orFail (timelock.find actionId) .actionNotFound
  ensure action.Waits .invalidCommitteeAction
  ensure (¬ env.timestamp < action.executionAvailable) .invalidDuration
  runQueuedAction env timelock actionId action

/-- The guardian's retry of an action that has been overdue for the grace period. -/
def emergencyUnblockAction (guardian : Address) : GovProgram Unit := do
  requireAuth env guardian
  let timelock ← getTimelock
  ensure (guardian = timelock.guardian) .unauthorized
  let action ← orFail (timelock.find actionId) .actionNotFound
  ensure action.Waits .invalidCommitteeAction
  ensure (¬ env.timestamp < satCount u64Max action.executionAvailable stuckGracePeriod)
    .invalidDuration
  runQueuedAction env timelock actionId action

/-- The guardian's execution of an emergency pause, which no proposal is classified as. -/
def emergencyExecute (guardian : Address) : GovProgram Unit := do
  requireAuth env guardian
  let timelock ← getTimelock
  ensure (guardian = timelock.guardian) .unauthorized
  let action ← orFail (timelock.find actionId) .actionNotFound
  ensure (action.actionType = .emergencyPause) .invalidCommitteeAction
  ensure action.Waits .invalidCommitteeAction
  runQueuedAction env timelock actionId action

def cancelQueuedAction (canceller : Address) : GovProgram Unit := do
  requireAuth env canceller
  let timelock ← getTimelock
  let admin ← orFail (← get).access.admin .notInitialized
  ensure (canceller = timelock.guardian ∨ canceller = admin) .unauthorized
  let action ← orFail (timelock.find actionId) .actionNotFound
  ensure action.Waits .invalidCommitteeAction
  putTimelock (timelock.replace actionId { action with cancelled := true })
  let proposal ← getProposal action.proposalId
  putProposal action.proposalId { proposal with status := .cancelled }

/-- Execute some queued actions. The error of one is swallowed with what it wrote kept. -/
def executeMultipleActions (actionIds : List Nat) (executor : Address) :
    GovProgram (List Nat) := do
  requireAuth env executor
  ensure (¬ 10 < actionIds.length) .invalidAmount
  let results ← attemptEach (fun actionId => executeQueuedAction env actionId executor) actionIds
  pure ((actionIds.zip results).filterMap fun entry => if entry.2.isOk then some entry.1 else none)

/-- One call of the timelock's entry points, batches apart. -/
inductive TimelockCall where
  | setUp (admin : Address) (minDelay maxDelay : Nat) (guardian : Address)
  | queue (proposalId : Nat)
  | executeQueued (actionId : Nat) (executor : Address)
  | emergencyUnblock (actionId : Nat) (guardian : Address)
  | emergencyExecute (actionId : Nat) (guardian : Address)
  | cancelQueued (actionId : Nat) (canceller : Address)

/-- The entry point of a call. -/
def TimelockCall.exec (call : TimelockCall) (env : Env) : GovProgram Unit :=
  match call with
  | .setUp admin minDelay maxDelay guardian =>
    initializeTimelock env admin minDelay maxDelay guardian
  | .queue proposalId => do
    requireInitialized
    requireNotPaused
    discard (queueAction env proposalId)
  | .executeQueued actionId executor => do
    requireInitialized
    requireNotPaused
    executeQueuedAction env actionId executor
  | .emergencyUnblock actionId guardian => do
    requireInitialized
    emergencyUnblockAction env actionId guardian
  | .emergencyExecute actionId guardian => do
    requireInitialized
    Governance.emergencyExecute env actionId guardian
  | .cancelQueued actionId canceller => do
    requireInitialized
    cancelQueuedAction env actionId canceller

end StellarSwipe.Governance
