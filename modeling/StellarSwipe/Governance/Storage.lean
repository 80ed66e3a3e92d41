import StellarSwipe.Governance.Records
import StellarSwipe.Library.DistinctList

/-!
# Storage of governance

One record holds the entries of the contract that tokens, delegations, proposals, the timelock,
quadratic votes and the treasury read and write, in the parts in which the modules of the contract
write them.
-/

namespace StellarSwipe.Governance

open FixedWidth Program DistinctList

/-- The entries that access checks read. The last lists who may change parameters
besides the admin. -/
structure AccessState where
  initialized : Bool
  admin : Option Address
  paused : Bool
  guardian : Option Address
  enforceAdminTimelock : Bool
  parameterChangers : List Address

structure GovStore where
  access : AccessState
  tokens : TokenLedger
  delegation : DelegationState
  proposals : ProposalsState
  deposits : DepositState
  registry : Registry
  timelock : Option Timelock
  adminActions : List AdminTimelockEntry
  quadratic : QuadraticState
  treasury : Treasury
  window : SpendWindow

instance : Administered GovStore where
  initialized store := store.access.initialized
  admin store := store.access.admin

abbrev GovProgram := Program GovStore GovernanceError

def requireNotPaused : GovProgram Unit := do
  ensure ((← get).access.paused = false) .contractPaused

/-- A direct call to an administrative entry point that has a timelocked twin. -/
def requireNoTimelockBypass : GovProgram Unit := do
  ensure ((← get).access.enforceAdminTimelock = false) .timelockBypassBlocked

namespace GovStore

/-- Governance as initialization leaves it: the balances of the first distribution,
nothing staked and nothing delegated, proposed, queued or budgeted. -/
def initial (admin : Address) (balances : Table Address Int)
    (holders : List Address) (totalSupply : Int) : GovStore where
  access := ⟨true, some admin, false, none, false, []⟩
  tokens := ⟨balances, ∅, ∅, holders, some totalSupply⟩
  delegation := .empty
  proposals := .empty
  deposits := ⟨none, ∅, none⟩
  registry := ⟨∅, ∅, ∅⟩
  timelock := none
  adminActions := []
  quadratic := .empty
  treasury := .empty
  window := ⟨none, none⟩

variable (store : GovStore)

/-- The proposal, as every read of it finds it. -/
def proposal (proposalId : Nat) : Option Proposal := store.proposals.proposals.lookup proposalId

def governanceConfig : GovernanceConfig := store.proposals.config.getD .default

def putTokens (tokens : TokenLedger) : GovStore := { store with tokens }

def putDelegation (delegation : DelegationState) : GovStore :=
  { store with delegation }

/-- The proposal written under its id. -/
def putProposal (proposalId : Nat) (proposal : Proposal) : GovStore :=
  { store with proposals := { store.proposals with
      proposals := store.proposals.proposals.insert proposalId proposal } }

def putTimelock (timelock : Timelock) : GovStore :=
  { store with timelock := some timelock }

def putQuadratic (quadratic : QuadraticState) : GovStore :=
  { store with quadratic }

def putTreasury (treasury : Treasury) : GovStore := { store with treasury }

end GovStore

section Rules

variable {pre : GovStore} {post : Unit → GovStore → Prop}

theorem wp_notPaused : wp requireNotPaused post (fun _ _ => True) pre ↔
      (pre.access.paused = false → post () pre) := by
  simp [requireNotPaused]

theorem wp_requireNoTimelockBypass : wp requireNoTimelockBypass post (fun _ _ => True) pre ↔
      (pre.access.enforceAdminTimelock = false → post () pre) := by
  simp [requireNoTimelockBypass]

end Rules

/-! ## Administrative actions behind the timelock

Once enforcement is on, administrative entry points are reached only by queueing an
action and executing it after its delay. A queued action is used up by the call that it
admits.
-/

def adminActionDelay : Nat := 2 * 86400

def getTimelock : GovProgram Timelock := do
  orFail (← get).timelock .timelockNotInitialized

def putTimelock (timelock : Timelock) : GovProgram Unit :=
  modify fun store => store.putTimelock timelock

/-- Queue an action under the next id of the timelock, which lists it as an action of no
proposal. -/
def queueAdminAction (env : Env) (caller : Address) (actionType : String) :
    GovProgram Nat := do
  let timelock ← getTimelock
  let id := timelock.nextActionId
  let available := satCount u64Max env.timestamp adminActionDelay
  putTimelock { timelock with
    queuedActions := timelock.queuedActions ++
      [⟨id, .custom, 0, [], env.timestamp, available, false, false⟩]
    nextActionId := satCount u64Max id 1 }
  modify fun store => { store with
    adminActions := store.adminActions ++
      [⟨id, actionType, caller, env.timestamp, available, false, false⟩] }
  pure id

/-- Use up an action whose delay has passed. -/
def executeAdminAction (env : Env) (actionId : Nat) (caller : Address) :
    GovProgram String := do
  requireAuth env caller
  let matching := fun entry : AdminTimelockEntry => decide (entry.id = actionId)
  let entry ← orFail ((← get).adminActions.find? matching) .actionNotFound
  ensure (¬ env.timestamp < entry.executionAvailable) .invalidDuration
  ensure (¬ (entry.executed = true ∨ entry.cancelled = true)) .invalidCommitteeAction
  ensure (entry.caller = caller) .unauthorized
  modify fun store => { store with
    adminActions := replaceFirst matching { entry with executed := true } store.adminActions }
  pure entry.actionType

/-- The admin check without the authorization, which executing the action makes. -/
def requireAdminIdentity (caller : Address) : GovProgram Unit := do
  requireInitialized
  let admin ← orFail (← get).access.admin .notInitialized
  ensure (admin = caller) .unauthorized

/-- The two ways into an administrative entry point. -/
inductive Route where
  | direct
  | timelocked (actionId : Nat)

/-- What an entry point checks on each way. -/
def Route.enter (route : Route) (env : Env) (admin : Address) : GovProgram Unit :=
  match route with
  | .direct => do
    requireAdmin env admin
    requireNoTimelockBypass
  | .timelocked actionId => do
    requireAdminIdentity admin
    discard (executeAdminAction env actionId admin)

section Rules

variable {pre : GovStore}

theorem wp_getTimelock {post : Timelock → GovStore → Prop} :
    wp getTimelock post (fun _ _ => True) pre ↔
      ∀ timelock, pre.timelock = some timelock → post timelock pre := by
  simp [getTimelock]

variable {post : Unit → GovStore → Prop}

theorem wp_putTimelock {fault : Fault GovernanceError → GovStore → Prop}
    (timelock : Timelock) :
    wp (putTimelock timelock) post fault pre ↔ post () (pre.putTimelock timelock) := Iff.rfl

theorem Route.enter_leaves (route : Route) (env : Env) (admin : Address) :
    wlp (route.enter env admin)
      (fun _ after => ∃ adminActions, after = { pre with adminActions })
      pre := by
  cases route with
  | direct =>
    simp only [enter, wp_bind, wp_requireAdmin, wp_requireNoTimelockBypass]
    intro _ _ _ _
    exact ⟨pre.adminActions, rfl⟩
  | timelocked actionId =>
    simp only [enter, requireAdminIdentity, executeAdminAction, wlp_rules, wp_initialized,
      wp_auth]
    intro _ _ _ _ _ entry _ _ _ _
    exact ⟨_, rfl⟩

/-- What comes after entering may rely on everything but the queued administrative
actions. -/
theorem Route.enter_rule {route : Route} {env : Env} {admin : Address}
    (holds : ∀ adminActions, post () { pre with adminActions }) :
    wlp (route.enter env admin) post pre := by
  refine wp_then (route.enter_leaves env admin) ?_
  rintro _ after ⟨adminActions, rfl⟩
  exact holds adminActions

end Rules

end StellarSwipe.Governance
