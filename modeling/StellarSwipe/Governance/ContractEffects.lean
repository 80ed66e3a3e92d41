import StellarSwipe.Governance.QuadraticEffects
import StellarSwipe.Governance.TreasuryBooks

/-!
# What every call of the contract writes

The effects of all groups of calls as one relation, which every call that returns has.
-/

namespace StellarSwipe.Governance

open FixedWidth Program Runs

/-- What a returning call on the settings writes. -/
inductive SettingsEffect (env : Env) (pre : GovStore) :
    SettingsCall → GovStore → Prop where
  | configure (route : Route) (admin : Address) (config : GovernanceConfig)
      (adminActions : List AdminTimelockEntry) :
      SettingsEffect env pre (.configure route admin config)
        { pre with
          adminActions
          proposals := { pre.proposals with config := some config } }
  | setSpendWindow (admin : Address) {windowSecs : Nat} {cap : Amount} (lasting : windowSecs ≠ 0)
      (pos : 0 < cap.val) :
      SettingsEffect env pre (.setSpendWindow admin windowSecs cap)
        { pre with
          window := ⟨some ⟨windowSecs, cap, env.timestamp⟩, some ⟨env.timestamp, 0⟩⟩ }

/-- The storage with the parts that stake and delegations are kept in. -/
inductive StakeMoved (pre : GovStore) : GovStore → Prop where
  | intro (tokens : TokenLedger) (delegation : DelegationState) :
      StakeMoved pre
        { pre with
          tokens
          delegation }

/-- The storage with the parts that the treasury is kept in. -/
inductive TreasuryMoved (pre : GovStore) : GovStore → Prop where
  | intro (treasury : Treasury) (adminActions : List AdminTimelockEntry) (window : SpendWindow)
      (timelock : Option Timelock) :
      TreasuryMoved pre
        { pre with
          treasury
          adminActions
          window
          timelock }

/-- What a returning call writes. -/
inductive GovernanceEffect (env : Env) (pre : GovStore) :
    GovernanceCall → GovStore → Prop where
  | settings {call : SettingsCall} {after : GovStore}
      (effect : SettingsEffect env pre call after) :
      GovernanceEffect env pre (.settings call) after
  | power {call : PowerCall} {after : GovStore}
      (effect : PowerEffect env pre call after) :
      GovernanceEffect env pre (.power call) after
  | treasury (call : TreasuryCall) {after : GovStore}
      (effect : TreasuryMoved pre after) :
      GovernanceEffect env pre (.treasury call) after
  | proposal {call : ProposalCall} {after : GovStore}
      (effect : ProposalEffect env pre call after) :
      GovernanceEffect env pre (.proposal call) after
  | timelock {call : TimelockCall} {after : GovStore}
      (effect : TimelockEffect env pre call after) :
      GovernanceEffect env pre (.timelock call) after
  | quadratic {call : QuadraticCall} {after : GovStore}
      (effect : QuadraticEffect env pre call after) :
      GovernanceEffect env pre (.quadratic call) after
  | reputationVote {proposalId : Nat} {voter : Address} {voteType : VoteType}
      (reputationScore : Nat) {after : GovStore}
      (effect : ReputationVoteCast env pre proposalId voter voteType after) :
      GovernanceEffect env pre (.reputationVote proposalId voter voteType reputationScore) after

section Effects

variable {env : Env} {pre : GovStore}

theorem PowerEffect.moved {call : PowerCall} {after : GovStore}
    (effect : PowerEffect env pre call after) : StakeMoved pre after := by
  cases effect with
  | stake | unstake | setVoteLock => exact .intro _ pre.delegation
  | _ => exact .intro pre.tokens _

theorem executeAdminAction_leaves (actionId : Nat) (caller : Address) :
    wlp (executeAdminAction env actionId caller)
      (fun _ after => ∃ adminActions, after = { pre with adminActions })
      pre := by
  simp only [executeAdminAction, wlp_rules, wp_auth]
  intro _ entry _ _ _ _
  exact ⟨_, rfl⟩

theorem SettingsCall.exec_effect (call : SettingsCall) (env : Env) :
    wlp (call.exec env) (fun _ after => SettingsEffect env pre call after) pre := by
  cases call with
  | configure route admin config =>
    cases route with
    | direct =>
      simp only [exec, requireParameterCapability, configureGovernance, wp_bind,
        wp_initialized, wp_auth, wp_get, wp_ite, wp_pure, wp_orFail, wp_ensure,
        wp_requireNoTimelockBypass, wp_modify, implies_true, and_true]
      refine fun _ _ _ => ⟨fun _ _ _ => ?_, fun _ _ _ _ _ _ => ?_⟩
      · exact .configure .direct admin config pre.adminActions
      · exact .configure .direct admin config pre.adminActions
    | timelocked actionId =>
      simp only [exec, configureGovernance, wp_bind, wp_discard, wp_initialized]
      intro _
      refine wp_then (executeAdminAction_leaves actionId admin) ?_
      rintro _ after ⟨adminActions, rfl⟩
      simp only [wp_ensure, wp_modify, implies_true, and_true]
      intro _
      exact .configure (.timelocked actionId) admin config adminActions
  | setSpendWindow admin windowSecs cap =>
    simp only [exec, setTreasurySpendWindow, configureWindow, wp_bind, wp_requireAdmin, wp_ensure,
      wp_putWindow, implies_true, and_true]
    intro _ _ _ lasting pos
    exact .setSpendWindow admin lasting (not_le.mp pos)

theorem TreasuryCall.exec_moved (call : TreasuryCall) (env : Env) :
    wlp (call.exec env) (fun _ after => TreasuryMoved pre after) pre := by
  -- Entering and using the window come before every program of the treasury itself.
  have treasured : ∀ {α : Type} (program : TreasuryProgram α)
      (adminActions : List AdminTimelockEntry) (window : SpendWindow),
      wp (onTreasury program) (fun _ after => TreasuryMoved pre after) (fun _ _ => True)
        { pre with
          adminActions
          window } := by
    intro α program adminActions window
    rw [wp_onTreasury]
    refine (wp_iff _).mpr ⟨fun _ treasury _ => ?_, fun _ _ _ => trivial⟩
    exact .intro treasury adminActions window pre.timelock
  cases call with
  | setAsset | createBudget | approveBudget | createRecurring =>
    simp only [exec, wp_rules]
    exact Route.enter_rule fun adminActions => treasured _ adminActions pre.window
  | spend =>
    simp only [exec, wp_rules]
    refine Route.enter_rule fun adminActions => ?_
    refine wp_then (consume_leaves env _) ?_
    rintro _ after ⟨window, rfl⟩
    exact treasured _ adminActions window
  | processRecurring admin =>
    simp only [exec, wp_rules, wp_requireAdmin]
    intro _ _ _
    exact treasured _ pre.adminActions pre.window
  | queueAdmin admin actionType =>
    simp only [exec, wp_rules, wp_requireAdmin, queueAdminAction, wp_getTimelock, wp_putTimelock]
    intro _ _ _ timelock _
    exact .intro pre.treasury _ pre.window _

theorem GovernanceCall.exec_effect (call : GovernanceCall) (env : Env) :
    wlp (call.exec env) (fun _ after => GovernanceEffect env pre call after) pre := by
  cases call with
  | settings call =>
    exact wp_then (call.exec_effect env) (fun _ _ => .settings)
  | power call =>
    exact wp_then (call.exec_effect env pre) (fun _ _ => .power)
  | treasury call =>
    exact wp_then (call.exec_moved env) (fun _ _ => .treasury call)
  | proposal call =>
    exact wp_then (call.exec_effect env) (fun _ _ => .proposal)
  | timelock call =>
    exact wp_then (call.exec_effect env) (fun _ _ => .timelock)
  | quadratic call =>
    exact wp_then (call.exec_effect env) (fun _ _ => .quadratic)
  | reputationVote proposalId voter voteType reputationScore =>
    simp only [exec, wp_bind, wp_initialized]
    intro _
    exact wp_then
      (castReputationWeightedVote_spec env proposalId voter voteType reputationScore)
      (fun _ _ => .reputationVote reputationScore)

end Effects

theorem GovTransition.cases (ledger : Ledger GovStore) (input : GovernanceInput) :
    (GovTransition.Returned ⟨ledger, input, governanceStep input ledger⟩ ∧
      GovernanceEffect (ledger.env input.arrival) ledger.store input.call
        (governanceStep input ledger).store) ∨
    (¬ GovTransition.Returned ⟨ledger, input, governanceStep input ledger⟩ ∧
      (governanceStep input ledger).store = ledger.store) := by
  by_cases returns : Accepts (input.call.exec (ledger.env input.arrival)) ledger.store
  · obtain ⟨value, gave⟩ := gave_of_accepts returns
    exact .inl ⟨returns, wp_ok (input.call.exec_effect _) gave⟩
  · exact .inr ⟨returns, invoke_of_rejected returns⟩

/-!
## Outcomes of proposals

Finalizing, executing, queueing and cancelling a proposal decide its outcome. They change its status
and the time of its execution and may run its action.
-/

/-- A proposal without its outcome. -/
def Proposal.undecided (proposal : Proposal) : Proposal :=
  { proposal with
    status := .pending
    executedAt := none }

/-- At most outcomes of proposals changed, besides what deposits and quadratic ballots do not
read. -/
structure Redecided (pre after : GovStore) : Prop where
  deposits : after.deposits = pre.deposits
  quadratic : after.quadratic = pre.quadratic
  proposals : ∀ proposalId, (after.proposal proposalId).map Proposal.undecided =
    (pre.proposal proposalId).map Proposal.undecided

namespace Redecided

variable {pre middle after : GovStore}

theorem refl (store : GovStore) : Redecided store store :=
  ⟨rfl, rfl, fun _ => rfl⟩

theorem trans (first : Redecided pre middle) (second : Redecided middle after) :
    Redecided pre after :=
  ⟨second.deposits.trans first.deposits, second.quadratic.trans first.quadratic,
    fun proposalId => (second.proposals proposalId).trans (first.proposals proposalId)⟩

theorem putProposal {proposalId : Nat} {proposal : Proposal} (written : Proposal)
    (has : pre.proposal proposalId = some proposal)
    (same : written.undecided = proposal.undecided) :
    Redecided pre (pre.putProposal proposalId written) := by
  refine ⟨rfl, rfl, fun other => ?_⟩
  rw [GovStore.proposal_putProposal]
  split
  next here => rw [here, has, Option.map_some, Option.map_some, same]
  next => rfl

end Redecided

section Effects

variable {env : Env} {pre after : GovStore} {proposalType : ProposalType}

theorem ActionRan.redecided (ran : ActionRan proposalType pre after) : Redecided pre after := by
  cases ran
  exact ⟨rfl, rfl, fun _ => rfl⟩

theorem ActionStopped.redecided (stopped : ActionStopped proposalType pre after) :
    Redecided pre after := by
  cases stopped with
  | untouched => exact .refl pre
  | uncredited => exact ⟨rfl, rfl, fun _ => rfl⟩

theorem Executed.redecided {proposalId : Nat} (executed : Executed env pre proposalId after) :
    Redecided pre after := by
  obtain ⟨has, approved, timely, ran⟩ := executed
  exact ran.redecided.trans (.putProposal _ ((ran.proposal proposalId).trans has) rfl)

theorem Finalized.redecided {proposalId : Nat}
    (finalized : Finalized env pre proposalId after) : Redecided pre after := by
  cases finalized with
  | failed has isOpen => exact .putProposal _ has rfl
  | succeeded has isOpen passes stopped =>
    refine Redecided.trans (.putProposal _ has ?_) stopped.redecided
    rfl
  | executed has isOpen passes executed =>
    refine Redecided.trans (.putProposal _ has ?_) executed.redecided
    rfl

theorem QueuedRan.redecided {actionId : Nat} (ran : QueuedRan env pre actionId after) :
    Redecided pre after := by
  obtain @⟨_, proposal, _, queued, has, acted, timelock⟩ := ran
  have waiting := (acted.proposal _).trans has
  have written := Redecided.putProposal (proposal.executed env.timestamp) waiting rfl
  exact acted.redecided.trans ⟨rfl, rfl, written.proposals⟩

theorem TimelockEffect.redecided {call : TimelockCall}
    (effect : TimelockEffect env pre call after) : Redecided pre after := by
  cases effect with
  | setUp | queue => exact ⟨rfl, rfl, fun _ => rfl⟩
  | execute executes ran => exact ran.redecided
  | @cancelQueued _ _ _ proposal queued has timelock =>
    have written := Redecided.putProposal { proposal with status := .cancelled } has rfl
    exact ⟨rfl, rfl, written.proposals⟩

theorem SettingsEffect.redecided {call : SettingsCall}
    (effect : SettingsEffect env pre call after) : Redecided pre after := by
  cases effect <;> exact ⟨rfl, rfl, fun _ => rfl⟩

theorem PowerEffect.redecided {call : PowerCall} (effect : PowerEffect env pre call after) :
    Redecided pre after := by
  obtain ⟨tokens, delegation⟩ := effect.moved
  exact ⟨rfl, rfl, fun _ => rfl⟩

theorem TreasuryMoved.redecided (moved : TreasuryMoved pre after) : Redecided pre after := by
  obtain ⟨treasury, adminActions, window, timelock⟩ := moved
  exact ⟨rfl, rfl, fun _ => rfl⟩

end Effects

end StellarSwipe.Governance
