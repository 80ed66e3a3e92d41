import StellarSwipe.Governance.ContractEffects

/-!
# Actions of proposals run at most once

An action can be run by executing its proposal, by finalizing it without a delay, and by the
timelock, which looks at its own record only.
-/

namespace StellarSwipe.Governance

open FixedWidth Program Runs OneShot GovernanceCall GovStore

/-- The proposal whose action a returning call ran. -/
def GovernanceCall.actsOn (call : GovernanceCall) (pre after : GovStore) : Option Nat :=
  match call with
  | .proposal (.execute proposalId _) => some proposalId
  | .proposal (.finalize proposalId) =>
    if (∃ proposal ∈ after.proposal proposalId, proposal.status = .executed) ∨
        after.treasury.assets.entries ≠ pre.treasury.assets.entries then some proposalId
    else none
  | .timelock call => (call.executes.bind pre.queuedAction).map QueuedAction.proposalId
  | _ => none

namespace GovTransition

variable (taken : GovTransition) (proposalId : Nat)

/-- The transition ran the action of a proposal. -/
def Acts : Prop :=
  taken.Returned ∧
    taken.input.call.actsOn taken.pre.store taken.after.store = some proposalId
deriving Decidable

/-- The transition finalized a proposal whose votes reached the quorum and the approval. -/
def Passed : Prop :=
  taken.Returned ∧ taken.input.call = .proposal (.finalize proposalId) ∧
    Passes taken.pre.store proposalId

/-- The proposal was neither cancelled nor past its deadline when the call arrived. -/
def InTime : Prop :=
  ∃ proposal, taken.pre.store.proposal proposalId = some proposal ∧
    proposal.status ≠ .cancelled ∧ taken.now ≤ proposal.executionDeadline

end GovTransition

/-- What holds of a proposal's action along a run: it ran at most once, and only after
the proposal passed, not cancelled and not past its deadline. -/
structure ActionLaw (past : List GovTransition) (proposalId : Nat) : Prop where
  once : past.countP (fun taken => taken.Acts proposalId) ≤ 1
  sanctioned : ∀ prior taken later, past = prior ++ taken :: later → taken.Acts proposalId →
    (∃ passing ∈ prior ++ [taken], passing.Passed proposalId) ∧ taken.InTime proposalId

/-- The condition on a step: the timelock executes an action only while its proposal
waits for execution before the deadline, finalizing finds a recipient that can be
credited, and a new proposal takes an unused id. -/
def ActionGuard (ledger : Ledger GovStore) (input : GovernanceInput) : Prop :=
  match input.call with
  | .proposal (.create _ _ _ _ _ _ _) =>
    ledger.store.proposal ledger.store.proposals.nextProposalId = none
  | .proposal (.finalize proposalId) => ∀ proposal ∈ ledger.store.proposal proposalId,
    ledger.store.CreditsRecipient proposal.proposalType
  | .timelock call => ∀ action ∈ call.executes.bind ledger.store.queuedAction,
    ∀ proposal ∈ ledger.store.proposal action.proposalId, proposal.status = .succeeded ∧
      (ledger.env input.arrival).timestamp ≤ proposal.executionDeadline
  | _ => True

instance (ledger : Ledger GovStore) (input : GovernanceInput) :
    Decidable (ActionGuard ledger input) := by
  unfold ActionGuard
  obtain ⟨_, call⟩ := input
  cases call <;> first
    | infer_instance
    | rename_i call; cases call <;> infer_instance

/-- A proposal whose action ran, or never will. -/
def Spent (store : GovStore) (proposalId : Nat) : Prop :=
  ∃ proposal, store.proposal proposalId = some proposal ∧
    (proposal.status = .executed ∨ proposal.status = .cancelled)

inductive ActionStep (taken : GovTransition) (proposalId : Nat) : Prop where
  /-- The proposal stays as it is. -/
  | kept (idle : ¬ taken.Acts proposalId)
      (same : taken.after.store.proposal proposalId = taken.pre.store.proposal proposalId)
  /-- The proposal is made, voted on or fails. -/
  | pending {proposal : Proposal} (idle : ¬ taken.Acts proposalId)
      (isOpen : ∀ prior, taken.pre.store.proposal proposalId = some prior → prior.IsOpen)
      (has : taken.after.store.proposal proposalId = some proposal)
      (unapproved : proposal.status ≠ .succeeded)
  /-- The proposal succeeds. -/
  | passed {proposal : Proposal} (idle : ¬ taken.Acts proposalId)
      (has : taken.pre.store.proposal proposalId = some proposal)
      (isOpen : proposal.IsOpen) (passed : taken.Passed proposalId)
  /-- The proposal is called off. -/
  | cancelled {proposal : Proposal} (idle : ¬ taken.Acts proposalId)
      (has : taken.after.store.proposal proposalId = some proposal)
      (cancelled : proposal.status = .cancelled)
  /-- The action runs. -/
  | acted {proposal executed : Proposal}
      (has : taken.pre.store.proposal proposalId = some proposal)
      (sanctioned : proposal.status = .succeeded ∨ proposal.IsOpen ∧ taken.Passed proposalId)
      (timely : taken.now ≤ proposal.executionDeadline)
      (written : taken.after.store.proposal proposalId = some executed)
      (marked : executed.status = .executed)

/-- The law of a proposal's action with the state that carries it: an action that ran
left its proposal spent, and a proposal that succeeded passed. -/
structure ActionHistory (past : List GovTransition) (store : GovStore)
    (proposalId : Nat) : Prop where
  once : Once (fun taken : GovTransition => taken.Acts proposalId)
    (Spent store proposalId) past
  sanctioned : ∀ prior taken later, past = prior ++ taken :: later → taken.Acts proposalId →
    (∃ passing ∈ prior ++ [taken], passing.Passed proposalId) ∧ taken.InTime proposalId
  approved : ∀ proposal, store.proposal proposalId = some proposal →
    proposal.status = .succeeded → ∃ passing ∈ past, passing.Passed proposalId

section Law

variable {past : List GovTransition} {taken : GovTransition} {proposalId : Nat}

theorem not_spent {store : GovStore} {proposal : Proposal}
    (has : store.proposal proposalId = some proposal)
    (live : proposal.status = .succeeded ∨ proposal.IsOpen) : ¬ Spent store proposalId := by
  rintro ⟨hit, lookup, spent⟩
  rw [has, Option.some.injEq] at lookup
  subst lookup
  simp only [Proposal.IsOpen] at live
  rcases spent with spent | spent <;> simp [spent] at live

theorem ActionHistory.sanctioned_idle (history : ActionHistory past taken.pre.store proposalId)
    (idle : ¬ taken.Acts proposalId) :
    ∀ prior placed later, past ++ [taken] = prior ++ placed :: later → placed.Acts proposalId →
      (∃ passing ∈ prior ++ [placed], passing.Passed proposalId) ∧ placed.InTime proposalId := by
  intro prior placed later placing acts
  rcases place_concat placing with ⟨rfl, rfl, rfl⟩ | ⟨rest, rfl, inside⟩
  · exact absurd acts idle
  · exact history.sanctioned prior placed rest inside acts

theorem ActionHistory.step (history : ActionHistory past taken.pre.store proposalId)
    (step : ActionStep taken proposalId) :
    ActionHistory (past ++ [taken]) taken.after.store proposalId := by
  have recalled : (∃ passing ∈ past, passing.Passed proposalId) →
      ∃ passing ∈ past ++ [taken], passing.Passed proposalId := by
    rintro ⟨passing, mem, passed⟩
    exact ⟨passing, List.mem_append_left _ mem, passed⟩
  have latest : taken.Passed proposalId →
      ∃ passing ∈ past ++ [taken], passing.Passed proposalId := fun passed =>
    ⟨taken, List.mem_append_right _ (List.mem_singleton_self taken), passed⟩
  cases step with
  | kept idle same =>
    constructor
    · apply history.once.concat (fun acts => absurd acts idle) fun acts => absurd acts idle
      rintro ⟨proposal, has, spent⟩
      exact ⟨proposal, same.trans has, spent⟩
    · exact history.sanctioned_idle idle
    · intro proposal has succeeded
      exact recalled (history.approved proposal (same.symm.trans has) succeeded)
  | pending idle isOpen has unapproved =>
    constructor
    · apply history.once.concat (fun acts => absurd acts idle) fun acts => absurd acts idle
      rintro ⟨prior, hit, spent⟩
      exact absurd ⟨prior, hit, spent⟩ (not_spent hit (.inr (isOpen prior hit)))
    · exact history.sanctioned_idle idle
    · intro proposal hit succeeded
      rw [has, Option.some.injEq] at hit
      exact absurd (hit ▸ succeeded) unapproved
  | passed idle has isOpen passed =>
    constructor
    · apply history.once.concat (fun acts => absurd acts idle) fun acts => absurd acts idle
      exact fun spent => absurd spent (not_spent has (.inr isOpen))
    · exact history.sanctioned_idle idle
    · exact fun _ _ _ => latest passed
  | @cancelled proposal idle has cancelled =>
    constructor
    · apply history.once.concat (fun acts => absurd acts idle) fun acts => absurd acts idle
      exact fun _ => ⟨proposal, has, .inr cancelled⟩
    · exact history.sanctioned_idle idle
    · intro hit lookup succeeded
      rw [has, Option.some.injEq] at lookup
      rw [← lookup, cancelled] at succeeded
      cases succeeded
  | @acted proposal executed has sanctioned timely written marked =>
    have passing : ∃ passing ∈ past ++ [taken], passing.Passed proposalId := by
      rcases sanctioned with succeeded | ⟨_, passed⟩
      · exact recalled (history.approved proposal has succeeded)
      · exact latest passed
    have live : proposal.status = .succeeded ∨ proposal.IsOpen := sanctioned.imp_right And.left
    have uncancelled : proposal.status ≠ .cancelled := by
      intro cancelled
      exact not_spent has live ⟨proposal, has, .inr cancelled⟩
    have spent : Spent taken.after.store proposalId := ⟨executed, written, .inl marked⟩
    constructor
    · exact history.once.concat (fun _ => not_spent has live) (fun _ => spent) fun _ => spent
    · intro prior placed later placing acts
      rcases place_concat placing with ⟨rfl, rfl, rfl⟩ | ⟨rest, rfl, inside⟩
      · exact ⟨passing, proposal, has, uncancelled, timely⟩
      · exact history.sanctioned prior placed rest inside acts
    · exact fun _ _ _ => passing

end Law

section Steps

variable {taken : GovTransition} {proposalId : Nat}

theorem GovTransition.idle
    (none : taken.input.call.actsOn taken.pre.store taken.after.store ≠ some proposalId) :
    ¬ taken.Acts proposalId :=
  fun acts => none acts.2

theorem finalize_actsOn {pre after : GovStore} {finalized other : Nat}
    (different : other ≠ finalized) :
    actsOn (.proposal (.finalize finalized)) pre after ≠ some other := by
  simp only [actsOn]
  split
  · exact fun same => different (Option.some.inj same).symm
  · exact nofun

theorem ActionStep.voted {voted : Nat} {proposal counted : Proposal}
    (idle : ¬ taken.Acts proposalId)
    (has : taken.pre.store.proposal voted = some proposal) (isOpen : proposal.IsOpen)
    (written : ∀ other, taken.after.store.proposal other =
      if other = voted then some counted else taken.pre.store.proposal other)
    (status : counted.status = .active) : ActionStep taken proposalId := by
  by_cases same : proposalId = voted
  · subst same
    refine .pending idle (fun prior hit => ?_) ((written proposalId).trans (if_pos rfl)) ?_
    · rw [has, Option.some.injEq] at hit
      exact hit ▸ isOpen
    · rw [status]
      exact ProposalStatus.noConfusion
  · exact .kept idle ((written proposalId).trans (if_neg same))

theorem ActionStep.made {made : Nat} {proposal : Proposal} (idle : ¬ taken.Acts proposalId)
    (unused : taken.pre.store.proposal made = none)
    (written : ∀ other, taken.after.store.proposal other =
      if other = made then some proposal else taken.pre.store.proposal other)
    (pending : proposal.status = .pending) : ActionStep taken proposalId := by
  by_cases same : proposalId = made
  · subst same
    refine .pending idle (fun prior hit => ?_) ((written proposalId).trans (if_pos rfl)) ?_
    · rw [unused] at hit
      cases hit
    · rw [pending]
      exact ProposalStatus.noConfusion
  · exact .kept idle ((written proposalId).trans (if_neg same))

theorem ActionStep.calledOff {cancelled : Nat} {proposal : Proposal}
    (idle : ¬ taken.Acts proposalId) (written : ∀ other, taken.after.store.proposal other =
      if other = cancelled then some proposal else taken.pre.store.proposal other)
    (status : proposal.status = .cancelled) : ActionStep taken proposalId := by
  by_cases same : proposalId = cancelled
  · subst same
    exact .cancelled idle ((written proposalId).trans (if_pos rfl)) status
  · exact .kept idle ((written proposalId).trans (if_neg same))

theorem ActionStep.ran {acted : Nat} {proposal executed : Proposal}
    (actsOn : taken.input.call.actsOn taken.pre.store taken.after.store = some acted)
    (has : taken.pre.store.proposal acted = some proposal)
    (sanctioned : proposal.status = .succeeded ∨ proposal.IsOpen ∧ taken.Passed acted)
    (timely : taken.now ≤ proposal.executionDeadline)
    (written : ∀ other, taken.after.store.proposal other =
      if other = acted then some executed else taken.pre.store.proposal other)
    (marked : executed.status = .executed) : ActionStep taken proposalId := by
  by_cases same : proposalId = acted
  · subst same
    exact .acted has sanctioned timely ((written proposalId).trans (if_pos rfl)) marked
  · refine .kept (GovTransition.idle fun acts => ?_) ((written proposalId).trans (if_neg same))
    rw [actsOn] at acts
    exact same (Option.some.inj acts).symm

/-- The outcomes of finalizing: the proposal fails, succeeds, or is executed at once. -/
theorem Finalized.actionStep {finalized : Nat} {middle : GovStore}
    (called : taken.input.call = .proposal (.finalize finalized)) (gave : taken.Returned)
    (guard : ActionGuard taken.pre taken.input)
    (outcome : Finalized (taken.pre.env taken.input.arrival) taken.pre.store finalized middle)
    (board : ∀ other, taken.after.store.proposal other = middle.proposal other)
    (assets : taken.after.store.treasury.assets = middle.treasury.assets) :
    ActionStep taken proposalId := by
  simp only [ActionGuard, called] at guard
  -- Elsewhere than at its own proposal it changes nothing.
  have elsewhere : proposalId ≠ finalized →
      taken.after.store.proposal proposalId = taken.pre.store.proposal proposalId →
      ActionStep taken proposalId := by
    intro different same
    refine .kept (GovTransition.idle ?_) same
    rw [called]
    exact finalize_actsOn different
  -- Without an execution its own proposal is not acted on.
  have inert : ∀ proposal, taken.after.store.proposal finalized = some proposal →
      proposal.status ≠ .executed →
      taken.after.store.treasury.assets = taken.pre.store.treasury.assets →
      ¬ taken.Acts finalized := by
    intro proposal has unexecuted same
    apply GovTransition.idle
    rw [called]
    simp [actsOn, has, unexecuted, same]
  by_cases own : proposalId = finalized
  · subst own
    cases outcome with
    | failed has isOpen =>
      have written := (board proposalId).trans
        ((proposal_putProposal _ _ _ _).trans (if_pos rfl))
      refine .pending (inert _ written nofun assets) (fun prior hit => ?_) written nofun
      rw [has, Option.some.injEq] at hit
      exact hit ▸ isOpen
    | succeeded has isOpen passes stopped =>
      cases stopped with
      | untouched =>
        have written := (board proposalId).trans
          ((proposal_putProposal _ _ _ _).trans (if_pos rfl))
        exact .passed (inert _ written nofun assets) has isOpen ⟨gave, called, passes⟩
      | uncredited changed spends refused => exact absurd (guard _ has) refused
    | @executed proposal _ has isOpen passes executed =>
      obtain ⟨hit, lookup, _, timely, writes⟩ := executed.written
      rw [proposal_putProposal, if_pos rfl, Option.some.injEq] at lookup
      have written := (board proposalId).trans ((writes proposalId).trans (if_pos rfl))
      subst lookup
      exact .acted has (.inr ⟨isOpen, gave, called, passes⟩) timely written rfl
  · refine elsewhere own ((board proposalId).trans ?_)
    cases outcome with
    | failed has isOpen => rw [proposal_putProposal, if_neg own]
    | succeeded has isOpen passes stopped =>
      rw [stopped.proposal, proposal_putProposal, if_neg own]
    | executed has isOpen passes executed =>
      obtain ⟨_, _, _, _, writes⟩ := executed.written
      rw [writes, if_neg own, proposal_putProposal, if_neg own]

theorem ActionStep.quiet (actsOn : taken.input.call.actsOn taken.pre.store taken.after.store = none)
    (same : taken.after.store.proposal proposalId = taken.pre.store.proposal proposalId) :
    ActionStep taken proposalId := by
  refine .kept (GovTransition.idle fun acts => ?_) same
  rw [actsOn] at acts
  cases acts

variable {after : GovStore}

theorem ProposalEffect.actionStep {call : ProposalCall}
    (called : taken.input.call = .proposal call) (written : taken.after.store = after)
    (gave : taken.Returned) (guard : ActionGuard taken.pre taken.input)
    (effect : ProposalEffect (taken.pre.env taken.input.arrival) taken.pre.store call after) :
    ActionStep taken proposalId := by
  have board : ∀ other, taken.after.store.proposal other = after.proposal other := by
    intro other
    rw [written]
  cases effect with
  | create isNew snapshots staked deposits =>
    refine .made (GovTransition.idle ?_) (by simpa only [ActionGuard, called] using guard)
      (fun other => (board other).trans (Table.lookup_insert _ _ _ _)) isNew.pending
    rw [called]
    exact nofun
  | castVote cast =>
    obtain ⟨admitted, pos, counted⟩ := cast
    refine .voted (GovTransition.idle ?_) admitted.has admitted.isOpen
      (fun other => (board other).trans (proposal_putProposal _ _ _ _))
      admitted.isOpen.activated
    rw [called]
    exact nofun
  | finalize finalized staked deposits =>
    exact finalized.actionStep called gave guard board (by rw [written])
  | execute executed =>
    obtain ⟨proposal, has, approved, timely, writes⟩ := executed.written
    refine .ran ?_ has (.inl approved) timely (fun other => (board other).trans (writes other))
      rfl
    rw [called]
    rfl
  | cancel has unexecuted =>
    refine .calledOff (GovTransition.idle ?_)
      (fun other => (board other).trans (proposal_putProposal _ _ _ _)) rfl
    rw [called]
    exact nofun

theorem TimelockEffect.actionStep {call : TimelockCall}
    (called : taken.input.call = .timelock call) (written : taken.after.store = after)
    (guard : ActionGuard taken.pre taken.input)
    (effect : TimelockEffect (taken.pre.env taken.input.arrival) taken.pre.store call after) :
    ActionStep taken proposalId := by
  have board : ∀ other, taken.after.store.proposal other = after.proposal other := by
    intro other
    rw [written]
  simp only [ActionGuard, called] at guard
  cases effect with
  | setUp admin minDelay maxDelay guardian timelock access =>
    exact .quiet (by rw [called]; rfl) (board proposalId)
  | queue has approved timelock =>
    exact .quiet (by rw [called]; rfl) (board proposalId)
  | execute executes ran =>
    obtain ⟨action, proposal, queued, has, writes⟩ := ran.written
    have hit : call.executes.bind taken.pre.store.queuedAction = some action := by
      rw [executes, Option.bind_some, queued]
    obtain ⟨approved, timely⟩ := guard action hit proposal has
    refine .ran ?_ has (.inl approved) timely (fun other => (board other).trans (writes other))
      rfl
    rw [called]
    simp only [actsOn, hit, Option.map_some]
  | cancelQueued queued has timelock =>
    refine .calledOff (GovTransition.idle ?_)
      (fun other => (board other).trans (proposal_putProposal _ _ _ _)) rfl
    rw [called]
    exact nofun

theorem QuadraticEffect.actionStep {call : QuadraticCall}
    (called : taken.input.call = .quadratic call) (written : taken.after.store = after)
    (effect : QuadraticEffect (taken.pre.env taken.input.arrival) taken.pre.store call
      after) : ActionStep taken proposalId := by
  have board : ∀ other, taken.after.store.proposal other = after.proposal other := by
    intro other
    rw [written]
  have actsOn : taken.input.call.actsOn taken.pre.store taken.after.store = none := by
    rw [called]
    rfl
  have idle : ¬ taken.Acts proposalId := by
    apply GovTransition.idle
    rw [actsOn]
    exact nofun
  cases effect with
  | configure | allocate | verify | verifyWithBonus | refund =>
    exact .quiet actsOn (board proposalId)
  | cast cast =>
    obtain ⟨proposal, has, isOpen, writes⟩ := cast.written
    exact .voted idle has isOpen (fun other => (board other).trans (writes other))
      isOpen.activated
  | @reallocate voted voter votes voteType proposal previous credits _ has recorded credited cast =>
    obtain ⟨counted, lookup, isOpen, writes⟩ := cast.written
    rw [proposal_takeBack, if_pos rfl, Option.some.injEq] at lookup
    have wasOpen : proposal.IsOpen := by
      simpa only [Proposal.IsOpen, ← lookup, Proposal.tallied_status] using isOpen
    have merged : ∀ other, taken.after.store.proposal other = if other = voted then
        some (counted.withBallot voteType fun tally => i128.saturatingAdd tally votes)
        else taken.pre.store.proposal other := by
      intro other
      rw [board, writes, proposal_takeBack]
      split <;> rfl
    exact .voted idle has wasOpen merged isOpen.activated

theorem GovernanceEffect.actionStep
    (written : taken.after.store = after) (gave : taken.Returned)
    (guard : ActionGuard taken.pre taken.input)
    (effect : GovernanceEffect (taken.pre.env taken.input.arrival) taken.pre.store
      taken.input.call after) : ActionStep taken proposalId := by
  obtain ⟨pre, ⟨arrival, call⟩, final⟩ := taken
  cases effect with
  | settings effect =>
    cases effect <;> exact .quiet rfl (congrArg (fun store => store.proposal proposalId) written)
  | power effect =>
    cases effect.moved
    exact .quiet rfl (congrArg (fun store => store.proposal proposalId) written)
  | treasury call effect =>
    cases effect
    exact .quiet rfl (congrArg (fun store => store.proposal proposalId) written)
  | proposal effect => exact effect.actionStep rfl written gave guard
  | timelock effect => exact effect.actionStep rfl written guard
  | quadratic effect => exact effect.actionStep rfl written
  | reputationVote reputationScore effect =>
    obtain ⟨admitted, nonneg⟩ := effect
    refine .voted (GovTransition.idle nofun) admitted.has admitted.isOpen
      (fun other => (congrArg (fun store => store.proposal other) written).trans
        (proposal_putProposal _ _ _ _)) admitted.isOpen.activated

end Steps

theorem step_actionHistory {past : List GovTransition} {ledger : Ledger GovStore}
    {input : GovernanceInput} {proposalId : Nat} (guard : ActionGuard ledger input)
    (history : ActionHistory past ledger.store proposalId) :
    ActionHistory (past ++ [⟨ledger, input, governanceStep input ledger⟩])
      (governanceStep input ledger).store proposalId := by
  have step : ActionStep ⟨ledger, input, governanceStep input ledger⟩ proposalId := by
    rcases GovTransition.cases ledger input with ⟨gave, effect⟩ | ⟨rejected, same⟩
    · exact effect.actionStep rfl gave guard
    · refine .kept (fun acts => rejected acts.1) ?_
      rw [same]
  exact history.step step

/-- Along every run whose steps meet the guard, the action of every proposal runs at most
once, after the proposal passed, not cancelled and not past its deadline. -/
theorem proposal_actions_run_once (admin : Address) (balances : Table Address Int)
    (holders : List Address) (totalSupply : Int) (timestamp sequence : Nat)
    (inputs : List GovernanceInput) (guarded : ∀ taken ∈ trace governanceStep
      (governanceStart admin balances holders totalSupply timestamp sequence) inputs,
      ActionGuard taken.pre taken.input) (proposalId : Nat) : ActionLaw (trace governanceStep
      (governanceStart admin balances holders totalSupply timestamp sequence) inputs) proposalId := by
  have initially : ActionHistory []
      (governanceStart admin balances holders totalSupply timestamp sequence).store proposalId := by
    refine ⟨.nil, fun prior taken later placing => ?_, fun proposal has => ?_⟩
    · simp at placing
    · cases has
  have history := history_invariant governanceStep
    (fun past ledger => ActionHistory past ledger.store proposalId) ActionGuard
    (fun past ledger input guard history => step_actionHistory guard history)
    (governanceStart admin balances holders totalSupply timestamp sequence) initially inputs guarded
  exact ⟨history.once.once, history.sanctioned⟩

section Runs

def lumens : Asset := ⟨"XLM", none⟩

/-- One holder with five thousand tokens. -/
def oneHolder : Ledger GovStore := governanceStart 9 (AList.insert 1 5000 ∅) [1] 5000 0 0

/-- A stake, a delay for executions, a funded treasury and a timelock, then a grant that is
voted for, finalized and queued. -/
def queuedGrant : List GovernanceInput :=
  [⟨⟨0, 0, [1]⟩, .power (.stake 1 (amountOf 2000))⟩, ⟨⟨0, 0, [9]⟩, .settings
      (.configure .direct 9 { GovernanceConfig.default with executionDelay := 1 })⟩,
    ⟨⟨0, 0, [9]⟩, .treasury (.setAsset .direct 9 lumens (amountOf 1000))⟩,
    ⟨⟨0, 0, [9]⟩, .timelock (.setUp 9 3600 604800 9)⟩,
    ⟨⟨0, 0, [1]⟩, .proposal (.create 1 (.treasurySpend 2 10 lumens "grant") "Grant" "A grant" []
      .treasuryTransfer false)⟩,
    ⟨⟨60, 0, [1]⟩, .proposal (.castVote 1 1 .for)⟩,
    ⟨⟨604800, 0, []⟩, .proposal (.finalize 1)⟩,
    ⟨⟨0, 0, []⟩, .timelock (.queue 1)⟩]

def executedGrant : List GovernanceInput :=
  queuedGrant ++ [⟨⟨172800, 0, [3]⟩, .timelock (.executeQueued 1 3)⟩]

def grantPaidTwice : List GovernanceInput :=
  queuedGrant ++ [⟨⟨1, 0, [3]⟩, .proposal (.execute 1 3)⟩,
    ⟨⟨172800, 0, [3]⟩, .timelock (.executeQueued 1 3)⟩]

theorem executedGrant_once : ActionLaw (trace governanceStep oneHolder executedGrant) 1 :=
  proposal_actions_run_once 9 (AList.insert 1 5000 ∅) [1] 5000 0 0 executedGrant (by decide) 1

/-- The timelock pays a grant that was paid already. -/
theorem queued_grant_pays_twice :
    ¬ ∀ (admin : Address) (balances : Table Address Int) (holders : List Address)
        (totalSupply : Int) (timestamp sequence : Nat) (inputs : List GovernanceInput)
        (proposalId : Nat), ActionLaw (trace governanceStep
          (governanceStart admin balances holders totalSupply timestamp sequence) inputs)
          proposalId := by
  intro every
  have law : ActionLaw (trace governanceStep oneHolder grantPaidTwice) 1 :=
    every 9 (AList.insert 1 5000 ∅) [1] 5000 0 0 grantPaidTwice 1
  have twice : ¬ (trace governanceStep oneHolder grantPaidTwice).countP
      (fun taken : GovTransition => taken.Acts 1) ≤ 1 := by
    decide
  exact twice law.once

end Runs

end StellarSwipe.Governance
