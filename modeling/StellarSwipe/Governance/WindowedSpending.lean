import StellarSwipe.Governance.WindowCap

/-!
# Spending through the window

Only a spend that an administrator calls uses the window up.
-/

namespace StellarSwipe.Governance

open FixedWidth Program Runs GovStore TreasuryCall GovTransition

/-- The payment is made when payments are processed at a time. -/
def RecurringPayment.IsDue (payment : RecurringPayment) (now : Nat) : Prop :=
  payment.active = true ∧ ¬ (∃ date ∈ payment.endDate, date < now) ∧
    satCount u64Max payment.lastPayment payment.frequency ≤ now
deriving Decidable

/-- The condition on a step: while a window is set, payments are processed only when none
is due, and no proposal that spends is finalized or executed. -/
def WindowGuard (ledger : Ledger GovStore) (input : GovernanceInput) : Prop :=
  ledger.store.window.config = none ∨
    match input.call with
    | .treasury (.processRecurring _) =>
      ∀ payment ∈ ledger.store.treasury.recurringPayments,
        ¬ payment.IsDue (ledger.env input.arrival).timestamp
    | .proposal (.finalize proposalId) | .proposal (.execute proposalId _) =>
      ∀ proposal ∈ ledger.store.proposal proposalId, ¬ proposal.proposalType.IsSpend
    | .timelock call => ∀ action ∈ call.executes.bind ledger.store.queuedAction,
      ∀ proposal ∈ ledger.store.proposal action.proposalId, ¬ proposal.proposalType.IsSpend
    | _ => True

instance (ledger : Ledger GovStore) (input : GovernanceInput) :
    Decidable (WindowGuard ledger input) := by
  unfold WindowGuard
  obtain ⟨_, call⟩ := input
  rcases call with _ | _ <;> first
    | infer_instance
    | rename_i call; rcases call with _ | _ <;> infer_instance

section Treasury

variable {treasury : Treasury}

theorem renewBudgetIfNeeded_leaves (budget : Budget) (now : Nat) :
    wlp (renewBudgetIfNeeded budget now) (fun _ after => after = treasury) treasury := by
  simp only [renewBudgetIfNeeded, wp_ite, wp_rules, implies_true, and_self]

theorem executeSpend_assets (recipient : Address) (amount : Int) (asset : Asset)
    (category purpose : String) (approvedByProposal : Option Nat) (executedAt : Nat) :
    wlp (executeSpend recipient amount asset category purpose approvedByProposal executedAt)
      (fun _ after => ∀ other, Table.read treasury.assets other - Table.read after.assets other =
        if other = asset then amount else 0) treasury := by
  simp only [executeSpend, wp_bind, wp_ensure, wp_orFail, wp_get, implies_true, and_true]
  intro _ _ has _
  refine wp_then (renewBudgetIfNeeded_leaves has executedAt) ?_
  rintro budget _ rfl
  simp only [wp_ofExcept, wp_modify, wp_pure, implies_true, and_true]
  intro _ approval _ drawn _ _ _ spent _ remaining _ balance lowered other
  rw [(checkedSub_ok lowered).2, Table.read_insert]
  split
  next same =>
    rw [same]
    omega
  next => omega

/-- Processing moves no asset while no payment is due. A payment that is switched off is not
due either. The induction is on the number of payments still to go through. -/
theorem processPayments_idle {now : Nat}
    (idle : ∀ payment ∈ treasury.recurringPayments, ¬ payment.IsDue now)
    (remaining index processed : Nat) : wlp (processPayments now remaining index processed)
      (fun _ after => after.assets = treasury.assets) treasury := by
  induction remaining generalizing treasury index processed with
  | zero => rfl
  | succ remaining ih =>
    simp only [processPayments, wp_rules]
    cases listed : treasury.recurringPayments[index]? with
    | none => trivial
    | some payment =>
      simp only [wp_ite, wp_rules, putPayment]
      refine ⟨fun _ => ih idle _ _, fun active => ⟨fun _ => ?_,
        fun lasting => ⟨fun due => ?_, fun _ => ih idle _ _⟩⟩⟩
      · refine ih ?_ _ _
        intro other mem
        rcases List.mem_or_eq_of_mem_set mem with prior | rfl
        · exact idle other prior
        · exact fun isDue => Bool.false_ne_true isDue.1
      · have isDue : payment.IsDue now := ⟨Bool.not_eq_false _ ▸ active, lasting, due⟩
        exact absurd isDue (idle payment (List.mem_of_getElem? listed))

end Treasury

/-- The window is not used, and assets move only where a proposal may spend. -/
structure Unmetered (spends : Prop) (pre after : GovStore) : Prop where
  window : after.window = pre.window
  assets : ¬ spends → after.treasury.assets = pre.treasury.assets

section Proposals

variable {env : Env} {pre after : GovStore} {proposalType : ProposalType}

theorem ActionRan.unmetered (ran : ActionRan proposalType pre after) :
    Unmetered proposalType.IsSpend pre after := by
  obtain ⟨registry, staked, unspent⟩ := ran
  exact ⟨rfl, unspent⟩

theorem ActionStopped.unmetered (stopped : ActionStopped proposalType pre after) :
    Unmetered proposalType.IsSpend pre after := by
  cases stopped with
  | untouched => exact ⟨rfl, fun _ => rfl⟩
  | uncredited assets spends refused => exact ⟨rfl, fun unspent => absurd spends unspent⟩

theorem Executed.unmetered {proposalId : Nat} (executed : Executed env pre proposalId after) :
    ∃ proposal, pre.proposal proposalId = some proposal ∧
      Unmetered proposal.proposalType.IsSpend pre after := by
  obtain ⟨has, approved, timely, ran⟩ := executed
  exact ⟨_, has, ran.unmetered.window, ran.unmetered.assets⟩

theorem Finalized.unmetered {proposalId : Nat} (finalized : Finalized env pre proposalId after) :
    ∃ proposal, pre.proposal proposalId = some proposal ∧
      Unmetered proposal.proposalType.IsSpend pre after := by
  cases finalized with
  | failed has isOpen => exact ⟨_, has, rfl, fun _ => rfl⟩
  | succeeded has isOpen passes stopped =>
    exact ⟨_, has, stopped.unmetered.window, stopped.unmetered.assets⟩
  | executed has isOpen passes executed =>
    obtain ⟨proposal, hit, unmetered⟩ := executed.unmetered
    rw [proposal_putProposal, if_pos rfl, Option.some.injEq] at hit
    subst hit
    exact ⟨_, has, unmetered.window, unmetered.assets⟩

theorem QueuedRan.unmetered {actionId : Nat} (ran : QueuedRan env pre actionId after) :
    ∃ action proposal, pre.queuedAction actionId = some action ∧
      pre.proposal action.proposalId = some proposal ∧
      Unmetered proposal.proposalType.IsSpend pre after := by
  obtain ⟨queued, has, acted, timelock⟩ := ran
  exact ⟨_, _, queued, has, acted.unmetered.window, acted.unmetered.assets⟩

end Proposals

section Treasuries

variable {env : Env} {pre : GovStore}

theorem onTreasury_window {α : Type} (program : TreasuryProgram α) :
    wp (onTreasury program) (fun _ after => after.window = pre.window) (fun _ _ => True) pre := by
  rw [wp_onTreasury]
  exact (wp_iff _).mpr ⟨fun _ _ _ => rfl, fun _ _ _ => trivial⟩

/-- The window stays where nothing is spent through it, and the assets stay too where no
payment is due. -/
theorem TreasuryCall.exec_unmetered (call : TreasuryCall)
    (unmetered : ∀ route admin recipient amount asset category purpose approvedByProposal,
      call ≠ .spend route admin recipient amount asset category purpose approvedByProposal) :
    wp (call.exec env) (fun _ after => after.window = pre.window ∧
      (∀ admin, call = .processRecurring admin →
        (∀ payment ∈ pre.treasury.recurringPayments, ¬ payment.IsDue env.timestamp) →
        after.treasury.assets = pre.treasury.assets)) (fun _ _ => True) pre := by
  cases call with
  | setAsset | createBudget | approveBudget | createRecurring =>
    simp only [exec, wp_rules]
    refine Route.enter_rule fun adminActions => ?_
    refine wp_then (onTreasury_window _) ?_
    exact fun _ after same => ⟨same, fun _ other => by cases other⟩
  | spend => exact absurd rfl (unmetered _ _ _ _ _ _ _ _)
  | processRecurring admin =>
    simp only [exec, wp_rules, wp_requireAdmin]
    intro _ _ _
    rw [wp_onTreasury]
    refine (wp_iff _).mpr ⟨fun _ after gave => ⟨rfl, fun _ _ idle => ?_⟩, fun _ _ _ => trivial⟩
    exact wp_ok (processPayments_idle idle _ 0 0) gave
  | queueAdmin admin actionType =>
    simp only [exec, wp_rules, wp_requireAdmin, queueAdminAction, wp_getTimelock, wp_putTimelock]
    intro _ _ _ timelock _
    exact ⟨rfl, fun _ other => by cases other⟩

/-- A spend that an administrator calls uses the window up, if one is set, before it moves
the asset. -/
theorem TreasuryCall.exec_metered (route : Route) (admin recipient : Address) (amount : Amount)
    (asset : Asset) (category purpose : String) (approvedByProposal : Option Nat) :
    wp ((TreasuryCall.spend route admin recipient amount asset category purpose
        approvedByProposal).exec env) (fun _ after =>
        (pre.window.config = none ∧ after.window = pre.window) ∨
        ∃ config state, pre.window.current env.timestamp = some (config, state) ∧
          0 < amount.val ∧ state.spent + amount ≤ config.cap ∧
          after.window = ⟨some config, some { state with spent := state.spent + amount }⟩ ∧
          ∀ other, Table.read pre.treasury.assets other -
            Table.read after.treasury.assets other ≤ amount)
      (fun _ _ => True) pre := by
  simp only [exec, wp_rules]
  refine Route.enter_rule fun adminActions => ?_
  refine wp_then (consume_spec env amount) ?_
  intro _ middle used
  cases hit : pre.window.current env.timestamp with
  | none =>
    simp only [hit] at used
    subst used
    refine wp_then (onTreasury_window _) (fun _ after same => .inl ⟨?_, same⟩)
    exact Option.map_eq_none_iff.mp hit
  | some window =>
    obtain ⟨config, state⟩ := window
    simp only [hit] at used
    obtain ⟨pos, within, rfl⟩ := used
    have configured : pre.window.config = some config := by
      obtain ⟨has, isStored, same⟩ := Option.map_eq_some_iff.mp hit
      rw [isStored, (Prod.mk.inj same).1]
    rw [wp_onTreasury]
    refine wp_then (executeSpend_assets recipient amount asset category purpose
      approvedByProposal env.timestamp) ?_
    intro _ after moved
    refine .inr ⟨config, state, rfl, pos, within, ?_, fun other => ?_⟩
    · simp only [putTreasury, configured]
    · simp only [putTreasury, moved]
      split
      · exact le_refl _
      · exact pos.le

end Treasuries

variable {taken : GovTransition}

/-- A step on which nothing goes through the window and nothing may go past it. -/
theorem WindowStep.of_unmetered {spends : Prop}
    (unmetered : Unmetered spends taken.pre.store taken.after.store)
    (free : taken.pre.store.window.config = none ∨ ¬ spends) (keeps : ¬ taken.Resets) :
    WindowStep taken := by
  rcases free with unset | unspent
  · exact .unset unset unmetered.window keeps
  · refine .idle unmetered.window (fun asset => ?_) keeps
    rw [spent, unmetered.assets unspent, Int.sub_self, ite_self]

theorem WindowStep.of_quiet (quiet : ¬ taken.input.call.Spends)
    (same : taken.after.store.window = taken.pre.store.window)
    (keeps : ¬ taken.input.call.SetsWindow) : WindowStep taken := by
  refine .idle same (fun asset => ?_) fun resets => keeps resets.2
  rw [spent, if_neg quiet]

section Steps

variable {ledger : Ledger GovStore} {arrival : Arrival} {store : GovStore}
  {timestamp sequence : Nat}

theorem TreasuryCall.windowStep (call : TreasuryCall)
    (guard : WindowGuard ledger ⟨arrival, .treasury call⟩) : wlp (call.exec (ledger.env arrival))
      (fun _ store => WindowStep ⟨ledger, ⟨arrival, .treasury call⟩,
        ⟨store, timestamp, sequence⟩⟩) ledger.store := by
  have others : (∀ route admin recipient amount asset category purpose approvedByProposal,
      call ≠ .spend route admin recipient amount asset category purpose approvedByProposal) →
      wlp (call.exec (ledger.env arrival))
        (fun _ store => WindowStep ⟨ledger, ⟨arrival, .treasury call⟩,
          ⟨store, timestamp, sequence⟩⟩) ledger.store := by
    intro unmetered
    refine wp_then (call.exec_unmetered unmetered) ?_
    rintro _ after ⟨same, processed⟩
    cases call with
    | setAsset | createBudget | approveBudget | createRecurring | queueAdmin =>
      exact .of_quiet not_false same not_false
    | spend => exact absurd rfl (unmetered _ _ _ _ _ _ _ _)
    | processRecurring admin =>
      have unmetered : Unmetered (¬ ∀ payment ∈ ledger.store.treasury.recurringPayments,
          ¬ payment.IsDue (ledger.env arrival).timestamp) ledger.store after :=
        ⟨same, fun idle => processed admin rfl (not_not.mp idle)⟩
      exact .of_unmetered unmetered (guard.imp_right not_not_intro) fun resets => resets.2
  cases call with
  | setAsset | createBudget | approveBudget | createRecurring | processRecurring | queueAdmin =>
    exact others fun _ _ _ _ _ _ _ _ same => by cases same
  | spend route admin recipient amount asset category purpose approvedByProposal =>
    refine wp_then (exec_metered route admin recipient amount asset category
      purpose approvedByProposal) ?_
    rintro _ after (⟨unset, same⟩ | ⟨config, state, current, pos, within, written, spends⟩)
    · exact .unset unset same fun resets => resets.2
    · refine .metered (fun resets => resets.2) current pos within (fun other => ?_) written
      exact (if_pos trivial).trans_le (spends other)

theorem GovernanceEffect.windowStep {call : GovernanceCall}
    (effect : GovernanceEffect (ledger.env arrival) ledger.store call store)
    (guard : WindowGuard ledger ⟨arrival, call⟩)
    (gave : GovTransition.Returned ⟨ledger, ⟨arrival, call⟩,
      ⟨store, timestamp, sequence⟩⟩) (untreasured : ∀ other, call ≠ .treasury other) :
    WindowStep ⟨ledger, ⟨arrival, call⟩, ⟨store, timestamp, sequence⟩⟩ := by
  cases effect with
  | settings effect =>
    cases effect with
    | configure => exact .of_quiet not_false rfl not_false
    | setSpendWindow admin lasting pos =>
      exact .reset ⟨gave, trivial⟩ lasting pos rfl rfl
  | power effect =>
    obtain ⟨tokens, delegation⟩ := effect.moved
    exact .of_quiet not_false rfl not_false
  | treasury call effect => exact absurd rfl (untreasured call)
  | proposal effect =>
    cases effect with
    | create => exact .of_quiet not_false rfl not_false
    | castVote cast =>
      obtain ⟨admitted, pos, counted⟩ := cast
      exact .of_quiet not_false rfl not_false
    | finalize finalized staked deposits =>
      obtain ⟨proposal, hit, unmetered⟩ := finalized.unmetered
      exact .of_unmetered ⟨unmetered.window, unmetered.assets⟩
        (guard.imp_right fun unspending => unspending proposal hit) fun resets => resets.2
    | execute executed =>
      obtain ⟨proposal, hit, unmetered⟩ := executed.unmetered
      exact .of_unmetered unmetered
        (guard.imp_right fun unspending => unspending proposal hit) fun resets => resets.2
    | cancel has unexecuted => exact .of_quiet not_false rfl not_false
  | timelock effect =>
    have nothing : ∀ {after : GovStore}, after.window = ledger.store.window →
        after.treasury.assets = ledger.store.treasury.assets →
        Unmetered False ledger.store after := fun window assets => ⟨window, fun _ => assets⟩
    cases effect with
    | setUp | queue | cancelQueued =>
      exact .of_unmetered (nothing rfl rfl) (.inr not_false) fun resets => resets.2
    | execute executes ran =>
      obtain ⟨action, proposal, queued, hit, unmetered⟩ := ran.unmetered
      refine .of_unmetered unmetered (guard.imp_right fun unspending => ?_) fun resets => resets.2
      refine unspending action ?_ proposal hit
      rw [executes]
      exact queued
  | quadratic effect =>
    cases effect with
    | configure | allocate | verify | verifyWithBonus | refund =>
      exact .of_quiet not_false rfl not_false
    | cast cast =>
      obtain ⟨has, isOpen, fresh, credited, pos, affordable⟩ := cast
      exact .of_quiet not_false rfl not_false
    | reallocate hit recorded known cast =>
      obtain ⟨has, isOpen, fresh, credited, pos, affordable⟩ := cast
      exact .of_quiet not_false rfl not_false
  | reputationVote score effect =>
    obtain ⟨admitted, nonneg⟩ := effect
    exact .of_quiet not_false rfl not_false

end Steps

theorem step_window {ledger : Ledger GovStore} {input : GovernanceInput}
    (guard : WindowGuard ledger input) :
    WindowStep ⟨ledger, input, governanceStep input ledger⟩ := by
  obtain ⟨arrival, call⟩ := input
  rcases cases ledger ⟨arrival, call⟩ with ⟨returns, effect⟩ | ⟨rejected, same⟩
  · by_cases treasured : ∃ other, call = .treasury other
    · obtain ⟨other, rfl⟩ := treasured
      obtain ⟨_, gave⟩ := gave_of_accepts returns
      exact wp_ok (other.windowStep guard) gave
    · exact effect.windowStep guard returns fun other called => treasured ⟨other, called⟩
  · have unmetered : Unmetered False ledger.store
        (governanceStep ⟨arrival, call⟩ ledger).store := by
      rw [same]
      exact ⟨rfl, fun _ => rfl⟩
    exact .of_unmetered unmetered (.inr not_false) fun resets => rejected resets.1

section Runs

def xlm : Asset := ⟨"XLM", none⟩

/-- A budget, a window of an hour with a cap of one hundred, and spends in two windows. -/
def spendsByAdmin : List GovernanceInput :=
  [⟨⟨0, 0, [9]⟩, .treasury (.setAsset .direct 9 xlm (amountOf 1000))⟩,
    ⟨⟨0, 0, [9]⟩, .treasury (.createBudget .direct 9 "ops" (amountOf 500) (amountOf 500) 0 1000000
      false)⟩,
    ⟨⟨0, 0, [9]⟩, .treasury (.approveBudget .direct 9 "ops" 1 (amountOf 500))⟩,
    ⟨⟨0, 0, [9]⟩, .settings (.setSpendWindow 9 3600 (amountOf 100))⟩,
    ⟨⟨60, 0, [9]⟩, .treasury (.spend .direct 9 2 (amountOf 60) xlm "ops" "rent" none)⟩,
    ⟨⟨60, 0, [9]⟩, .treasury (.spend .direct 9 2 (amountOf 60) xlm "ops" "rent" none)⟩,
    ⟨⟨3600, 0, [9]⟩, .treasury (.spend .direct 9 2 (amountOf 80) xlm "ops" "rent" none)⟩]

/-- A cap of five in a long window, and a grant of ten that is voted for and finalized. -/
def grantPastWindow : List GovernanceInput :=
  [⟨⟨0, 0, [1]⟩, .power (.stake 1 (amountOf 2000))⟩,
    ⟨⟨0, 0, [9]⟩, .treasury (.setAsset .direct 9 xlm (amountOf 1000))⟩,
    ⟨⟨0, 0, [9]⟩, .settings (.setSpendWindow 9 2000000 (amountOf 5))⟩,
    ⟨⟨0, 0, [1]⟩, .proposal (.create 1 (.treasurySpend 2 10 xlm "grant") "Grant" "A grant" []
      .treasuryTransfer false)⟩,
    ⟨⟨60, 0, [1]⟩, .proposal (.castVote 1 1 .for)⟩,
    ⟨⟨604800, 0, [1]⟩, .proposal (.finalize 1)⟩]

end Runs

end StellarSwipe.Governance
