import StellarSwipe.Governance.Treasury
import StellarSwipe.Library.Runs

/-!
# The books of the treasury

Every budget has left what it has not spent, every approval has drawn what was spent in its
category since it was given, and no asset is overdrawn; a spend that stops writes nothing.
-/

namespace StellarSwipe.Governance

open FixedWidth Program Runs Table List

structure Budget.Balanced (budget : Budget) : Prop where
  remaining : budget.remaining = budget.allocated - budget.spent
  covered : 0 ≤ budget.remaining
  spent : 0 ≤ budget.spent
  bounded : budget.allocated ≤ i128.high

structure BudgetApproval.Within (approval : BudgetApproval) : Prop where
  drawn : 0 ≤ approval.totalDrawn
  capped : approval.totalDrawn ≤ approval.approvedCap

structure Treasury.Balanced (treasury : Treasury) : Prop where
  budgets : ∀ category budget, treasury.budgets.lookup category = some budget → budget.Balanced
  approvals : ∀ category approval, treasury.approvedBudgets.lookup category = some approval →
    approval.Within
  assets : ∀ asset amount, treasury.assets.lookup asset = some amount →
    0 ≤ amount ∧ amount ≤ i128.high

variable (category : String)

def spentIn (spends : List TreasurySpend) : Int :=
  ((spends.filter fun spend => spend.category = category).map TreasurySpend.amount).sum

/-- A treasury moves on by the spends made: they join the history, and every approval
draws what they took out of its category. -/
structure Spending (pre after : Treasury) (made : List TreasurySpend) : Prop where
  history : after.spendingHistory = pre.spendingHistory ++ made
  drawn : ∀ category, after.approvedBudgets.lookup category =
    (pre.approvedBudgets.lookup category).map fun approval =>
      { approval with totalDrawn := approval.totalDrawn + spentIn category made }

theorem spentIn_append (first second : List TreasurySpend) :
    spentIn category (first ++ second) = spentIn category first + spentIn category second := by
  simp [spentIn]

theorem Spending.none {pre after : Treasury} (history : after.spendingHistory = pre.spendingHistory)
    (approvals : after.approvedBudgets = pre.approvedBudgets) : Spending pre after [] where
  history := by rw [history, append_nil]
  drawn category := by
    rw [approvals]
    cases pre.approvedBudgets.lookup category <;> simp [spentIn]

theorem Spending.trans {pre middle after : Treasury} {first second : List TreasurySpend}
    (prior : Spending pre middle first) (later : Spending middle after second) :
    Spending pre after (first ++ second) where
  history := by rw [later.history, prior.history, append_assoc]
  drawn category := by
    rw [later.drawn, prior.drawn]
    cases pre.approvedBudgets.lookup category with
    | none => rfl
    | some approval => simp [spentIn_append, Int.add_assoc]

section Treasury

variable {treasury : Treasury}

theorem Treasury.Balanced.holds (balanced : treasury.Balanced) (asset : Asset) :
    0 ≤ treasury.assets.read asset ∧ treasury.assets.read asset ≤ i128.high := by
  cases hit : treasury.assets.lookup asset with
  | none => simp [Table.read, hit]
  | some amount => simpa [Table.read, hit] using balanced.assets asset amount hit

variable {after : Treasury}

theorem Treasury.Balanced.putAsset {asset : Asset} {amount : Int} (balanced : treasury.Balanced)
    (held : 0 ≤ amount ∧ amount ≤ i128.high)
    (assets : after.assets = treasury.assets.insert asset amount)
    (budgets : after.budgets = treasury.budgets)
    (approvals : after.approvedBudgets = treasury.approvedBudgets) : after.Balanced where
  budgets := budgets ▸ balanced.budgets
  approvals := approvals ▸ balanced.approvals
  assets := by
    intro other hit has
    rw [assets, lookup_insert] at has
    split at has
    · cases has
      exact held
    · exact balanced.assets other hit has

theorem Treasury.Balanced.trackAsset (balanced : treasury.Balanced) (asset : Asset) :
    (treasury.trackAsset asset).Balanced ∧ Spending treasury (treasury.trackAsset asset) [] := by
  simp only [Treasury.trackAsset]
  split
  · exact ⟨balanced, .none rfl rfl⟩
  · refine ⟨?_, .none rfl rfl⟩
    by_cases present : (treasury.assets.lookup asset).isSome = true
    · simp only [if_pos present]
      exact ⟨balanced.budgets, balanced.approvals, balanced.assets⟩
    · simp only [if_neg present]
      exact balanced.putAsset ⟨le_refl 0, by decide⟩ rfl rfl rfl

theorem Treasury.Balanced.putBudget {category : String} {budget : Budget}
    (balanced : treasury.Balanced) (written : budget.Balanced)
    (budgets : after.budgets = treasury.budgets.insert category budget)
    (approvals : after.approvedBudgets = treasury.approvedBudgets)
    (assets : after.assets = treasury.assets) : after.Balanced where
  budgets := by
    intro other hit has
    rw [budgets, lookup_insert] at has
    split at has
    · cases has
      exact written
    · exact balanced.budgets other hit has
  approvals := approvals ▸ balanced.approvals
  assets := assets ▸ balanced.assets

theorem Treasury.Balanced.putApproval {category : String} {approval : BudgetApproval}
    (balanced : treasury.Balanced) (written : approval.Within)
    (approvals : after.approvedBudgets = treasury.approvedBudgets.insert category approval)
    (budgets : after.budgets = treasury.budgets) (assets : after.assets = treasury.assets) :
    after.Balanced where
  budgets := budgets ▸ balanced.budgets
  approvals := by
    intro other hit has
    rw [approvals, lookup_insert] at has
    split at has
    · cases has
      exact written
    · exact balanced.approvals other hit has
  assets := assets ▸ balanced.assets

theorem renewBudgetIfNeeded_spec {budget : Budget} (balanced : budget.Balanced) (now : Nat) :
    wp (renewBudgetIfNeeded budget now)
      (fun renewed after => after = treasury ∧ renewed.Balanced) (fun _ after => after = treasury)
      treasury := by
  simp only [renewBudgetIfNeeded, wp_ite, wp_rules]
  refine ⟨fun _ => ⟨trivial, balanced⟩, fun _ => ⟨fun _ => ⟨fun _ => ⟨?_, fun _ => trivial⟩,
    fun _ => trivial⟩, fun _ => trivial⟩⟩
  rintro ⟨periodStart, periodEnd⟩ _
  have whole : 0 ≤ budget.allocated := by
    have remaining := balanced.remaining
    have covered := balanced.covered
    have spent := balanced.spent
    omega
  exact ⟨trivial, ⟨(Int.sub_zero _).symm, whole, le_refl 0, balanced.bounded⟩⟩

structure SpendMade (treasury after : Treasury) (amount : Int) (asset : Asset)
    (category : String) (spend : TreasurySpend) : Prop where
  pos : 0 < amount
  recorded : spend.amount = amount ∧ spend.asset = asset ∧ spend.category = category
  assets : after.assets = treasury.assets.insert asset (treasury.assets.read asset - amount)
  payments : after.recurringPayments = treasury.recurringPayments
  balanced : after.Balanced
  spending : Spending treasury after [spend]

/-- A spend in books that are in order keeps them so, and one that stops writes nothing. -/
theorem executeSpend_spec (balanced : treasury.Balanced) (recipient : Address) {amount : Int}
    (asset : Asset) (category purpose : String) (approvedByProposal : Option Nat)
    (executedAt : Nat) :
    wp (executeSpend recipient amount asset category purpose approvedByProposal executedAt)
      (fun spend after => SpendMade treasury after amount asset category spend)
      (fun _ after => after = treasury) treasury := by
  simp only [executeSpend, wp_bind, wp_ensure, wp_orFail, wp_get, implies_true, and_true]
  intro _ pos has budgeted
  refine wp_mono (renewBudgetIfNeeded_spec (balanced.budgets category has budgeted)
    executedAt) ?_ fun _ _ same => same
  rintro budget after ⟨rfl, ordered⟩
  simp only [wp_ofExcept, implies_true, and_true]
  intro within approval approved newDrawn drawn capped covered
  obtain ⟨drawnHeld, rfl⟩ := checkedAdd_ok drawn
  have approvalWithin := balanced.approvals category approval approved
  have balanceHeld := balanced.holds asset
  have spentHeld : i128.Holds (budget.spent + amount) := by
    have remaining := ordered.remaining
    have spent := ordered.spent
    have bounded := ordered.bounded
    simp only [Range.Holds, i128_low] at bounded ⊢
    omega
  have remainingHeld : i128.Holds (budget.remaining - amount) := by
    have remaining := ordered.remaining
    have spent := ordered.spent
    have bounded := ordered.bounded
    simp only [Range.Holds, i128_low] at bounded ⊢
    omega
  have balanceLeft : i128.Holds (Table.read after.assets asset - amount) := by
    simp only [Range.Holds, i128_low]
    omega
  simp only [wp_modify, wp_pure, checkedAdd_of_holds spentHeld, checkedSub_of_holds remainingHeld,
    checkedSub_of_holds balanceLeft, Except.ok.injEq, forall_eq', reduceCtorEq, false_implies,
    implies_true, and_true]
  refine ⟨by omega, ⟨rfl, rfl, rfl⟩, rfl, rfl, ⟨?_, ?_, ?_⟩, ⟨rfl, fun other => ?_⟩⟩
  · intro other hit lookup
    rw [lookup_insert] at lookup
    split at lookup
    · cases lookup
      have remaining := ordered.remaining
      have spent := ordered.spent
      exact ⟨by simp only; omega, by simp only; omega, by simp only; omega, ordered.bounded⟩
    · exact balanced.budgets other hit lookup
  · intro other hit lookup
    rw [lookup_insert] at lookup
    split at lookup
    · cases lookup
      have drawnBefore := approvalWithin.drawn
      exact ⟨by simp only; omega, by simp only; omega⟩
    · exact balanced.approvals other hit lookup
  · intro other hit lookup
    rw [lookup_insert] at lookup
    split at lookup
    · cases lookup
      omega
    · exact balanced.assets other hit lookup
  · rw [lookup_insert]
    split
    next same =>
      subst same
      simp [approved, spentIn]
    next different =>
      cases after.approvedBudgets.lookup other <;> simp [spentIn, Ne.symm different]

theorem processPayment_spec (balanced : treasury.Balanced) (now index : Nat)
    (payment : RecurringPayment) : wlp (processPayment now index payment)
      (fun _ after => after.Balanced ∧ ∃ made, Spending treasury after made) treasury := by
  simp only [processPayment, wp_bind, wp_attempt]
  refine wp_mono (executeSpend_spec balanced _ _ _ _ _ _) ?_ ?_
  · intro spend after made
    simp only [putPayment, wp_rules]
    refine ⟨⟨made.balanced.budgets, made.balanced.approvals, made.balanced.assets⟩, [spend], ?_⟩
    exact ⟨made.spending.history, made.spending.drawn⟩
  · rintro (error | _) after rfl
    · simp only [Fault.holds_error, wp_ite, wp_rules, putPayment]
      refine ⟨fun _ => ⟨⟨balanced.budgets, balanced.approvals, balanced.assets⟩, [], ?_⟩,
        fun _ => trivial⟩
      exact .none rfl rfl
    · trivial

/-- The payments from an index on move the treasury by what is spent. The induction is
on the number of payments still to go through. -/
theorem processPayments_spec (balanced : treasury.Balanced) (now remaining index processed : Nat) :
    wlp (processPayments now remaining index processed)
      (fun _ after => after.Balanced ∧ ∃ made, Spending treasury after made) treasury := by
  induction remaining generalizing treasury index processed with
  | zero => exact ⟨balanced, [], .none rfl rfl⟩
  | succ remaining ih =>
    simp only [processPayments, wp_rules]
    cases treasury.recurringPayments[index]? with
    | none => trivial
    | some payment =>
      simp only [wp_ite, wp_rules, putPayment]
      refine ⟨fun _ => ih balanced _ _, fun _ => ⟨fun _ => ?_, fun _ => ⟨fun _ => ?_,
        fun _ => ih balanced _ _⟩⟩⟩
      · have switchedOff : Treasury.Balanced { treasury with
            recurringPayments :=
              treasury.recurringPayments.set index { payment with active := false } } :=
          ⟨balanced.budgets, balanced.approvals, balanced.assets⟩
        refine wp_then (ih switchedOff _ _) ?_
        rintro _ after ⟨afterBalanced, made, spending⟩
        exact ⟨afterBalanced, made, spending.history, spending.drawn⟩
      · refine wp_then (processPayment_spec balanced now index payment) ?_
        rintro paid middle ⟨middleBalanced, first, prior⟩
        refine wp_then (ih middleBalanced _ _) ?_
        rintro _ after ⟨afterBalanced, second, later⟩
        exact ⟨afterBalanced, first ++ second, prior.trans later⟩

end Treasury

/-- The call gives the category a new approval. -/
def TreasuryCall.Renews (call : TreasuryCall) (category : String) : Prop :=
  match call with
  | .approveBudget _ _ approved _ _ => approved = category
  | _ => False

instance (call : TreasuryCall) (category : String) : Decidable (call.Renews category) := by
  unfold TreasuryCall.Renews
  split <;> infer_instance

/-- What a returning call does to the books: a new approval starts with nothing drawn,
and every other approval draws what the call spent in its category. -/
structure TreasuryMove (call : TreasuryCall) (pre after : Treasury)
    (made : List TreasurySpend) : Prop where
  balanced : after.Balanced
  history : after.spendingHistory = pre.spendingHistory ++ made
  renewed : ∀ category approval, call.Renews category →
    after.approvedBudgets.lookup category = some approval → approval.totalDrawn = 0
  drawn : ∀ category approval, ¬ call.Renews category →
    after.approvedBudgets.lookup category = some approval →
    ∃ prior, pre.approvedBudgets.lookup category = some prior ∧
      approval.totalDrawn = prior.totalDrawn + spentIn category made

section Calls

variable {pre : GovStore}

theorem TreasuryMove.spent {call : TreasuryCall} {treasury after : Treasury}
    {made : List TreasurySpend} (other : ∀ category, ¬ call.Renews category)
    (balanced : after.Balanced) (spending : Spending treasury after made) :
    TreasuryMove call treasury after made where
  balanced
  history := spending.history
  renewed category _ renews := absurd renews (other category)
  drawn category approval _ has := by
    rw [spending.drawn, Option.map_eq_some_iff] at has
    obtain ⟨prior, hit, rfl⟩ := has
    exact ⟨prior, hit, rfl⟩

theorem wp_onTreasury {α : Type} {post : α → GovStore → Prop}
    (program : TreasuryProgram α) : wp (onTreasury program) post (fun _ _ => True) pre ↔
      wp program (fun value after => post value (pre.putTreasury after)) (fun _ _ => True)
        pre.treasury := by
  simp only [onTreasury, wp_zoom]
  rw [wp_iff, wp_iff]
  refine and_congr_right fun _ => ⟨fun _ _ _ _ => trivial, fun _ fault after _ => ?_⟩
  cases fault <;> trivial

theorem TreasuryCall.exec_moves (call : TreasuryCall) (env : Env)
    (balanced : pre.treasury.Balanced) :
    wlp (call.exec env) (fun _ after => ∃ made, TreasuryMove call pre.treasury after.treasury made)
      pre := by
  cases call with
  | setAsset route admin asset amount =>
    simp only [exec, wp_bind]
    refine Route.enter_rule fun adminActions => ?_
    simp only [wp_onTreasury, setAssetBalance, wlp_rules]
    intro nonneg
    obtain ⟨tracked, spending⟩ := balanced.trackAsset asset
    refine ⟨[], .spent (fun _ => id) ?_ (spending.trans (.none rfl rfl))⟩
    exact tracked.putAsset ⟨by omega, amount.property.2⟩ rfl rfl rfl
  | createBudget route admin category allocated spendLimit periodStart periodEnd autoRenew =>
    simp only [exec, wp_bind]
    refine Route.enter_rule fun adminActions => ?_
    simp only [wlp_rules, wp_onTreasury, upsertBudget]
    intro valid _
    simp only [not_or, not_le] at valid
    refine ⟨[], .spent (fun _ => id) ?_ (.none rfl rfl)⟩
    refine balanced.putBudget ⟨?_, ?_, le_refl 0, allocated.property.2⟩ rfl rfl rfl
    · simp
    · exact valid.2.1.le
  | approveBudget route admin category proposalId approvedCap =>
    simp only [exec, wp_bind]
    refine Route.enter_rule fun adminActions => ?_
    simp only [wlp_rules, wp_onTreasury, Governance.approveBudget]
    intro pos budget _ _
    refine ⟨[], ?_, (append_nil _).symm, ?_, ?_⟩
    · exact balanced.putApproval ⟨le_refl 0, by simp only; omega⟩ rfl rfl rfl
    · intro other approval renews has
      have same : other = category := renews.symm
      simp only [GovStore.putTreasury, lookup_insert, if_pos same] at has
      cases has
      rfl
    · intro other approval kept has
      have different : other ≠ category := fun same => kept same.symm
      simp only [GovStore.putTreasury, lookup_insert, if_neg different]
        at has
      exact ⟨approval, has, by simp [spentIn]⟩
  | spend route admin recipient amount asset category purpose approvedByProposal =>
    simp only [exec, wp_bind]
    refine Route.enter_rule fun adminActions => ?_
    refine wp_then (consume_leaves env amount) ?_
    rintro _ after ⟨window, rfl⟩
    simp only [wp_discard, wp_onTreasury]
    refine wp_then (executeSpend_spec balanced recipient asset category purpose
      approvedByProposal env.timestamp) ?_
    intro spend after made
    exact ⟨[spend], .spent (fun _ => id) made.balanced made.spending⟩
  | createRecurring route admin recipient amount asset frequency category purpose approvedByProposal
      endDate =>
    simp only [exec, wp_bind]
    refine Route.enter_rule fun adminActions => ?_
    simp only [wlp_rules, wp_onTreasury, scheduleRecurringPayment]
    intro _ _ _ _ _
    obtain ⟨tracked, spending⟩ := balanced.trackAsset asset
    refine ⟨[], .spent (fun _ => id) ?_ ?_⟩
    · exact ⟨tracked.budgets, tracked.approvals, tracked.assets⟩
    · exact ⟨spending.history, spending.drawn⟩
  | processRecurring admin =>
    simp only [exec, wp_rules, wp_requireAdmin, wp_onTreasury, processRecurringPayments]
    intro _ _ _
    refine wp_then (processPayments_spec balanced _ _ _ _) ?_
    rintro _ after ⟨afterBalanced, made, spending⟩
    exact ⟨made, .spent (fun _ => id) afterBalanced spending⟩
  | queueAdmin admin actionType =>
    simp only [exec, wp_rules, wp_requireAdmin, queueAdminAction, wp_getTimelock, wp_putTimelock]
    intro _ _ _ timelock _
    exact ⟨[], .spent (fun _ => id) balanced (.none rfl rfl)⟩

end Calls

/-- A call that arrives some time after the last one. -/
structure TreasuryInput where
  arrival : Arrival
  call : TreasuryCall

def treasuryStep (input : TreasuryInput) (ledger : Ledger GovStore) :
    Ledger GovStore :=
  ledger.call input.arrival input.call.exec

variable (taken : Transition (Ledger GovStore) TreasuryInput)

def Returns : Prop :=
  Accepts (taken.input.call.exec (taken.pre.env taken.input.arrival)) taken.pre.store
deriving Decidable

/-- The spends that a transition added to the history. -/
def spendsMade : List TreasurySpend :=
  taken.after.store.treasury.spendingHistory.drop
    taken.pre.store.treasury.spendingHistory.length

/-- What has been spent in a category since its last approval, one transition later. -/
def drawnAfter (drawn : Int) (taken : Transition (Ledger GovStore) TreasuryInput) : Int :=
  if taken.input.call.Renews category ∧ Returns taken then 0
  else drawn + spentIn category (spendsMade taken)

/-- What has been spent in a category since its last approval. -/
def drawnUnder (past : List (Transition (Ledger GovStore) TreasuryInput)) : Int :=
  past.foldl (drawnAfter category) 0

/-- The books of the treasury after the transitions taken: budgets have left what they
have not spent, approvals have drawn what was spent under them and no more than their
cap, no asset is overdrawn, and a spend that returns an error leaves everything as it
was, whatever its arguments. -/
structure BooksKept (past : List (Transition (Ledger GovStore) TreasuryInput))
    (treasury : Treasury) : Prop where
  budgets : ∀ category budget, treasury.budgets.lookup category = some budget →
    budget.remaining = budget.allocated - budget.spent ∧ 0 ≤ budget.remaining
  approvals : ∀ category approval, treasury.approvedBudgets.lookup category = some approval →
    approval.totalDrawn ≤ approval.approvedCap ∧ approval.totalDrawn = drawnUnder category past
  assets : ∀ asset amount, treasury.assets.lookup asset = some amount → 0 ≤ amount
  refused : ∀ recipient amount asset category purpose approvedByProposal executedAt error after,
    executeSpend recipient amount asset category purpose approvedByProposal executedAt treasury =
      .error (.error error) after → after = treasury

/-- The treasury is in order and every approval has drawn what was spent under it. -/
structure DrawnHistory (past : List (Transition (Ledger GovStore) TreasuryInput))
    (ledger : Ledger GovStore) : Prop where
  balanced : ledger.store.treasury.Balanced
  drawn : ∀ category approval,
    ledger.store.treasury.approvedBudgets.lookup category = some approval →
    approval.totalDrawn = drawnUnder category past

theorem DrawnHistory.step {past : List (Transition (Ledger GovStore) TreasuryInput)}
    {ledger : Ledger GovStore} (history : DrawnHistory past ledger)
    (input : TreasuryInput) : DrawnHistory (past ++ [⟨ledger, input, treasuryStep input ledger⟩])
      (treasuryStep input ledger) := by
  by_cases returns : Accepts (input.call.exec (ledger.env input.arrival)) ledger.store
  · obtain ⟨value, gave⟩ := gave_of_accepts returns
    obtain ⟨made, move⟩ := wp_ok
      (input.call.exec_moves (ledger.env input.arrival) history.balanced) gave
    refine ⟨move.balanced, fun category approval has => ?_⟩
    have spends : spendsMade ⟨ledger, input, treasuryStep input ledger⟩ = made := by
      simp only [spendsMade, treasuryStep, Ledger.call_storage, move.history, drop_left]
    rw [drawnUnder, foldl_append, foldl_cons, foldl_nil, drawnAfter, spends]
    by_cases renews : input.call.Renews category
    · rw [if_pos ⟨renews, returns⟩]
      exact move.renewed category approval renews has
    · rw [if_neg fun both => renews both.1]
      obtain ⟨prior, hit, drawn⟩ := move.drawn category approval renews has
      rw [drawn, history.drawn category prior hit, drawnUnder]
  · have kept : (treasuryStep input ledger).store = ledger.store := invoke_of_rejected returns
    refine ⟨kept ▸ history.balanced, fun category approval has => ?_⟩
    have spends : spendsMade ⟨ledger, input, treasuryStep input ledger⟩ = [] := by
      simp only [spendsMade, kept, drop_length]
    rw [drawnUnder, foldl_append, foldl_cons, foldl_nil, drawnAfter, spends,
      if_neg fun both => returns both.2]
    rw [kept] at has
    rw [history.drawn category approval has, drawnUnder]
    simp [spentIn]

theorem Treasury.Balanced.empty : Treasury.empty.Balanced := ⟨nofun, nofun, nofun⟩

/-- Along every run of the treasury the books are kept. -/
theorem treasury_books_kept (admin : Address) (balances : Table Address Int)
    (holders : List Address) (totalSupply : Int) (timestamp sequence : Nat)
    (inputs : List TreasuryInput) : BooksKept (trace treasuryStep
        ⟨.initial admin balances holders totalSupply, timestamp, sequence⟩ inputs)
      (final treasuryStep ⟨.initial admin balances holders totalSupply, timestamp, sequence⟩
        inputs).store.treasury := by
  have initially : DrawnHistory []
      ⟨.initial admin balances holders totalSupply, timestamp, sequence⟩ := by
    refine ⟨.empty, ?_⟩
    intro category approval has
    cases has
  have history : DrawnHistory
      (trace treasuryStep
        ⟨.initial admin balances holders totalSupply, timestamp, sequence⟩ inputs)
      (final treasuryStep
        ⟨.initial admin balances holders totalSupply, timestamp, sequence⟩ inputs) :=
    history_invariant treasuryStep DrawnHistory (fun _ _ => True)
      (fun _ _ input _ history => history.step input) _ initially inputs fun _ _ => trivial
  refine ⟨fun category budget has => ?_, fun category approval has => ?_,
    fun asset amount has => ?_, ?_⟩
  · have ordered := history.balanced.budgets category budget has
    exact ⟨ordered.remaining, ordered.covered⟩
  · exact ⟨(history.balanced.approvals category approval has).capped,
      history.drawn category approval has⟩
  · exact (history.balanced.assets asset amount has).1
  · intro recipient amount asset category purpose approvedByProposal executedAt error after stopped
    exact wp_error (executeSpend_spec history.balanced recipient asset category purpose
      approvedByProposal executedAt) stopped

end StellarSwipe.Governance
