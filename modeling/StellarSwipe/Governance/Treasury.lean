import StellarSwipe.Governance.Storage

/-!
# The spend window and the treasury

A cap on what the treasury spends in one window of a fixed length.
-/

namespace StellarSwipe.Governance

open FixedWidth Program

def putWindow (window : SpendWindow) : GovProgram Unit :=
  modify fun store => { store with window }

variable (env : Env)

def configureWindow (windowSecs : Nat) (cap : Int) : GovProgram Unit := do
  ensure (windowSecs ≠ 0) .invalidDuration
  ensure (¬ cap ≤ 0) .invalidAmount
  putWindow ⟨some ⟨windowSecs, cap, env.timestamp⟩, some ⟨env.timestamp, 0⟩⟩

/-- The start of the window that a time falls in. -/
def SpendWindowConfig.windowStartFor (config : SpendWindowConfig) (now : Nat) : Nat :=
  let elapsed := now - config.anchor
  config.anchor + (elapsed - elapsed % config.windowSecs)

/-- The window of now, with nothing spent unless it is the stored one. -/
def SpendWindow.current (window : SpendWindow) (now : Nat) :
    Option (SpendWindowConfig × SpendWindowState) :=
  window.config.map fun config =>
    let start := config.windowStartFor now
    let state := window.state.getD ⟨start, 0⟩
    (config, if state.windowStart = start then state else ⟨start, 0⟩)

/-- Use up an amount of the current window. Nothing happens while no window is
configured. -/
def consume (amount : Int) : GovProgram Unit := do
  let window := (← get).window
  match window.current env.timestamp with
  | none => pure ()
  | some (config, state) => do
    ensure (¬ amount ≤ 0) .invalidAmount
    let newSpent ← ofExcept (checkedAdd state.spent amount)
    ensure (¬ config.cap < newSpent) .budgetExceeded
    putWindow { window with state := some { state with spent := newSpent } }
    discard (ofExcept (checkedSub config.cap newSpent))

/-- The entry point that sets the window. -/
def setTreasurySpendWindow (admin : Address) (windowSecs : Nat) (cap : Int) :
    GovProgram Unit := do
  requireAdmin env admin
  configureWindow env windowSecs cap

variable {pre : GovStore}

theorem wp_putWindow {post : Unit → GovStore → Prop}
    {fault : Fault GovernanceError → GovStore → Prop} (window : SpendWindow) :
    wp (putWindow window) post fault pre ↔ post () { pre with window } := Iff.rfl

theorem consume_spec (amount : Int) : wlp (consume env amount)
      (fun _ after => match pre.window.current env.timestamp with
        | none => after = pre
        | some (config, state) => 0 < amount ∧ state.spent + amount ≤ config.cap ∧
          after = { pre with window := { pre.window with
            state := some { state with spent := state.spent + amount } } }) pre := by
  simp only [consume, wp_rules]
  cases pre.window.current env.timestamp with
  | none => rfl
  | some window =>
    obtain ⟨config, state⟩ := window
    simp only [wlp_rules, wp_putWindow]
    intro pos newSpent added within _ _
    obtain ⟨_, rfl⟩ := checkedAdd_ok added
    exact ⟨by omega, by omega, rfl⟩

theorem consume_leaves (amount : Int) :
    wlp (consume env amount) (fun _ after => ∃ window, after = { pre with window })
      pre := by
  refine wp_then (consume_spec env amount) ?_
  intro _ after known
  cases hit : pre.window.current env.timestamp with
  | none =>
    rw [hit] at known
    exact ⟨pre.window, known⟩
  | some window =>
    rw [hit] at known
    exact ⟨_, known.2.2⟩

/-!
## The treasury

A spend is made from a category's budget, under the cap that governance approved for it, and from
an asset's balance. Recurring payments are spends that fall due; one that its budget, approval or
asset refuses is switched off and the others go on.
-/

open DistinctList

abbrev TreasuryProgram := Program Treasury GovernanceError

namespace Treasury

variable (treasury : Treasury)

/-- The asset joins the tracked ones, with a balance and a target of zero. -/
def trackAsset (asset : Asset) : Treasury :=
  if asset ∈ treasury.trackedAssets then treasury
  else { treasury with
    trackedAssets := treasury.trackedAssets ++ [asset]
    assets := if (treasury.assets.lookup asset).isSome then treasury.assets
      else treasury.assets.insert asset 0
    rebalanceTargets := if (treasury.rebalanceTargets.lookup asset).isSome then
      treasury.rebalanceTargets else treasury.rebalanceTargets.insert asset 0 }

def trackCategory (category : String) : Treasury :=
  { treasury with budgetCategories := pushNew treasury.budgetCategories category }

end Treasury

def setAssetBalance (asset : Asset) (amount : Int) : TreasuryProgram Unit := do
  ensure (¬ amount < 0) .invalidAmount
  modify fun treasury =>
    let tracked := treasury.trackAsset asset
    { tracked with assets := tracked.assets.insert asset amount }

/-- Write a category's budget anew, with nothing spent. -/
def upsertBudget (category : String) (allocated spendLimit : Int) (periodStart periodEnd : Nat)
    (autoRenew : Bool) : TreasuryProgram Budget := do
  ensure (¬ (category = "" ∨ allocated ≤ 0 ∨ spendLimit ≤ 0 ∨ allocated < spendLimit))
    .invalidTreasuryConfig
  ensure (¬ periodEnd ≤ periodStart) .invalidDuration
  let budget : Budget :=
    { allocated
      spent := 0
      remaining := allocated
      spendLimit
      periodStart
      periodEnd
      autoRenew }
  modify fun treasury =>
    let tracked := treasury.trackCategory category
    { tracked with budgets := tracked.budgets.insert category budget }
  pure budget

/-- Record the cap that governance approved for a category, with nothing drawn. -/
def approveBudget (category : String) (proposalId : Nat) (approvedCap : Int) (now : Nat) :
    TreasuryProgram BudgetApproval := do
  ensure (¬ approvedCap ≤ 0) .invalidAmount
  let budget ← orFail ((← get).budgets.lookup category) .budgetNotFound
  ensure (¬ budget.allocated < approvedCap) .budgetExceeded
  let approval : BudgetApproval := ⟨proposalId, approvedCap, 0, now⟩
  modify fun treasury =>
    { treasury with approvedBudgets := treasury.approvedBudgets.insert category approval }
  pure approval

/-- The period that a time falls in, moving on one period at a time, when the time is
reached within a number of periods. -/
def nextPeriod (now duration : Nat) : Nat → Nat → Nat → Option (Nat × Nat)
  | 0, _, _ => none
  | periods + 1, nextStart, nextEnd =>
    if now < nextEnd then some (nextStart, nextEnd)
    else nextPeriod now duration periods nextEnd (satCount u64Max nextEnd duration)

/-- A budget whose period has ended starts the period of now, or refuses. A period that
ends at the last timestamp never passes: there the loop does not end and the host stops
the call. -/
def renewBudgetIfNeeded (budget : Budget) (now : Nat) : TreasuryProgram Budget :=
  if now < budget.periodEnd then pure budget
  else do
    ensure (budget.autoRenew = true) .budgetPeriodEnded
    let duration := budget.periodEnd - budget.periodStart
    ensure (duration ≠ 0) .invalidDuration
    let (periodStart, periodEnd) ← orTrap
      (nextPeriod now duration (now + 2 - budget.periodEnd) budget.periodStart budget.periodEnd)
    pure { budget with
      periodStart
      periodEnd
      spent := 0
      remaining := budget.allocated }

section Renewal

variable {now duration periods nextStart nextEnd : Nat}

/-- Before the last timestamp the loop over the periods ends within as many periods as there are
seconds to catch up with, a number of whole periods further on. The induction is on the periods;
a period that is cut off at the last timestamp is not passed. -/
theorem nextPeriod_ends (pos : 0 < duration) (early : now < u64Max) (left : 0 < periods)
    (enough : now + 2 ≤ nextEnd + periods) (started : nextStart ≤ now)
    (capped : nextEnd = satCount u64Max nextStart duration) :
    ∃ moved periodEnd, nextPeriod now duration periods nextStart nextEnd =
      some (nextStart + moved * duration, periodEnd) ∧ nextStart + moved * duration ≤ now ∧
      now < periodEnd := by
  induction periods generalizing nextStart nextEnd with
  | zero => omega
  | succ periods ih =>
    rw [nextPeriod]
    by_cases reached : now < nextEnd
    · exact ⟨0, nextEnd, by rw [if_pos reached, Nat.zero_mul, Nat.add_zero],
        by rwa [Nat.zero_mul, Nat.add_zero], reached⟩
    · rw [if_neg reached]
      have whole : nextEnd = nextStart + duration := by
        simp only [satCount] at capped
        omega
      obtain ⟨moved, periodEnd, hit, atMost, inside⟩ := @ih nextEnd
        (satCount u64Max nextEnd duration) (by omega)
        (by simp only [satCount]; omega) (by omega) rfl
      have start : nextEnd + moved * duration = nextStart + (moved + 1) * duration := by
        rw [whole, Nat.succ_mul]
        omega
      exact ⟨moved + 1, periodEnd, start ▸ hit, start ▸ atMost, inside⟩

/-- At the last timestamp no period is ever the one of now. The induction is on the periods. -/
theorem nextPeriod_stuck (last : u64Max ≤ now) (ends : nextEnd ≤ u64Max) :
    nextPeriod now duration periods nextStart nextEnd = none := by
  induction periods generalizing nextStart nextEnd with
  | zero => rfl
  | succ periods ih =>
    rw [nextPeriod, if_neg (by omega)]
    exact ih (Nat.min_le_right _ _)

def Budget.RenewsInto (budget : Budget) (now : Nat) : Prop :=
  ∃ periods moved periodEnd,
    nextPeriod now (budget.periodEnd - budget.periodStart) periods budget.periodStart
      budget.periodEnd =
      some (budget.periodStart + moved * (budget.periodEnd - budget.periodStart), periodEnd) ∧
    budget.periodStart + moved * (budget.periodEnd - budget.periodStart) ≤ now ∧ now < periodEnd

/-- A budget renews into the period of now exactly when its first period has begun and the clock
does not show the last timestamp. -/
theorem renews_into_iff (budget : Budget) (now : Nat)
    (lasting : budget.periodStart < budget.periodEnd) (ends : budget.periodEnd ≤ u64Max) :
    budget.RenewsInto now ↔ budget.periodStart ≤ now ∧ now < u64Max := by
  constructor
  · rintro ⟨periods, moved, periodEnd, hit, atMost, _⟩
    refine ⟨(Nat.le_add_right _ _).trans atMost, ?_⟩
    by_contra last
    rw [nextPeriod_stuck (not_lt.mp last) ends] at hit
    cases hit
  · rintro ⟨started, early⟩
    have capped : budget.periodEnd = satCount u64Max budget.periodStart
        (budget.periodEnd - budget.periodStart) := by
      simp only [satCount]
      omega
    obtain ⟨moved, periodEnd, hit, atMost, inside⟩ := @nextPeriod_ends now _
      (now + 2 - budget.periodEnd + 1) _ _ (Nat.sub_pos_of_lt lasting) early (by omega) (by omega)
      started capped
    exact ⟨_, moved, periodEnd, hit, atMost, inside⟩

def tenSecondBudget : Budget := ⟨5, 5, 0, 5, 0, 10, true⟩

theorem tenSecondBudget_renews : tenSecondBudget.RenewsInto 25 :=
  (renews_into_iff tenSecondBudget 25 (by decide) (by decide)).mpr (by decide)

/-- At the last timestamp the loop over periods of ten seconds does not end. -/
theorem renewal_loops : ¬ ∀ (budget : Budget) (now : Nat),
    budget.periodStart < budget.periodEnd → budget.periodEnd ≤ u64Max → now ≤ u64Max →
      budget.RenewsInto now := by
  intro every
  obtain ⟨_, _, _, hit, _⟩ := every tenSecondBudget u64Max (by decide) (by decide) (le_refl _)
  rw [nextPeriod_stuck (le_refl _) (by decide)] at hit
  cases hit

end Renewal

/-- One spend. Every check comes before the first write but the last three sums. -/
def executeSpend (recipient : Address) (amount : Int) (asset : Asset) (category purpose : String)
    (approvedByProposal : Option Nat) (executedAt : Nat) : TreasuryProgram TreasurySpend := do
  ensure (purpose ≠ "") .invalidTreasuryConfig
  ensure (¬ amount ≤ 0) .invalidAmount
  let has ← orFail ((← get).budgets.lookup category) .budgetNotFound
  let budget ← renewBudgetIfNeeded has executedAt
  ensure (¬ (budget.remaining < amount ∨ budget.spendLimit < amount)) .budgetExceeded
  let approval ← orFail ((← get).approvedBudgets.lookup category) .budgetApprovalRequired
  let newDrawn ← ofExcept (checkedAdd approval.totalDrawn amount)
  ensure (¬ approval.approvedCap < newDrawn) .approvedCapExceeded
  let currentBalance := (← get).assets.read asset
  ensure (¬ currentBalance < amount) .insufficientBalance
  modify fun treasury => { treasury with
    approvedBudgets :=
      treasury.approvedBudgets.insert category { approval with totalDrawn := newDrawn } }
  let spent ← ofExcept (checkedAdd budget.spent amount)
  let remaining ← ofExcept (checkedSub budget.remaining amount)
  modify fun treasury => { treasury with
    budgets :=
      treasury.budgets.insert category { budget with spent, remaining } }
  let balance ← ofExcept (checkedSub currentBalance amount)
  let spend : TreasurySpend :=
    { id := (← get).nextSpendId
      recipient
      amount
      asset
      category := category
      purpose
      approvedByProposal
      executedAt }
  modify fun treasury => { treasury with
    assets := treasury.assets.insert asset balance
    nextSpendId := satCount u64Max treasury.nextSpendId 1
    spendingHistory := treasury.spendingHistory ++ [spend] }
  pure spend

/-- The first payment falls due one period after scheduling. -/
def scheduleRecurringPayment (now : Nat) (recipient : Address) (amount : Int) (asset : Asset)
    (frequency : Nat) (category purpose : String) (approvedByProposal endDate : Option Nat) :
    TreasuryProgram RecurringPayment := do
  ensure (¬ amount ≤ 0) .invalidAmount
  ensure (frequency ≠ 0) .invalidDuration
  ensure (∀ date ∈ endDate, now < date) .invalidDuration
  ensure (((← get).budgets.lookup category).isSome = true) .budgetNotFound
  ensure (((← get).approvedBudgets.lookup category).isSome = true) .budgetApprovalRequired
  modify fun treasury => treasury.trackAsset asset
  let payment : RecurringPayment :=
    { id := (← get).nextRecurringPaymentId
      recipient
      amount
      asset
      frequency := frequency
      category
      purpose
      approvedByProposal
      lastPayment := now
      endDate
      active := true }
  modify fun treasury => { treasury with
    nextRecurringPaymentId := satCount u64Max treasury.nextRecurringPaymentId 1
    recurringPayments := treasury.recurringPayments ++ [payment] }
  pure payment

/-- The errors of a spend that switch its recurring payment off. -/
def GovernanceError.deactivates (error : GovernanceError) : Bool :=
  error ∈ [budgetExceeded, budgetNotFound, budgetPeriodEnded, insufficientBalance,
    budgetApprovalRequired, approvedCapExceeded]

def putPayment (index : Nat) (payment : RecurringPayment) : TreasuryProgram Unit :=
  modify fun treasury =>
    { treasury with recurringPayments := treasury.recurringPayments.set index payment }

/-- Pay one recurring payment that is due, and count it. -/
def processPayment (now index : Nat) (payment : RecurringPayment) : TreasuryProgram Nat := do
  let result ← attempt (executeSpend payment.recipient payment.amount payment.asset
    payment.category payment.purpose payment.approvedByProposal now)
  match result with
  | .ok _ => do
    putPayment index { payment with
      lastPayment := now
      active := if ∃ date ∈ payment.endDate, date ≤ now then false else payment.active }
    pure 1
  | .error error =>
    if error.deactivates then do
      putPayment index { payment with active := false }
      pure 0
    else fail error

def processPayments (now : Nat) : Nat → Nat → Nat → TreasuryProgram Nat
  | 0, _, processed => pure processed
  | remaining + 1, index, processed => do
    let treasury ← get
    match treasury.recurringPayments[index]? with
    | none => trap
    | some payment =>
      if payment.active = false then processPayments now remaining (index + 1) processed
      else if ∃ date ∈ payment.endDate, date < now then do
        putPayment index { payment with active := false }
        processPayments now remaining (index + 1) processed
      else if satCount u64Max payment.lastPayment payment.frequency ≤ now then do
        let paid ← processPayment now index payment
        processPayments now remaining (index + 1) (satCount u32Max processed paid)
      else processPayments now remaining (index + 1) processed

def processRecurringPayments (now : Nat) : TreasuryProgram Nat := do
  processPayments now (← get).recurringPayments.length 0 0

/-- A treasury program run on the contract's treasury. -/
def onTreasury {α : Type} (program : TreasuryProgram α) : GovProgram α :=
  zoom GovStore.treasury (fun treasury store => store.putTreasury treasury) id program

/-- One call of the treasury's entry points. -/
inductive TreasuryCall where
  | setAsset (route : Route) (admin : Address) (asset : Asset) (amount : Amount)
  | createBudget (route : Route) (admin : Address) (category : String)
      (allocated spendLimit : Amount) (periodStart periodEnd : Nat) (autoRenew : Bool)
  | approveBudget (route : Route) (admin : Address) (category : String) (proposalId : Nat)
      (approvedCap : Amount)
  | spend (route : Route) (admin recipient : Address) (amount : Amount) (asset : Asset)
      (category purpose : String) (approvedByProposal : Option Nat)
  | createRecurring (route : Route) (admin recipient : Address) (amount : Amount) (asset : Asset)
      (frequency : Nat) (category purpose : String) (approvedByProposal endDate : Option Nat)
  | processRecurring (admin : Address)
  | queueAdmin (admin : Address) (actionType : String)

/-- The entry point of a call. -/
def TreasuryCall.exec (call : TreasuryCall) (env : Env) : GovProgram Unit :=
  match call with
  | .setAsset route admin asset amount => do
    route.enter env admin
    onTreasury (setAssetBalance asset amount)
  | .createBudget route admin category allocated spendLimit periodStart periodEnd autoRenew => do
    route.enter env admin
    discard (onTreasury
      (upsertBudget category allocated spendLimit periodStart periodEnd autoRenew))
  | .approveBudget route admin category proposalId approvedCap => do
    route.enter env admin
    discard (onTreasury
      (Governance.approveBudget category proposalId approvedCap env.timestamp))
  | .spend route admin recipient amount asset category purpose approvedByProposal => do
    route.enter env admin
    consume env amount
    discard (onTreasury (executeSpend recipient amount asset category purpose approvedByProposal
      env.timestamp))
  | .createRecurring route admin recipient amount asset frequency category purpose
      approvedByProposal endDate => do
    route.enter env admin
    discard (onTreasury (scheduleRecurringPayment env.timestamp recipient amount asset frequency
      category purpose approvedByProposal endDate))
  | .processRecurring admin => do
    requireAdmin env admin
    discard (onTreasury (processRecurringPayments env.timestamp))
  | .queueAdmin admin actionType => do
    requireAdmin env admin
    discard (queueAdminAction env admin actionType)

end StellarSwipe.Governance
