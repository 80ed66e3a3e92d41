import Mathlib.Data.List.Infix
import StellarSwipe.TradeExecutor.MarketRuns

/-!
# Plans that average the cost

A plan splits an amount into equal parts and a keeper executes one after another.
-/

namespace StellarSwipe.TradeExecutor

open FixedWidth Program List AList

structure DCAPlan where
  amountPerInterval : Int
  remainingIntervals : Nat
  totalIntervals : Nat
  nextIntervalLedger : Nat
  intervalLedgers : Nat
  signalExpiryLedger : Nat
  executedAmount : Int

inductive DcaEvent where
  | dcaIntervalExecuted (user : Address) (signalId intervalIndex : Nat) (amount : Int)
      (remainingIntervals : Nat)
  | dcaPlanCompleted (user : Address) (signalId : Nat) (totalAmount : Int)
  | dcaPlanCancelled (user : Address) (signalId intervalsCompleted reason : Nat)
      (refundedAmount : Int)

/-- An event and the ledger that emitted it. -/
structure DcaRecord where
  ledger : Nat
  event : DcaEvent

/-- The plans and the events, beside the market. -/
structure DcaStore where
  market : MarketStore
  plans : Table (Address × Nat) DCAPlan
  events : List DcaRecord

abbrev DcaProgram := Program DcaStore ContractError

namespace DcaStore

variable (store : DcaStore)

def plan (user : Address) (signalId : Nat) : Option DCAPlan :=
  store.plans.lookup (user, signalId)

def savePlan (user : Address) (signalId : Nat) (plan : DCAPlan) : DcaStore :=
  { store with plans := store.plans.insert (user, signalId) plan }

def removePlan (user : Address) (signalId : Nat) : DcaStore :=
  { store with plans := store.plans.erase (user, signalId) }

def emit (env : Env) (event : DcaEvent) : DcaStore :=
  { store with events := store.events ++ [⟨env.sequence, event⟩] }

end DcaStore

namespace DCAPlan

variable (plan : DCAPlan)

def Expired (env : Env) : Prop :=
  0 < plan.signalExpiryLedger ∧ plan.signalExpiryLedger ≤ env.sequence
deriving Decidable

/-- The plan after one more part. -/
def executed : DCAPlan :=
  { plan with
    executedAmount := plan.executedAmount + plan.amountPerInterval
    remainingIntervals := plan.remainingIntervals - 1 }

end DCAPlan

variable (env : Env) (user : Address) (signalId : Nat)

def loadPlan : DcaProgram DCAPlan := do
  orFail ((← get).plan user signalId) .dcaPlanNotFound

def onDcaMarket (program : MarketProgram Unit) : DcaProgram Unit :=
  zoom DcaStore.market (fun market store => { store with market }) id program

def executeDcaCopyTrade (totalAmount : Amount)
    (numIntervals intervalLedgers signalExpiryLedger : Nat) : DcaProgram Unit := do
  requireAuth env user
  ensure (¬ (totalAmount.val ≤ 0 ∨ numIntervals = 0 ∨ intervalLedgers = 0)) .invalidAmount
  ensure ((← get).plan user signalId = none) .dcaPlanAlreadyExists
  ensure (¬ (0 < signalExpiryLedger ∧ signalExpiryLedger ≤ env.sequence)) .signalExpired
  let amountPerInterval := totalAmount.val.tdiv numIntervals
  ensure (¬ amountPerInterval ≤ 0) .invalidAmount
  modify fun store => store.savePlan user signalId
    { amountPerInterval
      remainingIntervals := numIntervals
      totalIntervals := numIntervals
      nextIntervalLedger := env.sequence
      intervalLedgers
      signalExpiryLedger
      executedAmount := 0 }

/-- Execute the part that is due. The answer says whether it was the last one. -/
def executeDcaInterval (executeFn : Int → MarketProgram Unit) : DcaProgram Bool := do
  let plan ← loadPlan user signalId
  if plan.Expired env then do
    demand (plan.remainingIntervals ≤ plan.totalIntervals)
    modify fun store => (store.removePlan user signalId).emit env
      (.dcaPlanCancelled user signalId (plan.totalIntervals - plan.remainingIntervals) 0 0)
    fail .signalExpired
  else do
    ensure (¬ env.sequence < plan.nextIntervalLedger) .intervalNotDue
    onDcaMarket (executeFn plan.amountPerInterval)
    demand (i128.Holds (plan.executedAmount + plan.amountPerInterval))
    demand (1 ≤ plan.remainingIntervals)
    let executed := plan.executed
    demand (executed.remainingIntervals ≤ executed.totalIntervals)
    modify fun store => store.emit env (.dcaIntervalExecuted user signalId
      (executed.totalIntervals - executed.remainingIntervals) executed.amountPerInterval
      executed.remainingIntervals)
    if executed.remainingIntervals = 0 then do
      modify fun store => (store.removePlan user signalId).emit env
        (.dcaPlanCompleted user signalId executed.executedAmount)
      pure true
    else do
      demand (env.sequence + executed.intervalLedgers ≤ u32Max)
      modify fun store => store.savePlan user signalId
        { executed with nextIntervalLedger := env.sequence + executed.intervalLedgers }
      pure false

def cancelDcaPlan : DcaProgram Unit := do
  requireAuth env user
  let plan ← loadPlan user signalId
  demand (plan.remainingIntervals ≤ plan.totalIntervals)
  modify fun store => (store.removePlan user signalId).emit env
    (.dcaPlanCancelled user signalId (plan.totalIntervals - plan.remainingIntervals) 1 0)

def featDca : String := "dca"

/-- The contract's own call, which anyone may make while the feature is on. -/
def executeDcaIntervalEntry (outside : Outside) (user : Address) (signalId : Nat) :
    DcaProgram Bool := do
  ensure ((← get).market.config.isFlagEnabled featDca = true) .featureDisabled
  executeDcaInterval env user signalId (openForPlan outside user)

section Calls

variable {env : Env} {user : Address} {signalId : Nat} {pre : DcaStore}

/-- Whatever a market program does, it leaves the plans and the events. -/
theorem wp_onDcaMarket {program : MarketProgram Unit} {post : Unit → DcaStore → Prop}
    {fault : Fault ContractError → DcaStore → Prop}
    (returns : ∀ market, post () { pre with market })
    (stops : ∀ reason market, fault reason { pre with market }) :
    wp (onDcaMarket program) post fault pre := by
  rw [onDcaMarket, wp_zoom]
  have anything : wp program (fun _ _ => True) (fun _ _ => True) pre.market := by
    rw [wp_iff]
    exact ⟨fun _ _ _ => trivial, fun _ _ _ => trivial⟩
  refine wp_mono anything (fun _ market _ => returns market) fun reason market _ => ?_
  cases reason with
  | error reason => exact stops (.error reason) market
  | trap => exact stops .trap market

/-- What an accepted request creates. -/
structure PlanCreated (env : Env) (user : Address) (signalId : Nat) (totalAmount : Amount)
    (numIntervals intervalLedgers signalExpiryLedger : Nat) (pre after : DcaStore) : Prop where
  pos : 0 < totalAmount.val
  some : 0 < numIntervals
  absent : pre.plan user signalId = none
  saved : after = pre.savePlan user signalId
    { amountPerInterval := totalAmount.val.tdiv numIntervals
      remainingIntervals := numIntervals
      totalIntervals := numIntervals
      nextIntervalLedger := env.sequence
      intervalLedgers
      signalExpiryLedger
      executedAmount := 0 }

theorem executeDcaCopyTrade_spec {totalAmount : Amount}
    {numIntervals intervalLedgers signalExpiryLedger : Nat} :
    wlp (executeDcaCopyTrade env user signalId totalAmount numIntervals intervalLedgers
        signalExpiryLedger)
      (fun _ after => PlanCreated env user signalId totalAmount numIntervals intervalLedgers
        signalExpiryLedger pre after) pre := by
  simp only [executeDcaCopyTrade, wp_rules, wp_auth]
  refine ⟨fun _ => ⟨fun valid => ⟨fun absent => ⟨fun _ => ⟨fun _ => ?_, fun _ => trivial⟩,
    fun _ => trivial⟩, fun _ => trivial⟩, fun _ => trivial⟩, fun _ => trivial⟩
  rw [not_or, not_or, not_le] at valid
  exact ⟨valid.1, Nat.pos_of_ne_zero valid.2.1, absent, rfl⟩

structure PartExecuted (env : Env) (user : Address) (signalId : Nat) (pre : DcaStore)
    (plan : DCAPlan) (done : Bool) (after : DcaStore) : Prop where
  hit : pre.plan user signalId = some plan
  due : plan.nextIntervalLedger ≤ env.sequence
  left : 1 ≤ plan.remainingIntervals
  answer : done = decide (plan.remainingIntervals = 1)
  events : after.events = pre.events ++ ⟨env.sequence, .dcaIntervalExecuted user signalId
      (plan.totalIntervals - (plan.remainingIntervals - 1)) plan.amountPerInterval
      (plan.remainingIntervals - 1)⟩ ::
    if done then [⟨env.sequence, .dcaPlanCompleted user signalId plan.executed.executedAmount⟩]
    else []
  plans : after.plans = if done then pre.plans.erase (user, signalId)
    else pre.plans.insert (user, signalId)
      { plan.executed with nextIntervalLedger := env.sequence + plan.intervalLedgers }

theorem executeDcaInterval_spec {executeFn : Int → MarketProgram Unit} :
    wlp (executeDcaInterval env user signalId executeFn)
      (fun done after => ∃ plan, PartExecuted env user signalId pre plan done after) pre := by
  simp only [executeDcaInterval, loadPlan, wp_rules, wp_ite]
  refine ⟨fun plan hit => ⟨fun _ => ⟨fun _ => trivial, fun _ => trivial⟩, fun _ =>
    ⟨fun due => wp_onDcaMarket (fun market => ?_) (fun _ _ => trivial), fun _ => trivial⟩⟩,
    fun _ => trivial⟩
  refine ⟨fun _ => ⟨fun left => ⟨fun _ => ⟨fun last => ?_, fun more =>
    ⟨fun _ => ?_, fun _ => trivial⟩⟩, fun _ => trivial⟩, fun _ => trivial⟩, fun _ => trivial⟩
  · have one : plan.remainingIntervals = 1 := by
      simp only [DCAPlan.executed] at last
      omega
    exact ⟨plan, hit, not_lt.mp due, left, by simp [one], by
      simp [DcaStore.emit, DcaStore.removePlan, DCAPlan.executed], rfl⟩
  · have several : plan.remainingIntervals ≠ 1 := by
      simp only [DCAPlan.executed] at more
      omega
    exact ⟨plan, hit, not_lt.mp due, left, by simp [several], rfl, rfl⟩

theorem cancelDcaPlan_spec : wlp (cancelDcaPlan env user signalId)
      (fun _ after => ∃ completed, after = (pre.removePlan user signalId).emit env
        (.dcaPlanCancelled user signalId completed 1 0)) pre := by
  simp only [cancelDcaPlan, loadPlan, wp_rules, wp_auth]
  exact ⟨fun _ => ⟨fun plan _ => ⟨fun _ => ⟨_, rfl⟩, fun _ => trivial⟩, fun _ => trivial⟩,
    fun _ => trivial⟩

theorem executeDcaIntervalEntry_spec {outside : Outside} :
    wlp (executeDcaIntervalEntry env outside user signalId)
      (fun done after => ∃ plan, PartExecuted env user signalId pre plan done after) pre := by
  simp only [executeDcaIntervalEntry, wp_rules]
  exact ⟨fun _ => executeDcaInterval_spec, fun _ => trivial⟩

end Calls

/-- What was executed for a plan: when and how much. -/
def executionOf (record : DcaRecord) : Option (Nat × Int) :=
  match record.event with
  | .dcaIntervalExecuted ofUser ofSignal _ amount _ =>
    if ofUser = user ∧ ofSignal = signalId then some (record.ledger, amount) else none
  | _ => none

def executionsOf (records : List DcaRecord) : List (Nat × Int) :=
  records.filterMap (executionOf user signalId)

/-- The amounts of some executions together. -/
def amountExecuted (executions : List (Nat × Int)) : Int := (executions.map Prod.snd).sum

/-- No two of the executions are closer than the spacing. -/
def Spaced (spacing : Nat) (executions : List (Nat × Int)) : Prop :=
  executions.Pairwise fun prior later => prior.1 + spacing ≤ later.1
deriving Decidable

section Executions

variable {user : Address} {signalId : Nat}

theorem executionsOf_append (first second : List DcaRecord) :
    executionsOf user signalId (first ++ second) =
      executionsOf user signalId first ++ executionsOf user signalId second :=
  filterMap_append

theorem amountExecuted_concat (executions : List (Nat × Int)) (ledger : Nat) (amount : Int) :
    amountExecuted (executions ++ [(ledger, amount)]) = amountExecuted executions + amount := by
  simp [amountExecuted]

theorem spaced_concat {spacing ledger : Nat} {executions : List (Nat × Int)} {amount : Int}
    (spaced : Spaced spacing executions)
    (late : ∀ execution ∈ executions, execution.1 + spacing ≤ ledger) :
    Spaced spacing (executions ++ [(ledger, amount)]) := by
  refine List.pairwise_append.mpr ⟨spaced, pairwise_singleton _ _, ?_⟩
  intro execution mem last only
  cases List.mem_singleton.mp only
  exact late execution mem

end Executions

structure PlanSoFar (part : Int) (numIntervals spacing : Nat) (executions : List (Nat × Int))
    (plan : DCAPlan) : Prop where
  amount : plan.amountPerInterval = part
  gap : plan.intervalLedgers = spacing
  counted : executions.length + plan.remainingIntervals = numIntervals
  uniform : amountExecuted executions = executions.length * part
  executed : plan.executedAmount = amountExecuted executions
  spaced : Spaced spacing executions
  next : ∀ execution ∈ executions, execution.1 + spacing ≤ plan.nextIntervalLedger

section Plans

variable {part : Int} {numIntervals spacing ledger : Nat} {executions : List (Nat × Int)}
  {plan : DCAPlan}

theorem PlanSoFar.advance (soFar : PlanSoFar part numIntervals spacing executions plan)
    (due : plan.nextIntervalLedger ≤ ledger) (left : 1 ≤ plan.remainingIntervals) :
    PlanSoFar part numIntervals spacing (executions ++ [(ledger, plan.amountPerInterval)])
      { plan.executed with nextIntervalLedger := ledger + plan.intervalLedgers } where
  amount := soFar.amount
  gap := soFar.gap
  counted := by
    have counted := soFar.counted
    simp only [DCAPlan.executed, length_append, length_singleton]
    omega
  uniform := by
    rw [amountExecuted_concat, soFar.uniform, soFar.amount]
    push_cast [length_append, length_singleton]
    ring
  executed := by
    rw [amountExecuted_concat, ← soFar.executed]
    rfl
  spaced := spaced_concat soFar.spaced fun execution mem =>
    (soFar.next execution mem).trans due
  next := by
    intro execution mem
    show _ ≤ ledger + plan.intervalLedgers
    rw [soFar.gap]
    rcases List.mem_append.mp mem with prior | latest
    · have pre := soFar.next execution prior
      omega
    · cases List.mem_singleton.mp latest
      exact le_rfl

/-- After its last part a plan has executed as many equal parts as were asked for. -/
theorem PlanSoFar.completed (soFar : PlanSoFar part numIntervals spacing executions plan)
    (last : plan.remainingIntervals = 1) :
    amountExecuted (executions ++ [(ledger, plan.amountPerInterval)]) = numIntervals * part := by
  have counted : ((executions.length + 1 : Nat) : Int) = numIntervals := by
    rw [← soFar.counted, last]
  rw [amountExecuted_concat, soFar.uniform, soFar.amount, ← counted]
  push_cast
  ring

end Plans

/-- A call of any account. Other entry points may change the market. -/
inductive DcaCall where
  | create (user : Address) (signalId : Nat) (totalAmount : Amount)
      (numIntervals intervalLedgers signalExpiryLedger : Nat)
  | execute (user : Address) (signalId : Nat) (executeFn : Int → MarketProgram Unit)
  | keeper (user : Address) (signalId : Nat) (outside : Outside)
  | cancel (user : Address) (signalId : Nat)
  | market (program : MarketProgram Unit)

/-- The call, and whether it completed a plan. -/
def DcaCall.run : DcaCall → DcaProgram Bool
  | .create user signalId totalAmount numIntervals intervalLedgers expiry => do
    executeDcaCopyTrade env user signalId totalAmount numIntervals intervalLedgers expiry
    pure false
  | .execute user signalId executeFn => executeDcaInterval env user signalId executeFn
  | .keeper user signalId outside => executeDcaIntervalEntry env outside user signalId
  | .cancel user signalId => do
    cancelDcaPlan env user signalId
    pure false
  | .market program => do
    onDcaMarket program
    pure false

def dcaStep (input : Arrival × DcaCall) (ledger : Ledger DcaStore) : Ledger DcaStore :=
  ledger.call input.1 fun env => input.2.run env

structure PlanTerms where
  user : Address
  signalId : Nat
  totalAmount : Amount
  numIntervals : Nat
  intervalLedgers : Nat
  signalExpiryLedger : Nat

namespace PlanTerms

variable (terms : PlanTerms)

def request (env : Env) : DcaProgram Unit :=
  executeDcaCopyTrade env terms.user terms.signalId terms.totalAmount terms.numIntervals
    terms.intervalLedgers terms.signalExpiryLedger

def part : Int := terms.totalAmount.val.tdiv terms.numIntervals

def plan (ledger : Ledger DcaStore) : Option DCAPlan :=
  ledger.store.plan terms.user terms.signalId

/-- What was executed for the plan after some earlier state. -/
def executedSince (start ledger : Ledger DcaStore) : List (Nat × Int) :=
  executionsOf terms.user terms.signalId
    (ledger.store.events.drop start.store.events.length)

end PlanTerms

/-- A plan is requested, calls follow, and the last one completes the plan. -/
structure Schedule where
  start : Ledger DcaStore
  created : Arrival
  calls : List (Arrival × DcaCall)
  last : Arrival × DcaCall

namespace Schedule

variable (schedule : Schedule) (terms : PlanTerms)

/-- The state after the request and some of the calls. -/
def reached (calls : List (Arrival × DcaCall)) : Ledger DcaStore :=
  Runs.final dcaStep (schedule.start.call schedule.created terms.request) calls

def closed : Ledger DcaStore := dcaStep schedule.last (schedule.reached terms schedule.calls)

/-- The request is accepted, its plan is there until the last call, and that call answers that
the plan is complete. -/
structure Completes : Prop where
  accepted : Accepts (terms.request (schedule.start.env schedule.created)) schedule.start.store
  held : ∀ calls, calls <+: schedule.calls → terms.plan (schedule.reached terms calls) ≠ none
  answered : valueOr false (schedule.last.2.run
      ((schedule.reached terms schedule.calls).env schedule.last.1))
    (schedule.reached terms schedule.calls).store = true
  gone : terms.plan (schedule.closed terms) = none

instance : Decidable (schedule.Completes terms) :=
  decidable_of_iff (Accepts (terms.request (schedule.start.env schedule.created))
      schedule.start.store ∧
    (∀ calls ∈ schedule.calls.inits, terms.plan (schedule.reached terms calls) ≠ none) ∧
    valueOr false (schedule.last.2.run
      ((schedule.reached terms schedule.calls).env schedule.last.1))
      (schedule.reached terms schedule.calls).store = true ∧
    terms.plan (schedule.closed terms) = none)
  ⟨fun ⟨accepted, held, answered, gone⟩ =>
      ⟨accepted, fun calls taken => held calls ((mem_inits _ _).mpr taken), answered, gone⟩,
    fun completes => ⟨completes.accepted,
      fun calls taken => completes.held calls ((mem_inits _ _).mp taken),
      completes.answered, completes.gone⟩⟩

/-- The executions sum to the whole amount, they are spaced, and the plan's running total is
their sum so far. -/
structure SpendsWhole : Prop where
  whole : amountExecuted (terms.executedSince schedule.start (schedule.closed terms)) =
    terms.totalAmount.val
  spaced : Spaced terms.intervalLedgers
    (terms.executedSince schedule.start (schedule.closed terms))
  running : ∀ calls, calls <+: schedule.calls → ∀ plan,
    terms.plan (schedule.reached terms calls) = some plan →
      plan.executedAmount =
        amountExecuted (terms.executedSince schedule.start (schedule.reached terms calls))

end Schedule

section Steps

variable {user : Address} {signalId : Nat} {env : Env} {pre after : DcaStore}

/-- A call leaves the plan alone, executes a part of it, or cancels it. -/
inductive PlanStep (env : Env) (user : Address) (signalId : Nat) (pre : DcaStore)
    (done : Bool) (after : DcaStore) : Prop where
  | kept (added : List DcaRecord) (events : after.events = pre.events ++ added)
      (silent : executionsOf user signalId added = [])
      (same : after.plan user signalId = pre.plan user signalId)
  | part (plan : DCAPlan) (executed : PartExecuted env user signalId pre plan done after)
  | cancelled (answer : done = false) (gone : after.plan user signalId = none)

theorem PartExecuted.planStep {ofUser : Address} {ofSignal : Nat} {plan : DCAPlan} {done : Bool}
    (executed : PartExecuted env ofUser ofSignal pre plan done after) :
    PlanStep env user signalId pre done after := by
  by_cases same : ofUser = user ∧ ofSignal = signalId
  · obtain ⟨rfl, rfl⟩ := same
    exact .part plan executed
  · have other : (user, signalId) ≠ (ofUser, ofSignal) := fun equal =>
      same ⟨(congrArg Prod.fst equal).symm, (congrArg Prod.snd equal).symm⟩
    refine .kept _ executed.events ?_ ?_
    · cases done <;> simp [executionsOf, executionOf, same]
    · simp only [DcaStore.plan, executed.plans]
      cases done
      · exact lookup_insert_ne other
      · exact lookup_erase_ne other

theorem planStep_spec (call : DcaCall) (held : pre.plan user signalId ≠ none) :
    wlp (call.run env) (fun done after => PlanStep env user signalId pre done after) pre := by
  cases call with
  | create ofUser ofSignal totalAmount numIntervals intervalLedgers expiry =>
    simp only [DcaCall.run, wp_rules]
    refine wp_then executeDcaCopyTrade_spec (fun _ after created => ?_)
    have other : (user, signalId) ≠ (ofUser, ofSignal) := by
      rintro equal
      obtain ⟨rfl, rfl⟩ := Prod.mk.inj equal
      exact held created.absent
    rw [created.saved]
    exact .kept [] (by simp [DcaStore.savePlan]) rfl (lookup_insert_ne other)
  | execute ofUser ofSignal executeFn =>
    refine wp_then executeDcaInterval_spec (fun _ _ executed => ?_)
    exact executed.choose_spec.planStep
  | keeper ofUser ofSignal outside =>
    refine wp_then executeDcaIntervalEntry_spec (fun _ _ executed => ?_)
    exact executed.choose_spec.planStep
  | cancel ofUser ofSignal =>
    simp only [DcaCall.run, wp_rules]
    refine wp_then cancelDcaPlan_spec (fun _ after cancelled => ?_)
    obtain ⟨completed, rfl⟩ := cancelled
    by_cases same : (user, signalId) = (ofUser, ofSignal)
    · obtain ⟨rfl, rfl⟩ := Prod.mk.inj same
      exact .cancelled rfl (lookup_erase _ _)
    · exact .kept _ rfl rfl (lookup_erase_ne same)
  | market program =>
    simp only [DcaCall.run, wp_rules]
    exact wp_onDcaMarket (fun market => .kept [] (by simp) rfl rfl) fun _ _ => trivial

end Steps

section Completed

variable {terms : PlanTerms} {start ledger : Ledger DcaStore}

/-- The plan is there and has come as far as its executions since the start say. -/
structure Underway (terms : PlanTerms) (start ledger : Ledger DcaStore) : Prop where
  progress : ∃ plan since, terms.plan ledger = some plan ∧
    ledger.store.events = start.store.events ++ since ∧
    PlanSoFar terms.part terms.numIntervals terms.intervalLedgers
      (executionsOf terms.user terms.signalId since) plan

theorem executedSince_eq {since : List DcaRecord}
    (emitted : ledger.store.events = start.store.events ++ since) :
    terms.executedSince start ledger = executionsOf terms.user terms.signalId since := by
  rw [PlanTerms.executedSince, emitted, drop_left]

/-- One more call extends the events since the start by its own. -/
theorem emitted_append {next : Ledger DcaStore} {since added : List DcaRecord}
    (emitted : ledger.store.events = start.store.events ++ since)
    (events : next.store.events = ledger.store.events ++ added) :
    next.store.events = start.store.events ++ (since ++ added) := by
  rw [events, emitted, append_assoc]

theorem underway_created {created : Arrival}
    (accepted : Accepts (terms.request (start.env created)) start.store) :
    Underway terms start (start.call created terms.request) := by
  obtain ⟨_, gave⟩ := gave_of_accepts accepted
  have made := wp_ok executeDcaCopyTrade_spec gave
  have saved : (start.call created terms.request).store = _ := made.saved
  have hit := (congrArg (·.plan terms.user terms.signalId) saved).trans
    (lookup_insert start.store.plans)
  refine ⟨⟨_, [], hit, ?_, ?_⟩⟩
  · rw [saved]
    simp [DcaStore.savePlan]
  · exact ⟨rfl, rfl, by simp [executionsOf], by simp [executionsOf, amountExecuted],
      by simp [executionsOf, amountExecuted], List.Pairwise.nil, by simp [executionsOf]⟩

/-- A call that leaves the plan there takes it one step further at most. -/
theorem Underway.step (underway : Underway terms start ledger) (input : Arrival × DcaCall)
    (held : terms.plan (dcaStep input ledger) ≠ none) :
    Underway terms start (dcaStep input ledger) := by
  obtain ⟨plan, since, hit, emitted, soFar⟩ := underway.progress
  by_cases accepts : Accepts (input.2.run (ledger.env input.1)) ledger.store
  · obtain ⟨done, gave⟩ := gave_of_accepts accepts
    have present : ledger.store.plan terms.user terms.signalId ≠ none := by
      rw [show ledger.store.plan terms.user terms.signalId = some plan from hit]
      exact Option.some_ne_none plan
    cases wp_ok (planStep_spec input.2 present) gave with
    | kept added events silent same =>
      refine ⟨⟨plan, since ++ added, same.trans hit, emitted_append emitted events, ?_⟩⟩
      rwa [executionsOf_append, silent, append_nil]
    | part other executed =>
      obtain rfl : other = plan := Option.mem_unique executed.hit hit
      have open_ : done = false := by
        cases done with
        | false => rfl
        | true =>
          exact absurd ((congrArg (·.lookup (terms.user, terms.signalId)) executed.plans).trans
            (lookup_erase _ _)) held
      subst open_
      have saved : terms.plan (dcaStep input ledger) = _ :=
        (congrArg (·.lookup (terms.user, terms.signalId)) executed.plans).trans
          (lookup_insert ledger.store.plans)
      refine ⟨⟨_, _, saved, emitted_append emitted executed.events, ?_⟩⟩
      have advanced := soFar.advance executed.due executed.left
      simpa [executionsOf_append, executionsOf, executionOf] using advanced
    | cancelled answer gone => exact absurd gone held
  · have unchanged : (dcaStep input ledger).store = ledger.store := invoke_of_rejected accepts
    exact ⟨⟨plan, since, (congrArg (·.plan terms.user terms.signalId) unchanged).trans hit,
      unchanged ▸ emitted, soFar⟩⟩

end Completed

section Schedules

variable {schedule : Schedule} {terms : PlanTerms}

/-- The plan is underway after every part of the schedule. The induction is on the calls from
the right, so that the earlier ones are a part of the schedule too. -/
theorem Schedule.Completes.underway (completes : schedule.Completes terms)
    {calls : List (Arrival × DcaCall)} (taken : calls <+: schedule.calls) :
    Underway terms schedule.start (schedule.reached terms calls) := by
  induction calls using List.reverseRecOn with
  | nil => exact underway_created completes.accepted
  | append_singleton front input ih =>
    have held := completes.held _ taken
    rw [Schedule.reached, Runs.final_append] at held ⊢
    exact (ih ((prefix_append _ _).trans taken)).step input held

theorem Schedule.Completes.last_part (completes : schedule.Completes terms) :
    amountExecuted (terms.executedSince schedule.start (schedule.closed terms)) =
        terms.numIntervals * terms.part ∧ Spaced terms.intervalLedgers
        (terms.executedSince schedule.start (schedule.closed terms)) := by
  obtain ⟨plan, since, hit, emitted, soFar⟩ :=
    (completes.underway (prefix_refl _)).progress
  have accepts : Accepts (schedule.last.2.run
      ((schedule.reached terms schedule.calls).env schedule.last.1))
      (schedule.reached terms schedule.calls).store := by
    by_contra rejected
    have answered := completes.answered
    rw [valueOr_of_rejected rejected] at answered
    cases answered
  obtain ⟨done, gave⟩ := gave_of_accepts accepts
  have answered := completes.answered
  rw [valueOr_of_ok gave] at answered
  subst answered
  have present : (schedule.reached terms schedule.calls).store.plan terms.user terms.signalId ≠
      none := by
    rw [show DcaStore.plan _ terms.user terms.signalId = some plan from hit]
    exact Option.some_ne_none plan
  cases wp_ok (planStep_spec schedule.last.2 present) gave with
  | kept added events silent same => exact absurd (same.symm.trans completes.gone) present
  | part other executed =>
    obtain rfl : other = plan := Option.mem_unique executed.hit hit
    have final := @emitted_append _ _ (schedule.closed terms) _ _ emitted executed.events
    have last : other.remainingIntervals = 1 := by simpa using executed.answer
    have executions : terms.executedSince schedule.start (schedule.closed terms) =
        executionsOf terms.user terms.signalId since ++
          [(((schedule.reached terms schedule.calls).env schedule.last.1).sequence,
            other.amountPerInterval)] := by
      rw [executedSince_eq final]
      simp [executionsOf, executionOf]
    rw [executions]
    exact ⟨soFar.completed last, (soFar.advance executed.due executed.left).spaced⟩
  | cancelled answer gone => cases answer

/-- A completed plan spends the whole amount exactly when the number of parts divides it. -/
theorem completed_plan_spends_whole (completes : schedule.Completes terms) :
    schedule.SpendsWhole terms ↔ (terms.numIntervals : Int) ∣ terms.totalAmount.val := by
  obtain ⟨sum, spaced⟩ := completes.last_part
  constructor
  · intro spends
    exact ⟨terms.part, spends.whole.symm.trans sum⟩
  · intro divides
    refine ⟨?_, spaced, fun calls taken plan hit => ?_⟩
    · rw [sum]
      exact Int.mul_tdiv_cancel' divides
    · obtain ⟨other, since, present, emitted, soFar⟩ := (completes.underway taken).progress
      obtain rfl : other = plan := Option.mem_unique present hit
      rw [executedSince_eq emitted]
      exact soFar.executed

/-- Three parts, ten ledgers apart, that the keeper executes on time. -/
def threeParts : Schedule where
  start := ⟨⟨.blank, ∅, []⟩, 0, 100⟩
  created := ⟨0, 0, [1]⟩
  calls := [(⟨0, 0, []⟩, .execute 1 1 fun _ => pure ()),
    (⟨0, 10, []⟩, .execute 1 1 fun _ => pure ())]
  last := (⟨0, 10, []⟩, .execute 1 1 fun _ => pure ())

theorem three_hundred_spent : threeParts.SpendsWhole ⟨1, 1, ⟨300, by decide⟩, 3, 10, 0⟩ :=
  (completed_plan_spends_whole (by decide +kernel)).mpr ⟨100, rfl⟩

/-- Of one hundred one is never executed. -/
theorem one_hundred_not_spent : threeParts.Completes ⟨1, 1, ⟨100, by decide⟩, 3, 10, 0⟩ ∧
      ¬ threeParts.SpendsWhole ⟨1, 1, ⟨100, by decide⟩, 3, 10, 0⟩ := by
  refine ⟨by decide +kernel, fun spends => ?_⟩
  have executed : amountExecuted ((⟨1, 1, ⟨100, by decide⟩, 3, 10, 0⟩ : PlanTerms).executedSince
      threeParts.start (threeParts.closed ⟨1, 1, ⟨100, by decide⟩, 3, 10, 0⟩)) = 99 := by
    decide +kernel
  rw [spends.whole] at executed
  exact absurd executed (by decide)

end Schedules

end StellarSwipe.TradeExecutor
