import StellarSwipe.TradeExecutor.MarketEffects

/-!
# The dry run and the trade

Both pass the same gates in the same order, but for one: the trade needs a portfolio to record its
position with, and the dry run does not look for one.
-/

namespace StellarSwipe.TradeExecutor

open FixedWidth Program MarketStore List

/-- The error of the first gate that is shut. -/
def refusal : List (Bool × ContractError) → Option ContractError
  | [] => none
  | (shut, reason) :: rest => if shut = true then some reason else refusal rest

theorem refusal_append (early late : List (Bool × ContractError)) :
    refusal (early ++ late) = (refusal early).or (refusal late) := by
  induction early with
  | nil => rfl
  | cons gate rest ih =>
    obtain ⟨shut, reason⟩ := gate
    cases shut with
    | false => exact ih
    | true => rfl

theorem refusal_eq_none_iff (gates : List (Bool × ContractError)) :
    refusal gates = none ↔ ∀ gate ∈ gates, gate.1 = false := by
  induction gates with
  | nil => simp [refusal]
  | cons gate rest ih =>
    obtain ⟨shut, reason⟩ := gate
    cases shut <;> simp [refusal, ih]

theorem exists_gate_of_refusal {gates : List (Bool × ContractError)} {reason : ContractError}
    (refused : refusal gates = some reason) : ∃ gate ∈ gates, gate.2 = reason := by
  induction gates with
  | nil => cases refused
  | cons gate rest ih =>
    obtain ⟨shut, first⟩ := gate
    cases shut with
    | true => exact ⟨_, mem_cons_self, Option.some.inj refused⟩
    | false =>
      obtain ⟨gate, listed, names⟩ := ih refused
      exact ⟨gate, mem_cons_of_mem _ listed, names⟩

theorem noteFailure_refusal (gates : List (Bool × ContractError)) (shut : Bool)
    (reason : ContractError) : noteFailure shut reason ((refusal gates).map (·.code)) =
      (refusal (gates ++ [(shut, reason)])).map (·.code) := by
  rw [refusal_append, noteFailure]
  cases refusal gates with
  | some hit => simp
  | none => cases shut <;> rfl

theorem ContractError.code_injective : Function.Injective ContractError.code := by
  intro left right
  cases left <;> cases right <;> first | exact fun _ => rfl | exact fun same => by cases same

/-- The limit of the day holds the trade. -/
def MarketStore.VolumeWithin (store : MarketStore) (env : Env) (limit : Int)
    (trade : Trade) : Prop :=
  0 < limit → raised (store.volumeOn (today env) trade.user) trade.amount ≤ limit
deriving Decidable

namespace MarketStore

variable (store : MarketStore) (env : Env) (trade : Trade)

/-- The gates before the portfolio is looked for. -/
def openingGates : List (Bool × ContractError) :=
  [(decide (trade.amount ≤ 0), .invalidAmount),
    (decide (trade.amount < store.config.effectiveMinTradeSize trade.token),
      .belowMinimumTradeSize),
    (store.marketCircuitBreakerActiveReadonly env, .circuitBreakerActive),
    (decide (store.ExceedsOpenInterest trade.token trade.amount), .openInterestLimitReached),
    (!decide (store.VolumeWithin env store.config.volumeLimit trade), .dailyVolumeLimitExceeded)]

/-- The gates after that and before the balance is read. -/
def positionGates : List (Bool × ContractError) :=
  [(decide (store.AtPositionCap trade.user (store.config.isExempt trade.user)),
      .tooManyOpenPositions),
    (!decide (∀ pctBps ∈ trade.portfolioPctBps, pctBps ≤ maxPositionPctBps), .positionPctTooHigh)]

def portfolioGate : Bool × ContractError := (store.config.userPortfolio.isNone, .notInitialized)

def balanceGate (available : Int) : Bool × ContractError :=
  (!(simulateBalance available (simulateAmount store available trade)
    store.config.effectiveEstimatedFee).1, .insufficientBalance)

/-- What the trade's gates say before the balance is read. -/
def earlyRefusal : Option ContractError :=
  refusal (store.openingGates env trade ++ store.portfolioGate :: store.positionGates trade)

def tradeRefusal (available : Int) : Option ContractError :=
  (store.earlyRefusal env trade).or (refusal [store.balanceGate trade available])

/-- What the gates of the dry run say of a balance. -/
def dryRefusal (available : Int) : Option ContractError :=
  refusal (store.openingGates env trade ++ store.positionGates trade ++
    [store.balanceGate trade available])

def executedAmount (after : MarketStore) : Option Int :=
  (after.tradeReceipts.lookup store.receiptId).map (·.amount)

end MarketStore

/-- The dry run tells what the trade does: its success and amount, or its error. Neither
tells anything when it aborts. -/
def Agrees (store : MarketStore)
    (dryRun : EStateM.Result (Fault ContractError) MarketStore SimulationResult)
    (executed : EStateM.Result (Fault ContractError) MarketStore Unit) : Prop :=
  match dryRun, executed with
  | .ok result _, .ok _ after => result.wouldSucceed = true ∧ result.failureReason = none ∧
      store.executedAmount after = some result.effectiveAmount
  | .ok result _, .error (.error reason) _ =>
      result.wouldSucceed = false ∧ result.failureReason = some reason.code
  | .error _ _, .error .trap _ => True
  | _, _ => False

section Agreement

variable {env : Env} {outside : Outside} {pre : MarketStore} {trade : Trade}

theorem simulateMarketCopyTrade_spec : wp (simulateMarketCopyTrade env outside trade)
      (fun result after => ∃ available, outside.balance trade.token trade.user = some available ∧
        after = pre ∧ result.wouldSucceed = (pre.dryRefusal env trade available).isNone ∧
        result.failureReason = (pre.dryRefusal env trade available).map (·.code) ∧
        result.effectiveAmount = simulateAmount pre available trade)
      (fun reason after => reason = .trap ∧ after = pre ∧
        outside.balance trade.token trade.user = none) pre := by
  simp only [simulateMarketCopyTrade, wp_rules, wp_readBalance]
  refine ⟨fun available read => ?_, fun silent => ⟨trivial, trivial, silent⟩⟩
  have noted : noteFailure
      (!(simulateBalance available (simulateAmount pre available trade)
        pre.config.effectiveEstimatedFee).1) .insufficientBalance
      (noteFailure (!decide (∀ pctBps ∈ trade.portfolioPctBps, pctBps ≤ maxPositionPctBps))
        .positionPctTooHigh
      (noteFailure (!!decide (pre.AtPositionCap trade.user (pre.config.isExempt trade.user)))
        .tooManyOpenPositions
      (noteFailure (!decide (0 < pre.config.volumeLimit →
        raised (pre.volumeOn (today env) trade.user) trade.amount ≤ pre.config.volumeLimit))
        .dailyVolumeLimitExceeded
      (noteFailure (!!decide (pre.ExceedsOpenInterest trade.token trade.amount))
        .openInterestLimitReached
      (noteFailure (!!pre.marketCircuitBreakerActiveReadonly env) .circuitBreakerActive
      (noteFailure (!decide (pre.config.effectiveMinTradeSize trade.token ≤ trade.amount))
        .belowMinimumTradeSize
      (noteFailure (decide (trade.amount ≤ 0)) .invalidAmount none))))))) =
      (pre.dryRefusal env trade available).map (·.code) := by
    rw [show (none : Option Nat) = (refusal []).map (·.code) from rfl]
    iterate 8 rw [noteFailure_refusal]
    simp only [dryRefusal, openingGates, positionGates,
      balanceGate, MarketStore.VolumeWithin, nil_append, cons_append,
      Bool.not_not, ← not_le, decide_not]
  refine ⟨available, read, trivial, ?_, noted, rfl⟩
  show Option.isNone _ = _
  rw [noted, Option.isNone_map]

theorem executedAmount_opened {store : MarketStore}
    (same : store.receiptId = pre.receiptId) (effectiveAmount : Int) (deductsFee : Bool) :
    pre.executedAmount (store.opened env trade effectiveAmount deductsFee) =
      some effectiveAmount := by
  rw [executedAmount, ← same, opened_eq]
  simp only [AList.lookup_insert, Option.map_some]

theorem refusal_cons (shut : Bool) (reason : ContractError) (rest : List (Bool × ContractError)) :
    refusal ((shut, reason) :: rest) = if shut = true then some reason else refusal rest := rfl

theorem resolveTradeAmount_reads {store : MarketStore} (config : store.config = pre.config) :
    wp (resolveTradeAmount outside trade) (fun effectiveAmount after => after = store ∧
        (∀ pctBps ∈ trade.portfolioPctBps, pctBps ≤ maxPositionPctBps) ∧
        ∀ available, outside.balance trade.token trade.user = some available →
          effectiveAmount = simulateAmount pre available trade) (fun reason _ => reason.holds
        (fun error => error = .positionPctTooHigh ∧
          ¬ ∀ pctBps ∈ trade.portfolioPctBps, pctBps ≤ maxPositionPctBps)
        ((∀ pctBps ∈ trade.portfolioPctBps, pctBps ≤ maxPositionPctBps) ∧
          outside.balance trade.token trade.user = none)) store := by
  simp only [resolveTradeAmount, simulateAmount]
  cases trade.portfolioPctBps with
  | none => exact ⟨rfl, fun _ missing => absurd missing (Option.not_mem_none _), fun _ _ => rfl⟩
  | some pctBps =>
    have within : (∀ other ∈ some pctBps, other ≤ maxPositionPctBps) ↔
        ¬ maxPositionPctBps < pctBps := by
      simp only [Option.mem_some_iff, forall_eq', not_lt]
    simp only [within]
    rw [wp_bind, wp_ensureUnlocked]
    refine ⟨fun low => ?_, fun high => ⟨rfl, high⟩⟩
    rw [wp_bind, wp_get, wp_ite, config]
    refine ⟨fun blind => ⟨rfl, low, fun _ _ => by rw [if_neg low, if_pos blind]⟩, fun seen => ?_⟩
    rw [wp_bind, wp_readBalance]
    refine ⟨fun value read => ⟨rfl, low, fun available hit => ?_⟩, fun silent => ⟨low, silent⟩⟩
    obtain rfl := Option.mem_unique read hit
    rw [if_neg low, if_neg seen]

theorem checkBalance_reads (store : MarketStore) (effectiveAmount fee : Int) :
    wp (checkBalance outside trade effectiveAmount fee) (fun _ after => ∃ available shortfalls,
        outside.balance trade.token trade.user = some available ∧
        (simulateBalance available effectiveAmount fee).1 = true ∧
        after = { store with lastInsufficientBalance := shortfalls })
      (fun reason _ => reason.holds
        (fun error => error = .insufficientBalance ∧ ∃ available,
          outside.balance trade.token trade.user = some available ∧
          (simulateBalance available effectiveAmount fee).1 = false)
        (outside.balance trade.token trade.user = none)) store := by
  simp only [checkBalance, wp_bind, wp_readBalance]
  refine ⟨fun available read => ?_, fun silent => silent⟩
  split
  next covered => exact ⟨available, _, read, by rw [simulateBalance, covered], rfl⟩
  next detail short =>
    rw [wp_bind, checkBalance.ensureBalance.eq_def]
    split
    next covered =>
      exact ⟨available, _, read, by rw [simulateBalance, short]; simp only [covered], rfl⟩
    next lacking =>
      exact ⟨rfl, available, read, by rw [simulateBalance, short]; simp only [lacking]⟩

theorem executeMarketCopyTrade_refusal {requireUserAuth : Bool}
    (unlocked : pre.executionLock = false)
    (authorized : requireUserAuth = true → trade.user ∈ env.auths)
    (accepts : ∀ maxPositions, outside.portfolioRefuses pre.portfolio trade.user maxPositions =
      false) : wp (executeMarketCopyTrade env outside trade requireUserAuth none)
      (fun _ after => ∃ available, outside.balance trade.token trade.user = some available ∧
        pre.tradeRefusal env trade available = none ∧
        pre.executedAmount after = some (simulateAmount pre available trade))
      (fun reason _ => reason.holds (fun error => pre.earlyRefusal env trade = some error ∨
          ∃ available, outside.balance trade.token trade.user = some available ∧
            pre.tradeRefusal env trade available = some error) (pre.earlyRefusal env trade = none ∧
          outside.balance trade.token trade.user = none)) pre := by
  have early : pre.earlyRefusal env trade =
      if trade.amount ≤ 0 then some .invalidAmount
      else if trade.amount < pre.config.effectiveMinTradeSize trade.token then
        some .belowMinimumTradeSize
      else if pre.marketCircuitBreakerActiveReadonly env = true then some .circuitBreakerActive
      else if pre.ExceedsOpenInterest trade.token trade.amount then
        some .openInterestLimitReached
      else if ¬ pre.VolumeWithin env pre.config.volumeLimit trade then
        some .dailyVolumeLimitExceeded
      else if pre.config.userPortfolio = none then some .notInitialized
      else if pre.AtPositionCap trade.user (pre.config.isExempt trade.user) then
        some .tooManyOpenPositions
      else if ¬ ∀ pctBps ∈ trade.portfolioPctBps, pctBps ≤ maxPositionPctBps then
        some .positionPctTooHigh
      else none := by
    simp only [earlyRefusal, openingGates, portfolioGate,
      positionGates, cons_append, nil_append, refusal_cons, refusal,
      decide_eq_true_eq, Bool.not_eq_true', decide_eq_false_iff_not, Option.isNone_iff_eq_none]
  simp only [executeMarketCopyTrade, wp_rules]
  refine ⟨fun _ => ⟨fun pos => ⟨fun sized => ?_, fun small => ?_⟩, fun nothing => ?_⟩,
    fun unauthorized => absurd authorized unauthorized⟩
  rotate_left
  · exact .inl (by rw [early, if_neg pos, if_pos (not_not.mp small)])
  · exact .inl (by rw [early, if_pos (not_not.mp nothing)])
  refine wp_mono (breakerTripped_spec env none pre) ?_ fun _ _ never => never.elim
  rintro _ _ ⟨rfl, breaker, rfl⟩
  have readonly : pre.trippedFor env none = pre.marketCircuitBreakerActiveReadonly env := rfl
  rw [readonly]
  refine ⟨fun untripped => ⟨fun interest => ⟨fun _ => ?_, fun locked => absurd unlocked locked⟩,
    fun exceeds => ?_⟩, fun tripped => ?_⟩
  rotate_left
  · refine .inl ?_
    rw [early, if_neg pos, if_neg sized, if_neg (by rw [untripped]; decide),
      if_pos (not_not.mp exceeds)]
  · refine .inl ?_
    rw [early, if_neg pos, if_neg sized, if_pos (by simpa using tripped)]
  rw [early, if_neg pos, if_neg sized, if_neg (by rw [untripped]; decide), if_neg interest]
  rw [wp_putLock]
  refine wp_mono (countVolume_spec env _ trade _) ?_ ?_
  rotate_left
  · rintro reason _ ⟨rfl, exceeds, rfl⟩
    exact .inl (if_pos exceeds)
  rintro _ _ ⟨within, rfl⟩
  have counts : pre.VolumeWithin env pre.config.volumeLimit trade := within
  rw [if_neg (not_not.mpr counts)]
  rw [if_neg pos, if_neg sized, if_neg (by rw [untripped]; decide), if_neg interest,
    if_neg (not_not.mpr counts)] at early
  rw [wp_ensureUnlocked]
  refine ⟨fun configured => ?_, fun missing => ?_⟩
  rotate_left
  · exact .inl (if_pos (by simpa using missing))
  have configured : ¬ pre.config.userPortfolio = none :=
    Option.isSome_iff_ne_none.mp (by simpa using configured)
  rw [wp_ensureUnlocked, if_neg configured]
  rw [if_neg configured] at early
  refine ⟨fun below => ?_, fun capped => .inl (if_pos (not_not.mp capped))⟩
  rw [if_neg below] at early ⊢
  refine wp_mono (@resolveTradeAmount_reads outside pre trade _
    (counted_config _ _ _ _)) ?_ ?_
  rotate_left
  · rintro (error | _) _ stopped
    · obtain ⟨rfl, high⟩ := stopped
      exact .inl (if_pos high)
    · exact ⟨if_neg (not_not.mpr stopped.1), stopped.2⟩
  rintro effectiveAmount _ ⟨rfl, low, amounts⟩
  rw [if_neg (not_not.mpr low)] at early ⊢
  refine wp_mono (checkBalance_reads _ effectiveAmount _) ?_ ?_
  rotate_left
  · rintro (error | _) _ stopped
    · obtain ⟨rfl, available, read, lacking⟩ := stopped
      refine .inr ⟨available, read, ?_⟩
      rw [amounts available read] at lacking
      simp only [tradeRefusal, early, balanceGate, Option.none_or]
      exact if_pos (by simpa using lacking)
    · exact ⟨rfl, stopped⟩
  rintro deducts _ ⟨available, shortfalls, read, covered, rfl⟩
  simp only [validateAndRecordPosition, wp_rules, wp_ensureUnlocked, counted_portfolio]
  refine ⟨fun _ => ⟨available, read, ?_, ?_⟩, fun refused => absurd (accepts _) refused⟩
  · rw [amounts available read] at covered
    simp only [tradeRefusal, early, balanceGate, Option.none_or]
    exact if_neg (by simpa using covered)
  · have receipt : (({ pre with
        breaker
        executionLock := true } : MarketStore).counted env pre.config.volumeLimit trade).receiptId
          = pre.receiptId := by
      rw [receiptId, counted_receiptId, receiptId]
    rw [← amounts available read]
    refine executedAmount_opened ?_ _ _
    exact receipt

theorem verdicts_agree_iff (available : Int) :
    pre.dryRefusal env trade available = pre.tradeRefusal env trade available ↔
      pre.config.userPortfolio.isSome = true ∨ refusal (pre.openingGates env trade) ≠ none := by
  have dry : pre.dryRefusal env trade available =
      (refusal (pre.openingGates env trade)).or
        (refusal (pre.positionGates trade ++ [pre.balanceGate trade available])) := by
    rw [dryRefusal, append_assoc, refusal_append]
  have real : pre.tradeRefusal env trade available =
      (refusal (pre.openingGates env trade)).or
        ((refusal (pre.portfolioGate :: pre.positionGates trade)).or
          (refusal [pre.balanceGate trade available])) := by
    rw [tradeRefusal, earlyRefusal, refusal_append, Option.or_assoc]
  rw [dry, real]
  cases opening : refusal (pre.openingGates env trade) with
  | some reason => exact ⟨fun _ => .inr (Option.some_ne_none _), fun _ => rfl⟩
  | none =>
    rw [Option.none_or, Option.none_or, portfolioGate, refusal_cons]
    cases configured : pre.config.userPortfolio with
    | some portfolio =>
      refine ⟨fun _ => .inl rfl, fun _ => ?_⟩
      rw [refusal_append]
      rfl
    | none =>
      refine ⟨fun same => ?_, fun either => by simp at either⟩
      obtain ⟨gate, listed, names⟩ := exists_gate_of_refusal same
      simp only [positionGates, balanceGate, cons_append,
        nil_append, mem_cons, not_mem_nil, or_false] at listed
      rcases listed with rfl | rfl | rfl <;> cases names

theorem openingGates_open_iff (unlocked : pre.executionLock = false) :
    refusal (pre.openingGates env trade) = none ↔ Admissible env none pre trade := by
  rw [refusal_eq_none_iff, admissible_iff]
  simp only [openingGates, mem_cons, not_mem_nil, or_false,
    forall_eq_or_imp, forall_eq, decide_eq_false_iff_not, not_le, not_lt, Bool.not_eq_false',
    decide_eq_true_eq, unlocked, true_and]
  exact Iff.rfl

/-- The trade comes to read the balance. -/
structure ReachesBalance (env : Env) (store : MarketStore) (trade : Trade) : Prop where
  admissible : Admissible env none store trade
  configured : store.config.userPortfolio.isSome = true
  below : ¬ store.AtPositionCap trade.user (store.config.isExempt trade.user)
  low : ∀ pctBps ∈ trade.portfolioPctBps, pctBps ≤ maxPositionPctBps

theorem reachesBalance_iff (unlocked : pre.executionLock = false) :
    pre.earlyRefusal env trade = none ↔ ReachesBalance env pre trade := by
  rw [earlyRefusal, refusal_append, Option.or_eq_none_iff,
    openingGates_open_iff unlocked, refusal_eq_none_iff]
  simp only [positionGates, portfolioGate, mem_cons,
    not_mem_nil, or_false, forall_eq_or_imp, forall_eq, decide_eq_false_iff_not,
    Bool.not_eq_false', decide_eq_true_eq, Option.isNone_eq_false_iff]
  exact ⟨fun ⟨admissible, configured, below, low⟩ => ⟨admissible, configured, below, low⟩,
    fun ⟨admissible, configured, below, low⟩ => ⟨admissible, configured, below, low⟩⟩

/-- The dry run agrees with the trade exactly when a portfolio is configured or would not be
looked for; and when the token does not report a balance, only if the trade asks for it. -/
theorem dry_run_agrees {requireUserAuth : Bool} (unlocked : pre.executionLock = false)
    (authorized : requireUserAuth = true → trade.user ∈ env.auths)
    (accepts : ∀ maxPositions, outside.portfolioRefuses pre.portfolio trade.user maxPositions =
      false) : Agrees pre (simulateMarketCopyTrade env outside trade pre)
        (executeMarketCopyTrade env outside trade requireUserAuth none pre) ↔
      (outside.balance trade.token trade.user ≠ none →
        pre.config.userPortfolio.isSome = true ∨ ¬ Admissible env none pre trade) ∧
      (outside.balance trade.token trade.user = none → ReachesBalance env pre trade) := by
  have dry := @simulateMarketCopyTrade_spec env outside pre trade
  have real := executeMarketCopyTrade_refusal unlocked authorized accepts
  rw [← openingGates_open_iff unlocked, ← reachesBalance_iff unlocked]
  cases read : outside.balance trade.token trade.user with
  | none =>
    simp only [read] at dry real
    refine Iff.trans ?_ (and_iff_right fun reported => absurd rfl reported).symm
    refine Iff.trans ?_ (forall_prop_of_true rfl).symm
    cases dryResult : simulateMarketCopyTrade env outside trade pre with
    | ok result after =>
      obtain ⟨_, missing, _⟩ := wp_ok dry dryResult
      cases missing
    | error reason after =>
      cases realResult : executeMarketCopyTrade env outside trade requireUserAuth none pre with
      | ok _ _ =>
        obtain ⟨_, missing, _⟩ := wp_ok real realResult
        cases missing
      | error fault _ =>
        have stopped := wp_error real realResult
        cases fault with
        | error early =>
          rcases stopped with refused | ⟨_, missing, _⟩
          · rw [refused]
            exact ⟨False.elim, fun none => by cases none⟩
          · cases missing
        | trap => exact ⟨fun _ => stopped.1, fun _ => trivial⟩
  | some available =>
    simp only [read] at dry real
    refine Iff.trans ?_ (and_iff_left fun missing => by cases missing).symm
    refine Iff.trans ?_ (forall_prop_of_true (Option.some_ne_none _)).symm
    rw [← ne_eq, ← verdicts_agree_iff available]
    cases dryResult : simulateMarketCopyTrade env outside trade pre with
    | error reason after =>
      obtain ⟨_, _, missing⟩ := wp_error dry dryResult
      cases missing
    | ok result _ =>
      obtain ⟨_, hit, _, succeeds, explained, amount⟩ := wp_ok dry dryResult
      cases hit
      cases realResult : executeMarketCopyTrade env outside trade requireUserAuth none pre with
      | ok _ after =>
        obtain ⟨_, hit, passed, executed⟩ := wp_ok real realResult
        cases hit
        show (_ ∧ _ ∧ _) ↔ _
        rw [passed, executed, amount, succeeds, explained]
        simp
      | error fault _ =>
        have stopped := wp_error real realResult
        cases fault with
        | trap => cases stopped.2
        | error reason =>
          have refused : pre.tradeRefusal env trade available = some reason := by
            rcases stopped with early | ⟨_, hit, refused⟩
            · rw [tradeRefusal, early, Option.some_or]
            · cases hit
              exact refused
          show (_ ∧ _) ↔ _
          rw [refused, succeeds, explained]
          cases pre.dryRefusal env trade available with
          | none => simp
          | some noted => simpa using ContractError.code_injective.eq_iff

end Agreement

/-- A market that holds trades to the smallest size and has nothing configured. -/
def unconfigured : MarketStore := .blank

/-- The same market once a portfolio is configured. -/
def configured : MarketStore :=
  { unconfigured with config := { TradeConfig.blank with userPortfolio := some 9 } }

/-- Tokens that report a balance for everyone and a portfolio that accepts every position. -/
def obliging : Outside where
  balance := fun _ _ => some 1000000
  portfolioRefuses := fun _ _ _ => false
  oracle := fun _ => ⟨0, 0⟩
  swap := .ok 0

def smallTrade : Trade := ⟨1, 2, 2000, none⟩

theorem configured_dry_run_agrees :
    Agrees configured (simulateMarketCopyTrade (.at 0 0 []) obliging smallTrade configured)
      (executeMarketCopyTrade (.at 0 0 []) obliging smallTrade false none configured) :=
  (dry_run_agrees rfl (fun asked => by cases asked) fun _ => rfl).mpr
    ⟨fun _ => .inl rfl, fun missing => by cases missing⟩

/-- Without a portfolio the dry run promises what the trade refuses. -/
theorem unconfigured_dry_run_misleads :
    ¬ Agrees unconfigured (simulateMarketCopyTrade (.at 0 0 []) obliging smallTrade unconfigured)
      (executeMarketCopyTrade (.at 0 0 []) obliging smallTrade false none unconfigured) := by
  intro ⟨succeeds, _⟩
  have promised : true = false := succeeds
  cases promised

end StellarSwipe.TradeExecutor
