import StellarSwipe.TradeExecutor.MarketRuns
import StellarSwipe.TradeExecutor.TriggerRuns

/-!
# Open interest and position counts

A trade raises the open interest of its pair by the amount it names, and the number of its user's
positions.
-/

namespace StellarSwipe.TradeExecutor

open FixedWidth Program Runs Table MarketStore Position Portfolio Int

/-- A trigger closes a position as the runs of the market do. -/
theorem closePositionKeeper_eq (user : Address) (tradeId : Nat) :
    closePositionKeeper user tradeId = zoom TriggerStore.market
      (fun market store => { store with market }) id (closeByTrigger user tradeId) := by
  funext store
  simp only [closePositionKeeper, closeByTrigger, zoom, demand, bind, EStateM.bind, get, getThe,
    MonadStateOf.get]
  delta EStateM.get
  by_cases holds : store.market.portfolio.Holds user tradeId
  · simp only [holds, if_true]
    rfl
  · simp only [holds, if_false]
    rfl

namespace Position

variable (position : Position)

def amountIn (pair : Address) : Int := if position.pair = some pair then position.amount else 0

def countFor (user : Address) : Int := if position.user = user then 1 else 0

variable {position}

theorem amountIn_nonneg (nonneg : 0 ≤ position.amount) (pair : Address) :
    0 ≤ position.amountIn pair := by
  rw [amountIn]
  split
  next => exact nonneg
  next => exact le_rfl

theorem countFor_nonneg (user : Address) : 0 ≤ position.countFor user := by
  rw [countFor]
  split <;> decide

theorem amountIn_of_weightless (weightless : position.pair = none ∨ position.amount = 0)
    (pair : Address) : position.amountIn pair = 0 := by
  rw [amountIn]
  obtain unpaired | empty := weightless
  · rw [unpaired, if_neg (Option.some_ne_none _).symm]
  · rw [empty, ite_self]

end Position

namespace Portfolio

variable (portfolio : Portfolio)

def weigh (weight : Position → Int) : Int := Table.sum (fun _ => weight) portfolio.positions

def openIn (pair : Address) : Int := portfolio.weigh fun position => position.amountIn pair

def openFor (user : Address) : Int := portfolio.weigh fun position => position.countFor user

variable {portfolio}

theorem weigh_record (numbered : portfolio.Numbered) (position : Position)
    (weight : Position → Int) :
    (portfolio.record position).weigh weight = portfolio.weigh weight + weight position := by
  have fresh : portfolio.positions.lookup portfolio.nextPosition = none := by
    cases hit : portfolio.positions.lookup portfolio.nextPosition with
    | none => rfl
    | some other => exact absurd (numbered _ other hit) (lt_irrefl _)
  rw [weigh, record, sum_insert, contribution_of_none fresh, sub_zero, weigh]

variable {positionId : Nat} {position : Position}

theorem weigh_close (has : portfolio.positions.lookup positionId = some position)
    (weight : Position → Int) :
    (portfolio.close positionId).weigh weight = portfolio.weigh weight - weight position := by
  rw [weigh, close, sum_erase, contribution_of_some has, weigh]

theorem weight_le_weigh (has : portfolio.positions.lookup positionId = some position)
    {weight : Position → Int}
    (nonneg : ∀ positionId other, portfolio.positions.lookup positionId = some other →
      0 ≤ weight other) : weight position ≤ portfolio.weigh weight := by
  have part := contribution_le_sum nonneg positionId
  rw [contribution_of_some has] at part
  exact part

end Portfolio

structure CountersExact (store : MarketStore) : Prop where
  interest : ∀ pair, store.openInterestForPair pair = store.portfolio.openIn pair
  count : ∀ user, (store.positionCount user : Int) = store.portfolio.openFor user

/-- What carries exact counters from step to step. -/
structure CountersKept (store : MarketStore) : Prop where
  numbered : store.portfolio.Numbered
  exact : CountersExact store
  nonneg : ∀ positionId position, store.portfolio.positions.lookup positionId = some position →
    0 ≤ position.amount
  bounded : ∀ pair, store.openInterestForPair pair ≤ i128.high

/-- What is taken from the open interest of a pair for a position that was open in it. -/
theorem lowered_exact {current amount released : Int} (nonneg : 0 ≤ amount)
    (part : amount ≤ current) (bounded : current ≤ i128.high)
    (releases : released = amount ∨ (amount ≤ released ∧ current = amount)) :
    max (i128.saturatingSub current released) 0 = current - amount := by
  have low : i128.low ≤ 0 := by decide
  have high : 0 ≤ i128.high := by decide
  rw [Range.saturatingSub, Range.clamp]
  omega

variable (store : MarketStore)

def MarketStore.ReleasesExactly (fromToken : Address) (amount : Int) (position : Position) : Prop :=
  position.pair = some fromToken ∧ (amount = position.amount ∨
    (position.amount ≤ amount ∧ store.openInterestForPair fromToken = position.amount))
deriving Decidable

/-- The trades that raise both counters by what they open. -/
def MarketStore.AddsExactly (outside : Outside) (trade : Trade) : Prop :=
  store.resolvedAmount outside trade = some trade.amount ∧
    i128.Holds (store.openInterestForPair trade.token + trade.amount) ∧
    store.positionCount trade.user < u32Max
deriving Decidable

/-- A step that adds and takes what it opens and closes: an executed trade opens the amount
that it names, a trigger closes no position that was opened in a pair, a user closes a position
by its own token and amount, and a plan opens nothing. -/
def MarketTransition.Balanced (taken : MarketTransition) : Prop :=
  match taken.input.call with
  | .copy trade _ _ _ =>
    taken.executes.isSome = true → taken.pre.store.AddsExactly taken.input.outside trade
  | .trigger _ positionId =>
    ∀ position ∈ taken.pre.store.portfolio.positions.lookup positionId, taken.Returned →
      position.pair = none ∨ position.amount = 0
  | .cancel _ _ tradeId fromToken amount _ =>
    ∀ position ∈ taken.pre.store.portfolio.positions.lookup tradeId, taken.Returned →
      taken.pre.store.ReleasesExactly fromToken amount position
  | .interval _ _ => taken.Returned → taken.pre.store.config.userPortfolio = none
  | _ => True

instance (taken : MarketTransition) : Decidable taken.Balanced := by
  unfold MarketTransition.Balanced
  refine taken.input.call.casesOn ?_ ?_ ?_ ?_ ?_ ?_ ?_ <;> intros <;> infer_instance

namespace CountersKept

variable {pre after : MarketStore}

theorem blank : CountersKept .blank := by
  refine ⟨fun _ _ hit => ?_, ⟨fun _ => rfl, fun _ => rfl⟩, fun _ _ hit => ?_, fun _ => ?_⟩
  · cases hit
  · cases hit
  · show (0 : Int) ≤ i128.high
    decide

theorem unmoved (kept : CountersKept pre) (portfolio : after.portfolio = pre.portfolio)
    (interest : after.openInterestPerPair = pre.openInterestPerPair)
    (counts : after.userPositionCount = pre.userPositionCount) : CountersKept after := by
  have openInterest (pair : Address) : after.openInterestForPair pair =
      pre.openInterestForPair pair := by
    rw [openInterestForPair, interest, openInterestForPair]
  have positionCount (user : Address) : after.positionCount user = pre.positionCount user := by
    rw [positionCount, counts, positionCount]
  refine ⟨?_, ⟨fun pair => ?_, fun user => ?_⟩, ?_, fun pair => ?_⟩
  · rw [portfolio]
    exact kept.numbered
  · rw [openInterest, portfolio, kept.exact.interest]
  · rw [positionCount, portfolio, kept.exact.count]
  · rw [portfolio]
    exact kept.nonneg
  · rw [openInterest]
    exact kept.bounded pair

theorem opens (kept : CountersKept pre) {user pair : Address} {amount : Int}
    (pos : 0 < amount) (fits : i128.Holds (pre.openInterestForPair pair + amount))
    (room : pre.positionCount user < u32Max)
    (portfolio : after.portfolio = pre.portfolio.record ⟨user, some pair, amount⟩)
    (interest : after.openInterestPerPair = pre.openInterestPerPair.insert pair
      (raised (pre.openInterestForPair pair) amount))
    (counts : after.userPositionCount = pre.userPositionCount.insert user
      (satCount u32Max (pre.positionCount user) 1)) : CountersKept after := by
  have sum : raised (pre.openInterestForPair pair) amount =
      pre.openInterestForPair pair + amount := by
    rw [raised, Range.checkedAdd, Range.checked, if_pos fits, Option.getD_some]
  have openInterest (other : Address) : after.openInterestForPair other =
      pre.openInterestForPair other + Position.amountIn ⟨user, some pair, amount⟩ other := by
    rw [openInterestForPair, interest, read_insert, Position.amountIn]
    split
    next own => rw [own, if_pos rfl, sum]
    next otherPair =>
      rw [if_neg fun same => otherPair (Option.some.inj same).symm, add_zero]
      rfl
  refine ⟨?_, ⟨fun other => ?_, fun other => ?_⟩, fun positionId position has => ?_,
    fun other => ?_⟩
  · rw [portfolio]
    exact (record_onward _).numbered kept.numbered
  · rw [openInterest, portfolio, openIn, weigh_record kept.numbered,
      kept.exact.interest, openIn]
  · rw [portfolio, openFor, weigh_record kept.numbered, ← openFor,
      ← kept.exact.count, positionCount, counts, lookup_insert,
      countFor]
    split
    next own =>
      rw [own, if_pos rfl, Option.getD_some, saturating_count_exact room]
      rfl
    next otherUser =>
      rw [if_neg fun same => otherUser same.symm, add_zero]
      rfl
  · rw [portfolio, Portfolio.record, lookup_insert] at has
    split at has
    next =>
      cases has
      exact pos.le
    next => exact kept.nonneg positionId position has
  · rw [openInterestForPair, interest, read_insert]
    split
    next => exact sum ▸ fits.2
    next => exact kept.bounded other

theorem closes (kept : CountersKept pre) {positionId : Nat} {position : Position}
    (has : pre.portfolio.positions.lookup positionId = some position)
    (portfolio : after.portfolio = pre.portfolio.close positionId)
    (interest : ∀ pair, after.openInterestForPair pair =
      pre.openInterestForPair pair - position.amountIn pair)
    (counts : after.userPositionCount = pre.userPositionCount.insert position.user
      (pre.positionCount position.user - 1)) : CountersKept after := by
  have counted : 1 ≤ pre.positionCount position.user := by
    have part : position.countFor position.user ≤ pre.portfolio.openFor position.user :=
      weight_le_weigh has fun _ _ _ => countFor_nonneg _
    rw [← kept.exact.count, countFor, if_pos rfl] at part
    exact Int.ofNat_le.mp part
  refine ⟨?_, ⟨fun pair => ?_, fun user => ?_⟩, fun other openPosition hit => ?_, fun pair => ?_⟩
  · rw [portfolio]
    exact (close_onward _).numbered kept.numbered
  · rw [interest, portfolio, openIn, weigh_close has, kept.exact.interest,
      openIn]
  · rw [portfolio, openFor, weigh_close has, ← openFor,
      ← kept.exact.count, positionCount, counts, lookup_insert,
      countFor]
    split
    next own =>
      rw [own, if_pos rfl, Option.getD_some]
      omega
    next otherUser =>
      rw [if_neg fun same => otherUser same.symm, sub_zero]
      rfl
  · rw [portfolio, Portfolio.close, lookup_erase] at hit
    split at hit
    next => cases hit
    next => exact kept.nonneg other openPosition hit
  · rw [interest]
    have nonneg := amountIn_nonneg (kept.nonneg positionId position has) pair
    have bounded := kept.bounded pair
    omega

theorem released (kept : CountersKept pre) {positionId : Nat} {position : Position}
    (has : pre.portfolio.positions.lookup positionId = some position) {fromToken : Address}
    {amount : Int} (exactly : pre.ReleasesExactly fromToken amount position)
    (interest : after.openInterestPerPair = pre.openInterestPerPair.insert fromToken
      (max (i128.saturatingSub (pre.openInterestForPair fromToken) amount) 0)) (pair : Address) :
    after.openInterestForPair pair = pre.openInterestForPair pair - position.amountIn pair := by
  obtain ⟨paired, releases⟩ := exactly
  rw [openInterestForPair, interest, read_insert, Position.amountIn, paired]
  split
  next own =>
    have nonneg := kept.nonneg positionId position has
    have part : position.amountIn fromToken ≤ pre.portfolio.openIn fromToken :=
      weight_le_weigh has fun other openPosition hit =>
        amountIn_nonneg (kept.nonneg other openPosition hit) _
    rw [Position.amountIn, if_pos paired, ← kept.exact.interest] at part
    rw [own, if_pos rfl]
    exact lowered_exact nonneg part (kept.bounded fromToken) releases
  next other =>
    rw [if_neg fun same => other (Option.some.inj same).symm, sub_zero]
    rfl

theorem failed (kept : CountersKept pre) {env : Env} {outside : Outside}
    {batchCtx : Option BatchExecutionContext} {trade : Trade} {reason : ContractError}
    (effect : TradeEffect env outside batchCtx pre trade (.error reason) after) :
    CountersKept after := by
  cases effect with
  | turnedAway => exact kept.unmoved rfl rfl rfl
  | unopened =>
    rw [MarketStore.counted]
    split <;> exact kept.unmoved rfl rfl rfl

theorem executed (kept : CountersKept pre) {env : Env} {outside : Outside}
    {batchCtx : Option BatchExecutionContext} {trade : Trade} (adds : pre.AddsExactly outside trade)
    (effect : TradeEffect env outside batchCtx pre trade (.ok ()) after) : CountersKept after := by
  obtain ⟨whole, fits, room⟩ := adds
  cases effect with
  | opened admissible resolved =>
    cases Option.mem_unique whole resolved
    refine kept.opens admissible.pos fits room ?_ ?_ ?_ <;>
      rw [opened_eq, MarketStore.counted] <;> split <;> rfl

theorem step {ledger : Ledger MarketStore} {input : MarketInput} (kept : CountersKept ledger.store)
    (balanced : MarketTransition.Balanced ⟨ledger, input, marketStep input ledger⟩) :
    CountersKept (marketStep input ledger).store := by
  by_cases returns : MarketTransition.Returned ⟨ledger, input, marketStep input ledger⟩
  case neg =>
    have same : (marketStep input ledger).store = ledger.store := invoke_of_rejected returns
    rw [same]
    exact kept
  have effect := marketStep_effect input ledger
  obtain ⟨arrival, outside, call⟩ := input
  dsimp only at effect
  generalize (marketStep ⟨arrival, outside, call⟩ ledger).store = after at effect
  cases effect with
  | rejected rejected => exact absurd returns rejected
  | executed accepts effect =>
    refine kept.executed (balanced ?_) effect
    exact (congrArg Option.isSome (if_pos accepts)).trans rfl
  | failed _ effect => exact kept.failed effect
  | finalized => exact kept.unmoved rfl rfl rfl
  | filled => exact kept
  | partlyFilled => exact kept.unmoved rfl rfl rfl
  | triggered holds =>
    obtain ⟨position, has, rfl⟩ := holds
    refine kept.closes has rfl (fun pair => ?_) rfl
    rw [amountIn_of_weightless (balanced position has returns), sub_zero]
    rfl
  | cancelled holds =>
    obtain ⟨position, has, rfl⟩ := holds
    exact kept.closes has rfl (kept.released has (balanced position has returns) rfl) rfl
  | unplanned => exact kept
  | planned set => exact absurd (balanced returns) set
  | elsewhere => exact kept.unmoved rfl rfl rfl

end CountersKept

/-- In every run of balanced steps the counters tell what is open. -/
theorem counters_exact_of_balanced (timestamp sequence : Nat) (inputs : List MarketInput)
    (balanced : ∀ taken ∈ trace marketStep (marketStart timestamp sequence) inputs,
      MarketTransition.Balanced taken) :
    CountersExact (final marketStep (marketStart timestamp sequence) inputs).store := by
  have kept := transition_history_invariant marketStep
    (fun _ ledger => CountersKept ledger.store) MarketTransition.Balanced
    (fun _ ledger input balanced kept => kept.step balanced) (marketStart timestamp sequence)
    CountersKept.blank inputs balanced
  exact kept.exact

def tradingConfig : TradeConfig :=
  { TradeConfig.blank with
    userPortfolio := some 9
    sdexRouter := some 8 }

/-- A trade of 2000 in the pair 2. -/
def openingRun : List MarketInput :=
  let outside : Outside :=
    ⟨fun _ _ => some 1000000, fun _ _ _ => false, fun _ => ⟨0, 0⟩, .ok 0⟩
  [⟨⟨1, 1, []⟩, outside, .elsewhere tradingConfig ⟨false, none⟩ ∅⟩,
    ⟨⟨1, 1, []⟩, outside, .copy ⟨1, 2, 2000, none⟩ false none false⟩]

def closingRun (call : MarketCall) : List MarketInput :=
  let outside : Outside :=
    ⟨fun _ _ => some 1000000, fun _ _ _ => false, fun _ => ⟨0, 0⟩, .ok 2500⟩
  openingRun ++ [⟨⟨1, 1, [1]⟩, outside, call⟩]

/-- A trigger that closes the only position of a pair leaves the pair's open interest. -/
theorem triggered_interest_stays : ¬ ∀ (timestamp sequence : Nat) (inputs : List MarketInput),
      CountersExact (final marketStep (marketStart timestamp sequence) inputs).store := by
  intro every
  have interest := (every 0 0 (closingRun (.trigger 1 1))).interest 2
  have kept : (final marketStep (marketStart 0 0)
    (closingRun (.trigger 1 1))).store.openInterestForPair 2 = 2000 := rfl
  have nothing : (final marketStep (marketStart 0 0)
    (closingRun (.trigger 1 1))).store.portfolio.openIn 2 = 0 := rfl
  rw [kept, nothing] at interest
  cases interest

theorem cancelled_run_exact : CountersExact (final marketStep (marketStart 0 0)
      (closingRun (.cancel 1 1 1 2 2000 10000000))).store :=
  counters_exact_of_balanced 0 0 _ (by decide)

end StellarSwipe.TradeExecutor
