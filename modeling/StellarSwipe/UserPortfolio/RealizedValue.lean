import StellarSwipe.UserPortfolio.Records

/-!
# Realized value

What a user's calls realize is kept in the records of the user's positions, open and closed, and
in the total of the lots.
-/

namespace StellarSwipe.UserPortfolio

open FixedWidth Program Runs ListedSums PortfolioTransition PortfolioStore Range List Option Int

namespace PortfolioStore

variable (store : PortfolioStore) (user : Address)

def realizedAt (positionId : Nat) : Int :=
  ((store.positions.lookup positionId).map (·.realizedPnl)).getD 0

/-- All that the positions and the lots of a user keep as realized. -/
def realizedOn : Int := total store.realizedAt (store.positionsOf user) + store.fifoRealized user

def openRealized : Int :=
  (((store.recordedPositions user).filter (·.status = .open)).map (·.realizedPnl)).sum

def closedRealizations : List Int :=
  ((store.recordedPositions user).filter (·.status ≠ .open)).map (·.realizedPnl)

/-- No addition of the profit and loss overflows. -/
def PnlFits : Prop :=
  i128.PartialSums 0 (store.closedRealizations user) ∧
    i128.Holds ((store.closedRealizations user).sum + store.fifoRealized user)
deriving Decidable

end PortfolioStore

def PortfolioTransition.realizedBy (user : Address) (taken : PortfolioTransition) : Int :=
  if taken.Returned then
    match taken.input.call with
    | .closes owner _ realizedPnl _ _ => if owner = user then realizedPnl else 0
    | .closesPartly owner _ _ realizedPnlDelta => if owner = user then realizedPnlDelta else 0
    | .closesFifo owner closeAmount exitPrice =>
      if owner = user then
        valueOr 0 (closeFifo (taken.pre.env taken.input.arrival) owner closeAmount exitPrice)
          taken.pre.store
      else 0
    | _ => 0
  else 0

/-- The total of the lots takes what the call realizes without saturating. -/
def PortfolioTransition.WithoutOverflow (taken : PortfolioTransition) : Prop :=
  match taken.input.call with
  | .closesFifo owner _ _ =>
    i128.Holds (taken.pre.store.fifoRealized owner + taken.realizedBy owner)
  | _ => True

instance (taken : PortfolioTransition) : Decidable taken.WithoutOverflow := by
  unfold PortfolioTransition.WithoutOverflow
  refine taken.input.call.casesOn ?_ ?_ ?_ ?_ ?_ ?_ ?_ ?_ ?_ ?_ ?_ ?_ ?_ <;> intros <;>
    infer_instance

section Summary

variable {store : PortfolioStore} {user : Address}

/-- What the positions keep, open and not open apart. The induction is on the list. -/
theorem realized_split (positionIds : List Nat) : total store.realizedAt positionIds =
      (((positionIds.filterMap store.positions.lookup).filter (·.status ≠ .open)).map
        (·.realizedPnl)).sum +
      (((positionIds.filterMap store.positions.lookup).filter (·.status = .open)).map
        (·.realizedPnl)).sum := by
  induction positionIds with
  | nil => rfl
  | cons positionId rest ih =>
    simp only [total, map_cons, sum_cons] at ih ⊢
    rw [ih, realizedAt, filterMap_cons]
    cases has : store.positions.lookup positionId with
    | none => simp
    | some position =>
      by_cases isOpen : position.status = .open
      · simp only [map_some, getD_some, filter_cons, isOpen, ne_eq,
          not_true_eq_false, decide_false, Bool.false_eq_true, if_false, decide_true, if_true,
          map_cons, sum_cons]
        omega
      · simp only [map_some, getD_some, filter_cons, isOpen, ne_eq,
          not_false_eq_true, decide_false, Bool.false_eq_true, if_false, decide_true, if_true,
          map_cons, sum_cons]
        omega

/-- Without overflow the realized profit and loss leaves out what open positions carry. -/
theorem realizedPnl_eq (fits : store.PnlFits user) :
    store.realizedPnl user = store.realizedOn user - store.openRealized user := by
  obtain ⟨partials, held⟩ := fits
  have positions : store.realizedByPositions user = (store.closedRealizations user).sum := by
    rw [realizedByPositions, ← closedRealizations, accumulate_of_partialSums partials, zero_add]
  have split := @realized_split store (store.positionsOf user)
  rw [realizedPnl, positions, Range.checkedAdd, Range.checked, if_pos held,
    getD_some, realizedOn, split, openRealized,
    closedRealizations, recordedPositions]
  omega

theorem computeGetPnl_realized {env : Env} {getPrice : OracleCall} {summary : PnlSummary}
    {after : PortfolioStore}
    (gave : computeGetPnl env getPrice user store = .ok summary after) :
    summary.realizedPnl = store.realizedPnl user := by
  refine wp_ok (?_ : wlp _ (fun (summary : PnlSummary) _ =>
    summary.realizedPnl = store.realizedPnl user) store) gave
  simp only [computeGetPnl, wlp_rules]
  intro _ _
  split
  next => rfl
  next price _ =>
    simp only [oraclePriceToI128, wp_ite, wp_map, wlp_rules]

end Summary

section Steps

variable {pre after : PortfolioStore} {user owner : Address} {positionId : Nat}

theorem realizedAt_changed {changed : Position}
    (positions : after.positions = pre.positions.insert positionId changed) (tested : Nat) :
    after.realizedAt tested =
      if tested = positionId then changed.realizedPnl else pre.realizedAt tested := by
  rw [realizedAt, positions, Table.lookup_insert]
  split <;> rfl

theorem realizedOn_replaced (enrolled : Enrolled pre) {position : Position}
    (changed : Position) {realized : Int} (holds : pre.HoldsOpen owner positionId position)
    (positions : after.positions = pre.positions.insert positionId changed)
    (listed : after.userPositions = pre.userPositions)
    (lots : after.userFifoRealizedPnl = pre.userFifoRealizedPnl)
    (more : changed.realizedPnl = position.realizedPnl + realized) :
    after.realizedOn user = pre.realizedOn user + if owner = user then realized else 0 := by
  have lotsSame : after.fifoRealized user = pre.fifoRealized user := by
    rw [fifoRealized, lots, fifoRealized]
  have prior : pre.realizedAt positionId = position.realizedPnl := by
    rw [realizedAt, holds.has, map_some, getD_some]
  rw [realizedOn, positionsOf_same listed, lotsSame, realizedOn]
  split
  next own =>
    subst own
    have changedTotal := total_changed (enrolled.distinct owner) holds.listed
      (fun tested other => (realizedAt_changed positions tested).trans (if_neg other))
    rw [changedTotal, realizedAt_changed positions, if_pos rfl, prior, more]
    omega
  next other =>
    have same : total after.realizedAt (pre.positionsOf user) =
        total pre.realizedAt (pre.positionsOf user) := by
      refine total_congr fun tested mem => ?_
      rw [realizedAt_changed positions, if_neg]
      rintro rfl
      exact other (enrolled.owned owner user tested holds.listed mem)
    rw [same]
    omega

theorem realizedOn_enlisted (enrolled : Enrolled pre) (position : Position)
    (next : pre.nextPositionId = some positionId)
    (positions : after.positions = pre.positions.insert positionId position)
    (listed : after.userPositions =
      pre.userPositions.insert owner (pre.positionsOf owner ++ [positionId]))
    (lots : after.userFifoRealizedPnl = pre.userFifoRealizedPnl)
    (nothing : position.realizedPnl = 0) : after.realizedOn user = pre.realizedOn user := by
  have lotsSame : after.fifoRealized user = pre.fifoRealized user := by
    rw [fifoRealized, lots, fifoRealized]
  have prior (someone : Address) : total after.realizedAt (pre.positionsOf someone) =
      total pre.realizedAt (pre.positionsOf someone) := by
    refine total_congr fun tested mem => ?_
    rw [realizedAt_changed positions, if_neg]
    rintro rfl
    exact enrolled.fresh next someone mem
  rw [realizedOn, positionsOf_enlisted listed, lotsSame, realizedOn]
  split
  next own =>
    rw [total_concat, realizedAt_changed positions, if_pos rfl, nothing, own, prior]
    omega
  next => rw [prior]

theorem realizedOn_kept (positions : after.positions = pre.positions)
    (listed : after.userPositions = pre.userPositions)
    (lots : after.userFifoRealizedPnl = pre.userFifoRealizedPnl) :
    after.realizedOn user = pre.realizedOn user := by
  rw [realizedOn, positionsOf_same listed, fifoRealized, lots]
  congr 1
  refine total_congr fun tested _ => ?_
  rw [realizedAt, positions, realizedAt]

/-- A call of `close_fifo` that returns gives what the lots realize. -/
theorem closeFifo_value {env : Env} {closeAmount exitPrice : Int}
    (accepts : Accepts (closeFifo env owner closeAmount exitPrice) pre) :
    valueOr 0 (closeFifo env owner closeAmount exitPrice) pre =
      (consumeLots exitPrice closeAmount 0 (pre.fifoLots owner)).2.1 := by
  obtain ⟨value, after, gave⟩ := accepts
  rw [valueOr_of_ok gave]
  refine wp_ok (?_ : wlp _ (fun (value : Int) _ => value =
    (consumeLots exitPrice closeAmount 0 (pre.fifoLots owner)).2.1) pre)
    gave
  simp only [closeFifo, wlp_rules]

theorem realizedOn_lots {realized : Int} {lots : Table Address (List CostLot)}
    (held : i128.Holds (pre.fifoRealized owner + realized)) :
    realizedOn { pre with
      userFifoLots := lots
      userFifoRealizedPnl := pre.userFifoRealizedPnl.insert owner
        (i128.saturatingAdd (pre.fifoRealized owner) realized) } user =
      pre.realizedOn user + if owner = user then realized else 0 := by
  have lotsAdded : fifoRealized { pre with
      userFifoLots := lots
      userFifoRealizedPnl := pre.userFifoRealizedPnl.insert owner
        (i128.saturatingAdd (pre.fifoRealized owner) realized) } user =
      pre.fifoRealized user + if owner = user then realized else 0 := by
    rw [fifoRealized, Table.lookup_insert]
    by_cases own : user = owner
    · rw [if_pos own, if_pos own.symm, getD_some, saturatingAdd,
        clamp_of_holds _ held, own]
    · rw [if_neg own, if_neg fun same => own same.symm, add_zero]
      rfl
  rw [realizedOn, lotsAdded, ← add_assoc]
  rfl

end Steps

/-- The records are sound and keep all that was realized. -/
structure RealizedKept (past : List PortfolioTransition) (ledger : Ledger PortfolioStore) :
    Prop where
  enrolled : Enrolled ledger.store
  recorded : Recorded ledger.store
  realized : ∀ user, ledger.store.realizedOn user =
    (past.map (realizedBy user)).sum
  persists : ∀ taken ∈ past, Persists taken.pre.store taken.after.store

/-- What a step realizes is what its user's records keep more. -/
theorem realizedOn_step (input : PortfolioInput) (ledger : Ledger PortfolioStore)
    (enrolled : Enrolled ledger.store)
    (fits : PortfolioTransition.WithoutOverflow ⟨ledger, input, portfolioStep input ledger⟩)
    (user : Address) :
    (portfolioStep input ledger).store.realizedOn user = ledger.store.realizedOn user +
      realizedBy user ⟨ledger, input, portfolioStep input ledger⟩ := by
  rcases portfolioStep_effect input ledger with ⟨gave, effect⟩ | ⟨rejected, same⟩
  · rw [realizedBy, if_pos gave]
    obtain ⟨arrival, call⟩ := input
    dsimp only at effect ⊢
    generalize (portfolioStep ⟨arrival, call⟩ ledger).store = after at effect
    cases effect with
    | configured => exact (realizedOn_kept rfl rfl rfl).trans (add_zero _).symm
    | opened _ _ next =>
      refine Eq.trans (b := ledger.store.realizedOn user) ?_ (add_zero _).symm
      exact realizedOn_enlisted enrolled _ next rfl rfl rfl rfl
    | openedCapped _ _ next =>
      refine Eq.trans (b := ledger.store.realizedOn user) ?_ (add_zero _).symm
      exact realizedOn_enlisted enrolled _ next rfl rfl rfl rfl
    | closed holds settles =>
      obtain ⟨_, _, _, rfl⟩ := settles
      exact realizedOn_replaced enrolled _ holds rfl rfl rfl rfl
    | @keeperClosed _ owner _ _ _ _ holds settles =>
      obtain ⟨_, _, _, rfl⟩ := settles
      refine Eq.trans (b := ledger.store.realizedOn user + if owner = user then 0 else 0) ?_
        (congrArg _ (ite_self _))
      exact realizedOn_replaced enrolled _ holds rfl rfl rfl (add_zero _).symm
    | reduced holds => exact realizedOn_replaced enrolled _ holds rfl rfl rfl rfl
    | drained holds _ _ settles =>
      obtain ⟨_, _, _, rfl⟩ := settles
      exact realizedOn_replaced enrolled _ holds rfl rfl rfl rfl
    | capSet => exact (realizedOn_kept rfl rfl rfl).trans (add_zero _).symm
    | capRemoved => exact (realizedOn_kept rfl rfl rfl).trans (add_zero _).symm
    | lotAdded => exact (realizedOn_kept rfl rfl rfl).trans (add_zero _).symm
    | @lotsConsumed owner closeAmount exitPrice lots =>
      have value := @closeFifo_value ledger.store owner (ledger.env arrival) closeAmount exitPrice
        (accepts_discard.mp gave)
      show realizedOn _ user = ledger.store.realizedOn user +
        if owner = user then valueOr 0 (closeFifo (ledger.env arrival) owner closeAmount exitPrice)
          ledger.store else 0
      rw [value]
      refine realizedOn_lots ?_
      have held : i128.Holds (_ + _) := fits
      rw [realizedBy, if_pos gave] at held
      dsimp only at held
      rwa [if_pos rfl, value] at held
    | read reindexes =>
      obtain ⟨⟨_, _, _, _, rfl⟩, _⟩ := reindexes
      exact (realizedOn_kept rfl rfl rfl).trans (add_zero _).symm
    | registered => exact (realizedOn_kept rfl rfl rfl).trans (add_zero _).symm
    | migrated reindexes =>
      obtain ⟨⟨_, _, _, _, rfl⟩, _⟩ := reindexes
      exact (realizedOn_kept rfl rfl rfl).trans (add_zero _).symm
  · rw [realizedBy, if_neg rejected, same, add_zero]

theorem RealizedKept.step {past : List PortfolioTransition} {ledger : Ledger PortfolioStore}
    {input : PortfolioInput} (kept : RealizedKept past ledger)
    (fits : PortfolioTransition.WithoutOverflow ⟨ledger, input, portfolioStep input ledger⟩) :
    RealizedKept (past ++ [⟨ledger, input, portfolioStep input ledger⟩])
      (portfolioStep input ledger) := by
  have move := portfolioStep_move input ledger
  refine ⟨kept.enrolled.move move, kept.recorded.move move, fun user => ?_, fun taken mem => ?_⟩
  · rw [map_append, sum_append, map_singleton, sum_singleton, ← kept.realized]
    exact realizedOn_step input ledger kept.enrolled fits user
  · rcases mem_snoc.mp mem with prior | rfl
    · exact kept.persists taken prior
    · exact kept.recorded.persists move

/-- The realized profit and loss is what the user's calls realized exactly when the open
positions carry nothing; amounts are never negative and never rise, and a closed position
stays as it is. -/
theorem realized_when_open_carry_nothing (timestamp sequence : Nat) (inputs : List PortfolioInput)
    (fits : ∀ taken ∈ trace portfolioStep (portfolioStart timestamp sequence) inputs,
      PortfolioTransition.WithoutOverflow taken) (user : Address) :
    let past := trace portfolioStep (portfolioStart timestamp sequence) inputs
    let store := (final portfolioStep (portfolioStart timestamp sequence) inputs).store
    (∀ env getPrice summary after, store.PnlFits user →
      computeGetPnl env getPrice user store = .ok summary after →
      (summary.realizedPnl = (past.map (realizedBy user)).sum ↔
        store.openRealized user = 0)) ∧
    (∀ positionId position, store.positions.lookup positionId = some position →
      0 ≤ position.amount) ∧
    ∀ taken ∈ past, Persists taken.pre.store taken.after.store := by
  have kept := transition_history_invariant portfolioStep RealizedKept
    PortfolioTransition.WithoutOverflow (fun _ _ _ fits kept => kept.step fits)
    (portfolioStart timestamp sequence)
    ⟨.blank, .blank, fun _ => rfl, fun _ mem => (by cases mem)⟩ inputs fits
  refine ⟨fun env getPrice summary after fits gave => ?_, kept.recorded.nonneg, kept.persists⟩
  rw [computeGetPnl_realized gave, realizedPnl_eq fits, ← kept.realized]
  omega

def partlyClosed (closeAmount : Int) : List PortfolioInput :=
  [⟨⟨1, 1, [1]⟩, .configures { PortfolioConfig.blank with oracle := some 7 }⟩,
    ⟨⟨1, 1, [1]⟩, .opens 1 100 1000⟩, ⟨⟨1, 1, [1]⟩, .closesPartly 1 1 closeAmount 50⟩]

/-- What a partial close realizes is missing while the position is open. -/
theorem partial_close_left_out : ¬ ∀ (timestamp sequence : Nat) (inputs : List PortfolioInput),
      (∀ taken ∈ trace portfolioStep (portfolioStart timestamp sequence) inputs,
        PortfolioTransition.WithoutOverflow taken) →
      let store := (final portfolioStep (portfolioStart timestamp sequence) inputs).store
      ∀ (user : Address) (env : Env) (getPrice : OracleCall) (summary : PnlSummary)
        (after : PortfolioStore), store.PnlFits user →
        computeGetPnl env getPrice user store = .ok summary after →
        summary.realizedPnl = ((trace portfolioStep (portfolioStart timestamp sequence)
          inputs).map (realizedBy user)).sum := by
  intro every
  have equal := every 0 0 (partlyClosed 400) (by decide) 1 (.at 5 5 []) (fun _ => none)
    ⟨0, none, 0, 0⟩ _ (by decide) rfl
  have realized : ((trace portfolioStep (portfolioStart 0 0) (partlyClosed 400)).map
    (realizedBy 1)).sum = 50 := by decide
  rw [realized] at equal
  cases equal

theorem drained_position_counts :
    let store := (final portfolioStep (portfolioStart 0 0) (partlyClosed 1000)).store
    store.realizedPnl 1 = ((trace portfolioStep (portfolioStart 0 0)
      (partlyClosed 1000)).map (realizedBy 1)).sum :=
  ((realized_when_open_carry_nothing 0 0 (partlyClosed 1000) (by decide) 1).1 (.at 5 5 [])
    (fun _ => none) _ _ (by decide) rfl).mpr (by decide)

end StellarSwipe.UserPortfolio
