import StellarSwipe.Library.Runs
import StellarSwipe.TradeExecutor.Triggers

/-!
# Runs of the price triggers

The peak of a trailing stop is the highest price that was observed for the position, as long as no
other check observes a higher one; then the stop fires at exactly its distance below the peak.
-/

namespace StellarSwipe.TradeExecutor

open FixedWidth Program Runs Table TriggerStore Portfolio MarketStore

namespace Portfolio

/-- Numbers are given in order. -/
def Numbered (portfolio : Portfolio) : Prop :=
  ∀ positionId position, portfolio.positions.lookup positionId = some position →
    positionId < portfolio.nextPosition

/-- New positions get new numbers, so what was closed stays closed. -/
structure Onward (pre after : Portfolio) : Prop where
  numbered : pre.Numbered → after.Numbered
  later : pre.nextPosition ≤ after.nextPosition
  closed : ∀ positionId < pre.nextPosition, pre.positions.lookup positionId = none →
    after.positions.lookup positionId = none

variable {portfolio : Portfolio}

theorem onward_refl (portfolio : Portfolio) : portfolio.Onward portfolio :=
  ⟨id, le_rfl, fun _ _ closed => closed⟩

theorem record_onward (position : Position) : portfolio.Onward (portfolio.record position) := by
  refine ⟨fun numbered positionId other has => ?_, Nat.le_succ _, fun positionId old closed => ?_⟩
  · rw [record, lookup_insert] at has
    split at has
    next same => exact same ▸ Nat.lt_succ_self _
    next => exact (numbered positionId other has).trans (Nat.lt_succ_self _)
  · rw [record, lookup_insert, if_neg old.ne]
    exact closed

theorem close_onward (closing : Nat) : portfolio.Onward (portfolio.close closing) := by
  refine ⟨fun numbered positionId other has => ?_, le_rfl, fun positionId _ closed => ?_⟩
  · rw [close, lookup_erase] at has
    split at has
    next => cases has
    next => exact numbered positionId other has
  · rw [close, lookup_erase, closed, ite_self]

theorem Onward.trans {first second third : Portfolio} (early : first.Onward second)
    (late : second.Onward third) : first.Onward third :=
  ⟨late.numbered ∘ early.numbered, early.later.trans late.later, fun positionId old closed =>
    late.closed positionId (old.trans_le early.later) (early.closed positionId old closed)⟩

theorem moves_onward (moves : List PortfolioMove) (portfolio : Portfolio) :
    portfolio.Onward (moves.foldl PortfolioMove.apply portfolio) := by
  induction moves generalizing portfolio with
  | nil => exact portfolio.onward_refl
  | cons move rest ih =>
    refine Onward.trans ?_ (ih _)
    cases move with
    | opens position => exact record_onward position
    | closes positionId => exact close_onward positionId

end Portfolio

def TriggerStore.closedWhen (store : TriggerStore) (fired : Bool) (user : Address)
    (tradeId : Nat) : TriggerStore :=
  if fired = true then
    let closed : MarketStore :=
      { store.market with portfolio := store.market.portfolio.close tradeId }
    { store with market := closed.decrementUserPositionCount user }
  else store

@[simp] theorem TriggerStore.closedWhen_trailPeak (store : TriggerStore) (fired : Bool)
    (user : Address) (tradeId : Nat) :
    (store.closedWhen fired user tradeId).trailPeak = store.trailPeak := by
  cases fired <;> rfl

/-- An oracle's reading that a check uses. -/
def OracleReading.Fresh (reading : OracleReading) (now : Nat) : Prop :=
  reading.updatedAt ≠ 0 ∧ now - reading.updatedAt ≤ maxOraclePriceAgeSecs
deriving Decidable

section Checks

variable {env : Env} {outside : Outside} {user : Address} {tradeId assetPair : Nat}

theorem triggerWhen_spec (condition : Prop) [Decidable condition] (pre : TriggerStore) :
    wp (triggerWhen condition user tradeId) (fun fired after => fired = decide condition ∧
        (fired = true → pre.market.portfolio.Holds user tradeId) ∧
        after = pre.closedWhen fired user tradeId) (fun _ _ => True) pre := by
  rw [triggerWhen, wp_ite]
  refine ⟨fun called => ?_, fun quiet => ⟨(decide_eq_false quiet).symm, ?_, rfl⟩⟩
  · simp only [closePositionKeeper, wp_rules]
    exact ⟨fun holds => ⟨(decide_eq_true called).symm, fun _ => holds, rfl⟩, fun _ => trivial⟩
  · exact fun fired => by cases fired

theorem fetchCurrentPrice_spec (pre : TriggerStore) : wlp (fetchCurrentPrice env outside assetPair)
      (fun price after => price = (outside.oracle assetPair).price ∧
        (outside.oracle assetPair).Fresh env.timestamp ∧ after = pre) pre := by
  simp only [fetchCurrentPrice, wp_rules]
  exact ⟨fun set => ⟨fun recent => ⟨trivial, ⟨set, not_lt.mp recent⟩, trivial⟩, fun _ => trivial⟩,
    fun _ => trivial⟩

theorem fetchOracleAndPortfolio_spec (pre : TriggerStore) :
    wlp fetchOracleAndPortfolio (fun _ after => after = pre) pre := by
  simp [fetchOracleAndPortfolio]

theorem updateTrailingPeak_spec {pre : TriggerStore} {peak : Int} (price : Int)
    (hit : pre.trailPeak.lookup (user, tradeId) = some peak) :
    wp (updateTrailingPeak user tradeId price)
      (fun highest after => highest = max peak price ∧ ∃ peaks,
        after = { pre with trailPeak := peaks } ∧
        ∀ key, peaks.lookup key = if key = (user, tradeId) then some (max peak price)
          else pre.trailPeak.lookup key)
      (fun _ _ => False) pre := by
  simp only [updateTrailingPeak, wp_rules, wp_ite, hit, Option.getD_some]
  refine ⟨fun higher => ⟨(max_eq_right higher.le).symm, _, rfl, fun key => ?_⟩,
    fun lower => ⟨(max_eq_left (not_lt.mp lower)).symm, pre.trailPeak, rfl, fun key => ?_⟩⟩
  · rw [lookup_insert, max_eq_right higher.le]
  · split
    next same => rw [same, hit, max_eq_left (not_lt.mp lower)]
    next => rfl

/-- A check of the stop loss or the take profit closes the position or changes nothing. -/
theorem fixed_check_spec {kind : TriggerKind} (fixed : kind ≠ .trailingStop)
    (pre : TriggerStore) : wlp (kind.check env outside user tradeId assetPair)
      (fun fired after => (outside.oracle assetPair).Fresh env.timestamp ∧
        (fired = true → pre.market.portfolio.Holds user tradeId) ∧
        after = pre.closedWhen fired user tradeId) pre := by
  cases kind with
  | trailingStop => exact absurd rfl fixed
  | stopLoss =>
    simp only [TriggerKind.check, checkAndTriggerStopLoss, wp_rules]
    refine wp_then (fetchOracleAndPortfolio_spec pre) ?_
    rintro _ _ rfl
    refine ⟨fun stopLossPrice _ => ?_, fun _ => trivial⟩
    refine wp_then (fetchCurrentPrice_spec _) ?_
    rintro _ _ ⟨rfl, fresh, rfl⟩
    refine wp_then (triggerWhen_spec _ _) ?_
    rintro fired _ ⟨_, holds, closed⟩
    exact ⟨fresh, holds, closed⟩
  | takeProfit =>
    simp only [TriggerKind.check, checkAndTriggerTakeProfit, wp_rules]
    refine wp_then (fetchOracleAndPortfolio_spec pre) ?_
    rintro _ _ rfl
    refine ⟨fun takeProfitPrice _ => ?_, fun _ => trivial⟩
    refine wp_then (fetchCurrentPrice_spec _) ?_
    rintro _ _ ⟨rfl, fresh, rfl⟩
    refine wp_then (triggerWhen_spec _ _) ?_
    rintro fired _ ⟨_, holds, closed⟩
    exact ⟨fresh, holds, closed⟩

/-- A check of the trailing stop raises the peak to the price and fires by the peak. -/
theorem trailing_check_spec (pre : TriggerStore) :
    let price := (outside.oracle assetPair).price
    wlp (checkAndTriggerTrailingStop env outside user tradeId assetPair)
      (fun fired after => ∃ trailBps peak peaks,
        pre.trailBps.lookup (user, tradeId) = some trailBps ∧
        pre.trailPeak.lookup (user, tradeId) = some peak ∧
        fired = decide (price ≤ triggerPrice (max peak price) trailBps) ∧
        (fired = true → pre.market.portfolio.Holds user tradeId) ∧
        (∀ key, peaks.lookup key = if key = (user, tradeId) then some (max peak price)
          else pre.trailPeak.lookup key) ∧
        after = { pre with trailPeak := peaks }.closedWhen fired user tradeId) pre := by
  simp only [checkAndTriggerTrailingStop, wp_rules]
  refine wp_then (fetchOracleAndPortfolio_spec pre) ?_
  rintro _ pre rfl
  refine ⟨fun hit set => ?_, fun _ => trivial⟩
  obtain ⟨trailBps, bpsFound, peak, peakFound, rfl⟩ :
      ∃ trailBps, pre.trailBps.lookup (user, tradeId) = some trailBps ∧
        ∃ peak, pre.trailPeak.lookup (user, tradeId) = some peak ∧ hit = (trailBps, peak) := by
    simp only [getTrailingStop, Option.bind_eq_bind, Option.bind_eq_some_iff] at set
    obtain ⟨trailBps, bpsFound, peak, peakFound, same⟩ := set
    exact ⟨trailBps, bpsFound, peak, peakFound, (Option.some.inj same).symm⟩
  refine wp_then (fetchCurrentPrice_spec _) ?_
  rintro _ pre ⟨rfl, _, rfl⟩
  refine wp_then (updateTrailingPeak_spec _ peakFound) ?_
  rintro _ _ ⟨rfl, peaks, rfl, raised⟩
  refine wp_then (triggerWhen_spec _ _) ?_
  rintro fired _ ⟨decides, holds, closed⟩
  exact ⟨trailBps, peak, peaks, bpsFound, peakFound, decides, holds, raised, closed⟩

end Checks

/-- The stop fires at its distance below the peak, when the product is not cut off. -/
theorem le_triggerPrice_iff {price peak : Int} {trailBps : Nat} (pos : 0 < price)
    (fits : i128.Holds (peak * (fullBps - trailBps))) :
    price ≤ triggerPrice peak trailBps ↔ price * fullBps ≤ peak * (fullBps - trailBps) := by
  rw [triggerPrice, saturatingMul, i128.clamp_of_holds fits]
  by_cases nonneg : 0 ≤ peak * (fullBps - trailBps)
  · rw [tdiv_eq_floor nonneg]
    exact Int.le_ediv_iff_mul_le (by decide)
  · constructor
    · intro below
      have shared := Int.tdiv_nonneg (a := -(peak * (fullBps - trailBps))) (b := fullBps)
        (by omega) (by decide)
      rw [Int.neg_tdiv] at shared
      omega
    · intro below
      simp only [fullBps] at *
      omega

abbrev TriggerTransition := Transition (Ledger TriggerStore) TriggerInput

namespace TriggerTransition

variable (taken : TriggerTransition)

def env : Env := taken.pre.env taken.input.arrival

def Returned : Prop :=
  Accepts (taken.input.call.exec taken.env taken.input.outside) taken.pre.store
deriving Decidable

/-- A check fired. -/
def fired : Bool :=
  valueOr false (taken.input.call.exec taken.env taken.input.outside) taken.pre.store

def price (assetPair : Nat) : Int := (taken.input.outside.oracle assetPair).price

def Closes (tradeId : Nat) : Prop :=
  match taken.input.call with
  | .check _ _ checked _ => checked = tradeId ∧ taken.fired = true
  | _ => False

instance (tradeId : Nat) : Decidable (taken.Closes tradeId) := by
  unfold Closes
  split <;> infer_instance

/-- The highest price since the trailing stop was set, with what this step observed. -/
def observe (user : Address) (tradeId : Nat) (highest : Option Int) : Option Int :=
  if taken.Returned then
    match taken.input.call with
    | .trailFrom owner trailed _ initialPrice =>
      if (user, tradeId) = (owner, trailed) then some initialPrice else highest
    | .check _ owner checked assetPair =>
      if (user, tradeId) = (owner, checked) then highest.map (max · (taken.price assetPair))
      else highest
    | _ => highest
  else highest

/-- The oracle's price is positive, whenever one is checked. -/
def PricePositive : Prop :=
  match taken.input.call with
  | .check _ _ _ assetPair => 0 < taken.price assetPair
  | _ => True

instance : Decidable taken.PricePositive := by
  unfold PricePositive
  split <;> infer_instance

/-- Only the trailing stop's own check observes a price above its peak, and the peak's share
can be represented. -/
def Watched : Prop :=
  match taken.input.call with
  | .check kind user tradeId assetPair =>
    ∀ peak ∈ taken.pre.store.trailPeak.lookup (user, tradeId),
      if kind = .trailingStop then
        ∀ trailBps ∈ taken.pre.store.trailBps.lookup (user, tradeId),
          i128.Holds (max peak (taken.price assetPair) * (fullBps - trailBps))
      else (taken.input.outside.oracle assetPair).Fresh taken.env.timestamp →
        taken.price assetPair ≤ peak
  | _ => True

instance : Decidable taken.Watched := by
  unfold Watched
  split <;> infer_instance

end TriggerTransition

/-- The highest price that was observed for a position since its trailing stop was set. -/
def highest (user : Address) (tradeId : Nat) (past : List TriggerTransition) : Option Int :=
  past.foldl (fun highest taken => taken.observe user tradeId highest) none

/-- The trailing stop of a step fires exactly at its distance below the peak. -/
def TriggerTransition.FiresAtDistance (taken : TriggerTransition) : Prop :=
  ∀ user tradeId assetPair, taken.input.call = .check .trailingStop user tradeId assetPair →
    taken.Returned → ∃ trailBps ∈ taken.pre.store.trailBps.lookup (user, tradeId),
      ∃ peak ∈ taken.after.store.trailPeak.lookup (user, tradeId),
        taken.fired = true ↔ taken.price assetPair * fullBps ≤ peak * (fullBps - trailBps)

/-- A step that closes a position takes it off the user's count, and other checks change
nothing in the market. -/
def TriggerTransition.CountsClose (taken : TriggerTransition) : Prop :=
  ∀ kind user tradeId assetPair, taken.input.call = .check kind user tradeId assetPair →
    if taken.fired = true then
      taken.after.store.market.positionCount user =
        taken.pre.store.market.positionCount user - 1
    else taken.after.store.market = taken.pre.store.market

/-- What holds of the triggers after a run. -/
structure TriggersKept (past : List TriggerTransition) (ledger : Ledger TriggerStore) : Prop where
  numbered : ledger.store.market.portfolio.Numbered
  peaks : ∀ user tradeId,
    ledger.store.trailPeak.lookup (user, tradeId) = highest user tradeId past
  fires : ∀ taken ∈ past, taken.FiresAtDistance
  counts : ∀ taken ∈ past, taken.CountsClose
  once : ∀ tradeId, OneShot.Once (fun taken : TriggerTransition => taken.Closes tradeId)
    (tradeId < ledger.store.market.portfolio.nextPosition ∧
      ledger.store.market.portfolio.positions.lookup tradeId = none) past

section Steps

variable {past : List TriggerTransition} {ledger : Ledger TriggerStore} {input : TriggerInput}
  {after : Ledger TriggerStore}

/-- One more step, by what it does to the portfolio and the peaks. -/
theorem TriggersKept.concat (kept : TriggersKept past ledger)
    (onward : ledger.store.market.portfolio.Onward after.store.market.portfolio)
    (peaks : ∀ user tradeId, after.store.trailPeak.lookup (user, tradeId) =
      TriggerTransition.observe ⟨ledger, input, after⟩ user tradeId
        (ledger.store.trailPeak.lookup (user, tradeId)))
    (fires : TriggerTransition.FiresAtDistance ⟨ledger, input, after⟩)
    (counts : TriggerTransition.CountsClose ⟨ledger, input, after⟩)
    (closes : ∀ tradeId, TriggerTransition.Closes ⟨ledger, input, after⟩ tradeId →
      ledger.store.market.portfolio.positions.lookup tradeId ≠ none ∧
        after.store.market.portfolio.positions.lookup tradeId = none) :
    TriggersKept (past ++ [⟨ledger, input, after⟩]) after := by
  refine ⟨onward.numbered kept.numbered, fun user tradeId => ?_, ?_, ?_, fun tradeId => ?_⟩
  · rw [peaks, kept.peaks, highest, highest, List.foldl_append, List.foldl_cons, List.foldl_nil]
  · simpa [or_imp, forall_and] using ⟨kept.fires, fires⟩
  · simpa [or_imp, forall_and] using ⟨kept.counts, counts⟩
  · refine (kept.once tradeId).concat ?_ ?_ ?_
    · exact fun closing spent => (closes tradeId closing).1 spent.2
    · intro closing
      obtain ⟨open', closed⟩ := closes tradeId closing
      obtain ⟨position, has⟩ := Option.ne_none_iff_exists'.mp open'
      exact ⟨(kept.numbered tradeId position has).trans_le onward.later, closed⟩
    · exact fun ⟨old, closed⟩ => ⟨old.trans_le onward.later, onward.closed tradeId old closed⟩

theorem TriggersKept.unchecked (kept : TriggersKept past ledger)
    (unchecked : ∀ kind user tradeId assetPair, input.call ≠ .check kind user tradeId assetPair)
    (onward : ledger.store.market.portfolio.Onward after.store.market.portfolio)
    (peaks : ∀ user tradeId, after.store.trailPeak.lookup (user, tradeId) =
      TriggerTransition.observe ⟨ledger, input, after⟩ user tradeId
        (ledger.store.trailPeak.lookup (user, tradeId))) :
    TriggersKept (past ++ [⟨ledger, input, after⟩]) after := by
  refine kept.concat onward peaks ?_ ?_ ?_
  · exact fun user tradeId assetPair called => absurd called (unchecked _ user tradeId assetPair)
  · exact fun kind user tradeId assetPair called =>
      absurd called (unchecked kind user tradeId assetPair)
  · intro tradeId closing
    rw [TriggerTransition.Closes] at closing
    split at closing
    next called => exact absurd called (unchecked _ _ _ _)
    next => exact closing.elim

/-- A check that returned, by what it closed. -/
theorem TriggersKept.checked {kind : TriggerKind} {user : Address} {tradeId assetPair : Nat}
    (kept : TriggersKept past ledger) (called : input.call = .check kind user tradeId assetPair)
    (holds : TriggerTransition.fired ⟨ledger, input, after⟩ = true →
      ledger.store.market.portfolio.Holds user tradeId) {peaks : Table (Address × Nat) Int}
    (closed : after.store = { ledger.store with trailPeak := peaks }.closedWhen
      (TriggerTransition.fired ⟨ledger, input, after⟩) user tradeId)
    (observed : ∀ owner trailed, peaks.lookup (owner, trailed) =
      TriggerTransition.observe ⟨ledger, input, after⟩ owner trailed
        (ledger.store.trailPeak.lookup (owner, trailed)))
    (fires : TriggerTransition.FiresAtDistance ⟨ledger, input, after⟩) :
    TriggersKept (past ++ [⟨ledger, input, after⟩]) after := by
  have onward : ledger.store.market.portfolio.Onward after.store.market.portfolio := by
    rw [closed, closedWhen]
    split
    next => exact close_onward tradeId
    next => exact onward_refl _
  refine kept.concat onward (fun owner trailed => ?_) fires ?_ fun other closing => ?_
  · rw [closed, closedWhen_trailPeak, observed]
  · intro otherKind owner other pair again
    obtain ⟨rfl, rfl, rfl, rfl⟩ := TriggerCall.check.inj (called.symm.trans again)
    split
    next fired =>
      rw [closed, fired]
      show positionCount (decrementUserPositionCount _ user) user = _
      simp only [decrementUserPositionCount, positionCount, AList.lookup_insert, Option.getD_some]
    next quiet =>
      rw [closed, Bool.not_eq_true] at *
      rw [quiet]
      rfl
  · simp only [TriggerTransition.Closes, called] at closing
    obtain ⟨rfl, fired⟩ := closing
    obtain ⟨position, has, _⟩ := holds fired
    refine ⟨by rw [Option.mem_def.mp has]; exact Option.some_ne_none _, ?_⟩
    rw [closed, fired]
    exact AList.lookup_erase _ _

theorem observe_rejected {taken : TriggerTransition} (rejected : ¬ taken.Returned)
    (user : Address) (tradeId : Nat) (highest : Option Int) :
    taken.observe user tradeId highest = highest := if_neg rejected

theorem TriggersKept.rejected (kept : TriggersKept past ledger)
    (rejected : ¬ TriggerTransition.Returned ⟨ledger, input, triggerStep input ledger⟩) :
    TriggersKept (past ++ [⟨ledger, input, triggerStep input ledger⟩])
      (triggerStep input ledger) := by
  have same : (triggerStep input ledger).store = ledger.store := invoke_of_rejected rejected
  have unfired : TriggerTransition.fired ⟨ledger, input, triggerStep input ledger⟩ = false :=
    valueOr_of_rejected rejected
  refine kept.concat (by rw [same]; exact onward_refl _) ?_ ?_ ?_ ?_
  · exact fun user tradeId => by rw [same, observe_rejected rejected]
  · exact fun _ _ _ _ accepted => absurd accepted rejected
  · intro _ _ _ _ _
    rw [unfired, if_neg Bool.false_ne_true]
    exact congrArg TriggerStore.market same
  · intro tradeId closing
    rw [TriggerTransition.Closes] at closing
    split at closing
    next => exact absurd (unfired.symm.trans closing.2) Bool.false_ne_true
    next => exact closing.elim

theorem TriggersKept.step (kept : TriggersKept past ledger)
    (priced : TriggerTransition.PricePositive ⟨ledger, input, triggerStep input ledger⟩)
    (watched : TriggerTransition.Watched ⟨ledger, input, triggerStep input ledger⟩) :
    TriggersKept (past ++ [⟨ledger, input, triggerStep input ledger⟩])
      (triggerStep input ledger) := by
  by_cases returns : TriggerTransition.Returned ⟨ledger, input, triggerStep input ledger⟩
  case neg => exact kept.rejected returns
  obtain ⟨value, gave⟩ := gave_of_accepts returns
  have fired : TriggerTransition.fired ⟨ledger, input, triggerStep input ledger⟩ = value :=
    valueOr_of_ok gave
  obtain ⟨arrival, outside, call⟩ := input
  have reached {call : TriggerCall} {arrival : Arrival} {value : Bool}
      (post : Bool → TriggerStore → Prop)
      (gave : call.exec (ledger.env arrival) outside ledger.store =
        .ok value (triggerStep ⟨arrival, outside, call⟩ ledger).store)
      (spec : wlp (call.exec (ledger.env arrival) outside) post ledger.store) :
      post value (triggerStep ⟨arrival, outside, call⟩ ledger).store := wp_ok spec gave
  cases call with
  | stopLossAt owner trailed price =>
    obtain ⟨market, peaks⟩ := reached
      (fun _ after => after.market = ledger.store.market ∧
        after.trailPeak = ledger.store.trailPeak) gave
      (by simp [TriggerCall.exec, setStopLoss])
    refine kept.unchecked (fun _ _ _ _ called => by cases called)
      (by rw [market]; exact onward_refl _) fun user tradeId => ?_
    rw [peaks, TriggerTransition.observe, if_pos returns]
  | takeProfitAt owner trailed price =>
    obtain ⟨market, peaks⟩ := reached
      (fun _ after => after.market = ledger.store.market ∧
        after.trailPeak = ledger.store.trailPeak) gave
      (by simp [TriggerCall.exec, setTakeProfit])
    refine kept.unchecked (fun _ _ _ _ called => by cases called)
      (by rw [market]; exact onward_refl _) fun user tradeId => ?_
    rw [peaks, TriggerTransition.observe, if_pos returns]
  | trailFrom owner trailed trailBps initialPrice =>
    obtain ⟨market, peaks⟩ := reached
      (fun _ after => after.market = ledger.store.market ∧
        after.trailPeak = ledger.store.trailPeak.insert (owner, trailed) initialPrice) gave
      (by simp [TriggerCall.exec, setTrailingStop])
    refine kept.unchecked (fun _ _ _ _ called => by cases called)
      (by rw [market]; exact onward_refl _) fun user tradeId => ?_
    rw [peaks, TriggerTransition.observe, if_pos returns, lookup_insert]
  | elsewhere moves market =>
    obtain ⟨moved, peaks⟩ := reached
      (fun _ after =>
        after.market.portfolio =
          moves.foldl PortfolioMove.apply ledger.store.market.portfolio ∧
        after.trailPeak = ledger.store.trailPeak) gave
      (by simp [TriggerCall.exec])
    refine kept.unchecked (fun _ _ _ _ called => by cases called)
      (by rw [moved]; exact moves_onward moves _) fun user tradeId => ?_
    rw [peaks, TriggerTransition.observe, if_pos returns]
  | check kind user tradeId assetPair =>
    by_cases trailing : kind = .trailingStop
    · subst trailing
      obtain ⟨trailBps, peak, peaks, bpsFound, peakFound, decides, holds, raised, closed⟩ :=
        reached _ gave (trailing_check_spec _)
      have fits := watched peak peakFound
      rw [if_pos rfl] at fits
      refine kept.checked rfl (by rw [fired]; exact holds) (by rw [fired]; exact closed)
        (fun owner trailed => ?_) ?_
      · rw [raised, TriggerTransition.observe, if_pos returns]
        dsimp only
        split
        next own => rw [own, peakFound]; rfl
        next => rfl
      · intro user' tradeId' pair called _
        obtain ⟨_, rfl, rfl, rfl⟩ := TriggerCall.check.inj called
        refine ⟨trailBps, bpsFound, max peak (outside.oracle assetPair).price, ?_, ?_⟩
        · rw [closed, closedWhen_trailPeak]
          exact (raised _).trans (if_pos rfl)
        · rw [fired, decides, decide_eq_true_eq]
          exact le_triggerPrice_iff priced (fits trailBps bpsFound)
    · obtain ⟨fresh, holds, closed⟩ := reached _ gave (fixed_check_spec trailing _)
      refine kept.checked rfl (by rw [fired]; exact holds) (by rw [fired]; exact closed)
        (fun owner trailed => ?_) ?_
      · rw [TriggerTransition.observe, if_pos returns]
        dsimp only
        split
        next own =>
          rw [own]
          cases peakFound : ledger.store.trailPeak.lookup (user, tradeId) with
          | none => rfl
          | some peak =>
            have low := watched peak peakFound
            rw [if_neg trailing] at low
            exact congrArg some (max_eq_left (low fresh)).symm
        next => rfl
      · intro user' tradeId' pair called _
        exact absurd (TriggerCall.check.inj called).1 trailing

end Steps

/-- In every run at positive prices, the peak is the highest price observed, the trailing stop
fires at its distance below it and a position is closed at most once, when only the trailing
stop's own checks observe new heights whose share can be represented. -/
theorem triggers_kept (timestamp sequence : Nat) (inputs : List TriggerInput)
    (priced : ∀ taken ∈ trace triggerStep (triggerStart timestamp sequence) inputs,
      TriggerTransition.PricePositive taken)
    (watched : ∀ taken ∈ trace triggerStep (triggerStart timestamp sequence) inputs,
      TriggerTransition.Watched taken) :
    TriggersKept (trace triggerStep (triggerStart timestamp sequence) inputs)
      (final triggerStep (triggerStart timestamp sequence) inputs) := by
  refine transition_history_invariant triggerStep TriggersKept
    (fun taken => TriggerTransition.PricePositive taken ∧ TriggerTransition.Watched taken)
    (fun past ledger input guard kept => kept.step guard.1 guard.2)
    (triggerStart timestamp sequence) ?_ inputs
    fun taken mem => ⟨priced taken mem, watched taken mem⟩
  exact ⟨fun _ _ has => (by cases has), fun _ _ => rfl, by simp, by simp, fun _ => .nil⟩

/-- An open position whose trailing stop starts at 100, with an oracle that says 200. -/
def trailedPosition : List TriggerInput :=
  let config : TradeConfig :=
    { TradeConfig.blank with
      oracle := some 7
      stopLossPortfolio := some 8 }
  let arrival : Arrival := ⟨1, 1, [1]⟩
  let outside : Outside := ⟨fun _ _ => none, fun _ _ _ => false, fun _ => ⟨200, 1⟩, .ok 0⟩
  [⟨arrival, outside, .elsewhere [.opens ⟨1, none, 0⟩] { MarketStore.blank with config }⟩,
    ⟨arrival, outside, .trailFrom 1 1 500 100⟩, ⟨arrival, outside, .stopLossAt 1 1 50⟩]

def checkAt (price : Int) (kind : TriggerKind) : TriggerInput :=
  ⟨⟨1, 1, []⟩, ⟨fun _ _ => none, fun _ _ _ => false, fun _ => ⟨price, 1⟩, .ok 0⟩, .check kind 1 1 0⟩

/-- A new height that a check of the stop loss observes is not kept as the peak. -/
theorem height_missed : ¬ ∀ (timestamp sequence : Nat) (inputs : List TriggerInput),
      (∀ taken ∈ trace triggerStep (triggerStart timestamp sequence) inputs,
        TriggerTransition.PricePositive taken) →
      TriggersKept (trace triggerStep (triggerStart timestamp sequence) inputs)
        (final triggerStep (triggerStart timestamp sequence) inputs) := by
  intro every
  have peak := (every 0 0 (trailedPosition ++ [checkAt 200 .stopLoss]) (by decide)).peaks 1 1
  exact absurd peak (by decide)

/-- The trailing stop rises to 200 and closes the position at 190. -/
theorem fired_below_height :
    let inputs := trailedPosition ++ [checkAt 200 .trailingStop, checkAt 190 .trailingStop,
      checkAt 10 .stopLoss]
    TriggersKept (trace triggerStep (triggerStart 0 0) inputs)
      (final triggerStep (triggerStart 0 0) inputs) :=
  triggers_kept 0 0 _ (by decide) (by decide)

end StellarSwipe.TradeExecutor
