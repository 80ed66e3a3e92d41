import StellarSwipe.Library.Runs
import StellarSwipe.UserPortfolio.Queries

/-!
# The portfolio's calls

What each call that returns does to the storage.
-/

namespace StellarSwipe.UserPortfolio

open FixedWidth Program Runs Table PortfolioStore

inductive PortfolioCall where
  | configures (config : PortfolioConfig)
  | opens (user : Address) (entryPrice amount : Int)
  | opensCapped (user : Address) (assetId : Nat) (entryPrice amount : Int)
  | closes (user : Address) (positionId : Nat) (realizedPnl exitPrice : Int)
      (assetPair : Nat)
  | keeperCloses (caller user : Address) (positionId assetPair : Nat)
  | closesPartly (user : Address) (positionId : Nat) (closeAmount realizedPnlDelta : Int)
  | setsCap (user : Address) (assetId : Nat) (capAmount : Int)
  | removesCap (user : Address) (assetId : Nat)
  | addsLot (user : Address) (entryPrice amount : Int)
  | closesFifo (user : Address) (closeAmount exitPrice : Int)
  | reads (user : Address) (includeClosed : Bool)
  | registers (users : List Address)
  | migrates (batchSize : Nat)

def PortfolioCall.exec (env : Env) : PortfolioCall → PortfolioProgram Unit
  | .configures config => modify fun store => { store with config }
  | .opens user entryPrice amount => discard (openPosition env user entryPrice amount)
  | .opensCapped user assetId entryPrice amount =>
    discard (openPositionWithCapCheck env user assetId entryPrice amount)
  | .closes user positionId realizedPnl exitPrice assetPair =>
    closePosition env user positionId realizedPnl exitPrice assetPair
  | .keeperCloses caller user positionId assetPair =>
    closePositionKeeper env caller user positionId assetPair
  | .closesPartly user positionId closeAmount realizedPnlDelta =>
    discard (closePositionPartial env user positionId closeAmount realizedPnlDelta)
  | .setsCap user assetId capAmount => setAssetExposureCap env user assetId capAmount
  | .removesCap user assetId => removeAssetExposureCap env user assetId
  | .addsLot user entryPrice amount => addCostLot env user entryPrice amount
  | .closesFifo user closeAmount exitPrice => discard (closeFifo env user closeAmount exitPrice)
  | .reads user includeClosed => discard (getPortfolio user includeClosed)
  | .registers users => registerMigrationUsers env users
  | .migrates batchSize => discard (migratePortfolioV1ToV2 env batchSize)

structure PortfolioInput where
  arrival : Arrival
  call : PortfolioCall

def portfolioStep (input : PortfolioInput) (ledger : Ledger PortfolioStore) :
    Ledger PortfolioStore :=
  ledger.call input.arrival fun env => input.call.exec env

abbrev PortfolioTransition := Transition (Ledger PortfolioStore) PortfolioInput

def PortfolioTransition.Returned (taken : PortfolioTransition) : Prop :=
  Accepts (taken.input.call.exec (taken.pre.env taken.input.arrival)) taken.pre.store
deriving Decidable

namespace PortfolioStore

variable (pre after : PortfolioStore) (user : Address) (positionId : Nat)

/-- The position is the user's, on record and open. -/
structure HoldsOpen (position : Position) : Prop where
  listed : positionId ∈ pre.positionsOf user
  has : pre.positions.lookup positionId = some position
  sound : position.Sound
  isOpen : position.status = .open

/-- The record is replaced by a closed one and the number moves between the indexes. -/
def Settles (closed : Position) : Prop :=
  ∃ taxEvents current best, after =
    { pre.markPositionClosed user positionId with
      positions := pre.positions.insert positionId closed
      userTaxEvents := taxEvents
      currentStreak := current
      bestStreak := best }

/-- The records stay, and a user's indexes stay or are made anew. -/
structure Reindexes : Prop where
  records : ∃ openPositions closedPositions migrated queue, after = { pre with
    userOpenPositions := openPositions
    userClosedPositions := closedPositions
    migratedUser := migrated
    migrationQueue := queue }
  indexed : ∀ user, (after.userOpenPositions.lookup user = pre.userOpenPositions.lookup user ∧
      after.userClosedPositions.lookup user = pre.userClosedPositions.lookup user) ∨
    (after.userOpenPositions.lookup user = some (pre.rebuiltOpen user) ∧
      after.userClosedPositions.lookup user = some (pre.rebuiltClosed user))

namespace Reindexes

variable {pre after}

theorem refl (store : PortfolioStore) : store.Reindexes store :=
  ⟨⟨_, _, _, _, rfl⟩, fun _ => .inl ⟨rfl, rfl⟩⟩

theorem rebuilt (same : ∃ migrated queue, after = { pre with
    migratedUser := migrated
    migrationQueue := queue }) (user : Address) : pre.Reindexes (after.reindex user) := by
  obtain ⟨migrated, queue, rfl⟩ := same
  refine ⟨⟨_, _, _, _, rfl⟩, fun other => ?_⟩
  by_cases own : other = user
  · subst own
    refine .inr ⟨?_, ?_⟩ <;> exact (lookup_insert _ _ _ _).trans (if_pos rfl)
  · refine .inl ⟨?_, ?_⟩ <;> exact (lookup_insert _ _ _ _).trans (if_neg own)

theorem trans {middle : PortfolioStore} (first : pre.Reindexes middle)
    (second : middle.Reindexes after) : pre.Reindexes after := by
  obtain ⟨⟨_, _, _, _, rfl⟩, firstIndexed⟩ := first
  obtain ⟨⟨_, _, _, _, rfl⟩, secondIndexed⟩ := second
  refine ⟨⟨_, _, _, _, rfl⟩, fun user => ?_⟩
  rcases secondIndexed user with ⟨openKept, closedKept⟩ | anew
  · rcases firstIndexed user with ⟨openSame, closedSame⟩ | ⟨openAnew, closedAnew⟩
    · exact .inl ⟨openKept.trans openSame, closedKept.trans closedSame⟩
    · exact .inr ⟨openKept.trans openAnew, closedKept.trans closedAnew⟩
  · exact .inr anew

end Reindexes

end PortfolioStore

/-- What a call that returns does to the storage. -/
inductive PortfolioEffect (pre : PortfolioStore) : PortfolioCall → PortfolioStore → Prop
  | configured (config : PortfolioConfig) :
    PortfolioEffect pre (.configures config) { pre with config }
  | opened {user positionId entryPrice amount openedAt} :
    0 < entryPrice → 0 < amount → pre.nextPositionId = some positionId →
    PortfolioEffect pre (.opens user entryPrice amount)
      { pre.enlist user positionId entryPrice amount with positionOpenedAt := openedAt }
  | openedCapped {user positionId assetId entryPrice amount} :
    0 < entryPrice → 0 < amount → pre.nextPositionId = some positionId →
    PortfolioEffect pre (.opensCapped user assetId entryPrice amount)
      { pre.enlist user positionId entryPrice amount with
        positionAsset := pre.positionAsset.insert positionId assetId
        userAssetExposure := pre.userAssetExposure.insert (user, assetId)
          (i128.saturatingAdd (pre.getExposure user assetId) amount) }
  | closed {user positionId realizedPnl exitPrice assetPair position after} :
    pre.HoldsOpen user positionId position →
    pre.Settles after user positionId { position with
      status := .closed
      realizedPnl := position.realizedPnl + realizedPnl } →
    PortfolioEffect pre (.closes user positionId realizedPnl exitPrice assetPair) after
  | keeperClosed {caller user positionId assetPair position after} :
    pre.HoldsOpen user positionId position →
    pre.Settles after user positionId { position with status := .closed } →
    PortfolioEffect pre (.keeperCloses caller user positionId assetPair) after
  | reduced {user positionId closeAmount realizedPnlDelta position} :
    pre.HoldsOpen user positionId position → 0 < closeAmount → closeAmount < position.amount →
    PortfolioEffect pre (.closesPartly user positionId closeAmount realizedPnlDelta)
      (pre.put positionId { position with
        amount := position.amount - closeAmount
        realizedPnl := position.realizedPnl + realizedPnlDelta })
  | drained {user positionId closeAmount realizedPnlDelta position after} :
    pre.HoldsOpen user positionId position → 0 < closeAmount → closeAmount = position.amount →
    pre.Settles after user positionId { position with
      amount := 0
      status := .closed
      realizedPnl := position.realizedPnl + realizedPnlDelta } →
    PortfolioEffect pre (.closesPartly user positionId closeAmount realizedPnlDelta)
      after
  | capSet {user assetId capAmount} :
    PortfolioEffect pre (.setsCap user assetId capAmount)
      { pre with userAssetCap := pre.userAssetCap.insert (user, assetId) capAmount }
  | capRemoved {user assetId} :
    PortfolioEffect pre (.removesCap user assetId)
      { pre with userAssetCap := pre.userAssetCap.erase (user, assetId) }
  | lotAdded {user entryPrice amount lots} :
    PortfolioEffect pre (.addsLot user entryPrice amount)
      { pre with userFifoLots := lots }
  | lotsConsumed {user closeAmount exitPrice lots} :
    PortfolioEffect pre (.closesFifo user closeAmount exitPrice)
      { pre with
        userFifoLots := lots
        userFifoRealizedPnl := pre.userFifoRealizedPnl.insert user
          (i128.saturatingAdd (pre.fifoRealized user)
            (consumeLots exitPrice closeAmount 0 (pre.fifoLots user)).2.1) }
  | read {user includeClosed after} : pre.Reindexes after →
    PortfolioEffect pre (.reads user includeClosed) after
  | registered {users queue} :
    PortfolioEffect pre (.registers users)
      { pre with migrationQueue := queue }
  | migrated {batchSize after} : pre.Reindexes after →
    PortfolioEffect pre (.migrates batchSize) after

section Specs

variable {env : Env} {store : PortfolioStore} {user : Address} {positionId : Nat}
variable {fault : Fault PortfolioError → PortfolioStore → Prop} {entryPrice amount : Int}

theorem requireOpening_spec : wlp (requireOpening env user entryPrice amount)
      (fun _ after => after = store ∧ 0 < entryPrice ∧ 0 < amount) store := by
  simp +contextual [requireOpening]

theorem nextPosition_spec : wlp nextPosition (fun positionId after => after = store ∧
      store.nextPositionId = some positionId) store := by
  simp +contextual [nextPosition]

theorem requireOpenPosition_spec : wlp (requireOpenPosition user positionId)
      (fun position after => after = store ∧ store.HoldsOpen user positionId position) store := by
  simp only [requireOpenPosition, assertPositionInvariants, wlp_rules, true_and]
  exact fun listed position has sound isOpen => ⟨listed, has, sound, isOpen⟩

theorem finalizeClose_spec {position closed : Position} :
    wlp (finalizeClose user positionId position closed)
      (fun _ after => after = { store.markPositionClosed user positionId with
        positions := store.positions.insert positionId closed }) store := by
  simp only [finalizeClose, assertPositionInvariants, wlp_rules]
  intro _
  simp only [markPositionClosed, PortfolioStore.put,
    openPositionsOf, closedPositionsOf, AList.insert_insert]
  rfl

theorem openPosition_spec : wlp (openPosition env user entryPrice amount)
      (fun _ after => PortfolioEffect store (.opens user entryPrice amount) after) store := by
  simp only [openPosition, wp_rules]
  refine wp_mono requireOpening_spec ?_ fun _ _ stopped => stopped
  rintro _ _ ⟨rfl, price, pos⟩
  refine wp_mono nextPosition_spec ?_ fun _ _ stopped => stopped
  rintro positionId _ ⟨rfl, next⟩
  exact .opened price pos next

theorem openPositionWithCapCheck_spec {assetId : Nat} :
    wlp (openPositionWithCapCheck env user assetId entryPrice amount)
      (fun _ after => PortfolioEffect store
        (.opensCapped user assetId entryPrice amount) after) store := by
  simp only [openPositionWithCapCheck, checkCap, wp_rules]
  refine wp_mono requireOpening_spec ?_ fun _ _ stopped => stopped
  rintro _ _ ⟨rfl, price, pos⟩
  refine ⟨fun _ => ?_, fun _ => trivial⟩
  refine wp_mono nextPosition_spec ?_ fun _ _ stopped => stopped
  rintro positionId _ ⟨rfl, next⟩
  exact .openedCapped price pos next

theorem closePosition_spec {realizedPnl exitPrice : Int} {assetPair : Nat} :
    wlp (closePosition env user positionId realizedPnl exitPrice assetPair)
      (fun _ after => PortfolioEffect store
        (.closes user positionId realizedPnl exitPrice assetPair) after) store := by
  simp only [closePosition, appendTaxEvent, wlp_rules]
  intro _
  refine wp_mono requireOpenPosition_spec ?_ fun _ _ stopped => stopped
  rintro position _ ⟨rfl, holds⟩ realized sum
  obtain ⟨_, rfl⟩ := (Range.checked_eq_some _ _ _).mp sum
  refine wp_mono finalizeClose_spec ?_ fun _ _ stopped => stopped
  rintro _ _ rfl
  refine .closed holds ?_
  simp only [updateStreaks, recordTax]
  split <;> exact ⟨_, _, _, rfl⟩

theorem closePositionKeeper_spec {caller : Address} {assetPair : Nat} :
    wlp (closePositionKeeper env caller user positionId assetPair)
      (fun _ after => PortfolioEffect store
        (.keeperCloses caller user positionId assetPair) after) store := by
  simp only [closePositionKeeper, appendTaxEvent, wlp_rules]
  intro _ _ _ _
  refine wp_mono requireOpenPosition_spec ?_ fun _ _ stopped => stopped
  rintro position _ ⟨rfl, holds⟩
  refine wp_mono finalizeClose_spec ?_ fun _ _ stopped => stopped
  rintro _ _ rfl
  exact .keeperClosed holds ⟨_, _, _, rfl⟩

theorem closePositionPartial_spec {closeAmount realizedPnlDelta : Int} :
    wlp (closePositionPartial env user positionId closeAmount realizedPnlDelta)
      (fun _ after => PortfolioEffect store
        (.closesPartly user positionId closeAmount realizedPnlDelta) after) store := by
  simp only [closePositionPartial, assertPositionInvariants, wlp_rules, wp_ite]
  intro _ pos
  refine wp_mono requireOpenPosition_spec ?_ fun _ _ stopped => stopped
  rintro position _ ⟨rfl, holds⟩ bounded remaining difference realized sum
  obtain ⟨_, rfl⟩ := (Range.checked_eq_some _ _ _).mp difference
  obtain ⟨_, rfl⟩ := (Range.checked_eq_some _ _ _).mp sum
  constructor
  · intro drained
    refine wp_mono finalizeClose_spec ?_ fun _ _ stopped => stopped
    rintro _ _ rfl
    refine .drained holds pos (by omega) ?_
    rw [drained]
    exact ⟨_, _, _, rfl⟩
  · intro left _
    exact .reduced holds pos (by omega)

theorem getPortfolio_spec {includeClosed : Bool} :
    wlp (getPortfolio user includeClosed) (fun _ after => store.Reindexes after) store := by
  have openIds : wlp (getOpenPositionIds user) (fun _ after => store.Reindexes after)
      store := by
    simp only [getOpenPositionIds, wp_rules]
    split
    next => exact .refl store
    next => exact .rebuilt ⟨_, _, rfl⟩ user
  have closedIds (middle : PortfolioStore) (sofar : store.Reindexes middle) :
      wlp (getClosedPositionIds user) (fun _ after => store.Reindexes after) middle := by
    simp only [getClosedPositionIds, wp_rules]
    split
    next => exact sofar
    next => exact sofar.trans (.rebuilt ⟨_, _, rfl⟩ user)
  simp only [getPortfolio, wp_rules, wp_ite]
  refine wp_mono openIds (fun _ middle sofar => ⟨fun _ => ?_, fun _ => sofar⟩)
    fun _ _ stopped => stopped
  exact closedIds middle sofar

theorem migrateUser_spec : wlp (migrateUser user) (fun _ after => store.Reindexes after) store := by
  simp only [migrateUser, wlp_rules, wp_ite]
  let marked : PortfolioStore :=
    { store with migratedUser := store.migratedUser.insert user true }
  exact ⟨fun _ _ => @PortfolioStore.Reindexes.rebuilt store marked ⟨_, _, rfl⟩ user,
    fun _ => .refl _⟩

theorem migratePortfolioV1ToV2_spec {batchSize : Nat} :
    wlp (migratePortfolioV1ToV2 env batchSize) (fun _ after => store.Reindexes after) store := by
  simp only [migratePortfolioV1ToV2, requireAdmin, wlp_rules]
  intro _ _ _
  refine wp_mono (each_rule (fun _ after => store.Reindexes after) _ []
    (fun _ user middle _ sofar => wp_mono migrateUser_spec
      (fun _ _ next => sofar.trans next) fun _ _ stopped => stopped) store (.refl store))
    ?_ fun _ _ stopped => stopped
  intro _ after reindexes
  exact reindexes.trans ⟨⟨_, _, _, _, rfl⟩, fun _ => .inl ⟨rfl, rfl⟩⟩

end Specs

theorem PortfolioCall.exec_spec (env : Env) (call : PortfolioCall) (store : PortfolioStore) :
    wlp (call.exec env) (fun _ after => PortfolioEffect store call after) store := by
  cases call with
  | configures config => exact .configured config
  | opens => exact (wp_discard _).mpr openPosition_spec
  | opensCapped => exact (wp_discard _).mpr openPositionWithCapCheck_spec
  | closes => exact closePosition_spec
  | keeperCloses => exact closePositionKeeper_spec
  | closesPartly => exact (wp_discard _).mpr closePositionPartial_spec
  | setsCap user assetId capAmount =>
    simp only [PortfolioCall.exec, setAssetExposureCap, wlp_rules]
    exact fun _ _ => .capSet
  | removesCap user assetId =>
    simp only [PortfolioCall.exec, removeAssetExposureCap, wlp_rules]
    exact fun _ => .capRemoved
  | addsLot user entryPrice amount =>
    simp only [PortfolioCall.exec, addCostLot, wlp_rules]
    exact fun _ _ => .lotAdded
  | closesFifo user closeAmount exitPrice =>
    refine (wp_discard _).mpr ?_
    simp only [closeFifo, wlp_rules]
    exact fun _ _ _ => .lotsConsumed
  | reads =>
    exact (wp_discard _).mpr (wp_mono getPortfolio_spec (fun _ _ anew => .read anew)
      fun _ _ stopped => stopped)
  | registers users =>
    simp only [PortfolioCall.exec, registerMigrationUsers, requireAdmin, wlp_rules]
    exact fun _ _ _ => .registered
  | migrates =>
    exact (wp_discard _).mpr (wp_mono migratePortfolioV1ToV2_spec
      (fun _ _ anew => .migrated anew) fun _ _ stopped => stopped)

theorem portfolioStep_effect (input : PortfolioInput) (ledger : Ledger PortfolioStore) :
    (PortfolioTransition.Returned ⟨ledger, input, portfolioStep input ledger⟩ ∧
      PortfolioEffect ledger.store input.call (portfolioStep input ledger).store) ∨
    (¬ PortfolioTransition.Returned ⟨ledger, input, portfolioStep input ledger⟩ ∧
      (portfolioStep input ledger).store = ledger.store) := by
  by_cases gave : PortfolioTransition.Returned ⟨ledger, input, portfolioStep input ledger⟩
  · obtain ⟨value, lands⟩ := gave_of_accepts gave
    exact .inl ⟨gave, wp_ok (PortfolioCall.exec_spec _ _ _) lands⟩
  · exact .inr ⟨gave, invoke_of_rejected gave⟩

end StellarSwipe.UserPortfolio
