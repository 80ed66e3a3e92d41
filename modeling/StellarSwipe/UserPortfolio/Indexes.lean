import StellarSwipe.UserPortfolio.Records

/-!
# The indexes of open and closed positions

The indexes of the second layout are made by whoever comes first: a migration or a read makes both
from the mixed list, an opening or a close starts a missing one with its own number alone.
-/

namespace StellarSwipe.UserPortfolio

open FixedWidth Program Runs Table PortfolioStore Enrolled List Option

namespace PortfolioStore

variable (store : PortfolioStore) (user : Address) (positionId : Nat)

def HasStatus (status : PositionStatus) : Prop :=
  positionId ∈ store.positionsOf user ∧
    ∃ position ∈ store.positions.lookup positionId, position.status = status

/-- A number that joins the index of open positions does not leave others out. -/
def JoinsOpen : Prop :=
  (store.userOpenPositions.lookup user).isSome = true ∨ store.rebuiltOpen user = []
deriving Decidable

/-- A number that moves between the indexes does not leave others out. -/
def MovesClosed : Prop :=
  ((store.userOpenPositions.lookup user).isSome = true ∨
    store.rebuiltOpen user = [positionId]) ∧
  ((store.userClosedPositions.lookup user).isSome = true ∨ store.rebuiltClosed user = [])
deriving Decidable

end PortfolioStore

/-- A step that starts an index only where nothing else belongs in it. -/
def PortfolioTransition.Indexes (taken : PortfolioTransition) : Prop :=
  match taken.input.call with
  | .opens user _ _ => taken.Returned → taken.pre.store.JoinsOpen user
  | .opensCapped user _ _ _ => taken.Returned → taken.pre.store.JoinsOpen user
  | .closes user positionId _ _ _ =>
    taken.Returned → taken.pre.store.MovesClosed user positionId
  | .keeperCloses _ user positionId _ =>
    taken.Returned → taken.pre.store.MovesClosed user positionId
  | .closesPartly user positionId closeAmount _ =>
    taken.Returned →
      (taken.pre.store.positions.lookup positionId).map (·.amount) = some closeAmount →
        taken.pre.store.MovesClosed user positionId
  | _ => True

instance (taken : PortfolioTransition) : Decidable taken.Indexes := by
  unfold PortfolioTransition.Indexes
  refine taken.input.call.casesOn ?_ ?_ ?_ ?_ ?_ ?_ ?_ ?_ ?_ ?_ ?_ ?_ ?_ <;> intros <;>
    infer_instance

section Rebuilt

variable {store pre after : PortfolioStore} {user owner : Address} {positionId tested : Nat}

theorem mem_withStatus (test : PositionStatus → Bool) (positionIds : List Nat) :
    positionId ∈ store.withStatus test positionIds ↔ positionId ∈ positionIds ∧
      ∃ position ∈ store.positions.lookup positionId, test position.status = true := by
  rw [PortfolioStore.withStatus, mem_filter]
  cases store.positions.lookup positionId <;> simp

theorem mem_rebuiltOpen : positionId ∈ store.rebuiltOpen user ↔
    store.HasStatus user positionId .open := by
  simp only [rebuiltOpen, mem_withStatus, decide_eq_true_eq, PortfolioStore.HasStatus]

theorem mem_rebuiltClosed : positionId ∈ store.rebuiltClosed user ↔
    positionId ∈ store.positionsOf user ∧
      ∃ position ∈ store.positions.lookup positionId, position.status ≠ .open := by
  simp only [rebuiltClosed, mem_withStatus, ne_eq, decide_eq_true_eq]

theorem Enrolled.rebuiltOpen_nodup (enrolled : Enrolled store) (user : Address) :
    (store.rebuiltOpen user).Nodup :=
  (enrolled.distinct user).filter _

theorem Enrolled.rebuiltClosed_nodup (enrolled : Enrolled store) (user : Address) :
    (store.rebuiltClosed user).Nodup :=
  (enrolled.distinct user).filter _

/-- Records that agree on a user's numbers give the same indexes. -/
theorem withStatus_congr (test : PositionStatus → Bool) {positionIds : List Nat}
    (agree : ∀ positionId ∈ positionIds,
      after.positions.lookup positionId = pre.positions.lookup positionId) :
    after.withStatus test positionIds = pre.withStatus test positionIds := by
  refine filter_congr fun positionId mem => ?_
  rw [agree positionId mem]

end Rebuilt

/-- An index that is there names what the records say, and no close was left half done. -/
structure Indexed (store : PortfolioStore) : Prop where
  enrolled : Enrolled store
  finished : ∀ user positionId, ¬ store.HasStatus user positionId .closing
  openIndex : ∀ user positionIds, store.userOpenPositions.lookup user = some positionIds →
    positionIds.Perm (store.rebuiltOpen user)
  closedIndex : ∀ user positionIds, store.userClosedPositions.lookup user = some positionIds →
    positionIds.Perm (store.rebuiltClosed user)

namespace Indexed

variable {pre after : PortfolioStore} {user : Address} {positionId : Nat}

/-- Indexes that stay, or are made anew, over the same records. -/
theorem reindexed (indexed : Indexed pre) (reindexes : pre.Reindexes after) : Indexed after := by
  have enrolled := indexed.enrolled.move reindexes.move
  obtain ⟨⟨_, _, _, _, rfl⟩, each⟩ := reindexes
  refine ⟨enrolled, indexed.finished, fun owner positionIds hit => ?_,
    fun owner positionIds hit => ?_⟩
  · rcases each owner with ⟨same, _⟩ | ⟨anew, _⟩
    · exact indexed.openIndex owner positionIds (same.symm.trans hit)
    · exact mem_unique hit anew ▸ List.Perm.refl _
  · rcases each owner with ⟨_, same⟩ | ⟨_, anew⟩
    · exact indexed.closedIndex owner positionIds (same.symm.trans hit)
    · exact mem_unique hit anew ▸ List.Perm.refl _

theorem kept (indexed : Indexed pre) (onward : after.nextPositionId = pre.nextPositionId)
    (positions : after.positions = pre.positions) (listed : after.userPositions = pre.userPositions)
    (opens : after.userOpenPositions = pre.userOpenPositions)
    (closeds : after.userClosedPositions = pre.userClosedPositions) : Indexed after := by
  have enrolled := indexed.enrolled.move (.kept onward positions listed)
  have lists (owner : Address) := positionsOf_same listed owner
  refine ⟨enrolled, fun owner tested status => ?_, fun owner positionIds hit => ?_,
    fun owner positionIds hit => ?_⟩
  · rw [PortfolioStore.HasStatus, positions, lists] at status
    exact indexed.finished owner tested status
  · rw [rebuiltOpen, PortfolioStore.withStatus, positions, lists]
    exact indexed.openIndex owner positionIds (opens ▸ hit)
  · rw [rebuiltClosed, PortfolioStore.withStatus, positions, lists]
    exact indexed.closedIndex owner positionIds (closeds ▸ hit)

theorem enlisted (indexed : Indexed pre) {position : Position}
    (next : pre.nextPositionId = some positionId) (joins : pre.JoinsOpen user)
    (isOpen : position.status = .open) (enrolled : Enrolled after)
    (positions : after.positions = pre.positions.insert positionId position)
    (listed : after.userPositions =
      pre.userPositions.insert user (pre.positionsOf user ++ [positionId]))
    (opens : after.userOpenPositions =
      pre.userOpenPositions.insert user (pre.openPositionsOf user ++ [positionId]))
    (closeds : after.userClosedPositions = pre.userClosedPositions) : Indexed after := by
  have has : after.positions.lookup positionId = some position := by
    rw [positions, lookup_insert, if_pos rfl]
  have agree (owner : Address) (tested : Nat) (mem : tested ∈ pre.positionsOf owner) :
      after.positions.lookup tested = pre.positions.lookup tested := by
    rw [positions, lookup_insert, if_neg]
    rintro rfl
    exact indexed.enrolled.fresh next owner mem
  have rebuilt (test : PositionStatus → Bool) (owner : Address) :
      after.withStatus test (after.positionsOf owner) =
        pre.withStatus test (pre.positionsOf owner) ++
          if owner = user ∧ test .open = true then [positionId] else [] := by
    rw [positionsOf_enlisted listed]
    split
    next own =>
      subst own
      rw [PortfolioStore.withStatus, filter_append, ← PortfolioStore.withStatus,
        withStatus_congr test (agree owner), filter_cons, has, filter_nil]
      simp [isOpen]
    next other =>
      rw [withStatus_congr test (agree owner), if_neg fun both => other both.1, append_nil]
  refine ⟨enrolled, fun owner tested status => ?_, fun owner positionIds hit => ?_,
    fun owner positionIds hit => ?_⟩
  · obtain ⟨mem, hit, holds, closing⟩ := status
    rw [positionsOf_enlisted listed] at mem
    by_cases own : tested = positionId
    · subst own
      cases mem_unique has holds
      cases isOpen.symm.trans closing
    · have prior : tested ∈ pre.positionsOf owner := by
        split at mem
        next mine =>
          rcases List.mem_append.mp mem with prior | last
          · exact mine ▸ prior
          · exact absurd (List.mem_singleton.mp last) own
        next => exact mem
      exact indexed.finished owner tested ⟨prior, hit, agree owner tested prior ▸ holds, closing⟩
  · rw [rebuiltOpen, rebuilt]
    rw [opens, lookup_insert] at hit
    split at hit
    next own =>
      subst own
      cases hit
      rw [if_pos ⟨rfl, rfl⟩]
      refine List.Perm.append_right _ ?_
      rw [openPositionsOf]
      cases there : pre.userOpenPositions.lookup owner with
      | some positionIds => exact indexed.openIndex owner positionIds there
      | none =>
        have nothing : pre.rebuiltOpen owner = [] := by
          rcases joins with exists_ | nothing
          · rw [there] at exists_
            cases exists_
          · exact nothing
        exact nothing ▸ List.Perm.refl _
    next other =>
      rw [if_neg fun both => other both.1, append_nil]
      exact indexed.openIndex owner positionIds hit
  · rw [rebuiltClosed, rebuilt]
    rw [if_neg fun both => (by cases both.2), append_nil]
    exact indexed.closedIndex owner positionIds (closeds ▸ hit)

/-- The record of an open position is replaced by one with another status or the same. -/
theorem hasStatus_replaced {changed : Position}
    (positions : after.positions = pre.positions.insert positionId changed)
    (listed : after.userPositions = pre.userPositions) (owner : Address) (tested : Nat)
    (status : PositionStatus) : after.HasStatus owner tested status ↔
      if tested = positionId then tested ∈ pre.positionsOf owner ∧ changed.status = status
      else pre.HasStatus owner tested status := by
  rw [PortfolioStore.HasStatus, positionsOf_same listed, positions, lookup_insert]
  split
  next => simp
  next => rfl

theorem reduced (indexed : Indexed pre) {position changed : Position}
    (holds : pre.HoldsOpen user positionId position) (isOpen : changed.status = .open)
    (enrolled : Enrolled (pre.put positionId changed)) : Indexed (pre.put positionId changed) := by
  have same (test : PositionStatus → Bool) (positionIds : List Nat) :
      (pre.put positionId changed).withStatus test positionIds =
        pre.withStatus test positionIds := by
    refine filter_congr fun tested _ => ?_
    rw [PortfolioStore.put, lookup_insert]
    split
    next own => rw [own, holds.has, map_some, map_some, isOpen, holds.isOpen]
    next => rfl
  refine ⟨enrolled, fun owner tested status => ?_, fun owner positionIds hit => ?_,
    fun owner positionIds hit => ?_⟩
  · have replaced := @hasStatus_replaced pre (pre.put positionId changed) positionId changed
      rfl rfl owner tested .closing
    rw [replaced] at status
    split at status
    next => cases isOpen.symm.trans status.2
    next => exact indexed.finished owner tested status
  · rw [rebuiltOpen, same]
    exact indexed.openIndex owner positionIds hit
  · rw [rebuiltClosed, same]
    exact indexed.closedIndex owner positionIds hit

theorem open_settled (indexed : Indexed pre) (moves : pre.MovesClosed user positionId) :
    (pre.openPositionsOf user).Perm (pre.rebuiltOpen user) ∨
      (pre.openPositionsOf user = [] ∧ pre.rebuiltOpen user = [positionId]) := by
  rw [openPositionsOf]
  cases there : pre.userOpenPositions.lookup user with
  | some positionIds => exact .inl (indexed.openIndex user positionIds there)
  | none =>
    rcases moves.1 with exists_ | alone
    · rw [there] at exists_
      cases exists_
    · exact .inr ⟨rfl, alone⟩

theorem closed_settled (indexed : Indexed pre) (moves : pre.MovesClosed user positionId) :
    (pre.closedPositionsOf user).Perm (pre.rebuiltClosed user) := by
  rw [closedPositionsOf]
  cases there : pre.userClosedPositions.lookup user with
  | some positionIds => exact indexed.closedIndex user positionIds there
  | none =>
    have nothing : pre.rebuiltClosed user = [] := by
      rcases moves.2 with exists_ | nothing
      · rw [there] at exists_
        cases exists_
      · exact nothing
    exact nothing ▸ List.Perm.refl _

theorem settled (indexed : Indexed pre) {position closed : Position}
    (holds : pre.HoldsOpen user positionId position) (isClosed : closed.status = .closed)
    (moves : pre.MovesClosed user positionId)
    (settles : pre.Settles after user positionId closed) (enrolled : Enrolled after) :
    Indexed after := by
  have positions : after.positions = pre.positions.insert positionId closed := by
    obtain ⟨_, _, _, rfl⟩ := settles
    rfl
  have listed : after.userPositions = pre.userPositions := by
    obtain ⟨_, _, _, rfl⟩ := settles
    rfl
  have lists (owner : Address) := positionsOf_same listed owner
  have openMembers (owner : Address) (tested : Nat) : tested ∈ after.rebuiltOpen owner ↔
      tested ∈ pre.rebuiltOpen owner ∧ tested ≠ positionId := by
    rw [mem_rebuiltOpen, mem_rebuiltOpen, hasStatus_replaced positions listed]
    split
    next own => simp [isClosed, own]
    next other => simp [other]
  have closedMembers (owner : Address) (tested : Nat) : tested ∈ after.rebuiltClosed owner ↔
      tested ∈ pre.rebuiltClosed owner ∨ (tested = positionId ∧ owner = user) := by
    rw [mem_rebuiltClosed, mem_rebuiltClosed, lists, positions, lookup_insert]
    by_cases own : tested = positionId
    · subst own
      simp only [if_true, mem_some_iff, exists_eq_left', isClosed, ne_eq, reduceCtorEq,
        not_false_eq_true, and_true, true_and, holds.has, holds.isOpen, not_true_eq_false,
        and_false, false_or]
      exact ⟨fun mem => indexed.enrolled.owned owner user tested mem holds.listed,
        fun same => same ▸ holds.listed⟩
    · simp only [own, if_false, false_and, or_false]
  refine ⟨enrolled, fun owner tested status => ?_, fun owner positionIds hit => ?_,
    fun owner positionIds hit => ?_⟩
  · rw [hasStatus_replaced positions listed] at status
    split at status
    next => cases isClosed.symm.trans status.2
    next => exact indexed.finished owner tested status
  · have opens : after.userOpenPositions = pre.userOpenPositions.insert user
        ((pre.openPositionsOf user).filter (· ≠ positionId)) := by
      obtain ⟨_, _, _, rfl⟩ := settles
      rfl
    rw [opens, lookup_insert] at hit
    split at hit
    next own =>
      subst own
      cases hit
      rcases indexed.open_settled moves with names | ⟨nothing, alone⟩
      · refine (perm_ext_iff_of_nodup ?_ (enrolled.rebuiltOpen_nodup owner)).mpr
          fun tested => ?_
        · exact (names.nodup_iff.mpr (indexed.enrolled.rebuiltOpen_nodup owner)).filter _
        · rw [mem_filter, names.mem_iff, openMembers, decide_eq_true_eq]
      · have empty : after.rebuiltOpen owner = [] := by
          refine List.eq_nil_iff_forall_not_mem.mpr fun tested mem => ?_
          rw [openMembers, alone, mem_singleton] at mem
          exact mem.2 mem.1
        rw [nothing, filter_nil, empty]
    next other =>
      have same : after.rebuiltOpen owner = pre.rebuiltOpen owner := by
        rw [rebuiltOpen, lists]
        refine withStatus_congr _ fun tested mem => ?_
        rw [positions, lookup_insert, if_neg]
        rintro rfl
        exact other (indexed.enrolled.owned owner user tested mem holds.listed)
      rw [same]
      exact indexed.openIndex owner positionIds hit
  · have closeds : after.userClosedPositions = if positionId ∈ pre.closedPositionsOf user then
        pre.userClosedPositions else pre.userClosedPositions.insert user
          (pre.closedPositionsOf user ++ [positionId]) := by
      obtain ⟨_, _, _, rfl⟩ := settles
      rfl
    have names := indexed.closed_settled moves
    have fresh : positionId ∉ pre.closedPositionsOf user := by
      rw [names.mem_iff, mem_rebuiltClosed]
      rintro ⟨_, hit, has, notOpen⟩
      cases mem_unique holds.has has
      exact notOpen holds.isOpen
    rw [closeds, if_neg fresh, lookup_insert] at hit
    split at hit
    next own =>
      subst own
      cases hit
      refine (perm_ext_iff_of_nodup ?_ (enrolled.rebuiltClosed_nodup owner)).mpr
        fun tested => ?_
      · refine List.nodup_append.mpr ⟨names.nodup_iff.mpr
          (indexed.enrolled.rebuiltClosed_nodup owner), nodup_singleton _, ?_⟩
        intro tested mem last single
        rw [mem_singleton] at single
        rintro rfl
        exact fresh (single ▸ mem)
      · rw [mem_append, mem_singleton, names.mem_iff, closedMembers]
        simp
    next other =>
      have same : (pre.rebuiltClosed owner).Perm (after.rebuiltClosed owner) := by
        refine (perm_ext_iff_of_nodup (indexed.enrolled.rebuiltClosed_nodup owner)
          (enrolled.rebuiltClosed_nodup owner)).mpr fun tested => ?_
        rw [closedMembers]
        simp [other]
      exact (indexed.closedIndex owner positionIds hit).trans same

theorem step {ledger : Ledger PortfolioStore} {input : PortfolioInput}
    (indexed : Indexed ledger.store)
    (indexes : PortfolioTransition.Indexes ⟨ledger, input, portfolioStep input ledger⟩) :
    Indexed (portfolioStep input ledger).store := by
  have enrolled := indexed.enrolled.move (portfolioStep_move input ledger)
  rcases portfolioStep_effect input ledger with ⟨gave, effect⟩ | ⟨_, same⟩
  · obtain ⟨arrival, call⟩ := input
    dsimp only at effect
    generalize (portfolioStep ⟨arrival, call⟩ ledger).store = after at effect enrolled
    cases effect with
    | configured => exact indexed.kept rfl rfl rfl rfl rfl
    | opened _ _ next => exact indexed.enlisted next (indexes gave) rfl enrolled rfl rfl rfl rfl
    | openedCapped _ _ next =>
      exact indexed.enlisted next (indexes gave) rfl enrolled rfl rfl rfl rfl
    | closed holds settles => exact indexed.settled holds rfl (indexes gave) settles enrolled
    | keeperClosed holds settles =>
      exact indexed.settled holds rfl (indexes gave) settles enrolled
    | reduced holds => exact indexed.reduced holds holds.isOpen enrolled
    | drained holds _ whole settles =>
      refine indexed.settled holds rfl (indexes gave ?_) settles enrolled
      dsimp only
      rw [holds.has, map_some, whole]
    | capSet => exact indexed.kept rfl rfl rfl rfl rfl
    | capRemoved => exact indexed.kept rfl rfl rfl rfl rfl
    | lotAdded => exact indexed.kept rfl rfl rfl rfl rfl
    | lotsConsumed => exact indexed.kept rfl rfl rfl rfl rfl
    | read reindexes => exact indexed.reindexed reindexes
    | registered => exact indexed.kept rfl rfl rfl rfl rfl
    | migrated reindexes => exact indexed.reindexed reindexes
  · rw [same]
    exact indexed

end Indexed

/-- A state of the first layout: mixed lists and records alone. -/
structure FirstLayout (store : PortfolioStore) : Prop where
  enrolled : Enrolled store
  openAbsent : ∀ user, store.userOpenPositions.lookup user = none
  closedAbsent : ∀ user, store.userClosedPositions.lookup user = none
  unmigrated : ∀ user, store.migratedUser.lookup user = none
  unqueued : store.migrationQueue = []

/-- A portfolio lists exactly the user's open and closed positions, each once. -/
structure Lists (store : PortfolioStore) (user : Address) (portfolio : Portfolio) : Prop where
  openOnce : (portfolio.openPositions.map (·.positionId)).Nodup
  openIds : ∀ positionId, positionId ∈ portfolio.openPositions.map (·.positionId) ↔
    store.HasStatus user positionId .open
  closedOnce : portfolio.closedPositionIds.Nodup
  closedIds : ∀ positionId, positionId ∈ portfolio.closedPositionIds ↔
    store.HasStatus user positionId .closed

section Reads

variable {store : PortfolioStore} {user : Address}

theorem load_open_ids (positionIds : List Nat) : (store.load .open positionIds).map (·.positionId) =
      store.withStatus (· = .open) positionIds := by
  induction positionIds with
  | nil => rfl
  | cons positionId rest ih =>
    rw [PortfolioStore.load, PortfolioStore.withStatus, filterMap_cons, filter_cons]
    rw [PortfolioStore.load, PortfolioStore.withStatus] at ih
    cases store.positions.lookup positionId with
    | none => simpa using ih
    | some position =>
      by_cases isOpen : position.status = .open
      · simpa [isOpen] using ih
      · simpa [isOpen] using ih

theorem Indexed.closed_iff (indexed : Indexed store) (positionId : Nat) :
    positionId ∈ store.rebuiltClosed user ↔ store.HasStatus user positionId .closed := by
  rw [mem_rebuiltClosed, PortfolioStore.HasStatus]
  refine and_congr_right fun listed => ⟨?_, ?_⟩
  · rintro ⟨position, has, notOpen⟩
    refine ⟨position, has, ?_⟩
    cases status : position.status with
    | «open» => exact absurd status notOpen
    | closed => rfl
    | closing => exact absurd ⟨listed, position, has, status⟩ (indexed.finished user positionId)
  · rintro ⟨position, has, isClosed⟩
    exact ⟨position, has, fun isOpen => (by cases isClosed.symm.trans isOpen)⟩

/-- Lists that are those of the records up to their order. -/
theorem Indexed.lists (indexed : Indexed store) {openIds closedIds : List Nat}
    (opens : openIds.Perm (store.rebuiltOpen user))
    (closeds : closedIds.Perm (store.rebuiltClosed user))
    (closedPositions : List PortfolioPosition) :
    Lists store user ⟨store.load .open openIds, closedPositions, closedIds⟩ := by
  have loaded (positionId : Nat) : positionId ∈ store.withStatus (· = .open) openIds ↔
      store.HasStatus user positionId .open := by
    rw [mem_withStatus, opens.mem_iff, mem_rebuiltOpen]
    constructor
    · exact fun both => both.1
    · intro status
      obtain ⟨position, has, isOpen⟩ := status.2
      exact ⟨status, position, has, decide_eq_true isOpen⟩
  refine ⟨?_, fun positionId => ?_, ?_, fun positionId => ?_⟩
  · rw [load_open_ids]
    exact (opens.nodup_iff.mpr (indexed.enrolled.rebuiltOpen_nodup user)).filter _
  · rw [load_open_ids, loaded]
  · exact closeds.nodup_iff.mpr (indexed.enrolled.rebuiltClosed_nodup user)
  · exact (closeds.mem_iff).trans (indexed.closed_iff positionId)

/-- A read of a portfolio with its closed positions returns and lists them all. -/
theorem Indexed.read (indexed : Indexed store) (user : Address) :
    ∃ portfolio after, getPortfolio user true store = .ok portfolio after ∧
      Lists store user portfolio := by
  cases opens : store.userOpenPositions.lookup user with
  | some openIds =>
    have openPerm := indexed.openIndex user openIds opens
    cases closeds : store.userClosedPositions.lookup user with
    | some closedIds =>
      refine returns_of_wp ?_
      simp only [getPortfolio, getOpenPositionIds, getClosedPositionIds, if_true, wp_rules, opens,
        closeds]
      exact indexed.lists openPerm (indexed.closedIndex user closedIds closeds) _
    | none =>
      refine returns_of_wp ?_
      simp only [getPortfolio, getOpenPositionIds, getClosedPositionIds, rebuildPositionIndexes,
        if_true, wp_rules, opens, closeds]
      exact indexed.lists openPerm (List.Perm.refl _) _
  | none =>
    refine returns_of_wp ?_
    have anew : (store.reindex user).userClosedPositions.lookup user =
        some (store.rebuiltClosed user) :=
      (lookup_insert _ _ _ _).trans (if_pos rfl)
    simp only [getPortfolio, getOpenPositionIds, getClosedPositionIds, rebuildPositionIndexes,
      if_true, wp_rules, opens, anew]
    exact indexed.lists (List.Perm.refl _) (List.Perm.refl _) _

end Reads

/-- In every run from a state of the first layout without half-done closes that starts an index
only where nothing else belongs in it, a portfolio lists exactly what the records say. -/
theorem portfolio_lists_records (start : Ledger PortfolioStore) (first : FirstLayout start.store)
    (finished : ∀ user positionId, ¬ start.store.HasStatus user positionId .closing)
    (inputs : List PortfolioInput) (indexes : ∀ taken ∈ trace portfolioStep start inputs,
      PortfolioTransition.Indexes taken) (user : Address) :
    let store := (final portfolioStep start inputs).store
    ∃ portfolio after, getPortfolio user true store = .ok portfolio after ∧
      Lists store user portfolio := by
  have indexed := transition_history_invariant portfolioStep
    (fun _ ledger => Indexed ledger.store) PortfolioTransition.Indexes
    (fun _ _ _ indexes indexed => indexed.step indexes) start
    ⟨first.enrolled, finished, fun user _ hit => (by cases (first.openAbsent user).symm.trans hit),
      fun user _ hit => (by cases (first.closedAbsent user).symm.trans hit)⟩ inputs indexes
  exact indexed.read user

/-- User 1 has an open and a closed position in the first layout. -/
def firstLayout : PortfolioStore :=
  { PortfolioStore.blank with
    config := { PortfolioConfig.blank with admin := some 7 }
    nextPositionId := some 3
    positions := (AList.singleton 1 ⟨100, 1000, .open, 0⟩).insert 2 ⟨100, 500, .closed, 20⟩
    userPositions := AList.singleton 1 [1, 2] }

theorem firstLayout_first : FirstLayout firstLayout := by
  have listed (user : Address) : firstLayout.positionsOf user = if user = 1 then [1, 2] else [] := by
    rw [positionsOf, firstLayout]
    by_cases own : user = 1
    · subst own
      rfl
    · rw [if_neg own]
      have absent : (AList.singleton 1 [1, 2] : Table Address (List Nat)).lookup user = none :=
        (lookup_insert ∅ 1 user [1, 2]).trans (if_neg own)
      exact congrArg (fun hit => hit.getD []) absent
  refine ⟨⟨fun user => ?_, fun user other positionId mine others => ?_,
    fun user positionId mine => ?_⟩, fun _ => rfl, fun _ => rfl, fun _ => rfl, rfl⟩
  · rw [listed]
    split <;> decide
  · rw [listed] at mine others
    split at mine
    next own =>
      split at others
      next also => exact own.trans also.symm
      next => cases others
    next => cases mine
  · rw [listed] at mine
    split at mine
    next =>
      refine ⟨3, rfl, ?_⟩
      rcases List.mem_cons.mp mine with rfl | later
      · decide
      · cases List.mem_singleton.mp later
        decide
    next => cases mine

theorem firstLayout_finished (user : Address) (positionId : Nat) :
    ¬ firstLayout.HasStatus user positionId .closing := by
  rintro ⟨_, position, has, closing⟩
  have read : firstLayout.positions.lookup positionId =
      if positionId = 2 then some ⟨100, 500, .closed, 20⟩
      else if positionId = 1 then some ⟨100, 1000, .open, 0⟩ else none :=
    (lookup_insert _ _ _ _).trans
      (congrArg (ite _ _) (lookup_insert (∅ : Table Nat Position) 1 positionId _))
  rw [read] at has
  split at has
  next =>
    cases has
    cases closing
  next =>
    split at has
    next =>
      cases has
      cases closing
    next => cases has

/-- An opening before the migration hides the positions of the first layout. -/
theorem opening_hides_positions : ¬ ∀ (start : Ledger PortfolioStore), FirstLayout start.store →
      ∀ (inputs : List PortfolioInput) (user : Address),
        let store := (final portfolioStep start inputs).store
        ∃ portfolio after, getPortfolio user true store = .ok portfolio after ∧
          Lists store user portfolio := by
  intro every
  obtain ⟨portfolio, after, gave, lists⟩ := every ⟨firstLayout, 0, 0⟩ firstLayout_first
    [⟨⟨1, 1, [1]⟩, .opens 1 100 700⟩] 1
  have listed : (valueOr ⟨[], [], []⟩ (getPortfolio 1 true) (final portfolioStep
      ⟨firstLayout, 0, 0⟩ [⟨⟨1, 1, [1]⟩, .opens 1 100 700⟩]).store).openPositions.map
      (·.positionId) = [3] := by
    decide
  rw [valueOr_of_ok gave] at listed
  have status : (final portfolioStep ⟨firstLayout, 0, 0⟩
      [⟨⟨1, 1, [1]⟩, .opens 1 100 700⟩]).store.HasStatus 1 1 .open :=
    ⟨by decide, ⟨100, 1000, .open, 0⟩, by decide, rfl⟩
  have mem := (lists.openIds 1).mpr status
  rw [listed] at mem
  exact absurd mem (by decide)

/-- A run that migrates the user before the next opening. -/
theorem migrated_run_lists :
    let store := (final portfolioStep ⟨firstLayout, 0, 0⟩ [⟨⟨1, 1, [7]⟩, .registers [1]⟩,
      ⟨⟨1, 1, [7]⟩, .migrates 5⟩, ⟨⟨1, 1, [1]⟩, .opens 1 100 700⟩]).store
    ∃ portfolio after, getPortfolio 1 true store = .ok portfolio after ∧
      Lists store 1 portfolio :=
  portfolio_lists_records ⟨firstLayout, 0, 0⟩ firstLayout_first firstLayout_finished _
    (by decide) 1

end StellarSwipe.UserPortfolio
