import StellarSwipe.UserPortfolio.Contract

/-!
# The record of positions

A call opens a position under a fresh number, replaces the record of an open position of its user,
or leaves the records.
-/

namespace StellarSwipe.UserPortfolio

open FixedWidth Program Runs Table PortfolioStore Nat

/-- Every listed number is its user's alone, is listed once and was issued. -/
structure Enrolled (store : PortfolioStore) : Prop where
  distinct : ∀ user, (store.positionsOf user).Nodup
  owned : ∀ user other positionId, positionId ∈ store.positionsOf user →
    positionId ∈ store.positionsOf other → user = other
  issued : ∀ user positionId, positionId ∈ store.positionsOf user →
    ∃ next ∈ store.nextPositionId, positionId < next

/-- What a call does to the records. -/
inductive RecordMove (pre after : PortfolioStore) : Prop
  | enlisted (user : Address) (positionId : Nat) (position : Position) :
    pre.nextPositionId = some positionId → after.nextPositionId = some (positionId + 1) →
    after.positions = pre.positions.insert positionId position →
    after.userPositions =
      pre.userPositions.insert user (pre.positionsOf user ++ [positionId]) →
    0 < position.amount → RecordMove pre after
  | replaced (user : Address) (positionId : Nat) (position changed : Position) :
    pre.HoldsOpen user positionId position → after.nextPositionId = pre.nextPositionId →
    after.positions = pre.positions.insert positionId changed →
    after.userPositions = pre.userPositions → 0 ≤ changed.amount →
    changed.amount ≤ position.amount → RecordMove pre after
  | kept : after.nextPositionId = pre.nextPositionId → after.positions = pre.positions →
    after.userPositions = pre.userPositions → RecordMove pre after

namespace PortfolioStore

variable {pre after : PortfolioStore} {user : Address} {positionId : Nat}

theorem Settles.move {position closed : Position}
    (settles : pre.Settles after user positionId closed)
    (holds : pre.HoldsOpen user positionId position) (nonneg : 0 ≤ closed.amount)
    (bounded : closed.amount ≤ position.amount) : RecordMove pre after := by
  obtain ⟨_, _, _, rfl⟩ := settles
  exact .replaced user positionId position closed holds rfl rfl rfl nonneg bounded

theorem Reindexes.move (reindexes : pre.Reindexes after) : RecordMove pre after := by
  obtain ⟨⟨_, _, _, _, rfl⟩, _⟩ := reindexes
  exact .kept rfl rfl rfl

end PortfolioStore

theorem PortfolioEffect.move {pre after : PortfolioStore} {call : PortfolioCall}
    (effect : PortfolioEffect pre call after) : RecordMove pre after := by
  cases effect with
  | configured => exact .kept rfl rfl rfl
  | opened _ pos next => exact .enlisted _ _ _ next rfl rfl rfl pos
  | openedCapped _ pos next => exact .enlisted _ _ _ next rfl rfl rfl pos
  | closed holds settles => exact settles.move holds holds.sound.1 le_rfl
  | keeperClosed holds settles => exact settles.move holds holds.sound.1 le_rfl
  | reduced holds pos part =>
    refine .replaced _ _ _ _ holds rfl rfl rfl ?_ ?_ <;> dsimp only <;> omega
  | drained holds _ _ settles => exact settles.move holds le_rfl holds.sound.1
  | capSet => exact .kept rfl rfl rfl
  | capRemoved => exact .kept rfl rfl rfl
  | lotAdded => exact .kept rfl rfl rfl
  | lotsConsumed => exact .kept rfl rfl rfl
  | read reindexes => exact reindexes.move
  | registered => exact .kept rfl rfl rfl
  | migrated reindexes => exact reindexes.move

theorem portfolioStep_move (input : PortfolioInput) (ledger : Ledger PortfolioStore) :
    RecordMove ledger.store (portfolioStep input ledger).store := by
  rcases portfolioStep_effect input ledger with ⟨_, effect⟩ | ⟨_, same⟩
  · exact effect.move
  · rw [same]
    exact .kept rfl rfl rfl

section Lists

variable {pre after : PortfolioStore} {user : Address} {positionId : Nat}

theorem positionsOf_same (same : after.userPositions = pre.userPositions) (user : Address) :
    after.positionsOf user = pre.positionsOf user := by
  rw [positionsOf, same, positionsOf]

theorem positionsOf_enlisted (joined : after.userPositions =
    pre.userPositions.insert user (pre.positionsOf user ++ [positionId])) (other : Address) :
    after.positionsOf other = if other = user then pre.positionsOf user ++ [positionId]
      else pre.positionsOf other := by
  rw [positionsOf, joined, lookup_insert]
  split <;> rfl

theorem Enrolled.fresh (enrolled : Enrolled pre) (next : pre.nextPositionId = some positionId)
    (user : Address) : positionId ∉ pre.positionsOf user := by
  intro listed
  obtain ⟨bound, issuing, below⟩ := enrolled.issued user positionId listed
  cases Option.mem_unique next issuing
  exact lt_irrefl _ below

end Lists

theorem Enrolled.blank : Enrolled .blank :=
  ⟨fun _ => List.nodup_nil, fun _ _ _ listed => (by cases listed), fun _ _ listed => (by cases listed)⟩

/-- Every move keeps the lists. -/
theorem Enrolled.move {pre after : PortfolioStore} (enrolled : Enrolled pre)
    (move : RecordMove pre after) : Enrolled after := by
  cases move with
  | enlisted user positionId position next onward _ joined =>
    have listed (owner : Address) (tested : Nat) : tested ∈ after.positionsOf owner →
        tested ∈ pre.positionsOf owner ∨ (owner = user ∧ tested = positionId) := by
      rw [positionsOf_enlisted joined]
      split
      next own =>
        subst own
        simp
      next => exact Or.inl
    refine ⟨fun owner => ?_, fun owner other tested mine others => ?_, fun owner tested mine => ?_⟩
    · rw [positionsOf_enlisted joined]
      split
      next =>
        refine List.nodup_append.mpr ⟨enrolled.distinct user, List.nodup_singleton _, ?_⟩
        intro tested present last single
        rw [List.mem_singleton] at single
        rintro rfl
        exact enrolled.fresh next user (single ▸ present)
      next => exact enrolled.distinct owner
    · rcases listed owner tested mine with prior | ⟨rfl, rfl⟩
      · rcases listed other tested others with also | ⟨rfl, rfl⟩
        · exact enrolled.owned owner other tested prior also
        · exact absurd prior (enrolled.fresh next owner)
      · rcases listed other tested others with also | ⟨rfl, _⟩
        · exact absurd also (enrolled.fresh next other)
        · rfl
    · refine ⟨positionId + 1, onward, ?_⟩
      rcases listed owner tested mine with prior | ⟨_, rfl⟩
      · obtain ⟨bound, issuing, below⟩ := enrolled.issued owner tested prior
        cases Option.mem_unique next issuing
        exact below.trans (lt_succ_self _)
      · exact lt_succ_self _
  | replaced user positionId position changed holds onward _ same =>
    refine ⟨fun owner => ?_, fun owner other tested => ?_, fun owner tested => ?_⟩
    · rw [positionsOf_same same]
      exact enrolled.distinct owner
    · rw [positionsOf_same same, positionsOf_same same]
      exact enrolled.owned owner other tested
    · rw [positionsOf_same same, onward]
      exact enrolled.issued owner tested
  | kept onward _ same =>
    refine ⟨fun owner => ?_, fun owner other tested => ?_, fun owner tested => ?_⟩
    · rw [positionsOf_same same]
      exact enrolled.distinct owner
    · rw [positionsOf_same same, positionsOf_same same]
      exact enrolled.owned owner other tested
    · rw [positionsOf_same same, onward]
      exact enrolled.issued owner tested

/-- Every record was issued and has a nonnegative amount. -/
structure Recorded (store : PortfolioStore) : Prop where
  issued : ∀ positionId position, store.positions.lookup positionId = some position →
    ∃ next ∈ store.nextPositionId, positionId < next
  nonneg : ∀ positionId position, store.positions.lookup positionId = some position →
    0 ≤ position.amount

namespace Recorded

variable {pre after : PortfolioStore}

theorem blank : Recorded .blank :=
  ⟨fun _ _ has => (by cases has), fun _ _ has => (by cases has)⟩

theorem fresh {positionId : Nat} (recorded : Recorded pre)
    (next : pre.nextPositionId = some positionId) : pre.positions.lookup positionId = none := by
  cases has : pre.positions.lookup positionId with
  | none => rfl
  | some position =>
    obtain ⟨bound, issuing, below⟩ := recorded.issued positionId position has
    cases Option.mem_unique next issuing
    exact absurd below (lt_irrefl _)

theorem move (recorded : Recorded pre) (move : RecordMove pre after) : Recorded after := by
  cases move with
  | enlisted user positionId position next onward positions _ pos =>
    refine ⟨fun tested hit has => ⟨_, onward, ?_⟩, fun tested hit has => ?_⟩
    · rw [positions, lookup_insert] at has
      split at has
      next own => exact own ▸ lt_succ_self _
      next =>
        obtain ⟨bound, issuing, below⟩ := recorded.issued tested hit has
        cases Option.mem_unique next issuing
        exact below.trans (lt_succ_self _)
    · rw [positions, lookup_insert] at has
      split at has
      next =>
        cases has
        exact pos.le
      next => exact recorded.nonneg tested hit has
  | replaced user positionId position changed holds onward positions _ nonneg =>
    refine ⟨fun tested hit has => ?_, fun tested hit has => ?_⟩
    · rw [onward]
      rw [positions, lookup_insert] at has
      split at has
      next own => exact recorded.issued tested position (own ▸ holds.has)
      next => exact recorded.issued tested hit has
    · rw [positions, lookup_insert] at has
      split at has
      next =>
        cases has
        exact nonneg
      next => exact recorded.nonneg tested hit has
  | kept onward positions _ =>
    refine ⟨?_, ?_⟩
    · rw [onward, positions]
      exact recorded.issued
    · rw [positions]
      exact recorded.nonneg

end Recorded

/-- A record stays, its amount does not rise, and a closed one does not change. -/
def Persists (pre after : PortfolioStore) : Prop :=
  ∀ positionId position, pre.positions.lookup positionId = some position →
    ∃ later, after.positions.lookup positionId = some later ∧ later.amount ≤ position.amount ∧
      (position.status = .closed → later = position)

theorem Recorded.persists {pre after : PortfolioStore} (recorded : Recorded pre)
    (move : RecordMove pre after) : Persists pre after := by
  intro tested hit has
  cases move with
  | enlisted user positionId position next _ positions =>
    have other : tested ≠ positionId := by
      rintro rfl
      cases has.symm.trans (recorded.fresh next)
    refine ⟨hit, ?_, le_rfl, fun _ => rfl⟩
    rw [positions, lookup_insert, if_neg other]
    exact has
  | replaced user positionId position changed holds _ positions _ _ bounded =>
    by_cases own : tested = positionId
    · subst own
      cases Option.mem_unique has holds.has
      refine ⟨changed, ?_, bounded, fun closed => ?_⟩
      · rw [positions, lookup_insert, if_pos rfl]
      · cases closed.symm.trans holds.isOpen
    · refine ⟨hit, ?_, le_rfl, fun _ => rfl⟩
      rw [positions, lookup_insert, if_neg own]
      exact has
  | kept _ positions _ => exact ⟨hit, positions ▸ has, le_rfl, fun _ => rfl⟩

/-- The portfolio of a contract that was just initialized. -/
def portfolioStart (timestamp sequence : Nat) : Ledger PortfolioStore :=
  ⟨.blank, timestamp, sequence⟩

end StellarSwipe.UserPortfolio
