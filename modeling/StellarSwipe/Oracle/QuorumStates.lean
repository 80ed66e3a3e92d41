import StellarSwipe.Oracle.PriceEffects

/-!
# The recorded state of a quorum

A read that finds a conflicting or depleted quorum returns an error, so what it records is taken
back: only quorums that supply a price are ever recorded.
-/

namespace StellarSwipe.Oracle

open FixedWidth Program Runs PriceStore PriceTransition

namespace PriceTransition

variable (taken : PriceTransition)

def readPair : Option AssetPair :=
  match taken.input.call with
  | .reads pair => some pair
  | .readsPrice pair => some pair
  | _ => none

def evaluates (pair : AssetPair) (taken : PriceTransition) : Option QuorumState :=
  if taken.readPair = some pair then taken.pre.store.evaluated taken.env pair else none

/-- A quorum that is evaluated supplies a price, or failed in the same way as recorded. -/
def Recordable : Prop :=
  ∀ pair ∈ taken.readPair, ∀ state ∈ taken.pre.store.evaluated taken.env pair,
    state.Supplies ∨ taken.pre.store.getQuorumState pair = state
deriving Decidable

end PriceTransition

def lastEvaluated (pair : AssetPair) (past : List PriceTransition) : Option QuorumState :=
  past.foldl (fun last taken => (taken.evaluates pair).or last) none

theorem lastEvaluated_concat (pair : AssetPair) (past : List PriceTransition)
    (taken : PriceTransition) :
    lastEvaluated pair (past ++ [taken]) = (taken.evaluates pair).or (lastEvaluated pair past) := by
  rw [lastEvaluated, List.foldl_append]
  rfl

def StatesRecorded (past : List PriceTransition) (store : PriceStore) : Prop :=
  ∀ pair, store.getQuorumState pair = (lastEvaluated pair past).getD .primary

section Steps

variable {past : List PriceTransition} {ledger : Ledger PriceStore} {input : PriceInput}
variable {pair : AssetPair} {call : PriceCall} {after : PriceStore}

theorem getQuorumState_cache (store : PriceStore) (pair other : AssetPair)
    (state : QuorumState) : (store.cacheQuorumState pair state).getQuorumState other =
      if other = pair then state else store.getQuorumState other := by
  rw [getQuorumState, cacheQuorumState, Table.lookup_insert]
  split <;> rfl

theorem refused_supplies_nothing {taken : PriceTransition} (refused : ¬ taken.Returned)
    (read : taken.readPair = some pair) :
    ∀ state, taken.pre.store.evaluated taken.env pair = some state → ¬ state.Supplies := by
  have stopped {α : Type} {program : PriceProgram α}
      {known : α → PriceStore → Prop} {property : Prop}
      (specified : wp program known (fun _ _ => property) taken.pre.store)
      (rejected : ¬ Accepts program taken.pre.store) : property := by
    cases ran : program taken.pre.store with
    | ok value after => exact absurd ⟨value, after, ran⟩ rejected
    | error reason after => exact wp_error specified ran
  rw [PriceTransition.Returned] at refused
  rw [readPair] at read
  split at read
  next called =>
    cases read
    rw [called, PriceCall.run, accepts_discard] at refused
    exact stopped getPriceWithConfidence_spec refused
  next called =>
    cases read
    rw [called, PriceCall.run, accepts_discard] at refused
    exact stopped getPrice_spec refused
  next => cases read

theorem storePrice_quorums (store : PriceStore) (now : Nat) (price : Int) :
    (store.storePrice now pair price).quorumStates = store.quorumStates := by
  unfold storePrice pruneOldData
  split <;> rfl

variable {pre : PriceStore}

theorem Judged.quorums {newPrice : Int} {rejected : Bool}
    (judged : Judged pre pair newPrice rejected after) : after.quorumStates = pre.quorumStates := by
  cases judged <;> rfl

/-- A call that returns is a read with its outcome, or leaves what is recorded. -/
theorem PriceEffect.reads_or_keeps {env : Env} (effect : PriceEffect env pre call after) :
    (∃ pair, (call = .reads pair ∨ call = .readsPrice pair) ∧
      (pre.evaluated env pair = none ∧ after = pre ∨
        ∃ state, pre.evaluated env pair = some state ∧ state.Supplies ∧
          after = pre.cacheQuorumState pair state)) ∨
    ((∀ pair, call ≠ .reads pair ∧ call ≠ .readsPrice pair) ∧
      after.quorumStates = pre.quorumStates) := by
  cases effect with
  | read outcome => exact .inl ⟨_, .inl rfl, outcome⟩
  | readPrice outcome => exact .inl ⟨_, .inr rfl, outcome⟩
  | rejected judged => exact .inr ⟨by simp, judged.quorums⟩
  | has judged same =>
    exact .inr ⟨by simp, same.quorums.trans ((storePrice_quorums _ _ _).trans judged.quorums)⟩
  | submitted _ _ _ _ same => exact .inr ⟨by simp, same.quorums⟩
  | averaged same => exact .inr ⟨by simp, same.quorums⟩
  | reset => exact .inr ⟨by simp, rfl⟩
  | configured same => exact .inr ⟨by simp, same.quorums⟩
  | published same => exact .inr ⟨by simp, same.quorums⟩
  | revoked same => exact .inr ⟨by simp, same.quorums⟩
  | written same => exact .inr ⟨by simp, same.quorums⟩

theorem readPair_eq_some {taken : PriceTransition} : taken.readPair = some pair ↔
    taken.input.call = .reads pair ∨ taken.input.call = .readsPrice pair := by
  unfold readPair
  split
  next called => simp [called]
  next called => simp [called]
  next other another =>
    exact iff_of_false (by simp) fun read => read.elim (other pair) (another pair)

theorem StatesRecorded.step (recorded : StatesRecorded past ledger.store)
    (recordable : PriceTransition.Recordable ⟨ledger, input, priceStep input ledger⟩) :
    StatesRecorded (past ++ [⟨ledger, input, priceStep input ledger⟩])
      (priceStep input ledger).store := by
  intro pair
  rw [lastEvaluated_concat, evaluates]
  rcases priceStep_effect input ledger with ⟨_, effect⟩ | ⟨refused, same⟩
  · rcases effect.reads_or_keeps with ⟨read, called, outcome⟩ | ⟨others, same⟩
    · have isRead := (@readPair_eq_some read ⟨ledger, input, priceStep input ledger⟩).mpr called
      rw [isRead]
      rcases outcome with ⟨nothing, same⟩ | ⟨state, evaluated, _, same⟩
      · rw [same, recorded pair]
        split
        next own =>
          cases own
          exact nothing ▸ rfl
        next => rfl
      · rw [same, getQuorumState_cache]
        split
        next own =>
          subst own
          rw [if_pos rfl]
          exact evaluated ▸ rfl
        next differ =>
          rw [if_neg fun own => differ (Option.some.inj own).symm]
          exact recorded pair
    · have unread : ¬ readPair ⟨ledger, input, priceStep input ledger⟩ =
          some pair := fun read => by
        rcases readPair_eq_some.mp read with called | called
        · exact (others pair).1 called
        · exact (others pair).2 called
      rw [if_neg unread, getQuorumState, same]
      exact recorded pair
  · rw [same]
    split
    next read =>
      have supplies := refused_supplies_nothing refused read
      cases evaluated : ledger.store.evaluated (ledger.env input.arrival) pair with
      | none =>
        rw [PriceTransition.env, evaluated]
        exact recorded pair
      | some state =>
        rw [PriceTransition.env, evaluated]
        exact (recordable pair read state evaluated).resolve_left (supplies state evaluated)
    next => exact recorded pair

end Steps

/-- In every run in which quorums that are evaluated supply a price, or fail as recorded, the
recorded state of every pair is the last one evaluated. -/
theorem quorum_state_recorded (contract admin : Address) (timestamp sequence : Nat)
    (inputs : List PriceInput)
    (recordable : ∀ taken ∈ trace priceStep (priceStart contract admin timestamp sequence)
      inputs, PriceTransition.Recordable taken) :
    StatesRecorded (trace priceStep (priceStart contract admin timestamp sequence) inputs)
      (final priceStep (priceStart contract admin timestamp sequence) inputs).store :=
  transition_history_invariant priceStep
    (fun past ledger => StatesRecorded past ledger.store) PriceTransition.Recordable
    (fun _ _ _ recordable recorded => recorded.step recordable)
    (priceStart contract admin timestamp sequence) (fun _ => rfl) inputs recordable

/-- The admin registers sources 10 and 11 and a fallback member; each source quotes a price,
and the pair is read. -/
def quotedRun (fallback : Address) (first second : Nat) : List PriceInput :=
  [⟨⟨1, 1, [1]⟩, false, .writesSetting 1 (.priceSource 10 1)⟩,
    ⟨⟨1, 1, [1]⟩, false, .writesSetting 1 (.priceSource 11 1)⟩,
    ⟨⟨1, 1, [1]⟩, false, .writesSetting 1 (.quorumFallback usdcPair [fallback] 1)⟩,
    ⟨⟨1, 1, [10]⟩, false, .submits 10 usdcPair (amountOf first) 90⟩,
    ⟨⟨1, 1, [11]⟩, false, .submits 11 usdcPair (amountOf second) 90⟩,
    ⟨⟨1, 1, []⟩, false, .reads usdcPair⟩]

/-- Two sources conflict and the fallback member has no quote: the read is refused, and the
recorded state stays primary. -/
theorem conflict_never_recorded :
    ¬ ∀ (contract admin : Address) (timestamp sequence : Nat) (inputs : List PriceInput),
      StatesRecorded (trace priceStep (priceStart contract admin timestamp sequence) inputs)
        (final priceStep (priceStart contract admin timestamp sequence) inputs).store := by
  intro every
  have recorded := every 99 1 1000 10 (quotedRun 12 100 200) usdcPair
  revert recorded
  decide +kernel

/-- The fallback member settles the conflict, and that is recorded. -/
theorem settled_conflict_recorded :
    StatesRecorded (trace priceStep (priceStart 99 1 1000 10) (quotedRun 10 100 200))
      (final priceStep (priceStart 99 1 1000 10) (quotedRun 10 100 200)).store :=
  quorum_state_recorded 99 1 1000 10 _ (by decide +kernel)

end StellarSwipe.Oracle
