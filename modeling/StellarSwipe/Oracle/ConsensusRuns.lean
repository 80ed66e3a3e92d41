import StellarSwipe.Oracle.ConsensusRounds

/-!
# Runs of rounds

An oracle that is removed leaves its pending submission, and it still counts.
-/

namespace StellarSwipe.Oracle.Consensus

open FixedWidth Program Runs List

namespace ConsensusTransition

variable (taken : ConsensusTransition)

def env : Env := taken.pre.env taken.input.arrival

def Returned : Prop := Accepts (taken.input.call.run taken.env) taken.pre.store
deriving Decidable

def KeepsSubmitters : Prop :=
  taken.Returned →
  match taken.input.call with
  | .removes _ oracle =>
    ∀ submission ∈ taken.pre.store.priceSubmissions, submission.oracle ≠ oracle
  | _ => True

instance : Decidable taken.KeepsSubmitters := by
  unfold KeepsSubmitters
  refine @instDecidableForall _ _ _ (taken.input.call.casesOn ?_ ?_ ?_ ?_) <;> intros <;>
    infer_instance

end ConsensusTransition

/-- No oracles and no reputations yet. -/
structure Unstarted (store : ConsensusStore) : Prop where
  oracles : store.oracles = []
  oracleStats : store.oracleStats = ∅
  priceSubmissions : store.priceSubmissions = []

theorem newReputation_sane (now : Nat) : newReputation.Sane now := ⟨le_rfl, le_rfl, Nat.zero_le _⟩

theorem Unstarted.kept {store : ConsensusStore} (unstarted : Unstarted store) (now : Nat) :
    RoundKept store now := by
  have none (submission : PriceSubmission) : submission ∉ store.priceSubmissions := by
    simp [unstarted.priceSubmissions]
  refine ⟨unstarted.oracles ▸ nodup_nil, by simp [unstarted.priceSubmissions],
    fun submission mem => absurd mem (none submission),
    fun submission mem => absurd mem (none submission), fun oracle => ?_,
    fun submission mem => absurd mem (none submission)⟩
  rw [ConsensusStore.statsOf, unstarted.oracleStats]
  exact newReputation_sane now

section Operations

variable {store : ConsensusStore} {now : Nat} {env : Env}

theorem RoundKept.later (kept : RoundKept store now) {later : Nat} (passed : now ≤ later) :
    RoundKept store later :=
  { kept with sane := fun oracle => (kept.sane oracle).later passed }

theorem requireAdmin_spec (caller : Address) :
    wlp (requireAdmin caller) (fun _ after => after = store) store := by
  unfold requireAdmin
  simp only [wlp_rules]

theorem registerOracle_kept (kept : RoundKept store now) (admin oracle : Address) :
    wlp (registerOracle env admin oracle) (fun _ after => RoundKept after now) store := by
  unfold registerOracle
  simp only [wp_bind, wp_demand, implies_true, and_true]
  intro _
  refine wp_mono (requireAdmin_spec admin) (fun _ after same => ?_) fun _ _ stopped =>
    stopped
  subst same
  simp only [wp_get, wp_ensure, wp_modify, implies_true, and_true]
  intro fresh
  have stats (tested : Address) :
      getOracleStats (after.oracleStats.insert oracle newReputation) tested =
        if tested = oracle then newReputation else after.statsOf tested :=
    Table.entryOr_insert _ _ _ _ _
  refine ⟨List.nodup_append.mpr ⟨kept.distinct, nodup_singleton _, ?_⟩, kept.single,
    kept.priced, fun submission mem => ?_, fun tested => ?_, fun submission mem => ?_⟩
  · intro other mem tested single
    rintro rfl
    exact fresh (List.mem_singleton.mp single ▸ mem)
  · show (getOracleStats _ submission.oracle).weight ≠ 0
    rw [stats]
    split
    next => decide
    next => exact kept.weighed submission mem
  · show (getOracleStats _ tested).Sane now
    rw [stats]
    split
    next => exact newReputation_sane now
    next => exact kept.sane tested
  · exact mem_append_left _ (kept.registered submission mem)

theorem removeOracle_kept (kept : RoundKept store now) (admin oracle : Address)
    (idle : ∀ submission ∈ store.priceSubmissions, submission.oracle ≠ oracle) :
    wlp (removeOracle env admin oracle) (fun _ after => RoundKept after now) store := by
  unfold removeOracle
  simp only [wp_bind, wp_demand, implies_true, and_true]
  intro _
  refine wp_mono (requireAdmin_spec admin) (fun _ after same => ?_) fun _ _ stopped =>
    stopped
  subst same
  simp only [wp_modify]
  exact { kept with
    distinct := kept.distinct.filter _
    registered := fun submission mem =>
      List.mem_filter.mpr ⟨kept.registered submission mem,
        by simpa using idle submission mem⟩ }

/-- An oracle's submission is its first of the round, replaces an earlier one, or is refused. -/
theorem admit_cases (pending : List PriceSubmission) (oracle : Address) (sequence : Nat) :
    ((∀ submission ∈ pending, submission.oracle ≠ oracle) ∧
      admitObservation (pending.map fun other => (other.oracle, other.ledgerSequence)) oracle
        sequence = .ok .append) ∨
    (∃ prior replaced later, pending = prior ++ replaced :: later ∧ replaced.oracle = oracle ∧
      admitObservation (pending.map fun other => (other.oracle, other.ledgerSequence)) oracle
        sequence = .ok (.replace prior.length)) ∨
    admitObservation (pending.map fun other => (other.oracle, other.ledgerSequence)) oracle
      sequence = .error .duplicateObservation := by
  let vote (submission : PriceSubmission) : Vote :=
    ⟨submission.oracle, submission.ledgerSequence, submission.price⟩
  have listed : (pending.map fun other => (other.oracle, other.ledgerSequence)) =
      (pending.map vote).map fun other => (other.provider, other.sequence) := by
    rw [map_map]
    rfl
  rw [admitObservation, listed]
  rcases admitFrom_cases oracle sequence 0 (pending.map vote) with ⟨absent, admitted⟩ |
    ⟨pre, cast, after, split, own, _, admitted⟩ | ⟨_, _, _, _, refused⟩
  · exact .inl ⟨fun submission mem => absent _ (mem_map_of_mem mem), admitted⟩
  · obtain ⟨prior, rest, rfl, rfl, ends⟩ := List.map_eq_append_iff.mp split
    obtain ⟨replaced, later, rfl, rfl, rfl⟩ := List.map_eq_cons_iff.mp ends
    refine .inr (.inl ⟨prior, replaced, later, rfl, own, ?_⟩)
    rw [admitted, Nat.zero_add, length_map]
  · exact .inr (.inr refused)

theorem RoundKept.submit (kept : RoundKept store now) {submission : PriceSubmission}
    {pending : List PriceSubmission} (single : (pending.map PriceSubmission.oracle).Nodup)
    (members : ∀ other ∈ pending, other = submission ∨ other ∈ store.priceSubmissions)
    (priced : 0 < submission.price ∧ submission.price ≤ i128.high)
    (weighed : (store.statsOf submission.oracle).weight ≠ 0)
    (registered : submission.oracle ∈ store.oracles) :
    RoundKept { store with priceSubmissions := pending } now := by
  refine ⟨kept.distinct, single, fun other mem => ?_, fun other mem => ?_, kept.sane,
    fun other mem => ?_⟩
  · rcases members other mem with rfl | prior
    · exact priced
    · exact kept.priced other prior
  · rcases members other mem with rfl | prior
    · exact weighed
    · exact kept.weighed other prior
  · rcases members other mem with rfl | prior
    · exact registered
    · exact kept.registered other prior

theorem submitPrice_kept (kept : RoundKept store now) (paused : Bool) (oracle : Address)
    (price : Amount) :
    wlp (submitPrice env paused oracle price) (fun _ after => RoundKept after now) store := by
  unfold submitPrice
  simp only [wlp_rules]
  intro _ _ pos registered weighed
  have priced : 0 < (price : Int) ∧ (price : Int) ≤ i128.high := ⟨pos, price.property.2⟩
  rcases admit_cases store.priceSubmissions oracle env.sequence with ⟨absent, admitted⟩ |
    ⟨prior, replaced, later, split, own, admitted⟩ | refused
  · rw [admitted]
    refine @RoundKept.submit store now kept ⟨oracle, price, env.timestamp, env.sequence⟩ _ ?_ ?_
      priced weighed registered
    · rw [map_append]
      refine List.nodup_append.mpr ⟨kept.single, nodup_singleton _, ?_⟩
      rintro _ mem _ last rfl
      obtain ⟨other, pending, same⟩ := List.mem_map.mp mem
      exact absent other pending (same.trans (List.mem_singleton.mp last))
    · intro other mem
      rcases List.mem_append.mp mem with pending | last
      · exact .inr pending
      · exact .inl (List.mem_singleton.mp last)
  · rw [admitted]
    have replacing (submission : PriceSubmission) :
        store.priceSubmissions.set prior.length submission =
          prior ++ submission :: later := by
      rw [split, set_append_right _ _ le_rfl, Nat.sub_self, set_cons_zero]
    simp only [wp_modify, replacing]
    refine @RoundKept.submit store now kept ⟨oracle, price, env.timestamp, env.sequence⟩ _ ?_ ?_
      priced weighed registered
    · have single := kept.single
      rw [split] at single
      simpa [own] using single
    · intro other mem
      rw [split]
      rcases List.mem_append.mp mem with pre | rest
      · exact .inr (mem_append_left _ pre)
      · rcases List.mem_cons.mp rest with rfl | after
        · exact .inl rfl
        · exact .inr (mem_append_right _ (mem_cons_of_mem _ after))
  · rw [refused]
    trivial

theorem calculateConsensus_kept (kept : RoundKept store now) (passed : now ≤ env.timestamp) :
    wlp (calculateConsensus env) (fun _ after => RoundKept after env.timestamp) store := by
  by_cases empty : store.priceSubmissions = []
  · unfold calculateConsensus
    simp only [wp_rules, empty, ne_eq, not_true_eq_false, false_implies, implies_true, and_self]
  · refine wp_then (calculateConsensus_spec empty) (fun price after closed => ?_)
    obtain ⟨median, assessed, known, adjusted, done, remaining, part, rfl⟩ := closed
    have hit := weightedMedian_eq kept empty
    rw [median] at hit
    split at hit
    next =>
      cases hit
      obtain ⟨changed, elsewhere⟩ :=
        Table.reviseAll_some (by simpa using kept.distinct) done
      refine ⟨part.nodup kept.distinct, nodup_nil, fun _ mem => (by cases mem),
        fun _ mem => (by cases mem), fun oracle => ?_, fun _ mem => (by cases mem)⟩
      obtain ⟨sane, _⟩ := assessAll_counts kept empty passed known oracle
      by_cases registered : oracle ∈ store.oracles
      · obtain ⟨answer, adjustment⟩ := changed oracle registered
        obtain ⟨reputation, same⟩ := adjust_some adjustment
        show (Table.entryOr newReputation adjusted.1 oracle).Sane env.timestamp
        rw [show Table.entryOr newReputation adjusted.1 oracle = _ from same]
        exact ⟨sane.accurate, sane.deviation, sane.slashed⟩
      · show (Table.entryOr newReputation adjusted.1 oracle).Sane env.timestamp
        rw [elsewhere oracle (by simpa using registered)]
        exact sane
    next => cases hit

end Operations

theorem RoundKept.step {ledger : Ledger ConsensusStore} {input : ConsensusInput}
    (kept : RoundKept ledger.store ledger.timestamp)
    (keeps : ConsensusTransition.KeepsSubmitters ⟨ledger, input, consensusStep input ledger⟩) :
    RoundKept (consensusStep input ledger).store (consensusStep input ledger).timestamp := by
  have passed : ledger.timestamp ≤ ledger.timestamp + input.arrival.seconds := Nat.le_add_right _ _
  have still := kept.later passed
  by_cases gave : ConsensusTransition.Returned ⟨ledger, input, consensusStep input ledger⟩
  · have allowed := keeps gave
    suffices specified : wlp (input.call.run (ledger.env input.arrival))
        (fun _ after => RoundKept after (ledger.timestamp + input.arrival.seconds))
        ledger.store from
      @invoke_rule _ _ _ _
        (fun after => RoundKept after (ledger.timestamp + input.arrival.seconds)) _
        (wp_mono specified (fun _ _ later => later) fun _ _ _ => still)
    cases called : input.call with
    | registers admin oracle => exact registerOracle_kept still admin oracle
    | removes admin oracle =>
      simp only [called] at allowed
      exact removeOracle_kept still admin oracle allowed
    | submits paused oracle price => exact submitPrice_kept still paused oracle price
    | calculates =>
      simp only [ConsensusCall.run, wp_discard]
      exact calculateConsensus_kept kept passed
  · have same : (consensusStep input ledger).store = ledger.store := invoke_of_rejected gave
    exact same ▸ still

/-- In every run from no oracles in which no oracle is removed while it has a submission pending:
whenever something is pending, a call at any later time reaches the weighted median of
submissions of registered oracles exactly when the arithmetic of the round fits. -/
theorem consensus_reached_iff_fits (start : Ledger ConsensusStore)
    (unstarted : Unstarted start.store) (inputs : List ConsensusInput)
    (keeps : ∀ taken ∈ trace consensusStep start inputs,
      ConsensusTransition.KeepsSubmitters taken) (arrival : Arrival)
    (pending : (final consensusStep start inputs).store.priceSubmissions ≠ []) :
    (final consensusStep start inputs).store.Reaches
        ((final consensusStep start inputs).env arrival) ↔
      (final consensusStep start inputs).store.RoundFits := by
  have kept := transition_history_invariant consensusStep
    (fun _ ledger => RoundKept ledger.store ledger.timestamp)
    ConsensusTransition.KeepsSubmitters (fun _ _ _ allowed kept => kept.step allowed) start
    (unstarted.kept start.timestamp) inputs keeps
  exact reaches_iff_fits kept pending (Nat.le_add_right _ _)

/-- The admin's contract without oracles. -/
def consensusStart : Ledger ConsensusStore := ⟨⟨some 1, [], ∅, [], none⟩, 1000, 10⟩

theorem consensusStart_unstarted : Unstarted consensusStart.store := ⟨rfl, rfl, rfl⟩

def registered (oracle : Address) : ConsensusInput := ⟨⟨1, 1, [1]⟩, .registers 1 oracle⟩

def submitted (oracle : Address) (price : Nat) : ConsensusInput :=
  ⟨⟨1, 1, [oracle]⟩, .submits false oracle (amountOf price)⟩

/-- Two oracles submit the largest price, and the sum of the two in the middle overflows. -/
theorem largest_prices_block :
    ¬ ∀ (start : Ledger ConsensusStore), Unstarted start.store → ∀ inputs arrival,
      (final consensusStep start inputs).store.priceSubmissions ≠ [] →
        (final consensusStep start inputs).store.Reaches
          ((final consensusStep start inputs).env arrival) := by
  intro every
  obtain ⟨price, after, gave, _⟩ := every consensusStart consensusStart_unstarted
    [registered 5, registered 6, submitted 5 (2 ^ 127 - 1), submitted 6 (2 ^ 127 - 1)] ⟨1, 1, []⟩
    (by decide +kernel)
  have accepted : Accepts (calculateConsensus _) _ := ⟨price, after, gave⟩
  revert accepted
  decide +kernel

/-- Two rounds of two oracles, and a third oracle that is removed between its submissions. -/
theorem second_round_reached : (final consensusStep consensusStart
        [registered 5, registered 6, registered 7, submitted 5 100, submitted 6 103,
          ⟨⟨1, 1, []⟩, .calculates⟩, ⟨⟨1, 1, [1]⟩, .removes 1 7⟩, submitted 6 101,
          submitted 5 99]).store.Reaches ((final consensusStep consensusStart
        [registered 5, registered 6, registered 7, submitted 5 100, submitted 6 103,
          ⟨⟨1, 1, []⟩, .calculates⟩, ⟨⟨1, 1, [1]⟩, .removes 1 7⟩, submitted 6 101,
          submitted 5 99]).env ⟨1, 1, []⟩) :=
  (consensus_reached_iff_fits consensusStart consensusStart_unstarted _ (by decide +kernel)
    ⟨1, 1, []⟩ (by decide +kernel)).mpr (by decide +kernel)

end StellarSwipe.Oracle.Consensus
