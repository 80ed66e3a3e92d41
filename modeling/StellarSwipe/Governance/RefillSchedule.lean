import Mathlib.Data.List.Pairwise
import StellarSwipe.Governance.ConvictionFunding

/-!
# The schedule of a pool's refills

A refill counts the whole periods since the last one, moves the mark to its own time and drops the
seconds past a whole period.
-/

namespace StellarSwipe.Governance

open FixedWidth Program Runs List

section Schedule

/-- The whole periods that each call refills. A call that is not due refills none and
leaves the mark. -/
def refillPeriods (period : Nat) : Nat → List Nat → List Nat
  | _, [] => []
  | mark, now :: rest =>
    (now - mark) / period ::
      refillPeriods period (if now - mark < period then mark else now) rest

/-- The seconds that no refill counted: those dropped at each refill and those since
the last one. -/
def leftoverSeconds (period : Nat) : Nat → Nat → List Nat → Nat
  | mark, now, [] => now - mark
  | mark, _, now :: rest =>
    if now - mark < period then leftoverSeconds period mark now rest
    else (now - mark) % period + leftoverSeconds period now now rest

/-- The elapsed seconds are the refilled periods and the leftover. The induction is on
the calls, for every mark that they can start from. -/
theorem elapsed_split (period : Nat) {mark now : Nat} (times : List Nat) (marked : mark ≤ now)
    (increasing : (now :: times).Pairwise (· ≤ ·)) : times.getLastD now - mark =
      period * (refillPeriods period mark times).sum + leftoverSeconds period mark now times := by
  induction times generalizing mark now with
  | nil => simp [refillPeriods, leftoverSeconds]
  | cons next rest ih =>
    obtain ⟨after, later⟩ := List.pairwise_cons.mp increasing
    have order : now ≤ next := after next mem_cons_self
    have ends : next ≤ rest.getLastD next := by
      rcases eq_nil_or_concat rest with rfl | ⟨front, last, rfl⟩
      · exact le_refl next
      · have bound := (List.pairwise_cons.mp later).1 last (by simp)
        simpa using bound
    rw [getLastD_cons]
    simp only [refillPeriods, leftoverSeconds, sum_cons]
    split
    next early =>
      rw [Nat.div_eq_of_lt early, Nat.zero_add]
      exact ih (marked.trans order) later
    · have split := ih (le_refl next) later
      have divided := Nat.div_add_mod (next - mark) period
      rw [Nat.mul_add]
      omega

variable {rate : Int} {period : Nat}

theorem saturatingMul_le (nonneg : 0 ≤ rate) (count : Nat) :
    saturatingMul rate count ≤ rate * count := by
  have above : 0 ≤ rate * count := Int.mul_nonneg nonneg (Int.natCast_nonneg count)
  exact i128.clamp_le (by simp only [i128_low]; omega)

theorem saturatingMul_eq_iff (nonneg : 0 ≤ rate) (count : Nat) :
    saturatingMul rate count = rate * count ↔ rate * count ≤ i128.high := by
  have above : 0 ≤ rate * count := Int.mul_nonneg nonneg (Int.natCast_nonneg count)
  simp only [saturatingMul, Range.clamp, i128_low, i128_high]
  omega

theorem refills_le (nonneg : 0 ≤ rate) (counts : List Nat) :
    (counts.map fun count : Nat => saturatingMul rate count).sum ≤ rate * counts.sum := by
  induction counts with
  | nil => simp
  | cons count rest ih =>
    have bound := saturatingMul_le nonneg count
    simp only [map_cons, sum_cons, Nat.cast_add, Int.mul_add]
    omega

theorem refills_eq_iff (nonneg : 0 ≤ rate) (counts : List Nat) :
    (counts.map fun count : Nat => saturatingMul rate count).sum = rate * counts.sum ↔
      ∀ count ∈ counts, rate * count ≤ i128.high := by
  induction counts with
  | nil => simp
  | cons count rest ih =>
    have first := saturatingMul_le nonneg count
    have others := refills_le nonneg rest
    have fits := saturatingMul_eq_iff nonneg count
    simp only [map_cons, sum_cons, Nat.cast_add, Int.mul_add, mem_cons, forall_eq_or_imp]
    rw [← ih, ← fits]
    omega

/-- The funding that refills of some counted periods make of a funding. -/
def refunded (rate funding : Int) (counts : List Nat) : Int :=
  counts.foldl (fun funding count => i128.saturatingAdd funding (saturatingMul rate count)) funding

/-- Refills add up, cut once at the top of the type. The induction is on the refills. -/
theorem refunded_eq (nonneg : 0 ≤ rate) {funding : Int} (held : i128.Holds funding)
    (counts : List Nat) : refunded rate funding counts =
      min i128.high (funding + (counts.map fun count : Nat => saturatingMul rate count).sum) := by
  induction counts generalizing funding with
  | nil => simpa [refunded] using held.2
  | cons count rest ih =>
    have gained : 0 ≤ saturatingMul rate count :=
      saturatingMul_nonneg nonneg (Int.natCast_nonneg count)
    have others : 0 ≤ (rest.map fun count : Nat => saturatingMul rate count).sum :=
      List.sum_nonneg fun amount mem => by
        obtain ⟨other, _, rfl⟩ := List.mem_map.mp mem
        exact saturatingMul_nonneg nonneg (Int.natCast_nonneg other)
    have low := held.1
    refine (ih (i128.clamp_holds _)).trans ?_
    simp only [Range.clamp, map_cons, sum_cons, i128_low, i128_high] at low ⊢
    omega

/-- The schedule loses nothing: every refill and the funding they lead to fit the type, and less
than one period is left over. At the rate zero there is nothing to lose. -/
def KeepsPeriods (rate funding : Int) (period mark : Nat) (times : List Nat) : Prop :=
  rate = 0 ∨ (∀ count ∈ refillPeriods period mark times, rate * count ≤ i128.high) ∧
    leftoverSeconds period mark mark times < period ∧
    funding + rate * ((times.getLastD mark - mark) / period : Nat) ≤ i128.high
deriving Decidable

/-- The refills of a schedule gain its whole periods exactly when it loses nothing. -/
theorem scheduled_refills_iff (nonneg : 0 ≤ rate) (pos : 0 < period) {mark : Nat}
    {funding : Int} (held : i128.Holds funding) {times : List Nat}
    (increasing : (mark :: times).Pairwise (· ≤ ·)) :
    refunded rate funding (refillPeriods period mark times) =
        funding + rate * ((times.getLastD mark - mark) / period : Nat) ↔
      KeepsPeriods rate funding period mark times := by
  have split := elapsed_split period times (le_refl mark) increasing
  have gained := refills_eq_iff nonneg (refillPeriods period mark times)
  have bound := refills_le nonneg (refillPeriods period mark times)
  have idle : rate = 0 → ((refillPeriods period mark times).map fun count : Nat =>
      saturatingMul rate count).sum = rate * (refillPeriods period mark times).sum := by
    rintro rfl
    exact gained.mpr fun count _ => by simp
  have top := held.2
  rw [refunded_eq nonneg held, KeepsPeriods, ← gained, split, Nat.mul_add_div pos,
    ← Nat.div_eq_zero_iff_lt pos]
  generalize ((refillPeriods period mark times).map fun count : Nat =>
    saturatingMul rate count).sum = total at bound idle ⊢
  generalize leftoverSeconds period mark mark times / period = missed
  rw [Nat.cast_add, Int.mul_add]
  have missedNonneg : 0 ≤ rate * (missed : Int) :=
    Int.mul_nonneg nonneg (Int.natCast_nonneg missed)
  constructor
  · intro exact
    by_cases none : rate = 0
    · exact Or.inl none
    · have missedNothing : rate * (missed : Int) = 0 := by omega
      refine Or.inr ⟨by omega, ?_, by omega⟩
      rcases Int.mul_eq_zero.mp missedNothing with zero | zero
      · exact absurd zero none
      · exact Int.natCast_eq_zero.mp zero
  · rintro (zero | ⟨exact, rfl, fits⟩)
    · rw [idle zero, zero]
      simpa using top
    · simp only [Nat.cast_zero, Int.mul_zero, Int.add_zero] at fits ⊢
      omega

end Schedule

section Pool

variable {store : ConvictionStore} {poolId : Nat} {pool : ConvictionVotingPool}

/-- A pool that can be refilled: its funding, rate and period, and its mark. -/
structure Refillable (store : ConvictionStore) (poolId : Nat) (funding rate : Int)
    (period mark : Nat) : Prop where
  ready : store.initialized = true
  has : ∃ pool, store.pool poolId = some pool ∧ pool.fundingAmount = funding ∧
    pool.refillRate = rate ∧ pool.refillPeriod = period ∧ pool.lastRefill = mark

/-- A refill of a stored pool adds its whole periods times the rate to the funding. One that is due
moves the mark; one that is not changes nothing. -/
theorem refillConvictionPool_spec {funding rate : Int} {period mark : Nat}
    (held : i128.Holds funding) (known : Refillable store poolId funding rate period mark)
    (env : Env) : wp (refillConvictionPool env poolId) (fun _ after => Refillable after poolId
        (i128.saturatingAdd funding (saturatingMul rate ((env.timestamp - mark) / period : Nat)))
        rate period (if env.timestamp - mark < period then mark else env.timestamp))
      (fun _ _ => False) store := by
  obtain ⟨ready, pool, has, rfl, rfl, rfl, rfl⟩ := known
  have administered : Administered.initialized store = true := ready
  simp only [refillConvictionPool, requireInitialized, getPool, wp_rules, wp_ite, wp_putPool]
  refine ⟨fun _ => ⟨fun hit same => ?_, fun absent => ?_⟩, fun refused => refused administered⟩
  · cases Option.mem_unique has same
    refine ⟨fun early => ?_, fun due => ?_⟩
    · have nothing : saturatingMul pool.refillRate ((0 : Nat) : Int) = 0 := by
        simp [saturatingMul, Range.clamp]
      rw [if_pos early, Nat.div_eq_of_lt early, nothing, Range.saturatingAdd, Int.add_zero,
        i128.clamp_of_holds held]
      exact ⟨ready, pool, has, rfl, rfl, rfl, rfl⟩
    · rw [if_neg due]
      exact ⟨ready, _, (writesPool_putPool poolId _ poolId).trans (if_pos rfl), rfl, rfl, rfl, rfl⟩
  · rw [has] at absent
    cases absent

def fundingAfter (store : ConvictionStore) (poolId : Nat) (calls : List Env) : Option Int :=
  ((final convictionStep store (calls.map fun env => ⟨env, .refill poolId⟩)).pool poolId).map
    ConvictionVotingPool.fundingAmount

/-- Refill calls of a pool fund it with the periods they count. The induction is on the calls. -/
theorem refilled_schedule {funding rate : Int} {period mark : Nat} (calls : List Env)
    (held : i128.Holds funding) (known : Refillable store poolId funding rate period mark) :
    fundingAfter store poolId calls =
      some (refunded rate funding (refillPeriods period mark (calls.map Env.timestamp))) := by
  induction calls generalizing store funding mark with
  | nil =>
    obtain ⟨_, pool, has, rfl, _⟩ := known
    exact congrArg (Option.map ConvictionVotingPool.fundingAmount) has
  | cons env rest ih =>
    have specified := refillConvictionPool_spec held known env
    have accepts : Accepts (refillConvictionPool env poolId) store :=
      (accepts_iff_wp _ _).mpr
        (wp_mono specified (fun _ _ _ => trivial) fun _ _ never => never)
    obtain ⟨amount, gave⟩ := gave_of_accepts accepts
    have stepped : convictionStep ⟨env, .refill poolId⟩ store =
        invoke (refillConvictionPool env poolId) store :=
      invoke_discard (refillConvictionPool env poolId) store
    have continued := ih (i128.clamp_holds _) (wp_ok specified gave)
    rw [← stepped] at continued
    exact continued

def lastCall (mark : Nat) (calls : List Env) : Nat := (calls.map Env.timestamp).getLastD mark

/-- What the refill calls of a pool add to its funding together is the rate times the whole periods
elapsed, exactly when their schedule loses nothing. -/
theorem refills_independent_iff (ready : store.initialized = true)
    (has : store.pool poolId = some pool) (rate : 0 ≤ pool.refillRate)
    (period : 0 < pool.refillPeriod) (held : i128.Holds pool.fundingAmount) (calls : List Env)
    (increasing : (pool.lastRefill :: calls.map Env.timestamp).Pairwise (· ≤ ·)) :
    fundingAfter store poolId calls = some (pool.fundingAmount + pool.refillRate *
        ((lastCall pool.lastRefill calls - pool.lastRefill) / pool.refillPeriod : Nat)) ↔
      KeepsPeriods pool.refillRate pool.fundingAmount pool.refillPeriod pool.lastRefill
        (calls.map Env.timestamp) := by
  rw [refilled_schedule calls held ⟨ready, pool, has, rfl, rfl, rfl, rfl⟩, Option.some.injEq]
  exact scheduled_refills_iff rate period held increasing

/-- A pool that gains one unit every ten seconds from the time zero. -/
def unitPool : ConvictionVotingPool where
  fundingAmount := 100
  refillRate := 1
  refillPeriod := 10
  proposals := ∅
  proposalIds := []
  totalConviction := 0
  lastRefill := 0

/-- Only that pool, under the id one. -/
def unitPoolAlone : ConvictionStore :=
  ⟨true, some 1, some ⟨(∅ : Table Nat ConvictionVotingPool).insert 1 unitPool, [1], 2, 1⟩, none⟩

theorem unitPoolAlone_stored : unitPoolAlone.pool 1 = some unitPool := AList.lookup_insert _

/-- Calls at whole periods gain them all, with calls in between that are not due. -/
theorem punctual_refills : fundingAfter unitPoolAlone 1 [.at 5 0 [], .at 10 0 [], .at 30 0 []] =
      some (100 + 1 * ((30 - 0) / 10 : Nat)) :=
  (refills_independent_iff rfl unitPoolAlone_stored (by decide) (by decide) (by decide) _
    (by decide)).mpr (by decide)

/-- A call at fifteen drops five seconds, so the call at twenty is not due and the pool
has gained one unit in two periods. -/
theorem early_refill_drops_period :
    ¬ ∀ (store : ConvictionStore) (poolId : Nat) (pool : ConvictionVotingPool),
      store.initialized = true → store.pool poolId = some pool → 0 ≤ pool.refillRate →
      0 < pool.refillPeriod → i128.Holds pool.fundingAmount → ∀ calls : List Env,
        (pool.lastRefill :: calls.map Env.timestamp).Pairwise (· ≤ ·) →
        fundingAfter store poolId calls = some (pool.fundingAmount + pool.refillRate *
          ((lastCall pool.lastRefill calls - pool.lastRefill) / pool.refillPeriod : Nat)) := by
  intro every
  have gained := every unitPoolAlone 1 unitPool rfl unitPoolAlone_stored (by decide) (by decide)
    (by decide) [.at 15 0 [], .at 20 0 []] (by decide)
  exact absurd gained (by decide)

end Pool

end StellarSwipe.Governance
