import Mathlib.Algebra.Order.Ring.Int
import StellarSwipe.CrossChain.FeeEffects

/-!
# Fees paid out stay within those collected

What a bridge paid to validators and the treasury is set against what it collected.
-/

namespace StellarSwipe.CrossChain

open FixedWidth Program Runs OneShot BridgeFeeStats CrossChainCall BridgeFeeConfig

def announcedTo (bridgeId : Nat) (rewards : List ValidatorReward) : Int :=
  ((rewards.filter fun reward => decide (reward.bridgeId = bridgeId)).map
    ValidatorReward.amount).sum

structure FeeState.Accounted (state : FeeState) (bridgeId : Nat) : Prop where
  covered : (state.statsOf bridgeId).feesDistributedValidators +
    (state.statsOf bridgeId).feesToTreasury ≤ (state.statsOf bridgeId).totalFeesCollected
  collected : 0 ≤ (state.statsOf bridgeId).totalFeesCollected
  announced : announcedTo bridgeId state.rewards =
    (state.statsOf bridgeId).feesDistributedValidators

def ChainTransition.Refunds (transferId : Nat) (taken : ChainTransition) : Prop :=
  taken.Returned ∧ taken.input.call = .fees (.refund transferId)

def CrossChainCall.refunding : CrossChainCall → Option Nat
  | .fees (.refund transferId) => some transferId
  | _ => none

theorem CrossChainCall.refunding_iff {call : CrossChainCall} {transferId : Nat} :
    call.refunding = some transferId ↔ call = .fees (.refund transferId) := by
  constructor
  · intro refunds
    cases call with
    | fees call =>
      cases call with
      | refund =>
        exact congrArg (fun id => CrossChainCall.fees (.refund id)) (Option.some.inj refunds)
      | _ => cases refunds
    | _ => cases refunds
  · rintro rfl
    rfl

instance (transferId : Nat) : DecidablePred (ChainTransition.Refunds transferId) :=
  fun taken => decidable_of_iff (taken.Returned ∧ taken.input.call.refunding = some transferId)
    (and_congr_right fun _ => refunding_iff)

/-- A collected fee: what it was taken from and at which terms. -/
structure HeldFee where
  transferId : Nat
  bridgeId : Nat
  value : Int
  config : BridgeFeeConfig

def HeldFee.fee (held : HeldFee) : Int := held.config.feeOf held.value

/-- The bounds and the rate of a collected fee allow a fee as high. -/
def HeldFee.Covers (held : HeldFee) (feePaid : Int) : Prop :=
  feePaid ≤ held.config.minFee ∨
    feePaid ≤ held.config.maxFee ∧ 10000 * feePaid ≤ held.value * held.config.baseFeeBps
deriving Decidable

/-- The fees held after a call that returns: a refund gives back those of its transfer, and a
payout of a bridge counts all that the bridge collected. -/
def FeeCall.holding (pre : CrossChainStore) (held : List HeldFee) : FeeCall → List HeldFee
  | .collect transferId value =>
    match pre.monitoring.transfers.lookup transferId with
    | some transfer =>
      match pre.fees.configs.lookup transfer.bridgeId with
      | some config => held ++ [⟨transferId, transfer.bridgeId, value, config⟩]
      | none => held
    | none => held
  | .refund transferId => held.filter fun fee => decide (fee.transferId ≠ transferId)
  | .distribute bridgeId | .allocate bridgeId =>
    held.filter fun fee => decide (fee.bridgeId ≠ bridgeId)
  | .setTreasury _ _ | .setConfig _ _ | .adjust _ => held

def FeeCall.collects : FeeCall → Option Nat
  | .collect transferId _ => some transferId
  | _ => none

namespace ChainTransition

def holding (held : List HeldFee) (taken : ChainTransition) : List HeldFee :=
  match taken.input.call with
  | .fees call => if taken.Returned then call.holding taken.pre.store held else held
  | .multisig _ | .messaging _ | .monitoring _ => held

def collecting (taken : ChainTransition) : Option Nat :=
  match taken.input.call with
  | .fees call => if taken.Returned then call.collects else none
  | .multisig _ | .messaging _ | .monitoring _ => none

end ChainTransition

/-- The collected fees that were not refunded, and that no payout of their bridge followed. -/
def heldFees (past : List ChainTransition) : List HeldFee :=
  past.foldl ChainTransition.holding []

/-- The bounds are in order and not negative, and the percentages leave nothing short. -/
def BridgeFeeConfig.WellFormed (config : BridgeFeeConfig) : Prop :=
  0 ≤ config.minFee ∧ config.minFee ≤ config.maxFee ∧
    config.validatorRewardPct + config.treasuryPct ≤ 10000
deriving Decidable

/-- What is due to a number of validators divides evenly among them. -/
def BridgeFeeConfig.SplitsEvenly (config : BridgeFeeConfig) (stats : BridgeFeeStats)
    (validators : Nat) : Prop :=
  10000 * (stats.feesDistributedValidators + 1) ≤
      stats.totalFeesCollected * config.validatorRewardPct →
    (stats.totalFeesCollected * config.validatorRewardPct -
      10000 * stats.feesDistributedValidators) % (10000 * validators) < 10000
deriving Decidable

variable (past : List ChainTransition) (pre : CrossChainStore)

/-- What is asked of a call on fees: a configuration is well formed and lowers no percentage; the
fee of a transfer is collected once; a share of validators divides evenly; and what is refunded
is held on the bridge of the transfer. -/
def FeeCall.Sound : FeeCall → Prop
  | .setConfig bridgeId config => config.WellFormed ∧
    ∀ old ∈ pre.fees.configs.lookup bridgeId,
      old.validatorRewardPct ≤ config.validatorRewardPct ∧ old.treasuryPct ≤ config.treasuryPct
  | .collect transferId _ => transferId ∉ past.filterMap ChainTransition.collecting
  | .distribute bridgeId =>
    ∀ config ∈ pre.fees.configs.lookup bridgeId,
      ∀ validators ∈ pre.multisig.bridgeValidators bridgeId,
        config.SplitsEvenly (pre.fees.statsOf bridgeId) validators.length
  | .refund transferId =>
    ∀ transfer ∈ pre.monitoring.transfers.lookup transferId,
      ∃ held ∈ heldFees past, held.transferId = transferId ∧ held.bridgeId = transfer.bridgeId ∧
        held.Covers transfer.feePaid
  | .setTreasury _ _ | .allocate _ | .adjust _ => True

instance : DecidablePred (FeeCall.Sound past pre) := fun _ => by
  unfold FeeCall.Sound
  split <;> infer_instance

def heldOn (bridgeId : Nat) (held : List HeldFee) : Int :=
  (held.map fun fee => if fee.bridgeId = bridgeId then fee.fee else 0).sum

section Held

variable {held : List HeldFee} {bridgeId : Nat}

theorem BridgeFeeConfig.WellFormed.feeOf_nonneg {config : BridgeFeeConfig}
    (formed : config.WellFormed) (value : Int) : 0 ≤ config.feeOf value := by
  obtain ⟨low, high, _⟩ := formed
  simp only [feeOf, bounded]
  split
  next => exact low
  next least =>
    split
    next => omega
    next => omega

theorem HeldFee.Covers.le {held : HeldFee} {feePaid : Int} (covers : held.Covers feePaid)
    (formed : held.config.WellFormed) : feePaid ≤ held.fee := by
  obtain ⟨low, high, _⟩ := formed
  have floor : (held.value * held.config.baseFeeBps) / 10000 ≤
      (held.value * held.config.baseFeeBps).tdiv 10000 := by
    rw [Int.tdiv_eq_ediv]
    split
    next => omega
    next => exact Int.le_add_of_nonneg_right (by decide)
  rw [HeldFee.Covers] at covers
  simp only [fee, feeOf, bounded]
  split
  next => omega
  next =>
    split
    next => omega
    next => omega

theorem heldOn_append (first second : List HeldFee) :
    heldOn bridgeId (first ++ second) = heldOn bridgeId first + heldOn bridgeId second := by
  simp [heldOn]

theorem heldOn_filter_le (nonneg : ∀ fee ∈ held, 0 ≤ fee.fee) (keeps : HeldFee → Bool) :
    heldOn bridgeId (held.filter keeps) ≤ heldOn bridgeId held := by
  refine (List.filter_sublist.map _).sum_le_sum fun share inside => ?_
  obtain ⟨fee, mem, rfl⟩ := List.mem_map.mp inside
  split
  next => exact nonneg fee mem
  next => exact le_rfl

theorem heldOn_nonneg (nonneg : ∀ fee ∈ held, 0 ≤ fee.fee) : 0 ≤ heldOn bridgeId held := by
  simpa [heldOn] using @heldOn_filter_le _ bridgeId nonneg fun _ => false

theorem heldOn_paid (held : List HeldFee) :
    heldOn bridgeId (held.filter fun fee => decide (fee.bridgeId ≠ bridgeId)) = 0 := by
  refine List.sum_eq_zero fun share inside => ?_
  obtain ⟨fee, mem, rfl⟩ := List.mem_map.mp inside
  exact if_neg (by simpa using (List.mem_filter.mp mem).2)

/-- Without one of the fees held on the bridge there is that much less. -/
theorem heldOn_without {fee : HeldFee} (nonneg : ∀ fee ∈ held, 0 ≤ fee.fee) (inside : fee ∈ held)
    (on : fee.bridgeId = bridgeId) {keeps : HeldFee → Bool} (dropped : keeps fee = false) :
    heldOn bridgeId (held.filter keeps) + fee.fee ≤ heldOn bridgeId held := by
  obtain ⟨first, last, rfl⟩ := List.append_of_mem inside
  have front := @heldOn_filter_le first bridgeId (fun fee mem => nonneg fee (by simp [mem]))
    keeps
  have rest := @heldOn_filter_le last bridgeId (fun fee mem => nonneg fee (by simp [mem]))
    keeps
  have only : heldOn bridgeId [fee] = fee.fee := by simp [heldOn, on]
  rw [List.filter_append, List.filter_cons_of_neg (by simp [dropped]), heldOn_append,
    ← List.singleton_append, heldOn_append, heldOn_append, only]
  omega

theorem FeeCall.mem_holding {store : CrossChainStore} {call : FeeCall} {fee : HeldFee}
    (inside : fee ∈ call.holding store held) :
    fee ∈ held ∨ (∃ value, call = .collect fee.transferId value) ∧
      store.fees.configs.lookup fee.bridgeId = some fee.config := by
  cases call with
  | collect transferId value =>
    simp only [holding] at inside
    split at inside
    next transfer _ =>
      split at inside
      next config configured =>
        rcases mem_snoc.mp inside with old | rfl
        · exact .inl old
        · exact .inr ⟨⟨value, rfl⟩, configured⟩
      next => exact .inl inside
    next => exact .inl inside
  | refund | distribute | allocate => exact .inl (List.mem_filter.mp inside).1
  | _ => exact .inl inside

end Held

theorem announcedTo_append (bridgeId : Nat) (first second : List ValidatorReward) :
    announcedTo bridgeId (first ++ second) =
      announcedTo bridgeId first + announcedTo bridgeId second := by
  simp [announcedTo]

theorem announcedTo_rewardsFor {bridgeId other : Nat} {validators : List Address} {share : Int}
    (even : (validators.length : Int) ∣ share) :
    announcedTo other (rewardsFor bridgeId validators share) =
      if other = bridgeId then share else 0 := by
  by_cases same : other = bridgeId
  · subst same
    have each : ∀ members : List Address,
        announcedTo other (members.map fun validator =>
          ⟨other, validator, share.tdiv validators.length⟩) =
          members.length * share.tdiv validators.length := by
      intro members
      induction members with
      | nil => simp [announcedTo]
      | cons validator members ih =>
        simp only [announcedTo, List.map_cons, List.filter_cons_of_pos, decide_true, List.sum_cons,
          List.length_cons, Nat.cast_add, Nat.cast_one] at ih ⊢
        rw [ih]
        ring
    rw [rewardsFor, each, if_pos rfl, Int.mul_tdiv_cancel' even]
  · have none : (rewardsFor bridgeId validators share).filter
        (fun reward => decide (reward.bridgeId = other)) = [] := by
      simp [rewardsFor, List.filter_map, Function.comp_def, Ne.symm same]
    rw [announcedTo, none, if_neg same]
    rfl

namespace FeeState

theorem statsOf_insert {pre after : FeeState} {bridgeId : Nat} {stats : BridgeFeeStats}
    (written : after.stats = pre.stats.insert bridgeId stats) (other : Nat) :
    after.statsOf other = if other = bridgeId then stats else pre.statsOf other := by
  by_cases same : other = bridgeId
  · subst same
    simp [statsOf, written]
  · simp [statsOf, written, AList.lookup_insert_ne same, same]

end FeeState

def FeeState.rewardPct (state : FeeState) (bridgeId : Nat) : Int :=
  (state.configs.lookup bridgeId).elim 0 fun config => config.validatorRewardPct

def FeeState.treasuryPct (state : FeeState) (bridgeId : Nat) : Int :=
  (state.configs.lookup bridgeId).elim 0 fun config => config.treasuryPct

/-- What a bridge paid out is within its shares of the fees that are not held. -/
structure FeeState.PaidBeside (state : FeeState) (bridgeId : Nat) (held : Int) : Prop where
  distributed : 0 ≤ (state.statsOf bridgeId).feesDistributedValidators
  allocated : 0 ≤ (state.statsOf bridgeId).feesToTreasury
  kept : held ≤ (state.statsOf bridgeId).totalFeesCollected
  rewarded : 10000 * (state.statsOf bridgeId).feesDistributedValidators ≤
    ((state.statsOf bridgeId).totalFeesCollected - held) * state.rewardPct bridgeId
  treasured : 10000 * (state.statsOf bridgeId).feesToTreasury ≤
    ((state.statsOf bridgeId).totalFeesCollected - held) * state.treasuryPct bridgeId

/-- Percentages do not fall from one state to another. -/
def FeeState.Raises (pre after : FeeState) : Prop :=
  ∀ bridgeId, pre.rewardPct bridgeId ≤ after.rewardPct bridgeId ∧
    pre.treasuryPct bridgeId ≤ after.treasuryPct bridgeId

namespace FeeState

variable {pre after : FeeState} {bridgeId : Nat} {held later : Int}

theorem rewardPct_nonneg (state : FeeState) (bridgeId : Nat) : 0 ≤ state.rewardPct bridgeId := by
  rw [rewardPct]
  cases state.configs.lookup bridgeId <;> simp

theorem treasuryPct_nonneg (state : FeeState) (bridgeId : Nat) :
    0 ≤ state.treasuryPct bridgeId := by
  rw [treasuryPct]
  cases state.configs.lookup bridgeId <;> simp

theorem raises_of_configs (same : after.configs = pre.configs) : pre.Raises after :=
  fun bridgeId => by simp [rewardPct, treasuryPct, same]

/-- With more collected beside what is held and no percentage lowered, what was paid is still
within the shares. -/
theorem PaidBeside.raise (paid : pre.PaidBeside bridgeId held)
    (distributed : (after.statsOf bridgeId).feesDistributedValidators =
      (pre.statsOf bridgeId).feesDistributedValidators)
    (allocated : (after.statsOf bridgeId).feesToTreasury = (pre.statsOf bridgeId).feesToTreasury)
    (more : (pre.statsOf bridgeId).totalFeesCollected - held ≤
      (after.statsOf bridgeId).totalFeesCollected - later)
    (raises : pre.Raises after) : after.PaidBeside bridgeId later := by
  have kept := paid.kept
  have grown (first second : Int) (nonneg : 0 ≤ first) (raised : first ≤ second) :
      ((pre.statsOf bridgeId).totalFeesCollected - held) * first ≤
        ((after.statsOf bridgeId).totalFeesCollected - later) * second :=
    Int.mul_le_mul more raised nonneg (by omega)
  refine ⟨by rw [distributed]; exact paid.distributed, by rw [allocated]; exact paid.allocated,
    by omega, ?_, ?_⟩
  · rw [distributed]
    exact paid.rewarded.trans (grown _ _ (pre.rewardPct_nonneg _) (raises bridgeId).1)
  · rw [allocated]
    exact paid.treasured.trans (grown _ _ (pre.treasuryPct_nonneg _) (raises bridgeId).2)

theorem PaidBeside.covered (paid : pre.PaidBeside bridgeId held)
    (formed : ∀ config, pre.configs.lookup bridgeId = some config → config.WellFormed)
    (nonneg : 0 ≤ held) : (pre.statsOf bridgeId).feesDistributedValidators +
      (pre.statsOf bridgeId).feesToTreasury ≤ (pre.statsOf bridgeId).totalFeesCollected := by
  have whole : pre.rewardPct bridgeId + pre.treasuryPct bridgeId ≤ 10000 := by
    cases hit : pre.configs.lookup bridgeId with
    | none => simp [rewardPct, treasuryPct, hit]
    | some config =>
      have sum := (formed config hit).2.2
      simp only [rewardPct, treasuryPct, hit, Option.elim_some]
      omega
  have kept := paid.kept
  have shares := Int.mul_le_mul_of_nonneg_left whole
    (show 0 ≤ (pre.statsOf bridgeId).totalFeesCollected - held by omega)
  rw [mul_add] at shares
  have rewarded := paid.rewarded
  have treasured := paid.treasured
  omega

end FeeState

/-- What is due of a nonnegative total is the whole of the percentage when it is paid. -/
theorem due_within {total paid : Int} (nonneg : 0 ≤ total) (pct : Nat) :
    10000 * (paid + shareDue total pct paid) ≤ total * pct := by
  have product : 0 ≤ total * pct := Int.mul_nonneg nonneg (Int.natCast_nonneg _)
  rw [shareDue, tdiv_eq_floor product]
  omega

theorem BridgeFeeConfig.SplitsEvenly.dvd {config : BridgeFeeConfig} {stats : BridgeFeeStats}
    {validators : Nat} (even : config.SplitsEvenly stats validators)
    (nonneg : 0 ≤ stats.totalFeesCollected)
    (pos : 0 < shareDue stats.totalFeesCollected config.validatorRewardPct
      stats.feesDistributedValidators) :
    (validators : Int) ∣ shareDue stats.totalFeesCollected config.validatorRewardPct
      stats.feesDistributedValidators := by
  have product : 0 ≤ stats.totalFeesCollected * config.validatorRewardPct :=
    Int.mul_nonneg nonneg (Int.natCast_nonneg _)
  rw [SplitsEvenly] at even
  rw [shareDue, tdiv_eq_floor product] at pos ⊢
  generalize stats.totalFeesCollected * config.validatorRewardPct = due at *
  have rest := even (by omega)
  generalize quotients : (due - 10000 * stats.feesDistributedValidators) /
    (10000 * (validators : Int)) = quotient
  have parts := Int.mul_ediv_add_emod (due - 10000 * stats.feesDistributedValidators)
    (10000 * (validators : Int))
  rw [quotients, Int.mul_assoc] at parts
  refine ⟨quotient, ?_⟩
  rcases Nat.eq_zero_or_pos validators with rfl | some
  · simp only [Nat.cast_zero, Int.mul_zero, Int.emod_zero, zero_mul] at rest ⊢
    omega
  · have least := Int.emod_nonneg (due - 10000 * stats.feesDistributedValidators)
      (show 10000 * (validators : Int) ≠ 0 by omega)
    omega

/-- What sound steps keep: the configurations are well formed, what was paid out is beside what is
held, and the fee of a transfer is refunded while it is held. -/
structure FeesKept (past : List ChainTransition) (state : FeeState) : Prop where
  formed {bridgeId : Nat} {config : BridgeFeeConfig} :
    state.configs.lookup bridgeId = some config → config.WellFormed
  held : ∀ fee ∈ heldFees past, fee.config.WellFormed ∧
    fee.transferId ∈ past.filterMap ChainTransition.collecting
  paid (bridgeId : Nat) : state.PaidBeside bridgeId (heldOn bridgeId (heldFees past))
  announced (bridgeId : Nat) : announcedTo bridgeId state.rewards =
    (state.statsOf bridgeId).feesDistributedValidators
  once (transferId : Nat) : Once (ChainTransition.Refunds transferId)
    (transferId ∈ past.filterMap ChainTransition.collecting ∧
      ∀ fee ∈ heldFees past, fee.transferId ≠ transferId) past

namespace FeesKept

variable {past : List ChainTransition} {pre after : FeeState} {taken : ChainTransition}

theorem nonneg (kept : FeesKept past pre) : ∀ fee ∈ heldFees past, 0 ≤ fee.fee :=
  fun fee inside => (kept.held fee inside).1.feeOf_nonneg _

theorem accounted (kept : FeesKept past pre) (bridgeId : Nat) : pre.Accounted bridgeId := by
  have paid := kept.paid bridgeId
  have covered := paid.covered (fun _ => kept.formed) (heldOn_nonneg kept.nonneg)
  have distributed := paid.distributed
  have allocated := paid.allocated
  exact ⟨covered, by omega, kept.announced bridgeId⟩

theorem heldFees_concat (past : List ChainTransition) (taken : ChainTransition) :
    heldFees (past ++ [taken]) = taken.holding (heldFees past) := by
  simp [heldFees, List.foldl_append]

/-- A step that is no call on fees, or an error. -/
theorem quiet (kept : FeesKept past pre) (holding : taken.holding (heldFees past) = heldFees past)
    (collecting : taken.collecting = none) (unrefunded : ∀ transferId, ¬ taken.Refunds transferId) :
    FeesKept (past ++ [taken]) pre := by
  have held : heldFees (past ++ [taken]) = heldFees past := by
    rw [heldFees_concat, holding]
  have collected : (past ++ [taken]).filterMap ChainTransition.collecting =
      past.filterMap ChainTransition.collecting := by
    simp [List.filterMap_append, collecting]
  refine ⟨kept.formed, ?_, ?_, kept.announced, fun transferId => ?_⟩
  · rw [held, collected]
    exact kept.held
  · rw [held]
    exact kept.paid
  · rw [held, collected]
    exact (kept.once transferId).concat (fun refunds => absurd refunds (unrefunded transferId))
      (fun refunds => absurd refunds (unrefunded transferId)) id

end FeesKept

/-- A sound call keeps the configurations well formed and lowers no percentage. -/
theorem Reconfigured.keeps {past : List ChainTransition} {store : CrossChainStore}
    {call : FeeCall} {after : FeeState}
    (changed : Reconfigured store.fees.configs call after.configs) (sound : call.Sound past store)
    (formed : ∀ {bridgeId config}, store.fees.configs.lookup bridgeId = some config →
      config.WellFormed) :
    (∀ {bridgeId config}, after.configs.lookup bridgeId = some config → config.WellFormed) ∧
      store.fees.Raises after := by
  have inserted {bridgeId : Nat} {config : BridgeFeeConfig} (well : config.WellFormed)
      (written : after.configs = store.fees.configs.insert bridgeId config)
      (raised : ∀ old ∈ store.fees.configs.lookup bridgeId,
        old.validatorRewardPct ≤ config.validatorRewardPct ∧
          old.treasuryPct ≤ config.treasuryPct) :
      (∀ {other hit}, after.configs.lookup other = some hit → hit.WellFormed) ∧
        store.fees.Raises after := by
    refine ⟨fun {other hit} has => ?_, fun other => ?_⟩
    · rw [written] at has
      by_cases same : other = bridgeId
      · subst same
        cases Option.mem_unique (AList.lookup_insert _) has
        exact well
      · exact formed ((AList.lookup_insert_ne same).symm.trans has)
    · rw [FeeState.rewardPct, FeeState.rewardPct, FeeState.treasuryPct, FeeState.treasuryPct,
        written]
      by_cases same : other = bridgeId
      · subst same
        rw [AList.lookup_insert]
        cases hit : store.fees.configs.lookup other with
        | none => simp
        | some old => simpa using raised old hit
      · rw [AList.lookup_insert_ne same]
        exact ⟨le_rfl, le_rfl⟩
  obtain ⟨configs, written⟩ : ∃ configs, after.configs = configs := ⟨_, rfl⟩
  rw [written] at changed
  cases changed with
  | same =>
    exact ⟨fun has => formed ((congrArg _ written).symm.trans has),
      FeeState.raises_of_configs written⟩
  | set bridgeId config => exact inserted sound.1 written sound.2
  | @adjusted bridgeId config baseFeeBps has =>
    have well : config.WellFormed := formed has
    refine @inserted _ { config with baseFeeBps } well written fun old hit => ?_
    cases Option.mem_unique has hit
    exact ⟨le_rfl, le_rfl⟩

section Called

variable {past : List ChainTransition} {store : CrossChainStore} {after : FeeState}
  {call : FeeCall}

theorem FeeEffect.reconfigured (effect : FeeEffect store call after) :
    Reconfigured store.fees.configs call after.configs := by
  cases effect with
  | configure _ _ _ configs => exact configs
  | collect _ _ _ _ _ _ _ configs | distribute _ _ _ _ _ _ configs | allocate _ _ _ _ _ configs
  | refund _ _ _ _ configs =>
    rw [configs]
    exact .same

/-- What was paid out stays within the shares of what is not held. -/
theorem FeesKept.pays (kept : FeesKept past store.fees) (effect : FeeEffect store call after)
    (sound : call.Sound past store) (bridgeId : Nat) :
    after.PaidBeside bridgeId (heldOn bridgeId (call.holding store (heldFees past))) := by
  have raises := (effect.reconfigured.keeps sound kept.formed).2
  have paid := kept.paid bridgeId
  have fewer (keeps : HeldFee → Bool) := @heldOn_filter_le (heldFees past) bridgeId kept.nonneg keeps
  -- A bridge whose counts stay needs only that no more is held.
  have apart {held : Int} (same : after.statsOf bridgeId = store.fees.statsOf bridgeId)
      (less : held ≤ heldOn bridgeId (heldFees past)) : after.PaidBeside bridgeId held :=
    paid.raise (by rw [same]) (by rw [same]) (by rw [same]; omega) raises
  have unheld : store.fees.PaidBeside bridgeId 0 := by
    have total := @heldOn_nonneg _ bridgeId kept.nonneg
    exact paid.raise rfl rfl (by omega) (FeeState.raises_of_configs rfl)
  cases effect with
  | configure uncounted stats =>
    refine apart (by rw [FeeState.statsOf, stats, FeeState.statsOf]) ?_
    cases call with
    | collect | refund => cases uncounted
    | distribute | allocate => exact fewer _
    | _ => exact le_rfl
  | @collect transferId value transfer config stats _ has configured written collected
      distributed allocated =>
    have read := FeeState.statsOf_insert written bridgeId
    simp only [FeeCall.holding, has, configured]
    rw [heldOn_append]
    by_cases same : bridgeId = transfer.bridgeId
    · subst same
      rw [if_pos rfl] at read
      have only : heldOn transfer.bridgeId [⟨transferId, transfer.bridgeId, value, config⟩] =
          config.feeOf value := by simp [heldOn, HeldFee.fee]
      rw [only]
      exact paid.raise (by rw [read, distributed]) (by rw [read, allocated])
        (by rw [read, collected]; omega) raises
    · rw [if_neg same] at read
      have none : heldOn bridgeId [⟨transferId, transfer.bridgeId, value, config⟩] = 0 := by
        simp [heldOn, Ne.symm same]
      exact apart read (by omega)
  | @distribute other config validators share _ configured due pos members written _ configs =>
    have read := FeeState.statsOf_insert written bridgeId
    by_cases same : bridgeId = other
    · subst same due
      rw [if_pos rfl] at read
      rw [FeeCall.holding, heldOn_paid]
      have within := @due_within _ (store.fees.statsOf bridgeId).feesDistributedValidators
        unheld.kept config.validatorRewardPct
      have distributed := unheld.distributed
      refine ⟨?_, ?_, ?_, ?_, ?_⟩ <;> rw [read]
      · exact Int.add_nonneg distributed pos.le
      · exact unheld.allocated
      · exact unheld.kept
      · simpa [FeeState.rewardPct, configs, configured] using within
      · simpa [FeeState.treasuryPct, configs] using unheld.treasured
    · rw [if_neg same] at read
      exact apart read (fewer _)
  | @allocate other config share _ configured due pos written _ configs =>
    have read := FeeState.statsOf_insert written bridgeId
    by_cases same : bridgeId = other
    · subst same due
      rw [if_pos rfl] at read
      rw [FeeCall.holding, heldOn_paid]
      have within := @due_within _ (store.fees.statsOf bridgeId).feesToTreasury unheld.kept
        config.treasuryPct
      have allocated := unheld.allocated
      refine ⟨?_, ?_, ?_, ?_, ?_⟩ <;> rw [read]
      · exact unheld.distributed
      · exact Int.add_nonneg allocated pos.le
      · exact unheld.kept
      · simpa [FeeState.rewardPct, configs] using unheld.rewarded
      · simpa [FeeState.treasuryPct, configs, configured] using within
    · rw [if_neg same] at read
      exact apart read (fewer _)
  | @refund transferId transfer _ has failed written =>
    have read := FeeState.statsOf_insert written bridgeId
    by_cases same : bridgeId = transfer.bridgeId
    · subst same
      rw [if_pos rfl] at read
      obtain ⟨fee, inside, refunded, on, covers⟩ := sound transfer has
      have enough := covers.le (kept.held fee inside).1
      have without := @heldOn_without _ _ _ kept.nonneg inside on
        (fun fee => decide (fee.transferId ≠ transferId)) (by simp [refunded])
      exact paid.raise (by rw [read]) (by rw [read])
        (by rw [read]; simp only [FeeCall.holding]; omega) raises
    · rw [if_neg same] at read
      exact apart read (fewer _)

theorem FeesKept.announces (kept : FeesKept past store.fees)
    (effect : FeeEffect store call after) (sound : call.Sound past store) (bridgeId : Nat) :
    announcedTo bridgeId after.rewards = (after.statsOf bridgeId).feesDistributedValidators := by
  have announced := kept.announced bridgeId
  have unannounced {other : Nat} {stats : BridgeFeeStats}
      (written : after.stats = store.fees.stats.insert other stats)
      (rewards : after.rewards = store.fees.rewards)
      (same : stats.feesDistributedValidators =
        (store.fees.statsOf other).feesDistributedValidators) :
      announcedTo bridgeId after.rewards =
        (after.statsOf bridgeId).feesDistributedValidators := by
    rw [rewards, announced, FeeState.statsOf_insert written]
    split
    next here => rw [same, here]
    next => rfl
  cases effect with
  | configure uncounted stats rewards =>
    rw [rewards, announced, FeeState.statsOf, ← stats, FeeState.statsOf]
  | collect has configured written collected distributed allocated rewards =>
    exact unannounced written rewards distributed
  | @distribute other config validators share _ configured due pos members written
      rewards =>
    subst due
    have total := (heldOn_nonneg kept.nonneg).trans (kept.paid other).kept
    have even := (sound config configured validators members).dvd total pos
    rw [rewards, announcedTo_append, announced, announcedTo_rewardsFor even,
      FeeState.statsOf_insert written]
    split
    next here => rw [here]
    next => exact add_zero _
  | allocate configured due pos written rewards => exact unannounced written rewards rfl
  | refund has failed written rewards => exact unannounced written rewards rfl

theorem FeesKept.called {taken : ChainTransition} (kept : FeesKept past store.fees)
    (effect : FeeEffect store call after) (sound : call.Sound past store)
    (holding : taken.holding (heldFees past) = call.holding store (heldFees past))
    (collecting : taken.collecting = call.collects)
    (refunding : ∀ transferId, taken.Refunds transferId → call = .refund transferId) :
    FeesKept (past ++ [taken]) after := by
  have held : heldFees (past ++ [taken]) = call.holding store (heldFees past) := by
    rw [heldFees_concat, holding]
  have collected : (past ++ [taken]).filterMap ChainTransition.collecting =
      past.filterMap ChainTransition.collecting ++ call.collects.toList := by
    rw [List.filterMap_append, List.filterMap_cons, collecting]
    cases call.collects <;> rfl
  -- A refund needs a held fee of its transfer.
  have gave {transferId : Nat} (refunds : taken.Refunds transferId) :
      ∃ fee ∈ heldFees past, fee.transferId = transferId := by
    obtain rfl := refunding transferId refunds
    cases effect with
    | configure uncounted => cases uncounted
    | refund has =>
      obtain ⟨fee, inside, same, _⟩ := sound _ has
      exact ⟨fee, inside, same⟩
  refine ⟨(effect.reconfigured.keeps sound kept.formed).1, fun fee inside => ?_, ?_,
    kept.announces effect sound, fun transferId => ?_⟩
  · rw [held] at inside
    rw [collected]
    rcases FeeCall.mem_holding inside with old | ⟨⟨value, rfl⟩, configured⟩
    · exact ⟨(kept.held fee old).1, List.mem_append_left _ (kept.held fee old).2⟩
    · exact ⟨kept.formed configured, List.mem_append_right _ (by simp [FeeCall.collects])⟩
  · rw [held]
    exact kept.pays effect sound
  · rw [held, collected]
    refine (kept.once transferId).concat (fun refunds settled => ?_) (fun refunds => ?_)
      fun settled => ⟨List.mem_append_left _ settled.1, fun fee inside => ?_⟩
    · obtain ⟨fee, inside, same⟩ := gave refunds
      exact settled.2 fee inside same
    · obtain ⟨fee, inside, same⟩ := gave refunds
      refine ⟨List.mem_append_left _ (same ▸ (kept.held fee inside).2), fun other left => ?_⟩
      obtain rfl := refunding transferId refunds
      simpa using (List.mem_filter.mp left).2
    · rcases FeeCall.mem_holding inside with old | ⟨⟨value, rfl⟩, _⟩
      · exact settled.2 fee old
      · rintro rfl
        exact sound settled.1

end Called

def CrossChainCall.FeesSound : CrossChainCall → Prop
  | .fees call => call.Sound past pre
  | .multisig _ | .messaging _ | .monitoring _ => True

instance : DecidablePred (CrossChainCall.FeesSound past pre) := fun _ => by
  unfold CrossChainCall.FeesSound
  split <;> infer_instance

/-- The condition of a run: its calls on fees that return are sound. -/
def FeesSound (past : List ChainTransition) (ledger : Ledger CrossChainStore)
    (input : CrossChainInput) : Prop :=
  Accepts (input.call.exec (ledger.env input.arrival)) ledger.store →
    input.call.FeesSound past ledger.store
deriving Decidable

theorem FeesKept.step {past : List ChainTransition} {ledger : Ledger CrossChainStore}
    {input : CrossChainInput} (kept : FeesKept past ledger.store.fees)
    (sound : FeesSound past ledger input) :
    FeesKept (past ++ [⟨ledger, input, chainStep input ledger⟩])
      (chainStep input ledger).store.fees := by
  have changed := ChainTransition.cases ledger input
  obtain ⟨arrival, call⟩ := input
  generalize chainStep ⟨arrival, call⟩ ledger = next at changed ⊢
  rcases changed with ⟨gave, effect⟩ | ⟨failed, stopped⟩
  · have sound := sound gave
    generalize next.store = store at effect
    cases effect with
    | @fees call fees effect =>
      refine kept.called effect sound (if_pos gave) (if_pos gave) ?_
      rintro transferId ⟨_, refunds⟩
      exact CrossChainCall.fees.inj refunds
    | _ => exact kept.quiet rfl rfl fun transferId refunds => by cases refunds.2
  · rw [stopped.kept.2]
    refine kept.quiet ?_ ?_ fun transferId refunds => failed refunds.1
    · cases call with
      | fees => exact if_neg failed
      | _ => rfl
    · cases call with
      | fees => exact if_neg failed
      | _ => rfl

/-- In every run whose calls on fees are sound when they return, paid out and allocated fees stay
within those collected, which are not negative; the rewards announced are those counted as
distributed; and each transfer is refunded at most once. -/
theorem fees_accounted (governances : Table Nat BridgeGovernance) (bridges : Table Nat Bridge)
    (activeSets : Table Nat (List Address)) (versions delays : Table Nat Nat)
    (timestamp sequence : Nat) (inputs : List CrossChainInput)
    (sound : ∀ prior taken later, trace chainStep
          (crossChainStart governances bridges activeSets versions delays timestamp sequence)
          inputs = prior ++ taken :: later → FeesSound prior taken.pre taken.input) :
    let start := crossChainStart governances bridges activeSets versions delays timestamp sequence
    (∀ bridgeId, (final chainStep start inputs).store.fees.Accounted bridgeId) ∧
      ∀ transferId, (trace chainStep start inputs).countP
          (ChainTransition.Refunds transferId) ≤ 1 := by
  have kept := past_invariant chainStep (fun past ledger => FeesKept past ledger.store.fees)
    FeesSound (fun past ledger input sound kept => kept.step sound)
    (crossChainStart governances bridges activeSets versions delays timestamp sequence)
    ⟨fun has => (by cases has), nofun, fun _ => ⟨le_rfl, le_rfl, le_rfl, le_rfl, le_rfl⟩,
      fun _ => rfl, fun _ => Once.nil⟩ inputs sound
  exact ⟨kept.accounted, fun transferId => (kept.once transferId).once⟩

/-- A bridge with three validators whose fees are all due to them. -/
def rewardingBridge : Ledger CrossChainStore :=
  crossChainStart ∅ (AList.insert 1 ⟨[7, 8, 9], 1, .active, ⟨1000, 1000, 1, 0⟩⟩ ∅) ∅ ∅ ∅ 0 0

def failedTransferRun : List CrossChainInput :=
  [⟨⟨0, 0, []⟩, .fees (.setConfig 1 ⟨100, 5, 50, 6000, 4000, false⟩)⟩,
    ⟨⟨0, 0, []⟩, .monitoring (.monitor 4 "" .ethereum 0)⟩,
    ⟨⟨0, 0, []⟩, .monitoring (.create 4 1 .ethereum .stellar ⟨1100, by decide⟩
      ⟨11, by decide⟩ ⟨"XLM", none⟩ "")⟩,
    ⟨⟨0, 0, []⟩, .fees (.collect 4 ⟨1100, by decide⟩)⟩,
    ⟨⟨1, 1, []⟩, .monitoring (.markFailed 4)⟩,
    ⟨⟨1, 1, []⟩, .fees (.refund 4)⟩]

/-- The fee of a failed transfer is refunded a second time, which leaves a negative total. -/
theorem second_refund_overdraws :
    ¬ ∀ inputs, (final chainStep rewardingBridge inputs).store.fees.Accounted 1 ∧
      (trace chainStep rewardingBridge inputs).countP
        (ChainTransition.Refunds 4) ≤ 1 := by
  intro every
  have collected := (every (failedTransferRun ++ [⟨⟨1, 1, []⟩, .fees (.refund 4)⟩])).1.collected
  exact absurd collected (by decide)

/-- The run with one refund keeps the accounts. -/
theorem one_refund_accounted :
    (final chainStep rewardingBridge failedTransferRun).store.fees.Accounted 1 :=
  (fees_accounted ∅ (AList.insert 1 ⟨[7, 8, 9], 1, .active, ⟨1000, 1000, 1, 0⟩⟩ ∅) ∅ ∅ ∅ 0 0
    failedTransferRun (forall_places (by decide))).1 1

/-- Two configurations set the same fees. -/
def BridgeFeeConfig.SameTerms (config other : BridgeFeeConfig) : Prop :=
  config.baseFeeBps = other.baseFeeBps ∧ config.minFee = other.minFee ∧
    config.maxFee = other.maxFee
deriving Decidable

/-- The bound or the rate that sets the fee of an amount is at most the limit. -/
def BridgeFeeConfig.FeeWithin (config : BridgeFeeConfig) (value limit : Int) : Prop :=
  if value * config.baseFeeBps < 10000 * config.minFee then config.minFee ≤ limit
  else 0 ≤ config.maxFee ∧
    (config.maxFee ≤ limit ∨ value * config.baseFeeBps < 10000 * (limit + 1))
deriving Decidable

/-- The largest fee that a multiplier leaves as it is. -/
def unchangedFee (multiplier : Nat) : Int :=
  if multiplier < 10000 then 0
  else if multiplier = 10000 then i128.high / 10000
  else 9999 / (multiplier - 10000 : Nat)

/-- The estimate for a transfer is a fee, and the fee is within the amount. -/
def ChainFees.EstimatesCharge (chains : ChainFees) (store : CrossChainStore)
    (transfer : BridgeTransfer) (value fee : Int) : Prop :=
  estimateBridgeFee chains transfer.destinationChain value store = .ok fee store ∧
    0 ≤ fee ∧ fee ≤ value

section Estimates

variable {store : CrossChainStore}

theorem feeWithin_iff (config : BridgeFeeConfig) {value : Int} (nonneg : 0 ≤ value) (limit : Int) :
    config.FeeWithin value limit ↔ 0 ≤ config.feeOf value ∧ config.feeOf value ≤ limit := by
  have product : 0 ≤ value * config.baseFeeBps := Int.mul_nonneg nonneg (Int.natCast_nonneg _)
  simp only [BridgeFeeConfig.FeeWithin, feeOf, bounded, tdiv_eq_floor product]
  generalize value * config.baseFeeBps = rate at product
  split <;> split <;> (try split) <;> omega

/-- A multiplier leaves exactly the fees up to a largest one as they are. -/
theorem multiplied_iff {fee : Int} (nonneg : 0 ≤ fee) (multiplier : Nat) :
    i128.Holds (fee * multiplier) ∧ (fee * multiplier).tdiv 10000 = fee ↔
      fee ≤ unchangedFee multiplier := by
  have product : 0 ≤ fee * multiplier := Int.mul_nonneg nonneg (Int.natCast_nonneg _)
  rw [tdiv_eq_floor product]
  simp only [unchangedFee, Range.Holds, i128_low, i128_high]
  split
  next discount =>
    constructor
    · rintro ⟨_, same⟩
      have below : fee * multiplier ≤ fee * 9999 := Int.mul_le_mul_of_nonneg_left (by omega) nonneg
      omega
    · intro none
      obtain rfl : fee = 0 := by omega
      simp
  next =>
    split
    next same =>
      subst same
      omega
    next surcharge =>
      obtain ⟨extra, rfl⟩ : ∃ extra, multiplier = 10000 + extra := ⟨multiplier - 10000, by omega⟩
      have some : (0 : Int) < extra := by omega
      have added : fee * ((10000 + extra : Nat) : Int) = 10000 * fee + fee * extra := by
        push_cast
        ring
      rw [Nat.add_sub_cancel_left, Int.le_ediv_iff_mul_le some, added]
      have charged : fee ≤ fee * extra := le_mul_of_one_le_right nonneg some
      omega

theorem collectBridgeFee_charges (transferId : Nat) (value : Int) :
    wlp (collectBridgeFee transferId value) (fun net _ => ∃ transfer config,
        store.monitoring.transfers.lookup transferId = some transfer ∧
        store.fees.configs.lookup transfer.bridgeId = some config ∧
        value - net = config.feeOf value ∧ i128.Holds (value * config.baseFeeBps)) store := by
  simp only [collectBridgeFee, calculateBridgeFee, wp_rules, wp_getBridgeTransfer,
    wp_getBridgeFeeConfig, wp_amount, wp_counter, wp_saveBridgeFeeStats, wp_putFees]
  intro transfer has config configured fits _ _ _ _
  exact ⟨transfer, config, has, configured, by rw [feeOf]; omega, fits⟩

theorem estimateBridgeFee_iff (chains : ChainFees) (chain : ChainId) (value fee : Int) :
    estimateBridgeFee chains chain value store = .ok fee store ↔
      ∃ config, store.fees.configs.lookup (chains.getDestinationBridgeId chain) = some config ∧
        i128.Holds (value * config.baseFeeBps) ∧
        i128.Holds (config.feeOf value * chains.getChainFeeMultiplier chain) ∧
        (config.feeOf value * chains.getChainFeeMultiplier chain).tdiv 10000 = fee := by
  constructor
  · intro gave
    have specified : wlp (estimateBridgeFee chains chain value)
        (fun fee _ => ∃ config,
          store.fees.configs.lookup (chains.getDestinationBridgeId chain) = some config ∧
          i128.Holds (value * config.baseFeeBps) ∧
          i128.Holds (config.feeOf value * chains.getChainFeeMultiplier chain) ∧
          (config.feeOf value * chains.getChainFeeMultiplier chain).tdiv 10000 = fee) store := by
      simp only [estimateBridgeFee, calculateBridgeFee, wp_rules, wp_getBridgeFeeConfig, wp_amount]
      exact fun config configured rate product => ⟨config, configured, rate, product, rfl⟩
    exact wp_ok specified gave
  · rintro ⟨config, configured, rate, product, rfl⟩
    have specified : wp (estimateBridgeFee chains chain value)
        (fun fee after => fee =
          (config.feeOf value * chains.getChainFeeMultiplier chain).tdiv 10000 ∧ after = store)
        (fun _ _ => False) store := by
      rw [feeOf] at product
      simp [estimateBridgeFee, calculateBridgeFee, getBridgeFeeConfig, orMissing, amount, configured,
        rate, product, feeOf]
    obtain ⟨fee, after, gave, rfl, rfl⟩ := returns_of_wp specified
    exact gave

end Estimates

/-- Whenever a fee is collected and the destination chain is mapped to a bridge with the terms of
the transfer's own, the estimate is that fee and the fee is within the amount exactly when the amount
and the multiplier allow it. -/
theorem estimate_charged (chains : ChainFees) (store after : CrossChainStore)
    (transferId : Nat) (transfer : BridgeTransfer) (value net : Int)
    (charged estimated : BridgeFeeConfig)
    (has : store.monitoring.transfers.lookup transferId = some transfer)
    (collected : collectBridgeFee transferId value store = .ok net after)
    (configured : store.fees.configs.lookup transfer.bridgeId = some charged)
    (mapped : store.fees.configs.lookup
      (chains.getDestinationBridgeId transfer.destinationChain) = some estimated)
    (terms : estimated.SameTerms charged) :
    chains.EstimatesCharge store transfer value (value - net) ↔ 0 ≤ value ∧ charged.FeeWithin value
        (min value (unchangedFee (chains.getChainFeeMultiplier transfer.destinationChain))) := by
  obtain ⟨hit, config, isFound, isConfig, isFee, fits⟩ :=
    wp_ok (collectBridgeFee_charges transferId value) collected
  cases Option.mem_unique has isFound
  cases Option.mem_unique configured isConfig
  obtain ⟨rate, least, most⟩ := terms
  have same : estimated.feeOf value = charged.feeOf value := by
    simp only [feeOf, bounded, rate, least, most]
  rw [ChainFees.EstimatesCharge, isFee, estimateBridgeFee_iff]
  constructor
  · rintro ⟨⟨other, known, _, product, worth⟩, nonneg, within⟩
    cases Option.mem_unique mapped known
    rw [same] at product worth
    have whole := (multiplied_iff nonneg _).mp ⟨product, worth⟩
    have pos : 0 ≤ value := nonneg.trans within
    exact ⟨pos, (feeWithin_iff charged pos _).mpr ⟨nonneg, le_min within whole⟩⟩
  · rintro ⟨pos, within⟩
    obtain ⟨nonneg, limited⟩ := (feeWithin_iff charged pos _).mp within
    obtain ⟨product, worth⟩ := (multiplied_iff nonneg _).mpr (limited.trans (min_le_right _ _))
    exact ⟨⟨estimated, mapped, rate ▸ fits, same ▸ product, same ▸ worth⟩, nonneg,
      limited.trans (min_le_left _ _)⟩

section Surcharge

/-- A transfer to Polygon over a bridge with a fee of thirty basis points. -/
def polygonTransfer : CrossChainStore :=
  (final chainStep rewardingBridge
    [⟨⟨0, 0, []⟩, .fees (.setConfig 1 ⟨30, 100, 10000, 8000, 2000, false⟩)⟩,
      ⟨⟨0, 0, []⟩, .monitoring (.create 4 1 .stellar .polygon ⟨1000000, by decide⟩
        ⟨7, by decide⟩ ⟨"XLM", none⟩ "")⟩]).store

/-- The transfer that is stored there. -/
def toPolygon : BridgeTransfer :=
  ⟨1, .stellar, .polygon, 1000000, 7, ⟨"XLM", none⟩, "", .pending, [], 0, none, 0⟩

def surcharged : ChainFees := ChainFees.setChainFeeMultiplier ⟨∅, ∅⟩ .polygon 15000

/-- Without a surcharge the estimate is what is charged. -/
theorem plain_estimate_charged :
    ChainFees.EstimatesCharge ⟨∅, ∅⟩ polygonTransfer toPolygon 1000000 (1000000 - 997000) :=
  (estimate_charged ⟨∅, ∅⟩ polygonTransfer _ 4 toPolygon 1000000 997000
    ⟨30, 100, 10000, 8000, 2000, false⟩ ⟨30, 100, 10000, 8000, 2000, false⟩ rfl rfl rfl rfl
    (by decide)).mpr (by decide)

/-- The estimate includes a surcharge that is not charged. -/
theorem surcharge_not_charged :
    ¬ ∀ (chains : ChainFees) (store after : CrossChainStore) (transferId : Nat)
        (transfer : BridgeTransfer) (value net : Int),
        store.monitoring.transfers.lookup transferId = some transfer →
        collectBridgeFee transferId value store = .ok net after →
        chains.EstimatesCharge store transfer value (value - net) := by
  intro every
  obtain ⟨estimated, _⟩ := every surcharged polygonTransfer _ 4 toPolygon 1000000 997000 rfl rfl
  have surcharge : estimateBridgeFee surcharged toPolygon.destinationChain 1000000
      polygonTransfer = .ok 4500 polygonTransfer := rfl
  rw [surcharge] at estimated
  cases estimated

end Surcharge

end StellarSwipe.CrossChain
