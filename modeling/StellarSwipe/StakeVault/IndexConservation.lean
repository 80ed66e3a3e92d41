import StellarSwipe.StakeVault.IndexBalance

/-!
# What the reward index owes

In each asset the index owes what stakers have been credited, what their stakes have earned since
they were last settled, and its dust.
-/

namespace StellarSwipe.StakeVault.RewardIndex

open Program FixedWidth Table Storage

namespace Storage

variable (store : Storage)

/-- What all stakers have been credited in an asset and not taken. -/
def accruedTotal (asset : Address) : Int :=
  Table.sum (fun key amount => if key.2 = asset then amount else 0) store.accrued

/-- What all stakes have earned in an asset since they were last settled. -/
def unsettled (asset : Address) : Int :=
  Accumulator.outstanding (store.globalIndex asset) (store.snapshotOf asset) store.userStake

/-- What the index owes in an asset, in scaled units. -/
def owed (asset : Address) : Int :=
  indexScale * store.accruedTotal asset + store.unsettled asset + store.dust.read asset

end Storage

/-- The recorded total is the sum of the stakes, no snapshot is ahead of its index, and
an asset that is not registered has never been funded. -/
structure Coherent (store : Storage) : Prop where
  balanced : Balanced store
  raised : ∀ asset, 0 ≤ store.globalIndex asset
  behind : ∀ staker asset snapshot, store.userIndexOf staker asset = some snapshot →
    0 ≤ snapshot ∧ snapshot ≤ store.globalIndex asset
  unlisted : ∀ asset, asset ∉ store.assets → store.globalIndex asset = 0
  dust : ∀ asset, 0 ≤ store.dust.read asset

theorem coherent_empty : Coherent .empty where
  balanced := balanced_empty
  raised _ := le_refl 0
  behind _ _ _ has := by simp [Storage.empty, userIndexOf] at has
  unlisted _ _ := rfl
  dust _ := le_refl 0

/-- An operation keeps the index coherent and raises what it owes in each asset by no
more than an inflow. -/
structure Conserves (pre after : Storage) (inflow : Address → Int) : Prop where
  coherent : Coherent after
  owed : ∀ asset, after.owed asset ≤ pre.owed asset + indexScale * inflow asset

/-- An amount of one asset and nothing of the others. -/
def inAsset (asset : Address) (amount : Int) (tested : Address) : Int :=
  if tested = asset then amount else 0

section Snapshots

variable (store : Storage) (staker : Address) (stake : Int)

theorem snapshotOf_snapshotted (asset tested user : Address) :
    (store.snapshotted staker stake asset).snapshotOf tested user =
      if tested = asset ∧ user = staker then store.globalIndex tested
      else store.snapshotOf tested user := by
  have key : (user, tested) = (staker, asset) ↔ tested = asset ∧ user = staker := by
    rw [Prod.mk.injEq, and_comm]
  simp only [Storage.snapshotted, Storage.snapshotOf, userIndexOf, globalIndex]
  by_cases staked : 0 < stake
  · simp only [staked, if_true, lookup_insert, key]
    split
    next same => rw [same.1, Option.getD_some]
    next => rfl
  · simp only [staked, if_false, lookup_erase, key]
    split
    next same => rw [Option.getD_none]
    next => rfl

theorem snapshotOf_settledIn (asset tested user : Address) :
    (store.settledIn staker stake asset).snapshotOf tested user =
      if tested = asset ∧ user = staker then store.globalIndex tested
      else store.snapshotOf tested user :=
  snapshotOf_snapshotted { store with accrued := store.credited staker stake asset } staker stake
    asset tested user

theorem snapshotOf_snapshottedAll (assets : List Address) (tested user : Address) :
    (store.snapshottedAll staker stake assets).snapshotOf tested user =
      if tested ∈ assets ∧ user = staker then store.globalIndex tested
      else store.snapshotOf tested user := by
  induction assets generalizing store with
  | nil => simp [Storage.snapshottedAll]
  | cons asset rest ih =>
    rw [Storage.snapshottedAll, List.foldl_cons, ← Storage.snapshottedAll, ih,
      snapshotOf_snapshotted]
    have same : (store.snapshotted staker stake asset).globalIndex tested =
      store.globalIndex tested := rfl
    simp only [same, List.mem_cons]
    grind

theorem snapshotOf_settled (assets : List Address) (tested user : Address) :
    (store.settled staker stake assets).snapshotOf tested user =
      if tested ∈ assets ∧ user = staker then store.globalIndex tested
      else store.snapshotOf tested user := by
  induction assets generalizing store with
  | nil => simp [Storage.settled]
  | cons asset rest ih =>
    rw [Storage.settled, List.foldl_cons, ← Storage.settled, ih, snapshotOf_settledIn]
    have same : (store.settledIn staker stake asset).globalIndex tested =
      store.globalIndex tested := rfl
    simp only [same, List.mem_cons]
    grind

end Snapshots

section Settling

variable {store : Storage} {staker : Address}

theorem Coherent.snapshot_bounds (coherent : Coherent store) (asset staker : Address) :
    0 ≤ store.snapshotOf asset staker ∧
      store.snapshotOf asset staker ≤ store.globalIndex asset := by
  simp only [Storage.snapshotOf]
  cases has : store.userIndexOf staker asset with
  | none => exact ⟨coherent.raised asset, le_refl _⟩
  | some snapshot => exact coherent.behind staker asset snapshot has

theorem Coherent.lag_nonneg (coherent : Coherent store) (asset staker : Address) :
    0 ≤ store.lag asset staker :=
  sub_nonneg.mpr (coherent.snapshot_bounds asset staker).2

theorem Coherent.unsettled_nonneg (coherent : Coherent store) (asset : Address) :
    0 ≤ store.unsettled asset :=
  Accumulator.outstanding_nonneg coherent.balanced.stakes fun staker =>
    (coherent.snapshot_bounds asset staker).2

/-- What crediting one asset adds to a staker's accrued balance. -/
def earnedUnits (stake lag : Int) : Int := stake * lag / indexScale

theorem Coherent.accruedTotal_credited (coherent : Coherent store) (staker asset : Address)
    {stake : Int} (nonneg : 0 ≤ stake) (tested : Address) :
    { store with accrued := store.credited staker stake asset }.accruedTotal tested =
      store.accruedTotal tested +
        inAsset asset (earnedUnits stake (store.lag asset staker)) tested := by
  have lag := coherent.lag_nonneg asset staker
  have floor : (stake * store.lag asset staker).tdiv indexScale =
      earnedUnits stake (store.lag asset staker) := tdiv_eq_floor (Int.mul_nonneg nonneg lag)
  simp only [accruedTotal, credited, inAsset]
  by_cases earns : 0 < stake ∧ 0 < store.lag asset staker
  · rw [if_pos earns, sum_write (fun key => by split <;> rfl), floor]
    simp only [accruedOf]
    by_cases same : asset = tested
    · simp only [same, if_true]
      omega
    · rw [if_neg same, if_neg same, if_neg fun other => same other.symm]
      omega
  · have nothing : stake * store.lag asset staker = 0 := by
      rcases Classical.not_and_iff_not_or_not.mp earns with unstaked | current
      · rw [show stake = 0 by omega, Int.zero_mul]
      · rw [show store.lag asset staker = 0 by omega, Int.mul_zero]
    rw [if_neg earns, earnedUnits, nothing]
    simp

theorem Conserves.refl (coherent : Coherent store) : Conserves store store fun _ => 0 where
  coherent
  owed asset := by simp

theorem Conserves.trans {middle after : Storage} {first second : Address → Int}
    (prior : Conserves store middle first) (later : Conserves middle after second) :
    Conserves store after fun asset => first asset + second asset where
  coherent := later.coherent
  owed asset := by
    have := prior.owed asset
    have := later.owed asset
    rw [Int.mul_add]
    omega

theorem Coherent.snapshotted (coherent : Coherent store) (staker : Address) (stake : Int)
    (asset : Address) : Coherent (store.snapshotted staker stake asset) where
  balanced := coherent.balanced.congr rfl rfl
  raised := coherent.raised
  behind user tested snapshot has := by
    simp only [Storage.snapshotted, userIndexOf] at has
    by_cases staked : 0 < stake
    · rw [if_pos staked, lookup_insert] at has
      split at has
      next same =>
        obtain ⟨rfl, rfl⟩ := Prod.mk.inj same
        cases has
        exact ⟨coherent.raised tested, le_refl _⟩
      next => exact coherent.behind user tested snapshot has
    · rw [if_neg staked, lookup_erase] at has
      split at has
      next => cases has
      next => exact coherent.behind user tested snapshot has
  unlisted := coherent.unlisted
  dust := coherent.dust

theorem Coherent.withAccrued (coherent : Coherent store) (accrued : Table (Address × Address) Int) :
    Coherent { store with accrued } :=
  ⟨coherent.balanced.congr rfl rfl, coherent.raised, coherent.behind, coherent.unlisted,
    coherent.dust⟩

/-- Settling one asset moves whole units from what is unsettled to what is accrued and
drops less than one. -/
theorem Coherent.settledIn (coherent : Coherent store) (staker asset : Address) :
    Conserves store (store.settledIn staker (store.stakeOf staker) asset) fun _ => 0 where
  coherent := (coherent.withAccrued _).snapshotted staker _ asset
  owed tested := by
    have nonneg := (coherent.balanced.stakeOf_bounds staker).1
    have accrued := coherent.accruedTotal_credited staker asset nonneg tested
    have accrued' : (store.settledIn staker (store.stakeOf staker) asset).accruedTotal tested =
        store.accruedTotal tested +
          inAsset asset (earnedUnits (store.stakeOf staker) (store.lag asset staker)) tested :=
      accrued
    simp only [Storage.owed, accrued', inAsset, Int.mul_zero, Int.add_zero]
    have dust : (store.settledIn staker (store.stakeOf staker) asset).dust.read tested =
      store.dust.read tested := rfl
    by_cases same : tested = asset
    · subst same
      have settled : (store.settledIn staker (store.stakeOf staker) tested).unsettled tested =
          store.unsettled tested - store.stakeOf staker * store.lag tested staker := by
        refine Accumulator.outstanding_settle ?_ fun other different => ?_
        · rw [snapshotOf_settledIn, if_pos ⟨rfl, rfl⟩]
          rfl
        · rw [snapshotOf_settledIn, if_neg fun both => different both.2]
      have units := (Accumulator.credited_bounds (by decide : 0 < indexScale)
        (store.stakeOf staker * store.lag tested staker)).1
      rw [settled, dust, if_pos rfl, Int.mul_add, earnedUnits]
      omega
    · have unsettled : (store.settledIn staker (store.stakeOf staker) asset).unsettled tested =
          store.unsettled tested := by
        refine Accumulator.outstanding_congr fun user _ _ => ?_
        rw [snapshotOf_settledIn, if_neg fun both => same both.1]
      rw [unsettled, dust, if_neg same, Int.add_zero]

/-- Settling several assets conserves, however many of them. The induction is on the
assets. -/
theorem Coherent.settled (coherent : Coherent store) (staker : Address) (assets : List Address) :
    Conserves store (store.settled staker (store.stakeOf staker) assets) fun _ => 0 := by
  induction assets generalizing store with
  | nil => exact .refl coherent
  | cons asset rest ih =>
    have first := coherent.settledIn staker asset
    exact first.trans (ih first.coherent)

/-- After settling all registered assets the staker is settled in every asset, since the
index of an unregistered asset has not moved. -/
theorem Coherent.settled_current (coherent : Coherent store) (staker asset : Address) :
    (store.settled staker (store.stakeOf staker) store.assets).snapshotOf asset staker =
      (store.settled staker (store.stakeOf staker) store.assets).globalIndex asset := by
  have same : (store.settled staker (store.stakeOf staker) store.assets).globalIndex asset =
      store.globalIndex asset := by
    rw [globalIndex, (store.settled_frame staker _ store.assets).2.2.1]
    rfl
  rw [snapshotOf_settled, same]
  split
  · rfl
  next unlisted =>
    have still := coherent.unlisted asset fun listed => unlisted ⟨listed, rfl⟩
    have bounds := coherent.snapshot_bounds asset staker
    omega

theorem Coherent.snapshottedAll (coherent : Coherent store) (staker : Address) (stake : Int)
    (assets : List Address) : Coherent (store.snapshottedAll staker stake assets) := by
  induction assets generalizing store with
  | nil => exact coherent
  | cons asset rest ih =>
    exact ih (coherent.snapshotted staker stake asset)

theorem restaked_frame (store : Storage) (staker : Address) (stake total : Int) :
    (store.restaked staker stake total).index = store.index ∧
      (store.restaked staker stake total).dust = store.dust ∧
      (store.restaked staker stake total).accrued = store.accrued := by
  have frame := snapshottedAll_frame
    { store with totalStake := total, userStake := store.userStake.write staker stake }
    staker stake store.assets
  exact ⟨frame.2.2.1, frame.2.2.2.1, frame.2.2.2.2.2⟩

theorem snapshotOf_restaked {asset : Address}
    (current : store.snapshotOf asset staker = store.globalIndex asset) (stake total : Int)
    (user : Address) :
    (store.restaked staker stake total).snapshotOf asset user = store.snapshotOf asset user := by
  rw [Storage.restaked, snapshotOf_snapshottedAll]
  split
  next moved =>
    rw [moved.2, current]
    rfl
  next => rfl

theorem Coherent.restaked (coherent : Coherent store) {staker : Address} {stake : Int}
    (nonneg : 0 ≤ stake) (fits : TotalFits staker store stake)
    (current : ∀ asset, store.snapshotOf asset staker = store.globalIndex asset) :
    Conserves store (store.restaked staker stake
      (store.totalStake - store.stakeOf staker + stake)) fun _ => 0 := by
  obtain ⟨index, dust, accrued⟩ := restaked_frame store staker stake
    (store.totalStake - store.stakeOf staker + stake)
  constructor
  case coherent =>
    refine Coherent.snapshottedAll ?_ staker stake store.assets
    refine ⟨?_, coherent.raised, coherent.behind, coherent.unlisted, coherent.dust⟩
    exact (coherent.balanced.restaked nonneg fits).congr (restaked_userStake ..).symm
      (restaked_totalStake ..).symm
  case owed =>
    intro asset
    have unsettled : (store.restaked staker stake
        (store.totalStake - store.stakeOf staker + stake)).unsettled asset =
        store.unsettled asset := by
      rw [unsettled, globalIndex, index, restaked_userStake]
      have settled := (snapshotOf_restaked (current asset) stake
        (store.totalStake - store.stakeOf staker + stake) staker).trans (current asset)
      refine (Accumulator.outstanding_write settled stake).trans ?_
      exact Accumulator.outstanding_congr fun user _ _ =>
        snapshotOf_restaked (current asset) stake _ user
    simp only [Storage.owed, accruedTotal, accrued, unsettled, dust, Int.mul_zero,
      Int.add_zero, le_refl]

end Settling

section Operations

variable {pre after : Storage} {staker asset : Address} {stake amount : Int}

theorem onStakeChange_conserves (coherent : Coherent pre) (nonneg : 0 ≤ stake)
    (changed : onStakeChange staker stake pre = .ok () after) : Conserves pre after fun _ => 0 := by
  obtain ⟨fits, rfl⟩ := wp_ok (onStakeChange_spec staker pre stake) changed
  have settled := coherent.settled staker pre.assets
  have fitsSettled : TotalFits staker
      (pre.settled staker (pre.stakeOf staker) pre.assets) stake := by
    simpa only [TotalFits, settled_totalStake, settled_stakeOf] using fits
  have changed := settled.coherent.restaked nonneg fitsSettled (coherent.settled_current staker)
  rw [settled_totalStake, settled_stakeOf] at changed
  exact settled.trans changed

theorem onStakeChange_stopped_conserves (coherent : Coherent pre) {fault : Fault StakeVaultError}
    (stopped : onStakeChange staker stake pre = .error fault after) :
    Conserves pre after fun _ => 0 := by
  obtain ⟨_, ⟨done, rfl⟩, _⟩ := wp_error (onStakeChange_spec staker pre stake) stopped
  exact coherent.settled staker done

theorem addAsset_conserves (coherent : Coherent pre)
    (added : addAsset asset pre = .ok () after) : Conserves pre after fun _ => 0 := by
  rcases wp_ok (addAsset_spec asset pre) added with ⟨rfl, _⟩ | ⟨_, rfl⟩
  · exact .refl coherent
  · refine ⟨⟨coherent.balanced.congr rfl rfl, coherent.raised, coherent.behind, fun tested absent =>
      coherent.unlisted tested fun listed => absent (List.mem_append_left _ listed),
      coherent.dust⟩, fun tested => ?_⟩
    have same : Storage.owed { pre with assets := pre.assets ++ [asset] } tested =
      pre.owed tested := rfl
    simp [same]

def Storage.raisedBy (store : Storage) (asset : Address) (rise remainder : Int) : Storage :=
  { store with
    dust := store.dust.write asset remainder
    index := store.index.write asset (store.globalIndex asset + rise) }

section Raising

variable (rise remainder : Int)

theorem globalIndex_raisedBy (tested : Address) :
    (pre.raisedBy asset rise remainder).globalIndex tested =
      pre.globalIndex tested + inAsset asset rise tested := by
  simp only [Storage.raisedBy, globalIndex, read_write, inAsset]
  split
  next same => rw [same]
  next => rw [Int.add_zero]

/-- Raising an index takes the snapshots of stakers without one along. -/
theorem snapshotOf_raisedBy (tested user : Address) :
    (pre.raisedBy asset rise remainder).snapshotOf tested user = pre.snapshotOf tested user +
        if pre.userIndexOf user tested = none then inAsset asset rise tested else 0 := by
  have same : (pre.raisedBy asset rise remainder).userIndexOf user tested =
    pre.userIndexOf user tested := rfl
  simp only [Storage.snapshotOf, same, globalIndex_raisedBy]
  cases pre.userIndexOf user tested <;> simp

/-- What is owed grows by the rise for every staked unit and by the change of the dust. -/
theorem Coherent.raisedBy (coherent : Coherent pre) (listed : asset ∈ pre.assets)
    (rises : 0 ≤ rise) (rest : 0 ≤ remainder)
    (exact : rise * pre.totalStake + remainder = amount * indexScale + pre.dust.read asset) :
    Conserves pre (pre.raisedBy asset rise remainder) (inAsset asset amount) := by
  have up (tested : Address) : 0 ≤ inAsset asset rise tested := by
    simp only [inAsset]
    split <;> omega
  constructor
  case coherent =>
    refine ⟨coherent.balanced.congr rfl rfl, fun tested => ?_, fun user tested snapshot has => ?_,
      fun tested unlisted => ?_, fun tested => ?_⟩
    · have := coherent.raised tested
      have := up tested
      rw [globalIndex_raisedBy]
      omega
    · have bounds := coherent.behind user tested snapshot has
      have := up tested
      rw [globalIndex_raisedBy]
      omega
    · have other : tested ≠ asset := fun same => unlisted (same ▸ listed)
      rw [globalIndex_raisedBy, inAsset, if_neg other, Int.add_zero]
      exact coherent.unlisted tested unlisted
    · simp only [Storage.raisedBy, read_write]
      split
      · exact rest
      · exact coherent.dust tested
  case owed =>
    intro tested
    have accrued : (pre.raisedBy asset rise remainder).accruedTotal tested =
      pre.accruedTotal tested := rfl
    have forward (user : Address) : pre.snapshotOf tested user ≤
        (pre.raisedBy asset rise remainder).snapshotOf tested user := by
      have := up tested
      rw [snapshotOf_raisedBy]
      split <;> omega
    have unsettled : (pre.raisedBy asset rise remainder).unsettled tested ≤
        pre.unsettled tested + inAsset asset rise tested * pre.totalStake := by
      have raise : (pre.raisedBy asset rise remainder).unsettled tested ≤
          pre.unsettled tested + ((pre.raisedBy asset rise remainder).globalIndex tested -
            pre.globalIndex tested) * pre.userStake.total :=
        Accumulator.outstanding_raise_le coherent.balanced.stakes forward
      rwa [globalIndex_raisedBy, add_sub_cancel_left, ← coherent.balanced.total] at raise
    have dust : (pre.raisedBy asset rise remainder).dust.read tested =
        if tested = asset then remainder else pre.dust.read tested := read_write ..
    simp only [Storage.owed, accrued, dust]
    by_cases same : tested = asset
    · subst same
      simp only [inAsset, if_true] at unsettled ⊢
      rw [Int.mul_comm indexScale amount]
      omega
    · simp only [inAsset, if_neg same, Int.zero_mul, Int.mul_zero] at unsettled ⊢
      omega

end Raising

/-- A funding raises what is owed in its asset by no more than the funding: the index
takes the quotient and the dust the remainder. -/
theorem notifyReward_conserves (coherent : Coherent pre) {value : Int}
    (notified : notifyReward asset amount pre = .ok value after) :
    Conserves pre after (inAsset asset amount) := by
  obtain ⟨pos, listed, staked, num, rfl, rfl⟩ :=
    wp_ok (notifyReward_spec asset pre amount) notified
  have dust := coherent.dust asset
  have scaled : 0 ≤ amount * indexScale := Int.mul_nonneg (by omega) (by decide)
  have nonneg : 0 ≤ amount * indexScale + pre.dust.read asset := by omega
  rw [tdiv_eq_floor nonneg, tmod_eq_emod nonneg]
  exact coherent.raisedBy _ _ listed (Int.ediv_nonneg nonneg (by omega))
    (Int.emod_nonneg _ (by omega)) (Accumulator.increment_exact _ _)

def Storage.accruing (store : Storage) (staker asset : Address) (change : Int) : Storage :=
  { store with
    accrued := store.accrued.write (staker, asset) (store.accruedOf staker asset + change) }

theorem Coherent.accruing (coherent : Coherent pre) (staker asset : Address) (change : Int) :
    Conserves pre (pre.accruing staker asset change) (inAsset asset change) where
  coherent := coherent.withAccrued _
  owed tested := by
    have accrued : (pre.accruing staker asset change).accruedTotal tested =
        pre.accruedTotal tested + inAsset asset change tested := by
      simp only [accruedTotal, inAsset, Storage.accruing, accruedOf]
      rw [sum_write (fun key => by split <;> rfl)]
      by_cases same : asset = tested
      · simp only [same, if_true]
        omega
      · rw [if_neg same, if_neg same, if_neg fun other => same other.symm]
        omega
    have unsettled : (pre.accruing staker asset change).unsettled tested =
      pre.unsettled tested := rfl
    have dust : (pre.accruing staker asset change).dust = pre.dust := rfl
    simp only [Storage.owed, accrued, unsettled, dust, Int.mul_add]
    omega

theorem takeAccrued_conserves (coherent : Coherent pre)
    (taken : takeAccrued staker asset pre = .ok amount after) :
    Conserves pre after (inAsset asset (-amount)) := by
  obtain ⟨checkpointed, rfl, rfl, rfl⟩ := wp_ok (takeAccrued_spec staker asset pre) taken
  have settled := coherent.settled staker pre.assets
  have emptied := settled.trans (settled.coherent.accruing staker asset
    (-(pre.settled staker (pre.stakeOf staker) pre.assets).accruedOf staker asset))
  simpa only [Storage.accruing, Int.add_right_neg, Int.zero_add] using emptied

theorem creditAccrued_conserves (coherent : Coherent pre)
    (credited : creditAccrued staker asset amount pre = .ok () after) :
    Conserves pre after (inAsset asset amount) := by
  cases wp_ok (creditAccrued_spec staker asset pre amount) credited
  exact coherent.accruing staker asset amount

end Operations

end StellarSwipe.StakeVault.RewardIndex
