import StellarSwipe.Library.Accumulator
import StellarSwipe.StakeVault.Types

/-!
# Reward index checkpointing

Each reward asset keeps a global index, the reward per unit of participating stake scaled by
`indexScale`.
-/

namespace StellarSwipe.StakeVault.RewardIndex

open Program FixedWidth Range

def indexScale : Int := 1000000000000

def maxIndexAssets : Nat := 8

structure Storage where
  assets : List Address
  totalStake : Int
  index : Table Address Int
  dust : Table Address Int
  userStake : Table Address Int
  userIndex : Table (Address × Address) Int
  accrued : Table (Address × Address) Int

def Storage.empty : Storage := ⟨[], 0, ∅, ∅, ∅, ∅, ∅⟩

namespace Storage

variable (store : Storage)

def stakeOf (staker : Address) : Int := store.userStake.read staker

def globalIndex (asset : Address) : Int := store.index.read asset

def userIndexOf (staker asset : Address) : Option Int := store.userIndex.lookup (staker, asset)

def accruedOf (staker asset : Address) : Int := store.accrued.read (staker, asset)

end Storage

abbrev IndexProgram := Program Storage StakeVaultError

variable (staker : Address) (asset : Address)

def addAsset : IndexProgram Unit := do
  let store ← get
  if asset ∈ store.assets then pure ()
  else do
    ensure (store.assets.length < maxIndexAssets) .queueFull
    set { store with assets := store.assets ++ [asset] }

/-- Credit an amount of an asset to all currently participating stake. -/
def notifyReward (amount : Int) : IndexProgram Int := do
  ensure (0 < amount) .invalidAmount
  let store ← get
  ensure (asset ∈ store.assets) .invalidAmount
  ensure (0 < store.totalStake) .noStake
  let num ← orFail ((i128.checkedMul amount indexScale).bind
    (i128.checkedAdd · (store.dust.read asset))) .stakeOverflow
  let inc := num.tdiv store.totalStake
  modify fun store =>
    { store with dust := store.dust.write asset (num.tmod store.totalStake) }
  let newIndex ← orFail (i128.checkedAdd (store.globalIndex asset) inc) .stakeOverflow
  modify fun store => { store with index := store.index.write asset newIndex }
  pure newIndex

def setSnapshot (stake : Int) (asset : Address) : IndexProgram Unit :=
  modify fun store => { store with
    userIndex :=
      if 0 < stake then store.userIndex.insert (staker, asset) (store.globalIndex asset)
      else store.userIndex.erase (staker, asset) }

def creditEarned (stake : Int) (asset : Address) : IndexProgram Unit := do
  let store ← get
  let g := store.globalIndex asset
  let u := (store.userIndexOf staker asset).getD g
  let delta ← orFail (i128.checkedSub g u) .stakeOverflow
  if 0 < stake ∧ 0 < delta then do
    let product ← orFail (i128.checkedMul stake delta) .stakeOverflow
    let acc ← orFail (i128.checkedAdd (store.accruedOf staker asset) (product.tdiv indexScale))
      .stakeOverflow
    modify fun store => { store with accrued := store.accrued.write (staker, asset) acc }
  else pure ()

def checkpointAsset (stake : Int) (asset : Address) : IndexProgram Unit := do
  creditEarned staker stake asset
  setSnapshot staker stake asset

/-- Credit rewards accrued since the last checkpoint and move every asset's snapshot
to the current index, using the recorded participating stake. -/
def checkpoint : IndexProgram Unit := do
  let store ← get
  each (checkpointAsset staker (store.stakeOf staker)) store.assets

/-- Checkpoint, then record the staker's new participating stake. -/
def onStakeChange (newStake : Int) : IndexProgram Unit := do
  checkpoint staker
  let store ← get
  let total ← orFail ((((i128.checkedSub store.totalStake (store.stakeOf staker)).bind
    (i128.checkedAdd · newStake)).filter (0 ≤ ·))) .stakeOverflow
  modify fun store => { store with
    totalStake := total, userStake := store.userStake.write staker newStake }
  each (setSnapshot staker newStake) store.assets

/-- Checkpoint and zero the staker's accrued balance, returning the amount. -/
def takeAccrued : IndexProgram Int := do
  checkpoint staker
  let store ← get
  let amount := store.accruedOf staker asset
  modify fun store => { store with accrued := store.accrued.write (staker, asset) 0 }
  pure amount

/-- Re-credit an amount, such as that of a cancelled queued claim. -/
def creditAccrued (amount : Int) : IndexProgram Unit := do
  let store ← get
  let value ← orFail (i128.checkedAdd (store.accruedOf staker asset) amount) .stakeOverflow
  modify fun store => { store with accrued := store.accrued.write (staker, asset) value }

/-!
The rest of the module says what these programs do to the storage, as functions of
it: settling one asset of a staker, settling several, and recording a new stake.
-/

namespace Storage

variable (store : Storage) (staker : Address) (stake : Int)

variable (asset : Address)

def snapshotOf (staker : Address) : Int :=
  (store.userIndexOf staker asset).getD (store.globalIndex asset)

/-- How far an asset's index has moved since the staker's snapshot. -/
def lag (staker : Address) : Int := store.globalIndex asset - store.snapshotOf asset staker

/-- Every amount that crediting the staker computes fits its type. -/
def Fits : Prop :=
  i128.Holds (store.lag asset staker) ∧
    (0 < stake ∧ 0 < store.lag asset staker →
      i128.Holds (stake * store.lag asset staker) ∧
      i128.Holds (store.accruedOf staker asset +
        (stake * store.lag asset staker).tdiv indexScale))

def credited : Table (Address × Address) Int :=
  if 0 < stake ∧ 0 < store.lag asset staker then
    store.accrued.write (staker, asset) (store.accruedOf staker asset +
      (stake * store.lag asset staker).tdiv indexScale)
  else store.accrued

def snapshotted : Storage :=
  { store with
    userIndex :=
      if 0 < stake then store.userIndex.insert (staker, asset) (store.globalIndex asset)
      else store.userIndex.erase (staker, asset) }

def settledIn : Storage :=
  { store with accrued := store.credited staker stake asset }.snapshotted staker stake asset

/-- Several assets of a staker settled in order. -/
def settled (assets : List Address) : Storage :=
  assets.foldl (fun current asset => current.settledIn staker stake asset) store

variable (assets : List Address)

/-- Several assets of a staker moved to the current index without crediting. -/
def snapshottedAll : Storage :=
  assets.foldl (fun current asset => current.snapshotted staker stake asset) store

/-- A new stake recorded with its total and fresh snapshots. -/
def restaked (total : Int) : Storage :=
  { store with
    totalStake := total
    userStake := store.userStake.write staker stake }.snapshottedAll staker stake store.assets

theorem settled_frame : (store.settled staker stake assets).assets = store.assets ∧
    (store.settled staker stake assets).totalStake = store.totalStake ∧
    (store.settled staker stake assets).index = store.index ∧
    (store.settled staker stake assets).dust = store.dust ∧
    (store.settled staker stake assets).userStake = store.userStake := by
  induction assets generalizing store with
  | nil => exact ⟨rfl, rfl, rfl, rfl, rfl⟩
  | cons asset rest ih =>
    exact ih (store.settledIn staker stake asset)

theorem snapshottedAll_frame : (store.snapshottedAll staker stake assets).assets = store.assets ∧
    (store.snapshottedAll staker stake assets).totalStake = store.totalStake ∧
    (store.snapshottedAll staker stake assets).index = store.index ∧
    (store.snapshottedAll staker stake assets).dust = store.dust ∧
    (store.snapshottedAll staker stake assets).userStake = store.userStake ∧
    (store.snapshottedAll staker stake assets).accrued = store.accrued := by
  induction assets generalizing store with
  | nil => exact ⟨rfl, rfl, rfl, rfl, rfl, rfl⟩
  | cons asset rest ih =>
    exact ih (store.snapshotted staker stake asset)

@[simp] theorem settled_assets : (store.settled staker stake assets).assets = store.assets :=
  (store.settled_frame staker stake assets).1

@[simp] theorem settled_totalStake :
    (store.settled staker stake assets).totalStake = store.totalStake :=
  (store.settled_frame staker stake assets).2.1

@[simp] theorem settled_userStake :
    (store.settled staker stake assets).userStake = store.userStake :=
  (store.settled_frame staker stake assets).2.2.2.2

@[simp] theorem settled_stakeOf (other : Address) :
    (store.settled staker stake assets).stakeOf other = store.stakeOf other := by
  simp [stakeOf]

@[simp] theorem restaked_totalStake (total : Int) :
    (store.restaked staker stake total).totalStake = total :=
  (snapshottedAll_frame _ staker stake store.assets).2.1

@[simp] theorem restaked_userStake (total : Int) :
    (store.restaked staker stake total).userStake = store.userStake.write staker stake :=
  (snapshottedAll_frame _ staker stake store.assets).2.2.2.2.1

end Storage

section Specifications

variable (staker asset : Address) (stake : Int) (pre : Storage)

theorem addAsset_spec : wlp (addAsset asset) (fun _ after => after = pre ∧ asset ∈ pre.assets ∨
      asset ∉ pre.assets ∧ after = { pre with assets := pre.assets ++ [asset] })
      pre := by
  simp only [addAsset, wlp_rules, wp_ite]
  exact ⟨fun listed => Or.inl ⟨trivial, listed⟩, fun unlisted _ => Or.inr unlisted⟩

/-- A funding moves the index by its quotient over the total stake and carries the
remainder. -/
theorem notifyReward_spec (amount : Int) : wlp (notifyReward asset amount) (fun _ after =>
      0 < amount ∧ asset ∈ pre.assets ∧ 0 < pre.totalStake ∧
      ∃ num, num = amount * indexScale + pre.dust.read asset ∧
        after = { pre with
          dust := pre.dust.write asset (num.tmod pre.totalStake)
          index := pre.index.write asset
            (pre.globalIndex asset + num.tdiv pre.totalStake) }) pre := by
  simp only [notifyReward, wlp_rules, Option.bind_eq_some_iff, checkedMul, checkedAdd,
    checked_eq_some]
  rintro pos listed staked num ⟨_, ⟨_, rfl⟩, _, rfl⟩ _ ⟨_, rfl⟩
  exact ⟨pos, listed, staked, _, rfl, rfl⟩

theorem creditEarned_spec : wp (creditEarned staker stake asset)
      (fun _ after => pre.Fits staker stake asset ∧
        after = { pre with accrued := pre.credited staker stake asset })
      (fun fault after => fault = .error .stakeOverflow ∧ after = pre ∧
        ¬ pre.Fits staker stake asset) pre := by
  have delta : pre.globalIndex asset -
    (pre.userIndexOf staker asset).getD (pre.globalIndex asset) = pre.lag asset staker := rfl
  simp only [creditEarned, wp_bind, wp_get, wp_ite, wp_modify, wp_pure, checkedSub,
    checkedMul, checkedAdd, wp_orFail_checked, delta, Storage.Fits, Storage.credited,
    true_and]
  refine ⟨fun lagHolds => ⟨fun earns => ⟨fun product => ⟨fun sum => ?_, fun excess => ?_⟩,
    fun excess => ?_⟩, fun idle => ?_⟩, fun excess => ?_⟩
  · exact ⟨⟨lagHolds, fun _ => ⟨product, sum⟩⟩, by rw [if_pos earns]⟩
  · exact fun fits => excess (fits.2 earns).2
  · exact fun fits => excess (fits.2 earns).1
  · exact ⟨⟨lagHolds, fun earns => absurd earns idle⟩, by rw [if_neg idle]⟩
  · exact fun fits => excess fits.1

theorem checkpointAsset_spec : wp (checkpointAsset staker stake asset)
      (fun _ after => pre.Fits staker stake asset ∧ after = pre.settledIn staker stake asset)
      (fun fault after => fault = .error .stakeOverflow ∧ after = pre ∧
        ¬ pre.Fits staker stake asset) pre := by
  simp only [checkpointAsset, wp_bind]
  refine wp_mono (creditEarned_spec staker asset stake pre) ?_ fun _ _ stopped => stopped
  rintro _ _ ⟨fits, rfl⟩
  exact ⟨fits, rfl⟩

/-- A checkpoint settles every registered asset, or stops at one whose amounts do
not fit with the assets before it settled. -/
theorem checkpoint_spec : wp (checkpoint staker)
      (fun _ after => after = pre.settled staker (pre.stakeOf staker) pre.assets)
      (fun fault after => fault = .error .stakeOverflow ∧ ∃ done asset, asset ∈ pre.assets ∧
        after = pre.settled staker (pre.stakeOf staker) done ∧
        ¬ after.Fits staker (pre.stakeOf staker) asset) pre := by
  simp only [checkpoint, wp_rules]
  refine each_rule (fun done store =>
    store = pre.settled staker (pre.stakeOf staker) done) pre.assets [] ?_ pre rfl
  rintro done asset _ mem rfl
  refine wp_mono (checkpointAsset_spec staker asset _ _) ?_ ?_
  · rintro _ _ ⟨_, rfl⟩
    simp [Storage.settled]
  · rintro _ _ ⟨rfl, rfl, misfit⟩
    exact ⟨rfl, done, asset, mem, rfl, misfit⟩

theorem snapshots_spec (assets : List Address) (fault : Fault StakeVaultError → Storage → Prop) :
    wp (each (setSnapshot staker stake) assets)
      (fun _ after => after = pre.snapshottedAll staker stake assets) fault pre := by
  refine each_rule (fun done store =>
    store = pre.snapshottedAll staker stake done) assets [] ?_ pre rfl
  rintro done asset _ _ rfl
  simp only [setSnapshot, wp_modify, Storage.snapshottedAll, List.foldl_append, List.foldl_cons,
    List.foldl_nil]
  rfl

/-- The total that a stake change computes, each step of it within its type. -/
def TotalFits (newStake : Int) : Prop :=
  i128.Holds (pre.totalStake - pre.stakeOf staker) ∧
    i128.Holds (pre.totalStake - pre.stakeOf staker + newStake) ∧
    0 ≤ pre.totalStake - pre.stakeOf staker + newStake

/-- A stake change settles the staker and then records the new stake with its exact
total. It stops at an asset whose amounts do not fit, or at a total that does not,
and then only settled assets of the staker remain. -/
theorem onStakeChange_spec (newStake : Int) : wp (onStakeChange staker newStake)
      (fun _ after => TotalFits staker pre newStake ∧
        after = (pre.settled staker (pre.stakeOf staker) pre.assets).restaked staker newStake
          (pre.totalStake - pre.stakeOf staker + newStake))
      (fun fault after => fault = .error .stakeOverflow ∧
        (∃ done, after = pre.settled staker (pre.stakeOf staker) done) ∧
        ((∃ asset ∈ pre.assets, ¬ after.Fits staker (pre.stakeOf staker) asset) ∨
          ¬ TotalFits staker pre newStake)) pre := by
  simp only [onStakeChange, wp_bind]
  refine wp_mono (checkpoint_spec staker pre) ?_ ?_
  · rintro _ checkpointed rfl
    simp only [wp_rules, Storage.settled_totalStake, Storage.settled_stakeOf, true_and]
    refine ⟨?_, fun misfit => ⟨⟨_, rfl⟩, Or.inr ?_⟩⟩
    · intro total computed
      simp only [Option.filter_eq_some_iff, Option.bind_eq_some_iff, checkedSub,
        checkedAdd, checked_eq_some, decide_eq_true_eq] at computed
      obtain ⟨⟨_, ⟨difference, rfl⟩, sum, rfl⟩, nonneg⟩ := computed
      refine wp_mono (snapshots_spec staker newStake _ _ _) ?_ fun _ _ stopped => stopped
      rintro _ _ rfl
      exact ⟨⟨difference, sum, nonneg⟩, rfl⟩
    · rintro ⟨difference, sum, nonneg⟩
      simp [checkedSub, checkedAdd, checked, difference, sum] at misfit
      omega
  · rintro _ after ⟨rfl, done, asset, mem, rfl, misfit⟩
    exact ⟨rfl, ⟨done, rfl⟩, Or.inl ⟨asset, mem, misfit⟩⟩

theorem takeAccrued_spec : wp (takeAccrued staker asset) (fun amount after => ∃ checkpointed,
        checkpointed = pre.settled staker (pre.stakeOf staker) pre.assets ∧
        amount = checkpointed.accruedOf staker asset ∧
        after = { checkpointed with accrued := checkpointed.accrued.write (staker, asset) 0 })
      (fun fault _ => fault = .error .stakeOverflow) pre := by
  simp only [takeAccrued, wp_bind]
  refine wp_mono (checkpoint_spec staker pre) ?_ fun _ _ stopped => stopped.1
  rintro _ _ rfl
  exact ⟨_, rfl, rfl, rfl⟩

theorem creditAccrued_spec (amount : Int) : wlp (creditAccrued staker asset amount)
      (fun _ after => after = { pre with
        accrued := pre.accrued.write (staker, asset) (pre.accruedOf staker asset + amount) })
      pre := by
  simp only [creditAccrued, wp_bind, wp_get, checkedAdd, wp_orFail_checked, wp_modify,
    implies_true, and_true]

end Specifications

end StellarSwipe.StakeVault.RewardIndex
