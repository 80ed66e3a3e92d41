import StellarSwipe.StakeVault.IndexRuns

/-!
# Fairness of index rewards

A staker earns its recorded stake times every increment of an asset's index.
-/

namespace StellarSwipe.StakeVault.RewardIndex

open Program FixedWidth Runs Table Operation List

namespace Storage

variable (store : Storage) (staker asset : Address)

/-- What a staker has of an asset, in scaled units: credited or not yet settled. -/
def standing : Int :=
  indexScale * store.accruedOf staker asset +
    store.stakeOf staker * store.lag asset staker

end Storage

variable (operation : Operation) (staker : Address)

def Operation.checkpoints : Bool :=
  match operation with
  | .onStakeChange user _ | .attemptStakeChange user _ | .takeAccrued user _ => user = staker
  | _ => false

variable (asset : Address)

/-- What an operation takes out of a staker's accrued balance of an asset; a credit takes
a negative amount. -/
def Operation.takes (store : Storage) : Int :=
  match operation with
  | .takeAccrued user token =>
    if user = staker ∧ token = asset then
      match RewardIndex.takeAccrued user token store with
      | .ok amount _ => amount
      | .error _ _ => 0
    else 0
  | .creditAccrued user token amount =>
    if user = staker ∧ token = asset ∧ accepted (RewardIndex.creditAccrued user token amount) store
    then -amount else 0
  | _ => 0

/-- What a step entitles a staker to: its stake times the step's index increment. -/
def entitledBy (pre after : Storage) : Int :=
  pre.stakeOf staker * (after.globalIndex asset - pre.globalIndex asset)

/-- The part of it that no checkpoint will credit. -/
def missedBy (pre after : Storage) : Int :=
  if pre.userIndexOf staker asset = none then entitledBy staker asset pre after else 0

section Settled

variable {store : Storage} {user : Address} {stake : Int}

theorem accruedOf_settledIn (coherent : Coherent store) (nonneg : 0 ≤ stake)
    (token staker asset : Address) : (store.settledIn user stake token).accruedOf staker asset =
      store.accruedOf staker asset +
        if asset = token ∧ staker = user then earnedUnits stake (store.lag asset staker) else 0 := by
  have lag := coherent.lag_nonneg token user
  have floor : (stake * store.lag token user).tdiv indexScale =
      earnedUnits stake (store.lag token user) := tdiv_eq_floor (Int.mul_nonneg nonneg lag)
  have credited : (store.settledIn user stake token).accruedOf staker asset =
    (store.credited user stake token).read (staker, asset) := rfl
  rw [credited, Storage.credited]
  by_cases earns : 0 < stake ∧ 0 < store.lag token user
  · rw [if_pos earns, read_write, floor]
    by_cases same : asset = token ∧ staker = user
    · obtain ⟨rfl, rfl⟩ := same
      rw [if_pos rfl, if_pos ⟨rfl, rfl⟩]
    · rw [if_neg same, if_neg fun pair => same ⟨(Prod.mk.inj pair).2, (Prod.mk.inj pair).1⟩]
      rw [Int.add_zero]
      rfl
  · have nothing : earnedUnits stake (store.lag token user) = 0 := by
      rcases Classical.not_and_iff_not_or_not.mp earns with unstaked | current
      · rw [show stake = 0 by omega, earnedUnits, Int.zero_mul, Int.zero_ediv]
      · rw [show store.lag token user = 0 by omega, earnedUnits, Int.mul_zero, Int.zero_ediv]
    rw [if_neg earns]
    split
    next same =>
      obtain ⟨rfl, rfl⟩ := same
      rw [nothing, Int.add_zero]
      rfl
    next => exact (Int.add_zero _).symm

theorem lag_settledIn (token staker asset : Address) :
    (store.settledIn user stake token).lag asset staker =
      if asset = token ∧ staker = user then 0 else store.lag asset staker := by
  have same : (store.settledIn user stake token).globalIndex asset =
    store.globalIndex asset := rfl
  rw [Storage.lag, snapshotOf_settledIn, same]
  split
  · exact Int.sub_self _
  · rfl

/-- Settling several assets credits each of them once, however often it is listed: after
the first time nothing is left to earn. -/
theorem accruedOf_settled (coherent : Coherent store) (user staker asset : Address)
    (assets : List Address) :
    (store.settled user (store.stakeOf user) assets).accruedOf staker asset =
      store.accruedOf staker asset + if asset ∈ assets ∧ staker = user then
          earnedUnits (store.stakeOf user) (store.lag asset staker) else 0 := by
  induction assets generalizing store with
  | nil => simp [Storage.settled]
  | cons token rest ih =>
    have nonneg := (coherent.balanced.stakeOf_bounds user).1
    have later := ih (coherent.settledIn user token).coherent
    have stakes : (store.settledIn user (store.stakeOf user) token).stakeOf user =
      store.stakeOf user := rfl
    have idle : earnedUnits (store.stakeOf user) 0 = 0 := by simp [earnedUnits]
    rw [stakes, accruedOf_settledIn coherent nonneg, lag_settledIn] at later
    rw [Storage.settled, foldl_cons, ← Storage.settled, later]
    by_cases same : asset = token ∧ staker = user
    · simp [same, idle]
    · by_cases listed : asset ∈ rest ∧ staker = user
      · rw [if_neg same, if_neg same, if_pos listed, if_pos ⟨mem_cons_of_mem _ listed.1, listed.2⟩,
          Int.add_zero]
      · have other : ¬ (asset ∈ token :: rest ∧ staker = user) := by
          rintro ⟨mem, settled⟩
          rcases List.mem_cons.mp mem with head | tail
          · exact same ⟨head, settled⟩
          · exact listed ⟨tail, settled⟩
        rw [if_neg same, if_neg listed, if_neg other, Int.add_zero]

theorem lag_settled (user staker asset : Address) (assets : List Address) :
    (store.settled user stake assets).lag asset staker =
      if asset ∈ assets ∧ staker = user then 0 else store.lag asset staker := by
  have same : (store.settled user stake assets).globalIndex asset = store.globalIndex asset := by
    rw [Storage.globalIndex, (store.settled_frame user stake assets).2.2.1]
    rfl
  rw [Storage.lag, snapshotOf_settled, same]
  split
  · exact Int.sub_self _
  · rfl

/-- Settling a staker moves its standing from earned to credited and rounds off less than one unit.
-/
theorem Coherent.standing_settled (coherent : Coherent store) (user staker asset : Address)
    (assets : List Address) :
    (store.settled user (store.stakeOf user) assets).standing staker asset ≤
        store.standing staker asset ∧ store.standing staker asset ≤
        (store.settled user (store.stakeOf user) assets).standing staker asset +
          (indexScale - 1) * ((if user = staker then 1 else 0 : Nat) : Int) := by
  have units := Accumulator.credited_bounds (by decide : 0 < indexScale)
    (store.stakeOf user * store.lag asset staker)
  simp only [Storage.standing, accruedOf_settled coherent, lag_settled, Storage.settled_stakeOf]
  by_cases settled : asset ∈ assets ∧ staker = user
  · obtain ⟨listed, rfl⟩ := settled
    simp only [listed, earnedUnits, and_self, if_true, Int.mul_zero, Int.add_zero, Int.mul_add]
    omega
  · simp only [if_neg settled, Int.add_zero, le_refl, true_and]
    split <;> simp [indexScale]

end Settled

/-- A step's account for one staker and asset: what it entitles the staker to and does not
miss goes to the staker's standing or is taken out of it, up to less than one unit when
the step is a checkpoint. -/
structure Shares (staker asset : Address) (pre after : Storage) (taken : Int) (rounds : Nat) :
    Prop where
  coherent : Coherent after
  above : after.standing staker asset + indexScale * taken + missedBy staker asset pre after ≤
    pre.standing staker asset + entitledBy staker asset pre after
  below : pre.standing staker asset + entitledBy staker asset pre after ≤
    after.standing staker asset + indexScale * taken + missedBy staker asset pre after +
      (indexScale - 1) * rounds

section Steps

variable {pre after : Storage} {staker asset : Address}

/-- While the index of the asset stays there is nothing to be entitled to. -/
theorem Shares.of_unmoved {taken : Int} {rounds : Nat} (coherent : Coherent after)
    (unmoved : after.globalIndex asset = pre.globalIndex asset)
    (above : after.standing staker asset + indexScale * taken ≤ pre.standing staker asset)
    (below : pre.standing staker asset ≤
      after.standing staker asset + indexScale * taken + (indexScale - 1) * rounds) :
    Shares staker asset pre after taken rounds := by
  have nothing : entitledBy staker asset pre after = 0 := by
    rw [entitledBy, unmoved, Int.sub_self, Int.mul_zero]
  have missed : missedBy staker asset pre after = 0 := by
    rw [missedBy, nothing, ite_self]
  constructor
  case coherent => exact coherent
  case above => omega
  case below => omega

theorem Shares.refl (coherent : Coherent pre) : Shares staker asset pre pre 0 0 :=
  .of_unmoved coherent rfl (by omega) (by omega)

variable {stake : Int}

theorem onStakeChange_index {user : Address} :
    wp (onStakeChange user stake) (fun _ after => after.index = pre.index)
      (fun _ after => after.index = pre.index) pre := by
  refine wp_mono (onStakeChange_spec user pre stake) ?_ ?_
  · rintro _ _ ⟨_, rfl⟩
    exact (restaked_frame _ user stake _).1.trans (pre.settled_frame user _ pre.assets).2.2.1
  · rintro _ _ ⟨_, ⟨done, rfl⟩, _⟩
    exact (pre.settled_frame user _ done).2.2.1

variable {user token : Address}

theorem takeAccrued_index :
    wlp (takeAccrued user token) (fun _ after => after.index = pre.index) pre := by
  refine wp_then (takeAccrued_spec user token pre) ?_
  rintro _ _ ⟨_, rfl, _, rfl⟩
  exact (pre.settled_frame user _ pre.assets).2.2.1

theorem globalIndex_of_index (same : after.index = pre.index) (asset : Address) :
    after.globalIndex asset = pre.globalIndex asset := by
  rw [Storage.globalIndex, same]
  rfl

/-- A stake change is a checkpoint of its staker; the new stake is recorded when there is
nothing left to settle. -/
theorem onStakeChange_shares (coherent : Coherent pre) {user : Address} (nonneg : 0 ≤ stake)
    (changed : onStakeChange user stake pre = .ok () after) :
    Shares staker asset pre after 0 (if user = staker then 1 else 0) := by
  have conserves := onStakeChange_conserves coherent nonneg changed
  have unmoved := globalIndex_of_index (wp_ok onStakeChange_index changed) asset
  obtain ⟨_, rfl⟩ := wp_ok (onStakeChange_spec user pre stake) changed
  have settled := coherent.standing_settled user staker asset pre.assets
  have current := coherent.settled_current user asset
  generalize pre.settled user (pre.stakeOf user) pre.assets = middle at *
  generalize pre.totalStake - pre.stakeOf user + stake = total at *
  obtain ⟨index, _, accrued⟩ := restaked_frame middle user stake total
  have lag : (middle.restaked user stake total).lag asset staker = middle.lag asset staker := by
    rw [Storage.lag, snapshotOf_restaked current, Storage.globalIndex, index]
    rfl
  have standing : (middle.restaked user stake total).standing staker asset =
      middle.standing staker asset := by
    simp only [Storage.standing, Storage.accruedOf, accrued, lag, Storage.stakeOf,
      Storage.restaked_userStake, read_write]
    split
    next same =>
      have still : middle.lag asset staker = 0 := by rw [same, Storage.lag, current, Int.sub_self]
      rw [still, Int.mul_zero, Int.mul_zero]
    next => rfl
  refine .of_unmoved conserves.coherent unmoved ?_ ?_
  · rw [standing]
    omega
  · rw [standing]
    omega

theorem onStakeChange_stopped_shares (coherent : Coherent pre) {user : Address}
    {fault : Fault StakeVaultError} (stopped : onStakeChange user stake pre = .error fault after) :
    Shares staker asset pre after 0 (if user = staker then 1 else 0) := by
  have conserves := onStakeChange_stopped_conserves coherent stopped
  have unmoved := globalIndex_of_index (wp_error onStakeChange_index stopped) asset
  obtain ⟨_, ⟨done, rfl⟩, _⟩ := wp_error (onStakeChange_spec user pre stake) stopped
  have settled := coherent.standing_settled user staker asset done
  exact .of_unmoved conserves.coherent unmoved (by omega) (by omega)

theorem addAsset_shares (coherent : Coherent pre) {token : Address}
    (added : addAsset token pre = .ok () after) : Shares staker asset pre after 0 0 := by
  have conserves := addAsset_conserves coherent added
  rcases wp_ok (addAsset_spec token pre) added with ⟨rfl, _⟩ | ⟨_, rfl⟩
  · exact .refl coherent
  · have same : Storage.standing { pre with assets := pre.assets ++ [token] } staker asset =
      pre.standing staker asset := rfl
    exact .of_unmoved conserves.coherent rfl (by omega) (by omega)

/-- A funding adds its increment to the standing of every staker that has a snapshot. -/
theorem notifyReward_shares (coherent : Coherent pre) {token : Address} {amount value : Int}
    (notified : notifyReward token amount pre = .ok value after) :
    Shares staker asset pre after 0 0 := by
  have conserves := notifyReward_conserves coherent notified
  obtain ⟨_, _, _, num, _, rfl⟩ := wp_ok (notifyReward_spec token pre amount) notified
  generalize num.tmod pre.totalStake = remainder at *
  generalize num.tdiv pre.totalStake = rise at *
  have raised : ({ pre with
      dust := pre.dust.write token remainder
      index := pre.index.write token (pre.globalIndex token + rise) } : Storage) =
    pre.raisedBy token rise remainder := rfl
  rw [raised] at conserves ⊢
  have stakes : (pre.raisedBy token rise remainder).stakeOf staker = pre.stakeOf staker := rfl
  have accrued : (pre.raisedBy token rise remainder).accruedOf staker asset =
    pre.accruedOf staker asset := rfl
  have exact : (pre.raisedBy token rise remainder).standing staker asset +
      missedBy staker asset pre (pre.raisedBy token rise remainder) =
      pre.standing staker asset +
        entitledBy staker asset pre (pre.raisedBy token rise remainder) := by
    simp only [Storage.standing, Storage.lag, stakes, accrued, missedBy, entitledBy,
      globalIndex_raisedBy, snapshotOf_raisedBy]
    split <;> ring
  constructor
  case coherent => exact conserves.coherent
  case above => omega
  case below => omega

theorem standing_accruing (store : Storage) (staker asset user token : Address) (change : Int) :
    (store.accruing user token change).standing staker asset = store.standing staker asset +
        indexScale * if user = staker ∧ token = asset then change else 0 := by
  have stakes : (store.accruing user token change).stakeOf staker = store.stakeOf staker := rfl
  have lag : (store.accruing user token change).lag asset staker = store.lag asset staker := rfl
  have accrued : (store.accruing user token change).accruedOf staker asset =
      store.accruedOf staker asset + if user = staker ∧ token = asset then change else 0 := by
    simp only [Storage.accruing, Storage.accruedOf, read_write, Prod.mk.injEq]
    by_cases same : user = staker ∧ token = asset
    · rw [if_pos same, if_pos ⟨same.1.symm, same.2.symm⟩, same.1, same.2]
    · rw [if_neg same, if_neg fun other => same ⟨other.1.symm, other.2.symm⟩, Int.add_zero]
  simp only [Storage.standing, stakes, lag, accrued]
  ring

/-- A claim is a checkpoint of the claimant and takes what it returns. -/
theorem takeAccrued_shares (coherent : Coherent pre) {amount : Int}
    (taken : takeAccrued user token pre = .ok amount after) :
    Shares staker asset pre after (if user = staker ∧ token = asset then amount else 0)
      (if user = staker then 1 else 0) := by
  have conserves := takeAccrued_conserves coherent taken
  have unmoved := globalIndex_of_index (wp_ok takeAccrued_index taken) asset
  obtain ⟨_, rfl, rfl, rfl⟩ := wp_ok (takeAccrued_spec user token pre) taken
  have settled := coherent.standing_settled user staker asset pre.assets
  generalize pre.settled user (pre.stakeOf user) pre.assets = middle at *
  have emptied : ({ middle with accrued := middle.accrued.write (user, token) 0 } : Storage) =
      middle.accruing user token (-middle.accruedOf user token) := by
    rw [Storage.accruing, Int.add_right_neg]
  have standing := standing_accruing middle staker asset user token
    (-middle.accruedOf user token)
  rw [emptied] at conserves unmoved ⊢
  refine .of_unmoved conserves.coherent unmoved ?_ ?_
  · rw [standing]
    split <;> simp only [Int.mul_neg, Int.mul_zero] <;> omega
  · rw [standing]
    split <;> simp only [Int.mul_neg, Int.mul_zero] <;> omega

theorem creditAccrued_shares (coherent : Coherent pre) {amount : Int}
    (credited : creditAccrued user token amount pre = .ok () after) :
    Shares staker asset pre after (if user = staker ∧ token = asset then -amount else 0) 0 := by
  have conserves := creditAccrued_conserves coherent credited
  cases wp_ok (creditAccrued_spec user token pre amount) credited
  have standing := standing_accruing pre staker asset user token amount
  have added : ({ pre with
      accrued := pre.accrued.write (user, token) (pre.accruedOf user token + amount) } :
        Storage) = pre.accruing user token amount := rfl
  rw [added] at conserves ⊢
  refine .of_unmoved conserves.coherent rfl ?_ ?_
  · rw [standing]
    split <;> simp only [Int.mul_neg, Int.mul_zero] <;> omega
  · rw [standing]
    split <;> simp only [Int.mul_neg, Int.mul_zero] <;> omega

theorem operate_globalIndex (store : Storage) {operation : Operation} {asset : Address}
    (other : ∀ amount, operation ≠ .notifyReward asset amount) :
    (operate operation store).globalIndex asset = store.globalIndex asset := by
  rcases operate_cases operation store with gave | ⟨_, same⟩
  · cases operation with
    | addAsset token =>
      rcases wp_ok (addAsset_spec token store) gave with ⟨same, _⟩ | ⟨_, listed⟩
      · rw [same]
      · rw [listed]
        rfl
    | notifyReward token amount =>
      obtain ⟨_, notified⟩ := returned_of_discard gave
      obtain ⟨_, _, _, num, _, raised⟩ := wp_ok (notifyReward_spec token store amount) notified
      have different : asset ≠ token := fun same => other amount (same ▸ rfl)
      rw [raised]
      simp only [Storage.globalIndex, read_write, if_neg different]
    | onStakeChange => exact globalIndex_of_index (wp_ok onStakeChange_index gave) asset
    | attemptStakeChange user newStake =>
      rcases operate_attemptStakeChange store user newStake with changed | stopped
      · exact globalIndex_of_index (wp_ok onStakeChange_index changed) asset
      · exact globalIndex_of_index (wp_error onStakeChange_index stopped) asset
    | takeAccrued =>
      obtain ⟨_, taken⟩ := returned_of_discard gave
      exact globalIndex_of_index (wp_ok takeAccrued_index taken) asset
    | creditAccrued user token amount =>
      have credited := wp_ok (creditAccrued_spec user token store amount) gave
      rw [credited]
      rfl
  · rw [same]

/-- Every operation keeps the account. The cases are the operations. -/
theorem operate_shares (coherent : Coherent pre) (staker asset : Address) (operation : Operation) :
    Shares staker asset pre (operate operation pre) (operation.takes staker asset pre)
      (if operation.checkpoints staker && accepted operation.program pre then 1 else 0) := by
  rcases operate_cases operation pre with gave | ⟨rejected, same⟩
  · have returns : accepted operation.program pre = true :=
      (accepted_iff _ _).mpr ⟨_, _, gave⟩
    rw [returns]
    generalize reached : operate operation pre = after at gave
    cases operation with
    | addAsset token => exact addAsset_shares coherent gave
    | notifyReward token amount =>
      obtain ⟨_, notified⟩ := returned_of_discard gave
      exact notifyReward_shares coherent notified
    | onStakeChange user newStake =>
      have shares : Shares staker asset pre after 0 (if user = staker then 1 else 0) :=
        onStakeChange_shares coherent (Int.natCast_nonneg newStake) gave
      simpa [checkpoints, Operation.takes] using shares
    | attemptStakeChange user newStake =>
      have shares : Shares staker asset pre after 0 (if user = staker then 1 else 0) := by
        rcases operate_attemptStakeChange pre user newStake with changed | stopped
        · rw [reached] at changed
          exact onStakeChange_shares coherent (Int.natCast_nonneg newStake) changed
        · rw [reached] at stopped
          exact onStakeChange_stopped_shares coherent stopped
      simpa [checkpoints, Operation.takes] using shares
    | takeAccrued user token =>
      obtain ⟨amount, taken⟩ := returned_of_discard gave
      have shares : Shares staker asset pre after
          (if user = staker ∧ token = asset then amount else 0) (if user = staker then 1 else 0) :=
        takeAccrued_shares coherent taken
      simpa [checkpoints, Operation.takes, taken] using shares
    | creditAccrued user token amount =>
      have shares : Shares staker asset pre after
          (if user = staker ∧ token = asset then -amount else 0) 0 :=
        creditAccrued_shares coherent gave
      have credits : accepted (RewardIndex.creditAccrued user token amount) pre = true := returns
      simpa [checkpoints, Operation.takes, credits] using shares
  · have returns : accepted operation.program pre = false := by
      rw [← Bool.not_eq_true]
      exact fun accepts => rejected ((accepted_iff _ _).mp accepts)
    have nothing : operation.takes staker asset pre = 0 := by
      cases operation with
      | takeAccrued user token =>
        cases ran : RewardIndex.takeAccrued user token pre with
        | ok amount after => exact absurd (accepts_discard.mpr ⟨amount, after, ran⟩) rejected
        | error fault after => simp [Operation.takes, ran]
      | creditAccrued user token amount =>
        have refused : accepted (RewardIndex.creditAccrued user token amount) pre = false :=
          returns
        simp [Operation.takes, refused]
      | _ => rfl
    rw [same, returns, nothing, Bool.and_false]
    exact .refl coherent

end Steps

variable (run : List (Transition Storage Operation))

def entitledAlong : Int :=
  (run.map fun taken => entitledBy staker asset taken.pre taken.after).sum

def missedAlong : Int :=
  (run.map fun taken => missedBy staker asset taken.pre taken.after).sum

/-- What a staker has taken of an asset along a run, less what it was given back. -/
def takenAlong : Int :=
  (run.map fun taken => taken.input.takes staker asset taken.pre).sum

def checkpointsAlong : Nat :=
  run.countP fun taken => taken.input.checkpoints staker && accepted taken.input.program taken.pre

section Along

variable (staker asset : Address)

/-- Along a run: the entitlement is what has been taken, what stands and what was missed,
up to what the checkpoints rounded off. -/
structure Split (run : List (Transition Storage Operation)) (store : Storage) : Prop where
  coherent : Coherent store
  above : store.standing staker asset + indexScale * takenAlong staker asset run +
    missedAlong staker asset run ≤ entitledAlong staker asset run
  below : entitledAlong staker asset run ≤ store.standing staker asset +
    indexScale * takenAlong staker asset run + missedAlong staker asset run +
      (indexScale - 1) * checkpointsAlong staker run

theorem split_empty : Split staker asset [] .empty := by
  have nothing : Storage.empty.standing staker asset = 0 := by rfl
  constructor
  case coherent => exact coherent_empty
  case above => simp [nothing, entitledAlong, missedAlong, takenAlong]
  case below => simp [nothing, entitledAlong, missedAlong, takenAlong, checkpointsAlong]

variable {staker asset}

theorem split_step {run : List (Transition Storage Operation)} {store : Storage}
    (operation : Operation) (split : Split staker asset run store) :
    Split staker asset (run ++ [⟨store, operation, operate operation store⟩])
      (operate operation store) := by
  have shares := operate_shares split.coherent staker asset operation
  have above := split.above
  have below := split.below
  have shareAbove := shares.above
  have shareBelow := shares.below
  constructor
  case coherent => exact shares.coherent
  case above =>
    simp only [entitledAlong, missedAlong, takenAlong, map_append, map_cons, map_nil,
      sum_append, sum_cons, sum_nil, Int.add_zero, Int.mul_add] at above ⊢
    omega
  case below =>
    simp only [entitledAlong, missedAlong, takenAlong, checkpointsAlong, countP_append,
      countP_singleton, map_append, map_cons, map_nil, sum_append,
      sum_cons, sum_nil, Int.add_zero, Int.mul_add, Nat.cast_add] at below ⊢
    omega

variable (staker asset)

/-- The split holds along every run. -/
theorem entitlement_split (operations : List Operation) :
    Split staker asset (trace operate .empty operations) (final operate .empty operations) :=
  history_invariant operate (Split staker asset) (fun _ _ => True)
    (fun _ _ operation _ split => split_step operation split) .empty (split_empty staker asset)
    operations fun _ _ => trivial

end Along

section Checkpointing

variable {store after : Storage} {staker : Address}

/-- Settling some assets leaves every other asset as fit as it was, and the settled ones
have nothing left to compute. -/
theorem fits_settled (coherent : Coherent store) {asset : Address} {stake : Int}
    (same : stake = store.stakeOf staker) (fits : store.Fits staker stake asset)
    (done : List Address) : (store.settled staker stake done).Fits staker stake asset := by
  subst same
  simp only [Storage.Fits, lag_settled, accruedOf_settled coherent]
  by_cases listed : asset ∈ done
  · simp [listed, Range.Holds]
  · simp only [listed, false_and, if_false, Int.add_zero]
    exact fits

/-- A checkpoint returns exactly when every amount it computes fits. -/
theorem checkpoint_returns (coherent : Coherent store)
    (fits : ∀ token ∈ store.assets, store.Fits staker (store.stakeOf staker) token) :
    ∃ after, checkpoint staker store = .ok () after := by
  cases ran : checkpoint staker store with
  | ok _ after => exact ⟨after, rfl⟩
  | error fault after =>
    obtain ⟨_, done, token, listed, rfl, misfit⟩ := wp_error (checkpoint_spec staker store) ran
    exact absurd (fits_settled coherent rfl (fits token listed) done) misfit

theorem standing_checkpointed (coherent : Coherent store) (asset : Address)
    (checkpointed : checkpoint staker store = .ok () after) :
    after.standing staker asset = indexScale * after.accruedOf staker asset := by
  cases wp_ok (checkpoint_spec staker store) checkpointed
  have current := coherent.settled_current staker asset
  rw [Storage.standing, Storage.lag, current, Int.sub_self, Int.mul_zero, Int.add_zero]

end Checkpointing

/-- The condition on a funding of an asset: a staker with a stake has a snapshot for it. -/
def Operation.Snapshotted (store : Storage) : Prop :=
  match operation with
  | .notifyReward token amount => token = asset → 0 < amount → asset ∈ store.assets →
    0 < store.stakeOf staker → store.userIndexOf staker asset ≠ none
  | _ => True

/-- A step that meets the condition misses nothing. -/
theorem missedBy_of_snapshotted {pre : Storage} (coherent : Coherent pre)
    {staker asset : Address} {operation : Operation}
    (snapshotted : operation.Snapshotted staker asset pre) :
    missedBy staker asset pre (operate operation pre) = 0 := by
  rw [missedBy, ite_eq_right_iff]
  intro missing
  by_cases moved : ∃ amount, operation = .notifyReward asset amount
  · obtain ⟨amount, rfl⟩ := moved
    rcases operate_cases (.notifyReward asset amount) pre with gave | ⟨_, same⟩
    · obtain ⟨_, notified⟩ := returned_of_discard gave
      obtain ⟨pos, listed, _⟩ := wp_ok (notifyReward_spec asset pre amount) notified
      have nonneg := (coherent.balanced.stakeOf_bounds staker).1
      have idle : ¬ 0 < pre.stakeOf staker := fun staked =>
        snapshotted rfl pos listed staked missing
      rw [entitledBy, show pre.stakeOf staker = 0 by omega, Int.zero_mul]
    · rw [same, entitledBy, Int.sub_self, Int.mul_zero]
  · have unmoved := operate_globalIndex pre fun amount same => moved ⟨amount, same⟩
    rw [entitledBy, unmoved, Int.sub_self, Int.mul_zero]

theorem missedAlong_of_snapshotted (operations : List Operation)
    (snapshotted : ∀ taken ∈ trace operate .empty operations,
      taken.input.Snapshotted staker asset taken.pre) :
    missedAlong staker asset (trace operate .empty operations) = 0 := by
  apply sum_eq_zero
  intro missed mem
  obtain ⟨taken, inside, rfl⟩ := List.mem_map.mp mem
  rw [transition_is_step operate .empty operations taken inside]
  refine missedBy_of_snapshotted ?_ (snapshotted taken inside)
  exact (transition_invariant operate Coherent (fun _ _ => True)
    (fun _ operation _ coherent => (operate_shares coherent staker asset operation).coherent)
    .empty coherent_empty operations (fun _ _ => trivial) taken inside).1

/-- In every run in which each funding of the asset finds a snapshot of the staker while
it has a stake: a checkpoint of the staker returns whenever its amounts fit, and once
it has returned, everything that the staker was entitled to has been credited or taken,
up to less than one unit for each checkpoint. -/
theorem rewards_fair (staker asset : Address) (operations : List Operation)
    (snapshotted : ∀ taken ∈ trace operate .empty operations,
      taken.input.Snapshotted staker asset taken.pre) :
    ((∀ token ∈ (final operate .empty operations).assets,
        (final operate .empty operations).Fits staker
          ((final operate .empty operations).stakeOf staker) token) →
      ∃ after, checkpoint staker (final operate .empty operations) = .ok () after) ∧
    ∀ after, checkpoint staker (final operate .empty operations) = .ok () after →
      indexScale * (takenAlong staker asset (trace operate .empty operations) +
          after.accruedOf staker asset) ≤
        entitledAlong staker asset (trace operate .empty operations) ∧
      entitledAlong staker asset (trace operate .empty operations) ≤
        indexScale * (takenAlong staker asset (trace operate .empty operations) +
          after.accruedOf staker asset) + (indexScale - 1) *
          (checkpointsAlong staker (trace operate .empty operations) + 1) := by
  have split := entitlement_split staker asset operations
  have coherent := split.coherent
  refine ⟨checkpoint_returns coherent, fun after checkpointed => ?_⟩
  have nothing := missedAlong_of_snapshotted staker asset operations snapshotted
  have above := split.above
  have below := split.below
  have standing := standing_checkpointed coherent asset checkpointed
  cases wp_ok (checkpoint_spec staker _) checkpointed
  have settled := coherent.standing_settled staker staker asset
    (final operate .empty operations).assets
  rw [standing, if_pos rfl] at settled
  rw [nothing] at above below
  rw [Int.mul_add, Int.mul_add]
  omega

instance (store : Storage) : Decidable (operation.Snapshotted staker asset store) := by
  unfold Operation.Snapshotted
  split <;> infer_instance

/-- A run in which the asset is registered first and two stakers share two fundings. -/
def registeredFirst : List Operation :=
  [.addAsset 7, .onStakeChange 5 100, .onStakeChange 6 200, .notifyReward 7 100, .takeAccrued 5 7,
    .onStakeChange 5 0, .notifyReward 7 50]

theorem registeredFirst_fair : (∀ taken ∈ trace operate .empty registeredFirst,
      taken.input.Snapshotted 6 7 taken.pre) ∧
    ∀ after, checkpoint 6 (final operate .empty registeredFirst) = .ok () after →
      entitledAlong 6 7 (trace operate .empty registeredFirst) ≤
        indexScale * (takenAlong 6 7 (trace operate .empty registeredFirst) +
          after.accruedOf 6 7) + (indexScale - 1) *
          (checkpointsAlong 6 (trace operate .empty registeredFirst) + 1) := by
  have snapshotted : ∀ taken ∈ trace operate .empty registeredFirst,
      taken.input.Snapshotted 6 7 taken.pre := by decide
  exact ⟨snapshotted, fun after checkpointed =>
    ((rewards_fair 6 7 registeredFirst snapshotted).2 after checkpointed).2⟩

def stakedFirst : List Operation := [.onStakeChange 5 100, .addAsset 7, .notifyReward 7 100]

/-- The staker before the asset is entitled to the whole funding, and its checkpoint
credits nothing of it. -/
theorem staked_before_registration_misses :
    ¬ ∀ (staker asset : Address) (operations : List Operation) (after : Storage),
      checkpoint staker (final operate .empty operations) = .ok () after →
        entitledAlong staker asset (trace operate .empty operations) ≤
          indexScale * (takenAlong staker asset (trace operate .empty operations) +
            after.accruedOf staker asset) + (indexScale - 1) *
            (checkpointsAlong staker (trace operate .empty operations) + 1) := by
  intro every
  cases ran : checkpoint 5 (final operate .empty stakedFirst) with
  | ok _ after =>
    have credited := every 5 7 stakedFirst after ran
    cases wp_ok (checkpoint_spec 5 _) ran
    revert credited
    decide
  | error fault after =>
    have returns : accepted (checkpoint 5) (final operate .empty stakedFirst) = true := by decide
    simp [accepted, ran] at returns

/-- In every state of the vault the index is one that a run of its operations reaches, and what each
staker is entitled to along that run was taken, stands or was missed, up to less than one unit for
each checkpoint. -/
theorem vault_index_accounted (self : Address) (tokens : Tokens) (inputs : List Input) :
    ∃ operations, final operate .empty operations = (reached self tokens inputs).vault.index ∧
      ∀ staker asset, Split staker asset (trace operate .empty operations)
        (reached self tokens inputs).vault.index := by
  obtain ⟨_, operations, _, same⟩ := guarded_invariant step
    (fun world => Sound world ∧ Leads operate (fun _ => True) .empty world.vault.index)
    (fun _ _ => True) (fun world input _ held => ⟨sound_step input held.1,
      held.2.trans (step_leads held.1 input)⟩)
    (World.fresh self tokens) ⟨sound_fresh self tokens, .refl _⟩ inputs fun _ _ => trivial
  exact ⟨operations, same, fun staker asset => same ▸ entitlement_split staker asset operations⟩

end StellarSwipe.StakeVault.RewardIndex
