import StellarSwipe.StakeVault.RewardIndex

/-!
# The stakes that the reward index records

Only a stake change writes recorded stakes, and it writes one stake and the total together, so the
total stays the sum of the stakes.
-/

namespace StellarSwipe.StakeVault.RewardIndex

open Program FixedWidth Table Storage

/-- Recorded stakes are not negative and the recorded total, which fits its type, is
their sum. -/
structure Balanced (store : Storage) : Prop where
  stakes : ∀ staker stake, store.userStake.lookup staker = some stake → 0 ≤ stake
  total : store.totalStake = store.userStake.total
  within : store.totalStake ≤ i128.high

/-- A balanced index with no asset to credit. -/
structure Idle (store : Storage) : Prop extends Balanced store where
  unlisted : store.assets = []

theorem balanced_empty : Balanced .empty where
  stakes _ _ has := by simp [Storage.empty] at has
  total := rfl
  within := by simp [Storage.empty]

theorem idle_empty : Idle .empty where
  toBalanced := balanced_empty
  unlisted := rfl

section Balance

variable {pre after : Storage} {staker : Address} {stake : Int}

theorem Balanced.stakeOf_bounds (balanced : Balanced pre) (staker : Address) :
    0 ≤ pre.stakeOf staker ∧ pre.stakeOf staker ≤ pre.totalStake := by
  refine ⟨read_nonneg balanced.stakes staker, ?_⟩
  rw [balanced.total]
  exact read_le_total balanced.stakes staker

theorem Balanced.congr (balanced : Balanced pre) (stakes : after.userStake = pre.userStake)
    (total : after.totalStake = pre.totalStake) : Balanced after where
  stakes := stakes ▸ balanced.stakes
  total := by rw [total, stakes, balanced.total]
  within := total ▸ balanced.within

theorem Balanced.restaked (balanced : Balanced pre) (nonneg : 0 ≤ stake)
    (fits : TotalFits staker pre stake) :
    Balanced (pre.restaked staker stake (pre.totalStake - pre.stakeOf staker + stake)) where
  stakes := by
    rw [restaked_userStake]
    exact write_entries balanced.stakes fun _ => nonneg
  total := by
    rw [restaked_totalStake, restaked_userStake, total_write, balanced.total]
    rfl
  within := by
    rw [restaked_totalStake]
    exact fits.2.1.2

/-- The stakes after a stake change: the staker's is the new one, the others are as
they were, and the total is their sum. -/
theorem onStakeChange_stakes (balanced : Balanced pre) (nonneg : 0 ≤ stake)
    (changed : onStakeChange staker stake pre = .ok () after) :
    Balanced after ∧ after.assets = pre.assets ∧
      ∀ other, after.stakeOf other = if other = staker then stake else pre.stakeOf other := by
  obtain ⟨fits, rfl⟩ := wp_ok (onStakeChange_spec staker pre stake) changed
  have settled : Balanced (pre.settled staker (pre.stakeOf staker) pre.assets) :=
    balanced.congr (by simp) (by simp)
  have sameTotal := settled_totalStake pre staker (pre.stakeOf staker) pre.assets
  have sameStake := settled_stakeOf pre staker (pre.stakeOf staker) pre.assets
  have fitsSettled : TotalFits staker
      (pre.settled staker (pre.stakeOf staker) pre.assets) stake := by
    simpa only [TotalFits, sameTotal, sameStake staker] using fits
  have kept := settled.restaked nonneg fitsSettled
  rw [sameTotal, sameStake staker] at kept
  refine ⟨kept, ?_, fun other => ?_⟩
  · simp only [restaked]
    rw [(snapshottedAll_frame _ staker stake _).1]
    exact settled_assets pre staker _ _
  · simp only [stakeOf, restaked_userStake, settled_userStake,
      read_write]

theorem Idle.changed (idle : Idle pre) (nonneg : 0 ≤ stake)
    (changed : onStakeChange staker stake pre = .ok () after) : Idle after := by
  obtain ⟨balanced, assets, _⟩ := onStakeChange_stakes idle.toBalanced nonneg changed
  exact ⟨balanced, assets.trans idle.unlisted⟩

theorem Idle.zero_returns (idle : Idle pre) {fault : Fault StakeVaultError} :
    onStakeChange staker 0 pre ≠ .error fault after := by
  intro stopped
  obtain ⟨_, _, ⟨asset, listed, _⟩ | misfit⟩ :=
    wp_error (onStakeChange_spec staker pre 0) stopped
  · simp [idle.unlisted] at listed
  · apply misfit
    have bounds := idle.stakeOf_bounds staker
    have within := idle.within
    rw [i128_high] at within
    simp only [TotalFits, Range.Holds, i128_low, i128_high]
    omega

end Balance

end StellarSwipe.StakeVault.RewardIndex
