import StellarSwipe.StakeVault.Effects

/-!
# What every reachable vault satisfies

Between calls the execution lock is free, every stake and every delegation is an amount, and every
slash record carries a positive amount.
-/

namespace StellarSwipe.StakeVault

open Program FixedWidth Runs Table

/-- The integrity of a vault between calls. -/
structure Sound (world : World) : Prop where
  free : world.vault.activity.executionLock = false
  stakes : ∀ staker, Amount (world.vault.custody.stakeOf staker)
  delegations : ∀ provider delegator,
    Amount ((world.vault.custody.delegationsTo provider).read delegator)
  records : ∀ slashId record, world.vault.slashing.slashRecord.lookup slashId = some record →
    0 < record.slashAmount ∧ record.slashAmount ≤ i128.high

theorem sound_fresh (self : Address) (tokens : Tokens) : Sound (World.fresh self tokens) where
  free := rfl
  stakes _ := ⟨le_refl 0, by simp [Custody.stakeOf, Custody.stakeInfo, World.fresh, Vault.empty,
    Custody.empty, StakeInfoV2.absent]⟩
  delegations _ _ := ⟨le_refl 0, by simp [Custody.delegationsTo, World.fresh, Vault.empty,
    Custody.empty]⟩
  records _ _ has := by simp [World.fresh, Vault.empty, Slashing.empty] at has

section Steps

variable {env : Env} {pre after : World}

/-- Calls that reach neither custody nor slash records keep the integrity. -/
theorem Sound.carry (sound : Sound pre) (custody : after.vault.custody = pre.vault.custody)
    (records : after.vault.slashing.slashRecord = pre.vault.slashing.slashRecord)
    (lock : after.vault.activity.executionLock = pre.vault.activity.executionLock) :
    Sound after where
  free := lock.trans sound.free
  stakes := custody ▸ sound.stakes
  delegations := custody ▸ sound.delegations
  records := records ▸ sound.records

theorem Sound.aside (sound : Sound pre) (aside : Aside pre after) : Sound after :=
  sound.carry aside.custody (by rw [aside.slashing]) aside.executionLock

variable {info : StakeInfoV2}

theorem Sound.restake (sound : Sound pre) {staker : Address} (amount : Amount info.balance)
    (custody : after.vault.custody = pre.vault.custody.recordStake staker info)
    (records : after.vault.slashing.slashRecord = pre.vault.slashing.slashRecord)
    (lock : after.vault.activity.executionLock = pre.vault.activity.executionLock) :
    Sound after where
  free := lock.trans sound.free
  stakes other := by
    rw [custody, Custody.stakeOf_recordStake]
    split
    · exact amount
    · exact sound.stakes other
  delegations := by
    rw [custody]
    exact sound.delegations
  records := records ▸ sound.records

theorem Sound.has (sound : Sound pre) {staker : Address} {info : StakeInfoV2}
    (has : pre.vault.custody.stakesV2.lookup staker = some info) : Amount info.balance :=
  pre.vault.custody.stakeOf_of_stored has ▸ sound.stakes staker

variable {amount : Int}

theorem Sound.withdrawn (sound : Sound pre) {staker token : Address}
    (withdrawn : Withdrawn env pre staker token info amount after) : Sound after := by
  obtain ⟨index, _, rfl⟩ := withdrawn.done
  exact sound.restake ⟨le_refl 0, by simp⟩ rfl rfl (consumed_executionLock ..)

theorem Sound.withdrawStopped (sound : Sound pre) {staker : Address}
    {fault : Fault StakeVaultError} (stopped : WithdrawStopped env pre staker fault after) :
    Sound after := by
  cases stopped with
  | early => exact sound
  | untimely | refused => exact sound.carry rfl rfl rfl
  | unhooked =>
    exact sound.restake ⟨le_refl 0, by simp⟩ rfl rfl (consumed_executionLock ..)

/-- The records of a slash keep the integrity, whether or not its burn goes through. -/
theorem Sound.slashed (sound : Sound pre) {provider token : Address} {info : StakeInfoV2}
    (slashable : Slashable env pre provider token info) (severity : SlashSeverity)
    (reason : String) : Sound (pre.slashed env provider severity reason info) := by
  have amount := sound.has slashable.has
  have pos : 0 < info.balance := by
    have := amount.1
    have := slashable.staked
    omega
  obtain ⟨exactly, share, most⟩ :=
    StakeInfoV2.slashed_balance amount (pre.slashBps severity) env.timestamp
  refine ⟨sound.free, fun staker => ?_, fun other delegator => ?_, fun slashId record has => ?_⟩
  · simp only [World.slashed, World.setSlashing, World.setCustody, World.slashedCustody,
      Custody.stakeOf_slashDelegated, Custody.stakeOf_recordStake]
    split
    · rw [exactly]
      exact ⟨by omega, by have := amount.2; omega⟩
    · exact sound.stakes staker
  · simp only [World.slashed, World.setSlashing, World.setCustody, World.slashedCustody]
    rw [Custody.delegationsTo_slashDelegated (pre.vault.custody.recordStake provider _) provider _
      (sound.delegations provider)]
    split
    · simp only [Custody.delegationsTo_recordStake]
      have held := sound.delegations provider delegator
      have bounds := delegatorSlash_bounds held.1 (pre.slashBps severity)
      exact ⟨by omega, by have := held.2; omega⟩
    · exact sound.delegations other delegator
  · simp only [World.slashed, World.setSlashing, Slashing.recordSlash,
      lookup_insert] at has
    split at has
    · cases has
      have bounds := pre.vault.custody.slashAmount_bounds provider (pre.slashBps severity)
        pos (sound.delegations provider)
      exact ⟨bounds.1, bounds.2.1⟩
    · exact sound.records slashId record has

theorem Sound.disposed (sound : Sound after) {token : Address} {middle : World}
    (disposed : Disposed env pre token amount after middle) : Sound middle := by
  cases disposed with
  | held => exact ⟨sound.free, sound.stakes, sound.delegations, sound.records⟩
  | burned => exact sound.carry rfl rfl rfl

variable {severity : SlashSeverity}

theorem Sound.afterSlash (sound : Sound pre) {provider token : Address} {reason : String}
    {ledgers : Nat} (slashable : Slashable env pre provider token info)
    (disposed : Disposed env pre token amount (pre.slashed env provider severity reason info)
      after) : Sound (after.setActivity (pre.vault.activity.locked env provider ledgers)) := by
  have settled := (sound.slashed slashable severity reason).disposed disposed
  have lock : after.vault.activity.executionLock = pre.vault.activity.executionLock := by
    cases disposed <;> rfl
  exact settled.carry rfl rfl ((locked_executionLock ..).trans lock.symm)

theorem Sound.slashTried (sound : Sound pre) {provider : Address} {reason : String}
    (tried : SlashTried env pre provider severity reason after) : Sound after := by
  cases tried with
  | gave slashable disposed => exact sound.afterSlash slashable disposed
  | stopped stopped =>
    cases stopped with
    | early => exact sound
    | unburned token info slashable =>
      exact (sound.slashed slashable severity reason).carry rfl rfl rfl

/-- Crediting a reversal saturates, so the stake stays an amount. -/
theorem Sound.reversed (sound : Sound pre) {slashId : Nat} {record : SlashRecord}
    (recorded : pre.vault.slashing.slashRecord.lookup slashId = some record) :
    Sound (pre.setCustody (pre.vault.custody.reversed env slashId record)) := by
  have pos := (sound.records slashId record recorded).1
  have credit : 0 ≤ amountToRestore (pre.vault.custody.heldFor slashId) record := by
    simp only [amountToRestore]
    split <;> omega
  have balance : Amount ((pre.vault.custody.stakeInfo record.provider).restored
      (amountToRestore (pre.vault.custody.heldFor slashId) record) env.timestamp).balance := by
    have current := (sound.stakes record.provider).1
    rw [Custody.stakeOf] at current
    exact ⟨i128.le_clamp (by simp) (by omega), (i128.clamp_holds _).2⟩
  have credited : Sound (pre.setCustody (pre.vault.custody.recordStake record.provider
      ((pre.vault.custody.stakeInfo record.provider).restored
        (amountToRestore (pre.vault.custody.heldFor slashId) record) env.timestamp))) :=
    sound.restake balance rfl rfl rfl
  simp only [Custody.reversed]
  split
  · exact ⟨credited.free, credited.stakes, credited.delegations, credited.records⟩
  · exact credited

theorem Sound.settled (sound : Sound pre) {slashId : Nat} {token : Address}
    {record : SlashRecord} {appeal : SlashAppeal} {uphold : Bool}
    (resolvable : Resolvable pre slashId token record appeal)
    (settled : Settled env pre slashId token record uphold after) : Sound after := by
  cases settled with
  | burned => exact ⟨sound.free, sound.stakes, sound.delegations, sound.records⟩
  | stands => exact sound
  | reversed => exact sound.reversed resolvable.recorded

theorem Sound.resolveTried (sound : Sound pre) {slashId : Nat} {uphold : Bool}
    (tried : ResolveTried env pre slashId uphold after) : Sound after := by
  cases tried with
  | gave resolvable settled => exact (sound.settled resolvable settled).carry rfl rfl rfl
  | stopped stopped =>
    cases stopped with
    | early => exact sound
    | unburned => exact ⟨sound.free, sound.stakes, sound.delegations, sound.records⟩

/-- Every call keeps the integrity. The cases are the effects of the calls. -/
theorem Sound.effect (sound : Sound pre) {call : Call}
    (effect : CallEffect env pre call after) : Sound after := by
  cases effect with
  | setting aside | upkeep aside | approval aside => exact sound.aside aside
  | executed _ _ performed =>
    cases performed with
    | tuned => exact sound.carry rfl rfl rfl
    | resolved _ token record appeal middle resolvable settled =>
      exact (sound.settled resolvable settled).carry rfl rfl rfl
  | @deposited staker _ amount _ _ _ _ _ pos balance holds _ lock =>
    have current := (sound.stakes staker).1
    exact sound.restake ⟨by omega, holds.2⟩ rfl rfl lock
  | @delegated delegator provider _ amount _ _ pos holds =>
    refine ⟨sound.free, sound.stakes, fun other key => ?_, sound.records⟩
    simp only [Custody.delegationsTo_recordTotalDelegated, Custody.delegationsTo_recordDelegations]
    split
    · rw [read_insert]
      split
      · have current := (sound.delegations provider delegator).1
        exact ⟨by omega, holds.2⟩
      · exact sound.delegations provider key
    · exact sound.delegations other key
  | withdrew withdrawn => exact (sound.withdrawn withdrawn).carry rfl rfl rfl
  | withdrewPart payable pos less =>
    have amount := sound.has payable.has
    refine sound.restake ?_ rfl rfl (consumed_executionLock ..)
    exact ⟨by simp only; omega, by have := amount.2; simp only; omega⟩
  | served keeps =>
    refine keeps Sound Sound (fun _ held => held.free) ?_ ?_ (fun _ held => held) ?_ sound
    · intro _ _ _ _ _ _ after held _ withdrawn
      exact (held.withdrawn withdrawn).carry rfl rfl rfl
    · exact fun _ _ _ _ held stopped => held.withdrawStopped stopped
    · exact fun _ _ held => held.carry rfl rfl rfl
  | slashed _ slashable disposed => exact sound.afterSlash slashable disposed
  | slashedEach keeps => exact keeps Sound (fun _ _ _ _ tried held => held.slashTried tried) sound
  | resolved _ _ resolvable settled => exact (sound.settled resolvable settled).carry rfl rfl rfl
  | resolvedEach keeps =>
    exact keeps Sound (fun _ _ _ _ tried held => held.resolveTried tried) sound
  | approved lock => exact sound.carry rfl rfl lock
  | exited lock _ _ unstaked =>
    rw [unstaked.unchanged]
    exact sound.restake ⟨le_refl 0, by simp⟩ rfl rfl lock
  | _ => exact sound.carry rfl rfl rfl

theorem sound_step (input : Input) (sound : Sound pre) : Sound (step input pre) :=
  step_of_effect pre sound fun _ effect => sound.effect effect

end Steps

theorem sound_run (self : Address) (tokens : Tokens) (inputs : List Input) :
    Sound (reached self tokens inputs) :=
  guarded_invariant step Sound (fun _ _ => True) (fun _ input _ sound => sound_step input sound)
    (World.fresh self tokens) (sound_fresh self tokens) inputs fun _ _ => trivial

/-- In every state of the vault, whatever was called and whichever tokens refused: the execution
lock is free, what is staked or delegated is an amount, and what a slash recorded is positive. -/
theorem sound_between_calls (self : Address) (tokens : Tokens) (inputs : List Input) :
    let vault := (reached self tokens inputs).vault
    vault.activity.executionLock = false ∧
    (∀ staker, Amount (vault.custody.stakeOf staker)) ∧
    (∀ provider delegator, Amount ((vault.custody.delegationsTo provider).read delegator)) ∧
    ∀ slashId record, vault.slashing.slashRecord.lookup slashId = some record →
      0 < record.slashAmount ∧ record.slashAmount ≤ i128.high := by
  have sound := sound_run self tokens inputs
  exact ⟨sound.free, sound.stakes, sound.delegations, sound.records⟩

end StellarSwipe.StakeVault
