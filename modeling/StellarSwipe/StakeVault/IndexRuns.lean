import StellarSwipe.StakeVault.IndexConservation
import StellarSwipe.StakeVault.Integrity

/-!
# The index as a state machine

The vault moves its reward index only by the operations of the index.
-/

namespace StellarSwipe.StakeVault

open Program FixedWidth Runs

namespace RewardIndex

/-- An operation that the vault performs on its index. An attempted stake change is one
whose error is caught. -/
inductive Operation where
  | addAsset (asset : Address)
  | notifyReward (asset : Address) (amount : Int)
  | onStakeChange (staker : Address) (newStake : Nat)
  | attemptStakeChange (staker : Address) (newStake : Nat)
  | takeAccrued (staker asset : Address)
  | creditAccrued (staker asset : Address) (amount : Int)

def Operation.program : Operation → IndexProgram Unit
  | .addAsset asset => RewardIndex.addAsset asset
  | .notifyReward asset amount => discard (RewardIndex.notifyReward asset amount)
  | .onStakeChange staker newStake => RewardIndex.onStakeChange staker newStake
  | .attemptStakeChange staker newStake =>
    discard (attempt (RewardIndex.onStakeChange staker newStake))
  | .takeAccrued staker asset => discard (RewardIndex.takeAccrued staker asset)
  | .creditAccrued staker asset amount => RewardIndex.creditAccrued staker asset amount

/-- The index after an operation, which is undone when it is not accepted. -/
def operate (operation : Operation) (store : Storage) : Storage :=
  invoke operation.program store

/-- Operations that bring no rewards in and take none out. -/
def Operation.Internal : Operation → Prop
  | .addAsset _ | .onStakeChange _ _ | .attemptStakeChange _ _ => True
  | .notifyReward _ _ | .takeAccrued _ _ | .creditAccrued _ _ _ => False

/-- One index leads to another without rewards coming in or going out. -/
abbrev Shifts (pre after : Storage) : Prop := Leads operate Operation.Internal pre after

section Operations

variable {pre after : Storage} {staker asset : Address} {stake amount : Int}
  {allowed : Operation → Prop}

variable (operation : Operation)

theorem leads_of_ok (permitted : allowed operation)
    (gave : operation.program pre = .ok () after) : Leads operate allowed pre after := by
  have reached : operate operation pre = after := invoke_of_ok gave
  rw [← reached]
  exact .single permitted pre

theorem leads_of_discarded {α : Type} {program : IndexProgram α} {value : α}
    (permitted : allowed operation) (discards : operation.program = discard program)
    (gave : program pre = .ok value after) : Leads operate allowed pre after := by
  have reached : operate operation pre = after := by
    rw [operate, discards, invoke_discard]
    exact invoke_of_ok gave
  rw [← reached]
  exact .single permitted pre

theorem shifts_of_changed (nonneg : 0 ≤ stake)
    (changed : onStakeChange staker stake pre = .ok () after) : Shifts pre after := by
  rw [← Int.toNat_of_nonneg nonneg] at changed
  exact leads_of_ok (.onStakeChange staker stake.toNat) trivial changed

/-- A stake change that stops leaves what it has settled to a caller that catches its
error. -/
theorem shifts_of_stopped {fault : Fault StakeVaultError} (nonneg : 0 ≤ stake)
    (stopped : onStakeChange staker stake pre = .error fault after) : Shifts pre after := by
  obtain ⟨rfl, _⟩ := wp_error (onStakeChange_spec staker pre stake) stopped
  rw [← Int.toNat_of_nonneg nonneg] at stopped
  have caught : attempt (onStakeChange staker stake.toNat) pre =
      .ok (.error .stakeOverflow) after := by
    simp only [attempt, stopped]
  exact leads_of_discarded (.attemptStakeChange staker stake.toNat) trivial rfl caught

/-- An attempted stake change keeps what the stake change writes, also when it stops. -/
theorem operate_attemptStakeChange (store : Storage) (staker : Address) (newStake : Nat) :
    onStakeChange staker newStake store =
        .ok () (operate (.attemptStakeChange staker newStake) store) ∨
      onStakeChange staker newStake store =
        .error (.error .stakeOverflow) (operate (.attemptStakeChange staker newStake) store) := by
  rw [operate, Operation.program, invoke_discard]
  rcases ran : onStakeChange staker newStake store with ⟨_, after⟩ | ⟨fault, after⟩
  · left
    simp only [invoke, attempt, ran]
  · right
    obtain ⟨rfl, _⟩ := wp_error (onStakeChange_spec staker store newStake) ran
    simp only [invoke, attempt, ran]

/-- An operation either returns into the storage it leads to or changes nothing. -/
theorem operate_cases (store : Storage) :
    operation.program store = .ok () (operate operation store) ∨
      ¬ Accepts operation.program store ∧ operate operation store = store := by
  by_cases accepts : Accepts operation.program store
  · exact Or.inl (gave_of_accepts accepts).choose_spec
  · exact Or.inr ⟨accepts, invoke_of_rejected accepts⟩

theorem operate_conserves (coherent : Coherent pre) {operation : Operation}
    (internal : operation.Internal) : Conserves pre (operate operation pre) fun _ => 0 := by
  rcases operate_cases operation pre with gave | ⟨_, same⟩
  · cases operation with
    | addAsset asset => exact addAsset_conserves coherent gave
    | onStakeChange staker newStake =>
      exact onStakeChange_conserves coherent (Int.natCast_nonneg newStake) gave
    | attemptStakeChange staker newStake =>
      rcases operate_attemptStakeChange pre staker newStake with changed | stopped
      · exact onStakeChange_conserves coherent (Int.natCast_nonneg newStake) changed
      · exact onStakeChange_stopped_conserves coherent stopped
    | _ => exact internal.elim
  · rw [same]
    exact .refl coherent

theorem shifts_conserves (coherent : Coherent pre) (shifts : Shifts pre after) :
    Conserves pre after fun _ => 0 := by
  refine shifts.keeps (fun store => Conserves pre store fun _ => 0) ?_ (.refl coherent)
  intro state operation internal held
  exact held.trans (operate_conserves held.coherent internal)

end Operations

end RewardIndex

open RewardIndex

/-- The calls that bring rewards in, take them out or settle a queued claim. -/
def Call.movesRewards : Call → Bool
  | .fundIndexRewards _ _ _ => true
  | .claimIndexRewards _ _ => true
  | .claimQueuedWithdrawal _ _ => true
  | .cancelQueuedWithdrawal _ _ => true
  | _ => false

section Steps

variable {env : Env} {pre after : World}

/-- What leaves the claims alone and moves no rewards in or out of the index. -/
structure KeepsRewards (pre after : World) : Prop where
  claims : after.vault.claims = pre.vault.claims
  index : Shifts pre.vault.index after.vault.index

theorem KeepsRewards.same (claims : after.vault.claims = pre.vault.claims)
    (index : after.vault.index = pre.vault.index) : KeepsRewards pre after where
  claims
  index := by
    rw [index]
    exact .refl _

theorem KeepsRewards.trans {middle : World} (prior : KeepsRewards pre middle)
    (later : KeepsRewards middle after) : KeepsRewards pre after where
  claims := later.claims.trans prior.claims
  index := prior.index.trans later.index

theorem KeepsRewards.withdrawn {staker token : Address} {info : StakeInfoV2} {amount : Int}
    (withdrawn : Withdrawn env pre staker token info amount after) : KeepsRewards pre after := by
  obtain ⟨index, changed, rfl⟩ := withdrawn.done
  exact ⟨rfl, shifts_of_changed (le_refl 0) changed⟩

/-- A withdrawal that stops at its hook leaves some assets settled. -/
theorem KeepsRewards.withdrawStopped {staker : Address} {fault : Fault StakeVaultError}
    (stopped : WithdrawStopped env pre staker fault after) : KeepsRewards pre after := by
  cases stopped with
  | early | untimely | refused => exact .same rfl rfl
  | unhooked token info index _ _ _ unhooked =>
    exact ⟨rfl, shifts_of_stopped (le_refl 0) unhooked⟩

theorem KeepsRewards.settled {origin : World} (kept : KeepsRewards origin pre) {slashId : Nat}
    {token : Address} {record : SlashRecord} {uphold : Bool}
    (settled : Settled env pre slashId token record uphold after) : KeepsRewards origin after := by
  cases settled <;> exact ⟨kept.claims, kept.index⟩

theorem KeepsRewards.slashTried {origin : World} (kept : KeepsRewards origin pre)
    {provider : Address} {severity : SlashSeverity} {reason : String}
    (tried : SlashTried env pre provider severity reason after) : KeepsRewards origin after := by
  cases tried with
  | gave _ disposed => cases disposed <;> exact ⟨kept.claims, kept.index⟩
  | stopped stopped => cases stopped <;> exact ⟨kept.claims, kept.index⟩

theorem KeepsRewards.resolveTried {origin : World} (kept : KeepsRewards origin pre)
    {slashId : Nat} {uphold : Bool} (tried : ResolveTried env pre slashId uphold after) :
    KeepsRewards origin after := by
  cases tried with
  | gave _ settled => exact ⟨(kept.settled settled).claims, (kept.settled settled).index⟩
  | stopped stopped => cases stopped <;> exact ⟨kept.claims, kept.index⟩

/-- Every other call that returns keeps the rewards. The cases are the effects of the calls. -/
theorem KeepsRewards.effect (sound : Sound pre) {call : Call} (still : call.movesRewards = false)
    (effect : CallEffect env pre call after) : KeepsRewards pre after := by
  have refl : KeepsRewards pre pre := .same rfl rfl
  cases effect with
  | setting aside | upkeep aside | approval aside => exact .same aside.claims aside.index
  | executed _ _ performed =>
    cases performed with
    | tuned => exact .same rfl rfl
    | resolved _ token record appeal middle _ settled =>
      exact ⟨(refl.settled settled).claims, (refl.settled settled).index⟩
  | @deposited staker _ _ _ _ _ _ _ pos balance _ told =>
    have current := (sound.stakes staker).1
    exact ⟨rfl, shifts_of_changed (by omega) told⟩
  | withdrew withdrawn =>
    have kept := KeepsRewards.withdrawn withdrawn
    exact ⟨kept.claims, kept.index⟩
  | withdrewPart _ _ less _ told => exact ⟨rfl, shifts_of_changed (by omega) told⟩
  | served keeps =>
    refine keeps (fun world => Sound world ∧ KeepsRewards pre world) (KeepsRewards pre)
      (fun _ held => held.1.free) ?_ ?_ (fun _ held => held.2)
      (fun _ _ held => ⟨held.claims, held.index⟩) ⟨sound, refl⟩
    · intro _ world request _ _ _ after held _ withdrawn
      have kept := held.2.trans (.withdrawn withdrawn)
      exact ⟨(held.1.withdrawn withdrawn).carry rfl rfl rfl, kept.claims, kept.index⟩
    · exact fun _ _ _ _ held stopped => held.2.trans (.withdrawStopped stopped)
  | slashed _ slashable disposed => exact refl.slashTried (.gave slashable disposed)
  | slashedEach keeps =>
    exact keeps (KeepsRewards pre) (fun _ _ _ _ tried held => held.slashTried tried) refl
  | resolved _ _ resolvable settled => exact refl.resolveTried (.gave resolvable settled)
  | resolvedEach keeps =>
    exact keeps (KeepsRewards pre) (fun _ _ _ _ tried held => held.resolveTried tried) refl
  | exited _ _ _ unstaked =>
    rw [unstaked.unchanged]
    exact .same rfl rfl
  | assetAdded added => exact ⟨rfl, leads_of_ok (.addAsset _) trivial added⟩
  | @synced staker _ told => exact ⟨rfl, shifts_of_changed (sound.stakes staker).1 told⟩
  | initialized | delegated | queued | appealed | approved | elsewhere => exact .same rfl rfl
  | _ => cases still

/-- Every call of the vault moves the index by operations of the index. -/
theorem exec_leads (sound : Sound pre) (call : Call) :
    wp (exec env call) (fun _ after => Leads operate (fun _ => True) pre.vault.index
      after.vault.index) (fun _ _ => True) pre := by
  by_cases moves : call.movesRewards = true
  · cases call <;> first | (cases moves; done) | rw [exec, wp_discard]
    case fundIndexRewards funder asset amount =>
      refine wp_then (fundIndexRewards_spec ..) ?_
      rintro _ _ ⟨_, _, notified, _, rfl⟩
      exact leads_of_discarded (.notifyReward asset amount) trivial rfl notified
    case claimIndexRewards staker asset =>
      refine wp_then (claimIndexRewards_spec ..) ?_
      rintro _ _ ⟨_, _, _, _, taken, ⟨_, rfl⟩ | ⟨_, rfl⟩⟩ <;>
        exact leads_of_discarded (.takeAccrued staker asset) trivial rfl taken
    case claimQueuedWithdrawal claimant nonce =>
      refine wp_then (claimQueuedWithdrawal_spec ..) ?_
      rintro _ _ ⟨_, _, _, _, _, rfl⟩
      exact .refl _
    case cancelQueuedWithdrawal claimant nonce =>
      refine wp_then (cancelQueuedWithdrawal_spec ..) ?_
      rintro _ _ ⟨claim, _, _, _, credited, rfl⟩
      exact leads_of_ok (.creditAccrued claimant claim.token claim.amount) trivial credited
  · refine wp_then (exec_effect env pre call) fun _ _ effect => ?_
    obtain ⟨operations, _, reached⟩ :=
      (KeepsRewards.effect sound (Bool.eq_false_iff.mpr moves) effect).index
    exact ⟨operations, fun _ _ => trivial, reached⟩

theorem step_leads (sound : Sound pre) (input : Input) :
    Leads operate (fun _ => True) pre.vault.index (step input pre).vault.index := by
  by_cases accepts : Accepts (exec input.1 input.2) pre
  · obtain ⟨_, gave⟩ := gave_of_accepts accepts
    exact wp_ok (exec_leads sound input.2) gave
  · rw [step, invoke_of_rejected accepts]
    exact .refl _

end Steps

end StellarSwipe.StakeVault
