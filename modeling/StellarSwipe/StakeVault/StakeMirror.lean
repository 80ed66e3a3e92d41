import StellarSwipe.StakeVault.IndexBalance
import StellarSwipe.StakeVault.Integrity

/-!
# The reward index's record of stakes

Deposits and withdrawals tell the reward index the new stake, and along any run of them it records
exactly the stakes of the vault and their sum.
-/

namespace StellarSwipe.StakeVault

open Program Runs RewardIndex

/-- The registry's call slashes a provider that can be slashed. -/
inductive Slashes (env : Env) (world : World) : Call → Prop
  | one (caller provider : Address) (severity : SlashSeverity) (reason : String) (token : Address)
      (info : StakeInfoV2) (registry : RegistryCalls env world caller)
      (slashable : Slashable env world provider token info) :
      Slashes env world (.slashStake caller provider severity reason)
  | batch (caller : Address) (providers : List Address) (severities : List SlashSeverity)
      (reason : String) (provider token : Address) (info : StakeInfoV2)
      (registry : RegistryCalls env world caller) (listed : provider ∈ providers)
      (slashable : Slashable env world provider token info) :
      Slashes env world (.batchSlashStake caller providers severities reason)

/-- The call reverses a slash whose appeal can be resolved. -/
inductive Reverses (env : Env) (world : World) : Call → Nat → Prop
  | one (slashId : Nat) (token : Address) (record : SlashRecord) (appeal : SlashAppeal)
      (solo : world.vault.multisig.config = none) (admin : AdminCalls env world)
      (resolvable : Resolvable world slashId token record appeal) :
      Reverses env world (.resolveAppeal slashId false) slashId
  | batch (slashIds : List Nat) (upholds : List Bool) (slashId : Nat) (token : Address)
      (record : SlashRecord) (appeal : SlashAppeal)
      (admitted : BatchAdmitted env world slashIds upholds)
      (listed : (slashId, false) ∈ slashIds.zip upholds)
      (resolvable : Resolvable world slashId token record appeal) :
      Reverses env world (.batchResolveAppeal slashIds upholds) slashId
  | executed (caller : Address) (proposalId : Nat) (proposal : Multisig.Proposal) (token : Address)
      (record : SlashRecord) (appeal : SlashAppeal)
      (has : world.vault.multisig.proposals.lookup proposalId = some proposal)
      (executable : Multisig.Executable env world.vault.multisig proposal)
      (tagged : proposal.payload.head?.bind Action.ofTag = some .resolveAppeal)
      (reversing : payloadUpholds proposal.payload = false)
      (resolvable : Resolvable world (payloadNumber proposal.payload) token record appeal) :
      Reverses env world (.executeAction caller proposalId) (payloadNumber proposal.payload)

/-- The call completes the approvals of an emergency unstake that has a stake to release. -/
inductive ExitsEarly (env : Env) (world : World) : Call → Address → Prop
  | approved (signer staker : Address) (completes : CompletesApproval env world signer staker)
      (staked : world.vault.custody.stakeOf staker ≠ 0)
      (free : ¬ world.vault.activity.LockedUp env staker) :
      ExitsEarly env world (.approveEmergencyUnstake signer staker) staker

/-- The calls of staking, slashing and administration: all but the reward index's own
registrations, fundings and claims and the entry points outside the model. -/
def Call.servesStakes : Call → Bool
  | .addIndexRewardAsset _ => false
  | .fundIndexRewards _ _ _ => false
  | .claimIndexRewards _ _ => false
  | .claimQueuedWithdrawal _ _ => false
  | .cancelQueuedWithdrawal _ _ => false
  | .elsewhere _ _ _ => false
  | _ => true

/-- The index records the vault's stakes and their sum, and has no asset to credit. -/
structure Mirrored (world : World) : Prop where
  stakes : ∀ staker, world.vault.index.stakeOf staker = world.vault.custody.stakeOf staker
  idle : RewardIndex.Idle world.vault.index

theorem mirrored_fresh (self : Address) (tokens : Tokens) : Mirrored (World.fresh self tokens) where
  stakes _ := rfl
  idle := idle_empty

section Steps

variable {env : Env} {pre after : World}

theorem Mirrored.carry (mirrored : Mirrored pre) (index : after.vault.index = pre.vault.index)
    (stakes : ∀ staker, after.vault.custody.stakeOf staker = pre.vault.custody.stakeOf staker) :
    Mirrored after where
  stakes staker := by rw [index, stakes, mirrored.stakes]
  idle := index ▸ mirrored.idle

theorem Mirrored.aside (mirrored : Mirrored pre) (aside : Aside pre after) : Mirrored after :=
  mirrored.carry aside.index fun staker => by rw [aside.custody]

theorem Mirrored.restake (mirrored : Mirrored pre) {staker : Address} (info : StakeInfoV2)
    (nonneg : 0 ≤ info.balance)
    (custody : after.vault.custody = pre.vault.custody.recordStake staker info)
    (told : onStakeChange staker info.balance pre.vault.index =
      .ok () after.vault.index) : Mirrored after := by
  obtain ⟨_, _, stakes⟩ := onStakeChange_stakes mirrored.idle.toBalanced nonneg told
  refine ⟨fun other => ?_, mirrored.idle.changed nonneg told⟩
  rw [stakes other, custody, Custody.stakeOf_recordStake, mirrored.stakes]

theorem Mirrored.withdrawn (mirrored : Mirrored pre) {staker token : Address}
    {info : StakeInfoV2} {amount : Int}
    (withdrawn : Withdrawn env pre staker token info amount after) : Mirrored after := by
  obtain ⟨index, told, rfl⟩ := withdrawn.done
  exact mirrored.restake ⟨0, info.lockedUntil, env.timestamp⟩ (le_refl 0) rfl told

/-- A withdrawal that stops has told the index nothing and, since its hook cannot fail
here, recorded nothing. -/
theorem Mirrored.withdrawStopped (mirrored : Mirrored pre) {staker : Address}
    {fault : Fault StakeVaultError} (stopped : WithdrawStopped env pre staker fault after) :
    Mirrored after := by
  cases stopped with
  | early => exact mirrored
  | untimely | refused => exact mirrored.carry rfl fun _ => rfl
  | unhooked _ _ _ _ _ _ unhooked =>
    exact absurd unhooked mirrored.idle.zero_returns

theorem Mirrored.upheld (mirrored : Mirrored pre) {slashId : Nat} {token : Address}
    {record : SlashRecord} (settled : Settled env pre slashId token record true after) :
    Mirrored after := by
  cases settled with
  | burned => exact mirrored.carry rfl fun _ => rfl
  | stands => exact mirrored

/-- Every appeal that can be resolved now could be resolved before. -/
def NoneReopened (pre world : World) : Prop :=
  ∀ slashId token record appeal, Resolvable world slashId token record appeal →
    Resolvable pre slashId token record appeal

theorem Settled.resolvable_before {slashId other : Nat} {token asset : Address}
    {record hit : SlashRecord} {appeal filed : SlashAppeal} {uphold decided : Bool}
    (settled : Settled env pre slashId token record uphold after)
    (later : Resolvable (after.decided slashId appeal (decision decided)) other asset hit filed) :
    Resolvable pre other asset hit filed := by
  have same : after.vault.settings = pre.vault.settings ∧
      after.vault.slashing = pre.vault.slashing := by cases settled <;> exact ⟨rfl, rfl⟩
  have appealed := later.appealed
  simp only [World.decided, World.setSlashing, Table.lookup_insert] at appealed
  split at appealed
  · have pending := later.pending
    rw [← Option.some.inj appealed] at pending
    cases decided <;> cases pending
  · exact ⟨same.1 ▸ later.configured, same.2 ▸ later.recorded, same.2 ▸ appealed, later.pending⟩

/-- Every call of staking that neither slashes, reverses a slash nor exits early keeps the mirror.
-/
theorem Mirrored.effect (mirrored : Mirrored pre) (sound : Sound pre) {call : Call}
    (serves : call.servesStakes = true) (unslashed : ¬ Slashes env pre call)
    (unreversed : ∀ slashId, ¬ Reverses env pre call slashId)
    (staying : ∀ staker, ¬ ExitsEarly env pre call staker)
    (effect : CallEffect env pre call after) : Mirrored after := by
  cases effect with
  | setting aside | upkeep aside | approval aside => exact mirrored.aside aside
  | @executed caller proposalId proposal _ _ has executable performed =>
    cases performed with
    | tuned => exact mirrored.carry rfl fun _ => rfl
    | resolved tagged token record appeal middle resolvable settled =>
      cases uphold : payloadUpholds proposal.payload with
      | true =>
        rw [uphold] at settled
        exact (mirrored.upheld settled).carry rfl fun _ => rfl
      | false =>
        exact absurd (.executed caller proposalId proposal token record appeal has executable
          tagged uphold resolvable) (unreversed _)
  | @deposited staker _ _ info _ _ _ _ pos balance _ told =>
    have current := (sound.stakes staker).1
    exact mirrored.restake info (by omega) rfl told
  | withdrew withdrawn => exact (mirrored.withdrawn withdrawn).carry rfl fun _ => rfl
  | @withdrewPart staker token info amount index _ _ _ less _ told =>
    have paid : Mirrored ((pre.setActivity (pre.vault.activity.released staker)).paidOut env
        token staker info amount (info.balance - amount) index) :=
      mirrored.restake ⟨info.balance - amount, info.lockedUntil, env.timestamp⟩
        (by simp only; omega) rfl told
    exact paid.carry rfl fun _ => rfl
  | served keeps =>
    refine keeps (fun world => Sound world ∧ Mirrored world) Mirrored (fun _ held => held.1.free)
      ?_ ?_ (fun _ held => held.2) (fun _ _ held => held.carry rfl fun _ => rfl) ⟨sound, mirrored⟩
    · intro _ _ _ _ _ _ after held _ withdrawn
      exact ⟨(held.1.withdrawn withdrawn).carry rfl rfl rfl,
        (held.2.withdrawn withdrawn).carry rfl fun _ => rfl⟩
    · exact fun _ _ _ _ held stopped => held.2.withdrawStopped stopped
  | slashed registry slashable => exact absurd (.one _ _ _ _ _ _ registry slashable) unslashed
  | @slashedEach caller providers severities reason _ keeps =>
    have same : after = pre := by
      refine keeps (· = pre) (fun registry entry mem _ tried same => ?_) rfl
      have listed : entry.item.1 ∈ providers := (List.of_mem_zip (attempts_item _ _ _ _ mem)).1
      have blocked {token : Address} {info : StakeInfoV2} :
          ¬ Slashable env entry.pre entry.item.1 token info := fun slashable =>
        unslashed (.batch caller providers severities reason _ token info registry listed
          (same ▸ slashable))
      cases tried with
      | gave slashable => exact absurd slashable blocked
      | stopped stopped =>
        cases stopped with
        | early => exact same
        | unburned _ _ slashable => exact absurd slashable blocked
    rwa [same]
  | @resolved slashId uphold _ _ _ _ solo admin resolvable settled =>
    cases uphold with
    | true => exact (mirrored.upheld settled).carry rfl fun _ => rfl
    | false => exact absurd (.one slashId _ _ _ solo admin resolvable) (unreversed slashId)
  | @resolvedEach slashIds upholds _ keeps =>
    refine (keeps (fun world => Mirrored world ∧ NoneReopened pre world)
      (fun admitted entry mem _ tried held => ?_)
      ⟨mirrored, fun _ _ _ _ resolvable => resolvable⟩).1
    have listed : entry.item ∈ slashIds.zip upholds := attempts_item _ _ _ _ mem
    cases tried with
    | gave resolvable settled =>
      refine ⟨?_, fun _ _ _ _ later => held.2 _ _ _ _ (settled.resolvable_before later)⟩
      cases uphold : entry.item.2 with
      | true =>
        rw [uphold] at settled
        exact (held.1.upheld settled).carry rfl fun _ => rfl
      | false =>
        rw [show entry.item = (entry.item.1, false) from Prod.ext rfl uphold] at listed
        exact absurd (.batch slashIds upholds _ _ _ _ admitted listed
          (held.2 _ _ _ _ resolvable)) (unreversed _)
    | stopped stopped =>
      cases stopped with
      | early => exact held
      | unburned =>
        exact ⟨held.1.carry rfl fun _ => rfl, fun _ _ _ _ later => held.2 _ _ _ _
          ⟨later.configured, later.recorded, later.appealed, later.pending⟩⟩
  | @exited signer staker _ _ _ _ _ _ completes _ unstaked =>
    refine absurd (.approved signer staker completes ?_ unstaked.free) (staying staker)
    rw [pre.vault.custody.stakeOf_of_stored unstaked.has]
    exact unstaked.staked
  | @synced staker _ told =>
    have nonneg := (sound.stakes staker).1
    obtain ⟨_, _, stakes⟩ :=
      onStakeChange_stakes mirrored.idle.toBalanced nonneg told
    refine ⟨fun other => ?_, mirrored.idle.changed nonneg told⟩
    rw [World.setIndex, stakes other]
    split
    next same => rw [same]
    next => exact mirrored.stakes other
  | initialized | delegated | queued | appealed | approved =>
    exact mirrored.carry rfl fun _ => rfl
  | _ =>
    simp [Call.servesStakes] at serves

end Steps

/-- Along every run of the staking calls in which no slash goes through, no slash is
reversed and no emergency unstake completes, every state records each staker's stake in
the index as the vault does, and the index's total is the sum of what it records. -/
theorem index_mirrors_stakes (self : Address) (tokens : Tokens) (inputs : List Input)
    (serving : ∀ input ∈ inputs, input.2.servesStakes = true)
    (told : ∀ taken ∈ trace step (World.fresh self tokens) inputs,
      ¬ Slashes taken.input.1 taken.pre taken.input.2 ∧
      (∀ slashId, ¬ Reverses taken.input.1 taken.pre taken.input.2 slashId) ∧
      ∀ staker, ¬ ExitsEarly taken.input.1 taken.pre taken.input.2 staker) :
    (∀ staker, (reached self tokens inputs).vault.index.stakeOf staker =
      (reached self tokens inputs).vault.custody.stakeOf staker) ∧
    (reached self tokens inputs).vault.index.totalStake =
      (reached self tokens inputs).vault.index.userStake.total := by
  have invariant := guarded_invariant step (fun world => Sound world ∧ Mirrored world)
    (fun world input => input.2.servesStakes = true ∧ ¬ Slashes input.1 world input.2 ∧
      (∀ slashId, ¬ Reverses input.1 world input.2 slashId) ∧
      ∀ staker, ¬ ExitsEarly input.1 world input.2 staker)
    (fun world input guard held => ⟨sound_step input held.1,
      step_of_effect world held.2 fun _ effect =>
        held.2.effect held.1 guard.1 guard.2.1 guard.2.2.1 guard.2.2.2 effect⟩)
    (World.fresh self tokens) ⟨sound_fresh self tokens, mirrored_fresh self tokens⟩ inputs
    (fun taken mem => ⟨serving taken.input (input_mem step mem), told taken mem⟩)
  exact ⟨invariant.2.stakes, invariant.2.idle.total⟩

/-- A deposit, a part withdrawn, and the rest paid out from the queue. -/
def queuedExit : List Input :=
  [(.at 10 1 [], .initializeVault 1 9 2), (.at 10 1 [5], .depositStake 5 1000),
    (.at 20 2 [5], .partialUnstake 5 400), (.at 30 3 [5], .queueUnstake 5),
    (.at 40 4 [], .processUnstakeQueue 10)]

/-- The index follows a stake through a deposit, a partial withdrawal and the queue. -/
theorem queued_exit_mirrored :
    (∀ staker, (reached 100 wealthy queuedExit).vault.index.stakeOf staker =
      (reached 100 wealthy queuedExit).vault.custody.stakeOf staker) ∧
    (reached 100 wealthy queuedExit).vault.index.totalStake =
      (reached 100 wealthy queuedExit).vault.index.userStake.total := by
  refine index_mirrors_stakes 100 wealthy queuedExit (by decide) fun taken mem => ?_
  have listed := input_mem step mem
  simp only [queuedExit, List.mem_cons, List.not_mem_nil, or_false] at listed
  rcases listed with same | same | same | same | same
  all_goals
    rw [same]
    exact ⟨(nomatch ·), fun _ => (nomatch ·), fun _ => (nomatch ·)⟩

/-- A slash that burns at once leaves the index with the stake from before it. -/
theorem slash_leaves_index_behind :
    ¬ ∀ inputs : List Input, (∀ input ∈ inputs, input.2.servesStakes = true) → ∀ staker,
      (reached 100 wealthy inputs).vault.index.stakeOf staker =
        (reached 100 wealthy inputs).vault.custody.stakeOf staker := by
  intro every
  have same := every [(.at 10 1 [], .initializeVault 1 9 2), (.at 10 1 [5], .depositStake 5 1000),
    (.at 20 2 [2], .slashStake 2 5 .minor "late signal")] (by decide) 5
  revert same
  decide

end StellarSwipe.StakeVault
