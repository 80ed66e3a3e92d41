import Mathlib.Data.List.Perm.Subperm
import StellarSwipe.StakeVault.Staking
import StellarSwipe.Library.Runs

/-!
# Migrating the stakes

A migration copies the bare balances of the first version in batches into the map that deposits
and withdrawals use, and is complete once all are copied.
-/

namespace StellarSwipe.StakeVault.Migration

open Program FixedWidth Runs Table List

inductive MigrationError where
  | unauthorized
  | balanceMismatch (provider : Address) (old new : Int)
  | alreadyComplete
  | notInRecovery

/-- How far the migration is, so that batches resume where the last one ended. -/
structure MigrationState where
  migrated : List Address
  totalV1Providers : Nat
  complete : Bool
  batchNumber : Nat
  pendingRecovery : List Address

structure MigrationBatchResult where
  migratedThisBatch : Nat
  totalMigrated : Nat
  complete : Bool
  batchNumber : Nat
  pendingRecoveryCount : Nat

structure MigrationRecoveryResult where
  provider : Address
  correctedBalance : Int
  remainingRecovery : Nat
  migrationComplete : Bool

/-- The state before the first batch. -/
def MigrationState.fresh : MigrationState := ⟨[], 0, false, 0, []⟩

/-- The completion flag, once providers have been accounted for. -/
def MigrationState.completing (state : MigrationState) (totalV1 : Nat) : MigrationState :=
  { state with
    complete := decide (totalV1 ≤ state.migrated.length + state.pendingRecovery.length) &&
      state.pendingRecovery.isEmpty }

/-- The vault, the balances of its first version, and the progress of their migration. -/
structure MigratingVault where
  world : World
  stakesV1 : Table Address Int
  state : MigrationState

namespace MigratingVault

variable (vault : MigratingVault)

def stakesV2 : Table Address StakeInfoV2 := vault.world.vault.custody.stakesV2

/-- The vault with the new map and the progress written back. -/
def saved (stakesV2 : Table Address StakeInfoV2) (state : MigrationState) : MigratingVault :=
  { vault with
    world := vault.world.setCustody { vault.world.vault.custody with stakesV2 }
    state }

/-- The providers still to be copied, in the order of the old map. -/
def pending : List Address :=
  vault.stakesV1.keys.filter fun provider =>
    provider ∉ vault.state.migrated ∧ provider ∉ vault.state.pendingRecovery

end MigratingVault

abbrev MigrationProgram := Program MigratingVault MigrationError

/-- The host's check that an address authorized this call. -/
def requireAuth (env : Env) (address : Address) : MigrationProgram Unit := do
  let vault ← get
  demand (address ∈ env.auths ∧ address ≠ vault.world.self)

/-- What a batch has copied so far. -/
structure BatchProgress where
  stakesV2 : Table Address StakeInfoV2
  state : MigrationState
  migratedThisBatch : Nat

/-- Copy the providers in order and read each copy back. The first that differs is parked
for recovery and ends the batch with an error. -/
def migrateEach (now : Nat) : List Address → BatchProgress → MigrationProgram BatchProgress
  | [], progress => pure progress
  | provider :: rest, progress => do
    let oldBalance := (← get).stakesV1.read provider
    let stakesV2 := progress.stakesV2.insert provider ⟨oldBalance, 0, now⟩
    let written ← orTrap (stakesV2.lookup provider)
    if written.balance ≠ oldBalance then do
      modify fun vault => vault.saved stakesV2 { progress.state with
        pendingRecovery := progress.state.pendingRecovery ++ [provider] }
      fail (.balanceMismatch provider oldBalance written.balance)
    else
      migrateEach now rest ⟨stakesV2, { progress.state with
        migrated := progress.state.migrated ++ [provider] }, progress.migratedThisBatch + 1⟩

/-- Migrate up to `batchSize` providers from the old map to the new one. -/
def migrateStakesV1ToV2 (env : Env) (admin : Address) (batchSize : Nat) :
    MigrationProgram MigrationBatchResult := do
  requireAuth env admin
  let vault ← get
  ensure (vault.state.complete = false) .alreadyComplete
  let totalV1 := vault.stakesV1.keys.length
  let batchNumber ← orTrap (checkedCount u32Max vault.state.batchNumber 1)
  let progress ← migrateEach env.timestamp (vault.pending.take batchSize) ⟨vault.stakesV2,
    { vault.state with totalV1Providers := totalV1, batchNumber }, 0⟩
  let state := progress.state.completing totalV1
  modify fun vault => vault.saved progress.stakesV2 state
  pure ⟨progress.migratedThisBatch, state.migrated.length, state.complete, state.batchNumber,
    state.pendingRecovery.length⟩

/-- Enter the balance of a provider that waits for recovery. -/
def recoverMigrationEntry (env : Env) (admin provider : Address) (verifiedBalance : Int) :
    MigrationProgram MigrationRecoveryResult := do
  requireAuth env admin
  let vault ← get
  ensure (provider ∈ vault.state.pendingRecovery) .notInRecovery
  let stakesV2 := vault.stakesV2.insert provider ⟨verifiedBalance, 0, env.timestamp⟩
  let recovered : MigrationState := { vault.state with
    pendingRecovery := vault.state.pendingRecovery.filter fun other => other ≠ provider
    migrated := vault.state.migrated ++ [provider] }
  let state := recovered.completing recovered.totalV1Providers
  modify fun vault => vault.saved stakesV2 state
  pure ⟨provider, verifiedBalance, state.pendingRecovery.length, state.complete⟩

/-- What happens to a vault under migration. An interrupted call leaves nothing behind. -/
inductive Call where
  | migrateStakesV1ToV2 (admin : Address) (batchSize : Nat)
  | recoverMigrationEntry (admin provider : Address) (verifiedBalance : Int)
  | depositStake (staker : Address) (amount : Int)
  | interrupted

structure Input where
  env : Env
  call : Call

def step (input : Input) (vault : MigratingVault) : MigratingVault :=
  match input.call with
  | .migrateStakesV1ToV2 admin batchSize =>
    invoke (Migration.migrateStakesV1ToV2 input.env admin batchSize) vault
  | .recoverMigrationEntry admin provider verifiedBalance =>
    invoke (Migration.recoverMigrationEntry input.env admin provider verifiedBalance) vault
  | .depositStake staker amount =>
    { vault with world := invoke (StakeVault.depositStake input.env staker amount) vault.world }
  | .interrupted => vault

abbrev Taken := Transition MigratingVault Input

def MigratingVault.start (world : World) (stakesV1 : Table Address Int) : MigratingVault :=
  ⟨world, stakesV1, .fresh⟩

/-- The balance that the new map has for an address. -/
def MigratingVault.balance (vault : MigratingVault) (provider : Address) : Int :=
  vault.world.vault.custody.stakeOf provider

def Taken.deposit (provider : Address) (taken : Taken) : Int :=
  match taken.input.call with
  | .depositStake staker amount =>
    if staker = provider ∧
        Accepts (StakeVault.depositStake taken.input.env staker amount) taken.pre.world then
      amount
    else 0
  | _ => 0

def deposited (provider : Address) (past : List Taken) : Int :=
  (past.map (Taken.deposit provider)).sum

/-- What the migration owes its providers: once it says that it is complete, every provider
of the old map was copied once, and everyone has the old balance and everything it had or
deposited in the new map. -/
structure NothingLost (start : MigratingVault) (past : List Taken) (vault : MigratingVault) :
    Prop where
  once : ∀ provider ∈ start.stakesV1.keys, vault.state.migrated.count provider = 1
  accounted : ∀ provider ∈ vault.state.migrated, provider ∈ start.stakesV1.keys
  balances : ∀ provider, vault.balance provider =
    start.stakesV1.read provider + start.balance provider + deposited provider past

/-- Every provider that an authorized batch copies has no stake in the new map. -/
def BatchUnstaked (vault : MigratingVault) (input : Input) : Prop :=
  ∀ admin batchSize, input.call = .migrateStakesV1ToV2 admin batchSize →
    admin ∈ input.env.auths → admin ≠ vault.world.self →
    ∀ provider ∈ vault.pending.take batchSize, vault.balance provider = 0

/-- The new map once the providers have been copied into it. -/
def copied (stakesV1 : Table Address Int) (now : Nat) (batch : List Address)
    (stakesV2 : Table Address StakeInfoV2) : Table Address StakeInfoV2 :=
  batch.foldl (fun table provider => table.insert provider ⟨stakesV1.read provider, 0, now⟩)
    stakesV2

theorem copied_lookup (stakesV1 : Table Address Int) (now : Nat) (batch : List Address)
    (stakesV2 : Table Address StakeInfoV2) (provider : Address) :
    (copied stakesV1 now batch stakesV2).lookup provider =
      if provider ∈ batch then some ⟨stakesV1.read provider, 0, now⟩
      else stakesV2.lookup provider := by
  induction batch generalizing stakesV2 with
  | nil => simp [copied]
  | cons first rest ih =>
    rw [copied, foldl_cons, ← copied, ih, lookup_insert]
    by_cases later : provider ∈ rest
    · simp [later]
    · by_cases same : provider = first <;> simp [later, same]

section Specifications

variable (env : Env) (pre : MigratingVault)

theorem migrateEach_spec (now : Nat) (batch : List Address) (progress : BatchProgress) :
    wp (migrateEach now batch progress) (fun result after => after = pre ∧
        result = ⟨copied pre.stakesV1 now batch progress.stakesV2,
          { progress.state with migrated := progress.state.migrated ++ batch },
          progress.migratedThisBatch + batch.length⟩)
      (fun _ _ => False) pre := by
  induction batch generalizing progress with
  | nil => exact ⟨rfl, by simp [copied]⟩
  | cons provider rest ih =>
    simp only [migrateEach, wp_rules, lookup_insert, if_true, Option.some.injEq,
      reduceCtorEq, false_implies, and_true, wp_ite]
    rintro written rfl
    refine ⟨fun differs => absurd rfl differs, fun _ => ?_⟩
    apply wp_mono (ih _) ?_ fun _ _ never => never
    rintro result after ⟨same, rfl⟩
    refine ⟨same, ?_⟩
    simp only [copied, foldl_cons, append_assoc, singleton_append,
      length_cons, BatchProgress.mk.injEq, true_and]
    omega

theorem migrateStakesV1ToV2_spec (admin : Address) (batchSize : Nat) :
    wlp (migrateStakesV1ToV2 env admin batchSize)
      (fun _ after => (admin ∈ env.auths ∧ admin ≠ pre.world.self) ∧
        ∃ batchNumber, after = pre.saved
          (copied pre.stakesV1 env.timestamp (pre.pending.take batchSize) pre.stakesV2)
          (MigrationState.completing ⟨pre.state.migrated ++ pre.pending.take batchSize,
            pre.stakesV1.keys.length, pre.state.complete, batchNumber,
            pre.state.pendingRecovery⟩ pre.stakesV1.keys.length)) pre := by
  simp only [migrateStakesV1ToV2, requireAuth, wlp_rules]
  intro authorized _ batchNumber _
  apply wp_then (migrateEach_spec pre env.timestamp _ _) ?_
  rintro _ _ ⟨rfl, rfl⟩
  exact ⟨authorized, batchNumber, rfl⟩

theorem recoverMigrationEntry_spec (admin provider : Address) (verifiedBalance : Int) :
    wlp (recoverMigrationEntry env admin provider verifiedBalance)
      (fun _ _ => provider ∈ pre.state.pendingRecovery) pre := by
  simp only [recoverMigrationEntry, requireAuth, wlp_rules]
  exact fun _ waiting => waiting

end Specifications

/-- What every run keeps: providers are copied at most once and never wait for recovery, the
migration is complete only with all of them, and a copied provider has its old balance on
top of what it had or deposited. -/
structure Progress (start : MigratingVault) (past : List Taken) (vault : MigratingVault) :
    Prop where
  stakesV1 : vault.stakesV1 = start.stakesV1
  recovery : vault.state.pendingRecovery = []
  nodup : vault.state.migrated.Nodup
  accounted : ∀ provider ∈ vault.state.migrated, provider ∈ start.stakesV1.keys
  full : vault.state.complete = true →
    start.stakesV1.keys.length ≤ vault.state.migrated.length
  balances : ∀ provider, vault.balance provider =
    (if provider ∈ vault.state.migrated then start.stakesV1.read provider else 0) +
      start.balance provider + deposited provider past

theorem deposited_concat (provider : Address) (past : List Taken) (taken : Taken) :
    deposited provider (past ++ [taken]) = deposited provider past + taken.deposit provider := by
  simp [deposited]

theorem Progress.idle {start vault : MigratingVault} {past : List Taken} {taken : Taken}
    (progress : Progress start past vault) (idle : ∀ provider, taken.deposit provider = 0) :
    Progress start (past ++ [taken]) vault :=
  { progress with
    balances := fun provider => by
      rw [deposited_concat, idle, add_zero]
      exact progress.balances provider }

/-- The providers of a batch are listed, distinct, and not copied before. -/
theorem pending_batch (vault : MigratingVault) (batchSize : Nat) :
    (vault.pending.take batchSize).Nodup ∧ ∀ provider ∈ vault.pending.take batchSize,
        provider ∈ vault.stakesV1.keys ∧ provider ∉ vault.state.migrated := by
  refine ⟨(vault.stakesV1.keys_nodup.filter _).sublist (take_sublist ..), ?_⟩
  intro provider mem
  have waiting := mem_of_mem_take mem
  simp only [MigratingVault.pending, mem_filter, decide_eq_true_eq] at waiting
  exact ⟨waiting.1, waiting.2.1⟩

variable {past : List Taken}

theorem Progress.migrated {start vault : MigratingVault} {env : Env} {admin : Address}
    {batchSize : Nat} (progress : Progress start past vault)
    (unstaked : BatchUnstaked vault ⟨env, .migrateStakesV1ToV2 admin batchSize⟩) :
    Progress start (past ++ [⟨vault, ⟨env, .migrateStakesV1ToV2 admin batchSize⟩,
      step ⟨env, .migrateStakesV1ToV2 admin batchSize⟩ vault⟩])
      (step ⟨env, .migrateStakesV1ToV2 admin batchSize⟩ vault) := by
  by_cases returns : Accepts (migrateStakesV1ToV2 env admin batchSize) vault
  · obtain ⟨_, ran⟩ := gave_of_accepts returns
    obtain ⟨authorized, batchNumber, reached⟩ :=
      wp_ok (migrateStakesV1ToV2_spec env vault admin batchSize) ran
    have empty := unstaked admin batchSize rfl authorized.1 authorized.2
    obtain ⟨distinct, listed⟩ := pending_batch vault batchSize
    have stepped : step ⟨env, .migrateStakesV1ToV2 admin batchSize⟩ vault = _ := reached
    rw [stepped]
    generalize vault.pending.take batchSize = batch at empty distinct listed
    constructor
    case stakesV1 => exact progress.stakesV1
    case recovery => exact progress.recovery
    case nodup =>
      apply progress.nodup.append distinct
      exact fun provider copied waiting => (listed provider waiting).2 copied
    case accounted =>
      intro provider mem
      rcases List.mem_append.mp mem with copied | waiting
      · exact progress.accounted provider copied
      · exact progress.stakesV1 ▸ (listed provider waiting).1
    case full =>
      intro complete
      simp only [MigratingVault.saved, MigrationState.completing, Bool.and_eq_true,
        decide_eq_true_eq, progress.recovery, length_nil, Nat.add_zero] at complete ⊢
      exact progress.stakesV1 ▸ complete.1
    case balances =>
      intro provider
      have pre := progress.balances provider
      rw [deposited_concat]
      simp only [MigratingVault.balance, MigratingVault.saved, World.setCustody, Custody.stakeOf,
        Custody.stakeInfo, copied_lookup, MigrationState.completing, mem_append,
        Taken.deposit, MigratingVault.stakesV2] at pre empty ⊢
      by_cases waiting : provider ∈ batch
      · have fresh := (listed provider waiting).2
        have none := empty provider waiting
        simp only [waiting, fresh, or_true, if_true, if_false, Option.getD_some,
          progress.stakesV1] at pre ⊢
        omega
      · simp only [waiting, or_false, if_false]
        omega
  · have stepped : step ⟨env, .migrateStakesV1ToV2 admin batchSize⟩ vault = vault :=
      invoke_of_rejected returns
    rw [stepped]
    exact progress.idle fun _ => rfl

theorem Progress.deposited {start vault : MigratingVault} {past : List Taken} {env : Env}
    {staker : Address} {amount : Int} (progress : Progress start past vault) :
    Progress start (past ++ [⟨vault, ⟨env, .depositStake staker amount⟩,
      step ⟨env, .depositStake staker amount⟩ vault⟩])
      (step ⟨env, .depositStake staker amount⟩ vault) := by
  by_cases returns : Accepts (StakeVault.depositStake env staker amount) vault.world
  · obtain ⟨_, ran⟩ := gave_of_accepts returns
    obtain ⟨token, info, index, activity, _, _, _, credited, _, _, _, _, reached⟩ :=
      wp_ok (depositStake_spec env vault.world staker amount) ran
    refine { progress with balances := fun provider => ?_ }
    have pre := progress.balances provider
    rw [deposited_concat]
    simp only [step, reached, MigratingVault.balance, Custody.stakeOf_recordStake, Taken.deposit,
      returns, and_true] at pre ⊢
    by_cases same : provider = staker
    · subst same
      simp only [if_true, credited]
      omega
    · have other : staker ≠ provider := fun equal => same equal.symm
      simp only [if_neg same, if_neg other]
      omega
  · have stepped : step ⟨env, .depositStake staker amount⟩ vault = vault := by
      simp only [step, invoke_of_rejected returns]
    rw [stepped]
    apply progress.idle
    intro provider
    simp only [Taken.deposit, returns, and_false, if_false]

theorem Progress.step {start vault : MigratingVault} (input : Input)
    (unstaked : BatchUnstaked vault input) (progress : Progress start past vault) :
    Progress start (past ++ [⟨vault, input, Migration.step input vault⟩])
      (Migration.step input vault) := by
  obtain ⟨env, call⟩ := input
  cases call with
  | migrateStakesV1ToV2 admin batchSize => exact progress.migrated unstaked
  | recoverMigrationEntry admin provider verifiedBalance =>
    have stopped : ¬ Accepts (recoverMigrationEntry env admin provider verifiedBalance) vault := by
      intro returns
      obtain ⟨_, ran⟩ := gave_of_accepts returns
      have waiting :=
        wp_ok (recoverMigrationEntry_spec env vault admin provider verifiedBalance) ran
      rw [progress.recovery] at waiting
      cases waiting
    have stepped : Migration.step ⟨env, .recoverMigrationEntry admin provider verifiedBalance⟩
        vault = vault := invoke_of_rejected stopped
    rw [stepped]
    exact progress.idle fun _ => rfl
  | depositStake staker amount => exact progress.deposited
  | interrupted => exact progress.idle fun _ => rfl

theorem Progress.nothingLost {start vault : MigratingVault} (progress : Progress start past vault)
    (complete : vault.state.complete = true) : NothingLost start past vault := by
  have within : vault.state.migrated.Subperm start.stakesV1.keys :=
    subperm_of_subset progress.nodup progress.accounted
  have same := within.perm_of_length_le (progress.full complete)
  have everyone (provider : Address) :
      provider ∈ vault.state.migrated ↔ provider ∈ start.stakesV1.keys := same.mem_iff
  refine ⟨?_, progress.accounted, ?_⟩
  · intro provider listed
    exact count_eq_one_of_mem progress.nodup ((everyone provider).mpr listed)
  · intro provider
    rw [progress.balances provider]
    by_cases listed : provider ∈ vault.state.migrated
    · rw [if_pos listed]
    · have absent : start.stakesV1.read provider = 0 := by
        have unlisted := mt (everyone provider).mpr listed
        rw [← AList.mem_keys, ← AList.lookup_eq_none] at unlisted
        rw [Table.read, unlisted, Option.getD_none]
      rw [if_neg listed, absent]

/-- In every run of batches, interruptions, recoveries and deposits in which batches copy
only providers without stake in the new map, a migration that says it is complete has lost
nothing. -/
theorem complete_migration_lossless (world : World) (stakesV1 : Table Address Int)
    (inputs : List Input)
    (unstaked : ∀ taken ∈ trace step (MigratingVault.start world stakesV1) inputs,
      BatchUnstaked taken.pre taken.input) (complete :
      (final step (MigratingVault.start world stakesV1) inputs).state.complete = true) :
    NothingLost (MigratingVault.start world stakesV1)
      (trace step (MigratingVault.start world stakesV1) inputs)
      (final step (MigratingVault.start world stakesV1) inputs) := by
  have initially : Progress (MigratingVault.start world stakesV1) []
      (MigratingVault.start world stakesV1) := by
    refine ⟨rfl, rfl, nodup_nil, fun _ mem => absurd mem not_mem_nil, ?_, ?_⟩
    · intro complete
      cases complete
    · intro provider
      simp [MigratingVault.start, MigrationState.fresh, Migration.deposited]
  have progress := history_invariant step (Progress (MigratingVault.start world stakesV1))
    BatchUnstaked (fun _ _ input unstaked progress => progress.step input unstaked)
    (MigratingVault.start world stakesV1) initially inputs unstaked
  exact progress.nothingLost complete

/-- Everyone holds a thousand of every token. -/
def purses : Tokens := ⟨fun _ _ => 1000, 0⟩

def emptyVault : World := (World.fresh 0 purses).setSettings
  { (World.fresh 0 purses).vault.settings with stakeToken := some 2 }

/-- Providers 5 and 6 staked 100 and 200 with the first version. -/
def oldStakes : Table Address Int := (AList.insert 5 100 ∅).insert 6 200

/-- Provider 6 is copied, deposits, and provider 5 is copied after a failed recovery. -/
def depositAfterCopy : List Input :=
  [⟨.at 0 1 [1], .migrateStakesV1ToV2 1 1⟩, ⟨.at 1 2 [6], .depositStake 6 50⟩,
    ⟨.at 2 3 [1], .recoverMigrationEntry 1 5 100⟩, ⟨.at 2 3 [1], .interrupted⟩,
    ⟨.at 3 4 [1], .migrateStakesV1ToV2 1 9⟩]

theorem depositAfterCopy_lossless :
    let run : List Taken :=
      trace step (MigratingVault.start emptyVault oldStakes) depositAfterCopy
    (final step (MigratingVault.start emptyVault oldStakes) depositAfterCopy).balance 6 = 250 ∧
      NothingLost (MigratingVault.start emptyVault oldStakes) run
        (final step (MigratingVault.start emptyVault oldStakes) depositAfterCopy) := by
  intro run
  refine ⟨by decide,
    complete_migration_lossless emptyVault oldStakes depositAfterCopy ?_ (by decide)⟩
  intro taken mem admin batchSize call _ _
  have listed : taken ∈ [run[0], run[1], run[2], run[3], run[4]] := mem
  simp only [mem_cons, not_mem_nil, or_false] at listed
  rcases listed with rfl | rfl | rfl | rfl | rfl
  · obtain ⟨rfl, rfl⟩ : 1 = admin ∧ 1 = batchSize := Call.migrateStakesV1ToV2.inj call
    decide
  · cases call
  · cases call
  · cases call
  · obtain ⟨rfl, rfl⟩ : 1 = admin ∧ 9 = batchSize := Call.migrateStakesV1ToV2.inj call
    decide

/-- Provider 5 deposits before its batch comes. -/
def depositBeforeCopy : List Input :=
  [⟨.at 0 1 [5], .depositStake 5 50⟩, ⟨.at 1 2 [1], .migrateStakesV1ToV2 1 9⟩]

/-- The copy leaves provider 5 with its old hundred, and the fifty it deposited are lost. -/
theorem copy_overwrites_deposit : ¬ ∀ (world : World) (stakesV1 : Table Address Int)
    (inputs : List Input),
      (final step (MigratingVault.start world stakesV1) inputs).state.complete = true →
      NothingLost (MigratingVault.start world stakesV1)
        (trace step (MigratingVault.start world stakesV1) inputs)
        (final step (MigratingVault.start world stakesV1) inputs) := by
  intro every
  exact absurd ((every emptyVault oldStakes depositBeforeCopy (by decide)).balances 5) (by decide)

end StellarSwipe.StakeVault.Migration
