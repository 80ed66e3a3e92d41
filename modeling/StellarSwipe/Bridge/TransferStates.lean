import StellarSwipe.Bridge.Effects

/-!
# The states of a transfer

A transfer is registered under the next id and waits for validators.
-/

namespace StellarSwipe.Bridge

open FixedWidth Program Runs Table

def TransferKind.approvalKind (kind : TransferKind) : ValidatorApprovalKind :=
  match kind with
  | .lockMint => .lockMint
  | .burnUnlock => .burnUnlock

def TransferKind.approveCall (kind : TransferKind) (validator : Address) (transferId : Nat)
    (signature : String) : TransferCall :=
  match kind with
  | .lockMint => .approveLockMint validator transferId signature
  | .burnUnlock => .approveBurnUnlock validator transferId signature

/-- A failure that cannot be retried. -/
def BridgeTransfer.PermanentlyFailed (transfer : BridgeTransfer) : Prop :=
  transfer.status = .failed ∧ transfer.retryable = false
deriving Decidable

/-- What a call may make of a stored transfer. -/
inductive TransferChange (now : Nat) (call : BridgeCall) (config : BridgeConfig) (transferId : Nat)
    (transfer : BridgeTransfer) : BridgeTransfer → Prop where
  | approved {validator : Address} {signature : String}
      (called : call = .transfer (transfer.kind.approveCall validator transferId signature))
      (unfinished : transfer.status ≠ .completed)
      (mem : validator ∈ config.validatorSet.validators)
      (fresh : ∀ approval ∈ transfer.approvals, approval.validator ≠ validator) :
      TransferChange now call config transferId transfer
        (transfer.approvedBy (transfer.approvals ++
          [ValidatorApproval.mk validator signature now transfer.kind.approvalKind])
          config.security.requiredValidatorSignatures)
  | completed (ready : transfer.status = .readyToExecute) :
      TransferChange now call config transferId transfer (transfer.completedAt now)
  | failed (reason : String) (retryable : Bool) (unfinished : transfer.status ≠ .completed)
      (revocable : ¬ transfer.PermanentlyFailed) :
      TransferChange now call config transferId transfer
        { transfer with
          status := .failed
          failureReason := some reason
          retryable }
  | retried {admin : Address} (called : call = .transfer (.retryTransfer admin transferId))
      (failed : transfer.status = .failed) (revocable : transfer.retryable = true) :
      TransferChange now call config transferId transfer
        { transfer with
          status := .readyToExecute
          failureReason := none
          retryable := false }

/-- What a call leaves of the transfers and of the next id. -/
inductive TransfersMoved (now : Nat) (call : BridgeCall) (pre after : BridgeStore) : Prop where
  | kept (transfers : after.transfers = pre.transfers)
      (config : ∀ config, pre.config = some config → after.config = some config)
  | registered {config : BridgeConfig} {transfer : BridgeTransfer}
      (configured : pre.config = some config)
      (renumbered : after.config =
        some { config with nextTransferId := config.nextTransferId + 1 })
      (transfers : after.transfers = pre.transfers.insert config.nextTransferId transfer)
      (unapproved : transfer.approvals = []) (pending : transfer.status = .pendingValidators)
  | changed {transferId : Nat} {transfer changed : BridgeTransfer}
      (has : pre.transfer transferId = some transfer) (sameConfig : after.config = pre.config)
      (transfers : after.transfers = pre.transfers.insert transferId changed)
      (change : ∀ config, pre.config = some config →
        TransferChange now call config transferId transfer changed)

section Moves

variable {now : Nat} {pre after : BridgeStore}

theorem Approved.moved {validator : Address} {transferId : Nat} {signature : String}
    (kind : TransferKind)
    (approved : Approved now pre validator transferId signature kind kind.approvalKind after) :
    TransfersMoved now (.transfer (kind.approveCall validator transferId signature)) pre after := by
  cases approved with
  | @intro config transfer configured has ofKind unfinished mem fresh =>
    subst ofKind
    refine .changed has rfl rfl fun other hit => ?_
    cases Option.mem_unique configured hit
    exact .approved rfl unfinished mem fresh

variable {call : BridgeCall}

/-- Every effect moves one transfer at most. -/
theorem BridgeEffect.moved (effect : BridgeEffect now pre call after) :
    TransfersMoved now call pre after := by
  cases effect with
  | settings effect =>
    refine .kept effect.transfers fun config configured => ?_
    rcases effect.config with ⟨same, _⟩ | ⟨unset, _⟩
    · exact same.trans configured
    · rw [unset] at configured
      cases configured
  | pool call liquidity => exact .kept rfl fun _ configured => configured
  | transfer effect =>
    cases effect with
    | initiateLockMint registered | initiateLockMintWithExpiry registered =>
      cases registered with
      | intro configured _ _ _ => exact .registered configured rfl rfl rfl rfl
    | initiateBurnUnlock configured _ _ => exact .registered configured rfl rfl rfl rfl
    | approveLockMint approved => exact approved.moved .lockMint
    | approveBurnUnlock approved => exact approved.moved .burnUnlock
    | executeLockMint has _ ready _ _ =>
      exact .changed has rfl rfl fun _ _ => .completed ready
    | executeBurnUnlock has _ ready =>
      exact .changed has rfl rfl fun _ _ => .completed ready
    | markTransferFailed has unfinished revocable =>
      exact .changed has rfl rfl fun _ _ => .failed _ _ unfinished revocable
    | retryTransfer has failed revocable =>
      exact .changed has rfl rfl fun _ _ => .retried rfl failed revocable

def BridgeStore.Every (property : BridgeConfig → BridgeTransfer → Prop)
    (store : BridgeStore) : Prop :=
  ∀ transferId transfer, store.transfer transferId = some transfer →
    ∃ config, store.config = some config ∧ transferId < config.nextTransferId ∧
      property config transfer

theorem BridgeStore.Every.empty (property : BridgeConfig → BridgeTransfer → Prop) :
    BridgeStore.empty.Every property := by
  intro transferId transfer has
  cases has

variable {property : BridgeConfig → BridgeTransfer → Prop}

theorem BridgeStore.Every.next_absent {config : BridgeConfig} (every : pre.Every property)
    (configured : pre.config = some config) : pre.transfer config.nextTransferId = none := by
  by_contra present
  obtain ⟨transfer, has⟩ := Option.ne_none_iff_exists'.mp present
  obtain ⟨other, hit, below, _⟩ := every _ transfer has
  cases Option.mem_unique configured hit
  exact lt_irrefl _ below

/-- A property that registration establishes and every change keeps is kept. -/
theorem TransfersMoved.keeps (moved : TransfersMoved now call pre after)
    (renumbered : ∀ config transfer transferId, property config transfer →
      property { config with nextTransferId := transferId } transfer)
    (initially : ∀ config transfer, transfer.approvals = [] →
      transfer.status = .pendingValidators → property config transfer)
    (kept : ∀ config transferId transfer changed, pre.config = some config →
      pre.transfer transferId = some transfer →
      TransferChange now call config transferId transfer changed →
      property config transfer → property config changed)
    (every : pre.Every property) : after.Every property := by
  intro transferId transfer has
  rw [BridgeStore.transfer] at has
  cases moved with
  | kept transfers config =>
    rw [transfers] at has
    obtain ⟨hit, configured, below, holds⟩ := every transferId transfer has
    exact ⟨hit, config hit configured, below, holds⟩
  | @registered config fresh configured next transfers unapproved pending =>
    rw [transfers, lookup_insert] at has
    refine ⟨_, next, ?_⟩
    split at has
    · next same =>
      cases has
      exact ⟨by simp [same], initially _ _ unapproved pending⟩
    · obtain ⟨hit, also, below, holds⟩ := every transferId transfer has
      cases Option.mem_unique configured also
      exact ⟨Nat.lt_succ_of_lt below, renumbered _ _ _ holds⟩
  | @changed changedId prior changed present config transfers change =>
    rw [transfers, lookup_insert] at has
    rw [config]
    split at has
    · next same =>
      cases has
      obtain ⟨hit, configured, below, holds⟩ := every changedId prior present
      rw [same]
      exact ⟨hit, configured, below, kept _ _ _ _ configured present (change hit configured)
        holds⟩
    · exact every transferId transfer has

theorem TransfersMoved.numbered (moved : TransfersMoved now call pre after)
    (every : pre.Every fun _ _ => True) : after.Every fun _ _ => True :=
  moved.keeps (fun _ _ _ _ => trivial) (fun _ _ _ _ => trivial) (fun _ _ _ _ _ _ _ _ => trivial)
    every

end Moves

end StellarSwipe.Bridge
