import StellarSwipe.Bridge.Quorum

/-!
# Permanent failures

A transfer that failed for good cannot be failed again, retried or executed.
-/

namespace StellarSwipe.Bridge

open FixedWidth Program Runs Table

def FailedForGood (transferId : Nat) (store : BridgeStore) : Prop :=
  ∃ transfer, store.transfer transferId = some transfer ∧ transfer.PermanentlyFailed

def BridgeCall.approval (call : BridgeCall) : Option (TransferKind × Address × Nat) :=
  match call with
  | .transfer (.approveLockMint validator transferId _) => some (.lockMint, validator, transferId)
  | .transfer (.approveBurnUnlock validator transferId _) =>
    some (.burnUnlock, validator, transferId)
  | _ => none

/-- A validator's first approval of a transfer that failed for good leaves it short. -/
def LateApprovalsShort (ledger : Ledger BridgeStore) (input : BridgeInput) : Prop :=
  ∀ approval ∈ input.call.approval, ∀ transfer ∈ ledger.store.transfer approval.2.2,
    ∀ config ∈ ledger.store.config, transfer.PermanentlyFailed → transfer.kind = approval.1 →
      approval.2.1 ∈ config.validatorSet.validators →
      (∀ prior ∈ transfer.approvals, prior.validator ≠ approval.2.1) →
      transfer.approvals.length + 1 < config.security.requiredValidatorSignatures
deriving Decidable

section Finality

variable {now : Nat} {call : BridgeCall} {config : BridgeConfig} {transferId : Nat}
  {transfer changed : BridgeTransfer}

/-- Of the four changes only an approval applies, and it leaves the transfer short. -/
theorem TransferChange.permanentlyFailed
    (change : TransferChange now call config transferId transfer changed)
    (short : ∀ validator signature,
      call = .transfer (transfer.kind.approveCall validator transferId signature) →
      validator ∈ config.validatorSet.validators →
      (∀ prior ∈ transfer.approvals, prior.validator ≠ validator) →
      transfer.approvals.length + 1 < config.security.requiredValidatorSignatures)
    (failed : transfer.PermanentlyFailed) : changed.PermanentlyFailed := by
  obtain ⟨isFailed, permanent⟩ := failed
  cases change with
  | approved called _ mem fresh =>
    refine ⟨?_, permanent⟩
    have below := short _ _ called mem fresh
    simp only [BridgeTransfer.approvedBy]
    rw [if_neg, isFailed]
    simp only [HasQuorum, List.length_append, List.length_singleton]
    omega
  | completed ready =>
    rw [isFailed] at ready
    cases ready
  | failed _ _ _ revocable => exact absurd ⟨isFailed, permanent⟩ revocable
  | retried _ _ revocable =>
    rw [permanent] at revocable
    cases revocable

theorem TransferKind.approveCall_approval (kind : TransferKind) (validator : Address)
    (signature : String) :
    BridgeCall.approval (.transfer (kind.approveCall validator transferId signature)) =
      some (kind, validator, transferId) := by
  cases kind <;> rfl

variable (key : MessageKey)

/-- One step keeps a permanent failure. -/
theorem bridgeStep_failedForGood (ledger : Ledger BridgeStore) (input : BridgeInput)
    (guarded : LateApprovalsShort ledger input) (numbered : ledger.store.Every fun _ _ => True)
    (failed : FailedForGood transferId ledger.store) :
    FailedForGood transferId (bridgeStep key input ledger).store := by
  refine bridgeStep_keeps key ledger input _ failed fun after effect => ?_
  obtain ⟨transfer, has, isFailed⟩ := failed
  rw [FailedForGood, BridgeStore.transfer]
  cases effect.moved with
  | kept transfers => exact ⟨transfer, transfers ▸ has, isFailed⟩
  | @registered config _ configured _ transfers =>
    refine ⟨transfer, ?_, isFailed⟩
    rw [transfers, lookup_insert, if_neg]
    · exact has
    · rintro rfl
      rw [numbered.next_absent configured] at has
      cases has
  | @changed changedId prior changed present _ transfers change =>
    rw [transfers, lookup_insert]
    by_cases same : transferId = changedId
    · subst same
      cases Option.mem_unique has present
      obtain ⟨config, configured, _, _⟩ := numbered transferId transfer has
      refine ⟨changed, if_pos rfl, ?_⟩
      refine (change config configured).permanentlyFailed ?_ isFailed
      intro validator signature called mem fresh
      refine guarded (transfer.kind, validator, transferId) ?_ transfer has config configured
        isFailed rfl mem fresh
      rw [called, TransferKind.approveCall_approval]
      rfl
    · rw [if_neg same]
      exact ⟨transfer, has, isFailed⟩

/-- Transfers stay below the next id. -/
theorem bridgeStep_numbered (ledger : Ledger BridgeStore) (input : BridgeInput)
    (numbered : ledger.store.Every fun _ _ => True) :
    (bridgeStep key input ledger).store.Every fun _ _ => True :=
  bridgeStep_keeps key ledger input _ numbered fun _ effect => effect.moved.numbered numbered

theorem run_numbered (timestamp sequence : Nat) (inputs : List BridgeInput) :
    (final (bridgeStep key) (bridgeStart timestamp sequence) inputs).store.Every fun _ _ => True :=
  guarded_invariant (bridgeStep key) (fun ledger => ledger.store.Every fun _ _ => True)
    (fun _ _ => True) (fun ledger input _ => bridgeStep_numbered key ledger input) _
    (BridgeStore.Every.empty _) inputs fun _ _ => trivial

end Finality

/-- Once a transfer failed for good it stays so, however the run goes on, as long as
approvals of such transfers stay short of the quorum. -/
theorem permanent_failures_stay (key : MessageKey) (timestamp sequence : Nat)
    (inputs later : List BridgeInput) (transferId : Nat) (failed : FailedForGood transferId
      (final (bridgeStep key) (bridgeStart timestamp sequence) inputs).store)
    (guarded : ∀ taken ∈ trace (bridgeStep key)
      (final (bridgeStep key) (bridgeStart timestamp sequence) inputs) later,
      LateApprovalsShort taken.pre taken.input) : FailedForGood transferId
      (final (bridgeStep key) (bridgeStart timestamp sequence) (inputs ++ later)).store := by
  rw [final_append]
  have kept := guarded_invariant (bridgeStep key)
    (fun ledger => (ledger.store.Every fun _ _ => True) ∧ FailedForGood transferId ledger.store)
    LateApprovalsShort
    (fun ledger input short ⟨numbered, prior⟩ =>
      ⟨bridgeStep_numbered key ledger input numbered,
        bridgeStep_failedForGood key ledger input short numbered prior⟩)
    _ ⟨run_numbered key timestamp sequence inputs, failed⟩ later guarded
  exact kept.2

section Late

/-- A deposit that the admin fails for good. -/
def failedDeposit : List BridgeInput :=
  twoValidators ++
    [callBy 4 0 (.transfer (.initiateLockMint (depositOf 4 10))),
      callBy 1 5 (.transfer (.markTransferFailed 1 1 "rejected" false))]

/-- One approval after the failure. -/
def lateApproval : List BridgeInput := [callBy 2 5 (.transfer (.approveLockMint 2 1 "a"))]

/-- Both approvals after the failure. -/
def lateQuorum : List BridgeInput :=
  lateApproval ++ [callBy 3 5 (.transfer (.approveLockMint 3 1 "b"))]

/-- The deposit of the example fails for good. -/
theorem failedDeposit_failed :
    FailedForGood 1 (final (bridgeStep hashKey) (bridgeStart 0 0) failedDeposit).store :=
  ⟨_, rfl, by decide⟩

theorem late_approval_kept : FailedForGood 1
      (final (bridgeStep hashKey) (bridgeStart 0 0) (failedDeposit ++ lateApproval)).store :=
  permanent_failures_stay hashKey 0 0 failedDeposit lateApproval 1 failedDeposit_failed (by decide)

/-- Late approvals make a transfer ready that failed for good. -/
theorem late_quorum_revives :
    ¬ ∀ (key : MessageKey) (timestamp sequence : Nat) (inputs later : List BridgeInput)
        (transferId : Nat), FailedForGood transferId
          (final (bridgeStep key) (bridgeStart timestamp sequence) inputs).store →
        FailedForGood transferId
          (final (bridgeStep key) (bridgeStart timestamp sequence) (inputs ++ later)).store := by
  intro every
  obtain ⟨transfer, has, isFailed, _⟩ :=
    every hashKey 0 0 failedDeposit lateQuorum 1 failedDeposit_failed
  cases Option.mem_unique has rfl
  cases isFailed

end Late

end StellarSwipe.Bridge
