import StellarSwipe.Bridge.TransferStates

/-!
# Quorum of validators

A transfer is completed only once enough of the validators have approved it.
-/

namespace StellarSwipe.Bridge

open FixedWidth Program Runs

/-- Enough distinct members of the validator set have approved a transfer as its kind asks. -/
def HasValidatorQuorum (config : BridgeConfig) (transfer : BridgeTransfer) : Prop :=
  ∃ validators : List Address, validators.Nodup ∧
    config.security.requiredValidatorSignatures ≤ validators.length ∧
    ∀ validator ∈ validators, validator ∈ config.validatorSet.validators ∧
      ∃ approval ∈ transfer.approvals,
        approval.validator = validator ∧ approval.kind = transfer.kind.approvalKind

def CompletionsApproved (store : BridgeStore) : Prop :=
  ∀ transferId transfer, store.transfer transferId = some transfer →
    transfer.status = .completed →
    ∃ config, store.config = some config ∧ HasValidatorQuorum config transfer

def BridgeCall.retried (call : BridgeCall) : Option Nat :=
  match call with
  | .transfer (.retryTransfer _ transferId) => some transferId
  | _ => none

def RetriesApproved (ledger : Ledger BridgeStore) (input : BridgeInput) : Prop :=
  ∀ transferId ∈ input.call.retried, ∀ transfer ∈ ledger.store.transfer transferId,
    ∀ config ∈ ledger.store.config, transfer.status = .failed → transfer.retryable = true →
      HasQuorum transfer.approvals config.security.requiredValidatorSignatures
deriving Decidable

/-- Approvals are by distinct members and of the right kind, and there are enough of them
once the transfer is ready. -/
structure WellApproved (config : BridgeConfig) (transfer : BridgeTransfer) : Prop where
  distinct : (transfer.approvals.map ValidatorApproval.validator).Nodup
  members : ∀ approval ∈ transfer.approvals, approval.validator ∈ config.validatorSet.validators ∧
      approval.kind = transfer.kind.approvalKind
  quorum : transfer.status = .readyToExecute ∨ transfer.status = .completed →
    HasQuorum transfer.approvals config.security.requiredValidatorSignatures

section Quorum

variable {now : Nat} {call : BridgeCall} {config : BridgeConfig} {transferId : Nat}
  {transfer changed : BridgeTransfer}

/-- A well approved transfer that is completed has its quorum. -/
theorem WellApproved.hasValidatorQuorum (approved : WellApproved config transfer)
    (completed : transfer.status = .completed) : HasValidatorQuorum config transfer := by
  refine ⟨_, approved.distinct, ?_, ?_⟩
  · rw [List.length_map]
    exact approved.quorum (.inr completed)
  · intro validator mem
    obtain ⟨approval, inside, rfl⟩ := List.mem_map.mp mem
    obtain ⟨isMember, ofKind⟩ := approved.members approval inside
    exact ⟨isMember, approval, inside, rfl, ofKind⟩

theorem WellApproved.approvedBy {approval : ValidatorApproval}
    (approved : WellApproved config transfer) (unfinished : transfer.status ≠ .completed)
    (mem : approval.validator ∈ config.validatorSet.validators)
    (ofKind : approval.kind = transfer.kind.approvalKind)
    (fresh : ∀ other ∈ transfer.approvals, other.validator ≠ approval.validator) :
    WellApproved config (transfer.approvedBy (transfer.approvals ++ [approval])
      config.security.requiredValidatorSignatures) where
  distinct := by
    simp only [BridgeTransfer.approvedBy, List.map_append, List.map_cons, List.map_nil]
    refine List.nodup_append.mpr ⟨approved.distinct, List.nodup_singleton _, ?_⟩
    rintro _ inside _ last rfl
    obtain ⟨other, isOther, same⟩ := List.mem_map.mp inside
    exact fresh other isOther (same.trans (List.mem_singleton.mp last))
  members := by
    intro other inside
    rcases mem_snoc.mp inside with prior | rfl
    · exact approved.members other prior
    · exact ⟨mem, ofKind⟩
  quorum := by
    simp only [BridgeTransfer.approvedBy]
    split
    · next enough => exact fun _ => enough
    · next short =>
      rintro (ready | completed)
      · -- A transfer that was ready had enough approvals already.
        have prior := approved.quorum (.inl ready)
        simp only [HasQuorum, List.length_append, List.length_singleton] at prior short
        omega
      · exact absurd completed unfinished

/-- A transfer stays well approved when its retries are. -/
theorem TransferChange.wellApproved
    (change : TransferChange now call config transferId transfer changed)
    (retries : ∀ admin, call = .transfer (.retryTransfer admin transferId) →
      transfer.status = .failed → transfer.retryable = true →
      HasQuorum transfer.approvals config.security.requiredValidatorSignatures)
    (approved : WellApproved config transfer) : WellApproved config changed := by
  cases change with
  | approved _ unfinished mem fresh => exact approved.approvedBy unfinished mem rfl fresh
  | completed ready =>
    exact ⟨approved.distinct, approved.members, fun _ => approved.quorum (.inl ready)⟩
  | failed => exact ⟨approved.distinct, approved.members, by simp⟩
  | retried called failed revocable =>
    exact ⟨approved.distinct, approved.members, fun _ => retries _ called failed revocable⟩

/-- One step keeps transfers well approved. -/
theorem bridgeStep_wellApproved (key : MessageKey) (ledger : Ledger BridgeStore)
    (input : BridgeInput) (guarded : RetriesApproved ledger input)
    (approved : ledger.store.Every WellApproved) :
    (bridgeStep key input ledger).store.Every WellApproved := by
  refine bridgeStep_keeps key ledger input _ approved fun after effect => ?_
  refine effect.moved.keeps ?_ ?_ ?_ approved
  · intro config transfer _ prior
    exact ⟨prior.distinct, prior.members, prior.quorum⟩
  · intro config transfer unapproved pending
    refine ⟨?_, ?_, ?_⟩ <;> simp [unapproved, pending]
  · intro config transferId transfer changed configured has change
    refine change.wellApproved fun admin called => ?_
    exact guarded transferId (by rw [called]; rfl) transfer has config configured

end Quorum

/-- In every run that only retries approved transfers, every state reached has a quorum for
every completed transfer. -/
theorem completions_have_quorum (key : MessageKey) (timestamp sequence : Nat)
    (inputs : List BridgeInput)
    (guarded : ∀ taken ∈ trace (bridgeStep key) (bridgeStart timestamp sequence) inputs,
      RetriesApproved taken.pre taken.input) : CompletionsApproved
      (final (bridgeStep key) (bridgeStart timestamp sequence) inputs).store := by
  have approved := guarded_invariant (bridgeStep key)
    (fun ledger => ledger.store.Every WellApproved) RetriesApproved
    (fun ledger input => bridgeStep_wellApproved key ledger input) _
    (BridgeStore.Every.empty WellApproved) inputs guarded
  intro transferId transfer has completed
  obtain ⟨config, configured, _, holds⟩ := approved transferId transfer has
  exact ⟨config, configured, holds.hasValidatorQuorum completed⟩

section Retries

/-- A key of messages that tells one deployment's apart. -/
def hashKey : MessageKey := fun _ message => message.sourceTxHash

/-- A deposit that both validators approve; the admin fails it, retries it and executes it. -/
def approvedDeposit : List BridgeInput :=
  twoValidators ++
    [callBy 4 0 (.transfer (.initiateLockMint (depositOf 4 10))),
      callBy 2 5 (.transfer (.approveLockMint 2 1 "a")),
      callBy 3 5 (.transfer (.approveLockMint 3 1 "b")),
      callBy 1 5 (.transfer (.markTransferFailed 1 1 "stuck" true)),
      callBy 1 5 (.transfer (.retryTransfer 1 1)),
      callBy 1 5 (.transfer (.executeLockMint 1 1))]

/-- The same deposit without the approvals. -/
def unapprovedDeposit : List BridgeInput :=
  twoValidators ++
    [callBy 4 0 (.transfer (.initiateLockMint (depositOf 4 10))),
      callBy 1 5 (.transfer (.markTransferFailed 1 1 "stuck" true)),
      callBy 1 5 (.transfer (.retryTransfer 1 1)),
      callBy 1 5 (.transfer (.executeLockMint 1 1))]

example : ((final (bridgeStep hashKey) (bridgeStart 0 0) approvedDeposit).store.transfer 1).map
    BridgeTransfer.status = some .completed := by decide

theorem approved_deposit_has_quorum :
    CompletionsApproved (final (bridgeStep hashKey) (bridgeStart 0 0) approvedDeposit).store :=
  completions_have_quorum hashKey 0 0 approvedDeposit (by decide)

/-- A transfer that nobody approved is completed after a retry. -/
theorem unapproved_deposit_completed :
    ¬ ∀ (key : MessageKey) (timestamp sequence : Nat) (inputs : List BridgeInput),
        CompletionsApproved
          (final (bridgeStep key) (bridgeStart timestamp sequence) inputs).store := by
  intro every
  have approved := every hashKey 0 0 unapprovedDeposit 1
  have completed : ∃ transfer,
      (final (bridgeStep hashKey) (bridgeStart 0 0) unapprovedDeposit).store.transfer 1 =
        some transfer ∧ transfer.status = .completed ∧ transfer.approvals = [] :=
    ⟨_, rfl, rfl, rfl⟩
  obtain ⟨transfer, has, isCompleted, unapproved⟩ := completed
  obtain ⟨config, configured, validators, _, enough, members⟩ := approved transfer has isCompleted
  have required : config.security.requiredValidatorSignatures = 2 := by
    obtain rfl := Option.mem_unique configured rfl
    rfl
  obtain ⟨validator, isValidator⟩ := List.exists_mem_of_length_pos
    (lt_of_lt_of_le (by omega) enough)
  obtain ⟨_, approval, inside, _⟩ := members validator isValidator
  rw [unapproved] at inside
  cases inside

end Retries

end StellarSwipe.Bridge
