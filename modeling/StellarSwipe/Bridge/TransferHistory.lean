import StellarSwipe.Bridge.Finality
import StellarSwipe.Library.Revisions

/-!
# The history of a transfer

A transfer that was registered stays on record under its id.
-/

namespace StellarSwipe.Bridge

open FixedWidth Program Runs Table

/-- The later record is of the same transfer. -/
abbrev BridgeTransfer.Continues : BridgeTransfer → BridgeTransfer → Prop :=
  Revises (fun transfer => { transfer with
    approvals := []
    status := .pendingValidators
    executedAt := none
    failureReason := none
    retryable := false }) BridgeTransfer.approvals (· <+: ·) (·.status = .completed)

/-- Every approval is by a validator of its own, of the bridge's set and of the transfer's kind. -/
structure SoundlyApproved (config : BridgeConfig) (transfer : BridgeTransfer) : Prop where
  distinct : (transfer.approvals.map ValidatorApproval.validator).Nodup
  members : ∀ approval ∈ transfer.approvals, approval.validator ∈ config.validatorSet.validators ∧
    approval.kind = transfer.kind.approvalKind

section Records

variable {now : Nat} {call : BridgeCall} {config : BridgeConfig} {transferId : Nat}
  {prior later : BridgeTransfer}

/-- None of the four changes applies to a completed transfer. -/
theorem TransferChange.continues (change : TransferChange now call config transferId prior later) :
    prior.Continues later := by
  cases change with
  | approved called unfinished =>
    exact ⟨rfl, List.prefix_append _ _, fun completed => absurd completed unfinished⟩
  | completed ready =>
    exact ⟨rfl, List.prefix_rfl, fun completed => nomatch ready.symm.trans completed⟩
  | failed _ _ unfinished =>
    exact ⟨rfl, List.prefix_rfl, fun completed => absurd completed unfinished⟩
  | retried called failed =>
    exact ⟨rfl, List.prefix_rfl, fun completed => nomatch failed.symm.trans completed⟩

/-- A transfer stays soundly approved. -/
theorem TransferChange.soundlyApproved
    (change : TransferChange now call config transferId prior later)
    (sound : SoundlyApproved config prior) : SoundlyApproved config later := by
  cases change with
  | @approved validator signature _ _ mem fresh =>
    refine ⟨?_, fun approval inside => ?_⟩
    · simp only [BridgeTransfer.approvedBy, List.map_append]
      refine List.nodup_append.mpr ⟨sound.distinct, List.nodup_singleton _, ?_⟩
      rintro _ inside _ last rfl
      obtain ⟨approval, given, by_validator⟩ := List.mem_map.mp inside
      exact fresh approval given (by_validator.trans (List.mem_singleton.mp last))
    · rcases List.mem_append.mp inside with given | last
      · exact sound.members approval given
      · cases List.mem_singleton.mp last
        exact ⟨mem, rfl⟩
  | completed => exact ⟨sound.distinct, sound.members⟩
  | failed => exact ⟨sound.distinct, sound.members⟩
  | retried => exact ⟨sound.distinct, sound.members⟩

end Records

variable (key : MessageKey)

/-- A step continues every transfer. -/
theorem bridgeStep_continued (ledger : Ledger BridgeStore) (input : BridgeInput)
    (numbered : ledger.store.Every fun _ _ => True) :
    Continued BridgeTransfer.Continues ledger.store.transfers
      (bridgeStep key input ledger).store.transfers := by
  refine bridgeStep_keeps key ledger input
    (fun after => Continued BridgeTransfer.Continues ledger.store.transfers after.transfers)
    (.refl _) fun after effect => ?_
  cases effect.moved with
  | kept transfers => exact transfers ▸ .refl _
  | registered configured _ transfers =>
    exact transfers ▸ continued_insert fun _ has =>
      nomatch has.symm.trans (numbered.next_absent configured)
  | changed present _ transfers change =>
    obtain ⟨config, configured, _⟩ := numbered _ _ present
    exact transfers ▸ continued_insert fun _ has =>
      Option.mem_unique present has ▸ (change config configured).continues

theorem bridgeStep_soundlyApproved (ledger : Ledger BridgeStore) (input : BridgeInput)
    (sound : ledger.store.Every SoundlyApproved) :
    (bridgeStep key input ledger).store.Every SoundlyApproved := by
  refine bridgeStep_keeps key ledger input _ sound fun _ effect => effect.moved.keeps
    (fun _ _ _ sound => ⟨sound.distinct, sound.members⟩) (fun config transfer unapproved _ => ?_)
    (fun _ _ _ _ _ _ change sound => change.soundlyApproved sound) sound
  constructor <;> simp [unapproved]

/-- However the bridge is run and run on, every transfer on record stays on record as the same one
under an id that was given out, and its approvals are by distinct validators of the set. -/
theorem transfers_stay_on_record (timestamp sequence : Nat) (inputs later : List BridgeInput) :
    let reached := final (bridgeStep key) (bridgeStart timestamp sequence) inputs
    reached.store.Every SoundlyApproved ∧
    Continued BridgeTransfer.Continues reached.store.transfers
      (final (bridgeStep key) reached later).store.transfers := by
  constructor
  · exact guarded_invariant (bridgeStep key) (fun ledger => ledger.store.Every SoundlyApproved)
      (fun _ _ => True) (fun ledger input _ => bridgeStep_soundlyApproved key ledger input) _
      (BridgeStore.Every.empty _) inputs fun _ _ => trivial
  · exact (continued_run (bridgeStep key) (·.store.transfers)
      (fun ledger => ledger.store.Every fun _ _ => True)
      (fun ledger input numbered => ⟨bridgeStep_numbered key ledger input numbered,
        bridgeStep_continued key ledger input numbered⟩)
      _ (run_numbered key timestamp sequence inputs) later).2

end StellarSwipe.Bridge
