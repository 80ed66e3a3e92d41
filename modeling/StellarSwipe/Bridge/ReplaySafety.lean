import StellarSwipe.Bridge.Supply

/-!
# Replay safety

Every call of the contract is a step of the books of the supply.
-/

namespace StellarSwipe.Bridge

open FixedWidth Program Runs OneShot BridgeStore

section Steps

variable {now : Nat} {pre after : BridgeStore}

theorem BridgeStore.books_next {config : BridgeConfig} {store : BridgeStore}
    (configured : store.config = some config) : store.books.next = config.nextTransferId := by
  simp [books, configured]

theorem Approved.supplied {validator : Address} {transferId : Nat} {signature : String}
    {kind : TransferKind} {approvalKind : ValidatorApprovalKind}
    (approved : Approved now pre validator transferId signature kind approvalKind after) :
    SupplyStep now pre.books after.books := by
  cases approved with
  | @intro config transfer _ has ofKind unfinished mem fresh =>
    have listed : pre.books.transfers.lookup transferId = some transfer := has
    refine .restated listed ⟨rfl, rfl, rfl, rfl, ?_, ?_⟩
    · simp only [BridgeTransfer.mintedAmount, BridgeTransfer.approvedBy]
      split
      · simp [unfinished]
      · rfl
    · exact fun completed => absurd completed unfinished

theorem LockMintRegistered.supplied {expiresAt : Nat} {request : LockMintRequest}
    (registered : LockMintRegistered now expiresAt pre request after) :
    SupplyStep now pre.books after.books := by
  cases registered with
  | @intro config windows volume configured unexpired fresh counted =>
    have inward : (request.transfer now expiresAt).kind = .lockMint := rfl
    have step : SupplyStep now pre.books _ :=
      .locked inward rfl counted.pos unexpired fresh
    rw [books_next configured] at step
    exact step

/-- Every effect is a step of the books. -/
theorem BridgeEffect.supplied {call : BridgeCall} (effect : BridgeEffect now pre call after) :
    SupplyStep now pre.books after.books := by
  cases effect with
  | settings effect =>
    have same : after.books = { pre.books with next := after.books.next } := by
      simp only [books, minted, effect.transfers, effect.replayLocks,
        effect.wrappedBalances, effect.totalMinted]
    rw [same]
    refine .kept ?_
    rcases effect.config with ⟨unchanged, _⟩ | ⟨unset, _⟩
    · simp [books, unchanged]
    · simp [books, unset]
  | pool call liquidity => exact .kept le_rfl
  | transfer effect =>
    cases effect with
    | initiateLockMint registered | initiateLockMintWithExpiry registered =>
      exact registered.supplied
    | @initiateBurnUnlock request config windows volume configured covered counted =>
      have outward : (request.transfer config.nextTransferId now).kind = .burnUnlock := rfl
      have step : SupplyStep now pre.books _ := .burnt outward counted.pos covered
      rw [books_next configured] at step
      simpa [books, adjusted, registered,
        minted, SupplyBooks.adjusted, BurnUnlockRequest.transfer] using step
    | approveLockMint approved | approveBurnUnlock approved => exact approved.supplied
    | executeLockMint has ofKind ready _ _ => exact .minted has ofKind ready
    | executeBurnUnlock has ofKind ready =>
      refine .restated has ⟨rfl, rfl, rfl, rfl, ?_, fun _ => rfl⟩
      simp [BridgeTransfer.mintedAmount, BridgeTransfer.completedAt, ofKind]
    | markTransferFailed has unfinished _ =>
      refine .restated has ⟨rfl, rfl, rfl, rfl, ?_, fun completed => absurd completed unfinished⟩
      simp [BridgeTransfer.mintedAmount, unfinished]
    | retryTransfer has failed _ =>
      refine .restated has ⟨rfl, rfl, rfl, rfl, ?_, ?_⟩
      · simp [BridgeTransfer.mintedAmount, failed]
      · simp [failed]

end Steps

def BridgeTransition.minted (key : MessageKey) (taken : BridgeTransition) : Option BridgeTransfer :=
  match taken.input.call with
  | .transfer (.executeLockMint _ transferId) =>
    if taken.Returned key then taken.pre.store.transfer transferId else none
  | _ => none

def BridgeTransition.Mints (key : MessageKey) (message : SourceMessage)
    (taken : BridgeTransition) : Prop :=
  (taken.minted key).map BridgeTransfer.message = some message
deriving Decidable

/-- What holds of the mints of a run and of the books at its end. -/
structure ReplaySafe (key : MessageKey) (past : List BridgeTransition) (store : BridgeStore) :
    Prop where
  once : ∀ message, past.countP (fun taken => taken.Mints key message) ≤ 1
  timely : ∀ taken ∈ past, ∀ transfer, taken.minted key = some transfer →
    taken.now < transfer.expiresAt
  held : store.minted = store.wrappedBalances.total
  moved : store.minted = Table.sum (fun _ transfer => transfer.mintedAmount) store.transfers -
    Table.sum (fun _ transfer => transfer.burntAmount) store.transfers
  nonneg : 0 ≤ store.minted

structure MintHistory (key : MessageKey) (past : List BridgeTransition)
    (ledger : Ledger BridgeStore) : Prop where
  ordered : ledger.store.books.Ordered
  balanced : ledger.store.books.Balanced
  once : ∀ message, Once (BridgeTransition.Mints key message)
    (ledger.store.books.Spent message) past
  timely : ∀ taken ∈ past, ∀ transfer, taken.minted key = some transfer →
    taken.now < transfer.expiresAt

section History

variable {key : MessageKey} {past : List BridgeTransition} {ledger : Ledger BridgeStore}

/-- A mint is of a transfer that is stored. -/
theorem minted_stored {input : BridgeInput} {transfer : BridgeTransfer}
    (minted : BridgeTransition.minted key ⟨ledger, input, bridgeStep key input ledger⟩ =
      some transfer) : ∃ transferId, ledger.store.transfer transferId = some transfer ∧
      transfer.kind = .lockMint ∧ transfer.status = .readyToExecute ∧ (transfer.expiresAt ≠ 0 →
        ledger.timestamp + input.arrival.seconds < transfer.expiresAt) ∧
      (bridgeStep key input ledger).store.transfer transferId =
        some (transfer.completedAt (ledger.timestamp + input.arrival.seconds)) := by
  rw [BridgeTransition.minted] at minted
  split at minted
  · next admin transferId called =>
    split at minted
    · next gave =>
      rcases BridgeTransition.cases key ledger input with ⟨_, effect⟩ | ⟨rejected, _⟩
      · generalize (bridgeStep key input ledger).store = after at effect
        dsimp only at called
        rw [called] at effect
        cases effect with
        | transfer effect =>
          cases effect with
          | executeLockMint has ofKind ready unexpired _ =>
            cases Option.mem_unique has minted
            refine ⟨transferId, has, ofKind, ready, unexpired, ?_⟩
            exact (transfer_putTransfer _ _ _ _).trans (if_pos rfl)
      · exact absurd gave rejected
    · cases minted
  · cases minted

/-- One step adds at most one mint to the history. -/
theorem MintHistory.step (history : MintHistory key past ledger) (input : BridgeInput) :
    MintHistory key (past ++ [⟨ledger, input, bridgeStep key input ledger⟩])
      (bridgeStep key input ledger) := by
  have supplied : SupplyStep (ledger.timestamp + input.arrival.seconds) ledger.store.books
      (bridgeStep key input ledger).store.books := by
    refine bridgeStep_keeps key ledger input (fun after =>
      SupplyStep _ ledger.store.books after.books) (.kept le_rfl) fun _ effect => effect.supplied
  refine ⟨supplied.ordered history.ordered, supplied.balanced history.ordered history.balanced,
    fun message => ?_, ?_⟩
  · refine (history.once message).concat ?_ ?_ (supplied.spent history.ordered)
    · intro mints spent
      obtain ⟨transfer, minted, rfl⟩ := Option.map_eq_some_iff.mp mints
      obtain ⟨transferId, has, ofKind, ready, _⟩ := minted_stored minted
      obtain ⟨other, prior, isStored, earlierKind, same, completed⟩ := spent
      -- One message has one transfer, which cannot be both ready and completed.
      cases history.ordered.single other transferId prior transfer isStored has
        earlierKind ofKind same
      cases Option.mem_unique isStored has
      rw [completed] at ready
      cases ready
    · intro mints
      obtain ⟨transfer, minted, rfl⟩ := Option.map_eq_some_iff.mp mints
      obtain ⟨transferId, _, ofKind, _, _, completed⟩ := minted_stored minted
      exact ⟨transferId, _, completed, ofKind, rfl, rfl⟩
  · intro taken mem transfer minted
    rcases mem_snoc.mp mem with prior | rfl
    · exact history.timely taken prior transfer minted
    · obtain ⟨transferId, has, ofKind, _, unexpired, _⟩ := minted_stored minted
      have expiring := history.ordered.expiring transferId transfer has ofKind
      exact unexpired (Nat.pos_iff_ne_zero.mp expiring)

theorem MintHistory.start (timestamp sequence : Nat) :
    MintHistory key [] (bridgeStart timestamp sequence) where
  ordered := by constructor <;> intros <;> contradiction
  balanced := ⟨rfl, rfl, fun _ => le_rfl⟩
  once _ := Once.nil
  timely := by simp

end History

/-- Along every run every message is minted for at most once and in time, and the amount
minted is what all balances hold and what the transfers account for. -/
theorem replay_safe (key : MessageKey) (timestamp sequence : Nat) (inputs : List BridgeInput) :
    ReplaySafe key (trace (bridgeStep key) (bridgeStart timestamp sequence) inputs)
      (final (bridgeStep key) (bridgeStart timestamp sequence) inputs).store := by
  have history := history_invariant (bridgeStep key) (MintHistory key) (fun _ _ => True)
    (fun _ _ input _ prior => prior.step input) _ (MintHistory.start timestamp sequence)
    inputs fun _ _ => trivial
  refine ⟨fun message => (history.once message).once, history.timely, history.balanced.held,
    history.balanced.moved, ?_⟩
  exact (Table.total_nonneg history.balanced.nonneg).trans history.balanced.held.ge

end StellarSwipe.Bridge
