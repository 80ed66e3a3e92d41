import StellarSwipe.Bridge.TransferStates

/-!
# Mints, burns and the supply

The books of the supply are the transfers, the registered messages, the wrapped balances and the
amount minted.
-/

namespace StellarSwipe.Bridge

open FixedWidth Program Runs OneShot Table BridgeTransfer

/-- What the supply depends on. The next id is zero before the contract is initialized. -/
structure SupplyBooks where
  next : Nat
  transfers : Table Nat BridgeTransfer
  locks : Table SourceMessage Bool
  balances : Table (Address × String) Int
  minted : Int

/-- The books that a storage keeps. -/
def BridgeStore.books (store : BridgeStore) : SupplyBooks where
  next := (store.config.map BridgeConfig.nextTransferId).getD 0
  transfers := store.transfers
  locks := store.replayLocks
  balances := store.wrappedBalances
  minted := store.minted

def BridgeTransfer.mintedAmount (transfer : BridgeTransfer) : Int :=
  if transfer.kind = .lockMint ∧ transfer.status = .completed then transfer.amount else 0

def BridgeTransfer.burntAmount (transfer : BridgeTransfer) : Int :=
  if transfer.kind = .burnUnlock then transfer.amount else 0

/-- A transfer that stands for the same message and has minted the same. -/
structure BridgeTransfer.Restates (changed transfer : BridgeTransfer) : Prop where
  kind : changed.kind = transfer.kind
  amount : changed.amount = transfer.amount
  message : changed.message = transfer.message
  expiresAt : changed.expiresAt = transfer.expiresAt
  minted : changed.mintedAmount = transfer.mintedAmount
  completed : transfer.status = .completed → changed.status = .completed

/-- An amount added to a balance and to the total. -/
def SupplyBooks.adjusted (books : SupplyBooks) (user : Address) (wrappedAsset : String)
    (amount : Int) : SupplyBooks :=
  { books with
    balances := books.balances.insert (user, wrappedAsset)
      (books.balances.read (user, wrappedAsset) + amount)
    minted := books.minted + amount }

/-- One step of the books at a time. -/
inductive SupplyStep (now : Nat) (books : SupplyBooks) : SupplyBooks → Prop where
  | kept {next : Nat} (later : books.next ≤ next) :
      SupplyStep now books { books with next }
  | restated {transferId : Nat} {transfer changed : BridgeTransfer}
      (has : books.transfers.lookup transferId = some transfer)
      (restates : changed.Restates transfer) :
      SupplyStep now books
        { books with transfers := books.transfers.insert transferId changed }
  | locked {transfer : BridgeTransfer} (ofKind : transfer.kind = .lockMint)
      (pending : transfer.status = .pendingValidators) (pos : 0 < transfer.amount)
      (unexpired : now < transfer.expiresAt)
      (fresh : books.locks.lookup transfer.message = none) :
      SupplyStep now books
        { books with
          next := books.next + 1
          transfers := books.transfers.insert books.next transfer
          locks := books.locks.insert transfer.message true }
  | minted {transferId : Nat} {transfer : BridgeTransfer}
      (has : books.transfers.lookup transferId = some transfer)
      (ofKind : transfer.kind = .lockMint) (ready : transfer.status = .readyToExecute) :
      SupplyStep now books
        ({ books with
          transfers := books.transfers.insert transferId (transfer.completedAt now) }.adjusted
          transfer.user transfer.wrappedAsset transfer.amount)
  | burnt {transfer : BridgeTransfer} (ofKind : transfer.kind = .burnUnlock)
      (pos : 0 < transfer.amount)
      (covered : transfer.amount ≤ books.balances.read (transfer.user, transfer.wrappedAsset)) :
      SupplyStep now books
        ({ books with
          next := books.next + 1
          transfers := books.transfers.insert books.next transfer }.adjusted
          transfer.user transfer.wrappedAsset (-transfer.amount))

/-- What the transfers say of the messages. -/
structure SupplyBooks.Ordered (books : SupplyBooks) : Prop where
  numbered : ∀ transferId transfer, books.transfers.lookup transferId = some transfer →
    transferId < books.next
  pos : ∀ transferId transfer, books.transfers.lookup transferId = some transfer →
    0 < transfer.amount
  expiring : ∀ transferId transfer, books.transfers.lookup transferId = some transfer →
    transfer.kind = .lockMint → 0 < transfer.expiresAt
  locked : ∀ transferId transfer, books.transfers.lookup transferId = some transfer →
    transfer.kind = .lockMint → books.locks.lookup transfer.message ≠ none
  single : ∀ first second transfer other, books.transfers.lookup first = some transfer →
    books.transfers.lookup second = some other → transfer.kind = .lockMint →
    other.kind = .lockMint → transfer.message = other.message → first = second

/-- The amount minted is what is held and what the transfers account for. -/
structure SupplyBooks.Balanced (books : SupplyBooks) : Prop where
  held : books.minted = books.balances.total
  moved : books.minted = Table.sum (fun _ transfer => transfer.mintedAmount) books.transfers -
    Table.sum (fun _ transfer => transfer.burntAmount) books.transfers
  nonneg : ∀ holder, 0 ≤ books.balances.read holder

def SupplyBooks.Spent (message : SourceMessage) (books : SupplyBooks) : Prop :=
  ∃ transferId transfer, books.transfers.lookup transferId = some transfer ∧
    transfer.kind = .lockMint ∧ transfer.message = message ∧ transfer.status = .completed

section Books

variable {now : Nat} {books after : SupplyBooks} {transfers : Table Nat BridgeTransfer}
  {transfer : BridgeTransfer} {transferId : Nat}

theorem insert_entries {property : BridgeTransfer → Prop}
    (holds : ∀ other hit, transfers.lookup other = some hit → property hit)
    (written : property transfer) :
    ∀ other hit, (transfers.insert transferId transfer).lookup other = some hit →
      property hit := by
  intro other hit lookup
  rw [lookup_insert] at lookup
  split at lookup
  · exact Option.some.inj lookup ▸ written
  · exact holds other hit lookup

theorem SupplyBooks.Ordered.restate (ordered : books.Ordered) {transfer changed : BridgeTransfer}
    (has : books.transfers.lookup transferId = some transfer)
    (kind : changed.kind = transfer.kind) (amount : changed.amount = transfer.amount)
    (message : changed.message = transfer.message)
    (expiresAt : changed.expiresAt = transfer.expiresAt) :
    SupplyBooks.Ordered { books with transfers := books.transfers.insert transferId changed } where
  numbered := by
    intro other hit lookup
    rw [lookup_insert] at lookup
    split at lookup
    · next same => exact same ▸ ordered.numbered transferId transfer has
    · exact ordered.numbered other hit lookup
  pos := insert_entries ordered.pos (amount ▸ ordered.pos transferId transfer has)
  expiring := insert_entries ordered.expiring fun ofKind =>
    expiresAt ▸ ordered.expiring transferId transfer has (kind ▸ ofKind)
  locked := insert_entries ordered.locked fun ofKind =>
    message ▸ ordered.locked transferId transfer has (kind ▸ ofKind)
  single := by
    -- Both transfers are as they were, or stand for what was stored under the same id.
    have prior : ∀ other hit,
        (books.transfers.insert transferId changed).lookup other = some hit →
        ∃ old, books.transfers.lookup other = some old ∧ old.kind = hit.kind ∧
          old.message = hit.message := by
      intro other hit lookup
      rw [lookup_insert] at lookup
      split at lookup
      · next same =>
        cases lookup
        exact ⟨transfer, same ▸ has, kind.symm, message.symm⟩
      · exact ⟨hit, lookup, rfl, rfl⟩
    intro first second hit other isFound isOther foundKind otherKind same
    obtain ⟨old, isOld, oldKind, oldMessage⟩ := prior first hit isFound
    obtain ⟨older, isOlder, olderKind, olderMessage⟩ := prior second other isOther
    exact ordered.single first second old older isOld isOlder (oldKind.trans foundKind)
      (olderKind.trans otherKind) (oldMessage.trans (same.trans olderMessage.symm))

theorem SupplyBooks.Ordered.register (ordered : books.Ordered) {locks : Table SourceMessage Bool}
    (pos : 0 < transfer.amount) (expiring : transfer.kind = .lockMint → 0 < transfer.expiresAt)
    (locked : transfer.kind = .lockMint → locks.lookup transfer.message ≠ none)
    (fresh : transfer.kind = .lockMint → books.locks.lookup transfer.message = none)
    (stays : ∀ message, books.locks.lookup message ≠ none → locks.lookup message ≠ none) :
    SupplyBooks.Ordered
      { books with
        next := books.next + 1
        transfers := books.transfers.insert books.next transfer
        locks } where
  numbered := by
    intro other hit lookup
    rw [lookup_insert] at lookup
    split at lookup
    · next same => exact same ▸ Nat.lt_succ_self _
    · exact Nat.lt_succ_of_lt (ordered.numbered other hit lookup)
  pos := insert_entries ordered.pos pos
  expiring := insert_entries ordered.expiring expiring
  locked := insert_entries
    (fun other hit lookup ofKind => stays _ (ordered.locked other hit lookup ofKind)) locked
  single := by
    intro first second hit other isFound isOther foundKind otherKind same
    rw [lookup_insert] at isFound isOther
    split at isFound
    · next isFirst =>
      cases isFound
      split at isOther
      · next isSecond => exact isFirst.trans isSecond.symm
      · exact absurd (same ▸ fresh foundKind) (ordered.locked second other isOther otherKind)
    · split at isOther
      · cases isOther
        exact absurd (same ▸ fresh otherKind) (ordered.locked first hit isFound foundKind)
      · exact ordered.single first second hit other isFound isOther foundKind otherKind same

/-- A step of the books keeps their transfers in order. -/
theorem SupplyStep.ordered (step : SupplyStep now books after) (ordered : books.Ordered) :
    after.Ordered := by
  cases step with
  | kept later =>
    exact ⟨fun transferId transfer has =>
      lt_of_lt_of_le (ordered.numbered transferId transfer has) later, ordered.pos,
      ordered.expiring, ordered.locked, ordered.single⟩
  | restated has restates =>
    exact ordered.restate has restates.kind restates.amount restates.message restates.expiresAt
  | @locked transfer ofKind _ pos unexpired fresh =>
    refine ordered.register pos (fun _ => Nat.zero_lt_of_lt unexpired) (fun _ => ?_)
      (fun _ => fresh) fun message present => ?_
    · rw [lookup_insert, if_pos rfl]
      exact Option.some_ne_none _
    · rw [lookup_insert]
      split
      · exact Option.some_ne_none _
      · exact present
  | @minted transferId transfer has _ _ =>
    have sameKind : (transfer.completedAt now).kind = transfer.kind := rfl
    obtain ⟨numbered, pos, expiring, locked, single⟩ :=
      ordered.restate has sameKind rfl rfl rfl
    exact ⟨numbered, pos, expiring, locked, single⟩
  | @burnt transfer ofKind pos _ =>
    have outward : ∀ {claimed : Prop}, transfer.kind = .lockMint → claimed := by
      intro claimed inward
      rw [ofKind] at inward
      cases inward
    have stays : ∀ message, books.locks.lookup message ≠ none →
        books.locks.lookup message ≠ none := fun _ present => present
    obtain ⟨numbered, pos, expiring, locked, single⟩ :=
      ordered.register pos outward outward outward stays
    exact ⟨numbered, pos, expiring, locked, single⟩

variable {weight : BridgeTransfer → Int}

theorem sum_registered (ordered : books.Ordered) (transfer : BridgeTransfer) :
    Table.sum (fun _ hit => weight hit) (books.transfers.insert books.next transfer) =
      Table.sum (fun _ hit => weight hit) books.transfers + weight transfer := by
  have absent : books.transfers.lookup books.next = none := by
    by_contra present
    obtain ⟨hit, has⟩ := Option.ne_none_iff_exists'.mp present
    exact lt_irrefl _ (ordered.numbered _ hit has)
  rw [sum_insert, contribution_of_none absent, sub_zero]

theorem sum_restated (changed : BridgeTransfer)
    (has : transfers.lookup transferId = some transfer) :
    Table.sum (fun _ hit => weight hit) (transfers.insert transferId changed) =
      Table.sum (fun _ hit => weight hit) transfers - weight transfer + weight changed := by
  rw [sum_insert, contribution_of_some has]

theorem SupplyBooks.Balanced.adjust (balanced : books.Balanced) {user : Address}
    {wrappedAsset : String} {amount : Int} (next : Nat)
    (covered : 0 ≤ books.balances.read (user, wrappedAsset) + amount)
    (moved : Table.sum (fun _ transfer => transfer.mintedAmount) transfers -
        Table.sum (fun _ transfer => transfer.burntAmount) transfers =
      Table.sum (fun _ transfer => transfer.mintedAmount) books.transfers -
        Table.sum (fun _ transfer => transfer.burntAmount) books.transfers + amount) :
    SupplyBooks.Balanced
      ({ books with
        next
        transfers }.adjusted user wrappedAsset amount) where
  held := by
    simp only [SupplyBooks.adjusted, total_insert, balanced.held]
    omega
  moved := by
    simp only [SupplyBooks.adjusted]
    rw [moved, ← balanced.moved]
  nonneg := by
    intro holder
    simp only [SupplyBooks.adjusted, read_insert]
    split
    · exact covered
    · exact balanced.nonneg holder

/-- A step of the books keeps the supply in balance. -/
theorem SupplyStep.balanced (step : SupplyStep now books after) (ordered : books.Ordered)
    (balanced : books.Balanced) : after.Balanced := by
  cases step with
  | kept => exact ⟨balanced.held, balanced.moved, balanced.nonneg⟩
  | @restated transferId transfer changed has restates =>
    refine ⟨balanced.held, ?_, balanced.nonneg⟩
    have burnt : changed.burntAmount = transfer.burntAmount := by
      rw [burntAmount, restates.kind, restates.amount, burntAmount]
    rw [sum_restated changed has, sum_restated changed has, restates.minted, burnt,
      balanced.moved]
    omega
  | @locked transfer ofKind pending _ _ _ =>
    refine ⟨balanced.held, ?_, balanced.nonneg⟩
    have minted : transfer.mintedAmount = 0 := by
      simp [mintedAmount, pending]
    have burnt : transfer.burntAmount = 0 := by
      simp [burntAmount, ofKind]
    rw [sum_registered ordered, sum_registered ordered, minted, burnt, balanced.moved]
    omega
  | @minted transferId transfer has ofKind ready =>
    have pos := ordered.pos transferId transfer has
    have held := balanced.nonneg (transfer.user, transfer.wrappedAsset)
    refine balanced.adjust books.next (by omega) ?_
    rw [sum_restated _ has, sum_restated _ has]
    simp [mintedAmount, burntAmount, completedAt, ofKind, ready]
    omega
  | @burnt transfer ofKind _ covered =>
    refine balanced.adjust _ (by omega) ?_
    have minted : transfer.mintedAmount = 0 := by
      simp [mintedAmount, ofKind]
    have burnt : transfer.burntAmount = transfer.amount := by
      simp [burntAmount, ofKind]
    rw [sum_registered ordered, sum_registered ordered, minted, burnt]
    omega

/-- A message that was spent stays spent. -/
theorem SupplyStep.spent (step : SupplyStep now books after) (ordered : books.Ordered)
    {message : SourceMessage} (spent : books.Spent message) : after.Spent message := by
  obtain ⟨transferId, transfer, has, ofKind, isMessage, completed⟩ := spent
  have below := ordered.numbered transferId transfer has
  have registered : ∀ fresh : BridgeTransfer,
      (books.transfers.insert books.next fresh).lookup transferId = some transfer := by
    intro fresh
    rw [lookup_insert, if_neg (Nat.ne_of_lt below), has]
  cases step with
  | kept => exact ⟨transferId, transfer, has, ofKind, isMessage, completed⟩
  | @restated changedId prior changed present restates =>
    by_cases same : transferId = changedId
    · subst same
      cases Option.mem_unique has present
      refine ⟨transferId, changed, ?_, restates.kind.trans ofKind,
        restates.message.trans isMessage, restates.completed completed⟩
      rw [lookup_insert, if_pos rfl]
    · refine ⟨transferId, transfer, ?_, ofKind, isMessage, completed⟩
      rw [lookup_insert, if_neg same, has]
  | locked => exact ⟨transferId, transfer, registered _, ofKind, isMessage, completed⟩
  | @minted changedId prior present _ ready =>
    refine ⟨transferId, transfer, ?_, ofKind, isMessage, completed⟩
    simp only [SupplyBooks.adjusted]
    rw [lookup_insert, if_neg, has]
    rintro rfl
    cases Option.mem_unique has present
    rw [completed] at ready
    cases ready
  | burnt => exact ⟨transferId, transfer, registered _, ofKind, isMessage, completed⟩

end Books

end StellarSwipe.Bridge
