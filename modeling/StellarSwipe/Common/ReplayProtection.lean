import StellarSwipe.Host
import StellarSwipe.Library.KeyedSum

/-!
# Replay protection

Every action carries its user's next nonce and a hash, which must not have been executed within
the last hour.
-/

namespace StellarSwipe.ReplayProtection

open FixedWidth Program

def txHashTtlSecs : Nat := 3600

inductive ReplayError where
  | invalidNonce
  | duplicateTx
  | expired

structure PendingNonceRecord where
  user : Address
  txHash : Bytes
  expiryTs : Nat

structure ReplayStore where
  userNonce : Table Address Nat
  txHash : Table Bytes Nat
  pendingQueue : List PendingNonceRecord

def ReplayStore.empty : ReplayStore := ⟨∅, ∅, []⟩

abbrev ReplayProgram := Program ReplayStore ReplayError

def currentNonce (store : ReplayStore) (user : Address) : Nat :=
  (store.userNonce.lookup user).getD 0

/-- Commit an action. The next nonce is computed by an addition that may abort. -/
def verifyAndCommit (env : Env) (user : Address) (nonce : Nat) (txHash : Bytes)
    (expiryTs : Nat) : ReplayProgram Unit := do
  ensure (¬ expiryTs < env.timestamp) .expired
  let store ← get
  let expected ← orTrap (checkedCount u64Max (currentNonce store user) 1)
  ensure (nonce = expected) .invalidNonce
  ensure (∀ executedAt ∈ store.txHash.lookup txHash,
    ¬ env.timestamp - executedAt < txHashTtlSecs) .duplicateTx
  modify fun store =>
    { userNonce := store.userNonce.insert user nonce
      txHash := store.txHash.insert txHash env.timestamp
      pendingQueue := store.pendingQueue ++ [⟨user, txHash, expiryTs⟩] }

/-- What a purge leaves: the hashes, the records that remain and the number purged. -/
structure Purged where
  txHash : Table Bytes Nat
  remaining : List PendingNonceRecord
  purged : Nat

/-- Scan the queue from its front, at most the given number of records, and drop the
expired ones with their hashes. -/
def purgeScan (now : Nat) : Nat → List PendingNonceRecord → Purged → Purged
  | 0, rest, scanned => { scanned with remaining := scanned.remaining ++ rest }
  | _ + 1, [], scanned => scanned
  | left + 1, record :: rest, scanned =>
    if record.expiryTs < now then
      purgeScan now left rest
        { scanned with
          txHash := scanned.txHash.erase record.txHash
          purged := satCount u32Max scanned.purged 1 }
    else
      purgeScan now left rest { scanned with remaining := scanned.remaining ++ [record] }

def purgeExpiredNonces (env : Env) (max : Nat) : ReplayProgram Nat := do
  let store ← get
  let scanned := purgeScan env.timestamp max store.pendingQueue ⟨store.txHash, [], 0⟩
  set { store with
    txHash := scanned.txHash
    pendingQueue := scanned.remaining }
  pure scanned.purged

/-- A hash that a purge looks up afterwards is as it was, or one of the records it dropped
is about it. The induction is on the records still to scan. -/
theorem purgeScan_lookup (now left : Nat) (queue : List PendingNonceRecord) (scanned : Purged)
    (hash : Bytes) :
    (purgeScan now left queue scanned).txHash.lookup hash = scanned.txHash.lookup hash ∨
      ∃ record ∈ queue.take left, record.expiryTs < now ∧ record.txHash = hash := by
  induction queue generalizing left scanned with
  | nil => cases left <;> exact .inl rfl
  | cons record rest ih =>
    cases left with
    | zero => exact .inl rfl
    | succ left =>
      rw [purgeScan, List.take_succ_cons]
      have later {middle : Purged}
          (same : middle.txHash.lookup hash = scanned.txHash.lookup hash) :
          (purgeScan now left rest middle).txHash.lookup hash = scanned.txHash.lookup hash ∨
            ∃ hit ∈ record :: rest.take left, hit.expiryTs < now ∧ hit.txHash = hash := by
        rcases ih left middle with kept | ⟨hit, inside, dropped⟩
        · exact .inl (kept.trans same)
        · exact .inr ⟨hit, List.mem_cons_of_mem _ inside, dropped⟩
      split
      next expired =>
        by_cases about : record.txHash = hash
        · exact .inr ⟨record, List.mem_cons_self, expired, about⟩
        · exact later (AList.lookup_erase_ne (Ne.symm about))
      next => exact later rfl

theorem verifyAndCommit_spec (env : Env) (user : Address) (nonce : Nat) (txHash : Bytes)
    (expiryTs : Nat) {pre : ReplayStore} : wp (verifyAndCommit env user nonce txHash expiryTs)
      (fun _ after => nonce = currentNonce pre user + 1 ∧
        (∀ executedAt ∈ pre.txHash.lookup txHash, txHashTtlSecs ≤ env.timestamp - executedAt) ∧
        after.userNonce = pre.userNonce.insert user nonce ∧
        after.txHash = pre.txHash.insert txHash env.timestamp)
      (fun _ after => after = pre) pre := by
  simp only [verifyAndCommit, wlp_rules, checkedCount_eq_some, not_lt]
  rintro _ _ ⟨_, rfl⟩ rfl fresh
  exact ⟨rfl, fresh⟩

inductive ReplayCall where
  | commit (user : Address) (nonce : Nat) (txHash : Bytes) (expiryTs : Nat)
  | purge (max : Nat)

def ReplayCall.exec (call : ReplayCall) (env : Env) : ReplayProgram Unit :=
  match call with
  | .commit user nonce txHash expiryTs => verifyAndCommit env user nonce txHash expiryTs
  | .purge max => discard (purgeExpiredNonces env max)

structure ReplayInput where
  arrival : Arrival
  call : ReplayCall

def replayStep (input : ReplayInput) (ledger : Ledger ReplayStore) : Ledger ReplayStore :=
  ledger.call input.arrival input.call.exec

def replayStart (timestamp sequence : Nat) : Ledger ReplayStore :=
  ⟨.empty, timestamp, sequence⟩

end StellarSwipe.ReplayProtection
