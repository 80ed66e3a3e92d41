import StellarSwipe.Common.ReplayProtection
import StellarSwipe.Library.Runs

/-!
# Replays and purges

The nonces accepted for a user count up from one whatever is purged.
-/

namespace StellarSwipe.ReplayProtection

open FixedWidth Program Runs

abbrev ReplayTransition := Transition (Ledger ReplayStore) ReplayInput

namespace ReplayTransition

variable (taken : ReplayTransition)

def now : Nat := taken.pre.timestamp + taken.input.arrival.seconds

def Returned : Prop :=
  Accepts (taken.input.call.exec (taken.pre.env taken.input.arrival)) taken.pre.store
deriving Decidable

def nonce (taken : ReplayTransition) : Option (Address × Nat) :=
  match taken.input.call with
  | .commit user nonce _ _ => if taken.Returned then some (user, nonce) else none
  | .purge _ => none

def hash (taken : ReplayTransition) : Option Bytes :=
  match taken.input.call with
  | .commit _ _ txHash _ => if taken.Returned then some txHash else none
  | .purge _ => none

/-- A purge finds no expired record whose hash was executed within the hour. -/
def PurgesSettled (taken : ReplayTransition) : Prop :=
  match taken.input.call with
  | .commit _ _ _ _ => True
  | .purge max => ∀ record ∈ taken.pre.store.pendingQueue.take max,
      record.expiryTs < taken.now →
        ∀ executedAt ∈ taken.pre.store.txHash.lookup record.txHash,
          executedAt + txHashTtlSecs ≤ taken.now

instance : DecidablePred PurgesSettled := fun taken => by
  unfold PurgesSettled
  split <;> infer_instance

end ReplayTransition

/-- The nonces accepted for a user, oldest first. -/
def acceptedNonces (user : Address) (past : List ReplayTransition) : List Nat :=
  (past.filterMap ReplayTransition.nonce).filterMap fun accepted =>
    if accepted.1 = user then some accepted.2 else none

/-- Two executions of one hash are at least an hour apart. -/
def Apart (prior later : ReplayTransition) : Prop :=
  ∀ hash ∈ prior.hash, hash ∈ later.hash → prior.now + txHashTtlSecs ≤ later.now

instance : DecidableRel Apart := fun prior later =>
  inferInstanceAs (Decidable (∀ hash ∈ prior.hash, hash ∈ later.hash →
    prior.now + txHashTtlSecs ≤ later.now))

/-- The nonces counted so far and the hashes remembered so far. -/
structure Protected (past : List ReplayTransition) (ledger : Ledger ReplayStore) : Prop where
  counted : ∀ user, acceptedNonces user past =
    List.range' 1 (currentNonce ledger.store user)
  remembered : ∀ prior ∈ past, ∀ hash ∈ prior.hash,
    prior.now + txHashTtlSecs ≤ ledger.timestamp ∨
      ∃ executedAt ∈ ledger.store.txHash.lookup hash, prior.now ≤ executedAt
  apart : past.Pairwise Apart

theorem acceptedNonces_concat (user : Address) (past : List ReplayTransition)
    (taken : ReplayTransition) : acceptedNonces user (past ++ [taken]) = acceptedNonces user past ++
      acceptedNonces user [taken] := by
  simp [acceptedNonces]

theorem range_concat (count : Nat) :
    List.range' 1 (count + 1) = List.range' 1 count ++ [count + 1] := by
  rw [List.range'_concat, Nat.one_mul, Nat.add_comm 1 count]

section Steps

variable {past : List ReplayTransition} {ledger : Ledger ReplayStore} {input : ReplayInput}

theorem Protected.quiet (kept : Protected past ledger) {after : Ledger ReplayStore}
    (quiet : ReplayTransition.hash ⟨ledger, input, after⟩ = none)
    (uncounted : ReplayTransition.nonce ⟨ledger, input, after⟩ = none)
    (later : ledger.timestamp ≤ after.timestamp)
    (nonces : after.store.userNonce = ledger.store.userNonce)
    (forgets : ∀ hash, after.store.txHash.lookup hash = ledger.store.txHash.lookup hash ∨
      ∀ executedAt ∈ ledger.store.txHash.lookup hash,
        executedAt + txHashTtlSecs ≤ after.timestamp) :
    Protected (past ++ [⟨ledger, input, after⟩]) after := by
  refine ⟨fun user => ?_, fun prior listed hash executed => ?_, ?_⟩
  · rw [acceptedNonces_concat, kept.counted]
    simp [acceptedNonces, uncounted, currentNonce, nonces]
  · rcases mem_snoc.mp listed with inside | rfl
    · rcases kept.remembered prior inside hash executed with old | ⟨executedAt, has, since⟩
      · exact .inl (old.trans later)
      · rcases forgets hash with same | settled
        · exact .inr ⟨executedAt, same ▸ has, since⟩
        · have := settled executedAt has
          exact .inl (by omega)
    · rw [quiet] at executed
      cases executed
  · refine List.pairwise_append.mpr ⟨kept.apart, List.pairwise_singleton _ _, ?_⟩
    rintro prior _ last listed hash _ executed
    obtain rfl := List.mem_singleton.mp listed
    rw [quiet] at executed
    cases executed

/-- An accepted action is counted and remembered, and its hash was not executed within the
hour. -/
theorem Protected.commit (kept : Protected past ledger) {user : Address} {nonce : Nat}
    {txHash : Bytes} {after : Ledger ReplayStore}
    (accepts : ReplayTransition.hash ⟨ledger, input, after⟩ = some txHash)
    (counts : ReplayTransition.nonce ⟨ledger, input, after⟩ = some (user, nonce))
    (arrives : after.timestamp = ledger.timestamp + input.arrival.seconds)
    (next : nonce = currentNonce ledger.store user + 1)
    (fresh : ∀ executedAt ∈ ledger.store.txHash.lookup txHash,
      txHashTtlSecs ≤ after.timestamp - executedAt)
    (nonces : after.store.userNonce = ledger.store.userNonce.insert user nonce)
    (hashes : after.store.txHash = ledger.store.txHash.insert txHash after.timestamp) :
    Protected (past ++ [⟨ledger, input, after⟩]) after := by
  have now : ReplayTransition.now ⟨ledger, input, after⟩ = after.timestamp := arrives.symm
  refine ⟨fun other => ?_, fun prior listed hash executed => ?_, ?_⟩
  · rw [acceptedNonces_concat, kept.counted]
    by_cases own : other = user
    · subst own
      simp [acceptedNonces, counts, next, currentNonce, nonces, range_concat]
    · simp [acceptedNonces, counts, own, Ne.symm own, currentNonce, nonces]
  · rw [hashes, Table.lookup_insert]
    rcases mem_snoc.mp listed with inside | rfl
    · rcases kept.remembered prior inside hash executed with old | ⟨executedAt, has, since⟩
      · exact .inl (by omega)
      · by_cases same : hash = txHash
        · subst same
          have := fresh executedAt has
          simp only [txHashTtlSecs] at this ⊢
          exact .inl (by omega)
        · exact .inr ⟨executedAt, by rwa [if_neg same], since⟩
    · obtain rfl := Option.mem_unique executed accepts
      exact .inr ⟨after.timestamp, by simp, now.le⟩
  · refine List.pairwise_append.mpr ⟨kept.apart, List.pairwise_singleton _ _, ?_⟩
    rintro prior inside last listed hash executed again
    obtain rfl := List.mem_singleton.mp listed
    obtain rfl := Option.mem_unique again accepts
    rw [now]
    rcases kept.remembered prior inside hash executed with old | ⟨executedAt, has, since⟩
    · omega
    · have := fresh executedAt has
      simp only [txHashTtlSecs] at this ⊢
      omega

/-- Every step keeps the protection, when a purge drops nothing from within the hour. -/
theorem Protected.step (kept : Protected past ledger)
    (settled : ReplayTransition.PurgesSettled ⟨ledger, input, replayStep input ledger⟩) :
    Protected (past ++ [⟨ledger, input, replayStep input ledger⟩]) (replayStep input ledger) := by
  have later : ledger.timestamp ≤ (replayStep input ledger).timestamp := Nat.le_add_right _ _
  by_cases returns : Accepts (input.call.exec (ledger.env input.arrival)) ledger.store
  · obtain ⟨_, gave⟩ := gave_of_accepts returns
    obtain ⟨arrival, call⟩ := input
    cases call with
    | commit user nonce txHash expiryTs =>
      obtain ⟨next, fresh, nonces, hashes⟩ :=
        wp_ok (verifyAndCommit_spec _ user nonce txHash expiryTs) gave
      exact kept.commit (if_pos returns) (if_pos returns) rfl next fresh nonces hashes
    | purge max =>
      refine kept.quiet rfl rfl later rfl fun hash => ?_
      rcases purgeScan_lookup (ledger.env arrival).timestamp max ledger.store.pendingQueue
        ⟨ledger.store.txHash, [], 0⟩ hash with same | ⟨record, inside, expired, rfl⟩
      · exact .inl same
      · exact .inr (settled record inside expired)
  · have same : (replayStep input ledger).store = ledger.store := invoke_of_rejected returns
    refine kept.quiet ?_ ?_ later (by rw [same]) fun hash => .inl (by rw [same])
    · rw [ReplayTransition.hash]
      split
      next => exact if_neg returns
      next => rfl
    · rw [ReplayTransition.nonce]
      split
      next => exact if_neg returns
      next => rfl

end Steps

/-- In every run, the nonces accepted for each user are one, two, three and so on, and
executions of one hash are an hour apart when no purge finds an expired record whose hash
was executed within the hour. -/
theorem replays_rejected (timestamp sequence : Nat) (inputs : List ReplayInput)
    (settled : ∀ taken ∈ trace replayStep (replayStart timestamp sequence) inputs,
      ReplayTransition.PurgesSettled taken) :
    let past := trace replayStep (replayStart timestamp sequence) inputs
    (∀ user, acceptedNonces user past = List.range' 1 (acceptedNonces user past).length) ∧
      past.Pairwise Apart := by
  have kept := transition_history_invariant replayStep Protected ReplayTransition.PurgesSettled
    (fun past ledger input guard kept => kept.step guard) (replayStart timestamp sequence)
    ⟨fun _ => rfl, by simp, List.Pairwise.nil⟩ inputs settled
  refine ⟨fun user => ?_, kept.apart⟩
  rw [kept.counted, List.length_range']

/-- A hash is committed with an expiry that comes within the hour, and purged after it. -/
def purgedCommit : List ReplayInput :=
  [⟨⟨100, 1, [1]⟩, .commit 1 1 [7] 100⟩, ⟨⟨1, 1, []⟩, .purge 10⟩]

/-- The hash is accepted again two seconds after it was executed. -/
theorem purged_hash_replayed : ¬ ∀ (timestamp sequence : Nat) (inputs : List ReplayInput),
      (trace replayStep (replayStart timestamp sequence) inputs).Pairwise Apart := by
  intro every
  have apart := every 0 0 (purgedCommit ++ [⟨⟨1, 1, [1]⟩, .commit 1 2 [7] 200⟩])
  exact absurd apart (by decide)

/-- An hour after its execution a hash may be purged and used again. -/
theorem settled_purge_apart :
    let inputs : List ReplayInput := [⟨⟨100, 1, [1]⟩, .commit 1 1 [7] 100⟩,
      ⟨⟨3600, 1, []⟩, .purge 10⟩, ⟨⟨1, 1, [1]⟩, .commit 1 2 [7] 4000⟩]
    let past := trace replayStep (replayStart 0 0) inputs
    (∀ user, acceptedNonces user past = List.range' 1 (acceptedNonces user past).length) ∧
      past.Pairwise Apart :=
  replays_rejected 0 0 _ (by decide)

end StellarSwipe.ReplayProtection
