import StellarSwipe.Governance.Delegation
import StellarSwipe.Library.Lending
import StellarSwipe.Library.Runs

/-!
# Voting power is backed by stake

A delegation records the stake of its moment.
-/

namespace StellarSwipe.Governance

open FixedWidth Program Runs Table DelegationState TokenLedger List

namespace TokenLedger

variable {ledger after : TokenLedger} {holder user : Address} {amount : Int}

@[simp] theorem track_staked (ledger : TokenLedger) (holder : Address) :
    (ledger.track holder).staked = ledger.staked := rfl

theorem addBalance_staked (added : ledger.addBalance holder amount = .ok after) :
    after.staked = ledger.staked := by
  simp only [addBalance] at added
  split at added
  · cases added
  · obtain ⟨raised, _, added⟩ := bind_ok added
    cases added
    simp

theorem subtractBalance_staked (subtracted : ledger.subtractBalance holder amount = .ok after) :
    after.staked = ledger.staked := by
  simp only [subtractBalance] at subtracted
  split at subtracted
  · cases subtracted
  · split at subtracted
    · cases subtracted
    · obtain ⟨lowered, _, subtracted⟩ := bind_ok subtracted
      cases subtracted
      simp

theorem stake_ok (staked : ledger.stake amount user = .ok after) :
    0 < amount ∧ after.staked = ledger.staked.insert user (ledger.staked.read user + amount) := by
  simp only [stake] at staked
  split at staked
  · cases staked
  next pos =>
    obtain ⟨debited, subtracted, staked⟩ := bind_ok staked
    have kept := subtractBalance_staked subtracted
    simp only [addStakedBalance, if_neg pos] at staked
    obtain ⟨raised, added, staked⟩ := bind_ok staked
    cases staked
    rw [track_staked, (checkedAdd_ok added).2, kept]
    exact ⟨by omega, rfl⟩

theorem unstake_ok (unstaked : ledger.unstake amount user = .ok after) :
    0 < amount ∧ amount ≤ ledger.staked.read user ∧
      after.staked = ledger.staked.insert user (ledger.staked.read user - amount) := by
  simp only [unstake] at unstaked
  split at unstaked
  · cases unstaked
  next pos =>
    split at unstaked
    · cases unstaked
    · obtain ⟨released, subtracted, unstaked⟩ := bind_ok unstaked
      have kept := addBalance_staked unstaked
      simp only [subtractStakedBalance, if_neg pos] at subtracted
      split at subtracted
      · cases subtracted
      next covered =>
        obtain ⟨lowered, checked, subtracted⟩ := bind_ok subtracted
        cases subtracted
        rw [kept, track_staked, (checkedSub_ok checked).2]
        exact ⟨by omega, by omega, rfl⟩

end TokenLedger

namespace DelegationState

variable {state : DelegationState} {sequence ahead : Nat} {delegator other : Address}
  {delegation hit : VoteDelegation}

theorem IsExpired.later (expired : state.IsExpired sequence delegator)
    (passed : sequence ≤ ahead) : state.IsExpired ahead delegator := by
  obtain ⟨expiry, has, pre⟩ := expired
  exact ⟨expiry, has, pre.trans passed⟩

theorem IsLive.prior (live : state.IsLive ahead delegator delegation)
    (passed : sequence ≤ ahead) : state.IsLive sequence delegator delegation :=
  ⟨live.1, fun expired => live.2 (IsExpired.later expired passed)⟩

theorem isExpired_congr {first second : DelegationState}
    (same : first.expiries.lookup delegator = second.expiries.lookup delegator) :
    first.IsExpired sequence delegator ↔ second.IsExpired sequence delegator := by
  simp only [IsExpired, same]

theorem lookup_close (state : DelegationState) (delegator other : Address)
    (delegation : VoteDelegation) : (state.close delegator delegation).delegations.lookup other =
      if other = delegator then some { delegation with active := false }
      else state.delegations.lookup other :=
  lookup_insert _ _ _ _

end DelegationState

/-- Every delegation that counts at a ledger is backed by its delegator's stake, stakes
and delegated powers are not negative, and no delegator is listed twice. -/
structure PowerBacked (tokens : TokenLedger) (delegation : DelegationState) (sequence : Nat) :
    Prop where
  staked : ∀ holder stake, tokens.staked.lookup holder = some stake → 0 ≤ stake
  distinct : delegation.delegators.Nodup
  powers : ∀ delegator hit, delegation.delegations.lookup delegator = some hit →
    0 ≤ hit.delegatedPower
  backed : ∀ delegator hit, delegation.delegations.lookup delegator = some hit →
    delegation.IsLive sequence delegator hit →
    hit.delegatedPower ≤ tokens.staked.read delegator

section Conservation

variable {tokens : TokenLedger} {delegation : DelegationState} {sequence ahead : Nat}

theorem PowerBacked.later (valid : PowerBacked tokens delegation sequence)
    (passed : sequence ≤ ahead) : PowerBacked tokens delegation ahead where
  staked := valid.staked
  distinct := valid.distinct
  powers := valid.powers
  backed delegator hit has live := valid.backed delegator hit has (live.prior passed)

/-- The power that a delegator lends at a ledger. -/
def lentPower (delegation : DelegationState) (sequence : Nat) (delegator : Address) : Int :=
  match delegation.delegations.lookup delegator with
  | some hit => if delegation.IsLive sequence delegator hit then hit.delegatedPower else 0
  | none => 0

/-- Whom a delegator last delegated to, the delegator when nobody. -/
def delegateOf (delegation : DelegationState) (delegator : Address) : Address :=
  match delegation.delegations.lookup delegator with
  | some hit => hit.delegate
  | none => delegator

theorem lentPower_nonneg (valid : PowerBacked tokens delegation sequence) (delegator : Address) :
    0 ≤ lentPower delegation sequence delegator := by
  simp only [lentPower]
  cases hit : delegation.delegations.lookup delegator with
  | none => exact le_refl 0
  | some has =>
    simp only
    split
    · exact valid.powers delegator has hit
    · exact le_refl 0

/-- The sum over the delegators in order never exceeds what they lend to the user, nor
falls below what it starts with. The induction is on the delegators. -/
theorem delegatedTo_bounds (valid : PowerBacked tokens delegation sequence) (user : Address)
    (delegators : List Address) {delegated : Int} (nonneg : 0 ≤ delegated) :
    0 ≤ delegation.delegatedTo sequence user delegators delegated ∧
      delegation.delegatedTo sequence user delegators delegated ≤ delegated +
        (delegators.map fun delegator => if delegateOf delegation delegator = user then
          lentPower delegation sequence delegator else 0).sum := by
  induction delegators generalizing delegated with
  | nil => simpa [delegatedTo] using nonneg
  | cons delegator rest ih =>
    have lent := lentPower_nonneg valid delegator
    rw [delegatedTo, map_cons, sum_cons]
    cases has : delegation.delegations.lookup delegator with
    | none =>
      have rest := ih nonneg
      have nothing : lentPower delegation sequence delegator = 0 := by
        simp only [lentPower, has]
      simp only [nothing, ite_self]
      omega
    | some hit =>
      simp only [delegateOf, lentPower, has] at lent ih ⊢
      by_cases counts : hit.delegate = user ∧ delegation.IsLive sequence delegator hit
      · rw [if_pos counts.2] at lent
        have sumNonneg : 0 ≤ delegated + hit.delegatedPower := by omega
        have lower : 0 ≤ i128.saturatingAdd delegated hit.delegatedPower :=
          i128.le_clamp (by decide) sumNonneg
        have upper : i128.saturatingAdd delegated hit.delegatedPower ≤
            delegated + hit.delegatedPower :=
          i128.saturatingAdd_le (by rw [i128_low]; omega)
        have rest := ih lower
        rw [if_pos counts, if_pos counts.1, if_pos counts.2]
        omega
      · have rest := ih nonneg
        have nothing : (if hit.delegate = user then
            if delegation.IsLive sequence delegator hit then hit.delegatedPower else 0
            else 0) = 0 := by
          by_cases here : hit.delegate = user
          · rw [if_pos here, if_neg fun live => counts ⟨here, live⟩]
          · rw [if_neg here]
        rw [if_neg counts, nothing]
        omega

def ownPower (tokens : TokenLedger) (delegation : DelegationState) (sequence : Nat)
    (user : Address) : Int :=
  if delegation.Delegates sequence user then 0 else tokens.staked.read user

theorem ownPower_nonneg (valid : PowerBacked tokens delegation sequence) (user : Address) :
    0 ≤ ownPower tokens delegation sequence user := by
  simp only [ownPower]
  split
  · exact le_refl 0
  · exact read_nonneg valid.staked user

theorem own_lent_le (valid : PowerBacked tokens delegation sequence) (user : Address) :
    ownPower tokens delegation sequence user + lentPower delegation sequence user ≤
      tokens.staked.read user := by
  have stakeNonneg := read_nonneg valid.staked user
  by_cases delegates : delegation.Delegates sequence user
  · obtain ⟨hit, has, live⟩ := delegates
    have backed := valid.backed user hit has live
    have here : delegation.Delegates sequence user := ⟨hit, has, live⟩
    have hit : delegation.delegations.lookup user = some hit := has
    simp only [ownPower, if_pos here, lentPower, hit, if_pos live]
    omega
  · have nothing : lentPower delegation sequence user = 0 := by
      simp only [lentPower]
      cases has : delegation.delegations.lookup user with
      | none => rfl
      | some hit => exact if_neg fun live => delegates ⟨hit, has, live⟩
    rw [nothing, ownPower, if_neg delegates]
    omega

variable {store : GovStore}

theorem effective_le_commanded (valid : PowerBacked store.tokens store.delegation sequence)
    (user : Address) : getEffectiveVotingPower store sequence user ≤
      Lending.commanded (ownPower store.tokens store.delegation sequence)
        (lentPower store.delegation sequence) (delegateOf store.delegation)
        store.delegation.delegators.toFinset user := by
  have delegated := delegatedTo_bounds valid user store.delegation.delegators (le_refl 0)
  have own := ownPower_nonneg valid user
  rw [← sum_toFinset _ valid.distinct, Int.zero_add] at delegated
  rw [Lending.commanded, Finset.sum_filter]
  have upper : getEffectiveVotingPower store sequence user ≤
      ownPower store.tokens store.delegation sequence user +
        store.delegation.delegatedTo sequence user store.delegation.delegators 0 :=
    i128.saturatingAdd_le (by rw [i128_low]; simp only [ownPower] at own; omega)
  omega

theorem PowerBacked.conserved (valid : PowerBacked store.tokens store.delegation sequence)
    (addresses : Finset Address) :
    ∑ address ∈ addresses, getEffectiveVotingPower store sequence address ≤
      store.tokens.staked.total :=
  calc ∑ address ∈ addresses, getEffectiveVotingPower store sequence address
      ≤ ∑ address ∈ addresses, Lending.commanded
          (ownPower store.tokens store.delegation sequence)
          (lentPower store.delegation sequence) (delegateOf store.delegation)
          store.delegation.delegators.toFinset address :=
        Finset.sum_le_sum fun address _ => effective_le_commanded valid address
    _ ≤ ∑ address ∈ addresses ∪ store.delegation.delegators.toFinset,
          store.tokens.staked.read address :=
        Lending.commanded_le (own_lent_le valid) (ownPower_nonneg valid) (lentPower_nonneg valid) _ _
    _ ≤ store.tokens.staked.total := Lending.reads_le_total valid.staked _

end Conservation

/-- A call that arrives some time after the last one. -/
structure PowerInput where
  arrival : Arrival
  call : PowerCall

def powerStep (input : PowerInput) (ledger : Ledger GovStore) : Ledger GovStore :=
  ledger.call input.arrival input.call.exec

variable (ledger : Ledger GovStore)

/-- Whoever unstakes while a delegation counts keeps the delegated power staked. -/
def PowerGuard (input : PowerInput) : Prop :=
  match input.call with
  | .unstake user amount =>
    ∀ hit, ledger.store.delegation.delegations.lookup user = some hit →
      ledger.store.delegation.IsLive (ledger.env input.arrival).sequence user hit →
      hit.delegatedPower ≤ ledger.store.tokens.staked.read user - amount
  | _ => True

instance (input : PowerInput) : Decidable (PowerGuard ledger input) := by
  unfold PowerGuard
  split <;> infer_instance

section Steps

variable {tokens : TokenLedger} {delegation : DelegationState} {sequence : Nat}

theorem PowerBacked.restake {after : TokenLedger} {user : Address} {stake : Int}
    (valid : PowerBacked tokens delegation sequence) (nonneg : 0 ≤ stake)
    (written : after.staked = tokens.staked.insert user stake)
    (covers : ∀ hit, delegation.delegations.lookup user = some hit →
      delegation.IsLive sequence user hit → hit.delegatedPower ≤ stake) :
    PowerBacked after delegation sequence where
  staked := by
    intro holder hit has
    rw [written, lookup_insert] at has
    split at has
    · cases has
      exact nonneg
    · exact valid.staked holder hit has
  distinct := valid.distinct
  powers := valid.powers
  backed := by
    intro delegator hit has live
    rw [written, read_insert]
    split
    next same =>
      subst same
      exact covers hit has live
    next => exact valid.backed delegator hit has live

theorem PowerBacked.record {delegator receiver : Address}
    (valid : PowerBacked tokens delegation sequence) (pos : 0 < tokens.staked.read delegator) :
    PowerBacked tokens ((delegation.clearExpiry delegator).record delegator
      ⟨receiver, tokens.staked.read delegator, true⟩) sequence where
  staked := valid.staked
  distinct := DistinctList.pushNew_nodup valid.distinct delegator
  powers := by
    intro other hit has
    simp only [DelegationState.record, DelegationState.clearExpiry, lookup_insert]
      at has
    split at has
    · cases has
      exact pos.le
    · exact valid.powers other hit has
  backed := by
    intro other hit has live
    simp only [DelegationState.record, DelegationState.clearExpiry, lookup_insert]
      at has
    split at has
    next same =>
      cases has
      exact same ▸ le_refl _
    next different =>
      refine valid.backed other hit has ⟨live.1, fun expired => live.2 ?_⟩
      apply (isExpired_congr ?_).mp expired
      simp only [DelegationState.record, DelegationState.clearExpiry, lookup_erase,
        if_neg different]

theorem PowerBacked.setExpiry {delegator : Address} {expiryLedger : Nat}
    (valid : PowerBacked tokens delegation sequence)
    (backed : ∀ hit, delegation.delegations.lookup delegator = some hit →
      hit.active = true → hit.delegatedPower ≤ tokens.staked.read delegator) :
    PowerBacked tokens (delegation.setExpiry delegator expiryLedger) sequence where
  staked := valid.staked
  distinct := valid.distinct
  powers := valid.powers
  backed := by
    intro other hit has live
    by_cases same : other = delegator
    · subst same
      exact backed hit has live.1
    · refine valid.backed other hit has ⟨live.1, fun expired => live.2 ?_⟩
      apply (isExpired_congr ?_).mp expired
      simp only [DelegationState.setExpiry, lookup_insert, if_neg same]

theorem PowerBacked.close {delegator : Address} {has : VoteDelegation}
    (valid : PowerBacked tokens delegation sequence)
    (hit : delegation.delegations.lookup delegator = some has) :
    PowerBacked tokens (delegation.close delegator has) sequence where
  staked := valid.staked
  distinct := valid.distinct
  powers := by
    intro other entry lookup
    rw [lookup_close] at lookup
    split at lookup
    · cases lookup
      exact valid.powers delegator has hit
    · exact valid.powers other entry lookup
  backed := by
    intro other entry lookup live
    rw [lookup_close] at lookup
    split at lookup
    · cases lookup
      exact absurd live.1 (by simp)
    next different =>
      refine valid.backed other entry lookup ⟨live.1, fun expired => live.2 ?_⟩
      apply (isExpired_congr ?_).mp expired
      simp only [DelegationState.close, lookup_erase, if_neg different]

/-- Dropping the expiry of a delegator without a delegation changes nothing that counts. -/
theorem PowerBacked.clearExpiry {delegator : Address}
    (valid : PowerBacked tokens delegation sequence)
    (absent : delegation.delegations.lookup delegator = none) :
    PowerBacked tokens (delegation.clearExpiry delegator) sequence where
  staked := valid.staked
  distinct := valid.distinct
  powers := valid.powers
  backed := by
    intro other entry lookup live
    have different : other ≠ delegator := by
      rintro rfl
      rw [DelegationState.clearExpiry, absent] at lookup
      cases lookup
    refine valid.backed other entry lookup ⟨live.1, fun expired => live.2 ?_⟩
    apply (isExpired_congr ?_).mp expired
    simp only [DelegationState.clearExpiry, lookup_erase, if_neg different]

theorem PowerBacked.cleanup (delegators : List Address)
    (valid : PowerBacked tokens delegation sequence) :
    PowerBacked tokens (DelegationState.cleanup sequence delegators delegation) sequence := by
  induction delegators generalizing delegation with
  | nil => exact valid
  | cons delegator rest ih =>
    rw [DelegationState.cleanup]
    split
    · apply ih
      cases hit : delegation.delegations.lookup delegator with
      | none => exact valid.clearExpiry hit
      | some has => exact valid.close hit
    · exact ih valid

theorem effect_backed {ledger : Ledger GovStore} {input : PowerInput}
    {after : GovStore} (valid : PowerBacked ledger.store.tokens ledger.store.delegation
      (ledger.env input.arrival).sequence) (guard : PowerGuard ledger input)
    (effect : PowerEffect (ledger.env input.arrival) ledger.store input.call after) :
    PowerBacked after.tokens after.delegation (ledger.env input.arrival).sequence := by
  obtain ⟨arrival, call⟩ := input
  cases effect with
  | @stake user amount _ staked =>
    obtain ⟨pos, written⟩ := stake_ok staked
    have pre := read_nonneg valid.staked user
    refine valid.restake (by omega) written fun hit has live => ?_
    have backed := valid.backed user hit has live
    omega
  | unstake unstaked =>
    obtain ⟨pos, covered, written⟩ := unstake_ok unstaked
    exact valid.restake (by omega) written guard
  | setVoteLock admin holder activeVotes =>
    have kept : (ledger.store.tokens.setVoteLock holder activeVotes).staked =
        ledger.store.tokens.staked := by
      simp [TokenLedger.setVoteLock]
    refine ⟨?_, valid.distinct, valid.powers, ?_⟩
    · simpa only [GovStore.putTokens, kept] using valid.staked
    · simpa only [GovStore.putTokens, kept] using valid.backed
  | delegate free pos => exact valid.record pos
  | @delegateUntil delegator receiver expiryLedger free pos =>
    refine (valid.record pos).setExpiry fun hit has _ => ?_
    simp only [DelegationState.record, DelegationState.clearExpiry, lookup_insert,
      if_true] at has
    cases has
    exact le_refl _
  | renew has live =>
    refine valid.setExpiry fun hit lookup _ => ?_
    rw [has] at lookup
    cases lookup
    exact valid.backed _ _ has live
  | undelegate has => exact valid.close has
  | cleanup slice => exact valid.cleanup slice

theorem step_backed (ledger : Ledger GovStore) (input : PowerInput)
    (guard : PowerGuard ledger input)
    (valid : PowerBacked ledger.store.tokens ledger.store.delegation ledger.sequence) :
    PowerBacked (powerStep input ledger).store.tokens (powerStep input ledger).store.delegation
      (powerStep input ledger).sequence := by
  have now : PowerBacked ledger.store.tokens ledger.store.delegation
      (ledger.env input.arrival).sequence :=
    valid.later (Nat.le_add_right _ _)
  have specified : wp (input.call.exec (ledger.env input.arrival))
      (fun _ after => PowerBacked after.tokens after.delegation (ledger.env input.arrival).sequence)
      (fun _ _ => PowerBacked ledger.store.tokens ledger.store.delegation
        (ledger.env input.arrival).sequence) ledger.store := by
    apply wp_mono (input.call.exec_effect (ledger.env input.arrival) ledger.store)
    · intro _ after effect
      exact effect_backed now guard effect
    · intro _ _ _
      exact now
  exact invoke_rule (σ := GovStore) specified

end Steps

/-- At every ledger from the last call on, any set of addresses has at most the voting
power of all stakes. -/
def PowerConserved : Prop :=
  ∀ sequence, ledger.sequence ≤ sequence → ∀ addresses : Finset Address,
    ∑ address ∈ addresses, getEffectiveVotingPower ledger.store sequence address ≤
      ledger.store.tokens.staked.total

/-- Along every run in which nobody unstakes below what a counting delegation of theirs
recorded, voting power is conserved. -/
theorem voting_power_conserved (admin : Address) (balances : Table Address Int)
    (holders : List Address) (totalSupply : Int) (timestamp sequence : Nat)
    (inputs : List PowerInput) (guarded : ∀ taken ∈ trace powerStep
      ⟨.initial admin balances holders totalSupply, timestamp, sequence⟩ inputs,
      PowerGuard taken.pre taken.input) : PowerConserved (final powerStep
      ⟨.initial admin balances holders totalSupply, timestamp, sequence⟩ inputs) := by
  have valid := guarded_invariant powerStep
    (fun ledger => PowerBacked ledger.store.tokens ledger.store.delegation ledger.sequence)
    PowerGuard (fun ledger input guard valid => step_backed ledger input guard valid)
    ⟨.initial admin balances holders totalSupply, timestamp, sequence⟩
    ⟨nofun, nodup_nil, nofun, nofun⟩ inputs guarded
  intro sequence passed addresses
  exact (valid.later passed).conserved addresses

section Runs

/-- Two holders with a hundred tokens each. -/
def twoHolders : Table Address Int := (AList.insert 1 100 ∅).insert 2 100

/-- Both stake and one delegates for ten ledgers; when the delegation has expired the
delegator unstakes. -/
def expiredDelegation : List PowerInput :=
  [⟨⟨0, 0, [1]⟩, .stake 1 ⟨60, by decide⟩⟩, ⟨⟨0, 0, [2]⟩, .stake 2 ⟨50, by decide⟩⟩,
    ⟨⟨0, 1, [1]⟩, .delegateUntil 1 2 11⟩,
    ⟨⟨0, 20, [1]⟩, .unstake 1 ⟨60, by decide⟩⟩,
    ⟨⟨0, 0, []⟩, .cleanup 0 10⟩]

/-- A delegator who unstakes at once. -/
def unstakedDelegator : List PowerInput :=
  [⟨⟨0, 0, [1]⟩, .stake 1 ⟨60, by decide⟩⟩, ⟨⟨0, 0, [1]⟩, .delegate 1 2⟩,
    ⟨⟨0, 0, [1]⟩, .unstake 1 ⟨60, by decide⟩⟩]

/-- Unstaking after the delegation has expired conserves the power. -/
theorem expiredDelegation_conserved :
    PowerConserved (final powerStep ⟨.initial 9 twoHolders [1, 2] 200, 0, 0⟩ expiredDelegation) :=
  voting_power_conserved 9 twoHolders [1, 2] 200 0 0 expiredDelegation (by decide)

/-- Unstaking after delegating leaves the delegate with power that no stake backs. -/
theorem unstaked_power_counts :
    ¬ ∀ (admin : Address) (balances : Table Address Int) (holders : List Address)
        (totalSupply : Int) (timestamp sequence : Nat) (inputs : List PowerInput),
      PowerConserved (final powerStep
        ⟨.initial admin balances holders totalSupply, timestamp, sequence⟩ inputs) := by
  intro every
  have conserved := every 9 twoHolders [1, 2] 200 0 0 unstakedDelegator 0 (by decide) {2}
  rw [Finset.sum_singleton] at conserved
  have unbacked : ¬ getEffectiveVotingPower (final powerStep
      ⟨.initial 9 twoHolders [1, 2] 200, 0, 0⟩ unstakedDelegator).store 0 2 ≤
      Table.total (final powerStep
        ⟨.initial 9 twoHolders [1, 2] 200, 0, 0⟩ unstakedDelegator).store.tokens.staked := by
    decide
  exact unbacked conserved

end Runs

namespace DelegationState

variable (state : DelegationState) (sequence : Nat) (delegator : Address)

/-- The delegation of a delegator as far as it counts. -/
def live : Option VoteDelegation :=
  (state.delegations.lookup delegator).filter fun delegation =>
    state.IsLive sequence delegator delegation

variable {state sequence delegator} {first second : DelegationState} {ahead : Nat}

theorem mem_live {delegation : VoteDelegation} : state.live sequence delegator = some delegation ↔
    state.delegations.lookup delegator = some delegation ∧
      state.IsLive sequence delegator delegation := by
  simp only [live, Option.filter_eq_some_iff, decide_eq_true_eq]

theorem delegates_iff : state.Delegates sequence delegator ↔
    (state.live sequence delegator).isSome = true := by
  simp only [Delegates, Option.isSome_iff_exists, mem_live, Option.mem_def]

theorem delegatedTo_cons (user : Address) (rest : List Address) (delegated : Int) :
    state.delegatedTo sequence user (delegator :: rest) delegated =
      state.delegatedTo sequence user rest (match state.live sequence delegator with
        | some delegation =>
          if delegation.delegate = user then i128.saturatingAdd delegated delegation.delegatedPower
          else delegated
        | none => delegated) := by
  rw [delegatedTo, live]
  congr 1
  cases state.delegations.lookup delegator with
  | none => rfl
  | some delegation =>
    by_cases counts : state.IsLive sequence delegator delegation <;> simp [counts, Option.filter]

theorem delegatedTo_congr (user : Address) (delegators : List Address) (delegated : Int)
    (same : ∀ delegator, first.live sequence delegator = second.live sequence delegator) :
    first.delegatedTo sequence user delegators delegated =
      second.delegatedTo sequence user delegators delegated := by
  induction delegators generalizing delegated with
  | nil => rfl
  | cons delegator rest ih =>
    rw [delegatedTo_cons, delegatedTo_cons, same]
    exact ih _

/-- What counts is the same after the entry of an expired delegator is closed or dropped. -/
theorem live_closed (expired : state.IsExpired sequence delegator) (passed : sequence ≤ ahead)
    (other : Address) : (match state.delegations.lookup delegator with
      | some delegation => state.close delegator delegation
      | none => state.clearExpiry delegator).live ahead other = state.live ahead other := by
  ext delegation
  simp only [mem_live]
  by_cases same : other = delegator
  · subst same
    have dead : ¬ (state.delegations.lookup other = some delegation ∧
        state.IsLive ahead other delegation) :=
      fun both => both.2.2 (expired.later passed)
    refine iff_of_false ?_ dead
    rintro ⟨has, active, _⟩
    cases hit : state.delegations.lookup other with
    | none =>
      simp only [hit, clearExpiry] at has
      cases has
    | some prior =>
      simp only [hit, lookup_close, if_true, Option.some.injEq] at has
      rw [← has] at active
      cases active
  · cases hit : state.delegations.lookup delegator with
    | none => simp [clearExpiry, IsLive, IsExpired, same]
    | some prior => simp [close, IsLive, IsExpired, same]

/-- A cleanup changes nothing that counts. The induction is on the delegators. -/
theorem cleanup_live (passed : sequence ≤ ahead) (delegators : List Address)
    (state : DelegationState) (other : Address) :
    (cleanup sequence delegators state).live ahead other = state.live ahead other ∧
      (cleanup sequence delegators state).delegators = state.delegators := by
  induction delegators generalizing state with
  | nil => exact ⟨rfl, rfl⟩
  | cons delegator rest ih =>
    rw [cleanup]
    split
    next expired =>
      obtain ⟨counts, listed⟩ := ih (match state.delegations.lookup delegator with
        | some delegation => state.close delegator delegation
        | none => state.clearExpiry delegator)
      refine ⟨counts.trans (live_closed expired passed other), listed.trans ?_⟩
      cases state.delegations.lookup delegator <;> rfl
    next => exact ih state

/-- A cleanup of delegators that are not expired does nothing. The induction is on them. -/
theorem cleanup_fresh (delegators : List Address)
    (fresh : ∀ delegator ∈ delegators, ¬ state.IsExpired sequence delegator) :
    cleanup sequence delegators state = state := by
  induction delegators with
  | nil => rfl
  | cons delegator rest ih =>
    rw [cleanup, if_neg (fresh delegator mem_cons_self)]
    exact ih fun other mem => fresh other (mem_cons_of_mem _ mem)

/-- Nobody is expired afterwards who was not before, and nobody in the list. -/
theorem cleanup_expired (delegators : List Address) (state : DelegationState) (other : Address)
    (expired : (cleanup sequence delegators state).IsExpired sequence other) :
    state.IsExpired sequence other ∧ other ∉ delegators := by
  induction delegators generalizing state with
  | nil => exact ⟨expired, not_mem_nil⟩
  | cons delegator rest ih =>
    rw [cleanup] at expired
    split at expired
    next =>
      obtain ⟨prior, absent⟩ := ih _ expired
      have left : ∃ expiry, (other ≠ delegator ∧ state.expiries.lookup other = some expiry) ∧
          expiry ≤ sequence := by
        cases hit : state.delegations.lookup delegator <;>
          simpa [hit, close, clearExpiry, IsExpired, lookup_erase] using prior
      obtain ⟨expiry, ⟨apart, kept⟩, passed⟩ := left
      exact ⟨⟨expiry, kept, passed⟩, not_mem_cons_of_ne_of_not_mem apart absent⟩
    next current =>
      obtain ⟨prior, absent⟩ := ih _ expired
      refine ⟨prior, not_mem_cons_of_ne_of_not_mem ?_ absent⟩
      rintro rfl
      exact current prior

end DelegationState

/-- A cleanup of any slice leaves every address its voting power, at its ledger and at every later
one, and a second one changes nothing. -/
theorem cleanup_keeps_power (env : Env) (start limit : Nat) (pre : GovStore) :
    (∀ user sequence, env.sequence ≤ sequence →
      getEffectiveVotingPower (invoke (cleanupExpired env start limit) pre) sequence user =
        getEffectiveVotingPower pre sequence user) ∧
    invoke (cleanupExpired env start limit) (invoke (cleanupExpired env start limit) pre) =
      invoke (cleanupExpired env start limit) pre := by
  let slice := (pre.delegation.delegators.take (min (satCount u32Max start
    (min limit maxCleanupBatch)) pre.delegation.delegators.length)).drop start
  have cleaned : invoke (cleanupExpired env start limit) pre = pre.putDelegation
      (DelegationState.cleanup env.sequence slice pre.delegation) := rfl
  have listed := (cleanup_live (le_refl env.sequence) slice pre.delegation 0).2
  rw [cleaned]
  constructor
  · intro user sequence passed
    have counts (delegator : Address) :=
      (cleanup_live passed slice pre.delegation delegator).1
    simp only [getEffectiveVotingPower, GovStore.putDelegation,
      delegates_iff, counts, listed,
      delegatedTo_congr user _ _ counts]
  · have again : invoke (cleanupExpired env start limit) (pre.putDelegation
        (DelegationState.cleanup env.sequence slice pre.delegation)) = pre.putDelegation
        (DelegationState.cleanup env.sequence slice
          (DelegationState.cleanup env.sequence slice pre.delegation)) := by
      show pre.putDelegation (DelegationState.cleanup env.sequence (List.drop start (List.take
        (min _ (DelegationState.cleanup env.sequence slice pre.delegation).delegators.length)
        (DelegationState.cleanup env.sequence slice pre.delegation).delegators)) _) = _
      rw [listed]
      rfl
    rw [again, cleanup_fresh slice fun delegator mem expired =>
      (cleanup_expired slice pre.delegation delegator expired).2 mem]

end StellarSwipe.Governance
