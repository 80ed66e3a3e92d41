import StellarSwipe.Governance.Storage

/-!
# Staking and delegation

Holders stake out of their balance and delegate the stake they have at that time to one other
holder, for good or until a ledger.
-/

namespace StellarSwipe.Governance

open FixedWidth Program DistinctList

namespace TokenLedger

variable (ledger : TokenLedger) (holder : Address) (amount : Int)

/-- The holder joins the list of holders seen. -/
def track : TokenLedger := { ledger with holders := pushNew ledger.holders holder }

def addBalance : Except GovernanceError TokenLedger :=
  if amount ≤ 0 then .error .invalidAmount
  else do
    let raised ← checkedAdd (ledger.balances.read holder) amount
    pure ({ ledger with balances := ledger.balances.insert holder raised }.track holder)

def subtractBalance : Except GovernanceError TokenLedger :=
  if amount ≤ 0 then .error .invalidAmount
  else if ledger.balances.read holder < amount then .error .insufficientBalance
  else do
    let lowered ← checkedSub (ledger.balances.read holder) amount
    pure ({ ledger with balances := ledger.balances.insert holder lowered }.track holder)

def addStakedBalance : Except GovernanceError TokenLedger :=
  if amount ≤ 0 then .error .invalidAmount
  else do
    let raised ← checkedAdd (ledger.staked.read holder) amount
    pure ({ ledger with staked := ledger.staked.insert holder raised }.track holder)

def subtractStakedBalance : Except GovernanceError TokenLedger :=
  if amount ≤ 0 then .error .invalidAmount
  else if ledger.staked.read holder < amount then .error .insufficientStakedBalance
  else do
    let lowered ← checkedSub (ledger.staked.read holder) amount
    pure ({ ledger with staked := ledger.staked.insert holder lowered }.track holder)

def stake (user : Address) : Except GovernanceError TokenLedger :=
  if amount ≤ 0 then .error .invalidAmount
  else do
    let debited ← ledger.subtractBalance user amount
    debited.addStakedBalance user amount

/-- Unstaking waits for the holder's votes, not for the holder's delegation. -/
def unstake (user : Address) : Except GovernanceError TokenLedger :=
  if amount ≤ 0 then .error .invalidAmount
  else if 0 < (ledger.voteLocks.lookup user).getD 0 then .error .activeVoteLock
  else do
    let released ← ledger.subtractStakedBalance user amount
    released.addBalance user amount

def setVoteLock (activeVotes : Nat) : TokenLedger :=
  { ledger with voteLocks := ledger.voteLocks.insert holder activeVotes }.track holder

end TokenLedger

/-- Upper bound on delegators scanned by one cleanup. -/
def maxCleanupBatch : Nat := 50

namespace DelegationState

variable (state : DelegationState) (sequence : Nat)

variable (delegator : Address)

def IsExpired : Prop :=
  ∃ expiry ∈ state.expiries.lookup delegator, expiry ≤ sequence
deriving Decidable

def IsLive (delegation : VoteDelegation) : Prop :=
  delegation.active = true ∧ ¬ state.IsExpired sequence delegator
deriving Decidable

/-- The delegator has a delegation that counts. -/
def Delegates : Prop :=
  ∃ delegation ∈ state.delegations.lookup delegator, state.IsLive sequence delegator delegation
deriving Decidable

def clearExpiry : DelegationState :=
  { state with expiries := state.expiries.erase delegator }

def setExpiry (expiryLedger : Nat) : DelegationState :=
  { state with expiries := state.expiries.insert delegator expiryLedger }

/-- The delegation recorded under its delegator, who joins the list of delegators. -/
def record (delegation : VoteDelegation) : DelegationState :=
  { state with
    delegations := state.delegations.insert delegator delegation
    delegators := pushNew state.delegators delegator }

/-- The delegation made inactive, with no expiry left. -/
def close (delegator : Address) (delegation : VoteDelegation) : DelegationState :=
  { state with
    delegations := state.delegations.insert delegator { delegation with active := false }
    expiries := state.expiries.erase delegator }

/-- Close the expired delegations of a list of delegators, one after another. -/
def cleanup : List Address → DelegationState → DelegationState
  | [], state => state
  | delegator :: rest, state =>
    if state.IsExpired sequence delegator then
      cleanup rest (match state.delegations.lookup delegator with
        | some delegation => state.close delegator delegation
        | none => state.clearExpiry delegator)
    else cleanup rest state

/-- The power delegated to a user, added up over the delegators in order. -/
def delegatedTo (user : Address) : List Address → Int → Int
  | [], delegated => delegated
  | delegator :: rest, delegated =>
    delegatedTo user rest (match state.delegations.lookup delegator with
      | some delegation =>
        if delegation.delegate = user ∧ state.IsLive sequence delegator delegation then
          i128.saturatingAdd delegated delegation.delegatedPower
        else delegated
      | none => delegated)

end DelegationState

def getEffectiveVotingPower (store : GovStore) (sequence : Nat) (user : Address) : Int :=
  let own := if store.delegation.Delegates sequence user then 0
    else store.tokens.staked.read user
  i128.saturatingAdd own
    (store.delegation.delegatedTo sequence user store.delegation.delegators 0)

def putTokens (tokens : TokenLedger) : GovProgram Unit :=
  modify fun store => store.putTokens tokens

def putDelegation (delegation : DelegationState) : GovProgram Unit :=
  modify fun store => store.putDelegation delegation

def stake (env : Env) (user : Address) (amount : Int) : GovProgram Unit := do
  requireInitialized
  requireNotPaused
  requireAuth env user
  putTokens (← ofExcept ((← get).tokens.stake amount user))

def unstake (env : Env) (user : Address) (amount : Int) : GovProgram Unit := do
  requireInitialized
  requireNotPaused
  requireAuth env user
  putTokens (← ofExcept ((← get).tokens.unstake amount user))

def setVoteLock (env : Env) (admin holder : Address) (activeVotes : Nat) :
    GovProgram Unit := do
  requireAdmin env admin
  putTokens ((← get).tokens.setVoteLock holder activeVotes)

variable (env : Env) (delegator : Address)

/-- Delegate the stake of this moment. Delegating again waits until the delegation is
undone or expired. -/
def delegateVotingPower (delegate : Address) : GovProgram Unit := do
  requireAuth env delegator
  ensure (delegator ≠ delegate) .invalidProposal
  let store ← get
  ensure (¬ store.delegation.Delegates env.sequence delegator) .invalidCommitteeAction
  let power := store.tokens.staked.read delegator
  ensure (0 < power) .noVotingPower
  putDelegation ((store.delegation.clearExpiry delegator).record delegator ⟨delegate, power, true⟩)

def setExpiry (env : Env) (delegator : Address) (expiryLedger : Nat) : GovProgram Unit := do
  ensure (¬ expiryLedger ≤ env.sequence) .invalidDuration
  putDelegation ((← get).delegation.setExpiry delegator expiryLedger)

def delegateUntil (env : Env) (delegator delegate : Address) (expiryLedger : Nat) :
    GovProgram Unit := do
  ensure (¬ expiryLedger ≤ env.sequence) .invalidDuration
  delegateVotingPower env delegator delegate
  setExpiry env delegator expiryLedger

/-- Move the expiry of a delegation that still counts. -/
def renewDelegation (newExpiry : Nat) : GovProgram Unit := do
  requireAuth env delegator
  let state := (← get).delegation
  let delegation ← orFail (state.delegations.lookup delegator) .crossCommitteeRequestNotFound
  ensure (state.IsLive env.sequence delegator delegation) .invalidCommitteeAction
  setExpiry env delegator newExpiry

def undelegateVotingPower : GovProgram Unit := do
  requireAuth env delegator
  let state := (← get).delegation
  let delegation ← orFail (state.delegations.lookup delegator) .crossCommitteeRequestNotFound
  putDelegation (state.close delegator delegation)

/-- Close the expired delegations among a bounded slice of the delegators. -/
def cleanupExpired (start limit : Nat) : GovProgram Unit := do
  let state := (← get).delegation
  let last := min (satCount u32Max start (min limit maxCleanupBatch)) state.delegators.length
  putDelegation (DelegationState.cleanup env.sequence
    ((state.delegators.take last).drop start) state)

inductive PowerCall where
  | stake (user : Address) (amount : Amount)
  | unstake (user : Address) (amount : Amount)
  | setVoteLock (admin holder : Address) (activeVotes : Nat)
  | delegate (delegator delegate : Address)
  | delegateUntil (delegator delegate : Address) (expiryLedger : Nat)
  | renew (delegator : Address) (newExpiry : Nat)
  | undelegate (delegator : Address)
  | cleanup (start limit : Nat)

/-- The entry point of a call. -/
def PowerCall.exec (call : PowerCall) (env : Env) : GovProgram Unit :=
  match call with
  | .stake user amount => Governance.stake env user amount
  | .unstake user amount => Governance.unstake env user amount
  | .setVoteLock admin holder activeVotes => Governance.setVoteLock env admin holder activeVotes
  | .delegate delegator receiver => do
    requireInitialized
    delegateVotingPower env delegator receiver
  | .delegateUntil delegator receiver expiryLedger => do
    requireInitialized
    Governance.delegateUntil env delegator receiver expiryLedger
  | .renew delegator newExpiry => do
    requireInitialized
    renewDelegation env delegator newExpiry
  | .undelegate delegator => do
    requireInitialized
    undelegateVotingPower env delegator
  | .cleanup start limit => cleanupExpired env start limit

/-- What a returning call writes to the tokens and the delegations. -/
inductive PowerEffect (env : Env) (pre : GovStore) : PowerCall → GovStore → Prop where
  | stake {user : Address} {amount : Amount} {ledger : TokenLedger}
      (staked : pre.tokens.stake amount user = .ok ledger) :
      PowerEffect env pre (.stake user amount) (pre.putTokens ledger)
  | unstake {user : Address} {amount : Amount} {ledger : TokenLedger}
      (unstaked : pre.tokens.unstake amount user = .ok ledger) :
      PowerEffect env pre (.unstake user amount) (pre.putTokens ledger)
  | setVoteLock (admin holder : Address) (activeVotes : Nat) :
      PowerEffect env pre (.setVoteLock admin holder activeVotes)
        (pre.putTokens (pre.tokens.setVoteLock holder activeVotes))
  | delegate {delegator delegate : Address}
      (free : ¬ pre.delegation.Delegates env.sequence delegator)
      (pos : 0 < pre.tokens.staked.read delegator) :
      PowerEffect env pre (.delegate delegator delegate) (pre.putDelegation
        ((pre.delegation.clearExpiry delegator).record delegator
          ⟨delegate, pre.tokens.staked.read delegator, true⟩))
  | delegateUntil {delegator delegate : Address} {expiryLedger : Nat}
      (free : ¬ pre.delegation.Delegates env.sequence delegator)
      (pos : 0 < pre.tokens.staked.read delegator) :
      PowerEffect env pre (.delegateUntil delegator delegate expiryLedger)
        (pre.putDelegation (((pre.delegation.clearExpiry delegator).record delegator
          ⟨delegate, pre.tokens.staked.read delegator, true⟩).setExpiry delegator expiryLedger))
  | renew {delegator : Address} {newExpiry : Nat} {delegation : VoteDelegation}
      (has : pre.delegation.delegations.lookup delegator = some delegation)
      (live : pre.delegation.IsLive env.sequence delegator delegation) :
      PowerEffect env pre (.renew delegator newExpiry)
        (pre.putDelegation (pre.delegation.setExpiry delegator newExpiry))
  | undelegate {delegator : Address} {delegation : VoteDelegation}
      (has : pre.delegation.delegations.lookup delegator = some delegation) :
      PowerEffect env pre (.undelegate delegator)
        (pre.putDelegation (pre.delegation.close delegator delegation))
  | cleanup {start limit : Nat} (slice : List Address) :
      PowerEffect env pre (.cleanup start limit)
        (pre.putDelegation (DelegationState.cleanup env.sequence slice pre.delegation))

variable {post : Unit → GovStore → Prop} {pre : GovStore}
  {fault : Fault GovernanceError → GovStore → Prop}

theorem wp_putTokens (tokens : TokenLedger) :
    wp (putTokens tokens) post fault pre ↔ post () (pre.putTokens tokens) := Iff.rfl

theorem wp_putDelegation (delegation : DelegationState) :
    wp (putDelegation delegation) post fault pre ↔ post () (pre.putDelegation delegation) :=
  Iff.rfl

theorem wp_setExpiry (expiryLedger : Nat) :
    wp (setExpiry env delegator expiryLedger) post (fun _ _ => True) pre ↔
      (¬ expiryLedger ≤ env.sequence →
        post () (pre.putDelegation (pre.delegation.setExpiry delegator expiryLedger))) := by
  simp only [setExpiry, wlp_rules, wp_putDelegation]

theorem wp_delegateVotingPower (delegate : Address) :
    wp (delegateVotingPower env delegator delegate) post (fun _ _ => True) pre ↔
      (delegator ∈ env.auths → delegator ≠ delegate →
        ¬ pre.delegation.Delegates env.sequence delegator → 0 < pre.tokens.staked.read delegator →
        post () (pre.putDelegation ((pre.delegation.clearExpiry delegator).record delegator
          ⟨delegate, pre.tokens.staked.read delegator, true⟩))) := by
  simp only [delegateVotingPower, wlp_rules, wp_auth, wp_putDelegation]

theorem PowerCall.exec_effect (call : PowerCall) (env : Env) (pre : GovStore) :
    wlp (call.exec env) (fun _ after => PowerEffect env pre call after) pre := by
  cases call with
  | stake user amount =>
    simp only [exec, Governance.stake, wlp_rules, wp_initialized, wp_notPaused,
      wp_auth, wp_putTokens]
    intro _ _ _ ledger staked
    exact .stake staked
  | unstake user amount =>
    simp only [exec, Governance.unstake, wlp_rules, wp_initialized, wp_notPaused,
      wp_auth, wp_putTokens]
    intro _ _ _ ledger unstaked
    exact .unstake unstaked
  | setVoteLock admin holder activeVotes =>
    simp only [exec, Governance.setVoteLock, wp_rules, wp_requireAdmin, wp_putTokens]
    intro _ _ _
    exact .setVoteLock admin holder activeVotes
  | delegate delegator receiver =>
    simp only [exec, wp_bind, wp_initialized, wp_delegateVotingPower]
    intro _ _ _ free pos
    exact .delegate free pos
  | delegateUntil delegator receiver expiryLedger =>
    simp only [exec, Governance.delegateUntil, wlp_rules, wp_initialized,
      wp_delegateVotingPower, wp_setExpiry]
    intro _ _ _ _ free pos _
    exact .delegateUntil free pos
  | renew delegator newExpiry =>
    simp only [exec, renewDelegation, wlp_rules, wp_initialized, wp_auth,
      wp_setExpiry]
    intro _ _ delegation has live _
    exact .renew has live
  | undelegate delegator =>
    simp only [exec, undelegateVotingPower, wlp_rules, wp_initialized, wp_auth,
      wp_putDelegation]
    intro _ _ delegation has
    exact .undelegate has
  | cleanup start limit =>
    simp only [exec, cleanupExpired, wp_rules, wp_putDelegation]
    exact .cleanup _

end StellarSwipe.Governance
