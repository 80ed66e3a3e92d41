import StellarSwipe.StakeVault.Access

/-!
# Index rewards and queued payouts

Fundings, claims and the queue of payouts that could not be made.
-/

namespace StellarSwipe.StakeVault

open Program FixedWidth RewardIndex

variable (env : Env)

def addIndexRewardAsset (asset : Address) : VaultProgram Unit := do
  requireAuth env (← getAdmin)
  onIndex (addAsset asset)

/-- Fund an amount of an asset pro rata to current participating stake. -/
def fundIndexRewards (funder asset : Address) (amount : Int) : VaultProgram Int := do
  requireAuth env funder
  let index ← onIndex (notifyReward asset amount)
  transfer env asset funder (← get).self amount
  pure index

/-- Anyone: sync the recorded stake of a staker with its real balance. -/
def syncIndexStake (staker : Address) : VaultProgram Unit := do
  onIndex (onStakeChange staker ((← get).vault.custody.stakeOf staker))

namespace QueuedClaims

variable (claims : QueuedClaims)

/-- The nonce the claimant's next queued claim receives. -/
def nonceOf (claimant : Address) : Nat := (claims.nextNonce.lookup claimant).getD 0

def put (claim : QueuedClaim) : QueuedClaims :=
  { claims with claim := claims.claim.insert (claim.claimant, claim.nonce) claim }

def enqueue (env : Env) (claimant token : Address) (amount : Int) : QueuedClaims :=
  { claims with
    nextNonce := claims.nextNonce.insert claimant (claims.nonceOf claimant + 1) }.put
      { claimant
        token
        amount
        nonce := claims.nonceOf claimant
        createdAt := env.timestamp
        expiresAt := laterBy env.timestamp defaultClaimTtlSecs
        status := .pending }

end QueuedClaims

variable (claimant : Address)

/-- Pay an amount now, or queue it if the transfer fails. Returns the nonce of what
was queued. -/
def payOrQueue (token : Address) (amount : Int) : VaultProgram (Option Nat) := do
  ensure (0 < amount) .invalidAmount
  match ← tryTransfer env token (← get).self claimant amount with
  | .ok () => pure none
  | .error _ => do
    let world ← get
    let nonce := world.vault.claims.nonceOf claimant
    discard (orFail (checkedCount u64Max nonce 1) .stakeOverflow)
    set (world.setClaims (world.vault.claims.enqueue env claimant token amount))
    pure (some nonce)

/-- Claim index rewards; a payout that fails is queued. -/
def claimIndexRewards (staker asset : Address) : VaultProgram (Option Nat) := do
  requireAuth env staker
  let amount ← onIndex (takeAccrued staker asset)
  ensure (0 < amount) .invalidAmount
  payOrQueue env staker asset amount

def loadPending (nonce : Nat) : VaultProgram QueuedClaim := do
  let claim ← orFail ((← get).vault.claims.claim.lookup (claimant, nonce)) .noUnstakeQueued
  ensure (claim.status = .pending) .campaignAllocationNotClaimable
  pure claim

def claimQueuedWithdrawal (nonce : Nat) : VaultProgram Int := do
  requireAuth env claimant
  let claim ← loadPending claimant nonce
  ensure (env.timestamp < claim.expiresAt) .campaignAllocationExpired
  modify fun world => world.setClaims (world.vault.claims.put { claim with status := .claimed })
  transfer env claim.token (← get).self claimant claim.amount
  pure claim.amount

def cancelQueuedWithdrawal (nonce : Nat) : VaultProgram Int := do
  requireAuth env claimant
  let claim ← loadPending claimant nonce
  modify fun world => world.setClaims (world.vault.claims.put { claim with status := .cancelled })
  onIndex (creditAccrued claimant claim.token claim.amount)
  pure claim.amount

section Specifications

variable (env : Env) (pre : World)

theorem addIndexRewardAsset_spec (asset : Address) : wlp (addIndexRewardAsset env asset)
      (fun _ after => ∃ index, addAsset asset pre.vault.index = .ok () index ∧
        after = pre.setIndex index) pre := by
  simp only [addIndexRewardAsset, wp_bind, wp_getAdmin, wp_auth, wp_onIndex, asks_true]
  intro _ _ _ _ index added
  exact ⟨index, added, rfl⟩

theorem fundIndexRewards_spec (funder asset : Address) (amount : Int) :
    wlp (fundIndexRewards env funder asset amount) (fun value after => ∃ index, funder ≠ pre.self ∧
        notifyReward asset amount pre.vault.index = .ok value index ∧
        pre.tokens.refusal env asset funder amount = none ∧ after = (pre.setIndex index).setTokens
          (pre.tokens.moved asset funder pre.self amount)) pre := by
  simp only [fundIndexRewards, wlp_rules, wp_auth, wp_onIndex, wp_transfer, true_and]
  intro authorized value index notified accepted
  exact ⟨index, authorized.2, notified, accepted, rfl⟩

theorem syncIndexStake_spec (staker : Address) : wlp (syncIndexStake staker)
      (fun _ after => ∃ index, onStakeChange staker
          (pre.vault.custody.stakeOf staker) pre.vault.index = .ok () index ∧
        after = pre.setIndex index) pre := by
  simp only [syncIndexStake, wlp_rules, wp_onIndex]
  intro _ index synced
  exact ⟨index, synced, rfl⟩

theorem claimIndexRewards_spec (staker asset : Address) : wlp (claimIndexRewards env staker asset)
      (fun _ after => ∃ amount index, staker ≠ pre.self ∧ 0 < amount ∧
        takeAccrued staker asset pre.vault.index = .ok amount index ∧
        ((pre.tokens.refusal env asset pre.self amount = none ∧
          after = (pre.setIndex index).setTokens (pre.tokens.moved asset pre.self staker amount)) ∨
        (pre.vault.claims.nonceOf staker < u64Max ∧
          after = ((pre.setIndex index).setTokens pre.tokens.refused).setClaims
            (pre.vault.claims.enqueue env staker asset amount)))) pre := by
  simp only [claimIndexRewards, payOrQueue, wlp_rules, wp_auth, wp_onIndex, wp_tryTransfer,
    checkedCount_eq_some]
  intro authorized amount index taken pos _
  refine ⟨fun failure _ _ room => ?_, fun accepted => ?_⟩
  · exact ⟨amount, index, authorized.2, pos, taken, Or.inr ⟨Nat.lt_of_succ_le room.1, rfl⟩⟩
  · exact ⟨amount, index, authorized.2, pos, taken, Or.inl ⟨accepted, rfl⟩⟩

theorem claimQueuedWithdrawal_spec (claimant : Address) (nonce : Nat) :
    wlp (claimQueuedWithdrawal env claimant nonce) (fun _ after => ∃ claim, claimant ≠ pre.self ∧
        pre.vault.claims.claim.lookup (claimant, nonce) = some claim ∧ claim.status = .pending ∧
        pre.tokens.refusal env claim.token pre.self claim.amount = none ∧
        after = (pre.setClaims (pre.vault.claims.put
          { claim with status := .claimed })).setTokens
            (pre.tokens.moved claim.token pre.self claimant claim.amount)) pre := by
  simp only [claimQueuedWithdrawal, loadPending, wlp_rules, wp_auth, wp_transfer, true_and]
  intro authorized claim has pending _ accepted
  exact ⟨claim, authorized.2, has, pending, accepted, rfl⟩

theorem cancelQueuedWithdrawal_spec (claimant : Address) (nonce : Nat) :
    wlp (cancelQueuedWithdrawal env claimant nonce) (fun _ after => ∃ claim index,
        pre.vault.claims.claim.lookup (claimant, nonce) = some claim ∧ claim.status = .pending ∧
        creditAccrued claimant claim.token claim.amount pre.vault.index = .ok () index ∧
        after = (pre.setClaims (pre.vault.claims.put
          { claim with status := .cancelled })).setIndex index) pre := by
  simp only [cancelQueuedWithdrawal, loadPending, wlp_rules, wp_auth, wp_onIndex]
  intro _ claim has pending _ index credited
  exact ⟨claim, index, has, pending, credited, rfl⟩

end Specifications

end StellarSwipe.StakeVault
