import StellarSwipe.Authority.Grants
import StellarSwipe.Governance.DepositEffects

/-!
# What calls do to the admin and the tokens

Calls that are not about the admin leave it and the supply alone, and take from the balances of
none but those who authorize them.
-/

namespace StellarSwipe.Authority

open FixedWidth Program Governance Runs OneShot

/-- The supply is the same and no balance fell but of those who authorized it. -/
structure TokensKept (auths : List Address) (pre after : TokenLedger) : Prop where
  supply : after.totalSupply = pre.totalSupply
  balances : ∀ holder ∉ auths, pre.balances.read holder ≤ after.balances.read holder

namespace TokensKept

variable {auths : List Address} {ledger middle after : TokenLedger} {holder : Address}
  {amount : Int}

theorem refl (ledger : TokenLedger) : TokensKept auths ledger ledger := ⟨rfl, fun _ _ => le_rfl⟩

theorem trans (first : TokensKept auths ledger middle) (second : TokensKept auths middle after) :
    TokensKept auths ledger after :=
  ⟨second.supply.trans first.supply, fun holder absent =>
    (first.balances holder absent).trans (second.balances holder absent)⟩

/-- A balance that is written is raised or belongs to one who authorized it. -/
theorem of_insert {value : Int} {holders : List Address}
    (raised : holder ∉ auths → ledger.balances.read holder ≤ value) :
    TokensKept auths ledger { ledger with
      balances := ledger.balances.insert holder value
      holders } := by
  refine ⟨rfl, fun other absent => ?_⟩
  show _ ≤ Table.read (ledger.balances.insert holder value) other
  rw [Table.read_insert]
  split
  next same => exact same ▸ raised (same ▸ absent)
  next => exact le_rfl

theorem credit (added : ledger.addBalance holder amount = .ok after) :
    TokensKept auths ledger after := by
  simp only [TokenLedger.addBalance] at added
  split at added
  · cases added
  · next pos =>
    obtain ⟨raised, exactly, added⟩ := bind_ok added
    cases added
    refine of_insert fun _ => ?_
    rw [(checkedAdd_ok exactly).2]
    omega

theorem debit (subtracted : ledger.subtractBalance holder amount = .ok after)
    (authorized : holder ∈ auths) : TokensKept auths ledger after := by
  simp only [TokenLedger.subtractBalance] at subtracted
  split at subtracted
  · cases subtracted
  · split at subtracted
    · cases subtracted
    · obtain ⟨lowered, _, subtracted⟩ := bind_ok subtracted
      cases subtracted
      exact of_insert fun absent => absurd authorized absent

theorem stake (staked : ledger.stake amount holder = .ok after) (authorized : holder ∈ auths) :
    TokensKept auths ledger after := by
  simp only [TokenLedger.stake] at staked
  split at staked
  · cases staked
  · obtain ⟨debited, paid, staked⟩ := bind_ok staked
    refine (debit paid authorized).trans ?_
    simp only [TokenLedger.addStakedBalance] at staked
    split at staked
    · cases staked
    · obtain ⟨_, _, staked⟩ := bind_ok staked
      cases staked
      exact ⟨rfl, fun _ _ => le_rfl⟩

theorem unstake (unstaked : ledger.unstake amount holder = .ok after) :
    TokensKept auths ledger after := by
  simp only [TokenLedger.unstake] at unstaked
  split at unstaked
  · cases unstaked
  · split at unstaked
    · cases unstaked
    · obtain ⟨released, paid, unstaked⟩ := bind_ok unstaked
      refine trans ?_ (credit unstaked)
      simp only [TokenLedger.subtractStakedBalance] at paid
      split at paid
      · cases paid
      · split at paid
        · cases paid
        · obtain ⟨_, _, paid⟩ := bind_ok paid
          cases paid
          exact ⟨rfl, fun _ _ => le_rfl⟩

end TokensKept

/-- Nothing about the admin changed, and the tokens are kept. -/
structure Stewarded (auths : List Address) (pre after : GovStore) : Prop where
  initialized : after.access.initialized = pre.access.initialized
  admin : after.access.admin = pre.access.admin
  tokens : TokensKept auths pre.tokens after.tokens

namespace Stewarded

variable {auths : List Address} {pre middle after : GovStore}

theorem of_same (access : after.access = pre.access) (tokens : after.tokens = pre.tokens) :
    Stewarded auths pre after :=
  ⟨by rw [access], by rw [access], tokens ▸ .refl _⟩

theorem of_tokens (access : after.access = pre.access)
    (tokens : TokensKept auths pre.tokens after.tokens) : Stewarded auths pre after :=
  ⟨by rw [access], by rw [access], tokens⟩

theorem trans (first : Stewarded auths pre middle) (second : Stewarded auths middle after) :
    Stewarded auths pre after :=
  ⟨second.initialized.trans first.initialized, second.admin.trans first.admin,
    first.tokens.trans second.tokens⟩

instance : IsPreorder GovStore (Stewarded auths) where
  refl _ := of_same rfl rfl
  trans _ _ _ := trans

end Stewarded

section Governance

variable {auths : List Address}

theorem moves_requireInitialized :
    Moves (Stewarded auths) (requireInitialized : GovProgram Unit) :=
  moves_bind moves_get fun _ => moves_ensure _ _

theorem moves_requireNotPaused : Moves (Stewarded auths) requireNotPaused :=
  moves_bind moves_get fun _ => moves_ensure _ _

variable (env : Env)

theorem moves_requireParameterCapability (caller : Address) :
    Moves (Stewarded auths) (requireParameterCapability env caller) :=
  moves_bind moves_requireInitialized fun _ => moves_bind (moves_demand _) fun _ =>
    moves_bind moves_get fun _ =>
      moves_ite _ (moves_pure _) (moves_bind (moves_orFail _ _) fun _ => moves_ensure _ _)

theorem moves_requireAdmin (caller : Address) :
    Moves (Stewarded auths) (Governance.requireAdmin env caller : GovProgram Unit) :=
  moves_bind moves_requireInitialized fun _ => moves_bind (moves_demand _) fun _ =>
    moves_bind moves_get fun _ => moves_bind (moves_orFail _ _) fun _ => moves_ensure _ _

theorem moves_getTimelock : Moves (Stewarded auths) getTimelock :=
  moves_bind moves_get fun _ => moves_orFail _ _

variable (proposalId : Nat)

theorem moves_getProposal : Moves (Stewarded auths) (getProposal proposalId) :=
  moves_bind moves_get fun _ => moves_orFail _ _

variable (proposal : Proposal)

theorem moves_putProposal : Moves (Stewarded auths) (putProposal proposalId proposal) :=
  moves_bind moves_get fun _ => moves_bind (moves_ensure _ _) fun _ =>
    moves_modify fun _ => .of_same rfl rfl

theorem moves_creditBalance (holder : Address) (amount : Int) :
    Moves (Stewarded auths) (creditBalance holder amount) := by
  intro pre
  simp only [creditBalance, wp_rules, wp_putTokens]
  exact ⟨fun _ added => .of_tokens rfl (.credit added), fun _ _ => .of_same rfl rfl⟩

theorem moves_executeProposalAction : Moves (Stewarded auths) (executeProposalAction proposal) := by
  rw [executeProposalAction]
  split
  next => exact moves_modify fun _ => .of_same rfl rfl
  next =>
    exact moves_bind moves_get fun _ => moves_bind (moves_ensure _ _) fun _ =>
      moves_bind (moves_ofExcept _) fun _ => moves_bind (moves_modify fun _ => .of_same rfl rfl)
        fun _ => moves_creditBalance _ _
  next => exact moves_modify fun _ => .of_same rfl rfl
  next => exact moves_modify fun _ => .of_same rfl rfl
  next => exact moves_pure _
  next => exact moves_pure _

theorem moves_executeProposal (executor : Address) :
    Moves (Stewarded auths) (executeProposal env proposalId executor) :=
  moves_bind (moves_demand _) fun _ => moves_bind (moves_getProposal _) fun _ =>
    moves_bind (moves_ensure _ _) fun _ => moves_bind moves_get fun _ =>
      moves_bind (moves_ensure _ _) fun _ => moves_bind (moves_ensure _ _) fun _ =>
        moves_bind (moves_executeProposalAction _) fun _ =>
          moves_bind (moves_putProposal _ _) fun _ => moves_pure _

theorem moves_referenceSupply : Moves (Stewarded auths) (referenceSupply proposal) :=
  moves_ite _ (moves_pure _) (moves_bind moves_get fun _ => moves_bind (moves_orFail _ _) fun _ =>
    moves_bind (moves_ensure _ _) fun _ => moves_pure _)

theorem moves_finalizeProposal : Moves (Stewarded auths) (finalizeProposal env proposalId) := by
  refine moves_bind (moves_getProposal _) fun _ => moves_bind (moves_ensure _ _) fun _ =>
    moves_bind (moves_ensure _ _) fun _ => moves_bind moves_get fun _ =>
      moves_bind moves_get fun _ => ?_
  split
  refine moves_bind (moves_referenceSupply _) fun _ => ?_
  split
  next =>
    refine moves_bind (moves_putProposal _ _) fun _ => moves_ite _ (moves_bind ?_ fun _ =>
      moves_pure _) (moves_pure _)
    exact moves_discard (moves_attempt (moves_executeProposal _ _ _))
  next => exact moves_bind (moves_putProposal _ _) fun _ => moves_pure _

theorem moves_settleProposalDeposit (totalVotes totalSupply : Int) (treasury : Address) :
    Moves (Stewarded auths) (settleProposalDeposit proposalId totalVotes totalSupply treasury) := by
  intro pre
  simp only [settleProposalDeposit, wp_rules]
  split
  next => exact .of_same rfl rfl
  next =>
    simp only [wp_rules, wp_putTokens]
    exact ⟨fun _ added => .of_tokens rfl (.credit added), fun _ _ => .of_same rfl rfl⟩

theorem moves_withdrawProposal (proposer : Address) :
    Moves (Stewarded auths) (withdrawProposal env proposalId proposer) := by
  refine moves_bind (moves_demand _) fun _ => moves_bind (moves_getProposal _) fun _ =>
    moves_bind (moves_ensure _ _) fun _ => moves_bind (moves_ensure _ _) fun _ =>
      moves_bind (moves_ensure _ _) fun _ => moves_bind (moves_putProposal _ _) fun _ =>
        moves_bind moves_get fun _ => moves_ite _ (moves_bind ?_ fun _ =>
          moves_bind (moves_modify fun _ => .of_same rfl rfl) fun _ => moves_pure _) (moves_pure _)
  exact moves_discard (moves_attempt (moves_creditBalance _ _))

theorem moves_runQueuedAction (timelock : Timelock) (actionId : Nat) (action : QueuedAction) :
    Moves (Stewarded auths) (runQueuedAction env timelock actionId action) :=
  moves_bind (moves_bind (moves_getProposal _) fun _ => moves_executeProposalAction _) fun _ =>
    moves_bind (moves_modify fun _ => .of_same rfl rfl) fun _ =>
      moves_bind (moves_getProposal _) fun _ => moves_putProposal _ _

/-- What a program moves along, its return may be used with. -/
theorem wp_moves {α : Type} {program : GovProgram α}
    (moves : Moves (Stewarded auths) program) {pre : GovStore} :
    wp program (fun _ after => Stewarded auths pre after) (fun _ _ => True) pre :=
  wp_then (moves pre) (fun _ _ moved => moved)

theorem PowerCall.exec_stewarded (call : PowerCall) (env : Env) {pre : GovStore} :
    wp (call.exec env) (fun _ after => Stewarded env.auths pre after) (fun _ _ => True) pre := by
  cases call with
  | stake user amount =>
    simp only [PowerCall.exec, Governance.stake, wlp_rules, wp_initialized,
      wp_notPaused, Governance.wp_auth, wp_putTokens]
    intro _ _ authorized ledger staked
    exact .of_tokens rfl (.stake staked authorized)
  | unstake user amount =>
    refine wp_then (PowerCall.exec_effect (.unstake user amount) env pre) ?_
    rintro _ _ @⟨_⟩
    next unstaked => exact .of_tokens rfl (.unstake unstaked)
  | _ =>
    refine wp_then (PowerCall.exec_effect _ env pre) ?_
    rintro _ _ @⟨_⟩
    exact .of_tokens rfl ⟨rfl, fun _ _ => le_rfl⟩

theorem createProposal_authorized (proposer : Address) (proposalType : ProposalType)
    (title description : String) (executionPayload : Bytes) (category : ProposalCategory)
    (useQuadraticVoting : Bool) {pre : GovStore} :
    wp (createProposal env proposer proposalType title description executionPayload category
      useQuadraticVoting) (fun _ _ => proposer ∈ env.auths) (fun _ _ => True) pre := by
  rw [createProposal, wp_bind, Governance.wp_auth]
  intro authorized
  exact (wp_iff _).mpr ⟨fun _ _ _ => authorized, fun _ _ _ => trivial⟩

theorem ProposalCall.exec_stewarded (call : ProposalCall) (env : Env) {pre : GovStore} :
    wp (call.exec env) (fun _ after => Stewarded env.auths pre after) (fun _ _ => True) pre := by
  cases call with
  | create proposer proposalType title description executionPayload category quadratic =>
    rw [ProposalCall.exec, wp_discard, createProposalEntry]
    simp only [wp_bind, wp_initialized, wp_notPaused]
    intro _ _
    refine (wp_iff _).mpr ⟨fun proposalId middle gave => ?_, fun _ _ _ => trivial⟩
    obtain ⟨_, _, snapshots⟩ := wp_ok (createProposal_spec env proposer proposalType title description
      executionPayload category quadratic) gave
    have authorized : proposer ∈ env.auths := wp_ok (createProposal_authorized ..) gave
    simp only [lockProposalDeposit, wlp_rules, wp_ite, wp_putTokens]
    exact ⟨fun _ => .of_same rfl rfl, fun _ tokens lowered =>
      .of_tokens rfl (.debit lowered authorized)⟩
  | castVote proposalId voter voteType =>
    refine wp_then (ProposalCall.exec_effect (.castVote proposalId voter voteType) env) ?_
    rintro _ _ @⟨_⟩
    next cast => cases cast; exact .of_same rfl rfl
  | finalize proposalId =>
    exact wp_moves (moves_discard (moves_bind moves_requireInitialized
      fun _ => moves_bind moves_requireNotPaused fun _ =>
        moves_bind (moves_finalizeProposal _ _) fun _ => moves_bind moves_get fun _ =>
          moves_bind (moves_orTrap _) fun _ => moves_bind moves_get fun _ =>
            moves_bind (moves_discard (moves_attempt (moves_settleProposalDeposit _ _ _ _)))
              fun _ => moves_pure _))
  | execute proposalId executor =>
    exact wp_moves (moves_bind moves_requireInitialized fun _ =>
      moves_bind moves_requireNotPaused fun _ =>
        moves_discard (moves_executeProposal _ _ _))
  | cancel proposalId canceller =>
    refine wp_then (ProposalCall.exec_effect (.cancel proposalId canceller) env) ?_
    rintro _ _ @⟨_⟩
    exact .of_same rfl rfl

theorem TimelockCall.exec_stewarded (call : TimelockCall) (env : Env) {pre : GovStore} :
    wp (call.exec env) (fun _ after => Stewarded env.auths pre after) (fun _ _ => True) pre := by
  cases call with
  | setUp admin minDelay maxDelay guardian =>
    refine wp_moves (moves_bind (moves_requireParameterCapability env admin) fun _ => ?_)
    refine moves_bind (moves_ensure _ _) fun _ => moves_bind ?_ fun _ => ?_
    · exact moves_modify fun _ => .of_same rfl rfl
    · exact moves_modify fun _ => ⟨rfl, rfl, .refl _⟩
  | queue proposalId =>
    refine wp_then (TimelockCall.exec_effect (.queue proposalId) env) ?_
    rintro _ _ effect
    cases effect with
    | queue => exact .of_same rfl rfl
    | execute executes => cases executes
  | executeQueued actionId executor =>
    exact wp_moves (moves_bind moves_requireInitialized fun _ =>
      moves_bind moves_requireNotPaused fun _ =>
        moves_bind (moves_demand _) fun _ => moves_bind moves_getTimelock fun _ =>
          moves_bind (moves_orFail _ _) fun _ => moves_bind (moves_ensure _ _) fun _ =>
            moves_bind (moves_ensure _ _) fun _ => moves_runQueuedAction _ _ _ _)
  | emergencyUnblock actionId guardian | emergencyExecute actionId guardian =>
    exact wp_moves (moves_bind moves_requireInitialized fun _ =>
      moves_bind (moves_demand _) fun _ => moves_bind moves_getTimelock fun _ =>
        moves_bind (moves_ensure _ _) fun _ => moves_bind (moves_orFail _ _) fun _ =>
          moves_bind (moves_ensure _ _) fun _ => moves_bind (moves_ensure _ _) fun _ =>
            moves_runQueuedAction _ _ _ _)
  | cancelQueued actionId canceller =>
    refine wp_then (TimelockCall.exec_effect (.cancelQueued actionId canceller) env) ?_
    rintro _ _ effect
    cases effect with
    | execute executes => cases executes
    | cancelQueued => exact .of_same rfl rfl

/-- Calls of governance leave the admin and the supply alone, and take from the balances of
none but those who authorize them. -/
theorem GovernanceCall.exec_stewarded (call : GovernanceCall) (env : Env) {pre : GovStore} :
    wp (call.exec env) (fun _ after => Stewarded env.auths pre after) (fun _ _ => True) pre := by
  cases call with
  | settings call =>
    refine wp_then (call.exec_effect env) ?_
    rintro _ _ effect
    cases effect <;> exact .of_same rfl rfl
  | power call => exact PowerCall.exec_stewarded call env
  | treasury call =>
    refine wp_then (call.exec_moved env) ?_
    rintro _ _ @⟨_⟩
    exact .of_same rfl rfl
  | proposal call => exact ProposalCall.exec_stewarded call env
  | timelock call => exact TimelockCall.exec_stewarded call env
  | quadratic call =>
    refine wp_then (call.exec_effect env) ?_
    rintro _ _ effect
    cases effect with
    | configure | allocate | verify | verifyWithBonus | refund => exact .of_same rfl rfl
    | cast cast | reallocate _ _ _ cast =>
      cases cast
      exact .of_same rfl rfl
  | reputationVote proposalId voter voteType score =>
    refine wp_then (GovernanceCall.exec_effect (.reputationVote proposalId voter voteType score)
      env) ?_
    rintro _ _ @⟨_⟩
    next cast => cases cast; exact .of_same rfl rfl

theorem DepositCall.exec_stewarded (call : DepositCall) (env : Env) {pre : GovStore} :
    wp (call.exec env) (fun _ after => Stewarded env.auths pre after) (fun _ _ => True) pre := by
  cases call with
  | governance call => exact GovernanceCall.exec_stewarded call env
  | setDepositConfig admin amount minParticipationBps =>
    refine wp_moves (moves_bind moves_requireInitialized fun _ =>
      moves_bind (moves_requireParameterCapability env admin) fun _ =>
        moves_bind (moves_requireAdmin env admin) fun _ => ?_)
    exact moves_bind (moves_ensure _ _) fun _ => moves_modify fun _ => .of_same rfl rfl
  | withdrawProposal proposalId proposer =>
    exact wp_moves (moves_bind moves_requireInitialized fun _ =>
      moves_bind moves_requireNotPaused fun _ => moves_discard (moves_withdrawProposal _ _ _))

end Governance

/-- What a returning call does to the admin, the proposed admin and the tokens. -/
inductive StewardEffect (env : Env) (pre : AuthorityStore) :
    AuthorityCall → AuthorityStore → Prop where
  | opened {admin : Address} {name symbol : String} {totalSupply : Amount}
      {recipients : DistributionRecipients} {after : AuthorityStore}
      (pending : after.pendingAdmin = pre.pendingAdmin) :
      StewardEffect env pre
        (.initializeContract admin name symbol totalSupply recipients) after
  | propose {admin newAdmin : Address} {after : AuthorityStore} (authorized : admin ∈ env.auths)
      (governs : pre.governance.access.admin = some admin)
      (pending : after.pendingAdmin = some newAdmin)
      (kept : Stewarded env.auths pre.governance after.governance) :
      StewardEffect env pre (.proposeKeyRotation admin newAdmin) after
  | accept {newAdmin : Address} {after : AuthorityStore}
      (proposed : pre.pendingAdmin = some newAdmin)
      (admin : after.governance.access.admin = some newAdmin) (settled : after.pendingAdmin = none)
      (tokens : after.governance.tokens = pre.governance.tokens) :
      StewardEffect env pre (.acceptKeyRotation newAdmin) after
  | revoke {guardian : Address} {after : AuthorityStore}
      (revoked : after.governance.access.admin = none) (settled : after.pendingAdmin = none)
      (tokens : after.governance.tokens = pre.governance.tokens) :
      StewardEffect env pre (.emergencyRevokeAdmin guardian) after
  | other {call : AuthorityCall} {after : AuthorityStore}
      (pending : after.pendingAdmin = pre.pendingAdmin ∨ after.pendingAdmin = none)
      (kept : Stewarded env.auths pre.governance after.governance) :
      StewardEffect env pre call after

section Effects

variable {auths : List Address}

/-- The proposed admin is the same, and governance is kept. -/
structure AuthorityKept (auths : List Address) (pre after : AuthorityStore) : Prop where
  pending : after.pendingAdmin = pre.pendingAdmin
  governance : Stewarded auths pre.governance after.governance

instance : IsPreorder AuthorityStore (AuthorityKept auths) where
  refl _ := ⟨rfl, .of_same rfl rfl⟩
  trans _ _ _ first second :=
    ⟨second.pending.trans first.pending, first.governance.trans second.governance⟩

theorem moves_onGovernance {α : Type} {program : GovProgram α}
    (moves : Moves (Stewarded auths) program) :
    Moves (AuthorityKept auths) (onGovernance program) := by
  intro pre
  rw [onGovernance, wp_zoom]
  refine wp_mono (moves pre.governance) (fun _ _ moved => ⟨rfl, moved⟩)
    fun reason _ moved => ?_
  cases reason <;> exact ⟨rfl, moved⟩

theorem moves_computed {α : Type} (value : Except GovernanceError α) :
    Moves (AuthorityKept auths) (computed value) :=
  moves_onGovernance (moves_ofExcept value)

/-- A program that only writes outside governance. -/
theorem moves_beside {change : AuthorityStore → AuthorityStore}
    (beside : ∀ store, (change store).governance = store.governance)
    (pending : ∀ store, (change store).pendingAdmin = store.pendingAdmin) :
    Moves (AuthorityKept auths) (modify change : AuthorityProgram Unit) :=
  moves_modify fun store => ⟨pending store, .of_same (congrArg _ (beside store))
    (congrArg _ (beside store))⟩

/-- A program that only writes what is not about the admin. -/
theorem moves_access {change : AuthorityStore → AccessState}
    (initialized : ∀ store, (change store).initialized = store.governance.access.initialized)
    (admin : ∀ store, (change store).admin = store.governance.access.admin) :
    Moves (AuthorityKept auths)
      (modify fun store => store.putAccess (change store) : AuthorityProgram Unit) :=
  moves_modify fun store => ⟨rfl, initialized store, admin store, .refl _⟩

theorem moves_trackHolder (holder : Address) : Moves (AuthorityKept auths) (trackHolder holder) :=
  moves_modify fun _ => ⟨rfl, .of_tokens rfl ⟨rfl, fun _ _ => le_rfl⟩⟩

theorem moves_addBalance (holder : Address) (amount : Int) :
    Moves (AuthorityKept auths) (addBalance holder amount) := by
  intro pre
  simp only [addBalance, computed, onGovernance, wp_rules, wp_zoom]
  exact ⟨fun _ added => ⟨rfl, .of_tokens rfl (.credit added)⟩, fun _ _ => ⟨rfl, .of_same rfl rfl⟩⟩

variable (env : Env) (caller : Address) (beneficiary : Address)

theorem moves_createVestingSchedule (category : VestingCategory) (totalAmount : Int)
    (startTime cliffSeconds durationSeconds : Nat) :
    Moves (AuthorityKept auths) (createVestingSchedule beneficiary category totalAmount startTime
      cliffSeconds durationSeconds) :=
  moves_bind (moves_ensure _ _) fun _ => moves_bind (moves_ensure _ _) fun _ =>
    moves_bind moves_get fun _ => moves_bind (moves_ensure _ _) fun _ =>
      moves_beside (fun _ => rfl) fun _ => rfl

theorem moves_releaseVestedTokens :
    Moves (AuthorityKept auths) (releaseVestedTokens env beneficiary) :=
  moves_bind moves_get fun _ => moves_bind (moves_orFail _ _) fun _ =>
    moves_bind (moves_ensure _ _) fun _ => moves_bind (moves_computed _) fun _ =>
      moves_bind (moves_ensure _ _) fun _ => moves_bind (moves_computed _) fun _ =>
        moves_bind (moves_beside (fun _ => rfl) fun _ => rfl) fun _ => moves_addBalance _ _

theorem moves_getDistribution : Moves (AuthorityKept auths) getDistribution :=
  moves_bind moves_get fun _ => moves_orFail _ _

theorem moves_accrueLiquidityRewards (tradingVolume : Int) :
    Moves (AuthorityKept auths) (accrueLiquidityRewards beneficiary tradingVolume) :=
  moves_bind (moves_ensure _ _) fun _ => moves_bind moves_getDistribution fun _ =>
    moves_bind (moves_computed _) fun _ => moves_bind (moves_ensure _ _) fun _ =>
      moves_bind (moves_computed _) fun _ => moves_bind (moves_computed _) fun _ =>
        moves_bind (moves_ensure _ _) fun _ => moves_bind (moves_computed _) fun _ =>
          moves_bind moves_get fun _ => moves_bind (moves_computed _) fun _ =>
            moves_bind (moves_beside (fun _ => rfl) fun _ => rfl) fun _ => moves_trackHolder _

theorem moves_claimLiquidityRewards :
    Moves (AuthorityKept auths) (claimLiquidityRewards beneficiary) :=
  moves_bind moves_get fun _ => moves_bind moves_getDistribution fun _ =>
    moves_bind (moves_ensure _ _) fun _ => moves_bind (moves_ensure _ _) fun _ =>
      moves_bind (moves_computed _) fun _ => moves_bind (moves_computed _) fun _ =>
        moves_bind (moves_beside (fun _ => rfl) fun _ => rfl) fun _ => moves_addBalance _ _

theorem moves_setLiquidityMiningConfig (rewardBps : Nat) (threshold : Int) :
    Moves (AuthorityKept auths) (setLiquidityMiningConfig rewardBps threshold) :=
  moves_bind (moves_ensure _ _) fun _ => moves_bind moves_getDistribution fun _ =>
    moves_beside (fun _ => rfl) fun _ => rfl

theorem moves_requireNoTimelockBypass : Moves (Stewarded auths) requireNoTimelockBypass :=
  moves_bind moves_get fun _ => moves_ensure _ _

theorem moves_executeAdminAction (actionId : Nat) (caller : Address) :
    Moves (Stewarded auths) (executeAdminAction env actionId caller) :=
  moves_bind (moves_demand _) fun _ => moves_bind moves_get fun _ =>
    moves_bind (moves_orFail _ _) fun _ => moves_bind (moves_ensure _ _) fun _ =>
      moves_bind (moves_ensure _ _) fun _ => moves_bind (moves_ensure _ _) fun _ =>
        moves_bind (moves_modify fun _ => .of_same rfl rfl) fun _ => moves_pure _

theorem moves_queueAdminAction (actionType : String) :
    Moves (Stewarded auths) (queueAdminAction env caller actionType) :=
  moves_bind moves_getTimelock fun _ => moves_bind (moves_modify fun _ => .of_same rfl rfl)
    fun _ => moves_bind (moves_modify fun _ => .of_same rfl rfl) fun _ => moves_pure _

theorem moves_enter (route : Route) (env : Env) (admin : Address) :
    Moves (Stewarded auths) (route.enter env admin) := by
  cases route with
  | direct =>
    exact moves_bind (moves_requireAdmin _ _) fun _ => moves_requireNoTimelockBypass
  | timelocked actionId =>
    refine moves_bind ?_ fun _ => moves_discard (moves_executeAdminAction _ _ _)
    exact moves_bind moves_requireInitialized fun _ => moves_bind moves_get fun _ =>
      moves_bind (moves_orFail _ _) fun _ => moves_ensure _ _

theorem moves_requireCapability (capability : Capability) :
    Moves (AuthorityKept auths) (requireCapability env caller capability) := by
  refine moves_bind (moves_onGovernance moves_requireInitialized) fun _ =>
    moves_bind (moves_demand _) fun _ => moves_bind moves_get fun _ => ?_
  exact moves_ite _ (moves_pure _) (moves_bind (moves_orFail _ _) fun _ => moves_ensure _ _)

theorem moves_recordGrant (target : Address) (capability : Capability) :
    Moves (AuthorityKept auths) (recordGrant target capability) :=
  moves_modify fun _ => ⟨rfl, rfl, rfl, .refl _⟩

theorem moves_eraseGrant (target : Address) (capability : Capability) :
    Moves (AuthorityKept auths) (eraseGrant target capability) :=
  moves_modify fun _ => ⟨rfl, rfl, rfl, .refl _⟩

theorem moves_queueCapability (actionType : String) :
    Moves (AuthorityKept auths) (queueCapability env caller actionType) :=
  moves_bind (moves_onGovernance moves_requireInitialized) fun _ =>
    moves_onGovernance (moves_discard (moves_queueAdminAction _ _ _))

theorem moves_cancelAdminAction (actionId : Nat) (canceller : Address) :
    Moves (AuthorityKept auths) (cancelAdminAction env actionId canceller) :=
  moves_bind (moves_onGovernance moves_requireInitialized) fun _ =>
    moves_bind (moves_demand _) fun _ => moves_bind moves_get fun _ =>
      moves_bind (moves_orFail _ _) fun _ => moves_bind (moves_ensure _ _) fun _ =>
        moves_bind moves_get fun _ => moves_bind (moves_orFail _ _) fun _ =>
          moves_bind (moves_ensure _ _) fun _ => moves_modify fun _ => ⟨rfl, .of_same rfl rfl⟩

theorem wp_requireAdmin {env : Env} {caller : Address} {pre : AuthorityStore}
    {post : Unit → AuthorityStore → Prop}
    (holds : caller ∈ env.auths → pre.governance.access.admin = some caller → post () pre) :
    wp (requireAdmin env caller) post (fun _ _ => True) pre := by
  rw [requireAdmin, onGovernance, wp_zoom]
  have checked : wp (Governance.requireAdmin env caller)
      (fun _ after => after = pre.governance ∧ caller ∈ env.auths ∧
        after.access.admin = some caller) (fun _ _ => True) pre.governance :=
    (Governance.wp_requireAdmin env caller).mpr fun _ authorized governs =>
      ⟨rfl, authorized, governs⟩
  refine wp_mono checked ?_ ?_
  · rintro _ _ ⟨rfl, authorized, governs⟩
    exact holds authorized governs
  · intro reason _ _
    cases reason <;> trivial

/-- Every call that returns has its effect on the admin and the tokens. -/
theorem AuthorityCall.exec_steward (call : AuthorityCall) (env : Env) {pre : AuthorityStore} :
    wp (call.exec env) (fun _ after => StewardEffect env pre call after) (fun _ _ => True) pre := by
  have other {program : AuthorityProgram Unit} (moves : Moves (AuthorityKept env.auths) program) :
      wp program (fun _ after => StewardEffect env pre call after) (fun _ _ => True) pre :=
    wp_then (moves pre) (fun _ _ kept => .other (.inl kept.pending) kept.governance)
  cases call with
  | initializeContract admin name symbol totalSupply recipients =>
    refine wp_then (initializeContract_leaves env admin name symbol totalSupply recipients
      pre) (fun _ _ same => .opened (congrArg Prod.snd same))
  | proposeKeyRotation admin newAdmin =>
    refine (wp_bind _ _).mpr (wp_requireAdmin fun authorized governs => ?_)
    refine (wp_bind _ _).mpr ((wp_refuse _ _).mpr fun _ => ?_)
    exact .propose authorized governs rfl (.of_same rfl rfl)
  | acceptKeyRotation newAdmin =>
    simp only [AuthorityCall.exec, Authority.acceptKeyRotation, wlp_rules, wp_refuse, putAdmin,
      putPendingAdmin]
    rintro pending proposed rfl
    exact .accept proposed rfl rfl rfl
  | cancelKeyRotation admin =>
    refine (wp_bind _ _).mpr (wp_requireAdmin fun _ _ => ?_)
    exact .other (.inr rfl) (.of_same rfl rfl)
  | emergencyRevokeAdmin guardian =>
    simp only [AuthorityCall.exec, Authority.emergencyRevokeAdmin, wlp_rules, wp_refuse,
      wp_auth, putAdmin, putPendingAdmin]
    intro _ _ _ _
    exact .revoke rfl rfl rfl
  | setGuardian route admin guardian =>
    exact other (moves_bind (moves_onGovernance (moves_enter _ _ _)) fun _ =>
      moves_access (fun _ => rfl) fun _ => rfl)
  | enforceAdminTimelock admin =>
    exact other (moves_bind (moves_onGovernance (moves_requireAdmin _ _)) fun _ =>
      moves_access (fun _ => rfl) fun _ => rfl)
  | setContractPaused caller paused =>
    exact other (moves_bind (moves_requireCapability _ _ _) fun _ =>
      moves_access (fun _ => rfl) fun _ => rfl)
  | grantCapability caller target capability =>
    exact other (moves_bind (moves_requireCapability _ _ _) fun _ =>
      moves_bind (moves_onGovernance moves_requireNoTimelockBypass) fun _ => moves_recordGrant _ _)
  | revokeCapability caller target capability =>
    exact other (moves_bind (moves_requireCapability _ _ _) fun _ =>
      moves_bind (moves_onGovernance moves_requireNoTimelockBypass) fun _ => moves_eraseGrant _ _)
  | queueGrantCapability | queueRevokeCapability => exact other (moves_queueCapability _ _ _)
  | grantCapabilityTimelocked caller actionId target capability =>
    exact other (moves_bind (moves_onGovernance moves_requireInitialized) fun _ =>
      moves_bind (moves_onGovernance (moves_discard (moves_executeAdminAction _ _ _))) fun _ =>
        moves_recordGrant _ _)
  | revokeCapabilityTimelocked caller actionId target capability =>
    exact other (moves_bind (moves_onGovernance moves_requireInitialized) fun _ =>
      moves_bind (moves_onGovernance (moves_discard (moves_executeAdminAction _ _ _))) fun _ =>
        moves_eraseGrant _ _)
  | cancelAdminAction => exact other (moves_cancelAdminAction _ _ _)
  | createVestingSchedule =>
    exact other (moves_bind (moves_onGovernance (moves_enter _ _ _)) fun _ =>
      moves_bind (moves_createVestingSchedule _ _ _ _ _ _) fun _ => moves_trackHolder _)
  | releaseVestedTokens =>
    exact other (moves_bind (moves_onGovernance moves_requireInitialized) fun _ =>
      moves_bind (moves_demand _) fun _ => moves_releaseVestedTokens _ _)
  | accrueLiquidityRewards =>
    exact other (moves_bind (moves_onGovernance (moves_requireAdmin _ _)) fun _ =>
      moves_accrueLiquidityRewards _ _)
  | claimLiquidityRewards =>
    exact other (moves_bind (moves_onGovernance moves_requireInitialized) fun _ =>
      moves_bind (moves_demand _) fun _ => moves_claimLiquidityRewards _)
  | setLiquidityMiningConfig =>
    exact other (moves_bind (moves_onGovernance (moves_requireAdmin _ _)) fun _ =>
      moves_setLiquidityMiningConfig _ _)
  | governance call =>
    rw [AuthorityCall.exec, onGovernance, wp_zoom]
    refine wp_mono (DepositCall.exec_stewarded call env) (fun _ _ kept =>
      .other (.inl rfl) kept) fun reason _ _ => ?_
    cases reason <;> trivial

end Effects

end StellarSwipe.Authority
