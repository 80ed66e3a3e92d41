import StellarSwipe.Governance.Contract
import StellarSwipe.Governance.VotingPower

/-!
# What calls on proposals write

One relation for each group of calls says what a call that returns leaves in the storage: the
proposal, the ballots and credits beside it, and what stays.
-/

namespace StellarSwipe.Governance

open FixedWidth Program DistinctList GovStore

section Rules

variable {pre : GovStore}

theorem wp_getProposal {post : Proposal → GovStore → Prop} (proposalId : Nat) :
    wp (getProposal proposalId) post (fun _ _ => True) pre ↔
      ∀ proposal, pre.proposal proposalId = some proposal → post proposal pre := by
  simp [getProposal]

variable {post : Unit → GovStore → Prop}

theorem wp_putProposal (proposalId : Nat) (proposal : Proposal) :
    wp (putProposal proposalId proposal) post (fun _ _ => True) pre ↔
      ((pre.proposal proposalId).isSome = true →
        post () (pre.putProposal proposalId proposal)) := by
  simp [putProposal]

theorem wp_putQuadratic {fault : Fault GovernanceError → GovStore → Prop}
    (quadratic : QuadraticState) :
    wp (putQuadratic quadratic) post fault pre ↔ post () (pre.putQuadratic quadratic) :=
  Iff.rfl

theorem wp_raw {post : Int → GovStore → Prop} (value : Int) :
    wp (raw value) post (fun _ _ => True) pre ↔ (i128.Holds value → post value pre) := by
  simp only [raw, wp_orTrap, asks_true]
  constructor
  · intro every held
    exact every value (if_pos held)
  · intro holds hit same
    obtain ⟨held, rfl⟩ := i128.checked_ok same
    exact holds held

theorem GovStore.proposal_putProposal (store : GovStore)
    (proposalId other : Nat) (proposal : Proposal) :
    (store.putProposal proposalId proposal).proposal other =
      if other = proposalId then some proposal else store.proposal other :=
  Table.lookup_insert _ _ _ _

end Rules

variable (store : GovStore) (proposalType : ProposalType)

/-- The action moves an amount out of the treasury. -/
def ProposalType.IsSpend : Prop :=
  match proposalType with
  | .treasurySpend _ _ _ _ => True
  | .parameterChange _ _ _ | .featureToggle _ _ | .contractUpgrade _ _ | .signalProposal _
  | .custom _ => False

instance : Decidable proposalType.IsSpend := by
  unfold ProposalType.IsSpend
  split <;> infer_instance

def GovStore.CreditsRecipient : Prop :=
  match proposalType with
  | .treasurySpend recipient amount _ _ =>
    (store.tokens.addBalance recipient amount).isOk = true
  | .parameterChange _ _ _ | .featureToggle _ _ | .contractUpgrade _ _ | .signalProposal _
  | .custom _ => True

instance : Decidable (store.CreditsRecipient proposalType) := by
  unfold GovStore.CreditsRecipient
  split <;> infer_instance

/-- The storage with what an action can write, no stake among it. -/
inductive ActionRan (proposalType : ProposalType) (pre : GovStore) :
    GovStore → Prop where
  | intro (registry : Registry) {assets : Table Asset Int} {tokens : TokenLedger}
      (staked : tokens.staked = pre.tokens.staked)
      (unspent : ¬ proposalType.IsSpend → assets = pre.treasury.assets) :
      ActionRan proposalType pre { pre with
        registry
        treasury := { pre.treasury with assets }
        tokens }

/-- What an action that stopped leaves: nothing new, unless it is a spend whose recipient
could not be credited. -/
inductive ActionStopped (proposalType : ProposalType) (pre : GovStore) :
    GovStore → Prop where
  | untouched : ActionStopped proposalType pre pre
  | uncredited (assets : Table Asset Int) (spends : proposalType.IsSpend)
      (refused : ¬ pre.CreditsRecipient proposalType) :
      ActionStopped proposalType pre
        (pre.putTreasury { pre.treasury with assets })

section Actions

variable {pre : GovStore}

theorem executeProposalAction_spec (proposal : Proposal) : wp (executeProposalAction proposal)
      (fun _ after => ActionRan proposal.proposalType pre after)
      (fun _ after => ActionStopped proposal.proposalType pre after) pre := by
  simp only [executeProposalAction]
  cases kind : proposal.proposalType with
  | treasurySpend recipient amount asset purpose =>
    simp only [wp_rules, wp_putTokens]
    refine ⟨fun _ => ⟨fun lowered _ => ⟨fun tokens added => ?_, fun error refused => ?_⟩,
      fun _ _ => .untouched⟩, fun _ => .untouched⟩
    · exact .intro pre.registry (TokenLedger.addBalance_staked added)
        fun unspent => absurd trivial unspent
    · refine .uncredited _ trivial ?_
      have stopped : pre.tokens.addBalance recipient amount = .error error := refused
      simp only [GovStore.CreditsRecipient, stopped]
      exact Bool.false_ne_true
  | parameterChange parameter current proposed =>
    rw [wp_modify]
    exact .intro _ rfl fun _ => rfl
  | featureToggle feature enabled =>
    rw [wp_modify]
    exact .intro _ rfl fun _ => rfl
  | contractUpgrade contract wasmHash =>
    rw [wp_modify]
    exact .intro _ rfl fun _ => rfl
  | signalProposal text => exact .intro pre.registry rfl fun _ => rfl
  | custom executor => exact .intro pre.registry rfl fun _ => rfl

variable {proposalType : ProposalType} {after : GovStore}

theorem ActionRan.proposal (ran : ActionRan proposalType pre after) (proposalId : Nat) :
    after.proposal proposalId = pre.proposal proposalId := by
  cases ran
  rfl

theorem ActionStopped.proposal (stopped : ActionStopped proposalType pre after)
    (proposalId : Nat) : after.proposal proposalId = pre.proposal proposalId := by
  cases stopped <;> rfl

end Actions

def Proposal.executed (proposal : Proposal) (now : Nat) : Proposal :=
  { proposal with
    status := .executed
    executedAt := some now }

/-- Execution of a proposal that succeeded, not after its deadline. -/
inductive Executed (env : Env) (pre : GovStore) (proposalId : Nat) :
    GovStore → Prop where
  | intro {proposal : Proposal} {middle : GovStore}
      (has : pre.proposal proposalId = some proposal)
      (approved : proposal.status = .succeeded)
      (timely : env.timestamp ≤ proposal.executionDeadline)
      (ran : ActionRan proposal.proposalType pre middle) :
      Executed env pre proposalId
        (middle.putProposal proposalId (proposal.executed env.timestamp))

/-- The votes on a proposal reach the quorum and the approval of now. -/
def Passes (proposalId : Nat) : Prop :=
  ∃ proposal supply, store.proposal proposalId = some proposal ∧
    referenceSupply proposal store = .ok supply store ∧
    proposal.MeetsQuorum supply
      (resolveCategoryThresholds store proposal.category store.governanceConfig).1 ∧
    proposal.IsApproved
      (resolveCategoryThresholds store proposal.category store.governanceConfig).2

/-- The outcomes of finalizing a proposal whose voting has ended. -/
inductive Finalized (env : Env) (pre : GovStore) (proposalId : Nat) :
    GovStore → Prop where
  | failed {proposal : Proposal} (has : pre.proposal proposalId = some proposal)
      (isOpen : proposal.IsOpen) :
      Finalized env pre proposalId
        (pre.putProposal proposalId { proposal with status := .failed })
  | succeeded {proposal : Proposal} {after : GovStore}
      (has : pre.proposal proposalId = some proposal) (isOpen : proposal.IsOpen)
      (passes : Passes pre proposalId)
      (stopped : ActionStopped proposal.proposalType
        (pre.putProposal proposalId { proposal with status := .succeeded }) after) :
      Finalized env pre proposalId after
  | executed {proposal : Proposal} {after : GovStore}
      (has : pre.proposal proposalId = some proposal) (isOpen : proposal.IsOpen)
      (passes : Passes pre proposalId)
      (executed : Executed env
        (pre.putProposal proposalId { proposal with status := .succeeded }) proposalId after) :
      Finalized env pre proposalId after

section Execution

variable {pre : GovStore}

theorem executeProposal_spec (env : Env) (proposalId : Nat) (executor : Address) :
    wp (executeProposal env proposalId executor) (fun _ after => Executed env pre proposalId after)
      (fun _ after => after = pre ∨ ∃ proposal, pre.proposal proposalId = some proposal ∧
        ActionStopped proposal.proposalType pre after) pre := by
  simp only [executeProposal, requireAuth, getProposal, wlp_rules, true_or]
  intro _ proposal has approved _ timely
  refine wp_mono (executeProposalAction_spec proposal) ?_
    fun _ after stopped => .inr ⟨proposal, has, stopped⟩
  intro _ middle ran
  have present : middle.proposal proposalId = some proposal := (ran.proposal proposalId).trans has
  simp only [putProposal, wp_rules, present, Option.isSome_some, not_true_eq_false, false_implies,
    and_true, forall_const]
  exact .intro has approved (not_lt.mp timely) ran

theorem Executed.written {env : Env} {proposalId : Nat} {after : GovStore}
    (executed : Executed env pre proposalId after) :
    ∃ proposal, pre.proposal proposalId = some proposal ∧ proposal.status = .succeeded ∧
      env.timestamp ≤ proposal.executionDeadline ∧ ∀ other, after.proposal other =
        if other = proposalId then some (proposal.executed env.timestamp)
        else pre.proposal other := by
  obtain ⟨has, approved, timely, ran⟩ := executed
  refine ⟨_, has, approved, timely, fun other => ?_⟩
  rw [proposal_putProposal, ran.proposal]

theorem referenceSupply_spec (proposal : Proposal) : wp (referenceSupply proposal)
      (fun supply after => after = pre ∧ referenceSupply proposal pre = .ok supply pre)
      (fun _ _ => True) pre := by
  have unchanged : wp (referenceSupply proposal) (fun _ after => after = pre)
      (fun _ _ => True) pre := by
    simp only [referenceSupply, wp_ite, wp_rules, implies_true, and_self]
  refine (wp_iff _).mpr ⟨fun supply after gave => ?_, fun _ _ _ => trivial⟩
  cases wp_ok unchanged gave
  exact ⟨rfl, gave⟩

theorem finalizeProposal_spec (env : Env) (proposalId : Nat) :
    wp (finalizeProposal env proposalId) (fun _ after => Finalized env pre proposalId after)
      (fun _ _ => True) pre := by
  simp only [finalizeProposal, wp_bind, wp_getProposal, wp_ensure, wp_get, implies_true, and_true]
  intro proposal has _ isOpen
  refine wp_then (referenceSupply_spec proposal) ?_
  rintro supply after ⟨rfl, supplied⟩
  simp only [wp_ite, wp_bind, wp_putProposal, wp_pure, has, Option.isSome_some, forall_const]
  refine ⟨fun quorum => ?_, fun _ => .failed has isOpen⟩
  by_cases approved : proposal.IsApproved
      (resolveCategoryThresholds after proposal.category after.governanceConfig).2
  · have passes : Passes after proposalId := ⟨proposal, supply, has, supplied, quorum, approved⟩
    simp only [if_pos approved, wp_discard, wp_attempt]
    refine ⟨fun _ => ?_, fun _ => .succeeded has isOpen passes .untouched⟩
    refine wp_mono (executeProposal_spec env proposalId proposal.proposer)
      (fun _ final executed => .executed has isOpen passes executed) ?_
    rintro (reason | _) final left
    · rcases left with rfl | ⟨succeeded, hit, stopped⟩
      · exact .succeeded has isOpen passes .untouched
      · rw [proposal_putProposal, if_pos rfl] at hit
        cases hit
        exact .succeeded has isOpen passes stopped
    · trivial
  · simp only [if_neg approved]
    exact ⟨fun both => absurd both.1 (by decide), fun _ => .failed has isOpen⟩

end Execution

/-- A proposal with one more vote, which changes its tally by a function. -/
def Proposal.withVote (proposal : Proposal) (voter : Address) (vote : Vote) (change : Int → Int) :
    Proposal :=
  { proposal.tallied vote.voteType change with
    voters := proposal.voters.insert voter vote
    voterList := proposal.voterList ++ [voter]
    status := proposal.activated }

@[simp] theorem Proposal.tallied_status (proposal : Proposal) (voteType : VoteType)
    (change : Int → Int) : (proposal.tallied voteType change).status = proposal.status := by
  cases voteType <;> rfl

theorem Proposal.IsOpen.activated {proposal : Proposal} (isOpen : proposal.IsOpen) :
    proposal.activated = .active := by
  rcases isOpen with pending | active
  · simp [Proposal.activated, pending]
  · simp [Proposal.activated, active]

/-- A vote may be cast: the discussion is over, the voting open and the voter new. -/
structure VoteAdmitted (env : Env) (pre : GovStore) (proposalId : Nat)
    (voter : Address) (proposal : Proposal) : Prop where
  has : pre.proposal proposalId = some proposal
  discussed : proposal.discussionEndsAt ≤ env.timestamp
  isOpen : proposal.IsOpen
  fresh : proposal.voters.lookup voter = none

/-- What a vote with the power of the snapshot writes. -/
inductive VoteCast (env : Env) (pre : GovStore) (proposalId : Nat) (voter : Address)
    (voteType : VoteType) : GovStore → Prop where
  | intro {proposal : Proposal} {power : Int}
      (admitted : VoteAdmitted env pre proposalId voter proposal) (pos : 0 < power)
      (counted : i128.Holds (proposal.tallyOf voteType + power)) :
      VoteCast env pre proposalId voter voteType (pre.putProposal proposalId
        (proposal.withVote voter ⟨voteType, power, env.timestamp⟩
          fun _ => proposal.tallyOf voteType + power))

inductive ReputationVoteCast (env : Env) (pre : GovStore) (proposalId : Nat)
    (voter : Address) (voteType : VoteType) : GovStore → Prop where
  | intro {proposal : Proposal} {weighted : Int}
      (admitted : VoteAdmitted env pre proposalId voter proposal) (nonneg : 0 ≤ weighted) :
      ReputationVoteCast env pre proposalId voter voteType (pre.putProposal proposalId
        (proposal.withVote voter ⟨voteType, weighted, env.timestamp⟩
          fun tally => i128.saturatingAdd tally weighted))

section Votes

variable {pre : GovStore}

theorem castVote_spec (env : Env) (proposalId : Nat) (voter : Address) (voteType : VoteType) :
    wp (castVote env proposalId voter voteType)
      (fun _ after => VoteCast env pre proposalId voter voteType after) (fun _ _ => True) pre := by
  simp only [castVote, wlp_rules, wp_auth, wp_getProposal, wp_putProposal]
  intro _ proposal has discussed _ _ isOpen fresh _ pos tally added _
  obtain ⟨counted, rfl⟩ := checkedAdd_ok added
  exact .intro ⟨has, by omega, isOpen, fresh⟩ (not_le.mp pos) counted

/-- A power that is raised by reputation and scaled back is not negative. -/
theorem castReputationWeightedVote_spec (env : Env) (proposalId : Nat) (voter : Address)
    (voteType : VoteType) (reputationScore : Nat) :
    wp (castReputationWeightedVote env proposalId voter voteType reputationScore)
      (fun _ after => ReputationVoteCast env pre proposalId voter voteType after)
      (fun _ _ => True) pre := by
  simp only [castReputationWeightedVote, wlp_rules, wp_auth, wp_getProposal, wp_putProposal]
  intro _ proposal has discussed _ _ isOpen fresh pos scaled multiplied _
  obtain ⟨_, rfl⟩ := checkedMul_ok multiplied
  refine .intro ⟨has, by omega, isOpen, fresh⟩ ?_
  have power : 0 ≤ voteSnapshot pre proposalId voter := by omega
  exact Int.tdiv_nonneg (mul_nonneg power (Int.natCast_nonneg _)) (by decide)

end Votes

/-- A proposal as it is made: without votes, waiting for the first one. -/
structure Proposal.IsNew (proposal : Proposal) : Prop where
  pending : proposal.status = .pending
  unvoted : ∀ voteType, proposal.tallyOf voteType = 0
  voters : proposal.voters = ∅

/-- What making a proposal writes, under the next id. -/
inductive ProposalMade (pre : GovStore) (proposer : Address) :
    Nat → GovStore → Prop where
  | intro {proposal : Proposal} (isNew : proposal.IsNew) (made : proposal.proposer = proposer)
      (snapshots : Table Address Int) :
      ProposalMade pre proposer pre.proposals.nextProposalId
        { pre with proposals := { pre.proposals with
            voteSnapshots :=
              pre.proposals.voteSnapshots.insert pre.proposals.nextProposalId snapshots
            proposals := pre.proposals.proposals.insert pre.proposals.nextProposalId proposal
            proposalIds := pre.proposals.proposalIds ++ [pre.proposals.nextProposalId]
            nextProposalId := satCount u64Max pre.proposals.nextProposalId 1 } }

/-- What a returning call on proposals writes. -/
inductive ProposalEffect (env : Env) (pre : GovStore) :
    ProposalCall → GovStore → Prop where
  | create {proposer : Address} {proposalType : ProposalType} {title description : String}
      {executionPayload : Bytes} {category : ProposalCategory} {useQuadraticVoting : Bool}
      {proposal : Proposal} (isNew : proposal.IsNew) (snapshots : Table Address Int)
      {tokens : TokenLedger} (staked : tokens.staked = pre.tokens.staked)
      (deposits : DepositState) :
      ProposalEffect env pre
        (.create proposer proposalType title description executionPayload category
          useQuadraticVoting)
        { pre with
          proposals := { pre.proposals with
            voteSnapshots :=
              pre.proposals.voteSnapshots.insert pre.proposals.nextProposalId snapshots
            proposals := pre.proposals.proposals.insert pre.proposals.nextProposalId proposal
            proposalIds := pre.proposals.proposalIds ++ [pre.proposals.nextProposalId]
            nextProposalId := satCount u64Max pre.proposals.nextProposalId 1 }
          tokens
          deposits }
  | castVote {proposalId : Nat} {voter : Address} {voteType : VoteType} {after : GovStore}
      (cast : VoteCast env pre proposalId voter voteType after) :
      ProposalEffect env pre (.castVote proposalId voter voteType) after
  | finalize {proposalId : Nat} {middle : GovStore}
      (finalized : Finalized env pre proposalId middle) {tokens : TokenLedger}
      (staked : tokens.staked = middle.tokens.staked) (deposits : DepositState) :
      ProposalEffect env pre (.finalize proposalId)
        { middle with
          tokens
          deposits }
  | execute {proposalId : Nat} {executor : Address} {after : GovStore}
      (executed : Executed env pre proposalId after) :
      ProposalEffect env pre (.execute proposalId executor) after
  | cancel {proposalId : Nat} {canceller : Address} {proposal : Proposal}
      (has : pre.proposal proposalId = some proposal)
      (unexecuted : proposal.status ≠ .executed) :
      ProposalEffect env pre (.cancel proposalId canceller)
        (pre.putProposal proposalId { proposal with status := .cancelled })

section Proposals

variable {pre : GovStore}

theorem validateProposal_leaves (proposalType : ProposalType) :
    wp (validateProposal proposalType) (fun _ after => after = pre) (fun _ _ => True) pre := by
  cases proposalType <;>
    simp only [validateProposal, wp_rules, wp_ite, implies_true, and_self]

theorem validateExecutionPayload_leaves (proposalType : ProposalType) (payload : Bytes) :
    wp (validateExecutionPayload proposalType payload) (fun _ after => after = pre)
      (fun _ _ => True) pre := by
  cases proposalType <;>
    simp only [validateExecutionPayload, wp_rules, implies_true, and_self]

theorem createProposal_spec (env : Env) (proposer : Address) (proposalType : ProposalType)
    (title description : String) (executionPayload : Bytes) (category : ProposalCategory)
    (useQuadraticVoting : Bool) :
    wp (createProposal env proposer proposalType title description executionPayload category
      useQuadraticVoting) (ProposalMade pre proposer) (fun _ _ => True) pre := by
  simp only [createProposal, wp_bind, wp_auth, wp_ensure, wp_get, implies_true, and_true]
  intro _ _ _ _ _
  refine wp_then (validateProposal_leaves proposalType) ?_
  rintro _ _ rfl
  refine wp_then (validateExecutionPayload_leaves proposalType executionPayload) ?_
  rintro _ after rfl
  simp only [wp_modify, wp_pure]
  refine .intro ?_ ?_ _
  · refine ⟨rfl, fun voteType => ?_, rfl⟩
    cases voteType <;> rfl
  · rfl

theorem lockProposalDeposit_leaves (proposalId : Nat) (proposer : Address) :
    wp (lockProposalDeposit proposalId proposer)
      (fun _ after => ∃ tokens deposits, tokens.staked = pre.tokens.staked ∧
        after = { pre with
          tokens
          deposits }) (fun _ _ => True) pre := by
  simp only [lockProposalDeposit, wlp_rules, wp_ite, wp_putTokens]
  refine ⟨fun _ => ⟨pre.tokens, pre.deposits, rfl, rfl⟩, fun _ tokens lowered => ?_⟩
  exact ⟨tokens, _, TokenLedger.subtractBalance_staked lowered, rfl⟩

theorem settleProposalDeposit_leaves (proposalId : Nat) (totalVotes totalSupply : Int)
    (treasury : Address) :
    wp (attempt (settleProposalDeposit proposalId totalVotes totalSupply treasury))
      (fun _ after => ∃ tokens deposits, tokens.staked = pre.tokens.staked ∧
        after = { pre with
          tokens
          deposits }) (fun _ _ => True) pre := by
  have same : ∃ tokens deposits, tokens.staked = pre.tokens.staked ∧
      pre = { pre with
        tokens
        deposits } := ⟨pre.tokens, pre.deposits, rfl, rfl⟩
  simp only [wp_attempt, settleProposalDeposit, wp_rules]
  cases pre.deposits.locked.lookup proposalId with
  | none => exact same
  | some proposer =>
    simp only [wp_rules, wp_putTokens]
    refine ⟨fun tokens raised => ?_, fun _ _ => same⟩
    exact ⟨tokens, _, TokenLedger.addBalance_staked raised, rfl⟩

theorem ProposalCall.exec_effect (call : ProposalCall) (env : Env) :
    wp (call.exec env) (fun _ after => ProposalEffect env pre call after) (fun _ _ => True)
      pre := by
  cases call with
  | create proposer proposalType title description executionPayload category useQuadraticVoting =>
    simp only [exec, createProposalEntry, wp_bind, wp_discard, wp_initialized,
      wp_notPaused]
    intro _ _
    refine wp_then (createProposal_spec env proposer proposalType title description
      executionPayload category useQuadraticVoting) ?_
    rintro _ _ ⟨isNew, _, snapshots⟩
    simp only [wp_pure]
    refine wp_then (lockProposalDeposit_leaves _ _) ?_
    rintro _ final ⟨tokens, deposits, staked, rfl⟩
    have kept : tokens.staked = pre.tokens.staked := staked
    exact .create isNew snapshots kept deposits
  | castVote proposalId voter voteType =>
    simp only [exec, wp_bind, wp_initialized, wp_notPaused]
    intro _ _
    exact wp_then (castVote_spec env proposalId voter voteType)
      (fun _ _ cast => .castVote cast)
  | finalize proposalId =>
    simp only [exec, finalizeProposalEntry, wp_discard, wp_bind, wp_initialized,
      wp_notPaused]
    intro _ _
    refine wp_then (finalizeProposal_spec env proposalId) ?_
    intro _ middle finalized
    simp only [wp_get, wp_orTrap, wp_pure, implies_true, and_true]
    intro proposal _
    refine wp_then (settleProposalDeposit_leaves proposalId _ _ _) ?_
    rintro _ after ⟨tokens, deposits, staked, rfl⟩
    exact .finalize finalized staked deposits
  | execute proposalId executor =>
    simp only [exec, wp_bind, wp_discard, wp_initialized, wp_notPaused]
    intro _ _
    exact wp_then (executeProposal_spec env proposalId executor)
      (fun _ _ executed => .execute executed)
  | cancel proposalId canceller =>
    simp only [exec, cancelProposal, wp_bind, wp_discard, wp_initialized, wp_auth,
      wp_getProposal, wp_get, wp_orFail, wp_ensure, wp_putProposal, wp_pure, implies_true, and_true]
    intro _ _ proposal has _ _ _ unexecuted _
    exact .cancel has unexecuted

end Proposals

def TimelockCall.executes (call : TimelockCall) : Option Nat :=
  match call with
  | .executeQueued actionId _ | .emergencyUnblock actionId _ | .emergencyExecute actionId _ =>
    some actionId
  | .setUp _ _ _ _ | .queue _ | .cancelQueued _ _ => none

/-- The queued action that a returning call executes, as the storage holds it. -/
def GovStore.queuedAction (actionId : Nat) : Option QueuedAction :=
  store.timelock.bind fun timelock => timelock.find actionId

/-- The action of a queued action's proposal ran, whatever the proposal's status, and both
are marked executed. -/
inductive QueuedRan (env : Env) (pre : GovStore) (actionId : Nat) :
    GovStore → Prop where
  | intro {action : QueuedAction} {proposal : Proposal} {middle : GovStore}
      (queued : pre.queuedAction actionId = some action)
      (has : pre.proposal action.proposalId = some proposal)
      (ran : ActionRan proposal.proposalType pre middle) (timelock : Timelock) :
      QueuedRan env pre actionId ((middle.putTimelock timelock).putProposal action.proposalId
        (proposal.executed env.timestamp))

/-- What a returning call on the timelock writes. -/
inductive TimelockEffect (env : Env) (pre : GovStore) :
    TimelockCall → GovStore → Prop where
  | setUp (admin : Address) (minDelay maxDelay : Nat) (guardian : Address) (timelock : Timelock)
      (access : AccessState) :
      TimelockEffect env pre (.setUp admin minDelay maxDelay guardian)
        { pre with
          timelock := some timelock
          access }
  | queue {proposalId : Nat} {proposal : Proposal}
      (has : pre.proposal proposalId = some proposal)
      (approved : proposal.status = .succeeded) (timelock : Timelock) :
      TimelockEffect env pre (.queue proposalId) (pre.putTimelock timelock)
  | execute {call : TimelockCall} {actionId : Nat} {after : GovStore}
      (executes : call.executes = some actionId) (ran : QueuedRan env pre actionId after) :
      TimelockEffect env pre call after
  | cancelQueued {actionId : Nat} {canceller : Address} {action : QueuedAction}
      {proposal : Proposal} (queued : pre.queuedAction actionId = some action)
      (has : pre.proposal action.proposalId = some proposal) (timelock : Timelock) :
      TimelockEffect env pre (.cancelQueued actionId canceller)
        ((pre.putTimelock timelock).putProposal action.proposalId
          { proposal with status := .cancelled })

section Timelock

variable {pre : GovStore}

theorem QueuedRan.written {env : Env} {actionId : Nat} {after : GovStore}
    (ran : QueuedRan env pre actionId after) :
    ∃ action proposal, pre.queuedAction actionId = some action ∧
      pre.proposal action.proposalId = some proposal ∧ ∀ other, after.proposal other =
        if other = action.proposalId then some (proposal.executed env.timestamp)
        else pre.proposal other := by
  obtain ⟨queued, has, acted, timelock⟩ := ran
  refine ⟨_, _, queued, has, fun other => ?_⟩
  rw [proposal_putProposal]
  exact if_congr Iff.rfl rfl (acted.proposal other)

theorem runQueuedAction_spec (env : Env) {timelock : Timelock}
    (installed : pre.timelock = some timelock)
    {actionId : Nat} {action : QueuedAction} (hit : timelock.find actionId = some action) :
    wp (runQueuedAction env timelock actionId action)
      (fun _ after => QueuedRan env pre actionId after) (fun _ _ => True) pre := by
  simp only [runQueuedAction, executeProposalActionById, markProposalExecuted, wp_bind,
    wp_getProposal]
  intro proposal has
  refine wp_then (executeProposalAction_spec proposal) ?_
  intro _ middle ran
  simp only [wp_putTimelock, wp_putProposal]
  intro same present _
  have queued : pre.queuedAction actionId = some action := by
    simp only [queuedAction, installed, Option.bind_some, hit]
  have kept : middle.proposal action.proposalId = some same := present
  rw [ran.proposal, has, Option.some.injEq] at kept
  subst kept
  exact .intro queued has ran _

theorem TimelockCall.exec_effect (call : TimelockCall) (env : Env) :
    wp (call.exec env) (fun _ after => TimelockEffect env pre call after) (fun _ _ => True)
      pre := by
  -- The three calls that execute differ in what they check.
  have execute : ∀ {call : TimelockCall} {actionId : Nat} {timelock : Timelock}
      {action : QueuedAction}, call.executes = some actionId → pre.timelock = some timelock →
      timelock.find actionId = some action →
      wp (runQueuedAction env timelock actionId action)
        (fun _ after => TimelockEffect env pre call after) (fun _ _ => True) pre := by
    intro call actionId timelock action executes installed hit
    exact wp_then (runQueuedAction_spec env installed hit)
      (fun _ _ ran => .execute executes ran)
  cases call with
  | setUp admin minDelay maxDelay guardian =>
    simp only [exec, initializeTimelock, requireParameterCapability, wlp_rules,
      wp_initialized, wp_auth, wp_ite, wp_putTimelock]
    refine fun _ _ => ⟨fun _ _ => ?_, fun _ _ _ _ _ => ?_⟩
    · exact .setUp admin minDelay maxDelay guardian _ _
    · exact .setUp admin minDelay maxDelay guardian _ _
  | queue proposalId =>
    simp only [exec, queueAction, wlp_rules, wp_initialized, wp_notPaused,
      wp_getProposal, wp_getTimelock, wp_putTimelock]
    intro _ _ proposal has approved timelock _ _
    exact .queue has approved _
  | executeQueued actionId executor =>
    simp only [exec, executeQueuedAction, wlp_rules, wp_initialized, wp_notPaused,
      wp_auth, wp_getTimelock]
    intro _ _ _ timelock installed action hit _ _
    exact execute rfl installed hit
  | emergencyUnblock actionId guardian =>
    -- One rule at a time: a rewrite under the binder of the action evaluates the grace period.
    rw [exec, wp_bind, wp_initialized]
    intro _
    rw [emergencyUnblockAction, wp_bind, wp_auth]
    intro _
    rw [wp_bind, wp_getTimelock]
    intro timelock installed
    rw [wp_bind, wp_ensure]
    refine ⟨fun _ => ?_, fun _ => trivial⟩
    rw [wp_bind, wp_orFail]
    refine ⟨fun action hit => ?_, fun _ => trivial⟩
    rw [wp_bind, wp_ensure]
    refine ⟨fun _ => ?_, fun _ => trivial⟩
    rw [wp_bind, wp_ensure]
    refine ⟨fun _ => ?_, fun _ => trivial⟩
    exact execute rfl installed hit
  | emergencyExecute actionId guardian =>
    simp only [exec, Governance.emergencyExecute, wlp_rules, wp_initialized, wp_auth,
      wp_getTimelock]
    intro _ _ timelock installed _ action hit _ _
    exact execute rfl installed hit
  | cancelQueued actionId canceller =>
    simp only [exec, cancelQueuedAction, wlp_rules, wp_initialized, wp_auth,
      wp_getTimelock, wp_putTimelock, wp_getProposal, wp_putProposal]
    intro _ _ timelock installed _ _ _ action hit _ proposal has _
    have queued : pre.queuedAction actionId = some action := by
      simp only [queuedAction, installed, Option.bind_some, hit]
    exact .cancelQueued queued has _

end Timelock

section Deciding

theorem saturatingMul_eq {value factor : Int} (nonneg : 0 ≤ value) (factorNonneg : 0 ≤ factor) :
    saturatingMul value factor = min (value * factor) i128.high := by
  have product : 0 ≤ value * factor := mul_nonneg nonneg factorNonneg
  simp only [saturatingMul, Range.clamp, i128_low, i128_high]
  omega

theorem saturatingMul_min {value factor : Int} (nonneg : 0 ≤ value) (factorNonneg : 0 ≤ factor) :
    saturatingMul (min value i128.high) factor = min (value * factor) i128.high := by
  have high : (0 : Int) ≤ i128.high := by decide
  rw [saturatingMul_eq (le_min nonneg high) factorNonneg]
  rcases le_total value i128.high with small | large
  · rw [min_eq_left small]
  · rw [min_eq_right large]
    rcases factorNonneg.eq_or_lt with rfl | pos
    · simp
    · have least : i128.high ≤ i128.high * factor := le_mul_of_one_le_right high pos
      rw [min_eq_right least, min_eq_right (least.trans (Int.mul_le_mul_of_nonneg_right large
        factorNonneg))]

variable (proposal : Proposal) (supply : Int) (quorumBps approvalBps : Nat)

namespace Proposal

/-- Who voted, and who voted for or against, without saturation. -/
def allVotes : Int := proposal.votesFor + proposal.votesAgainst + proposal.votesAbstain

def decidingVotes : Int := proposal.votesFor + proposal.votesAgainst

/-- The votes meet the quorum and the approval as exact comparisons. -/
def DeservesApproval : Prop :=
  supply * quorumBps ≤ proposal.allVotes * bpsDenominator ∧ 0 < proposal.decidingVotes ∧
    proposal.decidingVotes * approvalBps ≤ proposal.votesFor * bpsDenominator

/-- Both comparisons hold, or one fails without reaching the largest amount, or nobody voted for
or against. -/
def DecidedExactly : Prop :=
  (supply * quorumBps ≤ proposal.allVotes * bpsDenominator ∧
    proposal.decidingVotes * approvalBps ≤ proposal.votesFor * bpsDenominator) ∨
  proposal.allVotes * bpsDenominator < min (supply * quorumBps) i128.high ∨
  proposal.votesFor * bpsDenominator < min (proposal.decidingVotes * approvalBps) i128.high ∨
  proposal.decidingVotes ≤ 0

/-- No kind of vote is negative. -/
structure Counted : Prop where
  votesFor : 0 ≤ proposal.votesFor
  votesAgainst : 0 ≤ proposal.votesAgainst
  votesAbstain : 0 ≤ proposal.votesAbstain

end Proposal

variable {proposal supply quorumBps approvalBps}

theorem meetsQuorum_iff (counted : proposal.Counted) (pos : 0 < supply) :
    proposal.MeetsQuorum supply quorumBps ↔
      min (supply * quorumBps) i128.high ≤ min (proposal.allVotes * bpsDenominator) i128.high := by
  obtain ⟨votesFor, votesAgainst, votesAbstain⟩ := counted
  have total : proposal.totalVotes = min proposal.allVotes i128.high := by
    simp only [Proposal.totalVotes, Proposal.allVotes, Range.saturatingAdd, Range.clamp, i128_low,
      i128_high]
    omega
  rw [Proposal.MeetsQuorum, total, saturatingMul_eq pos.le (Int.natCast_nonneg _),
    saturatingMul_min (by simp only [Proposal.allVotes]; omega) (by decide)]

theorem isApproved_iff (counted : proposal.Counted) :
    proposal.IsApproved approvalBps ↔ 0 < proposal.decidingVotes ∧
      min (proposal.decidingVotes * approvalBps) i128.high ≤
        min (proposal.votesFor * bpsDenominator) i128.high := by
  obtain ⟨votesFor, votesAgainst, _⟩ := counted
  have cast : i128.saturatingAdd proposal.votesFor proposal.votesAgainst =
      min proposal.decidingVotes i128.high := by
    simp only [Proposal.decidingVotes, Range.saturatingAdd, Range.clamp, i128_low, i128_high]
    omega
  have nonneg : 0 ≤ proposal.decidingVotes := add_nonneg votesFor votesAgainst
  have some : 0 < min proposal.decidingVotes i128.high ↔ 0 < proposal.decidingVotes := by
    rw [lt_min_iff]
    exact and_iff_left (by decide)
  rw [Proposal.IsApproved, cast, saturatingMul_min nonneg (Int.natCast_nonneg _),
    saturatingMul_eq votesFor (by decide), some]

theorem decides_iff (counted : proposal.Counted) (pos : 0 < supply) :
    ((proposal.MeetsQuorum supply quorumBps ∧ proposal.IsApproved approvalBps) ↔
      proposal.DeservesApproval supply quorumBps approvalBps) ↔
    proposal.DecidedExactly supply quorumBps approvalBps := by
  rw [meetsQuorum_iff counted pos, isApproved_iff counted, Proposal.DeservesApproval,
    Proposal.DecidedExactly]
  generalize supply * quorumBps = needed, proposal.allVotes * bpsDenominator = reached,
    proposal.decidingVotes * approvalBps = required, proposal.votesFor * bpsDenominator = approving
  omega

theorem referenceSupply_pos (proposal : Proposal) {pre : GovStore} :
    wlp (referenceSupply proposal) (fun supply _ => 0 < supply) pre := by
  simp only [referenceSupply, wp_ite, wlp_rules]
  exact ⟨fun quadratic => quadratic.2, fun _ _ _ pos => not_le.mp pos⟩

theorem finalizeProposal_status (env : Env) (proposalId : Nat) {pre : GovStore}
    (has : pre.proposal proposalId = some proposal)
    (supplied : referenceSupply proposal pre = .ok supply pre) :
    wlp (finalizeProposal env proposalId) (fun status _ => status = .succeeded ↔
      proposal.MeetsQuorum supply
          (resolveCategoryThresholds pre proposal.category pre.governanceConfig).1 ∧
        proposal.IsApproved
          (resolveCategoryThresholds pre proposal.category pre.governanceConfig).2) pre := by
  simp only [finalizeProposal, wp_bind, wp_getProposal, wp_ensure, wp_get, implies_true, and_true]
  intro hit isFound _ _
  cases Option.mem_unique has isFound
  have read : wlp (referenceSupply proposal) (fun hit after => hit = supply ∧ after = pre)
      pre := by
    refine (wp_iff _).mpr ⟨fun hit after gave => ?_, fun _ _ _ => trivial⟩
    cases supplied.symm.trans gave
    exact ⟨rfl, rfl⟩
  refine wp_then read ?_
  rintro supply pre ⟨rfl, rfl⟩
  generalize resolveCategoryThresholds _ _ _ = thresholds
  have settled (quorum : proposal.MeetsQuorum supply thresholds.1) :
      (if proposal.IsApproved thresholds.2 then ProposalStatus.succeeded else .failed) =
        .succeeded ↔ proposal.MeetsQuorum supply thresholds.1 ∧
          proposal.IsApproved thresholds.2 := by
    by_cases approved : proposal.IsApproved thresholds.2 <;> simp [quorum, approved]
  simp only [wp_ite, wp_bind, wp_putProposal, wp_pure, has, Option.isSome_some, forall_const]
  exact ⟨fun quorum => ⟨fun _ => (wp_iff _).mpr ⟨fun _ _ _ => settled quorum,
    fun _ _ _ => trivial⟩, fun _ => settled quorum⟩, fun missed => by simp [missed]⟩

/-- Finalizing a proposal that returns accepts it as its votes deserve, by exact comparisons,
exactly when its votes are decided exactly. -/
theorem finalize_decides_iff {env : Env} {proposalId : Nat} {pre after : GovStore}
    {status : ProposalStatus} (has : pre.proposal proposalId = some proposal)
    (counted : proposal.Counted) (supplied : referenceSupply proposal pre = .ok supply pre)
    (gave : finalizeProposal env proposalId pre = .ok status after)
    (thresholds : resolveCategoryThresholds pre proposal.category pre.governanceConfig =
      (quorumBps, approvalBps)) :
    (status = .succeeded ↔ proposal.DeservesApproval supply quorumBps approvalBps) ↔
      proposal.DecidedExactly supply quorumBps approvalBps := by
  have pos := wp_ok (referenceSupply_pos proposal) supplied
  have decided := wp_ok (finalizeProposal_status env proposalId has supplied) gave
  rw [thresholds] at decided
  rw [decided]
  exact decides_iff counted pos

/-- A proposal of holder 1 whose voting is over, with some votes for it. -/
def openProposal (votesFor : Int) : Proposal where
  proposer := 1
  proposalType := .signalProposal "Signal"
  title := "Title"
  description := "Description"
  executionPayload := []
  votingStarts := 0
  votingEnds := 0
  votesFor
  votesAgainst := 0
  votesAbstain := 0
  status := .active
  voters := ∅
  voterList := []
  executedAt := none
  discussionEndsAt := 0
  category := .general
  useQuadraticVoting := false
  quadraticTotalSupply := 0
  executionDeadline := 10

def openOn (totalSupply votesFor : Int) : GovStore :=
  (GovStore.initial 1 ∅ [] totalSupply).putProposal 1 (openProposal votesFor)

/-- A tenth of a supply of a hundred meets the quorum of a tenth. -/
theorem tenth_decided : (ProposalStatus.succeeded = .succeeded ↔
    (openProposal 10).DeservesApproval 100 1000 5000) ↔
      (openProposal 10).DecidedExactly 100 1000 5000 :=
  @finalize_decides_iff _ _ _ _ (.at 1 0 [1]) 1 (openOn 100 10) _ .succeeded rfl
    ⟨by decide, by decide, by decide⟩ rfl rfl rfl

/-- A hundredth of a percent of the largest supply meets the quorum of ten percent. -/
theorem few_votes_accepted :
    let proposal := openProposal (2 ^ 127 / 10000 + 1)
    let pre := openOn i128.high (2 ^ 127 / 10000 + 1)
    pre.proposal 1 = some proposal ∧ referenceSupply proposal pre = .ok i128.high pre ∧
      resolveCategoryThresholds pre .general pre.governanceConfig = (1000, 5000) ∧
      (∃ after, finalizeProposal (.at 1 0 [1]) 1 pre = .ok .succeeded after) ∧
      ¬ proposal.DeservesApproval i128.high 1000 5000 :=
  ⟨rfl, rfl, rfl, ⟨_, rfl⟩, fun deserves => absurd deserves.1 (by decide)⟩

end Deciding

end StellarSwipe.Governance
