import StellarSwipe.Authority.Contract

/-!
# Committees and their decisions

Committees with their members and decisions, the elections that replace members, and the requests
that several committees approve.
-/

namespace StellarSwipe.Committees

open FixedWidth Program Governance Authority Runs

/-- What the entry points return in place of a value. -/
inductive CommitteeError where
  | authority (error : AuthorityError)
  | committeeNotFound
  | committeeTermEnded
  | committeeDecisionNotFound
  | committeeDecisionNotOpen
  | noCommitteeAuthority
  | committeeElectionNotFound
  | committeeElectionNotActive
  | committeeInactive
  | invalidApprovalRating

namespace CommitteeError

abbrev governance (error : GovernanceError) : CommitteeError := .authority (.governance error)

/-- The contract is at its limit of codes, so this error shares one. -/
abbrev invalidElectionVote : CommitteeError := governance .invalidCommitteeAction

end CommitteeError

inductive CommitteeAuthority where
  | treasurySpend (maxAmount : Amount) (category : String)
  | parameterAdjustment (parameters : List String) (maxChangePct : Nat)
  | grantApproval (maxGrantSize : Amount)
  | emergencyAction (actionTypes : List String)
  | veto (proposalTypes : List String)

/-- A payment out of the treasury. -/
structure SpendAction where
  recipient : Address
  amount : Amount
  asset : Asset
  category : String
  purpose : String

inductive CommitteeAction where
  | treasurySpend (spend : SpendAction)
  | rewardConfigUpdate (rewardBps : Nat) (minClaimThreshold : Amount)
  | grantApproval (grant : SpendAction)
  | emergencyAction (actionType details : String)
  | veto (proposalType reason : String)

inductive DecisionStatus where
  | voting
  | approved
  | rejected
  | executed
  | overridden
deriving DecidableEq

structure CommitteeDecision where
  decisionId : Nat
  proposal : String
  votesFor : Nat
  votesAgainst : Nat
  votesAbstain : Nat
  status : DecisionStatus
  executedAt : Option Nat
  proposedAt : Nat
  action : CommitteeAction
  votes : Table Address VoteType

structure PerformanceMetrics where
  totalDecisions : Nat
  decisionsExecuted : Nat
  avgDecisionTime : Nat
  communityApprovalRating : Nat
  overriddenDecisions : Nat

structure Committee where
  members : List Address
  chair : Address
  maxMembers : Nat
  delegatedAuthorities : List CommitteeAuthority
  termEnd : Option Nat
  decisions : List CommitteeDecision
  performanceMetrics : PerformanceMetrics
  active : Bool

structure CommitteeElection where
  candidates : List Address
  votes : Table Address Address
  electionStart : Nat
  electionEnd : Nat
  positionsAvailable : Nat
  minParticipation : Nat
  quorumStakeThreshold : Int

inductive CrossCommitteeStatus where
  | pending
  | approved
deriving DecidableEq

structure CrossCommitteeRequest where
  requestingCommittee : Nat
  approvingCommittees : List Nat
  proposal : String
  approvals : Table Nat Nat
  status : CrossCommitteeStatus

/-- Committees, elections and requests under their ids, with the next ids. -/
structure CommitteesState where
  committees : Table Nat Committee
  elections : Table Nat CommitteeElection
  crossCommitteeRequests : Table Nat CrossCommitteeRequest
  nextCommitteeId : Nat
  nextDecisionId : Nat
  nextCrossReqId : Nat

def CommitteesState.empty : CommitteesState := ⟨∅, ∅, ∅, 1, 1, 1⟩

structure CommitteeStore where
  authority : AuthorityStore
  committees : CommitteesState

abbrev CommitteeProgram := Program CommitteeStore CommitteeError

/-- A program on the rest of the contract. -/
def onAuthority {α : Type} (program : AuthorityProgram α) : CommitteeProgram α :=
  zoom CommitteeStore.authority (fun authority store => { store with authority })
    .authority program

def onGovernance {α : Type} (program : GovProgram α) : CommitteeProgram α :=
  onAuthority (Authority.onGovernance program)

def writeState (change : CommitteesState → CommitteesState) : CommitteeProgram Unit :=
  modify fun store => { store with committees := change store.committees }

variable (env : Env) (committeeId : Nat)

def getCommittee : CommitteeProgram Committee := do
  orFail ((← get).committees.committees.lookup committeeId) .committeeNotFound

def getElection : CommitteeProgram CommitteeElection := do
  orFail ((← get).committees.elections.lookup committeeId) .committeeElectionNotFound

variable (committee : Committee)

def putCommittee : CommitteeProgram Unit :=
  writeState fun state => { state with
    committees := state.committees.insert committeeId committee }

def putElection (election : CommitteeElection) : CommitteeProgram Unit :=
  writeState fun state => { state with elections := state.elections.insert committeeId election }

def removeElection : CommitteeProgram Unit :=
  writeState fun state => { state with elections := state.elections.erase committeeId }

/-! ## Decisions of committees

Members propose and vote. A decision is settled by a majority of the members, or by the
votes once there are as many of them as members. What was approved is executed within the
authorities of the committee.
-/

def ensureCommitteeActive (now : Nat) : CommitteeProgram Unit := do
  ensure (committee.active = true) .committeeInactive
  ensure (∀ termEnd ∈ committee.termEnd, now < termEnd) .committeeTermEnded

/-- An authority that does not say what it allows is refused. -/
def CommitteeAuthority.IsValid : CommitteeAuthority → Prop
  | .treasurySpend maxAmount category => 0 < maxAmount.val ∧ category ≠ ""
  | .parameterAdjustment parameters maxChangePct => parameters ≠ [] ∧ maxChangePct ≠ 0
  | .grantApproval maxGrantSize => 0 < maxGrantSize.val
  | .emergencyAction actionTypes => actionTypes ≠ []
  | .veto proposalTypes => proposalTypes ≠ []

instance (authority : CommitteeAuthority) : Decidable authority.IsValid := by
  unfold CommitteeAuthority.IsValid
  split <;> infer_instance

/-- Form a committee under the next id. -/
def createCommittee (name description : String) (initialMembers : List Address) (chair : Address)
    (maxMembers : Nat) (authorities : List CommitteeAuthority) (termDurationDays : Option Nat) :
    CommitteeProgram Unit := do
  ensure (¬ (name = "" ∨ description = "")) (.governance .invalidCommitteeConfig)
  ensure (¬ (initialMembers = [] ∨ maxMembers < initialMembers.length ∨
    ¬ (3 ≤ maxMembers ∧ maxMembers ≤ 15))) (.governance .invalidCommitteeConfig)
  ensure (¬ (chair ∉ initialMembers ∨ ¬ initialMembers.Nodup))
    (.governance .invalidCommitteeConfig)
  ensure (authorities ≠ []) (.governance .invalidCommitteeConfig)
  ensure (∀ authority ∈ authorities, authority.IsValid) (.governance .invalidCommitteeConfig)
  ensure (termDurationDays ≠ some 0) (.governance .invalidDuration)
  let termEnd := termDurationDays.map fun days =>
    satCount u64Max env.timestamp (days * 86400)
  writeState fun state => { state with
    committees := state.committees.insert state.nextCommitteeId
      { members := initialMembers
        chair
        maxMembers
        delegatedAuthorities := authorities
        termEnd
        decisions := []
        performanceMetrics := ⟨0, 0, 0, 0, 0⟩
        active := true }
    nextCommitteeId := satCount u64Max state.nextCommitteeId 1 }

variable (decisionId : Nat)

def CommitteeDecision.proposed (now : Nat) (proposal : String) (action : CommitteeAction) :
    CommitteeDecision where
  decisionId
  proposal
  votesFor := 0
  votesAgainst := 0
  votesAbstain := 0
  status := .voting
  executedAt := none
  proposedAt := now
  action
  votes := ∅

def proposeDecision (proposer : Address) (proposal : String) (action : CommitteeAction) :
    CommitteeProgram Unit := do
  ensure (proposal ≠ "") (.governance .invalidCommitteeAction)
  let committee ← getCommittee committeeId
  ensureCommitteeActive committee env.timestamp
  ensure (proposer ∈ committee.members) (.governance .unauthorized)
  let decisionId := (← get).committees.nextDecisionId
  putCommittee committeeId { committee with
    decisions := committee.decisions ++ [.proposed decisionId env.timestamp proposal action]
    performanceMetrics := { committee.performanceMetrics with
      totalDecisions := satCount u32Max committee.performanceMetrics.totalDecisions 1 } }
  writeState fun state => { state with nextDecisionId := satCount u64Max decisionId 1 }

/-- The position of a decision and the decision. -/
def findDecision : CommitteeProgram (Nat × CommitteeDecision) := do
  let index ← orFail
    (committee.decisions.findIdx? fun decision => decide (decision.decisionId = decisionId))
    .committeeDecisionNotFound
  let decision ← orTrap committee.decisions[index]?
  pure (index, decision)

def Committee.setDecision (index : Nat) (decision : CommitteeDecision) : Committee :=
  { committee with decisions := committee.decisions.set index decision }

def CommitteeDecision.counted (decision : CommitteeDecision) (voter : Address)
    (vote : VoteType) : CommitteeDecision :=
  let recorded := { decision with votes := decision.votes.insert voter vote }
  match vote with
  | .for => { recorded with votesFor := satCount u32Max decision.votesFor 1 }
  | .against => { recorded with votesAgainst := satCount u32Max decision.votesAgainst 1 }
  | .abstain => { recorded with votesAbstain := satCount u32Max decision.votesAbstain 1 }

/-- How a decision stands with its votes among so many members. -/
def CommitteeDecision.outcome (decision : CommitteeDecision) (members : Nat) : DecisionStatus :=
  let majority := members / 2 + 1
  let totalVotes := satCount u32Max
    (satCount u32Max decision.votesFor decision.votesAgainst) decision.votesAbstain
  if majority ≤ decision.votesFor then .approved
  else if majority ≤ decision.votesAgainst then .rejected
  else if totalVotes = members then
    if decision.votesAgainst < decision.votesFor then .approved else .rejected
  else decision.status

def voteOnDecision (voter : Address) (vote : VoteType) : CommitteeProgram Unit := do
  let committee ← getCommittee committeeId
  ensure (voter ∈ committee.members) (.governance .unauthorized)
  let (index, decision) ← findDecision committee decisionId
  ensure (decision.status = .voting) .committeeDecisionNotOpen
  ensure (decision.votes.lookup voter = none) (.governance .alreadyVoted)
  let counted := decision.counted voter vote
  putCommittee committeeId (committee.setDecision index
    { counted with status := counted.outcome committee.members.length })

/-- The change from one value to another in hundredths of the first. -/
def pctChange (current proposed : Int) : Except CommitteeError Nat := do
  if current ≤ 0 then .error (.governance .invalidCommitteeAction)
  else do
    let difference := |proposed - current|
    if ¬ i128.Holds difference ∨ ¬ i128.Holds (difference * 100) then
      .error (.governance .arithmeticOverflow)
    else
      let changed := (difference * 100).tdiv current
      if changed ≤ u32Max then pure changed.toNat else .error (.governance .arithmeticOverflow)

def parameterWithin (parameters : List String) (maxChangePct : Nat) (parameter : String)
    (current proposed : Int) : Except CommitteeError Unit :=
  if proposed = current then pure ()
  else if parameter ∉ parameters then .error .noCommitteeAuthority
  else do
    if maxChangePct < (← pctChange current proposed) then .error .noCommitteeAuthority
    else pure ()

def validateRewardConfigAuthority (distribution : Option DistributionState)
    (parameters : List String) (maxChangePct rewardBps : Nat) (minClaimThreshold : Int) :
    Except CommitteeError Unit := do
  match distribution with
  | none => .error (.governance .notInitialized)
  | some state => do
    parameterWithin parameters maxChangePct "liquidity_reward_bps" state.liquidityRewardBps rewardBps
    parameterWithin parameters maxChangePct "min_claim_threshold" state.minClaimThreshold
      minClaimThreshold
    if rewardBps = state.liquidityRewardBps ∧ minClaimThreshold = state.minClaimThreshold then
      .error (.governance .invalidCommitteeAction)
    else pure ()

/-- The first authority that allows an action. One for parameters decides alone. -/
def verifyCommitteeAuthority (distribution : Option DistributionState) (action : CommitteeAction) :
    List CommitteeAuthority → Except CommitteeError Unit
  | [] => .error .noCommitteeAuthority
  | authority :: rest =>
    match authority, action with
    | .treasurySpend maxAmount category, .treasurySpend spend =>
      if spend.amount.val ≤ maxAmount.val ∧ spend.category = category then pure ()
      else verifyCommitteeAuthority distribution action rest
    | .grantApproval maxGrantSize, .grantApproval grant =>
      if grant.amount.val ≤ maxGrantSize.val then pure ()
      else verifyCommitteeAuthority distribution action rest
    | .parameterAdjustment parameters maxChangePct,
        .rewardConfigUpdate rewardBps minClaimThreshold =>
      validateRewardConfigAuthority distribution parameters maxChangePct rewardBps
        minClaimThreshold
    | .emergencyAction actionTypes, .emergencyAction actionType _ =>
      if actionType ∈ actionTypes then pure ()
      else verifyCommitteeAuthority distribution action rest
    | .veto proposalTypes, .veto proposalType _ =>
      if proposalType ∈ proposalTypes then pure ()
      else verifyCommitteeAuthority distribution action rest
    | _, _ => verifyCommitteeAuthority distribution action rest

def executeCommitteeSpend (spend : SpendAction) (executedAt : Nat) : CommitteeProgram Unit :=
  onGovernance (discard (onTreasury (executeSpend spend.recipient spend.amount spend.asset
    spend.category spend.purpose none executedAt)))

def executeDecisionAction (action : CommitteeAction) (executedAt : Nat) : CommitteeProgram Unit :=
  match action with
  | .treasurySpend spend | .grantApproval spend => executeCommitteeSpend spend executedAt
  | .rewardConfigUpdate rewardBps minClaimThreshold =>
    onAuthority (setLiquidityMiningConfig rewardBps minClaimThreshold)
  | .emergencyAction _ details => ensure (details ≠ "") (.governance .invalidCommitteeAction)
  | .veto _ reason => ensure (reason ≠ "") (.governance .invalidCommitteeAction)

/-- The average time to execution, with one more decision already counted. -/
def PerformanceMetrics.withDecisionTime (metrics : PerformanceMetrics) (executionTime : Nat) :
    Except CommitteeError PerformanceMetrics :=
  if metrics.decisionsExecuted = 0 then
    pure { metrics with avgDecisionTime := executionTime }
  else
    let accumulated := metrics.avgDecisionTime * (metrics.decisionsExecuted - 1)
    let average := (accumulated + executionTime) / metrics.decisionsExecuted
    if i128.Holds (accumulated + executionTime : Nat) ∧ average ≤ u64Max then
      pure { metrics with avgDecisionTime := average }
    else .error (.governance .arithmeticOverflow)

def executeDecision (executor : Address) : CommitteeProgram Unit := do
  let committee ← getCommittee committeeId
  ensureCommitteeActive committee env.timestamp
  ensure (executor = committee.chair ∨ executor ∈ committee.members) (.governance .unauthorized)
  let (index, decision) ← findDecision committee decisionId
  ensure (decision.status = .approved) .committeeDecisionNotOpen
  Program.ofExcept (verifyCommitteeAuthority (← get).authority.distribution decision.action
    committee.delegatedAuthorities)
  executeDecisionAction decision.action env.timestamp
  let metrics := committee.performanceMetrics
  let metrics ← Program.ofExcept
    ({ metrics with
      decisionsExecuted := satCount u32Max metrics.decisionsExecuted 1 }.withDecisionTime
      (env.timestamp - decision.proposedAt))
  putCommittee committeeId { committee.setDecision index
      { decision with
        status := .executed
        executedAt := some env.timestamp } with performanceMetrics := metrics }

def overrideDecision : CommitteeProgram Unit := do
  let committee ← getCommittee committeeId
  let (index, decision) ← findDecision committee decisionId
  ensure (¬ (decision.status = .rejected ∨ decision.status = .overridden))
    .committeeDecisionNotOpen
  putCommittee committeeId { committee.setDecision index
      { decision with status := .overridden } with
    performanceMetrics := { committee.performanceMetrics with
      overriddenDecisions :=
        satCount u32Max committee.performanceMetrics.overriddenDecisions 1 } }

def setCommunityApprovalRating (rating : Nat) : CommitteeProgram Unit := do
  ensure (rating ≤ 10000) .invalidApprovalRating
  let committee ← getCommittee committeeId
  putCommittee committeeId { committee with
    performanceMetrics := { committee.performanceMetrics with
      communityApprovalRating := rating } }

/-- Dissolve a committee and call off its election. -/
def dissolveCommittee : CommitteeProgram Unit := do
  let committee ← getCommittee committeeId
  ensure (committee.active = true) .committeeInactive
  putCommittee committeeId { committee with active := false }
  removeElection committeeId

def requestCrossCommitteeApproval (requestingCommittee : Nat) (requester : Address)
    (approvingCommittees : List Nat) (proposal : String) : CommitteeProgram Unit := do
  ensure (¬ (proposal = "" ∨ approvingCommittees = [])) (.governance .invalidCommitteeConfig)
  let committee ← getCommittee requestingCommittee
  ensureCommitteeActive committee env.timestamp
  ensure (requester ∈ committee.members) (.governance .unauthorized)
  let store ← get
  ensure (∀ committeeId ∈ approvingCommittees, ¬ (committeeId = requestingCommittee ∨
    (store.committees.committees.lookup committeeId).isNone = true))
    (.governance .invalidCommitteeConfig)
  writeState fun state => { state with
    crossCommitteeRequests := state.crossCommitteeRequests.insert state.nextCrossReqId
      ⟨requestingCommittee, approvingCommittees, proposal, ∅, .pending⟩
    nextCrossReqId := satCount u64Max state.nextCrossReqId 1 }

/-- A request with the approval of one more committee, which is approved when there are as many
approvals as listed committees. -/
def CrossCommitteeRequest.approvedBy (request : CrossCommitteeRequest)
    (committeeId decisionId : Nat) : CrossCommitteeRequest :=
  let approvals := request.approvals.insert committeeId decisionId
  { request with
    approvals
    status := if approvals.entries.length = request.approvingCommittees.length then .approved
      else request.status }

def approveCrossCommitteeRequest (requestId approvingCommittee : Nat) (approver : Address)
    (decisionId : Nat) : CommitteeProgram Unit := do
  let request ← orFail ((← get).committees.crossCommitteeRequests.lookup requestId)
    (.governance .crossCommitteeRequestNotFound)
  ensure (¬ (request.status ≠ .pending ∨ approvingCommittee ∉ request.approvingCommittees))
    (.governance .invalidCommitteeConfig)
  ensure (request.approvals.lookup approvingCommittee = none) (.governance .alreadyVoted)
  let committee ← getCommittee approvingCommittee
  ensure (approver ∈ committee.members) (.governance .unauthorized)
  let (_, decision) ← findDecision committee decisionId
  ensure (¬ (decision.status ≠ .approved ∧ decision.status ≠ .executed)) .committeeDecisionNotOpen
  writeState fun state => { state with
    crossCommitteeRequests := state.crossCommitteeRequests.insert requestId
      (request.approvedBy approvingCommittee decisionId) }

end StellarSwipe.Committees
