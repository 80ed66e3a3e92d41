import StellarSwipe.Committees.Decisions

/-!
# Elections, and the whole contract

Stakers nominate and elect the members of a committee, and a successful election replaces them at
once.
-/

namespace StellarSwipe.Committees

open FixedWidth Program Governance Authority Runs

variable (env : Env) (committeeId : Nat)

def startElection (positionsAvailable durationDays minParticipation : Nat)
    (quorumStakeThreshold : Int) : CommitteeProgram Unit := do
  let committee ← getCommittee committeeId
  ensureCommitteeActive committee env.timestamp
  ensure (¬ (positionsAvailable < 3 ∨ committee.maxMembers < positionsAvailable ∨
    durationDays = 0)) (.governance .invalidCommitteeConfig)
  ensure (¬ quorumStakeThreshold < 0) (.governance .invalidCommitteeConfig)
  let store ← get
  ensure (∀ existing ∈ store.committees.elections.lookup committeeId,
    ¬ env.timestamp < existing.electionEnd) (.governance .invalidCommitteeConfig)
  putElection committeeId
    { candidates := []
      votes := ∅
      electionStart := env.timestamp
      electionEnd := satCount u64Max env.timestamp (durationDays * 86400)
      positionsAvailable
      minParticipation
      quorumStakeThreshold }

def stakedBalance (store : CommitteeStore) (address : Address) : Int :=
  store.authority.governance.tokens.staked.read address

def nominate (nominee nominator : Address) : CommitteeProgram Unit := do
  let election ← getElection committeeId
  ensure (env.timestamp < election.electionEnd) .committeeElectionNotActive
  ensure (¬ stakedBalance (← get) nominator ≤ 0) (.governance .unauthorized)
  putElection committeeId { election with
    candidates := if nominee ∈ election.candidates then election.candidates
      else election.candidates ++ [nominee] }

def voteInElection (voter candidate : Address) : CommitteeProgram Unit := do
  let election ← getElection committeeId
  ensure (¬ (env.timestamp < election.electionStart ∨ election.electionEnd ≤ env.timestamp))
    .committeeElectionNotActive
  ensure (candidate ∈ election.candidates) .invalidElectionVote
  ensure (¬ stakedBalance (← get) voter ≤ 0) .invalidElectionVote
  ensure (election.votes.lookup voter = none) (.governance .alreadyVoted)
  putElection committeeId { election with votes := election.votes.insert voter candidate }

/-- The stake behind each candidate, and behind all ballots that count. -/
structure ElectionTally where
  candidateVotes : Table Address Int
  validVotes : Nat
  totalStakeWeight : Int

/-- Count the ballots whose voter has stake and whose candidate is nominated. -/
def tallyElectionVotes (staked : Address → Int) (candidates : List Address) :
    List (Address × Address) → ElectionTally → Except GovernanceError ElectionTally
  | [], tally => pure tally
  | (voter, candidate) :: rest, tally =>
    if staked voter ≤ 0 ∨ candidate ∉ candidates then
      tallyElectionVotes staked candidates rest tally
    else do
      let behind ← checkedAdd (tally.candidateVotes.read candidate) (staked voter)
      let total ← checkedAdd tally.totalStakeWeight (staked voter)
      tallyElectionVotes staked candidates rest
        ⟨tally.candidateVotes.insert candidate behind, satCount u32Max tally.validVotes 1, total⟩

/-- The first candidate with the most votes. -/
def bestCandidate (votes : Address → Int) : List Address → Option Address
  | [] => none
  | candidate :: rest =>
    match bestCandidate votes rest with
    | none => some candidate
    | some best => if votes candidate < votes best then some best else some candidate

/-- Fill positions with the best candidates that are not selected yet. -/
def selectElectionWinners (votes : Address → Int) (candidates : List Address) :
    Nat → List Address → List Address
  | 0, winners => winners
  | positions + 1, winners =>
    match bestCandidate votes (candidates.filter fun candidate => decide (candidate ∉ winners)) with
    | none => winners
    | some best => selectElectionWinners votes candidates positions (winners ++ [best])

def finalizeElection : CommitteeProgram Unit := do
  let election ← getElection committeeId
  ensure (¬ env.timestamp < election.electionEnd) .committeeElectionNotActive
  let store ← get
  let ballots := election.votes.entries.map fun entry => (entry.1, entry.2)
  let tally ← onGovernance
    (Program.ofExcept (tallyElectionVotes (stakedBalance store) election.candidates ballots
      ⟨∅, 0, 0⟩))
  let winners := selectElectionWinners tally.candidateVotes.read election.candidates
    election.positionsAvailable []
  if (0 < election.minParticipation ∧ tally.validVotes < election.minParticipation) ∨
      (0 < election.quorumStakeThreshold ∧
        tally.totalStakeWeight < election.quorumStakeThreshold) ∨ winners.length < 3 then
    removeElection committeeId
  else do
    let committee ← getCommittee committeeId
    let chair ← orTrap winners.head?
    putCommittee committeeId { committee with
      members := winners
      chair }
    removeElection committeeId

/-- One call of the contract, those on committees included. -/
inductive CommitteeCall where
  | create (route : Route) (admin : Address) (name description : String)
      (initialMembers : List Address) (chair : Address) (maxMembers : Nat)
      (authorities : List CommitteeAuthority) (termDurationDays : Option Nat)
  | propose (committeeId : Nat) (proposer : Address) (proposal : String)
      (action : CommitteeAction)
  | vote (committeeId decisionId : Nat) (voter : Address) (voteType : VoteType)
  | execute (committeeId decisionId : Nat) (executor : Address)
  | startElection (admin : Address)
      (committeeId positionsAvailable durationDays minParticipation : Nat)
      (quorumStakeThreshold : Amount)
  | nominate (committeeId : Nat) (nominee nominator : Address)
  | voteInElection (committeeId : Nat) (voter candidate : Address)
  | finalizeElection (admin : Address) (committeeId : Nat)
  | setApprovalRating (admin : Address) (committeeId rating : Nat)
  | override (route : Route) (admin : Address) (committeeId decisionId : Nat)
  | dissolve (route : Route) (admin : Address) (committeeId : Nat)
  | request (requestingCommittee : Nat) (requester : Address) (approvingCommittees : List Nat)
      (proposal : String)
  | approveRequest (requestId approvingCommittee : Nat) (approver : Address) (decisionId : Nat)
  | other (call : AuthorityCall)

/-- The check that the contract is initialized and the caller authorized the call. -/
def enter (caller : Address) : CommitteeProgram Unit := do
  onGovernance requireInitialized
  onGovernance (Governance.requireAuth env caller)

/-- The check of the admin, as every administrative entry point makes it. -/
def requireAdmin (env : Env) (admin : Address) : CommitteeProgram Unit :=
  onGovernance (Governance.requireAdmin env admin)

/-- The entry point of a call. Initialization starts with no committees. -/
def CommitteeCall.exec (call : CommitteeCall) (env : Env) : CommitteeProgram Unit :=
  match call with
  | .create route admin name description initialMembers chair maxMembers authorities
      termDurationDays => do
    onGovernance (route.enter env admin)
    createCommittee env name description initialMembers chair maxMembers authorities
      termDurationDays
  | .propose committeeId proposer proposal action => do
    enter env proposer
    proposeDecision env committeeId proposer proposal action
  | .vote committeeId decisionId voter voteType => do
    enter env voter
    voteOnDecision committeeId decisionId voter voteType
  | .execute committeeId decisionId executor => do
    enter env executor
    executeDecision env committeeId decisionId executor
  | .startElection admin committeeId positionsAvailable durationDays minParticipation
      quorumStakeThreshold => do
    requireAdmin env admin
    Committees.startElection env committeeId positionsAvailable durationDays minParticipation
      quorumStakeThreshold
  | .nominate committeeId nominee nominator => do
    enter env nominee
    onGovernance (Governance.requireAuth env nominator)
    Committees.nominate env committeeId nominee nominator
  | .voteInElection committeeId voter candidate => do
    enter env voter
    Committees.voteInElection env committeeId voter candidate
  | .finalizeElection admin committeeId => do
    requireAdmin env admin
    Committees.finalizeElection env committeeId
  | .setApprovalRating admin committeeId rating => do
    requireAdmin env admin
    setCommunityApprovalRating committeeId rating
  | .override route admin committeeId decisionId => do
    onGovernance (route.enter env admin)
    overrideDecision committeeId decisionId
  | .dissolve route admin committeeId => do
    onGovernance (route.enter env admin)
    dissolveCommittee committeeId
  | .request requestingCommittee requester approvingCommittees proposal => do
    enter env requester
    requestCrossCommitteeApproval env requestingCommittee requester approvingCommittees proposal
  | .approveRequest requestId approvingCommittee approver decisionId => do
    enter env approver
    approveCrossCommitteeRequest requestId approvingCommittee approver decisionId
  | .other call => do
    onAuthority (call.exec env)
    match call with
    | .initializeContract _ _ _ _ _ => writeState fun _ => .empty
    | _ => pure ()

/-- A call that arrives some time after the last one. -/
structure CommitteeInput where
  arrival : Arrival
  call : CommitteeCall

def committeeStep (input : CommitteeInput) (ledger : Ledger CommitteeStore) :
    Ledger CommitteeStore :=
  ledger.call input.arrival input.call.exec

abbrev CommitteeTransition := Transition (Ledger CommitteeStore) CommitteeInput

def CommitteeTransition.Returned (taken : CommitteeTransition) : Prop :=
  Accepts (taken.input.call.exec (taken.pre.env taken.input.arrival)) taken.pre.store
deriving Decidable

def committeeStart (timestamp sequence : Nat) : Ledger CommitteeStore :=
  ⟨⟨.blank, .empty⟩, timestamp, sequence⟩

end StellarSwipe.Committees
