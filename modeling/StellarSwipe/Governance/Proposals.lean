import StellarSwipe.Governance.Delegation

/-!
# Proposals

A proposal is made with a snapshot of everybody's voting power, voted on, finalized by its votes
and, if it succeeded, executed between its delay and its deadline.
-/

namespace StellarSwipe.Governance

open FixedWidth Program

def bpsDenominator : Int := 10000

/-- The window after voting in which a proposal may still be executed. -/
def executionWindow : Nat := 7 * 24 * 60 * 60

/-- Bound, in either direction, on the numbers of a parameter change. -/
def maxParameterValue : Int := 1000000000000000000

/-- Bound on the bytes of a name or text in a proposal's action. -/
def maxActionStringLen : Nat := 256

/-- A text within a number of bytes and without control characters. The bytes of a
character past the first 128 are never control characters. -/
def Sanitized (value : String) (maxLen : Nat) : Prop :=
  value.utf8ByteSize ≤ maxLen ∧ ∀ character ∈ value.toList, 0x20 ≤ character.toNat

instance (value : String) (maxLen : Nat) : Decidable (Sanitized value maxLen) :=
  @instDecidableAnd _ _ (Nat.decLe _ _) (List.decidableBAll _ _)

variable (env : Env) (proposalId : Nat)

def getProposal : GovProgram Proposal := do
  orFail ((← get).proposal proposalId) .proposalNotFound

def putProposal (proposalId : Nat) (proposal : Proposal) : GovProgram Unit := do
  ensure (((← get).proposal proposalId).isSome = true) .proposalNotFound
  modify fun store => store.putProposal proposalId proposal

def IsWithinParameterBounds (value : Int) : Prop :=
  -maxParameterValue ≤ value ∧ value ≤ maxParameterValue
deriving Decidable

/-- The checks of a proposal's action, for every kind of action. -/
def validateProposal (proposalType : ProposalType) : GovProgram Unit :=
  match proposalType with
  | .parameterChange parameter current proposed => do
    ensure (parameter ≠ "") .invalidProposal
    ensure (Sanitized parameter maxActionStringLen) .invalidProposal
    ensure (IsWithinParameterBounds current ∧ IsWithinParameterBounds proposed)
      .proposalParameterOutOfRange
    if 0 < current then do
      let delta ← ofExcept (checkedSub proposed current)
      let doubled ← ofExcept (checkedMul |delta| 2)
      ensure (¬ current ≤ doubled) .invalidProposal
    else pure ()
  | .treasurySpend _ amount asset purpose => do
    ensure (Sanitized purpose maxActionStringLen) .invalidProposal
    let balance := (← get).treasury.assets.read asset
    ensure (¬ (amount ≤ 0 ∨ balance < amount ∨ balance < saturatingMul amount 10)) .budgetExceeded
  | .featureToggle feature _ => do
    ensure (feature ≠ "") .invalidProposal
    ensure (Sanitized feature maxActionStringLen) .invalidProposal
  | .contractUpgrade contract wasmHash => do
    ensure (contract ≠ "") .invalidProposal
    ensure (Sanitized contract maxActionStringLen) .invalidProposal
    ensure (wasmHash.length = 32) .invalidProposal
    ensure (∃ byte ∈ wasmHash, byte ≠ 0) .invalidProposal
  | .signalProposal text => do
    ensure (text ≠ "") .invalidProposal
    ensure (Sanitized text maxActionStringLen) .invalidProposal
  | .custom _ => pure ()

/-- What an action expects of the payload beside it. -/
def validateExecutionPayload (proposalType : ProposalType) (payload : Bytes) :
    GovProgram Unit :=
  match proposalType with
  | .contractUpgrade _ _ => ensure (payload.length = 32) .invalidProposal
  | .treasurySpend _ _ _ _ | .parameterChange _ _ _ =>
    ensure (payload = [] ∨ payload.head? = some 1) .invalidProposal
  | .custom _ => ensure (payload ≠ []) .invalidProposal
  | .featureToggle _ _ | .signalProposal _ => pure ()

/-- Everybody's voting power and, where it counts, the sum of the roots, over the
holders in order. -/
def snapshotPowers (store : GovStore) (sequence : Nat) (useQuadraticVoting : Bool) :
    List Address → Table Address Int → Int → Table Address Int × Int
  | [], snapshots, supply => (snapshots, supply)
  | holder :: rest, snapshots, supply =>
    let power := getEffectiveVotingPower store sequence holder
    if 0 < power then
      snapshotPowers store sequence useQuadraticVoting rest (snapshots.insert holder power)
        (if useQuadraticVoting then i128.saturatingAdd supply (isqrt power) else supply)
    else snapshotPowers store sequence useQuadraticVoting rest snapshots supply

def depositConfig (store : GovStore) : DepositConfig :=
  store.deposits.config.getD .default

/-- Hold the deposit of a proposal out of the proposer's balance. -/
def lockProposalDeposit (proposer : Address) : GovProgram Unit := do
  let config := depositConfig (← get)
  if config.amount = 0 then pure ()
  else do
    putTokens (← ofExcept ((← get).tokens.subtractBalance proposer config.amount))
    modify fun store => { store with deposits := { store.deposits with
      locked := store.deposits.locked.insert proposalId proposer } }

def createProposal (env : Env) (proposer : Address) (proposalType : ProposalType)
    (title description : String) (executionPayload : Bytes) (category : ProposalCategory)
    (useQuadraticVoting : Bool) : GovProgram Nat := do
  requireAuth env proposer
  ensure (¬ (title = "" ∨ description = "")) .invalidProposal
  ensure (Sanitized title 256) .invalidProposal
  ensure (Sanitized description 4096) .invalidProposal
  let store ← get
  let config := store.governanceConfig
  ensure (¬ getEffectiveVotingPower store env.sequence proposer < config.minProposalThreshold)
    .noVotingPower
  validateProposal proposalType
  validateExecutionPayload proposalType executionPayload
  let id := store.proposals.nextProposalId
  let (snapshots, quadraticTotalSupply) := snapshotPowers store env.sequence useQuadraticVoting
    store.tokens.holders ∅ 0
  let votingStarts := satCount u64Max env.timestamp config.votingDelay
  let votingEnds := satCount u64Max votingStarts config.votingPeriod
  let proposal : Proposal :=
    { proposer
      proposalType
      title
      description
      executionPayload
      votingStarts
      votingEnds
      votesFor := 0
      votesAgainst := 0
      votesAbstain := 0
      status := .pending
      voters := ∅
      voterList := []
      executedAt := none
      discussionEndsAt := if 0 < config.discussionDuration then
        satCount u64Max env.timestamp config.discussionDuration else 0
      category
      useQuadraticVoting
      quadraticTotalSupply
      executionDeadline := satCount u64Max votingEnds executionWindow }
  modify fun store => { store with proposals := { store.proposals with
    voteSnapshots := store.proposals.voteSnapshots.insert id snapshots
    proposals := store.proposals.proposals.insert id proposal
    proposalIds := store.proposals.proposalIds ++ [id]
    nextProposalId := satCount u64Max id 1 } }
  pure id

/-- The voting power of a voter when the proposal was made. -/
def voteSnapshot (store : GovStore) (proposalId : Nat) (voter : Address) : Int :=
  ((store.proposals.voteSnapshots.lookup proposalId).getD ∅).read voter

variable (proposal : Proposal)

def Proposal.IsOpen : Prop :=
  proposal.status = .pending ∨ proposal.status = .active
deriving Decidable

/-- The first vote opens the voting. -/
def Proposal.activated : ProposalStatus :=
  if proposal.status = .pending then .active else proposal.status

/-- A proposal with a tally changed by a function. -/
def Proposal.tallied (voteType : VoteType) (change : Int → Int) : Proposal :=
  match voteType with
  | .for => { proposal with votesFor := change proposal.votesFor }
  | .against => { proposal with votesAgainst := change proposal.votesAgainst }
  | .abstain => { proposal with votesAbstain := change proposal.votesAbstain }

def Proposal.tallyOf (voteType : VoteType) : Int :=
  match voteType with
  | .for => proposal.votesFor
  | .against => proposal.votesAgainst
  | .abstain => proposal.votesAbstain

/-- Vote with the power of the snapshot, or its root, once. -/
def castVote (voter : Address) (voteType : VoteType) : GovProgram Unit := do
  requireAuth env voter
  let proposal ← getProposal proposalId
  let now := env.timestamp
  ensure (¬ (0 < proposal.discussionEndsAt ∧ now < proposal.discussionEndsAt))
    .discussionPeriodActive
  ensure (¬ now < proposal.votingStarts) .votingNotStarted
  ensure (¬ proposal.votingEnds ≤ now) .votingEnded
  ensure proposal.IsOpen .proposalNotActive
  ensure (proposal.voters.lookup voter = none) .alreadyVoted
  let rawPower := voteSnapshot (← get) proposalId voter
  ensure (¬ rawPower ≤ 0) .noVotingPower
  let power := if proposal.useQuadraticVoting then isqrt rawPower else rawPower
  ensure (¬ power ≤ 0) .noVotingPower
  let tally ← ofExcept (checkedAdd (proposal.tallyOf voteType) power)
  let counted := proposal.tallied voteType fun _ => tally
  putProposal proposalId { counted with
    voters := proposal.voters.insert voter ⟨voteType, power, now⟩
    voterList := proposal.voterList ++ [voter]
    status := proposal.activated }

/-- The quorum and the approval that votes on a category are held against. -/
def resolveCategoryThresholds (store : GovStore) (category : ProposalCategory)
    (config : GovernanceConfig) : Nat × Nat :=
  match store.proposals.categoryThresholds.lookup category with
  | some threshold =>
    (if 0 < threshold.quorumBps then threshold.quorumBps else config.quorumThreshold,
      if 0 < threshold.supermajorityBps then threshold.supermajorityBps
      else config.approvalThreshold)
  | none => (config.quorumThreshold, config.approvalThreshold)

def Proposal.totalVotes : Int :=
  i128.saturatingAdd (i128.saturatingAdd proposal.votesFor proposal.votesAgainst)
    proposal.votesAbstain

def Proposal.MeetsQuorum (referenceSupply : Int) (quorumBps : Nat) : Prop :=
  saturatingMul referenceSupply quorumBps ≤ saturatingMul proposal.totalVotes bpsDenominator
deriving Decidable

def Proposal.IsApproved (approvalBps : Nat) : Prop :=
  let castVotes := i128.saturatingAdd proposal.votesFor proposal.votesAgainst
  0 < castVotes ∧
    saturatingMul castVotes approvalBps ≤ saturatingMul proposal.votesFor bpsDenominator
deriving Decidable

/-- The supply that a quorum is a part of. -/
def referenceSupply : GovProgram Int := do
  if proposal.useQuadraticVoting = true ∧ 0 < proposal.quadraticTotalSupply then
    pure proposal.quadraticTotalSupply
  else do
    let supply ← orFail (← get).tokens.totalSupply .notInitialized
    ensure (¬ supply ≤ 0) .invalidSupply
    pure supply

def executeProposalAction : GovProgram Unit :=
  match proposal.proposalType with
  | .parameterChange parameter _ proposed =>
    modify fun store => { store with registry := { store.registry with
      parameters := store.registry.parameters.insert parameter proposed } }
  | .treasurySpend recipient amount asset _ => do
    let treasury := (← get).treasury
    let balance := treasury.assets.read asset
    ensure (¬ balance < amount) .insufficientBalance
    let lowered ← ofExcept (checkedSub balance amount)
    modify fun store =>
      store.putTreasury { treasury with assets := treasury.assets.insert asset lowered }
    putTokens (← ofExcept ((← get).tokens.addBalance recipient amount))
  | .featureToggle feature enabled =>
    modify fun store => { store with registry := { store.registry with
      features := store.registry.features.insert feature enabled } }
  | .contractUpgrade contract wasmHash =>
    modify fun store => { store with registry := { store.registry with
      upgrades := store.registry.upgrades.insert contract wasmHash } }
  | .signalProposal _ | .custom _ => pure ()

def executeProposal (executor : Address) : GovProgram ProposalStatus := do
  requireAuth env executor
  let proposal ← getProposal proposalId
  ensure (proposal.status = .succeeded) .proposalNotApproved
  let ready :=
    satCount u64Max proposal.votingEnds (← get).governanceConfig.executionDelay
  ensure (¬ env.timestamp < ready) .invalidDuration
  ensure (¬ proposal.executionDeadline < env.timestamp) .proposalExpired
  executeProposalAction proposal
  putProposal proposalId { proposal with
    status := .executed
    executedAt := some env.timestamp }
  pure .executed

/-- Close the voting and settle the outcome by the votes. -/
def finalizeProposal : GovProgram ProposalStatus := do
  let proposal ← getProposal proposalId
  ensure (¬ env.timestamp < proposal.votingEnds) .invalidDuration
  ensure proposal.IsOpen .proposalNotActive
  let config := (← get).governanceConfig
  let (quorumBps, approvalBps) := resolveCategoryThresholds (← get) proposal.category config
  let supply ← referenceSupply proposal
  if proposal.MeetsQuorum supply quorumBps then do
    let status := if proposal.IsApproved approvalBps then ProposalStatus.succeeded else .failed
    putProposal proposalId { proposal with status }
    if status = .succeeded ∧ config.executionDelay = 0 then
      discard (attempt (executeProposal env proposalId proposal.proposer))
    else pure ()
    pure status
  else do
    putProposal proposalId { proposal with status := .failed }
    pure .failed

/-- Return the deposit of a proposal that enough voted on, and forfeit any other. -/
def settleProposalDeposit (totalVotes totalSupply : Int) (treasury : Address) :
    GovProgram Unit := do
  match (← get).deposits.locked.lookup proposalId with
  | none => pure ()
  | some proposer => do
    let config := depositConfig (← get)
    let thresholdMet := 0 < totalSupply ∧ (config.minParticipationBps : Int) ≤
      i128.clamp ((saturatingMul totalVotes 10000).tdiv totalSupply)
    putTokens (← ofExcept ((← get).tokens.addBalance
      (if thresholdMet then proposer else treasury) config.amount))
    modify fun store => { store with deposits := { store.deposits with
      locked := store.deposits.locked.erase proposalId } }

/-- Call a proposal off. Only an executed one cannot be. -/
def cancelProposal (canceller : Address) : GovProgram ProposalStatus := do
  requireAuth env canceller
  let proposal ← getProposal proposalId
  let admin ← orFail (← get).access.admin .notInitialized
  let guardian := (← get).access.guardian
  ensure (canceller = proposal.proposer ∨ canceller = admin ∨ guardian = some canceller)
    .unauthorized
  ensure (proposal.status ≠ .executed) .invalidCommitteeAction
  putProposal proposalId { proposal with status := .cancelled }
  pure .cancelled

/-- The entry point that makes a proposal and holds its deposit. -/
def createProposalEntry (proposer : Address) (proposalType : ProposalType)
    (title description : String) (executionPayload : Bytes) (category : ProposalCategory)
    (useQuadraticVoting : Bool) : GovProgram Nat := do
  requireInitialized
  requireNotPaused
  let proposalId ← createProposal env proposer proposalType title description executionPayload
    category useQuadraticVoting
  lockProposalDeposit proposalId proposer
  pure proposalId

/-- The entry point that finalizes a proposal and settles its deposit. An error of the
settlement is ignored. -/
def finalizeProposalEntry : GovProgram ProposalStatus := do
  requireInitialized
  requireNotPaused
  let status ← finalizeProposal env proposalId
  let proposal ← orTrap ((← get).proposal proposalId)
  let store ← get
  discard (attempt (settleProposalDeposit proposalId proposal.totalVotes
    (store.tokens.totalSupply.getD 0)
    (store.deposits.treasuryAddress.getD proposal.proposer)))
  pure status

/-- One call of the proposals' entry points. -/
inductive ProposalCall where
  | create (proposer : Address) (proposalType : ProposalType) (title description : String)
      (executionPayload : Bytes) (category : ProposalCategory) (useQuadraticVoting : Bool)
  | castVote (proposalId : Nat) (voter : Address) (voteType : VoteType)
  | finalize (proposalId : Nat)
  | execute (proposalId : Nat) (executor : Address)
  | cancel (proposalId : Nat) (canceller : Address)

/-- The entry point of a call. -/
def ProposalCall.exec (call : ProposalCall) (env : Env) : GovProgram Unit :=
  match call with
  | .create proposer proposalType title description executionPayload category
      useQuadraticVoting =>
    discard (createProposalEntry env proposer proposalType title description executionPayload
      category useQuadraticVoting)
  | .castVote proposalId voter voteType => do
    requireInitialized
    requireNotPaused
    Governance.castVote env proposalId voter voteType
  | .finalize proposalId => discard (finalizeProposalEntry env proposalId)
  | .execute proposalId executor => do
    requireInitialized
    requireNotPaused
    discard (executeProposal env proposalId executor)
  | .cancel proposalId canceller => do
    requireInitialized
    discard (cancelProposal env proposalId canceller)

end StellarSwipe.Governance
