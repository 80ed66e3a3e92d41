import StellarSwipe.Governance.Types
import StellarSwipe.Library.KeyedSum

/-!
# How conviction grows and is voted

The conviction of a vote grows with the square root of its age in days and decays exponentially at
a calibrated rate; young votes may be penalised, old ones rewarded, and a single vote capped.
-/

namespace StellarSwipe.Governance

open FixedWidth

def precision : Int := 10000

/-- Fixed-point scale of the decay ratio. -/
def decayScale : Int := 1000000000000

def minDecayRate : Nat := 1

def maxDecayRate : Nat := 999

def secondsPerDay : Nat := 86400

/-- Binary exponentiation over the bits of a 32-bit exponent, lowest first. -/
def powBits (scale : Int) : Nat → Int → Nat → Int → Int
  | 0, _, _, result => result
  | bits + 1, baseScaled, exponent, result =>
    if exponent = 0 then result
    else powBits scale bits ((saturatingMul baseScaled baseScaled).tdiv scale) (exponent / 2)
      (if exponent % 2 = 1 then (saturatingMul result baseScaled).tdiv scale else result)

def powFixedPoint (baseScaled : Int) (exponent : Nat) (scale : Int) : Int :=
  powBits scale 32 baseScaled exponent scale

/-- How conviction is penalised, rewarded, capped and decayed. -/
structure ConvictionCalibration where
  penaltyThresholdDays : Nat
  penaltyMultiplier : Nat
  rewardBonusPct : Nat
  maxConvictionCap : Int
  decayRateBps : Nat

def ConvictionCalibration.default : ConvictionCalibration := ⟨0, 1, 0, 0, 50⟩

variable (now : Nat) (env : Env) (admin : Address) (poolId : Nat) (proposalId : Nat)
  (calibration : ConvictionCalibration)

/-- The decay multiplier of a vote's age applied to its conviction. -/
def decayed (days : Nat) (conviction : Int) : Int :=
  if minDecayRate ≤ calibration.decayRateBps ∧ calibration.decayRateBps ≤ maxDecayRate then
    (saturatingMul conviction (powFixedPoint
      ((saturatingMul (1000 - calibration.decayRateBps) decayScale).tdiv 1000)
      (days % 2 ^ 32) decayScale)).tdiv decayScale
  else conviction

def penalised (days : Nat) (conviction : Int) : Int :=
  if 0 < calibration.penaltyThresholdDays ∧ days < calibration.penaltyThresholdDays ∧
      1 < calibration.penaltyMultiplier then
    i128.saturatingSub conviction (conviction.tdiv calibration.penaltyMultiplier)
  else conviction

/-- The bonus for votes past the threshold; a product that overflows gives none. -/
def rewarded (days : Nat) (conviction : Int) : Int :=
  if 0 < calibration.rewardBonusPct ∧ calibration.penaltyThresholdDays ≤ days then
    i128.saturatingAdd conviction
      (((i128.checkedMul conviction calibration.rewardBonusPct).getD 0).tdiv 100)
  else conviction

def capped (conviction : Int) : Int :=
  if 0 < calibration.maxConvictionCap ∧ calibration.maxConvictionCap < conviction then
    calibration.maxConvictionCap
  else conviction

def calculateConviction (tokens : Int) (timeElapsed : Nat) (calibration : ConvictionCalibration) :
    Int :=
  let days := timeElapsed / secondsPerDay
  if days = 0 then 0
  else capped calibration (rewarded calibration days (penalised calibration days
    (decayed calibration days ((saturatingMul tokens (isqrt days)).tdiv 1000))))

/-- The conviction a proposal needs for the share of the pool it requests. -/
def calculateConvictionThreshold (requestedAmount totalPool totalConviction : Int) :
    Except GovernanceError Int :=
  if requestedAmount ≤ 0 ∨ totalPool ≤ 0 then .error .invalidAmount
  else do
    let amountScaled ← checkedMul requestedAmount precision
    let amountRatio := amountScaled.tdiv totalPool
    let ratioProduct ← checkedMul amountRatio amountRatio
    let ratioSquared := ratioProduct.tdiv precision
    let weighted ← checkedMul ratioSquared totalConviction
    pure (max 1000 ((saturatingMul weighted 200).tdiv (precision * 100)))

theorem powBits_nonneg {scale base result : Int} (scalePositive : 0 ≤ scale) (bits exponent : Nat)
    (baseNonneg : 0 ≤ base) (resultNonneg : 0 ≤ result) :
    0 ≤ powBits scale bits base exponent result := by
  induction bits generalizing base exponent result with
  | zero => exact resultNonneg
  | succ bits ih =>
    simp only [powBits]
    split
    · exact resultNonneg
    · apply ih
      · exact Int.tdiv_nonneg (saturatingMul_nonneg baseNonneg baseNonneg) scalePositive
      · split
        · exact Int.tdiv_nonneg (saturatingMul_nonneg resultNonneg baseNonneg) scalePositive
        · exact resultNonneg

section Nonneg

variable (calibration : ConvictionCalibration) (days : Nat) {conviction : Int}

theorem decayed_nonneg (nonneg : 0 ≤ conviction) : 0 ≤ decayed calibration days conviction := by
  simp only [decayed]
  split
  next valid =>
    have rate : (calibration.decayRateBps : Int) ≤ 999 := by
      exact_mod_cast valid.2
    have factor : 0 ≤ (saturatingMul (1000 - calibration.decayRateBps) decayScale).tdiv 1000 :=
      Int.tdiv_nonneg (saturatingMul_nonneg (by omega) (by decide)) (by decide)
    have power := powBits_nonneg (show 0 ≤ decayScale by decide) 32 (days % 2 ^ 32) factor
      (show 0 ≤ decayScale by decide)
    exact Int.tdiv_nonneg (saturatingMul_nonneg nonneg power) (by decide)
  next => exact nonneg

theorem penalised_nonneg (nonneg : 0 ≤ conviction) : 0 ≤ penalised calibration days conviction := by
  simp only [penalised]
  split
  · have part : conviction.tdiv calibration.penaltyMultiplier ≤ conviction :=
      Int.tdiv_le_self _ nonneg
    exact i128.le_clamp (by decide) (by omega)
  · exact nonneg

theorem rewarded_nonneg (nonneg : 0 ≤ conviction) : 0 ≤ rewarded calibration days conviction := by
  simp only [rewarded]
  split
  · have bonus : 0 ≤ (i128.checkedMul conviction calibration.rewardBonusPct).getD 0 := by
      simp only [Range.checkedMul, Range.checked]
      split
      · exact mul_nonneg nonneg (by omega)
      · exact le_refl 0
    have share := Int.tdiv_nonneg bonus (show (0 : Int) ≤ 100 by decide)
    exact i128.le_clamp (by decide) (by omega)
  · exact nonneg

theorem capped_nonneg (nonneg : 0 ≤ conviction) : 0 ≤ capped calibration conviction := by
  simp only [capped]
  split <;> omega

theorem calculateConviction_nonneg {tokens : Int} (nonneg : 0 ≤ tokens) (timeElapsed : Nat) :
    0 ≤ calculateConviction tokens timeElapsed calibration := by
  simp only [calculateConviction]
  split
  · exact le_refl 0
  · apply capped_nonneg
    apply rewarded_nonneg
    apply penalised_nonneg
    apply decayed_nonneg
    exact Int.tdiv_nonneg (saturatingMul_nonneg nonneg (isqrt_nonneg _)) (by decide)

end Nonneg

/-! ## Conviction voting

A pool holds funding for its proposals. Voters commit tokens to a proposal, their conviction grows
while they stay, and a proposal whose conviction reaches its threshold is funded out of the pool.
It keeps its votes in a map and its voters in a list, through which its conviction is recomputed.
-/

open Program

inductive ConvictionStatus where
  | active
  | funded
  | cancelled
  | expired
deriving DecidableEq

structure ConvictionVote where
  tokensCommitted : Int
  voteStarted : Nat
  lastConvictionUpdate : Nat
  currentConviction : Int

structure ConvictionProposal where
  proposer : Address
  title : String
  requestedAmount : Int
  beneficiary : Address
  convictionAccumulated : Int
  convictionThreshold : Int
  status : ConvictionStatus
  votes : Table Address ConvictionVote
  voters : List Address
  fundingGranted : Int

structure ConvictionVotingPool where
  fundingAmount : Int
  refillRate : Int
  refillPeriod : Nat
  proposals : Table Nat ConvictionProposal
  proposalIds : List Nat
  totalConviction : Int
  lastRefill : Nat

structure ConvictionState where
  pools : Table Nat ConvictionVotingPool
  poolIds : List Nat
  nextPoolId : Nat
  nextProposalId : Nat

def ConvictionState.empty : ConvictionState := ⟨∅, [], 1, 1⟩

/-- The entries that conviction voting reads and writes. -/
structure ConvictionStore where
  initialized : Bool
  admin : Option Address
  conviction : Option ConvictionState
  calibration : Option ConvictionCalibration

abbrev ConvictionProgram := Program ConvictionStore GovernanceError

namespace ConvictionStore

variable (store : ConvictionStore)

def state : ConvictionState := store.conviction.getD .empty

def calibrated : ConvictionCalibration := store.calibration.getD .default

def putState (state : ConvictionState) : ConvictionStore :=
  { store with conviction := some state }

def putCalibration (calibration : ConvictionCalibration) : ConvictionStore :=
  { store with calibration := some calibration }

/-- The pool, as every read of it finds it. -/
def pool (poolId : Nat) : Option ConvictionVotingPool := store.state.pools.lookup poolId

/-- The proposal of a pool, as every read of it finds it. -/
def proposal (poolId proposalId : Nat) : Option ConvictionProposal :=
  (store.pool poolId).bind fun pool => pool.proposals.lookup proposalId

end ConvictionStore

def ConvictionVotingPool.putProposal (pool : ConvictionVotingPool) (proposalId : Nat)
    (proposal : ConvictionProposal) : ConvictionVotingPool :=
  { pool with proposals := pool.proposals.insert proposalId proposal }

def ConvictionState.putPool (state : ConvictionState) (poolId : Nat) (pool : ConvictionVotingPool) :
    ConvictionState :=
  { state with pools := state.pools.insert poolId pool }

instance : Administered ConvictionStore where
  initialized := ConvictionStore.initialized
  admin := ConvictionStore.admin

def getPool : ConvictionProgram ConvictionVotingPool := do
  orFail ((← get).pool poolId) .convictionPoolNotFound

def putPool (poolId : Nat) (pool : ConvictionVotingPool) : ConvictionProgram Unit :=
  modify fun store => store.putState (store.state.putPool poolId pool)

def createConvictionPool (fundingAmount refillRate : Int) (refillPeriod : Nat) :
    ConvictionProgram Nat := do
  requireAdmin env admin
  ensure (¬ (fundingAmount ≤ 0 ∨ refillRate < 0 ∨ refillPeriod = 0)) .invalidCommitteeConfig
  let state := (← get).state
  let poolId := state.nextPoolId
  let pool : ConvictionVotingPool :=
    { fundingAmount
      refillRate
      refillPeriod
      proposals := ∅
      proposalIds := []
      totalConviction := 0
      lastRefill := env.timestamp }
  modify fun store => store.putState { state.putPool poolId pool with
    poolIds := state.poolIds ++ [poolId]
    nextPoolId := satCount u64Max poolId 1 }
  pure poolId

/-- Ask a pool for an amount. The threshold is fixed by the share of the pool at the
time of asking. -/
def createConvictionProposal (proposer : Address) (title : String) (requestedAmount : Int)
    (beneficiary : Address) : ConvictionProgram Nat := do
  requireInitialized
  requireAuth env proposer
  ensure (¬ (requestedAmount ≤ 0 ∨ title = "")) .invalidProposal
  let pool ← getPool poolId
  ensure (requestedAmount ≤ pool.fundingAmount) .insufficientBalance
  let state := (← get).state
  let proposalId := state.nextProposalId
  let threshold ← ofExcept (calculateConvictionThreshold requestedAmount pool.fundingAmount
    (if 0 < pool.totalConviction then pool.totalConviction else 1000))
  let proposal : ConvictionProposal :=
    { proposer
      title
      requestedAmount
      beneficiary
      convictionAccumulated := 0
      convictionThreshold := threshold
      status := .active
      votes := ∅
      voters := []
      fundingGranted := 0 }
  modify fun store => store.putState { state.putPool poolId
      { pool.putProposal proposalId proposal with proposalIds := pool.proposalIds ++ [proposalId] }
    with nextProposalId := satCount u64Max proposalId 1 }
  pure proposalId

def ConvictionVote.convictionAt (vote : ConvictionVote) (now : Nat)
    (calibration : ConvictionCalibration) : Int :=
  calculateConviction vote.tokensCommitted (now - vote.voteStarted) calibration

def updateVoteConviction (vote : ConvictionVote) : ConvictionVote :=
  { vote with
    currentConviction := vote.convictionAt now calibration
    lastConvictionUpdate := now }

/-- A voter's new commitment: a larger one starts its age again, a smaller one keeps
its age. -/
def updateConvictionVote (vote : ConvictionVote) (newTokens : Int) :
    Except GovernanceError ConvictionVote :=
  if vote.tokensCommitted < newTokens then
    .ok ⟨newTokens, now, now, 0⟩
  else if newTokens < vote.tokensCommitted then do
    let updated := updateVoteConviction now calibration vote
    let scaled ← checkedMul newTokens precision
    let reduced ← checkedMul updated.currentConviction (scaled.tdiv vote.tokensCommitted)
    pure { updated with
      currentConviction := reduced.tdiv precision
      tokensCommitted := newTokens }
  else .ok vote

/-- Commit tokens to an active proposal. A voter without a vote joins the list. -/
def voteConviction (voter : Address) (tokensToCommit : Int) : ConvictionProgram Unit := do
  requireInitialized
  requireAuth env voter
  ensure (0 < tokensToCommit) .invalidAmount
  let pool ← getPool poolId
  let proposal ← orFail (pool.proposals.lookup proposalId) .proposalNotFound
  ensure (proposal.status = .active) .proposalNotActive
  match proposal.votes.lookup voter with
  | some existing => do
    let vote ← ofExcept (updateConvictionVote env.timestamp (← get).calibrated existing
      tokensToCommit)
    putPool poolId (pool.putProposal proposalId
      { proposal with votes := proposal.votes.insert voter vote })
  | none =>
    putPool poolId (pool.putProposal proposalId { proposal with
      votes := proposal.votes.insert voter ⟨tokensToCommit, env.timestamp, env.timestamp, 0⟩
      voters := proposal.voters ++ [voter] })

def executeConvictionFundingInternal (pool : ConvictionVotingPool) (proposal : ConvictionProposal) :
    Except GovernanceError (ConvictionVotingPool × ConvictionProposal) :=
  if proposal.convictionAccumulated < proposal.convictionThreshold then
    .error .invalidCommitteeAction
  else if pool.fundingAmount < proposal.requestedAmount then .error .insufficientBalance
  else .ok
    ({ pool with
        fundingAmount := i128.saturatingSub pool.fundingAmount proposal.requestedAmount },
      { proposal with status := .funded, fundingGranted := proposal.requestedAmount })

/-- Recompute the votes of the listed voters, one listing at a time, and add up their
convictions. -/
def refreshVotes (now : Nat) (calibration : ConvictionCalibration) :
    List Address → Table Address ConvictionVote → Int → Table Address ConvictionVote × Int
  | [], votes, total => (votes, total)
  | voter :: rest, votes, total =>
    match votes.lookup voter with
    | some vote =>
      let updated := updateVoteConviction now calibration vote
      refreshVotes now calibration rest (votes.insert voter updated)
        (i128.saturatingAdd total updated.currentConviction)
    | none => refreshVotes now calibration rest votes total

/-- Recompute a proposal's conviction, and fund it when it is active and has reached
its threshold. -/
def updateProposalConviction : ConvictionProgram Int := do
  requireInitialized
  let pool ← getPool poolId
  let proposal ← orFail (pool.proposals.lookup proposalId) .proposalNotFound
  let (votes, total) := refreshVotes env.timestamp (← get).calibrated proposal.voters
    proposal.votes 0
  let recomputed := { proposal with votes, convictionAccumulated := total }
  if proposal.convictionThreshold ≤ total ∧ proposal.status = .active then do
    let (funded, granted) ← ofExcept (executeConvictionFundingInternal pool recomputed)
    putPool poolId (funded.putProposal proposalId granted)
    pure granted.convictionAccumulated
  else do
    putPool poolId (pool.putProposal proposalId recomputed)
    pure recomputed.convictionAccumulated

def executeConvictionFunding : ConvictionProgram Unit := do
  requireInitialized
  let pool ← getPool poolId
  let proposal ← orFail (pool.proposals.lookup proposalId) .proposalNotFound
  let (funded, granted) ← ofExcept (executeConvictionFundingInternal pool proposal)
  putPool poolId (funded.putProposal proposalId granted)

/-- What a vote keeps of its tokens when it moves. -/
def applyVoteSwitchDecay (tokens : Int) : Int := i128.saturatingSub tokens (tokens.tdiv 10)

/-- Move a vote to another proposal of the pool, where its age starts again. The target
is read before the source is written, and written after it. -/
def changeConvictionVote (fromProposal toProposal : Nat) (voter : Address) :
    ConvictionProgram Unit := do
  requireInitialized
  requireAuth env voter
  let pool ← getPool poolId
  let source ← orFail (pool.proposals.lookup fromProposal) .proposalNotFound
  let vote ← orFail (source.votes.lookup voter) .crossCommitteeRequestNotFound
  let target ← orFail (pool.proposals.lookup toProposal) .proposalNotFound
  let left := { source with
    votes := source.votes.erase voter
    convictionAccumulated :=
      i128.saturatingSub source.convictionAccumulated vote.currentConviction }
  let joined := { target with
    votes := target.votes.insert voter
      ⟨applyVoteSwitchDecay vote.tokensCommitted, env.timestamp, env.timestamp, 0⟩
    voters := if voter ∈ target.voters then target.voters else target.voters ++ [voter] }
  putPool poolId ((pool.putProposal fromProposal left).putProposal toProposal joined)

/-- The number of whole periods since the last refill times the rate. -/
def refillAmount (pool : ConvictionVotingPool) (now : Nat) : Int :=
  saturatingMul pool.refillRate ((now - pool.lastRefill) / pool.refillPeriod : Nat)

def refillConvictionPool : ConvictionProgram Int := do
  requireInitialized
  let pool ← getPool poolId
  if env.timestamp - pool.lastRefill < pool.refillPeriod then pure 0
  else do
    let amount := refillAmount pool env.timestamp
    putPool poolId { pool with
      fundingAmount := i128.saturatingAdd pool.fundingAmount amount
      lastRefill := env.timestamp }
    pure amount

/-- Take a vote back. The voter stays in the list. -/
def withdrawConvictionVote (voter : Address) : ConvictionProgram Int := do
  requireInitialized
  requireAuth env voter
  let pool ← getPool poolId
  let proposal ← orFail (pool.proposals.lookup proposalId) .proposalNotFound
  let vote ← orFail (proposal.votes.lookup voter) .crossCommitteeRequestNotFound
  putPool poolId (pool.putProposal proposalId { proposal with
    votes := proposal.votes.erase voter
    convictionAccumulated :=
      i128.saturatingSub proposal.convictionAccumulated vote.currentConviction })
  pure vote.currentConviction

def putConvictionCalibration (config : ConvictionCalibration) : ConvictionProgram Unit := do
  ensure (¬ (config.decayRateBps < minDecayRate ∨ maxDecayRate < config.decayRateBps))
    .invalidDecayRate
  modify fun store => store.putCalibration config

def setConvictionCalibration (config : ConvictionCalibration) : ConvictionProgram Unit := do
  requireAdmin env admin
  ensure (¬ (config.penaltyMultiplier = 0 ∨ 100 < config.rewardBonusPct)) .invalidCalibrationConfig
  putConvictionCalibration config

def setConvictionDecayRate (rate : Nat) : ConvictionProgram Unit := do
  requireAdmin env admin
  ensure (¬ (rate < minDecayRate ∨ maxDecayRate < rate)) .invalidDecayRate
  modify fun store => store.putCalibration { store.calibrated with decayRateBps := rate }

/-- One call of conviction voting's entry points. -/
inductive ConvictionCall where
  | createPool (admin : Address) (fundingAmount refillRate : Amount) (refillPeriod : Nat)
  | createProposal (poolId : Nat) (proposer : Address) (title : String) (requestedAmount : Amount)
      (beneficiary : Address)
  | vote (poolId proposalId : Nat) (voter : Address) (tokensToCommit : Amount)
  | update (poolId proposalId : Nat)
  | execute (poolId proposalId : Nat)
  | change (poolId fromProposal toProposal : Nat) (voter : Address)
  | refill (poolId : Nat)
  | withdraw (poolId proposalId : Nat) (voter : Address)
  | setCalibration (admin : Address) (config : ConvictionCalibration)
  | setDecayRate (admin : Address) (rate : Nat)

/-- A call in its surroundings. -/
structure ConvictionInput where
  env : Env
  call : ConvictionCall

def ConvictionInput.exec (input : ConvictionInput) : ConvictionProgram Unit :=
  match input.call with
  | .createPool admin fundingAmount refillRate refillPeriod =>
    discard (createConvictionPool input.env admin fundingAmount refillRate refillPeriod)
  | .createProposal poolId proposer title requestedAmount beneficiary =>
    discard (createConvictionProposal input.env poolId proposer title requestedAmount beneficiary)
  | .vote poolId proposalId voter tokensToCommit =>
    voteConviction input.env poolId proposalId voter tokensToCommit
  | .update poolId proposalId => discard (updateProposalConviction input.env poolId proposalId)
  | .execute poolId proposalId => executeConvictionFunding poolId proposalId
  | .change poolId fromProposal toProposal voter =>
    changeConvictionVote input.env poolId fromProposal toProposal voter
  | .refill poolId => discard (refillConvictionPool input.env poolId)
  | .withdraw poolId proposalId voter =>
    discard (withdrawConvictionVote input.env poolId proposalId voter)
  | .setCalibration admin config => setConvictionCalibration input.env admin config
  | .setDecayRate admin rate => setConvictionDecayRate input.env admin rate

def convictionStep (input : ConvictionInput) (store : ConvictionStore) : ConvictionStore :=
  invoke input.exec store

/-- Conviction voting as initialization leaves it: no pools and no calibration. -/
def ConvictionStore.initial : ConvictionStore :=
  ⟨true, some admin, some .empty, none⟩

end StellarSwipe.Governance
