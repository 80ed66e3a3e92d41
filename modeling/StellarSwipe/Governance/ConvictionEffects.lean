import StellarSwipe.Governance.ConvictionVoting

/-!
# What a conviction call writes

Every call that returns leaves all pools alone or writes exactly one of them.
-/

namespace StellarSwipe.Governance

open FixedWidth Program Table

/-- What a call writes to the pool with an id. -/
inductive ConvictionEffect (env : Env) (pre : ConvictionStore) :
    ConvictionCall → Nat → ConvictionVotingPool → Prop where
  | createPool {admin : Address} {fundingAmount refillRate : Amount} {refillPeriod : Nat}
      (funded : 0 < fundingAmount.val) (rate : 0 ≤ refillRate.val) :
      ConvictionEffect env pre (.createPool admin fundingAmount refillRate refillPeriod)
        pre.state.nextPoolId
        ⟨fundingAmount, refillRate, refillPeriod, ∅, [], 0, env.timestamp⟩
  | createProposal {poolId : Nat} {proposer : Address} {title : String} {requestedAmount : Amount}
      {beneficiary : Address} {pool : ConvictionVotingPool} {threshold : Int}
      (has : pre.pool poolId = some pool) (pos : 0 < requestedAmount.val)
      (within : requestedAmount.val ≤ pool.fundingAmount) :
      ConvictionEffect env pre
        (.createProposal poolId proposer title requestedAmount beneficiary) poolId
        { pool.putProposal pre.state.nextProposalId
            ⟨proposer, title, requestedAmount, beneficiary, 0, threshold, .active, ∅, [], 0⟩ with
          proposalIds := pool.proposalIds ++ [pre.state.nextProposalId] }
  | revote {poolId proposalId : Nat} {voter : Address} {tokens : Amount}
      {pool : ConvictionVotingPool} {proposal : ConvictionProposal} {existing vote : ConvictionVote}
      (has : pre.pool poolId = some pool)
      (listed : pool.proposals.lookup proposalId = some proposal) (pos : 0 < tokens.val)
      (voted : proposal.votes.lookup voter = some existing)
      (changed : updateConvictionVote env.timestamp pre.calibrated existing tokens = .ok vote) :
      ConvictionEffect env pre (.vote poolId proposalId voter tokens) poolId
        (pool.putProposal proposalId
          { proposal with votes := proposal.votes.insert voter vote })
  | firstVote {poolId proposalId : Nat} {voter : Address} {tokens : Amount}
      {pool : ConvictionVotingPool} {proposal : ConvictionProposal}
      (has : pre.pool poolId = some pool)
      (listed : pool.proposals.lookup proposalId = some proposal) (pos : 0 < tokens.val)
      (unvoted : proposal.votes.lookup voter = none) :
      ConvictionEffect env pre (.vote poolId proposalId voter tokens) poolId
        (pool.putProposal proposalId { proposal with
          votes := proposal.votes.insert voter ⟨tokens, env.timestamp, env.timestamp, 0⟩
          voters := proposal.voters ++ [voter] })
  | update {poolId proposalId : Nat} {pool : ConvictionVotingPool} {proposal : ConvictionProposal}
      {votes : Table Address ConvictionVote} {total : Int}
      (has : pre.pool poolId = some pool)
      (listed : pool.proposals.lookup proposalId = some proposal)
      (refreshed : refreshVotes env.timestamp pre.calibrated proposal.voters proposal.votes 0 =
        (votes, total)) :
      ConvictionEffect env pre (.update poolId proposalId) poolId
        (pool.putProposal proposalId
          { proposal with votes, convictionAccumulated := total })
  | updateFunded {poolId proposalId : Nat} {pool : ConvictionVotingPool}
      {proposal : ConvictionProposal} {votes : Table Address ConvictionVote} {total : Int}
      (has : pre.pool poolId = some pool)
      (listed : pool.proposals.lookup proposalId = some proposal)
      (refreshed : refreshVotes env.timestamp pre.calibrated proposal.voters proposal.votes 0 =
        (votes, total))
      (active : proposal.status = .active)
      (covered : proposal.requestedAmount ≤ pool.fundingAmount) :
      ConvictionEffect env pre (.update poolId proposalId) poolId
        ({ pool with
            fundingAmount := i128.saturatingSub pool.fundingAmount proposal.requestedAmount
          }.putProposal proposalId
          { proposal with
            votes
            convictionAccumulated := total
            status := .funded
            fundingGranted := proposal.requestedAmount })
  | execute {poolId proposalId : Nat} {pool : ConvictionVotingPool} {proposal : ConvictionProposal}
      (has : pre.pool poolId = some pool)
      (listed : pool.proposals.lookup proposalId = some proposal)
      (covered : proposal.requestedAmount ≤ pool.fundingAmount) :
      ConvictionEffect env pre (.execute poolId proposalId) poolId
        ({ pool with
            fundingAmount := i128.saturatingSub pool.fundingAmount proposal.requestedAmount
          }.putProposal proposalId
          { proposal with status := .funded, fundingGranted := proposal.requestedAmount })
  | change {poolId fromProposal toProposal : Nat} {voter : Address} {pool : ConvictionVotingPool}
      {source target : ConvictionProposal} {vote : ConvictionVote}
      (has : pre.pool poolId = some pool)
      (left : pool.proposals.lookup fromProposal = some source)
      (voted : source.votes.lookup voter = some vote)
      (joined : pool.proposals.lookup toProposal = some target) :
      ConvictionEffect env pre (.change poolId fromProposal toProposal voter) poolId
        ((pool.putProposal fromProposal { source with
            votes := source.votes.erase voter
            convictionAccumulated :=
              i128.saturatingSub source.convictionAccumulated vote.currentConviction }).putProposal
          toProposal { target with
            votes := target.votes.insert voter
              ⟨applyVoteSwitchDecay vote.tokensCommitted, env.timestamp, env.timestamp, 0⟩
            voters :=
              if voter ∈ target.voters then target.voters else target.voters ++ [voter] })
  | refill {poolId : Nat} {pool : ConvictionVotingPool}
      (has : pre.pool poolId = some pool)
      (due : ¬ env.timestamp - pool.lastRefill < pool.refillPeriod) :
      ConvictionEffect env pre (.refill poolId) poolId { pool with
        fundingAmount :=
          i128.saturatingAdd pool.fundingAmount (refillAmount pool env.timestamp)
        lastRefill := env.timestamp }
  | withdraw {poolId proposalId : Nat} {voter : Address} {pool : ConvictionVotingPool}
      {proposal : ConvictionProposal} {vote : ConvictionVote}
      (has : pre.pool poolId = some pool)
      (listed : pool.proposals.lookup proposalId = some proposal)
      (voted : proposal.votes.lookup voter = some vote) :
      ConvictionEffect env pre (.withdraw poolId proposalId voter) poolId
        (pool.putProposal proposalId { proposal with
          votes := proposal.votes.erase voter
          convictionAccumulated :=
            i128.saturatingSub proposal.convictionAccumulated vote.currentConviction })

/-- The calls that can return without writing a pool: a refill that is not due, and the
two that set the calibration. -/
inductive ConvictionQuiet (env : Env) (pre : ConvictionStore) : ConvictionCall → Prop where
  | refill {poolId : Nat} {pool : ConvictionVotingPool} (has : pre.pool poolId = some pool)
      (early : env.timestamp - pool.lastRefill < pool.refillPeriod) :
      ConvictionQuiet env pre (.refill poolId)
  | setCalibration (admin : Address) (config : ConvictionCalibration) :
      ConvictionQuiet env pre (.setCalibration admin config)
  | setDecayRate (admin : Address) (rate : Nat) :
      ConvictionQuiet env pre (.setDecayRate admin rate)

/-- One pool is written and all others are as before. -/
def WritesPool (pre after : ConvictionStore) (poolId : Nat) (pool : ConvictionVotingPool) : Prop :=
  ∀ other, after.pool other = if other = poolId then some pool else pre.pool other

/-- What a returning call did: write one pool, or none. -/
def ConvictionOutcome (input : ConvictionInput) (pre after : ConvictionStore) : Prop :=
  (∃ poolId pool, ConvictionEffect input.env pre input.call poolId pool ∧
    WritesPool pre after poolId pool) ∨
  ConvictionQuiet input.env pre input.call ∧ ∀ other, after.pool other = pre.pool other

theorem lookup_putProposal (pool : ConvictionVotingPool) (proposalId other : Nat)
    (proposal : ConvictionProposal) :
    (pool.putProposal proposalId proposal).proposals.lookup other =
      if other = proposalId then some proposal else pool.proposals.lookup other :=
  lookup_insert pool.proposals proposalId other proposal

theorem proposal_of_listed {store : ConvictionStore} {poolId : Nat}
    {pool : ConvictionVotingPool} (has : store.pool poolId = some pool) (proposalId : Nat) :
    store.proposal poolId proposalId = pool.proposals.lookup proposalId := by
  simp only [ConvictionStore.proposal, has, Option.bind_some]

section Rules

variable {pre : ConvictionStore}

theorem writesPool_putPool (poolId : Nat) (pool : ConvictionVotingPool) :
    WritesPool pre (pre.putState (pre.state.putPool poolId pool)) poolId pool :=
  fun other => lookup_insert pre.state.pools poolId other pool

theorem wp_getPool {post : ConvictionVotingPool → ConvictionStore → Prop} (poolId : Nat) :
    wp (getPool poolId) post (fun _ _ => True) pre ↔
      ∀ pool, pre.pool poolId = some pool → post pool pre := by
  simp [getPool]

theorem wp_putPool {post : Unit → ConvictionStore → Prop}
    {fault : Fault GovernanceError → ConvictionStore → Prop} (poolId : Nat)
    (pool : ConvictionVotingPool) : wp (putPool poolId pool) post fault pre ↔
      post () (pre.putState (pre.state.putPool poolId pool)) := Iff.rfl

theorem executeConvictionFundingInternal_ok {pool funded : ConvictionVotingPool}
    {proposal granted : ConvictionProposal}
    (executed : executeConvictionFundingInternal pool proposal = .ok (funded, granted)) :
    proposal.requestedAmount ≤ pool.fundingAmount ∧
      funded = { pool with
        fundingAmount := i128.saturatingSub pool.fundingAmount proposal.requestedAmount } ∧
      granted = { proposal with
        status := .funded
        fundingGranted := proposal.requestedAmount } := by
  simp only [executeConvictionFundingInternal] at executed
  split at executed
  · cases executed
  · split at executed
    · cases executed
    next covered =>
      cases executed
      exact ⟨by omega, rfl, rfl⟩

theorem exec_outcome (input : ConvictionInput) :
    wlp input.exec (fun _ after => ConvictionOutcome input pre after) pre := by
  obtain ⟨env, call⟩ := input
  cases call with
  | createPool admin fundingAmount refillRate refillPeriod =>
    simp only [ConvictionInput.exec, createConvictionPool, wlp_rules, wp_requireAdmin]
    intro _ _ _ valid
    simp only [not_or, not_le, not_lt] at valid
    exact Or.inl ⟨_, _, .createPool valid.1 valid.2.1, fun other => lookup_insert _ _ _ _⟩
  | createProposal poolId proposer title requestedAmount beneficiary =>
    simp only [ConvictionInput.exec, createConvictionProposal, wlp_rules, wp_initialized,
      wp_auth, wp_getPool]
    intro _ _ valid pool has within threshold _
    simp only [not_or, not_le] at valid
    exact Or.inl ⟨_, _, .createProposal has valid.1 within, fun other => lookup_insert _ _ _ _⟩
  | vote poolId proposalId voter tokens =>
    simp only [ConvictionInput.exec, voteConviction, wlp_rules, wp_initialized,
      wp_auth, wp_getPool]
    intro _ _ pos pool has proposal listed _
    cases voted : proposal.votes.lookup voter with
    | some existing =>
      simp only [wlp_rules, wp_putPool]
      intro vote changed
      exact Or.inl ⟨_, _, .revote has listed pos voted changed, writesPool_putPool _ _⟩
    | none =>
      exact Or.inl ⟨_, _, .firstVote has listed pos voted, writesPool_putPool _ _⟩
  | update poolId proposalId =>
    simp only [ConvictionInput.exec, updateProposalConviction, wlp_rules, wp_initialized,
      wp_getPool, wp_ite, wp_putPool]
    intro _ pool has proposal listed
    refine ⟨fun reached => ?_, fun _ => ?_⟩
    · rintro ⟨funded, granted⟩ executed
      obtain ⟨covered, rfl, rfl⟩ := executeConvictionFundingInternal_ok executed
      exact Or.inl ⟨_, _, .updateFunded has listed rfl reached.2 covered, writesPool_putPool _ _⟩
    · exact Or.inl ⟨_, _, .update has listed rfl, writesPool_putPool _ _⟩
  | execute poolId proposalId =>
    simp only [ConvictionInput.exec, executeConvictionFunding, wlp_rules, wp_initialized,
      wp_getPool, wp_putPool]
    rintro _ pool has proposal listed ⟨funded, granted⟩ executed
    obtain ⟨covered, rfl, rfl⟩ := executeConvictionFundingInternal_ok executed
    exact Or.inl ⟨_, _, .execute has listed covered, writesPool_putPool _ _⟩
  | change poolId fromProposal toProposal voter =>
    simp only [ConvictionInput.exec, changeConvictionVote, wlp_rules, wp_initialized,
      wp_auth, wp_getPool, wp_putPool]
    intro _ _ pool has source left vote voted target joined
    exact Or.inl ⟨_, _, .change has left voted joined, writesPool_putPool _ _⟩
  | refill poolId =>
    simp only [ConvictionInput.exec, refillConvictionPool, wp_rules, wp_initialized,
      wp_getPool, wp_ite, wp_putPool]
    intro _ pool has
    refine ⟨fun early => ?_, fun due => ?_⟩
    · exact Or.inr ⟨.refill has early, fun _ => rfl⟩
    · exact Or.inl ⟨_, _, .refill has due, writesPool_putPool _ _⟩
  | withdraw poolId proposalId voter =>
    simp only [ConvictionInput.exec, withdrawConvictionVote, wlp_rules, wp_initialized,
      wp_auth, wp_getPool, wp_putPool]
    intro _ _ pool has proposal listed vote voted
    exact Or.inl ⟨_, _, .withdraw has listed voted, writesPool_putPool _ _⟩
  | setCalibration admin config =>
    simp only [ConvictionInput.exec, setConvictionCalibration, putConvictionCalibration, wlp_rules,
      wp_requireAdmin]
    intro _ _ _ _ _
    exact Or.inr ⟨.setCalibration admin config, fun _ => rfl⟩
  | setDecayRate admin rate =>
    simp only [ConvictionInput.exec, setConvictionDecayRate, wlp_rules, wp_requireAdmin]
    intro _ _ _ _
    exact Or.inr ⟨.setDecayRate admin rate, fun _ => rfl⟩

end Rules

end StellarSwipe.Governance
