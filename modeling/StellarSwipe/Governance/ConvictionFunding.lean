import StellarSwipe.Governance.ConvictionEffects
import StellarSwipe.Library.Runs

/-!
# Conviction funding

While no funded proposal is executed again, a pool's funding and grants are what was deposited and
refilled, and every proposal is granted funding at most once.
-/

namespace StellarSwipe.Governance

open FixedWidth Program Runs Table List Int

def ConvictionVotingPool.worth (pool : ConvictionVotingPool) : Int :=
  pool.fundingAmount + Table.sum (fun _ proposal => proposal.fundingGranted) pool.proposals

/-- Whether a pool holds a proposal with the status of a funded one, as a count. -/
def ConvictionVotingPool.fundedMark (pool : ConvictionVotingPool) (proposalId : Nat) : Nat :=
  match pool.proposals.lookup proposalId with
  | some proposal => if proposal.status = .funded then 1 else 0
  | none => 0

/-- A pool that can pay what it grants, and whose proposals record what they were
granted. -/
structure ConvictionVotingPool.Valid (pool : ConvictionVotingPool) : Prop where
  funding : 0 ≤ pool.fundingAmount ∧ pool.fundingAmount ≤ i128.high
  rate : 0 ≤ pool.refillRate
  proposals : ∀ proposalId proposal, pool.proposals.lookup proposalId = some proposal →
    0 < proposal.requestedAmount ∧
      proposal.fundingGranted = if proposal.status = .funded then proposal.requestedAmount else 0

section Pool

variable {pool : ConvictionVotingPool} {proposalId : Nat} {pre proposal : ConvictionProposal}

theorem worth_putProposal (listed : pool.proposals.lookup proposalId = some pre)
    (proposal : ConvictionProposal) : (pool.putProposal proposalId proposal).worth =
      pool.worth - pre.fundingGranted + proposal.fundingGranted := by
  simp only [ConvictionVotingPool.worth, ConvictionVotingPool.putProposal, sum_insert,
    contribution_of_some listed]
  omega

theorem fundedMark_of_listed (listed : pool.proposals.lookup proposalId = some pre) :
    pool.fundedMark proposalId = if pre.status = .funded then 1 else 0 := by
  simp only [ConvictionVotingPool.fundedMark, listed]

theorem fundedMark_putProposal (pool : ConvictionVotingPool) (proposalId other : Nat)
    (proposal : ConvictionProposal) : (pool.putProposal proposalId proposal).fundedMark other =
      if other = proposalId then (if proposal.status = .funded then 1 else 0)
      else pool.fundedMark other := by
  rw [ConvictionVotingPool.fundedMark, lookup_putProposal]
  by_cases same : other = proposalId
  · rw [if_pos same, if_pos same]
  · rw [if_neg same, if_neg same, ConvictionVotingPool.fundedMark]

/-- A proposal rewritten with its status and grant leaves the pool's accounts. -/
structure SameAccounts (pool after : ConvictionVotingPool) : Prop where
  worth : after.worth = pool.worth
  marks : ∀ proposalId, after.fundedMark proposalId = pool.fundedMark proposalId
  funding : after.fundingAmount = pool.fundingAmount
  valid : pool.Valid → after.Valid

theorem SameAccounts.trans {middle after : ConvictionVotingPool} (prior : SameAccounts pool middle)
    (later : SameAccounts middle after) : SameAccounts pool after where
  worth := later.worth.trans prior.worth
  marks key := (later.marks key).trans (prior.marks key)
  funding := later.funding.trans prior.funding
  valid valid := later.valid (prior.valid valid)

theorem sameAccounts_putProposal (listed : pool.proposals.lookup proposalId = some pre)
    (status : proposal.status = pre.status) (granted : proposal.fundingGranted = pre.fundingGranted)
    (requested : proposal.requestedAmount = pre.requestedAmount) :
    SameAccounts pool (pool.putProposal proposalId proposal) where
  worth := by
    rw [worth_putProposal listed]
    omega
  marks key := by
    rw [fundedMark_putProposal]
    split
    next same => rw [same, fundedMark_of_listed listed, status]
    next => rfl
  funding := rfl
  valid valid := by
    refine ⟨valid.funding, valid.rate, fun key hit lookup => ?_⟩
    rw [lookup_putProposal] at lookup
    split at lookup
    · cases lookup
      rw [status, granted, requested]
      exact valid.proposals proposalId pre listed
    · exact valid.proposals key hit lookup

theorem sameAccounts_newProposal (unlisted : pool.proposals.lookup proposalId = none)
    (pos : 0 < proposal.requestedAmount) (status : proposal.status = .active)
    (granted : proposal.fundingGranted = 0) :
    SameAccounts pool (pool.putProposal proposalId proposal) where
  worth := by
    simp only [ConvictionVotingPool.worth, ConvictionVotingPool.putProposal, sum_insert,
      contribution_of_none unlisted, granted]
    omega
  marks key := by
    rw [fundedMark_putProposal]
    split
    next same =>
      rw [same, ConvictionVotingPool.fundedMark, unlisted, if_neg (by rw [status]; decide)]
    next => rfl
  funding := rfl
  valid valid := by
    refine ⟨valid.funding, valid.rate, fun key hit lookup => ?_⟩
    rw [lookup_putProposal] at lookup
    split at lookup
    · cases lookup
      exact ⟨pos, by rw [granted, if_neg (by rw [status]; decide)]⟩
    · exact valid.proposals key hit lookup

theorem sameAccounts_proposalIds (pool : ConvictionVotingPool) (proposalIds : List Nat) :
    SameAccounts pool { pool with proposalIds } :=
  ⟨rfl, fun _ => rfl, rfl, fun valid => ⟨valid.funding, valid.rate, valid.proposals⟩⟩

theorem granted_accounts {funded : ConvictionVotingPool} (valid : pool.Valid)
    (listed : pool.proposals.lookup proposalId = some pre) (unfunded : pre.status ≠ .funded)
    (covered : pre.requestedAmount ≤ pool.fundingAmount)
    (debited : funded = { pool with
      fundingAmount := i128.saturatingSub pool.fundingAmount pre.requestedAmount })
    (status : proposal.status = .funded)
    (granted : proposal.fundingGranted = pre.requestedAmount)
    (requested : proposal.requestedAmount = pre.requestedAmount) :
    (funded.putProposal proposalId proposal).worth = pool.worth ∧
      (∀ key, (funded.putProposal proposalId proposal).fundedMark key =
        pool.fundedMark key + if key = proposalId then 1 else 0) ∧
      (funded.putProposal proposalId proposal).fundingAmount < pool.fundingAmount ∧
      (funded.putProposal proposalId proposal).Valid := by
  obtain ⟨pos, grantedBefore⟩ := valid.proposals proposalId pre listed
  rw [if_neg unfunded] at grantedBefore
  have exact : i128.saturatingSub pool.fundingAmount pre.requestedAmount =
      pool.fundingAmount - pre.requestedAmount := by
    apply i128.clamp_of_holds
    have bounds := valid.funding
    simp only [Range.Holds, i128_low, i128_high] at bounds ⊢
    omega
  have listedThere : funded.proposals.lookup proposalId = some pre := by
    rw [debited]
    exact listed
  have funding : funded.fundingAmount = pool.fundingAmount - pre.requestedAmount := by
    rw [debited, ← exact]
  have proposals : funded.proposals = pool.proposals := by rw [debited]
  refine ⟨?_, fun key => ?_, ?_, ?_⟩
  · rw [worth_putProposal listedThere, ConvictionVotingPool.worth, ConvictionVotingPool.worth,
      proposals, funding]
    omega
  · have others : funded.fundedMark key = pool.fundedMark key := by
      simp only [ConvictionVotingPool.fundedMark, proposals]
    rw [fundedMark_putProposal, others]
    split
    next same => rw [same, fundedMark_of_listed listed, if_neg unfunded]
    next => rfl
  · have moved : (funded.putProposal proposalId proposal).fundingAmount =
      funded.fundingAmount := rfl
    omega
  · refine ⟨?_, ?_, fun key hit lookup => ?_⟩
    · have moved : (funded.putProposal proposalId proposal).fundingAmount =
        funded.fundingAmount := rfl
      have bounds := valid.funding
      omega
    · have kept : (funded.putProposal proposalId proposal).refillRate = pool.refillRate := by
        rw [debited]
        rfl
      rw [kept]
      exact valid.rate
    · rw [lookup_putProposal, proposals] at lookup
      split at lookup
      · cases lookup
        rw [status, granted, requested]
        exact ⟨pos, rfl⟩
      · exact valid.proposals key hit lookup

theorem refilled_accounts {refilled : ConvictionVotingPool} {now : Nat} (valid : pool.Valid)
    (room : pool.fundingAmount + refillAmount pool now ≤ i128.high)
    (written : refilled = { pool with
      fundingAmount := i128.saturatingAdd pool.fundingAmount (refillAmount pool now)
      lastRefill := now }) :
    refilled.worth = pool.worth + refillAmount pool now ∧
      (∀ key, refilled.fundedMark key = pool.fundedMark key) ∧
      pool.fundingAmount ≤ refilled.fundingAmount ∧ refilled.Valid := by
  have nonneg : 0 ≤ refillAmount pool now := saturatingMul_nonneg valid.rate (natCast_nonneg _)
  have exact : i128.saturatingAdd pool.fundingAmount (refillAmount pool now) =
      pool.fundingAmount + refillAmount pool now := by
    apply i128.clamp_of_holds
    have bounds := valid.funding
    simp only [Range.Holds, i128_low, i128_high] at bounds room ⊢
    omega
  have bounds := valid.funding
  subst written
  rw [exact]
  refine ⟨?_, fun _ => rfl, ?_, ⟨?_, room⟩, valid.rate, valid.proposals⟩
  · simp only [ConvictionVotingPool.worth]
    omega
  · simp only
    omega
  · simp only
    omega

end Pool

variable (store : ConvictionStore) (poolId : Nat)

def worthOf : Int :=
  match store.pool poolId with
  | some pool => pool.worth
  | none => 0

def fundingOf : Int :=
  match store.pool poolId with
  | some pool => pool.fundingAmount
  | none => 0

def fundedMarkOf (proposalId : Nat) : Nat :=
  match store.pool poolId with
  | some pool => pool.fundedMark proposalId
  | none => 0

def deposited (poolId : Nat) (taken : Transition ConvictionStore ConvictionInput) : Int :=
  match taken.input.call with
  | .createPool _ fundingAmount _ _ =>
    if taken.pre.state.nextPoolId = poolId ∧ Accepts taken.input.exec taken.pre then
      fundingAmount.val
    else 0
  | _ => 0

/-- The amount that a transition returned as refilled into the pool. -/
def refilled (taken : Transition ConvictionStore ConvictionInput) : Int :=
  match taken.input.call with
  | .refill target =>
    if target = poolId then
      valueOr 0 (refillConvictionPool taken.input.env target) taken.pre
    else 0
  | _ => 0

def grants (proposalId : Nat) (taken : Transition ConvictionStore ConvictionInput) : Nat :=
  match taken.input.call with
  | .update pool proposal | .execute pool proposal =>
    if pool = poolId ∧ proposal = proposalId ∧
      fundingOf taken.after poolId < fundingOf taken.pre poolId then 1 else 0
  | _ => 0

/-- A funded proposal is not executed again, a refill fits its type, and a new id is not
in use. -/
def FundingGuard (input : ConvictionInput) : Prop :=
  match input.call with
  | .createPool _ _ _ _ => store.pool store.state.nextPoolId = none
  | .createProposal poolId _ _ _ _ =>
    store.proposal poolId store.state.nextProposalId = none
  | .execute poolId proposalId =>
    ∀ proposal, store.proposal poolId proposalId = some proposal → proposal.status ≠ .funded
  | .refill poolId => ∀ pool, store.pool poolId = some pool →
    pool.refillPeriod ≤ input.env.timestamp - pool.lastRefill →
    pool.fundingAmount + refillAmount pool input.env.timestamp ≤ i128.high
  | _ => True

instance (input : ConvictionInput) : Decidable (FundingGuard store input) := by
  unfold FundingGuard
  split <;> infer_instance

def PoolsValid : Prop :=
  ∀ poolId pool, store.pool poolId = some pool → pool.Valid

/-- What a call does to one pool's accounts: its worth grows by an inflow, the mark of
one proposal at most is raised, and only then its funding falls. -/
structure FundingMove (pre after : ConvictionStore) (poolId : Nat) (inflow : Int)
    (granted : Nat → Nat) : Prop where
  worth : worthOf after poolId = worthOf pre poolId + inflow
  marks : ∀ proposalId,
    fundedMarkOf after poolId proposalId = fundedMarkOf pre poolId proposalId + granted proposalId
  valid : ∀ pool, after.pool poolId = some pool → pool.Valid

section Steps

variable {pre after : ConvictionStore} {poolId : Nat} {written : ConvictionVotingPool}

theorem fundingMove_kept (valid : PoolsValid pre) (kept : after.pool poolId = pre.pool poolId) :
    FundingMove pre after poolId 0 (fun _ => 0) ∧
      ¬ fundingOf after poolId < fundingOf pre poolId := by
  refine ⟨⟨?_, fun key => ?_, fun hit lookup => ?_⟩, ?_⟩
  · rw [worthOf, worthOf, kept, add_zero]
  · rw [fundedMarkOf, fundedMarkOf, kept, Nat.add_zero]
  · exact valid poolId hit (kept ▸ lookup)
  · rw [fundingOf, fundingOf, kept]
    omega

theorem fundingMove_same {pool : ConvictionVotingPool} (valid : PoolsValid pre)
    (has : pre.pool poolId = some pool) (wrote : after.pool poolId = some written)
    (same : SameAccounts pool written) : FundingMove pre after poolId 0 (fun _ => 0) ∧
      ¬ fundingOf after poolId < fundingOf pre poolId := by
  refine ⟨⟨?_, fun key => ?_, fun hit lookup => ?_⟩, ?_⟩
  · simp only [worthOf, has, wrote, same.worth, add_zero]
  · simp only [fundedMarkOf, has, wrote, same.marks, Nat.add_zero]
  · rw [wrote] at lookup
    cases lookup
    exact same.valid (valid poolId pool has)
  · simp only [fundingOf, has, wrote, same.funding]
    omega

theorem fundingMove_granted {pool funded : ConvictionVotingPool} {proposalId : Nat}
    {proposal granted : ConvictionProposal} (valid : PoolsValid pre)
    (has : pre.pool poolId = some pool)
    (listed : pool.proposals.lookup proposalId = some proposal)
    (unfunded : proposal.status ≠ .funded) (covered : proposal.requestedAmount ≤ pool.fundingAmount)
    (wrote : after.pool poolId = some (funded.putProposal proposalId granted))
    (debited : funded = { pool with
      fundingAmount := i128.saturatingSub pool.fundingAmount proposal.requestedAmount })
    (status : granted.status = .funded)
    (amount : granted.fundingGranted = proposal.requestedAmount)
    (requested : granted.requestedAmount = proposal.requestedAmount) :
    FundingMove pre after poolId 0 (fun key => if key = proposalId then 1 else 0) ∧
      fundingOf after poolId < fundingOf pre poolId := by
  obtain ⟨worth, marks, falls, still⟩ := granted_accounts (valid poolId pool has) listed unfunded
    covered debited status amount requested
  refine ⟨⟨?_, fun key => ?_, fun hit lookup => ?_⟩, ?_⟩
  · simp only [worthOf, has, wrote, worth, add_zero]
  · simp only [fundedMarkOf, has, wrote, marks]
  · rw [wrote] at lookup
    cases lookup
    exact still
  · simp only [fundingOf, has, wrote]
    exact falls

/-- What a refill returns: nothing when it is not due and its amount when it is. -/
theorem refillConvictionPool_returns (env : Env) (poolId : Nat) :
    wlp (refillConvictionPool env poolId) (fun amount _ => ∀ pool, pre.pool poolId = some pool →
        amount = if env.timestamp - pool.lastRefill < pool.refillPeriod then 0
          else refillAmount pool env.timestamp) pre := by
  simp only [refillConvictionPool, wp_rules, wp_initialized, wp_getPool, wp_ite, wp_putPool]
  intro _ pool has
  refine ⟨fun early other hit => ?_, fun due other hit => ?_⟩
  · rw [has, Option.some.injEq] at hit
    rw [← hit, if_pos early]
  · rw [has, Option.some.injEq] at hit
    rw [← hit, if_neg due]

variable {input : ConvictionInput}

theorem effect_moves (valid : PoolsValid pre) (guard : FundingGuard pre input)
    (effect : ConvictionEffect input.env pre input.call poolId written)
    (wrote : after.pool poolId = some written) (accepts : Accepts input.exec pre) :
    FundingMove pre after poolId
      (deposited poolId ⟨pre, input, after⟩ + refilled poolId ⟨pre, input, after⟩)
      fun proposalId => grants poolId proposalId ⟨pre, input, after⟩ := by
  obtain ⟨env, call⟩ := input
  cases effect with
  | @createPool admin fundingAmount refillRate refillPeriod funded rate =>
    have absent : pre.pool pre.state.nextPoolId = none := guard
    refine ⟨?_, fun key => ?_, fun hit lookup => ?_⟩
    · simp only [worthOf, wrote, absent, deposited, refilled, accepts, ConvictionVotingPool.worth,
        sum_empty, and_self, if_true]
      omega
    · simp only [fundedMarkOf, wrote, absent, ConvictionVotingPool.fundedMark, grants,
        AList.lookup_empty]
    · rw [wrote] at lookup
      cases lookup
      exact ⟨⟨funded.le, fundingAmount.property.2⟩, rate, by simp⟩
  | @createProposal _ proposer title requestedAmount beneficiary pool threshold has pos
      within =>
    have unlisted : pool.proposals.lookup pre.state.nextProposalId = none := by
      rw [← proposal_of_listed has]
      exact guard
    exact (fundingMove_same valid has wrote
      ((sameAccounts_newProposal unlisted pos rfl rfl).trans (sameAccounts_proposalIds _ _))).1
  | revote has listed pos voted changed =>
    exact (fundingMove_same valid has wrote (sameAccounts_putProposal listed rfl rfl rfl)).1
  | firstVote has listed pos unvoted =>
    exact (fundingMove_same valid has wrote (sameAccounts_putProposal listed rfl rfl rfl)).1
  | update has listed refreshed =>
    obtain ⟨move, steady⟩ :=
      fundingMove_same valid has wrote (sameAccounts_putProposal listed rfl rfl rfl)
    simp only [deposited, refilled, grants, steady, and_false, if_false, add_zero]
    exact move
  | updateFunded has listed refreshed active covered =>
    obtain ⟨move, falls⟩ := fundingMove_granted valid has listed
      (by rw [active]; decide) covered wrote rfl rfl rfl rfl
    simp only [deposited, refilled, grants, falls, and_true, true_and, add_zero]
    simpa only [eq_comm] using move
  | execute has listed covered =>
    obtain ⟨move, falls⟩ := fundingMove_granted valid has listed
      (guard _ (by rw [proposal_of_listed has, listed])) covered wrote rfl rfl rfl rfl
    simp only [deposited, refilled, grants, falls, and_true, true_and, add_zero]
    simpa only [eq_comm] using move
  | @change _ fromProposal toProposal voter pool source target vote has left voted joined =>
    have rewritten : SameAccounts pool (pool.putProposal fromProposal { source with
        votes := source.votes.erase voter
        convictionAccumulated :=
          i128.saturatingSub source.convictionAccumulated vote.currentConviction }) :=
      sameAccounts_putProposal left rfl rfl rfl
    refine (fundingMove_same valid has wrote (rewritten.trans ?_)).1
    by_cases same : toProposal = fromProposal
    · subst same
      rw [left, Option.some.injEq] at joined
      subst joined
      exact sameAccounts_putProposal ((lookup_putProposal _ _ _ _).trans (if_pos rfl)) rfl rfl rfl
    · exact sameAccounts_putProposal
        (((lookup_putProposal _ _ _ _).trans (if_neg same)).trans joined) rfl rfl rfl
  | @refill _ pool has due =>
    obtain ⟨worth, marks, rises, still⟩ := refilled_accounts (valid poolId pool has)
      (guard pool has (by omega)) rfl
    obtain ⟨value, gave⟩ : ∃ value, refillConvictionPool env poolId pre =
        .ok value (invoke (refillConvictionPool env poolId) pre) :=
      gave_of_accepts (accepts_discard.mp accepts)
    have amount := wp_ok (refillConvictionPool_returns env poolId) gave pool has
    rw [if_neg due] at amount
    refine ⟨?_, fun key => ?_, fun hit lookup => ?_⟩
    · simp only [worthOf, has, wrote, worth, deposited, refilled, valueOr_of_ok gave, amount,
        if_true, zero_add]
    · simp only [fundedMarkOf, has, wrote, marks, grants, Nat.add_zero]
    · rw [wrote] at lookup
      cases lookup
      exact still
  | withdraw has listed voted =>
    exact (fundingMove_same valid has wrote (sameAccounts_putProposal listed rfl rfl rfl)).1

theorem effect_elsewhere {touched : Nat} (elsewhere : poolId ≠ touched)
    (effect : ConvictionEffect input.env pre input.call touched written) :
    deposited poolId ⟨pre, input, after⟩ + refilled poolId ⟨pre, input, after⟩ = 0 := by
  obtain ⟨env, call⟩ := input
  cases effect <;> simp [deposited, refilled, Ne.symm elsewhere]

theorem quiet_inflow (accepts : Accepts input.exec pre)
    (quiet : ConvictionQuiet input.env pre input.call) :
    deposited poolId ⟨pre, input, after⟩ + refilled poolId ⟨pre, input, after⟩ = 0 := by
  obtain ⟨env, call⟩ := input
  cases quiet with
  | @refill target pool has early =>
    obtain ⟨value, gave⟩ : ∃ value, refillConvictionPool env target pre =
        .ok value (invoke (refillConvictionPool env target) pre) :=
      gave_of_accepts (accepts_discard.mp accepts)
    have amount := wp_ok (refillConvictionPool_returns env target) gave pool has
    rw [if_pos early] at amount
    simp only [deposited, refilled, valueOr_of_ok gave, amount, ite_self, add_zero]
  | setCalibration admin config => rfl
  | setDecayRate admin rate => rfl

theorem rejected_inflow (rejected : ¬ Accepts input.exec pre) :
    deposited poolId ⟨pre, input, after⟩ + refilled poolId ⟨pre, input, after⟩ = 0 := by
  obtain ⟨env, call⟩ := input
  cases call with
  | createPool admin fundingAmount refillRate refillPeriod =>
    simp only [deposited, refilled, rejected, and_false, if_false, add_zero]
  | refill target =>
    have stopped : ¬ Accepts (refillConvictionPool env target) pre :=
      fun accepts => rejected (accepts_discard.mpr accepts)
    simp only [deposited, refilled, valueOr_of_rejected stopped, ite_self, add_zero]
  | _ => rfl

theorem grants_steady (input : ConvictionInput) (proposalId : Nat)
    (steady : ¬ fundingOf after poolId < fundingOf pre poolId) :
    grants poolId proposalId ⟨pre, input, after⟩ = 0 := by
  obtain ⟨env, call⟩ := input
  cases call <;> simp only [grants, steady, and_false, if_false]

theorem step_moves (input : ConvictionInput) (poolId : Nat) (valid : PoolsValid pre)
    (guard : FundingGuard pre input) (stepped : after = convictionStep input pre) :
    FundingMove pre after poolId
      (deposited poolId ⟨pre, input, after⟩ + refilled poolId ⟨pre, input, after⟩)
      fun proposalId => grants poolId proposalId ⟨pre, input, after⟩ := by
  -- A pool that is as before needs only that nothing came in.
  have still : after.pool poolId = pre.pool poolId →
      deposited poolId ⟨pre, input, after⟩ + refilled poolId ⟨pre, input, after⟩ = 0 →
      FundingMove pre after poolId
        (deposited poolId ⟨pre, input, after⟩ + refilled poolId ⟨pre, input, after⟩)
        fun proposalId => grants poolId proposalId ⟨pre, input, after⟩ := by
    intro kept nothing
    obtain ⟨move, steady⟩ := fundingMove_kept valid kept
    rw [nothing]
    simpa only [grants_steady input _ steady] using move
  by_cases accepts : Accepts input.exec pre
  · obtain ⟨value, gave⟩ := gave_of_accepts accepts
    rw [← convictionStep, ← stepped] at gave
    rcases wp_ok (exec_outcome input) gave with ⟨touched, pool, effect, writes⟩ | ⟨quiet, kept⟩
    · by_cases here : poolId = touched
      · subst here
        exact effect_moves valid guard effect ((writes poolId).trans (if_pos rfl)) accepts
      · exact still ((writes poolId).trans (if_neg here)) (effect_elsewhere here effect)
    · exact still (kept poolId) (quiet_inflow accepts quiet)
  · have kept : after = pre := stepped.trans (invoke_of_rejected accepts)
    exact still (by rw [kept]) (rejected_inflow accepts)

end Steps

/-- What holds after the transitions taken so far: valid pools, worth what came in, and
marks for exactly the proposals that were granted. -/
structure FundingHistory (past : List (Transition ConvictionStore ConvictionInput))
    (store : ConvictionStore) : Prop where
  valid : PoolsValid store
  worth : ∀ poolId, worthOf store poolId =
    (past.map (deposited poolId)).sum + (past.map (refilled poolId)).sum
  marks : ∀ poolId proposalId, fundedMarkOf store poolId proposalId =
    (past.map (grants poolId proposalId)).sum

/-- The accounts of every pool: its funding and what its proposals record as granted is
what was deposited and refilled, and every proposal was granted funding at most once,
in the amount it records. -/
def FundingAccounts (past : List (Transition ConvictionStore ConvictionInput))
    (store : ConvictionStore) : Prop :=
  ∀ poolId pool, store.pool poolId = some pool →
    pool.fundingAmount + Table.sum (fun _ proposal => proposal.fundingGranted) pool.proposals =
      (past.map (deposited poolId)).sum + (past.map (refilled poolId)).sum ∧
    ∀ proposalId proposal, pool.proposals.lookup proposalId = some proposal →
      (past.map (grants poolId proposalId)).sum ≤ 1 ∧
        proposal.fundingGranted =
          (past.map (grants poolId proposalId)).sum * proposal.requestedAmount

/-- Every run whose steps meet the guard keeps the funding history. The induction is on
the run, and each step moves every pool by what its transition adds to the sums. -/
theorem reached_funding (admin : Address) (inputs : List ConvictionInput)
    (guarded : ∀ taken ∈ trace convictionStep (.initial admin) inputs,
      FundingGuard taken.pre taken.input) :
    FundingHistory (trace convictionStep (.initial admin) inputs)
      (final convictionStep (.initial admin) inputs) := by
  refine history_invariant convictionStep FundingHistory FundingGuard ?_ _ ?_ inputs guarded
  · intro past pre input guard history
    have moves := fun poolId =>
      step_moves input poolId history.valid guard (rfl : convictionStep input pre = _)
    refine ⟨fun poolId pool has => (moves poolId).valid pool has, fun poolId => ?_,
      fun poolId proposalId => ?_⟩
    · have now := (moves poolId).worth
      have soFar := history.worth poolId
      simp only [map_append, map_cons, map_nil, sum_append, sum_cons, sum_nil]
      omega
    · have now := (moves poolId).marks proposalId
      have soFar := history.marks poolId proposalId
      simp only [map_append, map_cons, map_nil, sum_append, sum_cons, sum_nil]
      omega
  · exact ⟨fun _ _ has => absurd has nofun, fun _ => rfl, fun _ _ => rfl⟩

/-- Along every run in which no funded proposal is executed again, refills fit and ids
are new, every pool's accounts are kept. -/
theorem conviction_funding_accounts (admin : Address) (inputs : List ConvictionInput)
    (guarded : ∀ taken ∈ trace convictionStep (.initial admin) inputs,
      FundingGuard taken.pre taken.input) :
    FundingAccounts (trace convictionStep (.initial admin) inputs)
      (final convictionStep (.initial admin) inputs) := by
  intro poolId pool has
  have history := reached_funding admin inputs guarded
  have worth := history.worth poolId
  refine ⟨?_, fun proposalId proposal listed => ?_⟩
  · simpa only [worthOf, has, ConvictionVotingPool.worth] using worth
  · have marks := history.marks poolId proposalId
    obtain ⟨_, granted⟩ := (history.valid poolId pool has).proposals proposalId proposal listed
    rw [fundedMarkOf, has] at marks
    simp only [fundedMark_of_listed listed] at marks
    rw [← marks, granted]
    split
    · exact ⟨le_refl 1, by simp⟩
    · exact ⟨by decide, by simp⟩

section Runs

/-- A pool of a thousand, a proposal for a hundred of it, and a vote that carries the
proposal over its threshold in a day. -/
def fundedOnce : List ConvictionInput :=
  [⟨.at 0 0 [1], .createPool 1 ⟨1000, by decide⟩ ⟨0, by decide⟩ 1⟩,
    ⟨.at 0 0 [2], .createProposal 1 2 "grant" ⟨100, by decide⟩ 3⟩,
    ⟨.at 0 0 [4], .vote 1 1 4 ⟨1000000000, by decide⟩⟩,
    ⟨.at 86400 0 [], .update 1 1⟩]

/-- The funded proposal executed once more. -/
def fundedTwice : List ConvictionInput := fundedOnce ++ [⟨.at 86401 0 [], .execute 1 1⟩]

/-- The run that funds a proposal once keeps the accounts. -/
theorem fundedOnce_accounts : FundingAccounts (trace convictionStep (.initial 1) fundedOnce)
      (final convictionStep (.initial 1) fundedOnce) :=
  conviction_funding_accounts 1 fundedOnce (by decide)

/-- Executing the funded proposal again grants it funding twice. -/
theorem funded_proposal_pays_again : ¬ ∀ (admin : Address) (inputs : List ConvictionInput),
      FundingAccounts (trace convictionStep (.initial admin) inputs)
        (final convictionStep (.initial admin) inputs) := by
  intro every
  have twice : ((trace convictionStep (.initial 1) fundedTwice).map (grants 1 1)).sum = 2 := by
    decide
  have present : ((final convictionStep (.initial 1) fundedTwice).proposal 1 1).isSome = true := by
    decide
  obtain ⟨proposal, hit⟩ := Option.isSome_iff_exists.mp present
  obtain ⟨pool, has, listed⟩ := Option.bind_eq_some_iff.mp hit
  have once := ((every 1 fundedTwice 1 pool has).2 1 proposal listed).1
  omega

end Runs

end StellarSwipe.Governance
