import StellarSwipe.Governance.Deposits

/-!
# Storage of the whole governance contract and its first distribution

Around the storage of governance stand the entries that decide who may call and those of the first
distribution: the admin who was proposed, the capabilities granted, vesting schedules and the
liquidity rewards.
-/

namespace StellarSwipe.Authority

open FixedWidth Program Governance

inductive Capability where
  | pause
  | upgrade
  | treasury
  | parameterChange
  | emergency
  | superAdmin
deriving DecidableEq

/-- What the entry points return in place of a value. -/
inductive AuthorityError where
  | governance (error : GovernanceError)
  | alreadyInitialized
  | invalidRewardConfig
  | duplicateRecipient
  | duplicateSchedule
  | vestingScheduleNotFound
  | cliffNotReached
  | nothingToRelease
  | liquidityPoolExhausted
  | belowMinimumClaim

inductive VestingCategory where
  | team
  | earlyInvestors
  | custom

structure DistributionRecipients where
  team : Address
  earlyInvestors : Address
  communityRewards : Address
  treasury : Address
  publicSale : Address

structure DistributionAllocation where
  team : Int
  earlyInvestors : Int
  communityRewards : Int
  liquidityMining : Int
  treasury : Int
  publicSale : Int

structure DistributionState where
  allocation : DistributionAllocation
  liquidityReserved : Int
  liquidityClaimed : Int
  liquidityRewardBps : Nat
  minClaimThreshold : Int

/-- A schedule, kept under its beneficiary. -/
structure VestingSchedule where
  category : VestingCategory
  totalAmount : Int
  releasedAmount : Int
  startTime : Nat
  cliffSeconds : Nat
  durationSeconds : Nat

structure AuthorityStore where
  governance : GovStore
  pendingAdmin : Option Address
  grants : List (Capability × Address)
  distribution : Option DistributionState
  vesting : Table Address VestingSchedule
  pendingRewards : Table Address Int

instance : Administered AuthorityStore where
  initialized store := store.governance.access.initialized
  admin store := store.governance.access.admin

abbrev AuthorityProgram := Program AuthorityStore AuthorityError

namespace AuthorityStore

/-- The contract before anything is called. -/
def blank : AuthorityStore where
  governance :=
    { access := ⟨false, none, false, none, false, []⟩
      tokens := ⟨∅, ∅, ∅, [], none⟩
      delegation := .empty
      proposals := .empty
      deposits := ⟨none, ∅, none⟩
      registry := ⟨∅, ∅, ∅⟩
      timelock := none
      adminActions := []
      quadratic := .empty
      treasury := .empty
      window := ⟨none, none⟩ }
  pendingAdmin := none
  grants := []
  distribution := none
  vesting := ∅
  pendingRewards := ∅

variable (store : AuthorityStore)

def putGovernance (governance : GovStore) : AuthorityStore :=
  { store with governance }

def putAccess (access : AccessState) : AuthorityStore :=
  { store with governance := { store.governance with access } }

def putTokens (tokens : TokenLedger) : AuthorityStore :=
  { store with governance := { store.governance with tokens } }

/-- A capability that was granted itself, or with all others. -/
def hasCapability (address : Address) (capability : Capability) : Bool :=
  decide ((.superAdmin, address) ∈ store.grants ∨ (capability, address) ∈ store.grants)

/-- Who may change parameters besides the admin. -/
def parameterChangers : List Address :=
  (store.grants.filter fun grant =>
    decide (grant.1 = .superAdmin ∨ grant.1 = .parameterChange)).map Prod.snd

/-- The grants as given, and who may change parameters by them. -/
def putGrants (grants : List (Capability × Address)) : AuthorityStore :=
  let granted := { store with grants }
  granted.putAccess
    { store.governance.access with parameterChangers := granted.parameterChangers }

end AuthorityStore

def onGovernance {α : Type} (program : GovProgram α) : AuthorityProgram α :=
  zoom AuthorityStore.governance (fun governance store => store.putGovernance governance)
    .governance program

/-- The host's check that an address authorized this call. -/
def requireAuth (env : Env) (address : Address) : AuthorityProgram Unit :=
  demand (address ∈ env.auths)

def refuse (condition : Prop) [Decidable condition] (error : GovernanceError) :
    AuthorityProgram Unit :=
  ensure condition (.governance error)

/-!
## The first distribution, vesting and liquidity rewards

Initialization divides the supply: three shares are credited at once, two vest, and one is reserved
for liquidity rewards.
-/

def bpsDenominator : Int := 10000

def yearSeconds : Nat := 365 * 24 * 60 * 60

def teamCliffDuration : Nat := yearSeconds

def teamVestingDuration : Nat := 4 * yearSeconds

def earlyInvestorVestingDuration : Nat := 2 * yearSeconds

def defaultLiquidityRewardBps : Nat := 100

def defaultMinClaimThreshold : Int := 100

/-- Checked arithmetic whose overflow is an error of governance. -/
def computed {α : Type} (value : Except GovernanceError α) : AuthorityProgram α :=
  onGovernance (ofExcept value)

def trackHolder (holder : Address) : AuthorityProgram Unit :=
  modify fun store => store.putTokens (store.governance.tokens.track holder)

/-- Credit a balance and list its holder. -/
def addBalance (holder : Address) (amount : Int) : AuthorityProgram Unit := do
  let tokens ← computed ((← get).governance.tokens.addBalance holder amount)
  modify fun store => store.putTokens tokens

/-- A share of the supply in hundredths of a percent. -/
def shareOfSupply (totalSupply bps : Int) : Except GovernanceError Int := do
  checkedDiv (← checkedMul totalSupply bps) bpsDenominator

def allocationTotal (allocation : DistributionAllocation) : Except GovernanceError Int := do
  let vested ← checkedAdd allocation.team allocation.earlyInvestors
  let rewards ← checkedAdd allocation.communityRewards allocation.liquidityMining
  let sold ← checkedAdd allocation.treasury allocation.publicSale
  checkedAdd vested (← checkedAdd rewards sold)

/-- Divide the supply, which must leave nothing over. -/
def createAllocation (totalSupply : Int) : Except GovernanceError DistributionAllocation := do
  let team ← shareOfSupply totalSupply 2000
  let earlyInvestors ← shareOfSupply totalSupply 1500
  let communityRewards ← shareOfSupply totalSupply 3000
  let liquidityMining ← shareOfSupply totalSupply 2000
  let treasury ← shareOfSupply totalSupply 1000
  let publicSale ← shareOfSupply totalSupply 500
  let allocation :=
    ⟨team, earlyInvestors, communityRewards, liquidityMining, treasury, publicSale⟩
  if (← allocationTotal allocation) = totalSupply then pure allocation else .error .invalidSupply

variable (beneficiary : Address)

/-- A new schedule for a beneficiary without one. -/
def createVestingSchedule (category : VestingCategory) (totalAmount : Int)
    (startTime cliffSeconds durationSeconds : Nat) : AuthorityProgram Unit := do
  refuse (¬ totalAmount ≤ 0) .invalidAmount
  refuse (¬ (durationSeconds = 0 ∨ durationSeconds < cliffSeconds)) .invalidDuration
  let schedules := (← get).vesting
  ensure (schedules.lookup beneficiary = none) .duplicateSchedule
  modify fun store => { store with
    vesting := schedules.insert beneficiary
      ⟨category, totalAmount, 0, startTime, cliffSeconds, durationSeconds⟩ }

def DistributionRecipients.all (recipients : DistributionRecipients) : List Address :=
  [recipients.team, recipients.earlyInvestors, recipients.communityRewards, recipients.treasury,
    recipients.publicSale]

def initializeDistribution (env : Env) (recipients : DistributionRecipients) (totalSupply : Int)
    (rewardBps : Nat) (minClaimThreshold : Int) : AuthorityProgram Unit := do
  ensure (¬ (rewardBps = 0 ∨ minClaimThreshold ≤ 0)) .invalidRewardConfig
  ensure recipients.all.Nodup .duplicateRecipient
  let allocation ← computed (createAllocation totalSupply)
  addBalance recipients.communityRewards allocation.communityRewards
  addBalance recipients.treasury allocation.treasury
  addBalance recipients.publicSale allocation.publicSale
  createVestingSchedule recipients.team .team allocation.team env.timestamp teamCliffDuration
    teamVestingDuration
  createVestingSchedule recipients.earlyInvestors .earlyInvestors allocation.earlyInvestors
    env.timestamp 0 earlyInvestorVestingDuration
  modify fun store => { store with
    distribution := some ⟨allocation, 0, 0, rewardBps, minClaimThreshold⟩ }

def VestingSchedule.cliffTime (schedule : VestingSchedule) : Nat :=
  satCount u64Max schedule.startTime schedule.cliffSeconds

def VestingSchedule.releasable (schedule : VestingSchedule) (now : Nat) :
    Except GovernanceError Int := do
  let vested ←
    if satCount u64Max schedule.startTime schedule.durationSeconds ≤ now ∨
        schedule.durationSeconds = schedule.cliffSeconds then
      pure schedule.totalAmount
    else do
      let elapsed ← checkedMul schedule.totalAmount ((now - schedule.cliffTime : Nat) : Int)
      checkedDiv elapsed ((schedule.durationSeconds - schedule.cliffSeconds : Nat) : Int)
  checkedSub vested schedule.releasedAmount

def releaseVestedTokens (env : Env) (beneficiary : Address) : AuthorityProgram Unit := do
  let schedule ← orFail ((← get).vesting.lookup beneficiary) .vestingScheduleNotFound
  ensure (¬ env.timestamp < schedule.cliffTime) .cliffNotReached
  let releasable ← computed (schedule.releasable env.timestamp)
  ensure (¬ releasable ≤ 0) .nothingToRelease
  let released ← computed (checkedAdd schedule.releasedAmount releasable)
  modify fun store => { store with
    vesting := store.vesting.insert beneficiary { schedule with releasedAmount := released } }
  addBalance beneficiary releasable

def getDistribution : AuthorityProgram DistributionState := do
  orFail (← get).distribution (.governance .notInitialized)

def accrueLiquidityRewards (tradingVolume : Int) : AuthorityProgram Unit := do
  refuse (¬ tradingVolume ≤ 0) .invalidAmount
  let state ← getDistribution
  let reward ← computed (shareOfSupply tradingVolume state.liquidityRewardBps)
  refuse (¬ reward ≤ 0) .invalidAmount
  let used ← computed (checkedAdd state.liquidityClaimed state.liquidityReserved)
  let nextUsed ← computed (checkedAdd used reward)
  ensure (¬ state.allocation.liquidityMining < nextUsed) .liquidityPoolExhausted
  let reserved ← computed (checkedAdd state.liquidityReserved reward)
  let pending ← computed (checkedAdd ((← get).pendingRewards.read beneficiary) reward)
  modify fun store => { store with
    distribution := some { state with liquidityReserved := reserved }
    pendingRewards := store.pendingRewards.insert beneficiary pending }
  trackHolder beneficiary

def claimLiquidityRewards : AuthorityProgram Unit := do
  let pending := (← get).pendingRewards.read beneficiary
  let state ← getDistribution
  ensure (¬ pending ≤ 0) .nothingToRelease
  ensure (¬ pending < state.minClaimThreshold) .belowMinimumClaim
  let reserved ← computed (checkedSub state.liquidityReserved pending)
  let claimed ← computed (checkedAdd state.liquidityClaimed pending)
  modify fun store => { store with
    distribution := some { state with
      liquidityReserved := reserved
      liquidityClaimed := claimed }
    pendingRewards := store.pendingRewards.insert beneficiary 0 }
  addBalance beneficiary pending

def setLiquidityMiningConfig (rewardBps : Nat) (minClaimThreshold : Int) :
    AuthorityProgram Unit := do
  ensure (¬ (rewardBps = 0 ∨ minClaimThreshold ≤ 0)) .invalidRewardConfig
  let state ← getDistribution
  modify fun store => { store with
    distribution := some { state with
      liquidityRewardBps := rewardBps
      minClaimThreshold } }

/-! ## The release of a schedule

What has vested is nothing before the cliff and all of the schedule at its end, and in between
grows with the time since the cliff, as far as the product of both fits.
-/

namespace VestingSchedule

variable (schedule : VestingSchedule) {now later : Nat} {vested more : Int}

/-- When all of a schedule has vested. -/
def endTime : Nat := satCount u64Max schedule.startTime schedule.durationSeconds

def vestedAmount (now : Nat) : Except GovernanceError Int :=
  if now < schedule.cliffTime then .ok 0
  else if schedule.endTime ≤ now ∨ schedule.durationSeconds = schedule.cliffSeconds then
    .ok schedule.totalAmount
  else
    checkedMul schedule.totalAmount ((now - schedule.cliffTime : Nat) : Int) >>= fun elapsed =>
      checkedDiv elapsed ((schedule.durationSeconds - schedule.cliffSeconds : Nat) : Int)

def window : Nat := max 1 (schedule.durationSeconds - schedule.cliffSeconds)

/-- How much of the window has passed. -/
def elapsed (now : Nat) : Nat :=
  if now < schedule.cliffTime then 0
  else if schedule.endTime ≤ now ∨ schedule.durationSeconds = schedule.cliffSeconds then
    schedule.window
  else now - schedule.cliffTime

variable {schedule}

theorem elapsed_mono (ordered : now ≤ later) :
    schedule.elapsed now ≤ schedule.elapsed later ∧ schedule.elapsed later ≤ schedule.window := by
  simp only [elapsed, window, endTime, cliffTime, satCount]
  constructor <;> grind

theorem vestedAmount_eq (nonneg : 0 ≤ schedule.totalAmount)
    (ordered : schedule.cliffSeconds ≤ schedule.durationSeconds)
    (counted : schedule.vestedAmount now = .ok vested) :
    vested = schedule.totalAmount * schedule.elapsed now / schedule.window := by
  have pos : (schedule.window : Int) ≠ 0 := by
    simp only [window]
    omega
  rw [vestedAmount] at counted
  rw [elapsed]
  split at counted
  · cases counted
    rw [if_pos ‹_›, Nat.cast_zero, mul_zero, Int.zero_ediv]
  · rw [if_neg ‹_›]
    split at counted
    · cases counted
      rw [if_pos ‹_›, Int.mul_ediv_cancel _ pos]
    · rw [if_neg ‹_›]
      obtain ⟨elapsed, multiplied, divided⟩ := bind_ok counted
      rw [(checkedMul_ok multiplied).2, checkedDiv, Range.checkedDiv] at divided
      have whole : schedule.window = schedule.durationSeconds - schedule.cliffSeconds := by
        simp only [window]
        omega
      rw [← whole, if_neg pos] at divided
      rw [(checkedOr_ok divided).2, tdiv_eq_floor (mul_nonneg nonneg (Int.natCast_nonneg _))]

/-- What has vested is not negative, never falls and stays within the total. -/
theorem vestedAmount_mono (nonneg : 0 ≤ schedule.totalAmount)
    (ordered : schedule.cliffSeconds ≤ schedule.durationSeconds) (passed : now ≤ later)
    (counted : schedule.vestedAmount now = .ok vested)
    (recounted : schedule.vestedAmount later = .ok more) :
    vested ≤ more ∧ more ≤ schedule.totalAmount := by
  obtain ⟨grown, within⟩ := elapsed_mono passed
  have pos : (0 : Int) < schedule.window := by
    simp only [window]
    omega
  rw [vestedAmount_eq nonneg ordered counted, vestedAmount_eq nonneg ordered recounted]
  exact ⟨Int.ediv_le_ediv pos (mul_le_mul_of_nonneg_left (by exact_mod_cast grown) nonneg),
    Int.ediv_le_of_le_mul pos (mul_le_mul_of_nonneg_left (by exact_mod_cast within) nonneg)⟩

theorem releasable_eq (passed : ¬ now < schedule.cliffTime) : schedule.releasable now =
    schedule.vestedAmount now >>= (checkedSub · schedule.releasedAmount) := by
  rw [releasable, vestedAmount, if_neg passed, endTime]
  split
  · rfl
  · exact (bind_assoc _ _ _).symm

end VestingSchedule

def AuthorityStore.balance (store : AuthorityStore) (holder : Address) : Int :=
  store.governance.tokens.balances.read holder

variable {store : AuthorityStore} {beneficiary} {schedule : VestingSchedule}

theorem release_spec (env : Env) (has : store.vesting.lookup beneficiary = some schedule) :
    wlp (releaseVestedTokens env beneficiary) (fun _ after => ∃ vested,
      schedule.vestedAmount env.timestamp = .ok vested ∧
      after.vesting.lookup beneficiary = some { schedule with releasedAmount := vested } ∧
      after.balance beneficiary = store.balance beneficiary + (vested - schedule.releasedAmount))
      store := by
  simp only [releaseVestedTokens, addBalance, computed, onGovernance, wlp_rules, wp_zoom, has]
  rintro _ ⟨rfl⟩ passed
  refine ⟨fun amount releasable _ => ⟨fun released added => ⟨fun tokens credited => ?_,
    fun _ _ => trivial⟩, fun _ _ => trivial⟩, fun _ _ => trivial⟩
  rw [VestingSchedule.releasable_eq passed] at releasable
  obtain ⟨vested, counted, subtracted⟩ := bind_ok releasable
  rw [(checkedSub_ok subtracted).2] at credited added
  have whole : released = vested := by
    rw [(checkedAdd_ok added).2, add_sub_cancel]
  refine ⟨vested, counted, whole ▸ AList.lookup_insert _, ?_⟩
  rw [TokenLedger.addBalance] at credited
  split at credited
  · cases credited
  · obtain ⟨raised, sum, written⟩ := bind_ok credited
    cases written
    exact (Table.read_insert _ _ _ _).trans ((if_pos rfl).trans (checkedAdd_ok sum).2)

/-- The storage after a call of a release. -/
def afterRelease (beneficiary : Address) (store : AuthorityStore) (env : Env) :
    AuthorityStore := invoke (releaseVestedTokens env beneficiary) store

/-- What releases pay, one after the other. -/
def releasesPaid (beneficiary : Address) : List Env → AuthorityStore → Int
  | [], _ => 0
  | env :: rest, store =>
    let after := afterRelease beneficiary store env
    after.balance beneficiary - store.balance beneficiary + releasesPaid beneficiary rest after

/-- Releases pay what has vested at the last one that returns, less what was released before. The
induction is on the calls. -/
theorem releases_paid (envs : List Env) (last : Env)
    (has : store.vesting.lookup beneficiary = some schedule)
    (gave : Accepts (releaseVestedTokens last beneficiary)
      (envs.foldl (afterRelease beneficiary) store)) :
    ∃ vested, schedule.vestedAmount last.timestamp = .ok vested ∧
      releasesPaid beneficiary (envs ++ [last]) store = vested - schedule.releasedAmount := by
  induction envs generalizing store schedule with
  | nil =>
    obtain ⟨_, ran⟩ := gave_of_accepts gave
    obtain ⟨vested, counted, _, paid⟩ := wp_ok (release_spec last has) ran
    refine ⟨vested, counted, ?_⟩
    rw [List.foldl_nil] at paid
    rw [List.nil_append, releasesPaid, releasesPaid, afterRelease]
    omega
  | cons env rest ih =>
    rw [List.cons_append, releasesPaid, afterRelease]
    by_cases accepts : Accepts (releaseVestedTokens env beneficiary) store
    · obtain ⟨_, ran⟩ := gave_of_accepts accepts
      obtain ⟨early, _, next, paid⟩ := wp_ok (release_spec env has) ran
      obtain ⟨vested, counted, later⟩ := ih next gave
      refine ⟨vested, counted, ?_⟩
      simp only at later ⊢
      omega
    · rw [List.foldl_cons, afterRelease, invoke_of_rejected accepts] at gave
      obtain ⟨vested, counted, later⟩ := ih has gave
      refine ⟨vested, counted, ?_⟩
      simp only [invoke_of_rejected accepts]
      omega

/-- Where it can be computed, what has vested is nothing before the cliff, never falls, stays
within the total and reaches it at the end, cliff and end being moved to the largest time when they
are past it; and the releases of a fresh schedule pay what has vested at the last one. -/
theorem vesting_releases {schedule : VestingSchedule} (nonneg : 0 ≤ schedule.totalAmount)
    (ordered : schedule.cliffSeconds ≤ schedule.durationSeconds) :
    (∀ now, now < min (schedule.startTime + schedule.cliffSeconds) u64Max →
      schedule.vestedAmount now = .ok 0) ∧
    (∀ now later vested more, now ≤ later → schedule.vestedAmount now = .ok vested →
      schedule.vestedAmount later = .ok more → vested ≤ more ∧ more ≤ schedule.totalAmount) ∧
    (∀ now, min (schedule.startTime + schedule.durationSeconds) u64Max ≤ now →
      schedule.vestedAmount now = .ok schedule.totalAmount) ∧
    ∀ store beneficiary, store.vesting.lookup beneficiary = some schedule →
      schedule.releasedAmount = 0 → ∀ envs last, Accepts (releaseVestedTokens last beneficiary)
        (envs.foldl (afterRelease beneficiary) store) → schedule.vestedAmount last.timestamp =
          .ok (releasesPaid beneficiary (envs ++ [last]) store) := by
  refine ⟨fun now early => if_pos early, fun now later vested more =>
    VestingSchedule.vestedAmount_mono nonneg ordered, fun now finished => ?_, ?_⟩
  · have passed : ¬ now < schedule.cliffTime := by
      simp only [VestingSchedule.cliffTime, satCount]
      omega
    rw [VestingSchedule.vestedAmount, if_neg passed, if_pos (.inl finished)]
  · intro store beneficiary has fresh envs last gave
    obtain ⟨vested, counted, paid⟩ := releases_paid envs last has gave
    rw [counted, paid, fresh, Int.sub_zero]

/-- Forty units vest over a hundred seconds after a cliff of twenty. -/
def fortyUnits : VestingSchedule := ⟨.custom, 40, 0, 30, 20, 120⟩

/-- Releases at half the window, at the same time again and at the end pay all of it. -/
theorem forty_units_release : fortyUnits.vestedAmount 150 =
    .ok (releasesPaid 8 [.at 100 0 [], .at 100 0 [], .at 150 0 []]
      { AuthorityStore.blank with vesting := AList.insert 8 fortyUnits ∅ }) :=
  (@vesting_releases fortyUnits (by decide) (by decide)).2.2.2 _ 8 (AList.lookup_insert _) rfl
    [.at 100 0 [], .at 100 0 []] (.at 150 0 []) (by decide)

/-- A cliff past the largest time is moved there, where everything vests, and within the window of
the largest schedule the product overflows. -/
theorem late_cliff_vests :
    (∃ (schedule : VestingSchedule) (now : Nat), schedule.cliffSeconds ≤ schedule.durationSeconds ∧
      now ≤ u64Max ∧ now < schedule.startTime + schedule.cliffSeconds ∧
      schedule.vestedAmount now = .ok 40) ∧
    ∃ (schedule : VestingSchedule) (now : Nat), schedule.cliffSeconds ≤ schedule.durationSeconds ∧
      schedule.vestedAmount now = .error .arithmeticOverflow :=
  ⟨⟨⟨.custom, 40, 0, u64Max - 10, 100, 100⟩, u64Max, by decide, le_refl _, by decide, by decide⟩,
    ⟨.custom, i128.high, 0, 0, 0, 10⟩, 2, by decide, by decide⟩

end StellarSwipe.Authority
