import StellarSwipe.Host

/-!
# Records, errors and constants of the stake vault

The records a stake vault keeps and the arithmetic on them.
-/

namespace StellarSwipe.StakeVault

open FixedWidth

/-- The errors that the modelled entry points return. -/
inductive StakeVaultError where
  | notInitialized
  | unauthorized
  | noStake
  | stakeLocked
  | reentrancyDetected
  | stakeBelowMinimum
  | contractPaused
  | timelockRequired
  | timelockNotElapsed
  | flashLoanDetected
  | invalidSlashTier
  | unstakeAlreadyQueued
  | noUnstakeQueued
  | queueEmpty
  | emergencyNotConfigured
  | emergencyRequestAlreadyExists
  | emergencyRequestNotFound
  | emergencyRequestExpired
  | emergencyRequestNotExpired
  | alreadyApproved
  | invalidEmergencyPenalty
  | invalidMultiSigConfig
  | requiresMultisig
  | invalidAppealWindow
  | appealWindowClosed
  | slashNotFound
  | appealAlreadyExists
  | appealAlreadyResolved
  | rateLimitExceeded
  | invalidAmount
  | remainingStakeBelowMinimum
  | queueFull
  | invalidSlashTierOrder
  | invalidCooldown
  | batchSizeInvalid
  | batchLengthMismatch
  | slashCooldownActive
  | emergencyCooldownActive
  | stakeOverflow
  | insufficientTokenBalance
  | insufficientTokenAllowance
  | tokenOperationFailed
  | campaignAllocationExpired
  | campaignAllocationNotClaimable

/-- The vault's code for a failed token invocation. -/
def StakeVaultError.ofTokenFailure : TokenFailure → StakeVaultError
  | .unauthorized => .unauthorized
  | .insufficientBalance => .insufficientTokenBalance
  | .insufficientAllowance => .insufficientTokenAllowance
  | .invalidRequest | .overflow | .otherContractError _ | .hostError => .tokenOperationFailed

/-- Severity tier for a slashing event. -/
inductive SlashSeverity where
  | minor
  | major
  | critical

/-- How much stake each tier slashes, in basis points. -/
structure SlashTierConfig where
  minorBps : Nat
  majorBps : Nat
  criticalBps : Nat

def SlashTierConfig.defaultConfig : SlashTierConfig := ⟨500, 3000, 10000⟩

/-- The basis points of one tier. -/
def SlashTierConfig.tierBps (config : SlashTierConfig) : SlashSeverity → Nat
  | .minor => config.minorBps
  | .major => config.majorBps
  | .critical => config.criticalBps

def bpsDenominator : Int := 10000

/-- Applies a basis-point multiplier, saturating instead of overflowing. -/
def applyMultiplierBps (balance : Int) (bps : Nat) : Int :=
  ((i128.checkedMul balance bps).bind (i128.checkedDiv · bpsDenominator)).getD i128.high

/-- What a slash of one positive balance takes: at least one unit and at most all
of it. -/
def slashShare (balance : Int) (bps : Nat) : Int :=
  min (max (applyMultiplierBps balance bps) 1) balance

structure StakeInfoV2 where
  balance : Int
  lockedUntil : Nat
  lastUpdated : Nat

/-- The entry read for an address that has none. -/
def StakeInfoV2.absent : StakeInfoV2 := ⟨0, 0, 0⟩

/-- A window during which a provider's stake cannot be withdrawn, bounds included. -/
structure ProviderLockup where
  startLedger : Nat
  endLedger : Nat
deriving DecidableEq

/-- A pending unstake request held in the queue. -/
structure UnstakeRequest where
  ticket : Nat
  user : Address
  queuedAt : Nat

inductive AppealStatus where
  | pending
  | upheld
  | reversed
deriving DecidableEq

/-- Immutable record written at slash time. -/
structure SlashRecord where
  slashId : Nat
  provider : Address
  severity : SlashSeverity
  slashAmount : Int
  slashedAt : Nat
  reason : String
  cooldownExpiresAt : Nat

/-- Mutable record of an appeal against one slash. -/
structure SlashAppeal where
  slashId : Nat
  appellant : Address
  evidenceUri : String
  submittedAt : Nat
  status : AppealStatus

structure EmergencyMultiSigConfig where
  admins : List Address
  required : Nat
  penaltyBps : Nat
  timeoutSecs : Nat

structure EmergencyRequest where
  staker : Address
  requestedAt : Nat
  approvals : List Address

inductive QueuedClaimStatus where
  | pending
  | claimed
  | cancelled
deriving DecidableEq

/-- A payout that could not be made at once, kept under its claimant and nonce. -/
structure QueuedClaim where
  claimant : Address
  token : Address
  amount : Int
  nonce : Nat
  createdAt : Nat
  expiresAt : Nat
  status : QueuedClaimStatus

/-- Default lifetime of a queued claim, thirty days. -/
def defaultClaimTtlSecs : Nat := 2592000

def defaultProviderLockupLedgers : Nat := 100

def maxProviderLockupLedgers : Nat := 1000000

def gracePeriodSecs : Nat := 86400

def largeWithdrawalTimelockSecs : Nat := 3600

def maxWithdrawalCooldownSecs : Nat := 2592000

def largeWithdrawalThreshold : Int := 500000000

def defaultMaxUnstakeQueueSize : Nat := 200

def maxBatchSize : Nat := 100

def defaultSlashCooldownLedgers : Nat := 100

/-- The largest appeal window an admin may set, thirty days. -/
def maxAppealWindowSecs : Nat := 2592000

/-- A later moment, saturating at the largest timestamp. -/
def laterBy (moment duration : Nat) : Nat := satCount u64Max moment duration

/-- A later ledger, saturating at the largest sequence number. -/
def ledgersAfter (sequence ledgers : Nat) : Nat := satCount u32Max sequence ledgers

/-- Slash tiers are at most the whole stake and do not decrease with severity. -/
def validateSlashTiers (config : SlashTierConfig) : Except StakeVaultError Unit :=
  if 10000 < config.minorBps ∨ 10000 < config.majorBps ∨ 10000 < config.criticalBps then
    .error .invalidSlashTier
  else if config.majorBps < config.minorBps ∨ config.criticalBps < config.majorBps then
    .error .invalidSlashTierOrder
  else .ok ()

def validateCooldown (cooldownSecs : Nat) : Except StakeVaultError Unit :=
  if maxWithdrawalCooldownSecs < cooldownSecs then .error .invalidCooldown else .ok ()

/-- An amount that is not negative and fits its type. -/
def Amount (value : Int) : Prop := 0 ≤ value ∧ value ≤ i128.high

section Shares

variable {balance : Int}

theorem slashShare_bounds (pos : 0 < balance) (bps : Nat) :
    0 < slashShare balance bps ∧ slashShare balance bps ≤ balance := by
  simp only [slashShare]
  omega

theorem slashShare_remaining (pos : 0 < balance) (bps : Nat) :
    0 ≤ balance - slashShare balance bps ∧ balance - slashShare balance bps < balance := by
  have bounds := slashShare_bounds pos bps
  omega

/-- What remains of a positive amount after its share is an amount again, and the
saturating subtraction that computes it is exact. -/
theorem saturatingSub_slashShare (amount : Amount balance) (pos : 0 < balance) (bps : Nat) :
    i128.saturatingSub balance (slashShare balance bps) = balance - slashShare balance bps ∧
      Amount (balance - slashShare balance bps) := by
  have remaining := slashShare_remaining pos bps
  have within := amount.2
  rw [i128_high] at within
  refine ⟨i128.clamp_of_holds ⟨?_, ?_⟩, remaining.1, ?_⟩
  all_goals simp only [i128_low, i128_high]; omega

end Shares

/-- A multiplier never takes a nonnegative balance below zero. -/
theorem applyMultiplierBps_nonneg {balance : Int} (nonneg : 0 ≤ balance) (bps : Nat) :
    0 ≤ applyMultiplierBps balance bps := by
  simp only [applyMultiplierBps]
  cases result : (i128.checkedMul balance bps).bind (i128.checkedDiv · bpsDenominator) with
  | none => simp
  | some value =>
    obtain ⟨product, multiplied, divided⟩ := Option.bind_eq_some_iff.mp result
    obtain ⟨_, rfl⟩ := (Range.checked_eq_some _ _ _).mp multiplied
    simp only [Range.checkedDiv, bpsDenominator] at divided
    obtain ⟨_, rfl⟩ := (Range.checked_eq_some _ _ _).mp (by simpa using divided)
    exact Int.tdiv_nonneg (Int.mul_nonneg nonneg (Int.natCast_nonneg _)) (by decide)

end StellarSwipe.StakeVault
