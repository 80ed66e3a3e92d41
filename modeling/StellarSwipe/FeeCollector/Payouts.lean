import StellarSwipe.FeeCollector.Storage
import StellarSwipe.Library.BubbleSort

/-!
# What the collector pays out

Providers claim their pending fees, in the token they were earned in or, where the oracle has a
rate, in one they prefer.
-/

namespace StellarSwipe.FeeCollector

open Program FixedWidth

namespace Accounts

variable (accounts : Accounts)

variable (token : Address)

def addEpochRebate (day : Nat) (amount : Int) : Accounts :=
  { accounts with
    epochRebateDistributed := accounts.epochRebateDistributed.insert (token, day)
      (i128.saturatingAdd (accounts.epochRebateDistributed.read (token, day)) amount) }

def clearPending (provider token : Address) : Accounts :=
  { accounts with pendingFees := accounts.pendingFees.insert (provider, token) 0 }

def setInsurance (balance : Int) : Accounts :=
  { accounts with insurance := accounts.insurance.insert token balance }

/-- The rebates that fees of an epoch allow, without bound when the product overflows. -/
def epochCap (fees : Int) (bps : Nat) : Int := (bpsOf fees bps).getD i128.high

def claimable (day bps : Nat) (requested : Int) : Int :=
  let fees := accounts.dailyFeeTotal.read (token, day)
  if 0 < fees then
    min (i128.saturatingSub (epochCap fees bps) (accounts.epochRebateDistributed.read (token, day)))
      requested
  else requested

end Accounts

variable (env : Env) (feed : Feed) (provider : Address)

/-- Pay fees earned in one token out in another, at the oracle's rate. Nothing is done
where the oracle has no rate or the collector lacks the balance. -/
def tryClaimInPreferredCurrency (sourceToken : Address) (sourceAmount : Int) (prefToken : Address) :
    FeeProgram (Option Int) := do
  let world ← get
  let quoted := do
    discard world.store.settings.oracleContract
    let rate ← feed.getRate sourceToken prefToken
    guard (0 < rate)
    let product ← i128.checkedMul sourceAmount rate
    let prefAmount := product.tdiv oracleRatePrecision
    guard (0 < prefAmount)
    guard (prefAmount ≤ world.tokens.balance prefToken world.self)
    pure prefAmount
  match quoted with
  | none => pure none
  | some prefAmount => do
    set (world.setAccounts (world.store.accounts.clearPending provider sourceToken))
    transfer env prefToken world.self provider prefAmount
    pure (some prefAmount)

variable (token : Address)

def convertClaim (amount : Int) : FeeProgram (Option Int) := do
  match (← get).store.settings.payoutCurrency.lookup provider with
  | some prefToken =>
    if 0 < amount ∧ prefToken ≠ token then
      tryClaimInPreferredCurrency env feed provider token amount prefToken
    else pure none
  | none => pure none

def transferPositive (sender receiver : Address) (amount : Int) : FeeProgram Unit := do
  if 0 < amount then transfer env token sender receiver amount else pure ()

/-- Pay a claim, converted where that works and else in its own token, and clear it. -/
def settleClaim (amount : Int) : FeeProgram Int := do
  match ← convertClaim env feed provider token amount with
  | some _ => pure amount
  | none => do
    transferPositive env token (← get).self provider amount
    modify fun world => world.setAccounts (world.store.accounts.clearPending provider token)
    pure amount

/-- Claim all pending fee earnings of a provider in a token. -/
def claimFees : FeeProgram Int := do
  requireInitialized
  requireNotPaused
  validateTokenMetadata token
  requireAuth env provider
  let world ← get
  let accounts := world.store.accounts
  let requested := accounts.pendingFees.read (provider, token)
  let day := dayOf env.timestamp
  if 0 < requested then do
    let amount := accounts.claimable token day world.store.settings.getMaxRebateBps requested
    if 0 < amount ∧ 0 < accounts.dailyFeeTotal.read (token, day) then
      set (world.setAccounts (accounts.addEpochRebate token day amount))
    else pure ()
    settleClaim env feed provider token amount
  else pure 0

/-- Queue a treasury withdrawal; there is one slot, which the last request fills. -/
def queueWithdrawal (recipient token : Address) (amount : Int) : FeeProgram Unit := do
  requireInitialized
  requireNotPaused
  requireAdmin env
  ensure (0 < amount) .invalidAmount
  validateTokenMetadata token
  ensure (amount ≤ (← get).store.accounts.treasury.read token) .insufficientTreasuryBalance
  discard (orFail (checkedCount u64Max env.timestamp secondsPerDay) .arithmeticOverflow)
  modify fun world => world.setQueued (some ⟨recipient, token, amount, env.timestamp⟩)

/-- Execute a queued treasury withdrawal a day after it was queued. -/
def withdrawTreasuryFees (recipient token : Address) (amount : Int) : FeeProgram Unit := do
  requireInitialized
  requireNotPaused
  requireAdmin env
  validateTokenMetadata token
  let world ← get
  let queued ← orFail (world.store.queuedWithdrawal.filter fun queued =>
    queued.recipient = recipient ∧ queued.token = token ∧ queued.amount = amount)
      .withdrawalNotQueued
  let availableAt ← orFail (checkedCount u64Max queued.queuedAt secondsPerDay) .arithmeticOverflow
  ensure (availableAt ≤ env.timestamp) .timelockNotElapsed
  let balance := world.store.accounts.treasury.read token
  ensure (amount ≤ balance) .insufficientTreasuryBalance
  let newBalance ← orFail (i128.checkedSub balance amount) .arithmeticOverflow
  transfer env token world.self recipient amount
  modify fun world =>
    (world.setAccounts { world.store.accounts with
      treasury := world.store.accounts.treasury.insert token newBalance }).setQueued none

def depositInsuranceFund (sender token : Address) (amount : Int) : FeeProgram Unit := do
  requireInitialized
  requireNotPaused
  requireAuth env sender
  ensure (0 < amount) .invalidAmount
  transfer env token sender (← get).self amount
  let accounts := (← get).store.accounts
  let balance ← orFail (i128.checkedAdd (accounts.insurance.read token) amount) .arithmeticOverflow
  modify fun world => world.setAccounts (world.store.accounts.setInsurance token balance)

/-- Pay an insurance claim once, within the cap of its token. -/
def payoutInsurance (caller recipient token : Address) (amount : Int) (claimId : String) :
    FeeProgram Unit := do
  requireInitialized
  requireNotPaused
  requireAdminOrListed env caller
  ensure (0 < amount) .invalidAmount
  let world ← get
  ensure ((world.store.processedClaims.lookup claimId).getD false = false) .claimAlreadyProcessed
  let cap := world.store.settings.insurancePayoutCap.read token
  ensure (¬ (0 < cap ∧ cap < amount)) .payoutExceedsCap
  let balance := world.store.accounts.insurance.read token
  ensure (amount ≤ balance) .insufficientInsuranceBalance
  let newBalance ← orFail (i128.checkedSub balance amount) .arithmeticOverflow
  set { world with
    store := { world.store with
      accounts := world.store.accounts.setInsurance token newBalance
      processedClaims := world.store.processedClaims.insert claimId true } }
  transfer env token world.self recipient amount

/-- What a tier of the waterfall was given. -/
structure WaterfallTierResult where
  name : String
  recipient : Address
  priority : Nat
  allocated : Int

/-- What a tier is allocated of the remaining funds: its target, or the rest when that
meets its minimum, or nothing. -/
def WaterfallTier.allocation (tier : WaterfallTier) (remaining : Int) : Option Int :=
  if tier.targetAmount ≤ remaining then some tier.targetAmount
  else if tier.minimumAmount ≤ remaining then some remaining
  else none

def fundTiers (env : Env) (token : Address) : List WaterfallTier → Int → Int →
    FeeProgram (List WaterfallTierResult × Int)
  | [], _, distributed => pure ([], distributed)
  | tier :: rest, remaining, distributed =>
    match tier.allocation remaining with
    | none => do
      let (results, total) ← fundTiers env token rest remaining distributed
      pure (⟨tier.name, tier.recipient, tier.priority, 0⟩ :: results, total)
    | some allocated => do
      transfer env token (← get).self tier.recipient allocated
      let left ← orFail (i128.checkedSub remaining allocated) .arithmeticOverflow
      let given ← orFail (i128.checkedAdd distributed allocated) .arithmeticOverflow
      let (results, total) ← fundTiers env token rest left given
      pure (⟨tier.name, tier.recipient, tier.priority, allocated⟩ :: results, total)

/-- The tiers in the order of their priority numbers, by passes over a list of their indices. -/
def waterfallOrder (tiers : List WaterfallTier) : List WaterfallTier :=
  (BubbleSort.settle (fun index => (tiers.get index).priority)
    (List.finRange tiers.length)).map tiers.get

/-- Distribute treasury funds to the configured tiers, lowest priority number first. -/
def distributeWaterfall (totalAmount : Int) : FeeProgram (List WaterfallTierResult) := do
  requireInitialized
  requireNotPaused
  requireAdmin env
  ensure (0 < totalAmount) .invalidAmount
  let world ← get
  let tiers ← orFail world.store.settings.waterfallConfig .waterfallNotConfigured
  let balance := world.store.accounts.treasury.read token
  ensure (totalAmount ≤ balance) .insufficientTreasuryBalance
  let (results, distributed) ← fundTiers env token (waterfallOrder tiers) totalAmount 0
  let newBalance ← orFail (i128.checkedSub balance distributed) .arithmeticOverflow
  modify fun world => world.setAccounts { world.store.accounts with
    treasury := world.store.accounts.treasury.insert token newBalance }
  pure results

/-- Admin: record the revenue share pool of a token as distributed and clear it. -/
def triggerRevenueShareSnapshot (caller token : Address) : FeeProgram Unit := do
  requireInitialized
  requireAdmin env
  requireAuth env caller
  let world ← get
  if 0 < world.store.accounts.revenueSharePool.read token then
    set (world.setAccounts { world.store.accounts with
      revenueSharePool := world.store.accounts.revenueSharePool.erase token })
  else pure ()

end StellarSwipe.FeeCollector
