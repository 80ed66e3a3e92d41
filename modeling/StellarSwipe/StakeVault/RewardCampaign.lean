import StellarSwipe.StakeVault.WeightedSplit
import StellarSwipe.Library.KeyedSum

/-!
# Reward campaigns

A campaign holds a fixed budget of one reward asset.
-/

namespace StellarSwipe.StakeVault

open Program FixedWidth

inductive CampaignStatus where
  | open
  | closed
  | pending
  | canceled
deriving DecidableEq

inductive AllocationStatus where
  | pending
  | claimed
  | expired
deriving DecidableEq

/-- A campaign's promise, its three running totals and its counters. -/
structure RewardCampaign where
  funder : Address
  asset : Address
  budget : Int
  allocated : Int
  claimed : Int
  expired : Int
  pendingAllocations : Nat
  nextAllocationId : Nat
  claimWindowSecs : Nat
  status : CampaignStatus
  createdAt : Nat
  closedAt : Nat
  funded : Int
  epochId : Nat
  perAccountClaimCap : Int

namespace RewardCampaign

/-- Amount allocated to recipients and not yet claimed or expired. -/
def outstanding (campaign : RewardCampaign) : Option Int :=
  (i128.checkedSub campaign.allocated campaign.claimed).bind (i128.checkedSub · campaign.expired)

/-- Amount that is neither owed to anyone nor already paid out. -/
def available (campaign : RewardCampaign) : Option Int :=
  (i128.checkedSub campaign.budget campaign.allocated).bind (i128.checkedAdd · campaign.expired)

end RewardCampaign

structure CampaignAllocation where
  recipient : Address
  amount : Int
  allocatedAt : Nat
  expiresAt : Nat
  status : AllocationStatus
  epochId : Nat

/-- A grant released linearly between its cliff and the end of its duration. -/
structure VestingAllocation where
  recipient : Address
  totalAmount : Int
  start : Nat
  cliffSecs : Nat
  durationSecs : Nat
  claimed : Int
deriving DecidableEq

/-- The module's storage entries, by campaign id where the key has one. -/
structure Campaigns where
  campaign : Table Nat RewardCampaign
  allocation : Table (Nat × Nat) CampaignAllocation
  vestingCounter : Table Nat Nat
  vesting : Table (Nat × Nat) VestingAllocation
  claimedByAccount : Table (Nat × Address) Int

abbrev CampaignProgram := Program Campaigns CampaignError

namespace Campaigns

variable (campaigns : Campaigns)

variable (id : Nat)

def withCampaign (campaign : RewardCampaign) : Campaigns :=
  { campaigns with campaign := campaigns.campaign.insert id campaign }

def withAllocation (allocationId : Nat) (allocation : CampaignAllocation) : Campaigns :=
  { campaigns with allocation := campaigns.allocation.insert (id, allocationId) allocation }

def withVestingCounter (counter : Nat) : Campaigns :=
  { campaigns with vestingCounter := campaigns.vestingCounter.insert id counter }

def withVesting (vestingId : Nat) (vesting : VestingAllocation) : Campaigns :=
  { campaigns with vesting := campaigns.vesting.insert (id, vestingId) vesting }

def withClaimedByAccount (account : Address) (claimed : Int) : Campaigns :=
  { campaigns with claimedByAccount := campaigns.claimedByAccount.insert (id, account) claimed }

end Campaigns

variable (now : Nat) (id : Nat)

def load : CampaignProgram RewardCampaign := do
  orFail ((← get).campaign.lookup id) .campaignNotFound

def loadOpen : CampaignProgram RewardCampaign := do
  let campaign ← load id
  ensure (campaign.status = .open) .campaignClosed
  pure campaign

def save (campaign : RewardCampaign) : CampaignProgram Unit :=
  modify fun campaigns => campaigns.withCampaign id campaign

def checkBatch (length : Nat) : CampaignProgram Unit :=
  ensure (length ≠ 0 ∧ length ≤ maxCampaignBatch) .batchSizeInvalid

/-- Write one allocation for each nonzero share, counting them in the campaign that
is saved once all are written. -/
def allocateShares (now id : Nat) : List (Address × Int) → RewardCampaign →
    CampaignProgram (RewardCampaign × List (Address × Nat × Int))
  | [], campaign => pure (campaign, [])
  | (recipient, amount) :: rest, campaign =>
    if amount = 0 then allocateShares now id rest campaign
    else do
      let allocationId := campaign.nextAllocationId
      modify fun campaigns => campaigns.withAllocation id allocationId
        { recipient
          amount
          allocatedAt := now
          expiresAt := satCount u64Max now campaign.claimWindowSecs
          status := .pending
          epochId := campaign.epochId }
      let (after, created) ← allocateShares now id rest { campaign with
        nextAllocationId := satCount u64Max allocationId 1
        pendingAllocations := satCount u32Max campaign.pendingAllocations 1 }
      pure (after, (recipient, allocationId, amount) :: created)

/-- Allocate a total of the campaign's available funds across weighted recipients. A
recipient whose share rounds to zero gets no allocation. -/
def distribute (now id : Nat) (total : Int) (recipients : List (Address × Nat)) :
    CampaignProgram (List (Address × Nat × Int)) := do
  let campaign ← loadOpen id
  ensure (0 < total) .invalidAmount
  let available ← orTrap campaign.available
  ensure (total ≤ available) .insufficientCampaignFunds
  let shares ← ofExcept (splitByWeight total recipients)
  let (counted, created) ← allocateShares now id shares campaign
  let allocated ← ofExcept (add counted.allocated total)
  save id { counted with allocated }
  pure created

/-- Read the allocations of a batch, refusing a repeated or unknown id and whatever
the check refuses, and add up their amounts. -/
def gather (check : CampaignAllocation → Except CampaignError Unit) (campaigns : Campaigns)
    (id : Nat) : List Nat → List (Nat × CampaignAllocation) → Int →
    Except CampaignError (List (Nat × CampaignAllocation) × Int)
  | [], gathered, total => .ok (gathered, total)
  | allocationId :: rest, gathered, total =>
    if allocationId ∈ gathered.map Prod.fst then .error .allocationNotClaimable
    else match campaigns.allocation.lookup (id, allocationId) with
      | none => .error .allocationNotClaimable
      | some allocation => do
        check allocation
        let next ← add total allocation.amount
        gather check campaigns id rest (gathered ++ [(allocationId, allocation)]) next

/-- Write each gathered allocation back with its final status. -/
def settle (status : AllocationStatus) (id : Nat) :
    List (Nat × CampaignAllocation) → Campaigns → Campaigns
  | [], campaigns => campaigns
  | (allocationId, allocation) :: rest, campaigns =>
    settle status id rest
      (campaigns.withAllocation id allocationId { allocation with status })

def checkClaimable (epochId : Nat) (recipient : Address) (allocation : CampaignAllocation) :
    Except CampaignError Unit :=
  if allocation.recipient ≠ recipient ∨ allocation.status ≠ .pending then
    .error .allocationNotClaimable
  else if allocation.expiresAt ≤ now then .error .allocationExpired
  else if allocation.epochId ≠ epochId then .error .allocationNotClaimable
  else .ok ()

def checkExpired (allocation : CampaignAllocation) : Except CampaignError Unit :=
  if allocation.status ≠ .pending then .error .allocationNotClaimable
  else if now < allocation.expiresAt then .error .allocationNotExpired
  else .ok ()

/-- How `claimed_by_account` reads what an account has claimed so far. Its body is not
in the source, so it is a parameter and nothing is assumed of it. -/
abbrev ClaimedReader := Campaigns → Nat → Address → Int

/-- Claim allocations for their recipient, all or none. Returns the total that the
caller must transfer out. -/
def claim (claimedByAccount : ClaimedReader) (now id : Nat) (recipient : Address)
    (allocationIds : List Nat) : CampaignProgram Int := do
  let campaign ← loadOpen id
  checkBatch allocationIds.length
  let (allocations, total) ← ofExcept (gather (checkClaimable now campaign.epochId recipient)
    (← get) id allocationIds [] 0)
  let newTotalClaimed ← ofExcept (add (claimedByAccount (← get) id recipient) total)
  ensure (¬ (0 < campaign.perAccountClaimCap ∧ campaign.perAccountClaimCap < newTotalClaimed))
    .claimLimitExceeded
  modify (settle .claimed id allocations)
  modify fun campaigns => campaigns.withClaimedByAccount id recipient newTotalClaimed
  let claimed ← ofExcept (add campaign.claimed total)
  demand (allocations.length ≤ campaign.pendingAllocations)
  save id { campaign with
    claimed
    pendingAllocations := campaign.pendingAllocations - allocations.length }
  pure total

/-- Expire allocations past their deadline, all or none. Their amounts return to the
available pool. -/
def expireAllocations (allocationIds : List Nat) : CampaignProgram Int := do
  let campaign ← loadOpen id
  checkBatch allocationIds.length
  let (allocations, total) ← ofExcept (gather (checkExpired now) (← get) id allocationIds [] 0)
  modify (settle .expired id allocations)
  let expired ← ofExcept (add campaign.expired total)
  demand (allocations.length ≤ campaign.pendingAllocations)
  save id { campaign with
    expired
    pendingAllocations := campaign.pendingAllocations - allocations.length }
  pure total

/-- Close a settled campaign. Returns what the caller must refund to the funder. -/
def closeCampaign : CampaignProgram Int := do
  let campaign ← loadOpen id
  let outstanding ← orTrap campaign.outstanding
  ensure (outstanding = 0 ∧ campaign.pendingAllocations = 0) .outstandingLiabilities
  let refund ← orTrap campaign.available
  save id { campaign with status := .closed, closedAt := now }
  pure refund

/-- A signed amount reinterpreted as an unsigned 128-bit number. -/
def asU128 (value : Int) : Nat := (value % 2 ^ 128).toNat

/-- An unsigned 128-bit number reinterpreted as a signed amount. -/
def asI128 (value : Nat) : Int :=
  if value < 2 ^ 127 then value else (value : Int) - 2 ^ 128

/-- The linear vesting curve: nothing before the cliff, everything at the end of the
duration, and the floor of the elapsed part in between. -/
def vestedAmount (vesting : VestingAllocation) : Int :=
  if now < satCount u64Max vesting.start vesting.cliffSecs then 0
  else if satCount u64Max vesting.start vesting.durationSecs ≤ now then
    vesting.totalAmount
  else
    asI128 (min (asU128 vesting.totalAmount * (now - vesting.start)) (2 ^ 128 - 1) /
      max vesting.durationSecs 1)

/-- Grant a vesting schedule out of the campaign's available funds. -/
def createVestingAllocation (recipient : Address) (totalAmount : Int)
    (start cliffSecs durationSecs : Nat) : CampaignProgram Nat := do
  let campaign ← loadOpen id
  ensure (0 < totalAmount) .invalidAmount
  ensure (¬ (durationSecs = 0 ∨ durationSecs < cliffSecs)) .invalidVestingSchedule
  let available ← orTrap campaign.available
  ensure (totalAmount ≤ available) .insufficientCampaignFunds
  let vestingId := ((← get).vestingCounter.lookup id).getD 0
  modify fun campaigns => campaigns.withVestingCounter id (satCount u64Max vestingId 1)
  modify fun campaigns => campaigns.withVesting id vestingId
    { recipient
      totalAmount
      start
      cliffSecs
      durationSecs
      claimed := 0 }
  let allocated ← ofExcept (add campaign.allocated totalAmount)
  save id { campaign with
    allocated
    pendingAllocations := satCount u32Max campaign.pendingAllocations 1 }
  pure vestingId

/-- Claim what has newly vested. Returns the amount that the caller transfers. -/
def claimVesting (vestingId : Nat) (recipient : Address) : CampaignProgram Int := do
  let campaign ← loadOpen id
  let vesting ← orFail ((← get).vesting.lookup (id, vestingId)) .vestingNotFound
  ensure (vesting.recipient = recipient) .vestingNotFound
  let payout ← orFail (i128.checkedSub (vestedAmount now vesting) vesting.claimed) .overflow
  ensure (0 < payout) .nothingVested
  let paid ← ofExcept (add vesting.claimed payout)
  modify fun campaigns => campaigns.withVesting id vestingId { vesting with claimed := paid }
  let claimed ← ofExcept (add campaign.claimed payout)
  save id { campaign with
    claimed
    pendingAllocations :=
      if vesting.totalAmount ≤ i128.saturatingAdd vesting.claimed payout then
        campaign.pendingAllocations - 1
      else campaign.pendingAllocations }
  pure payout

end StellarSwipe.StakeVault
