import StellarSwipe.Library.Runs
import StellarSwipe.StakeVault.RewardCampaign

/-!
# The books of a campaign

What a campaign's records hold, tallied over the tables that all campaigns share: the amounts of
its pending allocations, what its vesting schedules have not paid, and how many of each there are.
-/

namespace StellarSwipe.StakeVault

open Program FixedWidth Runs Table Campaigns List

/-- One operation on a campaign. -/
inductive CampaignCall where
  | distribute (id : Nat) (total : Int) (recipients : List (Address × Nat))
  | claim (id : Nat) (recipient : Address) (allocationIds : List Nat)
  | expireAllocations (id : Nat) (allocationIds : List Nat)
  | createVestingAllocation (id : Nat) (recipient : Address) (totalAmount : Int)
      (start cliffSecs durationSecs : Nat)
  | claimVesting (id vestingId : Nat) (recipient : Address)
  | closeCampaign (id : Nat)

/-- An operation and the time at which it is called. -/
structure CampaignInput where
  now : Nat
  call : CampaignCall

/-- The campaign that an operation names. -/
def CampaignCall.campaignId : CampaignCall → Nat
  | .distribute id _ _ => id
  | .claim id _ _ => id
  | .expireAllocations id _ => id
  | .createVestingAllocation id _ _ _ _ _ => id
  | .claimVesting id _ _ => id
  | .closeCampaign id => id

/-- What an operation pays out of the campaign when it returns: the amount returned. -/
def CampaignInput.exec (claimedByAccount : ClaimedReader) (input : CampaignInput) :
    CampaignProgram Int :=
  match input.call with
  | .distribute id total recipients => do
    discard (distribute input.now id total recipients)
    pure 0
  | .claim id recipient allocationIds =>
    claim claimedByAccount input.now id recipient allocationIds
  | .expireAllocations id allocationIds => do
    discard (expireAllocations input.now id allocationIds)
    pure 0
  | .createVestingAllocation id recipient totalAmount start cliffSecs durationSecs => do
    discard (createVestingAllocation id recipient totalAmount start cliffSecs durationSecs)
    pure 0
  | .claimVesting id vestingId recipient => claimVesting input.now id vestingId recipient
  | .closeCampaign id => closeCampaign input.now id

def campaignStep (claimedByAccount : ClaimedReader) (input : CampaignInput)
    (campaigns : Campaigns) : Campaigns :=
  invoke (input.exec claimedByAccount) campaigns

section Records

variable (campaigns : Campaigns) (id : Nat)

def pendingAmount : Int :=
  Table.tally (fun allocation => if allocation.status = .pending then allocation.amount else 0)
    campaigns.allocation id

def pendingCount : Int :=
  Table.tally (fun allocation => if allocation.status = .pending then 1 else 0)
    campaigns.allocation id

/-- What the vesting schedules of a campaign still hold. -/
def unclaimedVesting : Int :=
  Table.tally (fun vesting => vesting.totalAmount - vesting.claimed) campaigns.vesting id

def unfinishedVestings : Int :=
  Table.tally (fun vesting => if vesting.claimed < vesting.totalAmount then 1 else 0)
    campaigns.vesting id

def liveRecords : Int := pendingCount campaigns id + unfinishedVestings campaigns id

def allocationsCreated : Int := Table.tally (fun _ => 1) campaigns.allocation id

def vestingsCreated : Int := Table.tally (fun _ => 1) campaigns.vesting id

/-- A campaign's live records and its ids fit the types of its counters. -/
def Fits : Prop :=
  liveRecords campaigns id ≤ u32Max ∧ allocationsCreated campaigns id ≤ u64Max ∧
    vestingsCreated campaigns id ≤ u64Max
deriving Decidable

def nextVestingId : Nat := (campaigns.vestingCounter.lookup id).getD 0

/-- One if the allocation is stored with the status and zero otherwise. -/
def settledAs (status : AllocationStatus) (allocationId : Nat) : Nat :=
  if (campaigns.allocation.lookup (id, allocationId)).map CampaignAllocation.status = some status
  then 1 else 0

/-- The records of a campaign agree with what it owes, its pending count and its
next ids. -/
structure Books (owed : Int) (live nextId : Nat) : Prop where
  owed : pendingAmount campaigns id + unclaimedVesting campaigns id = owed
  live : liveRecords campaigns id = live
  created : allocationsCreated campaigns id = nextId
  vestings : vestingsCreated campaigns id = nextVestingId campaigns id
  fresh : ∀ allocationId, nextId ≤ allocationId →
    campaigns.allocation.lookup (id, allocationId) = none
  vestingFresh : ∀ vestingId, nextVestingId campaigns id ≤ vestingId →
    campaigns.vesting.lookup (id, vestingId) = none
  amounts : ∀ allocationId allocation,
    campaigns.allocation.lookup (id, allocationId) = some allocation → 0 < allocation.amount
  grants : ∀ vestingId vesting, campaigns.vesting.lookup (id, vestingId) = some vesting →
    0 ≤ vesting.claimed ∧ vesting.claimed ≤ vesting.totalAmount ∧ 0 < vesting.totalAmount ∧
      vesting.totalAmount ≤ i128.high

/-- A stored campaign whose totals account for its records. A closed one owes
nothing. -/
structure CampaignAccounted (campaign : RewardCampaign) : Prop where
  has : campaigns.campaign.lookup id = some campaign
  books : Books campaigns id (campaign.allocated - campaign.claimed - campaign.expired)
    campaign.pendingAllocations campaign.nextAllocationId
  status : campaign.status = .open ∨ campaign.status = .closed ∧
    campaign.allocated - campaign.claimed - campaign.expired = 0 ∧
      campaign.pendingAllocations = 0
  claimed : 0 ≤ campaign.claimed
  expired : 0 ≤ campaign.expired
  available : 0 ≤ campaign.budget - campaign.allocated + campaign.expired
  budget : i128.Holds campaign.budget
  allocated : campaign.allocated ≤ i128.high

end Records

def RewardCampaign.refund (campaign : RewardCampaign) : Int :=
  if campaign.status = .closed then campaign.budget - campaign.allocated + campaign.expired else 0

/-- Whether an operation returns the campaign's money to its funder. -/
def CampaignCall.refunds : CampaignCall → Bool
  | .closeCampaign _ => true
  | _ => false

/-- One if an operation that returns settles the allocation with the status. -/
def CampaignCall.settles (status : AllocationStatus) (allocationId : Nat) : CampaignCall → Nat
  | .claim _ _ allocationIds => if status = .claimed ∧ allocationId ∈ allocationIds then 1 else 0
  | .expireAllocations _ allocationIds =>
    if status = .expired ∧ allocationId ∈ allocationIds then 1 else 0
  | _ => 0

section Flows

variable (claimedByAccount : ClaimedReader) (id : Nat) (taken : Transition Campaigns CampaignInput)

/-- The amount that a transition returned for the campaign, zero when it stopped. -/
def amountReturned : Int :=
  if taken.input.call.campaignId = id then
    valueOr 0 (taken.input.exec claimedByAccount) taken.pre
  else 0

/-- The amount that a transition paid to a recipient of the campaign. -/
def paid : Int :=
  if taken.input.call.refunds then 0 else amountReturned claimedByAccount id taken

/-- The amount that a transition refunded to the campaign's funder. -/
def refunded : Int :=
  if taken.input.call.refunds then amountReturned claimedByAccount id taken else 0

/-- One if a transition settled the allocation with the status and zero otherwise. -/
def settlements (status : AllocationStatus) (allocationId : Nat) : Nat :=
  if taken.input.call.campaignId = id ∧ Accepts (taken.input.exec claimedByAccount) taken.pre
  then taken.input.call.settles status allocationId
  else 0

end Flows

section Untouched

variable {id : Nat} {pre middle after : Campaigns}

/-- Nothing stored under a campaign's id differs. -/
structure Untouched (id : Nat) (pre after : Campaigns) : Prop where
  campaign : after.campaign.lookup id = pre.campaign.lookup id
  allocation : ∀ allocationId,
    after.allocation.lookup (id, allocationId) = pre.allocation.lookup (id, allocationId)
  vesting : ∀ vestingId,
    after.vesting.lookup (id, vestingId) = pre.vesting.lookup (id, vestingId)
  counter : nextVestingId after id = nextVestingId pre id
  tallies : ∀ weight, Table.tally weight after.allocation id =
    Table.tally weight pre.allocation id
  vestingTallies : ∀ weight, Table.tally weight after.vesting id =
    Table.tally weight pre.vesting id

theorem Untouched.refl (id : Nat) (campaigns : Campaigns) : Untouched id campaigns campaigns :=
  ⟨rfl, fun _ => rfl, fun _ => rfl, rfl, fun _ => rfl, fun _ => rfl⟩

theorem Untouched.trans (prior : Untouched id pre middle) (later : Untouched id middle after) :
    Untouched id pre after where
  campaign := later.campaign.trans prior.campaign
  allocation key := (later.allocation key).trans (prior.allocation key)
  vesting key := (later.vesting key).trans (prior.vesting key)
  counter := later.counter.trans prior.counter
  tallies weight := (later.tallies weight).trans (prior.tallies weight)
  vestingTallies weight := (later.vestingTallies weight).trans (prior.vestingTallies weight)

variable {owner : Nat} (distinct : owner ≠ id) (campaigns : Campaigns)
include distinct

theorem untouched_withCampaign (campaign : RewardCampaign) :
    Untouched id campaigns (campaigns.withCampaign owner campaign) where
  campaign := by
    simp only [withCampaign, lookup_insert, if_neg (Ne.symm distinct)]
  allocation _ := rfl
  vesting _ := rfl
  counter := rfl
  tallies _ := rfl
  vestingTallies _ := rfl

theorem untouched_withAllocation (allocationId : Nat) (allocation : CampaignAllocation) :
    Untouched id campaigns (campaigns.withAllocation owner allocationId allocation) where
  campaign := rfl
  allocation key := by
    have other : (id, key) ≠ (owner, allocationId) := by
      rintro same
      exact distinct (congrArg Prod.fst same).symm
    simp only [withAllocation, lookup_insert, if_neg other]
  vesting _ := rfl
  counter := rfl
  tallies weight := tally_insert_other distinct weight _ _ _
  vestingTallies _ := rfl

theorem untouched_withVesting (vestingId : Nat) (vesting : VestingAllocation) :
    Untouched id campaigns (campaigns.withVesting owner vestingId vesting) where
  campaign := rfl
  allocation _ := rfl
  vesting key := by
    have other : (id, key) ≠ (owner, vestingId) := by
      rintro same
      exact distinct (congrArg Prod.fst same).symm
    simp only [withVesting, lookup_insert, if_neg other]
  counter := rfl
  tallies _ := rfl
  vestingTallies weight := tally_insert_other distinct weight _ _ _

theorem untouched_withVestingCounter (counter : Nat) :
    Untouched id campaigns (campaigns.withVestingCounter owner counter) where
  campaign := rfl
  allocation _ := rfl
  vesting _ := rfl
  counter := by
    simp only [nextVestingId, withVestingCounter, lookup_insert, if_neg (Ne.symm distinct)]
  tallies _ := rfl
  vestingTallies _ := rfl

theorem untouched_settle (status : AllocationStatus) (entries : List (Nat × CampaignAllocation)) :
    Untouched id campaigns (settle status owner entries campaigns) := by
  induction entries generalizing campaigns with
  | nil => exact .refl id campaigns
  | cons entry rest ih =>
    exact (untouched_withAllocation distinct campaigns entry.1 _).trans (ih _)

end Untouched

theorem untouched_withClaimedByAccount (id : Nat) (campaigns : Campaigns) (owner : Nat)
    (account : Address) (claimed : Int) :
    Untouched id campaigns (campaigns.withClaimedByAccount owner account claimed) :=
  ⟨rfl, fun _ => rfl, fun _ => rfl, rfl, fun _ => rfl, fun _ => rfl⟩

section Rules

variable {campaigns : Campaigns}

theorem wp_loadOpen {post : RewardCampaign → Campaigns → Prop} (id : Nat) :
    wp (loadOpen id) post (fun _ _ => True) campaigns ↔
      ∀ campaign, campaigns.campaign.lookup id = some campaign → campaign.status = .open →
        post campaign campaigns := by
  simp [loadOpen, load]

/-- The loop's rule: what each recorded share keeps holds after all of them, with the
sum of the shares recorded. The induction is on the shares. -/
theorem allocateShares_rule (now id : Nat) (invariant : RewardCampaign → Campaigns → Int → Prop)
    (keeps : ∀ campaign campaigns recorded recipient amount, amount ≠ 0 → 0 ≤ amount →
      invariant campaign campaigns recorded → invariant
        { campaign with
          nextAllocationId := satCount u64Max campaign.nextAllocationId 1
          pendingAllocations := satCount u32Max campaign.pendingAllocations 1 }
        (campaigns.withAllocation id campaign.nextAllocationId
          { recipient
            amount
            allocatedAt := now
            expiresAt := satCount u64Max now campaign.claimWindowSecs
            status := .pending
            epochId := campaign.epochId })
        (recorded + amount))
    (shares : List (Address × Int)) (nonneg : ∀ share ∈ shares, 0 ≤ share.2)
    (campaign : RewardCampaign) (recorded : Int) (holds : invariant campaign campaigns recorded) :
    wlp (allocateShares now id shares campaign)
      (fun result after => invariant result.1 after (recorded + (shares.map Prod.snd).sum))
      campaigns := by
  induction shares generalizing campaign campaigns recorded with
  | nil => simpa [allocateShares] using holds
  | cons share rest ih =>
    obtain ⟨recipient, amount⟩ := share
    have later := fun other mem => nonneg other (mem_cons_of_mem _ mem)
    simp only [allocateShares, wp_ite, wp_rules, map_cons, sum_cons]
    constructor
    · rintro rfl
      simpa using ih later campaign recorded holds
    · intro nonzero
      have kept := keeps campaign campaigns recorded recipient amount nonzero
        (nonneg (recipient, amount) mem_cons_self) holds
      refine wp_then (ih later _ _ kept) ?_
      intro result after reached
      simpa [add_assoc] using reached

/-- What a batch read so far: distinct ids, each stored and passed by the check. -/
structure Gathered (check : CampaignAllocation → Except CampaignError Unit)
    (campaigns : Campaigns) (id : Nat) (entries : List (Nat × CampaignAllocation))
    (total : Int) : Prop where
  nodup : (entries.map Prod.fst).Nodup
  has : ∀ entry ∈ entries, campaigns.allocation.lookup (id, entry.1) = some entry.2 ∧
    check entry.2 = .ok ()
  total : total = (entries.map fun entry => entry.2.amount).sum

theorem gather_ok {check : CampaignAllocation → Except CampaignError Unit} {id : Nat}
    {allocationIds : List Nat} {entries gathered : List (Nat × CampaignAllocation)}
    {total final : Int} (known : Gathered check campaigns id entries total)
    (gave : gather check campaigns id allocationIds entries total = .ok (gathered, final)) :
    Gathered check campaigns id gathered final ∧
      gathered.map Prod.fst = entries.map Prod.fst ++ allocationIds := by
  induction allocationIds generalizing entries total with
  | nil =>
    cases gave
    exact ⟨known, by simp⟩
  | cons allocationId rest ih =>
    simp only [gather] at gave
    split at gave
    · cases gave
    next unseen =>
      split at gave
      · cases gave
      next allocation hit =>
        obtain ⟨⟨⟩, checked, continued⟩ := bind_ok gave
        obtain ⟨next, added, going⟩ := bind_ok continued
        have extended : Gathered check campaigns id (entries ++ [(allocationId, allocation)])
            next := by
          refine ⟨?_, ?_, ?_⟩
          · simpa [nodup_append] using ⟨known.nodup, fun other value mem same =>
              unseen (List.mem_map.mpr ⟨(other, value), mem, same⟩)⟩
          · intro entry mem
            rcases mem_snoc.mp mem with old | rfl
            · exact known.has entry old
            · exact ⟨hit, checked⟩
          · simp [(add_ok added).2, known.total]
        obtain ⟨all, ids⟩ := ih extended going
        exact ⟨all, by simpa using ids⟩

theorem exec_untouched (claimedByAccount : ClaimedReader) (input : CampaignInput) {id : Nat}
    (distinct : input.call.campaignId ≠ id) :
    wlp (input.exec claimedByAccount) (fun _ after => Untouched id campaigns after) campaigns := by
  obtain ⟨now, call⟩ := input
  cases call with
  | distribute owner total recipients =>
    simp only [CampaignInput.exec, distribute, save, wlp_rules, wp_loadOpen]
    intro campaign _ _ _ available _ _ shares split
    refine wp_then (allocateShares_rule now owner
      (fun _ after _ => Untouched id campaigns after) ?_ shares (splitByWeight_ok split).2.2
      campaign 0 (.refl id campaigns)) ?_
    · intro _ reached _ _ _ _ _ kept
      exact kept.trans (untouched_withAllocation distinct reached _ _)
    · intro result after kept allocated _
      exact kept.trans (untouched_withCampaign distinct after _)
  | claim owner recipient allocationIds =>
    simp only [CampaignInput.exec, claim, checkBatch, save, wlp_rules, wp_loadOpen]
    intro campaign _ _ _ gathered _ newTotal _ _ claimed _ _
    exact ((untouched_settle distinct campaigns .claimed gathered.1).trans
      (untouched_withClaimedByAccount id _ owner recipient newTotal)).trans
      (untouched_withCampaign distinct _ _)
  | expireAllocations owner allocationIds =>
    simp only [CampaignInput.exec, expireAllocations, checkBatch, save, wlp_rules, wp_loadOpen]
    intro campaign _ _ _ gathered _ expired _ _
    exact (untouched_settle distinct campaigns .expired gathered.1).trans
      (untouched_withCampaign distinct _ _)
  | createVestingAllocation owner recipient totalAmount start cliffSecs durationSecs =>
    simp only [CampaignInput.exec, createVestingAllocation, save, wlp_rules, wp_loadOpen]
    intro campaign _ _ _ _ available _ _ allocated _
    exact ((untouched_withVestingCounter distinct campaigns _).trans
      (untouched_withVesting distinct _ _ _)).trans (untouched_withCampaign distinct _ _)
  | claimVesting owner vestingId recipient =>
    simp only [CampaignInput.exec, claimVesting, save, wlp_rules, wp_loadOpen]
    intro campaign _ _ vesting _ _ payout _ _ paid _ claimed _
    exact (untouched_withVesting distinct campaigns vestingId _).trans
      (untouched_withCampaign distinct _ _)
  | closeCampaign owner =>
    simp only [CampaignInput.exec, closeCampaign, save, wlp_rules, wp_loadOpen]
    intro campaign _ _ outstanding _ _ refund _
    exact untouched_withCampaign distinct campaigns _

end Rules

section Books

variable {campaigns after : Campaigns} {id live nextId : Nat} {owed : Int}

theorem Books.congr (books : Books campaigns id owed live nextId)
    (allocation : after.allocation = campaigns.allocation)
    (vesting : after.vesting = campaigns.vesting)
    (counter : after.vestingCounter = campaigns.vestingCounter) :
    Books after id owed live nextId := by
  obtain ⟨_, _, _, _, _⟩ := campaigns
  obtain ⟨_, _, _, _, _⟩ := after
  subst allocation vesting counter
  exact ⟨books.owed, books.live, books.created, books.vestings, books.fresh, books.vestingFresh,
    books.amounts, books.grants⟩

theorem Books.owed_nonneg (books : Books campaigns id owed live nextId) : 0 ≤ owed := by
  have pending : 0 ≤ pendingAmount campaigns id := by
    apply tally_nonneg
    intro key allocation hit
    have pos := books.amounts key allocation hit
    split <;> omega
  have unclaimed : 0 ≤ unclaimedVesting campaigns id := by
    apply tally_nonneg
    intro key vesting hit
    have bounds := books.grants key vesting hit
    omega
  have total := books.owed
  omega

theorem settledAs_withAllocation (status : AllocationStatus) (key : Nat) {allocationId : Nat}
    {allocation : CampaignAllocation} (unsettled : allocation.status ≠ status)
    (absent : campaigns.allocation.lookup (id, allocationId) = none) :
    settledAs (campaigns.withAllocation id allocationId allocation) id status key =
      settledAs campaigns id status key := by
  simp only [settledAs, withAllocation, lookup_insert]
  by_cases same : key = allocationId
  · subst same
    simp [absent, unsettled]
  · have other : (id, key) ≠ (id, allocationId) := by
      simpa using same
    rw [if_neg other]

section Allocation

variable {allocationId : Nat} {allocation : CampaignAllocation}

theorem fits_of_withAllocation (pending : allocation.status = .pending)
    (fits : Fits (campaigns.withAllocation id allocationId allocation) id) : Fits campaigns id := by
  simp only [Fits, liveRecords, pendingCount, unfinishedVestings, allocationsCreated,
    vestingsCreated, withAllocation, tally_insert, if_true, pending] at fits ⊢
  cases hit : campaigns.allocation.lookup (id, allocationId) with
  | none =>
    simp only [hit, Option.map_none, Option.getD_none] at fits
    omega
  | some has =>
    simp only [hit, Option.map_some, Option.getD_some] at fits
    split at fits <;> omega

theorem books_withAllocation (books : Books campaigns id owed live nextId)
    (pending : allocation.status = .pending) (pos : 0 < allocation.amount)
    (fits : Fits (campaigns.withAllocation id nextId allocation) id) :
    Books (campaigns.withAllocation id nextId allocation) id (owed + allocation.amount)
      (satCount u32Max live 1) (satCount u64Max nextId 1) := by
  have absent := books.fresh nextId (le_refl nextId)
  have tallied : ∀ weight : CampaignAllocation → Int,
      Table.tally weight (campaigns.withAllocation id nextId allocation).allocation id =
        Table.tally weight campaigns.allocation id + weight allocation :=
    fun weight => tally_insert_new absent allocation
  have owedBefore := books.owed
  have liveBefore := books.live
  have createdBefore := books.created
  obtain ⟨liveFits, createdFits, _⟩ := fits
  simp only [liveRecords, pendingCount, allocationsCreated, tallied, pending, if_true]
    at liveFits createdFits
  simp only [pendingAmount, liveRecords, pendingCount, allocationsCreated]
    at owedBefore liveBefore createdBefore
  have liveRoom : live + 1 ≤ u32Max := by
    have same : unfinishedVestings (campaigns.withAllocation id nextId allocation) id =
      unfinishedVestings campaigns id := rfl
    omega
  have idRoom : nextId + 1 ≤ u64Max := by omega
  rw [saturating_count_exact liveRoom, saturating_count_exact idRoom]
  refine ⟨?_, ?_, ?_, books.vestings, ?_, books.vestingFresh, ?_, books.grants⟩
  · have same : unclaimedVesting (campaigns.withAllocation id nextId allocation) id =
      unclaimedVesting campaigns id := rfl
    simp only [pendingAmount, tallied, pending, if_true]
    omega
  · have same : unfinishedVestings (campaigns.withAllocation id nextId allocation) id =
      unfinishedVestings campaigns id := rfl
    simp only [liveRecords, pendingCount, tallied, pending, if_true]
    omega
  · simp only [allocationsCreated, tallied]
    omega
  · intro key later
    have other : (id, key) ≠ (id, nextId) := by
      simp only [ne_eq, Prod.mk.injEq, true_and]
      omega
    simp only [withAllocation, lookup_insert, if_neg other]
    exact books.fresh key (by omega)
  · intro key has hit
    simp only [withAllocation, lookup_insert] at hit
    split at hit
    · cases hit
      exact pos
    · exact books.amounts key has hit

end Allocation

section Settling

variable {check : CampaignAllocation → Except CampaignError Unit}
  {entries : List (Nat × CampaignAllocation)} {total : Int}

variable (status : AllocationStatus)

theorem settle_rest (id : Nat) (entries : List (Nat × CampaignAllocation)) (campaigns : Campaigns) :
    (settle status id entries campaigns).vesting = campaigns.vesting ∧
      (settle status id entries campaigns).vestingCounter = campaigns.vestingCounter := by
  induction entries generalizing campaigns with
  | nil => exact ⟨rfl, rfl⟩
  | cons entry rest ih => exact ih _

theorem stored_after_first {entry : Nat × CampaignAllocation}
    (nodup : ((entry :: entries).map Prod.fst).Nodup) (has : ∀ other ∈ entry :: entries,
      campaigns.allocation.lookup (id, other.1) = some other.2) (settled : CampaignAllocation) :
    ∀ other ∈ entries, (campaigns.withAllocation id entry.1 settled).allocation.lookup
      (id, other.1) = some other.2 := by
  intro other mem
  have distinct : (id, other.1) ≠ (id, entry.1) := by
    simp only [ne_eq, Prod.mk.injEq, true_and]
    intro same
    simp only [map_cons, nodup_cons] at nodup
    exact nodup.1 (same ▸ mem_map_of_mem mem)
  simp only [withAllocation, lookup_insert, if_neg distinct]
  exact has other (mem_cons_of_mem _ mem)

theorem settle_tally (weight : CampaignAllocation → Int) (status : AllocationStatus)
    (nodup : (entries.map Prod.fst).Nodup)
    (has : ∀ entry ∈ entries, campaigns.allocation.lookup (id, entry.1) = some entry.2) :
    Table.tally weight (settle status id entries campaigns).allocation id =
      Table.tally weight campaigns.allocation id +
        (entries.map fun entry => weight { entry.2 with status } - weight entry.2).sum := by
  induction entries generalizing campaigns with
  | nil => simp [settle]
  | cons entry rest ih =>
    have first := has entry mem_cons_self
    have later := stored_after_first nodup has { entry.2 with status }
    simp only [settle, map_cons, sum_cons]
    rw [ih (List.nodup_cons.mp nodup).2 later]
    simp only [withAllocation, tally_insert_over first]
    omega

theorem settle_lookup (nodup : (entries.map Prod.fst).Nodup)
    (has : ∀ entry ∈ entries, campaigns.allocation.lookup (id, entry.1) = some entry.2)
    (key : Nat) : (settle status id entries campaigns).allocation.lookup (id, key) =
      (campaigns.allocation.lookup (id, key)).map fun allocation =>
        if key ∈ entries.map Prod.fst then { allocation with status } else allocation := by
  induction entries generalizing campaigns with
  | nil => simp [settle]
  | cons entry rest ih =>
    have first := has entry mem_cons_self
    have later := stored_after_first nodup has { entry.2 with status }
    have fresh := (List.nodup_cons.mp nodup).1
    simp only [settle]
    rw [ih (List.nodup_cons.mp nodup).2 later]
    simp only [withAllocation, lookup_insert, map_cons, mem_cons]
    by_cases same : key = entry.1
    · subst same
      simp [fresh, first]
    · have distinct : (id, key) ≠ (id, entry.1) := by simpa using same
      rw [if_neg distinct]
      congr 1
      funext allocation
      simp only [same, false_or]

/-- Settling pending allocations takes their amounts off what is owed and their number
off the count. -/
theorem books_settle (books : Books campaigns id owed live nextId)
    (gathered : Gathered check campaigns id entries total)
    (pending : ∀ allocation, check allocation = .ok () → allocation.status = .pending)
    (settled : status ≠ .pending) (bounded : entries.length ≤ live) :
    Books (settle status id entries campaigns) id (owed - total) (live - entries.length)
      nextId := by
  have has := fun entry mem => (gathered.has entry mem).1
  have wasPending : ∀ entry ∈ entries, entry.2.status = .pending :=
    fun entry mem => pending entry.2 (gathered.has entry mem).2
  have tallied : ∀ weight : CampaignAllocation → Int,
      Table.tally weight (settle status id entries campaigns).allocation id =
        Table.tally weight campaigns.allocation id + (entries.map fun entry =>
          weight { entry.2 with status } - weight entry.2).sum :=
    fun weight => settle_tally weight status gathered.nodup has
  have lookups := settle_lookup status gathered.nodup has
  obtain ⟨vestingKept, counterKept⟩ := settle_rest status id entries campaigns
  have unclaimed : unclaimedVesting (settle status id entries campaigns) id =
      unclaimedVesting campaigns id := by
    simp only [unclaimedVesting, vestingKept]
  have unfinished : unfinishedVestings (settle status id entries campaigns) id =
      unfinishedVestings campaigns id := by
    simp only [unfinishedVestings, vestingKept]
  have counter : nextVestingId (settle status id entries campaigns) id =
      nextVestingId campaigns id := by
    simp only [nextVestingId, counterKept]
  have amounts : (entries.map fun entry =>
      (if status = .pending then entry.2.amount else 0) -
        if entry.2.status = .pending then entry.2.amount else 0) =
      entries.map fun entry => -entry.2.amount := by
    apply map_congr_left
    intro entry mem
    simp [settled, wasPending entry mem]
  have ones : (entries.map fun entry =>
      ((if status = .pending then 1 else 0) -
        if entry.2.status = .pending then 1 else 0 : Int)) = entries.map fun _ => (-1 : Int) := by
    apply map_congr_left
    intro entry mem
    simp [settled, wasPending entry mem]
  have owedBefore := books.owed
  have liveBefore := books.live
  have createdBefore := books.created
  simp only [pendingAmount, liveRecords, pendingCount, allocationsCreated]
    at owedBefore liveBefore createdBefore
  refine ⟨?_, ?_, ?_, ?_, ?_, ?_, ?_, ?_⟩
  · have negated : (entries.map fun entry => -entry.2.amount).sum = -total := by
      rw [gathered.total, sum_neg, map_map]
      rfl
    rw [unclaimed, pendingAmount, tallied, amounts, negated]
    omega
  · rw [liveRecords, unfinished, pendingCount, tallied, ones]
    simp only [List.map_const', sum_replicate, nsmul_eq_mul]
    omega
  · rw [allocationsCreated, tallied]
    simpa using createdBefore
  · rw [counter, vestingsCreated, vestingKept]
    exact books.vestings
  · intro key beyond
    rw [lookups, books.fresh key beyond, Option.map_none]
  · intro key beyond
    rw [counter] at beyond
    rw [vestingKept]
    exact books.vestingFresh key beyond
  · intro key allocation hit
    rw [lookups, Option.map_eq_some_iff] at hit
    obtain ⟨pre, present, rfl⟩ := hit
    have pos := books.amounts key pre present
    split <;> exact pos
  · intro key vesting hit
    rw [vestingKept] at hit
    exact books.grants key vesting hit

theorem settledAs_settle (gathered : Gathered check campaigns id entries total)
    (pending : ∀ allocation, check allocation = .ok () → allocation.status = .pending)
    {tested : AllocationStatus} (final : tested ≠ .pending) (key : Nat) :
    settledAs (settle status id entries campaigns) id tested key =
      settledAs campaigns id tested key +
        if tested = status ∧ key ∈ entries.map Prod.fst then 1 else 0 := by
  have has := fun entry mem => (gathered.has entry mem).1
  simp only [settledAs, settle_lookup status gathered.nodup has]
  by_cases mem : key ∈ entries.map Prod.fst
  · obtain ⟨entry, inside, rfl⟩ := List.mem_map.mp mem
    have wasPending := pending entry.2 (gathered.has entry inside).2
    have distinct : ¬ AllocationStatus.pending = tested := fun same => final same.symm
    by_cases same : tested = status
    · simp [has entry inside, wasPending, mem, same, same ▸ distinct]
    · have unequal : ¬ status = tested := fun equal => same equal.symm
      simp [has entry inside, wasPending, mem, distinct, same, unequal]
  · simp [mem]

end Settling

section Vesting

variable {vestingId : Nat} {vesting : VestingAllocation}

theorem books_withVesting (books : Books campaigns id owed live nextId)
    (unclaimed : vesting.claimed = 0) (pos : 0 < vesting.totalAmount)
    (bounded : vesting.totalAmount ≤ i128.high) (created : after = (campaigns.withVestingCounter id
      (satCount u64Max (nextVestingId campaigns id) 1)).withVesting id
      (nextVestingId campaigns id) vesting) (fits : Fits after id) :
    Books after id (owed + vesting.totalAmount) (satCount u32Max live 1) nextId := by
  have absent := books.vestingFresh _ (le_refl _)
  have tallied : ∀ weight : VestingAllocation → Int, Table.tally weight after.vesting id =
        Table.tally weight campaigns.vesting id + weight vesting := by
    intro weight
    rw [created]
    exact tally_insert_new absent vesting
  have pendingKept : pendingAmount after id = pendingAmount campaigns id := by
    rw [created]
    rfl
  have countKept : pendingCount after id = pendingCount campaigns id := by
    rw [created]
    rfl
  have counter : nextVestingId after id = satCount u64Max (nextVestingId campaigns id) 1 := by
    rw [created]
    simp [nextVestingId, withVesting, withVestingCounter]
  have allocationKept : after.allocation = campaigns.allocation := by
    rw [created]
    rfl
  have owedBefore := books.owed
  have liveBefore := books.live
  have vestingsBefore := books.vestings
  obtain ⟨liveFits, _, vestingsFit⟩ := fits
  simp only [liveRecords, countKept, unfinishedVestings, vestingsCreated, tallied, unclaimed,
    pos, if_true] at liveFits vestingsFit
  simp only [liveRecords, unclaimedVesting, unfinishedVestings, vestingsCreated]
    at owedBefore liveBefore vestingsBefore
  have liveRoom : live + 1 ≤ u32Max := by omega
  have idRoom : nextVestingId campaigns id + 1 ≤ u64Max := by omega
  rw [saturating_count_exact idRoom] at counter
  rw [saturating_count_exact liveRoom]
  refine ⟨?_, ?_, ?_, ?_, ?_, ?_, ?_, ?_⟩
  · rw [pendingKept, unclaimedVesting, tallied, unclaimed]
    omega
  · rw [liveRecords, countKept, unfinishedVestings, tallied, unclaimed, if_pos pos]
    omega
  · rw [allocationsCreated, allocationKept]
    exact books.created
  · rw [vestingsCreated, tallied, counter]
    omega
  · rw [allocationKept]
    exact books.fresh
  · intro key beyond
    rw [counter] at beyond
    have other : (id, key) ≠ (id, nextVestingId campaigns id) := by
      simp only [ne_eq, Prod.mk.injEq, true_and]
      omega
    rw [created]
    simp only [withVesting, lookup_insert, if_neg other]
    exact books.vestingFresh key (by omega)
  · rw [allocationKept]
    exact books.amounts
  · intro key has hit
    rw [created] at hit
    simp only [withVesting, lookup_insert] at hit
    split at hit
    · cases hit
      omega
    · exact books.grants key has hit

/-- A claim on a schedule takes its payout off what is owed, and the schedule off the
count when nothing of it is left. -/
theorem books_claimed (books : Books campaigns id owed live nextId)
    (has : campaigns.vesting.lookup (id, vestingId) = some vesting) {payout : Int}
    (claimed : VestingAllocation) (paid : claimed.claimed = vesting.claimed + payout)
    (granted : claimed.totalAmount = vesting.totalAmount) (pos : 0 < payout)
    (within : claimed.claimed ≤ vesting.totalAmount)
    (written : after = campaigns.withVesting id vestingId claimed) : Books after id (owed - payout)
      (if vesting.totalAmount ≤ claimed.claimed then live - 1 else live) nextId := by
  have tallied : ∀ weight : VestingAllocation → Int, Table.tally weight after.vesting id =
      Table.tally weight campaigns.vesting id - weight vesting + weight claimed := by
    intro weight
    rw [written]
    exact tally_insert_over has claimed
  have allocationKept : after.allocation = campaigns.allocation := by
    rw [written]
    rfl
  have counter : nextVestingId after id = nextVestingId campaigns id := by
    rw [written]
    rfl
  have owedBefore := books.owed
  have liveBefore := books.live
  have vestingsBefore := books.vestings
  obtain ⟨claimedNonneg, _, grantPositive, bounded⟩ := books.grants vestingId vesting has
  have unfinished : vesting.claimed < vesting.totalAmount := by omega
  have counted : (if vesting.claimed < vesting.totalAmount then 1 else 0) ≤
      unfinishedVestings campaigns id :=
    le_tally (fun _ _ _ => by split <;> omega) has
  rw [if_pos unfinished, unfinishedVestings] at counted
  have pendingNonneg : 0 ≤ pendingCount campaigns id :=
    tally_nonneg fun _ _ _ => by split <;> omega
  simp only [unclaimedVesting, liveRecords, unfinishedVestings, vestingsCreated]
    at owedBefore liveBefore vestingsBefore
  refine ⟨?_, ?_, ?_, ?_, ?_, ?_, ?_, ?_⟩
  · rw [pendingAmount, unclaimedVesting, tallied, allocationKept]
    rw [pendingAmount] at owedBefore
    omega
  · rw [liveRecords, pendingCount, unfinishedVestings, tallied, allocationKept, granted,
      if_pos unfinished]
    rw [pendingCount] at liveBefore pendingNonneg
    split <;> split <;> omega
  · rw [allocationsCreated, allocationKept]
    exact books.created
  · rw [vestingsCreated, tallied, counter]
    omega
  · rw [allocationKept]
    exact books.fresh
  · intro key beyond
    rw [counter] at beyond
    have known := books.vestingFresh key beyond
    have other : (id, key) ≠ (id, vestingId) := by
      rintro same
      rw [same, has] at known
      cases known
    rw [written]
    simp only [withVesting, lookup_insert, if_neg other]
    exact known
  · rw [allocationKept]
    exact books.amounts
  · intro key hit read
    rw [written] at read
    simp only [withVesting, lookup_insert] at read
    split at read
    · cases read
      omega
    · exact books.grants key hit read

end Vesting

end Books

/-- The floor of what has vested by the elapsed part, whose product saturates. -/
def vestedFloor (now : Nat) (vesting : VestingAllocation) : Nat :=
  min (vesting.totalAmount.toNat * (now - vesting.start)) (2 ^ 128 - 1) / max vesting.durationSecs 1

section Curve

variable {now : Nat} {vesting : VestingAllocation}

theorem vestedFloor_le (unfinished : ¬ satCount u64Max vesting.start vesting.durationSecs ≤ now) :
    vestedFloor now vesting ≤ vesting.totalAmount.toNat := by
  have elapsed : now - vesting.start ≤ max vesting.durationSecs 1 := by
    simp only [satCount] at unfinished
    omega
  apply Nat.div_le_of_le_mul
  calc min (vesting.totalAmount.toNat * (now - vesting.start)) (2 ^ 128 - 1)
      ≤ vesting.totalAmount.toNat * (now - vesting.start) := Nat.min_le_left _ _
    _ ≤ vesting.totalAmount.toNat * max vesting.durationSecs 1 := Nat.mul_le_mul_left _ elapsed
    _ = max vesting.durationSecs 1 * vesting.totalAmount.toNat := Nat.mul_comm _ _

/-- Between the cliff and the end the curve is the floor, unchanged by the casts. -/
theorem vestedAmount_between (nonneg : 0 ≤ vesting.totalAmount)
    (bounded : vesting.totalAmount ≤ i128.high)
    (cliff : ¬ now < satCount u64Max vesting.start vesting.cliffSecs)
    (unfinished : ¬ satCount u64Max vesting.start vesting.durationSecs ≤ now) :
    vestedAmount now vesting = vestedFloor now vesting := by
  have floor := vestedFloor_le unfinished
  simp only [i128_high] at bounded
  have reinterpreted : asU128 vesting.totalAmount = vesting.totalAmount.toNat := by
    simp only [asU128]
    omega
  rw [vestedAmount, if_neg cliff, if_neg unfinished, reinterpreted, ← vestedFloor, asI128,
    if_pos (by omega)]

theorem vestedAmount_bounds (now : Nat) (nonneg : 0 ≤ vesting.totalAmount)
    (bounded : vesting.totalAmount ≤ i128.high) :
    0 ≤ vestedAmount now vesting ∧ vestedAmount now vesting ≤ vesting.totalAmount := by
  by_cases cliff : now < satCount u64Max vesting.start vesting.cliffSecs
  · rw [vestedAmount, if_pos cliff]
    omega
  by_cases finished : satCount u64Max vesting.start vesting.durationSecs ≤ now
  · rw [vestedAmount, if_neg cliff, if_pos finished]
    omega
  · have floor := vestedFloor_le finished
    rw [vestedAmount_between nonneg bounded cliff finished]
    omega

/-- What has vested never falls, also where the product of the amount and the time saturates. -/
theorem vestedAmount_mono {later : Nat} (nonneg : 0 ≤ vesting.totalAmount)
    (bounded : vesting.totalAmount ≤ i128.high) (ordered : now ≤ later) :
    vestedAmount now vesting ≤ vestedAmount later vesting := by
  have floor := (vestedAmount_bounds later nonneg bounded).1
  have whole := (vestedAmount_bounds now nonneg bounded).2
  by_cases cliff : now < satCount u64Max vesting.start vesting.cliffSecs
  · rwa [vestedAmount, if_pos cliff]
  by_cases finished : satCount u64Max vesting.start vesting.durationSecs ≤ later
  · have reached : vestedAmount later vesting = vesting.totalAmount := by
      rw [vestedAmount, if_neg (by omega), if_pos finished]
    rwa [reached]
  · rw [vestedAmount_between nonneg bounded cliff (by omega),
      vestedAmount_between nonneg bounded (by omega) finished]
    have grown : min (vesting.totalAmount.toNat * (now - vesting.start)) (2 ^ 128 - 1) ≤
        min (vesting.totalAmount.toNat * (later - vesting.start)) (2 ^ 128 - 1) :=
      min_le_min_right _ (Nat.mul_le_mul_left _ (Nat.sub_le_sub_right ordered _))
    exact_mod_cast Nat.div_le_div_right grown

end Curve

end StellarSwipe.StakeVault
