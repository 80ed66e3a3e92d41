import StellarSwipe.StakeVault.CampaignBooks

/-!
# Campaign accounting

An open campaign owes what its pending allocations and unfinished vesting schedules hold, its
pending count is their number, its budget is what it paid, owes and has available, and each
allocation is settled at most once; when it is closed every one has been.
-/

namespace StellarSwipe.StakeVault

open Program FixedWidth Runs Table Range Option

section Steps

variable {campaigns after : Campaigns} {id : Nat} {campaign : RewardCampaign}

/-- What one operation does to a campaign: the books still agree with it, and its
totals and settled allocations moved by what the operation paid, refunded and
settled. -/
structure Advance (id : Nat) (pre after : Campaigns) (campaign next : RewardCampaign)
    (paid refunded : Int) (settled : AllocationStatus → Nat → Nat) : Prop where
  accounted : CampaignAccounted after id next
  budget : next.budget = campaign.budget
  paid : next.claimed = campaign.claimed + paid
  refunded : next.refund = campaign.refund + refunded
  settled : ∀ status allocationId, status ≠ .pending →
    settledAs after id status allocationId =
      settledAs pre id status allocationId + settled status allocationId

/-- An operation advances a campaign whose records fit its counters afterwards. -/
def Advances (id : Nat) (pre after : Campaigns) (paid refunded : Int)
    (settled : AllocationStatus → Nat → Nat) : Prop :=
  Fits after id → ∀ campaign, CampaignAccounted pre id campaign →
    ∃ next, Advance id pre after campaign next paid refunded settled

theorem Untouched.advances (untouched : Untouched id campaigns after) :
    Advances id campaigns after 0 0 fun _ _ => 0 := by
  intro _ campaign accounted
  have books := accounted.books
  have tallies := untouched.tallies
  have vestingTallies := untouched.vestingTallies
  refine ⟨campaign, ⟨untouched.campaign.trans accounted.has, ⟨?_, ?_, ?_, ?_, ?_, ?_, ?_, ?_⟩,
    accounted.status, accounted.claimed, accounted.expired, accounted.available, accounted.budget,
    accounted.allocated⟩, rfl, by simp, by simp, ?_⟩
  · rw [pendingAmount, unclaimedVesting, tallies, vestingTallies]
    exact books.owed
  · rw [liveRecords, pendingCount, unfinishedVestings, tallies, vestingTallies]
    exact books.live
  · rw [allocationsCreated, tallies]
    exact books.created
  · rw [vestingsCreated, vestingTallies, untouched.counter]
    exact books.vestings
  · intro key beyond
    rw [untouched.allocation]
    exact books.fresh key beyond
  · intro key beyond
    rw [untouched.counter] at beyond
    rw [untouched.vesting]
    exact books.vestingFresh key beyond
  · intro key allocation hit
    rw [untouched.allocation] at hit
    exact books.amounts key allocation hit
  · intro key vesting hit
    rw [untouched.vesting] at hit
    exact books.grants key vesting hit
  · intro status key _
    rw [settledAs, settledAs, untouched.allocation, Nat.add_zero]

theorem CampaignAccounted.available_eq (accounted : CampaignAccounted campaigns id campaign) :
    campaign.available = some (campaign.budget - campaign.allocated + campaign.expired) := by
  have owed := accounted.books.owed_nonneg
  have claimed := accounted.claimed
  have expired := accounted.expired
  have available := accounted.available
  have budget := accounted.budget
  have allocated := accounted.allocated
  simp only [Range.Holds, i128_low, i128_high] at budget allocated
  have first : i128.Holds (campaign.budget - campaign.allocated) := by
    simp only [Range.Holds, i128_low, i128_high]
    omega
  have second : i128.Holds (campaign.budget - campaign.allocated + campaign.expired) := by
    simp only [Range.Holds, i128_low, i128_high]
    omega
  simp [RewardCampaign.available, checkedSub, checkedAdd, checked, first, second]

theorem CampaignAccounted.outstanding_eq (accounted : CampaignAccounted campaigns id campaign) :
    campaign.outstanding = some (campaign.allocated - campaign.claimed - campaign.expired) := by
  have owed := accounted.books.owed_nonneg
  have claimed := accounted.claimed
  have expired := accounted.expired
  have allocated := accounted.allocated
  simp only [i128_high] at allocated
  have first : i128.Holds (campaign.allocated - campaign.claimed) := by
    simp only [Range.Holds, i128_low, i128_high]
    omega
  have second : i128.Holds (campaign.allocated - campaign.claimed - campaign.expired) := by
    simp only [Range.Holds, i128_low, i128_high]
    omega
  simp [RewardCampaign.outstanding, checkedSub, checked, first, second]

theorem advance_saved {reached : Campaigns} {next : RewardCampaign} {paid refunded : Int}
    {settled : AllocationStatus → Nat → Nat} (accounted : CampaignAccounted campaigns id campaign)
    (books : Books reached id (next.allocated - next.claimed - next.expired)
      next.pendingAllocations next.nextAllocationId)
    (status : next.status = .open ∨ next.status = .closed ∧
      next.allocated - next.claimed - next.expired = 0 ∧ next.pendingAllocations = 0)
    (budget : next.budget = campaign.budget)
    (paidExact : next.claimed = campaign.claimed + paid) (paidNonneg : 0 ≤ paid)
    (expired : campaign.expired ≤ next.expired)
    (available : 0 ≤ next.budget - next.allocated + next.expired)
    (allocated : next.allocated ≤ i128.high)
    (refundExact : next.refund = campaign.refund + refunded)
    (settles : ∀ status allocationId, status ≠ .pending → settledAs reached id status allocationId =
        settledAs campaigns id status allocationId + settled status allocationId) :
    Advance id campaigns (reached.withCampaign id next) campaign next paid refunded settled where
  accounted := by
    have claimedBefore := accounted.claimed
    have expiredBefore := accounted.expired
    exact ⟨by simp [Campaigns.withCampaign], books.congr rfl rfl rfl, status, by omega, by omega,
      available, budget ▸ accounted.budget, allocated⟩
  budget
  paid := paidExact
  refunded := refundExact
  settled := settles

variable (claimedByAccount : ClaimedReader) (now : Nat)

theorem distribute_advances (total : Int) (recipients : List (Address × Nat)) :
    wlp (distribute now id total recipients)
      (fun _ after => Advances id campaigns after 0 0 fun _ _ => 0) campaigns := by
  simp only [distribute, save, wlp_rules, wp_loadOpen]
  intro campaign has isOpen pos available computed within shares split
  obtain ⟨_, sum, nonneg⟩ := splitByWeight_ok split
  refine wp_then (allocateShares_rule now id
    (fun counted reached recorded =>
      counted = { campaign with
        nextAllocationId := counted.nextAllocationId
        pendingAllocations := counted.pendingAllocations } ∧
      (CampaignAccounted campaigns id campaign → Fits reached id →
        Books reached id (campaign.allocated - campaign.claimed - campaign.expired + recorded)
          counted.pendingAllocations counted.nextAllocationId ∧
        ∀ status key, status ≠ .pending →
          settledAs reached id status key = settledAs campaigns id status key))
    ?_ shares nonneg campaign 0
    ⟨rfl, fun accounted _ => ⟨by simpa using accounted.books, fun _ _ _ => rfl⟩⟩) ?_
  · rintro counted reached recorded recipient amount nonzero amountNonneg ⟨same, known⟩
    refine ⟨?_, fun accounted fits => ?_⟩
    · conv_lhs => rw [same]
    · obtain ⟨books, unsettled⟩ := known accounted (fits_of_withAllocation rfl fits)
      have above : 0 < amount := by omega
      have written := books_withAllocation books rfl above fits
      refine ⟨by simpa [add_assoc] using written, fun status key final => ?_⟩
      rw [settledAs_withAllocation status key (Ne.symm final) (books.fresh _ (le_refl _))]
      exact unsettled status key final
  · rintro ⟨counted, created⟩ after ⟨same, known⟩ allocated added fits other accounted
    obtain rfl : other = campaign := mem_unique accounted.has has
    obtain ⟨books, unsettled⟩ := known accounted fits
    obtain ⟨held, exact⟩ := add_ok added
    have bound := accounted.available
    rw [accounted.available_eq, Option.some.injEq] at computed
    simp only [Range.Holds] at held
    simp only at exact
    have budgetKept : counted.budget = other.budget := (congrArg RewardCampaign.budget same :)
    have allocatedKept : counted.allocated = other.allocated :=
      (congrArg RewardCampaign.allocated same :)
    have claimedKept : counted.claimed = other.claimed := (congrArg RewardCampaign.claimed same :)
    have expiredKept : counted.expired = other.expired := (congrArg RewardCampaign.expired same :)
    have statusKept : counted.status = .open :=
      (congrArg RewardCampaign.status same).trans isOpen
    have owed : allocated - counted.claimed - counted.expired =
        other.allocated - other.claimed - other.expired + (0 + (shares.map Prod.snd).sum) := by
      omega
    exact ⟨{ counted with allocated }, advance_saved accounted (owed ▸ books)
      (Or.inl statusKept) budgetKept (by simpa using claimedKept) (le_refl 0) expiredKept.ge
      (show 0 ≤ counted.budget - allocated + counted.expired by omega) held.2
      (by simp [RewardCampaign.refund, isOpen, statusKept]) (by simpa using unsettled)⟩

theorem checkClaimable_pending {now epochId : Nat} {recipient : Address}
    (allocation : CampaignAllocation)
    (passed : checkClaimable now epochId recipient allocation = .ok ()) :
    allocation.status = .pending := by
  simp only [checkClaimable] at passed
  split at passed
  · cases passed
  next accepted => exact not_not.mp fun other => accepted (Or.inr other)

theorem checkExpired_pending {now : Nat} (allocation : CampaignAllocation)
    (passed : checkExpired now allocation = .ok ()) : allocation.status = .pending := by
  simp only [checkExpired] at passed
  split at passed
  · cases passed
  next accepted => exact not_not.mp accepted

theorem gathered_nil (check : CampaignAllocation → Except CampaignError Unit)
    (campaigns : Campaigns) (id : Nat) : Gathered check campaigns id [] 0 :=
  ⟨List.nodup_nil, by simp, by simp⟩

theorem Gathered.total_nonneg {check : CampaignAllocation → Except CampaignError Unit}
    {entries : List (Nat × CampaignAllocation)} {total : Int}
    (gathered : Gathered check campaigns id entries total) {owed : Int} {live nextId : Nat}
    (books : Books campaigns id owed live nextId) : 0 ≤ total := by
  rw [gathered.total]
  apply List.sum_nonneg
  intro amount mem
  obtain ⟨entry, inside, rfl⟩ := List.mem_map.mp mem
  exact (books.amounts _ _ (gathered.has entry inside).1).le

variable (recipient : Address)

theorem claim_advances (allocationIds : List Nat) :
    wlp (claim claimedByAccount now id recipient allocationIds)
      (fun amount after => Advances id campaigns after amount 0 fun status key =>
        if status = .claimed ∧ key ∈ allocationIds then 1 else 0) campaigns := by
  simp only [claim, checkBatch, save, wlp_rules, wp_loadOpen]
  rintro campaign has isOpen _ ⟨entries, total⟩ read newTotal _ _ claimed added bounded fits
    other accounted
  obtain rfl : other = campaign := mem_unique accounted.has has
  obtain ⟨gathered, ids⟩ := gather_ok (gathered_nil _ _ _) read
  obtain ⟨_, exact⟩ := add_ok added
  have totalNonneg := gathered.total_nonneg accounted.books
  have books := books_settle .claimed accounted.books gathered checkClaimable_pending (by decide)
    bounded
  have owed : other.allocated - claimed - other.expired =
      other.allocated - other.claimed - other.expired - total := by omega
  rw [List.map_nil, List.nil_append] at ids
  refine ⟨_, advance_saved accounted ((owed ▸ books).congr rfl rfl rfl) (Or.inl isOpen) rfl exact
    totalNonneg (le_refl _) accounted.available accounted.allocated ?_ fun status key final => ?_⟩
  · simp [RewardCampaign.refund, isOpen]
  · have settles := settledAs_settle .claimed gathered checkClaimable_pending final key
    rw [ids] at settles
    exact settles

theorem expireAllocations_advances (allocationIds : List Nat) :
    wlp (expireAllocations now id allocationIds)
      (fun _ after => Advances id campaigns after 0 0 fun status key =>
        if status = .expired ∧ key ∈ allocationIds then 1 else 0) campaigns := by
  simp only [expireAllocations, checkBatch, save, wlp_rules, wp_loadOpen]
  rintro campaign has isOpen _ ⟨entries, total⟩ read expired added bounded fits other accounted
  obtain rfl : other = campaign := mem_unique accounted.has has
  obtain ⟨gathered, ids⟩ := gather_ok (gathered_nil _ _ _) read
  obtain ⟨_, exact⟩ := add_ok added
  have totalNonneg := gathered.total_nonneg accounted.books
  have available := accounted.available
  have books := books_settle .expired accounted.books gathered checkExpired_pending (by decide)
    bounded
  have owed : other.allocated - other.claimed - expired =
      other.allocated - other.claimed - other.expired - total := by omega
  rw [List.map_nil, List.nil_append] at ids
  refine ⟨_, advance_saved accounted ((owed ▸ books).congr rfl rfl rfl) (Or.inl isOpen) rfl
    (by simp) (le_refl 0) ?_ ?_ accounted.allocated ?_ fun status key final => ?_⟩
  · simp only
    omega
  · simp only
    omega
  · simp [RewardCampaign.refund, isOpen]
  · have settles := settledAs_settle .expired gathered checkExpired_pending final key
    rw [ids] at settles
    exact settles

theorem createVestingAllocation_advances (totalAmount : Int) (start cliffSecs durationSecs : Nat) :
    wlp (createVestingAllocation id recipient totalAmount start cliffSecs durationSecs)
      (fun _ after => Advances id campaigns after 0 0 fun _ _ => 0) campaigns := by
  simp only [createVestingAllocation, save, wlp_rules, wp_loadOpen]
  intro campaign has isOpen pos _ available computed within allocated added fits other
    accounted
  obtain rfl : other = campaign := mem_unique accounted.has has
  obtain ⟨held, exact⟩ := add_ok added
  rw [accounted.available_eq, Option.some.injEq] at computed
  have owedNonneg := accounted.books.owed_nonneg
  have claimedNonneg := accounted.claimed
  have expiredNonneg := accounted.expired
  have bounded : totalAmount ≤ i128.high := by
    simp only [Range.Holds] at held
    omega
  have books := books_withVesting accounted.books rfl pos bounded rfl fits
  have owed : allocated - other.claimed - other.expired =
      other.allocated - other.claimed - other.expired + totalAmount := by omega
  refine ⟨_, advance_saved accounted ((owed ▸ books).congr rfl rfl rfl) (Or.inl isOpen) rfl
    (by simp) (le_refl 0) (le_refl _) ?_ held.2 ?_ fun _ _ _ => rfl⟩
  · simp only
    omega
  · simp [RewardCampaign.refund, isOpen]

theorem claimVesting_advances (vestingId : Nat) (recipient : Address) :
    wlp (claimVesting now id vestingId recipient)
      (fun amount after => Advances id campaigns after amount 0 fun _ _ => 0) campaigns := by
  simp only [claimVesting, save, wlp_rules, wp_loadOpen]
  intro campaign has isOpen vesting hit _ payout computed pos paid paidAdded claimed added
    fits other accounted
  obtain rfl : other = campaign := mem_unique accounted.has has
  obtain ⟨_, exact⟩ := add_ok added
  obtain ⟨paidHeld, rfl⟩ := add_ok paidAdded
  obtain ⟨_, difference⟩ := i128.checked_ok computed
  obtain ⟨_, _, granted, bounded⟩ := accounted.books.grants vestingId vesting hit
  obtain ⟨_, vested⟩ := vestedAmount_bounds now granted.le bounded
  have within : vesting.claimed + payout ≤ vesting.totalAmount := by omega
  have books := books_claimed accounted.books hit
    { vesting with claimed := vesting.claimed + payout } rfl rfl pos within rfl
  have owed : other.allocated - claimed - other.expired =
      other.allocated - other.claimed - other.expired - payout := by omega
  have exactSum : i128.saturatingAdd vesting.claimed payout = vesting.claimed + payout :=
    i128.clamp_of_holds paidHeld
  refine ⟨_, advance_saved accounted (?_ : Books _ id _ _ _) (Or.inl isOpen) rfl exact pos.le
    (le_refl _) accounted.available accounted.allocated ?_ fun _ _ _ => rfl⟩
  · simp only [exactSum]
    exact owed ▸ books
  · simp [RewardCampaign.refund, isOpen]

theorem closeCampaign_advances : wlp (closeCampaign now id)
      (fun refund after => Advances id campaigns after 0 refund fun _ _ => 0) campaigns := by
  simp only [closeCampaign, save, wlp_rules, wp_loadOpen]
  intro campaign has isOpen outstanding computed settled refund available fits other accounted
  obtain rfl : other = campaign := mem_unique accounted.has has
  rw [accounted.available_eq, Option.some.injEq] at available
  rw [accounted.outstanding_eq, Option.some.injEq] at computed
  refine ⟨_, advance_saved accounted (accounted.books.congr rfl rfl rfl) (Or.inr ⟨rfl, ?_, ?_⟩) rfl
    (by simp) (le_refl 0) (le_refl _) accounted.available accounted.allocated ?_ fun _ _ _ => rfl⟩
  · simp only
    omega
  · exact settled.2
  · simp [RewardCampaign.refund, isOpen, available]

theorem exec_advances (input : CampaignInput) (campaigns : Campaigns) {id : Nat}
    (named : input.call.campaignId = id) : wlp (input.exec claimedByAccount)
      (fun amount after => Advances id campaigns after
        (if input.call.refunds then 0 else amount) (if input.call.refunds then amount else 0)
        fun status allocationId => input.call.settles status allocationId) campaigns := by
  obtain ⟨now, call⟩ := input
  subst named
  cases call with
  | distribute id total recipients =>
    simp only [CampaignInput.exec, wp_rules]
    exact distribute_advances now total recipients
  | claim id recipient allocationIds =>
    exact claim_advances claimedByAccount now recipient allocationIds
  | expireAllocations id allocationIds =>
    simp only [CampaignInput.exec, wp_rules]
    exact expireAllocations_advances now allocationIds
  | createVestingAllocation id recipient totalAmount start cliffSecs durationSecs =>
    simp only [CampaignInput.exec, wp_rules]
    exact createVestingAllocation_advances recipient totalAmount start cliffSecs durationSecs
  | claimVesting id vestingId recipient => exact claimVesting_advances now vestingId recipient
  | closeCampaign id => exact closeCampaign_advances now

/-- Every step advances every campaign, by what it paid, refunded and settled of it. -/
theorem step_advances (input : CampaignInput) (pre : Campaigns) (id : Nat)
    (taken : Transition Campaigns CampaignInput)
    (step : taken = ⟨pre, input, campaignStep claimedByAccount input pre⟩) :
    Advances id pre (campaignStep claimedByAccount input pre)
      (paid claimedByAccount id taken) (refunded claimedByAccount id taken)
      fun status allocationId => settlements claimedByAccount id taken status allocationId := by
  subst step
  simp only [paid, refunded, settlements, amountReturned, campaignStep]
  by_cases accepts : Accepts (input.exec claimedByAccount) pre
  · obtain ⟨value, gave⟩ := gave_of_accepts accepts
    by_cases named : input.call.campaignId = id
    · simp only [valueOr_of_ok gave, named, accepts, and_self, if_true]
      exact wp_ok (exec_advances claimedByAccount input pre named) gave
    · simp only [named, false_and, if_false, ite_self]
      exact (wp_ok (exec_untouched claimedByAccount input named) gave).advances
  · simp only [valueOr_of_rejected accepts, invoke_of_rejected accepts, accepts, and_false,
      if_false, ite_self]
    exact (Untouched.refl id pre).advances

end Steps

/-- A campaign as it is opened: nothing allocated, claimed or expired, and nothing
stored under its id. -/
structure Opened (campaigns : Campaigns) (id : Nat) (promised : Int) (campaign : RewardCampaign) :
    Prop where
  has : campaigns.campaign.lookup id = some campaign
  status : campaign.status = .open
  budget : campaign.budget = promised
  held : 0 ≤ promised ∧ i128.Holds promised
  totals : campaign.allocated = 0 ∧ campaign.claimed = 0 ∧ campaign.expired = 0
  counters : campaign.pendingAllocations = 0 ∧ campaign.nextAllocationId = 0 ∧
    nextVestingId campaigns id = 0
  unallocated : ∀ allocationId, campaigns.allocation.lookup (id, allocationId) = none
  unvested : ∀ vestingId, campaigns.vesting.lookup (id, vestingId) = none

section Law

variable {campaigns : Campaigns} {id : Nat} {budget : Int} {campaign : RewardCampaign}

theorem Opened.accounted (opened : Opened campaigns id budget campaign) :
    CampaignAccounted campaigns id campaign := by
  obtain ⟨allocated, claimed, expired⟩ := opened.totals
  obtain ⟨pending, nextId, counter⟩ := opened.counters
  have sameBudget := opened.budget
  obtain ⟨nonneg, held⟩ := opened.held
  have tallies : ∀ weight : CampaignAllocation → Int,
      Table.tally weight campaigns.allocation id = 0 :=
    fun _ => tally_absent opened.unallocated
  have vestingTallies : ∀ weight : VestingAllocation → Int,
      Table.tally weight campaigns.vesting id = 0 :=
    fun _ => tally_absent opened.unvested
  refine ⟨opened.has, ⟨?_, ?_, ?_, ?_, fun key _ => opened.unallocated key,
    fun key _ => opened.unvested key, ?_, ?_⟩, Or.inl opened.status, by omega, by omega, by omega,
    sameBudget ▸ held, ?_⟩
  · simp [pendingAmount, unclaimedVesting, tallies, vestingTallies, allocated, claimed, expired]
  · simp [liveRecords, pendingCount, unfinishedVestings, tallies, vestingTallies, pending]
  · simp [allocationsCreated, tallies, nextId]
  · simp [vestingsCreated, vestingTallies, counter]
  · intro key allocation hit
    rw [opened.unallocated key] at hit
    cases hit
  · intro key vesting hit
    rw [opened.unvested key] at hit
    cases hit
  · rw [allocated]
    decide

theorem settledAs_stored {allocationId : Nat} {allocation : CampaignAllocation}
    (hit : campaigns.allocation.lookup (id, allocationId) = some allocation) :
    settledAs campaigns id .claimed allocationId + settledAs campaigns id .expired allocationId =
      if allocation.status = .pending then 0 else 1 := by
  simp only [settledAs, hit, map_some]
  cases allocation.status <;> decide

/-- What holds of a campaign after the transitions taken so far: it is accounted for,
and its totals and settled allocations are what those transitions paid, refunded and
settled. -/
def CampaignHistory (claimedByAccount : ClaimedReader) (id : Nat) (budget : Int)
    (past : List (Transition Campaigns CampaignInput)) (campaigns : Campaigns) : Prop :=
  ∃ campaign, CampaignAccounted campaigns id campaign ∧ campaign.budget = budget ∧
    campaign.claimed = (past.map (paid claimedByAccount id)).sum ∧
    campaign.refund = (past.map (refunded claimedByAccount id)).sum ∧
    ∀ status allocationId, status ≠ .pending →
      settledAs campaigns id status allocationId =
        (past.map fun taken => settlements claimedByAccount id taken status allocationId).sum

/-- Every reached state has its history. The induction is on the run, and each step
advances the campaign by what its transition adds to the sums. -/
theorem reached_history (claimedByAccount : ClaimedReader)
    (opened : Opened campaigns id budget campaign) (inputs : List CampaignInput)
    (fits : ∀ taken ∈ trace (campaignStep claimedByAccount) campaigns inputs,
      Fits taken.after id) : CampaignHistory claimedByAccount id budget
      (trace (campaignStep claimedByAccount) campaigns inputs)
      (final (campaignStep claimedByAccount) campaigns inputs) := by
  refine history_invariant (campaignStep claimedByAccount)
    (CampaignHistory claimedByAccount id budget)
    (fun pre input => Fits (campaignStep claimedByAccount input pre) id) ?_ campaigns ?_
    inputs fun taken mem => ?_
  · rintro past pre input room ⟨current, accounted, promised, paidSoFar, refundedSoFar, settled⟩
    obtain ⟨next, advance⟩ :=
      step_advances claimedByAccount input pre id _ rfl room current accounted
    have paidNow := advance.paid
    have refundedNow := advance.refunded
    refine ⟨next, advance.accounted, advance.budget.trans promised, ?_, ?_,
      fun status key final => ?_⟩
    · simp only [List.map_append, List.map_cons, List.map_nil, List.sum_append, List.sum_cons,
        List.sum_nil]
      omega
    · simp only [List.map_append, List.map_cons, List.map_nil, List.sum_append, List.sum_cons,
        List.sum_nil]
      omega
    · have settledNow := advance.settled status key final
      have settledBefore := settled status key final
      simp only [List.map_append, List.map_cons, List.map_nil, List.sum_append, List.sum_cons,
        List.sum_nil]
      omega
  · refine ⟨campaign, opened.accounted, opened.budget, opened.totals.2.1, ?_, fun _ key _ => ?_⟩
    · simp [RewardCampaign.refund, opened.status]
    · simp [settledAs, opened.unallocated key]
  · exact transition_is_step (campaignStep claimedByAccount) campaigns inputs taken mem ▸
      fits taken mem

/-- The accounts of a campaign: its totals split the budget, what it owes and counts is
what its records hold, each allocation was settled once unless it is pending, and a
closed campaign settled everything and paid and refunded its budget. -/
def AccountsFor (claimedByAccount : ClaimedReader) (id : Nat) (budget : Int)
    (past : List (Transition Campaigns CampaignInput)) (reached : Campaigns) : Prop :=
  ∃ current outstanding available, reached.campaign.lookup id = some current ∧
    current.outstanding = some outstanding ∧ current.available = some available ∧
    current.claimed + outstanding + available = budget ∧
    0 ≤ current.claimed ∧ 0 ≤ outstanding ∧ 0 ≤ available ∧
    outstanding = pendingAmount reached id + unclaimedVesting reached id ∧
    (current.pendingAllocations : Int) = liveRecords reached id ∧
    (∀ allocationId allocation, reached.allocation.lookup (id, allocationId) = some allocation →
        (past.map fun taken => settlements claimedByAccount id taken .claimed allocationId).sum +
          (past.map fun taken => settlements claimedByAccount id taken .expired allocationId).sum =
        if allocation.status = .pending then 0 else 1) ∧
    (current.status = .closed →
      (past.map (paid claimedByAccount id)).sum + (past.map (refunded claimedByAccount id)).sum =
          budget ∧
        ∀ allocationId allocation, reached.allocation.lookup (id, allocationId) = some allocation →
            allocation.status ≠ .pending)

/-- Along every run in which a campaign's records fit its counters, its accounts are
kept. -/
theorem campaign_accounting (claimedByAccount : ClaimedReader)
    (opened : Opened campaigns id budget campaign) (inputs : List CampaignInput)
    (fits : ∀ taken ∈ trace (campaignStep claimedByAccount) campaigns inputs,
      Fits taken.after id) : AccountsFor claimedByAccount id budget
      (trace (campaignStep claimedByAccount) campaigns inputs)
      (final (campaignStep claimedByAccount) campaigns inputs) := by
  generalize sameRun : final (campaignStep claimedByAccount) campaigns inputs = reached
  obtain ⟨current, accounted, promised, paidSoFar, refundedSoFar, settled⟩ :=
    sameRun ▸ reached_history claimedByAccount opened inputs fits
  have books := accounted.books
  have owed := books.owed
  refine ⟨current, _, _, accounted.has, accounted.outstanding_eq, accounted.available_eq,
    by omega, accounted.claimed, books.owed_nonneg, accounted.available, owed.symm,
    books.live.symm, fun key allocation hit => ?_, fun closed => ⟨?_, fun key allocation hit =>
      ?_⟩⟩
  · rw [← settled .claimed key (by decide), ← settled .expired key (by decide)]
    exact settledAs_stored hit
  · have settledUp : current.allocated - current.claimed - current.expired = 0 := by
      rcases accounted.status with stillOpen | ⟨_, zero, _⟩
      · rw [closed] at stillOpen
        cases stillOpen
      · exact zero
    rw [← paidSoFar, ← refundedSoFar, RewardCampaign.refund, if_pos closed]
    omega
  · intro pending
    have none : current.pendingAllocations = 0 := by
      rcases accounted.status with stillOpen | ⟨_, _, zero⟩
      · rw [closed] at stillOpen
        cases stillOpen
      · exact zero
    have counted : (if allocation.status = .pending then 1 else 0) ≤ pendingCount reached id :=
      le_tally (fun _ _ _ => by split <;> omega) hit
    have unfinished : 0 ≤ unfinishedVestings reached id :=
      tally_nonneg fun _ _ _ => by split <;> omega
    have live : liveRecords reached id = current.pendingAllocations := books.live
    rw [if_pos pending] at counted
    rw [liveRecords, none] at live
    omega

end Law

section UnitDistributions

/-- A campaign opened with the budget, before its first allocation. -/
def openedCampaign (budget : Int) : RewardCampaign where
  funder := 1
  asset := 2
  budget
  allocated := 0
  claimed := 0
  expired := 0
  pendingAllocations := 0
  nextAllocationId := 0
  claimWindowSecs := 86400
  status := .open
  createdAt := 0
  closedAt := 0
  funded := budget
  epochId := 1
  perAccountClaimCap := 0

/-- Only that campaign, under the id zero. -/
def openedAlone (budget : Int) : Campaigns :=
  ⟨(∅ : Table Nat RewardCampaign).insert 0 (openedCampaign budget), ∅, ∅, ∅, ∅⟩

theorem openedAlone_opened {budget : Int} (nonneg : 0 ≤ budget) (held : i128.Holds budget) :
    Opened (openedAlone budget) 0 budget (openedCampaign budget) :=
  ⟨AList.lookup_insert _, rfl, rfl, ⟨nonneg, held⟩, ⟨rfl, rfl, rfl⟩, ⟨rfl, rfl, rfl⟩,
    fun _ => rfl, fun _ => rfl⟩

/-- A run that distributes, claims, expires, vests and closes keeps the accounts. -/
theorem campaign_accounting_closed : AccountsFor (fun _ _ _ => 0) 0 100
      (trace (campaignStep fun _ _ _ => 0) (openedAlone 100)
        [⟨10, .distribute 0 50 [(9, 2), (7, 1)]⟩, ⟨20, .claim 0 7 [0]⟩,
          ⟨30, .createVestingAllocation 0 8 40 30 0 100⟩, ⟨80, .claimVesting 0 0 8⟩,
          ⟨90000, .expireAllocations 0 [1]⟩, ⟨90000, .claimVesting 0 0 8⟩,
          ⟨90001, .closeCampaign 0⟩]) (final (campaignStep fun _ _ _ => 0) (openedAlone 100)
        [⟨10, .distribute 0 50 [(9, 2), (7, 1)]⟩, ⟨20, .claim 0 7 [0]⟩,
          ⟨30, .createVestingAllocation 0 8 40 30 0 100⟩, ⟨80, .claimVesting 0 0 8⟩,
          ⟨90000, .expireAllocations 0 [1]⟩, ⟨90000, .claimVesting 0 0 8⟩,
          ⟨90001, .closeCampaign 0⟩]) :=
  campaign_accounting _ (openedAlone_opened (by decide) (by decide)) _ (by decide)

/-- One unit to one recipient. -/
def unitDistribution : CampaignInput := ⟨0, .distribute 0 1 [(5, 1)]⟩

/-- After a number of single units: that many pending allocations, and the count that
the campaign keeps of them. -/
structure UnitsAllocated (budget : Int) (units : Nat) (campaigns : Campaigns)
    (campaign : RewardCampaign) : Prop where
  has : campaigns.campaign.lookup 0 = some campaign
  status : campaign.status = .open
  totals : campaign.budget = budget ∧ campaign.allocated = units ∧ campaign.expired = 0
  counters : campaign.nextAllocationId = units ∧ campaign.pendingAllocations = min units u32Max
  live : liveRecords campaigns 0 = units
  fresh : ∀ key, units ≤ key → campaigns.allocation.lookup (0, key) = none

variable {campaigns : Campaigns}

theorem liveRecords_withAllocation {id allocationId : Nat}
    (absent : campaigns.allocation.lookup (id, allocationId) = none)
    {allocation : CampaignAllocation} (pending : allocation.status = .pending) :
    liveRecords (campaigns.withAllocation id allocationId allocation) id =
      liveRecords campaigns id + 1 := by
  have tallied : pendingCount (campaigns.withAllocation id allocationId allocation) id =
      pendingCount campaigns id + if allocation.status = .pending then 1 else 0 :=
    tally_insert_new absent allocation
  have same : unfinishedVestings (campaigns.withAllocation id allocationId allocation) id =
    unfinishedVestings campaigns id := rfl
  rw [liveRecords, tallied, if_pos pending, same, liveRecords]
  omega

theorem unitDistribution_allocates {budget : Int} {units : Nat} {campaign : RewardCampaign}
    (known : UnitsAllocated budget units campaigns campaign) (funded : (units : Int) < budget)
    (held : budget ≤ i128.high) (ids : units + 1 ≤ u64Max) :
    ∃ next, UnitsAllocated budget (units + 1)
      (campaignStep (fun _ _ _ => 0) unitDistribution campaigns) next := by
  obtain ⟨promised, allocated, expired⟩ := known.totals
  obtain ⟨nextId, pending⟩ := known.counters
  have available : campaign.available = some (budget - units) := by
    have within : i128.Holds (budget - units) := by
      simp only [Range.Holds, i128_low, i128_high] at held ⊢
      omega
    simp [RewardCampaign.available, checkedSub, checkedAdd, checked, promised,
      allocated, expired, within]
  have split : splitByWeight 1 [(5, 1)] = .ok [(5, 1)] := rfl
  have added : add (units : Int) 1 = .ok (units + 1) := by
    have within : i128.Holds ((units : Int) + 1) := by
      simp only [Range.Holds, i128_low, i128_high] at held ⊢
      omega
    exact add_of_holds within
  have enough : (1 : Int) ≤ budget - units := by omega
  have absent := known.fresh units (le_refl units)
  have live := known.live
  have specified : wp (unitDistribution.exec fun _ _ _ => 0)
      (fun _ after => ∃ next, UnitsAllocated budget (units + 1) after next) (fun _ _ => False)
      campaigns := by
    simp [CampaignInput.exec, unitDistribution, distribute, loadOpen, load, save, known.has,
      known.status, available, split, allocateShares, added, allocated, enough, nextId]
    refine ⟨_, ⟨AList.lookup_insert _, rfl, ⟨promised, by simp, expired⟩, ⟨?_, ?_⟩, ?_,
      fun key beyond => ?_⟩⟩
    · exact saturating_count_exact ids
    · rw [pending]
      exact saturating_count_min u32Max units
    · rw [Nat.cast_succ, ← live]
      exact liveRecords_withAllocation absent rfl
    · have other : (0, key) ≠ (0, units) := by
        simp only [ne_eq, Prod.mk.injEq, true_and]
        omega
      simp only [Campaigns.withCampaign, Campaigns.withAllocation, lookup_insert, if_neg other]
      exact known.fresh key (by omega)
  exact invoke_rule (wp_mono specified (fun _ _ holds => holds) fun _ _ never => never.elim)

/-- After any number of single units within the budget and the ids. -/
theorem unitDistributions_allocate {budget : Int} {units : Nat} (funded : (units : Int) ≤ budget)
    (held : budget ≤ i128.high) (ids : units ≤ u64Max) : ∃ campaign, UnitsAllocated budget units
      (final (campaignStep fun _ _ _ => 0) (openedAlone budget)
        (List.replicate units unitDistribution)) campaign := by
  induction units with
  | zero =>
    exact ⟨openedCampaign budget, AList.lookup_insert _, rfl, ⟨rfl, rfl, rfl⟩, ⟨rfl, rfl⟩, rfl,
      fun _ _ => rfl⟩
  | succ units ih =>
    obtain ⟨campaign, known⟩ := ih (by omega) (by omega)
    rw [List.replicate_succ', final_append]
    exact unitDistribution_allocates known (by omega) held ids

/-- After one unit more than the counter holds, the campaign's count of its pending
allocations is one short. -/
theorem pending_count_saturates :
    ¬ ∀ (claimedByAccount : ClaimedReader) (campaigns : Campaigns) (id : Nat) (budget : Int)
      (campaign : RewardCampaign), Opened campaigns id budget campaign →
      ∀ inputs : List CampaignInput, AccountsFor claimedByAccount id budget
          (trace (campaignStep claimedByAccount) campaigns inputs)
          (final (campaignStep claimedByAccount) campaigns inputs) := by
  intro every
  have funded : i128.Holds ((u32Max + 1 : Nat) : Int) := by decide
  obtain ⟨campaign, known⟩ := unitDistributions_allocate (le_refl ((u32Max + 1 : Nat) : Int))
    funded.2 (by decide)
  obtain ⟨current, _, _, has, _, _, _, _, _, _, _, counted, _, _⟩ :=
    every (fun _ _ _ => 0) (openedAlone (u32Max + 1 : Nat)) 0 (u32Max + 1 : Nat) _
      (openedAlone_opened (by decide) funded) (List.replicate (u32Max + 1) unitDistribution)
  cases mem_unique known.has has
  rw [known.live, known.counters.2] at counted
  generalize u32Max = largest at counted
  omega

end UnitDistributions

end StellarSwipe.StakeVault
