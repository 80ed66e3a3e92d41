import StellarSwipe.StakeVault.CampaignBooks

/-!
# The claim cap of a campaign

A campaign may bound what one account receives from it.
-/

namespace StellarSwipe.StakeVault

open Program FixedWidth Runs Table

/-- The account that an operation pays, if it pays one. -/
def CampaignCall.recipient : CampaignCall → Option Address
  | .claim _ recipient _ => some recipient
  | .claimVesting _ _ recipient => some recipient
  | _ => none

def CampaignCall.vestsTo (id : Nat) (account : Address) : CampaignCall → Bool
  | .claimVesting owner _ recipient => owner = id ∧ recipient = account
  | _ => false

def paidTo (claimedByAccount : ClaimedReader) (id : Nat) (account : Address)
    (taken : Transition Campaigns CampaignInput) : Int :=
  if taken.input.call.recipient = some account then amountReturned claimedByAccount id taken else 0

/-- The reader returns what was recorded last, and nothing before that. -/
def ReadsRecord (claimedByAccount : ClaimedReader) : Prop :=
  ∀ campaigns id account,
    claimedByAccount campaigns id account = (campaigns.claimedByAccount.lookup (id, account)).getD 0

/-- A stored campaign's cap and what is recorded as claimed by one account. -/
structure CapRecord (campaigns : Campaigns) (id : Nat) (account : Address) (cap claimed : Int) :
    Prop where
  capped : (campaigns.campaign.lookup id).map RewardCampaign.perAccountClaimCap = some cap
  recorded : (campaigns.claimedByAccount.lookup (id, account)).getD 0 = claimed

namespace CapRecord

variable {campaigns after : Campaigns} {id owner : Nat} {account : Address} {cap claimed : Int}

theorem congr (held : CapRecord campaigns id account cap claimed)
    (campaign : after.campaign = campaigns.campaign)
    (claims : after.claimedByAccount = campaigns.claimedByAccount) :
    CapRecord after id account cap claimed :=
  ⟨campaign ▸ held.capped, claims ▸ held.recorded⟩

theorem withAllocation (held : CapRecord campaigns id account cap claimed) (allocationId : Nat)
    (allocation : CampaignAllocation) :
    CapRecord (campaigns.withAllocation owner allocationId allocation) id account cap claimed :=
  held.congr rfl rfl

theorem settled (held : CapRecord campaigns id account cap claimed) (status : AllocationStatus)
    (entries : List (Nat × CampaignAllocation)) :
    CapRecord (settle status owner entries campaigns) id account cap claimed := by
  induction entries generalizing campaigns with
  | nil => exact held
  | cons entry rest ih =>
    exact ih (held.withAllocation entry.1 _)

theorem saved {campaign updated : RewardCampaign} {total : Int}
    (pre : CapRecord campaigns id account cap claimed)
    (hit : campaigns.campaign.lookup owner = some campaign)
    (same : updated.perAccountClaimCap = campaign.perAccountClaimCap)
    (held : CapRecord after id account cap total) :
    CapRecord (after.withCampaign owner updated) id account cap total := by
  refine ⟨?_, held.recorded⟩
  simp only [Campaigns.withCampaign, lookup_insert]
  split
  next named =>
    subst named
    have capped := pre.capped
    rw [hit] at capped
    simpa [same] using capped
  · exact held.capped

theorem cap_eq {campaign : RewardCampaign} (held : CapRecord campaigns id account cap claimed)
    (hit : campaigns.campaign.lookup id = some campaign) : campaign.perAccountClaimCap = cap := by
  have capped := held.capped
  rw [hit] at capped
  exact Option.some.inj capped

end CapRecord

section Step

variable {claimedByAccount : ClaimedReader} {campaigns : Campaigns} {id : Nat} {account : Address}
  {cap claimed : Int}

def CampaignCall.pays (call : CampaignCall) (id : Nat) (account : Address) (amount : Int) : Int :=
  if call.recipient = some account ∧ call.campaignId = id then amount else 0

theorem capped_of_unpaid {call : CampaignCall} {amount : Int} {after : Campaigns}
    (unpaid : call.pays id account amount = 0) (within : claimed ≤ cap)
    (held : CapRecord after id account cap claimed) :
    CapRecord after id account cap (claimed + call.pays id account amount) ∧
      claimed + call.pays id account amount ≤ cap := by
  rw [unpaid, add_zero]
  exact ⟨held, within⟩

/-- An operation that claims no vesting for the account adds what it pays the account
to the record and does not take it over the cap. -/
theorem exec_capped (reads : ReadsRecord claimedByAccount) (input : CampaignInput)
    (noVesting : input.call.vestsTo id account = false) (pos : 0 < cap)
    (within : claimed ≤ cap) (held : CapRecord campaigns id account cap claimed) :
    wlp (input.exec claimedByAccount) (fun amount after =>
        CapRecord after id account cap (claimed + input.call.pays id account amount) ∧
          claimed + input.call.pays id account amount ≤ cap) campaigns := by
  obtain ⟨now, call⟩ := input
  cases call with
  | distribute owner total recipients =>
    simp only [CampaignInput.exec, distribute, save, wlp_rules, wp_loadOpen]
    intro campaign hit _ _ available _ _ shares split
    refine wp_then (allocateShares_rule now owner
      (fun current after _ => current.perAccountClaimCap = campaign.perAccountClaimCap ∧
        CapRecord after id account cap claimed) ?_ shares (splitByWeight_ok split).2.2
      campaign 0 ⟨rfl, held⟩) ?_
    · rintro current reached _ _ _ _ _ ⟨same, kept⟩
      exact ⟨same, kept.withAllocation _ _⟩
    · rintro result after ⟨same, kept⟩ allocated _
      exact capped_of_unpaid (by simp [CampaignCall.pays]) within (held.saved hit same kept)
  | claim owner recipient allocationIds =>
    simp only [CampaignInput.exec, claim, checkBatch, save, wlp_rules, wp_loadOpen]
    intro campaign hit _ _ gathered _ newTotal added room newClaimed _ _
    have settled : CapRecord (settle .claimed owner gathered.1 campaigns) id account cap claimed :=
      held.settled .claimed gathered.1
    by_cases named : recipient = account ∧ owner = id
    · obtain ⟨rfl, rfl⟩ := named
      have total := (add_ok added).2
      rw [reads, held.recorded] at total
      have capped := held.cap_eq hit
      have recorded : CapRecord ((settle .claimed owner gathered.1 campaigns).withClaimedByAccount
          owner recipient newTotal) owner recipient cap newTotal := by
        refine ⟨settled.capped, ?_⟩
        simp [Campaigns.withClaimedByAccount]
      simp only [CampaignCall.pays, CampaignCall.recipient, CampaignCall.campaignId, and_self,
        if_true, ← total]
      refine ⟨held.saved hit rfl recorded, ?_⟩
      omega
    · have unpaid : CampaignCall.pays (.claim owner recipient allocationIds) id account
          gathered.2 = 0 := by
        simpa [CampaignCall.pays, CampaignCall.recipient, CampaignCall.campaignId] using
          fun same other => absurd ⟨same, other⟩ named
      have other : (id, account) ≠ (owner, recipient) := by
        rintro same
        cases same
        exact named ⟨rfl, rfl⟩
      have kept : CapRecord ((settle .claimed owner gathered.1 campaigns).withClaimedByAccount
          owner recipient newTotal) id account cap claimed := by
        refine ⟨settled.capped, ?_⟩
        simp only [Campaigns.withClaimedByAccount, lookup_insert, if_neg other]
        exact settled.recorded
      exact capped_of_unpaid unpaid within (held.saved hit rfl kept)
  | expireAllocations owner allocationIds =>
    simp only [CampaignInput.exec, expireAllocations, checkBatch, save, wlp_rules, wp_loadOpen]
    intro campaign hit _ _ gathered _ expired _ _
    exact capped_of_unpaid (by simp [CampaignCall.pays]) within
      (held.saved hit rfl (held.settled .expired gathered.1))
  | createVestingAllocation owner recipient totalAmount start cliffSecs durationSecs =>
    simp only [CampaignInput.exec, createVestingAllocation, save, wlp_rules, wp_loadOpen]
    intro campaign hit _ _ _ available _ _ allocated _
    exact capped_of_unpaid (by simp [CampaignCall.pays, CampaignCall.recipient]) within
      (held.saved hit rfl (held.congr rfl rfl))
  | claimVesting owner vestingId recipient =>
    simp only [CampaignInput.exec, claimVesting, save, wlp_rules, wp_loadOpen]
    intro campaign hit _ vesting _ _ payout _ _ paid _ newClaimed _
    have unpaid : CampaignCall.pays (.claimVesting owner vestingId recipient) id account
        payout = 0 := by
      simp only [CampaignCall.vestsTo, decide_eq_false_iff_not, not_and] at noVesting
      simpa [CampaignCall.pays, CampaignCall.recipient, CampaignCall.campaignId] using
        fun same other => absurd same (noVesting other)
    exact capped_of_unpaid unpaid within (held.saved hit rfl (held.congr rfl rfl))
  | closeCampaign owner =>
    simp only [CampaignInput.exec, closeCampaign, save, wlp_rules, wp_loadOpen]
    intro campaign hit _ outstanding _ _ refund _
    exact capped_of_unpaid (by simp [CampaignCall.pays, CampaignCall.recipient]) within
      (held.saved hit rfl held)

/-- The same of a step of the state machine and the transition that it is. -/
theorem step_capped (reads : ReadsRecord claimedByAccount) (input : CampaignInput)
    (noVesting : input.call.vestsTo id account = false) (pos : 0 < cap) (within : claimed ≤ cap)
    (held : CapRecord campaigns id account cap claimed) {taken : Transition Campaigns CampaignInput}
    (same : taken = ⟨campaigns, input, campaignStep claimedByAccount input campaigns⟩) :
    CapRecord taken.after id account cap (claimed + paidTo claimedByAccount id account taken) ∧
      claimed + paidTo claimedByAccount id account taken ≤ cap := by
  subst same
  by_cases returns : Accepts (input.exec claimedByAccount) campaigns
  · obtain ⟨amount, gave⟩ := gave_of_accepts returns
    have specified := wp_ok (exec_capped reads input noVesting pos within held) gave
    have paid : paidTo claimedByAccount id account
        ⟨campaigns, input, campaignStep claimedByAccount input campaigns⟩ =
        input.call.pays id account amount := by
      simp only [paidTo, amountReturned, CampaignCall.pays, valueOr_of_ok gave]
      split <;> split <;> simp_all
    rw [paid]
    exact specified
  · have paid : paidTo claimedByAccount id account
        ⟨campaigns, input, campaignStep claimedByAccount input campaigns⟩ = 0 := by
      simp only [paidTo, amountReturned, valueOr_of_rejected returns]
      split <;> simp
    have unchanged : campaignStep claimedByAccount input campaigns = campaigns :=
      invoke_of_rejected returns
    rw [paid, add_zero, unchanged]
    exact ⟨held, within⟩

/-- Along every run in which the account claims no vesting of a capped campaign, the
account receives at most the cap from it. -/
theorem claims_capped (reads : ReadsRecord claimedByAccount)
    {campaign : RewardCampaign} (has : campaigns.campaign.lookup id = some campaign)
    (pos : 0 < campaign.perAccountClaimCap)
    (unclaimed : campaigns.claimedByAccount.lookup (id, account) = none)
    (inputs : List CampaignInput)
    (noVesting : ∀ input ∈ inputs, input.call.vestsTo id account = false) :
    ((trace (campaignStep claimedByAccount) campaigns inputs).map
      (paidTo claimedByAccount id account)).sum ≤ campaign.perAccountClaimCap := by
  have guarded : ∀ taken ∈ trace (campaignStep claimedByAccount) campaigns inputs,
      taken.input.call.vestsTo id account = false := by
    intro taken mem
    exact noVesting _ (input_mem (campaignStep claimedByAccount) mem)
  refine (history_invariant (campaignStep claimedByAccount) (fun past reached =>
      CapRecord reached id account campaign.perAccountClaimCap
        (past.map (paidTo claimedByAccount id account)).sum ∧
      (past.map (paidTo claimedByAccount id account)).sum ≤ campaign.perAccountClaimCap)
    (fun _ input => input.call.vestsTo id account = false) ?_ campaigns ?_ inputs guarded).2
  · rintro past pre input allowed ⟨held, within⟩
    simpa using step_capped reads input allowed pos within held rfl
  · refine ⟨⟨by simp [has], by simp [unclaimed]⟩, ?_⟩
    simpa using pos.le

end Step

section CappedAtFive

def recordReader : ClaimedReader := fun campaigns id account =>
  (campaigns.claimedByAccount.lookup (id, account)).getD 0

/-- An open campaign with a cap of five for each account. -/
def fiveForEach : RewardCampaign where
  funder := 1
  asset := 2
  budget := 100
  allocated := 0
  claimed := 0
  expired := 0
  pendingAllocations := 0
  nextAllocationId := 0
  claimWindowSecs := 86400
  status := .open
  createdAt := 0
  closedAt := 0
  funded := 100
  epochId := 1
  perAccountClaimCap := 5

/-- Only that campaign, under the id zero. -/
def cappedAtFive : Campaigns :=
  ⟨(∅ : Table Nat RewardCampaign).insert 0 fiveForEach, ∅, ∅, ∅, ∅⟩

theorem recordReader_reads : ReadsRecord recordReader := fun _ _ _ => rfl

theorem cappedAtFive_stored : cappedAtFive.campaign.lookup 0 = some fiveForEach :=
  AList.lookup_insert _

/-- The second claim of the account would take it over the cap. -/
def splitClaims : List CampaignInput :=
  [⟨0, .distribute 0 3 [(7, 1)]⟩, ⟨0, .distribute 0 4 [(7, 1)]⟩, ⟨1, .claim 0 7 [0]⟩,
    ⟨2, .claim 0 7 [1]⟩]

theorem splitClaims_capped : ((trace (campaignStep recordReader) cappedAtFive splitClaims).map
      (paidTo recordReader 0 7)).sum ≤ 5 :=
  claims_capped recordReader_reads cappedAtFive_stored (by decide) rfl splitClaims (by decide)

/-- A schedule of ten, claimed once it has vested, pays twice the cap. -/
theorem vesting_escapes_cap : ¬ ∀ (claimedByAccount : ClaimedReader), ReadsRecord claimedByAccount →
      ∀ (campaigns : Campaigns) (id : Nat) (account : Address) (campaign : RewardCampaign),
        campaigns.campaign.lookup id = some campaign → 0 < campaign.perAccountClaimCap →
        campaigns.claimedByAccount.lookup (id, account) = none → ∀ inputs : List CampaignInput,
          ((trace (campaignStep claimedByAccount) campaigns inputs).map
            (paidTo claimedByAccount id account)).sum ≤ campaign.perAccountClaimCap := by
  intro every
  have bounded := every recordReader recordReader_reads cappedAtFive 0 7 fiveForEach
    cappedAtFive_stored (by decide) rfl
      [⟨0, .createVestingAllocation 0 7 10 0 0 100⟩, ⟨100, .claimVesting 0 0 7⟩]
  exact absurd bounded (by decide)

end CappedAtFive

end StellarSwipe.StakeVault
