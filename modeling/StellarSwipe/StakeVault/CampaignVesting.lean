import StellarSwipe.StakeVault.CampaignAccounting

/-!
# The release of a vesting schedule

The curve of a schedule is zero before its cliff, never falls and ends at the whole grant.
-/

namespace StellarSwipe.StakeVault

open Program FixedWidth Runs Table VestingAllocation

/-- What the claims of a schedule pay at some times, one after the other. -/
def claimsPaid (id vestingId : Nat) (recipient : Address) : List Nat → Campaigns → Int
  | [], _ => 0
  | now :: rest, campaigns =>
    valueOr 0 (claimVesting now id vestingId recipient) campaigns +
      claimsPaid id vestingId recipient rest
        (invoke (claimVesting now id vestingId recipient) campaigns)

/-- An open campaign that can pay what a schedule has not paid. -/
structure Releasing (campaigns : Campaigns) (id vestingId : Nat) (vesting : VestingAllocation)
    (campaign : RewardCampaign) : Prop where
  has : campaigns.campaign.lookup id = some campaign
  status : campaign.status = .open
  granted : campaigns.vesting.lookup (id, vestingId) = some vesting
  held : 0 ≤ vesting.claimed ∧ vesting.claimed ≤ vesting.totalAmount ∧
    vesting.totalAmount ≤ i128.high
  room : 0 ≤ campaign.claimed ∧
    campaign.claimed + (vesting.totalAmount - vesting.claimed) ≤ i128.high

section Releases

variable {campaigns : Campaigns} {id vestingId : Nat} {vesting : VestingAllocation}
  {campaign : RewardCampaign}

def VestingAllocation.released (vesting : VestingAllocation) (now : Nat) : VestingAllocation :=
  { vesting with claimed := vestedAmount now vesting }

theorem Releasing.claim (releasing : Releasing campaigns id vestingId vesting campaign) {now : Nat}
    (more : vesting.claimed ≤ vestedAmount now vesting) :
    valueOr 0 (claimVesting now id vestingId vesting.recipient) campaigns =
      vestedAmount now vesting - vesting.claimed ∧
    ∃ next, Releasing (invoke (claimVesting now id vestingId vesting.recipient) campaigns) id
      vestingId (vesting.released now) next := by
  obtain ⟨has, status, granted, ⟨nonneg, within, bounded⟩, claimed, room⟩ := releasing
  obtain ⟨_, vested⟩ := vestedAmount_bounds now (by omega) bounded
  by_cases nothing : vestedAmount now vesting = vesting.claimed
  · have refused : ¬ Accepts (claimVesting now id vestingId vesting.recipient) campaigns := by
      rw [accepts_iff_wp]
      simp [claimVesting, loadOpen, load, has, granted, nothing, Range.checkedSub,
        Range.checked, save]
    have same : vesting.released now = vesting := by rw [released, nothing]
    rw [valueOr_of_rejected refused, invoke_of_rejected refused, nothing, same, Int.sub_self]
    exact ⟨rfl, campaign, has, status, granted, ⟨nonneg, within, bounded⟩, claimed, room⟩
  · have subtracted : i128.checkedSub (vestedAmount now vesting) vesting.claimed =
        some (vestedAmount now vesting - vesting.claimed) :=
      (i128.checked_eq_some _ _).mpr ⟨⟨by simp only [i128_low]; omega, by omega⟩, rfl⟩
    have paid : add vesting.claimed (vestedAmount now vesting - vesting.claimed) =
        .ok (vestedAmount now vesting) := by
      rw [add_of_holds ⟨by simp only [i128_low]; omega, by omega⟩, add_sub_cancel]
    have counted : add campaign.claimed (vestedAmount now vesting - vesting.claimed) = _ :=
      add_of_holds ⟨by simp only [i128_low]; omega, by omega⟩
    have ran : wp (claimVesting now id vestingId vesting.recipient) (fun amount after =>
        amount = vestedAmount now vesting - vesting.claimed ∧
        ∃ next, Releasing after id vestingId (vesting.released now) next) (fun _ _ => False)
        campaigns := by
      simp [claimVesting, loadOpen, load, save, has, status, granted, subtracted, paid, counted]
      exact ⟨fun _ => ⟨_, AList.lookup_insert _, rfl, AList.lookup_insert _,
        ⟨by simp only [released]; omega, vested, bounded⟩, by simp only; omega,
        by simp only [released]; omega⟩, by omega⟩
    obtain ⟨amount, after, gave, rfl, next, kept⟩ := returns_of_wp ran
    rw [valueOr_of_ok gave, invoke_of_ok gave]
    exact ⟨rfl, next, kept⟩

/-- Claims at increasing times pay what has vested at the last of them, less what was claimed
before. The induction is on the times. -/
theorem Releasing.claims (releasing : Releasing campaigns id vestingId vesting campaign)
    {times : List Nat} (ordered : times.Pairwise (· ≤ ·))
    (due : ∀ now ∈ times, vesting.claimed ≤ vestedAmount now vesting) :
    claimsPaid id vestingId vesting.recipient times campaigns =
      (times.getLast?.map (vestedAmount · vesting)).getD vesting.claimed - vesting.claimed := by
  induction times generalizing campaigns vesting campaign with
  | nil => simp [claimsPaid]
  | cons now rest ih =>
    obtain ⟨later, orderedRest⟩ := List.pairwise_cons.mp ordered
    obtain ⟨paid, next, released⟩ := releasing.claim (due now List.mem_cons_self)
    obtain ⟨_, _, _, ⟨nonneg, within, bounded⟩, _⟩ := releasing
    have continued : claimsPaid id vestingId vesting.recipient rest
        (invoke (claimVesting now id vestingId vesting.recipient) campaigns) =
          (rest.getLast?.map (vestedAmount · vesting)).getD (vestedAmount now vesting) -
            vestedAmount now vesting :=
      ih released orderedRest fun last mem =>
        vestedAmount_mono (nonneg.trans within) bounded (later last mem)
    rw [claimsPaid, paid, continued, List.getLast?_cons]
    cases rest.getLast? <;> simp

/-- An accounted campaign can pay what its schedules have not paid. -/
theorem CampaignAccounted.releasing (accounted : CampaignAccounted campaigns id campaign)
    (isOpen : campaign.status = .open)
    (granted : campaigns.vesting.lookup (id, vestingId) = some vesting) :
    Releasing campaigns id vestingId vesting campaign := by
  obtain ⟨nonneg, within, _, bounded⟩ := accounted.books.grants vestingId vesting granted
  have unclaimed : vesting.totalAmount - vesting.claimed ≤ unclaimedVesting campaigns id :=
    le_tally (fun key other hit => by
      have bounds := accounted.books.grants key other hit
      omega) granted
  have pending : 0 ≤ pendingAmount campaigns id := tally_nonneg fun key allocation hit => by
    have pos := accounted.books.amounts key allocation hit
    split <;> omega
  have owed := accounted.books.owed
  have expired := accounted.expired
  have allocated := accounted.allocated
  exact ⟨accounted.has, isOpen, granted, ⟨nonneg, within, bounded⟩, accounted.claimed, by omega⟩

end Releases

/-- The curve of a schedule is zero before its cliff, never falls, stays within the grant and
reaches it at the end, and increasing claims of it pay what has vested at the last one. -/
theorem vesting_released {vesting : VestingAllocation}
    (granted : 0 ≤ vesting.totalAmount ∧ vesting.totalAmount ≤ i128.high)
    (schedule : vesting.cliffSecs ≤ vesting.durationSecs) :
    (∀ now, now < min (vesting.start + vesting.cliffSecs) u64Max → vestedAmount now vesting = 0) ∧
    (∀ now later, now ≤ later → vestedAmount now vesting ≤ vestedAmount later vesting) ∧
    (∀ now, vestedAmount now vesting ≤ vesting.totalAmount) ∧
    (∀ now, min (vesting.start + vesting.durationSecs) u64Max ≤ now →
      vestedAmount now vesting = vesting.totalAmount) ∧
    ∀ campaigns id vestingId campaign, CampaignAccounted campaigns id campaign →
      campaign.status = .open → campaigns.vesting.lookup (id, vestingId) = some vesting →
      vesting.claimed = 0 → ∀ times : List Nat, times.Pairwise (· ≤ ·) →
        claimsPaid id vestingId vesting.recipient times campaigns =
          (times.getLast?.map (vestedAmount · vesting)).getD 0 := by
  obtain ⟨nonneg, bounded⟩ := granted
  refine ⟨fun now pre => if_pos pre, fun _ _ => vestedAmount_mono nonneg bounded,
    fun now => (vestedAmount_bounds now nonneg bounded).2, fun now finished => ?_, ?_⟩
  · have past : ¬ now < satCount u64Max vesting.start vesting.cliffSecs := by
      simp only [satCount]
      omega
    exact (if_neg past).trans (if_pos finished)
  · intro campaigns id vestingId campaign accounted isOpen has unclaimed times ordered
    have paid := (accounted.releasing isOpen has).claims ordered fun now _ =>
      unclaimed ▸ (vestedAmount_bounds now nonneg bounded).1
    rwa [unclaimed, Int.sub_zero] at paid

/-- Forty units vest over a hundred seconds. -/
def fortyUnits : VestingAllocation := ⟨8, 40, 30, 20, 100, 0⟩

/-- Claims at half the time, at the same time again and at the end pay all of it. -/
theorem forty_units_released : ∃ campaigns,
    claimsPaid 0 0 8 [80, 80, 130] campaigns = vestedAmount 130 fortyUnits ∧
      vestedAmount 80 fortyUnits = 20 ∧ vestedAmount 130 fortyUnits = 40 := by
  obtain ⟨campaign, accounted, _⟩ := reached_history (fun _ _ _ => 0)
    (@openedAlone_opened 100 (by decide) (by decide))
    [⟨30, .createVestingAllocation 0 8 40 30 20 100⟩] (by decide)
  have isOpen : campaign.status = .open := by
    cases accounted.has
    rfl
  exact ⟨_, (@vesting_released fortyUnits (by decide) (by decide)).2.2.2.2 _ _ _ _ accounted isOpen
    (by decide) rfl [80, 80, 130] (by decide), by decide, by decide⟩

/-- A cliff past the largest time is moved there, where all of the grant has vested. -/
theorem late_cliff_released : ¬ ∀ (now : Nat) (vesting : VestingAllocation),
    0 ≤ vesting.totalAmount → vesting.totalAmount ≤ i128.high →
    vesting.cliffSecs ≤ vesting.durationSecs → now ≤ u64Max →
    now < vesting.start + vesting.cliffSecs → vestedAmount now vesting = 0 := by
  intro every
  exact absurd (every u64Max ⟨8, 40, u64Max - 10, 100, 100, 0⟩ (by decide) (by decide) (by decide)
    (by decide) (by decide)) (by decide)

end StellarSwipe.StakeVault
