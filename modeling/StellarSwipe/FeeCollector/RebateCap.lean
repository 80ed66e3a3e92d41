import StellarSwipe.FeeCollector.Effects

/-!
# The cap on an epoch's rebates

A claim on a day that has collected fees in the token is limited to what the day's cap leaves, and
counts against it.
-/

namespace StellarSwipe.FeeCollector

open Program FixedWidth Runs Table World Accounts Range

/-- The fees collected in a token on a day so far. -/
def World.epochFees (world : World) (token : Address) (day : Nat) : Int :=
  world.store.accounts.dailyFeeTotal.read (token, day)

namespace Taken

variable (taken : Taken) (token : Address) (day : Nat)

def rebate : Int :=
  match taken.input.call with
  | .claimFees provider claimed =>
    if claimed = token ∧ dayOf taken.input.env.timestamp = day then
      valueOr 0 (claimFees taken.input.env taken.input.feed provider claimed) taken.pre
    else 0
  | _ => 0

/-- The day has collected fees in the token when the call is made. -/
def underCap : Bool := decide (0 < taken.pre.epochFees token day)

end Taken

variable (token : Address) (day : Nat)

def rebatesPaid (run : List Taken) : Int :=
  (run.map fun taken => taken.rebate token day).sum

/-- The rebates of the calls made once the day had collected fees. -/
def cappedRebatesPaid (run : List Taken) : Int :=
  rebatesPaid token day (run.filter fun taken => taken.underCap token day)

/-- The rebate rate is the given one while the day lasts. -/
def RateHeld (bps : Nat) (world : World) (input : Input) : Prop :=
  dayOf input.env.timestamp = day → world.store.settings.getMaxRebateBps = bps
deriving Decidable

/-- The counted rebates are what the epoch's entry says, which is within its cap. -/
structure RebateLaw (token : Address) (day bps : Nat) (past : List Taken) (world : World) :
    Prop where
  counted : cappedRebatesPaid token day past =
    world.store.accounts.epochRebateDistributed.read (token, day)
  nonneg : 0 ≤ world.store.accounts.epochRebateDistributed.read (token, day)
  capped : world.store.accounts.epochRebateDistributed.read (token, day) ≤
    epochCap (world.store.accounts.dailyFeeTotal.read (token, day)) bps
  fees : 0 ≤ world.store.accounts.dailyFeeTotal.read (token, day)
  held : world.store.accounts.dailyFeeTotal.read (token, day) ≤ i128.high

variable {fees : Int}

theorem epochCap_floor {bps : Nat} (nonneg : 0 ≤ fees) (fits : i128.Holds (fees * bps)) :
    epochCap fees bps = fees * bps / 10000 := by
  have product : 0 ≤ fees * bps := Int.mul_nonneg nonneg (Int.natCast_nonneg bps)
  simp [epochCap, bpsOf, Range.checkedMul, Range.checked, fits, tdiv_eq_floor product]

theorem epochCap_le_high {bps : Nat} (nonneg : 0 ≤ fees) : epochCap fees bps ≤ i128.high := by
  by_cases fits : i128.Holds (fees * bps)
  · rw [epochCap_floor nonneg fits]
    have product : 0 ≤ fees * bps := Int.mul_nonneg nonneg (Int.natCast_nonneg bps)
    have bounded := fits.2
    omega
  · simp [epochCap, bpsOf, Range.checkedMul, Range.checked, fits]

theorem epochCap_nonneg {bps : Nat} (nonneg : 0 ≤ fees) : 0 ≤ epochCap fees bps := by
  by_cases fits : i128.Holds (fees * bps)
  · rw [epochCap_floor nonneg fits]
    have product : 0 ≤ fees * bps := Int.mul_nonneg nonneg (Int.natCast_nonneg bps)
    omega
  · simp [epochCap, bpsOf, Range.checkedMul, Range.checked, fits]

theorem epochCap_mono {fees more : Int} {bps : Nat} (nonneg : 0 ≤ fees) (grown : fees ≤ more) :
    epochCap fees bps ≤ epochCap more bps := by
  by_cases fits : i128.Holds (more * bps)
  · have product : 0 ≤ fees * bps := Int.mul_nonneg nonneg (Int.natCast_nonneg bps)
    have scaled : fees * bps ≤ more * bps :=
      Int.mul_le_mul_of_nonneg_right grown (Int.natCast_nonneg bps)
    have smaller : i128.Holds (fees * bps) := by
      obtain ⟨_, bounded⟩ := fits
      simp only [Range.Holds, i128_low, i128_high] at bounded ⊢
      omega
    rw [epochCap_floor nonneg smaller, epochCap_floor (nonneg.trans grown) fits]
    omega
  · have unbounded : epochCap more bps = i128.high := by
      simp [epochCap, bpsOf, Range.checkedMul, Range.checked, fits]
    rw [unbounded]
    exact epochCap_le_high nonneg

theorem withRebate_read (accounts : Accounts) (claimed token : Address) (now day : Nat)
    (amount : Int) :
    (accounts.withRebate claimed now amount).epochRebateDistributed.read (token, day) =
      if (claimed = token ∧ now = day) ∧ 0 < amount ∧ 0 < accounts.dailyFeeTotal.read (token, day)
      then i128.saturatingAdd (accounts.epochRebateDistributed.read (token, day)) amount
      else accounts.epochRebateDistributed.read (token, day) := by
  by_cases same : claimed = token ∧ now = day
  · obtain ⟨rfl, rfl⟩ := same
    simp only [withRebate, true_and, and_self]
    split
    · simp only [addEpochRebate, read_insert, if_true]
    · rfl
  · rw [if_neg (fun counts => same counts.1), withRebate]
    split
    · have other : (token, day) ≠ (claimed, now) := by
        rintro equal
        exact same ⟨(congrArg Prod.fst equal).symm, (congrArg Prod.snd equal).symm⟩
      simp only [addEpochRebate, read_insert, if_neg other]
    · rfl

@[simp] theorem withRebate_fees (accounts : Accounts) (claimed : Address) (now : Nat)
    (amount : Int) :
    (accounts.withRebate claimed now amount).dailyFeeTotal = accounts.dailyFeeTotal := by
  rw [withRebate]
  split <;> rfl

theorem claimAmount_within {world : World} {env : Env} {token : Address} {bps : Nat}
    (provider : Address)
    (collected : 0 < world.store.accounts.dailyFeeTotal.read (token, dayOf env.timestamp))
    (rate : world.store.settings.getMaxRebateBps = bps)
    (nonneg : 0 ≤ world.store.accounts.epochRebateDistributed.read (token, dayOf env.timestamp))
    (capped : world.store.accounts.epochRebateDistributed.read (token, dayOf env.timestamp) ≤
      epochCap (world.store.accounts.dailyFeeTotal.read (token, dayOf env.timestamp)) bps) :
    0 ≤ world.claimAmount env provider token ∧
      world.store.accounts.epochRebateDistributed.read (token, dayOf env.timestamp) +
          world.claimAmount env provider token ≤
        epochCap (world.store.accounts.dailyFeeTotal.read (token, dayOf env.timestamp)) bps := by
  have bounded : epochCap _ bps ≤ i128.high := epochCap_le_high collected.le
  simp only [claimAmount, claimable, if_pos collected, rate, saturatingSub,
    Range.clamp, i128_low, i128_high] at bounded ⊢
  split <;> omega

theorem cappedRebatesPaid_concat (past : List Taken) (taken : Taken) :
    cappedRebatesPaid token day (past ++ [taken]) = cappedRebatesPaid token day past +
      if taken.underCap token day = true then taken.rebate token day else 0 := by
  simp only [cappedRebatesPaid, rebatesPaid, List.filter_append, List.map_append, List.sum_append,
    List.filter_cons, List.filter_nil]
  split <;> simp

section Steps

variable {env : Env} {feed : Feed} {token : Address} {day bps : Nat} {past : List Taken}
  {pre after : World}

/-- The calls that are not claims leave the rebates alone, and fees only grow. -/
theorem exec_rebates {call : Call} (silent : call.KeepsRebates) : wlp (exec env feed call)
      (fun _ after => after.store.accounts.epochRebateDistributed =
          pre.store.accounts.epochRebateDistributed ∧
        Grown pre.store.accounts.dailyFeeTotal after.store.accounts.dailyFeeTotal) pre := by
  apply wp_then (exec_effect env feed pre call) ?_
  intro _ after effect
  cases effect with
  | stoodBy _ apart => exact ⟨apart.rebates, apart.fees⟩
  | configured _ _ reached => exact reached ▸ ⟨rfl, .refl _⟩
  | recorded _ _ reached => exact reached ▸ ⟨rfl, .refl _⟩
  | retried _ _ _ _ _ collecting reached => exact reached ▸ ⟨collecting.rebates, collecting.fees⟩
  | claimed => exact absurd silent id
  | requested _ _ _ reached => exact reached ▸ ⟨rfl, .refl _⟩
  | withdrawn _ _ _ _ paying => exact ⟨paying.rebates, paying.fees⟩

/-- A call that counts no rebate and only adds fees keeps the law. -/
theorem RebateLaw.uncounted {taken : Taken} (law : RebateLaw token day bps past pre)
    (idle : taken.underCap token day = true → taken.rebate token day = 0)
    (same : after.store.accounts.epochRebateDistributed.read (token, day) =
      pre.store.accounts.epochRebateDistributed.read (token, day))
    (grown : Grown pre.store.accounts.dailyFeeTotal after.store.accounts.dailyFeeTotal) :
    RebateLaw token day bps (past ++ [taken]) after where
  counted := by
    rw [cappedRebatesPaid_concat, law.counted, same]
    split
    next under => rw [idle under, add_zero]
    next => rw [add_zero]
  nonneg := same ▸ law.nonneg
  capped := by
    rw [same]
    exact law.capped.trans (epochCap_mono law.fees (grown _ law.held).1)
  fees := law.fees.trans (grown _ law.held).1
  held := (grown _ law.held).2

/-- A claim that pays under the cap adds its amount to the epoch's entry, and one that does
not leaves the entry as it is. -/
theorem RebateLaw.claim (law : RebateLaw token day bps past pre) (provider claimed : Address)
    (rate : RateHeld day bps pre ⟨env, feed, .claimFees provider claimed⟩) :
    RebateLaw token day bps (past ++ [taking ⟨env, feed, .claimFees provider claimed⟩ pre])
      (FeeCollector.step ⟨env, feed, .claimFees provider claimed⟩ pre) := by
  by_cases returns : Accepts (claimFees env feed provider claimed) pre
  · obtain ⟨amount, ran⟩ := gave_of_accepts returns
    obtain ⟨paid, _, claiming⟩ := wp_ok (claimFees_spec env feed pre provider claimed) ran
    generalize reached : invoke (claimFees env feed provider claimed) pre = after at claiming ran
    have stepped : FeeCollector.step ⟨env, feed, .claimFees provider claimed⟩ pre = after := by
      simp only [FeeCollector.step, exec, invoke_discard, reached]
    have rebate : (taking ⟨env, feed, .claimFees provider claimed⟩ pre).rebate token day =
        if claimed = token ∧ dayOf env.timestamp = day then amount else 0 := by
      simp only [Taken.rebate, taking, valueOr_of_ok ran]
    have rebates := congrArg (fun table => table.read (token, day)) claiming.rebates
    have grown := claiming.fees
    simp only [setAccounts, withRebate_read, withRebate_fees] at rebates grown
    rw [stepped]
    by_cases counts : (claimed = token ∧ dayOf env.timestamp = day) ∧
        0 < pre.store.accounts.dailyFeeTotal.read (token, day)
    · obtain ⟨⟨rfl, rfl⟩, collected⟩ := counts
      obtain ⟨nonneg, room⟩ :=
        claimAmount_within provider collected (rate rfl) law.nonneg law.capped
      rw [← paid] at nonneg room
      have bounded : epochCap _ bps ≤ i128.high := epochCap_le_high law.fees
      have total : after.store.accounts.epochRebateDistributed.read
            (claimed, dayOf env.timestamp) =
          pre.store.accounts.epochRebateDistributed.read (claimed, dayOf env.timestamp) +
            amount := by
        have before_nonneg := law.nonneg
        rw [rebates]
        split
        next =>
          apply clamp_of_holds
          simp only [Range.Holds, i128_low, i128_high] at bounded ⊢
          omega
        next unpaid =>
          have zero : ¬ 0 < amount := fun pos => unpaid ⟨⟨rfl, rfl⟩, pos, collected⟩
          omega
      refine ⟨?_, ?_, ?_, ?_, ?_⟩
      · have under : (taking ⟨env, feed, .claimFees provider claimed⟩ pre).underCap claimed
            (dayOf env.timestamp) = true := decide_eq_true collected
        rw [cappedRebatesPaid_concat, if_pos under, rebate, if_pos ⟨rfl, rfl⟩, law.counted, total]
      · rw [total]
        exact add_nonneg law.nonneg nonneg
      · rw [total]
        exact room.trans (epochCap_mono law.fees (grown _ law.held).1)
      · exact law.fees.trans (grown _ law.held).1
      · exact (grown _ law.held).2
    · apply law.uncounted ?_ ?_ grown
      · intro under
        have collected := of_decide_eq_true under
        rw [rebate, if_neg fun same => counts ⟨same, collected⟩]
      · rw [rebates, if_neg fun paying => counts ⟨paying.1, paying.2.2⟩]
  · have stepped : FeeCollector.step ⟨env, feed, .claimFees provider claimed⟩ pre = pre := by
      simp only [FeeCollector.step, exec, invoke_discard, invoke_of_rejected returns]
    rw [stepped]
    apply law.uncounted ?_ rfl (.refl _)
    intro _
    simp only [Taken.rebate, taking, valueOr_of_rejected returns, ite_self]

theorem RebateLaw.step {input : Input} (law : RebateLaw token day bps past pre)
    (rate : RateHeld day bps pre input) :
    RebateLaw token day bps (past ++ [taking input pre]) (FeeCollector.step input pre) := by
  have silent (quiet : input.call.KeepsRebates)
      (idle : (taking input pre).rebate token day = 0) :
      RebateLaw token day bps (past ++ [taking input pre])
        (FeeCollector.step input pre) := by
    have kept := step_rule (fun after => after.store.accounts.epochRebateDistributed =
        pre.store.accounts.epochRebateDistributed ∧
      Grown pre.store.accounts.dailyFeeTotal after.store.accounts.dailyFeeTotal)
      ⟨rfl, .refl _⟩ (exec_rebates quiet)
    exact law.uncounted (fun _ => idle) (by rw [kept.1]) kept.2
  obtain ⟨env, feed, call⟩ := input
  cases call
  case claimFees provider claimed => exact law.claim provider claimed rate
  all_goals exact silent trivial rfl

end Steps

/-- While the rebate rate of a day is held, the rebates paid in a token by the claims made
once the day had collected fees are at most that share of the fees it collects, rounded
down, as long as the product fits its type. -/
theorem rebates_capped (self : Address) (tokens : Tokens)
    (pendingFees : Table (Address × Address) Int) (inputs : List Input) (token : Address)
    (day bps : Nat) (rate : ∀ taken ∈ trace step (deployed self tokens pendingFees) inputs,
      RateHeld day bps taken.pre taken.input) (fits : i128.Holds
      ((final step (deployed self tokens pendingFees) inputs).epochFees token day * bps)) :
    cappedRebatesPaid token day (trace step (deployed self tokens pendingFees) inputs) ≤
      (final step (deployed self tokens pendingFees) inputs).epochFees token day * bps / 10000 := by
  have initially : RebateLaw token day bps [] (deployed self tokens pendingFees) :=
    ⟨rfl, le_refl _, epochCap_nonneg (le_refl _), le_refl _, show (0 : Int) ≤ i128.high by decide⟩
  have law := history_invariant step (RebateLaw token day bps) (RateHeld day bps)
    (fun _ _ _ held law => law.step held) (deployed self tokens pendingFees) initially inputs
    rate
  rw [law.counted, epochFees, ← epochCap_floor law.fees fits]
  exact law.capped

/-- Everyone holds a million of every token. -/
def millions : Tokens := ⟨fun _ _ => 1000000, 0⟩

/-- Provider 3 is owed five of token 7. -/
def owedFive : Table (Address × Address) Int := (∅ : Table (Address × Address) Int).insert (3, 7) 5

/-- The collector starts, trader 5 pays the fee of its second trade, and provider 3 claims. -/
def claimAfterFee : List Input :=
  [⟨.at 0 0 [1], .silent, .setting (.initializeCollector 1)⟩,
    ⟨.at 0 0 [1], .silent, .setting (.setOracleContract 8)⟩,
    ⟨.at 0 0 [5], .par, .collectFee 5 7 1000 ⟨"XLM", none⟩⟩,
    ⟨.at 0 0 [5], .par, .collectFee 5 7 100000 ⟨"XLM", none⟩⟩,
    ⟨.at 1 0 [3], .par, .claimFees 3 7⟩]

/-- The claim is paid in full, under the cap of the one fee collected. -/
theorem claimAfterFee_capped : cappedRebatesPaid 7 0
        (trace step (deployed 9 millions owedFive) claimAfterFee) = 5 ∧
      5 ≤ (final step (deployed 9 millions owedFive) claimAfterFee).epochFees 7 0 * 8000 /
        10000 := by
  have paid : cappedRebatesPaid 7 0
      (trace step (deployed 9 millions owedFive) claimAfterFee) = 5 := by decide
  refine ⟨paid, ?_⟩
  have capped := rebates_capped 9 millions owedFive claimAfterFee 7 0 8000 (by decide) (by decide)
  rwa [paid] at capped

def claimBeforeFees : List Input :=
  [⟨.at 0 0 [1], .silent, .setting (.initializeCollector 1)⟩,
    ⟨.at 0 0 [3], .silent, .claimFees 3 7⟩]

/-- The claim is paid in full although the day's cap is zero. -/
theorem claims_before_fees_uncapped : ¬ ∀ (self : Address) (tokens : Tokens)
    (pendingFees : Table (Address × Address) Int) (inputs : List Input) (token : Address)
    (day bps : Nat), (∀ taken ∈ trace step (deployed self tokens pendingFees) inputs,
        RateHeld day bps taken.pre taken.input) →
      rebatesPaid token day (trace step (deployed self tokens pendingFees) inputs) ≤
        (final step (deployed self tokens pendingFees) inputs).epochFees token day * bps /
          10000 := by
  intro every
  exact absurd (every 9 millions owedFive claimBeforeFees 7 0 8000 (by decide)) (by decide)

end StellarSwipe.FeeCollector
