import StellarSwipe.StakeVault.Integrity

/-!
# Slashing and reversing a slash

A slash within an open appeal window takes its shares entry by entry: one from the provider's own
stake and one from every delegation.
-/

namespace StellarSwipe.StakeVault

open Program FixedWidth Runs Table World Custody Range Int

theorem slashDelegations_of_empty (bps : Nat) (delegators : List Address)
    (delegated : Table Address Int) (total : Int)
    (empty : ∀ delegator, delegated.read delegator = 0) :
    slashDelegations bps delegators delegated total = (delegated, total) := by
  induction delegators with
  | nil => rfl
  | cons delegator rest ih =>
    rw [slashDelegations, empty delegator]
    exact ih

/-- A slash takes something from every delegation that is not empty. -/
theorem delegatorSlash_eq_zero {amount : Int} (nonneg : 0 ≤ amount) (bps : Nat) :
    delegatorSlash amount bps = 0 ↔ amount = 0 := by
  simp only [delegatorSlash]
  by_cases empty : amount = 0
  · simp [empty]
  · have share := slashShare_bounds (by omega : 0 < amount) bps
    simp only [empty, if_false, iff_false]
    omega

/-- What neither steps on others nor the passing of time change: the entries of the
provider's stake and delegations, and those of the slash. -/
structure Kept (provider : Address) (slashId : Nat) (pre after : World) : Prop where
  stake : after.vault.custody.stakeInfo provider = pre.vault.custody.stakeInfo provider
  delegations : after.vault.custody.delegationsTo provider =
    pre.vault.custody.delegationsTo provider
  total : after.vault.custody.totalDelegated provider =
    pre.vault.custody.totalDelegated provider
  held : after.vault.custody.heldFor slashId = pre.vault.custody.heldFor slashId
  record : after.vault.slashing.slashRecord.lookup slashId =
    pre.vault.slashing.slashRecord.lookup slashId

theorem Kept.trans {provider : Address} {slashId : Nat} {first second third : World}
    (prior : Kept provider slashId first second) (later : Kept provider slashId second third) :
    Kept provider slashId first third where
  stake := later.stake.trans prior.stake
  delegations := later.delegations.trans prior.delegations
  total := later.total.trans prior.total
  held := later.held.trans prior.held
  record := later.record.trans prior.record

/-- A slash of the provider within an open appeal window, its appeal, and the reversal,
with anything in between that leaves the entries of both alone. -/
inductive SlashedAndReversed (provider : Address) (start : World) : World → Prop
  | intro (slashing appealing resolving : Env) (severity : SlashSeverity)
      (reason evidenceUri : String) (amount : Int) (slashed waiting appealed later reversed : World)
      (windowed : 0 < start.vault.settings.appealWindow)
      (slash : doSlash slashing provider severity reason start = .ok amount slashed)
      (between : Kept provider start.vault.slashing.nextId slashed waiting)
      (appeal : appealSlash appealing provider start.vault.slashing.nextId evidenceUri waiting =
        .ok () appealed)
      (meanwhile : Kept provider start.vault.slashing.nextId appealed later)
      (reversal : doResolveAppeal resolving start.vault.slashing.nextId false later =
        .ok () reversed) :
      SlashedAndReversed provider start reversed

/-- The provider's own stake, every delegation to it and their total are as they were. -/
structure Restored (provider : Address) (start reversed : World) : Prop where
  own : reversed.vault.custody.stakeOf provider = start.vault.custody.stakeOf provider
  delegated : ∀ delegator, reversed.vault.custody.delegatedBy delegator provider =
    start.vault.custody.delegatedBy delegator provider
  total : reversed.vault.custody.totalDelegated provider =
    start.vault.custody.totalDelegated provider

/-- The entries of the provider and the slash as the slash leaves them. -/
structure SlashLeaves (provider : Address) (start : World) (info : StakeInfoV2)
    (severity : SlashSeverity) (slashed : World) : Prop where
  own : slashed.vault.custody.stakeOf provider =
    info.balance - ownSlash info (start.slashBps severity)
  delegated : ∀ delegator, (slashed.vault.custody.delegationsTo provider).read delegator =
    (start.vault.custody.delegationsTo provider).read delegator -
      delegatorSlash ((start.vault.custody.delegationsTo provider).read delegator)
        (start.slashBps severity)
  total : slashed.vault.custody.totalDelegated provider =
    (start.vault.custody.slashDelegated provider (start.slashBps severity)).totalDelegated provider
  held : slashed.vault.custody.heldFor start.vault.slashing.nextId =
    start.slashTotal provider severity info
  record : ∃ record, slashed.vault.slashing.slashRecord.lookup start.vault.slashing.nextId =
    some record ∧ record.provider = provider

section Undoing

variable {env : Env} {provider : Address} {start slashed later reversed : World}

/-- Recording a stake does not change what a slash does to the cached total. -/
theorem totalDelegated_slashedCustody (severity : SlashSeverity) (info : StakeInfoV2) :
    (start.slashedCustody env provider severity info).totalDelegated provider =
      (start.vault.custody.slashDelegated provider
        (start.slashBps severity)).totalDelegated provider := by
  have same : (start.vault.custody.recordStake provider
      (info.slashed (start.slashBps severity) env.timestamp)).slashedDelegations provider
        (start.slashBps severity) =
      start.vault.custody.slashedDelegations provider (start.slashBps severity) := rfl
  simp only [slashedCustody, slashDelegated, same]
  split <;> rfl

theorem slash_leaves (sound : Sound start) {severity : SlashSeverity} {reason : String}
    {amount : Int} (windowed : 0 < start.vault.settings.appealWindow)
    (slash : doSlash env provider severity reason start = .ok amount slashed) :
    ∃ token info, Slashable env start provider token info ∧
      SlashLeaves provider start info severity slashed := by
  obtain ⟨token, info, middle, slashable, rfl, disposed, rfl⟩ :=
    wp_ok (doSlash_spec env start provider severity reason) slash
  refine ⟨token, info, slashable, ?_⟩
  cases disposed with
  | burned closed => omega
  | held =>
    have exactly := (StakeInfoV2.slashed_balance (sound.has slashable.has)
      (start.slashBps severity) env.timestamp).1
    constructor
    case own =>
      simp only [setActivity, setCustody, World.slashed, setSlashing,
        slashedCustody, stakeOf_holdFunds, stakeOf_slashDelegated,
        stakeOf_recordStake, if_true, exactly]
    case delegated =>
      intro delegator
      simp only [setActivity, setCustody, World.slashed, setSlashing,
        slashedCustody, delegationsTo_holdFunds]
      rw [delegationsTo_slashDelegated (start.vault.custody.recordStake provider _) provider
        _ (sound.delegations provider), if_pos rfl]
      rfl
    case total => exact totalDelegated_slashedCustody severity info
    case held =>
      simp only [setActivity, setCustody, heldFor, holdFunds, read_insert, if_true]
    case record =>
      refine ⟨start.slashRecordFor env provider severity reason
        (start.slashTotal provider severity info), ?_, rfl⟩
      simp only [setActivity, setCustody, World.slashed, setSlashing,
        Slashing.recordSlash, slashRecordFor, lookup_insert, if_true]

/-- A reversal credits what is parked to the provider's own stake and leaves the
delegations alone. -/
theorem reversal_credits {slashId : Nat} {record : SlashRecord}
    (recorded : later.vault.slashing.slashRecord.lookup slashId = some record)
    (parked : 0 < later.vault.custody.heldFor slashId)
    (reversal : doResolveAppeal env slashId false later = .ok () reversed) :
    reversed.vault.custody.stakeOf record.provider =
      i128.saturatingAdd (later.vault.custody.stakeOf record.provider)
        (later.vault.custody.heldFor slashId) ∧
    (∀ provider, reversed.vault.custody.delegationsTo provider =
      later.vault.custody.delegationsTo provider) ∧
    ∀ provider, reversed.vault.custody.totalDelegated provider =
      later.vault.custody.totalDelegated provider := by
  obtain ⟨token, hit, appeal, middle, resolvable, settled, rfl⟩ :=
    wp_ok (doResolveAppeal_spec env later slashId false) reversal
  cases Option.mem_unique recorded resolvable.recorded
  cases settled
  refine ⟨?_, fun provider => ?_, fun provider => ?_⟩
  · simp only [decided, setSlashing, setCustody, Custody.reversed, if_pos parked,
      stakeOf_releaseFunds, stakeOf_recordStake, if_true, amountToRestore]
    rfl
  all_goals
    simp only [decided, setSlashing, setCustody, Custody.reversed, if_pos parked]
    rfl

/-- The entries after a slash and its reversal: the provider holds what it kept and all
that the slash took, each delegation is short of its share. -/
theorem SlashedAndReversed.outcome (sound : Sound start)
    (undone : SlashedAndReversed provider start reversed) :
    ∃ (severity : SlashSeverity) (info : StakeInfoV2),
      start.vault.custody.stakesV2.lookup provider = some info ∧ info.balance ≠ 0 ∧
      reversed.vault.custody.stakeOf provider =
        i128.saturatingAdd (info.balance - ownSlash info (start.slashBps severity))
          (start.slashTotal provider severity info) ∧
      (∀ delegator, reversed.vault.custody.delegatedBy delegator provider =
        start.vault.custody.delegatedBy delegator provider -
          delegatorSlash (start.vault.custody.delegatedBy delegator provider)
            (start.slashBps severity)) ∧ reversed.vault.custody.totalDelegated provider =
        (start.vault.custody.slashDelegated provider
          (start.slashBps severity)).totalDelegated provider := by
  obtain ⟨slashing, appealing, resolving, severity, reason, evidenceUri, amount, slashed, waiting,
    appealed, later, _, windowed, slash, between, appeal, meanwhile, reversal⟩ := undone
  obtain ⟨token, info, slashable, leaves⟩ := slash_leaves sound windowed slash
  have filed : Kept provider start.vault.slashing.nextId waiting appealed := by
    obtain ⟨_, _, _, _, rfl⟩ :=
      wp_ok (appealSlash_spec appealing waiting provider _ evidenceUri) appeal
    exact ⟨rfl, rfl, rfl, rfl, rfl⟩
  have kept := (between.trans filed).trans meanwhile
  obtain ⟨record, recorded, rfl⟩ := leaves.record
  have pos : 0 < start.slashTotal record.provider severity info := by
    have balance := sound.has slashable.has
    have staked := slashable.staked
    exact (start.vault.custody.slashAmount_bounds record.provider (start.slashBps severity)
      (by have := balance.1; omega) (sound.delegations record.provider)).1
  have held := kept.held.trans leaves.held
  have stake : later.vault.custody.stakeOf record.provider =
      info.balance - ownSlash info (start.slashBps severity) := by
    rw [← leaves.own, Custody.stakeOf, kept.stake]
    rfl
  obtain ⟨own, delegated, total⟩ := reversal_credits (kept.record.trans recorded)
    (by omega) reversal
  refine ⟨severity, info, slashable.has, slashable.staked, ?_, fun delegator => ?_, ?_⟩
  · rw [own, stake, held]
  · rw [delegatedBy, delegated, kept.delegations]
    exact leaves.delegated delegator
  · rw [total, kept.total, leaves.total]

end Undoing

/-- A slash and its reversal restore the provider's own stake, every delegation and
their total exactly when nothing was delegated to the provider. Every reachable vault
is sound. -/
theorem reversal_restores_iff (provider : Address) (start reversed : World) (sound : Sound start)
    (undone : SlashedAndReversed provider start reversed) : Restored provider start reversed ↔
      ∀ delegator, start.vault.custody.delegatedBy delegator provider = 0 := by
  obtain ⟨severity, info, has, staked, own, delegated, total⟩ := undone.outcome sound
  have amount := sound.has has
  constructor
  · intro restored delegator
    have lost := delegated delegator
    rw [restored.delegated delegator] at lost
    have nonneg : 0 ≤ start.vault.custody.delegatedBy delegator provider :=
      (sound.delegations provider delegator).1
    exact (delegatorSlash_eq_zero nonneg (start.slashBps severity)).mp (by omega)
  · intro empty
    have taken : start.vault.custody.slashedDelegations provider (start.slashBps severity) =
        (start.vault.custody.delegationsTo provider, 0) :=
      slashDelegations_of_empty _ _ _ _ empty
    have share : 0 < ownSlash info (start.slashBps severity) ∧
        ownSlash info (start.slashBps severity) ≤ info.balance := by
      have pos : 0 < info.balance := by
        have := amount.1
        omega
      simp only [ownSlash, if_pos pos]
      exact slashShare_bounds pos _
    have parked : start.slashTotal provider severity info =
        ownSlash info (start.slashBps severity) := by
      have whole : i128.saturatingAdd (ownSlash info (start.slashBps severity)) 0 =
          ownSlash info (start.slashBps severity) := by
        rw [saturatingAdd, add_zero]
        exact i128.clamp_of_holds ⟨by simp only [i128_low]; omega, by have := amount.2; omega⟩
      simp only [slashTotal, slashAmount, taken, whole]
      rw [if_neg (by omega)]
    constructor
    case own =>
      rw [own, parked, start.vault.custody.stakeOf_of_stored has, saturatingAdd, sub_add_cancel]
      exact i128.clamp_of_holds ⟨by have := amount.1; simp only [i128_low]; omega, amount.2⟩
    case delegated =>
      intro delegator
      rw [delegated delegator, empty delegator]
      rfl
    case total =>
      rw [total, slashDelegated, taken]
      rfl

section Examples

variable (provider : Address) (start : World)

/-- The worlds after a slash at time 20, after its appeal at 30 and after its reversal
at 40. -/
def slashedAt20 : World :=
  invoke (doSlash (.at 20 2 [2]) provider .minor "late signal") start

def appealedAt30 : World :=
  invoke (appealSlash (.at 30 3 [provider]) provider start.vault.slashing.nextId "log")
    (slashedAt20 provider start)

def reversedAt40 : World :=
  invoke (doResolveAppeal (.at 40 4 [1]) start.vault.slashing.nextId false)
    (appealedAt30 provider start)

/-- With nothing in between, three accepted calls are a slash and its reversal. -/
theorem reversedAt40_undoes (windowed : 0 < start.vault.settings.appealWindow)
    (slash : Accepts (doSlash (.at 20 2 [2]) provider .minor "late signal") start)
    (appeal : Accepts (appealSlash (.at 30 3 [provider]) provider start.vault.slashing.nextId "log")
      (slashedAt20 provider start))
    (reversal : Accepts (doResolveAppeal (.at 40 4 [1]) start.vault.slashing.nextId false)
      (appealedAt30 provider start)) :
    SlashedAndReversed provider start (reversedAt40 provider start) := by
  obtain ⟨amount, slashed⟩ := gave_of_accepts slash
  obtain ⟨_, appealed⟩ := gave_of_accepts appeal
  obtain ⟨_, reversed⟩ := gave_of_accepts reversal
  exact .intro _ _ _ _ _ _ amount _ _ _ _ _ windowed slashed ⟨rfl, rfl, rfl, rfl, rfl⟩ appealed
    ⟨rfl, rfl, rfl, rfl, rfl⟩ reversed

end Examples

def openStake : List Input :=
  [(.at 10 1 [], .initializeVault 1 9 2), (.at 10 1 [1], .setting (.setAppealWindow 86400)),
    (.at 10 1 [5], .depositStake 5 1000)]

/-- A stake without delegations is restored. -/
theorem undelegated_stake_restored :
    Restored 5 (reached 100 wealthy openStake) (reversedAt40 5 (reached 100 wealthy openStake)) :=
  (reversal_restores_iff 5 _ _ (sound_run 100 wealthy openStake)
    (reversedAt40_undoes 5 _ (by decide) (by decide) (by decide) (by decide))).mpr fun _ => rfl

/-- A delegation loses its share for good, and the provider gains it. -/
theorem reversal_keeps_delegated_share :
    ¬ ∀ (provider : Address) (start reversed : World), Sound start →
      SlashedAndReversed provider start reversed → Restored provider start reversed := by
  intro every
  have restored := every 5 _ _
    (sound_run 100 wealthy (openStake ++ [(.at 10 1 [6], .delegateStake 6 5 500)]))
    (reversedAt40_undoes 5 _ (by decide) (by decide) (by decide) (by decide))
  have own := restored.own
  revert own
  decide

/-- What a slash of a balance takes: the floored share, at least one unit and at most all of it,
and all of it where the product overflows. -/
def slashLaw (balance : Int) (bps : Nat) : Int :=
  if balance * bps ≤ i128.high then min balance (max 1 (balance * bps / 10000)) else balance

theorem slashShare_eq {balance : Int} (amount : Amount balance) (bps : Nat) :
    slashShare balance bps = slashLaw balance bps := by
  have product : 0 ≤ balance * bps := mul_nonneg amount.1 (natCast_nonneg _)
  have whole := amount.2
  rw [slashShare, applyMultiplierBps, slashLaw, Range.checkedMul, Range.checked]
  by_cases fits : balance * bps ≤ i128.high
  · have held : i128.Holds (balance * bps) := ⟨by rw [i128_low]; omega, fits⟩
    have divided : i128.Holds ((balance * bps).tdiv 10000) := by
      rw [tdiv_eq_floor product]
      exact ⟨by rw [i128_low]; omega, by omega⟩
    rw [if_pos held, if_pos fits, Option.bind_some, bpsDenominator, Range.checkedDiv,
      if_neg (by decide), Range.checked, if_pos divided, Option.getD_some, tdiv_eq_floor product]
    omega
  · rw [if_neg fun held => fits held.2, if_neg fits, Option.bind_none, Option.getD_none]
    simp only [i128_high] at *
    omega

theorem delegatorSlash_eq {amount : Int} (held : Amount amount) (bps : Nat) :
    delegatorSlash amount bps = slashLaw amount bps := by
  rw [delegatorSlash]
  split
  next empty => simp [empty, slashLaw]
  next => exact slashShare_eq held bps

/-- The loop reports exactly what the delegations lose when their sum fits. The induction is on the
delegators still to visit. -/
theorem slashDelegations_total (bps : Nat) (delegators : List Address)
    (delegated : Table Address Int) (total : Int)
    (amounts : ∀ key, Amount (delegated.read key)) (nonneg : 0 ≤ total)
    (fits : total + delegated.total ≤ i128.high) :
    (slashDelegations bps delegators delegated total).2 +
      (slashDelegations bps delegators delegated total).1.total = total + delegated.total := by
  induction delegators generalizing delegated total with
  | nil => rfl
  | cons delegator rest ih =>
    rw [slashDelegations]
    have amount := amounts delegator
    by_cases empty : delegated.read delegator = 0
    · rw [if_pos empty]
      exact ih delegated total amounts nonneg fits
    · have pos : 0 < delegated.read delegator := amount.1.lt_of_ne' empty
      obtain ⟨exactly, remains⟩ := saturatingSub_slashShare amount pos bps
      have share := slashShare_bounds pos bps
      have within : delegated.read delegator ≤ delegated.total :=
        read_le_total (fun key has hit => by simpa [Table.read, hit] using (amounts key).1)
          delegator
      have taken : i128.saturatingAdd total (slashShare (delegated.read delegator) bps) =
          total + slashShare (delegated.read delegator) bps :=
        i128.clamp_of_holds ⟨by rw [i128_low]; omega, by omega⟩
      simp only [if_neg empty, exactly, taken]
      have later := ih (delegated.insert delegator
        (delegated.read delegator - slashShare (delegated.read delegator) bps))
        (total + slashShare (delegated.read delegator) bps) (fun key => by
          rw [read_insert]
          split
          · exact remains
          · exact amounts key) (by omega) (by rw [total_insert]; omega)
      rw [later, total_insert]
      omega

/-- A slash takes from the provider's stake and from every delegation to it what the law says, the
recorded total is what is delegated, and the whole reduction is returned, as far as it fits. -/
def SlashedByLaw (provider : Address) (bps : Nat) (pre after : Custody) (gave : Int) : Prop :=
  after.stakeOf provider = pre.stakeOf provider - slashLaw (pre.stakeOf provider) bps ∧
  (∀ key, (after.delegationsTo provider).read key = (pre.delegationsTo provider).read key -
    slashLaw ((pre.delegationsTo provider).read key) bps) ∧
  after.totalDelegated provider = (after.delegationsTo provider).total ∧
  gave = min (slashLaw (pre.stakeOf provider) bps +
    ((pre.delegationsTo provider).total - (after.delegationsTo provider).total)) i128.high

theorem slash_amount_law (env : Env) (provider : Address) (severity : SlashSeverity)
    (reason : String) {pre : World} (sound : Sound pre)
    (recorded : pre.vault.custody.totalDelegated provider =
      (pre.vault.custody.delegationsTo provider).total)
    (fits : pre.vault.custody.totalDelegated provider ≤ i128.high) :
    wlp (doSlash env provider severity reason) (fun gave after =>
      SlashedByLaw provider (pre.slashBps severity) pre.vault.custody after.vault.custody
        gave) pre := by
  refine wp_then (doSlash_spec env pre provider severity reason) ?_
  rintro _ _ ⟨token, info, middle, ⟨_, _, isFound, staked⟩, rfl, disposed, rfl⟩
  have stake := pre.vault.custody.stakeOf_of_stored isFound
  have amount : Amount info.balance := stake ▸ sound.stakes provider
  have pos : 0 < info.balance := amount.1.lt_of_ne' staked
  have own : ownSlash info (pre.slashBps severity) =
      slashLaw info.balance (pre.slashBps severity) :=
    (if_pos pos).trans (slashShare_eq amount _)
  have share := slashShare_bounds pos (pre.slashBps severity)
  rw [slashShare_eq amount] at share
  let custody := pre.vault.custody.recordStake provider
    (info.slashed (pre.slashBps severity) env.timestamp)
  have holds := sound.delegations provider
  obtain ⟨left, ⟨nonneg, high⟩, _⟩ :=
    custody.slashedDelegations_spec provider (pre.slashBps severity) holds
  have exactly : (custody.slashedDelegations provider (pre.slashBps severity)).2 +
      (custody.slashedDelegations provider (pre.slashBps severity)).1.total =
        0 + (pre.vault.custody.delegationsTo provider).total :=
    slashDelegations_total _ _ _ 0 holds le_rfl
      (le_of_eq_of_le ((zero_add _).trans recorded.symm) fits)
  have reads (key : Address) := custody.delegationsTo_slashDelegated provider
    (pre.slashBps severity) holds provider key
  simp only [if_true] at reads
  have totals : (custody.slashDelegated provider (pre.slashBps severity)).totalDelegated provider =
        ((custody.slashDelegated provider (pre.slashBps severity)).delegationsTo provider).total ∧
      (pre.vault.custody.delegationsTo provider).total -
        ((custody.slashDelegated provider (pre.slashBps severity)).delegationsTo provider).total =
          (custody.slashedDelegations provider (pre.slashBps severity)).2 := by
    simp only [Custody.slashDelegated]
    split
    next some =>
      have left : i128.saturatingSub (custody.totalDelegated provider)
          (custody.slashedDelegations provider (pre.slashBps severity)).2 =
            (custody.slashedDelegations provider (pre.slashBps severity)).1.total := by
        have sum := total_nonneg fun key => (holds key).1
        have same : custody.totalDelegated provider = _ := recorded
        rw [recorded] at fits
        rw [same, Range.saturatingSub,
          i128.clamp_of_holds ⟨by simp only [i128_low, i128_high] at *; omega, by omega⟩]
        omega
      rw [Custody.delegationsTo_recordTotalDelegated, Custody.delegationsTo_recordDelegations,
        if_pos rfl]
      exact ⟨((read_insert _ _ _ _).trans (if_pos rfl)).trans left, by omega⟩
    next none =>
      refine ⟨recorded, (sub_self _).trans ?_⟩
      omega
  have law : (custody.slashDelegated provider (pre.slashBps severity)).stakeOf provider =
      info.balance - slashLaw info.balance (pre.slashBps severity) := by
    rw [Custody.stakeOf_slashDelegated, Custody.stakeOf_recordStake, if_pos rfl,
      (StakeInfoV2.slashed_balance amount _ _).1, own]
  have gave : pre.slashTotal provider severity info =
      min (slashLaw info.balance (pre.slashBps severity) +
        (custody.slashedDelegations provider (pre.slashBps severity)).2) i128.high := by
    have sum : i128.saturatingAdd (slashLaw info.balance (pre.slashBps severity))
        (custody.slashedDelegations provider (pre.slashBps severity)).2 = min _ i128.high :=
      max_eq_right (le_min (by rw [i128_low]; omega) (by decide))
    have nonzero : i128.saturatingAdd (slashLaw info.balance (pre.slashBps severity))
        (custody.slashedDelegations provider (pre.slashBps severity)).2 ≠ 0 := by
      rw [sum]
      simp only [i128_high]
      omega
    rw [World.slashTotal, Custody.slashAmount, own]
    exact (if_neg nonzero).trans sum
  rw [gave, ← totals.2, SlashedByLaw, stake]
  simp only [← delegatorSlash_eq (holds _)]
  cases disposed <;> exact ⟨law, reads, totals.1, rfl⟩

/-- A stake of a thousand and a delegation of five hundred. -/
def delegatedStake : World :=
  reached 100 wealthy (openStake ++ [(.at 10 1 [6], .delegateStake 6 5 500)])

/-- A minor slash of both is one of the law. -/
theorem minor_slash_by_law : wlp (doSlash (.at 20 2 [2]) 5 .minor "late signal")
    (fun gave after => SlashedByLaw 5 (delegatedStake.slashBps .minor)
      delegatedStake.vault.custody after.vault.custody gave) delegatedStake :=
  slash_amount_law _ 5 .minor _ (sound_run 100 wealthy _) (by decide) (by decide)

/-- A minor slash of the largest stake takes all of it. -/
theorem largest_stake_all_slashed :
    let pre := { delegatedStake with vault.custody :=
      delegatedStake.vault.custody.recordStake 5 { StakeInfoV2.absent with balance := i128.high } }
    ∃ gave after, doSlash (.at 20 2 [2]) 5 .minor "late signal" pre = .ok gave after ∧
      after.vault.custody.stakeOf 5 ≠ i128.high -
        min i128.high (max 1 (i128.high * pre.slashBps .minor / 10000)) :=
  ⟨_, _, rfl, by decide⟩

end StellarSwipe.StakeVault
