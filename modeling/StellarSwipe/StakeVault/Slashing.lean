import StellarSwipe.StakeVault.Staking

/-!
# Slashing

A slash takes a share of the provider's own stake and the same share of every delegation to it, at
least one unit from each that is not empty.
-/

namespace StellarSwipe.StakeVault

open Program FixedWidth Table

/-- The loop over a provider's delegators: the delegations after it and the total
taken so far. Delegators come in the table's order; the host's maps are sorted by
key, and neither the resulting amounts nor the total depend on the order. -/
def slashDelegations (bps : Nat) : List Address → Table Address Int → Int → Table Address Int × Int
  | [], delegated, total => (delegated, total)
  | delegator :: rest, delegated, total =>
    let amount := delegated.read delegator
    if amount = 0 then slashDelegations bps rest delegated total
    else
      let taken := slashShare amount bps
      slashDelegations bps rest (delegated.insert delegator (i128.saturatingSub amount taken))
        (i128.saturatingAdd total taken)

def delegatorSlash (amount : Int) (bps : Nat) : Int :=
  if amount = 0 then 0 else slashShare amount bps

theorem delegatorSlash_bounds {amount : Int} (nonneg : 0 ≤ amount) (bps : Nat) :
    0 ≤ delegatorSlash amount bps ∧ delegatorSlash amount bps ≤ amount := by
  simp only [delegatorSlash]
  split
  · omega
  · have bounds := slashShare_bounds (by omega : 0 < amount) bps
    omega

/-- The loop takes each listed delegator's share from it and nothing from the others.
The total it reports is at most what the delegations lose. The induction is on the
delegators still to visit. -/
theorem slashDelegations_spec (bps : Nat) (delegators : List Address) (delegated : Table Address Int)
    (total : Int) (distinct : delegators.Nodup) (amounts : ∀ key, Amount (delegated.read key))
    (nonneg : Amount total) : (∀ key, (slashDelegations bps delegators delegated total).1.read key =
      if key ∈ delegators then delegated.read key - delegatorSlash (delegated.read key) bps
      else delegated.read key) ∧ total ≤ (slashDelegations bps delegators delegated total).2 ∧
    (slashDelegations bps delegators delegated total).2 ≤ i128.high ∧
    (slashDelegations bps delegators delegated total).2 +
      (slashDelegations bps delegators delegated total).1.total ≤ total + delegated.total ∧
    ((slashDelegations bps delegators delegated total).2 = 0 →
      ∀ key ∈ delegators, delegated.read key = 0) := by
  induction delegators generalizing delegated total with
  | nil => simpa [slashDelegations] using nonneg.2
  | cons delegator rest ih =>
    obtain ⟨fresh, distinctRest⟩ := List.nodup_cons.mp distinct
    by_cases empty : delegated.read delegator = 0
    · simp only [slashDelegations, empty, if_true]
      obtain ⟨reads, grows, holds, conserved, idle⟩ :=
        ih delegated total distinctRest amounts nonneg
      refine ⟨fun key => ?_, grows, holds, conserved, fun none key listed => ?_⟩
      · rw [reads key]
        by_cases here : key = delegator
        · subst here
          simp [fresh, delegatorSlash, empty]
        · simp [here]
      · rcases List.mem_cons.mp listed with rfl | later
        · exact empty
        · exact idle none key later
    · have pos : 0 < delegated.read delegator := by
        have := (amounts delegator).1
        omega
      obtain ⟨exactly, remains⟩ := saturatingSub_slashShare (amounts delegator) pos bps
      have share := slashShare_bounds pos bps
      have within := (amounts delegator).2
      simp only [slashDelegations, empty, if_false, exactly]
      have added : Amount (i128.saturatingAdd total (slashShare (delegated.read delegator) bps)) :=
        ⟨i128.le_clamp (by simp) (by have := nonneg.1; omega), (i128.clamp_holds _).2⟩
      have later := ih
        (delegated.insert delegator
          (delegated.read delegator - slashShare (delegated.read delegator) bps))
        (i128.saturatingAdd total (slashShare (delegated.read delegator) bps)) distinctRest
        (fun key => by
          rw [read_insert]
          split
          · exact remains
          · exact amounts key)
        added
      obtain ⟨reads, grows, holds, conserved, _⟩ := later
      have atLeast : total ≤ i128.saturatingAdd total (slashShare (delegated.read delegator) bps) :=
        i128.le_clamp nonneg.2 (by omega)
      have atLeastOne : 1 ≤ i128.saturatingAdd total (slashShare (delegated.read delegator) bps) :=
        i128.le_clamp (by simp) (by have := nonneg.1; omega)
      have atMost : i128.saturatingAdd total (slashShare (delegated.read delegator) bps) ≤
          total + slashShare (delegated.read delegator) bps := by
        apply i128.saturatingAdd_le
        have := nonneg.1
        simp only [i128_low]
        omega
      rw [total_insert] at conserved
      refine ⟨fun key => ?_, by omega, holds, by omega, fun none => by omega⟩
      rw [reads key, read_insert]
      by_cases here : key = delegator
      · subst here
        simp [fresh, delegatorSlash, empty]
      · simp [here]

/-- What a slash takes from the provider's own stake. -/
def ownSlash (info : StakeInfoV2) (bps : Nat) : Int :=
  if 0 < info.balance then slashShare info.balance bps else 0

/-- The stake entry after its own share has been taken. -/
def StakeInfoV2.slashed (info : StakeInfoV2) (bps now : Nat) : StakeInfoV2 :=
  { info with balance := i128.saturatingSub info.balance (ownSlash info bps), lastUpdated := now }

namespace Custody

variable (custody : Custody) (provider : Address) (bps : Nat)

/-- The delegations to a provider after a slash, and the total taken from them. -/
def slashedDelegations : Table Address Int × Int :=
  slashDelegations bps (custody.delegationsTo provider).keys (custody.delegationsTo provider) 0

/-- Write back the delegations and their cached total if anything was taken. -/
def slashDelegated : Custody :=
  let (delegated, taken) := custody.slashedDelegations provider bps
  if 0 < taken then
    (custody.recordDelegations provider delegated).recordTotalDelegated provider
      (i128.saturatingSub (custody.totalDelegated provider) taken)
  else custody

/-- The whole amount of a slash, never recorded as zero. -/
def slashAmount (info : StakeInfoV2) : Int :=
  let amount := i128.saturatingAdd (ownSlash info bps) (custody.slashedDelegations provider bps).2
  if amount = 0 then 1 else amount

@[simp] theorem slashDelegated_stakesV2 :
    (custody.slashDelegated provider bps).stakesV2 = custody.stakesV2 := by
  simp only [slashDelegated]
  split <;> rfl

@[simp] theorem slashDelegated_slashedFundsHeld :
    (custody.slashDelegated provider bps).slashedFundsHeld = custody.slashedFundsHeld := by
  simp only [slashDelegated]
  split <;> rfl

@[simp] theorem stakeOf_slashDelegated (other : Address) :
    (custody.slashDelegated provider bps).stakeOf other = custody.stakeOf other := by
  simp only [stakeOf, stakeInfo, slashDelegated_stakesV2]

/-- What a slash does to the delegations of its provider, at the loop's own start. -/
theorem slashedDelegations_spec
    (amounts : ∀ key, Amount ((custody.delegationsTo provider).read key)) :
    (∀ key, (custody.slashedDelegations provider bps).1.read key =
      (custody.delegationsTo provider).read key -
        delegatorSlash ((custody.delegationsTo provider).read key) bps) ∧
    Amount (custody.slashedDelegations provider bps).2 ∧
    (custody.slashedDelegations provider bps).2 +
      (custody.slashedDelegations provider bps).1.total ≤ (custody.delegationsTo provider).total ∧
    ((custody.slashedDelegations provider bps).2 = 0 →
      ∀ key, (custody.delegationsTo provider).read key = 0) := by
  have unlisted (key : Address) (absent : key ∉ (custody.delegationsTo provider).keys) :
      (custody.delegationsTo provider).read key = 0 := by
    simp only [Table.read, AList.lookup_eq_none.mpr absent, Option.getD_none]
  obtain ⟨reads, nonneg, holds, conserved, idle⟩ := slashDelegations_spec bps
    (custody.delegationsTo provider).keys (custody.delegationsTo provider) 0
    (custody.delegationsTo provider).keys_nodup amounts ⟨le_refl 0, by simp⟩
  refine ⟨fun key => ?_, ⟨nonneg, holds⟩, by simpa [slashedDelegations] using conserved,
    fun none key => ?_⟩
  · rw [slashedDelegations, reads key]
    split
    · rfl
    next absent => simp [unlisted key absent, delegatorSlash]
  · by_cases listed : key ∈ (custody.delegationsTo provider).keys
    · exact idle none key listed
    · exact unlisted key listed

/-- After a slash every delegation to the provider has lost its share and every other
delegation is as it was. -/
theorem delegationsTo_slashDelegated
    (amounts : ∀ key, Amount ((custody.delegationsTo provider).read key)) (other key : Address) :
    ((custody.slashDelegated provider bps).delegationsTo other).read key =
      if other = provider then (custody.delegationsTo provider).read key -
        delegatorSlash ((custody.delegationsTo provider).read key) bps
      else (custody.delegationsTo other).read key := by
  obtain ⟨reads, taken, _, idle⟩ := custody.slashedDelegations_spec provider bps amounts
  simp only [slashDelegated]
  split
  · simp only [delegationsTo_recordTotalDelegated, delegationsTo_recordDelegations]
    split
    · exact reads key
    · rfl
  next untouched =>
    split
    next same =>
      subst same
      have empty := idle (by have := taken.1; omega) key
      simp [empty, delegatorSlash]
    · rfl

end Custody

/-- The own share of a stake that is an amount leaves an amount, computed exactly. -/
theorem StakeInfoV2.slashed_balance {info : StakeInfoV2} (amount : Amount info.balance)
    (bps now : Nat) : (info.slashed bps now).balance = info.balance - ownSlash info bps ∧
      0 ≤ ownSlash info bps ∧ ownSlash info bps ≤ info.balance := by
  simp only [slashed, ownSlash]
  split
  next pos =>
    have bounds := slashShare_bounds pos bps
    exact ⟨(saturatingSub_slashShare amount pos bps).1, by omega, bounds.2⟩
  next empty =>
    refine ⟨?_, le_refl 0, amount.1⟩
    rw [Range.saturatingSub, Int.sub_zero]
    exact i128.clamp_of_holds ⟨by have := amount.1; simp only [i128_low]; omega, amount.2⟩

/-- A slash of a positive stake records a positive amount, at most what it takes. -/
theorem Custody.slashAmount_bounds (custody : Custody) (provider : Address) (bps : Nat)
    {info : StakeInfoV2} (pos : 0 < info.balance)
    (amounts : ∀ key, Amount ((custody.delegationsTo provider).read key)) :
    0 < custody.slashAmount provider bps info ∧ custody.slashAmount provider bps info ≤ i128.high ∧
      custody.slashAmount provider bps info ≤
        ownSlash info bps + (custody.slashedDelegations provider bps).2 := by
  obtain ⟨_, taken, _⟩ := custody.slashedDelegations_spec provider bps amounts
  have share : 0 < ownSlash info bps ∧ ownSlash info bps ≤ info.balance := by
    simp only [ownSlash, if_pos pos]
    exact slashShare_bounds pos bps
  have atLeast : 1 ≤ i128.saturatingAdd (ownSlash info bps)
      (custody.slashedDelegations provider bps).2 :=
    i128.le_clamp (by simp) (by have := taken.1; omega)
  have atMost : i128.saturatingAdd (ownSlash info bps) (custody.slashedDelegations provider bps).2 ≤
      ownSlash info bps + (custody.slashedDelegations provider bps).2 := by
    apply i128.saturatingAdd_le
    have := taken.1
    simp only [i128_low]
    omega
  have holds := (i128.clamp_holds (ownSlash info bps +
    (custody.slashedDelegations provider bps).2)).2
  simp only [Custody.slashAmount]
  rw [if_neg (by omega)]
  exact ⟨by omega, holds, atMost⟩

namespace Slashing

variable (slashing : Slashing)

/-- The identifier the next slash receives. -/
def nextId : Nat := slashing.slashCounter.getD 0

/-- The provider was slashed less than a cooldown ago. The stored ledger is one more
than that of the slash, so that zero means never. -/
def CoolingDown (env : Env) (provider : Address) (cooldown : Nat) : Prop :=
  let last := (slashing.lastSlashLedger.lookup provider).getD 0
  0 < last ∧ env.sequence - (last - 1) < cooldown
deriving Decidable

/-- Record a slash under the next identifier and note its ledger. -/
def recordSlash (env : Env) (record : SlashRecord) : Slashing :=
  { slashing with
    slashCounter := some (satCount u64Max slashing.nextId 1)
    slashRecord := slashing.slashRecord.insert record.slashId record
    lastSlashLedger :=
      slashing.lastSlashLedger.insert record.provider (ledgersAfter env.sequence 1) }

end Slashing

/-- The record of a slash made now. -/
def World.slashRecordFor (world : World) (env : Env) (provider : Address)
    (severity : SlashSeverity) (reason : String) (amount : Int) : SlashRecord :=
  let cooldown := world.vault.settings.slashCooldown
  { slashId := world.vault.slashing.nextId
    provider
    severity
    slashAmount := amount
    slashedAt := env.timestamp
    reason
    cooldownExpiresAt := if 0 < cooldown then ledgersAfter env.sequence cooldown else 0 }

/-- Core slashing logic of `slashStake` and `batchSlashStake`; the caller has been
checked by then. -/
def doSlash (env : Env) (provider : Address) (severity : SlashSeverity) (reason : String) :
    VaultProgram Int := do
  let token ← getStakeToken
  let world ← get
  let settings := world.vault.settings
  ensure (¬ world.vault.slashing.CoolingDown env provider settings.slashCooldown)
    .slashCooldownActive
  let bps := settings.tiers.tierBps severity
  let info ← getActiveStake provider
  modify fun world => world.setCustody
    (world.vault.custody.recordStake provider (info.slashed bps env.timestamp))
  modify fun world => world.setCustody (world.vault.custody.slashDelegated provider bps)
  let amount := world.vault.custody.slashAmount provider bps info
  modify fun world => world.setSlashing (world.vault.slashing.recordSlash env
    (world.slashRecordFor env provider severity reason amount))
  if 0 < settings.appealWindow then
    modify fun after => after.setCustody
      (after.vault.custody.holdFunds world.vault.slashing.nextId amount)
  else burn env token world.self amount
  lockProvider env provider settings.lockupLedgers
  pure amount

def requireSignalRegistry (caller : Address) : VaultProgram Unit := do
  let registry ← orFail (← get).vault.settings.signalRegistry .notInitialized
  ensure (caller = registry) .unauthorized

def slashStake (env : Env) (caller provider : Address) (severity : SlashSeverity)
    (reason : String) : VaultProgram Int := do
  ensure ((← get).vault.activity.contractLock = false) .reentrancyDetected
  requireAuth env caller
  requireSignalRegistry caller
  doSlash env provider severity reason

/-- A batch is neither empty nor larger than the limit, and its parameters match. -/
def requireBatch (length other : Nat) : VaultProgram Unit := do
  ensure (length ≠ 0 ∧ length ≤ maxBatchSize) .batchSizeInvalid
  ensure (length = other) .batchLengthMismatch

/-- Slash several providers; an item that errs contributes zero. -/
def batchSlashStake (env : Env) (caller : Address) (providers : List Address)
    (severities : List SlashSeverity) (reason : String) : VaultProgram (List Int) := do
  requireAuth env caller
  requireSignalRegistry caller
  requireBatch providers.length severities.length
  let results ← attemptEach (fun item => doSlash env item.1 item.2 reason)
    (providers.zip severities)
  pure (results.map fun result => match result with
    | .ok amount => amount
    | .error _ => 0)

section Specifications

variable (env : Env) (pre : World)

/-- The state in which a provider can be slashed. -/
structure Slashable (env : Env) (world : World) (provider token : Address) (info : StakeInfoV2) :
    Prop where
  configured : world.vault.settings.stakeToken = some token
  rested : ¬ world.vault.slashing.CoolingDown env provider world.vault.settings.slashCooldown
  has : world.vault.custody.stakesV2.lookup provider = some info
  staked : info.balance ≠ 0

/-- The basis points a slash of this severity uses. -/
def World.slashBps (world : World) (severity : SlashSeverity) : Nat :=
  world.vault.settings.tiers.tierBps severity

def World.slashTotal (world : World) (provider : Address) (severity : SlashSeverity)
    (info : StakeInfoV2) : Int :=
  world.vault.custody.slashAmount provider (world.slashBps severity) info

/-- The custody entries after a slash, before its funds are disposed of. -/
def World.slashedCustody (world : World) (env : Env) (provider : Address)
    (severity : SlashSeverity) (info : StakeInfoV2) : Custody :=
  (world.vault.custody.recordStake provider
    (info.slashed (world.slashBps severity) env.timestamp)).slashDelegated provider
      (world.slashBps severity)

/-- The world after a slash has written its records, before its funds are disposed of. -/
def World.slashed (world : World) (env : Env) (provider : Address) (severity : SlashSeverity)
    (reason : String) (info : StakeInfoV2) : World :=
  (world.setCustody (world.slashedCustody env provider severity info)).setSlashing
    (world.vault.slashing.recordSlash env (world.slashRecordFor env provider severity reason
      (world.slashTotal provider severity info)))

/-- The funds of a slash are parked, or burned when there is no appeal window. -/
inductive Disposed (env : Env) (pre : World) (token : Address) (amount : Int) : World → World → Prop
  | held (windowed : 0 < pre.vault.settings.appealWindow) (world : World) :
      Disposed env pre token amount world
        (world.setCustody (world.vault.custody.holdFunds pre.vault.slashing.nextId amount))
  | burned (closed : pre.vault.settings.appealWindow = 0)
      (accepted : pre.tokens.refusal env token pre.self amount = none) (world : World) :
      Disposed env pre token amount world
        (world.setTokens (pre.tokens.burned token pre.self amount))

/-- How a slash stops: before its first write, or at a refused burn, which leaves
everything the slash has recorded. -/
inductive SlashStopped (env : Env) (pre : World) (provider : Address)
    (severity : SlashSeverity) (reason : String) : World → Prop
  | early (blocked : ∀ token info, ¬ Slashable env pre provider token info) :
      SlashStopped env pre provider severity reason pre
  | unburned (token : Address) (info : StakeInfoV2)
      (slashable : Slashable env pre provider token info)
      (closed : pre.vault.settings.appealWindow = 0) (failure : TokenFailure)
      (refused : pre.tokens.refusal env token pre.self
        (pre.slashTotal provider severity info) = some failure) :
      SlashStopped env pre provider severity reason
        ((pre.slashed env provider severity reason info).setTokens pre.tokens.refused)

/-- A slash that returns has recorded itself, disposed of its funds and locked the
provider. -/
theorem doSlash_spec (provider : Address) (severity : SlashSeverity) (reason : String) :
    wp (doSlash env provider severity reason)
      (fun amount after => ∃ token info middle, Slashable env pre provider token info ∧
        amount = pre.slashTotal provider severity info ∧
        Disposed env pre token amount (pre.slashed env provider severity reason info) middle ∧
        after = middle.setActivity (pre.vault.activity.locked env provider
          pre.vault.settings.lockupLedgers))
      (fun fault after => fault ≠ .trap ∧ SlashStopped env pre provider severity reason after)
      pre := by
  simp only [doSlash, getActiveStake, wp_rules, wp_getStakeToken, wp_ite, wp_burn, wp_lockProvider]
  refine ⟨fun token configured => ⟨fun rested => ⟨fun info has => ⟨fun staked =>
    ⟨fun windowed => ?_, fun closed => ⟨fun failure refused => ?_, fun accepted => ?_⟩⟩,
    fun unstaked => ?_⟩, fun absent => ?_⟩, fun cooling => ?_⟩, fun unconfigured => ?_⟩
  · exact ⟨token, info, _, ⟨configured, rested, has, staked⟩, rfl, .held windowed _, rfl⟩
  · exact ⟨by simp, .unburned token info ⟨configured, rested, has, staked⟩
      (Nat.eq_zero_of_not_pos closed) failure refused⟩
  · exact ⟨token, info, _, ⟨configured, rested, has, staked⟩, rfl,
      .burned (Nat.eq_zero_of_not_pos closed) accepted _, rfl⟩
  · exact ⟨by simp, .early fun _ _ slashable =>
      unstaked (Option.mem_unique has slashable.has ▸ slashable.staked)⟩
  · exact ⟨by simp, .early fun _ _ slashable => Option.some_ne_none _
      (slashable.has.symm.trans absent)⟩
  · exact ⟨by simp, .early fun _ _ slashable => cooling slashable.rested⟩
  · exact ⟨by simp, .early fun _ _ slashable =>
      Option.some_ne_none _ (slashable.configured.symm.trans unconfigured)⟩

structure RegistryCalls (caller : Address) : Prop where
  authorized : caller ∈ env.auths ∧ caller ≠ pre.self
  registered : pre.vault.settings.signalRegistry = some caller

theorem slashStake_spec (caller provider : Address) (severity : SlashSeverity) (reason : String) :
    wlp (slashStake env caller provider severity reason)
      (fun amount after => RegistryCalls env pre caller ∧
        ∃ token info middle, Slashable env pre provider token info ∧
        amount = pre.slashTotal provider severity info ∧
        Disposed env pre token amount (pre.slashed env provider severity reason info) middle ∧
        after = middle.setActivity (pre.vault.activity.locked env provider
          pre.vault.settings.lockupLedgers)) pre := by
  simp only [slashStake, requireSignalRegistry, wlp_rules, wp_auth]
  rintro _ authorized registry registered rfl
  refine wp_then (doSlash_spec env pre provider severity reason) ?_
  exact fun _ _ known => ⟨⟨authorized, registered⟩, known⟩

/-- The slashes that a batch tries, with the world around each. -/
def slashAttempts (providers : List Address) (severities : List SlashSeverity) (reason : String) :
    List (Attempt World StakeVaultError Int (Address × SlashSeverity)) :=
  attempts (fun item => doSlash env item.1 item.2 reason) (providers.zip severities) pre

theorem batchSlashStake_rule (caller : Address) (providers : List Address)
    (severities : List SlashSeverity) (reason : String) (invariant : World → Prop)
    (keeps : RegistryCalls env pre caller → ∀ entry ∈
      slashAttempts env pre providers severities reason,
        invariant entry.pre → invariant entry.after) (holds : invariant pre) :
    wlp (batchSlashStake env caller providers severities reason) (fun _ after => invariant after)
      pre := by
  simp only [batchSlashStake, requireSignalRegistry, requireBatch, wlp_rules, wp_auth]
  rintro authorized registry registered rfl _ _
  exact attemptEach_rule invariant _ pre (keeps ⟨authorized, registered⟩) holds

end Specifications

end StellarSwipe.StakeVault
