import StellarSwipe.StakeVault.StakeMirror

/-!
# Solvency of the stake vault

The vault owes every stake, every delegation and every amount parked for an appeal; what it holds
beyond that is its surplus.
-/

namespace StellarSwipe.StakeVault

open Program FixedWidth Runs Table Custody World Call Tokens

def Custody.liabilities (custody : Custody) : Int :=
  Table.sum (fun _ info => info.balance) custody.stakesV2 +
    Table.sum (fun _ delegated => delegated.total) custody.providerDelegatedStakes +
    custody.slashedFundsHeld.total

/-- What the vault holds of a token beyond what it owes. -/
def World.surplus (world : World) (token : Address) : Int :=
  world.tokens.balance token world.self - world.vault.custody.liabilities

namespace Custody

variable (custody : Custody)

theorem contribution_stakes (staker : Address) :
    Table.contribution (fun _ info => StakeInfoV2.balance info) custody.stakesV2 staker =
      custody.stakeOf staker := by
  simp only [Table.contribution, stakeOf, stakeInfo]
  cases custody.stakesV2.lookup staker <;> rfl

variable (provider : Address)

theorem contribution_delegations :
    Table.contribution (fun _ delegated => Table.total delegated) custody.providerDelegatedStakes
      provider = (custody.delegationsTo provider).total := by
  simp only [Table.contribution, delegationsTo]
  cases custody.providerDelegatedStakes.lookup provider <;> rfl

theorem liabilities_recordStake (staker : Address) (info : StakeInfoV2) :
    (custody.recordStake staker info).liabilities =
      custody.liabilities - custody.stakeOf staker + info.balance := by
  simp only [liabilities, recordStake, sum_insert, contribution_stakes]
  omega

/-- Recorded delegations replace what was owed to their provider's delegators. -/
theorem liabilities_recordDelegations (delegated : Table Address Int) :
    (custody.recordDelegations provider delegated).liabilities =
      custody.liabilities - (custody.delegationsTo provider).total + delegated.total := by
  simp only [liabilities, recordDelegations, sum_insert, contribution_delegations]
  omega

@[simp] theorem liabilities_recordTotalDelegated (total : Int) :
    (custody.recordTotalDelegated provider total).liabilities = custody.liabilities := rfl

theorem liabilities_holdFunds (slashId : Nat) (amount : Int) :
    (custody.holdFunds slashId amount).liabilities =
      custody.liabilities - custody.heldFor slashId + amount := by
  simp only [liabilities, holdFunds, total_insert, heldFor]
  omega

theorem liabilities_releaseFunds (slashId : Nat) :
    (custody.releaseFunds slashId).liabilities = custody.liabilities - custody.heldFor slashId := by
  simp only [liabilities, releaseFunds, total_erase, heldFor]
  omega

/-- Slashing the delegations lowers what is owed at least by what it reports as taken. -/
theorem liabilities_slashDelegated (bps : Nat)
    (amounts : ∀ key, Amount ((custody.delegationsTo provider).read key)) :
    (custody.slashDelegated provider bps).liabilities +
      (custody.slashedDelegations provider bps).2 ≤ custody.liabilities := by
  obtain ⟨_, taken, conserved, _⟩ := custody.slashedDelegations_spec provider bps amounts
  simp only [slashDelegated]
  split
  · rw [liabilities_recordTotalDelegated, liabilities_recordDelegations]
    omega
  · have := taken.1
    omega

end Custody

/-- A slash takes at least the amount it reports out of what is owed. -/
theorem World.liabilities_slashedCustody {env : Env} {world : World} (sound : Sound world)
    {provider token : Address} {info : StakeInfoV2}
    (slashable : Slashable env world provider token info) (severity : SlashSeverity) :
    (world.slashedCustody env provider severity info).liabilities +
      world.slashTotal provider severity info ≤ world.vault.custody.liabilities := by
  have amount := sound.has slashable.has
  have pos : 0 < info.balance := by
    have := amount.1
    have := slashable.staked
    omega
  have own := world.vault.custody.stakeOf_of_stored slashable.has
  obtain ⟨exactly, _, _⟩ :=
    StakeInfoV2.slashed_balance amount (world.slashBps severity) env.timestamp
  have total := (world.vault.custody.slashAmount_bounds provider (world.slashBps severity) pos
    (sound.delegations provider)).2.2
  have delegated := (world.vault.custody.recordStake provider
    (info.slashed (world.slashBps severity) env.timestamp)).liabilities_slashDelegated provider
      (world.slashBps severity) (sound.delegations provider)
  rw [liabilities_recordStake, own, exactly] at delegated
  have same : (world.vault.custody.recordStake provider
      (info.slashed (world.slashBps severity) env.timestamp)).slashedDelegations provider
        (world.slashBps severity) =
      world.vault.custody.slashedDelegations provider (world.slashBps severity) := rfl
  rw [same] at delegated
  simp only [slashedCustody, slashTotal]
  omega

/-- The calls of staking except the batch of resolutions: every call whose own program
decides at most one appeal. -/
def Call.servesCustody : Call → Bool
  | .batchResolveAppeal _ _ => false
  | call => call.servesStakes

/-- Parked funds are not negative, and the vault holds of its stake token, or before it
is deployed of any token that may become it, at least what it owes. -/
structure Solvent (world : World) : Prop where
  held : ∀ slashId, 0 ≤ world.vault.custody.heldFor slashId
  undeployed : world.vault.settings.initialized = false → world.vault.settings.stakeToken = none
  covered : ∀ token, (∀ other, world.vault.settings.stakeToken = some other → other = token) →
    0 ≤ world.surplus token

theorem solvent_fresh (self : Address) (tokens : Tokens)
    (standard : ∀ token, 0 ≤ tokens.balance token self) : Solvent (World.fresh self tokens) where
  held _ := by simp [heldFor, World.fresh, Vault.empty, Custody.empty]
  undeployed _ := rfl
  covered token _ := by
    simpa [World.surplus, World.fresh, Vault.empty, liabilities, Custody.empty, Table.total]
      using standard token

section Steps

variable {env : Env} {pre after : World}

theorem Solvent.carry (solvent : Solvent pre) (self : after.self = pre.self)
    (custody : after.vault.custody = pre.vault.custody)
    (balance : after.tokens.balance = pre.tokens.balance)
    (stakeToken : after.vault.settings.stakeToken = pre.vault.settings.stakeToken)
    (initialized : after.vault.settings.initialized = pre.vault.settings.initialized) :
    Solvent after where
  held := custody ▸ solvent.held
  undeployed fresh := by
    rw [stakeToken]
    exact solvent.undeployed (initialized ▸ fresh)
  covered token candidate := by
    rw [stakeToken] at candidate
    simpa only [World.surplus, balance, self, custody] using solvent.covered token candidate

theorem Solvent.aside (solvent : Solvent pre) (aside : Aside pre after) : Solvent after :=
  solvent.carry aside.self aside.custody (by rw [aside.tokens]) aside.stakeToken aside.initialized

/-- In a deployed vault solvency is kept by whatever does not lower the surplus. -/
theorem Solvent.through (solvent : Solvent pre) {token : Address}
    (configured : pre.vault.settings.stakeToken = some token)
    (stakeToken : after.vault.settings.stakeToken = pre.vault.settings.stakeToken)
    (initialized : after.vault.settings.initialized = pre.vault.settings.initialized)
    (held : ∀ slashId, 0 ≤ after.vault.custody.heldFor slashId)
    (kept : pre.surplus token ≤ after.surplus token) : Solvent after where
  held
  undeployed fresh := by
    rw [stakeToken]
    exact solvent.undeployed (initialized ▸ fresh)
  covered other candidate := by
    have same : token = other := candidate token (stakeToken.trans configured)
    subst same
    have surplus := solvent.covered token fun hit has =>
      Option.mem_unique has configured
    omega

/-- The vault's balance after it pays: at most the amount is gone, and all of it when
somebody else receives it. -/
theorem balance_after_payment (tokens : Tokens) (token self receiver : Address) {amount : Int}
    (nonneg : 0 ≤ amount) : tokens.balance token self - amount ≤
      (tokens.moved token self receiver amount).balance token self := by
  rw [moved_balance]
  split
  · split <;> omega
  · omega

variable {info : StakeInfoV2}

theorem Solvent.paidOut (solvent : Solvent pre) {token staker : Address} {amount remaining : Int}
    (payable : Payable env pre staker token info) (whole : remaining = info.balance - amount)
    (accepted : pre.tokens.refusal env token pre.self amount = none) (index : RewardIndex.Storage) :
    Solvent ((pre.setActivity (pre.vault.activity.released staker)).paidOut env token staker
      info amount remaining index) := by
  refine solvent.through payable.configured rfl rfl solvent.held ?_
  have paid := balance_after_payment pre.tokens token pre.self staker
    (covered_of_accepted accepted).1
  have own := pre.vault.custody.stakeOf_of_stored payable.has
  simp only [World.surplus, World.paidOut, setActivity, liabilities_recordStake, own]
  omega

variable {staker token : Address}

theorem Solvent.withdrawn (solvent : Solvent pre) {amount : Int}
    (withdrawn : Withdrawn env pre staker token info amount after) : Solvent after := by
  obtain ⟨index, _, rfl⟩ := withdrawn.done
  exact solvent.paidOut withdrawn.payable (by omega) withdrawn.accepted index

/-- A withdrawal that stops after its payment has recorded the payment. -/
theorem Solvent.withdrawStopped (solvent : Solvent pre) {staker : Address}
    {fault : Fault StakeVaultError} (stopped : WithdrawStopped env pre staker fault after) :
    Solvent after := by
  cases stopped with
  | early => exact solvent
  | untimely | refused => exact solvent.carry rfl rfl rfl rfl rfl
  | unhooked token info index payable _ accepted =>
    exact solvent.paidOut payable (by omega) accepted index

/-- The records of a slash, before its funds are parked or burned, free the amount of
the slash. -/
theorem Solvent.slashed (solvent : Solvent pre) (sound : Sound pre)
    {provider token : Address} {info : StakeInfoV2} (severity : SlashSeverity) (reason : String)
    (slashable : Slashable env pre provider token info) :
    Solvent (pre.slashed env provider severity reason info) ∧
      0 < pre.slashTotal provider severity info ∧
      pre.surplus token + pre.slashTotal provider severity info ≤
        (pre.slashed env provider severity reason info).surplus token := by
  have freed := liabilities_slashedCustody sound slashable severity
  have pos : 0 < pre.slashTotal provider severity info := by
    have amount := sound.has slashable.has
    have staked := slashable.staked
    exact (pre.vault.custody.slashAmount_bounds provider (pre.slashBps severity)
      (by have := amount.1; omega) (sound.delegations provider)).1
  have grows : pre.surplus token + pre.slashTotal provider severity info ≤
      (pre.slashed env provider severity reason info).surplus token := by
    simp only [World.surplus, World.slashed, setSlashing, setCustody]
    omega
  refine ⟨solvent.through slashable.configured rfl rfl (fun slashId => ?_) (by omega), pos, grows⟩
  simp only [World.slashed, setSlashing, setCustody, slashedCustody,
    heldFor, slashDelegated_slashedFundsHeld]
  exact solvent.held slashId

variable {severity : SlashSeverity}

/-- A slash that returns has parked or burned no more than it took. -/
theorem Solvent.disposed (solvent : Solvent pre) (sound : Sound pre)
    {provider token : Address} {reason : String} (slashable : Slashable env pre provider token info)
    (disposed : Disposed env pre token (pre.slashTotal provider severity info)
      (pre.slashed env provider severity reason info) after) : Solvent after := by
  obtain ⟨recorded, pos, grows⟩ := solvent.slashed sound severity reason slashable
  cases disposed with
  | held =>
    have parked := recorded.held pre.vault.slashing.nextId
    refine solvent.through slashable.configured rfl rfl (fun slashId => ?_) ?_
    · simp only [setCustody, heldFor, holdFunds, read_insert]
      split
      · omega
      · exact recorded.held slashId
    · simp only [World.surplus, setCustody, liabilities_holdFunds] at grows ⊢
      omega
  | burned =>
    refine solvent.through slashable.configured rfl rfl recorded.held ?_
    simp only [World.surplus, World.setTokens, burned_balance] at grows ⊢
    simp only [World.slashed, setSlashing, setCustody, and_self, if_true] at grows ⊢
    omega

/-- A slash keeps solvency, also one whose burn is refused after its records are
written. -/
theorem Solvent.slashTried (solvent : Solvent pre) (sound : Sound pre) {provider : Address}
    {reason : String} (tried : SlashTried env pre provider severity reason after) :
    Solvent after := by
  cases tried with
  | gave slashable disposed =>
    exact (solvent.disposed sound slashable disposed).carry rfl rfl rfl rfl rfl
  | stopped stopped =>
    cases stopped with
    | early => exact solvent
    | unburned token info slashable =>
      exact (solvent.slashed sound severity reason slashable).1.carry rfl rfl rfl rfl rfl

/-- A resolution keeps solvency when it upholds the slash or pays a reversal out of
parked funds. -/
theorem Solvent.settled (solvent : Solvent pre) (sound : Sound pre) {slashId : Nat}
    {token : Address} {record : SlashRecord} {appeal : SlashAppeal} {uphold : Bool}
    (resolvable : Resolvable pre slashId token record appeal)
    (settled : Settled env pre slashId token record uphold after)
    (parked : uphold = false → 0 < pre.vault.custody.heldFor slashId) : Solvent after := by
  have released (other : Nat) : 0 ≤ (pre.vault.custody.releaseFunds slashId).heldFor other := by
    simp only [heldFor, releaseFunds, read_erase]
    split
    · exact le_refl 0
    · exact solvent.held other
  cases settled with
  | burned =>
    refine solvent.through resolvable.configured rfl rfl released ?_
    simp only [World.surplus, World.setTokens, setCustody, burned_balance,
      liabilities_releaseFunds, and_self, if_true]
    omega
  | stands => exact solvent
  | reversed =>
    have held := parked rfl
    have current := (sound.stakes record.provider).1
    have credited : ((pre.vault.custody.stakeInfo record.provider).restored
        (pre.vault.custody.heldFor slashId) env.timestamp).balance ≤
        pre.vault.custody.stakeOf record.provider + pre.vault.custody.heldFor slashId := by
      apply i128.saturatingAdd_le
      rw [Custody.stakeOf] at current
      simp only [i128_low]
      omega
    refine solvent.through resolvable.configured rfl rfl (fun other => ?_) ?_
    · simp only [setCustody, Custody.reversed, if_pos held]
      exact released other
    · simp only [World.surplus, setCustody, Custody.reversed, amountToRestore, if_pos held,
        liabilities_releaseFunds, liabilities_recordStake]
      have same : (pre.vault.custody.recordStake record.provider
          ((pre.vault.custody.stakeInfo record.provider).restored
            (pre.vault.custody.heldFor slashId) env.timestamp)).heldFor slashId =
          pre.vault.custody.heldFor slashId := rfl
      omega

theorem balance_after_unstake (tokens : Tokens) (self token staker : Address) {penalty net : Int}
    (burned : 0 ≤ penalty) (paid : 0 ≤ net) : tokens.balance token self - (penalty + net) ≤
      (unstakedTokens tokens self token staker penalty net).balance token self := by
  have afterBurn : tokens.balance token self - penalty =
      (if 0 < penalty then tokens.burned token self penalty else tokens).balance token self := by
    split
    · simp only [burned_balance, and_self, if_true]
    · omega
  simp only [unstakedTokens]
  split
  · have payment := balance_after_payment
      (if 0 < penalty then tokens.burned token self penalty else tokens) token self staker paid
    omega
  · omega

/-- The penalty and the payment of an emergency unstake together are at most its stake. -/
theorem Solvent.earlyUnstaked (solvent : Solvent pre) (sound : Sound pre) {penaltyBps : Nat}
    {activity : Activity} (configured : pre.vault.settings.stakeToken = some token)
    (unstaked : EarlyUnstaked env pre staker token penaltyBps info activity after) :
    Solvent after := by
  obtain ⟨has, _, _, rfl⟩ := unstaked
  have amount := sound.has has
  have own := pre.vault.custody.stakeOf_of_stored has
  have penalty : 0 ≤ emergencyPenalty info.balance penaltyBps ∧
      emergencyPenalty info.balance penaltyBps ≤ info.balance := by
    have nonneg := applyMultiplierBps_nonneg amount.1 penaltyBps
    have := amount.1
    simp only [emergencyPenalty]
    omega
  have net : i128.saturatingSub info.balance (emergencyPenalty info.balance penaltyBps) =
      info.balance - emergencyPenalty info.balance penaltyBps := by
    apply i128.clamp_of_holds
    have := amount.2
    simp only [Range.Holds, i128_low, i128_high] at this ⊢
    omega
  refine solvent.through configured rfl rfl solvent.held ?_
  have remaining := balance_after_unstake pre.tokens pre.self token staker penalty.1
    (by omega : 0 ≤ info.balance - emergencyPenalty info.balance penaltyBps)
  simp only [World.surplus, liabilities_recordStake, own, net]
  omega

/-- Every call of custody keeps solvency, unless it reverses a slash for which nothing is parked. -/
theorem Solvent.effect (solvent : Solvent pre) (sound : Sound pre) {call : Call}
    (serves : call.servesCustody = true) (parked : ∀ slashId, Reverses env pre call slashId →
      0 < pre.vault.custody.heldFor slashId)
    (effect : CallEffect env pre call after) : Solvent after := by
  cases effect with
  | initialized unused initialized deployed =>
    refine ⟨solvent.held, fun fresh => ?_, fun token _ => ?_⟩
    · simp [World.setSettings, initialized] at fresh
    · refine solvent.covered token fun other has => ?_
      simp [solvent.undeployed unused] at has
  | setting aside | upkeep aside | approval aside => exact solvent.aside aside
  | @executed caller proposalId proposal _ _ has executable performed =>
    cases performed with
    | tuned settings tuned =>
      exact solvent.carry rfl rfl rfl tuned.stakeToken tuned.initialized
    | resolved tagged token record appeal middle resolvable settled =>
      refine (solvent.settled sound resolvable settled fun reversing => ?_).carry rfl rfl rfl rfl rfl
      exact parked _ (.executed caller proposalId proposal token record appeal has executable
        tagged reversing resolvable)
  | deposited configured other _ balance =>
    refine solvent.through configured rfl rfl solvent.held ?_
    simp only [World.surplus, liabilities_recordStake, moved_balance, true_and,
      if_neg other.symm, if_true]
    omega
  | delegated configured other =>
    refine solvent.through configured rfl rfl solvent.held ?_
    simp only [World.surplus, liabilities_recordTotalDelegated,
      liabilities_recordDelegations, total_insert, moved_balance, true_and,
      if_neg other.symm, if_true]
    omega
  | withdrew withdrawn => exact (solvent.withdrawn withdrawn).carry rfl rfl rfl rfl rfl
  | @withdrewPart _ _ _ _ index _ payable _ _ accepted =>
    exact (solvent.paidOut payable rfl accepted index).carry rfl rfl rfl rfl rfl
  | served keeps =>
    refine keeps (fun world => Sound world ∧ Solvent world) Solvent (fun _ held => held.1.free)
      ?_ ?_ (fun _ held => held.2) (fun _ _ held => held.carry rfl rfl rfl rfl rfl)
      ⟨sound, solvent⟩
    · intro _ _ _ _ _ _ after held _ withdrawn
      exact ⟨(held.1.withdrawn withdrawn).carry rfl rfl rfl,
        (held.2.withdrawn withdrawn).carry rfl rfl rfl rfl rfl⟩
    · exact fun _ _ _ _ held stopped => held.2.withdrawStopped stopped
  | slashed _ slashable disposed =>
    exact (solvent.disposed sound slashable disposed).carry rfl rfl rfl rfl rfl
  | slashedEach keeps =>
    exact (keeps (fun world => Sound world ∧ Solvent world) (fun _ _ _ _ tried held =>
      ⟨held.1.slashTried tried, held.2.slashTried held.1 tried⟩) ⟨sound, solvent⟩).2
  | @resolved slashId _ _ _ _ _ solo admin resolvable settled =>
    refine (solvent.settled sound resolvable settled fun reversing => ?_).carry rfl rfl rfl rfl rfl
    subst reversing
    exact parked slashId (.one slashId _ _ _ solo admin resolvable)
  | exited _ _ configured unstaked => exact solvent.earlyUnstaked sound configured unstaked
  | queued | appealed | approved | synced => exact solvent.carry rfl rfl rfl rfl rfl
  | _ => simp [servesCustody, servesStakes] at serves

end Steps

/-- Along every run of the calls of custody in which no slash is reversed without parked
funds, the vault holds of its stake token at least all stakes, all delegations and all
parked funds together. -/
theorem vault_solvent (self : Address) (tokens : Tokens)
    (standard : ∀ token, 0 ≤ tokens.balance token self) (inputs : List Input)
    (serving : ∀ input ∈ inputs, input.2.servesCustody = true)
    (parked : ∀ taken ∈ trace step (World.fresh self tokens) inputs, ∀ slashId,
      Reverses taken.input.1 taken.pre taken.input.2 slashId →
        0 < taken.pre.vault.custody.heldFor slashId) (token : Address)
    (configured : (reached self tokens inputs).vault.settings.stakeToken = some token) :
    (reached self tokens inputs).vault.custody.liabilities ≤
      (reached self tokens inputs).tokens.balance token (reached self tokens inputs).self := by
  have invariant := guarded_invariant step (fun world => Sound world ∧ Solvent world)
    (fun world input => input.2.servesCustody = true ∧ ∀ slashId,
      Reverses input.1 world input.2 slashId → 0 < world.vault.custody.heldFor slashId)
    (fun world input guard held => ⟨sound_step input held.1, step_of_effect world held.2
      fun _ effect => held.2.effect held.1 guard.1 guard.2 effect⟩)
    (World.fresh self tokens) ⟨sound_fresh self tokens, solvent_fresh self tokens standard⟩ inputs
    (fun taken mem => ⟨serving taken.input (input_mem step mem), parked taken mem⟩)
  have surplus := invariant.2.covered token fun other has =>
    Option.mem_unique has configured
  simp only [World.surplus] at surplus
  have covered := Int.sub_nonneg.mp surplus
  exact covered

/-- Everybody but the vault of the examples has a thousand units. -/
def unfunded : Tokens := ⟨fun _ holder => if holder = 100 then 0 else 1000, 0⟩

/-- A stake and a delegation are slashed while appeals are open, the slash is appealed and
reversed, and the stake is withdrawn in part. -/
def parkedReversal : List Input :=
  [(.at 10 1 [], .initializeVault 1 9 2), (.at 10 1 [1], .setting (.setAppealWindow 86400)),
    (.at 10 1 [5], .depositStake 5 1000), (.at 10 1 [6], .delegateStake 6 5 500),
    (.at 20 2 [2], .slashStake 2 5 .minor "late signal"), (.at 30 3 [5], .appealSlash 5 0 "log"),
    (.at 40 4 [1], .resolveAppeal 0 false), (.at 50 200 [5], .partialUnstake 5 400)]

/-- The vault stays solvent through a reversal that parked funds pay for. -/
theorem parked_reversal_solvent : (reached 100 unfunded parkedReversal).vault.custody.liabilities ≤
      (reached 100 unfunded parkedReversal).tokens.balance 9
        (reached 100 unfunded parkedReversal).self := by
  refine vault_solvent 100 unfunded (fun token => by simp [unfunded]) parkedReversal (by decide)
    ?_ 9 (by decide)
  intro taken mem slashId reverses
  simp only [parkedReversal, trace, List.mem_cons, List.not_mem_nil, or_false] at mem
  rcases mem with rfl | rfl | rfl | rfl | rfl | rfl | rfl | rfl
  all_goals cases reverses
  decide

/-- A slash that was burned at once can be appealed after the window is opened, and its
reversal credits tokens that are gone. -/
theorem burned_reversal_insolvent :
    ¬ ∀ inputs : List Input, (∀ input ∈ inputs, input.2.servesCustody = true) → ∀ token,
      (reached 100 unfunded inputs).vault.settings.stakeToken = some token →
        (reached 100 unfunded inputs).vault.custody.liabilities ≤
          (reached 100 unfunded inputs).tokens.balance token
            (reached 100 unfunded inputs).self := by
  intro every
  have solvent := every [(.at 10 1 [], .initializeVault 1 9 2),
    (.at 10 1 [5], .depositStake 5 1000), (.at 20 2 [2], .slashStake 2 5 .minor "late signal"),
    (.at 30 3 [1], .setting (.setAppealWindow 86400)), (.at 40 4 [5], .appealSlash 5 0 "log"),
    (.at 50 5 [1], .resolveAppeal 0 false)] (by decide) 9 (by decide)
  revert solvent
  decide

end StellarSwipe.StakeVault
