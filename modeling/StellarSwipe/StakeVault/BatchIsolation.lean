import StellarSwipe.StakeVault.Integrity

/-!
# What failed batch items leave behind

The batch entry points swallow the errors of their items, so an item leaves no trace exactly when
it fails before its first write.
-/

namespace StellarSwipe.StakeVault

open Program FixedWidth Runs Table World Custody

/-- A slash that passes its checks burns at once and the token refuses. -/
def SlashBurnRefused (env : Env) (world : World) (provider : Address) (severity : SlashSeverity) :
    Prop :=
  ∃ token info, Slashable env world provider token info ∧ world.vault.settings.appealWindow = 0 ∧
    world.tokens.refusal env token world.self (world.slashTotal provider severity info) ≠ none

/-- Upholding a pending appeal burns parked funds and the token refuses. -/
def AppealBurnRefused (env : Env) (world : World) (slashId : Nat) (uphold : Bool) : Prop :=
  ∃ token record appeal, Resolvable world slashId token record appeal ∧ uphold = true ∧
    0 < world.vault.custody.heldFor slashId ∧
    world.tokens.refusal env token world.self (world.vault.custody.heldFor slashId) ≠ none

/-- A queued withdrawal reaches its payment with an elapsed lockup to clear and is then
stopped, or it passes every check and the token pays. -/
def WithdrawalReachesWrites (env : Env) (world : World) (staker : Address) : Prop :=
  ∃ token info, Payable env world staker token info ∧
    ((world.vault.activity.providerLockup.lookup staker ≠ none ∧
      (¬ Timely env world staker info.balance ∨
        world.tokens.refusal env token world.self info.balance ≠ none)) ∨
    (Timely env world staker info.balance ∧
      world.tokens.refusal env token world.self info.balance = none))

/-- The item was reported as failed. -/
def Failed {α ι : Type} (entry : Attempt World StakeVaultError α ι) : Prop :=
  ∃ error, entry.result = .error error

instance {α ι : Type} (entry : Attempt World StakeVaultError α ι) : Decidable (Failed entry) :=
  match result : entry.result with
  | .ok _ => isFalse fun ⟨_, failed⟩ => nomatch result.symm.trans failed
  | .error error => isTrue ⟨error, result⟩

/-- Every storage entry is as it was before the item. -/
def Traceless {α ι : Type} (entry : Attempt World StakeVaultError α ι) : Prop :=
  entry.after.vault = entry.pre.vault

section Items

variable {env : Env} {pre after : World} {error : StakeVaultError}

theorem swallowed {α : Type} {program : VaultProgram α} {post : α → World → Prop}
    {fault : Fault StakeVaultError → World → Prop} (specified : wp program post fault pre)
    (failed : attempt program pre = .ok (.error error) after) : fault (.error error) after := by
  have known : wlp (attempt program) (fun result after => result = .error error →
      fault (.error error) after) pre := by
    refine (wp_attempt _).mpr (wp_mono specified (fun _ _ _ other => by cases other) ?_)
    rintro (reason | _) after held
    · rintro ⟨⟩
      exact held
    · trivial
  exact wp_ok known failed rfl

theorem failed_slash_traceless_iff (sound : Sound pre) {provider : Address}
    {severity : SlashSeverity} {reason : String}
    (failed : attempt (doSlash env provider severity reason) pre = .ok (.error error) after) :
    after.vault = pre.vault ↔ ¬ SlashBurnRefused env pre provider severity := by
  obtain ⟨_, stopped⟩ := swallowed (doSlash_spec env pre provider severity reason) failed
  cases stopped with
  | early blocked =>
    refine iff_of_true rfl ?_
    rintro ⟨token, info, slashable, _⟩
    exact blocked token info slashable
  | unburned token info slashable closed failure refused =>
    refine iff_of_false (fun same => ?_)
      (not_not_intro ⟨token, info, slashable, closed, by simp [refused]⟩)
    -- the provider's own stake is smaller than it was
    have amount := sound.has slashable.has
    have pos : 0 < info.balance := by
      have := amount.1
      have := slashable.staked
      omega
    have taken := slashShare_bounds pos (pre.slashBps severity)
    obtain ⟨exactly, _⟩ :=
      StakeInfoV2.slashed_balance amount (pre.slashBps severity) env.timestamp
    have reduced := congrArg (fun vault => vault.custody.stakeOf provider) same
    simp only [World.setTokens, slashed, setSlashing, setCustody,
      slashedCustody, stakeOf_slashDelegated, stakeOf_recordStake, if_true,
      pre.vault.custody.stakeOf_of_stored slashable.has, exactly, ownSlash,
      if_pos pos] at reduced
    omega

/-- A failed resolution leaves no trace unless the burn of parked funds was refused. -/
theorem failed_resolution_traceless_iff {slashId : Nat} {uphold : Bool}
    (failed : attempt (doResolveAppeal env slashId uphold) pre = .ok (.error error) after) :
    after.vault = pre.vault ↔ ¬ AppealBurnRefused env pre slashId uphold := by
  obtain ⟨_, stopped⟩ := swallowed (doResolveAppeal_spec env pre slashId uphold) failed
  cases stopped with
  | early blocked =>
    refine iff_of_true rfl ?_
    rintro ⟨token, record, appeal, resolvable, _⟩
    exact blocked token record appeal resolvable
  | unburned token record appeal resolvable upheld parked failure refused =>
    refine iff_of_false (fun same => ?_)
      (not_not_intro ⟨token, record, appeal, resolvable, upheld, parked, by simp [refused]⟩)
    have emptied := congrArg (fun vault => vault.custody.heldFor slashId) same
    simp only [World.setTokens, setCustody, heldFor, releaseFunds,
      read_erase, if_true] at emptied
    simp only [heldFor] at parked
    omega

theorem failed_withdrawal_traceless_iff (free : pre.vault.activity.executionLock = false)
    {staker : Address} (failed : attempt (doWithdraw env staker) pre = .ok (.error error) after) :
    after.vault = pre.vault ↔ ¬ WithdrawalReachesWrites env pre staker := by
  have determined {token other : Address} {info hit : StakeInfoV2}
      (first : Payable env pre staker token info)
      (second : Payable env pre staker other hit) : token = other ∧ info = hit :=
    ⟨Option.mem_unique first.configured second.configured,
      Option.mem_unique first.has second.has⟩
  have cleared : pre.setActivity (pre.vault.activity.released staker) = pre ↔
      pre.vault.activity.providerLockup.lookup staker = none := by
    constructor
    · intro same
      have gone := congrArg (fun world => world.vault.activity.providerLockup.lookup staker) same
      simpa [setActivity, Activity.released] using gone.symm
    · intro absent
      simp only [Activity.released, erase_of_absent absent, setActivity]
  have cleared_vault : (pre.setActivity (pre.vault.activity.released staker)).vault =
      pre.vault ↔ pre.vault.activity.providerLockup.lookup staker = none := by
    rw [← cleared]
    exact ⟨fun same => congrArg (fun vault => (⟨pre.self, vault, pre.tokens⟩ : World)) same,
      congrArg World.vault⟩
  have stopped := swallowed (doWithdraw_spec env pre staker free) failed
  cases stopped with
  | early _ blocked =>
    refine iff_of_true rfl ?_
    rintro ⟨token, info, payable, _⟩
    exact blocked token info payable
  | untimely _ token info payable late =>
    rw [cleared_vault]
    constructor
    · rintro absent ⟨_, _, other, locked | paid⟩
      · exact locked.1 absent
      · obtain ⟨rfl, rfl⟩ := determined payable other
        exact late paid.1
    · intro avoided
      by_contra present
      exact avoided ⟨token, info, payable, Or.inl ⟨present, Or.inl late⟩⟩
  | refused _ token info payable timely failure refusal =>
    have onlyLockup : ((pre.setActivity (pre.vault.activity.released staker)).setTokens
        pre.tokens.refused).vault = pre.vault ↔
          pre.vault.activity.providerLockup.lookup staker = none := cleared_vault
    rw [onlyLockup]
    constructor
    · rintro absent ⟨_, _, other, locked | paid⟩
      · exact locked.1 absent
      · obtain ⟨rfl, rfl⟩ := determined payable other
        simp [paid.2] at refusal
    · intro avoided
      by_contra present
      exact avoided ⟨token, info, payable, Or.inl ⟨present, Or.inr (by simp [refusal])⟩⟩
  | unhooked token info index payable timely accepted =>
    refine iff_of_false (fun same => ?_)
      (not_not_intro ⟨token, info, payable, Or.inr ⟨timely, accepted⟩⟩)
    have zeroed := congrArg (fun vault => vault.custody.stakeOf staker) same
    simp only [paidOut, setActivity, stakeOf_recordStake, if_true,
      pre.vault.custody.stakeOf_of_stored payable.has] at zeroed
    exact payable.staked zeroed.symm

end Items

/-- In every reachable state, whatever the tokens do, a failed item of a batch leaves
every storage entry as it was exactly when it does not fail after its first write. -/
theorem failed_items_traceless_iff (self : Address) (tokens : Tokens) (inputs : List Input)
    (env : Env) : (∀ providers severities reason,
      ∀ entry ∈ slashAttempts env (reached self tokens inputs) providers severities reason,
        Failed entry → (Traceless entry ↔
          ¬ SlashBurnRefused env entry.pre entry.item.1 entry.item.2)) ∧ (∀ slashIds upholds,
      ∀ entry ∈ resolveAttempts env (reached self tokens inputs) slashIds upholds,
        Failed entry → (Traceless entry ↔
          ¬ AppealBurnRefused env entry.pre entry.item.1 entry.item.2)) ∧
    (∀ limit, ∀ entry ∈ servicesOf env limit (reached self tokens inputs),
      Failed entry → (Traceless entry ↔
        ¬ WithdrawalReachesWrites env entry.pre entry.item.2.user)) := by
  have sound := sound_run self tokens inputs
  refine ⟨fun providers severities reason entry mem => ?_, fun slashIds upholds entry mem =>
    ?_, fun limit entry mem => ?_⟩
  · rintro ⟨error, erred⟩
    have ran := attempts_run _ _ _ entry mem
    rw [erred] at ran
    have soundBefore := attempts_before Sound (fun item world held => wp_mono
      (doSlash_tried env world item.1 item.2 reason) (fun _ _ tried => held.slashTried tried)
      (fun _ _ tried => held.slashTried tried)) sound entry mem
    exact failed_slash_traceless_iff soundBefore ran
  · rintro ⟨error, erred⟩
    have ran := attempts_run _ _ _ entry mem
    rw [erred] at ran
    exact failed_resolution_traceless_iff ran
  · rintro ⟨error, erred⟩
    simp only [servicesOf] at mem
    split at mem
    next =>
      obtain ⟨soundBefore, _, ran⟩ := services_rule env limit _ Sound
        (fun world ticket request amount after held _ gave => by
          obtain ⟨_, _, withdrawn⟩ :=
            wp_ok (doWithdraw_spec env world request.user held.free) gave
          exact (held.withdrawn withdrawn).carry rfl rfl rfl)
        _ 0 _ _ sound entry mem
      rw [erred] at ran
      exact failed_withdrawal_traceless_iff soundBefore.free ran
    next => simp at mem

/-- A provider stakes, and its slash is tried again in a batch. -/
def stakedProvider : List Input :=
  [(.at 10 1 [], .initializeVault 1 9 2), (.at 10 1 [5], .depositStake 5 1000)]

def appealedProvider : List Input :=
  [(.at 10 1 [], .initializeVault 1 9 2), (.at 10 1 [1], .setting (.setAppealWindow 86400)),
    (.at 10 1 [5], .depositStake 5 1000), (.at 20 2 [2], .slashStake 2 5 .minor "late signal"),
    (.at 30 3 [5], .appealSlash 5 0 "evidence")]

def queuedProvider : List Input :=
  [(.at 10 1 [], .initializeVault 1 9 2), (.at 10 1 [5], .depositStake 5 1000),
    (.at 20 2 [2], .slashStake 2 5 .minor "late signal"), (.at 30 3 [5], .queueUnstake 5)]

/-- An invocation in which every token call is refused. -/
def refusing (timestamp sequence : Nat) (auths : List Address) : Env :=
  ⟨timestamp, sequence, auths, fun _ => some .hostError⟩

/-- A provider without a stake cannot be slashed, and its item leaves no trace. -/
theorem rejected_slash_traceless :
    ∃ entry ∈ slashAttempts (refusing 200 200 [2]) (reached 100 wealthy stakedProvider)
      [6] [.minor] "late signal", Failed entry ∧ Traceless entry := by
  obtain ⟨entry, mem, failed, unstaked⟩ :
      ∃ entry ∈ slashAttempts (refusing 200 200 [2]) (reached 100 wealthy stakedProvider)
        [6] [.minor] "late signal", Failed entry ∧
          entry.pre.vault.custody.stakesV2.lookup entry.item.1 = none := by decide
  refine ⟨entry, mem, failed, ((failed_items_traceless_iff 100 wealthy stakedProvider
    (refusing 200 200 [2])).1 _ _ _ entry mem failed).mpr ?_⟩
  rintro ⟨_, _, slashable, _⟩
  exact Option.some_ne_none _ (slashable.has.symm.trans unstaked)

/-- Each kind of batch can fail an item and keep what it wrote: a refused burn leaves
a slash recorded and the stake reduced, a refused burn leaves an appeal without its
parked funds, and a refused payment leaves a lockup cleared. -/
theorem failed_items_leave_traces :
    (¬ ∀ entry ∈ slashAttempts (refusing 200 200 [2]) (reached 100 wealthy stakedProvider)
      [5] [.minor] "late signal", Failed entry → Traceless entry) ∧
    (¬ ∀ entry ∈ resolveAttempts (refusing 200 200 [1]) (reached 100 wealthy appealedProvider)
      [0] [true], Failed entry → Traceless entry) ∧
    (¬ ∀ entry ∈ servicesOf (refusing 200 200 []) 1 (reached 100 wealthy queuedProvider),
      Failed entry → Traceless entry) := by
  refine ⟨fun every => ?_, fun every => ?_, fun every => ?_⟩
  · obtain ⟨entry, mem, failed, changed⟩ :
        ∃ entry ∈ slashAttempts (refusing 200 200 [2]) (reached 100 wealthy stakedProvider)
          [5] [.minor] "late signal", Failed entry ∧
            entry.after.vault.custody.stakeOf 5 ≠ entry.pre.vault.custody.stakeOf 5 := by decide
    exact changed (congrArg (fun vault => vault.custody.stakeOf 5) (every entry mem failed))
  · obtain ⟨entry, mem, failed, changed⟩ :
        ∃ entry ∈ resolveAttempts (refusing 200 200 [1]) (reached 100 wealthy appealedProvider)
          [0] [true], Failed entry ∧
            entry.after.vault.custody.heldFor 0 ≠ entry.pre.vault.custody.heldFor 0 := by decide
    exact changed (congrArg (fun vault => vault.custody.heldFor 0) (every entry mem failed))
  · obtain ⟨entry, mem, failed, changed⟩ :
        ∃ entry ∈ servicesOf (refusing 200 200 []) 1 (reached 100 wealthy queuedProvider),
          Failed entry ∧ entry.after.vault.activity.providerLockup.lookup 5 ≠
            entry.pre.vault.activity.providerLockup.lookup 5 := by decide
    exact changed (congrArg (fun vault => vault.activity.providerLockup.lookup 5)
      (every entry mem failed))

end StellarSwipe.StakeVault
