import StellarSwipe.StakeVault.AppealGate

/-!
# The calls that guard and spend stake exits

Two kinds of entries stand between a staker and its stake: the lockup of a provider, and the
request of a large withdrawal.
-/

namespace StellarSwipe.StakeVault

open Program

/-- The lockups, the withdrawal requests and the execution lock are as they were. -/
structure Quiet (pre after : World) : Prop where
  lockups : after.vault.activity.providerLockup = pre.vault.activity.providerLockup
  requests : after.vault.activity.largeWithdrawalRequestedAt =
    pre.vault.activity.largeWithdrawalRequestedAt
  lock : after.vault.activity.executionLock = pre.vault.activity.executionLock

/-- The calls that touch neither a lockup nor a withdrawal request. -/
def Call.Bystander : Call → Prop
  | .upkeep (.releaseProviderLockup _) | .upkeep (.requestWithdrawal _) => False
  | .withdrawStake _ | .partialUnstake _ _ | .processUnstakeQueue _ => False
  | .approveEmergencyUnstake _ _ | .slashStake _ _ _ _ | .batchSlashStake _ _ _ _ => False
  | .elsewhere _ _ _ => False
  | _ => True

section Bystanders

variable {env : Env} {pre after : World}

theorem Quiet.refl (world : World) : Quiet world world := ⟨rfl, rfl, rfl⟩

theorem Quiet.trans {middle : World} (prior : Quiet pre middle)
    (later : Quiet middle after) : Quiet pre after :=
  ⟨later.lockups.trans prior.lockups, later.requests.trans prior.requests,
    later.lock.trans prior.lock⟩

theorem Quiet.ofActivity (same : after.vault.activity = pre.vault.activity) : Quiet pre after := by
  constructor <;> rw [same]

theorem depositStake_quiet (staker : Address) (amount : Int) :
    wlp (depositStake env staker amount) (fun _ after => Quiet pre after) pre := by
  simp only [depositStake, wp_bind, wp_get, wp_ensure, wp_auth, wp_notPaused,
    wp_getStakeToken, FixedWidth.Range.checkedAdd, wp_orFail_checked, wp_modify, wp_onIndex,
    wp_transfer, implies_true, and_true, true_and]
  intro _ _ _ _ _ _ _ _ _ _ _
  exact ⟨rfl, rfl, rfl⟩

theorem setting_quiet (setting : Setting) :
    wlp (setting.exec env) (fun _ after => Quiet pre after) pre := by
  apply wp_then (setting_tunes env setting pre) ?_
  rintro _ _ ⟨settings, _, rfl⟩
  exact .ofActivity rfl

theorem approval_quiet (approval : Approval) :
    wlp (approval.exec env) (fun _ after => Quiet pre after) pre := by
  apply wp_then (approval_stays env pre approval) ?_
  rintro _ _ ⟨multisig, rfl⟩
  exact .ofActivity rfl

theorem upkeep_quiet (upkeep : Upkeep) (bystander : (Call.upkeep upkeep).Bystander) :
    wlp (upkeep.exec env) (fun _ after => Quiet pre after) pre := by
  cases upkeep with
  | releaseProviderLockup | requestWithdrawal => exact absurd bystander id
  | notifyStakeBelowMinimum =>
    simp only [Upkeep.exec, notifyStakeBelowMinimum, wp_rules, wp_ite]
    exact ⟨fun _ => .refl pre, fun _ => ⟨fun _ => .refl pre, fun _ => ⟨rfl, rfl, rfl⟩⟩⟩
  | checkSignalSubmissionAllowed =>
    simp only [Upkeep.exec, checkSignalSubmissionAllowed, wlp_rules, wp_ite]
    exact ⟨fun _ => ⟨rfl, rfl, rfl⟩, fun _ _ => .refl pre⟩
  | requestEmergencyUnstake =>
    simp only [Upkeep.exec, requestEmergencyUnstake, getEmergencyConfig, saveRequest, wlp_rules,
      wp_auth]
    exact fun _ _ _ _ _ => ⟨rfl, rfl, rfl⟩
  | expireEmergencyRequest =>
    simp only [Upkeep.exec, expireEmergencyRequest, getEmergencyConfig, getEmergencyRequest,
      removeRequest, wlp_rules]
    exact fun _ _ _ _ _ => ⟨rfl, rfl, rfl⟩

theorem Settled.quiet {slashId : Nat} {token : Address} {record : SlashRecord} {uphold : Bool}
    (settled : Settled env pre slashId token record uphold after) : Quiet pre after := by
  cases settled <;> exact .ofActivity rfl

theorem ResolveTried.quiet {slashId : Nat} {uphold : Bool}
    (tried : ResolveTried env pre slashId uphold after) : Quiet pre after := by
  cases tried with
  | gave _ settled => exact settled.quiet.trans (.ofActivity rfl)
  | stopped stopped => cases stopped <;> exact .ofActivity rfl

theorem Performed.quiet {payload : Bytes} (performed : Performed env pre payload after) :
    Quiet pre after := by
  cases performed with
  | tuned => exact .ofActivity rfl
  | resolved _ _ _ _ _ _ settled => exact settled.quiet.trans (.ofActivity rfl)

theorem bystander_quiet {call : Call} (bystander : call.Bystander) :
    wlp (exec env call) (fun _ after => Quiet pre after) pre := by
  by_cases own : (∃ setting, call = .setting setting) ∨ (∃ upkeep, call = .upkeep upkeep) ∨
      (∃ approval, call = .approval approval) ∨ ∃ staker amount, call = .depositStake staker amount
  · rcases own with ⟨setting, rfl⟩ | ⟨upkeep, rfl⟩ | ⟨approval, rfl⟩ | ⟨staker, amount, rfl⟩
    · exact setting_quiet setting
    · exact upkeep_quiet upkeep bystander
    · exact approval_quiet approval
    · exact depositStake_quiet staker amount
  · refine wp_then (exec_effect env pre call) fun _ after effect => ?_
    cases effect with
    | setting => exact absurd (.inl ⟨_, rfl⟩) own
    | upkeep => exact absurd (.inr (.inl ⟨_, rfl⟩)) own
    | approval => exact absurd (.inr (.inr (.inl ⟨_, rfl⟩))) own
    | deposited => exact absurd (.inr (.inr (.inr ⟨_, _, rfl⟩))) own
    | withdrew | withdrewPart | served | approved | exited | slashed | slashedEach | elsewhere =>
      exact absurd bystander id
    | executed _ _ performed => exact performed.quiet.trans (.ofActivity rfl)
    | resolved _ _ _ settled => exact settled.quiet.trans (.ofActivity rfl)
    | resolvedEach keeps =>
      exact keeps (Quiet pre) (fun _ _ _ _ tried held => held.trans tried.quiet) (.refl pre)
    | _ => exact .ofActivity rfl

end Bystanders

end StellarSwipe.StakeVault
