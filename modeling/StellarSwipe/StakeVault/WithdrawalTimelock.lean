import StellarSwipe.StakeVault.Exits

/-!
# The time-lock of large withdrawals

A withdrawal of at least the threshold needs a request that has aged for the cooldown, and uses it
up.
-/

namespace StellarSwipe.StakeVault

open Program Runs Table World

/-- A call with the worlds around it. -/
abbrev Taken := Transition World Input

namespace Taken

variable (taken : Taken) (staker : Address)

def time : Nat := taken.input.1.timestamp

/-- The withdrawal cooldown in force at the call. -/
def cooldown : Nat := taken.pre.vault.settings.withdrawalCooldown

/-- What the staker withdraws in the call: its whole stake, or the part it names. -/
def withdrawn : Int :=
  match taken.input.2 with
  | .withdrawStake account =>
    if account = staker ∧ Accepts (withdrawStake taken.input.1 staker) taken.pre then
      taken.pre.vault.custody.stakeOf staker
    else 0
  | .partialUnstake account amount =>
    if account = staker ∧ Accepts (partialUnstake taken.input.1 staker amount) taken.pre then
      amount
    else 0
  | _ => 0

/-- The call withdraws at least the threshold. -/
def Large : Prop := largeWithdrawalThreshold ≤ taken.withdrawn staker

/-- The call is a withdrawal request that the vault records. -/
def Requests : Prop :=
  taken.input.2 = .upkeep (.requestWithdrawal staker) ∧
    Accepts (requestWithdrawal taken.input.1 staker) taken.pre ∧
    largeWithdrawalThreshold ≤ taken.pre.vault.custody.stakeOf staker

/-- The staker has a request on record after the call. -/
def Standing : Prop :=
  taken.after.vault.activity.largeWithdrawalRequestedAt.lookup staker ≠ none

/-- Before the call the staker made a request that has aged for the cooldown and that no
large withdrawal has used up since. -/
def Covered (past : List Taken) : Prop :=
  ∃ prior request later, past = prior ++ request :: later ∧ request.Requests staker ∧
    laterBy request.time taken.cooldown ≤ taken.time ∧
    ∀ between ∈ later, between.Standing staker ∧ ¬ between.Large staker

end Taken

def withdrawnIn (staker : Address) (span : List Taken) : Int :=
  (span.map fun taken => taken.withdrawn staker).sum

/-- The span together with its last call is shorter than the cooldown. -/
def WithinCooldown (span : List Taken) (last : Taken) : Prop :=
  ∀ taken ∈ span, last.time < taken.time + last.cooldown

/-- The withdrawals of every span that ends with the call and is shorter than the
cooldown are covered by a request when they total at least the threshold. -/
def TimelockHeld (staker : Address) (past : List Taken) (last : Taken) : Prop :=
  ∀ prior span, past = prior ++ span → WithinCooldown span last →
    largeWithdrawalThreshold ≤ withdrawnIn staker (span ++ [last]) →
    ∃ pre taken after, span ++ [last] = pre ++ taken :: after ∧
      taken.Covered staker (prior ++ pre)

section Calls

variable {env : Env} {pre after : World} {staker : Address}

/-- The moment of the staker's request on record. -/
def World.requestedAt (world : World) (staker : Address) : Option Nat :=
  world.vault.activity.largeWithdrawalRequestedAt.lookup staker

theorem requestedAt_consumed (activity : Activity) (staker account : Address) (amount : Int) :
    (activity.consumed account amount).largeWithdrawalRequestedAt.lookup staker =
      if staker = account ∧ largeWithdrawalThreshold ≤ amount then none
      else activity.largeWithdrawalRequestedAt.lookup staker := by
  simp only [Activity.consumed]
  by_cases large : largeWithdrawalThreshold ≤ amount
  · simp only [large, if_true, and_true, lookup_erase]
  · simp only [large, if_false, and_false]

theorem Withdrawn.requestedAt {account token : Address} {info : StakeInfoV2} {amount : Int}
    (withdrawn : Withdrawn env pre account token info amount after) : after.requestedAt staker =
      if staker = account ∧ largeWithdrawalThreshold ≤ info.balance then none
      else pre.requestedAt staker := by
  obtain ⟨index, _, rfl⟩ := withdrawn.done
  exact requestedAt_consumed _ _ _ _

theorem WithdrawStopped.requestedAt {account : Address} {fault : Fault StakeVaultError}
    (stopped : WithdrawStopped env pre account fault after) :
    after.requestedAt staker = none ∨ after.requestedAt staker = pre.requestedAt staker := by
  cases stopped with
  | early | untimely | refused => exact .inr rfl
  | unhooked token info =>
    have consumed := requestedAt_consumed (pre.vault.activity.released account) staker account
      info.balance
    by_cases used : staker = account ∧ largeWithdrawalThreshold ≤ info.balance
    · exact .inl (consumed.trans (if_pos used))
    · exact .inr (consumed.trans (if_neg used))

/-- A full withdrawal that returns was on time and used its request up. -/
theorem withdrawStake_request (staker account : Address) : wp (withdrawStake env account)
      (fun _ after => TimelockElapsed env pre account (pre.vault.custody.stakeOf account) ∧
        after.requestedAt staker = if staker = account ∧
              largeWithdrawalThreshold ≤ pre.vault.custody.stakeOf account then none
          else pre.requestedAt staker) (fun _ _ => True) pre := by
  apply wp_then (withdrawStake_spec env pre account) ?_
  rintro _ _ ⟨_, info, middle, limits, withdrawn, rfl⟩
  rw [Custody.stakeOf_of_stored _ withdrawn.payable.has]
  exact ⟨withdrawn.timely.2, withdrawn.requestedAt⟩

theorem partialUnstake_request (staker account : Address) (amount : Int) :
    wp (partialUnstake env account amount)
      (fun _ after => TimelockElapsed env pre account amount ∧ after.requestedAt staker =
          if staker = account ∧ largeWithdrawalThreshold ≤ amount then none
          else pre.requestedAt staker) (fun _ _ => True) pre := by
  simp only [partialUnstake, requireRateLimit, wlp_rules, wp_notPaused, wp_auth,
    wp_recordAction, doPartialUnstake, wp_withExecutionLock]
  intro _ _ _ _ free
  simp only [doPartialUnstakeLocked, getActiveStake, wlp_rules, wp_getStakeToken,
    wp_requireLockupReleased, Fault.holds_error]
  intro token _ info _ _ _ _ _ _
  apply wp_mono (requireTimelock_spec env _ account amount)
  · rintro _ _ ⟨rfl, elapsed⟩ _
    apply wp_mono (payAndRecord_spec env _ token account info amount _)
    · rintro _ _ ⟨_, _, index, _, rfl⟩
      exact ⟨elapsed, requestedAt_consumed _ _ _ _⟩
    · intro fault _ _
      cases fault <;> trivial
  · intro fault _ _
    cases fault <;> trivial

theorem processUnstakeQueue_request (limit : Nat)
    (free : pre.vault.activity.executionLock = false) : wp (processUnstakeQueue env limit)
      (fun _ after => after.requestedAt staker = none ∨
        after.requestedAt staker = pre.requestedAt staker) (fun _ _ => True) pre := by
  have onward {world after : World}
      (reached : world.requestedAt staker = none ∨
        world.requestedAt staker = pre.requestedAt staker)
      (next : after.requestedAt staker = none ∨
        after.requestedAt staker = world.requestedAt staker) :
      after.requestedAt staker = none ∨ after.requestedAt staker = pre.requestedAt staker := by
    rcases next with gone | same
    · exact .inl gone
    · rwa [same]
  apply wp_then (processUnstakeQueue_kept env pre limit)
  intro _ _ kept
  apply kept (fun world => (world.requestedAt staker = none ∨
      world.requestedAt staker = pre.requestedAt staker) ∧
        world.vault.activity.executionLock = false)
    (fun world => world.requestedAt staker = none ∨
      world.requestedAt staker = pre.requestedAt staker)
    (fun _ held => held.2) ?_ ?_ (fun _ held => held.1) (fun _ _ reached => reached)
    ⟨.inr rfl, free⟩
  · intro _ world request _ info _ after held _ withdrawn
    refine ⟨onward held.1 ?_, withdrawn.untouched.2.trans held.2⟩
    by_cases used : staker = request.user ∧ largeWithdrawalThreshold ≤ info.balance
    · exact .inl (withdrawn.requestedAt.trans (if_pos used))
    · exact .inr (withdrawn.requestedAt.trans (if_neg used))
  · intro _ _ _ _ held stopped
    exact onward held.1 stopped.requestedAt

/-- The calls that are neither a request nor a payment keep the requests. -/
theorem exec_requestedAt {call : Call} (silent : match call with
      | .upkeep (.requestWithdrawal _) | .withdrawStake _ | .partialUnstake _ _ => False
      | .processUnstakeQueue _ => False
      | _ => True) :
    wp (exec env call) (fun _ after => after.requestedAt staker = pre.requestedAt staker)
      (fun _ _ => True) pre := by
  have bystanding (bystander : call.Bystander) :
      wp (exec env call) (fun _ after => after.requestedAt staker = pre.requestedAt staker)
        (fun _ _ => True) pre := by
    apply wp_then (bystander_quiet bystander) ?_
    intro _ after quiet
    simp only [requestedAt, quiet.requests]
  have relocked (activity : Activity) (provider : Address) (ledgers : Nat) :
      (activity.locked env provider ledgers).largeWithdrawalRequestedAt =
        activity.largeWithdrawalRequestedAt := by
    simp only [Activity.locked]
    split <;> rfl
  cases call
  case withdrawStake => exact absurd silent id
  case partialUnstake => exact absurd silent id
  case processUnstakeQueue => exact absurd silent id
  case elsewhere => exact rfl
  case slashStake caller provider severity reason =>
    rw [exec, wp_discard]
    apply wp_then (slashStake_spec env pre caller provider severity reason) ?_
    rintro _ _ ⟨_, _, _, _, _, _, _, rfl⟩
    simp only [requestedAt, setActivity, relocked]
  case batchSlashStake caller providers severities reason =>
    rw [exec, wp_discard]
    apply batchSlashStake_rule env pre caller providers severities reason
      (fun after => after.requestedAt staker = pre.requestedAt staker) ?_ rfl
    intro _ entry mem held
    apply attempts_rule mem (fun after => after.requestedAt staker = pre.requestedAt staker)
      (wp_mono (doSlash_spec env entry.pre _ _ _) ?_ ?_)
    · rintro _ _ ⟨_, _, middle, _, _, disposed, rfl⟩
      simpa only [requestedAt, setActivity, relocked] using held
    · rintro _ _ ⟨_, stopped⟩
      cases stopped <;> exact held
  case approveEmergencyUnstake signer account =>
    simp only [exec, approveEmergencyUnstake, getEmergencyConfig, getEmergencyRequest,
      removeRequest, saveRequest, wlp_rules, wp_auth, wp_getStakeToken, wp_ite, true_and]
    intro _ token _ config _ _ request _ _ _
    refine ⟨fun _ => ?_, fun _ => rfl⟩
    apply wp_then (executeEarlyUnstake_spec env pre account token config.penaltyBps) ?_
    rintro _ _ ⟨info, _, _, _, rfl⟩
    exact rfl
  case upkeep upkeep =>
    cases upkeep
    case requestWithdrawal => exact absurd silent id
    case releaseProviderLockup provider =>
      simp only [exec, Upkeep.exec, wp_requireLockupReleased, implies_true, and_true]
      exact fun _ => rfl
    all_goals exact bystanding trivial
  all_goals exact bystanding trivial

theorem requestWithdrawal_request (staker account : Address) : wp (requestWithdrawal env account)
      (fun _ after => after.requestedAt staker =
        if staker = account ∧ largeWithdrawalThreshold ≤ pre.vault.custody.stakeOf account then
          some env.timestamp else pre.requestedAt staker) (fun _ _ => True) pre := by
  simp only [requestWithdrawal, wlp_rules, wp_auth, wp_notPaused, wp_ite]
  refine fun _ _ => ⟨fun small => ?_, fun large => ?_⟩
  · rw [if_neg fun recorded => not_le_of_gt small recorded.2]
  · simp only [requestedAt, setActivity, lookup_insert, not_lt.mp large, and_true]

end Calls

section Steps

variable {staker : Address} {input : Input} {pre : World}

/-- A call with the worlds around it, as a step takes it. -/
def taking (input : Input) (pre : World) : Taken := ⟨pre, input, step input pre⟩

/-- What a call does to the staker's request: the request is gone, a new one is made, or
it stays and the call withdraws less than the threshold. -/
inductive RequestStep (staker : Address) (taken : Taken) : Prop
  | gone (absent : taken.after.requestedAt staker = none)
  | made (requests : taken.Requests staker)
      (recorded : taken.after.requestedAt staker = some taken.time)
  | kept (same : taken.after.requestedAt staker = taken.pre.requestedAt staker)
      (small : ¬ taken.Large staker)

theorem small_of_nothing {taken : Taken} (nothing : taken.withdrawn staker = 0) :
    ¬ taken.Large staker := by
  rw [Taken.Large, nothing]
  decide

theorem RequestStep.ofPayment {taken : Taken} (account : Address) (amount : Int)
    (requested : taken.after.requestedAt staker =
      if staker = account ∧ largeWithdrawalThreshold ≤ amount then none
      else taken.pre.requestedAt staker)
    (withdrawn : taken.withdrawn staker = if account = staker then amount else 0) :
    RequestStep staker taken := by
  by_cases used : staker = account ∧ largeWithdrawalThreshold ≤ amount
  · exact .gone (requested.trans (if_pos used))
  · apply RequestStep.kept (requested.trans (if_neg used))
    rw [Taken.Large, withdrawn]
    split
    next same => exact fun large => used ⟨same.symm, large⟩
    next => decide

theorem step_request (free : pre.vault.activity.executionLock = false) :
    RequestStep staker (taking input pre) := by
  obtain ⟨env, call⟩ := input
  have keeps (nothing : (taking (env, call) pre).withdrawn staker = 0)
      (same : wp (exec env call)
        (fun _ after => after.requestedAt staker = pre.requestedAt staker) (fun _ _ => True)
        pre) : RequestStep staker (taking (env, call) pre) :=
    .kept (@step_rule (fun after => after.requestedAt staker = pre.requestedAt staker) _ _ rfl
      same) (small_of_nothing nothing)
  cases call
  case withdrawStake account =>
    by_cases returns : Accepts (withdrawStake env account) pre
    · obtain ⟨_, ran⟩ := gave_of_accepts returns
      have requested := (wp_ok (withdrawStake_request staker account) ran).2
      refine .ofPayment account (pre.vault.custody.stakeOf account) (by
        simpa only [taking, step, exec, invoke_discard] using requested) ?_
      simp only [Taken.withdrawn, taking]
      by_cases same : account = staker
      · subst same
        simp only [returns, and_self, if_true]
      · simp only [same, false_and, if_false]
    · refine .kept ?_ (small_of_nothing ?_)
      · simp only [taking, step, exec, invoke_discard, invoke_of_rejected returns]
      · simp only [Taken.withdrawn, taking]
        apply if_neg
        rintro ⟨rfl, gave⟩
        exact returns gave
  case partialUnstake account amount =>
    by_cases returns : Accepts (partialUnstake env account amount) pre
    · obtain ⟨_, ran⟩ := gave_of_accepts returns
      have requested := (wp_ok (partialUnstake_request staker account amount) ran).2
      refine .ofPayment account amount (by
        simpa only [taking, step, exec, invoke_discard] using requested) ?_
      simp only [Taken.withdrawn, taking]
      by_cases same : account = staker
      · subst same
        simp only [returns, and_self, if_true]
      · simp only [same, false_and, if_false]
    · refine .kept ?_ (small_of_nothing ?_)
      · simp only [taking, step, exec, invoke_discard, invoke_of_rejected returns]
      · simp only [Taken.withdrawn, taking]
        apply if_neg
        rintro ⟨rfl, gave⟩
        exact returns gave
  case processUnstakeQueue limit =>
    have used : (step (env, .processUnstakeQueue limit) pre).requestedAt staker = none ∨
        (step (env, .processUnstakeQueue limit) pre).requestedAt staker =
          pre.requestedAt staker := by
      apply @step_rule (fun after => after.requestedAt staker = none ∨
        after.requestedAt staker = pre.requestedAt staker) _ _ (.inr rfl)
      rw [exec, wp_discard]
      exact processUnstakeQueue_request limit free
    rcases used with absent | same
    · exact .gone absent
    · exact .kept same (small_of_nothing rfl)
  case upkeep upkeep =>
    cases upkeep
    case requestWithdrawal account =>
      by_cases returns : Accepts (requestWithdrawal env account) pre
      · obtain ⟨_, ran⟩ := gave_of_accepts returns
        have requested := wp_ok (requestWithdrawal_request staker account) ran
        have reached : (taking (env, .upkeep (.requestWithdrawal account)) pre).after = _ :=
          invoke_of_ok ran
        by_cases recorded : staker = account ∧
            largeWithdrawalThreshold ≤ pre.vault.custody.stakeOf account
        · obtain ⟨rfl, large⟩ := recorded
          refine .made ⟨rfl, returns, large⟩ ?_
          rw [reached, requested, if_pos ⟨rfl, large⟩]
          rfl
        · refine .kept ?_ (small_of_nothing rfl)
          rw [reached, requested, if_neg recorded]
          rfl
      · refine .kept ?_ (small_of_nothing rfl)
        simp only [taking, step, exec, Upkeep.exec, invoke_of_rejected returns]
    all_goals exact keeps rfl (exec_requestedAt trivial)
  all_goals exact keeps rfl (exec_requestedAt trivial)

/-- A large withdrawal found a request that had aged for the cooldown. -/
theorem large_elapsed (large : (taking input pre).Large staker) :
    ∃ requestedAt, pre.requestedAt staker = some requestedAt ∧
      laterBy requestedAt (taking input pre).cooldown ≤ (taking input pre).time := by
  obtain ⟨env, call⟩ := input
  cases call
  case withdrawStake account =>
    by_cases returns : account = staker ∧ Accepts (withdrawStake env staker) pre
    · obtain ⟨rfl, gave⟩ := returns
      obtain ⟨_, ran⟩ := gave_of_accepts gave
      apply (wp_ok (withdrawStake_request account account) ran).1
      simpa only [Taken.Large, Taken.withdrawn, taking, gave, and_self, if_true] using large
    · refine absurd large (small_of_nothing ?_)
      simp only [Taken.withdrawn, taking]
      exact if_neg returns
  case partialUnstake account amount =>
    by_cases returns : account = staker ∧ Accepts (partialUnstake env staker amount) pre
    · obtain ⟨rfl, gave⟩ := returns
      obtain ⟨_, ran⟩ := gave_of_accepts gave
      apply (wp_ok (partialUnstake_request account account amount) ran).1
      simpa only [Taken.Large, Taken.withdrawn, taking, gave, and_self, if_true] using large
    · refine absurd large (small_of_nothing ?_)
      simp only [Taken.withdrawn, taking]
      exact if_neg returns
  all_goals exact absurd large (small_of_nothing rfl)

end Steps

/-- The staker's request on record was made before, and has stood since without a large
withdrawal. -/
structure RequestLog (staker : Address) (past : List Taken) (world : World) : Prop where
  free : world.vault.activity.executionLock = false
  logged : ∀ requestedAt, world.requestedAt staker = some requestedAt →
    ∃ prior request later, past = prior ++ request :: later ∧ request.Requests staker ∧
      request.time = requestedAt ∧ ∀ between ∈ later, between.Standing staker ∧
        ¬ between.Large staker

section Log

variable {staker : Address} {past : List Taken} {world : World} {input : Input}

theorem RequestLog.step (log : RequestLog staker past world) :
    RequestLog staker (past ++ [taking input world]) (StakeVault.step input world) where
  free := step_of_effect world log.free fun _ effect => (Gated.effect log.free effect).free
  logged requestedAt has := by
    cases (step_request log.free : RequestStep staker (taking input world)) with
    | gone absent => exact absurd (absent.symm.trans has) (by simp)
    | made requests recorded =>
      obtain rfl := Option.some.inj (recorded.symm.trans has)
      exact ⟨past, taking input world, [], rfl, requests, rfl, by simp⟩
    | kept same small =>
      obtain ⟨prior, request, later, rfl, requests, time, since⟩ :=
        log.logged requestedAt (same.symm.trans has)
      have standing : (taking input world).Standing staker := fun absent =>
        Option.some_ne_none _ (has.symm.trans absent)
      refine ⟨prior, request, later ++ [taking input world], by simp, requests, time, ?_⟩
      intro between mem
      rcases mem_snoc.mp mem with pre | rfl
      · exact since between pre
      · exact ⟨standing, small⟩

theorem RequestLog.covers (log : RequestLog staker past world)
    (large : (taking input world).Large staker) : (taking input world).Covered staker past := by
  obtain ⟨requestedAt, has, aged⟩ := large_elapsed large
  obtain ⟨prior, request, later, placed, requests, time, since⟩ := log.logged requestedAt has
  refine ⟨prior, request, later, placed, requests, ?_, since⟩
  rw [time]
  exact aged

end Log

/-- In every run each large withdrawal is covered by a request of its own. -/
theorem large_covered (self : Address) (tokens : Tokens) (inputs : List Input) (staker : Address)
    {past later : List Taken} {taken : Taken}
    (split : trace step (fresh self tokens) inputs = past ++ taken :: later)
    (large : taken.Large staker) : taken.Covered staker past := by
  obtain ⟨same, starts, steps⟩ := transitions_split step _ split
  have log : RequestLog staker past taken.pre := by
    have logged := history_invariant step (RequestLog staker) (fun _ _ => True)
      (fun _ _ _ _ log => log.step) (fresh self tokens)
      ⟨rfl, fun _ absent => by cases absent⟩ (past.map Transition.input) fun _ _ => trivial
    rwa [same, ← starts] at logged
  have taking : taken = taking taken.input taken.pre := by
    rw [StakeVault.taking, ← steps]
  rw [taking] at large ⊢
  exact log.covers large

/-- In every run the withdrawals of every span that are not all below the threshold are
covered by a request: one made at least the cooldown before a withdrawal of the span and
not used up by a large withdrawal in between. -/
theorem large_spans_covered (self : Address) (tokens : Tokens) (inputs : List Input)
    (staker : Address) {prior span later : List Taken} {last : Taken}
    (split : trace step (fresh self tokens) inputs = prior ++ span ++ last :: later)
    (large : ∃ taken ∈ span ++ [last], taken.Large staker) :
    ∃ pre taken after, span ++ [last] = pre ++ taken :: after ∧
      taken.Covered staker (prior ++ pre) := by
  obtain ⟨taken, mem, large⟩ := large
  obtain ⟨pre, after, placed⟩ := List.append_of_mem mem
  refine ⟨pre, taken, after, placed, ?_⟩
  have placedInRun : trace step (fresh self tokens) inputs =
      prior ++ pre ++ taken :: (after ++ later) := by
    calc trace step (fresh self tokens) inputs
        = prior ++ (span ++ [last]) ++ later := by simp [split]
      _ = prior ++ pre ++ taken :: (after ++ later) := by simp [placed]
  exact large_covered self tokens inputs staker placedInRun large

instance (taken : Taken) (staker : Address) : Decidable (taken.Large staker) :=
  inferInstanceAs (Decidable (_ ≤ _))

instance (span : List Taken) (last : Taken) : Decidable (WithinCooldown span last) :=
  inferInstanceAs (Decidable (∀ _ ∈ _, _))

/-- Every holder of every token has a billion units. -/
def billionaires : Tokens := ⟨fun _ _ => 1000000000, 0⟩

/-- Account 7 asks for its six hundred million and withdraws them a day later. -/
def requestedExit : List Input :=
  [(.at 0 1 [], .initializeVault 1 2 3), (.at 0 2 [7], .depositStake 7 600000000),
    (.at 0 3 [7], .upkeep (.requestWithdrawal 7)), (.at 86400 4 [7], .withdrawStake 7)]

theorem requestedExit_covered :
    let run : List Taken := trace step (fresh 0 billionaires) requestedExit
    ∃ pre taken after, [] ++ [run[3]] = pre ++ taken :: after ∧
      taken.Covered 7 (run.take 3 ++ pre) :=
  let run : List Taken := trace step (fresh 0 billionaires) requestedExit
  have large : run[3].Large 7 := by decide
  large_spans_covered 0 billionaires requestedExit 7 (show run = run.take 3 ++ [] ++ run[3] :: [] from
    rfl) ⟨run[3], List.mem_singleton_self _, large⟩

/-- Account 7 withdraws two halves of the threshold in a row and never asks. -/
def unrequestedHalves : List Input :=
  [(.at 0 1 [], .initializeVault 1 2 3), (.at 0 2 [7], .depositStake 7 600000000),
    (.at 0 3 [7], .partialUnstake 7 250000000), (.at 0 4 [7], .partialUnstake 7 250000000)]

theorem halves_escape_timelock : ¬ ∀ (self : Address) (tokens : Tokens) (inputs : List Input)
    (staker : Address) (past : List Taken) (taken : Taken) (later : List Taken),
      trace step (fresh self tokens) inputs = past ++ taken :: later →
        TimelockHeld staker past taken := by
  intro every
  let run := trace step (fresh 0 billionaires) unrequestedHalves
  have split : run = run.take 3 ++ run[3] :: [] := rfl
  obtain ⟨pre, taken, after, placed, prior, request, later, hit, requests, _⟩ :=
    every 0 billionaires unrequestedHalves 7 (run.take 3) run[3] [] split (run.take 2) [run[2]] rfl
      (by decide) (by decide)
  have mem : request ∈ run := by
    have inside : request ∈ run.take 2 ++ pre := by simp [hit]
    rcases List.mem_append.mp inside with early | spanned
    · exact List.mem_of_mem_take early
    · have halves : request ∈ [run[2]] ++ [run[3]] := by simp [placed, spanned]
      rcases List.mem_append.mp halves with first | second
      · exact List.mem_singleton.mp first ▸ List.getElem_mem _
      · exact List.mem_singleton.mp second ▸ List.getElem_mem _
  have listed : request.input ∈ unrequestedHalves := input_mem step mem
  have asked := requests.1
  simp only [unrequestedHalves, List.mem_cons, List.not_mem_nil, or_false] at listed
  rcases listed with same | same | same | same <;> simp [same] at asked

end StellarSwipe.StakeVault
