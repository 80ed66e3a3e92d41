import Mathlib.Data.List.Infix
import StellarSwipe.FeeCollector.Effects

/-!
# Retrying failed collections

A retry counts its attempt and then collects; when the collection fails the host takes the count
back.
-/

namespace StellarSwipe.FeeCollector

open Program Runs Table World List

/-- The administrator may retry the collection now: it is on record with attempts left. -/
def admitsRetry (env : Env) (world : World) (admin : Address) (id : String) : Bool :=
  world.store.settings.initialized && world.store.settings.admin == some admin &&
    decide (admin ∈ env.auths ∧ admin ≠ world.self) &&
    (world.store.failedCollections.lookup id).any fun failed =>
      decide (failed.retryCount < world.store.settings.retryConfig.maxAttempts)

namespace Taken

variable (taken : Taken) (id : String)

def sequence : Nat := taken.input.env.sequence

/-- The call attempts the collection of the id through the retry entry point. -/
def attempts : Bool :=
  match taken.input.call with
  | .retryFailedFeeCollection admin retried =>
    retried == id && admitsRetry taken.input.env taken.pre admin id
  | _ => false

/-- The record that the call queues under the id. -/
def queued : Option FailedFeeCollection :=
  match taken.input.call with
  | .queueFailedFeeCollection admin failed =>
    if failed.id = id ∧ Accepts (queueFailedFeeCollection taken.input.env admin failed) taken.pre
    then some failed else none
  | _ => none

/-- The call queues a new failed collection: nothing is on record, or no attempt is counted. -/
def starts : Bool :=
  (taken.queued id).any fun failed => failed.retryCount == 0 ||
    (taken.pre.store.failedCollections.lookup id).isNone

end Taken

/-- The attempts of a collection since a record was last queued under its id. -/
def attemptsSinceQueued (id : String) (past : List Taken) : Nat :=
  past.foldl (fun made taken => if (taken.queued id).isSome then 0
    else if taken.attempts id then made + 1 else made) 0

/-- The last calls of a run, none of which started the collection of the id. -/
def SinceStart (id : String) (past since : List Taken) : Prop :=
  since ∈ past.tails ∧ ∀ other ∈ since, other.starts id = false

/-- An attempt is within the limit and the back-off: since the collection was first queued it
was attempted fewer times than allowed, and the delay after that many attempts has passed
since each of them. -/
def AttemptTimely (id : String) (past : List Taken) (taken : Taken) : Prop :=
  taken.attempts id = true → ∀ since, SinceStart id past since →
    let config := taken.pre.store.settings.retryConfig
    let made := since.countP fun other => other.attempts id
    made < config.maxAttempts ∧
      ∀ last ∈ since, last.attempts id = true → last.sequence + config.delay made ≤ taken.sequence

/-- The administrator does what the back-off asks of its caller: a record that is queued again
counts the attempts made since, and a retry comes after that and after the delay for its count. -/
def Recovers (past : List Taken) (world : World) (input : Input) : Prop :=
  match input.call with
  | .queueFailedFeeCollection admin failed =>
    Accepts (queueFailedFeeCollection input.env admin failed) world → failed.retryCount ≠ 0 →
      ∀ has ∈ world.store.failedCollections.lookup failed.id,
        has.retryCount + attemptsSinceQueued failed.id past ≤ failed.retryCount
  | .retryFailedFeeCollection admin id =>
    admitsRetry input.env world admin id = true →
      ∀ failed ∈ world.store.failedCollections.lookup id, attemptsSinceQueued id past = 0 ∧
        ∀ since ∈ past.tails, (∀ other ∈ since, other.starts id = false) → ∀ last ∈ since,
          last.attempts id = true → last.sequence +
            world.store.settings.retryConfig.delay failed.retryCount ≤ input.env.sequence
  | _ => True

instance (past : List Taken) (world : World) (input : Input) :
    Decidable (Recovers past world input) := by
  unfold Recovers
  split <;> infer_instance

/-- Every record is kept under its own id, and counts the attempts of its collection but those
made since it was queued. -/
structure RetryLog (past : List Taken) (world : World) : Prop where
  named : ∀ id failed, world.store.failedCollections.lookup id = some failed → failed.id = id
  counted : ∀ id failed, world.store.failedCollections.lookup id = some failed → ∀ since,
    SinceStart id past since → since.countP (fun other => other.attempts id) ≤
      failed.retryCount + attemptsSinceQueued id past

/-- The delay grows with the attempts. -/
theorem RetryConfig.delay_mono (config : RetryConfig) {fewer more : Nat} (grows : fewer ≤ more) :
    config.delay fewer ≤ config.delay more := by
  have multiplied : (if fewer - 1 < 32 then asU32 (2 ^ (fewer - 1)) else u32Max) ≤
      if more - 1 < 32 then asU32 (2 ^ (more - 1)) else u32Max := by
    have power {exponent : Nat} (short : exponent < 32) : 2 ^ exponent < 2 ^ 32 :=
      Nat.pow_lt_pow_right (by decide) short
    have exact {exponent : Nat} (short : exponent < 32) : asU32 (2 ^ exponent) = 2 ^ exponent :=
      Nat.mod_eq_of_lt (power short)
    by_cases short : more - 1 < 32
    · rw [if_pos short, if_pos (by omega), exact short, exact (by omega)]
      exact Nat.pow_le_pow_right (by decide) (by omega)
    · rw [if_neg short]
      split
      next less =>
        rw [exact less]
        exact Nat.le_of_lt_succ (power less)
      next => exact le_rfl
  have product := Nat.mul_le_mul_left config.baseDelayLedgers multiplied
  simp only [RetryConfig.delay]
  split
  · exact min_le_min_right _ (min_le_min_right _ product)
  · exact min_le_min_right _ product

section Steps

variable {env : Env} {feed : Feed} {past : List Taken} {pre : World} {input : Input}

theorem step_failed (silent : input.call.KeepsFailed) :
    (step input pre).store.failedCollections = pre.store.failedCollections :=
  step_rule (fun after => after.store.failedCollections = pre.store.failedCollections) rfl
    (exec_failed _ _ pre silent)

/-- What one call does to the record of an id: it queues one, or collects it and removes it, or
leaves it as it is. -/
inductive RecordStep (id : String) (taken : Taken) : Prop
  | queued (failed : FailedFeeCollection) (queues : taken.queued id = some failed)
      (own : failed.id = id)
      (recorded : taken.after.store.failedCollections.lookup id = some failed)
  | removed (absent : taken.after.store.failedCollections.lookup id = none)
  | kept (unqueued : taken.queued id = none)
      (same : taken.after.store.failedCollections.lookup id =
        taken.pre.store.failedCollections.lookup id)

theorem queue_recordStep (admin : Address) (failed : FailedFeeCollection) (id : String) :
    RecordStep id (taking ⟨env, feed, .queueFailedFeeCollection admin failed⟩ pre) := by
  by_cases returns : Accepts (queueFailedFeeCollection env admin failed) pre
  · obtain ⟨_, ran⟩ := gave_of_accepts returns
    have recorded := wp_ok (queueFailedFeeCollection_spec env pre admin failed) ran
    have reached : (taking ⟨env, feed, .queueFailedFeeCollection admin failed⟩ pre).after =
        _ := (invoke_of_ok ran).trans recorded
    by_cases same : failed.id = id
    · refine .queued failed (if_pos ⟨same, returns⟩) same ?_
      rw [reached]
      simp only [setFailed, lookup_insert, same, if_true]
    · refine .kept (if_neg fun both => same both.1) ?_
      have other : id ≠ failed.id := fun named => same named.symm
      rw [reached]
      simp only [setFailed, lookup_insert, if_neg other, taking]
  · refine .kept (if_neg fun both => returns both.2) ?_
    simp only [taking, step, exec, invoke_of_rejected returns]

/-- A retry removes the record it collects and touches no other. -/
theorem retry_recordStep (admin : Address) (retried id : String)
    (named : ∀ failed, pre.store.failedCollections.lookup retried = some failed →
      failed.id = retried) :
    RecordStep id (taking ⟨env, feed, .retryFailedFeeCollection admin retried⟩ pre) := by
  by_cases returns : Accepts (retryFailedFeeCollection env feed admin retried) pre
  · obtain ⟨_, ran⟩ := gave_of_accepts returns
    obtain ⟨failed, middle, has, collecting, reached⟩ :=
      wp_ok (retryFailedFeeCollection_spec env feed pre admin retried) ran
    have after : (taking ⟨env, feed, .retryFailedFeeCollection admin retried⟩
        pre).after.store.failedCollections = middle.store.failedCollections.erase retried := by
      simp only [taking, step, exec, invoke_discard, reached]
      rfl
    by_cases same : id = retried
    · refine .removed ?_
      rw [after, same, lookup_erase, if_pos rfl]
    · refine .kept rfl ?_
      rw [after, lookup_erase, if_neg same, collecting.failed]
      simp only [retrying, setFailed, lookup_insert, named failed has, if_neg same, taking]
  · refine .kept rfl ?_
    simp only [taking, step, exec, invoke_discard, invoke_of_rejected returns]

theorem recordStep (input : Input) (id : String) (log : RetryLog past pre) :
    RecordStep id (taking input pre) := by
  have silent (keeps : input.call.KeepsFailed) :
      (step input pre).store.failedCollections.lookup id =
        pre.store.failedCollections.lookup id := by
    rw [step_failed keeps]
  obtain ⟨env, feed, call⟩ := input
  cases call
  case queueFailedFeeCollection admin failed => exact queue_recordStep admin failed id
  case retryFailedFeeCollection admin retried =>
    exact retry_recordStep admin retried id (log.named retried)
  all_goals exact .kept rfl (silent trivial)

theorem attemptsSinceQueued_concat (id : String) (past : List Taken) (taken : Taken) :
    attemptsSinceQueued id (past ++ [taken]) = if (taken.queued id).isSome then 0
      else if taken.attempts id then attemptsSinceQueued id past + 1
        else attemptsSinceQueued id past := by
  simp only [attemptsSinceQueued, foldl_append, foldl_cons, foldl_nil]

/-- A call that queues a record is no attempt. -/
theorem Taken.idle_of_queued {taken : Taken} {id : String} {failed : FailedFeeCollection}
    (queues : taken.queued id = some failed) : taken.attempts id = false := by
  obtain ⟨_, ⟨env, feed, call⟩, _⟩ := taken
  cases call
  case retryFailedFeeCollection => cases queues
  all_goals rfl

/-- A record that is queued again counts the attempts made since the one it replaces. -/
theorem Recovers.covers {id : String} {has failed : FailedFeeCollection}
    (recovers : Recovers past pre input) (queues : (taking input pre).queued id = some failed)
    (counts : failed.retryCount ≠ 0) (known : pre.store.failedCollections.lookup id = some has) :
    has.retryCount + attemptsSinceQueued id past ≤ failed.retryCount := by
  obtain ⟨env, feed, call⟩ := input
  cases call
  case queueFailedFeeCollection admin queued =>
    obtain ⟨⟨rfl, returns⟩, same⟩ := Option.ite_none_right_eq_some.mp queues
    cases same
    exact recovers returns counts has known
  all_goals cases queues

theorem RetryLog.step (log : RetryLog past pre) (recovers : Recovers past pre input) :
    RetryLog (past ++ [taking input pre]) (FeeCollector.step input pre) where
  named id failed has := by
    cases recordStep input id log with
    | queued queued _ own recorded =>
      cases Option.mem_unique recorded has
      exact own
    | removed absent => cases absent.symm.trans has
    | kept _ same => exact log.named id failed (same.symm.trans has)
  counted id failed has since fresh := by
    obtain ⟨tail, unstarted⟩ := fresh
    rcases List.suffix_concat_iff.mp ((mem_tails _ _).mp tail) with rfl | ⟨recent, rfl, suffix⟩
    · exact Nat.zero_le _
    have prior : SinceStart id past recent :=
      ⟨(mem_tails _ _).mpr suffix, fun other mem => unstarted other (mem_append_left _ mem)⟩
    have last := unstarted _ (mem_append_right _ (mem_singleton.mpr rfl))
    rw [attemptsSinceQueued_concat, countP_append, countP_singleton]
    cases recordStep input id log with
    | queued queued queues _ recorded =>
      cases Option.mem_unique recorded has
      -- Only a record that replaces one and counts attempts does not start a collection.
      simp only [Taken.starts, queues, Option.any_some, Bool.or_eq_false_iff,
        beq_eq_false_iff_ne] at last
      obtain ⟨old, known⟩ := Option.isSome_iff_exists.mp (Option.isNone_eq_false_iff.mp last.2)
      have covered := recovers.covers queues last.1 known
      have counted := log.counted id old known recent prior
      simp only [queues, Taken.idle_of_queued queues, Option.isSome_some, if_true,
        Bool.false_eq_true, if_false]
      omega
    | removed absent => cases absent.symm.trans has
    | kept unqueued same =>
      have counted := log.counted id failed (same.symm.trans has) recent prior
      simp only [unqueued, Option.isSome_none, Bool.false_eq_true, if_false]
      split <;> omega

/-- An attempt by an administrator who recovers is within the limit and after the delay. -/
theorem RetryLog.timely (log : RetryLog past pre) (recovers : Recovers past pre input)
    (id : String) : AttemptTimely id past (taking input pre) := by
  intro attempting since fresh
  obtain ⟨env, feed, call⟩ := input
  cases call
  case retryFailedFeeCollection admin retried =>
    simp only [Taken.attempts, taking, Bool.and_eq_true, beq_iff_eq] at attempting
    obtain ⟨rfl, admits⟩ := attempting
    have asked := admits
    simp only [admitsRetry, Bool.and_eq_true, Option.any_eq_true] at admits
    obtain ⟨_, failed, has, allowed⟩ := admits
    obtain ⟨queuedSince, waits⟩ := recovers asked failed has
    have counted := log.counted retried failed has since fresh
    refine ⟨?_, fun last mem attempted => ?_⟩
    · have := of_decide_eq_true allowed
      simp only [taking]
      omega
    · have waited := waits since fresh.1 fresh.2 last mem attempted
      have sooner := pre.store.settings.retryConfig.delay_mono
        (show since.countP (fun other => other.attempts retried) ≤ failed.retryCount by omega)
      simp only [taking, Taken.sequence] at waited ⊢
      omega
  all_goals cases attempting

end Steps

/-- Everyone holds a thousand of every token. -/
def thousands : Tokens := ⟨fun _ _ => 1000, 0⟩

/-- The record of a failed collection, with some attempts counted. -/
def failedTrade (attempts : Nat) : FailedFeeCollection :=
  ⟨"a", 5, 7, 1000, ⟨"XLM", none⟩, attempts, "oracle"⟩

def queueTrade (attempts : Nat) : Input :=
  ⟨.at 0 0 [1], .silent, .queueFailedFeeCollection 1 (failedTrade attempts)⟩

/-- A retry at a ledger that trader 5 has authorized. -/
def retryTrade (sequence : Nat) : Input :=
  ⟨.at 0 sequence [1, 5], .silent, .retryFailedFeeCollection 1 "a"⟩

/-- Administrator 1 starts the collector, queues the collection and pauses the collector. -/
def pausedTrade : List Input :=
  [⟨.at 0 0 [1], .silent, .setting (.initializeCollector 1)⟩, queueTrade 0,
    ⟨.at 0 0 [1], .silent, .setting .pause⟩]

/-- Three retries that all fail, queued again and after their delays. -/
def recoveredRetries : List Input :=
  pausedTrade ++ [retryTrade 1, queueTrade 1, retryTrade 6, queueTrade 2, retryTrade 16]

/-- The collector is paused, so every retry fails, all in one ledger. -/
def pausedRetries : List Input := pausedTrade ++ List.replicate 4 (retryTrade 1)

end StellarSwipe.FeeCollector
