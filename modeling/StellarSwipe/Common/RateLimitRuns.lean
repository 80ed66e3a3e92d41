import StellarSwipe.Common.RateLimit
import StellarSwipe.Library.Runs

/-!
# Runs of the rate limiter

A window starts with an action that finds the last one over, so a span as long as the window can
reach two of them: what passes in it is within twice the limit, whatever is recorded besides.
-/

namespace StellarSwipe.RateLimit

open FixedWidth Runs Table

inductive LimitCall where
  | acts (user : Address) (trustScore : Nat)
  | records (user : Address)

structure LimitInput where
  arrival : Arrival
  call : LimitCall

/-- A limited call records the actions that it lets through; others record without a check. -/
def limitStep (input : LimitInput) (ledger : Ledger Storage) : Ledger Storage where
  store :=
    match input.call with
    | .acts user trustScore =>
      if checkRateLimit ledger.store (ledger.env input.arrival) user trustScore then
        recordAction ledger.store (ledger.env input.arrival) user
      else ledger.store
    | .records user => recordAction ledger.store (ledger.env input.arrival) user
  timestamp := ledger.timestamp + input.arrival.seconds
  sequence := ledger.sequence + input.arrival.ledgers

/-- The time of a user's action that was let through. -/
def passedAt (user : Address) (taken : Transition (Ledger Storage) LimitInput) : Option Nat :=
  match taken.input.call with
  | .acts other trustScore =>
    if other = user ∧ checkRateLimit taken.pre.store (taken.pre.env taken.input.arrival)
        other trustScore then
      some (taken.pre.timestamp + taken.input.arrival.seconds)
    else none
  | .records _ => none

/-- How many of the times lie in the seconds that start with one. -/
def within (times : List Nat) (since seconds : Nat) : Nat :=
  times.countP fun time => since ≤ time ∧ time < since + seconds

/-- What passed before the window's start, in spans that reach it, and since then, is within the
limit. -/
structure Paced (seconds most start : Nat) (pre current : List Nat) : Prop where
  past : ∀ time ∈ pre, time ≤ start
  since : ∀ time ∈ current, start ≤ time
  room : current.length ≤ most
  reaching : ∀ since, start < since + seconds → within pre since seconds ≤ most
  spans : ∀ since, within pre since seconds ≤ 2 * most

section Windows

variable {seconds most start now : Nat} {pre current : List Nat}

theorem within_none {times : List Nat} {since : Nat}
    (outside : ∀ time ∈ times, time < since ∨ since + seconds ≤ time) :
    within times since seconds = 0 := by
  refine List.countP_eq_zero.mpr fun time mem inside => ?_
  have := outside time mem
  have := of_decide_eq_true inside
  omega

theorem within_append (first second : List Nat) (since : Nat) :
    within (first ++ second) since seconds =
      within first since seconds + within second since seconds :=
  List.countP_append ..

/-- Every span is within twice the limit: it lies before the window or reaches it. -/
theorem Paced.within_le (paced : Paced seconds most start pre current) (since : Nat) :
    within (pre ++ current) since seconds ≤ 2 * most := by
  rw [within_append]
  by_cases reaches : start < since + seconds
  · have := paced.reaching since reaches
    have : within current since seconds ≤ current.length := List.countP_le_length
    have := paced.room
    omega
  · rw [within_none fun time mem => .inr ((not_lt.mp reaches).trans (paced.since time mem))]
    exact paced.spans since

theorem Paced.restart (paced : Paced seconds most start pre current)
    (elapsed : start + seconds ≤ now) (upTo : ∀ time ∈ current, time ≤ now) :
    Paced seconds most now (pre ++ current) [] where
  past time mem := (List.mem_append.mp mem).elim
    (fun mem => (paced.past time mem).trans (by omega)) (upTo time)
  since _ mem := absurd mem List.not_mem_nil
  room := Nat.zero_le _
  reaching since reaches := by
    rw [within_append, within_none fun time mem => .inl ?_, Nat.zero_add]
    · exact List.countP_le_length.trans paced.room
    · have := paced.past time mem
      omega
  spans := paced.within_le

theorem Paced.pass (paced : Paced seconds most start pre current) (room : current.length < most)
    (later : start ≤ now) : Paced seconds most start pre (current ++ [now]) where
  past := paced.past
  since time mem := (List.mem_append.mp mem).elim (paced.since time)
    fun last => List.mem_singleton.mp last ▸ later
  room := by simpa using Nat.succ_le_of_lt room
  reaching := paced.reaching
  spans := paced.spans

end Windows

/-- The largest limit that a user can have. -/
def mostActions (maxActions : Nat) : Nat := min (maxActions * 2) u32Max

theorem effectiveMax_le {config : RateLimitConfig} (fits : config.maxActions ≤ u32Max)
    (firstAction now trustScore : Nat) :
    effectiveMax config firstAction now trustScore ≤ mostActions config.maxActions := by
  unfold effectiveMax mostActions
  split
  · omega
  · split <;> omega

def Counts (config : RateLimitConfig) (times : List Nat) (window : RateLimitWindow) : Prop :=
  ∃ pre current, times = pre ++ current ∧ current.length ≤ window.count ∧
    Paced config.windowSecs (mostActions config.maxActions) window.windowStart pre current

/-- The user's window, one that starts now where there is none, counts what passed. -/
structure Kept (config : RateLimitConfig) (user : Address) (ledger : Ledger Storage)
    (times : List Nat) : Prop where
  configured : getConfig ledger.store = config
  clock : ∀ time ∈ times, time ≤ ledger.timestamp
  window : ∀ now, ledger.timestamp ≤ now →
    let window := (ledger.store.window.lookup user).getD ⟨now, 0⟩
    window.windowStart ≤ now ∧ Counts config times window

section Steps

variable {config : RateLimitConfig} {user : Address} {ledger : Ledger Storage} {times : List Nat}

theorem currentCount_getD (store : Storage) (env : Env) (user : Address) (seconds : Nat) :
    currentCount store env user seconds =
      let window := (store.window.lookup user).getD ⟨env.timestamp, 0⟩
      if env.timestamp - window.windowStart < seconds then window.count else 0 := by
  cases hit : store.window.lookup user <;> simp [currentCount, hit]

/-- An action is recorded, of another user or of this one; then the new times are empty, or this
one's when it was let through. -/
theorem Kept.recorded (kept : Kept config user ledger times) {env : Env} {sequence : Nat}
    (later : ledger.timestamp ≤ env.timestamp) {actor : Address} {more : List Nat}
    (passed : more = [] ∨ actor = user ∧ more = [env.timestamp] ∧
      currentCount ledger.store env actor config.windowSecs < mostActions config.maxActions) :
    Kept config user ⟨recordAction ledger.store env actor, env.timestamp, sequence⟩
      (times ++ more) := by
  have most : mostActions config.maxActions ≤ u32Max := Nat.min_le_right _ _
  refine ⟨kept.configured, fun time mem => ?_, fun now after => ?_⟩
  · rcases List.mem_append.mp mem with mem | mem
    · exact (kept.clock time mem).trans later
    · rcases passed with rfl | ⟨_, rfl, _⟩
      · cases mem
      · exact (List.mem_singleton.mp mem).le
  simp only [recordAction, lookup_insert, kept.configured]
  by_cases own : user = actor
  · subst own
    obtain ⟨started, pre, current, rfl, counted, paced⟩ := kept.window env.timestamp later
    rw [if_pos rfl, Option.getD_some]
    simp only [currentCount_getD] at passed
    generalize (ledger.store.window.lookup user).getD ⟨env.timestamp, 0⟩ = window at *
    have room := paced.room
    rw [nextWindow]
    split
    next elapsed =>
      have restarted : Paced config.windowSecs (mostActions config.maxActions) env.timestamp
          (pre ++ current) [] := paced.restart (by omega) fun time mem =>
        (kept.clock time (List.mem_append_right _ mem)).trans later
      refine ⟨after, pre ++ current, more, rfl, ?_⟩
      rcases passed with rfl | ⟨_, rfl, below⟩
      · exact ⟨Nat.zero_le _, restarted⟩
      · exact ⟨le_min le_rfl (Nat.succ_pos _), restarted.pass (Nat.zero_lt_of_lt below) le_rfl⟩
    next running =>
      refine ⟨started.trans after, pre, current ++ more, List.append_assoc .., ?_⟩
      rcases passed with rfl | ⟨_, rfl, below⟩
      · rw [List.append_nil]
        exact ⟨le_min (counted.trans (Nat.le_succ _)) (room.trans most), paced⟩
      · rw [if_pos (not_le.mp running)] at below
        have more := counted.trans_lt below
        rw [List.length_append]
        exact ⟨le_min (Nat.succ_le_succ counted) (Nat.succ_le_of_lt (more.trans_le most)),
          paced.pass more started⟩
  · rcases passed with rfl | ⟨same, _⟩
    · rw [if_neg own, List.append_nil]
      exact kept.window now (later.trans after)
    · exact absurd same.symm own

theorem Kept.step (fits : config.maxActions ≤ u32Max)
    {past : List (Transition (Ledger Storage) LimitInput)}
    (input : LimitInput) (kept : Kept config user ledger (past.filterMap (passedAt user))) :
    Kept config user (limitStep input ledger)
      ((past ++ [Transition.mk ledger input (limitStep input ledger)]).filterMap (passedAt user)) := by
  have later : ledger.timestamp ≤ (ledger.env input.arrival).timestamp := Nat.le_add_right _ _
  rw [List.filterMap_append]
  obtain ⟨arrival, actor | actor⟩ := input
  case records => exact kept.recorded later (.inl rfl)
  case acts trustScore =>
    simp only [limitStep, List.filterMap_cons, List.filterMap_nil, passedAt]
    by_cases allowed : checkRateLimit ledger.store (ledger.env arrival) actor trustScore
    · simp only [allowed, if_true, and_true]
      refine kept.recorded later ?_
      by_cases own : actor = user
      · have below := allowed
        simp only [checkRateLimit, kept.configured] at below
        exact .inr ⟨own, by simp [own], lt_of_lt_of_le below (effectiveMax_le fits ..)⟩
      · exact .inl (by simp [own])
    · simp only [allowed, if_false, and_false, List.append_nil]
      exact ⟨kept.configured, fun time mem => (kept.clock time mem).trans later,
        fun now after => kept.window now (later.trans after)⟩

end Steps

/-- In any span as long as the window, whatever is recorded besides, at most twice the largest limit
of a user's actions are let through. -/
theorem passed_within_twice (windowSecs : Nat) (maxActions : Fin (u32Max + 1)) (user : Address)
    (timestamp sequence since : Nat) (inputs : List LimitInput) : within ((trace limitStep
      ⟨{ Storage.empty with config := some ⟨windowSecs, maxActions⟩ }, timestamp, sequence⟩
      inputs).filterMap (passedAt user)) since windowSecs ≤ 2 * mostActions maxActions := by
  have kept := history_invariant limitStep (fun past ledger => Kept ⟨windowSecs, maxActions⟩ user
    ledger (past.filterMap (passedAt user))) (fun _ _ => True)
    (fun _ _ input _ kept => kept.step (Nat.le_of_lt_succ maxActions.2) input)
    ⟨{ Storage.empty with config := some ⟨windowSecs, maxActions⟩ }, timestamp, sequence⟩ ?_ inputs
    fun _ _ => trivial
  · obtain ⟨_, pre, current, split, _, paced⟩ := kept.window _ le_rfl
    rw [split]
    exact paced.within_le since
  · refine ⟨rfl, fun _ mem => absurd mem List.not_mem_nil, fun now _ => ⟨le_rfl, [], [], rfl,
      Nat.zero_le _, ?_⟩⟩
    constructor <;> simp [within]

end StellarSwipe.RateLimit
