import StellarSwipe.StakeVault.Staking

/-!
# The unstake queue

Stakers take tickets in order and are paid out in order.
-/

namespace StellarSwipe.StakeVault

open Program FixedWidth

namespace UnstakeQueue

variable (queue : UnstakeQueue)

def join (env : Env) (staker : Address) : UnstakeQueue where
  tail := some (satCount u64Max queue.tailTicket 1)
  head := queue.head
  entry := queue.entry.insert queue.tailTicket ⟨queue.tailTicket, staker, env.timestamp⟩
  userTicket := queue.userTicket.insert staker queue.tailTicket

/-- Free a served ticket's slot and its user's ticket. -/
def serve (ticket : Nat) (user : Address) : UnstakeQueue :=
  { queue with entry := queue.entry.erase ticket, userTicket := queue.userTicket.erase user }

end UnstakeQueue

/-- Queue an unstake request and return its ticket. -/
def queueUnstake (env : Env) (staker : Address) : VaultProgram Nat := do
  requireAuth env staker
  requireNotPaused
  let world ← get
  ensure (world.vault.queue.userTicket.lookup staker = none) .unstakeAlreadyQueued
  discard (getActiveStake staker)
  let queue := world.vault.queue
  ensure (queue.tailTicket - queue.headTicket < world.vault.settings.queueLimit) .queueFull
  set (world.setQueue (queue.join env staker))
  pure queue.tailTicket

/-- The ticket after a given one. -/
def nextTicket (ticket : Nat) : Nat := satCount u64Max ticket 1

/-- The world after a withdrawal from the queue has succeeded. -/
def World.served (world : World) (env : Env) (ticket : Nat) (user : Address) : World :=
  (world.setQueue (world.vault.queue.serve ticket user)).setLimits
    (RateLimit.recordAction world.vault.limits env user)

/-- The loop of `processUnstakeQueue` over at most the given number of slots: the
requests processed and the head it stops at. -/
def processLoop (env : Env) (limit tail : Nat) : Nat → Nat → Nat → VaultProgram (Nat × Nat)
  | 0, processed, currentHead => pure (processed, currentHead)
  | slots + 1, processed, currentHead =>
    if processed < limit ∧ currentHead < tail then do
      match (← get).vault.queue.entry.lookup currentHead with
      | none => processLoop env limit tail slots processed (nextTicket currentHead)
      | some request => do
        match ← attempt (doWithdraw env request.user) with
        | .ok _ => do
          modify fun world => world.served env currentHead request.user
          processLoop env limit tail slots (satCount u32Max processed 1)
            (nextTicket currentHead)
        | .error _ => pure (processed, currentHead)
    else pure (processed, currentHead)

/-- Process up to a number of queued requests from the head. -/
def processUnstakeQueue (env : Env) (limit : Nat) : VaultProgram Nat := do
  requireNotPaused
  if limit = 0 then pure 0
  else do
    let queue := (← get).vault.queue
    ensure (queue.headTicket < queue.tailTicket) .queueEmpty
    let (processed, head) ← processLoop env limit queue.tailTicket
      (queue.tailTicket - queue.headTicket) 0 queue.headTicket
    modify fun world => world.setQueue { world.vault.queue with head := some head }
    pure processed

/-- A withdrawal that the loop tries, with its ticket and its request. -/
abbrev Service := Attempt World StakeVaultError Int (Nat × UnstakeRequest)

/-- The withdrawals that the loop tries, in order. -/
def services (env : Env) (limit tail : Nat) : Nat → Nat → Nat → World → List Service
  | 0, _, _, _ => []
  | slots + 1, processed, currentHead, world =>
    if processed < limit ∧ currentHead < tail then
      match world.vault.queue.entry.lookup currentHead with
      | none => services env limit tail slots processed (nextTicket currentHead) world
      | some request =>
        match doWithdraw env request.user world with
        | .ok amount after =>
          ⟨(currentHead, request), world, .ok amount, after⟩ ::
            services env limit tail slots (satCount u32Max processed 1)
              (nextTicket currentHead) (after.served env currentHead request.user)
        | .error (.error reason) after =>
          [⟨(currentHead, request), world, .error reason, after⟩]
        | .error .trap _ => []
    else []

/-- The withdrawals that one call of `processUnstakeQueue` tries. -/
def servicesOf (env : Env) (limit : Nat) (world : World) : List Service :=
  if Accepts (processUnstakeQueue env limit) world ∧ limit ≠ 0 then
    services env limit world.vault.queue.tailTicket
      (world.vault.queue.tailTicket - world.vault.queue.headTicket) 0
      world.vault.queue.headTicket world
  else []

section Specifications

variable (env : Env) (pre : World)

theorem queueUnstake_spec (staker : Address) : wlp (queueUnstake env staker)
      (fun ticket after => ticket = pre.vault.queue.tailTicket ∧ staker ≠ pre.self ∧
        pre.vault.queue.userTicket.lookup staker = none ∧ pre.vault.custody.stakeOf staker ≠ 0 ∧
        after = pre.setQueue (pre.vault.queue.join env staker)) pre := by
  simp only [queueUnstake, getActiveStake, wlp_rules, wp_auth, wp_notPaused, true_and]
  intro authorized _ unqueued info has staked _
  refine ⟨authorized.2, unqueued, ?_⟩
  simpa [Custody.stakeOf, Custody.stakeInfo, has] using staked

/-- The loop's rule. What is known at a head carries over a slot without an entry and over a
withdrawal that succeeds; it must give what is wanted wherever the loop ends, also at a withdrawal
that fails. -/
theorem processLoop_rule (limit tail : Nat) (invariant finish : Nat → World → Prop)
    (free : ∀ head world, invariant head world → world.vault.activity.executionLock = false)
    (skips : ∀ head world, head < tail → invariant head world →
      world.vault.queue.entry.lookup head = none → invariant (nextTicket head) world)
    (serves : ∀ head world request token info amount after, head < tail → invariant head world →
      world.vault.queue.entry.lookup head = some request →
      Withdrawn env world request.user token info amount after →
      invariant (nextTicket head) (after.served env head request.user))
    (stops : ∀ head world request fault after, head < tail → invariant head world →
      world.vault.queue.entry.lookup head = some request →
      WithdrawStopped env world request.user fault after → finish head after)
    (ends : ∀ head world, invariant head world → finish head world)
    (slots processed head : Nat) (world : World) (holds : invariant head world) :
    wp (processLoop env limit tail slots processed head)
      (fun result after => finish result.2 after) (fun _ _ => False) world := by
  induction slots generalizing processed head world with
  | zero => exact ends head world holds
  | succ slots ih =>
    rw [processLoop, wp_ite]
    refine ⟨fun goesOn => ?_, fun _ => ends head world holds⟩
    simp only [wp_rules]
    cases has : world.vault.queue.entry.lookup head with
    | none =>
      exact ih processed (nextTicket head) world
        (skips head world goesOn.2 holds has)
    | some request =>
      simp only [wp_bind, wp_attempt]
      refine wp_mono (doWithdraw_spec env world request.user (free head world holds)) ?_ ?_
      · rintro amount after ⟨token, info, withdrawn⟩
        exact ih _ _ _
          (serves head world request token info amount after goesOn.2 holds has withdrawn)
      · intro fault after stopped
        cases fault with
        | trap => exact absurd rfl stopped.not_trap
        | error reason => exact stops head world request _ after goesOn.2 holds has stopped

/-- Every withdrawal that the loop tries is the full withdrawal of its request's user,
from a world that has what every served withdrawal keeps. The induction is on the slots. -/
theorem services_rule (limit tail : Nat) (invariant : World → Prop)
    (serves : ∀ world ticket request amount after, invariant world →
      world.vault.queue.entry.lookup ticket = some request →
      doWithdraw env request.user world = .ok amount after →
      invariant (after.served env ticket request.user))
    (slots processed head : Nat) (world : World) (holds : invariant world) :
    ∀ entry ∈ services env limit tail slots processed head world, invariant entry.pre ∧
      entry.pre.vault.queue.entry.lookup entry.item.1 = some entry.item.2 ∧
      attempt (doWithdraw env entry.item.2.user) entry.pre = .ok entry.result entry.after := by
  induction slots generalizing processed head world with
  | zero => simp [services]
  | succ slots ih =>
    rw [services]
    split
    next =>
      cases has : world.vault.queue.entry.lookup head with
      | none => exact ih processed (nextTicket head) world holds
      | some request =>
        rcases ran : doWithdraw env request.user world with ⟨amount, after⟩ | ⟨reason | _, after⟩
        all_goals simp only [ran]
        · intro entry mem
          rcases List.mem_cons.mp mem with rfl | later
          · exact ⟨holds, has, by simp [attempt, ran]⟩
          · exact ih _ _ _
              (serves world head request amount after holds has ran) entry later
        · intro entry mem
          obtain rfl := List.mem_singleton.mp mem
          exact ⟨holds, has, by simp [attempt, ran]⟩
        · simp
    next => simp

/-- A call of the queue either changes nothing or ends its loop and stores the head it
stopped at. -/
theorem processUnstakeQueue_rule (limit : Nat) (post : World → Prop)
    (unchanged : limit = 0 → post pre)
    (looped : wlp (processLoop env limit pre.vault.queue.tailTicket
        (pre.vault.queue.tailTicket - pre.vault.queue.headTicket) 0 pre.vault.queue.headTicket)
      (fun result after => post (after.setQueue { after.vault.queue with head := some result.2 }))
      pre) :
    wlp (processUnstakeQueue env limit) (fun _ after => post after) pre := by
  simp only [processUnstakeQueue, wlp_rules, wp_notPaused, wp_ite]
  exact fun _ => ⟨unchanged, fun _ _ => looped⟩

end Specifications

end StellarSwipe.StakeVault
