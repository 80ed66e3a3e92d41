import StellarSwipe.StakeVault.StakeMirror

/-!
# Whether the head of the unstake queue can be served

A ticket at the head whose owner has no stake stops every call of the queue.
-/

namespace StellarSwipe.StakeVault

open Program Runs Table Custody

def Queued (world : World) (user : Address) : Prop :=
  world.vault.queue.userTicket.lookup user ≠ none

/-- A slash of this severity takes the whole stake of a queued provider. -/
def DrainsQueued (env : Env) (world : World) (provider : Address) (severity : SlashSeverity) :
    Prop :=
  Queued world provider ∧ ∃ token info, Slashable env world provider token info ∧
    ownSlash info (world.slashBps severity) = info.balance

/-- The call takes the stake of a queued user without serving its ticket. -/
inductive Strands (env : Env) (world : World) : Call → Prop
  | withdrawal (staker token : Address) (info : StakeInfoV2) (queued : Queued world staker)
      (payable : Payable env world staker token info) : Strands env world (.withdrawStake staker)
  | exit (signer staker : Address) (queued : Queued world staker)
      (exits : ExitsEarly env world (.approveEmergencyUnstake signer staker) staker) :
      Strands env world (.approveEmergencyUnstake signer staker)
  | slash (caller provider : Address) (severity : SlashSeverity) (reason : String)
      (registry : RegistryCalls env world caller)
      (drains : DrainsQueued env world provider severity) :
      Strands env world (.slashStake caller provider severity reason)
  | batch (caller : Address) (providers : List Address) (severities : List SlashSeverity)
      (reason : String) (registry : RegistryCalls env world caller)
      (entry : Attempt World StakeVaultError Int (Address × SlashSeverity))
      (tried : entry ∈ slashAttempts env world providers severities reason)
      (drains : DrainsQueued env entry.pre entry.item.1 entry.item.2) :
      Strands env world (.batchSlashStake caller providers severities reason)

/-- Every queued ticket is its owner's, and its owner has a stake. -/
structure QueueStaked (world : World) : Prop where
  ticketed : ∀ ticket request, world.vault.queue.entry.lookup ticket = some request →
    world.vault.queue.userTicket.lookup request.user = some ticket
  staked : ∀ ticket request, world.vault.queue.entry.lookup ticket = some request →
    0 < world.vault.custody.stakeOf request.user
  idle : RewardIndex.Idle world.vault.index

theorem queueStaked_fresh (self : Address) (tokens : Tokens) :
    QueueStaked (World.fresh self tokens) where
  ticketed _ _ has := by simp [World.fresh, Vault.empty, UnstakeQueue.empty] at has
  staked _ _ has := by simp [World.fresh, Vault.empty, UnstakeQueue.empty] at has
  idle := RewardIndex.idle_empty

section Steps

variable {env : Env} {pre after : World}

theorem QueueStaked.queued (live : QueueStaked pre) {ticket : Nat} {request : UnstakeRequest}
    (has : pre.vault.queue.entry.lookup ticket = some request) : Queued pre request.user := by
  simp [Queued, live.ticketed ticket request has]

theorem QueueStaked.carry (live : QueueStaked pre) (queue : after.vault.queue = pre.vault.queue)
    (idle : RewardIndex.Idle after.vault.index)
    (stakes : ∀ user, Queued pre user → 0 < pre.vault.custody.stakeOf user →
      0 < after.vault.custody.stakeOf user) : QueueStaked after where
  ticketed := queue ▸ live.ticketed
  staked ticket request has := by
    rw [queue] at has
    exact stakes request.user (live.queued has) (live.staked ticket request has)
  idle

theorem QueueStaked.same (live : QueueStaked pre) (queue : after.vault.queue = pre.vault.queue)
    (index : after.vault.index = pre.vault.index)
    (custody : after.vault.custody = pre.vault.custody) : QueueStaked after :=
  live.carry queue (index ▸ live.idle) fun _ _ staked => by rwa [custody]

theorem QueueStaked.aside (live : QueueStaked pre) (aside : Aside pre after) : QueueStaked after :=
  live.same aside.queue aside.index aside.custody

theorem QueueStaked.withdrawn (live : QueueStaked pre) {staker token : Address}
    {info : StakeInfoV2} {amount : Int} (unqueued : ¬ Queued pre staker)
    (withdrawn : Withdrawn env pre staker token info amount after) : QueueStaked after := by
  obtain ⟨index, told, rfl⟩ := withdrawn.done
  refine live.carry rfl (live.idle.changed (le_refl 0) told) fun user queued staked => ?_
  have different : user ≠ staker := by
    rintro rfl
    exact unqueued queued
  simpa only [World.paidOut, stakeOf_recordStake, World.setActivity, if_neg different]
    using staked

theorem QueueStaked.served (live : QueueStaked pre) {ticket : Nat} {request : UnstakeRequest}
    {token : Address} {info : StakeInfoV2} {amount : Int}
    (has : pre.vault.queue.entry.lookup ticket = some request)
    (withdrawn : Withdrawn env pre request.user token info amount after) :
    QueueStaked (after.served env ticket request.user) := by
  obtain ⟨index, told, rfl⟩ := withdrawn.done
  have others (other : Nat) (waiting : UnstakeRequest) (different : other ≠ ticket)
      (hit : pre.vault.queue.entry.lookup other = some waiting) :
      waiting.user ≠ request.user := by
    intro same
    have first := live.ticketed other waiting hit
    rw [same, live.ticketed ticket request has] at first
    exact different (Option.some.inj first).symm
  refine ⟨fun other waiting hit => ?_, fun other waiting hit => ?_,
    live.idle.changed (le_refl 0) told⟩
  all_goals
    simp only [World.served, World.setLimits, World.setQueue, World.paidOut, World.setActivity,
      UnstakeQueue.serve, lookup_erase] at hit
    split at hit
    next => cases hit
    next different =>
      have distinct := others other waiting different hit
      simp only [World.served, World.setLimits, World.setQueue, World.paidOut, World.setActivity,
        UnstakeQueue.serve, lookup_erase, stakeOf_recordStake,
        if_neg distinct]
      first
        | exact live.ticketed other waiting hit
        | exact live.staked other waiting hit

theorem QueueStaked.withdrawStopped (live : QueueStaked pre) {staker : Address}
    {fault : Fault StakeVaultError} (stopped : WithdrawStopped env pre staker fault after) :
    QueueStaked after := by
  cases stopped with
  | early => exact live
  | untimely | refused => exact live.same rfl rfl rfl
  | unhooked _ _ _ _ _ _ unhooked => exact absurd unhooked live.idle.zero_returns

theorem QueueStaked.joined (live : QueueStaked pre) {staker : Address}
    (unqueued : pre.vault.queue.userTicket.lookup staker = none)
    (staked : 0 < pre.vault.custody.stakeOf staker) :
    QueueStaked (pre.setQueue (pre.vault.queue.join env staker)) := by
  refine ⟨fun ticket request has => ?_, fun ticket request has => ?_, live.idle⟩
  all_goals
    simp only [World.setQueue, UnstakeQueue.join, lookup_insert] at has
    split at has
  · cases has
    next same => simp [World.setQueue, UnstakeQueue.join, same]
  · have different : request.user ≠ staker := by
      rintro same
      have ticketed := live.ticketed ticket request has
      rw [same, unqueued] at ticketed
      cases ticketed
    simp only [World.setQueue, UnstakeQueue.join, lookup_insert, if_neg different]
    exact live.ticketed ticket request has
  · cases has
    exact staked
  · exact live.staked ticket request has

theorem QueueStaked.slashed (sound : Sound pre) (live : QueueStaked pre)
    {provider token : Address} {info : StakeInfoV2} {severity : SlashSeverity}
    (slashable : Slashable env pre provider token info)
    (spares : ¬ DrainsQueued env pre provider severity) (reason : String) :
    QueueStaked (pre.slashed env provider severity reason info) := by
  refine live.carry rfl live.idle fun user queued staked => ?_
  simp only [World.slashed, World.setSlashing, World.setCustody, World.slashedCustody,
    stakeOf_slashDelegated, stakeOf_recordStake]
  split
  next same =>
    subst same
    obtain ⟨exactly, _, most⟩ := StakeInfoV2.slashed_balance (sound.has slashable.has)
      (pre.slashBps severity) env.timestamp
    have partly : ownSlash info (pre.slashBps severity) ≠ info.balance := fun whole =>
      spares ⟨queued, token, info, slashable, whole⟩
    rw [exactly]
    omega
  next => exact staked

theorem QueueStaked.slashTried (live : QueueStaked pre) (sound : Sound pre)
    {provider : Address} {severity : SlashSeverity} {reason : String}
    (spares : ¬ DrainsQueued env pre provider severity)
    (tried : SlashTried env pre provider severity reason after) : QueueStaked after := by
  cases tried with
  | gave slashable disposed =>
    have recorded := live.slashed sound slashable spares reason
    cases disposed with
    | held => exact recorded.carry rfl recorded.idle fun _ _ staked => staked
    | burned => exact recorded.same rfl rfl rfl
  | stopped stopped =>
    cases stopped with
    | early => exact live
    | unburned token info slashable =>
      exact (live.slashed sound slashable spares reason).same rfl rfl rfl

theorem QueueStaked.settled (sound : Sound pre) (live : QueueStaked pre) {slashId : Nat}
    {token : Address} {record : SlashRecord} {appeal : SlashAppeal} {uphold : Bool}
    (resolvable : Resolvable pre slashId token record appeal)
    (settled : Settled env pre slashId token record uphold after) : QueueStaked after := by
  cases settled with
  | burned => exact live.carry rfl live.idle fun _ _ staked => staked
  | stands => exact live
  | reversed =>
    refine live.carry rfl live.idle fun user _ staked => ?_
    have credit : 0 ≤ amountToRestore (pre.vault.custody.heldFor slashId) record := by
      have pos := (sound.records slashId record resolvable.recorded).1
      simp only [amountToRestore]
      split <;> omega
    have credited : 0 < (pre.vault.custody.recordStake record.provider
        ((pre.vault.custody.stakeInfo record.provider).restored
          (amountToRestore (pre.vault.custody.heldFor slashId) record)
          env.timestamp)).stakeOf user := by
      rw [stakeOf_recordStake]
      split
      next same =>
        subst same
        rw [stakeOf] at staked
        have enough : 1 ≤ ((pre.vault.custody.stakeInfo record.provider).restored
            (amountToRestore (pre.vault.custody.heldFor slashId) record)
            env.timestamp).balance :=
          FixedWidth.Range.le_clamp i128 (by simp) (by omega)
        omega
      next => exact staked
    simp only [World.setCustody, reversed]
    split
    · exact credited
    · exact credited

theorem QueueStaked.resolveTried (live : QueueStaked pre) (sound : Sound pre) {slashId : Nat}
    {uphold : Bool} (tried : ResolveTried env pre slashId uphold after) : QueueStaked after := by
  cases tried with
  | gave resolvable settled => exact (live.settled sound resolvable settled).same rfl rfl rfl
  | stopped stopped =>
    cases stopped with
    | early => exact live
    | unburned => exact live.carry rfl live.idle fun _ _ staked => staked

/-- Every staking call that strands no queued user keeps the queue staked. The cases are
the effects of the calls. -/
theorem QueueStaked.effect (live : QueueStaked pre) (sound : Sound pre) {call : Call}
    (serves : call.servesStakes = true) (spares : ¬ Strands env pre call)
    (effect : CallEffect env pre call after) : QueueStaked after := by
  cases effect with
  | setting aside | upkeep aside | approval aside => exact live.aside aside
  | executed _ _ performed =>
    cases performed with
    | tuned => exact live.same rfl rfl rfl
    | resolved _ token record appeal middle resolvable settled =>
      exact (live.settled sound resolvable settled).same rfl rfl rfl
  | @deposited staker _ _ _ _ _ _ _ pos balance _ told =>
    have current := (sound.stakes staker).1
    refine live.carry rfl (live.idle.changed (by omega) told) fun user _ staked => ?_
    simp only [stakeOf_recordStake]
    split <;> omega
  | delegated => exact live.carry rfl live.idle fun _ _ staked => staked
  | @withdrew staker token info _ _ _ withdrawn =>
    have unqueued : ¬ Queued pre staker := fun queued =>
      spares (.withdrawal staker token info queued withdrawn.payable)
    exact (live.withdrawn unqueued withdrawn).same rfl rfl rfl
  | withdrewPart _ _ less _ told =>
    refine live.carry rfl (live.idle.changed (by omega) told) fun user _ staked => ?_
    simp only [World.setLimits, World.paidOut, World.setActivity, stakeOf_recordStake]
    split <;> omega
  | @queued staker unqueued staked =>
    have current := (sound.stakes staker).1
    exact live.joined unqueued (by omega)
  | served keeps =>
    refine keeps (fun world => Sound world ∧ QueueStaked world) QueueStaked
      (fun _ held => held.1.free) ?_ ?_ (fun _ held => held.2)
      (fun _ _ held => ⟨held.ticketed, held.staked, held.idle⟩) ⟨sound, live⟩
    · intro _ _ _ _ _ _ after held has withdrawn
      exact ⟨(held.1.withdrawn withdrawn).carry rfl rfl rfl, held.2.served has withdrawn⟩
    · exact fun _ _ _ _ held stopped => held.2.withdrawStopped stopped
  | @slashed caller provider _ severity reason _ _ registry slashable disposed =>
    exact live.slashTried sound (fun drains =>
      spares (.slash caller provider severity reason registry drains))
      (.gave slashable disposed)
  | @slashedEach caller providers severities reason _ keeps =>
    refine (keeps (fun world => Sound world ∧ QueueStaked world)
      (fun registry entry mem _ tried held => ?_) ⟨sound, live⟩).2
    exact ⟨held.1.slashTried tried, held.2.slashTried held.1 (fun drains =>
      spares (.batch caller providers severities reason registry entry mem drains)) tried⟩
  | resolved _ _ resolvable settled =>
    exact (live.settled sound resolvable settled).same rfl rfl rfl
  | resolvedEach keeps =>
    exact (keeps (fun world => Sound world ∧ QueueStaked world) (fun _ _ _ _ tried held =>
      ⟨held.1.resolveTried tried, held.2.resolveTried held.1 tried⟩) ⟨sound, live⟩).2
  | @exited signer staker _ _ _ _ _ _ completes _ unstaked =>
    rw [unstaked.unchanged]
    refine live.carry rfl live.idle fun user queued pos => ?_
    have different : user ≠ staker := by
      rintro rfl
      refine spares (.exit signer user queued (.approved signer user completes ?_ unstaked.free))
      rw [pre.vault.custody.stakeOf_of_stored unstaked.has]
      exact unstaked.staked
    simpa only [stakeOf_recordStake, if_neg different] using pos
  | @synced staker _ told =>
    exact live.carry rfl (live.idle.changed (sound.stakes staker).1 told) fun _ _ staked => staked
  | initialized | appealed | approved => exact live.same rfl rfl rfl
  | _ =>
    simp [Call.servesStakes] at serves

end Steps

/-- Along every run of the staking calls without a step that takes a queued user's whole
stake other than by serving its ticket, in every state the owner of every queued ticket
has a stake, and so has the owner of every withdrawal that the queue tries there. -/
theorem queue_head_never_starved (self : Address) (tokens : Tokens) (inputs : List Input)
    (serving : ∀ input ∈ inputs, input.2.servesStakes = true)
    (sparing : ∀ taken ∈ trace step (World.fresh self tokens) inputs,
      ¬ Strands taken.input.1 taken.pre taken.input.2) :
    (∀ ticket request, (reached self tokens inputs).vault.queue.entry.lookup ticket = some request →
        0 < (reached self tokens inputs).vault.custody.stakeOf request.user) ∧
    ∀ env limit, ∀ entry ∈ servicesOf env limit (reached self tokens inputs),
      0 < entry.pre.vault.custody.stakeOf entry.item.2.user := by
  have invariant := guarded_invariant step (fun world => Sound world ∧ QueueStaked world)
    (fun world input => input.2.servesStakes = true ∧ ¬ Strands input.1 world input.2)
    (fun world input guard held => ⟨sound_step input held.1, step_of_effect world held.2
      fun _ effect => held.2.effect held.1 guard.1 guard.2 effect⟩)
    (World.fresh self tokens) ⟨sound_fresh self tokens, queueStaked_fresh self tokens⟩ inputs
    (fun taken mem => ⟨serving taken.input (input_mem step mem), sparing taken mem⟩)
  refine ⟨invariant.2.staked, fun env limit entry mem => ?_⟩
  simp only [servicesOf] at mem
  split at mem
  next =>
    obtain ⟨held, has, _⟩ := services_rule env limit _
      (fun world => Sound world ∧ QueueStaked world)
      (fun world ticket request amount after held has gave => by
        obtain ⟨_, _, withdrawn⟩ :=
          wp_ok (doWithdraw_spec env world request.user held.1.free) gave
        exact ⟨(held.1.withdrawn withdrawn).carry rfl rfl rfl, held.2.served has withdrawn⟩)
      _ 0 _ _ invariant entry mem
    exact held.2.staked _ _ has
  next => simp at mem

/-- Two stakers queue, one of them tops its stake up, and both are served. -/
def servedQueue : List Input :=
  [(.at 10 1 [], .initializeVault 1 9 2), (.at 10 1 [5], .depositStake 5 100),
    (.at 10 1 [6], .depositStake 6 100), (.at 20 2 [5], .queueUnstake 5),
    (.at 20 2 [6], .queueUnstake 6), (.at 30 3 [6], .depositStake 6 50),
    (.at 40 4 [], .processUnstakeQueue 10)]

/-- Nobody is stranded while two stakers queue and are served. -/
theorem served_queue_staked : (∀ ticket request,
      (reached 100 wealthy servedQueue).vault.queue.entry.lookup ticket = some request →
        0 < (reached 100 wealthy servedQueue).vault.custody.stakeOf request.user) ∧
    ∀ env limit, ∀ entry ∈ servicesOf env limit (reached 100 wealthy servedQueue),
      0 < entry.pre.vault.custody.stakeOf entry.item.2.user := by
  refine queue_head_never_starved 100 wealthy servedQueue (by decide) fun taken mem => ?_
  have listed := input_mem step mem
  simp only [servedQueue, List.mem_cons, List.not_mem_nil, or_false] at listed
  rcases listed with same | same | same | same | same | same | same
  all_goals
    rw [same]
    exact (nomatch ·)

/-- A queued staker withdraws directly and its ticket stays: the owner of the head has no
stake, and a call of the queue returns without serving the staker behind it. -/
theorem direct_withdrawal_blocks_queue :
    ¬ ∀ inputs : List Input, (∀ input ∈ inputs, input.2.servesStakes = true) → (∀ ticket request,
        (reached 100 wealthy inputs).vault.queue.entry.lookup ticket = some request →
          0 < (reached 100 wealthy inputs).vault.custody.stakeOf request.user) ∧
      ∀ env limit, ∀ entry ∈ servicesOf env limit (reached 100 wealthy inputs),
        0 < entry.pre.vault.custody.stakeOf entry.item.2.user := by
  intro every
  have staked := (every [(.at 10 1 [], .initializeVault 1 9 2), (.at 10 1 [5], .depositStake 5 100),
    (.at 10 1 [6], .depositStake 6 100), (.at 20 2 [5], .queueUnstake 5),
    (.at 20 2 [6], .queueUnstake 6), (.at 30 3 [5], .withdrawStake 5)] (by decide)).2
      (.at 40 4 []) 10
  revert staked
  decide

end StellarSwipe.StakeVault
