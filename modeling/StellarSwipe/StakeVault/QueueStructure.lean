import StellarSwipe.StakeVault.Entrypoints
import StellarSwipe.StakeVault.IndexBalance

/-!
# The structure of the unstake queue

The slots from head to tail are exactly those with an entry, an entry is stored under its own
ticket, and a user's ticket is that of the user's entry.
-/

namespace StellarSwipe.StakeVault

open Program FixedWidth Runs Table List Option

namespace UnstakeQueue

/-- The queue's entries fill the slots from a head to the tail, each under its own
ticket, and each user's ticket is that of the user's entry. -/
structure Structured (head : Nat) (queue : UnstakeQueue) : Prop where
  ordered : head ≤ queue.tailTicket
  filled : ∀ ticket, (∃ request, queue.entry.lookup ticket = some request) ↔
    head ≤ ticket ∧ ticket < queue.tailTicket
  numbered : ∀ ticket request, queue.entry.lookup ticket = some request → request.ticket = ticket
  inverse : ∀ user ticket, queue.userTicket.lookup user = some ticket ↔
    ∃ request, queue.entry.lookup ticket = some request ∧ request.user = user

variable {head : Nat} {queue : UnstakeQueue}

theorem structured_empty : Structured 0 UnstakeQueue.empty where
  ordered := le_refl 0
  filled ticket := by simp [UnstakeQueue.empty, tailTicket]
  numbered ticket request has := by simp [UnstakeQueue.empty] at has
  inverse user ticket := by simp [UnstakeQueue.empty]

theorem Structured.ticket_unique (structured : Structured head queue) {first second : Nat}
    {request other : UnstakeRequest} (has : queue.entry.lookup first = some request)
    (hit : queue.entry.lookup second = some other) (same : request.user = other.user) :
    first = second := by
  have ticket := (structured.inverse request.user first).mpr ⟨request, has, rfl⟩
  have ticket' := (structured.inverse request.user second).mpr ⟨other, hit, same.symm⟩
  exact mem_unique ticket ticket'

theorem Structured.rehead (structured : Structured head queue) (has : Option Nat) :
    Structured head { queue with head := has } :=
  ⟨structured.ordered, structured.filled, structured.numbered, structured.inverse⟩

/-- A user without a ticket joins at the tail while a number is left for it. -/
theorem Structured.join (structured : Structured head queue) (env : Env) {staker : Address}
    (unqueued : queue.userTicket.lookup staker = none) (room : queue.tailTicket < u64Max) :
    Structured head (queue.join env staker) := by
  have next : (queue.join env staker).tailTicket = queue.tailTicket + 1 := by
    simp only [UnstakeQueue.join, tailTicket, getD_some]
    exact saturating_count_exact room
  have absent (request : UnstakeRequest) :
      queue.entry.lookup queue.tailTicket ≠ some request := fun has =>
    absurd ((structured.filled _).mp ⟨request, has⟩).2 (lt_irrefl _)
  constructor
  case ordered =>
    have := structured.ordered
    omega
  case filled =>
    intro ticket
    have ordered := structured.ordered
    have filled := structured.filled ticket
    rw [next]
    simp only [UnstakeQueue.join, lookup_insert]
    by_cases last : ticket = queue.tailTicket
    · simp only [last, if_true, Option.some.injEq, exists_eq', true_iff]
      omega
    · simp only [last, if_false, filled]
      omega
  case numbered =>
    intro ticket request has
    simp only [UnstakeQueue.join, lookup_insert] at has
    split at has
    next last =>
      cases has
      exact last.symm
    next => exact structured.numbered ticket request has
  case inverse =>
    intro user ticket
    simp only [UnstakeQueue.join, lookup_insert]
    by_cases joining : user = staker
    · subst joining
      by_cases last : ticket = queue.tailTicket
      · simp [last]
      · have other := structured.inverse user ticket
        rw [unqueued] at other
        simp only [if_true, Option.some.injEq, last, if_false, ← other, reduceCtorEq, iff_false]
        exact fun same => last same.symm
    · by_cases last : ticket = queue.tailTicket
      · subst last
        have other := structured.inverse user queue.tailTicket
        simp only [joining, if_false, if_true, Option.some.injEq, exists_eq_left', other]
        constructor
        · rintro ⟨request, has, _⟩
          exact absurd has (absent request)
        · exact fun same => absurd same.symm joining
      · simp only [joining, last, if_false]
        exact structured.inverse user ticket

theorem Structured.serve (structured : Structured head queue) {request : UnstakeRequest}
    (has : queue.entry.lookup head = some request) :
    Structured (head + 1) (queue.serve head request.user) := by
  have waiting := (structured.filled head).mp ⟨request, has⟩
  constructor
  case ordered => exact waiting.2
  case filled =>
    intro ticket
    have filled := structured.filled ticket
    simp only [UnstakeQueue.serve, lookup_erase]
    by_cases served : ticket = head
    · simp [served]
    · simp only [served, if_false, filled]
      simp only [UnstakeQueue.tailTicket]
      omega
  case numbered =>
    intro ticket other hit
    simp only [UnstakeQueue.serve, lookup_erase] at hit
    split at hit
    next => cases hit
    next => exact structured.numbered ticket other hit
  case inverse =>
    intro user ticket
    simp only [UnstakeQueue.serve, lookup_erase]
    by_cases leaving : user = request.user
    · subst leaving
      simp only [if_true, reduceCtorEq, false_iff]
      rintro ⟨other, hit, same⟩
      split at hit
      next => cases hit
      next different => exact different (structured.ticket_unique hit has same)
    · by_cases served : ticket = head
      · subst served
        simp only [leaving, if_false, if_true, reduceCtorEq, false_and, exists_false, iff_false]
        intro ticketed
        obtain ⟨other, hit, same⟩ := (structured.inverse user ticket).mp ticketed
        cases mem_unique has hit
        exact leaving same.symm
      · simp only [leaving, served, if_false]
        exact structured.inverse user ticket

end UnstakeQueue

/-- The withdrawal of a ticket succeeded, so the ticket has been served. -/
def Service.Served (service : Service) : Prop := ∃ amount, service.result = .ok amount

/-- Tokens moved while a ticket was tried. -/
def Service.Paid (service : Service) : Prop :=
  service.after.tokens.balance ≠ service.pre.tokens.balance

/-- Of two withdrawals that the queue tries one after the other, the second is of a later
ticket if the first served its ticket, and also if both moved tokens. -/
structure Service.Precedes (prior later : Service) : Prop where
  served : prior.Served → prior.item.1 < later.item.1
  paid : prior.Paid → later.Paid → prior.item.1 < later.item.1

/-- The ticket of a past withdrawal that was not served is at the head, and if it was paid
its owner, whose request is still there, has nothing left to be paid. -/
structure Service.Stuck (service : Service) (head : Nat) (world : World) : Prop where
  atHead : service.item.1 = head
  unserved : ¬ service.Served
  spent : service.Paid → world.vault.queue.entry.lookup head = some service.item.2 ∧
    world.vault.custody.stakeOf service.item.2.user = 0

/-- A past withdrawal concerns a ticket behind the head, or is stuck at the head. -/
def Service.Past (service : Service) (head : Nat) (world : World) : Prop :=
  service.item.1 < head ∨ service.Stuck head world

/-- The queue's structure at a head, together with what is known of everything the queue
has tried so far. -/
structure QueueHistory (log : List Service) (head : Nat) (world : World) : Prop where
  free : world.vault.activity.executionLock = false
  structured : world.vault.queue.Structured head
  ordered : log.Pairwise Service.Precedes
  past : ∀ service ∈ log, service.Past head world

section Loop

variable {env : Env} {world after : World} {log : List Service} {head : Nat}

theorem doWithdraw_unstaked {user : Address} (free : world.vault.activity.executionLock = false)
    (unstaked : world.vault.custody.stakeOf user = 0) :
    wp (doWithdraw env user) (fun _ _ => False) (fun _ after => after = world) world := by
  have unpayable (token : Address) (info : StakeInfoV2) : ¬ Payable env world user token info :=
    fun payable => payable.staked
      ((world.vault.custody.stakeOf_of_stored payable.has).symm.trans unstaked)
  refine wp_mono (doWithdraw_spec env world user free) ?_ ?_
  · rintro _ _ ⟨token, info, withdrawn⟩
    exact unpayable token info withdrawn.payable
  · intro _ _ stopped
    cases stopped with
    | early => rfl
    | untimely _ token info payable => exact absurd payable (unpayable token info)
    | refused _ token info payable => exact absurd payable (unpayable token info)
    | unhooked token info _ payable => exact absurd payable (unpayable token info)

/-- A withdrawal that stops has left the queue and the lock alone, and if it moved tokens
it has recorded that no stake is left. -/
theorem WithdrawStopped.leaves {user : Address} {fault : Fault StakeVaultError}
    (stopped : WithdrawStopped env world user fault after) : after.vault.queue = world.vault.queue ∧
      after.vault.activity.executionLock = world.vault.activity.executionLock ∧
      (after.tokens.balance ≠ world.tokens.balance → after.vault.custody.stakeOf user = 0) := by
  cases stopped with
  | early => exact ⟨rfl, rfl, fun moved => absurd rfl moved⟩
  | untimely => exact ⟨rfl, rfl, fun moved => absurd rfl moved⟩
  | refused => exact ⟨rfl, rfl, fun moved => absurd rfl moved⟩
  | unhooked =>
    refine ⟨rfl, consumed_executionLock .., fun _ => ?_⟩
    simp only [World.paidOut, World.setActivity, Custody.stakeOf_recordStake, if_true]

variable {request : UnstakeRequest} {result : Except StakeVaultError Int}

/-- The next withdrawal of the queue is at the head, and everything in the log precedes
it: what was paid and is stuck there finds no stake. -/
theorem QueueHistory.precedes (history : QueueHistory log head world)
    (has : world.vault.queue.entry.lookup head = some request)
    (ran : attempt (doWithdraw env request.user) world = .ok result after) :
    ∀ prior ∈ log, prior.Precedes ⟨(head, request), world, result, after⟩ := by
  intro prior mem
  rcases history.past prior mem with behind | stuck
  · exact ⟨fun _ => behind, fun _ _ => behind⟩
  · refine ⟨fun served => absurd served stuck.unserved, fun paid moved => ?_⟩
    obtain ⟨same, unstaked⟩ := stuck.spent paid
    cases mem_unique has same
    have nothing : wlp (attempt (doWithdraw env prior.item.2.user))
        (fun _ after => after = world) world := by
      refine (wp_attempt _).mpr (wp_mono (doWithdraw_unstaked history.free unstaked)
        (fun _ _ never => never.elim) ?_)
      rintro (reason | _) _ rfl
      · rfl
      · trivial
    have unmoved : after = world := wp_ok nothing ran
    exact absurd (by rw [unmoved]) moved

theorem QueueHistory.extended (history : QueueHistory log head world)
    (has : world.vault.queue.entry.lookup head = some request)
    (ran : attempt (doWithdraw env request.user) world = .ok result after) :
    (log ++ [(⟨(head, request), world, result, after⟩ : Service)]).Pairwise Service.Precedes := by
  refine List.pairwise_append.mpr ⟨history.ordered, pairwise_singleton _ _, ?_⟩
  intro prior mem later last
  cases List.mem_singleton.mp last
  exact history.precedes has ran prior mem

theorem QueueHistory.served (history : QueueHistory log head world)
    (has : world.vault.queue.entry.lookup head = some request) {amount : Int}
    (ran : doWithdraw env request.user world = .ok amount after) :
    QueueHistory (log ++ [(⟨(head, request), world, .ok amount, after⟩ : Service)]) (head + 1)
      (after.served env head request.user) := by
  obtain ⟨token, info, withdrawn⟩ :=
    wp_ok (doWithdraw_spec env world request.user history.free) ran
  have tried : attempt (doWithdraw env request.user) world = .ok (.ok amount) after := by
    simp only [attempt, ran]
  have ordered := history.extended has tried
  obtain ⟨index, _, rfl⟩ := withdrawn.done
  constructor
  case free => exact (consumed_executionLock ..).trans history.free
  case structured => exact history.structured.serve has
  case ordered => exact ordered
  case past =>
    intro service mem
    rcases mem_snoc.mp mem with prior | rfl
    · rcases history.past service prior with behind | stuck
      · exact Or.inl (by omega)
      · exact Or.inl (by have := stuck.atHead; omega)
    · exact Or.inl (Nat.lt_succ_self head)

/-- A withdrawal that fails leaves its ticket stuck at the head. -/
theorem QueueHistory.stopped (history : QueueHistory log head world)
    (has : world.vault.queue.entry.lookup head = some request) {reason : StakeVaultError}
    (ran : doWithdraw env request.user world = .error (.error reason) after) :
    QueueHistory (log ++ [(⟨(head, request), world, .error reason, after⟩ : Service)]) head
      after := by
  have stopped := wp_error (doWithdraw_spec env world request.user history.free) ran
  have tried : attempt (doWithdraw env request.user) world = .ok (.error reason) after := by
    simp only [attempt, ran]
  obtain ⟨queue, lock, spent⟩ := stopped.leaves
  constructor
  case free => exact lock.trans history.free
  case structured => exact queue ▸ history.structured
  case ordered => exact history.extended has tried
  case past =>
    intro service mem
    rcases mem_snoc.mp mem with prior | rfl
    · rcases history.past service prior with behind | stuck
      · exact Or.inl behind
      · refine Or.inr ⟨stuck.atHead, stuck.unserved, fun paid => ?_⟩
        obtain ⟨same, unstaked⟩ := stuck.spent paid
        cases mem_unique has same
        have unmoved : after = world := wp_error (doWithdraw_unstaked history.free unstaked) ran
        rw [unmoved]
        exact ⟨same, unstaked⟩
    · refine Or.inr ⟨rfl, ?_, fun paid => ⟨?_, spent paid⟩⟩
      · rintro ⟨amount, gave⟩
        cases gave
      · rw [queue]
        exact has

/-- The loop carries the history from its first head to the head at which it ends, and
adds the withdrawals that it tried. The induction is on the slots. -/
theorem processLoop_history (env : Env) (limit tail slots processed : Nat)
    (ends : world.vault.queue.tailTicket = tail) (within : tail ≤ u64Max)
    (history : QueueHistory log head world) : wp (processLoop env limit tail slots processed head)
      (fun result after => after.vault.queue.tailTicket = tail ∧
        QueueHistory (log ++ services env limit tail slots processed head world) result.2 after)
      (fun _ _ => True) world := by
  induction slots generalizing processed head world log with
  | zero => exact ⟨ends, by simpa [services] using history⟩
  | succ slots ih =>
    rw [processLoop, services, wp_ite]
    by_cases goesOn : processed < limit ∧ head < tail
    · refine ⟨fun _ => ?_, fun stops => absurd goesOn stops⟩
      have slot : head ≤ head ∧ head < world.vault.queue.tailTicket :=
        ⟨le_refl head, by rw [ends]; exact goesOn.2⟩
      obtain ⟨request, has⟩ := (history.structured.filled head).mpr slot
      have next : nextTicket head = head + 1 := saturating_count_exact (by omega)
      simp only [wp_rules, has, wp_attempt, if_pos goesOn, next]
      rcases ran : doWithdraw env request.user world with ⟨amount, after⟩ | ⟨reason | _, after⟩
      · have same : (after.served env head request.user).vault.queue.tailTicket = tail := by
          obtain ⟨token, info, withdrawn⟩ :=
            wp_ok (doWithdraw_spec env world request.user history.free) ran
          obtain ⟨index, _, rfl⟩ := withdrawn.done
          exact ends
        have later := ih (satCount u32Max processed 1) same
          (history.served has ran)
        simp only [append_assoc, singleton_append] at later
        exact wp_of_ok ran later
      · have queue := (wp_error (doWithdraw_spec env world request.user history.free) ran).leaves.1
        have same : after.vault.queue.tailTicket = tail := by rw [queue, ends]
        exact wp_of_error ran ⟨same, history.stopped has ran⟩
      · exact wp_of_error ran trivial
    · refine ⟨fun more => absurd more goesOn, fun _ => ⟨ends, ?_⟩⟩
      simpa only [if_neg goesOn, append_nil] using history

end Loop

/-- The calls of the queue, and those that only set, note or approve. -/
def Call.servesQueue : Call → Bool
  | .queueUnstake _ => true
  | .processUnstakeQueue _ => true
  | .setting _ => true
  | .upkeep _ => true
  | .approval _ => true
  | _ => false

/-- The withdrawals that the queue tries in one step. -/
def servicesIn (taken : Transition World Input) : List Service :=
  match taken.input.2 with
  | .processUnstakeQueue limit => servicesOf taken.input.1 limit taken.pre
  | _ => []

/-- The withdrawals that the queue tries along a run. -/
def servicesAlong (run : List (Transition World Input)) : List Service := run.flatMap servicesIn

/-- The step issues a ticket. -/
def issues (taken : Transition World Input) : Bool :=
  match taken.input.2 with
  | .queueUnstake staker => accepted (queueUnstake taken.input.1 staker) taken.pre
  | _ => false

/-- The number of tickets issued along a run. -/
def ticketsIssued (run : List (Transition World Input)) : Nat := run.countP issues

/-- The history of a run: its withdrawals at the stored head, and its tickets at the tail. -/
structure RunHistory (run : List (Transition World Input)) (world : World) : Prop where
  history : QueueHistory (servicesAlong run) world.vault.queue.headTicket world
  tail : world.vault.queue.tailTicket = ticketsIssued run

section Steps

variable {env : Env} {pre after : World} {log : List Service} {head : Nat}

theorem QueueHistory.carry (history : QueueHistory log head pre)
    (queue : after.vault.queue = pre.vault.queue)
    (custody : after.vault.custody = pre.vault.custody)
    (lock : after.vault.activity.executionLock = pre.vault.activity.executionLock) :
    QueueHistory log head after where
  free := lock.trans history.free
  structured := queue ▸ history.structured
  ordered := history.ordered
  past service mem := by
    rcases history.past service mem with behind | stuck
    · exact Or.inl behind
    · exact Or.inr ⟨stuck.atHead, stuck.unserved, by rw [queue, custody]; exact stuck.spent⟩

theorem QueueHistory.rehead (history : QueueHistory log head pre) :
    QueueHistory log head (pre.setQueue { pre.vault.queue with head := some head }) where
  free := history.free
  structured := history.structured.rehead (some head)
  ordered := history.ordered
  past service mem := by
    rcases history.past service mem with behind | stuck
    · exact Or.inl behind
    · exact Or.inr ⟨stuck.atHead, stuck.unserved, stuck.spent⟩

/-- A new ticket at the tail does not touch what is stuck at the head. -/
theorem QueueHistory.joined (history : QueueHistory log head pre) {staker : Address}
    (unqueued : pre.vault.queue.userTicket.lookup staker = none)
    (room : pre.vault.queue.tailTicket < u64Max) :
    QueueHistory log head (pre.setQueue (pre.vault.queue.join env staker)) where
  free := history.free
  structured := history.structured.join env unqueued room
  ordered := history.ordered
  past service mem := by
    rcases history.past service mem with behind | stuck
    · exact Or.inl behind
    · refine Or.inr ⟨stuck.atHead, stuck.unserved, fun paid => ?_⟩
      obtain ⟨has, unstaked⟩ := stuck.spent paid
      have waiting := ((history.structured.filled head).mp ⟨_, has⟩).2
      refine ⟨?_, unstaked⟩
      simpa only [World.setQueue, UnstakeQueue.join, lookup_insert,
        if_neg (Nat.ne_of_lt waiting)] using has

variable {run : List (Transition World Input)}

theorem servicesAlong_concat (taken : Transition World Input) :
    servicesAlong (run ++ [taken]) = servicesAlong run ++ servicesIn taken := by
  simp [servicesAlong]

theorem ticketsIssued_concat (taken : Transition World Input) :
    ticketsIssued (run ++ [taken]) = ticketsIssued run + if issues taken then 1 else 0 := by
  simp [ticketsIssued, countP_append, countP_singleton]

theorem RunHistory.idle (held : RunHistory run pre) {input : Input}
    (quiet : servicesIn ⟨pre, input, step input pre⟩ = [])
    (unissued : issues ⟨pre, input, step input pre⟩ = false)
    (aside : wlp (exec input.1 input.2) (fun _ after => Aside pre after) pre) :
    RunHistory (run ++ [⟨pre, input, step input pre⟩]) (step input pre) := by
  have same : Aside pre (step input pre) := step_rule (Aside.refl pre) aside
  constructor
  case history =>
    rw [servicesAlong_concat, quiet, append_nil, same.queue]
    exact held.history.carry same.queue same.custody same.executionLock
  case tail =>
    rw [ticketsIssued_concat, unissued, same.queue]
    exact held.tail

/-- Queueing a staker keeps the history while a number is left for the ticket. -/
theorem RunHistory.queued (held : RunHistory run pre) (env : Env) (staker : Address)
    (room : ticketsIssued (run ++ [⟨pre, (env, .queueUnstake staker),
      step (env, .queueUnstake staker) pre⟩]) ≤ u64Max) :
    RunHistory (run ++ [⟨pre, (env, .queueUnstake staker),
      step (env, .queueUnstake staker) pre⟩]) (step (env, .queueUnstake staker) pre) := by
  have same : step (env, .queueUnstake staker) pre =
      invoke (queueUnstake env staker) pre := invoke_discard _ _
  rw [ticketsIssued_concat] at room
  by_cases accepts : Accepts (queueUnstake env staker) pre
  · have issued : issues ⟨pre, (env, .queueUnstake staker),
        step (env, .queueUnstake staker) pre⟩ = true := (accepted_iff _ _).mpr accepts
    rw [issued, if_pos rfl, ← held.tail] at room
    obtain ⟨ticket, gave⟩ := gave_of_accepts accepts
    obtain ⟨_, _, unqueued, _, joined⟩ := wp_ok (queueUnstake_spec env pre staker) gave
    constructor
    case history =>
      rw [servicesAlong_concat, servicesIn, append_nil, same, joined]
      exact held.history.joined unqueued (by omega)
    case tail =>
      rw [ticketsIssued_concat, issued, if_pos rfl, ← held.tail, same, joined]
      exact saturating_count_exact room
  · have unissued : issues ⟨pre, (env, .queueUnstake staker),
        step (env, .queueUnstake staker) pre⟩ = false := by
      rw [← Bool.not_eq_true]
      exact fun issued => accepts ((accepted_iff _ _).mp issued)
    rw [invoke_of_rejected accepts] at same
    constructor
    case history =>
      rw [servicesAlong_concat, servicesIn, append_nil, same]
      exact held.history
    case tail =>
      rw [ticketsIssued_concat, unissued, same]
      exact held.tail

theorem RunHistory.processed (held : RunHistory run pre) (env : Env) (limit : Nat)
    (room : ticketsIssued run ≤ u64Max) :
    RunHistory (run ++ [⟨pre, (env, .processUnstakeQueue limit),
      step (env, .processUnstakeQueue limit) pre⟩])
      (step (env, .processUnstakeQueue limit) pre) := by
  have same : step (env, .processUnstakeQueue limit) pre =
      invoke (processUnstakeQueue env limit) pre := invoke_discard _ _
  have unissued : issues ⟨pre, (env, .processUnstakeQueue limit),
      step (env, .processUnstakeQueue limit) pre⟩ = false := rfl
  have tried : servicesIn ⟨pre, (env, .processUnstakeQueue limit),
      step (env, .processUnstakeQueue limit) pre⟩ = servicesOf env limit pre := rfl
  have kept : (step (env, .processUnstakeQueue limit) pre).vault.queue.tailTicket =
        pre.vault.queue.tailTicket ∧
      QueueHistory (servicesAlong run ++ servicesOf env limit pre)
        (step (env, .processUnstakeQueue limit) pre).vault.queue.headTicket
        (step (env, .processUnstakeQueue limit) pre) := by
    by_cases accepts : Accepts (processUnstakeQueue env limit) pre
    · have looped : limit ≠ 0 → wp (processUnstakeQueue env limit) (fun _ after =>
          after.vault.queue.tailTicket = pre.vault.queue.tailTicket ∧
          QueueHistory (servicesAlong run ++ servicesOf env limit pre)
            after.vault.queue.headTicket after) (fun _ _ => True) pre := by
        intro pos
        have services := processLoop_history env limit pre.vault.queue.tailTicket
          (pre.vault.queue.tailTicket - pre.vault.queue.headTicket) 0 rfl
          (held.tail ▸ room) held.history
        refine processUnstakeQueue_rule env pre limit _ (fun none => absurd none pos) ?_
        refine wp_then services ?_
        rintro result after ⟨ends, history⟩
        rw [servicesOf, if_pos ⟨accepts, pos⟩]
        exact ⟨ends, history.rehead⟩
      obtain ⟨count, gave⟩ := gave_of_accepts accepts
      by_cases none : limit = 0
      · have unchanged : wp (processUnstakeQueue env limit) (fun _ after => after = pre)
            (fun _ _ => True) pre := by
          simp only [processUnstakeQueue, wlp_rules, wp_notPaused, none, if_true]
        rw [same, wp_ok unchanged gave, servicesOf, if_neg fun tries => tries.2 none,
          append_nil]
        exact ⟨rfl, held.history⟩
      · rw [same]
        exact wp_ok (looped none) gave
    · have none : servicesOf env limit pre = [] := if_neg fun tries => accepts tries.1
      rw [same, invoke_of_rejected accepts, none, append_nil]
      exact ⟨rfl, held.history⟩
  constructor
  case history =>
    rw [servicesAlong_concat, tried]
    exact kept.2
  case tail =>
    rw [ticketsIssued_concat, unissued, kept.1]
    exact held.tail

theorem runHistory_step (held : RunHistory run pre) (input : Input)
    (serves : input.2.servesQueue = true)
    (room : ticketsIssued (run ++ [⟨pre, input, step input pre⟩]) ≤ u64Max) :
    RunHistory (run ++ [⟨pre, input, step input pre⟩]) (step input pre) := by
  obtain ⟨env, call⟩ := input
  cases call with
  | queueUnstake staker => exact held.queued env staker room
  | processUnstakeQueue limit =>
    rw [ticketsIssued_concat] at room
    exact held.processed env limit (by omega)
  | setting setting => exact held.idle rfl rfl (setting_spec env pre setting)
  | upkeep upkeep => exact held.idle rfl rfl (upkeep_spec env pre upkeep)
  | approval approval => exact held.idle rfl rfl (approval_spec env pre approval)
  | _ => cases serves

end Steps

/-- In every state that a run of the queue's calls reaches from an empty queue, as long as
at most `u64Max` tickets have been issued: the slots from head to tail are exactly those
with an entry, the entries and the users' tickets are inverse to each other, a user has
at most one ticket, tickets have been served in increasing order, and no ticket has been
paid twice. -/
theorem queue_structured (start : World) (unqueued : start.vault.queue = .empty)
    (free : start.vault.activity.executionLock = false) (inputs : List Input)
    (serving : ∀ input ∈ inputs, input.2.servesQueue = true)
    (room : ticketsIssued (trace step start inputs) ≤ u64Max) :
    (final step start inputs).vault.queue.Structured
      (final step start inputs).vault.queue.headTicket ∧ (∀ first second request other,
      (final step start inputs).vault.queue.entry.lookup first = some request →
      (final step start inputs).vault.queue.entry.lookup second = some other →
      request.user = other.user → first = second) ∧
    (servicesAlong (trace step start inputs)).Pairwise Service.Precedes := by
  have initially : RunHistory [] start := by
    refine ⟨⟨free, ?_, List.Pairwise.nil, by simp [servicesAlong]⟩, ?_⟩
    · rw [unqueued]
      exact UnstakeQueue.structured_empty
    · rw [unqueued]
      rfl
  have held := history_invariant step
    (fun run world => ticketsIssued run ≤ u64Max → RunHistory run world)
    (fun _ input => input.2.servesQueue = true)
    (fun run world input serves held room => by
      refine runHistory_step (held ?_) input serves room
      rw [ticketsIssued_concat] at room
      omega)
    start (fun _ => initially) inputs
    (fun taken mem => serving taken.input (input_mem step mem)) room
  exact ⟨held.history.structured, fun _ _ _ _ => held.history.structured.ticket_unique,
    held.history.ordered⟩

/-- Two stakers in front of an empty queue. -/
def twoStakers : World := reached 100 wealthy
  [(.at 10 1 [], .initializeVault 1 9 2), (.at 10 1 [5], .depositStake 5 100),
    (.at 10 1 [6], .depositStake 6 100)]

/-- Both queue, and the queue is processed one ticket at a time. -/
def oneByOne : List Input :=
  [(.at 20 2 [5], .queueUnstake 5), (.at 20 2 [6], .queueUnstake 6),
    (.at 30 3 [], .processUnstakeQueue 1), (.at 40 4 [], .processUnstakeQueue 1)]

/-- The queue of two stakers is structured and serves both in order. -/
theorem two_stakers_structured : (final step twoStakers oneByOne).vault.queue.Structured
      (final step twoStakers oneByOne).vault.queue.headTicket ∧ (∀ first second request other,
      (final step twoStakers oneByOne).vault.queue.entry.lookup first = some request →
      (final step twoStakers oneByOne).vault.queue.entry.lookup second = some other →
      request.user = other.user → first = second) ∧
    (servicesAlong (trace step twoStakers oneByOne)).Pairwise Service.Precedes :=
  queue_structured twoStakers rfl rfl oneByOne (by decide) (by decide)

example : (servicesAlong (trace step twoStakers oneByOne)).map
    (fun service => (service.item.1, service.item.2.user)) = [(0, 5), (1, 6)] := by decide

section Exhaustion

/-!
The tickets run out after `u64Max` rounds in which a staker queues and is served. The
run that shows it is too long to be evaluated, so what a round does is proved for every
number of rounds before it.
-/

/-- As many stakers with one unit each. -/
def crowd : Nat → Table Address StakeInfoV2
  | 0 => ∅
  | size + 1 => (crowd size).insert size ⟨1, 0, 0⟩

theorem lookup_crowd (size staker : Nat) (mem : staker < size) :
    (crowd size).lookup staker = some ⟨1, 0, 0⟩ := by
  induction size with
  | zero => exact absurd mem (Nat.not_lt_zero staker)
  | succ size ih =>
    rw [crowd, lookup_insert]
    split
    · rfl
    · exact ih (by omega)

/-- A vault with a crowd of stakers and the tokens to pay them all. -/
def crowded (size : Nat) : World where
  self := size
  vault := { Vault.empty with
    settings := { Settings.empty with initialized := true, stakeToken := some 9 }
    custody := { Custody.empty with stakesV2 := crowd size } }
  tokens := ⟨fun _ _ => size, 0⟩

/-- Every staker below a number queues and is served, one after the other. -/
def rounds : Nat → List Input
  | 0 => []
  | count + 1 => rounds count ++
    [(.at 0 0 [count], .queueUnstake count), (.at 0 0 [], .processUnstakeQueue 1)]

/-- The vault of a crowd after a number of rounds: the queue is empty again and the other
stakers are waiting. -/
structure AfterRounds (size count : Nat) (world : World) : Prop where
  self : world.self = size
  settings : world.vault.settings = { Settings.empty with initialized := true, stakeToken := some 9 }
  free : world.vault.activity.executionLock = false
  unlocked : ∀ staker, world.vault.activity.providerLockup.lookup staker = none
  idle : RewardIndex.Idle world.vault.index
  waiting : ∀ staker, count ≤ staker → staker < size →
    world.vault.custody.stakesV2.lookup staker = some ⟨1, 0, 0⟩
  funded : (size : Int) ≤ world.tokens.balance 9 size + count
  head : world.vault.queue.headTicket = count
  tail : world.vault.queue.tailTicket = count
  unticketed : ∀ staker, world.vault.queue.userTicket.lookup staker = none
  empty : ∀ ticket, world.vault.queue.entry.lookup ticket = none

variable {size count : Nat} {world : World}

theorem afterRounds_zero (size : Nat) : AfterRounds size 0 (crowded size) where
  self := rfl
  settings := rfl
  free := rfl
  unlocked staker := by simp [crowded, Vault.empty, Activity.empty]
  idle := RewardIndex.idle_empty
  waiting staker _ mem := lookup_crowd size staker mem
  funded := by simp [crowded]
  head := rfl
  tail := rfl
  unticketed staker := by simp [crowded, Vault.empty, UnstakeQueue.empty]
  empty ticket := by simp [crowded, Vault.empty, UnstakeQueue.empty]

theorem AfterRounds.queues (past : AfterRounds size count world) (room : count < size) :
    step (.at 0 0 [count], .queueUnstake count) world =
      world.setQueue (world.vault.queue.join (.at 0 0 [count]) count) := by
  have has := past.waiting count (le_refl count) room
  have other : count ≠ world.self := by rw [past.self]; omega
  have limit : world.vault.settings.queueLimit = 200 := by
    rw [past.settings]
    rfl
  have resumed : world.vault.settings.paused = false := by
    rw [past.settings]
    rfl
  have queued : wp (queueUnstake (.at 0 0 [count]) count)
      (fun _ after => after = world.setQueue (world.vault.queue.join (.at 0 0 [count]) count))
      (fun _ _ => False) world := by
    simp only [queueUnstake, getActiveStake, wp_rules, wp_auth, wp_notPaused, has,
      past.unticketed, past.head, past.tail, limit, resumed]
    simp [Env.at, other]
  have same : step (.at 0 0 [count], .queueUnstake count) world =
      invoke (queueUnstake (.at 0 0 [count]) count) world := invoke_discard _ _
  rw [same]
  exact invoke_rule (wp_mono queued (fun _ _ known => known) fun _ _ never => never.elim)

/-- A staker of a crowd is paid without fail. -/
theorem withdrawal_of_one (has : world.vault.custody.stakesV2.lookup count = some ⟨1, 0, 0⟩)
    (configured : world.vault.settings.stakeToken = some 9)
    (free : world.vault.activity.executionLock = false)
    (unlocked : world.vault.activity.providerLockup.lookup count = none)
    (funded : 1 ≤ world.tokens.balance 9 world.self) (idle : RewardIndex.Idle world.vault.index) :
    wp (doWithdraw (.at 0 0 []) count)
      (fun amount after => Withdrawn (.at 0 0 []) world count 9 ⟨1, 0, 0⟩ amount after)
      (fun _ _ => False) world := by
  have known {token : Address} {info : StakeInfoV2}
      (payable : Payable (.at 0 0 []) world count token info) :
      token = 9 ∧ info = ⟨1, 0, 0⟩ :=
    ⟨mem_unique payable.configured configured, mem_unique payable.has has⟩
  have payable : Payable (.at 0 0 []) world count 9 ⟨1, 0, 0⟩ :=
    ⟨configured, has, by decide, le_refl 0, by simp [Activity.LockedUp, unlocked]⟩
  have timely : Timely (.at 0 0 []) world count 1 :=
    ⟨by simp [Activity.FlashLoan, Env.at], by simp [TimelockElapsed, largeWithdrawalThreshold]⟩
  have accepted : world.tokens.refusal (.at 0 0 []) 9 world.self 1 = none := by
    simp only [Tokens.refusal]
    rw [if_neg (by omega), if_neg (by omega)]
    rfl
  refine wp_mono (doWithdraw_spec (.at 0 0 []) world count free) ?_ ?_
  · rintro amount after ⟨token, info, withdrawn⟩
    obtain ⟨rfl, rfl⟩ := known withdrawn.payable
    exact withdrawn
  · intro fault after stopped
    cases stopped with
    | early _ blocked => exact blocked 9 _ payable
    | untimely _ token info hit late =>
      obtain ⟨rfl, rfl⟩ := known hit
      exact late timely
    | refused _ token info hit _ failure refusal =>
      obtain ⟨rfl, rfl⟩ := known hit
      exact some_ne_none _ (refusal.symm.trans accepted)
    | unhooked _ _ _ _ _ _ unhooked => exact idle.zero_returns unhooked

theorem AfterRounds.next (past : AfterRounds size count world) (room : count < size)
    (number : count < u64Max) : AfterRounds size (count + 1) (final step world
      [(.at 0 0 [count], .queueUnstake count), (.at 0 0 [], .processUnstakeQueue 1)]) := by
  have has := past.waiting count (le_refl count) room
  have configured : world.vault.settings.stakeToken = some 9 := by
    rw [past.settings]
  have resumed : world.vault.settings.paused = false := by
    rw [past.settings]
    rfl
  have funded : 1 ≤ world.tokens.balance 9 world.self := by
    have := past.funded
    rw [past.self]
    omega
  have next : nextTicket count = count + 1 := saturating_count_exact number
  have tail : (world.vault.queue.join (.at 0 0 [count]) count).tailTicket = count + 1 := by
    simp only [UnstakeQueue.join, UnstakeQueue.tailTicket, getD_some]
    have := past.tail
    rw [UnstakeQueue.tailTicket] at this
    rw [this]
    exact saturating_count_exact number
  have head : (world.vault.queue.join (.at 0 0 [count]) count).headTicket = count := past.head
  have entry : (world.vault.queue.join (.at 0 0 [count]) count).entry.lookup count =
      some ⟨count, count, 0⟩ := by
    simp only [UnstakeQueue.join, past.tail, lookup_insert, if_true]
    rfl
  have looped : wp (processLoop (.at 0 0 []) 1 (count + 1) 1 0 count)
      (fun result after => AfterRounds size (count + 1)
        (after.setQueue { after.vault.queue with head := some result.2 })) (fun _ _ => False)
      (world.setQueue (world.vault.queue.join (.at 0 0 [count]) count)) := by
    rw [processLoop, wp_ite]
    refine ⟨fun _ => ?_, fun stops => absurd ⟨Nat.zero_lt_one, Nat.lt_succ_self count⟩ stops⟩
    simp only [wp_rules, World.setQueue, entry, wp_attempt]
    refine wp_mono (withdrawal_of_one has configured past.free (past.unlocked count)
      funded past.idle) ?_ fun _ _ never => never.elim
    rintro amount _ withdrawn
    obtain ⟨index, told, rfl⟩ := withdrawn.done
    simp only [wp_rules, processLoop, next]
    constructor
    case self => exact past.self
    case settings => exact past.settings
    case free => exact (consumed_executionLock ..).trans past.free
    case unlocked =>
      intro staker
      simp [World.served, World.setLimits, World.setQueue, World.paidOut, World.setActivity,
        Activity.consumed, Activity.released, largeWithdrawalThreshold, lookup_erase,
        past.unlocked]
    case idle => exact past.idle.changed (le_refl 0) told
    case waiting =>
      intro staker later mem
      have other : staker ≠ count := by omega
      simp only [World.served, World.setLimits, World.setQueue, World.paidOut, World.setActivity,
        Custody.recordStake, lookup_insert, if_neg other]
      exact past.waiting staker (by omega) mem
    case funded =>
      have enough := past.funded
      have other : size ≠ count := by omega
      simp only [World.served, World.setLimits, World.setQueue, World.paidOut, World.setActivity,
        Tokens.moved_balance, past.self, true_and, if_true, if_neg other]
      omega
    case head => rfl
    case tail => exact tail
    case unticketed =>
      intro staker
      simp only [World.served, World.setLimits, World.setQueue, World.paidOut, World.setActivity,
        UnstakeQueue.serve, UnstakeQueue.join, lookup_erase, lookup_insert]
      split
      · rfl
      · exact past.unticketed staker
    case empty =>
      intro ticket
      simp only [World.served, World.setLimits, World.setQueue, World.paidOut, World.setActivity,
        UnstakeQueue.serve, UnstakeQueue.join, lookup_erase, lookup_insert,
        past.tail]
      split
      · rfl
      · exact past.empty ticket
  have processed : wp (processUnstakeQueue (.at 0 0 []) 1)
      (fun _ after => AfterRounds size (count + 1) after) (fun _ _ => False)
      (world.setQueue (world.vault.queue.join (.at 0 0 [count]) count)) := by
    simp only [processUnstakeQueue, wp_rules, wp_notPaused, wp_ite]
    refine ⟨fun _ => ⟨fun none => absurd none Nat.one_ne_zero, fun _ => ⟨fun _ => ?_, ?_⟩⟩, ?_⟩
    · simp only [World.setQueue, head, tail, Nat.add_sub_cancel_left] at looped ⊢
      exact looped
    · simp only [World.setQueue, head, tail]
      omega
    · exact fun paused => paused resumed
  have same : step (.at 0 0 [], .processUnstakeQueue 1)
      (world.setQueue (world.vault.queue.join (.at 0 0 [count]) count)) =
      invoke (processUnstakeQueue (.at 0 0 []) 1)
        (world.setQueue (world.vault.queue.join (.at 0 0 [count]) count)) := invoke_discard _ _
  rw [final, past.queues room, final, same, final]
  exact invoke_rule (wp_mono processed (fun _ _ known => known) fun _ _ never => never.elim)

theorem rounds_serve (count : Nat) : ∀ input ∈ rounds count, input.2.servesQueue = true := by
  induction count with
  | zero => simp [rounds]
  | succ count ih =>
    intro input mem
    rcases List.mem_append.mp mem with prior | last
    · exact ih input prior
    · simp only [mem_cons, not_mem_nil, or_false] at last
      rcases last with rfl | rfl <;> rfl

theorem afterRounds (size count : Nat) (room : count < size) (number : count ≤ u64Max) :
    AfterRounds size count (final step (crowded size) (rounds count)) := by
  induction count with
  | zero => exact afterRounds_zero size
  | succ count ih =>
    have past := ih (by omega) (by omega)
    rw [rounds, final_append]
    exact past.next (by omega) number

end Exhaustion

/-- After `u64Max` tickets the tail can no longer move, and the entry of the next one lies
outside the slots from head to tail. -/
theorem last_ticket_unstructured : ¬ ∀ (start : World), start.vault.queue = .empty →
      start.vault.activity.executionLock = false → ∀ inputs : List Input,
      (∀ input ∈ inputs, input.2.servesQueue = true) →
        (final step start inputs).vault.queue.Structured
          (final step start inputs).vault.queue.headTicket := by
  intro every
  obtain ⟨count, full⟩ : ∃ count, count = u64Max := ⟨_, rfl⟩
  have past := afterRounds (count + 1) count (Nat.lt_succ_self count) (by omega)
  have structured := every (crowded (count + 1)) rfl rfl
    (rounds count ++ [(.at 0 0 [count], .queueUnstake count)]) (fun input mem => by
      rcases mem_snoc.mp mem with prior | rfl
      · exact rounds_serve count input prior
      · rfl)
  rw [final_append, final, past.queues (Nat.lt_succ_self count), final] at structured
  generalize final step (crowded (count + 1)) (rounds count) = world at past structured
  have tail := past.tail
  have has : (world.vault.queue.join (.at 0 0 [count]) count).entry.lookup count =
      some ⟨count, count, 0⟩ := by
    simp only [UnstakeQueue.join, tail, lookup_insert, if_true]
    rfl
  have saturated : (world.vault.queue.join (.at 0 0 [count]) count).tailTicket ≤ u64Max :=
    saturating_count_bounded _ _ _
  have inside := ((structured.filled count).mp ⟨_, has⟩).2
  simp only [World.setQueue] at inside
  omega

end StellarSwipe.StakeVault
