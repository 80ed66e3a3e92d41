import StellarSwipe.TradeExecutor.QueueLifecycle

/-!
# Runs of the queue

Every step says what it queues, what it attempts and what is gone after it.
-/

namespace StellarSwipe.TradeExecutor

open FixedWidth Program Runs TradeConfig QueueStore AList Nat

abbrev QueueTransition := Transition (Ledger QueueStore) QueueInput

abbrev QueueAttempt := Attempt MarketStore ContractError Unit QueuedTrade

namespace QueueTransition

variable (taken : QueueTransition)

def env : Env := taken.pre.env taken.input.arrival

def Returned : Prop :=
  Accepts (taken.input.call.exec taken.env taken.input.outside) taken.pre.store
deriving Decidable

/-- The attempts of a step that stay. -/
def tried : List QueueAttempt :=
  match taken.input.call with
  | .execute =>
    let store := taken.pre.store
    if taken.Returned then
      queueAttempts taken.env taken.input.outside store.queuedTrades store.queuedTradeIds
        store.market
    else []
  | _ => []

variable (tradeId : Nat)

def Attempts : Prop :=
  ∃ entry ∈ taken.tried, entry.item.queuedTradeId = tradeId
deriving Decidable

def Executes : Prop :=
  ∃ entry ∈ taken.tried, entry.item.queuedTradeId = tradeId ∧ entry.result.isOk = true
deriving Decidable

/-- A step queues a number, for the first time or again. -/
def Queues : Prop :=
  match taken.input.call with
  | .queue _ => taken.Returned ∧ tradeId = taken.pre.store.upcomingId
  | .requeue requeued => taken.Returned ∧ tradeId = requeued
  | _ => False

instance : Decidable (taken.Queues tradeId) := by
  unfold Queues
  split <;> infer_instance

/-- After the step the number is neither queued nor a dead letter any more. -/
def Finishes : Prop :=
  taken.pre.store.Present tradeId ∧ ¬ taken.after.store.Present tradeId

/-- The next number is not the last there is. -/
def Roomy : Prop :=
  match taken.input.call with
  | .queue _ => taken.pre.store.upcomingId < u64Max
  | _ => True

instance : Decidable taken.Roomy := by
  unfold Roomy
  split <;> infer_instance

end QueueTransition

/-- How often a number was attempted since it was queued last. -/
def attemptsSince (tradeId : Nat) (past : List QueueTransition) : Nat :=
  past.foldl (fun count taken =>
    if taken.Queues tradeId then 0
    else if taken.Attempts tradeId then count + 1 else count) 0

/-- What one step does to the numbers. -/
structure QueueMove (maxRetries : Nat) (taken : QueueTransition) : Prop where
  alive : taken.after.store.Lifecycle taken.after.store.queuedTradeIds
  limit : taken.after.store.market.config.effectiveMaxRetryCount = maxRetries
  queued : ∀ tradeId, taken.Queues tradeId →
    ∃ queued, taken.after.store.queuedTrades.lookup tradeId = some queued ∧
      queued.retryCount = 0
  attempted : ∀ tradeId, taken.Attempts tradeId →
    ∃ queued, taken.pre.store.queuedTrades.lookup tradeId = some queued ∧
      ∀ updated, taken.after.store.queuedTrades.lookup tradeId = some updated →
        updated.retryCount = queued.retryCount + 1 ∧ updated.retryCount < maxRetries
  idle : ∀ tradeId, ¬ taken.Queues tradeId → ¬ taken.Attempts tradeId →
    ∀ queued, taken.after.store.queuedTrades.lookup tradeId = some queued →
      taken.pre.store.queuedTrades.lookup tradeId = some queued
  executed : ∀ tradeId, taken.Executes tradeId → taken.Finishes tradeId
  gone : ∀ tradeId < taken.pre.store.upcomingId,
    ¬ taken.pre.store.Present tradeId → ¬ taken.after.store.Present tradeId
  later : taken.pre.store.upcomingId ≤ taken.after.store.upcomingId
  fresh : ∀ tradeId < taken.after.store.upcomingId,
    tradeId < taken.pre.store.upcomingId ∨ taken.after.store.Present tradeId
  graceful : ∀ entry ∈ taken.tried, taken.pre.store.market.config.GracePeriodElapsed
    taken.env entry.item.queuedAtLedger

/-- A number that was given out is queued, a dead letter or finished, and only one of these. -/
structure InOnePlace (past : List QueueTransition) (store : QueueStore) (tradeId : Nat) : Prop where
  somewhere : store.Present tradeId ∨ ∃ taken ∈ past, taken.Finishes tradeId
  apart : ∀ queued, store.queuedTrades.lookup tradeId = some queued →
    store.deadLetters.lookup tradeId = none
  finished : ∀ taken ∈ past, taken.Finishes tradeId → ¬ store.Present tradeId

/-- What holds of the queue after a run. -/
structure QueueKept (maxRetries : Nat) (past : List QueueTransition)
    (ledger : Ledger QueueStore) : Prop where
  alive : ledger.store.Lifecycle ledger.store.queuedTradeIds
  limit : ledger.store.market.config.effectiveMaxRetryCount = maxRetries
  tries : ∀ tradeId queued, ledger.store.queuedTrades.lookup tradeId = some queued →
    queued.retryCount = attemptsSince tradeId past ∧ queued.retryCount < maxRetries
  bounded : ∀ tradeId, attemptsSince tradeId past ≤ maxRetries
  once : ∀ tradeId, OneShot.Once (fun taken : QueueTransition => taken.Executes tradeId)
    (tradeId < ledger.store.upcomingId ∧ ¬ ledger.store.Present tradeId) past
  places : ∀ tradeId, 1 ≤ tradeId → tradeId < ledger.store.upcomingId →
    InOnePlace past ledger.store tradeId
  given : ∀ taken ∈ past, ∀ tradeId, taken.Finishes tradeId →
    tradeId < ledger.store.upcomingId
  graceful : ∀ taken ∈ past, ∀ entry ∈ taken.tried,
    taken.pre.store.market.config.GracePeriodElapsed taken.env entry.item.queuedAtLedger

section Steps

variable {maxRetries : Nat} {past : List QueueTransition} {ledger after : Ledger QueueStore}
  {input : QueueInput}

theorem attemptsSince_concat (tradeId : Nat) (past : List QueueTransition)
    (taken : QueueTransition) : attemptsSince tradeId (past ++ [taken]) =
      if taken.Queues tradeId then 0
      else if taken.Attempts tradeId then attemptsSince tradeId past + 1
      else attemptsSince tradeId past := by
  rw [attemptsSince, attemptsSince, List.foldl_append, List.foldl_cons, List.foldl_nil]

theorem QueueKept.concat (kept : QueueKept maxRetries past ledger) (pos : 0 < maxRetries)
    (move : QueueMove maxRetries ⟨ledger, input, after⟩) :
    QueueKept maxRetries (past ++ [⟨ledger, input, after⟩]) after := by
  set taken : QueueTransition := ⟨ledger, input, after⟩
  refine ⟨move.alive, move.limit, fun tradeId queued has => ?_, fun tradeId => ?_,
    fun tradeId => ?_, fun tradeId given issued => ?_, fun finishing mem tradeId finishes => ?_,
    ?_⟩
  · rw [attemptsSince_concat]
    by_cases queues : taken.Queues tradeId
    · rw [if_pos queues]
      obtain ⟨started, hit, none⟩ := move.queued tradeId queues
      cases Option.mem_unique has hit
      exact ⟨none, none ▸ pos⟩
    rw [if_neg queues]
    by_cases attempts : taken.Attempts tradeId
    · rw [if_pos attempts]
      obtain ⟨prior, hit, counts⟩ := move.attempted tradeId attempts
      obtain ⟨counted, below⟩ := counts queued has
      exact ⟨by rw [counted, (kept.tries tradeId prior hit).1], below⟩
    · rw [if_neg attempts]
      exact kept.tries tradeId queued (move.idle tradeId queues attempts queued has)
  · rw [attemptsSince_concat]
    split
    next => exact zero_le _
    next =>
      split
      next attempts =>
        obtain ⟨prior, hit, _⟩ := move.attempted tradeId attempts
        obtain ⟨counted, below⟩ := kept.tries tradeId prior hit
        omega
      next => exact kept.bounded tradeId
  · refine (kept.once tradeId).concat ?_ ?_ ?_
    · exact fun executes spent => spent.2 (move.executed tradeId executes).1
    · intro executes
      obtain ⟨here, gone⟩ := move.executed tradeId executes
      exact ⟨(kept.alive.issued tradeId here).trans_le move.later, gone⟩
    · exact fun ⟨issued, absent⟩ => ⟨issued.trans_le move.later, move.gone tradeId issued absent⟩
  · refine ⟨?_, move.alive.apart tradeId, ?_⟩
    · by_cases here : after.store.Present tradeId
      · exact .inl here
      have prior := (move.fresh tradeId issued).resolve_right here
      by_cases present : ledger.store.Present tradeId
      · exact .inr ⟨taken, by simp, present, here⟩
      · obtain ⟨finishing, mem, finishes⟩ :=
          (kept.places tradeId given prior).somewhere.resolve_left present
        exact .inr ⟨finishing, by simp [mem], finishes⟩
    · intro finishing mem finishes
      rcases mem_snoc.mp mem with inside | rfl
      · have prior := kept.given finishing inside tradeId finishes
        exact move.gone tradeId prior
          ((kept.places tradeId given prior).finished finishing inside finishes)
      · exact finishes.2
  · rcases mem_snoc.mp mem with inside | rfl
    · exact (kept.given finishing inside tradeId finishes).trans_le move.later
    · exact (kept.alive.issued tradeId finishes.1).trans_le move.later
  · simpa [or_imp, forall_and] using ⟨kept.graceful, move.graceful⟩

/-- A storage with fewer records and the same counter and limit. -/
structure Shrinks (pre after : QueueStore) : Prop where
  alive : after.Lifecycle after.queuedTradeIds
  queued : ∀ tradeId queued, after.queuedTrades.lookup tradeId = some queued →
    pre.queuedTrades.lookup tradeId = some queued
  letters : ∀ tradeId failed, after.deadLetters.lookup tradeId = some failed →
    pre.deadLetters.lookup tradeId = some failed
  upcoming : after.upcomingId = pre.upcomingId
  limit : after.market.config.maxRetryCount = pre.market.config.maxRetryCount

theorem Shrinks.present {pre after : QueueStore} (shrinks : Shrinks pre after)
    {tradeId : Nat} (here : after.Present tradeId) : pre.Present tradeId :=
  here.imp (fun ⟨queued, has⟩ => ⟨queued, shrinks.queued tradeId queued has⟩)
    fun ⟨failed, has⟩ => ⟨failed, shrinks.letters tradeId failed has⟩

theorem TradeConfig.maxRetryCount_congr {first second : TradeConfig}
    (same : first.maxRetryCount = second.maxRetryCount) :
    first.effectiveMaxRetryCount = second.effectiveMaxRetryCount := by
  rw [effectiveMaxRetryCount, same, effectiveMaxRetryCount]

theorem QueueMove.shrinking (limit : ledger.store.market.config.effectiveMaxRetryCount = maxRetries)
    (unqueued : ∀ tradeId, ¬ QueueTransition.Queues ⟨ledger, input, after⟩ tradeId)
    (untried : QueueTransition.tried ⟨ledger, input, after⟩ = [])
    (shrinks : Shrinks ledger.store after.store) : QueueMove maxRetries ⟨ledger, input, after⟩ where
  alive := shrinks.alive
  limit := (maxRetryCount_congr shrinks.limit).trans limit
  queued tradeId queues := absurd queues (unqueued tradeId)
  attempted tradeId attempts := by
    obtain ⟨_, mem, _⟩ := attempts
    rw [untried] at mem
    cases mem
  idle tradeId _ _ := shrinks.queued tradeId
  executed tradeId executes := by
    obtain ⟨_, mem, _⟩ := executes
    rw [untried] at mem
    cases mem
  gone tradeId _ absent here := absent (shrinks.present here)
  later := shrinks.upcoming.ge
  fresh tradeId issued := .inl (shrinks.upcoming ▸ issued)
  graceful entry mem := by
    rw [untried] at mem
    cases mem

variable {store : QueueStore}

theorem shrinks_refl (alive : store.Lifecycle store.queuedTradeIds) : Shrinks store store :=
  ⟨alive, fun _ _ => id, fun _ _ => id, rfl, rfl⟩

theorem Shrinks.trans {first second third : QueueStore} (early : Shrinks first second)
    (late : Shrinks second third) : Shrinks first third :=
  ⟨late.alive, fun tradeId queued has => early.queued tradeId queued
    (late.queued tradeId queued has), fun tradeId failed has =>
    early.letters tradeId failed (late.letters tradeId failed has),
    late.upcoming.trans early.upcoming, late.limit.trans early.limit⟩

theorem lookup_of_erase {ν : Type} {table : Table Nat ν} {erased key : Nat} {value : ν}
    (has : (table.erase erased).lookup key = some value) : table.lookup key = some value := by
  rw [Table.lookup_erase] at has
  split at has
  next => cases has
  next => exact has

theorem shrinks_removeDeadLetter (alive : store.Lifecycle store.queuedTradeIds)
    {failed : FailedTrade} {removed : Nat}
    (hit : store.deadLetters.lookup removed = some failed) :
    Shrinks store (store.removeDeadLetter failed removed) :=
  ⟨alive.removeDeadLetter hit, fun _ _ => id, fun _ _ => lookup_of_erase, rfl, rfl⟩

variable (env : Env)

/-- A prune removes dead letters only. The induction is on the numbers still to look at. -/
theorem pruneLetters_spec (retention maxEntries : Nat) (ids : List Nat) (removed : Nat)
    (pre : QueueStore) (alive : pre.Lifecycle pre.queuedTradeIds) :
    wp (pruneLetters env retention maxEntries ids removed) (fun _ after => Shrinks pre after)
      (fun _ _ => False) pre := by
  induction ids generalizing removed pre with
  | nil => exact shrinks_refl alive
  | cons tradeId rest ih =>
    rw [pruneLetters, wp_ite]
    refine ⟨fun _ => ?_, fun _ => shrinks_refl alive⟩
    rw [wp_bind, wp_get]
    cases hit : pre.deadLetters.lookup tradeId with
    | none => exact ih removed pre alive
    | some failed =>
      simp only [wp_ite, wp_rules]
      refine ⟨fun old => ?_, fun _ => ih removed pre alive⟩
      have first := shrinks_removeDeadLetter alive hit
      exact wp_mono (ih _ _ first.alive) (fun _ _ late => first.trans late)
        fun _ _ never => never

theorem wp_requireAdmin (store : QueueStore) {post : Unit → QueueStore → Prop}
    {fault : Fault ContractError → QueueStore → Prop} (admitted : post () store)
    (refused : ∀ reason, fault reason store) : wp (requireAdmin env) post fault store := by
  simp only [requireAdmin, admitAdmin, wp_rules, wp_auth]
  exact ⟨fun _ _ => ⟨fun _ => admitted, fun _ => refused _⟩, fun _ => refused _⟩

theorem removing_spec {call : QueueCall} {env : Env} {outside : Outside} {pre : QueueStore}
    (alive : pre.Lifecycle pre.queuedTradeIds)
    (removing : ∀ trade tradeId, call ≠ .queue trade ∧ call ≠ .execute ∧ call ≠ .requeue tradeId) :
    wlp (call.exec env outside) (fun _ after => Shrinks pre after) pre := by
  cases call with
  | queue trade => exact absurd rfl (removing trade 0).1
  | execute => exact absurd rfl (removing ⟨0, 0, 0, none⟩ 0).2.1
  | requeue tradeId => exact absurd rfl (removing ⟨0, 0, 0, none⟩ tradeId).2.2
  | cancel user cancelled =>
    simp only [QueueCall.exec, cancelQueuedTrade, wp_bind, wp_auth, wp_get, wp_orFail,
      wp_ensure, wp_modify]
    refine ⟨fun _ => ⟨fun queued _ => ⟨fun _ => ⟨fun _ => ?_, fun _ => trivial⟩, fun _ => trivial⟩,
      fun _ => trivial⟩, fun _ => trivial⟩
    exact ⟨alive.cancel cancelled, fun _ _ => lookup_of_erase, fun _ _ => id, rfl, rfl⟩
  | drop tradeId =>
    simp only [QueueCall.exec, discardDeadLetteredTrade, wp_bind]
    refine wp_requireAdmin env pre ?_ fun _ => trivial
    simp only [wp_get, wp_orFail, wp_modify]
    exact ⟨fun failed hit => shrinks_removeDeadLetter alive hit, fun _ => trivial⟩
  | prune user maxEntries =>
    simp only [QueueCall.exec, pruneDeadLetterQueue, wp_discard, wp_bind]
    refine wp_requireAdmin env pre ?_ fun _ => trivial
    rw [wp_get]
    exact wp_mono (pruneLetters_spec env _ _ _ 0 pre alive) (fun _ _ done => done)
      fun _ _ never => never.elim
  | elsewhere market =>
    exact ⟨alive.carry rfl rfl rfl rfl le_rfl, fun _ _ => id, fun _ _ => id, rfl, rfl⟩

theorem QueueMove.storing {middle : QueueStore} {queued : QueuedTrade}
    (limit : ledger.store.market.config.effectiveMaxRetryCount = maxRetries)
    (stores : after.store = middle.storeQueuedTrade queued) (anew : queued.retryCount = 0)
    (alive : middle.Lifecycle middle.queuedTradeIds)
    (absent : ¬ middle.Present queued.queuedTradeId)
    (issued : queued.queuedTradeId < middle.upcomingId)
    (records : ∀ tradeId other, middle.queuedTrades.lookup tradeId = some other →
      ledger.store.queuedTrades.lookup tradeId = some other)
    (letters : ∀ tradeId failed, middle.deadLetters.lookup tradeId = some failed →
      ledger.store.deadLetters.lookup tradeId = some failed)
    (config : middle.market.config = ledger.store.market.config)
    (queues : ∀ tradeId, QueueTransition.Queues ⟨ledger, input, after⟩ tradeId ↔
      tradeId = queued.queuedTradeId) (untried : QueueTransition.tried ⟨ledger, input, after⟩ = [])
    (later : ledger.store.upcomingId ≤ middle.upcomingId) (fresh : ∀ tradeId < middle.upcomingId,
      tradeId < ledger.store.upcomingId ∨ tradeId = queued.queuedTradeId)
    (back : queued.queuedTradeId < ledger.store.upcomingId →
      ledger.store.Present queued.queuedTradeId) : QueueMove maxRetries ⟨ledger, input, after⟩ where
  alive := by
    show after.store.Lifecycle after.store.queuedTradeIds
    rw [stores]
    exact alive.stores absent issued
  limit := by
    show after.store.market.config.effectiveMaxRetryCount = maxRetries
    rw [stores, ← limit, ← config]
    rfl
  queued tradeId queueing := by
    cases (queues tradeId).mp queueing
    refine ⟨queued, ?_, anew⟩
    show after.store.queuedTrades.lookup _ = _
    rw [stores]
    exact lookup_insert _
  attempted tradeId attempts := by
    obtain ⟨_, mem, _⟩ := attempts
    rw [untried] at mem
    cases mem
  idle tradeId unqueued _ other has := by
    have different : tradeId ≠ queued.queuedTradeId := fun same =>
      unqueued ((queues tradeId).mpr same)
    have hit : after.store.queuedTrades.lookup tradeId = some other := has
    rw [stores, storeQueuedTrade, lookup_insert_ne different] at hit
    exact records tradeId other hit
  executed tradeId executes := by
    obtain ⟨_, mem, _⟩ := executes
    rw [untried] at mem
    cases mem
  gone tradeId prior away here := by
    have present : after.store.Present tradeId := here
    rw [stores] at present
    by_cases same : tradeId = queued.queuedTradeId
    · exact away (same ▸ back (same ▸ prior))
    · apply away
      rcases present with ⟨other, has⟩ | ⟨failed, has⟩
      · rw [storeQueuedTrade, lookup_insert_ne same] at has
        exact .inl ⟨other, records tradeId other has⟩
      · exact .inr ⟨failed, letters tradeId failed has⟩
  later := by
    show ledger.store.upcomingId ≤ after.store.upcomingId
    rw [stores]
    exact later
  fresh tradeId given := by
    have issued' : tradeId < after.store.upcomingId := given
    rw [stores] at issued'
    refine (fresh tradeId issued').imp_right ?_
    rintro rfl
    refine .inl ⟨queued, ?_⟩
    show after.store.queuedTrades.lookup _ = _
    rw [stores]
    exact lookup_insert _
  graceful entry mem := by
    rw [untried] at mem
    cases mem

theorem queueCopyTrade_spec (trade : Trade) (pre : QueueStore) :
    wlp (discard (queueCopyTrade env trade)) (fun _ after => after =
        ({ pre with
          nextQueuedTradeId := some (satCount u64Max pre.upcomingId 1) } :
            QueueStore).storeQueuedTrade ⟨pre.upcomingId, trade, env.sequence, 0⟩) pre := by
  simp only [queueCopyTrade, wp_rules, wp_auth]
  exact ⟨fun _ => ⟨fun _ => trivial, fun _ => trivial⟩, fun _ => trivial⟩

theorem requeueDeadLetteredTrade_spec (tradeId : Nat) (pre : QueueStore) :
    wlp (requeueDeadLetteredTrade env tradeId)
      (fun _ after => ∃ failed, pre.deadLetters.lookup tradeId = some failed ∧
        after = (pre.removeDeadLetter failed tradeId).storeQueuedTrade
          (failed.requeued env tradeId)) pre := by
  simp only [requeueDeadLetteredTrade, wp_bind]
  refine wp_requireAdmin env pre ?_ fun _ => trivial
  simp only [wp_rules]
  exact ⟨fun failed hit => ⟨failed, hit, rfl⟩, fun _ => trivial⟩

theorem executeQueuedTrades_spec (outside : Outside) (pre : QueueStore)
    (alive : pre.Lifecycle pre.queuedTradeIds) : wlp (discard (executeQueuedTrades env outside))
      (fun _ after => after.Lifecycle after.queuedTradeIds ∧
        Executed env pre.market.config.effectiveMaxRetryCount
          (queueAttempts env outside pre.queuedTrades pre.queuedTradeIds pre.market)
          pre after) pre := by
  simp only [executeQueuedTrades, wp_rules]
  refine wp_then (executeQueue_spec pre.queuedTradeIds [] 0 pre alive
    fun _ _ => rfl) ?_
  rintro ⟨remaining, count⟩ after ⟨later, executed⟩
  exact ⟨later.carry rfl rfl rfl rfl le_rfl,
    ⟨executed.filed, executed.idle, executed.upcoming, executed.config, executed.market⟩⟩

theorem QueueMove.executing (kept : QueueKept maxRetries past ledger)
    (representable : maxRetries ≤ u32Max) (called : input.call = .execute)
    (gave : QueueTransition.Returned ⟨ledger, input, after⟩)
    (alive : after.store.Lifecycle after.store.queuedTradeIds)
    (executed : Executed (ledger.env input.arrival) maxRetries
      (queueAttempts (ledger.env input.arrival) input.outside ledger.store.queuedTrades
        ledger.store.queuedTradeIds ledger.store.market) ledger.store after.store) :
    QueueMove maxRetries ⟨ledger, input, after⟩ := by
  have tried : QueueTransition.tried ⟨ledger, input, after⟩ =
      queueAttempts (ledger.env input.arrival) input.outside ledger.store.queuedTrades
        ledger.store.queuedTradeIds ledger.store.market := by
    simp only [QueueTransition.tried, called, if_pos gave]
    rfl
  have hit {entry : QueueAttempt} (mem : entry ∈ QueueTransition.tried ⟨ledger, input, after⟩) :
      ledger.store.queuedTrades.lookup entry.item.queuedTradeId = some entry.item := by
    rw [tried] at mem
    obtain ⟨⟨tradeId, _, has⟩, _⟩ := mem_queueAttempts mem
    rwa [kept.alive.named tradeId _ has]
  have quiet {tradeId : Nat} (idle : ¬ QueueTransition.Attempts ⟨ledger, input, after⟩ tradeId) :=
    executed.idle tradeId fun entry mem same => idle ⟨entry, tried ▸ mem, same⟩
  have present {tradeId : Nat} (here : after.store.Present tradeId) :
      ledger.store.Present tradeId := by
    by_cases attempts : QueueTransition.Attempts ⟨ledger, input, after⟩ tradeId
    · obtain ⟨entry, mem, rfl⟩ := attempts
      exact .inl ⟨_, hit mem⟩
    · obtain ⟨records, letters⟩ := quiet attempts
      rwa [QueueStore.Present, records, letters] at here
  refine ⟨alive, ?_, fun tradeId queueing => ?_, ?_, fun tradeId _ idle queued has => ?_, ?_,
    fun _ _ away here => away (present here), executed.upcoming.ge,
    fun _ given => .inl (executed.upcoming ▸ given), fun entry mem => ?_⟩
  · exact (congrArg effectiveMaxRetryCount executed.config).trans kept.limit
  · simp only [QueueTransition.Queues, called] at queueing
  · rintro _ ⟨entry, mem, rfl⟩
    refine ⟨entry.item, hit mem, fun updated has => ?_⟩
    have filed := (executed.filed entry (tried ▸ mem)).1.symm.trans has
    have below := (kept.tries _ _ (hit mem)).2
    have exact : satCount u32Max entry.item.retryCount 1 = entry.item.retryCount + 1 :=
      saturating_count_exact (by omega)
    rw [QueuedTrade.outcome.eq_def] at filed
    split at filed
    next => cases filed
    next =>
      dsimp only at filed
      rw [exact] at filed
      split at filed
      next => cases filed
      next again =>
        cases filed
        exact ⟨rfl, not_le.mp again⟩
  · exact (quiet idle).1 ▸ has
  · rintro _ ⟨entry, mem, rfl, succeeded⟩
    refine ⟨.inl ⟨_, hit mem⟩, fun here => ?_⟩
    obtain ⟨queued, letter⟩ := executed.filed entry (tried ▸ mem)
    cases reported : entry.result with
    | error reason =>
      rw [reported] at succeeded
      cases succeeded
    | ok =>
      rw [reported] at queued letter
      rcases here with ⟨other, has⟩ | ⟨failed, has⟩
      · cases queued.symm.trans has
      · cases letter.symm.trans has
  · rw [tried] at mem
    exact (mem_queueAttempts mem).2

theorem QueueMove.rejected (kept : QueueKept maxRetries past ledger)
    (rejected : ¬ QueueTransition.Returned ⟨ledger, input, queueStep input ledger⟩) :
    QueueMove maxRetries ⟨ledger, input, queueStep input ledger⟩ := by
  have same : (queueStep input ledger).store = ledger.store := invoke_of_rejected rejected
  refine .shrinking kept.limit (fun tradeId queueing => ?_) ?_ ?_
  · rw [QueueTransition.Queues] at queueing
    split at queueing
    next => exact rejected queueing.1
    next => exact rejected queueing.1
    next => exact queueing
  · rw [QueueTransition.tried]
    split
    next => exact if_neg rejected
    next => rfl
  · rw [same]
    exact shrinks_refl kept.alive

/-- Every step has its move, while there is room for another number. -/
theorem QueueMove.step (kept : QueueKept maxRetries past ledger)
    (representable : maxRetries ≤ u32Max)
    (roomy : QueueTransition.Roomy ⟨ledger, input, queueStep input ledger⟩) :
    QueueMove maxRetries ⟨ledger, input, queueStep input ledger⟩ := by
  by_cases returns : QueueTransition.Returned ⟨ledger, input, queueStep input ledger⟩
  case neg => exact .rejected kept returns
  obtain ⟨_, ran⟩ := gave_of_accepts returns
  have removing (others : ∀ trade tradeId,
      input.call ≠ .queue trade ∧ input.call ≠ .execute ∧ input.call ≠ .requeue tradeId) :
      Shrinks ledger.store (queueStep input ledger).store :=
    wp_ok (removing_spec kept.alive others) ran
  obtain ⟨arrival, outside, call⟩ := input
  cases call with
  | cancel user tradeId =>
    exact .shrinking kept.limit (fun _ => id) rfl (removing fun _ _ => by simp)
  | drop tradeId => exact .shrinking kept.limit (fun _ => id) rfl (removing fun _ _ => by simp)
  | prune user maxEntries =>
    exact .shrinking kept.limit (fun _ => id) rfl (removing fun _ _ => by simp)
  | elsewhere market => exact .shrinking kept.limit (fun _ => id) rfl (removing fun _ _ => by simp)
  | execute =>
    obtain ⟨alive, executed⟩ := wp_ok
      (executeQueuedTrades_spec (ledger.env arrival) outside ledger.store kept.alive) ran
    rw [kept.limit] at executed
    exact .executing kept representable rfl returns alive executed
  | queue trade =>
    have has := wp_ok (queueCopyTrade_spec (ledger.env arrival) trade ledger.store) ran
    have room : ledger.store.upcomingId + 1 ≤ u64Max := roomy
    rw [saturating_count_exact room] at has
    have absent : ¬ ledger.store.Present ledger.store.upcomingId := fun here =>
      lt_irrefl _ (kept.alive.issued _ here)
    refine .storing kept.limit has rfl ?_ absent (lt_succ_self _) (fun _ _ => id)
      (fun _ _ => id) rfl (fun tradeId => and_iff_right returns) rfl (le_succ _)
      (fun tradeId given => Nat.lt_succ_iff_lt_or_eq.mp given)
      fun prior => absurd prior (lt_irrefl _)
    exact kept.alive.carry rfl rfl rfl rfl (le_succ _)
  | requeue tradeId =>
    obtain ⟨failed, hit, has⟩ := wp_ok
      (requeueDeadLetteredTrade_spec (ledger.env arrival) tradeId ledger.store) ran
    have here : ledger.store.Present tradeId := .inr ⟨failed, hit⟩
    have alive := kept.alive.removeDeadLetter hit
    refine .storing kept.limit has rfl alive ?_ (kept.alive.issued tradeId here)
      (fun _ _ => id) (fun _ _ => lookup_of_erase) rfl (fun other => and_iff_right returns) rfl
      le_rfl (fun _ given => .inl given) fun _ => here
    rintro (⟨queued, still⟩ | ⟨letter, still⟩)
    · cases (kept.alive.apart tradeId queued still).symm.trans hit
    · cases (lookup_erase _ _).symm.trans still

end Steps

/-- In every run under a positive retry limit, while the numbers last, each number is in one
place, the lists name what there is, and a trade is executed at most once, after its grace
period, and attempted no more often than the limit allows. -/
theorem queue_kept (timestamp sequence : Nat) (maxRetries : Fin (u32Max + 1))
    (inputs : List QueueInput) (pos : 0 < maxRetries.val)
    (roomy : ∀ taken ∈ trace queueStep (queueStart timestamp sequence maxRetries) inputs,
      QueueTransition.Roomy taken) :
    QueueKept maxRetries.val (trace queueStep (queueStart timestamp sequence maxRetries) inputs)
      (final queueStep (queueStart timestamp sequence maxRetries) inputs) := by
  refine transition_history_invariant queueStep (QueueKept maxRetries.val) QueueTransition.Roomy
    (fun past ledger input guard kept => kept.concat pos
      (.step kept (Nat.lt_succ_iff.mp maxRetries.isLt) guard))
    (queueStart timestamp sequence maxRetries) ?_ inputs roomy
  refine ⟨⟨fun _ _ has => (by cases has), List.nodup_nil, fun _ => by simp [queueStart],
    ⟨fun _ _ has => (by cases has), List.nodup_nil, fun _ => by simp [queueStart],
      fun _ => List.nodup_nil, fun _ _ => by simp [queueStart, deadLettersOf]⟩,
    fun _ _ has => (by cases has), ?_⟩, rfl, fun _ _ has => (by cases has),
    fun _ => zero_le _, fun _ => .nil, fun _ given issued => ?_, by simp, by simp⟩
  · rintro _ (⟨_, has⟩ | ⟨_, has⟩) <;> cases has
  · exact absurd issued (not_lt.mpr given)

/-- A user queues a trade of 2000, and ten ledgers later the queue is executed. -/
def queuedOnce : List QueueInput :=
  let outside : Outside := ⟨fun _ _ => none, fun _ _ _ => false, fun _ => ⟨0, 0⟩, .ok 0⟩
  [⟨⟨1, 1, [1]⟩, outside, .queue ⟨1, 2, 2000, none⟩⟩, ⟨⟨10, 10, []⟩, outside, .execute⟩]

/-- Under a retry limit of zero, a trade is attempted once. -/
theorem attempted_past_limit :
    ¬ ∀ (timestamp sequence : Nat) (maxRetries : Fin (u32Max + 1)) (inputs : List QueueInput),
      ∀ tradeId, attemptsSince tradeId
        (trace queueStep (queueStart timestamp sequence maxRetries) inputs) ≤
          maxRetries.val := by
  intro every
  exact absurd (every 0 0 0 queuedOnce 1) (by decide)

/-- Under a retry limit of one, it becomes a dead letter at once and is queued again. -/
theorem requeued_kept :
    let config : TradeConfig := { blank with admin := some 5 }
    let outside : Outside := ⟨fun _ _ => none, fun _ _ _ => false, fun _ => ⟨0, 0⟩, .ok 0⟩
    let inputs : List QueueInput := queuedOnce ++
      [⟨⟨1, 1, []⟩, outside, .elsewhere { MarketStore.blank with config }⟩,
        ⟨⟨1, 1, [5]⟩, outside, .requeue 1⟩, ⟨⟨10, 10, []⟩, outside, .execute⟩]
    QueueKept 1 (trace queueStep (queueStart 0 0 1) inputs)
      (final queueStep (queueStart 0 0 1) inputs) :=
  queue_kept 0 0 1 _ one_pos (by decide)

end StellarSwipe.TradeExecutor
