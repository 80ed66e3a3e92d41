import StellarSwipe.Library.Runs
import StellarSwipe.TradeExecutor.Queue

/-!
# The life of a queued trade

A number that was given out is queued, a dead letter, or finished for good.
-/

namespace StellarSwipe.TradeExecutor

open FixedWidth Program Runs Table List

namespace QueueStore

/-- Every dead letter is listed once for its user and once among all. -/
structure LettersIndexed (store : QueueStore) : Prop where
  named : ∀ tradeId failed, store.deadLetters.lookup tradeId = some failed →
    failed.tradeId = tradeId
  allOnce : store.deadLetterAllIds.Nodup
  all : ∀ tradeId, tradeId ∈ store.deadLetterAllIds ↔
    ∃ failed, store.deadLetters.lookup tradeId = some failed
  userOnce : ∀ user, (store.deadLettersOf user).Nodup
  byUser : ∀ user tradeId, tradeId ∈ store.deadLettersOf user ↔
    ∃ failed, store.deadLetters.lookup tradeId = some failed ∧ failed.trade.user = user

/-- A number is queued or a dead letter. -/
def Present (store : QueueStore) (tradeId : Nat) : Prop :=
  (∃ queued, store.queuedTrades.lookup tradeId = some queued) ∨
    ∃ failed, store.deadLetters.lookup tradeId = some failed

/-- The queue under an index: every queued trade is listed once, no dead letter is queued,
and every number here was given out. -/
structure Lifecycle (store : QueueStore) (index : List Nat) : Prop where
  named : ∀ tradeId queued, store.queuedTrades.lookup tradeId = some queued →
    queued.queuedTradeId = tradeId
  once : index.Nodup
  listed : ∀ tradeId, tradeId ∈ index ↔
    ∃ queued, store.queuedTrades.lookup tradeId = some queued
  letters : store.LettersIndexed
  apart : ∀ tradeId queued, store.queuedTrades.lookup tradeId = some queued →
    store.deadLetters.lookup tradeId = none
  issued : ∀ tradeId, store.Present tradeId → tradeId < store.upcomingId

variable {store : QueueStore} {index : List Nat} {other : QueueStore}

theorem LettersIndexed.carry (indexed : store.LettersIndexed)
    (letters : other.deadLetters = store.deadLetters)
    (byUser : other.deadLetterIds = store.deadLetterIds)
    (all : other.deadLetterAllIds = store.deadLetterAllIds) : other.LettersIndexed := by
  have lists (user : Address) : other.deadLettersOf user = store.deadLettersOf user := by
    rw [deadLettersOf, byUser, deadLettersOf]
  refine ⟨?_, ?_, fun tradeId => ?_, fun user => ?_, fun user tradeId => ?_⟩
  · rw [letters]
    exact indexed.named
  · rw [all]
    exact indexed.allOnce
  · rw [all, letters]
    exact indexed.all tradeId
  · rw [lists]
    exact indexed.userOnce user
  · rw [lists, letters]
    exact indexed.byUser user tradeId

theorem Lifecycle.carry (alive : store.Lifecycle index)
    (queued : other.queuedTrades = store.queuedTrades)
    (letters : other.deadLetters = store.deadLetters)
    (byUser : other.deadLetterIds = store.deadLetterIds)
    (all : other.deadLetterAllIds = store.deadLetterAllIds)
    (upcoming : store.upcomingId ≤ other.upcomingId) : other.Lifecycle index := by
  refine ⟨?_, alive.once, fun tradeId => ?_, alive.letters.carry letters byUser all, ?_,
    fun tradeId present => ?_⟩
  · rw [queued]
    exact alive.named
  · rw [queued]
    exact alive.listed tradeId
  · rw [queued, letters]
    exact alive.apart
  · rw [Present, queued, letters] at present
    exact (alive.issued tradeId present).trans_le upcoming

theorem deadLettersOf_insert (user other : Address) (ids : List Nat) :
    ((store.deadLetterIds.insert user ids).lookup other).getD [] =
      if other = user then ids else store.deadLettersOf other := by
  rw [lookup_insert]
  split <;> rfl

variable {failed : FailedTrade}

theorem LettersIndexed.deadLetterTrade (indexed : store.LettersIndexed)
    (fresh : store.deadLetters.lookup failed.tradeId = none) :
    (store.deadLetterTrade failed).LettersIndexed := by
  have unlisted : failed.tradeId ∉ store.deadLetterAllIds := by
    rw [indexed.all, fresh]
    simp
  have unlistedBy (user : Address) : failed.tradeId ∉ store.deadLettersOf user := by
    rw [indexed.byUser, fresh]
    simp
  refine ⟨fun tradeId other has => ?_, ?_, fun tradeId => ?_, fun user => ?_,
    fun user tradeId => ?_⟩
  · rw [QueueStore.deadLetterTrade, lookup_insert] at has
    split at has
    next same => cases has; exact same.symm
    next => exact indexed.named tradeId other has
  · exact indexed.allOnce.append (nodup_singleton _) (List.disjoint_singleton.mpr unlisted)
  · show tradeId ∈ store.deadLetterAllIds ++ [failed.tradeId] ↔
      ∃ hit, (store.deadLetters.insert failed.tradeId failed).lookup tradeId = some hit
    rw [mem_append, mem_singleton, indexed.all, lookup_insert]
    split
    next same => simp [same]
    next other => simp [other]
  · rw [deadLettersOf, QueueStore.deadLetterTrade, deadLettersOf_insert]
    split
    next =>
      exact (indexed.userOnce _).append (nodup_singleton _)
        (List.disjoint_singleton.mpr (unlistedBy _))
    next => exact indexed.userOnce user
  · rw [deadLettersOf, QueueStore.deadLetterTrade, deadLettersOf_insert, lookup_insert]
    by_cases own : user = failed.trade.user <;> by_cases same : tradeId = failed.tradeId
    · simp [own, same]
    · simp [own, same, indexed.byUser]
    · simp [Ne.symm own, own, same, unlistedBy]
    · simp [own, same, indexed.byUser]

theorem LettersIndexed.removeDeadLetter (indexed : store.LettersIndexed) {removed : Nat}
    (hit : store.deadLetters.lookup removed = some failed) :
    (store.removeDeadLetter failed removed).LettersIndexed := by
  refine ⟨fun tradeId other has => ?_, indexed.allOnce.erase _, fun tradeId => ?_,
    fun user => ?_, fun user tradeId => ?_⟩
  · rw [QueueStore.removeDeadLetter, lookup_erase] at has
    split at has
    next => cases has
    next => exact indexed.named tradeId other has
  · rw [QueueStore.removeDeadLetter, lookup_erase, indexed.allOnce.mem_erase_iff,
      indexed.all]
    split
    next same => simp [same]
    next other => simp [other]
  · rw [deadLettersOf, QueueStore.removeDeadLetter, deadLettersOf_insert]
    split
    next => exact (indexed.userOnce _).erase _
    next => exact indexed.userOnce user
  · rw [deadLettersOf, QueueStore.removeDeadLetter, deadLettersOf_insert, lookup_erase]
    by_cases own : user = failed.trade.user <;> by_cases same : tradeId = removed
    · simp [own, same, (indexed.userOnce _).mem_erase_iff]
    · simp [own, same, (indexed.userOnce _).mem_erase_iff, indexed.byUser]
    · simp [own, same, indexed.byUser, hit, Ne.symm own]
    · simp [own, same, indexed.byUser]

structure Belongs (tradeId : Nat) (outcome : Option QueuedTrade × Option FailedTrade) : Prop where
  queued : ∀ queued ∈ outcome.1, queued.queuedTradeId = tradeId ∧ outcome.2 = none
  failed : ∀ failed ∈ outcome.2, failed.tradeId = tradeId

variable (tradeId : Nat)

theorem file_queued (other : Nat) (outcome : Option QueuedTrade × Option FailedTrade) :
    (store.file tradeId outcome).queuedTrades.lookup other =
      if other = tradeId then outcome.1 else store.queuedTrades.lookup other := by
  obtain ⟨_ | queued, _ | failed⟩ := outcome
  · exact lookup_erase _ _ _
  · exact lookup_erase _ _ _
  · exact lookup_insert _ _ _ _
  · exact lookup_insert _ _ _ _

variable {outcome : Option QueuedTrade × Option FailedTrade}

theorem file_letters {tradeId : Nat} (belongs : Belongs tradeId outcome)
    (fresh : store.deadLetters.lookup tradeId = none) (other : Nat) :
    (store.file tradeId outcome).deadLetters.lookup other =
      if other = tradeId then outcome.2 else store.deadLetters.lookup other := by
  obtain ⟨_ | queued, _ | failed⟩ := outcome
  · show store.deadLetters.lookup other = _
    split
    next same => rw [same, fresh]
    next => rfl
  · have own := belongs.failed failed rfl
    show (store.deadLetters.insert failed.tradeId failed).lookup other = _
    rw [own, lookup_insert]
  · show store.deadLetters.lookup other = _
    split
    next same => rw [same, fresh]
    next => rfl
  · cases (belongs.queued queued rfl).2

@[simp] theorem file_upcomingId (outcome : Option QueuedTrade × Option FailedTrade) :
    (store.file tradeId outcome).upcomingId = store.upcomingId := by
  obtain ⟨_ | queued, _ | failed⟩ := outcome <;> rfl

@[simp] theorem file_market (outcome : Option QueuedTrade × Option FailedTrade) :
    (store.file tradeId outcome).market = store.market := by
  obtain ⟨_ | queued, _ | failed⟩ := outcome <;> rfl

theorem Lifecycle.file {remaining rest : List Nat} {tradeId : Nat}
    (alive : store.Lifecycle (remaining ++ tradeId :: rest)) (belongs : Belongs tradeId outcome) :
    (store.file tradeId outcome).Lifecycle
      ((if outcome.1.isSome = true then remaining ++ [tradeId] else remaining) ++ rest) := by
  obtain ⟨queued, hit⟩ := (alive.listed tradeId).mp (by simp)
  have fresh := alive.apart tradeId queued hit
  have letters := file_letters belongs fresh
  have middle := List.nodup_middle.mp alive.once
  have unlisted : tradeId ∉ remaining ++ rest := (List.nodup_cons.mp middle).1
  refine ⟨fun other has here => ?_, ?_, fun other => ?_, ?_, fun other has here => ?_,
    fun other here => ?_⟩
  · rw [file_queued] at here
    split at here
    next same => rw [same, (belongs.queued has here).1]
    next => exact alive.named other has here
  · split
    next => rw [append_assoc]; exact alive.once
    next => exact (List.nodup_cons.mp middle).2
  · rw [file_queued]
    have without : other ∈ remaining ++ rest ∨ other = tradeId ↔
        ∃ has, store.queuedTrades.lookup other = some has := by
      rw [← alive.listed]
      simp only [mem_append, mem_cons]
      tauto
    by_cases same : other = tradeId
    · subst same
      rw [if_pos rfl]
      cases kept : outcome.1 with
      | none => simpa using unlisted
      | some updated => simp
    · rw [if_neg same, ← without]
      split <;> simp [same]
  · obtain ⟨_ | updated, _ | failed⟩ := outcome
    · exact alive.letters.carry rfl rfl rfl
    · have own := belongs.failed failed rfl
      have unlettered : store.deadLetters.lookup failed.tradeId = none := own.symm ▸ fresh
      exact (alive.letters.deadLetterTrade unlettered).carry rfl rfl rfl
    · exact alive.letters.carry rfl rfl rfl
    · cases (belongs.queued updated rfl).2
  · rw [file_queued] at here
    rw [letters]
    split at here
    next same => rw [if_pos same, (belongs.queued has here).2]
    next different => rw [if_neg different, alive.apart other has here]
  · rw [file_upcomingId]
    by_cases same : other = tradeId
    · exact same ▸ alive.issued tradeId (.inl ⟨queued, hit⟩)
    · rw [Present, file_queued, letters, if_neg same, if_neg same] at here
      exact alive.issued other here

theorem Lifecycle.stores (alive : store.Lifecycle store.queuedTradeIds) {queued : QueuedTrade}
    (absent : ¬ store.Present queued.queuedTradeId)
    (issued : queued.queuedTradeId < store.upcomingId) : (store.storeQueuedTrade queued).Lifecycle
      (store.storeQueuedTrade queued).queuedTradeIds := by
  have unlisted : queued.queuedTradeId ∉ store.queuedTradeIds := fun listed =>
    absent (.inl ((alive.listed _).mp listed))
  refine ⟨fun tradeId other has => ?_, ?_, fun tradeId => ?_, ?_, fun tradeId other has => ?_,
    fun tradeId present => ?_⟩
  · rw [storeQueuedTrade, lookup_insert] at has
    split at has
    next same => cases has; exact same.symm
    next => exact alive.named tradeId other has
  · exact alive.once.append (nodup_singleton _) (List.disjoint_singleton.mpr unlisted)
  · rw [storeQueuedTrade, lookup_insert, mem_append, mem_singleton, alive.listed]
    split
    next same => simp [same]
    next other => simp [other]
  · exact alive.letters.carry rfl rfl rfl
  · rw [storeQueuedTrade, lookup_insert] at has
    split at has
    next same =>
      show store.deadLetters.lookup tradeId = none
      cases hit : store.deadLetters.lookup tradeId with
      | none => rfl
      | some failed => exact absurd (.inr ⟨failed, same ▸ hit⟩) absent
    next => exact alive.apart tradeId other has
  · show tradeId < store.upcomingId
    by_cases same : tradeId = queued.queuedTradeId
    · exact same ▸ issued
    · refine alive.issued tradeId (present.imp_left fun hit => ?_)
      rwa [storeQueuedTrade, lookup_insert, if_neg same] at hit

theorem Lifecycle.cancel (alive : store.Lifecycle store.queuedTradeIds) (cancelled : Nat) :
    ({ store with
      queuedTrades := store.queuedTrades.erase cancelled
      queuedTradeIds := store.queuedTradeIds.erase cancelled } : QueueStore).Lifecycle
        (store.queuedTradeIds.erase cancelled) := by
  have shrinks {tradeId : Nat} {queued : QueuedTrade}
      (has : (store.queuedTrades.erase cancelled).lookup tradeId = some queued) :
      store.queuedTrades.lookup tradeId = some queued := by
    rw [lookup_erase] at has
    split at has
    next => cases has
    next => exact has
  refine ⟨fun tradeId queued has => alive.named tradeId queued (shrinks has),
    alive.once.erase _, fun tradeId => ?_, ?_,
    fun tradeId queued has => alive.apart tradeId queued (shrinks has),
    fun tradeId present => ?_⟩
  · rw [alive.once.mem_erase_iff, alive.listed, lookup_erase]
    split
    next same => simp [same]
    next other => simp [other]
  · exact alive.letters.carry rfl rfl rfl
  · refine alive.issued tradeId (present.imp_left fun ⟨queued, has⟩ => ⟨queued, shrinks has⟩)

theorem Lifecycle.removeDeadLetter (alive : store.Lifecycle index) {removed : Nat}
    (hit : store.deadLetters.lookup removed = some failed) :
    (store.removeDeadLetter failed removed).Lifecycle index := by
  have shrinks {tradeId : Nat} {other : FailedTrade}
      (has : (store.deadLetters.erase removed).lookup tradeId = some other) :
      store.deadLetters.lookup tradeId = some other := by
    rw [lookup_erase] at has
    split at has
    next => cases has
    next => exact has
  refine ⟨alive.named, alive.once, alive.listed, alive.letters.removeDeadLetter hit,
    fun tradeId queued has => ?_, fun tradeId present => ?_⟩
  · rw [QueueStore.removeDeadLetter, lookup_erase, alive.apart tradeId queued has,
      ite_self]
  · exact alive.issued tradeId (present.imp_right fun ⟨other, has⟩ => ⟨other, shrinks has⟩)

end QueueStore

def dueTrades (config : TradeConfig) (env : Env) (queue : Table Nat QueuedTrade)
    (ids : List Nat) : List QueuedTrade :=
  (ids.filterMap queue.lookup).filter fun queued =>
    config.GracePeriodElapsed env queued.queuedAtLedger

def queueAttempts (env : Env) (outside : Outside) (queue : Table Nat QueuedTrade) (ids : List Nat)
    (market : MarketStore) : List (Attempt MarketStore ContractError Unit QueuedTrade) :=
  attempts (fun queued => queued.execute env outside) (dueTrades market.config env queue ids) market

theorem QueuedTrade.outcome_belongs {queued : QueuedTrade} {tradeId : Nat}
    (named : queued.queuedTradeId = tradeId) (env : Env) (maxRetries : Nat)
    (result : Except ContractError Unit) :
    QueueStore.Belongs tradeId (queued.outcome env maxRetries result) := by
  rw [QueuedTrade.outcome.eq_def]
  split
  next => exact ⟨fun _ kept => (by cases kept), fun _ failed => by cases failed⟩
  next =>
    dsimp only
    split
    next =>
      refine ⟨fun _ kept => (by cases kept), fun _ failed => ?_⟩
      cases failed
      exact named
    next =>
      refine ⟨fun _ kept => ?_, fun _ failed => by cases failed⟩
      cases kept
      exact ⟨named, rfl⟩

theorem QueuedTrade.execute_config (queued : QueuedTrade) (env : Env) (outside : Outside)
    (pre : MarketStore) : wp (queued.execute env outside) (fun _ after => after.config = pre.config)
      (fun reason after => reason.holds (fun _ => after.config = pre.config) True) pre := by
  refine wp_mono (executeMarketCopyTrade_effect false) (fun _ _ effect => effect.config) ?_
  rintro (reason | _) after effect
  · exact TradeEffect.config effect
  · trivial

/-- What an execution leaves of each number: the outcome of its attempt, or what was there. -/
structure Executed (env : Env) (maxRetries : Nat)
    (tried : List (Attempt MarketStore ContractError Unit QueuedTrade))
    (pre after : QueueStore) : Prop where
  filed : ∀ entry ∈ tried, after.queuedTrades.lookup entry.item.queuedTradeId =
        (entry.item.outcome env maxRetries entry.result).1 ∧
      after.deadLetters.lookup entry.item.queuedTradeId =
        (entry.item.outcome env maxRetries entry.result).2
  idle : ∀ tradeId, (∀ entry ∈ tried, entry.item.queuedTradeId ≠ tradeId) →
    after.queuedTrades.lookup tradeId = pre.queuedTrades.lookup tradeId ∧
      after.deadLetters.lookup tradeId = pre.deadLetters.lookup tradeId
  upcoming : after.upcomingId = pre.upcomingId
  config : after.market.config = pre.market.config
  market : after.market = (tried.map Attempt.after).getLastD pre.market

section Execution

variable {env : Env} {outside : Outside} {queue : Table Nat QueuedTrade} {config : TradeConfig}
  {queued : QueuedTrade}

theorem dueTrades_cons {tradeId : Nat} (hit : queue.lookup tradeId = some queued)
    (rest : List Nat) : dueTrades config env queue (tradeId :: rest) =
      if config.GracePeriodElapsed env queued.queuedAtLedger then
        queued :: dueTrades config env queue rest else dueTrades config env queue rest := by
  simp only [dueTrades, filterMap_cons, hit, filter_cons, decide_eq_true_eq]

theorem mem_dueTrades {ids : List Nat} : queued ∈ dueTrades config env queue ids ↔
      (∃ tradeId ∈ ids, queue.lookup tradeId = some queued) ∧
        config.GracePeriodElapsed env queued.queuedAtLedger := by
  simp [dueTrades]

/-- Every attempt is about a queued trade whose grace period has passed. -/
theorem mem_queueAttempts {ids : List Nat} {market : MarketStore}
    {entry : Attempt MarketStore ContractError Unit QueuedTrade}
    (mem : entry ∈ queueAttempts env outside queue ids market) :
    (∃ tradeId ∈ ids, queue.lookup tradeId = some entry.item) ∧
      market.config.GracePeriodElapsed env entry.item.queuedAtLedger :=
  mem_dueTrades.mp (attempts_item _ _ _ _ mem)

/-- The loop over the queue. The induction is on the numbers still to do, whose records are
those at the start. -/
theorem executeQueue_spec (ids remaining : List Nat) (executed : Nat) (pre : QueueStore)
    (alive : pre.Lifecycle (remaining ++ ids))
    (untouched : ∀ tradeId ∈ ids, pre.queuedTrades.lookup tradeId = queue.lookup tradeId) :
    wp (executeQueue env outside ids remaining executed)
      (fun swept after => after.Lifecycle swept.1 ∧
        Executed env pre.market.config.effectiveMaxRetryCount
          (queueAttempts env outside queue ids pre.market) pre after) (fun _ _ => True) pre := by
  induction ids generalizing remaining executed pre with
  | nil =>
    rw [append_nil] at alive
    exact ⟨alive, ⟨fun _ tried => (by cases tried), fun _ _ => ⟨rfl, rfl⟩, rfl, rfl, rfl⟩⟩
  | cons tradeId rest ih =>
    obtain ⟨queued, here⟩ := (alive.listed tradeId).mp (by simp)
    have hit : queue.lookup tradeId = some queued :=
      (untouched tradeId mem_cons_self).symm.trans here
    have named := alive.named tradeId queued here
    have unlisted : tradeId ∉ rest := by
      have split := (List.nodup_append.mp alive.once).2.1
      exact (List.nodup_cons.mp split).1
    rw [executeQueue, wp_bind, wp_get]
    simp only [here]
    rw [wp_ite]
    refine ⟨fun elapsed => ?_, fun early => ?_⟩
    · have due : dueTrades pre.market.config env queue (tradeId :: rest) =
          queued :: dueTrades pre.market.config env queue rest := by
        rw [dueTrades_cons hit, if_pos elapsed]
      -- what follows an attempt, whatever it reported
      have onward {result : Except ContractError Unit} {middle : MarketStore}
          (config : middle.config = pre.market.config)
          (tried : queueAttempts env outside queue (tradeId :: rest) pre.market =
            ⟨queued, pre.market, result, middle⟩ ::
              queueAttempts env outside queue rest middle) :
          wp (executeQueue env outside rest
            (if (queued.outcome env middle.config.effectiveMaxRetryCount result).1.isSome = true then
              remaining ++ [tradeId] else remaining)
            (if result.isOk = true then satCount u32Max executed 1 else executed))
            (fun swept after => after.Lifecycle swept.1 ∧
              Executed env pre.market.config.effectiveMaxRetryCount
                (queueAttempts env outside queue (tradeId :: rest) pre.market) pre after)
            (fun _ _ => True)
            (QueueStore.file { pre with market := middle } tradeId
              (queued.outcome env middle.config.effectiveMaxRetryCount result)) := by
        rw [config]
        set outcome := queued.outcome env pre.market.config.effectiveMaxRetryCount result
        have belongs : QueueStore.Belongs tradeId outcome :=
          QueuedTrade.outcome_belongs named env _ result
        have alive' : ({ pre with market := middle } : QueueStore).Lifecycle
            (remaining ++ tradeId :: rest) :=
          alive.carry rfl rfl rfl rfl le_rfl
        have fresh := alive'.apart tradeId queued here
        have letters := QueueStore.file_letters belongs fresh
        refine wp_then (ih _ _ _ (alive'.file belongs) fun other inside => ?_) ?_
        · rw [QueueStore.file_queued, if_neg (ne_of_mem_of_not_mem inside unlisted)]
          exact untouched other (mem_cons_of_mem _ inside)
        rintro swept after ⟨later, executed⟩
        rw [QueueStore.file_market] at executed
        have limit : ({ pre with market := middle } : QueueStore).market.config =
          pre.market.config := config
        rw [limit] at executed
        have apart (entry : Attempt MarketStore ContractError Unit QueuedTrade)
            (mem : entry ∈ queueAttempts env outside queue rest middle) :
            entry.item.queuedTradeId ≠ tradeId := by
          obtain ⟨⟨other, inside, has⟩, _⟩ := mem_queueAttempts mem
          rw [← untouched other (mem_cons_of_mem _ inside)] at has
          rw [alive.named other _ has]
          exact ne_of_mem_of_not_mem inside unlisted
        refine ⟨later, ⟨?_, fun other quiet => ?_, ?_, ?_, ?_⟩⟩
        · rw [tried]
          intro entry mem
          rcases List.mem_cons.mp mem with rfl | inside
          · have still := executed.idle tradeId fun other inside => apart other inside
            rw [QueueStore.file_queued, letters, if_pos rfl, if_pos rfl] at still
            exact named.symm ▸ still
          · exact executed.filed entry inside
        · rw [tried] at quiet
          have different : other ≠ tradeId := fun same =>
            quiet _ mem_cons_self (named.trans same.symm)
          have still := executed.idle other fun entry inside =>
            quiet entry (mem_cons_of_mem _ inside)
          rwa [QueueStore.file_queued, letters, if_neg different, if_neg different] at still
        · rw [executed.upcoming, QueueStore.file_upcomingId]
          rfl
        · rw [executed.config, QueueStore.file_market]
          exact config
        · rw [executed.market, QueueStore.file_market, tried, map_cons, getLastD_cons]
      have configured := queued.execute_config env outside pre.market
      simp only [attemptOnMarket, wp_rules, wp_attempt, wp_zoom, id]
      refine (wp_iff _).mpr ⟨fun _ middle ran => ?_, ?_⟩
      · have config := wp_ok configured ran
        refine onward config ?_
        rw [queueAttempts, due, attempts]
        simp only [ran, queueAttempts, config]
      · rintro (reason | _) middle ran
        · have config : middle.config = pre.market.config := wp_error configured ran
          refine onward config ?_
          rw [queueAttempts, due, attempts]
          simp only [ran, queueAttempts, config]
        · trivial
    · have tried : queueAttempts env outside queue (tradeId :: rest) pre.market =
          queueAttempts env outside queue rest pre.market := by
        rw [queueAttempts, dueTrades_cons hit, if_neg early, queueAttempts]
      rw [tried]
      refine ih _ _ pre (by rwa [append_assoc]) fun other inside =>
        untouched other (mem_cons_of_mem _ inside)

end Execution

end StellarSwipe.TradeExecutor
