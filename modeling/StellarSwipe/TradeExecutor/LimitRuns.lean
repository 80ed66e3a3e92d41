import StellarSwipe.Library.Runs
import StellarSwipe.TradeExecutor.Limits
import StellarSwipe.TradeExecutor.MarketEffects

/-!
# Runs of limit orders

A sweep that returns has executed every order that was due and removed the expired ones.
-/

namespace StellarSwipe.TradeExecutor

open FixedWidth Program Runs Table LimitStore List

/-- Trades that succeed one after another, and the market they lead to. -/
def TradesInTurn (env : Env) (outside : Outside) :
    List PendingLimitOrder → MarketStore → MarketStore → Prop
  | [], pre, after => after = pre
  | order :: rest, pre, after => ∃ middle,
    order.execute env outside pre = .ok () middle ∧ TradesInTurn env outside rest middle after

/-- Each trade succeeds in its turn. -/
def AllSucceed (env : Env) (outside : Outside) : List PendingLimitOrder → MarketStore → Prop
  | [], _ => True
  | order :: rest, market => Accepts (order.execute env outside) market ∧
    AllSucceed env outside rest (invoke (order.execute env outside) market)

instance decidableAllSucceed (env : Env) (outside : Outside) :
    (orders : List PendingLimitOrder) → (market : MarketStore) →
      Decidable (AllSucceed env outside orders market)
  | [], _ => instDecidableTrue
  | order :: rest, market =>
    have := decidableAllSucceed env outside rest (invoke (order.execute env outside) market)
    inferInstanceAs (Decidable (_ ∧ _))

section Orders

variable (env : Env) (token : Address) (currentPrice : Int) (orders : Table Nat PendingLimitOrder)

def dueOrders (ids : List Nat) : List PendingLimitOrder :=
  (ids.filterMap orders.lookup).filter fun order =>
    order.disposition env token currentPrice = .executes

/-- A sweep leaves the order waiting. -/
def Stays (orderId : Nat) : Prop :=
  ∀ order ∈ orders.lookup orderId, order.disposition env token currentPrice = .stays
deriving Decidable

variable {env token currentPrice orders} {order : PendingLimitOrder}

theorem dueOrders_cons {orderId : Nat} (hit : orders.lookup orderId = some order)
    (rest : List Nat) : dueOrders env token currentPrice orders (orderId :: rest) =
      if order.disposition env token currentPrice = .executes then
        order :: dueOrders env token currentPrice orders rest
      else dueOrders env token currentPrice orders rest := by
  simp only [dueOrders, filterMap_cons, hit, filter_cons, decide_eq_true_eq]

theorem stays_iff {orderId : Nat} (hit : orders.lookup orderId = some order) :
    Stays env token currentPrice orders orderId ↔
      order.disposition env token currentPrice = .stays := by
  rw [Stays, hit]
  simp

end Orders

section Sweep

variable {env : Env} {outside : Outside} {token : Address} {currentPrice : Int}
  {orders : Table Nat PendingLimitOrder}

/-- The sweep's loop. The induction is on the numbers still to do, whose records are those
at the start. -/
theorem sweepOrders_spec (ids nextIds : List Nat) (processed : Nat) (pre : LimitStore)
    (once : ids.Nodup) (recorded : ∀ orderId ∈ ids, ∃ order, orders.lookup orderId = some order)
    (untouched : ∀ orderId ∈ ids, pre.pendingLimitOrders.lookup orderId = orders.lookup orderId) :
    wp (sweepOrders env outside token currentPrice ids nextIds processed)
      (fun swept after => ∃ market left,
        after = { pre with
          market
          pendingLimitOrders := left } ∧
        swept.1 = nextIds ++ ids.filter (Stays env token currentPrice orders ·) ∧
        TradesInTurn env outside (dueOrders env token currentPrice orders ids) pre.market
          market ∧
        ∀ orderId, left.lookup orderId =
          if orderId ∈ ids ∧ ¬ Stays env token currentPrice orders orderId then none
          else pre.pendingLimitOrders.lookup orderId)
      (fun _ _ => ¬ AllSucceed env outside (dueOrders env token currentPrice orders ids)
        pre.market) pre := by
  induction ids generalizing nextIds processed pre with
  | nil =>
    exact ⟨pre.market, pre.pendingLimitOrders, rfl, (append_nil _).symm, rfl,
      fun orderId => by simp⟩
  | cons orderId rest ih =>
    obtain ⟨order, hit⟩ := recorded orderId mem_cons_self
    have here : pre.pendingLimitOrders.lookup orderId = some order :=
      (untouched orderId mem_cons_self).trans hit
    have fresh : orderId ∉ rest := (List.nodup_cons.mp once).1
    have later := fun other inside => recorded other (mem_cons_of_mem _ inside)
    have same := fun other inside => untouched other (mem_cons_of_mem _ inside)
    have erased (other : Nat) (inside : other ∈ rest) :
        (pre.pendingLimitOrders.erase orderId).lookup other = orders.lookup other := by
      rw [AList.lookup_erase_ne (ne_of_mem_of_not_mem inside fresh), same other inside]
    have records {left : Table Nat PendingLimitOrder}
        (leaves : ¬ Stays env token currentPrice orders orderId)
        (records : ∀ other, left.lookup other =
          if other ∈ rest ∧ ¬ Stays env token currentPrice orders other then none
          else (pre.pendingLimitOrders.erase orderId).lookup other) (other : Nat) :
        left.lookup other =
          if other ∈ orderId :: rest ∧ ¬ Stays env token currentPrice orders other then none
          else pre.pendingLimitOrders.lookup other := by
      rw [records, lookup_erase]
      by_cases own : other = orderId
      · subst own
        rw [if_pos rfl, ite_self, if_pos ⟨mem_cons_self, leaves⟩]
      · simp only [mem_cons, own, false_or, if_false]
    rw [sweepOrders, wp_bind, wp_get]
    simp only [here]
    rw [dueOrders_cons hit]
    cases decides : order.disposition env token currentPrice with
    | stays =>
      have stays := (stays_iff hit).mpr decides
      refine wp_mono (ih _ _ pre (List.nodup_cons.mp once).2 later same) ?_
        fun _ _ stopped => stopped
      rintro ⟨nextIds', processed'⟩ _ ⟨market, left, rfl, kept, traded, records⟩
      refine ⟨market, left, rfl, ?_, traded, fun other => ?_⟩
      · refine kept.trans ?_
        simp only [filter_cons, stays, decide_true, if_true, append_assoc, singleton_append]
      · rw [records]
        refine if_congr ⟨fun gone => ⟨mem_cons_of_mem _ gone.1, gone.2⟩, fun gone => ?_⟩ rfl rfl
        rcases List.mem_cons.mp gone.1 with rfl | inside
        · exact absurd stays gone.2
        · exact ⟨inside, gone.2⟩
    | expires =>
      have leaves : ¬ Stays env token currentPrice orders orderId := fun stays => by
        rw [stays_iff hit, decides] at stays
        cases stays
      simp only [removeOrder, wp_rules]
      refine wp_mono (ih _ _ _ (List.nodup_cons.mp once).2 later erased) ?_
        fun _ _ stopped => stopped
      rintro ⟨nextIds', processed'⟩ _ ⟨market, left, rfl, kept, traded, remain⟩
      refine ⟨market, left, rfl, ?_, traded, records leaves remain⟩
      refine kept.trans ?_
      simp only [filter_cons, leaves, decide_false, Bool.false_eq_true, if_false]
    | executes =>
      have leaves : ¬ Stays env token currentPrice orders orderId := fun stays => by
        rw [stays_iff hit, decides] at stays
        cases stays
      simp only [onMarket, removeOrder, wp_rules, wp_zoom, if_true]
      refine (wp_iff _).mpr ⟨fun _ middle traded => ?_, fun reason _ stopped => ?_⟩
      · refine wp_mono (ih _ _ _ (List.nodup_cons.mp once).2 later erased) ?_ ?_
        · rintro ⟨nextIds', processed'⟩ _ ⟨market, left, rfl, kept, onward, remain⟩
          refine ⟨market, left, rfl, ?_, ⟨middle, traded, onward⟩, records leaves remain⟩
          refine kept.trans ?_
          simp only [filter_cons, leaves, decide_false, Bool.false_eq_true, if_false]
        · intro _ _ stopped every
          rw [AllSucceed, invoke_of_ok traded] at every
          exact stopped every.2
      · have refuses : ¬ AllSucceed env outside (order :: dueOrders env token currentPrice orders rest)
            pre.market := by
          rintro ⟨⟨_, _, gave⟩, _⟩
          cases gave.symm.trans stopped
        cases reason with
        | error => exact refuses
        | trap => exact refuses

end Sweep

def LimitStore.upcomingId (store : LimitStore) : Nat := store.nextLimitOrderId.getD 1

/-- Every waiting order is listed once, under a number that was given out. -/
structure LimitStore.Indexed (store : LimitStore) : Prop where
  once : store.pendingLimitOrderIds.Nodup
  listed : ∀ orderId, orderId ∈ store.pendingLimitOrderIds ↔
    ∃ order, store.pendingLimitOrders.lookup orderId = some order
  issued : ∀ orderId ∈ store.pendingLimitOrderIds, orderId < store.upcomingId

/-- A trade leaves the orders alone or adds one with the next number. -/
inductive Placed (pre after : LimitStore) : Prop where
  | nothing (records : after.pendingLimitOrders = pre.pendingLimitOrders)
      (index : after.pendingLimitOrderIds = pre.pendingLimitOrderIds)
      (counter : after.nextLimitOrderId = pre.nextLimitOrderId)
  | order (placed : PendingLimitOrder)
      (records : after.pendingLimitOrders =
        pre.pendingLimitOrders.insert pre.upcomingId placed)
      (index : after.pendingLimitOrderIds = pre.pendingLimitOrderIds ++ [pre.upcomingId])
      (counter : after.upcomingId = pre.upcomingId + 1)

section Placing

variable {pre after : LimitStore}

theorem Placed.indexed (placed : Placed pre after) (indexed : pre.Indexed) : after.Indexed := by
  cases placed with
  | nothing records index counter =>
    refine ⟨index ▸ indexed.once, fun orderId => ?_, fun orderId listed => ?_⟩
    · rw [index, records]
      exact indexed.listed orderId
    · rw [upcomingId, counter]
      exact indexed.issued orderId (index ▸ listed)
  | order placed records index counter =>
    have fresh : pre.upcomingId ∉ pre.pendingLimitOrderIds := fun listed =>
      absurd (indexed.issued _ listed) (lt_irrefl _)
    refine ⟨?_, fun orderId => ?_, fun orderId listed => ?_⟩
    · rw [index]
      exact indexed.once.append (nodup_singleton _) (List.disjoint_singleton.mpr fresh)
    · rw [index, records, mem_append, mem_singleton, indexed.listed, lookup_insert]
      split
      next same => exact ⟨fun _ => ⟨placed, rfl⟩, fun _ => .inr same⟩
      next other => simp [other]
    · rw [index] at listed
      rw [counter]
      rcases List.mem_append.mp listed with prior | last
      · exact (indexed.issued orderId prior).trans (Nat.lt_succ_self _)
      · exact (List.mem_singleton.mp last) ▸ Nat.lt_succ_self _

theorem Placed.removed (placed : Placed pre after) {orderId : Nat}
    (issued : orderId < pre.upcomingId) (removed : pre.pendingLimitOrders.lookup orderId = none) :
    orderId < after.upcomingId ∧ after.pendingLimitOrders.lookup orderId = none := by
  cases placed with
  | nothing records index counter =>
    exact ⟨by rwa [upcomingId, counter], by rw [records, removed]⟩
  | order placed records index counter =>
    refine ⟨counter ▸ issued.trans (Nat.lt_succ_self _), ?_⟩
    rw [records, AList.lookup_insert_ne issued.ne, removed]

theorem placeLimitOrder_spec (env : Env) (outside : Outside) (trade : Trade)
    (limitPrice : Option Int) (pre : LimitStore) :
    wlp (placeLimitOrder env outside trade limitPrice) (fun _ after => Placed pre after) pre := by
  simp only [placeLimitOrder, wp_rules, wp_auth]
  refine ⟨fun _ => ⟨fun _ => ⟨fun price _ => ⟨fun _ => ⟨fun _ => ?_, fun _ => trivial⟩,
    fun _ => trivial⟩, fun _ => trivial⟩, fun _ => trivial⟩, fun _ => trivial⟩
  rw [onMarket, wp_zoom]
  refine (wp_iff _).mpr ⟨fun _ market _ => ?_, fun reason _ _ => by cases reason <;> trivial⟩
  simp only [nextLimitOrderId, storePendingOrder, wp_rules]
  refine ⟨fun next counts => ?_, fun _ => trivial⟩
  obtain ⟨_, rfl⟩ := (checkedCount_eq_some _ _ _ _).mp counts
  exact .order _ rfl rfl rfl

theorem executeCopyTrade_spec (env : Env) (outside : Outside) (request : CopyTrade)
    (pre : LimitStore) :
    wlp (executeCopyTrade env outside request) (fun _ after => Placed pre after) pre := by
  simp only [executeCopyTrade, onReplay, wp_rules, wp_zoom]
  refine ⟨fun _ => ?_, fun _ => trivial⟩
  refine (wp_iff _).mpr ⟨fun _ replay _ => ?_, fun reason _ _ => by cases reason <;> trivial⟩
  refine ⟨fun _ => ?_, fun _ => trivial⟩
  cases request.orderType with
  | market =>
    simp only [onMarket, wp_zoom]
    exact (wp_iff _).mpr ⟨fun _ market _ => .nothing rfl rfl rfl,
      fun reason _ _ => by cases reason <;> trivial⟩
  | limit =>
    refine wp_then (placeLimitOrder_spec env outside _ _ _) ?_
    intro _ after placed
    cases placed with
    | nothing records index counter => exact .nothing records index counter
    | order placed records index counter => exact .order placed records index counter

end Placing

abbrev LimitTransition := Transition (Ledger LimitStore) LimitInput

namespace LimitTransition

variable (taken : LimitTransition)

def env : Env := taken.pre.env taken.input.arrival

def orders : Table Nat PendingLimitOrder := taken.pre.store.pendingLimitOrders

def swept : Option (Address × Int) :=
  match taken.input.call with
  | .sweep token => (taken.pre.store.market.config.sdexPrice.lookup token).map (token, ·)
  | _ => none

def Returned : Prop :=
  Accepts (taken.input.call.exec taken.env taken.input.outside) taken.pre.store
deriving Decidable

/-- A sweep executes the order under this number. -/
def Fires (orderId : Nat) : Prop :=
  taken.Returned ∧ ∃ sweep ∈ taken.swept, ∃ order ∈ taken.orders.lookup orderId,
    order.disposition taken.env sweep.1 sweep.2 = .executes
deriving Decidable

/-- A sweep with a price executes the orders that are due, in turn, removes them and the
expired ones, and leaves the others waiting. -/
def SweepsAll : Prop :=
  ∀ sweep ∈ taken.swept, taken.Returned ∧
    TradesInTurn taken.env taken.input.outside
      (dueOrders taken.env sweep.1 sweep.2 taken.orders taken.pre.store.pendingLimitOrderIds)
      taken.pre.store.market taken.after.store.market ∧
    ∀ orderId, ∀ order ∈ taken.orders.lookup orderId,
      taken.after.store.pendingLimitOrders.lookup orderId =
        if order.disposition taken.env sweep.1 sweep.2 = .stays then some order else none

/-- A sweep with a price executes every order whose own trade would succeed and removes
every expired one, whatever the others are. -/
def Isolates : Prop :=
  ∀ sweep ∈ taken.swept, ∀ orderId, ∀ order ∈ taken.orders.lookup orderId,
    (order.disposition taken.env sweep.1 sweep.2 = .executes →
      Accepts (order.execute taken.env taken.input.outside) taken.pre.store.market →
      taken.Fires orderId ∧ taken.after.store.pendingLimitOrders.lookup orderId = none) ∧
    (order.disposition taken.env sweep.1 sweep.2 = .expires →
      taken.after.store.pendingLimitOrders.lookup orderId = none)

/-- The trade of every order that is due succeeds in its turn. -/
def Isolated : Prop :=
  ∀ sweep ∈ taken.swept, AllSucceed taken.env taken.input.outside
    (dueOrders taken.env sweep.1 sweep.2 taken.orders taken.pre.store.pendingLimitOrderIds)
    taken.pre.store.market
deriving Decidable

/-- An order is executed at or below its limit and before it expires. -/
def TimelyAt (orderId : Nat) : Prop :=
  taken.Fires orderId → ∃ order ∈ taken.orders.lookup orderId,
    ∃ price ∈ taken.pre.store.market.config.sdexPrice.lookup order.trade.token,
      price ≤ order.limitPrice ∧ taken.env.sequence < order.expiresAtLedger

end LimitTransition

theorem disposition_executes_iff {order : PendingLimitOrder} {env : Env} {token : Address}
    {currentPrice : Int} : order.disposition env token currentPrice = .executes ↔
      order.trade.token = token ∧ env.sequence < order.expiresAtLedger ∧
        currentPrice ≤ order.limitPrice := by
  rw [PendingLimitOrder.disposition]
  split
  next other => simp [other]
  next own =>
    split
    next late => simp [not_lt.mpr late]
    next inTime =>
      rw [not_ne_iff] at own
      split <;> simp_all

theorem LimitTransition.SweepsAll.isolates {taken : LimitTransition} (all : taken.SweepsAll) :
    taken.Isolates := by
  intro sweep sweeps orderId order hit
  obtain ⟨gave, _, records⟩ := all sweep sweeps
  have left := records orderId order hit
  refine ⟨fun executes _ => ⟨⟨gave, sweep, sweeps, order, hit, executes⟩, ?_⟩,
    fun expires => ?_⟩
  · rw [left, executes, if_neg Disposition.noConfusion]
  · rw [left, expires, if_neg Disposition.noConfusion]

theorem LimitTransition.timely (taken : LimitTransition) (orderId : Nat) :
    taken.TimelyAt orderId := by
  rintro ⟨_, ⟨token, price⟩, sweeps, order, hit, executes⟩
  rw [LimitTransition.swept] at sweeps
  split at sweeps
  next called _ =>
    obtain ⟨cached, priced, same⟩ := Option.map_eq_some_iff.mp sweeps
    cases same
    obtain ⟨own, inTime, low⟩ := disposition_executes_iff.mp executes
    exact ⟨order, hit, price, own ▸ priced, low, inTime⟩
  next => cases sweeps

/-- What holds of the orders after a run. -/
structure LimitsKept (past : List LimitTransition) (ledger : Ledger LimitStore) : Prop where
  indexed : ledger.store.Indexed
  once : ∀ orderId, OneShot.Once (fun taken : LimitTransition => taken.Fires orderId)
    (orderId < ledger.store.upcomingId ∧
      ledger.store.pendingLimitOrders.lookup orderId = none) past
  timely : ∀ taken ∈ past, ∀ orderId, taken.TimelyAt orderId
  sweeps : ∀ taken ∈ past, taken.SweepsAll
  isolates : ∀ taken ∈ past, taken.Isolates

section Steps

variable {past : List LimitTransition} {ledger : Ledger LimitStore} {input : LimitInput}
  {after : Ledger LimitStore}

theorem LimitsKept.concat (kept : LimitsKept past ledger) (indexed : after.store.Indexed)
    (removed : ∀ orderId < ledger.store.upcomingId,
      ledger.store.pendingLimitOrders.lookup orderId = none → orderId < after.store.upcomingId ∧
        after.store.pendingLimitOrders.lookup orderId = none)
    (fires : ∀ orderId, LimitTransition.Fires ⟨ledger, input, after⟩ orderId →
      orderId < after.store.upcomingId ∧ after.store.pendingLimitOrders.lookup orderId = none)
    (sweeps : LimitTransition.SweepsAll ⟨ledger, input, after⟩) :
    LimitsKept (past ++ [⟨ledger, input, after⟩]) after := by
  refine ⟨indexed, fun orderId => ?_, ?_, ?_, ?_⟩
  · refine (kept.once orderId).concat ?_ (fires orderId) fun ⟨issued, gone⟩ =>
      removed orderId issued gone
    rintro ⟨_, _, _, order, hit, _⟩ ⟨_, gone⟩
    cases hit.symm.trans gone
  · exact fun taken _ orderId => taken.timely orderId
  · simpa [or_imp, forall_and] using ⟨kept.sweeps, sweeps⟩
  · simpa [or_imp, forall_and] using ⟨kept.isolates, sweeps.isolates⟩

theorem sweep_spec {env : Env} {outside : Outside} {token : Address} {pre : LimitStore}
    (indexed : pre.Indexed) {currentPrice : Int}
    (priced : pre.market.config.sdexPrice.lookup token = some currentPrice) :
    let orders := pre.pendingLimitOrders
    let due := dueOrders env token currentPrice orders pre.pendingLimitOrderIds
    wp (discard (checkPendingLimitOrders env outside token))
      (fun _ after => TradesInTurn env outside due pre.market after.market ∧
        after.pendingLimitOrderIds =
          pre.pendingLimitOrderIds.filter (Stays env token currentPrice orders ·) ∧
        after.nextLimitOrderId = pre.nextLimitOrderId ∧
        ∀ orderId, after.pendingLimitOrders.lookup orderId =
          if orderId ∈ pre.pendingLimitOrderIds ∧ ¬ Stays env token currentPrice orders orderId
          then none else orders.lookup orderId)
      (fun _ _ => ¬ AllSucceed env outside due pre.market) pre := by
  simp only [checkPendingLimitOrders, wp_rules, priced]
  refine ⟨fun hit same => ?_, fun missing => by cases missing⟩
  cases same
  refine wp_mono (sweepOrders_spec _ _ _ pre indexed.once
    (fun orderId listed => (indexed.listed orderId).mp listed) fun _ _ => rfl) ?_
    fun _ _ stopped => stopped
  rintro ⟨nextIds, processed⟩ _ ⟨market, left, rfl, kept, traded, records⟩
  exact ⟨traded, kept, rfl, records⟩

/-- A step that sweeps nothing. -/
theorem LimitsKept.unswept (kept : LimitsKept past ledger)
    (unswept : LimitTransition.swept ⟨ledger, input, after⟩ = none)
    (placed : Placed ledger.store after.store) :
    LimitsKept (past ++ [⟨ledger, input, after⟩]) after := by
  refine kept.concat (placed.indexed kept.indexed) (fun _ => placed.removed) ?_ ?_
  · rintro orderId ⟨_, sweep, sweeps, _⟩
    cases unswept.symm.trans sweeps
  · intro sweep sweeps
    cases unswept.symm.trans sweeps

theorem LimitsKept.swept (kept : LimitsKept past ledger) {token : Address} {currentPrice : Int}
    {due : List PendingLimitOrder}
    (sweeps : LimitTransition.swept ⟨ledger, input, after⟩ = some (token, currentPrice))
    (gave : LimitTransition.Returned ⟨ledger, input, after⟩)
    (decides : dueOrders (ledger.env input.arrival) token currentPrice
      ledger.store.pendingLimitOrders ledger.store.pendingLimitOrderIds = due)
    (traded : TradesInTurn (ledger.env input.arrival) input.outside due ledger.store.market
      after.store.market)
    (index : after.store.pendingLimitOrderIds = ledger.store.pendingLimitOrderIds.filter
      (Stays (ledger.env input.arrival) token currentPrice ledger.store.pendingLimitOrders ·))
    (counter : after.store.nextLimitOrderId = ledger.store.nextLimitOrderId)
    (records : ∀ orderId, after.store.pendingLimitOrders.lookup orderId =
      if orderId ∈ ledger.store.pendingLimitOrderIds ∧ ¬ Stays (ledger.env input.arrival) token
        currentPrice ledger.store.pendingLimitOrders orderId
      then none else ledger.store.pendingLimitOrders.lookup orderId) :
    LimitsKept (past ++ [⟨ledger, input, after⟩]) after := by
  have upcoming : after.store.upcomingId = ledger.store.upcomingId := by
    rw [upcomingId, counter, upcomingId]
  refine kept.concat ⟨?_, fun orderId => ?_, fun orderId listed => ?_⟩ ?_ ?_ ?_
  · rw [index]
    exact kept.indexed.once.filter _
  · rw [index, mem_filter, decide_eq_true_eq, records]
    split
    next gone => simp [gone.2]
    next stays =>
      refine ⟨fun remains => (kept.indexed.listed orderId).mp remains.1, fun hit => ?_⟩
      have listed := (kept.indexed.listed orderId).mpr hit
      exact ⟨listed, not_not.mp fun leaves => stays ⟨listed, leaves⟩⟩
  · rw [index, mem_filter] at listed
    rw [upcoming]
    exact kept.indexed.issued orderId listed.1
  · intro orderId issued gone
    rw [upcoming, records, gone, ite_self]
    exact ⟨issued, rfl⟩
  · rintro orderId ⟨_, sweep, again, order, hit, executes⟩
    cases Option.mem_unique sweeps again
    have listed := (kept.indexed.listed orderId).mpr ⟨order, hit⟩
    refine ⟨upcoming ▸ kept.indexed.issued orderId listed, ?_⟩
    refine (records orderId).trans (if_pos ⟨listed, fun stays => ?_⟩)
    cases ((stays_iff hit).mp stays).symm.trans executes
  · intro sweep again
    cases Option.mem_unique sweeps again
    refine ⟨gave, decides ▸ traded, fun orderId order hit => ?_⟩
    have listed := (kept.indexed.listed orderId).mpr ⟨order, hit⟩
    rw [records]
    by_cases stays : order.disposition (ledger.env input.arrival) token currentPrice = .stays
    · rw [if_neg fun gone => gone.2 ((stays_iff hit).mpr stays)]
      exact hit.trans (if_pos stays).symm
    · rw [if_pos ⟨listed, fun kept => stays ((stays_iff hit).mp kept)⟩]
      exact (if_neg stays).symm

/-- Every step keeps the orders, when each sweep's trades succeed in their turns. -/
theorem LimitsKept.step (kept : LimitsKept past ledger)
    (isolated : LimitTransition.Isolated ⟨ledger, input, limitStep input ledger⟩) :
    LimitsKept (past ++ [⟨ledger, input, limitStep input ledger⟩]) (limitStep input ledger) := by
  have placed (unswept : ∀ token, input.call ≠ .sweep token) :
      Placed ledger.store (limitStep input ledger).store := by
    refine invoke_rule (wp_mono (?_ : wlp _ (fun _ after => Placed ledger.store after)
      _) (fun _ _ placed => placed) fun _ _ _ => .nothing rfl rfl rfl)
    cases call : input.call with
    | sweep token => exact absurd call (unswept token)
    | trade request => exact executeCopyTrade_spec _ _ request _
    | elsewhere market => exact .nothing rfl rfl rfl
  obtain ⟨arrival, outside, call⟩ := input
  cases call with
  | trade request => exact kept.unswept rfl (placed fun _ called => by cases called)
  | elsewhere market => exact kept.unswept rfl (placed fun _ called => by cases called)
  | sweep token =>
    cases priced : ledger.store.market.config.sdexPrice.lookup token with
    | none =>
      refine kept.unswept (by rw [LimitTransition.swept]; simp only [priced, Option.map_none]) ?_
      refine invoke_rule ?_
      simp only [LimitCall.exec, checkPendingLimitOrders, wp_rules, priced]
      exact ⟨fun _ missing => (by cases missing), fun _ => .nothing rfl rfl rfl⟩
    | some currentPrice =>
      have sweeps : LimitTransition.swept
          ⟨ledger, ⟨arrival, outside, .sweep token⟩,
            limitStep ⟨arrival, outside, .sweep token⟩ ledger⟩
            = some (token, currentPrice) := by
        rw [LimitTransition.swept]
        simp only [priced, Option.map_some]
      have spec := @sweep_spec (ledger.env arrival) outside token _ kept.indexed _ priced
      have succeed := isolated _ sweeps
      cases ran : (LimitCall.sweep token).exec (ledger.env arrival) outside ledger.store with
      | error reason after => exact absurd succeed (wp_error spec ran)
      | ok value after =>
        have lands : (limitStep ⟨arrival, outside, .sweep token⟩ ledger).store = after :=
          invoke_of_ok ran
        obtain ⟨traded, index, counter, records⟩ := wp_ok spec ran
        rw [← lands] at traded index counter records
        exact kept.swept sweeps ⟨value, after, ran⟩ rfl traded index counter records

end Steps

/-- In every run, an order is executed at most once, at or below its limit and before it
expires; and a sweep executes what is due and removes what has expired, when the trade of
every due order succeeds in its turn. -/
theorem limits_kept (timestamp sequence : Nat) (inputs : List LimitInput)
    (isolated : ∀ taken ∈ trace limitStep (limitStart timestamp sequence) inputs,
      LimitTransition.Isolated taken) :
    LimitsKept (trace limitStep (limitStart timestamp sequence) inputs)
      (final limitStep (limitStart timestamp sequence) inputs) := by
  refine transition_history_invariant limitStep LimitsKept LimitTransition.Isolated
    (fun past ledger input guard kept => kept.step guard) (limitStart timestamp sequence) ?_
    inputs isolated
  exact ⟨⟨nodup_nil, fun _ => by simp [limitStart], by simp [limitStart]⟩, fun _ => .nil,
    by simp, by simp, by simp⟩

/-- A user places a limit order of 2000 at a price of 5. -/
def placeAt (user : Address) (nonce : Nat) (outside : Outside) : LimitInput :=
  ⟨⟨1, 1, [user]⟩, outside,
    .trade ⟨⟨user, 2, 2000, none⟩, .limit, some 5, nonce, [user.toUInt8, nonce.toUInt8], 1000⟩⟩

/-- A portfolio and a price of 4 are set, and users 1 and 3 hold some of every token. -/
def pricedMarket : LimitInput :=
  let config : TradeConfig :=
    { TradeConfig.blank with
      userPortfolio := some 9
      sdexPrice := AList.singleton 2 4 }
  ⟨⟨1, 1, []⟩, ⟨fun _ _ => none, fun _ _ _ => false, fun _ => ⟨0, 0⟩, .ok 0⟩,
    .elsewhere { MarketStore.blank with config }⟩

def wealthy : Outside := ⟨fun _ _ => some 1000000, fun _ _ _ => false, fun _ => ⟨0, 0⟩, .ok 0⟩

def spent : Outside :=
  { wealthy with balance := fun _ user => some (if user = 1 then 0 else 1000000) }

/-- An order of a user who has spent the balance keeps another user's order from being
executed. -/
theorem spent_order_blocks : ¬ ∀ (timestamp sequence : Nat) (inputs : List LimitInput),
      ∀ taken ∈ trace limitStep (limitStart timestamp sequence) inputs,
        LimitTransition.Isolates taken := by
  intro every
  have isolates := every 0 0
    [pricedMarket, placeAt 1 1 wealthy, placeAt 3 1 wealthy, ⟨⟨1, 1, []⟩, spent, .sweep 2⟩] _
    (getLast_mem (by decide)) (2, 4) (by decide) 2
    ⟨2, ⟨3, 2, 2000, none⟩, 5, 123⟩ (by decide)
  exact absurd (isolates.1 (by decide) (by decide)).2 (by decide)

/-- Two orders that are due are both executed. -/
theorem due_orders_executed :
    let inputs := [pricedMarket, placeAt 1 1 wealthy, placeAt 3 1 wealthy,
      ⟨⟨1, 1, []⟩, wealthy, .sweep 2⟩]
    LimitsKept (trace limitStep (limitStart 0 0) inputs)
      (final limitStep (limitStart 0 0) inputs) :=
  limits_kept 0 0 _ (by decide)

end StellarSwipe.TradeExecutor
