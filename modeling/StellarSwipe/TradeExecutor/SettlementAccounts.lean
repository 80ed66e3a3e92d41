import StellarSwipe.Library.Revisions
import StellarSwipe.TradeExecutor.Settlement

/-!
# The accounts of settlement orders

Fills are recorded under their number in the order, which stops at the largest one of its type;
the fills after that overwrite each other's record while their amounts keep being settled.
-/

namespace StellarSwipe.Settlement

open FixedWidth Program Runs Table SettlementOrder Range Nat

abbrev SettlementTransition := Transition (Ledger SettlementStore) SettlementInput

namespace SettlementTransition

variable (taken : SettlementTransition)

/-- The ledger at which the call arrived. -/
def now : Nat := taken.pre.sequence + taken.input.arrival.ledgers

def Returned : Prop :=
  Accepts (taken.input.call.exec (taken.pre.env taken.input.arrival)) taken.pre.store

def Settles (orderId : Nat) (record : FillRecord) (inputAmount : Int) : Prop :=
  taken.Returned ∧ ∃ fill input price : Amount,
    taken.input.call = .settle orderId fill input price ∧ record.filledAmount = fill ∧
      inputAmount = input ∧ record.executionPrice = price ∧ record.ledger = taken.now

/-- A call that settles finds a number of fills that can still be counted. -/
def Countable : Prop :=
  match taken.input.call with
  | .settle orderId _ _ _ => ∀ order ∈ taken.pre.store.orders.lookup orderId,
      order.fillCount < u32Max
  | _ => True

instance : DecidablePred Countable := fun taken => by
  unfold Countable
  split <;> infer_instance

end SettlementTransition

def SettlementStore.recorded (store : SettlementStore) (orderId : Nat) : Int :=
  Table.tally FillRecord.filledAmount store.fills orderId

/-- What an order says and what is recorded of its fills agree, and every recorded fill was
settled within the bounds of the order and by its deadline. -/
structure Accounted (past : List SettlementTransition) (store : SettlementStore)
    (orderId : Nat) (order : SettlementOrder) : Prop where
  settled : order.settledAmount = store.recorded orderId
  within : order.settledAmount ≤ order.requestedAmount
  full : order.status = .fullySettled ↔ order.settledAmount = order.requestedAmount
  bounded : ∀ index record, store.fills.lookup (orderId, index) = some record →
    order.minOutput ≤ record.filledAmount ∧ ¬ order.IsPastDeadline record.ledger ∧
      ∃ taken ∈ past, ∃ inputAmount ≤ order.maxInput,
        SettlementTransition.Settles taken orderId record inputAmount

/-- What one order keeps from step to step. -/
structure OrderKept (past : List SettlementTransition) (store : SettlementStore)
    (orderId : Nat) (order : SettlementOrder) : Prop extends
    Accounted past store orderId order where
  named : order.orderId = orderId
  issued : orderId < store.nextOrderId.getD 1
  requested : i128.Holds order.requestedAmount
  pos : 0 < order.requestedAmount
  nonneg : 0 ≤ order.settledAmount
  counted : ∀ index record, store.fills.lookup (orderId, index) = some record →
    index ≤ order.fillCount

/-- Every order is kept, and there are no fills of others. -/
structure Books (past : List SettlementTransition) (store : SettlementStore) : Prop where
  orders : ∀ orderId order, store.orders.lookup orderId = some order →
    OrderKept past store orderId order
  fills : ∀ orderId index record, store.fills.lookup (orderId, index) = some record →
    ∃ order, store.orders.lookup orderId = some order

section Steps

variable {past : List SettlementTransition} {ledger : Ledger SettlementStore}
  {input : SettlementInput} {event : SettlementTransition} {store after : SettlementStore}
  {orderId : Nat} {order : SettlementOrder}

theorem OrderKept.carry (kept : OrderKept past store orderId order)
    (fills : ∀ index, after.fills.lookup (orderId, index) = store.fills.lookup (orderId, index))
    (next : store.nextOrderId.getD 1 ≤ after.nextOrderId.getD 1) :
    OrderKept (past ++ [event]) after orderId order := by
  refine ⟨⟨?_, kept.within, kept.full, fun index record has => ?_⟩, kept.named,
    kept.issued.trans_le next, kept.requested, kept.pos, kept.nonneg,
    fun index record has => kept.counted index record (fills index ▸ has)⟩
  · rw [kept.settled, SettlementStore.recorded, SettlementStore.recorded,
      tally_congr fills]
  · obtain ⟨output, inTime, taken, listed, settles⟩ :=
      kept.bounded index record (fills index ▸ has)
    exact ⟨output, inTime, taken, List.mem_append_left _ listed, settles⟩

/-- An order that closes without being settled keeps its fills. -/
theorem OrderKept.close (kept : OrderKept past store orderId order) {status : SettlementStatus}
    (live : ¬ order.IsClosed)
    (unsettled : status = .failed ∨ status = .cancelled ∨ status = .expired) :
    OrderKept past store orderId { order with status } := by
  refine ⟨⟨kept.settled, kept.within, ?_, kept.bounded⟩, kept.named, kept.issued,
    kept.requested, kept.pos, kept.nonneg, kept.counted⟩
  have unequal : order.settledAmount ≠ order.requestedAmount := fun same =>
    live (.inl (kept.full.mpr same))
  refine ⟨fun settled => ?_, fun same => absurd same unequal⟩
  rcases unsettled with rfl | rfl | rfl <;> cases settled

theorem remaining_eq (order : SettlementOrder) (nonneg : 0 ≤ order.settledAmount)
    (within : order.settledAmount ≤ order.requestedAmount)
    (requested : i128.Holds order.requestedAmount) :
    order.remaining = order.requestedAmount - order.settledAmount := by
  simp only [Range.Holds, i128_low, i128_high] at requested
  simp only [remaining, saturatingSub, clamp, i128_low, i128_high]
  omega

theorem OrderKept.filled_totals (kept : OrderKept past store orderId order) (env : Env)
    {fillAmount : Amount} (pos : 0 ≤ (fillAmount : Int))
    (fits : (fillAmount : Int) ≤ order.remaining) :
    (order.filled env fillAmount).settledAmount = order.settledAmount + fillAmount ∧
      order.settledAmount + fillAmount ≤ order.requestedAmount ∧
      ((order.filled env fillAmount).status = .fullySettled ↔
        order.settledAmount + fillAmount = order.requestedAmount) := by
  have within := kept.within
  have nonneg := kept.nonneg
  rw [remaining_eq order nonneg within kept.requested] at fits
  have held : i128.Holds (order.settledAmount + fillAmount) := by
    have bounds := kept.requested
    simp only [Range.Holds, i128_low, i128_high] at bounds ⊢
    omega
  have exactly : (order.filled env fillAmount).settledAmount = order.settledAmount + fillAmount := by
    simp [filled, checkedAdd, checked, held]
  have remaining := remaining_eq (order.filled env fillAmount) (by rw [exactly]; omega)
    (by rw [exactly]; show _ ≤ order.requestedAmount; omega) kept.requested
  rw [exactly, show (order.filled env fillAmount).requestedAmount = order.requestedAmount from rfl]
    at remaining
  refine ⟨exactly, by omega, ?_⟩
  rw [show (order.filled env fillAmount).status =
    if (order.filled env fillAmount).remaining = 0 then .fullySettled else .partiallyFilled from rfl,
    remaining]
  split
  next => exact ⟨fun _ => by omega, fun _ => rfl⟩
  next => exact ⟨fun closed => (by cases closed), fun _ => by omega⟩

theorem OrderKept.fill (kept : OrderKept past store orderId order) {env : Env}
    {fillAmount inputAmount executionPrice : Amount} (pos : 0 ≤ (fillAmount : Int))
    (output : order.minOutput ≤ fillAmount) (input : (inputAmount : Int) ≤ order.maxInput)
    (inTime : ¬ order.IsPastDeadline env.sequence)
    (fits : (fillAmount : Int) ≤ order.remaining) (countable : order.fillCount < u32Max)
    (settles : SettlementTransition.Settles event orderId
      ((order.filled env fillAmount).fill env fillAmount executionPrice) inputAmount)
    (fills : after.fills = store.fills.insert (orderId, (order.filled env fillAmount).fillCount)
      ((order.filled env fillAmount).fill env fillAmount executionPrice))
    (next : after.nextOrderId = store.nextOrderId) :
    OrderKept (past ++ [event]) after orderId (order.filled env fillAmount) := by
  obtain ⟨total, within, full⟩ := kept.filled_totals env pos fits
  have count : (order.filled env fillAmount).fillCount = order.fillCount + 1 :=
    saturating_count_exact countable
  have fresh : store.fills.lookup (orderId, order.fillCount + 1) = none := by
    cases has : store.fills.lookup (orderId, order.fillCount + 1) with
    | none => rfl
    | some record => exact absurd (kept.counted _ record has) (not_succ_le_self _)
  refine ⟨⟨?_, total ▸ within, by rw [full, total]; rfl, fun index record has => ?_⟩,
    kept.named, next ▸ kept.issued, kept.requested, kept.pos, ?_,
    fun index record has => ?_⟩
  · rw [SettlementStore.recorded, fills, count, tally_insert_new fresh, total, kept.settled]
    rfl
  · rw [fills, lookup_insert] at has
    split at has
    next =>
      cases has
      exact ⟨output, inTime, event, List.mem_append_right _ List.mem_cons_self, inputAmount,
        input, settles⟩
    next =>
      obtain ⟨above, early, taken, listed, settled⟩ := kept.bounded index record has
      exact ⟨above, early, taken, List.mem_append_left _ listed, settled⟩
  · have := kept.nonneg
    rw [total]
    omega
  · rw [fills, lookup_insert] at has
    rw [count]
    split at has
    next same =>
      have := (Prod.ext_iff.mp same).2
      simp only [count] at this
      exact this.le
    next => exact (kept.counted index record has).trans (le_succ _)

theorem settles_of_fits {env : Env} {fillAmount inputAmount executionPrice : Amount}
    (hit : store.orders.lookup orderId = some order) (live : ¬ order.IsClosed)
    (inTime : ¬ order.IsPastDeadline env.sequence) (pos : 0 ≤ (fillAmount : Int))
    (given : 0 ≤ (inputAmount : Int)) (output : order.minOutput ≤ fillAmount)
    (input : (inputAmount : Int) ≤ order.maxInput) (fits : (fillAmount : Int) ≤ order.remaining) :
    Accepts (SettlementCall.exec (.settle orderId fillAmount inputAmount executionPrice) env)
      store := by
  rw [accepts_iff_wp]
  simp [SettlementCall.exec, settleBatch, loadOrder, hit, live, inTime, expireOrder, saveFill,
    saveOrder, pos, given, output, input, fits, not_or, not_lt]

theorem Books.created (kept : Books past store) {env : Env} {user : Address}
    {requestedAmount : Amount} {slippage : SlippageBounds} {deadlineLedger : Nat}
    (pos : 0 < (requestedAmount : Int)) (fills : after.fills = store.fills)
    (next : after.nextOrderId = some (store.nextOrderId.getD 1 + 1)) :
    OrderKept (past ++ [event]) after (store.nextOrderId.getD 1)
      (.new env (store.nextOrderId.getD 1) user requestedAmount slippage deadlineLedger) := by
  have absent (index : Nat) :
      after.fills.lookup (store.nextOrderId.getD 1, index) = none := by
    rw [fills]
    cases has : store.fills.lookup (store.nextOrderId.getD 1, index) with
    | none => rfl
    | some record =>
      obtain ⟨order, hit⟩ := kept.fills _ _ _ has
      exact absurd (kept.orders _ _ hit).issued (lt_irrefl _)
  refine ⟨⟨?_, pos.le, ⟨nofun, fun same => absurd same pos.ne⟩,
    fun index record has => ?_⟩, rfl, by simp [next], requestedAmount.property, pos,
    le_rfl, fun index record has => ?_⟩
  · rw [SettlementStore.recorded, tally_absent absent]
    rfl
  · rw [absent] at has
    cases has
  · rw [absent] at has
    cases has

theorem Books.effect (kept : Books past store) {env : Env} {call : SettlementCall}
    (effect : SettlementEffect env store call after)
    (countable : ∀ orderId (fill inputAmount price : Amount) order,
      call = .settle orderId fill inputAmount price →
      store.orders.lookup orderId = some order → order.fillCount < u32Max)
    (settles : ∀ orderId (fill inputAmount price : Amount) (record : FillRecord),
      call = .settle orderId fill inputAmount price → Accepts (call.exec env) store →
      record.filledAmount = fill → record.executionPrice = price → record.ledger = env.sequence →
      SettlementTransition.Settles event orderId record inputAmount) :
    Books (past ++ [event]) after := by
  cases effect with
  | none =>
    exact ⟨fun orderId order has => (kept.orders orderId order has).carry (fun _ => rfl) le_rfl,
      kept.fills⟩
  | created pos orders fills next =>
    refine ⟨fun orderId order has => ?_, fun orderId index record has => ?_⟩
    · rw [orders, lookup_insert] at has
      split at has
      next same =>
        subst same
        cases has
        exact kept.created pos fills next
      next =>
        exact (kept.orders orderId order has).carry (fun _ => by rw [fills])
          (by rw [next]; exact le_succ _)
    · obtain ⟨order, hit⟩ := kept.fills orderId index record (fills ▸ has)
      rw [orders, lookup_insert]
      split
      next => exact ⟨_, rfl⟩
      next => exact ⟨order, hit⟩
  | @closed _ orderId order status _ hit live unsettled orders fills next =>
    have own := kept.orders orderId order hit
    refine ⟨fun other has read => ?_, fun other index record has => ?_⟩
    · rw [orders, lookup_insert] at read
      split at read
      next same =>
        cases same.trans own.named
        cases read
        exact (own.close live unsettled).carry (fun _ => by rw [fills]) (by rw [next])
      next =>
        exact (kept.orders other has read).carry (fun _ => by rw [fills]) (by rw [next])
    · obtain ⟨held, there⟩ := kept.fills other index record (fills ▸ has)
      rw [orders, lookup_insert]
      split
      next => exact ⟨_, rfl⟩
      next => exact ⟨held, there⟩
  | @filled orderId fillAmount inputAmount executionPrice order _ hit live inTime pos given
      output input fits fills orders next =>
    have own := kept.orders orderId order hit
    have accepts := @settles_of_fits _ _ _ _ _ _ executionPrice hit live inTime pos given
      output input fits
    refine ⟨fun other has read => ?_, fun other index record has => ?_⟩
    · rw [orders, lookup_insert] at read
      split at read
      next same =>
        cases same.trans own.named
        cases read
        exact own.fill pos output input inTime fits (countable _ _ _ _ _ rfl hit)
          (settles _ _ _ _ _ rfl accepts rfl rfl rfl) fills next
      next different =>
        refine (kept.orders other has read).carry (fun index => ?_) (by rw [next])
        rw [fills, lookup_insert, if_neg]
        exact fun same => different ((Prod.ext_iff.mp same).1.trans own.named.symm)
    · rw [orders, lookup_insert]
      rw [fills, lookup_insert] at has
      split
      next => exact ⟨_, rfl⟩
      next different =>
        rw [if_neg fun same => different ((Prod.ext_iff.mp same).1.trans own.named.symm)] at has
        exact kept.fills other index record has

/-- Every step whose fill can be counted keeps the books. -/
theorem Books.step (kept : Books past ledger.store)
    (countable : SettlementTransition.Countable ⟨ledger, input, settlementStep input ledger⟩) :
    Books (past ++ [⟨ledger, input, settlementStep input ledger⟩])
      (settlementStep input ledger).store := by
  refine kept.effect (settlementStep_effect input ledger) ?_ ?_
  · intro orderId fill inputAmount price order called hit
    rw [SettlementTransition.Countable] at countable
    simp only [called] at countable
    exact countable order hit
  · intro orderId fill inputAmount price record called accepts amount priced dated
    exact ⟨accepts, fill, inputAmount, price, called, amount, rfl, priced, dated⟩

/-- An order that is closed, and its fills, are as they were after every step. -/
theorem closed_unchanged (kept : Books past ledger.store)
    (hit : ledger.store.orders.lookup orderId = some order) (closed : order.IsClosed) :
    (settlementStep input ledger).store.orders.lookup orderId = some order ∧
      ∀ index, (settlementStep input ledger).store.fills.lookup (orderId, index) =
        ledger.store.fills.lookup (orderId, index) := by
  have effect := settlementStep_effect input ledger
  generalize (settlementStep input ledger).store = after at effect
  generalize input.call = call at effect
  have own := kept.orders orderId order hit
  cases effect with
  | none => exact ⟨hit, fun _ => rfl⟩
  | created _ orders fills =>
    refine ⟨?_, fun _ => by rw [fills]⟩
    rw [orders, lookup_insert, if_neg own.issued.ne, hit]
  | @closed _ other has _ _ read live _ orders fills =>
    refine ⟨?_, fun _ => by rw [fills]⟩
    rw [orders, lookup_insert, (kept.orders other has read).named, if_neg, hit]
    rintro rfl
    exact live (Option.mem_unique read hit ▸ closed)
  | @filled other _ _ _ has _ read live _ _ _ _ _ _ fills orders =>
    have different : orderId ≠ other := by
      rintro rfl
      exact live (Option.mem_unique read hit ▸ closed)
    refine ⟨?_, fun index => ?_⟩
    · rw [orders, lookup_insert, (kept.orders other has read).named,
        if_neg different, hit]
    · rw [fills, lookup_insert, if_neg]
      exact fun same => different (Prod.ext_iff.mp same).1

end Steps

/-- The law of settlement orders: all are accounted, and a step changes no closed one. -/
structure Lawful (past : List SettlementTransition) (store : SettlementStore) : Prop where
  accounted : ∀ orderId order, store.orders.lookup orderId = some order →
    Accounted past store orderId order
  closed : ∀ taken ∈ past, ∀ orderId order,
    taken.pre.store.orders.lookup orderId = some order → order.IsClosed →
      taken.after.store.orders.lookup orderId = some order ∧
        ∀ index, taken.after.store.fills.lookup (orderId, index) =
          taken.pre.store.fills.lookup (orderId, index)

/-- In every run whose fills can be counted the law of settlement orders holds. -/
theorem settlements_accounted (timestamp sequence : Nat) (inputs : List SettlementInput)
    (countable : ∀ taken ∈ trace settlementStep (settlementStart timestamp sequence) inputs,
      SettlementTransition.Countable taken) :
    Lawful (trace settlementStep (settlementStart timestamp sequence) inputs)
      (final settlementStep (settlementStart timestamp sequence) inputs).store := by
  have kept := transition_history_invariant settlementStep
    (fun past ledger => Books past ledger.store ∧ Lawful past ledger.store)
    SettlementTransition.Countable
    (fun past ledger input guard kept => ?_) (settlementStart timestamp sequence)
    ⟨⟨nofun, nofun⟩, ⟨nofun, by simp⟩⟩ inputs countable
  · exact kept.2
  · have books := kept.1.step guard
    refine ⟨books, fun orderId order has => (books.orders orderId order has).toAccounted,
      fun taken listed orderId order hit closed => ?_⟩
    rcases mem_snoc.mp listed with inside | rfl
    · exact kept.2.closed taken inside orderId order hit closed
    · exact closed_unchanged kept.1 hit closed

/-- An order of one more than the largest number of fills. -/
def largeOrder : SettlementInput :=
  ⟨⟨1, 1, [1]⟩, false, .create 1 (amountOf (u32Max + 1)) ⟨amountOf 0, amountOf 1⟩⟩

def singleFill : SettlementInput :=
  ⟨⟨0, 0, []⟩, false, .settle 1 (amountOf 1) (amountOf 1) (amountOf 1)⟩

/-- The order after some fills of one: what they settled, and what is recorded of them. -/
structure Filling (count : Nat) (store : SettlementStore) (order : SettlementOrder) : Prop where
  hit : store.orders.lookup 1 = some order
  named : order.orderId = 1
  requested : order.requestedAmount = u32Max + 1
  settled : order.settledAmount = count
  counted : order.fillCount = min count u32Max
  bounds : order.minOutput = 0 ∧ order.maxInput = 1 ∧ order.deadlineLedger = 0
  live : count ≤ u32Max → ¬ order.IsClosed
  recorded : store.recorded 1 = min count u32Max
  numbered : ∀ index record, store.fills.lookup (1, index) = some record →
    index ≤ order.fillCount ∧ record.filledAmount = 1
  last : u32Max ≤ count → ∃ record, store.fills.lookup (1, u32Max) = some record

section Filling

variable {count : Nat} {store : SettlementStore} {order : SettlementOrder}

/-- One more fill is settled. Past the largest number it overwrites the last record. -/
theorem Filling.next (filling : Filling count store order) (room : count ≤ u32Max) (env : Env)
    {after : SettlementStore}
    (fills : after.fills = store.fills.insert (1, (order.filled env 1).fillCount)
      ((order.filled env 1).fill env 1 1))
    (orders : after.orders = store.orders.insert order.orderId (order.filled env 1)) :
    Filling (count + 1) after (order.filled env 1) := by
  have counts : (order.filled env 1).fillCount = min (count + 1) u32Max := by
    show satCount u32Max order.fillCount 1 = _
    rw [filling.counted, saturating_count_min]
  have settled : (order.filled env 1).settledAmount = count + 1 := by
    have held : i128.Holds ((count : Int) + 1) := by
      simp only [Range.Holds, i128_low, i128_high]
      simp only [u32Max] at room
      omega
    simp [filled, filling.settled, checkedAdd, checked, held]
  refine ⟨by rw [orders, filling.named]; exact AList.lookup_insert _, filling.named,
    filling.requested, settled, counts, filling.bounds, fun open' => ?_, ?_,
    fun index record has => ?_, fun full => ?_⟩
  · have remaining : (order.filled env 1).remaining ≠ 0 := by
      rw [remaining, settled,
        show (order.filled env 1).requestedAmount = u32Max + 1 from filling.requested]
      simp only [u32Max, saturatingSub, clamp, i128_low, i128_high] at open' ⊢
      omega
    have status : (order.filled env 1).status = .partiallyFilled := if_neg remaining
    simp [SettlementOrder.IsClosed, status]
  · rw [SettlementStore.recorded, fills]
    by_cases full : u32Max ≤ count
    · obtain ⟨record, has⟩ := filling.last full
      have same : min (count + 1) u32Max = u32Max := by omega
      rw [counts, same, tally_insert_over has, (filling.numbered _ _ has).2]
      show store.recorded 1 - 1 + 1 = _
      rw [filling.recorded]
      omega
    · have fresh : store.fills.lookup (1, (order.filled env 1).fillCount) = none := by
        cases has : store.fills.lookup (1, (order.filled env 1).fillCount) with
        | none => rfl
        | some record =>
          have := (filling.numbered _ _ has).1
          rw [counts, filling.counted] at this
          omega
      rw [tally_insert_new fresh]
      show store.recorded 1 + 1 = _
      rw [filling.recorded]
      omega
  · rw [fills, lookup_insert] at has
    split at has
    next same =>
      cases has
      exact ⟨(Prod.ext_iff.mp same).2.le, rfl⟩
    next =>
      obtain ⟨within, amount⟩ := filling.numbered index record has
      rw [filling.counted] at within
      exact ⟨by omega, amount⟩
  · have same : (order.filled env 1).fillCount = u32Max := by omega
    exact ⟨_, by rw [fills, same]; exact AList.lookup_insert _⟩

/-- A fill of one is accepted while there is room for it. -/
theorem Filling.step (filling : Filling count store order) (room : count ≤ u32Max) (env : Env) :
    ∃ next, Filling (count + 1) (invoke (singleFill.exec env) store) next := by
  refine ⟨order.filled env 1, @invoke_rule _ _ _ _
    (fun after => Filling (count + 1) after (order.filled env 1)) _ ?_⟩
  obtain ⟨minOutput, maxInput, deadline⟩ := filling.bounds
  have remaining : (1 : Int) ≤ order.remaining := by
    rw [remaining, filling.settled, filling.requested]
    simp only [u32Max, saturatingSub, clamp, i128_low, i128_high] at room ⊢
    omega
  have one : ((amountOf 1 : Amount) : Int) = 1 := rfl
  have live := filling.live room
  have inTime : ¬ order.IsPastDeadline env.sequence := fun past => past.1 deadline
  simp only [SettlementInput.exec, singleFill, SettlementCall.exec, settleBatch, loadOrder,
    Bool.false_eq_true, if_false, wp_rules, saveFill, saveOrder, one, filling.hit, expireOrder,
    wp_ite, live, inTime, minOutput, maxInput, remaining, not_lt.mpr, not_true, not_false_iff,
    and_false, true_and, Option.some.injEq, forall_eq', reduceCtorEq, false_implies, and_true,
    lt_irrefl, or_false, forall_const]
  norm_num [not_lt.mpr remaining]
  exact filling.next room env rfl rfl

end Filling

theorem largeOrder_filling : ∃ order,
    Filling 0 (settlementStep largeOrder (settlementStart 0 0)).store order := by
  refine ⟨_, rfl, rfl, by decide, rfl, rfl, ⟨rfl, rfl, rfl⟩, fun _ => by decide, rfl,
    fun _ _ has => (by cases has), fun full => absurd full (by decide)⟩

/-- As many fills as the order asks for. The induction is on the fills. -/
theorem fills_filling (count : Nat) (room : count ≤ u32Max + 1) : ∃ order,
    Filling count (final settlementStep (settlementStart 0 0)
      (largeOrder :: List.replicate count singleFill)).store order := by
  induction count with
  | zero => exact largeOrder_filling
  | succ count ih =>
    obtain ⟨order, filling⟩ := ih (le_of_succ_le room)
    rw [List.replicate_succ', ← List.cons_append, final_append]
    exact filling.step (le_of_succ_le_succ room) _

/-- With one fill more than can be counted, the records miss what was settled. -/
theorem fills_outgrow_records : ¬ ∀ (timestamp sequence : Nat) (inputs : List SettlementInput),
      Lawful (trace settlementStep (settlementStart timestamp sequence) inputs)
        (final settlementStep (settlementStart timestamp sequence) inputs).store := by
  intro every
  obtain ⟨order, filling⟩ := fills_filling (u32Max + 1) le_rfl
  have settled := ((every 0 0 _).accounted 1 order filling.hit).settled
  rw [filling.settled, filling.recorded] at settled
  simp only [u32Max] at settled
  omega

/-- An order that is filled twice is accounted. -/
theorem two_fills_accounted :
    let inputs := [largeOrder, singleFill, singleFill]
    Lawful (trace settlementStep (settlementStart 0 0) inputs)
      (final settlementStep (settlementStart 0 0) inputs).store :=
  settlements_accounted 0 0 [largeOrder, singleFill, singleFill] (by decide)

/-- The same order later: it settles more until it is closed. -/
abbrev Continues : SettlementOrder → SettlementOrder → Prop :=
  Revises (fun order => { order with
    settledAmount := 0, status := .opened, fillCount := 0, lastFillLedger := 0 })
    SettlementOrder.settledAmount (· ≤ ·) SettlementOrder.IsClosed

/-- Orders are under their ids, which were given out. -/
def Issued (store : SettlementStore) : Prop :=
  ∀ orderId order, store.orders.lookup orderId = some order → order.orderId = orderId ∧
    orderId < store.nextOrderId.getD 1 ∧ order.settledAmount ≤ i128.high

section Steps

variable {env : Env} {call : SettlementCall} {pre after : SettlementStore}

theorem Issued.replaced (issued : Issued pre) {orderId : Nat} {order : SettlementOrder}
    (later : SettlementOrder) (hit : pre.orders.lookup orderId = some order)
    (continues : Continues order later) (fits : later.settledAmount ≤ i128.high)
    (orders : after.orders = pre.orders.insert order.orderId later)
    (next : after.nextOrderId = pre.nextOrderId) :
    Issued after ∧ Continued Continues pre.orders after.orders := by
  obtain ⟨rfl, given, _⟩ := issued orderId order hit
  refine ⟨fun id has read => ?_, orders ▸ continued_insert fun prior here =>
    Option.mem_unique hit here ▸ continues⟩
  rw [orders, lookup_insert] at read
  rw [next]
  split at read
  next same =>
    cases read
    exact ⟨(congrArg SettlementOrder.orderId continues.same).trans same.symm, same ▸ given, fits⟩
  next => exact issued id has read

theorem Issued.effect (issued : Issued pre) (effect : SettlementEffect env pre call after) :
    Issued after ∧ Continued Continues pre.orders after.orders := by
  cases effect with
  | none => exact ⟨issued, Continued.refl _⟩
  | created _ orders _ next =>
    refine ⟨fun id has read => ?_, orders ▸ continued_insert fun prior here =>
      absurd (issued _ prior here).2.1 (lt_irrefl _)⟩
    rw [orders, lookup_insert] at read
    rw [next]
    split at read
    next same =>
      cases read
      exact ⟨same.symm, same ▸ Nat.lt_succ_self _, (by decide : (0 : Int) ≤ i128.high)⟩
    next =>
      obtain ⟨named, given, fits⟩ := issued id has read
      exact ⟨named, given.trans (Nat.lt_succ_self _), fits⟩
  | @closed _ _ order status _ hit live _ orders _ next =>
    exact issued.replaced { order with status } hit
      ⟨rfl, le_rfl, fun ended => absurd ended live⟩ (issued _ _ hit).2.2 orders next
  | @filled _ fillAmount _ _ order _ hit live _ pos _ _ _ _ _ orders next =>
    have fits := (issued _ _ hit).2.2
    have settled : order.settledAmount ≤ (order.filled env fillAmount).settledAmount ∧
        (order.filled env fillAmount).settledAmount ≤ i128.high := by
      simp only [SettlementOrder.filled, checkedAdd, checked]
      split
      next holds => exact ⟨by simpa using pos, holds.2⟩
      next => exact ⟨fits, le_rfl⟩
    exact issued.replaced (order.filled env fillAmount) hit
      ⟨rfl, settled.1, fun ended => absurd ended live⟩ settled.2 orders next

end Steps

/-- However settlement is run and run on, every order stays on record as the same one. -/
theorem orders_stay_on_record (timestamp sequence : Nat) (inputs later : List SettlementInput) :
    let reached := final settlementStep (settlementStart timestamp sequence) inputs
    Continued Continues reached.store.orders
      (final settlementStep reached later).store.orders := by
  have run := continued_run settlementStep (·.store.orders) (Issued ·.store)
    fun ledger input issued => issued.effect (settlementStep_effect input ledger)
  exact (run _ (run (settlementStart timestamp sequence) nofun inputs).1 later).2

end StellarSwipe.Settlement
