import StellarSwipe.Library.Runs
import StellarSwipe.StakeVault.FeeSolvency

/-!
# What failed fee accrual leaves behind

Fee accrual works on its arguments in place. Here each assignment is a write of its own, so a call
that fails keeps what it wrote.
-/

namespace StellarSwipe.StakeVault.FeeAccrual

open FixedWidth Range Int Runs Table

/-- What a call may write to. -/
structure FeeCells where
  state : FeeAccrualState
  position : StakerFeePosition
deriving DecidableEq

/-- A call whose writes outlast its failure. -/
abbrev InPlace := ExceptT FeeAccrualError (StateM FeeCells)

def DebtFits (shares accFeePerShare : Int) : Prop :=
  i128.Holds (shares * accFeePerShare) ∧ ((shares * accFeePerShare).tmod accPrecision ≠ 0 →
    i128.Holds ((shares * accFeePerShare).tdiv accPrecision + 1))

namespace FeeCells

variable (cells : FeeCells)

def accumulated : Int :=
  (cells.position.shares * cells.state.accFeePerShare).tdiv accPrecision

/-- Settling has something to move. -/
def Accrued : Prop := cells.position.feeDebt < cells.accumulated

/-- Everything that settling computes fits its type. -/
def Settles : Prop :=
  i128.Holds (cells.position.shares * cells.state.accFeePerShare) ∧
    (cells.Accrued → i128.Holds (cells.accumulated - cells.position.feeDebt) ∧
      i128.Holds (cells.position.realized + (cells.accumulated - cells.position.feeDebt)))

def settled : FeeCells :=
  if cells.accumulated ≤ cells.position.feeDebt then cells
  else
    { cells with position := { cells.position with
        realized := cells.position.realized + (cells.accumulated - cells.position.feeDebt)
        feeDebt := cells.accumulated } }

/-- When a change to these shares leaves no trace of a failure. -/
def Reshares (shares totalShares : Int) : Prop :=
  cells.Settles → (cells.Accrued → i128.Holds shares) ∧
    (i128.Holds shares → i128.Holds totalShares ∧ DebtFits shares cells.state.accFeePerShare)

/-- After settling, a change to shares that fit fits as a whole. -/
def Carries (shares totalShares : Int) : Prop :=
  cells.Settles → i128.Holds shares →
    i128.Holds totalShares ∧ DebtFits shares cells.state.accFeePerShare

/-- Settling writes exactly when it has something to move. -/
theorem settled_eq {cells : FeeCells} : cells.settled = cells ↔ ¬ cells.Accrued := by
  rw [settled, Accrued]
  split
  next covered => exact iff_of_true rfl (Int.not_lt.mpr covered)
  next above =>
    refine iff_of_false (fun same => ?_) fun below => below (Int.not_le.mp above)
    exact above (congrArg (·.position.feeDebt) same).le

variable (amount : Int)

/-- What a deposit is worked out from: the pool, what it adds to the fee per share and what
it leaves over. -/
def pool : Int := amount + cells.state.carry

def poolScaled : Int := cells.pool amount * accPrecision + cells.state.dustScaled

def perShareDelta : Int :=
  if cells.state.totalShares = 0 then 0
  else (cells.poolScaled amount).tdiv cells.state.totalShares

def remainderScaled : Int :=
  cells.poolScaled amount - cells.perShareDelta amount * cells.state.totalShares

def distributed : Int :=
  cells.pool amount - (cells.remainderScaled amount).tdiv accPrecision

/-- A deposit passes the checks that come before its first write. -/
structure Credits (amount : Int) (ledgerSeq timestamp : Nat) : Prop where
  pos : 0 < amount
  forward : cells.state.lastLedgerSeq ≤ ledgerSeq ∧ cells.state.lastTimestamp ≤ timestamp
  pool : i128.Holds (cells.pool amount)
  product : i128.Holds (cells.pool amount * accPrecision)
  scaled : i128.Holds (cells.poolScaled amount)
  shared : cells.state.totalShares ≠ 0 →
    i128.Holds (cells.perShareDelta amount * cells.state.totalShares) ∧
      i128.Holds (cells.remainderScaled amount)
  distributed : i128.Holds (cells.distributed amount)
  credited : i128.Holds (cells.state.accFeePerShare + cells.perShareDelta amount)

end FeeCells

namespace InPlace

variable {α β : Type}

def run (call : InPlace α) (cells : FeeCells) : Except FeeAccrualError α × FeeCells :=
  ExceptT.run call cells

def attempt (computed : Accrual α) : InPlace α := ExceptT.mk (pure computed)

abbrev read : InPlace FeeCells := get

abbrev writeState (write : FeeAccrualState → FeeAccrualState) : InPlace Unit :=
  modify fun cells => { cells with state := write cells.state }

abbrev writePosition (write : StakerFeePosition → StakerFeePosition) : InPlace Unit :=
  modify fun cells => { cells with position := write cells.position }

def accrueDeposit (amount : Int) (ledgerSeq timestamp : Nat) : InPlace AccrualUpdate := do
  let { state, .. } ← read
  attempt (require (¬ amount ≤ 0) .invalidAmount)
  attempt (require (¬ (ledgerSeq < state.lastLedgerSeq ∨ timestamp < state.lastTimestamp))
    .nonMonotonicLedger)
  let pool ← attempt (add amount state.carry)
  let product ← attempt (mul pool accPrecision)
  let poolScaled ← attempt (add product state.dustScaled)
  let (perShareDelta, remainderScaled) ← attempt (shareOut poolScaled state.totalShares)
  let carry := remainderScaled.tdiv accPrecision
  let distributed ← attempt (sub pool carry)
  let accFeePerShare ← attempt (add state.accFeePerShare perShareDelta)
  writeState ({ · with accFeePerShare })
  writeState ({ · with carry })
  writeState ({ · with dustScaled := remainderScaled.tmod accPrecision })
  let totalDeposited ← attempt (add state.totalDeposited amount)
  writeState ({ · with totalDeposited })
  let totalDistributed ← attempt (add state.totalDistributed distributed)
  writeState ({ · with totalDistributed })
  writeState ({ · with lastLedgerSeq := ledgerSeq })
  writeState ({ · with lastTimestamp := timestamp })
  writeState ({ · with epoch := satCount u64Max state.epoch 1 })
  pure
    { epoch := satCount u64Max state.epoch 1
      deposited := amount
      distributed
      perShareDelta
      carry
      accFeePerShare
      totalShares := state.totalShares
      ledgerSeq
      timestamp }

def settle : InPlace Int := do
  let { state, position } ← read
  let accumulated ← attempt (accumulatedFor position.shares state.accFeePerShare)
  if accumulated ≤ position.feeDebt then pure 0
  else do
    let newly ← attempt (sub accumulated position.feeDebt)
    let realized ← attempt (add position.realized newly)
    writePosition ({ · with realized })
    writePosition ({ · with feeDebt := accumulated })
    pure newly

def changeShares (change : Int → Accrual Int) : InPlace Unit := do
  let _ ← settle
  let { state, position } ← read
  let shares ← attempt (change position.shares)
  writePosition ({ · with shares })
  let totalShares ← attempt (change state.totalShares)
  writeState ({ · with totalShares })
  let feeDebt ← attempt (debtCheckpoint shares state.accFeePerShare)
  writePosition ({ · with feeDebt })

def addShares (amount : Int) : InPlace Unit := do
  attempt (require (¬ amount ≤ 0) .invalidAmount)
  changeShares (add · amount)

def removeShares (amount : Int) : InPlace Unit := do
  let { position, .. } ← read
  attempt (require (¬ amount ≤ 0) .invalidAmount)
  attempt (require (¬ position.shares < amount) .insufficientShares)
  changeShares (sub · amount)

/-- A slash is worked out on copies, which are written back at the end. -/
def applySlash (amount : Int) : InPlace SlashSettlement := do
  let { state, position } ← read
  let (nextState, nextPosition, outcome) ← attempt (FeeAccrual.applySlash state position amount)
  writeState fun _ => nextState
  writePosition fun _ => nextPosition
  pure outcome

def claim : InPlace Int := do
  let _ ← settle
  let { position, .. } ← read
  attempt (require (¬ position.realized ≤ 0) .nothingToClaim)
  writePosition ({ · with realized := 0 })
  pure position.realized

section Failures

variable {hit cells : FeeCells} {value : Int} {condition : Prop} [Decidable condition]
  {reason : FeeAccrualError}

/-- A call that fails from these cells leaves the ones that were found. -/
def Leaves (hit : FeeCells) (call : InPlace α) (cells : FeeCells) : Prop :=
  ∀ reason, (call.run cells).1 = .error reason → (call.run cells).2 = hit

/-- A call that fails leaves the cells as it found them. -/
def Spares (call : InPlace α) (cells : FeeCells) : Prop := Leaves cells call cells

theorem leaves_pure (answer : α) : Leaves hit (pure answer : InPlace α) cells ↔ True :=
  iff_of_true (fun _ failed => nomatch failed) trivial

theorem leaves_read {next : FeeCells → InPlace α} :
    Leaves hit (read >>= next) cells ↔ Leaves hit (next cells) cells := Iff.rfl

variable {write : FeeCells → FeeCells}

theorem leaves_write {next : Unit → InPlace α} :
    Leaves hit (modify write >>= next) cells ↔ Leaves hit (next ()) (write cells) := Iff.rfl

theorem leaves_modify : Leaves hit (modify write) cells ↔ True :=
  iff_of_true (fun _ failed => nomatch failed) trivial

variable {next : β → InPlace α}

theorem leaves_ok {answer : β} :
    Leaves hit (attempt (.ok answer) >>= next) cells ↔ Leaves hit (next answer) cells := Iff.rfl

theorem leaves_error : Leaves hit (attempt (.error reason) >>= next) cells ↔ cells = hit :=
  ⟨fun left => left reason rfl, fun same _ _ => same⟩

theorem leaves_checked {next : Int → InPlace α} :
    Leaves hit (attempt (orOverflow (i128.checked value)) >>= next) cells ↔
      (i128.Holds value → Leaves hit (next value) cells) ∧
        (¬ i128.Holds value → cells = hit) := by
  by_cases fits : i128.Holds value <;>
    simp [checked, fits, orOverflow, leaves_ok, leaves_error]

theorem leaves_require {next : Unit → InPlace α} :
    Leaves hit (attempt (require condition reason) >>= next) cells ↔
      (condition → Leaves hit (next ()) cells) ∧ (¬ condition → cells = hit) := by
  by_cases holds : condition <;> simp [require, holds, leaves_ok, leaves_error]

theorem attempt_bind (first : Accrual β) (next : β → Accrual α) :
    attempt (first >>= next) = attempt first >>= fun value => attempt (next value) := by
  cases first <;> rfl

theorem leaves_ite {left right : InPlace β} :
    Leaves hit ((if condition then left else right) >>= next) cells ↔
      (condition → Leaves hit (left >>= next) cells) ∧
        (¬ condition → Leaves hit (right >>= next) cells) := by
  by_cases holds : condition <;> simp [holds]

theorem attempt_pure (answer : β) : attempt (pure answer) = (pure answer : InPlace β) := rfl

theorem attempt_ite {left right : Accrual β} : attempt (if condition then left else right) =
    if condition then attempt left else attempt right := apply_ite attempt condition left right

theorem leaves_settle {next : Int → InPlace α} {goal : Prop}
    (same : ∀ newly, Leaves hit (next newly) cells.settled ↔ goal) :
    Leaves hit (settle >>= next) cells ↔
      (cells.Settles → goal) ∧ (¬ cells.Settles → cells = hit) := by
  simp only [settle, accumulatedFor, mul, sub, add, checkedMul, checkedSub,
    checkedAdd, bind_assoc, attempt_bind, attempt_pure, leaves_read, leaves_checked,
    leaves_ite, pure_bind, leaves_write]
  rw [FeeCells.Settles, FeeCells.Accrued, ← not_le]
  rw [FeeCells.settled] at same
  split at same
  · have first := same 0
    tauto
  · have moved := same (cells.accumulated - cells.position.feeDebt)
    tauto

theorem leaves_debt {shares accFeePerShare : Int} {write : Int → FeeCells → FeeCells} :
    Leaves hit (attempt (debtCheckpoint shares accFeePerShare) >>=
      fun feeDebt => modify (write feeDebt)) cells ↔
      (¬ DebtFits shares accFeePerShare → cells = hit) := by
  simp only [debtCheckpoint, mul, add, checkedMul, checkedAdd, attempt_bind,
    attempt_ite, attempt_pure, bind_assoc, leaves_checked, leaves_ite, pure_bind, leaves_modify,
    DebtFits]
  tauto

theorem changeShares_spares {change : Int → Accrual Int} {shares totalShares : Int}
    (changed : shares ≠ cells.position.shares)
    (first : change cells.position.shares = orOverflow (i128.checked shares))
    (second : change cells.state.totalShares = orOverflow (i128.checked totalShares)) :
    Spares (changeShares change) cells ↔ cells.Reshares shares totalShares := by
  have kept : cells.settled.position.shares = cells.position.shares ∧
      cells.settled.state = cells.state := by
    rw [FeeCells.settled]
    split <;> exact ⟨rfl, rfl⟩
  have unequal {after : FeeCells} (written : after.position.shares = shares) :
      (after = cells) ↔ False :=
    iff_false_intro fun same => changed (written.symm.trans (congrArg (·.position.shares) same))
  rw [Spares, changeShares, leaves_settle fun _ => Iff.rfl, FeeCells.Reshares]
  simp only [leaves_read, kept, first, second, leaves_checked, leaves_write, leaves_debt, unequal,
    FeeCells.settled_eq]
  tauto

variable {amount : Int}

theorem leaves_shareOut {next : Int × Int → InPlace α} :
    Leaves hit (attempt (shareOut (cells.poolScaled amount) cells.state.totalShares) >>= next)
      cells ↔ ((cells.state.totalShares ≠ 0 →
          i128.Holds (cells.perShareDelta amount * cells.state.totalShares) ∧
            i128.Holds (cells.remainderScaled amount)) →
        Leaves hit (next (cells.perShareDelta amount, cells.remainderScaled amount)) cells) ∧
      (¬ (cells.state.totalShares ≠ 0 →
          i128.Holds (cells.perShareDelta amount * cells.state.totalShares) ∧
            i128.Holds (cells.remainderScaled amount)) → cells = hit) := by
  rw [FeeCells.remainderScaled, FeeCells.perShareDelta, shareOut]
  split
  · simp [*, attempt_pure]
  · simp only [mul, sub, checkedMul, checkedSub, attempt_bind, attempt_pure, bind_assoc,
      leaves_checked, pure_bind]
    tauto

/-- What a deposit leaves over and adds to the fee per share is all of it, so crediting it
always writes something new. -/
theorem credit_writes (pos : 0 < amount)
    (credited : cells.state.accFeePerShare + cells.perShareDelta amount =
      cells.state.accFeePerShare)
    (carried : (cells.remainderScaled amount).tdiv accPrecision = cells.state.carry)
    (left : (cells.remainderScaled amount).tmod accPrecision = cells.state.dustScaled) : False := by
  have division := mul_tdiv_add_tmod (cells.remainderScaled amount) accPrecision
  have unshared : cells.perShareDelta amount = 0 := by omega
  rw [carried, left, FeeCells.remainderScaled, unshared, FeeCells.poolScaled, FeeCells.pool,
    accPrecision] at division
  omega

theorem accrueDeposit_spares {ledgerSeq timestamp : Nat} :
    Spares (accrueDeposit amount ledgerSeq timestamp) cells ↔
      (cells.Credits amount ledgerSeq timestamp → i128.Holds (cells.state.totalDeposited + amount) ∧
          i128.Holds (cells.state.totalDistributed + cells.distributed amount)) := by
  simp only [Spares, accrueDeposit, add, mul, sub, checkedAdd, checkedMul,
    checkedSub, leaves_read, leaves_require, leaves_checked, leaves_shareOut, leaves_write,
    leaves_pure, ← FeeCells.pool.eq_1, ← FeeCells.poolScaled.eq_1, ← FeeCells.distributed.eq_1,
    implies_true, and_true, not_le, true_and]
  constructor
  · intro spared credits
    have forward := credits.forward
    obtain ⟨first, second⟩ := spared credits.pos (by omega) credits.pool credits.product
      credits.scaled credits.shared credits.distributed credits.credited
    have deposited : i128.Holds (cells.state.totalDeposited + amount) := by
      by_contra past
      have same := second past
      exact credit_writes credits.pos (congrArg (·.state.accFeePerShare) same)
        (congrArg (·.state.carry) same) (congrArg (·.state.dustScaled) same)
    refine ⟨deposited, ?_⟩
    by_contra past
    have same : cells.state.totalDeposited + amount = cells.state.totalDeposited :=
      congrArg (·.state.totalDeposited) (first deposited past)
    have pos := credits.pos
    omega
  · intro fits pos forward pool product scaled shared distributed credited
    have passes := fits ⟨pos, by omega, pool, product, scaled, shared, distributed, credited⟩
    exact ⟨fun _ past => absurd passes.2 past, fun past => absurd passes.1 past⟩

theorem claim_spares : Spares claim cells ↔ (cells.Settles → cells.Accrued →
      0 < cells.position.realized + (cells.accumulated - cells.position.feeDebt)) := by
  rw [Spares, claim, leaves_settle fun _ => Iff.rfl]
  simp only [leaves_read, leaves_require, leaves_write, leaves_pure, FeeCells.settled_eq]
  rw [FeeCells.settled, FeeCells.Accrued, ← not_le]
  split
  · tauto
  · simp only [← not_le]
    tauto

theorem applySlash_spares (amount : Int) : Spares (applySlash amount) cells := by
  change Leaves cells
    (attempt (FeeAccrual.applySlash cells.state cells.position amount) >>= _) cells
  cases FeeAccrual.applySlash cells.state cells.position amount with
  | error reason => exact leaves_error.mpr rfl
  | ok written => exact fun _ failed => nomatch failed

end Failures

/-- Settling and slashing leave no trace when they fail. A deposit leaves one exactly when
only a lifetime total does not fit any more, a change of shares when the shares of the
position or of the vault do not fit after settling or after a first write, and a claim when
settling moved something and there is still nothing to pay. -/
theorem failures_spare (cells : FeeCells) (amount : Int) (ledgerSeq timestamp : Nat) :
    (Spares (accrueDeposit amount ledgerSeq timestamp) cells ↔
      (cells.Credits amount ledgerSeq timestamp → i128.Holds (cells.state.totalDeposited + amount) ∧
          i128.Holds (cells.state.totalDistributed + cells.distributed amount))) ∧
    (Spares (addShares amount) cells ↔ (0 < amount →
      cells.Reshares (cells.position.shares + amount) (cells.state.totalShares + amount))) ∧
    (Spares (removeShares amount) cells ↔ (0 < amount → amount ≤ cells.position.shares →
      cells.Reshares (cells.position.shares - amount) (cells.state.totalShares - amount))) ∧
    Spares (applySlash amount) cells ∧ Spares settle cells ∧
    (Spares claim cells ↔ (cells.Settles → cells.Accrued →
      0 < cells.position.realized + (cells.accumulated - cells.position.feeDebt))) := by
  refine ⟨accrueDeposit_spares, ?_, ?_, applySlash_spares amount, ?_, claim_spares⟩
  · rw [Spares, addShares, leaves_require, not_le, and_iff_left fun _ => rfl]
    refine forall_congr' fun pos => changeShares_spares ?_ rfl rfl
    omega
  · rw [Spares, removeShares, leaves_read, leaves_require, leaves_require, not_le, not_lt,
      and_iff_left fun _ => rfl, and_iff_left fun _ => rfl]
    refine forall_congr' fun pos => forall_congr' fun held => changeShares_spares ?_ rfl rfl
    omega
  · rw [Spares, ← bind_pure settle, leaves_settle leaves_pure]
    exact ⟨fun _ => trivial, fun _ => rfl⟩

/-- One staker holds all shares that fit. A second one gains a share that is never counted. -/
theorem uncounted_share_stays :
    ¬ Spares (addShares 1) ⟨{ FeeAccrualState.new with totalShares := i128.high }, .new⟩ :=
  fun spared => absurd (spared .overflow rfl) (by decide)

end InPlace

namespace InPlace

section Returns

variable {α β : Type} {cells : FeeCells} {post : α → FeeCells → Prop}

def Returns (call : InPlace α) (post : α → FeeCells → Prop) (cells : FeeCells) : Prop :=
  ∀ answer, (call.run cells).1 = .ok answer → post answer (call.run cells).2

theorem returns_pure {answer : α} :
    Returns (pure answer : InPlace α) post cells ↔ post answer cells :=
  ⟨fun returns => returns answer rfl, fun kept _ same => by cases same; exact kept⟩

theorem returns_attempt {computed : Accrual β} {next : β → InPlace α} :
    Returns (attempt computed >>= next) post cells ↔
      ∀ value, computed = .ok value → Returns (next value) post cells := by
  cases computed with
  | ok value => exact ⟨fun returns _ same => by cases same; exact returns, fun all => all value rfl⟩
  | error => exact iff_of_true (fun _ same => nomatch same) fun _ same => nomatch same

theorem returns_read {next : FeeCells → InPlace α} :
    Returns (read >>= next) post cells ↔ Returns (next cells) post cells := Iff.rfl

variable {write : FeeCells → FeeCells}

theorem returns_write {next : Unit → InPlace α} :
    Returns (modify write >>= next) post cells ↔ Returns (next ()) post (write cells) := Iff.rfl

theorem returns_modify {post : Unit → FeeCells → Prop} :
    Returns (modify write) post cells ↔ post () (write cells) :=
  ⟨fun returns => returns () rfl, fun kept _ _ => kept⟩

theorem returns_bind {first : InPlace β} {next : β → InPlace α} :
    Returns (first >>= next) post cells ↔
      Returns first (fun value after => Returns (next value) post after) cells := by
  have ran : (first >>= next).run cells =
      ExceptT.bindCont next (first.run cells).1 (first.run cells).2 := rfl
  rw [Returns, ran, Returns]
  rcases first.run cells with ⟨reason | value, after⟩
  · exact iff_of_true (fun _ same => nomatch same) fun _ same => nomatch same
  · exact ⟨fun returns _ same => by cases same; exact returns, fun all => all value rfl⟩

theorem ok_bind (value : β) (next : β → Accrual α) :
    (Except.ok value >>= next : Accrual α) = next value := rfl

theorem settle_returns : Returns settle (fun newly after => after.state = cells.state ∧
      FeeAccrual.settle cells.state cells.position = .ok (after.position, newly)) cells := by
  simp only [settle, returns_read, returns_attempt]
  intro accumulated reached
  split
  next covered =>
    rw [returns_pure]
    exact ⟨rfl, by rw [FeeAccrual.settle, reached, ok_bind, if_pos covered]; rfl⟩
  next above =>
    simp only [returns_attempt, returns_write, returns_pure]
    intro newly gained realized sum
    refine ⟨trivial, ?_⟩
    rw [FeeAccrual.settle, reached, ok_bind, if_neg above, gained, ok_bind, sum]
    rfl

theorem changeShares_returns {change : Int → Accrual Int} :
    Returns (changeShares change) (fun _ after => ∃ settled newly shares totalShares feeDebt,
      FeeAccrual.settle cells.state cells.position = .ok (settled, newly) ∧
        change settled.shares = .ok shares ∧ change cells.state.totalShares = .ok totalShares ∧
        debtCheckpoint shares cells.state.accFeePerShare = .ok feeDebt ∧
        after = ⟨{ cells.state with totalShares }, { settled with shares, feeDebt }⟩) cells := by
  rw [changeShares, returns_bind]
  intro newly moved
  obtain ⟨same, settled⟩ := settle_returns newly moved
  generalize (run InPlace.settle cells).2 = middle at same settled ⊢
  obtain ⟨state, position⟩ := middle
  obtain rfl : state = cells.state := same
  simp only [returns_read, returns_attempt, returns_write, returns_modify]
  intro shares changed totalShares total feeDebt debt
  exact ⟨position, newly, shares, totalShares, feeDebt, settled, changed, total, debt, rfl⟩

theorem accrueDeposit_returns {amount : Int} {ledgerSeq timestamp : Nat} :
    Returns (accrueDeposit amount ledgerSeq timestamp) (fun update after =>
      FeeAccrual.accrueDeposit cells.state amount ledgerSeq timestamp =
        .ok (after.state, update)) cells := by
  simp only [accrueDeposit, returns_read, returns_attempt, returns_write, returns_pure]
  rintro _ pos _ forward pool pooled product scaled poolScaled dusted ⟨delta, remainder⟩ shared
    distributed difference accFeePerShare raised totalDeposited deposited totalDistributed credited
  rw [FeeAccrual.accrueDeposit, pos, ok_bind, forward, ok_bind, pooled, ok_bind, scaled,
    ok_bind, dusted, ok_bind, shared, ok_bind]
  simp only [difference, raised, deposited, credited, ok_bind]
  rfl

theorem claim_returns : Returns claim (fun paid after => after.state = cells.state ∧
    FeeAccrual.claim cells.state cells.position = .ok (after.position, paid)) cells := by
  rw [claim, returns_bind]
  intro newly moved
  obtain ⟨same, settled⟩ := settle_returns newly moved
  simp only [returns_read, returns_attempt, returns_write, returns_pure]
  intro _ some
  refine ⟨same, ?_⟩
  simp only [FeeAccrual.claim, settled, ok_bind, some]
  rfl

end Returns

end InPlace

namespace FeeCall

/-- The staker on whose position a call works. -/
def staker : FeeCall → Option Address
  | .accrueDeposit _ _ _ => none
  | .addShares staker _ | .removeShares staker _ | .applySlash staker _ | .settle staker
  | .claim staker => some staker

/-- The function of a call and what it pays out. -/
def inPlace : FeeCall → InPlace Int
  | .accrueDeposit amount ledgerSeq timestamp => do
    let _ ← InPlace.accrueDeposit amount ledgerSeq timestamp
    pure 0
  | .addShares _ amount => do
    InPlace.addShares amount
    pure 0
  | .removeShares _ amount => do
    InPlace.removeShares amount
    pure 0
  | .applySlash _ amount => do
    let _ ← InPlace.applySlash amount
    pure 0
  | .settle _ => do
    let _ ← InPlace.settle
    pure 0
  | .claim _ => InPlace.claim

end FeeCall

namespace FeeLedger

variable (ledger : FeeLedger)

def cells (staker : Option Address) : FeeCells :=
  ⟨ledger.state, staker.elim .new ledger.position⟩

def store (staker : Option Address) (cells : FeeCells) : FeeLedger :=
  match staker with
  | some staker => ledger.withPosition cells.state staker cells.position
  | none => ⟨cells.state, ledger.positions⟩

end FeeLedger

/-- What a call wrote stays, also when it failed. -/
def accrualStep (call : FeeCall) (ledger : FeeLedger) : FeeLedger :=
  ledger.store call.staker (call.inPlace.run (ledger.cells call.staker)).2

/-- What a call pays out, nothing when it fails. -/
def FeeCall.claimed (call : FeeCall) (ledger : FeeLedger) : Int :=
  match (call.inPlace.run (ledger.cells call.staker)).1 with
  | .ok amount => amount
  | .error _ => 0

/-- Once a call has started to write more than a settlement, everything it computes fits. -/
def FeeCall.Fits (ledger : FeeLedger) (call : FeeCall) : Prop :=
  let cells := ledger.cells call.staker
  match call with
  | .accrueDeposit amount ledgerSeq timestamp => cells.Credits amount ledgerSeq timestamp →
    i128.Holds (cells.state.totalDeposited + amount) ∧
      i128.Holds (cells.state.totalDistributed + cells.distributed amount)
  | .addShares _ amount => 0 < amount.val →
    cells.Carries (cells.position.shares + amount) (cells.state.totalShares + amount)
  | .removeShares _ amount => 0 < amount.val → amount ≤ cells.position.shares →
    cells.Carries (cells.position.shares - amount) (cells.state.totalShares - amount)
  | .applySlash _ _ | .settle _ | .claim _ => True

section Steps

variable {ledger : FeeLedger} {claimed : Int}

open InPlace

/-- A call that returns has written and pays out what its function says. -/
theorem FeeCall.exec_of_returns (call : FeeCall) (ledger : FeeLedger) :
    Returns call.inPlace (fun paid after =>
      call.exec ledger = .ok (ledger.store call.staker after, paid)) (ledger.cells call.staker) := by
  cases call with
  | accrueDeposit amount ledgerSeq timestamp =>
    rw [inPlace, returns_bind]
    intro update deposited
    rw [returns_pure, exec]
    have gave := accrueDeposit_returns update deposited
    rw [FeeLedger.cells] at gave
    rw [gave]
    rfl
  | addShares staker amount =>
    rw [inPlace, returns_bind, InPlace.addShares, returns_attempt]
    intro _ pos _ changed
    obtain ⟨settled, newly, shares, totalShares, feeDebt, moved, grown, total, debt, written⟩ :=
      changeShares_returns _ changed
    have gave : FeeAccrual.addShares ledger.state (ledger.position staker) amount =
        .ok ({ ledger.state with totalShares }, { settled with shares, feeDebt }) := by
      change FeeAccrual.settle ledger.state (ledger.position staker) = _ at moved
      change add ledger.state.totalShares amount = _ at total
      change debtCheckpoint shares ledger.state.accFeePerShare = _ at debt
      simp only [FeeAccrual.addShares, pos, ok_bind, moved, grown, total, debt]
      rfl
    rw [returns_pure, written, exec, gave]
    rfl
  | removeShares staker amount =>
    rw [inPlace, returns_bind, InPlace.removeShares, returns_read, returns_attempt]
    intro _ pos
    rw [returns_attempt]
    intro _ enough _ changed
    obtain ⟨settled, newly, shares, totalShares, feeDebt, moved, shrunk, total, debt, written⟩ :=
      changeShares_returns _ changed
    have gave : FeeAccrual.removeShares ledger.state (ledger.position staker) amount =
        .ok ({ ledger.state with totalShares }, { settled with shares, feeDebt }) := by
      change FeeAccrual.settle ledger.state (ledger.position staker) = _ at moved
      change require (¬ (ledger.position staker).shares < amount) _ = _ at enough
      change sub ledger.state.totalShares amount = _ at total
      change debtCheckpoint shares ledger.state.accFeePerShare = _ at debt
      simp only [FeeAccrual.removeShares, pos, enough, ok_bind, moved, shrunk, total, debt]
      rfl
    rw [returns_pure, written, exec, gave]
    rfl
  | applySlash staker amount =>
    rw [inPlace, returns_bind, InPlace.applySlash, returns_read, returns_attempt]
    rintro ⟨state, position, outcome⟩ slashed
    simp only [returns_write, returns_pure]
    have gave : FeeAccrual.applySlash ledger.state (ledger.position staker) amount =
        .ok (state, position, outcome) := slashed
    rw [exec, gave]
    rfl
  | settle staker =>
    rw [inPlace, returns_bind]
    intro newly moved
    obtain ⟨same, settled⟩ := settle_returns newly moved
    have gave : FeeAccrual.settle ledger.state (ledger.position staker) =
        .ok (_, newly) := settled
    rw [returns_pure, exec, gave]
    exact congrArg (fun state => Except.ok (ledger.withPosition state staker _, (0 : Int)))
      same.symm
  | claim staker =>
    intro paid done
    obtain ⟨same, claimed⟩ := claim_returns paid done
    have gave : FeeAccrual.claim ledger.state (ledger.position staker) = .ok (_, paid) := claimed
    rw [exec, gave]
    exact congrArg (fun state => Except.ok (ledger.withPosition state staker _, paid)) same.symm

theorem settle_of_settles {cells : FeeCells} (settles : cells.Settles) : ∃ newly,
    FeeAccrual.settle cells.state cells.position = .ok (cells.settled.position, newly) := by
  obtain ⟨product, moves⟩ := settles
  have reached : accumulatedFor cells.position.shares cells.state.accFeePerShare =
      .ok cells.accumulated := by
    simp [accumulatedFor, mul, checkedMul, checked, product, orOverflow, FeeCells.accumulated]
  rw [FeeAccrual.settle, reached, ok_bind, FeeCells.settled]
  split
  next => exact ⟨0, rfl⟩
  next above =>
    obtain ⟨gained, realized⟩ := moves (not_le.mp above)
    refine ⟨cells.accumulated - cells.position.feeDebt, ?_⟩
    simp [sub, add, checkedSub, checkedAdd, checked, gained, realized, orOverflow, ok_bind]

/-- A call that fails has done nothing or settled the position. -/
def Halts {α : Type} (call : InPlace α) (cells : FeeCells) : Prop :=
  ∀ reason, (call.run cells).1 = .error reason →
    (call.run cells).2 = cells ∨ cells.Settles ∧ (call.run cells).2 = cells.settled

section Halts

variable {α : Type} {cells : FeeCells} {call : InPlace α}

theorem halts_of_spares (spares : Spares call cells) : Halts call cells :=
  fun reason failed => .inl (spares reason failed)

theorem halts_answer (halts : Halts call cells) (answer : Int) :
    Halts (call >>= fun _ => pure answer) cells := by
  have ran : (call >>= fun _ => (pure answer : InPlace Int)).run cells =
      ExceptT.bindCont (fun _ => (pure answer : InPlace Int)) (call.run cells).1
        (call.run cells).2 := rfl
  rw [Halts] at halts ⊢
  rw [ran]
  generalize call.run cells = result at halts ⊢
  obtain ⟨reason | value, after⟩ := result
  · exact fun _ _ => halts reason rfl
  · exact fun _ failed => nomatch failed

theorem halts_require {condition : Prop} [Decidable condition] {reason : FeeAccrualError}
    {next : Unit → InPlace α} (halts : condition → Halts (next ()) cells) :
    Halts (attempt (require condition reason) >>= next) cells := by
  by_cases holds : condition
  · rw [show require condition reason = .ok () from if_pos holds]
    exact halts holds
  · rw [show require condition reason = .error reason from if_neg holds]
    exact fun _ _ => .inl rfl

theorem halts_of_leaves (settling : cells.Settles → Leaves cells.settled call cells)
    (unsettled : ¬ cells.Settles → Leaves cells call cells) : Halts call cells := by
  intro reason failed
  by_cases settles : cells.Settles
  · exact .inr ⟨settles, settling settles reason failed⟩
  · exact .inl (unsettled settles reason failed)

theorem changeShares_halts {change : Int → Accrual Int} {shares totalShares : Int}
    (first : change cells.position.shares = orOverflow (i128.checked shares))
    (second : change cells.state.totalShares = orOverflow (i128.checked totalShares))
    (carries : cells.Carries shares totalShares) : Halts (changeShares change) cells := by
  have kept : cells.settled.position.shares = cells.position.shares ∧
      cells.settled.state = cells.state := by
    rw [FeeCells.settled]
    split <;> exact ⟨rfl, rfl⟩
  refine halts_of_leaves (fun settles => ?_) fun unsettled => ?_
  · rw [changeShares, leaves_settle fun _ => Iff.rfl]
    simp only [leaves_read, kept, first, second, leaves_checked, leaves_write, leaves_debt]
    have fits := carries settles
    tauto
  · rw [changeShares, leaves_settle fun _ => Iff.rfl]
    exact ⟨fun settles => absurd settles unsettled, fun _ => rfl⟩

theorem claim_halts : Halts InPlace.claim cells := by
  refine halts_of_leaves (fun settles => ?_) fun unsettled => ?_
  · rw [InPlace.claim, leaves_settle fun _ => Iff.rfl]
    simp only [leaves_read, leaves_require, leaves_write, leaves_pure]
    tauto
  · rw [InPlace.claim, leaves_settle fun _ => Iff.rfl]
    exact ⟨fun settles => absurd settles unsettled, fun _ => rfl⟩

end Halts

/-- A call that fails although it fits has at most settled. -/
theorem FeeCall.halts {call : FeeCall} (fits : call.Fits ledger) :
    Halts call.inPlace (ledger.cells call.staker) := by
  cases call with
  | accrueDeposit => exact halts_answer (halts_of_spares (accrueDeposit_spares.mpr fits)) 0
  | addShares =>
    refine halts_answer (halts_require fun pos => ?_) 0
    exact changeShares_halts rfl rfl (fits (not_le.mp pos))
  | removeShares =>
    refine halts_answer (halts_require fun pos => halts_require fun enough => ?_) 0
    exact changeShares_halts rfl rfl (fits (not_le.mp pos) (not_lt.mp enough))
  | applySlash staker amount => exact halts_answer (halts_of_spares (applySlash_spares _)) 0
  | settle => exact halts_answer (halts_of_spares (failures_spare _ 0 0 0).2.2.2.2.1) 0
  | claim => exact claim_halts

theorem Sound.restored (sound : Sound ledger claimed) (staker : Option Address) :
    Sound (ledger.store staker (ledger.cells staker)) claimed := by
  cases staker with
  | none => exact sound
  | some staker =>
    have written : Sound (ledger.store (some staker) (ledger.cells (some staker))) (claimed + 0) :=
      sound.withPosition ledger.state.totalShares 0 (ledger.position staker)
        (sound.position_nonneg staker) (by omega) (by omega)
    rw [add_zero] at written
    exact written

theorem Sound.halted (sound : Sound ledger claimed) {staker : Option Address}
    (settles : (ledger.cells staker).Settles) :
    Sound (ledger.store staker (ledger.cells staker).settled) claimed := by
  have kept : (ledger.cells staker).settled.state = ledger.state := by
    rw [FeeCells.settled]
    split <;> rfl
  obtain ⟨newly, settled⟩ := settle_of_settles settles
  cases staker with
  | none =>
    rw [FeeLedger.store, kept]
    exact sound
  | some staker =>
    rw [FeeLedger.store, kept]
    exact sound.settled settled

end Steps

section Law

/-- The accounts of a fee ledger after the calls taken: what was claimed, what could be
claimed and the carry are covered by the deposits, the deposits are distributed or
carried, the dust is less than a unit, the shares add up, and a slash takes nothing that
was earned. -/
structure FeeAccounts (past : List (Transition FeeLedger FeeCall)) (reached : FeeLedger) :
    Prop where
  solvent : (past.map fun taken => taken.input.claimed taken.pre).sum +
      Table.sum (fun _ position => pendingAmount reached.state.accFeePerShare position)
        reached.positions + reached.state.carry ≤ reached.state.totalDeposited
  deposits : reached.state.totalDeposited = reached.state.totalDistributed + reached.state.carry
  dust : 0 ≤ reached.state.dustScaled ∧ reached.state.dustScaled < accPrecision
  shares : Table.sum (fun _ position => position.shares) reached.positions =
    reached.state.totalShares
  pending : ∀ staker amount, pending reached.state (reached.position staker) = .ok amount →
    amount = pendingAmount reached.state.accFeePerShare (reached.position staker)
  slash : ∀ (staker : Address) (amount : Amount) next after outcome,
    applySlash reached.state (reached.position staker) amount = .ok (next, after, outcome) →
      pendingAmount next.accFeePerShare after =
          pendingAmount reached.state.accFeePerShare (reached.position staker) ∧
        ∀ other, pendingAmount next.accFeePerShare (reached.position other) =
          pendingAmount reached.state.accFeePerShare (reached.position other)

theorem Sound.accounts {past : List (Transition FeeLedger FeeCall)} {reached : FeeLedger}
    (sound : Sound reached (past.map fun taken => taken.input.claimed taken.pre).sum) :
    FeeAccounts past reached := by
  refine ⟨?_, sound.deposits, sound.dust, sound.shares, fun staker amount gave => ?_,
    fun staker amount next after outcome gave => ?_⟩
  · have solvent := sound.solvent
    have dust := sound.dust.1
    have covered : accPrecision *
        Table.sum (fun _ position => pendingAmount reached.state.accFeePerShare position)
          reached.positions ≤
        Table.sum (fun _ position => held reached.state.accFeePerShare position)
          reached.positions := by
      rw [← sum_mul_left]
      exact sum_le_sum fun _ position _ => pendingAmount_le_held _ position
    apply Int.le_of_mul_le_mul_left _ accPrecision_pos
    rw [mul_add, mul_add]
    omega
  · exact pending_ok (sound.accumulated_nonneg staker) gave
  · obtain ⟨same, kept⟩ := applySlash_keeps (sound.position_nonneg staker) sound.fee gave
    exact ⟨kept, fun other => by rw [same]⟩

theorem sound_new : Sound .new 0 := by
  refine ⟨le_refl 0, rfl, fun _ _ hit => ?_, rfl, le_refl 0, ⟨le_refl 0, accPrecision_pos⟩, ?_⟩
  · cases hit
  · decide

theorem Sound.step {ledger : FeeLedger} {claimed : Int} (sound : Sound ledger claimed)
    (call : FeeCall) (fits : call.Fits ledger) :
    Sound (accrualStep call ledger) (claimed + call.claimed ledger) := by
  cases result : (call.inPlace.run (ledger.cells call.staker)).1 with
  | ok paid =>
    simp only [FeeCall.claimed, result]
    exact sound.exec call (call.exec_of_returns ledger paid result)
  | error reason =>
    simp only [FeeCall.claimed, result, add_zero]
    rcases FeeCall.halts fits reason result with same | ⟨settles, moved⟩
    · rw [accrualStep, same]
      exact sound.restored call.staker
    · rw [accrualStep, moved]
      exact sound.halted settles

/-- Along every run of calls for any stakers that fit, the fee ledger keeps its accounts. -/
theorem fee_accrual_solvent (calls : List FeeCall)
    (fits : ∀ taken ∈ trace accrualStep .new calls, taken.input.Fits taken.pre) :
    FeeAccounts (trace accrualStep .new calls) (final accrualStep .new calls) := by
  apply Sound.accounts
  apply history_invariant accrualStep
    (fun past reached =>
      Sound reached (past.map fun taken => taken.input.claimed taken.pre).sum)
    (fun ledger call => call.Fits ledger)
  · intro past ledger call fits sound
    simpa using sound.step call fits
  · exact sound_new
  · exact fits

/-- A slash of one staker between a deposit and a claim of another. -/
def slashedRun : List FeeCall :=
  [.addShares 1 (amountOf 7), .addShares 2 (amountOf 3), .accrueDeposit (amountOf 10) 1 1,
    .applySlash 2 (amountOf 3), .claim 1]

/-- That run keeps its accounts. -/
theorem slashedRun_solvent :
    FeeAccounts (trace accrualStep .new slashedRun) (final accrualStep .new slashedRun) := by
  refine fee_accrual_solvent slashedRun fun taken inside => ?_
  simp only [slashedRun, trace, List.mem_cons, List.not_mem_nil, or_false] at inside
  rcases inside with rfl | rfl | rfl | rfl | rfl
  · exact fun _ _ _ => ⟨by decide, by decide, by decide⟩
  · exact fun _ _ _ => ⟨by decide, by decide, by decide⟩
  · exact fun _ => by decide
  · trivial
  · trivial

/-- A share is added to a second staker when the first one holds all that fit: it is written and
not counted. -/
theorem uncounted_share_breaks :
    ¬ ∀ calls, FeeAccounts (trace accrualStep .new calls) (final accrualStep .new calls) := by
  intro every
  have accounts := every [.addShares 1 ⟨i128.high, by decide⟩, .addShares 2 ⟨1, by decide⟩]
  exact absurd accounts.shares (by decide)

end Law

end StellarSwipe.StakeVault.FeeAccrual
