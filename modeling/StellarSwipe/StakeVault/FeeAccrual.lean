import StellarSwipe.Library.Accumulator
import StellarSwipe.Host

/-!
# Fee accrual

A deposit raises the fee per share, scaled by `accPrecision`, and keeps what the division leaves
over: whole units in `carry`, the rest in `dustScaled`.
-/

namespace StellarSwipe.StakeVault.FeeAccrual

open FixedWidth

def accPrecision : Int := 1000000000000

inductive FeeAccrualError where
  | invalidAmount
  | nonMonotonicLedger
  | overflow
  | insufficientShares
  | nothingToClaim

/-- The accumulator of a vault. -/
structure FeeAccrualState where
  accFeePerShare : Int
  totalShares : Int
  carry : Int
  dustScaled : Int
  totalDeposited : Int
  totalDistributed : Int
  lastLedgerSeq : Nat
  lastTimestamp : Nat
  epoch : Nat
deriving DecidableEq

def FeeAccrualState.new : FeeAccrualState := ⟨0, 0, 0, 0, 0, 0, 0, 0, 0⟩

/-- A staker's shares, the debt of its last settlement and what it has not claimed. -/
structure StakerFeePosition where
  shares : Int
  feeDebt : Int
  realized : Int
deriving DecidableEq

def StakerFeePosition.new : StakerFeePosition := ⟨0, 0, 0⟩

/-- Summary of one deposit. -/
structure AccrualUpdate where
  epoch : Nat
  deposited : Int
  distributed : Int
  perShareDelta : Int
  carry : Int
  accFeePerShare : Int
  totalShares : Int
  ledgerSeq : Nat
  timestamp : Nat

/-- Outcome of a slash. -/
structure SlashSettlement where
  settled : Int
  slashedShares : Int
  sharesBefore : Int
  sharesAfter : Int
  realized : Int
  totalShares : Int

abbrev Accrual := Except FeeAccrualError

def orOverflow : Option Int → Accrual Int
  | some value => .ok value
  | none => .error .overflow

def add (left right : Int) : Accrual Int := orOverflow (i128.checkedAdd left right)

def sub (left right : Int) : Accrual Int := orOverflow (i128.checkedSub left right)

def mul (left right : Int) : Accrual Int := orOverflow (i128.checkedMul left right)

def require (condition : Prop) [Decidable condition] (reason : FeeAccrualError) : Accrual Unit :=
  if condition then .ok () else .error reason

/-- What shares have accumulated, rounded down. -/
def accumulatedFor (shares accFeePerShare : Int) : Accrual Int := do
  let scaled ← mul shares accFeePerShare
  pure (scaled.tdiv accPrecision)

/-- The debt after a change of shares, rounded up. -/
def debtCheckpoint (shares accFeePerShare : Int) : Accrual Int := do
  let scaled ← mul shares accFeePerShare
  if scaled.tmod accPrecision = 0 then pure (scaled.tdiv accPrecision)
  else add (scaled.tdiv accPrecision) 1

/-- What a deposit adds to the fee per share and what it leaves over, scaled. -/
def shareOut (poolScaled totalShares : Int) : Accrual (Int × Int) :=
  if totalShares = 0 then pure (0, poolScaled)
  else do
    let delta := poolScaled.tdiv totalShares
    let credited ← mul delta totalShares
    let remainder ← sub poolScaled credited
    pure (delta, remainder)

variable (state : FeeAccrualState)

/-- Credit fee income to the accumulator. -/
def accrueDeposit (amount : Int) (ledgerSeq timestamp : Nat) :
    Accrual (FeeAccrualState × AccrualUpdate) := do
  require (¬ amount ≤ 0) .invalidAmount
  require (¬ (ledgerSeq < state.lastLedgerSeq ∨ timestamp < state.lastTimestamp))
    .nonMonotonicLedger
  let pool ← add amount state.carry
  let poolScaled ← add (← mul pool accPrecision) state.dustScaled
  let (perShareDelta, remainderScaled) ← shareOut poolScaled state.totalShares
  let carry := remainderScaled.tdiv accPrecision
  let distributed ← sub pool carry
  let accFeePerShare ← add state.accFeePerShare perShareDelta
  let totalDeposited ← add state.totalDeposited amount
  let totalDistributed ← add state.totalDistributed distributed
  let epoch := satCount u64Max state.epoch 1
  let next : FeeAccrualState :=
    { accFeePerShare
      totalShares := state.totalShares
      carry
      dustScaled := remainderScaled.tmod accPrecision
      totalDeposited
      totalDistributed
      lastLedgerSeq := ledgerSeq
      lastTimestamp := timestamp
      epoch }
  pure (next,
    { epoch
      deposited := amount
      distributed
      perShareDelta
      carry
      accFeePerShare
      totalShares := state.totalShares
      ledgerSeq
      timestamp })

/-- Move what a position has accumulated over its debt into what it may claim. A debt
that was rounded up above it is not lowered. -/
def settle (position : StakerFeePosition) : Accrual (StakerFeePosition × Int) := do
  let accumulated ← accumulatedFor position.shares state.accFeePerShare
  if accumulated ≤ position.feeDebt then pure (position, 0)
  else do
    let newly ← sub accumulated position.feeDebt
    let realized ← add position.realized newly
    pure ({ position with realized, feeDebt := accumulated }, newly)

def addShares (position : StakerFeePosition) (amount : Int) :
    Accrual (FeeAccrualState × StakerFeePosition) := do
  require (¬ amount ≤ 0) .invalidAmount
  let (settled, _) ← settle state position
  let shares ← add settled.shares amount
  let totalShares ← add state.totalShares amount
  let feeDebt ← debtCheckpoint shares state.accFeePerShare
  pure ({ state with totalShares },
    { settled with shares, feeDebt })

def removeShares (position : StakerFeePosition) (amount : Int) :
    Accrual (FeeAccrualState × StakerFeePosition) := do
  require (¬ amount ≤ 0) .invalidAmount
  require (¬ position.shares < amount) .insufficientShares
  let (settled, _) ← settle state position
  let shares ← sub settled.shares amount
  let totalShares ← sub state.totalShares amount
  let feeDebt ← debtCheckpoint shares state.accFeePerShare
  pure ({ state with totalShares },
    { settled with shares, feeDebt })

def applySlash (position : StakerFeePosition) (amount : Int) :
    Accrual (FeeAccrualState × StakerFeePosition × SlashSettlement) := do
  require (¬ amount ≤ 0) .invalidAmount
  require (¬ position.shares ≤ 0) .insufficientShares
  let slashed := if position.shares < amount then position.shares else amount
  let (settled, newly) ← settle state position
  let shares ← sub settled.shares slashed
  let totalShares ← sub state.totalShares slashed
  let feeDebt ← debtCheckpoint shares state.accFeePerShare
  pure ({ state with totalShares },
    { settled with shares, feeDebt },
    { settled := newly
      slashedShares := slashed
      sharesBefore := position.shares
      sharesAfter := shares
      realized := settled.realized
      totalShares })

def claim (position : StakerFeePosition) : Accrual (StakerFeePosition × Int) := do
  let (settled, _) ← settle state position
  require (¬ settled.realized ≤ 0) .nothingToClaim
  pure ({ settled with realized := 0 }, settled.realized)

/-- What a position could claim now. -/
def pending (position : StakerFeePosition) : Accrual Int := do
  let accumulated ← accumulatedFor position.shares state.accFeePerShare
  let unsettled ← sub accumulated position.feeDebt
  add position.realized (if unsettled < 0 then 0 else unsettled)

/-- One call on the accumulator, for the positions of any stakers. -/
inductive FeeCall where
  | accrueDeposit (amount : Amount) (ledgerSeq timestamp : Nat)
  | addShares (staker : Address) (amount : Amount)
  | removeShares (staker : Address) (amount : Amount)
  | applySlash (staker : Address) (amount : Amount)
  | settle (staker : Address)
  | claim (staker : Address)

/-- The accumulator and the positions that share it. -/
structure FeeLedger where
  state : FeeAccrualState
  positions : Table Address StakerFeePosition

namespace FeeLedger

def new : FeeLedger := ⟨.new, ∅⟩

variable (ledger : FeeLedger)

def position (staker : Address) : StakerFeePosition :=
  (ledger.positions.lookup staker).getD .new

def withPosition (state : FeeAccrualState) (staker : Address) (position : StakerFeePosition) :
    FeeLedger :=
  ⟨state, ledger.positions.insert staker position⟩

end FeeLedger

/-- What a call that returns has written and what it pays out. -/
def FeeCall.exec (ledger : FeeLedger) : FeeCall → Accrual (FeeLedger × Int)
  | .accrueDeposit amount ledgerSeq timestamp => do
    let (state, _) ← FeeAccrual.accrueDeposit ledger.state amount ledgerSeq timestamp
    pure (⟨state, ledger.positions⟩, 0)
  | .addShares staker amount => do
    let (state, position) ← FeeAccrual.addShares ledger.state (ledger.position staker) amount
    pure (ledger.withPosition state staker position, 0)
  | .removeShares staker amount => do
    let (state, position) ← FeeAccrual.removeShares ledger.state (ledger.position staker) amount
    pure (ledger.withPosition state staker position, 0)
  | .applySlash staker amount => do
    let (state, position, _) ← FeeAccrual.applySlash ledger.state (ledger.position staker) amount
    pure (ledger.withPosition state staker position, 0)
  | .settle staker => do
    let (position, _) ← FeeAccrual.settle ledger.state (ledger.position staker)
    pure (ledger.withPosition ledger.state staker position, 0)
  | .claim staker => do
    let (position, claimed) ← FeeAccrual.claim ledger.state (ledger.position staker)
    pure (ledger.withPosition ledger.state staker position, claimed)

end StellarSwipe.StakeVault.FeeAccrual
