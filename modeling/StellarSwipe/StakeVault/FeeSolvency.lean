import StellarSwipe.StakeVault.FeeAccrual

/-!
# Solvency of fee accrual

In scaled units, what was claimed, what positions hold, the carry and the dust never exceed what
was deposited.
-/

namespace StellarSwipe.StakeVault.FeeAccrual

open FixedWidth Accumulator Table Range

/-- What a position could claim at the fee per share. -/
def pendingAmount (accFeePerShare : Int) (position : StakerFeePosition) : Int :=
  position.realized + max 0 (position.shares * accFeePerShare / accPrecision - position.feeDebt)

/-- What a position holds in scaled units: what it may claim and what it is owed. -/
def held (accFeePerShare : Int) (position : StakerFeePosition) : Int :=
  accPrecision * position.realized +
    owed accPrecision accFeePerShare position.shares position.feeDebt

theorem accPrecision_pos : 0 < accPrecision := by decide

theorem pendingAmount_le_held (accFeePerShare : Int) (position : StakerFeePosition) :
    accPrecision * pendingAmount accFeePerShare position ≤ held accFeePerShare position := by
  have credited : accPrecision *
      max 0 (position.shares * accFeePerShare / accPrecision - position.feeDebt) ≤
        owed accPrecision accFeePerShare position.shares position.feeDebt :=
    credited_le_owed accPrecision_pos
  rw [pendingAmount, held, mul_add]
  omega

section Arithmetic

variable {left right value : Int}

theorem orOverflow_ok {amount : Option Int} (gave : orOverflow amount = .ok value) :
    amount = some value := by
  cases amount with
  | none => cases gave
  | some has =>
    cases gave
    rfl

theorem add_ok (gave : add left right = .ok value) : value = left + right := by
  have checked := orOverflow_ok gave
  rw [checkedAdd, checked_eq_some] at checked
  exact checked.2.symm

theorem sub_ok (gave : sub left right = .ok value) : value = left - right := by
  have checked := orOverflow_ok gave
  rw [checkedSub, checked_eq_some] at checked
  exact checked.2.symm

theorem mul_ok (gave : mul left right = .ok value) : value = left * right := by
  have checked := orOverflow_ok gave
  rw [checkedMul, checked_eq_some] at checked
  exact checked.2.symm

theorem require_ok {condition : Prop} [Decidable condition] {reason : FeeAccrualError}
    (gave : require condition reason = .ok ()) : condition := by
  by_cases holds : condition
  · exact holds
  · rw [require, if_neg holds] at gave
    cases gave

end Arithmetic

section Positions

variable {state next : FeeAccrualState} {position after : StakerFeePosition}

theorem accumulatedFor_ok {shares accFeePerShare accumulated : Int}
    (nonneg : 0 ≤ shares * accFeePerShare)
    (gave : accumulatedFor shares accFeePerShare = .ok accumulated) :
    accumulated = shares * accFeePerShare / accPrecision := by
  obtain ⟨scaled, product, rest⟩ := bind_ok gave
  cases rest
  rw [mul_ok product]
  exact tdiv_eq_floor nonneg

theorem debtCheckpoint_covers {shares accFeePerShare debt : Int}
    (nonneg : 0 ≤ shares * accFeePerShare)
    (gave : debtCheckpoint shares accFeePerShare = .ok debt) :
    shares * accFeePerShare ≤ accPrecision * debt := by
  obtain ⟨scaled, product, rest⟩ := bind_ok gave
  cases mul_ok product
  rw [tdiv_eq_floor nonneg, tmod_eq_emod nonneg] at rest
  have division := Int.mul_ediv_add_emod (shares * accFeePerShare) accPrecision
  have below := Int.emod_lt_of_pos (shares * accFeePerShare) accPrecision_pos
  split at rest
  next exact =>
    cases rest
    omega
  · rw [add_ok rest, mul_add]
    omega

/-- What settling does: the position holds as much as before, all that it could claim is
realized, and its debt is no less than what it has accumulated. -/
structure Settled (accFeePerShare : Int) (pre after : StakerFeePosition) : Prop where
  shares : after.shares = pre.shares
  held : held accFeePerShare after = held accFeePerShare pre
  realized : after.realized = pendingAmount accFeePerShare pre
  covered : after.shares * accFeePerShare / accPrecision ≤ after.feeDebt

theorem settle_ok (nonneg : 0 ≤ position.shares * state.accFeePerShare) {newly : Int}
    (gave : settle state position = .ok (after, newly)) :
    Settled state.accFeePerShare position after ∧ after.realized = position.realized + newly := by
  obtain ⟨accumulated, reached, rest⟩ := bind_ok gave
  cases accumulatedFor_ok nonneg reached
  split at rest
  next covered =>
    cases rest
    refine ⟨⟨rfl, rfl, ?_, covered⟩, by omega⟩
    rw [pendingAmount]
    omega
  next uncovered =>
    obtain ⟨gained, difference, continued⟩ := bind_ok rest
    obtain ⟨realized, sum, finished⟩ := bind_ok continued
    cases finished
    cases sub_ok difference
    cases add_ok sum
    have above : position.feeDebt < position.shares * state.accFeePerShare / accPrecision := by omega
    refine ⟨⟨rfl, ?_, ?_, le_refl _⟩, rfl⟩
    · rw [held, held, owed_credited accPrecision_pos above, mul_add]
      omega
    · rw [pendingAmount, max_eq_right (by omega)]

/-- A position settled and given other shares with a rounded debt. -/
structure Reshared (accFeePerShare : Int) (pre after : StakerFeePosition) : Prop where
  held : held accFeePerShare after ≤ held accFeePerShare pre
  pending : pendingAmount accFeePerShare after = pendingAmount accFeePerShare pre

theorem reshared_of_settled {accFeePerShare shares debt : Int}
    (settled : Settled accFeePerShare position after) (nonneg : 0 ≤ shares * accFeePerShare)
    (gave : debtCheckpoint shares accFeePerShare = .ok debt) :
    Reshared accFeePerShare position { after with shares, feeDebt := debt } := by
  have covers := debtCheckpoint_covers nonneg gave
  constructor
  · rw [← settled.held, held, held, owed_covered covers]
    have more := owed_nonneg accPrecision accFeePerShare after.shares after.feeDebt
    simp only
    omega
  · have within : shares * accFeePerShare / accPrecision ≤ debt := by
      have bounds := (credited_bounds accPrecision_pos (shares * accFeePerShare)).1
      exact le_of_mul_le_mul_left (bounds.trans covers) accPrecision_pos
    rw [← settled.realized, pendingAmount]
    simp only
    omega

end Positions

section Calls

variable {ledger after : FeeLedger} {claimed : Int}

/-- The ledger is solvent when the amounts claimed from it so far are covered. -/
structure Sound (ledger : FeeLedger) (claimed : Int) : Prop where
  fee : 0 ≤ ledger.state.accFeePerShare
  shares : Table.sum (fun _ position => position.shares) ledger.positions =
    ledger.state.totalShares
  nonneg : ∀ staker position, ledger.positions.lookup staker = some position → 0 ≤ position.shares
  deposits : ledger.state.totalDeposited = ledger.state.totalDistributed + ledger.state.carry
  carry : 0 ≤ ledger.state.carry
  dust : 0 ≤ ledger.state.dustScaled ∧ ledger.state.dustScaled < accPrecision
  solvent : accPrecision * claimed +
      Table.sum (fun _ position => held ledger.state.accFeePerShare position) ledger.positions +
      accPrecision * ledger.state.carry + ledger.state.dustScaled ≤
    accPrecision * ledger.state.totalDeposited

theorem contribution_position {weight : StakerFeePosition → Int} (zero : weight .new = 0)
    (ledger : FeeLedger) (staker : Address) :
    Table.contribution (fun _ position => weight position) ledger.positions staker =
      weight (ledger.position staker) := by
  rw [FeeLedger.position]
  cases hit : ledger.positions.lookup staker with
  | none => rw [contribution_of_none hit, Option.getD_none, zero]
  | some position => rw [contribution_of_some hit, Option.getD_some]

theorem sum_withPosition (weight : StakerFeePosition → Int) (zero : weight .new = 0)
    (ledger : FeeLedger) (state : FeeAccrualState) (staker : Address)
    (position : StakerFeePosition) : Table.sum (fun _ position => weight position)
        (ledger.withPosition state staker position).positions =
      Table.sum (fun _ position => weight position) ledger.positions -
        weight (ledger.position staker) + weight position := by
  rw [FeeLedger.withPosition, sum_insert, contribution_position zero]

theorem held_new (accFeePerShare : Int) : held accFeePerShare .new = 0 := by
  simp [held, owed, StakerFeePosition.new]

theorem Sound.position_nonneg (sound : Sound ledger claimed) (staker : Address) :
    0 ≤ (ledger.position staker).shares := by
  rw [FeeLedger.position]
  cases hit : ledger.positions.lookup staker with
  | none => exact le_refl 0
  | some position => exact sound.nonneg staker position hit

theorem Sound.total_nonneg (sound : Sound ledger claimed) : 0 ≤ ledger.state.totalShares :=
  sound.shares ▸ sum_nonneg sound.nonneg

theorem Sound.accumulated_nonneg (sound : Sound ledger claimed) (staker : Address) :
    0 ≤ (ledger.position staker).shares * ledger.state.accFeePerShare :=
  mul_nonneg (sound.position_nonneg staker) sound.fee

variable {staker : Address}

/-- A call on one position keeps the ledger solvent when the position and what the call
pays out hold no more than the position did. -/
theorem Sound.withPosition (sound : Sound ledger claimed)
    (totalShares paid : Int) (position : StakerFeePosition) (nonneg : 0 ≤ position.shares)
    (total : totalShares = ledger.state.totalShares - (ledger.position staker).shares +
      position.shares) (kept : accPrecision * paid + held ledger.state.accFeePerShare position ≤
      held ledger.state.accFeePerShare (ledger.position staker)) :
    Sound (ledger.withPosition { ledger.state with totalShares } staker position)
      (claimed + paid) := by
  have solvent := sound.solvent
  have shares := sound.shares
  refine ⟨sound.fee, ?_, ?_, sound.deposits, sound.carry, sound.dust, ?_⟩
  · rw [sum_withPosition StakerFeePosition.shares rfl, shares]
    exact total.symm
  · intro other has hit
    simp only [FeeLedger.withPosition, lookup_insert] at hit
    split at hit
    · cases hit
      exact nonneg
    · exact sound.nonneg other has hit
  · rw [sum_withPosition (held _) (held_new _), mul_add]
    simp only [FeeLedger.withPosition]
    omega

theorem shareOut_ok {poolScaled totalShares delta remainder : Int} (pool : 0 ≤ poolScaled)
    (total : 0 ≤ totalShares) (gave : shareOut poolScaled totalShares = .ok (delta, remainder)) :
    0 ≤ delta ∧ 0 ≤ remainder ∧ totalShares * delta + remainder = poolScaled := by
  rw [shareOut] at gave
  split at gave
  next none =>
    cases gave
    exact ⟨le_refl 0, pool, by rw [mul_zero, zero_add]⟩
  next some =>
    obtain ⟨credited, product, rest⟩ := bind_ok gave
    obtain ⟨left, difference, finished⟩ := bind_ok rest
    cases finished
    cases mul_ok product
    cases sub_ok difference
    have division := Int.mul_ediv_add_emod poolScaled totalShares
    have leftover := Int.emod_nonneg poolScaled some
    rw [tdiv_eq_floor pool]
    refine ⟨Int.ediv_nonneg pool total, ?_, ?_⟩
    · rw [mul_comm]
      omega
    · rw [mul_comm (poolScaled / totalShares)]
      omega

/-- Raising the fee per share raises what all positions hold by at most the increment
for each share. -/
theorem held_raise_le (sound : Sound ledger claimed) {delta : Int} (forward : 0 ≤ delta) :
    Table.sum (fun _ position => held (ledger.state.accFeePerShare + delta) position)
        ledger.positions ≤
      Table.sum (fun _ position => held ledger.state.accFeePerShare position) ledger.positions +
        ledger.state.totalShares * delta := by
  rw [← sound.shares, mul_comm _ delta, ← sum_mul_left, ← sum_add]
  apply sum_le_sum
  intro staker position hit
  have raised : owed accPrecision (ledger.state.accFeePerShare + delta) position.shares
      position.feeDebt ≤ owed accPrecision ledger.state.accFeePerShare position.shares
        position.feeDebt + position.shares * delta :=
    owed_raise_le (sound.nonneg staker position hit) forward
  rw [held, held, mul_comm delta]
  omega

theorem Sound.deposited (sound : Sound ledger claimed) {amount : Int} {ledgerSeq timestamp : Nat}
    {state : FeeAccrualState} {update : AccrualUpdate}
    (gave : accrueDeposit ledger.state amount ledgerSeq timestamp = .ok (state, update)) :
    Sound ⟨state, ledger.positions⟩ claimed := by
  obtain ⟨⟨⟩, pos, continued⟩ := bind_ok gave
  obtain ⟨⟨⟩, _, continued⟩ := bind_ok continued
  obtain ⟨pool, pooled, continued⟩ := bind_ok continued
  obtain ⟨scaled, product, continued⟩ := bind_ok continued
  obtain ⟨poolScaled, dusted, continued⟩ := bind_ok continued
  obtain ⟨⟨delta, remainder⟩, shared, continued⟩ := bind_ok continued
  obtain ⟨distributed, difference, continued⟩ := bind_ok continued
  obtain ⟨accFeePerShare, raised, continued⟩ := bind_ok continued
  obtain ⟨totalDeposited, deposited, continued⟩ := bind_ok continued
  obtain ⟨totalDistributed, credited, continued⟩ := bind_ok continued
  cases continued
  have amountPositive := require_ok pos
  cases add_ok pooled
  cases mul_ok product
  cases add_ok dusted
  cases sub_ok difference
  cases add_ok raised
  cases add_ok deposited
  cases add_ok credited
  have carryNonneg := sound.carry
  obtain ⟨dustNonneg, _⟩ := sound.dust
  have poolNonneg : 0 ≤ (amount + ledger.state.carry) * accPrecision + ledger.state.dustScaled :=
    add_nonneg (mul_nonneg (by omega) accPrecision_pos.le) dustNonneg
  obtain ⟨forward, leftover, whole⟩ := shareOut_ok poolNonneg sound.total_nonneg shared
  have division := Int.mul_ediv_add_emod remainder accPrecision
  have solvent := sound.solvent
  have deposits := sound.deposits
  have heldMore := held_raise_le sound forward
  have fee := sound.fee
  refine ⟨?_, sound.shares, sound.nonneg, ?_, ?_, ?_, ?_⟩
  · exact add_nonneg fee forward
  · simp only
    omega
  · simp only [tdiv_eq_floor leftover]
    exact Int.ediv_nonneg leftover accPrecision_pos.le
  · simp only [tmod_eq_emod leftover]
    exact ⟨Int.emod_nonneg remainder accPrecision_pos.ne', Int.emod_lt_of_pos _ accPrecision_pos⟩
  · simp only [tdiv_eq_floor leftover, tmod_eq_emod leftover, mul_add]
    rw [add_mul, mul_comm amount, mul_comm ledger.state.carry] at whole
    omega

theorem Sound.settled (sound : Sound ledger claimed) {staker : Address} {newly : Int}
    {position : StakerFeePosition}
    (gave : settle ledger.state (ledger.position staker) = .ok (position, newly)) :
    Sound (ledger.withPosition ledger.state staker position) claimed := by
  obtain ⟨settled, _⟩ := settle_ok (sound.accumulated_nonneg staker) gave
  have total : ledger.state.totalShares = ledger.state.totalShares -
      (ledger.position staker).shares + position.shares := by
    rw [settled.shares]
    omega
  have kept := sound.withPosition ledger.state.totalShares 0 position
    (settled.shares ▸ sound.position_nonneg staker) total (by rw [settled.held]; omega)
  rw [add_zero] at kept
  exact kept

theorem Sound.reshared (sound : Sound ledger claimed) {newly : Int}
    {settled : StakerFeePosition} {shares totalShares debt : Int}
    (gave : settle ledger.state (ledger.position staker) = .ok (settled, newly))
    (checkpoint : debtCheckpoint shares ledger.state.accFeePerShare = .ok debt)
    (nonneg : 0 ≤ shares)
    (total : totalShares = ledger.state.totalShares - settled.shares + shares) :
    Sound (ledger.withPosition { ledger.state with totalShares } staker
      { settled with shares, feeDebt := debt }) claimed := by
  obtain ⟨known, _⟩ := settle_ok (sound.accumulated_nonneg staker) gave
  obtain ⟨kept, _⟩ := reshared_of_settled known (mul_nonneg nonneg sound.fee) checkpoint
  rw [known.shares] at total
  have written := sound.withPosition totalShares 0
    { settled with shares, feeDebt := debt } nonneg total (by omega)
  rw [add_zero] at written
  exact written

theorem Sound.paid (sound : Sound ledger claimed) {paid : Int} {position : StakerFeePosition}
    (gave : claim ledger.state (ledger.position staker) = .ok (position, paid)) :
    Sound (ledger.withPosition ledger.state staker position) (claimed + paid) := by
  obtain ⟨⟨settled, newly⟩, first, continued⟩ := bind_ok gave
  obtain ⟨⟨⟩, _, finished⟩ := bind_ok continued
  cases finished
  obtain ⟨known, _⟩ := settle_ok (sound.accumulated_nonneg staker) first
  have total : ledger.state.totalShares = ledger.state.totalShares -
      (ledger.position staker).shares + settled.shares := by
    rw [known.shares]
    omega
  refine sound.withPosition ledger.state.totalShares _ { settled with realized := 0 }
    (known.shares ▸ sound.position_nonneg staker) total ?_
  have same := known.held
  rw [held] at same
  rw [held]
  simp only
  omega

theorem Sound.exec (sound : Sound ledger claimed) (call : FeeCall) {paid : Int}
    (gave : call.exec ledger = .ok (after, paid)) : Sound after (claimed + paid) := by
  cases call with
  | accrueDeposit amount ledgerSeq timestamp =>
    obtain ⟨⟨state, update⟩, deposited, finished⟩ := bind_ok gave
    cases finished
    rw [add_zero]
    exact sound.deposited deposited
  | addShares staker amount =>
    obtain ⟨⟨state, position⟩, added, finished⟩ := bind_ok gave
    cases finished
    obtain ⟨⟨⟩, pos, continued⟩ := bind_ok added
    obtain ⟨⟨settled, newly⟩, first, continued⟩ := bind_ok continued
    obtain ⟨shares, sum, continued⟩ := bind_ok continued
    obtain ⟨totalShares, total, continued⟩ := bind_ok continued
    obtain ⟨debt, checkpoint, continued⟩ := bind_ok continued
    cases continued
    obtain ⟨known, _⟩ := settle_ok (sound.accumulated_nonneg staker) first
    have nonneg := sound.position_nonneg staker
    have pre := known.shares
    have amountPositive := require_ok pos
    have grown := add_ok sum
    have totalGrown := add_ok total
    rw [add_zero]
    exact sound.reshared first checkpoint (by omega) (by omega)
  | removeShares staker amount =>
    obtain ⟨⟨state, position⟩, removed, finished⟩ := bind_ok gave
    cases finished
    obtain ⟨⟨⟩, pos, continued⟩ := bind_ok removed
    obtain ⟨⟨⟩, covered, continued⟩ := bind_ok continued
    obtain ⟨⟨settled, newly⟩, first, continued⟩ := bind_ok continued
    obtain ⟨shares, difference, continued⟩ := bind_ok continued
    obtain ⟨totalShares, total, continued⟩ := bind_ok continued
    obtain ⟨debt, checkpoint, continued⟩ := bind_ok continued
    cases continued
    obtain ⟨known, _⟩ := settle_ok (sound.accumulated_nonneg staker) first
    have pre := known.shares
    have enough := require_ok covered
    have shrunk := sub_ok difference
    have totalShrunk := sub_ok total
    rw [add_zero]
    exact sound.reshared first checkpoint (by omega) (by omega)
  | applySlash staker amount =>
    obtain ⟨⟨state, position, outcome⟩, slashed, finished⟩ := bind_ok gave
    cases finished
    obtain ⟨⟨⟩, pos, continued⟩ := bind_ok slashed
    obtain ⟨⟨⟩, some, continued⟩ := bind_ok continued
    obtain ⟨⟨settled, newly⟩, first, continued⟩ := bind_ok continued
    obtain ⟨shares, difference, continued⟩ := bind_ok continued
    obtain ⟨totalShares, total, continued⟩ := bind_ok continued
    obtain ⟨debt, checkpoint, continued⟩ := bind_ok continued
    cases continued
    obtain ⟨known, _⟩ := settle_ok (sound.accumulated_nonneg staker) first
    have pre := known.shares
    have shrunk := sub_ok difference
    have totalShrunk := sub_ok total
    rw [add_zero]
    refine sound.reshared first checkpoint ?_ (by omega)
    split at shrunk <;> omega
  | settle staker =>
    obtain ⟨⟨position, newly⟩, settled, finished⟩ := bind_ok gave
    cases finished
    rw [add_zero]
    exact sound.settled settled
  | claim staker =>
    obtain ⟨⟨position, amount⟩, claimed, finished⟩ := bind_ok gave
    cases finished
    exact sound.paid claimed

end Calls

section Slashes

variable {state next : FeeAccrualState} {position after : StakerFeePosition} {amount : Int}

theorem pending_ok (nonneg : 0 ≤ position.shares * state.accFeePerShare) {value : Int}
    (gave : pending state position = .ok value) :
    value = pendingAmount state.accFeePerShare position := by
  obtain ⟨accumulated, reached, continued⟩ := bind_ok gave
  obtain ⟨unsettled, difference, finished⟩ := bind_ok continued
  cases accumulatedFor_ok nonneg reached
  cases sub_ok difference
  rw [add_ok finished, pendingAmount]
  split <;> omega

/-- A slash changes only the total of the shares, and the position could claim as much
as before. -/
theorem applySlash_keeps (shares : 0 ≤ position.shares) (fee : 0 ≤ state.accFeePerShare)
    {outcome : SlashSettlement}
    (gave : applySlash state position amount = .ok (next, after, outcome)) :
    next.accFeePerShare = state.accFeePerShare ∧
      pendingAmount next.accFeePerShare after = pendingAmount state.accFeePerShare position := by
  obtain ⟨⟨⟩, _, continued⟩ := bind_ok gave
  obtain ⟨⟨⟩, _, continued⟩ := bind_ok continued
  obtain ⟨⟨settled, newly⟩, first, continued⟩ := bind_ok continued
  obtain ⟨remaining, difference, continued⟩ := bind_ok continued
  obtain ⟨totalShares, _, continued⟩ := bind_ok continued
  obtain ⟨debt, checkpoint, continued⟩ := bind_ok continued
  cases continued
  obtain ⟨known, _⟩ := settle_ok (mul_nonneg shares fee) first
  have pre := known.shares
  have shrunk := sub_ok difference
  have nonneg : 0 ≤ remaining := by
    split at shrunk <;> omega
  exact ⟨rfl, (reshared_of_settled known (mul_nonneg nonneg fee) checkpoint).pending⟩

end Slashes

end StellarSwipe.StakeVault.FeeAccrual
