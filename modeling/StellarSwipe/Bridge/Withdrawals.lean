import StellarSwipe.Bridge.ShareValue

/-!
# Withdrawals that fit

In every state of a run the shares of a pool are those of its positions and every amount fits its
type, so a provider's withdrawal can fail for one reason only: a product of the withdrawn shares
and a reserve, or the provider's rewards, does not fit.
-/

namespace StellarSwipe.Bridge

open FixedWidth Program Runs Table

/-- Every product that a withdrawal is computed with fits. -/
def LiquidityState.WithdrawalFits (state : LiquidityState) (provider : Address) (poolId : Nat)
    (lpAmount : Int) : Prop :=
  ∀ pool ∈ state.pools.lookup poolId, i128.Holds (pool.reserveA * lpAmount) ∧
    i128.Holds (pool.reserveB * lpAmount) ∧
    i128.Holds ((state.position provider poolId).rewardsEarned * lpAmount)

/-- Amounts of pools and positions fit their type, and those of positions are not negative. -/
structure AmountsFit (state : LiquidityState) : Prop where
  pools : ∀ poolId pool, state.pools.lookup poolId = some pool →
    i128.Holds pool.reserveA ∧ i128.Holds pool.reserveB ∧ i128.Holds pool.totalLpTokens
  shares : ∀ provider poolId, 0 ≤ (state.position provider poolId).lpTokens ∧
    i128.Holds (state.position provider poolId).lpTokens
  rewards : ∀ provider poolId, 0 ≤ (state.position provider poolId).rewardsEarned ∧
    i128.Holds (state.position provider poolId).rewardsEarned

/-- The positions of a pool hold its shares, and there are none of pools that do not exist. -/
structure SharesOwned (state : LiquidityState) : Prop where
  placed : ∀ poolId provider, state.pools.lookup poolId = none →
    state.positions.lookup (poolId, provider) = none
  shares : ∀ poolId pool, state.pools.lookup poolId = some pool →
    Table.tally LiquidityPosition.lpTokens state.positions poolId = pool.totalLpTokens

section Amounts

variable {state : LiquidityState} {poolId : Nat}

theorem position_putPosition (provider owner : Address) (other : Nat)
    (position : LiquidityPosition) :
    (state.putPosition provider poolId position).position owner other =
      if (other, owner) = (poolId, provider) then position else state.position owner other := by
  simp only [LiquidityState.position, LiquidityState.putPosition]
  rw [lookup_insert]
  split <;> rfl

theorem AmountsFit.putPool (fit : AmountsFit state) {pool : LiquidityPool}
    (holds : i128.Holds pool.reserveA ∧ i128.Holds pool.reserveB ∧ i128.Holds pool.totalLpTokens) :
    AmountsFit (state.putPool poolId pool) := by
  refine ⟨fun other hit lookup => ?_, fit.shares, fit.rewards⟩
  simp only [LiquidityState.putPool] at lookup
  rw [lookup_insert] at lookup
  split at lookup
  · exact Option.some.inj lookup ▸ holds
  · exact fit.pools other hit lookup

theorem AmountsFit.putPosition (fit : AmountsFit state) {provider : Address}
    {position : LiquidityPosition} (shares : 0 ≤ position.lpTokens ∧ i128.Holds position.lpTokens)
    (rewards : 0 ≤ position.rewardsEarned ∧ i128.Holds position.rewardsEarned) :
    AmountsFit (state.putPosition provider poolId position) := by
  refine ⟨fit.pools, fun owner other => ?_, fun owner other => ?_⟩ <;>
    rw [position_putPosition] <;> split
  · exact shares
  · exact fit.shares owner other
  · exact rewards
  · exact fit.rewards owner other

theorem part_between {amount part whole : Int} (nonneg : 0 ≤ amount) (nonneg' : 0 ≤ part)
    (within : part ≤ whole) :
    0 ≤ (amount * part).tdiv whole ∧ (amount * part).tdiv whole ≤ amount := by
  rw [tdiv_eq_floor (mul_nonneg nonneg nonneg')]
  have wholeNonneg : 0 ≤ whole := nonneg'.trans within
  refine ⟨Int.ediv_nonneg (mul_nonneg nonneg nonneg') wholeNonneg, ?_⟩
  by_cases none : whole = 0
  · rw [none, Int.ediv_zero]
    exact nonneg
  · exact Int.ediv_le_of_le_mul (by omega) (mul_le_mul_of_nonneg_left within nonneg)

/-- A deposit keeps the amounts in their types. -/
theorem addLiquidity_fits (fit : AmountsFit state) (provider : Address) (amountA amountB : Int) :
    wlp (addLiquidity provider poolId amountA amountB) (fun _ after => AmountsFit after) state := by
  simp only [addLiquidity, wlp_rules, wp_getPool, wp_shares, checked_ok, wp_validatePoolInvariants,
    wp_storePool, wp_storePosition]
  intro pos pool has minted computed reward isReward reserveA isA reserveB isB totalLpTokens
    isTotal lpTokens isTokens rewards isRewards _
  obtain ⟨total, isSum, isReward⟩ := Option.bind_eq_some_iff.mp isReward
  obtain ⟨_, rfl⟩ := i128.checked_ok isSum
  have rewarded := checkedMulDivFloor_exact isReward
  obtain ⟨holdsA, rfl⟩ := i128.checked_ok isA
  obtain ⟨holdsB, rfl⟩ := i128.checked_ok isB
  obtain ⟨holdsTotal, rfl⟩ := i128.checked_ok isTotal
  obtain ⟨holdsTokens, rfl⟩ := i128.checked_ok isTokens
  obtain ⟨holdsRewards, rfl⟩ := i128.checked_ok isRewards
  have mintedPositive := (computeMintShares_ok computed).pos
  obtain ⟨sharesNonneg, _⟩ := fit.shares provider poolId
  obtain ⟨rewardsNonneg, _⟩ := fit.rewards provider poolId
  have rewardNonneg : 0 ≤ reward := by
    rw [rewarded]
    exact Int.tdiv_nonneg (mul_nonneg (by omega) (Int.natCast_nonneg _)) (by decide)
  exact (fit.putPool ⟨holdsA, holdsB, holdsTotal⟩).putPosition ⟨by simp only; omega, holdsTokens⟩
    ⟨by simp only; omega, holdsRewards⟩

/-- A withdrawal keeps the amounts in their types. -/
theorem removeLiquidity_fits (fit : AmountsFit state) (provider recipient : Address)
    (lpAmount : Int) :
    wlp (removeLiquidity provider recipient poolId lpAmount) (fun _ after => AmountsFit after)
      state := by
  simp only [removeLiquidity, wlp_rules, wp_getPool]
  intro pos _ pool has held
  obtain ⟨covered, _⟩ := not_or.mp held
  refine wp_proportion _ _ _ ?_
  refine wp_proportion _ _ _ ?_
  have present : (state.position provider poolId).lpTokens ≠ 0 := by omega
  rw [if_neg present, wp_bind]
  refine wp_proportion _ _ _ ?_
  simp only [wp_rules, wp_shares, checked_ok, wp_validatePoolInvariants, wp_storePool,
    wp_storePosition]
  intro lpTokens isTokens rewards isRewards reserveA isA reserveB isB totalLpTokens isTotal _
  obtain ⟨holdsTokens, rfl⟩ := i128.checked_ok isTokens
  obtain ⟨holdsRewards, rfl⟩ := i128.checked_ok isRewards
  obtain ⟨holdsA, rfl⟩ := i128.checked_ok isA
  obtain ⟨holdsB, rfl⟩ := i128.checked_ok isB
  obtain ⟨holdsTotal, rfl⟩ := i128.checked_ok isTotal
  obtain ⟨rewardsNonneg, _⟩ := fit.rewards provider poolId
  obtain ⟨_, paid⟩ := part_between rewardsNonneg (not_le.mp pos).le (not_lt.mp covered)
  exact (fit.putPool ⟨holdsA, holdsB, holdsTotal⟩).putPosition ⟨by simp only; omega, holdsTokens⟩
    ⟨by simp only; omega, holdsRewards⟩

theorem exchange_fits {post : Int × Int × Int → LiquidityState → Prop} (poolType : PoolType)
    (amount reserveIn reserveOut : Int)
    (holds : ∀ out, i128.Holds (reserveIn + amount) → i128.Holds (reserveOut - out) →
      post (out, reserveIn + amount, reserveOut - out) state) :
    wlp (exchange poolType amount reserveIn reserveOut) post state := by
  simp only [exchange, quoteSwap, wlp_rules]
  intro _
  cases poolType with
  | constantProduct =>
    simp only [wp_rules, wp_raw]
    intro _ _
    refine wp_rawDiv _ _ ?_
    exact fun fitsIn fitsOut => holds _ fitsIn fitsOut
  | stableSwap =>
    simp only [wp_raw, wp_pure]
    exact fun fitsIn fitsOut => holds _ fitsIn fitsOut

/-- A swap keeps the amounts in their types. -/
theorem swap_fits (fit : AmountsFit state) (inputAsset : String) (amountIn minAmountOut : Int) :
    wlp (swap poolId inputAsset amountIn minAmountOut) (fun _ after => AmountsFit after) state := by
  simp only [swap, wlp_rules, wp_getPool]
  intro _ pool has _
  obtain ⟨_, _, total⟩ := fit.pools poolId pool has
  refine wp_afterFee _ _ fun feePaid => ?_
  simp only [wp_ite, wp_bind]
  refine ⟨fun _ => ?_, fun _ => ⟨fun _ => ?_, fun _ => ?_⟩⟩
  · refine exchange_fits _ _ _ _ fun out fitsIn fitsOut => ?_
    simp only [wlp_rules, wp_validatePoolInvariants, wp_storePool]
    exact fun _ _ => fit.putPool ⟨fitsIn, fitsOut, total⟩
  · refine exchange_fits _ _ _ _ fun out fitsIn fitsOut => ?_
    simp only [wlp_rules, wp_validatePoolInvariants, wp_storePool]
    exact fun _ _ => fit.putPool ⟨fitsOut, fitsIn, total⟩
  · simp

theorem PoolCall.onPools_fits (call : PoolCall) (env : Env) (fit : AmountsFit state) :
    wlp (call.onPools env) (fun _ after => AmountsFit after) state := by
  cases call with
  | createLiquidityPool admin assetA assetB poolType feeBps rewardBps =>
    simp only [onPools, createPool, nextPoolId, wp_discard, wp_bind, wp_get, wp_ensure, wp_demand,
      wp_modify, wp_pure, wp_storePool, implies_true, and_true]
    have counted : AmountsFit { state with poolCounter := state.poolCounter + 1 } :=
      ⟨fit.pools, fit.shares, fit.rewards⟩
    cases canonicalPair assetA assetB with
    | error reason => simp
    | ok pair =>
      simp only [wp_ofExcept, Except.ok.injEq, forall_eq', reduceCtorEq, implies_true, and_true]
      intro _ _
      have none : i128.Holds 0 := by decide
      have has : AmountsFit (LiquidityState.putPool { state with
          poolCounter := state.poolCounter + 1 } (state.poolCounter + 1)
          ⟨pair.1, pair.2, 0, 0, 0, feeBps, rewardBps, poolType, env.timestamp, false⟩) :=
        counted.putPool ⟨none, none, none⟩
      exact ⟨has.pools, has.shares, has.rewards⟩
  | addBridgeLiquidity provider poolId amountA amountB =>
    simp only [onPools, wp_discard]
    exact addLiquidity_fits fit provider amountA amountB
  | removeBridgeLiquidity provider recipient poolId lpAmount =>
    simp only [onPools, wp_discard]
    exact removeLiquidity_fits fit provider recipient lpAmount
  | swapBridgeAssets trader poolId inputAsset amountIn minAmountOut =>
    simp only [onPools, wp_discard]
    exact swap_fits fit inputAsset amountIn minAmountOut
  | approveWithdrawalRecipient | revokeWithdrawalRecipient | setPoolOperator =>
    exact ⟨fit.pools, fit.shares, fit.rewards⟩
  | _ =>
    simp only [onPools, pauseTrading, resumeTrading, setTradingPaused, wp_bind, wp_getPool,
      wp_storePool]
    exact fun pool has => fit.putPool (fit.pools _ pool has)

end Amounts

section Shares

variable {state : LiquidityState}

/-- A pool that is written over keeps its positions, or moves with one of them. -/
theorem SharesOwned.restate (owned : SharesOwned state) {poolId : Nat}
    {pool changed : LiquidityPool} {positions : Table (Nat × Address) LiquidityPosition}
    (has : state.pools.lookup poolId = some pool)
    (shares : Table.tally LiquidityPosition.lpTokens positions poolId = changed.totalLpTokens)
    (others : ∀ other, other ≠ poolId → ∀ provider,
      positions.lookup (other, provider) = state.positions.lookup (other, provider)) :
    SharesOwned { state with
      pools := state.pools.insert poolId changed
      positions } := by
  constructor
  · intro other provider absent
    rw [lookup_insert] at absent
    split at absent
    · cases absent
    · next different =>
      exact (others other different provider).trans (owned.placed other provider absent)
  · intro other hit lookup
    rw [lookup_insert] at lookup
    split at lookup
    · next same =>
      subst same
      cases lookup
      exact shares
    · next different =>
      rw [← owned.shares other hit lookup]
      exact tally_congr (others other different)

/-- Every effect keeps shares with their owners. -/
theorem PoolEffect.sharesOwned {now : Nat} {call : PoolCall} {after : LiquidityState}
    (effect : PoolEffect now state call after) (checked : PoolsChecked state)
    (owned : SharesOwned state) : SharesOwned after := by
  cases effect with
  | created =>
    have fresh : state.pools.lookup (state.poolCounter + 1) = none := by
      by_contra present
      obtain ⟨hit, has⟩ := Option.ne_none_iff_exists'.mp present
      have below := checked.numbered _ hit has
      omega
    constructor
    · intro other provider absent
      rw [lookup_insert] at absent
      split at absent
      · cases absent
      · exact owned.placed other provider absent
    · intro other hit lookup
      rw [lookup_insert] at lookup
      split at lookup
      · next same =>
        subst same
        cases lookup
        exact tally_absent fun provider => owned.placed _ provider fresh
      · exact owned.shares other hit lookup
  | @added provider poolId amountA amountB pool minted has deposit _ rewards =>
    refine owned.restate has ?_ lookup_putPosition_other
    refine (@tally_putPosition state provider poolId _).trans ?_
    rw [owned.shares poolId pool has]
    simp only [LiquidityPool.deposited]
    omega
  | @removed provider recipient poolId lpAmount pool has _ _ _ _ rewards =>
    refine owned.restate has ?_ lookup_putPosition_other
    refine (@tally_putPosition state provider poolId _).trans ?_
    rw [owned.shares poolId pool has]
    simp only [LiquidityPool.withdrawn]
    omega
  | swapped _ has swap =>
    have shares := owned.shares _ _ has
    cases swap with
    | _ => exact owned.restate has shares fun _ _ _ => rfl
  | paused _ has =>
    have shares := owned.shares _ _ has
    exact owned.restate has shares fun _ _ _ => rfl
  | permitted => exact ⟨owned.placed, owned.shares⟩

end Shares

/-- What every run keeps of the pools. -/
structure PoolsHeld (state : LiquidityState) : Prop where
  checked : PoolsChecked state
  owned : SharesOwned state
  fit : AmountsFit state

theorem PoolsHeld.start : PoolsHeld .empty where
  checked := ⟨fun _ _ has => (by cases has), fun _ _ has => (by cases has)⟩
  owned := ⟨fun _ _ _ => rfl, fun _ _ has => (by cases has)⟩
  fit :=
    have none : (0 : Int) ≤ 0 ∧ i128.Holds 0 := by decide
    ⟨fun _ _ has => (by cases has), fun _ _ => none, fun _ _ => none⟩

theorem BridgeCall.exec_fits {pre : BridgeStore} (key : MessageKey) (call : BridgeCall)
    (env : Env) (fit : AmountsFit pre.liquidity) :
    wlp (call.exec key env) (fun _ after => AmountsFit after.liquidity) pre := by
  cases call with
  | settings | transfer =>
    refine wp_then (BridgeCall.exec_liquidity key _ env) (fun _ after moved => ?_)
    generalize after.liquidity = liquidity at moved ⊢
    cases moved with
    | kept => exact fit
    | pool called => cases called
  | pool call =>
    refine wp_then (call.exec_pools env (call.onPools_fits env fit)) ?_
    rintro _ after ⟨liquidity, fits, rfl⟩
    exact fits

/-- One step keeps what withdrawals rest on. -/
theorem bridgeStep_poolsHeld (key : MessageKey) (ledger : Ledger BridgeStore)
    (input : BridgeInput) (held : PoolsHeld ledger.store.liquidity) :
    PoolsHeld (bridgeStep key input ledger).store.liquidity := by
  obtain ⟨checked, _⟩ := bridgeStep_checked key ledger input held.checked
  have fit : AmountsFit (bridgeStep key input ledger).store.liquidity :=
    invoke_rule (wp_mono (input.call.exec_fits key (ledger.env input.arrival) held.fit)
      (fun _ _ fits => fits) fun _ _ _ => held.fit)
  have moved := bridgeStep_liquidity key ledger input
  generalize (bridgeStep key input ledger).store.liquidity = after at moved checked fit ⊢
  cases moved with
  | kept => exact held
  | pool _ effect => exact ⟨checked, effect.sharesOwned held.checked held.owned, fit⟩

theorem bridgeRun_poolsHeld (key : MessageKey) (timestamp sequence : Nat)
    (inputs : List BridgeInput) :
    PoolsHeld (bridgeRun key timestamp sequence inputs).store.liquidity :=
  guarded_invariant (bridgeStep key) (fun ledger => PoolsHeld ledger.store.liquidity)
    (fun _ _ => True) (fun ledger input _ => bridgeStep_poolsHeld key ledger input) _ .start inputs
    fun _ _ => trivial

section Withdrawals

variable {state : LiquidityState} {poolId : Nat} {provider : Address} {lpAmount : Int}
  {pool : LiquidityPool}

/-- No position holds more shares than its pool has. -/
theorem PoolsHeld.shares_le (held : PoolsHeld state) (provider : Address)
    (has : state.pools.lookup poolId = some pool) :
    (state.position provider poolId).lpTokens ≤ pool.totalLpTokens := by
  rw [← held.owned.shares poolId pool has, LiquidityState.position]
  have nonneg : ∀ owner position, state.positions.lookup (poolId, owner) = some position →
      0 ≤ position.lpTokens := by
    intro owner position hit
    obtain ⟨nonneg, _⟩ := held.fit.shares owner poolId
    simpa only [LiquidityState.position, hit, Option.getD_some] using nonneg
  cases hit : state.positions.lookup (poolId, provider) with
  | none => exact tally_nonneg nonneg
  | some position => exact le_tally nonneg hit

theorem LiquidityPool.IsConsistent.withdrawn {lpAmount : Int} (consistent : pool.IsConsistent)
    (pos : 0 < lpAmount) (within : lpAmount ≤ pool.totalLpTokens) :
    (pool.withdrawn lpAmount).IsConsistent := by
  obtain ⟨nonnegA, nonnegB, _⟩ := consistent.nonneg
  obtain ⟨_, paidA⟩ := part_between nonnegA pos.le within
  obtain ⟨_, paidB⟩ := part_between nonnegB pos.le within
  refine ⟨?_, ?_⟩ <;> simp only [LiquidityPool.withdrawn, LiquidityPool.worth]
  · omega
  · rcases within.lt_or_eq with some | all
    · have present : ¬ (pool.reserveA = 0 ∧ pool.reserveB = 0) := fun empty => by
        have none := consistent.2.mp empty
        omega
      have leftA : 0 < pool.reserveA → (pool.reserveA * lpAmount).tdiv pool.totalLpTokens <
          pool.reserveA := fun positiveA => pool.worth_lt positiveA pos.le some
      have leftB : 0 < pool.reserveB → (pool.reserveB * lpAmount).tdiv pool.totalLpTokens <
          pool.reserveB := fun positiveB => pool.worth_lt positiveB pos.le some
      omega
    · subst all
      rw [Int.mul_tdiv_cancel _ pos.ne', Int.mul_tdiv_cancel _ pos.ne']
      omega

theorem holds_of_between {value bound : Int} (nonneg : 0 ≤ value) (within : value ≤ bound)
    (holds : i128.Holds bound) : i128.Holds value :=
  ⟨le_trans (by decide) nonneg, within.trans holds.2⟩

variable {fault : Fault BridgeError → LiquidityState → Prop} {post : Int → LiquidityState → Prop}

theorem wp_proportion_fits {amount part whole : Int} (fits : i128.Holds (amount * part))
    (holds : post ((amount * part).tdiv whole) state) :
    wp (proportion amount part whole) post fault state := by
  simpa [proportion, Range.checkedMul, Range.checked, fits, checked, shares] using holds

theorem wp_checked_fits {value : Int} (fits : i128.Holds value) (holds : post value state) :
    wp (shares (checked (i128.checked value))) post fault state := by
  simpa [Range.checked, fits, checked, shares] using holds

/-- Shares that are held and fit can be withdrawn. -/
theorem PoolsHeld.withdraws (held : PoolsHeld state) (pos : 0 < lpAmount)
    (covered : lpAmount ≤ (state.position provider poolId).lpTokens)
    (fits : state.WithdrawalFits provider poolId lpAmount) :
    Accepts (removeLiquidity provider provider poolId lpAmount) state := by
  cases has : state.pools.lookup poolId with
  | none =>
    have none := held.owned.placed poolId provider has
    simp only [LiquidityState.position, none, Option.getD_none] at covered
    omega
  | some pool =>
    have within := held.shares_le provider has
    have consistent := held.checked.consistent poolId pool has
    obtain ⟨nonnegA, nonnegB, nonneg⟩ := consistent.nonneg
    obtain ⟨fitsA, fitsB, fitsRewards⟩ := fits pool has
    obtain ⟨holdsA, holdsB, holdsTotal⟩ := held.fit.pools poolId pool has
    obtain ⟨_, holdsTokens⟩ := held.fit.shares provider poolId
    obtain ⟨rewardsNonneg, holdsRewards⟩ := held.fit.rewards provider poolId
    obtain ⟨paysA, paidA⟩ := part_between nonnegA pos.le (covered.trans within)
    obtain ⟨paysB, paidB⟩ := part_between nonnegB pos.le (covered.trans within)
    obtain ⟨paysRewards, paidRewards⟩ := part_between rewardsNonneg pos.le covered
    have kept := consistent.withdrawn pos (covered.trans within)
    have present : (state.position provider poolId).lpTokens ≠ 0 := by omega
    rw [accepts_iff_wp]
    simp only [removeLiquidity, getPool, validatePoolInvariants, wp_rules, has,
      Option.some.injEq, forall_eq']
    refine ⟨fun _ => ⟨fun _ => ⟨⟨fun _ => ?_, ?_⟩, ?_⟩, ?_⟩, ?_⟩
    · refine wp_proportion_fits fitsA ?_
      refine wp_proportion_fits fitsB ?_
      rw [if_neg present, wp_bind]
      refine wp_proportion_fits fitsRewards ?_
      simp only [wp_rules, wp_storePool, wp_storePosition]
      refine wp_checked_fits (holds_of_between (by omega) (by omega) holdsTokens) ?_
      refine wp_checked_fits (holds_of_between (by omega) (by omega) holdsRewards) ?_
      refine wp_checked_fits (holds_of_between (by omega) (by omega) holdsA) ?_
      refine wp_checked_fits (holds_of_between (by omega) (by omega) holdsB) ?_
      refine wp_checked_fits (holds_of_between (by omega) (by omega) holdsTotal) ?_
      exact ⟨fun _ => trivial, fun rejected => rejected kept⟩
    · intro rejected
      omega
    · intro absent
      cases absent
    · intro unapproved
      simp at unapproved
    · intro rejected
      omega

/-- A withdrawal that succeeds was computed without an overflow. -/
theorem withdrawalFits_of_accepts
    (accepts : Accepts (removeLiquidity provider provider poolId lpAmount) state) :
    state.WithdrawalFits provider poolId lpAmount := by
  obtain ⟨paid, after, gave⟩ := accepts
  have product : ∀ {post : Int → LiquidityState → Prop} {amount part whole : Int},
      (i128.Holds (amount * part) → post ((amount * part).tdiv whole) state) →
      wp (proportion amount part whole) post (fun _ _ => True) state := by
    intro post amount part whole holds
    rw [proportion, wp_shares]
    intro hit isFound
    obtain ⟨product, isProduct, rfl⟩ := Option.map_eq_some_iff.mp (checked_ok.mp isFound)
    obtain ⟨fits, rfl⟩ := i128.checked_ok isProduct
    exact holds fits
  have specified : wlp (removeLiquidity provider provider poolId lpAmount)
      (fun _ _ => state.WithdrawalFits provider poolId lpAmount) state := by
    simp only [removeLiquidity, wlp_rules, wp_getPool]
    intro pos _ pool has held
    refine product fun fitsA => ?_
    refine product fun fitsB => ?_
    have present : (state.position provider poolId).lpTokens ≠ 0 := by omega
    rw [if_neg present, wp_bind]
    refine product fun fitsRewards => ?_
    simp only [wp_rules, wp_shares, wp_validatePoolInvariants, wp_storePool, wp_storePosition]
    intros
    intro other isOther
    cases Option.mem_unique has isOther
    exact ⟨fitsA, fitsB, fitsRewards⟩
  exact wp_ok specified gave

end Withdrawals

/-- In every state of every run, a provider's withdrawal of shares that it holds succeeds
exactly when its products fit. -/
theorem withdrawals_succeed (key : MessageKey) (timestamp sequence : Nat)
    (inputs : List BridgeInput) (provider : Address) (poolId : Nat) (lpAmount : Int)
    (pos : 0 < lpAmount)
    (covered : lpAmount ≤ ((bridgeRun key timestamp sequence inputs).store.liquidity.position
      provider poolId).lpTokens) : Accepts (removeLiquidity provider provider poolId lpAmount)
        (bridgeRun key timestamp sequence inputs).store.liquidity ↔
      (bridgeRun key timestamp sequence inputs).store.liquidity.WithdrawalFits provider poolId
        lpAmount :=
  ⟨withdrawalFits_of_accepts,
    (bridgeRun_poolsHeld key timestamp sequence inputs).withdraws pos covered⟩

section LargeDeposit

theorem stable_withdrawal_succeeds : Accepts (removeLiquidity 4 4 1 40)
        (bridgeRun (fun _ _ => "") 0 0 stablePool).store.liquidity ↔
      (bridgeRun (fun _ _ => "") 0 0 stablePool).store.liquidity.WithdrawalFits 4 1 40 :=
  withdrawals_succeed (fun _ _ => "") 0 0 stablePool 4 1 40 (by decide) (by decide)

/-- A first deposit of nearly the largest amount, against one unit of the other asset. -/
def largeDeposit : List BridgeInput :=
  twoValidators ++
    [callBy 1 0 (.settings (.registerWrappedAsset 1 .polygon "USDT" "wUSDT" 6)),
      callBy 1 0 (.pool (.createLiquidityPool 1 "wUSDC" "wUSDT" .constantProduct 30 0)),
      callBy 4 0 (.pool (.addBridgeLiquidity 4 1 (amountOf (2 ^ 127 - 11)) (amountOf 1)))]

/-- Not even its only provider can withdraw all of it at once. -/
theorem large_deposit_stays :
    ¬ ∀ (key : MessageKey) (timestamp sequence : Nat) (inputs : List BridgeInput)
        (provider : Address) (poolId : Nat) (lpAmount : Int), 0 < lpAmount →
        lpAmount ≤ ((bridgeRun key timestamp sequence inputs).store.liquidity.position
          provider poolId).lpTokens → Accepts (removeLiquidity provider provider poolId lpAmount)
          (bridgeRun key timestamp sequence inputs).store.liquidity := by
  intro every
  have all := every (fun _ _ => "") 0 0 largeDeposit 4 1 13043817825332782212 (by decide)
    (by decide +kernel)
  exact absurd all (by decide +kernel)

end LargeDeposit

end StellarSwipe.Bridge
