import StellarSwipe.Bridge.PoolInvariants
import StellarSwipe.Library.SharedReserves

/-!
# The value of shares

In a pool that prices by the product of its reserves a share never loses value: deposits mint and
withdrawals pay rounded down, and swaps pay less than the product allows.
-/

namespace StellarSwipe.Bridge

open FixedWidth Program Runs SharedReserves Table LiquidityPool

/-- The square of what a share of a pool is worth. -/
def LiquidityPool.shareValue (pool : LiquidityPool) : Rat :=
  value pool.reserveA pool.reserveB pool.totalLpTokens

/-- Ids of pools were given out and every stored pool was checked. -/
structure PoolsChecked (state : LiquidityState) : Prop where
  numbered : ∀ poolId pool, state.pools.lookup poolId = some pool → poolId ≤ state.poolCounter
  consistent : ∀ poolId pool, state.pools.lookup poolId = some pool → pool.IsConsistent

/-- The shares of every pool priced by the product are worth no less after a step. -/
def SharesKeepValue (pre after : LiquidityState) : Prop :=
  ∀ poolId pool changed, pre.pools.lookup poolId = some pool →
    after.pools.lookup poolId = some changed → pool.poolType = .constantProduct →
    0 < pool.totalLpTokens → 0 < changed.totalLpTokens → pool.shareValue ≤ changed.shareValue

/-- Withdrawing the shares of a deposit at once pays at most the deposit. -/
def RoundTripsPayLess (state : LiquidityState) : Prop :=
  ∀ provider recipient poolId amountA amountB minted middle paid after,
    addLiquidity provider poolId amountA amountB state = .ok minted middle →
    removeLiquidity provider recipient poolId minted middle = .ok paid after →
    paid.1 ≤ amountA ∧ paid.2.1 ≤ amountB

section Pool

variable {pool changed : LiquidityPool} {amountA amountB minted : Int}

theorem Deposit.nonneg (deposit : Deposit pool amountA amountB minted) :
    0 ≤ pool.totalLpTokens ∧ 0 ≤ pool.reserveA ∧ 0 ≤ pool.reserveB := by
  obtain ⟨_, _, _, shares⟩ := deposit
  cases shares with
  | first empty noA noB => exact ⟨empty.ge, noA.ge, noB.ge⟩
  | later supplied someA someB => exact ⟨supplied.le, someA.le, someB.le⟩

/-- Shares are backed by both amounts. -/
theorem Deposit.backed (deposit : Deposit pool amountA amountB minted) :
    minted * pool.reserveA ≤ amountA * pool.totalLpTokens ∧
      minted * pool.reserveB ≤ amountB * pool.totalLpTokens := by
  obtain ⟨positiveA, positiveB, _, shares⟩ := deposit
  cases shares with
  | first empty noA noB => simp [empty, noA, noB]
  | later supplied someA someB =>
    rw [tdiv_eq_floor (mul_nonneg positiveA.le supplied.le),
      tdiv_eq_floor (mul_nonneg positiveB.le supplied.le)]
    exact ⟨minted_backed someA (min_le_left _ _), minted_backed someB (min_le_right _ _)⟩

/-- A deposit takes no value from the shares. -/
theorem Deposit.shareValue_le (deposit : Deposit pool amountA amountB minted)
    (consistent : pool.IsConsistent) (supplied : 0 < pool.totalLpTokens) :
    pool.shareValue ≤ (pool.deposited amountA amountB minted).shareValue := by
  obtain ⟨nonnegA, nonnegB, _⟩ := consistent.nonneg
  obtain ⟨backedA, backedB⟩ := deposit.backed
  exact value_le supplied (add_pos supplied deposit.pos) nonnegB
    (add_nonneg nonnegA deposit.positiveA.le) (deposit_side backedA) (deposit_side backedB)

/-- A withdrawal takes no value from the shares that stay. -/
theorem LiquidityPool.shareValue_withdrawn_le {lpAmount : Int} (consistent : pool.IsConsistent)
    (nonneg : 0 ≤ lpAmount) (supplied : 0 < pool.totalLpTokens)
    (left : 0 < (pool.withdrawn lpAmount).totalLpTokens)
    (consistentAfter : (pool.withdrawn lpAmount).IsConsistent) :
    pool.shareValue ≤ (pool.withdrawn lpAmount).shareValue := by
  obtain ⟨nonnegA, nonnegB, _⟩ := consistent.nonneg
  have sides : ∀ reserve, 0 ≤ reserve →
      reserve * (pool.totalLpTokens - lpAmount) ≤
        (reserve - pool.worth reserve lpAmount) * pool.totalLpTokens := by
    intro reserve reserveNonneg
    rw [worth, tdiv_eq_floor (mul_nonneg reserveNonneg nonneg)]
    exact withdrawal_side supplied
  exact value_le supplied left nonnegB consistentAfter.nonneg.1 (sides _ nonnegA) (sides _ nonnegB)

/-- An exchange does not lower the product of the reserves. -/
theorem Exchanged.product_le {amount reserveIn reserveOut out : Int}
    (exchanged : Exchanged .constantProduct amount reserveIn reserveOut out)
    (nonneg : 0 ≤ reserveIn + amount) :
    reserveIn * reserveOut ≤ (reserveIn + amount) * (reserveOut - out) := by
  obtain ⟨present, _⟩ := exchanged.leaves nonneg fun other => by cases other
  have someIn := exchanged.someIn
  rw [exchanged.constantProduct rfl, tdiv_eq_floor (mul_nonneg present.le exchanged.someOut.le)]
  exact swap_product (by omega)

/-- A swap takes no value from the shares. -/
theorem Swapped.shareValue_le {inputAsset : String} {amount : Int}
    (swap : Swapped pool inputAsset amount changed) (byProduct : pool.poolType = .constantProduct)
    (supplied : 0 < pool.totalLpTokens) (consistent : changed.IsConsistent) :
    pool.shareValue ≤ changed.shareValue := by
  obtain ⟨nonnegA, nonnegB, _⟩ := consistent.nonneg
  cases swap with
  | fromA _ exchanged =>
    rw [byProduct] at exchanged
    exact value_le_of_product supplied (exchanged.product_le nonnegA)
  | fromB _ _ exchanged =>
    rw [byProduct] at exchanged
    have product := exchanged.product_le nonnegB
    refine value_le_of_product supplied ?_
    simp only
    linarith [mul_comm pool.reserveA pool.reserveB]

end Pool

section Pools

variable {now : Nat} {call : PoolCall} {state after : LiquidityState} {pool changed : LiquidityPool}

theorem sharesKeepValue_of_put {poolId : Nat} (has : state.pools.lookup poolId = some pool)
    (pools : after.pools = state.pools.insert poolId changed)
    (keeps : pool.poolType = .constantProduct → 0 < pool.totalLpTokens →
      0 < changed.totalLpTokens → pool.shareValue ≤ changed.shareValue) :
    SharesKeepValue state after := by
  intro other hit later isFound isLater byProduct supplied left
  rw [pools, lookup_insert] at isLater
  split at isLater
  · next same =>
    subst same
    cases isLater
    cases Option.mem_unique has isFound
    exact keeps byProduct supplied left
  · cases Option.mem_unique isFound isLater
    exact le_rfl

theorem PoolsChecked.keeps_of_put (checked : PoolsChecked state) {poolId : Nat}
    (has : state.pools.lookup poolId = some pool) (consistent : changed.IsConsistent)
    (pools : after.pools = state.pools.insert poolId changed)
    (counter : after.poolCounter = state.poolCounter) : PoolsChecked after := by
  constructor
  all_goals
    intro other hit lookup
    rw [pools, lookup_insert] at lookup
    split at lookup
  · next same => exact counter ▸ same ▸ checked.numbered poolId pool has
  · exact counter ▸ checked.numbered other hit lookup
  · exact Option.some.inj lookup ▸ consistent
  · exact checked.consistent other hit lookup

theorem PoolEffect.checked (effect : PoolEffect now state call after)
    (checked : PoolsChecked state) : PoolsChecked after := by
  cases effect with
  | created =>
    constructor
    all_goals
      intro other hit lookup
      rw [lookup_insert] at lookup
      split at lookup
    · next same => exact same.le
    · exact (checked.numbered other hit lookup).trans (Nat.le_succ _)
    · cases lookup
      simp [LiquidityPool.IsConsistent]
    · exact checked.consistent other hit lookup
  | added has _ consistent | removed _ has _ _ _ consistent | swapped _ has _ consistent =>
    exact checked.keeps_of_put has consistent rfl rfl
  | @paused call poolId paused pool called has =>
    have consistent : LiquidityPool.IsConsistent { pool with tradingPaused := paused } :=
      checked.consistent poolId pool has
    exact checked.keeps_of_put has consistent rfl rfl
  | permitted => exact ⟨checked.numbered, checked.consistent⟩

/-- Every effect keeps the value of shares. -/
theorem PoolEffect.sharesKeepValue (effect : PoolEffect now state call after)
    (checked : PoolsChecked state) : SharesKeepValue state after := by
  cases effect with
  | created =>
    intro other hit later isFound isLater _ _ _
    rw [lookup_insert, if_neg] at isLater
    · cases Option.mem_unique isFound isLater
      exact le_rfl
    · rintro rfl
      have below := checked.numbered _ hit isFound
      omega
  | @added provider poolId amountA amountB pool minted has deposit =>
    exact sharesKeepValue_of_put has rfl fun _ supplied _ =>
      deposit.shareValue_le (checked.consistent poolId pool has) supplied
  | @removed provider recipient poolId lpAmount pool has pos _ supplied consistent =>
    exact sharesKeepValue_of_put has rfl fun _ _ left =>
      pool.shareValue_withdrawn_le (checked.consistent poolId pool has) pos.le supplied left
        consistent
  | swapped _ has swap consistent =>
    exact sharesKeepValue_of_put has rfl fun byProduct supplied _ =>
      swap.shareValue_le byProduct supplied consistent
  | paused _ has => exact sharesKeepValue_of_put has rfl fun _ _ _ => le_rfl
  | permitted =>
    intro other hit later isFound isLater _ _ _
    cases Option.mem_unique isFound isLater
    exact le_rfl

theorem Deposit.worth_le {reserve amount amountA amountB minted : Int}
    (deposit : Deposit pool amountA amountB minted) (nonneg : 0 ≤ reserve) (pos : 0 < amount)
    (backed : minted * reserve ≤ amount * pool.totalLpTokens) :
    (pool.deposited amountA amountB minted).worth (reserve + amount) minted ≤ amount := by
  obtain ⟨supplied, _⟩ := deposit.nonneg
  have present := deposit.pos
  rw [worth, tdiv_eq_floor (mul_nonneg (by omega) present.le)]
  exact round_trip_le (by omega) backed

/-- Who deposits and withdraws at once gains nothing. -/
theorem round_trips_pay_less (state : LiquidityState) : RoundTripsPayLess state := by
  intro provider recipient poolId amountA amountB minted middle paid after added removed
  obtain ⟨pool, _, has, deposit, _, rfl⟩ :=
    wp_ok (addLiquidity_spec provider poolId amountA amountB) added
  obtain ⟨grown, _, isGrown, _, _, _, _, paidA, paidB, _⟩ :=
    wp_ok (removeLiquidity_spec provider recipient poolId minted) removed
  have same : grown = pool.deposited amountA amountB minted := by
    refine Option.some.inj (isGrown.symm.trans ?_)
    simp only [LiquidityState.putPosition, LiquidityState.putPool]
    rw [lookup_insert, if_pos rfl]
  subst same
  obtain ⟨backedA, backedB⟩ := deposit.backed
  obtain ⟨_, nonnegA, nonnegB⟩ := deposit.nonneg
  rw [paidA, paidB]
  exact ⟨deposit.worth_le nonnegA deposit.positiveA backedA,
    deposit.worth_le nonnegB deposit.positiveB backedB⟩

end Pools

theorem bridgeStep_checked (key : MessageKey) (ledger : Ledger BridgeStore) (input : BridgeInput)
    (checked : PoolsChecked ledger.store.liquidity) :
    PoolsChecked (bridgeStep key input ledger).store.liquidity ∧
      SharesKeepValue ledger.store.liquidity (bridgeStep key input ledger).store.liquidity := by
  have moved := bridgeStep_liquidity key ledger input
  generalize (bridgeStep key input ledger).store.liquidity = after at moved ⊢
  cases moved with
  | kept =>
    refine ⟨checked, fun poolId pool changed has later _ _ _ => ?_⟩
    cases Option.mem_unique has later
    exact le_rfl
  | pool _ effect => exact ⟨effect.checked checked, effect.sharesKeepValue checked⟩

theorem PoolsChecked.start (timestamp sequence : Nat) :
    PoolsChecked (bridgeStart timestamp sequence).store.liquidity :=
  ⟨fun _ _ has => (by cases has), fun _ _ has => (by cases has)⟩

/-- No step of any run lowers what a share of a pool priced by the product is worth, and no
deposit is worth more when it is withdrawn at once. -/
theorem share_value_kept (key : MessageKey) (timestamp sequence : Nat) (inputs : List BridgeInput) :
    (∀ taken ∈ trace (bridgeStep key) (bridgeStart timestamp sequence) inputs,
      SharesKeepValue taken.pre.store.liquidity taken.after.store.liquidity) ∧
    RoundTripsPayLess (bridgeRun key timestamp sequence inputs).store.liquidity := by
  refine ⟨fun taken mem => ?_, round_trips_pay_less _⟩
  obtain ⟨checked, _⟩ := transition_invariant (bridgeStep key)
    (fun ledger => PoolsChecked ledger.store.liquidity) (fun _ _ => True)
    (fun ledger input _ prior => (bridgeStep_checked key ledger input prior).1) _
    (.start timestamp sequence) inputs (fun _ _ => trivial) taken mem
  rw [transition_is_step (bridgeStep key) _ inputs taken mem]
  exact (bridgeStep_checked key taken.pre taken.input checked).2

end StellarSwipe.Bridge
