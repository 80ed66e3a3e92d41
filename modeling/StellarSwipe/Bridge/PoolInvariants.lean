import StellarSwipe.Bridge.PoolEffects
import Mathlib.Data.Sym.Sym2

/-!
# Pools that stay usable

Along every run reserves and shares are not negative, positions add up to a pool's shares, and
unordered pairs of assets and pools correspond one to one.
-/

namespace StellarSwipe.Bridge

open FixedWidth Program Runs Table

/-- Nothing is negative, and there are shares exactly when there is some of both assets. -/
structure LiquidityPool.IsSound (pool : LiquidityPool) : Prop where
  nonnegA : 0 ≤ pool.reserveA
  nonnegB : 0 ≤ pool.reserveB
  nonneg : 0 ≤ pool.totalLpTokens
  backed : 0 < pool.totalLpTokens ↔ 0 < pool.reserveA ∧ 0 < pool.reserveB

section Pool

variable {pool changed : LiquidityPool}

theorem LiquidityPool.IsConsistent.nonneg (consistent : pool.IsConsistent) :
    0 ≤ pool.reserveA ∧ 0 ≤ pool.reserveB ∧ 0 ≤ pool.totalLpTokens := by
  obtain ⟨bounds, _⟩ := consistent
  omega

theorem LiquidityPool.IsConsistent.isSound (consistent : pool.IsConsistent)
    (both : 0 < pool.totalLpTokens → 0 < pool.reserveA ∧ 0 < pool.reserveB) : pool.IsSound := by
  obtain ⟨nonnegA, nonnegB, nonneg⟩ := consistent.nonneg
  refine ⟨nonnegA, nonnegB, nonneg, both, fun present => ?_⟩
  have supplied : pool.totalLpTokens ≠ 0 := fun empty => by
    have none := consistent.2.mpr empty
    omega
  omega

/-- A deposit leaves a sound pool. -/
theorem LiquidityPool.IsSound.deposited (sound : pool.IsSound) {amountA amountB minted : Int}
    (deposit : Deposit pool amountA amountB minted) :
    (pool.deposited amountA amountB minted).IsSound := by
  have nonnegA := sound.nonnegA
  have nonnegB := sound.nonnegB
  have nonneg := sound.nonneg
  obtain ⟨positiveA, positiveB, pos, _⟩ := deposit
  constructor <;> simp only [LiquidityPool.deposited] <;> omega

/-- Some but not all of the shares are worth less than a positive reserve. -/
theorem LiquidityPool.worth_lt {reserve lpAmount : Int} (pos : 0 < reserve)
    (nonneg : 0 ≤ lpAmount) (present : lpAmount < pool.totalLpTokens) :
    pool.worth reserve lpAmount < reserve := by
  rw [LiquidityPool.worth, tdiv_eq_floor (mul_nonneg pos.le nonneg)]
  exact Int.ediv_lt_of_lt_mul (by omega) (mul_lt_mul_of_pos_left present pos)

/-- A withdrawal leaves a sound pool. -/
theorem LiquidityPool.IsSound.withdrawn (sound : pool.IsSound) {lpAmount : Int}
    (nonneg : 0 ≤ lpAmount) (supplied : 0 < pool.totalLpTokens)
    (consistent : (pool.withdrawn lpAmount).IsConsistent) : (pool.withdrawn lpAmount).IsSound := by
  refine consistent.isSound fun left => ?_
  simp only [LiquidityPool.withdrawn] at left ⊢
  obtain ⟨positiveA, positiveB⟩ := sound.backed.mp supplied
  have partA : pool.worth pool.reserveA lpAmount < pool.reserveA :=
    pool.worth_lt positiveA nonneg (by omega)
  have partB : pool.worth pool.reserveB lpAmount < pool.reserveB :=
    pool.worth_lt positiveB nonneg (by omega)
  omega

/-- A swap of a stable pool does not take all of the other asset. -/
def LiquidityPool.SwapSpares (pool : LiquidityPool) (inputAsset : String) (amountIn : Int) : Prop :=
  pool.poolType = .stableSwap → amountAfterFee amountIn pool.feeBps <
    if inputAsset = pool.assetA then pool.reserveB else pool.reserveA
deriving Decidable

/-- An exchange leaves some of what it gives out, of a stable pool if the amount is less.
The amount may be negative where a fee is more than the whole. -/
theorem Exchanged.leaves {poolType : PoolType} {amount reserveIn reserveOut out : Int}
    (exchanged : Exchanged poolType amount reserveIn reserveOut out)
    (nonneg : 0 ≤ reserveIn + amount) (spares : poolType = .stableSwap → amount < reserveOut) :
    0 < amount ∧ out < reserveOut := by
  obtain ⟨someIn, someOut, pos, constantProduct, stableSwap⟩ := exchanged
  cases poolType with
  | constantProduct =>
    have bought := constantProduct rfl
    have present : 0 < amount := by
      by_contra none
      have product : amount * reserveOut ≤ 0 := mul_nonpos_of_nonpos_of_nonneg (by omega) someOut.le
      have nothing := Int.tdiv_nonneg (neg_nonneg.mpr product) nonneg
      rw [Int.neg_tdiv, ← bought] at nothing
      omega
    refine ⟨present, ?_⟩
    rw [bought, tdiv_eq_floor (mul_nonneg present.le someOut.le)]
    refine Int.ediv_lt_of_lt_mul (by omega) ?_
    rw [mul_comm reserveOut]
    exact mul_lt_mul_of_pos_right (by omega) someOut
  | stableSwap =>
    have bought := stableSwap rfl
    have less := spares rfl
    omega

/-- A swap that spares the output reserve leaves a sound pool. -/
theorem Swapped.isSound {inputAsset : String} {amountIn : Int}
    (swap : Swapped pool inputAsset (amountAfterFee amountIn pool.feeBps) changed)
    (consistent : changed.IsConsistent) (spares : pool.SwapSpares inputAsset amountIn) :
    changed.IsSound := by
  obtain ⟨nonnegA, nonnegB, _⟩ := consistent.nonneg
  cases swap with
  | fromA input exchanged =>
    refine consistent.isSound fun _ => ?_
    have someIn := exchanged.someIn
    obtain ⟨present, left⟩ := exchanged.leaves nonnegA fun stable => by
      simpa [input] using spares stable
    simp only
    omega
  | fromB other input exchanged =>
    refine consistent.isSound fun _ => ?_
    have someIn := exchanged.someIn
    obtain ⟨present, left⟩ := exchanged.leaves nonnegB fun stable => by
      simpa [other] using spares stable
    simp only
    omega

end Pool

/-- In every state: sound pools, shares that add up, one pool for an unordered pair. -/
structure PoolsUsable (state : LiquidityState) : Prop where
  sound : ∀ poolId pool, state.pools.lookup poolId = some pool → pool.IsSound
  shares : ∀ poolId pool, state.pools.lookup poolId = some pool →
    Table.tally LiquidityPosition.lpTokens state.positions poolId = pool.totalLpTokens
  paired : ∀ assetA assetB poolId, findPoolForPair state assetA assetB = some poolId ↔
    ∃ pool, state.pools.lookup poolId = some pool ∧
      s(pool.assetA, pool.assetB) = s(assetA, assetB)

/-- The pools with what their ids and pairs rest on. -/
structure PoolsKept (state : LiquidityState) : Prop where
  numbered : ∀ poolId pool, state.pools.lookup poolId = some pool → poolId ≤ state.poolCounter
  placed : ∀ poolId provider, state.pools.lookup poolId = none →
    state.positions.lookup (poolId, provider) = none
  sound : ∀ poolId pool, state.pools.lookup poolId = some pool → pool.IsSound
  shares : ∀ poolId pool, state.pools.lookup poolId = some pool →
    Table.tally LiquidityPosition.lpTokens state.positions poolId = pool.totalLpTokens
  ordered : ∀ poolId pool, state.pools.lookup poolId = some pool → pool.assetA < pool.assetB
  listed : ∀ pair poolId, state.poolByPair.lookup pair = some poolId ↔
    ∃ pool, state.pools.lookup poolId = some pool ∧ (pool.assetA, pool.assetB) = pair

section Pools

variable {state : LiquidityState}

/-- The canonical pair is the ordered one. -/
theorem canonicalPair_ordered {assetA assetB : String} {pair : String × String}
    (canonical : canonicalPair assetA assetB = .ok pair) :
    pair.1 < pair.2 ∧ s(pair.1, pair.2) = s(assetA, assetB) := by
  rw [canonicalPair] at canonical
  split at canonical
  · next below =>
    cases Except.ok.inj canonical
    exact ⟨below, rfl⟩
  · split at canonical
    · next above =>
      cases Except.ok.inj canonical
      exact ⟨above, Sym2.eq_swap⟩
    · cases canonical

theorem canonicalPair_of_ordered {first second assetA assetB : String} (ordered : first < second)
    (same : s(first, second) = s(assetA, assetB)) :
    canonicalPair assetA assetB = .ok (first, second) := by
  rw [canonicalPair]
  rcases Sym2.eq_iff.mp same with ⟨rfl, rfl⟩ | ⟨rfl, rfl⟩
  · exact if_pos ordered
  · rw [if_neg (String.lt_asymm ordered), if_pos ordered]

/-- The invariant makes the pools usable. -/
theorem PoolsKept.usable (kept : PoolsKept state) : PoolsUsable state := by
  refine ⟨kept.sound, kept.shares, fun assetA assetB poolId => ?_⟩
  rw [findPoolForPair]
  constructor
  · intro hit
    cases canonical : canonicalPair assetA assetB with
    | error reason =>
      rw [canonical] at hit
      cases hit
    | ok pair =>
      rw [canonical] at hit
      obtain ⟨pool, has, rfl⟩ := (kept.listed pair poolId).mp hit
      exact ⟨pool, has, (canonicalPair_ordered canonical).2⟩
  · rintro ⟨pool, has, same⟩
    rw [canonicalPair_of_ordered (kept.ordered poolId pool has) same]
    exact (kept.listed _ poolId).mpr ⟨pool, has, rfl⟩

/-- A pool may change with its positions, under its pair. -/
theorem PoolsKept.restate (kept : PoolsKept state) {poolId : Nat} {pool changed : LiquidityPool}
    {positions : Table (Nat × Address) LiquidityPosition}
    (has : state.pools.lookup poolId = some pool) (sameA : changed.assetA = pool.assetA)
    (sameB : changed.assetB = pool.assetB) (sound : changed.IsSound)
    (shares : Table.tally LiquidityPosition.lpTokens positions poolId = changed.totalLpTokens)
    (others : ∀ other, other ≠ poolId → ∀ provider,
      positions.lookup (other, provider) = state.positions.lookup (other, provider)) :
    PoolsKept { state with
      pools := state.pools.insert poolId changed
      positions } := by
  have cases_ : ∀ other hit, (state.pools.insert poolId changed).lookup other = some hit →
      other = poolId ∧ hit = changed ∨
        other ≠ poolId ∧ state.pools.lookup other = some hit := by
    intro other hit lookup
    rw [lookup_insert] at lookup
    split at lookup
    · next same => exact .inl ⟨same, (Option.some.inj lookup).symm⟩
    · next different => exact .inr ⟨different, lookup⟩
  refine ⟨fun other hit lookup => ?_, fun other provider absent => ?_,
    fun other hit lookup => ?_, fun other hit lookup => ?_, fun other hit lookup => ?_,
    fun pair other => ?_⟩
  · rcases cases_ other hit lookup with ⟨rfl, _⟩ | ⟨_, old⟩
    · exact kept.numbered _ pool has
    · exact kept.numbered other hit old
  · rw [lookup_insert] at absent
    split at absent
    · cases absent
    · next different =>
      exact (others other different provider).trans (kept.placed other provider absent)
  · rcases cases_ other hit lookup with ⟨_, rfl⟩ | ⟨_, old⟩
    · exact sound
    · exact kept.sound other hit old
  · rcases cases_ other hit lookup with ⟨rfl, rfl⟩ | ⟨different, old⟩
    · exact shares
    · rw [← kept.shares other hit old]
      exact tally_congr (others other different)
  · rcases cases_ other hit lookup with ⟨rfl, rfl⟩ | ⟨_, old⟩
    · rw [sameA, sameB]
      exact kept.ordered _ pool has
    · exact kept.ordered other hit old
  · rw [kept.listed, lookup_insert]
    by_cases same : other = poolId
    · subst same
      rw [if_pos rfl, has]
      simp [sameA, sameB]
    · rw [if_neg same]

/-- A new pool takes a free pair. -/
theorem PoolsKept.create (kept : PoolsKept state) {assetA assetB : String}
    {pair : String × String} (canonical : canonicalPair assetA assetB = .ok pair)
    (free : state.poolByPair.lookup pair = none) {pool : LiquidityPool}
    (isPair : (pool.assetA, pool.assetB) = pair) (noA : pool.reserveA = 0)
    (noB : pool.reserveB = 0) (empty : pool.totalLpTokens = 0) :
    PoolsKept { state with
      poolCounter := state.poolCounter + 1
      pools := state.pools.insert (state.poolCounter + 1) pool
      poolByPair := state.poolByPair.insert pair (state.poolCounter + 1) } := by
  have fresh : state.pools.lookup (state.poolCounter + 1) = none := by
    by_contra present
    obtain ⟨hit, has⟩ := Option.ne_none_iff_exists'.mp present
    have below := kept.numbered _ hit has
    omega
  have cases_ : ∀ other hit,
      (state.pools.insert (state.poolCounter + 1) pool).lookup other = some hit →
      other = state.poolCounter + 1 ∧ hit = pool ∨ state.pools.lookup other = some hit := by
    intro other hit lookup
    rw [lookup_insert] at lookup
    split at lookup
    · next same => exact .inl ⟨same, (Option.some.inj lookup).symm⟩
    · exact .inr lookup
  refine ⟨fun other hit lookup => ?_, fun other provider absent => ?_,
    fun other hit lookup => ?_, fun other hit lookup => ?_, fun other hit lookup => ?_,
    fun other poolId => ?_⟩
  · rcases cases_ other hit lookup with ⟨rfl, _⟩ | old
    · exact le_rfl
    · exact (kept.numbered other hit old).trans (Nat.le_succ _)
  · rw [lookup_insert] at absent
    split at absent
    · cases absent
    · exact kept.placed other provider absent
  · rcases cases_ other hit lookup with ⟨_, rfl⟩ | old
    · exact ⟨noA.ge, noB.ge, empty.ge, by omega⟩
    · exact kept.sound other hit old
  · rcases cases_ other hit lookup with ⟨rfl, rfl⟩ | old
    · rw [empty]
      exact tally_absent fun provider => kept.placed _ provider fresh
    · exact kept.shares other hit old
  · rcases cases_ other hit lookup with ⟨_, rfl⟩ | old
    · cases isPair
      exact (canonicalPair_ordered canonical).1
    · exact kept.ordered other hit old
  · rw [lookup_insert]
    constructor
    · intro hit
      split at hit
      · next same =>
        cases hit
        refine ⟨pool, ?_, isPair.trans same.symm⟩
        rw [lookup_insert, if_pos rfl]
      · obtain ⟨old, has, isOther⟩ := (kept.listed other poolId).mp hit
        refine ⟨old, ?_, isOther⟩
        rw [lookup_insert, if_neg, has]
        rintro rfl
        rw [fresh] at has
        cases has
    · rintro ⟨hit, lookup, isOther⟩
      rcases cases_ poolId hit lookup with ⟨rfl, rfl⟩ | old
      · exact if_pos (isOther.symm.trans isPair)
      · have listed := (kept.listed other poolId).mpr ⟨hit, old, isOther⟩
        rw [if_neg, listed]
        rintro rfl
        rw [free] at listed
        cases listed

theorem tally_putPosition (provider : Address) (poolId : Nat) (position : LiquidityPosition) :
    Table.tally LiquidityPosition.lpTokens
        (state.positions.insert (poolId, provider) position) poolId =
      Table.tally LiquidityPosition.lpTokens state.positions poolId +
        (position.lpTokens - (state.position provider poolId).lpTokens) := by
  rw [tally_insert, if_pos rfl, LiquidityState.position]
  cases state.positions.lookup (poolId, provider) <;> rfl

theorem lookup_putPosition_other {provider : Address} {poolId : Nat} {position : LiquidityPosition}
    (other : Nat) (different : other ≠ poolId) (owner : Address) :
    (state.positions.insert (poolId, provider) position).lookup (other, owner) =
      state.positions.lookup (other, owner) := by
  rw [lookup_insert, if_neg]
  rintro same
  exact different (Prod.ext_iff.mp same).1

def PoolCall.swap (call : PoolCall) : Option (Nat × String × Amount) :=
  match call with
  | .swapBridgeAssets _ poolId inputAsset amountIn _ => some (poolId, inputAsset, amountIn)
  | _ => none

/-- A swap of a stable pool does not take all of an asset. -/
def LiquidityState.Spares (state : LiquidityState) (swap : Option (Nat × String × Amount)) : Prop :=
  ∀ order ∈ swap, ∀ pool ∈ state.pools.lookup order.1, pool.SwapSpares order.2.1 order.2.2
deriving Decidable

/-- Every effect that spares its pool keeps the invariant. -/
theorem PoolEffect.kept {now : Nat} {call : PoolCall} {after : LiquidityState}
    (effect : PoolEffect now state call after) (spares : state.Spares call.swap)
    (kept : PoolsKept state) : PoolsKept after := by
  cases effect with
  | created admin canonical free poolType feeBps rewardBps =>
    exact kept.create canonical free rfl rfl rfl rfl
  | @added provider poolId amountA amountB pool minted has deposit _ rewards =>
    refine kept.restate has rfl rfl ((kept.sound poolId pool has).deposited deposit) ?_
      lookup_putPosition_other
    refine (@tally_putPosition state provider poolId _).trans ?_
    rw [kept.shares poolId pool has]
    simp only [LiquidityPool.deposited]
    omega
  | @removed provider recipient poolId lpAmount pool has pos _ supplied consistent rewards =>
    refine kept.restate has rfl rfl
      ((kept.sound poolId pool has).withdrawn pos.le supplied consistent) ?_
      lookup_putPosition_other
    refine (@tally_putPosition state provider poolId _).trans ?_
    rw [kept.shares poolId pool has]
    simp only [LiquidityPool.withdrawn]
    omega
  | @swapped trader poolId inputAsset amountIn minAmountOut pool changed has swap consistent =>
    have sound := swap.isSound consistent (spares (poolId, inputAsset, amountIn) rfl pool has)
    have shares := kept.shares poolId pool has
    cases swap with
    | _ => exact kept.restate has rfl rfl sound shares fun _ _ _ => rfl
  | @paused call poolId paused pool called has =>
    obtain ⟨nonnegA, nonnegB, nonneg, backed⟩ := kept.sound poolId pool has
    exact kept.restate has rfl rfl ⟨nonnegA, nonnegB, nonneg, backed⟩
      (kept.shares poolId pool has) fun _ _ _ => rfl
  | permitted approvals operators =>
    exact ⟨kept.numbered, kept.placed, kept.sound, kept.shares, kept.ordered, kept.listed⟩

theorem PoolsKept.start : PoolsKept .empty where
  numbered := fun _ _ has => by cases has
  placed := fun _ _ _ => rfl
  sound := fun _ _ has => by cases has
  shares := fun _ _ has => by cases has
  ordered := fun _ _ has => by cases has
  listed := fun _ _ => ⟨fun hit => (by cases hit), fun ⟨_, has, _⟩ => (by cases has)⟩

end Pools

def BridgeCall.swap (call : BridgeCall) : Option (Nat × String × Amount) :=
  match call with
  | .pool call => call.swap
  | _ => none

/-- A step whose swap of a stable pool, if it is one, spares some of the asset. -/
def SwapsSpare (ledger : Ledger BridgeStore) (input : BridgeInput) : Prop :=
  ledger.store.liquidity.Spares input.call.swap
deriving Decidable

/-- One step that spares its pool keeps the invariant. -/
theorem bridgeStep_poolsKept (key : MessageKey) (ledger : Ledger BridgeStore)
    (input : BridgeInput) (spares : SwapsSpare ledger input)
    (kept : PoolsKept ledger.store.liquidity) :
    PoolsKept (bridgeStep key input ledger).store.liquidity := by
  have moved := bridgeStep_liquidity key ledger input
  generalize (bridgeStep key input ledger).store.liquidity = after at moved ⊢
  cases moved with
  | kept => exact kept
  | pool called effect =>
    rw [SwapsSpare, called] at spares
    exact effect.kept spares kept

/-- In every run whose swaps of stable pools all spare some of the asset that they give out,
the pools of every state reached are usable. -/
theorem pools_usable (key : MessageKey) (timestamp sequence : Nat) (inputs : List BridgeInput)
    (guarded : ∀ taken ∈ trace (bridgeStep key) (bridgeStart timestamp sequence) inputs,
      SwapsSpare taken.pre taken.input) :
    PoolsUsable (bridgeRun key timestamp sequence inputs).store.liquidity :=
  (guarded_invariant (bridgeStep key) (fun ledger => PoolsKept ledger.store.liquidity) SwapsSpare
    (fun ledger input => bridgeStep_poolsKept key ledger input) _ .start inputs guarded).usable

section Stable

/-- A stable pool without a fee, and a provider's deposit of equal amounts. -/
def stablePool : List BridgeInput :=
  twoValidators ++
    [callBy 1 0 (.settings (.registerWrappedAsset 1 .polygon "USDT" "wUSDT" 6)),
      callBy 1 0 (.pool (.createLiquidityPool 1 "wUSDT" "wUSDC" .stableSwap 0 0)),
      callBy 4 0 (.pool (.addBridgeLiquidity 4 1 (amountOf 100) (amountOf 100)))]

def stableSwapOf (amount : Nat) : List BridgeInput :=
  [callBy 5 0 (.pool (.swapBridgeAssets 5 1 "wUSDC" (amountOf amount) (amountOf 1)))]

theorem spared_pools_usable :
    PoolsUsable (bridgeRun (fun _ _ => "") 0 0 (stablePool ++ stableSwapOf 60)).store.liquidity :=
  pools_usable (fun _ _ => "") 0 0 (stablePool ++ stableSwapOf 60) (by decide)

/-- A swap drains one side of a stable pool that still has shares. -/
theorem drained_pool_unusable :
    ¬ ∀ (key : MessageKey) (timestamp sequence : Nat) (inputs : List BridgeInput),
        PoolsUsable (bridgeRun key timestamp sequence inputs).store.liquidity := by
  intro every
  have usable := every (fun _ _ => "") 0 0 (stablePool ++ stableSwapOf 100)
  have drained : ∃ pool,
      (bridgeRun (fun _ _ => "") 0 0 (stablePool ++ stableSwapOf 100)).store.liquidity.pools.lookup
        1 = some pool ∧ 0 < pool.totalLpTokens ∧ pool.reserveB = 0 := ⟨_, rfl, by decide, rfl⟩
  obtain ⟨pool, has, supplied, empty⟩ := drained
  have both := (usable.sound 1 pool has).backed.mp supplied
  omega

end Stable

end StellarSwipe.Bridge
