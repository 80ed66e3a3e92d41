import StellarSwipe.Bridge.Effects

/-!
# What calls on pools write

Every call on the pools that returns creates a pool, moves one pool's reserves by a deposit, a
withdrawal or a swap, pauses or resumes one, or leaves all pools alone.
-/

namespace StellarSwipe.Bridge

open FixedWidth Program Runs

/-- The shares that a deposit mints. -/
inductive SharesMinted (pool : LiquidityPool) (amountA amountB : Int) : Int → Prop where
  | first (empty : pool.totalLpTokens = 0) (noA : pool.reserveA = 0) (noB : pool.reserveB = 0) :
      SharesMinted pool amountA amountB (integerSqrt (amountA * amountB))
  | later (supplied : 0 < pool.totalLpTokens) (someA : 0 < pool.reserveA)
      (someB : 0 < pool.reserveB) :
      SharesMinted pool amountA amountB
        (min ((amountA * pool.totalLpTokens).tdiv pool.reserveA)
          ((amountB * pool.totalLpTokens).tdiv pool.reserveB))

structure Deposit (pool : LiquidityPool) (amountA amountB minted : Int) : Prop where
  positiveA : 0 < amountA
  positiveB : 0 < amountB
  pos : 0 < minted
  shares : SharesMinted pool amountA amountB minted

def LiquidityPool.deposited (pool : LiquidityPool) (amountA amountB minted : Int) : LiquidityPool :=
  { pool with
    reserveA := pool.reserveA + amountA
    reserveB := pool.reserveB + amountB
    totalLpTokens := pool.totalLpTokens + minted }

/-- The part of a reserve that some shares are worth, rounded down. -/
def LiquidityPool.worth (pool : LiquidityPool) (reserve lpAmount : Int) : Int :=
  (reserve * lpAmount).tdiv pool.totalLpTokens

def LiquidityPool.withdrawn (pool : LiquidityPool) (lpAmount : Int) : LiquidityPool :=
  { pool with
    reserveA := pool.reserveA - pool.worth pool.reserveA lpAmount
    reserveB := pool.reserveB - pool.worth pool.reserveB lpAmount
    totalLpTokens := pool.totalLpTokens - lpAmount }

def amountAfterFee (amountIn : Int) (feeBps : Nat) : Int :=
  amountIn - (amountIn * feeBps).tdiv basisPointsDenominator

structure Exchanged (poolType : PoolType) (amount reserveIn reserveOut out : Int) : Prop where
  someIn : 0 < reserveIn
  someOut : 0 < reserveOut
  pos : 0 < out
  constantProduct : poolType = .constantProduct →
    out = (amount * reserveOut).tdiv (reserveIn + amount)
  stableSwap : poolType = .stableSwap → out = min amount reserveOut

/-- A swap of one asset of a pool for the other. -/
inductive Swapped (pool : LiquidityPool) (inputAsset : String) (amount : Int) :
    LiquidityPool → Prop where
  | fromA {out : Int} (input : inputAsset = pool.assetA)
      (exchanged : Exchanged pool.poolType amount pool.reserveA pool.reserveB out) :
      Swapped pool inputAsset amount
        { pool with
          reserveA := pool.reserveA + amount
          reserveB := pool.reserveB - out }
  | fromB {out : Int} (other : inputAsset ≠ pool.assetA) (input : inputAsset = pool.assetB)
      (exchanged : Exchanged pool.poolType amount pool.reserveB pool.reserveA out) :
      Swapped pool inputAsset amount
        { pool with
          reserveB := pool.reserveB + amount
          reserveA := pool.reserveA - out }

def PoolCall.paused (call : PoolCall) : Option (Nat × Bool) :=
  match call with
  | .pausePoolTrading _ poolId => some (poolId, true)
  | .resumePoolTrading _ poolId => some (poolId, false)
  | _ => none

/-- What a returning call on the pools writes. -/
inductive PoolEffect (now : Nat) (pre : LiquidityState) : PoolCall → LiquidityState → Prop where
  | created (admin : Address) {assetA assetB : String} {pair : String × String}
      (canonical : canonicalPair assetA assetB = .ok pair)
      (free : pre.poolByPair.lookup pair = none) (poolType : PoolType) (feeBps rewardBps : Nat) :
      PoolEffect now pre
        (.createLiquidityPool admin assetA assetB poolType feeBps rewardBps)
        { pre with
          poolCounter := pre.poolCounter + 1
          pools := pre.pools.insert (pre.poolCounter + 1)
            ⟨pair.1, pair.2, 0, 0, 0, feeBps, rewardBps, poolType, now, false⟩
          poolByPair := pre.poolByPair.insert pair (pre.poolCounter + 1) }
  | added {provider : Address} {poolId : Nat} {amountA amountB : Amount} {pool : LiquidityPool}
      {minted : Int} (has : pre.pools.lookup poolId = some pool)
      (deposit : Deposit pool amountA amountB minted)
      (consistent : (pool.deposited amountA amountB minted).IsConsistent) (rewards : Int) :
      PoolEffect now pre (.addBridgeLiquidity provider poolId amountA amountB)
        ((pre.putPool poolId (pool.deposited amountA amountB minted)).putPosition provider
          poolId ⟨(pre.position provider poolId).lpTokens + minted, rewards⟩)
  | removed {provider : Address} (recipient : Address) {poolId : Nat} {lpAmount : Amount}
      {pool : LiquidityPool} (has : pre.pools.lookup poolId = some pool)
      (pos : 0 < lpAmount.val)
      (held : lpAmount.val ≤ (pre.position provider poolId).lpTokens)
      (supplied : 0 < pool.totalLpTokens) (consistent : (pool.withdrawn lpAmount).IsConsistent)
      (rewards : Int) :
      PoolEffect now pre (.removeBridgeLiquidity provider recipient poolId lpAmount)
        ((pre.putPool poolId (pool.withdrawn lpAmount)).putPosition provider poolId
          ⟨(pre.position provider poolId).lpTokens - lpAmount, rewards⟩)
  | swapped (trader : Address) {poolId : Nat} {inputAsset : String}
      {amountIn minAmountOut : Amount} {pool swapped : LiquidityPool}
      (has : pre.pools.lookup poolId = some pool)
      (swap : Swapped pool inputAsset (amountAfterFee amountIn pool.feeBps) swapped)
      (consistent : swapped.IsConsistent) :
      PoolEffect now pre (.swapBridgeAssets trader poolId inputAsset amountIn minAmountOut)
        (pre.putPool poolId swapped)
  | paused {call : PoolCall} {poolId : Nat} {paused : Bool} {pool : LiquidityPool}
      (called : call.paused = some (poolId, paused))
      (has : pre.pools.lookup poolId = some pool) :
      PoolEffect now pre call
        (pre.putPool poolId { pool with tradingPaused := paused })
  | permitted {call : PoolCall} (approvals : Table (Address × Address) Bool)
      (operators : Table Nat Address) :
      PoolEffect now pre call
        { pre with
          withdrawalApprovals := approvals
          poolOperators := operators }

section Rules

variable {pre : LiquidityState}

theorem wp_shares {α : Type} {post : α → LiquidityState → Prop} (value : Except ShareMintError α) :
    wp (shares value) post (fun _ _ => True) pre ↔ ∀ hit, value = .ok hit → post hit pre := by
  cases value <;> simp [shares]

theorem checked_ok {value : Option Int} {hit : Int} :
    checked value = .ok hit ↔ value = some hit := by
  cases value <;> simp [checked]

theorem wp_getPool {post : LiquidityPool → LiquidityState → Prop} (poolId : Nat) :
    wp (getPool poolId) post (fun _ _ => True) pre ↔
      ∀ pool, pre.pools.lookup poolId = some pool → post pool pre := by
  simp [getPool]

variable {post : Unit → LiquidityState → Prop} {fault : Fault BridgeError → LiquidityState → Prop}

theorem wp_storePool (poolId : Nat) (pool : LiquidityPool) :
    wp (storePool poolId pool) post fault pre ↔ post () (pre.putPool poolId pool) := Iff.rfl

variable (provider : Address)

theorem wp_storePosition (poolId : Nat) (position : LiquidityPosition) :
    wp (storePosition provider poolId position) post fault pre ↔
      post () (pre.putPosition provider poolId position) := Iff.rfl

theorem wp_validatePoolInvariants (pool : LiquidityPool) :
    wp (validatePoolInvariants pool) post (fun _ _ => True) pre ↔
      (pool.IsConsistent → post () pre) := by
  simp [validatePoolInvariants]

theorem wp_proportion {post : Int → LiquidityState → Prop} (amount part whole : Int)
    (holds : post ((amount * part).tdiv whole) pre) :
    wp (proportion amount part whole) post (fun _ _ => True) pre := by
  rw [proportion, wp_shares]
  intro hit isFound
  obtain ⟨product, isProduct, rfl⟩ := Option.map_eq_some_iff.mp (checked_ok.mp isFound)
  obtain ⟨_, rfl⟩ := i128.checked_ok isProduct
  exact holds

theorem wp_rawDiv {post : Int → LiquidityState → Prop} (left right : Int)
    (holds : post (left.tdiv right) pre) : wlp (rawDiv left right) post pre := by
  simp only [rawDiv, wp_orTrap, asks_true]
  intro hit isFound
  rw [Range.checkedDiv] at isFound
  split at isFound
  · cases isFound
  · obtain ⟨_, rfl⟩ := i128.checked_ok isFound
    exact holds

/-- The checked quotient is the truncated one. -/
theorem checkedMulDivFloor_exact {left right divisor hit : Int}
    (computed : checkedMulDivFloor left right divisor = some hit) :
    hit = (left * right).tdiv divisor := by
  obtain ⟨product, isProduct, quotient⟩ := Option.bind_eq_some_iff.mp computed
  obtain ⟨_, rfl⟩ := i128.checked_ok isProduct
  rw [Range.checkedDiv] at quotient
  split at quotient
  · cases quotient
  · exact (i128.checked_ok quotient).2.symm

theorem bind_ok {ε α β : Type} {value : Except ε α} {next : α → Except ε β} {result : β} :
    (value >>= next) = .ok result ↔ ∃ hit, value = .ok hit ∧ next hit = .ok result := by
  cases value with
  | error reason => exact ⟨fun wrong => (by cases wrong), fun ⟨_, wrong, _⟩ => (by cases wrong)⟩
  | ok hit => exact ⟨fun same => ⟨hit, rfl, same⟩, fun ⟨_, rfl, same⟩ => same⟩

variable {ε α : Type}

theorem throw_ne {reason : ε} {result : α} :
    ¬ (throw reason : Except ε α) = .ok result := fun wrong => by cases wrong

theorem pure_ok {value result : α} : (pure value : Except ε α) = .ok result ↔ value = result :=
  ⟨fun same => Except.ok.inj same, fun same => congrArg _ same⟩

theorem ite_ok {condition : Prop} [Decidable condition] {first second : Except ε α} {result : α} :
    (if condition then first else second) = .ok result ↔
      condition ∧ first = .ok result ∨ ¬ condition ∧ second = .ok result := by
  split <;> simp [*]

/-- Shares that are minted for amounts make a deposit. -/
theorem computeMintShares_ok {pool : LiquidityPool} {amountA amountB minted : Int}
    (computed : computeMintShares pool.reserveA pool.reserveB pool.totalLpTokens amountA amountB =
      .ok minted) : Deposit pool amountA amountB minted := by
  simp only [computeMintShares, ite_ok, bind_ok, throw_ne, pure_ok, false_and, and_false,
    exists_false, false_or, exists_eq_left', checked_ok, not_or, not_not, not_le] at computed
  obtain ⟨⟨positiveA, positiveB⟩, ⟨empty, ⟨noA, noB⟩, product, isProduct, pos, rfl⟩ |
    ⟨present, ⟨nonneg, someA, someB⟩, lpA, isA, lpB, isB, pos, rfl⟩⟩ := computed
  · obtain ⟨_, rfl⟩ := i128.checked_ok isProduct
    exact ⟨positiveA, positiveB, pos, .first empty noA noB⟩
  · cases checkedMulDivFloor_exact isA
    cases checkedMulDivFloor_exact isB
    refine ⟨positiveA, positiveB, pos, .later ?_ someA someB⟩
    omega

/-- A returning call makes one deposit into a stored pool. -/
theorem addLiquidity_spec (poolId : Nat) (amountA amountB : Int) :
    wlp (addLiquidity provider poolId amountA amountB)
      (fun minted after => ∃ pool rewards, pre.pools.lookup poolId = some pool ∧
        Deposit pool amountA amountB minted ∧ (pool.deposited amountA amountB minted).IsConsistent ∧
        after = (pre.putPool poolId (pool.deposited amountA amountB minted)).putPosition provider
          poolId ⟨(pre.position provider poolId).lpTokens + minted, rewards⟩) pre := by
  simp only [addLiquidity, wlp_rules, wp_getPool, wp_shares, checked_ok, wp_validatePoolInvariants,
    wp_storePool, wp_storePosition]
  intro _ pool has minted computed _ _ reserveA isA reserveB isB totalLpTokens isTotal lpTokens
    isTokens rewards _ consistent
  obtain ⟨_, rfl⟩ := i128.checked_ok isA
  obtain ⟨_, rfl⟩ := i128.checked_ok isB
  obtain ⟨_, rfl⟩ := i128.checked_ok isTotal
  obtain ⟨_, rfl⟩ := i128.checked_ok isTokens
  exact ⟨pool, rewards, has, computeMintShares_ok computed, consistent, rfl⟩

/-- A returning call makes one withdrawal from a stored pool. -/
theorem removeLiquidity_spec (recipient : Address) (poolId : Nat) (lpAmount : Int) :
    wlp (removeLiquidity provider recipient poolId lpAmount)
      (fun paid after => ∃ pool rewards, pre.pools.lookup poolId = some pool ∧
        0 < lpAmount ∧ lpAmount ≤ (pre.position provider poolId).lpTokens ∧
        0 < pool.totalLpTokens ∧ (pool.withdrawn lpAmount).IsConsistent ∧
        paid.1 = pool.worth pool.reserveA lpAmount ∧ paid.2.1 = pool.worth pool.reserveB lpAmount ∧
        after = (pre.putPool poolId (pool.withdrawn lpAmount)).putPosition provider poolId
          ⟨(pre.position provider poolId).lpTokens - lpAmount, rewards⟩) pre := by
  simp only [removeLiquidity, wlp_rules, wp_getPool]
  intro pos _ pool has held
  obtain ⟨covered, supplied⟩ := not_or.mp held
  refine wp_proportion _ _ _ ?_
  refine wp_proportion _ _ _ ?_
  have present : (pre.position provider poolId).lpTokens ≠ 0 := by omega
  rw [if_neg present, wp_bind]
  refine wp_proportion _ _ _ ?_
  simp only [wp_rules, wp_shares, checked_ok, wp_validatePoolInvariants, wp_storePool,
    wp_storePosition]
  intro lpTokens isTokens rewards _ reserveA isA reserveB isB totalLpTokens isTotal consistent
  obtain ⟨_, rfl⟩ := i128.checked_ok isTokens
  obtain ⟨_, rfl⟩ := i128.checked_ok isA
  obtain ⟨_, rfl⟩ := i128.checked_ok isB
  obtain ⟨_, rfl⟩ := i128.checked_ok isTotal
  exact ⟨pool, rewards, has, not_le.mp pos, not_lt.mp covered, not_le.mp supplied,
    consistent, rfl, rfl, rfl⟩

theorem wp_afterFee {post : Int × Int → LiquidityState → Prop} (amountIn : Int) (feeBps : Nat)
    (holds : ∀ feePaid, post (amountAfterFee amountIn feeBps, feePaid) pre) :
    wlp (afterFee amountIn feeBps) post pre := by
  simp only [afterFee, wp_rules, wp_raw]
  intro _
  refine wp_rawDiv _ _ ?_
  exact fun _ => holds _

/-- What is paid out for an amount, under either pool type. -/
theorem wp_exchange {post : Int × Int × Int → LiquidityState → Prop} (poolType : PoolType)
    (amount reserveIn reserveOut : Int)
    (holds : ∀ out, (0 < out → Exchanged poolType amount reserveIn reserveOut out) →
      post (out, reserveIn + amount, reserveOut - out) pre) :
    wlp (exchange poolType amount reserveIn reserveOut) post pre := by
  simp only [exchange, quoteSwap, wlp_rules]
  intro present
  obtain ⟨someIn, someOut⟩ := not_or.mp present
  cases poolType with
  | constantProduct =>
    simp only [wp_rules, wp_raw]
    intro _ _
    refine wp_rawDiv _ _ ?_
    intro _ _
    exact holds _ fun pos =>
      ⟨not_le.mp someIn, not_le.mp someOut, pos, fun _ => rfl, fun other => by cases other⟩
  | stableSwap =>
    simp only [wp_raw, wp_pure]
    intro _ _
    exact holds _ fun pos =>
      ⟨not_le.mp someIn, not_le.mp someOut, pos, fun other => (by cases other), fun _ => rfl⟩

/-- A returning swap exchanges within one pool. -/
theorem swap_spec (now : Nat) (trader : Address) (poolId : Nat) (inputAsset : String)
    (amountIn minAmountOut : Amount) : wlp (swap poolId inputAsset amountIn minAmountOut)
      (fun _ after => PoolEffect now pre
        (.swapBridgeAssets trader poolId inputAsset amountIn minAmountOut) after) pre := by
  simp only [swap, wlp_rules, wp_getPool]
  intro _ pool has _
  refine wp_afterFee _ _ fun feePaid => ?_
  simp only [wp_ite, wp_bind]
  refine ⟨fun input => ?_, fun other => ⟨fun input => ?_, fun _ => ?_⟩⟩
  · refine wp_exchange _ _ _ _ fun out exchanged => ?_
    simp only [wlp_rules, wp_validatePoolInvariants, wp_storePool]
    intro bought consistent
    exact .swapped trader has
      (.fromA input (exchanged (not_le.mp (not_or.mp bought).2))) consistent
  · refine wp_exchange _ _ _ _ fun out exchanged => ?_
    simp only [wlp_rules, wp_validatePoolInvariants, wp_storePool]
    intro bought consistent
    exact .swapped trader has
      (.fromB other input (exchanged (not_le.mp (not_or.mp bought).2))) consistent
  · simp

theorem setTradingPaused_spec (now : Nat) {call : PoolCall} {poolId : Nat} {paused : Bool}
    (called : call.paused = some (poolId, paused)) :
    wlp (setTradingPaused poolId paused) (fun _ after => PoolEffect now pre call after) pre := by
  simp only [setTradingPaused, wp_bind, wp_getPool, wp_storePool]
  exact fun pool has => .paused called has

/-- Every returning call on pools has one of the effects. -/
theorem PoolCall.onPools_effect (call : PoolCall) (env : Env) :
    wlp (call.onPools env) (fun _ after => PoolEffect env.timestamp pre call after) pre := by
  cases call with
  | createLiquidityPool admin assetA assetB poolType feeBps rewardBps =>
    simp only [onPools, createPool, nextPoolId, wp_discard, wp_bind, wp_get, wp_ensure, wp_demand,
      wp_modify, wp_pure, wp_storePool, implies_true, and_true]
    cases canonical : canonicalPair assetA assetB with
    | error reason => simp
    | ok pair => exact fun free _ => .created admin canonical free poolType feeBps rewardBps
  | addBridgeLiquidity provider poolId amountA amountB =>
    simp only [onPools, wp_discard]
    refine wp_then (addLiquidity_spec provider poolId amountA amountB) ?_
    rintro minted _ ⟨pool, rewards, has, deposit, consistent, rfl⟩
    exact .added has deposit consistent rewards
  | removeBridgeLiquidity provider recipient poolId lpAmount =>
    simp only [onPools, wp_discard]
    refine wp_then (removeLiquidity_spec provider recipient poolId lpAmount) ?_
    rintro paid _ ⟨pool, rewards, has, pos, held, supplied, consistent, _, _, rfl⟩
    exact .removed recipient has pos held supplied consistent rewards
  | swapBridgeAssets trader poolId inputAsset amountIn minAmountOut =>
    simp only [onPools, wp_discard]
    exact swap_spec env.timestamp trader poolId inputAsset amountIn minAmountOut
  | approveWithdrawalRecipient | revokeWithdrawalRecipient =>
    exact .permitted _ pre.poolOperators
  | setPoolOperator => exact .permitted pre.withdrawalApprovals _
  | _ => exact setTradingPaused_spec env.timestamp rfl

end Rules

/-- The effect of a call on the pools; other calls leave them alone. -/
inductive LiquidityMoved (now : Nat) (call : BridgeCall) (pre : LiquidityState) :
    LiquidityState → Prop where
  | kept : LiquidityMoved now call pre pre
  | pool {poolCall : PoolCall} {after : LiquidityState} (called : call = .pool poolCall)
      (effect : PoolEffect now pre poolCall after) : LiquidityMoved now call pre after

theorem BridgeCall.exec_liquidity {pre : BridgeStore} (key : MessageKey) (call : BridgeCall)
    (env : Env) : wlp (call.exec key env)
      (fun _ after => LiquidityMoved env.timestamp call pre.liquidity after.liquidity) pre := by
  cases call with
  | settings call =>
    refine wp_then (call.exec_effect env) (fun _ after effect => ?_)
    rw [effect.liquidity]
    exact .kept
  | transfer call =>
    refine wp_then (call.exec_effect key env) (fun _ after effect => ?_)
    cases effect with
    | initiateLockMint registered | initiateLockMintWithExpiry registered =>
      cases registered
      exact .kept
    | approveLockMint approved | approveBurnUnlock approved =>
      cases approved
      exact .kept
    | _ => exact .kept
  | pool call =>
    refine wp_then (call.exec_pools env (call.onPools_effect env)) ?_
    rintro _ after ⟨liquidity, effect, rfl⟩
    exact .pool rfl effect

/-- A step moves liquidity by a call on pools only. -/
theorem bridgeStep_liquidity (key : MessageKey) (ledger : Ledger BridgeStore)
    (input : BridgeInput) :
    LiquidityMoved (ledger.timestamp + input.arrival.seconds) input.call ledger.store.liquidity
      (bridgeStep key input ledger).store.liquidity := by
  by_cases returns : Accepts (input.call.exec key (ledger.env input.arrival)) ledger.store
  · obtain ⟨value, gave⟩ := gave_of_accepts returns
    exact wp_ok (input.call.exec_liquidity key (ledger.env input.arrival)) gave
  · have same : (bridgeStep key input ledger).store = ledger.store := invoke_of_rejected returns
    rw [same]
    exact .kept

end StellarSwipe.Bridge
