import StellarSwipe.Bridge.Types
import StellarSwipe.Library.IntegerRoot
import Mathlib.Data.Nat.Size

/-!
# Liquidity pools

A pool holds reserves of two assets and shares of them.
-/

namespace StellarSwipe.Bridge

open FixedWidth Program

abbrev LiquidityProgram := Program LiquidityState BridgeError

def basisPointsDenominator : Int := 10000

/-- Why a calculation of minted shares was rejected. -/
inductive ShareMintError where
  | invalidDeposit
  | inconsistentPool
  | overflow
  | zeroShares

def ShareMintError.toBridgeError (reason : ShareMintError) : BridgeError :=
  match reason with
  | .inconsistentPool => .invalidOperation
  | .invalidDeposit | .overflow | .zeroShares => .invalidAmount

def checked (value : Option Int) : Except ShareMintError Int :=
  match value with
  | some exact => .ok exact
  | none => .error .overflow

/-- A calculation of shares as part of a call. -/
def shares {α : Type} (value : Except ShareMintError α) : LiquidityProgram α :=
  match value with
  | .ok hit => pure hit
  | .error reason => fail reason.toBridgeError

/-- Arithmetic that stops the call when it leaves the type. -/
def raw {σ : Type} (value : Int) : Program σ BridgeError Int := orTrap (i128.checked value)

/-- A product divided and rounded down, if it and the quotient fit. -/
def checkedMulDivFloor (left right divisor : Int) : Option Int :=
  (i128.checkedMul left right).bind fun product => i128.checkedDiv product divisor

/-- The floor of the square root, from a power of two above it. -/
def integerSqrt (value : Int) : Int :=
  if value ≤ 0 then 0
  else
    let bits := Nat.size value.toNat
    let guess := 2 ^ ((bits + 1) / 2)
    IntegerRoot.descend value.toNat guess guess

/-- Assets in ascending order. -/
def canonicalPair (assetA assetB : String) : Except BridgeError (String × String) :=
  if assetA < assetB then .ok (assetA, assetB)
  else if assetB < assetA then .ok (assetB, assetA)
  else .error .identicalPoolAssets

variable (state : LiquidityState)

/-- The pool of two assets in either order. -/
def findPoolForPair (assetA assetB : String) : Option Nat :=
  match canonicalPair assetA assetB with
  | .ok pair => state.poolByPair.lookup pair
  | .error _ => none

variable (provider : Address) (poolId : Nat) (pool : LiquidityPool)

/-- What is checked of every pool that is stored. -/
def LiquidityPool.IsConsistent : Prop :=
  ¬ (pool.reserveA < 0 ∨ pool.reserveB < 0 ∨ pool.totalLpTokens < 0) ∧
    ((pool.reserveA = 0 ∧ pool.reserveB = 0) ↔ pool.totalLpTokens = 0)
deriving Decidable

def validatePoolInvariants : LiquidityProgram Unit :=
  ensure pool.IsConsistent .poolInvariantViolation

def getPool : LiquidityProgram LiquidityPool := do
  orFail ((← get).pools.lookup poolId) .transferNotFound

def LiquidityState.position : LiquidityPosition :=
  (state.positions.lookup (poolId, provider)).getD ⟨0, 0⟩

def LiquidityState.putPool : LiquidityState :=
  { state with pools := state.pools.insert poolId pool }

def LiquidityState.putPosition (position : LiquidityPosition) : LiquidityState :=
  { state with positions := state.positions.insert (poolId, provider) position }

def storePool : LiquidityProgram Unit :=
  modify fun state => state.putPool poolId pool

def storePosition (position : LiquidityPosition) : LiquidityProgram Unit :=
  modify fun state => state.putPosition provider poolId position

def nextPoolId : LiquidityProgram Nat := do
  let next := (← get).poolCounter + 1
  demand (next ≤ u64Max)
  modify fun state => { state with poolCounter := next }
  pure next

def createPool (env : Env) (assetA assetB : String) (poolType : PoolType) (feeBps rewardBps : Nat) :
    LiquidityProgram Nat := do
  let pair ← ofExcept (canonicalPair assetA assetB)
  ensure ((← get).poolByPair.lookup pair = none) .poolAlreadyExists
  let poolId ← nextPoolId
  storePool poolId
    { assetA := pair.1
      assetB := pair.2
      reserveA := 0
      reserveB := 0
      totalLpTokens := 0
      feeBps
      rewardBps
      poolType
      createdAt := env.timestamp
      tradingPaused := false }
  modify fun state => { state with poolByPair := state.poolByPair.insert pair poolId }
  pure poolId

/-- The shares minted for a deposit: the root of the product of the first amounts, and
later the smaller of the two amounts' shares of their reserves. -/
def computeMintShares (reserveA reserveB totalLp amountA amountB : Int) :
    Except ShareMintError Int := do
  if amountA ≤ 0 ∨ amountB ≤ 0 then throw .invalidDeposit
  let minted ←
    if totalLp = 0 then
      if reserveA ≠ 0 ∨ reserveB ≠ 0 then throw .inconsistentPool
      else do
        let product ← checked (i128.checkedMul amountA amountB)
        pure (integerSqrt product)
    else if totalLp < 0 ∨ reserveA ≤ 0 ∨ reserveB ≤ 0 then throw .inconsistentPool
    else do
      let lpA ← checked (checkedMulDivFloor amountA totalLp reserveA)
      let lpB ← checked (checkedMulDivFloor amountB totalLp reserveB)
      pure (min lpA lpB)
  if minted ≤ 0 then throw .zeroShares
  pure minted

/-- Deposit amounts of both assets for shares and a reward. -/
def addLiquidity (amountA amountB : Int) : LiquidityProgram Int := do
  ensure (¬ (amountA ≤ 0 ∨ amountB ≤ 0)) .invalidAmount
  let pool ← getPool poolId
  let minted ← shares (computeMintShares pool.reserveA pool.reserveB pool.totalLpTokens amountA
    amountB)
  let position := (← get).position provider poolId
  let reward ← shares (checked ((i128.checkedAdd amountA amountB).bind fun total =>
    checkedMulDivFloor total pool.rewardBps basisPointsDenominator))
  let reserveA ← shares (checked (i128.checkedAdd pool.reserveA amountA))
  let reserveB ← shares (checked (i128.checkedAdd pool.reserveB amountB))
  let totalLpTokens ← shares (checked (i128.checkedAdd pool.totalLpTokens minted))
  let lpTokens ← shares (checked (i128.checkedAdd position.lpTokens minted))
  let rewardsEarned ← shares (checked (i128.checkedAdd position.rewardsEarned reward))
  let grown := { pool with
    reserveA
    reserveB
    totalLpTokens }
  validatePoolInvariants grown
  storePool poolId grown
  storePosition provider poolId ⟨lpTokens, rewardsEarned⟩
  pure minted

/-- A part of an amount, rounded down. -/
def proportion (amount part whole : Int) : LiquidityProgram Int :=
  shares (checked ((i128.checkedMul amount part).map fun product => product.tdiv whole))

/-- Withdraw shares for their part of both reserves and of the provider's rewards. -/
def removeLiquidity (recipient : Address) (poolId : Nat) (lpAmount : Int) :
    LiquidityProgram (Int × Int × Int) := do
  ensure (¬ lpAmount ≤ 0) .invalidAmount
  ensure (¬ (recipient ≠ provider ∧
    ((← get).withdrawalApprovals.lookup (provider, recipient)).getD false = false))
    .unauthorizedRecipient
  let pool ← getPool poolId
  let position := (← get).position provider poolId
  ensure (¬ (position.lpTokens < lpAmount ∨ pool.totalLpTokens ≤ 0)) .invalidAmount
  let amountA ← proportion pool.reserveA lpAmount pool.totalLpTokens
  let amountB ← proportion pool.reserveB lpAmount pool.totalLpTokens
  let reward ← if position.lpTokens = 0 then pure 0
    else proportion position.rewardsEarned lpAmount position.lpTokens
  let lpTokens ← shares (checked (i128.checkedSub position.lpTokens lpAmount))
  let rewardsEarned ← shares (checked (i128.checkedSub position.rewardsEarned reward))
  let reserveA ← shares (checked (i128.checkedSub pool.reserveA amountA))
  let reserveB ← shares (checked (i128.checkedSub pool.reserveB amountB))
  let totalLpTokens ← shares (checked (i128.checkedSub pool.totalLpTokens lpAmount))
  let shrunk := { pool with
    reserveA
    reserveB
    totalLpTokens }
  validatePoolInvariants shrunk
  storePool poolId shrunk
  storePosition provider poolId ⟨lpTokens, rewardsEarned⟩
  pure (amountA, amountB, reward)

/-- Division that stops the call on a zero divisor or a quotient that does not fit. -/
def rawDiv (left right : Int) : LiquidityProgram Int := orTrap (i128.checkedDiv left right)

/-- What an amount after its fee buys. -/
def quoteSwap (poolType : PoolType) (amountIn reserveIn reserveOut : Int) :
    LiquidityProgram Int := do
  ensure (¬ (reserveIn ≤ 0 ∨ reserveOut ≤ 0)) .invalidOperation
  match poolType with
  | .constantProduct => do
    let numerator ← raw (amountIn * reserveOut)
    let denominator ← raw (reserveIn + amountIn)
    rawDiv numerator denominator
  | .stableSwap => pure (min amountIn reserveOut)

structure SwapResult where
  amountIn : Int
  amountOut : Int
  feePaid : Int
  newReserveIn : Int
  newReserveOut : Int

/-- The amount that a swap's fee leaves, and the fee. -/
def afterFee (amountIn : Int) (feeBps : Nat) : LiquidityProgram (Int × Int) := do
  let fee ← raw (amountIn * feeBps)
  let feePaid ← rawDiv fee basisPointsDenominator
  let amountAfterFee ← raw (amountIn - feePaid)
  pure (amountAfterFee, feePaid)

def exchange (poolType : PoolType) (amountAfterFee reserveIn reserveOut : Int) :
    LiquidityProgram (Int × Int × Int) := do
  let out ← quoteSwap poolType amountAfterFee reserveIn reserveOut
  let newReserveIn ← raw (reserveIn + amountAfterFee)
  let newReserveOut ← raw (reserveOut - out)
  pure (out, newReserveIn, newReserveOut)

/-- Swap an amount of one asset of a pool for at least some amount of the other. -/
def swap (inputAsset : String) (amountIn minAmountOut : Int) : LiquidityProgram SwapResult := do
  ensure (¬ amountIn ≤ 0) .invalidAmount
  let pool ← getPool poolId
  ensure (pool.tradingPaused = false) .poolTradingPaused
  let (amountAfterFee, feePaid) ← afterFee amountIn pool.feeBps
  if inputAsset = pool.assetA then do
    let (out, reserveIn, reserveOut) ← exchange pool.poolType amountAfterFee pool.reserveA
      pool.reserveB
    ensure (¬ (out < minAmountOut ∨ out ≤ 0)) .invalidOperation
    let swapped := { pool with
      reserveA := reserveIn
      reserveB := reserveOut }
    validatePoolInvariants swapped
    storePool poolId swapped
    pure ⟨amountIn, out, feePaid, reserveIn, reserveOut⟩
  else if inputAsset = pool.assetB then do
    let (out, reserveIn, reserveOut) ← exchange pool.poolType amountAfterFee pool.reserveB
      pool.reserveA
    ensure (¬ (out < minAmountOut ∨ out ≤ 0)) .invalidOperation
    let swapped := { pool with
      reserveB := reserveIn
      reserveA := reserveOut }
    validatePoolInvariants swapped
    storePool poolId swapped
    pure ⟨amountIn, out, feePaid, reserveIn, reserveOut⟩
  else fail .invalidOperation

/-- Pause or resume the swaps of a pool. -/
def setTradingPaused (paused : Bool) : LiquidityProgram Unit := do
  let pool ← getPool poolId
  storePool poolId { pool with tradingPaused := paused }

def pauseTrading : LiquidityProgram Unit := setTradingPaused poolId true

def resumeTrading : LiquidityProgram Unit := setTradingPaused poolId false

/-- Allow an address to receive a provider's withdrawals. -/
def approveWithdrawalRecipient (recipient : Address) : LiquidityProgram Unit :=
  modify fun state => { state with
    withdrawalApprovals := state.withdrawalApprovals.insert (provider, recipient) true }

def revokeWithdrawalRecipient (recipient : Address) : LiquidityProgram Unit :=
  modify fun state => { state with
    withdrawalApprovals := state.withdrawalApprovals.erase (provider, recipient) }

def setPoolOperator (operator : Address) : LiquidityProgram Unit :=
  modify fun state => { state with poolOperators := state.poolOperators.insert poolId operator }

end StellarSwipe.Bridge
