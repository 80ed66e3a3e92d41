import StellarSwipe.Bridge.Transfers

/-!
# The bridge contract

The calls of the bridge arrive in any order at any times and work on one storage.
-/

namespace StellarSwipe.Bridge

open FixedWidth Program Runs

/-- One call that changes how the contract works. -/
inductive SettingsCall where
  | setUp (admin : Address) (validators : List Address) (requiredValidatorSignatures : Nat)
      (maxTransferAmount dailyTransferLimit : Amount) (withdrawDelaySeconds : Nat)
  | registerWrappedAsset (admin : Address) (sourceChain : ChainId)
      (sourceAsset wrappedAsset : String) (decimals : Nat)
  | setGovernance (admin governance : Address)
  | applyGovernancePause (paused : Bool)
  | updateLiquidityBuffer (admin : Address) (buffer : Amount)
  | addSupportedChain (admin : Address) (chain : ChainId)
  | removeSupportedChain (admin : Address) (chain : ChainId)
  | setDeploymentId (admin deploymentId : Address)
  | setWithdrawalRouteLimit (admin : Address) (route : Route)
      (perMessageLimit aggregateWindowLimit : Amount) (windowSeconds : Nat)

inductive TransferCall where
  | initiateLockMint (request : LockMintRequest)
  | initiateLockMintWithExpiry (request : LockMintRequest) (expiresAt : Nat)
  | approveLockMint (validator : Address) (transferId : Nat) (signature : String)
  | executeLockMint (admin : Address) (transferId : Nat)
  | initiateBurnUnlock (request : BurnUnlockRequest)
  | approveBurnUnlock (validator : Address) (transferId : Nat) (signature : String)
  | executeBurnUnlock (admin : Address) (transferId : Nat)
  | markTransferFailed (admin : Address) (transferId : Nat) (reason : String) (retryable : Bool)
  | retryTransfer (admin : Address) (transferId : Nat)

inductive PoolCall where
  | createLiquidityPool (admin : Address) (assetA assetB : String) (poolType : PoolType)
      (feeBps rewardBps : Nat)
  | addBridgeLiquidity (provider : Address) (poolId : Nat) (amountA amountB : Amount)
  | removeBridgeLiquidity (provider recipient : Address) (poolId : Nat) (lpAmount : Amount)
  | swapBridgeAssets (trader : Address) (poolId : Nat) (inputAsset : String)
      (amountIn minAmountOut : Amount)
  | approveWithdrawalRecipient (provider recipient : Address)
  | revokeWithdrawalRecipient (provider recipient : Address)
  | setPoolOperator (admin : Address) (poolId : Nat) (operator : Address)
  | pausePoolTrading (caller : Address) (poolId : Nat)
  | resumePoolTrading (caller : Address) (poolId : Nat)

/-- The pool's operator, or the admin where none is set. -/
def requirePoolOperator (caller : Address) (poolId : Nat) : BridgeProgram Unit := do
  match (← get).liquidity.poolOperators.lookup poolId with
  | some operator => ensure (operator = caller) .unauthorizedValidator
  | none => do
    let config ← getConfig
    ensure (config.admin = caller) .unauthorizedValidator

/-- The entry point of a call. -/
def SettingsCall.exec (call : SettingsCall) (env : Env) : BridgeProgram Unit :=
  match call with
  | .setUp admin validators requiredValidatorSignatures maxTransferAmount dailyTransferLimit
      withdrawDelaySeconds =>
    initializeBridge env admin validators requiredValidatorSignatures maxTransferAmount
      dailyTransferLimit withdrawDelaySeconds
  | .registerWrappedAsset admin sourceChain sourceAsset wrappedAsset decimals =>
    Bridge.registerWrappedAsset env admin sourceChain sourceAsset wrappedAsset decimals
  | .setGovernance admin governance => Bridge.setGovernance env admin governance
  | .applyGovernancePause paused => Bridge.applyGovernancePause env paused
  | .updateLiquidityBuffer admin buffer => Bridge.updateLiquidityBuffer env admin buffer
  | .addSupportedChain admin chain => Bridge.addSupportedChain env admin chain
  | .removeSupportedChain admin chain => Bridge.removeSupportedChain env admin chain
  | .setDeploymentId admin deploymentId => Bridge.setDeploymentId env admin deploymentId
  | .setWithdrawalRouteLimit admin route perMessageLimit aggregateWindowLimit windowSeconds =>
    Bridge.setWithdrawalRouteLimit env admin route perMessageLimit aggregateWindowLimit
      windowSeconds

/-- The entry point of a call. -/
def TransferCall.exec (key : MessageKey) (call : TransferCall) (env : Env) : BridgeProgram Unit :=
  match call with
  | .initiateLockMint request => discard (Bridge.initiateLockMint key env request)
  | .initiateLockMintWithExpiry request expiresAt =>
    discard (Bridge.initiateLockMintWithExpiry key env request expiresAt)
  | .approveLockMint validator transferId signature =>
    Bridge.approveLockMint env validator transferId signature
  | .executeLockMint admin transferId => Bridge.executeLockMint key env admin transferId
  | .initiateBurnUnlock request => discard (Bridge.initiateBurnUnlock env request)
  | .approveBurnUnlock validator transferId signature =>
    Bridge.approveBurnUnlock env validator transferId signature
  | .executeBurnUnlock admin transferId => Bridge.executeBurnUnlock env admin transferId
  | .markTransferFailed admin transferId reason retryable =>
    Bridge.markTransferFailed env admin transferId reason retryable
  | .retryTransfer admin transferId => Bridge.retryTransfer env admin transferId

/-- The entry point of a call. -/
def PoolCall.exec (call : PoolCall) (env : Env) : BridgeProgram Unit :=
  match call with
  | .createLiquidityPool admin assetA assetB poolType feeBps rewardBps => do
    discard (requireAdmin admin)
    requireAuth env admin
    ensureWrappedAssetExists assetA
    ensureWrappedAssetExists assetB
    discard (onLiquidity (createPool env assetA assetB poolType feeBps rewardBps))
  | .addBridgeLiquidity provider poolId amountA amountB => do
    requireAuth env provider
    discard (onLiquidity (addLiquidity provider poolId amountA amountB))
  | .removeBridgeLiquidity provider recipient poolId lpAmount => do
    requireAuth env provider
    discard (onLiquidity (removeLiquidity provider recipient poolId lpAmount))
  | .swapBridgeAssets trader poolId inputAsset amountIn minAmountOut => do
    requireAuth env trader
    discard (onLiquidity (swap poolId inputAsset amountIn minAmountOut))
  | .approveWithdrawalRecipient provider recipient => do
    requireAuth env provider
    onLiquidity (Bridge.approveWithdrawalRecipient provider recipient)
  | .revokeWithdrawalRecipient provider recipient => do
    requireAuth env provider
    onLiquidity (Bridge.revokeWithdrawalRecipient provider recipient)
  | .setPoolOperator admin poolId operator => do
    discard (requireAdmin admin)
    requireAuth env admin
    onLiquidity (Bridge.setPoolOperator poolId operator)
  | .pausePoolTrading caller poolId => do
    requirePoolOperator caller poolId
    requireAuth env caller
    onLiquidity (pauseTrading poolId)
  | .resumePoolTrading caller poolId => do
    requirePoolOperator caller poolId
    requireAuth env caller
    onLiquidity (resumeTrading poolId)

/-- One call of the contract. -/
inductive BridgeCall where
  | settings (call : SettingsCall)
  | transfer (call : TransferCall)
  | pool (call : PoolCall)

def BridgeCall.exec (key : MessageKey) (call : BridgeCall) (env : Env) : BridgeProgram Unit :=
  match call with
  | .settings call => call.exec env
  | .transfer call => call.exec key env
  | .pool call => call.exec env

/-- A call that arrives some time after the last one. -/
structure BridgeInput where
  arrival : Arrival
  call : BridgeCall

def bridgeStep (key : MessageKey) (input : BridgeInput) (ledger : Ledger BridgeStore) :
    Ledger BridgeStore :=
  ledger.call input.arrival (input.call.exec key)

abbrev BridgeTransition := Transition (Ledger BridgeStore) BridgeInput

namespace BridgeTransition

variable (key : MessageKey) (taken : BridgeTransition)

/-- The time at which the call arrived. -/
def now : Nat := taken.pre.timestamp + taken.input.arrival.seconds

def Returned : Prop :=
  Accepts (taken.input.call.exec key (taken.pre.env taken.input.arrival)) taken.pre.store
deriving Decidable

end BridgeTransition

def bridgeStart (timestamp sequence : Nat) : Ledger BridgeStore := ⟨.empty, timestamp, sequence⟩

/-- The ledger after some calls. -/
abbrev bridgeRun (key : MessageKey) (timestamp sequence : Nat) (inputs : List BridgeInput) :
    Ledger BridgeStore :=
  final (bridgeStep key) (bridgeStart timestamp sequence) inputs

/-- Calls by an address at some distance from the last call. -/
def callBy (caller : Address) (seconds : Nat) (call : BridgeCall) : BridgeInput :=
  ⟨⟨seconds, 0, [caller]⟩, call⟩

/-- The admin sets up two validators, who must both approve, and a wrapped asset. -/
def twoValidators : List BridgeInput :=
  [callBy 1 0 (.settings (.setUp 1 [2, 3] 2 (amountOf 1000) (amountOf 1000) 60)),
    callBy 1 0 (.settings (.registerWrappedAsset 1 .ethereum "USDC" "wUSDC" 6))]

/-- A message that moves some amount to a user. -/
def depositOf (user amount : Nat) : LockMintRequest where
  user
  destinationChain := .polygon
  sourceAsset := "USDC"
  wrappedAsset := "wUSDC"
  amount := amountOf amount
  message := ⟨.ethereum, "0x1", 1⟩
  destinationRecipient := "user"

end StellarSwipe.Bridge
