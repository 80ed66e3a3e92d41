import StellarSwipe.CrossChain.Monitoring

/-!
# Fees of a bridge

Collected fees are counted for each bridge. Validators and the treasury are due shares of all that
was ever collected; what they were announced or allocated is counted beside it.
-/

namespace StellarSwipe.CrossChain

open FixedWidth Program

namespace FeeState

variable (state : FeeState) (bridgeId : Nat)

def statsOf : BridgeFeeStats := (state.stats.lookup bridgeId).getD .empty

def putStats (stats : BridgeFeeStats) : FeeState :=
  { state with stats := state.stats.insert bridgeId stats }

end FeeState

variable (bridgeId : Nat)

def setBridgeTreasury (treasury : Address) : ChainProgram Unit := do
  let state := (← get).fees
  putFees { state with treasuries := state.treasuries.insert bridgeId treasury }

def setBridgeFeeConfig (config : BridgeFeeConfig) : ChainProgram Unit := do
  let state := (← get).fees
  putFees { state with configs := state.configs.insert bridgeId config }

def getBridgeFeeConfig : ChainProgram BridgeFeeConfig := do
  orMissing ((← get).fees.configs.lookup bridgeId) "Fee config not found"

def saveBridgeFeeStats (stats : BridgeFeeStats) : ChainProgram Unit := do
  putFees ((← get).fees.putStats bridgeId stats)

/-- The fee of an amount within its bounds, from the product of amount and rate. -/
def BridgeFeeConfig.bounded (config : BridgeFeeConfig) (product : Int) : Int :=
  let fee := product.tdiv 10000
  if fee < config.minFee then config.minFee
  else if config.maxFee < fee then config.maxFee
  else fee

def calculateBridgeFee (transferAmount : Int) : ChainProgram Int := do
  let config ← getBridgeFeeConfig bridgeId
  let product ← amount (transferAmount * config.baseFeeBps)
  pure (config.bounded product)

def collectBridgeFee (transferId : Nat) (value : Int) : ChainProgram Int := do
  let transfer ← getBridgeTransfer transferId
  let fee ← calculateBridgeFee transfer.bridgeId value
  let net ← amount (value - fee)
  let stats := (← get).fees.statsOf transfer.bridgeId
  let total ← amount (stats.totalFeesCollected + fee)
  let count ← counter u64Max (stats.transfersCount + 1)
  saveBridgeFeeStats transfer.bridgeId { stats with
    totalFeesCollected := total
    transfersCount := count
    avgFee := total.tdiv count }
  let state := (← get).fees
  let daily ← counter u64Max ((state.dailyTransfers.lookup transfer.bridgeId).getD 0 + 1)
  putFees { state with dailyTransfers := state.dailyTransfers.insert transfer.bridgeId daily }
  pure net

/-- What is configured for the chains that transfers go to, apart from the fees of bridges: a
multiplier in basis points and the bridge whose fees are estimated. -/
structure ChainFees where
  multipliers : Table ChainId Nat
  destinations : Table ChainId Nat

namespace ChainFees

variable (chains : ChainFees) (chain : ChainId)

def setChainFeeMultiplier (multiplierBps : Nat) : ChainFees :=
  { chains with multipliers := chains.multipliers.insert chain multiplierBps }

def getChainFeeMultiplier : Nat := (chains.multipliers.lookup chain).getD 10000

def getDestinationBridgeId : Nat := (chains.destinations.lookup chain).getD 1

end ChainFees

def estimateBridgeFee (chains : ChainFees) (destinationChain : ChainId) (value : Int) :
    ChainProgram Int := do
  let baseFee ← calculateBridgeFee (chains.getDestinationBridgeId destinationChain) value
  let product ← amount (baseFee * chains.getChainFeeMultiplier destinationChain)
  pure (product.tdiv 10000)

/-- What is due of a total at a percentage of hundredths, beyond what was paid. -/
def shareDue (total : Int) (pct : Nat) (paid : Int) : Int := (total * pct).tdiv 10000 - paid

/-- Announce equal rewards to the validators of what they are due. -/
def distributeValidatorRewards : ChainProgram Unit := do
  let config ← getBridgeFeeConfig bridgeId
  let stats := (← get).fees.statsOf bridgeId
  discard (amount (stats.totalFeesCollected * config.validatorRewardPct))
  let share ← amount (shareDue stats.totalFeesCollected config.validatorRewardPct
    stats.feesDistributedValidators)
  if share ≤ 0 then pure ()
  else
    let validators ← getBridgeValidators bridgeId
    check (validators ≠ []) "No validators found"
    let perValidator := share.tdiv validators.length
    let distributed ← amount (stats.feesDistributedValidators + share)
    let state := (← get).fees
    putFees { state.putStats bridgeId
        { stats with feesDistributedValidators := distributed } with
      rewards := state.rewards ++
        validators.map fun validator => ⟨bridgeId, validator, perValidator⟩ }

def allocateToTreasury : ChainProgram Unit := do
  let config ← getBridgeFeeConfig bridgeId
  let stats := (← get).fees.statsOf bridgeId
  discard (amount (stats.totalFeesCollected * config.treasuryPct))
  let share ← amount (shareDue stats.totalFeesCollected config.treasuryPct stats.feesToTreasury)
  if share ≤ 0 then pure ()
  else
    discard (orMissing ((← get).fees.treasuries.lookup bridgeId) "Treasury not set")
    let allocated ← amount (stats.feesToTreasury + share)
    saveBridgeFeeStats bridgeId { stats with feesToTreasury := allocated }

/-- How busy a bridge is, in hundredths of a percent. -/
def utilization (dailyTransfers : Nat) : Nat := min basisPoints (dailyTransfers * 10000 / 10000)

/-- Move the rate of a bridge with its utilization. -/
def adjustBridgeFeesDynamically : ChainProgram Unit := do
  let config ← getBridgeFeeConfig bridgeId
  if config.dynamicAdjustmentEnabled = false then pure ()
  else
    let daily := ((← get).fees.dailyTransfers.lookup bridgeId).getD 0
    discard (counter u64Max (daily * 10000))
    let used := utilization daily
    if used ≤ 3000 then
      setBridgeFeeConfig bridgeId { config with baseFeeBps := max 10 (config.baseFeeBps - 5) }
    else if 7000 ≤ used then do
      let raised ← counter u32Max (config.baseFeeBps + 5)
      setBridgeFeeConfig bridgeId { config with baseFeeBps := min 100 raised }
    else setBridgeFeeConfig bridgeId config

/-- Take the fee of a failed transfer out of what was collected. Nothing marks the transfer
as refunded. -/
def refundBridgeFee (transferId : Nat) : ChainProgram Unit := do
  let transfer ← getBridgeTransfer transferId
  check (transfer.status = .failed) "Only failed transfers eligible for refund"
  let stats := (← get).fees.statsOf transfer.bridgeId
  let total ← amount (stats.totalFeesCollected - transfer.feePaid)
  saveBridgeFeeStats transfer.bridgeId { stats with totalFeesCollected := total }

inductive FeeCall where
  | setTreasury (bridgeId : Nat) (treasury : Address)
  | setConfig (bridgeId : Nat) (config : BridgeFeeConfig)
  | collect (transferId : Nat) (value : Amount)
  | distribute (bridgeId : Nat)
  | allocate (bridgeId : Nat)
  | adjust (bridgeId : Nat)
  | refund (transferId : Nat)

/-- The function of a call. -/
def FeeCall.exec (call : FeeCall) : ChainProgram Unit :=
  match call with
  | .setTreasury bridgeId treasury => setBridgeTreasury bridgeId treasury
  | .setConfig bridgeId config => setBridgeFeeConfig bridgeId config
  | .collect transferId value => discard (collectBridgeFee transferId value)
  | .distribute bridgeId => distributeValidatorRewards bridgeId
  | .allocate bridgeId => allocateToTreasury bridgeId
  | .adjust bridgeId => adjustBridgeFeesDynamically bridgeId
  | .refund transferId => refundBridgeFee transferId

end StellarSwipe.CrossChain
