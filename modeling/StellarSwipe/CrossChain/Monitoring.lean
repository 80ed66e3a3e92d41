import StellarSwipe.CrossChain.Multisig

/-!
# Monitored transfers

A transfer is created, signed by validators, approved for minting and completed.
-/

namespace StellarSwipe.CrossChain

open FixedWidth Program

def basisPoints : Nat := 10000

def secondsPerDay : Nat := 86400

namespace MonitoringState

variable (state : MonitoringState)

def putTransfer (transferId : Nat) (transfer : BridgeTransfer) : MonitoringState :=
  { state with transfers := state.transfers.insert transferId transfer }

def putMonitored (transferId : Nat) (transaction : MonitoredTransaction) : MonitoringState :=
  { state with monitored := state.monitored.insert transferId transaction }

def latencyConfig : LatencyCircuitBreakerConfig := state.breakerConfig.getD .default

def analyticsOf (bridgeId : Nat) : BridgeAnalytics :=
  (state.bridgeAnalytics.lookup bridgeId).getD .empty

def analyticsOfValidator (validator : Address) (bridgeId : Nat) : ValidatorAnalytics :=
  (state.validatorAnalytics.lookup (validator, bridgeId)).getD .empty

end MonitoringState

variable (env : Env) (transferId : Nat)

def getMonitored : ChainProgram MonitoredTransaction := do
  orMissing ((← get).monitoring.monitored.lookup transferId) "Transaction not found"

def getBridgeTransfer : ChainProgram BridgeTransfer := do
  orMissing ((← get).monitoring.transfers.lookup transferId) "Transfer not found"

def storeBridgeTransfer (transfer : BridgeTransfer) : ChainProgram Unit := do
  putMonitoring ((← get).monitoring.putTransfer transferId transfer)

def storeMonitored (transaction : MonitoredTransaction) : ChainProgram Unit := do
  putMonitoring ((← get).monitoring.putMonitored transferId transaction)

def defaultFinalityConfig : ChainId → ChainFinalityConfig
  | .ethereum => ⟨32, 12, 64, .epochFinality⟩
  | .bitcoin => ⟨6, 600, 10, .probabilistic⟩
  | .polygon => ⟨128, 2, 256, .blockConfirmations⟩
  | .bnb => ⟨15, 3, 20, .blockConfirmations⟩
  | .stellar => ⟨1, 5, 0, .blockConfirmations⟩

def getChainFinalityConfig (chain : ChainId) : ChainProgram ChainFinalityConfig := do
  check (chain ≠ .stellar) "Stellar has no finality config"
  pure (((← get).monitoring.chainConfigs.lookup chain).getD (defaultFinalityConfig chain))

def setChainFinalityConfig (chain : ChainId) (config : ChainFinalityConfig) :
    ChainProgram Unit := do
  if chain = .stellar then pure ()
  else
    let state := (← get).monitoring
    putMonitoring { state with chainConfigs := state.chainConfigs.insert chain config }

def monitorSourceTransaction (txHash : String) (sourceChain : ChainId) (blockNumber : Nat) :
    ChainProgram Unit := do
  discard (getChainFinalityConfig sourceChain)
  storeMonitored transferId ⟨sourceChain, txHash, blockNumber, 0, .pending, env.timestamp, none⟩

/-- Record how long a transaction took. When the average over a full window is too long,
the breaker trips. -/
def recordFinalityLatency (latency : Nat) : ChainProgram Unit := do
  let state := (← get).monitoring
  let size := state.latencyConfig.windowSize
  let pushed := state.latencyWindow ++ [latency]
  let window := pushed.drop (pushed.length - size)
  putMonitoring { state with latencyWindow := window }
  if window.length < size then pure ()
  else
    let total := window.foldl (satCount u64Max) 0
    let average ← orTrap (if window.length = 0 then none else some (total / window.length))
    if state.latencyConfig.latencyThresholdSecs < average then
      putMonitoring { (← get).monitoring with circuitBreakerTripped := true }
    else pure ()

def clearCircuitBreaker : ChainProgram Unit := do
  putMonitoring { (← get).monitoring with
    circuitBreakerTripped := false
    latencyWindow := [] }

def setLatencyCircuitBreakerConfig (config : LatencyCircuitBreakerConfig) :
    ChainProgram Unit := do
  putMonitoring { (← get).monitoring with breakerConfig := some config }

/-- Whether a number of confirmations is enough for a chain. -/
def isFinalized (config : ChainFinalityConfig) (confirmations : Nat) : ChainProgram Bool :=
  match config.verificationMethod with
  | .blockConfirmations => pure (decide (config.requiredConfirmations ≤ confirmations))
  | .epochFinality => pure (decide (config.requiredConfirmations / 2 ≤ confirmations))
  | .probabilistic => do
    let doubled ← counter u32Max (config.requiredConfirmations * 2)
    pure (decide (doubled ≤ confirmations))

def updateTransactionConfirmationCount (currentBlock : Nat) : ChainProgram Unit := do
  let monitored ← getMonitored transferId
  let config ← getChainFinalityConfig monitored.sourceChain
  let confirmations := (currentBlock - monitored.blockNumber) % 2 ^ 32
  let counted := { monitored with confirmations }
  let finalized ← isFinalized config confirmations
  if finalized = true ∧ monitored.status ≠ .finalized then
    storeMonitored transferId
      { counted with status := .finalized, finalizedAt := some env.timestamp }
    recordFinalityLatency (env.timestamp - monitored.firstSeen)
  else if monitored.status ≠ .finalized then
    storeMonitored transferId { counted with status := .confirming }
  else pure ()

/-- The series with a value added to the day of a timestamp, at most a hundred days long. -/
def addToTimeSeries (points : List DataPoint) (timestamp : Nat) (value : Int) :
    ChainProgram (List DataPoint) := do
  let period := timestamp / secondsPerDay * secondsPerDay
  match points.getLast? with
  | some last =>
    if last.timestamp = period then
      let summed ← amount (last.value + value)
      pure (points.dropLast ++ [DataPoint.mk period summed])
    else pure ((points ++ [DataPoint.mk period value]).drop (points.length + 1 - 100))
  | none => pure [DataPoint.mk period value]

def updateTransferAnalytics (transfer : BridgeTransfer) : ChainProgram Unit := do
  let state := (← get).monitoring
  let analytics := state.analyticsOf transfer.bridgeId
  let transfers ← counter u64Max (analytics.totalTransfers + 1)
  let volume ← amount (analytics.totalVolume + transfer.amount)
  let fees ← amount (analytics.totalFees + transfer.feePaid)
  let ofAsset ← amount (analytics.volumeByAsset.read transfer.stellarAsset + transfer.amount)
  let average ← match transfer.completedAt with
    | some completedAt => do
      let spent ← counter u64Max (analytics.avgTransferTimeSeconds * (transfers - 1))
      let total ← counter u64Max (spent + (completedAt - transfer.createdAt))
      pure (total / transfers)
    | none => pure analytics.avgTransferTimeSeconds
  let points ← addToTimeSeries analytics.dataPoints env.timestamp transfer.amount
  putMonitoring { state with
    bridgeAnalytics := state.bridgeAnalytics.insert transfer.bridgeId
      ⟨transfers, volume, fees, average,
        analytics.volumeByAsset.insert transfer.stellarAsset ofAsset, points⟩ }

/-- The uptime is computed from the signatures counted before this one. -/
def updateValidatorAnalytics (validator : Address) (bridgeId signatureTime initiated : Nat) :
    ChainProgram Unit := do
  let state := (← get).monitoring
  let analytics := state.analyticsOfValidator validator bridgeId
  let provided ← counter u64Max (analytics.totalSignaturesProvided + 1)
  let response := signatureTime - initiated
  let spent ← counter u64Max (analytics.avgResponseTimeSeconds * (provided - 1))
  let total ← counter u64Max (spent + response)
  let onTime ← counter u64Max (analytics.onTimeSignatures + if response ≤ 300 then 1 else 0)
  let late ← counter u64Max (analytics.lateSignatures + if response ≤ 300 then 0 else 1)
  let numerator ← counter u64Max (analytics.totalSignaturesProvided * basisPoints)
  let transfers := (state.analyticsOf bridgeId).totalTransfers
  let uptime := if transfers = 0 then basisPoints else numerator / transfers % 2 ^ 32
  putMonitoring { state with
    validatorAnalytics := state.validatorAnalytics.insert (validator, bridgeId)
      ⟨provided, onTime, late, total / provided, uptime⟩ }

def createBridgeTransfer (bridgeId : Nat) (sourceChain destinationChain : ChainId)
    (value feePaid : Int) (stellarAsset : Asset) (user : String) : ChainProgram Unit := do
  check ((← get).monitoring.circuitBreakerTripped = false)
    "CircuitBreakerTripped: bridge paused due to abnormal finality latency"
  check (¬ value ≤ 0) "Invalid amount"
  storeBridgeTransfer transferId ⟨bridgeId, sourceChain, destinationChain, value, feePaid,
    stellarAsset, user, .pending, [], env.timestamp, none, env.timestamp⟩

/-- Add a signature. The second one approves the transfer, whatever its status. -/
def addValidatorSignature (validator : Address) (signature : String) : ChainProgram Unit := do
  requireAuth env validator
  let transfer ← getBridgeTransfer transferId
  check (signature ∉ transfer.validatorSignatures) "Signature already added"
  let signed := { transfer with
    validatorSignatures := transfer.validatorSignatures ++ [signature] }
  storeBridgeTransfer transferId (if 2 ≤ signed.validatorSignatures.length then
    { signed with status := .validatorApproved, statusUpdatedAt := env.timestamp } else signed)
  updateValidatorAnalytics validator transfer.bridgeId env.timestamp transfer.createdAt

def approveTransferForMinting : ChainProgram Unit := do
  let transfer ← getBridgeTransfer transferId
  check (transfer.status = .validatorApproved) "Transfer not approved by validators"
  storeBridgeTransfer transferId
    { transfer with status := .minting, statusUpdatedAt := env.timestamp }

def completeTransfer : ChainProgram Unit := do
  let transfer ← getBridgeTransfer transferId
  let completed := { transfer with
    status := .complete
    completedAt := some env.timestamp
    statusUpdatedAt := env.timestamp }
  storeBridgeTransfer transferId completed
  updateTransferAnalytics env completed

def MonitoringState.resetTransfer (state : MonitoringState) (transferId : Nat)
    (change : BridgeTransfer → BridgeTransfer) : MonitoringState :=
  match state.transfers.lookup transferId with
  | some transfer => state.putTransfer transferId (change transfer)
  | none => state

/-- Start over after a reorganization. -/
def handleReorg : ChainProgram Unit := do
  let monitored ← getMonitored transferId
  storeMonitored transferId { monitored with confirmations := 0, status := .reorged }
  putMonitoring ((← get).monitoring.resetTransfer transferId fun transfer => { transfer with
    status := .pending
    statusUpdatedAt := env.timestamp
    validatorSignatures := [] })

def markTransactionFailed : ChainProgram Unit := do
  let monitored ← getMonitored transferId
  storeMonitored transferId { monitored with status := .failed }
  putMonitoring ((← get).monitoring.resetTransfer transferId fun transfer => { transfer with
    status := .failed
    statusUpdatedAt := env.timestamp })

inductive MonitoringCall where
  | setFinalityConfig (chain : ChainId) (config : ChainFinalityConfig)
  | monitor (transferId : Nat) (txHash : String) (sourceChain : ChainId) (blockNumber : Nat)
  | updateConfirmations (transferId currentBlock : Nat)
  | clearBreaker
  | setBreakerConfig (config : LatencyCircuitBreakerConfig)
  | create (transferId bridgeId : Nat) (sourceChain destinationChain : ChainId)
      (value feePaid : Amount) (stellarAsset : Asset) (user : String)
  | addSignature (transferId : Nat) (validator : Address) (signature : String)
  | approve (transferId : Nat)
  | complete (transferId : Nat)
  | reorg (transferId : Nat)
  | markFailed (transferId : Nat)

/-- The function of a call. -/
def MonitoringCall.exec (call : MonitoringCall) (env : Env) : ChainProgram Unit :=
  match call with
  | .setFinalityConfig chain config => setChainFinalityConfig chain config
  | .monitor transferId txHash sourceChain blockNumber =>
    monitorSourceTransaction env transferId txHash sourceChain blockNumber
  | .updateConfirmations transferId currentBlock =>
    updateTransactionConfirmationCount env transferId currentBlock
  | .clearBreaker => clearCircuitBreaker
  | .setBreakerConfig config => setLatencyCircuitBreakerConfig config
  | .create transferId bridgeId sourceChain destinationChain value feePaid stellarAsset user =>
    createBridgeTransfer env transferId bridgeId sourceChain destinationChain value feePaid
      stellarAsset user
  | .addSignature transferId validator signature =>
    addValidatorSignature env transferId validator signature
  | .approve transferId => approveTransferForMinting env transferId
  | .complete transferId => completeTransfer env transferId
  | .reorg transferId => handleReorg env transferId
  | .markFailed transferId => markTransactionFailed env transferId

end StellarSwipe.CrossChain
