import StellarSwipe.CrossChain.Contract

/-!
# What calls on monitored transfers write

Monitoring, analytics and the breaker leave transfers alone.
-/

namespace StellarSwipe.CrossChain

open FixedWidth Program MonitoringState

namespace BridgeTransfer

variable (transfer : BridgeTransfer) (now : Nat)

/-- A transfer with one more signature, the second of which approves it. -/
def signedWith (signature : String) : BridgeTransfer :=
  if 2 ≤ (transfer.validatorSignatures ++ [signature]).length then
    { transfer with
      validatorSignatures := transfer.validatorSignatures ++ [signature]
      status := .validatorApproved
      statusUpdatedAt := now }
  else { transfer with validatorSignatures := transfer.validatorSignatures ++ [signature] }

def completed : BridgeTransfer :=
  { transfer with
    status := .complete
    completedAt := some now
    statusUpdatedAt := now }

def reorged : BridgeTransfer :=
  { transfer with
    status := .pending
    statusUpdatedAt := now
    validatorSignatures := [] }

def withStatus (status : TransferStatus) : BridgeTransfer :=
  { transfer with
    status
    statusUpdatedAt := now }

end BridgeTransfer

/-- What a returning call on monitored transfers writes to the transfers. -/
inductive TransferEffect (env : Env) (pre : Table Nat BridgeTransfer) :
    MonitoringCall → Table Nat BridgeTransfer → Prop where
  | setFinalityConfig (chain : ChainId) (config : ChainFinalityConfig) :
      TransferEffect env pre (.setFinalityConfig chain config) pre
  | monitor (transferId : Nat) (txHash : String) (sourceChain : ChainId) (blockNumber : Nat) :
      TransferEffect env pre (.monitor transferId txHash sourceChain blockNumber) pre
  | updateConfirmations (transferId currentBlock : Nat) :
      TransferEffect env pre (.updateConfirmations transferId currentBlock) pre
  | clearBreaker : TransferEffect env pre .clearBreaker pre
  | setBreakerConfig (config : LatencyCircuitBreakerConfig) :
      TransferEffect env pre (.setBreakerConfig config) pre
  | create (transferId bridgeId : Nat) (sourceChain destinationChain : ChainId)
      (value feePaid : Amount) (stellarAsset : Asset) (user : String) :
      TransferEffect env pre
        (.create transferId bridgeId sourceChain destinationChain value feePaid stellarAsset user)
        (pre.insert transferId ⟨bridgeId, sourceChain, destinationChain, value, feePaid,
          stellarAsset, user, .pending, [], env.timestamp, none, env.timestamp⟩)
  | addSignature {transferId : Nat} {validator : Address} {signature : String}
      {transfer : BridgeTransfer} (authorized : validator ∈ env.auths)
      (has : pre.lookup transferId = some transfer) :
      TransferEffect env pre (.addSignature transferId validator signature)
        (pre.insert transferId (transfer.signedWith env.timestamp signature))
  | approve {transferId : Nat} {transfer : BridgeTransfer}
      (has : pre.lookup transferId = some transfer)
      (approved : transfer.status = .validatorApproved) :
      TransferEffect env pre (.approve transferId)
        (pre.insert transferId (transfer.withStatus env.timestamp .minting))
  | complete {transferId : Nat} {transfer : BridgeTransfer}
      (has : pre.lookup transferId = some transfer) :
      TransferEffect env pre (.complete transferId)
        (pre.insert transferId (transfer.completed env.timestamp))
  | reorg {transferId : Nat} {transfer : BridgeTransfer}
      (has : pre.lookup transferId = some transfer) :
      TransferEffect env pre (.reorg transferId)
        (pre.insert transferId (transfer.reorged env.timestamp))
  | reorgOnly {transferId : Nat} (absent : pre.lookup transferId = none) :
      TransferEffect env pre (.reorg transferId) pre
  | markFailed {transferId : Nat} {transfer : BridgeTransfer}
      (has : pre.lookup transferId = some transfer) :
      TransferEffect env pre (.markFailed transferId)
        (pre.insert transferId (transfer.withStatus env.timestamp .failed))
  | markFailedOnly {transferId : Nat} (absent : pre.lookup transferId = none) :
      TransferEffect env pre (.markFailed transferId) pre

/-- The storage with the monitoring changed and its transfers as given. -/
def MonitoredWith (pre : CrossChainStore) (transfers : Table Nat BridgeTransfer)
    (after : CrossChainStore) : Prop :=
  ∃ monitoring : MonitoringState, after = { pre with monitoring } ∧
    monitoring.transfers = transfers

section Rules

variable {pre : CrossChainStore}

theorem wp_getBridgeTransfer {post : BridgeTransfer → CrossChainStore → Prop} (transferId : Nat) :
    wp (getBridgeTransfer transferId) post (fun _ _ => True) pre ↔
      ∀ transfer, pre.monitoring.transfers.lookup transferId = some transfer →
        post transfer pre := by
  simp only [getBridgeTransfer, wp_rules, wp_found]

theorem wp_getMonitored {post : MonitoredTransaction → CrossChainStore → Prop}
    (transferId : Nat) : wp (getMonitored transferId) post (fun _ _ => True) pre ↔
      ∀ monitored, pre.monitoring.monitored.lookup transferId = some monitored →
        post monitored pre := by
  simp only [getMonitored, wp_rules, wp_found]

theorem wp_getChainFinalityConfig {post : ChainFinalityConfig → CrossChainStore → Prop}
    (chain : ChainId) : wp (getChainFinalityConfig chain) post (fun _ _ => True) pre ↔
      (chain ≠ .stellar → post ((pre.monitoring.chainConfigs.lookup chain).getD
        (defaultFinalityConfig chain)) pre) := by
  simp only [getChainFinalityConfig, wp_rules, wp_check]

variable {post : Unit → CrossChainStore → Prop}
  {fault : Fault CrossChainError → CrossChainStore → Prop}

theorem wp_storeBridgeTransfer (transferId : Nat) (transfer : BridgeTransfer) :
    wp (storeBridgeTransfer transferId transfer) post fault pre ↔
      post () { pre with monitoring := pre.monitoring.putTransfer transferId transfer } :=
  Iff.rfl

theorem wp_storeMonitored (transferId : Nat) (transaction : MonitoredTransaction) :
    wp (storeMonitored transferId transaction) post fault pre ↔
      post () { pre with monitoring := pre.monitoring.putMonitored transferId transaction } :=
  Iff.rfl

end Rules

section Frames

variable {pre : CrossChainStore}

theorem recordFinalityLatency_leaves (latency : Nat) : wlp (recordFinalityLatency latency)
      (fun _ after => MonitoredWith pre pre.monitoring.transfers after) pre := by
  simp only [recordFinalityLatency, wlp_rules, wp_putMonitoring, wp_ite]
  refine ⟨fun _ => ⟨_, rfl, rfl⟩, fun _ average _ => ⟨fun _ => ?_, fun _ => ⟨_, rfl, rfl⟩⟩⟩
  exact ⟨_, rfl, rfl⟩

theorem isFinalized_leaves (config : ChainFinalityConfig) (confirmations : Nat) :
    wlp (isFinalized config confirmations) (fun _ after => after = pre) pre := by
  rw [isFinalized]
  cases config.verificationMethod <;>
    simp only [wp_rules, wp_counter, implies_true]

theorem addToTimeSeries_leaves (points : List DataPoint) (timestamp : Nat) (value : Int) :
    wlp (addToTimeSeries points timestamp value) (fun _ after => after = pre) pre := by
  simp only [addToTimeSeries]
  cases points.getLast? with
  | none => exact rfl
  | some last =>
    simp only [wp_ite, wlp_rules, wp_amount]

theorem updateTransferAnalytics_leaves (env : Env) (transfer : BridgeTransfer) :
    wlp (updateTransferAnalytics env transfer)
      (fun _ after => MonitoredWith pre pre.monitoring.transfers after) pre := by
  have written : ∀ (state : MonitoringState) (analytics : Table Nat BridgeAnalytics),
      state.transfers = pre.monitoring.transfers →
      MonitoredWith pre pre.monitoring.transfers
        { pre with monitoring := { state with bridgeAnalytics := analytics } } :=
    fun state analytics same => ⟨_, rfl, same⟩
  simp only [updateTransferAnalytics, wp_rules, wp_counter, wp_amount]
  intro _ _ _ _
  cases transfer.completedAt with
  | none =>
    simp only [wp_rules]
    refine wp_then (addToTimeSeries_leaves _ _ _) ?_
    rintro points after rfl
    exact written _ _ rfl
  | some completedAt =>
    simp only [wp_rules, wp_counter]
    intro _ _
    refine wp_then (addToTimeSeries_leaves _ _ _) ?_
    rintro points after rfl
    exact written _ _ rfl

theorem updateValidatorAnalytics_leaves (validator : Address)
    (bridgeId signatureTime initiated : Nat) :
    wlp (updateValidatorAnalytics validator bridgeId signatureTime initiated)
      (fun _ after => MonitoredWith pre pre.monitoring.transfers after) pre := by
  simp only [updateValidatorAnalytics, wp_rules, wp_counter, wp_putMonitoring]
  intro _ _ _ _ _ _
  exact ⟨_, rfl, rfl⟩

end Frames

section Effects

variable {pre : CrossChainStore}

theorem MonitoredWith.trans {middle after : CrossChainStore} {transfers : Table Nat BridgeTransfer}
    (first : ∃ monitoring, middle = { pre with monitoring })
    (second : MonitoredWith middle transfers after) : MonitoredWith pre transfers after := by
  obtain ⟨monitoring, rfl⟩ := first
  obtain ⟨later, rfl, same⟩ := second
  exact ⟨later, rfl, same⟩

theorem MonitoringCall.exec_effect (call : MonitoringCall) (env : Env) : wlp (call.exec env)
      (fun _ after => ∃ transfers, TransferEffect env pre.monitoring.transfers call transfers ∧
        MonitoredWith pre transfers after) pre := by
  cases call with
  | setFinalityConfig chain config =>
    simp only [exec, setChainFinalityConfig, wp_ite, wp_rules, wp_putMonitoring]
    exact ⟨fun _ => ⟨_, .setFinalityConfig chain config, _, rfl, rfl⟩,
      fun _ => ⟨_, .setFinalityConfig chain config, _, rfl, rfl⟩⟩
  | monitor transferId txHash sourceChain blockNumber =>
    simp only [exec, monitorSourceTransaction, wp_rules, wp_getChainFinalityConfig,
      wp_storeMonitored]
    intro _
    exact ⟨_, .monitor transferId txHash sourceChain blockNumber, _, rfl, rfl⟩
  | updateConfirmations transferId currentBlock =>
    simp only [exec, updateTransactionConfirmationCount, wp_bind, wp_getMonitored,
      wp_getChainFinalityConfig]
    intro monitored _ _
    refine wp_then (isFinalized_leaves _ _) ?_
    rintro finalized after rfl
    simp only [wp_ite, wp_rules, wp_storeMonitored]
    refine ⟨fun _ => ?_, fun _ => ⟨fun _ => ?_, fun _ => ?_⟩⟩
    · refine wp_then (recordFinalityLatency_leaves _) ?_
      intro _ after left
      exact ⟨_, .updateConfirmations transferId currentBlock, .trans ⟨_, rfl⟩ left⟩
    · exact ⟨_, .updateConfirmations transferId currentBlock, _, rfl, rfl⟩
    · exact ⟨_, .updateConfirmations transferId currentBlock, _, rfl, rfl⟩
  | clearBreaker =>
    simp only [exec, clearCircuitBreaker, wp_rules, wp_putMonitoring]
    exact ⟨_, .clearBreaker, _, rfl, rfl⟩
  | setBreakerConfig config =>
    simp only [exec, setLatencyCircuitBreakerConfig, wp_rules, wp_putMonitoring]
    exact ⟨_, .setBreakerConfig config, _, rfl, rfl⟩
  | create transferId bridgeId sourceChain destinationChain value feePaid stellarAsset user =>
    simp only [exec, createBridgeTransfer, wp_rules, wp_check, wp_storeBridgeTransfer]
    intro _ _
    exact ⟨_, .create transferId bridgeId sourceChain destinationChain value feePaid stellarAsset
      user, _, rfl, rfl⟩
  | addSignature transferId validator signature =>
    simp only [exec, addValidatorSignature, wp_bind, wp_auth, wp_getBridgeTransfer,
      wp_check, wp_storeBridgeTransfer]
    intro authorized transfer has _
    refine wp_then (updateValidatorAnalytics_leaves _ _ _ _) ?_
    intro _ after left
    exact ⟨_, .addSignature authorized has, .trans ⟨_, rfl⟩ left⟩
  | approve transferId =>
    simp only [exec, approveTransferForMinting, wp_bind, wp_getBridgeTransfer, wp_check,
      wp_storeBridgeTransfer]
    intro transfer has approved
    exact ⟨_, .approve has approved, _, rfl, rfl⟩
  | complete transferId =>
    simp only [exec, completeTransfer, wp_bind, wp_getBridgeTransfer, wp_storeBridgeTransfer]
    intro transfer has
    refine wp_then (updateTransferAnalytics_leaves _ _) ?_
    intro _ after left
    exact ⟨_, .complete has, .trans ⟨_, rfl⟩ left⟩
  | reorg transferId =>
    simp only [exec, handleReorg, wp_rules, wp_getMonitored, wp_storeMonitored, wp_putMonitoring,
      resetTransfer, putMonitored]
    intro monitored _
    cases has : pre.monitoring.transfers.lookup transferId with
    | none => exact ⟨_, .reorgOnly has, _, rfl, rfl⟩
    | some transfer => exact ⟨_, .reorg has, _, rfl, rfl⟩
  | markFailed transferId =>
    simp only [exec, markTransactionFailed, wp_rules, wp_getMonitored, wp_storeMonitored,
      wp_putMonitoring, resetTransfer, putMonitored]
    intro monitored _
    cases has : pre.monitoring.transfers.lookup transferId with
    | none => exact ⟨_, .markFailedOnly has, _, rfl, rfl⟩
    | some transfer => exact ⟨_, .markFailed has, _, rfl, rfl⟩

end Effects

end StellarSwipe.CrossChain
