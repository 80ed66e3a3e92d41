import StellarSwipe.CrossChain.MonitoringEffects
import StellarSwipe.CrossChain.MultisigEffects

/-!
# What calls on messages and fees write

A message is sent, changed while it is not completed, confirmed, or dropped after its callback.
-/

namespace StellarSwipe.CrossChain

open FixedWidth Program Runs

/-- A message that was confirmed. -/
def CrossChainMessage.deliveredBy (message : CrossChainMessage) (now : Nat) : CrossChainMessage :=
  { message with
    status := .delivered
    deliveredAt := some now }

def CrossChainMessage.kept (message : CrossChainMessage) (now messageId : Nat)
    (messages : Table Nat CrossChainMessage) : Table Nat CrossChainMessage :=
  if message.callbackRequired = true then messages.insert messageId (message.deliveredBy now)
  else (messages.insert messageId (message.deliveredBy now)).erase messageId

def MessagingCall.sends : MessagingCall → Option ChainId
  | .send _ chain _ _ _ _ => some chain
  | _ => none

def MessagingCall.confirms : MessagingCall → Option Nat
  | .confirm messageId _ _ => some messageId
  | _ => none

/-- What a returning call on messages writes. -/
inductive MessagingEffect (now : Nat) (pre : MessagingState) :
    MessagingCall → MessagingState → Prop where
  | register (chain : ChainId) (bridgeId : Nat) :
      MessagingEffect now pre (.register chain bridgeId)
        { pre with bridgeForChain := pre.bridgeForChain.insert chain bridgeId }
  | send (sender : Address) {targetChain : ChainId} (targetContract : String) (payload : Bytes)
      (gasLimit : Nat) (callbackRequired : Bool) (fits : pre.outbound targetChain + 1 ≤ u64Max) :
      MessagingEffect now pre
        (.send sender targetChain targetContract payload gasLimit callbackRequired)
        { pre with
          messages := pre.messages.insert pre.nextMessageId
            ⟨.stellar, targetChain, sender, targetContract, payload, gasLimit, callbackRequired,
              .pending, now, none, pre.outbound targetChain⟩
          nextMessageId := pre.nextMessageId + 1
          outboundSeq := pre.outboundSeq.insert targetChain (pre.outbound targetChain + 1) }
  | change {call : MessagingCall} {messageId : Nat} {message : CrossChainMessage}
      {status : MessageStatus} (unsent : call.sends = none) (unconfirmed : call.confirms = none)
      (has : pre.messages.lookup messageId = some message) (unfinished : ¬ message.Completed)
      (later : status ≠ .delivered ∧ status ≠ .callbackReceived) :
      MessagingEffect now pre call (pre.saveMessage messageId { message with status })
  | confirm {messageId : Nat} (relayer : Address) (deliveryProof : Bytes)
      {message : CrossChainMessage}
      (has : pre.messages.lookup messageId = some message)
      (relayed : message.status = .relayed)
      (next : message.nonce = pre.expected message.targetChain) :
      MessagingEffect now pre (.confirm messageId relayer deliveryProof)
        { pre with
          messages := message.kept now messageId pre.messages
          expectedNonce := pre.expectedNonce.insert message.targetChain
            (pre.expected message.targetChain + 1) }
  | callback {messageId : Nat} (relayer : Address) (callbackProof : Bytes)
      {message received : CrossChainMessage}
      (has : pre.messages.lookup messageId = some message)
      (delivered : message.status = .delivered) :
      MessagingEffect now pre (.callback messageId relayer callbackProof)
        ((pre.saveMessage messageId received).removeMessage messageId)

section Effects

variable {pre : CrossChainStore}

theorem wp_getMessage {post : CrossChainMessage → CrossChainStore → Prop} (messageId : Nat) :
    wp (getMessage messageId) post (fun _ _ => True) pre ↔
      ∀ message, pre.messaging.messages.lookup messageId = some message → post message pre := by
  simp only [getMessage, wp_rules, wp_found]

variable {post : Unit → CrossChainStore → Prop}

theorem wp_saveMessage {fault : Fault CrossChainError → CrossChainStore → Prop} (messageId : Nat)
    (message : CrossChainMessage) : wp (saveMessage messageId message) post fault pre ↔
      post () { pre with messaging := pre.messaging.saveMessage messageId message } :=
  Iff.rfl

theorem wp_requireValidatorFor (chain : ChainId) (validator : Address) :
    wp (requireValidatorFor chain validator) post (fun _ _ => True) pre ↔
      ∀ bridgeId, pre.messaging.bridgeForChain.lookup chain = some bridgeId →
        ∀ validators, pre.multisig.bridgeValidators bridgeId = some validators →
          validator ∈ validators → post () pre := by
  simp only [requireValidatorFor, wp_rules, wp_found, wp_getBridgeValidators, wp_check]

theorem MessagingCall.exec_effect (call : MessagingCall) (env : Env) : wlp (call.exec env)
      (fun _ after => ∃ messaging, MessagingEffect env.timestamp pre.messaging call messaging ∧
        after = { pre with messaging }) pre := by
  cases call with
  | register chain bridgeId =>
    simp only [exec, registerBridgeForChain, wp_rules, wp_putMessaging]
    exact ⟨_, .register chain bridgeId, rfl⟩
  | send sender targetChain targetContract payload gasLimit callbackRequired =>
    simp only [exec, sendCrossChainMessage, wlp_rules, wp_auth, wp_counter, wp_putMessaging]
    intro _ _ _ fits
    exact ⟨_, .send sender targetContract payload gasLimit callbackRequired fits, rfl⟩
  | relay messageId validator =>
    simp only [exec, relayMessageToTargetChain, wp_bind, wp_auth, wp_getMessage, wp_check,
      wp_requireValidatorFor, wp_saveMessage]
    intro _ message has pending _ _ _ _ _
    refine ⟨_, @MessagingEffect.change _ _ _ _ _ .relayed rfl rfl has ?_ ?_, rfl⟩ <;>
      simp [CrossChainMessage.Completed, pending]
  | confirm messageId relayer deliveryProof =>
    simp only [exec, confirmMessageDelivery, wp_rules, wp_auth, wp_getMessage,
      wp_requireValidatorFor, wp_check, wp_counter, wp_putMessaging, wp_saveMessage, wp_ite]
    intro _ message has _ _ _ _ _ relayed _ next _ _
    have effect := @MessagingEffect.confirm env.timestamp _ _ relayer deliveryProof _ has
      relayed next
    refine ⟨fun required => ⟨_, effect, ?_⟩, fun dropped => ⟨_, effect, ?_⟩⟩
    · rw [CrossChainMessage.kept, if_pos required]
      rfl
    · rw [CrossChainMessage.kept, if_neg dropped]
      rfl
  | callback messageId relayer callbackProof =>
    simp only [exec, receiveMessageCallback, wp_rules, wp_auth, wp_getMessage,
      wp_requireValidatorFor, wp_check, wp_putMessaging, wp_saveMessage]
    intro _ message has _ _ _ _ _ _ delivered _
    exact ⟨_, .callback relayer callbackProof has delivered, rfl⟩
  | markFailed messageId =>
    simp only [exec, markMessageFailed, wp_bind, wp_getMessage, wp_check, wp_saveMessage]
    intro message has unfinished
    exact ⟨_, @MessagingEffect.change _ _ _ _ _ .failed rfl rfl has unfinished (by simp), rfl⟩
  | retry messageId =>
    simp only [exec, retryFailedMessage, wp_bind, wp_getMessage, wp_check, wp_saveMessage]
    intro message has failed
    refine ⟨_, @MessagingEffect.change _ _ _ _ _ .pending rfl rfl has ?_ ?_, rfl⟩ <;>
      simp [CrossChainMessage.Completed, failed]
  | expire messageId =>
    simp only [exec, expireTimedOutMessage, wp_bind, wp_getMessage, wp_check, wp_saveMessage]
    intro message has _ unfinished
    exact ⟨_, @MessagingEffect.change _ _ _ _ _ .failed rfl rfl has unfinished (by simp), rfl⟩

end Effects

/-!
## What calls on fees write

Every call on fees that returns has one of the effects listed here, on the fees alone.
-/

def BridgeFeeConfig.feeOf (config : BridgeFeeConfig) (value : Int) : Int :=
  config.bounded (value * config.baseFeeBps)

def rewardsFor (bridgeId : Nat) (validators : List Address) (share : Int) : List ValidatorReward :=
  validators.map fun validator => ⟨bridgeId, validator, share.tdiv validators.length⟩

/-- Calls that may count nothing: those that configure, and shares when nothing is due. -/
def FeeCall.isUncounted : FeeCall → Bool
  | .setTreasury _ _ | .setConfig _ _ | .adjust _ | .distribute _ | .allocate _ => true
  | .collect _ _ | .refund _ => false

/-- Bounds and percentages change only when they are set. -/
inductive Reconfigured (configs : Table Nat BridgeFeeConfig) :
    FeeCall → Table Nat BridgeFeeConfig → Prop where
  | same {call : FeeCall} : Reconfigured configs call configs
  | set (bridgeId : Nat) (config : BridgeFeeConfig) :
      Reconfigured configs (.setConfig bridgeId config) (configs.insert bridgeId config)
  | adjusted {bridgeId : Nat} {config : BridgeFeeConfig} (baseFeeBps : Nat)
      (has : configs.lookup bridgeId = some config) :
      Reconfigured configs (.adjust bridgeId)
        (configs.insert bridgeId { config with baseFeeBps })

/-- What a returning call on fees leaves of the counts, rewards and configurations. -/
inductive FeeEffect (pre : CrossChainStore) : FeeCall → FeeState → Prop where
  | configure {call : FeeCall} {after : FeeState} (uncounted : call.isUncounted = true)
      (stats : after.stats = pre.fees.stats) (rewards : after.rewards = pre.fees.rewards)
      (configs : Reconfigured pre.fees.configs call after.configs) :
      FeeEffect pre call after
  | collect {transferId : Nat} {value : Amount} {transfer : BridgeTransfer}
      {config : BridgeFeeConfig} {stats : BridgeFeeStats} {after : FeeState}
      (has : pre.monitoring.transfers.lookup transferId = some transfer)
      (configured : pre.fees.configs.lookup transfer.bridgeId = some config)
      (written : after.stats = pre.fees.stats.insert transfer.bridgeId stats)
      (collected : stats.totalFeesCollected =
        (pre.fees.statsOf transfer.bridgeId).totalFeesCollected + config.feeOf value)
      (distributed : stats.feesDistributedValidators =
        (pre.fees.statsOf transfer.bridgeId).feesDistributedValidators)
      (allocated : stats.feesToTreasury = (pre.fees.statsOf transfer.bridgeId).feesToTreasury)
      (rewards : after.rewards = pre.fees.rewards)
      (configs : after.configs = pre.fees.configs) :
      FeeEffect pre (.collect transferId value) after
  | distribute {bridgeId : Nat} {config : BridgeFeeConfig} {validators : List Address}
      {share : Int} {after : FeeState}
      (configured : pre.fees.configs.lookup bridgeId = some config)
      (due : share = shareDue (pre.fees.statsOf bridgeId).totalFeesCollected
        config.validatorRewardPct (pre.fees.statsOf bridgeId).feesDistributedValidators)
      (pos : 0 < share)
      (members : pre.multisig.bridgeValidators bridgeId = some validators)
      (written : after.stats = pre.fees.stats.insert bridgeId
        { pre.fees.statsOf bridgeId with
          feesDistributedValidators :=
            (pre.fees.statsOf bridgeId).feesDistributedValidators + share })
      (rewards : after.rewards = pre.fees.rewards ++ rewardsFor bridgeId validators share)
      (configs : after.configs = pre.fees.configs) :
      FeeEffect pre (.distribute bridgeId) after
  | allocate {bridgeId : Nat} {config : BridgeFeeConfig} {share : Int} {after : FeeState}
      (configured : pre.fees.configs.lookup bridgeId = some config)
      (due : share = shareDue (pre.fees.statsOf bridgeId).totalFeesCollected
        config.treasuryPct (pre.fees.statsOf bridgeId).feesToTreasury)
      (pos : 0 < share)
      (written : after.stats = pre.fees.stats.insert bridgeId
        { pre.fees.statsOf bridgeId with
          feesToTreasury := (pre.fees.statsOf bridgeId).feesToTreasury + share })
      (rewards : after.rewards = pre.fees.rewards)
      (configs : after.configs = pre.fees.configs) :
      FeeEffect pre (.allocate bridgeId) after
  | refund {transferId : Nat} {transfer : BridgeTransfer} {after : FeeState}
      (has : pre.monitoring.transfers.lookup transferId = some transfer)
      (failed : transfer.status = .failed)
      (written : after.stats = pre.fees.stats.insert transfer.bridgeId
        { pre.fees.statsOf transfer.bridgeId with
          totalFeesCollected :=
            (pre.fees.statsOf transfer.bridgeId).totalFeesCollected - transfer.feePaid })
      (rewards : after.rewards = pre.fees.rewards)
      (configs : after.configs = pre.fees.configs) :
      FeeEffect pre (.refund transferId) after

section Effects

variable {pre : CrossChainStore}

theorem wp_getBridgeFeeConfig {post : BridgeFeeConfig → CrossChainStore → Prop} (bridgeId : Nat) :
    wp (getBridgeFeeConfig bridgeId) post (fun _ _ => True) pre ↔
      ∀ config, pre.fees.configs.lookup bridgeId = some config → post config pre := by
  simp only [getBridgeFeeConfig, wp_rules, wp_found]

variable {fault : Fault CrossChainError → CrossChainStore → Prop}
  {post : Unit → CrossChainStore → Prop}

theorem wp_setBridgeFeeConfig (bridgeId : Nat) (config : BridgeFeeConfig) :
    wp (setBridgeFeeConfig bridgeId config) post fault pre ↔
      post () { pre with fees := { pre.fees with
        configs := pre.fees.configs.insert bridgeId config } } :=
  Iff.rfl

theorem wp_saveBridgeFeeStats (bridgeId : Nat) (stats : BridgeFeeStats) :
    wp (saveBridgeFeeStats bridgeId stats) post fault pre ↔
      post () { pre with fees := pre.fees.putStats bridgeId stats } :=
  Iff.rfl

theorem FeeCall.exec_effect (call : FeeCall) : wlp call.exec
      (fun _ after => ∃ fees, FeeEffect pre call fees ∧
        after = { pre with fees }) pre := by
  cases call with
  | setTreasury bridgeId treasury =>
    simp only [exec, setBridgeTreasury, wp_rules, wp_putFees]
    refine ⟨_, .configure rfl ?_ ?_ ?_, rfl⟩
    exacts [rfl, rfl, .same]
  | setConfig bridgeId config =>
    simp only [exec, wp_setBridgeFeeConfig]
    refine ⟨_, .configure rfl ?_ ?_ ?_, rfl⟩
    exacts [rfl, rfl, .set bridgeId config]
  | collect transferId value =>
    simp only [exec, collectBridgeFee, calculateBridgeFee, wp_rules, wp_getBridgeTransfer,
      wp_getBridgeFeeConfig, wp_amount, wp_counter, wp_saveBridgeFeeStats, wp_putFees]
    intro transfer has config configured _ _ _ _ _
    refine ⟨_, ?_, rfl⟩
    exact .collect has configured rfl rfl rfl rfl rfl rfl
  | distribute bridgeId =>
    simp only [exec, distributeValidatorRewards, wp_rules, wp_getBridgeFeeConfig, wp_amount, wp_ite,
      wp_getBridgeValidators, wp_check, wp_putFees]
    intro config configured _ _
    refine ⟨fun _ => ⟨_, .configure rfl rfl rfl .same, rfl⟩, fun pos validators members _ _ => ?_⟩
    refine ⟨_, .distribute configured rfl (not_le.mp pos) members ?_ ?_ ?_, rfl⟩ <;> rfl
  | allocate bridgeId =>
    simp only [exec, allocateToTreasury, wp_rules, wp_getBridgeFeeConfig, wp_amount, wp_ite,
      wp_found, wp_saveBridgeFeeStats]
    intro config configured _ _
    refine ⟨fun _ => ⟨_, .configure rfl rfl rfl .same, rfl⟩, fun pos _ _ _ => ?_⟩
    refine ⟨_, .allocate configured rfl (not_le.mp pos) ?_ ?_ ?_, rfl⟩ <;> rfl
  | adjust bridgeId =>
    simp only [exec, adjustBridgeFeesDynamically, wp_rules, wp_getBridgeFeeConfig, wp_counter,
      wp_ite, wp_setBridgeFeeConfig]
    intro config configured
    refine ⟨fun _ => ⟨_, .configure rfl rfl rfl .same, rfl⟩, fun _ _ => ⟨fun _ => ?_, fun _ =>
      ⟨fun _ _ => ?_, fun _ => ?_⟩⟩⟩
    · refine ⟨_, .configure rfl ?_ ?_ ?_, rfl⟩
      exacts [rfl, rfl, .adjusted _ configured]
    · refine ⟨_, .configure rfl ?_ ?_ ?_, rfl⟩
      exacts [rfl, rfl, .adjusted _ configured]
    · refine ⟨_, .configure rfl ?_ ?_ ?_, rfl⟩
      exacts [rfl, rfl, .adjusted config.baseFeeBps configured]
  | refund transferId =>
    simp only [exec, refundBridgeFee, wp_rules, wp_getBridgeTransfer, wp_check, wp_amount,
      wp_saveBridgeFeeStats]
    intro transfer has failed _
    refine ⟨_, .refund has failed ?_ ?_ ?_, rfl⟩ <;> rfl

end Effects

/-- What a returning call leaves: its part of the storage has changed, and nothing else. -/
inductive CrossChainEffect (env : Env) (pre : CrossChainStore) :
    CrossChainCall → CrossChainStore → Prop where
  | multisig {call : MultisigCall} {multisig : MultisigState}
      (effect : MultisigEffect env pre.multisig call multisig) :
      CrossChainEffect env pre (.multisig call) { pre with multisig }
  | messaging {call : MessagingCall} {messaging : MessagingState}
      (effect : MessagingEffect env.timestamp pre.messaging call messaging) :
      CrossChainEffect env pre (.messaging call) { pre with messaging }
  | monitoring {call : MonitoringCall} {monitoring : MonitoringState}
      (effect : TransferEffect env pre.monitoring.transfers call monitoring.transfers) :
      CrossChainEffect env pre (.monitoring call) { pre with monitoring }
  | fees {call : FeeCall} {fees : FeeState} (effect : FeeEffect pre call fees) :
      CrossChainEffect env pre (.fees call) { pre with fees }

theorem CrossChainCall.exec_effect (call : CrossChainCall) (env : Env) {pre : CrossChainStore} :
    wlp (call.exec env) (fun _ after => CrossChainEffect env pre call after) pre := by
  cases call with
  | multisig call =>
    refine wp_then (call.exec_effect env) ?_
    rintro _ after ⟨multisig, effect, rfl⟩
    exact .multisig effect
  | messaging call =>
    refine wp_then (call.exec_effect env) ?_
    rintro _ after ⟨messaging, effect, rfl⟩
    exact .messaging effect
  | monitoring call =>
    refine wp_then (call.exec_effect env) ?_
    rintro _ after ⟨transfers, effect, monitoring, rfl, rfl⟩
    exact .monitoring effect
  | fees call =>
    refine wp_then call.exec_effect ?_
    rintro _ after ⟨fees, effect, rfl⟩
    exact .fees effect

/-- A validator of a chain's bridge confirms the next relayed message without a proof. -/
def MessagingCall.ConfirmsUnproven (call : MessagingCall) (env : Env)
    (pre : CrossChainStore) : Prop :=
  match call with
  | .confirm messageId relayer deliveryProof =>
    deliveryProof = [] ∧ relayer ∈ env.auths ∧
      ∃ message, pre.messaging.messages.lookup messageId = some message ∧
        (∃ bridgeId, pre.messaging.bridgeForChain.lookup message.targetChain = some bridgeId ∧
          ∃ validators, pre.multisig.bridgeValidators bridgeId = some validators ∧
            relayer ∈ validators) ∧
        message.status = .relayed ∧
        message.nonce = pre.messaging.expected message.targetChain ∧ message.nonce < u64Max
  | _ => False

/-- What an error of a call leaves: an unproven confirmation moves the next nonce. -/
inductive CrossChainStopped (env : Env) (pre : CrossChainStore) :
    CrossChainCall → CrossChainStore → Prop where
  | unchanged {call : CrossChainCall} : CrossChainStopped env pre call pre
  | multisig {call : MultisigCall} {multisig : MultisigState}
      (stopped : MultisigStopped env pre.multisig call multisig) :
      CrossChainStopped env pre (.multisig call) { pre with multisig }
  | advanced {call : MessagingCall} {chain : ChainId}
      (unproven : call.ConfirmsUnproven env pre) :
      CrossChainStopped env pre (.messaging call)
        { pre with messaging := { pre.messaging with
          expectedNonce := pre.messaging.expectedNonce.insert chain
            (pre.messaging.expected chain + 1) } }

theorem CrossChainStopped.kept {env : Env} {pre after : CrossChainStore}
    {call : CrossChainCall} (stopped : CrossChainStopped env pre call after) :
    after.monitoring = pre.monitoring ∧ after.fees = pre.fees := by
  cases stopped <;> exact ⟨rfl, rfl⟩

theorem MonitoringCall.exec_stops (call : MonitoringCall) (env : Env) {pre : CrossChainStore} :
    wp (call.exec env) (fun _ _ => True)
      (fun fault after => fault.holds (fun _ => after = pre) True) pre := by
  cases call with
  | updateConfirmations transferId currentBlock =>
    have finality (config : ChainFinalityConfig) (confirmations : Nat) :
        wp (isFinalized config confirmations) (fun _ _ => True)
          (fun fault after => fault.holds (fun _ => after = pre) True) pre := by
      unfold isFinalized
      cases config.verificationMethod <;> simp [counter]
    simp only [exec, updateTransactionConfirmationCount, getMonitored, getChainFinalityConfig,
      check, orMissing, wlp_rules, Fault.holds_error]
    intro monitored _ _
    refine wp_mono (finality _ _) (fun finalized after _ => ?_) fun _ _ stops => stops
    simp [recordFinalityLatency, storeMonitored, putMonitoring, wp_ite]
  | complete transferId =>
    have series (points : List DataPoint) (value : Int) (store : CrossChainStore) :
        wp (addToTimeSeries points env.timestamp value) (fun _ _ => True)
          (fun fault after => fault.holds (fun _ => after = pre) True) store := by
      unfold addToTimeSeries
      cases points.getLast? <;> simp [amount, wp_ite]
    simp [exec, completeTransfer, updateTransferAnalytics, getBridgeTransfer, orMissing,
      storeBridgeTransfer, putMonitoring, counter, amount, series]
  | _ =>
    simp [exec, setChainFinalityConfig, monitorSourceTransaction, getChainFinalityConfig,
      clearCircuitBreaker, setLatencyCircuitBreakerConfig, createBridgeTransfer,
      addValidatorSignature, updateValidatorAnalytics, approveTransferForMinting, handleReorg,
      markTransactionFailed, getMonitored, getBridgeTransfer, storeMonitored, storeBridgeTransfer,
      putMonitoring, requireAuth, check, orMissing, counter, wp_ite]

theorem FeeCall.exec_stops (call : FeeCall) {pre : CrossChainStore} : wp call.exec (fun _ _ => True)
      (fun fault after => fault.holds (fun _ => after = pre) True) pre := by
  cases call <;>
    simp [exec, setBridgeTreasury, setBridgeFeeConfig, collectBridgeFee, calculateBridgeFee,
      distributeValidatorRewards, allocateToTreasury, adjustBridgeFeesDynamically, refundBridgeFee,
      getBridgeFeeConfig, getBridgeTransfer, getBridgeValidators, saveBridgeFeeStats, putFees,
      amount, counter, check, orMissing, wp_ite]

theorem MessagingCall.exec_stops (call : MessagingCall) (env : Env) {pre : CrossChainStore} :
    wp (call.exec env) (fun _ _ => True) (fun fault after => fault.holds
        (fun _ => CrossChainStopped env pre (.messaging call) after) True) pre := by
  cases call with
  | confirm messageId relayer deliveryProof =>
    simp only [exec, confirmMessageDelivery, getMessage, requireValidatorFor, getBridgeValidators,
      requireAuth, check, orMissing, counter, putMessaging, saveMessage, wlp_rules, wp_ite,
      Fault.holds_error, Fault.holds_trap, CrossChainStopped.unchanged, true_and]
    intro authorized message has bridgeId served validators members mem relayed _ next
      nextNonce isNext unproven
    have room : message.nonce < u64Max ∧
        nextNonce = pre.messaging.expected message.targetChain + 1 := by
      split at isNext
      next room => exact ⟨by omega, (Option.some.inj isNext).symm⟩
      next => cases isNext
    rw [room.2]
    exact .advanced ⟨not_not.mp unproven, authorized, message, has,
      ⟨bridgeId, served, validators, members, mem⟩, relayed, next, room.1⟩
  | _ =>
    simp [exec, registerBridgeForChain, sendCrossChainMessage, relayMessageToTargetChain,
      receiveMessageCallback, markMessageFailed, retryFailedMessage, expireTimedOutMessage,
      getMessage, requireValidatorFor, getBridgeValidators, requireAuth, check, orMissing, counter,
      putMessaging, saveMessage, CrossChainStopped.unchanged]

theorem CrossChainCall.exec_stops (call : CrossChainCall) (env : Env) {pre : CrossChainStore} :
    wp (call.exec env) (fun _ _ => True)
      (fun fault after => fault.holds (fun _ => CrossChainStopped env pre call after) True)
      pre := by
  have unwritten {program : ChainProgram Unit}
      (stops : wp program (fun _ _ => True)
        (fun fault after => fault.holds (fun _ => after = pre) True) pre) :
      wp program (fun _ _ => True)
        (fun fault after => fault.holds (fun _ => CrossChainStopped env pre call after) True)
        pre := by
    refine wp_mono stops (fun _ _ _ => trivial) ?_
    rintro (reason | _) after left
    · exact left ▸ .unchanged
    · trivial
  cases call with
  | multisig call =>
    refine wp_mono (call.exec_stops env) (fun _ _ _ => trivial) ?_
    rintro (reason | _) after left
    · obtain ⟨multisig, stopped, rfl⟩ := left
      exact .multisig stopped
    · trivial
  | messaging call => exact call.exec_stops env
  | monitoring call => exact unwritten (call.exec_stops env)
  | fees call => exact unwritten call.exec_stops

theorem ChainTransition.cases (ledger : Ledger CrossChainStore) (input : CrossChainInput) :
    (ChainTransition.Returned ⟨ledger, input, chainStep input ledger⟩ ∧
      CrossChainEffect (ledger.env input.arrival) ledger.store input.call
        (chainStep input ledger).store) ∨
    (¬ ChainTransition.Returned ⟨ledger, input, chainStep input ledger⟩ ∧
      CrossChainStopped (ledger.env input.arrival) ledger.store input.call
        (chainStep input ledger).store) := by
  have kept : (chainStep input ledger).store =
      invoke (attempt (input.call.exec (ledger.env input.arrival))) ledger.store :=
    invoke_discard _ _
  have gave : ChainTransition.Returned ⟨ledger, input, chainStep input ledger⟩ ↔
      Accepts (input.call.exec (ledger.env input.arrival)) ledger.store := Iff.rfl
  rw [gave, kept]
  rcases ran : input.call.exec (ledger.env input.arrival) ledger.store with
    ⟨value, after⟩ | ⟨reason | _, after⟩
  · refine .inl ⟨⟨value, after, ran⟩, ?_⟩
    simp only [invoke, attempt, ran]
    exact wp_ok (input.call.exec_effect _) ran
  · refine .inr ⟨not_exists.mpr fun _ => not_exists.mpr fun _ other =>
      (by cases ran.symm.trans other), ?_⟩
    simp only [invoke, attempt, ran]
    exact wp_error (input.call.exec_stops _) ran
  · refine .inr ⟨not_exists.mpr fun _ => not_exists.mpr fun _ other =>
      (by cases ran.symm.trans other), ?_⟩
    simp only [invoke, attempt, ran]
    exact .unchanged

end StellarSwipe.CrossChain
