import StellarSwipe.CrossChain.Multisig

/-!
# Messages to other chains

A message is sent, relayed by a validator and confirmed by one in the order of the nonces of its
chain.
-/

namespace StellarSwipe.CrossChain

open FixedWidth Program

def maxMessageSize : Nat := 4096

def messageTimeout : Nat := 86400

namespace MessagingState

variable (state : MessagingState) (chain : ChainId)

/-- The next nonce to confirm. -/
def expected : Nat := (state.expectedNonce.lookup chain).getD 0

/-- The next nonce to assign. -/
def outbound : Nat := (state.outboundSeq.lookup chain).getD 0

def saveMessage (messageId : Nat) (message : CrossChainMessage) : MessagingState :=
  { state with messages := state.messages.insert messageId message }

def removeMessage (messageId : Nat) : MessagingState :=
  { state with messages := state.messages.erase messageId }

end MessagingState

def messageSize (payload : Bytes) (targetContract : String) : Nat :=
  satCount u32Max payload.length targetContract.utf8ByteSize

variable (env : Env) (messageId : Nat)

def getMessage : ChainProgram CrossChainMessage := do
  orMissing ((← get).messaging.messages.lookup messageId) "Message not found"

def saveMessage (messageId : Nat) (message : CrossChainMessage) : ChainProgram Unit := do
  putMessaging ((← get).messaging.saveMessage messageId message)

def registerBridgeForChain (chain : ChainId) (bridgeId : Nat) : ChainProgram Unit := do
  let state := (← get).messaging
  putMessaging { state with bridgeForChain := state.bridgeForChain.insert chain bridgeId }

def requireValidatorFor (chain : ChainId) (validator : Address) : ChainProgram Unit := do
  let bridgeId ← orMissing ((← get).messaging.bridgeForChain.lookup chain) "No bridge for chain"
  let validators ← getBridgeValidators bridgeId
  check (validator ∈ validators) "Not authorized validator"

def sendCrossChainMessage (sender : Address) (targetChain : ChainId) (targetContract : String)
    (payload : Bytes) (gasLimit : Nat) (callbackRequired : Bool) : ChainProgram Nat := do
  requireAuth env sender
  ensure (¬ maxMessageSize < messageSize payload targetContract) .messageTooLarge
  let state := (← get).messaging
  let messageId := state.nextMessageId
  let nextMessageId ← counter u64Max (messageId + 1)
  let nonce := state.outbound targetChain
  let nextNonce ← counter u64Max (nonce + 1)
  putMessaging { state with
    messages := state.messages.insert messageId
      ⟨.stellar, targetChain, sender, targetContract, payload, gasLimit, callbackRequired,
        .pending, env.timestamp, none, nonce⟩
    nextMessageId
    outboundSeq := state.outboundSeq.insert targetChain nextNonce }
  pure messageId

def relayMessageToTargetChain (validator : Address) : ChainProgram Unit := do
  requireAuth env validator
  let message ← getMessage messageId
  check (message.status = .pending) "Already relayed"
  requireValidatorFor message.targetChain validator
  saveMessage messageId { message with status := .relayed }

/-- Confirm a relayed message if it is the next one of its chain. The next nonce moves
before the proof is looked at. -/
def confirmMessageDelivery (relayer : Address) (deliveryProof : Bytes) :
    ChainProgram Unit := do
  requireAuth env relayer
  let message ← getMessage messageId
  requireValidatorFor message.targetChain relayer
  check (message.status = .relayed) "Message not relayed"
  let state := (← get).messaging
  let expected := state.expected message.targetChain
  check (¬ message.nonce < expected) "Duplicate nonce: already delivered"
  check (message.nonce = expected) "Out-of-order nonce: expected lower sequence"
  let nextNonce ← counter u64Max (expected + 1)
  putMessaging { state with
    expectedNonce := state.expectedNonce.insert message.targetChain nextNonce }
  check (deliveryProof ≠ []) "Empty delivery proof"
  saveMessage messageId
    { message with status := .delivered, deliveredAt := some env.timestamp }
  if message.callbackRequired = true then pure ()
  else putMessaging ((← get).messaging.removeMessage messageId)

def receiveMessageCallback (relayer : Address) (callbackProof : Bytes) :
    ChainProgram Unit := do
  requireAuth env relayer
  let message ← getMessage messageId
  requireValidatorFor message.targetChain relayer
  check (message.callbackRequired = true) "Callback not expected"
  check (message.status = .delivered) "Message not delivered"
  check (callbackProof ≠ []) "Empty callback proof"
  saveMessage messageId { message with status := .callbackReceived }
  putMessaging ((← get).messaging.removeMessage messageId)

def CrossChainMessage.Completed (message : CrossChainMessage) : Prop :=
  message.status = .delivered ∨ message.status = .callbackReceived
deriving Decidable

def markMessageFailed : ChainProgram Unit := do
  let message ← getMessage messageId
  check (¬ message.Completed) "Message already completed"
  saveMessage messageId { message with status := .failed }

def retryFailedMessage : ChainProgram Unit := do
  let message ← getMessage messageId
  check (message.status = .failed) "Message not failed"
  saveMessage messageId { message with status := .pending }

/-- Fail a message that was sent too long ago. -/
def expireTimedOutMessage : ChainProgram Unit := do
  let message ← getMessage messageId
  check (¬ env.timestamp - message.sentAt < messageTimeout) "Message not timed out yet"
  check (¬ message.Completed) "Message already completed"
  saveMessage messageId { message with status := .failed }

inductive MessagingCall where
  | register (chain : ChainId) (bridgeId : Nat)
  | send (sender : Address) (targetChain : ChainId) (targetContract : String) (payload : Bytes)
      (gasLimit : Nat) (callbackRequired : Bool)
  | relay (messageId : Nat) (validator : Address)
  | confirm (messageId : Nat) (relayer : Address) (deliveryProof : Bytes)
  | callback (messageId : Nat) (relayer : Address) (callbackProof : Bytes)
  | markFailed (messageId : Nat)
  | retry (messageId : Nat)
  | expire (messageId : Nat)

/-- The function of a call. -/
def MessagingCall.exec (call : MessagingCall) (env : Env) : ChainProgram Unit :=
  match call with
  | .register chain bridgeId => registerBridgeForChain chain bridgeId
  | .send sender targetChain targetContract payload gasLimit callbackRequired =>
    discard (sendCrossChainMessage env sender targetChain targetContract payload gasLimit
      callbackRequired)
  | .relay messageId validator => relayMessageToTargetChain env messageId validator
  | .confirm messageId relayer deliveryProof =>
    confirmMessageDelivery env messageId relayer deliveryProof
  | .callback messageId relayer callbackProof =>
    receiveMessageCallback env messageId relayer callbackProof
  | .markFailed messageId => markMessageFailed messageId
  | .retry messageId => retryFailedMessage messageId
  | .expire messageId => expireTimedOutMessage env messageId

end StellarSwipe.CrossChain
