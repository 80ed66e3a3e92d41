import StellarSwipe.CrossChain.FeeEffects

/-!
# Messages are confirmed in order

The nonces confirmed on a chain count up from zero.
-/

namespace StellarSwipe.CrossChain

open FixedWidth Program Runs ChainTransition MessagingState MessagingCall List

def CrossChainCall.sends : CrossChainCall → Option ChainId
  | .messaging call => call.sends
  | _ => none

def CrossChainCall.confirms : CrossChainCall → Option Nat
  | .messaging call => call.confirms
  | _ => none

namespace ChainTransition

def sentTo (chain : ChainId) (taken : ChainTransition) : Bool :=
  taken.Returned ∧ taken.input.call.sends = some chain

def confirmedNonce (chain : ChainId) (taken : ChainTransition) : Option Nat := do
  let messageId ← taken.input.call.confirms
  let message ← taken.pre.store.messaging.messages.lookup messageId
  if taken.Returned ∧ message.targetChain = chain then some message.nonce else none

variable {taken : ChainTransition}

theorem confirmedNonce_none (quiet : taken.input.call.confirms = none ∨ ¬ taken.Returned)
    (chain : ChainId) : taken.confirmedNonce chain = none := by
  rcases quiet with other | stopped
  · simp [confirmedNonce, other]
  · simp [confirmedNonce, stopped]

theorem sentTo_false (quiet : taken.input.call.sends = none ∨ ¬ taken.Returned) (chain : ChainId) :
    taken.sentTo chain = false := by
  rcases quiet with other | stopped
  · simp [sentTo, other]
  · simp [sentTo, stopped]

end ChainTransition

namespace MessagingState

/-- The message with a nonce of a chain is stored and was not delivered. -/
def Undelivered (state : MessagingState) (chain : ChainId) (nonce : Nat) : Prop :=
  ∃ messageId message, state.messages.lookup messageId = some message ∧
    message.targetChain = chain ∧ message.nonce = nonce ∧ ¬ message.Completed

/-- What was sent and confirmed so far agrees with the counters of every chain, and what is
between them waits in the storage. -/
structure InOrder (past : List ChainTransition) (state : MessagingState) : Prop where
  sent (chain : ChainId) :
    past.countP (sentTo chain) = state.outbound chain
  confirmed (chain : ChainId) :
    past.filterMap (confirmedNonce chain) = List.range (state.expected chain)
  behind (chain : ChainId) : state.expected chain ≤ state.outbound chain
  assigned {messageId : Nat} {message : CrossChainMessage} :
    state.messages.lookup messageId = some message →
      messageId < state.nextMessageId ∧ message.nonce < state.outbound message.targetChain
  waiting {chain : ChainId} {nonce : Nat} : state.expected chain ≤ nonce →
    nonce < state.outbound chain → state.Undelivered chain nonce

theorem outbound_insert (state : MessagingState) (chain other : ChainId) (next : Nat) :
    { state with outboundSeq := state.outboundSeq.insert chain next }.outbound other =
      if other = chain then next else state.outbound other := by
  by_cases same : other = chain
  · subst same
    simp [outbound]
  · simp [outbound, AList.lookup_insert_ne same, same]

theorem expected_insert (state : MessagingState) (chain other : ChainId) (next : Nat) :
    { state with expectedNonce := state.expectedNonce.insert chain next }.expected other =
      if other = chain then next else state.expected other := by
  by_cases same : other = chain
  · subst same
    simp [expected]
  · simp [expected, AList.lookup_insert_ne same, same]

namespace InOrder

variable {past : List ChainTransition} {pre after : MessagingState}
  {taken : ChainTransition}

/-- A step that neither sends nor confirms: every message keeps its chain and nonce, and one
that was not completed stays. -/
theorem quiet (prior : pre.InOrder past) (unsent : ∀ chain, taken.sentTo chain = false)
    (unconfirmed : ∀ chain, taken.confirmedNonce chain = none)
    (sequences : after.outboundSeq = pre.outboundSeq)
    (nonces : after.expectedNonce = pre.expectedNonce)
    (ids : after.nextMessageId = pre.nextMessageId)
    (has : ∀ messageId message, after.messages.lookup messageId = some message →
      ∃ first, pre.messages.lookup messageId = some first ∧
        first.targetChain = message.targetChain ∧ first.nonce = message.nonce)
    (stays : ∀ messageId message, pre.messages.lookup messageId = some message →
      ¬ message.Completed → ∃ later, after.messages.lookup messageId = some later ∧
        later.targetChain = message.targetChain ∧ later.nonce = message.nonce ∧ ¬ later.Completed) :
    after.InOrder (past ++ [taken]) := by
  have outbound (chain : ChainId) : after.outbound chain = pre.outbound chain := by
    rw [outbound, sequences, outbound]
  have expected (chain : ChainId) : after.expected chain = pre.expected chain := by
    rw [expected, nonces, expected]
  refine ⟨fun chain => ?_, fun chain => ?_, fun chain => ?_, fun {messageId message} hit => ?_,
    fun {chain nonce} reached unsent => ?_⟩
  · simp [countP_append, unsent, outbound, prior.sent]
  · simp [filterMap_append, unconfirmed, expected, prior.confirmed]
  · rw [expected, outbound]
    exact prior.behind chain
  · obtain ⟨first, was, chain, nonce⟩ := has messageId message hit
    rw [outbound, ids, ← chain, ← nonce]
    exact prior.assigned was
  · rw [expected] at reached
    rw [outbound] at unsent
    obtain ⟨messageId, message, hit, rfl, rfl, unfinished⟩ := prior.waiting reached unsent
    obtain ⟨later, kept, chain, nonce, pending⟩ := stays messageId message hit unfinished
    exact ⟨messageId, later, kept, chain, nonce, pending⟩

theorem send (prior : pre.InOrder past) {chain : ChainId} {message : CrossChainMessage}
    (sent : ∀ other, taken.sentTo other = decide (chain = other))
    (unconfirmed : ∀ other, taken.confirmedNonce other = none)
    (target : message.targetChain = chain) (nonce : message.nonce = pre.outbound chain)
    (pending : message.status = .pending) :
    InOrder (past ++ [taken]) { pre with
      messages := pre.messages.insert pre.nextMessageId message
      nextMessageId := pre.nextMessageId + 1
      outboundSeq := pre.outboundSeq.insert chain (pre.outbound chain + 1) } := by
  have outbound (other : ChainId) := outbound_insert
    { pre with
      messages := pre.messages.insert pre.nextMessageId message
      nextMessageId := pre.nextMessageId + 1 } chain other (pre.outbound chain + 1)
  have grows (other : ChainId) : pre.outbound other ≤
      if other = chain then pre.outbound chain + 1 else pre.outbound other := by
    split
    next same => exact same ▸ Nat.le_succ _
    next => exact le_rfl
  refine ⟨fun other => ?_, fun other => ?_, fun other => ?_, fun {messageId has} hit => ?_,
    fun {other wanted} reached unsent => ?_⟩
  · rw [outbound, countP_append, prior.sent]
    by_cases same : other = chain
    · simp [sent, same]
    · simp [sent, same, Ne.symm same]
      rfl
  · simp only [filterMap_append, filterMap_cons, unconfirmed, filterMap_nil,
      append_nil]
    exact prior.confirmed other
  · rw [outbound]
    exact (prior.behind other).trans (grows other)
  · rw [outbound]
    by_cases fresh : messageId = pre.nextMessageId
    · subst fresh
      cases Option.mem_unique (AList.lookup_insert _) hit
      simp [target, nonce]
    · have was := (AList.lookup_insert_ne fresh).symm.trans hit
      obtain ⟨old, below⟩ := prior.assigned was
      exact ⟨Nat.lt_succ_of_lt old, below.trans_le (grows _)⟩
  · rw [outbound] at unsent
    by_cases newest : other = chain ∧ wanted = pre.outbound chain
    · obtain ⟨rfl, rfl⟩ := newest
      exact ⟨pre.nextMessageId, message, AList.lookup_insert _, target, nonce,
        by simp [CrossChainMessage.Completed, pending]⟩
    · have older : wanted < pre.outbound other := by
        split at unsent
        next same =>
          subst same
          have other : wanted ≠ pre.outbound other := fun last => newest ⟨rfl, last⟩
          omega
        next => exact unsent
      obtain ⟨messageId, has, hit, rest⟩ := prior.waiting reached older
      have old := (prior.assigned hit).1
      exact ⟨messageId, has, (AList.lookup_insert_ne old.ne).trans hit, rest⟩

/-- The next message of a chain is confirmed. It alone may leave the storage. -/
theorem confirm (prior : pre.InOrder past) {now messageId : Nat}
    {message : CrossChainMessage} (unsent : ∀ chain, taken.sentTo chain = false)
    (confirmed : ∀ chain, taken.confirmedNonce chain =
      if message.targetChain = chain then some message.nonce else none)
    (has : pre.messages.lookup messageId = some message)
    (next : message.nonce = pre.expected message.targetChain) :
    InOrder (past ++ [taken]) { pre with
      messages := message.kept now messageId pre.messages
      expectedNonce := pre.expectedNonce.insert message.targetChain
        (pre.expected message.targetChain + 1) } := by
  have expected (other : ChainId) := expected_insert
    { pre with messages := message.kept now messageId pre.messages } message.targetChain
    other (pre.expected message.targetChain + 1)
  have others {other : Nat} (different : other ≠ messageId) :
      (message.kept now messageId pre.messages).lookup other = pre.messages.lookup other := by
    rw [CrossChainMessage.kept]
    split
    next => exact AList.lookup_insert_ne different
    next => rw [AList.lookup_erase_ne different, AList.lookup_insert_ne different]
  have same {kept : CrossChainMessage}
      (hit : (message.kept now messageId pre.messages).lookup messageId = some kept) :
      kept = message.deliveredBy now := by
    rw [CrossChainMessage.kept] at hit
    split at hit
    next => exact (Option.mem_unique (AList.lookup_insert _) hit).symm
    next =>
      rw [AList.lookup_erase] at hit
      cases hit
  refine ⟨fun other => ?_, fun other => ?_, fun other => ?_, fun {id kept} hit => ?_,
    fun {other wanted} reached unconfirmed => ?_⟩
  · simp only [countP_append, countP_singleton, unsent]
    exact prior.sent other
  · rw [expected, filterMap_append, prior.confirmed]
    by_cases chain : other = message.targetChain
    · subst chain
      simp [confirmed, next, range_succ]
    · simp [confirmed, chain, Ne.symm chain]
      rfl
  · rw [expected]
    split
    next chain =>
      subst chain
      exact next ▸ (prior.assigned has).2
    next => exact prior.behind other
  · by_cases this : id = messageId
    · subst this
      have was := prior.assigned has
      rw [same hit]
      exact was
    · rw [others this] at hit
      exact prior.assigned hit
  · rw [expected] at reached
    have past : pre.expected other ≤ wanted := by
      split at reached
      next chain =>
        subst chain
        omega
      next => exact reached
    obtain ⟨id, waits, hit, rfl, rfl, unfinished⟩ := prior.waiting past unconfirmed
    refine ⟨id, waits, (others ?_).trans hit, rfl, rfl, unfinished⟩
    rintro rfl
    cases Option.mem_unique has hit
    rw [if_pos rfl] at reached
    omega

end InOrder

end MessagingState

open MessagingState

/-- Nobody confirms the next message of a chain without a proof. -/
def Proven (ledger : Ledger CrossChainStore) (input : CrossChainInput) : Prop :=
  ∀ call, input.call = .messaging call →
    ¬ call.ConfirmsUnproven (ledger.env input.arrival) ledger.store

theorem messages_keepInOrder (past : List ChainTransition) (ledger : Ledger CrossChainStore)
    (input : CrossChainInput) (proven : Proven ledger input)
    (prior : ledger.store.messaging.InOrder past) :
    (chainStep input ledger).store.messaging.InOrder
      (past ++ [⟨ledger, input, chainStep input ledger⟩]) := by
  have taken := ChainTransition.cases ledger input
  generalize chainStep input ledger = next at taken ⊢
  have untouched (same : next.store.messaging = ledger.store.messaging)
      (unsent : ∀ chain, sentTo chain ⟨ledger, input, next⟩ = false)
      (unconfirmed : ∀ chain,
        confirmedNonce chain ⟨ledger, input, next⟩ = none) :
      next.store.messaging.InOrder (past ++ [⟨ledger, input, next⟩]) := by
    rw [same]
    exact prior.quiet unsent unconfirmed rfl rfl rfl
      (fun _ message hit => ⟨message, hit, rfl, rfl⟩)
      fun _ message hit unfinished => ⟨message, hit, rfl, rfl, unfinished⟩
  obtain ⟨arrival, call⟩ := input
  generalize written : next.store = store at taken untouched ⊢
  rcases taken with ⟨gave, effect⟩ | ⟨failed, stopped⟩
  · cases effect with
    | multisig | monitoring | fees =>
      exact untouched rfl (sentTo_false (.inl rfl))
        (confirmedNonce_none (.inl rfl))
    | messaging effect =>
      cases effect with
      | register chain bridgeId =>
        exact prior.quiet (sentTo_false (.inl rfl))
          (confirmedNonce_none (.inl rfl)) rfl rfl rfl
          (fun _ message hit => ⟨message, hit, rfl, rfl⟩)
          fun _ message hit unfinished => ⟨message, hit, rfl, rfl, unfinished⟩
      | @send sender chain contract payload gasLimit callbackRequired fits =>
        refine prior.send (fun other => ?_)
          (confirmedNonce_none (.inl rfl)) rfl rfl rfl
        simp [sentTo, CrossChainCall.sends, MessagingCall.sends, gave]
      | @change _ changed message status unsent unconfirmed has unfinished later =>
        refine prior.quiet (sentTo_false (.inl unsent))
          (confirmedNonce_none (.inl unconfirmed)) rfl rfl rfl
          (fun messageId hit same => ?_) fun messageId hit same open' => ?_
        · by_cases this : messageId = changed
          · subst this
            cases Option.mem_unique (AList.lookup_insert _) same
            exact ⟨message, has, rfl, rfl⟩
          · exact ⟨hit, (AList.lookup_insert_ne this).symm.trans same, rfl, rfl⟩
        · by_cases this : messageId = changed
          · subst this
            cases Option.mem_unique has same
            exact ⟨_, AList.lookup_insert _, rfl, rfl, by simp [CrossChainMessage.Completed, later]⟩
          · exact ⟨hit, (AList.lookup_insert_ne this).trans same, rfl, rfl, open'⟩
      | confirm relayer deliveryProof has relayed next =>
        refine prior.confirm (sentTo_false (.inl rfl)) (fun chain => ?_)
          has next
        simp [confirmedNonce, CrossChainCall.confirms, MessagingCall.confirms, gave, has]
      | @callback called _ _ message received has delivered =>
        have others {messageId : Nat} (this : messageId ≠ called) :
            ((ledger.store.messaging.saveMessage called received).removeMessage
              called).messages.lookup messageId =
                ledger.store.messaging.messages.lookup messageId :=
          (AList.lookup_erase_ne this).trans (AList.lookup_insert_ne this)
        refine prior.quiet (sentTo_false (.inl rfl))
          (confirmedNonce_none (.inl rfl)) rfl rfl rfl
          (fun messageId hit same => ?_) fun messageId hit same unfinished => ?_
        · by_cases this : messageId = called
          · subst this
            cases (AList.lookup_erase _ _).symm.trans same
          · exact ⟨hit, (others this).symm.trans same, rfl, rfl⟩
        · have this : messageId ≠ called := by
            rintro rfl
            cases Option.mem_unique has same
            exact unfinished (.inl delivered)
          exact ⟨hit, (others this).trans same, rfl, rfl, unfinished⟩
  · cases stopped with
    | advanced unproven => exact absurd unproven (proven _ rfl)
    | _ => exact untouched rfl (sentTo_false (.inr failed)) (confirmedNonce_none (.inr failed))

/-- Over any run of calls on messages, in any order and by anyone, mixed with any other calls, in
which no confirmation of the next message lacks its proof: the nonces confirmed on a chain are
those from zero up to the next one expected, in this order and each once, and while fewer were
confirmed than sent, the message expected next is stored and not delivered. -/
theorem confirmed_inOrder (governances : Table Nat BridgeGovernance) (bridges : Table Nat Bridge)
    (activeSets : Table Nat (List Address)) (versions delays : Table Nat Nat)
    (timestamp sequence : Nat) (inputs : List CrossChainInput) (chain : ChainId)
    (proven : ∀ taken ∈ trace chainStep
        (crossChainStart governances bridges activeSets versions delays timestamp sequence) inputs,
      Proven taken.pre taken.input) :
    let start := crossChainStart governances bridges activeSets versions delays timestamp sequence
    let taken := trace chainStep start inputs
    let messaging := (final chainStep start inputs).store.messaging
    taken.filterMap (confirmedNonce chain) =
        List.range (messaging.expected chain) ∧
      (messaging.expected chain < taken.countP (sentTo chain) →
        messaging.Undelivered chain (messaging.expected chain)) := by
  intro start taken messaging
  have order := history_invariant chainStep
    (fun past ledger => ledger.store.messaging.InOrder past) Proven
    (fun past ledger input allowed prior => messages_keepInOrder past ledger input allowed prior)
    start ⟨fun _ => rfl, fun _ => rfl, fun _ => le_rfl, fun hit => (by cases hit),
      fun _ unsent => absurd unsent (Nat.not_lt_zero _)⟩ inputs proven
  refine ⟨order.confirmed chain, fun behind => order.waiting le_rfl ?_⟩
  rwa [← order.sent chain]

/-- A bridge of three validators, one of which relays a message to another chain. -/
def relayStart : Ledger CrossChainStore :=
  crossChainStart ∅ (AList.insert 1 ⟨[7, 8, 9], 1, .active, ⟨1000, 1000, 1, 0⟩⟩ ∅) ∅ ∅ ∅ 0 0

def relayRun : List CrossChainInput :=
  [⟨⟨0, 0, []⟩, .messaging (.register .ethereum 1)⟩,
    ⟨⟨0, 0, [4]⟩, .messaging (.send 4 .ethereum "0x1" [] 0 false)⟩,
    ⟨⟨0, 0, [7]⟩, .messaging (.relay 1 7)⟩]

/-- A confirmation with a proof is in order. -/
theorem proven_confirmation_inOrder : (trace chainStep relayStart
        (relayRun ++ [⟨⟨0, 0, [7]⟩, .messaging (.confirm 1 7 [1])⟩])).filterMap
      (confirmedNonce .ethereum) = List.range 1 := by
  refine (confirmed_inOrder ∅ (AList.insert 1 ⟨[7, 8, 9], 1, .active, ⟨1000, 1000, 1, 0⟩⟩ ∅) ∅ ∅ ∅
    0 0 (relayRun ++ [⟨⟨0, 0, [7]⟩, .messaging (.confirm 1 7 [1])⟩]) .ethereum ?_).1
  intro taken inside call calls unproven
  simp only [relayRun, List.cons_append, List.nil_append, trace, List.mem_cons,
    List.not_mem_nil, or_false] at inside
  rcases inside with rfl | rfl | rfl | rfl <;> cases calls
  · exact unproven
  · exact unproven
  · exact unproven
  · cases unproven.1

/-- Without a proof the nonce is skipped: it is not expected any more and was not confirmed. -/
theorem unproven_confirmation_skips : ¬ ∀ inputs chain,
      (trace chainStep relayStart inputs).filterMap (confirmedNonce chain) =
        List.range ((final chainStep relayStart inputs).store.messaging.expected chain) := by
  intro every
  exact absurd (every (relayRun ++ [⟨⟨0, 0, [7]⟩, .messaging (.confirm 1 7 [])⟩]) .ethereum)
    (by decide)

/-- An error returned by a call leaves the messages and the nonces to confirm. -/
def MessagingCall.FailsUnchanged (call : MessagingCall) (env : Env) (pre : CrossChainStore) :
    Prop :=
  ∀ reason after, call.exec env pre = .error (.error reason) after →
    after.messaging.messages = pre.messaging.messages ∧
      after.messaging.expectedNonce = pre.messaging.expectedNonce

section Errors

variable {pre : CrossChainStore}

/-- A confirmation without a proof is refused after the next nonce has moved. -/
theorem MessagingCall.unproven_moves {call : MessagingCall} {env : Env}
    (unproven : call.ConfirmsUnproven env pre) : ¬ call.FailsUnchanged env pre := by
  intro unchanged
  cases call with
  | confirm messageId relayer deliveryProof =>
    obtain ⟨rfl, authorized, message, has, ⟨bridgeId, served, validators, members, mem⟩,
      relayed, next, room⟩ := unproven
    have moved : wp (confirmMessageDelivery env messageId relayer []) (fun _ _ => False)
        (fun fault after => fault.holds (fun _ => after.messaging.expectedNonce =
          pre.messaging.expectedNonce.insert message.targetChain
            (pre.messaging.expected message.targetChain + 1)) False) pre := by
      simp [confirmMessageDelivery, getMessage, requireValidatorFor, getBridgeValidators,
        requireAuth, check, orMissing, counter, putMessaging, saveMessage, authorized, has, served,
        members, mem, relayed, next]
      omega
    rw [wp_iff] at moved
    obtain ⟨never, stops⟩ := moved
    cases result : confirmMessageDelivery env messageId relayer [] pre with
    | ok value after => exact never value after result
    | error fault after =>
      cases fault with
      | trap => exact stops .trap after result
      | error reason =>
        have grown := stops (.error reason) after result
        obtain ⟨_, same⟩ := unchanged reason after result
        rw [Fault.holds_error, same] at grown
        have next := expected_insert pre.messaging message.targetChain message.targetChain
          (pre.messaging.expected message.targetChain + 1)
        rw [← grown, if_pos rfl] at next
        exact absurd next (Nat.ne_of_lt (Nat.lt_succ_self _))
  | _ => exact unproven

end Errors

/-- For every state and call on messages, an error changes neither messages nor nonces exactly
when the call does not confirm a message without a proof. -/
theorem failed_messages_unchanged (call : MessagingCall) (env : Env) (pre : CrossChainStore) :
    call.FailsUnchanged env pre ↔ ¬ call.ConfirmsUnproven env pre := by
  constructor
  · intro unchanged unproven
    exact unproven_moves unproven unchanged
  · intro proven reason after stopped
    have left : CrossChainStopped env pre (.messaging call) after :=
      wp_error (call.exec_stops env) stopped
    cases left with
    | unchanged => exact ⟨rfl, rfl⟩
    | advanced unproven => exact absurd unproven proven

section Unproven

def relayedMessage : CrossChainStore :=
  (final chainStep relayStart relayRun).store

theorem unproven_confirmation_changes :
    ¬ ∀ (call : MessagingCall) (env : Env) (pre : CrossChainStore),
        call.FailsUnchanged env pre := by
  intro every
  have unchanged := every (.confirm 1 7 []) (.at 0 0 [7]) relayedMessage
  obtain ⟨_, same⟩ := unchanged (.text "Empty delivery proof") _ rfl
  exact absurd (congrArg (AList.lookup ChainId.ethereum) same) (by decide)

end Unproven

end StellarSwipe.CrossChain
