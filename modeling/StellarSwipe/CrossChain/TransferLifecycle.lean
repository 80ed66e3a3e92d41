import StellarSwipe.CrossChain.FeeEffects

/-!
# The lifecycle of a monitored transfer

A signature is kept as a text, so neither who signed nor whether that was a validator is known
later, and only the approval for minting looks at the status of a transfer.
-/

namespace StellarSwipe.CrossChain

open FixedWidth Program Runs OneShot CrossChainCall List AList

namespace CrossChainCall

def signer : CrossChainCall → Option (Nat × Address)
  | .monitoring (.addSignature transferId validator _) => some (transferId, validator)
  | _ => none

/-- The transfer whose signatures a call clears. -/
def restarts : CrossChainCall → Option Nat
  | .monitoring (.create transferId _ _ _ _ _ _ _) | .monitoring (.reorg transferId) =>
    some transferId
  | _ => none

def completing : CrossChainCall → Option Nat
  | .monitoring (.complete transferId) => some transferId
  | _ => none

end CrossChainCall

def BridgeTransfer.Settled (transfer : BridgeTransfer) : Prop :=
  transfer.status = .complete ∨ transfer.status = .failed
deriving Decidable

/-- A transfer that was approved by validators, whatever happened since. -/
def BridgeTransfer.PastApproval (transfer : BridgeTransfer) : Prop :=
  transfer.status = .validatorApproved ∨ transfer.status = .minting ∨ transfer.status = .complete

def CrossChainStore.attests (store : CrossChainStore) (transfer : BridgeTransfer)
    (address : Address) : Bool :=
  (store.multisig.bridgeValidators transfer.bridgeId).any fun validators =>
    decide (address ∈ validators)

/-- The signatures of a transfer since it was created or last reset. -/
def signings (transferId : Nat) (past : List ChainTransition) : List ChainTransition :=
  past.foldl (fun signed taken =>
    if taken.Returned then
      if taken.input.call.restarts = some transferId then []
      else if taken.input.call.signer.map Prod.fst = some transferId then signed ++ [taken]
      else signed
    else signed) []

namespace ChainTransition

def ByValidator (transferId : Nat) (taken : ChainTransition) : Prop :=
  ∃ validator, taken.input.call.signer = some (transferId, validator) ∧
    ∃ transfer ∈ taken.pre.store.monitoring.transfers.lookup transferId,
      taken.pre.store.attests transfer validator = true

def Completes (transferId : Nat) (taken : ChainTransition) : Prop :=
  taken.Returned ∧ taken.input.call.completing = some transferId
deriving Decidable

/-- What a step does to a transfer is in order: it is approved with the signatures of two
validators, completed from minting, and not changed any more when it is completed or failed. -/
structure InLifecycle (past : List ChainTransition) (transferId : Nat)
    (taken : ChainTransition) : Prop where
  approved : ∀ after ∈ taken.after.store.monitoring.transfers.lookup transferId,
    after.status = .validatorApproved →
    (∃ pre ∈ taken.pre.store.monitoring.transfers.lookup transferId,
        pre.status = .validatorApproved) ∨
      ∃ first ∈ signings transferId (past ++ [taken]),
        ∃ second ∈ signings transferId (past ++ [taken]),
          first.input.call.signer ≠ second.input.call.signer ∧
            first.ByValidator transferId ∧ second.ByValidator transferId
  completed : ∀ after ∈ taken.after.store.monitoring.transfers.lookup transferId,
    after.status = .complete →
    (∃ pre ∈ taken.pre.store.monitoring.transfers.lookup transferId,
        pre.status = .complete) ∨ taken.Completes transferId
  minted : taken.Completes transferId →
    ∃ pre ∈ taken.pre.store.monitoring.transfers.lookup transferId, pre.status = .minting
  settled : ∀ pre ∈ taken.pre.store.monitoring.transfers.lookup transferId,
    pre.Settled → ∃ after ∈ taken.after.store.monitoring.transfers.lookup transferId,
      after.status = pre.status

end ChainTransition

variable (past : List ChainTransition)

/-- A call that respects signers and statuses: no transfer is created over a settled one; the
first two signatures are by two validators of the bridge, and a settled transfer that carries
signatures is not signed again; completion follows minting; and settled transfers are neither
reset nor, when completed, failed. -/
def MonitoringCall.Orderly (pre : CrossChainStore) : MonitoringCall → Prop
  | .create transferId _ _ _ _ _ _ _ | .reorg transferId =>
    ∀ transfer ∈ pre.monitoring.transfers.lookup transferId, ¬ transfer.Settled
  | .addSignature transferId validator _ =>
    ∀ transfer ∈ pre.monitoring.transfers.lookup transferId,
      (transfer.Settled → transfer.validatorSignatures = []) ∧
      (transfer.validatorSignatures.length < 2 →
        pre.attests transfer validator = true ∧
        ∀ signing ∈ signings transferId past,
          signing.input.call.signer ≠ some (transferId, validator))
  | .complete transferId =>
    ∀ transfer ∈ pre.monitoring.transfers.lookup transferId, transfer.status = .minting
  | .markFailed transferId =>
    ∀ transfer ∈ pre.monitoring.transfers.lookup transferId, transfer.status ≠ .complete
  | .setFinalityConfig _ _ | .monitor _ _ _ _ | .updateConfirmations _ _ | .clearBreaker
  | .setBreakerConfig _ | .approve _ => True

instance (pre : CrossChainStore) : DecidablePred (MonitoringCall.Orderly past pre) :=
  fun _ => by
  unfold MonitoringCall.Orderly
  split <;> infer_instance

/-- The condition of a run: its calls on transfers that return are orderly. -/
def TransfersOrderly (ledger : Ledger CrossChainStore) (input : CrossChainInput) : Prop :=
  Accepts (input.call.exec (ledger.env input.arrival)) ledger.store →
    match input.call with
    | .monitoring call => call.Orderly past ledger.store
    | .multisig _ | .messaging _ | .fees _ => True

instance (ledger : Ledger CrossChainStore) : DecidablePred (TransfersOrderly past ledger) :=
  fun _ => by
  unfold TransfersOrderly
  split <;> infer_instance

section Signings

variable {past : List ChainTransition} {taken : ChainTransition} {transferId : Nat}

theorem signings_concat : signings transferId (past ++ [taken]) = if taken.Returned then
        if taken.input.call.restarts = some transferId then []
        else if taken.input.call.signer.map Prod.fst = some transferId then
          signings transferId past ++ [taken] else signings transferId past
      else signings transferId past := by
  simp [signings]

theorem signings_same (quiet : taken.Returned → taken.input.call.restarts ≠ some transferId ∧
      taken.input.call.signer.map Prod.fst ≠ some transferId) :
    signings transferId (past ++ [taken]) = signings transferId past := by
  rw [signings_concat]
  split
  next gave => rw [if_neg (quiet gave).1, if_neg (quiet gave).2]
  next => rfl

theorem not_completes (silent : taken.input.call.completing ≠ some transferId) :
    ¬ taken.Completes transferId := fun completes => silent completes.2

end Signings

def MonitoringCall.transferId? : MonitoringCall → Option Nat
  | .create transferId _ _ _ _ _ _ _ | .addSignature transferId _ _ | .approve transferId
  | .complete transferId | .reorg transferId | .markFailed transferId => some transferId
  | .setFinalityConfig _ _ | .monitor _ _ _ _ | .updateConfirmations _ _ | .clearBreaker
  | .setBreakerConfig _ => none

theorem TransferEffect.elsewhere {env : Env} {pre after : Table Nat BridgeTransfer}
    {call : MonitoringCall} {transferId : Nat} (effect : TransferEffect env pre call after)
    (other : call.transferId? ≠ some transferId) : after.lookup transferId = pre.lookup transferId ∧
      (CrossChainCall.monitoring call).restarts ≠ some transferId ∧
      (CrossChainCall.monitoring call).signer.map Prod.fst ≠ some transferId ∧
      (CrossChainCall.monitoring call).completing ≠ some transferId := by
  cases effect with
  | setFinalityConfig | monitor | updateConfirmations | clearBreaker | setBreakerConfig
  | reorgOnly | markFailedOnly => exact ⟨rfl, by first | exact other | exact nofun, nofun, nofun⟩
  | _ =>
    refine ⟨lookup_insert_ne fun same => other (congrArg some same.symm), ?_, ?_, ?_⟩ <;>
      first | exact other | exact nofun

/-- The first two signatures are by two validators. -/
def DistinctValidators (transferId : Nat) (signed : List ChainTransition) : Prop :=
  ((signed.take 2).map fun signing => signing.input.call.signer).Nodup ∧
    ∀ signing ∈ signed.take 2, signing.ByValidator transferId

/-- What an orderly past leaves of one transfer. -/
structure TransferKept (transferId : Nat) (past : List ChainTransition)
    (has : Option BridgeTransfer) : Prop where
  counted : ∀ transfer ∈ has,
    transfer.validatorSignatures.length = (signings transferId past).length
  distinct : DistinctValidators transferId (signings transferId past)
  approved : ∀ transfer ∈ has, transfer.PastApproval →
    2 ≤ transfer.validatorSignatures.length
  completed : Once (ChainTransition.Completes transferId)
    (∃ transfer ∈ has, transfer.status = .complete) past

namespace TransferKept

variable {transferId : Nat} {past : List ChainTransition} {taken : ChainTransition}
  {pre after : Option BridgeTransfer}

theorem update (kept : TransferKept transferId past pre)
    (same : signings transferId (past ++ [taken]) = signings transferId past)
    (from' : ∀ transfer ∈ after, ∃ prior ∈ pre,
      transfer.validatorSignatures = prior.validatorSignatures ∧
        (transfer.PastApproval → prior.PastApproval)) (unspent : taken.Completes transferId →
      ¬ ∃ transfer ∈ pre, transfer.status = .complete)
    (spends : taken.Completes transferId → ∃ transfer ∈ after, transfer.status = .complete)
    (stays : (∃ transfer ∈ pre, transfer.status = .complete) →
      ∃ transfer ∈ after, transfer.status = .complete) :
    TransferKept transferId (past ++ [taken]) after := by
  refine ⟨fun transfer has => ?_, ?_, fun transfer has approved => ?_,
    kept.completed.concat unspent spends stays⟩
  · obtain ⟨prior, hit, signatures, _⟩ := from' transfer has
    rw [same, signatures]
    exact kept.counted prior hit
  · rw [same]
    exact kept.distinct
  · obtain ⟨prior, hit, signatures, was⟩ := from' transfer has
    rw [signatures]
    exact kept.approved prior hit (was approved)

theorem quiet (kept : TransferKept transferId past pre)
    (same : signings transferId (past ++ [taken]) = signings transferId past)
    (uncounted : ¬ taken.Completes transferId) : TransferKept transferId (past ++ [taken]) pre :=
  kept.update same (fun transfer has => ⟨transfer, has, rfl, id⟩)
    (fun completes => absurd completes uncounted) (fun completes => absurd completes uncounted) id

theorem restart (kept : TransferKept transferId past pre)
    (cleared : signings transferId (past ++ [taken]) = [])
    (uncounted : ¬ taken.Completes transferId) (open' : ∀ transfer ∈ pre, ¬ transfer.Settled)
    (pending : ∀ transfer ∈ after, transfer.status = .pending ∧ transfer.validatorSignatures = []) :
    TransferKept transferId (past ++ [taken]) after := by
  refine ⟨fun transfer has => ?_, ?_, fun transfer has approved => ?_,
    kept.completed.concat (fun completes => absurd completes uncounted)
      (fun completes => absurd completes uncounted) ?_⟩
  · rw [cleared, (pending transfer has).2]
    rfl
  · rw [cleared]
    exact ⟨nodup_nil, fun _ inside => (by cases inside)⟩
  · simp [BridgeTransfer.PastApproval, (pending transfer has).1] at approved
  · rintro ⟨transfer, has, complete⟩
    exact absurd (.inl complete) (open' transfer has)

/-- One more signature. The first two are by two validators. -/
theorem sign (kept : TransferKept transferId past pre) {transfer : BridgeTransfer}
    {signature : String} {now : Nat} (hit : pre = some transfer)
    (more : signings transferId (past ++ [taken]) = signings transferId past ++ [taken])
    (uncounted : ¬ taken.Completes transferId)
    (unsigned : transfer.Settled → transfer.validatorSignatures = [])
    (mem : transfer.validatorSignatures.length < 2 → taken.ByValidator transferId ∧
      ∀ signing ∈ signings transferId past, signing.input.call.signer ≠ taken.input.call.signer) :
    TransferKept transferId (past ++ [taken]) (some (transfer.signedWith now signature)) := by
  subst hit
  have counted := kept.counted transfer rfl
  have carried : (transfer.signedWith now signature).validatorSignatures =
      transfer.validatorSignatures ++ [signature] := by
    rw [BridgeTransfer.signedWith]
    split <;> rfl
  refine ⟨?_, ?_, ?_, kept.completed.concat (fun completes => absurd completes uncounted)
    (fun completes => absurd completes uncounted) ?_⟩
  · rintro _ ⟨⟩
    rw [more, carried, length_append, length_append, counted]
    rfl
  · rw [more]
    by_cases few : transfer.validatorSignatures.length < 2
    · have all : (signings transferId past ++ [taken]).take 2 =
          signings transferId past ++ [taken] :=
        take_of_length_le (by rw [length_append, ← counted]; exact few)
      have first : (signings transferId past).take 2 = signings transferId past :=
        take_of_length_le (by rw [← counted]; exact few.le)
      obtain ⟨distinct, members⟩ := kept.distinct
      rw [first] at distinct members
      obtain ⟨validator, fresh⟩ := mem few
      rw [DistinctValidators, all, map_append]
      refine ⟨List.nodup_append.mpr ⟨distinct, nodup_singleton _, ?_⟩, ?_⟩
      · rintro _ inside _ last rfl
        obtain ⟨signing, prior, same⟩ := List.mem_map.mp inside
        exact fresh signing prior (same.trans (List.mem_singleton.mp last))
      · intro signing inside
        rcases List.mem_append.mp inside with prior | last
        · exact members signing prior
        · exact List.mem_singleton.mp last ▸ validator
    · have enough : 2 ≤ (signings transferId past).length := counted ▸ not_lt.mp few
      rw [DistinctValidators, take_append_of_le_length enough]
      exact kept.distinct
  · rintro _ ⟨⟩ approved
    rw [carried, length_append]
    by_cases enough : 2 ≤ (transfer.validatorSignatures ++ [signature]).length
    · rwa [length_append] at enough
    · rw [BridgeTransfer.signedWith, if_neg enough] at approved
      exact (kept.approved transfer rfl approved).trans (Nat.le_add_right _ _)
  · rintro ⟨_, ⟨⟩, complete⟩
    have enough := kept.approved transfer rfl (.inr (.inr complete))
    rw [unsigned (.inl complete)] at enough
    cases enough

theorem called {ledger next : Ledger CrossChainStore} {arrival : Arrival} {call : MonitoringCall}
    {transfers : Table Nat BridgeTransfer}
    (kept : TransferKept transferId past (ledger.store.monitoring.transfers.lookup transferId))
    (gave : ChainTransition.Returned ⟨ledger, ⟨arrival, .monitoring call⟩, next⟩)
    (effect : TransferEffect (ledger.env arrival) ledger.store.monitoring.transfers call
      transfers) (orderly : call.Orderly past ledger.store) :
    TransferKept transferId (past ++ [⟨ledger, ⟨arrival, .monitoring call⟩, next⟩])
      (transfers.lookup transferId) := by
  by_cases about : call.transferId? = some transferId
  swap
  · obtain ⟨same, restarts, signer, completing⟩ := effect.elsewhere about
    rw [same]
    exact kept.quiet (signings_same fun _ => ⟨restarts, signer⟩) (not_completes completing)
  cases effect with
  | setFinalityConfig | monitor | updateConfirmations | clearBreaker | setBreakerConfig =>
    cases about
  | create =>
    cases about
    rw [lookup_insert]
    refine kept.restart ?_ (not_completes nofun) orderly ?_
    · simp [signings_concat, gave, restarts]
    · rintro _ ⟨⟩
      exact ⟨rfl, rfl⟩
  | @addSignature _ validator signature transfer authorized has =>
    cases about
    obtain ⟨unsigned, mem⟩ := orderly transfer has
    rw [lookup_insert]
    refine kept.sign has ?_ (not_completes nofun) unsigned fun few => ?_
    · simp [signings_concat, gave, restarts, signer]
    · obtain ⟨attests, fresh⟩ := mem few
      exact ⟨⟨validator, rfl, transfer, has, attests⟩, fresh⟩
  | @approve _ transfer has approved =>
    cases about
    rw [lookup_insert]
    rw [has] at kept
    refine kept.update (signings_same fun _ => ⟨nofun, nofun⟩) ?_
      (fun completes => absurd completes (not_completes nofun))
      (fun completes => absurd completes (not_completes nofun)) (by simp [approved])
    rintro _ ⟨⟩
    exact ⟨transfer, rfl, rfl, fun _ => .inl approved⟩
  | @complete _ transfer has =>
    cases about
    have minting := orderly transfer has
    rw [lookup_insert]
    rw [has] at kept
    refine kept.update (signings_same fun _ => ⟨nofun, nofun⟩) ?_ (by simp [minting])
      (fun _ => ⟨_, rfl, rfl⟩) fun _ => ⟨_, rfl, rfl⟩
    rintro _ ⟨⟩
    exact ⟨transfer, rfl, rfl, fun _ => .inr (.inl minting)⟩
  | @reorg _ transfer has =>
    cases about
    rw [lookup_insert]
    refine kept.restart ?_ (not_completes nofun) orderly ?_
    · simp [signings_concat, gave, restarts]
    · rintro _ ⟨⟩
      exact ⟨rfl, rfl⟩
  | @reorgOnly _ absent =>
    cases about
    refine kept.restart ?_ (not_completes nofun) orderly ?_
    · simp [signings_concat, gave, restarts]
    · rw [absent]
      rintro _ ⟨⟩
  | @markFailed _ transfer has =>
    cases about
    have incomplete := orderly transfer has
    rw [lookup_insert]
    rw [has] at kept
    refine kept.update (signings_same fun _ => ⟨nofun, nofun⟩) ?_
      (fun completes => absurd completes (not_completes nofun))
      (fun completes => absurd completes (not_completes nofun)) (by simp [incomplete])
    rintro _ ⟨⟩
    exact ⟨transfer, rfl, rfl, by simp [BridgeTransfer.PastApproval, BridgeTransfer.withStatus]⟩
  | markFailedOnly =>
    exact kept.quiet (signings_same fun _ => ⟨nofun, nofun⟩) (not_completes nofun)

end TransferKept

section Lifecycle

variable {transferId : Nat} {past : List ChainTransition}

theorem inLifecycle_of_untouched {taken : ChainTransition}
    (same : taken.after.store.monitoring.transfers.lookup transferId =
      taken.pre.store.monitoring.transfers.lookup transferId)
    (uncounted : ¬ taken.Completes transferId) : taken.InLifecycle past transferId := by
  refine ⟨fun after has approved => ?_, fun after has complete => ?_,
    fun completes => absurd completes uncounted, fun pre has _ => ?_⟩
  · exact .inl ⟨after, same ▸ has, approved⟩
  · exact .inl ⟨after, same ▸ has, complete⟩
  · exact ⟨pre, same.symm ▸ has, rfl⟩

theorem DistinctValidators.pair {signed : List ChainTransition}
    (distinct : DistinctValidators transferId signed) (enough : 2 ≤ signed.length) :
    ∃ first ∈ signed, ∃ second ∈ signed, first.input.call.signer ≠ second.input.call.signer ∧
        first.ByValidator transferId ∧ second.ByValidator transferId := by
  match signed, enough with
  | first :: second :: rest, _ =>
    obtain ⟨different, validators⟩ := distinct
    have apart : first.input.call.signer ≠ second.input.call.signer := by simpa using different
    exact ⟨first, mem_cons_self, second, mem_cons_of_mem _ mem_cons_self, apart,
      validators first (by simp), validators second (by simp)⟩

theorem TransferKept.inLifecycle {ledger next : Ledger CrossChainStore} {arrival : Arrival}
    {call : MonitoringCall}
    (kept : TransferKept transferId past (ledger.store.monitoring.transfers.lookup transferId))
    (gave : ChainTransition.Returned ⟨ledger, ⟨arrival, .monitoring call⟩, next⟩)
    (effect : TransferEffect (ledger.env arrival) ledger.store.monitoring.transfers call
      next.store.monitoring.transfers) (orderly : call.Orderly past ledger.store) :
    ChainTransition.InLifecycle past transferId
      ⟨ledger, ⟨arrival, .monitoring call⟩, next⟩ := by
  have onward := kept.called gave effect orderly
  by_cases about : call.transferId? = some transferId
  swap
  · obtain ⟨same, _, _, completing⟩ := effect.elsewhere about
    exact inLifecycle_of_untouched same (not_completes completing)
  generalize written : next.store.monitoring.transfers = transfers at effect onward
  have hit {transfer : BridgeTransfer}
      (inserted : transfers = ledger.store.monitoring.transfers.insert transferId transfer) :
      next.store.monitoring.transfers.lookup transferId = some transfer := by
    rw [written, inserted, lookup_insert]
  cases effect with
  | setFinalityConfig | monitor | updateConfirmations | clearBreaker | setBreakerConfig =>
    cases about
  | reorgOnly | markFailedOnly =>
    exact inLifecycle_of_untouched (by rw [written]) (not_completes nofun)
  | create =>
    cases about
    exact ⟨by simp [hit rfl], by simp [hit rfl], fun completes =>
      absurd completes (not_completes nofun), fun pre has settled =>
      absurd settled (orderly pre has)⟩
  | @addSignature _ validator signature transfer authorized has =>
    cases about
    have hit := hit rfl
    have counted := onward.counted _ (lookup_insert _)
    obtain ⟨unsigned, _⟩ := orderly transfer has
    by_cases enough : 2 ≤ (transfer.validatorSignatures ++ [signature]).length
    · rw [BridgeTransfer.signedWith, if_pos enough] at hit counted
      refine ⟨fun _ _ _ => .inr (onward.distinct.pair (counted ▸ enough)), by simp [hit],
        fun completes => absurd completes (not_completes nofun), fun pre held settled => ?_⟩
      cases Option.mem_unique has held
      rw [unsigned settled] at enough
      exact absurd enough (by simp)
    · rw [BridgeTransfer.signedWith, if_neg enough] at hit
      refine ⟨?_, ?_, fun completes => absurd completes (not_completes nofun),
        by simp [hit, has]⟩ <;>
      · simp only [hit, has, Option.mem_some_iff]
        rintro _ rfl status
        exact .inl ⟨transfer, rfl, status⟩
  | @approve _ transfer has approved =>
    cases about
    exact ⟨by simp [hit rfl, BridgeTransfer.withStatus],
      by simp [hit rfl, BridgeTransfer.withStatus], fun completes =>
      absurd completes (not_completes nofun), by simp [has, BridgeTransfer.Settled, approved]⟩
  | @complete _ transfer has =>
    cases about
    have minting := orderly transfer has
    exact ⟨by simp [hit rfl, BridgeTransfer.completed], fun _ _ _ => .inr ⟨gave, rfl⟩,
      fun _ => ⟨transfer, has, minting⟩, by simp [has, BridgeTransfer.Settled, minting]⟩
  | @reorg _ transfer has =>
    cases about
    exact ⟨by simp [hit rfl, BridgeTransfer.reorged], by simp [hit rfl, BridgeTransfer.reorged],
      fun completes => absurd completes (not_completes nofun), fun pre has settled =>
      absurd settled (orderly pre has)⟩
  | @markFailed _ transfer has =>
    cases about
    have incomplete := orderly transfer has
    refine ⟨by simp [hit rfl, BridgeTransfer.withStatus],
      by simp [hit rfl, BridgeTransfer.withStatus], fun completes =>
      absurd completes (not_completes nofun), ?_⟩
    simp only [hit rfl, has, Option.mem_some_iff]
    rintro _ rfl settled
    exact ⟨_, rfl, (settled.resolve_left incomplete).symm⟩

theorem TransferKept.step {ledger : Ledger CrossChainStore} {input : CrossChainInput}
    (kept : TransferKept transferId past (ledger.store.monitoring.transfers.lookup transferId))
    (orderly : TransfersOrderly past ledger input) :
    TransferKept transferId (past ++ [⟨ledger, input, chainStep input ledger⟩])
        ((chainStep input ledger).store.monitoring.transfers.lookup transferId) ∧
      ChainTransition.InLifecycle past transferId
        ⟨ledger, input, chainStep input ledger⟩ := by
  have changed := ChainTransition.cases ledger input
  obtain ⟨arrival, call⟩ := input
  generalize stepped : chainStep ⟨arrival, call⟩ ledger = next at changed ⊢
  have untouched (same : next.store.monitoring.transfers =
        ledger.store.monitoring.transfers)
      (silent : ¬ ChainTransition.Returned ⟨ledger, ⟨arrival, call⟩, next⟩ ∨
        ∀ monitoring, call ≠ .monitoring monitoring) :
      TransferKept transferId (past ++ [⟨ledger, ⟨arrival, call⟩, next⟩])
          (next.store.monitoring.transfers.lookup transferId) ∧
        ChainTransition.InLifecycle past transferId ⟨ledger, ⟨arrival, call⟩, next⟩ := by
    have uncounted : ¬ ChainTransition.Completes transferId
        ⟨ledger, ⟨arrival, call⟩, next⟩ := by
      rintro ⟨gave, completes⟩
      rcases silent with stopped | other
      · exact stopped gave
      · cases call with
        | monitoring call => exact other call rfl
        | _ => cases completes
    refine ⟨?_, inLifecycle_of_untouched (congrArg _ same) uncounted⟩
    rw [same]
    refine kept.quiet (signings_same fun gave => ?_) uncounted
    rcases silent with stopped | other
    · exact absurd gave stopped
    · cases call with
      | monitoring call => exact absurd rfl (other call)
      | _ =>
        simp [restarts, signer]
  rcases changed with ⟨gave, effect⟩ | ⟨failed, stopped⟩
  · have orderly := orderly gave
    obtain ⟨store, written⟩ : ∃ store, next.store = store := ⟨_, rfl⟩
    rw [written] at effect
    cases effect with
    | @monitoring call monitoring effect =>
      have effect : TransferEffect (ledger.env arrival) ledger.store.monitoring.transfers call
          next.store.monitoring.transfers := by
        rw [written]
        exact effect
      exact ⟨kept.called gave effect orderly, kept.inLifecycle gave effect orderly⟩
    | _ =>
      exact untouched (by rw [written]) (.inr fun _ other => (by cases other))
  · exact untouched (congrArg _ stopped.kept.1) (.inl failed)

end Lifecycle

/-- In every run whose calls on transfers are orderly when they return, every step is in order
for every transfer, and every transfer is completed at most once. -/
theorem transfers_inLifecycle (governances : Table Nat BridgeGovernance)
    (bridges : Table Nat Bridge) (activeSets : Table Nat (List Address))
    (versions delays : Table Nat Nat) (timestamp sequence : Nat) (inputs : List CrossChainInput)
    (orderly : ∀ prior taken later, trace chainStep
          (crossChainStart governances bridges activeSets versions delays timestamp sequence)
          inputs = prior ++ taken :: later →
        TransfersOrderly prior taken.pre taken.input) (transferId : Nat) :
    let start := crossChainStart governances bridges activeSets versions delays timestamp sequence
    let taken := trace chainStep start inputs
    taken.countP (ChainTransition.Completes transferId) ≤ 1 ∧
      ∀ prior (step : ChainTransition) later, taken = prior ++ step :: later →
        step.InLifecycle prior transferId := by
  intro start taken
  have kept := past_invariant chainStep
    (fun past ledger =>
      TransferKept transferId past (ledger.store.monitoring.transfers.lookup transferId) ∧
        ∀ prior (step : ChainTransition) later, past = prior ++ step :: later →
          step.InLifecycle prior transferId)
    TransfersOrderly (fun past ledger input orderly kept => ?_) start
    ⟨⟨fun _ absent => (by cases absent), ⟨nodup_nil, fun _ inside => (by cases inside)⟩,
      fun _ absent => (by cases absent), Once.nil⟩, fun prior step later split => ?_⟩
    inputs orderly
  · exact ⟨kept.1.completed.once, kept.2⟩
  · obtain ⟨onward, ordered⟩ := kept.1.step orderly
    refine ⟨onward, fun prior step later split => ?_⟩
    rcases place_concat split with ⟨rfl, rfl, _⟩ | ⟨rest, _, inside⟩
    · exact ordered
    · exact kept.2 prior step rest inside
  · exact absurd split (by simp)

/-- A bridge with two validators. -/
def pairedBridge : Ledger CrossChainStore :=
  crossChainStart ∅ (AList.insert 1 ⟨[7, 8], 1, .active, ⟨1000, 1000, 1, 0⟩⟩ ∅) ∅ ∅ ∅ 0 0

def createdTransfer : CrossChainInput :=
  ⟨⟨0, 0, []⟩, .monitoring (.create 4 1 .ethereum .stellar ⟨300, by decide⟩ ⟨17, by decide⟩
    ⟨"XLM", none⟩ "")⟩

/-- An address that is no validator signs twice, with different texts. -/
def soleSignerRun : List CrossChainInput :=
  [createdTransfer, ⟨⟨1, 1, [9]⟩, .monitoring (.addSignature 4 9 "a")⟩,
    ⟨⟨1, 1, [9]⟩, .monitoring (.addSignature 4 9 "b")⟩]

/-- Two texts of one address approve a transfer. -/
theorem sole_signer_approves : ¬ ∀ inputs prior (step : ChainTransition) later,
      trace chainStep pairedBridge inputs = prior ++ step :: later →
        step.InLifecycle prior 4 := by
  intro every
  have last := every soleSignerRun
    (trace chainStep pairedBridge (soleSignerRun.take 2)) _ [] rfl
  rcases last.approved _ rfl rfl with pre | ⟨first, listed, second, also, different, _⟩
  · exact absurd pre (by decide)
  · have sole : ∀ signing ∈ signings 4 (trace chainStep pairedBridge soleSignerRun),
        signing.input.call.signer = some (4, 9) := by decide
    exact different ((sole first listed).trans (sole second also).symm)

/-- A transfer that both validators sign, that is minted and then completed. -/
def completedRun : List CrossChainInput :=
  [createdTransfer, ⟨⟨1, 1, [7]⟩, .monitoring (.addSignature 4 7 "a")⟩,
    ⟨⟨1, 1, [8]⟩, .monitoring (.addSignature 4 8 "b")⟩, ⟨⟨1, 1, []⟩, .monitoring (.approve 4)⟩,
    ⟨⟨1, 1, []⟩, .monitoring (.complete 4)⟩]

theorem completedRun_inLifecycle : ChainTransition.InLifecycle
      (trace chainStep pairedBridge (completedRun.take 4)) 4
      ⟨final chainStep pairedBridge (completedRun.take 4),
        ⟨⟨1, 1, []⟩, .monitoring (.complete 4)⟩, final chainStep pairedBridge completedRun⟩ :=
  (transfers_inLifecycle ∅ (AList.insert 1 ⟨[7, 8], 1, .active, ⟨1000, 1000, 1, 0⟩⟩ ∅) ∅ ∅ ∅ 0 0
    completedRun (forall_places (by decide)) 4).2 _ _ [] rfl

end StellarSwipe.CrossChain
