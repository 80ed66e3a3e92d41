import StellarSwipe.CrossChain.FeeEffects
import StellarSwipe.Library.Revisions

/-!
# Executed proposals were signed

A signature stays with its proposal. An execution counts the signatures that were collected, each
by a signer of its time, so it rests on the threshold of addresses that were signers when they
signed, though some may have left.
-/

namespace StellarSwipe.CrossChain

open FixedWidth Program Runs OneShot List Option AList

namespace MultisigCall

def signing : MultisigCall → Option (Nat × Nat × Address)
  | .sign bridgeId proposalId signer => some (bridgeId, proposalId, signer)
  | _ => none

def proposing : MultisigCall → Option (Nat × Address)
  | .create bridgeId proposer _ _ | .rotate bridgeId proposer _ _ => some (bridgeId, proposer)
  | _ => none

def executing : MultisigCall → Option (Nat × Nat)
  | .sign bridgeId proposalId _ | .execute bridgeId proposalId
  | .emergencyExecute bridgeId proposalId => some (bridgeId, proposalId)
  | _ => none

def cancelling : MultisigCall → Option (Nat × Nat)
  | .cancel bridgeId proposalId _ => some (bridgeId, proposalId)
  | _ => none

end MultisigCall

/-- The call of signers, if it is one. -/
def CrossChainCall.multisig? : CrossChainCall → Option MultisigCall
  | .multisig call => some call
  | _ => none

def MultisigState.HasSigned (state : MultisigState) (key : Nat × Nat) (signer : Address) : Prop :=
  ∃ proposal, state.proposals.lookup key = some proposal ∧ signer ∈ proposal.signatures

def MultisigState.hasExecuted (state : MultisigState) (key : Nat × Nat) : Bool :=
  (state.proposals.lookup key).any fun proposal => proposal.status = .executed

namespace ChainTransition

/-- An address signed a proposal, or made it, while it was a signer of the bridge: its signature
is new, also where the execution it led to failed. -/
def Signs (bridgeId proposalId : Nat) (signer : Address) (taken : ChainTransition) : Prop :=
  ¬ taken.pre.store.multisig.HasSigned (bridgeId, proposalId) signer ∧
    taken.after.store.multisig.HasSigned (bridgeId, proposalId) signer ∧
    ∃ call governance, taken.input.call = .multisig call ∧
    taken.pre.store.multisig.governances.lookup bridgeId = some governance ∧
    signer ∈ governance.signers ∧
    (call.signing = some (bridgeId, proposalId, signer) ∨
      call.proposing = some (bridgeId, signer) ∧ proposalId = governance.nextProposalId)

def Cancels (key : Nat × Nat) (taken : ChainTransition) : Prop :=
  taken.Returned ∧ taken.input.call.multisig?.bind MultisigCall.cancelling = some key

/-- A proposal was executed, by a call that executes or by the signature that reached the
threshold. -/
def Executes (key : Nat × Nat) (taken : ChainTransition) : Prop :=
  taken.Returned ∧ taken.input.call.multisig?.bind MultisigCall.executing = some key ∧
    taken.after.store.multisig.hasExecuted key = true
deriving Decidable

/-- At an execution, the proposal is pending, was never cancelled, is not expired, and carries
the required number of signatures of distinct addresses that were signers when they signed. -/
structure Sanctioned (past : List ChainTransition) (bridgeId proposalId : Nat)
    (taken : ChainTransition) : Prop where
  pending : ∃ proposal,
    taken.pre.store.multisig.proposals.lookup (bridgeId, proposalId) = some proposal ∧
      proposal.status = .pending ∧ taken.now ≤ proposal.expiry
  uncancelled : ∀ prior ∈ past, ¬ prior.Cancels (bridgeId, proposalId)
  signed : ∃ governance, ∃ signatures : List Address,
    taken.pre.store.multisig.governances.lookup bridgeId = some governance ∧
      governance.requiredSignatures ≤ signatures.length ∧ signatures.Nodup ∧
      ∀ signer ∈ signatures, ∃ signing ∈ past ++ [taken], signing.Signs bridgeId proposalId signer

end ChainTransition

/-- What a call may do to one proposal. One that fails may mark it expired or keep a
signature. -/
inductive ProposalChange (now : Nat) (gave : Prop) (pre : MultisigState)
    (call : MultisigCall) (bridgeId proposalId : Nat) :
    Option GovernanceProposal → Option GovernanceProposal → Prop where
  | same (proposal : Option GovernanceProposal) :
      ProposalChange now gave pre call bridgeId proposalId proposal proposal
  | made {old : Option GovernanceProposal} {governance : BridgeGovernance} {proposer : Address}
      {proposal : GovernanceProposal} (returns : gave)
      (governed : pre.governances.lookup bridgeId = some governance)
      (mem : proposer ∈ governance.signers) (next : proposalId = governance.nextProposalId)
      (makes : call.proposing = some (bridgeId, proposer))
      (signed : proposal.signatures = [proposer]) (pending : proposal.status = .pending) :
      ProposalChange now gave pre call bridgeId proposalId old (some proposal)
  | signed {proposal : GovernanceProposal} {governance : BridgeGovernance} {signer : Address}
      (governed : pre.governances.lookup bridgeId = some governance)
      (mem : signer ∈ governance.signers) (fresh : signer ∉ proposal.signatures)
      (pending : proposal.status = .pending)
      (signs : call.signing = some (bridgeId, proposalId, signer)) :
      ProposalChange now gave pre call bridgeId proposalId (some proposal)
        (some (proposal.signedBy signer))
  | executed {proposal : GovernanceProposal} {governance : BridgeGovernance}
      {signatures : List Address} (returns : gave)
      (governed : pre.governances.lookup bridgeId = some governance)
      (pending : proposal.status = .pending) (timely : now ≤ proposal.expiry)
      (enough : governance.requiredSignatures ≤ signatures.length)
      (collected : signatures = proposal.signatures ∨ ∃ signer ∈ governance.signers,
        signer ∉ proposal.signatures ∧ signatures = proposal.signatures ++ [signer] ∧
        call.signing = some (bridgeId, proposalId, signer))
      (executes : call.executing = some (bridgeId, proposalId)) :
      ProposalChange now gave pre call bridgeId proposalId (some proposal)
        (some { proposal with
          signatures
          status := .executed
          executedAt := some now })
  | cancelled {proposal : GovernanceProposal} (pending : proposal.status = .pending)
      (cancels : call.cancelling = some (bridgeId, proposalId)) :
      ProposalChange now gave pre call bridgeId proposalId (some proposal)
        (some { proposal with status := .cancelled })
  | expired {proposal : GovernanceProposal} (pending : proposal.status = .pending)
      (late : proposal.expiry < now) :
      ProposalChange now gave pre call bridgeId proposalId (some proposal)
        (some { proposal with status := .expired })

/-- Governances stay, and their next ids do not go back. -/
def MultisigState.Governs (pre after : MultisigState) : Prop :=
  ∀ bridgeId governance, pre.governances.lookup bridgeId = some governance →
    ∃ later, after.governances.lookup bridgeId = some later ∧
      governance.nextProposalId ≤ later.nextProposalId

namespace MultisigState

variable {pre middle after : MultisigState} {state : MultisigState}

theorem hasExecuted_iff {key : Nat × Nat} : state.hasExecuted key = true ↔
      ∃ proposal, state.proposals.lookup key = some proposal ∧ proposal.status = .executed := by
  cases hit : state.proposals.lookup key with
  | none => simp [hasExecuted, hit]
  | some proposal => simp [hasExecuted, hit]

theorem governs_refl (state : MultisigState) : state.Governs state :=
  fun _ governance governed => ⟨governance, governed, le_rfl⟩

theorem governs_put {bridgeId : Nat} {governance changed : BridgeGovernance}
    (governed : pre.governances.lookup bridgeId = some governance)
    (grows : governance.nextProposalId ≤ changed.nextProposalId) :
    pre.Governs (pre.putGovernance bridgeId changed) := by
  intro other hit inForce
  by_cases same : other = bridgeId
  · subst same
    cases mem_unique governed inForce
    exact ⟨changed, lookup_insert _, grows⟩
  · exact ⟨hit, (lookup_insert_ne same).trans inForce, le_rfl⟩

theorem proposals_put_ne {bridgeId proposalId : Nat} {proposal : GovernanceProposal}
    {key : Nat × Nat} (other : key ≠ (bridgeId, proposalId)) :
    (state.putProposal bridgeId proposalId proposal).proposals.lookup key =
      state.proposals.lookup key :=
  lookup_insert_ne other

end MultisigState

open MultisigState

section Changes

variable {now bridgeId proposalId : Nat} {pre middle after : MultisigState}

theorem ProposalTypeRan.leaves {proposalType : ProposalType}
    (ran : ProposalTypeRan now pre bridgeId proposalType middle) :
    middle.proposals = pre.proposals ∧ pre.Governs middle := by
  cases ran with
  | changed asks has =>
    rw [recorded, staged]
    split <;> exact ⟨rfl, governs_refl _⟩
  | configured => exact ⟨rfl, governs_refl _⟩
  | threshold unchanging governed => exact ⟨rfl, governs_put governed le_rfl⟩
  | announced => exact ⟨rfl, governs_refl _⟩

theorem Executed.changes {call : MultisigCall} {proposal : GovernanceProposal}
    {signatures : List Address} {key : Nat × Nat} {first : MultisigState}
    (executed : Executed now pre bridgeId proposalId after)
    (governances : pre.governances = first.governances)
    (has : pre.proposals.lookup (bridgeId, proposalId) = some
      { proposal with signatures })
    (others : ∀ other, other ≠ (bridgeId, proposalId) →
      pre.proposals.lookup other = first.proposals.lookup other)
    (was : first.proposals.lookup (bridgeId, proposalId) = some proposal)
    (collected : signatures = proposal.signatures ∨ ∃ governance signer,
      first.governances.lookup bridgeId = some governance ∧ signer ∈ governance.signers ∧
        signer ∉ proposal.signatures ∧ signatures = proposal.signatures ++ [signer] ∧
        call.signing = some (bridgeId, proposalId, signer))
    (executes : call.executing = some (bridgeId, proposalId)) :
    ProposalChange now True first call key.1 key.2 (first.proposals.lookup key)
      (after.proposals.lookup key) := by
  obtain @⟨governance, hit, middle, governed, inside, pending, enough, timely, ran⟩ := executed
  cases mem_unique has inside
  rw [governances] at governed
  by_cases same : key = (bridgeId, proposalId)
  · subst same
    rw [was, putProposal, lookup_insert]
    refine .executed trivial governed pending timely enough ?_ executes
    refine collected.imp id fun signing => ?_
    obtain ⟨other, signer, inForce, mem, fresh, appended, signs⟩ := signing
    cases mem_unique governed inForce
    exact ⟨signer, mem, fresh, appended, signs⟩
  · rw [proposals_put_ne same, ran.leaves.1, others key same]
    exact .same _

theorem ProposalMade.changes {call : MultisigCall} {proposer : Address} {key : Nat × Nat}
    (made : ProposalMade now pre bridgeId proposer after)
    (makes : call.proposing = some (bridgeId, proposer)) :
    ProposalChange now True pre call key.1 key.2 (pre.proposals.lookup key)
      (after.proposals.lookup key) := by
  obtain @⟨governance, proposalType, description, expiry, governed, mem⟩ := made
  by_cases same : key = (bridgeId, governance.nextProposalId)
  · subst same
    rw [putProposal, lookup_insert]
    exact .made trivial governed mem rfl makes rfl rfl
  · rw [proposals_put_ne same]
    exact .same _

/-- Every call of signers does to each proposal one of the things listed. -/
theorem MultisigEffect.changes {env : Env} {call : MultisigCall}
    (effect : MultisigEffect env pre call after) (key : Nat × Nat) :
    ProposalChange env.timestamp True pre call key.1 key.2 (pre.proposals.lookup key)
      (after.proposals.lookup key) := by
  cases effect with
  | create proposalType description made => exact made.changes rfl
  | rotate newSigners count made => exact made.changes rfl
  | @sign bridgeId proposalId signer governance proposal _ governed has mem fresh pending
      executed =>
    rcases executed with rfl | executed
    · by_cases same : key = (bridgeId, proposalId)
      · subst same
        rw [has, putProposal, lookup_insert]
        exact .signed governed mem fresh pending rfl
      · rw [proposals_put_ne same]
        exact .same _
    · exact executed.changes rfl (lookup_insert _) (fun _ other => proposals_put_ne other)
        has (.inr ⟨governance, signer, governed, mem, fresh, rfl, rfl⟩) rfl
  | execute executed | emergencyExecute executed =>
    have kept := executed
    obtain @⟨_, proposal, _, _, has, _⟩ := kept
    exact executed.changes rfl has (fun _ _ => rfl) has (.inl rfl) rfl
  | @cancel bridgeId proposalId caller proposal has pending =>
    by_cases same : key = (bridgeId, proposalId)
    · subst same
      rw [has, putProposal, lookup_insert]
      exact .cancelled pending rfl
    · rw [proposals_put_ne same]
      exact .same _
  | _ => exact .same _

/-- And every call of signers that fails. -/
theorem MultisigStopped.changes {env : Env} {call : MultisigCall}
    (stopped : MultisigStopped env pre call after) (key : Nat × Nat) :
    ProposalChange env.timestamp False pre call key.1 key.2 (pre.proposals.lookup key)
      (after.proposals.lookup key) := by
  cases stopped with
  | @expired _ bridgeId proposalId proposal has pending late =>
    by_cases same : key = (bridgeId, proposalId)
    · subst same
      rw [has, putProposal, lookup_insert]
      exact .expired pending late
    · rw [proposals_put_ne same]
      exact .same _
  | @signed bridgeId proposalId signer governance proposal governed has mem fresh pending =>
    by_cases same : key = (bridgeId, proposalId)
    · subst same
      rw [has, putProposal, lookup_insert]
      exact .signed governed mem fresh pending rfl
    · rw [proposals_put_ne same]
      exact .same _
  | _ => exact .same _

theorem MultisigStopped.governs {env : Env} {call : MultisigCall}
    (stopped : MultisigStopped env pre call after) : pre.Governs after := by
  cases stopped <;> exact governs_refl _

variable {call : MultisigCall} {env : Env}

theorem MultisigEffect.governs (effect : MultisigEffect env pre call after) :
    pre.Governs after := by
  have made {bridgeId : Nat} {proposer : Address} {later : MultisigState}
      (made : ProposalMade env.timestamp pre bridgeId proposer later) :
      pre.Governs later := by
    obtain @⟨_, _, _, _, governed, _⟩ := made
    exact governs_put governed (Nat.le_succ _)
  have executed {bridgeId proposalId : Nat} {first later : MultisigState}
      (executed : Executed env.timestamp first bridgeId proposalId later)
      (same : pre.Governs first) : pre.Governs later := by
    obtain @⟨_, _, middle, _, _, _, _, _, ran⟩ := executed
    intro other governance inForce
    obtain ⟨next, hit, grows⟩ := same other governance inForce
    obtain ⟨last, kept, onward⟩ := ran.leaves.2 other next hit
    exact ⟨last, kept, grows.trans onward⟩
  cases effect with
  | create proposalType description once | rotate newSigners count once => exact made once
  | sign governed has mem fresh pending ran =>
    rcases ran with rfl | ran
    · exact governs_refl _
    · exact executed ran (governs_refl _)
  | execute ran | emergencyExecute ran => exact executed ran (governs_refl _)
  | addSigner governed | removeSigner governed => exact governs_put governed le_rfl
  | _ => exact governs_refl _

theorem MultisigEffect.made_assigned {proposer : Address} {governance : BridgeGovernance}
    (effect : MultisigEffect env pre call after)
    (makes : call.proposing = some (bridgeId, proposer))
    (governed : pre.governances.lookup bridgeId = some governance) :
    ∃ later, after.governances.lookup bridgeId = some later ∧
      governance.nextProposalId < later.nextProposalId := by
  have made {later : MultisigState}
      (made : ProposalMade env.timestamp pre bridgeId proposer later) :
      ∃ hit, later.governances.lookup bridgeId = some hit ∧
        governance.nextProposalId < hit.nextProposalId := by
    obtain @⟨_, _, _, _, inForce, _⟩ := made
    cases mem_unique governed inForce
    exact ⟨_, lookup_insert _, Nat.lt_succ_self _⟩
  cases effect with
  | create proposalType description once | rotate newSigners count once =>
    cases makes
    exact made once
  | _ => cases makes

theorem MultisigEffect.executing_pending {key : Nat × Nat}
    (effect : MultisigEffect env pre call after) (executes : call.executing = some key) :
    ∃ proposal, pre.proposals.lookup key = some proposal ∧ proposal.status = .pending := by
  cases effect with
  | sign governed has mem fresh pending =>
    cases executes
    exact ⟨_, has, pending⟩
  | execute executed | emergencyExecute executed =>
    cases executes
    obtain @⟨_, proposal, _, _, has, pending⟩ := executed
    exact ⟨proposal, has, pending⟩
  | _ =>
    cases executes

theorem MultisigEffect.cancelling_marks {key : Nat × Nat}
    (effect : MultisigEffect env pre call after) (cancels : call.cancelling = some key) :
    ∃ proposal, after.proposals.lookup key = some proposal ∧ proposal.status = .cancelled := by
  cases effect with
  | cancel has pending =>
    cases cancels
    exact ⟨_, lookup_insert _, rfl⟩
  | _ => cases cancels

theorem ProposalChange.settled {gave : Prop} {call : MultisigCall}
    {old new : Option GovernanceProposal} {proposal : GovernanceProposal}
    (change : ProposalChange now gave pre call bridgeId proposalId old new)
    (unused : ∀ governance, pre.governances.lookup bridgeId = some governance →
      proposalId = governance.nextProposalId → old = none)
    (hit : old = some proposal) (settled : proposal.status ≠ .pending) : new = old := by
  cases change with
  | same => rfl
  | made _ governed mem next => cases (unused _ governed next).symm.trans hit
  | signed governed mem fresh pending | executed _ governed pending | cancelled pending
  | expired pending =>
    cases hit
    exact absurd pending settled

end Changes

/-- What the transitions so far left on the proposals stored: their signatures were given,
their ids assigned, and what was cancelled or executed stays so. -/
structure SignaturesKept (past : List ChainTransition) (state : MultisigState) : Prop where
  signed {bridgeId proposalId : Nat} {proposal : GovernanceProposal} :
    state.proposals.lookup (bridgeId, proposalId) = some proposal →
      proposal.signatures.Nodup ∧ ∀ signer ∈ proposal.signatures,
        ∃ signing ∈ past, signing.Signs bridgeId proposalId signer
  assigned {bridgeId proposalId : Nat} {proposal : GovernanceProposal} :
    state.proposals.lookup (bridgeId, proposalId) = some proposal →
      ∃ governance, state.governances.lookup bridgeId = some governance ∧
        proposalId < governance.nextProposalId
  cancelled {key : Nat × Nat} {prior : ChainTransition} :
    prior ∈ past → prior.Cancels key →
      ∃ proposal, state.proposals.lookup key = some proposal ∧ proposal.status = .cancelled
  executed (key : Nat × Nat) :
    Once (ChainTransition.Executes key) (state.hasExecuted key = true) past
  marked {key : Nat × Nat} : state.hasExecuted key = true →
    ∃ execution ∈ past, execution.Executes key

namespace SignaturesKept

variable {past : List ChainTransition} {ledger next : Ledger CrossChainStore}
  {input : CrossChainInput}

/-- A step that leaves signers and proposals alone. -/
theorem quiet (kept : SignaturesKept past ledger.store.multisig)
    (same : next.store.multisig = ledger.store.multisig)
    (silent : ¬ ChainTransition.Returned ⟨ledger, input, next⟩ ∨ input.call.multisig? = none) :
    SignaturesKept (past ++ [⟨ledger, input, next⟩]) next.store.multisig := by
  have uncancelling (key : Nat × Nat) :
      ¬ ChainTransition.Cancels key ⟨ledger, input, next⟩ := by
    rintro ⟨gave, cancels⟩
    rcases silent with stopped | other
    · exact stopped gave
    · simp [other] at cancels
  have idle (key : Nat × Nat) : ¬ ChainTransition.Executes key ⟨ledger, input, next⟩ := by
    rintro ⟨gave, executes, _⟩
    rcases silent with stopped | other
    · exact stopped gave
    · simp [other] at executes
  rw [same]
  refine ⟨fun has => ⟨(kept.signed has).1, fun signer given => ?_⟩, kept.assigned,
    fun {key prior} inside cancels => ?_, fun key => ?_, fun marked => ?_⟩
  · obtain ⟨signing, mem, signs⟩ := (kept.signed has).2 signer given
    exact ⟨signing, mem_append_left _ mem, signs⟩
  · rcases mem_snoc.mp inside with old | rfl
    · exact kept.cancelled old cancels
    · exact absurd cancels (uncancelling key)
  · exact (kept.executed key).concat (fun now => absurd now (idle key))
      (fun now => absurd now (idle key)) id
  · obtain ⟨execution, mem, executes⟩ := kept.marked marked
    exact ⟨execution, mem_append_left _ mem, executes⟩

/-- The next proposal has a new id. -/
theorem unused {state : MultisigState} (kept : SignaturesKept past state) {bridgeId : Nat}
    {governance : BridgeGovernance}
    (governed : state.governances.lookup bridgeId = some governance) :
    state.proposals.lookup (bridgeId, governance.nextProposalId) = none := by
  by_contra taken
  obtain ⟨proposal, has⟩ := Option.ne_none_iff_exists'.mp taken
  obtain ⟨other, inForce, below⟩ := kept.assigned has
  cases mem_unique governed inForce
  exact lt_irrefl _ below

theorem stays {now : Nat} {gave : Prop} {state : MultisigState} {call : MultisigCall}
    {key : Nat × Nat} {proposal : GovernanceProposal} {new : Option GovernanceProposal}
    (kept : SignaturesKept past state)
    (change : ProposalChange now gave state call key.1 key.2 (state.proposals.lookup key) new)
    (hit : state.proposals.lookup key = some proposal) (settled : proposal.status ≠ .pending) :
    new = some proposal := by
  refine (change.settled (fun _ governed next => ?_) hit settled).trans hit
  rw [← Prod.mk.eta (p := key), next]
  exact kept.unused governed

section Called

variable {now bridgeId proposalId : Nat} {gave : Prop} {call : MultisigCall}

/-- The signatures of a proposal after a change were given before it or by it. -/
theorem signatures (kept : SignaturesKept past ledger.store.multisig)
    (calls : input.call = .multisig call) {proposal : GovernanceProposal}
    (change : ProposalChange now gave ledger.store.multisig call bridgeId proposalId
      (ledger.store.multisig.proposals.lookup (bridgeId, proposalId)) (some proposal))
    (has : next.store.multisig.proposals.lookup (bridgeId, proposalId) = some proposal) :
    proposal.signatures.Nodup ∧ ∀ signer ∈ proposal.signatures,
      ∃ signing ∈ past ++ [⟨ledger, input, next⟩], signing.Signs bridgeId proposalId signer := by
  generalize hit : ledger.store.multisig.proposals.lookup (bridgeId, proposalId) = old
    at change
  have prior {last : GovernanceProposal} (same : old = some last) :
      last.signatures.Nodup ∧ ∀ signer ∈ last.signatures,
        ∃ signing ∈ past ++ [⟨ledger, input, next⟩],
          signing.Signs bridgeId proposalId signer := by
    obtain ⟨apart, given⟩ := kept.signed (hit.trans same)
    refine ⟨apart, fun signer inside => ?_⟩
    obtain ⟨signing, mem, signs⟩ := given signer inside
    exact ⟨signing, mem_append_left _ mem, signs⟩
  have grown {last : GovernanceProposal} {governance : BridgeGovernance} {signer : Address}
      (same : old = some last)
      (governed : ledger.store.multisig.governances.lookup bridgeId = some governance)
      (mem : signer ∈ governance.signers) (fresh : signer ∉ last.signatures)
      (signs : call.signing = some (bridgeId, proposalId, signer))
      (appended : proposal.signatures = last.signatures ++ [signer]) :
      proposal.signatures.Nodup ∧ ∀ other ∈ proposal.signatures,
        ∃ signing ∈ past ++ [⟨ledger, input, next⟩],
          signing.Signs bridgeId proposalId other := by
    obtain ⟨apart, given⟩ := prior same
    have unsigned : ¬ ledger.store.multisig.HasSigned (bridgeId, proposalId) signer := by
      rintro ⟨held, was, inside⟩
      cases mem_unique (hit.trans same) was
      exact fresh inside
    have signed : next.store.multisig.HasSigned (bridgeId, proposalId) signer :=
      ⟨proposal, has, appended ▸ mem_append_right _ mem_cons_self⟩
    rw [appended]
    refine ⟨List.nodup_append.mpr ⟨apart, nodup_singleton _, ?_⟩, ?_⟩
    · rintro other old _ newest rfl
      exact fresh (List.mem_singleton.mp newest ▸ old)
    · intro other inside
      rcases mem_snoc.mp inside with old | rfl
      · exact given other old
      · exact ⟨_, mem_append_right _ mem_cons_self, unsigned, signed, call, governance, calls,
          governed, mem, .inl signs⟩
  cases change with
  | same => exact prior rfl
  | @made _ governance proposer _ _ governed mem new makes signed =>
    subst new
    have unsigned : ¬ ledger.store.multisig.HasSigned (bridgeId, governance.nextProposalId)
        proposer := by
      rintro ⟨held, was, _⟩
      cases (kept.unused governed).symm.trans was
    rw [signed]
    refine ⟨nodup_singleton _, fun signer given => ?_⟩
    cases List.mem_singleton.mp given
    exact ⟨_, mem_append_right _ mem_cons_self, unsigned,
      ⟨proposal, has, signed ▸ mem_cons_self⟩, call, governance, calls, governed, mem,
      .inr ⟨makes, rfl⟩⟩
  | signed governed mem fresh pending signs => exact grown rfl governed mem fresh signs rfl
  | @executed last _ _ _ governed pending timely enough collected =>
    rcases collected with rfl | ⟨signer, mem, fresh, appended, signs⟩
    · exact @prior last rfl
    · exact grown rfl governed mem fresh signs appended
  | @cancelled last | @expired last => exact @prior last rfl

/-- A call of signers. What it does to each proposal is one of the changes. -/
theorem called (kept : SignaturesKept past ledger.store.multisig)
    (calls : input.call = .multisig call)
    (changes : ∀ key : Nat × Nat, ProposalChange now gave ledger.store.multisig call key.1
      key.2 (ledger.store.multisig.proposals.lookup key) (next.store.multisig.proposals.lookup key))
    (governs : ledger.store.multisig.Governs next.store.multisig)
    (returns : gave → ChainTransition.Returned ⟨ledger, input, next⟩)
    (effect : ChainTransition.Returned ⟨ledger, input, next⟩ →
      MultisigEffect (ledger.env input.arrival) ledger.store.multisig call next.store.multisig) :
    SignaturesKept (past ++ [⟨ledger, input, next⟩]) next.store.multisig := by
  refine ⟨fun {bridgeId proposalId proposal} has => ?_,
    fun {bridgeId proposalId proposal} has => ?_,
    fun {key prior} inside cancels => ?_, fun key => ?_, fun {key} marked => ?_⟩
  · have change := changes (bridgeId, proposalId)
    rw [has] at change
    exact kept.signatures calls change has
  · have change := changes (bridgeId, proposalId)
    rw [has] at change
    have onward {proposal : GovernanceProposal}
        (hit : ledger.store.multisig.proposals.lookup (bridgeId, proposalId) = some proposal) :
        ∃ governance, next.store.multisig.governances.lookup bridgeId = some governance ∧
          proposalId < governance.nextProposalId := by
      obtain ⟨governance, inForce, below⟩ := kept.assigned hit
      obtain ⟨later, kept, grows⟩ := governs bridgeId governance inForce
      exact ⟨later, kept, below.trans_le grows⟩
    generalize hit : ledger.store.multisig.proposals.lookup (bridgeId, proposalId) = old
      at change
    cases change with
    | made gave governed mem new makes =>
      obtain rfl : proposalId = _ := new
      exact (effect (returns gave)).made_assigned makes governed
    | _ => exact onward hit
  · rcases mem_snoc.mp inside with old | rfl
    · obtain ⟨proposal, hit, status⟩ := kept.cancelled old cancels
      exact ⟨proposal, kept.stays (changes key) hit (by simp [status]), status⟩
    · obtain ⟨gave, cancelling⟩ := cancels
      rw [calls] at cancelling
      exact (effect gave).cancelling_marks cancelling
  · refine (kept.executed key).concat ?_ (fun executes => executes.2.2) ?_
    · rintro ⟨gave, executes, _⟩ spent
      rw [calls] at executes
      obtain ⟨proposal, hit, pending⟩ := (effect gave).executing_pending executes
      obtain ⟨other, has, executed⟩ := hasExecuted_iff.mp spent
      cases mem_unique hit has
      simp [pending] at executed
    · intro spent
      obtain ⟨proposal, hit, executed⟩ := hasExecuted_iff.mp spent
      exact hasExecuted_iff.mpr
        ⟨proposal, kept.stays (changes key) hit (by simp [executed]), executed⟩
  · obtain ⟨proposal, has, executed⟩ := hasExecuted_iff.mp marked
    have change := changes key
    rw [has] at change
    generalize hit : ledger.store.multisig.proposals.lookup key = old at change
    cases change with
    | same =>
      obtain ⟨execution, mem, executes⟩ := kept.marked (hasExecuted_iff.mpr ⟨_, hit, executed⟩)
      exact ⟨execution, mem_append_left _ mem, executes⟩
    | executed gave governed pending timely enough collected executes =>
      exact ⟨_, mem_append_right _ mem_cons_self, returns gave, by rw [calls]; exact executes,
        marked⟩
    | made gave governed mem new makes signed pending => simp [pending] at executed
    | signed governed mem fresh pending =>
      simp [GovernanceProposal.signedBy, pending] at executed
    | cancelled | expired => simp at executed

end Called

/-- Every step keeps what the proposals stored rest on. -/
theorem step (kept : SignaturesKept past ledger.store.multisig) :
    SignaturesKept (past ++ [⟨ledger, input, chainStep input ledger⟩])
      (chainStep input ledger).store.multisig := by
  have changed := ChainTransition.cases ledger input
  obtain ⟨arrival, call⟩ := input
  generalize chainStep ⟨arrival, call⟩ ledger = next at changed ⊢
  generalize written : next.store = store at changed
  rw [← written]
  rcases changed with ⟨gave, effect⟩ | ⟨failed, stopped⟩
  · cases effect with
    | @multisig _ multisig effect =>
      obtain rfl : next.store.multisig = multisig := congrArg CrossChainStore.multisig written
      exact kept.called rfl effect.changes effect.governs (fun _ => gave) fun _ => effect
    | _ => exact kept.quiet (by rw [written]) (.inr rfl)
  · cases stopped with
    | @multisig _ multisig stopped =>
      obtain rfl : next.store.multisig = multisig := congrArg CrossChainStore.multisig written
      exact kept.called rfl stopped.changes stopped.governs False.elim
        fun gave => absurd gave failed
    | _ => exact kept.quiet (by rw [written]) (.inl failed)

theorem sanctions (kept : SignaturesKept past ledger.store.multisig) {key : Nat × Nat}
    (executes : ChainTransition.Executes key ⟨ledger, input, chainStep input ledger⟩) :
    ChainTransition.Sanctioned past key.1 key.2
      ⟨ledger, input, chainStep input ledger⟩ := by
  have after : SignaturesKept (past ++ [⟨ledger, input, chainStep input ledger⟩])
    (chainStep input ledger).store.multisig := kept.step
  rcases ChainTransition.cases ledger input with ⟨gave, effect⟩ | ⟨stopped, _⟩
  swap
  · exact absurd executes.1 stopped
  obtain ⟨_, executing, marked⟩ := executes
  obtain ⟨arrival, call⟩ := input
  generalize chainStep ⟨arrival, call⟩ ledger = next at effect marked after ⊢
  generalize written : next.store = store at effect
  cases effect with
  | messaging | monitoring | fees => cases executing
  | multisig effect =>
    obtain ⟨proposal, hit, pending⟩ := effect.executing_pending executing
    obtain ⟨last, has, executed⟩ := hasExecuted_iff.mp marked
    rw [written] at has after
    have change := effect.changes key
    rw [hit, has] at change
    cases change with
    | executed _ governed _ timely enough collected executes =>
      refine ⟨⟨proposal, hit, pending, timely⟩, fun prior inside cancels => ?_,
        _, _, governed, enough, after.signed has⟩
      obtain ⟨other, cancelled, status⟩ := kept.cancelled inside cancels
      cases mem_unique hit cancelled
      simp [pending] at status
    | same => simp [pending] at executed
    | made _ governed mem new makes signed status => simp [status] at executed
    | signed governed mem fresh status =>
      simp [GovernanceProposal.signedBy, status] at executed
    | cancelled | expired => simp at executed

end SignaturesKept

/-- Over any run of calls at any times: every proposal is executed at most once, it is marked
executed only by an execution, and every execution is sanctioned by what came before it. -/
theorem executions_signed (governances : Table Nat BridgeGovernance) (bridges : Table Nat Bridge)
    (activeSets : Table Nat (List Address)) (versions delays : Table Nat Nat)
    (timestamp sequence : Nat) (inputs : List CrossChainInput) (bridgeId proposalId : Nat) :
    let start := crossChainStart governances bridges activeSets versions delays timestamp sequence
    let taken := trace chainStep start inputs
    taken.countP (ChainTransition.Executes (bridgeId, proposalId)) ≤ 1 ∧
      ((final chainStep start inputs).store.multisig.hasExecuted (bridgeId, proposalId) =
          true → ∃ execution ∈ taken,
            ChainTransition.Executes (bridgeId, proposalId) execution) ∧
      ∀ prior (execution : ChainTransition) later, taken = prior ++ execution :: later →
        execution.Executes (bridgeId, proposalId) →
        execution.Sanctioned prior bridgeId proposalId := by
  intro start taken
  have run (inputs : List CrossChainInput) :
      SignaturesKept (trace chainStep start inputs)
        (final chainStep start inputs).store.multisig :=
    history_invariant chainStep (fun past ledger => SignaturesKept past ledger.store.multisig)
      (fun _ _ => True) (fun past ledger input _ kept => kept.step) start
      ⟨fun has => (by cases has), fun has => (by cases has),
        fun inside => (by cases inside), fun _ => Once.nil, fun marked => (by cases marked)⟩ inputs
      fun _ _ => trivial
  refine ⟨(run inputs).executed _ |>.once, fun marked => (run inputs).marked marked, ?_⟩
  intro prior execution later split executes
  obtain ⟨same, starts, steps⟩ := transitions_split chainStep start split
  have kept := run (prior.map Transition.input)
  rw [same, ← starts] at kept
  obtain ⟨pre, input, after⟩ := execution
  obtain rfl : after = chainStep input pre := steps
  exact kept.sanctions executes

/-- A bridge with three signers, of which two must sign, and two validators. -/
def twoOfThree : Ledger CrossChainStore :=
  crossChainStart (AList.insert 1 ⟨[1, 2, 3], 2, 1⟩ ∅)
    (AList.insert 1 ⟨[7, 8], 1, .active, ⟨1000, 1000, 1, 0⟩⟩ ∅) ∅ ∅ ∅ 0 0

/-- The proposer of a pause leaves the signers before a second one signs. -/
def departedSignerRun : List CrossChainInput :=
  [⟨⟨0, 0, [1]⟩, .multisig (.create 1 1 .pauseBridge "")⟩,
    ⟨⟨1, 1, []⟩, .multisig (.removeSigner 1 1)⟩, ⟨⟨1, 1, [2]⟩, .multisig (.sign 1 1 2)⟩]

namespace ChainTransition

/-- The signatures that a proposal carries at the end of a call, by addresses that are signers
when it arrives. -/
def currentSignatures (bridgeId proposalId : Nat) (taken : ChainTransition) : List Address :=
  ((taken.after.store.multisig.proposals.lookup (bridgeId, proposalId)).elim []
    GovernanceProposal.signatures).filter fun signer =>
      (taken.pre.store.multisig.governances.lookup bridgeId).any fun governance =>
        decide (signer ∈ governance.signers)

end ChainTransition

/-- The signature of a signer who has left is still counted: an execution need not carry the
threshold of signatures of current signers. -/
theorem departedSigner_counted : ¬ ∀ inputs prior (execution : ChainTransition) later,
      trace chainStep twoOfThree inputs = prior ++ execution :: later →
      execution.Executes (1, 1) → ∀ governance,
      execution.pre.store.multisig.governances.lookup 1 = some governance →
      governance.requiredSignatures ≤ (execution.currentSignatures 1 1).length := by
  intro every
  have enough := every departedSignerRun
    (trace chainStep twoOfThree (departedSignerRun.take 2)) _ [] rfl (by decide)
    ⟨[2, 3], 2, 2⟩ (by decide)
  exact absurd enough (by decide)

/-- The execution of that run is sanctioned. -/
theorem departedSignerRun_signed : ChainTransition.Sanctioned
      (trace chainStep twoOfThree (departedSignerRun.take 2)) 1 1
      ⟨final chainStep twoOfThree (departedSignerRun.take 2), ⟨⟨1, 1, [2]⟩,
        .multisig (.sign 1 1 2)⟩, final chainStep twoOfThree departedSignerRun⟩ :=
  (executions_signed (AList.insert 1 ⟨[1, 2, 3], 2, 1⟩ ∅)
    (AList.insert 1 ⟨[7, 8], 1, .active, ⟨1000, 1000, 1, 0⟩⟩ ∅) ∅ ∅ ∅ 0 0 departedSignerRun 1 1).2.2
    _ _ [] rfl (by decide)

/-- The same proposal later: it only gains signatures, and is done with once it is not pending. -/
abbrev GovernanceProposal.Continues : GovernanceProposal → GovernanceProposal → Prop :=
  Table.Revises (fun proposal => { proposal with
    signatures := [], status := .pending, executedAt := none })
    GovernanceProposal.signatures (· <+: ·) (·.status ≠ .pending)

theorem ProposalChange.continues {now bridgeId proposalId : Nat} {gave : Prop}
    {pre : MultisigState} {call : MultisigCall} {old new : Option GovernanceProposal}
    {proposal : GovernanceProposal}
    (change : ProposalChange now gave pre call bridgeId proposalId old new)
    (assigned : ∃ governance, pre.governances.lookup bridgeId = some governance ∧
      proposalId < governance.nextProposalId) (hit : old = some proposal) :
    ∃ later, new = some later ∧ proposal.Continues later := by
  cases change with
  | same => exact ⟨proposal, hit, refl_of GovernanceProposal.Continues _⟩
  | made _ governed _ next =>
    obtain ⟨_, inForce, below⟩ := assigned
    cases Option.mem_unique governed inForce
    exact absurd next below.ne
  | signed _ _ _ pending =>
    cases hit
    exact ⟨_, rfl, rfl, prefix_append _ _, fun settled => absurd pending settled⟩
  | executed _ _ pending _ _ collected =>
    cases hit
    refine ⟨_, rfl, rfl, ?_, fun settled => absurd pending settled⟩
    rcases collected with rfl | ⟨_, _, _, rfl, _⟩
    · exact prefix_rfl
    · exact prefix_append _ _
  | cancelled pending | expired pending =>
    cases hit
    exact ⟨_, rfl, rfl, prefix_rfl, fun settled => absurd pending settled⟩

theorem SignaturesKept.continues {past : List ChainTransition}
    {ledger : Ledger CrossChainStore} (kept : SignaturesKept past ledger.store.multisig)
    (input : CrossChainInput) :
    Table.Continued GovernanceProposal.Continues ledger.store.multisig.proposals
      (chainStep input ledger).store.multisig.proposals := by
  have changed := ChainTransition.cases ledger input
  obtain ⟨arrival, call⟩ := input
  generalize chainStep ⟨arrival, call⟩ ledger = next at changed ⊢
  rcases changed with ⟨_, effect⟩ | ⟨_, stopped⟩
  · generalize next.store = store at effect ⊢
    cases effect with
    | multisig effect =>
      exact fun key _ hit => (effect.changes key).continues (kept.assigned hit) hit
    | _ => exact .refl _
  · generalize next.store = store at stopped ⊢
    cases stopped with
    | multisig stopped =>
      exact fun key _ hit => (stopped.changes key).continues (kept.assigned hit) hit
    | _ => exact .refl _

/-- However the bridges are run and run on, every proposal stays on record as the same one. -/
theorem bridge_proposals_stay_on_record (governances : Table Nat BridgeGovernance)
    (bridges : Table Nat Bridge) (activeSets : Table Nat (List Address))
    (versions delays : Table Nat Nat) (timestamp sequence : Nat)
    (inputs later : List CrossChainInput) :
    let reached := final chainStep
      (crossChainStart governances bridges activeSets versions delays timestamp sequence) inputs
    Table.Continued GovernanceProposal.Continues reached.store.multisig.proposals
      (final chainStep reached later).store.multisig.proposals := by
  have run := Table.continued_run chainStep (·.store.multisig.proposals)
    (fun ledger => ∃ past, SignaturesKept past ledger.store.multisig)
    fun ledger input ⟨_, kept⟩ => ⟨⟨_, kept.step⟩, kept.continues input⟩
  exact (run _ (run _ ⟨[], fun has => (by cases has), fun has => (by cases has),
    fun inside => (by cases inside), fun _ => OneShot.Once.nil,
    fun marked => (by cases marked)⟩ inputs).1 later).2

end StellarSwipe.CrossChain
