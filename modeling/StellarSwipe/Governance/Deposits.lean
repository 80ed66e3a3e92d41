import StellarSwipe.Governance.ContractEffects

/-!
# Deposits of proposals

A proposer pays a deposit when a proposal is made.
-/

namespace StellarSwipe.Governance

open FixedWidth Program Runs

def setDepositConfig (env : Env) (admin : Address) (config : DepositConfig) :
    GovProgram Unit := do
  requireAdmin env admin
  ensure (¬ (config.amount ≤ 0 ∨ 10000 < config.minParticipationBps)) .invalidGovernanceConfig
  modify fun store => { store with deposits := { store.deposits with
    config := some config } }

def creditBalance (holder : Address) (amount : Int) : GovProgram Unit := do
  putTokens (← ofExcept ((← get).tokens.addBalance holder amount))

/-- Call a proposal off before the first vote, and give the deposit back. An error of the
payment is ignored. -/
def withdrawProposal (env : Env) (proposalId : Nat) (proposer : Address) :
    GovProgram ProposalStatus := do
  requireAuth env proposer
  let proposal ← getProposal proposalId
  ensure (proposer = proposal.proposer) .unauthorized
  ensure (proposal.status ≠ .withdrawn) .proposalAlreadyWithdrawn
  ensure (proposal.status = .pending) .proposalNotActive
  putProposal proposalId { proposal with status := .withdrawn }
  let store ← get
  let config := depositConfig store
  if 0 < config.amount ∧ store.deposits.locked.lookup proposalId = some proposer then do
    discard (attempt (creditBalance proposer config.amount))
    modify fun store => { store with deposits := { store.deposits with
      locked := store.deposits.locked.erase proposalId } }
  else pure ()
  pure .withdrawn

/-- One call of the contract, those about deposits alone included. -/
inductive DepositCall where
  | governance (call : GovernanceCall)
  | setDepositConfig (admin : Address) (amount : Amount) (minParticipationBps : Nat)
  | withdrawProposal (proposalId : Nat) (proposer : Address)

namespace DepositCall

/-- The entry point of a call. -/
def exec (call : DepositCall) (env : Env) : GovProgram Unit :=
  match call with
  | .governance call => call.exec env
  | .setDepositConfig admin amount minParticipationBps => do
    requireInitialized
    requireParameterCapability env admin
    Governance.setDepositConfig env admin ⟨amount, minParticipationBps⟩
  | .withdrawProposal proposalId proposer => do
    requireInitialized
    requireNotPaused
    discard (Governance.withdrawProposal env proposalId proposer)

def Makes (call : DepositCall) : Prop :=
  match call with
  | .governance (.proposal (.create _ _ _ _ _ _ _)) => True
  | _ => False

def settles (call : DepositCall) : Option Nat :=
  match call with
  | .governance (.proposal (.finalize proposalId)) => some proposalId
  | .withdrawProposal proposalId _ => some proposalId
  | _ => none

instance (call : DepositCall) : Decidable call.Makes := by
  unfold Makes
  split <;> infer_instance

end DepositCall

/-- A call that arrives some time after the last one. -/
structure DepositInput where
  arrival : Arrival
  call : DepositCall

def depositStep (input : DepositInput) (ledger : Ledger GovStore) : Ledger GovStore :=
  ledger.call input.arrival input.call.exec

def depositStart (admin treasury : Address) (balances : Table Address Int)
    (holders : List Address) (totalSupply : Int) (timestamp sequence : Nat) :
    Ledger GovStore where
  store := { GovStore.initial admin balances holders totalSupply with
    deposits := ⟨none, ∅, some treasury⟩ }
  timestamp
  sequence

namespace GovStore

variable (store : GovStore) (proposalId : Nat)

/-- Who paid the deposit that is held for a proposal. -/
def heldFrom : Option Address := store.deposits.locked.lookup proposalId

def balanceOf (holder : Address) : Int := store.tokens.balances.read holder

def proposerOf : Option Address := (store.proposal proposalId).map Proposal.proposer

def OpenAt : Prop := ∃ proposal ∈ store.proposal proposalId, proposal.IsOpen
deriving Decidable

/-- Enough of the supply voted on a proposal for its deposit to go back. -/
def MeetsParticipation : Prop :=
  ∃ proposal ∈ store.proposal proposalId, 0 < store.tokens.totalSupply.getD 0 ∧
    ((depositConfig store).minParticipationBps : Int) ≤ i128.clamp
      ((saturatingMul proposal.totalVotes 10000).tdiv (store.tokens.totalSupply.getD 0))
deriving Decidable

end GovStore

namespace DepositInput

variable (input : DepositInput) (ledger : Ledger GovStore)

/-- The storage that the settlement starts from. A finalization decides the proposal first,
which may run its action. -/
def settling : GovStore :=
  match input.call with
  | .governance (.proposal (.finalize proposalId)) =>
    invoke (finalizeProposal (ledger.env input.arrival) proposalId) ledger.store
  | _ => ledger.store

/-- Who the deposit goes to: back to whoever paid it, and to the treasury when a proposal is
finalized on which too few voted. -/
def beneficiary : Option Address :=
  match input.call with
  | .governance (.proposal (.finalize proposalId)) =>
    if (input.settling ledger).MeetsParticipation proposalId then
      ledger.store.heldFrom proposalId
    else ledger.store.deposits.treasuryAddress
  | .withdrawProposal proposalId _ => ledger.store.heldFrom proposalId
  | _ => none

/-- The beneficiary's balance stays within its type with the configured deposit. -/
def Fits : Prop :=
  ∀ receiver ∈ input.beneficiary ledger,
    i128.Holds ((input.settling ledger).balanceOf receiver + (depositConfig ledger.store).amount)
deriving Decidable

end DepositInput

abbrev DepositTransition := Transition (Ledger GovStore) DepositInput

namespace DepositTransition

variable (taken : DepositTransition) (proposalId : Nat)

def Returned : Prop :=
  Accepts (taken.input.call.exec (taken.pre.env taken.input.arrival)) taken.pre.store
deriving Decidable

/-- The transition made a proposal and holds a deposit for it. -/
def Locks : Prop :=
  taken.Returned ∧ taken.input.call.Makes ∧
    taken.pre.store.proposals.nextProposalId = proposalId ∧
    (taken.after.store.heldFrom proposalId).isSome
deriving Decidable

/-- The transition gave up the deposit held for a proposal. -/
def Settles : Prop :=
  (taken.pre.store.heldFrom proposalId).isSome ∧
    taken.after.store.heldFrom proposalId = none
deriving Decidable

/-- The transition finalized or withdrew a proposal for which a deposit was held. -/
def Closes : Prop :=
  taken.Returned ∧ taken.input.call.settles = some proposalId ∧
    (taken.pre.store.heldFrom proposalId).isSome

/-- What the transition took from whoever paid a deposit. -/
def lockedAmount : Int :=
  (taken.after.store.heldFrom proposalId).elim 0 fun proposer =>
    taken.pre.store.balanceOf proposer - taken.after.store.balanceOf proposer

/-- The deposit that was configured when the call arrived. -/
def configuredAmount : Int := (depositConfig taken.pre.store).amount

def PaysExactly (amount : Int) : Prop :=
  ∃ receiver ∈ taken.input.beneficiary taken.pre, ∀ holder,
    taken.after.store.balanceOf holder =
      (taken.input.settling taken.pre).balanceOf holder + if holder = receiver then amount else 0

end DepositTransition

def atLock (number : DepositTransition → Int) (proposalId : Nat) (past : List DepositTransition) :
    Int :=
  past.foldl (fun held taken => if taken.Locks proposalId then number taken else held) 0

def heldAmount (proposalId : Nat) (past : List DepositTransition) : Int :=
  atLock (fun taken => taken.lockedAmount proposalId) proposalId past

def amountAtLock (proposalId : Nat) (past : List DepositTransition) : Int :=
  atLock DepositTransition.configuredAmount proposalId past

end StellarSwipe.Governance
