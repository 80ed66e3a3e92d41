import StellarSwipe.CrossChain.Fees
import StellarSwipe.CrossChain.Messaging
import StellarSwipe.Library.Runs

/-!
# Runs of the cross-chain modules

Calls on signers, messages, monitored transfers and fees arrive in any order at any times and work
on one storage.
-/

namespace StellarSwipe.CrossChain

open FixedWidth Program Runs

inductive CrossChainCall where
  | multisig (call : MultisigCall)
  | messaging (call : MessagingCall)
  | monitoring (call : MonitoringCall)
  | fees (call : FeeCall)

def CrossChainCall.exec (call : CrossChainCall) (env : Env) : ChainProgram Unit :=
  match call with
  | .multisig call => call.exec env
  | .messaging call => call.exec env
  | .monitoring call => call.exec env
  | .fees call => call.exec

/-- A call that arrives some time after the last one. -/
structure CrossChainInput where
  arrival : Arrival
  call : CrossChainCall

def chainStep (input : CrossChainInput) (ledger : Ledger CrossChainStore) :
    Ledger CrossChainStore :=
  ledger.call input.arrival fun env => discard (attempt (input.call.exec env))

abbrev ChainTransition := Transition (Ledger CrossChainStore) CrossChainInput

namespace ChainTransition

variable (taken : ChainTransition)

/-- The time at which the call arrived. -/
def now : Nat := taken.pre.timestamp + taken.input.arrival.seconds

def Returned : Prop :=
  Accepts (taken.input.call.exec (taken.pre.env taken.input.arrival)) taken.pre.store
deriving Decidable

end ChainTransition

def crossChainStart (governances : Table Nat BridgeGovernance) (bridges : Table Nat Bridge)
    (activeSets : Table Nat (List Address)) (versions delays : Table Nat Nat)
    (timestamp sequence : Nat) : Ledger CrossChainStore :=
  ⟨.initial governances bridges activeSets versions delays, timestamp, sequence⟩

end StellarSwipe.CrossChain
