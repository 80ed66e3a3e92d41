import StellarSwipe.Library.FixedWidth
import StellarSwipe.Library.Program

/-!
# The host around a contract

What every contract sees of its invocation: the ledger's timestamp and sequence number, the
addresses that authorized the call, and how tokens behave.
-/

namespace StellarSwipe

/-- Accounts and contracts alike; only equality of addresses matters. -/
abbrev Address := Nat

abbrev Bytes := List UInt8

def u32Max : Nat := 2 ^ 32 - 1

def u64Max : Nat := 2 ^ 64 - 1

/-- The signed 128-bit integers in which every amount is kept. -/
def i128 : FixedWidth.Range where
  low := -2 ^ 127
  high := 2 ^ 127 - 1
  ordered := by decide

/-- An amount as a caller passes it, within its type. -/
abbrev Amount := { value : Int // i128.Holds value }

/-- A number as an amount, at most the largest one. -/
def amountOf (value : Nat) : Amount :=
  ⟨min value i128.high, le_min ((by decide : i128.low ≤ 0).trans (Int.natCast_nonneg value))
    (by decide), min_le_right _ _⟩

@[simp] theorem i128_low : i128.low = -2 ^ 127 := rfl

@[simp] theorem i128_high : i128.high = 2 ^ 127 - 1 := rfl

/-- Classification of a failed token or cross-contract invocation. -/
inductive TokenFailure where
  | unauthorized
  | insufficientBalance
  | insufficientAllowance
  | invalidRequest
  | overflow
  | otherContractError (code : Nat)
  | hostError

/-- One invocation's surroundings. `refusal` says which of its token calls the
token refuses beyond the reasons visible in its balances. -/
structure Env where
  timestamp : Nat
  sequence : Nat
  auths : List Address
  refusal : Nat → Option TokenFailure

/-- A quiet invocation: nothing is refused. -/
def Env.at (timestamp sequence : Nat) (auths : List Address) : Env :=
  ⟨timestamp, sequence, auths, fun _ => none⟩

/-- A byte of a payload, with missing bytes read as zero. -/
def byteAt (payload : Bytes) (offset : Nat) : Nat := ((payload[offset]?).getD 0).toNat

def decodeLittleEndian (payload : Bytes) (offset : Nat) : Nat → Nat
  | 0 => 0
  | count + 1 => byteAt payload offset + 256 * decodeLittleEndian payload (offset + 1) count

/-- The signed 128-bit number in sixteen bytes, in two's complement. -/
def decodeI128FromBytes (payload : Bytes) (offset : Nat) : Int :=
  let unsigned := decodeLittleEndian payload offset 16
  if unsigned < 2 ^ 127 then unsigned else (unsigned : Int) - 2 ^ 128

theorem wp_orFail_checked {σ ε : Type} {post : Int → σ → Prop} {fault : Fault ε → σ → Prop}
    {store : σ} (range : FixedWidth.Range) (value : Int) (reason : ε) :
    Program.wp (Program.orFail (range.checked value) reason) post fault store ↔
      (range.Holds value → post value store) ∧
        (¬ range.Holds value → fault (.error reason) store) := by
  by_cases held : range.Holds value <;> simp [FixedWidth.Range.checked, held, Program.orFail]

/-! ## The ledger's clock

Ledgers close one after another and their timestamps do not go back. A contract's
storage is kept together with the ledger of its last call; the next call arrives some
ledgers and some seconds later, so a run cannot go back in time.
-/

open Program

/-- A contract's storage and the ledger of its last call. -/
structure Ledger (σ : Type) where
  store : σ
  timestamp : Nat
  sequence : Nat

/-- How much later than the last call a call arrives, and who authorized it. -/
structure Arrival where
  seconds : Nat
  ledgers : Nat
  auths : List Address

namespace Ledger

variable {σ ε α : Type} (ledger : Ledger σ) (arrival : Arrival)

/-- The surroundings of a call that arrives. -/
def env : Env := .at (ledger.timestamp + arrival.seconds) (ledger.sequence + arrival.ledgers)
  arrival.auths

variable (program : Env → Program σ ε α)

/-- The ledger after an invocation in the surroundings of its arrival. -/
def call : Ledger σ where
  store := invoke (program (ledger.env arrival)) ledger.store
  timestamp := ledger.timestamp + arrival.seconds
  sequence := ledger.sequence + arrival.ledgers

@[simp] theorem env_timestamp :
    (ledger.env arrival).timestamp = ledger.timestamp + arrival.seconds := rfl

@[simp] theorem env_sequence :
    (ledger.env arrival).sequence = ledger.sequence + arrival.ledgers := rfl

@[simp] theorem call_storage :
    (ledger.call arrival program).store = invoke (program (ledger.env arrival)) ledger.store :=
  rfl

@[simp] theorem call_timestamp :
    (ledger.call arrival program).timestamp = ledger.timestamp + arrival.seconds := rfl

@[simp] theorem call_sequence :
    (ledger.call arrival program).sequence = ledger.sequence + arrival.ledgers := rfl

end Ledger

end StellarSwipe
