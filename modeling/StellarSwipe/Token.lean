import StellarSwipe.Host

/-!
# Standard tokens

A token ledger holds a balance for every token and holder.
-/

namespace StellarSwipe

/-- Balances by token and holder, and the number of token calls made so far. -/
structure Tokens where
  balance : Address → Address → Int
  calls : Nat

namespace Tokens

/-- Why the token refuses to take the amount from the sender, if it does. -/
def refusal (env : Env) (tokens : Tokens) (token sender : Address) (amount : Int) :
    Option TokenFailure :=
  if amount < 0 then some .invalidRequest
  else if tokens.balance token sender < amount then some .insufficientBalance
  else env.refusal tokens.calls

/-- A refused call changes no balance. -/
def refused (tokens : Tokens) : Tokens := { tokens with calls := tokens.calls + 1 }

def burned (tokens : Tokens) (token sender : Address) (amount : Int) : Tokens where
  balance asset holder :=
    if asset = token ∧ holder = sender then tokens.balance asset holder - amount
    else tokens.balance asset holder
  calls := tokens.calls + 1

def moved (tokens : Tokens) (token sender receiver : Address) (amount : Int) : Tokens where
  balance asset holder :=
    let remaining := (tokens.burned token sender amount).balance asset holder
    if asset = token ∧ holder = receiver then remaining + amount else remaining
  calls := tokens.calls + 1

/-- The balances after a transfer, or why the token refused it. -/
def transfer (env : Env) (tokens : Tokens) (token sender receiver : Address) (amount : Int) :
    Except TokenFailure Tokens :=
  match tokens.refusal env token sender amount with
  | some failure => .error failure
  | none => .ok (tokens.moved token sender receiver amount)

/-- The balances after a burn, or why the token refused it. -/
def burn (env : Env) (tokens : Tokens) (token sender : Address) (amount : Int) :
    Except TokenFailure Tokens :=
  match tokens.refusal env token sender amount with
  | some failure => .error failure
  | none => .ok (tokens.burned token sender amount)

variable {amount : Int} {token sender : Address} {env : Env}

theorem covered_of_accepted {tokens : Tokens}
    (accepted : tokens.refusal env token sender amount = none) :
    0 ≤ amount ∧ amount ≤ tokens.balance token sender := by
  simp only [refusal] at accepted
  split at accepted
  · cases accepted
  · split at accepted
    · cases accepted
    · omega

variable {tokens after : Tokens}

theorem transfer_ok {token sender receiver : Address}
    (gave : tokens.transfer env token sender receiver amount = .ok after) :
    after = tokens.moved token sender receiver amount ∧ 0 ≤ amount ∧
      amount ≤ tokens.balance token sender := by
  rw [transfer] at gave
  split at gave
  · cases gave
  next accepted =>
    cases gave
    exact ⟨rfl, covered_of_accepted accepted⟩

theorem burn_ok (gave : tokens.burn env token sender amount = .ok after) :
    after = tokens.burned token sender amount ∧ 0 ≤ amount ∧
      amount ≤ tokens.balance token sender := by
  rw [burn] at gave
  split at gave
  · cases gave
  next accepted =>
    cases gave
    exact ⟨rfl, covered_of_accepted accepted⟩

@[simp] theorem refused_balance (tokens : Tokens) : tokens.refused.balance = tokens.balance := rfl

theorem burned_balance (tokens : Tokens) (token sender : Address) (amount : Int)
    (asset holder : Address) : (tokens.burned token sender amount).balance asset holder =
      tokens.balance asset holder - if asset = token ∧ holder = sender then amount else 0 := by
  simp only [burned]
  split <;> omega

theorem moved_balance (tokens : Tokens) (token sender receiver : Address) (amount : Int)
    (asset holder : Address) : (tokens.moved token sender receiver amount).balance asset holder =
      tokens.balance asset holder - (if asset = token ∧ holder = sender then amount else 0) +
        if asset = token ∧ holder = receiver then amount else 0 := by
  simp only [moved, burned_balance]
  split <;> omega

end Tokens

end StellarSwipe
