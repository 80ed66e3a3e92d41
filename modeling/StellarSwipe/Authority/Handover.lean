import StellarSwipe.Authority.Stewardship

/-!
# Who becomes admin

An admin hands over to an address that was proposed.
-/

namespace StellarSwipe.Authority

open FixedWidth Program Governance Runs OneShot

namespace AuthorityCall

def initializes : AuthorityCall → Bool
  | .initializeContract _ _ _ _ _ => true
  | _ => false

def proposing : AuthorityCall → Option (Address × Address)
  | .proposeKeyRotation admin newAdmin => some (admin, newAdmin)
  | _ => none

def accepting : AuthorityCall → Option Address
  | .acceptKeyRotation newAdmin => some newAdmin
  | _ => none

end AuthorityCall

namespace AuthorityTransition

/-- The contract was initialized. -/
def Initializes (taken : AuthorityTransition) : Prop :=
  taken.Returned ∧ taken.input.call.initializes = true
deriving Decidable

def Proposes (admin newAdmin : Address) (taken : AuthorityTransition) : Prop :=
  taken.Returned ∧ taken.input.call.proposing = some (admin, newAdmin) ∧
    admin ∈ taken.input.arrival.auths ∧ taken.pre.store.governance.access.admin = some admin
deriving Decidable

def HandsOver (past : List AuthorityTransition) (newAdmin : Address)
    (taken : AuthorityTransition) : Prop :=
  taken.Returned ∧ taken.input.call.accepting = some newAdmin ∧
    newAdmin ∈ taken.input.arrival.auths ∧
    ∃ admin, taken.pre.store.governance.access.admin = some admin ∧
      ∃ prior ∈ past, prior.Proposes admin newAdmin

/-- A new admin comes by a handover, the supply stays, and balances fall only for those who
authorized the call. -/
structure Orderly (past : List AuthorityTransition) (taken : AuthorityTransition) : Prop where
  admin : ∀ newAdmin, taken.after.store.governance.access.admin = some newAdmin →
    taken.pre.store.governance.access.admin ≠ some newAdmin → taken.HandsOver past newAdmin
  tokens : TokensKept taken.input.arrival.auths taken.pre.store.governance.tokens
    taken.after.store.governance.tokens

def Admitted (past : List AuthorityTransition) (taken : AuthorityTransition) : Prop :=
  (taken.Returned → ∀ newAdmin ∈ taken.input.call.accepting, newAdmin ∈ taken.input.arrival.auths) ∧
  (taken.Initializes → ∀ prior ∈ past, ¬ prior.Initializes)
deriving Decidable

end AuthorityTransition

/-- A proposed admin was proposed by the admin of this moment, and there is no admin before
the contract is initialized. -/
structure Seated (past : List AuthorityTransition) (store : AuthorityStore) : Prop where
  proposed : ∀ newAdmin, store.pendingAdmin = some newAdmin →
    ∃ admin, store.governance.access.admin = some admin ∧
      ∃ prior ∈ past, prior.Proposes admin newAdmin
  unseated : (∀ prior ∈ past, ¬ prior.Initializes) → store.governance.access.admin = none

section Steps

variable {past : List AuthorityTransition} {taken : AuthorityTransition}
  {pre after : AuthorityStore}

theorem Seated.quiet (seated : Seated past pre)
    (admin : after.governance.access.admin = pre.governance.access.admin)
    (pending : after.pendingAdmin = pre.pendingAdmin ∨ after.pendingAdmin = none) :
    Seated (past ++ [taken]) after := by
  refine ⟨fun newAdmin has => ?_, fun never => ?_⟩
  · rcases pending with same | settled
    · rw [same] at has
      obtain ⟨proposer, governs, prior, listed, proposes⟩ := seated.proposed newAdmin has
      exact ⟨proposer, admin.trans governs, prior, List.mem_append_left _ listed, proposes⟩
    · rw [settled] at has
      cases has
  · rw [admin]
    exact seated.unseated fun prior listed => never prior (List.mem_append_left _ listed)

theorem AuthorityTransition.Orderly.of_kept (admin : taken.after.store.governance.access.admin =
      taken.pre.store.governance.access.admin)
    (tokens : TokensKept taken.input.arrival.auths taken.pre.store.governance.tokens
      taken.after.store.governance.tokens) : taken.Orderly past :=
  ⟨fun _ has different => absurd (admin ▸ has) different, tokens⟩

/-- What an admitted step leaves, and that it is orderly once the contract is initialized. -/
theorem Seated.step {ledger : Ledger AuthorityStore} {input : AuthorityInput}
    (seated : Seated past ledger.store)
    (admitted : AuthorityTransition.Admitted past ⟨ledger, input, authorityStep input ledger⟩) :
    Seated (past ++ [⟨ledger, input, authorityStep input ledger⟩])
        (authorityStep input ledger).store ∧ ((∃ prior ∈ past, prior.Initializes) →
        AuthorityTransition.Orderly past ⟨ledger, input, authorityStep input ledger⟩) := by
  by_cases returns : Accepts (input.call.exec (ledger.env input.arrival)) ledger.store
  · obtain ⟨value, gave⟩ := gave_of_accepts returns
    have effect : StewardEffect (ledger.env input.arrival) ledger.store input.call
      (authorityStep input ledger).store := wp_ok (input.call.exec_steward _) gave
    have returns : AuthorityTransition.Returned ⟨ledger, input, authorityStep input ledger⟩ :=
      returns
    generalize authorityStep input ledger = next at effect admitted returns ⊢
    generalize called : input.call = call at effect
    generalize written : next.store = store at effect ⊢
    cases effect with
    | opened pending =>
      have initializes : AuthorityTransition.Initializes ⟨ledger, input, next⟩ :=
        ⟨returns, by rw [called]; rfl⟩
      have first := admitted.2 initializes
      refine ⟨⟨fun newAdmin has => ?_, fun never => ?_⟩, fun ⟨prior, listed, already⟩ =>
        absurd already (first prior listed)⟩
      · rw [pending] at has
        obtain ⟨_, governs, _⟩ := seated.proposed newAdmin has
        cases (seated.unseated first).symm.trans governs
      · exact absurd initializes (never _ (List.mem_append_right _ List.mem_cons_self))
    | @propose admin newAdmin _ authorized governs pending kept =>
      refine ⟨⟨fun other has => ?_, fun never => ?_⟩, fun _ =>
        .of_kept (by rw [written]; exact kept.admin) (by rw [written]; exact kept.tokens)⟩
      · cases Option.mem_unique pending has
        exact ⟨admin, kept.admin.trans governs, _, List.mem_append_right _ List.mem_cons_self,
          returns, by rw [called]; rfl, authorized, governs⟩
      · rw [kept.admin]
        exact seated.unseated fun prior listed => never prior (List.mem_append_left _ listed)
    | @accept newAdmin _ proposed has settled tokens =>
      obtain ⟨admin, governs, prior, listed, proposes⟩ := seated.proposed newAdmin proposed
      refine ⟨⟨fun other waiting => ?_, fun never => ?_⟩, fun _ => ⟨fun other accepted _ => ?_, ?_⟩⟩
      · rw [settled] at waiting
        cases waiting
      · have unseated := seated.unseated fun prior listed =>
          never prior (List.mem_append_left _ listed)
        cases unseated.symm.trans governs
      · rw [written] at accepted
        cases Option.mem_unique has accepted
        exact ⟨returns, by rw [called]; rfl, admitted.1 returns newAdmin (by rw [called]; rfl),
          admin, governs, prior, listed, proposes⟩
      · rw [written, tokens]
        exact .refl _
    | revoke revoked settled tokens =>
      refine ⟨⟨fun _ waiting => ?_, fun _ => revoked⟩, fun _ => ⟨fun _ accepted _ => ?_, ?_⟩⟩
      · rw [settled] at waiting
        cases waiting
      · rw [written, revoked] at accepted
        cases accepted
      · rw [written, tokens]
        exact .refl _
    | other pending kept =>
      exact ⟨seated.quiet kept.admin pending, fun _ =>
        .of_kept (by rw [written]; exact kept.admin) (by rw [written]; exact kept.tokens)⟩
  · have same : (authorityStep input ledger).store = ledger.store :=
      invoke_of_rejected returns
    refine ⟨?_, fun _ => .of_kept (by rw [same]) ?_⟩
    · rw [same]
      exact seated.quiet rfl (.inl rfl)
    · rw [same]
      exact .refl _

end Steps

/-- In every run in which new admins authorize their acceptances and the contract is
initialized only once: from the initialization on, the admin changes to a new address only by
a handover, the supply stays as it is, and balances fall only for those who authorize the call. -/
theorem admin_handedOver (timestamp sequence : Nat) (inputs : List AuthorityInput) :
    let taken := trace authorityStep (authorityStart timestamp sequence) inputs
    (∀ prior step later, taken = prior ++ step :: later →
      AuthorityTransition.Admitted prior step) →
    ∀ prior step later, taken = prior ++ step :: later →
      (∃ first ∈ prior, first.Initializes) → AuthorityTransition.Orderly prior step := by
  intro taken admitted
  have kept := past_invariant authorityStep
    (fun past ledger => Seated past ledger.store ∧
      ∀ prior step later, past = prior ++ step :: later →
        (∃ first ∈ prior, first.Initializes) → AuthorityTransition.Orderly prior step)
    (fun past ledger input =>
      AuthorityTransition.Admitted past ⟨ledger, input, authorityStep input ledger⟩)
    (fun past ledger input guard kept => ?_) (authorityStart timestamp sequence)
    ⟨⟨fun _ has => (by cases has), fun _ => rfl⟩, fun _ _ _ split =>
      absurd split (by simp)⟩ inputs admitted
  · exact kept.2
  · obtain ⟨seated, orderly⟩ := kept.1.step guard
    refine ⟨seated, fun prior step later split initialized => ?_⟩
    rcases place_concat split with ⟨rfl, rfl, _⟩ | ⟨rest, _, inside⟩
    · exact orderly initialized
    · exact kept.2 prior step rest inside initialized

/-- The guardian revokes the first admin. -/
def revokedContract : List AuthorityInput :=
  openedContract ++ [⟨⟨1, 1, [7]⟩, .emergencyRevokeAdmin 7⟩]

/-- A stranger initializes the contract again. -/
def secondInitialization : AuthorityInput :=
  ⟨⟨1, 1, [9]⟩, .initializeContract 9 "Governance" "GOV" ⟨20000, by decide⟩ ⟨12, 13, 14, 15, 16⟩⟩

/-- A stranger becomes admin after an emergency revocation. -/
theorem stranger_initializes_again : ¬ ∀ inputs prior step later,
      trace authorityStep (authorityStart 0 0) inputs = prior ++ step :: later →
        (∃ first ∈ prior, first.Initializes) → AuthorityTransition.Orderly prior step := by
  intro every
  have orderly := every (revokedContract ++ [secondInitialization]) _ _ []
    (transitions_concat authorityStep _ _ _) (by decide)
  have supply := orderly.tokens.supply
  exact absurd supply (by decide)

/-- The admin proposes another one. -/
def proposedRotation : List AuthorityInput :=
  openedContract ++ [⟨⟨1, 1, [1]⟩, .proposeKeyRotation 1 8⟩]

def acceptedRotation : AuthorityInput := ⟨⟨1, 1, [8]⟩, .acceptKeyRotation 8⟩

/-- A rotation that is accepted by the new admin is orderly. -/
theorem acceptedRotation_orderly : AuthorityTransition.Orderly
      (trace authorityStep (authorityStart 0 0) proposedRotation)
      ⟨final authorityStep (authorityStart 0 0) proposedRotation, acceptedRotation,
        final authorityStep (authorityStart 0 0) (proposedRotation ++ [acceptedRotation])⟩ :=
  admin_handedOver 0 0 (proposedRotation ++ [acceptedRotation]) (forall_places (by decide)) _ _ []
    (transitions_concat authorityStep _ _ _) (by decide)

end StellarSwipe.Authority
