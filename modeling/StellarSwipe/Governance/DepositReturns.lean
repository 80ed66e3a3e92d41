import StellarSwipe.Governance.DepositEffects

/-!
# Deposits are returned exactly

A settlement pays what the configuration says at that moment.
-/

namespace StellarSwipe.Governance

open FixedWidth Program Runs OneShot Table GovStore DepositTransition List

/-- What holds of a proposal's deposits along a run: every settlement pays exactly what
was taken, closing the proposal settles its deposit, and no deposit is settled twice. -/
structure DepositLaw (past : List DepositTransition) (proposalId : Nat) : Prop where
  exactly : ∀ prior taken later, past = prior ++ taken :: later → taken.Settles proposalId →
    taken.PaysExactly (heldAmount proposalId prior)
  settled : ∀ taken ∈ past, taken.Closes proposalId → taken.Settles proposalId
  once : past.countP (fun taken => taken.Settles proposalId) ≤
    past.countP fun taken => taken.Locks proposalId

/-- The condition on a step: an open proposal for which a deposit is held is closed only
while the deposit of its making is configured and the beneficiary can be credited. -/
def DepositDue (past : List DepositTransition) (ledger : Ledger GovStore)
    (input : DepositInput) : Prop :=
  ∀ proposalId ∈ input.call.settles, (ledger.store.heldFrom proposalId).isSome →
    ledger.store.OpenAt proposalId →
      (depositConfig ledger.store).amount = amountAtLock proposalId past ∧ input.Fits ledger
deriving Decidable

inductive DepositMoved (taken : DepositTransition) (proposalId : Nat) : Prop where
  | idle (unlocked : ¬ taken.Locks proposalId)
      (same : taken.after.store.heldFrom proposalId = taken.pre.store.heldFrom proposalId)
      (unclosed : taken.Closes proposalId →
        taken.pre.store.OpenAt proposalId ∧ ¬ taken.input.Fits taken.pre)
  | locked (locks : taken.Locks proposalId) (unsettled : taken.input.call.settles = none)
      (amount : taken.lockedAmount proposalId = taken.configuredAmount)
  | settled (unlocked : ¬ taken.Locks proposalId) (settles : taken.Settles proposalId)
      (closes : taken.input.call.settles = some proposalId)
      (openAt : taken.pre.store.OpenAt proposalId)
      (pays : taken.input.Fits taken.pre → taken.PaysExactly taken.configuredAmount)

section Effect

variable {taken : DepositTransition}

theorem DepositCall.Makes.settles {call : DepositCall} (makes : call.Makes) :
    call.settles = none := by
  cases call with
  | governance call =>
    cases call with
    | proposal call =>
      cases call with
      | create => rfl
      | _ => exact absurd makes not_false
    | _ => rfl
  | setDepositConfig => rfl
  | withdrawProposal => exact absurd makes not_false

theorem DepositEffect.sound (effect : DepositEffect taken)
    (sound : DepositsSound taken.pre.store) : DepositsSound taken.after.store := by
  cases effect with
  | kept unlocked unclosed kept =>
    refine ⟨fun proposalId proposer held => ?_, ?_, ?_⟩
    · rw [heldFrom, kept.deposits] at held
      exact (kept.proposers proposalId).trans (sound.owned proposalId proposer held)
    · rw [depositConfig, kept.deposits]
      exact sound.pos
    · rw [kept.deposits]
      exact sound.treasury
  | configured unmade unsettled pos written =>
    rw [written]
    exact ⟨sound.owned, pos, sound.treasury⟩
  | locked gave made charged =>
    refine ⟨fun proposalId proposer held => ?_, ?_, ?_⟩
    · rw [heldFrom, charged.deposits, lookup_insert] at held
      rw [charged.proposers]
      split at held
      next here => rwa [if_pos here]
      next elsewhere =>
        rw [if_neg elsewhere]
        exact sound.owned proposalId proposer held
    · rw [depositConfig, charged.deposits]
      exact sound.pos
    · rw [charged.deposits]
      exact sound.treasury
  | settled closes openAt held decided receives settled =>
    refine ⟨fun proposalId proposer held => ?_, ?_, ?_⟩
    · rw [heldFrom, settled.deposits, decided.deposits,
        lookup_erase] at held
      rw [settled.proposers, decided.proposers]
      split at held
      · cases held
      · exact sound.owned proposalId proposer held
    · rw [depositConfig, settled.deposits, decided.deposits]
      exact sound.pos
    · rw [settled.deposits, decided.deposits]
      exact sound.treasury

theorem DepositEffect.moved (effect : DepositEffect taken) (proposalId : Nat) :
    DepositMoved taken proposalId := by
  cases effect with
  | kept unlocked unclosed kept =>
    refine .idle (unlocked proposalId) ?_ (unclosed proposalId)
    rw [heldFrom, kept.deposits]
    rfl
  | configured unmade unsettled pos written =>
    refine .idle (fun locks => unmade locks.2.1) ?_ fun closes => ?_
    · rw [written]
      rfl
    · rw [DepositTransition.Closes, unsettled] at closes
      cases closes.2.1
  | @locked gave made proposer charged =>
    have has : taken.after.store.heldFrom proposalId =
        if proposalId = taken.pre.store.proposals.nextProposalId then some proposer
        else taken.pre.store.heldFrom proposalId := by
      rw [heldFrom, charged.deposits, lookup_insert]
      rfl
    by_cases here : proposalId = taken.pre.store.proposals.nextProposalId
    · rw [if_pos here] at has
      refine .locked ⟨gave, made, here.symm, ?_⟩ made.settles ?_
      · rw [has]
        rfl
      · have paid := charged.charged
        simp only [lockedAmount, has, Option.elim_some, configuredAmount]
        omega
    · rw [if_neg here] at has
      refine .idle (fun locks => here locks.2.2.1.symm) has fun closes => ?_
      rw [DepositTransition.Closes, made.settles] at closes
      cases closes.2.1
  | @settled settledId receiver closes openAt held decided receives settled =>
    have unmade : ¬ taken.input.call.Makes := by
      intro makes
      rw [makes.settles] at closes
      cases closes
    have same : depositConfig (taken.input.settling taken.pre) =
        depositConfig taken.pre.store := by
      simp only [depositConfig, decided.deposits]
    have erased : taken.after.store.heldFrom proposalId = if proposalId = settledId then none
        else taken.pre.store.heldFrom proposalId := by
      rw [heldFrom, settled.deposits, decided.deposits, lookup_erase]
      rfl
    by_cases here : proposalId = settledId
    · subst here
      rw [if_pos rfl] at erased
      refine .settled (fun locks => unmade locks.2.1) ⟨held, erased⟩ closes openAt fun fits => ?_
      have paid := settled.paid
      rw [same] at paid
      exact ⟨receiver, receives, paid (fits receiver receives)⟩
    · rw [if_neg here] at erased
      refine .idle (fun locks => unmade locks.2.1) erased fun other => ?_
      rw [DepositTransition.Closes, closes] at other
      exact absurd (Option.some.inj other.2.1).symm here

end Effect

/-- The law with what every step needs of the steps before: the last amount taken is the
last one configured, and a held deposit was not settled yet. -/
structure DepositHistory (past : List DepositTransition) (store : GovStore)
    (proposalId : Nat) : Prop where
  law : DepositLaw past proposalId
  same : heldAmount proposalId past = amountAtLock proposalId past
  counted : past.countP (fun taken => taken.Settles proposalId) +
      (if (store.heldFrom proposalId).isSome then 1 else 0) ≤
    past.countP fun taken => taken.Locks proposalId

section Histories

variable {past : List DepositTransition} {taken : DepositTransition} {proposalId : Nat}
  {number : DepositTransition → Int}

theorem atLock_concat_of_locks (locks : taken.Locks proposalId) :
    atLock number proposalId (past ++ [taken]) = number taken := by
  simp only [atLock, foldl_append, foldl_cons, foldl_nil, if_pos locks]

theorem atLock_concat_of_unlocked (unlocked : ¬ taken.Locks proposalId) :
    atLock number proposalId (past ++ [taken]) = atLock number proposalId past := by
  simp only [atLock, foldl_append, foldl_cons, foldl_nil, if_neg unlocked]

/-- One more transition keeps the law if what it settles and closes is in order. -/
theorem DepositLaw.concat (law : DepositLaw past proposalId)
    (exactly : taken.Settles proposalId → taken.PaysExactly (heldAmount proposalId past))
    (settled : taken.Closes proposalId → taken.Settles proposalId)
    (once : (past ++ [taken]).countP (fun taken => taken.Settles proposalId) ≤
      (past ++ [taken]).countP fun taken => taken.Locks proposalId) :
    DepositLaw (past ++ [taken]) proposalId := by
  refine ⟨fun prior placed later placing settles => ?_, fun placed mem closes => ?_, once⟩
  · rcases place_concat placing with ⟨rfl, rfl, rfl⟩ | ⟨rest, rfl, inside⟩
    · exact exactly settles
    · exact law.exactly prior placed rest inside settles
  · rcases mem_snoc.mp mem with prior | rfl
    · exact law.settled placed prior closes
    · exact settled closes

/-- Every kind of step keeps the history, as long as what is closed is due. -/
theorem DepositHistory.step (history : DepositHistory past taken.pre.store proposalId)
    (due : DepositDue past taken.pre taken.input) (moved : DepositMoved taken proposalId) :
    DepositHistory (past ++ [taken]) taken.after.store proposalId := by
  have counted := history.counted
  cases moved with
  | idle unlocked same unclosed =>
    have unsettled : ¬ taken.Settles proposalId := by
      rintro ⟨held, released⟩
      rw [← same, released] at held
      cases held
    have counts : (past ++ [taken]).countP (fun taken => taken.Settles proposalId) +
          (if (taken.after.store.heldFrom proposalId).isSome then 1 else 0) ≤
        (past ++ [taken]).countP fun taken => taken.Locks proposalId := by
      simpa only [countP_append, countP_singleton, unsettled, unlocked, decide_false,
        Bool.false_eq_true, if_false, Nat.add_zero, same] using counted
    refine ⟨history.law.concat (fun settles => absurd settles unsettled) (fun closes => ?_)
      (le_of_add_le_left counts), ?_, counts⟩
    · -- A proposal that is closed without a settlement could not be paid.
      obtain ⟨openAt, unfit⟩ := unclosed closes
      exact absurd (due proposalId closes.2.1 closes.2.2 openAt).2 unfit
    · rw [heldAmount, amountAtLock, atLock_concat_of_unlocked unlocked,
        atLock_concat_of_unlocked unlocked]
      exact history.same
  | locked locks unsettled amount =>
    have unreleased : ¬ taken.Settles proposalId := by
      rintro ⟨_, released⟩
      have held := locks.2.2.2
      rw [released] at held
      cases held
    have counts : (past ++ [taken]).countP (fun taken => taken.Settles proposalId) +
          (if (taken.after.store.heldFrom proposalId).isSome then 1 else 0) ≤
        (past ++ [taken]).countP fun taken => taken.Locks proposalId := by
      simp only [countP_append, countP_singleton, unreleased, locks, decide_false,
        decide_true, Bool.false_eq_true, if_false, if_true, Nat.add_zero, locks.2.2.2]
      exact Nat.add_le_add_right (le_of_add_le_left counted) 1
    refine ⟨history.law.concat (fun settles => absurd settles unreleased) (fun closes => ?_)
      (le_of_add_le_left counts), ?_, counts⟩
    · rw [DepositTransition.Closes, unsettled] at closes
      cases closes.2.1
    · rw [heldAmount, amountAtLock, atLock_concat_of_locks locks, atLock_concat_of_locks locks]
      exact amount
  | settled unlocked settles closes openAt pays =>
    obtain ⟨steady, fits⟩ := due proposalId closes settles.1 openAt
    have counts : (past ++ [taken]).countP (fun taken => taken.Settles proposalId) +
          (if (taken.after.store.heldFrom proposalId).isSome then 1 else 0) ≤
        (past ++ [taken]).countP fun taken => taken.Locks proposalId := by
      rw [if_pos settles.1] at counted
      simpa only [countP_append, countP_singleton, settles, unlocked, decide_false,
        decide_true, Bool.false_eq_true, if_false, if_true, Nat.add_zero, settles.2,
        Option.isSome_none] using counted
    refine ⟨history.law.concat (fun _ => ?_) (fun _ => settles) (le_of_add_le_left counts), ?_,
      counts⟩
    · have exactly := pays fits
      rwa [configuredAmount, steady, ← history.same] at exactly
    · rw [heldAmount, amountAtLock, atLock_concat_of_unlocked unlocked,
        atLock_concat_of_unlocked unlocked]
      exact history.same

end Histories

/-- Along every run in which deposits are closed only while the amount that was taken is
still configured and can be credited, every settlement pays exactly what was taken, every closed
proposal is settled, and no deposit is settled twice. -/
theorem deposits_returned_exactly (admin treasury : Address) (balances : Table Address Int)
    (holders : List Address) (totalSupply : Int) (timestamp sequence : Nat)
    (inputs : List DepositInput) (due : ∀ prior taken later, trace depositStep
      (depositStart admin treasury balances holders totalSupply timestamp sequence) inputs =
        prior ++ taken :: later → DepositDue prior taken.pre taken.input)
    (proposalId : Nat) : DepositLaw (trace depositStep
      (depositStart admin treasury balances holders totalSupply timestamp sequence) inputs)
      proposalId := by
  have sound : DepositsSound
      (depositStart admin treasury balances holders totalSupply timestamp sequence).store := by
    refine ⟨fun proposalId proposer held => ?_, (by decide : 0 < DepositConfig.default.amount), rfl⟩
    cases held
  have start : DepositHistory []
      (depositStart admin treasury balances holders totalSupply timestamp sequence).store
      proposalId := by
    refine ⟨⟨fun prior taken later placing => ?_, fun taken mem => ?_, le_refl _⟩, rfl, le_refl _⟩
    · simp at placing
    · cases mem
  have history := past_invariant depositStep
    (fun past ledger => DepositsSound ledger.store ∧
      DepositHistory past ledger.store proposalId) DepositDue
    (fun past ledger input due kept => by
      have effect := depositStep_effect input kept.1
      exact ⟨effect.sound kept.1, kept.2.step due (effect.moved proposalId)⟩)
    _ ⟨sound, start⟩ inputs due
  exact history.2.law

section Runs

/-- One holder with five thousand tokens, and a treasury. -/
def depositor : Ledger GovStore := depositStart 9 7 (AList.insert 1 5000 ∅) [1] 5000 0 0

/-- A stake and a proposal, which takes a deposit of one thousand. -/
def proposedByHolder : List DepositInput :=
  [⟨⟨0, 0, [1]⟩, .governance (.power (.stake 1 (amountOf 2000)))⟩,
    ⟨⟨0, 0, [1]⟩, .governance (.proposal (.create 1 (.signalProposal "signal") "Signal" "A signal"
      [] .general false))⟩]

/-- The proposal withdrawn, and one more made and finalized without votes. -/
def depositsSettled : List DepositInput :=
  proposedByHolder ++ [⟨⟨1, 0, [1]⟩, .withdrawProposal 1 1⟩,
    ⟨⟨1, 0, [1]⟩, .governance (.proposal (.create 1 (.signalProposal "signal") "Signal" "A signal"
      [] .general false))⟩,
    ⟨⟨604860, 0, []⟩, .governance (.proposal (.finalize 2))⟩]

/-- Another deposit configured after the proposal was made. -/
def depositReconfigured : List DepositInput :=
  proposedByHolder ++ [⟨⟨1, 0, [9]⟩, .setDepositConfig 9 (amountOf 2000) 500⟩]

theorem settled_deposits_exact : DepositLaw (trace depositStep depositor depositsSettled) 1 :=
  deposits_returned_exactly 9 7 (AList.insert 1 5000 ∅) [1] 5000 0 0 depositsSettled
    (forall_places (by decide)) 1

/-- A deposit is given back as the deposit that is configured by then. -/
theorem reconfigured_deposit_overpaid :
    ¬ ∀ (admin treasury : Address) (balances : Table Address Int) (holders : List Address)
        (totalSupply : Int) (timestamp sequence : Nat) (inputs : List DepositInput)
        (proposalId : Nat), DepositLaw (trace depositStep
          (depositStart admin treasury balances holders totalSupply timestamp sequence) inputs)
          proposalId := by
  intro every
  have law := every 9 7 (AList.insert 1 5000 ∅) [1] 5000 0 0
    (depositReconfigured ++ [⟨⟨1, 0, [1]⟩, .withdrawProposal 1 1⟩]) 1
  rw [transitions_concat] at law
  have settles : DepositTransition.Settles ⟨final depositStep depositor depositReconfigured,
      ⟨⟨1, 0, [1]⟩, .withdrawProposal 1 1⟩, depositStep ⟨⟨1, 0, [1]⟩, .withdrawProposal 1 1⟩
        (final depositStep depositor depositReconfigured)⟩ 1 := by
    decide
  obtain ⟨receiver, _, pays⟩ := law.exactly _ _ [] rfl settles
  have due : heldAmount 1 (trace depositStep depositor depositReconfigured) = 1000 := by
    decide
  have owned : (final depositStep depositor depositReconfigured).store.balanceOf 1 = 2000 := by
    decide
  have gave : (depositStep ⟨⟨1, 0, [1]⟩, .withdrawProposal 1 1⟩
      (final depositStep depositor depositReconfigured)).store.balanceOf 1 = 4000 := by
    decide
  have holder := pays 1
  have same : (4000 : Int) = 2000 + if 1 = receiver then 1000 else 0 := by
    rw [← owned, ← gave, ← due]
    exact holder
  split at same <;> omega

end Runs

end StellarSwipe.Governance
