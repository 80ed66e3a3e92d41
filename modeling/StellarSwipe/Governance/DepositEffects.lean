import StellarSwipe.Governance.Deposits

/-!
# What calls do to deposits

Making a proposal takes the configured deposit from the proposer.
-/

namespace StellarSwipe.Governance

open FixedWidth Program Runs Table GovStore Proposal TokenLedger Option

namespace TokenLedger

variable {ledger after : TokenLedger} {holder : Address} {amount : Int}

theorem addBalance_ok (added : ledger.addBalance holder amount = .ok after) :
    after.balances = ledger.balances.insert holder (ledger.balances.read holder + amount) := by
  simp only [addBalance] at added
  split at added
  · cases added
  · obtain ⟨raised, exactly, added⟩ := bind_ok added
    cases added
    rw [← (checkedAdd_ok exactly).2]
    rfl

theorem subtractBalance_ok (subtracted : ledger.subtractBalance holder amount = .ok after) :
    after.balances = ledger.balances.insert holder (ledger.balances.read holder - amount) := by
  simp only [subtractBalance] at subtracted
  split at subtracted
  · cases subtracted
  · split at subtracted
    · cases subtracted
    · obtain ⟨lowered, exactly, subtracted⟩ := bind_ok subtracted
      cases subtracted
      rw [← (checkedSub_ok exactly).2]
      rfl

theorem addBalance_error {reason : GovernanceError} (pos : 0 < amount)
    (refused : ledger.addBalance holder amount = .error reason) :
    ¬ i128.Holds (ledger.balances.read holder + amount) := by
  intro held
  simp only [addBalance, if_neg (not_le.mpr pos), checkedAdd_of_holds held] at refused
  cases refused

theorem read_of_added (added : ledger.addBalance holder amount = .ok after) (other : Address) :
    after.balances.read other =
      ledger.balances.read other + if other = holder then amount else 0 := by
  rw [addBalance_ok added, read_insert]
  split
  next same => rw [same]
  next => rw [Int.add_zero]

end TokenLedger

/-- The deposits and who proposed what stay as they are. -/
structure DepositsKept (pre after : GovStore) : Prop where
  deposits : after.deposits = pre.deposits
  proposers : ∀ proposalId, after.proposerOf proposalId = pre.proposerOf proposalId

section Kept

variable {env : Env} {pre middle after : GovStore}

theorem DepositsKept.refl (store : GovStore) : DepositsKept store store :=
  ⟨rfl, fun _ => rfl⟩

theorem DepositsKept.trans (first : DepositsKept pre middle)
    (second : DepositsKept middle after) : DepositsKept pre after :=
  ⟨second.deposits.trans first.deposits,
    fun proposalId => (second.proposers proposalId).trans (first.proposers proposalId)⟩

variable {proposalId : Nat}

theorem DepositsKept.putProposal {proposal : Proposal} (written : Proposal)
    (has : pre.proposal proposalId = some proposal)
    (same : written.proposer = proposal.proposer) :
    DepositsKept pre (pre.putProposal proposalId written) := by
  refine ⟨rfl, fun other => ?_⟩
  simp only [proposerOf, proposal_putProposal]
  split
  next here => rw [here, has, map_some, map_some, same]
  next => rfl

@[simp] theorem Proposal.tallied_proposer (proposal : Proposal) (voteType : VoteType)
    (change : Int → Int) : (proposal.tallied voteType change).proposer = proposal.proposer := by
  cases voteType <;> rfl

theorem Redecided.depositsKept (redecided : Redecided pre after) : DepositsKept pre after := by
  have view : Proposal.proposer = Proposal.proposer ∘ undecided := rfl
  refine ⟨redecided.deposits, fun proposalId => ?_⟩
  rw [proposerOf, proposerOf, view, ← map_map, ← map_map, redecided.proposals]

theorem Finalized.openAt (finalized : Finalized env pre proposalId after) :
    pre.OpenAt proposalId := by
  cases finalized with
  | failed has isOpen => exact ⟨_, has, isOpen⟩
  | succeeded has isOpen => exact ⟨_, has, isOpen⟩
  | executed has isOpen => exact ⟨_, has, isOpen⟩

theorem BallotCast.depositsKept {voter : Address} {votes : Int} {voteType : VoteType}
    (cast : BallotCast env pre proposalId voter votes voteType after) : DepositsKept pre after := by
  obtain ⟨has, isOpen, fresh, credited, pos, affordable⟩ := cast
  refine DepositsKept.trans (.putProposal _ has ?_) ⟨rfl, fun _ => rfl⟩
  simp only [withBallot, tallied_proposer]

theorem QuadraticEffect.depositsKept {call : QuadraticCall}
    (effect : QuadraticEffect env pre call after) : DepositsKept pre after := by
  cases effect with
  | configure | allocate | verify | verifyWithBonus | refund => exact ⟨rfl, fun _ => rfl⟩
  | cast cast => exact cast.depositsKept
  | reallocate has recorded credited cast =>
    refine DepositsKept.trans ?_ cast.depositsKept
    refine DepositsKept.trans (.putProposal _ has ?_) ⟨rfl, fun _ => rfl⟩
    exact tallied_proposer _ _ _

theorem GovernanceEffect.depositsKept {call : GovernanceCall}
    (effect : GovernanceEffect env pre call after) (unmade : ¬ (DepositCall.governance call).Makes)
    (unsettled : (DepositCall.governance call).settles = none) : DepositsKept pre after := by
  cases effect with
  | settings effect => exact effect.redecided.depositsKept
  | power effect => exact effect.redecided.depositsKept
  | treasury call effect => exact effect.redecided.depositsKept
  | proposal effect =>
    cases effect with
    | create => exact absurd trivial unmade
    | castVote cast =>
      obtain ⟨admitted, pos, counted⟩ := cast
      refine .putProposal _ admitted.has ?_
      simp only [withVote, tallied_proposer]
    | finalize => cases unsettled
    | execute executed => exact executed.redecided.depositsKept
    | cancel has unexecuted => exact .putProposal _ has rfl
  | timelock effect => exact effect.redecided.depositsKept
  | quadratic effect => exact effect.depositsKept
  | reputationVote score effect =>
    obtain ⟨admitted, nonneg⟩ := effect
    refine .putProposal _ admitted.has ?_
    simp only [withVote, tallied_proposer]

end Kept

/-- What holds of the stored deposits in every state: they were paid by the proposers, the
configured amount is positive and forfeited deposits have a receiver. -/
structure DepositsSound (store : GovStore) : Prop where
  owned : ∀ proposalId proposer, store.heldFrom proposalId = some proposer →
    store.proposerOf proposalId = some proposer
  pos : 0 < (depositConfig store).amount
  treasury : store.deposits.treasuryAddress.isSome

/-- The configured deposit was taken from the proposer of a new proposal. -/
structure DepositTaken (pre after : GovStore) (proposalId : Nat) (proposer : Address) :
    Prop where
  deposits : after.deposits = { pre.deposits with
    locked := pre.deposits.locked.insert proposalId proposer }
  proposers : ∀ other, after.proposerOf other =
    if other = proposalId then some proposer else pre.proposerOf other
  charged : after.balanceOf proposer =
    pre.balanceOf proposer - (depositConfig pre).amount

/-- The deposit of a proposal was given up and paid to a receiver whose balance can hold
it. -/
structure DepositSettled (pre after : GovStore) (proposalId : Nat)
    (receiver : Address) : Prop where
  deposits : after.deposits = { pre.deposits with
    locked := pre.deposits.locked.erase proposalId }
  proposers : ∀ other, after.proposerOf other = pre.proposerOf other
  paid : i128.Holds (pre.balanceOf receiver + (depositConfig pre).amount) → ∀ holder,
    after.balanceOf holder = pre.balanceOf holder +
      if holder = receiver then (depositConfig pre).amount else 0

section Calls

variable {env : Env} {pre : GovStore} {proposalId : Nat}

theorem createProposalEntry_spec (sound : DepositsSound pre) (proposer : Address)
    (proposalType : ProposalType) (title description : String) (executionPayload : Bytes)
    (category : ProposalCategory) (useQuadraticVoting : Bool) :
    wlp (createProposalEntry env proposer proposalType title description executionPayload category
      useQuadraticVoting)
      (fun _ after => DepositTaken pre after pre.proposals.nextProposalId proposer) pre := by
  simp only [createProposalEntry, wp_bind, wp_initialized, wp_notPaused]
  intro _ _
  refine wp_then (createProposal_spec env proposer proposalType title description
    executionPayload category useQuadraticVoting) ?_
  rintro _ _ ⟨isNew, made, snapshots⟩
  simp only [lockProposalDeposit, wlp_rules, wp_ite, wp_putTokens]
  refine ⟨fun disabled => absurd disabled sound.pos.ne', fun _ tokens lowered => ?_⟩
  refine ⟨rfl, fun other => ?_, ?_⟩
  · simp only [proposerOf, GovStore.proposal,
      GovStore.putTokens, lookup_insert]
    split
    · rw [map_some, made]
    · rfl
  · have charged := subtractBalance_ok lowered
    simp only [GovStore.balanceOf, GovStore.putTokens, charged, read_insert, if_pos]
    rfl

/-- A settlement pays the configured deposit to the proposer or the treasury, or leaves
everything as it was because the receiver's balance could not hold it. -/
theorem settleProposalDeposit_spec {proposer : Address} {proposal : Proposal}
    (held : pre.heldFrom proposalId = some proposer)
    (has : pre.proposal proposalId = some proposal)
    (pos : 0 < (depositConfig pre).amount) (treasury : Address) :
    wlp (attempt (settleProposalDeposit proposalId proposal.totalVotes
      (pre.tokens.totalSupply.getD 0) treasury)) (fun _ after => ∃ receiver,
        receiver = (if pre.MeetsParticipation proposalId then proposer else treasury) ∧
          (DepositSettled pre after proposalId receiver ∨ after = pre ∧
            ¬ i128.Holds (pre.balanceOf receiver + (depositConfig pre).amount))) pre := by
  have met : pre.MeetsParticipation proposalId ↔ 0 < pre.tokens.totalSupply.getD 0 ∧
      ((depositConfig pre).minParticipationBps : Int) ≤ i128.clamp
        ((saturatingMul proposal.totalVotes 10000).tdiv (pre.tokens.totalSupply.getD 0)) := by
    simp only [GovStore.MeetsParticipation, has, mem_some_iff, exists_eq_left']
  have listed : pre.deposits.locked.lookup proposalId = some proposer := held
  simp only [wp_attempt, settleProposalDeposit, wp_rules, listed, wp_putTokens, ← met]
  refine ⟨fun tokens raised => ⟨_, rfl, .inl ⟨rfl, fun _ => rfl, fun _ => ?_⟩⟩,
    fun reason refused => ⟨_, rfl, .inr ⟨trivial, ?_⟩⟩⟩
  · exact read_of_added raised
  · exact addBalance_error pos refused

theorem finalizeProposalEntry_spec (sound : DepositsSound pre) (env : Env) (proposalId : Nat) :
    wlp (finalizeProposalEntry env proposalId)
      (fun _ after => ∃ middle, invoke (finalizeProposal env proposalId) pre = middle ∧
        Finalized env pre proposalId middle ∧ (pre.heldFrom proposalId = none ∧ after = middle ∨
          ∃ receiver, (pre.heldFrom proposalId).isSome ∧
            (if middle.MeetsParticipation proposalId then pre.heldFrom proposalId
              else pre.deposits.treasuryAddress) = some receiver ∧
            (DepositSettled middle after proposalId receiver ∨ after = middle ∧
              ¬ i128.Holds (middle.balanceOf receiver + (depositConfig middle).amount)))) pre := by
  simp only [finalizeProposalEntry, wp_bind, wp_initialized, wp_notPaused]
  intro _ _
  refine (wp_iff _).mpr ⟨fun status middle gave => ?_, fun _ _ _ => trivial⟩
  have finalized := wp_ok (finalizeProposal_spec env proposalId) gave
  have kept := finalized.redecided.depositsKept
  have sameHeld : middle.heldFrom proposalId = pre.heldFrom proposalId := by
    simp only [heldFrom, kept.deposits]
  simp only [wlp_rules]
  intro proposal has
  cases held : pre.heldFrom proposalId with
  | none =>
    have unlisted : middle.deposits.locked.lookup proposalId = none := sameHeld.trans held
    simp only [wp_attempt, settleProposalDeposit, wp_rules, unlisted]
    exact ⟨middle, invoke_of_ok gave, finalized, .inl ⟨trivial, rfl⟩⟩
  | some proposer =>
    obtain ⟨treasury, set⟩ := Option.isSome_iff_exists.mp sound.treasury
    have pos : 0 < (depositConfig middle).amount := by
      simp only [depositConfig, kept.deposits]
      exact sound.pos
    refine wp_then (settleProposalDeposit_spec (sameHeld.trans held) has pos _) ?_
    rintro _ after ⟨receiver, rfl, settled⟩
    refine ⟨middle, invoke_of_ok gave, finalized, .inr ⟨_, rfl, ?_, settled⟩⟩
    rw [kept.deposits, set]
    split <;> rfl

/-- A withdrawal settles the deposit, if there is one, whoever asks for it is the one who
paid it. -/
theorem withdrawProposal_spec (sound : DepositsSound pre) (env : Env) (proposalId : Nat)
    (caller : Address) : wlp (withdrawProposal env proposalId caller)
      (fun _ after => pre.OpenAt proposalId ∧
        (pre.heldFrom proposalId = none ∧ DepositsKept pre after ∨
          pre.heldFrom proposalId = some caller ∧ DepositSettled pre after proposalId caller))
      pre := by
  simp only [withdrawProposal, wlp_rules, wp_auth, wp_getProposal, wp_putProposal, wp_ite]
  intro _ proposal has same _ pending _
  have kept : DepositsKept pre
      (pre.putProposal proposalId { proposal with status := .withdrawn }) :=
    .putProposal _ has rfl
  have openAt : pre.OpenAt proposalId := ⟨proposal, has, .inl pending⟩
  cases held : pre.heldFrom proposalId with
  | none =>
    have unlisted : (pre.putProposal proposalId
        { proposal with status := .withdrawn }).deposits.locked.lookup proposalId = none := held
    refine ⟨fun both => absurd both.2 ?_, fun _ => ⟨openAt, .inl ⟨rfl, kept⟩⟩⟩
    rw [unlisted]
    exact some_ne_none _ ∘ Eq.symm
  | some proposer =>
    have owner := sound.owned proposalId proposer held
    simp only [proposerOf, has, map_some, Option.some.injEq] at owner
    obtain rfl : caller = proposer := same.trans owner
    have listed : (pre.putProposal proposalId
        { proposal with status := .withdrawn }).deposits.locked.lookup proposalId =
          some caller := held
    refine ⟨fun _ => ?_, fun neither => absurd ⟨sound.pos, listed⟩ neither⟩
    simp only [wp_rules, wp_attempt, creditBalance, wp_putTokens]
    refine ⟨fun tokens raised => ⟨openAt, .inr ⟨trivial, rfl, kept.proposers, fun _ => ?_⟩⟩,
      fun reason refused => ⟨openAt, .inr ⟨trivial, rfl, kept.proposers, fun fits => ?_⟩⟩⟩
    · exact read_of_added raised
    · exact absurd fits (addBalance_error sound.pos refused)

end Calls

inductive DepositEffect (taken : DepositTransition) : Prop where
  /-- The deposits stay, also when one is closed whose beneficiary cannot be paid. -/
  | kept (unlocked : ∀ proposalId, ¬ taken.Locks proposalId)
      (unclosed : ∀ proposalId, taken.Closes proposalId →
        taken.pre.store.OpenAt proposalId ∧ ¬ taken.input.Fits taken.pre)
      (kept : DepositsKept taken.pre.store taken.after.store)
  /-- Another deposit is configured. -/
  | configured (unmade : ¬ taken.input.call.Makes) (unsettled : taken.input.call.settles = none)
      {config : DepositConfig} (pos : 0 < config.amount)
      (written : taken.after.store = { taken.pre.store with
        deposits := { taken.pre.store.deposits with config := some config } })
  /-- A proposal is made and its deposit held. -/
  | locked (gave : taken.Returned) (made : taken.input.call.Makes) {proposer : Address}
      (charged : DepositTaken taken.pre.store taken.after.store
        taken.pre.store.proposals.nextProposalId proposer)
  /-- A deposit is settled. -/
  | settled {proposalId : Nat} {receiver : Address}
      (closes : taken.input.call.settles = some proposalId)
      (openAt : taken.pre.store.OpenAt proposalId)
      (held : (taken.pre.store.heldFrom proposalId).isSome)
      (decided : DepositsKept taken.pre.store (taken.input.settling taken.pre))
      (receives : taken.input.beneficiary taken.pre = some receiver)
      (settled : DepositSettled (taken.input.settling taken.pre) taken.after.store proposalId
        receiver)

section Steps

variable {ledger : Ledger GovStore} {arrival : Arrival} {timestamp sequence : Nat}

theorem DepositEffect.untouched {taken : DepositTransition} (unmade : ¬ taken.input.call.Makes)
    (unsettled : taken.input.call.settles = none)
    (kept : DepositsKept taken.pre.store taken.after.store) : DepositEffect taken := by
  refine .kept (fun _ locks => unmade locks.2.1) (fun _ closes => ?_) kept
  have settles := closes.2.1
  rw [unsettled] at settles
  cases settles

theorem create_charges {pre : GovStore} {env : Env} (sound : DepositsSound pre)
    (proposer : Address) (proposalType : ProposalType) (title description : String)
    (executionPayload : Bytes) (category : ProposalCategory) (useQuadraticVoting : Bool) :
    wlp ((DepositCall.governance (.proposal (.create proposer proposalType title description
      executionPayload category useQuadraticVoting))).exec env)
      (fun _ after => DepositTaken pre after pre.proposals.nextProposalId proposer) pre := by
  simp only [DepositCall.exec, GovernanceCall.exec, ProposalCall.exec, wp_discard]
  exact createProposalEntry_spec sound proposer proposalType title description executionPayload
    category useQuadraticVoting

theorem finalize_effect (sound : DepositsSound ledger.store) (proposalId : Nat) :
    wlp ((DepositCall.governance (.proposal (.finalize proposalId))).exec (ledger.env arrival))
      (fun _ after => DepositEffect ⟨ledger,
        ⟨arrival, .governance (.proposal (.finalize proposalId))⟩, ⟨after, timestamp, sequence⟩⟩)
      ledger.store := by
  simp only [DepositCall.exec, GovernanceCall.exec, ProposalCall.exec, wp_discard]
  refine wp_then (finalizeProposalEntry_spec sound _ proposalId) ?_
  rintro _ after ⟨middle, settling, finalized, ended⟩
  have decided := finalized.redecided.depositsKept
  have same : depositConfig middle = depositConfig ledger.store := by
    simp only [depositConfig, decided.deposits]
  rcases ended with ⟨unheld, rfl⟩ | ⟨receiver, held, receives, settled | ⟨rfl, unfit⟩⟩
  · refine .kept (fun _ locks => locks.2.1) (fun other closes => ?_) decided
    obtain ⟨_, settles, held⟩ := closes
    cases settles
    simp only [unheld, isSome_none, Bool.false_eq_true] at held
  · subst settling
    exact .settled rfl finalized.openAt held decided receives settled
  · subst settling
    refine .kept (fun _ locks => locks.2.1) (fun other closes => ?_) decided
    cases closes.2.1
    refine ⟨finalized.openAt, fun fits => unfit ?_⟩
    rw [same]
    exact fits receiver receives

theorem withdraw_effect (sound : DepositsSound ledger.store) (proposalId : Nat) (caller : Address) :
    wlp ((DepositCall.withdrawProposal proposalId caller).exec (ledger.env arrival))
      (fun _ after => DepositEffect ⟨ledger, ⟨arrival, .withdrawProposal proposalId caller⟩,
        ⟨after, timestamp, sequence⟩⟩) ledger.store := by
  simp only [DepositCall.exec, wp_rules, wp_initialized, wp_notPaused]
  intro _ _
  refine wp_then (withdrawProposal_spec sound _ proposalId caller) ?_
  rintro _ after ⟨openAt, ⟨unheld, kept⟩ | ⟨held, settled⟩⟩
  · refine .kept (fun _ locks => locks.2.1) (fun other closes => ?_) kept
    obtain ⟨_, settles, held⟩ := closes
    cases settles
    simp only [unheld, isSome_none, Bool.false_eq_true] at held
  · exact .settled rfl openAt (Option.isSome_iff_exists.mpr ⟨caller, held⟩)
      (.refl ledger.store) held settled

theorem setDepositConfig_effect (admin : Address) (amount : Amount) (minParticipationBps : Nat) :
    wlp ((DepositCall.setDepositConfig admin amount minParticipationBps).exec (ledger.env arrival))
      (fun _ after => DepositEffect ⟨ledger,
        ⟨arrival, .setDepositConfig admin amount minParticipationBps⟩,
        ⟨after, timestamp, sequence⟩⟩) ledger.store := by
  simp only [DepositCall.exec, requireParameterCapability, setDepositConfig, wlp_rules,
    wp_initialized, wp_auth, wp_ite, wp_requireAdmin]
  refine fun _ _ _ => ⟨fun _ _ _ _ valid => ?_, fun _ _ _ _ _ _ _ valid => ?_⟩
  · exact .configured not_false rfl (not_le.mp fun low => valid (.inl low)) rfl
  · exact .configured not_false rfl (not_le.mp fun low => valid (.inl low)) rfl

theorem depositStep_effect (input : DepositInput) (sound : DepositsSound ledger.store) :
    DepositEffect ⟨ledger, input, depositStep input ledger⟩ := by
  by_cases returns : Accepts (input.call.exec (ledger.env input.arrival)) ledger.store
  · obtain ⟨value, gave⟩ := gave_of_accepts returns
    have untouched : ∀ call, input.call = .governance call → ¬ input.call.Makes →
        input.call.settles = none → DepositEffect ⟨ledger, input, depositStep input ledger⟩ := by
      intro call same unmade unsettled
      obtain ⟨arrival, _⟩ := input
      subst same
      exact .untouched unmade unsettled
        ((wp_ok (call.exec_effect _) gave).depositsKept unmade unsettled)
    obtain ⟨arrival, call⟩ := input
    cases call with
    | governance call =>
      cases call with
      | settings | power | treasury | timelock | quadratic | reputationVote =>
        exact untouched _ rfl not_false rfl
      | proposal call =>
        cases call with
        | castVote | execute | cancel => exact untouched _ rfl not_false rfl
        | create proposer proposalType title description executionPayload category
            useQuadraticVoting =>
          exact .locked returns trivial (wp_ok (create_charges sound proposer proposalType title
            description executionPayload category useQuadraticVoting) gave)
        | finalize proposalId => exact wp_ok (finalize_effect sound proposalId) gave
    | setDepositConfig admin amount minParticipationBps =>
      exact wp_ok (setDepositConfig_effect admin amount minParticipationBps) gave
    | withdrawProposal proposalId caller =>
      exact wp_ok (withdraw_effect sound proposalId caller) gave
  · have same : (depositStep input ledger).store = ledger.store := invoke_of_rejected returns
    refine .kept (fun _ locks => returns locks.1) (fun _ closes => absurd closes.1 returns) ?_
    rw [same]
    exact .refl ledger.store

end Steps

end StellarSwipe.Governance
