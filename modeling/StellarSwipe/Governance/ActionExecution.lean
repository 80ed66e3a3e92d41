import StellarSwipe.Governance.ProposalEffects

/-!
# What a stopped execution leaves

Finalizing a proposal and executing several queued actions go on when an execution returns an
error, and the host keeps what it wrote.
-/

namespace StellarSwipe.Governance

open FixedWidth Program Table GovStore Option

variable (store : GovStore) (proposalType : ProposalType)

/-- A spend that the treasury's asset covers; other actions need no cover. -/
def GovStore.Covers : Prop :=
  match proposalType with
  | .treasurySpend _ amount asset _ =>
    amount ≤ store.treasury.assets.read asset ∧
      i128.Holds (store.treasury.assets.read asset - amount)
  | .parameterChange _ _ _ | .featureToggle _ _ | .contractUpgrade _ _ | .signalProposal _
  | .custom _ => True

instance : Decidable (store.Covers proposalType) := by
  unfold GovStore.Covers
  rcases proposalType with _ | _ <;> infer_instance

/-- The storage with a spend taken out of its asset. -/
def GovStore.lowered (store : GovStore) (proposalType : ProposalType) :
    GovStore :=
  match proposalType with
  | .treasurySpend _ amount asset _ => store.putTreasury { store.treasury with
      assets := store.treasury.assets.insert asset (store.treasury.assets.read asset - amount) }
  | .parameterChange _ _ _ | .featureToggle _ _ | .contractUpgrade _ _ | .signalProposal _
  | .custom _ => store

section Actions

variable {pre : GovStore}

theorem executeProposalAction_runs (proposal : Proposal) : wp (executeProposalAction proposal)
      (fun _ after => (pre.Covers proposal.proposalType ∧
        pre.CreditsRecipient proposal.proposalType) ∧
        ∀ other, after.proposal other = pre.proposal other)
      (fun _ after => (¬ pre.Covers proposal.proposalType ∧ after = pre) ∨
        (pre.Covers proposal.proposalType ∧ ¬ pre.CreditsRecipient proposal.proposalType ∧
          after = pre.lowered proposal.proposalType)) pre := by
  simp only [executeProposalAction]
  cases kind : proposal.proposalType with
  | treasurySpend recipient amount asset purpose =>
    simp only [wp_rules, wp_putTokens, GovStore.Covers, GovStore.CreditsRecipient]
    refine ⟨fun enough => ⟨fun lowered subtracted => ?_, fun reason overflows => ?_⟩, fun short => ?_⟩
    · obtain ⟨held, rfl⟩ := checkedSub_ok subtracted
      refine ⟨fun tokens added => ?_, fun reason refused => ?_⟩
      · have credited : pre.tokens.addBalance recipient amount = .ok tokens := added
        rw [credited]
        exact ⟨⟨⟨not_lt.mp enough, held⟩, rfl⟩, fun _ => rfl⟩
      · have stopped : pre.tokens.addBalance recipient amount = .error reason := refused
        rw [stopped]
        exact .inr ⟨⟨not_lt.mp enough, held⟩, Bool.false_ne_true, rfl⟩
    · refine .inl ⟨fun covered => ?_, trivial⟩
      rw [checkedSub_of_holds covered.2] at overflows
      cases overflows
    · exact .inl ⟨fun covered => short (not_lt.mpr covered.1), trivial⟩
  | _ =>
    exact ⟨⟨trivial, trivial⟩, fun _ => rfl⟩

end Actions

/-- A spend that is covered and whose recipient cannot be credited. -/
def GovStore.Uncredited : Prop :=
  store.Covers proposalType ∧ ¬ store.CreditsRecipient proposalType
deriving Decidable

/-- Taking the spend out changes what the treasury records of the asset. -/
def GovStore.MovesAsset : Prop :=
  match proposalType with
  | .treasurySpend _ amount asset _ =>
    store.treasury.assets.lookup asset ≠ some (store.treasury.assets.read asset - amount)
  | .parameterChange _ _ _ | .featureToggle _ _ | .contractUpgrade _ _ | .signalProposal _
  | .custom _ => False

/-- The treasury, the balances, the proposals and everything else are what they were. -/
structure SameRecords (pre after : GovStore) : Prop where
  assets : ∀ asset, after.treasury.assets.lookup asset = pre.treasury.assets.lookup asset
  others : after = pre.putTreasury { pre.treasury with assets := after.treasury.assets }

/-- The action that executing a proposal gets to: that of one that succeeded, between its
delay and its deadline. -/
def executionReaches (env : Env) (store : GovStore) (proposalId : Nat) :
    Option ProposalType := do
  let proposal ← store.proposal proposalId
  if proposal.status = .succeeded ∧
      satCount u64Max proposal.votingEnds store.governanceConfig.executionDelay ≤
        env.timestamp ∧ env.timestamp ≤ proposal.executionDeadline then
    some proposal.proposalType
  else none

/-- The action that executing a queued action gets to: that of one that waits and whose
time has come. -/
def queuedReaches (env : Env) (store : GovStore) (actionId : Nat) : Option ProposalType := do
  let action ← store.queuedAction actionId
  if action.Waits ∧ action.executionAvailable ≤ env.timestamp then
    (store.proposal action.proposalId).map Proposal.proposalType
  else none

/-- What an execution that stopped leaves, by the action it got to. -/
inductive StoppedExecution (pre : GovStore) :
    Option ProposalType → GovStore → Prop where
  | untouched {reached : Option ProposalType}
      (credited : ∀ proposalType ∈ reached, ¬ pre.Uncredited proposalType) :
      StoppedExecution pre reached pre
  | lowered {proposalType : ProposalType} (uncredited : pre.Uncredited proposalType) :
      StoppedExecution pre (some proposalType) (pre.lowered proposalType)

section Executions

variable {pre : GovStore}

theorem lowered_sameRecords_iff (proposalType : ProposalType) :
    SameRecords pre (pre.lowered proposalType) ↔ ¬ pre.MovesAsset proposalType := by
  cases proposalType with
  | treasurySpend recipient amount asset purpose =>
    simp only [GovStore.MovesAsset, not_not]
    constructor
    · intro same
      exact (same.assets asset).symm.trans
        ((lookup_insert _ _ _ _).trans (if_pos rfl))
    · intro recorded
      refine ⟨fun other => ?_, rfl⟩
      refine (lookup_insert _ _ _ _).trans ?_
      split
      next same => exact same ▸ recorded.symm
      next => rfl
  | _ =>
    exact ⟨fun _ moves => moves, fun _ => ⟨fun _ => rfl, rfl⟩⟩

variable {after : GovStore} {reached : Option ProposalType}

/-- A stopped execution changed nothing unless it got to a spend that moves its asset and
cannot be credited. -/
theorem StoppedExecution.sameRecords_iff (stopped : StoppedExecution pre reached after) :
    SameRecords pre after ↔ ∀ proposalType ∈ reached,
      ¬ (pre.Uncredited proposalType ∧ pre.MovesAsset proposalType) := by
  cases stopped with
  | untouched credited =>
    refine ⟨fun _ proposalType hit both => ?_, fun _ => ⟨fun _ => rfl, rfl⟩⟩
    exact credited proposalType hit both.1
  | @lowered proposalType uncredited =>
    rw [lowered_sameRecords_iff]
    constructor
    · intro still other hit both
      cases hit
      exact still both.2
    · intro every moves
      exact every proposalType rfl ⟨uncredited, moves⟩

/-- An action that stopped at a storage, as an execution that got to it. -/
theorem stopped_at_action {proposal : Proposal}
    (left : (¬ pre.Covers proposal.proposalType ∧ after = pre) ∨
      (pre.Covers proposal.proposalType ∧ ¬ pre.CreditsRecipient proposal.proposalType ∧
        after = pre.lowered proposal.proposalType)) :
    StoppedExecution pre (some proposal.proposalType) after := by
  rcases left with ⟨uncovered, rfl⟩ | ⟨covered, refused, rfl⟩
  · refine .untouched fun other hit uncredited => ?_
    cases hit
    exact uncovered uncredited.1
  · exact .lowered ⟨covered, refused⟩

/-- An action run from its own storage returns, or leaves what a stopped execution leaves. -/
theorem executeProposalAction_stops (proposal : Proposal) : wp (executeProposalAction proposal)
      (fun _ after => ∀ other, after.proposal other = pre.proposal other)
      (fun reason after => reason.holds (fun _ =>
        StoppedExecution pre (some proposal.proposalType) after) True) pre := by
  refine wp_mono (executeProposalAction_runs proposal) (fun _ _ ran => ran.2) ?_
  rintro (reason | _) after left
  · exact stopped_at_action left
  · trivial

theorem untouched_of_unreached (unreached : reached = none) : StoppedExecution pre reached pre := by
  subst unreached
  exact .untouched fun proposalType hit => by cases hit

/-- An execution that returns an error has gone no further than its action. -/
theorem executeProposal_stops (env : Env) (proposalId : Nat) (executor : Address) :
    wp (executeProposal env proposalId executor) (fun _ _ => True)
      (fun reason after => reason.holds (fun _ =>
        StoppedExecution pre (executionReaches env pre proposalId) after) True) pre := by
  simp only [executeProposal, requireAuth, getProposal, wlp_rules, Fault.holds_error,
    Fault.holds_trap]
  intro _
  refine ⟨fun proposal has => ?_, fun missing => ?_⟩
  · -- What the execution reaches is decided by its three checks.
    have reaches : executionReaches env pre proposalId =
        if proposal.status = .succeeded ∧
          satCount u64Max proposal.votingEnds pre.governanceConfig.executionDelay ≤
            env.timestamp ∧ env.timestamp ≤ proposal.executionDeadline then
          some proposal.proposalType
        else none := by
      simp only [executionReaches, has, bind_eq_bind, bind_some]
    refine ⟨fun approved => ⟨fun ready => ⟨fun timely => ?_, fun late => ?_⟩, fun soon => ?_⟩,
      fun unapproved => ?_⟩
    · rw [reaches, if_pos ⟨approved, not_lt.mp ready, not_lt.mp timely⟩]
      refine wp_mono (executeProposalAction_stops proposal) ?_ fun _ _ stopped => stopped
      intro _ middle kept
      have present : middle.proposal proposalId = some proposal := (kept proposalId).trans has
      simp [putProposal, present]
    · exact untouched_of_unreached (reaches.trans (if_neg fun due => late (not_lt.mpr due.2.2)))
    · exact untouched_of_unreached (reaches.trans (if_neg fun due => soon (not_lt.mpr due.2.1)))
    · exact untouched_of_unreached (reaches.trans (if_neg fun due => unapproved due.1))
  · refine untouched_of_unreached ?_
    simp only [executionReaches, missing, bind_eq_bind, bind_none]

theorem executeQueuedAction_stops (env : Env) (actionId : Nat) (executor : Address) :
    wp (executeQueuedAction env actionId executor) (fun _ _ => True)
      (fun reason after => reason.holds (fun _ =>
        StoppedExecution pre (queuedReaches env pre actionId) after) True) pre := by
  simp only [executeQueuedAction, getTimelock, requireAuth, wlp_rules, Fault.holds_error,
    Fault.holds_trap]
  intro _
  refine ⟨fun timelock installed => ?_, fun missing => ?_⟩
  · have looks : pre.queuedAction actionId = timelock.find actionId := by
      simp only [queuedAction, installed, bind_some]
    refine ⟨fun action hit => ?_, fun missing => ?_⟩
    · have reaches : queuedReaches env pre actionId =
          if action.Waits ∧ action.executionAvailable ≤ env.timestamp then
            (pre.proposal action.proposalId).map Proposal.proposalType
          else none := by
        simp only [queuedReaches, looks, hit, bind_eq_bind, bind_some]
      refine ⟨fun waits => ⟨fun available => ?_, fun soon => ?_⟩, fun settled => ?_⟩
      · rw [reaches, if_pos ⟨waits, not_lt.mp available⟩]
        simp only [runQueuedAction, executeProposalActionById, getProposal, wp_rules,
          Fault.holds_error]
        refine ⟨fun proposal has => ?_, fun missing => ?_⟩
        · rw [has, map_some]
          refine wp_mono (executeProposalAction_stops proposal) ?_ fun _ _ stopped => stopped
          intro _ middle kept
          have present : middle.proposal action.proposalId = some proposal :=
            (kept action.proposalId).trans has
          have still : (middle.putTimelock (timelock.replace actionId
              { action with executed := true })).proposal action.proposalId = some proposal :=
            present
          simp [putTimelock, markProposalExecuted, getProposal, putProposal, still]
        · rw [missing, map_none]
          exact untouched_of_unreached rfl
      · exact untouched_of_unreached (reaches.trans (if_neg fun due => soon (not_lt.mpr due.2)))
      · exact untouched_of_unreached (reaches.trans (if_neg fun due => settled due.1))
    · refine untouched_of_unreached ?_
      simp only [queuedReaches, looks, missing, bind_eq_bind, bind_none]
  · refine untouched_of_unreached ?_
    simp only [queuedReaches, queuedAction, missing, bind_none, bind_eq_bind]

/-- What a program that stops with an error leaves is what an attempt of it leaves. -/
theorem swallowed_rule {α : Type} {program : GovProgram α}
    {stopped : GovStore → Prop} (stops : wp program (fun _ _ => True)
      (fun reason after => reason.holds (fun _ => stopped after) True) pre)
    {reason : GovernanceError}
    (swallowed : attempt program pre = .ok (.error reason) after) : stopped after := by
  simp only [attempt] at swallowed
  rcases result : program pre with ⟨value, final⟩ | ⟨error | _, final⟩
  · rw [result] at swallowed
    cases swallowed
  · rw [result] at swallowed
    cases swallowed
    exact wp_error stops result
  · rw [result] at swallowed
    cases swallowed

/-- The storage is what it was before an execution exactly when the execution did not get to a
spend that moves its asset and cannot be credited. -/
def CleanUnlessUncredited (pre after : GovStore) (reached : Option ProposalType) : Prop :=
  SameRecords pre after ↔ ∀ proposalType ∈ reached,
    ¬ (pre.Uncredited proposalType ∧ pre.MovesAsset proposalType)

/-- Finalizing a proposal stores what was decided. A success that asks for no delay goes on to
attempt the execution. -/
theorem finalizeProposal_attempts (env : Env) (proposalId : Nat) :
    wlp (finalizeProposal env proposalId) (fun status after =>
      ∃ proposal, pre.proposal proposalId = some proposal ∧
        let decided := pre.putProposal proposalId { proposal with status }
        if status = .succeeded ∧ pre.governanceConfig.executionDelay = 0 then
          ∃ result, attempt (executeProposal env proposalId proposal.proposer) decided =
            .ok result after
        else after = decided) pre := by
  simp only [finalizeProposal, wp_bind, wp_getProposal, wp_ensure, wp_get, implies_true, and_true]
  intro proposal has _ _
  refine wp_then (referenceSupply_spec proposal) ?_
  rintro supply after ⟨rfl, _⟩
  simp only [wp_ite, wp_bind, wp_putProposal, wp_pure, has, Option.isSome_some, forall_const,
    wp_discard]
  refine ⟨fun _ => ⟨fun due => ?_, fun undue => ?_⟩, fun _ => ⟨proposal, rfl, rfl⟩⟩
  · refine (wp_iff _).mpr ⟨fun result final ran => ?_, fun _ _ _ => trivial⟩
    exact ⟨proposal, rfl, (if_pos due).mpr ⟨result, ran⟩⟩
  · exact ⟨proposal, rfl, (if_neg undue).mpr rfl⟩

/-- Whenever the error of an execution is swallowed, by finalizing a proposal or in a batch
of queued actions, the storage is what it was before the execution exactly when the
execution did not get to a spend that moves its asset and cannot be credited. -/
theorem swallowed_errors_clean_iff (env : Env) (pre : GovStore) :
    (∀ proposalId status after, finalizeProposal env proposalId pre = .ok status after →
      ∃ proposal, pre.proposal proposalId = some proposal ∧
        let decided := pre.putProposal proposalId { proposal with status }
        if status = .succeeded ∧ pre.governanceConfig.executionDelay = 0 then
          ∃ result, attempt (executeProposal env proposalId proposal.proposer) decided =
            .ok result after ∧ ∀ reason, result = .error reason →
              CleanUnlessUncredited decided after (executionReaches env decided proposalId)
        else after = decided) ∧
    (∀ actionIds executor executed after,
      executeMultipleActions env actionIds executor pre = .ok executed after →
      ∀ entry ∈ attempts (fun actionId => executeQueuedAction env actionId executor) actionIds
        pre, ∀ reason, entry.result = .error reason →
          CleanUnlessUncredited entry.pre entry.after
            (queuedReaches env entry.pre entry.item)) := by
  constructor
  · intro proposalId status after gave
    obtain ⟨proposal, has, left⟩ := wp_ok (finalizeProposal_attempts env proposalId) gave
    refine ⟨proposal, has, ?_⟩
    split at left
    next due =>
      obtain ⟨result, ran⟩ := left
      refine (if_pos due).mpr ⟨result, ran, ?_⟩
      rintro reason rfl
      exact (swallowed_rule (executeProposal_stops env proposalId proposal.proposer)
        ran).sameRecords_iff
    next undue => exact (if_neg undue).mpr left
  · intro actionIds executor _ _ _ entry mem reason failed
    have swallowed := attempts_run _ _ _ _ mem
    rw [failed] at swallowed
    exact (swallowed_rule (executeQueuedAction_stops env entry.item executor)
      swallowed).sameRecords_iff

end Executions

section Grants

/-- The treasury's asset of the grants below. -/
def grantAsset : Asset := ⟨"XLM", none⟩

/-- A proposer with a stake's worth of tokens, and a recipient with all that fits. -/
def fullRecipient : Ledger GovStore :=
  governanceStart 9 ((AList.insert 2 (2 ^ 127 - 1) ∅).insert 1 5000) [1, 2] 5000 0 0

def approvedGrant (recipient amount : Nat) : List GovernanceInput :=
  [⟨⟨0, 0, [1]⟩, .power (.stake 1 (amountOf 2000))⟩, ⟨⟨0, 0, [9]⟩, .settings
      (.configure .direct 9 { GovernanceConfig.default with executionDelay := 0 })⟩,
    ⟨⟨0, 0, [9]⟩, .treasury (.setAsset .direct 9 grantAsset (amountOf 1000))⟩,
    ⟨⟨0, 0, [1]⟩, .proposal (.create 1 (.treasurySpend recipient amount grantAsset "grant") "Grant"
      "A grant" [] .treasuryTransfer false)⟩,
    ⟨⟨60, 0, [1]⟩, .proposal (.castVote 1 1 .for)⟩]

def waitingGrant : GovStore :=
  (Runs.final governanceStep fullRecipient (approvedGrant 2 10)).store

/-- The surroundings of the finalization. -/
def grantDay : Env := .at 604860 0 [1]

/-- The storage that finalizing the waiting grant leaves. -/
def afterGrant : GovStore := invoke (finalizeProposal grantDay 1) waitingGrant

theorem finalized_grant :
    finalizeProposal grantDay 1 waitingGrant = .ok .succeeded afterGrant := rfl

/-- The execution that finalizing the grant attempts. -/
theorem afterGrant_clean_iff : ∃ proposal, waitingGrant.proposal 1 = some proposal ∧
    let decided := waitingGrant.putProposal 1 { proposal with status := .succeeded }
    ∃ result, attempt (executeProposal grantDay 1 proposal.proposer) decided =
      .ok result afterGrant ∧ ∀ reason, result = .error reason →
        CleanUnlessUncredited decided afterGrant (executionReaches grantDay decided 1) :=
  (swallowed_errors_clean_iff grantDay waitingGrant).1 1 .succeeded afterGrant finalized_grant

/-- The finalization returns, but the grant is gone from the treasury and nobody has it. -/
theorem uncredited_grant_lost :
    ¬ ∀ (env : Env) (pre after : GovStore) (proposalId : Nat) (proposal : Proposal)
        (reason : GovernanceError), pre.proposal proposalId = some proposal →
        finalizeProposal env proposalId pre = .ok .succeeded after →
        let decided := pre.putProposal proposalId { proposal with status := .succeeded }
        attempt (executeProposal env proposalId proposal.proposer) decided =
          .ok (.error reason) after →
        SameRecords decided after := by
  intro every
  have same := every grantDay waitingGrant afterGrant 1 _ .arithmeticOverflow rfl
    finalized_grant rfl
  have lost : afterGrant.treasury.assets.lookup grantAsset ≠
      waitingGrant.treasury.assets.lookup grantAsset := by decide
  exact lost (same.assets grantAsset)

end Grants

end StellarSwipe.Governance
