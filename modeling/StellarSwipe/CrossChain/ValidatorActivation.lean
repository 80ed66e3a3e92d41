import StellarSwipe.CrossChain.ProposalSafety

/-!
# Activation of validator sets

An approved change is recorded in the bridge at once and waits in the pending set.
-/

namespace StellarSwipe.CrossChain

open FixedWidth Program Runs OneShot MultisigCall ChainTransition Option AList

/-- The set that should attest, and the one that should wait, with the time of its last
approval. -/
structure ValidatorSets where
  active : List Address
  pending : Option (List Address × Nat)

/-- The set on which the next approval builds. -/
def ValidatorSets.base (sets : ValidatorSets) : List Address :=
  sets.pending.elim sets.active Prod.fst

namespace MultisigCall

def discarding : MultisigCall → Option Nat
  | .cancelPending bridgeId _ => some bridgeId
  | _ => none

/-- The bridge whose pending set a call activates. -/
def activating : MultisigCall → Option Nat
  | .activate bridgeId => some bridgeId
  | _ => none

end MultisigCall

namespace ChainTransition

variable (bridgeId : Nat)

def approves (taken : ChainTransition) : Option ValidatorChange :=
  (taken.input.call.multisig?.bind MultisigCall.executing).bind fun key =>
    if key.1 = bridgeId ∧ taken.Executes key then
      (taken.pre.store.multisig.proposals.lookup key).bind fun proposal =>
        proposal.proposalType.change
    else none

/-- The pending set of a bridge was discarded, by a cancellation or by an activation that failed
because its version is taken. -/
def Discards (taken : ChainTransition) : Prop :=
  taken.Returned ∧ taken.input.call.multisig?.bind discarding = some bridgeId ∨
    ¬ taken.Returned ∧ taken.input.call.multisig?.bind activating = some bridgeId ∧
      (taken.pre.store.multisig.pendingSets.lookup bridgeId).isSome ∧
        (taken.after.store.multisig.pendingSets.lookup bridgeId).isNone
deriving Decidable

/-- The pending set of a bridge was activated. -/
def Activates (taken : ChainTransition) : Prop :=
  taken.Returned ∧ taken.input.call.multisig?.bind activating = some bridgeId
deriving Decidable

end ChainTransition

variable (bridgeId : Nat)

/-- The sets after one more step: an approval builds on the waiting set, or on the active one
when none waits, and a discarded set is forgotten with its changes. -/
def ValidatorSets.next (sets : ValidatorSets) (taken : ChainTransition) : ValidatorSets :=
  match taken.approves bridgeId with
  | some change => { sets with pending := some (change.apply sets.base, taken.now) }
  | none =>
    if taken.Discards bridgeId then { sets with pending := none }
    else if taken.Activates bridgeId then ⟨sets.base, none⟩
    else sets

def intendedSets (initial : List Address) (past : List ChainTransition) : ValidatorSets :=
  past.foldl (ValidatorSets.next bridgeId) ⟨initial, none⟩

/-- A step leaves the active set and its version as they are, or activates a set whose last
approval is at least the delay ago, under a higher version. -/
def ChainTransition.ActivatesTimely (delay : Nat) (sets : ValidatorSets)
    (taken : ChainTransition) : Prop :=
  let pre := taken.pre.store.multisig
  let after := taken.after.store.multisig
  (after.activeSets.lookup bridgeId = pre.activeSets.lookup bridgeId ∧
      after.activeVersion bridgeId = pre.activeVersion bridgeId) ∨
    taken.Activates bridgeId ∧
      (∃ approved approvedAt, sets.pending = some (approved, approvedAt) ∧
        approvedAt + delay ≤ taken.now) ∧
      pre.activeVersion bridgeId < after.activeVersion bridgeId

/-- The set on which an approval should build, as stored. -/
def MultisigState.base (state : MultisigState) (bridgeId : Nat) : List Address :=
  match state.pendingSets.lookup bridgeId with
  | some pending => pending.validators
  | none => (state.activeSets.lookup bridgeId).getD []

/-- Two lists have the same validators, but for the one that a change is about. -/
def ValidatorChange.Agree (change : ValidatorChange) (recorded base : List Address) : Prop :=
  (∀ validator ∈ recorded, validator ≠ change.validator → validator ∈ base) ∧
    ∀ validator ∈ base, validator ≠ change.validator → validator ∈ recorded
deriving Decidable

/-- A change starts from a clean record: the recorded validators other than the changed one
are those of the pending set, or of the active one when none is pending, and its deadline is
a time. -/
def MultisigState.Clean (state : MultisigState) (bridgeId deadline : Nat)
    (change : ValidatorChange) : Prop :=
  deadline ≤ u64Max ∧ ∀ bridge ∈ state.bridges.lookup bridgeId,
    change.Agree bridge.validators (state.base bridgeId)
deriving Decidable

/-- Whenever a change of a bridge's validators is approved, it starts from a clean record. -/
def ApprovedCleanly (delay : Nat) (ledger : Ledger CrossChainStore) (input : CrossChainInput) :
    Prop :=
  ∀ change ∈ approves bridgeId ⟨ledger, input, chainStep input ledger⟩,
    ledger.store.multisig.Clean bridgeId
      (ledger.timestamp + input.arrival.seconds + delay) change
deriving Decidable

variable {change : ValidatorChange}

theorem ValidatorChange.mem_apply {validators : List Address} {validator : Address} :
    validator ∈ change.apply validators ↔
      if validator = change.validator then change = .add change.validator
      else validator ∈ validators := by
  cases change with
  | add added =>
    by_cases same : validator = added
    · simp [apply, ValidatorChange.validator, same]
    · simp [apply, ValidatorChange.validator, same]
  | remove removed =>
    by_cases same : validator = removed
    · simp [apply, ValidatorChange.validator, same]
    · simp [apply, ValidatorChange.validator, same]

theorem ValidatorChange.apply_congr {first second : List Address}
    (agree : ∀ validator, validator ≠ change.validator → (validator ∈ first ↔ validator ∈ second))
    (validator : Address) : validator ∈ change.apply first ↔ validator ∈ change.apply second := by
  rw [mem_apply, mem_apply]
  split
  next => rfl
  next other => exact agree validator other

section Approvals

variable {bridgeId : Nat} {taken : ChainTransition} {call : MultisigCall}

theorem approves_of_not_executing
    (idle : ¬ taken.Returned ∨ taken.input.call.multisig?.bind MultisigCall.executing = none) :
    taken.approves bridgeId = none := by
  rcases idle with stopped | other
  · rw [approves]
    cases taken.input.call.multisig?.bind MultisigCall.executing with
    | none => rfl
    | some key => exact if_neg fun executes => stopped executes.2.1
  · rw [approves, other]
    rfl

theorem approves_of_executes {key : Nat × Nat} (executes : taken.Executes key) :
    taken.approves bridgeId = if key.1 = bridgeId then
        (taken.pre.store.multisig.proposals.lookup key).bind fun proposal =>
          proposal.proposalType.change else none := by
  rw [approves, executes.2.1]
  by_cases same : key.1 = bridgeId
  · exact (if_pos ⟨same, executes⟩).trans (if_pos same).symm
  · exact (if_neg fun both => same both.1).trans (if_neg same).symm

theorem approves_of_unmarked {key : Nat × Nat}
    (executes : taken.input.call.multisig?.bind MultisigCall.executing = some key)
    (unmarked : taken.after.store.multisig.hasExecuted key ≠ true) :
    taken.approves bridgeId = none := by
  rw [approves, executes]
  exact if_neg fun both => unmarked both.2.2.2

end Approvals

open MultisigState

/-- The sets of a bridge are the same in two states. -/
structure SameSets (bridgeId : Nat) (pre after : MultisigState) : Prop where
  active : after.activeSets.lookup bridgeId = pre.activeSets.lookup bridgeId
  pending : after.pendingSets.lookup bridgeId = pre.pendingSets.lookup bridgeId
  version : after.activeVersion bridgeId = pre.activeVersion bridgeId

/-- A change of a bridge's validators is staged behind the delay. -/
structure StagedChange (now bridgeId : Nat) (change : ValidatorChange)
    (pre after : MultisigState) : Prop where
  active : after.activeSets.lookup bridgeId = pre.activeSets.lookup bridgeId
  version : after.activeVersion bridgeId = pre.activeVersion bridgeId
  pending : ∃ bridge waiting, pre.bridges.lookup bridgeId = some bridge ∧
    after.pendingSets.lookup bridgeId = some waiting ∧
    waiting.validators = change.apply bridge.validators ∧
    waiting.activateAt = satCount u64Max now (pre.activationDelay bridgeId)

section Changes

variable {now bridgeId other proposalId : Nat} {pre middle after : MultisigState}

theorem MultisigState.recorded_sets {bridge : Bridge} {approved : List Address}
    (different : bridgeId ≠ other) :
    SameSets bridgeId pre (pre.recorded now other bridge approved) := by
  rw [recorded, staged]
  split
  · refine ⟨lookup_insert_ne different, lookup_erase_ne different, ?_⟩
    rw [activeVersion, lookup_insert_ne different]
    rfl
  · exact ⟨rfl, lookup_insert_ne different, rfl⟩

theorem ProposalTypeRan.sets {proposalType : ProposalType}
    (ran : ProposalTypeRan now pre other proposalType middle)
    (delayed : pre.activationDelay bridgeId ≠ 0) :
    (∃ change, other = bridgeId ∧ proposalType.change = some change ∧
        StagedChange now bridgeId change pre middle) ∨
      ((other = bridgeId → proposalType.change = none) ∧ SameSets bridgeId pre middle) := by
  cases ran with
  | @changed change bridge asks has =>
    by_cases same : bridgeId = other
    · subst same
      refine .inl ⟨change, rfl, asks, ?_⟩
      have waits : (pre.putBridge bridgeId
          { bridge with validators := change.apply bridge.validators }).activationDelay
            bridgeId ≠ 0 := delayed
      rw [recorded, staged, if_neg waits]
      exact ⟨rfl, rfl, bridge, _, has, lookup_insert _, rfl, rfl⟩
    · exact .inr ⟨fun equal => absurd equal.symm same, recorded_sets same⟩
  | configured unchanging | threshold unchanging | announced unchanging =>
    exact .inr ⟨fun _ => unchanging, ⟨rfl, rfl, rfl⟩⟩

theorem Executed.sets (executed : Executed now pre other proposalId after)
    (delayed : pre.activationDelay bridgeId ≠ 0) :
    ∃ proposal, pre.proposals.lookup (other, proposalId) = some proposal ∧
      after.hasExecuted (other, proposalId) = true ∧
      ((∃ change, other = bridgeId ∧ proposal.proposalType.change = some change ∧
          StagedChange now bridgeId change pre after) ∨
        ((other = bridgeId → proposal.proposalType.change = none) ∧
          SameSets bridgeId pre after)) := by
  obtain @⟨_, proposal, middle, _, has, _, _, _, ran⟩ := executed
  refine ⟨proposal, has, hasExecuted_iff.mpr ⟨_, lookup_insert _, rfl⟩, ?_⟩
  rcases ran.sets delayed with ⟨change, same, asks, active, version, pending⟩ | ⟨quiet, same⟩
  · exact .inl ⟨change, same, asks, active, version, pending⟩
  · exact .inr ⟨quiet, same.active, same.pending, same.version⟩

end Changes

/-- The sets stored for a bridge are those intended, with the delay from the last approval. -/
structure SetsKept (bridgeId delay : Nat) (sets : ValidatorSets) (state : MultisigState) :
    Prop where
  active : ∃ active, state.activeSets.lookup bridgeId = some active ∧
    ∀ validator, validator ∈ active ↔ validator ∈ sets.active
  pending : ∀ waiting, state.pendingSets.lookup bridgeId = some waiting →
    ∃ approved approvedAt, sets.pending = some (approved, approvedAt) ∧
      (∀ validator, validator ∈ waiting.validators ↔ validator ∈ approved) ∧
      approvedAt + delay ≤ waiting.activateAt
  unstaged : state.pendingSets.lookup bridgeId = none → sets.pending = none

namespace SetsKept

variable {bridgeId delay : Nat} {sets : ValidatorSets} {pre after : MultisigState}
  {taken : ChainTransition}

theorem mem_base (kept : SetsKept bridgeId delay sets pre) (validator : Address) :
    validator ∈ pre.base bridgeId ↔ validator ∈ sets.base := by
  rw [MultisigState.base, ValidatorSets.base]
  cases waits : pre.pendingSets.lookup bridgeId with
  | none =>
    obtain ⟨active, has, members⟩ := kept.active
    rw [kept.unstaged waits, has]
    exact members validator
  | some waiting =>
    obtain ⟨approved, approvedAt, pending, members, _⟩ := kept.pending waiting waits
    rw [pending]
    exact members validator

theorem of_same (kept : SetsKept bridgeId delay sets pre)
    (same : SameSets bridgeId pre after) : SetsKept bridgeId delay sets after :=
  ⟨by rw [same.active]; exact kept.active, by rw [same.pending]; exact kept.pending,
    by rw [same.pending]; exact kept.unstaged⟩

end SetsKept

theorem ValidatorSets.next_idle {bridgeId : Nat} {sets : ValidatorSets}
    {taken : ChainTransition} (unapproved : taken.approves bridgeId = none)
    (kept : ¬ taken.Discards bridgeId) (waiting : ¬ taken.Activates bridgeId) :
    sets.next bridgeId taken = sets := by
  rw [next, unapproved]
  simp only [if_neg kept, if_neg waiting]

theorem SetsKept.approve {bridgeId delay : Nat} {sets : ValidatorSets}
    {ledger : Ledger CrossChainStore} {input : CrossChainInput}
    (kept : SetsKept bridgeId delay sets ledger.store.multisig)
    (fixed : ledger.store.multisig.activationDelay bridgeId = delay) {change : ValidatorChange}
    (approved : approves bridgeId ⟨ledger, input, chainStep input ledger⟩ = some change)
    (clean : ApprovedCleanly bridgeId delay ledger input)
    (staged : StagedChange (ledger.timestamp + input.arrival.seconds) bridgeId change
      ledger.store.multisig (chainStep input ledger).store.multisig) :
    SetsKept bridgeId delay (sets.next bridgeId ⟨ledger, input, chainStep input ledger⟩)
      (chainStep input ledger).store.multisig := by
  obtain ⟨bridge, waiting, has, written, validators, activateAt⟩ := staged.pending
  obtain ⟨fits, record⟩ := clean change approved
  obtain ⟨onward, back⟩ := record bridge has
  rw [ValidatorSets.next, approved]
  refine ⟨by rw [staged.active]; exact kept.active, fun hit waits => ?_, fun absent => ?_⟩
  · cases mem_unique written waits
    refine ⟨_, _, rfl, fun validator => ?_, ?_⟩
    · rw [validators]
      refine ValidatorChange.apply_congr (fun other different => ?_) validator
      exact ⟨fun inside => (kept.mem_base other).mp (onward other inside different),
        fun inside => back other ((kept.mem_base other).mpr inside) different⟩
    · rw [activateAt, fixed, satCount]
      exact (min_eq_left fits).ge
  · cases absent.symm.trans written

section Step

variable {bridgeId delay : Nat} {sets : ValidatorSets} {ledger next : Ledger CrossChainStore}
  {input : CrossChainInput}

/-- The step keeps the sets that should be there, and activates in time. -/
def SetsFollow (bridgeId delay : Nat) (sets : ValidatorSets) (taken : ChainTransition) :
    Prop :=
  SetsKept bridgeId delay (sets.next bridgeId taken) taken.after.store.multisig ∧
    taken.ActivatesTimely bridgeId delay sets

theorem SetsKept.idle (kept : SetsKept bridgeId delay sets ledger.store.multisig)
    (same : SameSets bridgeId ledger.store.multisig next.store.multisig)
    (unapproved : approves bridgeId ⟨ledger, input, next⟩ = none)
    (silent : ¬ ChainTransition.Returned ⟨ledger, input, next⟩ ∨
      input.call.multisig?.bind discarding ≠ some bridgeId ∧
        input.call.multisig?.bind activating ≠ some bridgeId) :
    SetsFollow bridgeId delay sets ⟨ledger, input, next⟩ := by
  have idle := @ValidatorSets.next_idle _ sets _ unapproved
    (fun discards => discards.elim
      (fun cancels => silent.elim (fun stopped => stopped cancels.1) fun other =>
        other.1 cancels.2)
      fun ⟨_, _, held, dropped⟩ => by simp_all [same.pending])
    (fun activates => silent.elim (fun stopped => stopped activates.1) fun other =>
      other.2 activates.2)
  refine ⟨?_, .inl ⟨same.active, same.version⟩⟩
  rw [idle]
  exact kept.of_same same

theorem SetsKept.discard (kept : SetsKept bridgeId delay sets ledger.store.multisig)
    (unapproved : approves bridgeId ⟨ledger, input, next⟩ = none)
    (discards : ChainTransition.Discards bridgeId ⟨ledger, input, next⟩)
    (active : next.store.multisig.activeSets = ledger.store.multisig.activeSets)
    (version : next.store.multisig.activeVersion bridgeId =
      ledger.store.multisig.activeVersion bridgeId)
    (dropped : next.store.multisig.pendingSets.lookup bridgeId = none) :
    SetsFollow bridgeId delay sets ⟨ledger, input, next⟩ := by
  have sets' : sets.next bridgeId ⟨ledger, input, next⟩ = { sets with pending := none } := by
    rw [ValidatorSets.next, unapproved]
    simp only [if_pos discards]
  refine ⟨?_, .inl ⟨congrArg (AList.lookup bridgeId) active, version⟩⟩
  rw [sets']
  refine ⟨?_, fun hit held => (by cases dropped.symm.trans held), fun _ => rfl⟩
  rw [active]
  exact kept.active

/-- A failed call of signers drops the pending set of a bridge or leaves its sets. -/
theorem SetsKept.stopped (kept : SetsKept bridgeId delay sets ledger.store.multisig)
    {env : Env} {call : MultisigCall} (calls : input.call = .multisig call)
    (failed : ¬ ChainTransition.Returned ⟨ledger, input, next⟩)
    (stopped : MultisigStopped env ledger.store.multisig call next.store.multisig) :
    SetsFollow bridgeId delay sets ⟨ledger, input, next⟩ := by
  have unapproved := @approves_of_not_executing bridgeId ⟨ledger, input, next⟩ (.inl failed)
  have bound : input.call.multisig? = some call := by rw [calls]; rfl
  generalize written : next.store.multisig = state at stopped
  cases stopped with
  | @dropped other pending waiting stale =>
    by_cases same : bridgeId = other
    · subst same
      have erased : next.store.multisig.pendingSets.lookup bridgeId = none := by
        rw [written]
        exact lookup_erase _ _
      exact kept.discard unapproved
        (.inr ⟨failed, by rw [bound]; rfl, by simp [waiting], by simp [erased]⟩) (by rw [written])
        (by rw [written]; rfl) erased
    · exact kept.idle (by rw [written]; exact ⟨rfl, lookup_erase_ne same, rfl⟩) unapproved
        (.inl failed)
  | _ => exact kept.idle (by rw [written]; exact ⟨rfl, rfl, rfl⟩) unapproved (.inl failed)

/-- An execution approves what the proposal asks for, or nothing. -/
theorem SetsKept.executed (kept : SetsKept bridgeId delay sets ledger.store.multisig)
    (pos : 0 < delay) (fixed : ledger.store.multisig.activationDelay bridgeId = delay)
    (clean : ApprovedCleanly bridgeId delay ledger input) {call : MultisigCall}
    (calls : input.call = .multisig call)
    (gave : ChainTransition.Returned ⟨ledger, input, chainStep input ledger⟩)
    {other proposalId : Nat} {first : MultisigState} {asked : GovernanceProposal}
    (executed : Executed (ledger.env input.arrival).timestamp first other proposalId
      (chainStep input ledger).store.multisig)
    (start : SameSets bridgeId ledger.store.multisig first)
    (bridges : first.bridges = ledger.store.multisig.bridges)
    (delays : first.delays = ledger.store.multisig.delays)
    (has : ledger.store.multisig.proposals.lookup (other, proposalId) = some asked)
    (type : ∀ proposal, first.proposals.lookup (other, proposalId) = some proposal →
      proposal.proposalType = asked.proposalType)
    (executing : call.executing = some (other, proposalId))
    (undiscarding : call.discarding = none) (inactive : call.activating = none) :
    SetsFollow bridgeId delay sets ⟨ledger, input, chainStep input ledger⟩ := by
  have delayed : ledger.store.multisig.activationDelay bridgeId ≠ 0 := by omega
  have bound : input.call.multisig? = some call := by rw [calls]; rfl
  have waits : first.activationDelay bridgeId =
      ledger.store.multisig.activationDelay bridgeId := by
    rw [activationDelay, delays, activationDelay]
  obtain ⟨proposal, held, marked, outcome⟩ := @Executed.sets _ bridgeId other proposalId _ _
    executed (waits ▸ delayed)
  have approves := @approves_of_executes bridgeId
    ⟨ledger, input, chainStep input ledger⟩ (other, proposalId)
    ⟨gave, by rw [bound]; exact executing, marked⟩
  rw [has] at approves
  rcases outcome with ⟨change, rfl, asks, staged⟩ | ⟨quiet, same⟩
  · rw [if_pos rfl, bind_some, ← type proposal held, asks] at approves
    have staged : StagedChange (ledger.timestamp + input.arrival.seconds) other change
        ledger.store.multisig (chainStep input ledger).store.multisig :=
      ⟨staged.active.trans start.active, staged.version.trans start.version,
        by rw [← bridges, ← waits]; exact staged.pending⟩
    exact ⟨kept.approve fixed approves clean staged, .inl ⟨staged.active, staged.version⟩⟩
  · refine kept.idle ⟨same.active.trans start.active, same.pending.trans start.pending,
      same.version.trans start.version⟩ ?_ (.inr ⟨?_, ?_⟩)
    · rw [approves]
      by_cases this : other = bridgeId
      · rw [if_pos this, bind_some, ← type proposal held, quiet this]
      · exact if_neg this
    · rw [bound, bind_some, undiscarding]
      exact nofun
    · rw [bound, bind_some, inactive]
      exact nofun

theorem SetsKept.called (kept : SetsKept bridgeId delay sets ledger.store.multisig)
    (pos : 0 < delay) (fixed : ledger.store.multisig.activationDelay bridgeId = delay)
    (clean : ApprovedCleanly bridgeId delay ledger input) {call : MultisigCall}
    (calls : input.call = .multisig call)
    (gave : ChainTransition.Returned ⟨ledger, input, chainStep input ledger⟩)
    (effect : MultisigEffect (ledger.env input.arrival) ledger.store.multisig call
      (chainStep input ledger).store.multisig) :
    SetsFollow bridgeId delay sets ⟨ledger, input, chainStep input ledger⟩ := by
  have bound : input.call.multisig? = some call := by rw [calls]; rfl
  have executes {other proposalId : Nat} {first : MultisigState} {asked : GovernanceProposal} :=
    @executed bridgeId delay sets ledger input kept pos fixed clean call calls gave other
      proposalId first asked
  have idle (same : SameSets bridgeId ledger.store.multisig
        (chainStep input ledger).store.multisig)
      (unexecuting : call.executing = none) (undiscarding : call.discarding ≠ some bridgeId)
      (inactive : call.activating ≠ some bridgeId) :
      SetsFollow bridgeId delay sets ⟨ledger, input, chainStep input ledger⟩ :=
    kept.idle same (approves_of_not_executing (.inr (by rw [bound]; exact unexecuting)))
      (.inr (by rw [bound]; exact ⟨undiscarding, inactive⟩))
  obtain ⟨after, written⟩ : ∃ after, (chainStep input ledger).store.multisig = after :=
    ⟨_, rfl⟩
  rw [written] at effect executes idle
  cases effect with
  | create type description made | rotate signers count made =>
    obtain @⟨_⟩ := made
    exact idle ⟨rfl, rfl, rfl⟩ rfl (by simp [discarding])
      (by simp [activating])
  | @sign other proposalId signer governance proposal _ governed has mem fresh pending
      executed =>
    rcases executed with rfl | executed
    · refine kept.idle ⟨by rw [written]; rfl, by rw [written]; rfl, by rw [written]; rfl⟩
        (approves_of_unmarked (by rw [bound]; rfl) ?_) (.inr ?_)
      · show (chainStep input ledger).store.multisig.hasExecuted _ ≠ true
        rw [written, Ne, hasExecuted_iff]
        rintro ⟨hit, held, executed⟩
        cases mem_unique (lookup_insert _) held
        simp [GovernanceProposal.signedBy, pending] at executed
      · simp [bound, discarding, activating]
    · refine executes executed ⟨rfl, rfl, rfl⟩ rfl rfl has (fun hit held => ?_) rfl rfl rfl
      cases mem_unique (lookup_insert _) held
      rfl
  | execute executed | emergencyExecute executed =>
    have kept := executed
    obtain @⟨_, proposal, _, _, has, _⟩ := kept
    exact executes executed ⟨rfl, rfl, rfl⟩ rfl rfl has
      (fun hit held => by rw [mem_unique has held]) rfl rfl rfl
  | cancel | addSigner | removeSigner | setDelay =>
    exact idle ⟨rfl, rfl, rfl⟩ rfl (by simp [discarding])
      (by simp [activating])
  | @activate other waiting waits due newer =>
    by_cases same : bridgeId = other
    · subst same
      obtain ⟨approved, approvedAt, pending, members, late⟩ := kept.pending waiting waits
      have activates : ChainTransition.Activates bridgeId
          ⟨ledger, input, chainStep input ledger⟩ := ⟨gave, by rw [bound]; rfl⟩
      have sets' : sets.next bridgeId ⟨ledger, input, chainStep input ledger⟩ =
          ⟨approved, none⟩ := by
        rw [ValidatorSets.next, approves_of_not_executing (.inr (by rw [bound]; rfl))]
        simp only [if_pos activates, ValidatorSets.base, pending]
        refine if_neg fun discards => ?_
        rcases discards with ⟨_, discarding⟩ | ⟨failed, _⟩
        · rw [bound] at discarding
          cases discarding
        · exact failed gave
      refine ⟨?_, .inr ⟨activates, ⟨approved, approvedAt, pending, late.trans due⟩, ?_⟩⟩
      · rw [sets']
        show SetsKept _ _ _ (chainStep input ledger).store.multisig
        rw [written]
        exact ⟨⟨_, lookup_insert _, members⟩,
          fun hit held => (by cases (lookup_erase _ _).symm.trans held), fun _ => rfl⟩
      · show _ < (chainStep input ledger).store.multisig.activeVersion bridgeId
        rw [written]
        refine newer.trans_eq ?_
        rw [activeVersion, lookup_insert]
        rfl
    · refine idle ⟨lookup_insert_ne same, lookup_erase_ne same, ?_⟩ rfl
        (by simp [discarding]) (by simp [activating, Ne.symm same])
      rw [activeVersion, lookup_insert_ne same]
      rfl
  | @cancelPending other caller =>
    by_cases same : bridgeId = other
    · subst same
      have discards : ChainTransition.Discards bridgeId
          ⟨ledger, input, chainStep input ledger⟩ := .inl ⟨gave, by rw [bound]; rfl⟩
      exact kept.discard (approves_of_not_executing (.inr (by rw [bound]; rfl))) discards
        (by rw [written]) (by rw [written]; rfl) (by rw [written]; exact lookup_erase _ _)
    · exact idle ⟨rfl, lookup_erase_ne same, rfl⟩ rfl
        (by simp [discarding, Ne.symm same]) (by simp [activating])

theorem SetsKept.step (kept : SetsKept bridgeId delay sets ledger.store.multisig)
    (pos : 0 < delay) (fixed : ledger.store.multisig.activationDelay bridgeId = delay)
    (clean : ApprovedCleanly bridgeId delay ledger input) :
    SetsFollow bridgeId delay sets ⟨ledger, input, chainStep input ledger⟩ := by
  have changed := ChainTransition.cases ledger input
  have called := @SetsKept.called bridgeId delay sets ledger input kept pos fixed clean
  obtain ⟨arrival, call⟩ := input
  obtain ⟨store, written⟩ :
      ∃ store, (chainStep ⟨arrival, call⟩ ledger).store = store := ⟨_, rfl⟩
  rcases changed with ⟨gave, effect⟩ | ⟨failed, stopped⟩
  · rw [written] at effect
    cases effect with
    | multisig effect => exact called rfl gave (by rw [written]; exact effect)
    | _ =>
      exact kept.idle (by rw [written]; exact ⟨rfl, rfl, rfl⟩)
        (approves_of_not_executing (.inr rfl)) (.inr ⟨by simp [CrossChainCall.multisig?],
          by simp [CrossChainCall.multisig?]⟩)
  · rw [written] at stopped
    cases stopped with
    | multisig stopped => exact kept.stopped rfl failed (by rw [written]; exact stopped)
    | _ =>
      exact kept.idle (by rw [written]; exact ⟨rfl, rfl, rfl⟩)
        (approves_of_not_executing (.inl failed)) (.inl failed)

end Step

/-- With a fixed positive delay, in every run from an active set whose approvals start from a
clean record: the active set is the one that should attest, in which a discarded change
counts only when it is approved again, and it changes only by activations, at least the
delay after the last approval and under higher versions. -/
theorem validatorSets_activated (governances : Table Nat BridgeGovernance)
    (bridges : Table Nat Bridge) (activeSets : Table Nat (List Address))
    (versions delays : Table Nat Nat) (timestamp sequence : Nat) (bridgeId delay : Nat)
    (initial : List Address) (initialized : activeSets.lookup bridgeId = some initial)
    (pos : 0 < delay) (inputs : List CrossChainInput) :
    let start := crossChainStart governances bridges activeSets versions delays timestamp sequence
    let taken := trace chainStep start inputs
    (∀ step ∈ taken, step.pre.store.multisig.activationDelay bridgeId = delay ∧
      ApprovedCleanly bridgeId delay step.pre step.input) →
    (∃ active, (final chainStep start inputs).store.multisig.activeSets.lookup bridgeId =
        some active ∧
      ∀ validator, validator ∈ active ↔
        validator ∈ (intendedSets bridgeId initial taken).active) ∧
    ∀ prior step later, taken = prior ++ step :: later →
      ChainTransition.ActivatesTimely bridgeId delay
        (intendedSets bridgeId initial prior) step := by
  intro start taken clean
  have kept := history_invariant chainStep
    (fun past ledger =>
      SetsKept bridgeId delay (intendedSets bridgeId initial past) ledger.store.multisig ∧
        ∀ prior step later, past = prior ++ step :: later →
          ChainTransition.ActivatesTimely bridgeId delay
            (intendedSets bridgeId initial prior) step)
    (fun ledger input => ledger.store.multisig.activationDelay bridgeId = delay ∧
      ApprovedCleanly bridgeId delay ledger input)
    (fun past ledger input guard kept => ?_) start
    ⟨⟨⟨initial, initialized, fun _ => Iff.rfl⟩, fun _ held => (by cases held), fun _ => rfl⟩,
      fun _ _ _ split => absurd split (by simp)⟩ inputs clean
  · exact ⟨kept.1.active, kept.2⟩
  · obtain ⟨follows, timely⟩ := kept.1.step pos guard.1 guard.2
    refine ⟨?_, fun prior step later split => ?_⟩
    · rw [intendedSets, List.foldl_append]
      exact follows
    · rcases place_concat split with ⟨rfl, rfl, _⟩ | ⟨rest, _, inside⟩
      · exact timely
      · exact kept.2 prior step rest inside

/-- A bridge of two validators with two of three signers, whose sets wait for ten seconds. -/
def delayedBridge : Ledger CrossChainStore :=
  crossChainStart (AList.insert 1 ⟨[1, 2, 3], 2, 1⟩ ∅)
    (AList.insert 1 ⟨[7, 8], 1, .active, ⟨1000, 1000, 1, 0⟩⟩ ∅) (AList.insert 1 [7, 8] ∅)
    (AList.insert 1 1 ∅) (AList.insert 1 10 ∅) 0 0

def approvedAddition (proposalId : Nat) (validator : Address) : List CrossChainInput :=
  [⟨⟨0, 0, [1]⟩, .multisig (.create 1 1 (.addValidator validator) "")⟩,
    ⟨⟨0, 0, [2]⟩, .multisig (.sign 1 proposalId 2)⟩]

def discardedAdditionRun : List CrossChainInput :=
  approvedAddition 1 9 ++ ⟨⟨0, 0, [3]⟩, .multisig (.cancelPending 1 3)⟩ ::
    approvedAddition 2 6 ++ [⟨⟨10, 1, []⟩, .multisig (.activate 1)⟩]

/-- The discarded addition comes back with the next approval. -/
theorem discarded_addition_returns :
    ¬ ∀ inputs, (∀ step ∈ trace chainStep delayedBridge inputs,
        step.pre.store.multisig.activationDelay 1 = 10) →
      ∃ active, (final chainStep delayedBridge inputs).store.multisig.activeSets.lookup 1 =
          some active ∧ ∀ validator, validator ∈ active ↔ validator ∈
          (intendedSets 1 [7, 8] (trace chainStep delayedBridge inputs)).active := by
  intro every
  obtain ⟨active, has, members⟩ := every discardedAdditionRun (by decide)
  obtain rfl : [7, 8, 9, 6] = active := Option.some.inj has
  exact absurd ((members 9).mp (by decide)) (by decide)

/-- An addition that is not discarded is activated after the delay. -/
theorem approvedAddition_activated : ChainTransition.ActivatesTimely 1 10
      (intendedSets 1 [7, 8] (trace chainStep delayedBridge (approvedAddition 1 9)))
      ⟨final chainStep delayedBridge (approvedAddition 1 9),
        ⟨⟨10, 1, []⟩, .multisig (.activate 1)⟩, final chainStep delayedBridge
          (approvedAddition 1 9 ++ [⟨⟨10, 1, []⟩, .multisig (.activate 1)⟩])⟩ :=
  (validatorSets_activated (AList.insert 1 ⟨[1, 2, 3], 2, 1⟩ ∅)
    (AList.insert 1 ⟨[7, 8], 1, .active, ⟨1000, 1000, 1, 0⟩⟩ ∅) (AList.insert 1 [7, 8] ∅)
    (AList.insert 1 1 ∅) (AList.insert 1 10 ∅) 0 0 1 10 [7, 8] rfl (by decide)
    (approvedAddition 1 9 ++ [⟨⟨10, 1, []⟩, .multisig (.activate 1)⟩]) (by decide)).2 _ _ [] rfl

end StellarSwipe.CrossChain
