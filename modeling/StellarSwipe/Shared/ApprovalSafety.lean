import StellarSwipe.Library.Revisions
import StellarSwipe.Shared.Multisig

/-!
# What an executed proposal was approved by

A run takes configuration changes, proposals, approvals and executions in any order.
-/

namespace StellarSwipe.Multisig

open Program Runs Table List

/-- The operations of the module. -/
inductive Action where
  | setConfig (config : MultisigConfig)
  | clearConfig
  | propose (proposer : Address) (payload : Bytes)
  | approve (caller : Address) (id : Nat)
  | execute (id : Nat)
deriving DecidableEq

abbrev Input := Env × Action

def perform (env : Env) : Action → Program Storage MultisigError Unit
  | .setConfig config => setConfig config
  | .clearConfig => clearConfig
  | .propose proposer payload => discard (propose env proposer payload)
  | .approve caller id => discard (approve env caller id)
  | .execute id => execute env id

/-- One invocation: its final storage, or the initial one when it is refused. -/
def step (input : Input) (store : Storage) : Storage :=
  invoke (perform input.1 input.2) store

/-- The approvals a proposal carries, none when it does not exist. -/
def approvals (store : Storage) (id : Nat) : List Address :=
  match store.proposals.lookup id with
  | some proposal => proposal.approvals
  | none => []

def Executes (id : Nat) (taken : Transition Storage Input) : Prop :=
  taken.input.2 = .execute id ∧ Accepts (perform taken.input.1 taken.input.2) taken.pre
deriving Decidable

/-- The transition adds the approval, and its author is a signer at that moment. -/
def RecordsApproval (id : Nat) (approver : Address) (taken : Transition Storage Input) : Prop :=
  approver ∉ approvals taken.pre id ∧ approver ∈ approvals taken.after id ∧
    ∃ config, taken.pre.config = some config ∧ approver ∈ config.signers

/-- What one invocation can do, with what it has checked. -/
inductive Outcome (input : Input) (pre : Storage) : Storage → Prop
  | refused (rejected : ¬ Accepts (perform input.1 input.2) pre) : Outcome input pre pre
  | configured (config : Option MultisigConfig) (other : ∀ id, input.2 ≠ .execute id) :
      Outcome input pre { pre with config }
  | proposed (config : MultisigConfig) (proposal : Proposal) (proposer : Address)
      (other : ∀ id, input.2 ≠ .execute id) (inForce : pre.config = some config)
      (registered : proposer ∈ config.signers) (own : proposal.approvals = [proposer]) :
      Outcome input pre { pre with
        nextId := some (pre.upcomingId + 1)
        proposals := pre.proposals.insert pre.upcomingId proposal }
  | approved (config : MultisigConfig) (proposal : Proposal) (id : Nat) (caller : Address)
      (other : ∀ id, input.2 ≠ .execute id) (inForce : pre.config = some config)
      (registered : caller ∈ config.signers) (has : pre.proposals.lookup id = some proposal)
      (pending : proposal.status = .pending) (fresh : caller ∉ proposal.approvals) :
      Outcome input pre { pre with
        proposals := pre.proposals.insert id
          { proposal with approvals := proposal.approvals ++ [caller] } }
  | executed (proposal : Proposal) (id : Nat) (execution : input.2 = .execute id)
      (has : pre.proposals.lookup id = some proposal)
      (executable : Executable input.1 pre proposal) :
      Outcome input pre { pre with
        proposals := pre.proposals.insert id { proposal with status := .executed } }

theorem perform_outcome (env : Env) (action : Action) (pre : Storage) :
    wlp (perform env action) (fun _ after => Outcome (env, action) pre after) pre := by
  cases action with
  | setConfig config =>
    refine wp_then (setConfig_spec config pre) ?_
    rintro _ _ ⟨_, rfl⟩
    exact .configured _ (by simp)
  | clearConfig => exact .configured _ (by simp)
  | propose proposer payload =>
    refine (wp_discard _).mpr (wp_then (propose_spec env proposer payload pre) ?_)
    rintro _ _ ⟨rfl, config, proposal, inForce, registered, own, rfl⟩
    exact .proposed config proposal proposer (by simp) inForce registered own
  | approve caller id =>
    refine (wp_discard _).mpr (wp_then (approve_spec env caller id pre) ?_)
    rintro _ _ ⟨config, proposal, inForce, registered, has, pending, fresh, rfl⟩
    exact .approved config proposal id caller (by simp) inForce registered has pending fresh
  | execute id =>
    refine wp_then (execute_spec env id pre) ?_
    rintro _ _ ⟨proposal, has, executable, rfl⟩
    exact .executed proposal id rfl has executable

theorem step_outcome (input : Input) (pre : Storage) : Outcome input pre (step input pre) := by
  by_cases admitted : Accepts (perform input.1 input.2) pre
  · obtain ⟨value, after, gave⟩ := admitted
    rw [step, invoke_of_ok gave]
    exact wp_ok (perform_outcome input.1 input.2 pre) gave
  · rw [step, invoke_of_rejected admitted]
    exact .refused admitted

theorem approvals_insert (store : Storage) (nextId : Option Nat) (id other : Nat)
    (proposal : Proposal) :
    approvals { store with nextId, proposals := store.proposals.insert id proposal }
      other = if other = id then proposal.approvals else approvals store other := by
  simp only [approvals, lookup_insert]
  by_cases same : other = id <;> simp [same]

theorem approvals_of_stored {store : Storage} {id : Nat} {proposal : Proposal}
    (has : store.proposals.lookup id = some proposal) :
    approvals store id = proposal.approvals := by
  simp only [approvals, has]

/-- The accounting of stored approvals and of executions by the transitions taken. -/
structure Accounted (past : List (Transition Storage Input)) (store : Storage) : Prop where
  assigned : ∀ id proposal, store.proposals.lookup id = some proposal → id < store.upcomingId
  distinct : ∀ id, (approvals store id).Nodup
  recorded : ∀ id approver, approver ∈ approvals store id →
    ∃ taken ∈ past, RecordsApproval id approver taken
  once : ∀ id, past.countP (fun taken => Executes id taken) ≤ 1
  marked : ∀ id taken, taken ∈ past → Executes id taken →
    ∃ proposal, store.proposals.lookup id = some proposal ∧ proposal.status = .executed

theorem accounted_empty : Accounted [] Storage.empty := by
  constructor <;> simp [approvals, Storage.empty]

section Steps

variable {past : List (Transition Storage Input)} {input : Input} {pre after : Storage}
  {taken : Transition Storage Input}

theorem recorded_later {id : Nat} {approver : Address}
    (recorded : ∃ prior ∈ past, RecordsApproval id approver prior) :
    ∃ prior ∈ past ++ [taken], RecordsApproval id approver prior := by
  obtain ⟨prior, mem, records⟩ := recorded
  exact ⟨prior, mem_append_left _ mem, records⟩

theorem recorded_now {id : Nat} {approver : Address} (records : RecordsApproval id approver taken) :
    ∃ prior ∈ past ++ [taken], RecordsApproval id approver prior :=
  ⟨taken, mem_append_right _ (mem_singleton_self _), records⟩

theorem count_concat (taken : Transition Storage Input) (id : Nat) :
    (past ++ [taken]).countP (fun taken => Executes id taken) =
      past.countP (fun taken => Executes id taken) + if Executes id taken then 1 else 0 := by
  simp [countP_append, countP_cons]

/-- A transition that executes nothing keeps the accounting of executions, as long
as executed proposals stay stored. -/
theorem accounted_quiet (accounted : Accounted past pre)
    (quiet : ∀ id, ¬ Executes id ⟨pre, input, after⟩)
    (kept : ∀ id proposal, pre.proposals.lookup id = some proposal →
      proposal.status = .executed → after.proposals.lookup id = some proposal)
    (assigned : ∀ id proposal, after.proposals.lookup id = some proposal → id < after.upcomingId)
    (distinct : ∀ id, (approvals after id).Nodup)
    (recorded : ∀ id approver, approver ∈ approvals after id →
      approver ∈ approvals pre id ∨ RecordsApproval id approver ⟨pre, input, after⟩) :
    Accounted (past ++ [⟨pre, input, after⟩]) after := by
  refine ⟨assigned, distinct, ?_, ?_, ?_⟩
  · intro id approver given
    rcases recorded id approver given with prior | now
    · exact recorded_later (accounted.recorded id approver prior)
    · exact recorded_now now
  · intro id
    simpa [count_concat, quiet id] using accounted.once id
  · intro id prior mem executes
    rcases mem_snoc.mp mem with earlierMember | rfl
    · obtain ⟨proposal, has, executed⟩ := accounted.marked id prior earlierMember executes
      exact ⟨proposal, kept id proposal has executed, executed⟩
    · exact absurd executes (quiet id)

variable {proposal : Proposal} {config : MultisigConfig}

/-- A new proposal takes an unused identifier, so it disturbs no earlier one. -/
theorem accounted_proposed {proposer : Address}
    (accounted : Accounted past pre) (other : ∀ id, input.2 ≠ .execute id)
    (inForce : pre.config = some config) (registered : proposer ∈ config.signers)
    (own : proposal.approvals = [proposer]) (created : after = { pre with
      nextId := some (pre.upcomingId + 1)
      proposals := pre.proposals.insert pre.upcomingId proposal }) :
    Accounted (past ++ [⟨pre, input, after⟩]) after := by
  have unused : pre.proposals.lookup pre.upcomingId = none := by
    cases hit : pre.proposals.lookup pre.upcomingId with
    | none => rfl
    | some has => exact absurd (accounted.assigned _ _ hit) (Nat.lt_irrefl _)
  have carried (id : Nat) : approvals after id =
      if id = pre.upcomingId then [proposer] else approvals pre id := by
    rw [created, approvals_insert, own]
  have lookups (id : Nat) : after.proposals.lookup id =
      if id = pre.upcomingId then some proposal else pre.proposals.lookup id := by
    rw [created, lookup_insert]
  refine accounted_quiet accounted (fun id executes => other id executes.1) ?_ ?_ ?_ ?_
  · intro id prior has _
    rw [lookups, if_neg, has]
    rintro rfl
    simp [unused] at has
  · intro id has hit
    have upcoming : after.upcomingId = pre.upcomingId + 1 := by rw [created]; rfl
    rw [lookups] at hit
    split at hit
    · omega
    · exact upcoming ▸ Nat.lt_succ_of_lt (accounted.assigned id has hit)
  · intro id
    rw [carried]
    split
    · exact nodup_singleton _
    · exact accounted.distinct id
  · intro id approver given
    by_cases same : id = pre.upcomingId
    · subst same
      rw [carried, if_pos rfl, mem_singleton] at given
      subst given
      refine Or.inr ⟨?_, ?_, config, inForce, registered⟩
      · simp [approvals, unused]
      · simp [carried]
    · rw [carried, if_neg same] at given
      exact Or.inl given

/-- A new approval is added to one pending proposal, whose approvals stay distinct. -/
theorem accounted_approved {target : Nat}
    {caller : Address} (accounted : Accounted past pre) (other : ∀ id, input.2 ≠ .execute id)
    (inForce : pre.config = some config) (registered : caller ∈ config.signers)
    (has : pre.proposals.lookup target = some proposal)
    (pending : proposal.status = .pending) (fresh : caller ∉ proposal.approvals)
    (extended : after = { pre with
      proposals := pre.proposals.insert target
        { proposal with approvals := proposal.approvals ++ [caller] } }) :
    Accounted (past ++ [⟨pre, input, after⟩]) after := by
  have given := approvals_of_stored has
  have carried (id : Nat) : approvals after id =
      if id = target then proposal.approvals ++ [caller] else approvals pre id := by
    rw [extended, approvals_insert pre pre.nextId]
  have lookups (id : Nat) : after.proposals.lookup id = if id = target then
      some { proposal with approvals := proposal.approvals ++ [caller] }
      else pre.proposals.lookup id := by
    rw [extended, lookup_insert]
  have upcoming : after.upcomingId = pre.upcomingId := by rw [extended]; rfl
  refine accounted_quiet accounted (fun id executes => other id executes.1) ?_ ?_ ?_ ?_
  · intro id prior hit executed
    rw [lookups, if_neg, hit]
    rintro rfl
    obtain rfl : proposal = prior := Option.mem_unique has hit
    simp [pending] at executed
  · intro id prior hit
    rw [lookups] at hit
    rw [upcoming]
    split at hit
    next same => exact same ▸ accounted.assigned target proposal has
    next => exact accounted.assigned id prior hit
  · intro id
    rw [carried]
    split
    · have distinct := accounted.distinct target
      rw [given] at distinct
      refine List.nodup_append.mpr ⟨distinct, nodup_singleton _, ?_⟩
      rintro approver mem _ last rfl
      exact fresh (List.mem_singleton.mp last ▸ mem)
    · exact accounted.distinct id
  · intro id approver mem
    by_cases same : id = target
    · subst same
      rw [carried, if_pos rfl] at mem
      rcases mem_snoc.mp mem with prior | rfl
      · exact Or.inl (given ▸ prior)
      · exact Or.inr ⟨given ▸ fresh, by simp [carried], config, inForce, registered⟩
    · rw [carried, if_neg same] at mem
      exact Or.inl mem

/-- An execution marks a proposal it found unmarked, so no earlier transition had
executed it. -/
theorem accounted_executed {target : Nat}
    (accounted : Accounted past pre) (execution : input.2 = .execute target)
    (has : pre.proposals.lookup target = some proposal)
    (pending : proposal.status = .pending) (marks : after = { pre with
      proposals := pre.proposals.insert target { proposal with status := .executed } }) :
    Accounted (past ++ [⟨pre, input, after⟩]) after := by
  have carried (id : Nat) : approvals after id = approvals pre id := by
    rw [marks, approvals_insert pre pre.nextId]
    split
    next same => rw [same, approvals_of_stored has]
    next => rfl
  have lookups (id : Nat) : after.proposals.lookup id = if id = target then
      some { proposal with status := .executed } else pre.proposals.lookup id := by
    rw [marks, lookup_insert]
  have unexecuted : ∀ prior ∈ past, ¬ Executes target prior := by
    intro prior mem executes
    obtain ⟨hit, lookup, executed⟩ := accounted.marked target prior mem executes
    obtain rfl : proposal = hit := Option.mem_unique has lookup
    simp [pending] at executed
  have onlyTarget (id : Nat) (executes : Executes id ⟨pre, input, after⟩) : id = target := by
    have same := executes.1.symm.trans execution
    simpa using same
  refine ⟨?_, ?_, ?_, ?_, ?_⟩
  · intro id hit lookup
    have upcoming : after.upcomingId = pre.upcomingId := by rw [marks]; rfl
    rw [lookups] at lookup
    rw [upcoming]
    split at lookup
    next same => exact same ▸ accounted.assigned target proposal has
    next => exact accounted.assigned id hit lookup
  · intro id
    exact carried id ▸ accounted.distinct id
  · intro id approver given
    exact recorded_later (accounted.recorded id approver (carried id ▸ given))
  · intro id
    rw [count_concat]
    by_cases executes : Executes id ⟨pre, input, after⟩
    · obtain rfl := onlyTarget id executes
      have none : past.countP (fun taken => Executes id taken) = 0 := by
        simpa [countP_eq_zero] using unexecuted
      rw [none]
      split <;> omega
    · simpa [executes] using accounted.once id
  · intro id prior mem executes
    by_cases same : id = target
    · exact ⟨_, by rw [lookups, if_pos same], rfl⟩
    · rcases mem_snoc.mp mem with earlierMember | rfl
      · rw [lookups, if_neg same]
        exact accounted.marked id prior earlierMember executes
      · exact absurd (onlyTarget id executes) same

/-- The accounting survives every step. The cases are the outcomes of a step. -/
theorem accounted_step (input : Input) (pre : Storage) (accounted : Accounted past pre) :
    Accounted (past ++ [⟨pre, input, step input pre⟩]) (step input pre) := by
  have outcome := step_outcome input pre
  generalize step input pre = after at outcome ⊢
  cases outcome with
  | refused rejected =>
    exact accounted_quiet accounted (fun _ executes => rejected executes.2)
      (fun _ _ has _ => has) accounted.assigned accounted.distinct
      (fun _ _ given => Or.inl given)
  | configured config other =>
    exact accounted_quiet accounted (fun id executes => other id executes.1)
      (fun _ _ has _ => has) accounted.assigned accounted.distinct
      (fun _ _ given => Or.inl given)
  | proposed config proposal proposer other inForce registered own =>
    exact accounted_proposed accounted other inForce registered own rfl
  | approved config proposal target caller other inForce registered has pending fresh =>
    exact accounted_approved accounted other inForce registered has pending fresh rfl
  | executed proposal target execution has executable =>
    exact accounted_executed accounted execution has executable.pending rfl

end Steps

theorem accounted_run (inputs : List Input) :
    Accounted (trace step Storage.empty inputs) (final step Storage.empty inputs) :=
  history_invariant step Accounted (fun _ _ => True)
    (fun _ state input _ accounted => accounted_step input state accounted)
    Storage.empty accounted_empty inputs (fun _ _ => trivial)

/-- What the module guarantees of a proposal at the moment it is executed: the
threshold then in force is met by distinct addresses, each of which was a signer
when its approval was recorded, and the proposal has not expired. -/
def Sanctioned (past : List (Transition Storage Input)) (store : Storage) (env : Env) (id : Nat) :
    Prop :=
  ∃ config proposal, store.config = some config ∧ store.proposals.lookup id = some proposal ∧
    proposal.status = .pending ∧ env.timestamp ≤ proposal.expiresAt ∧
    config.threshold ≤ proposal.approvals.length ∧ proposal.approvals.Nodup ∧
    ∀ approver ∈ proposal.approvals, ∃ prior ∈ past, RecordsApproval id approver prior

/-- Every execution of every run is sanctioned, and no proposal is executed twice. -/
theorem executions_sanctioned (inputs : List Input) :
    (∀ id, (trace step Storage.empty inputs).countP (fun taken => Executes id taken) ≤ 1) ∧
    ∀ prior env id later, inputs = prior ++ (env, Action.execute id) :: later →
      Accepts (perform env (.execute id)) (final step Storage.empty prior) →
      Sanctioned (trace step Storage.empty prior) (final step Storage.empty prior)
        env id := by
  refine ⟨(accounted_run inputs).once, ?_⟩
  rintro prior env id later _ ⟨value, after, gave⟩
  have accounted := accounted_run prior
  obtain ⟨proposal, has, executable, _⟩ := wp_ok (execute_spec env id _) gave
  obtain ⟨config, inForce, enough⟩ := executable.approved
  have carried := approvals_of_stored has
  exact ⟨config, proposal, inForce, has, executable.pending, executable.unexpired, enough,
    carried ▸ accounted.distinct id,
    fun approver given => accounted.recorded id approver (carried ▸ given)⟩

/-- The thresholds and signers of two successive configurations: the second keeps
one signer of the first and admits two others. -/
def beforeRotation : MultisigConfig := ⟨[1, 2, 3], 2, 0⟩

def afterRotation : MultisigConfig := ⟨[3, 4, 5], 2, 0⟩

/-- A proposal is made and approved, and then both its approvers are replaced. -/
def rotationRun : List Input :=
  [(.at 0 0 [], .setConfig beforeRotation), (.at 0 0 [], .propose 1 []),
    (.at 0 0 [], .approve 2 1), (.at 0 0 [], .setConfig afterRotation)]

def currentApprovals (store : Storage) (id : Nat) : List Address :=
  (approvals store id).filter fun approver =>
    store.config.any fun config => decide (approver ∈ config.signers)

/-- Approvals of signers who have left are still counted: an execution need not be
approved by the current threshold of current signers. -/
theorem departed_signers_still_counted :
    ¬ ∀ prior env id, Accepts (perform env (.execute id)) (final step Storage.empty prior) →
      ∀ config, (final step Storage.empty prior).config = some config →
        config.threshold ≤ (currentApprovals (final step Storage.empty prior) id).length := by
  intro every
  have accepted : Accepts (perform (.at 1 1 []) (.execute 1))
      (final step Storage.empty rotationRun) := by decide
  have enough := every rotationRun (.at 1 1 []) 1 accepted afterRotation (by decide)
  exact absurd enough (by decide)

/-- The rotated run's execution is sanctioned by the approvals recorded before it. -/
theorem rotated_execution_sanctioned :
    Sanctioned (trace step Storage.empty rotationRun) (final step Storage.empty rotationRun)
      (.at 1 1 []) 1 :=
  (executions_sanctioned (rotationRun ++ [(.at 1 1 [], .execute 1)])).2 rotationRun _ 1 [] rfl
    (by decide)

/-- The same proposal later: it only gains approvals, and is done with once executed. -/
abbrev Proposal.Continues : Proposal → Proposal → Prop :=
  Revises (fun proposal => { proposal with approvals := [], status := .pending })
    Proposal.approvals (· <+: ·) (·.status = .executed)

theorem continues_step (input : Input) {pre : Storage} (assigned : ∀ id proposal,
    pre.proposals.lookup id = some proposal → id < pre.upcomingId) :
    Continued Proposal.Continues pre.proposals (step input pre).proposals := by
  have outcome := step_outcome input pre
  generalize step input pre = after at outcome ⊢
  cases outcome with
  | refused | configured => exact .refl _
  | proposed =>
    exact continued_insert fun _ hit => absurd (assigned _ _ hit) (Nat.lt_irrefl _)
  | approved config proposal id caller _ _ _ has pending fresh =>
    refine continued_insert fun _ hit => Option.mem_unique has hit ▸
      ⟨rfl, prefix_append _ _, fun ended => ?_⟩
    cases pending.symm.trans ended
  | executed proposal id _ has executable =>
    refine continued_insert fun _ hit => Option.mem_unique has hit ▸ ⟨rfl, prefix_rfl,
      fun ended => ?_⟩
    cases executable.pending.symm.trans ended

/-- However the module is run and run on, every proposal stays on record as the same one. -/
theorem proposals_stay_on_record (inputs later : List Input) :
    let reached := final step .empty inputs
    Continued Proposal.Continues reached.proposals (final step reached later).proposals := by
  have run := continued_run step (·.proposals) (fun store => ∃ past, Accounted past store)
    fun pre input ⟨_, accounted⟩ => ⟨⟨_, accounted_step input pre accounted⟩,
      continues_step input accounted.assigned⟩
  exact (run _ (run .empty ⟨[], accounted_empty⟩ inputs).1 later).2

end StellarSwipe.Multisig
