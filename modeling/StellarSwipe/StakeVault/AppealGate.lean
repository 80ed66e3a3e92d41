import StellarSwipe.Library.Revisions
import StellarSwipe.StakeVault.Effects

/-!
# Who decides appeals under a multi-sig configuration

Once a multi-sig configuration is set, `resolveAppeal` gives way to the execution of an approved
proposal, and no other entry point touches an appeal's status except `batchResolveAppeal`, which
asks for the administrator alone.
-/

namespace StellarSwipe.StakeVault

open Program Runs Table World

/-- An appeal has been filed and not yet decided. -/
def PendingAppeal (world : World) (slashId : Nat) : Prop :=
  ∃ appeal, world.vault.slashing.slashAppeal.lookup slashId = some appeal ∧ appeal.status = .pending

instance (world : World) (slashId : Nat) : Decidable (PendingAppeal world slashId) :=
  decidable_of_iff ((world.vault.slashing.slashAppeal.lookup slashId).any
    fun appeal => appeal.status = .pending) (by simp [PendingAppeal, Option.any_eq_true])

/-- The call executes a proposal that has reached its threshold and whose payload
resolves the appeal. -/
def Sanctioned (input : Input) (world : World) (slashId : Nat) : Prop :=
  ∃ caller proposalId proposal, input.2 = .executeAction caller proposalId ∧
    world.vault.multisig.proposals.lookup proposalId = some proposal ∧
    Multisig.Executable input.1 world.vault.multisig proposal ∧
    proposal.payload.head?.bind Action.ofTag = some .resolveAppeal ∧
    payloadNumber proposal.payload = slashId

def ResolvesInBatch (input : Input) (world : World) : Prop :=
  ∃ slashIds upholds, input.2 = .batchResolveAppeal slashIds upholds ∧
    BatchAdmitted input.1 world slashIds upholds ∧
    ∃ slashId ∈ slashIds, ∃ token record appeal, Resolvable world slashId token record appeal

/-- What a step does to the appeals that were pending before it: each stays pending,
or its resolution was sanctioned, unless no configuration was set or a batch resolved it. -/
structure Gated (input : Input) (pre after : World) : Prop where
  free : after.vault.activity.executionLock = false
  decided : pre.vault.multisig.config ≠ none → ¬ ResolvesInBatch input pre →
    ∀ slashId, PendingAppeal pre slashId →
      PendingAppeal after slashId ∨ Sanctioned input pre slashId

section Steps

variable {env : Env} {call : Call} {pre after : World}

theorem pendingAppeal_congr {slashId : Nat}
    (same : after.vault.slashing.slashAppeal = pre.vault.slashing.slashAppeal)
    (pending : PendingAppeal pre slashId) : PendingAppeal after slashId := by
  simpa only [PendingAppeal, same] using pending

theorem Gated.untouched
    (appeals : after.vault.slashing.slashAppeal = pre.vault.slashing.slashAppeal)
    (free : after.vault.activity.executionLock = false) : Gated (env, call) pre after where
  free
  decided _ _ _ pending := Or.inl (pendingAppeal_congr appeals pending)

theorem Gated.aside (aside : Aside pre after)
    (free : pre.vault.activity.executionLock = false) : Gated (env, call) pre after :=
  .untouched (by rw [aside.slashing]) (aside.executionLock.trans free)

theorem pending_decided {slashId other : Nat} {appeal : SlashAppeal} {status : AppealStatus}
    (different : other ≠ slashId) (same : after.vault.slashing = pre.vault.slashing)
    (pending : PendingAppeal pre other) :
    PendingAppeal (after.decided slashId appeal status) other := by
  obtain ⟨hit, has, undecided⟩ := pending
  refine ⟨hit, ?_, undecided⟩
  simp only [decided, setSlashing, same, lookup_insert]
  rw [if_neg different, has]

def SameAppeals (pre after : World) : Prop :=
  after.vault.slashing.slashAppeal = pre.vault.slashing.slashAppeal ∧
    after.vault.activity.executionLock = pre.vault.activity.executionLock

theorem SlashTried.untouched {provider : Address} {severity : SlashSeverity} {reason : String}
    (tried : SlashTried env pre provider severity reason after) : SameAppeals pre after := by
  cases tried with
  | gave _ disposed => cases disposed <;> exact ⟨rfl, locked_executionLock ..⟩
  | stopped stopped => cases stopped <;> exact ⟨rfl, rfl⟩

theorem Withdrawn.untouched {staker token : Address} {info : StakeInfoV2} {amount : Int}
    (withdrawn : Withdrawn env pre staker token info amount after) :
    after.vault.slashing = pre.vault.slashing ∧
      after.vault.activity.executionLock = pre.vault.activity.executionLock := by
  obtain ⟨index, _, rfl⟩ := withdrawn.done
  exact ⟨rfl, consumed_executionLock ..⟩

theorem WithdrawStopped.untouched {staker : Address} {fault : Fault StakeVaultError}
    (stopped : WithdrawStopped env pre staker fault after) :
    after.vault.slashing = pre.vault.slashing ∧
      after.vault.activity.executionLock = pre.vault.activity.executionLock := by
  cases stopped with
  | early | untimely | refused => exact ⟨rfl, rfl⟩
  | unhooked => exact ⟨rfl, consumed_executionLock ..⟩

theorem Settled.untouched {slashId : Nat} {token : Address} {record : SlashRecord} {uphold : Bool}
    (settled : Settled env pre slashId token record uphold after) :
    after.vault.slashing = pre.vault.slashing ∧
      after.vault.activity.executionLock = pre.vault.activity.executionLock := by
  cases settled <;> exact ⟨rfl, rfl⟩

/-- In a batch that names no resolvable appeal, every resolution that is tried changes nothing. -/
theorem resolvedEach_unchanged {slashIds : List Nat} {upholds : List Bool}
    (unreached : ¬ ∃ slashId ∈ slashIds, ∃ token record appeal,
      Resolvable pre slashId token record appeal)
    {entry : Attempt World StakeVaultError Unit (Nat × Bool)}
    (mem : entry ∈ resolveAttempts env pre slashIds upholds)
    (tried : ResolveTried env entry.pre entry.item.1 entry.item.2 after)
    (same : entry.pre = pre) : after = pre := by
  have listed : entry.item.1 ∈ slashIds := (List.of_mem_zip (attempts_item _ _ _ _ mem)).1
  cases tried with
  | gave resolvable =>
    exact absurd ⟨_, listed, _, _, _, same ▸ resolvable⟩ unreached
  | stopped stopped =>
    cases stopped with
    | early => exact same
    | unburned token record appeal resolvable =>
      exact absurd ⟨_, listed, token, record, appeal, same ▸ resolvable⟩ unreached

/-- Every call is gated. The cases are the effects of the calls: few reach the appeals at all. -/
theorem Gated.effect (free : pre.vault.activity.executionLock = false)
    (effect : CallEffect env pre call after) : Gated (env, call) pre after := by
  cases effect with
  | setting aside | upkeep aside | approval aside => exact .aside aside free
  | @executed caller proposalId proposal _ multisig has executable performed =>
    -- The execution decides at most the appeal that its payload names.
    cases performed with
    | tuned settings => exact .untouched rfl free
    | resolved tagged token record appeal middle resolvable settled =>
      refine ⟨settled.untouched.2.trans free, fun _ _ slashId pending => ?_⟩
      by_cases named : slashId = payloadNumber proposal.payload
      · exact Or.inr ⟨caller, proposalId, proposal, rfl, has, executable, tagged, named.symm⟩
      · have undecided : PendingAppeal (middle.decided (payloadNumber proposal.payload) appeal
            (decision (payloadUpholds proposal.payload))) slashId :=
          pending_decided named settled.untouched.1 pending
        exact Or.inl (pendingAppeal_congr rfl undecided)
  | deposited _ _ _ _ _ _ lock | approved lock => exact .untouched rfl (lock.trans free)
  | withdrew withdrawn =>
    exact .untouched (congrArg Slashing.slashAppeal withdrawn.untouched.1)
      (withdrawn.untouched.2.trans free)
  | withdrewPart => exact .untouched rfl ((consumed_executionLock ..).trans free)
  | served keeps =>
    have kept := keeps
      (fun world => world.vault.slashing = pre.vault.slashing ∧
        world.vault.activity.executionLock = false)
      (fun world => world.vault.slashing = pre.vault.slashing ∧
        world.vault.activity.executionLock = false) (fun _ held => held.2)
      (fun _ _ _ _ _ _ _ held _ withdrawn =>
        ⟨withdrawn.untouched.1.trans held.1, withdrawn.untouched.2.trans held.2⟩)
      (fun _ _ _ _ held stopped =>
        ⟨stopped.untouched.1.trans held.1, stopped.untouched.2.trans held.2⟩)
      (fun _ held => held) (fun _ _ held => held) ⟨rfl, free⟩
    exact .untouched (congrArg Slashing.slashAppeal kept.1) kept.2
  | slashed _ _ disposed =>
    cases disposed <;> exact .untouched rfl ((locked_executionLock ..).trans free)
  | slashedEach keeps =>
    have kept := keeps (SameAppeals pre) (fun _ _ _ _ tried same =>
      ⟨tried.untouched.1.trans same.1, tried.untouched.2.trans same.2⟩) ⟨rfl, rfl⟩
    exact .untouched kept.1 (kept.2.trans free)
  | @appealed _ filed _ first =>
    refine ⟨free, fun _ _ slashId pending => Or.inl ?_⟩
    obtain ⟨appeal, has, undecided⟩ := pending
    refine ⟨appeal, ?_, undecided⟩
    have different : slashId ≠ filed := by
      rintro rfl
      simp [first] at has
    simp only [setSlashing, Slashing.recordAppeal, lookup_insert]
    rw [if_neg different, has]
  | resolved solo _ _ settled =>
    exact ⟨settled.untouched.2.trans free, fun configured => absurd solo configured⟩
  | @resolvedEach slashIds upholds _ keeps =>
    by_cases reaches : ∃ slashId ∈ slashIds, ∃ token record appeal,
        Resolvable pre slashId token record appeal
    · refine keeps (fun after => Gated (env, .batchResolveAppeal slashIds upholds) pre after)
        (fun admitted entry mem _ tried gated => ?_) (.untouched rfl free)
      have named : ResolvesInBatch (env, .batchResolveAppeal slashIds upholds) pre :=
        ⟨slashIds, upholds, rfl, admitted, reaches⟩
      cases tried with
      | gave _ settled =>
        exact ⟨settled.untouched.2.trans gated.free, fun _ outside => absurd named outside⟩
      | stopped stopped =>
        cases stopped <;> exact ⟨gated.free, fun _ outside => absurd named outside⟩
    · have same : after = pre := keeps (· = pre)
        (fun _ _ mem _ tried same => resolvedEach_unchanged reaches mem tried same) rfl
      rw [same]
      exact .untouched rfl free
  | exited lock _ _ unstaked =>
    rw [unstaked.unchanged]
    exact .untouched rfl (lock.trans free)
  | _ => exact .untouched rfl free

end Steps

/-- In every run that does not resolve appeals in batches while a multi-sig
configuration is set, each appeal that a step decides under a configuration is decided
by the execution of a proposal that has reached its threshold and names that appeal. -/
theorem appeals_decided_by_signers (self : Address) (tokens : Tokens) (inputs : List Input)
    (unbatched : ∀ taken ∈ trace step (fresh self tokens) inputs,
      taken.pre.vault.multisig.config ≠ none → ¬ ResolvesInBatch taken.input taken.pre) :
    ∀ taken ∈ trace step (fresh self tokens) inputs,
      taken.pre.vault.multisig.config ≠ none → ∀ slashId,
        PendingAppeal taken.pre slashId → ¬ PendingAppeal taken.after slashId →
          Sanctioned taken.input taken.pre slashId := by
  have gated (world : World) (input : Input) (free : world.vault.activity.executionLock = false) :
      Gated input world (step input world) :=
    step_of_effect world (.untouched rfl free) fun _ effect => .effect free effect
  intro taken mem configured slashId pending decided
  have free := transition_invariant step (fun world => world.vault.activity.executionLock = false)
    (fun _ _ => True) (fun world input _ free => (gated world input free).free)
    (fresh self tokens) rfl inputs (fun _ _ => trivial) taken mem
  have outcome := (gated taken.pre taken.input free.1).decided configured
    (unbatched taken mem configured) slashId pending
  rw [← transition_is_step step _ _ taken mem] at outcome
  exact outcome.resolve_left decided

/-- A provider is slashed and appeals, and then two signers are put in charge. -/
def appealUnderSigners : List Input :=
  [(.at 10 1 [], .initializeVault 1 9 2), (.at 10 1 [1], .setting (.setAppealWindow 86400)),
    (.at 10 1 [5], .depositStake 5 1000), (.at 20 2 [2], .slashStake 2 5 .minor "late signal"),
    (.at 30 3 [5], .appealSlash 5 0 "evidence"),
    (.at 40 4 [1], .approval (.setMultisigConfig 1 (some ⟨[11, 12], 2, 0⟩)))]

def signersReverse : List Input :=
  [(.at 50 5 [11], .approval (.proposeAction 11 [7, 0, 0, 0, 0, 0, 0, 0, 0, 0])),
    (.at 50 5 [12], .approval (.approveAction 12 1)), (.at 60 6 [12], .executeAction 12 1)]

/-- The signers' run decides the appeal, and its decisions are sanctioned. -/
theorem signers_reversal_sanctioned :
    (PendingAppeal (final step (fresh 100 wealthy) appealUnderSigners) 0 ∧
      ¬ PendingAppeal (final step (fresh 100 wealthy) (appealUnderSigners ++ signersReverse)) 0) ∧
    ∀ taken ∈ trace step (fresh 100 wealthy) (appealUnderSigners ++ signersReverse),
      taken.pre.vault.multisig.config ≠ none → ∀ slashId,
        PendingAppeal taken.pre slashId → ¬ PendingAppeal taken.after slashId →
          Sanctioned taken.input taken.pre slashId := by
  refine ⟨by decide, appeals_decided_by_signers 100 wealthy _ ?_⟩
  rintro taken mem _ ⟨slashIds, upholds, batched, _⟩
  have taken_input := input_mem step mem
  simp only [appealUnderSigners, signersReverse, List.cons_append, List.nil_append, List.mem_cons,
    List.not_mem_nil, or_false] at taken_input
  rcases taken_input with same | same | same | same | same | same | same | same | same
  all_goals simp [same] at batched

/-- With a configuration set, the administrator alone resolves the appeal in a batch of one. -/
theorem batch_bypasses_signers : ¬ ∀ inputs, ∀ taken ∈ trace step (fresh 100 wealthy) inputs,
      taken.pre.vault.multisig.config ≠ none → ∀ slashId,
        PendingAppeal taken.pre slashId → ¬ PendingAppeal taken.after slashId →
          Sanctioned taken.input taken.pre slashId := by
  intro every
  have last := every (appealUnderSigners ++ [(.at 50 5 [1], .batchResolveAppeal [0] [false])])
  rw [transitions_concat] at last
  obtain ⟨_, _, _, executes, _⟩ := last _ (List.mem_append_right _ (List.mem_singleton_self _))
    (by decide) 0 (by decide) (by decide)
  cases executes

/-- The same appeal later: it is decided at most once. -/
abbrev SlashAppeal.Continues : SlashAppeal → SlashAppeal → Prop :=
  Revises (fun appeal => { appeal with status := .pending }) (fun _ => ()) (· = ·)
    (·.status ≠ .pending)

/-- Every appeal of the earlier world is in the later one. -/
def AppealsContinued (pre after : World) : Prop :=
  Continued SlashAppeal.Continues pre.vault.slashing.slashAppeal
    after.vault.slashing.slashAppeal

section Records

variable {env : Env} {pre after : World}

theorem AppealsContinued.of_same
    (same : after.vault.slashing.slashAppeal = pre.vault.slashing.slashAppeal) :
    AppealsContinued pre after := by
  rw [AppealsContinued, same]
  exact .refl _

theorem Resolvable.continued {slashId : Nat} {token : Address} {record : SlashRecord}
    {appeal : SlashAppeal} {uphold : Bool} {middle : World}
    (resolvable : Resolvable pre slashId token record appeal)
    (settled : Settled env pre slashId token record uphold middle) :
    AppealsContinued pre (middle.decided slashId appeal (decision uphold)) := by
  rw [AppealsContinued, ← settled.untouched.1]
  refine continued_insert fun prior hit => ?_
  rw [settled.untouched.1] at hit
  cases Option.mem_unique resolvable.appealed hit
  exact ⟨rfl, rfl, fun decided => absurd resolvable.pending decided⟩

theorem ResolveTried.continued {slashId : Nat} {uphold : Bool}
    (tried : ResolveTried env pre slashId uphold after) : AppealsContinued pre after := by
  cases tried with
  | gave resolvable settled => exact resolvable.continued settled
  | stopped stopped => cases stopped <;> exact .refl _

theorem CallEffect.continued {call : Call} (effect : CallEffect env pre call after)
    (free : pre.vault.activity.executionLock = false) : AppealsContinued pre after := by
  cases effect with
  | setting aside | upkeep aside | approval aside => exact .of_same (by rw [aside.slashing])
  | executed _ _ performed =>
    cases performed with
    | tuned => exact .refl _
    | resolved _ token record appeal middle resolvable settled =>
      exact (resolvable.continued settled : AppealsContinued pre (middle.decided _ appeal _))
  | withdrew withdrawn => exact .of_same (congrArg Slashing.slashAppeal withdrawn.untouched.1)
  | served keeps =>
    refine .of_same (keeps (SameAppeals pre) (SameAppeals pre)
      (fun _ same => same.2.trans free) ?_ ?_ (fun _ same => same) (fun _ _ same => same)
      ⟨rfl, rfl⟩).1
    · exact fun _ _ _ _ _ _ _ same _ withdrawn =>
        ⟨(congrArg Slashing.slashAppeal withdrawn.untouched.1).trans same.1,
          withdrawn.untouched.2.trans same.2⟩
    · exact fun _ _ _ _ same stopped =>
        ⟨(congrArg Slashing.slashAppeal stopped.untouched.1).trans same.1,
          stopped.untouched.2.trans same.2⟩
  | slashed _ _ disposed => cases disposed <;> exact .refl _
  | slashedEach keeps =>
    exact keeps (AppealsContinued pre) (fun _ _ _ _ tried held =>
      held.trans (AppealsContinued.of_same tried.untouched.1)) (.refl _)
  | appealed first => exact continued_insert fun _ hit => nomatch first.symm.trans hit
  | resolved _ _ resolvable settled => exact resolvable.continued settled
  | resolvedEach keeps =>
    exact keeps (AppealsContinued pre) (fun _ _ _ _ tried held => held.trans tried.continued)
      (.refl _)
  | exited _ _ _ unstaked => exact unstaked.unchanged ▸ .refl _
  | _ => exact .refl _

end Records

/-- However the vault is run and run on, every appeal stays on record as the same one. -/
theorem appeals_stay_on_record (self : Address) (tokens : Tokens) (inputs later : List Input) :
    let reached := final step (fresh self tokens) inputs
    AppealsContinued reached (final step reached later) := by
  have run := continued_run step (·.vault.slashing.slashAppeal)
    (fun world => world.vault.activity.executionLock = false) fun world input free =>
      ⟨(step_of_effect world (.untouched rfl free) fun _ effect => .effect free effect :
        Gated input world (step input world)).free,
      @step_of_effect world (AppealsContinued world) input (.refl _)
        fun _ effect => effect.continued free⟩
  exact (run _ (run (fresh self tokens) rfl inputs).1 later).2

end StellarSwipe.StakeVault
