import StellarSwipe.Governance.ActionExecution

/-!
# Dry runs of a proposal's action

Before it is executed, an action can be simulated: the simulation reads the same entries as the
execution and reports, as texts, what they hold and what they would hold.
-/

namespace StellarSwipe.Governance

open FixedWidth Program

/-- One entry that an action would change. -/
structure SimulationEffect where
  key : String
  current : String
  proposed : String

structure SimulationResult where
  success : Bool
  error : String
  effects : List SimulationEffect

/-- The host's texts for addresses and for byte strings. -/
structure HostText where
  address : Address → String
  bytes : Bytes → String

/-- A label and a value, cut after 256 bytes. -/
def labeledKey (label value : String) : String :=
  .ofList ((label ++ value).toList.take 256)

/-- The decimal digits of an amount, after a minus sign if it is negative. -/
def i128ToString (value : Int) : String := toString value

def boolToString (value : Bool) : String := if value then "true" else "false"

/-- What executing a proposal's action would do, without doing it. -/
def simulateProposalAction (text : HostText) (proposal : Proposal) :
    GovProgram SimulationResult :=
  match proposal.proposalType with
  | .parameterChange parameter _ proposed => do
    let current := (← get).registry.parameters.read parameter
    pure ⟨true, "",
      [⟨labeledKey "parameter:" parameter, i128ToString current, i128ToString proposed⟩]⟩
  | .treasurySpend recipient amount asset _ => do
    let balance := (← get).treasury.assets.read asset
    if balance < amount then pure ⟨false, "Insufficient treasury balance", []⟩
    else do
      let rest ← raw (balance - amount)
      pure ⟨true, "", [⟨"treasury:balance", i128ToString balance, i128ToString rest⟩,
          ⟨"treasury:recipient", "(unchanged)", text.address recipient⟩]⟩
  | .featureToggle feature enabled => do
    let current := ((← get).registry.features.lookup feature).getD false
    pure ⟨true, "", [⟨labeledKey "feature:" feature, boolToString current, boolToString enabled⟩]⟩
  | .contractUpgrade contract wasmHash => do
    let current := ((← get).registry.upgrades.lookup contract).map text.bytes
    pure ⟨true, "", [⟨labeledKey "upgrade:" contract, current.getD "(none)", text.bytes wasmHash⟩]⟩
  | .signalProposal message => pure ⟨true, "", [⟨"signal", "(no state change)", message⟩]⟩
  | .custom executor => pure ⟨true, "", [⟨"custom", "(external call)", text.address executor⟩]⟩

/-- The text of the entry that an action sets, for the actions that set one. -/
def valueSet (text : HostText) (proposalType : ProposalType) (store : GovStore) :
    Option String :=
  match proposalType with
  | .parameterChange parameter _ _ =>
    (store.registry.parameters.lookup parameter).map i128ToString
  | .treasurySpend _ _ asset _ => (store.treasury.assets.lookup asset).map i128ToString
  | .featureToggle feature _ => (store.registry.features.lookup feature).map boolToString
  | .contractUpgrade contract _ => (store.registry.upgrades.lookup contract).map text.bytes
  | .signalProposal _ | .custom _ => none

def ReportsSuccess (text : HostText) (proposal : Proposal) (store : GovStore) : Prop :=
  wp (simulateProposalAction text proposal) (fun result _ => result.success = true)
    (fun _ _ => False) store

/-- The simulation of an action agrees with its execution from the same storage: it reports
success exactly when the execution returns, and the value it reports first is the one in
the storage that the execution leaves. -/
structure SimulationAgrees (text : HostText) (proposal : Proposal) (pre : GovStore) :
    Prop where
  success : ReportsSuccess text proposal pre ↔ Accepts (executeProposalAction proposal) pre
  values : wp (simulateProposalAction text proposal)
    (fun result _ => result.success = true → wp (executeProposalAction proposal)
      (fun _ after => ∀ value ∈ valueSet text proposal.proposalType after,
        (result.effects.head?).map SimulationEffect.proposed = some value)
      (fun _ _ => True) pre) (fun _ _ => True) pre

section Agreement

variable {text : HostText} {proposal : Proposal} {pre : GovStore}

/-- The simulation reports success exactly when the treasury covers the action. -/
theorem reportsSuccess_iff :
    ReportsSuccess text proposal pre ↔ pre.Covers proposal.proposalType := by
  simp only [ReportsSuccess, simulateProposalAction]
  cases proposal.proposalType with
  | treasurySpend recipient amount asset purpose =>
    simp only [wp_rules, wp_ite, raw, GovStore.Covers]
    constructor
    · rintro ⟨short, enough⟩
      have covered : amount ≤ pre.treasury.assets.read asset := by
        by_contra uncovered
        exact absurd (short (not_le.mp uncovered)) Bool.false_ne_true
      refine ⟨covered, ?_⟩
      by_contra overflows
      exact (enough (not_lt.mpr covered)).2 ((i128.checked_eq_none _).mpr overflows)
    · rintro ⟨covered, held⟩
      refine ⟨fun short => absurd short (not_lt.mpr covered),
        fun _ => ⟨fun _ _ => trivial, fun none => ?_⟩⟩
      exact absurd held ((i128.checked_eq_none _).mp none)
  | _ =>
    exact ⟨fun _ => trivial, fun _ => rfl⟩

theorem executeProposalAction_accepts_iff : Accepts (executeProposalAction proposal) pre ↔
      pre.Covers proposal.proposalType ∧ pre.CreditsRecipient proposal.proposalType := by
  constructor
  · rintro ⟨value, after, gave⟩
    exact (wp_ok (executeProposalAction_runs proposal) gave).1
  · rintro ⟨covered, credited⟩
    refine (accepts_iff_wp _ _).mpr
      (wp_mono (executeProposalAction_runs proposal) (fun _ _ _ => trivial) ?_)
    rintro _ after (⟨uncovered, _⟩ | ⟨_, refused, _⟩)
    · exact uncovered covered
    · exact refused credited

theorem simulation_values : wlp (simulateProposalAction text proposal)
      (fun result _ => result.success = true → wlp (executeProposalAction proposal)
        (fun _ after => ∀ value ∈ valueSet text proposal.proposalType after,
          (result.effects.head?).map SimulationEffect.proposed = some value) pre) pre := by
  have lookup_inserted : ∀ {κ ν : Type} [DecidableEq κ] (table : Table κ ν) (key : κ) (value : ν),
      (table.insert key value).lookup key = some value :=
    fun table key value => AList.lookup_insert table
  have agrees : ∀ {set : Option String} {first : String}, set = some first →
      ∀ value ∈ set, some first = some value := by
    rintro _ first rfl value hit
    exact hit
  simp only [simulateProposalAction, executeProposalAction]
  cases proposal.proposalType with
  | treasurySpend recipient amount asset purpose =>
    simp only [wlp_rules, wp_ite, raw, wp_putTokens]
    refine ⟨fun _ failed => absurd failed Bool.false_ne_true,
      fun _ rest hit _ _ lowered subtracted _ _ => ?_⟩
    obtain ⟨_, rfl⟩ := i128.checked_ok hit
    obtain ⟨_, rfl⟩ := checkedSub_ok subtracted
    exact agrees (congrArg (Option.map i128ToString) (lookup_inserted _ asset _))
  | parameterChange parameter current proposed =>
    simp only [wp_rules]
    intro _
    exact agrees (congrArg (Option.map i128ToString) (lookup_inserted _ parameter _))
  | featureToggle feature enabled =>
    simp only [wp_rules]
    intro _
    exact agrees (congrArg (Option.map boolToString) (lookup_inserted _ feature _))
  | contractUpgrade contract wasmHash =>
    simp only [wp_rules]
    intro _
    exact agrees (congrArg (Option.map text.bytes) (lookup_inserted _ contract _))
  | signalProposal message =>
    intro _ value set
    cases set
  | custom executor =>
    intro _ value set
    cases set

/-- Exactly the covered spends whose recipient cannot be credited are reported as successes
and fail. -/
theorem simulation_agrees_iff (text : HostText) (proposal : Proposal) (pre : GovStore) :
    SimulationAgrees text proposal pre ↔ ¬ pre.Uncredited proposal.proposalType := by
  constructor
  · rintro ⟨success, _⟩ ⟨covered, refused⟩
    rw [reportsSuccess_iff, executeProposalAction_accepts_iff] at success
    exact refused (success.mp covered).2
  · intro credited
    refine ⟨?_, simulation_values⟩
    rw [reportsSuccess_iff, executeProposalAction_accepts_iff]
    refine ⟨fun covered => ⟨covered, ?_⟩, And.left⟩
    by_contra refused
    exact credited ⟨covered, refused⟩

end Agreement

def grantProposal : Option Proposal := waitingGrant.proposal 1

/-- The simulation promises a grant that the execution refuses. -/
theorem simulation_promises_uncredited :
    ¬ ∀ (text : HostText) (proposal : Proposal) (pre : GovStore),
        SimulationAgrees text proposal pre := by
  intro every
  obtain ⟨proposal, has⟩ : ∃ proposal, grantProposal = some proposal :=
    Option.isSome_iff_exists.mp (by decide)
  have kind : proposal.proposalType = .treasurySpend 2 10 grantAsset "grant" := by
    have known : grantProposal.map Proposal.proposalType =
        some (.treasurySpend 2 10 grantAsset "grant") := by decide
    rw [has] at known
    exact Option.some.inj known
  have agrees := every ⟨fun _ => "", fun _ => ""⟩ proposal waitingGrant
  have promised := agrees.success
  rw [reportsSuccess_iff, executeProposalAction_accepts_iff, kind] at promised
  have refused : waitingGrant.Uncredited (.treasurySpend 2 10 grantAsset "grant") := by decide
  exact refused.2 (promised.mp refused.1).2

end StellarSwipe.Governance
