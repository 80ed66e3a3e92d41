import StellarSwipe.Library.SimplePaths
import StellarSwipe.Library.KeyedSum
import StellarSwipe.Library.Program
import StellarSwipe.Library.Runs

/-!
# Dependencies between proposals

A proposal may depend on others, which must exist when the dependency is declared.
-/

namespace StellarSwipe.Governance.Dependencies

open Program Relation Graphs List

inductive DependencyError where
  | dependencyMissing
  | dependencyExpired
  | dependencyNotFinalized
  | dependencyCycle
  | selfDependency
  | tooManyDependencies
  | proposalExists
  | proposalNotFound

def maxDependencies : Nat := 10

/-- Bound on the steps of a walk. -/
def maxVisits : Nat := 100

inductive DepStatus where
  | pending
  | finalized
  | expired
deriving DecidableEq

structure DepMeta where
  dependsOn : List Nat
  status : DepStatus

/-- The stored proposals with what they depend on. -/
abbrev DependencyGraph := Table Nat DepMeta

abbrev DependencyProgram := Program DependencyGraph DependencyError

variable (graph : DependencyGraph)

/-- What a proposal depends on, nothing if it is not stored. -/
def dependenciesOf (id : Nat) : List Nat := ((graph.lookup id).map DepMeta.dependsOn).getD []

/-- The walk with the steps it has left and its stack, the top first. -/
def walk (target : Nat) : Nat → List Nat → Except DependencyError Bool
  | _, [] => .ok false
  | 0, current :: _ => if current = target then .ok true else .error .tooManyDependencies
  | left + 1, current :: rest =>
    if current = target then .ok true
    else walk target left ((dependenciesOf graph current).reverse ++ rest)

/-- Whether a target is among everything that a proposal depends on. -/
def reaches (start target : Nat) : Except DependencyError Bool :=
  walk graph target maxVisits [start]

/-- The proposals that a walk takes off its stack. -/
def walked (target : Nat) : Nat → List Nat → List Nat
  | _, [] => []
  | 0, current :: _ => [current]
  | left + 1, current :: rest =>
    if current = target then [current]
    else current :: walked target left ((dependenciesOf graph current).reverse ++ rest)

/-- The proposals that a check visits. -/
def visits (start target : Nat) : List Nat := walked graph target maxVisits [start]

/-- The checks of one declared dependency of a new proposal. -/
def checkDependency (id dependency : Nat) : DependencyProgram Unit := do
  ensure (dependency ≠ id) .selfDependency
  let hit ← orFail ((← get).lookup dependency) .dependencyMissing
  ensure (hit.status ≠ .expired) .dependencyExpired
  let cyclic ← ofExcept (reaches (← get) dependency id)
  ensure (cyclic = false) .dependencyCycle

def submit (id : Nat) (dependsOn : List Nat) : DependencyProgram Unit := do
  ensure ((← get).lookup id = none) .proposalExists
  ensure (¬ maxDependencies < dependsOn.length) .tooManyDependencies
  each (checkDependency id) dependsOn
  modify fun graph => graph.insert id ⟨dependsOn, .pending⟩

/-- Add an edge to a stored proposal. -/
def addDependency (id dependency : Nat) : DependencyProgram Unit := do
  let hit ← orFail ((← get).lookup id) .proposalNotFound
  ensure (dependency ≠ id) .selfDependency
  ensure (hit.dependsOn.length < maxDependencies) .tooManyDependencies
  discard (orFail ((← get).lookup dependency) DependencyError.dependencyMissing)
  let cyclic ← ofExcept (reaches (← get) dependency id)
  ensure (cyclic = false) .dependencyCycle
  modify fun graph => graph.insert id { hit with dependsOn := hit.dependsOn ++ [dependency] }

def setStatus (id : Nat) (status : DepStatus) : DependencyProgram Unit := do
  let hit ← orFail ((← get).lookup id) .proposalNotFound
  modify fun graph => graph.insert id { hit with status }

/-- The checks of one dependency when its proposal is to be executed. -/
def checkFinalized (dependency : Nat) : DependencyProgram Unit := do
  let hit ← orFail ((← get).lookup dependency) .dependencyMissing
  match hit.status with
  | .finalized => pure ()
  | .expired => fail .dependencyExpired
  | .pending => fail .dependencyNotFinalized

def validateForExecution (id : Nat) : DependencyProgram Unit := do
  let hit ← orFail ((← get).lookup id) .proposalNotFound
  each checkFinalized hit.dependsOn

inductive DependencyCall where
  | submit (id : Nat) (dependsOn : List Nat)
  | addDependency (id dependency : Nat)
  | setStatus (id : Nat) (status : DepStatus)
  | validateForExecution (id : Nat)

def DependencyCall.exec (call : DependencyCall) : DependencyProgram Unit :=
  match call with
  | .submit id dependsOn => Dependencies.submit id dependsOn
  | .addDependency id dependency => Dependencies.addDependency id dependency
  | .setStatus id status => Dependencies.setStatus id status
  | .validateForExecution id => Dependencies.validateForExecution id

def dependencyStep (call : DependencyCall) (graph : DependencyGraph) : DependencyGraph :=
  invoke call.exec graph

/-- An edge of the graph. -/
def DependsOn (first second : Nat) : Prop := second ∈ dependenciesOf graph first

section Walks

variable {graph : DependencyGraph} {target : Nat}

theorem walk_found {left : Nat} {stack : List Nat}
    (hit : walk graph target left stack = .ok true) :
    ∃ start ∈ stack, ReflTransGen (DependsOn graph) start target := by
  induction left generalizing stack with
  | zero =>
    cases stack with
    | nil => cases hit
    | cons current rest =>
      rw [walk] at hit
      split at hit
      next same => exact ⟨current, mem_cons_self, same ▸ .refl⟩
      next => cases hit
  | succ left ih =>
    cases stack with
    | nil => cases hit
    | cons current rest =>
      rw [walk] at hit
      split at hit
      next same => exact ⟨current, mem_cons_self, same ▸ .refl⟩
      next =>
        obtain ⟨start, mem, path⟩ := ih hit
        rcases List.mem_append.mp mem with dependency | later
        · exact ⟨current, mem_cons_self, .head (List.mem_reverse.mp dependency) path⟩
        · exact ⟨start, mem_cons_of_mem _ later, path⟩

/-- A walk that ends without its target has taken everything that its stack leads to off
it, and none of that is the target. -/
theorem walk_exhausted {left : Nat} {stack : List Nat}
    (exhausted : walk graph target left stack = .ok false) {start node : Nat}
    (mem : start ∈ stack) (path : ReflTransGen (DependsOn graph) start node) :
    node ∈ walked graph target left stack ∧ node ≠ target := by
  induction left generalizing stack start with
  | zero =>
    cases stack with
    | nil => cases mem
    | cons current rest =>
      rw [walk] at exhausted
      split at exhausted <;> cases exhausted
  | succ left ih =>
    cases stack with
    | nil => cases mem
    | cons current rest =>
      rw [walk] at exhausted
      split at exhausted
      next => cases exhausted
      next different =>
        rw [walked, if_neg different]
        have onward : ∀ {next : Nat}, next ∈ (dependenciesOf graph current).reverse ++ rest →
            ReflTransGen (DependsOn graph) next node →
            node ∈ current :: walked graph target left
              ((dependenciesOf graph current).reverse ++ rest) ∧ node ≠ target := by
          intro next inside further
          obtain ⟨visited, other⟩ := ih exhausted inside further
          exact ⟨mem_cons_of_mem _ visited, other⟩
        rcases List.mem_cons.mp mem with rfl | later
        · rcases ReflTransGen.cases_head path with rfl | ⟨next, edge, further⟩
          · exact ⟨mem_cons_self, different⟩
          · exact onward (mem_append_left _ (List.mem_reverse.mpr edge)) further
        · exact onward (mem_append_right _ later) path

/-- A check that answers answers rightly, and before it says no it visits every proposal
that the first one depends on. -/
theorem reaches_answers {start : Nat} {answer : Bool}
    (answered : reaches graph start target = .ok answer) :
    (answer = true ↔ ReflTransGen (DependsOn graph) start target) ∧
      (answer = false → ∀ node, ReflTransGen (DependsOn graph) start node →
        node ∈ visits graph start target) := by
  have inside : start ∈ [start] := mem_singleton_self start
  cases answer with
  | true =>
    obtain ⟨_, mem, path⟩ := walk_found answered
    obtain rfl := List.mem_singleton.mp mem
    exact ⟨⟨fun _ => path, fun _ => rfl⟩, fun wrong => Bool.noConfusion wrong⟩
  | false =>
    refine ⟨⟨fun wrong => Bool.noConfusion wrong, fun path => ?_⟩, fun _ node path => ?_⟩
    · exact absurd rfl (walk_exhausted answered inside path).2
    · exact (walk_exhausted answered inside path).1

end Walks

/-- The graph with a proposal that depends on others, all of them checked. -/
inductive DependencyEffect (graph : DependencyGraph) : DependencyCall → DependencyGraph → Prop where
  | submit {id : Nat} {dependsOn : List Nat} (fresh : graph.lookup id = none)
      (checked : ∀ dependency ∈ dependsOn, reaches graph dependency id = .ok false) :
      DependencyEffect graph (.submit id dependsOn) (graph.insert id ⟨dependsOn, .pending⟩)
  | addDependency {id dependency : Nat} {hit : DepMeta} (has : graph.lookup id = some hit)
      (checked : reaches graph dependency id = .ok false) :
      DependencyEffect graph (.addDependency id dependency)
        (graph.insert id { hit with dependsOn := hit.dependsOn ++ [dependency] })
  | setStatus {id : Nat} {hit : DepMeta} (status : DepStatus)
      (has : graph.lookup id = some hit) :
      DependencyEffect graph (.setStatus id status) (graph.insert id { hit with status })
  | validateForExecution (id : Nat) : DependencyEffect graph (.validateForExecution id) graph

section Effects

variable {graph : DependencyGraph}

theorem checkDependency_spec (id dependency : Nat) : wlp (checkDependency id dependency)
      (fun _ after => after = graph ∧ reaches graph dependency id = .ok false) graph := by
  simp only [checkDependency, wlp_rules, true_and]
  rintro _ hit _ _ cyclic answered rfl
  exact answered

theorem checkFinalized_leaves (dependency : Nat) :
    wlp (checkFinalized dependency) (fun _ after => after = graph) graph := by
  simp only [checkFinalized, wlp_rules]
  intro hit _
  cases hit.status <;> simp

theorem DependencyCall.exec_effect (call : DependencyCall) :
    wlp call.exec (fun _ after => DependencyEffect graph call after) graph := by
  cases call with
  | submit id dependsOn =>
    simp only [exec, Dependencies.submit, wlp_rules]
    intro fresh _
    have checks := @each_rule _ _ _ (checkDependency id) (fun _ _ => True)
      (fun past after => after = graph ∧
        ∀ dependency ∈ past, reaches graph dependency id = .ok false)
      dependsOn [] ?_ graph ⟨rfl, fun _ none => by cases none⟩
    · refine wp_then checks ?_
      rintro _ _ ⟨rfl, checked⟩
      exact .submit fresh checked
    · rintro past dependency _ _ ⟨rfl, checked⟩
      refine wp_then (checkDependency_spec id dependency) ?_
      rintro _ _ ⟨rfl, answered⟩
      refine ⟨rfl, fun other mem => ?_⟩
      rcases List.mem_append.mp mem with prior | last
      · exact checked other prior
      · exact List.mem_singleton.mp last ▸ answered
  | addDependency id dependency =>
    simp only [exec, Dependencies.addDependency, wlp_rules]
    rintro hit has _ _ _ _ cyclic answered rfl
    exact .addDependency has answered
  | setStatus id status =>
    simp only [exec, Dependencies.setStatus, wlp_rules]
    intro hit has
    exact .setStatus status has
  | validateForExecution id =>
    simp only [exec, Dependencies.validateForExecution, wlp_rules]
    intro hit _
    have checks := @each_rule _ _ _ checkFinalized (fun _ _ => True)
      (fun _ after => after = graph) hit.dependsOn [] ?_ graph rfl
    · refine wp_then checks ?_
      rintro _ _ rfl
      exact .validateForExecution id
    · rintro past dependency _ _ rfl
      exact checkFinalized_leaves dependency

theorem dependenciesOf_stored {id : Nat} {hit : DepMeta} (has : graph.lookup id = some hit) :
    dependenciesOf graph id = hit.dependsOn := by
  rw [dependenciesOf, has]
  rfl

/-- Edges after a proposal is written: the old ones and those that it now has. -/
theorem dependsOn_insert {id : Nat} {written : DepMeta} {ends : Nat → Prop}
    (added : ∀ dependency ∈ written.dependsOn,
      dependency ∈ dependenciesOf graph id ∨ ends dependency) (first second : Nat)
    (edge : DependsOn (graph.insert id written) first second) :
    DependsOn graph first second ∨ first = id ∧ ends second := by
  simp only [DependsOn, dependenciesOf, Table.lookup_insert] at edge
  split at edge
  next same =>
    subst same
    exact (added second edge).imp_right fun isEnd => ⟨rfl, isEnd⟩
  next => exact .inl edge

theorem DependencyEffect.acyclic {call : DependencyCall} {after : DependencyGraph}
    (effect : DependencyEffect graph call after) (acyclic : Acyclic (DependsOn graph)) :
    Acyclic (DependsOn after) := by
  have unreached : ∀ {dependency id : Nat}, reaches graph dependency id = .ok false →
      ¬ ReflTransGen (DependsOn graph) dependency id := by
    intro dependency id answered path
    exact Bool.false_ne_true ((reaches_answers answered).1.mpr path)
  cases effect with
  | @submit id dependsOn fresh checked =>
    refine @Acyclic.grow _ _ _ id (fun dependency => dependency ∈ dependsOn) acyclic
      (dependsOn_insert fun dependency mem => .inr mem) fun last isEnd => ?_
    exact unreached (checked last isEnd)
  | @addDependency id dependency hit has checked =>
    refine @Acyclic.grow _ _ _ id (fun last => last = dependency) acyclic
      (dependsOn_insert fun last mem => ?_) ?_
    · rcases List.mem_append.mp mem with prior | added
      · exact .inl (dependenciesOf_stored has ▸ prior)
      · exact .inr (List.mem_singleton.mp added)
    · rintro last rfl
      exact unreached checked
  | @setStatus id hit status has =>
    refine @Acyclic.grow _ _ _ id (fun _ => False) acyclic
      (dependsOn_insert fun last mem => .inl ?_) fun _ impossible => impossible.elim
    exact dependenciesOf_stored has ▸ mem
  | validateForExecution id => exact acyclic

end Effects

/-- The law of a graph of dependencies. A check that runs out of steps decides nothing, and
the call that it belongs to is rejected. -/
structure DependencyLaw (graph : DependencyGraph) : Prop where
  acyclic : Acyclic (DependsOn graph)
  answered : ∀ start target answer, reaches graph start target = .ok answer →
    (answer = true ↔ ReflTransGen (DependsOn graph) start target) ∧
      (answer = false → ∀ node, ReflTransGen (DependsOn graph) start node →
        node ∈ visits graph start target)
  undecided : ∀ id dependency reason, reaches graph dependency id = .error reason →
    dependencyStep (.addDependency id dependency) graph = graph ∧
      ∀ dependsOn, dependency ∈ dependsOn → dependencyStep (.submit id dependsOn) graph = graph

/-- A call whose effect needs an answer that the check does not give is rejected. -/
theorem step_of_undecided {graph : DependencyGraph} {call : DependencyCall}
    (impossible : ∀ after, ¬ DependencyEffect graph call after) :
    dependencyStep call graph = graph := by
  refine invoke_of_rejected ?_
  rintro ⟨value, after, gave⟩
  exact impossible after (wp_ok call.exec_effect gave)

/-- Every graph that calls build has no cycle, and every check that answers has visited all
that it had to. -/
theorem dependencies_acyclic (calls : List DependencyCall) :
    DependencyLaw (Runs.final dependencyStep ∅ calls) := by
  refine ⟨?_, fun _ _ _ => reaches_answers, fun id dependency reason stopped => ⟨?_, ?_⟩⟩
  · refine Runs.guarded_invariant dependencyStep (fun graph => Acyclic (DependsOn graph))
      (fun _ _ => True) ?_ ∅ ?_ calls fun _ _ => trivial
    · intro graph call _ acyclic
      exact invoke_rule (wp_mono call.exec_effect (fun _ _ effect => effect.acyclic acyclic)
        fun _ _ _ => acyclic)
    · exact acyclic_empty fun _ _ edge => by simp [DependsOn, dependenciesOf] at edge
  · refine step_of_undecided fun after effect => ?_
    cases effect with
    | addDependency has checked =>
      rw [stopped] at checked
      cases checked
  · intro dependsOn mem
    refine step_of_undecided fun after effect => ?_
    cases effect with
    | submit fresh checked =>
      have answered := checked dependency mem
      rw [stopped] at answered
      cases answered

section Bound

/-- Seven proposals, each depending on all before it, and a ninth that depends on one that
depends on nothing and then on the last three of them. -/
def branchingCalls : List DependencyCall :=
  ((List.range 7).map fun number => .submit (number + 1) ((List.range number).map (· + 1))) ++
    [.submit 20 [], .submit 9 [20, 5, 6, 7]]

def branchingGraph : DependencyGraph := Runs.final dependencyStep ∅ branchingCalls

/-- A check of the ninth proposal for one that it does not depend on gives up before it
visits the one that depends on nothing. -/
theorem check_gives_up : ¬ ∀ (calls : List DependencyCall) (start target node : Nat),
        ¬ ReflTransGen (DependsOn (Runs.final dependencyStep ∅ calls)) start target →
        ReflTransGen (DependsOn (Runs.final dependencyStep ∅ calls)) start node →
        node ∈ visits (Runs.final dependencyStep ∅ calls) start target := by
  intro every
  have inside : ∀ node, ReflTransGen (DependsOn branchingGraph) 9 node → node ≠ 10 := by
    have closed : ∀ first ∈ [1, 2, 3, 4, 5, 6, 7, 9, 20],
        ∀ second ∈ dependenciesOf branchingGraph first,
          second ∈ [1, 2, 3, 4, 5, 6, 7, 9, 20] := by
      decide
    have start : 9 ∈ [1, 2, 3, 4, 5, 6, 7, 9, 20] := by decide
    intro node path
    have listed : node ∈ [1, 2, 3, 4, 5, 6, 7, 9, 20] :=
      reached_of_closed (fun first second mem edge => closed first mem second edge) start path
    rintro rfl
    exact absurd listed (by decide)
  have missed : 20 ∉ visits branchingGraph 9 10 := by decide
  have edge : DependsOn branchingGraph 9 20 := by
    simp only [DependsOn]
    decide
  exact missed (every branchingCalls 9 10 20 (fun path => inside 10 path rfl) (.single edge))

end Bound

end StellarSwipe.Governance.Dependencies
