import Mathlib.Data.List.Basic
import Mathlib.Data.List.Nodup
import Mathlib.Logic.Relation

/-!
# Paths of a graph

A graph lists the vertices that follow each vertex.
-/

namespace SimplePaths

variable {ν : Type} [DecidableEq ν] (next : ν → List ν)

/-- A path without repeated vertices from a source to a target. -/
structure SimplePath (source target : ν) (path : List ν) : Prop where
  linked : List.IsChain (fun vertex later => later ∈ next vertex) (source :: path)
  distinct : (source :: path).Nodup
  ends : path.getLast? = some target

/-- The depth-first enumeration of the paths that avoid what was visited. -/
def enumerate (target : ν) : Nat → ν → List ν → List (List ν)
  | 0, _, _ => []
  | hops + 1, current, visited =>
    (next current).flatMap fun vertex =>
      if vertex ∈ visited then []
      else if vertex = target then [[vertex]]
      else (enumerate target hops vertex (vertex :: visited)).map (vertex :: ·)

variable {next} {target current : ν} {visited path : List ν}

/-- Every path listed is simple, avoids what was visited and keeps to the hops, and every such
path is listed. The induction is on the hops. -/
theorem mem_enumerate {hops : Nat} : path ∈ enumerate next target hops current visited ↔
      List.IsChain (fun vertex later => later ∈ next vertex) (current :: path) ∧ path.Nodup ∧
        (∀ vertex ∈ path, vertex ∉ visited) ∧ path.getLast? = some target ∧ path.length ≤ hops := by
  induction hops generalizing current visited path with
  | zero =>
    constructor
    · intro listed
      cases listed
    · rintro ⟨_, _, _, ends, short⟩
      rw [List.length_eq_zero_iff.mp (Nat.le_zero.mp short)] at ends
      cases ends
  | succ hops ih =>
    simp only [enumerate, List.mem_flatMap]
    constructor
    · rintro ⟨vertex, following, listed⟩
      split at listed
      next => cases listed
      next fresh =>
        split at listed
        next last =>
          obtain rfl := List.mem_singleton.mp listed
          subst last
          exact ⟨List.isChain_cons_cons.mpr ⟨following, .singleton _⟩, List.nodup_singleton _,
            by simpa using fresh, rfl, by simp⟩
        next further =>
          obtain ⟨rest, onward, rfl⟩ := List.mem_map.mp listed
          obtain ⟨linked, distinct, avoids, ends, short⟩ := ih.mp onward
          refine ⟨List.isChain_cons_cons.mpr ⟨following, linked⟩, List.nodup_cons.mpr ⟨fun again =>
            avoids vertex again List.mem_cons_self, distinct⟩, ?_, ?_, Nat.succ_le_succ short⟩
          · intro other mem
            rcases List.mem_cons.mp mem with rfl | later
            · exact fresh
            · exact fun seen => avoids other later (List.mem_cons_of_mem _ seen)
          · rw [List.getLast?_cons, ends]
            rfl
    · rintro ⟨linked, distinct, avoids, ends, short⟩
      cases path with
      | nil => cases ends
      | cons vertex rest =>
        obtain ⟨following, onward⟩ := List.isChain_cons_cons.mp linked
        obtain ⟨once, restDistinct⟩ := List.nodup_cons.mp distinct
        refine ⟨vertex, following, ?_⟩
        rw [if_neg (avoids vertex List.mem_cons_self)]
        cases rest with
        | nil =>
          have last : vertex = target := Option.some.inj ends
          rw [if_pos last]
          exact List.mem_singleton_self _
        | cons second rest =>
          have restEnds : (second :: rest).getLast? = some target := by
            rwa [List.getLast?_cons_cons] at ends
          have further : vertex ≠ target := by
            rintro rfl
            exact once (List.mem_of_getLast? restEnds)
          rw [if_neg further]
          refine List.mem_map.mpr ⟨_, ih.mpr ⟨onward, restDistinct, ?_, restEnds,
            Nat.le_of_succ_le_succ short⟩, rfl⟩
          intro other mem seen
          rcases List.mem_cons.mp seen with rfl | prior
          · exact once mem
          · exact avoids other (List.mem_cons_of_mem _ mem) prior

/-- From its source the enumeration lists the simple paths to the target. -/
theorem mem_enumerate_source {source : ν} {hops : Nat} :
    path ∈ enumerate next target hops source [source] ↔
      SimplePath next source target path ∧ path.length ≤ hops := by
  rw [mem_enumerate]
  constructor
  · rintro ⟨linked, distinct, avoids, ends, short⟩
    refine ⟨⟨linked, List.nodup_cons.mpr ⟨fun again => ?_, distinct⟩, ends⟩, short⟩
    exact avoids source again (List.mem_singleton_self source)
  · rintro ⟨⟨linked, distinct, ends⟩, short⟩
    obtain ⟨once, distinct⟩ := List.nodup_cons.mp distinct
    refine ⟨linked, distinct, fun vertex mem seen => ?_, ends, short⟩
    exact once (List.mem_singleton.mp seen ▸ mem)

end SimplePaths

/-! ## Growing a graph without cycles

A graph is the relation of its edges. Adding edges that all leave one node keeps the graph
free of cycles when that node could not be reached from any of their ends: a path from
such an end never gets to the node, so it only uses old edges.
-/

namespace Graphs

open Relation List

variable {α : Type} {edge grown : α → α → Prop} {source : α} {ends : α → Prop}

/-- No node leads back to itself. -/
def Acyclic (edge : α → α → Prop) : Prop := ∀ node, ¬ TransGen edge node node

theorem acyclic_empty (none : ∀ first second, ¬ edge first second) : Acyclic edge := by
  intro node cycle
  obtain ⟨_, step, _⟩ := TransGen.head'_iff.mp cycle
  exact none _ _ step

/-- What holds of a node and passes along edges holds of everything it leads to. -/
theorem reached_of_closed {property : α → Prop}
    (closed : ∀ first second, property first → edge first second → property second) {start node : α}
    (holds : property start) (path : ReflTransGen edge start node) : property node := by
  induction path with
  | refl => exact holds
  | tail _ step ih => exact closed _ _ ih step

/-- A path in the grown graph is an old one, or leads to the source of the new edges and
on from one of their ends. -/
theorem path_cases
    (steps : ∀ first second, grown first second → edge first second ∨ first = source ∧ ends second)
    (unreached : ∀ last, ends last → ¬ ReflTransGen edge last source) {first second : α}
    (path : TransGen grown first second) : TransGen edge first second ∨
      ReflTransGen edge first source ∧ ∃ last, ends last ∧ ReflTransGen edge last second := by
  induction path with
  | single step =>
    rcases steps _ _ step with old | ⟨rfl, isEnd⟩
    · exact .inl (.single old)
    · exact .inr ⟨.refl, _, isEnd, .refl⟩
  | tail _ step ih =>
    rcases ih with older | ⟨toSource, last, isEnd, onward⟩
    · rcases steps _ _ step with old | ⟨rfl, isEnd⟩
      · exact .inl (older.tail old)
      · exact .inr ⟨older.to_reflTransGen, _, isEnd, .refl⟩
    · rcases steps _ _ step with old | ⟨rfl, _⟩
      · exact .inr ⟨toSource, last, isEnd, onward.tail old⟩
      · exact absurd onward (unreached last isEnd)

theorem Acyclic.grow (acyclic : Acyclic edge)
    (steps : ∀ first second, grown first second → edge first second ∨ first = source ∧ ends second)
    (unreached : ∀ last, ends last → ¬ ReflTransGen edge last source) : Acyclic grown := by
  intro node cycle
  rcases path_cases steps unreached cycle with old | ⟨toSource, last, isEnd, back⟩
  · exact acyclic node old
  · exact unreached last isEnd (back.trans toSource)

end Graphs
