import Mathlib.Data.List.Basic
import Mathlib.Data.Set.Function

/-!
# Answers matched to requests

In a list of events some execute a request that was made earlier.
-/

namespace Matching

variable {ε : Type} {executes : ε → Prop} {answers : ε → ε → Prop}

def AnswersOpen (executes : ε → Prop) (answers : ε → ε → Prop) (past : List ε) (event : ε) : Prop :=
  ∃ prior request between, past = prior ++ request :: between ∧ answers request event ∧
    ∀ other ∈ between, ¬ executes other

/-- An earlier place whose event is answered, with nothing executed in between. -/
structure OpenAt (executes : ε → Prop) (answers : ε → ε → Prop) (run : List ε) (place : Nat)
    (event : ε) (request : Nat) : Prop where
  prior : request < place
  answered : ∃ asked, run[request]? = some asked ∧ answers asked event
  quiet : ∀ between other, request < between → between < place → run[between]? = some other →
    ¬ executes other

variable {run : List ε}

theorem openAt_of_answersOpen {place : Nat} {event : ε} (placed : run[place]? = some event)
    (open_ : AnswersOpen executes answers (run.take place) event) :
    ∃ request, OpenAt executes answers run place event request := by
  obtain ⟨prior, asked, between, split, answered, quiet⟩ := open_
  obtain ⟨inside, _⟩ := List.getElem?_eq_some_iff.mp placed
  have length : prior.length + (between.length + 1) = place := by
    have lengths := congrArg List.length split
    simp only [List.length_take, List.length_append, List.length_cons] at lengths
    omega
  have taken {index : Nat} (pre : index < place) :
      run[index]? = (prior ++ asked :: between)[index]? := by
    rw [← split, List.getElem?_take_of_lt pre]
  refine ⟨prior.length, by omega, ⟨asked, ?_, answered⟩, ?_⟩
  · rw [taken (by omega)]
    simp
  · intro index other after pre hit
    apply quiet other
    rw [taken pre, List.getElem?_append_right (by omega)] at hit
    obtain ⟨offset, same⟩ : ∃ offset, index - prior.length = offset + 1 :=
      ⟨index - prior.length - 1, by omega⟩
    rw [same, List.getElem?_cons_succ] at hit
    exact List.mem_of_getElem? hit

/-- Two executions answer different requests: the later one's request comes after the
earlier one. -/
theorem OpenAt.separate {first second firstRequest secondRequest : Nat} {prior later : ε}
    (apart : ∀ asked event, answers asked event → ¬ executes asked)
    (placed : run[first]? = some prior) (executed : executes prior) (order : first < second)
    (firstOpen : OpenAt executes answers run first prior firstRequest)
    (secondOpen : OpenAt executes answers run second later secondRequest) :
    firstRequest < secondRequest := by
  apply firstOpen.prior.trans
  by_contra notAfter
  rcases Nat.lt_or_eq_of_le (Nat.le_of_not_lt notAfter) with pre | same
  · exact secondOpen.quiet first prior pre order placed executed
  · obtain ⟨asked, hit, answered⟩ := secondOpen.answered
    rw [same, placed] at hit
    cases hit
    exact apart prior later answered executed

/-- When every execution answers an open request, the executions are matched one to one
with earlier requests that they answer. -/
theorem matching_of_open
    (apart : ∀ asked event, answers asked event → ¬ executes asked)
    (open_ : ∀ past event later, run = past ++ event :: later → executes event →
      AnswersOpen executes answers past event) : ∃ requestOf : Nat → Nat,
      Set.InjOn requestOf {place | ∃ event, run[place]? = some event ∧ executes event} ∧
      ∀ place event, run[place]? = some event → executes event → requestOf place < place ∧
          ∃ asked, run[requestOf place]? = some asked ∧ answers asked event := by
  classical
  have hit : ∀ place, ∃ request, ∀ event, run[place]? = some event → executes event →
      OpenAt executes answers run place event request := by
    intro place
    cases placed : run[place]? with
    | none => exact ⟨0, fun _ absent => by cases absent⟩
    | some event =>
      by_cases executed : executes event
      · obtain ⟨inside, rfl⟩ := List.getElem?_eq_some_iff.mp placed
        have split : run = run.take place ++ run[place] :: run.drop (place + 1) := by simp
        obtain ⟨request, openAt⟩ := openAt_of_answersOpen placed (open_ _ _ _ split executed)
        refine ⟨request, fun other same _ => ?_⟩
        cases same
        exact openAt
      · exact ⟨0, fun other same executes => absurd (Option.some.inj same ▸ executes) executed⟩
  choose requestOf openAt using hit
  refine ⟨requestOf, ?_, fun place event placed executed =>
    ⟨(openAt place event placed executed).prior, (openAt place event placed executed).answered⟩⟩
  rintro first ⟨prior, firstPlaced, firstExecuted⟩ second ⟨later, secondPlaced, secondExecuted⟩
    same
  have firstOpen := openAt first prior firstPlaced firstExecuted
  have secondOpen := openAt second later secondPlaced secondExecuted
  rcases Nat.lt_trichotomy first second with order | equal | order
  · exact absurd same
      (firstOpen.separate apart firstPlaced firstExecuted order secondOpen).ne
  · exact equal
  · exact absurd same.symm
      (secondOpen.separate apart secondPlaced secondExecuted order firstOpen).ne

end Matching
