import Mathlib.Data.List.Sort
import StellarSwipe.Host

/-!
# Quorum prices

Providers observe prices. Each authorized provider has one vote, for the price of its latest
observation; the median is the price once there are enough votes and none is too far from it.
-/

namespace StellarSwipe.Oracle

inductive OracleError where
  | futureTimestamp
  | invalidPrice
  | duplicateObservation
  | insufficientOracles
  | unreliablePrice
deriving DecidableEq

structure Observation where
  provider : Address
  price : Amount
  sequence : Nat
  timestamp : Nat
deriving DecidableEq

structure QuorumConfig where
  minQuorum : Nat
  maxDeviationBps : Amount

/-- Where an observation goes among the ones admitted so far. -/
inductive Admission where
  | append
  | replace (index : Nat)

/-- Decide how an observation enters the ones admitted so far, given by their providers and
sequences from an index on. -/
def admitFrom (source : Address) (sequence : Nat) :
    Nat → List (Address × Nat) → Except OracleError Admission
  | _, [] => .ok .append
  | index, (existingSource, existingSequence) :: rest =>
    if existingSource = source then
      if sequence ≤ existingSequence then .error .duplicateObservation
      else .ok (.replace index)
    else admitFrom source sequence (index + 1) rest

def admitObservation (pending : List (Address × Nat)) (source : Address) (sequence : Nat) :
    Except OracleError Admission :=
  admitFrom source sequence 0 pending

structure Vote where
  provider : Address
  sequence : Nat
  price : Int
deriving DecidableEq

def Observation.vote (observation : Observation) : Vote :=
  ⟨observation.provider, observation.sequence, observation.price⟩

def receive (votes : List Vote) (observation : Observation) : List Vote :=
  match admitObservation (votes.map fun vote => (vote.provider, vote.sequence))
    observation.provider observation.sequence with
  | .ok .append => votes ++ [observation.vote]
  | .ok (.replace index) => votes.set index observation.vote
  | .error _ => votes

/-- Go through the observations. A price that is not positive stops this, whoever its
provider is. -/
def collectVotes (authorized : List Address) :
    List Observation → List Vote → Except (Fault OracleError) (List Vote)
  | [], votes => .ok votes
  | observation :: rest, votes =>
    if (observation.price : Int) ≤ 0 then .error (.error .invalidPrice)
    else if observation.provider ∈ authorized then
      collectVotes authorized rest (receive votes observation)
    else collectVotes authorized rest votes

/-- Move a price back from the end of the sorted ones, which are listed from their end. -/
def sink (price : Int) : List Int → List Int
  | [] => [price]
  | last :: pre => if price < last then last :: sink price pre else price :: last :: pre

variable (prices : List Int)

/-- Insertion sort. -/
def sortPrices : List Int :=
  (prices.foldl (fun sorted price => sink price sorted) []).reverse

/-- The median, rounded toward zero between the two in the middle. -/
def medianOf : Except (Fault OracleError) Int :=
  let sorted := sortPrices prices
  let mid := sorted.length / 2
  if sorted.length % 2 = 1 then
    match sorted[mid]? with
    | some price => .ok price
    | none => .error .trap
  else if mid = 0 then .error .trap
  else
    match sorted[mid - 1]?, sorted[mid]? with
    | some lower, some upper =>
      match i128.checkedAdd lower upper with
      | some total => .ok (total.tdiv 2)
      | none => .error .trap
    | _, _ => .error .trap

/-- The deviation test, with products that saturate. -/
def deviates (config : QuorumConfig) (median price : Int) : Prop :=
  i128.clamp (median * config.maxDeviationBps) < i128.clamp (|price - median| * 10000)
deriving Decidable

/-- The median of enough prices, none of which is too far from it. -/
def acceptMedian (config : QuorumConfig) (prices : List Int) : Except (Fault OracleError) Int :=
  if prices.length < config.minQuorum then .error (.error .insufficientOracles)
  else do
    let median ← medianOf prices
    if ∃ price ∈ prices, deviates config median price then .error (.error .unreliablePrice)
    else .ok median

def validateQuorum (env : Env) (observations : List Observation) (authorized : List Address)
    (config : QuorumConfig) : Except (Fault OracleError) Int :=
  if ∃ observation ∈ observations, env.timestamp < observation.timestamp then
    .error (.error .futureTimestamp)
  else do
    let votes ← collectVotes authorized observations []
    acceptMedian config (votes.map Vote.price)

theorem sink_perm (price : Int) (sorted : List Int) : (sink price sorted).Perm (price :: sorted) := by
  induction sorted with
  | nil => exact .refl _
  | cons last pre ih =>
    rw [sink]
    split
    next => exact (ih.cons last).trans (.swap price last pre)
    next => exact .refl _

theorem sink_sorted {price : Int} {sorted : List Int} (descending : sorted.Pairwise (· ≥ ·)) :
    (sink price sorted).Pairwise (· ≥ ·) := by
  induction sorted with
  | nil => exact List.pairwise_singleton _ _
  | cons last pre ih =>
    obtain ⟨first, rest⟩ := List.pairwise_cons.mp descending
    rw [sink]
    split
    next below =>
      refine List.pairwise_cons.mpr ⟨fun other inside => ?_, ih rest⟩
      rcases List.mem_cons.mp ((sink_perm price pre).mem_iff.mp inside) with rfl | old
      · exact below.le
      · exact first other old
    next above =>
      refine List.pairwise_cons.mpr ⟨fun other inside => ?_, descending⟩
      rcases List.mem_cons.mp inside with rfl | old
      · exact not_lt.mp above
      · exact (first other old).trans (not_lt.mp above)

/-- Sorting keeps the prices and puts them in order. The induction is on the prices, with
the sorted ones so far. -/
theorem sinking_sorts (sorted : List Int) (descending : sorted.Pairwise (· ≥ ·)) :
    (prices.foldl (fun sorted price => sink price sorted) sorted).Perm (prices ++ sorted) ∧
      (prices.foldl (fun sorted price => sink price sorted) sorted).Pairwise (· ≥ ·) := by
  induction prices generalizing sorted with
  | nil => exact ⟨.refl _, descending⟩
  | cons price rest ih =>
    obtain ⟨same, ordered⟩ := ih (sink price sorted) (sink_sorted descending)
    refine ⟨same.trans ?_, ordered⟩
    exact ((sink_perm price sorted).append_left rest).trans List.perm_middle

theorem sortPrices_perm : (sortPrices prices).Perm prices := by
  have same := (sinking_sorts prices [] List.Pairwise.nil).1
  rw [List.append_nil] at same
  exact (List.reverse_perm _).trans same

theorem sortPrices_sorted : (sortPrices prices).Pairwise (· ≤ ·) :=
  List.pairwise_reverse.mpr (sinking_sorts prices [] List.Pairwise.nil).2

variable {first second : List Int}

theorem sortPrices_congr (same : first.Perm second) : sortPrices first = sortPrices second :=
  (((sortPrices_perm first).trans same).trans (sortPrices_perm second).symm).eq_of_pairwise
    (fun _ _ _ _ below above => le_antisymm below above) (sortPrices_sorted first)
    (sortPrices_sorted second)

theorem medianOf_congr (same : first.Perm second) : medianOf first = medianOf second := by
  simp only [medianOf, sortPrices_congr same]

theorem acceptMedian_congr {config : QuorumConfig} (same : first.Perm second) :
    acceptMedian config first = acceptMedian config second := by
  simp only [acceptMedian, medianOf_congr same, same.length_eq, same.mem_iff]

end StellarSwipe.Oracle
