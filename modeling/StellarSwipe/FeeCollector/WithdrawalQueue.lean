import StellarSwipe.FeeCollector.Effects
import StellarSwipe.Library.Matching

/-!
# Treasury withdrawals wait a day

A withdrawal is executed only from the single slot that a request fills, a day after the request,
and empties the slot.
-/

namespace StellarSwipe.FeeCollector

open Program Runs Matching

namespace Taken

variable (taken : Taken)

def time : Nat := taken.input.env.timestamp

/-- The call is a request for the payment, and it is queued. -/
def Queues (recipient token : Address) (amount : Int) : Prop :=
  taken.input.call = .queueWithdrawal recipient token amount ∧
    Accepts (queueWithdrawal taken.input.env recipient token amount) taken.pre

def Pays (recipient token : Address) (amount : Int) : Prop :=
  taken.input.call = .withdrawTreasuryFees recipient token amount ∧
    Accepts (withdrawTreasuryFees taken.input.env recipient token amount) taken.pre

def Executes : Prop := ∃ recipient token amount, taken.Pays recipient token amount

/-- The call executes the payment that the earlier call requested, a day after it. -/
def Fulfils (request taken : Taken) : Prop :=
  ∃ recipient token amount, request.Queues recipient token amount ∧
    taken.Pays recipient token amount ∧ request.time + secondsPerDay ≤ taken.time

end Taken

/-- The request in the slot was made earlier, and nothing has been executed since. -/
def SlotLog (past : List Taken) (world : World) : Prop :=
  ∀ queued, world.store.queuedWithdrawal = some queued →
    ∃ prior request between, past = prior ++ request :: between ∧
      request.Queues queued.recipient queued.token queued.amount ∧
      request.time = queued.queuedAt ∧ ∀ other ∈ between, ¬ other.Executes

section Steps

variable {past : List Taken} {pre : World} {input : Input}

theorem SlotLog.idle (log : SlotLog past pre)
    (same : (step input pre).store.queuedWithdrawal = pre.store.queuedWithdrawal)
    (idle : ¬ (taking input pre).Executes) :
    SlotLog (past ++ [taking input pre]) (step input pre) := by
  intro queued has
  obtain ⟨prior, request, between, rfl, requested, time, quiet⟩ :=
    log queued (same.symm.trans has)
  refine ⟨prior, request, between ++ [taking input pre], by simp, requested, time, ?_⟩
  intro other mem
  rcases List.mem_append.mp mem with inside | now
  · exact quiet other inside
  · exact List.mem_singleton.mp now ▸ idle

/-- Every call keeps the log. The cases are the two calls that reach the slot, each
returning or not, and the rest. -/
theorem SlotLog.step (log : SlotLog past pre) :
    SlotLog (past ++ [taking input pre]) (FeeCollector.step input pre) := by
  obtain ⟨env, feed, call⟩ := input
  have silent (quiet : call.KeepsQueued) :
      SlotLog (past ++ [taking ⟨env, feed, call⟩ pre])
        (FeeCollector.step ⟨env, feed, call⟩ pre) := by
    apply log.idle
    · exact step_rule
        (fun after => after.store.queuedWithdrawal = pre.store.queuedWithdrawal) rfl
        (exec_queued env feed pre quiet)
    · rintro ⟨_, _, _, rfl, _⟩
      exact quiet
  cases call
  case queueWithdrawal recipient token amount =>
    by_cases returns : Accepts (queueWithdrawal env recipient token amount) pre
    · obtain ⟨_, ran⟩ := gave_of_accepts returns
      have filled := wp_ok (queueWithdrawal_spec env pre recipient token amount) ran
      intro queued has
      have reached : FeeCollector.step ⟨env, feed, .queueWithdrawal recipient token amount⟩ pre =
          pre.setQueued (some ⟨recipient, token, amount, env.timestamp⟩) :=
        (invoke_of_ok ran).trans filled
      rw [reached] at has
      cases has
      exact ⟨past, _, [], rfl, ⟨rfl, returns⟩, rfl, by simp⟩
    · apply log.idle
      · simp only [FeeCollector.step, exec, invoke_of_rejected returns]
      · rintro ⟨_, _, _, other, _⟩
        cases other
  case withdrawTreasuryFees recipient token amount =>
    by_cases returns : Accepts (withdrawTreasuryFees env recipient token amount) pre
    · obtain ⟨_, ran⟩ := gave_of_accepts returns
      have emptied := (wp_ok (withdrawTreasuryFees_spec env pre recipient token amount) ran).2.1
      intro queued has
      have reached : (FeeCollector.step ⟨env, feed, .withdrawTreasuryFees recipient token amount⟩
          pre).store.queuedWithdrawal = none := by
        simpa only [FeeCollector.step, exec] using emptied
      exact absurd (reached.symm.trans has) (by simp)
    · apply log.idle
      · simp only [FeeCollector.step, exec, invoke_of_rejected returns]
      · rintro ⟨_, _, _, same, accepted⟩
        cases same
        exact returns accepted
  all_goals exact silent trivial

theorem SlotLog.fulfilled (log : SlotLog past pre) (executes : (taking input pre).Executes) :
    AnswersOpen Taken.Executes Taken.Fulfils past (taking input pre) := by
  obtain ⟨recipient, token, amount, call, accepted⟩ := executes
  obtain ⟨_, ran⟩ := gave_of_accepts accepted
  obtain ⟨queuedAt, has, elapsed⟩ :=
    (wp_ok (withdrawTreasuryFees_spec _ _ recipient token amount) ran).1
  obtain ⟨prior, request, between, split, requested, time, quiet⟩ := log _ has
  refine ⟨prior, request, between, split, ?_, quiet⟩
  exact ⟨recipient, token, amount, requested, ⟨call, accepted⟩, time ▸ elapsed⟩

end Steps

/-- In every run the executed treasury withdrawals are matched one to one with earlier
requests for the same recipient, token and amount, each made at least a day before its
withdrawal. -/
theorem withdrawals_matched (self : Address) (tokens : Tokens)
    (pendingFees : Table (Address × Address) Int) (inputs : List Input) :
    let run := trace step (World.deployed self tokens pendingFees) inputs
    ∃ requestOf : Nat → Nat,
      Set.InjOn requestOf {place | ∃ taken, run[place]? = some taken ∧ Taken.Executes taken} ∧
      ∀ place taken, run[place]? = some taken → Taken.Executes taken →
        requestOf place < place ∧
          ∃ request, run[requestOf place]? = some request ∧ Taken.Fulfils request taken := by
  apply matching_of_open
  · rintro request taken ⟨_, _, _, queues, _⟩ ⟨_, _, _, call, _⟩
    exact absurd (queues.1.symm.trans call) (by simp)
  · intro past taken later split executes
    obtain ⟨same, starts, steps⟩ := transitions_split step _ split
    have log : SlotLog past taken.pre := by
      have logged := history_invariant step SlotLog (fun _ _ => True)
        (fun _ _ _ _ log => log.step) (World.deployed self tokens pendingFees)
        (fun _ absent => by cases absent) (past.map Transition.input) fun _ _ => trivial
      rwa [same, ← starts] at logged
    have taking : taken = taking taken.input taken.pre := by
      rw [FeeCollector.taking, ← steps]
    rw [taking] at executes ⊢
    exact log.fulfilled executes

end StellarSwipe.FeeCollector
