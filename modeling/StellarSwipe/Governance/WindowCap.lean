import StellarSwipe.Governance.ContractEffects

/-!
# The cap of the spend window

What the treasury spends of an asset in a window is added up over the transitions since the window
was last set.
-/

namespace StellarSwipe.Governance

open FixedWidth Program Runs

variable (call : GovernanceCall)

/-- The call is one of the paths on which the treasury spends: a spend, recurring payments, and the
actions of proposals. -/
def GovernanceCall.Spends : Prop :=
  match call with
  | .treasury (.spend _ _ _ _ _ _ _ _) | .treasury (.processRecurring _)
  | .proposal (.finalize _) | .proposal (.execute _ _) | .timelock _ => True
  | _ => False

instance : Decidable call.Spends := by
  unfold GovernanceCall.Spends
  rcases call with _ | _ <;> first
    | infer_instance
    | rename_i call; rcases call with _ | _ <;> infer_instance

def GovernanceCall.SetsWindow : Prop :=
  match call with
  | .settings (.setSpendWindow _ _ _) => True
  | _ => False

instance : Decidable call.SetsWindow := by
  unfold GovernanceCall.SetsWindow
  split <;> infer_instance

namespace GovTransition

variable (taken : GovTransition)

def spent (asset : Asset) : Int :=
  if taken.input.call.Spends then
    Table.read taken.pre.store.treasury.assets asset -
      Table.read taken.after.store.treasury.assets asset
  else 0

/-- The transition set the spend window. -/
def Resets : Prop := taken.Returned ∧ taken.input.call.SetsWindow
deriving Decidable

/-- The call arrived in the window that starts at a time. -/
def InWindow (start : Nat) : Prop :=
  ∃ config ∈ taken.pre.store.window.config, config.windowStartFor taken.now = start
deriving Decidable

end GovTransition

/-- What was spent of an asset in a window since the window was last set. -/
def windowSpent (asset : Asset) (start : Nat) (past : List GovTransition) : Int :=
  past.foldl (fun total taken =>
    if taken.Resets then 0
    else if taken.InWindow start then total + taken.spent asset
    else total) 0

/-- No window, the one of now or an earlier one, saw more of an asset spent than the cap. -/
def WindowLaw (past : List GovTransition) (store : GovStore) : Prop :=
  ∀ config, store.window.config = some config → ∀ asset start,
    windowSpent asset start past ≤ config.cap

/-- What one transition does to the spend window. -/
inductive WindowStep (taken : GovTransition) : Prop where
  /-- No window is set. -/
  | unset (unset : taken.pre.store.window.config = none)
      (same : taken.after.store.window = taken.pre.store.window)
      (keeps : ¬ taken.Resets)
  /-- Nothing is spent. -/
  | idle (same : taken.after.store.window = taken.pre.store.window)
      (unspent : ∀ asset, taken.spent asset = 0) (keeps : ¬ taken.Resets)
  /-- The window is set. -/
  | reset {config : SpendWindowConfig} (resets : taken.Resets) (lasting : config.windowSecs ≠ 0)
      (pos : 0 < config.cap) (anchor : config.anchor = taken.now)
      (written : taken.after.store.window = ⟨some config, some ⟨taken.now, 0⟩⟩)
  /-- An amount is spent through the window. -/
  | metered {config : SpendWindowConfig} {state : SpendWindowState} {amount : Int}
      (keeps : ¬ taken.Resets)
      (current : taken.pre.store.window.current taken.now = some (config, state))
      (pos : 0 < amount) (within : state.spent + amount ≤ config.cap)
      (spends : ∀ asset, taken.spent asset ≤ amount)
      (written : taken.after.store.window = ⟨some config,
        some { state with spent := state.spent + amount }⟩)

/-- The stored window with the sums of what was spent: the sum of the stored window is at
most what is recorded, and nothing is spent yet in later ones. -/
structure WindowHistory (past : List GovTransition) (window : SpendWindow)
    (timestamp : Nat) (config : SpendWindowConfig) (state : SpendWindowState) : Prop where
  configured : window.config = some config
  has : window.state = some state
  lasting : config.windowSecs ≠ 0
  pos : 0 < config.cap
  begun : config.anchor ≤ timestamp
  reached : state.windowStart ≤ config.windowStartFor timestamp
  recorded : 0 ≤ state.spent ∧ state.spent ≤ config.cap
  capped : ∀ asset start, windowSpent asset start past ≤ config.cap
  counted : ∀ asset, windowSpent asset state.windowStart past ≤ state.spent
  later : ∀ asset start, state.windowStart < start → windowSpent asset start past = 0

section Histories

variable {past : List GovTransition} {taken : GovTransition} {start : Nat}
  {asset : Asset}

theorem windowSpent_of_resets (resets : taken.Resets) :
    windowSpent asset start (past ++ [taken]) = 0 := by
  simp only [windowSpent, List.foldl_append, List.foldl_cons, List.foldl_nil, if_pos resets]

theorem windowSpent_of_keeps (keeps : ¬ taken.Resets) :
    windowSpent asset start (past ++ [taken]) = windowSpent asset start past +
      if taken.InWindow start then taken.spent asset else 0 := by
  simp only [windowSpent, List.foldl_append, List.foldl_cons, List.foldl_nil, if_neg keeps]
  split
  · rfl
  · rw [Int.add_zero]

theorem windowSpent_of_unspent (keeps : ¬ taken.Resets) (unspent : taken.spent asset = 0) :
    windowSpent asset start (past ++ [taken]) = windowSpent asset start past := by
  rw [windowSpent_of_keeps keeps, unspent, ite_self, Int.add_zero]

theorem SpendWindowConfig.windowStartFor_mono (config : SpendWindowConfig) {prior later : Nat}
    (passed : prior ≤ later) : config.windowStartFor prior ≤ config.windowStartFor later := by
  have whole : ∀ elapsed, elapsed - elapsed % config.windowSecs =
      config.windowSecs * (elapsed / config.windowSecs) := by
    intro elapsed
    have split := Nat.div_add_mod elapsed config.windowSecs
    omega
  simp only [windowStartFor, whole]
  have quotients := Nat.div_le_div_right (c := config.windowSecs)
    (Nat.sub_le_sub_right passed config.anchor)
  exact Nat.add_le_add_left (Nat.mul_le_mul_left _ quotients) _

theorem SpendWindowConfig.windowStartFor_anchor (config : SpendWindowConfig) :
    config.windowStartFor config.anchor = config.anchor := by
  simp [windowStartFor]

variable {config : SpendWindowConfig}

theorem WindowHistory.of_resets (resets : taken.Resets) (lasting : config.windowSecs ≠ 0)
    (pos : 0 < config.cap) (anchor : config.anchor = taken.now)
    (written : taken.after.store.window = ⟨some config, some ⟨taken.now, 0⟩⟩) :
    WindowHistory (past ++ [taken]) taken.after.store.window taken.now config ⟨taken.now, 0⟩ := by
  refine ⟨by rw [written], by rw [written], lasting, pos, anchor.le, ?_,
    ⟨le_refl 0, pos.le⟩, fun asset start => ?_, fun asset => ?_,
    fun asset start after => windowSpent_of_resets resets⟩
  · rw [← anchor, config.windowStartFor_anchor]
  · rw [windowSpent_of_resets resets]
    exact pos.le
  · rw [windowSpent_of_resets resets]

theorem WindowStep.begin (step : WindowStep taken) (unset : taken.pre.store.window.config = none) :
    taken.after.store.window.config = none ∨ ∃ config state,
      WindowHistory (past ++ [taken]) taken.after.store.window taken.now config state := by
  cases step with
  | unset unset same => exact .inl (same ▸ unset)
  | idle same => exact .inl (same ▸ unset)
  | reset resets lasting pos anchor written =>
    exact .inr ⟨_, _, .of_resets resets lasting pos anchor written⟩
  | metered keeps current =>
    rw [SpendWindow.current, unset] at current
    cases current

theorem WindowHistory.step {state : SpendWindowState}
    (history : WindowHistory past taken.pre.store.window taken.pre.timestamp config state)
    (step : WindowStep taken) :
    ∃ config state, WindowHistory (past ++ [taken]) taken.after.store.window taken.now config
      state := by
  have passed : taken.pre.timestamp ≤ taken.now := Nat.le_add_right _ _
  have reached := history.reached.trans (config.windowStartFor_mono passed)
  cases step with
  | unset unset =>
    rw [history.configured] at unset
    cases unset
  | idle same unspent keeps =>
    refine ⟨config, state, same ▸ history.configured, same ▸ history.has, history.lasting,
      history.pos, history.begun.trans passed, reached, history.recorded,
      fun asset start => ?_, fun asset => ?_, fun asset start after => ?_⟩
    · rw [windowSpent_of_unspent keeps (unspent asset)]
      exact history.capped asset start
    · rw [windowSpent_of_unspent keeps (unspent asset)]
      exact history.counted asset
    · rw [windowSpent_of_unspent keeps (unspent asset)]
      exact history.later asset start after
  | reset resets lasting pos anchor written =>
    exact ⟨_, _, .of_resets resets lasting pos anchor written⟩
  | @metered current used amount keeps hit pos within spends written =>
    -- The window of now is the stored one, or a later one in which nothing is spent yet.
    obtain ⟨rfl, opened, now, started⟩ : current = config ∧ 0 ≤ used.spent ∧
        used.windowStart = config.windowStartFor taken.now ∧
        ∀ asset, windowSpent asset used.windowStart past ≤ used.spent := by
      simp only [SpendWindow.current, history.configured, history.has, Option.map_some,
        Option.getD_some, Option.some.injEq, Prod.mk.injEq] at hit
      obtain ⟨rfl, chosen⟩ := hit
      refine ⟨rfl, ?_⟩
      split at chosen
      next same =>
        subst chosen
        exact ⟨history.recorded.1, same, history.counted⟩
      next other =>
        subst chosen
        refine ⟨le_refl 0, rfl, fun asset => ?_⟩
        rw [history.later asset _ (lt_of_le_of_ne reached other)]
    have onward : state.windowStart ≤ used.windowStart := now ▸ reached
    have inside : ∀ start, taken.InWindow start ↔ start = used.windowStart := by
      intro start
      simp only [GovTransition.InWindow, history.configured, Option.mem_some_iff,
        exists_eq_left', now]
      exact eq_comm
    have added : ∀ asset, windowSpent asset used.windowStart (past ++ [taken]) ≤
        used.spent + amount := by
      intro asset
      rw [windowSpent_of_keeps keeps, if_pos ((inside _).mpr rfl)]
      exact Int.add_le_add (started asset) (spends asset)
    refine ⟨current, { used with spent := used.spent + amount }, by rw [written], by rw [written],
      history.lasting, history.pos, history.begun.trans passed, now.le, ⟨?_, within⟩,
      fun asset start => ?_, added, fun asset start after => ?_⟩
    · simp only
      omega
    · by_cases here : start = used.windowStart
      · rw [here]
        exact (added asset).trans within
      · rw [windowSpent_of_keeps keeps, if_neg (mt (inside start).mp here), Int.add_zero]
        exact history.capped asset start
    · have distinct : start ≠ used.windowStart := ne_of_gt after
      rw [windowSpent_of_keeps keeps, if_neg (mt (inside start).mp distinct), Int.add_zero]
      exact history.later asset start (onward.trans_lt after)

end Histories

end StellarSwipe.Governance
