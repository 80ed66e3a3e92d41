import StellarSwipe.Host
import StellarSwipe.Library.IntegerRoot

/-!
# Errors, arithmetic and access of governance

The governance contract's error codes, several of which serve more than one meaning, and the
arithmetic its modules share: checked operations that return an error, saturating ones that clamp,
and the integer square root.
-/

namespace StellarSwipe.Governance

open FixedWidth Program

/-- The error codes that the modelled functions return. -/
inductive GovernanceError where
  | notInitialized
  | unauthorized
  | invalidSupply
  | invalidAmount
  | invalidDuration
  | insufficientBalance
  | insufficientStakedBalance
  | activeVoteLock
  | arithmeticOverflow
  | invalidMetadata
  | budgetNotFound
  | budgetExceeded
  | budgetPeriodEnded
  | missingAssetPrice
  | invalidTreasuryConfig
  | invalidCommitteeConfig
  | alreadyVoted
  | crossCommitteeRequestNotFound
  | invalidCommitteeAction
  | invalidGovernanceConfig
  | invalidProposal
  | proposalNotFound
  | proposalNotActive
  | proposalNotApproved
  | votingNotStarted
  | votingEnded
  | noVotingPower
  | timelockNotInitialized
  | actionNotFound
  | invalidTimelockConfig
  | convictionPoolNotFound
deriving DecidableEq

namespace GovernanceError

/-! The contract is at its limit of codes, so several errors share one. -/

abbrev budgetApprovalRequired : GovernanceError := budgetNotFound

abbrev approvedCapExceeded : GovernanceError := budgetExceeded

abbrev contractPaused : GovernanceError := unauthorized

abbrev invalidCalibrationConfig : GovernanceError := invalidGovernanceConfig

abbrev discussionPeriodActive : GovernanceError := votingNotStarted

abbrev proposalAlreadyWithdrawn : GovernanceError := proposalNotActive

abbrev invalidDecayRate : GovernanceError := invalidGovernanceConfig

abbrev proposalExpired : GovernanceError := budgetPeriodEnded

abbrev proposalParameterOutOfRange : GovernanceError := invalidAmount

abbrev timelockBypassBlocked : GovernanceError := unauthorized

end GovernanceError

def checkedOr (value : Option Int) : Except GovernanceError Int :=
  match value with
  | some exact => .ok exact
  | none => .error .arithmeticOverflow

def checkedAdd (left right : Int) : Except GovernanceError Int :=
  checkedOr (i128.checkedAdd left right)

def checkedSub (left right : Int) : Except GovernanceError Int :=
  checkedOr (i128.checkedSub left right)

def checkedMul (left right : Int) : Except GovernanceError Int :=
  checkedOr (i128.checkedMul left right)

def checkedDiv (left right : Int) : Except GovernanceError Int :=
  checkedOr (i128.checkedDiv left right)

/-- Saturating multiplication of amounts. -/
def saturatingMul (left right : Int) : Int := i128.clamp (left * right)

def u128Max : Nat := 2 ^ 128 - 1

/-- The floor of the square root of an unsigned number, by Newton's iteration from the
first mean that is not above the number. -/
def isqrtU128 (number : Nat) : Nat :=
  if number = 0 then 0 else IntegerRoot.descend number number number

/-- The square root of an amount, zero for one that is not positive. -/
def isqrt (amount : Int) : Int :=
  if amount ≤ 0 then 0 else isqrtU128 amount.toNat

theorem isqrt_eq_sqrt (amount : Int) : isqrt amount = Nat.sqrt amount.toNat := by
  simp only [isqrt, isqrtU128]
  split
  next nonpositive =>
    have zero : amount.toNat = 0 := by omega
    simp [zero]
  next pos =>
    have nonzero : amount.toNat ≠ 0 := by omega
    rw [if_neg nonzero, IntegerRoot.descend_eq_sqrt (by omega) (le_refl _) (Nat.sqrt_le_self _)]

/-- The loop on the machine's numbers, with every sum checked. There is no result where a sum
overflows or the loop goes on for longer than the given rounds. -/
def isqrtLoop (number : Nat) : Nat → Nat → Nat → Option Nat
  | 0, _, _ => none
  | rounds + 1, x, y =>
    if y < x then do
      let sum ← checkedCount u128Max y (number / y)
      isqrtLoop number rounds y (sum / 2)
    else some x

def isqrtChecked (rounds number : Nat) : Option Nat :=
  if number = 0 then some 0
  else do
    let half ← checkedCount u128Max (number / 2) (number % 2)
    isqrtLoop number rounds number half

/-- From a guess above the root the loop ends at the root within as many rounds as the guess,
and no sum overflows. The induction is on the rounds. -/
theorem isqrtLoop_eq {number x rounds : Nat} (pos : 0 < number) (held : number ≤ u128Max)
    (enough : x < rounds) (above : Nat.sqrt number ≤ x) (below : x ≤ number) :
    isqrtLoop number rounds x (IntegerRoot.mean number x) = some (Nat.sqrt number) := by
  have root : 0 < Nat.sqrt number := Nat.sqrt_pos.mpr pos
  induction rounds generalizing x with
  | zero => omega
  | succ rounds ih =>
    rw [isqrtLoop]
    split
    next improved =>
      have next_above : Nat.sqrt number ≤ IntegerRoot.mean number x :=
        IntegerRoot.sqrt_le_mean (by omega)
      generalize IntegerRoot.mean number x = y at improved next_above
      have room : y + number / y ≤ u128Max := by
        by_cases small : y = 1
        · have tiny : number < 2 ^ 2 := Nat.sqrt_lt'.mp (by omega)
          subst small
          simp only [u128Max, Nat.div_one]
          omega
        · exact (IntegerRoot.add_quotient_le (by omega) (by omega)).trans held
      rw [(checkedCount_eq_some ..).mpr ⟨room, rfl⟩]
      exact ih (by omega) next_above (by omega)
    next settled =>
      have root_below : x ≤ Nat.sqrt number :=
        IntegerRoot.le_sqrt_of_settled (by omega) (by omega)
      rw [Nat.le_antisymm root_below above]

/-- For every number of the machine type the loop ends within the rounds of the number and one
more, without an overflow, at the floor of the square root, which is a machine amount too. -/
theorem isqrt_exact (number : Nat) (held : number ≤ u128Max) : ∃ root : Nat,
    isqrtChecked (number + 1) number = some root ∧ isqrt number = root ∧
      root * root ≤ number ∧ number < (root + 1) * (root + 1) ∧ i128.Holds root := by
  have below := Nat.sqrt_le number
  have above := Nat.lt_succ_sqrt number
  refine ⟨Nat.sqrt number, ?_, isqrt_eq_sqrt number, below, above, ?_⟩
  · rw [isqrtChecked]
    split
    next zero => rw [zero, Nat.sqrt_zero]
    next nonzero =>
      have pos : 0 < number := Nat.pos_of_ne_zero nonzero
      have half : number / 2 + number % 2 = IntegerRoot.mean number number := by
        rw [IntegerRoot.mean, Nat.div_self pos]
        omega
      rw [(checkedCount_eq_some ..).mpr ⟨by omega, half⟩]
      exact isqrtLoop_eq pos held (by omega) (Nat.sqrt_le_self _) (le_refl _)
  · have root : Nat.sqrt number < 2 ^ 64 := Nat.sqrt_lt'.mpr (by simp only [u128Max] at held; omega)
    simp only [Range.Holds, i128_low, i128_high]
    omega

/-- The root of a hundred and one. -/
theorem isqrt_hundred_one : ∃ root : Nat,
    isqrtChecked 102 101 = some root ∧ isqrt 101 = root ∧ root * root ≤ 101 ∧
      101 < (root + 1) * (root + 1) ∧ i128.Holds root :=
  isqrt_exact 101 (by decide)

theorem isqrt_nonneg (amount : Int) : 0 ≤ isqrt amount := by
  rw [isqrt_eq_sqrt]
  omega

variable {left right : Int}

theorem saturatingMul_nonneg (leftNonneg : 0 ≤ left) (rightNonneg : 0 ≤ right) :
    0 ≤ saturatingMul left right :=
  i128.le_clamp (by decide) (mul_nonneg leftNonneg rightNonneg)

theorem checkedAdd_of_holds (held : i128.Holds (left + right)) :
    checkedAdd left right = .ok (left + right) := by
  simp only [checkedAdd, checkedOr, Range.checkedAdd, Range.checked, if_pos held]

theorem checkedSub_of_holds (held : i128.Holds (left - right)) :
    checkedSub left right = .ok (left - right) := by
  simp only [checkedSub, checkedOr, Range.checkedSub, Range.checked, if_pos held]

theorem checkedOr_ok {value hit : Int} (gave : checkedOr (i128.checked value) = .ok hit) :
    i128.Holds hit ∧ hit = value := by
  simp only [checkedOr] at gave
  split at gave
  next computed =>
    obtain ⟨held, same⟩ := i128.checked_ok computed
    cases gave
    exact ⟨same ▸ held, same.symm⟩
  next => cases gave

theorem checkedAdd_ok {left right sum : Int} (added : checkedAdd left right = .ok sum) :
    i128.Holds sum ∧ sum = left + right :=
  checkedOr_ok added

theorem checkedSub_ok {left right difference : Int}
    (subtracted : checkedSub left right = .ok difference) :
    i128.Holds difference ∧ difference = left - right :=
  checkedOr_ok subtracted

theorem checkedMul_ok {left right product : Int}
    (multiplied : checkedMul left right = .ok product) :
    i128.Holds product ∧ product = left * right :=
  checkedOr_ok multiplied

/-! ## Who may call

Every entry point of governance checks first that the contract is initialized, and
administrative ones that the caller is the stored admin and authorized the call. The
checks read two entries of the storage, whatever else the storage holds.
-/

/-- A storage with the entries that access checks read. -/
class Administered (σ : Type) where
  initialized : σ → Bool
  admin : σ → Option Address

variable {σ : Type} [Administered σ]

def requireInitialized : Program σ GovernanceError Unit := do
  ensure (Administered.initialized (← get) = true) .notInitialized

/-- The host's check that an address authorized this call. -/
def requireAuth (env : Env) (address : Address) : Program σ GovernanceError Unit :=
  demand (address ∈ env.auths)

def requireAdmin (env : Env) (caller : Address) : Program σ GovernanceError Unit := do
  requireInitialized
  requireAuth env caller
  let admin ← orFail (Administered.admin (← get)) .notInitialized
  ensure (admin = caller) .unauthorized

section Rules

variable {pre : σ} {post : Unit → σ → Prop}

theorem wp_initialized : wp requireInitialized post (fun _ _ => True) pre ↔
      (Administered.initialized pre = true → post () pre) := by
  simp [requireInitialized]

omit [Administered σ] in
theorem wp_auth (env : Env) (address : Address) :
    wp (requireAuth env address) post (fun _ _ => True) pre ↔
      (address ∈ env.auths → post () pre) := by
  simp [requireAuth]

theorem wp_requireAdmin (env : Env) (caller : Address) :
    wp (requireAdmin env caller) post (fun _ _ => True) pre ↔
      (Administered.initialized pre = true → caller ∈ env.auths →
        Administered.admin pre = some caller → post () pre) := by
  simp only [requireAdmin, wlp_rules, wp_initialized, wp_auth]
  constructor
  · intro holds initialized authorized has
    exact holds initialized authorized caller has rfl
  · rintro holds initialized authorized admin has rfl
    exact holds initialized authorized has

end Rules

end StellarSwipe.Governance
