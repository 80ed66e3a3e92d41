import StellarSwipe.StakeVault.IndexRuns

/-!
# Conservation of index rewards

Rewards enter with a funding and leave with a claim or the retry of a queued claim; in between
they are owed by the index or by the queue.
-/

namespace StellarSwipe.StakeVault

open Program FixedWidth Runs RewardIndex Table QueuedClaims Call World Tokens

namespace QueuedClaims

variable (claims : QueuedClaims)

def pendingTotal (token : Address) : Int :=
  Table.sum (fun _ claim => if claim.token = token ∧ claim.status = .pending then claim.amount else 0)
    claims.claim

def timesIn (status : QueuedClaimStatus) (claimant : Address) (nonce : Nat) : Nat :=
  match claims.claim.lookup (claimant, nonce) with
  | some claim => if claim.status = status then 1 else 0
  | none => 0

/-- Every claim is filed under its own claimant and nonce, and its nonce is behind the
claimant's next one. -/
structure Filed : Prop where
  keyed : ∀ key claim, claims.claim.lookup key = some claim → key = (claim.claimant, claim.nonce)
  given : ∀ claimant nonce claim, claims.claim.lookup (claimant, nonce) = some claim →
    nonce < claims.nonceOf claimant

theorem filed_empty : Filed .empty where
  keyed _ _ has := by simp [QueuedClaims.empty] at has
  given _ _ _ has := by simp [QueuedClaims.empty] at has

variable {claims}

theorem timesIn_of_stored {claimant : Address} {nonce : Nat} {claim : QueuedClaim}
    (has : claims.claim.lookup (claimant, nonce) = some claim) (status : QueuedClaimStatus) :
    claims.timesIn status claimant nonce = if claim.status = status then 1 else 0 := by
  simp only [timesIn, has]

/-- At most one of two different statuses counts. -/
theorem timesIn_add_le (claims : QueuedClaims) {first second : QueuedClaimStatus}
    (different : first ≠ second) (claimant : Address) (nonce : Nat) :
    claims.timesIn first claimant nonce + claims.timesIn second claimant nonce ≤ 1 := by
  cases has : claims.claim.lookup (claimant, nonce) with
  | none => simp [timesIn, has]
  | some claim =>
    rw [timesIn_of_stored has, timesIn_of_stored has]
    by_cases same : claim.status = first
    · rw [if_pos same, if_neg fun other => different (same.symm.trans other)]
    · rw [if_neg same]
      split <;> omega

section Enqueue

variable (env : Env) (claimant token : Address) (amount : Int)

theorem Filed.fresh (filed : claims.Filed) :
    claims.claim.lookup (claimant, claims.nonceOf claimant) = none := by
  cases has : claims.claim.lookup (claimant, claims.nonceOf claimant) with
  | none => rfl
  | some claim => exact absurd (filed.given _ _ _ has) (lt_irrefl _)

theorem nonceOf_enqueue (other : Address) :
    (claims.enqueue env claimant token amount).nonceOf other =
      if other = claimant then claims.nonceOf claimant + 1 else claims.nonceOf other := by
  simp only [enqueue, put, nonceOf, lookup_insert]
  split <;> rfl

theorem Filed.enqueue (filed : claims.Filed) :
    (claims.enqueue env claimant token amount).Filed := by
  constructor
  case keyed =>
    intro key claim has
    simp only [QueuedClaims.enqueue, put, lookup_insert] at has
    split at has
    next same =>
      cases has
      exact same
    next => exact filed.keyed key claim has
  case given =>
    intro other nonce claim has
    rw [nonceOf_enqueue]
    simp only [QueuedClaims.enqueue, put, lookup_insert] at has
    split at has
    next same =>
      obtain ⟨rfl, rfl⟩ := Prod.mk.inj same
      rw [if_pos rfl]
      exact Nat.lt_succ_self _
    next =>
      have behind := filed.given other nonce claim has
      split
      next same => exact Nat.lt_succ_of_lt (same ▸ behind)
      next => exact behind

theorem Filed.pendingTotal_enqueue (filed : claims.Filed) (tested : Address) :
    (claims.enqueue env claimant token amount).pendingTotal tested =
      claims.pendingTotal tested + inAsset token amount tested := by
  simp only [pendingTotal, QueuedClaims.enqueue, put, sum_insert]
  rw [contribution_of_none (filed.fresh claimant)]
  simp only [inAsset, and_true]
  by_cases same : token = tested
  · rw [if_pos same, if_pos same.symm]
    omega
  · rw [if_neg same, if_neg fun other => same other.symm]
    omega

theorem Filed.timesIn_enqueue (filed : claims.Filed) {status : QueuedClaimStatus}
    (settled : status ≠ .pending) (other : Address) (nonce : Nat) :
    (claims.enqueue env claimant token amount).timesIn status other nonce =
      claims.timesIn status other nonce := by
  simp only [timesIn, QueuedClaims.enqueue, put, lookup_insert]
  by_cases same : (other, nonce) = (claimant, claims.nonceOf claimant)
  · rw [if_pos same, same, filed.fresh claimant]
    simp only [if_neg settled.symm]
  · rw [if_neg same]

end Enqueue

section Settle

variable {claimant : Address} {nonce : Nat} {claim : QueuedClaim}

theorem Filed.settle (filed : claims.Filed)
    (has : claims.claim.lookup (claimant, nonce) = some claim) (status : QueuedClaimStatus) :
    (claims.put { claim with status }).Filed := by
  obtain ⟨rfl, rfl⟩ := Prod.mk.inj (filed.keyed _ claim has)
  constructor
  case keyed =>
    intro key other hit
    simp only [put, lookup_insert] at hit
    split at hit
    next same =>
      cases hit
      exact same
    next => exact filed.keyed key other hit
  case given =>
    intro other number settled hit
    simp only [put, lookup_insert] at hit
    split at hit
    next same =>
      obtain ⟨rfl, rfl⟩ := Prod.mk.inj same
      exact filed.given _ _ claim has
    next => exact filed.given other number settled hit

theorem Filed.pendingTotal_settle (filed : claims.Filed)
    (has : claims.claim.lookup (claimant, nonce) = some claim) (pending : claim.status = .pending)
    {status : QueuedClaimStatus} (settled : status ≠ .pending) (tested : Address) :
    (claims.put { claim with status }).pendingTotal tested =
      claims.pendingTotal tested - inAsset claim.token claim.amount tested := by
  obtain ⟨rfl, rfl⟩ := Prod.mk.inj (filed.keyed _ claim has)
  simp only [pendingTotal, put, sum_insert]
  rw [contribution_of_some has]
  simp only [inAsset, pending, and_true, settled, and_false, if_false, Int.add_zero]
  by_cases same : claim.token = tested
  · rw [if_pos same, if_pos same.symm]
  · rw [if_neg same, if_neg fun other => same other.symm]

theorem Filed.timesIn_settle (filed : claims.Filed)
    (has : claims.claim.lookup (claimant, nonce) = some claim) (pending : claim.status = .pending)
    (status : QueuedClaimStatus) {tested : QueuedClaimStatus} (settled : tested ≠ .pending)
    (other : Address) (number : Nat) :
    (claims.put { claim with status }).timesIn tested other number =
      claims.timesIn tested other number +
        if some (claimant, nonce, status) = some (other, number, tested) then 1 else 0 := by
  obtain ⟨rfl, rfl⟩ := Prod.mk.inj (filed.keyed _ claim has)
  simp only [timesIn, put, lookup_insert, Option.some.injEq, Prod.mk.injEq]
  by_cases same : other = claim.claimant ∧ number = claim.nonce
  · obtain ⟨rfl, rfl⟩ := same
    simp only [has, pending, true_and, if_true, if_neg settled.symm, Nat.zero_add]
  · rw [if_neg same, if_neg fun both => same ⟨both.1.symm, both.2.1.symm⟩, Nat.add_zero]

end Settle

end QueuedClaims

def Call.paysRewards : Call → Bool
  | .claimIndexRewards _ _ => true
  | .claimQueuedWithdrawal _ _ => true
  | _ => false

def Call.fundsRewards : Call → Bool
  | .fundIndexRewards _ _ _ => true
  | _ => false

def Call.resolution : Call → Option (Address × Nat × QueuedClaimStatus)
  | .claimQueuedWithdrawal claimant nonce => some (claimant, nonce, .claimed)
  | .cancelQueuedWithdrawal claimant nonce => some (claimant, nonce, .cancelled)
  | _ => none

theorem Call.still (call : Call) (still : call.movesRewards = false) :
    call.paysRewards = false ∧ call.fundsRewards = false ∧ call.resolution = none := by
  cases call <;> first | exact ⟨rfl, rfl, rfl⟩ | cases still

/-- What of an asset leaves the vault in a step that pays rewards. -/
def paidBy (call : Call) (pre after : World) (asset : Address) : Int :=
  if call.paysRewards = true then
    pre.tokens.balance asset pre.self - after.tokens.balance asset pre.self
  else 0

/-- What of an asset enters the vault in a step that takes rewards in. -/
def fundedBy (call : Call) (pre after : World) (asset : Address) : Int :=
  if call.fundsRewards = true then
    after.tokens.balance asset pre.self - pre.tokens.balance asset pre.self
  else 0

def paidAlong (asset : Address) (run : List (Transition World Input)) : Int :=
  (run.map fun taken => paidBy taken.input.2 taken.pre taken.after asset).sum

def fundedAlong (asset : Address) (run : List (Transition World Input)) : Int :=
  (run.map fun taken => fundedBy taken.input.2 taken.pre taken.after asset).sum

/-- The step returns and resolves a queued claim in this way. -/
def resolves (claimant : Address) (nonce : Nat) (status : QueuedClaimStatus)
    (taken : Transition World Input) : Bool :=
  accepted (exec taken.input.1 taken.input.2) taken.pre &&
    taken.input.2.resolution == some (claimant, nonce, status)

/-- How often a queued claim has been resolved in this way along a run. -/
def timesResolved (claimant : Address) (nonce : Nat) (status : QueuedClaimStatus)
    (run : List (Transition World Input)) : Nat :=
  run.countP (resolves claimant nonce status)

/-- What the vault owes in an asset, in scaled units. -/
def World.rewardsOwed (world : World) (asset : Address) : Int :=
  world.vault.index.owed asset + indexScale * world.vault.claims.pendingTotal asset

/-- What a call that returns does to the rewards: the index stays coherent and the claims
filed, what is owed and paid grows by no more than what is funded, and exactly the claim
that the call names changes its status. -/
structure Flow (call : Call) (pre after : World) : Prop where
  coherent : Coherent after.vault.index
  filed : after.vault.claims.Filed
  kept : ∀ asset, after.rewardsOwed asset + indexScale * paidBy call pre after asset ≤
    pre.rewardsOwed asset + indexScale * fundedBy call pre after asset
  resolved : ∀ claimant nonce status, status ≠ .pending →
    after.vault.claims.timesIn status claimant nonce =
      pre.vault.claims.timesIn status claimant nonce +
        if call.resolution = some (claimant, nonce, status) then 1 else 0

section Steps

variable {env : Env} {pre after : World} {call : Call}

theorem Flow.internal (coherent : Coherent pre.vault.index) (filed : pre.vault.claims.Filed)
    (still : call.movesRewards = false) (kept : KeepsRewards pre after) : Flow call pre after := by
  obtain ⟨unpaid, unfunded, unresolved⟩ := call.still still
  have index := shifts_conserves coherent kept.index
  constructor
  case coherent => exact index.coherent
  case filed => exact kept.claims ▸ filed
  case kept =>
    intro asset
    have owed := index.owed asset
    simp only [rewardsOwed, paidBy, fundedBy, unpaid, unfunded, kept.claims,
      Bool.false_eq_true, if_false, Int.mul_zero, Int.add_zero] at owed ⊢
    omega
  case resolved =>
    intro claimant nonce status _
    simp only [unresolved, kept.claims, reduceCtorEq, if_false, Nat.add_zero]

/-- A funding brings in what the index adds to its debts. -/
theorem fundIndexRewards_flow (coherent : Coherent pre.vault.index)
    (filed : pre.vault.claims.Filed) (funder asset : Address) (amount : Int) :
    wlp (fundIndexRewards env funder asset amount)
      (fun _ after => Flow (.fundIndexRewards funder asset amount) pre after) pre := by
  refine wp_then (fundIndexRewards_spec env pre funder asset amount) ?_
  rintro _ _ ⟨index, other, notified, _, rfl⟩
  have conserves := notifyReward_conserves coherent notified
  refine ⟨conserves.coherent, filed, fun tested => ?_, fun _ _ _ _ => rfl⟩
  have owed := conserves.owed tested
  have received : (pre.tokens.moved asset funder pre.self amount).balance tested pre.self -
      pre.tokens.balance tested pre.self = inAsset asset amount tested := by
    simp only [moved_balance, inAsset, other.symm, and_false, if_false, and_true]
    omega
  simp only [rewardsOwed, paidBy, fundedBy, paysRewards, fundsRewards,
    setIndex, World.setTokens, received, Bool.false_eq_true, if_false, if_true,
    Int.mul_zero, Int.add_zero]
  omega

theorem claimIndexRewards_flow (coherent : Coherent pre.vault.index)
    (filed : pre.vault.claims.Filed) (staker asset : Address) :
    wlp (claimIndexRewards env staker asset)
      (fun _ after => Flow (.claimIndexRewards staker asset) pre after) pre := by
  refine wp_then (claimIndexRewards_spec env pre staker asset) ?_
  rintro _ _ ⟨amount, index, other, _, taken, ⟨_, rfl⟩ | ⟨_, rfl⟩⟩
  all_goals have conserves := takeAccrued_conserves coherent taken
  · refine ⟨conserves.coherent, filed, fun tested => ?_, fun _ _ _ _ => rfl⟩
    have owed := conserves.owed tested
    have paid : pre.tokens.balance tested pre.self -
        (pre.tokens.moved asset pre.self staker amount).balance tested pre.self =
          - inAsset asset (-amount) tested := by
      simp only [moved_balance, inAsset, other.symm, and_false, if_false, and_true]
      split <;> omega
    simp only [rewardsOwed, paidBy, fundedBy, paysRewards, fundsRewards,
      setIndex, World.setTokens, paid, Bool.false_eq_true, if_false, if_true, Int.mul_neg,
      Int.mul_zero, Int.add_zero]
    omega
  · refine ⟨conserves.coherent, filed.enqueue env staker asset amount, fun tested => ?_,
      fun claimant nonce status settled => ?_⟩
    · have owed := conserves.owed tested
      have queued := filed.pendingTotal_enqueue env staker asset amount tested
      have opposite : inAsset asset (-amount) tested = - inAsset asset amount tested := by
        simp only [inAsset]
        split <;> omega
      simp only [opposite, Int.mul_neg] at owed
      simp only [rewardsOwed, paidBy, fundedBy, paysRewards, fundsRewards,
        setIndex, World.setTokens, setClaims, refused_balance, queued,
        Int.sub_self, Bool.false_eq_true, if_false, if_true, Int.mul_add, Int.mul_zero,
        Int.add_zero]
      omega
    · exact filed.timesIn_enqueue env staker asset amount settled claimant nonce

theorem claimQueuedWithdrawal_flow (coherent : Coherent pre.vault.index)
    (filed : pre.vault.claims.Filed) (claimant : Address) (nonce : Nat) :
    wlp (claimQueuedWithdrawal env claimant nonce)
      (fun _ after => Flow (.claimQueuedWithdrawal claimant nonce) pre after) pre := by
  refine wp_then (claimQueuedWithdrawal_spec env pre claimant nonce) ?_
  rintro _ _ ⟨claim, other, has, pending, _, rfl⟩
  refine ⟨coherent, filed.settle has .claimed, fun tested => ?_,
    fun owner number status settled => ?_⟩
  · have released := filed.pendingTotal_settle has pending
      (by decide : QueuedClaimStatus.claimed ≠ .pending) tested
    have paid : pre.tokens.balance tested pre.self -
        (pre.tokens.moved claim.token pre.self claimant claim.amount).balance tested
          pre.self = inAsset claim.token claim.amount tested := by
      simp only [moved_balance, inAsset, other.symm, and_false, if_false, and_true]
      omega
    simp only [rewardsOwed, paidBy, fundedBy, paysRewards, fundsRewards,
      setClaims, World.setTokens, paid, released, Bool.false_eq_true, if_false, if_true,
      Int.mul_sub, Int.mul_zero, Int.add_zero]
    omega
  · exact filed.timesIn_settle has pending .claimed settled owner number

/-- A cancellation credits again exactly the claim that it settles. -/
theorem cancelQueuedWithdrawal_flow (coherent : Coherent pre.vault.index)
    (filed : pre.vault.claims.Filed) (claimant : Address) (nonce : Nat) :
    wlp (cancelQueuedWithdrawal env claimant nonce)
      (fun _ after => Flow (.cancelQueuedWithdrawal claimant nonce) pre after) pre := by
  refine wp_then (cancelQueuedWithdrawal_spec env pre claimant nonce) ?_
  rintro _ _ ⟨claim, index, has, pending, credited, rfl⟩
  have conserves := creditAccrued_conserves coherent credited
  refine ⟨conserves.coherent, filed.settle has .cancelled, fun tested => ?_,
    fun owner number status settled => ?_⟩
  · have owed := conserves.owed tested
    have released := filed.pendingTotal_settle has pending
      (by decide : QueuedClaimStatus.cancelled ≠ .pending) tested
    simp only [rewardsOwed, paidBy, fundedBy, paysRewards, fundsRewards,
      setClaims, setIndex, released, Bool.false_eq_true, if_false, Int.mul_sub,
      Int.mul_zero, Int.add_zero]
    omega
  · exact filed.timesIn_settle has pending .cancelled settled owner number

theorem exec_flow (sound : Sound pre) (coherent : Coherent pre.vault.index)
    (filed : pre.vault.claims.Filed) (call : Call) :
    wp (exec env call) (fun _ after => Flow call pre after) (fun _ _ => True) pre := by
  by_cases moves : call.movesRewards = true
  · cases call <;> first | (cases moves; done) | rw [exec, wp_discard]
    case fundIndexRewards funder asset amount =>
      exact fundIndexRewards_flow coherent filed funder asset amount
    case claimIndexRewards staker asset =>
      exact claimIndexRewards_flow coherent filed staker asset
    case claimQueuedWithdrawal claimant nonce =>
      exact claimQueuedWithdrawal_flow coherent filed claimant nonce
    case cancelQueuedWithdrawal claimant nonce =>
      exact cancelQueuedWithdrawal_flow coherent filed claimant nonce
  · have still := Bool.eq_false_iff.mpr moves
    refine wp_then (exec_effect env pre call) fun _ _ effect => ?_
    exact .internal coherent filed still (KeepsRewards.effect sound still effect)

end Steps

/-- Along a run: what is owed and what has been paid is covered by what has been funded,
and a claim's status tells how often it has been resolved. -/
structure Accounted (run : List (Transition World Input)) (world : World) : Prop where
  sound : Sound world
  coherent : Coherent world.vault.index
  filed : world.vault.claims.Filed
  covered : ∀ asset, world.rewardsOwed asset + indexScale * paidAlong asset run ≤
    indexScale * fundedAlong asset run
  resolved : ∀ claimant nonce status, status ≠ .pending →
    timesResolved claimant nonce status run = world.vault.claims.timesIn status claimant nonce

theorem accounted_fresh (self : Address) (tokens : Tokens) :
    Accounted [] (World.fresh self tokens) where
  sound := sound_fresh self tokens
  coherent := coherent_empty
  filed := filed_empty
  covered asset := by
    have nothing : (World.fresh self tokens).rewardsOwed asset = 0 := by rfl
    simp [nothing, paidAlong, fundedAlong]
  resolved _ _ _ _ := rfl

section Concat

variable (run : List (Transition World Input)) (taken : Transition World Input)

theorem paidAlong_concat (asset : Address) : paidAlong asset (run ++ [taken]) =
      paidAlong asset run + paidBy taken.input.2 taken.pre taken.after asset := by
  simp [paidAlong]

theorem fundedAlong_concat (asset : Address) : fundedAlong asset (run ++ [taken]) =
      fundedAlong asset run + fundedBy taken.input.2 taken.pre taken.after asset := by
  simp [fundedAlong]

theorem timesResolved_concat (claimant : Address) (nonce : Nat) (status : QueuedClaimStatus) :
    timesResolved claimant nonce status (run ++ [taken]) = timesResolved claimant nonce status run +
        if resolves claimant nonce status taken = true then 1 else 0 := by
  simp only [timesResolved, List.countP_append, List.countP_singleton]

end Concat

theorem accounted_step {run : List (Transition World Input)} {world : World} (input : Input)
    (held : Accounted run world) :
    Accounted (run ++ [⟨world, input, step input world⟩]) (step input world) := by
  by_cases accepts : Accepts (exec input.1 input.2) world
  · obtain ⟨_, gave⟩ := gave_of_accepts accepts
    have flow : Flow input.2 world (step input world) :=
      wp_ok (exec_flow held.sound held.coherent held.filed input.2) gave
    have accepted : accepted (exec input.1 input.2) world = true := (accepted_iff _ _).mpr accepts
    constructor
    case sound => exact sound_step input held.sound
    case coherent => exact flow.coherent
    case filed => exact flow.filed
    case covered =>
      intro asset
      have covered := held.covered asset
      have kept := flow.kept asset
      simp only [paidAlong_concat, fundedAlong_concat, Int.mul_add]
      omega
    case resolved =>
      intro claimant nonce status settled
      rw [timesResolved_concat, held.resolved claimant nonce status settled,
        flow.resolved claimant nonce status settled]
      simp only [resolves, accepted, Bool.true_and, beq_iff_eq]
  · have same : step input world = world := invoke_of_rejected accepts
    have rejected : accepted (exec input.1 input.2) world = false := by
      rw [← Bool.not_eq_true]
      exact fun gave => accepts ((accepted_iff _ _).mp gave)
    rw [same]
    constructor
    case sound => exact held.sound
    case coherent => exact held.coherent
    case filed => exact held.filed
    case covered =>
      intro asset
      have unpaid : paidBy input.2 world world asset = 0 := by simp [paidBy]
      have unfunded : fundedBy input.2 world world asset = 0 := by simp [fundedBy]
      rw [paidAlong_concat, fundedAlong_concat, unpaid, unfunded, Int.add_zero, Int.add_zero]
      exact held.covered asset
    case resolved =>
      intro claimant nonce status settled
      rw [timesResolved_concat]
      simp only [resolves, rejected, Bool.false_and, Bool.false_eq_true, if_false, Nat.add_zero]
      exact held.resolved claimant nonce status settled

/-- Along every run, in every asset: what has been paid, what stakers have accrued and what
is pending in queued claims never exceeds what has been funded, also when unsettled
earnings and dust are counted with them in scaled units. Every nonce of a queued claim
is paid once or credited again once, and never both. -/
theorem rewards_conserved (self : Address) (tokens : Tokens) (inputs : List Input) :
    (∀ asset, indexScale * (paidAlong asset (trace step (World.fresh self tokens) inputs) +
          (reached self tokens inputs).vault.index.accruedTotal asset +
          (reached self tokens inputs).vault.claims.pendingTotal asset) +
        (reached self tokens inputs).vault.index.unsettled asset +
        (reached self tokens inputs).vault.index.dust.read asset ≤
      indexScale * fundedAlong asset (trace step (World.fresh self tokens) inputs)) ∧
    (∀ asset, paidAlong asset (trace step (World.fresh self tokens) inputs) +
          (reached self tokens inputs).vault.index.accruedTotal asset +
          (reached self tokens inputs).vault.claims.pendingTotal asset ≤
        fundedAlong asset (trace step (World.fresh self tokens) inputs)) ∧ ∀ claimant nonce,
      timesResolved claimant nonce .claimed (trace step (World.fresh self tokens) inputs) +
        timesResolved claimant nonce .cancelled
          (trace step (World.fresh self tokens) inputs) ≤ 1 := by
  have held := history_invariant step Accounted (fun _ _ => True)
    (fun _ _ input _ held => accounted_step input held) (World.fresh self tokens)
    (accounted_fresh self tokens) inputs fun _ _ => trivial
  have scaled (asset : Address) :
      indexScale * (paidAlong asset (trace step (World.fresh self tokens) inputs) +
          (reached self tokens inputs).vault.index.accruedTotal asset +
          (reached self tokens inputs).vault.claims.pendingTotal asset) +
        (reached self tokens inputs).vault.index.unsettled asset +
        (reached self tokens inputs).vault.index.dust.read asset ≤
      indexScale * fundedAlong asset (trace step (World.fresh self tokens) inputs) := by
    have covered := held.covered asset
    simp only [rewardsOwed, Storage.owed] at covered
    rw [Int.mul_add, Int.mul_add]
    simp only [reached]
    omega
  refine ⟨scaled, fun asset => ?_, fun claimant nonce => ?_⟩
  · have covered := scaled asset
    have unsettled := held.coherent.unsettled_nonneg asset
    have dust := held.coherent.dust asset
    simp only [reached] at covered ⊢
    exact Int.le_of_mul_le_mul_left (by omega) (by decide : 0 < indexScale)
  · rw [held.resolved claimant nonce .claimed (by decide),
      held.resolved claimant nonce .cancelled (by decide)]
    exact timesIn_add_le _ (by decide) claimant nonce

end StellarSwipe.StakeVault
