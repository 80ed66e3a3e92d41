import StellarSwipe.Bridge.ShareValue

/-!
# Splitting deposits and swaps

A deposit made in pieces mints at most what it mints at once: every piece rounds down, for
reserves that earlier pieces have grown.
-/

namespace StellarSwipe.Bridge

open FixedWidth Program SharedReserves Table List

/-- The calculation of shares rejects or returns the root or the smaller part, exactly. -/
def MintsExactly (reserveA reserveB totalLp amountA amountB : Int) : Prop :=
  ∀ minted, computeMintShares reserveA reserveB totalLp amountA amountB = .ok minted →
    minted = if totalLp = 0 then (Nat.sqrt (amountA * amountB).toNat : Int)
      else min (amountA * totalLp / reserveA) (amountB * totalLp / reserveB)

/-- The starting guess is not below the root, so the descent ends at it. -/
theorem integerSqrt_eq_sqrt (value : Int) : integerSqrt value = Nat.sqrt value.toNat := by
  rw [integerSqrt]
  split
  · next none =>
    obtain empty : value.toNat = 0 := by omega
    rw [empty]
    rfl
  · next present =>
    have above : Nat.sqrt value.toNat < 2 ^ ((Nat.size value.toNat + 1) / 2) := by
      rw [Nat.sqrt_lt', ← pow_mul]
      calc value.toNat < 2 ^ Nat.size value.toNat := Nat.lt_size_self _
        _ ≤ 2 ^ ((Nat.size value.toNat + 1) / 2 * 2) := by
          apply Nat.pow_le_pow_right <;> omega
    exact congrArg Nat.cast (IntegerRoot.descend_eq_sqrt (by omega) le_rfl above.le)

theorem mintsExactly (reserveA reserveB totalLp amountA amountB : Int) :
    MintsExactly reserveA reserveB totalLp amountA amountB := by
  intro minted computed
  obtain ⟨positiveA, positiveB, _, minted⟩ := @computeMintShares_ok
    ⟨"", "", reserveA, reserveB, totalLp, 0, 0, .constantProduct, 0, false⟩ amountA amountB minted
    computed
  cases minted with
  | first empty noA noB => rw [if_pos empty, integerSqrt_eq_sqrt]
  | later supplied someA someB =>
    rw [if_neg supplied.ne', tdiv_eq_floor (mul_nonneg positiveA.le supplied.le),
      tdiv_eq_floor (mul_nonneg positiveB.le supplied.le)]

/-- Both amounts of several deposits or swaps together. -/
def together (pieces : List (Int × Int)) : Int × Int :=
  ((pieces.map Prod.fst).sum, (pieces.map Prod.snd).sum)

/-- What deposits made one after the other mint. A rejected one mints nothing. -/
def splitMints (provider : Address) (poolId : Nat) : List (Int × Int) → LiquidityState → Int
  | [], _ => 0
  | (amountA, amountB) :: rest, state =>
    valueOr 0 (addLiquidity provider poolId amountA amountB) state +
      splitMints provider poolId rest (invoke (addLiquidity provider poolId amountA amountB) state)

/-- Depositing in pieces mints at most what depositing at once mints, if that is accepted,
and nothing if it is rejected for another reason than an overflow. -/
def SplitMintsLess (state : LiquidityState) (provider : Address) (poolId : Nat)
    (pool : LiquidityPool) (pieces : List (Int × Int)) : Prop :=
  (∀ minted after, addLiquidity provider poolId (together pieces).1 (together pieces).2 state =
      .ok minted after → splitMints provider poolId pieces state ≤ minted) ∧
  ∀ reason, computeMintShares pool.reserveA pool.reserveB pool.totalLpTokens (together pieces).1
      (together pieces).2 = .error reason → reason ≠ .overflow →
    splitMints provider poolId pieces state = 0

section Deposits

variable {state : LiquidityState} {poolId : Nat} {pool : LiquidityPool}

/-- A deposit either changes nothing or is one of the pool that is stored. -/
theorem addLiquidity_cases (provider : Address) (has : state.pools.lookup poolId = some pool)
    (amountA amountB : Int) : (valueOr 0 (addLiquidity provider poolId amountA amountB) state = 0 ∧
        invoke (addLiquidity provider poolId amountA amountB) state = state) ∨
      ∃ minted, valueOr 0 (addLiquidity provider poolId amountA amountB) state = minted ∧
        Deposit pool amountA amountB minted ∧
        (invoke (addLiquidity provider poolId amountA amountB) state).pools.lookup poolId =
          some (pool.deposited amountA amountB minted) := by
  by_cases accepted : Accepts (addLiquidity provider poolId amountA amountB) state
  · right
    obtain ⟨minted, gave⟩ := gave_of_accepts accepted
    obtain ⟨hit, rewards, isFound, deposit, _, after⟩ :=
      wp_ok (addLiquidity_spec provider poolId amountA amountB) gave
    cases Option.mem_unique has isFound
    refine ⟨minted, valueOr_of_ok gave, deposit, ?_⟩
    rw [after]
    simp only [LiquidityState.putPosition, LiquidityState.putPool]
    rw [lookup_insert, if_pos rfl]
  · exact .inl ⟨valueOr_of_rejected accepted, invoke_of_rejected accepted⟩

variable {pieces : List (Int × Int)}

theorem together_nonneg (nonneg : ∀ piece ∈ pieces, 0 ≤ piece.1 ∧ 0 ≤ piece.2) :
    0 ≤ (together pieces).1 ∧ 0 ≤ (together pieces).2 := by
  simp only [together]
  constructor <;> refine sum_nonneg fun amount mem => ?_
  all_goals
    obtain ⟨piece, inside, rfl⟩ := List.mem_map.mp mem
  · exact (nonneg piece inside).1
  · exact (nonneg piece inside).2

/-- The shares of all pieces are backed by all amounts together. The induction is on the
pieces, for every state that stores the pool. -/
theorem splitMints_backed (provider : Address)
    (nonneg : ∀ piece ∈ pieces, 0 ≤ piece.1 ∧ 0 ≤ piece.2)
    (has : state.pools.lookup poolId = some pool) (supplied : 0 < pool.totalLpTokens) :
    0 ≤ splitMints provider poolId pieces state ∧
      splitMints provider poolId pieces state * pool.reserveA ≤
        (together pieces).1 * pool.totalLpTokens ∧
      splitMints provider poolId pieces state * pool.reserveB ≤
        (together pieces).2 * pool.totalLpTokens := by
  induction pieces generalizing state pool with
  | nil => simp [splitMints, together]
  | cons piece rest ih =>
    obtain ⟨amountA, amountB⟩ := piece
    obtain ⟨nonnegA, nonnegB⟩ := nonneg _ mem_cons_self
    have nonnegRest := fun other inside => nonneg other (mem_cons_of_mem _ inside)
    obtain ⟨restA, restB⟩ := together_nonneg nonnegRest
    have sums : together ((amountA, amountB) :: rest) =
        (amountA + (together rest).1, amountB + (together rest).2) := by simp [together]
    rw [sums, splitMints]
    rcases addLiquidity_cases provider has amountA amountB with
      ⟨nothing, same⟩ | ⟨minted, isMinted, deposit, isGrown⟩
    · obtain ⟨pos, backedA, backedB⟩ := ih nonnegRest has supplied
      rw [nothing, same, zero_add]
      refine ⟨pos, backedA.trans ?_, backedB.trans ?_⟩ <;>
        exact mul_le_mul_of_nonneg_right (by omega) supplied.le
    · have grown : 0 < (pool.deposited amountA amountB minted).totalLpTokens :=
        add_pos supplied deposit.pos
      obtain ⟨pos, backedA, backedB⟩ := ih nonnegRest isGrown grown
      obtain ⟨firstA, firstB⟩ := deposit.backed
      obtain ⟨_, reserveA, reserveB⟩ := deposit.nonneg
      rw [isMinted]
      exact ⟨add_nonneg deposit.pos.le pos,
        backed_append reserveA deposit.positiveA restA firstA backedA,
        backed_append reserveB deposit.positiveB restB firstB backedB⟩

variable {provider : Address}

theorem splitMints_rejected (has : state.pools.lookup poolId = some pool)
    (never : ∀ piece ∈ pieces, ∀ minted, ¬ Deposit pool piece.1 piece.2 minted) :
    splitMints provider poolId pieces state = 0 := by
  induction pieces with
  | nil => rfl
  | cons piece rest ih =>
    rw [splitMints]
    rcases addLiquidity_cases provider has piece.1 piece.2 with
      ⟨nothing, same⟩ | ⟨minted, _, deposit, _⟩
    · rw [nothing, same, zero_add]
      exact ih fun other inside => never other (mem_cons_of_mem _ inside)
    · exact absurd deposit (never piece mem_cons_self minted)

/-- Shares are at most the smaller part of the supply, rounded down, if that is positive. -/
theorem splitMints_le (nonneg : ∀ piece ∈ pieces, 0 ≤ piece.1 ∧ 0 ≤ piece.2)
    (has : state.pools.lookup poolId = some pool) (supplied : 0 < pool.totalLpTokens)
    (someA : 0 < pool.reserveA) (someB : 0 < pool.reserveB) :
    splitMints provider poolId pieces state ≤
      min ((together pieces).1 * pool.totalLpTokens / pool.reserveA)
        ((together pieces).2 * pool.totalLpTokens / pool.reserveB) := by
  obtain ⟨_, backedA, backedB⟩ := splitMints_backed provider nonneg has supplied
  exact le_min (Int.le_ediv_of_mul_le someA backedA) (Int.le_ediv_of_mul_le someB backedB)

/-- A calculation on a usable pool that is rejected without an overflow comes to nothing. -/
theorem shares_of_rejected {reserveA reserveB totalLp amountA amountB : Int}
    {reason : ShareMintError} (supplied : 0 < totalLp) (someA : 0 < reserveA)
    (someB : 0 < reserveB) (nonnegA : 0 ≤ amountA) (nonnegB : 0 ≤ amountB)
    (rejected : computeMintShares reserveA reserveB totalLp amountA amountB = .error reason)
    (other : reason ≠ .overflow) :
    min (amountA * totalLp / reserveA) (amountB * totalLp / reserveB) ≤ 0 := by
  by_cases missing : amountA ≤ 0 ∨ amountB ≤ 0
  · rcases missing with noA | noB
    · obtain rfl : amountA = 0 := by omega
      exact min_le_of_left_le (by simp)
    · obtain rfl : amountB = 0 := by omega
      exact min_le_of_right_le (by simp)
  · have usable : ¬ (totalLp < 0 ∨ reserveA ≤ 0 ∨ reserveB ≤ 0) := by omega
    simp only [computeMintShares, if_neg missing, if_neg supplied.ne', if_neg usable] at rejected
    cases isA : checkedMulDivFloor amountA totalLp reserveA with
    | none =>
      rw [isA] at rejected
      exact absurd (Except.error.inj rejected).symm other
    | some lpA =>
      cases isB : checkedMulDivFloor amountB totalLp reserveB with
      | none =>
        rw [isA, isB] at rejected
        exact absurd (Except.error.inj rejected).symm other
      | some lpB =>
        rw [← tdiv_eq_floor (mul_nonneg nonnegA supplied.le),
          ← tdiv_eq_floor (mul_nonneg nonnegB supplied.le), ← checkedMulDivFloor_exact isA,
          ← checkedMulDivFloor_exact isB]
        by_contra pos
        rw [isA, isB] at rejected
        have computed : (if min lpA lpB ≤ 0 then throw .zeroShares else pure (min lpA lpB)) =
            (.error reason : Except ShareMintError Int) := rejected
        rw [if_neg pos] at computed
        cases computed

theorem splitMintsLess (nonneg : ∀ piece ∈ pieces, 0 ≤ piece.1 ∧ 0 ≤ piece.2)
    (has : state.pools.lookup poolId = some pool) (supplied : 0 < pool.totalLpTokens) :
    SplitMintsLess state provider poolId pool pieces := by
  obtain ⟨pos, _⟩ := splitMints_backed provider nonneg has supplied
  constructor
  · intro minted after gave
    obtain ⟨hit, _, isFound, deposit, _⟩ := wp_ok (addLiquidity_spec provider poolId _ _) gave
    cases Option.mem_unique has isFound
    obtain ⟨positiveA, positiveB, _, shares⟩ := deposit
    cases shares with
    | first empty => exact absurd empty supplied.ne'
    | later _ someA someB =>
      rw [tdiv_eq_floor (mul_nonneg positiveA.le supplied.le),
        tdiv_eq_floor (mul_nonneg positiveB.le supplied.le)]
      exact splitMints_le nonneg has supplied someA someB
  · intro reason rejected other
    by_cases usable : 0 < pool.reserveA ∧ 0 < pool.reserveB
    · obtain ⟨someA, someB⟩ := usable
      obtain ⟨nonnegA, nonnegB⟩ := together_nonneg nonneg
      refine le_antisymm ?_ pos
      calc splitMints provider poolId pieces state
          ≤ _ := splitMints_le nonneg has supplied someA someB
        _ ≤ 0 := shares_of_rejected supplied someA someB nonnegA nonnegB rejected other
    · refine splitMints_rejected has fun piece _ minted deposit => ?_
      obtain ⟨_, _, _, shares⟩ := deposit
      cases shares with
      | first empty => exact supplied.ne' empty
      | later _ someA someB => exact usable ⟨someA, someB⟩

end Deposits

/-- The calculation of shares is exact for all reserves, supplies and amounts, and splitting a
later deposit never mints more, unless depositing at once overflows. -/
theorem deposits_split (reserveA reserveB totalLp amountA amountB : Int) (state : LiquidityState)
    (provider : Address) (poolId : Nat) (pool : LiquidityPool) (pieces : List (Int × Int))
    (has : state.pools.lookup poolId = some pool) (supplied : 0 < pool.totalLpTokens)
    (nonneg : ∀ piece ∈ pieces, 0 ≤ piece.1 ∧ 0 ≤ piece.2) :
    MintsExactly reserveA reserveB totalLp amountA amountB ∧
      SplitMintsLess state provider poolId pool pieces :=
  ⟨mintsExactly reserveA reserveB totalLp amountA amountB, splitMintsLess nonneg has supplied⟩

section LargeDeposits

/-- A pool with some amount of both assets and as many shares, without fees and rewards. -/
def evenly (amount : Nat) : LiquidityPool :=
  ⟨"wA", "wB", amount, amount, amount, 0, 0, .constantProduct, 0, false⟩

/-- The state that stores such a pool. -/
def evenPool (amount : Nat) : LiquidityState :=
  { LiquidityState.empty with
    pools := AList.insert 1 (evenly amount) ∅ }

theorem small_deposits_split : MintsExactly 100 100 100 7 9 ∧
      SplitMintsLess (evenPool 100) 4 1 (evenly 100) [(3, 5), (4, 4)] :=
  deposits_split 100 100 100 7 9 (evenPool 100) 4 1 (evenly 100) [(3, 5), (4, 4)] rfl (by decide)
    (by decide)

/-- A deposit that overflows at once mints in four pieces. -/
theorem large_deposit_split :
    ¬ ∀ (state : LiquidityState) (provider : Address) (poolId : Nat) (pool : LiquidityPool)
        (pieces : List (Int × Int)), state.pools.lookup poolId = some pool →
        0 < pool.totalLpTokens → (∀ piece ∈ pieces, 0 ≤ piece.1 ∧ 0 ≤ piece.2) →
        splitMints provider poolId pieces state ≤
          valueOr 0 (addLiquidity provider poolId (together pieces).1 (together pieces).2)
            state := by
  intro every
  have pieces := every (evenPool (2 ^ 63)) 4 1 (evenly (2 ^ 63)) (.replicate 4 (2 ^ 62, 2 ^ 62)) rfl
    (by decide) (by decide)
  exact absurd pieces (by decide +kernel)

end LargeDeposits

variable (pool : LiquidityPool) (inputAsset : String)

def LiquidityPool.reserveIn : Int :=
  if inputAsset = pool.assetA then pool.reserveA else pool.reserveB

def LiquidityPool.reserveOut : Int :=
  if inputAsset = pool.assetA then pool.reserveB else pool.reserveA

/-- What an amount without a fee buys by the product of the reserves, rounded down. -/
def LiquidityPool.bought (amount : Int) : Int :=
  amount * pool.reserveOut inputAsset / (pool.reserveIn inputAsset + amount)

def LiquidityPool.exchanged (amount out : Int) : LiquidityPool :=
  if inputAsset = pool.assetA then
    { pool with
      reserveA := pool.reserveA + amount
      reserveB := pool.reserveB - out }
  else
    { pool with
      reserveB := pool.reserveB + amount
      reserveA := pool.reserveA - out }

def noSwap : SwapResult := ⟨0, 0, 0, 0, 0⟩

/-- What swaps of one asset made one after the other pay, each with the least output that it asks
for. -/
def splitPays (poolId : Nat) (inputAsset : String) : List (Int × Int) → LiquidityState → Int
  | [], _ => 0
  | (amountIn, minAmountOut) :: rest, state =>
    (valueOr noSwap (swap poolId inputAsset amountIn minAmountOut) state).amountOut +
      splitPays poolId inputAsset rest (invoke (swap poolId inputAsset amountIn minAmountOut) state)

/-- What the fees of several swaps leave of their amounts. -/
def leftAfterFees (feeBps : Nat) (pieces : List (Int × Int)) : Int :=
  (pieces.map fun piece => amountAfterFee piece.1 feeBps).sum

section Pool

variable {pool : LiquidityPool} {inputAsset : String} {amount out : Int}

@[simp] theorem exchanged_reserveIn : (pool.exchanged inputAsset amount out).reserveIn inputAsset =
      pool.reserveIn inputAsset + amount := by
  simp only [LiquidityPool.exchanged, LiquidityPool.reserveIn]
  split <;> simp [*]

@[simp] theorem exchanged_reserveOut :
    (pool.exchanged inputAsset amount out).reserveOut inputAsset =
      pool.reserveOut inputAsset - out := by
  simp only [LiquidityPool.exchanged, LiquidityPool.reserveOut]
  split <;> simp [*]

@[simp] theorem exchanged_poolType :
    (pool.exchanged inputAsset amount out).poolType = pool.poolType := by
  rw [LiquidityPool.exchanged]
  split <;> rfl

@[simp] theorem exchanged_feeBps : (pool.exchanged inputAsset amount out).feeBps = pool.feeBps := by
  rw [LiquidityPool.exchanged]
  split <;> rfl

theorem swap_exchanges {state : LiquidityState} (poolId : Nat) (inputAsset : String)
    (amountIn minAmountOut : Int) : wlp (swap poolId inputAsset amountIn minAmountOut)
      (fun result after => ∃ pool, state.pools.lookup poolId = some pool ∧ 0 < amountIn ∧
        Exchanged pool.poolType (amountAfterFee amountIn pool.feeBps) (pool.reserveIn inputAsset)
          (pool.reserveOut inputAsset) result.amountOut ∧
        after = state.putPool poolId (pool.exchanged inputAsset
          (amountAfterFee amountIn pool.feeBps) result.amountOut)) state := by
  simp only [swap, wlp_rules, wp_getPool]
  intro pos pool has _
  refine wp_afterFee _ _ fun feePaid => ?_
  simp only [wp_ite, wp_bind]
  refine ⟨fun input => ?_, fun other => ⟨fun input => ?_, fun _ => ?_⟩⟩
  · refine wp_exchange _ _ _ _ fun out exchanged => ?_
    simp only [wlp_rules, wp_validatePoolInvariants, wp_storePool]
    intro bought _
    refine ⟨pool, has, not_le.mp pos, ?_, ?_⟩
    · simpa [LiquidityPool.reserveIn, LiquidityPool.reserveOut, input] using
        exchanged (not_le.mp (not_or.mp bought).2)
    · rw [LiquidityPool.exchanged, if_pos input]
  · refine wp_exchange _ _ _ _ fun out exchanged => ?_
    simp only [wlp_rules, wp_validatePoolInvariants, wp_storePool]
    intro bought _
    refine ⟨pool, has, not_le.mp pos, ?_, ?_⟩
    · simpa [LiquidityPool.reserveIn, LiquidityPool.reserveOut, other] using
        exchanged (not_le.mp (not_or.mp bought).2)
    · rw [LiquidityPool.exchanged, if_neg other]
  · simp

theorem amountAfterFee_nonneg {amountIn : Int} {feeBps : Nat} (nonneg : 0 ≤ amountIn)
    (rate : feeBps ≤ 10000) : 0 ≤ amountAfterFee amountIn feeBps := by
  rw [amountAfterFee, tdiv_eq_floor (mul_nonneg nonneg (Int.natCast_nonneg _))]
  have whole : amountIn * feeBps / basisPointsDenominator ≤ amountIn := by
    refine Int.ediv_le_of_le_mul (by decide) (mul_le_mul_of_nonneg_left ?_ nonneg)
    simp only [basisPointsDenominator]
    omega
  omega

/-- The fees of two amounts leave at most one unit more than the fee of both. -/
theorem amountAfterFee_append (feeBps : Nat) {first second : Int} (nonneg : 0 ≤ first)
    (nonneg' : 0 ≤ second) : amountAfterFee first feeBps + amountAfterFee second feeBps ≤
      amountAfterFee (first + second) feeBps + 1 := by
  have rate : (0 : Int) ≤ feeBps := Int.natCast_nonneg _
  simp only [amountAfterFee]
  rw [tdiv_eq_floor (mul_nonneg nonneg rate), tdiv_eq_floor (mul_nonneg nonneg' rate),
    tdiv_eq_floor (mul_nonneg (add_nonneg nonneg nonneg') rate), add_mul]
  simp only [basisPointsDenominator]
  omega

/-- Each piece after the first keeps at most one unit of the fee. -/
theorem leftAfterFees_le {feeBps : Nat} {pieces : List (Int × Int)}
    (nonneg : ∀ piece ∈ pieces, 0 ≤ piece.1) : leftAfterFees feeBps pieces ≤
      amountAfterFee (together pieces).1 feeBps + (pieces.length - 1 : Nat) := by
  induction pieces with
  | nil => simp [leftAfterFees, together, amountAfterFee]
  | cons piece rest ih =>
    have nonnegRest := fun other inside => nonneg other (mem_cons_of_mem _ inside)
    have prior := ih nonnegRest
    cases rest with
    | nil => simp [leftAfterFees, together]
    | cons second others =>
      have sum : 0 ≤ (together (second :: others)).1 := by
        refine sum_nonneg fun amount mem => ?_
        obtain ⟨other, inside, rfl⟩ := List.mem_map.mp mem
        exact nonnegRest other inside
      have both := amountAfterFee_append feeBps (nonneg piece mem_cons_self) sum
      have left : leftAfterFees feeBps (piece :: second :: others) =
          amountAfterFee piece.1 feeBps + leftAfterFees feeBps (second :: others) := rfl
      have amounts : (together (piece :: second :: others)).1 =
          piece.1 + (together (second :: others)).1 := rfl
      rw [left, amounts]
      simp only [length_cons] at prior ⊢
      omega

end Pool

section Swaps

variable {state : LiquidityState} {poolId : Nat} {pool : LiquidityPool} {inputAsset : String}

theorem swap_cases (inputAsset : String) (has : state.pools.lookup poolId = some pool)
    (amountIn minAmountOut : Int) :
    ((valueOr noSwap (swap poolId inputAsset amountIn minAmountOut) state).amountOut = 0 ∧
        invoke (swap poolId inputAsset amountIn minAmountOut) state = state) ∨
      ∃ out, (valueOr noSwap (swap poolId inputAsset amountIn minAmountOut) state).amountOut = out ∧
        0 < amountIn ∧
        Exchanged pool.poolType (amountAfterFee amountIn pool.feeBps) (pool.reserveIn inputAsset)
          (pool.reserveOut inputAsset) out ∧
        (invoke (swap poolId inputAsset amountIn minAmountOut) state).pools.lookup poolId =
          some (pool.exchanged inputAsset (amountAfterFee amountIn pool.feeBps) out) := by
  by_cases accepted : Accepts (swap poolId inputAsset amountIn minAmountOut) state
  · right
    obtain ⟨result, gave⟩ := gave_of_accepts accepted
    obtain ⟨hit, isFound, pos, exchanged, after⟩ :=
      wp_ok (swap_exchanges poolId inputAsset amountIn minAmountOut) gave
    cases Option.mem_unique has isFound
    refine ⟨result.amountOut, by rw [valueOr_of_ok gave], pos, exchanged, ?_⟩
    rw [after]
    simp only [LiquidityState.putPool]
    rw [lookup_insert, if_pos rfl]
  · left
    rw [valueOr_of_rejected accepted, invoke_of_rejected accepted]
    exact ⟨rfl, rfl⟩

theorem Exchanged.bought {amount out : Int}
    (exchanged : Exchanged .constantProduct amount (pool.reserveIn inputAsset)
      (pool.reserveOut inputAsset) out) (nonneg : 0 ≤ amount) :
    out = pool.bought inputAsset amount ∧ out < pool.reserveOut inputAsset ∧
      out * (pool.reserveIn inputAsset + amount) ≤ amount * pool.reserveOut inputAsset := by
  have someIn := exchanged.someIn
  obtain ⟨_, less⟩ := exchanged.leaves (by omega) fun other => by cases other
  have paid := exchanged.constantProduct rfl
  rw [tdiv_eq_floor (mul_nonneg nonneg exchanged.someOut.le)] at paid
  refine ⟨paid, less, ?_⟩
  rw [paid]
  exact Int.ediv_mul_le _ (by omega)

variable {pieces : List (Int × Int)}

theorem leftAfterFees_nonneg {feeBps : Nat} (nonneg : ∀ piece ∈ pieces, 0 ≤ piece.1)
    (rate : feeBps ≤ 10000) : 0 ≤ leftAfterFees feeBps pieces := by
  refine sum_nonneg fun amount mem => ?_
  obtain ⟨piece, inside, rfl⟩ := List.mem_map.mp mem
  exact amountAfterFee_nonneg (nonneg piece inside) rate

/-- All pieces together buy at most what the sum of their amounts after fees allows, and not
more than the reserve. The induction is on the pieces, for every state that stores the pool. -/
theorem splitPays_bought (inputAsset : String) (nonneg : ∀ piece ∈ pieces, 0 ≤ piece.1)
    (has : state.pools.lookup poolId = some pool) (byProduct : pool.poolType = .constantProduct)
    (rate : pool.feeBps ≤ 10000) (nonnegOut : 0 ≤ pool.reserveOut inputAsset) :
    splitPays poolId inputAsset pieces state ≤ pool.reserveOut inputAsset ∧
      (pool.reserveIn inputAsset ≤ 0 → splitPays poolId inputAsset pieces state = 0) ∧
      splitPays poolId inputAsset pieces state *
          (pool.reserveIn inputAsset + leftAfterFees pool.feeBps pieces) ≤
        leftAfterFees pool.feeBps pieces * pool.reserveOut inputAsset := by
  induction pieces generalizing state pool with
  | nil => simpa [splitPays, leftAfterFees] using nonnegOut
  | cons piece rest ih =>
    obtain ⟨amountIn, minAmountOut⟩ := piece
    have nonnegRest := fun other inside => nonneg other (mem_cons_of_mem _ inside)
    have present := amountAfterFee_nonneg (nonneg _ mem_cons_self) rate
    have left : leftAfterFees pool.feeBps ((amountIn, minAmountOut) :: rest) =
        amountAfterFee amountIn pool.feeBps + leftAfterFees pool.feeBps rest := rfl
    rw [left, splitPays]
    rcases swap_cases inputAsset has amountIn minAmountOut with
      ⟨nothing, same⟩ | ⟨out, isOut, _, exchanged, isStored⟩
    · obtain ⟨within, none, bought⟩ :=
        ih nonnegRest has byProduct rate nonnegOut
      rw [nothing, same, zero_add]
      have piece := mul_le_mul_of_nonneg_right within present
      refine ⟨within, none, ?_⟩
      linarith [mul_comm (amountAfterFee amountIn pool.feeBps) (pool.reserveOut inputAsset)]
    · rw [byProduct] at exchanged
      obtain ⟨_, less, first⟩ := exchanged.bought present
      have after := ih nonnegRest isStored (by simpa using byProduct)
        (by simpa using rate) (by simpa using less.le)
      simp only [exchanged_reserveIn, exchanged_reserveOut, exchanged_feeBps] at after
      obtain ⟨within, _, bought⟩ := after
      rw [isOut]
      have someIn := exchanged.someIn
      exact ⟨by omega, fun none => absurd someIn none.not_gt, bought_append first bought⟩

end Swaps

/-- Splitting a swap pays at most what the pieces' amounts after their fees buy at once, which is at
most one unit more for each piece after the first. -/
structure SplitSwapsPay (state : LiquidityState) (poolId : Nat) (pool : LiquidityPool)
    (inputAsset : String) (pieces : List (Int × Int)) : Prop where
  split : splitPays poolId inputAsset pieces state ≤
    pool.bought inputAsset (leftAfterFees pool.feeBps pieces)
  fees : leftAfterFees pool.feeBps pieces ≤
    amountAfterFee (together pieces).1 pool.feeBps + (pieces.length - 1 : Nat)
  whole : ∀ minAmountOut result after,
    swap poolId inputAsset (together pieces).1 minAmountOut state = .ok result after →
    result.amountOut =
      pool.bought inputAsset (amountAfterFee (together pieces).1 pool.feeBps)
  below : ∀ amountIn minAmountOut result after,
    swap poolId inputAsset amountIn minAmountOut state = .ok result after →
    result.amountOut < pool.reserveOut inputAsset

/-- Every swap of a pool that prices by the product obeys the law of splitting. -/
theorem swaps_split (state : LiquidityState) (poolId : Nat) (pool : LiquidityPool)
    (inputAsset : String) (pieces : List (Int × Int))
    (has : state.pools.lookup poolId = some pool) (consistent : pool.IsConsistent)
    (byProduct : pool.poolType = .constantProduct) (rate : pool.feeBps ≤ 10000)
    (nonneg : ∀ piece ∈ pieces, 0 ≤ piece.1) :
    SplitSwapsPay state poolId pool inputAsset pieces := by
  obtain ⟨nonnegA, nonnegB, _⟩ := consistent.nonneg
  have nonnegIn : 0 ≤ pool.reserveIn inputAsset := by
    rw [LiquidityPool.reserveIn]
    split <;> assumption
  have nonnegOut : 0 ≤ pool.reserveOut inputAsset := by
    rw [LiquidityPool.reserveOut]
    split <;> assumption
  have left := leftAfterFees_nonneg nonneg rate
  have single : ∀ amountIn minAmountOut result after,
      swap poolId inputAsset amountIn minAmountOut state = .ok result after →
      result.amountOut = pool.bought inputAsset (amountAfterFee amountIn pool.feeBps) ∧
        result.amountOut < pool.reserveOut inputAsset := by
    intro amountIn minAmountOut result after gave
    obtain ⟨hit, isFound, pos, exchanged, _⟩ :=
      wp_ok (swap_exchanges poolId inputAsset amountIn minAmountOut) gave
    cases Option.mem_unique has isFound
    rw [byProduct] at exchanged
    obtain ⟨paid, less, _⟩ := exchanged.bought (amountAfterFee_nonneg pos.le rate)
    exact ⟨paid, less⟩
  refine ⟨?_, leftAfterFees_le nonneg, fun minAmountOut result after gave =>
    (single _ minAmountOut result after gave).1, fun amountIn minAmountOut result after
    gave => (single amountIn minAmountOut result after gave).2⟩
  obtain ⟨_, none, bought⟩ :=
    splitPays_bought inputAsset nonneg has byProduct rate nonnegOut
  by_cases present : 0 < pool.reserveIn inputAsset
  · exact Int.le_ediv_of_mul_le (by omega) bought
  · rw [none (not_lt.mp present)]
    exact Int.ediv_nonneg (mul_nonneg left nonnegOut) (add_nonneg nonnegIn left)

section SmallPieces

/-- A pool whose second asset is worth little, with a fee of thirty basis points. -/
def cheapPool : LiquidityPool :=
  ⟨"wA", "wB", 10 ^ 9, 10 ^ 12, 10 ^ 9, 30, 0, .constantProduct, 0, false⟩

def cheapState : LiquidityState :=
  { LiquidityState.empty with pools := AList.insert 1 cheapPool ∅ }

theorem large_pieces_split : SplitSwapsPay cheapState 1 cheapPool "wA" [(10000, 1), (20000, 1)] :=
  swaps_split cheapState 1 cheapPool "wA" [(10000, 1), (20000, 1)] rfl (by decide) rfl (by decide)
    (by decide)

/-- Three pieces are each too small for a fee, which the whole pays. -/
theorem small_pieces_pay_more :
    ¬ ∀ (state : LiquidityState) (poolId : Nat) (pool : LiquidityPool) (inputAsset : String)
        (pieces : List (Int × Int)), state.pools.lookup poolId = some pool → pool.IsConsistent →
        pool.poolType = .constantProduct → pool.feeBps ≤ 10000 → (∀ piece ∈ pieces, 0 ≤ piece.1) →
        splitPays poolId inputAsset pieces state ≤
          (valueOr noSwap (swap poolId inputAsset (together pieces).1 1) state).amountOut := by
  intro every
  have pieces := every cheapState 1 cheapPool "wA" (.replicate 3 (333, 1)) rfl (by decide) rfl
    (by decide) (by decide)
  exact absurd pieces (by decide +kernel)

end SmallPieces

end StellarSwipe.Bridge
