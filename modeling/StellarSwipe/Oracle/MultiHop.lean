import StellarSwipe.Library.SimplePaths
import StellarSwipe.Oracle.Conversion

/-!
# Paths of several hops

A search lists the simple paths of listed pairs up to three hops, follows an amount along each and
keeps the first of the cheapest.
-/

namespace StellarSwipe.Oracle.MultiHop

open FixedWidth Program SimplePaths List

def precision : Int := 10000000

def maxHops : Nat := 3

def slippageToleranceBps : Nat := 500

/-- How long a path is kept, in ledgers. -/
def cacheLedgers : Nat := 60

inductive MultiHopError where
  | noPathFound
  | slippageExceeded

structure LiquidityPath where
  hops : List AssetPair
  totalLiquidity : Int
  estimatedSlippage : Nat
  totalFees : Nat
deriving DecidableEq

/-- A path that is kept, and the last ledger on which it is. -/
structure CachedPath where
  path : LiquidityPath
  liveUntil : Nat

structure MultiHopStore where
  pairsList : List AssetPair
  feeds : Table AssetPair Int
  cachedPaths : Table (Asset × Asset) CachedPath

abbrev MultiHopProgram := Program MultiHopStore MultiHopError

/-- Five basis points for each ten thousand units beyond the first thousand. The number of
steps is cast to 32 bits, and its product must fit in them. -/
def volumeSlippage (amount : Int) : Option Nat :=
  if 1000 * precision < amount then
    let steps := ((amount.tdiv precision - 1000).tdiv 10000 % 2 ^ 32).toNat
    if steps * 5 ≤ u32Max then some (steps * 5) else none
  else some 0

def totalSlippage (amount : Int) : Option Nat :=
  (volumeSlippage amount).bind (checkedCount u32Max 10 ·)

variable (feeds : Table AssetPair Int)

/-- The stored prices, with one for a pair that has none. -/
def priceOf (pair : AssetPair) : Int :=
  (feeds.lookup pair).getD precision

def getPriceWithSlippage (pair : AssetPair) (amount : Int) : Option (Int × Nat) :=
  (totalSlippage amount).map (priceOf feeds pair, ·)

def neighbours (graph : List AssetPair) (current : Asset) : List Asset :=
  graph.filterMap (·.neighbour current)

/-- A hop in the direction of the trade is added to the path. What is visited is given back
when the search returns, so it is passed along with the path. -/
def dfs (graph : List AssetPair) (target : Asset) :
    Nat → Asset → List AssetPair → List Asset → List (List AssetPair) → List (List AssetPair)
  | 0, _, _, _, results => results
  | remainingHops + 1, current, currentPath, visited, results =>
    (neighbours graph current).foldl (fun results next =>
      if next ∈ visited then results
      else if next = target then results ++ [currentPath ++ [⟨current, next⟩]]
      else dfs graph target remainingHops next (currentPath ++ [⟨current, next⟩])
        (next :: visited) results) results

def findAllPaths (graph : List AssetPair) (source target : Asset) (hops : Nat) :
    List (List AssetPair) :=
  dfs graph target hops source [] [source] []

/-- What has come of an amount along some hops. -/
structure Walk where
  amount : Int
  slippage : Nat
  fees : Nat
  liquidity : Int

def Walk.start (amount : Int) : Walk := ⟨amount, 0, 0, i128.high⟩

variable (walk : Walk) (hop : AssetPair)

def walkHop : Option Walk := do
  let fees ← checkedCount u32Max walk.fees 30
  let (price, slippage) ← getPriceWithSlippage feeds hop walk.amount
  let total ← checkedCount u32Max walk.slippage slippage
  let product ← i128.checkedMul walk.amount price
  let impact ← i128.checkedMul (product.tdiv precision) (10000 - slippage)
  some ⟨impact.tdiv 10000, total, fees, min walk.liquidity (1000000 * precision)⟩

def calculatePathCost (amount : Int) (path : List AssetPair) :
    Option (Except MultiHopError LiquidityPath) := do
  let walk ← path.foldlM (walkHop feeds) (Walk.start amount)
  if slippageToleranceBps < walk.slippage then some (.error .slippageExceeded)
  else some (.ok ⟨path, walk.liquidity, walk.slippage, walk.fees⟩)

/-- The best path so far and its cost. -/
structure Selection where
  best : Option LiquidityPath
  minCost : Nat

def consider (amount : Int) (selection : Selection) (path : List AssetPair) : Option Selection := do
  match ← calculatePathCost feeds amount path with
  | .error _ => some selection
  | .ok liquidityPath => do
    let cost ← checkedCount u32Max liquidityPath.estimatedSlippage liquidityPath.totalFees
    some (if cost < selection.minCost then ⟨some liquidityPath, cost⟩ else selection)

def selectPath (amount : Int) (paths : List (List AssetPair)) : Option Selection :=
  paths.foldlM (consider feeds amount) ⟨none, u32Max⟩

namespace MultiHopStore

variable (store : MultiHopStore)

def cachedPath (env : Env) (source target : Asset) : Option LiquidityPath :=
  ((store.cachedPaths.lookup (source, target)).filter
    fun cached => env.sequence ≤ cached.liveUntil).map CachedPath.path

def cachePath (env : Env) (source target : Asset) (path : LiquidityPath) : MultiHopStore :=
  { store with
    cachedPaths := store.cachedPaths.insert (source, target)
      ⟨path, env.sequence + cacheLedgers⟩ }

end MultiHopStore

def findOptimalPath (env : Env) (source target : Asset) (amount : Int) :
    MultiHopProgram LiquidityPath := do
  let store ← get
  match store.cachedPath env source target with
  | some path => pure path
  | none => do
    let selection ← orTrap (selectPath store.feeds amount
      (findAllPaths store.pairsList source target maxHops))
    let path ← orFail selection.best .noPathFound
    modify (·.cachePath env source target path)
    pure path

/-- The hops along the vertices of a path. -/
def hopsOf : Asset → List Asset → List AssetPair
  | _, [] => []
  | current, next :: rest => ⟨current, next⟩ :: hopsOf next rest

section Paths

variable {graph : List AssetPair} {source target : Asset} {hops : List AssetPair}

/-- A simple path of at most three hops along listed pairs, in either direction. -/
def Route (graph : List AssetPair) (source target : Asset) (hops : List AssetPair) : Prop :=
  ∃ path, SimplePath (neighbours graph) source target path ∧ path.length ≤ maxHops ∧
    hops = hopsOf source path

/-- The search adds the enumerated paths to its results, each after the path that led there.
The induction is on the hops, and inside on the neighbours that are left. -/
theorem dfs_eq (remainingHops : Nat) (current : Asset) (currentPath : List AssetPair)
    (visited : List Asset) (results : List (List AssetPair)) :
    dfs graph target remainingHops current currentPath visited results =
      results ++ (enumerate (neighbours graph) target remainingHops current visited).map
        fun path => currentPath ++ hopsOf current path := by
  induction remainingHops generalizing current currentPath visited results with
  | zero => simp [dfs, enumerate]
  | succ remainingHops ih =>
    rw [dfs, enumerate]
    generalize neighbours graph current = candidates
    induction candidates generalizing results with
    | nil => simp
    | cons candidate rest restHypothesis =>
      rw [foldl_cons, restHypothesis, flatMap_cons, map_append, ← append_assoc]
      congr 1
      split
      next => simp
      next =>
        split
        next => simp [hopsOf]
        next =>
          rw [ih, map_map]
          simp [hopsOf, Function.comp_def]

theorem mem_findAllPaths :
    hops ∈ findAllPaths graph source target maxHops ↔ Route graph source target hops := by
  rw [findAllPaths, dfs_eq, nil_append, mem_map]
  constructor
  · rintro ⟨path, listed, rfl⟩
    obtain ⟨simple, short⟩ := mem_enumerate_source.mp listed
    exact ⟨path, simple, short, rfl⟩
  · rintro ⟨path, simple, short, rfl⟩
    exact ⟨path, mem_enumerate_source.mpr ⟨simple, short⟩, rfl⟩

end Paths

/-- The slippage of an amount when nothing is cut down. -/
def slippageFor (amount : Int) : Nat :=
  if 1000 * precision < amount then
    10 + ((amount.tdiv precision - 1000).tdiv 10000).toNat * 5
  else 10

/-- What comes of an amount along a hop, in exact numbers. -/
def Walk.along : Walk where
  amount := ((walk.amount * priceOf feeds hop).tdiv precision *
    (10000 - slippageFor walk.amount)).tdiv 10000
  slippage := walk.slippage + slippageFor walk.amount
  fees := walk.fees + 30
  liquidity := min walk.liquidity (1000000 * precision)

def estimate (amount : Int) (hops : List AssetPair) : Walk :=
  hops.foldl (Walk.along feeds) (Walk.start amount)

/-- Along the hop every number fits in its type. -/
def Walk.Fits : Prop :=
  walk.fees + 30 ≤ u32Max ∧ walk.slippage + slippageFor walk.amount ≤ u32Max ∧
    i128.Holds (walk.amount * priceOf feeds hop) ∧
    i128.Holds ((walk.amount * priceOf feeds hop).tdiv precision *
      (10000 - slippageFor walk.amount))
deriving Decidable

/-- Along each of the hops every number fits in its type. -/
def Walk.FitsAlong (feeds : Table AssetPair Int) : Walk → List AssetPair → Prop
  | _, [] => True
  | walk, hop :: rest => walk.Fits feeds hop ∧ FitsAlong feeds (walk.along feeds hop) rest

instance Walk.decidableFitsAlong (feeds : Table AssetPair Int) :
    (walk : Walk) → (hops : List AssetPair) → Decidable (Walk.FitsAlong feeds walk hops)
  | _, [] => .isTrue trivial
  | walk, hop :: rest =>
    have := Walk.decidableFitsAlong feeds (walk.along feeds hop) rest
    inferInstanceAs (Decidable (walk.Fits feeds hop ∧ _))

section Estimates

variable {feeds : Table AssetPair Int} {amount smaller : Int} {walk : Walk}
  {hop : AssetPair} {hops : List AssetPair}

theorem slippageFor_mono (ordered : smaller ≤ amount) :
    slippageFor smaller ≤ slippageFor amount := by
  unfold slippageFor
  by_cases large : 1000 * precision < smaller
  · rw [if_pos large, if_pos (large.trans_le ordered)]
    have units : smaller.tdiv precision ≤ amount.tdiv precision :=
      Int.tdiv_le_tdiv (by decide) ordered
    have steps : (smaller.tdiv precision - 1000).tdiv 10000 ≤
        (amount.tdiv precision - 1000).tdiv 10000 := Int.tdiv_le_tdiv (by decide) (by omega)
    have counted := Int.toNat_le_toNat steps
    omega
  · rw [if_neg large]
    split <;> omega

theorem totalSlippage_eq (fits : slippageFor amount ≤ u32Max) :
    totalSlippage amount = some (slippageFor amount) := by
  unfold totalSlippage volumeSlippage
  unfold slippageFor at fits ⊢
  by_cases large : 1000 * precision < amount
  · simp only [if_pos large] at fits ⊢
    have units : (1000 : Int) ≤ amount.tdiv precision := by
      rw [Int.tdiv_eq_ediv_of_nonneg (by unfold precision at large; omega)]
      unfold precision at large ⊢
      omega
    have pos : 0 ≤ (amount.tdiv precision - 1000).tdiv 10000 :=
      Int.tdiv_nonneg (by omega) (by decide)
    have whole : (amount.tdiv precision - 1000).tdiv 10000 % 2 ^ 32 =
        (amount.tdiv precision - 1000).tdiv 10000 := by
      refine Int.emod_eq_of_lt pos ?_
      have below : u32Max < 2 ^ 32 := by decide
      omega
    rw [whole, if_pos (by omega)]
    simp only [Option.bind_some, checkedCount_eq_some]
    exact ⟨fits, trivial⟩
  · simp only [if_neg large, Option.bind_some]
    decide

/-- Beyond 32 bits the steps start over. -/
example : totalSlippage ((2 ^ 32 * 10000 + 1000) * 10000000) = some 10 := by decide

theorem walkHop_eq (fits : walk.Fits feeds hop) :
    walkHop feeds walk hop = some (walk.along feeds hop) := by
  obtain ⟨fees, total, product, impact⟩ := fits
  have slippage := @totalSlippage_eq walk.amount (by omega)
  simp [walkHop, getPriceWithSlippage, slippage, checkedCount, fees, total, Range.checkedMul,
    Range.checked, product, impact, Walk.along]

/-- A path whose numbers fit is followed as estimated. The induction is on the hops. -/
theorem foldlM_walkHop (fits : walk.FitsAlong feeds hops) :
    hops.foldlM (walkHop feeds) walk = some (hops.foldl (Walk.along feeds) walk) := by
  induction hops generalizing walk with
  | nil => rfl
  | cons hop rest ih =>
    rw [foldlM_cons, walkHop_eq fits.1]
    exact ih fits.2

theorem foldl_along_fees (hops : List AssetPair) (walk : Walk) :
    (hops.foldl (Walk.along feeds) walk).fees = walk.fees + 30 * hops.length := by
  induction hops generalizing walk with
  | nil => rfl
  | cons hop rest ih =>
    rw [foldl_cons, ih, length_cons]
    simp only [Walk.along]
    omega

theorem estimate_fees (feeds : Table AssetPair Int) (amount : Int) (hops : List AssetPair) :
    (estimate feeds amount hops).fees = 30 * hops.length := by
  rw [estimate, foldl_along_fees]
  simp [Walk.start]

def liquidityPath (feeds : Table AssetPair Int) (amount : Int) (hops : List AssetPair) :
    LiquidityPath :=
  ⟨hops, (estimate feeds amount hops).liquidity, (estimate feeds amount hops).slippage,
    (estimate feeds amount hops).fees⟩

theorem calculatePathCost_eq (fits : (Walk.start amount).FitsAlong feeds hops) :
    calculatePathCost feeds amount hops =
      if slippageToleranceBps < (estimate feeds amount hops).slippage then
        some (.error .slippageExceeded) else some (.ok (liquidityPath feeds amount hops)) := by
  rw [calculatePathCost, foldlM_walkHop fits]
  rfl

end Estimates

section Selections

variable {feeds : Table AssetPair Int} {amount : Int} {seen paths : List (List AssetPair)}
  {selection : Selection}

def costOf (feeds : Table AssetPair Int) (amount : Int) (hops : List AssetPair) : Nat :=
  (estimate feeds amount hops).slippage + (estimate feeds amount hops).fees

def Within (feeds : Table AssetPair Int) (amount : Int) (hops : List AssetPair) : Prop :=
  (estimate feeds amount hops).slippage ≤ slippageToleranceBps
deriving Decidable

/-- What was selected of the paths seen: the cheapest within the tolerance, if there is one. -/
structure Selected (feeds : Table AssetPair Int) (amount : Int) (seen : List (List AssetPair))
    (selection : Selection) : Prop where
  none : selection.best = none → selection.minCost = u32Max ∧
    ∀ hops ∈ seen, ¬ Within feeds amount hops
  some : ∀ path, selection.best = some path → ∃ hops ∈ seen, Within feeds amount hops ∧
    path = liquidityPath feeds amount hops ∧ selection.minCost = costOf feeds amount hops ∧
    ∀ other ∈ seen, Within feeds amount other →
      costOf feeds amount hops ≤ costOf feeds amount other

theorem Selected.consider {hops : List AssetPair} (selected : Selected feeds amount seen selection)
    (fits : (Walk.start amount).FitsAlong feeds hops) (short : hops.length ≤ maxHops) :
    ∃ next, consider feeds amount selection hops = .some next ∧
      Selected feeds amount (seen ++ [hops]) next := by
  have fees := estimate_fees feeds amount hops
  have few : 30 * hops.length ≤ 90 := by
    unfold maxHops at short
    omega
  have room : 590 < u32Max := by decide
  simp only [MultiHop.consider, calculatePathCost_eq fits]
  by_cases exceeds : slippageToleranceBps < (estimate feeds amount hops).slippage
  · have beyond : ¬ Within feeds amount hops := not_le.mpr exceeds
    rw [if_pos exceeds]
    refine ⟨selection, rfl, fun absent => ?_, fun path hit => ?_⟩
    · obtain ⟨cost, none⟩ := selected.none absent
      refine ⟨cost, fun other mem => ?_⟩
      rcases List.mem_append.mp mem with prior | latest
      · exact none other prior
      · exact List.mem_singleton.mp latest ▸ beyond
    · obtain ⟨chosen, mem, within, same, cost, least⟩ := selected.some path hit
      refine ⟨chosen, mem_append_left _ mem, within, same, cost, fun other inside held => ?_⟩
      rcases List.mem_append.mp inside with prior | latest
      · exact least other prior held
      · exact absurd (List.mem_singleton.mp latest ▸ held) beyond
  · have within : Within feeds amount hops := not_lt.mp exceeds
    have bounded : costOf feeds amount hops ≤ 590 := by
      unfold Within slippageToleranceBps at within
      unfold costOf
      omega
    have added : checkedCount u32Max (liquidityPath feeds amount hops).estimatedSlippage
        (liquidityPath feeds amount hops).totalFees = .some (costOf feeds amount hops) := by
      rw [checkedCount_eq_some]
      exact ⟨(bounded.trans room.le), rfl⟩
    rw [if_neg exceeds]
    simp only [Option.bind_eq_bind, Option.bind_some, added]
    refine ⟨_, rfl, ?_⟩
    split
    next cheaper =>
      refine ⟨fun absent => (by cases absent), fun path hit => ?_⟩
      cases hit
      refine ⟨hops, mem_append_right _ (mem_singleton_self _), within, rfl, rfl,
        fun other inside held => ?_⟩
      rcases List.mem_append.mp inside with prior | latest
      · cases best : selection.best with
        | none => exact absurd held ((selected.none best).2 other prior)
        | some path =>
          obtain ⟨_, _, _, _, cost, least⟩ := selected.some path best
          exact (cheaper.le.trans cost.le).trans (least other prior held)
      · exact List.mem_singleton.mp latest ▸ le_rfl
    next dearer =>
      refine ⟨fun absent => ?_, fun path hit => ?_⟩
      · have cost := (selected.none absent).1
        omega
      · obtain ⟨chosen, mem, held, same, cost, least⟩ := selected.some path hit
        refine ⟨chosen, mem_append_left _ mem, held, same, cost, fun other inside held => ?_⟩
        rcases List.mem_append.mp inside with prior | latest
        · exact least other prior held
        · rw [List.mem_singleton.mp latest]
          omega

/-- All paths are considered. The induction is on those that are left. -/
theorem Selected.all (selected : Selected feeds amount seen selection)
    (fits : ∀ hops ∈ paths, (Walk.start amount).FitsAlong feeds hops ∧ hops.length ≤ maxHops) :
    ∃ final, paths.foldlM (MultiHop.consider feeds amount) selection = .some final ∧
      Selected feeds amount (seen ++ paths) final := by
  induction paths generalizing seen selection with
  | nil => exact ⟨selection, rfl, by rwa [append_nil]⟩
  | cons hops rest ih =>
    obtain ⟨hopsFit, short⟩ := fits hops mem_cons_self
    obtain ⟨next, considered, following⟩ := selected.consider hopsFit short
    obtain ⟨final, reached, last⟩ := ih following
      fun other mem => fits other (mem_cons_of_mem _ mem)
    refine ⟨final, ?_, by simpa using last⟩
    rw [foldlM_cons, considered]
    exact reached

theorem selectPath_spec
    (fits : ∀ hops ∈ paths, (Walk.start amount).FitsAlong feeds hops ∧ hops.length ≤ maxHops) :
    ∃ final, selectPath feeds amount paths = .some final ∧ Selected feeds amount paths final := by
  have initially : Selected feeds amount [] ⟨.none, u32Max⟩ :=
    ⟨fun _ => ⟨rfl, fun _ mem => (by cases mem)⟩, fun _ hit => (by cases hit)⟩
  exact initially.all fits

end Selections

/-- A route within the tolerance that no such route is cheaper than. -/
structure Optimal (store : MultiHopStore) (source target : Asset) (amount : Int)
    (path : LiquidityPath) : Prop where
  route : Route store.pairsList source target path.hops
  estimated : path = liquidityPath store.feeds amount path.hops
  within : Within store.feeds amount path.hops
  least : ∀ hops, Route store.pairsList source target hops → Within store.feeds amount hops →
    costOf store.feeds amount path.hops ≤ costOf store.feeds amount hops

/-- A search returns an optimal path for its amount, or the error that there is none. -/
def Answers (env : Env) (store : MultiHopStore) (source target : Asset) (amount : Int) : Prop :=
  wp (findOptimalPath env source target amount)
    (fun path _ => Optimal store source target amount path)
    (fun reason _ => reason = .error .noPathFound ∧
      ∀ hops, Route store.pairsList source target hops → ¬ Within store.feeds amount hops)
    store

/-- Up to the amount a hop's slippage is found, and is not less for more. -/
def SlippageOrdered (amount : Int) : Prop :=
  ∀ smaller larger, smaller ≤ larger → larger ≤ amount → ∃ low high,
    totalSlippage smaller = some low ∧ totalSlippage larger = some high ∧ low ≤ high

/-- The slippage of the amount fits in 32 bits, and along every route every number fits in its
type. -/
def AmountFits (store : MultiHopStore) (source target : Asset) (amount : Int) : Prop :=
  slippageFor amount ≤ u32Max ∧ ∀ hops, Route store.pairsList source target hops →
    (Walk.start amount).FitsAlong store.feeds hops

instance (store : MultiHopStore) (source target : Asset) (amount : Int) :
    Decidable (AmountFits store source target amount) :=
  decidable_of_iff (slippageFor amount ≤ u32Max ∧
    ∀ hops ∈ findAllPaths store.pairsList source target maxHops,
      (Walk.start amount).FitsAlong store.feeds hops)
    (by simp only [mem_findAllPaths, AmountFits])

section Searches

variable {env : Env} {store : MultiHopStore} {source target : Asset} {amount : Int}

theorem AmountFits.ordered (fits : AmountFits store source target amount) :
    SlippageOrdered amount := by
  intro smaller larger ordered within
  have high := slippageFor_mono within
  have low := slippageFor_mono ordered
  have room := fits.1
  exact ⟨_, _, totalSlippage_eq (by omega), totalSlippage_eq (by omega), low⟩

theorem hopsOf_length (path : List Asset) (current : Asset) :
    (hopsOf current path).length = path.length := by
  induction path generalizing current with
  | nil => rfl
  | cons next rest ih =>
    rw [hopsOf, length_cons, ih, length_cons]

theorem Route.short {graph : List AssetPair} {hops : List AssetPair}
    (route : Route graph source target hops) : hops.length ≤ maxHops := by
  obtain ⟨path, _, short, rfl⟩ := route
  rwa [hopsOf_length]

theorem search_spec (fits : AmountFits store source target amount)
    (fresh : store.cachedPath env source target = none) :
    wp (findOptimalPath env source target amount)
      (fun path after => Optimal store source target amount path ∧
        after = store.cachePath env source target path)
      (fun reason _ => reason = .error .noPathFound ∧
        ∀ hops, Route store.pairsList source target hops → ¬ Within store.feeds amount hops)
      store := by
  obtain ⟨selection, selects, selected⟩ := @selectPath_spec store.feeds amount
    (findAllPaths store.pairsList source target maxHops) fun hops listed =>
      have route := mem_findAllPaths.mp listed
      ⟨fits.2 hops route, route.short⟩
  simp only [findOptimalPath, wp_rules, fresh, selects, Option.some.injEq, forall_eq', reduceCtorEq,
    false_implies, and_true]
  refine ⟨fun path hit => ?_, fun absent => ⟨trivial, fun hops route => ?_⟩⟩
  · obtain ⟨hops, listed, within, rfl, _, least⟩ := selected.some path hit
    exact ⟨mem_findAllPaths.mp listed, rfl, within, fun other route held =>
      least other (mem_findAllPaths.mpr route) held⟩
  · exact (selected.none absent).2 hops (mem_findAllPaths.mpr route)

end Searches

/-- A search, or another entry point that writes the pairs and the prices. -/
inductive MultiHopCall where
  | finds (source target : Asset) (amount : Amount)
  | writes (pairsList : List AssetPair) (feeds : Table AssetPair Int)

def MultiHopCall.run (env : Env) : MultiHopCall → MultiHopProgram Unit
  | .finds source target amount => discard (findOptimalPath env source target amount.val)
  | .writes pairsList feeds =>
    modify fun store => { store with pairsList, feeds }

/-- The call is a search for a path between the assets. -/
def MultiHopCall.Seeks (source target : Asset) : MultiHopCall → Prop
  | .finds first second _ => first = source ∧ second = target
  | .writes _ _ => False

instance (source target : Asset) : DecidablePred (MultiHopCall.Seeks source target)
  | .finds _ _ _ => inferInstanceAs (Decidable (_ ∧ _))
  | .writes _ _ => .isFalse id

structure MultiHopInput where
  arrival : Arrival
  call : MultiHopCall

def multiHopStep (input : MultiHopInput) (ledger : Ledger MultiHopStore) : Ledger MultiHopStore :=
  ledger.call input.arrival fun env => input.call.run env

abbrev MultiHopTransition := Runs.Transition (Ledger MultiHopStore) MultiHopInput

namespace MultiHopTransition

variable (taken : MultiHopTransition)

def env : Env := taken.pre.env taken.input.arrival

def Returned : Prop := Accepts (taken.input.call.run taken.env) taken.pre.store
deriving Decidable

/-- The amount of a search. -/
def amount : Int :=
  match taken.input.call with
  | .finds _ _ amount => amount.val
  | .writes _ _ => 0

def Fills (source target : Asset) : Prop :=
  taken.input.call.Seeks source target ∧ taken.Returned ∧
    taken.pre.store.cachedPath taken.env source target = none
deriving Decidable

/-- Two searches are for the same amount, from the same pairs and prices. -/
def Agrees (prior : MultiHopTransition) : Prop :=
  prior.amount = taken.amount ∧
    prior.pre.store.pairsList = taken.pre.store.pairsList ∧
    prior.pre.store.feeds = taken.pre.store.feeds

instance (prior : MultiHopTransition) : Decidable (taken.Agrees prior) :=
  have : Decidable (prior.pre.store.feeds = taken.pre.store.feeds) :=
    decidable_of_iff (prior.pre.store.feeds.entries = taken.pre.store.feeds.entries)
      AList.ext_iff.symm
  inferInstanceAs (Decidable (_ ∧ _ ∧ _))

variable (past : List MultiHopTransition)

/-- The amount of a search fits, and a path that is still kept for its assets was found by a
search that agrees with it. -/
def SoundFor (taken : MultiHopTransition) : MultiHopCall → Prop
  | .finds source target amount =>
    AmountFits taken.pre.store source target amount.val ∧
      ∀ prior ∈ past, MultiHopTransition.Fills prior source target →
        taken.env.sequence ≤ (MultiHopTransition.env prior).sequence + cacheLedgers →
          taken.Agrees prior
  | .writes _ _ => True

instance : DecidablePred (SoundFor past taken)
  | .finds _ _ _ => inferInstanceAs (Decidable (_ ∧ _))
  | .writes _ _ => .isTrue trivial

def Sound (taken : MultiHopTransition) : Prop :=
  SoundFor past taken taken.input.call
deriving Decidable

end MultiHopTransition

section Runs

open Runs

variable {past : List MultiHopTransition} {ledger : Ledger MultiHopStore}
  {source target : Asset}

/-- What is kept was found by an earlier search, and was optimal for it. -/
def CacheKept (past : List MultiHopTransition) (ledger : Ledger MultiHopStore) : Prop :=
  ∀ source target cached, ledger.store.cachedPaths.lookup (source, target) = some cached →
    ∃ prior ∈ past, MultiHopTransition.Fills prior source target ∧
      cached.liveUntil = (MultiHopTransition.env prior).sequence + cacheLedgers ∧
      Optimal prior.pre.store source target (MultiHopTransition.amount prior) cached.path

theorem CacheKept.more (kept : CacheKept past ledger) (taken : MultiHopTransition)
    {after : Ledger MultiHopStore} (same : after.store.cachedPaths = ledger.store.cachedPaths) :
    CacheKept (past ++ [taken]) after := by
  intro source target cached hit
  rw [same] at hit
  obtain ⟨prior, mem, rest⟩ := kept source target cached hit
  exact ⟨prior, mem_append_left _ mem, rest⟩

variable {path : LiquidityPath}

/-- A kept path answers a search that agrees with the one that found it. -/
theorem CacheKept.optimal {arrival : Arrival} {amount : Amount} (kept : CacheKept past ledger)
    (sound : MultiHopTransition.Sound past ⟨ledger, ⟨arrival, .finds source target amount⟩,
      multiHopStep ⟨arrival, .finds source target amount⟩ ledger⟩)
    (live : ledger.store.cachedPath (ledger.env arrival) source target = some path) :
    Optimal ledger.store source target amount.val path := by
  obtain ⟨cached, hit, rfl⟩ := Option.map_eq_some_iff.mp live
  obtain ⟨has, within⟩ := Option.filter_eq_some_iff.mp hit
  obtain ⟨prior, mem, fills, until_, optimal⟩ := kept source target cached has
  have recent : (ledger.env arrival).sequence ≤ cached.liveUntil := of_decide_eq_true within
  obtain ⟨amounts, pairs, feeds⟩ := sound.2 prior mem fills (until_ ▸ recent)
  obtain ⟨route, estimated, held, least⟩ := optimal
  rw [amounts, feeds] at estimated held least
  rw [pairs] at route least
  exact ⟨route, estimated, held, least⟩

theorem answers_of_cached {env : Env} {store : MultiHopStore} {amount : Int}
    (live : store.cachedPath env source target = some path) :
    Answers env store source target amount ↔ Optimal store source target amount path := by
  simp only [Answers, findOptimalPath, wp_rules, live]

theorem CacheKept.answers {arrival : Arrival} {amount : Amount} (kept : CacheKept past ledger)
    (sound : MultiHopTransition.Sound past ⟨ledger, ⟨arrival, .finds source target amount⟩,
      multiHopStep ⟨arrival, .finds source target amount⟩ ledger⟩) :
    Answers (ledger.env arrival) ledger.store source target amount.val := by
  cases live : ledger.store.cachedPath (ledger.env arrival) source target with
  | none =>
    exact wp_mono (search_spec sound.1 live) (fun _ _ hit => hit.1) fun _ _ none => none
  | some path =>
    exact (answers_of_cached live).mpr (kept.optimal sound live)

/-- One more call. A search that is not answered from the cache fills it. -/
theorem CacheKept.step {input : MultiHopInput} (kept : CacheKept past ledger)
    (sound : MultiHopTransition.Sound past ⟨ledger, input, multiHopStep input ledger⟩) :
    CacheKept (past ++ [⟨ledger, input, multiHopStep input ledger⟩])
      (multiHopStep input ledger) := by
  obtain ⟨arrival, call⟩ := input
  cases call with
  | writes pairsList feeds => exact kept.more _ rfl
  | finds source target amount =>
    by_cases accepts : Accepts (MultiHopCall.run (ledger.env arrival)
        (.finds source target amount)) ledger.store
    · cases live : ledger.store.cachedPath (ledger.env arrival) source target with
      | some path =>
        have unchanged : (multiHopStep ⟨arrival, .finds source target amount⟩ ledger).store =
            ledger.store := by
          refine @invoke_rule _ _ _ (MultiHopCall.run (ledger.env arrival) _)
            (fun after => after = ledger.store) ledger.store ?_
          simp only [MultiHopCall.run, wp_rules, findOptimalPath, live]
        exact kept.more _ (congrArg MultiHopStore.cachedPaths unchanged)
      | none =>
        obtain ⟨_, gave⟩ := gave_of_accepts accepts
        have searched := search_spec sound.1 live
        obtain ⟨path, optimal, filled⟩ : ∃ path, Optimal ledger.store source target amount.val
            path ∧ (multiHopStep ⟨arrival, .finds source target amount⟩ ledger).store =
              ledger.store.cachePath (ledger.env arrival) source target path := by
          have specified : wlp (MultiHopCall.run (ledger.env arrival)
              (.finds source target amount)) (fun _ after => ∃ path,
                Optimal ledger.store source target amount.val path ∧
                  after = ledger.store.cachePath (ledger.env arrival) source target path)
              ledger.store := by
            simp only [MultiHopCall.run, wp_discard]
            exact wp_then searched (fun path _ hit => ⟨path, hit⟩)
          exact wp_ok specified gave
        intro first second cached hit
        rw [filled, MultiHopStore.cachePath, Table.lookup_insert] at hit
        split at hit
        next same =>
          obtain ⟨rfl, rfl⟩ := Prod.mk.inj same
          cases hit
          exact ⟨_, mem_append_right _ (mem_singleton_self _),
            ⟨⟨rfl, rfl⟩, accepts, live⟩, rfl, optimal⟩
        next =>
          obtain ⟨prior, mem, rest⟩ := kept first second cached hit
          exact ⟨prior, mem_append_left _ mem, rest⟩
    · exact kept.more _ (congrArg MultiHopStore.cachedPaths (invoke_of_rejected accepts))

/-- From an empty cache, in every run of sound searches each search returns an optimal path for
its own amount, or the error that there is none. -/
theorem paths_optimal (start : Ledger MultiHopStore) (empty : start.store.cachedPaths = ∅)
    (inputs : List MultiHopInput) (sound : ∀ prior taken later,
      trace multiHopStep start inputs = prior ++ taken :: later →
        MultiHopTransition.Sound prior taken) :
    ∀ taken ∈ trace multiHopStep start inputs, ∀ source target amount,
      taken.input.call = .finds source target amount →
        Answers (MultiHopTransition.env taken) taken.pre.store source target amount.val ∧
          SlippageOrdered amount.val := by
  intro taken mem source target amount called
  obtain ⟨prior, later, split⟩ := append_of_mem mem
  obtain ⟨same, starts, after⟩ := transitions_split multiHopStep start split
  have kept : CacheKept (trace multiHopStep start (prior.map Transition.input))
      (final multiHopStep start (prior.map Transition.input)) := by
    refine past_invariant multiHopStep CacheKept
      (fun past state input => MultiHopTransition.Sound past
        ⟨state, input, multiHopStep input state⟩)
      (fun past state input allowed kept => kept.step allowed) start ?_ _ ?_
    · intro first second cached hit
      rw [empty] at hit
      cases hit
    · intro pre between rest placed
      rw [same] at placed
      have allowed := sound pre between (rest ++ taken :: later) (by
        rw [split, placed, append_assoc, cons_append])
      have stepped := transition_is_step multiHopStep start inputs between (by
        rw [split, placed]
        simp)
      exact stepped ▸ allowed
  rw [same, ← starts] at kept
  have allowed := sound prior taken later split
  obtain ⟨pre, ⟨arrival, call⟩, next⟩ := taken
  obtain rfl : call = .finds source target amount := called
  obtain rfl : next = multiHopStep ⟨arrival, .finds source target amount⟩ pre := after
  exact ⟨kept.answers allowed, allowed.1.ordered⟩

def usdc : Asset := ⟨"USDC", some 7⟩

def xlm : Asset := ⟨"XLM", none⟩

def eurc : Asset := ⟨"EURC", some 8⟩

/-- Two pairs are listed, at the price of one. -/
def twoPairs : Ledger MultiHopStore := ⟨⟨[⟨usdc, xlm⟩, ⟨eurc, xlm⟩], ∅, ∅⟩, 1000, 100⟩

/-- Somebody looks for a path from one asset to the other. -/
def findsPath (units : Nat) : MultiHopInput :=
  ⟨⟨5, 1, []⟩, .finds usdc eurc (amountOf (units * 10000000))⟩

/-- A second search for the same amount gets the kept path, and it is optimal. -/
theorem second_search_answered : Answers ((multiHopStep (findsPath 100) twoPairs).env ⟨5, 1, []⟩)
        (multiHopStep (findsPath 100) twoPairs).store usdc eurc (amountOf (100 * 10000000)).val ∧
      SlippageOrdered (amountOf (100 * 10000000)).val :=
  paths_optimal twoPairs rfl [findsPath 100, findsPath 100]
    (OneShot.forall_places (by decide +kernel)) _ (mem_cons_of_mem _ mem_cons_self)
    usdc eurc _ rfl

/-- A path that was found for a hundred units is returned for a billion, which no path takes
within the tolerance. -/
theorem kept_path_exceeds_tolerance :
    ¬ ∀ (start : Ledger MultiHopStore), start.store.cachedPaths = ∅ → ∀ inputs,
      ∀ taken ∈ trace multiHopStep start inputs, ∀ source target amount,
        taken.input.call = .finds source target amount →
          Answers (MultiHopTransition.env taken) taken.pre.store source target amount.val := by
  intro every
  have answered := every twoPairs rfl [findsPath 100, findsPath 1000000000] _
    (mem_cons_of_mem _ mem_cons_self) usdc eurc _ rfl
  have live : (multiHopStep (findsPath 100) twoPairs).store.cachedPath
      ((multiHopStep (findsPath 100) twoPairs).env ⟨5, 1, []⟩) usdc eurc =
        some ⟨[⟨usdc, xlm⟩, ⟨xlm, eurc⟩], 10000000000000, 20, 60⟩ := by decide +kernel
  have within := ((answers_of_cached live).mp answered).within
  revert within
  decide +kernel

end Runs

end StellarSwipe.Oracle.MultiHop
