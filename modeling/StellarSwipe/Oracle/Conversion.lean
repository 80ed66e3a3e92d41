import StellarSwipe.Host
import StellarSwipe.Library.KeyedSum
import StellarSwipe.Library.Runs

/-!
# Conversion to the base currency

An amount is converted at its asset's price in the base currency, or along the shortest path of
listed pairs, rounded down at every hop.
-/

namespace StellarSwipe.Oracle

open FixedWidth Program List

structure Asset where
  code : String
  issuer : Option Address
deriving DecidableEq

structure AssetPair where
  base : Asset
  quote : Asset
deriving DecidableEq

inductive ConversionError where
  | priceNotFound
  | noConversionPath
  | invalidPath
  | conversionOverflow
deriving DecidableEq

structure CachedConversion where
  rate : Int
  timestamp : Nat

/-- What conversions read: the price of each feed and its decimals, the listed pairs, and the
cached rate of each pair of assets. -/
structure ConversionStore where
  baseCurrency : Option Asset
  feeds : Table AssetPair Int
  feedDecimals : Table AssetPair Nat
  pairsList : List AssetPair
  conversionCache : Table (Asset × Asset) CachedConversion

def conversionCacheSeconds : Nat := 300

def maxPathLength : Nat := 3

def pow10 : Nat → Option Int
  | 0 => some 1
  | exponent + 1 => (pow10 exponent).bind (i128.checkedMul · 10)

def normalizeAmount (amount : Int) (fromDecimals toDecimals : Nat) : Option Int :=
  if fromDecimals = toDecimals then some amount
  else if fromDecimals < toDecimals then
    (pow10 (toDecimals - fromDecimals)).bind (i128.checkedMul amount ·)
  else (pow10 (fromDecimals - toDecimals)).map (amount.tdiv ·)

def rescalePrice (rawPrice : Int) (fromDecimals toDecimals : Nat) : Option Int :=
  normalizeAmount rawPrice fromDecimals toDecimals

structure ConversionPath where
  assets : List Asset
  totalHops : Nat

/-- The paths still to be followed, oldest first, and the assets that some path reached. -/
structure PathSearch where
  queue : List (List Asset)
  visited : List Asset

def AssetPair.neighbour (pair : AssetPair) (current : Asset) : Option Asset :=
  if pair.base = current then some pair.quote
  else if pair.quote = current then some pair.base
  else none

/-- An asset that no path reached yet is reached by the given one. -/
def PathSearch.visit (path : List Asset) (search : PathSearch) (next : Asset) : PathSearch :=
  if next ∈ search.visited then search
  else ⟨search.queue ++ [path ++ [next]], next :: search.visited⟩

def PathSearch.explore (pairs : List AssetPair) (path : List Asset) (current : Asset)
    (search : PathSearch) : PathSearch :=
  (pairs.filterMap (·.neighbour current)).foldl (PathSearch.visit path) search

def assetsOf (pairs : List AssetPair) : List Asset :=
  pairs.flatMap fun pair => [pair.base, pair.quote]

/-- What is left of a search: the assets it has not reached, twice, and the paths it has not
followed. A path is only queued for an asset that is reached for the first time. -/
def PathSearch.left (pairs : List AssetPair) (search : PathSearch) : Nat :=
  2 * ((assetsOf pairs).filter (· ∉ search.visited)).length + search.queue.length

variable {pairs : List AssetPair}

theorem PathSearch.visit_left {next : Asset} (listed : next ∈ assetsOf pairs) (path : List Asset)
    (search : PathSearch) : (search.visit path next).left pairs ≤ search.left pairs := by
  unfold PathSearch.visit
  split
  next => exact le_rfl
  next fresh =>
    have fewer : ((assetsOf pairs).filter (· ∉ next :: search.visited)).length <
        ((assetsOf pairs).filter (· ∉ search.visited)).length := by
      have split : (assetsOf pairs).filter (· ∉ next :: search.visited) =
          ((assetsOf pairs).filter (· ∉ search.visited)).filter (· ≠ next) := by
        rw [filter_filter]
        refine filter_congr fun asset _ => ?_
        simp only [mem_cons, not_or, Bool.decide_and]
      rw [split, length_filter_lt_length_iff_exists]
      exact ⟨next, List.mem_filter.mpr ⟨listed, by simpa using fresh⟩, by simp⟩
    simp only [PathSearch.left, length_append, length_singleton]
    omega

theorem AssetPair.neighbour_listed {pair : AssetPair} {current next : Asset} (mem : pair ∈ pairs)
    (hit : pair.neighbour current = some next) : next ∈ assetsOf pairs := by
  refine List.mem_flatMap.mpr ⟨pair, mem, ?_⟩
  unfold AssetPair.neighbour at hit
  split at hit
  next => exact Option.some.inj hit ▸ mem_cons_of_mem _ mem_cons_self
  next =>
    split at hit
    next => exact Option.some.inj hit ▸ mem_cons_self
    next => cases hit

theorem PathSearch.explore_left (pairs : List AssetPair) (path : List Asset) (current : Asset)
    (search : PathSearch) : (search.explore pairs path current).left pairs ≤ search.left pairs := by
  have listed : ∀ next ∈ pairs.filterMap (·.neighbour current), next ∈ assetsOf pairs := by
    intro next mem
    obtain ⟨pair, inside, hit⟩ := List.mem_filterMap.mp mem
    exact AssetPair.neighbour_listed inside hit
  unfold PathSearch.explore
  generalize pairs.filterMap (·.neighbour current) = neighbours at listed
  induction neighbours generalizing search with
  | nil => exact le_rfl
  | cons next rest ih =>
    have first := PathSearch.visit_left (listed next mem_cons_self) path search
    exact (ih (search.visit path next)
      fun other mem => listed other (mem_cons_of_mem _ mem)).trans first

def searchPath (pairs : List AssetPair) (target : Asset) (search : PathSearch) :
    Except ConversionError ConversionPath :=
  match _queued : search.queue with
  | [] => .error .noConversionPath
  | path :: rest =>
    if maxPathLength < path.length then searchPath pairs target { search with queue := rest }
    else
      match path.getLast? with
      | none => .error .invalidPath
      | some current =>
        if current = target then .ok ⟨path, path.length - 1⟩
        else searchPath pairs target
          (PathSearch.explore pairs path current { search with queue := rest })
termination_by search.left pairs
decreasing_by
  all_goals
    have shorter : PathSearch.left pairs { search with queue := rest } < search.left pairs := by
      simp only [PathSearch.left, _queued, length_cons]
      omega
  · exact shorter
  · exact (PathSearch.explore_left pairs path current _).trans_lt shorter

namespace ConversionStore

variable (store : ConversionStore) (now : Nat) (amount rate : Int) (asset : Asset)

def base : Asset := store.baseCurrency.getD ⟨"XLM", none⟩

def normalizedPrice (pair : AssetPair) : Except ConversionError Int := do
  let rawPrice ← (store.feeds.lookup pair).elim (.error .priceNotFound) .ok
  let fromDecimals := (store.feedDecimals.lookup pair).getD 7
  (rescalePrice rawPrice fromDecimals 7).elim (.error .conversionOverflow) .ok

variable (source : Asset) (target : Asset)

def convertDirect : Except ConversionError Int := do
  let price ← store.normalizedPrice ⟨source, target⟩
  let product ← (i128.checkedMul amount price).elim (.error .conversionOverflow) .ok
  (normalizeAmount product 14 7).elim (.error .conversionOverflow) .ok

def findConversionPath : Except ConversionError ConversionPath :=
  searchPath store.pairsList target ⟨[[source]], [source]⟩

/-- The hops of a path, one after the other. -/
def convertAlong (amount : Int) : List Asset → Except ConversionError Int
  | current :: next :: rest => do
    let converted ← store.convertDirect amount current next
    convertAlong converted (next :: rest)
  | _ => .ok amount

def convertViaPath : Except ConversionError Int := do
  let path ← store.findConversionPath source target
  store.convertAlong amount path.assets

def convertToBase : Except ConversionError Int :=
  if asset = store.base then .ok amount
  else
    match store.convertDirect amount asset store.base with
    | .ok result => .ok result
    | .error _ => store.convertViaPath amount asset store.base

/-- The rate that is kept for a pair of assets, while it is live. -/
def cachedConversion : Option CachedConversion :=
  (store.conversionCache.lookup (source, target)).filter fun cached =>
    now - cached.timestamp < conversionCacheSeconds

def cacheConversion : ConversionStore :=
  { store with
    conversionCache := store.conversionCache.insert (source, target) ⟨rate, now⟩ }

end ConversionStore

abbrev ConversionProgram := Program ConversionStore ConversionError

def convertToBase (env : Env) (amount : Int) (asset : Asset) : ConversionProgram Int := do
  let store ← get
  match store.cachedConversion env.timestamp asset store.base with
  | some cached =>
    orFail ((i128.checkedMul amount cached.rate).bind (i128.checkedDiv · 10000000))
      .conversionOverflow
  | none => do
    let result ← ofExcept (store.convertToBase amount asset)
    if 0 < amount then
      let rate := ((i128.checkedMul result 10000000).bind (i128.checkedDiv · amount)).getD 0
      if 0 < rate then modify (·.cacheConversion env.timestamp rate asset store.base)
      else pure ()
    else pure ()
    pure result

/-- A call of the contract, and the host dropping an entry of the cache. -/
inductive ConversionCall where
  | converts (amount : Amount) (asset : Asset)
  | drops (source target : Asset)

structure ConversionInput where
  arrival : Arrival
  call : ConversionCall

def dropEntry (source target : Asset) : ConversionProgram Unit :=
  modify fun store =>
    { store with conversionCache := store.conversionCache.erase (source, target) }

def ConversionCall.run (env : Env) : ConversionCall → ConversionProgram Unit
  | .converts amount asset => do let _ ← convertToBase env amount asset
  | .drops source target => dropEntry source target

def conversionStep (input : ConversionInput) (ledger : Ledger ConversionStore) :
    Ledger ConversionStore :=
  ledger.call input.arrival fun env => input.call.run env

abbrev ConversionTransition := Runs.Transition (Ledger ConversionStore) ConversionInput

end StellarSwipe.Oracle
