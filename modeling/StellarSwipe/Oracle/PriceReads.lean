import StellarSwipe.Oracle.PriceFeeds

/-!
# Price reads and the state of a quorum

A read takes the fresh quotes of a pair. Where a fallback quorum is configured, the sources of the
quotes are the preferred quorum, and the fallback members are consulted when it is too small or
disagrees.
-/

namespace StellarSwipe.Oracle

open FixedWidth Program

inductive QuorumReason where
  | primaryConsensus
  | insufficientFallback
  | conflictFallback

structure QuorumOutcome where
  price : Int
  state : QuorumState
  reason : QuorumReason
  numSources : Nat

def defaultMaxDeviationBps : Amount := amountOf 1000

namespace PriceStore

variable (store : PriceStore) (env : Env) (pair : AssetPair)

def fallbackOf : QuorumFallback := (store.quorumFallbacks.lookup pair).getD ⟨[], 1⟩

/-- The last recorded state of the pair's quorum. -/
def getQuorumState : QuorumState := (store.quorumStates.lookup pair).getD .primary

def cacheQuorumState (state : QuorumState) : PriceStore :=
  { store with quorumStates := store.quorumStates.insert pair state }

/-- The quotes that a read takes: the submitted ones, or else the price that was set. -/
def quotesOf : Except PriceError (List PriceData) :=
  match (store.priceMap.lookup pair).getD [] with
  | quote :: rest => .ok (quote :: rest)
  | [] =>
    match store.feeds.lookup pair with
    | none => .error .priceNotFound
    | some feed => .ok [⟨feed.price, feed.timestamp, store.contract, 100, env.sequence⟩]

def freshQuotes : Except PriceError (List PriceData) :=
  if store.isTripped pair then .error .priceDeviationBreakerTripped
  else do
    let quotes ← store.quotesOf env pair
    let fresh := store.freshOf env.timestamp pair quotes
    if fresh = [] then .error .stalePrice else .ok fresh

def quorumConfig : QuorumConfig :=
  ⟨if store.minSourceCount = 0 then 1 else store.minSourceCount, defaultMaxDeviationBps⟩

end PriceStore

def PriceData.vote (quote : PriceData) : Vote := ⟨quote.source, quote.ledgerSequence, quote.price⟩

def votesFor (quotes : List PriceData) (allowed : List Address) : List Vote :=
  ((quotes.filter (·.source ∈ allowed)).map PriceData.vote).foldl castVote []

/-- The median of the prices, unless one of them is too far from it. -/
def medianWithinDeviation (config : QuorumConfig) (prices : List Int) :
    Except (Fault PriceError) (Option Int) :=
  if prices = [] then .ok none
  else
    match medianOf prices with
    | .error _ => .error .trap
    | .ok median => .ok (if ∃ price ∈ prices, deviates config median price then none else some median)

def agreedPrice (config : QuorumConfig) (minimum : Nat) (votes : List Vote) :
    Except (Fault PriceError) (Option Int) :=
  if votes ≠ [] ∧ minimum ≤ votes.length then
    medianWithinDeviation config (votes.map Vote.price)
  else .ok none

def validateQuorumWithFallback (now : Nat) (quotes : List PriceData) (authorized : List Address)
    (config : QuorumConfig) (fallback : QuorumFallback) : Except (Fault PriceError) QuorumOutcome :=
  if ∃ quote ∈ quotes, now < quote.timestamp then .error (.error .futureTimestamp)
  else if ∃ quote ∈ quotes, quote.price ≤ 0 then .error (.error .invalidPrice)
  else do
    let primary := votesFor quotes authorized
    match ← agreedPrice config config.minQuorum primary with
    | some median => .ok ⟨median, .primary, .primaryConsensus, primary.length⟩
    | none => do
      let primaryConflict := decide (primary ≠ [] ∧ config.minQuorum ≤ primary.length)
      let degraded := votesFor quotes fallback.members
      match ← agreedPrice config (max fallback.minSources 1) degraded with
      | some median =>
        .ok ⟨median, .degraded,
          if primaryConflict then .conflictFallback else .insufficientFallback, degraded.length⟩
      | none =>
        .error (.error (if primaryConflict then .conflictingObservations else .quorumDepleted))

/-- The state that a failed evaluation stands for. -/
def failedState : PriceError → QuorumState
  | .conflictingObservations => .conflicting
  | _ => .depleted

/-- The median of fresh quotes, where no fallback quorum is configured. -/
def readMedian (fresh : List PriceData) : PriceProgram (Int × Nat) := do
  let minCount := (← get).minSourceCount
  ensure (¬ (0 < minCount ∧ fresh.length < minCount)) .insufficientSources
  let sorted := fresh.mergeSort fun first second => first.price ≤ second.price
  let median ← orTrap sorted[sorted.length / 2]?
  let lowest ← orTrap sorted.head?
  let highest ← orTrap sorted.getLast?
  let spread ← orTrap (i128.checkedSub highest.price lowest.price)
  let scaled ← orTrap (i128.checkedMul spread 100)
  let percent ← orTrap (i128.checkedDiv scaled lowest.price)
  ensure (percent ≤ 10) .unreliablePrice
  pure (median.price, median.confidence)

def PriceStore.evaluateQuorum (store : PriceStore) (now : Nat) (pair : AssetPair)
    (fresh : List PriceData) : Except (Fault PriceError) QuorumOutcome :=
  validateQuorumWithFallback now fresh (fresh.map PriceData.source).eraseDups store.quorumConfig
    (store.fallbackOf pair)

def readQuorum (env : Env) (pair : AssetPair) (fresh : List PriceData) :
    PriceProgram (Int × Nat) := do
  match (← get).evaluateQuorum env.timestamp pair fresh with
  | .ok outcome => do
    modify (·.cacheQuorumState pair outcome.state)
    let confidence := (fresh.find? (·.price = outcome.price)).map PriceData.confidence
    pure (outcome.price, confidence.getD 0)
  | .error .trap => trap
  | .error (.error reason) => do
    modify (·.cacheQuorumState pair (failedState reason))
    fail reason

def getPriceWithConfidence (env : Env) (pair : AssetPair) : PriceProgram (Int × Nat) := do
  let store ← get
  let fresh ← ofExcept (store.freshQuotes env pair)
  if (store.fallbackOf pair).members = [] then readMedian fresh
  else readQuorum env pair fresh

def getPrice (env : Env) (pair : AssetPair) : PriceProgram Int := do
  let (price, _) ← getPriceWithConfidence env pair
  pure price

/-- A setting that the admin writes. -/
inductive SettingCall where
  | updateThreshold (pair : AssetPair) (maxDeviationBps : Nat)
  | minSourceCount (minCount : Nat)
  | minConfidence (minimum : Nat)
  | stalenessWindow (pair : AssetPair) (windowSecs : Nat)
  | alertThreshold (pair : AssetPair) (thresholdBps : Nat)
  | rejectThreshold (pair : AssetPair) (thresholdBps : Nat)
  | priceSource (source : Address) (weight : Nat)
  | quorumFallback (pair : AssetPair) (members : List Address) (minSources : Nat)

def SettingCall.run (env : Env) (admin : Address) : SettingCall → PriceProgram Unit
  | .updateThreshold pair maxDeviationBps =>
    setUpdateDeviationThreshold env admin pair maxDeviationBps
  | .minSourceCount minCount => setMinSourceCount env admin minCount
  | .minConfidence minimum => setMinConfidence env admin minimum
  | .stalenessWindow pair windowSecs => setStalenessWindow env admin pair windowSecs
  | .alertThreshold pair thresholdBps => setDeviationThreshold env admin pair thresholdBps
  | .rejectThreshold pair thresholdBps => setDeviationRejectThreshold env admin pair thresholdBps
  | .priceSource source weight => addPriceSource env admin source weight
  | .quorumFallback pair members minSources => setQuorumFallback env admin pair members minSources

/-- A call of the contract. What concerns the configuration of feeds is one kind of call. -/
inductive PriceCall where
  | setsPrice (pair : AssetPair) (price : Amount)
  | submits (source : Address) (pair : AssetPair) (price : Amount) (confidence : Nat)
  | updatesExternally (prices : List ExternalPrice)
  | configuresFeeds (admin : Address) (entries : List FeedConfigInput)
  | addsPublisher (owner : Address) (pair : AssetPair) (publisher : Address)
  | revokesPublisher (owner : Address) (pair : AssetPair) (publisher : Address)
  | writesSetting (admin : Address) (setting : SettingCall)
  | resetsBreaker (admin : Address) (pair : AssetPair)
  | reads (pair : AssetPair)
  | readsPrice (pair : AssetPair)

/-- The contract may be paused when the call arrives. -/
structure PriceInput where
  arrival : Arrival
  paused : Bool
  call : PriceCall

def PriceCall.run (env : Env) (paused : Bool) : PriceCall → PriceProgram Unit
  | .setsPrice pair price => setPrice env paused pair price
  | .submits source pair price confidence => submitPairPrice env paused source pair price confidence
  | .updatesExternally prices => discard (updateWithExternalData env prices)
  | .configuresFeeds admin entries => configureFeeds env admin entries
  | .addsPublisher owner pair publisher => addFeedPublisher env owner pair publisher
  | .revokesPublisher owner pair publisher => revokeFeedPublisher env owner pair publisher
  | .writesSetting admin setting => setting.run env admin
  | .resetsBreaker admin pair => resetUpdateDeviationBreaker env admin pair
  | .reads pair => discard (getPriceWithConfidence env pair)
  | .readsPrice pair => discard (getPrice env pair)

def priceStep (input : PriceInput) (ledger : Ledger PriceStore) : Ledger PriceStore :=
  ledger.call input.arrival fun env => input.call.run env input.paused

abbrev PriceTransition := Runs.Transition (Ledger PriceStore) PriceInput

namespace PriceTransition

variable (taken : PriceTransition)

def env : Env := taken.pre.env taken.input.arrival

def Returned : Prop :=
  Accepts (taken.input.call.run taken.env taken.input.paused) taken.pre.store
deriving Decidable

end PriceTransition

def priceStart (contract admin : Address) (timestamp sequence : Nat) : Ledger PriceStore :=
  ⟨.blank contract admin, timestamp, sequence⟩

def usdcPair : AssetPair := ⟨⟨"USDC", some 5⟩, ⟨"XLM", none⟩⟩

end StellarSwipe.Oracle
