import StellarSwipe.Oracle.Conversion
import StellarSwipe.Oracle.Quorum

/-!
# Prices and their guards

A price of a pair is set directly, submitted as a quote by a source, or averaged from external
reports.
-/

namespace StellarSwipe.Oracle

open FixedWidth Program

inductive PriceError where
  | circuitBreakerTripped
  | priceDeviationBreakerTripped
  | invalidAsset
  | invalidPrice
  | unauthorized
  | feedDisabled
  | lowConfidence
  | duplicateObservation
  | deviationRejected
  | invalidFeedBatch
  | invalidFeedConfig
  | oracleNotFound
  | oracleAlreadyExists
  | insufficientOracles
  | insufficientSources
  | futureTimestamp
  | stalePrice
  | conversionOverflow
  | overflow
  | priceNotFound
  | unreliablePrice
  | conflictingObservations
  | quorumDepleted

structure PriceFeed where
  price : Int
  timestamp : Nat
deriving DecidableEq

/-- A quote. -/
structure PriceData where
  price : Int
  timestamp : Nat
  source : Address
  confidence : Nat
  ledgerSequence : Nat

structure FeedConfig where
  owner : Address
  publishers : List Address
  maxAge : Nat
  enabled : Bool
  version : Nat

structure FeedConfigInput where
  pair : AssetPair
  owner : Address
  publishers : List Address
  maxAge : Nat
  enabled : Bool

structure ExternalPrice where
  assetPair : AssetPair
  price : Int
  timestamp : Nat
  roundId : Nat
  oracleAddress : Address
  decimals : Nat

inductive QuorumState where
  | primary
  | degraded
  | conflicting
  | depleted
deriving DecidableEq

structure QuorumFallback where
  members : List Address
  minSources : Nat

/-- The tables of the contract, each with the defaults its readers use. -/
structure PriceStore where
  contract : Address
  admin : Option Address
  feeds : Table AssetPair PriceFeed
  pairsList : List AssetPair
  history : Table (AssetPair × Nat) Int
  pruned : Table AssetPair Nat
  feedRounds : Table AssetPair Nat
  updateCounts : Table AssetPair Nat
  feedConfigs : Table AssetPair FeedConfig
  updateThresholds : Table AssetPair Nat
  trippedBreakers : Table AssetPair Bool
  recoveryStreaks : Table AssetPair Nat
  priceMap : Table AssetPair (List PriceData)
  oracleWeights : Table Address Nat
  stalenessWindows : Table AssetPair Nat
  alertThresholds : Table AssetPair Nat
  rejectThresholds : Table AssetPair Nat
  minSourceCount : Nat
  minConfidence : Nat
  quorumFallbacks : Table AssetPair QuorumFallback
  quorumStates : Table AssetPair QuorumState

abbrev PriceProgram := Program PriceStore PriceError

def recoveryRounds : Nat := 3

def bucketSize : Nat := 300

def maxBuckets : Nat := 2016

def maxFeedBatch : Nat := 10

def maxPublishers : Nat := 10

def defaultStalenessWindowSecs : Nat := 300

namespace PriceStore

variable (store : PriceStore) (now : Nat) (pair : AssetPair)

def blank (contract admin : Address) : PriceStore :=
  ⟨contract, some admin, ∅, [], ∅, ∅, ∅, ∅, ∅, ∅, ∅, ∅, ∅, ∅, ∅, ∅, ∅, 0, 0, ∅, ∅⟩

def isTripped : Bool := (store.trippedBreakers.lookup pair).getD false

def recoveryStreak : Nat := (store.recoveryStreaks.lookup pair).getD 0

def thresholdBps : Nat := (store.updateThresholds.lookup pair).getD 0

def stalenessWindow : Nat :=
  (store.stalenessWindows.lookup pair).getD defaultStalenessWindowSecs

/-- The price that a breaker compares with. -/
def previousPrice : Option Int :=
  ((store.feeds.lookup pair).map PriceFeed.price).filter (0 < ·)

def setStreak (streak : Nat) : PriceStore :=
  { store with recoveryStreaks := store.recoveryStreaks.insert pair streak }

def setTripped (tripped : Bool) : PriceStore :=
  { store with trippedBreakers := store.trippedBreakers.insert pair tripped }

def trip : PriceStore := (store.setStreak pair 0).setTripped pair true

def clear : PriceStore := (store.setTripped pair false).setStreak pair 0

def putPrice (price : Int) : PriceStore :=
  { store with feeds := store.feeds.insert pair ⟨price, now⟩ }

def addAvailablePair : PriceStore :=
  if pair ∈ store.pairsList then store
  else { store with pairsList := store.pairsList ++ [pair] }

/-- Drop the snapshots of the pair that fell out of the window. -/
def pruneOldData (currentBucket : Nat) : PriceStore :=
  if currentBucket < maxBuckets then store
  else
    let target := currentBucket - maxBuckets
    let last := (store.pruned.lookup pair).getD 0
    { store with
      history := (List.range' last (target - last)).foldl
        (fun history bucket => history.erase (pair, bucket)) store.history
      pruned := store.pruned.insert pair (max last target) }

def storePrice (price : Int) : PriceStore :=
  { store with
    history := store.history.insert (pair, now / bucketSize) price }.pruneOldData pair
      (now / bucketSize)

def putQuotes (quotes : List PriceData) : PriceStore :=
  { store with priceMap := store.priceMap.insert pair quotes }

def freshOf (quotes : List PriceData) : List PriceData :=
  quotes.filter fun quote => now - quote.timestamp < store.stalenessWindow pair

/-- Who may submit quotes of the pair: anybody while its feed is not configured. -/
def publishes (source : Address) : Bool :=
  match store.feedConfigs.lookup pair with
  | none => true
  | some config => config.owner = source ∨ source ∈ config.publishers

def enabled : Bool := ((store.feedConfigs.lookup pair).map FeedConfig.enabled).getD true

end PriceStore

/-- Whether an update stays within the threshold, which may be switched off. -/
def withinThreshold (thresholdBps : Nat) (deviationBps : Int) : Bool :=
  thresholdBps = 0 ∨ deviationBps ≤ thresholdBps

/-- How far an update is from the previous price, if it can be computed. -/
def updateDeviation (newPrice prevPrice : Int) : Option Int := do
  let difference ← i128.checkedSub newPrice prevPrice
  let magnitude ← i128.checked |difference|
  let scaled ← i128.checkedMul magnitude 10000
  i128.checkedDiv scaled prevPrice

variable (env : Env) (admin : Address) (pair : AssetPair)

/-- Whether an update is rejected. A deviating one trips the breaker; a tripped breaker counts
the close ones in a row. -/
def checkAndTrip (newPrice : Int) : PriceProgram Bool := do
  let store ← get
  match store.previousPrice pair with
  | none => pure (store.isTripped pair)
  | some prevPrice => do
    let deviation ← orTrap (updateDeviation newPrice prevPrice)
    if store.isTripped pair then
      if withinThreshold (store.thresholdBps pair) deviation then
        let streak ← orTrap (checkedCount u32Max (store.recoveryStreak pair) 1)
        if streak < recoveryRounds then
          modify (·.setStreak pair streak)
          pure true
        else
          modify (·.clear pair)
          pure false
      else
        modify (·.setStreak pair 0)
        pure true
    else if withinThreshold (store.thresholdBps pair) deviation then pure false
    else
      modify (·.trip pair)
      pure true

def guardTripped : PriceProgram Unit := do
  ensure (¬ (← get).isTripped pair) .priceDeviationBreakerTripped

def recordRound : PriceProgram Unit := do
  let round ← orTrap (checkedCount u64Max (((← get).feedRounds.lookup pair).getD 0) 1)
  modify fun store => { store with feedRounds := store.feedRounds.insert pair round }

def onPriceUpdate : PriceProgram Unit := do
  let count ← orTrap (checkedCount u32Max (((← get).updateCounts.lookup pair).getD 0) 1)
  modify fun store => { store with updateCounts := store.updateCounts.insert pair count }

def setPrice (paused : Bool) (pair : AssetPair) (price : Int) : PriceProgram Unit := do
  ensure (¬ paused) .circuitBreakerTripped
  ensure (0 < price) .invalidAsset
  let rejected ← checkAndTrip pair price
  if rejected then pure ()
  else
    modify (·.putPrice env.timestamp pair price)
    modify (·.addAvailablePair pair)
    modify (·.storePrice env.timestamp pair price)
    recordRound pair
    onPriceUpdate pair

def authorizePublisher (source : Address) : PriceProgram Unit := do
  ensure ((← get).publishes pair source) .unauthorized
  ensure ((← get).enabled pair) .feedDisabled

/-- The spread of all sources, in basis points of the lowest. The cast to 32 bits wraps. -/
def checkDeviation (prices : List Int) : PriceProgram Unit := do
  let store ← get
  let alertThreshold := (store.alertThresholds.lookup pair).getD 0
  let rejectThreshold := (store.rejectThresholds.lookup pair).getD 0
  if (alertThreshold = 0 ∧ rejectThreshold = 0) ∨ prices = [] then pure ()
  else
    let minPrice := prices.foldl min i128.high
    let maxPrice := prices.foldl max i128.low
    if minPrice ≤ 0 then pure ()
    else
      let spread ← orTrap (i128.checkedSub maxPrice minPrice)
      let scaled ← orTrap (i128.checkedMul spread 10000)
      let deviationBps := (scaled.tdiv minPrice % 2 ^ 32).toNat
      ensure (¬ (rejectThreshold ≠ 0 ∧ rejectThreshold < deviationBps)) .deviationRejected

def submitPairPrice (paused : Bool) (source : Address) (pair : AssetPair) (price : Int)
    (confidence : Nat) : PriceProgram Unit := do
  ensure (¬ paused) .circuitBreakerTripped
  demand (source ∈ env.auths)
  ensure (0 < price) .invalidPrice
  authorizePublisher pair source
  guardTripped pair
  let store ← get
  ensure (store.minConfidence ≤ confidence) .lowConfidence
  ensure ((store.oracleWeights.lookup source).getD 0 ≠ 0) .unauthorized
  let fresh := store.freshOf env.timestamp pair ((store.priceMap.lookup pair).getD [])
  let entry : PriceData := ⟨price, env.timestamp, source, confidence, env.sequence⟩
  match admitObservation (fresh.map fun quote => (quote.source, quote.ledgerSequence)) source
    env.sequence with
  | .error _ => fail .duplicateObservation
  | .ok .append => do
    checkDeviation pair (fresh.map PriceData.price ++ [price])
    modify (·.putQuotes pair (fresh ++ [entry]))
    recordRound pair
  | .ok (.replace index) => do
    checkDeviation pair ((fresh.eraseIdx index).map PriceData.price ++ [price])
    modify (·.putQuotes pair (fresh.set index entry))
    recordRound pair

/-- A vote joins the ones so far: each provider has the one with its highest sequence. -/
def castVote (votes : List Vote) (vote : Vote) : List Vote :=
  match admitObservation (votes.map fun other => (other.provider, other.sequence)) vote.provider
    vote.sequence with
  | .ok .append => votes ++ [vote]
  | .ok (.replace index) => votes.set index vote
  | .error _ => votes

/-- Go through the reports: stale ones are dropped and noticed, and so are prices that are not
positive. -/
def collectReports (store : PriceStore) (now : Nat) :
    List ExternalPrice → List Vote → Bool → Except PriceError (List Vote × Bool)
  | [], accepted, anyStale => .ok (accepted, anyStale)
  | report :: rest, accepted, anyStale =>
    if store.stalenessWindow report.assetPair ≤ now - report.timestamp then
      collectReports store now rest accepted true
    else
      match rescalePrice report.price report.decimals 7 with
      | none => .error .conversionOverflow
      | some normalized =>
        if normalized ≤ 0 then collectReports store now rest accepted anyStale
        else
          collectReports store now rest
            (castVote accepted ⟨report.oracleAddress, report.roundId, normalized⟩) anyStale

def sumPrices : List Int → Int → Option Int
  | [], sum => some sum
  | price :: rest, sum => (i128.checkedAdd sum price).bind (sumPrices rest)

def processExternalPrices (store : PriceStore) (now : Nat) (prices : List ExternalPrice) :
    Except PriceError Int :=
  if prices = [] then .error .insufficientOracles
  else if ∃ report ∈ prices, now < report.timestamp then .error .futureTimestamp
  else do
    let (accepted, anyStale) ← collectReports store now prices [] false
    if accepted = [] then .error (if anyStale then .stalePrice else .insufficientOracles)
    else
      match sumPrices (accepted.map Vote.price) 0 with
      | none => .error .overflow
      | some sum => .ok (sum.tdiv accepted.length)

def updateWithExternalData (prices : List ExternalPrice) : PriceProgram Int := do
  let consensusPrice ← ofExcept (processExternalPrices (← get) env.timestamp prices)
  match prices.head? with
  | none => pure consensusPrice
  | some report => do
    modify (·.putPrice env.timestamp report.assetPair consensusPrice)
    onPriceUpdate report.assetPair
    pure consensusPrice

def requireAdmin (caller : Address) : PriceProgram Unit := do
  demand (caller ∈ env.auths)
  let admin ← orFail (← get).admin .unauthorized
  ensure (caller = admin) .unauthorized

def validatePublishers (publishers : List Address) : PriceProgram Unit :=
  ensure (publishers.length ≤ maxPublishers ∧ publishers.Nodup) .invalidFeedConfig

def putConfig (config : FeedConfig) : PriceProgram Unit :=
  modify fun store => { store with feedConfigs := store.feedConfigs.insert pair config }

def configureFeed (entry : FeedConfigInput) : PriceProgram Unit := do
  let known := ((← get).feedConfigs.lookup entry.pair).map FeedConfig.version
  let version ← orTrap (checkedCount u32Max (known.getD 0) 1)
  putConfig entry.pair ⟨entry.owner, entry.publishers, entry.maxAge, entry.enabled, version⟩

def configureFeeds (entries : List FeedConfigInput) : PriceProgram Unit := do
  requireAdmin env admin
  ensure (entries ≠ [] ∧ entries.length ≤ maxFeedBatch) .invalidFeedBatch
  ensure (∀ entry ∈ entries, entry.maxAge ≠ 0) .invalidFeedConfig
  each (fun entry => validatePublishers entry.publishers) entries
  ensure (entries.map FeedConfigInput.pair).Nodup .invalidFeedConfig
  each configureFeed entries

def ownerConfig (caller : Address) (pair : AssetPair) : PriceProgram FeedConfig := do
  let config ← orFail ((← get).feedConfigs.lookup pair) .oracleNotFound
  ensure (config.owner = caller) .unauthorized
  pure config

def changePublishers (config : FeedConfig) (pair : AssetPair) (publishers : List Address) :
    PriceProgram Unit := do
  let version ← orTrap (checkedCount u32Max config.version 1)
  putConfig pair { config with publishers, version }

def addFeedPublisher (owner : Address) (pair : AssetPair) (publisher : Address) :
    PriceProgram Unit := do
  demand (owner ∈ env.auths)
  let config ← ownerConfig owner pair
  ensure (publisher ∉ config.publishers) .oracleAlreadyExists
  validatePublishers (config.publishers ++ [publisher])
  changePublishers config pair (config.publishers ++ [publisher])

def revokeFeedPublisher (owner : Address) (pair : AssetPair) (publisher : Address) :
    PriceProgram Unit := do
  demand (owner ∈ env.auths)
  let config ← ownerConfig owner pair
  ensure (publisher ∈ config.publishers) .oracleNotFound
  changePublishers config pair (config.publishers.erase publisher)

def writeSetting (write : PriceStore → PriceStore) : PriceProgram Unit := do
  requireAdmin env admin
  modify write

def setUpdateDeviationThreshold (maxDeviationBps : Nat) : PriceProgram Unit :=
  writeSetting env admin fun store =>
    { store with updateThresholds := store.updateThresholds.insert pair maxDeviationBps }

def resetUpdateDeviationBreaker : PriceProgram Unit :=
  writeSetting env admin (·.clear pair)

def setMinSourceCount (minCount : Nat) : PriceProgram Unit :=
  writeSetting env admin fun store => { store with minSourceCount := minCount }

def setMinConfidence (minConfidence : Nat) : PriceProgram Unit :=
  writeSetting env admin fun store => { store with minConfidence }

def setStalenessWindow (windowSecs : Nat) : PriceProgram Unit :=
  writeSetting env admin fun store =>
    { store with stalenessWindows := store.stalenessWindows.insert pair windowSecs }

def setDeviationThreshold (thresholdBps : Nat) : PriceProgram Unit :=
  writeSetting env admin fun store =>
    { store with alertThresholds := store.alertThresholds.insert pair thresholdBps }

def setDeviationRejectThreshold (thresholdBps : Nat) : PriceProgram Unit :=
  writeSetting env admin fun store =>
    { store with rejectThresholds := store.rejectThresholds.insert pair thresholdBps }

def addPriceSource (source : Address) (weight : Nat) : PriceProgram Unit :=
  writeSetting env admin fun store =>
    { store with oracleWeights := store.oracleWeights.insert source weight }

def setQuorumFallback (members : List Address) (minSources : Nat) : PriceProgram Unit := do
  requireAdmin env admin
  ensure (members ≠ [] ∧ max minSources 1 ≤ members.length) .insufficientOracles
  modify fun store =>
    { store with
      quorumFallbacks := store.quorumFallbacks.insert pair ⟨members, max minSources 1⟩ }

end StellarSwipe.Oracle
