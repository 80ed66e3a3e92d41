import StellarSwipe.Library.BubbleSort
import StellarSwipe.Library.Revisions
import StellarSwipe.Oracle.QuorumOrder

/-!
# The consensus of registered oracles

Oracles submit prices for a round, and whoever asks for the consensus closes it: the median of the
prices, each as often as its oracle's weight says.
-/

namespace StellarSwipe.Oracle.Consensus

open FixedWidth Program

inductive ConsensusError where
  | unauthorized
  | oracleAlreadyExists
  | circuitBreakerTripped
  | invalidPrice
  | oracleNotFound
  | lowReputation
  | duplicateObservation
  | insufficientOracles

structure OracleReputation where
  totalSubmissions : Nat
  accurateSubmissions : Nat
  avgDeviation : Int
  reputationScore : Nat
  weight : Nat
  lastSlash : Nat

structure PriceSubmission where
  oracle : Address
  price : Int
  timestamp : Nat
  ledgerSequence : Nat

structure ConsensusPriceData where
  price : Int
  timestamp : Nat
  numOracles : Nat

structure ConsensusStore where
  admin : Option Address
  oracles : List Address
  oracleStats : Table Address OracleReputation
  priceSubmissions : List PriceSubmission
  consensusPrice : Option ConsensusPriceData

abbrev ConsensusProgram := Program ConsensusStore ConsensusError

def accuracyThresholdTight : Int := 100

def accuracyThresholdModerate : Int := 500

def majorDeviationThreshold : Int := 2000

def secondsPerWeek : Nat := 604800

/-- The reputation of an oracle that has not submitted yet. -/
def newReputation : OracleReputation := ⟨0, 0, 0, 50, 1, 0⟩

def getOracleStats (stats : Table Address OracleReputation) (oracle : Address) : OracleReputation :=
  stats.entryOr newReputation oracle

/-- A product of unsigned 32-bit numbers. -/
def checkedScore (count factor : Nat) : Option Nat :=
  if count * factor ≤ u32Max then some (count * factor) else none

namespace OracleReputation

variable (stats : OracleReputation)

variable (now : Nat)

def calculateReputation : Option Nat :=
  if stats.totalSubmissions = 0 then some 50
  else do
    let accurate ← checkedScore stats.accurateSubmissions 60
    let accuracyScore := accurate / stats.totalSubmissions
    let deviationPenalty := min (stats.avgDeviation.tdiv 1000) 30
    let deviationScore := i128.saturatingSub 30 deviationPenalty
    let elapsed ← (if stats.lastSlash ≤ now then some (now - stats.lastSlash) else none)
    let consistencyScore := if secondsPerWeek < elapsed then 10 else 0
    let total ← i128.checkedAdd accuracyScore deviationScore
    let total ← i128.checkedAdd total consistencyScore
    some (max 0 (min total 100)).toNat

def weightOf (reputation : Nat) : Nat :=
  if 90 ≤ reputation ∧ reputation ≤ 100 then 10
  else if 75 ≤ reputation ∧ reputation ≤ 89 then 5
  else if 60 ≤ reputation ∧ reputation ≤ 74 then 2
  else if 50 ≤ reputation ∧ reputation ≤ 59 then 1
  else 0

/-- The weight that the reputation gives, and whether it is another one. -/
def adjustOracleWeight : Option OracleReputation := do
  let reputation ← stats.calculateReputation now
  some { stats with weight := weightOf reputation, reputationScore := reputation }

def shouldRemoveOracle : Option Bool := do
  let inaccurate ←
    (if 100 ≤ stats.totalSubmissions then do
      let accurate ← checkedScore stats.accurateSubmissions 100
      some (decide (accurate / stats.totalSubmissions < 50))
    else some false)
  if inaccurate then some true
  else do
    let reputation ← stats.calculateReputation now
    some (decide (reputation < 50))

/-- The round's end for a registered oracle: its new weight, and whether it is to go. -/
def adjust : Option (OracleReputation × Bool) := do
  let adjusted ← stats.adjustOracleWeight now
  let poor ← adjusted.shouldRemoveOracle now
  some (adjusted, poor)

/-- How far a price is from the consensus, in basis points. -/
def deviationBps (price consensusPrice : Int) : Option Int := do
  let difference ← i128.checkedSub price consensusPrice
  let magnitude ← i128.checked |difference|
  let scaled ← i128.checkedMul magnitude 10000
  i128.checkedDiv scaled consensusPrice

def trackOracleAccuracy (price consensusPrice : Int) : Option OracleReputation := do
  let totalSubmissions ← checkedCount u32Max stats.totalSubmissions 1
  let deviation ← deviationBps price consensusPrice
  let totalDev ← i128.checkedMul stats.avgDeviation ((totalSubmissions - 1 : Nat) : Int)
  let sum ← i128.checkedAdd totalDev deviation
  let avgDeviation ← i128.checkedDiv sum totalSubmissions
  let accurateSubmissions ←
    (if deviation ≤ accuracyThresholdTight then checkedCount u32Max stats.accurateSubmissions 1
    else if deviation ≤ accuracyThresholdModerate then
      checkedCount u32Max stats.accurateSubmissions 1
    else some stats.accurateSubmissions)
  some { stats with totalSubmissions, accurateSubmissions, avgDeviation }

/-- A major deviation costs reputation. -/
def slashOracle : OracleReputation :=
  { stats with reputationScore := stats.reputationScore - 20, lastSlash := now }

/-- What a submission of the round does to its oracle, and whether it is slashed. -/
def assess (price consensusPrice : Int) : Option (OracleReputation × Bool) := do
  let tracked ← stats.trackOracleAccuracy price consensusPrice
  let deviation ← deviationBps price consensusPrice
  if majorDeviationThreshold < deviation then some (tracked.slashOracle now, true)
  else some (tracked, false)

end OracleReputation

namespace ConsensusStore

variable (store : ConsensusStore)

def statsOf (oracle : Address) : OracleReputation := getOracleStats store.oracleStats oracle

def removeOracleInternal (oracle : Address) : ConsensusStore :=
  { store with oracles := store.oracles.filter (· ≠ oracle) }

/-- Each price as often as its oracle's weight says, and at least once. -/
def weightedPrices : List Int :=
  store.priceSubmissions.flatMap fun submission =>
    List.replicate (max (store.statsOf submission.oracle).weight 1) submission.price

/-- The median, rounded toward zero between the two prices in the middle. -/
def weightedMedian : Option Int :=
  if store.priceSubmissions = [] then some 0
  else
    let sorted := BubbleSort.bubbleSort store.weightedPrices
    let mid := sorted.length / 2
    if sorted.length % 2 = 0 then do
      let lower ← sorted[mid - 1]?
      let upper ← sorted[mid]?
      let total ← i128.checkedAdd lower upper
      some (total.tdiv 2)
    else sorted[mid]?

end ConsensusStore

def requireAdmin (caller : Address) : ConsensusProgram Unit := do
  let admin ← orFail (← get).admin .unauthorized
  ensure (caller = admin) .unauthorized

variable (env : Env)

def registerOracle (admin oracle : Address) : ConsensusProgram Unit := do
  demand (admin ∈ env.auths)
  requireAdmin admin
  ensure (oracle ∉ (← get).oracles) .oracleAlreadyExists
  modify fun store => { store with
    oracles := store.oracles ++ [oracle]
    oracleStats := store.oracleStats.insert oracle newReputation }

def removeOracle (admin oracle : Address) : ConsensusProgram Unit := do
  demand (admin ∈ env.auths)
  requireAdmin admin
  modify (·.removeOracleInternal oracle)

def submitPrice (paused : Bool) (oracle : Address) (price : Int) : ConsensusProgram Unit := do
  ensure (¬ paused) .circuitBreakerTripped
  demand (oracle ∈ env.auths)
  ensure (0 < price) .invalidPrice
  let store ← get
  ensure (oracle ∈ store.oracles) .oracleNotFound
  ensure ((store.statsOf oracle).weight ≠ 0) .lowReputation
  let submission : PriceSubmission := ⟨oracle, price, env.timestamp, env.sequence⟩
  match admitObservation (store.priceSubmissions.map fun other =>
    (other.oracle, other.ledgerSequence)) oracle env.sequence with
  | .error _ => fail .duplicateObservation
  | .ok .append =>
    modify fun store =>
      { store with priceSubmissions := store.priceSubmissions ++ [submission] }
  | .ok (.replace index) =>
    modify fun store =>
      { store with priceSubmissions := store.priceSubmissions.set index submission }

/-- The oracles that the round's end finds to be poor are removed if two others remain. -/
def ConsensusStore.removePoor (store : ConsensusStore) (oracles removed : List Address) :
    ConsensusStore :=
  if 2 ≤ oracles.length - removed.length then
    removed.foldl ConsensusStore.removeOracleInternal store
  else store

def calculateConsensus : ConsensusProgram Int := do
  let store ← get
  ensure (store.priceSubmissions ≠ []) .insufficientOracles
  let consensusPrice ← orTrap store.weightedMedian
  let assessed ← orTrap (store.oracleStats.reviseAll newReputation PriceSubmission.oracle
    (fun submission stats => stats.assess env.timestamp submission.price consensusPrice)
    store.priceSubmissions)
  let adjusted ← orTrap (assessed.1.reviseAll newReputation id
    (fun _ stats => stats.adjust env.timestamp) store.oracles)
  modify fun store => { store with oracleStats := adjusted.1 }
  let removed := ((store.oracles.zip adjusted.2).filter (·.2)).map (·.1)
  modify (·.removePoor store.oracles removed)
  modify fun after => { after with
    consensusPrice := some ⟨consensusPrice, env.timestamp, store.priceSubmissions.length⟩
    priceSubmissions := [] }
  pure consensusPrice

inductive ConsensusCall where
  | registers (admin oracle : Address)
  | removes (admin oracle : Address)
  | submits (paused : Bool) (oracle : Address) (price : Amount)
  | calculates

structure ConsensusInput where
  arrival : Arrival
  call : ConsensusCall

def ConsensusCall.run : ConsensusCall → ConsensusProgram Unit
  | .registers admin oracle => registerOracle env admin oracle
  | .removes admin oracle => removeOracle env admin oracle
  | .submits paused oracle price => submitPrice env paused oracle price
  | .calculates => discard (calculateConsensus env)

def consensusStep (input : ConsensusInput) (ledger : Ledger ConsensusStore) :
    Ledger ConsensusStore :=
  ledger.call input.arrival fun env => input.call.run env

abbrev ConsensusTransition := Runs.Transition (Ledger ConsensusStore) ConsensusInput

end StellarSwipe.Oracle.Consensus
