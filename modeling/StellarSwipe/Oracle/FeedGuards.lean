import StellarSwipe.Oracle.PriceEffects

/-!
# What guards a feed

A halted pair keeps its price, history and quotes until it is let go, and a configured feed
changes by the hand of those it names.
-/

namespace StellarSwipe.Oracle

open FixedWidth Program Runs Table PriceStore

/-- The stored price, its history and the quotes of a pair stay. -/
structure PairKept (pair : AssetPair) (pre after : PriceStore) : Prop where
  feed : after.feeds.lookup pair = pre.feeds.lookup pair
  history : ∀ bucket, after.history.lookup (pair, bucket) = pre.history.lookup (pair, bucket)
  quotes : after.priceMap.lookup pair = pre.priceMap.lookup pair

namespace PriceStore

variable (store : PriceStore) (pair : AssetPair)

def isClose (newPrice : Int) : Bool :=
  ((store.previousPrice pair).bind (updateDeviation newPrice)).any
    (withinThreshold (store.thresholdBps pair))

/-- An update that the breaker lets through. -/
def passes (newPrice : Int) : Bool :=
  if (store.previousPrice pair).isNone then !store.isTripped pair
  else store.isClose pair newPrice &&
    (!store.isTripped pair || decide (recoveryRounds ≤ store.recoveryStreak pair + 1))

/-- Somebody whom the pair's enabled feed names, or nobody where none is configured. -/
def Signed (auths : List Address) : Prop :=
  ∃ source ∈ auths, store.publishes pair source = true ∧ store.enabled pair = true
deriving Decidable

end PriceStore

/-- Updates of a halted pair that were close to its stored price, in a row. -/
def countClose (pair : AssetPair) (count : Nat) (taken : PriceTransition) : Nat :=
  if taken.Returned then
    match taken.input.call with
    | .setsPrice updated newPrice =>
      if updated ≠ pair then count
      else if taken.pre.store.isTripped pair ∧ taken.pre.store.isClose pair newPrice then
        count + 1
      else 0
    | _ => count
  else count

def closeUpdates (pair : AssetPair) (past : List PriceTransition) : Nat :=
  past.foldl (countClose pair) 0

theorem closeUpdates_concat (pair : AssetPair) (past : List PriceTransition)
    (taken : PriceTransition) :
    closeUpdates pair (past ++ [taken]) = countClose pair (closeUpdates pair past) taken := by
  rw [closeUpdates, List.foldl_append]
  rfl

/-- What lets a halted pair go: a reset by the admin, or the third close update in a row. -/
inductive LetsGo (prior : List PriceTransition) (taken : PriceTransition) (pair : AssetPair) : Prop
  | reset (admin : Address) : taken.input.call = .resetsBreaker admin pair →
    admin ∈ taken.env.auths → taken.pre.store.admin = some admin → LetsGo prior taken pair
  | recovered (newPrice : Amount) : taken.input.call = .setsPrice pair newPrice →
    taken.pre.store.isClose pair newPrice = true →
    recoveryRounds ≤ closeUpdates pair prior + 1 → LetsGo prior taken pair

structure Protects (prior : List PriceTransition) (taken : PriceTransition) (pair : AssetPair) :
    Prop where
  halted : taken.pre.store.isTripped pair = true →
    taken.after.store.isTripped pair = true ∧
        PairKept pair taken.pre.store taken.after.store ∨
      LetsGo prior taken pair
  configured : (taken.pre.store.feedConfigs.lookup pair).isSome = true →
    (taken.after.store.feeds.lookup pair = taken.pre.store.feeds.lookup pair ∧
        taken.after.store.priceMap.lookup pair = taken.pre.store.priceMap.lookup pair) ∨
      taken.pre.store.Signed pair taken.env.auths

/-- A step that stays within the guards: a price set for a configured feed and let through is
signed by those the feed names, and so is an external report, whose pair is not halted. -/
def PriceTransition.WithinGuards (taken : PriceTransition) : Prop :=
  taken.Returned →
  match taken.input.call with
  | .setsPrice pair newPrice =>
    taken.pre.store.passes pair newPrice = true →
      (taken.pre.store.feedConfigs.lookup pair).isSome = true →
        taken.pre.store.Signed pair taken.env.auths
  | .updatesExternally prices =>
    ∀ report ∈ prices.head?, taken.pre.store.isTripped report.assetPair = false ∧
        ((taken.pre.store.feedConfigs.lookup report.assetPair).isSome = true →
          taken.pre.store.Signed report.assetPair taken.env.auths)
  | _ => True

instance (taken : PriceTransition) : Decidable taken.WithinGuards := by
  unfold PriceTransition.WithinGuards
  refine @instDecidableForall _ _ _
    (taken.input.call.casesOn ?_ ?_ ?_ ?_ ?_ ?_ ?_ ?_ ?_ ?_) <;> intros <;> infer_instance

/-- Everything about a pair that the guards look at or protect is the same. -/
structure SamePair (pair : AssetPair) (pre after : PriceStore) : Prop where
  kept : PairKept pair pre after
  breaker : after.isTripped pair = pre.isTripped pair
  streak : after.recoveryStreak pair = pre.recoveryStreak pair

section Pairs

variable {pair other : AssetPair} {pre middle after : PriceStore}

theorem PairKept.trans (first : PairKept pair pre middle) (second : PairKept pair middle after) :
    PairKept pair pre after :=
  ⟨second.feed.trans first.feed, fun bucket => (second.history bucket).trans (first.history bucket),
    second.quotes.trans first.quotes⟩

theorem PairKept.previousPrice (kept : PairKept pair pre after) :
    after.previousPrice pair = pre.previousPrice pair := by
  rw [PriceStore.previousPrice, kept.feed, PriceStore.previousPrice]

theorem SamePair.trans (first : SamePair pair pre middle) (second : SamePair pair middle after) :
    SamePair pair pre after :=
  ⟨first.kept.trans second.kept, second.breaker.trans first.breaker,
    second.streak.trans first.streak⟩

theorem SameMarket.samePair (same : SameMarket pre after) : SamePair pair pre after :=
  ⟨⟨congrArg (AList.lookup pair) same.feeds, fun bucket => congrArg (AList.lookup (pair, bucket))
      same.history, congrArg (AList.lookup pair) same.quotes⟩,
    by rw [isTripped, same.breakers, isTripped],
    by rw [recoveryStreak, same.streaks, recoveryStreak]⟩

theorem setStreak_streak (streak : Nat) : (pre.setStreak pair streak).recoveryStreak other =
    if other = pair then streak else pre.recoveryStreak other := by
  rw [recoveryStreak, setStreak, lookup_insert]
  split <;> rfl

theorem setTripped_breaker (tripped : Bool) : (pre.setTripped pair tripped).isTripped other =
    if other = pair then tripped else pre.isTripped other := by
  rw [isTripped, setTripped, lookup_insert]
  split <;> rfl

theorem Judged.kept {newPrice : Int} {rejected : Bool}
    (judged : Judged pre pair newPrice rejected after) : PairKept other pre after := by
  cases judged <;> exact ⟨rfl, fun _ => rfl, rfl⟩

theorem Judged.elsewhere {newPrice : Int} {rejected : Bool}
    (judged : Judged pre pair newPrice rejected after) (differ : other ≠ pair) :
    SamePair other pre after := by
  have streaks (store : PriceStore) (streak : Nat) :
      (store.setStreak pair streak).recoveryStreak other = store.recoveryStreak other := by
    rw [setStreak_streak, if_neg differ]
  have breakers (store : PriceStore) (tripped : Bool) :
      (store.setTripped pair tripped).isTripped other = store.isTripped other := by
    rw [setTripped_breaker, if_neg differ]
  refine ⟨judged.kept, ?_, ?_⟩
  · cases judged with
    | recovered => exact breakers pre false
    | deviated => exact breakers (pre.setStreak pair 0) true
    | _ => rfl
  · cases judged with
    | restarted => exact streaks pre 0
    | counted => exact streaks pre _
    | recovered => exact streaks (pre.setTripped pair false) 0
    | deviated => exact streaks pre 0
    | _ => rfl

theorem Judged.passes {newPrice : Int} (judged : Judged pre pair newPrice false after) :
    pre.passes pair newPrice = true := by
  unfold PriceStore.passes isClose
  cases judged with
  | first free previous => simp [free, previous]
  | recovered halted previous computed within late => simp [previous, computed, within, late]
  | accepted free previous computed within => simp [free, previous, computed, within]

theorem erased_elsewhere (buckets : List Nat) (history : Table (AssetPair × Nat) Int)
    (differ : other ≠ pair) (bucket : Nat) :
    (buckets.foldl (fun history bucket => history.erase (pair, bucket)) history).lookup
      (other, bucket) = history.lookup (other, bucket) := by
  induction buckets generalizing history with
  | nil => rfl
  | cons first rest ih =>
    rw [List.foldl_cons, ih, lookup_erase, if_neg]
    exact fun same => differ (congrArg Prod.fst same)

theorem storePrice_elsewhere (now : Nat) (price : Int) (differ : other ≠ pair) :
    SamePair other pre ((pre.putPrice now pair price).storePrice now pair price) := by
  have fresh (bucket : Nat) : (pre.history.insert (pair, now / bucketSize) price).lookup
      (other, bucket) = pre.history.lookup (other, bucket) := by
    rw [lookup_insert, if_neg fun same => differ (congrArg Prod.fst same)]
  have feed : (pre.feeds.insert pair ⟨price, now⟩).lookup other = pre.feeds.lookup other := by
    rw [lookup_insert, if_neg differ]
  unfold storePrice pruneOldData
  split
  next => exact ⟨⟨feed, fresh, rfl⟩, rfl, rfl⟩
  next =>
    exact ⟨⟨feed, fun bucket => (erased_elsewhere _ _ differ bucket).trans (fresh bucket), rfl⟩,
      rfl, rfl⟩

theorem storePrice_breaker (now : Nat) (price : Int) :
    ((pre.putPrice now pair price).storePrice now pair price).isTripped other =
      pre.isTripped other := by
  unfold storePrice pruneOldData
  split <;> rfl

theorem read_samePair {evaluated : Option QuorumState} (outcome : evaluated = none ∧ after = pre ∨
      ∃ state, evaluated = some state ∧ state.Supplies ∧
        after = pre.cacheQuorumState pair state) : SamePair other pre after := by
  rcases outcome with ⟨_, rfl⟩ | ⟨state, _, _, rfl⟩ <;> exact ⟨⟨rfl, fun _ => rfl, rfl⟩, rfl, rfl⟩

end Pairs

/-- A halted pair has a stored price, and its streak is that of its close updates. -/
structure HaltKnown (past : List PriceTransition) (store : PriceStore) (pair : AssetPair) :
    Prop where
  priced : store.isTripped pair = true → (store.previousPrice pair).isSome = true
  streak : store.isTripped pair = true → store.recoveryStreak pair = closeUpdates pair past

section Steps

variable {past : List PriceTransition} {taken : PriceTransition} {pair : AssetPair}

theorem HaltKnown.unaffected (known : HaltKnown past taken.pre.store pair)
    (same : SamePair pair taken.pre.store taken.after.store)
    (counts : countClose pair (closeUpdates pair past) taken = closeUpdates pair past) :
    Protects past taken pair ∧ HaltKnown (past ++ [taken]) taken.after.store pair := by
  refine ⟨⟨fun halted => .inl ⟨same.breaker.trans halted, same.kept⟩,
    fun _ => .inl ⟨same.kept.feed, same.kept.quotes⟩⟩, fun halted => ?_, fun halted => ?_⟩
  · rw [same.kept.previousPrice]
    exact known.priced (same.breaker ▸ halted)
  · rw [closeUpdates_concat, counts, same.streak]
    exact known.streak (same.breaker ▸ halted)

theorem HaltKnown.released (free : taken.after.store.isTripped pair = false)
    (protect : Protects past taken pair) :
    Protects past taken pair ∧ HaltKnown (past ++ [taken]) taken.after.store pair :=
  ⟨protect, fun halted => (by cases free.symm.trans halted),
    fun halted => (by cases free.symm.trans halted)⟩

theorem countClose_own {newPrice : Amount} (gave : taken.Returned)
    (called : taken.input.call = .setsPrice pair newPrice) (count : Nat) :
    countClose pair count taken =
      if taken.pre.store.isTripped pair ∧ taken.pre.store.isClose pair newPrice then
        count + 1 else 0 := by
  rw [countClose, if_pos gave, called]
  exact if_neg fun differ => differ rfl

theorem countClose_other (others : ∀ newPrice, taken.input.call ≠ .setsPrice pair newPrice)
    (count : Nat) : countClose pair count taken = count := by
  unfold countClose
  split
  next =>
    split
    next updated newPrice called =>
      refine if_pos fun same => others newPrice ?_
      rw [called, same]
    next => rfl
  next => rfl

theorem HaltKnown.rejected {newPrice : Amount} (known : HaltKnown past taken.pre.store pair)
    (gave : taken.Returned) (called : taken.input.call = .setsPrice pair newPrice)
    (judged : Judged taken.pre.store pair newPrice true taken.after.store) :
    Protects past taken pair ∧ HaltKnown (past ++ [taken]) taken.after.store pair := by
  have kept : PairKept pair taken.pre.store taken.after.store := judged.kept
  have counts := countClose_own gave called (closeUpdates pair past)
  rw [← closeUpdates_concat] at counts
  have stays (halted : taken.after.store.isTripped pair = true) : Protects past taken pair :=
    ⟨fun _ => .inl ⟨halted, kept⟩, fun _ => .inl ⟨kept.feed, kept.quotes⟩⟩
  generalize taken.after.store = after at *
  cases judged with
  | halted halts previous => exact absurd (known.priced halts) (by simp [previous])
  | restarted halts previous computed beyond =>
    have far : taken.pre.store.isClose pair newPrice = false := by
      simp [isClose, previous, computed, beyond]
    refine ⟨stays halts, fun _ => known.priced halts, fun _ => ?_⟩
    rw [counts, far, setStreak_streak, if_pos rfl]
    simp
  | counted halts previous computed within early =>
    have close : taken.pre.store.isClose pair newPrice = true := by
      simp [isClose, previous, computed, within]
    refine ⟨stays halts, fun _ => known.priced halts, fun _ => ?_⟩
    rw [counts, if_pos ⟨halts, close⟩, setStreak_streak, if_pos rfl, known.streak halts]
  | deviated free previous computed beyond =>
    have halts : (taken.pre.store.trip pair).isTripped pair = true := by
      rw [PriceStore.trip, setTripped_breaker, if_pos rfl]
    refine ⟨stays halts, fun _ => by rw [kept.previousPrice, previous]; rfl, fun _ => ?_⟩
    rw [counts, free]
    simp [PriceStore.trip, setTripped, recoveryStreak, setStreak]

theorem HaltKnown.has {newPrice : Amount} {middle : PriceStore}
    (known : HaltKnown past taken.pre.store pair)
    (called : taken.input.call = .setsPrice pair newPrice)
    (judged : Judged taken.pre.store pair newPrice false middle)
    (same : SameMarket ((middle.putPrice taken.env.timestamp pair newPrice).storePrice
      taken.env.timestamp pair newPrice) taken.after.store)
    (signed : taken.pre.store.passes pair newPrice = true →
      (taken.pre.store.feedConfigs.lookup pair).isSome = true →
        taken.pre.store.Signed pair taken.env.auths) :
    Protects past taken pair ∧ HaltKnown (past ++ [taken]) taken.after.store pair := by
  have free : taken.after.store.isTripped pair = false := by
    rw [same.samePair.breaker, storePrice_breaker]
    cases judged with
    | first free => exact free
    | recovered =>
      exact (@setTripped_breaker pair pair taken.pre.store false).trans (if_pos rfl)
    | accepted free => exact free
  refine HaltKnown.released free ⟨fun halted => .inr ?_, fun configured =>
    .inr (signed judged.passes configured)⟩
  cases judged with
  | first unhalted => cases unhalted.symm.trans halted
  | accepted unhalted => cases unhalted.symm.trans halted
  | recovered halts previous computed within late =>
    refine .recovered newPrice called ?_ (known.streak halts ▸ late)
    simp [isClose, previous, computed, within]

theorem HaltKnown.step {ledger : Ledger PriceStore} {input : PriceInput}
    (known : HaltKnown past ledger.store pair)
    (guarded : PriceTransition.WithinGuards ⟨ledger, input, priceStep input ledger⟩) :
    Protects past ⟨ledger, input, priceStep input ledger⟩ pair ∧
      HaltKnown (past ++ [⟨ledger, input, priceStep input ledger⟩])
        (priceStep input ledger).store pair := by
  have unaffected := @HaltKnown.unaffected past ⟨ledger, input, priceStep input ledger⟩ pair known
  rcases priceStep_effect input ledger with ⟨gave, effect⟩ | ⟨refused, same⟩
  · have settles (same : SameMarket ledger.store (priceStep input ledger).store)
        (others : ∀ newPrice, input.call ≠ .setsPrice pair newPrice) :=
      unaffected same.samePair (countClose_other others _)
    have guards := guarded gave
    generalize called : input.call = call at effect
    generalize landed : (priceStep input ledger).store = after at effect
    rw [← landed]
    cases effect with
    | @rejected updated _ newPrice judged =>
      rw [← landed] at judged
      by_cases own : updated = pair
      · subst own
        exact @HaltKnown.rejected past ⟨ledger, input, priceStep input ledger⟩ updated newPrice known
          gave called judged
      · refine unaffected (judged.elsewhere (Ne.symm own)) (countClose_other (fun _ same => own ?_) _)
        cases called.symm.trans same
        rfl
    | @has updated middle _ newPrice judged same =>
      rw [← landed] at same
      simp only [called] at guards
      by_cases own : updated = pair
      · subst own
        exact @HaltKnown.has past ⟨ledger, input, priceStep input ledger⟩ updated newPrice middle
          known called judged same guards
      · have elsewhere := (judged.elsewhere (Ne.symm own)).trans
          (storePrice_elsewhere (ledger.env input.arrival).timestamp newPrice (Ne.symm own))
        refine unaffected (elsewhere.trans same.samePair)
          (countClose_other (fun _ same => own ?_) _)
        cases called.symm.trans same
        rfl
    | @submitted source quoted _ _ quotes _ signed publishes enabled free same =>
      rw [← landed] at same
      by_cases own : quoted = pair
      · subst own
        refine HaltKnown.released (same.samePair.breaker.trans free)
          ⟨fun halted => (by cases free.symm.trans halted), fun _ => .inr ?_⟩
        exact ⟨source, signed, publishes, enabled⟩
      · have elsewhere : SamePair pair ledger.store (ledger.store.putQuotes quoted quotes) := by
          refine ⟨⟨rfl, fun _ => rfl, ?_⟩, rfl, rfl⟩
          rw [putQuotes, lookup_insert, if_neg (Ne.symm own)]
        exact unaffected (elsewhere.trans same.samePair) (countClose_other (by simp [called]) _)
    | @averaged report rest price _ same =>
      rw [← landed] at same
      simp only [called] at guards
      obtain ⟨free, signed⟩ := guards report rfl
      by_cases own : report.assetPair = pair
      · subst own
        exact HaltKnown.released (same.samePair.breaker.trans free)
          ⟨fun halted => (by cases free.symm.trans halted), fun configured =>
            .inr (signed configured)⟩
      · have elsewhere : SamePair pair ledger.store (ledger.store.putPrice
            (ledger.env input.arrival).timestamp report.assetPair price) := by
          refine ⟨⟨?_, fun _ => rfl, rfl⟩, rfl, rfl⟩
          rw [putPrice, lookup_insert, if_neg (Ne.symm own)]
        exact unaffected (elsewhere.trans same.samePair) (countClose_other (by simp [called]) _)
    | @reset admin halted signed isAdmin =>
      by_cases own : halted = pair
      · subst own
        have free : (ledger.store.clear halted).isTripped halted = false :=
          (@setTripped_breaker halted halted ledger.store false).trans (if_pos rfl)
        exact HaltKnown.released (landed ▸ free) ⟨fun _ => .inr (.reset admin called signed isAdmin),
          fun _ => .inl (by rw [landed]; exact ⟨rfl, rfl⟩)⟩
      · have elsewhere : SamePair pair ledger.store (ledger.store.clear halted) := by
          refine ⟨⟨rfl, fun _ => rfl, rfl⟩, ?_, ?_⟩
          · exact (@setTripped_breaker halted pair ledger.store false).trans
              (if_neg (Ne.symm own))
          · rw [PriceStore.clear, setStreak_streak, if_neg (Ne.symm own)]
            rfl
        exact unaffected (landed ▸ elsewhere) (countClose_other (by simp [called]) _)
    | configured same => exact settles (landed ▸ same) (by simp [called])
    | published same => exact settles (landed ▸ same) (by simp [called])
    | revoked same => exact settles (landed ▸ same) (by simp [called])
    | written same => exact settles (landed ▸ same) (by simp [called])
    | read outcome =>
      exact unaffected (landed ▸ read_samePair outcome) (countClose_other (by simp [called]) _)
    | readPrice outcome =>
      exact unaffected (landed ▸ read_samePair outcome) (countClose_other (by simp [called]) _)
  · refine unaffected ?_ (if_neg refused)
    rw [same]
    exact (SameMarket.refl _).samePair

end Steps

/-- Every step of a run protects every pair. -/
def FeedsProtected (past : List PriceTransition) : Prop :=
  ∀ prior taken later, past = prior ++ taken :: later → ∀ pair, Protects prior taken pair

theorem FeedsProtected.concat {past : List PriceTransition} {taken : PriceTransition}
    (protects : FeedsProtected past) (last : ∀ pair, Protects past taken pair) :
    FeedsProtected (past ++ [taken]) := by
  intro prior other later split pair
  rcases List.eq_nil_or_concat later with rfl | ⟨front, final, rfl⟩
  · obtain ⟨rfl, same⟩ := List.append_inj' split rfl
    exact (List.cons.inj same).1 ▸ last pair
  · rw [List.concat_eq_append, ← List.cons_append, ← List.append_assoc] at split
    exact protects prior other front (List.append_inj' split rfl).1 pair

/-- In every run within the guards, a halted pair stays as it is until it is let go, and a
configured feed changes by the hand of those it names while it is enabled. -/
theorem feeds_protected (contract admin : Address) (timestamp sequence : Nat)
    (inputs : List PriceInput)
    (guarded : ∀ taken ∈ trace priceStep (priceStart contract admin timestamp sequence)
      inputs, PriceTransition.WithinGuards taken) :
    FeedsProtected (trace priceStep (priceStart contract admin timestamp sequence) inputs) := by
  have kept := transition_history_invariant priceStep
    (fun past ledger => FeedsProtected past ∧ ∀ pair, HaltKnown past ledger.store pair)
    PriceTransition.WithinGuards
    (fun _ _ _ guard kept => ⟨kept.1.concat fun pair => ((kept.2 pair).step guard).1,
      fun pair => ((kept.2 pair).step guard).2⟩)
    (priceStart contract admin timestamp sequence)
    ⟨fun prior _ _ split => (by cases prior <;> cases split),
      fun _ => ⟨fun halted => (by cases halted), fun halted => (by cases halted)⟩⟩ inputs guarded
  exact kept.1

def haltedRun : List PriceInput :=
  [⟨⟨1, 1, [1]⟩, false, .writesSetting 1 (.updateThreshold usdcPair 500)⟩,
    ⟨⟨1, 1, []⟩, false, .setsPrice usdcPair (amountOf 1000)⟩,
    ⟨⟨1, 1, []⟩, false, .setsPrice usdcPair (amountOf 2000)⟩]

def reportedPrice : PriceInput :=
  ⟨⟨1, 1, []⟩, false, .updatesExternally [⟨usdcPair, 2000, 1000, 1, 77, 7⟩]⟩

/-- An external report overwrites the price of a halted pair. -/
theorem report_passes_breaker :
    ¬ ∀ (contract admin : Address) (timestamp sequence : Nat) (inputs : List PriceInput),
      FeedsProtected
        (trace priceStep (priceStart contract admin timestamp sequence) inputs) := by
  intro every
  have split : trace priceStep (priceStart 99 1 1000 10) (haltedRun ++ [reportedPrice]) =
      trace priceStep (priceStart 99 1 1000 10) haltedRun ++ [_] :=
    transitions_concat priceStep _ haltedRun reportedPrice
  have protects := every 99 1 1000 10 _ _ _ _ split usdcPair
  have halted : (final priceStep (priceStart 99 1 1000 10) haltedRun).store.isTripped
      usdcPair = true := by decide +kernel
  rcases protects.halted halted with ⟨_, kept⟩ | letsGo
  · have feed := kept.feed
    revert feed
    decide +kernel
  · cases letsGo with
    | reset admin called => cases called
    | recovered newPrice called => cases called

/-- A feed of owner 5 with publisher 7, and a price that the publisher signs. -/
def publishedRun : List PriceInput :=
  [⟨⟨1, 1, [1]⟩, false, .configuresFeeds 1 [⟨usdcPair, 5, [7], 100, true⟩]⟩,
    ⟨⟨1, 1, [7]⟩, false, .setsPrice usdcPair (amountOf 1005)⟩]

/-- Three close updates let the halted pair go, and then its feed is configured. -/
theorem close_updates_protect : FeedsProtected (trace priceStep (priceStart 99 1 1000 10)
      (haltedRun ++ [1010, 1020, 1000].map (fun price =>
        ⟨⟨1, 1, []⟩, false, .setsPrice usdcPair (amountOf price)⟩) ++ publishedRun)) :=
  feeds_protected 99 1 1000 10 _ (by decide +kernel)

end StellarSwipe.Oracle
