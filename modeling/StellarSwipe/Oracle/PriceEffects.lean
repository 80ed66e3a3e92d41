import StellarSwipe.Oracle.PriceReads

/-!
# What a call does to prices

The effect of each call on the prices, their history and quotes, the breakers and the recorded
quorums, up to the tables that only count or configure.
-/

namespace StellarSwipe.Oracle

open FixedWidth Program Runs PriceStore

/-- The prices, their history and quotes, the breakers and the recorded quorums are the same. -/
structure SameMarket (pre after : PriceStore) : Prop where
  feeds : after.feeds = pre.feeds
  history : after.history = pre.history
  quotes : after.priceMap = pre.priceMap
  breakers : after.trippedBreakers = pre.trippedBreakers
  streaks : after.recoveryStreaks = pre.recoveryStreaks
  quorums : after.quorumStates = pre.quorumStates

theorem SameMarket.refl (store : PriceStore) : SameMarket store store :=
  ⟨rfl, rfl, rfl, rfl, rfl, rfl⟩

theorem SameMarket.trans {pre middle after : PriceStore} (first : SameMarket pre middle)
    (second : SameMarket middle after) : SameMarket pre after :=
  ⟨second.feeds.trans first.feeds, second.history.trans first.history,
    second.quotes.trans first.quotes, second.breakers.trans first.breakers,
    second.streaks.trans first.streaks, second.quorums.trans first.quorums⟩

/-- What the breaker makes of an update. -/
inductive Judged (pre : PriceStore) (pair : AssetPair) (newPrice : Int) : Bool → PriceStore → Prop
  | halted : pre.isTripped pair = true → pre.previousPrice pair = none →
    Judged pre pair newPrice true pre
  | first : pre.isTripped pair = false → pre.previousPrice pair = none →
    Judged pre pair newPrice false pre
  | restarted {prevPrice deviation} : pre.isTripped pair = true →
    pre.previousPrice pair = some prevPrice →
    updateDeviation newPrice prevPrice = some deviation →
    withinThreshold (pre.thresholdBps pair) deviation = false →
    Judged pre pair newPrice true (pre.setStreak pair 0)
  | counted {prevPrice deviation} : pre.isTripped pair = true →
    pre.previousPrice pair = some prevPrice →
    updateDeviation newPrice prevPrice = some deviation →
    withinThreshold (pre.thresholdBps pair) deviation = true →
    pre.recoveryStreak pair + 1 < recoveryRounds →
    Judged pre pair newPrice true (pre.setStreak pair (pre.recoveryStreak pair + 1))
  | recovered {prevPrice deviation} : pre.isTripped pair = true →
    pre.previousPrice pair = some prevPrice →
    updateDeviation newPrice prevPrice = some deviation →
    withinThreshold (pre.thresholdBps pair) deviation = true →
    recoveryRounds ≤ pre.recoveryStreak pair + 1 →
    Judged pre pair newPrice false (pre.clear pair)
  | accepted {prevPrice deviation} : pre.isTripped pair = false →
    pre.previousPrice pair = some prevPrice →
    updateDeviation newPrice prevPrice = some deviation →
    withinThreshold (pre.thresholdBps pair) deviation = true →
    Judged pre pair newPrice false pre
  | deviated {prevPrice deviation} : pre.isTripped pair = false →
    pre.previousPrice pair = some prevPrice →
    updateDeviation newPrice prevPrice = some deviation →
    withinThreshold (pre.thresholdBps pair) deviation = false →
    Judged pre pair newPrice true (pre.trip pair)

section Parts

variable {store : PriceStore} {pair : AssetPair} {newPrice : Int}

theorem checkAndTrip_spec : wlp (checkAndTrip pair newPrice) (fun rejected after =>
      Judged store pair newPrice rejected after) store := by
  unfold checkAndTrip
  simp only [wp_rules]
  cases previous : store.previousPrice pair with
  | none =>
    simp only [wp_pure]
    cases halted : store.isTripped pair with
    | true => exact .halted halted previous
    | false => exact .first halted previous
  | some prevPrice =>
    simp only [wp_rules, wp_ite, checkedCount_eq_some]
    refine ⟨fun deviation computed => ⟨fun halted => ⟨fun within => ⟨?_, fun _ => trivial⟩,
      fun beyond => ?_⟩, fun free => ⟨fun within => ?_, fun beyond => ?_⟩⟩, fun _ => trivial⟩
    · rintro streak ⟨_, rfl⟩
      exact ⟨fun early => .counted halted previous computed within early,
        fun late => .recovered halted previous computed within (not_lt.mp late)⟩
    · exact .restarted halted previous computed (Bool.not_eq_true _ ▸ beyond)
    · exact .accepted (Bool.not_eq_true _ ▸ free) previous computed within
    · exact .deviated (Bool.not_eq_true _ ▸ free) previous computed (Bool.not_eq_true _ ▸ beyond)

theorem recordRound_spec :
    wlp (recordRound pair) (fun _ after => SameMarket store after) store := by
  unfold recordRound
  simp only [wp_rules]
  exact ⟨fun _ _ => ⟨rfl, rfl, rfl, rfl, rfl, rfl⟩, fun _ => trivial⟩

theorem onPriceUpdate_spec :
    wlp (onPriceUpdate pair) (fun _ after => SameMarket store after) store := by
  unfold onPriceUpdate
  simp only [wp_rules]
  exact ⟨fun _ _ => ⟨rfl, rfl, rfl, rfl, rfl, rfl⟩, fun _ => trivial⟩

theorem addAvailablePair_same : SameMarket store (store.addAvailablePair pair) := by
  unfold addAvailablePair
  split
  next => exact .refl _
  next => exact ⟨rfl, rfl, rfl, rfl, rfl, rfl⟩

theorem storePrice_same {now : Nat} {pre after : PriceStore} (same : SameMarket pre after)
    (pruned : after.pruned = pre.pruned) :
    SameMarket (pre.storePrice now pair newPrice) (after.storePrice now pair newPrice) := by
  unfold storePrice pruneOldData
  split
  next =>
    exact ⟨same.feeds, by rw [same.history], same.quotes, same.breakers, same.streaks, same.quorums⟩
  next =>
    exact ⟨same.feeds, by simp only [same.history, pruned], same.quotes, same.breakers,
      same.streaks, same.quorums⟩

theorem addAvailablePair_pruned : (store.addAvailablePair pair).pruned = store.pruned := by
  unfold addAvailablePair
  split <;> rfl

theorem checkDeviation_spec {prices : List Int} :
    wlp (checkDeviation pair prices) (fun _ after => after = store) store := by
  unfold checkDeviation
  simp only [wp_rules, wp_ite]
  exact ⟨fun _ => trivial, fun _ => ⟨fun _ => trivial, fun _ => ⟨fun _ _ =>
    ⟨fun _ _ => ⟨fun _ => trivial, fun _ => trivial⟩, fun _ => trivial⟩, fun _ => trivial⟩⟩⟩

theorem requireAdmin_spec {env : Env} {caller : Address} :
    wlp (requireAdmin env caller) (fun _ after => after = store ∧ caller ∈ env.auths ∧
      store.admin = some caller) store := by
  unfold requireAdmin
  simp only [wp_rules]
  refine ⟨fun signed => ⟨fun admin known => ⟨fun same => ?_, fun _ => trivial⟩, fun _ => trivial⟩,
    fun _ => trivial⟩
  exact ⟨trivial, signed, same ▸ known⟩

end Parts

/-- The state that the pair's quorum evaluates to in a read, when the read gets that far. -/
def PriceStore.evaluated (store : PriceStore) (env : Env) (pair : AssetPair) : Option QuorumState :=
  match store.freshQuotes env pair with
  | .error _ => none
  | .ok fresh =>
    if (store.fallbackOf pair).members = [] then none
    else
      match store.evaluateQuorum env.timestamp pair fresh with
      | .ok outcome => some outcome.state
      | .error (.error reason) => some (failedState reason)
      | .error .trap => none

def QuorumState.Supplies (state : QuorumState) : Prop := state = .primary ∨ state = .degraded
deriving Decidable

section Reads

variable {store : PriceStore} {env : Env} {pair : AssetPair}

theorem failedState_fails (reason : PriceError) : ¬ (failedState reason).Supplies := by
  cases reason <;> decide

theorem validateQuorum_supplies {now : Nat} {quotes : List PriceData} {authorized : List Address}
    {config : QuorumConfig} {fallback : QuorumFallback} {outcome : QuorumOutcome}
    (evaluated : validateQuorumWithFallback now quotes authorized config fallback = .ok outcome) :
    outcome.state.Supplies := by
  unfold validateQuorumWithFallback at evaluated
  split at evaluated
  next => cases evaluated
  split at evaluated
  next => cases evaluated
  obtain ⟨primary, _, evaluated⟩ := bind_ok evaluated
  cases primary with
  | some median =>
    cases evaluated
    exact .inl rfl
  | none =>
    obtain ⟨degraded, _, evaluated⟩ := bind_ok evaluated
    cases degraded with
    | some median =>
      cases evaluated
      exact .inr rfl
    | none => cases evaluated

theorem readMedian_spec {fresh : List PriceData} :
    wlp (readMedian fresh) (fun _ after => after = store) store := by
  unfold readMedian
  simp only [wp_rules]
  refine ⟨fun _ => ⟨fun _ _ => ⟨fun _ _ => ⟨fun _ _ => ⟨fun _ _ => ⟨fun _ _ => ⟨fun _ _ =>
    ⟨fun _ => trivial, fun _ => trivial⟩, ?_⟩, ?_⟩, ?_⟩, ?_⟩, ?_⟩, ?_⟩, ?_⟩ <;> exact fun _ => trivial

/-- A read that returns evaluated no quorum, or one that supplies the price and is recorded. A
read that is refused records nothing, whatever it evaluated. -/
theorem getPriceWithConfidence_spec : wp (getPriceWithConfidence env pair)
      (fun _ after => store.evaluated env pair = none ∧ after = store ∨
        ∃ state, store.evaluated env pair = some state ∧ state.Supplies ∧
          after = store.cacheQuorumState pair state)
      (fun _ _ => ∀ state, store.evaluated env pair = some state → ¬ state.Supplies) store := by
  unfold getPriceWithConfidence evaluated
  simp only [wp_rules]
  cases store.freshQuotes env pair with
  | error reason =>
    exact ⟨fun _ impossible => (by cases impossible), fun _ _ _ nothing => (by cases nothing)⟩
  | ok fresh =>
    refine ⟨fun quotes same => ?_, fun _ impossible => (by cases impossible)⟩
    obtain rfl := Except.ok.inj same
    simp only [wp_ite]
    refine ⟨fun primaryOnly => ?_, fun configured => ?_⟩
    · simp only [if_pos primaryOnly]
      exact wp_mono readMedian_spec (fun _ _ same => .inl ⟨trivial, same⟩)
        fun _ _ _ _ impossible => (by cases impossible)
    · simp only [if_neg configured]
      unfold readQuorum
      simp only [wp_rules]
      cases evaluated : store.evaluateQuorum env.timestamp pair fresh with
      | ok outcome =>
        simp only [wp_rules]
        exact .inr ⟨_, rfl, validateQuorum_supplies evaluated, rfl⟩
      | error fault =>
        cases fault with
        | trap =>
          simp only [wp_trap]
          exact fun _ impossible => (by cases impossible)
        | error reason =>
          simp only [wp_rules]
          exact fun _ same => Option.some.inj same ▸ failedState_fails reason

theorem getPrice_spec : wp (getPrice env pair)
      (fun _ after => store.evaluated env pair = none ∧ after = store ∨
        ∃ state, store.evaluated env pair = some state ∧ state.Supplies ∧
          after = store.cacheQuorumState pair state)
      (fun _ _ => ∀ state, store.evaluated env pair = some state → ¬ state.Supplies) store := by
  unfold getPrice
  simp only [wp_rules]
  exact getPriceWithConfidence_spec

end Reads

/-- What a call that returns does to the market. -/
inductive PriceEffect (env : Env) (pre : PriceStore) : PriceCall → PriceStore → Prop
  | rejected {pair after} {price : Amount} : Judged pre pair price true after →
    PriceEffect env pre (.setsPrice pair price) after
  | has {pair middle after} {price : Amount} : Judged pre pair price false middle →
    SameMarket ((middle.putPrice env.timestamp pair price).storePrice env.timestamp pair price)
      after →
    PriceEffect env pre (.setsPrice pair price) after
  | submitted {source pair price confidence quotes after} : source ∈ env.auths →
    pre.publishes pair source = true → pre.enabled pair = true →
    pre.isTripped pair = false → SameMarket (pre.putQuotes pair quotes) after →
    PriceEffect env pre (.submits source pair price confidence) after
  | averaged {report rest price after} :
    SameMarket (pre.putPrice env.timestamp report.assetPair price) after →
    PriceEffect env pre (.updatesExternally (report :: rest)) after
  | reset {admin pair} : admin ∈ env.auths → pre.admin = some admin →
    PriceEffect env pre (.resetsBreaker admin pair) (pre.clear pair)
  | configured {admin entries after} : SameMarket pre after →
    PriceEffect env pre (.configuresFeeds admin entries) after
  | published {owner pair publisher after} : SameMarket pre after →
    PriceEffect env pre (.addsPublisher owner pair publisher) after
  | revoked {owner pair publisher after} : SameMarket pre after →
    PriceEffect env pre (.revokesPublisher owner pair publisher) after
  | written {admin setting after} : SameMarket pre after →
    PriceEffect env pre (.writesSetting admin setting) after
  | read {pair after} :
    (pre.evaluated env pair = none ∧ after = pre ∨
      ∃ state, pre.evaluated env pair = some state ∧ state.Supplies ∧
        after = pre.cacheQuorumState pair state) →
    PriceEffect env pre (.reads pair) after
  | readPrice {pair after} :
    (pre.evaluated env pair = none ∧ after = pre ∨
      ∃ state, pre.evaluated env pair = some state ∧ state.Supplies ∧
        after = pre.cacheQuorumState pair state) →
    PriceEffect env pre (.readsPrice pair) after

section Specs

variable {store : PriceStore} {env : Env} {paused : Bool} {pair : AssetPair}

theorem setPrice_spec {price : Amount} : wlp (setPrice env paused pair price)
      (fun _ after => PriceEffect env store (.setsPrice pair price) after) store := by
  unfold setPrice
  simp only [wp_rules, wp_ite]
  refine ⟨fun _ => ⟨fun _ => ?_, fun _ => trivial⟩, fun _ => trivial⟩
  refine wp_then checkAndTrip_spec (fun rejected middle judged => ?_)
  refine ⟨fun stopped => ?_, fun passed => ?_⟩
  · subst stopped
    exact .rejected judged
  · rw [Bool.not_eq_true] at passed
    subst passed
    refine wp_then recordRound_spec (fun _ counted same => ?_)
    refine wp_then onPriceUpdate_spec (fun _ after last => ?_)
    exact .has judged ((storePrice_same addAvailablePair_same addAvailablePair_pruned).trans
      (same.trans last))

theorem submitPairPrice_spec {source : Address} {price : Amount} {confidence : Nat} :
    wlp (submitPairPrice env paused source pair price confidence)
      (fun _ after => PriceEffect env store (.submits source pair price confidence) after)
      store := by
  unfold submitPairPrice authorizePublisher guardTripped
  simp only [wp_rules]
  refine ⟨fun _ => ⟨fun signed => ⟨fun _ => ⟨fun publishes => ⟨fun enabled => ⟨fun free =>
    ⟨fun _ => ⟨fun _ => ?_, fun _ => trivial⟩, fun _ => trivial⟩, fun _ => trivial⟩,
    fun _ => trivial⟩, fun _ => trivial⟩, fun _ => trivial⟩, fun _ => trivial⟩, fun _ => trivial⟩
  rw [Bool.not_eq_true] at free
  split
  next => exact trivial
  next =>
    simp only [wp_rules]
    refine wp_then checkDeviation_spec (fun _ middle same => ?_)
    subst same
    exact wp_then recordRound_spec
      (fun _ _ same => .submitted signed publishes enabled free same)
  next =>
    simp only [wp_rules]
    refine wp_then checkDeviation_spec (fun _ middle same => ?_)
    subst same
    exact wp_then recordRound_spec
      (fun _ _ same => .submitted signed publishes enabled free same)

theorem updateWithExternalData_spec {prices : List ExternalPrice} :
    wlp (updateWithExternalData env prices)
      (fun _ after => PriceEffect env store (.updatesExternally prices) after) store := by
  unfold updateWithExternalData
  simp only [wp_rules]
  refine ⟨fun price averaged => ?_, fun _ _ => trivial⟩
  cases prices with
  | nil => simp [processExternalPrices] at averaged
  | cons report rest =>
    simp only [List.head?_cons, wp_rules]
    exact wp_then onPriceUpdate_spec (fun _ _ same => .averaged same)

theorem configureFeed_spec {entry : FeedConfigInput} :
    wlp (configureFeed entry) (fun _ after => SameMarket store after) store := by
  unfold configureFeed putConfig
  simp only [wp_rules]
  exact ⟨fun _ _ => ⟨rfl, rfl, rfl, rfl, rfl, rfl⟩, fun _ => trivial⟩

variable {entries : List FeedConfigInput}

theorem validatePublishers_spec :
    wlp (each (fun entry => validatePublishers entry.publishers) entries)
      (fun _ after => after = store) store := by
  refine each_rule (fun _ after => after = store) entries [] ?_ store rfl
  intro _ entry state _ same
  rw [same]
  unfold validatePublishers
  simp only [wp_ensure]
  exact ⟨fun _ => trivial, fun _ => trivial⟩

variable {admin : Address}

theorem configureFeeds_spec :
    wlp (configureFeeds env admin entries) (fun _ after => SameMarket store after) store := by
  unfold configureFeeds
  simp only [wp_rules]
  refine wp_then requireAdmin_spec ?_
  rintro _ middle ⟨same, _⟩
  rw [same]
  refine ⟨fun _ => ⟨fun _ => ?_, fun _ => trivial⟩, fun _ => trivial⟩
  refine wp_then validatePublishers_spec ?_
  rintro _ state unchanged
  rw [unchanged]
  refine ⟨fun _ => ?_, fun _ => trivial⟩
  refine each_rule (fun _ after => SameMarket store after) entries [] ?_ store (.refl _)
  exact fun _ _ _ _ same => wp_then configureFeed_spec (fun _ _ onward => same.trans onward)

theorem changePublishers_spec {config : FeedConfig} {publishers : List Address} :
    wlp (changePublishers config pair publishers) (fun _ after => SameMarket store after)
      store := by
  unfold changePublishers putConfig
  simp only [wp_rules]
  exact ⟨fun _ _ => ⟨rfl, rfl, rfl, rfl, rfl, rfl⟩, fun _ => trivial⟩

variable {owner publisher : Address}

theorem addFeedPublisher_spec :
    wlp (addFeedPublisher env owner pair publisher) (fun _ after => SameMarket store after)
      store := by
  unfold addFeedPublisher ownerConfig validatePublishers
  simp only [wp_rules]
  exact ⟨fun _ => ⟨fun _ _ => ⟨fun _ => ⟨fun _ => ⟨fun _ => changePublishers_spec,
    fun _ => trivial⟩, fun _ => trivial⟩, fun _ => trivial⟩, fun _ => trivial⟩, fun _ => trivial⟩

theorem revokeFeedPublisher_spec :
    wlp (revokeFeedPublisher env owner pair publisher) (fun _ after => SameMarket store after)
      store := by
  unfold revokeFeedPublisher ownerConfig
  simp only [wp_rules]
  exact ⟨fun _ => ⟨fun _ _ => ⟨fun _ => ⟨fun _ => changePublishers_spec, fun _ => trivial⟩,
    fun _ => trivial⟩, fun _ => trivial⟩, fun _ => trivial⟩

theorem writeSetting_spec {write : PriceStore → PriceStore} :
    wlp (writeSetting env admin write) (fun _ after => after = write store ∧
      admin ∈ env.auths ∧ store.admin = some admin) store := by
  unfold writeSetting
  simp only [wp_rules]
  refine wp_then requireAdmin_spec ?_
  rintro _ _ ⟨rfl, signed, known⟩
  exact ⟨rfl, signed, known⟩

theorem setting_spec {setting : SettingCall} :
    wlp (setting.run env admin) (fun _ after => SameMarket store after) store := by
  have plain (write : PriceStore → PriceStore) (same : SameMarket store (write store)) :
      wlp (writeSetting env admin write) (fun _ after => SameMarket store after) store :=
    wp_then writeSetting_spec (fun _ _ written => written.1 ▸ same)
  cases setting with
  | quorumFallback pair members minSources =>
    unfold SettingCall.run setQuorumFallback
    simp only [wp_rules]
    refine wp_then requireAdmin_spec ?_
    rintro _ _ ⟨rfl, _⟩
    exact ⟨fun _ => ⟨rfl, rfl, rfl, rfl, rfl, rfl⟩, fun _ => trivial⟩
  | _ => exact plain _ ⟨rfl, rfl, rfl, rfl, rfl, rfl⟩

theorem run_spec (call : PriceCall) :
    wlp (call.run env paused) (fun _ after => PriceEffect env store call after) store := by
  cases call with
  | setsPrice pair price => exact setPrice_spec
  | submits source pair price confidence => exact submitPairPrice_spec
  | updatesExternally prices =>
    simp only [PriceCall.run, wp_discard]
    exact updateWithExternalData_spec
  | configuresFeeds admin entries =>
    exact wp_then configureFeeds_spec (fun _ _ same => .configured same)
  | addsPublisher owner pair publisher =>
    exact wp_then addFeedPublisher_spec (fun _ _ same => .published same)
  | revokesPublisher owner pair publisher =>
    exact wp_then revokeFeedPublisher_spec (fun _ _ same => .revoked same)
  | writesSetting admin setting =>
    exact wp_then setting_spec (fun _ _ same => .written same)
  | resetsBreaker admin pair =>
    refine wp_then writeSetting_spec ?_
    rintro _ _ ⟨rfl, signed, known⟩
    exact .reset signed known
  | reads pair =>
    simp only [PriceCall.run, wp_discard]
    exact wp_then getPriceWithConfidence_spec (fun _ _ read => .read read)
  | readsPrice pair =>
    simp only [PriceCall.run, wp_discard]
    exact wp_then getPrice_spec (fun _ _ read => .readPrice read)

end Specs

theorem priceStep_effect (input : PriceInput) (ledger : Ledger PriceStore) :
    (PriceTransition.Returned ⟨ledger, input, priceStep input ledger⟩ ∧
      PriceEffect (ledger.env input.arrival) ledger.store input.call
        (priceStep input ledger).store) ∨
    (¬ PriceTransition.Returned ⟨ledger, input, priceStep input ledger⟩ ∧
      (priceStep input ledger).store = ledger.store) := by
  by_cases gave : PriceTransition.Returned ⟨ledger, input, priceStep input ledger⟩
  · obtain ⟨value, after, ran⟩ := gave
    refine .inl ⟨⟨value, after, ran⟩, ?_⟩
    have lands : (priceStep input ledger).store = after := invoke_of_ok ran
    rw [lands]
    exact wp_ok (run_spec input.call) ran
  · exact .inr ⟨gave, invoke_of_rejected gave⟩

end StellarSwipe.Oracle
