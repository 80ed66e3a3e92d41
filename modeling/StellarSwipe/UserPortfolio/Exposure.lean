import StellarSwipe.UserPortfolio.Records

/-!
# Tracked exposure

A position that is opened under a cap is recorded for its asset and its amount added to the
tracked exposure.
-/

namespace StellarSwipe.UserPortfolio

open FixedWidth Program Runs ListedSums Table Position PortfolioStore Range Option

def Position.openAmount (position : Position) : Int :=
  if position.status = .open then position.amount else 0

namespace PortfolioStore

variable (store : PortfolioStore) (user : Address) (assetId : Nat)

def liveAt (positionId : Nat) : Int :=
  if store.positionAsset.lookup positionId = some assetId then
    ((store.positions.lookup positionId).map openAmount).getD 0
  else 0

/-- The amounts of the user's open positions that are recorded for an asset. -/
def liveExposure : Int := total (store.liveAt assetId) (store.positionsOf user)

end PortfolioStore

/-- A step that keeps the tracked exposure live: what it closes or reduces is recorded for no
asset, and what it opens under a cap does not saturate the exposure. -/
def PortfolioTransition.Tracked (taken : PortfolioTransition) : Prop :=
  match taken.input.call with
  | .closes _ positionId _ _ _ =>
    taken.Returned → taken.pre.store.positionAsset.lookup positionId = none
  | .keeperCloses _ _ positionId _ =>
    taken.Returned → taken.pre.store.positionAsset.lookup positionId = none
  | .closesPartly _ positionId _ _ =>
    taken.Returned → taken.pre.store.positionAsset.lookup positionId = none
  | .opensCapped user assetId _ amount =>
    taken.Returned → i128.Holds (taken.pre.store.getExposure user assetId + amount)
  | _ => True

instance (taken : PortfolioTransition) : Decidable taken.Tracked := by
  unfold PortfolioTransition.Tracked
  refine taken.input.call.casesOn ?_ ?_ ?_ ?_ ?_ ?_ ?_ ?_ ?_ ?_ ?_ ?_ ?_ <;> intros <;>
    infer_instance

/-- The tracked exposure is the live one, and only issued numbers are recorded for assets. -/
structure ExposureLive (store : PortfolioStore) : Prop where
  enrolled : Enrolled store
  issued : ∀ positionId assetId, store.positionAsset.lookup positionId = some assetId →
    ∃ next ∈ store.nextPositionId, positionId < next
  live : ∀ user assetId, store.getExposure user assetId = store.liveExposure user assetId

section Steps

variable {pre after : PortfolioStore} {user owner : Address} {positionId assetId : Nat}

/-- A number that was not issued yet is recorded for no asset. -/
theorem ExposureLive.unrecorded (live : ExposureLive pre)
    (next : pre.nextPositionId = some positionId) : pre.positionAsset.lookup positionId = none := by
  cases recorded : pre.positionAsset.lookup positionId with
  | none => rfl
  | some assetId =>
    obtain ⟨bound, issuing, below⟩ := live.issued positionId assetId recorded
    cases mem_unique next issuing
    exact absurd below (lt_irrefl _)

theorem liveExposure_congr (listed : after.userPositions = pre.userPositions)
    (alike : ∀ positionId ∈ pre.positionsOf user,
      after.liveAt assetId positionId = pre.liveAt assetId positionId) :
    after.liveExposure user assetId = pre.liveExposure user assetId := by
  rw [liveExposure, positionsOf_same listed]
  exact total_congr alike

theorem getExposure_same (same : after.userAssetExposure = pre.userAssetExposure) :
    after.getExposure user assetId = pre.getExposure user assetId := by
  rw [getExposure, same, getExposure]

theorem liveAt_replaced {changed : Position}
    (positions : after.positions = pre.positions.insert positionId changed)
    (assets : after.positionAsset = pre.positionAsset)
    (untracked : pre.positionAsset.lookup positionId = none) (tested : Nat) :
    after.liveAt assetId tested = pre.liveAt assetId tested := by
  rw [liveAt, positions, assets, liveAt]
  by_cases own : tested = positionId
  · rw [own, untracked, if_neg (some_ne_none _).symm, if_neg (some_ne_none _).symm]
  · rw [lookup_insert, if_neg own]

theorem ExposureLive.enlisted (live : ExposureLive pre) {position : Position}
    (next : pre.nextPositionId = some positionId)
    (onward : after.nextPositionId = some (positionId + 1))
    (positions : after.positions = pre.positions.insert positionId position)
    (listed : after.userPositions =
      pre.userPositions.insert owner (pre.positionsOf owner ++ [positionId]))
    (assets : after.positionAsset = pre.positionAsset)
    (exposure : after.userAssetExposure = pre.userAssetExposure)
    (enrolled : Enrolled after) : ExposureLive after := by
  have alike (assetId tested : Nat) :
      after.liveAt assetId tested =
        if tested = positionId then 0 else pre.liveAt assetId tested := by
    rw [liveAt, positions, assets]
    by_cases own : tested = positionId
    · rw [if_pos own, own, live.unrecorded next, if_neg (some_ne_none _).symm]
    · rw [if_neg own, lookup_insert, if_neg own]
      rfl
  refine ⟨enrolled, fun tested assetId recorded => ⟨_, onward, ?_⟩, fun user assetId => ?_⟩
  · rw [assets] at recorded
    obtain ⟨bound, issuing, below⟩ := live.issued tested assetId recorded
    cases mem_unique next issuing
    exact below.trans (Nat.lt_succ_self _)
  · have prior : total (after.liveAt assetId) (pre.positionsOf user) =
        pre.liveExposure user assetId := by
      refine total_congr fun tested mem => ?_
      rw [alike, if_neg]
      rintro rfl
      exact live.enrolled.fresh next user mem
    rw [getExposure_same exposure, live.live, PortfolioStore.liveExposure.eq_def after,
      positionsOf_enlisted listed]
    split
    next own =>
      subst own
      rw [total_concat, prior, alike, if_pos rfl, Int.add_zero]
    next => exact prior.symm

theorem ExposureLive.enlistedCapped (live : ExposureLive pre) {entryPrice amount : Int}
    (next : pre.nextPositionId = some positionId)
    (held : i128.Holds (pre.getExposure owner assetId + amount))
    (enrolled : Enrolled { pre.enlist owner positionId entryPrice amount with
      positionAsset := pre.positionAsset.insert positionId assetId
      userAssetExposure := pre.userAssetExposure.insert (owner, assetId)
        (i128.saturatingAdd (pre.getExposure owner assetId) amount) }) :
    ExposureLive { pre.enlist owner positionId entryPrice amount with
      positionAsset := pre.positionAsset.insert positionId assetId
      userAssetExposure := pre.userAssetExposure.insert (owner, assetId)
        (i128.saturatingAdd (pre.getExposure owner assetId) amount) } := by
  refine ⟨enrolled, fun tested other recorded => ⟨_, rfl, ?_⟩, fun user other => ?_⟩
  · rw [lookup_insert] at recorded
    split at recorded
    next own => exact own ▸ Nat.lt_succ_self _
    next =>
      obtain ⟨bound, issuing, below⟩ := live.issued tested other recorded
      cases mem_unique next issuing
      exact below.trans (Nat.lt_succ_self _)
  · generalize moved : ({ pre.enlist owner positionId entryPrice amount with
      positionAsset := pre.positionAsset.insert positionId assetId
      userAssetExposure := pre.userAssetExposure.insert (owner, assetId)
        (i128.saturatingAdd (pre.getExposure owner assetId) amount) } : PortfolioStore) = after
    have alike (tested : Nat) : after.liveAt other tested =
        if tested = positionId then (if assetId = other then amount else 0)
        else pre.liveAt other tested := by
      subst moved
      rw [liveAt, enlist]
      simp only [lookup_insert]
      by_cases own : tested = positionId
      · simp only [own, if_true, Option.some.injEq, map_some, getD_some,
          openAmount]
      · simp only [own, if_false]
        rfl
    have prior (someone : Address) : total (after.liveAt other) (pre.positionsOf someone) =
        pre.liveExposure someone other := by
      refine total_congr fun tested mem => ?_
      rw [alike, if_neg]
      rintro rfl
      exact live.enrolled.fresh next someone mem
    have joined : after.userPositions =
        pre.userPositions.insert owner (pre.positionsOf owner ++ [positionId]) := by
      rw [← moved]
      rfl
    have exposure : after.getExposure user other =
        if (user, other) = (owner, assetId) then pre.getExposure owner assetId + amount
        else pre.getExposure user other := by
      rw [← moved, getExposure, lookup_insert]
      split
      next => rw [getD_some, saturatingAdd, clamp_of_holds _ held]
      next => rfl
    rw [exposure, PortfolioStore.liveExposure.eq_def after, positionsOf_enlisted joined]
    by_cases own : user = owner
    · subst own
      rw [if_pos rfl, total_concat, prior, alike, if_pos rfl]
      by_cases asset : other = assetId
      · subst asset
        rw [if_pos rfl, if_pos rfl, live.live]
      · rw [if_neg fun same => asset (Prod.mk.inj same).2, if_neg fun same => asset same.symm,
          Int.add_zero, live.live]
    · rw [if_neg own, if_neg fun same => own (Prod.mk.inj same).1, prior, live.live]

theorem ExposureLive.replaced (live : ExposureLive pre) {changed : Position}
    (onward : after.nextPositionId = pre.nextPositionId)
    (positions : after.positions = pre.positions.insert positionId changed)
    (listed : after.userPositions = pre.userPositions)
    (assets : after.positionAsset = pre.positionAsset)
    (exposure : after.userAssetExposure = pre.userAssetExposure)
    (untracked : pre.positionAsset.lookup positionId = none) (enrolled : Enrolled after) :
    ExposureLive after := by
  refine ⟨enrolled, ?_, fun user assetId => ?_⟩
  · rw [onward, assets]
    exact live.issued
  · rw [getExposure_same exposure, live.live]
    exact (liveExposure_congr listed fun tested _ =>
      liveAt_replaced positions assets untracked tested).symm

theorem ExposureLive.kept (live : ExposureLive pre)
    (onward : after.nextPositionId = pre.nextPositionId)
    (positions : after.positions = pre.positions) (listed : after.userPositions = pre.userPositions)
    (assets : after.positionAsset = pre.positionAsset)
    (exposure : after.userAssetExposure = pre.userAssetExposure) (enrolled : Enrolled after) :
    ExposureLive after := by
  refine ⟨enrolled, ?_, fun user assetId => ?_⟩
  · rw [onward, assets]
    exact live.issued
  · rw [getExposure_same exposure, live.live]
    refine (liveExposure_congr listed fun tested _ => ?_).symm
    rw [liveAt, positions, assets, liveAt]

end Steps

theorem ExposureLive.blank : ExposureLive .blank :=
  ⟨.blank, fun _ _ recorded => (by cases recorded), fun _ _ => rfl⟩

theorem ExposureLive.step {ledger : Ledger PortfolioStore} {input : PortfolioInput}
    (live : ExposureLive ledger.store)
    (tracked : PortfolioTransition.Tracked ⟨ledger, input, portfolioStep input ledger⟩) :
    ExposureLive (portfolioStep input ledger).store := by
  have enrolled := live.enrolled.move (portfolioStep_move input ledger)
  rcases portfolioStep_effect input ledger with ⟨gave, effect⟩ | ⟨_, same⟩
  · obtain ⟨arrival, call⟩ := input
    dsimp only at effect
    generalize (portfolioStep ⟨arrival, call⟩ ledger).store = after at effect enrolled
    cases effect with
    | configured => exact live.kept rfl rfl rfl rfl rfl enrolled
    | opened _ _ next => exact live.enlisted next rfl rfl rfl rfl rfl enrolled
    | openedCapped _ _ next => exact live.enlistedCapped next (tracked gave) enrolled
    | closed _ settles =>
      obtain ⟨_, _, _, rfl⟩ := settles
      exact live.replaced rfl rfl rfl rfl rfl (tracked gave) enrolled
    | keeperClosed _ settles =>
      obtain ⟨_, _, _, rfl⟩ := settles
      exact live.replaced rfl rfl rfl rfl rfl (tracked gave) enrolled
    | reduced => exact live.replaced rfl rfl rfl rfl rfl (tracked gave) enrolled
    | drained _ _ _ settles =>
      obtain ⟨_, _, _, rfl⟩ := settles
      exact live.replaced rfl rfl rfl rfl rfl (tracked gave) enrolled
    | capSet => exact live.kept rfl rfl rfl rfl rfl enrolled
    | capRemoved => exact live.kept rfl rfl rfl rfl rfl enrolled
    | lotAdded => exact live.kept rfl rfl rfl rfl rfl enrolled
    | lotsConsumed => exact live.kept rfl rfl rfl rfl rfl enrolled
    | read reindexes =>
      obtain ⟨⟨_, _, _, _, rfl⟩, _⟩ := reindexes
      exact live.kept rfl rfl rfl rfl rfl enrolled
    | registered => exact live.kept rfl rfl rfl rfl rfl enrolled
    | migrated reindexes =>
      obtain ⟨⟨_, _, _, _, rfl⟩, _⟩ := reindexes
      exact live.kept rfl rfl rfl rfl rfl enrolled
  · rw [same]
    exact live

/-- A call to open a position passes the gates before the cap. -/
def PortfolioStore.AdmitsOpening (store : PortfolioStore) (env : Env) (user : Address)
    (entryPrice amount : Int) : Prop :=
  user ∈ env.auths ∧ (0 < entryPrice ∧ 0 < amount) ∧
    (store.config.kycRequiredMode = true → store.config.isKycVerified user = true) ∧
    store.config.isRestricted user = false
deriving Decidable

/-- A call that passes the gates is rejected by the cap exactly when it is not within it. -/
theorem capped_opening_rejected {store : PortfolioStore} {env : Env} {user : Address}
    {assetId : Nat} {entryPrice amount : Int}
    (admits : store.AdmitsOpening env user entryPrice amount) :
    openPositionWithCapCheck env user assetId entryPrice amount store =
      .error (.error .exposureCapExceeded) store ↔ ¬ store.WithinCap user assetId amount := by
  obtain ⟨authorized, sized, verified, unrestricted⟩ := admits
  have spec : wp (openPositionWithCapCheck env user assetId entryPrice amount)
      (fun _ _ => store.WithinCap user assetId amount)
      (fun reason after => after = store ∧
        (reason = .error .exposureCapExceeded ↔ ¬ store.WithinCap user assetId amount))
      store := by
    simp only [openPositionWithCapCheck, requireOpening, checkCap, nextPosition, wp_rules,
      authorized, sized, unrestricted]
    by_cases within : store.WithinCap user assetId amount
    · simp [within]
    · simpa [within] using verified
  constructor
  · intro rejected
    exact (wp_error spec rejected).2.mp rfl
  · intro beyond
    cases ran : openPositionWithCapCheck env user assetId entryPrice amount store with
    | ok value after => exact absurd (wp_ok spec ran) beyond
    | error reason after =>
      obtain ⟨rfl, exceeded⟩ := wp_error spec ran
      rw [exceeded.mpr beyond]

theorem withinCap_iff {store : PortfolioStore} {user : Address} {assetId : Nat} {amount : Int}
    (held : i128.Holds (store.getExposure user assetId + amount)) :
    ¬ store.WithinCap user assetId amount ↔ ∃ cap ∈ store.getCap user assetId,
      cap < store.getExposure user assetId + amount := by
  simp only [PortfolioStore.WithinCap, saturatingAdd, clamp_of_holds _ held]
  push Not
  rfl

/-- In every run that closes or reduces no position that is recorded for an asset and saturates
no exposure, the tracked exposure is the live one, and the cap rejects exactly what exceeds it. -/
theorem exposure_live (timestamp sequence : Nat) (inputs : List PortfolioInput)
    (tracked : ∀ taken ∈ trace portfolioStep (portfolioStart timestamp sequence) inputs,
      PortfolioTransition.Tracked taken) (user : Address) (assetId : Nat) :
    let store := (final portfolioStep (portfolioStart timestamp sequence) inputs).store
    store.getExposure user assetId = store.liveExposure user assetId ∧
    ∀ env entryPrice amount, store.AdmitsOpening env user entryPrice amount →
      i128.Holds (store.liveExposure user assetId + amount) →
      (openPositionWithCapCheck env user assetId entryPrice amount store =
          .error (.error .exposureCapExceeded) store ↔
        ∃ cap ∈ store.getCap user assetId, cap < store.liveExposure user assetId + amount) := by
  have live := transition_history_invariant portfolioStep
    (fun _ ledger => ExposureLive ledger.store) PortfolioTransition.Tracked
    (fun _ _ _ tracked live => live.step tracked) (portfolioStart timestamp sequence)
    ExposureLive.blank inputs tracked
  have same := live.live user assetId
  refine ⟨same, fun env entryPrice amount admits held => ?_⟩
  rw [← same] at held ⊢
  exact (capped_opening_rejected admits).trans (withinCap_iff held)

/-- User 1 caps asset 3 at 1500, opens 1000 of it, and makes another call. -/
def cappedRun (call : PortfolioCall) : List PortfolioInput :=
  [⟨⟨1, 1, [1]⟩, .setsCap 1 3 1500⟩, ⟨⟨1, 1, [1]⟩, .opensCapped 1 3 100 1000⟩, ⟨⟨1, 1, [1]⟩, call⟩]

/-- A close leaves the tracked exposure as it was. -/
theorem closed_exposure_stays :
    ¬ ∀ (timestamp sequence : Nat) (inputs : List PortfolioInput) (user : Address) (assetId : Nat),
      let store := (final portfolioStep (portfolioStart timestamp sequence) inputs).store
      store.getExposure user assetId = store.liveExposure user assetId := by
  intro every
  have equal := every 0 0 (cappedRun (.closes 1 1 0 100 0)) 1 3
  have kept : (final portfolioStep (portfolioStart 0 0)
    (cappedRun (.closes 1 1 0 100 0))).store.getExposure 1 3 = 1000 := by decide
  have nothing : (final portfolioStep (portfolioStart 0 0)
    (cappedRun (.closes 1 1 0 100 0))).store.liveExposure 1 3 = 0 := by decide
  dsimp only at equal
  rw [kept, nothing] at equal
  cases equal

/-- A second position beyond the cap is rejected, whatever is opened without one. -/
theorem capped_run_rejects :
    let store := (final portfolioStep (portfolioStart 0 0)
      (cappedRun (.opens 1 100 7000))).store
    store.getExposure 1 3 = store.liveExposure 1 3 ∧
    openPositionWithCapCheck (.at 5 5 [1]) 1 3 100 600 store =
      .error (.error .exposureCapExceeded) store := by
  have live := exposure_live 0 0 (cappedRun (.opens 1 100 7000)) (by decide) 1 3
  exact ⟨live.1, (live.2 (.at 5 5 [1]) 100 600 (by decide) (by decide)).mpr
    ⟨1500, by decide, by decide⟩⟩

end StellarSwipe.UserPortfolio
