import StellarSwipe.Bridge.Quorum
import StellarSwipe.Bridge.Volume

/-!
# Limits on volume

The window of a route starts again at any registration after its end, and what was registered just
before is forgotten.
-/

namespace StellarSwipe.Bridge

open FixedWidth Program Runs Table BridgeStore Option

/-- A sum overflows only where the limit rejects it. -/
def SumFits (limit volume amount : Int) : Prop :=
  limit < i128.high ∨ i128.Holds (volume + amount)
deriving Decidable

def SumsFit (ledger : Ledger BridgeStore) (input : BridgeInput) : Prop :=
  ∀ registration ∈ input.call.registration, (∀ config ∈ ledger.store.config,
      SumFits config.security.dailyTransferLimit
        (DailyVolume.today ledger.store.dailyVolume
          (ledger.timestamp + input.arrival.seconds)).totalAmount registration.2) ∧
    ∀ limits ∈ ledger.store.routeConfigs.lookup registration.1,
      SumFits limits.aggregateWindowLimit
        (limits.windowAt (ledger.store.withdrawalWindows.lookup registration.1)
          (ledger.timestamp + input.arrival.seconds)).totalVolume registration.2
deriving Decidable

/-- A registration that starts the window of a route again finds that nothing was
registered on the route within its length, of what was registered from some id on. -/
def RestartsClear (first : Nat) (route : Route) (limits : WithdrawalRouteConfig)
    (ledger : Ledger BridgeStore) (input : BridgeInput) : Prop :=
  ∀ registration ∈ input.call.registration, registration.1 = route →
    ∀ window ∈ ledger.store.withdrawalWindows.lookup route,
      limits.windowSeconds ≤ ledger.timestamp + input.arrival.seconds - window.windowStart →
      ledger.store.spanVolume first route
        (ledger.timestamp + input.arrival.seconds + 1 - limits.windowSeconds)
        (ledger.timestamp + input.arrival.seconds) = 0
deriving Decidable

/-- The volume of every day is within the limit, and that of the stored day is counted. -/
structure DaysKept (store : BridgeStore) (timestamp : Nat) : Prop where
  numbered : store.Numbered
  recent : ∀ transferId transfer, store.transfer transferId = some transfer →
    ∃ volume, store.dailyVolume = some volume ∧ dayBucket transfer.createdAt ≤ volume.dayStart
  clock : ∀ volume, store.dailyVolume = some volume → volume.dayStart ≤ dayBucket timestamp
  counted : ∀ volume, store.dailyVolume = some volume →
    store.dayVolume volume.dayStart ≤ volume.totalAmount
  limited : ∀ config, store.config = some config →
    ∀ day, store.dayVolume day ≤ config.security.dailyTransferLimit

theorem dayBucket_mono {prior later : Nat} (ordered : prior ≤ later) :
    dayBucket prior ≤ dayBucket later :=
  Nat.mul_le_mul_right _ (Nat.div_le_div_right ordered)

section Days

variable {now : Nat} {call : BridgeCall} {pre after : BridgeStore} {timestamp : Nat}

theorem dayVolume_none {day : Nat}
    (none : ∀ transferId transfer, pre.transfer transferId = some transfer →
      dayBucket transfer.createdAt ≠ day) : pre.dayVolume day = 0 :=
  volume_none fun transferId transfer has => decide_eq_false (none transferId transfer has)

/-- The volume of today is at most what was counted. -/
theorem DaysKept.today (kept : DaysKept pre timestamp) (later : timestamp ≤ now) :
    (DailyVolume.today pre.dailyVolume now).dayStart = dayBucket now ∧
      pre.dayVolume (dayBucket now) ≤ (DailyVolume.today pre.dailyVolume now).totalAmount := by
  rw [DailyVolume.today]
  cases has : pre.dailyVolume with
  | none =>
    refine ⟨by simp, ?_⟩
    simp only [getD_none, ne_eq, not_true_eq_false, if_false]
    refine (dayVolume_none fun transferId transfer present => ?_).le
    obtain ⟨volume, hit, _⟩ := kept.recent transferId transfer present
    rw [has] at hit
    cases hit
  | some volume =>
    simp only [getD_some]
    by_cases current : volume.dayStart = dayBucket now
    · rw [if_neg (not_not.mpr current)]
      exact ⟨current, current ▸ kept.counted volume has⟩
    · rw [if_pos current]
      refine ⟨rfl, (dayVolume_none fun transferId transfer present same => ?_).le⟩
      obtain ⟨hit, isFound, upTo⟩ := kept.recent transferId transfer present
      cases mem_unique has isFound
      have past := kept.clock volume has
      have ordered := dayBucket_mono later
      omega

/-- One step keeps the volumes of days within their limits. -/
theorem DaysKept.step (kept : DaysKept pre timestamp) (later : timestamp ≤ now)
    (effect : BridgeEffect now pre call after)
    (fits : ∀ registration ∈ call.registration, ∀ config ∈ pre.config,
      SumFits config.security.dailyTransferLimit
        (DailyVolume.today pre.dailyVolume now).totalAmount registration.2) :
    DaysKept after now := by
  have numbered := effect.pos kept.numbered
  rcases effect.volume with same | ⟨config, transfer, windows, volume, added⟩
  · have days : ∀ day, after.dayVolume day = pre.dayVolume day := fun day => same.volume _
    rcases same.config with ⟨sameConfig, sameDay⟩ | ⟨unset, newDay, config, configured, _, pos⟩
    · refine ⟨numbered, fun transferId hit has => ?_, fun volume has => ?_,
        fun volume has => ?_, fun config configured day => ?_⟩
      · obtain ⟨prior, present, records⟩ := same.entries transferId hit has
        rw [sameDay, records.createdAt]
        exact kept.recent transferId prior present
      · exact (kept.clock volume (sameDay ▸ has)).trans (dayBucket_mono later)
      · exact days _ ▸ kept.counted volume (sameDay ▸ has)
      · exact days _ ▸ kept.limited config (sameConfig ▸ configured) day
    · -- Before the contract is initialized there are no transfers.
      have empty : ∀ transferId, pre.transfer transferId = none := by
        intro transferId
        by_contra present
        obtain ⟨transfer, has⟩ := Option.ne_none_iff_exists'.mp present
        obtain ⟨_, hit, _⟩ := kept.numbered transferId transfer has
        rw [unset] at hit
        cases hit
      have zero : ∀ day, after.dayVolume day = 0 := fun day => by
        rw [days]
        refine dayVolume_none fun transferId transfer has => ?_
        rw [empty] at has
        cases has
      refine ⟨numbered, fun transferId hit has => ?_, fun volume has => ?_,
        fun volume has => ?_, fun other hit day => ?_⟩
      · obtain ⟨prior, present, _⟩ := same.entries transferId hit has
        rw [empty] at present
        cases present
      · cases mem_unique newDay has
        exact le_rfl
      · cases mem_unique newDay has
        exact (zero _).le
      · cases mem_unique configured hit
        rw [zero]
        exact pos.le
  · obtain ⟨isToday, counted⟩ := kept.today later
    obtain ⟨other, hit, within⟩ := added.counted.configured
    cases mem_unique added.configured hit
    have isVolume := added.counted.counted
    have unsaturated := sumOrMax_exact (by rw [isVolume] at within; exact within)
      (fits _ added.registers config added.configured)
    rw [isToday, unsaturated] at isVolume
    subst isVolume
    have days : ∀ day, after.dayVolume day = pre.dayVolume day +
        if dayBucket now = day then transfer.amount else 0 := by
      intro day
      have grown := added.volume_eq kept.numbered fun _ _ createdAt =>
        decide (dayBucket createdAt = day)
      simpa only [decide_eq_true_eq, dayVolume] using grown
    have within_day : after.dayVolume (dayBucket now) ≤
        (DailyVolume.today pre.dailyVolume now).totalAmount + transfer.amount := by
      rw [days, if_pos rfl]
      exact Int.add_le_add_right counted _
    refine ⟨numbered, ?_, fun volume has => ?_, fun volume has => ?_,
      fun other hit day => ?_⟩
    · refine added.entries (fun transferId hit has => ⟨_, added.volume, ?_⟩)
        ⟨_, added.volume, (congrArg dayBucket added.createdAt).le⟩
      obtain ⟨volume, isStored, upTo⟩ := kept.recent transferId hit has
      exact upTo.trans ((kept.clock volume isStored).trans (dayBucket_mono later))
    · cases mem_unique added.volume has
      exact le_rfl
    · cases mem_unique added.volume has
      exact within_day
    · cases mem_unique added.renumbered hit
      by_cases current : dayBucket now = day
      · subst current
        exact within_day.trans within
      · rw [days, if_neg current, add_zero]
        exact kept.limited config added.configured day

end Days

/-- Stored windows started in the past and hold no negative volume. -/
def WindowsKept (store : BridgeStore) (timestamp : Nat) : Prop :=
  ∀ route window, store.withdrawalWindows.lookup route = some window →
    window.windowStart ≤ timestamp ∧ 0 ≤ window.totalVolume

/-- The volume of the route since its window started is counted, what was registered before
is a whole window away, and every span that is shorter is within the limit. -/
structure RouteKept (first : Nat) (route : Route) (limits : WithdrawalRouteConfig)
    (store : BridgeStore) (timestamp : Nat) : Prop where
  numbered : store.Numbered
  windows : WindowsKept store timestamp
  fixed : store.routeConfigs.lookup route = some limits
  started : first ≤ store.nextId
  placed : ∀ transferId transfer, store.transfer transferId = some transfer →
    first ≤ transferId → transfer.route = route →
    ∃ window, store.withdrawalWindows.lookup route = some window ∧
      (window.windowStart ≤ transfer.createdAt ∨
        transfer.createdAt + limits.windowSeconds ≤ window.windowStart) ∧
      transfer.createdAt ≤ timestamp
  counted : ∀ window, store.withdrawalWindows.lookup route = some window →
    store.spanVolume first route window.windowStart timestamp ≤ window.totalVolume
  limited : ∀ earliest latest, latest < earliest + limits.windowSeconds →
    store.spanVolume first route earliest latest ≤ limits.aggregateWindowLimit

section Routes

variable {now : Nat} {call : BridgeCall} {pre after : BridgeStore} {timestamp first : Nat}
  {route : Route} {limits : WithdrawalRouteConfig}

theorem spanVolume_none {earliest latest : Nat}
    (none : ∀ transferId transfer, pre.transfer transferId = some transfer →
      first ≤ transferId → transfer.route = route → earliest ≤ transfer.createdAt →
      ¬ transfer.createdAt ≤ latest) : pre.spanVolume first route earliest latest = 0 :=
  volume_none fun transferId transfer has => decide_eq_false fun both =>
    none transferId transfer has both.1 both.2.1 both.2.2.1 both.2.2.2

theorem spanVolume_le {earliest latest prior later : Nat} (numbered : pre.Numbered)
    (included : ∀ transferId transfer, pre.transfer transferId = some transfer →
      first ≤ transferId → transfer.route = route → earliest ≤ transfer.createdAt →
      transfer.createdAt ≤ latest → prior ≤ transfer.createdAt ∧ transfer.createdAt ≤ later) :
    pre.spanVolume first route earliest latest ≤ pre.spanVolume first route prior later := by
  refine volume_le numbered fun transferId transfer has counted => ?_
  obtain ⟨from_, on, after, upTo⟩ := of_decide_eq_true counted
  exact decide_eq_true ⟨from_, on, included transferId transfer has from_ on after upTo⟩

/-- One step keeps the windows of routes in order. -/
theorem WindowsKept.step (kept : WindowsKept pre timestamp) (later : timestamp ≤ now)
    (effect : BridgeEffect now pre call after) : WindowsKept after now := by
  have prior : ∀ route window, pre.withdrawalWindows.lookup route = some window →
      window.windowStart ≤ now ∧ 0 ≤ window.totalVolume := fun route window has =>
    ⟨(kept route window has).1.trans later, (kept route window has).2⟩
  rcases effect.volume with same | ⟨config, transfer, windows, volume, added⟩
  · intro route window has
    rcases same.windows route window has with old | rfl
    · exact prior route window old
    · exact ⟨le_rfl, le_rfl⟩
  · intro route window has
    rw [added.windows] at has
    cases added.counted.consumed with
    | unset | unlimited => exact prior route window has
    | @counted config current configured limited isCurrent within =>
      rw [lookup_insert] at has
      split at has
      · cases has
        have bounds : current.windowStart ≤ now ∧ 0 ≤ current.totalVolume := by
          rw [isCurrent, WithdrawalRouteConfig.windowAt]
          split
          · exact ⟨le_rfl, le_rfl⟩
          · cases held : pre.withdrawalWindows.lookup transfer.route with
            | none => exact ⟨le_rfl, le_rfl⟩
            | some hit => exact prior _ hit held
        refine ⟨bounds.1, ?_⟩
        have pos := added.counted.pos
        simp only [sumOrMax]
        cases sum : i128.checkedAdd current.totalVolume transfer.amount with
        | none => decide
        | some total =>
          obtain ⟨_, rfl⟩ := i128.checked_ok sum
          exact Int.add_nonneg bounds.2 pos.le
      · exact prior route window has

/-- The window that a registration counts in: it has counted what is in it, and what came
before it is a whole window away. -/
structure WindowCurrent (now first : Nat) (route : Route) (limits : WithdrawalRouteConfig)
    (store : BridgeStore) (window : WithdrawalWindow) : Prop where
  started : window.windowStart ≤ now
  counted : store.spanVolume first route window.windowStart now ≤ window.totalVolume
  placed : ∀ transferId transfer, store.transfer transferId = some transfer →
    first ≤ transferId → transfer.route = route →
    (window.windowStart ≤ transfer.createdAt ∨
      transfer.createdAt + limits.windowSeconds ≤ window.windowStart) ∧ transfer.createdAt ≤ now

/-- A window that lasts covers what the route has moved in it. -/
theorem RouteKept.current (kept : RouteKept first route limits pre timestamp)
    (later : timestamp ≤ now) (lasting : 0 < limits.windowSeconds)
    (clear : ∀ window ∈ pre.withdrawalWindows.lookup route,
      limits.windowSeconds ≤ now - window.windowStart →
      pre.spanVolume first route (now + 1 - limits.windowSeconds) now = 0) :
    WindowCurrent now first route limits pre
      (limits.windowAt (pre.withdrawalWindows.lookup route) now) := by
  rw [WithdrawalRouteConfig.windowAt]
  cases has : pre.withdrawalWindows.lookup route with
  | none =>
    have idle : ∀ {claimed : Prop} transferId transfer,
        pre.transfer transferId = some transfer → first ≤ transferId →
        transfer.route = route → claimed := by
      intro claimed transferId transfer present fromFirst on
      obtain ⟨window, hit, _⟩ := kept.placed transferId transfer present fromFirst on
      rw [has] at hit
      cases hit
    simp only [getD_none, ite_self]
    exact ⟨le_rfl, (spanVolume_none fun _ _ present fromFirst on _ =>
      idle _ _ present fromFirst on).le, fun _ _ => idle _ _⟩
  | some window =>
    simp only [getD_some]
    obtain ⟨past, nonneg⟩ := kept.windows route window has
    split
    · next ended =>
      have quiet : ∀ transferId transfer, pre.transfer transferId = some transfer →
          first ≤ transferId → transfer.route = route →
          transfer.createdAt + limits.windowSeconds ≤ now := by
        intro transferId transfer present fromFirst on
        obtain ⟨_, _, _, upTo⟩ := kept.placed transferId transfer present fromFirst on
        have uncounted := of_decide_eq_false
          (uncounted_of_volume kept.numbered (clear window has ended) present)
        by_contra near
        exact uncounted ⟨fromFirst, on, by omega, by omega⟩
      refine ⟨le_rfl, (spanVolume_none fun transferId transfer present fromFirst on after upTo =>
        ?_).le, fun transferId transfer present fromFirst on => ?_⟩
      · have away := quiet transferId transfer present fromFirst on
        have since : now ≤ transfer.createdAt := after
        omega
      · have away := quiet transferId transfer present fromFirst on
        exact ⟨.inr away, by omega⟩
    · refine ⟨past.trans later, ?_, fun transferId transfer present fromFirst on => ?_⟩
      · refine (spanVolume_le kept.numbered fun transferId transfer present fromFirst on after _ =>
          ⟨after, ?_⟩).trans (kept.counted window has)
        obtain ⟨_, _, _, upTo⟩ := kept.placed transferId transfer present fromFirst on
        exact upTo
      · obtain ⟨hit, isFound, place, upTo⟩ := kept.placed transferId transfer present fromFirst on
        cases mem_unique has isFound
        exact ⟨place, upTo.trans later⟩

variable {windows : Table Route WithdrawalWindow} {transfer : BridgeTransfer}
  {config : BridgeConfig} {volume : DailyVolume}

theorem VolumeAdded.spanVolume_eq
    (added : VolumeAdded now call pre after config transfer windows volume)
    (numbered : pre.Numbered) (earliest latest : Nat) :
    after.spanVolume first route earliest latest = pre.spanVolume first route earliest latest +
      if first ≤ config.nextTransferId ∧ transfer.route = route ∧ earliest ≤ now ∧ now ≤ latest
        then transfer.amount else 0 := by
  have grown := added.volume_eq numbered fun transferId on createdAt =>
    decide (first ≤ transferId ∧ on = route ∧ earliest ≤ createdAt ∧ createdAt ≤ latest)
  simpa only [decide_eq_true_eq, spanVolume] using grown

/-- A call that registers nothing and sets no limits of the route keeps it. -/
theorem RouteKept.step_kept (kept : RouteKept first route limits pre timestamp)
    (later : timestamp ≤ now) (effect : BridgeEffect now pre call after)
    (same : VolumeKept now call pre after) (unset : call.limited ≠ some route) :
    RouteKept first route limits after now := by
  obtain ⟨sameLimits, sameWindow⟩ := same.routes route unset
  have placed : ∀ transferId transfer, after.transfer transferId = some transfer →
      first ≤ transferId → transfer.route = route →
      ∃ window, after.withdrawalWindows.lookup route = some window ∧
        (window.windowStart ≤ transfer.createdAt ∨
          transfer.createdAt + limits.windowSeconds ≤ window.windowStart) ∧
        transfer.createdAt ≤ timestamp := by
    intro transferId transfer has fromFirst on
    obtain ⟨prior, present, records⟩ := same.entries transferId transfer has
    rw [records.createdAt, sameWindow]
    exact kept.placed transferId prior present fromFirst (records.route ▸ on)
  have numbered := effect.pos kept.numbered
  refine ⟨numbered, kept.windows.step later effect, sameLimits.trans kept.fixed, ?_,
    fun transferId transfer has fromFirst on => ?_, fun window has => ?_,
    fun earliest latest short => ?_⟩
  · refine kept.started.trans ?_
    rcases same.config with ⟨sameConfig, _⟩ | ⟨unconfigured, _⟩
    · simp [nextId, sameConfig]
    · simp [nextId, unconfigured]
  · obtain ⟨window, hit, place, upTo⟩ := placed transferId transfer has fromFirst on
    exact ⟨window, hit, place, upTo.trans later⟩
  · rw [sameWindow] at has
    refine le_trans ?_ (kept.counted window has)
    rw [← show after.spanVolume first route window.windowStart timestamp =
      pre.spanVolume first route window.windowStart timestamp from same.volume _]
    refine spanVolume_le numbered fun transferId transfer present fromFirst on from_ _ => ⟨from_, ?_⟩
    obtain ⟨_, _, _, upTo⟩ := placed transferId transfer present fromFirst on
    exact upTo
  · rw [show after.spanVolume first route earliest latest =
      pre.spanVolume first route earliest latest from same.volume _]
    exact kept.limited earliest latest short

/-- A transfer on another route leaves a route within its limits. -/
theorem RouteKept.step_other (kept : RouteKept first route limits pre timestamp)
    (later : timestamp ≤ now) (effect : BridgeEffect now pre call after)
    (added : VolumeAdded now call pre after config transfer windows volume)
    (other : transfer.route ≠ route) : RouteKept first route limits after now := by
  have spans : ∀ earliest latest, after.spanVolume first route earliest latest =
      pre.spanVolume first route earliest latest := by
    intro earliest latest
    rw [added.spanVolume_eq kept.numbered, if_neg fun both => other both.2.1, add_zero]
  have sameWindow : after.withdrawalWindows.lookup route =
      pre.withdrawalWindows.lookup route := by
    rw [added.windows]
    cases added.counted.consumed with
    | unset | unlimited => rfl
    | counted => rw [lookup_insert, if_neg (Ne.symm other)]
  refine ⟨effect.pos kept.numbered, kept.windows.step later effect,
    added.routeConfigs ▸ kept.fixed, ?_, ?_, fun window has => ?_, fun earliest latest short => ?_⟩
  · refine kept.started.trans ?_
    simp [nextId, added.configured, added.renumbered]
  · refine added.entries (fun transferId hit has fromFirst on => ?_)
      fun _ on => absurd on other
    rw [sameWindow]
    obtain ⟨window, isStored, place, upTo⟩ := kept.placed transferId hit has fromFirst on
    exact ⟨window, isStored, place, upTo.trans later⟩
  · rw [spans]
    rw [sameWindow] at has
    refine (spanVolume_le kept.numbered fun transferId hit present fromFirst on from_ _ =>
      ⟨from_, ?_⟩).trans (kept.counted window has)
    obtain ⟨_, _, _, upTo⟩ := kept.placed transferId hit present fromFirst on
    exact upTo
  · rw [spans]
    exact kept.limited earliest latest short

/-- A transfer that is counted leaves its route within its limits. -/
theorem RouteKept.step_counted
    (kept : RouteKept first route limits pre timestamp) (later : timestamp ≤ now)
    (effect : BridgeEffect now pre call after)
    (added : VolumeAdded now call pre after config transfer windows volume)
    (on : transfer.route = route) (limited : 0 < limits.aggregateWindowLimit)
    (lasting : 0 < limits.windowSeconds) (fits : SumFits limits.aggregateWindowLimit
      (limits.windowAt (pre.withdrawalWindows.lookup route) now).totalVolume transfer.amount)
    (clear : ∀ window ∈ pre.withdrawalWindows.lookup route,
      limits.windowSeconds ≤ now - window.windowStart →
      pre.spanVolume first route (now + 1 - limits.windowSeconds) now = 0) :
    RouteKept first route limits after now := by
  subst on
  have current := kept.current later lasting clear
  -- The registration is counted in the current window, within the limit.
  have window : after.withdrawalWindows.lookup transfer.route = some
        ⟨(limits.windowAt (pre.withdrawalWindows.lookup transfer.route) now).windowStart,
          (limits.windowAt (pre.withdrawalWindows.lookup transfer.route) now).totalVolume +
            transfer.amount⟩ ∧
      (limits.windowAt (pre.withdrawalWindows.lookup transfer.route) now).totalVolume +
        transfer.amount ≤ limits.aggregateWindowLimit := by
    rw [added.windows]
    cases added.counted.consumed with
    | unset absent =>
      rw [kept.fixed] at absent
      cases absent
    | unlimited configured unlimited =>
      cases mem_unique kept.fixed configured
      exact absurd ⟨limited, lasting⟩ unlimited
    | counted configured _ isCurrent within =>
      cases mem_unique kept.fixed configured
      subst isCurrent
      have unsaturated := sumOrMax_exact within fits
      rw [unsaturated] at within ⊢
      rw [lookup_insert, if_pos rfl]
      exact ⟨rfl, within⟩
  obtain ⟨isWindow, within⟩ := window
  generalize limits.windowAt (pre.withdrawalWindows.lookup transfer.route) now = window
    at current isWindow within
  refine ⟨effect.pos kept.numbered, kept.windows.step later effect,
    added.routeConfigs ▸ kept.fixed, ?_, ?_, fun hit has => ?_, fun earliest latest short => ?_⟩
  · refine kept.started.trans ?_
    simp [nextId, added.configured, added.renumbered]
  · refine added.entries (fun transferId hit has fromFirst on => ?_) fun _ _ => ?_
    · obtain ⟨place, upTo⟩ := current.placed transferId hit has fromFirst on
      exact ⟨_, isWindow, place, upTo⟩
    · rw [added.createdAt]
      exact ⟨_, isWindow, .inl current.started, le_rfl⟩
  · cases mem_unique isWindow has
    rw [added.spanVolume_eq kept.numbered]
    have counted := current.counted
    have pos := added.counted.pos
    split
    · exact Int.add_le_add_right counted _
    · dsimp only
      omega
  · rw [added.spanVolume_eq kept.numbered]
    split
    · next inside =>
      -- What is in the span with this registration is in its window.
      have counted : pre.spanVolume first transfer.route earliest latest ≤
          window.totalVolume := by
        refine (spanVolume_le kept.numbered fun transferId hit has fromFirst on after _ =>
          ?_).trans current.counted
        obtain ⟨place, upTo⟩ := current.placed transferId hit has fromFirst on
        have started := current.started
        exact ⟨by omega, upTo⟩
      omega
    · rw [add_zero]
      exact kept.limited earliest latest short

end Routes

variable {store : BridgeStore}

theorem DaysKept.wait {timestamp now : Nat} (kept : DaysKept store timestamp)
    (later : timestamp ≤ now) : DaysKept store now :=
  ⟨kept.numbered, kept.recent,
    fun volume has => (kept.clock volume has).trans (dayBucket_mono later), kept.counted,
    kept.limited⟩

theorem WindowsKept.wait {timestamp now : Nat} (kept : WindowsKept store timestamp)
    (later : timestamp ≤ now) : WindowsKept store now :=
  fun route window has =>
    ⟨(kept route window has).1.trans later, (kept route window has).2⟩

theorem RouteKept.wait {first : Nat} {route : Route} {limits : WithdrawalRouteConfig}
    {timestamp now : Nat} (kept : RouteKept first route limits store timestamp)
    (later : timestamp ≤ now) : RouteKept first route limits store now := by
  refine ⟨kept.numbered, kept.windows.wait later, kept.fixed, kept.started,
    fun transferId transfer has fromFirst on => ?_, fun window has => ?_, kept.limited⟩
  · obtain ⟨window, hit, place, upTo⟩ := kept.placed transferId transfer has fromFirst on
    exact ⟨window, hit, place, upTo.trans later⟩
  · refine (spanVolume_le kept.numbered fun transferId hit present fromFirst on since _ =>
      ⟨since, ?_⟩).trans (kept.counted window has)
    obtain ⟨_, _, _, upTo⟩ := kept.placed transferId hit present fromFirst on
    exact upTo

/-- Limits that are set hold from the next transfer on. -/
theorem RouteKept.begin {route : Route} {limits : WithdrawalRouteConfig} {timestamp : Nat}
    (numbered : store.Numbered) (windows : WindowsKept store timestamp)
    (fixed : store.routeConfigs.lookup route = some limits)
    (limited : 0 < limits.aggregateWindowLimit) :
    RouteKept store.nextId route limits store timestamp := by
  have older : ∀ {claimed : Prop} transferId transfer,
      store.transfer transferId = some transfer → store.nextId ≤ transferId → claimed := by
    intro claimed transferId transfer has fromFirst
    obtain ⟨config, configured, below, _⟩ := numbered transferId transfer has
    simp only [nextId, configured, map_some, getD_some] at fromFirst
    omega
  have none : ∀ earliest latest, store.spanVolume store.nextId route earliest latest = 0 :=
    fun earliest latest => spanVolume_none fun transferId transfer has fromFirst =>
      older transferId transfer has fromFirst
  refine ⟨numbered, windows, fixed, le_rfl, fun transferId transfer has fromFirst => ?_,
    fun window has => ?_, fun earliest latest _ => ?_⟩
  · exact older transferId transfer has fromFirst
  · exact (none _ _).trans_le (windows route window has).2
  · exact (none _ _).trans_le limited.le

section Steps

variable (key : MessageKey) (ledger : Ledger BridgeStore) (input : BridgeInput)

theorem bridgeStep_daysKept (fits : SumsFit ledger input)
    (kept : DaysKept ledger.store ledger.timestamp) :
    DaysKept (bridgeStep key input ledger).store (bridgeStep key input ledger).timestamp := by
  have later := Nat.le_add_right ledger.timestamp input.arrival.seconds
  refine bridgeStep_keeps key ledger input (fun after => DaysKept after _)
    (kept.wait later) fun after effect => ?_
  exact kept.step later effect fun registration registers => (fits registration registers).1

theorem bridgeStep_windowsKept (kept : WindowsKept ledger.store ledger.timestamp) :
    WindowsKept (bridgeStep key input ledger).store (bridgeStep key input ledger).timestamp := by
  have later := Nat.le_add_right ledger.timestamp input.arrival.seconds
  exact bridgeStep_keeps key ledger input (fun after => WindowsKept after _)
    (kept.wait later) fun _ effect => kept.step later effect

variable {first : Nat} {route : Route} {limits : WithdrawalRouteConfig}

theorem bridgeStep_routeKept (limited : 0 < limits.aggregateWindowLimit)
    (lasting : 0 < limits.windowSeconds) (unset : input.call.limited ≠ some route)
    (fits : SumsFit ledger input) (clear : RestartsClear first route limits ledger input)
    (kept : RouteKept first route limits ledger.store ledger.timestamp) :
    RouteKept first route limits (bridgeStep key input ledger).store
      (bridgeStep key input ledger).timestamp := by
  have later := Nat.le_add_right ledger.timestamp input.arrival.seconds
  refine bridgeStep_keeps key ledger input
    (fun after => RouteKept first route limits after _) (kept.wait later)
    fun after effect => ?_
  rcases effect.volume with same | ⟨config, transfer, windows, volume, added⟩
  · exact kept.step_kept later effect same unset
  · by_cases on : transfer.route = route
    · refine kept.step_counted later effect added on limited lasting ?_
        (clear _ added.registers on)
      subst on
      exact (fits _ added.registers).2 limits kept.fixed
    · exact kept.step_other later effect added on

end Steps

theorem DaysKept.start (timestamp sequence : Nat) :
    DaysKept (bridgeStart timestamp sequence).store timestamp where
  numbered := .empty _
  recent := fun _ _ has => by cases has
  clock := fun _ has => by cases has
  counted := fun _ has => by cases has
  limited := fun _ has => by cases has

/-- The volume of every day is within the limit in every run whose sums fit, and the volume
of every span on a route that is shorter than its window is within the limit of the route
as long as that is not changed and every restart of the window finds the route idle. -/
theorem volume_limits_hold (key : MessageKey) (timestamp sequence : Nat)
    (inputs later : List BridgeInput)
    (fits : ∀ taken ∈ trace (bridgeStep key) (bridgeStart timestamp sequence)
      (inputs ++ later), SumsFit taken.pre taken.input) :
    (∀ config, (bridgeRun key timestamp sequence (inputs ++ later)).store.config = some config →
      ∀ day, (bridgeRun key timestamp sequence (inputs ++ later)).store.dayVolume day ≤
        config.security.dailyTransferLimit) ∧ ∀ route limits,
      (bridgeRun key timestamp sequence inputs).store.routeConfigs.lookup route = some limits →
      0 < limits.aggregateWindowLimit → 0 < limits.windowSeconds →
      (∀ input ∈ later, input.call.limited ≠ some route) →
      (∀ taken ∈ trace (bridgeStep key) (bridgeRun key timestamp sequence inputs) later,
        RestartsClear (bridgeRun key timestamp sequence inputs).store.nextId route limits
          taken.pre taken.input) → ∀ earliest latest, latest < earliest + limits.windowSeconds →
        (bridgeRun key timestamp sequence (inputs ++ later)).store.spanVolume
            (bridgeRun key timestamp sequence inputs).store.nextId route earliest latest ≤
          limits.aggregateWindowLimit := by
  have days : ∀ calls : List BridgeInput,
      (∀ taken ∈ trace (bridgeStep key) (bridgeStart timestamp sequence) calls,
        SumsFit taken.pre taken.input) →
      DaysKept (final (bridgeStep key) (bridgeStart timestamp sequence) calls).store
        (final (bridgeStep key) (bridgeStart timestamp sequence) calls).timestamp := by
    intro calls callsFit
    exact guarded_invariant (bridgeStep key)
      (fun ledger => DaysKept ledger.store ledger.timestamp) SumsFit
      (fun ledger input => bridgeStep_daysKept key ledger input) _ (.start timestamp sequence)
      calls callsFit
  refine ⟨(days _ fits).limited, fun route limits fixed limited lasting unset clear => ?_⟩
  rw [transitions_append] at fits
  have numbered := (days inputs fun taken mem => fits taken (List.mem_append_left _ mem)).numbered
  have windows := guarded_invariant (bridgeStep key)
    (fun ledger => WindowsKept ledger.store ledger.timestamp) (fun _ _ => True)
    (fun ledger input _ => bridgeStep_windowsKept key ledger input)
    (bridgeStart timestamp sequence) (fun _ _ has => by cases has) inputs fun _ _ => trivial
  simp only [bridgeRun, final_append] at fixed clear ⊢
  generalize final (bridgeStep key) (bridgeStart timestamp sequence) inputs = middle at *
  have kept := guarded_invariant (bridgeStep key)
    (fun ledger => RouteKept middle.store.nextId route limits ledger.store ledger.timestamp)
    (fun ledger input => input.call.limited ≠ some route ∧ SumsFit ledger input ∧
      RestartsClear middle.store.nextId route limits ledger input)
    (fun ledger input ⟨free, sums, restarts⟩ =>
      bridgeStep_routeKept key ledger input limited lasting free sums restarts)
    middle (.begin numbered windows fixed limited) later
    fun taken mem => ⟨unset taken.input (input_mem _ mem),
      fits taken (List.mem_append_right _ mem), clear taken mem⟩
  exact kept.limited

section Edges

/-- A route on which at most 100 may be registered in 1000 seconds. -/
def limitedRoute : Route := ⟨.ethereum, .polygon, "wUSDC"⟩

def limitedBridge : List BridgeInput :=
  twoValidators ++
    [callBy 1 0 (.settings (.setWithdrawalRouteLimit 1 limitedRoute (amountOf 0) (amountOf 100) 1000))]

def messageOf (nonce amount : Nat) : LockMintRequest :=
  { depositOf 4 amount with message := ⟨.ethereum, "0x1", nonce⟩ }

/-- Two deposits that are a whole window apart. -/
def spacedDeposits : List BridgeInput :=
  [callBy 4 10 (.transfer (.initiateLockMint (messageOf 1 100))),
    callBy 4 1000 (.transfer (.initiateLockMint (messageOf 2 100)))]

/-- Two deposits at the edge of a window. -/
def edgeDeposits : List BridgeInput :=
  [callBy 4 999 (.transfer (.initiateLockMint (messageOf 1 100))),
    callBy 4 1 (.transfer (.initiateLockMint (messageOf 2 100)))]

theorem spaced_deposits_limited :
    (bridgeRun hashKey 0 0 (limitedBridge ++ spacedDeposits)).store.spanVolume 1 limitedRoute
      500 1400 ≤ 100 :=
  (volume_limits_hold hashKey 0 0 limitedBridge spacedDeposits (by decide)).2 limitedRoute
    ⟨0, 100, 1000⟩ (by decide) (by decide) (by decide) (by decide) (by decide) 500 1400 (by decide)

/-- Twice the limit is registered within two seconds. -/
theorem edge_deposits_exceed :
    ¬ ∀ (key : MessageKey) (timestamp sequence : Nat) (inputs later : List BridgeInput)
        (route : Route) (limits : WithdrawalRouteConfig),
        (bridgeRun key timestamp sequence inputs).store.routeConfigs.lookup route = some limits →
        0 < limits.aggregateWindowLimit → 0 < limits.windowSeconds →
        (∀ input ∈ later, input.call.limited ≠ some route) →
        ∀ earliest latest, latest < earliest + limits.windowSeconds →
          (bridgeRun key timestamp sequence (inputs ++ later)).store.spanVolume
              (bridgeRun key timestamp sequence inputs).store.nextId route earliest latest ≤
            limits.aggregateWindowLimit := by
  intro every
  have limited := every hashKey 0 0 limitedBridge edgeDeposits limitedRoute ⟨0, 100, 1000⟩
    (by decide) (by decide) (by decide) (by decide) 999 1000 (by decide)
  exact absurd limited (by decide)

end Edges

end StellarSwipe.Bridge
