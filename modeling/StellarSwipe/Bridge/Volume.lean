import StellarSwipe.Bridge.Supply

/-!
# Registered volume

Every registration is kept as a transfer with its id, its route, the time and the amount, and no
later call changes these.
-/

namespace StellarSwipe.Bridge

open FixedWidth Program Runs Table

/-- Which transfers count, by their id, their route and the time they were registered. -/
abbrev Counts := Nat → Route → Nat → Bool

variable (store : BridgeStore)

def BridgeStore.volume (counts : Counts) : Int :=
  Table.sum (fun transferId transfer =>
    if counts transferId transfer.route transfer.createdAt then transfer.amount else 0)
    store.transfers

/-- The volume registered in the day that starts at some second. -/
def BridgeStore.dayVolume (day : Nat) : Int :=
  store.volume fun _ _ createdAt => decide (dayBucket createdAt = day)

/-- The volume registered on a route between two times, with ids from some id on. -/
def BridgeStore.spanVolume (first : Nat) (route : Route) (earliest latest : Nat) : Int :=
  store.volume fun transferId on createdAt =>
    decide (first ≤ transferId ∧ on = route ∧ earliest ≤ createdAt ∧ createdAt ≤ latest)

/-- The id that the next transfer gets, zero before the contract is initialized. -/
def BridgeStore.nextId : Nat :=
  (store.config.map BridgeConfig.nextTransferId).getD 0

/-- All ids were given out and all amounts are positive. -/
abbrev BridgeStore.Numbered : Prop :=
  store.Every fun _ transfer => 0 < transfer.amount

section Sums

variable {store : BridgeStore} {counts wider : Counts}

theorem volume_le (numbered : store.Numbered)
    (included : ∀ transferId transfer, store.transfer transferId = some transfer →
      counts transferId transfer.route transfer.createdAt = true →
      wider transferId transfer.route transfer.createdAt = true) :
    store.volume counts ≤ store.volume wider := by
  refine sum_le_sum fun transferId transfer has => ?_
  obtain ⟨_, _, _, pos⟩ := numbered transferId transfer has
  split
  · next counted => rw [if_pos (included transferId transfer has counted)]
  · split
    · exact pos.le
    · exact le_rfl

theorem volume_none (none : ∀ transferId transfer, store.transfer transferId = some transfer →
      counts transferId transfer.route transfer.createdAt = false) : store.volume counts = 0 := by
  have zero : store.volume counts = Table.sum (fun _ _ => (0 : Int)) store.transfers := by
    refine sum_congr _ fun transferId transfer has => ?_
    rw [none transferId transfer has]
    rfl
  rw [zero]
  simp [Table.sum]

theorem uncounted_of_volume (numbered : store.Numbered) (zero : store.volume counts = 0)
    {transferId : Nat} {transfer : BridgeTransfer}
    (has : store.transfer transferId = some transfer) :
    counts transferId transfer.route transfer.createdAt = false := by
  by_contra counted
  have bounded : Table.contribution (fun transferId (transfer : BridgeTransfer) =>
      if counts transferId transfer.route transfer.createdAt then transfer.amount else 0)
      store.transfers transferId ≤ store.volume counts := by
    refine contribution_le_sum (fun other hit present => ?_) transferId
    obtain ⟨_, _, _, pos⟩ := numbered other hit present
    split
    · exact pos.le
    · exact le_rfl
  rw [contribution_of_some has, if_pos (Bool.not_eq_false _ ▸ counted)] at bounded
  obtain ⟨_, _, _, pos⟩ := numbered transferId transfer has
  exact absurd (bounded.trans zero.le) (not_le.mpr pos)

end Sums

def BridgeCall.registration (call : BridgeCall) : Option (Route × Int) :=
  match call with
  | .transfer (.initiateLockMint request) => some (request.route, request.amount)
  | .transfer (.initiateLockMintWithExpiry request _) => some (request.route, request.amount)
  | .transfer (.initiateBurnUnlock request) => some (request.route, request.amount)
  | _ => none

def BridgeCall.limited (call : BridgeCall) : Option Route :=
  match call with
  | .settings call => call.limited
  | _ => none

/-- A transfer with the same route, time and amount. -/
structure BridgeTransfer.Records (later prior : BridgeTransfer) : Prop where
  route : later.route = prior.route
  createdAt : later.createdAt = prior.createdAt
  amount : later.amount = prior.amount

/-- A call that registers nothing. -/
structure VolumeKept (now : Nat) (call : BridgeCall) (pre after : BridgeStore) : Prop where
  entries : ∀ transferId later, after.transfer transferId = some later →
    ∃ prior, pre.transfer transferId = some prior ∧ later.Records prior
  volume : ∀ counts, after.volume counts = pre.volume counts
  config : after.config = pre.config ∧ after.dailyVolume = pre.dailyVolume ∨
    pre.config = none ∧ after.dailyVolume = some ⟨dayBucket now, 0⟩ ∧
      ∃ config, after.config = some config ∧ config.nextTransferId = 1 ∧
        0 < config.security.dailyTransferLimit
  routes : ∀ route, call.limited ≠ some route →
    after.routeConfigs.lookup route = pre.routeConfigs.lookup route ∧
      after.withdrawalWindows.lookup route = pre.withdrawalWindows.lookup route
  windows : ∀ route window, after.withdrawalWindows.lookup route = some window →
    pre.withdrawalWindows.lookup route = some window ∨ window = ⟨now, 0⟩

/-- A call that registers a transfer within the limits. -/
structure VolumeAdded (now : Nat) (call : BridgeCall) (pre after : BridgeStore)
    (config : BridgeConfig) (transfer : BridgeTransfer) (windows : Table Route WithdrawalWindow)
    (volume : DailyVolume) : Prop where
  configured : pre.config = some config
  registers : call.registration = some (transfer.route, transfer.amount)
  createdAt : transfer.createdAt = now
  counted : VolumeCounted now pre transfer.amount transfer.route windows volume
  transfers : after.transfers = pre.transfers.insert config.nextTransferId transfer
  renumbered : after.config = some { config with nextTransferId := config.nextTransferId + 1 }
  routeConfigs : after.routeConfigs = pre.routeConfigs
  windows : after.withdrawalWindows = windows
  volume : after.dailyVolume = some volume

section Moves

variable {now : Nat} {call : BridgeCall} {pre after : BridgeStore}

theorem VolumeKept.of_transfers (transfers : after.transfers = pre.transfers)
    (config : after.config = pre.config) (daily : after.dailyVolume = pre.dailyVolume)
    (routes : after.routeConfigs = pre.routeConfigs)
    (windows : after.withdrawalWindows = pre.withdrawalWindows) :
    VolumeKept now call pre after where
  entries transferId later has := by
    rw [BridgeStore.transfer, transfers] at has
    exact ⟨later, has, rfl, rfl, rfl⟩
  volume counts := by rw [BridgeStore.volume, transfers, BridgeStore.volume]
  config := .inl ⟨config, daily⟩
  routes route _ := by simp only [routes, windows, and_self]
  windows route window has := .inl (windows ▸ has)

theorem VolumeKept.of_restated {transferId : Nat} {transfer changed : BridgeTransfer}
    (has : pre.transfer transferId = some transfer) (records : changed.Records transfer)
    (transfers : after.transfers = pre.transfers.insert transferId changed)
    (config : after.config = pre.config) (daily : after.dailyVolume = pre.dailyVolume)
    (routes : after.routeConfigs = pre.routeConfigs)
    (windows : after.withdrawalWindows = pre.withdrawalWindows) :
    VolumeKept now call pre after where
  entries other later hit := by
    rw [BridgeStore.transfer, transfers, lookup_insert] at hit
    split at hit
    · next same =>
      cases hit
      exact ⟨transfer, same ▸ has, records⟩
    · exact ⟨later, hit, rfl, rfl, rfl⟩
  volume counts := by
    rw [BridgeStore.volume, transfers, sum_insert, contribution_of_some has,
      records.route, records.createdAt, records.amount, BridgeStore.volume]
    omega
  config := .inl ⟨config, daily⟩
  routes route _ := by simp only [routes, windows, and_self]
  windows route window has := .inl (windows ▸ has)

/-- Every effect keeps the volumes or adds one transfer to them. -/
theorem BridgeEffect.volume (effect : BridgeEffect now pre call after) :
    VolumeKept now call pre after ∨ ∃ config transfer windows volume,
        VolumeAdded now call pre after config transfer windows volume := by
  cases effect with
  | settings effect =>
    refine .inl ⟨fun transferId later has => ?_, fun counts => ?_, effect.config,
      effect.routes, effect.windows⟩
    · rw [BridgeStore.transfer, effect.transfers] at has
      exact ⟨later, has, rfl, rfl, rfl⟩
    · rw [BridgeStore.volume, effect.transfers, BridgeStore.volume]
  | pool call liquidity => exact .inl (.of_transfers rfl rfl rfl rfl rfl)
  | transfer effect =>
    cases effect with
    | initiateLockMint registered | initiateLockMintWithExpiry registered =>
      cases registered with
      | intro configured unexpired fresh counted =>
        exact .inr ⟨_, _, _, _, configured, rfl, rfl, counted, rfl, rfl, rfl, rfl, rfl⟩
    | initiateBurnUnlock configured covered counted =>
      exact .inr ⟨_, _, _, _, configured, rfl, rfl, counted, rfl, rfl, rfl, rfl, rfl⟩
    | approveLockMint approved | approveBurnUnlock approved =>
      cases approved with
      | intro _ has =>
        refine .inl (.of_restated has ?_ rfl rfl rfl rfl rfl)
        exact ⟨rfl, rfl, rfl⟩
    | executeLockMint has | executeBurnUnlock has | markTransferFailed has
    | retryTransfer has =>
      refine .inl (.of_restated has ?_ rfl rfl rfl rfl rfl)
      exact ⟨rfl, rfl, rfl⟩

variable {config : BridgeConfig} {transfer : BridgeTransfer}
  {windows : Table Route WithdrawalWindow} {volume : DailyVolume}

/-- A transfer adds its amount to the volumes it counts for. -/
theorem VolumeAdded.volume_eq
    (added : VolumeAdded now call pre after config transfer windows volume)
    (numbered : pre.Numbered) (counts : Counts) : after.volume counts = pre.volume counts +
      if counts config.nextTransferId transfer.route now then transfer.amount else 0 := by
  have absent := numbered.next_absent added.configured
  rw [BridgeStore.volume, added.transfers, sum_insert, contribution_of_none absent,
    sub_zero, added.createdAt, BridgeStore.volume]

theorem VolumeAdded.entries {property : Nat → BridgeTransfer → Prop}
    (added : VolumeAdded now call pre after config transfer windows volume)
    (prior : ∀ transferId hit, pre.transfer transferId = some hit →
      property transferId hit) (new : property config.nextTransferId transfer) :
    ∀ transferId hit, after.transfer transferId = some hit → property transferId hit := by
  intro transferId hit has
  rw [BridgeStore.transfer, added.transfers, lookup_insert] at has
  split at has
  · next same => exact same ▸ Option.some.inj has ▸ new
  · exact prior transferId hit has

theorem BridgeEffect.pos (effect : BridgeEffect now pre call after)
    (numbered : pre.Numbered) : after.Numbered := by
  rcases effect.volume with kept | ⟨config, transfer, windows, volume, added⟩
  · intro transferId later has
    obtain ⟨prior, present, records⟩ := kept.entries transferId later has
    obtain ⟨config, configured, below, pos⟩ := numbered transferId prior present
    rcases kept.config with ⟨same, _⟩ | ⟨unset, _⟩
    · exact ⟨config, same ▸ configured, below, pos.trans_eq records.amount.symm⟩
    · rw [unset] at configured
      cases configured
  · refine added.entries (fun transferId hit has => ?_) ?_
    · obtain ⟨other, configured, below, pos⟩ := numbered transferId hit has
      obtain rfl := Option.mem_unique added.configured configured
      exact ⟨_, added.renumbered, Nat.lt_succ_of_lt below, pos⟩
    · exact ⟨_, added.renumbered, Nat.lt_succ_self _, added.counted.pos⟩

end Moves

/-- A sum that stays within a limit is exact unless it overflowed up to the limit. -/
theorem sumOrMax_exact {left right limit : Int} (within : sumOrMax left right ≤ limit)
    (fits : limit < i128.high ∨ i128.Holds (left + right)) : sumOrMax left right = left + right := by
  rw [sumOrMax] at within ⊢
  cases sum : i128.checkedAdd left right with
  | some total =>
    obtain ⟨_, rfl⟩ := i128.checked_ok sum
    rfl
  | none =>
    rw [sum] at within
    rcases fits with below | held
    · exact absurd within (not_le.mpr below)
    · exact absurd held ((i128.checked_eq_none _).mp sum)

end StellarSwipe.Bridge
