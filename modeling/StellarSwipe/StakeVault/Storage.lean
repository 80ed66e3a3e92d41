import StellarSwipe.Common.RateLimit
import StellarSwipe.Shared.Multisig
import StellarSwipe.StakeVault.RewardIndex
import StellarSwipe.Token

/-!
# The vault's storage and its surroundings

The entries are grouped by what they serve: settings, custody of funds, slashing records, the
unstake queue, per-account activity, and the modules the vault uses.
-/

namespace StellarSwipe.StakeVault

open Program FixedWidth Table

/-- Instance entries that administrators set. An absent entry has its default. -/
structure Settings where
  initialized : Bool
  admin : Option Address
  stakeToken : Option Address
  signalRegistry : Option Address
  governanceAddress : Option Address
  paused : Bool
  minimumStake : Option Int
  minimumStakeDuration : Option Nat
  slashTierConfig : Option SlashTierConfig
  slashCooldownLedgers : Option Nat
  appealWindowSecs : Option Nat
  withdrawalCooldownSecs : Option Nat
  maxUnstakeQueueSize : Option Nat
  defaultProviderLockupLedgers : Option Nat
  emergencyMultiSigConfig : Option EmergencyMultiSigConfig
  emergencyCooldownSecs : Option Nat

namespace Settings

def empty : Settings :=
  ⟨false, none, none, none, none, false, none, none, none, none, none, none, none, none, none, none⟩

variable (settings : Settings)

def minimum : Int := settings.minimumStake.getD 0

def stakeDuration : Nat := settings.minimumStakeDuration.getD 0

def tiers : SlashTierConfig := settings.slashTierConfig.getD .defaultConfig

def slashCooldown : Nat := settings.slashCooldownLedgers.getD defaultSlashCooldownLedgers

def appealWindow : Nat := settings.appealWindowSecs.getD 0

def withdrawalCooldown : Nat := settings.withdrawalCooldownSecs.getD largeWithdrawalTimelockSecs

def queueLimit : Nat := settings.maxUnstakeQueueSize.getD defaultMaxUnstakeQueueSize

def lockupLedgers : Nat :=
  settings.defaultProviderLockupLedgers.getD StakeVault.defaultProviderLockupLedgers

def emergencyCooldown : Nat := settings.emergencyCooldownSecs.getD 0

end Settings

/-- The entries that account for stake tokens in the vault's keeping. -/
structure Custody where
  stakesV2 : Table Address StakeInfoV2
  providerDelegatedStakes : Table Address (Table Address Int)
  providerTotalDelegated : Table Address Int
  slashedFundsHeld : Table Nat Int

/-- Slash records, their appeals, and the ledger of each provider's last slash. -/
structure Slashing where
  slashCounter : Option Nat
  slashRecord : Table Nat SlashRecord
  slashAppeal : Table Nat SlashAppeal
  lastSlashLedger : Table Address Nat

/-- The unstake queue: its two counters, its entries and each user's ticket. -/
structure UnstakeQueue where
  tail : Option Nat
  head : Option Nat
  entry : Table Nat UnstakeRequest
  userTicket : Table Address Nat

structure QueuedClaims where
  nextNonce : Table Address Nat
  claim : Table (Address × Nat) QueuedClaim

/-- Per-account timestamps, lockups, emergency requests and the two locks. -/
structure Activity where
  largeWithdrawalRequestedAt : Table Address Nat
  lastStakeLedger : Table Address Nat
  stakeDepositTimestamps : Table Address Nat
  stakeBelowMinSince : Table Address Nat
  providerLockup : Table Address ProviderLockup
  emergencyRequest : Table Address EmergencyRequest
  lastEmergencyUnstakeAt : Table Address Nat
  executionLock : Bool
  contractLock : Bool

structure Vault where
  settings : Settings
  custody : Custody
  slashing : Slashing
  queue : UnstakeQueue
  claims : QueuedClaims
  activity : Activity
  index : RewardIndex.Storage
  limits : RateLimit.Storage
  multisig : Multisig.Storage

def Custody.empty : Custody := ⟨∅, ∅, ∅, ∅⟩

def Slashing.empty : Slashing := ⟨none, ∅, ∅, ∅⟩

def UnstakeQueue.empty : UnstakeQueue := ⟨none, none, ∅, ∅⟩

def QueuedClaims.empty : QueuedClaims := ⟨∅, ∅⟩

def Activity.empty : Activity := ⟨∅, ∅, ∅, ∅, ∅, ∅, ∅, false, false⟩

/-- A deployed vault before its first call. -/
def Vault.empty : Vault where
  settings := .empty
  custody := .empty
  slashing := .empty
  queue := .empty
  claims := .empty
  activity := .empty
  index := .empty
  limits := .empty
  multisig := .empty

/-- The vault at its own address among the tokens. -/
structure World where
  self : Address
  vault : Vault
  tokens : Tokens

/-- A deployed vault among tokens that it has not touched. -/
def World.fresh (self : Address) (tokens : Tokens) : World := ⟨self, .empty, tokens⟩

namespace Custody

variable (custody : Custody)

variable (staker : Address)

def stakeInfo : StakeInfoV2 := (custody.stakesV2.lookup staker).getD .absent

/-- The staked balance of an address, zero when it has no entry. -/
def stakeOf : Int := (custody.stakeInfo staker).balance

variable (slashId : Nat) (provider : Address)

def delegationsTo : Table Address Int :=
  (custody.providerDelegatedStakes.lookup provider).getD ∅

def delegatedBy (delegator provider : Address) : Int := (custody.delegationsTo provider).read delegator

def totalDelegated : Int := custody.providerTotalDelegated.read provider

/-- The funds parked for a slash, zero when there are none. -/
def heldFor : Int := custody.slashedFundsHeld.read slashId

def recordStake (info : StakeInfoV2) : Custody :=
  { custody with stakesV2 := custody.stakesV2.insert staker info }

def recordDelegations (delegated : Table Address Int) : Custody :=
  { custody with
    providerDelegatedStakes := custody.providerDelegatedStakes.insert provider delegated }

def recordTotalDelegated (total : Int) : Custody :=
  { custody with providerTotalDelegated := custody.providerTotalDelegated.insert provider total }

def holdFunds (amount : Int) : Custody :=
  { custody with slashedFundsHeld := custody.slashedFundsHeld.insert slashId amount }

def releaseFunds : Custody :=
  { custody with slashedFundsHeld := custody.slashedFundsHeld.erase slashId }

theorem stakeInfo_of_stored {staker : Address} {info : StakeInfoV2}
    (has : custody.stakesV2.lookup staker = some info) : custody.stakeInfo staker = info := by
  simp only [stakeInfo, has, Option.getD_some]

theorem stakeOf_of_stored {staker : Address} {info : StakeInfoV2}
    (has : custody.stakesV2.lookup staker = some info) :
    custody.stakeOf staker = info.balance := by
  rw [stakeOf, stakeInfo_of_stored custody has]

variable (other : Address)

@[simp] theorem stakeOf_recordStake (info : StakeInfoV2) :
    (custody.recordStake staker info).stakeOf other =
      if other = staker then info.balance else custody.stakeOf other := by
  simp only [stakeOf, stakeInfo, recordStake, lookup_insert]
  split <;> rfl

@[simp] theorem stakeOf_recordDelegations (delegated : Table Address Int) :
    (custody.recordDelegations provider delegated).stakeOf other = custody.stakeOf other := rfl

@[simp] theorem stakeOf_recordTotalDelegated (total : Int) :
    (custody.recordTotalDelegated provider total).stakeOf other = custody.stakeOf other := rfl

@[simp] theorem stakeOf_holdFunds (amount : Int) (other : Address) :
    (custody.holdFunds slashId amount).stakeOf other = custody.stakeOf other := rfl

@[simp] theorem stakeOf_releaseFunds :
    (custody.releaseFunds slashId).stakeOf other = custody.stakeOf other := rfl

@[simp] theorem delegationsTo_recordStake (info : StakeInfoV2) :
    (custody.recordStake staker info).delegationsTo other = custody.delegationsTo other := rfl

@[simp] theorem delegationsTo_recordDelegations (delegated : Table Address Int) :
    (custody.recordDelegations provider delegated).delegationsTo other =
      if other = provider then delegated else custody.delegationsTo other := by
  simp only [delegationsTo, recordDelegations, lookup_insert]
  split <;> rfl

@[simp] theorem delegationsTo_recordTotalDelegated (total : Int) :
    (custody.recordTotalDelegated provider total).delegationsTo other =
      custody.delegationsTo other := rfl

@[simp] theorem delegationsTo_holdFunds (amount : Int) (other : Address) :
    (custody.holdFunds slashId amount).delegationsTo other = custody.delegationsTo other := rfl

@[simp] theorem delegationsTo_releaseFunds :
    (custody.releaseFunds slashId).delegationsTo other = custody.delegationsTo other := rfl

end Custody

namespace UnstakeQueue

variable (queue : UnstakeQueue)

def headTicket : Nat := queue.head.getD 0

def tailTicket : Nat := queue.tail.getD 0

end UnstakeQueue

abbrev VaultProgram := Program World StakeVaultError

namespace World

variable (world : World)

def setSettings (settings : Settings) : World :=
  { world with vault := { world.vault with settings } }

def setCustody (custody : Custody) : World :=
  { world with vault := { world.vault with custody } }

def setSlashing (slashing : Slashing) : World :=
  { world with vault := { world.vault with slashing } }

def setQueue (queue : UnstakeQueue) : World :=
  { world with vault := { world.vault with queue } }

def setClaims (claims : QueuedClaims) : World :=
  { world with vault := { world.vault with claims } }

def setActivity (activity : Activity) : World :=
  { world with vault := { world.vault with activity } }

def setIndex (index : RewardIndex.Storage) : World :=
  { world with vault := { world.vault with index } }

def setLimits (limits : RateLimit.Storage) : World :=
  { world with vault := { world.vault with limits } }

def setMultisig (multisig : Multisig.Storage) : World :=
  { world with vault := { world.vault with multisig } }

def setTokens (tokens : Tokens) : World := { world with tokens }

end World

end StellarSwipe.StakeVault
