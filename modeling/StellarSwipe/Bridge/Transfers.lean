import StellarSwipe.Bridge.Liquidity
import StellarSwipe.Library.Runs

/-!
# The bridge's storage and its transfers

The storage of the bridge contract, how it is read and written, and who may call.
-/

namespace StellarSwipe.Bridge

open FixedWidth Program

/-- Everything that the bridge contract stores. -/
structure BridgeStore where
  config : Option BridgeConfig
  wrappedAssets : Table String WrappedAsset
  transfers : Table Nat BridgeTransfer
  replayLocks : Table SourceMessage Bool
  usedSignatures : Table (Address × Nat × ValidatorApprovalKind × String) Bool
  wrappedBalances : Table (Address × String) Int
  dailyVolume : Option DailyVolume
  liquidityBuffer : Option Int
  totalMinted : Option Int
  supportedChains : List ChainId
  paused : Bool
  governanceAddress : Option Address
  deploymentId : Option Address
  consumedMessages : Table String Bool
  routeConfigs : Table Route WithdrawalRouteConfig
  withdrawalWindows : Table Route WithdrawalWindow
  liquidity : LiquidityState

abbrev BridgeProgram := Program BridgeStore BridgeError

namespace BridgeStore

/-- The storage before the contract is initialized. -/
def empty : BridgeStore where
  config := none
  wrappedAssets := ∅
  transfers := ∅
  replayLocks := ∅
  usedSignatures := ∅
  wrappedBalances := ∅
  dailyVolume := none
  liquidityBuffer := none
  totalMinted := none
  supportedChains := []
  paused := false
  governanceAddress := none
  deploymentId := none
  consumedMessages := ∅
  routeConfigs := ∅
  withdrawalWindows := ∅
  liquidity := .empty

variable (store : BridgeStore)

def transfer (transferId : Nat) : Option BridgeTransfer := store.transfers.lookup transferId

/-- The amount minted and not burnt, zero before the first mint. -/
def minted : Int := store.totalMinted.getD 0

def putTransfer (transferId : Nat) (transfer : BridgeTransfer) : BridgeStore :=
  { store with transfers := store.transfers.insert transferId transfer }

end BridgeStore

/-- The host's check that an address authorized this call. -/
def requireAuth {σ : Type} (env : Env) (address : Address) : Program σ BridgeError Unit :=
  demand (address ∈ env.auths)

def getConfig : BridgeProgram BridgeConfig := do
  orFail (← get).config .alreadyInitialized

variable (approvals : List ValidatorApproval) (requiredSignatures : Nat) (key : MessageKey)
  (env : Env) (admin : Address)

def requireAdmin : BridgeProgram BridgeConfig := do
  let config ← getConfig
  ensure (config.admin = admin) .unauthorizedValidator
  pure config

def requireNotPaused : BridgeProgram Unit := do
  ensure ((← get).paused = false) .contractPaused

variable (transferId : Nat)

def getTransfer : BridgeProgram BridgeTransfer := do
  orFail ((← get).transfer transferId) .transferNotFound

def storeTransfer (transfer : BridgeTransfer) : BridgeProgram Unit :=
  modify fun store => store.putTransfer transferId transfer

/-- A chain is allowed if it is listed, or if none is. -/
def ensureChainAllowed (destinationChain : ChainId) : BridgeProgram Unit := do
  let chains := (← get).supportedChains
  ensure (chains = [] ∨ destinationChain ∈ chains) .unsupportedDestinationChain

def ensureWrappedAssetExists (wrappedAsset : String) : BridgeProgram Unit := do
  ensure (((← get).wrappedAssets.lookup wrappedAsset).isSome = true) .invalidOperation

/-- Run a program of the pools within the contract. -/
def onLiquidity {α : Type} (program : LiquidityProgram α) : BridgeProgram α :=
  zoom BridgeStore.liquidity (fun liquidity store => { store with liquidity }) id
    program

section Rules

variable {pre : BridgeStore}

theorem wp_auth {σ : Type} {store : σ} {post : Unit → σ → Prop} (env : Env)
    (address : Address) : wp (requireAuth env address) post (fun _ _ => True) store ↔
      (address ∈ env.auths → post () store) := by
  simp [requireAuth]

theorem wp_getConfig {post : BridgeConfig → BridgeStore → Prop} :
    wp getConfig post (fun _ _ => True) pre ↔
      ∀ config, pre.config = some config → post config pre := by
  simp [getConfig]

theorem wp_requireAdmin {post : BridgeConfig → BridgeStore → Prop} (admin : Address) :
    wp (requireAdmin admin) post (fun _ _ => True) pre ↔
      ∀ config, pre.config = some config → config.admin = admin → post config pre := by
  simp [requireAdmin, wp_getConfig]

variable {post : Unit → BridgeStore → Prop}

theorem wp_notPaused : wp requireNotPaused post (fun _ _ => True) pre ↔
      (pre.paused = false → post () pre) := by
  simp [requireNotPaused]

theorem wp_getTransfer {post : BridgeTransfer → BridgeStore → Prop} (transferId : Nat) :
    wp (getTransfer transferId) post (fun _ _ => True) pre ↔
      ∀ transfer, pre.transfer transferId = some transfer → post transfer pre := by
  simp [getTransfer]

theorem wp_storeTransfer {fault : Fault BridgeError → BridgeStore → Prop} (transferId : Nat)
    (transfer : BridgeTransfer) : wp (storeTransfer transferId transfer) post fault pre ↔
      post () (pre.putTransfer transferId transfer) :=
  Iff.rfl

theorem wp_ensureChainAllowed (destinationChain : ChainId) :
    wp (ensureChainAllowed destinationChain) post (fun _ _ => True) pre ↔
      (pre.supportedChains = [] ∨ destinationChain ∈ pre.supportedChains → post () pre) := by
  simp [ensureChainAllowed]

theorem wp_ensureWrappedAssetExists (wrappedAsset : String) :
    wp (ensureWrappedAssetExists wrappedAsset) post (fun _ _ => True) pre ↔
      ((pre.wrappedAssets.lookup wrappedAsset).isSome = true → post () pre) := by
  simp [ensureWrappedAssetExists]

theorem wp_raw {σ : Type} {store : σ} {post : Int → σ → Prop} (value : Int) :
    wp (raw value) post (fun _ _ => True) store ↔ (i128.Holds value → post value store) := by
  simp only [raw, wp_orTrap, asks_true]
  constructor
  · intro every held
    exact every value (if_pos held)
  · intro holds hit same
    obtain ⟨held, rfl⟩ := i128.checked_ok same
    exact holds held

/-- A program of the pools writes the pools alone. -/
theorem wp_onLiquidity {α : Type} {post : α → BridgeStore → Prop} (program : LiquidityProgram α) :
    wp (onLiquidity program) post (fun _ _ => True) pre ↔
      wp program (fun value liquidity => post value { pre with liquidity })
        (fun _ _ => True) pre.liquidity := by
  rw [onLiquidity, wp_zoom]
  have same : (fun (reason : Fault BridgeError) (after : LiquidityState) =>
      reason.holds (fun _ => True) True) = fun _ _ => True := by
    funext reason after
    cases reason <;> rfl
  rw [same]

theorem BridgeStore.transfer_putTransfer (store : BridgeStore) (transferId other : Nat)
    (transfer : BridgeTransfer) : (store.putTransfer transferId transfer).transfer other =
      if other = transferId then some transfer else store.transfer other :=
  Table.lookup_insert _ _ _ _

end Rules

/-! ## Transfers across the bridge

A message of another chain is registered, approved by validators and executed, which mints wrapped
assets. Burning them registers a transfer out, approved and executed in the same way after a
delay. A transfer may be marked as failed and, if not for good, retried. The key of a consumed
message is a digest that the host computes, a parameter of the programs that use it. The guard
against reentrant calls is never locked by this contract and is left out, as are digests and
attestations that nothing reads.
-/

open Runs

/-- The host's digest of a message for a deployment. -/
abbrev MessageKey := Address → SourceMessage → String

def buildValidatorSet (validators : List Address) (requiredSignatures : Nat) :
    Except BridgeError ValidatorSet :=
  if validators = [] ∨ requiredSignatures = 0 ∨ validators.length < requiredSignatures ∨
      ¬ validators.Nodup then .error .invalidValidatorSet
  else .ok ⟨validators, requiredSignatures⟩

def initializeBridge (validators : List Address) (requiredValidatorSignatures : Nat)
    (maxTransferAmount dailyTransferLimit : Int) (withdrawDelaySeconds : Nat) :
    BridgeProgram Unit := do
  ensure ((← get).config = none) .alreadyInitialized
  requireAuth env admin
  let validatorSet ← ofExcept (buildValidatorSet validators requiredValidatorSignatures)
  ensure (¬ (maxTransferAmount ≤ 0 ∨ dailyTransferLimit ≤ 0)) .invalidAmount
  modify fun store => { store with
    config := some
      { admin
        validatorSet
        security := ⟨maxTransferAmount, dailyTransferLimit, requiredValidatorSignatures,
          withdrawDelaySeconds⟩
        nextTransferId := 1 }
    dailyVolume := some ⟨dayBucket env.timestamp, 0⟩
    deploymentId := some admin }

/-- The bounds on a token's decimals, symbol and name; the symbol serves as both. -/
def IsValidMetadata (symbol : String) (decimals : Nat) : Prop :=
  decimals ≤ 18 ∧ 1 ≤ symbol.utf8ByteSize ∧ symbol.utf8ByteSize ≤ 12
deriving Decidable

def registerWrappedAsset (sourceChain : ChainId) (sourceAsset wrappedAsset : String)
    (decimals : Nat) : BridgeProgram Unit := do
  let config ← requireAdmin admin
  requireAuth env admin
  ensure (IsValidMetadata sourceAsset decimals) .invalidTokenMetadata
  ensure (IsValidMetadata wrappedAsset decimals) .invalidTokenMetadata
  modify fun store => { store with
    wrappedAssets := store.wrappedAssets.insert wrappedAsset ⟨sourceChain, sourceAsset, decimals⟩
    config := some config }

def setGovernance (governance : Address) : BridgeProgram Unit := do
  discard (requireAdmin admin)
  requireAuth env admin
  modify fun store => { store with governanceAddress := some governance }

def applyGovernancePause (paused : Bool) : BridgeProgram Unit := do
  let governance ← orFail (← get).governanceAddress .unauthorizedValidator
  requireAuth env governance
  modify fun store => { store with paused }

def updateLiquidityBuffer (buffer : Int) : BridgeProgram Unit := do
  discard (requireAdmin admin)
  requireAuth env admin
  ensure (¬ buffer < 0) .invalidAmount
  modify fun store => { store with liquidityBuffer := some buffer }

def addSupportedChain (chain : ChainId) : BridgeProgram Unit := do
  discard (requireAdmin admin)
  requireAuth env admin
  modify fun store => { store with
    supportedChains := if chain ∈ store.supportedChains then store.supportedChains
      else store.supportedChains ++ [chain] }

def removeSupportedChain (chain : ChainId) : BridgeProgram Unit := do
  discard (requireAdmin admin)
  requireAuth env admin
  modify fun store => { store with
    supportedChains := store.supportedChains.filter fun other => decide (other ≠ chain) }

def setDeploymentId (deploymentId : Address) : BridgeProgram Unit := do
  discard (requireAdmin admin)
  requireAuth env admin
  modify fun store => { store with deploymentId := some deploymentId }

/-- Set the limits of a route. The volume of its running window is kept. -/
def setWithdrawalRouteLimit (route : Route) (perMessageLimit aggregateWindowLimit : Int)
    (windowSeconds : Nat) : BridgeProgram Unit := do
  discard (requireAdmin admin)
  requireAuth env admin
  ensure (¬ (perMessageLimit < 0 ∨ aggregateWindowLimit < 0)) .invalidAmount
  modify fun store => { store with
    routeConfigs := store.routeConfigs.insert route
      ⟨perMessageLimit, aggregateWindowLimit, windowSeconds⟩
    withdrawalWindows := if (store.withdrawalWindows.lookup route).isSome then
        store.withdrawalWindows
      else store.withdrawalWindows.insert route ⟨env.timestamp, 0⟩ }

/-- A sum that is the largest amount when it overflows. -/
def sumOrMax (left right : Int) : Int := (i128.checkedAdd left right).getD i128.high

/-- The window of a route at a time: the stored one, or a fresh one after its end. -/
def WithdrawalRouteConfig.windowAt (config : WithdrawalRouteConfig)
    (has : Option WithdrawalWindow) (now : Nat) : WithdrawalWindow :=
  let window := has.getD ⟨now, 0⟩
  if config.windowSeconds ≤ now - window.windowStart then ⟨now, 0⟩ else window

/-- Count an amount against the limits of its route. -/
def consumeRoute (amount : Int) (route : Route) : BridgeProgram Unit := do
  match (← get).routeConfigs.lookup route with
  | none => pure ()
  | some config => do
    ensure (¬ (0 < config.perMessageLimit ∧ config.perMessageLimit < amount)) .perRouteLimitExceeded
    if 0 < config.aggregateWindowLimit ∧ 0 < config.windowSeconds then do
      let window := config.windowAt ((← get).withdrawalWindows.lookup route) env.timestamp
      let total := sumOrMax window.totalVolume amount
      ensure (¬ config.aggregateWindowLimit < total) .aggregateWindowLimitExceeded
      modify fun store => { store with
        withdrawalWindows := store.withdrawalWindows.insert route ⟨window.windowStart, total⟩ }
    else pure ()

/-- The volume of a timestamp's day so far. -/
def DailyVolume.today (has : Option DailyVolume) (now : Nat) : DailyVolume :=
  let volume := has.getD ⟨dayBucket now, 0⟩
  if volume.dayStart ≠ dayBucket now then ⟨dayBucket now, 0⟩ else volume

/-- The largest single amount that the liquidity buffer allows, if one is set. -/
def dynamicLimit (buffer : Int) : Int := max (buffer.tdiv 10) 1

/-- Count an amount against all limits on volume. -/
def validateAmountAndLimits (amount : Int) (route : Route) : BridgeProgram Unit := do
  ensure (¬ amount ≤ 0) .invalidAmount
  let config ← getConfig
  ensure (¬ config.security.maxTransferAmount < amount) .maxTransferExceeded
  consumeRoute env amount route
  let volume := DailyVolume.today (← get).dailyVolume env.timestamp
  let total := sumOrMax volume.totalAmount amount
  ensure (¬ config.security.dailyTransferLimit < total) .dailyLimitExceeded
  let buffer := (← get).liquidityBuffer.getD i128.high
  ensure (buffer = i128.high ∨ ¬ dynamicLimit buffer < amount) .dynamicLiquidityLimitExceeded
  modify fun store => { store with dailyVolume := some ⟨volume.dayStart, total⟩ }

def takeTransferId : BridgeProgram Nat := do
  let config ← getConfig
  demand (config.nextTransferId + 1 ≤ u64Max)
  modify fun store =>
    { store with config := some { config with nextTransferId := config.nextTransferId + 1 } }
  pure config.nextTransferId

/-- What a caller says of a message from another chain. -/
structure LockMintRequest where
  user : Address
  destinationChain : ChainId
  sourceAsset : String
  wrappedAsset : String
  amount : Amount
  message : SourceMessage
  destinationRecipient : String

namespace LockMintRequest

variable (request : LockMintRequest)

def route : Route :=
  ⟨request.message.sourceChain, request.destinationChain, request.wrappedAsset⟩

/-- The transfer as it is registered at a time. -/
def transfer (now expiresAt : Nat) : BridgeTransfer where
  kind := .lockMint
  user := request.user
  sourceChain := request.message.sourceChain
  destinationChain := request.destinationChain
  sourceAsset := request.sourceAsset
  wrappedAsset := request.wrappedAsset
  amount := request.amount
  sourceTxHash := request.message.sourceTxHash
  sourceNonce := request.message.sourceNonce
  destinationRecipient := request.destinationRecipient
  approvals := []
  status := .pendingValidators
  createdAt := now
  executedAt := none
  failureReason := none
  retryable := false
  expiresAt

end LockMintRequest

def validateMessageExpiry (expiresAt : Nat) : BridgeProgram Unit := do
  ensure (¬ expiresAt ≤ env.timestamp) .messageExpired
  ensure (¬ maxMessageValiditySeconds < expiresAt - env.timestamp) .invalidMessageExpiry

def initiateLockMintInner (request : LockMintRequest) (expiresAt : Nat) : BridgeProgram Nat := do
  requireNotPaused
  requireAuth env request.user
  validateMessageExpiry env expiresAt
  ensureChainAllowed request.destinationChain
  validateAmountAndLimits env request.amount request.route
  ensureWrappedAssetExists request.wrappedAsset
  let deploymentId ← orTrap (← get).deploymentId
  ensure ((← get).replayLocks.lookup request.message = none) .replayDetected
  ensure ((← get).consumedMessages.lookup (key deploymentId request.message) = none)
    .messageAlreadyConsumed
  let transferId ← takeTransferId
  storeTransfer transferId (request.transfer env.timestamp expiresAt)
  modify fun store =>
    { store with replayLocks := store.replayLocks.insert request.message true }
  pure transferId

def initiateLockMint (request : LockMintRequest) : BridgeProgram Nat :=
  initiateLockMintInner key env request
    (satCount u64Max env.timestamp defaultMessageValiditySeconds)

/-- Register a message with the expiry that it was signed with. -/
def initiateLockMintWithExpiry (request : LockMintRequest) (expiresAt : Nat) : BridgeProgram Nat :=
  initiateLockMintInner key env request expiresAt

/-- What a caller says of a transfer out. -/
structure BurnUnlockRequest where
  user : Address
  route : Route
  sourceAsset : String
  amount : Amount
  destinationRecipient : String

/-- The transfer out as it is registered under an id at a time. It does not expire. -/
def BurnUnlockRequest.transfer (request : BurnUnlockRequest) (transferId now : Nat) :
    BridgeTransfer where
  kind := .burnUnlock
  user := request.user
  sourceChain := request.route.sourceChain
  destinationChain := request.route.destinationChain
  sourceAsset := request.sourceAsset
  wrappedAsset := request.route.wrappedAsset
  amount := request.amount
  sourceTxHash := ""
  sourceNonce := transferId
  destinationRecipient := request.destinationRecipient
  approvals := []
  status := .pendingValidators
  createdAt := now
  executedAt := none
  failureReason := none
  retryable := false
  expiresAt := 0

/-- Add an amount, which may be negative, to a wrapped balance and to the total minted. -/
def adjustWrapped (user : Address) (wrappedAsset : String) (amount : Int) : BridgeProgram Unit := do
  let balance ← raw ((← get).wrappedBalances.read (user, wrappedAsset) + amount)
  modify fun store => { store with
    wrappedBalances := store.wrappedBalances.insert (user, wrappedAsset) balance }
  let total ← raw ((← get).minted + amount)
  modify fun store => { store with totalMinted := some total }

/-- Burn wrapped assets and register their transfer out. -/
def initiateBurnUnlock (env : Env) (request : BurnUnlockRequest) : BridgeProgram Nat := do
  requireNotPaused
  requireAuth env request.user
  ensureChainAllowed request.route.destinationChain
  validateAmountAndLimits env request.amount request.route
  ensure (¬ (← get).wrappedBalances.read (request.user, request.route.wrappedAsset) <
    request.amount) .insufficientWrappedBalance
  adjustWrapped request.user request.route.wrappedAsset (-request.amount)
  let transferId ← takeTransferId
  storeTransfer transferId (request.transfer transferId env.timestamp)
  pure transferId

def ensureNotExpired (transfer : BridgeTransfer) : BridgeProgram Unit :=
  ensure (¬ (transfer.expiresAt ≠ 0 ∧ transfer.expiresAt ≤ env.timestamp)) .messageExpired

def verifyAndRecordApproval (validatorSet : ValidatorSet) (approvals : List ValidatorApproval)
    (validator : Address) (transferId : Nat) (signature : String) (kind : ValidatorApprovalKind) :
    BridgeProgram (List ValidatorApproval) := do
  ensure (validator ∈ validatorSet.validators) .unauthorizedValidator
  ensure ((← get).usedSignatures.lookup (validator, transferId, kind, signature) = none)
    .signatureAlreadyUsed
  ensure (∀ approval ∈ approvals, approval.validator ≠ validator) .signatureAlreadyUsed
  modify fun store => { store with
    usedSignatures := store.usedSignatures.insert (validator, transferId, kind, signature) true }
  pure (approvals ++ [⟨validator, signature, env.timestamp, kind⟩])

def HasQuorum : Prop :=
  requiredSignatures ≤ approvals.length
deriving Decidable

/-- A transfer with one more approval, ready once there are enough. -/
def BridgeTransfer.approvedBy (transfer : BridgeTransfer) (approvals : List ValidatorApproval)
    (requiredSignatures : Nat) : BridgeTransfer :=
  { transfer with
    approvals
    status := if HasQuorum approvals requiredSignatures then .readyToExecute else transfer.status }

/-- The steps of both kinds of approval after their own checks. -/
def recordApproval (config : BridgeConfig) (transfer : BridgeTransfer) (validator : Address)
    (transferId : Nat) (signature : String) (kind : ValidatorApprovalKind) :
    BridgeProgram Unit := do
  let approvals ← verifyAndRecordApproval env config.validatorSet transfer.approvals validator
    transferId signature kind
  storeTransfer transferId
    (transfer.approvedBy approvals config.security.requiredValidatorSignatures)

def approveLockMint (validator : Address) (transferId : Nat) (signature : String) :
    BridgeProgram Unit := do
  requireAuth env validator
  let config ← getConfig
  let transfer ← getTransfer transferId
  ensure (¬ (transfer.kind ≠ .lockMint ∨ transfer.status = .completed)) .invalidOperation
  ensureNotExpired env transfer
  recordApproval env config transfer validator transferId signature .lockMint

def approveBurnUnlock (validator : Address) (transferId : Nat) (signature : String) :
    BridgeProgram Unit := do
  requireAuth env validator
  let config ← getConfig
  let transfer ← getTransfer transferId
  ensure (¬ (transfer.kind ≠ .burnUnlock ∨ transfer.status = .completed)) .invalidOperation
  recordApproval env config transfer validator transferId signature .burnUnlock

def ensureReady (transfer : BridgeTransfer) (unready : BridgeError) : BridgeProgram Unit := do
  ensure (transfer.status ≠ .completed) .transferAlreadyExecuted
  ensure (transfer.status ≠ .failed) .transferPermanentlyFailed
  ensure (transfer.status = .readyToExecute) unready

def BridgeTransfer.completedAt (transfer : BridgeTransfer) (now : Nat) : BridgeTransfer :=
  { transfer with
    status := .completed
    executedAt := some now }

/-- Mint for an approved message before it expires. -/
def executeLockMint : BridgeProgram Unit := do
  requireNotPaused
  discard (requireAdmin admin)
  requireAuth env admin
  let transfer ← getTransfer transferId
  ensure (transfer.kind = .lockMint) .invalidOperation
  ensureReady transfer .notEnoughValidatorApprovals
  ensureNotExpired env transfer
  adjustWrapped transfer.user transfer.wrappedAsset transfer.amount
  storeTransfer transferId (transfer.completedAt env.timestamp)
  let deploymentId ← orTrap (← get).deploymentId
  if transfer.sourceTxHash ≠ "" then
    modify fun store => { store with
      consumedMessages := store.consumedMessages.insert (key deploymentId transfer.message) true }
  else pure ()

/-- Complete an approved transfer out after its delay. -/
def executeBurnUnlock : BridgeProgram Unit := do
  requireNotPaused
  let config ← requireAdmin admin
  requireAuth env admin
  let transfer ← getTransfer transferId
  ensure (transfer.kind = .burnUnlock) .invalidOperation
  ensureReady transfer .withdrawalNotReady
  let readyAt := transfer.createdAt + config.security.withdrawDelaySeconds
  demand (readyAt ≤ u64Max)
  ensure (¬ env.timestamp < readyAt) .withdrawalNotReady
  storeTransfer transferId (transfer.completedAt env.timestamp)

def markTransferFailed (reason : String) (retryable : Bool) : BridgeProgram Unit := do
  discard (requireAdmin admin)
  requireAuth env admin
  let transfer ← getTransfer transferId
  ensure (¬ (transfer.status = .completed ∨ transfer.status = .cancelled)) .invalidOperation
  ensure (¬ (transfer.status = .failed ∧ transfer.retryable = false)) .transferPermanentlyFailed
  storeTransfer transferId { transfer with
    status := .failed
    failureReason := some reason
    retryable }

def retryTransfer : BridgeProgram Unit := do
  discard (requireAdmin admin)
  requireAuth env admin
  let transfer ← getTransfer transferId
  ensure (transfer.status = .failed) .transferNotRetryable
  ensure (transfer.retryable = true) .transferPermanentlyFailed
  storeTransfer transferId { transfer with
    status := .readyToExecute
    failureReason := none
    retryable := false }

end StellarSwipe.Bridge
