import StellarSwipe.Library.KeyedSum
import StellarSwipe.Token

/-!
# The reward vault

A deposit puts tokens into the vault as a bucket for one provider in one asset.
-/

namespace StellarSwipe.StakeVault

open Program FixedWidth

inductive RewardVaultError where
  | unsupportedAsset
  | invalidAmount
  | batchSizeInvalid
  | bucketNotFound
  | notBucketOwner
  | alreadyClaimed
  | duplicateBucket
  | overflow
  | token (failure : TokenFailure)

/-- Bound on the bucket ids of one batch. -/
def maxRewardBatch : Nat := 50

structure RewardBucket where
  provider : Address
  asset : Address
  amount : Int
  epoch : Nat

/-- The module's storage entries. A claimed bucket has an entry for its provider. -/
structure RewardVault where
  supportedAssets : List Address
  assetTotalDeposited : Table Address Int
  providerAssetBalance : Table (Address × Address) Int
  bucketCounter : Option Nat
  bucket : Table Nat RewardBucket
  claimed : Table (Address × Nat) Unit

/-- The reward vault in the contract at its address among the tokens. -/
structure RewardWorld where
  self : Address
  rewards : RewardVault
  tokens : Tokens

abbrev RewardProgram := Program RewardWorld RewardVaultError

namespace RewardVault

def empty : RewardVault := ⟨[], ∅, ∅, none, ∅, ∅⟩

variable (rewards : RewardVault)

def nextBucketId : Nat := rewards.bucketCounter.getD 0

def balanceOf (provider asset : Address) : Int :=
  (rewards.providerAssetBalance.lookup (provider, asset)).getD 0

def totalDeposited (asset : Address) : Int := (rewards.assetTotalDeposited.lookup asset).getD 0

def withBucket (id : Nat) (bucket : RewardBucket) : RewardVault :=
  { rewards with bucket := rewards.bucket.insert id bucket }

def withBalance (provider asset : Address) (balance : Int) : RewardVault :=
  { rewards with
    providerAssetBalance := rewards.providerAssetBalance.insert (provider, asset) balance }

def withClaimed (provider : Address) (id : Nat) : RewardVault :=
  { rewards with claimed := rewards.claimed.insert (provider, id) () }

end RewardVault

def updateRewards (change : RewardVault → RewardVault) : RewardProgram Unit :=
  modify fun world => { world with rewards := change world.rewards }

def addSupportedAsset (asset : Address) : RewardProgram Unit := do
  let assets := (← get).rewards.supportedAssets
  if asset ∈ assets then pure ()
  else updateRewards fun rewards => { rewards with supportedAssets := assets ++ [asset] }

/-- Deposit tokens as a bucket for a provider. A transfer that fails aborts. -/
def depositReward (env : Env) (depositor provider asset : Address) (amount : Int) (epoch : Nat) :
    RewardProgram Nat := do
  let rewards := (← get).rewards
  ensure (asset ∈ rewards.supportedAssets) .unsupportedAsset
  ensure (¬ amount ≤ 0) .invalidAmount
  let bucketId := rewards.nextBucketId
  updateRewards fun rewards =>
    { rewards with bucketCounter := some (satCount u64Max bucketId 1) }
  updateRewards fun rewards => rewards.withBucket bucketId
    { provider
      asset
      amount := amount
      epoch }
  updateRewards fun rewards => { rewards with
    assetTotalDeposited := rewards.assetTotalDeposited.insert asset
      (i128.saturatingAdd (rewards.totalDeposited asset) amount) }
  updateRewards fun rewards => rewards.withBalance provider asset
    (i128.saturatingAdd (rewards.balanceOf provider asset) amount)
  let world ← get
  let tokens ← orTrap (world.tokens.transfer env asset depositor world.self amount).toOption
  modify fun world => { world with tokens }
  pure bucketId

/-- Add an amount to an asset's total, at its place or behind the others. -/
def addToTotal (asset : Address) (amount : Int) : List (Address × Int) →
    Except RewardVaultError (List (Address × Int))
  | [] => .ok [(asset, amount)]
  | (key, total) :: rest =>
    if key = asset then
      match i128.checkedAdd total amount with
      | some sum => .ok ((key, sum) :: rest)
      | none => .error .overflow
    else do
      let added ← addToTotal asset amount rest
      pure ((key, total) :: added)

def claimableBucket (rewards : RewardVault) (provider : Address) (seen : List Nat) (id : Nat) :
    Except RewardVaultError RewardBucket :=
  if id ∈ seen then .error .duplicateBucket
  else match rewards.bucket.lookup id with
    | none => .error .bucketNotFound
    | some bucket =>
      if bucket.provider ≠ provider then .error .notBucketOwner
      else if (rewards.claimed.lookup (provider, id)).isSome then .error .alreadyClaimed
      else if bucket.asset ∉ rewards.supportedAssets then .error .unsupportedAsset
      else .ok bucket

/-- Check the ids of a batch in order and total their amounts by asset. -/
def totalBatch (rewards : RewardVault) (provider : Address) :
    List Nat → List Nat → List (Address × Int) → Except RewardVaultError (List (Address × Int))
  | _, [], totals => .ok totals
  | seen, id :: rest, totals => do
    let bucket ← claimableBucket rewards provider seen id
    let added ← addToTotal bucket.asset bucket.amount totals
    totalBatch rewards provider (seen ++ [id]) rest added

def newBalances (rewards : RewardVault) (provider : Address) :
    List (Address × Int) → Except RewardVaultError (List (Address × Int))
  | [] => .ok []
  | (asset, total) :: rest =>
    match i128.checkedSub (rewards.balanceOf provider asset) total with
    | none => .error .overflow
    | some balance =>
      if 0 ≤ balance then do
        let balances ← newBalances rewards provider rest
        pure ((asset, balance) :: balances)
      else .error .overflow

/-- Mark every bucket of a batch. -/
def markClaimed (provider : Address) : List Nat → RewardVault → RewardVault
  | [], rewards => rewards
  | id :: rest, rewards => markClaimed provider rest (rewards.withClaimed provider id)

def writeBalances (provider : Address) : List (Address × Int) → RewardVault → RewardVault
  | [], rewards => rewards
  | (asset, balance) :: rest, rewards =>
    writeBalances provider rest (rewards.withBalance provider asset balance)

def payTotals (env : Env) (self provider : Address) :
    List (Address × Int) → Tokens → Except RewardVaultError Tokens
  | [], tokens => .ok tokens
  | (asset, total) :: rest, tokens =>
    match tokens.transfer env asset self provider total with
    | .error failure => .error (.token failure)
    | .ok paid => payTotals env self provider rest paid

/-- Claim a batch of buckets. Returns the totals transferred, in the order in which the
batch names their assets. -/
def batchClaimRewards (env : Env) (provider : Address) (bucketIds : List Nat) :
    RewardProgram (List (Address × Int)) := do
  ensure (¬ (bucketIds.length = 0 ∨ maxRewardBatch < bucketIds.length)) .batchSizeInvalid
  let world ← get
  let totals ← ofExcept (totalBatch world.rewards provider [] bucketIds [])
  let balances ← ofExcept (newBalances world.rewards provider totals)
  updateRewards fun rewards => markClaimed provider bucketIds rewards
  updateRewards fun rewards => writeBalances provider balances rewards
  let tokens ← ofExcept (payTotals env world.self provider totals world.tokens)
  modify fun world => { world with tokens }
  pure totals

/-- The host's check that an address authorized this call. The contract is not its own
caller. -/
def requireRewardAuth (env : Env) (address : Address) : RewardProgram Unit := do
  let world ← get
  demand (address ∈ env.auths ∧ address ≠ world.self)

/-- One call of the reward vault. The entry point's check of the caller comes first. -/
inductive RewardCall where
  | addSupportedAsset (asset : Address)
  | depositReward (depositor provider asset : Address) (amount : StellarSwipe.Amount) (epoch : Nat)
  | batchClaimRewards (provider : Address) (bucketIds : List Nat)

/-- A call in its surroundings. -/
structure RewardInput where
  env : Env
  call : RewardCall

/-- What a call returns: the totals that it paid out by asset. -/
def RewardInput.exec (input : RewardInput) : RewardProgram (List (Address × Int)) :=
  match input.call with
  | .addSupportedAsset asset => do
    addSupportedAsset asset
    pure []
  | .depositReward depositor provider asset amount epoch => do
    requireRewardAuth input.env depositor
    discard (depositReward input.env depositor provider asset amount epoch)
    pure []
  | .batchClaimRewards provider bucketIds => do
    requireRewardAuth input.env provider
    batchClaimRewards input.env provider bucketIds

def rewardStep (input : RewardInput) (world : RewardWorld) : RewardWorld :=
  invoke input.exec world

end StellarSwipe.StakeVault
