import StellarSwipe.Library.Runs
import StellarSwipe.StakeVault.RewardVault

/-!
# The buckets of the reward vault

A provider's balance in an asset is the sum of the amounts of its buckets in that asset that it
has not claimed.
-/

namespace StellarSwipe.StakeVault

open Program FixedWidth Runs Table Tokens

section Sums

variable (rewards : RewardVault)

def RewardVault.worth (provider asset : Address) (id : Nat) (bucket : RewardBucket) : Int :=
  if bucket.provider = provider ∧ bucket.asset = asset ∧
    rewards.claimed.lookup (provider, id) = none then bucket.amount else 0

def RewardVault.unclaimed (provider asset : Address) : Int :=
  Table.sum (rewards.worth provider asset) rewards.bucket

def RewardVault.amountIn (asset : Address) (id : Nat) : Int :=
  match rewards.bucket.lookup id with
  | some bucket => if bucket.asset = asset then bucket.amount else 0
  | none => 0

def RewardVault.batchAmount (asset : Address) (ids : List Nat) : Int :=
  (ids.map (rewards.amountIn asset)).sum

def RewardVault.Claimable (provider : Address) (id : Nat) : Prop :=
  ∃ bucket, rewards.bucket.lookup id = some bucket ∧ bucket.provider = provider ∧
    rewards.claimed.lookup (provider, id) = none

def RewardVault.claimedMark (id : Nat) : Nat :=
  match rewards.bucket.lookup id with
  | some bucket => if rewards.claimed.lookup (bucket.provider, id) = none then 0 else 1
  | none => 0

end Sums

def totalFor (asset : Address) : List (Address × Int) → Int
  | [] => 0
  | (key, total) :: rest => (if key = asset then total else 0) + totalFor asset rest

theorem totalFor_absent {asset : Address} {totals : List (Address × Int)}
    (absent : asset ∉ totals.map Prod.fst) : totalFor asset totals = 0 := by
  induction totals with
  | nil => rfl
  | cons entry rest ih =>
    rw [List.map_cons, List.mem_cons, not_or] at absent
    rw [totalFor, if_neg (Ne.symm absent.1), ih absent.2, add_zero]

section Batch

variable {rewards : RewardVault} {provider : Address}

theorem addToTotal_ok {asset : Address} {amount : Int} {totals added : List (Address × Int)}
    (gave : addToTotal asset amount totals = .ok added) : (∀ other, totalFor other added =
        totalFor other totals + if asset = other then amount else 0) ∧
      (∀ key, key ∈ added.map Prod.fst ↔ key = asset ∨ key ∈ totals.map Prod.fst) ∧
        ((totals.map Prod.fst).Nodup → (added.map Prod.fst).Nodup) := by
  induction totals generalizing added with
  | nil =>
    cases gave
    simp [totalFor]
  | cons entry rest ih =>
    obtain ⟨key, total⟩ := entry
    rw [addToTotal] at gave
    split at gave
    next same =>
      subst same
      split at gave
      next sum checked =>
        cases gave
        obtain ⟨_, rfl⟩ := i128.checked_ok checked
        refine ⟨fun other => ?_, fun other => by simp, id⟩
        rw [totalFor, totalFor]
        split <;> omega
      · cases gave
    next different =>
      obtain ⟨tail, continued, finished⟩ := bind_ok gave
      cases finished
      obtain ⟨sums, keys, distinct⟩ := ih continued
      refine ⟨fun other => ?_, fun other => ?_, fun nodup => ?_⟩
      · rw [totalFor, totalFor, sums other]
        omega
      · rw [List.map_cons, List.mem_cons, keys, List.map_cons, List.mem_cons]
        tauto
      · rw [List.map_cons, List.nodup_cons] at nodup ⊢
        rw [keys]
        exact ⟨not_or.mpr ⟨different, nodup.1⟩, distinct nodup.2⟩

theorem claimableBucket_ok {seen : List Nat} {id : Nat} {bucket : RewardBucket}
    (gave : claimableBucket rewards provider seen id = .ok bucket) :
    id ∉ seen ∧ rewards.bucket.lookup id = some bucket ∧ bucket.provider = provider ∧
      rewards.claimed.lookup (provider, id) = none := by
  rw [claimableBucket] at gave
  split at gave
  · cases gave
  next fresh =>
    split at gave
    · cases gave
    next has hit =>
      split at gave
      · cases gave
      next owned =>
        split at gave
        · cases gave
        next unclaimed =>
          split at gave
          · cases gave
          · cases gave
            exact ⟨fresh, hit, not_not.mp owned, by simpa using unclaimed⟩

structure Totalled (rewards : RewardVault) (provider : Address) (seen ids : List Nat)
    (pre after : List (Address × Int)) : Prop where
  sums : ∀ asset, totalFor asset after = totalFor asset pre + rewards.batchAmount asset ids
  distinct : (pre.map Prod.fst).Nodup → (after.map Prod.fst).Nodup
  nodup : ids.Nodup
  fresh : ∀ id ∈ ids, id ∉ seen
  claimable : ∀ id ∈ ids, rewards.Claimable provider id

/-- The induction is on the ids, for every list of ids seen and totals so far. -/
theorem totalBatch_ok {seen ids : List Nat} {totals final : List (Address × Int)}
    (gave : totalBatch rewards provider seen ids totals = .ok final) :
    Totalled rewards provider seen ids totals final := by
  induction ids generalizing seen totals with
  | nil =>
    cases gave
    exact ⟨fun _ => by simp [RewardVault.batchAmount], fun nodup => nodup, List.nodup_nil,
      by simp, by simp⟩
  | cons id rest ih =>
    obtain ⟨bucket, checked, continued⟩ := bind_ok gave
    obtain ⟨added, adding, going⟩ := bind_ok continued
    obtain ⟨unseen, hit, owned, unclaimed⟩ := claimableBucket_ok checked
    obtain ⟨sums, _, distinct⟩ := addToTotal_ok adding
    obtain ⟨later, laterDistinct, nodup, fresh, claimable⟩ := ih going
    refine ⟨fun asset => ?_, fun pre => laterDistinct (distinct pre), ?_, ?_, ?_⟩
    · have amount : rewards.amountIn asset id =
          if bucket.asset = asset then bucket.amount else 0 := by
        simp only [RewardVault.amountIn, hit]
      rw [later, sums, RewardVault.batchAmount, RewardVault.batchAmount, List.map_cons,
        List.sum_cons, amount]
      omega
    · rw [List.nodup_cons]
      refine ⟨fun mem => ?_, nodup⟩
      exact fresh id mem (by simp)
    · intro other mem
      rcases List.mem_cons.mp mem with rfl | inside
      · exact unseen
      · intro prior
        exact fresh other inside (List.mem_append_left _ prior)
    · intro other mem
      rcases List.mem_cons.mp mem with rfl | inside
      · exact ⟨bucket, hit, owned, unclaimed⟩
      · exact claimable other inside

theorem newBalances_ok {totals balances : List (Address × Int)}
    (gave : newBalances rewards provider totals = .ok balances) :
    balances = totals.map fun entry => (entry.1, rewards.balanceOf provider entry.1 - entry.2) := by
  induction totals generalizing balances with
  | nil =>
    cases gave
    rfl
  | cons entry rest ih =>
    obtain ⟨asset, total⟩ := entry
    rw [newBalances] at gave
    split at gave
    · cases gave
    next balance checked =>
      obtain ⟨_, rfl⟩ := i128.checked_ok checked
      split at gave
      · obtain ⟨tail, continued, finished⟩ := bind_ok gave
        cases finished
        rw [ih continued, List.map_cons]
      · cases gave

end Batch

section Writes

variable {rewards : RewardVault} {provider : Address}

/-- Marking buckets changes only which of them are claimed. -/
structure SameBuckets (pre after : RewardVault) : Prop where
  bucket : after.bucket = pre.bucket
  counter : after.bucketCounter = pre.bucketCounter
  balances : after.providerAssetBalance = pre.providerAssetBalance

theorem markClaimed_same (provider : Address) (ids : List Nat) (rewards : RewardVault) :
    SameBuckets rewards (markClaimed provider ids rewards) := by
  induction ids generalizing rewards with
  | nil => exact ⟨rfl, rfl, rfl⟩
  | cons id rest ih =>
    obtain ⟨bucket, counter, balances⟩ := ih (rewards.withClaimed provider id)
    exact ⟨bucket, counter, balances⟩

theorem lookup_withClaimed (rewards : RewardVault) (id : Nat) (key : Address × Nat) :
    (rewards.withClaimed provider id).claimed.lookup key =
      if key = (provider, id) then some () else rewards.claimed.lookup key :=
  lookup_insert rewards.claimed (provider, id) key ()

/-- A bucket is unclaimed after a batch when it was before and is not in it. -/
theorem markClaimed_lookup (ids : List Nat) (rewards : RewardVault) (owner : Address) (id : Nat) :
    (markClaimed provider ids rewards).claimed.lookup (owner, id) = none ↔
      rewards.claimed.lookup (owner, id) = none ∧ ¬ (owner = provider ∧ id ∈ ids) := by
  induction ids generalizing rewards with
  | nil => simp [markClaimed]
  | cons marked rest ih =>
    rw [markClaimed, ih, lookup_withClaimed]
    by_cases same : (owner, id) = (provider, marked)
    · cases same
      simp
    · rw [if_neg same]
      have other : ¬ (owner = provider ∧ id = marked) := fun both =>
        same (Prod.ext both.1 both.2)
      simp only [List.mem_cons]
      tauto

/-- Marking one claimable bucket takes its amount from its provider's unclaimed sum. -/
theorem unclaimed_withClaimed {id : Nat} (claimable : rewards.Claimable provider id)
    (owner asset : Address) : (rewards.withClaimed provider id).unclaimed owner asset =
      rewards.unclaimed owner asset - if owner = provider then rewards.amountIn asset id else 0 := by
  obtain ⟨bucket, hit, owned, unmarked⟩ := claimable
  have reweighed := sum_reweigh (rewards.worth owner asset)
    ((rewards.withClaimed provider id).worth owner asset) rewards.bucket id ?_
  · rw [contribution_of_some hit, contribution_of_some hit] at reweighed
    have pre : rewards.worth owner asset id bucket =
        if owner = provider then rewards.amountIn asset id else 0 := by
      simp only [RewardVault.worth, RewardVault.amountIn, hit, owned]
      by_cases same : provider = owner
      · subst same
        simp [unmarked]
      · rw [if_neg (fun all => same all.1), if_neg (Ne.symm same)]
    have after : (rewards.withClaimed provider id).worth owner asset id bucket = 0 := by
      simp only [RewardVault.worth, lookup_withClaimed, owned]
      refine if_neg ?_
      rintro ⟨rfl, _, absent⟩
      simp at absent
    rw [RewardVault.unclaimed, RewardVault.unclaimed, ← pre]
    rw [after, add_zero] at reweighed
    exact reweighed
  · intro other value different
    have key : (owner, other) ≠ (provider, id) := fun same => different (congrArg Prod.snd same)
    simp only [RewardVault.worth, lookup_withClaimed, if_neg key]

/-- Marking a batch takes the batch's amount. The induction is on the ids: each is still
claimable after the ones before it were marked. -/
theorem unclaimed_markClaimed {ids : List Nat} (nodup : ids.Nodup)
    (claimable : ∀ id ∈ ids, rewards.Claimable provider id) (owner asset : Address) :
    (markClaimed provider ids rewards).unclaimed owner asset = rewards.unclaimed owner asset -
        if owner = provider then rewards.batchAmount asset ids else 0 := by
  induction ids generalizing rewards with
  | nil => simp [markClaimed, RewardVault.batchAmount]
  | cons id rest ih =>
    rw [List.nodup_cons] at nodup
    have first := unclaimed_withClaimed (claimable id List.mem_cons_self) owner asset
    have later : ∀ other ∈ rest, (rewards.withClaimed provider id).Claimable provider other := by
      intro other mem
      obtain ⟨bucket, hit, owned, unmarked⟩ := claimable other (List.mem_cons_of_mem _ mem)
      refine ⟨bucket, hit, owned, ?_⟩
      have key : (provider, other) ≠ (provider, id) := by
        rintro same
        cases same
        exact nodup.1 mem
      rw [lookup_withClaimed, if_neg key]
      exact unmarked
    have amounts : (rewards.withClaimed provider id).batchAmount asset rest =
      rewards.batchAmount asset rest := rfl
    have split : rewards.batchAmount asset (id :: rest) =
      rewards.amountIn asset id + rewards.batchAmount asset rest := rfl
    rw [markClaimed, ih nodup.2 later, first, amounts, split]
    split <;> omega

theorem balanceOf_withBalance (rewards : RewardVault) (asset : Address) (balance : Int)
    (owner other : Address) : (rewards.withBalance provider asset balance).balanceOf owner other =
      if owner = provider ∧ other = asset then balance else rewards.balanceOf owner other := by
  simp only [RewardVault.balanceOf, RewardVault.withBalance, lookup_insert, Prod.mk.injEq]
  split <;> rfl

variable {totals : List (Address × Int)}

/-- Writing the reduced balances of distinct assets takes each asset's total. -/
theorem writeBalances_spec (distinct : (totals.map Prod.fst).Nodup) {has : Address → Int}
    (read : ∀ asset ∈ totals.map Prod.fst, rewards.balanceOf provider asset = has asset)
    (owner other : Address) :
    (writeBalances provider (totals.map fun entry => (entry.1, has entry.1 - entry.2))
        rewards).balanceOf owner other =
      rewards.balanceOf owner other - if owner = provider then totalFor other totals else 0 := by
  induction totals generalizing rewards with
  | nil => simp [writeBalances, totalFor]
  | cons entry rest ih =>
    obtain ⟨asset, total⟩ := entry
    rw [List.map_cons, List.nodup_cons] at distinct
    have later : ∀ key ∈ rest.map Prod.fst,
        (rewards.withBalance provider asset (has asset - total)).balanceOf provider key =
          has key := by
      intro key mem
      have different : key ≠ asset := by
        rintro rfl
        exact distinct.1 mem
      rw [balanceOf_withBalance, if_neg (fun both => different both.2)]
      exact read key (List.mem_cons_of_mem _ mem)
    have present : rewards.balanceOf provider asset = has asset :=
      read asset List.mem_cons_self
    rw [List.map_cons, writeBalances, ih distinct.2 later, balanceOf_withBalance, totalFor]
    by_cases owned : owner = provider
    · subst owned
      by_cases same : other = asset
      · subst same
        rw [if_pos ⟨rfl, rfl⟩, if_pos rfl, if_pos rfl, if_pos rfl, totalFor_absent distinct.1,
          present]
        omega
      · rw [if_neg (fun both => same both.2), if_pos rfl, if_pos rfl, if_neg (Ne.symm same)]
        omega
    · rw [if_neg (fun both => owned both.1), if_neg owned, if_neg owned]

theorem writeBalances_same (provider : Address) (balances : List (Address × Int))
    (rewards : RewardVault) : (writeBalances provider balances rewards).bucket = rewards.bucket ∧
      (writeBalances provider balances rewards).claimed = rewards.claimed ∧
        (writeBalances provider balances rewards).bucketCounter = rewards.bucketCounter := by
  induction balances generalizing rewards with
  | nil => exact ⟨rfl, rfl, rfl⟩
  | cons entry rest ih =>
    exact ih (rewards.withBalance provider entry.1 entry.2)

/-- The transfers of a batch move each asset's total from the vault to the provider. -/
theorem payTotals_ok {env : Env} {self : Address} {tokens paid : Tokens}
    (gave : payTotals env self provider totals tokens = .ok paid) (asset holder : Address) :
    paid.balance asset holder = tokens.balance asset holder -
      (if holder = self then totalFor asset totals else 0) +
        if holder = provider then totalFor asset totals else 0 := by
  induction totals generalizing tokens with
  | nil =>
    cases gave
    simp [totalFor]
  | cons entry rest ih =>
    obtain ⟨key, total⟩ := entry
    rw [payTotals] at gave
    split at gave
    · cases gave
    next middle moved =>
      obtain ⟨rfl, _⟩ := transfer_ok moved
      rw [ih gave, moved_balance, totalFor]
      by_cases same : asset = key
      · subst same
        simp only [true_and, if_true]
        split <;> split <;> omega
      · simp only [same, false_and, if_false, if_neg (Ne.symm same)]
        split <;> split <;> omega

end Writes

section Effects

variable {pre after : RewardWorld}

/-- What a batch that is claimed does. -/
structure BatchClaimed (pre after : RewardWorld) (provider : Address) (ids : List Nat)
    (totals : List (Address × Int)) : Prop where
  nodup : ids.Nodup
  claimable : ∀ id ∈ ids, pre.rewards.Claimable provider id
  amounts : ∀ asset, totalFor asset totals = pre.rewards.batchAmount asset ids
  bucket : after.rewards.bucket = pre.rewards.bucket
  counter : after.rewards.bucketCounter = pre.rewards.bucketCounter
  claimed : ∀ owner id, after.rewards.claimed.lookup (owner, id) = none ↔
    pre.rewards.claimed.lookup (owner, id) = none ∧ ¬ (owner = provider ∧ id ∈ ids)
  balances : ∀ owner asset, after.rewards.balanceOf owner asset =
    pre.rewards.balanceOf owner asset -
      if owner = provider then pre.rewards.batchAmount asset ids else 0
  unclaimed : ∀ owner asset, after.rewards.unclaimed owner asset =
    pre.rewards.unclaimed owner asset -
      if owner = provider then pre.rewards.batchAmount asset ids else 0
  tokens : ∀ asset holder, after.tokens.balance asset holder = pre.tokens.balance asset holder -
    (if holder = pre.self then totalFor asset totals else 0) +
      if holder = provider then totalFor asset totals else 0

variable {first second : RewardVault}

theorem unclaimed_congr (bucket : second.bucket = first.bucket)
    (claimed : second.claimed = first.claimed) (owner asset : Address) :
    second.unclaimed owner asset = first.unclaimed owner asset := by
  have worth : second.worth owner asset = first.worth owner asset := by
    funext id value
    rw [RewardVault.worth, RewardVault.worth, claimed]
  rw [RewardVault.unclaimed, RewardVault.unclaimed, worth, bucket]

theorem balanceOf_congr (same : second.providerAssetBalance = first.providerAssetBalance)
    (owner asset : Address) : second.balanceOf owner asset = first.balanceOf owner asset := by
  rw [RewardVault.balanceOf, RewardVault.balanceOf, same]

theorem batchClaimRewards_spec (env : Env) (provider : Address) (ids : List Nat) :
    wlp (batchClaimRewards env provider ids)
      (fun totals after => BatchClaimed pre after provider ids totals) pre := by
  simp only [batchClaimRewards, updateRewards, wlp_rules]
  intro _ totals totalling balances remaining tokens paid
  obtain ⟨sums, distinct, nodup, _, claimable⟩ := totalBatch_ok totalling
  obtain rfl := newBalances_ok remaining
  have amounts : ∀ asset, totalFor asset totals = pre.rewards.batchAmount asset ids := by
    intro asset
    rw [sums asset, totalFor, zero_add]
  have marked := markClaimed_same provider ids pre.rewards
  obtain ⟨bucket, claimed, counter⟩ := writeBalances_same provider
    (totals.map fun entry => (entry.1, pre.rewards.balanceOf provider entry.1 - entry.2))
    (markClaimed provider ids pre.rewards)
  refine ⟨nodup, claimable, amounts, bucket.trans marked.bucket, counter.trans marked.counter,
    fun owner id => ?_, fun owner asset => ?_, fun owner asset => ?_, payTotals_ok paid⟩
  · simp only [claimed]
    exact markClaimed_lookup ids pre.rewards owner id
  · have written := writeBalances_spec
      (distinct List.nodup_nil) (fun asset _ => balanceOf_congr marked.balances provider asset)
      owner asset
    rw [balanceOf_congr marked.balances, amounts] at written
    exact written
  · rw [← unclaimed_markClaimed nodup claimable owner asset]
    exact unclaimed_congr bucket claimed owner asset

/-- What a deposit does to the buckets and the balances. -/
structure BucketMade (pre after : RewardVault) (provider asset : Address) (amount : Int)
    (epoch : Nat) : Prop where
  pos : 0 < amount
  bucket : after.bucket = pre.bucket.insert pre.nextBucketId ⟨provider, asset, amount, epoch⟩
  counter : after.bucketCounter = some (satCount u64Max pre.nextBucketId 1)
  claimed : after.claimed = pre.claimed
  balances : ∀ owner other, after.balanceOf owner other =
    if owner = provider ∧ other = asset then
      i128.saturatingAdd (pre.balanceOf provider asset) amount
    else pre.balanceOf owner other

/-- What a deposit does: it makes the bucket and moves the tokens. -/
structure Deposited (env : Env) (pre after : RewardWorld)
    (depositor provider asset : Address) (amount : Int) (epoch : Nat) : Prop where
  made : BucketMade pre.rewards after.rewards provider asset amount epoch
  self : after.self = pre.self
  supported : after.rewards.supportedAssets = pre.rewards.supportedAssets
  transfer : pre.tokens.transfer env asset depositor pre.self amount = .ok after.tokens

theorem depositReward_spec (env : Env) (depositor provider asset : Address) (amount : Int)
    (epoch : Nat) : wlp (depositReward env depositor provider asset amount epoch)
      (fun _ after => Deposited env pre after depositor provider asset amount epoch) pre := by
  simp only [depositReward, updateRewards, wlp_rules]
  intro _ pos tokens moved
  have gave : pre.tokens.transfer env asset depositor pre.self amount = .ok tokens := by
    cases result : pre.tokens.transfer env asset depositor pre.self amount with
    | error failure =>
      rw [result] at moved
      cases moved
    | ok paid =>
      rw [result] at moved
      cases moved
      rfl
  refine ⟨⟨by omega, rfl, rfl, rfl, fun owner other => ?_⟩, rfl, rfl, gave⟩
  exact balanceOf_withBalance _ asset _ owner other

theorem deposit_exec (env : Env) (depositor provider asset : Address) (amount : StellarSwipe.Amount)
    (epoch : Nat) :
    wlp (RewardInput.exec ⟨env, .depositReward depositor provider asset amount epoch⟩)
      (fun totals after =>
        totals = [] ∧ Deposited env pre after depositor provider asset amount epoch) pre := by
  simp only [RewardInput.exec, requireRewardAuth, wlp_rules, true_and]
  intro _
  exact depositReward_spec env depositor provider asset amount epoch

/-- What a call does to the vault's entries, and what it pays. -/
inductive RewardEffect (pre after : RewardWorld) : RewardCall → List (Address × Int) → Prop where
  | supported {asset : Address} (bucket : after.rewards.bucket = pre.rewards.bucket)
      (counter : after.rewards.bucketCounter = pre.rewards.bucketCounter)
      (claimed : after.rewards.claimed = pre.rewards.claimed)
      (balances : after.rewards.providerAssetBalance = pre.rewards.providerAssetBalance) :
      RewardEffect pre after (.addSupportedAsset asset) []
  | deposited {depositor provider asset : Address} {amount : StellarSwipe.Amount} {epoch : Nat}
      (made : BucketMade pre.rewards after.rewards provider asset amount epoch) :
      RewardEffect pre after (.depositReward depositor provider asset amount epoch) []
  | claimed {provider : Address} {ids : List Nat} {totals : List (Address × Int)}
      (foreign : provider ≠ pre.self)
      (paid : BatchClaimed pre after provider ids totals) :
      RewardEffect pre after (.batchClaimRewards provider ids) totals

theorem RewardInput.exec_effect (input : RewardInput) :
    wlp input.exec (fun totals after => RewardEffect pre after input.call totals) pre := by
  obtain ⟨env, call⟩ := input
  cases call with
  | addSupportedAsset asset =>
    simp only [RewardInput.exec, addSupportedAsset, updateRewards, wp_rules, wp_ite]
    exact ⟨fun _ => .supported rfl rfl rfl rfl, fun _ => .supported rfl rfl rfl rfl⟩
  | depositReward depositor provider asset amount epoch =>
    refine wp_then (deposit_exec env depositor provider asset amount epoch) ?_
    rintro totals after ⟨rfl, deposited⟩
    exact .deposited deposited.made
  | batchClaimRewards provider ids =>
    simp only [RewardInput.exec, requireRewardAuth, wlp_rules]
    rintro ⟨_, foreign⟩
    exact wp_then (batchClaimRewards_spec env provider ids)
      (fun _ _ paid => .claimed foreign paid)

end Effects

section Books

variable {pre after : RewardWorld} {input : RewardInput} {totals : List (Address × Int)}

/-- Every balance is the sum of unclaimed buckets, and the ids to come are unused. -/
structure BucketBooks (rewards : RewardVault) : Prop where
  balances : ∀ provider asset, rewards.balanceOf provider asset = rewards.unclaimed provider asset
  fresh : ∀ id, rewards.nextBucketId ≤ id → rewards.bucket.lookup id = none
  unmarked : ∀ provider id, rewards.nextBucketId ≤ id →
    rewards.claimed.lookup (provider, id) = none
  pos : ∀ id bucket, rewards.bucket.lookup id = some bucket → 0 < bucket.amount

theorem BucketBooks.balance_nonneg {rewards : RewardVault} (books : BucketBooks rewards)
    (provider asset : Address) : 0 ≤ rewards.balanceOf provider asset := by
  rw [books.balances]
  apply sum_nonneg
  intro id bucket hit
  have pos := books.pos id bucket hit
  simp only [RewardVault.worth]
  split <;> omega

/-- A deposit gets an id that was never used and fits the balance that it enlarges. -/
def DepositFits (world : RewardWorld) (input : RewardInput) : Prop :=
  match input.call with
  | .depositReward _ provider asset amount _ =>
    world.rewards.nextBucketId < u64Max ∧
      world.rewards.balanceOf provider asset + amount.val ≤ i128.high
  | _ => True

instance (world : RewardWorld) (input : RewardInput) : Decidable (DepositFits world input) := by
  unfold DepositFits
  split <;> infer_instance

theorem nextBucketId_congr {first second : RewardVault}
    (same : second.bucketCounter = first.bucketCounter) :
    second.nextBucketId = first.nextBucketId := by
  rw [RewardVault.nextBucketId, RewardVault.nextBucketId, same]

section Deposit

variable {rewards next : RewardVault} {provider asset : Address} {amount : Int} {epoch : Nat}

theorem BucketMade.lookup (made : BucketMade rewards next provider asset amount epoch) (id : Nat) :
    next.bucket.lookup id = if id = rewards.nextBucketId then some ⟨provider, asset, amount, epoch⟩
      else rewards.bucket.lookup id := by
  rw [made.bucket]
  exact lookup_insert rewards.bucket rewards.nextBucketId id _

theorem BucketMade.nextBucketId (made : BucketMade rewards next provider asset amount epoch)
    (room : rewards.nextBucketId < u64Max) : next.nextBucketId = rewards.nextBucketId + 1 := by
  rw [RewardVault.nextBucketId, made.counter, Option.getD_some]
  exact saturating_count_exact room

theorem BucketMade.unclaimed (made : BucketMade rewards next provider asset amount epoch)
    (books : BucketBooks rewards) (owner other : Address) :
    next.unclaimed owner other = rewards.unclaimed owner other +
      if owner = provider ∧ other = asset then amount else 0 := by
  have worth : next.worth owner other = rewards.worth owner other := by
    funext id value
    rw [RewardVault.worth, RewardVault.worth, made.claimed]
  have absent := books.fresh rewards.nextBucketId (le_refl _)
  have unmarked := books.unmarked owner rewards.nextBucketId (le_refl _)
  rw [RewardVault.unclaimed, worth, made.bucket, sum_insert,
    contribution_of_none absent, sub_zero, RewardVault.unclaimed]
  congr 1
  simp only [RewardVault.worth, unmarked, and_true]
  by_cases named : owner = provider ∧ other = asset
  · rw [if_pos named, if_pos ⟨named.1.symm, named.2.symm⟩]
  · rw [if_neg named, if_neg (fun both => named ⟨both.1.symm, both.2.symm⟩)]

theorem BucketMade.books (made : BucketMade rewards next provider asset amount epoch)
    (books : BucketBooks rewards) (room : rewards.nextBucketId < u64Max)
    (fits : rewards.balanceOf provider asset + amount ≤ i128.high) : BucketBooks next := by
  have nextId := made.nextBucketId room
  have nonneg := books.balance_nonneg provider asset
  have pos := made.pos
  have exact : i128.saturatingAdd (rewards.balanceOf provider asset) amount =
      rewards.balanceOf provider asset + amount := by
    apply i128.clamp_of_holds
    refine ⟨?_, fits⟩
    simp only [i128_low]
    omega
  refine ⟨fun owner other => ?_, fun id beyond => ?_, fun owner id beyond => ?_,
    fun id bucket hit => ?_⟩
  · rw [made.unclaimed books, made.balances, exact, ← books.balances]
    split
    next named => rw [named.1, named.2]
    · rw [add_zero]
  · rw [made.lookup, if_neg (by omega)]
    exact books.fresh id (by omega)
  · rw [made.claimed]
    exact books.unmarked owner id (by omega)
  · rw [made.lookup] at hit
    split at hit
    · cases hit
      exact pos
    · exact books.pos id bucket hit

end Deposit

theorem BatchClaimed.books {provider : Address} {ids : List Nat}
    (paid : BatchClaimed pre after provider ids totals) (books : BucketBooks pre.rewards) :
    BucketBooks after.rewards := by
  have nextId := nextBucketId_congr paid.counter
  refine ⟨fun owner asset => ?_, fun id beyond => ?_, fun owner id beyond => ?_,
    fun id bucket hit => ?_⟩
  · rw [paid.balances, paid.unclaimed, books.balances]
  · rw [paid.bucket]
    exact books.fresh id (nextId ▸ beyond)
  · rw [paid.claimed]
    refine ⟨books.unmarked owner id (nextId ▸ beyond), fun named => ?_⟩
    obtain ⟨bucket, hit, _⟩ := paid.claimable id named.2
    rw [books.fresh id (nextId ▸ beyond)] at hit
    cases hit
  · rw [paid.bucket] at hit
    exact books.pos id bucket hit

theorem RewardEffect.books (effect : RewardEffect pre after input.call totals)
    (fits : DepositFits pre input) (books : BucketBooks pre.rewards) :
    BucketBooks after.rewards := by
  obtain ⟨env, call⟩ := input
  cases effect with
  | supported bucket counter claimed balances =>
    refine ⟨fun owner asset => ?_, fun id beyond => ?_, fun owner id beyond => ?_,
      fun id has hit => ?_⟩
    · rw [balanceOf_congr balances, unclaimed_congr bucket claimed, books.balances]
    · rw [bucket]
      exact books.fresh id (nextBucketId_congr counter ▸ beyond)
    · rw [claimed]
      exact books.unmarked owner id (nextBucketId_congr counter ▸ beyond)
    · rw [bucket] at hit
      exact books.pos id has hit
  | deposited made => exact made.books books fits.1 fits.2
  | claimed foreign paid => exact paid.books books

end Books

section Law

variable {pre after : RewardWorld} {totals : List (Address × Int)}

/-- How often a transition paid the bucket with an id. -/
def payments (id : Nat) (taken : Transition RewardWorld RewardInput) : Nat :=
  match taken.input.call with
  | .batchClaimRewards _ ids => if Accepts taken.input.exec taken.pre then ids.count id else 0
  | _ => 0

def RewardCall.pays (id : Nat) : RewardCall → Nat
  | .batchClaimRewards _ ids => ids.count id
  | _ => 0

theorem RewardEffect.claimedMark {call : RewardCall}
    (effect : RewardEffect pre after call totals) (books : BucketBooks pre.rewards)
    (id : Nat) : after.rewards.claimedMark id = pre.rewards.claimedMark id + call.pays id := by
  cases effect with
  | supported bucket counter claimed balances =>
    simp only [RewardVault.claimedMark, bucket, claimed, RewardCall.pays, add_zero]
  | deposited made =>
    simp only [RewardVault.claimedMark, made.lookup, made.claimed, RewardCall.pays, add_zero]
    by_cases new : id = pre.rewards.nextBucketId
    · subst new
      rw [if_pos rfl, books.fresh _ (le_refl _)]
      simp only [books.unmarked _ _ (le_refl _), if_true]
    · rw [if_neg new]
  | @claimed provider ids totals foreign paid =>
    simp only [RewardVault.claimedMark, paid.bucket, RewardCall.pays]
    by_cases mem : id ∈ ids
    · obtain ⟨bucket, hit, rfl, unmarked⟩ := paid.claimable id mem
      have marked : after.rewards.claimed.lookup (bucket.provider, id) ≠ none := by
        intro absent
        exact ((paid.claimed bucket.provider id).mp absent).2 ⟨rfl, mem⟩
      simp only [hit, unmarked, if_neg marked, if_true, List.count_eq_one_of_mem paid.nodup mem]
    · rw [List.count_eq_zero_of_not_mem mem, add_zero]
      cases pre.rewards.bucket.lookup id with
      | none => rfl
      | some bucket =>
        have same : after.rewards.claimed.lookup (bucket.provider, id) = none ↔
            pre.rewards.claimed.lookup (bucket.provider, id) = none := by
          rw [paid.claimed]
          exact and_iff_left fun named => mem named.2
        simp only [same]

/-- A claimed batch names every bucket once, marks buckets that were unclaimed, and pays
the provider the sum of its buckets in every asset. -/
def ClaimedWhole (pre after : RewardWorld) (provider : Address) (ids : List Nat) : Prop :=
  ids.Nodup ∧
    (∀ id ∈ ids, pre.rewards.Claimable provider id ∧ ¬ after.rewards.Claimable provider id) ∧
      ∀ asset, after.tokens.balance asset provider =
        pre.tokens.balance asset provider + pre.rewards.batchAmount asset ids

theorem BatchClaimed.whole {provider : Address} {ids : List Nat} (foreign : provider ≠ pre.self)
    (paid : BatchClaimed pre after provider ids totals) : ClaimedWhole pre after provider ids := by
  refine ⟨paid.nodup, fun id mem => ⟨paid.claimable id mem, ?_⟩, fun asset => ?_⟩
  · rintro ⟨_, _, _, unmarked⟩
    exact ((paid.claimed provider id).mp unmarked).2 ⟨rfl, mem⟩
  · rw [paid.tokens, if_neg foreign, if_pos rfl, sub_zero, paid.amounts]

/-- The accounts of the buckets: balances are sums of unclaimed buckets, a bucket is paid
at most once, and a batch is claimed whole or changes nothing. -/
structure BucketAccounts (past : List (Transition RewardWorld RewardInput))
    (reached : RewardWorld) : Prop where
  balances : ∀ provider asset,
    reached.rewards.balanceOf provider asset = reached.rewards.unclaimed provider asset
  once : ∀ id, (past.map (payments id)).sum ≤ 1
  batches : ∀ taken ∈ past, ∀ provider ids, taken.input.call = .batchClaimRewards provider ids →
    ClaimedWhole taken.pre taken.after provider ids ∨ taken.after = taken.pre

/-- What holds after the calls taken so far. -/
structure BucketHistory (past : List (Transition RewardWorld RewardInput))
    (reached : RewardWorld) : Prop where
  books : BucketBooks reached.rewards
  marks : ∀ id, (past.map (payments id)).sum = reached.rewards.claimedMark id
  batches : ∀ taken ∈ past, ∀ provider ids, taken.input.call = .batchClaimRewards provider ids →
    ClaimedWhole taken.pre taken.after provider ids ∨ taken.after = taken.pre

variable {past : List (Transition RewardWorld RewardInput)}

theorem BucketHistory.accounts {reached : RewardWorld} (history : BucketHistory past reached) :
    BucketAccounts past reached := by
  refine ⟨history.books.balances, fun id => ?_, history.batches⟩
  rw [history.marks]
  simp only [RewardVault.claimedMark]
  split
  · split <;> omega
  · omega

theorem BucketHistory.step (history : BucketHistory past pre) (input : RewardInput)
    (fits : DepositFits pre input) : BucketHistory (past ++ [⟨pre, input, rewardStep input pre⟩])
      (rewardStep input pre) := by
  by_cases returns : Accepts input.exec pre
  · obtain ⟨totals, gave⟩ := gave_of_accepts returns
    have effect : RewardEffect pre (rewardStep input pre) input.call totals :=
      wp_ok input.exec_effect gave
    have paid : ∀ id, payments id ⟨pre, input, rewardStep input pre⟩ =
        input.call.pays id := by
      intro id
      simp only [payments, RewardCall.pays, if_pos returns]
    refine ⟨effect.books fits history.books, fun id => ?_, fun taken mem provider ids named => ?_⟩
    · rw [effect.claimedMark history.books, List.map_append, List.sum_append, history.marks]
      simp [paid]
    · rcases mem_snoc.mp mem with prior | rfl
      · exact history.batches taken prior provider ids named
      · simp only at named
        rw [named] at effect
        cases effect with
        | claimed foreign paid => exact .inl (paid.whole foreign)
  · have unchanged : rewardStep input pre = pre := invoke_of_rejected returns
    have unpaid : ∀ id, payments id ⟨pre, input, rewardStep input pre⟩ = 0 := by
      intro id
      simp only [payments, if_neg returns]
      split <;> rfl
    refine ⟨?_, fun id => ?_, fun taken mem provider ids named => ?_⟩
    · rw [unchanged]
      exact history.books
    · rw [List.map_append, List.sum_append, history.marks, unchanged]
      simp [unchanged ▸ unpaid id]
    · rcases mem_snoc.mp mem with prior | rfl
      · exact history.batches taken prior provider ids named
      · exact .inr unchanged

/-- The reward vault before its first call, among tokens that it has not touched. -/
def RewardWorld.fresh (self : Address) (tokens : Tokens) : RewardWorld := ⟨self, .empty, tokens⟩

theorem bucketHistory_fresh (self : Address) (tokens : Tokens) :
    BucketHistory [] (RewardWorld.fresh self tokens) :=
  ⟨⟨fun _ _ => rfl, fun _ _ => rfl, fun _ _ _ => rfl, fun _ _ hit => by cases hit⟩,
    fun _ => rfl, fun _ mem => by cases mem⟩

/-- Along every run in which deposits fit their balances and get unused ids, the accounts
of the buckets are kept. -/
theorem bucket_accounts (self : Address) (tokens : Tokens) (inputs : List RewardInput)
    (fits : ∀ taken ∈ trace rewardStep (.fresh self tokens) inputs,
      DepositFits taken.pre taken.input) :
    BucketAccounts (trace rewardStep (.fresh self tokens) inputs)
      (final rewardStep (.fresh self tokens) inputs) := by
  apply BucketHistory.accounts
  exact history_invariant rewardStep BucketHistory DepositFits
    (fun _ _ input allowed history => history.step input allowed) _
    (bucketHistory_fresh self tokens) inputs fits

end Law

section UnitDeposits

/-- The depositor 1 has enough units of every asset. -/
def depositorTokens : Tokens := ⟨fun _ holder => if holder = 1 then 2 ^ 100 else 0, 0⟩

/-- The asset 7 registered, and deposits by 1 for the provider 2. -/
def depositOf (amount : StellarSwipe.Amount) : RewardInput := ⟨.at 0 0 [1], .depositReward 1 2 7 amount 0⟩

/-- Two buckets are claimed in one batch, and a batch that repeats one is refused. -/
def claimedTogether : List RewardInput :=
  [⟨.at 0 0 [], .addSupportedAsset 7⟩, depositOf ⟨5, by decide⟩, depositOf ⟨6, by decide⟩,
    ⟨.at 0 0 [2], .batchClaimRewards 2 [0, 0]⟩, ⟨.at 0 0 [2], .batchClaimRewards 2 [1, 0]⟩,
    ⟨.at 0 0 [2], .batchClaimRewards 2 [1]⟩]

theorem claimedTogether_accounts :
    BucketAccounts (trace rewardStep (.fresh 9 depositorTokens) claimedTogether)
      (final rewardStep (.fresh 9 depositorTokens) claimedTogether) :=
  bucket_accounts 9 depositorTokens claimedTogether (by decide)

/-- One unit for the provider. -/
def unitBucket : RewardBucket := ⟨2, 7, 1, 0⟩

/-- After a number of single units: the balance counts them all, and the buckets are as
many as there are ids for them. -/
structure UnitsDeposited (units : Nat) (world : RewardWorld) : Prop where
  supported : world.rewards.supportedAssets = [7]
  funded : world.tokens.balance 7 1 = 2 ^ 100 - units
  contract : world.self = 9
  nextId : world.rewards.nextBucketId = min units u64Max
  balance : world.rewards.balanceOf 2 7 = units
  unmarked : ∀ id, world.rewards.claimed.lookup (2, id) = none
  has : ∀ id, id < units → id ≤ u64Max → world.rewards.bucket.lookup id = some unitBucket
  fresh : ∀ id, units ≤ id → world.rewards.bucket.lookup id = none
  unclaimed : world.rewards.unclaimed 2 7 = min units (u64Max + 1 : Nat)

variable {units : Nat}

theorem UnitsDeposited.unclaimed_insert {world after : RewardWorld}
    (known : UnitsDeposited units world) (made : BucketMade world.rewards after.rewards 2 7 1 0) :
    after.rewards.unclaimed 2 7 = min (units + 1) (u64Max + 1 : Nat) := by
  have worth : after.rewards.worth 2 7 = world.rewards.worth 2 7 := by
    funext id value
    rw [RewardVault.worth, RewardVault.worth, made.claimed]
  have unit : ∀ id, world.rewards.worth 2 7 id unitBucket = 1 := by
    intro id
    simp [RewardVault.worth, unitBucket, known.unmarked]
  have pre := known.unclaimed
  rw [RewardVault.unclaimed] at pre ⊢
  rw [worth, made.bucket, sum_insert, pre]
  have added : world.rewards.worth 2 7 world.rewards.nextBucketId ⟨2, 7, 1, 0⟩ = 1 :=
    unit world.rewards.nextBucketId
  rw [added, known.nextId]
  by_cases room : units ≤ u64Max
  · rw [Nat.min_eq_left room, contribution_of_none (known.fresh units (le_refl units))]
    omega
  · have kept := known.has u64Max (by omega) (le_refl u64Max)
    have last : min units u64Max = u64Max := Nat.min_eq_right (by omega)
    rw [last, contribution_of_some kept, unit]
    omega

theorem depositReward_accepts {env : Env} {world : RewardWorld} {tokens : Tokens}
    {depositor provider asset : Address} {amount : StellarSwipe.Amount} {epoch : Nat}
    (authorized : depositor ∈ env.auths ∧ depositor ≠ world.self)
    (supported : asset ∈ world.rewards.supportedAssets) (pos : ¬ amount.val ≤ 0)
    (paid : world.tokens.transfer env asset depositor world.self amount = .ok tokens) :
    Accepts (RewardInput.exec ⟨env, .depositReward depositor provider asset amount epoch⟩)
      world := by
  rw [accepts_iff_wp]
  simp only [RewardInput.exec, requireRewardAuth, depositReward, updateRewards, wp_rules, paid]
  refine ⟨fun _ => ⟨fun _ => ⟨fun _ => ⟨fun _ _ => trivial, fun none => ?_⟩, absurd pos⟩,
    absurd supported⟩, absurd authorized⟩
  cases none

theorem unitDeposit_deposits {world : RewardWorld} (known : UnitsDeposited units world)
    (room : units < 2 ^ 100) :
    UnitsDeposited (units + 1) (rewardStep (depositOf ⟨1, by decide⟩) world) := by
  have covered : ¬ world.tokens.balance 7 1 < 1 := by
    rw [known.funded]
    omega
  have paid : world.tokens.transfer (.at 0 0 [1]) 7 1 world.self 1 =
      .ok (world.tokens.moved 7 1 world.self 1) := by
    simp [Tokens.transfer, refusal, covered, Env.at]
  have foreign : 1 ≠ world.self := by
    rw [known.contract]
    decide
  have accepts : Accepts (depositOf ⟨1, by decide⟩).exec world :=
    depositReward_accepts ⟨List.mem_singleton_self 1, foreign⟩
      (known.supported ▸ List.mem_singleton_self 7) (by decide) paid
  obtain ⟨_, gave⟩ := gave_of_accepts accepts
  obtain ⟨_, made, contract, supported, moved⟩ :=
    wp_ok (deposit_exec (.at 0 0 [1]) 1 2 7 ⟨1, by decide⟩ 0) gave
  obtain ⟨tokens, _⟩ := transfer_ok moved
  have nextId : (rewardStep (depositOf ⟨1, by decide⟩) world).rewards.nextBucketId =
      min (units + 1) u64Max := by
    rw [RewardVault.nextBucketId, rewardStep, made.counter, Option.getD_some, known.nextId]
    exact saturating_count_min u64Max units
  have held : i128.Holds ((units : Int) + 1) := by
    simp only [Range.Holds, i128_low, i128_high]
    omega
  refine ⟨supported.trans known.supported, ?_, contract.trans known.contract, nextId, ?_,
    fun id => ?_, fun id below within => ?_, fun id beyond => ?_, known.unclaimed_insert made⟩
  · rw [rewardStep, tokens, moved_balance, known.funded, known.contract]
    simp
    omega
  · rw [rewardStep, made.balances, known.balance]
    simpa [Range.saturatingAdd] using i128.clamp_of_holds held
  · rw [rewardStep, made.claimed]
    exact known.unmarked id
  · rw [rewardStep, made.lookup, known.nextId]
    split
    · rfl
    · exact known.has id (by omega) within
  · rw [rewardStep, made.lookup, known.nextId, if_neg (by omega)]
    exact known.fresh id (by omega)

theorem unitDeposits_deposit (room : units ≤ 2 ^ 100) :
    UnitsDeposited units (final rewardStep (.fresh 9 depositorTokens)
      (⟨.at 0 0 [], .addSupportedAsset 7⟩ :: List.replicate units (depositOf ⟨1, by decide⟩))) := by
  induction units with
  | zero =>
    exact ⟨rfl, rfl, rfl, rfl, rfl, fun _ => rfl, fun _ below => absurd below (Nat.not_lt_zero _),
      fun _ _ => rfl, rfl⟩
  | succ units ih =>
    rw [List.replicate_succ', ← List.cons_append, final_append]
    exact unitDeposit_deposits (ih (by omega)) (by omega)

/-- When the ids have run out, a deposit replaces the bucket of the last one, and the
balance counts a unit that no bucket holds. -/
theorem bucket_ids_run_out : ¬ ∀ (self : Address) (tokens : Tokens) (inputs : List RewardInput),
      BucketAccounts (trace rewardStep (.fresh self tokens) inputs)
        (final rewardStep (.fresh self tokens) inputs) := by
  intro every
  have known := unitDeposits_deposit (show u64Max + 2 ≤ 2 ^ 100 by decide)
  have accounts := every 9 depositorTokens (⟨.at 0 0 [], .addSupportedAsset 7⟩ ::
    List.replicate (u64Max + 2) (depositOf ⟨1, by decide⟩))
  have same := accounts.balances 2 7
  rw [known.balance, known.unclaimed] at same
  generalize u64Max = largest at same
  omega

end UnitDeposits

end StellarSwipe.StakeVault
