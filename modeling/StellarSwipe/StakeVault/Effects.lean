import StellarSwipe.StakeVault.Entrypoints

/-!
# What the calls of the vault do

A call that returned did one of a few things to the world.
-/

namespace StellarSwipe.StakeVault

open Program FixedWidth RewardIndex

/-- What a slash that was tried, alone or in a batch, did to the world. -/
inductive SlashTried (env : Env) (pre : World) (provider : Address) (severity : SlashSeverity)
    (reason : String) : World → Prop
  | gave {token : Address} {info : StakeInfoV2} {middle : World}
      (slashable : Slashable env pre provider token info)
      (disposed : Disposed env pre token (pre.slashTotal provider severity info)
        (pre.slashed env provider severity reason info) middle) :
      SlashTried env pre provider severity reason (middle.setActivity
        (pre.vault.activity.locked env provider pre.vault.settings.lockupLedgers))
  | stopped {after : World} (stopped : SlashStopped env pre provider severity reason after) :
      SlashTried env pre provider severity reason after

/-- What a resolution that was tried, alone or in a batch, did to the world. -/
inductive ResolveTried (env : Env) (pre : World) (slashId : Nat) (uphold : Bool) : World → Prop
  | gave {token : Address} {record : SlashRecord} {appeal : SlashAppeal} {middle : World}
      (resolvable : Resolvable pre slashId token record appeal)
      (settled : Settled env pre slashId token record uphold middle) :
      ResolveTried env pre slashId uphold (middle.decided slashId appeal (decision uphold))
  | stopped {after : World} (stopped : ResolveStopped env pre slashId uphold after) :
      ResolveTried env pre slashId uphold after

/-- What serving one ticket keeps, and stopping at one, the queue has kept. -/
def QueueKept (env : Env) (pre after : World) : Prop :=
  ∀ invariant finish : World → Prop,
    (∀ world, invariant world → world.vault.activity.executionLock = false) →
    (∀ head world (request : UnstakeRequest) token info amount after, invariant world →
      world.vault.queue.entry.lookup head = some request →
      Withdrawn env world request.user token info amount after →
      invariant (after.served env head request.user)) →
    (∀ world (request : UnstakeRequest) fault after, invariant world →
      WithdrawStopped env world request.user fault after → finish after) →
    (∀ world, invariant world → finish world) →
    (∀ world head, finish world → finish (world.setQueue { world.vault.queue with head })) →
    invariant pre → finish after

/-- What a call that returned did to the world. A call that serves many keeps what each of its
parts keeps. -/
inductive CallEffect (env : Env) (pre : World) : Call → World → Prop
  | initialized {admin stakeToken signalRegistry : Address} {settings : Settings}
      (unused : pre.vault.settings.initialized = false)
      (initialized : settings.initialized = true)
      (deployed : settings.stakeToken = some stakeToken) :
      CallEffect env pre (.initializeVault admin stakeToken signalRegistry)
        (pre.setSettings settings)
  | setting {setting : Setting} {after : World} (aside : Aside pre after) :
      CallEffect env pre (.setting setting) after
  | upkeep {upkeep : Upkeep} {after : World} (aside : Aside pre after) :
      CallEffect env pre (.upkeep upkeep) after
  | approval {approval : Approval} {after : World} (aside : Aside pre after) :
      CallEffect env pre (.approval approval) after
  | executed {caller : Address} {proposalId : Nat} {proposal : Multisig.Proposal} {middle : World}
      {multisig : Multisig.Storage}
      (has : pre.vault.multisig.proposals.lookup proposalId = some proposal)
      (executable : Multisig.Executable env pre.vault.multisig proposal)
      (performed : Performed env pre proposal.payload middle) :
      CallEffect env pre (.executeAction caller proposalId) (middle.setMultisig multisig)
  | deposited {staker token : Address} {amount : Int} {info : StakeInfoV2}
      {index : RewardIndex.Storage} {activity : Activity}
      (configured : pre.vault.settings.stakeToken = some token) (other : staker ≠ pre.self)
      (pos : 0 < amount)
      (balance : info.balance = pre.vault.custody.stakeOf staker + amount)
      (holds : i128.Holds info.balance)
      (told : onStakeChange staker info.balance pre.vault.index = .ok () index)
      (lock : activity.executionLock = pre.vault.activity.executionLock) :
      CallEffect env pre (.depositStake staker amount) { pre with
        vault := { pre.vault with
          custody := pre.vault.custody.recordStake staker info
          index
          activity }
        tokens := pre.tokens.moved token staker pre.self amount }
  | delegated {delegator provider token : Address} {amount : Int}
      (configured : pre.vault.settings.stakeToken = some token)
      (other : delegator ≠ pre.self) (pos : 0 < amount)
      (holds : i128.Holds ((pre.vault.custody.delegationsTo provider).read delegator + amount)) :
      CallEffect env pre (.delegateStake delegator provider amount) { pre with
        vault := { pre.vault with
          custody := (pre.vault.custody.recordDelegations provider
            ((pre.vault.custody.delegationsTo provider).insert delegator
              ((pre.vault.custody.delegationsTo provider).read delegator +
                amount))).recordTotalDelegated provider
                  (pre.vault.custody.totalDelegated provider + amount) }
        tokens := pre.tokens.moved token delegator pre.self amount }
  | withdrew {staker token : Address} {info : StakeInfoV2} {amount : Int} {middle : World}
      {limits : RateLimit.Storage}
      (withdrawn : Withdrawn env pre staker token info amount middle) :
      CallEffect env pre (.withdrawStake staker) (middle.setLimits limits)
  | withdrewPart {staker token : Address} {info : StakeInfoV2} {amount : Int}
      {index : RewardIndex.Storage} {limits : RateLimit.Storage}
      (payable : Payable env pre staker token info) (pos : 0 < amount)
      (less : amount < info.balance)
      (accepted : pre.tokens.refusal env token pre.self amount = none)
      (told : onStakeChange staker (info.balance - amount) pre.vault.index =
        .ok () index) :
      CallEffect env pre (.partialUnstake staker amount)
        (((pre.setActivity (pre.vault.activity.released staker)).paidOut env token staker
          info amount (info.balance - amount) index).setLimits limits)
  | queued {staker : Address} (unqueued : pre.vault.queue.userTicket.lookup staker = none)
      (staked : pre.vault.custody.stakeOf staker ≠ 0) :
      CallEffect env pre (.queueUnstake staker)
        (pre.setQueue (pre.vault.queue.join env staker))
  | served {limit : Nat} {after : World}
      (kept : QueueKept env pre after) :
      CallEffect env pre (.processUnstakeQueue limit) after
  | slashed {caller provider token : Address} {severity : SlashSeverity} {reason : String}
      {info : StakeInfoV2} {middle : World} (registry : RegistryCalls env pre caller)
      (slashable : Slashable env pre provider token info)
      (disposed : Disposed env pre token (pre.slashTotal provider severity info)
        (pre.slashed env provider severity reason info) middle) :
      CallEffect env pre (.slashStake caller provider severity reason) (middle.setActivity
        (pre.vault.activity.locked env provider pre.vault.settings.lockupLedgers))
  | slashedEach {caller : Address} {providers : List Address} {severities : List SlashSeverity}
      {reason : String} {after : World}
      (keeps : ∀ invariant : World → Prop, (RegistryCalls env pre caller →
        ∀ entry ∈ slashAttempts env pre providers severities reason, ∀ after,
          SlashTried env entry.pre entry.item.1 entry.item.2 reason after →
          invariant entry.pre → invariant after) → invariant pre → invariant after) :
      CallEffect env pre (.batchSlashStake caller providers severities reason) after
  | appealed {appellant : Address} {slashId : Nat} {evidenceUri : String}
      (first : pre.vault.slashing.slashAppeal.lookup slashId = none) :
      CallEffect env pre (.appealSlash appellant slashId evidenceUri)
        (pre.setSlashing (pre.vault.slashing.recordAppeal
          ⟨slashId, appellant, evidenceUri, env.timestamp, .pending⟩))
  | resolved {slashId : Nat} {uphold : Bool} {token : Address} {record : SlashRecord}
      {appeal : SlashAppeal} {middle : World} (solo : pre.vault.multisig.config = none)
      (admin : AdminCalls env pre) (resolvable : Resolvable pre slashId token record appeal)
      (settled : Settled env pre slashId token record uphold middle) :
      CallEffect env pre (.resolveAppeal slashId uphold)
        (middle.decided slashId appeal (decision uphold))
  | resolvedEach {slashIds : List Nat} {upholds : List Bool} {after : World}
      (keeps : ∀ invariant : World → Prop, (BatchAdmitted env pre slashIds upholds →
        ∀ entry ∈ resolveAttempts env pre slashIds upholds, ∀ after,
          ResolveTried env entry.pre entry.item.1 entry.item.2 after →
          invariant entry.pre → invariant after) → invariant pre → invariant after) :
      CallEffect env pre (.batchResolveAppeal slashIds upholds) after
  | approved {signer staker : Address} {activity : Activity}
      (lock : activity.executionLock = pre.vault.activity.executionLock) :
      CallEffect env pre (.approveEmergencyUnstake signer staker) (pre.setActivity activity)
  | exited {signer staker token : Address} {penaltyBps : Nat} {info : StakeInfoV2}
      {activity : Activity} {after : World}
      (lock : activity.executionLock = pre.vault.activity.executionLock)
      (completes : CompletesApproval env pre signer staker)
      (configured : pre.vault.settings.stakeToken = some token)
      (unstaked : EarlyUnstaked env pre staker token penaltyBps info activity after) :
      CallEffect env pre (.approveEmergencyUnstake signer staker) after
  | assetAdded {asset : Address} {index : RewardIndex.Storage}
      (added : addAsset asset pre.vault.index = .ok () index) :
      CallEffect env pre (.addIndexRewardAsset asset) (pre.setIndex index)
  | funded {funder asset : Address} {amount : Int} {index : RewardIndex.Storage} :
      CallEffect env pre (.fundIndexRewards funder asset amount)
        ((pre.setIndex index).setTokens (pre.tokens.moved asset funder pre.self amount))
  | synced {staker : Address} {index : RewardIndex.Storage}
      (told : onStakeChange staker (pre.vault.custody.stakeOf staker)
        pre.vault.index = .ok () index) :
      CallEffect env pre (.syncIndexStake staker) (pre.setIndex index)
  | claimed {staker asset : Address} {amount : Int} {index : RewardIndex.Storage} :
      CallEffect env pre (.claimIndexRewards staker asset)
        ((pre.setIndex index).setTokens (pre.tokens.moved asset pre.self staker amount))
  | claimQueued {staker asset : Address} {amount : Int} {index : RewardIndex.Storage} :
      CallEffect env pre (.claimIndexRewards staker asset)
        (((pre.setIndex index).setTokens pre.tokens.refused).setClaims
          (pre.vault.claims.enqueue env staker asset amount))
  | claimPaid {claimant : Address} {nonce : Nat} {claims : QueuedClaims} {tokens : Tokens} :
      CallEffect env pre (.claimQueuedWithdrawal claimant nonce)
        ((pre.setClaims claims).setTokens tokens)
  | claimCancelled {claimant : Address} {nonce : Nat} {claims : QueuedClaims}
      {index : RewardIndex.Storage} :
      CallEffect env pre (.cancelQueuedWithdrawal claimant nonce)
        ((pre.setClaims claims).setIndex index)
  | elsewhere {stakeToken : Option Address} {providerLockup : Table Address ProviderLockup}
      {tokens : Tokens} :
      CallEffect env pre (.elsewhere stakeToken providerLockup tokens)
        (((pre.setSettings { pre.vault.settings with stakeToken }).setActivity
          { pre.vault.activity with providerLockup }).setTokens tokens)

section Effects

variable (env : Env) (pre : World)

theorem doSlash_tried (provider : Address) (severity : SlashSeverity) (reason : String) :
    wp (doSlash env provider severity reason)
      (fun _ after => SlashTried env pre provider severity reason after)
      (fun _ after => SlashTried env pre provider severity reason after) pre := by
  refine wp_mono (doSlash_spec env pre provider severity reason) ?_ ?_
  · rintro _ _ ⟨token, info, middle, slashable, rfl, disposed, rfl⟩
    exact .gave slashable disposed
  · exact fun _ _ stopped => .stopped stopped.2

theorem doResolveAppeal_tried (slashId : Nat) (uphold : Bool) :
    wp (doResolveAppeal env slashId uphold)
      (fun _ after => ResolveTried env pre slashId uphold after)
      (fun _ after => ResolveTried env pre slashId uphold after) pre := by
  refine wp_mono (doResolveAppeal_spec env pre slashId uphold) ?_ ?_
  · rintro _ _ ⟨token, record, appeal, middle, resolvable, settled, rfl⟩
    exact .gave resolvable settled
  · exact fun _ _ stopped => .stopped stopped.2

theorem processUnstakeQueue_kept (limit : Nat) :
    wlp (processUnstakeQueue env limit) (fun _ after => QueueKept env pre after) pre := by
  refine (wp_iff _).mpr ⟨fun _ after gave => ?_, fun _ _ _ => trivial⟩
  intro invariant finish free serves stops ends heads held
  refine wp_ok (processUnstakeQueue_rule env pre limit finish (fun _ => ends pre held) ?_)
    gave
  refine wp_then (processLoop_rule env limit pre.vault.queue.tailTicket
    (fun _ => invariant) (fun _ => finish) (fun _ => free) (fun _ _ _ held _ => held) ?_ ?_
    (fun _ => ends) (pre.vault.queue.tailTicket - pre.vault.queue.headTicket) 0
    pre.vault.queue.headTicket pre held) fun _ after done => heads after _ done
  · intro head world request token info amount after _ held has withdrawn
    exact serves head world request token info amount after held has withdrawn
  · intro _ world request fault after _ held _ stopped
    exact stops world request fault after held stopped

theorem exec_effect (call : Call) :
    wp (exec env call) (fun _ after => CallEffect env pre call after) (fun _ _ => True) pre := by
  cases call <;> rw [exec] <;> try rw [wp_discard]
  case initializeVault =>
    refine wp_then (initializeVault_spec pre _ _ _) ?_
    rintro _ _ ⟨unused, settings, initialized, deployed, rfl⟩
    exact .initialized unused initialized deployed
  case setting => exact wp_then (setting_spec env pre _) fun _ _ aside => .setting aside
  case upkeep => exact wp_then (upkeep_spec env pre _) fun _ _ aside => .upkeep aside
  case approval => exact wp_then (approval_spec env pre _) fun _ _ aside => .approval aside
  case executeAction =>
    refine wp_then (executeAction_spec env pre _ _) ?_
    rintro _ _ ⟨proposal, middle, multisig, has, executable, performed, _, rfl⟩
    exact .executed has executable performed
  case depositStake =>
    refine wp_then (depositStake_spec env pre _ _) ?_
    rintro _ _ ⟨token, info, index, activity, configured, other, pos, balance, holds, told, _,
      lock, rfl⟩
    exact .deposited configured other pos balance holds told lock
  case delegateStake =>
    refine wp_then (delegateStake_spec env pre _ _ _) ?_
    rintro _ _ ⟨token, _, configured, other, pos, holds, rfl, _, rfl⟩
    exact .delegated configured other pos holds
  case withdrawStake =>
    refine wp_then (withdrawStake_spec env pre _) ?_
    rintro _ _ ⟨_, _, middle, limits, withdrawn, rfl⟩
    exact .withdrew withdrawn
  case partialUnstake =>
    refine wp_then (partialUnstake_spec env pre _ _) ?_
    rintro _ _ ⟨_, _, index, limits, payable, pos, less, accepted, told, rfl⟩
    exact .withdrewPart payable pos less accepted told
  case queueUnstake =>
    refine wp_then (queueUnstake_spec env pre _) ?_
    rintro _ _ ⟨_, _, unqueued, staked, rfl⟩
    exact .queued unqueued staked
  case processUnstakeQueue =>
    exact wp_then (processUnstakeQueue_kept env pre _) fun _ _ kept => .served kept
  case slashStake =>
    refine wp_then (slashStake_spec env pre _ _ _ _) ?_
    rintro _ _ ⟨registry, token, info, middle, slashable, rfl, disposed, rfl⟩
    exact .slashed registry slashable disposed
  case batchSlashStake caller providers severities reason =>
    refine (wp_iff _).mpr ⟨fun _ after gave => .slashedEach fun invariant keeps held => ?_,
      fun _ _ _ => trivial⟩
    refine wp_ok (batchSlashStake_rule env pre caller providers severities reason invariant
      (fun registry entry mem => ?_) held) gave
    exact keeps registry entry mem _ (attempts_rule mem _ (doSlash_tried env _ _ _ _))
  case appealSlash =>
    refine wp_then (appealSlash_spec env pre _ _ _) ?_
    rintro _ _ ⟨_, _, _, first, rfl⟩
    exact .appealed first
  case resolveAppeal =>
    refine wp_then (resolveAppeal_spec env pre _ _) ?_
    rintro _ _ ⟨solo, admin, _, _, _, middle, resolvable, settled, rfl⟩
    exact .resolved solo admin resolvable settled
  case batchResolveAppeal slashIds upholds =>
    refine (wp_iff _).mpr ⟨fun _ after gave => .resolvedEach fun invariant keeps held => ?_,
      fun _ _ _ => trivial⟩
    refine wp_ok (batchResolveAppeal_rule env pre slashIds upholds invariant
      (fun admitted entry mem => ?_) held) gave
    exact keeps admitted entry mem _ (attempts_rule mem _ (doResolveAppeal_tried env _ _ _))
  case approveEmergencyUnstake =>
    refine wp_then (approveEmergencyUnstake_spec env pre _ _) ?_
    rintro _ _ ⟨activity, lock, rfl | ⟨completes, token, penaltyBps, info, configured, unstaked⟩⟩
    · exact .approved lock
    · exact .exited lock completes configured unstaked
  case addIndexRewardAsset =>
    refine wp_then (addIndexRewardAsset_spec env pre _) ?_
    rintro _ _ ⟨_, added, rfl⟩
    exact .assetAdded added
  case fundIndexRewards =>
    refine wp_then (fundIndexRewards_spec env pre _ _ _) ?_
    rintro _ _ ⟨_, _, _, _, rfl⟩
    exact .funded
  case syncIndexStake =>
    refine wp_then (syncIndexStake_spec pre _) ?_
    rintro _ _ ⟨_, told, rfl⟩
    exact .synced told
  case claimIndexRewards =>
    refine wp_then (claimIndexRewards_spec env pre _ _) ?_
    rintro _ _ ⟨amount, index, _, _, _, ⟨_, rfl⟩ | ⟨_, rfl⟩⟩
    · exact .claimed
    · exact .claimQueued
  case claimQueuedWithdrawal =>
    refine wp_then (claimQueuedWithdrawal_spec env pre _ _) ?_
    rintro _ _ ⟨_, _, _, _, _, rfl⟩
    exact .claimPaid
  case cancelQueuedWithdrawal =>
    refine wp_then (cancelQueuedWithdrawal_spec env pre _ _) ?_
    rintro _ _ ⟨_, _, _, _, _, rfl⟩
    exact .claimCancelled
  case elsewhere => exact .elsewhere

theorem step_of_effect {property : World → Prop} {input : Input} (held : property pre)
    (kept : ∀ after, CallEffect input.1 pre input.2 after → property after) :
    property (step input pre) :=
  step_rule held (wp_then (exec_effect input.1 pre input.2) fun _ => kept)

end Effects

end StellarSwipe.StakeVault
