import StellarSwipe.StakeVault.Slashing

/-!
# Slash appeals

A slashed provider may appeal while the configured window lasts.
-/

namespace StellarSwipe.StakeVault

open Program FixedWidth

def Slashing.recordAppeal (slashing : Slashing) (appeal : SlashAppeal) : Slashing :=
  { slashing with slashAppeal := slashing.slashAppeal.insert appeal.slashId appeal }

variable (env : Env)

/-- Submit an appeal for a past slash. -/
def appealSlash (appellant : Address) (slashId : Nat) (evidenceUri : String) :
    VaultProgram Unit := do
  requireAuth env appellant
  let world ← get
  let record ← orFail (world.vault.slashing.slashRecord.lookup slashId) .slashNotFound
  ensure (record.provider = appellant) .unauthorized
  let window := world.vault.settings.appealWindow
  ensure (window ≠ 0 ∧ env.timestamp ≤ laterBy record.slashedAt window) .appealWindowClosed
  ensure (world.vault.slashing.slashAppeal.lookup slashId = none) .appealAlreadyExists
  modify fun world => world.setSlashing (world.vault.slashing.recordAppeal
    ⟨slashId, appellant, evidenceUri, env.timestamp, .pending⟩)

/-- The stake entry of a provider with an amount credited back. -/
def StakeInfoV2.restored (info : StakeInfoV2) (amount : Int) (now : Nat) : StakeInfoV2 :=
  { info with balance := i128.saturatingAdd info.balance amount, lastUpdated := now }

/-- What a reversal credits: the parked funds, or the recorded amount when none are
parked. -/
def amountToRestore (held : Int) (record : SlashRecord) : Int :=
  if 0 < held then held else record.slashAmount

/-- Core resolution logic, reached by the single-admin entry points and by the
execution of an approved action. -/
def doResolveAppeal (slashId : Nat) (uphold : Bool) : VaultProgram Unit := do
  let world ← get
  let record ← orFail (world.vault.slashing.slashRecord.lookup slashId) .slashNotFound
  let appeal ← orFail (world.vault.slashing.slashAppeal.lookup slashId) .slashNotFound
  ensure (appeal.status = .pending) .appealAlreadyResolved
  let held := world.vault.custody.heldFor slashId
  let token ← getStakeToken
  if uphold = true then
    if 0 < held then do
      modify fun world => world.setCustody (world.vault.custody.releaseFunds slashId)
      burn env token world.self held
    else pure ()
  else do
    let current := world.vault.custody.stakeInfo record.provider
    modify fun world => world.setCustody (world.vault.custody.recordStake record.provider
      (current.restored (amountToRestore held record) env.timestamp))
    if 0 < held then
      modify fun world => world.setCustody (world.vault.custody.releaseFunds slashId)
    else pure ()
  let status : AppealStatus := if uphold = true then .upheld else .reversed
  modify fun world => world.setSlashing { world.vault.slashing with
    slashAppeal := world.vault.slashing.slashAppeal.insert slashId { appeal with status } }

/-- Single-admin entry points give way once a multi-sig configuration is set. -/
def requireNoMultisig : VaultProgram Unit := do
  ensure ((← get).vault.multisig.config = none) .requiresMultisig

def resolveAppeal (slashId : Nat) (uphold : Bool) : VaultProgram Unit := do
  requireNoMultisig
  requireAuth env (← getAdmin)
  doResolveAppeal env slashId uphold

/-- Admin: resolve several appeals; an item that errs is skipped. Returns the number
resolved. -/
def batchResolveAppeal (slashIds : List Nat) (upholds : List Bool) : VaultProgram Nat := do
  requireAuth env (← getAdmin)
  requireBatch slashIds.length upholds.length
  let results ← attemptEach (fun item => doResolveAppeal env item.1 item.2) (slashIds.zip upholds)
  pure (results.countP fun result => match result with
    | .ok _ => true
    | .error _ => false)

section Specifications

variable (env : Env) (pre : World)

theorem appealSlash_spec (appellant : Address) (slashId : Nat) (evidenceUri : String) :
    wlp (appealSlash env appellant slashId evidenceUri)
      (fun _ after => ∃ record, pre.vault.slashing.slashRecord.lookup slashId = some record ∧
        record.provider = appellant ∧ pre.vault.slashing.slashAppeal.lookup slashId = none ∧
        after = pre.setSlashing (pre.vault.slashing.recordAppeal
          ⟨slashId, appellant, evidenceUri, env.timestamp, .pending⟩)) pre := by
  simp only [appealSlash, wlp_rules, wp_auth]
  intro _ record recorded own _ first
  exact ⟨record, recorded, own, first⟩

structure Resolvable (world : World) (slashId : Nat) (token : Address) (record : SlashRecord)
    (appeal : SlashAppeal) : Prop where
  configured : world.vault.settings.stakeToken = some token
  recorded : world.vault.slashing.slashRecord.lookup slashId = some record
  appealed : world.vault.slashing.slashAppeal.lookup slashId = some appeal
  pending : appeal.status = .pending

def World.decided (world : World) (slashId : Nat) (appeal : SlashAppeal) (status : AppealStatus) :
    World :=
  world.setSlashing { world.vault.slashing with
    slashAppeal := world.vault.slashing.slashAppeal.insert slashId { appeal with status } }

def Custody.reversed (custody : Custody) (env : Env) (slashId : Nat) (record : SlashRecord) :
    Custody :=
  let held := custody.heldFor slashId
  let credited := custody.recordStake record.provider
    ((custody.stakeInfo record.provider).restored (amountToRestore held record) env.timestamp)
  if 0 < held then credited.releaseFunds slashId else credited

/-- What a resolution does before it records the decision. -/
inductive Settled (env : Env) (pre : World) (slashId : Nat) (token : Address)
    (record : SlashRecord) : Bool → World → Prop
  | burned (parked : 0 < pre.vault.custody.heldFor slashId)
      (accepted : pre.tokens.refusal env token pre.self
        (pre.vault.custody.heldFor slashId) = none) :
      Settled env pre slashId token record true
        ((pre.setCustody (pre.vault.custody.releaseFunds slashId)).setTokens
          (pre.tokens.burned token pre.self (pre.vault.custody.heldFor slashId)))
  | stands (empty : ¬ 0 < pre.vault.custody.heldFor slashId) :
      Settled env pre slashId token record true pre
  | reversed : Settled env pre slashId token record false
      (pre.setCustody (pre.vault.custody.reversed env slashId record))

theorem Settled.multisig {slashId : Nat} {token : Address} {record : SlashRecord} {uphold : Bool}
    {middle : World} (settled : Settled env pre slashId token record uphold middle) :
    middle.vault.multisig = pre.vault.multisig := by
  cases settled <;> rfl

/-- How a resolution stops: before its first write, or at a refused burn, when the
parked funds' entry is already gone. -/
inductive ResolveStopped (env : Env) (pre : World) (slashId : Nat) (uphold : Bool) : World → Prop
  | early (blocked : ∀ token record appeal, ¬ Resolvable pre slashId token record appeal) :
      ResolveStopped env pre slashId uphold pre
  | unburned (token : Address) (record : SlashRecord) (appeal : SlashAppeal)
      (resolvable : Resolvable pre slashId token record appeal) (upheld : uphold = true)
      (parked : 0 < pre.vault.custody.heldFor slashId) (failure : TokenFailure)
      (refused : pre.tokens.refusal env token pre.self
        (pre.vault.custody.heldFor slashId) = some failure) :
      ResolveStopped env pre slashId uphold
        ((pre.setCustody (pre.vault.custody.releaseFunds slashId)).setTokens
          pre.tokens.refused)

/-- The status a resolution decides. -/
def decision (uphold : Bool) : AppealStatus := if uphold = true then .upheld else .reversed

theorem doResolveAppeal_spec (slashId : Nat) (uphold : Bool) :
    wp (doResolveAppeal env slashId uphold)
      (fun _ after => ∃ token record appeal middle, Resolvable pre slashId token record appeal ∧
        Settled env pre slashId token record uphold middle ∧
        after = middle.decided slashId appeal (decision uphold))
      (fun fault after => fault ≠ .trap ∧ ResolveStopped env pre slashId uphold after) pre := by
  simp only [doResolveAppeal, wp_rules, wp_getStakeToken, wp_ite, wp_burn]
  refine ⟨fun record recorded => ⟨fun appeal appealed => ⟨fun pending => ⟨fun token configured =>
    ⟨fun upheld => ⟨fun parked => ⟨fun failure refused => ?_, fun accepted => ?_⟩, fun empty => ?_⟩,
    fun reversed => ⟨fun parked => ?_, fun empty => ?_⟩⟩, fun unconfigured => ?_⟩,
    fun resolved => ?_⟩, fun unappealed => ?_⟩, fun unrecorded => ?_⟩
  · exact ⟨by simp, .unburned token record appeal ⟨configured, recorded, appealed, pending⟩ upheld
      parked failure refused⟩
  · subst upheld
    exact ⟨token, record, appeal, _, ⟨configured, recorded, appealed, pending⟩,
      .burned parked accepted, rfl⟩
  · subst upheld
    exact ⟨token, record, appeal, _, ⟨configured, recorded, appealed, pending⟩, .stands empty, rfl⟩
  · obtain rfl : uphold = false := by simpa using reversed
    refine ⟨token, record, appeal, _, ⟨configured, recorded, appealed, pending⟩, .reversed, ?_⟩
    simp only [Custody.reversed, if_pos parked]
    rfl
  · obtain rfl : uphold = false := by simpa using reversed
    refine ⟨token, record, appeal, _, ⟨configured, recorded, appealed, pending⟩, .reversed, ?_⟩
    simp only [Custody.reversed, if_neg empty]
    rfl
  · exact ⟨by simp, .early fun _ _ _ resolvable =>
      Option.some_ne_none _ (resolvable.configured.symm.trans unconfigured)⟩
  · exact ⟨by simp, .early fun _ _ _ resolvable =>
      resolved (Option.mem_unique appealed resolvable.appealed ▸ resolvable.pending)⟩
  · exact ⟨by simp, .early fun _ _ _ resolvable =>
      Option.some_ne_none _ (resolvable.appealed.symm.trans unappealed)⟩
  · exact ⟨by simp, .early fun _ _ _ resolvable =>
      Option.some_ne_none _ (resolvable.recorded.symm.trans unrecorded)⟩

def AdminCalls : Prop :=
  ∃ admin, pre.vault.settings.admin = some admin ∧ admin ∈ env.auths ∧ admin ≠ pre.self

/-- The single-admin entry point resolves only while no multi-sig configuration is set. -/
theorem resolveAppeal_spec (slashId : Nat) (uphold : Bool) : wlp (resolveAppeal env slashId uphold)
      (fun _ after => pre.vault.multisig.config = none ∧ AdminCalls env pre ∧
        ∃ token record appeal middle, Resolvable pre slashId token record appeal ∧
        Settled env pre slashId token record uphold middle ∧
        after = middle.decided slashId appeal (decision uphold)) pre := by
  simp only [resolveAppeal, requireNoMultisig, wlp_rules, wp_getAdmin, wp_auth]
  intro solo admin has authorized
  refine wp_then (doResolveAppeal_spec env pre slashId uphold) ?_
  exact fun _ _ known => ⟨solo, ⟨admin, has, authorized⟩, known⟩

/-- The resolutions that a batch tries, with the world around each. -/
def resolveAttempts (slashIds : List Nat) (upholds : List Bool) :
    List (Attempt World StakeVaultError Unit (Nat × Bool)) :=
  attempts (fun item => doResolveAppeal env item.1 item.2) (slashIds.zip upholds) pre

/-- What a batch of resolutions is checked for: the administrator and its size. -/
structure BatchAdmitted (slashIds : List Nat) (upholds : List Bool) : Prop where
  authorized : AdminCalls env pre
  sized : slashIds.length ≠ 0 ∧ slashIds.length ≤ maxBatchSize
  matched : slashIds.length = upholds.length

theorem batchResolveAppeal_rule (slashIds : List Nat) (upholds : List Bool)
    (invariant : World → Prop) (keeps : BatchAdmitted env pre slashIds upholds →
      ∀ entry ∈ resolveAttempts env pre slashIds upholds,
        invariant entry.pre → invariant entry.after) (holds : invariant pre) :
    wlp (batchResolveAppeal env slashIds upholds) (fun _ after => invariant after) pre := by
  simp only [batchResolveAppeal, requireBatch, wlp_rules, wp_getAdmin, wp_auth]
  intro admin has authorized sized matched
  exact attemptEach_rule invariant _ pre
    (keeps ⟨⟨admin, has, authorized⟩, sized, matched⟩) holds

end Specifications

end StellarSwipe.StakeVault
