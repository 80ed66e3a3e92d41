import StellarSwipe.StakeVault.Governance

/-!
# What an approved payload performs

Signers approve bytes, and every action with its arguments has one encoding.
-/

namespace StellarSwipe.StakeVault

open FixedWidth Program Multisig StellarSwipe.StakeVault.Action List

/-- An action with its arguments. -/
inductive Instruction where
  | pause
  | unpause
  | setMinimumStake (minimum : Int)
  | setMinimumStakeDuration (duration : Nat)
  | configureSlashTiers (tiers : SlashTierConfig)
  | setAppealWindow (window : Nat)
  | setWithdrawalCooldown (cooldown : Nat)
  | resolveAppeal (slashId : Nat) (uphold : Bool)

/-- The low bytes of a number, in the given count. -/
def encodeLittleEndian (value : Nat) : Nat → Bytes
  | 0 => []
  | count + 1 => UInt8.ofNat value :: encodeLittleEndian (value / 256) count

def encodeI128Bytes (value : Int) : Bytes := encodeLittleEndian (value % 2 ^ 128).toNat 16

def encodeAction (tag : UInt8) (data : Bytes) : Bytes := tag :: data

namespace Instruction

/-- The arguments fit their types. -/
def Fits : Instruction → Prop
  | .pause | .unpause => True
  | .setMinimumStake minimum => i128.Holds minimum
  | .configureSlashTiers ⟨minor, major, critical⟩ =>
    minor ≤ u32Max ∧ major ≤ u32Max ∧ critical ≤ u32Max
  | .setMinimumStakeDuration number | .setAppealWindow number | .setWithdrawalCooldown number
  | .resolveAppeal number _ => number ≤ u64Max

/-- The payload of an action: its tag and its arguments. -/
def encode : Instruction → Bytes
  | .pause => encodeAction 0 []
  | .unpause => encodeAction 1 []
  | .setMinimumStake minimum => encodeAction 2 (encodeI128Bytes minimum)
  | .setMinimumStakeDuration duration => encodeAction 3 (encodeLittleEndian duration 8)
  | .configureSlashTiers ⟨minor, major, critical⟩ => encodeAction 4
    (encodeI128Bytes minor ++ encodeI128Bytes major ++ encodeI128Bytes critical)
  | .setAppealWindow window => encodeAction 5 (encodeLittleEndian window 8)
  | .setWithdrawalCooldown cooldown => encodeAction 6 (encodeLittleEndian cooldown 8)
  | .resolveAppeal slashId uphold =>
    encodeAction 7 (encodeLittleEndian slashId 8 ++ [if uphold then 1 else 0])

/-- Perform an action with these arguments. -/
def perform (env : Env) : Instruction → VaultProgram Unit
  | .pause => changeSettings ({ · with paused := true })
  | .unpause => changeSettings ({ · with paused := false })
  | .setMinimumStake minimum => changeSettings ({ · with minimumStake := some minimum })
  | .setMinimumStakeDuration duration =>
    changeSettings ({ · with minimumStakeDuration := some duration })
  | .configureSlashTiers tiers => do
    ofExcept (validateSlashTiers tiers)
    changeSettings ({ · with slashTierConfig := some tiers })
  | .setAppealWindow window => do
    ofExcept (validateAppealWindow window)
    changeSettings ({ · with appealWindowSecs := some window })
  | .setWithdrawalCooldown cooldown => do
    ofExcept (validateCooldown cooldown)
    changeSettings ({ · with withdrawalCooldownSecs := some cooldown })
  | .resolveAppeal slashId uphold => doResolveAppeal env slashId uphold

def Executed (env : Env) (proposalId : Nat) (pre after : World) (instruction : Instruction) :
    Prop :=
  ∃ middle multisig, instruction.perform env pre = .ok () middle ∧
    markExecuted proposalId middle.vault.multisig = .ok () multisig ∧
    after = middle.setMultisig multisig

def read (payload : Bytes) : Action → Instruction
  | .pause => .pause
  | .unpause => .unpause
  | .setMinimumStake => .setMinimumStake (decodeI128FromBytes payload 1)
  | .setMinimumStakeDuration => .setMinimumStakeDuration (payloadNumber payload)
  | .configureSlashTiers => .configureSlashTiers (payloadTiers payload)
  | .setAppealWindow => .setAppealWindow (payloadNumber payload)
  | .setWithdrawalCooldown => .setWithdrawalCooldown (payloadNumber payload)
  | .resolveAppeal => .resolveAppeal (payloadNumber payload) (payloadUpholds payload)

theorem perform_read (env : Env) (payload : Bytes) (action : Action) :
    performAction env payload action = (read payload action).perform env := by
  cases action <;> rfl

end Instruction

/-- An executed payload is the encoding of what was performed, and nothing else was. -/
def PerformsExactly (payload : Bytes) : Prop :=
  ∀ (env : Env) (caller : Address) (proposalId : Nat) (pre after : World)
    (proposal : Multisig.Proposal),
    pre.vault.multisig.proposals.lookup proposalId = some proposal →
    proposal.payload = payload →
    executeAction env caller proposalId pre = .ok () after →
      ∃ instruction : Instruction, instruction.Fits ∧ instruction.encode = payload ∧
        instruction.Executed env proposalId pre after

def Action.size : Action → Nat
  | .pause | .unpause => 1
  | .setMinimumStake => 17
  | .setMinimumStakeDuration | .setAppealWindow | .setWithdrawalCooldown => 9
  | .configureSlashTiers => 49
  | .resolveAppeal => 10

/-- A payload has the length of its action, its tiers fit their type, and its last flag is
one or zero. -/
def WellFormed (payload : Bytes) : Prop :=
  ∃ action ∈ payload.head?.bind ofTag, payload.length = action.size ∧
    (action = .configureSlashTiers → ∀ offset ∈ [1, 17, 33],
      decodeI128FromBytes payload offset = payloadBps payload offset) ∧
    (action = .resolveAppeal → byteAt payload 9 ≤ 1)

/-- A payload has no known tag, or its numbers fail the checks of its action. -/
def Refused (payload : Bytes) : Prop :=
  ∀ action ∈ payload.head?.bind ofTag,
    (action = .configureSlashTiers ∧ validateSlashTiers (payloadTiers payload) ≠ .ok ()) ∨
    (action = .setAppealWindow ∧ validateAppealWindow (payloadNumber payload) ≠ .ok ()) ∨
    (action = .setWithdrawalCooldown ∧ validateCooldown (payloadNumber payload) ≠ .ok ())

section Codec

theorem decodeLittleEndian_lt (payload : Bytes) (offset count : Nat) :
    decodeLittleEndian payload offset count < 256 ^ count := by
  induction count generalizing offset with
  | zero => exact Nat.one_pos
  | succ count known =>
    have first : byteAt payload offset < 256 := UInt8.toNat_lt _
    have rest := known (offset + 1)
    rw [decodeLittleEndian, pow_succ]
    omega

/-- Encoding what was read gives the bytes back that are there. -/
theorem encode_decode {payload : Bytes} {offset count : Nat}
    (inside : offset + count ≤ payload.length) :
    encodeLittleEndian (decodeLittleEndian payload offset count) count =
      (payload.drop offset).take count := by
  induction count generalizing offset with
  | zero => simp [encodeLittleEndian]
  | succ count known =>
    have below : offset < payload.length := by omega
    have byte : byteAt payload offset = payload[offset].toNat := by simp [byteAt, below]
    have bounded := UInt8.toNat_lt payload[offset]
    rw [decodeLittleEndian, encodeLittleEndian, byte, Nat.add_mul_div_left _ _ (by decide),
      Nat.div_eq_of_lt bounded, Nat.zero_add, known (by omega), drop_eq_getElem_cons below,
      take_succ_cons]
    congr 1
    apply UInt8.toNat_inj.mp
    rw [UInt8.toNat_ofNat', Nat.add_mul_mod_self_left]
    exact Nat.mod_eq_of_lt bounded

theorem encodeI128_decode {payload : Bytes} {offset : Nat} (inside : offset + 16 ≤ payload.length) :
    encodeI128Bytes (decodeI128FromBytes payload offset) = (payload.drop offset).take 16 := by
  have bounded := decodeLittleEndian_lt payload offset 16
  have unsigned : (decodeI128FromBytes payload offset % 2 ^ 128).toNat =
      decodeLittleEndian payload offset 16 := by
    rw [decodeI128FromBytes]
    split <;> omega
  rw [encodeI128Bytes, unsigned, encode_decode inside]

theorem decodeI128_holds (payload : Bytes) (offset : Nat) :
    i128.Holds (decodeI128FromBytes payload offset) := by
  have bounded := decodeLittleEndian_lt payload offset 16
  rw [decodeI128FromBytes]
  split <;> exact ⟨by simp only [i128]; omega, by simp only [i128]; omega⟩

@[simp] theorem length_encodeLittleEndian (value count : Nat) :
    (encodeLittleEndian value count).length = count := by
  induction count generalizing value with
  | zero => rfl
  | succ count known => rw [encodeLittleEndian, length_cons, known]

theorem decode_encode (front back : Bytes) (value count : Nat) :
    decodeLittleEndian (front ++ (encodeLittleEndian value count ++ back)) front.length count =
      value % 256 ^ count := by
  induction count generalizing front value with
  | zero => simp [decodeLittleEndian, Nat.mod_one]
  | succ count known =>
    have later := known (front ++ [UInt8.ofNat value]) (value / 256)
    rw [length_append, length_singleton, append_assoc,
      singleton_append] at later
    rw [decodeLittleEndian, encodeLittleEndian, cons_append, later, byteAt,
      List.getElem?_append_right le_rfl, Nat.sub_self, pow_succ', Nat.mod_mul]
    simp

theorem decodeI128_encode {value : Nat} (fits : value ≤ u32Max) (front back : Bytes) :
    decodeI128FromBytes (front ++ (encodeI128Bytes value ++ back)) front.length = value := by
  have small : value < 2 ^ 32 := Nat.lt_succ_of_le fits
  have unsigned : ((value : Int) % 2 ^ 128).toNat = value := by omega
  rw [decodeI128FromBytes, encodeI128Bytes, unsigned, decode_encode, Nat.mod_eq_of_lt (by omega)]
  exact if_pos (by omega)

end Codec

section Payloads

variable {payload : Bytes} {action : Action}

theorem Action.ofTag_inj {first second : UInt8} (known : ofTag first = some action)
    (same : ofTag second = some action) : first = second := by
  apply UInt8.toNat_inj.mp
  unfold ofTag at known same
  split at known <;> cases known <;> split at same <;> simp_all

theorem encode_read (tagged : payload.head?.bind ofTag = some action)
    (length : payload.length = action.size)
    (tiers : action = .configureSlashTiers → ∀ offset ∈ [1, 17, 33],
      decodeI128FromBytes payload offset = payloadBps payload offset)
    (flag : action = .resolveAppeal → byteAt payload 9 ≤ 1) :
    (Instruction.read payload action).Fits ∧
      (Instruction.read payload action).encode = payload := by
  have number : payloadNumber payload ≤ u64Max :=
    Nat.le_of_lt_succ (decodeLittleEndian_lt payload 1 8)
  have bps (offset : Nat) : payloadBps payload offset ≤ u32Max := by
    rw [payloadBps, u32Max]
    omega
  cases payload with
  | nil => cases tagged
  | cons tag rest =>
    rw [length_cons] at length
    have encoded {literal : UInt8} (same : ofTag literal = some action) {data : Bytes}
        (given : data = rest) : encodeAction literal data = tag :: rest :=
      congrArg₂ List.cons (ofTag_inj same tagged) given
    have numbered (long : 8 ≤ rest.length) :
        encodeLittleEndian (payloadNumber (tag :: rest)) 8 = rest.take 8 :=
      encode_decode (by rw [length_cons]; omega)
    cases action with
    | pause | unpause =>
      have empty : rest.length = 0 := by simpa [Action.size] using length
      exact ⟨trivial, encoded rfl (eq_nil_of_length_eq_zero empty).symm⟩
    | setMinimumStake =>
      have long : rest.length = 16 := by simpa [Action.size] using length
      refine ⟨decodeI128_holds _ _, encoded rfl ?_⟩
      exact (encodeI128_decode (by rw [length_cons]; omega)).trans
        (take_of_length_le long.le)
    | setMinimumStakeDuration | setAppealWindow | setWithdrawalCooldown =>
      have long : rest.length = 8 := by simpa [Action.size] using length
      exact ⟨number, encoded rfl ((numbered long.ge).trans (take_of_length_le long.le))⟩
    | configureSlashTiers =>
      have long : rest.length = 48 := by simpa [Action.size] using length
      have tier {offset : Nat} (listed : offset + 1 ∈ [1, 17, 33]) :
          encodeI128Bytes (payloadBps (tag :: rest) (offset + 1)) = (rest.drop offset).take 16 := by
        rw [← tiers rfl _ listed]
        refine encodeI128_decode ?_
        rw [length_cons, long]
        simp at listed
        omega
      refine ⟨⟨bps 1, bps 17, bps 33⟩, encoded rfl ?_⟩
      have first := @tier 0 (by simp)
      have second := @tier 16 (by simp)
      have third := @tier 32 (by simp)
      have rear : (rest.drop 32).take 16 = rest.drop 32 :=
        take_of_length_le (by rw [length_drop, long])
      rw [first, second, third, rear, append_assoc, ← @List.drop_drop _ 16 16 rest,
        take_append_drop]
      exact take_append_drop 16 rest
    | resolveAppeal =>
      have long : rest.length = 9 := by simpa [Action.size] using length
      refine ⟨number, encoded rfl ?_⟩
      have last : rest.drop 8 = [rest[8]] := by
        rw [drop_eq_getElem_cons (by omega), drop_of_length_le (by omega)]
      have byte : byteAt (tag :: rest) 9 = rest[8].toNat := by simp [byteAt, long]
      have bit := flag rfl
      rw [byte] at bit
      rw [numbered (by omega), payloadUpholds, byte]
      conv_rhs => rw [← take_append_drop 8 rest, last]
      congr 2
      apply UInt8.toNat_inj.mp
      simp only [decide_eq_true_eq]
      split
      next up => exact up.symm
      next down => exact (Nat.lt_one_iff.mp (bit.lt_of_ne down)).symm

theorem payloadBps_of_small {offset value : Nat} (small : value ≤ u32Max)
    (hit : decodeI128FromBytes payload offset = value) :
    decodeI128FromBytes payload offset = payloadBps payload offset := by
  rw [payloadBps, hit]
  rw [u32Max] at small
  omega

theorem encode_wellFormed {instruction : Instruction} (fits : instruction.Fits) :
    WellFormed instruction.encode := by
  have wide (value : Int) : (encodeI128Bytes value).length = 16 := length_encodeLittleEndian _ _
  have narrow (tag : UInt8) (value : Nat) :
      (encodeAction tag (encodeLittleEndian value 8)).length = 9 :=
    congrArg (· + 1) (length_encodeLittleEndian _ _)
  cases instruction with
  | pause => exact ⟨.pause, rfl, rfl, nofun, nofun⟩
  | unpause => exact ⟨.unpause, rfl, rfl, nofun, nofun⟩
  | setMinimumStake => exact ⟨.setMinimumStake, rfl, congrArg (· + 1) (wide _), nofun, nofun⟩
  | setMinimumStakeDuration =>
    exact ⟨.setMinimumStakeDuration, rfl, narrow _ _, nofun, nofun⟩
  | setAppealWindow => exact ⟨.setAppealWindow, rfl, narrow _ _, nofun, nofun⟩
  | setWithdrawalCooldown => exact ⟨.setWithdrawalCooldown, rfl, narrow _ _, nofun, nofun⟩
  | configureSlashTiers tiers =>
    obtain ⟨minor, major, critical⟩ := tiers
    obtain ⟨first, second, third⟩ := fits
    refine ⟨.configureSlashTiers, rfl, ?_, fun _ offset listed => ?_, nofun⟩
    · simp [Instruction.encode, encodeAction, wide, Action.size]
    · simp only [mem_cons, not_mem_nil, or_false] at listed
      rcases listed with rfl | rfl | rfl
      · have hit := decodeI128_encode first [4]
          (encodeI128Bytes major ++ encodeI128Bytes critical)
        exact payloadBps_of_small first (by simpa [Instruction.encode, encodeAction] using hit)
      · have hit := decodeI128_encode second (4 :: encodeI128Bytes minor)
          (encodeI128Bytes critical)
        exact payloadBps_of_small second
          (by simpa [Instruction.encode, encodeAction, wide] using hit)
      · have hit := decodeI128_encode third
          (4 :: (encodeI128Bytes minor ++ encodeI128Bytes major)) []
        exact payloadBps_of_small third
          (by simpa [Instruction.encode, encodeAction, wide] using hit)
  | resolveAppeal slashId uphold =>
    refine ⟨.resolveAppeal, rfl, ?_, nofun, fun _ => ?_⟩
    · simp [Instruction.encode, encodeAction, Action.size]
    · cases uphold <;> simp [Instruction.encode, encodeAction, byteAt]

end Payloads

section Execution

variable {env : Env} {caller : Address} {proposalId : Nat} {pre after : World}
  {proposal : Multisig.Proposal}

theorem executeAction_performs
    (has : pre.vault.multisig.proposals.lookup proposalId = some proposal)
    (gave : executeAction env caller proposalId pre = .ok () after) :
    ∃ action ∈ proposal.payload.head?.bind ofTag,
      (Instruction.read proposal.payload action).Executed env proposalId pre after := by
  have ignored (reason : Fault Multisig.MultisigError) : reason.holds (fun _ => True) True := by
    cases reason <;> trivial
  have performs : wlp (executeAction env caller proposalId)
      (fun _ after => ∃ action ∈ proposal.payload.head?.bind ofTag,
        (Instruction.read proposal.payload action).Executed env proposalId pre after)
      pre := by
    simp only [executeAction, getProposal, wlp_rules, wp_auth, wp_onMultisig,
      Fault.holds_error, has]
    rintro _ _ ⟨⟩
    refine wp_mono (requireCanExecute_spec env proposal _) ?_
      fun reason _ _ => ignored reason
    rintro _ _ ⟨rfl, _⟩ tag first action known
    refine (wp_iff _).mpr ⟨fun _ middle ran => (wp_iff _).mpr ⟨fun _ multisig marked => ?_,
      fun reason _ _ => ignored reason⟩, fun _ _ _ => trivial⟩
    rw [Instruction.perform_read] at ran
    exact ⟨action, by simp [first, known], middle, multisig, ran, marked, rfl⟩
  exact wp_ok performs gave

/-- A vault in which the payload is approved and the slash that it may name is appealed. -/
def approvedVault (payload : Bytes) : World :=
  { World.fresh 0 ⟨fun _ _ => 0, 0⟩ with
    vault := { Vault.empty with
      settings := { Vault.empty.settings with stakeToken := some 1 }
      slashing := { Slashing.empty with
        slashRecord := (∅ : Table Nat SlashRecord).insert (payloadNumber payload)
          ⟨payloadNumber payload, 2, .minor, 0, 0, "", 0⟩
        slashAppeal := (∅ : Table Nat SlashAppeal).insert (payloadNumber payload)
          ⟨payloadNumber payload, 2, "", 0, .pending⟩ }
      multisig := ⟨some ⟨[], 0, 0⟩, none, (∅ : Table Nat Multisig.Proposal).insert 0
        ⟨0, 3, payload, [], .pending, 0, 0⟩⟩ } }

theorem executed_of_not_refused {payload : Bytes} (passes : ¬ Refused payload) :
    ∃ after, executeAction (.at 0 0 [3]) 3 0 (approvedVault payload) = .ok () after := by
  rw [Refused] at passes
  push Not at passes
  obtain ⟨action, tagged, tiers, window, cooldown⟩ := passes
  obtain ⟨tag, first, known⟩ := Option.bind_eq_some_iff.mp tagged
  have performs : wp (performAction (.at 0 0 [3]) payload action)
      (fun _ after => after.vault.multisig = (approvedVault payload).vault.multisig)
      (fun _ _ => False) (approvedVault payload) := by
    cases action with
    | pause | unpause | setMinimumStake | setMinimumStakeDuration =>
      simp only [performAction, changeSettings, wp_rules]
      rfl
    | configureSlashTiers =>
      simp only [performAction, changeSettings, wp_rules, tiers rfl]
      exact ⟨fun _ _ => rfl, by simp⟩
    | setAppealWindow =>
      simp only [performAction, changeSettings, wp_rules, window rfl]
      exact ⟨fun _ _ => rfl, by simp⟩
    | setWithdrawalCooldown =>
      simp only [performAction, changeSettings, wp_rules, cooldown rfl]
      exact ⟨fun _ _ => rfl, by simp⟩
    | resolveAppeal =>
      have recorded : (approvedVault payload).vault.slashing.slashRecord.lookup
          (payloadNumber payload) = some _ := AList.lookup_insert _
      have appealed : (approvedVault payload).vault.slashing.slashAppeal.lookup
          (payloadNumber payload) = some _ := AList.lookup_insert _
      have empty : (approvedVault payload).vault.custody.heldFor (payloadNumber payload) = 0 := rfl
      have token : (approvedVault payload).vault.settings.stakeToken = some 1 := rfl
      simp [performAction, doResolveAppeal, recorded, appealed, empty, token]
      exact ⟨fun _ => rfl, fun _ => rfl⟩
  have has : (approvedVault payload).vault.multisig.proposals.lookup 0 = some _ :=
    AList.lookup_insert _
  have marks : wp (performAction (.at 0 0 [3]) payload action)
      (fun _ after => (∀ hit, after.vault.multisig.proposals.lookup 0 = some hit →
        hit.status = .pending) ∧ ¬ after.vault.multisig.proposals.lookup 0 = none)
      (fun _ _ => False) (approvedVault payload) := by
    refine wp_mono performs (fun _ after same => ?_) fun _ _ never => never
    rw [same, has]
    exact ⟨fun _ hit => Option.some.inj hit ▸ rfl, by simp⟩
  have present : payload ≠ [] := fun none => by rw [none] at first; cases first
  have accepts : Accepts (executeAction (.at 0 0 [3]) 3 0) (approvedVault payload) := by
    rw [accepts_iff_wp, executeAction]
    simp only [getProposal, requireCanExecute, markExecuted]
    simp [has, first, known]
    refine ⟨fun _ _ => ⟨?_, by rintro ⟨⟩⟩, List.mem_singleton.mpr rfl, Nat.succ_ne_zero 2⟩
    rintro _ ⟨⟩
    exact ⟨fun _ => ⟨fun _ => ⟨marks, present⟩, rfl⟩, rfl⟩
  obtain ⟨_, gave⟩ := gave_of_accepts accepts
  exact ⟨_, gave⟩

theorem stopped_of_failed {check : Except StakeVaultError Unit} {next : VaultProgram Unit}
    (fails : check ≠ .ok ())
    (gave : (ofExcept check >>= fun _ => next) pre = .ok () after) : False := by
  cases check with
  | ok => exact fails rfl
  | error => cases gave

end Execution

/-- A payload is performed as exactly what it encodes, or not at all, if and only if it is
well-formed or no call that is read from it passes its checks. -/
theorem performs_exactly_iff (payload : Bytes) :
    PerformsExactly payload ↔ WellFormed payload ∨ Refused payload := by
  constructor
  · intro exact'
    refine or_iff_not_imp_right.mpr fun passes => ?_
    obtain ⟨after, gave⟩ := executed_of_not_refused passes
    obtain ⟨instruction, fits, rfl, _⟩ := exact' _ _ _ _ _ _ (AList.lookup_insert _) rfl gave
    exact encode_wellFormed fits
  · rintro (⟨action, tagged, length, tiers, flag⟩ | refused) env caller proposalId pre after
      proposal has rfl gave
    · obtain ⟨other, known, executed⟩ := executeAction_performs has gave
      cases Option.mem_unique tagged known
      obtain ⟨fits, encodes⟩ := encode_read tagged length tiers flag
      exact ⟨_, fits, encodes, executed⟩
    · obtain ⟨action, known, middle, _, performed, _⟩ := executeAction_performs has gave
      rcases refused action known with ⟨rfl, fails⟩ | ⟨rfl, fails⟩ | ⟨rfl, fails⟩
      all_goals exact (stopped_of_failed fails performed).elim

/-- A tag alone is executed: it sets the minimum stake to zero. -/
theorem short_payload_executed : ¬ PerformsExactly [2] := by
  intro exact'
  obtain ⟨instruction, _, encodes, _⟩ := exact' (.at 0 0 [3]) 3 0 (approvedVault [2]) _ _
    (AList.lookup_insert _) rfl rfl
  cases instruction <;>
    simp [Instruction.encode, encodeAction, encodeI128Bytes, encodeLittleEndian] at encodes

end StellarSwipe.StakeVault
