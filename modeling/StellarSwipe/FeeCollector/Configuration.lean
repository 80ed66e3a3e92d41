import StellarSwipe.FeeCollector.Storage

/-!
# Configuring the collector

Each of these entry points checks its caller and its arguments and then changes settings, and
nothing else.
-/

namespace StellarSwipe.FeeCollector

open Program FixedWidth

def changeSettings (change : Settings → Settings) : FeeProgram Unit :=
  modify fun world => world.setSettings (change world.store.settings)

variable (env : Env) (caller : Address) (admin : Address)

/-- One-time initialization. -/
def initializeCollector : FeeProgram Unit := do
  requireAuth env admin
  ensure ((← get).store.settings.initialized = false) .alreadyInitialized
  changeSettings fun settings => { settings with admin := some admin, initialized := true }

def adminSetting (check : Except ContractError Unit) (change : Settings → Settings) :
    FeeProgram Unit := do
  requireInitialized
  requireAdmin env
  ofExcept check
  changeSettings change

def namedSetting (check : Except ContractError Unit) (change : Settings → Settings) :
    FeeProgram Unit := do
  requireNamedAdmin env admin
  ofExcept check
  changeSettings change

/-- A condition on an argument, with the error of its violation. -/
def check (condition : Prop) [Decidable condition] (reason : ContractError) :
    Except ContractError Unit :=
  if condition then .ok () else .error reason

def pause : FeeProgram Unit :=
  adminSetting env (.ok ()) fun settings => { settings with paused := true }

def unpause : FeeProgram Unit :=
  adminSetting env (.ok ()) fun settings => { settings with paused := false }

def authorizeCaller : FeeProgram Unit :=
  adminSetting env (.ok ()) fun settings =>
    { settings with authorizedCaller := settings.authorizedCaller.insert caller true }

def revokeCaller : FeeProgram Unit :=
  adminSetting env (.ok ()) fun settings =>
    { settings with authorizedCaller := settings.authorizedCaller.erase caller }

def setOracleContract (oracleContract : Address) : FeeProgram Unit :=
  adminSetting env (.ok ()) fun settings => { settings with oracleContract := some oracleContract }

def setFeeRate (newRateBps : Nat) : FeeProgram Unit :=
  adminSetting env (do
    check (newRateBps ≤ maxFeeRateBps) .feeRateTooHigh
    check (minFeeRateBps ≤ newRateBps) .feeRateTooLow)
    fun settings => { settings with feeRate := some newRateBps }.bumpConfigVersion

def setBurnRate (newRateBps : Nat) : FeeProgram Unit :=
  adminSetting env (check (newRateBps ≤ maxBurnRateBps) .burnRateTooHigh)
    fun settings => { settings with burnRate := some newRateBps }.bumpConfigVersion

/-- A congestion configuration with its bounds in order. -/
def CongestionConfig.Valid (config : CongestionConfig) : Prop :=
  config.minMultiplierBps ≠ 0 ∧ config.minMultiplierBps ≤ config.maxMultiplierBps ∧
    config.minMultiplierBps ≤ config.defaultMultiplierBps ∧
    config.defaultMultiplierBps ≤ config.maxMultiplierBps
deriving Decidable

def setCongestionConfig (config : CongestionConfig) : FeeProgram Unit :=
  adminSetting env (check config.Valid .invalidMultiplierBounds)
    fun settings => { settings with congestionConfig := some config }

/-- Admin or keeper: push the current congestion signal. -/
def setCongestionSignal (multiplierBps : Nat) : FeeProgram Unit := do
  requireInitialized
  requireAdminOrListed env caller
  let config := (← get).store.settings.getCongestionConfig
  ensure (config.minMultiplierBps ≤ multiplierBps ∧ multiplierBps ≤ config.maxMultiplierBps)
    .invalidMultiplierBounds
  changeSettings fun settings =>
    { settings with congestionSignal := some ⟨multiplierBps, env.timestamp⟩ }

/-- A fee optimization within the limits of the collector. -/
def FeeOptimizationConfig.Valid (config : FeeOptimizationConfig) : Prop :=
  minFeeRateBps ≤ config.maxDynamicRateBps ∧ config.maxDynamicRateBps ≤ maxFeeRateBps ∧
    config.congestionSensitivityBps ≤ 10000 ∧ minFeeRateBps ≤ config.minEffectiveRateBps ∧
    config.maxRetryAttempts ≤ 10
deriving Decidable

def setFeeOptimizationConfig (config : FeeOptimizationConfig) : FeeProgram Unit :=
  namedSetting env admin (check config.Valid .invalidFeeConfiguration)
    fun settings => { settings with feeOptimizationConfig := some config }.bumpConfigVersion

def updateNetworkConditions (scoreBps : Nat) : FeeProgram Unit :=
  namedSetting env admin (check (scoreBps ≤ 10000) .networkConditionInvalid)
    fun settings => { settings with networkConditionScore := some scoreBps }.bumpConfigVersion

def setProtocolToken (token : Option Address) : FeeProgram Unit :=
  adminSetting env (.ok ()) fun settings =>
    { settings with protocolToken := some (token.getD clearedProtocolToken) }

def registerToken (token : Address) (metadata : TokenMetadata) : FeeProgram Unit :=
  namedSetting env admin (check metadata.Valid .invalidTokenMetadata) fun settings =>
    { settings with
      registeredTokenMetadata := settings.registeredTokenMetadata.insert token metadata }

def setRevenueShareRateBps (rateBps : Nat) : FeeProgram Unit :=
  adminSetting env (check (rateBps ≤ 10000) .invalidAmount)
    fun settings => { settings with revenueShareRateBps := some rateBps }

def setWaterfallConfig (tiers : List WaterfallTier) : FeeProgram Unit :=
  adminSetting env (.ok ()) fun settings => { settings with waterfallConfig := some tiers }

/-- A setting that a user makes for itself. -/
def ownSetting (user : Address) (change : Settings → Settings) : FeeProgram Unit := do
  requireInitialized
  requireAuth env user
  changeSettings change

def setPayoutCurrency (provider preferredToken : Address) : FeeProgram Unit :=
  ownSetting env provider fun settings =>
    { settings with payoutCurrency := settings.payoutCurrency.insert provider preferredToken }

def clearPayoutCurrency (provider : Address) : FeeProgram Unit :=
  ownSetting env provider fun settings =>
    { settings with payoutCurrency := settings.payoutCurrency.erase provider }

/-- At least three tiers, each with a threshold that is not negative and a discount
between one basis point and the largest rate. -/
def ValidTiers (tiers : List VolumeTier) : Prop :=
  3 ≤ tiers.length ∧ ∀ tier ∈ tiers, 0 ≤ tier.volumeThresholdUsd ∧ tier.discountBps ≠ 0 ∧
    tier.discountBps ≤ maxFeeRateBps
deriving Decidable

def setVolumeDiscountConfig (tiers : List VolumeTier) : FeeProgram Unit :=
  namedSetting env admin (check (ValidTiers tiers) .invalidFeeConfiguration)
    fun settings => { settings with volumeDiscountConfig := some tiers }

/-- A referral of a trader by another, once. -/
def registerReferral (referrer referee : Address) : FeeProgram Unit := do
  requireInitialized
  requireAuth env referee
  ensure (referrer ≠ referee) .selfReferralNotAllowed
  ensure ((← get).store.settings.referrer.lookup referee = none) .referralAlreadyRegistered
  changeSettings fun settings =>
    { settings with referrer := settings.referrer.insert referee referrer }

def adminOverrideReferral (referrer referee : Address) : FeeProgram Unit :=
  namedSetting env admin (check (referrer ≠ referee) .selfReferralNotAllowed) fun settings =>
    { settings with referrer := settings.referrer.insert referee referrer }

def setReferralFeeShare (shareBps : Nat) : FeeProgram Unit :=
  namedSetting env admin (check (shareBps ≤ 10000) .invalidFeeConfiguration)
    fun settings => { settings with referralFeeShareBps := some shareBps }

def setMaxRebateBps (bps : Nat) : FeeProgram Unit :=
  adminSetting env (check (bps ≤ 10000) .invalidFeeConfiguration)
    fun settings => { settings with maxRebateBps := some bps }

def setInsurancePayoutCap (token : Address) (maxCap : Int) : FeeProgram Unit := do
  requireInitialized
  requireAuth env caller
  ensure (caller = (← getAdmin)) .unauthorizedCaller
  ensure (0 ≤ maxCap) .invalidAmount
  changeSettings fun settings =>
    { settings with insurancePayoutCap := settings.insurancePayoutCap.insert token maxCap }

/-- The calls that change settings. -/
inductive Setting where
  | initializeCollector (admin : Address)
  | pause
  | unpause
  | authorizeCaller (caller : Address)
  | revokeCaller (caller : Address)
  | setOracleContract (oracleContract : Address)
  | setFeeRate (newRateBps : Nat)
  | setBurnRate (newRateBps : Nat)
  | setCongestionConfig (config : CongestionConfig)
  | setCongestionSignal (caller : Address) (multiplierBps : Nat)
  | setFeeOptimizationConfig (admin : Address) (config : FeeOptimizationConfig)
  | updateNetworkConditions (admin : Address) (scoreBps : Nat)
  | setProtocolToken (token : Option Address)
  | registerToken (admin token : Address) (metadata : TokenMetadata)
  | setRevenueShareRateBps (rateBps : Nat)
  | setWaterfallConfig (tiers : List WaterfallTier)
  | setPayoutCurrency (provider preferredToken : Address)
  | clearPayoutCurrency (provider : Address)
  | setVolumeDiscountConfig (admin : Address) (tiers : List VolumeTier)
  | registerReferral (referrer referee : Address)
  | adminOverrideReferral (admin referrer referee : Address)
  | setReferralFeeShare (admin : Address) (shareBps : Nat)
  | setMaxRebateBps (bps : Nat)
  | setInsurancePayoutCap (caller token : Address) (maxCap : Int)

def Setting.exec : Setting → FeeProgram Unit
  | .initializeCollector admin => FeeCollector.initializeCollector env admin
  | .pause => FeeCollector.pause env
  | .unpause => FeeCollector.unpause env
  | .authorizeCaller caller => FeeCollector.authorizeCaller env caller
  | .revokeCaller caller => FeeCollector.revokeCaller env caller
  | .setOracleContract oracleContract => FeeCollector.setOracleContract env oracleContract
  | .setFeeRate newRateBps => FeeCollector.setFeeRate env newRateBps
  | .setBurnRate newRateBps => FeeCollector.setBurnRate env newRateBps
  | .setCongestionConfig config => FeeCollector.setCongestionConfig env config
  | .setCongestionSignal caller multiplierBps =>
    FeeCollector.setCongestionSignal env caller multiplierBps
  | .setFeeOptimizationConfig admin config =>
    FeeCollector.setFeeOptimizationConfig env admin config
  | .updateNetworkConditions admin scoreBps =>
    FeeCollector.updateNetworkConditions env admin scoreBps
  | .setProtocolToken token => FeeCollector.setProtocolToken env token
  | .registerToken admin token metadata => FeeCollector.registerToken env admin token metadata
  | .setRevenueShareRateBps rateBps => FeeCollector.setRevenueShareRateBps env rateBps
  | .setWaterfallConfig tiers => FeeCollector.setWaterfallConfig env tiers
  | .setPayoutCurrency provider preferredToken =>
    FeeCollector.setPayoutCurrency env provider preferredToken
  | .clearPayoutCurrency provider => FeeCollector.clearPayoutCurrency env provider
  | .setVolumeDiscountConfig admin tiers => FeeCollector.setVolumeDiscountConfig env admin tiers
  | .registerReferral referrer referee => FeeCollector.registerReferral env referrer referee
  | .adminOverrideReferral admin referrer referee =>
    FeeCollector.adminOverrideReferral env admin referrer referee
  | .setReferralFeeShare admin shareBps => FeeCollector.setReferralFeeShare env admin shareBps
  | .setMaxRebateBps bps => FeeCollector.setMaxRebateBps env bps
  | .setInsurancePayoutCap caller token maxCap =>
    FeeCollector.setInsurancePayoutCap env caller token maxCap

section Specifications

variable (env : Env) (pre : World)

/-- A program that does no more than change settings. -/
def Configures (program : FeeProgram Unit) : Prop :=
  ∀ pre, wp program (fun _ after => ∃ settings, after = pre.setSettings settings)
    (fun _ _ => True) pre

theorem changeSettings_configures (change : Settings → Settings) :
    Configures (changeSettings change) :=
  fun _ => ⟨_, rfl⟩

theorem adminSetting_configures (check : Except ContractError Unit)
    (change : Settings → Settings) : Configures (adminSetting env check change) := by
  intro pre
  simp only [adminSetting, requireAdmin, wlp_rules, wp_initialized, wp_getAdmin,
    wp_auth]
  exact fun _ _ _ _ _ _ => changeSettings_configures change pre

theorem namedSetting_configures (admin : Address) (check : Except ContractError Unit)
    (change : Settings → Settings) : Configures (namedSetting env admin check change) := by
  intro pre
  simp only [namedSetting, requireNamedAdmin, wlp_rules, wp_initialized, wp_getAdmin,
    wp_auth]
  exact fun _ _ _ _ _ _ _ => changeSettings_configures change pre

theorem ownSetting_configures (user : Address) (change : Settings → Settings) :
    Configures (ownSetting env user change) := by
  intro pre
  simp only [ownSetting, wp_bind, wp_initialized, wp_auth, asks_true]
  exact fun _ _ => changeSettings_configures change pre

theorem setting_configures (setting : Setting) : Configures (setting.exec env) := by
  cases setting with
  | initializeCollector =>
    intro pre
    simp only [Setting.exec, initializeCollector, wlp_rules, wp_auth]
    exact fun _ _ => changeSettings_configures _ pre
  | setCongestionSignal =>
    intro pre
    simp only [Setting.exec, setCongestionSignal, requireAdminOrListed, wlp_rules,
      wp_initialized, wp_auth, wp_getAdmin]
    exact fun _ _ _ _ _ _ => changeSettings_configures _ pre
  | registerReferral =>
    intro pre
    simp only [Setting.exec, registerReferral, wlp_rules, wp_initialized, wp_auth]
    exact fun _ _ _ _ => changeSettings_configures _ pre
  | setInsurancePayoutCap =>
    intro pre
    simp only [Setting.exec, setInsurancePayoutCap, wlp_rules, wp_initialized,
      wp_auth, wp_getAdmin]
    exact fun _ _ _ _ _ _ => changeSettings_configures _ pre
  | pause | unpause | authorizeCaller | revokeCaller | setOracleContract | setFeeRate
  | setBurnRate | setCongestionConfig | setProtocolToken | setRevenueShareRateBps
  | setWaterfallConfig | setMaxRebateBps => exact adminSetting_configures env _ _
  | setFeeOptimizationConfig | updateNetworkConditions | registerToken | setVolumeDiscountConfig
  | adminOverrideReferral | setReferralFeeShare => exact namedSetting_configures env _ _ _
  | _ => exact ownSetting_configures env _ _

end Specifications

end StellarSwipe.FeeCollector
