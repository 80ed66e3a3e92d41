import StellarSwipe.Host
import StellarSwipe.Library.KeyedSum

/-!
# Rate limiting of stake changes

Each user has a fixed window that starts with its first action and counts the actions in it.
-/

namespace StellarSwipe.RateLimit

open FixedWidth

def secondsPerDay : Nat := 86400

def establishedDays : Nat := 30

def establishedTrustScore : Nat := 60

structure RateLimitConfig where
  windowSecs : Nat
  maxActions : Nat

structure RateLimitWindow where
  windowStart : Nat
  count : Nat

/-- The limiter's entries for stake changes. -/
structure Storage where
  config : Option RateLimitConfig
  userFirstAction : Table Address Nat
  window : Table Address RateLimitWindow

def Storage.empty : Storage := ⟨none, ∅, ∅⟩

/-- Five stake changes a day. -/
def defaultConfig : RateLimitConfig := ⟨secondsPerDay, 5⟩

variable (store : Storage)

def getConfig : RateLimitConfig := store.config.getD defaultConfig

/-- Twice the limit for users established by age and by trust. -/
def effectiveMax (config : RateLimitConfig) (firstAction now trustScore : Nat) : Nat :=
  if firstAction = 0 then config.maxActions
  else if establishedDays ≤ (now - firstAction) / secondsPerDay ∧
      establishedTrustScore ≤ trustScore then
    min (config.maxActions * 2) u32Max
  else config.maxActions

variable (env : Env) (user : Address)

/-- The actions counted in the user's window, none once it has elapsed. -/
def currentCount (windowSecs : Nat) : Nat :=
  match store.window.lookup user with
  | some window => if env.timestamp - window.windowStart < windowSecs then window.count else 0
  | none => 0

/-- Whether the user may act now. -/
def checkRateLimit (trustScore : Nat) : Prop :=
  let config := getConfig store
  let firstAction := (store.userFirstAction.lookup user).getD 0
  currentCount store env user config.windowSecs <
    effectiveMax config firstAction env.timestamp trustScore
deriving Decidable

/-- The window after one more action: a new one when the old has elapsed. -/
def nextWindow (window : RateLimitWindow) (now windowSecs : Nat) : RateLimitWindow :=
  let current := if windowSecs ≤ now - window.windowStart then ⟨now, 0⟩ else window
  { current with count := satCount u32Max current.count 1 }

def recordAction : Storage :=
  let now := env.timestamp
  let window := (store.window.lookup user).getD ⟨now, 0⟩
  { store with
    userFirstAction :=
      if store.userFirstAction.lookup user = none then store.userFirstAction.insert user now
      else store.userFirstAction
    window := store.window.insert user (nextWindow window now (getConfig store).windowSecs) }

end StellarSwipe.RateLimit
