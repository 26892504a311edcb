import SyndicateClaw.Authz.Evaluator
import SyndicateClaw.Inference.Requests

/-! Provider configurations, and the registry of the state of providers. -/

namespace SyndicateClaw.Inference

open Authz

/-! ### Configurations -/

inductive AdapterProtocol where
  | openaiCompatible
  | ollamaNative
  deriving DecidableEq

inductive ProviderStatus where
  | active
  | degraded
  | unavailable
  | disabled
  deriving DecidableEq

inductive CircuitState where
  | closed
  | opened
  | halfOpen
  deriving DecidableEq

inductive ProviderTrustTier where
  | trusted
  | restricted
  | untrusted
  deriving DecidableEq

structure ProviderConfig where
  id : String
  adapterProtocol : AdapterProtocol := .openaiCompatible
  capabilities : List InferenceCapability
  allowedModels : Option (List String) := none
  deniedModels : Option (List String) := none
  enabled : Bool := true
  maxAllowedSensitivity : DataSensitivity := .internal
  trustTier : ProviderTrustTier := .restricted

/-- `_sensitivity_rank`. -/
def DataSensitivity.rank : DataSensitivity → Nat
  | .publicData => 0
  | .internal => 1
  | .confidential => 2
  | .restricted => 3

/-- `_sensitivity_allowed`. -/
def sensitivityAllowed (requestLevel providerMax : DataSensitivity) : Bool :=
  requestLevel.rank ≤ providerMax.rank

/-! ### Circuits -/

/-- `SlidingWindowCircuitBreaker`. -/
structure CircuitBreaker where
  failureThreshold : Int := 5
  windowSeconds : Time := 60
  openSeconds : Time := 30
  failTimes : List Time := []
  current : CircuitState := .closed
  openedAt : Option Time := none

def CircuitBreaker.cooled (breaker : CircuitBreaker) (now : Time) : Bool :=
  breaker.current = .opened && breaker.openedAt.any fun since => breaker.openSeconds ≤ now - since

/-- `state`, which moves an open circuit to half-open when its time is over. -/
def CircuitBreaker.state (breaker : CircuitBreaker) (now : Time) : CircuitBreaker :=
  if breaker.cooled now then { breaker with current := .halfOpen } else breaker

/-- `record_failure`. -/
def CircuitBreaker.recordFailure (breaker : CircuitBreaker) (now : Time) : CircuitBreaker :=
  let failTimes := (breaker.failTimes ++ [now]).dropWhile fun time =>
    time < now - breaker.windowSeconds
  if breaker.failureThreshold ≤ failTimes.length then
    { breaker with failTimes, current := .opened, openedAt := some now }
  else { breaker with failTimes }

/-- `record_success`, which does not look at the time. -/
def CircuitBreaker.recordSuccess (breaker : CircuitBreaker) : CircuitBreaker :=
  match breaker.current with
  | .halfOpen => { breaker with current := .closed, failTimes := [], openedAt := none }
  | .closed => { breaker with failTimes := [] }
  | .opened => breaker

theorem CircuitBreaker.state_state (breaker : CircuitBreaker) (now : Time) :
    (breaker.state now).state now = breaker.state now := by
  unfold CircuitBreaker.state
  by_cases cooled : breaker.cooled now = true
  · rw [if_pos cooled, if_neg]
    exact nofun
  · rw [if_neg cooled, if_neg cooled]

/-! ### The registry -/

structure Ephemeral where
  health : ProviderStatus := .active
  circuit : CircuitBreaker := {}
  rateLimitCooldownUntil : Option Time := none
  runtimeDisabled : Bool := false

structure ProviderRegistry where
  providers : Dict String ProviderConfig
  ephemeral : Dict String Ephemeral

namespace ProviderRegistry

variable (registry : ProviderRegistry) (providerId : String) (now : Time)

def getProvider : Option ProviderConfig := Dict.get? registry.providers providerId

def tick : ProviderRegistry :=
  match Dict.get? registry.ephemeral providerId with
  | none => registry
  | some state =>
      { registry with
        ephemeral := Dict.set registry.ephemeral providerId
          { state with circuit := state.circuit.state now } }

def circuitState : CircuitState :=
  match Dict.get? registry.ephemeral providerId with
  | none => .closed
  | some state => (state.circuit.state now).current

def healthStatus : ProviderStatus :=
  ((Dict.get? registry.ephemeral providerId).map Ephemeral.health).getD .unavailable

def isRateLimitCooldown : Bool :=
  match Dict.get? registry.ephemeral providerId with
  | none => false
  | some state => state.rateLimitCooldownUntil.any fun until_ => now < until_

def isRuntimeDisabled : Bool :=
  ((Dict.get? registry.ephemeral providerId).map Ephemeral.runtimeDisabled).getD true

def changeCircuit (change : CircuitBreaker → CircuitBreaker) : ProviderRegistry :=
  match Dict.get? registry.ephemeral providerId with
  | none => registry
  | some state =>
      { registry with
        ephemeral := Dict.set registry.ephemeral providerId
          { state with circuit := change state.circuit } }

def recordCircuitFailure : ProviderRegistry :=
  registry.changeCircuit providerId fun circuit => circuit.recordFailure now

def recordCircuitSuccess : ProviderRegistry :=
  registry.changeCircuit providerId CircuitBreaker.recordSuccess

def setRuntimeDisabled (disabled : Bool) : ProviderRegistry :=
  match Dict.get? registry.ephemeral providerId with
  | none => registry
  | some state =>
      { registry with
        ephemeral := Dict.set registry.ephemeral providerId { state with runtimeDisabled := disabled } }

/-- At one time, two registries answer alike. -/
structure Alike (other : ProviderRegistry) : Prop where
  getProvider : ∀ providerId, other.getProvider providerId = registry.getProvider providerId
  circuitState : ∀ providerId,
    other.circuitState providerId now = registry.circuitState providerId now
  healthStatus : ∀ providerId, other.healthStatus providerId = registry.healthStatus providerId
  isRateLimitCooldown : ∀ providerId,
    other.isRateLimitCooldown providerId now = registry.isRateLimitCooldown providerId now
  isRuntimeDisabled : ∀ providerId,
    other.isRuntimeDisabled providerId = registry.isRuntimeDisabled providerId

theorem Alike.refl : registry.Alike now registry :=
  ⟨fun _ => rfl, fun _ => rfl, fun _ => rfl, fun _ => rfl, fun _ => rfl⟩

variable {registry now}

theorem Alike.trans {first second : ProviderRegistry} (before : registry.Alike now first)
    (after : first.Alike now second) : registry.Alike now second where
  getProvider p := (after.getProvider p).trans (before.getProvider p)
  circuitState p := (after.circuitState p).trans (before.circuitState p)
  healthStatus p := (after.healthStatus p).trans (before.healthStatus p)
  isRateLimitCooldown p := (after.isRateLimitCooldown p).trans (before.isRateLimitCooldown p)
  isRuntimeDisabled p := (after.isRuntimeDisabled p).trans (before.isRuntimeDisabled p)

theorem get?_tick (registry : ProviderRegistry) (now : Time) (providerId other : String) :
    Dict.get? (registry.tick providerId now).ephemeral other =
        Dict.get? registry.ephemeral other ∨
      ∃ state, Dict.get? registry.ephemeral other = some state ∧
        Dict.get? (registry.tick providerId now).ephemeral other =
          some { state with circuit := state.circuit.state now } := by
  unfold tick
  cases found : Dict.get? registry.ephemeral providerId with
  | none => exact .inl rfl
  | some state =>
      dsimp only
      by_cases same : other = providerId
      · subst same
        refine .inr ⟨state, found, ?_⟩
        rw [Dict.get?_set, if_pos rfl]
      · exact .inl (Dict.get?_set_of_ne _ _ same)

theorem alike_tick : registry.Alike now (registry.tick providerId now) := by
  constructor
  · intro other
    unfold tick
    split
    · rfl
    · rfl
  · intro other
    unfold circuitState
    rcases get?_tick registry now providerId other with same | ⟨state, found, ticked⟩
    · rw [same]
    · rw [found, ticked]
      exact congrArg CircuitBreaker.current (state.circuit.state_state now)
  · intro other
    unfold healthStatus
    rcases get?_tick registry now providerId other with same | ⟨state, found, ticked⟩
    · rw [same]
    · rw [found, ticked]
      rfl
  · intro other
    unfold isRateLimitCooldown
    rcases get?_tick registry now providerId other with same | ⟨state, found, ticked⟩
    · rw [same]
    · rw [found, ticked]
  · intro other
    unfold isRuntimeDisabled
    rcases get?_tick registry now providerId other with same | ⟨state, found, ticked⟩
    · rw [same]
    · rw [found, ticked]
      rfl

end ProviderRegistry

end SyndicateClaw.Inference
