import SyndicateClaw.Inference.Catalog
import SyndicateClaw.Inference.Idempotency
import SyndicateClaw.Inference.PolicyGates
import SyndicateClaw.Policy.Engine

/-! What inference requests share, and what they await. -/

namespace SyndicateClaw.Inference

open Async Authz Orchestrator Policy

/-! ### Errors -/

inductive ErrorCategory where
  | policy
  | provider
  | transport
  | timeout
  | validation
  | unknown
  deriving DecidableEq

inductive RoutingFailureReason where
  | policyDenied
  | pinMismatch
  | noCandidates
  deriving DecidableEq

/-- An exception. One with a category is an `InferenceError`. -/
structure Failure where
  errorType : String
  message : String
  category : Option ErrorCategory := none
  failureReason : Option RoutingFailureReason := none
  deriving DecidableEq

/-- `InferenceRoutingError`. -/
def routingError (message : String) (failureReason : RoutingFailureReason) : Failure :=
  { errorType := "InferenceRoutingError", message, category := some .validation
    failureReason := some failureReason }

/-- `InferenceExecutionError`. -/
def executionError (message : String) (category : ErrorCategory) : Failure :=
  { errorType := "InferenceExecutionError", message, category := some category }

/-! ### Calls out of the service -/

/-- The arguments of `PolicyEngine.evaluate`. -/
structure PolicyQuestion where
  resourceType : String
  resourceId : String
  action : String
  actor : String
  context : State

structure AdapterCall where
  provider : ProviderConfig
  request : InferenceRequest
  streaming : Bool := false

def AdapterCall.modelId (call : AdapterCall) : String := call.request.envelope.modelId.getD ""

structure AdapterResponse where
  modelId : String
  latency : Time
  body : Result

structure InferenceResponse where
  inferenceId : String
  providerId : String
  modelId : String
  routingDecisionId : String
  latency : Time
  body : Result

inductive AuditEventType where
  | inferenceStarted
  | inferenceCompleted
  | inferenceFailed
  | inferenceStreamStarted
  | inferenceStreamCompleted
  | inferenceStreamFailed
  deriving DecidableEq

structure AuditEvent where
  eventType : AuditEventType
  actor : String
  resourceId : String
  action : String
  traceId : String
  details : List (String × Json)

inductive Point where
  | evaluate (question : PolicyQuestion)
  | emit (event : AuditEvent)
  | adapter (call : AdapterCall)
  | delta (text : String)
  | idempotencyBegin
  | updateCompleted (response : InferenceResponse)
  | updateFailed (failure : Failure)

/-! ### The shared state -/

/-- What is up to others: what the adapters, the audit service and the idempotency store answer. A
stream is what arrives of it and how it ends. -/
structure Outside where
  adapter : AdapterCall → Except Failure AdapterResponse
  stream : AdapterCall → List String × Option Failure
  emit : AuditEvent → Option Failure
  idempotencyBegin : Except Failure (String × Bool × Option InferenceResponse)
  idempotencyUpdate : Option Failure

structure Evaluation where
  question : PolicyQuestion
  effect : PolicyEffect
  time : Time

/-- A call of an adapter, with the time when its candidates were routed. -/
structure Dispatch where
  call : AdapterCall
  routedAt : Time

/-- What the requests share. The calls are recorded for the proofs. -/
structure World (F : Type) where
  loader : Option (ProviderSystemConfig F × Nat)
  catalog : ModelCatalog F
  registry : ProviderRegistry
  policyCache : BoundedPolicyCache
  engine : PolicyEngine
  evaluations : List Evaluation
  dispatches : List Dispatch
  clock : Time
  ulids : Nat → String
  drawn : Nat
  outside : Outside

section

variable {F : Type} (world : World F)

def World.withRegistry (registry : ProviderRegistry) : World F := { world with registry }

def World.withCache (policyCache : BoundedPolicyCache) : World F := { world with policyCache }

@[simp] theorem World.registry_withRegistry (registry : ProviderRegistry) :
    (world.withRegistry registry).registry = registry := rfl

@[simp] theorem World.policyCache_withRegistry (registry : ProviderRegistry) :
    (world.withRegistry registry).policyCache = world.policyCache := rfl

@[simp] theorem World.registry_withCache (policyCache : BoundedPolicyCache) :
    (world.withCache policyCache).registry = world.registry := rfl

@[simp] theorem World.policyCache_withCache (policyCache : BoundedPolicyCache) :
    (world.withCache policyCache).policyCache = policyCache := rfl

end

def World.boot {F : Type} (system : ProviderSystemConfig F) (catalog : ModelCatalog F)
    (engine : PolicyEngine) (outside : Outside) : World F where
  loader := some (system, 1)
  catalog
  registry := .ofConfig system
  policyCache := { ttl := 60, maxEntries := 256, data := [] }
  engine
  evaluations := []
  dispatches := []
  clock := 0
  ulids n := toString n
  drawn := 0
  outside

abbrev Inferring (F α : Type) := Co (World F) Failure Point α

variable {F : Type}

/-- `str(ULID())`. -/
def newUlid : Inferring F String := do
  let world ← Co.get
  Co.modify fun world => { world with drawn := world.drawn + 1 }
  return world.ulids world.drawn

/-- `PolicyEngine.evaluate`. -/
def evaluate (question : PolicyQuestion) : Inferring F (Except String PolicyDecision) := do
  Co.await (.evaluate question)
  let world ← Co.get
  let outcome := world.engine.evaluate question.resourceType question.resourceId question.actor
    question.context
  match outcome with
  | .error _ => pure ()
  | .ok decision =>
      Co.modify fun world =>
        { world with
          evaluations := world.evaluations ++ [⟨question, decision.effect, world.clock⟩] }
  return outcome

/-- `AuditService.emit`. -/
def emit (event : AuditEvent) : Inferring F Unit := do
  Co.await (.emit event)
  let world ← Co.get
  match world.outside.emit event with
  | none => return ()
  | some failure => Co.raise failure

end SyndicateClaw.Inference
