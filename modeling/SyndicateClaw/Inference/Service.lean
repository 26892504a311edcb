import SyndicateClaw.Async.Playback
import SyndicateClaw.Inference.Router

/-! `ProviderService`: chat, embedding and streamed chat. -/

namespace SyndicateClaw.Inference

open Async Authz Orchestrator Policy

section

variable {F : Type}

/-! ### The policy port -/

def gateAnswerOf : Except String PolicyDecision → GateAnswer
  | .error _ => .deny
  | .ok decision => if decision.effect ≠ .deny then .allow else .deny

def capabilityQuestion (capability : InferenceCapability) (actor scopeType scopeId : String) :
    PolicyQuestion :=
  { resourceType := "inference"
    resourceId := if capability = .chat then "chat" else "embedding"
    action := "invoke", actor
    context := [("scope_type", .str scopeType), ("scope_id", .str scopeId),
      ("capability", .str capability.value)] }

def ModelQuestion.policyQuestion (question : ModelQuestion) : PolicyQuestion :=
  { resourceType := "model", resourceId := question.providerId ++ ":" ++ question.modelId
    action := "use", actor := question.actor
    context := [("capability", .str question.capability.value),
      ("scope_type", .str question.scopeType), ("scope_id", .str question.scopeId),
      ("provider_id", .str question.providerId), ("model_id", .str question.modelId)] }

/-- `PolicyEngineRoutingPort`. -/
def policyEnginePort : PolicyRoutingPort F where
  gateInferenceCapability capability actor scopeType scopeId := do
    return gateAnswerOf (← evaluate (capabilityQuestion capability actor scopeType scopeId))
  gateModelUse question := do
    return gateAnswerOf (← evaluate question.policyQuestion)

/-! ### The binding -/

structure ExecutionBinding (F : Type) where
  systemConfig : ProviderSystemConfig F
  systemConfigVersion : String
  catalogSnapshotVersion : String

/-- `ExecutionBinding.capture`. -/
def capture : Inferring F (ExecutionBinding F) := do
  let world ← Co.get
  match world.loader with
  | none =>
      Co.raise { errorType := "RuntimeError"
                 message := "ProviderConfigLoader: no successful load yet" }
  | some (systemConfig, version) =>
      return { systemConfig, systemConfigVersion := toString version
               catalogSnapshotVersion := world.catalog.snapshotVersion }

/-- `provider_from_binding`. -/
def providerFromBinding (binding : ExecutionBinding F) (providerId : String) :
    Option ProviderConfig :=
  binding.systemConfig.providers.find? fun provider => provider.id = providerId

theorem id_of_binding {binding : ExecutionBinding F} {providerId : String} {provider : ProviderConfig}
    (found : providerFromBinding binding providerId = some provider) : provider.id = providerId := by
  simpa using List.find?_some found

/-! ### Attempts -/

theorem modelId_attempt (request : InferenceRequest) (providerId modelId : String) :
    (request.attempt providerId modelId).envelope.modelId = some modelId := by
  cases request <;> rfl

theorem modelId_call (provider : ProviderConfig) (request : InferenceRequest)
    (providerId modelId : String) (streaming : Bool) :
    AdapterCall.modelId { provider, request := request.attempt providerId modelId, streaming } =
      modelId := by
  unfold AdapterCall.modelId
  rw [modelId_attempt]
  rfl

structure Run (F : Type) where
  request : InferenceRequest
  binding : ExecutionBinding F
  inferenceId : String
  finalize : Bool

abbrev Details := List (String × Json)

/-- Where the pipelines of chat and embedding differ. -/
structure Pipeline (F : Type) where
  action : String
  startedDetails : Run F → Details
  routeFailedDetails : Run F → Failure → Details
  deadlineDetails : Run F → Nat → Option Details
  revalidates : ProviderRegistry → ModelCatalog F → (providerId modelId : String) → Bool
  /-- The `InferenceError`s after which the next candidate is attempted. -/
  passesOver : Failure → Bool
  stopDetails : Run F → (providerId modelId : String) → Failure → Option Details
  latency : (raw passed : Time) → Time
  completedDetails : Run F → RoutingDecision → (providerId modelId : String) → Nat →
    AdapterResponse → Details
  exhaustedDetails : Run F → Option Failure → Details

/-- An exception other than an `InferenceError` is always passed over. -/
def Pipeline.continues (pipeline : Pipeline F) (failure : Failure) : Bool :=
  failure.category.isNone || pipeline.passesOver failure

/-- `_emit_audit`. -/
def emitAudit (eventType : AuditEventType) (run : Run F) (action : String) (details : Details) :
    Inferring F Unit :=
  emit { eventType, actor := run.request.envelope.actor, resourceId := run.inferenceId, action
         traceId := run.request.envelope.traceId, details }

def callAdapter (call : AdapterCall) (routedAt : Time) :
    Inferring F (Except Failure AdapterResponse) := do
  Co.modify fun world => { world with dispatches := world.dispatches ++ [⟨call, routedAt⟩] }
  Co.await (.adapter call)
  let world ← Co.get
  return world.outside.adapter call

/-- The end of an inference that succeeded. -/
def complete (pipeline : Pipeline F) (run : Run F) (decision : RoutingDecision) (started : Time)
    (position : Nat) (providerId modelId : String) (raw : AdapterResponse) :
    Inferring F InferenceResponse := do
  let world ← Co.get
  let response : InferenceResponse :=
    { inferenceId := run.inferenceId, providerId, modelId := raw.modelId
      routingDecisionId := decision.id
      latency := pipeline.latency raw.latency (world.clock - started), body := raw.body }
  emitAudit .inferenceCompleted run pipeline.action
    (pipeline.completedDetails run decision providerId modelId position raw)
  if run.finalize then
    Co.await (.updateCompleted response)
    let world ← Co.get
    match world.outside.idempotencyUpdate with
    | none => return response
    | some failure => Co.raise failure
  else return response

/-- The loop over the chain, from a position on. -/
def attempts (pipeline : Pipeline F) (run : Run F) (decision : RoutingDecision) (started : Time) :
    Nat → List (String × String) → Option Failure → Inferring F InferenceResponse
  | _, [], lastError => do
      emitAudit .inferenceFailed run pipeline.action (pipeline.exhaustedDetails run lastError)
      Co.raise (executionError "all_candidates_failed" .provider)
  | position, (providerId, modelId) :: rest, lastError => do
      let world ← Co.get
      if started + run.binding.systemConfig.routing.maxTotalLatency < world.clock then
        match pipeline.deadlineDetails run position with
        | none => Co.raise (executionError "global_latency_cap_exceeded" .timeout)
        | some details =>
            emitAudit .inferenceFailed run pipeline.action details
            Co.raise (executionError "global_latency_cap_exceeded" .timeout)
      else
        match providerFromBinding run.binding providerId with
        | none => attempts pipeline run decision started (position + 1) rest lastError
        | some provider =>
            if !provider.enabled ||
                !pipeline.revalidates world.registry world.catalog providerId modelId then
              attempts pipeline run decision started (position + 1) rest lastError
            else
              let call : AdapterCall :=
                { provider, request := run.request.attempt providerId modelId }
              match ← callAdapter call started with
              | .ok raw => complete pipeline run decision started position providerId modelId raw
              | .error failure =>
                  if pipeline.continues failure then
                    attempts pipeline run decision started (position + 1) rest (some failure)
                  else
                    match pipeline.stopDetails run providerId modelId failure with
                    | none => Co.raise failure
                    | some details =>
                        emitAudit .inferenceFailed run pipeline.action details
                        Co.raise failure

/-! ### Idempotency -/

/-- `_idempotency_chat_begin` and `_idempotency_embedding_begin`: the id, whether the row is to be
finalized, and a response to replay. -/
def idempotencyBeginFor (request : InferenceRequest) :
    Inferring F (String × Bool × Option InferenceResponse) := do
  match explicit request.envelope.idempotencyKey with
  | none => return (← newUlid, false, none)
  | some _ =>
      Co.await .idempotencyBegin
      let world ← Co.get
      match world.outside.idempotencyBegin with
      | .ok begun => return begun
      | .error failure => Co.raise failure

/-- The `except` of `infer_chat` and `infer_embedding`. -/
def recordFailure {α : Type} (finalize : Bool) (failure : Failure) : Inferring F α :=
  if finalize then do
    Co.await (.updateFailed failure)
    let world ← Co.get
    match world.outside.idempotencyUpdate with
    | none => Co.raise failure
    | some other => Co.raise other
  else Co.raise failure

/-- `req.model_copy(update={"trace_id": req.trace_id or inference_id})`. -/
def InferenceRequest.traced (inferenceId : String) : InferenceRequest → InferenceRequest
  | .chat request =>
      .chat { request with traceId := (explicit (some request.traceId)).getD inferenceId }
  | .embedding request =>
      .embedding { request with traceId := (explicit (some request.traceId)).getD inferenceId }

end

/-! ### Pipelines -/

section

variable {F : Type}

/-- `part in text`. -/
def occurs (part text : String) : Bool := decide (part.toList <:+: text.toList)

/-- `"http_404" in str(error).lower()`. -/
def mentionsHttp404 (failure : Failure) : Bool := occurs "http_404" failure.message.toLower

def chatPipeline : Pipeline F where
  action := "chat"
  startedDetails run :=
    [("inference_id", jsonText run.inferenceId),
     ("system_config_version", jsonText run.binding.systemConfigVersion),
     ("catalog_snapshot_version", jsonText run.binding.catalogSnapshotVersion),
     ("request_hash", jsonText "pending")]
  routeFailedDetails run failure :=
    [("inference_id", jsonText run.inferenceId), ("phase", jsonText "route"),
     ("error", jsonText failure.message),
     ("system_config_version", jsonText run.binding.systemConfigVersion),
     ("catalog_snapshot_version", jsonText run.binding.catalogSnapshotVersion)]
  deadlineDetails run position :=
    some
      [("inference_id", jsonText run.inferenceId), ("phase", jsonText "deadline"),
       ("attempt", .int position),
       ("system_config_version", jsonText run.binding.systemConfigVersion)]
  revalidates registry catalog providerId modelId :=
    !registry.isRuntimeDisabled providerId && (catalog.get providerId modelId).isSome
  passesOver failure :=
    mentionsHttp404 failure || occurs "404" failure.message || failure.category ≠ some .validation
  stopDetails run providerId modelId failure :=
    some
      [("inference_id", jsonText run.inferenceId), ("phase", jsonText "adapter"),
       ("provider_id", jsonText providerId), ("model_id", jsonText modelId),
       ("error", jsonText failure.message),
       ("system_config_version", jsonText run.binding.systemConfigVersion)]
  latency raw passed := raw + passed
  completedDetails run decision providerId modelId position raw :=
    [("inference_id", jsonText run.inferenceId), ("provider_id", jsonText providerId),
     ("model_id", jsonText raw.modelId), ("routing_decision_id", jsonText decision.id),
     ("system_config_version", jsonText run.binding.systemConfigVersion),
     ("catalog_snapshot_version", jsonText run.binding.catalogSnapshotVersion),
     ("resolved_model_alias",
       jsonOption jsonText (if raw.modelId ≠ modelId then some raw.modelId else none)),
     ("fallback_position", .int position)]
  exhaustedDetails run lastError :=
    [("inference_id", jsonText run.inferenceId), ("phase", jsonText "exhausted"),
     ("last_error", jsonText ((lastError.map Failure.message).getD "")),
     ("system_config_version", jsonText run.binding.systemConfigVersion)]

def embeddingPipeline : Pipeline F where
  action := "embedding"
  startedDetails run :=
    [("inference_id", jsonText run.inferenceId),
     ("system_config_version", jsonText run.binding.systemConfigVersion),
     ("catalog_snapshot_version", jsonText run.binding.catalogSnapshotVersion)]
  routeFailedDetails run failure :=
    [("inference_id", jsonText run.inferenceId), ("phase", jsonText "route"),
     ("error", jsonText failure.message)]
  deadlineDetails _ _ := none
  revalidates _ _ _ _ := true
  passesOver failure := mentionsHttp404 failure
  stopDetails _ _ _ _ := none
  latency raw _ := raw
  completedDetails run decision providerId _ position raw :=
    [("inference_id", jsonText run.inferenceId), ("provider_id", jsonText providerId),
     ("model_id", jsonText raw.modelId), ("routing_decision_id", jsonText decision.id),
     ("system_config_version", jsonText run.binding.systemConfigVersion),
     ("fallback_position", .int position)]
  exhaustedDetails run lastError :=
    [("inference_id", jsonText run.inferenceId), ("phase", jsonText "exhausted"),
     ("last_error", jsonText ((lastError.map Failure.message).getD ""))]

end

section

variable {F : Type} [LinearOrder F] [Add F] [Sub F] [Mul F] [Div F] [IntCast F]
variable (hash : List Char → String)

/-- `_infer_chat_execute` and `_infer_embedding_execute`. -/
def execute (pipeline : Pipeline F) (run : Run F) : Inferring F InferenceResponse := do
  emitAudit .inferenceStarted run pipeline.action (pipeline.startedDetails run)
  let world ← Co.get
  let decision ← Co.tryCatch
    (route hash run.binding.systemConfig.routing run.request run.binding.systemConfig policyEnginePort
      none none)
    fun failure => do
      emitAudit .inferenceFailed run pipeline.action (pipeline.routeFailedDetails run failure)
      Co.raise failure
  attempts pipeline run decision world.clock 0 decision.chain none

def infer (pipeline : Pipeline F) (request : InferenceRequest) : Inferring F InferenceResponse := do
  let binding ← capture
  let (inferenceId, finalize, replay) ← idempotencyBeginFor request
  match replay with
  | some response => return response
  | none =>
      Co.tryCatch
        (execute hash pipeline { request := request.traced inferenceId, binding, inferenceId, finalize })
        (recordFailure finalize)

def inferChat (request : ChatInferenceRequest) : Inferring F InferenceResponse :=
  infer hash chatPipeline (.chat request)

def inferEmbedding (request : EmbeddingInferenceRequest) : Inferring F InferenceResponse :=
  infer hash embeddingPipeline (.embedding request)

def yieldAll : List String → Inferring F Unit
  | [] => return ()
  | text :: rest => do
      Co.await (.delta text)
      yieldAll rest

/-- `stream_chat`, consumed to its end. -/
def streamChat (request : ChatInferenceRequest) : Inferring F Unit := do
  let binding ← capture
  let inferenceId ← newUlid
  let run : Run F :=
    { request := (InferenceRequest.chat request).traced inferenceId, binding, inferenceId
      finalize := false }
  emitAudit .inferenceStreamStarted run "chat_stream"
    [("inference_id", jsonText inferenceId),
     ("system_config_version", jsonText binding.systemConfigVersion),
     ("catalog_snapshot_version", jsonText binding.catalogSnapshotVersion),
     ("status", jsonText "executing")]
  let world ← Co.get
  let decision ← route hash binding.systemConfig.routing run.request binding.systemConfig
    policyEnginePort none none
  match providerFromBinding binding decision.selectedProviderId with
  | none =>
      emitAudit .inferenceStreamFailed run "chat_stream"
        [("inference_id", jsonText inferenceId), ("error", jsonText "no_provider")]
  | some provider =>
      let call : AdapterCall :=
        { provider, streaming := true
          request := run.request.attempt decision.selectedProviderId decision.selectedModelId }
      let _ ← callAdapter call world.clock
      let world ← Co.get
      yieldAll (world.outside.stream call).1
      match (world.outside.stream call).2 with
      | some failure =>
          emitAudit .inferenceStreamFailed run "chat_stream"
            [("inference_id", jsonText inferenceId), ("error", jsonText failure.message)]
          Co.raise failure
      | none =>
          emitAudit .inferenceStreamCompleted run "chat_stream"
            [("inference_id", jsonText inferenceId),
             ("provider_id", jsonText decision.selectedProviderId),
             ("model_id", jsonText decision.selectedModelId),
             ("routing_decision_id", jsonText decision.id),
             ("system_config_version", jsonText binding.systemConfigVersion)]

inductive InferenceCall where
  | chat (request : ChatInferenceRequest)
  | embedding (request : EmbeddingInferenceRequest)
  | stream (request : ChatInferenceRequest)

def InferenceCall.run : InferenceCall → Inferring F Unit
  | .chat request => do
      let _ ← inferChat hash request
      return ()
  | .embedding request => do
      let _ ← inferEmbedding hash request
      return ()
  | .stream request => streamChat hash request

end

end SyndicateClaw.Inference
