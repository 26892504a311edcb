import SyndicateClaw.Data.JsonRoundtrip

/-! Requests of chat and embedding inference. -/

namespace SyndicateClaw.Inference

inductive InferenceCapability where
  | chat
  | embedding
  deriving DecidableEq

def InferenceCapability.value : InferenceCapability → String
  | .chat => "chat"
  | .embedding => "embedding"

inductive DataSensitivity where
  | publicData
  | internal
  | confidential
  | restricted
  deriving DecidableEq

def DataSensitivity.value : DataSensitivity → String
  | .publicData => "public"
  | .internal => "internal"
  | .confidential => "confidential"
  | .restricted => "restricted"

inductive ModelPinning where
  | required
  | preferred
  | none
  deriving DecidableEq

def ModelPinning.value : ModelPinning → String
  | .required => "required"
  | .preferred => "preferred"
  | .none => "none"

structure ChatMessage where
  role : String
  content : String

structure RequestEnvelope where
  modelId : Option String
  providerId : Option String
  actor : String
  scopeType : String
  scopeId : String
  sensitivity : DataSensitivity
  traceId : String
  idempotencyKey : Option String
  modelPinning : ModelPinning

/-- A temperature stands as its `repr`. -/
structure ChatInferenceRequest extends RequestEnvelope where
  messages : List ChatMessage
  temperature : Option (List Char)
  maxTokens : Option Int

structure EmbeddingInferenceRequest extends RequestEnvelope where
  inputs : List String

inductive InferenceRequest where
  | chat (request : ChatInferenceRequest)
  | embedding (request : EmbeddingInferenceRequest)

def InferenceRequest.envelope : InferenceRequest → RequestEnvelope
  | .chat request => request.toRequestEnvelope
  | .embedding request => request.toRequestEnvelope

/-- `_capability_for`. -/
def InferenceRequest.capability : InferenceRequest → InferenceCapability
  | .chat _ => .chat
  | .embedding _ => .embedding

/-- `req.model_copy(update={"provider_id": pid, "model_id": mid})`. -/
def InferenceRequest.attempt (providerId modelId : String) : InferenceRequest → InferenceRequest
  | .chat request => .chat { request with providerId := some providerId, modelId := some modelId }
  | .embedding request =>
      .embedding { request with providerId := some providerId, modelId := some modelId }

end SyndicateClaw.Inference
