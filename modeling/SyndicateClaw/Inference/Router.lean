import SyndicateClaw.Inference.Fingerprints
import SyndicateClaw.Inference.World

/-! `InferenceRouter.route`. -/

namespace SyndicateClaw.Inference

open Async Authz Orchestrator Policy

structure ModelQuestion where
  providerId : String
  modelId : String
  capability : InferenceCapability
  actor : String
  scopeType : String
  scopeId : String

def InferenceRequest.modelQuestion (request : InferenceRequest) (providerId modelId : String) :
    ModelQuestion :=
  { providerId, modelId, capability := request.capability, actor := request.envelope.actor
    scopeType := request.envelope.scopeType, scopeId := request.envelope.scopeId }

/-- `_policy_model_key`, for some SHA-256 digest of texts. -/
def policyModelKey (hash : List Char → String) (question : ModelQuestion) : String :=
  hash ((canonicalJson (jsonDict
    [("provider_id", jsonText question.providerId), ("model_id", jsonText question.modelId),
     ("capability", jsonText question.capability.value), ("actor", jsonText question.actor),
     ("scope_type", jsonText question.scopeType), ("scope_id", jsonText question.scopeId)])).getD [])

/-- `PolicyRoutingPort`. -/
structure PolicyRoutingPort (F : Type) where
  gateInferenceCapability : InferenceCapability → (actor scopeType scopeId : String) →
    Inferring F GateAnswer
  gateModelUse : ModelQuestion → Inferring F GateAnswer

structure RoutingDecision where
  id : String
  selectedProviderId : String
  selectedModelId : String
  selectionReason : String
  fallbackChain : List (String × String)
  candidatesConsidered : Int
  candidatesFiltered : Int

def RoutingDecision.chain (decision : RoutingDecision) : List (String × String) :=
  (decision.selectedProviderId, decision.selectedModelId) :: decision.fallbackChain

/-! ### Pins and explicit ids -/

def explicit (id : Option String) : Option String := id.filter fun id => id ≠ ""

/-- `_pin_satisfied`. -/
def pinSatisfied (request : InferenceRequest) (resolvedPin : Option (String × String)) : Bool :=
  if request.envelope.modelPinning ≠ .required then true
  else if (explicit request.envelope.modelId).isSome && (explicit request.envelope.providerId).isSome
  then true
  else resolvedPin.isSome

section

variable {F : Type}

/-- `_narrow_explicit`. -/
def narrowExplicit (request : InferenceRequest) (rows : List (CatalogEntryRecord F)) :
    List (CatalogEntryRecord F) :=
  match explicit request.envelope.providerId, explicit request.envelope.modelId with
  | some providerId, some modelId =>
      rows.filter fun row => row.providerId = providerId && row.modelId = modelId
  | some providerId, none => rows.filter fun row => row.providerId = providerId
  | none, some modelId => rows.filter fun row => row.modelId = modelId
  | none, none => rows

/-! ### Scores -/

variable [LinearOrder F] [Add F] [Sub F] [Mul F] [Div F] [IntCast F]

/-- `_score`. -/
def score (descriptor : ModelDescriptor F) (provider : ProviderConfig) (sensitivity : DataSensitivity)
    (weights : RoutingWeights F) (costCap : F) (degraded : Bool) : F :=
  let cost := min (descriptor.cost.inputPerMillion + descriptor.cost.outputPerMillion) costCap
  let latencyProxy := ((1 : Int) : F) / ((max descriptor.limits.contextWindow 1 : Int) : F)
  let base := weights.cost * cost + weights.latencyProxy * latencyProxy
  let health := if degraded then base + weights.degradedPenalty else base
  let trusted :=
    if provider.trustTier = .trusted then health - weights.trustTierTrustedBonus else health
  let untrusted :=
    if provider.trustTier = .untrusted then trusted + weights.trustTierUntrustedPenalty else trusted
  if sensitivity.rank = provider.maxAllowedSensitivity.rank then
    untrusted - weights.sensitivityMatchBonus
  else untrusted

structure Scored (F : Type) where
  providerId : String
  modelId : String
  score : F

abbrev Scored.candidate (scored : Scored F) : String × String := (scored.providerId, scored.modelId)

def Scored.key (scored : Scored F) : F ×ₗ String ×ₗ String :=
  toLex (scored.score, toLex scored.candidate)

/-! ### The candidates -/

/-- The checks of a candidate before its gate: its configuration and its health if it passes, and
the registry after the checks. -/
def screen (registry : ProviderRegistry) (now : Time) (sensitivity : DataSensitivity)
    (providerId : String) : Option (ProviderConfig × ProviderStatus) × ProviderRegistry :=
  match registry.getProvider providerId with
  | none => (none, registry)
  | some provider =>
      if !provider.enabled || registry.isRuntimeDisabled providerId then (none, registry)
      else
        let ticked := registry.tick providerId now
        if registry.circuitState providerId now = .opened then (none, ticked)
        else if ticked.isRateLimitCooldown providerId now then (none, ticked)
        else if ticked.healthStatus providerId = .unavailable then (none, ticked)
        else if !sensitivityAllowed sensitivity provider.maxAllowedSensitivity then (none, ticked)
        else (some (provider, ticked.healthStatus providerId), ticked)

def gate (hash : List Char → String) (port : PolicyRoutingPort F) (now : Time)
    (question : ModelQuestion) : Inferring F GateAnswer := do
  let world ← Co.get
  Co.modify fun world =>
    world.withCache (world.policyCache.afterGet (policyModelKey hash question) now)
  match world.policyCache.answer? (policyModelKey hash question) now with
  | some answer => return answer
  | none =>
      let answer ← port.gateModelUse question
      Co.modify fun world =>
        world.withCache (world.policyCache.set (policyModelKey hash question) now answer)
      return answer

/-- The loop over the narrowed candidates, with what is scored and dropped so far. -/
def collect (hash : List Char → String) (routing : RoutingPolicyConfig F) (request : InferenceRequest)
    (port : PolicyRoutingPort F) (now : Time) :
    List (CatalogEntryRecord F) → List (Scored F) → Int → Inferring F (List (Scored F) × Int)
  | [], scored, dropped => return (scored, dropped)
  | entry :: rest, scored, dropped => do
      if routing.policyMaxCandidatesPerRequest ≤ scored.length then return (scored, dropped)
      else
        let world ← Co.get
        let screened := screen world.registry now request.envelope.sensitivity entry.providerId
        Co.modify fun world => world.withRegistry screened.2
        match screened.1 with
        | none => collect hash routing request port now rest scored (dropped + 1)
        | some (provider, health) =>
            let answer ← gate hash port now (request.modelQuestion entry.providerId entry.modelId)
            if answer ≠ .allow then
              collect hash routing request port now rest scored (dropped + 1)
            else
              let value := score entry.descriptor provider request.envelope.sensitivity
                routing.weights routing.costWeightCap (health = .degraded)
              collect hash routing request port now rest
                (scored ++ [⟨entry.providerId, entry.modelId, value⟩]) dropped

/-- `InferenceRouter.route`. -/
def route (hash : List Char → String) (routing : RoutingPolicyConfig F) (request : InferenceRequest)
    (system : ProviderSystemConfig F) (port : PolicyRoutingPort F)
    (resolvedPin : Option (String × String)) (now : Option Time) : Inferring F RoutingDecision := do
  let world ← Co.get
  let now := now.getD world.clock
  if !system.inferenceEnabled then
    Co.raise (routingError "inference_disabled" .noCandidates)
  else
    let answer ← port.gateInferenceCapability request.capability request.envelope.actor
      request.envelope.scopeType request.envelope.scopeId
    if answer ≠ .allow then
      Co.raise (routingError "inference_capability_denied" .policyDenied)
    else if !pinSatisfied request resolvedPin then
      Co.raise (routingError "model_pin_required" .pinMismatch)
    else
      let world ← Co.get
      let candidates :=
        sortBy CatalogEntryRecord.sortKey (world.catalog.iterByCapability request.capability)
      let narrowed := narrowExplicit request candidates
      let (scored, dropped) ← collect hash routing request port now narrowed [] 0
      match sortBy Scored.key scored with
      | [] => Co.raise (routingError "no_routable_candidates" .noCandidates)
      | primary :: rest =>
          let id ← newUlid
          return {
            id, selectedProviderId := primary.providerId, selectedModelId := primary.modelId
            selectionReason := "lowest_score_lex_tiebreak"
            fallbackChain := rest.map Scored.candidate
            candidatesConsidered := candidates.length
            candidatesFiltered := candidates.length - narrowed.length + dropped }

end

theorem gate_hit {F : Type} {hash : List Char → String} {port : PolicyRoutingPort F}
    {now : Time} {question : ModelQuestion} {world : World F} {answer : GateAnswer}
    (found : world.policyCache.answer? (policyModelKey hash question) now = some answer) :
    gate hash port now question world = (do
      Co.modify fun world =>
        world.withCache (world.policyCache.afterGet (policyModelKey hash question) now)
      return answer : Inferring F GateAnswer) world := by
  unfold gate
  rw [Co.run_get_bind, found]

theorem gate_miss {F : Type} {hash : List Char → String} {port : PolicyRoutingPort F}
    {now : Time} {question : ModelQuestion} {world : World F}
    (missed : world.policyCache.answer? (policyModelKey hash question) now = none) :
    gate hash port now question world = (do
      Co.modify fun world =>
        world.withCache (world.policyCache.afterGet (policyModelKey hash question) now)
      let answer ← port.gateModelUse question
      Co.modify fun world =>
        world.withCache (world.policyCache.set (policyModelKey hash question) now answer)
      return answer : Inferring F GateAnswer) world := by
  unfold gate
  rw [Co.run_get_bind, missed]

end SyndicateClaw.Inference
