import SyndicateClaw.Data.JsonReading
import SyndicateClaw.Inference.OneExecution
import SyndicateClaw.Inference.Requests

/-! The fingerprints of requests, whose canonical JSON is hashed for idempotency. -/

namespace SyndicateClaw.Inference

open Async Authz

def jsonText (s : String) : Json := .str (String.text s)

def jsonOption {α : Type} (write : α → Json) : Option α → Json
  | none => .null
  | some value => write value

def jsonDict (fields : List (String × Json)) : Json :=
  .obj (fields.map fun field => (String.text field.1, field.2))

/-- `model_dump` of a message. -/
def ChatMessage.modelDump (message : ChatMessage) : Json :=
  jsonDict [("role", jsonText message.role), ("content", jsonText message.content)]

/-- `fingerprint_chat`. -/
def fingerprintChat (req : ChatInferenceRequest) : Json :=
  jsonDict
    [("actor", jsonText req.actor),
     ("capability", jsonText "chat"),
     ("max_tokens", jsonOption .int req.maxTokens),
     ("messages", .arr (req.messages.map ChatMessage.modelDump)),
     ("model_id", jsonOption jsonText req.modelId),
     ("model_pinning", jsonText req.modelPinning.value),
     ("provider_id", jsonOption jsonText req.providerId),
     ("scope_id", jsonText req.scopeId),
     ("scope_type", jsonText req.scopeType),
     ("sensitivity", jsonText req.sensitivity.value),
     ("temperature", jsonOption .float req.temperature)]

/-- `fingerprint_embedding`. -/
def fingerprintEmbedding (req : EmbeddingInferenceRequest) : Json :=
  jsonDict
    [("actor", jsonText req.actor),
     ("capability", jsonText "embedding"),
     ("inputs", .arr (req.inputs.map jsonText)),
     ("model_id", jsonOption jsonText req.modelId),
     ("model_pinning", jsonText req.modelPinning.value),
     ("provider_id", jsonOption jsonText req.providerId),
     ("scope_id", jsonText req.scopeId),
     ("scope_type", jsonText req.scopeType)]

def InferenceRequest.fingerprint : InferenceRequest → Json
  | .chat request => fingerprintChat request
  | .embedding request => fingerprintEmbedding request

/-- `canonical_json_bytes`; `none` is a `ValueError`. -/
def canonicalJson (document : Json) : Option (List Char) := Json.dumps Json.compact document

/-! ### Documents of fields -/

theorem get?_jsonDict (fields : List (String × Json)) (key : String) :
    Dict.get? (fields.map fun field => (String.text field.1, field.2)) (String.text key) =
      Dict.get? fields key := by
  induction fields with
  | nil => rfl
  | cons field fields ih =>
      rw [List.map_cons, Dict.get?_cons, Dict.get?_cons, ih]
      by_cases same : field.1 = key
      · rw [if_pos (congrArg String.text same), if_pos same]
      · rw [if_neg fun equal => same (Json.text_injective equal), if_neg same]

theorem nodup_jsonDict {fields : List (String × Json)} (distinct : (fields.map Prod.fst).Nodup) :
    ((fields.map fun field => (String.text field.1, field.2)).map Prod.fst).Nodup := by
  rw [List.map_map]
  have texts : (Prod.fst ∘ fun field : String × Json => (String.text field.1, field.2)) =
      String.text ∘ Prod.fst := rfl
  rw [texts, ← List.map_map]
  exact distinct.map fun _ _ => Json.text_injective

theorem field_of_sortKeys {fields other : List (String × Json)}
    (same : (jsonDict fields).sortKeys = (jsonDict other).sortKeys)
    (distinct : (fields.map Prod.fst).Nodup) (distinctOther : (other.map Prod.fst).Nodup)
    (key : String) :
    (Dict.get? fields key).map Json.sortKeys = (Dict.get? other key).map Json.sortKeys := by
  have found := Json.get?_of_sortKeys (nodup_jsonDict distinct) (nodup_jsonDict distinctOther) same
    (String.text key)
  rwa [get?_jsonDict, get?_jsonDict] at found

theorem jsonText_inj {s t : String} (same : (jsonText s).sortKeys = (jsonText t).sortKeys) :
    s = t := by
  have texts : Json.str (String.text s) = .str (String.text t) := same
  exact Json.text_injective (Json.str.inj texts)

theorem jsonOption_inj {α : Type} (write : α → Json)
    (injective : ∀ value other, (write value).sortKeys = (write other).sortKeys → value = other)
    (present : ∀ value, (write value).sortKeys ≠ .null) {value other : Option α}
    (same : (jsonOption write value).sortKeys = (jsonOption write other).sortKeys) :
    value = other := by
  cases value with
  | none =>
      cases other with
      | none => rfl
      | some other => exact absurd same.symm (present other)
  | some value =>
      cases other with
      | none => exact absurd same (present value)
      | some other => exact congrArg some (injective value other same)

theorem jsonItems_inj {α : Type} {write : α → Json}
    (injective : ∀ value other, (write value).sortKeys = (write other).sortKeys → value = other)
    {values others : List α}
    (same : (Json.arr (values.map write)).sortKeys = (Json.arr (others.map write)).sortKeys) :
    values = others := by
  replace same : Json.sortKeysItems (values.map write) = Json.sortKeysItems (others.map write) :=
    Json.arr.inj same
  induction values generalizing others with
  | nil =>
      cases others with
      | nil => rfl
      | cons other others => cases same
  | cons value values ih =>
      cases others with
      | nil => cases same
      | cons other others =>
          rw [List.map_cons, List.map_cons, Json.sortKeysItems, Json.sortKeysItems] at same
          obtain ⟨first, rest⟩ := List.cons.inj same
          rw [injective value other first, ih rest]

theorem modelDump_inj (message other : ChatMessage)
    (same : message.modelDump.sortKeys = other.modelDump.sortKeys) : message = other := by
  have distinct : ["role", "content"].Nodup := by decide
  have field := field_of_sortKeys same distinct distinct
  have role : message.role = other.role := jsonText_inj (Option.some.inj (field "role"))
  have content : message.content = other.content := jsonText_inj (Option.some.inj (field "content"))
  cases message
  cases other
  cases role
  cases content
  rfl

theorem DataSensitivity.value_inj {sensitivity other : DataSensitivity}
    (same : sensitivity.value = other.value) : sensitivity = other := by
  cases sensitivity <;> cases other <;> first | rfl | exact absurd same (by decide)

theorem ModelPinning.value_inj {pinning other : ModelPinning}
    (same : pinning.value = other.value) : pinning = other := by
  cases pinning <;> cases other <;> first | rfl | exact absurd same (by decide)

/-! ### The fingerprints -/

/-- Equal in every field but `trace_id` and `idempotency_key`. -/
def InferenceRequest.Same : InferenceRequest → InferenceRequest → Prop
  | .chat a, .chat b => { a with traceId := b.traceId, idempotencyKey := b.idempotencyKey } = b
  | .embedding a, .embedding b =>
      { a with traceId := b.traceId, idempotencyKey := b.idempotencyKey } = b
  | .chat _, .embedding _ | .embedding _, .chat _ => False

/-- Two embedding requests that are the same but for `sensitivity`. -/
def OnlySensitivityDiffers : InferenceRequest → InferenceRequest → Prop
  | .embedding a, .embedding b => a.sensitivity ≠ b.sensitivity ∧
      InferenceRequest.Same (.embedding { a with sensitivity := b.sensitivity }) (.embedding b)
  | _, _ => False

def chatKeys : List String :=
  ["actor", "capability", "max_tokens", "messages", "model_id", "model_pinning", "provider_id",
    "scope_id", "scope_type", "sensitivity", "temperature"]

def embeddingKeys : List String :=
  ["actor", "capability", "inputs", "model_id", "model_pinning", "provider_id", "scope_id",
    "scope_type"]

theorem chatKeys_distinct : chatKeys.Nodup := by decide

theorem embeddingKeys_distinct : embeddingKeys.Nodup := by decide

theorem jsonOptionText_inj {value other : Option String}
    (same : (jsonOption jsonText value).sortKeys = (jsonOption jsonText other).sortKeys) :
    value = other :=
  jsonOption_inj jsonText (fun _ _ => jsonText_inj) (fun _ => nofun) same

theorem fingerprintChat_inj {a b : ChatInferenceRequest}
    (same : (fingerprintChat a).sortKeys = (fingerprintChat b).sortKeys) :
    InferenceRequest.Same (.chat a) (.chat b) := by
  have field := field_of_sortKeys same chatKeys_distinct chatKeys_distinct
  have actor : a.actor = b.actor := jsonText_inj (Option.some.inj (field "actor"))
  have maxTokens : a.maxTokens = b.maxTokens :=
    jsonOption_inj Json.int (fun _ _ same => Json.int.inj same) (fun _ => nofun)
      (Option.some.inj (field "max_tokens"))
  have messages : a.messages = b.messages :=
    jsonItems_inj modelDump_inj (Option.some.inj (field "messages"))
  have modelId : a.modelId = b.modelId := jsonOptionText_inj (Option.some.inj (field "model_id"))
  have modelPinning : a.modelPinning = b.modelPinning :=
    ModelPinning.value_inj (jsonText_inj (Option.some.inj (field "model_pinning")))
  have providerId : a.providerId = b.providerId :=
    jsonOptionText_inj (Option.some.inj (field "provider_id"))
  have scopeId : a.scopeId = b.scopeId := jsonText_inj (Option.some.inj (field "scope_id"))
  have scopeType : a.scopeType = b.scopeType := jsonText_inj (Option.some.inj (field "scope_type"))
  have sensitivity : a.sensitivity = b.sensitivity :=
    DataSensitivity.value_inj (jsonText_inj (Option.some.inj (field "sensitivity")))
  have temperature : a.temperature = b.temperature :=
    jsonOption_inj Json.float (fun _ _ same => Json.float.inj same) (fun _ => nofun)
      (Option.some.inj (field "temperature"))
  show ChatInferenceRequest.mk _ _ _ _ = b
  rw [messages, temperature, maxTokens, modelId, providerId, actor, scopeType, scopeId,
    sensitivity, modelPinning]

theorem fingerprintEmbedding_inj {a b : EmbeddingInferenceRequest}
    (same : (fingerprintEmbedding a).sortKeys = (fingerprintEmbedding b).sortKeys) :
    InferenceRequest.Same (.embedding { a with sensitivity := b.sensitivity }) (.embedding b) := by
  have field := field_of_sortKeys same embeddingKeys_distinct embeddingKeys_distinct
  have actor : a.actor = b.actor := jsonText_inj (Option.some.inj (field "actor"))
  have inputs : a.inputs = b.inputs :=
    jsonItems_inj (fun _ _ => jsonText_inj) (Option.some.inj (field "inputs"))
  have modelId : a.modelId = b.modelId := jsonOptionText_inj (Option.some.inj (field "model_id"))
  have modelPinning : a.modelPinning = b.modelPinning :=
    ModelPinning.value_inj (jsonText_inj (Option.some.inj (field "model_pinning")))
  have providerId : a.providerId = b.providerId :=
    jsonOptionText_inj (Option.some.inj (field "provider_id"))
  have scopeId : a.scopeId = b.scopeId := jsonText_inj (Option.some.inj (field "scope_id"))
  have scopeType : a.scopeType = b.scopeType := jsonText_inj (Option.some.inj (field "scope_type"))
  show EmbeddingInferenceRequest.mk _ _ = b
  rw [inputs, modelId, providerId, actor, scopeType, scopeId, modelPinning]

theorem fingerprint_kinds (a : ChatInferenceRequest) (b : EmbeddingInferenceRequest) :
    (fingerprintChat a).sortKeys ≠ (fingerprintEmbedding b).sortKeys := by
  intro same
  have field := field_of_sortKeys same chatKeys_distinct embeddingKeys_distinct "capability"
  exact absurd (jsonText_inj (Option.some.inj field)) (by decide)

/-! ### The canonical JSON -/

section

variable {canonical : List Char → List Char}

def InferenceRequest.WellTyped (canonical : List Char → List Char) : InferenceRequest → Prop
  | .chat request => ∀ repr ∈ request.temperature, Json.IsFloatRepr canonical repr
  | .embedding _ => True

theorem proper_jsonDict {fields : List (String × Json)} (distinct : (fields.map Prod.fst).Nodup)
    (values : ∀ field ∈ fields, field.2.Proper canonical) : (jsonDict fields).Proper canonical := by
  unfold jsonDict
  rw [Json.proper_obj]
  refine ⟨nodup_jsonDict distinct, fun entry member => ?_⟩
  obtain ⟨field, own, rfl⟩ := List.mem_map.mp member
  exact ⟨Json.properText_text _, values field own⟩

theorem proper_jsonText (s : String) : (jsonText s).Proper canonical := Json.properText_text s

theorem proper_jsonOption {α : Type} {write : α → Json} {value : Option α}
    (proper : ∀ present ∈ value, (write present).Proper canonical) :
    (jsonOption write value).Proper canonical := by
  cases value with
  | none => trivial
  | some present => exact proper present rfl

theorem proper_items {α : Type} {write : α → Json} (proper : ∀ value, (write value).Proper canonical)
    (values : List α) : (Json.arr (values.map write)).Proper canonical := by
  show Json.ProperItems canonical (values.map write)
  induction values with
  | nil => trivial
  | cons value values ih => exact ⟨proper value, ih⟩

theorem proper_modelDump (message : ChatMessage) : message.modelDump.Proper canonical := by
  have distinct : ["role", "content"].Nodup := by decide
  refine proper_jsonDict distinct ?_
  simp only [List.forall_mem_cons]
  exact ⟨proper_jsonText _, proper_jsonText _, nofun⟩

theorem proper_fingerprint {request : InferenceRequest} (typed : request.WellTyped canonical) :
    request.fingerprint.Proper canonical := by
  have text (s : String) : (jsonText s).Proper canonical := proper_jsonText s
  have optional (s : Option String) : (jsonOption jsonText s).Proper canonical :=
    proper_jsonOption fun s _ => text s
  cases request with
  | chat request =>
      refine proper_jsonDict chatKeys_distinct ?_
      simp only [List.forall_mem_cons]
      exact ⟨text _, text _, proper_jsonOption fun _ _ => trivial, proper_items proper_modelDump _,
        optional _, text _, optional _, text _, text _, text _, proper_jsonOption typed, nofun⟩
  | embedding request =>
      refine proper_jsonDict embeddingKeys_distinct ?_
      simp only [List.forall_mem_cons]
      exact ⟨text _, text _, proper_items text _, optional _, text _, optional _, text _, text _,
        nofun⟩

theorem sortKeys_of_canonicalJson {a b : InferenceRequest} (typed : a.WellTyped canonical)
    (typed' : b.WellTyped canonical) {line : List Char}
    (written : canonicalJson a.fingerprint = some line)
    (same : canonicalJson b.fingerprint = some line) :
    a.fingerprint.sortKeys = b.fingerprint.sortKeys :=
  Json.dumps_injective Json.readable_compact (proper_fingerprint typed) (proper_fingerprint typed')
    written same

theorem printable_embedding (req : EmbeddingInferenceRequest) :
    (fingerprintEmbedding req).printable = true := by
  have optional (s : Option String) : (jsonOption jsonText s).printable = true := by
    cases s <;> rfl
  have inputs : Json.printableItems (req.inputs.map jsonText) = true := by
    induction req.inputs with
    | nil => rfl
    | cons input inputs ih => exact ih
  unfold fingerprintEmbedding jsonDict
  rw [Json.printable_obj, List.forall_mem_map]
  simp only [List.forall_mem_cons]
  exact ⟨rfl, rfl, inputs, optional _, rfl, optional _, rfl, rfl, nofun⟩

theorem bound_of_entered {ι : Type} [DecidableEq ι] {staleAfter : Time} {calls : ι → Call}
    {acts : List (Act ι Event Empty)} {n : Nat} {i : ι}
    (entered : ((after staleAfter calls acts n).phase i).entered = true) :
    ∃ inferenceId, Bound (calls i) (after staleAfter calls acts n).shared inferenceId := by
  have asserts := (inferences_hold staleAfter calls acts n).worker i
  have known {inferenceId : String}
      (own : ((after staleAfter calls acts n).phase i).inferenceId = some inferenceId) :
      ∃ inferenceId, Bound (calls i) (after staleAfter calls acts n).shared inferenceId :=
    ⟨inferenceId, bound_of_inferenceId own⟩
  generalize (after staleAfter calls acts n).phase i = phase at entered asserts known
  cases phase with
  | ready | inserting _ | selecting _ | closing _ _ | deciding _ _ | marking _ | marked _ =>
      cases entered
  | executing _ | completing _ _ | completed _ _ | failing _ _ | failed _ _ => exact known rfl
  | finished executed answer =>
      obtain rfl : executed = true := entered
      obtain ⟨-, -, fits⟩ := asserts
      cases answer with
      | result _ _ | executionError _ _ | replay _ | storedFailure _ | inProgress _
      | terminalKey _ => exact known rfl
      | conflict => cases fits.1
      | broken => exact fits rfl

theorem requestHash_of_replay {ι : Type} [DecidableEq ι] {staleAfter : Time} {calls : ι → Call}
    {acts : List (Act ι Event Empty)} {n : Nat} {i j : ι} {row : Envelope}
    (entered : ((after staleAfter calls acts n).phase i).entered = true)
    (replay : (after staleAfter calls acts n).phase j = .finished false (.replay row)) :
    (calls i).requestHash = (calls j).requestHash := by
  obtain ⟨inferenceId, own, committed, hash, -⟩ := bound_of_entered entered
  have asserts := (inferences_hold staleAfter calls acts n).worker j
  rw [replay] at asserts
  obtain ⟨-, -, -, ⟨own', committed', hash', -⟩, -⟩ := asserts
  rw [committed] at committed'
  obtain rfl := Option.some.inj committed'
  exact hash.symm.trans hash'

/-- Requests with the same canonical JSON are the same, and a replay answers the request that was
executed. -/
structure Separates (a b : InferenceRequest) : Prop where
  content : ∀ line, canonicalJson a.fingerprint = some line →
    canonicalJson b.fingerprint = some line → a.Same b
  replays : ∀ hash : List Char → String, Function.Injective hash →
    ∀ (ι : Type) [DecidableEq ι] (staleAfter : Time) (calls : ι → Call)
      (acts : List (Act ι Event Empty)) (n : Nat) (i j : ι) (line line' : List Char) (row : Envelope),
      canonicalJson a.fingerprint = some line → (calls i).requestHash = hash line →
        canonicalJson b.fingerprint = some line' → (calls j).requestHash = hash line' →
          ((after staleAfter calls acts n).phase i).entered = true →
            (after staleAfter calls acts n).phase j = .finished false (.replay row) → a.Same b

theorem not_separates {a b : InferenceRequest} (only : OnlySensitivityDiffers a b) :
    ¬ Separates a b := by
  intro separates
  cases a with
  | chat a => exact only
  | embedding a =>
      cases b with
      | chat b => exact only
      | embedding b =>
          obtain ⟨differs, same⟩ := only
          have written := Json.dumps_eq_some Json.compact (printable_embedding a)
          have equal : fingerprintEmbedding b = fingerprintEmbedding a := by
            rw [← (show _ = b from same)]
            rfl
          have written' := Json.dumps_eq_some Json.compact (printable_embedding b)
          rw [equal] at written'
          have both := separates.content _ written ((congrArg canonicalJson equal).trans written')
          exact differs (congrArg (fun req => req.sensitivity) (show _ = b from both))

theorem same_of_sortKeys {a b : InferenceRequest} (others : ¬ OnlySensitivityDiffers a b)
    (same : a.fingerprint.sortKeys = b.fingerprint.sortKeys) : a.Same b := by
  cases a with
  | chat a =>
      cases b with
      | chat b => exact fingerprintChat_inj same
      | embedding b => exact fingerprint_kinds a b same
  | embedding a =>
      cases b with
      | chat b => exact fingerprint_kinds b a same.symm
      | embedding b =>
          have rest := fingerprintEmbedding_inj same
          have equal : a.sensitivity = b.sensitivity := by
            by_contra differs
            exact others ⟨differs, rest⟩
          rwa [← equal] at rest

theorem fingerprints_separate_iff {a b : InferenceRequest} (typed : a.WellTyped canonical)
    (typed' : b.WellTyped canonical) : Separates a b ↔ ¬ OnlySensitivityDiffers a b := by
  constructor
  · exact fun separates only => not_separates only separates
  · intro others
    have content : ∀ line, canonicalJson a.fingerprint = some line →
        canonicalJson b.fingerprint = some line → a.Same b :=
      fun line written same =>
        same_of_sortKeys others (sortKeys_of_canonicalJson typed typed' written same)
    refine ⟨content, ?_⟩
    intro hash injective ι _ staleAfter calls acts n i j line line' row written hashed written' hashed'
      entered replay
    have equal : hash line = hash line' := by
      rw [← hashed, ← hashed', requestHash_of_replay entered replay]
    rw [injective equal] at written
    exact content line' written written'

end

/-- An embedding request, whose vectors are asked for under a label. -/
def labelled (sensitivity : DataSensitivity) : EmbeddingInferenceRequest :=
  { inputs := ["q"], modelId := none, providerId := none, actor := "ann", scopeType := "tenant",
    scopeId := "t1", sensitivity, traceId := "", idempotencyKey := some "k", modelPinning := .none }

theorem actors_separated : Separates (.embedding (labelled .internal))
    (.embedding { labelled .internal with actor := "bob" }) := by
  have typed (request : EmbeddingInferenceRequest) :
      InferenceRequest.WellTyped id (.embedding request) := trivial
  exact (fingerprints_separate_iff (typed _) (typed _)).mpr fun only => only.1 rfl

theorem labels_not_separated :
    ¬ Separates (.embedding (labelled .internal)) (.embedding (labelled .restricted)) :=
  not_separates ⟨by decide, rfl⟩

end SyndicateClaw.Inference
