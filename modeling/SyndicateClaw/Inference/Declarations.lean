import SyndicateClaw.Inference.CatalogSync
import SyndicateClaw.Inference.CandidateBound

/-! When a routing decision keeps to what providers declare and to a required pin. -/

namespace SyndicateClaw.Inference

open Authz Orchestrator

def Declared (provider : ProviderConfig) (capability : InferenceCapability) (modelId : String) : Prop :=
  capability ∈ provider.capabilities ∧ (∀ allowed ∈ provider.allowedModels, modelId ∈ allowed) ∧
    ∀ denied ∈ provider.deniedModels, modelId ∉ denied

variable {F : Type}

def InferenceRequest.requestedPair (request : InferenceRequest) : Option (String × String) :=
  match explicit request.envelope.providerId, explicit request.envelope.modelId with
  | some providerId, some modelId => some (providerId, modelId)
  | _, _ => none

/-- The decision keeps to the declarations and, when pinning is required, to the pin. -/
structure Respects (view : RoutingView F) (resolvedPin : Option (String × String))
    (decision : RoutingDecision) : Prop where
  declared : ∀ pair ∈ decision.chain, ∃ provider, view.registry.getProvider pair.1 = some provider ∧
    Declared provider view.request.capability pair.2
  pinned : view.request.envelope.modelPinning = .required →
    (view.request.requestedPair = some (decision.selectedProviderId, decision.selectedModelId) ∨
      resolvedPin = some (decision.selectedProviderId, decision.selectedModelId)) ∧
      ∀ pair ∈ decision.fallbackChain,
        pair = (decision.selectedProviderId, decision.selectedModelId)

namespace RoutingView

variable (view : RoutingView F) (catalog : ModelCatalog F)

def AllDeclared : Prop :=
  ∀ row ∈ view.first catalog, ∀ provider, view.registry.getProvider row.providerId = some provider →
    Declared provider view.request.capability row.modelId

/-- A required pin is the pair that is requested, or the only one of the first routable rows. -/
def PinHolds (resolvedPin : Option (String × String)) : Prop :=
  view.request.envelope.modelPinning = .required → view.request.requestedPair.isSome = true ∨
    ∀ row ∈ view.first catalog, resolvedPin = some row.key

theorem key_of_requested {pair : String × String} (requested : view.request.requestedPair = some pair)
    {row : CatalogEntryRecord F} (asked : view.Asked row) : row.key = pair := by
  unfold InferenceRequest.requestedPair at requested
  obtain ⟨-, -, provider, model⟩ := asked
  cases providerId : explicit view.request.envelope.providerId with
  | none =>
      rw [providerId] at requested
      cases requested
  | some own =>
      cases modelId : explicit view.request.envelope.modelId with
      | none =>
          rw [providerId, modelId] at requested
          cases requested
      | some other =>
          rw [providerId, modelId] at requested
          obtain rfl := Option.some.inj requested
          exact Prod.ext (provider own providerId) (model other modelId)

theorem first_routable {row : CatalogEntryRecord F} (member : row ∈ view.first catalog) :
    view.Eligible row :=
  (view.mem_routable.mp (List.mem_of_mem_take member)).2.1

end RoutingView

section

variable [LinearOrder F] [Add F] [Sub F] [Mul F] [Div F] [IntCast F]

variable (hash : List Char → String) (routing : RoutingPolicyConfig F) (request : InferenceRequest)
  (capability : InferenceCapability → (actor scopeType scopeId : String) → GateAnswer)
  (model : ModelQuestion → GateAnswer) (now : Option Time) (world : World F)
  (system : ProviderSystemConfig F) (resolvedPin : Option (String × String))

theorem respects_iff (view : RoutingView F) (catalog : ModelCatalog F) {decision : RoutingDecision}
    (chain : decision.chain.Perm ((view.first catalog).map CatalogEntryRecord.key)) :
    Respects view resolvedPin decision ↔
      view.AllDeclared catalog ∧ view.PinHolds catalog resolvedPin := by
  have pairs (pair : String × String) : pair ∈ decision.chain ↔
      ∃ row ∈ view.first catalog, row.key = pair := by
    rw [chain.mem_iff, List.mem_map]
  have selected : (decision.selectedProviderId, decision.selectedModelId) ∈ decision.chain :=
    List.mem_cons_self
  constructor
  · intro respects
    constructor
    · intro row member provider known
      obtain ⟨own, found, declared⟩ := respects.declared row.key ((pairs _).mpr ⟨row, member, rfl⟩)
      rw [known] at found
      obtain rfl := Option.some.inj found
      exact declared
    · intro required
      obtain ⟨pin, only⟩ := respects.pinned required
      rcases pin with requested | resolved
      · left
        rw [requested]
        rfl
      · right
        intro row member
        rw [resolved]
        rcases List.mem_cons.mp ((pairs row.key).mpr ⟨row, member, rfl⟩) with same | later
        · rw [same]
        · rw [only row.key later]
  · rintro ⟨declared, pin⟩
    constructor
    · intro pair member
      obtain ⟨row, own, rfl⟩ := (pairs pair).mp member
      obtain ⟨provider, passes⟩ := (view.first_routable catalog own).2
      exact ⟨provider, passes.known, declared row own provider passes.known⟩
    · intro required
      rcases pin required with requested | resolved
      · obtain ⟨pair, requested⟩ := Option.isSome_iff_exists.mp requested
        have all : ∀ other ∈ decision.chain, other = pair := by
          intro other member
          obtain ⟨row, own, rfl⟩ := (pairs other).mp member
          exact view.key_of_requested requested (view.first_routable catalog own).1
        have own := all _ selected
        refine ⟨.inl (requested.trans (congrArg some own.symm)), fun other member => ?_⟩
        exact (all other (List.mem_cons_of_mem _ member)).trans own.symm
      · have all : ∀ other ∈ decision.chain, resolvedPin = some other := by
          intro other member
          obtain ⟨row, own, rfl⟩ := (pairs other).mp member
          exact resolved row own
        have own := all _ selected
        refine ⟨.inr own, fun other member => ?_⟩
        exact Option.some.inj ((all other (List.mem_cons_of_mem _ member)).symm.trans own)

theorem respects_declarations_iff (catalog : ModelCatalog F) :
    (∀ decision, world.routed hash routing request capability model now system resolvedPin catalog =
        .ok decision →
      Respects (world.view hash routing request capability model now) resolvedPin decision) ↔
      ((world.view hash routing request capability model now).Admitted system resolvedPin →
        (world.view hash routing request capability model now).first catalog ≠ [] →
          (world.view hash routing request capability model now).AllDeclared catalog ∧
            (world.view hash routing request capability model now).PinHolds catalog
              resolvedPin) := by
  rw [world.routed_eq_verdict]
  generalize world.view hash routing request capability model now = view
  constructor
  · intro respects admitted some
    rw [view.verdict_of_admitted admitted] at respects
    cases chosen : view.chosen catalog with
    | nil => exact absurd (view.chosen_eq_nil.mp chosen) some
    | cons primary rest =>
        rw [chosen] at respects
        have perm := view.candidates_chosen catalog
        rw [chosen] at perm
        refine (respects_iff resolvedPin view catalog ?_).mp (respects _ rfl)
        exact perm
  · intro fits decision decided
    obtain ⟨admitted, chain⟩ := view.chain_of_verdict decided
    have perm := view.candidates_chosen catalog
    rw [← chain] at perm
    apply (respects_iff resolvedPin view catalog perm).mpr
    apply fits admitted
    intro none
    rw [none] at perm
    cases perm.eq_nil

end

/-! The feed names an embedding model of a provider that declares chat and denies the model. -/

def wary : ProviderConfig :=
  { localProvider with deniedModels := some ["vectors"] }

def waryFeed : List State :=
  [[("provider_id", .str "local"), ("model_id", .str "vectors"), ("capability", .str "embedding")]]

def plainValidation : FeedValidation where
  bool
    | .bool b => some b
    | _ => none
  optionalInt
    | .none => some none
    | .int i => some (some i)
    | _ => none

def embeddingRequest : InferenceRequest := .embedding (labelled .publicData)

def waryWorld : World ℤ :=
  let system := systemOf true [wary] (by decide)
  let synced := syncFromParsedRecords plainValidation
    { baseSystem := system, allowed := ["local"], yamlRows := [] } (catalogOf []) waryFeed "2" none
  .boot system synced.2.2 (plainEngine []) silent

theorem feed_undeclared : ¬ ∀ decision,
    waryWorld.routed String.ofList (wholePolicy 64) embeddingRequest (fun _ _ _ _ => .allow)
        (fun _ => .allow) none (systemOf true [wary] (by decide)) none waryWorld.catalog =
          .ok decision →
      Respects (waryWorld.view String.ofList (wholePolicy 64) embeddingRequest
        (fun _ _ _ _ => .allow) (fun _ => .allow) none) none decision := by
  intro all
  have respects := all _ rfl
  obtain ⟨provider, known, declared⟩ := respects.declared _ List.mem_cons_self
  obtain rfl : wary = provider := Option.some.inj known
  exact absurd declared.1 (by decide)

end SyndicateClaw.Inference
