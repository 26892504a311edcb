import SyndicateClaw.Data.BoundedScan
import SyndicateClaw.Inference.Router

/-! What `route` decides over a catalog, a registry and a cache that nobody changes meanwhile. -/

namespace SyndicateClaw.Inference

open Async Authz Policy

variable {F : Type}

def answering (capability : InferenceCapability → (actor scopeType scopeId : String) → GateAnswer)
    (model : ModelQuestion → GateAnswer) : PolicyRoutingPort F where
  gateInferenceCapability asked actor scopeType scopeId :=
    return capability asked actor scopeType scopeId
  gateModelUse question := return model question

/-- Everything `route` reads but the catalog. -/
structure RoutingView (F : Type) where
  hash : List Char → String
  routing : RoutingPolicyConfig F
  request : InferenceRequest
  registry : ProviderRegistry
  cache : BoundedPolicyCache
  capability : InferenceCapability → (actor scopeType scopeId : String) → GateAnswer
  model : ModelQuestion → GateAnswer
  now : Time

namespace RoutingView

variable (view : RoutingView F)

/-! ### Candidates -/

/-- The row is for the capability and has the ids that the request names. -/
def Asked (row : CatalogEntryRecord F) : Prop :=
  view.request.capability ∈ row.capabilities ∧ row.status = .active ∧
    (∀ providerId ∈ explicit view.request.envelope.providerId, row.providerId = providerId) ∧
      ∀ modelId ∈ explicit view.request.envelope.modelId, row.modelId = modelId

instance : DecidablePred view.Asked := fun row => by
  unfold Asked
  infer_instance

structure Passes (providerId : String) (provider : ProviderConfig) : Prop where
  known : view.registry.getProvider providerId = some provider
  enabled : provider.enabled = true
  notDisabled : view.registry.isRuntimeDisabled providerId = false
  circuit : view.registry.circuitState providerId view.now ≠ .opened
  noCooldown : view.registry.isRateLimitCooldown providerId view.now = false
  healthy : view.registry.healthStatus providerId ≠ .unavailable
  sensitivity : sensitivityAllowed view.request.envelope.sensitivity
    provider.maxAllowedSensitivity = true

theorem screen_eq_some {providerId : String} {provider : ProviderConfig} {health : ProviderStatus} :
    (screen view.registry view.now view.request.envelope.sensitivity providerId).1 =
        some (provider, health) ↔
      view.Passes providerId provider ∧ health = view.registry.healthStatus providerId := by
  have same : view.registry.Alike view.now (view.registry.tick providerId view.now) :=
    ProviderRegistry.alike_tick providerId
  simp only [screen, same.isRateLimitCooldown, same.healthStatus]
  cases found : view.registry.getProvider providerId with
  | none =>
      constructor
      · exact nofun
      · intro both
        exact absurd (found.symm.trans both.1.known) nofun
  | some own =>
      dsimp only
      constructor
      · intro passed
        split at passed
        · cases passed
        · next switchedOn =>
            split at passed
            · cases passed
            · next circuit =>
                split at passed
                · cases passed
                · next noCooldown =>
                    split at passed
                    · cases passed
                    · next healthy =>
                        split at passed
                        · cases passed
                        · next sensitivity =>
                            obtain ⟨rfl, rfl⟩ := Prod.mk.inj (Option.some.inj passed)
                            simp only [Bool.or_eq_true, Bool.not_eq_true', not_or,
                              Bool.not_eq_true, Bool.not_eq_false] at switchedOn noCooldown sensitivity
                            exact ⟨⟨found, switchedOn.1, switchedOn.2, circuit, noCooldown, healthy,
                              sensitivity⟩, rfl⟩
      · rintro ⟨⟨known, enabled, notDisabled, circuit, noCooldown, healthy, sensitivity⟩, rfl⟩
        rw [found] at known
        obtain rfl := Option.some.inj known
        rw [if_neg (by simp [enabled, notDisabled]), if_neg circuit, if_neg (by simp [noCooldown]),
          if_neg healthy, if_neg (by simp [sensitivity])]

theorem screen_alike {other : ProviderRegistry} (alike : view.registry.Alike view.now other)
    (providerId : String) :
    (screen other view.now view.request.envelope.sensitivity providerId).1 =
        (screen view.registry view.now view.request.envelope.sensitivity providerId).1 ∧
      view.registry.Alike view.now
        (screen other view.now view.request.envelope.sensitivity providerId).2 := by
  have own : view.registry.Alike view.now (view.registry.tick providerId view.now) :=
    ProviderRegistry.alike_tick providerId
  have ticked : view.registry.Alike view.now (other.tick providerId view.now) :=
    alike.trans (ProviderRegistry.alike_tick providerId)
  unfold screen
  rw [alike.getProvider]
  cases view.registry.getProvider providerId with
  | none => exact ⟨rfl, alike⟩
  | some provider =>
      simp only [alike.isRuntimeDisabled, alike.circuitState, own.isRateLimitCooldown,
        own.healthStatus, ticked.isRateLimitCooldown, ticked.healthStatus]
      constructor
      · split_ifs <;> rfl
      · split_ifs
        · exact alike
        · exact ticked
        · exact ticked
        · exact ticked
        · exact ticked
        · exact ticked

/-! ### Answers -/

def consult (question : ModelQuestion) (cache : BoundedPolicyCache) :
    GateAnswer × BoundedPolicyCache :=
  let key := policyModelKey view.hash question
  match cache.answer? key view.now with
  | some answer => (answer, cache.afterGet key view.now)
  | none =>
      (view.model question, (cache.afterGet key view.now).set key view.now (view.model question))

def question (row : CatalogEntryRecord F) : ModelQuestion :=
  view.request.modelQuestion row.providerId row.modelId

def test (row : CatalogEntryRecord F) (cache : BoundedPolicyCache) : Bool × BoundedPolicyCache :=
  match (screen view.registry view.now view.request.envelope.sensitivity row.providerId).1 with
  | none => (false, cache)
  | some _ =>
      ((view.consult (view.question row) cache).1 = .allow, (view.consult (view.question row) cache).2)

variable [LinearOrder F] [Add F] [Sub F] [Mul F] [Div F] [IntCast F]

def scoredRow (row : CatalogEntryRecord F) : Option (Scored F) :=
  (screen view.registry view.now view.request.envelope.sensitivity row.providerId).1.map
    fun passed =>
      { providerId := row.providerId, modelId := row.modelId
        score := score row.descriptor passed.1 view.request.envelope.sensitivity
          view.routing.weights view.routing.costWeightCap (passed.2 = .degraded) }

def bound : Nat := view.routing.policyMaxCandidatesPerRequest.toNat

def port : PolicyRoutingPort F := answering view.capability view.model

def scan (room : Nat) (cache : BoundedPolicyCache) (rows : List (CatalogEntryRecord F)) :
    Scan.Outcome (CatalogEntryRecord F) :=
  Scan.run view.test room cache rows

omit [LinearOrder F] [Add F] [Sub F] [Mul F] [Div F] [IntCast F] in
theorem settle_gate (question : ModelQuestion) (world : World F) :
    (gate view.hash view.port view.now question).settle world =
      (world.withCache (view.consult question world.policyCache).2,
        .ok (view.consult question world.policyCache).1) := by
  unfold gate consult
  simp only [Co.settle_bind, Co.settle_get, Co.settle_modify]
  cases world.policyCache.answer? (policyModelKey view.hash question) view.now with
  | some answer => rfl
  | none => rfl

theorem settle_collect (rows : List (CatalogEntryRecord F)) (scored : List (Scored F)) (dropped : Int)
    (world : World F) (alike : view.registry.Alike view.now world.registry) :
    ∃ registry cache, (collect view.hash view.routing view.request view.port view.now rows scored
        dropped).settle world = ((world.withRegistry registry).withCache cache, .ok
      (scored ++ (view.scan (view.bound - scored.length) world.policyCache rows).kept.filterMap
          view.scoredRow,
        dropped + (view.scan (view.bound - scored.length) world.policyCache rows).dropped)) := by
  induction rows generalizing scored dropped world with
  | nil =>
      refine ⟨world.registry, world.policyCache, ?_⟩
      unfold collect scan Scan.run
      simp [World.withRegistry, World.withCache]
  | cons row rest ih =>
      unfold collect
      by_cases full : view.routing.policyMaxCandidatesPerRequest ≤ scored.length
      · have room : view.bound - scored.length = 0 := by
          unfold bound
          omega
        rw [if_pos full, room]
        refine ⟨world.registry, world.policyCache, ?_⟩
        show (world, _) = (world, _)
        simp [scan, Scan.run]
      · obtain ⟨room, count⟩ : ∃ room, view.bound - scored.length = room + 1 := by
          unfold bound
          exact ⟨view.routing.policyMaxCandidatesPerRequest.toNat - scored.length - 1, by omega⟩
        obtain ⟨same, alike'⟩ := view.screen_alike alike row.providerId
        rw [if_neg full, count]
        simp only [Co.settle_bind, Co.settle_get, Co.settle_modify, same]
        unfold scan Scan.run
        cases found : (screen view.registry view.now view.request.envelope.sensitivity
            row.providerId).1 with
        | none =>
            have test : view.test row world.policyCache = (false, world.policyCache) := by
              unfold RoutingView.test
              rw [found]
            obtain ⟨registry, cache, later⟩ := ih scored (dropped + 1)
              (world.withRegistry (screen world.registry view.now
                view.request.envelope.sensitivity row.providerId).2) alike'
            refine ⟨registry, cache, ?_⟩
            rw [test]
            dsimp only
            rw [later, count, if_neg Bool.false_ne_true, World.policyCache_withRegistry, add_assoc,
              add_comm 1]
            push_cast
            rfl
        | some passed =>
            obtain ⟨provider, health⟩ := passed
            have tested : view.test row world.policyCache =
                (decide ((view.consult (view.question row) world.policyCache).1 = .allow),
                  (view.consult (view.question row) world.policyCache).2) := by
              unfold RoutingView.test
              rw [found]
            have value : view.scoredRow row = some
                { providerId := row.providerId, modelId := row.modelId
                  score := score row.descriptor provider view.request.envelope.sensitivity
                    view.routing.weights view.routing.costWeightCap (health = .degraded) } := by
              unfold scoredRow
              rw [found]
              rfl
            rw [tested]
            dsimp only
            have asked : view.request.modelQuestion row.providerId row.modelId = view.question row :=
              rfl
            rw [asked, Co.settle_bind, view.settle_gate]
            let after : World F :=
              (world.withRegistry (screen world.registry view.now view.request.envelope.sensitivity
                row.providerId).2).withCache (view.consult (view.question row) world.policyCache).2
            have kept : view.registry.Alike view.now after.registry := alike'
            by_cases allowed : (view.consult (view.question row) world.policyCache).1 = .allow
            · simp only [World.policyCache_withRegistry, allowed, ne_eq, not_true_eq_false, if_false,
                decide_true, if_true, List.filterMap_cons, value]
              obtain ⟨registry, cache, later⟩ := ih _ dropped after kept
              refine ⟨registry, cache, later.trans ?_⟩
              rw [List.append_assoc, List.length_append, List.length_singleton]
              have shrunk : view.bound - (scored.length + 1) = room := by omega
              rw [shrunk]
              rfl
            · obtain ⟨registry, cache, later⟩ := ih scored (dropped + 1) after kept
              refine ⟨registry, cache, ?_⟩
              simp only [World.policyCache_withRegistry, allowed, ne_eq, not_false_eq_true, if_true,
                decide_false, Bool.false_eq_true, if_false]
              refine later.trans ?_
              rw [count, World.policyCache_withCache, add_assoc, add_comm 1]
              push_cast
              rfl

/-! ### The routable candidates -/

omit [LinearOrder F] [Add F] [Sub F] [Mul F] [Div F] [IntCast F]

/-- It is asked for and its provider passes every check before the gate. -/
def Eligible (row : CatalogEntryRecord F) : Prop :=
  view.Asked row ∧ ∃ provider, view.Passes row.providerId provider

theorem passes_iff (providerId : String) : (∃ provider, view.Passes providerId provider) ↔
    (screen view.registry view.now view.request.envelope.sensitivity providerId).1.isSome = true := by
  rw [Option.isSome_iff_exists]
  constructor
  · rintro ⟨provider, passes⟩
    exact ⟨_, view.screen_eq_some.mpr ⟨passes, rfl⟩⟩
  · rintro ⟨⟨provider, health⟩, passed⟩
    exact ⟨provider, (view.screen_eq_some.mp passed).1⟩

instance (providerId : String) : Decidable (∃ provider, view.Passes providerId provider) :=
  decidable_of_iff _ (view.passes_iff providerId).symm

instance : DecidablePred view.Eligible := fun _ => inferInstanceAs (Decidable (_ ∧ _))

variable (catalog : ModelCatalog F)

def before (row : CatalogEntryRecord F) : List (CatalogEntryRecord F) :=
  sortBy CatalogEntryRecord.sortKey
    (catalog.values.filter fun other => view.Eligible other ∧ other.sortKey < row.sortKey)

def gated (rows : List (CatalogEntryRecord F)) : BoundedPolicyCache :=
  rows.foldl (fun cache row => (view.consult (view.question row) cache).2) view.cache

/-- The answer of the model gate about a row: the one in the cache when its turn comes, or else that
of the policy port. -/
def gateAnswer (row : CatalogEntryRecord F) : GateAnswer :=
  (view.consult (view.question row) (view.gated (view.before catalog row))).1

def Routable (row : CatalogEntryRecord F) : Prop :=
  view.Eligible row ∧ view.gateAnswer catalog row = .allow

instance : DecidablePred (view.Routable catalog) := fun _ => inferInstanceAs (Decidable (_ ∧ _))

def routable : List (CatalogEntryRecord F) :=
  sortBy CatalogEntryRecord.sortKey (catalog.values.filter fun row => view.Routable catalog row)

def narrowed : List (CatalogEntryRecord F) :=
  narrowExplicit view.request
    (sortBy CatalogEntryRecord.sortKey (catalog.iterByCapability view.request.capability))

theorem narrowExplicit_eq_filter (rows : List (CatalogEntryRecord F)) :
    narrowExplicit view.request rows = rows.filter fun row =>
      (∀ providerId ∈ explicit view.request.envelope.providerId, row.providerId = providerId) ∧
        ∀ modelId ∈ explicit view.request.envelope.modelId, row.modelId = modelId := by
  unfold narrowExplicit
  cases explicit view.request.envelope.providerId with
  | none =>
      cases explicit view.request.envelope.modelId with
      | none => simp
      | some modelId => simp
  | some providerId =>
      cases explicit view.request.envelope.modelId with
      | none => simp
      | some modelId => simp

theorem narrowed_eq : view.narrowed catalog =
    sortBy CatalogEntryRecord.sortKey (catalog.values.filter fun row => view.Asked row) := by
  unfold narrowed
  rw [narrowExplicit_eq_filter, sortBy_filter, ModelCatalog.iterByCapability, List.filter_filter]
  congr 1
  apply List.filter_congr
  intro row _
  rw [Bool.eq_iff_iff]
  simp only [Bool.and_eq_true, decide_eq_true_eq]
  unfold Asked
  tauto

theorem values_distinct : (catalog.values.map CatalogEntryRecord.sortKey).Nodup := by
  have distinct := catalog.entries.distinct
  rw [← catalog.values_keys] at distinct
  exact distinct

theorem distinct_filter (p : CatalogEntryRecord F → Bool) :
    ((catalog.values.filter p).map CatalogEntryRecord.sortKey).Nodup :=
  (values_distinct catalog).sublist (List.filter_sublist.map _)

theorem test_eligible (row : CatalogEntryRecord F) (cache : BoundedPolicyCache) :
    view.test row cache =
      if ∃ provider, view.Passes row.providerId provider then
        (decide ((view.consult (view.question row) cache).1 = .allow),
          (view.consult (view.question row) cache).2)
      else (false, cache) := by
  have passes := view.passes_iff row.providerId
  unfold test
  cases found : (screen view.registry view.now view.request.envelope.sensitivity row.providerId).1 with
  | none =>
      rw [found] at passes
      rw [if_neg fun some => absurd (passes.mp some) Bool.false_ne_true]
  | some passed =>
      rw [found] at passes
      rw [if_pos (passes.mpr rfl)]

theorem tested_eq_gated (rows : List (CatalogEntryRecord F)) (asked : ∀ row ∈ rows, view.Asked row) :
    Scan.tested view.test view.cache rows =
      view.gated (rows.filter fun row => view.Eligible row) := by
  unfold gated Scan.tested
  generalize view.cache = cache
  induction rows generalizing cache with
  | nil => rfl
  | cons row rest ih =>
      have later := ih fun other member => asked other (List.mem_cons_of_mem row member)
      rw [List.foldl_cons, later, test_eligible]
      by_cases passes : ∃ provider, view.Passes row.providerId provider
      · have eligible : view.Eligible row := ⟨asked row List.mem_cons_self, passes⟩
        rw [if_pos passes, List.filter_cons, if_pos (decide_eq_true eligible), List.foldl_cons]
      · have out : ¬ view.Eligible row := fun eligible => passes eligible.2
        rw [if_neg passes, List.filter_cons, if_neg (by simp [out])]

theorem mem_narrowed {row : CatalogEntryRecord F} :
    row ∈ view.narrowed catalog ↔ row ∈ catalog.values ∧ view.Asked row := by
  rw [narrowed_eq, mem_sortBy, List.mem_filter, decide_eq_true_eq]

theorem test_turn {before after : List (CatalogEntryRecord F)} {row : CatalogEntryRecord F}
    (split : view.narrowed catalog = before ++ row :: after) :
    (view.test row (Scan.tested view.test view.cache before)).1 =
      decide (view.Routable catalog row) := by
  have asked : ∀ other ∈ view.narrowed catalog, view.Asked other := fun other member =>
    ((view.mem_narrowed catalog).mp member).2
  have own : view.Asked row := asked row (by rw [split]; simp)
  have earlier : ∀ other ∈ before, view.Asked other := fun other member =>
    asked other (by rw [split]; simp [member])
  rw [tested_eq_gated view before earlier, test_eligible]
  rw [narrowed_eq] at split
  have same : before.filter (fun row => view.Eligible row) = view.before catalog row := by
    rw [sortBy_before (distinct_filter catalog _) split, sortBy_filter]
    unfold RoutingView.before
    rw [List.filter_filter, List.filter_filter]
    congr 1
    apply List.filter_congr
    intro other _
    rw [Bool.eq_iff_iff]
    simp only [Bool.and_eq_true, decide_eq_true_eq]
    unfold Eligible
    tauto
  rw [same]
  by_cases passes : ∃ provider, view.Passes row.providerId provider
  · rw [if_pos passes]
    apply decide_eq_decide.mpr
    exact ⟨fun allowed => ⟨⟨own, passes⟩, allowed⟩, fun routable => routable.2⟩
  · rw [if_neg passes]
    symm
    apply decide_eq_false
    exact fun routable => passes routable.1.2

theorem narrowed_routable : (view.narrowed catalog).filter (fun row => view.Routable catalog row) =
    view.routable catalog := by
  rw [narrowed_eq, sortBy_filter, List.filter_filter]
  unfold routable
  congr 1
  apply List.filter_congr
  intro row _
  rw [Bool.eq_iff_iff]
  simp only [Bool.and_eq_true, decide_eq_true_eq]
  unfold Routable Eligible
  tauto

theorem passing_narrowed :
    Scan.passing view.test view.cache (view.narrowed catalog) = view.routable catalog := by
  rw [← narrowed_routable]
  apply Scan.passing_eq_filter
  intro before row after split
  exact view.test_turn catalog split

def first : List (CatalogEntryRecord F) := (view.routable catalog).take view.bound

theorem kept_scan :
    (view.scan view.bound view.cache (view.narrowed catalog)).kept = view.first catalog := by
  unfold scan first
  rw [Scan.kept_run, passing_narrowed]

variable [LinearOrder F] [Add F] [Sub F] [Mul F] [Div F] [IntCast F]

def chosen : List (Scored F) := sortBy Scored.key ((view.first catalog).filterMap view.scoredRow)

/-- What `route` returns or raises. -/
def verdict (system : ProviderSystemConfig F) (resolvedPin : Option (String × String))
    (id : String) : Except Failure RoutingDecision :=
  if !system.inferenceEnabled then .error (routingError "inference_disabled" .noCandidates)
  else if view.capability view.request.capability view.request.envelope.actor
      view.request.envelope.scopeType view.request.envelope.scopeId ≠ .allow then
    .error (routingError "inference_capability_denied" .policyDenied)
  else if !pinSatisfied view.request resolvedPin then
    .error (routingError "model_pin_required" .pinMismatch)
  else
    let considered := (catalog.iterByCapability view.request.capability).length
    match view.chosen catalog with
    | [] => .error (routingError "no_routable_candidates" .noCandidates)
    | primary :: rest =>
        .ok {
          id, selectedProviderId := primary.providerId, selectedModelId := primary.modelId
          selectionReason := "lowest_score_lex_tiebreak"
          fallbackChain := rest.map Scored.candidate
          candidatesConsidered := considered
          candidatesFiltered := considered - (view.narrowed catalog).length +
            (view.scan view.bound view.cache (view.narrowed catalog)).dropped }

theorem settle_route (world : World F) (now : Option Time)
    (registry : world.registry = view.registry) (cache : world.policyCache = view.cache)
    (time : now.getD world.clock = view.now) (system : ProviderSystemConfig F)
    (resolvedPin : Option (String × String)) :
    ((route view.hash view.routing view.request system view.port resolvedPin now).settle world).2 =
      view.verdict world.catalog system resolvedPin (world.ulids world.drawn) := by
  have asked (capability : InferenceCapability) (actor scopeType scopeId : String) :
      (view.port.gateInferenceCapability capability actor scopeType scopeId).settle world =
        (world, .ok (view.capability capability actor scopeType scopeId)) := rfl
  unfold route verdict
  rw [Co.settle_bind, Co.settle_get]
  dsimp only
  rw [time]
  by_cases disabled : (!system.inferenceEnabled) = true
  · rw [if_pos disabled, if_pos disabled]
    rfl
  · rw [if_neg disabled, if_neg disabled, Co.settle_bind, asked]
    dsimp only
    by_cases denied : view.capability view.request.capability view.request.envelope.actor
        view.request.envelope.scopeType view.request.envelope.scopeId ≠ .allow
    · rw [if_pos denied, if_pos denied]
      rfl
    · rw [if_neg denied, if_neg denied]
      by_cases unpinned : (!pinSatisfied view.request resolvedPin) = true
      · rw [if_pos unpinned, if_pos unpinned]
        rfl
      · obtain ⟨registry', cache', collected⟩ := view.settle_collect (view.narrowed world.catalog)
          [] 0 world (registry ▸ .refl _ _)
        unfold narrowed at collected
        rw [if_neg unpinned, if_neg unpinned, Co.settle_bind, Co.settle_get]
        dsimp only
        rw [Co.settle_bind, collected]
        dsimp only
        have kept := view.kept_scan world.catalog
        unfold narrowed at kept ⊢
        simp only [List.length_nil, Nat.sub_zero, List.nil_append, zero_add, cache, kept, length_sortBy]
        unfold chosen
        cases sortBy Scored.key ((view.first world.catalog).filterMap view.scoredRow) with
        | nil => rfl
        | cons primary rest => rfl

end RoutingView

/-! ### What is routed -/

section

variable [LinearOrder F] [Add F] [Sub F] [Mul F] [Div F] [IntCast F]

/-- Only routable candidates are routed, in the order of their scores, whatever the order of the
catalog. -/
structure RoutesRoutable (view : RoutingView F) (system : ProviderSystemConfig F)
    (resolvedPin : Option (String × String)) (catalog : ModelCatalog F)
    (outcome : ModelCatalog F → Except Failure RoutingDecision) : Prop where
  distinct : ∀ decision, outcome catalog = .ok decision → decision.chain.Nodup
  sorted : ∀ decision, outcome catalog = .ok decision → ∃ scored : List (Scored F),
    decision.chain = scored.map Scored.candidate ∧ (scored.Pairwise fun a b => a.key ≤ b.key) ∧
      scored.Perm ((view.first catalog).filterMap view.scoredRow)
  exactly : ∀ decision, outcome catalog = .ok decision →
    decision.chain.Perm ((view.first catalog).map CatalogEntryRecord.key)
  noCandidates : (∃ failure, outcome catalog = .error failure ∧
      failure.failureReason = some .noCandidates) ↔
    system.inferenceEnabled = false ∨
      view.capability view.request.capability view.request.envelope.actor
          view.request.envelope.scopeType view.request.envelope.scopeId = .allow ∧
        pinSatisfied view.request resolvedPin = true ∧ view.first catalog = []
  order : ∀ other : ModelCatalog F, other.entries.rows.Perm catalog.entries.rows →
    outcome other = outcome catalog

namespace RoutingView

variable (view : RoutingView F) {catalog : ModelCatalog F}

theorem candidates_scored (rows : List (CatalogEntryRecord F))
    (passes : ∀ row ∈ rows, ∃ provider, view.Passes row.providerId provider) :
    (rows.filterMap view.scoredRow).map Scored.candidate = rows.map CatalogEntryRecord.key := by
  induction rows with
  | nil => rfl
  | cons row rest ih =>
      obtain ⟨provider, own⟩ := passes row List.mem_cons_self
      have scored : view.scoredRow row = some
          { providerId := row.providerId, modelId := row.modelId
            score := score row.descriptor provider view.request.envelope.sensitivity
              view.routing.weights view.routing.costWeightCap
              (view.registry.healthStatus row.providerId = .degraded) } := by
        unfold scoredRow
        rw [view.screen_eq_some.mpr ⟨own, rfl⟩]
        rfl
      rw [List.filterMap_cons, scored, List.map_cons, List.map_cons,
        ih fun other member => passes other (List.mem_cons_of_mem row member)]

omit [LinearOrder F] [Add F] [Sub F] [Mul F] [Div F] [IntCast F] in
theorem mem_routable {row : CatalogEntryRecord F} : row ∈ view.routable catalog ↔
    row ∈ catalog.values ∧ view.Routable catalog row := by
  unfold routable
  rw [mem_sortBy, List.mem_filter, decide_eq_true_eq]

omit [LinearOrder F] [Add F] [Sub F] [Mul F] [Div F] [IntCast F] in
theorem distinct_routable (catalog : ModelCatalog F) :
    ((view.routable catalog).map CatalogEntryRecord.key).Nodup := by
  have distinct : ((view.routable catalog).map CatalogEntryRecord.sortKey).Nodup :=
    nodup_sortBy (distinct_filter catalog _)
  exact distinct

theorem candidates_chosen (catalog : ModelCatalog F) :
    ((view.chosen catalog).map Scored.candidate).Perm
      ((view.first catalog).map CatalogEntryRecord.key) := by
  rw [← view.candidates_scored]
  · exact (perm_sortBy Scored.key _).map _
  · intro row member
    exact ((view.mem_routable).mp (List.mem_of_mem_take member)).2.1.2

theorem chosen_eq_nil : view.chosen catalog = [] ↔ view.first catalog = [] := by
  have perm := view.candidates_chosen catalog
  constructor
  · intro none
    rw [none] at perm
    exact List.map_eq_nil_iff.mp perm.nil_eq.symm
  · intro none
    rw [none] at perm
    exact List.map_eq_nil_iff.mp perm.eq_nil

structure Admitted (system : ProviderSystemConfig F) (resolvedPin : Option (String × String)) :
    Prop where
  enabled : system.inferenceEnabled = true
  capability : view.capability view.request.capability view.request.envelope.actor
    view.request.envelope.scopeType view.request.envelope.scopeId = .allow
  pinned : pinSatisfied view.request resolvedPin = true

variable {system : ProviderSystemConfig F} {resolvedPin : Option (String × String)} {id : String}

theorem verdict_of_admitted (admitted : view.Admitted system resolvedPin) :
    view.verdict catalog system resolvedPin id =
      match view.chosen catalog with
      | [] => .error (routingError "no_routable_candidates" .noCandidates)
      | primary :: rest =>
          .ok {
            id, selectedProviderId := primary.providerId, selectedModelId := primary.modelId
            selectionReason := "lowest_score_lex_tiebreak"
            fallbackChain := rest.map Scored.candidate
            candidatesConsidered := (catalog.iterByCapability view.request.capability).length
            candidatesFiltered :=
              (catalog.iterByCapability view.request.capability).length -
                (view.narrowed catalog).length +
              (view.scan view.bound view.cache (view.narrowed catalog)).dropped } := by
  unfold verdict
  rw [if_neg (by simp [admitted.enabled]), if_neg (not_not.mpr admitted.capability),
    if_neg (by simp [admitted.pinned])]

theorem verdict_of_refused (catalog : ModelCatalog F) (id : String)
    (refused : ¬ view.Admitted system resolvedPin) :
    ∃ failure, view.verdict catalog system resolvedPin id = .error failure ∧
      (failure.failureReason = some .noCandidates ↔ system.inferenceEnabled = false) := by
  unfold verdict
  by_cases disabled : (!system.inferenceEnabled) = true
  · rw [if_pos disabled]
    exact ⟨_, rfl, fun _ => by simpa using disabled, fun _ => rfl⟩
  · rw [if_neg disabled]
    have enabled : system.inferenceEnabled = true := by simpa using disabled
    have other (failure : Failure) (reason : failure.failureReason ≠ some .noCandidates) :
        failure.failureReason = some .noCandidates ↔ system.inferenceEnabled = false :=
      ⟨fun same => absurd same reason, fun off => absurd (off.symm.trans enabled) Bool.false_ne_true⟩
    by_cases denied : view.capability view.request.capability view.request.envelope.actor
        view.request.envelope.scopeType view.request.envelope.scopeId ≠ .allow
    · rw [if_pos denied]
      exact ⟨_, rfl, other _ nofun⟩
    · rw [if_neg denied]
      by_cases unpinned : (!pinSatisfied view.request resolvedPin) = true
      · rw [if_pos unpinned]
        exact ⟨_, rfl, other _ nofun⟩
      · exact absurd ⟨enabled, not_not.mp denied, by simpa using unpinned⟩ refused

theorem chain_of_verdict {decision : RoutingDecision}
    (decided : view.verdict catalog system resolvedPin id = .ok decision) :
    view.Admitted system resolvedPin ∧
      decision.chain = (view.chosen catalog).map Scored.candidate := by
  by_cases admitted : view.Admitted system resolvedPin
  · rw [verdict_of_admitted view admitted] at decided
    cases chosen : view.chosen catalog with
    | nil =>
        rw [chosen] at decided
        cases decided
    | cons primary rest =>
        rw [chosen] at decided
        obtain rfl := Except.ok.inj decided
        exact ⟨admitted, rfl⟩
  · obtain ⟨failure, refused, -⟩ := view.verdict_of_refused catalog id admitted
    rw [refused] at decided
    cases decided

theorem verdict_perm {other : ModelCatalog F}
    (perm : other.entries.rows.Perm catalog.entries.rows) :
    view.verdict other system resolvedPin id = view.verdict catalog system resolvedPin id := by
  have values : other.values.Perm catalog.values := perm.map Prod.snd
  have before (row : CatalogEntryRecord F) : view.before other row = view.before catalog row :=
    sortBy_perm (values.filter _) (distinct_filter other _)
  have routable : view.routable other = view.routable catalog := by
    have same : (other.values.filter fun row => view.Routable other row).Perm
        (catalog.values.filter fun row => view.Routable catalog row) := by
      have congr : (fun row => decide (view.Routable other row)) =
          fun row => decide (view.Routable catalog row) := by
        funext row
        apply decide_eq_decide.mpr
        unfold Routable gateAnswer
        rw [before]
      rw [congr]
      exact values.filter _
    exact sortBy_perm same (distinct_filter other _)
  have narrowed : view.narrowed other = view.narrowed catalog := by
    rw [narrowed_eq, narrowed_eq]
    exact sortBy_perm (values.filter _) (distinct_filter other _)
  have count : (other.iterByCapability view.request.capability).length =
      (catalog.iterByCapability view.request.capability).length :=
    (values.filter _).length_eq
  unfold verdict chosen first
  rw [routable, narrowed, count]

end RoutingView

variable (hash : List Char → String) (routing : RoutingPolicyConfig F) (request : InferenceRequest)
  (capability : InferenceCapability → (actor scopeType scopeId : String) → GateAnswer)
  (model : ModelQuestion → GateAnswer) (now : Option Time) (world : World F)
  (system : ProviderSystemConfig F) (resolvedPin : Option (String × String))

/-- What `route` reads of the world, but for its catalog. -/
def World.view : RoutingView F :=
  { hash, routing, request, registry := world.registry, cache := world.policyCache, capability, model
    now := now.getD world.clock }

/-- The outcome of `route` over a catalog. -/
def World.routed (catalog : ModelCatalog F) : Except Failure RoutingDecision :=
  ((route hash routing request system (answering capability model) resolvedPin now).settle
    { world with catalog }).2

theorem World.routed_eq_verdict (catalog : ModelCatalog F) :
    world.routed hash routing request capability model now system resolvedPin catalog =
      (world.view hash routing request capability model now).verdict catalog system resolvedPin
        (world.ulids world.drawn) :=
  (world.view hash routing request capability model now).settle_route { world with catalog } now rfl
    rfl rfl system resolvedPin

theorem routes_routable (catalog : ModelCatalog F) :
    RoutesRoutable (world.view hash routing request capability model now) system resolvedPin catalog
      (world.routed hash routing request capability model now system resolvedPin) := by
  let view := world.view hash routing request capability model now
  have outcome (catalog : ModelCatalog F) :=
    world.routed_eq_verdict hash routing request capability model now system resolvedPin catalog
  constructor
  · intro decision decided
    rw [outcome] at decided
    rw [(view.chain_of_verdict decided).2]
    apply (view.candidates_chosen catalog).nodup_iff.mpr
    exact (view.distinct_routable catalog).sublist ((List.take_sublist _ _).map _)
  · intro decision decided
    rw [outcome] at decided
    exact ⟨view.chosen catalog, (view.chain_of_verdict decided).2, sorted_sortBy Scored.key _,
      perm_sortBy Scored.key _⟩
  · intro decision decided
    rw [outcome] at decided
    rw [(view.chain_of_verdict decided).2]
    exact view.candidates_chosen catalog
  · rw [outcome]
    by_cases admitted : view.Admitted system resolvedPin
    · rw [view.verdict_of_admitted admitted, ← view.chosen_eq_nil]
      cases view.chosen catalog with
      | nil => exact ⟨fun _ => .inr ⟨admitted.capability, admitted.pinned, rfl⟩, fun _ => ⟨_, rfl, rfl⟩⟩
      | cons primary rest =>
          constructor
          · rintro ⟨failure, same, -⟩
            cases same
          · rintro (off | ⟨-, -, none⟩)
            · exact absurd (off.symm.trans admitted.enabled) Bool.false_ne_true
            · cases none
    · obtain ⟨failure, refused, reason⟩ := view.verdict_of_refused catalog
        (world.ulids world.drawn) admitted
      rw [refused]
      constructor
      · rintro ⟨own, same, none⟩
        obtain rfl := Except.error.inj same
        exact .inl (reason.mp none)
      · rintro (off | ⟨allowed, pinned, -⟩)
        · exact ⟨failure, rfl, reason.mpr off⟩
        · have off : system.inferenceEnabled = false := by
            by_contra on
            exact admitted ⟨by simpa using on, allowed, pinned⟩
          exact ⟨failure, rfl, reason.mpr off⟩
  · intro other perm
    rw [outcome, outcome]
    exact view.verdict_perm perm

end

/-! A provider with one model, for a chat request, when inference is switched off. -/

def localProvider : ProviderConfig := { id := "local", capabilities := [.chat] }

def wholePolicy (bound : Int) : RoutingPolicyConfig ℤ where
  weights :=
    { cost := 1, latencyProxy := 0, sensitivityMatchBonus := 2, degradedPenalty := 100
      trustTierTrustedBonus := 0, trustTierUntrustedPenalty := 50 }
  costWeightCap := 1000000
  policyMaxCandidatesPerRequest := bound

def systemOf (inferenceEnabled : Bool) (providers : List ProviderConfig)
    (distinct : (providers.map ProviderConfig.id).Nodup) : ProviderSystemConfig ℤ where
  inferenceEnabled
  providers
  routing := wholePolicy 64
  staticCatalog := []
  distinct
  known _ member := absurd member List.not_mem_nil

theorem localProvider_alone : ([localProvider].map ProviderConfig.id).Nodup :=
  List.nodup_singleton _

def chatRow (providerId modelId : String) (cost : ℤ) : CatalogEntryRecord ℤ where
  providerId
  modelId
  descriptor :=
    { modelId, name := modelId, providerId
      cost := { inputPerMillion := cost, outputPerMillion := 0, cacheReadPerMillion := 0 } }
  capabilities := [.chat]

def catalogOf (rows : List (CatalogEntryRecord ℤ)) : ModelCatalog ℤ where
  snapshotVersion := "1"
  entries := rows.foldl CatalogEntries.put .empty

def chatRequest (modelPinning : ModelPinning) : InferenceRequest :=
  .chat
    { messages := [{ role := "user", content := "hi" }], temperature := none, maxTokens := none
      modelId := none, providerId := none, actor := "ann", scopeType := "PLATFORM"
      scopeId := "default", sensitivity := .publicData, traceId := "", idempotencyKey := none
      modelPinning }

def silent : Outside where
  adapter _ := .error { errorType := "ConnectError", message := "" }
  stream _ := ([], none)
  emit _ := none
  idempotencyBegin := .error { errorType := "OperationalError", message := "" }
  idempotencyUpdate := none

def plainEngine (rules : List PolicyRuleRow) : PolicyEngine :=
  workingEngine { search := fun _ _ => .ok false, validationError := fun _ => "" } rules

def switchedOff : World ℤ :=
  .boot (systemOf false [localProvider] (by decide)) (catalogOf [chatRow "local" "small" 1])
    (plainEngine []) silent

theorem disabled_without_candidates :
    ¬ ((∃ failure,
          switchedOff.routed String.ofList (wholePolicy 64) (chatRequest .none)
            (fun _ _ _ _ => .allow) (fun _ => .allow) none
            (systemOf false [localProvider] (by decide)) none switchedOff.catalog = .error failure ∧
          failure.failureReason = some .noCandidates) ↔
        (switchedOff.view String.ofList (wholePolicy 64) (chatRequest .none)
          (fun _ _ _ _ => .allow) (fun _ => .allow) none).first switchedOff.catalog = []) := by
  intro same
  have none := same.mp ⟨_, rfl, rfl⟩
  revert none
  decide

end SyndicateClaw.Inference
