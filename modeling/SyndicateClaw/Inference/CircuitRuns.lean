import SyndicateClaw.Inference.CatalogEvidence
import SyndicateClaw.Inference.SteadyService

/-! Failing providers, over every sequence of requests. -/

namespace SyndicateClaw.Inference

open Async Authz Policy

structure ProviderCall where
  providerId : String
  calledAt : Time
  endedAt : Time
  failed : Bool
  deriving DecidableEq

/-! ### What circuits are for -/

/-- A provider has failed as often as its breaker allows, within its window and without a success in
between, and the time that its circuit stays open is not over when the call is made. -/
def CircuitBreaker.Open (breaker : CircuitBreaker) (before : List ProviderCall)
    (call : ProviderCall) : Prop :=
  ∃ earlier streak later first last,
    before.filter (fun other => other.providerId = call.providerId) = earlier ++ streak ++ later ∧
    streak.length = breaker.failureThreshold ∧ (∀ other ∈ streak, other.failed = true) ∧
    streak.head? = some first ∧ streak.getLast? = some last ∧
    last.endedAt - first.endedAt ≤ breaker.windowSeconds ∧
    call.calledAt < last.endedAt + breaker.openSeconds

def CircuitBreaker.CutsOff (breaker : CircuitBreaker) (log : List ProviderCall) : Prop :=
  ∀ before call after, log = before ++ call :: after → ¬ breaker.Open before call

/-! ### Runs of the service -/

section

variable {F : Type}

def providerCall (step : Point × World F × World F) : Option ProviderCall :=
  match step with
  | (.adapter call, s, s') =>
      some
        { providerId := call.provider.id, calledAt := s.clock, endedAt := s'.clock
          failed := match s'.outside.adapter call with
            | .ok _ => false
            | .error _ => true }
  | _ => none

/-- Time goes on; the rules, and what adapters and others answer, may change. -/
def Weather (s s' : World F) : Prop :=
  ∃ clock engine outside, s.clock ≤ clock ∧ s' = { s with clock, engine, outside }

variable [LinearOrder F] [Add F] [Sub F] [Mul F] [Div F] [IntCast F]

/-- `infer_chat` or `infer_embedding`. -/
def InferenceRequest.infer (hash : List Char → String) (request : InferenceRequest) :
    Inferring F InferenceResponse :=
  match request with
  | .chat request => inferChat hash request
  | .embedding request => inferEmbedding hash request

def servedCalls (hash : List Char → String) (env : Nat → World F → World F) :
    Nat → World F → List InferenceRequest → List ProviderCall
  | _, _, [] => []
  | i, world, request :: rest =>
      let take := (request.infer hash).play env i world
      take.points.filterMap providerCall ++
        servedCalls hash env (take.next + 1) (env take.next take.state) rest

end

/-! ### Logs -/

theorem exists_split_filter {α : Type} (p : α → Bool) {items : List α} {n : Nat}
    (many : n < (items.filter p).length) :
    ∃ before item after, items = before ++ item :: after ∧ p item = true ∧
      (before.filter p).length = n := by
  induction items generalizing n with
  | nil => cases many
  | cons first rest ih =>
      cases kind : p first with
      | false =>
          rw [List.filter_cons_of_neg (by simp [kind])] at many
          obtain ⟨before, item, after, rfl, own, count⟩ := ih many
          refine ⟨first :: before, item, after, rfl, own, ?_⟩
          rw [List.filter_cons_of_neg (by simp [kind])]
          exact count
      | true =>
          cases n with
          | zero => exact ⟨[], first, rest, rfl, kind, rfl⟩
          | succ n =>
              rw [List.filter_cons_of_pos kind, List.length_cons] at many
              obtain ⟨before, item, after, rfl, own, count⟩ := ih (Nat.lt_of_succ_lt_succ many)
              refine ⟨first :: before, item, after, rfl, own, ?_⟩
              rw [List.filter_cons_of_pos kind, List.length_cons, count]

theorem not_cutsOff {log : List ProviderCall} {providerId : String} {now : Time}
    (failing : ∀ call ∈ log, call.calledAt = now ∧ call.endedAt = now ∧ call.failed = true)
    (often : 5 < (log.filter fun call => call.providerId = providerId).length) :
    ¬ ({} : CircuitBreaker).CutsOff log := by
  intro cuts
  obtain ⟨before, call, after, rfl, own, count⟩ := exists_split_filter _ often
  apply cuts before call after rfl
  have ids : call.providerId = providerId := by simpa using own
  rw [← ids] at count
  have all : ∀ other ∈ before.filter (fun other => other.providerId = call.providerId),
      other.calledAt = now ∧ other.endedAt = now ∧ other.failed = true := fun other member =>
    failing other (List.mem_append_left _ (List.mem_of_mem_filter member))
  generalize streak_eq : before.filter (fun other => other.providerId = call.providerId) =
    streak at count all
  have present : streak ≠ [] := by
    intro none
    rw [none] at count
    cases count
  refine ⟨[], streak, [], streak.head present, streak.getLast present, ?_, ?_, ?_,
    List.head?_eq_some_head present, List.getLast?_eq_some_getLast present, ?_, ?_⟩
  · rw [streak_eq, List.nil_append, List.append_nil]
  · rw [count]
    rfl
  · exact fun other member => (all other member).2.2
  · rw [(all _ (List.head_mem present)).2.1, (all _ (List.getLast_mem present)).2.1, sub_self]
    decide
  · rw [(all _ (List.getLast_mem present)).2.1,
      (failing call (List.mem_append_right _ List.mem_cons_self)).1]
    show now < now + 30
    unfold Time at *
    omega

/-! ### Rules that allow everything -/

theorem fnmatchFrom_star (name : List Char) {fuel : Nat} (enough : name.length < fuel) :
    fnmatchFrom fuel name ['*'] = true := by
  induction name generalizing fuel with
  | nil =>
      obtain ⟨fuel, rfl⟩ := Nat.exists_eq_succ_of_ne_zero (Nat.ne_of_gt enough)
      simp [fnmatchFrom]
  | cons c name ih =>
      obtain ⟨fuel, rfl⟩ := Nat.exists_eq_succ_of_ne_zero (Nat.ne_zero_of_lt enough)
      have rest := ih (Nat.lt_of_succ_lt_succ enough)
      simp [fnmatchFrom, rest]

theorem fnmatch_star (name : String) : fnmatch name "*" = true := by
  apply fnmatchFrom_star
  rw [String.length_toList]
  exact Nat.lt_succ_self _

theorem ruledEngine_allows {resourceType : String} (kind : resourceType ∈ ["inference", "model"])
    (resourceId actor : String) (context : Orchestrator.State) :
    gateAnswerOf ((ruledEngine "ALLOW").evaluate resourceType resourceId actor context) = .allow := by
  have matching : matchingRules resourceType resourceId (ruledEngine "ALLOW").rules =
      [oneRuleFor "ALLOW" resourceType] := by
    have enabled : ((ruledEngine "ALLOW").rules.filter fun rule =>
        rule.resourceType = resourceType && rule.enabled) = [oneRuleFor "ALLOW" resourceType] := by
      cases kind with
      | head => rfl
      | tail _ last =>
          obtain rfl := List.mem_singleton.mp last
          rfl
    rw [matchingRules, getEnabledByResourceType, enabled, List.mergeSort_singleton]
    exact List.filter_cons_of_pos (fnmatch_star resourceId)
  unfold PolicyEngine.evaluate PolicyEngine.decide
  rw [matching]
  rfl

/-! ### What every run keeps -/

section

variable {F : Type} {system : ProviderSystemConfig F} {catalog : ModelCatalog F}

/-- The service as it was configured: nothing has moved a circuit. -/
structure AsConfigured (system : ProviderSystemConfig F) (catalog : ModelCatalog F)
    (world : World F) : Prop where
  loader : ∃ version, world.loader = some (system, version)
  rows : world.catalog = catalog
  registry : world.registry = .ofConfig system

theorem steady_asConfigured (system : ProviderSystemConfig F) (catalog : ModelCatalog F) :
    Steady system catalog Weather
      (fun point _ => ∀ call, point = .adapter call → Callable system catalog) False
      (AsConfigured system catalog) where
  loader _ configured := configured.loader
  rows _ configured := configured.rows
  registry _ configured := configured.registry
  env s s' configured weather := by
    obtain ⟨clock, engine, outside, later, rfl⟩ := weather
    exact ⟨⟨configured.loader, configured.rows, configured.registry⟩, later⟩
  quiet point _ _ quiet call same := absurd same (quiet call)
  called callable _ _ _ _ _ := callable
  recorded _ _ _ _ configured := ⟨configured.loader, configured.rows, configured.registry⟩
  asked _ _ _ configured := ⟨configured.loader, configured.rows, configured.registry⟩
  answered _ _ _ _ configured := ⟨configured.loader, configured.rows, configured.registry⟩
  cached mild := mild.elim
  granted mild := mild.elim
  heard mild := mild.elim

/-- At time 0, every gate lets requests pass and every adapter fails. -/
structure Ready (system : ProviderSystemConfig F) (catalog : ModelCatalog F) (world : World F) : Prop
    extends AsConfigured system catalog world where
  engine : world.engine = ruledEngine "ALLOW"
  outside : world.outside = silent
  clock : world.clock = 0
  cache : ∀ entry ∈ world.policyCache.data, entry.2.2 = .allow

theorem ready_boot (system : ProviderSystemConfig F) (catalog : ModelCatalog F) :
    Ready system catalog (.boot system catalog (ruledEngine "ALLOW") silent) where
  loader := ⟨1, rfl⟩
  rows := rfl
  registry := rfl
  engine := rfl
  outside := rfl
  clock := rfl
  cache _ member := absurd member List.not_mem_nil

theorem Ready.ruling {world : World F} (ready : Ready system catalog world)
    {question : PolicyQuestion} (kind : question.resourceType ∈ ["inference", "model"]) :
    world.ruling question = .allow := by
  rw [World.ruling, ready.engine]
  exact ruledEngine_allows kind _ _ _

theorem steady_ready (system : ProviderSystemConfig F) (catalog : ModelCatalog F) :
    Steady system catalog (fun s s' => s' = s)
      (fun point s => ∀ call, point = .adapter call → s.outside = silent ∧ s.clock = 0) True
      (Ready system catalog) where
  loader _ ready := ready.loader
  rows _ ready := ready.rows
  registry _ ready := ready.registry
  env s s' ready same := by
    subst same
    exact ⟨ready, le_refl _⟩
  quiet point _ _ quiet call same := absurd same (quiet call)
  called _ _ _ ready _ _ := ⟨ready.outside, ready.clock⟩
  recorded _ _ _ _ ready := { ready with }
  asked _ _ _ ready :=
    { ready with
      cache := fun entry member => ready.cache entry (BoundedPolicyCache.mem_afterGet member) }
  answered s key now question ready :=
    { ready with
      cache := by
        intro entry member
        cases BoundedPolicyCache.mem_set member with
        | inl new =>
            rw [new]
            exact ready.ruling (List.mem_cons_of_mem _ List.mem_cons_self)
        | inr old => exact ready.cache entry old }
  cached _ s key now answer ready found := by
    obtain ⟨expiresAt, member, -⟩ := BoundedPolicyCache.mem_of_answer? found
    exact ready.cache _ member
  granted _ _ _ kind ready := ready.ruling kind
  heard _ _ _ ready := by
    rw [ready.outside]
    rfl

variable [LinearOrder F] [Add F] [Sub F] [Mul F] [Div F] [IntCast F] (hash : List Char → String)

theorem infer_eq (request : InferenceRequest) :
    (request.infer hash : Inferring F _) = infer hash request.pipeline request := by
  cases request with
  | chat request => rfl
  | embedding request => rfl

theorem servedCalls_eq_nil (idle : ¬ Callable system catalog) {env : Nat → World F → World F}
    (weather : ∀ i s, Weather s (env i s)) (requests : List InferenceRequest) (i : Nat)
    {world : World F} (configured : AsConfigured system catalog world) :
    servedCalls hash env i world requests = [] := by
  induction requests generalizing i world with
  | nil => rfl
  | cons request rest ih =>
      have upholds := upholds_infer (steady_asConfigured system catalog) hash request.pipeline request
      rw [← infer_eq] at upholds
      have none : ((request.infer hash).play env i world).points.filterMap providerCall = [] := by
        apply List.filterMap_eq_nil_iff.mpr
        intro step passed
        have claim := (upholds.points_play weather i configured passed).1
        obtain ⟨point, s, s'⟩ := step
        cases point with
        | adapter call => exact absurd (claim call rfl) idle
        | _ => rfl
      have kept : AsConfigured system catalog ((request.infer hash).play env i world).state := by
        cases upholds.ends_play weather i configured with
        | inl returned => exact returned.elim fun _ ends => ends.2
        | inr raised => exact raised.elim fun _ ends => ends.2
      have next := fun j => ((steady_asConfigured system catalog).env _ _ kept (weather j _)).1
      rw [servedCalls, none, ih _ (next _)]
      rfl

/-! ### Calls in vain -/

def openRequest : InferenceCapability → InferenceRequest
  | .chat => .chat annsChat
  | .embedding => .embedding { labelled .publicData with idempotencyKey := none }

theorem offers_openRequest {row : CatalogEntryRecord F} (stored : row ∈ catalog.values)
    (active : row.status = .active) {capability : InferenceCapability}
    (listed : capability ∈ row.capabilities) : row ∈ offers catalog (openRequest capability) := by
  have found : row ∈ catalog.iterByCapability capability := by
    apply List.mem_filter.mpr
    exact ⟨stored, by simp [active, listed]⟩
  cases capability with
  | chat => exact (mem_sortBy CatalogEntryRecord.sortKey).mpr found
  | embedding => exact (mem_sortBy CatalogEntryRecord.sortKey).mpr found

theorem line_openRequest (callable : Callable system catalog) :
    ∃ capability, line system catalog (openRequest capability) ≠ [] := by
  obtain ⟨row, stored, active, capable, provider, member, own, enabled⟩ := callable.row
  obtain ⟨capability, listed⟩ := List.exists_mem_of_ne_nil _ capable
  refine ⟨capability, ?_⟩
  have offered := offers_openRequest stored active listed
  have known : system.providers.find? (fun other => other.id = row.providerId) = some provider := by
    cases found : system.providers.find? fun other => other.id = row.providerId with
    | none => exact absurd own (by simpa using List.find?_eq_none.mp found provider member)
    | some other =>
        have same : other.id = row.providerId := by simpa using List.find?_some found
        exact congrArg some (List.inj_on_of_nodup_map system.distinct
          (List.mem_of_find?_eq_some found) member (same.trans own.symm))
  have low : (openRequest capability).envelope.sensitivity = .publicData := by
    cases capability with
    | chat => rfl
    | embedding => rfl
  have passes : admitted system row.providerId (openRequest capability).envelope.sensitivity =
      some provider := by
    rw [admitted, known, low, Option.filter_some, if_pos]
    rw [enabled]
    exact decide_eq_true (Nat.zero_le provider.maxAllowedSensitivity.rank)
  have room : 0 < system.routing.policyMaxCandidatesPerRequest.toNat := by
    have positive := callable.room
    omega
  intro none
  have empty : ((offers catalog (openRequest capability)).filterMap
      (offer system (openRequest capability))).take
        system.routing.policyMaxCandidatesPerRequest.toNat = [] := by
    have sorted := List.map_eq_nil_iff.mp none
    apply List.eq_nil_iff_forall_not_mem.mpr
    intro x member
    have inside := (mem_sortBy Scored.key).mpr member
    rw [sorted] at inside
    cases inside
  cases List.take_eq_nil_iff.mp empty with
  | inl full => exact absurd full (Nat.ne_of_gt room)
  | inr unoffered =>
      have refused := List.filterMap_eq_nil_iff.mp unoffered row offered
      rw [offer, passes] at refused
      cases refused

theorem line_first {request : InferenceRequest} {candidate : String × String}
    {rest : List (String × String)} (first : line system catalog request = candidate :: rest) :
    ∃ provider, candidate.1 = provider.id ∧
      system.providers.find? (fun other => other.id = provider.id) = some provider ∧
      provider.enabled = true ∧ (catalog.get provider.id candidate.2).isSome = true := by
  have member : candidate ∈ line system catalog request := by
    rw [first]
    exact List.mem_cons_self
  obtain ⟨x, inside, rfl⟩ := List.mem_map.mp member
  have kept := List.mem_of_mem_take ((mem_sortBy Scored.key).mp inside)
  obtain ⟨row, listed, passes⟩ := List.mem_filterMap.mp kept
  obtain ⟨provider, through, rfl⟩ := Option.map_eq_some_iff.mp passes
  obtain ⟨known, checks⟩ := Option.filter_eq_some_iff.mp through
  have own : provider.id = row.providerId := by simpa using List.find?_some known
  obtain ⟨other, stored, same, -, -⟩ := offered_of_mem listed
  have key : row.key = other.key := same.symm
  refine ⟨provider, own.symm, ?_, ?_, ?_⟩
  · rw [own]
    exact known
  · exact (Bool.and_eq_true _ _ ▸ checks).1
  · rw [own]
    show (catalog.get row.key.1 row.key.2).isSome = true
    rw [key, catalog.get_of_mem stored]
    rfl

theorem servedCalls_failing {request : InferenceRequest} {providerId : String}
    (calls : ∀ i world, Ready system catalog world →
      Called providerId ((request.infer hash).play (fun _ s => s) i world).points)
    (n i : Nat) {world : World F} (ready : Ready system catalog world) :
    (∀ call ∈ servedCalls hash (fun _ s => s) i world (List.replicate n request),
      call.calledAt = 0 ∧ call.endedAt = 0 ∧ call.failed = true) ∧
    n ≤ ((servedCalls hash (fun _ s => s) i world (List.replicate n request)).filter
      fun call => call.providerId = providerId).length := by
  induction n generalizing i world with
  | zero => exact ⟨fun call member => absurd member List.not_mem_nil, Nat.zero_le _⟩
  | succ n ih =>
      have upholds := upholds_infer (steady_ready system catalog) hash request.pipeline request
      rw [← infer_eq] at upholds
      have still : ∀ (j : Nat) (s : World F), s = s := fun _ _ => rfl
      have kept : Ready system catalog
          ((request.infer hash).play (fun _ s => s) i world).state := by
        cases upholds.ends_play still i ready with
        | inl returned => exact returned.elim fun _ ends => ends.2
        | inr raised => exact raised.elim fun _ ends => ends.2
      obtain ⟨failing, often⟩ :=
        ih (((request.infer hash).play (fun _ s => s) i world).next + 1) kept
      have made : ∀ step ∈ ((request.infer hash).play (fun _ s => s) i world).points,
          ∀ call, step.1 = .adapter call → providerCall step = some
            { providerId := call.provider.id, calledAt := 0, endedAt := 0, failed := true } := by
        intro step passed call point
        obtain ⟨claim, -, same⟩ := upholds.points_play still i ready passed
        obtain ⟨quiet, clock⟩ := claim call point
        obtain ⟨label, s, s'⟩ := step
        dsimp only at point same quiet clock
        subst point same
        unfold providerCall
        dsimp only
        rw [quiet, clock]
        rfl
      rw [List.replicate_succ, servedCalls]
      constructor
      · intro call member
        cases List.mem_append.mp member with
        | inl now =>
            obtain ⟨step, passed, recorded⟩ := List.mem_filterMap.mp now
            obtain ⟨label, s, s'⟩ := step
            cases label with
            | adapter own =>
                obtain rfl := Option.some.inj (recorded.symm.trans (made _ passed own rfl))
                exact ⟨rfl, rfl, rfl⟩
            | _ => cases recorded
        | inr later => exact failing call later
      · obtain ⟨step, passed, call, point, own⟩ := calls i world ready
        have listed : 0 < ((((request.infer hash).play (fun _ s => s) i world).points.filterMap
            providerCall).filter fun call => call.providerId = providerId).length := by
          apply List.length_pos_of_mem
          apply List.mem_filter.mpr
          exact ⟨List.mem_filterMap.mpr ⟨step, passed, made step passed call point⟩,
            by simpa using own⟩
        rw [List.filter_append, List.length_append]
        omega

theorem not_cutsOff_of_callable (callable : Callable system catalog) :
    ∃ request, ¬ ({} : CircuitBreaker).CutsOff (servedCalls hash (fun _ s => s) 0
      (.boot system catalog (ruledEngine "ALLOW") silent) (List.replicate 6 request)) := by
  obtain ⟨capability, some_line⟩ := line_openRequest callable
  obtain ⟨candidate, rest, first⟩ := List.exists_cons_of_ne_nil some_line
  obtain ⟨provider, same, known, enabled, found⟩ := line_first first
  have valid : ((openRequest capability).pipeline : Pipeline F).revalidates (.ofConfig system)
      catalog provider.id candidate.2 = true := by
    cases capability with
    | chat =>
        show (!(ProviderRegistry.ofConfig system).isRuntimeDisabled provider.id &&
          (catalog.get provider.id candidate.2).isSome) = true
        rw [isRuntimeDisabled_ofConfig system provider.id known, found]
        rfl
    | embedding => rfl
  have head : line system catalog (openRequest capability) =
      (provider.id, candidate.2) :: rest := by
    rw [first, ← same]
  have calls : ∀ i (world : World F), Ready system catalog world → Called provider.id
      (((openRequest capability).infer hash).play (fun _ s => s) i world).points := by
    intro i world ready
    rw [infer_eq]
    refine called_infer (steady_ready system catalog) (fun _ _ => rfl) ?_ hash callable ?_ ?_ head
      known enabled valid ready
    · intro s s' before after
      rw [before.clock, after.clock]
    · cases capability with
      | chat => rfl
      | embedding => rfl
    · cases capability with
      | chat => rfl
      | embedding => rfl
  obtain ⟨failing, often⟩ := servedCalls_failing hash calls 6 0 (ready_boot system catalog)
  exact ⟨openRequest capability, not_cutsOff failing often⟩

end

/-- Failing providers are cut off, over every sequence of requests, whatever the rules and the
adapters answer, exactly where no request gets to an adapter at all. -/
theorem cutsOff_iff {F : Type} [LinearOrder F] [Add F] [Sub F] [Mul F] [Div F] [IntCast F]
    (hash : List Char → String) (system : ProviderSystemConfig F) (catalog : ModelCatalog F) :
    (∀ env : Nat → World F → World F, (∀ i s, Weather s (env i s)) →
      ∀ engine outside requests, ({} : CircuitBreaker).CutsOff
        (servedCalls hash env 0 (.boot system catalog engine outside) requests)) ↔
      ¬ Callable system catalog := by
  constructor
  · intro cuts callable
    obtain ⟨request, open_⟩ := not_cutsOff_of_callable hash callable
    have calm : ∀ (i : Nat) (s : World F), Weather s s := fun _ s =>
      ⟨s.clock, s.engine, s.outside, le_refl _, rfl⟩
    exact open_ (cuts (fun _ s => s) calm (ruledEngine "ALLOW") silent (List.replicate 6 request))
  · intro idle env weather engine outside requests
    rw [servedCalls_eq_nil hash idle weather requests 0 ⟨⟨1, rfl⟩, rfl, rfl⟩]
    intro before call after split
    simp at split

/-! A provider that cannot be reached is asked by every one of six requests. -/

theorem sixth_request_called :
    ¬ ∀ env : Nat → World ℤ → World ℤ, (∀ i s, Weather s (env i s)) →
      ∀ engine outside requests, ({} : CircuitBreaker).CutsOff
        (servedCalls String.ofList env 0
          (.boot (systemOf true [localProvider] (by decide)) (catalogOf [chatRow "local" "small" 1])
            engine outside) requests) := by
  intro cuts
  have callable : Callable (systemOf true [localProvider] (by decide))
      (catalogOf [chatRow "local" "small" 1]) := by
    refine ⟨rfl, by decide, by decide, chatRow "local" "small" 1, ?_, rfl, List.cons_ne_nil _ _,
      localProvider, List.mem_singleton_self _, rfl, rfl⟩
    exact List.mem_singleton_self _
  obtain ⟨request, uncut⟩ := not_cutsOff_of_callable String.ofList callable
  have calm : ∀ (i : Nat) (s : World ℤ), Weather s s := fun _ s =>
    ⟨s.clock, s.engine, s.outside, le_refl _, rfl⟩
  exact uncut (cuts (fun _ s => s) calm (ruledEngine "ALLOW") silent (List.replicate 6 request))

end SyndicateClaw.Inference
