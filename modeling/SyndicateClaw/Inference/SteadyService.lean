import SyndicateClaw.Async.Claims
import SyndicateClaw.Inference.RoutedCalls

/-! Inferences of a service whose circuits were never moved. -/

namespace SyndicateClaw.Inference

open Async Authz Policy

variable {F : Type}

/-! ### A registry as it was made -/

section

variable (system : ProviderSystemConfig F) (providerId : String) (now : Time)

theorem getProvider_ofConfig : (ProviderRegistry.ofConfig system).getProvider providerId =
    system.providers.find? fun provider => provider.id = providerId := by
  show Dict.get? (system.providers.map fun provider => (provider.id, provider)) providerId = _
  induction system.providers with
  | nil => rfl
  | cons provider rest ih =>
      rw [List.map_cons, Dict.get?_cons, List.find?_cons, ih]
      by_cases own : provider.id = providerId
      · simp [own]
      · simp [own]

theorem ephemeral_ofConfig :
    Dict.get? (ProviderRegistry.ofConfig system).ephemeral providerId =
      (system.providers.find? fun provider => provider.id = providerId).map fun _ => {} := by
  show Dict.get? (system.providers.map fun provider => (provider.id, ({} : Ephemeral))) providerId =
    _
  induction system.providers with
  | nil => rfl
  | cons provider rest ih =>
      rw [List.map_cons, Dict.get?_cons, List.find?_cons, ih]
      by_cases own : provider.id = providerId
      · simp [own]
      · simp [own]

theorem tick_ofConfig :
    (ProviderRegistry.ofConfig system).tick providerId now = .ofConfig system := by
  unfold ProviderRegistry.tick
  rw [ephemeral_ofConfig]
  cases known : system.providers.find? fun provider => provider.id = providerId with
  | none => rfl
  | some provider =>
      show { ProviderRegistry.ofConfig system with
        ephemeral := Dict.set (ProviderRegistry.ofConfig system).ephemeral providerId {} } =
          ProviderRegistry.ofConfig system
      have present : Dict.contains (ProviderRegistry.ofConfig system).ephemeral providerId =
          true := by
        rw [Dict.contains, ephemeral_ofConfig, known]
        rfl
      have same : Dict.set (ProviderRegistry.ofConfig system).ephemeral providerId {} =
          (ProviderRegistry.ofConfig system).ephemeral := by
        unfold Dict.set
        rw [if_pos present]
        show ((system.providers.map fun provider => (provider.id, ({} : Ephemeral))).map _) =
          system.providers.map fun provider => (provider.id, ({} : Ephemeral))
        rw [List.map_map]
        apply List.map_congr_left
        intro other _
        dsimp only [Function.comp]
        split
        · next own => rw [own]
        · rfl
      rw [same]

theorem isRuntimeDisabled_ofConfig {provider : ProviderConfig}
    (known : system.providers.find? (fun provider => provider.id = providerId) = some provider) :
    (ProviderRegistry.ofConfig system).isRuntimeDisabled providerId = false := by
  rw [ProviderRegistry.isRuntimeDisabled, ephemeral_ofConfig, known]
  rfl

def admitted (sensitivity : DataSensitivity) : Option ProviderConfig :=
  (system.providers.find? fun provider => provider.id = providerId).filter fun provider =>
    provider.enabled && sensitivityAllowed sensitivity provider.maxAllowedSensitivity

theorem screen_ofConfig (sensitivity : DataSensitivity) :
    screen (.ofConfig system) now sensitivity providerId =
      ((admitted system providerId sensitivity).map fun provider => (provider, .active),
        .ofConfig system) := by
  unfold screen admitted
  rw [getProvider_ofConfig, tick_ofConfig]
  cases known : system.providers.find? fun provider => provider.id = providerId with
  | none => rfl
  | some provider =>
      have state : Dict.get? (ProviderRegistry.ofConfig system).ephemeral providerId = some {} := by
        rw [ephemeral_ofConfig, known]
        rfl
      have working := isRuntimeDisabled_ofConfig system providerId known
      have circuit : (ProviderRegistry.ofConfig system).circuitState providerId now = .closed := by
        rw [ProviderRegistry.circuitState, state]
        rfl
      have ready : (ProviderRegistry.ofConfig system).isRateLimitCooldown providerId now =
          false := by
        rw [ProviderRegistry.isRateLimitCooldown, state]
        rfl
      have health : (ProviderRegistry.ofConfig system).healthStatus providerId = .active := by
        rw [ProviderRegistry.healthStatus, state]
        rfl
      simp only [working, circuit, ready, health]
      cases enabled : provider.enabled with
      | false => simp [enabled]
      | true =>
          cases allowed : sensitivityAllowed sensitivity provider.maxAllowedSensitivity with
          | false => simp [enabled, allowed]
          | true => simp [enabled, allowed]

end

/-! ### What is offered -/

structure Callable (system : ProviderSystemConfig F) (catalog : ModelCatalog F) : Prop where
  enabled : system.inferenceEnabled = true
  room : 0 < system.routing.policyMaxCandidatesPerRequest
  time : 0 ≤ system.routing.maxTotalLatency
  row : ∃ row ∈ catalog.values, row.status = .active ∧ row.capabilities ≠ [] ∧
    ∃ provider ∈ system.providers, provider.id = row.providerId ∧ provider.enabled = true

def Offered (catalog : ModelCatalog F) (capability : InferenceCapability)
    (candidate : String × String) : Prop :=
  ∃ row ∈ catalog.values, row.key = candidate ∧ row.status = .active ∧
    capability ∈ row.capabilities

def offers (catalog : ModelCatalog F) (request : InferenceRequest) : List (CatalogEntryRecord F) :=
  narrowExplicit request
    (sortBy CatalogEntryRecord.sortKey (catalog.iterByCapability request.capability))

theorem offered_of_mem {catalog : ModelCatalog F} {request : InferenceRequest}
    {row : CatalogEntryRecord F} (member : row ∈ offers catalog request) :
    Offered catalog request.capability row.key := by
  have listed := (mem_sortBy CatalogEntryRecord.sortKey).mp (mem_of_narrowExplicit member)
  obtain ⟨stored, passes⟩ := List.mem_filter.mp listed
  simp only [Bool.and_eq_true, decide_eq_true_eq] at passes
  exact ⟨row, stored, rfl, passes.2, passes.1⟩

section

variable [LinearOrder F] [Add F] [Sub F] [Mul F] [Div F] [IntCast F]

def offer (system : ProviderSystemConfig F) (request : InferenceRequest)
    (row : CatalogEntryRecord F) : Option (Scored F) :=
  (admitted system row.providerId request.envelope.sensitivity).map fun provider =>
    { providerId := row.providerId, modelId := row.modelId
      score := score row.descriptor provider request.envelope.sensitivity system.routing.weights
        system.routing.costWeightCap false }

def line (system : ProviderSystemConfig F) (catalog : ModelCatalog F)
    (request : InferenceRequest) : List (String × String) :=
  (sortBy Scored.key
    (((offers catalog request).filterMap (offer system request)).take
      system.routing.policyMaxCandidatesPerRequest.toNat)).map Scored.candidate

end

/-! ### Inferences -/

def World.ruling (world : World F) (question : PolicyQuestion) : GateAnswer :=
  gateAnswerOf (world.engine.evaluate question.resourceType question.resourceId question.actor
    question.context)

/-- What the surroundings and every inference keep. Where they are lenient, every gate lets a request
pass and every event is taken. -/
structure Steady (system : ProviderSystemConfig F) (catalog : ModelCatalog F)
    (rely : World F → World F → Prop) (claim : Point → World F → Prop) (lenient : Prop)
    (I : World F → Prop) : Prop where
  loader : ∀ s, I s → ∃ version, s.loader = some (system, version)
  rows : ∀ s, I s → s.catalog = catalog
  registry : ∀ s, I s → s.registry = .ofConfig system
  env : ∀ s s', I s → rely s s' → I s' ∧ s.clock ≤ s'.clock
  quiet : ∀ point s, I s → (∀ call, point ≠ .adapter call) → claim point s
  called : Callable system catalog → ∀ call s, I s → claim (.adapter call) s
  recorded : ∀ s evaluations dispatches drawn, I s → I { s with evaluations, dispatches, drawn }
  asked : ∀ s key now, I s → I (s.withCache (s.policyCache.afterGet key now))
  answered : ∀ s key now (question : ModelQuestion), I s →
    I (s.withCache (s.policyCache.set key now (s.ruling question.policyQuestion)))
  cached : lenient → ∀ s key now answer, I s → s.policyCache.answer? key now = some answer →
    answer = .allow
  granted : lenient → ∀ s (question : PolicyQuestion), question.resourceType ∈ ["inference", "model"] →
    I s → s.ruling question = .allow
  heard : lenient → ∀ s event, I s → s.outside.emit event = none

section

variable {system : ProviderSystemConfig F} {catalog : ModelCatalog F}
  {rely : World F → World F → Prop} {claim : Point → World F → Prop} {lenient : Prop}
  {I : World F → Prop} (steady : Steady system catalog rely claim lenient I)

include steady

theorem Steady.since (started : Time) :
    Steady system catalog rely claim lenient fun s => I s ∧ started ≤ s.clock where
  loader s holds := steady.loader s holds.1
  rows s holds := steady.rows s holds.1
  registry s holds := steady.registry s holds.1
  env s s' holds step :=
    have next := steady.env s s' holds.1 step
    ⟨⟨next.1, holds.2.trans next.2⟩, next.2⟩
  quiet point s holds := steady.quiet point s holds.1
  called callable call s holds := steady.called callable call s holds.1
  recorded s evaluations dispatches drawn holds :=
    ⟨steady.recorded s evaluations dispatches drawn holds.1, holds.2⟩
  asked s key now holds := ⟨steady.asked s key now holds.1, holds.2⟩
  answered s key now question holds := ⟨steady.answered s key now question holds.1, holds.2⟩
  cached mild s key now answer holds := steady.cached mild s key now answer holds.1
  granted mild s question kind holds := steady.granted mild s question kind holds.1
  heard mild s event holds := steady.heard mild s event holds.1

theorem upholds_await (point : Point) (quiet : ∀ call, point ≠ .adapter call)
    {E : Failure → World F → Prop} :
    Co.Upholds rely claim I (Co.await point : Inferring F Unit) (fun _ s => I s) E :=
  .await (fun s holds => steady.quiet point s holds quiet)
    fun s s' holds step => (steady.env s s' holds step).1

theorem upholds_evaluate (question : PolicyQuestion) {E : Failure → World F → Prop} :
    Co.Upholds rely claim I (evaluate question)
      (fun outcome s => I s ∧ outcome = s.engine.evaluate question.resourceType question.resourceId
        question.actor question.context) E := by
  have quiet : ∀ call, Point.evaluate question ≠ .adapter call := by
    intro call same
    cases same
  refine (upholds_await steady (.evaluate question) quiet).bind fun _ => ?_
  refine .get_bind fun s holds => ?_
  dsimp only
  cases decided : s.engine.evaluate question.resourceType question.resourceId question.actor
      question.context with
  | error detail => exact ⟨holds, decided.symm⟩
  | ok decision => exact ⟨steady.recorded s _ s.dispatches s.drawn holds, decided.symm⟩

theorem upholds_gate (hash : List Char → String) (now : Time) (question : ModelQuestion)
    {E : Failure → World F → Prop} :
    Co.Upholds rely claim I (gate hash policyEnginePort now question)
      (fun answer s => I s ∧ (lenient → answer = .allow)) E := by
  refine .get_bind fun world holds => ?_
  refine Co.Upholds.bind (P := fun s => s = world) (Q := fun _ s => I s) (.modify ?_) (fun _ => ?_)
    world rfl
  · intro s same
    rw [same]
    exact steady.asked world _ now holds
  · cases stored : world.policyCache.answer? (policyModelKey hash question) now with
    | some answer =>
        exact .pure fun s holds' =>
          ⟨holds', fun mild => steady.cached mild world _ now answer holds stored⟩
    | none =>
        have ruled : Co.Upholds rely claim I (policyEnginePort.gateModelUse question)
            (fun answer s => I s ∧ answer = s.ruling question.policyQuestion) E :=
          (upholds_evaluate steady question.policyQuestion).bind fun outcome =>
            .pure fun s holds => ⟨holds.1, congrArg gateAnswerOf holds.2⟩
        refine ruled.bind fun answer => ?_
        refine Co.Upholds.bind (Q := fun _ s => I s ∧ (lenient → answer = .allow)) (.modify ?_)
          fun _ => .pure fun s holds => holds
        intro s both
        obtain ⟨kept, rfl⟩ := both
        exact ⟨steady.answered s _ now question kept, fun mild =>
          steady.granted mild s question.policyQuestion
            (List.mem_cons_of_mem _ List.mem_cons_self) kept⟩

variable [LinearOrder F] [Add F] [Sub F] [Mul F] [Div F] [IntCast F]

theorem upholds_collect (hash : List Char → String) (request : InferenceRequest) (now : Time)
    (rows : List (CatalogEntryRecord F)) (scored : List (Scored F)) (dropped : Int)
    {E : Failure → World F → Prop} :
    Co.Upholds rely claim I
      (collect hash system.routing request policyEnginePort now rows scored dropped)
      (fun result s => I s ∧
        (∀ x ∈ result.1, x ∈ scored ∨ 0 < system.routing.policyMaxCandidatesPerRequest ∧
          ∃ row ∈ rows, row.key = x.candidate) ∧
        (lenient → result.1 = scored ++ (rows.filterMap (offer system request)).take
          (system.routing.policyMaxCandidatesPerRequest.toNat - scored.length))) E := by
  induction rows generalizing scored dropped with
  | nil =>
      refine .pure fun s holds => ⟨holds, fun x member => .inl member, fun _ => ?_⟩
      rw [List.filterMap_nil, List.take_nil, List.append_nil]
  | cons row rest ih =>
      have goesOn (scored : List (Scored F)) (dropped : Int) :
          Co.Upholds rely claim I
            (collect hash system.routing request policyEnginePort now rest scored dropped)
            (fun result s => I s ∧
              (∀ x ∈ result.1, x ∈ scored ∨ 0 < system.routing.policyMaxCandidatesPerRequest ∧
                ∃ other ∈ row :: rest, other.key = x.candidate) ∧
              (lenient → result.1 = scored ++ (rest.filterMap (offer system request)).take
                (system.routing.policyMaxCandidatesPerRequest.toNat - scored.length))) E := by
        refine (ih scored dropped).conseq (fun _ holds => holds) (fun result s holds => ?_)
          fun _ _ error => error
        refine ⟨holds.1, fun x member => ?_, holds.2.2⟩
        cases holds.2.1 x member with
        | inl old => exact .inl old
        | inr new =>
            obtain ⟨room, other, inside, own⟩ := new
            exact .inr ⟨room, other, List.mem_cons_of_mem row inside, own⟩
      unfold collect
      by_cases full : system.routing.policyMaxCandidatesPerRequest ≤ scored.length
      · rw [if_pos full]
        refine .pure fun s holds => ⟨holds, fun x member => .inl member, fun _ => ?_⟩
        have none : system.routing.policyMaxCandidatesPerRequest.toNat - scored.length = 0 := by
          omega
        rw [none, List.take_zero, List.append_nil]
      · rw [if_neg full]
        have room : system.routing.policyMaxCandidatesPerRequest.toNat - scored.length =
            system.routing.policyMaxCandidatesPerRequest.toNat - (scored.length + 1) + 1 := by
          omega
        refine .get_bind fun world holds => ?_
        dsimp only
        rw [steady.registry world holds, screen_ofConfig]
        have same : world.withRegistry (.ofConfig system) = world := by
          rw [← steady.registry world holds]
          rfl
        refine Co.Upholds.bind (P := fun s => s = world) (Q := fun _ s => I s) (.modify ?_)
          (fun _ => ?_) world rfl
        · intro s own
          rw [own, same]
          exact holds
        · cases passes : admitted system row.providerId request.envelope.sensitivity with
          | none =>
              have unoffered : offer system request row = none := by
                rw [offer, passes]
                rfl
              rw [List.filterMap_cons_none unoffered]
              exact goesOn scored (dropped + 1)
          | some provider =>
              dsimp only [Option.map_some]
              have offered : offer system request row = some
                  { providerId := row.providerId, modelId := row.modelId
                    score := score row.descriptor provider request.envelope.sensitivity
                      system.routing.weights system.routing.costWeightCap false } := by
                rw [offer, passes]
                rfl
              refine (upholds_gate steady hash now _).bind fun answer s both => ?_
              by_cases allowed : answer = .allow
              · rw [if_neg (not_not.mpr allowed)]
                refine (goesOn _ dropped s both.1).mono (fun result s later => ?_)
                  fun _ _ error => error
                obtain ⟨kept, members, all⟩ := later
                refine ⟨kept, fun x member => ?_, fun mild => ?_⟩
                · cases members x member with
                  | inl old =>
                      cases List.mem_append.mp old with
                      | inl older => exact .inl older
                      | inr new =>
                          rw [List.mem_singleton.mp new]
                          exact .inr ⟨by omega, row, List.mem_cons_self, rfl⟩
                  | inr new => exact .inr new
                · rw [all mild, List.filterMap_cons_some offered, room, List.take_succ_cons,
                    List.append_assoc, List.length_append, List.length_singleton]
                  rfl
              · rw [if_pos allowed]
                refine (goesOn scored (dropped + 1) s both.1).mono (fun result s later => ?_)
                  fun _ _ error => error
                exact ⟨later.1, later.2.1, fun mild => absurd (both.2 mild) allowed⟩

omit [LinearOrder F] [Add F] [Sub F] [Mul F] [Div F] [IntCast F] in
theorem upholds_newUlid {E : Failure → World F → Prop} :
    Co.Upholds rely claim I (newUlid : Inferring F String) (fun _ s => I s) E := by
  refine .get_bind fun world holds => ?_
  exact steady.recorded world world.evaluations world.dispatches (world.drawn + 1) holds

omit [LinearOrder F] [Add F] [Sub F] [Mul F] [Div F] [IntCast F] in
theorem upholds_gateInferenceCapability (request : InferenceRequest)
    {E : Failure → World F → Prop} :
    Co.Upholds rely claim I
      (policyEnginePort.gateInferenceCapability request.capability request.envelope.actor
        request.envelope.scopeType request.envelope.scopeId)
      (fun answer s => I s ∧ (lenient → answer = .allow)) E := by
  refine (upholds_evaluate steady _).bind fun outcome => .pure fun s holds => ⟨holds.1, ?_⟩
  intro mild
  rw [holds.2]
  exact steady.granted mild s (capabilityQuestion request.capability _ _ _) List.mem_cons_self
    holds.1

/-- What is decided is offered; where the gates are lenient, a decision is made, and it is the whole
line. -/
theorem upholds_route (hash : List Char → String) (request : InferenceRequest) :
    Co.Upholds rely claim I
      (route hash system.routing request system policyEnginePort none none)
      (fun decision s => I s ∧ system.inferenceEnabled = true ∧
        0 < system.routing.policyMaxCandidatesPerRequest ∧
        (∀ candidate ∈ decision.chain, Offered catalog request.capability candidate) ∧
        (lenient → decision.chain = line system catalog request))
      fun _ s => I s ∧ ¬ (lenient ∧ system.inferenceEnabled = true ∧
        pinSatisfied request none = true ∧ line system catalog request ≠ []) := by
  refine .get_bind fun now holds => ?_
  dsimp only
  cases enabled : system.inferenceEnabled with
  | false => exact ⟨holds, fun all => Bool.false_ne_true all.2.1⟩
  | true =>
      refine (upholds_gateInferenceCapability steady request).bind (fun answer => ?_) now holds
      by_cases allowed : answer = .allow
      · rw [if_neg (not_not.mpr allowed)]
        cases pinned : pinSatisfied request none with
        | false =>
            exact .raise fun s holds => ⟨holds.1, fun all => Bool.false_ne_true all.2.2.1⟩
        | true =>
            refine .get_bind fun world holds => ?_
            rw [steady.rows world holds.1]
            refine ((upholds_collect steady hash request _ (offers catalog request) [] 0).bind
              fun result => ?_) world holds.1
            have members : (∀ x ∈ result.1, x ∈ ([] : List (Scored F)) ∨
                0 < system.routing.policyMaxCandidatesPerRequest ∧
                  ∃ row ∈ offers catalog request, row.key = x.candidate) →
                ∀ x ∈ sortBy Scored.key result.1,
                  0 < system.routing.policyMaxCandidatesPerRequest ∧
                    Offered catalog request.capability x.candidate := by
              intro all x member
              cases all x ((mem_sortBy Scored.key).mp member) with
              | inl none => cases none
              | inr some =>
                  obtain ⟨room, row, inside, own⟩ := some
                  rw [← own]
                  exact ⟨room, offered_of_mem inside⟩
            cases sorted : sortBy Scored.key result.1 with
            | nil =>
                refine .raise fun s holds => ⟨holds.1, fun all => all.2.2.2 ?_⟩
                have whole := holds.2.2 all.1
                rw [List.nil_append, List.length_nil, Nat.sub_zero] at whole
                rw [line, ← whole, sorted]
                rfl
            | cons primary rest =>
                intro s holds
                obtain ⟨kept, all, whole⟩ := holds
                have listed := members all
                rw [sorted] at listed
                have offered : ∀ candidate ∈ (primary :: rest).map Scored.candidate,
                    Offered catalog request.capability candidate := by
                  intro candidate member
                  obtain ⟨x, inside, rfl⟩ := List.mem_map.mp member
                  exact (listed x inside).2
                have routed : lenient → (primary :: rest).map Scored.candidate =
                    line system catalog request := by
                  intro mild
                  have complete := whole mild
                  rw [List.nil_append, List.length_nil, Nat.sub_zero] at complete
                  rw [line, ← complete, sorted]
                have room := (listed primary List.mem_cons_self).1
                exact ((upholds_newUlid steady).bind fun id => .pure fun s kept =>
                  ⟨kept, rfl, room, offered, routed⟩) s kept
      · rw [if_pos allowed]
        exact .raise fun s holds => ⟨holds.1, fun all => allowed (holds.2 all.1)⟩

omit [LinearOrder F] [Add F] [Sub F] [Mul F] [Div F] [IntCast F]

theorem upholds_emit (event : AuditEvent) :
    Co.Upholds rely claim I (emit event : Inferring F Unit) (fun _ s => I s)
      fun _ s => I s ∧ ¬ lenient := by
  have quiet : ∀ call, Point.emit event ≠ .adapter call := by
    intro call same
    cases same
  refine (upholds_await steady (.emit event) quiet).bind fun _ => ?_
  refine .get_bind fun world holds => ?_
  cases answer : world.outside.emit event with
  | none => exact holds
  | some failure =>
      refine ⟨holds, fun mild => ?_⟩
      cases answer.symm.trans (steady.heard mild world event holds)

theorem upholds_emitAudit (eventType : AuditEventType) (run : Run F) (action : String)
    (details : Details) :
    Co.Upholds rely claim I (emitAudit eventType run action details) (fun _ s => I s)
      fun _ s => I s ∧ ¬ lenient :=
  upholds_emit steady _

theorem upholds_report {α : Type} (eventType : AuditEventType) (run : Run F) (action : String)
    (details : Details) (failure : Failure) :
    Co.Upholds rely claim I
      (do
        emitAudit eventType run action details
        Co.raise failure : Inferring F α) (fun _ s => I s) fun _ s => I s :=
  ((upholds_emitAudit steady eventType run action details).conseq (fun _ holds => holds)
    (fun _ _ holds => holds) fun _ _ holds => holds.1).bind fun _ => .raise fun _ holds => holds

theorem upholds_finish {α : Type} (point : Point) (quiet : ∀ call, point ≠ .adapter call)
    (next : World F → Inferring F α)
    (ends : ∀ world, Co.Upholds rely claim I (next world) (fun _ s => I s) fun _ s => I s) :
    Co.Upholds rely claim I
      (do
        Co.await point
        let world ← Co.get
        next world) (fun _ s => I s) fun _ s => I s :=
  (upholds_await steady point quiet).bind fun _ => .get_bind fun world holds => ends world world holds

theorem upholds_complete (pipeline : Pipeline F) (run : Run F) (decision : RoutingDecision)
    (started : Time) (position : Nat) (providerId modelId : String) (raw : AdapterResponse) :
    Co.Upholds rely claim I
      (complete pipeline run decision started position providerId modelId raw) (fun _ s => I s)
      fun _ s => I s := by
  refine .get_bind fun world holds => ?_
  refine (((upholds_emitAudit steady _ run _ _).conseq (fun _ holds => holds)
    (fun _ _ holds => holds) fun _ _ holds => holds.1).bind fun _ => ?_) world holds
  cases run.finalize with
  | false => exact .pure fun _ holds => holds
  | true =>
      refine upholds_finish steady (.updateCompleted _) ?_ _ fun after => ?_
      · intro call same
        cases same
      · cases after.outside.idempotencyUpdate with
        | none => exact .pure fun _ holds => holds
        | some failure => exact .raise fun _ holds => holds

theorem upholds_recordFailure {α : Type} (finalize : Bool) (failure : Failure) :
    Co.Upholds rely claim I (recordFailure finalize failure : Inferring F α) (fun _ s => I s)
      fun _ s => I s := by
  cases finalize with
  | false => exact .raise fun _ holds => holds
  | true =>
      refine upholds_finish steady (.updateFailed failure) ?_ _ fun after => ?_
      · intro call same
        cases same
      · cases after.outside.idempotencyUpdate with
        | none => exact .raise fun _ holds => holds
        | some other => exact .raise fun _ holds => holds

theorem upholds_callAdapter (callable : Callable system catalog) (call : AdapterCall)
    (routedAt : Time) :
    Co.Upholds rely claim I (callAdapter call routedAt : Inferring F _) (fun _ s => I s)
      fun _ s => I s := by
  refine Co.Upholds.bind (Q := fun _ s => I s) (.modify fun s holds =>
    steady.recorded s s.evaluations _ s.drawn holds) fun _ => ?_
  refine Co.Upholds.bind (Q := fun _ s => I s) (.await (steady.called callable call)
    fun s s' holds step => (steady.env s s' holds step).1) fun _ => ?_
  exact .get_bind fun _ holds => holds

theorem upholds_attempts (pipeline : Pipeline F) {run : Run F}
    (captured : run.binding.systemConfig = system) (enabled : system.inferenceEnabled = true)
    (room : 0 < system.routing.policyMaxCandidatesPerRequest) (decision : RoutingDecision)
    {started : Time} (begun : ∀ s, I s → started ≤ s.clock) {capability : InferenceCapability}
    (chain : List (String × String)) (offered : ∀ candidate ∈ chain,
      Offered catalog capability candidate) (position : Nat) (last : Option Failure) :
    Co.Upholds rely claim I (attempts pipeline run decision started position chain last)
      (fun _ s => I s) fun _ s => I s := by
  induction chain generalizing position last with
  | nil => exact upholds_report steady _ run _ _ _
  | cons candidate rest ih =>
      obtain ⟨providerId, modelId⟩ := candidate
      have later := ih fun other member => offered other (List.mem_cons_of_mem _ member)
      unfold attempts
      refine .get_bind fun world holds => ?_
      by_cases late : started + run.binding.systemConfig.routing.maxTotalLatency < world.clock
      · rw [if_pos late]
        cases pipeline.deadlineDetails run position with
        | none => exact holds
        | some details => exact upholds_report steady _ run _ details _ world holds
      · rw [if_neg late]
        cases found : providerFromBinding run.binding providerId with
        | none => exact later (position + 1) last world holds
        | some provider =>
            dsimp only
            split
            · exact later (position + 1) last world holds
            · next passes =>
                simp only [Bool.or_eq_true, Bool.not_eq_true', not_or, Bool.not_eq_false] at passes
                obtain ⟨row, stored, own, active, listed⟩ := offered _ List.mem_cons_self
                have callable : Callable system catalog := by
                  refine ⟨enabled, room, ?_, row, stored, active, List.ne_nil_of_mem listed,
                    provider, ?_, ?_, passes.1⟩
                  · have early := begun world holds
                    rw [captured] at late
                    unfold Time at *
                    omega
                  · rw [← captured]
                    exact List.mem_of_find?_eq_some found
                  · rw [id_of_binding found]
                    exact (congrArg Prod.fst own).symm
                refine ((upholds_callAdapter steady callable _ started).bind fun answer => ?_) world
                  holds
                cases answer with
                | ok raw =>
                    exact upholds_complete steady pipeline run decision started position providerId
                      modelId raw
                | error failure =>
                    dsimp only
                    split
                    · exact later (position + 1) (some failure)
                    · split
                      · exact .raise fun _ holds => holds
                      · exact upholds_report steady _ run _ _ _

theorem upholds_capture :
    Co.Upholds rely claim I (capture : Inferring F _)
      (fun binding s => I s ∧ binding.systemConfig = system) fun _ s => I s := by
  refine .get_bind fun world holds => ?_
  obtain ⟨version, loaded⟩ := steady.loader world holds
  rw [loaded]
  exact ⟨holds, rfl⟩

theorem upholds_idempotencyBeginFor (request : InferenceRequest) :
    Co.Upholds rely claim I (idempotencyBeginFor request : Inferring F _) (fun _ s => I s)
      fun _ s => I s := by
  unfold idempotencyBeginFor
  cases explicit request.envelope.idempotencyKey with
  | none => exact (upholds_newUlid steady).bind fun id => .pure fun s holds => holds
  | some key =>
      refine upholds_finish steady .idempotencyBegin ?_ _ fun world => ?_
      · intro call same
        cases same
      · cases world.outside.idempotencyBegin with
        | ok begun => exact .pure fun _ holds => holds
        | error failure => exact .raise fun _ holds => holds

variable [LinearOrder F] [Add F] [Sub F] [Mul F] [Div F] [IntCast F]

theorem upholds_execute (hash : List Char → String) (pipeline : Pipeline F) {run : Run F}
    (captured : run.binding.systemConfig = system) :
    Co.Upholds rely claim I (execute hash pipeline run) (fun _ s => I s) fun _ s => I s := by
  refine ((upholds_emitAudit steady _ run _ _).conseq (fun _ holds => holds)
    (fun _ _ holds => holds) fun _ _ holds => holds.1).bind fun _ => ?_
  refine .get_bind fun world holds => ?_
  have later := steady.since world.clock
  have routes := upholds_route later hash run.request
  rw [← captured] at routes
  refine (Co.Upholds.bind (P := fun s => I s ∧ world.clock ≤ s.clock)
    (Q := fun (decision : RoutingDecision) s => (I s ∧ world.clock ≤ s.clock) ∧
      system.inferenceEnabled = true ∧ 0 < system.routing.policyMaxCandidatesPerRequest ∧
        ∀ candidate ∈ decision.chain, Offered catalog run.request.capability candidate)
    ?_ fun decision => ?_) world ⟨holds, le_refl _⟩
  · refine Co.Upholds.tryCatch (E := fun _ s => I s ∧ world.clock ≤ s.clock) ?_ fun failure => ?_
    · refine routes.conseq (fun _ holds => holds) (fun decision s holds => ?_)
        fun _ s holds => holds.1
      rw [captured] at holds
      exact ⟨holds.1, holds.2.1, holds.2.2.1, holds.2.2.2.1⟩
    · refine Co.Upholds.bind (Q := fun _ s => I s)
        ((upholds_emitAudit later _ run _ _).conseq (fun _ holds => holds)
          (fun _ s holds => holds.1) fun _ s holds => holds.1.1) fun _ => .raise fun _ holds => holds
  · intro s ready
    obtain ⟨kept, enabled, room, offered⟩ := ready
    refine (upholds_attempts later pipeline captured enabled room decision
      (fun _ holds => holds.2) decision.chain offered 0 none s kept).mono
      (fun _ s holds => holds.1) fun _ s holds => holds.1

theorem upholds_infer (hash : List Char → String) (pipeline : Pipeline F)
    (request : InferenceRequest) :
    Co.Upholds rely claim I (infer hash pipeline request) (fun _ s => I s) fun _ s => I s := by
  refine (upholds_capture steady).bind fun binding s holds => ?_
  obtain ⟨kept, captured⟩ := holds
  refine ((upholds_idempotencyBeginFor steady request).bind fun begun => ?_) s kept
  obtain ⟨inferenceId, finalize, replay⟩ := begun
  cases replay with
  | some response => exact .pure fun _ holds => holds
  | none =>
      exact (upholds_execute steady hash pipeline captured).tryCatch fun failure =>
        upholds_recordFailure steady finalize failure

end

/-! ### The first call -/

section

variable {system : ProviderSystemConfig F} {catalog : ModelCatalog F}

def Called (providerId : String) (points : Record F) : Prop :=
  ∃ step ∈ points, ∃ call, step.1 = .adapter call ∧ call.provider.id = providerId

theorem Called.mono {providerId : String} {points later : Record F}
    (called : Called providerId points) (passed : ∀ step ∈ points, step ∈ later) :
    Called providerId later := by
  obtain ⟨step, member, call, own⟩ := called
  exact ⟨step, passed step member, call, own⟩

variable {env : Nat → World F → World F} {i : Nat} {world : World F} {provider : ProviderConfig}
  {modelId : String} {pipeline : Pipeline F}

theorem called_attempts {run : Run F} (captured : run.binding.systemConfig = system)
    (known : system.providers.find? (fun other => other.id = provider.id) = some provider)
    (enabled : provider.enabled = true)
    (valid : pipeline.revalidates world.registry world.catalog provider.id modelId = true)
    (decision : RoutingDecision) {started : Time}
    (soon : world.clock ≤ started + system.routing.maxTotalLatency)
    (rest : List (String × String)) :
    Called provider.id ((attempts pipeline run decision started 0 ((provider.id, modelId) :: rest)
      none).play env i world).points := by
  have found : providerFromBinding run.binding provider.id = some provider := by
    rw [providerFromBinding, captured]
    exact known
  unfold attempts
  rw [Co.play_get_bind, captured, if_neg (not_lt.mpr soon), found]
  dsimp only
  rw [if_neg (by simp [enabled, valid])]
  refine ⟨_, Co.mem_points_bind List.mem_cons_self, _, rfl, rfl⟩

variable {rely : World F → World F → Prop} {claim : Point → World F → Prop}
  {I : World F → Prop} [LinearOrder F] [Add F] [Sub F] [Mul F] [Div F] [IntCast F]
  (steady : Steady system catalog rely claim True I) (fair : ∀ i s, rely s (env i s))
  (still : ∀ s s', I s → I s' → s.clock = s'.clock)

include steady fair still

theorem called_execute (hash : List Char → String) {run : Run F}
    (captured : run.binding.systemConfig = system) (callable : Callable system catalog)
    (pinned : pinSatisfied run.request none = true) {rest : List (String × String)}
    (first : line system catalog run.request = (provider.id, modelId) :: rest)
    (known : system.providers.find? (fun other => other.id = provider.id) = some provider)
    (enabled : provider.enabled = true)
    (valid : pipeline.revalidates (.ofConfig system) catalog provider.id modelId = true)
    (holds : I world) :
    Called provider.id ((execute hash pipeline run).play env i world).points := by
  have announces := upholds_emitAudit steady .inferenceStarted run pipeline.action
    (pipeline.startedDetails run)
  cases announces.ends_play fair i holds with
  | inr refused =>
      obtain ⟨-, -, -, harsh⟩ := refused
      exact absurd trivial harsh
  | inl announced =>
      obtain ⟨done, announced, kept⟩ := announced
      refine Called.mono ?_ fun step => Co.mem_points_bind_ok announced
      rw [Co.play_get_bind]
      have routes := upholds_route steady hash run.request
      rw [← captured] at routes
      cases routes.ends_play fair _ kept with
      | inr refused =>
          obtain ⟨-, -, -, unrouted⟩ := refused
          rw [captured, first] at unrouted
          exact absurd ⟨trivial, callable.enabled, pinned, List.cons_ne_nil _ _⟩ unrouted
      | inl routed =>
          obtain ⟨decision, routed, kept', -, -, -, whole⟩ := routed
          have caught := Co.play_tryCatch_ok env _ _ routed fun failure => do
            emitAudit .inferenceFailed run pipeline.action (pipeline.routeFailedDetails run failure)
            Co.raise failure
          refine Called.mono ?_ fun step => Co.mem_points_bind_ok
            ((congrArg Take.outcome caught).trans routed)
          have chain := whole trivial
          rw [captured, first] at chain
          rw [caught, chain]
          refine called_attempts captured known enabled ?_ decision ?_ rest
          · rw [steady.registry _ kept', steady.rows _ kept']
            exact valid
          · have same := still _ _ kept' kept
            have time := callable.time
            unfold Time at *
            omega

theorem called_infer (hash : List Char → String) (callable : Callable system catalog)
    {request : InferenceRequest} (plain : explicit request.envelope.idempotencyKey = none)
    (pinned : pinSatisfied request none = true) {rest : List (String × String)}
    (first : line system catalog request = (provider.id, modelId) :: rest)
    (known : system.providers.find? (fun other => other.id = provider.id) = some provider)
    (enabled : provider.enabled = true)
    (valid : pipeline.revalidates (.ofConfig system) catalog provider.id modelId = true)
    (holds : I world) :
    Called provider.id ((infer hash pipeline request).play env i world).points := by
  obtain ⟨version, loaded⟩ := steady.loader world holds
  have captured : (capture : Inferring F _).play env i world =
      { points := [], next := i, state := world
        outcome := .ok { systemConfig := system, systemConfigVersion := toString version
                         catalogSnapshotVersion := world.catalog.snapshotVersion } } := by
    unfold capture
    rw [Co.play_get_bind, loaded]
    rfl
  have begun : (idempotencyBeginFor request : Inferring F _).play env i world =
      { points := [], next := i, state := { world with drawn := world.drawn + 1 }
        outcome := .ok (world.ulids world.drawn, false, none) } := by
    unfold idempotencyBeginFor
    rw [plain]
    rfl
  refine Called.mono ?_ fun step => Co.mem_points_bind_ok (congrArg Take.outcome captured)
  rw [captured]
  refine Called.mono ?_ fun step => Co.mem_points_bind_ok (congrArg Take.outcome begun)
  rw [begun]
  refine Called.mono ?_ fun step => Co.mem_points_tryCatch
  have traced : line system catalog (request.traced (world.ulids world.drawn)) =
      line system catalog request := by
    cases request with
    | chat request => rfl
    | embedding request => rfl
  have unpinned : pinSatisfied (request.traced (world.ulids world.drawn)) none =
      pinSatisfied request none := by
    cases request with
    | chat request => rfl
    | embedding request => rfl
  exact called_execute steady fair still hash rfl callable (unpinned.trans pinned)
    (traced.trans first) known enabled valid
    (steady.recorded world world.evaluations world.dispatches (world.drawn + 1) holds)

end

end SyndicateClaw.Inference
