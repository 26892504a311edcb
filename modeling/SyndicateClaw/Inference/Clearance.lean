import SyndicateClaw.Async.Pool
import SyndicateClaw.Inference.RoutedCandidates
import SyndicateClaw.Inference.Service

/-! What the policy engine said about the calls of adapters. -/

namespace SyndicateClaw.Inference

open Async Authz Policy

/-! ### The keys of the cache -/

theorem InferenceCapability.value_inj {capability other : InferenceCapability}
    (same : capability.value = other.value) : capability = other := by
  cases capability <;> cases other <;> first | rfl | exact absurd same (by decide)

/-- Different questions have different keys, as far as the digest separates. -/
theorem policyModelKey_inj {hash : List Char → String} (injective : Function.Injective hash)
    {question other : ModelQuestion}
    (same : policyModelKey hash question = policyModelKey hash other) : question = other := by
  let fields (question : ModelQuestion) : List (String × Json) :=
    [("provider_id", jsonText question.providerId), ("model_id", jsonText question.modelId),
     ("capability", jsonText question.capability.value), ("actor", jsonText question.actor),
     ("scope_type", jsonText question.scopeType), ("scope_id", jsonText question.scopeId)]
  have distinct : ["provider_id", "model_id", "capability", "actor", "scope_type",
      "scope_id"].Nodup := by decide
  have proper (question : ModelQuestion) : (jsonDict (fields question)).Proper id := by
    refine proper_jsonDict distinct ?_
    simp only [fields, List.forall_mem_cons]
    exact ⟨proper_jsonText _, proper_jsonText _, proper_jsonText _, proper_jsonText _,
      proper_jsonText _, proper_jsonText _, fun _ member => absurd member List.not_mem_nil⟩
  have written (question : ModelQuestion) :
      ∃ line, canonicalJson (jsonDict (fields question)) = some line :=
    ⟨_, Json.dumps_eq_some Json.compact rfl⟩
  obtain ⟨line, own⟩ := written question
  obtain ⟨line', own'⟩ := written other
  have lines : line = line' := by
    have hashed : hash ((canonicalJson (jsonDict (fields question))).getD []) =
        hash ((canonicalJson (jsonDict (fields other))).getD []) := same
    rw [own, own'] at hashed
    exact injective hashed
  subst lines
  have sorted : (jsonDict (fields question)).sortKeys = (jsonDict (fields other)).sortKeys :=
    Json.dumps_injective Json.readable_compact (proper question) (proper other) own own'
  have field := field_of_sortKeys sorted distinct distinct
  have providerId : question.providerId = other.providerId :=
    jsonText_inj (Option.some.inj (field "provider_id"))
  have modelId : question.modelId = other.modelId :=
    jsonText_inj (Option.some.inj (field "model_id"))
  have capability : question.capability.value = other.capability.value :=
    jsonText_inj (Option.some.inj (field "capability"))
  have actor : question.actor = other.actor := jsonText_inj (Option.some.inj (field "actor"))
  have scopeType : question.scopeType = other.scopeType :=
    jsonText_inj (Option.some.inj (field "scope_type"))
  have scopeId : question.scopeId = other.scopeId :=
    jsonText_inj (Option.some.inj (field "scope_id"))
  cases question
  cases other
  cases providerId
  cases modelId
  cases InferenceCapability.value_inj capability
  cases actor
  cases scopeType
  cases scopeId
  rfl

/-! ### Evidence -/

section

variable {F : Type}

def Dispatch.capabilityQuestion (dispatch : Dispatch) : PolicyQuestion :=
  Inference.capabilityQuestion dispatch.call.request.capability dispatch.call.request.envelope.actor
    dispatch.call.request.envelope.scopeType dispatch.call.request.envelope.scopeId

def Dispatch.modelQuestion (dispatch : Dispatch) : PolicyQuestion :=
  (dispatch.call.request.modelQuestion dispatch.call.provider.id
    dispatch.call.modelId).policyQuestion

/-- The question was not denied at a time from which the lifetime of the cache is not over. -/
def World.Cleared (world : World F) (question : PolicyQuestion) (now : Time) : Prop :=
  ∃ evaluation ∈ world.evaluations, evaluation.question = question ∧
    evaluation.effect ≠ .deny ∧ now < evaluation.time + 60

/-- What lets requests pass, in the cache and on record, was not denied. -/
structure World.Backed (hash : List Char → String) (world : World F) : Prop where
  lifetime : world.policyCache.ttl = 60
  cached : ∀ key expiresAt, (key, expiresAt, .allow) ∈ world.policyCache.data →
    ∃ question : ModelQuestion, policyModelKey hash question = key ∧
      ∀ now, now < expiresAt → world.Cleared question.policyQuestion now
  dispatched : ∀ dispatch ∈ world.dispatches,
    world.Cleared dispatch.capabilityQuestion dispatch.routedAt ∧
      world.Cleared dispatch.modelQuestion dispatch.routedAt

/-- What every segment and everybody else keeps to. -/
structure Progress (hash : List Char → String) (s s' : World F) : Prop where
  clock : s.clock ≤ s'.clock
  evaluations : s.evaluations ⊆ s'.evaluations
  backed : s.Backed hash → s'.Backed hash

variable {hash : List Char → String}

theorem Progress.refl (s : World F) : Progress hash s s := ⟨le_rfl, List.Subset.refl _, id⟩

theorem Progress.trans {s s' s'' : World F} (first : Progress hash s s')
    (second : Progress hash s' s'') : Progress hash s s'' :=
  ⟨first.clock.trans second.clock, List.Subset.trans first.evaluations second.evaluations,
    second.backed ∘ first.backed⟩

theorem Progress.of_steps {s s' : World F} (steps : Relation.ReflTransGen (Progress hash) s s') :
    Progress hash s s' := by
  induction steps with
  | refl => exact .refl s
  | tail _ last ih => exact ih.trans last

theorem World.Cleared.mono {s s' : World F} {question : PolicyQuestion} {now : Time}
    (cleared : s.Cleared question now) (evaluations : s.evaluations ⊆ s'.evaluations) :
    s'.Cleared question now := by
  obtain ⟨evaluation, member, rest⟩ := cleared
  exact ⟨evaluation, evaluations member, rest⟩

theorem Progress.of_same {s s' : World F} (clock : s.clock ≤ s'.clock)
    (evaluations : s.evaluations ⊆ s'.evaluations) (cache : s'.policyCache = s.policyCache)
    (dispatches : s'.dispatches = s.dispatches) : Progress hash s s' where
  clock
  evaluations
  backed own := by
    refine ⟨?_, ?_, ?_⟩
    · rw [cache]
      exact own.lifetime
    · intro key expiresAt member
      rw [cache] at member
      obtain ⟨question, named, cleared⟩ := own.cached key expiresAt member
      exact ⟨question, named, fun now before => (cleared now before).mono evaluations⟩
    · intro dispatch member
      rw [dispatches] at member
      obtain ⟨capability, model⟩ := own.dispatched dispatch member
      exact ⟨capability.mono evaluations, model.mono evaluations⟩

theorem Progress.withCache {s : World F} {cache : BoundedPolicyCache}
    (lifetime : s.policyCache.ttl = 60 → cache.ttl = 60)
    (entries : ∀ key expiresAt, (key, expiresAt, .allow) ∈ cache.data →
      (key, expiresAt, .allow) ∈ s.policyCache.data ∨
        ∃ question : ModelQuestion, policyModelKey hash question = key ∧
          ∀ now, now < expiresAt → s.Cleared question.policyQuestion now) :
    Progress hash s (s.withCache cache) where
  clock := le_rfl
  evaluations := List.Subset.refl _
  backed own := by
    refine ⟨lifetime own.lifetime, ?_, own.dispatched⟩
    intro key expiresAt member
    rcases entries key expiresAt member with old | new
    · exact own.cached key expiresAt old
    · exact new

/-! ### What is told about the world -/

abbrev clearance (hash : List Char → String) : Protocol (World F) Point :=
  .steps (Progress hash) fun _ _ => True

def Lasting (hash : List Char → String) (R : World F → Prop) : Prop :=
  ∀ s s', Progress hash s s' → R s → R s'

structure Since (hash : List Char → String) (now : Time) (R : World F → Prop) : Prop where
  lasting : Lasting hash R
  backed : ∀ s, R s → s.Backed hash
  late : ∀ s, R s → now ≤ s.clock

theorem lasting_cleared (question : PolicyQuestion) (now : Time) :
    Lasting hash fun s : World F => s.Cleared question now :=
  fun _ _ step cleared => cleared.mono step.evaluations

theorem Lasting.and {R R' : World F → Prop} (first : Lasting hash R) (second : Lasting hash R') :
    Lasting hash fun s => R s ∧ R' s :=
  fun s s' step both => ⟨first s s' step both.1, second s s' step both.2⟩

theorem Lasting.all {α : Type} {R : α → World F → Prop} (all : ∀ a, Lasting hash (R a)) :
    Lasting hash fun s => ∀ a, R a s :=
  fun s s' step holds a => all a s s' step (holds a)

theorem Lasting.imp {P : Prop} {R : World F → Prop} (lasting : Lasting hash R) :
    Lasting hash fun s => P → R s :=
  fun s s' step holds given => lasting s s' step (holds given)

theorem Since.and {now : Time} {R R' : World F → Prop} (since : Since hash now R)
    (lasting : Lasting hash R') : Since hash now fun s => R s ∧ R' s where
  lasting := since.lasting.and lasting
  backed s both := since.backed s both.1
  late s both := since.late s both.1

section

variable {R : World F → Prop} {now : Time}

theorem triple_await (lasting : Lasting hash R) (point : Point) :
    Co.Triple (clearance hash) R (Co.await point : Inferring F Unit) (fun _ => R) fun _ => R :=
  .await fun s s' holds step => lasting s s' (.of_steps step.1) holds

theorem triple_modify (lasting : Lasting hash R) {change : World F → World F}
    (progress : ∀ s, R s → Progress hash s (change s)) :
    Co.Triple (clearance hash) R (Co.modify change : Inferring F Unit) (fun _ => R) fun _ => R :=
  .modify fun s holds => ⟨.single (progress s holds), lasting s _ (progress s holds) holds⟩

theorem triple_emit (lasting : Lasting hash R) (event : AuditEvent) :
    Co.Triple (clearance hash) R (emit event : Inferring F Unit) (fun _ => R) fun _ => R := by
  refine (triple_await lasting _).bind fun _ => Co.Triple.get.bind fun world => ?_
  cases world.outside.emit event with
  | none => exact .pure fun s holds => holds.2
  | some failure => exact .raise fun s holds => holds.2

theorem triple_evaluate (since : Since hash now R) (question : PolicyQuestion) :
    Co.Triple (clearance hash) R (evaluate question : Inferring F _)
      (fun answer s => R s ∧ (gateAnswerOf answer = .allow →
        ∀ later, later < now + 60 → s.Cleared question later)) fun _ => R := by
  refine (triple_await since.lasting _).bind fun _ => Co.Triple.get.bind fun world => ?_
  dsimp only
  cases world.engine.evaluate question.resourceType question.resourceId question.actor
      question.context with
  | error detail => exact .pure fun s holds => ⟨holds.2, nofun⟩
  | ok decision =>
      have recorded (s : World F) : Progress hash s
          { s with evaluations := s.evaluations ++ [⟨question, decision.effect, s.clock⟩] } :=
        .of_same le_rfl (List.subset_append_left _ _) rfl rfl
      refine Co.Triple.bind (Q := fun _ s => R s ∧ (decision.effect ≠ .deny →
        ∀ later, later < now + 60 → s.Cleared question later)) ?_ fun _ => ?_
      · refine .modify fun s holds =>
          ⟨.single (recorded s), since.lasting _ _ (recorded s) holds.2, ?_⟩
        intro allowed later before
        refine ⟨⟨question, decision.effect, s.clock⟩,
          List.mem_append_right _ (List.mem_singleton_self _), rfl, allowed, ?_⟩
        have late := since.late s holds.2
        unfold Time at *
        dsimp only
        omega
      · refine .pure fun s holds => ⟨holds.1, fun allowed => holds.2 ?_⟩
        intro denied
        simp [gateAnswerOf, denied] at allowed

theorem triple_gateInferenceCapability (since : Since hash now R) (capability : InferenceCapability)
    (actor scopeType scopeId : String) :
    Co.Triple (clearance hash) R
      (policyEnginePort.gateInferenceCapability capability actor scopeType scopeId : Inferring F _)
      (fun answer s => R s ∧ (answer = .allow →
        s.Cleared (capabilityQuestion capability actor scopeType scopeId) now)) fun _ => R := by
  refine (triple_evaluate since _).bind fun answer => .pure fun s holds => ⟨holds.1, ?_⟩
  intro allowed
  refine holds.2 allowed now ?_
  unfold Time at *
  omega

theorem triple_gate (injective : Function.Injective hash) (since : Since hash now R)
    (question : ModelQuestion) :
    Co.Triple (clearance hash) R (gate hash policyEnginePort now question : Inferring F GateAnswer)
      (fun answer s => R s ∧ (answer = .allow → s.Cleared question.policyQuestion now))
      fun _ => R := by
  have looked (s : World F) : Progress hash s
      (s.withCache (s.policyCache.afterGet (policyModelKey hash question) now)) :=
    .withCache BoundedPolicyCache.afterGet_ttl.trans fun _ _ member =>
      .inl (BoundedPolicyCache.mem_afterGet member)
  intro s holds
  -- the answer in the cache is that of the world in which the gate begins
  have cached : s.policyCache.answer? (policyModelKey hash question) now = some .allow →
      s.Cleared question.policyQuestion now := by
    intro found
    obtain ⟨expiresAt, member, valid⟩ := BoundedPolicyCache.mem_of_answer? found
    obtain ⟨other, named, cleared⟩ := (since.backed s holds).cached _ _ member
    obtain rfl := policyModelKey_inj injective named
    exact cleared now valid
  have known : Lasting hash fun s' : World F =>
      s.policyCache.answer? (policyModelKey hash question) now = some .allow →
        s'.Cleared question.policyQuestion now :=
    (lasting_cleared _ _).imp
  have after {rest : Inferring F GateAnswer}
      (ends : Co.Triple (clearance hash)
        (fun s' => R s' ∧ (s.policyCache.answer? (policyModelKey hash question) now = some .allow →
          s'.Cleared question.policyQuestion now)) rest
        (fun answer s' => R s' ∧ (answer = .allow → s'.Cleared question.policyQuestion now))
        fun _ s' => R s' ∧ (s.policyCache.answer? (policyModelKey hash question) now = some .allow →
          s'.Cleared question.policyQuestion now)) :
      ((do
        Co.modify fun world =>
          world.withCache (world.policyCache.afterGet (policyModelKey hash question) now)
        rest : Inferring F GateAnswer) s).Meets (clearance hash)
        (fun answer s' => R s' ∧ (answer = .allow → s'.Cleared question.policyQuestion now))
        (fun _ => R) s :=
    (((triple_modify (since.and known).lasting fun s _ => looked s).bind fun _ => ends) s
      ⟨holds, cached⟩).mono (fun _ _ done => done) fun _ _ failed => failed.1
  cases found : s.policyCache.answer? (policyModelKey hash question) now with
  | some answer =>
      rw [gate_hit found]
      exact after (.pure fun s' holds =>
        ⟨holds.1, fun allowed => holds.2 (found.trans (congrArg some allowed))⟩)
  | none =>
      rw [gate_miss found]
      have unanswered : s.policyCache.answer? (policyModelKey hash question) now ≠ some .allow := by
        rw [found]
        exact (Option.some_ne_none _).symm
      refine after ?_
      refine Co.Triple.bind (Q := fun answer s' => R s' ∧ (answer = GateAnswer.allow →
        ∀ later, later < now + 60 → s'.Cleared question.policyQuestion later)) ?_ fun answer => ?_
      · refine Co.Triple.bind ((triple_evaluate since question.policyQuestion).conseq
          (fun _ holds => holds.1) (fun _ _ holds => holds) fun _ _ holds =>
            ⟨holds, fun hit => absurd hit unanswered⟩)
          fun answer => .pure fun s' holds => holds
      · refine Co.Triple.bind (Q := fun _ s' => R s' ∧ (answer = GateAnswer.allow →
          ∀ later, later < now + 60 → s'.Cleared question.policyQuestion later)) ?_ fun _ => ?_
        · refine .modify fun s' holds => ?_
          have stored : Progress hash s'
              (s'.withCache (s'.policyCache.set (policyModelKey hash question) now answer)) := by
            refine .withCache id fun key expiresAt member => ?_
            rcases BoundedPolicyCache.mem_set member with new | old
            · obtain ⟨rfl, rfl, rfl⟩ : key = policyModelKey hash question ∧
                  expiresAt = now + s'.policyCache.ttl ∧ .allow = answer := by
                simpa using new
              rw [(since.backed s' holds.1).lifetime]
              exact .inr ⟨question, rfl, holds.2 rfl⟩
            · exact .inl old
          exact ⟨.single stored, since.lasting _ _ stored holds.1, holds.2⟩
        · refine .pure fun s' holds => ⟨holds.1, fun allowed => holds.2 allowed now ?_⟩
          unfold Time at *
          omega

/-! ### Routing -/

def AllCleared (request : InferenceRequest) (now : Time) (candidates : List (String × String))
    (s : World F) : Prop :=
  ∀ candidate ∈ candidates,
    s.Cleared (request.modelQuestion candidate.1 candidate.2).policyQuestion now

theorem lasting_allCleared (now : Time) (request : InferenceRequest) (candidates : List (String × String)) :
    Lasting hash fun s : World F => AllCleared request now candidates s :=
  .all fun _ => .imp (lasting_cleared _ _)

variable [LinearOrder F] [Add F] [Sub F] [Mul F] [Div F] [IntCast F]

theorem triple_collect (injective : Function.Injective hash) (since : Since hash now R)
    (routing : RoutingPolicyConfig F) (request : InferenceRequest)
    (rows : List (CatalogEntryRecord F)) (scored : List (Scored F)) (dropped : Int) :
    Co.Triple (clearance hash) (fun s => R s ∧ AllCleared request now (scored.map Scored.candidate) s)
      (collect hash routing request policyEnginePort now rows scored dropped)
      (fun result s => R s ∧ AllCleared request now (result.1.map Scored.candidate) s)
      fun _ => R := by
  induction rows generalizing scored dropped with
  | nil => exact .pure fun s holds => holds
  | cons row rest ih =>
      unfold collect
      by_cases full : routing.policyMaxCandidatesPerRequest ≤ scored.length
      · rw [if_pos full]
        exact .pure fun s holds => holds
      · rw [if_neg full]
        have known := since.and (lasting_allCleared now request (scored.map Scored.candidate))
        refine Co.Triple.get.bind fun world => ?_
        have screened (s : World F) : Progress hash s (s.withRegistry
            (screen world.registry now request.envelope.sensitivity row.providerId).2) :=
          .of_same le_rfl (List.Subset.refl _) rfl rfl
        refine Co.Triple.bind ((triple_modify known.lasting fun s _ => screened s).conseq
          (fun _ => And.right) (fun _ _ holds => holds) fun _ _ => And.left) fun _ => ?_
        cases (screen world.registry now request.envelope.sensitivity row.providerId).1 with
        | none => exact ih scored (dropped + 1)
        | some passed =>
            refine Co.Triple.bind ((triple_gate injective known
              (request.modelQuestion row.providerId row.modelId)).conseq (fun _ holds => holds)
              (fun _ _ holds => holds) fun _ _ holds => holds.1) fun answer => ?_
            by_cases allowed : answer = .allow
            · rw [if_neg (not_not.mpr allowed)]
              refine (ih _ dropped).conseq ?_ (fun _ _ holds => holds) fun _ _ holds => holds
              intro s holds
              refine ⟨holds.1.1, fun candidate member => ?_⟩
              rw [List.map_append, List.map_singleton] at member
              rcases List.mem_append.mp member with old | new
              · exact holds.1.2 candidate old
              · rw [List.mem_singleton.mp new]
                exact holds.2 allowed
            · rw [if_pos allowed]
              exact (ih scored (dropped + 1)).conseq (fun s holds => holds.1) (fun _ _ holds => holds)
                fun _ _ holds => holds

omit [LinearOrder F] [Add F] [Sub F] [Mul F] [Div F] [IntCast F] in
theorem triple_newUlid (lasting : Lasting hash R) :
    Co.Triple (clearance hash) R (newUlid : Inferring F String) (fun _ => R) fun _ => R := by
  have drawn (s : World F) : Progress hash s { s with drawn := s.drawn + 1 } :=
    .of_same le_rfl (List.Subset.refl _) rfl rfl
  refine Co.Triple.get.bind fun world => ?_
  refine Co.Triple.bind ((triple_modify lasting fun s _ => drawn s).conseq (fun _ => And.right)
    (fun _ _ holds => holds) fun _ _ holds => holds) fun _ => ?_
  exact .pure fun s holds => holds

def Started (hash : List Char → String) (now : Time) (s : World F) : Prop :=
  s.Backed hash ∧ now ≤ s.clock

omit [LinearOrder F] [Add F] [Sub F] [Mul F] [Div F] [IntCast F] in
theorem since_started (now : Time) : Since hash now (Started hash now : World F → Prop) where
  lasting _ _ step started := ⟨step.backed started.1, started.2.trans step.clock⟩
  backed _ started := started.1
  late _ started := started.2

/-- What lets a chain of candidates be attempted. -/
def Passed (hash : List Char → String) (request : InferenceRequest) (now : Time)
    (chain : List (String × String)) (s : World F) : Prop :=
  (Started hash now s ∧
    s.Cleared (capabilityQuestion request.capability request.envelope.actor
      request.envelope.scopeType request.envelope.scopeId) now) ∧
    AllCleared request now chain s

omit [LinearOrder F] [Add F] [Sub F] [Mul F] [Div F] [IntCast F] in
theorem since_passed (hash : List Char → String) (request : InferenceRequest) (now : Time)
    (chain : List (String × String)) :
    Since hash now (Passed hash request now chain : World F → Prop) :=
  ((since_started now).and (lasting_cleared _ _)).and (lasting_allCleared _ _ _)

theorem triple_route (injective : Function.Injective hash) (routing : RoutingPolicyConfig F)
    (request : InferenceRequest) (system : ProviderSystemConfig F)
    (resolvedPin : Option (String × String)) (now : Time) :
    Co.Triple (clearance hash) (fun s => Started hash now s ∧ s.clock = now)
      (route hash routing request system policyEnginePort resolvedPin none)
      (fun decision => Passed hash request now decision.chain) fun _ => Started hash now := by
  rintro s ⟨started, rfl⟩
  unfold route
  refine Co.Triple.of_get (P := Started hash s.clock) ?_ started
  dsimp only [Option.getD_none]
  cases system.inferenceEnabled with
  | false => exact .raise fun _ holds => holds
  | true =>
      have since : Since hash s.clock (Started hash s.clock : World F → Prop) := since_started _
      refine (triple_gateInferenceCapability since _ _ _ _).bind fun answer => ?_
      by_cases allowed : answer = .allow
      · rw [if_neg (not_not.mpr allowed)]
        cases pinSatisfied request resolvedPin with
        | false => exact .raise fun _ holds => holds.1
        | true =>
            have capable := since.and (lasting_cleared (capabilityQuestion request.capability
              request.envelope.actor request.envelope.scopeType request.envelope.scopeId) s.clock)
            refine Co.Triple.get.bind fun world => ?_
            refine Co.Triple.bind ((triple_collect injective capable routing request _ [] 0).conseq
              (fun s' holds => ⟨⟨holds.2.1, holds.2.2 allowed⟩, fun _ none =>
                absurd none List.not_mem_nil⟩)
              (fun _ _ holds => holds) fun _ _ holds => holds.1) fun result => ?_
            obtain ⟨scored, dropped⟩ := result
            dsimp only
            cases sorted : sortBy Scored.key scored with
            | nil => exact .raise fun _ holds => holds.1.1
            | cons primary rest =>
                refine Co.Triple.bind ((triple_newUlid (since_passed hash request s.clock
                  (scored.map Scored.candidate)).lasting).conseq (fun _ holds => holds)
                  (fun _ _ holds => holds) fun _ _ holds => holds.1.1) fun id => ?_
                refine .pure fun s' holds => ⟨holds.1, fun candidate member => ?_⟩
                refine holds.2 candidate ?_
                have chain : candidate ∈ (sortBy Scored.key scored).map Scored.candidate := by
                  rw [sorted]
                  exact member
                obtain ⟨own, present, rfl⟩ := List.mem_map.mp chain
                exact List.mem_map_of_mem ((mem_sortBy Scored.key).mp present)
      · rw [if_pos allowed]
        exact .raise fun _ holds => holds.1

/-! ### Attempts -/

omit [LinearOrder F] [Add F] [Sub F] [Mul F] [Div F] [IntCast F]

theorem triple_emitAudit (lasting : Lasting hash R) (eventType : AuditEventType) (run : Run F)
    (action : String) (details : Details) :
    Co.Triple (clearance hash) R (emitAudit eventType run action details) (fun _ => R) fun _ => R :=
  triple_emit lasting _

theorem questions_attempt (now : Time) (request : InferenceRequest) {provider : ProviderConfig}
    {providerId : String} (own : provider.id = providerId) (modelId : String) (streaming : Bool) :
    let call : AdapterCall := { provider, request := request.attempt providerId modelId, streaming }
    (Dispatch.mk call now).capabilityQuestion = capabilityQuestion request.capability
        request.envelope.actor request.envelope.scopeType request.envelope.scopeId ∧
      (Dispatch.mk call now).modelQuestion =
        (request.modelQuestion providerId modelId).policyQuestion := by
  subst own
  cases request with
  | chat request => exact ⟨rfl, rfl⟩
  | embedding request => exact ⟨rfl, rfl⟩

theorem triple_callAdapter {request : InferenceRequest} {chain : List (String × String)}
    {provider : ProviderConfig} {providerId modelId : String}
    (member : (providerId, modelId) ∈ chain) (own : provider.id = providerId) (streaming : Bool) :
    Co.Triple (clearance hash) (Passed hash request now chain)
      (callAdapter { provider, request := request.attempt providerId modelId, streaming } now :
        Inferring F _)
      (fun _ => Passed hash request now chain) fun _ => Passed hash request now chain := by
  obtain ⟨capability, model⟩ :=
    questions_attempt now request own modelId streaming
  have lasting := (since_passed (F := F) hash request now chain).lasting
  refine Co.Triple.bind (Q := fun _ => Passed hash request now chain) ?_ fun _ => ?_
  · refine .modify fun s holds => ?_
    have recorded : Progress hash s
        { s with dispatches := s.dispatches ++
            [⟨{ provider, request := request.attempt providerId modelId, streaming }, now⟩] } := by
      refine ⟨le_rfl, List.Subset.refl _, fun backed => ⟨backed.lifetime, backed.cached, ?_⟩⟩
      intro dispatch present
      rcases List.mem_append.mp present with old | new
      · exact backed.dispatched dispatch old
      · rw [List.mem_singleton.mp new, capability, model]
        exact ⟨holds.1.2, holds.2 _ member⟩
    exact ⟨.single recorded, lasting _ _ recorded holds⟩
  · refine (triple_await lasting _).bind fun _ => Co.Triple.get.bind fun world => ?_
    exact .pure fun s holds => holds.2

theorem triple_complete (lasting : Lasting hash R) (pipeline : Pipeline F) (run : Run F)
    (decision : RoutingDecision) (started : Time) (position : Nat) (providerId modelId : String)
    (raw : AdapterResponse) :
    Co.Triple (clearance hash) R
      (complete pipeline run decision started position providerId modelId raw) (fun _ => R)
      fun _ => R := by
  refine Co.Triple.get.bind fun world => ?_
  refine Co.Triple.bind ((triple_emitAudit lasting _ _ _ _).conseq (fun _ => And.right)
    (fun _ _ holds => holds) fun _ _ holds => holds) fun _ => ?_
  cases run.finalize with
  | false => exact .pure fun _ holds => holds
  | true =>
      refine (triple_await lasting _).bind fun _ => Co.Triple.get.bind fun after => ?_
      cases after.outside.idempotencyUpdate with
      | none => exact .pure fun _ holds => holds.2
      | some failure => exact .raise fun _ holds => holds.2

theorem triple_recordFailure {α : Type} (lasting : Lasting hash R) (finalize : Bool)
    (failure : Failure) :
    Co.Triple (clearance hash) R (recordFailure finalize failure : Inferring F α) (fun _ => R)
      fun _ => R := by
  cases finalize with
  | false => exact .raise fun _ holds => holds
  | true =>
      refine (triple_await lasting _).bind fun _ => Co.Triple.get.bind fun after => ?_
      cases after.outside.idempotencyUpdate with
      | none => exact .raise fun _ holds => holds.2
      | some other => exact .raise fun _ holds => holds.2

theorem triple_attempts (pipeline : Pipeline F) (run : Run F) (decision : RoutingDecision)
    {all : List (String × String)} (chain : List (String × String)) (part : chain ⊆ all)
    (position : Nat) (last : Option Failure) :
    Co.Triple (clearance hash) (Passed hash run.request now all)
      (attempts pipeline run decision now position chain last)
      (fun _ => Passed hash run.request now all) fun _ => Passed hash run.request now all := by
  have lasting := (since_passed (F := F) hash run.request now all).lasting
  induction chain generalizing position last with
  | nil =>
      refine (triple_emitAudit lasting _ _ _ _).bind fun _ => ?_
      exact .raise fun _ holds => holds
  | cons candidate rest ih =>
      obtain ⟨providerId, modelId⟩ := candidate
      have later (position : Nat) (last : Option Failure) :=
        ih (List.subset_of_cons_subset part) position last
      unfold attempts
      refine Co.Triple.get.bind fun world => ?_
      refine Co.Triple.conseq (P := Passed hash run.request now all) ?_ (fun _ => And.right)
        (fun _ _ holds => holds) fun _ _ holds => holds
      by_cases late : now + run.binding.systemConfig.routing.maxTotalLatency < world.clock
      · rw [if_pos late]
        cases pipeline.deadlineDetails run position with
        | none => exact .raise fun _ holds => holds
        | some details =>
            exact (triple_emitAudit lasting _ _ _ _).bind fun _ => .raise fun _ holds => holds
      · rw [if_neg late]
        cases found : providerFromBinding run.binding providerId with
        | none => exact later (position + 1) last
        | some provider =>
            have own : provider.id = providerId := id_of_binding found
            dsimp only
            split
            · exact later (position + 1) last
            · refine (triple_callAdapter (part List.mem_cons_self) own false).bind fun answer => ?_
              cases answer with
              | ok raw => exact triple_complete lasting _ _ _ _ _ _ _ _
              | error failure =>
                  dsimp only
                  split
                  · exact later (position + 1) (some failure)
                  · split
                    · exact .raise fun _ holds => holds
                    · exact (triple_emitAudit lasting _ _ _ _).bind fun _ =>
                        .raise fun _ holds => holds

/-! ### Calls of the service -/

variable [LinearOrder F] [Add F] [Sub F] [Mul F] [Div F] [IntCast F]

omit [LinearOrder F] [Add F] [Sub F] [Mul F] [Div F] [IntCast F] in
theorem lasting_backed : Lasting hash (World.Backed hash : World F → Prop) :=
  fun _ _ step backed => step.backed backed

omit [LinearOrder F] [Add F] [Sub F] [Mul F] [Div F] [IntCast F] in
theorem triple_yieldAll (lasting : Lasting hash R) (texts : List String) :
    Co.Triple (clearance hash) R (yieldAll texts : Inferring F Unit) (fun _ => R) fun _ => R := by
  induction texts with
  | nil => exact .pure fun _ holds => holds
  | cons text rest ih => exact (triple_await lasting _).bind fun _ => ih

theorem meets_route (injective : Function.Injective hash) (routing : RoutingPolicyConfig F)
    (request : InferenceRequest) (system : ProviderSystemConfig F) {s : World F}
    (backed : s.Backed hash) :
    (route hash routing request system policyEnginePort none none s).Meets (clearance hash)
      (fun decision => Passed hash request s.clock decision.chain) (fun _ => World.Backed hash) s :=
  (triple_route injective routing request system none s.clock s ⟨⟨backed, le_rfl⟩, rfl⟩).mono
    (fun _ _ holds => holds) fun _ _ holds => holds.1

theorem triple_execute (injective : Function.Injective hash) (pipeline : Pipeline F) (run : Run F) :
    Co.Triple (clearance hash) (World.Backed hash) (execute hash pipeline run)
      (fun _ => World.Backed hash) fun _ => World.Backed hash := by
  refine (triple_emitAudit lasting_backed _ _ _ _).bind fun _ => ?_
  intro s backed
  refine Co.Triple.of_get (P := fun s' => s = s') ?_ rfl
  rintro _ rfl
  refine Res.Meets.bind (Q := fun decision => Passed hash run.request s.clock decision.chain) ?_ ?_
  · refine (meets_route injective _ _ _ backed).handle fun failure s' holds => ?_
    exact ((triple_emitAudit lasting_backed _ _ _ _).bind fun _ => .raise fun _ holds => holds) s'
      holds
  · intro decision s' passed
    exact (triple_attempts pipeline run decision decision.chain (List.Subset.refl _) 0 none s'
      passed).mono (fun _ _ holds => holds.1.1.1) fun _ _ holds => holds.1.1.1

omit [LinearOrder F] [Add F] [Sub F] [Mul F] [Div F] [IntCast F] in
theorem triple_capture :
    Co.Triple (clearance hash) (World.Backed hash) (capture : Inferring F _)
      (fun _ => World.Backed hash) fun _ => World.Backed hash := by
  refine Co.Triple.get.bind fun world => ?_
  cases world.loader with
  | none => exact .raise fun _ holds => holds.2
  | some loaded => exact .pure fun _ holds => holds.2

omit [LinearOrder F] [Add F] [Sub F] [Mul F] [Div F] [IntCast F] in
theorem triple_idempotencyBeginFor (lasting : Lasting hash R) (request : InferenceRequest) :
    Co.Triple (clearance hash) R (idempotencyBeginFor request : Inferring F _) (fun _ => R)
      fun _ => R := by
  unfold idempotencyBeginFor
  cases explicit request.envelope.idempotencyKey with
  | none => exact (triple_newUlid lasting).bind fun _ => .pure fun _ holds => holds
  | some key =>
      refine (triple_await lasting _).bind fun _ => Co.Triple.get.bind fun world => ?_
      cases world.outside.idempotencyBegin with
      | ok begun => exact .pure fun _ holds => holds.2
      | error failure => exact .raise fun _ holds => holds.2

theorem triple_infer (injective : Function.Injective hash) (pipeline : Pipeline F)
    (request : InferenceRequest) :
    Co.Triple (clearance hash) (World.Backed hash) (infer hash pipeline request)
      (fun _ => World.Backed hash) fun _ => World.Backed hash := by
  refine triple_capture.bind fun binding => ?_
  refine (triple_idempotencyBeginFor lasting_backed request).bind fun begun => ?_
  obtain ⟨inferenceId, finalize, replay⟩ := begun
  cases replay with
  | some response => exact .pure fun _ holds => holds
  | none =>
      exact (triple_execute injective pipeline _).tryCatch fun failure =>
        triple_recordFailure lasting_backed finalize failure

theorem triple_streamChat (injective : Function.Injective hash) (request : ChatInferenceRequest) :
    Co.Triple (clearance hash) (World.Backed hash) (streamChat hash request : Inferring F Unit)
      (fun _ => World.Backed hash) fun _ => World.Backed hash := by
  have event (eventType : AuditEventType) (run : Run F) (action : String) (details : Details) :
      Co.Triple (clearance hash) (World.Backed hash) (emitAudit eventType run action details)
        (fun _ => World.Backed hash) fun _ => World.Backed hash :=
    triple_emitAudit lasting_backed eventType run action details
  refine triple_capture.bind fun binding => ?_
  refine (triple_newUlid lasting_backed).bind fun inferenceId => ?_
  refine (event _ _ _ _).bind fun _ => ?_
  intro s backed
  refine Co.Triple.of_get (P := fun s' => s = s') ?_ rfl
  rintro _ rfl
  refine (meets_route injective _ _ _ backed).bind ?_
  intro decision s' passed
  cases found : providerFromBinding binding decision.selectedProviderId with
  | none => exact event _ _ _ _ s' passed.1.1.1
  | some provider =>
      refine Res.Meets.bind ((triple_callAdapter List.mem_cons_self (id_of_binding found) true s'
        passed).mono (fun _ _ holds => holds.1.1.1) fun _ _ holds => holds.1.1.1) ?_
      intro _ s'' backed
      refine Co.Triple.of_get (P := World.Backed hash) ?_ backed
      refine (triple_yieldAll lasting_backed _).bind fun _ => ?_
      split
      · exact (event _ _ _ _).bind fun _ => .raise fun _ holds => holds
      · exact event _ _ _ _

theorem triple_run (injective : Function.Injective hash) (call : InferenceCall) :
    Co.Triple (clearance hash) (World.Backed hash) (call.run hash : Inferring F Unit)
      (fun _ => World.Backed hash) fun _ => World.Backed hash := by
  cases call with
  | chat request => exact (triple_infer injective _ _).bind fun _ => .pure fun _ holds => holds
  | embedding request => exact (triple_infer injective _ _).bind fun _ => .pure fun _ holds => holds
  | stream request => exact triple_streamChat injective request

end

/-! ### Histories -/

/-- The policy engine said ALLOW about every call, to its capability and to its provider and model,
at a time from which the lifetime of the cache was not over when its candidates were routed. -/
def OnlyAllowed (world : World F) : Prop :=
  ∀ dispatch ∈ world.dispatches, ∀ question ∈ [dispatch.capabilityQuestion, dispatch.modelQuestion],
    ∃ evaluation ∈ world.evaluations, evaluation.question = question ∧
      evaluation.effect = .allow ∧ dispatch.routedAt < evaluation.time + 60

/-- Calls of the service are started; what changes outside lets the policy cache and the records
alone. -/
def Allowable [LinearOrder F] [Add F] [Sub F] [Mul F] [Div F] [IntCast F]
    (hash : List Char → String) : Move (World F) Failure Point Unit → Prop
  | .spawn m => ∃ call : InferenceCall, m = call.run hash
  | .advance _ => True
  | .external f => ∀ s, s.clock ≤ (f s).clock ∧ (f s).policyCache = s.policyCache ∧
      (f s).evaluations = s.evaluations ∧ (f s).dispatches = s.dispatches

theorem World.Backed.onlyAllowed {world : World F} (backed : world.Backed hash)
    (decided : ∀ evaluation ∈ world.evaluations, evaluation.effect ≠ .requireApproval) :
    OnlyAllowed world := by
  intro dispatch member question asked
  have cleared : world.Cleared question dispatch.routedAt := by
    obtain ⟨capability, model⟩ := backed.dispatched dispatch member
    rcases List.mem_pair.mp asked with rfl | rfl
    · exact capability
    · exact model
  obtain ⟨evaluation, present, own, allowed, inTime⟩ := cleared
  refine ⟨evaluation, present, own, ?_, inTime⟩
  cases effect : evaluation.effect with
  | allow => rfl
  | deny => exact absurd effect allowed
  | requireApproval => exact absurd effect (decided evaluation present)

theorem backed_boot (system : ProviderSystemConfig F) (catalog : ModelCatalog F)
    (engine : PolicyEngine) (outside : Outside) :
    (World.boot system catalog engine outside).Backed hash :=
  ⟨rfl, fun _ _ member => absurd member List.not_mem_nil,
    fun _ member => absurd member List.not_mem_nil⟩

/-- Without REQUIRE_APPROVAL, only what is allowed is called. -/
theorem dispatches_allowed [LinearOrder F] [Add F] [Sub F] [Mul F] [Div F] [IntCast F]
    (hash : List Char → String) (injective : Function.Injective hash)
    (system : ProviderSystemConfig F) (catalog : ModelCatalog F) (engine : PolicyEngine)
    (outside : Outside) (moves : List (Move (World F) Failure Point Unit))
    (allowable : ∀ move ∈ moves, Allowable hash move) (n : Nat)
    (decided : ∀ evaluation ∈
      (Pool.after ⟨.boot system catalog engine outside, []⟩ moves n).state.evaluations,
        evaluation.effect ≠ .requireApproval) :
    OnlyAllowed (Pool.after ⟨.boot system catalog engine outside, []⟩ moves n).state := by
  have stable (s s' : World F) (step : Progress hash s s') : s.Backed hash → s'.Backed hash :=
    step.backed
  have admitted (m : Nat) (move : Move (World F) Failure Point Unit)
      (present : moves[m]? = some move)
      (backed : World.Backed hash
        (Pool.after ⟨.boot system catalog engine outside, []⟩ moves m).state) :
      (Pool.after ⟨.boot system catalog engine outside, []⟩ moves m).Admits (Progress hash)
        (fun _ _ => True) move := by
    have own := allowable move (List.mem_of_getElem? present)
    cases move with
    | spawn m =>
        obtain ⟨call, rfl⟩ := own
        exact ((triple_run injective call) _ backed).mono (fun _ _ _ => trivial) fun _ _ _ => trivial
    | advance i => exact fun _ _ _ => trivial
    | external f =>
        obtain ⟨clock, cache, evaluations, dispatches⟩ := own (Pool.after _ moves m).state
        exact .single (.of_same clock (evaluations ▸ List.Subset.refl _) cache dispatches)
  have backed := Pool.invariant stable _ (backed_boot system catalog engine outside) moves admitted n
  exact backed.onlyAllowed decided

end

/-! One rule for everything, and a chat request that is taken to its adapter. -/

def oneRuleFor (effect resourceType : String) : PolicyRuleRow :=
  { id := resourceType, name := resourceType, resourceType, resourcePattern := "*", effect
    conditions := .list [], priority := 0, enabled := true }

def annsChat : ChatInferenceRequest :=
  { messages := [{ role := "user", content := "hi" }], temperature := none, maxTokens := none
    modelId := none, providerId := none, actor := "ann", scopeType := "PLATFORM"
    scopeId := "default", sensitivity := .publicData, traceId := "", idempotencyKey := none
    modelPinning := .none }

def ruledMoves : List (Move (World ℤ) Failure Point Unit) :=
  [.spawn ((InferenceCall.chat annsChat).run String.ofList), .advance 0, .advance 0, .advance 0]

def ruledEngine (effect : String) : PolicyEngine :=
  plainEngine [oneRuleFor effect "inference", oneRuleFor effect "model"]

def ruledWorld (effect : String) : World ℤ :=
  .boot (systemOf true [localProvider] localProvider_alone) (catalogOf [chatRow "local" "small" 1])
    (ruledEngine effect) silent

theorem allow_rules_allowed :
    OnlyAllowed (Pool.after ⟨ruledWorld "ALLOW", []⟩ ruledMoves 4).state := by
  apply dispatches_allowed String.ofList fun _ _ => String.ofList_injective
  · intro move member
    simp only [ruledMoves, List.mem_cons, List.not_mem_nil, or_false] at member
    rcases member with rfl | rfl | rfl | rfl
    · exact ⟨_, rfl⟩
    · trivial
    · trivial
    · trivial
  · decide +kernel

/-- A rule that requires approval lets the call through. -/
theorem approval_rules_called :
    ¬ OnlyAllowed (Pool.after ⟨ruledWorld "REQUIRE_APPROVAL", []⟩ ruledMoves 4).state := by
  intro allowed
  have called : (Pool.after ⟨ruledWorld "REQUIRE_APPROVAL", []⟩ ruledMoves 4).state.dispatches.length =
      1 := by decide +kernel
  have effects : ∀ evaluation ∈
      (Pool.after ⟨ruledWorld "REQUIRE_APPROVAL", []⟩ ruledMoves 4).state.evaluations,
        evaluation.effect = .requireApproval := by decide +kernel
  obtain ⟨dispatch, member⟩ := List.exists_mem_of_length_pos (called ▸ Nat.one_pos)
  obtain ⟨evaluation, present, -, effect, -⟩ :=
    allowed dispatch member dispatch.capabilityQuestion List.mem_cons_self
  exact absurd (effect.symm.trans (effects evaluation present)) (by decide)

end SyndicateClaw.Inference
