import SyndicateClaw.Async.Chronicle
import SyndicateClaw.Inference.Service

/-! What comes before the calls of an inference, whatever happens between its segments. -/

namespace SyndicateClaw.Inference

open Async Authz

section

variable {F : Type}

/-! ### What a run has seen -/

abbrev Record (F : Type) := Chronicle (World F) Point

def Seen (start : World F) (h : Record F) (world : World F) : Prop :=
  world = start ∨ ∃ point s, (point, s, world) ∈ h

theorem Seen.mono {start : World F} {h : Record F} {world : World F} (seen : Seen start h world)
    (later : Record F) : Seen start (h ++ later) world := by
  rcases seen with first | ⟨point, s, member⟩
  · exact .inl first
  · exact .inr ⟨point, s, List.mem_append_left later member⟩

theorem seen_last (start : World F) (h : Record F) (point : Point) (s s' : World F) :
    Seen start (h ++ [(point, s, s')]) s' :=
  .inr ⟨point, s, List.mem_append_right h (List.mem_singleton_self _)⟩

/-- Catalog and registry are as the segment found them, but for circuits that were read. -/
def Recent (start : World F) (h : Record F) (s : World F) : Prop :=
  ∃ world, Seen start h world ∧ s.catalog = world.catalog ∧
    (∀ p, s.registry.getProvider p = world.registry.getProvider p) ∧
      ∀ p, s.registry.isRuntimeDisabled p = world.registry.isRuntimeDisabled p

theorem recent_start (start : World F) : Recent start [] start :=
  ⟨start, .inl rfl, rfl, fun _ => rfl, fun _ => rfl⟩

theorem recent_last (start : World F) (h : Record F) (point : Point) (s s' : World F) :
    Recent start (h ++ [(point, s, s')]) s' :=
  ⟨s', seen_last start h point s s', rfl, fun _ => rfl, fun _ => rfl⟩

theorem Recent.of_same {start s s' : World F} {h : Record F} (recent : Recent start h s)
    (catalog : s'.catalog = s.catalog) (registry : s'.registry = s.registry) :
    Recent start h s' := by
  obtain ⟨world, seen, sameCatalog, sameProvider, sameDisabled⟩ := recent
  rw [← catalog] at sameCatalog
  rw [← registry] at sameProvider sameDisabled
  exact ⟨world, seen, sameCatalog, sameProvider, sameDisabled⟩

theorem Recent.withRegistry {start s : World F} {h : Record F} (recent : Recent start h s)
    {now : Time} {registry : ProviderRegistry} (alike : s.registry.Alike now registry) :
    Recent start h (s.withRegistry registry) := by
  obtain ⟨world, seen, sameCatalog, sameProvider, sameDisabled⟩ := recent
  exact ⟨world, seen, sameCatalog, fun p => (alike.getProvider p).trans (sameProvider p),
    fun p => (alike.isRuntimeDisabled p).trans (sameDisabled p)⟩

/-! ### What the router has checked -/

def Point.isEvaluate : Point → Bool
  | .evaluate _ => true
  | _ => false

/-- The world in which the answer of the first gate arrived: `route` reads its catalog. -/
def routedIn (h : Record F) : Option (World F) :=
  (h.find? fun step => step.1.isEvaluate).map fun step => step.2.2

theorem routedIn_mono {h : Record F} {world : World F} (routed : routedIn h = some world)
    (later : Record F) : routedIn (h ++ later) = some world := by
  unfold routedIn at routed ⊢
  obtain ⟨step, found, rfl⟩ := Option.map_eq_some_iff.mp routed
  rw [List.find?_append, found]
  rfl

theorem routedIn_first {h : Record F} (fresh : routedIn h = none) (question : PolicyQuestion)
    (s s' : World F) : routedIn (h ++ [(.evaluate question, s, s')]) = some s' := by
  unfold routedIn at fresh ⊢
  rw [List.find?_append, Option.map_eq_none_iff.mp fresh]
  rfl

theorem routedIn_other {h : Record F} (fresh : routedIn h = none) {point : Point}
    (other : point.isEvaluate = false) (s s' : World F) : routedIn (h ++ [(point, s, s')]) = none := by
  unfold routedIn at fresh ⊢
  rw [List.find?_append, Option.map_eq_none_iff.mp fresh, List.find?_singleton, other]
  rfl

theorem seen_routedIn (start : World F) {h : Record F} {world : World F}
    (routed : routedIn h = some world) : Seen start h world := by
  unfold routedIn at routed
  obtain ⟨step, found, rfl⟩ := Option.map_eq_some_iff.mp routed
  exact .inr ⟨step.1, step.2.1, List.mem_of_find?_eq_some found⟩

def LetThrough (sensitivity : DataSensitivity) (providerId : String) (world : World F) : Prop :=
  ∃ provider, world.registry.getProvider providerId = some provider ∧ provider.enabled = true ∧
    world.registry.isRuntimeDisabled providerId = false ∧
      sensitivityAllowed sensitivity provider.maxAllowedSensitivity = true

def Checked (start : World F) (sensitivity : DataSensitivity) (h : Record F) (providerId : String) :
    Prop :=
  ∃ world, Seen start h world ∧ LetThrough sensitivity providerId world

theorem Checked.mono {start : World F} {sensitivity : DataSensitivity} {h : Record F}
    {providerId : String} (checked : Checked start sensitivity h providerId) (later : Record F) :
    Checked start sensitivity (h ++ later) providerId := by
  obtain ⟨world, seen, through⟩ := checked
  exact ⟨world, seen.mono later, through⟩

theorem letThrough_of_screen {registry : ProviderRegistry} {now : Time}
    {sensitivity : DataSensitivity} {providerId : String} {provider : ProviderConfig}
    {health : ProviderStatus}
    (passed : (screen registry now sensitivity providerId).1 = some (provider, health)) :
    registry.getProvider providerId = some provider ∧ provider.enabled = true ∧
      registry.isRuntimeDisabled providerId = false ∧
        sensitivityAllowed sensitivity provider.maxAllowedSensitivity = true := by
  unfold screen at passed
  cases found : registry.getProvider providerId with
  | none =>
      rw [found] at passed
      cases passed
  | some own =>
      rw [found] at passed
      dsimp only at passed
      split_ifs at passed with off circuit cooldown health low
      obtain ⟨rfl, -⟩ := Prod.mk.inj (Option.some.inj passed)
      simp only [Bool.or_eq_true, Bool.not_eq_true', not_or, Bool.not_eq_false,
        Bool.not_eq_true] at off low
      exact ⟨rfl, off.1, off.2, low⟩

theorem screen_same (registry : ProviderRegistry) (now : Time) (sensitivity : DataSensitivity)
    (providerId : String) :
    registry.Alike now (screen registry now sensitivity providerId).2 := by
  have ticked : registry.Alike now (registry.tick providerId now) :=
    ProviderRegistry.alike_tick providerId
  unfold screen
  cases registry.getProvider providerId with
  | none => exact .refl registry now
  | some provider =>
      dsimp only
      split_ifs
      · exact .refl registry now
      · exact ticked
      · exact ticked
      · exact ticked
      · exact ticked
      · exact ticked

theorem Recent.checked {start s : World F} {h : Record F} (recent : Recent start h s) {now : Time}
    {sensitivity : DataSensitivity} {providerId : String} {provider : ProviderConfig}
    {health : ProviderStatus}
    (passed : (screen s.registry now sensitivity providerId).1 = some (provider, health)) :
    Checked start sensitivity h providerId := by
  obtain ⟨world, seen, -, sameProvider, sameDisabled⟩ := recent
  obtain ⟨found, enabled, notDisabled, low⟩ := letThrough_of_screen passed
  rw [sameProvider] at found
  rw [sameDisabled] at notDisabled
  exact ⟨world, seen, provider, found, enabled, notDisabled, low⟩

/-! ### Routing -/

section

variable {claims : Record F → Point → World F → Prop}
  (free : ∀ h question s, claims h (.evaluate question) s) {start : World F}

def Onward (K : Record F → Prop) : Prop :=
  ∀ h question s s', K h → K (h ++ [(.evaluate question, s, s')])

theorem Onward.and {K K' : Record F → Prop} (first : Onward K) (second : Onward K') :
    Onward fun h => K h ∧ K' h :=
  fun h question s s' both =>
    ⟨first h question s s' both.1, second h question s s' both.2⟩

variable {K : Record F → Prop} (onward : Onward K)

include free

theorem keeps_evaluate {L : Record F → World F → Prop} (question : PolicyQuestion)
    (arrives : ∀ h s s', K h → L (h ++ [(.evaluate question, s, s')]) s')
    (recorded : ∀ h s evaluations, L h s → L h { s with evaluations })
    {E : Record F → Failure → World F → Prop} :
    Co.Keeps claims (fun h _ => K h) (evaluate question) (fun h _ s => L h s) E := by
  refine Co.Keeps.bind (Q := fun h _ s => L h s)
    (.await fun h s holds => ⟨free h question s, fun s' => arrives h s s' holds⟩) fun _ => ?_
  refine Co.Keeps.get.bind fun world => ?_
  dsimp only
  cases world.engine.evaluate question.resourceType question.resourceId question.actor
      question.context with
  | error detail => exact .pure fun h s holds => holds.2
  | ok decision =>
      refine Co.Keeps.bind (Q := fun h _ s => L h s)
        (.modify fun h s holds => recorded h s _ holds.2) fun _ => ?_
      exact .pure fun h s holds => holds

include onward

theorem keeps_gate (hash : List Char → String) (now : Time) (question : ModelQuestion)
    {E : Record F → Failure → World F → Prop} :
    Co.Keeps claims (fun h s => Recent start h s ∧ K h) (gate hash policyEnginePort now question)
      (fun h _ s => Recent start h s ∧ K h) E := by
  refine Co.Keeps.get.bind fun world => ?_
  refine Co.Keeps.bind (Q := fun h _ s => Recent start h s ∧ K h)
    (.modify fun h s holds => ⟨holds.2.1.of_same rfl rfl, holds.2.2⟩) fun _ => ?_
  cases world.policyCache.answer? (policyModelKey hash question) now with
  | some answer => exact .pure fun h s holds => holds
  | none =>
      refine Co.Keeps.bind (Q := fun h _ s => Recent start h s ∧ K h) ?_ fun answer => ?_
      · have asked : Co.Keeps claims (fun h _ => K h) (evaluate question.policyQuestion)
            (fun h _ s => Recent start h s ∧ K h) E :=
          keeps_evaluate free question.policyQuestion
            (fun h s s' holds => ⟨recent_last start h _ s s', onward h _ s s' holds⟩)
            fun h s _ holds => ⟨holds.1.of_same rfl rfl, holds.2⟩
        exact (asked.bind fun answer => .pure fun h s holds => holds).conseq
          (fun h s holds => holds.2) (fun h _ s holds => holds) fun h _ s holds => holds
      · refine Co.Keeps.bind (Q := fun h _ s => Recent start h s ∧ K h)
          (.modify fun h s holds => ⟨holds.1.of_same rfl rfl, holds.2⟩) fun _ => ?_
        exact .pure fun h s holds => holds

variable [LinearOrder F] [Add F] [Sub F] [Mul F] [Div F] [IntCast F]

/-- What is kept of the rows is among them, and its providers passed the checks. -/
theorem keeps_collect (start : World F) (hash : List Char → String) (routing : RoutingPolicyConfig F)
    (request : InferenceRequest) (now : Time) (listed : String × String → Prop)
    (rows : List (CatalogEntryRecord F)) (own : ∀ row ∈ rows, listed row.key)
    (scored : List (Scored F)) (dropped : Int) {E : Record F → Failure → World F → Prop} :
    Co.Keeps claims
      (fun h s => Recent start h s ∧ K h ∧ ∀ x ∈ scored, listed x.candidate ∧
        Checked start request.envelope.sensitivity h x.providerId)
      (collect hash routing request policyEnginePort now rows scored dropped)
      (fun h result s => Recent start h s ∧ K h ∧ ∀ x ∈ result.1, listed x.candidate ∧
        Checked start request.envelope.sensitivity h x.providerId) E := by
  induction rows generalizing scored dropped with
  | nil => exact .pure fun h s holds => holds
  | cons row rest ih =>
      have later := ih fun other member => own other (List.mem_cons_of_mem row member)
      unfold collect
      by_cases full : routing.policyMaxCandidatesPerRequest ≤ scored.length
      · rw [if_pos full]
        exact .pure fun h s holds => holds
      · rw [if_neg full]
        refine Co.Keeps.get.bind fun world => ?_
        dsimp only
        have screened := screen_same world.registry now request.envelope.sensitivity row.providerId
        cases found : (screen world.registry now request.envelope.sensitivity row.providerId).1 with
        | none =>
            refine Co.Keeps.bind (Q := fun h _ s => Recent start h s ∧ K h ∧ ∀ x ∈ scored,
              listed x.candidate ∧ Checked start request.envelope.sensitivity h x.providerId)
              (.modify ?_) fun _ => later scored (dropped + 1)
            rintro h _ ⟨rfl, recent, holds⟩
            exact ⟨recent.withRegistry screened, holds⟩
        | some passed =>
            let K' (h : Record F) : Prop := (K h ∧ ∀ x ∈ scored, listed x.candidate ∧
              Checked start request.envelope.sensitivity h x.providerId) ∧
                Checked start request.envelope.sensitivity h row.providerId
            have onward' : Onward K' := by
              intro h question s s' ⟨⟨holds, all⟩, last⟩
              exact ⟨⟨onward h question s s' holds, fun x member =>
                ⟨(all x member).1, (all x member).2.mono _⟩⟩, last.mono _⟩
            refine Co.Keeps.bind (Q := fun h _ s => Recent start h s ∧ K' h) (.modify ?_) fun _ => ?_
            · rintro h _ ⟨rfl, recent, holds, all⟩
              exact ⟨recent.withRegistry screened, ⟨holds, all⟩, recent.checked found⟩
            · refine (keeps_gate free onward' hash now _).bind fun answer => ?_
              by_cases allowed : answer = .allow
              · rw [if_neg (not_not.mpr allowed)]
                refine (later _ dropped).conseq ?_ (fun _ _ _ holds => holds) fun _ _ _ holds => holds
                rintro h s ⟨recent, ⟨holds, all⟩, last⟩
                refine ⟨recent, holds, fun x member => ?_⟩
                rcases List.mem_append.mp member with old | new
                · exact all x old
                · rw [List.mem_singleton.mp new]
                  exact ⟨own row List.mem_cons_self, last⟩
              · rw [if_pos allowed]
                exact (later scored (dropped + 1)).conseq
                  (fun h s holds => ⟨holds.1, holds.2.1.1, holds.2.1.2⟩) (fun _ _ _ holds => holds)
                  fun _ _ _ holds => holds

omit free onward [LinearOrder F] [Add F] [Sub F] [Mul F] [Div F] [IntCast F] in
theorem mem_of_narrowExplicit {request : InferenceRequest} {rows : List (CatalogEntryRecord F)}
    {row : CatalogEntryRecord F} (member : row ∈ narrowExplicit request rows) : row ∈ rows := by
  unfold narrowExplicit at member
  split at member
  · exact List.mem_of_mem_filter member
  · exact List.mem_of_mem_filter member
  · exact List.mem_of_mem_filter member
  · exact member

omit free onward [LinearOrder F] [Add F] [Sub F] [Mul F] [Div F] [IntCast F] in
theorem keeps_newUlid {E : Record F → Failure → World F → Prop} :
    Co.Keeps claims (fun h s => Recent start h s ∧ K h) (newUlid : Inferring F String)
      (fun h _ s => Recent start h s ∧ K h) E := by
  refine Co.Keeps.get.bind fun world => ?_
  refine Co.Keeps.bind (Q := fun h _ s => Recent start h s ∧ K h)
    (.modify fun h s holds => ⟨holds.2.1.of_same rfl rfl, holds.2.2⟩) fun _ => ?_
  exact .pure fun h s holds => holds

/-- The candidates come from the catalog that `route` read, and their providers were checked. -/
def Routed (start : World F) (sensitivity : DataSensitivity) (h : Record F)
    (chain : List (String × String)) : Prop :=
  ∃ world, routedIn h = some world ∧ ∀ candidate ∈ chain,
    (world.catalog.get candidate.1 candidate.2).isSome = true ∧
      Checked start sensitivity h candidate.1

omit free onward [LinearOrder F] [Add F] [Sub F] [Mul F] [Div F] [IntCast F] in
theorem Routed.mono {sensitivity : DataSensitivity} {h : Record F} {chain : List (String × String)}
    (routed : Routed start sensitivity h chain) (later : Record F) :
    Routed start sensitivity (h ++ later) chain := by
  obtain ⟨world, first, all⟩ := routed
  exact ⟨world, routedIn_mono first later, fun candidate member =>
    ⟨(all candidate member).1, (all candidate member).2.mono later⟩⟩

omit free onward [LinearOrder F] [Add F] [Sub F] [Mul F] [Div F] [IntCast F] in
theorem Routed.restrict {sensitivity : DataSensitivity} {h : Record F}
    {chain : List (String × String)} {candidate : String × String}
    (routed : Routed start sensitivity h chain) (member : candidate ∈ chain) :
    Routed start sensitivity h [candidate] := by
  obtain ⟨world, first, all⟩ := routed
  refine ⟨world, first, fun other own => ?_⟩
  rw [List.mem_singleton.mp own]
  exact all candidate member

theorem keeps_route (hash : List Char → String) (routing : RoutingPolicyConfig F)
    (request : InferenceRequest) (system : ProviderSystemConfig F)
    (resolvedPin : Option (String × String)) :
    Co.Keeps claims (fun h s => Recent start h s ∧ K h ∧ routedIn h = none)
      (route hash routing request system policyEnginePort resolvedPin none)
      (fun h decision s => Recent start h s ∧ K h ∧
        Routed start request.envelope.sensitivity h decision.chain)
      fun h _ _ => K h := by
  refine Co.Keeps.get.bind fun now => ?_
  dsimp only
  cases system.inferenceEnabled with
  | false => exact .raise fun h s holds => holds.2.2.1
  | true =>
      let L (catalog : ModelCatalog F) (h : Record F) : Prop :=
        K h ∧ ∃ world, routedIn h = some world ∧ catalog = world.catalog
      have onward' (catalog : ModelCatalog F) : Onward (L catalog) := by
        intro h question s s' ⟨holds, world, first, same⟩
        exact ⟨onward h question s s' holds, world, routedIn_mono first _, same⟩
      have capability : Co.Keeps claims (fun h _ => K h ∧ routedIn h = none)
          (policyEnginePort.gateInferenceCapability request.capability request.envelope.actor
            request.envelope.scopeType request.envelope.scopeId)
          (fun h _ s => Recent start h s ∧ L s.catalog h) fun h _ _ => K h := by
        refine (keeps_evaluate (L := fun h s => Recent start h s ∧ L s.catalog h) free _ ?_ ?_).bind
          fun answer => .pure fun h s holds => holds
        · intro h s s' holds
          exact ⟨recent_last start h _ s s', onward h _ s s' holds.1, s',
            routedIn_first holds.2 _ s s', rfl⟩
        · exact fun h s evaluations holds => ⟨holds.1.of_same rfl rfl, holds.2⟩
      refine (capability.conseq (fun h s holds => holds.2.2) (fun _ _ _ holds => holds)
        fun _ _ _ holds => holds).bind fun answer => ?_
      by_cases allowed : answer = .allow
      · rw [if_neg (not_not.mpr allowed)]
        cases pinSatisfied request resolvedPin with
        | false => exact .raise fun h s holds => holds.2.1
        | true =>
            refine Co.Keeps.get.bind fun world => ?_
            have own : ∀ row ∈ narrowExplicit request (sortBy CatalogEntryRecord.sortKey
                (world.catalog.iterByCapability request.capability)),
                  (world.catalog.get row.key.1 row.key.2).isSome = true := by
              intro row member
              have inside := (mem_sortBy CatalogEntryRecord.sortKey).mp (mem_of_narrowExplicit member)
              rw [world.catalog.get_of_mem (List.mem_of_mem_filter inside)]
              rfl
            have collected := keeps_collect (E := fun h _ _ => K h) free (onward' world.catalog) start hash
              routing request (Option.getD none now.clock)
              (fun candidate => (world.catalog.get candidate.1 candidate.2).isSome = true) _ own [] 0
            refine (collected.conseq ?_ (fun _ _ _ holds => holds) fun _ _ _ holds => holds).bind
              fun result => ?_
            · rintro h _ ⟨rfl, recent, holds⟩
              exact ⟨recent, holds, fun _ member => absurd member List.not_mem_nil⟩
            · cases sorted : sortBy Scored.key result.1 with
              | nil => exact .raise fun h s holds => holds.2.1.1
              | cons primary rest =>
                  refine Co.Keeps.bind keeps_newUlid fun id => .pure ?_
                  rintro h s ⟨recent, ⟨holds, routed, first, same⟩, all⟩
                  refine ⟨recent, holds, routed, first, fun candidate member => ?_⟩
                  have inside : candidate ∈ (sortBy Scored.key result.1).map Scored.candidate := by
                    rw [sorted]
                    exact member
                  obtain ⟨x, present, rfl⟩ := List.mem_map.mp inside
                  obtain ⟨found, checked⟩ := all x ((mem_sortBy Scored.key).mp present)
                  exact ⟨same ▸ found, checked⟩
      · rw [if_pos allowed]
        exact .raise fun h s holds => holds.2.1

end

/-! ### Attempts -/

def Pipeline.rechecks (pipeline : Pipeline F) (call : AdapterCall) (s : World F) : Prop :=
  call.provider.enabled = true ∧
    pipeline.revalidates s.registry s.catalog call.provider.id call.modelId = true

section

variable (start : World F)

/-- The provider of a call is the one of the captured configuration, the candidate was routed, and it
meets what is checked before a call. -/
def CallClaim (rechecks : AdapterCall → World F → Prop) (h : Record F) (call : AdapterCall)
    (s : World F) : Prop :=
  (∃ system version, start.loader = some (system, version) ∧
      (system.providers.find? fun provider => provider.id = call.provider.id) =
        some call.provider) ∧
    Routed start call.request.envelope.sensitivity h [(call.provider.id, call.modelId)] ∧
      rechecks call s

/-- A completed inference tells of what was captured, and its candidate was routed. -/
def EventClaim (pipeline : Pipeline F) (h : Record F) (event : AuditEvent) : Prop :=
  event.eventType = .inferenceCompleted →
    ∃ (run : Run F) (decision : RoutingDecision) (providerId modelId : String) (position : Nat)
      (raw : AdapterResponse),
      event.details = pipeline.completedDetails run decision providerId modelId position raw ∧
        run.binding.catalogSnapshotVersion = start.catalog.snapshotVersion ∧
          Routed start run.request.envelope.sensitivity h [(providerId, modelId)]

def inferenceClaims (rechecks : AdapterCall → World F → Prop) (pipeline : Pipeline F) (h : Record F) :
    Point → World F → Prop
  | .adapter call, s => CallClaim start rechecks h call s
  | .emit event, _ => EventClaim start pipeline h event
  | _, _ => True

/-- What the binding of a run says is what was captured at its start. -/
def Captured (binding : ExecutionBinding F) : Prop :=
  (∃ version, start.loader = some (binding.systemConfig, version)) ∧
    binding.catalogSnapshotVersion = start.catalog.snapshotVersion

variable {start} {rechecks : AdapterCall → World F → Prop} {pipeline : Pipeline F}

theorem keeps_emit {P : Record F → World F → Prop} {Q : Record F → World F → Prop}
    {claims : Record F → Point → World F → Prop} (event : AuditEvent)
    (claim : ∀ h s, P h s → claims h (.emit event) s)
    (next : ∀ h s s', P h s → Q (h ++ [(.emit event, s, s')]) s') :
    Co.Keeps claims P (emit event : Inferring F Unit) (fun h _ s => Q h s) fun _ _ _ => True := by
  refine Co.Keeps.bind (Q := fun h _ s => Q h s)
    (.await fun h s holds => ⟨claim h s holds, fun s' => next h s s' holds⟩) fun _ => ?_
  refine Co.Keeps.get.bind fun world => ?_
  cases world.outside.emit event with
  | none => exact .pure fun h s holds => holds.2
  | some failure => exact .raise fun _ _ _ => trivial

theorem keeps_emitAudit {eventType : AuditEventType} (other : eventType ≠ .inferenceCompleted)
    (run : Run F) (action : String) (details : Details) :
    Co.Keeps (inferenceClaims start rechecks pipeline) (fun _ _ => True)
      (emitAudit eventType run action details) (fun _ _ _ => True) fun _ _ _ => True :=
  keeps_emit (P := fun _ _ => True) (Q := fun _ _ => True) _
    (fun _ _ _ completed => absurd completed other) fun _ _ _ _ => trivial

theorem keeps_await (point : Point) (claim : ∀ h s, inferenceClaims start rechecks pipeline h point s)
    {E : Record F → Failure → World F → Prop} :
    Co.Keeps (inferenceClaims start rechecks pipeline) (fun _ _ => True)
      (Co.await point : Inferring F Unit) (fun _ _ _ => True) E :=
  .await fun h s _ => ⟨claim h s, fun _ => trivial⟩

theorem keeps_recordFailure {α : Type} (finalize : Bool) (failure : Failure) :
    Co.Keeps (inferenceClaims start rechecks pipeline) (fun _ _ => True)
      (recordFailure finalize failure : Inferring F α) (fun _ _ _ => True) fun _ _ _ => True := by
  cases finalize with
  | false => exact .raise fun _ _ _ => trivial
  | true =>
      refine (keeps_await (.updateFailed failure) fun _ _ => trivial).bind fun _ => ?_
      refine Co.Keeps.get.bind fun world => ?_
      cases world.outside.idempotencyUpdate with
      | none => exact .raise fun _ _ _ => trivial
      | some other => exact .raise fun _ _ _ => trivial

theorem keeps_complete {run : Run F} (captured : Captured start run.binding)
    (decision : RoutingDecision) (started : Time) (position : Nat) (providerId modelId : String)
    (raw : AdapterResponse) :
    Co.Keeps (inferenceClaims start rechecks pipeline)
      (fun h _ => Routed start run.request.envelope.sensitivity h [(providerId, modelId)])
      (complete pipeline run decision started position providerId modelId raw) (fun _ _ _ => True)
      fun _ _ _ => True := by
  refine Co.Keeps.get.bind fun world => ?_
  refine Co.Keeps.bind (Q := fun _ _ _ => True) (keeps_emit (Q := fun _ _ => True) _ ?_
    fun _ _ _ _ => trivial) fun _ => ?_
  · intro h s holds _
    exact ⟨run, decision, providerId, modelId, position, raw, rfl, captured.2, holds.2⟩
  · cases run.finalize with
    | false => exact .pure fun _ _ _ => trivial
    | true =>
        refine (keeps_await (.updateCompleted _) fun _ _ => trivial).bind fun _ => ?_
        refine Co.Keeps.get.bind fun after => ?_
        cases after.outside.idempotencyUpdate with
        | none => exact .pure fun _ _ _ => trivial
        | some failure => exact .raise fun _ _ _ => trivial

theorem keeps_callAdapter {binding : ExecutionBinding F} (captured : Captured start binding)
    {request : InferenceRequest} {chain : List (String × String)} {provider : ProviderConfig}
    {providerId modelId : String} (member : (providerId, modelId) ∈ chain)
    (found : providerFromBinding binding providerId = some provider) (streaming : Bool)
    (routedAt : Time) {now : World F}
    (checked : ∀ s : World F, s.registry = now.registry → s.catalog = now.catalog →
      rechecks { provider, request := request.attempt providerId modelId, streaming } s) :
    Co.Keeps (inferenceClaims start rechecks pipeline)
      (fun h s => now = s ∧ Routed start request.envelope.sensitivity h chain)
      (callAdapter { provider, request := request.attempt providerId modelId, streaming } routedAt)
      (fun h _ _ => Routed start request.envelope.sensitivity h chain) fun _ _ _ => True := by
  have own : provider.id = providerId := id_of_binding found
  have model := modelId_call provider request providerId modelId streaming
  have sensitivity : (request.attempt providerId modelId).envelope.sensitivity =
      request.envelope.sensitivity := by
    cases request <;> rfl
  refine Co.Keeps.bind (Q := fun h _ s => (s.registry = now.registry ∧ s.catalog = now.catalog) ∧
    Routed start request.envelope.sensitivity h chain) (.modify ?_) fun _ => ?_
  · rintro h _ ⟨rfl, routed⟩
    exact ⟨⟨rfl, rfl⟩, routed⟩
  · refine Co.Keeps.bind (Q := fun h _ _ => Routed start request.envelope.sensitivity h chain)
      (.await ?_) fun _ => Co.Keeps.get.bind fun world => .pure fun h s holds => holds.2
    intro h s ⟨⟨registry, catalog⟩, routed⟩
    refine ⟨⟨?_, ?_, checked s registry catalog⟩, fun s' => routed.mono _⟩
    · obtain ⟨version, loaded⟩ := captured.1
      refine ⟨binding.systemConfig, version, loaded, ?_⟩
      show (binding.systemConfig.providers.find? fun other => other.id = provider.id) = some provider
      rw [own]
      exact found
    · obtain ⟨world, first, all⟩ := routed
      refine ⟨world, first, fun candidate inside => ?_⟩
      rw [List.mem_singleton.mp inside, sensitivity, model]
      show (world.catalog.get provider.id modelId).isSome = true ∧ Checked _ _ _ provider.id
      rw [own]
      exact all _ member

theorem keeps_attempts {run : Run F} (captured : Captured start run.binding)
    (decision : RoutingDecision) (started : Time) {all : List (String × String)}
    (chain : List (String × String)) (part : chain ⊆ all) (position : Nat) (last : Option Failure) :
    Co.Keeps (inferenceClaims start pipeline.rechecks pipeline)
      (fun h _ => Routed start run.request.envelope.sensitivity h all)
      (attempts pipeline run decision started position chain last) (fun _ _ _ => True)
      fun _ _ _ => True := by
  induction chain generalizing position last with
  | nil =>
      exact ((keeps_emitAudit (by decide) run pipeline.action _).bind fun _ =>
        .raise fun _ _ _ => trivial).conseq (fun _ _ _ => trivial) (fun _ _ _ holds => holds)
        fun _ _ _ holds => holds
  | cons candidate rest ih =>
      obtain ⟨providerId, modelId⟩ := candidate
      have later := ih (List.subset_of_cons_subset part)
      have ends (details : Details) (failure : Failure) :
          Co.Keeps (inferenceClaims start pipeline.rechecks pipeline) (fun _ _ => True)
            (do
              emitAudit .inferenceFailed run pipeline.action details
              Co.raise failure : Inferring F InferenceResponse) (fun _ _ _ => True)
            fun _ _ _ => True :=
        (keeps_emitAudit (by decide) run pipeline.action details).bind fun _ =>
          .raise fun _ _ _ => trivial
      unfold attempts
      refine Co.Keeps.get.bind fun world => ?_
      by_cases late : started + run.binding.systemConfig.routing.maxTotalLatency < world.clock
      · rw [if_pos late]
        cases pipeline.deadlineDetails run position with
        | none => exact .raise fun _ _ _ => trivial
        | some details =>
            exact (ends details _).conseq (fun _ _ _ => trivial) (fun _ _ _ holds => holds)
              fun _ _ _ holds => holds
      · rw [if_neg late]
        have skip : Co.Keeps (inferenceClaims start pipeline.rechecks pipeline)
            (fun h s => world = s ∧ Routed start run.request.envelope.sensitivity h all)
            (attempts pipeline run decision started (position + 1) rest last) (fun _ _ _ => True)
            fun _ _ _ => True :=
          (later (position + 1) last).conseq (fun _ _ holds => holds.2) (fun _ _ _ holds => holds)
            fun _ _ _ holds => holds
        cases found : providerFromBinding run.binding providerId with
        | none => exact skip
        | some provider =>
            dsimp only
            split
            · exact skip
            · next passes =>
                simp only [Bool.or_eq_true, Bool.not_eq_true', not_or, Bool.not_eq_false] at passes
                refine Co.Keeps.bind (keeps_callAdapter captured (part List.mem_cons_self) found false
                  started ?_) fun answer => ?_
                · intro s registry catalog
                  have own : provider.id = providerId := id_of_binding found
                  refine ⟨passes.1, ?_⟩
                  rw [registry, catalog, modelId_call, own]
                  exact passes.2
                · cases answer with
                  | ok raw =>
                      exact (keeps_complete captured decision started position providerId modelId
                        raw).conseq (fun h s routed => routed.restrict (part List.mem_cons_self))
                        (fun _ _ _ holds => holds) fun _ _ _ holds => holds
                  | error failure =>
                      dsimp only
                      split
                      · exact later (position + 1) (some failure)
                      · split
                        · exact .raise fun _ _ _ => trivial
                        · exact (ends _ _).conseq (fun _ _ _ => trivial) (fun _ _ _ holds => holds)
                            fun _ _ _ holds => holds

/-! ### Whole calls -/

/-- Before its candidates are routed, a run has asked the policy engine nothing. -/
def Unrouted (start : World F) (h : Record F) (s : World F) : Prop :=
  Recent start h s ∧ routedIn h = none

theorem keeps_announce {eventType : AuditEventType} (other : eventType ≠ .inferenceCompleted)
    (run : Run F) (action : String) (details : Details) :
    Co.Keeps (inferenceClaims start rechecks pipeline) (Unrouted start)
      (emitAudit eventType run action details) (fun h _ s => Unrouted start h s)
      fun _ _ _ => True :=
  keeps_emit _ (fun _ _ _ completed => absurd completed other) fun h s s' holds =>
    ⟨recent_last start h _ s s', routedIn_other holds.2 rfl s s'⟩

theorem keeps_capture :
    Co.Keeps (inferenceClaims start rechecks pipeline) (fun h s => h = [] ∧ s = start)
      (capture : Inferring F _) (fun h binding s => Unrouted start h s ∧ Captured start binding)
      fun _ _ _ => True := by
  refine Co.Keeps.get.bind fun world => ?_
  cases loaded : world.loader with
  | none => exact .raise fun _ _ _ => trivial
  | some config =>
      refine .pure ?_
      rintro h s ⟨rfl, rfl, rfl⟩
      exact ⟨⟨recent_start world, rfl⟩, ⟨config.2, loaded⟩, rfl⟩

theorem keeps_idempotencyBeginFor (request : InferenceRequest) :
    Co.Keeps (inferenceClaims start rechecks pipeline) (Unrouted start)
      (idempotencyBeginFor request : Inferring F _) (fun h _ s => Unrouted start h s)
      fun _ _ _ => True := by
  unfold idempotencyBeginFor
  cases explicit request.envelope.idempotencyKey with
  | none => exact keeps_newUlid.bind fun id => .pure fun h s holds => holds
  | some key =>
      refine Co.Keeps.bind (Q := fun h _ s => Unrouted start h s) (.await ?_) fun _ => ?_
      · exact fun h s holds => ⟨trivial, fun s' =>
          ⟨recent_last start h _ s s', routedIn_other holds.2 rfl s s'⟩⟩
      · refine Co.Keeps.get.bind fun world => ?_
        cases world.outside.idempotencyBegin with
        | ok begun => exact .pure fun h s holds => holds.2
        | error failure => exact .raise fun _ _ _ => trivial

theorem keeps_yieldAll (texts : List String) :
    Co.Keeps (inferenceClaims start rechecks pipeline) (fun _ _ => True)
      (yieldAll texts : Inferring F Unit) (fun _ _ _ => True) fun _ _ _ => True := by
  induction texts with
  | nil => exact .pure fun _ _ _ => trivial
  | cons text rest ih => exact (keeps_await (.delta text) fun _ _ => trivial).bind fun _ => ih

variable [LinearOrder F] [Add F] [Sub F] [Mul F] [Div F] [IntCast F] (hash : List Char → String)

theorem keeps_routing (routing : RoutingPolicyConfig F) (request : InferenceRequest)
    (system : ProviderSystemConfig F) :
    Co.Keeps (inferenceClaims start rechecks pipeline) (Unrouted start)
      (route hash routing request system policyEnginePort none none)
      (fun h decision _ => Routed start request.envelope.sensitivity h decision.chain)
      fun _ _ _ => True := by
  have free (h : Record F) (question : PolicyQuestion) (s : World F) :
      inferenceClaims start rechecks pipeline h (.evaluate question) s := trivial
  have onward : Onward fun _ : Record F => True := fun _ _ _ _ _ => trivial
  exact (keeps_route free onward hash routing request system none).conseq
    (fun h s holds => ⟨holds.1, trivial, holds.2⟩) (fun h _ s holds => holds.2.2)
    fun _ _ _ _ => trivial

theorem keeps_execute {run : Run F} (captured : Captured start run.binding) :
    Co.Keeps (inferenceClaims start pipeline.rechecks pipeline) (Unrouted start)
      (execute hash pipeline run) (fun _ _ _ => True) fun _ _ _ => True := by
  refine (keeps_announce (by decide) run pipeline.action _).bind fun _ => ?_
  refine Co.Keeps.get.bind fun world => ?_
  refine Co.Keeps.bind (Q := fun h (decision : RoutingDecision) _ =>
    Routed start run.request.envelope.sensitivity h decision.chain) ?_ fun decision => ?_
  · refine ((keeps_routing hash _ _ _).conseq (fun _ _ holds => holds.2) (fun _ _ _ holds => holds)
      fun _ _ _ holds => holds).tryCatch fun failure => ?_
    exact Co.Keeps.bind (Q := fun _ _ _ => True) (keeps_emitAudit (by decide) run pipeline.action _)
      fun _ => .raise fun _ _ _ => trivial
  · exact keeps_attempts captured decision world.clock decision.chain (List.Subset.refl _) 0 none

variable (pipeline) in
theorem keeps_infer (request : InferenceRequest) :
    Co.Keeps (inferenceClaims start pipeline.rechecks pipeline) (fun h s => h = [] ∧ s = start)
      (infer hash pipeline request) (fun _ _ _ => True) fun _ _ _ => True := by
  refine keeps_capture.bind fun binding => ?_
  intro h s ⟨unrouted, captured⟩
  refine Res.Kept.bind (keeps_idempotencyBeginFor request h s unrouted) ?_
  rintro h ⟨inferenceId, finalize, replay⟩ s unrouted
  cases replay with
  | some response => exact trivial
  | none =>
      exact ((keeps_execute hash captured).tryCatch fun failure =>
        keeps_recordFailure finalize failure) h s unrouted

theorem keeps_streamChat (request : ChatInferenceRequest) :
    Co.Keeps (inferenceClaims start (fun _ _ => True) chatPipeline) (fun h s => h = [] ∧ s = start)
      (streamChat hash request : Inferring F Unit) (fun _ _ _ => True) fun _ _ _ => True := by
  refine keeps_capture.bind fun binding => ?_
  intro h s ⟨unrouted, captured⟩
  have drawn : Co.Keeps (inferenceClaims start (fun _ _ => True) chatPipeline) (Unrouted start)
      (newUlid : Inferring F String) (fun h _ s => Unrouted start h s) fun _ _ _ => True :=
    keeps_newUlid
  refine Res.Kept.bind (drawn h s unrouted) fun h inferenceId s unrouted => ?_
  refine Res.Kept.bind (keeps_announce (by decide) _ _ _ h s unrouted) fun h _ s unrouted => ?_
  refine Res.Kept.bind (Co.Keeps.get (P := Unrouted start) h s unrouted) fun h world s holds => ?_
  refine Res.Kept.bind (keeps_routing hash _ _ _ h s holds.2) fun h decision s routed => ?_
  have event {eventType : AuditEventType} (other : eventType ≠ .inferenceCompleted) (run : Run F)
      (action : String) (details : Details) :
      Co.Keeps (inferenceClaims start (fun _ _ => True) chatPipeline) (fun _ _ => True)
        (emitAudit eventType run action details) (fun _ _ _ => True) fun _ _ _ => True :=
    keeps_emitAudit other run action details
  dsimp only
  cases found : providerFromBinding binding decision.selectedProviderId with
  | none => exact event (by decide) _ _ _ h s trivial
  | some provider =>
      refine Res.Kept.bind (keeps_callAdapter captured List.mem_cons_self found true _
        (fun _ _ _ => trivial) h s ⟨rfl, routed⟩) fun h _ s _ => ?_
      refine Res.Kept.bind (Co.Keeps.get (P := fun _ _ => True) h s trivial) fun h after s _ => ?_
      refine (Co.Keeps.bind (P := fun _ _ => True) (keeps_yieldAll _) fun _ => ?_) h s trivial
      split
      · exact (event (by decide) _ _ _).bind fun _ => .raise fun _ _ _ => trivial
      · exact event (by decide) _ _ _

end

end

end SyndicateClaw.Inference
