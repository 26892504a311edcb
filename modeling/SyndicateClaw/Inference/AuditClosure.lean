import SyndicateClaw.Inference.Clearance
import SyndicateClaw.Inference.RoutedCalls

/-! The audit events of an inference: which runs close what they started. -/

namespace SyndicateClaw.Inference

open Async Authz

/-! ### Events of a run -/

def AuditEventType.closings : AuditEventType → List AuditEventType
  | .inferenceStarted => [.inferenceCompleted, .inferenceFailed]
  | .inferenceStreamStarted => [.inferenceStreamCompleted, .inferenceStreamFailed]
  | _ => []

theorem completed_closes :
    AuditEventType.inferenceCompleted ∈ AuditEventType.inferenceStarted.closings := by decide

theorem failed_closes :
    AuditEventType.inferenceFailed ∈ AuditEventType.inferenceStarted.closings := by decide

theorem streamCompleted_closes :
    AuditEventType.inferenceStreamCompleted ∈ AuditEventType.inferenceStreamStarted.closings := by
  decide

theorem streamFailed_closes :
    AuditEventType.inferenceStreamFailed ∈ AuditEventType.inferenceStreamStarted.closings := by decide

def AuditEvent.closedBy (start event : AuditEvent) : Bool :=
  decide (event.eventType ∈ start.eventType.closings ∧ event.resourceId = start.resourceId)

theorem closedBy_of {start event : AuditEvent} (closes : event.eventType ∈ start.eventType.closings)
    (same : event.resourceId = start.resourceId) : start.closedBy event = true :=
  decide_eq_true ⟨closes, same⟩

/-- Every event that starts an inference is followed by exactly one that closes it. -/
def Closed (events : List AuditEvent) : Prop :=
  ∀ before start after, events = before ++ start :: after → start.eventType.closings ≠ [] →
    after.countP start.closedBy = 1

theorem closed_nil : Closed [] := by
  intro before start after split
  cases before <;> cases split

theorem not_closed_singleton {start : AuditEvent} (starts : start.eventType.closings ≠ []) :
    ¬ Closed [start] := by
  intro closed
  have none : [].countP start.closedBy = 1 := closed [] start [] rfl starts
  cases none

theorem closed_pair {start event : AuditEvent} (closes : start.closedBy event = true) :
    Closed [start, event] := by
  have ends : event.eventType.closings = [] := by
    have member := (of_decide_eq_true closes).1
    cases start : start.eventType <;> rw [start] at member <;>
      simp only [AuditEventType.closings, List.mem_cons, List.not_mem_nil, or_false] at member
    · rcases member with same | same <;> rw [same] <;> rfl
    · rcases member with same | same <;> rw [same] <;> rfl
  intro before first after split starts
  cases before with
  | nil =>
      obtain ⟨rfl, rfl⟩ := List.cons.inj split
      simp [closes]
  | cons head before =>
      obtain ⟨-, rest⟩ := List.cons.inj split
      cases before with
      | nil =>
          obtain ⟨rfl, -⟩ := List.cons.inj rest
          exact absurd ends starts
      | cons head before =>
          obtain ⟨-, rest⟩ := List.cons.inj rest
          cases before <;> cases rest

section

variable {F : Type}

def Point.event? : Point → Option AuditEvent
  | .emit event => some event
  | _ => none

def emitted (points : Record F) : List AuditEvent := points.filterMap fun step => step.1.event?

theorem emitted_append (points later : Record F) :
    emitted (points ++ later) = emitted points ++ emitted later := List.filterMap_append

def Point.accepted (world : World F) : Point → Bool
  | .emit event => (world.outside.emit event).isNone
  | _ => true

def Accepted (points : Record F) : Prop := ∀ step ∈ points, step.1.accepted step.2.2 = true

theorem Accepted.left {points later : Record F} (accepted : Accepted (points ++ later)) :
    Accepted points :=
  fun step member => accepted step (List.mem_append_left later member)

theorem Accepted.right {points later : Record F} (accepted : Accepted (points ++ later)) :
    Accepted later :=
  fun step member => accepted step (List.mem_append_right points member)

variable (env : Nat → World F → World F) (i : Nat) (world : World F)

theorem play_emit_bind {α : Type} (event : AuditEvent) (f : Unit → Inferring F α) :
    (emit event >>= f).play env i world =
      match (env i world).outside.emit event with
      | none => ((f ()).play env (i + 1) (env i world)).after [(.emit event, world, env i world)]
      | some failure =>
          { points := [(.emit event, world, env i world)], next := i + 1, state := env i world
            outcome := .error failure } := by
  rw [Co.play_bind]
  unfold emit
  rw [Co.play_await_bind, Co.play_get_bind]
  cases (env i world).outside.emit event with
  | none => rfl
  | some failure => rfl

theorem points_emit_bind {α : Type} (event : AuditEvent) (f : Unit → Inferring F α) :
    ((emit event >>= f).play env i world).points =
      (.emit event, world, env i world) ::
        match (env i world).outside.emit event with
        | none => ((f ()).play env (i + 1) (env i world)).points
        | some _ => [] := by
  rw [play_emit_bind]
  cases (env i world).outside.emit event with
  | none => rfl
  | some failure => rfl

theorem emitted_emit (event : AuditEvent) :
    emitted ((emit event : Inferring F Unit).play env i world).points = [event] := by
  unfold emit
  rw [Co.play_await_bind, Co.play_get_bind]
  cases (env i world).outside.emit event with
  | none => rfl
  | some failure => rfl

/-- The event of `_emit_audit`. -/
def Run.event (run : Run F) (eventType : AuditEventType) (action : String) (details : Details) :
    AuditEvent :=
  { eventType, actor := run.request.envelope.actor, resourceId := run.inferenceId, action
    traceId := run.request.envelope.traceId, details }

theorem emitted_fail {α : Type} (run : Run F) (eventType : AuditEventType) (action : String)
    (details : Details) (failure : Failure) :
    emitted ((do
        emitAudit eventType run action details
        Co.raise failure : Inferring F α).play env i world).points =
      [run.event eventType action details] := by
  unfold emitAudit
  rw [points_emit_bind]
  cases (env i world).outside.emit _ with
  | none => rfl
  | some other => rfl

theorem outcome_fail {α : Type} (run : Run F) (eventType : AuditEventType) (action : String)
    (details : Details) (failure : Failure) :
    ∃ other, ((do
        emitAudit eventType run action details
        Co.raise failure : Inferring F α).play env i world).outcome = .error other := by
  unfold emitAudit
  rw [play_emit_bind]
  cases (env i world).outside.emit _ with
  | none => exact ⟨failure, rfl⟩
  | some other => exact ⟨other, rfl⟩

theorem emitted_complete (pipeline : Pipeline F) (run : Run F) (decision : RoutingDecision)
    (started : Time) (position : Nat) (providerId modelId : String) (raw : AdapterResponse) :
    emitted ((complete pipeline run decision started position providerId modelId raw).play env i
        world).points =
      [run.event .inferenceCompleted pipeline.action
        (pipeline.completedDetails run decision providerId modelId position raw)] := by
  unfold complete emitAudit
  rw [Co.play_get_bind, points_emit_bind]
  cases (env i world).outside.emit _ with
  | some other => rfl
  | none =>
      dsimp only
      cases run.finalize with
      | false => rfl
      | true =>
          rw [if_pos rfl, Co.play_await_bind, Take.points_after, Co.play_get_bind]
          cases (env (i + 1) (env i world)).outside.idempotencyUpdate with
          | none => rfl
          | some failure => rfl

/-! ### Attempts -/

def answerIn (call : AdapterCall) (routedAt : Time) : World F :=
  env i { world with dispatches := world.dispatches ++ [⟨call, routedAt⟩] }

theorem play_callAdapter_bind {α : Type} (call : AdapterCall) (routedAt : Time)
    (f : Except Failure AdapterResponse → Inferring F α) :
    emitted ((callAdapter call routedAt >>= f).play env i world).points =
      emitted ((f ((answerIn env i world call routedAt).outside.adapter call)).play env (i + 1)
        (answerIn env i world call routedAt)).points := rfl

section

variable (pipeline : Pipeline F) (run : Run F) (started : Time)

/-- The chain is left without a closing event: a candidate whose turn comes after the deadline, or an
adapter that raises what the pipeline does not pass over, where the pipeline reports neither. -/
def Cut : (i position : Nat) → World F → List (String × String) → Prop
  | _, _, _, [] => False
  | i, position, world, (providerId, modelId) :: rest =>
      if started + run.binding.systemConfig.routing.maxTotalLatency < world.clock then
        pipeline.deadlineDetails run position = none
      else
        match providerFromBinding run.binding providerId with
        | none => Cut i (position + 1) world rest
        | some provider =>
            if !provider.enabled ||
                !pipeline.revalidates world.registry world.catalog providerId modelId then
              Cut i (position + 1) world rest
            else
              let call : AdapterCall :=
                { provider, request := run.request.attempt providerId modelId }
              let world := answerIn env i world call started
              match world.outside.adapter call with
              | .ok _ => False
              | .error failure =>
                  if pipeline.continues failure then Cut (i + 1) (position + 1) world rest
                  else pipeline.stopDetails run providerId modelId failure = none

/-- Either nothing is emitted, or one event that closes the inference. -/
structure Ends (events : List AuditEvent) (cut : Prop) : Prop where
  open_ : cut → events = []
  closed : ¬ cut → ∃ event, events = [event] ∧
    event.eventType ∈ AuditEventType.inferenceStarted.closings ∧ event.resourceId = run.inferenceId

theorem ends_attempts (decision : RoutingDecision) (chain : List (String × String))
    (position : Nat) (last : Option Failure) :
    Ends run
      (emitted ((attempts pipeline run decision started position chain last).play env i world).points)
      (Cut env pipeline run started i position world chain) := by
  have failed {α : Type} (i : Nat) (world : World F) (details : Details) (failure : Failure) :
      ∃ event, emitted ((do
          emitAudit .inferenceFailed run pipeline.action details
          Co.raise failure : Inferring F α).play env i world).points = [event] ∧
        event.eventType ∈ AuditEventType.inferenceStarted.closings ∧
          event.resourceId = run.inferenceId :=
    ⟨_, emitted_fail env i world run _ _ details failure, failed_closes, rfl⟩
  induction chain generalizing i position last world with
  | nil =>
      refine ⟨False.elim, fun _ => ?_⟩
      exact failed i world (pipeline.exhaustedDetails run last)
        (executionError "all_candidates_failed" .provider)
  | cons candidate rest ih =>
      obtain ⟨providerId, modelId⟩ := candidate
      unfold attempts Cut
      rw [Co.play_get_bind]
      by_cases late : started + run.binding.systemConfig.routing.maxTotalLatency < world.clock
      · rw [if_pos late, if_pos late]
        cases pipeline.deadlineDetails run position with
        | none => exact ⟨fun _ => rfl, fun reported => absurd rfl reported⟩
        | some details => exact ⟨(fun quiet => by cases quiet), fun _ => failed i world details _⟩
      · rw [if_neg late, if_neg late]
        cases providerFromBinding run.binding providerId with
        | none => exact ih i world (position + 1) last
        | some provider =>
            dsimp only
            cases skips : (!provider.enabled ||
                !pipeline.revalidates world.registry world.catalog providerId modelId) with
            | true => exact ih i world (position + 1) last
            | false =>
                rw [if_neg Bool.false_ne_true, if_neg Bool.false_ne_true, play_callAdapter_bind]
                generalize answerIn env i world _ started = called
                cases called.outside.adapter _ with
                | ok raw =>
                    refine ⟨False.elim, fun _ => ⟨_, emitted_complete env (i + 1) called pipeline run
                      decision started position providerId modelId raw, completed_closes, rfl⟩⟩
                | error failure =>
                    dsimp only
                    cases pipeline.continues failure with
                    | true => exact ih (i + 1) called (position + 1) (some failure)
                    | false =>
                        rw [if_neg Bool.false_ne_true, if_neg Bool.false_ne_true]
                        cases pipeline.stopDetails run providerId modelId failure with
                        | none => exact ⟨fun _ => rfl, fun reported => absurd rfl reported⟩
                        | some details => exact ⟨(fun quiet => by cases quiet), fun _ => failed (i + 1) called details failure⟩

end

/-! ### Whole calls -/

section

variable [LinearOrder F] [Add F] [Sub F] [Mul F] [Div F] [IntCast F] (hash : List Char → String)

theorem emitted_route (routing : RoutingPolicyConfig F) (request : InferenceRequest)
    (system : ProviderSystemConfig F) :
    emitted ((route hash routing request system policyEnginePort none none).play env i
      world).points = [] := by
  let claims : Record F → Point → World F → Prop := fun _ _ _ => True
  have free (h : Record F) (question : PolicyQuestion) (s : World F) :
      claims h (.evaluate question) s := trivial
  have onward : Onward fun h : Record F => emitted h = [] := by
    intro h question s s' none
    rw [emitted_append, none]
    rfl
  have kept := keeps_route free onward hash routing request system none [] world
    ⟨recent_start world, rfl, rfl⟩
  cases outcome : ((route hash routing request system policyEnginePort none none).play env i
      world).outcome with
  | ok decision => exact (kept.value_play env i outcome).2.1
  | error failure => exact kept.error_play env i outcome

omit [LinearOrder F] [Add F] [Sub F] [Mul F] [Div F] [IntCast F] in
theorem emitted_recordFailure {α : Type} (finalize : Bool) (failure : Failure) :
    emitted ((recordFailure finalize failure : Inferring F α).play env i world).points = [] := by
  cases finalize with
  | false => rfl
  | true =>
      unfold recordFailure
      rw [if_pos rfl, Co.play_await_bind, Take.points_after, Co.play_get_bind]
      cases (env i world).outside.idempotencyUpdate with
      | none => rfl
      | some other => rfl

omit [LinearOrder F] [Add F] [Sub F] [Mul F] [Div F] [IntCast F] in
theorem emitted_recorded {α : Type} (m : Inferring F α) (finalize : Bool) :
    emitted ((m.tryCatch (recordFailure finalize)).play env i world).points =
      emitted (m.play env i world).points := by
  rw [Co.play_tryCatch]
  cases (m.play env i world).outcome with
  | ok a => rfl
  | error failure =>
      rw [Take.points_after, emitted_append, emitted_recordFailure, List.append_nil]

variable (pipeline : Pipeline F)

def Run.startEvent (run : Run F) : AuditEvent :=
  run.event .inferenceStarted pipeline.action (pipeline.startedDetails run)

variable {run : Run F}

theorem emitted_execute
    (accepted : (env i world).outside.emit (run.startEvent pipeline) = none) :
    emitted ((execute hash pipeline run).play env i world).points =
      run.startEvent pipeline :: emitted
        ((do
          let decision ← Co.tryCatch
            (route hash run.binding.systemConfig.routing run.request run.binding.systemConfig
              policyEnginePort none none)
            fun failure => do
              emitAudit .inferenceFailed run pipeline.action
                (pipeline.routeFailedDetails run failure)
              Co.raise failure
          attempts pipeline run decision (env i world).clock 0 decision.chain none :
            Inferring F InferenceResponse).play env (i + 1) (env i world)).points := by
  have start : run.startEvent pipeline =
      { eventType := .inferenceStarted, actor := run.request.envelope.actor
        resourceId := run.inferenceId, action := pipeline.action
        traceId := run.request.envelope.traceId, details := pipeline.startedDetails run } := rfl
  rw [start] at accepted ⊢
  unfold execute emitAudit
  rw [points_emit_bind, accepted]
  rfl

theorem emitted_execute_failed
    (accepted : (env i world).outside.emit (run.startEvent pipeline) = none) {failure : Failure}
    (refused : ((route hash run.binding.systemConfig.routing run.request run.binding.systemConfig
      policyEnginePort none none).play env (i + 1) (env i world)).outcome = .error failure) :
    emitted ((execute hash pipeline run).play env i world).points =
      [run.startEvent pipeline,
        run.event .inferenceFailed pipeline.action (pipeline.routeFailedDetails run failure)] := by
  rw [emitted_execute env i world hash pipeline accepted, Co.play_bind, Co.play_tryCatch, refused]
  dsimp only [Take.outcome_after]
  obtain ⟨other, failed⟩ := outcome_fail (α := RoutingDecision) env _ _ run .inferenceFailed
    pipeline.action (pipeline.routeFailedDetails run failure) failure
  rw [failed]
  dsimp only [Take.points_after]
  rw [emitted_append, emitted_route, emitted_fail]
  rfl

theorem emitted_execute_routed
    (accepted : (env i world).outside.emit (run.startEvent pipeline) = none)
    {routed : Take (World F) Failure Point RoutingDecision} {decision : RoutingDecision}
    (routes : (route hash run.binding.systemConfig.routing run.request run.binding.systemConfig
      policyEnginePort none none).play env (i + 1) (env i world) = routed)
    (decided : routed.outcome = .ok decision) :
    emitted ((execute hash pipeline run).play env i world).points =
      run.startEvent pipeline :: emitted ((attempts pipeline run decision (env i world).clock 0
        decision.chain none).play env routed.next routed.state).points := by
  subst routes
  rw [emitted_execute env i world hash pipeline accepted, Co.play_bind,
    Co.play_tryCatch_ok _ _ _ decided, decided]
  dsimp only [Take.points_after]
  rw [emitted_append, emitted_route]
  rfl

theorem started_of_points (finalize : Bool) :
    (.emit (run.startEvent pipeline), world, env i world) ∈
      (((execute hash pipeline run).tryCatch (recordFailure finalize)).play env i world).points := by
  have own : (Point.emit (run.startEvent pipeline), world, env i world) ∈
      ((execute hash pipeline run).play env i world).points := by
    unfold execute emitAudit
    rw [points_emit_bind]
    exact List.mem_cons_self
  rw [Co.play_tryCatch]
  cases ((execute hash pipeline run).play env i world).outcome with
  | ok response => exact own
  | error failure => exact List.mem_append_left _ own

omit [LinearOrder F] [Add F] [Sub F] [Mul F] [Div F] [IntCast F] in
theorem emitted_idempotencyBeginFor (request : InferenceRequest) :
    emitted ((idempotencyBeginFor request : Inferring F _).play env i world).points = [] := by
  unfold idempotencyBeginFor
  cases explicit request.envelope.idempotencyKey with
  | none => rfl
  | some key =>
      rw [Co.play_await_bind, Co.play_get_bind]
      cases (env i world).outside.idempotencyBegin with
      | ok begun => rfl
      | error failure => rfl

omit [LinearOrder F] [Add F] [Sub F] [Mul F] [Div F] [IntCast F] in
theorem closed_cons_iff {events : List AuditEvent} {cut : Prop} (ends : Ends run events cut) :
    Closed (run.startEvent pipeline :: events) ↔ ¬ cut := by
  constructor
  · intro closed isCut
    rw [ends.open_ isCut] at closed
    have starts : (run.startEvent pipeline).eventType.closings ≠ [] := List.cons_ne_nil _ _
    exact not_closed_singleton starts closed
  · intro uncut
    obtain ⟨event, rfl, closes, own⟩ := ends.closed uncut
    exact closed_pair (closedBy_of closes own)

omit [LinearOrder F] [Add F] [Sub F] [Mul F] [Div F] [IntCast F] in
theorem play_capture_bind {α : Type} (f : ExecutionBinding F → Inferring F α) :
    (capture >>= f).play env i world =
      match world.loader with
      | none =>
          { points := [], next := i, state := world
            outcome := .error
              { errorType := "RuntimeError"
                message := "ProviderConfigLoader: no successful load yet" } }
      | some (systemConfig, version) =>
          (f { systemConfig, systemConfigVersion := toString version
               catalogSnapshotVersion := world.catalog.snapshotVersion }).play env i world := by
  rw [Co.play_bind]
  unfold capture
  rw [Co.play_get_bind]
  cases world.loader with
  | none => rfl
  | some loaded => rfl

def routeAfter {α : Type} (event : AuditEvent) (run : Run F) (f : Time → RoutingDecision → α) :
    Inferring F α := do
  emit event
  let world ← Co.get
  let decision ← route hash run.binding.systemConfig.routing run.request run.binding.systemConfig
    policyEnginePort none none
  return f world.clock decision

theorem play_routeAfter {α : Type} {event : AuditEvent} (f : Time → RoutingDecision → α)
    (accepted : (env i world).outside.emit event = none)
    {routed : Take (World F) Failure Point RoutingDecision}
    (routes : (route hash run.binding.systemConfig.routing run.request run.binding.systemConfig
      policyEnginePort none none).play env (i + 1) (env i world) = routed) :
    (routeAfter hash event run f).play env i world =
      Take.after [(.emit event, world, env i world)]
        { routed with outcome := routed.outcome.map (f (env i world).clock) } := by
  subst routes
  unfold routeAfter
  rw [play_emit_bind, accepted]
  dsimp only
  rw [Co.play_get_bind, Co.play_bind]
  generalize (route hash run.binding.systemConfig.routing run.request run.binding.systemConfig
    policyEnginePort none none).play env (i + 1) (env i world) = routed
  obtain ⟨points, next, state, outcome⟩ := routed
  cases outcome with
  | ok decision =>
      dsimp only
      rw [Co.play_pure]
      unfold Take.after
      rw [List.append_nil]
      rfl
  | error failure => rfl

/-- `infer` up to the attempts, without its handlers; nothing for a response that is replayed. -/
def routing (request : InferenceRequest) :
    Inferring F (Option (Run F × Time × RoutingDecision)) := do
  let binding ← capture
  let (inferenceId, finalize, replay) ← idempotencyBeginFor request
  match replay with
  | some _ => return none
  | none =>
      let run : Run F := { request := request.traced inferenceId, binding, inferenceId, finalize }
      routeAfter hash (run.startEvent pipeline) run fun started decision =>
        some (run, started, decision)

theorem closed_execute_iff {routing : Inferring F (Option (Run F × Time × RoutingDecision))}
    (routes : routing = routeAfter hash (run.startEvent pipeline) run fun started decision =>
      some (run, started, decision))
    (accepted : (env i world).outside.emit (run.startEvent pipeline) = none) :
    Closed (emitted ((execute hash pipeline run).play env i world).points) ↔
      ∀ run' started decision,
        (routing.play env i world).outcome = .ok (some (run', started, decision)) →
          ¬ Cut env pipeline run' started (routing.play env i world).next 0
            (routing.play env i world).state decision.chain := by
  subst routes
  generalize answers : (route hash run.binding.systemConfig.routing run.request
    run.binding.systemConfig policyEnginePort none none).play env (i + 1) (env i world) = routed
  rw [play_routeAfter env i world hash _ accepted answers]
  dsimp only [Take.outcome_after, Take.next_after, Take.state_after]
  cases outcome : routed.outcome with
  | error failure =>
      rw [emitted_execute_failed env i world hash pipeline accepted (answers ▸ outcome)]
      refine iff_of_true (closed_pair (closedBy_of failed_closes rfl)) ?_
      intro _ _ _ same
      cases same
  | ok decision =>
      rw [emitted_execute_routed env i world hash pipeline accepted answers outcome,
        closed_cons_iff pipeline (ends_attempts env routed.next routed.state pipeline run _ decision
          decision.chain 0 none)]
      constructor
      · intro uncut run' started decision' same
        cases same
        exact uncut
      · exact fun all => all run _ decision rfl

theorem closed_infer_iff (request : InferenceRequest)
    (accepted : Accepted ((infer hash pipeline request).play env i world).points) :
    Closed (emitted ((infer hash pipeline request).play env i world).points) ↔
      ∀ run started decision,
        ((routing hash pipeline request).play env i world).outcome =
            .ok (some (run, started, decision)) →
          ¬ Cut env pipeline run started ((routing hash pipeline request).play env i world).next 0
            ((routing hash pipeline request).play env i world).state decision.chain := by
  unfold infer routing at *
  rw [play_capture_bind] at accepted ⊢
  rw [play_capture_bind]
  cases loads : world.loader with
  | none =>
      refine iff_of_true closed_nil ?_
      intro _ _ _ same
      cases same
  | some loaded =>
      obtain ⟨systemConfig, version⟩ := loaded
      rw [loads] at accepted
      dsimp only at accepted ⊢
      rw [Co.play_bind] at accepted ⊢
      rw [Co.play_bind]
      have quiet := emitted_idempotencyBeginFor env i world request
      generalize (idempotencyBeginFor request).play env i world = begun at accepted quiet ⊢
      cases begins : begun.outcome with
      | error failure =>
          dsimp only
          rw [quiet]
          refine iff_of_true closed_nil ?_
          intro _ _ _ same
          cases same
      | ok identity =>
          obtain ⟨inferenceId, finalize, replay⟩ := identity
          rw [begins] at accepted
          cases replay with
          | some response =>
              dsimp only [Take.points_after]
              rw [emitted_append, quiet]
              refine iff_of_true closed_nil ?_
              intro _ _ _ same
              cases same
          | none =>
              dsimp only at accepted ⊢
              dsimp only [Take.points_after, Take.outcome_after, Take.next_after, Take.state_after]
              rw [emitted_append, quiet, List.nil_append, emitted_recorded]
              apply closed_execute_iff env begun.next begun.state hash pipeline rfl
              apply Option.isNone_iff_eq_none.mp
              exact accepted (.emit _, begun.state, env begun.next begun.state)
                (List.mem_append_right begun.points
                  (started_of_points env begun.next begun.state hash pipeline finalize))

/-! ### Streams -/

def Run.streamEvent (run : Run F) : AuditEvent :=
  run.event .inferenceStreamStarted "chat_stream"
    [("inference_id", jsonText run.inferenceId),
     ("system_config_version", jsonText run.binding.systemConfigVersion),
     ("catalog_snapshot_version", jsonText run.binding.catalogSnapshotVersion),
     ("status", jsonText "executing")]

def streamDecided (run : Run F) (decision : RoutingDecision) (routedAt : Time) : Inferring F Unit :=
  match providerFromBinding run.binding decision.selectedProviderId with
  | none =>
      emitAudit .inferenceStreamFailed run "chat_stream"
        [("inference_id", jsonText run.inferenceId), ("error", jsonText "no_provider")]
  | some provider => do
      let call : AdapterCall :=
        { provider, streaming := true
          request := run.request.attempt decision.selectedProviderId decision.selectedModelId }
      let _ ← callAdapter call routedAt
      let world ← Co.get
      yieldAll (world.outside.stream call).1
      match (world.outside.stream call).2 with
      | some failure =>
          emitAudit .inferenceStreamFailed run "chat_stream"
            [("inference_id", jsonText run.inferenceId), ("error", jsonText failure.message)]
          Co.raise failure
      | none =>
          emitAudit .inferenceStreamCompleted run "chat_stream"
            [("inference_id", jsonText run.inferenceId),
             ("provider_id", jsonText decision.selectedProviderId),
             ("model_id", jsonText decision.selectedModelId),
             ("routing_decision_id", jsonText decision.id),
             ("system_config_version", jsonText run.binding.systemConfigVersion)]

/-- `stream_chat` up to its decision. -/
def streamRouting (request : ChatInferenceRequest) :
    Inferring F (Run F × Time × RoutingDecision) := do
  let binding ← capture
  let inferenceId ← newUlid
  let run : Run F :=
    { request := (InferenceRequest.chat request).traced inferenceId, binding, inferenceId
      finalize := false }
  routeAfter hash run.streamEvent run fun routedAt decision => (run, routedAt, decision)

theorem streamChat_eq (request : ChatInferenceRequest) :
    streamChat hash request =
      (streamRouting hash request : Inferring F _) >>= fun routed =>
        streamDecided routed.1 routed.2.2 routed.2.1 := by
  unfold streamRouting routeAfter
  simp only [Co.bind_bind]
  rfl

omit [LinearOrder F] [Add F] [Sub F] [Mul F] [Div F] [IntCast F] in
theorem emitted_yieldAll_bind {α : Type} (texts : List String) (f : Unit → Inferring F α) :
    ∃ i' world', emitted ((yieldAll texts >>= f).play env i world).points =
      emitted ((f ()).play env i' world').points := by
  induction texts generalizing i world with
  | nil => exact ⟨i, world, rfl⟩
  | cons text rest ih =>
      obtain ⟨i', world', same⟩ := ih (i + 1) (env i world)
      refine ⟨i', world', ?_⟩
      unfold yieldAll
      rw [Co.bind_bind, Co.play_await_bind, Take.points_after, emitted_append, same]
      rfl

theorem closes_streamDecided (run : Run F) (decision : RoutingDecision) (routedAt : Time) :
    ∃ event, emitted ((streamDecided run decision routedAt).play env i world).points = [event] ∧
      event.eventType ∈ AuditEventType.inferenceStreamStarted.closings ∧
        event.resourceId = run.inferenceId := by
  unfold streamDecided
  cases providerFromBinding run.binding decision.selectedProviderId with
  | none => exact ⟨_, emitted_emit env i world _, streamFailed_closes, rfl⟩
  | some provider =>
      dsimp only
      rw [play_callAdapter_bind, Co.play_get_bind]
      generalize answerIn env i world _ routedAt = streamed
      obtain ⟨i', world', yielded⟩ := emitted_yieldAll_bind env (i + 1) streamed
        (streamed.outside.stream _).1 _
      rw [yielded]
      cases (streamed.outside.stream _).2 with
      | none => exact ⟨_, emitted_emit env i' world' _, streamCompleted_closes, rfl⟩
      | some failure =>
          exact ⟨_, emitted_fail env i' world' run _ _ _ failure, streamFailed_closes, rfl⟩

omit [LinearOrder F] [Add F] [Sub F] [Mul F] [Div F] [IntCast F] in
theorem play_newUlid_bind {α : Type} (f : String → Inferring F α) :
    (newUlid >>= f).play env i world =
      (f (world.ulids world.drawn)).play env i { world with drawn := world.drawn + 1 } := rfl

theorem announced {α β : Type} (event : AuditEvent) (run : Run F)
    (f : Time → RoutingDecision → α) (g : α → Inferring F β) :
    (.emit event, world, env i world) ∈
      ((routeAfter hash event run f >>= g).play env i world).points := by
  unfold routeAfter
  rw [Co.bind_bind, points_emit_bind]
  exact List.mem_cons_self

theorem closed_routed_iff (run : Run F)
    (accepted : (env i world).outside.emit run.streamEvent = none)
    {routing : Inferring F (Run F × Time × RoutingDecision)}
    (routes : routing = routeAfter hash run.streamEvent run fun routedAt decision =>
      (run, routedAt, decision)) :
    Closed (emitted ((routing >>= fun routed =>
        streamDecided routed.1 routed.2.2 routed.2.1).play env i world).points) ↔
      ∃ routed, (routing.play env i world).outcome = .ok routed := by
  subst routes
  have quiet := emitted_route env (i + 1) (env i world) hash run.binding.systemConfig.routing
    run.request run.binding.systemConfig
  generalize answers : (route hash run.binding.systemConfig.routing run.request
    run.binding.systemConfig policyEnginePort none none).play env (i + 1) (env i world) = routed
      at quiet
  rw [Co.play_bind, play_routeAfter env i world hash _ accepted answers]
  have started : emitted ((.emit run.streamEvent, world, env i world) :: routed.points) =
      [run.streamEvent] := by
    show run.streamEvent :: emitted routed.points = _
    rw [quiet]
  dsimp only [Take.outcome_after, Take.points_after]
  cases routed.outcome with
  | error failure =>
      refine iff_of_false ?_ ?_
      · have starts : run.streamEvent.eventType.closings ≠ [] := List.cons_ne_nil _ _
        show ¬ Closed (emitted ((.emit run.streamEvent, world, env i world) :: routed.points))
        rw [started]
        exact not_closed_singleton starts
      · intro ⟨_, same⟩
        cases same
  | ok decision =>
      obtain ⟨event, emits, closes, own⟩ := closes_streamDecided env routed.next routed.state run
        decision (env i world).clock
      refine iff_of_true ?_ ⟨_, rfl⟩
      show Closed (emitted (((.emit run.streamEvent, world, env i world) :: routed.points) ++ _))
      rw [emitted_append, started]
      show Closed ([run.streamEvent] ++ emitted ((streamDecided run decision
        (env i world).clock).play env routed.next routed.state).points)
      rw [emits]
      exact closed_pair (closedBy_of closes own)

theorem closed_stream_iff (request : ChatInferenceRequest)
    (accepted : Accepted ((streamChat hash request).play env i world).points) :
    Closed (emitted ((streamChat hash request).play env i world).points) ↔
      world.loader = none ∨
        ∃ routed, ((streamRouting hash request).play env i world).outcome = .ok routed := by
  rw [streamChat_eq] at accepted ⊢
  unfold streamRouting at *
  rw [Co.bind_bind, play_capture_bind] at accepted ⊢
  rw [play_capture_bind]
  cases loads : world.loader with
  | none => exact iff_of_true closed_nil (.inl rfl)
  | some loaded =>
      obtain ⟨systemConfig, version⟩ := loaded
      rw [loads] at accepted
      dsimp only at accepted ⊢
      rw [Co.bind_bind, play_newUlid_bind] at accepted ⊢
      rw [play_newUlid_bind, or_iff_right (Option.some_ne_none _)]
      apply closed_routed_iff env i _ hash _ _ rfl
      apply Option.isNone_iff_eq_none.mp
      exact accepted (.emit _, { world with drawn := world.drawn + 1 }, env i _)
        (announced env i _ hash _ _ _ _)

/-! ### Calls -/

theorem not_cut (deadlines : ∀ run position, pipeline.deadlineDetails run position ≠ none)
    (stops : ∀ run providerId modelId failure,
      pipeline.stopDetails run providerId modelId failure ≠ none) (started : Time) (position : Nat)
    (chain : List (String × String)) : ¬ Cut env pipeline run started i position world chain := by
  induction chain generalizing i position world with
  | nil => exact not_false
  | cons candidate rest ih =>
      obtain ⟨providerId, modelId⟩ := candidate
      unfold Cut
      by_cases late : started + run.binding.systemConfig.routing.maxTotalLatency < world.clock
      · rw [if_pos late]
        exact deadlines run position
      · rw [if_neg late]
        cases providerFromBinding run.binding providerId with
        | none => exact ih i world (position + 1)
        | some provider =>
            dsimp only
            cases !provider.enabled ||
                !pipeline.revalidates world.registry world.catalog providerId modelId with
            | true => exact ih i world (position + 1)
            | false =>
                rw [if_neg Bool.false_ne_true]
                generalize answerIn env i world _ started = called
                cases called.outside.adapter _ with
                | ok raw => exact not_false
                | error failure =>
                    dsimp only
                    cases pipeline.continues failure with
                    | true => exact ih (i + 1) called (position + 1)
                    | false => exact stops run providerId modelId failure

/-- The call takes none of the exits that emit nothing: of an embedding, those of a cut chain; of a
stream, a routing that fails. -/
def InferenceCall.Reported : InferenceCall → Prop
  | .chat _ => True
  | .embedding request =>
      ∀ run started decision,
        ((routing hash embeddingPipeline (.embedding request)).play env i world).outcome =
            .ok (some (run, started, decision)) →
          ¬ Cut env embeddingPipeline run started
            ((routing hash embeddingPipeline (.embedding request)).play env i world).next 0
            ((routing hash embeddingPipeline (.embedding request)).play env i world).state
            decision.chain
  | .stream request =>
      world.loader = none ∨
        ∃ routed, ((streamRouting hash request).play env i world).outcome = .ok routed

theorem audit_closed_iff (call : InferenceCall)
    (accepted : Accepted ((call.run hash).play env i world).points) :
    Closed (emitted ((call.run hash).play env i world).points) ↔ call.Reported env i world hash := by
  cases call with
  | chat request =>
      unfold InferenceCall.run at *
      rw [Co.points_discard] at accepted ⊢
      refine iff_of_true ?_ trivial
      apply (closed_infer_iff env i world hash chatPipeline (.chat request) accepted).mpr
      intro run started decision _
      exact not_cut env _ _ chatPipeline (fun _ _ => Option.some_ne_none _)
        (fun _ _ _ _ => Option.some_ne_none _) started 0 decision.chain
  | embedding request =>
      unfold InferenceCall.run at *
      rw [Co.points_discard] at accepted ⊢
      exact closed_infer_iff env i world hash embeddingPipeline (.embedding request) accepted
  | stream request => exact closed_stream_iff env i world hash request accepted

end

end

/-- The only candidate of a chat fails, and the chat is closed. -/
theorem exhausted_chat_closed :
    Closed (emitted (((InferenceCall.chat annsChat).run String.ofList).play (fun _ world => world) 0
      (ruledWorld "ALLOW")).points) := by
  have accepted : Accepted (((InferenceCall.chat annsChat).run String.ofList).play
      (fun _ world => world) 0 (ruledWorld "ALLOW")).points := by
    unfold Accepted
    decide +kernel
  exact (audit_closed_iff _ 0 _ String.ofList (.chat annsChat) accepted).mpr trivial

/-- A stream that no policy rule allows starts, and nothing follows. -/
theorem denied_stream_open : ¬ ∀ call : InferenceCall,
    Accepted ((call.run String.ofList).play (fun _ world => world) 0 (ruledWorld "DENY")).points →
      Closed (emitted
        ((call.run String.ofList).play (fun _ world => world) 0 (ruledWorld "DENY")).points) := by
  intro closes
  have accepted : Accepted ((streamChat String.ofList annsChat).play (fun _ world => world) 0
      (ruledWorld "DENY")).points := by
    unfold Accepted
    decide +kernel
  have refused : ((streamRouting String.ofList annsChat).play (fun _ world => world) 0
      (ruledWorld "DENY")).outcome.isOk = false := by decide +kernel
  rcases (closed_stream_iff _ 0 _ String.ofList annsChat accepted).mp
      (closes (.stream annsChat) accepted) with unloaded | ⟨routed, done⟩
  · cases unloaded
  · rw [done] at refused
    cases refused

end SyndicateClaw.Inference
