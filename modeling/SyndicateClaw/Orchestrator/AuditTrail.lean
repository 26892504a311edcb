import SyndicateClaw.Orchestrator.RunEndings

/-! The lifecycle events of a call of `execute`.

A call reports its start, and its end when it completes the run or passes a bound.
A missing node, a missing handler and a handler that fails on its last attempt
leave the run FAILED without a report. -/

namespace SyndicateClaw.Orchestrator

open Async

/-- The same engine with the handlers' own effects left out, so that every event is
one of the engine. -/
def WorkflowEngine.muted (engine : WorkflowEngine) : WorkflowEngine :=
  { engine with
    handlers := fun name => (engine.handlers name).map fun handler calls state context =>
      { handler calls state context with effects := [] } }

section muted

variable (engine : WorkflowEngine)

theorem muted_silent : engine.muted.Silent := by
  intro name handler present calls state context
  obtain ⟨loud, -, rfl⟩ := Option.map_eq_some_iff.mp present
  rfl

theorem runAttempts_muted (handler : NodeHandler) (runId : String) (node : NodeDefinition)
    (context : ExecutionContext) (retries attempt calls : Nat) (state : State) :
    runAttempts (fun calls state context => { handler calls state context with effects := [] })
        runId node context retries attempt calls state =
      { runAttempts handler runId node context retries attempt calls state with
        effects := [] } := by
  induction retries generalizing attempt calls state with
  | zero => rfl
  | succ retries ih =>
      rw [runAttempts, runAttempts]
      cases left : (handler calls state { context with attempt }).exit with
      | failed message =>
          simp only [runOnce, left, ih, HandlerRun.andThen]
          rfl
      | _ => simp only [runOnce, left]

theorem nodeRun_muted (handler : NodeHandler) (runId : String) (node : NodeDefinition)
    (context : ExecutionContext) (calls : Nat) (state : State) :
    nodeRun (fun calls state context => { handler calls state context with effects := [] })
        runId node context calls state =
      { nodeRun handler runId node context calls state with effects := [] } :=
  runAttempts_muted handler runId node _ _ 1 calls state

variable (workflow : WorkflowDefinition) (context : ExecutionContext) (now : Instant)

theorem iteration_muted (q : Position) :
    q.iteration engine.muted workflow context now = q.iteration engine workflow context now := by
  have entered : q.enter engine.muted workflow context now =
      q.enter engine workflow context now := by
    unfold Position.enter
    cases workflow.node? q.current with
    | none => rfl
    | some node =>
        cases present : engine.handlers node.handler with
        | none => simp [WorkflowEngine.muted, present]
        | some handler =>
            simp only [WorkflowEngine.muted, present, Option.map_some, Position.visit,
              nodeRun_muted]
            rfl
  unfold Position.iteration
  rw [entered]
  rfl

end muted

section

variable (engine : WorkflowEngine) (ref : Nat) (context : ExecutionContext)
  (workflow : WorkflowDefinition) (w : World)

/-- The lifecycle events the engine emits in a call of `execute`: what the call adds to
the events before it. -/
def emittedBy : List (AuditEventType × Value) :=
  let after := ((execute engine.muted ref context workflow).settle w).1
  (lifecycles after.effects).drop (lifecycles w.effects).length

/-- The start of a run is reported once, and its end once if the run is COMPLETED or
FAILED and never otherwise. -/
def Audited (runId : String) (status : WorkflowRunStatus)
    (events : List (AuditEventType × Value)) : Prop :=
  events.count (.workflowStarted, .str runId) = 1 ∧
    events.count (.workflowCompleted, .str runId) = (if status = .completed then 1 else 0) ∧
    events.count (.workflowFailed, .str runId) = (if status = .failed then 1 else 0)

def AuditsEnding : Prop :=
  Audited (w.objects ref).id
    (((execute engine ref context workflow).settle w).1.objects ref).status
    (emittedBy engine ref context workflow w)

/-- The run fails here within the bounds: the node or its handler is missing, or the
handler fails on its last attempt. -/
def Position.FailsUnreported (q : Position) : Prop :=
  q.current ∉ q.visited ∧ q.visited.length < engine.maxSteps ∧
    match workflow.node? q.current with
    | none => True
    | some node =>
        match engine.handlers node.handler with
        | none => True
        | some handler => ∃ message,
            (nodeRun handler q.run.id node { context with nodeId := q.current } q.calls
              q.run.state).exit = .failed message

variable {engine context workflow}

theorem visit_failed_iff {now : Instant} {q : Position} {node : NodeDefinition}
    {handler : NodeHandler} (runId : String) (running : q.run.status = .running) :
    (∃ message, (nodeRun handler q.run.id node { context with nodeId := q.current } q.calls
        q.run.state).exit = .failed message) ↔
      ∃ stop, q.visit engine workflow context now node handler = .inl stop ∧
        stop.run.status = .failed ∧ stop.ending.reports runId = [] := by
  unfold Position.visit
  generalize nodeRun handler q.run.id node { context with nodeId := q.current } q.calls
    q.run.state = r
  cases left : r.exit with
  | returned result =>
      have still := (checkpointRun_record engine result
        (closeRun node.id (.returned result) (r.written q.run))).2.2
      rw [show (closeRun node.id (.returned result) (r.written q.run)).status = .running from
        running] at still
      simp only [left]
      split_ifs
      · simp
      · split <;> simp [still]
  | waitForApproval exc => simp [left, concludeRun]
  | escaped message => simp [left, HandlerRun.written, running]
  | _ => simp [left, closeRun, concludeRun, Ending.reports]

theorem failsUnreported_iff (now : Instant) {q : Position} (runId : String)
    (running : q.run.status = .running) :
    q.FailsUnreported engine context workflow ↔
      ∃ stop, q.iteration engine workflow context now = .inl stop ∧
        stop.run.status = .failed ∧ stop.ending.reports runId = [] := by
  unfold Position.FailsUnreported
  simp only [Position.iteration]
  split_ifs with seen full
  · simp [seen, Ending.reports]
  · simp [Ending.reports]
    omega
  · have within : q.visited.length < engine.maxSteps := by omega
    unfold Position.enter
    cases workflow.node? q.current with
    | none => simp [seen, within, Ending.reports]
    | some node =>
        cases present : engine.handlers node.handler with
        | none => simp [present, seen, within, Ending.reports]
        | some handler =>
            simp only [present]
            rw [← visit_failed_iff runId running]
            simp [seen, within]

theorem Stop.Fits.audited_iff {stop : Stop} (fits : stop.Fits) (runId : String) :
    Audited runId stop.run.status ((.workflowStarted, .str runId) :: stop.ending.reports runId) ↔
      ¬ (stop.run.status = .failed ∧ stop.ending.reports runId = []) := by
  obtain ⟨ending, run⟩ := stop
  cases ending with
  | closed =>
      simp only [Stop.Fits, List.mem_cons, List.not_mem_nil, or_false] at fits
      rcases fits with status | status | status <;> simp [Audited, Ending.reports, status]
  | _ =>
      have status : run.status = _ := fits
      simp [Audited, Ending.reports, status]

variable {ref w}

theorem emittedBy_stop {q : Position} {stop : Stop} {startNode : NodeDefinition}
    (starts : findStartNode workflow = some startNode)
    (reached : (w.entry ref startNode).Reaches engine workflow context w.now q)
    (stops : q.iteration engine workflow context w.now = .inl stop) :
    emittedBy engine ref context workflow w =
      (.workflowStarted, .str (w.objects ref).id) :: stop.ending.reports (w.objects ref).id := by
  let before := lifecycles w.effects ++ [(.workflowStarted, .str (w.objects ref).id)]
  obtain ⟨w₁, q₁, stop₁, w', outcome, reached₁, passed, -, stops₁, stopped, final, -⟩ :=
    execute_walks engine.muted workflow context ref (fun w₁ _ => lifecycles w₁.effects = before) w
      starts
      (by
        intro w₁ w₂ q q' passed _ _ moved
        exact (moved.silent (muted_silent engine)).trans passed)
      (by
        rw [World.begin, lifecycles_append]
        rfl)
  simp only [Position.Reaches, iteration_muted] at reached₁ stops₁
  obtain rfl := Position.Reaches.unique engine workflow context w.now reached reached₁ stops stops₁
  obtain rfl := Sum.inl.inj (stops.symm.trans stops₁)
  rw [emittedBy, final, stopped.silent (muted_silent engine), passed, List.append_assoc,
    List.drop_left]
  rfl

theorem emittedBy_startless (startless : findStartNode workflow = none) :
    emittedBy engine ref context workflow w =
      [(.workflowStarted, .str (w.objects ref).id)] := by
  rw [emittedBy, settle_execute, startless, World.begin, lifecycles_append, List.drop_left]
  rfl

variable (engine ref context workflow w)

/-- A call reports its ending exactly when it comes to no position where the run fails
without a report. -/
theorem auditsEnding_iff :
    AuditsEnding engine ref context workflow w ↔
      ∀ startNode, findStartNode workflow = some startNode →
        ∀ q, (w.entry ref startNode).Reaches engine workflow context w.now q →
          ¬ q.FailsUnreported engine context workflow := by
  cases starts : findStartNode workflow with
  | none =>
      unfold AuditsEnding
      rw [emittedBy_startless starts, settle_execute, starts]
      simp [Audited, World.begin, World.startedRun]
  | some startNode =>
      obtain ⟨w₁, q, stop, w', outcome, reached, -, running, stops, stopped, final, -⟩ :=
        execute_walks engine workflow context ref (fun _ _ => True) w starts
          (fun _ _ _ _ => trivial) trivial
      have fits := (iteration_fits running stops).1
      have here : q.FailsUnreported engine context workflow ↔
          stop.run.status = .failed ∧ stop.ending.reports (w.objects ref).id = [] := by
        rw [failsUnreported_iff w.now (w.objects ref).id running]
        simp [stops]
      have reported : AuditsEnding engine ref context workflow w ↔
          ¬ q.FailsUnreported engine context workflow := by
        unfold AuditsEnding
        rw [emittedBy_stop starts reached stops, final, stopped.status, here]
        exact fits.audited_iff _
      rw [reported]
      constructor
      · intro clean other same q' reached' fails
        obtain rfl := Option.some.inj same
        obtain ⟨stop', stops', -⟩ :=
          (failsUnreported_iff w.now (w.objects ref).id (reached'.running rfl)).mp fails
        obtain rfl := reached.unique engine workflow context w.now reached' stops stops'
        exact clean fails
      · intro clean
        exact clean startNode rfl q reached

end

/-! ### A failing handler

A START node whose only attempt fails. -/

section failing

def failingHandler : NodeHandler := fun _ state _ =>
  { state, effects := [], exit := .failed "unreachable" }

theorem failed_node_not_reported :
    ¬ AuditsEnding (.plain (fun _ => some failingHandler) false) 0 plainContext loneStart
      newRun := by
  unfold AuditsEnding Audited
  decide +kernel

end failing

end SyndicateClaw.Orchestrator
