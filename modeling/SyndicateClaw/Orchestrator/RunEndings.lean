import SyndicateClaw.Orchestrator.Loop

/-! The status a call of `execute` leaves its run in.

A call leaves its run RUNNING when a node returns and nothing follows it, or when
an exception outside `Exception` passes through a handler. -/

namespace SyndicateClaw.Orchestrator

open Async

def settledStatuses : List WorkflowRunStatus :=
  [.completed, .failed, .paused, .cancelled, .waitingApproval, .waitingAgentResponse]

section

variable (engine : WorkflowEngine) (ref : Nat) (context : ExecutionContext)
  (workflow : WorkflowDefinition) (w : World)

/-- The call leaves no run RUNNING, and completes one only if the handler of an END
node has returned in it. -/
def SettlesRun : Prop :=
  let after := ((execute engine ref context workflow).settle w).1
  (after.objects ref).status ∈ settledStatuses ∧
    ((after.objects ref).status = .completed →
      ∃ node result, workflow.node? node.id = some node ∧ node.nodeType = .endNode ∧
        .exited (w.objects ref).id node.id (.returned result) ∈ after.trail.drop w.trail.length)

/-- The node at a position is executed, with this outcome of its attempts. -/
def Position.Executes (q : Position) (node : NodeDefinition) (r : HandlerRun) : Prop :=
  ∃ handler, q.current ∉ q.visited ∧ q.visited.length < engine.maxSteps ∧
    workflow.node? q.current = some node ∧ engine.handlers node.handler = some handler ∧
    r = nodeRun handler q.run.id node { context with nodeId := q.current } q.calls q.run.state

/-- The node returns without naming a successor, it is no END node, and none of its
edges applies to the state it leaves. -/
def Position.DeadEnd (q : Position) : Prop :=
  ∃ node r result, q.Executes engine context workflow node r ∧ r.exit = .returned result ∧
    node.nodeType ≠ .endNode ∧ result.nextNodeId = none ∧
    resolveNextNode node.id (closeRun node.id r.exit (r.written q.run)).state workflow.edges = none

/-- An exception outside `Exception` leaves the node's handler. -/
def Position.Escapes (q : Position) : Prop :=
  ∃ node r message, q.Executes engine context workflow node r ∧ r.exit = .escaped message

variable {engine context workflow} {now : Instant} {q : Position}

variable (now) in
theorem Position.Executes.iteration {node : NodeDefinition} {r : HandlerRun}
    (executes : q.Executes engine context workflow node r) :
    ∃ handler, q.iteration engine workflow context now =
        q.visit engine workflow context now node handler ∧
      nodeRun handler q.run.id node { context with nodeId := q.current } q.calls q.run.state = r := by
  obtain ⟨handler, fresh, room, found, present, rfl⟩ := executes
  refine ⟨handler, ?_, rfl⟩
  simp only [Position.iteration, if_neg fresh, if_neg (show ¬ engine.maxSteps < q.visited.length + 1
    by omega), Position.enter, found, present]

theorem iteration_executes {stop : Stop}
    (stops : q.iteration engine workflow context now = .inl stop)
    (kind : stop.ending ∈ [.closed, .waiting, .refused, .escaped, .completed, .stalled]) :
    ∃ node r handler, q.Executes engine context workflow node r ∧
      nodeRun handler q.run.id node { context with nodeId := q.current } q.calls q.run.state = r ∧
      q.visit engine workflow context now node handler = .inl stop := by
  simp only [Position.iteration] at stops
  split_ifs at stops with seen full
  · obtain rfl := Sum.inl.inj stops
    simp at kind
  · obtain rfl := Sum.inl.inj stops
    simp at kind
  · unfold Position.enter at stops
    split at stops
    · obtain rfl := Sum.inl.inj stops
      simp at kind
    · next node found =>
        split at stops
        · obtain rfl := Sum.inl.inj stops
          simp at kind
        · next handler present =>
            exact ⟨node, _, handler, ⟨handler, seen, by omega, found, present, rfl⟩, rfl, stops⟩

theorem deadEnd_iff :
    q.DeadEnd engine context workflow ↔
      ∃ run, q.iteration engine workflow context now = .inl ⟨.stalled, run⟩ := by
  constructor
  · rintro ⟨node, r, result, executes, left, other, unnamed, unmatched⟩
    obtain ⟨handler, iteration, ran⟩ := executes.iteration now
    have dead : successor workflow node result (checkpointRun engine result
        (closeRun node.id r.exit (r.written q.run))) = none := by
      rw [successor, unnamed, checkpointRun_state, unmatched]
      rfl
    rw [left] at dead
    simp only [iteration, Position.visit, ran, left, if_neg other, dead]
    exact ⟨_, rfl⟩
  · rintro ⟨run, stops⟩
    obtain ⟨node, r, handler, executes, ran, visits⟩ := iteration_executes stops (by simp)
    simp only [Position.visit, ran] at visits
    cases left : r.exit with
    | returned result =>
        simp only [left] at visits
        split_ifs at visits with last
        · simp at visits
        · split at visits
          · next dead =>
              rw [successor, checkpointRun_state, ← left, Option.or_eq_none_iff] at dead
              exact ⟨node, r, result, executes, left, last, dead.1, dead.2⟩
          · simp at visits
    | waitForApproval exc =>
        simp only [left] at visits
        split_ifs at visits <;> simp at visits
    | _ => simp [left] at visits

theorem escapes_iff :
    q.Escapes engine context workflow ↔
      ∃ run, q.iteration engine workflow context now = .inl ⟨.escaped, run⟩ := by
  constructor
  · rintro ⟨node, r, message, executes, left⟩
    obtain ⟨handler, iteration, ran⟩ := executes.iteration now
    simp only [iteration, Position.visit, ran, left]
    exact ⟨_, rfl⟩
  · rintro ⟨run, stops⟩
    obtain ⟨node, r, handler, executes, ran, visits⟩ := iteration_executes stops (by simp)
    simp only [Position.visit, ran] at visits
    cases left : r.exit with
    | returned result =>
        simp only [left] at visits
        split_ifs at visits with last
        · simp at visits
        · split at visits <;> simp at visits
    | waitForApproval exc =>
        simp only [left] at visits
        split_ifs at visits <;> simp at visits
    | escaped message => exact ⟨node, r, message, executes, left⟩
    | _ => simp [left] at visits

end

theorem Stop.Fits.settled {ending : Ending} {run : WorkflowRun} (fits : Stop.Fits ⟨ending, run⟩)
    (moving : ending ≠ .stalled) (held : ending ≠ .escaped) : run.status ∈ settledStatuses := by
  cases ending with
  | stalled => exact absurd rfl moving
  | escaped => exact absurd rfl held
  | closed =>
      simp only [Stop.Fits, List.mem_cons, List.not_mem_nil, or_false] at fits
      rcases fits with status | status | status <;> rw [status] <;> decide
  | _ => rw [show run.status = _ from fits]; decide

theorem Stop.Fits.completed {ending : Ending} {run : WorkflowRun} (fits : Stop.Fits ⟨ending, run⟩)
    (completed : run.status = .completed) : ending = .completed := by
  cases ending <;> simp_all [Stop.Fits]

/-- A call settles its run exactly when no position it comes to is a dead end and
no handler there lets an exception escape. -/
theorem settlesRun_iff (engine : WorkflowEngine) (ref : Nat) (context : ExecutionContext)
    (workflow : WorkflowDefinition) (w : World) {startNode : NodeDefinition}
    (starts : findStartNode workflow = some startNode) :
    SettlesRun engine ref context workflow w ↔
      ∀ q, (w.entry ref startNode).Reaches engine workflow context w.now q →
        ¬ q.DeadEnd engine context workflow ∧ ¬ q.Escapes engine context workflow := by
  obtain ⟨w₁, q, stop, w', outcome, reached, passed, running, stops, stopped, final, -⟩ :=
    execute_walks engine workflow context ref (fun w₁ _ => w.trail <+: w₁.trail) w starts
      (by
        rintro w₁ w₂ q q' before - - moved
        obtain ⟨calls, -, trail⟩ := moved.trail
        rw [trail, List.append_assoc]
        exact before.trans (List.prefix_append _ _))
      (List.prefix_refl _)
  obtain ⟨fits, -, -⟩ := iteration_fits running stops
  have only : ∀ {q'}, (w.entry ref startNode).Reaches engine workflow context w.now q' →
      ∀ {stop'}, q'.iteration engine workflow context w.now = .inl stop' → stop' = stop := by
    intro q' reached' stop' stops'
    obtain rfl := reached.unique engine workflow context w.now reached' stops stops'
    exact Sum.inl.inj (stops'.symm.trans stops)
  unfold SettlesRun
  simp only [final, stopped.status]
  constructor
  · rintro ⟨settled, -⟩ q' reached'
    have running_not : stop.run.status ≠ .running := by
      intro still
      rw [still] at settled
      simp [settledStatuses] at settled
    constructor
    · intro dead
      obtain ⟨run, stops'⟩ := deadEnd_iff.mp dead
      obtain rfl := only reached' stops'
      exact running_not fits
    · intro escapes
      obtain ⟨run, stops'⟩ := escapes_iff.mp escapes
      obtain rfl := only reached' stops'
      exact running_not fits
  · intro clean
    obtain ⟨alive, caught⟩ := clean q reached
    obtain ⟨ending, run⟩ := stop
    have moving : ending ≠ .stalled := by
      rintro rfl
      exact alive (deadEnd_iff.mpr ⟨run, stops⟩)
    have held : ending ≠ .escaped := by
      rintro rfl
      exact caught (escapes_iff.mpr ⟨run, stops⟩)
    refine ⟨fits.settled moving held, fun completed => ?_⟩
    obtain rfl := fits.completed completed
    obtain ⟨events, appended, -, exited⟩ := stopped.trail
    obtain ⟨node, result, found, last, member⟩ := exited rfl
    obtain ⟨before, passed⟩ := passed
    refine ⟨node, result, ?_, last, ?_⟩
    · rw [node?_id workflow found]
      exact found
    · rw [node?_id workflow found, appended, ← passed, List.append_assoc, List.drop_left]
      exact List.mem_append_right _ member

/-! ### A dead end

A START node without outgoing edges. -/

section deadEnd

def loneStart : WorkflowDefinition :=
  { id := "workflow", nodes := [.plain "start" .start "start"], edges := [] }

theorem settlesRun_loneStart :
    findStartNode loneStart = some (.plain "start" .start "start") ∧
      (SettlesRun (.plain (fun _ => some echoHandler) false) 0 plainContext loneStart newRun ↔
        ∀ q, (newRun.entry 0 (.plain "start" .start "start")).Reaches
            (.plain (fun _ => some echoHandler) false) loneStart plainContext 0 q →
          ¬ q.DeadEnd (.plain (fun _ => some echoHandler) false) plainContext loneStart ∧
            ¬ q.Escapes (.plain (fun _ => some echoHandler) false) plainContext loneStart) :=
  ⟨rfl, settlesRun_iff _ 0 plainContext loneStart newRun rfl⟩

theorem dead_end_stays_running :
    ¬ SettlesRun (.plain (fun _ => some echoHandler) false) 0 plainContext loneStart newRun := by
  rintro ⟨settled, -⟩
  revert settled
  decide +kernel

end deadEnd

/-! ### The row of the run

The row is written when a node is closed, at an approval boundary and at a bound
failure. Whatever happens to the run after the last of these stays in memory. -/

section

variable (engine : WorkflowEngine) (ref : Nat) (context : ExecutionContext)
  (workflow : WorkflowDefinition) (w : World)

/-- After the call the row has the status, the error and the state of the run. -/
def StoresRun : Prop :=
  let after := ((execute engine ref context workflow).settle w).1
  (after.db.runs (w.objects ref).id).map WorkflowRunRow.record = some (after.objects ref).record

/-- What the row says about the run before the node at a position is executed. -/
def Position.stored (row : Option WorkflowRunRow) (q : Position) :
    Option (WorkflowRunStatus × Option String × State) :=
  if q.visited = [] then row.map WorkflowRunRow.record else some q.run.record

/-- The call ends here with a change that it does not store: an END node completes
the run, or the run changes without a write and differs from what is stored. -/
def Position.LeavesUnstored (now : Instant) (row : Option WorkflowRunRow) (q : Position) : Prop :=
  ∃ stop, q.iteration engine workflow context now = .inl stop ∧
    (stop.ending = .completed ∨
      stop.ending ∈ [.nodeMissing, .handlerMissing, .refused, .escaped] ∧
        q.stored row ≠ some stop.run.record)

variable {engine ref context workflow w}

theorem World.Stopped.agrees_iff {now : Instant} {runId : String} {w' : World} {q : Position}
    {stop : Stop} {outcome : Except EngineError Unit} {row : Option WorkflowRunRow}
    (stopped : w.Stopped engine workflow ref runId w' q stop outcome)
    (session : engine.sessionFactory) (running : q.run.status = .running)
    (stops : q.iteration engine workflow context now = .inl stop)
    (before : (w.db.runs runId).map WorkflowRunRow.record = q.stored row) :
    (w'.db.runs runId).map WorkflowRunRow.record = some (w'.objects ref).record ↔
      ¬ q.LeavesUnstored engine context workflow now row := by
  have stored := stopped.stored session
  have fits := (iteration_fits running stops).1
  have unstored : q.LeavesUnstored engine context workflow now row ↔
      (stop.ending = .completed ∨
        stop.ending ∈ [.nodeMissing, .handlerMissing, .refused, .escaped] ∧
          q.stored row ≠ some stop.run.record) := by
    constructor
    · rintro ⟨stop', stops', kind⟩
      obtain rfl := Sum.inl.inj (stops.symm.trans stops')
      exact kind
    · intro kind
      exact ⟨stop, stops, kind⟩
  rw [unstored]
  have status : stop.ending = .completed → (w'.objects ref).status = .completed := by
    intro completed
    rw [Stop.Fits, completed] at fits
    rw [stopped.status, fits]
  have unchanged : w'.db.runs runId = w.db.runs runId → stop.ending ≠ .waiting →
      ((w'.db.runs runId).map WorkflowRunRow.record = some (w'.objects ref).record ↔
        q.stored row = some stop.run.record) := by
    intro same exact_run
    rw [same, before, stopped.run exact_run]
  cases ending : stop.ending with
  | completed =>
      rw [ending, Ending.Stored] at stored
      refine iff_of_false ?_ (by simp)
      intro agrees
      have recorded := congrArg (Option.map Prod.fst) agrees
      rw [Option.map_map] at recorded
      have clash := stored.symm.trans recorded
      rw [Option.map_some, WorkflowRun.record, status ending] at clash
      cases clash
  | nodeMissing | handlerMissing | refused | escaped =>
      rw [ending] at stored
      rw [unchanged stored (by simp [ending])]
      simp
  | _ =>
      rw [ending] at stored
      exact iff_of_true stored (by simp)

variable (engine ref context workflow w)

/-- A call stores its run exactly when it does not end in an unstored change; without
a START node it changes the status only. -/
theorem storesRun_iff (session : engine.sessionFactory) :
    StoresRun engine ref context workflow w ↔
      match findStartNode workflow with
      | none => (w.db.runs (w.objects ref).id).map WorkflowRunRow.record =
          some { w.objects ref with status := .running }.record
      | some startNode =>
          ∀ q, (w.entry ref startNode).Reaches engine workflow context w.now q →
            ¬ q.LeavesUnstored engine context workflow w.now (w.db.runs (w.objects ref).id) := by
  cases starts : findStartNode workflow with
  | none =>
      unfold StoresRun
      rw [settle_execute, starts]
      simp [World.begin, World.startedRun, WorkflowRun.record]
  | some startNode =>
      obtain ⟨w₁, q, stop, w', outcome, reached, passed, running, stops, stopped, final, -⟩ :=
        execute_walks engine workflow context ref (fun w₁ q =>
            (w₁.db.runs (w.objects ref).id).map WorkflowRunRow.record =
              q.stored (w.db.runs (w.objects ref).id)) w starts
          (by
            rintro w₁ w₂ q q' - - - moved
            rw [moved.stored session, Position.stored, moved.visited]
            simp)
          (by simp [World.begin, Position.stored, World.entry])
      have here := stopped.agrees_iff session running stops passed
      unfold StoresRun
      simp only [final, here]
      constructor
      · rintro stores q' reached' ⟨stop', stops', kind⟩
        obtain rfl := reached.unique engine workflow context w.now reached' stops stops'
        exact stores ⟨stop', stops', kind⟩
      · intro clean
        exact clean q reached

end

/-! ### A completed run

A START node and an END node. The row is last written when the END node has been
closed, and the run completes after that. -/

section completed

def startToEnd : WorkflowDefinition :=
  { id := "workflow", nodes := [.plain "start" .start "start", .plain "end" .endNode "end"]
    edges := [.plain "start" "end"] }

theorem storesRun_startToEnd :
    (WorkflowEngine.plain (fun _ => some echoHandler) true).sessionFactory = true ∧
      (StoresRun (.plain (fun _ => some echoHandler) true) 0 plainContext startToEnd newRun ↔
        ∀ q, (newRun.entry 0 (.plain "start" .start "start")).Reaches
            (.plain (fun _ => some echoHandler) true) startToEnd plainContext 0 q →
          ¬ q.LeavesUnstored (.plain (fun _ => some echoHandler) true) plainContext startToEnd 0
            (newRun.db.runs "run")) :=
  ⟨rfl, storesRun_iff _ 0 plainContext startToEnd newRun rfl⟩

theorem completion_not_stored :
    ¬ StoresRun (.plain (fun _ => some echoHandler) true) 0 plainContext startToEnd newRun := by
  unfold StoresRun
  decide +kernel

end completed

end SyndicateClaw.Orchestrator
