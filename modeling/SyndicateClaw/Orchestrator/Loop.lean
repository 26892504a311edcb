import SyndicateClaw.Orchestrator.Walk

/-! The loop of `execute` follows the walk: it passes the positions reached from its
entry and ends as the last of them says. -/

namespace SyndicateClaw.Orchestrator

open Async

section endings

variable {engine : WorkflowEngine} {workflow : WorkflowDefinition} {context : ExecutionContext}
  {now : Instant} {ref : Nat} {runId : String} {w : World} {q : Position} {node : NodeDefinition}
  {handler : NodeHandler} {r : HandlerRun} (stands : w.At now ref runId q)
  (found : workflow.node? q.current = some node)
  (present : engine.handlers node.handler = some handler)
  (ran : nodeRun handler q.run.id node { context with nodeId := q.current } q.calls q.run.state = r)

include stands found present ran

/-- The world an iteration that stops leaves, with the loop's own exit. -/
def Ends (engine : WorkflowEngine) (workflow : WorkflowDefinition) (context : ExecutionContext)
    (ref : Nat) (runId : String) (w : World) (q : Position) (stop : Stop) : Prop :=
  ∃ w' outcome, (visitNode engine ref runId context workflow q.current).settle w = (w', outcome) ∧
    w.Stopped engine workflow ref runId w' q stop (outcome.map fun _ => ()) ∧
    ∀ exit, outcome = .ok exit → exit = .stop ∨ exit = .goTo none

omit stands found in
theorem executed_silent {w' : World} {run : WorkflowRun}
    (executed : w.Executed now ref runId w' q r run) (quiet : engine.Silent) :
    lifecycles w'.effects = lifecycles w.effects := by
  apply executed.silent
  rw [← ran]
  exact nodeRun_silent handler q.run.id node _ quiet present q.calls q.run.state

theorem visitNode_escapes {message : String} (left : r.exit = .escaped message) :
    Ends engine workflow context ref runId w q ⟨.escaped, r.written q.run⟩ := by
  obtain ⟨w', settled, executed, same⟩ := executed_escapes stands present ran left
  have running : (w.objects ref).status = .running := by rw [stands.run, stands.running]
  refine ⟨w', .error (.escaped message), ?_, ?_, by simp⟩
  · rw [settle_visitNode engine workflow context ref runId running found, Co.settle_bind, settled]
  · exact {
      run := fun _ => executed.run
      status := by rw [executed.run]
      registered := executed.registered
      trail := ⟨_, executed.trail, ⟨_, rfl, fun event member =>
        .inl (nodeRun_isCall workflow context now ref runId stands found ran event member)⟩, by simp⟩
      stored := fun _ => by rw [Ending.Stored, same]
      raised := ⟨message, rfl⟩
      silent := fun quiet => by
        simp [Ending.reports, executed_silent present ran executed quiet]
      place := executed.place }

theorem visitNode_asks {exc : WaitForApprovalError} (left : r.exit = .waitForApproval exc) :
    Ends engine workflow context ref runId w q
      ⟨if requestValid engine.platform (engine.platform.ulid (q.ids + 1)) r.state exc
        then .waiting else .refused, concludeRun node.id r.exit (r.written q.run)⟩ := by
  obtain ⟨w', e, run, settled, executed, waiting, kind⟩ := executed_asks stands present ran left
  have running : (w.objects ref).status = .running := by rw [stands.run, stands.running]
  refine ⟨w', .error e, ?_, ?_, by simp⟩
  · rw [settle_visitNode engine workflow context ref runId running found, Co.settle_bind, settled]
  · have trail := nodeRun_isCall workflow context now ref runId stands found ran
    have status : (w'.objects ref).status =
        (concludeRun node.id r.exit (r.written q.run)).status := by
      rw [executed.run, waiting, left]
      rfl
    have silent : engine.Silent → lifecycles w'.effects = lifecycles w.effects ++ [] := by
      intro quiet
      rw [executed_silent present ran executed quiet, List.append_nil]
    split_ifs at kind ⊢ with valid
    · obtain ⟨⟨interrupt, rfl⟩, stored⟩ := kind
      exact {
        run := fun other => absurd rfl other
        status
        registered := executed.registered
        trail := ⟨_, executed.trail, ⟨_, rfl, fun event member => .inl (trail event member)⟩,
          by simp⟩
        stored := fun session => by rw [Ending.Stored, executed.run]; exact stored session
        raised := ⟨interrupt, rfl⟩
        silent
        place := executed.place }
    · obtain ⟨rfl, rfl, same⟩ := kind
      exact {
        run := fun _ => executed.run
        status
        registered := executed.registered
        trail := ⟨_, executed.trail, ⟨_, rfl, fun event member => .inl (trail event member)⟩,
          by simp⟩
        stored := fun _ => by rw [Ending.Stored, same]
        raised := rfl
        silent
        place := executed.place }

theorem visitNode_closes (closes : r.exit.closes) (kept : ∀ result, r.exit ≠ .returned result) :
    Ends engine workflow context ref runId w q
      ⟨.closed, closeRun node.id r.exit (r.written q.run)⟩ := by
  obtain ⟨w', result, settled, executed, -, stored, -⟩ :=
    executed_closes stands present ran closes
  have running : (w.objects ref).status = .running := by rw [stands.run, stands.running]
  have halted : haltsAfter (w'.objects ref).status := by
    rw [executed.run]
    cases left : r.exit with
    | returned result => exact absurd left (kept result)
    | waitForApproval exc => simp [left, HandlerExit.closes] at closes
    | escaped message => simp [left, HandlerExit.closes] at closes
    | _ => rfl
  refine ⟨w', .ok .stop, ?_, ?_, by simp⟩
  · rw [settle_visitNode engine workflow context ref runId running found, Co.settle_bind, settled]
    exact settle_advance_halted engine workflow ref w' node result halted
  · exact {
      run := fun _ => executed.run
      status := by rw [executed.run]
      registered := executed.registered
      trail := ⟨_, executed.trail, ⟨_, rfl, fun event member =>
        .inl (nodeRun_isCall workflow context now ref runId stands found ran event member)⟩, by simp⟩
      stored := fun session => by rw [Ending.Stored, executed.run]; exact stored session
      raised := rfl
      silent := fun quiet => by
        simp [Ending.reports, executed_silent present ran executed quiet]
      place := executed.place }

theorem visitNode_completes {result : NodeResult} (left : r.exit = .returned result)
    (last : node.nodeType = .endNode) :
    Ends engine workflow context ref runId w q
      ⟨.completed, { checkpointRun engine result (closeRun node.id r.exit (r.written q.run)) with
        status := .completed
        completedAt := some now }⟩ := by
  obtain ⟨w₁, value, settled, executed, -, stored, returned⟩ :=
    executed_closes stands present ran (by rw [left]; rfl)
  obtain rfl := returned result left
  have running : (w.objects ref).status = .running := by rw [stands.run, stands.running]
  have still : (w₁.objects ref).status = .running := by
    rw [executed.run, left]
    exact stands.running
  obtain ⟨effects, reports, advanced⟩ :=
    settle_advance_end engine workflow ref w₁ node value still last
  have exited : .exited runId q.current (.returned value) ∈ r.events := by
    rw [← left, ← ran, ← node?_id workflow found, ← stands.named]
    exact (runAttempts_calls handler q.run.id node _ _ _ _ _).2
  have visited := settle_visitNode engine workflow context ref runId running found
  rw [Co.settle_bind, settled] at visited
  dsimp only at visited
  rw [advanced] at visited
  refine ⟨_, _, visited, ?_, by simp⟩
  have run : (w₁.modifyRun ref fun run => { checkpointRun engine value run with
      status := .completed
      completedAt := some w₁.now }).objects ref =
      { checkpointRun engine value (closeRun node.id r.exit (r.written q.run)) with
        status := .completed
        completedAt := some now } := by
    rw [World.modifyRun_objects_self, executed.run, executed.now]
  exact {
    run := fun _ => run
    status := congrArg WorkflowRun.status run
    registered := executed.registered
    trail := ⟨_, executed.trail, ⟨_, rfl, fun event member =>
      .inl (nodeRun_isCall workflow context now ref runId stands found ran event member)⟩,
      fun _ => ⟨node, value, found, last, List.mem_cons_of_mem _ exited⟩⟩
    stored := fun session => by
      have record := congrArg (Option.map Prod.fst) (stored session)
      rw [Option.map_map] at record
      refine record.trans ?_
      rw [Option.map_some, left]
      exact congrArg some stands.running
    raised := rfl
    silent := fun quiet => by
      have named : (w₁.objects ref).id = runId := by
        rw [executed.run, closeRun_id]
        exact stands.named
      rw [lifecycles_append, executed_silent present ran executed quiet, reports, named,
        Ending.reports]
    place := executed.place }

theorem visitNode_stalls {result : NodeResult} {run : WorkflowRun}
    (left : r.exit = .returned result) (other : node.nodeType ≠ .endNode)
    (closed : checkpointRun engine result (closeRun node.id r.exit (r.written q.run)) = run)
    (dead : successor workflow node result run = none) :
    Ends engine workflow context ref runId w q ⟨.stalled, run⟩ := by
  obtain ⟨w', settled, stopped, trail, stored, silent, place⟩ := visitNode_returned engine workflow
    context now ref runId stands found present ran left other closed
  rw [dead] at settled trail
  have calls := nodeRun_isCall workflow context now ref runId stands found ran
  refine ⟨w', .ok (.goTo none), settled, ?_, by simp⟩
  exact {
    run := fun _ => stopped.run
    status := by rw [stopped.run]
    registered := stopped.registered
    trail := by
      refine ⟨_, trail.trans (List.append_assoc ..), ⟨_, rfl, ?_⟩, by simp⟩
      intro event member
      rcases List.mem_append.mp member with call | chose
      · exact .inl (calls event call)
      · exact .inr (List.mem_singleton.mp chose)
    stored := fun session => by rw [Ending.Stored, stopped.run]; exact stored session
    raised := rfl
    silent := fun quiet => by
      simp [Ending.reports, silent (ran ▸ nodeRun_silent handler _ node _ quiet present _ _)]
    place }

end endings

section loop

variable (engine : WorkflowEngine) (workflow : WorkflowDefinition) (context : ExecutionContext)
  (now : Instant) (ref : Nat) (runId : String)

theorem visit_stops {w : World} {q : Position} {node : NodeDefinition} {handler : NodeHandler}
    {stop : Stop} (stands : w.At now ref runId q) (found : workflow.node? q.current = some node)
    (present : engine.handlers node.handler = some handler)
    (stops : q.visit engine workflow context now node handler = .inl stop) :
    Ends engine workflow context ref runId w q stop := by
  unfold Position.visit at stops
  generalize ran : nodeRun handler q.run.id node { context with nodeId := q.current } q.calls
    q.run.state = r at stops
  cases left : r.exit with
  | returned result =>
      simp only [left] at stops
      split_ifs at stops with last
      · obtain rfl := Sum.inl.inj stops
        rw [← left]
        exact visitNode_completes stands found present ran left last
      · split at stops
        · next dead =>
            obtain rfl := Sum.inl.inj stops
            rw [← left] at dead ⊢
            exact visitNode_stalls stands found present ran left last rfl dead
        · cases stops
  | waitForApproval exc =>
      simp only [left] at stops
      obtain rfl := Sum.inl.inj stops
      rw [← left]
      exact visitNode_asks stands found present ran left
  | escaped message =>
      simp only [left] at stops
      obtain rfl := Sum.inl.inj stops
      exact visitNode_escapes stands found present ran left
  | _ =>
      simp only [left] at stops
      obtain rfl := Sum.inl.inj stops
      rw [← left]
      exact visitNode_closes stands found present ran (by rw [left]; rfl) (by simp [left])

theorem enter_stops {w : World} {q : Position} {stop : Stop} (stands : w.At now ref runId q)
    (stops : q.enter engine workflow context now = .inl stop) :
    Ends engine workflow context ref runId w q stop := by
  have running : (w.objects ref).status = .running := by rw [stands.run, stands.running]
  unfold Position.enter at stops
  split at stops
  · next missing =>
      obtain rfl := Sum.inl.inj stops
      have visited : (visitNode engine ref runId context workflow q.current).settle w =
          (w.modifyRun ref fun run => { run with
            status := .failed
            error := some ("Node not found: " ++ q.current) }, .ok .stop) := by
        simp [visitNode, haltsBefore, running, missing]
      refine ⟨_, _, visited, ?_, by simp⟩
      constructor
      · simp [stands.run]
      · simp
      · exact stands.registered
      · exact ⟨[], by simp, rfl, by simp⟩
      · intro session
        rfl
      · rfl
      · intro quiet
        simp [Ending.reports]
      · rfl
  · next node found =>
      split at stops
      · next missing =>
          obtain rfl := Sum.inl.inj stops
          have visited := settle_visitNode engine workflow context ref runId running found
          rw [Co.settle_bind, executeNode_missing engine ref runId node _ _ missing] at visited
          dsimp only at visited
          rw [settle_advance_halted engine workflow ref _ node _ (by simp [haltsAfter])] at visited
          refine ⟨_, _, visited, ?_, by simp⟩
          constructor
          · simp [World.dispatch, stands.run]
          · simp
          · simp [World.dispatch, stands.registered]
          · exact ⟨_, rfl, ⟨[], rfl, by simp⟩, by simp⟩
          · intro session
            rfl
          · rfl
          · intro quiet
            simp [Ending.reports, World.dispatch]
          · simp [World.dispatch, Function.comp_def, WorkflowRunResult.place, Ending.dispatches]
      · next handler present =>
          exact visit_stops engine workflow context now ref runId stands found present stops

theorem enter_moves {w : World} {q q' : Position} (stands : w.At now ref runId q)
    (moves : q.enter engine workflow context now = .inr q') :
    ∃ w', (visitNode engine ref runId context workflow q.current).settle w =
        (w', .ok (.goTo (some q'.current))) ∧ w.Moved engine now ref runId w' q q' := by
  unfold Position.enter at moves
  split at moves
  · cases moves
  · next node found =>
      split at moves
      · cases moves
      · next handler present =>
          exact visitNode_moves engine workflow context now ref runId stands found present moves

theorem World.At.modifyResult {w : World} {q : Position} (stands : w.At now ref runId q)
    (f : WorkflowRunResult → WorkflowRunResult) : (w.modifyResult runId f).At now ref runId q :=
  { stands with registered := by simp [stands.registered] }

theorem settle_raiseExecutionBoundFailure {α : Type} (w : World) (reason message : String)
    (cyclePath : List String) (stepCount : Nat) :
    ∃ effects, lifecycles effects = [(.workflowFailed, .str (w.objects ref).id)] ∧
      (raiseExecutionBoundFailure engine ref workflow reason message cyclePath
        stepCount : EngineM α).settle w =
      (let run := boundFailure w.now reason cyclePath stepCount (w.objects ref)
       ({ w with
          objects := Function.update w.objects ref run
          effects := w.effects ++ effects
          db := if engine.sessionFactory then w.db.upsertRun run else w.db },
        .error (.workflowCycleDetected message run.id cyclePath stepCount))) := by
  cases stored : engine.sessionFactory <;>
    simp [raiseExecutionBoundFailure, persistRunFailure, emitWorkflowFailedAudit, stored,
      World.modifyRun, World.addEffects, lifecycles, Effect.lifecycle, lookup, Dict.get?_cons,
      boundFailure]

theorem bound_stops {w : World} {q : Position} (stands : w.At now ref runId q)
    (ending : Ending) (reason message : String) (cyclePath : List String)
    (bound : ending = .cycle ∧ cyclePath = q.visited.drop (q.visited.idxOf q.current) ∨
      ending = .stepLimit) :
    ∃ w' outcome, (raiseExecutionBoundFailure engine ref workflow reason message cyclePath
        (q.visited.length + 1) : EngineM Unit).settle w = (w', outcome) ∧
      w.Stopped engine workflow ref runId w' q
        ⟨ending, boundFailure now reason cyclePath (q.visited.length + 1) q.run⟩ outcome := by
  obtain ⟨effects, reports, settled⟩ := settle_raiseExecutionBoundFailure (α := Unit) engine
    workflow ref w reason message cyclePath (q.visited.length + 1)
  refine ⟨_, _, settled, ?_⟩
  have named : (boundFailure w.now reason cyclePath (q.visited.length + 1) q.run).id = runId :=
    stands.named
  constructor
  · simp [stands.run, stands.now]
  · simp [stands.run, stands.now]
  · exact stands.registered
  · refine ⟨[], by simp, ?_⟩
    rcases bound with ⟨rfl, -⟩ | rfl <;> simp [Ending.dispatches]
  · intro session
    have record := upsertRun_record runId w.db named
    rcases bound with ⟨rfl, -⟩ | rfl <;> simpa [Ending.Stored, session, stands.run] using record
  · rcases bound with ⟨rfl, rfl⟩ | rfl
    · exact ⟨message, by rw [stands.run, named]⟩
    · exact ⟨message, cyclePath, by rw [stands.run, named]⟩
  · intro quiet
    rw [lifecycles_append, reports, stands.run, stands.named]
    rcases bound with ⟨rfl, -⟩ | rfl <;> rfl
  · rcases bound with ⟨rfl, -⟩ | rfl <;> rfl

def loopFrom (fuel : Nat) (q : Position) : EngineM Unit :=
  executeLoop engine ref runId context workflow fuel q.visited.length q.visited (some q.current)

theorem World.Stopped.uncounted {w w' : World} {q : Position} {stop : Stop}
    {outcome : Except EngineError Unit} {f : WorkflowRunResult → WorkflowRunResult}
    (stopped : (w.modifyResult runId f).Stopped engine workflow ref runId w' q stop outcome)
    (kept : ∀ result, (f result).place = result.place) :
    w.Stopped engine workflow ref runId w' q stop outcome :=
  { run := stopped.run, status := stopped.status, registered := stopped.registered
    trail := stopped.trail, stored := stopped.stored, raised := stopped.raised
    silent := stopped.silent
    place := by
      have same := stopped.place
      simp only [World.modifyResult_runs_self, Option.map_map] at same
      rw [same]
      apply Option.map_congr
      intro result _
      have run := congrArg Prod.fst (kept result)
      have current := congrArg Prod.snd (kept result)
      simp only [WorkflowRunResult.place] at run current
      simp [run, current] }

theorem loopFrom_stops {w : World} {q : Position} {stop : Stop} (fuel : Nat)
    (stands : w.At now ref runId q)
    (stops : q.iteration engine workflow context now = .inl stop) :
    ∃ w' outcome, (loopFrom engine workflow context ref runId (fuel + 1) q).settle w =
        (w', outcome) ∧ w.Stopped engine workflow ref runId w' q stop outcome := by
  simp only [Position.iteration] at stops
  simp only [loopFrom, executeLoop, Co.settle_bind, settle_modifyResult]
  have counted := stands.modifyResult now ref runId fun result =>
    { result with stepCount := q.visited.length + 1, visitedNodes := q.visited }
  split_ifs at stops ⊢ with seen full
  · obtain rfl := Sum.inl.inj stops
    obtain ⟨w', outcome, settled, stopped⟩ := bound_stops engine workflow now ref runId counted
      .cycle "cycle_detected" ("Cycle detected at node " ++ q.current) _ (.inl ⟨rfl, rfl⟩)
    exact ⟨w', outcome, settled, stopped.uncounted _ _ _ _ fun _ => rfl⟩
  · obtain rfl := Sum.inl.inj stops
    obtain ⟨w', outcome, settled, stopped⟩ := bound_stops engine workflow now ref runId counted
      .stepLimit "step_limit_exceeded"
      ("Workflow execution exceeded max_steps=" ++ toString engine.maxSteps) _ (.inr rfl)
    exact ⟨w', outcome, settled, stopped.uncounted _ _ _ _ fun _ => rfl⟩
  · have visiting := counted.modifyResult now ref runId fun result =>
      { result with visitedNodes := q.visited ++ [q.current] }
    obtain ⟨w', outcome, settled, stopped, exits⟩ :=
      enter_stops engine workflow context now ref runId visiting stops
    simp only [Co.settle_bind, settle_modifyResult, settled]
    refine ⟨w', outcome.map fun _ => (), ?_,
      (stopped.uncounted _ _ _ _ fun _ => rfl).uncounted _ _ _ _ fun _ => rfl⟩
    rcases outcome with e | exit
    · rfl
    · rcases exits exit rfl with rfl | rfl <;> simp [executeLoop, Except.map]

theorem loopFrom_moves {w : World} {q q' : Position} (fuel : Nat) (stands : w.At now ref runId q)
    (moves : q.iteration engine workflow context now = .inr q') :
    ∃ w', (loopFrom engine workflow context ref runId (fuel + 1) q).settle w =
        (loopFrom engine workflow context ref runId fuel q').settle w' ∧
      w.Moved engine now ref runId w' q q' ∧
      q.current ∉ q.visited ∧ q.visited.length < engine.maxSteps := by
  simp only [Position.iteration] at moves
  split_ifs at moves with seen full
  have visiting := (stands.modifyResult now ref runId fun result =>
    { result with stepCount := q.visited.length + 1, visitedNodes := q.visited }).modifyResult
      now ref runId fun result => { result with visitedNodes := q.visited ++ [q.current] }
  obtain ⟨w', settled, moved⟩ :=
    enter_moves engine workflow context now ref runId visiting moves
  refine ⟨w', ?_, ⟨moved.at_next, moved.visited, moved.trail, moved.stored, moved.silent,
    ?_⟩, seen, by omega⟩
  · simp only [loopFrom, executeLoop, if_neg seen, if_neg full, Co.settle_bind,
      settle_modifyResult, settled, moved.visited, List.length_append, List.length_singleton]
  · rw [moved.place]
    simp [Function.comp_def]

theorem loopFrom_walks (I : World → Position → Prop)
    (kept : ∀ {w w' q q'}, I w q → q.current ∉ q.visited → q.visited.length < engine.maxSteps →
      w.Moved engine now ref runId w' q q' → I w' q')
    (fuel : Nat) {w : World} {q : Position} (stands : w.At now ref runId q) (first : I w q)
    (bounded : q.visited.length ≤ engine.maxSteps)
    (enough : q.visited.length + fuel = engine.maxSteps + 1) :
    ∃ w₁ q₁ stop w' outcome, q.Reaches engine workflow context now q₁ ∧
      w₁.At now ref runId q₁ ∧ I w₁ q₁ ∧ q₁.iteration engine workflow context now = .inl stop ∧
      (loopFrom engine workflow context ref runId fuel q).settle w = (w', outcome) ∧
      w₁.Stopped engine workflow ref runId w' q₁ stop outcome := by
  induction fuel generalizing w q with
  | zero => omega
  | succ fuel ih =>
      cases result : q.iteration engine workflow context now with
      | inl stop =>
          obtain ⟨w', outcome, settled, stopped⟩ :=
            loopFrom_stops engine workflow context now ref runId fuel stands result
          exact ⟨w, q, stop, w', outcome, .refl, stands, first, result, settled, stopped⟩
      | inr q' =>
          obtain ⟨w₁, settled, moved, fresh, within⟩ :=
            loopFrom_moves engine workflow context now ref runId fuel stands result
          have length : q'.visited.length = q.visited.length + 1 := by simp [moved.visited]
          obtain ⟨w₂, q₂, stop, w', outcome, reached, stands₂, holds₂, stops, final, stopped⟩ :=
            ih moved.at_next (kept first fresh within moved) (by omega) (by omega)
          exact ⟨w₂, q₂, stop, w', outcome, .head result reached, stands₂, holds₂, stops,
            settled.trans final, stopped⟩

/-- The run as `execute` sets it going. -/
def World.startedRun (w : World) : WorkflowRun :=
  { w.objects ref with status := .running, startedAt := some w.now }

/-- The position `execute` enters its loop at. -/
def World.entry (w : World) (startNode : NodeDefinition) : Position :=
  { visited := []
    current := entryNode ((w.runs (w.objects ref).id).bind (·.currentNodeId))
      (w.objects ref).state startNode
    run := w.startedRun ref
    calls := w.calls
    ids := w.ids }

/-- The world when `execute` looks for its first node. -/
def World.begin (w : World) : World :=
  let runId := (w.objects ref).id
  { w with
    runs := Function.update w.runs runId (some ((w.runs runId).getD { run := ref }))
    objects := Function.update w.objects ref (w.startedRun ref)
    effects := w.effects ++ [.audit
      { eventType := .workflowStarted, actor := (w.objects ref).initiatedBy
        resourceType := "workflow", resourceId := workflow.id, action := "started"
        details := [("run_id", .str runId)] }] }

theorem settle_execute (w : World) :
    (execute engine ref context workflow).settle w =
      match findStartNode workflow with
      | none => (w.begin workflow ref, .error (.value "Workflow has no START node"))
      | some startNode =>
          (loopFrom engine workflow context ref (w.objects ref).id (engine.maxSteps + 1)
            (w.entry ref startNode) >>= fun _ => findRun (w.objects ref).id).settle
              (w.begin workflow ref) := by
  cases starts : findStartNode workflow with
  | none =>
      simp [execute, registerRun, starts, World.begin, World.startedRun, World.modifyRun,
        World.addEffects]
  | some startNode =>
      have current : ((w.runs (w.objects ref).id).getD { run := ref }).currentNodeId =
          (w.runs (w.objects ref).id).bind (·.currentNodeId) := by
        cases w.runs (w.objects ref).id <;> rfl
      simp [execute, registerRun, findRun, starts, World.begin, World.startedRun, World.modifyRun,
        World.addEffects, loopFrom, World.entry, current]

/-- `execute` walks from its entry to a stop. -/
theorem execute_walks (I : World → Position → Prop) (w : World) {startNode : NodeDefinition}
    (starts : findStartNode workflow = some startNode)
    (kept : ∀ {w₁ w₂ q q'}, I w₁ q → q.current ∉ q.visited → q.visited.length < engine.maxSteps →
      w₁.Moved engine w.now ref (w.objects ref).id w₂ q q' → I w₂ q')
    (first : I (w.begin workflow ref) (w.entry ref startNode)) :
    ∃ w₁ q stop w' outcome, (w.entry ref startNode).Reaches engine workflow context w.now q ∧
      I w₁ q ∧ q.run.status = .running ∧
      q.iteration engine workflow context w.now = .inl stop ∧
      w₁.Stopped engine workflow ref (w.objects ref).id w' q stop outcome ∧
      ((execute engine ref context workflow).settle w).1 = w' ∧
      ∀ e, ((execute engine ref context workflow).settle w).2 = .error e ↔ outcome = .error e := by
  have stands : (w.begin workflow ref).At w.now ref (w.objects ref).id (w.entry ref startNode) := by
    constructor <;> simp [World.begin, World.entry, World.startedRun]
  obtain ⟨w₁, q, stop, w', outcome, reached, stands₁, holds, stops, settled, stopped⟩ :=
    loopFrom_walks engine workflow context w.now ref (w.objects ref).id I kept
      (engine.maxSteps + 1) stands first (Nat.zero_le _) (Nat.zero_add _)
  refine ⟨w₁, q, stop, w', outcome, reached, holds, stands₁.running, stops, stopped, ?_⟩
  obtain ⟨result, registered⟩ := Option.isSome_iff_exists.mp stopped.registered
  rw [settle_execute, starts]
  dsimp only
  rw [Co.settle_bind, settled]
  rcases outcome with e | u
  · simp
  · simp [findRun, registered]

end loop

end SyndicateClaw.Orchestrator
