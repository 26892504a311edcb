import Mathlib.Logic.Relation
import SyndicateClaw.Orchestrator.NodeRun

/-! The loop of `execute` as a walk over positions.

A position is what the next iteration of the loop depends on. An iteration either
moves to another position or ends the call, and which of the two it does is a
function of the workflow and the handlers. -/

namespace SyndicateClaw.Orchestrator

open Async

structure Position where
  visited : List String
  current : String
  run : WorkflowRun
  calls : Nat
  ids : Nat

/-- How the loop of `execute` ends. `closed` is a pause, a wait for an agent or a
failure of the handler, `waiting` and `refused` are approval requests that were
stored or did not validate, and `stalled` is a node without a successor. -/
inductive Ending where
  | cycle | stepLimit | nodeMissing | handlerMissing | closed | waiting | refused | escaped
  | completed | stalled
  deriving DecidableEq

structure Stop where
  ending : Ending
  run : WorkflowRun

def requestValid (platform : Platform) (fresh : String) (state : State)
    (exc : WaitForApprovalError) : Bool :=
  match approvalPayloadFromState state exc.approvalId with
  | some raw => (ApprovalRequest.modelValidate platform fresh raw).isSome
  | none => true

theorem requestValid_iff (platform : Platform) (fresh : String) (now : Instant)
    (exc : WaitForApprovalError) (node : NodeDefinition) (run : WorkflowRun)
    (execution : NodeExecution) :
    (approvalRequestForInterrupt platform fresh now exc node run execution).isSome =
      requestValid platform fresh run.state exc := by
  simp only [approvalRequestForInterrupt, interruptPayload, requestValid, Option.isSome_map]
  cases approvalPayloadFromState run.state exc.approvalId <;> rfl

section positions

variable (engine : WorkflowEngine) (workflow : WorkflowDefinition) (context : ExecutionContext)
  (now : Instant)

def checkpointRun (result : NodeResult) (run : WorkflowRun) : WorkflowRun :=
  if result.shouldCheckpoint then
    { run with checkpointData := some (checkpointFor engine run.state) } else run

def WorkflowRunRow.record (row : WorkflowRunRow) : WorkflowRunStatus × Option String × State :=
  (row.status, row.error, row.state)

def WorkflowRun.record (run : WorkflowRun) : WorkflowRunStatus × Option String × State :=
  (run.status, run.error, jsonableState run.state)

theorem checkpointRun_record (result : NodeResult) (run : WorkflowRun) :
    (checkpointRun engine result run).record = run.record ∧
      (checkpointRun engine result run).id = run.id ∧
      (checkpointRun engine result run).status = run.status := by
  unfold checkpointRun
  split <;> exact ⟨rfl, rfl, rfl⟩

theorem checkpointRun_state (result : NodeResult) (run : WorkflowRun) :
    (checkpointRun engine result run).state = run.state := by
  unfold checkpointRun
  split <;> rfl

def successor (node : NodeDefinition) (result : NodeResult) (run : WorkflowRun) : Option String :=
  result.nextNodeId.or (resolveNextNode node.id run.state workflow.edges)

def Position.visit (q : Position) (node : NodeDefinition) (handler : NodeHandler) :
    Stop ⊕ Position :=
  let r := nodeRun handler q.run.id node { context with nodeId := q.current } q.calls q.run.state
  let run := r.written q.run
  match r.exit with
  | .returned result =>
      let run := checkpointRun engine result (closeRun node.id r.exit run)
      if node.nodeType = .endNode then
        .inl ⟨.completed, { run with status := .completed, completedAt := some now }⟩
      else match successor workflow node result run with
        | none => .inl ⟨.stalled, run⟩
        | some next => .inr
            { visited := q.visited ++ [q.current], current := next, run, calls := r.calls
              ids := q.ids + 1 }
  | .waitForApproval exc =>
      let valid := requestValid engine.platform (engine.platform.ulid (q.ids + 1)) r.state exc
      .inl ⟨if valid then .waiting else .refused, concludeRun node.id r.exit run⟩
  | .escaped _ => .inl ⟨.escaped, run⟩
  | _ => .inl ⟨.closed, closeRun node.id r.exit run⟩

def Position.enter (q : Position) : Stop ⊕ Position :=
  match workflow.node? q.current with
  | none => .inl ⟨.nodeMissing, { q.run with
      status := .failed
      error := some ("Node not found: " ++ q.current) }⟩
  | some node =>
      match engine.handlers node.handler with
      | none => .inl ⟨.handlerMissing, { q.run with
          status := .failed
          error := some ("No handler registered for: " ++ node.handler) }⟩
      | some handler => q.visit engine workflow context now node handler

def Position.iteration (q : Position) : Stop ⊕ Position :=
  let steps := q.visited.length + 1
  if q.current ∈ q.visited then
    .inl ⟨.cycle, boundFailure now "cycle_detected" (q.visited.drop (q.visited.idxOf q.current))
      steps q.run⟩
  else if engine.maxSteps < steps then
    .inl ⟨.stepLimit, boundFailure now "step_limit_exceeded"
      (q.visited.drop (q.visited.length - stepLimitPathLength)) steps q.run⟩
  else q.enter engine workflow context now

def Stop.Fits (stop : Stop) : Prop :=
  match stop.ending with
  | .cycle | .stepLimit | .nodeMissing | .handlerMissing => stop.run.status = .failed
  | .closed => stop.run.status ∈ [.paused, .waitingAgentResponse, .failed]
  | .waiting | .refused => stop.run.status = .waitingApproval
  | .escaped | .stalled => stop.run.status = .running
  | .completed => stop.run.status = .completed

section stops

variable {engine workflow context now} {q : Position} {stop : Stop}

theorem visit_fits {node : NodeDefinition} {handler : NodeHandler}
    (running : q.run.status = .running)
    (stops : q.visit engine workflow context now node handler = .inl stop) :
    stop.Fits ∧ stop.ending ≠ .cycle ∧ stop.ending ≠ .stepLimit := by
  unfold Position.visit at stops
  generalize nodeRun handler q.run.id node { context with nodeId := q.current } q.calls
    q.run.state = r at stops
  cases left : r.exit with
  | returned result =>
      simp only [left] at stops
      split_ifs at stops with last
      · obtain rfl := Sum.inl.inj stops
        simp [Stop.Fits]
      · split at stops
        · obtain rfl := Sum.inl.inj stops
          refine ⟨?_, by simp, by simp⟩
          exact (checkpointRun_record engine result _).2.2.trans running
        · cases stops
  | waitForApproval exc =>
      simp only [left] at stops
      obtain rfl := Sum.inl.inj stops
      split <;> exact ⟨rfl, by simp, by simp⟩
  | escaped message =>
      simp only [left] at stops
      obtain rfl := Sum.inl.inj stops
      exact ⟨running, by simp, by simp⟩
  | _ =>
      simp only [left] at stops
      obtain rfl := Sum.inl.inj stops
      simp [Stop.Fits, closeRun, concludeRun]

theorem enter_fits (running : q.run.status = .running)
    (stops : q.enter engine workflow context now = .inl stop) :
    stop.Fits ∧ stop.ending ≠ .cycle ∧ stop.ending ≠ .stepLimit := by
  unfold Position.enter at stops
  split at stops
  · obtain rfl := Sum.inl.inj stops
    simp [Stop.Fits]
  · split at stops
    · obtain rfl := Sum.inl.inj stops
      simp [Stop.Fits]
    · exact visit_fits running stops

theorem iteration_fits (running : q.run.status = .running)
    (stops : q.iteration engine workflow context now = .inl stop) :
    stop.Fits ∧ (stop.ending = .cycle ↔ q.current ∈ q.visited) ∧
      (stop.ending = .stepLimit ↔ q.current ∉ q.visited ∧ engine.maxSteps ≤ q.visited.length) := by
  simp only [Position.iteration] at stops
  split_ifs at stops with seen full
  · obtain rfl := Sum.inl.inj stops
    simp [Stop.Fits, boundFailure, seen]
  · obtain rfl := Sum.inl.inj stops
    simp [Stop.Fits, boundFailure, seen]
    omega
  · obtain ⟨fits, other, another⟩ := enter_fits running stops
    refine ⟨fits, iff_of_false other seen, iff_of_false another ?_⟩
    rintro ⟨-, limit⟩
    omega

theorem iteration_running {q' : Position} (running : q.run.status = .running)
    (moves : q.iteration engine workflow context now = .inr q') : q'.run.status = .running := by
  simp only [Position.iteration] at moves
  split_ifs at moves
  unfold Position.enter at moves
  split at moves
  · cases moves
  · split at moves
    · cases moves
    · next node _ _ handler _ =>
        unfold Position.visit at moves
        generalize nodeRun handler q.run.id node { context with nodeId := q.current } q.calls
          q.run.state = r at moves
        cases left : r.exit with
        | returned result =>
            simp only [left] at moves
            split_ifs at moves
            split at moves
            · cases moves
            · obtain rfl := Sum.inr.inj moves
              exact (checkpointRun_record engine result _).2.2.trans running
        | _ => simp [left] at moves

end stops

def Position.Reaches : Position → Position → Prop :=
  Relation.ReflTransGen fun p q => p.iteration engine workflow context now = .inr q

variable {engine workflow context now} in
theorem Position.Reaches.running {q q' : Position}
    (reached : q.Reaches engine workflow context now q') (running : q.run.status = .running) :
    q'.run.status = .running := by
  induction reached with
  | refl => exact running
  | tail _ moves ih => exact iteration_running ih moves

theorem Position.Reaches.unique {p q q' : Position} {stop stop' : Stop}
    (reached : p.Reaches engine workflow context now q)
    (reached' : p.Reaches engine workflow context now q')
    (stops : q.iteration engine workflow context now = .inl stop)
    (stops' : q'.iteration engine workflow context now = .inl stop') : q = q' := by
  have deterministic : Relator.RightUnique fun p q : Position =>
      p.iteration engine workflow context now = .inr q := by
    intro a b c moves moves'
    exact Sum.inr.inj (moves.symm.trans moves')
  rcases Relation.ReflTransGen.total_of_right_unique deterministic reached reached' with
    later | later
  · rcases later.cases_head with same | ⟨next, moves, -⟩
    · exact same
    · cases stops.symm.trans moves
  · rcases later.cases_head with same | ⟨next, moves, -⟩
    · exact same.symm
    · cases stops'.symm.trans moves

end positions

/-! ### The engine walks -/

section refinement

variable (engine : WorkflowEngine) (workflow : WorkflowDefinition) (context : ExecutionContext)
  (now : Instant) (ref : Nat) (runId : String)

structure World.At (w : World) (q : Position) : Prop where
  run : w.objects ref = q.run
  calls : w.calls = q.calls
  ids : w.ids = q.ids
  now : w.now = now
  running : q.run.status = .running
  named : q.run.id = runId
  registered : (w.runs runId).isSome

theorem settle_advance_halted (w : World) (node : NodeDefinition) (result : NodeResult)
    (halted : haltsAfter (w.objects ref).status) :
    (advance engine ref workflow node result).settle w = (w, .ok .stop) := by
  simp [advance, halted]

theorem settle_advance (w : World) (node : NodeDefinition) (result : NodeResult)
    (running : (w.objects ref).status = .running) (other : node.nodeType ≠ .endNode) :
    (advance engine ref workflow node result).settle w =
      (let run := checkpointRun engine result (w.objects ref)
       let next := result.nextNodeId.or (resolveNextNode node.id run.state workflow.edges)
       ({ w.modifyRun ref (checkpointRun engine result) with
          trail := w.trail ++ [.chose run.id node.id next] }, .ok (.goTo next))) := by
  cases checkpoint : result.shouldCheckpoint <;>
    simp [advance, haltsAfter, running, other, checkpoint, checkpointRun, persistCheckpoint,
      World.modifyRun]

theorem settle_advance_end (w : World) (node : NodeDefinition) (result : NodeResult)
    (running : (w.objects ref).status = .running) (last : node.nodeType = .endNode) :
    ∃ effects, lifecycles effects = [(.workflowCompleted, .str (w.objects ref).id)] ∧
      (advance engine ref workflow node result).settle w =
      ({ w.modifyRun ref (fun run => { checkpointRun engine result run with
          status := .completed
          completedAt := some w.now }) with effects := w.effects ++ effects }, .ok .stop) := by
  cases checkpoint : result.shouldCheckpoint <;>
    simp [advance, haltsAfter, running, last, checkpoint, checkpointRun, persistCheckpoint,
      completeRun, World.modifyRun, World.addEffects, lifecycles, Effect.lifecycle, lookup,
      Dict.get?_cons]

theorem settle_visitNode {w : World} {current : String} {node : NodeDefinition}
    (running : (w.objects ref).status = .running) (found : workflow.node? current = some node) :
    (visitNode engine ref runId context workflow current).settle w =
      (executeNode engine ref runId { context with nodeId := current } node >>=
        advance engine ref workflow node).settle (w.dispatch runId current) := by
  simp [visitNode, haltsBefore, running, found]

theorem upsertRun_record (db : Database) {run : WorkflowRun} (named : run.id = runId) :
    ((db.upsertRun run).runs runId).map WorkflowRunRow.record = some run.record := by
  subst named
  simp [Database.runRow, WorkflowRunRow.record, WorkflowRun.record]

def Event.IsCall (nodeId : String) (event : Event) : Prop :=
  (∃ handler attempt, event = .invoked runId nodeId handler attempt) ∨
    ∃ exit, event = .exited runId nodeId exit

def WorkflowRunResult.place (result : WorkflowRunResult) : Nat × Option String :=
  (result.run, result.currentNodeId)

/-- The world once a node dispatched at a position has been executed. -/
structure World.Executed (w w' : World) (q : Position) (r : HandlerRun) (run : WorkflowRun) :
    Prop where
  run : w'.objects ref = run
  calls : w'.calls = r.calls
  now : w'.now = now
  registered : (w'.runs runId).isSome
  trail : w'.trail = w.trail ++ .dispatched runId q.current :: r.events
  silent : r.effects = [] → lifecycles w'.effects = lifecycles w.effects
  place : (w'.runs runId).map (·.place) =
    (w.runs runId).map fun result => (result.run, some q.current)

section execution

variable {engine workflow context now ref runId} {w : World} {q : Position}
  {node : NodeDefinition} {handler : NodeHandler} {r : HandlerRun}
  (stands : w.At now ref runId q) (present : engine.handlers node.handler = some handler)
  (ran : nodeRun handler q.run.id node { context with nodeId := q.current } q.calls q.run.state = r)

include stands present ran

theorem executed_closes (closes : r.exit.closes) :
    ∃ w' result,
      (executeNode engine ref runId { context with nodeId := q.current } node).settle
        (w.dispatch runId q.current) = (w', .ok result) ∧
      w.Executed now ref runId w' q r (closeRun node.id r.exit (r.written q.run)) ∧
      w'.ids = q.ids + 1 ∧
      (engine.sessionFactory → (w'.db.runs runId).map WorkflowRunRow.record =
        some (closeRun node.id r.exit (r.written q.run)).record) ∧
      ∀ returned, r.exit = .returned returned → result = returned := by
  obtain ⟨execution, result, settled, -, value⟩ := executeNode_closes engine handler ref runId node
    { context with nodeId := q.current } (w.dispatch runId q.current) present
    (r := r) (by rw [← ran, ← stands.run, ← stands.calls]; rfl) closes
  refine ⟨_, result, settled, ?_, ?_, ?_, value⟩
  · constructor
    · simp [World.closeNode, World.dispatch, World.afterAttempts, stands.run]
    · rfl
    · exact stands.now
    · simp [World.closeNode, World.dispatch, stands.registered]
    · simp [World.closeNode, World.dispatch]
    · intro silent
      simp [World.closeNode, World.dispatch, World.afterAttempts, silent]
    · simp [World.closeNode, World.dispatch, Function.comp_def, WorkflowRunResult.place]
  · simp [World.closeNode, World.dispatch, stands.ids]
  · intro stored
    simp only [World.closeNode, World.dispatch, stored, if_true, Database.persistRunAndNode_runs,
      afterAttempts_objects_self, World.modifyResult_objects, stands.run]
    exact upsertRun_record runId _ ((closeRun_id ..).trans stands.named)

theorem executed_escapes {message : String} (escaped : r.exit = .escaped message) :
    ∃ w', (executeNode engine ref runId { context with nodeId := q.current } node).settle
        (w.dispatch runId q.current) = (w', .error (.escaped message)) ∧
      w.Executed now ref runId w' q r (r.written q.run) ∧ w'.db = w.db := by
  refine ⟨_, executeNode_escapes engine handler ref runId node _ _ present (r := r)
    (by rw [← ran, ← stands.run, ← stands.calls]; rfl) escaped, ?_, rfl⟩
  constructor
  · simp [World.dispatch, stands.run]
  · rfl
  · exact stands.now
  · simp [World.dispatch, stands.registered]
  · simp [World.dispatch]
  · intro silent
    simp [World.dispatch, World.afterAttempts, silent]
  · simp [World.dispatch, Function.comp_def, WorkflowRunResult.place]

theorem executed_asks {exc : WaitForApprovalError} (asks : r.exit = .waitForApproval exc) :
    ∃ w' e run',
      (executeNode engine ref runId { context with nodeId := q.current } node).settle
        (w.dispatch runId q.current) = (w', .error e) ∧
      w.Executed now ref runId w' q r run' ∧ run'.status = .waitingApproval ∧
      if requestValid engine.platform (engine.platform.ulid (q.ids + 1)) r.state exc then
        (∃ interrupt, e = .waitForApproval interrupt) ∧
          (engine.sessionFactory →
            (w'.db.runs runId).map WorkflowRunRow.record = some run'.record)
      else
        e = .validation ∧ run' = concludeRun node.id r.exit (r.written q.run) ∧
          w'.db = w.db := by
  generalize concluded : ({ w.dispatch runId q.current with
    ids := (w.dispatch runId q.current).ids + 1 }.afterAttempts ref r).modifyRun ref
      (concludeRun node.id r.exit) = asking
  obtain ⟨execution, settled⟩ := executeNode_asks engine handler ref runId node
    { context with nodeId := q.current } (w.dispatch runId q.current) present (r := r)
    (by rw [← ran, ← stands.run, ← stands.calls]; rfl) asks concluded
  have executed : w.Executed now ref runId asking q r
      (concludeRun node.id r.exit (r.written q.run)) := by
    subst concluded
    constructor
    · simp [World.dispatch, stands.run]
    · rfl
    · exact stands.now
    · simp [World.dispatch, stands.registered]
    · simp [World.dispatch]
    · intro silent
      simp [World.dispatch, World.afterAttempts, World.modifyRun, silent]
    · simp [World.dispatch, Function.comp_def, WorkflowRunResult.place]
  have ids : asking.ids = q.ids + 1 := by simp [← concluded, World.dispatch, stands.ids]
  have db : asking.db = w.db := by rw [← concluded]; rfl
  have status : (concludeRun node.id r.exit (r.written q.run)).status =
      .waitingApproval := by rw [asks]; rfl
  have valid := requestValid_iff engine.platform (engine.platform.ulid (q.ids + 1)) asking.now exc
    node (concludeRun node.id r.exit (r.written q.run)) execution
  rw [show (concludeRun node.id r.exit (r.written q.run)).state = r.state by
    rw [asks]; rfl] at valid
  rw [executed.run, ids] at settled
  split at settled
  · next refused =>
      rw [refused] at valid
      refine ⟨_, _, _, settled, ⟨executed.run, executed.calls, executed.now, executed.registered,
        executed.trail, executed.silent, executed.place⟩, status, ?_⟩
      rw [← valid]
      exact ⟨rfl, rfl, db⟩
  · next request asked =>
      rw [asked] at valid
      obtain ⟨effects, interrupt, other, settled⟩ := settled
      refine ⟨_, _, boundaryRun engine asking.now request node.id (asking.objects ref), settled,
        ⟨by simp [World.interruptNode], executed.calls, executed.now,
          by simp [World.interruptNode, executed.registered], executed.trail, fun silent => by
            rw [← executed.silent silent, World.interruptNode, lifecycles_append, other,
              List.append_nil], ?_⟩, ?_, ?_⟩
      · rw [← executed.place]
        simp [World.interruptNode, Function.comp_def, WorkflowRunResult.place]
      · rw [executed.run]
        exact status
      · rw [← valid]
        refine ⟨⟨_, rfl⟩, fun stored => ?_⟩
        simp only [World.interruptNode, stored, if_true, Database.persistApprovalBoundary_runs]
        apply upsertRun_record
        rw [executed.run]
        exact (concludeRun_id ..).trans stands.named

end execution

theorem visitNode_returned {w : World} {q : Position} {node : NodeDefinition}
    {handler : NodeHandler} {r : HandlerRun} {result : NodeResult} {run : WorkflowRun}
    (stands : w.At now ref runId q) (found : workflow.node? q.current = some node)
    (present : engine.handlers node.handler = some handler)
    (ran : nodeRun handler q.run.id node { context with nodeId := q.current } q.calls
      q.run.state = r) (left : r.exit = .returned result) (other : node.nodeType ≠ .endNode)
    (closed : checkpointRun engine result (closeRun node.id r.exit (r.written q.run)) = run) :
    ∃ w', (visitNode engine ref runId context workflow q.current).settle w =
        (w', .ok (.goTo (successor workflow node result run))) ∧
      w'.At now ref runId { q with run, calls := r.calls, ids := q.ids + 1 } ∧
      w'.trail = w.trail ++ .dispatched runId q.current :: r.events ++
        [.chose runId q.current (successor workflow node result run)] ∧
      (engine.sessionFactory → (w'.db.runs runId).map WorkflowRunRow.record = some run.record) ∧
      (r.effects = [] → lifecycles w'.effects = lifecycles w.effects) ∧
      (w'.runs runId).map (·.place) =
        (w.runs runId).map fun result => (result.run, some q.current) := by
  obtain ⟨w₁, value, settled, executed, ids, stored, returned⟩ :=
    executed_closes stands present ran (by rw [left]; rfl)
  obtain rfl := returned result left
  obtain ⟨record, id, status⟩ :=
    checkpointRun_record engine value (closeRun node.id r.exit (r.written q.run))
  have running : (w.objects ref).status = .running := by rw [stands.run, stands.running]
  have still : (w₁.objects ref).status = .running := by
    rw [executed.run, left]
    exact stands.running
  have named : run.id = runId := by
    rw [← closed, id, closeRun_id]
    exact stands.named
  have visited : (visitNode engine ref runId context workflow q.current).settle w =
      ({ w₁.modifyRun ref (checkpointRun engine value) with
         trail := w₁.trail ++ [.chose run.id node.id (successor workflow node value run)] },
       .ok (.goTo (successor workflow node value run))) := by
    rw [settle_visitNode engine workflow context ref runId running found, Co.settle_bind, settled]
    dsimp only
    rw [settle_advance engine workflow ref w₁ node value still other, executed.run, closed]
    rfl
  refine ⟨_, visited, ⟨?_, executed.calls, ids, executed.now, ?_, named, executed.registered⟩,
    ?_, ?_, executed.silent, executed.place⟩
  · simp [executed.run, closed]
  · show run.status = .running
    rw [← closed, status, left]
    exact stands.running
  · rw [named, node?_id workflow found, executed.trail]
  · intro session
    rw [← closed, record]
    exact stored session

structure World.Moved (w w' : World) (q q' : Position) : Prop where
  at_next : w'.At now ref runId q'
  visited : q'.visited = q.visited ++ [q.current]
  trail : ∃ calls : List Event, (∀ event ∈ calls, event.IsCall runId q.current) ∧
    w'.trail = w.trail ++ .dispatched runId q.current :: calls ++
      [.chose runId q.current (some q'.current)]
  stored : engine.sessionFactory →
    (w'.db.runs runId).map WorkflowRunRow.record = some q'.run.record
  silent : engine.Silent → lifecycles w'.effects = lifecycles w.effects
  place : (w'.runs runId).map (·.place) =
    (w.runs runId).map fun result => (result.run, some q.current)

theorem nodeRun_isCall {w : World} {q : Position} {node : NodeDefinition}
    {handler : NodeHandler} {r : HandlerRun} (stands : w.At now ref runId q)
    (found : workflow.node? q.current = some node)
    (ran : nodeRun handler q.run.id node { context with nodeId := q.current } q.calls
      q.run.state = r) : ∀ event ∈ r.events, event.IsCall runId q.current := by
  intro event member
  subst ran
  have calls := (runAttempts_calls handler q.run.id node _ _ _ _ _).1 event member
  rw [stands.named, node?_id workflow found] at calls
  rcases calls with ⟨attempt, rfl⟩ | ⟨exit, rfl⟩
  · exact .inl ⟨_, _, rfl⟩
  · exact .inr ⟨_, rfl⟩

theorem visitNode_moves {w : World} {q q' : Position} {node : NodeDefinition}
    {handler : NodeHandler} (stands : w.At now ref runId q)
    (found : workflow.node? q.current = some node)
    (present : engine.handlers node.handler = some handler)
    (moves : q.visit engine workflow context now node handler = .inr q') :
    ∃ w', (visitNode engine ref runId context workflow q.current).settle w =
        (w', .ok (.goTo (some q'.current))) ∧ w.Moved engine now ref runId w' q q' := by
  unfold Position.visit at moves
  generalize ran : nodeRun handler q.run.id node { context with nodeId := q.current } q.calls
    q.run.state = r at moves
  cases left : r.exit with
  | returned result =>
      simp only [left] at moves
      split_ifs at moves with last
      split at moves
      · cases moves
      · next next chosen =>
          obtain rfl := Sum.inr.inj moves
          obtain ⟨w', settled, at_next, trail, stored, silent, place⟩ := visitNode_returned engine
            workflow context now ref runId stands found present ran left last (by rw [left])
          rw [chosen] at settled trail
          exact ⟨w', settled, ⟨at_next.run, at_next.calls, at_next.ids, at_next.now,
            at_next.running, at_next.named, at_next.registered⟩, rfl,
            ⟨r.events, nodeRun_isCall workflow context now ref runId stands found ran, trail⟩,
            stored,
            fun quiet => silent (ran ▸ nodeRun_silent handler _ node _ quiet present _ _), place⟩
  | _ => simp [left] at moves

/-- The current node went to `_execute_node`. -/
def Ending.dispatches : Ending → Bool
  | .cycle | .stepLimit | .nodeMissing => false
  | _ => true

/-- What the row of the run holds when the loop ends. -/
def Ending.Stored (w w' : World) : Ending → Prop
  | .cycle | .stepLimit | .closed | .waiting | .stalled =>
      (w'.db.runs runId).map WorkflowRunRow.record = some (w'.objects ref).record
  | .completed => (w'.db.runs runId).map (·.status) = some .running
  | .nodeMissing | .handlerMissing | .refused | .escaped => w'.db.runs runId = w.db.runs runId

def Ending.Raises (q : Position) (outcome : Except EngineError Unit) : Ending → Prop
  | .cycle => ∃ message, outcome = .error (.workflowCycleDetected message runId
      (q.visited.drop (q.visited.idxOf q.current)) (q.visited.length + 1))
  | .stepLimit => ∃ message path, outcome = .error (.workflowCycleDetected message runId path
      (q.visited.length + 1))
  | .waiting => ∃ interrupt, outcome = .error (.waitForApproval interrupt)
  | .refused => outcome = .error .validation
  | .escaped => ∃ message, outcome = .error (.escaped message)
  | _ => outcome = .ok ()

def Ending.reports : Ending → List (AuditEventType × Value)
  | .cycle | .stepLimit => [(.workflowFailed, .str runId)]
  | .completed => [(.workflowCompleted, .str runId)]
  | _ => []

/-- An iteration that ended the loop. -/
structure World.Stopped (w w' : World) (q : Position) (stop : Stop)
    (outcome : Except EngineError Unit) : Prop where
  run : stop.ending ≠ .waiting → w'.objects ref = stop.run
  status : (w'.objects ref).status = stop.run.status
  registered : (w'.runs runId).isSome
  trail : ∃ events : List Event, w'.trail = w.trail ++ events ∧
    (if stop.ending.dispatches then ∃ calls, events = .dispatched runId q.current :: calls ∧
      ∀ event ∈ calls, event.IsCall runId q.current ∨ event = .chose runId q.current none
    else events = []) ∧
    (stop.ending = .completed → ∃ node result, workflow.node? q.current = some node ∧
      node.nodeType = .endNode ∧ .exited runId q.current (.returned result) ∈ events)
  stored : engine.sessionFactory → stop.ending.Stored ref runId w w'
  raised : stop.ending.Raises runId q outcome
  silent : engine.Silent →
    lifecycles w'.effects = lifecycles w.effects ++ stop.ending.reports runId
  place : (w'.runs runId).map (·.place) = (w.runs runId).map fun result =>
    (result.run, if stop.ending.dispatches then some q.current else result.currentNodeId)

end refinement

end SyndicateClaw.Orchestrator
