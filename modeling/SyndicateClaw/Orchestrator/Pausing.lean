import SyndicateClaw.Async.Interrupts
import SyndicateClaw.Orchestrator.RunCalls
import SyndicateClaw.Orchestrator.Walk

/-! Pauses that reach a call while it is suspended.

`pause` sets the status, and the loop looks at the status before a node is handed to
`_execute_node` and after that. A pause that arrives in between stops the loop behind a node
it has executed, with `current_node_id` at this node. -/

namespace SyndicateClaw.Orchestrator

open Async

def WorkflowRunResult.succeeded (result : WorkflowRunResult) : List String :=
  (result.nodeExecutions.filter (·.status = .completed)).map (·.nodeId)

/-- What is read of the result registered for a run. -/
structure Ledger where
  run : Nat
  current : Option String
  visited : List String
  succeeded : List String

def WorkflowRunResult.ledger (result : WorkflowRunResult) : Ledger :=
  { run := result.run, current := result.currentNodeId, visited := result.visitedNodes
    succeeded := result.succeeded }

def World.ledger (w : World) (runId : String) : Option Ledger := (w.runs runId).map (·.ledger)

/-- `pause` in one step. -/
abbrev World.pausedBy (runId : String) (w : World) : World := Signal.act runId w .pause

/-- The run is registered with these entries and has this status. -/
structure World.Carries (ref : Nat) (runId : String) (ledger : Ledger)
    (status : WorkflowRunStatus) (w : World) : Prop where
  listed : w.ledger runId = some ledger
  owner : ledger.run = ref
  named : (w.objects ref).id = runId
  status : (w.objects ref).status = status

/-- A step of the loop writes over a pause that arrives now, as the checkpoint of the current
node is saved: the node is END, or its successor lies beyond the bounds of the loop. -/
def World.Overwrites (engine : WorkflowEngine) (workflow : WorkflowDefinition) (runId : String)
    (w : World) : Prop :=
  ∃ ledger current node result, w.ledger runId = some ledger ∧ ledger.current = some current ∧
    workflow.node? current = some node ∧
    w.trail.getLast? = some (.exited runId current (.returned result)) ∧
    (node.nodeType = .endNode ∨
      ∃ next, successor workflow node result (w.objects ledger.run) = some next ∧
        (next ∈ ledger.visited ∨ engine.maxSteps ≤ ledger.visited.length))

/-- A moment of a call at which a pause does no harm: before the first node, or where it is
written over. -/
def PausesSafely (engine : WorkflowEngine) (workflow : WorkflowDefinition) (runId : String)
    (moment : Point × World) : Prop :=
  match moment.1 with
  | .cacheState .started | .audit .workflowStarted => True
  | .saveCheckpoint .executed => moment.2.Overwrites engine workflow runId
  | _ => False

/-- Every node has a handler, and the handlers neither interrupt nor fail. -/
def WorkflowEngine.Obliging (engine : WorkflowEngine) (workflow : WorkflowDefinition) : Prop :=
  ∀ node ∈ workflow.nodes, ∃ handler, engine.handlers node.handler = some handler ∧
    ∀ calls state context, ∃ result, (handler calls state context).exit = .returned result

section carries

variable {ref : Nat} {runId : String} {ledger : Ledger} {status : WorkflowRunStatus} {w : World}

theorem World.Carries.registered (carries : w.Carries ref runId ledger status) :
    ∃ result, w.runs runId = some result ∧ result.run = ref ∧ result.ledger = ledger := by
  obtain ⟨result, found, same⟩ := Option.map_eq_some_iff.mp carries.listed
  exact ⟨result, found, (congrArg Ledger.run same).trans carries.owner, same⟩

theorem World.Carries.modifyRun (carries : w.Carries ref runId ledger status)
    {f : WorkflowRun → WorkflowRun} {status' : WorkflowRunStatus}
    (named : (f (w.objects ref)).id = (w.objects ref).id)
    (made : (f (w.objects ref)).status = status') :
    (w.modifyRun ref f).Carries ref runId ledger status' where
  listed := carries.listed
  owner := carries.owner
  named := by rw [World.modifyRun_objects_self, named, carries.named]
  status := by rw [World.modifyRun_objects_self, made]

theorem World.Carries.modifyResult (carries : w.Carries ref runId ledger status)
    {f : WorkflowRunResult → WorkflowRunResult} {ledger' : Ledger} (owner : ledger'.run = ref)
    (becomes : ∀ result, result.ledger = ledger → (f result).ledger = ledger') :
    (w.modifyResult runId f).Carries ref runId ledger' status := by
  obtain ⟨result, found, -, same⟩ := carries.registered
  refine ⟨?_, owner, carries.named, carries.status⟩
  rw [World.ledger, World.modifyResult_runs_self, found]
  exact congrArg some (becomes result same)

theorem pausedBy_eq (carries : w.Carries ref runId ledger status) :
    ∃ effects, w.pausedBy runId =
      (w.modifyRun ref fun run => { run with status := .paused }).addEffects effects := by
  obtain ⟨result, found, rfl, -⟩ := carries.registered
  simp only [World.pausedBy, Signal.act, settle_pause, found]
  exact ⟨_, rfl⟩

theorem World.Carries.paused (carries : w.Carries ref runId ledger status) :
    (w.pausedBy runId).Carries ref runId ledger .paused := by
  obtain ⟨effects, same⟩ := pausedBy_eq carries
  have modified : (w.modifyRun ref fun run => { run with status := .paused }).Carries ref runId
      ledger .paused := carries.modifyRun rfl rfl
  rw [same]
  exact ⟨modified.listed, modified.owner, modified.named, modified.status⟩

theorem pausedBy_trail (runId : String) (w : World) : (w.pausedBy runId).trail = w.trail := by
  simp only [World.pausedBy, Signal.act, settle_pause]
  split <;> rfl

end carries

/-! ### One node -/

section node

variable {engine : WorkflowEngine} {workflow : WorkflowDefinition} {ref : Nat} {runId : String}
  {ledger : Ledger}

/-- The coroutine does not heed a pause, and no pause of it is harmless. -/
abbrev Ignores {α : Type} (engine : WorkflowEngine) (workflow : WorkflowDefinition)
    (runId : String) (P : WorkflowRunStatus → World → Prop) (m : EngineM α)
    (Q : α → WorkflowRunStatus → World → Prop)
    (E : WorkflowRunStatus → World → Prop := fun _ _ => False) : Prop :=
  Co.Heedless (World.pausedBy runId) (fun point w => ¬ PausesSafely engine workflow runId (point, w))
    .paused P m Q E

def Lists (ref : Nat) (runId : String) (ledger : Ledger) (last : Event)
    (status : WorkflowRunStatus) (w : World) : Prop :=
  w.Carries ref runId ledger status ∧ w.trail.getLast? = some last

theorem ignores_await {point : Point} {last : Event}
    {E : WorkflowRunStatus → World → Prop}
    (harmful : ∀ w, ¬ PausesSafely engine workflow runId (point, w)) :
    Ignores engine workflow runId (Lists ref runId ledger last) (Co.await point)
      (fun _ => Lists ref runId ledger last) E :=
  Co.Heedless.await fun _ w lists =>
    ⟨harmful w, lists.1.paused, by rw [pausedBy_trail]; exact lists.2⟩

theorem ignores_callHandler {handler : NodeHandler} {node : NodeDefinition}
    {context : ExecutionContext}
    (returns : ∀ calls state context, ∃ result, (handler calls state context).exit =
      .returned result) :
    Ignores engine workflow runId (World.Carries ref runId ledger)
      (callHandler handler ref node context)
      fun exit status w => ∃ result, exit = .returned result ∧
        Lists ref runId ledger (.exited runId node.id exit) status w := by
  intro status w carries
  rw [callHandler_eq]
  have ends : ∀ status' (s : World), s.Carries ref runId ledger status' →
      ∃ result, (handler w.calls (s.objects ref).state context).exit = .returned result ∧
        Lists ref runId ledger
          (.exited runId node.id (handler w.calls (s.objects ref).state context).exit) status'
          (s.handled ref (s.objects ref).id node
            (handler w.calls (s.objects ref).state context)) := by
    intro status' s carries
    obtain ⟨result, left⟩ := returns w.calls (s.objects ref).state context
    have written : (s.modifyRun ref fun run => { run with
        state := (handler w.calls (s.objects ref).state context).state }).Carries ref runId
        ledger status' := carries.modifyRun rfl carries.status
    refine ⟨result, left, ⟨written.listed, written.owner, written.named, written.status⟩, ?_⟩
    simp [World.handled, carries.named]
  have invoked : (w.invoke (w.objects ref).id node context.attempt).Carries ref runId ledger
      status := ⟨carries.listed, carries.owner, carries.named, carries.status⟩
  refine ⟨⟨status, fun _ => rfl, fun impossible => absurd rfl impossible, ?_, ends _ _ invoked⟩,
    .paused, ?_, fun _ => rfl, ?_, ends _ _ invoked.paused⟩
  · intro moment member
    cases member
  · intro quiet
    cases quiet
  intro moment member
  obtain rfl := List.mem_singleton.mp member
  exact id

theorem ignores_finishNode {node : NodeDefinition} {execution : NodeExecution}
    {result : NodeResult} (named : execution.nodeId = node.id)
    (completed : execution.status = .completed) :
    Ignores engine workflow runId
      (Lists ref runId ledger (.exited runId node.id (.returned result)))
      (finishNode engine ref runId node ⟨execution, some result, none⟩)
      fun value => Lists ref runId { ledger with succeeded := ledger.succeeded ++ [node.id] }
        (.exited runId node.id (.returned value)) := by
  refine Co.Heedless.bind (Q := fun _ => Lists ref runId
    { ledger with succeeded := ledger.succeeded ++ [node.id] }
    (.exited runId node.id (.returned result))) ?_ fun _ => ?_
  · refine Co.Heedless.straight fun status w lists => ⟨_, (), rfl, ?_, lists.2⟩
    refine lists.1.modifyResult lists.1.owner ?_
    rintro result rfl
    simp [WorkflowRunResult.ledger, WorkflowRunResult.succeeded, completed, named]
  refine Co.Heedless.bind (Q := fun _ => Lists ref runId
    { ledger with succeeded := ledger.succeeded ++ [node.id] }
    (.exited runId node.id (.returned result))) ?_ fun _ => ?_
  · refine Co.Heedless.straight fun status w lists => ⟨_, (), rfl, ?_, lists.2⟩
    exact lists.1.modifyRun rfl lists.1.status
  refine Co.Heedless.bind (Q := fun _ => Lists ref runId
    { ledger with succeeded := ledger.succeeded ++ [node.id] }
    (.exited runId node.id (.returned result))) ?_ fun _ => ?_
  · unfold persistRunAndNode
    split
    · refine Co.Heedless.bind (ignores_await fun _ => id) fun _ => ?_
      refine Co.Heedless.straight fun status w lists => ⟨_, (), rfl, ?_, lists.2⟩
      exact ⟨lists.1.listed, lists.1.owner, lists.1.named, lists.1.status⟩
    · exact Co.Heedless.straight fun status w lists => ⟨w, (), rfl, lists⟩
  simp only [completed, if_true]
  refine Co.Heedless.bind (ignores_await fun _ => id) fun _ => ?_
  exact Co.Heedless.straight fun status w lists => ⟨w, result, rfl, lists⟩

def Succeeds (node : NodeDefinition) (result : NodeResult) (attempts : Attempts) : Prop :=
  ∃ execution, attempts = ⟨execution, some result, none⟩ ∧ execution.nodeId = node.id ∧
    execution.status = .completed

theorem ignores_attemptNode {handler : NodeHandler} {node : NodeDefinition}
    {context : ExecutionContext}
    (returns : ∀ calls state context, ∃ result, (handler calls state context).exit =
      .returned result)
    (multiplier delay : Rat) (left attempt : Nat) {execution : NodeExecution}
    (named : execution.nodeId = node.id) :
    Ignores engine workflow runId (World.Carries ref runId ledger)
      (attemptNode engine handler ref node context multiplier (left + 1) attempt delay execution)
      fun attempts status w => ∃ result, Succeeds node result attempts ∧
        Lists ref runId ledger (.exited runId node.id (.returned result)) status w := by
  refine Co.Heedless.bind (ignores_callHandler returns) fun exit => ?_
  refine Co.Heedless.bind (Q := fun made status w => ∃ attempts result, made = some attempts ∧
    Succeeds node result attempts ∧
    Lists ref runId ledger (.exited runId node.id (.returned result)) status w) ?_ fun made => ?_
  · refine Co.Heedless.straight ?_
    rintro status w ⟨result, rfl, lists⟩
    refine ⟨_, _, rfl, _, result, rfl, ⟨_, rfl, named, rfl⟩, ?_, lists.2⟩
    exact lists.1.modifyRun rfl lists.1.status
  · rintro status w ⟨attempts, result, rfl, succeeds, lists⟩
    exact ⟨status, fun _ => rfl, fun impossible => absurd rfl impossible, nofun, result, succeeds,
      lists⟩

variable (workflow) in
/-- `_execute_node` runs to its end, and lists the node as executed. -/
theorem ignores_executeNode {handler : NodeHandler} {node : NodeDefinition}
    (context : ExecutionContext) (present : engine.handlers node.handler = some handler)
    (returns : ∀ calls state context, ∃ result, (handler calls state context).exit =
      .returned result) :
    Ignores engine workflow runId (World.Carries ref runId ledger)
      (executeNode engine ref runId context node)
      fun result => Lists ref runId { ledger with succeeded := ledger.succeeded ++ [node.id] }
        (.exited runId node.id (.returned result)) := by
  unfold executeNode
  rw [present, retries_succ]
  refine Co.Heedless.bind (Q := fun _ => World.Carries ref runId ledger) ?_ fun id => ?_
  · refine Co.Heedless.straight fun status w carries => ⟨_, _, rfl, ?_⟩
    exact ⟨carries.listed, carries.owner, carries.named, carries.status⟩
  refine Co.Heedless.bind (Q := fun _ => World.Carries ref runId ledger)
    (.straight fun status w carries => ⟨w, _, rfl, carries⟩) fun run => ?_
  refine Co.Heedless.bind (Q := fun _ => World.Carries ref runId ledger)
    (.straight fun status w carries => ⟨w, _, rfl, carries⟩) fun now => ?_
  refine Co.Heedless.bind (ignores_attemptNode returns _ _ _ _ rfl) fun attempts => ?_
  rintro status w ⟨result, ⟨execution, rfl, named, completed⟩, lists⟩
  exact ignores_finishNode named completed status w lists

variable (engine) in
theorem pausesSafely_save_iff {node : NodeDefinition} {result : NodeResult}
    {status : WorkflowRunStatus} {w : World} (current : ledger.current = some node.id)
    (found : workflow.node? node.id = some node)
    (lists : Lists ref runId ledger (.exited runId node.id (.returned result)) status w) :
    PausesSafely engine workflow runId (.saveCheckpoint .executed, w) ↔ node.nodeType = .endNode ∨
      ∃ next, successor workflow node result (w.objects ref) = some next ∧
        (next ∈ ledger.visited ∨ engine.maxSteps ≤ ledger.visited.length) := by
  constructor
  · rintro ⟨ledger', current', node', result', listed, stands, found', last, overwritten⟩
    obtain rfl := Option.some.inj (lists.1.listed.symm.trans listed)
    obtain rfl := Option.some.inj (current.symm.trans stands)
    obtain rfl := Option.some.inj (found.symm.trans found')
    have same := Option.some.inj (lists.2.symm.trans last)
    simp only [Event.exited.injEq, HandlerExit.returned.injEq, true_and] at same
    rw [same, ← lists.1.owner]
    exact overwritten
  · intro overwritten
    refine ⟨ledger, node.id, node, result, lists.1.listed, current, found, lists.2, ?_⟩
    rw [lists.1.owner]
    exact overwritten

def Rests (ref : Nat) (runId : String) (ledger : Ledger) (state : State)
    (status : WorkflowRunStatus) (w : World) : Prop :=
  w.Carries ref runId ledger status ∧ (w.objects ref).state = state

section rests

variable {state : State} {E : WorkflowRunStatus → World → Prop}

theorem Rests.paused {status : WorkflowRunStatus} {w : World}
    (rests : Rests ref runId ledger state status w) :
    Rests ref runId ledger state .paused (w.pausedBy runId) := by
  obtain ⟨effects, same⟩ := pausedBy_eq rests.1
  exact ⟨rests.1.paused, by simp [same, rests.2]⟩

theorem ignores_rest {point : Point}
    (harmful : ∀ w, ¬ PausesSafely engine workflow runId (point, w)) :
    Ignores engine workflow runId (Rests ref runId ledger state) (Co.await point)
      (fun _ => Rests ref runId ledger state) E :=
  Co.Heedless.await fun _ w rests => ⟨harmful w, rests.paused⟩

theorem ignores_reads {α : Type} {m : EngineM α} (read : World → α)
    (reads : ∀ w, m w = .ok w (read w)) :
    Ignores engine workflow runId (Rests ref runId ledger state) m
      (fun _ => Rests ref runId ledger state) E :=
  Co.Heedless.straight fun _ w rests => ⟨w, read w, reads w, rests⟩

theorem ignores_emitAudit {eventType : AuditEventType}
    (actor resourceType resourceId action : String) (details : State)
    (harmful : ∀ w, ¬ PausesSafely engine workflow runId (.audit eventType, w)) :
    Ignores engine workflow runId (Rests ref runId ledger state)
      (emitAudit eventType actor resourceType resourceId action details)
      (fun _ => Rests ref runId ledger state) E := by
  refine Co.Heedless.bind (Q := fun _ => Rests ref runId ledger state) ?_ fun _ =>
    ignores_rest harmful
  refine .straight fun _ w rests => ⟨_, (), rfl, ?_, rests.2⟩
  exact ⟨rests.1.listed, rests.1.owner, rests.1.named, rests.1.status⟩

variable (engine) in
theorem whenever_completeRun {status : WorkflowRunStatus} {w : World}
    (carries : w.Carries ref runId ledger status) :
    (completeRun ref workflow w).Whenever (World.pausedBy runId) fun log s outcome =>
      outcome = .ok () ∧ ∃ status', (log = [] → status' = .completed) ∧
        (log ≠ [] → status' = .paused) ∧
        (∀ moment ∈ log, ¬ PausesSafely engine workflow runId moment) ∧
        Rests ref runId ledger (w.objects ref).state status' s := by
  have ignores : Ignores engine workflow runId (Rests ref runId ledger (w.objects ref).state)
      (do
        maybeCacheState .completed
        let run ← readRun ref
        emitAudit .workflowCompleted run.initiatedBy "workflow" workflow.id "completed"
          [("run_id", .str run.id)])
      fun _ => Rests ref runId ledger (w.objects ref).state := by
    refine Co.Heedless.bind (ignores_rest fun _ => id) fun _ => ?_
    refine Co.Heedless.bind (ignores_reads (·.objects ref) fun _ => rfl) fun run => ?_
    exact ignores_emitAudit _ _ _ _ _ fun _ => id
  have begun : (w.modifyRun ref fun run => { run with
      status := .completed
      completedAt := some w.now }).Carries ref runId ledger .completed :=
    carries.modifyRun rfl rfl
  refine (ignores .completed _ ⟨begun, by simp⟩).mono ?_
  rintro log s outcome ⟨status', same, struck, harmful, ends⟩
  rcases outcome with e | u
  · exact ends.elim
  · exact ⟨rfl, status', same, struck, harmful, ends⟩

/-- An execution bound fails the run, whatever its status was. -/
theorem whenever_boundFailure {α : Type} (reason message : String) (cyclePath : List String)
    (stepCount : Nat) {status : WorkflowRunStatus} {w : World}
    (carries : w.Carries ref runId ledger status) :
    (raiseExecutionBoundFailure engine ref workflow reason message cyclePath stepCount w :
        Res World EngineError Point α).Whenever (World.pausedBy runId) fun log s outcome =>
      (∃ e, outcome = .error e) ∧ ∃ status', (log = [] → status' = .failed) ∧
        (log ≠ [] → status' = .paused) ∧
        (∀ moment ∈ log, ¬ PausesSafely engine workflow runId moment) ∧
        Rests ref runId ledger
          (boundFailure w.now reason cyclePath stepCount (w.objects ref)).state status' s := by
  generalize failed : boundFailure w.now reason cyclePath stepCount (w.objects ref) = run
  have ignores : Ignores engine workflow runId (Rests ref runId ledger run.state)
      (do
        maybeCacheState .boundFailure
        persistRunFailure engine ref
        let run ← readRun ref
        emitWorkflowFailedAudit run workflow reason cyclePath stepCount
        Co.raise (.workflowCycleDetected message run.id cyclePath stepCount) : EngineM α)
      (fun _ _ _ => False) (Rests ref runId ledger run.state) := by
    refine Co.Heedless.bind (ignores_rest fun _ => id) fun _ => ?_
    refine Co.Heedless.bind (Q := fun _ => Rests ref runId ledger run.state) ?_ fun _ => ?_
    · unfold persistRunFailure
      split
      · refine Co.Heedless.bind (ignores_rest fun _ => id) fun _ => ?_
        refine .straight fun status w rests => ⟨_, (), rfl, ?_, rests.2⟩
        exact ⟨rests.1.listed, rests.1.owner, rests.1.named, rests.1.status⟩
      · exact ignores_reads (fun _ => ()) fun _ => rfl
    refine Co.Heedless.bind (ignores_reads (·.objects ref) fun _ => rfl) fun run => ?_
    refine Co.Heedless.bind ?_ fun _ => Co.Heedless.raise fun _ _ rests => rests
    exact Co.Heedless.bind (ignores_reads (·.now) fun _ => rfl) fun now =>
      ignores_emitAudit _ _ _ _ _ fun _ => id
  have begun : (w.modifyRun ref (boundFailure w.now reason cyclePath stepCount)).Carries ref
      runId ledger .failed := carries.modifyRun rfl rfl
  refine (ignores .failed _ ⟨begun, by simp [failed]⟩).mono ?_
  rintro log s outcome ⟨status', same, struck, harmful, ends⟩
  rcases outcome with e | u
  · exact ⟨⟨e, rfl⟩, status', same, struck, harmful, ends⟩
  · exact ends.elim

end rests

/-- The part of an iteration after the node's execution, by the pauses that reach it. -/
inductive Advances (engine : WorkflowEngine) (workflow : WorkflowDefinition) (ref : Nat)
    (runId : String) (ledger : Ledger) (node : NodeDefinition) (result : NodeResult) (w : World)
    (log : List (Point × World)) (s : World) : LoopExit → Prop
  | interrupted (carries : s.Carries ref runId ledger .paused)
      (harmful : ∃ moment ∈ log, ¬ PausesSafely engine workflow runId moment) :
      Advances engine workflow ref runId ledger node result w log s .stop
  | completed (last : node.nodeType = .endNode) (carries : s.Carries ref runId ledger .completed)
      (state : (s.objects ref).state = (w.objects ref).state)
      (harmless : ∀ moment ∈ log, PausesSafely engine workflow runId moment) :
      Advances engine workflow ref runId ledger node result w log s .stop
  | onward (other : node.nodeType ≠ .endNode) (quiet : log = [])
      (run : s.objects ref = checkpointRun engine result (w.objects ref))
      (carries : s.Carries ref runId ledger .running)
      (same : s.calls = w.calls ∧ s.ids = w.ids ∧ s.now = w.now) :
      Advances engine workflow ref runId ledger node result w log s
        (.goTo (successor workflow node result (w.objects ref)))
  | outrun (other : node.nodeType ≠ .endNode) (moment : Point × World) (once : log = [moment])
      (harmless : PausesSafely engine workflow runId moment ↔
        ∃ next, successor workflow node result (w.objects ref) = some next ∧
          (next ∈ ledger.visited ∨ engine.maxSteps ≤ ledger.visited.length))
      (run : s.objects ref = { checkpointRun engine result (w.objects ref) with
        status := .paused })
      (carries : s.Carries ref runId ledger .paused) (same : s.now = w.now) :
      Advances engine workflow ref runId ledger node result w log s
        (.goTo (successor workflow node result (w.objects ref)))

/-- `advance` once a checkpoint asked for has been saved. -/
def leaveNode (ref : Nat) (workflow : WorkflowDefinition) (node : NodeDefinition)
    (result : NodeResult) : EngineM LoopExit :=
  if node.nodeType = .endNode then do
    completeRun ref workflow
    return .stop
  else do
    let run ← readRun ref
    let next := successor workflow node result run
    record (.chose run.id node.id next)
    return .goTo next

theorem advance_eq (node : NodeDefinition) (result : NodeResult) (w : World) :
    advance engine ref workflow node result w = .yield (.cacheState .executed) w fun s =>
      if haltsAfter (s.objects ref).status then .ok s .stop
      else if result.shouldCheckpoint then
        .yield (.saveCheckpoint .executed) (s.modifyRun ref (checkpointRun engine result))
          (leaveNode ref workflow node result)
      else leaveNode ref workflow node result s := by
  have reads : advance engine ref workflow node result w = .yield (.cacheState .executed) w fun s =>
      (if haltsAfter (s.objects ref).status then (return .stop : EngineM LoopExit) else do
        if result.shouldCheckpoint then persistCheckpoint engine ref .executed
        leaveNode ref workflow node result) s := rfl
  rw [reads]
  congr 1
  funext s
  split_ifs with halted saves
  · rfl
  · have saved : (checkpointRun engine result) = fun run => { run with
        checkpointData := some (checkpointFor engine run.state) } := by
      funext run
      simp [checkpointRun, saves]
    rw [saved]
    rfl
  · rfl

theorem advance_paused (node : NodeDefinition) (result : NodeResult) {w : World}
    (carries : w.Carries ref runId ledger .paused) :
    (advance engine ref workflow node result w).Whenever (World.pausedBy runId)
      fun _ s outcome => outcome = .ok .stop ∧ s.Carries ref runId ledger .paused := by
  have halts : ∀ s : World, s.Carries ref runId ledger .paused →
      haltsAfter (s.objects ref).status = true := by
    intro s carries
    rw [carries.status]
    rfl
  rw [advance_eq]
  constructor
  · simp only [if_pos (halts w carries)]
    exact ⟨rfl, carries⟩
  · simp only [if_pos (halts _ carries.paused)]
    exact ⟨rfl, carries.paused⟩

variable (engine) in
theorem whenever_leaveNode (node : NodeDefinition) (result : NodeResult)
    {status : WorkflowRunStatus} {w : World} (carries : w.Carries ref runId ledger status) :
    (leaveNode ref workflow node result w).Whenever (World.pausedBy runId) fun log s outcome =>
      (node.nodeType = .endNode ∧ outcome = .ok .stop ∧
        ∃ status', (log = [] → status' = .completed) ∧ (log ≠ [] → status' = .paused) ∧
          (∀ moment ∈ log, ¬ PausesSafely engine workflow runId moment) ∧
          Rests ref runId ledger (w.objects ref).state status' s) ∨
      (node.nodeType ≠ .endNode ∧ log = [] ∧
        outcome = .ok (.goTo (successor workflow node result (w.objects ref))) ∧
        s = { w with trail := w.trail ++
          [.chose runId node.id (successor workflow node result (w.objects ref))] }) := by
  unfold leaveNode
  split
  · next last =>
      refine (whenever_completeRun engine carries).bind ?_ fun log s e ends => ?_
      · rintro log s ⟨⟩ ⟨-, status', same, struck, harmful, rests⟩
        exact .inl ⟨last, rfl, status', by simpa using same, by simpa using struck,
          by simpa using harmful, rests⟩
      · cases ends.1
  · next other =>
      refine .inr ⟨other, rfl, rfl, ?_⟩
      rw [← carries.named]

theorem successor_congr (node : NodeDefinition) (result : NodeResult) {run run' : WorkflowRun}
    (same : run.state = run'.state) :
    successor workflow node result run = successor workflow node result run' := by
  unfold successor
  rw [same]

theorem leaveNode_advances {node : NodeDefinition} {result : NodeResult} {w w₁ : World}
    (saved : w₁.objects ref = checkpointRun engine result (w.objects ref))
    (same : w₁.calls = w.calls ∧ w₁.ids = w.ids ∧ w₁.now = w.now)
    (carries : w₁.Carries ref runId ledger .running) :
    (leaveNode ref workflow node result w₁).Whenever (World.pausedBy runId)
      fun log s outcome => ∃ exit, outcome = .ok exit ∧
        Advances engine workflow ref runId ledger node result w log s exit := by
  have state : (w₁.objects ref).state = (w.objects ref).state := by
    rw [saved, checkpointRun_state]
  refine (whenever_leaveNode engine node result carries).mono ?_
  rintro log s outcome (⟨last, rfl, status, completed, paused, harmful, carries', unchanged⟩ |
    ⟨other, quiet, rfl, rfl⟩)
  · refine ⟨.stop, rfl, ?_⟩
    rcases log with _ | ⟨moment, later⟩
    · obtain rfl := completed rfl
      exact .completed last carries' (unchanged.trans state) nofun
    · obtain rfl := paused nofun
      exact .interrupted carries' ⟨moment, List.mem_cons_self, harmful _ List.mem_cons_self⟩
  · rw [successor_congr node result state]
    exact ⟨_, rfl, .onward other quiet saved
      ⟨carries.listed, carries.owner, carries.named, carries.status⟩ same⟩

theorem leaveNode_outruns {node : NodeDefinition} {result : NodeResult} {w w₁ : World}
    (saved : w₁.objects ref = checkpointRun engine result (w.objects ref)) (same : w₁.now = w.now)
    (current : ledger.current = some node.id) (found : workflow.node? node.id = some node)
    (lists : Lists ref runId ledger (.exited runId node.id (.returned result)) .running w₁) :
    (leaveNode ref workflow node result (w₁.pausedBy runId)).Whenever (World.pausedBy runId)
      fun log s outcome => ∃ exit, outcome = .ok exit ∧
        Advances engine workflow ref runId ledger node result w
          ((.saveCheckpoint .executed, w₁) :: log) s exit := by
  have state : (w₁.objects ref).state = (w.objects ref).state := by
    rw [saved, checkpointRun_state]
  obtain ⟨effects, paused⟩ := pausedBy_eq lists.1
  have state' : ((w₁.pausedBy runId).objects ref).state = (w.objects ref).state := by
    simp [paused, state]
  have harmless := pausesSafely_save_iff engine current found lists
  rw [successor_congr node result state] at harmless
  refine (whenever_leaveNode engine node result lists.1.paused).mono ?_
  rintro log s outcome (⟨last, rfl, status, completed, struck, harmful, carries', unchanged⟩ |
    ⟨other, rfl, rfl, rfl⟩)
  · refine ⟨.stop, rfl, ?_⟩
    rcases log with _ | ⟨moment, later⟩
    · obtain rfl := completed rfl
      refine .completed last carries' (unchanged.trans state') ?_
      intro moment member
      obtain rfl := List.mem_singleton.mp member
      exact harmless.mpr (.inl last)
    · obtain rfl := struck nofun
      exact .interrupted carries' ⟨moment, List.mem_cons_of_mem _ List.mem_cons_self,
        harmful _ List.mem_cons_self⟩
  · rw [successor_congr node result state']
    have carries := lists.1.paused
    refine ⟨_, rfl, .outrun other _ rfl (harmless.trans (or_iff_right other)) ?_
      ⟨carries.listed, carries.owner, carries.named, carries.status⟩ ?_⟩
    · simp [paused, saved]
    · rw [paused]
      exact same

theorem whenever_advance {node : NodeDefinition} {result : NodeResult} {w : World}
    (current : ledger.current = some node.id) (found : workflow.node? node.id = some node)
    (lists : Lists ref runId ledger (.exited runId node.id (.returned result)) .running w) :
    (advance engine ref workflow node result w).Whenever (World.pausedBy runId)
      fun log s outcome => ∃ exit, outcome = .ok exit ∧
        Advances engine workflow ref runId ledger node result w log s exit := by
  have running : haltsAfter (w.objects ref).status = false := by
    rw [lists.1.status]
    rfl
  have paused : haltsAfter ((w.pausedBy runId).objects ref).status = true := by
    rw [lists.1.paused.status]
    rfl
  rw [advance_eq]
  refine ⟨?_, ?_⟩
  · simp only [running, Bool.false_eq_true, if_false]
    split
    · have kept := (checkpointRun_record engine result (w.objects ref)).2
      have saved : (w.modifyRun ref (checkpointRun engine result)).Carries ref runId ledger
          .running := lists.1.modifyRun kept.1 (kept.2.trans lists.1.status)
      exact ⟨leaveNode_advances (by simp) ⟨rfl, rfl, rfl⟩ saved,
        leaveNode_outruns (by simp) rfl current found ⟨saved, lists.2⟩⟩
    · next saves =>
        have unsaved : checkpointRun engine result (w.objects ref) = w.objects ref := by
          simp [checkpointRun, saves]
        exact leaveNode_advances unsaved.symm ⟨rfl, rfl, rfl⟩ lists.1
  · simp only [paused, if_true]
    exact ⟨.stop, rfl, .interrupted lists.1.paused ⟨_, List.mem_cons_self, id⟩⟩

end node

end SyndicateClaw.Orchestrator
