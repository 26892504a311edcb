import Mathlib.Data.List.Sort
import SyndicateClaw.Orchestrator.ApprovalBoundary
import SyndicateClaw.Orchestrator.Condition

/-! The workflow engine: node execution with retries, the execution loop, and the
control operations. -/

namespace SyndicateClaw.Orchestrator

open Async

/-! ### The graph -/

/-- `nodes_by_id.get(id)`: a later node replaces an earlier one of the same id. -/
def WorkflowDefinition.node? (workflow : WorkflowDefinition) (id : String) :
    Option NodeDefinition :=
  workflow.nodes.reverse.find? (·.id = id)

theorem node?_id (workflow : WorkflowDefinition) {id : String} {node : NodeDefinition}
    (found : workflow.node? id = some node) : node.id = id := by
  have same := List.find?_some found
  simpa using same

/-- `_find_start_node`. -/
def findStartNode (workflow : WorkflowDefinition) : Option NodeDefinition :=
  workflow.nodes.find? (·.nodeType = .start)

/-- `_resolve_next_node`. The sort is stable. -/
def resolveNextNode (currentNodeId : String) (state : State) (edges : List EdgeDefinition) :
    Option String :=
  let candidates := (edges.filter (·.sourceNodeId = currentNodeId)).insertionSort
    fun a b => b.priority ≤ a.priority
  (candidates.find? fun edge => edge.condition.all fun c => evaluateCondition c state).map
    (·.targetNodeId)

/-- The node an execution begins with: `run_result.current_node_id`, else a
non-empty string under `_resume_from`, else the START node. -/
def entryNode (currentNodeId : Option String) (state : State) (startNode : NodeDefinition) :
    String :=
  match currentNodeId.filter (· ≠ "") with
  | some current => current
  | none =>
      match (lookup state "_resume_from").asStr?.filter (· ≠ "") with
      | some resumeFrom => resumeFrom
      | none => startNode.id

section entry

variable (state : State) (startNode : NodeDefinition)

theorem entryNode_current {current : String} (named : current ≠ "") :
    entryNode (some current) state startNode = current := by
  simp [entryNode, Option.filter_some, named]

theorem entryNode_empty : entryNode (some "") state startNode = entryNode none state startNode := by
  simp [entryNode, Option.filter_some]

theorem entryNode_resumeFrom {resumeFrom : String} (named : resumeFrom ≠ "")
    (marked : Dict.get? state "_resume_from" = some (.str resumeFrom)) :
    entryNode none state startNode = resumeFrom := by
  simp [entryNode, lookup, marked, Value.asStr?, Option.filter_some, named]

theorem entryNode_start
    (unmarked : ∀ resumeFrom, Dict.get? state "_resume_from" = some (.str resumeFrom) →
      resumeFrom = "") :
    entryNode none state startNode = startNode.id := by
  have absent : (lookup state "_resume_from").asStr?.filter (· ≠ "") = none := by
    cases marked : Dict.get? state "_resume_from" with
    | none => simp [lookup, marked, Value.asStr?]
    | some value =>
        cases value <;> simp [lookup, marked, Value.asStr?, Option.filter_some]
        exact unmarked _ marked
  simp only [entryNode, Option.filter_none, absent]

theorem entryNode_congr {state state' : State} (currentNodeId : Option String)
    (same : Dict.get? state' "_resume_from" = Dict.get? state "_resume_from") :
    entryNode currentNodeId state' startNode = entryNode currentNodeId state startNode := by
  simp only [entryNode, lookup, same]

end entry

section

variable (engine : WorkflowEngine)

/-! ### Checkpoints and failures -/

/-- What `_persist_checkpoint` stores for a state. -/
def checkpointFor (state : State) : JsonText :=
  let data := Value.dict (jsonableState state)
  match engine.signingKey.filter (· ≠ "") with
  | some key => .document (.dict
      [("data", data), ("checkpoint_hmac", .str (engine.platform.hmacHex key data))])
  | none => .document data

def persistCheckpoint (ref : Nat) (stage : Stage) : EngineM Unit := do
  modifyRun ref fun run => { run with checkpointData := some (checkpointFor engine run.state) }
  Co.await (.saveCheckpoint stage)

def emitWorkflowFailedAudit (run : WorkflowRun) (workflow : WorkflowDefinition)
    (reason : String) (cyclePath : List String) (stepCount : Nat) : EngineM Unit := do
  emitAudit .workflowFailed (if run.initiatedBy = "" then "system:engine" else run.initiatedBy)
    "workflow" workflow.id "failed"
    [("run_id", .str run.id), ("reason", .str reason),
     ("cycle_path", .list (cyclePath.map .str)), ("step_count", .int stepCount),
     ("timestamp", .str (Instant.isoformat (← utcnow)))]

def boundFailure (now : Instant) (reason : String) (cyclePath : List String) (stepCount : Nat)
    (run : WorkflowRun) : WorkflowRun :=
  { run with
    status := .failed
    completedAt := some now
    error := some reason
    state := Dict.set (Dict.set run.state "_failure_reason" (.str reason)) "_execution_bound"
      (.dict [("reason", .str reason), ("cycle_path", .list (cyclePath.map .str)),
              ("step_count", .int stepCount),
              ("failed_at", .str (Instant.isoformat now))]) }

def persistRunFailure (ref : Nat) : EngineM Unit := do
  if engine.sessionFactory then
    Co.await .persistRunFailure
    let run ← readRun ref
    modifyDb (·.upsertRun run)

def raiseExecutionBoundFailure {α : Type} (ref : Nat) (workflow : WorkflowDefinition)
    (reason message : String) (cyclePath : List String) (stepCount : Nat) : EngineM α := do
  let now ← utcnow
  modifyRun ref (boundFailure now reason cyclePath stepCount)
  maybeCacheState .boundFailure
  persistRunFailure engine ref
  let run ← readRun ref
  emitWorkflowFailedAudit run workflow reason cyclePath stepCount
  Co.raise (.workflowCycleDetected message run.id cyclePath stepCount)

/-! ### Node execution -/

def persistRunAndNode (ref : Nat) (execution : NodeExecution) : EngineM Unit := do
  if engine.sessionFactory then
    Co.await (.persistRunAndNode execution.nodeId)
    let run ← readRun ref
    modifyDb (·.persistRunAndNode run execution)

def persistApprovalBoundary (ref : Nat) (execution : NodeExecution)
    (request : ApprovalRequest) : EngineM Unit := do
  if engine.sessionFactory then
    Co.await (.persistApprovalBoundary execution.nodeId request.id)
    let run ← readRun ref
    modifyDb (·.persistApprovalBoundary run execution request)

def emitApprovalRequiredAudit (interrupt : WaitForApprovalError) (run : WorkflowRun) :
    EngineM Unit := do
  emitAudit .approvalRequired (if run.initiatedBy = "" then "system:engine" else run.initiatedBy)
    "workflow_run" run.id "approval_required"
    [("run_id", .str interrupt.runId), ("node_id", .str interrupt.nodeId),
     ("tool_name", .str interrupt.toolName), ("approval_id", .str interrupt.approvalId),
     ("policy_version", .str ((run.versionManifest.map (·.policyVersion)).getD "")),
     ("timestamp", .str (Instant.isoformat (← utcnow)))]

/-- The state keys `_prepare_approval_interrupt` writes. -/
def waitingState (now : Instant) (request : ApprovalRequest) (nodeId runId : String)
    (state : State) : State :=
  Dict.set (Dict.set (Dict.set state "_waiting_approval" (.dict
    [("approval_id", .str request.id), ("tool_name", .str (request.toolName.getD "")),
     ("node_id", .str nodeId), ("run_id", .str runId),
     ("requested_at", .str (Instant.isoformat now))]))
    "_resume_from" (.str nodeId))
    "_pending_approval_id" (.str request.id)

def prepareApprovalInterrupt (exc : WaitForApprovalError) (node : NodeDefinition) (ref : Nat)
    (execution : NodeExecution) : EngineM WaitForApprovalError := do
  let fresh ← freshId engine
  let now ← utcnow
  let run ← readRun ref
  match approvalRequestForInterrupt engine.platform fresh now exc node run execution with
  | none => Co.raise .validation
  | some request =>
      modifyRun ref fun run =>
        { run with state := waitingState now request node.id run.id run.state }
      persistCheckpoint engine ref .approvalBoundary
      maybeCacheState .approvalBoundary
      persistApprovalBoundary engine ref execution request
      let run ← readRun ref
      let enriched : WaitForApprovalError :=
        { message := exc.message
          approvalId := request.id
          toolName := request.toolName.getD ""
          nodeId := node.id
          runId := run.id
          persistedState := jsonableState run.state }
      emitApprovalRequiredAudit enriched run
      return enriched

/-- The local variables `execution`, `result` and `approval_interrupt` after the
attempts of `_execute_node`. -/
structure Attempts where
  execution : NodeExecution
  result : Option NodeResult
  approvalInterrupt : Option WaitForApprovalError

def duration (execution : NodeExecution) (now : Instant) : Option Int :=
  match execution.startedAt with
  | some started => some (((now : Int) - started).tdiv 1000)
  | none => execution.durationMs

/-- `result = await handler(run.state, context)`: the call is recorded, the
handler may suspend, and its writes to the state dictionary stay. -/
def callHandler (handler : NodeHandler) (ref : Nat) (node : NodeDefinition)
    (context : ExecutionContext) : EngineM HandlerExit := do
  let run ← readRun ref
  let index := (← Co.get).calls
  Co.modify fun w => { w with calls := index + 1 }
  record (.invoked run.id node.id node.handler context.attempt)
  Co.await (.handler node.id context.attempt)
  let run ← readRun ref
  let outcome := handler index run.state context
  modifyRun ref fun run => { run with state := outcome.state }
  Co.modify (·.addEffects outcome.effects)
  record (.exited run.id node.id outcome.exit)
  return outcome.exit

/-- What one way of leaving the handler does; `none` asks for another attempt. -/
def settleAttempt (ref : Nat) (node : NodeDefinition) (execution : NodeExecution)
    (lastAttempt : Bool) : HandlerExit → EngineM (Option Attempts)
  | .returned result => do
      modifyRun ref fun run => { run with state := Dict.update run.state result.outputState }
      let run ← readRun ref
      let now ← utcnow
      return some
        { execution := { execution with
            status := .completed
            outputState := run.state
            completedAt := some now
            durationMs := duration execution now }
          result := some result
          approvalInterrupt := none }
  | .pauseExecution => do
      modifyRun ref fun run => { run with status := .paused }
      let run ← readRun ref
      return some
        { execution := { execution with
            status := .completed
            completedAt := some (← utcnow) }
          result := some { outputState := run.state }
          approvalInterrupt := none }
  | .waitForApproval exc => do
      modifyRun ref fun run => { run with status := .waitingApproval }
      let run ← readRun ref
      let now ← utcnow
      let execution := { execution with
        status := .waitingApproval
        completedAt := some now
        outputState := run.state
        durationMs := duration execution now }
      let interrupt ← prepareApprovalInterrupt engine exc node ref execution
      let run ← readRun ref
      return some
        { execution
          result := some { outputState := run.state }
          approvalInterrupt := some interrupt }
  | .waitForAgentResponse => do
      modifyRun ref fun run => { run with status := .waitingAgentResponse }
      let run ← readRun ref
      return some
        { execution := { execution with
            status := .waitingAgentResponse
            completedAt := some (← utcnow) }
          result := some { outputState := run.state }
          approvalInterrupt := none }
  | .failed message =>
      if lastAttempt then do
        modifyRun ref fun run => { run with
          status := .failed
          error := some ("Node " ++ node.id ++ " failed: " ++ message) }
        let run ← readRun ref
        return some
          { execution := { execution with
              status := .failed
              error := some message
              completedAt := some (← utcnow) }
            result := some { outputState := run.state }
            approvalInterrupt := none }
      else return none
  | .escaped message => Co.raise (.escaped message)

/-- The retry loop of `_execute_node`; the first argument counts the attempts left. -/
def attemptNode (handler : NodeHandler) (ref : Nat) (node : NodeDefinition)
    (context : ExecutionContext) (multiplier : Rat) :
    Nat → Nat → Rat → NodeExecution → EngineM Attempts
  | 0, _, _, execution => return { execution, result := none, approvalInterrupt := none }
  | left + 1, attempt, delay, execution => do
      let execution := { execution with attempt }
      let exit ← callHandler handler ref node { context with attempt }
      match ← settleAttempt engine ref node execution (left = 0) exit with
      | some attempts => return attempts
      | none =>
          Co.await (.backoff node.id delay)
          attemptNode handler ref node context multiplier left (attempt + 1)
            (delay * multiplier) execution

/-- The part of `_execute_node` after the attempts. -/
def finishNode (ref : Nat) (runId : String) (node : NodeDefinition) (attempts : Attempts) :
    EngineM NodeResult := do
  modifyResult runId fun result =>
    { result with nodeExecutions := result.nodeExecutions ++ [attempts.execution] }
  match attempts.result, attempts.approvalInterrupt with
  | none, _ => Co.raise (.runtime ("Handler for node " ++ node.id ++ " returned None"))
  | some _, some interrupt => Co.raise (.waitForApproval interrupt)
  | some result, none =>
      modifyRun ref fun run => { run with state := clearConsumedResumeMarker node.id run.state }
      persistRunAndNode engine ref attempts.execution
      if attempts.execution.status = .completed then Co.await (.plugin node.id)
      return result

/-- The `NodeExecution` a node begins with. -/
def startExecution (id : String) (now : Instant) (run : WorkflowRun) (node : NodeDefinition) :
    NodeExecution :=
  { id, runId := run.id, nodeId := node.id, nodeName := node.name, status := .running
    attempt := 1, inputState := run.state, outputState := [], startedAt := some now
    completedAt := none, error := none, durationMs := none }

/-- `_execute_node`. -/
def executeNode (ref : Nat) (runId : String) (context : ExecutionContext)
    (node : NodeDefinition) : EngineM NodeResult := do
  match engine.handlers node.handler with
  | none =>
      modifyRun ref fun run => { run with
        status := .failed
        error := some ("No handler registered for: " ++ node.handler) }
      return { outputState := (← readRun ref).state }
  | some handler =>
      let id ← freshId engine
      let run ← readRun ref
      let now ← utcnow
      let execution := startExecution id now run node
      let attempts ← attemptNode engine handler ref node { context with config := node.config }
        ((node.retryPolicy.map (·.backoffMultiplier)).getD 1)
        ((node.retryPolicy.map (·.maxAttempts)).getD 1) 1
        ((node.retryPolicy.map (·.backoffSeconds)).getD 1) execution
      finishNode engine ref runId node attempts

/-! ### The execution loop -/

/-- How an iteration of the loop ends: `break`, or the next `current_node_id`. -/
inductive LoopExit where
  | stop
  | goTo (next : Option String)

def haltsBefore (status : WorkflowRunStatus) : Bool :=
  status ∈ [.paused, .cancelled, .waitingApproval, .waitingAgentResponse]

/-- The statuses the check after `_execute_node` stops at. -/
def haltsAfter (status : WorkflowRunStatus) : Bool :=
  status ∈ [.failed, .paused, .waitingApproval, .waitingAgentResponse]

def completeRun (ref : Nat) (workflow : WorkflowDefinition) : EngineM Unit := do
  let now ← utcnow
  modifyRun ref fun run => { run with status := .completed, completedAt := some now }
  maybeCacheState .completed
  let run ← readRun ref
  emitAudit .workflowCompleted run.initiatedBy "workflow" workflow.id "completed"
    [("run_id", .str run.id)]

def advance (ref : Nat) (workflow : WorkflowDefinition) (node : NodeDefinition)
    (result : NodeResult) : EngineM LoopExit := do
  maybeCacheState .executed
  if haltsAfter (← readRun ref).status then return .stop
  else
    if result.shouldCheckpoint then persistCheckpoint engine ref .executed
    if node.nodeType = .endNode then
      completeRun ref workflow
      return .stop
    else
      let run ← readRun ref
      let next := result.nextNodeId.or (resolveNextNode node.id run.state workflow.edges)
      record (.chose run.id node.id next)
      return .goTo next

/-- The body of the loop past the bounds, with `current_node_id` already visited. -/
def visitNode (ref : Nat) (runId : String) (context : ExecutionContext)
    (workflow : WorkflowDefinition) (current : String) : EngineM LoopExit := do
  if haltsBefore (← readRun ref).status then return .stop
  else
    match workflow.node? current with
    | none =>
        modifyRun ref fun run => { run with
          status := .failed
          error := some ("Node not found: " ++ current) }
        return .stop
    | some node =>
        Co.modify (·.dispatch runId current)
        let result ← executeNode engine ref runId { context with nodeId := current } node
        advance engine ref workflow node result

/-- The `while` loop of `execute`. `step_count` grows by one an iteration and is
bounded by `max_steps`, which the fuel covers. -/
def executeLoop (ref : Nat) (runId : String) (context : ExecutionContext)
    (workflow : WorkflowDefinition) :
    Nat → Nat → List String → Option String → EngineM Unit
  | _, _, _, none => return ()
  | 0, _, _, some _ => Co.raise .outOfFuel
  | fuel + 1, stepCount, visited, some current => do
      let stepCount := stepCount + 1
      modifyResult runId fun result => { result with stepCount, visitedNodes := visited }
      if current ∈ visited then
        raiseExecutionBoundFailure engine ref workflow "cycle_detected"
          ("Cycle detected at node " ++ current) (visited.drop (visited.idxOf current)) stepCount
      else if engine.maxSteps < stepCount then
        raiseExecutionBoundFailure engine ref workflow "step_limit_exceeded"
          ("Workflow execution exceeded max_steps=" ++ toString engine.maxSteps)
          (visited.drop (visited.length - stepLimitPathLength)) stepCount
      else
        modifyResult runId fun result => { result with visitedNodes := visited ++ [current] }
        match ← visitNode engine ref runId context workflow current with
        | .stop => return ()
        | .goTo next =>
            executeLoop ref runId context workflow fuel stepCount (visited ++ [current]) next

/-- `self._runs.get(run.id) or WorkflowRunResult(run=run)`. -/
def registerRun (ref : Nat) (runId : String) : EngineM Unit :=
  Co.modify fun w => { w with
    runs := Function.update w.runs runId (some ((w.runs runId).getD { run := ref })) }

def execute (ref : Nat) (context : ExecutionContext) (workflow : WorkflowDefinition) :
    EngineM WorkflowRunResult := do
  let runId := (← readRun ref).id
  registerRun ref runId
  let now ← utcnow
  modifyRun ref fun run => { run with status := .running, startedAt := some now }
  maybeCacheState .started
  let run ← readRun ref
  emitAudit .workflowStarted run.initiatedBy "workflow" workflow.id "started"
    [("run_id", .str run.id)]
  match findStartNode workflow with
  | none => Co.raise (.value "Workflow has no START node")
  | some startNode =>
      let result ← findRun runId
      let entry := entryNode result.currentNodeId (← readRun ref).state startNode
      executeLoop engine ref runId context workflow (engine.maxSteps + 1) 0 [] (some entry)
      findRun runId

/-! ### Control operations -/

/-- The statuses `resume` accepts. -/
def resumable (status : WorkflowRunStatus) : Bool :=
  status ∈ [.paused, .waitingApproval, .waitingAgentResponse]

def resume (runId : String) (fromNode : Option String) : EngineM WorkflowRunResult := do
  let result ← findRun runId
  let run ← readRun result.run
  if !resumable run.status then
    Co.raise (.value ("Run " ++ runId ++ " is not paused (status=" ++ run.status.value ++ ")"))
  else
    modifyRun result.run fun run => { run with status := .running }
    record (.resumed runId)
    if let some node := fromNode then
      modifyRun result.run fun run =>
        { run with state := Dict.set run.state "_resume_from" (.str node) }
      modifyResult runId fun result => { result with currentNodeId := some node }
    emitAudit .workflowResumed run.initiatedBy "workflow_run" runId "resumed" []
    findRun runId

def pause (runId : String) : EngineM Unit := do
  let result ← findRun runId
  modifyRun result.run fun run => { run with status := .paused }
  maybeCacheState .control
  let run ← readRun result.run
  emitAudit .workflowPaused run.initiatedBy "workflow_run" runId "paused" []

def cancel (runId : String) : EngineM Unit := do
  let result ← findRun runId
  let now ← utcnow
  modifyRun result.run fun run => { run with status := .cancelled, completedAt := some now }
  maybeCacheState .control
  let run ← readRun result.run
  emitAudit .workflowCancelled run.initiatedBy "workflow_run" runId "cancelled" []

/-- `WorkflowRun.model_validate(run_row)`. -/
def runOfRow (row : WorkflowRunRow) : WorkflowRun :=
  { id := row.id, workflowId := row.workflowId, workflowVersion := row.workflowVersion
    status := row.status, state := row.state, parentRunId := row.parentRunId
    initiatedBy := row.initiatedBy, startedAt := row.startedAt, completedAt := row.completedAt
    error := row.error, checkpointData := row.checkpointData, tags := row.tags
    versionManifest := row.versionManifest, replayMode := row.replayMode }

/-- A run set running again in memory, with the markers of the approval. -/
def World.redeemInMemory (w : World) (ref : Nat) (runId approvalId : String) (payload : State) :
    World :=
  { w.modifyRun ref fun run => { run with
      status := .running
      state := Dict.set (Dict.set run.state "_approval_resume" (.dict payload))
        "_approved_approval_id" (.str approvalId) } with
    trail := w.trail ++ [.resumed runId] }

/-- The branch of `resume_after_approval` without a `session_factory`, up to the
call of `execute`. -/
def resumeInMemory (runId approvalId : String) : EngineM Nat := do
  let result ← findRun runId
  let run ← readRun result.run
  match approvalResumePayload (← utcnow) run.state approvalId with
  | none => Co.raise (.value ("Approval " ++ approvalId ++
      " is not the waiting approval for this run"))
  | some payload =>
      Co.modify fun w => w.redeemInMemory result.run runId approvalId payload
      return result.run

theorem resumeInMemory_eq {w : World} {runId approvalId : String} {result : WorkflowRunResult}
    {payload : State} (registered : w.runs runId = some result)
    (waits : approvalResumePayload w.now (w.objects result.run).state approvalId = some payload) :
    resumeInMemory runId approvalId w =
      .ok (w.redeemInMemory result.run runId approvalId payload) result.run := by
  show (findRun runId w).bind _ = _
  rw [findRun_eq, registered]
  show (match approvalResumePayload w.now (w.objects result.run).state approvalId with
    | none => _
    | some payload => _ : EngineM Nat) w = _
  rw [waits]
  rfl

theorem resumeInMemory_raises {w : World} {runId approvalId : String}
    (absent : ((w.runs runId).bind fun result =>
      approvalResumePayload w.now (w.objects result.run).state approvalId) = none) :
    ∃ e, resumeInMemory runId approvalId w = .raise w e := by
  show ∃ e, (findRun runId w).bind _ = _
  rw [findRun_eq]
  cases registered : w.runs runId with
  | none => exact ⟨_, rfl⟩
  | some result =>
      rw [registered, Option.bind_some] at absent
      show ∃ e, (match approvalResumePayload w.now (w.objects result.run).state approvalId with
        | none => _
        | some payload => _ : EngineM Nat) w = _
      rw [absent]
      exact ⟨_, rfl⟩

/-- A consumption committed, and a new run object put under the run's result. -/
def World.redeem (w : World) (consumption : Consumption) (runId approvalId : String) : World :=
  let run := runOfRow consumption.run
  { w with
    db := consumption.commit w.db runId approvalId
    objects := Function.update w.objects w.nextObject run
    nextObject := w.nextObject + 1
    runs := Function.update w.runs run.id
      (some { (w.runs run.id).getD { run := w.nextObject } with
        run := w.nextObject
        currentNodeId := some (lookupStr run.state "_resume_from") })
    trail := w.trail ++ [.consumed runId approvalId consumption.approval] }

/-- The branch with a `session_factory`, up to the call of `execute`. -/
def resumeFromStore (runId approvalId : String) : EngineM Nat := do
  Co.await (.consumeApproval approvalId)
  let w ← Co.get
  match consumeApproval w.now w.db runId approvalId with
  | .error message => Co.raise (.value message)
  | .ok consumption =>
      Co.modify fun w => w.redeem consumption runId approvalId
      return w.nextObject

def resumeAfterApproval (runId approvalId : String) (workflow : WorkflowDefinition)
    (context : ExecutionContext) : EngineM WorkflowRunResult := do
  let ref ← if engine.sessionFactory then resumeFromStore runId approvalId
    else resumeInMemory runId approvalId
  execute engine ref context workflow

/-- `hmac.compare_digest(expected, stored)`, which compares ASCII strings only. -/
def compareDigest (expected : String) : Value → Except EngineError Bool
  | .str stored =>
      if stored.toList.all (·.toNat < 128) then .ok (expected = stored)
      else .error (.type "comparing strings with non-ASCII characters is not supported")
  | stored => .error (.type ("unsupported operand types(s) or combination of types: 'str' and '" ++
      stored.typeName ++ "'"))

/-- `_verify_checkpoint_hmac`. -/
def verifyCheckpointHmac (envelope : State) : Except EngineError Unit := do
  let storedSig := (Dict.get? envelope "checkpoint_hmac").getD (.str "")
  let data := (Dict.get? envelope "data").getD (.dict [])
  match engine.signingKey.filter (· ≠ "") with
  | none => return ()
  | some key =>
      if ← compareDigest (engine.platform.hmacHex key data) storedSig then return ()
      else throw (.value ("Checkpoint integrity check failed: HMAC mismatch. " ++
        "Checkpoint data may have been tampered with."))

/-- `isinstance(raw, dict) and "checkpoint_hmac" in raw`, with the dictionary. -/
def signedEnvelope? (raw : Value) : Option State :=
  raw.asDict?.filter (Dict.contains · "checkpoint_hmac")

/-- What `replay` assigns to `run.state`. -/
def checkpointValue : JsonText → Except EngineError Value
  | .malformed => throw (.value "Expecting value")
  | .document raw =>
      match signedEnvelope? raw with
      | none => return raw
      | some envelope => do
          verifyCheckpointHmac engine envelope
          match Dict.get? envelope "data" with
          | some data => return data
          | none => throw (.key "data")

/-- The state `replay` restores from a checkpoint. The states of the model are
dictionaries, so a document that assigns anything else to `run.state` stops here. -/
def restoreCheckpoint (checkpoint : JsonText) : Except EngineError State := do
  match (← checkpointValue engine checkpoint).asDict? with
  | some state => return state
  | none => throw (.value "checkpoint is not an object")

variable {engine}

theorem restoreCheckpoint_eq_ok {checkpoint : JsonText} {state : State} :
    restoreCheckpoint engine checkpoint = .ok state ↔
      checkpointValue engine checkpoint = .ok (.dict state) := by
  unfold restoreCheckpoint
  cases checkpointValue engine checkpoint with
  | error e => simp [bind, Except.bind]
  | ok value =>
      cases value <;> simp [bind, Except.bind, Value.asDict?, throw, throwThe,
        MonadExceptOf.throw, pure, Except.pure]

theorem signedEnvelope?_eq_some {raw : Value} {envelope : State} :
    signedEnvelope? raw = some envelope ↔
      raw = .dict envelope ∧ Dict.contains envelope "checkpoint_hmac" := by
  unfold signedEnvelope?
  cases raw <;> simp [Value.asDict?, Option.filter_eq_some_iff]

/-- What `replay` assigns comes out of a verified envelope, or is the whole document
and that is no envelope. -/
theorem checkpointValue_ok {checkpoint : JsonText} {value : Value}
    (ok : checkpointValue engine checkpoint = .ok value) :
    (∃ envelope, checkpoint = .document (.dict envelope) ∧
        Dict.contains envelope "checkpoint_hmac" ∧ Dict.get? envelope "data" = some value ∧
        verifyCheckpointHmac engine envelope = .ok ()) ∨
      checkpoint = .document value ∧
        ∀ envelope, value = .dict envelope → Dict.contains envelope "checkpoint_hmac" = false := by
  cases checkpoint with
  | malformed => cases ok
  | document raw =>
      simp only [checkpointValue] at ok
      cases signed : signedEnvelope? raw with
      | none =>
          simp only [signed] at ok
          obtain rfl : raw = value := Except.ok.inj ok
          refine .inr ⟨rfl, fun envelope object => ?_⟩
          by_contra present
          rw [signedEnvelope?_eq_some.mpr ⟨object, by simpa using present⟩] at signed
          cases signed
      | some envelope =>
          obtain ⟨rfl, present⟩ := signedEnvelope?_eq_some.mp signed
          simp only [signed] at ok
          cases verified : verifyCheckpointHmac engine envelope with
          | error e => simp [verified, bind, Except.bind] at ok
          | ok u =>
              simp only [verified, bind, Except.bind] at ok
              split at ok
              · next data found =>
                  obtain rfl : data = value := Except.ok.inj ok
                  exact .inl ⟨envelope, rfl, present, found, verified⟩
              · cases ok

variable (engine)

def replay (runId : String) : EngineM WorkflowRunResult := do
  let result ← findRun runId
  let run ← readRun result.run
  match run.checkpointData.map (restoreCheckpoint engine) with
  | some (.error e) => Co.raise e
  | some (.ok state) => modifyRun result.run fun run => { run with state }
  | none => pure ()
  modifyRun result.run fun run =>
    { run with status := .pending, error := none, completedAt := none }
  modifyResult runId fun result => { result with nodeExecutions := [] }
  findRun runId

end

/-! ### A new run -/

/-- The row `start_run` inserts for a client's request. -/
def startRun (id workflowId workflowVersion actor : String) (initialState : State)
    (tags : Dict String String) : WorkflowRunRow :=
  { id, workflowId, workflowVersion, status := .pending, state := initialState
    parentRunId := none, initiatedBy := actor, startedAt := none, completedAt := none
    error := none, checkpointData := none, tags, versionManifest := none, replayMode := .live }

/-- The world in which the row has just been inserted and its run loaded. -/
def World.started (row : WorkflowRunRow) : World :=
  { objects := fun _ => runOfRow row
    nextObject := 1
    runs := fun _ => none
    db := { runs := Function.update (fun _ => none) row.id (some row)
            nodeExecutions := fun _ => none
            approvals := fun _ => none }
    effects := []
    trail := []
    calls := 0
    ids := 0
    now := 0 }

def WorkflowEngine.plain (handlers : String → Option NodeHandler) (sessionFactory : Bool) :
    WorkflowEngine :=
  { platform := .plain, handlers, signingKey := none, sessionFactory
    maxSteps := maxWorkflowSteps, one_le_maxSteps := by decide
    maxSteps_le := Nat.le_refl _ }

def NodeDefinition.plain (id : String) (nodeType : NodeType) (handler : String) :
    NodeDefinition :=
  { id, name := id, nodeType, handler, config := [], retryPolicy := none }

def EdgeDefinition.plain (sourceNodeId targetNodeId : String) : EdgeDefinition :=
  { sourceNodeId, targetNodeId, condition := none, priority := 0 }

def plainContext : ExecutionContext := { runId := "run", nodeId := "", attempt := 1, config := [] }

def echoHandler : NodeHandler := fun _ state _ =>
  { state, effects := [], exit := .returned { outputState := state } }

def newRun : World := World.started (startRun "run" "workflow" "1" "client" [] [])

end SyndicateClaw.Orchestrator
