import SyndicateClaw.Orchestrator.Engine

/-! One node without interference.

`runAttempts` is the retry loop of `_execute_node` as a function of the handler
alone. What the engine then does to the run, its row and the trail follows from
the exit of the last attempt. -/

namespace SyndicateClaw.Orchestrator

open Async

structure HandlerRun where
  state : State
  calls : Nat
  attempt : Nat
  effects : List Effect
  events : List Event
  exit : HandlerExit

def HandlerRun.written (r : HandlerRun) (run : WorkflowRun) : WorkflowRun :=
  { run with state := r.state }

def HandlerRun.andThen (first rest : HandlerRun) : HandlerRun :=
  { rest with
    effects := first.effects ++ rest.effects
    events := first.events ++ rest.events }

/-- The beginning or the end of a run that an audit event reports, with the run it names. -/
def Effect.lifecycle : Effect → Option (AuditEventType × Value)
  | .audit event =>
      if event.eventType ∈ [.workflowStarted, .workflowCompleted, .workflowFailed] then
        some (event.eventType, lookup event.details "run_id")
      else none
  | _ => none

def lifecycles (effects : List Effect) : List (AuditEventType × Value) :=
  effects.filterMap Effect.lifecycle

theorem lifecycles_append (effects more : List Effect) :
    lifecycles (effects ++ more) = lifecycles effects ++ lifecycles more :=
  List.filterMap_append

/-- The handlers have no effects of their own, so that all effects are the engine's. -/
def WorkflowEngine.Silent (engine : WorkflowEngine) : Prop :=
  ∀ name handler, engine.handlers name = some handler →
    ∀ calls state context, (handler calls state context).effects = []

section attempts

variable (handler : NodeHandler) (runId : String) (node : NodeDefinition)
  (context : ExecutionContext)

def runOnce (calls : Nat) (state : State) : HandlerRun :=
  let outcome := handler calls state context
  { state := outcome.state
    calls := calls + 1
    attempt := context.attempt
    effects := outcome.effects
    events := [.invoked runId node.id node.handler context.attempt,
      .exited runId node.id outcome.exit]
    exit := outcome.exit }

@[simp] theorem runOnce_attempt (calls : Nat) (state : State) :
    (runOnce handler runId node context calls state).attempt = context.attempt := rfl

/-- The attempts of one node; the first number counts the retries left. -/
def runAttempts : Nat → Nat → Nat → State → HandlerRun
  | 0, attempt, calls, state => runOnce handler runId node { context with attempt } calls state
  | retries + 1, attempt, calls, state =>
      let first := runOnce handler runId node { context with attempt } calls state
      match first.exit with
      | .failed _ =>
          first.andThen (runAttempts retries (attempt + 1) first.calls first.state)
      | _ => first

def nodeRun (calls : Nat) (state : State) : HandlerRun :=
  runAttempts handler runId node { context with config := node.config }
    ((node.retryPolicy.map (·.maxAttempts)).getD 1 - 1) 1 calls state

/-- The events of a node's attempts: calls of its handler, the last of which ends
with the exit that counts. -/
def HandlerRun.CallsOf (r : HandlerRun) : Prop :=
  (∀ event ∈ r.events, (∃ attempt, event = .invoked runId node.id node.handler attempt) ∨
      ∃ exit, event = .exited runId node.id exit) ∧
    .exited runId node.id r.exit ∈ r.events

theorem runOnce_calls (calls : Nat) (state : State) :
    (runOnce handler runId node context calls state).CallsOf runId node := by
  simp [HandlerRun.CallsOf, runOnce]

theorem HandlerRun.CallsOf.andThen {first rest : HandlerRun} (one : first.CallsOf runId node)
    (two : rest.CallsOf runId node) : (first.andThen rest).CallsOf runId node := by
  constructor
  · intro event member
    rcases List.mem_append.mp member with early | late
    · exact one.1 event early
    · exact two.1 event late
  · exact List.mem_append_right _ two.2

theorem runAttempts_calls (retries attempt calls : Nat) (state : State) :
    (runAttempts handler runId node context retries attempt calls state).CallsOf runId node := by
  induction retries generalizing attempt calls state with
  | zero => exact runOnce_calls handler runId node _ calls state
  | succ retries ih =>
      rw [runAttempts]
      split
      · exact (runOnce_calls handler runId node _ calls state).andThen _ _ (ih _ _ _)
      · exact runOnce_calls handler runId node _ calls state

theorem runAttempts_silent
    (silent : ∀ calls state context, (handler calls state context).effects = [])
    (retries attempt calls : Nat) (state : State) :
    (runAttempts handler runId node context retries attempt calls state).effects = [] := by
  induction retries generalizing attempt calls state with
  | zero => exact silent _ _ _
  | succ retries ih =>
      rw [runAttempts]
      split
      · simp [HandlerRun.andThen, runOnce, silent, ih]
      · exact silent _ _ _

theorem nodeRun_silent {engine : WorkflowEngine} (silent : engine.Silent) {name : String}
    (present : engine.handlers name = some handler) (calls : Nat) (state : State) :
    (nodeRun handler runId node context calls state).effects = [] :=
  runAttempts_silent handler runId node _ (silent name handler present) _ _ calls state

end attempts

def World.afterAttempts (w : World) (ref : Nat) (r : HandlerRun) : World :=
  { w.modifyRun ref r.written with
    effects := w.effects ++ r.effects
    trail := w.trail ++ r.events
    calls := r.calls }

section settle

variable (engine : WorkflowEngine) (handler : NodeHandler) (ref : Nat) (node : NodeDefinition)
  (context : ExecutionContext) (w : World) (r : HandlerRun)

@[simp] theorem afterAttempts_objects_self :
    (w.afterAttempts ref r).objects ref = r.written (w.objects ref) := by
  simp [World.afterAttempts]

@[simp] theorem afterAttempts_calls : (w.afterAttempts ref r).calls = r.calls := rfl
@[simp] theorem afterAttempts_trail : (w.afterAttempts ref r).trail = w.trail ++ r.events := rfl
@[simp] theorem afterAttempts_db : (w.afterAttempts ref r).db = w.db := rfl
@[simp] theorem afterAttempts_runs : (w.afterAttempts ref r).runs = w.runs := rfl
@[simp] theorem afterAttempts_now : (w.afterAttempts ref r).now = w.now := rfl
@[simp] theorem afterAttempts_ids : (w.afterAttempts ref r).ids = w.ids := rfl

theorem afterAttempts_andThen (first rest : HandlerRun) :
    (w.afterAttempts ref first).afterAttempts ref rest =
      w.afterAttempts ref (first.andThen rest) := by
  simp [World.afterAttempts, World.modifyRun, HandlerRun.andThen, HandlerRun.written]

theorem settle_callHandler :
    (callHandler handler ref node context).settle w =
      (let r := runOnce handler (w.objects ref).id node context w.calls (w.objects ref).state
       (w.afterAttempts ref r, .ok r.exit)) := by
  simp [callHandler, runOnce, World.afterAttempts, World.modifyRun, World.addEffects,
    HandlerRun.written]

theorem settleAttempt_of_not_failed (execution : NodeExecution) (lastAttempt : Bool)
    {exit : HandlerExit} (kept : ∀ message, exit ≠ .failed message) :
    settleAttempt engine ref node execution lastAttempt exit =
      settleAttempt engine ref node execution true exit := by
  cases exit with
  | failed message => exact absurd rfl (kept message)
  | _ => rfl

theorem settleAttempt_last (execution : NodeExecution) (exit : HandlerExit) :
    ((settleAttempt engine ref node execution true exit).settle w).2 ≠ .ok none := by
  cases exit with
  | waitForApproval exc =>
      simp only [settleAttempt, Co.settle_bind, settle_modifyRun, settle_readRun, settle_utcnow]
      rcases (prepareApprovalInterrupt engine exc node ref _).settle _ with ⟨w', _ | interrupt⟩ <;>
        simp
  | _ => simp [settleAttempt]

def settleLast (execution : NodeExecution) (exit : HandlerExit) : EngineM Attempts := do
  match ← settleAttempt engine ref node execution true exit with
  | some attempts => return attempts
  | none => return ⟨execution, none, none⟩

/-- The retry loop is `runAttempts` followed by what the last exit asks for. -/
theorem settle_attemptNode (multiplier delay : Rat) (retries attempt : Nat)
    (execution : NodeExecution) :
    (attemptNode engine handler ref node context multiplier (retries + 1) attempt delay
        execution).settle w =
      (let r := runAttempts handler (w.objects ref).id node context retries attempt w.calls
        (w.objects ref).state
       (settleLast engine ref node { execution with attempt := r.attempt } r.exit).settle
        (w.afterAttempts ref r)) := by
  induction retries generalizing attempt delay w execution with
  | zero =>
      simp only [attemptNode, Co.settle_bind, settle_callHandler, runAttempts, settleLast,
        decide_true, runOnce_attempt]
      rcases (settleAttempt engine ref node _ true _).settle _ with ⟨w', _ | _ | attempts⟩ <;> rfl
  | succ retries ih =>
      rw [attemptNode, runAttempts]
      simp only [Co.settle_bind, settle_callHandler]
      have again : decide (retries + 1 = 0) = false := by simp
      cases left : (runOnce handler (w.objects ref).id node { context with attempt } w.calls
        (w.objects ref).state).exit with
      | failed message =>
          simp only [settleAttempt, again, Bool.false_eq_true, if_false, Co.settle_pure,
            Co.settle_bind, Co.settle_await, ih, afterAttempts_andThen]
          simp
          rfl
      | _ =>
          have last := settleAttempt_last engine ref node (w.afterAttempts ref
            (runOnce handler (w.objects ref).id node { context with attempt } w.calls
              (w.objects ref).state)) { execution with attempt }
          rw [settleAttempt_of_not_failed _ _ _ _ _ (by simp), settleLast]
          simp only [Co.settle_bind, left, runOnce_attempt]
          rcases settled : (settleAttempt engine ref node _ true _).settle _ with
            ⟨w', _ | _ | attempts⟩
          · rfl
          · exact absurd (congrArg Prod.snd settled) (last _)
          · rfl

end settle

/-! ### `_execute_node` by the last exit -/

def concludeRun (nodeId : String) (exit : HandlerExit) (run : WorkflowRun) : WorkflowRun :=
  match exit with
  | .returned result => { run with state := Dict.update run.state result.outputState }
  | .pauseExecution => { run with status := .paused }
  | .waitForApproval _ => { run with status := .waitingApproval }
  | .waitForAgentResponse => { run with status := .waitingAgentResponse }
  | .failed message => { run with
      status := .failed
      error := some ("Node " ++ nodeId ++ " failed: " ++ message) }
  | .escaped _ => run

def closeRun (nodeId : String) (exit : HandlerExit) (run : WorkflowRun) : WorkflowRun :=
  let concluded := concludeRun nodeId exit run
  { concluded with state := clearConsumedResumeMarker nodeId concluded.state }

theorem concludeRun_id (nodeId : String) (exit : HandlerExit) (run : WorkflowRun) :
    (concludeRun nodeId exit run).id = run.id := by
  cases exit <;> rfl

@[simp] theorem closeRun_id (nodeId : String) (exit : HandlerExit) (run : WorkflowRun) :
    (closeRun nodeId exit run).id = run.id :=
  concludeRun_id nodeId exit run

/-- A node closed: its execution listed, the resume marker cleared and both stored. -/
def World.closeNode (engine : WorkflowEngine) (ref : Nat) (runId : String)
    (node : NodeDefinition) (execution : NodeExecution) (exit : HandlerExit) (w : World) : World :=
  let run := closeRun node.id exit (w.objects ref)
  { w with
    objects := Function.update w.objects ref run
    runs := Function.update w.runs runId ((w.runs runId).map fun result =>
      { result with nodeExecutions := result.nodeExecutions ++ [execution] })
    db := if engine.sessionFactory then w.db.persistRunAndNode run execution else w.db }

def HandlerExit.closes : HandlerExit → Bool
  | .waitForApproval _ | .escaped _ => false
  | _ => true

section executeNode

variable (engine : WorkflowEngine) (handler : NodeHandler) (ref : Nat) (runId : String)
  (node : NodeDefinition) (context : ExecutionContext) (w : World)

theorem retries_succ :
    (node.retryPolicy.map (·.maxAttempts)).getD 1 =
      ((node.retryPolicy.map (·.maxAttempts)).getD 1 - 1) + 1 := by
  rcases node.retryPolicy with _ | policy
  · rfl
  · exact (Nat.sub_add_cancel policy.one_le_maxAttempts).symm

theorem settle_settleLast (execution : NodeExecution) {exit : HandlerExit} (closes : exit.closes) :
    ∃ execution' result,
      (settleLast engine ref node execution exit).settle w =
        (w.modifyRun ref (concludeRun node.id exit), .ok ⟨execution', some result, none⟩) ∧
      execution'.nodeId = execution.nodeId ∧
      ∀ returned, exit = .returned returned → result = returned := by
  cases exit with
  | waitForApproval exc => cases closes
  | escaped message => cases closes
  | _ => exact ⟨_, _, rfl, rfl, by simp⟩

theorem settle_finishNode (execution : NodeExecution) (result : NodeResult)
    (exit : HandlerExit) :
    (finishNode engine ref runId node ⟨execution, some result, none⟩).settle
        (w.modifyRun ref (concludeRun node.id exit)) =
      (w.closeNode engine ref runId node execution exit, .ok result) := by
  simp only [finishNode, persistRunAndNode, Co.settle_bind, settle_modifyResult, settle_modifyRun]
  cases stored : engine.sessionFactory <;>
    by_cases completed : execution.status = .completed <;>
      simp [World.closeNode, closeRun, World.modifyRun, World.modifyResult, stored, completed]

theorem executeNode_missing (missing : engine.handlers node.handler = none) :
    (executeNode engine ref runId context node).settle w =
      (w.modifyRun ref fun run => { run with
        status := .failed
        error := some ("No handler registered for: " ++ node.handler) },
       .ok { outputState := (w.objects ref).state }) := by
  simp [executeNode, missing]

theorem settle_executeNode (present : engine.handlers node.handler = some handler)
    {r : HandlerRun}
    (ran : nodeRun handler (w.objects ref).id node context w.calls (w.objects ref).state = r) :
    (executeNode engine ref runId context node).settle w =
      (settleLast engine ref node
          { startExecution (engine.platform.ulid w.ids) w.now (w.objects ref) node with
            attempt := r.attempt } r.exit >>= finishNode engine ref runId node).settle
        ({ w with ids := w.ids + 1 }.afterAttempts ref r) := by
  unfold executeNode
  rw [present, retries_succ]
  simp only [Co.settle_bind, settle_freshId, settle_readRun, settle_utcnow, settle_attemptNode,
    ← ran, nodeRun]

theorem executeNode_closes (present : engine.handlers node.handler = some handler)
    {r : HandlerRun}
    (ran : nodeRun handler (w.objects ref).id node context w.calls (w.objects ref).state = r)
    (closes : r.exit.closes) :
    ∃ execution result,
      (executeNode engine ref runId context node).settle w =
        (({ w with ids := w.ids + 1 }.afterAttempts ref r).closeNode engine ref runId node
            execution r.exit, .ok result) ∧
      execution.nodeId = node.id ∧
      ∀ returned, r.exit = .returned returned → result = returned := by
  obtain ⟨execution, result, settled, named, value⟩ := settle_settleLast engine ref node
    ({ w with ids := w.ids + 1 }.afterAttempts ref r)
    { startExecution (engine.platform.ulid w.ids) w.now (w.objects ref) node with
      attempt := r.attempt } closes
  refine ⟨execution, result, ?_, named, value⟩
  rw [settle_executeNode engine handler ref runId node context w present ran, Co.settle_bind,
    settled]
  exact settle_finishNode engine ref runId node _ execution result r.exit

theorem executeNode_escapes (present : engine.handlers node.handler = some handler)
    {r : HandlerRun} {message : String}
    (ran : nodeRun handler (w.objects ref).id node context w.calls (w.objects ref).state = r)
    (escaped : r.exit = .escaped message) :
    (executeNode engine ref runId context node).settle w =
      ({ w with ids := w.ids + 1 }.afterAttempts ref r, .error (.escaped message)) := by
  rw [settle_executeNode engine handler ref runId node context w present ran, escaped]
  rfl

/-! ### Approval boundaries -/

def boundaryRun (now : Instant) (request : ApprovalRequest) (nodeId : String)
    (run : WorkflowRun) : WorkflowRun :=
  let state := waitingState now request nodeId run.id run.state
  { run with state, checkpointData := some (checkpointFor engine state) }

theorem settle_prepareApprovalInterrupt (exc : WaitForApprovalError)
    (execution : NodeExecution) {requested : Option ApprovalRequest}
    (asked : approvalRequestForInterrupt engine.platform (engine.platform.ulid w.ids) w.now exc node
      (w.objects ref) execution = requested) :
    ∃ effects enriched, lifecycles effects = [] ∧
      (prepareApprovalInterrupt engine exc node ref execution).settle w =
        match requested with
        | none => ({ w with ids := w.ids + 1 }, .error .validation)
        | some request =>
            let run := boundaryRun engine w.now request node.id (w.objects ref)
            ({ w with
               ids := w.ids + 1
               objects := Function.update w.objects ref run
               effects := w.effects ++ effects
               db := if engine.sessionFactory then
                   w.db.persistApprovalBoundary run execution request else w.db },
             .ok enriched) := by
  unfold prepareApprovalInterrupt
  simp only [Co.settle_bind, settle_freshId, settle_utcnow, settle_readRun, asked]
  cases requested with
  | none => exact ⟨[], exc, rfl, rfl⟩
  | some request =>
      cases stored : engine.sessionFactory <;>
        simp [persistCheckpoint, persistApprovalBoundary, stored, emitApprovalRequiredAudit,
          boundaryRun, World.modifyRun, World.addEffects, lifecycles, Effect.lifecycle]

def World.interruptNode (ref : Nat) (runId nodeId : String) (execution : NodeExecution)
    (request : ApprovalRequest) (effects : List Effect) (w : World) : World :=
  let run := boundaryRun engine w.now request nodeId (w.objects ref)
  { w with
    objects := Function.update w.objects ref run
    runs := Function.update w.runs runId ((w.runs runId).map fun result =>
      { result with nodeExecutions := result.nodeExecutions ++ [execution] })
    effects := w.effects ++ effects
    db := if engine.sessionFactory then w.db.persistApprovalBoundary run execution request
      else w.db }

theorem settle_settleLast_asks (execution : NodeExecution) (exc : WaitForApprovalError) :
    ∃ waiting : NodeExecution, waiting.nodeId = execution.nodeId ∧
      waiting.status = .waitingApproval ∧
      (settleLast engine ref node execution (.waitForApproval exc)).settle w =
        match (prepareApprovalInterrupt engine exc node ref waiting).settle
          (w.modifyRun ref (concludeRun node.id (.waitForApproval exc))) with
        | (w', .ok interrupt) =>
            (w', .ok ⟨waiting, some { outputState := (w'.objects ref).state }, some interrupt⟩)
        | (w', .error e) => (w', .error e) := by
  refine ⟨{ execution with
    status := .waitingApproval
    completedAt := some w.now
    outputState := (w.objects ref).state
    durationMs := duration execution w.now }, rfl, rfl, ?_⟩
  simp only [settleLast, settleAttempt, Co.settle_bind, settle_modifyRun, settle_readRun,
    settle_utcnow, World.modifyRun_now, World.modifyRun_objects_self]
  rw [show concludeRun node.id (.waitForApproval exc) =
    fun run => { run with status := .waitingApproval } from rfl]
  rcases (prepareApprovalInterrupt engine exc node ref _).settle _ with ⟨w', _ | interrupt⟩ <;> rfl

theorem executeNode_asks (present : engine.handlers node.handler = some handler)
    {r : HandlerRun} {exc : WaitForApprovalError}
    (ran : nodeRun handler (w.objects ref).id node context w.calls (w.objects ref).state = r)
    (asks : r.exit = .waitForApproval exc) {asking : World}
    (left : ({ w with ids := w.ids + 1 }.afterAttempts ref r).modifyRun ref
      (concludeRun node.id r.exit) = asking) :
    ∃ execution,
      match approvalRequestForInterrupt engine.platform (engine.platform.ulid asking.ids)
        asking.now exc node (asking.objects ref) execution with
      | none =>
          (executeNode engine ref runId context node).settle w =
            ({ asking with ids := asking.ids + 1 }, .error .validation)
      | some request => ∃ effects interrupt, lifecycles effects = [] ∧
          (executeNode engine ref runId context node).settle w =
            (World.interruptNode engine ref runId node.id execution request effects
              { asking with ids := asking.ids + 1 }, .error (.waitForApproval interrupt)) := by
  obtain ⟨waiting, -, -, settled⟩ := settle_settleLast_asks engine ref node
    ({ w with ids := w.ids + 1 }.afterAttempts ref r)
    { startExecution (engine.platform.ulid w.ids) w.now (w.objects ref) node with
      attempt := r.attempt } exc
  rw [settle_executeNode engine handler ref runId node context w present ran, Co.settle_bind, asks,
    settled, ← asks, left]
  refine ⟨waiting, ?_⟩
  split
  · next refused =>
      obtain ⟨effects, enriched, -, prepared⟩ :=
        settle_prepareApprovalInterrupt engine ref node asking exc waiting refused
      rw [prepared]
  · next request asked =>
      obtain ⟨effects, enriched, other, prepared⟩ :=
        settle_prepareApprovalInterrupt engine ref node asking exc waiting asked
      rw [prepared]
      exact ⟨effects, enriched, other, rfl⟩

end executeNode

end SyndicateClaw.Orchestrator
