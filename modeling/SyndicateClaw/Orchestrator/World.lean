import SyndicateClaw.Async.Coroutine
import SyndicateClaw.Orchestrator.Store

/-! The engine object, the memory it shares with its callers, and the suspension
points of its coroutines. -/

namespace SyndicateClaw.Orchestrator

open Async

/-- Library functions the engine calls: identifiers, model validation of dates and
scopes, and the checkpoint signature over `json.dumps` of a value. -/
structure Platform where
  ulid : Nat → String
  parseDatetime : Value → Option Instant
  validateScope : Value → Option Value
  defaultScope : Value
  hmacHex : String → Value → String

/-- A platform that numbers its identifiers, reads ISO dates and signs nothing. -/
def Platform.plain : Platform :=
  { ulid := fun n => "ulid-" ++ toString n
    parseDatetime := fun value => value.asStr?.bind Instant.ofIsoformat?
    validateScope := some
    defaultScope := .dict [("scope_type", .str "SINGLE_ACTION")]
    hmacHex := fun _ _ => "" }

def maxWorkflowSteps : Nat := 1000

def stepLimitPathLength : Nat := 50

/-- A constructed `WorkflowEngine`; the constructor refuses other step limits. -/
structure WorkflowEngine where
  platform : Platform
  handlers : String → Option NodeHandler
  signingKey : Option String
  sessionFactory : Bool
  maxSteps : Nat
  one_le_maxSteps : 1 ≤ maxSteps
  maxSteps_le : maxSteps ≤ maxWorkflowSteps

/-- `run` is the address of the run object. -/
structure WorkflowRunResult where
  run : Nat
  nodeExecutions : List NodeExecution := []
  currentNodeId : Option String := none
  stepCount : Nat := 0
  visitedNodes : List String := []

/-- What the engine did to a run, in order: a node handed to `_execute_node`, the
start and the end of a handler call, the successor chosen after a node, a stopped
run set running again, an approval consumed with the row then stored. -/
inductive Event where
  | dispatched (runId nodeId : String)
  | invoked (runId nodeId handler : String) (attempt : Nat)
  | exited (runId nodeId : String) (exit : HandlerExit)
  | chose (runId nodeId : String) (next : Option String)
  | resumed (runId : String)
  | consumed (runId approvalId : String) (approval : ApprovalRequestRow)
  deriving DecidableEq

/-- `objects` is the heap of run objects and `runs` the engine's `_runs`. The
trail is history only, no code reads it. `calls` numbers the handler calls; the
last two feed `ULID()` and `_utcnow()`. -/
structure World where
  objects : Nat → WorkflowRun
  nextObject : Nat
  runs : String → Option WorkflowRunResult
  db : Database
  effects : List Effect
  trail : List Event
  calls : Nat
  ids : Nat
  now : Instant

inductive EngineError where
  | value (message : String)
  | key (message : String)
  | type (message : String)
  | runtime (message : String)
  | validation
  | waitForApproval (error : WaitForApprovalError)
  | workflowCycleDetected (message runId : String) (cyclePath : List String) (stepCount : Nat)
  | escaped (message : String)
  | outOfFuel

/-- Which part of the engine caches the state or saves a checkpoint. -/
inductive Stage where
  | started | executed | completed | boundFailure | approvalBoundary | control
  deriving DecidableEq

inductive Point where
  | cacheState (stage : Stage)
  | audit (eventType : AuditEventType)
  | handler (nodeId : String) (attempt : Nat)
  | backoff (nodeId : String) (delay : Rat)
  | persistRunAndNode (nodeId : String)
  | persistRunFailure
  | persistApprovalBoundary (nodeId requestId : String)
  | saveCheckpoint (stage : Stage)
  | plugin (nodeId : String)
  | consumeApproval (approvalId : String)
  deriving DecidableEq

abbrev EngineM := Co World EngineError Point

namespace World

variable (w : World)

def modifyRun (ref : Nat) (f : WorkflowRun → WorkflowRun) : World :=
  { w with objects := Function.update w.objects ref (f (w.objects ref)) }

def modifyResult (runId : String) (f : WorkflowRunResult → WorkflowRunResult) : World :=
  { w with runs := Function.update w.runs runId ((w.runs runId).map f) }

def addEffects (effects : List Effect) : World := { w with effects := w.effects ++ effects }

/-- The node becomes current and goes to `_execute_node`. -/
def dispatch (runId current : String) : World :=
  { w.modifyResult runId (fun result => { result with currentNodeId := some current }) with
    trail := w.trail ++ [.dispatched runId current] }

section projections

variable (ref other : Nat) (f : WorkflowRun → WorkflowRun) (runId : String)
  (g : WorkflowRunResult → WorkflowRunResult) (effects : List Effect)

@[simp] theorem modifyRun_objects_self :
    (w.modifyRun ref f).objects ref = f (w.objects ref) := by simp [modifyRun]

theorem modifyRun_objects_of_ne (distinct : other ≠ ref) :
    (w.modifyRun ref f).objects other = w.objects other := by simp [modifyRun, distinct]

@[simp] theorem modifyRun_runs : (w.modifyRun ref f).runs = w.runs := rfl
@[simp] theorem modifyRun_db : (w.modifyRun ref f).db = w.db := rfl
@[simp] theorem modifyRun_effects : (w.modifyRun ref f).effects = w.effects := rfl
@[simp] theorem modifyRun_trail : (w.modifyRun ref f).trail = w.trail := rfl
@[simp] theorem modifyRun_calls : (w.modifyRun ref f).calls = w.calls := rfl
@[simp] theorem modifyRun_now : (w.modifyRun ref f).now = w.now := rfl
@[simp] theorem modifyRun_ids : (w.modifyRun ref f).ids = w.ids := rfl
@[simp] theorem modifyResult_objects : (w.modifyResult runId g).objects = w.objects := rfl
@[simp] theorem modifyResult_db : (w.modifyResult runId g).db = w.db := rfl
@[simp] theorem modifyResult_effects : (w.modifyResult runId g).effects = w.effects := rfl
@[simp] theorem modifyResult_trail : (w.modifyResult runId g).trail = w.trail := rfl
@[simp] theorem modifyResult_calls : (w.modifyResult runId g).calls = w.calls := rfl
@[simp] theorem modifyResult_now : (w.modifyResult runId g).now = w.now := rfl
@[simp] theorem modifyResult_ids : (w.modifyResult runId g).ids = w.ids := rfl
@[simp] theorem modifyResult_runs_self :
    (w.modifyResult runId g).runs runId = (w.runs runId).map g := by simp [modifyResult]

theorem modifyResult_runs_some {id : String} {result : WorkflowRunResult}
    (found : (w.modifyResult id g).runs runId = some result) :
    ∃ old, w.runs runId = some old ∧ result = if runId = id then g old else old := by
  by_cases here : runId = id
  · subst here
    rw [modifyResult_runs_self] at found
    obtain ⟨old, present, rfl⟩ := Option.map_eq_some_iff.mp found
    exact ⟨old, present, by simp⟩
  · simp only [modifyResult, Function.update_of_ne here] at found
    exact ⟨result, found, by simp [here]⟩

@[simp] theorem addEffects_objects : (w.addEffects effects).objects = w.objects := rfl
@[simp] theorem addEffects_runs : (w.addEffects effects).runs = w.runs := rfl
@[simp] theorem addEffects_db : (w.addEffects effects).db = w.db := rfl
@[simp] theorem addEffects_trail : (w.addEffects effects).trail = w.trail := rfl
@[simp] theorem addEffects_calls : (w.addEffects effects).calls = w.calls := rfl
@[simp] theorem addEffects_effects :
    (w.addEffects effects).effects = w.effects ++ effects := rfl

end projections

end World

def readRun (ref : Nat) : EngineM WorkflowRun := do return (← Co.get).objects ref

def modifyRun (ref : Nat) (f : WorkflowRun → WorkflowRun) : EngineM Unit :=
  Co.modify fun w => w.modifyRun ref f

def modifyResult (runId : String) (f : WorkflowRunResult → WorkflowRunResult) : EngineM Unit :=
  Co.modify fun w => w.modifyResult runId f

def modifyDb (f : Database → Database) : EngineM Unit :=
  Co.modify fun w => { w with db := f w.db }

def record (event : Event) : EngineM Unit :=
  Co.modify fun w => { w with trail := w.trail ++ [event] }

def utcnow : EngineM Instant := do return (← Co.get).now

/-- `str(ULID())`. -/
def freshId (engine : WorkflowEngine) : EngineM String := fun w =>
  .ok { w with ids := w.ids + 1 } (engine.platform.ulid w.ids)

/-- `_runs.get(run_id)`, or the error every control operation raises. -/
def findRun (runId : String) : EngineM WorkflowRunResult := do
  match (← Co.get).runs runId with
  | some result => return result
  | none => Co.raise (.value ("Run not found: " ++ runId))

theorem findRun_eq (runId : String) (w : World) :
    findRun runId w = match w.runs runId with
      | some result => .ok w result
      | none => .raise w (.value ("Run not found: " ++ runId)) := by
  show (match w.runs runId with
    | some result => pure result
    | none => Co.raise _ : EngineM WorkflowRunResult) w = _
  cases w.runs runId <;> rfl

def emitAudit (eventType : AuditEventType) (actor resourceType resourceId action : String)
    (details : State) : EngineM Unit := do
  Co.modify fun w => w.addEffects
    [.audit { eventType, actor, resourceType, resourceId, action, details }]
  Co.await (.audit eventType)

def maybeCacheState (stage : Stage) : EngineM Unit := Co.await (.cacheState stage)

section settle

variable (w : World) (ref : Nat) (runId : String)

@[simp] theorem settle_readRun : (readRun ref).settle w = (w, .ok (w.objects ref)) := rfl

@[simp] theorem settle_modifyRun (f : WorkflowRun → WorkflowRun) :
    (modifyRun ref f).settle w = (w.modifyRun ref f, .ok ()) := rfl

@[simp] theorem settle_modifyResult (f : WorkflowRunResult → WorkflowRunResult) :
    (modifyResult runId f).settle w = (w.modifyResult runId f, .ok ()) := rfl

@[simp] theorem settle_modifyDb (f : Database → Database) :
    (modifyDb f).settle w = ({ w with db := f w.db }, .ok ()) := rfl

@[simp] theorem settle_record (event : Event) :
    (record event).settle w = ({ w with trail := w.trail ++ [event] }, .ok ()) := rfl

@[simp] theorem settle_utcnow : utcnow.settle w = (w, .ok w.now) := rfl

@[simp] theorem settle_freshId (engine : WorkflowEngine) :
    (freshId engine).settle w =
      ({ w with ids := w.ids + 1 }, .ok (engine.platform.ulid w.ids)) := rfl

@[simp] theorem settle_maybeCacheState (stage : Stage) :
    (maybeCacheState stage).settle w = (w, .ok ()) := rfl

@[simp] theorem settle_emitAudit (eventType : AuditEventType)
    (actor resourceType resourceId action : String) (details : State) :
    (emitAudit eventType actor resourceType resourceId action details).settle w =
      (w.addEffects [.audit { eventType, actor, resourceType, resourceId, action, details }],
        .ok ()) := rfl

end settle

end SyndicateClaw.Orchestrator
