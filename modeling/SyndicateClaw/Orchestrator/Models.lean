import SyndicateClaw.Data.Datetime
import SyndicateClaw.Orchestrator.Value

/-! The domain model of the orchestrator: workflow graphs, runs, node executions
and approval requests. -/

namespace SyndicateClaw.Orchestrator

inductive WorkflowRunStatus where
  | pending | running | paused | waitingApproval | waitingAgentResponse
  | completed | failed | cancelled
  deriving DecidableEq

inductive NodeExecutionStatus where
  | pending | running | completed | waitingApproval | waitingAgentResponse | failed | skipped
  deriving DecidableEq

inductive NodeType where
  | start | endNode | action | decision | approval | agent | checkpoint
  deriving DecidableEq

inductive ToolRiskLevel where
  | low | medium | high | critical
  deriving DecidableEq

inductive ApprovalStatus where
  | pending | approved | rejected | expired
  deriving DecidableEq

inductive ReplayMode where
  | live | deterministic
  deriving DecidableEq

/-- The event types the engine and the built-in handlers emit. -/
inductive AuditEventType where
  | workflowStarted | workflowCompleted | workflowFailed | workflowPaused | workflowResumed
  | workflowCancelled | nodeStarted | nodeCompleted | toolExecutionStarted | approvalRequired
  deriving DecidableEq

def WorkflowRunStatus.value : WorkflowRunStatus → String
  | .pending => "PENDING" | .running => "RUNNING" | .paused => "PAUSED"
  | .waitingApproval => "WAITING_APPROVAL" | .waitingAgentResponse => "WAITING_AGENT_RESPONSE"
  | .completed => "COMPLETED" | .failed => "FAILED" | .cancelled => "CANCELLED"

def ToolRiskLevel.value : ToolRiskLevel → String
  | .low => "LOW" | .medium => "MEDIUM" | .high => "HIGH" | .critical => "CRITICAL"

def ApprovalStatus.value : ApprovalStatus → String
  | .pending => "PENDING" | .approved => "APPROVED" | .rejected => "REJECTED"
  | .expired => "EXPIRED"

/-- `ToolRiskLevel(text)`. -/
def ToolRiskLevel.parse? (text : String) : Option ToolRiskLevel :=
  [ToolRiskLevel.low, .medium, .high, .critical].find? (·.value = text)

def ApprovalStatus.parse? (text : String) : Option ApprovalStatus :=
  [ApprovalStatus.pending, .approved, .rejected, .expired].find? (·.value = text)

structure RetryPolicy where
  maxAttempts : Nat
  backoffSeconds : Rat
  backoffMultiplier : Rat
  retryableErrors : List String
  one_le_maxAttempts : 1 ≤ maxAttempts

structure NodeDefinition where
  id : String
  name : String
  nodeType : NodeType
  handler : String
  config : State
  retryPolicy : Option RetryPolicy

structure EdgeDefinition where
  sourceNodeId : String
  targetNodeId : String
  condition : Option String
  priority : Int

structure WorkflowDefinition where
  id : String
  nodes : List NodeDefinition
  edges : List EdgeDefinition

structure VersionManifest where
  workflowVersion : String
  policyVersion : String

/-- Checkpoint bytes, up to what `json.loads` makes of them. -/
inductive JsonText where
  | document (value : Value)
  | malformed
  deriving DecidableEq

structure WorkflowRun where
  id : String
  workflowId : String
  workflowVersion : String
  status : WorkflowRunStatus
  state : State
  parentRunId : Option String
  initiatedBy : String
  startedAt : Option Instant
  completedAt : Option Instant
  error : Option String
  checkpointData : Option JsonText
  tags : Dict String String
  versionManifest : Option VersionManifest
  replayMode : ReplayMode

structure NodeExecution where
  id : String
  runId : String
  nodeId : String
  nodeName : String
  status : NodeExecutionStatus
  attempt : Nat
  inputState : State
  outputState : State
  startedAt : Option Instant
  completedAt : Option Instant
  error : Option String
  durationMs : Option Int

structure ApprovalRequest where
  id : String
  runId : String
  nodeExecutionId : String
  toolName : Option String
  actionDescription : String
  riskLevel : ToolRiskLevel
  status : ApprovalStatus
  requestedBy : String
  assignedTo : List String
  decidedBy : Option String
  decidedAt : Option Instant
  decisionReason : Option String
  expiresAt : Instant
  context : State
  scope : Value

structure AuditEvent where
  eventType : AuditEventType
  actor : String
  resourceType : String
  resourceId : String
  action : String
  details : State

/-- What the code does to the outside world, in order. -/
inductive Effect where
  | audit (event : AuditEvent)
  | checkpointSaved (runId : String) (state : State)
  | toolExecuted (name : String) (arguments : State) (config : State)
  | messageSent (recipient : Option String) (topic : Option String) (messageType : String)
      (content : State) (conversationId : String)

structure ExecutionContext where
  runId : String
  nodeId : String
  attempt : Nat
  config : State

structure NodeResult where
  outputState : State
  nextNodeId : Option String := none
  shouldCheckpoint : Bool := false
  deriving DecidableEq

structure WaitForApprovalError where
  message : String
  approvalId : String
  toolName : String
  nodeId : String
  runId : String
  persistedState : State
  deriving DecidableEq

/-- How a handler call ends. `escaped` is an exception outside `Exception`. -/
inductive HandlerExit where
  | returned (result : NodeResult)
  | pauseExecution
  | waitForApproval (error : WaitForApprovalError)
  | waitForAgentResponse
  | failed (message : String)
  | escaped (message : String)
  deriving DecidableEq

/-- A handler writes to the run's state dictionary in place, so `state` counts
also when it raises. -/
structure HandlerOutcome where
  state : State
  effects : List Effect
  exit : HandlerExit

/-- The first argument numbers the call: the answers of clocks, services and
random sources may differ from call to call. -/
abbrev NodeHandler := Nat → State → ExecutionContext → HandlerOutcome

/-- The row of `workflow_runs`. -/
structure WorkflowRunRow where
  id : String
  workflowId : String
  workflowVersion : String
  status : WorkflowRunStatus
  state : State
  parentRunId : Option String
  initiatedBy : String
  startedAt : Option Instant
  completedAt : Option Instant
  error : Option String
  checkpointData : Option JsonText
  tags : Dict String String
  versionManifest : Option VersionManifest
  replayMode : ReplayMode

/-- The row of `approval_requests`. -/
structure ApprovalRequestRow where
  id : String
  runId : String
  nodeExecutionId : String
  toolName : String
  actionDescription : String
  riskLevel : ToolRiskLevel
  status : ApprovalStatus
  requestedBy : String
  assignedTo : List String
  decidedBy : Option String
  decidedAt : Option Instant
  decisionReason : Option String
  expiresAt : Option Instant
  context : State
  scope : Value
  deriving DecidableEq

end SyndicateClaw.Orchestrator
