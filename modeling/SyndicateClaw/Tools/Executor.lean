import SyndicateClaw.Orchestrator.Handlers
import SyndicateClaw.Tools.Checks

/-! `ToolExecutor.execute`: the gates in front of a tool, the call of its handler and
what is recorded around it. -/

namespace SyndicateClaw.Tools

open Orchestrator

structure Tool where
  inputSchema : State
  outputSchema : State
  riskLevel : ToolRiskLevel
  sideEffects : List String
  timeoutSeconds : Nat
  sandboxPolicy : ToolSandboxPolicy

/-- How an awaited tool handler ends; `escaped` is an exception outside `Exception`. -/
inductive ToolOutcome where
  | returned (output : State)
  | timedOut
  | raised (message : String)
  | escaped (message : String)

structure ToolDefinition where
  tool : Tool
  handler : State → ToolOutcome

/-- The policy engine an executor holds: none, an object without `evaluate`, or one that
decides or raises. -/
inductive PolicyService where
  | missing
  | unable
  | evaluating (evaluate : String → String → State → Except String PolicyEffect)

/-- What is passed to `record_tool_decision`. -/
structure ToolDecision where
  actor : String
  toolName : String
  inputData : State
  policyEffect : String
  justification : String
  sideEffects : List String
  runId : String
  nodeExecutionId : String

structure AuthorityContext where
  authorityReference : Value
  actor : Value
  tenantId : Value
  projectId : Value
  workspaceId : Value
  toolIdentity : Value
  action : Value
  resourceScope : Value
  approvalId : Value
  correlationId : Value
  gateEvidenceReference : Value
  requiresGateEvidence : Bool

structure ExpectedBinding where
  actor : String
  tenantId : String
  projectId : String
  workspaceId : String
  toolIdentity : String
  action : String
  resourceScope : String
  approvalId : Value
  requireApproval : Bool

inductive ToolExecutionStatus where
  | running | timedOut | failed | completed
  deriving DecidableEq

structure ToolExecution where
  runId : String
  nodeExecutionId : String
  toolName : String
  inputData : State
  outputData : Option State
  status : ToolExecutionStatus
  error : Option String
  startedAt : Instant
  completedAt : Option Instant
  durationMs : Option Nat
  policyDecisionId : String

inductive TerminalEvent where
  | completed | failed | timedOut
  deriving DecidableEq

/-- What the executor did, in order: a decision handed to the ledger with the record it
returned, the boundary's answer, the call of the handler, an audit event. -/
inductive ToolEvent where
  | decided (decision : ToolDecision) (record : Option String)
  | authorized (expected : ExpectedBinding) (allowed : Bool)
  | invoked (toolName : String) (inputData : State)
  | audited (event : TerminalEvent) (execution : ToolExecution)

/-- The ledger returns a record's id. The boundary returns whether it allows and why. -/
structure ToolExecutor where
  platform : ToolPlatform
  registry : String → Option ToolDefinition
  policyEngine : PolicyService
  auditService : Bool
  decisionLedger : Option (ToolDecision → Except String (Option String))
  runtimeBoundary : Option (Option AuthorityContext → ExpectedBinding →
    Except String (Bool × String))

structure ToolFrame where
  events : List ToolEvent := []
  taken : Nat := 0

abbrev ToolM := EStateM ToolError ToolFrame

namespace ToolM

def emit (event : ToolEvent) : ToolM Unit :=
  modify fun frame => { frame with events := frame.events ++ [event] }

def take : ToolM Nat :=
  modifyGet fun frame => (frame.taken, { frame with taken := frame.taken + 1 })

def check {α : Type} : Except ToolError α → ToolM α
  | .ok a => pure a
  | .error e => throw e

end ToolM

open ToolM

section

variable (executor : ToolExecutor) (name : String) (input : State) (context : ExecutionContext)
  (tool : Tool)

def utcnow : ToolM Instant := do return executor.platform.now (← take)

def ulid : ToolM String := do return executor.platform.ulid (← take)

/-- `_policy_actor`. -/
def policyActor : String :=
  let actor := lookup context.config "actor"
  if actor.truthy then actor.pyStr else context.runId

/-- `_build_tool_policy_context`: the node's configuration fills in what is not there. -/
def buildToolPolicyContext : State :=
  let own : State :=
    [("input", .dict input), ("tool", .str name), ("risk_level", .str tool.riskLevel.value),
     ("run_id", .str context.runId), ("node_id", .str context.nodeId),
     ("actor", .str (policyActor context))]
  own ++ context.config.filter fun entry => !Dict.contains own entry.1

/-- `_check_policy`. -/
def checkPolicy : PolicyEffect :=
  match executor.policyEngine with
  | .missing => .deny
  | .unable => .allow
  | .evaluating evaluate =>
      match evaluate name (policyActor context) (buildToolPolicyContext name input context tool) with
      | .ok effect => effect
      | .error _ => .deny

def toolDecision (effect justification : String) : ToolDecision :=
  { actor := context.runId, toolName := name, inputData := input, policyEffect := effect
    justification, sideEffects := tool.sideEffects, runId := context.runId
    nodeExecutionId := context.nodeId }

/-- `_record_decision`: a ledger that raises counts as one that returned nothing. -/
def recordDecision (effect justification : String) : ToolM (Option String) := do
  match executor.decisionLedger with
  | none => return none
  | some ledger =>
      let decision := toolDecision name input context tool effect justification
      let record := match ledger decision with
        | .ok record => record
        | .error _ => none
      emit (.decided decision record)
      return record

/-- `AuthorityContext.from_mapping`. -/
def authorityContext (data : Value) : Except ToolError (Option AuthorityContext) :=
  if !data.truthy then .ok none
  else match data.asDict? with
    | none => .error (.attribute ("'" ++ data.typeName ++ "' object has no attribute 'get'"))
    | some d => .ok (some
        { authorityReference := lookup d "authority_reference", actor := lookup d "actor"
          tenantId := lookup d "tenant_id", projectId := lookup d "project_id"
          workspaceId := lookup d "workspace_id", toolIdentity := lookup d "tool_identity"
          action := lookup d "action", resourceScope := lookup d "resource_scope"
          approvalId := lookup d "approval_id", correlationId := lookup d "correlation_id"
          gateEvidenceReference := lookup d "gate_evidence_reference"
          requiresGateEvidence := (lookup d "requires_gate_evidence").truthy })

def expectedBinding (authority : Option AuthorityContext) : ExpectedBinding :=
  let config := context.config
  { actor := policyActor context, tenantId := lookupStr config "tenant_id"
    projectId := lookupStr config "project_id", workspaceId := lookupStr config "workspace_id"
    toolIdentity := name, action := tool.sideEffects.headD "execute"
    resourceScope := lookupStr config "resource_scope"
    approvalId := (authority.map (·.approvalId)).getD .none
    requireApproval := (lookup config "require_approval").truthy }

/-- `_enforce_runtime_boundary`, when a boundary is configured. -/
def enforceRuntimeBoundary : ToolM Unit := do
  match executor.runtimeBoundary with
  | none => return ()
  | some authorize =>
      let authority ← check (authorityContext (lookup context.config "authority"))
      let expected := expectedBinding name context tool authority
      match authorize authority expected with
      | .error message => throw (.raised message)
      | .ok (allowed, reason) =>
          emit (.authorized expected allowed)
          if !allowed then
            throw (.denied name ("Runtime authority boundary denied (" ++ reason ++
              "); no upstream ControlPlane authority — fail-closed"))

/-- The `node_execution_id` of the configuration; one that is no string does not validate. -/
def nodeExecutionId : ToolM String := do
  let fresh ← ulid executor
  match (Dict.get? context.config "node_execution_id").getD (.str fresh) with
  | .str id => return id
  | _ => throw .validation

/-- The request `execute` raises for a tool that needs an approval. -/
def approvalRequest : ToolM ApprovalRequest := do
  let nodeExecutionId ← nodeExecutionId executor context
  let now ← utcnow executor
  return { id := ← ulid executor, runId := context.runId, nodeExecutionId, toolName := some name
           actionDescription := "Execute tool: " ++ name, riskLevel := tool.riskLevel
           status := .pending, requestedBy := context.runId, assignedTo := [], decidedBy := none
           decidedAt := none, decisionReason := none, expiresAt := now + Instant.microsPerDay
           context := [("tool", .str name), ("input", .dict input)]
           scope := executor.platform.defaultScope }

/-- Steps 3 and 4: the policy, the ledger and the boundary. The result is the ledger's
record. -/
def authorizeTool : ToolM String := do
  match checkPolicy executor name input context tool with
  | .deny => do
      let _ ← recordDecision executor name input context tool "deny"
        ("Policy denied execution of tool '" ++ name ++ "'")
      throw (.denied name "")
  | .requireApproval => do
      let _ ← recordDecision executor name input context tool "require_approval"
        ("Policy requires approval for tool '" ++ name ++ "'")
      let request ← approvalRequest executor name input context tool
      throw (.approvalRequired name request)
  | .allow => do
      match ← recordDecision executor name input context tool "allow"
        ("Policy allowed execution of tool '" ++ name ++ "'") with
      | none =>
          throw (.denied name "Decision ledger unavailable — execution denied (fail-closed)")
      | some record =>
          enforceRuntimeBoundary executor name context tool
          return record

/-- The `ToolExecution` a call begins with. -/
def toolExecution (record : String) : ToolM ToolExecution := do
  let nodeExecutionId ← nodeExecutionId executor context
  return { runId := context.runId, nodeExecutionId, toolName := name, inputData := input
           outputData := none, status := .running, error := none
           startedAt := ← utcnow executor, completedAt := none, durationMs := none
           policyDecisionId := record }

/-- `_emit_audit`: the record is serialised first, and without a service nothing is sent. -/
def emitAudit (event : TerminalEvent) (execution : ToolExecution) : ToolM Unit := do
  if executor.platform.serializable execution.inputData &&
      execution.outputData.all executor.platform.serializable then
    if executor.auditService then emit (.audited event execution)
  else throw .serialization

def ToolExecution.ended (execution : ToolExecution) (status : ToolExecutionStatus)
    (error : Option String) (output : Option State) (now : Instant) (elapsed : Nat) :
    ToolExecution :=
  { execution with
    status, error, outputData := output, completedAt := some now, durationMs := some elapsed }

/-- Steps 6 to 9: what happens to the handler's output. The snapshot store's errors are
swallowed and nothing reads it, so it does not appear. -/
def finishTool (execution : ToolExecution) (output : State) : ToolM State := do
  check (enforceResponseLimits name output tool.sandboxPolicy)
  let now ← utcnow executor
  let execution := execution.ended .completed none (some output) now executor.platform.elapsedMs
  check (validateSchema output tool.outputSchema ("tool:" ++ name ++ ":output"))
  emitAudit executor .completed execution
  return output

def settleTool (execution : ToolExecution) : ToolOutcome → ToolM State
  | .returned output => finishTool executor name tool execution output
  | .timedOut => do
      let now ← utcnow executor
      emitAudit executor .timedOut (execution.ended .timedOut
        (some ("Timed out after " ++ toString tool.timeoutSeconds ++ "s")) none now
        executor.platform.elapsedMs)
      throw (.timeout name tool.timeoutSeconds)
  | .raised message => do
      let now ← utcnow executor
      emitAudit executor .failed (execution.ended .failed (some message) none now
        executor.platform.elapsedMs)
      throw (.execution name message)
  | .escaped message => throw (.escaped message)

def runTool (handler : State → ToolOutcome) (execution : ToolExecution) : ToolM State := do
  emit (.invoked name input)
  settleTool executor name tool execution (handler input)

/-- `ToolExecutor.execute`. -/
def execute : ToolM State := do
  match executor.registry name with
  | none => throw (.notFound name)
  | some definition => do
      let tool := definition.tool
      check (validateSchema input tool.inputSchema ("tool:" ++ name ++ ":input"))
      check (enforceSandbox executor.platform name input tool.sandboxPolicy)
      let record ← authorizeTool executor name input context tool
      let execution ← toolExecution executor name input context record
      runTool executor name input tool definition.handler execution

end

end SyndicateClaw.Tools
