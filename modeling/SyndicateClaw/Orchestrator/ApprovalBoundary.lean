import SyndicateClaw.Orchestrator.World

/-! Approval requests at the engine's boundary: how an interrupt becomes a request,
how a request is consumed, and the markers this leaves in a run's state. -/

namespace SyndicateClaw.Orchestrator

/-- `d.get(key)`. -/
def lookup (d : State) (key : String) : Value := (Dict.get? d key).getD .none

/-- `str(d.get(key, ""))`. -/
def lookupStr (d : State) (key : String) : String := ((Dict.get? d key).getD (.str "")).pyStr

/-- `value or other`. -/
def Value.orElse (value other : Value) : Value := if value.truthy then value else other

section payload

private def wanted (approvalId : String) (payload : State) : Bool :=
  approvalId = "" || lookupStr payload "id" = approvalId

/-- `_approval_payload_from_state`. -/
def approvalPayloadFromState (state : State) (approvalId : String) : Option State :=
  match (lookup state "_pending_approval").asDict? with
  | some pending => if wanted approvalId pending then some pending else fromMany
  | none => fromMany
where
  fromMany : Option State :=
    ((lookup state "_pending_approvals").asList?.getD []).reverse.findSome? fun item =>
      item.asDict?.filter (wanted approvalId)

end payload

namespace ApprovalRequest

/-- A field with a default; `none` when a value is there but not valid. -/
private def field {α : Type} (raw : State) (key : String) (default : α)
    (valid : Value → Option α) : Option α :=
  match Dict.get? raw key with
  | none => some default
  | some value => valid value

private def required {α : Type} (raw : State) (key : String) (valid : Value → Option α) :
    Option α :=
  (Dict.get? raw key).bind valid

private def optional {α : Type} (valid : Value → Option α) (value : Value) :
    Option (Option α) :=
  if value = .none then some none else (valid value).map some

private def stringList (value : Value) : Option (List String) :=
  value.asList?.bind fun items => items.mapM Value.asStr?

/-- `ApprovalRequest.model_validate(raw)`; `none` is a `ValidationError`. -/
def modelValidate (platform : Platform) (fresh : String) (raw : State) :
    Option ApprovalRequest := do
  let id ← field raw "id" fresh Value.asStr?
  let _ ← field raw "created_at" 0 platform.parseDatetime
  let _ ← field raw "updated_at" 0 platform.parseDatetime
  let runId ← required raw "run_id" Value.asStr?
  let nodeExecutionId ← required raw "node_execution_id" Value.asStr?
  let toolName ← field raw "tool_name" none (optional Value.asStr?)
  let actionDescription ← required raw "action_description" Value.asStr?
  let riskLevel ← required raw "risk_level" fun v => v.asStr?.bind ToolRiskLevel.parse?
  let status ← field raw "status" .pending fun v => v.asStr?.bind ApprovalStatus.parse?
  let requestedBy ← required raw "requested_by" Value.asStr?
  let assignedTo ← field raw "assigned_to" [] stringList
  let decidedBy ← field raw "decided_by" none (optional Value.asStr?)
  let decidedAt ← field raw "decided_at" none (optional platform.parseDatetime)
  let decisionReason ← field raw "decision_reason" none (optional Value.asStr?)
  let expiresAt ← required raw "expires_at" platform.parseDatetime
  let context ← field raw "context" [] Value.asDict?
  let scope ← field raw "scope" platform.defaultScope platform.validateScope
  return { id, runId, nodeExecutionId, toolName, actionDescription, riskLevel, status,
           requestedBy, assignedTo, decidedBy, decidedAt, decisionReason, expiresAt, context,
           scope }

private def optionalValue {α : Type} (toValue : α → Value) : Option α → Value
  | some a => toValue a
  | none => .none

/-- `request.model_dump(mode="json")`. -/
def modelDump (createdAt : Instant) (request : ApprovalRequest) : State :=
  [("id", .str request.id), ("created_at", .str (Instant.isoformat createdAt)),
   ("updated_at", .str (Instant.isoformat createdAt)), ("run_id", .str request.runId),
   ("node_execution_id", .str request.nodeExecutionId),
   ("tool_name", optionalValue .str request.toolName),
   ("action_description", .str request.actionDescription),
   ("risk_level", .str request.riskLevel.value), ("status", .str request.status.value),
   ("requested_by", .str request.requestedBy),
   ("assigned_to", .list (request.assignedTo.map .str)),
   ("decided_by", optionalValue .str request.decidedBy),
   ("decided_at", optionalValue (fun t => .str (Instant.isoformat t)) request.decidedAt),
   ("decision_reason", optionalValue .str request.decisionReason),
   ("expires_at", .str (Instant.isoformat request.expiresAt)),
   ("context", .dict (jsonableState request.context)), ("scope", request.scope)]

end ApprovalRequest

/-- The request an interrupt starts from: the payload the handler left in the
state, or a default one. `fresh` is the identifier drawn when none is given. -/
def interruptPayload (platform : Platform) (fresh : String) (now : Instant)
    (exc : WaitForApprovalError) (node : NodeDefinition) (run : WorkflowRun)
    (execution : NodeExecution) : Option ApprovalRequest :=
  match approvalPayloadFromState run.state exc.approvalId with
  | some raw => ApprovalRequest.modelValidate platform fresh raw
  | none => some
      { id := if exc.approvalId = "" then fresh else exc.approvalId
        runId := run.id
        nodeExecutionId := execution.id
        toolName := some (if exc.toolName = "" then node.handler else exc.toolName)
        actionDescription := "Approval required for node " ++ node.id
        riskLevel := .medium
        status := .pending
        requestedBy := if run.initiatedBy = "" then "system:engine" else run.initiatedBy
        assignedTo := []
        decidedBy := none
        decidedAt := none
        decisionReason := none
        expiresAt := now
        context := []
        scope := platform.defaultScope }

/-- `_approval_request_for_interrupt`; `none` is a `ValidationError`. -/
def approvalRequestForInterrupt (platform : Platform) (fresh : String) (now : Instant)
    (exc : WaitForApprovalError) (node : NodeDefinition) (run : WorkflowRun)
    (execution : NodeExecution) : Option ApprovalRequest :=
  (interruptPayload platform fresh now exc node run execution).map fun request =>
    { request with
      runId := run.id
      nodeExecutionId := execution.id
      toolName :=
        if request.toolName.getD "" = "" then
          some (if exc.toolName = "" then node.handler else exc.toolName)
        else request.toolName
      context := Dict.update request.context
        [("run_id", .str run.id), ("node_id", .str node.id), ("resume_node_id", .str node.id),
         ("state", .dict (jsonableState run.state))] }

/-- `_resume_node_from_state`; `none` is its `ValueError`. -/
def resumeNodeFromState (state approvalContext : State) : Option String :=
  let named := (lookup approvalContext "resume_node_id").orElse (lookup state "_resume_from")
  let resumeNode := if named.truthy then named else
    match (lookup state "_waiting_approval").asDict? with
    | some waiting => lookup waiting "node_id"
    | none => named
  if resumeNode.truthy then some resumeNode.pyStr else none

/-- `_approval_resume_payload`; `none` is its `ValueError`. -/
def approvalResumePayload (now : Instant) (state : State)
    (approvalId : String) : Option State :=
  match (lookup state "_waiting_approval").asDict? with
  | some waiting =>
      if lookupStr waiting "approval_id" = approvalId then
        some [("approval_id", .str approvalId), ("node_id", .str (lookupStr waiting "node_id")),
              ("tool_name", .str (lookupStr waiting "tool_name")),
              ("resumed_at", .str (Instant.isoformat now))]
      else none
  | none => none

/-- The state update of `_clear_consumed_resume_marker`. -/
def clearConsumedResumeMarker (nodeId : String) (state : State) : State :=
  match (lookup state "_approval_resume").asDict? with
  | some resume =>
      if lookup resume "node_id" = .str nodeId then
        ["_approval_resume", "_approved_approval_id", "_resume_from", "_waiting_approval"].foldl
          Dict.pop state
      else state
  | none => state

/-- What the consumption transaction of `resume_after_approval` stores. -/
structure Consumption where
  approval : ApprovalRequestRow
  run : WorkflowRunRow

/-- The transaction of `resume_after_approval`: its checks in order and the two
rows it writes. -/
def consumeApproval (now : Instant) (db : Database)
    (runId approvalId : String) : Except String Consumption :=
  match (db.approvals approvalId).filter (·.runId = runId) with
  | none => .error ("Approval request " ++ approvalId ++ " not found for run " ++ runId)
  | some approval =>
      if approval.status ≠ .approved then
        .error ("Approval request " ++ approvalId ++ " is not APPROVED")
      else if (lookup approval.context "consumed_at").truthy then
        .error ("Approval request " ++ approvalId ++ " has already been consumed")
      else match db.runs runId with
        | none => .error ("Run not found: " ++ runId)
        | some row =>
            if row.status ≠ .waitingApproval then
              .error ("Run " ++ runId ++ " is not waiting for approval")
            else match resumeNodeFromState row.state approval.context with
              | none => .error "Persisted approval checkpoint is missing resume node"
              | some resumeNode =>
                  let stamp := Value.str (Instant.isoformat now)
                  let payload : State :=
                    [("approval_id", .str approvalId), ("node_id", .str resumeNode),
                     ("tool_name", .str approval.toolName), ("resumed_at", stamp)]
                  let state := Dict.set (Dict.set (Dict.set row.state
                    "_approval_resume" (.dict payload))
                    "_approved_approval_id" (.str approvalId))
                    "_resume_from" (.str resumeNode)
                  let context := Dict.set (Dict.set (Dict.set approval.context
                    "consumed_at" stamp)
                    "consumed_for_run_id" (.str runId))
                    "resume_node_id" (.str resumeNode)
                  .ok { approval := { approval with context }
                        run := { row with status := .running, state } }

def Consumption.commit (consumption : Consumption) (db : Database)
    (runId approvalId : String) : Database :=
  (db.setApproval approvalId consumption.approval).setRun runId consumption.run

end SyndicateClaw.Orchestrator
