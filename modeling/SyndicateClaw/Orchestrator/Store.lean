import Mathlib.Logic.Function.Basic
import SyndicateClaw.Orchestrator.Models

/-! The tables the engine writes and the transactions over them. A transaction is
one function of the database; one that raises leaves no change, since
`session.begin()` rolls back. -/

namespace SyndicateClaw.Orchestrator

structure Database where
  runs : String → Option WorkflowRunRow
  nodeExecutions : String → Option NodeExecution
  approvals : String → Option ApprovalRequestRow

namespace Database

variable (db : Database)

def setRun (id : String) (row : WorkflowRunRow) : Database :=
  { db with runs := Function.update db.runs id (some row) }

def setApproval (id : String) (row : ApprovalRequestRow) : Database :=
  { db with approvals := Function.update db.approvals id (some row) }

@[simp] theorem setRun_approvals (id : String) (row : WorkflowRunRow) :
    (db.setRun id row).approvals = db.approvals := rfl

@[simp] theorem setApproval_runs (id : String) (row : ApprovalRequestRow) :
    (db.setApproval id row).runs = db.runs := rfl

/-- The row a run object is written to; `row` is the one already stored. -/
def runRow (run : WorkflowRun) (row : Option WorkflowRunRow) : WorkflowRunRow :=
  { id := run.id
    workflowId := (row.map (·.workflowId)).getD run.workflowId
    workflowVersion := (row.map (·.workflowVersion)).getD run.workflowVersion
    status := run.status
    state := jsonableState run.state
    parentRunId := (row.map (·.parentRunId)).getD run.parentRunId
    initiatedBy := (row.map (·.initiatedBy)).getD run.initiatedBy
    startedAt := run.startedAt
    completedAt := run.completedAt
    error := run.error
    checkpointData := run.checkpointData
    tags := run.tags
    versionManifest := run.versionManifest
    replayMode := run.replayMode }

/-- `_upsert_run`. -/
def upsertRun (run : WorkflowRun) : Database :=
  db.setRun run.id (runRow run (db.runs run.id))

/-- `_upsert_node_execution`: an existing row keeps its run, node and name. -/
def upsertNodeExecution (execution : NodeExecution) : Database :=
  let row := db.nodeExecutions execution.id
  let stored : NodeExecution :=
    { execution with
      runId := (row.map (·.runId)).getD execution.runId
      nodeId := (row.map (·.nodeId)).getD execution.nodeId
      nodeName := (row.map (·.nodeName)).getD execution.nodeName
      inputState := jsonableState execution.inputState
      outputState := jsonableState execution.outputState }
  { db with nodeExecutions := Function.update db.nodeExecutions execution.id (some stored) }

/-- The row an approval boundary leaves for `request`; an existing row keeps its
run and its decision fields and takes everything else from the request. -/
def approvalRow (request : ApprovalRequest) (row : Option ApprovalRequestRow) :
    ApprovalRequestRow :=
  { id := request.id
    runId := (row.map (·.runId)).getD request.runId
    nodeExecutionId := request.nodeExecutionId
    toolName := request.toolName.getD ""
    actionDescription := request.actionDescription
    riskLevel := request.riskLevel
    status := request.status
    requestedBy := request.requestedBy
    assignedTo := request.assignedTo
    decidedBy := row.bind (·.decidedBy)
    decidedAt := row.bind (·.decidedAt)
    decisionReason := row.bind (·.decisionReason)
    expiresAt := some request.expiresAt
    context := jsonableState request.context
    scope := request.scope }

def upsertApproval (request : ApprovalRequest) : Database :=
  db.setApproval request.id (approvalRow request (db.approvals request.id))

/-- `_persist_run_and_node`. -/
def persistRunAndNode (run : WorkflowRun) (execution : NodeExecution) : Database :=
  (db.upsertRun run).upsertNodeExecution execution

/-- `_persist_approval_boundary`. -/
def persistApprovalBoundary (run : WorkflowRun) (execution : NodeExecution)
    (request : ApprovalRequest) : Database :=
  ((db.upsertRun run).upsertNodeExecution execution).upsertApproval request

@[simp] theorem upsertRun_approvals (run : WorkflowRun) :
    (db.upsertRun run).approvals = db.approvals := rfl

@[simp] theorem upsertNodeExecution_approvals (execution : NodeExecution) :
    (db.upsertNodeExecution execution).approvals = db.approvals := rfl

@[simp] theorem upsertNodeExecution_runs (execution : NodeExecution) :
    (db.upsertNodeExecution execution).runs = db.runs := rfl

@[simp] theorem upsertApproval_runs (request : ApprovalRequest) :
    (db.upsertApproval request).runs = db.runs := rfl

@[simp] theorem upsertRun_runs (run : WorkflowRun) :
    (db.upsertRun run).runs =
      Function.update db.runs run.id (some (runRow run (db.runs run.id))) := rfl

@[simp] theorem persistRunAndNode_runs (run : WorkflowRun) (execution : NodeExecution) :
    (db.persistRunAndNode run execution).runs = (db.upsertRun run).runs := rfl

@[simp] theorem persistRunAndNode_approvals (run : WorkflowRun) (execution : NodeExecution) :
    (db.persistRunAndNode run execution).approvals = db.approvals := rfl

@[simp] theorem persistApprovalBoundary_runs (run : WorkflowRun) (execution : NodeExecution)
    (request : ApprovalRequest) :
    (db.persistApprovalBoundary run execution request).runs = (db.upsertRun run).runs := rfl

theorem persistApprovalBoundary_approvals (run : WorkflowRun) (execution : NodeExecution)
    (request : ApprovalRequest) :
    (db.persistApprovalBoundary run execution request).approvals =
      Function.update db.approvals request.id
        (some (approvalRow request (db.approvals request.id))) := rfl

end Database

/-! ### Decisions -/

inductive DecisionError where
  | value (message : String)
  | permission (message : String)
  deriving DecidableEq

/-- `ApprovalService._decide`. Every refusal, also the one that marks the row
EXPIRED first, raises inside the transaction and is rolled back. -/
def decideApproval (db : Database) (requestId approver reason : String)
    (status : ApprovalStatus) (now : Instant) : Except DecisionError Database :=
  match db.approvals requestId with
  | none => .error (.value ("Approval request " ++ requestId ++ " not found"))
  | some row =>
      if row.status ≠ .pending then
        .error (.value ("Request " ++ requestId ++ " is " ++ row.status.value ++ ", not PENDING"))
      else if approver = row.requestedBy then
        .error (.permission ("Self-approval prohibited: " ++ approver ++
          " cannot approve their own request"))
      else if approver ∉ row.assignedTo then
        .error (.permission (approver ++ " is not in the assigned approvers list"))
      else if row.expiresAt.any (· ≤ now) then
        .error (.value ("Request " ++ requestId ++ " has expired"))
      else
        .ok (db.setApproval requestId { row with
          status := status
          decidedBy := some approver
          decidedAt := some now
          decisionReason := some reason })

/-- `ApprovalService.expire_stale`: pending rows whose deadline has passed. -/
def expireStale (db : Database) (now : Instant) : Database :=
  { db with approvals := fun id => (db.approvals id).map fun row =>
      if row.status = .pending ∧ row.expiresAt.any (· ≤ now) then
        { row with status := .expired } else row }

/-- The same rows up to what a decision or an expiry writes. -/
def Database.Redecided (db db' : Database) : Prop :=
  db'.runs = db.runs ∧ ∃ f : String → ApprovalRequestRow → ApprovalRequestRow,
    (∀ id, db'.approvals id = (db.approvals id).map (f id)) ∧
      ∀ id row, (f id row).runId = row.runId ∧ (f id row).context = row.context

theorem decideApproval_redecided {db db' : Database} {requestId approver reason : String}
    {status : ApprovalStatus} {now : Instant}
    (accepted : decideApproval db requestId approver reason status now = .ok db') :
    db.Redecided db' := by
  unfold decideApproval at accepted
  split at accepted
  · cases accepted
  next row present =>
    split_ifs at accepted
    obtain rfl := Except.ok.inj accepted
    refine ⟨rfl, fun id row => if id = requestId then { row with
      status := status
      decidedBy := some approver
      decidedAt := some now
      decisionReason := some reason } else row, fun id => ?_, fun id row => ?_⟩
    · by_cases same : id = requestId
      · subst same
        simp [Database.setApproval, present]
      · simp [Database.setApproval, same]
    · dsimp only
      split <;> exact ⟨rfl, rfl⟩

theorem expireStale_redecided (db : Database) (now : Instant) :
    db.Redecided (expireStale db now) := by
  refine ⟨rfl, fun _ row => if row.status = .pending ∧ row.expiresAt.any (· ≤ now) then
    { row with status := .expired } else row, fun id => rfl, fun id row => ?_⟩
  dsimp only
  split <;> exact ⟨rfl, rfl⟩

end SyndicateClaw.Orchestrator
