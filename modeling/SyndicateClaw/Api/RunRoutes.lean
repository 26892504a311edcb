import SyndicateClaw.Orchestrator.World
import SyndicateClaw.Services.Scheduler
import SyndicateClaw.Services.Versioning

/-! The routes that set the status of a stored run.

`pause_run`, `resume_run` and `cancel_run` check the owner and the stored status and write
the new status to the row. None of them calls the engine.
-/

namespace SyndicateClaw.Api

open Orchestrator Services

structure HTTPException where
  statusCode : Nat
  detail : String
  deriving DecidableEq

def setRunStatus (verb : String) (accepts : WorkflowRunStatus → Bool)
    (status : WorkflowRunStatus) (db : Database) (runId actor : String) :
    Except HTTPException Database :=
  match db.runs runId with
  | none => .error { statusCode := 404, detail := "Run not found" }
  | some run =>
      if run.initiatedBy ≠ "" ∧ run.initiatedBy ≠ actor then
        .error { statusCode := 404, detail := "Run not found" }
      else if accepts run.status then .ok (db.setRun runId { run with status })
      else .error
        { statusCode := 409
          detail := "Cannot " ++ verb ++ " run in status " ++ run.status.value }

def pauseRun : Database → String → String → Except HTTPException Database :=
  setRunStatus "pause" (fun status => status = .running) .paused

def resumeRun : Database → String → String → Except HTTPException Database :=
  setRunStatus "resume"
    (fun status => status ∈ [.paused, .waitingApproval, .waitingAgentResponse]) .running

def cancelRun : Database → String → String → Except HTTPException Database :=
  setRunStatus "cancel" (fun status => status ∉ [.completed, .cancelled]) .cancelled

variable {verb : String} {accepts : WorkflowRunStatus → Bool} {status : WorkflowRunStatus}
  {db db' : Database} {runId actor : String}

theorem setRunStatus_ok (done : setRunStatus verb accepts status db runId actor = .ok db') :
    ∃ run, db.runs runId = some run ∧ accepts run.status = true ∧
      db' = db.setRun runId { run with status } := by
  unfold setRunStatus at done
  split at done
  · cases done
  · next run found =>
      split_ifs at done with owner accepted
      exact ⟨run, found, accepted, (Except.ok.inj done).symm⟩

/-! ### New runs

The rows of runs that `start_run` and the scheduler create. -/

/-- A row of `workflow_runs`, with the columns that the engine leaves alone. -/
structure RunRow extends WorkflowRunRow where
  namespaceName : String
  triggeredBy : Option String
  parentScheduleId : Option String
  owningScopeType : String
  owningScopeId : String

def newRun (id workflowId workflowVersion initiatedBy : String) (state : State)
    (tags : Dict String String) : WorkflowRunRow where
  id
  workflowId
  workflowVersion
  status := .pending
  state
  parentRunId := none
  initiatedBy
  startedAt := none
  completedAt := none
  error := none
  checkpointData := none
  tags
  versionManifest := none
  replayMode := .live

structure Organization where
  status : String
  namespaceName : String

structure StartRunRequest where
  initialState : State
  tags : Dict String String
  version : Option Int

/-- The version that is recorded: the one that is asked for, if it can be fetched, or the current
one. -/
def resolvedVersion (wf : WorkflowDefinitionRow) (found : Int → Except VersionError WorkflowVersion) :
    Option Int → Except HTTPException Int
  | some version =>
      match found version with
      | .ok _ => .ok version
      | .error _ => .error { statusCode := 404, detail := "Workflow version not found" }
  | none => .ok (if wf.currentVersion = 0 then 1 else wf.currentVersion)

/-- `start_run`, over what it reads one after another: the workflow, the number of active runs and
the version. -/
def startRun (maxConcurrentRuns : Nat) (wf : Option WorkflowDefinitionRow)
    (actorOrg : Option Organization) (activeCount : Nat)
    (found : Int → Except VersionError WorkflowVersion) (workflowId actor runId : String)
    (body : StartRunRequest) : Except HTTPException RunRow :=
  match wf with
  | none => .error { statusCode := 404, detail := "Workflow not found" }
  | some wf =>
      if actorOrg.any fun org => org.status = "DELETING" then
        .error
          { statusCode := 409
            detail := "Organization is being deleted; new runs are blocked" }
      else if maxConcurrentRuns ≤ activeCount then
        .error
          { statusCode := 429
            detail := "Concurrent run limit reached (" ++ toString activeCount ++ "/" ++
              toString maxConcurrentRuns ++ "). Retry later." }
      else match resolvedVersion wf found body.version with
        | .error error => .error error
        | .ok resolved =>
            if actorOrg.any fun org => wf.namespaceName ≠ org.namespaceName then
              .error
                { statusCode := 403
                  detail := "Cross-namespace access requires impersonation" }
            else .ok
              { newRun runId workflowId (toString resolved) actor body.initialState body.tags with
                namespaceName := wf.namespaceName
                triggeredBy := none
                parentScheduleId := none
                owningScopeType := "PLATFORM"
                owningScopeId := "platform" }

def scheduledRow (run : ScheduledRun) : RunRow :=
  { newRun run.id run.workflowId run.workflowVersion run.initiatedBy run.state [] with
    namespaceName := run.namespaceName
    triggeredBy := some run.triggeredBy
    parentScheduleId := some run.parentScheduleId
    owningScopeType := run.owningScopeType
    owningScopeId := run.owningScopeId }

variable {maxConcurrentRuns activeCount : Nat} {wf : Option WorkflowDefinitionRow}
  {actorOrg : Option Organization} {found : Int → Except VersionError WorkflowVersion}
  {workflowId actor runId : String} {body : StartRunRequest} {run : RunRow}

theorem startRun_ok (done : startRun maxConcurrentRuns wf actorOrg activeCount found workflowId
      actor runId body = .ok run) :
    ∃ row resolved, wf = some row ∧ activeCount < maxConcurrentRuns ∧
      resolvedVersion row found body.version = .ok resolved ∧
      run.workflowVersion = toString resolved ∧ run.id = runId ∧ run.status = .pending := by
  unfold startRun at done
  cases wf with
  | none => cases done
  | some row =>
      dsimp only at done
      cases resolves : resolvedVersion row found body.version with
      | error error =>
          rw [resolves] at done
          split_ifs at done
      | ok resolved =>
          rw [resolves] at done
          dsimp only at done
          split_ifs at done with deleting full foreign
          obtain rfl := Except.ok.inj done
          exact ⟨row, resolved, rfl, Nat.lt_of_not_le full, resolves, rfl, rfl, rfl⟩

end SyndicateClaw.Api
