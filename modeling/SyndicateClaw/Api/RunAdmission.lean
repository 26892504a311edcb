import SyndicateClaw.Api.RunRoutes

/-! How many runs are active, over every interleaving of the requests and the scheduler. -/

namespace SyndicateClaw.Api

open Async Orchestrator Services
open Approval (changed)

/-- The statuses that `start_run` counts. -/
def activeStatuses : List WorkflowRunStatus :=
  [.pending, .running, .waitingApproval, .waitingAgentResponse]

def RunRow.active (row : RunRow) : Bool := row.status ∈ activeStatuses

def RunRow.key (row : RunRow) : String := row.id

abbrev RunTable := Keyed RunRow.key

def RunTable.activeCount (table : RunTable) : Nat := table.rows.countP RunRow.active

def RunTable.database (table : RunTable) : Database where
  runs := fun id => (table.get? id).map RunRow.toWorkflowRunRow
  nodeExecutions := fun _ => none
  approvals := fun _ => none

/-- `replay_run`: besides the status, it resets the outcome. -/
def replayRun (db : Database) (runId actor : String) : Except HTTPException Database :=
  match db.runs runId with
  | none => .error { statusCode := 404, detail := "Run not found" }
  | some run =>
      if run.initiatedBy ≠ "" ∧ run.initiatedBy ≠ actor then
        .error { statusCode := 404, detail := "Run not found" }
      else if run.status ∈ [.completed, .failed, .cancelled] then
        .ok (db.setRun runId { run with status := .pending, error := none, completedAt := none })
      else .error
        { statusCode := 409
          detail := "Cannot replay run in status " ++ run.status.value }

inductive RunAction where
  | pause | resume | cancel | replay
  deriving DecidableEq

def RunAction.answer : RunAction → Database → String → String → Except HTTPException Database
  | .pause => pauseRun
  | .resume => resumeRun
  | .cancel => cancelRun
  | .replay => replayRun

/-- The flush of a run that was read before: the columns that have changed since are set. -/
def saveRun (seen new : WorkflowRunRow) (current : RunRow) : RunRow :=
  { current with
    status := changed seen.status new.status current.status
    error := changed seen.error new.error current.error
    completedAt := changed seen.completedAt new.completedAt current.completedAt }

theorem saveRun_key (seen new : WorkflowRunRow) (current : RunRow) :
    (saveRun seen new current).key = current.key := rfl

inductive RunSession where
  -- With the workflow and the versions as it reads them.
  | start (wf : Option WorkflowDefinitionRow) (actorOrg : Option Organization)
      (found : Int → Except VersionError WorkflowVersion) (workflowId actor runId : String)
      (body : StartRunRequest)
  | act (action : RunAction) (runId actor : String)
  | schedule (schedule : ClaimedSchedule) (runId : String)
  -- A run that was admitted, and a run whose row was read and changed.
  | admitted (run : RunRow)
  | accepted (runId : String) (seen new : WorkflowRunRow)
  | closed

structure AdmissionDesk (ι : Type) where
  table : RunTable
  sessions : ι → RunSession

inductive AdmissionAct (ι : Type) where
  | turn (session : ι)
  | abandon (session : ι)
  -- The engine takes an active run on.
  | engine (runId : String) (status : WorkflowRunStatus)

def setStatus (status : WorkflowRunStatus) (row : RunRow) : RunRow :=
  if row.active then { row with status } else row

theorem setStatus_key (status : WorkflowRunStatus) (row : RunRow) :
    (setStatus status row).key = row.key := by
  unfold setStatus
  split <;> rfl

def RunSession.turn (maxConcurrentRuns : Nat) (table : RunTable) :
    RunSession → RunTable × RunSession
  | .start wf actorOrg found workflowId actor runId body =>
      match startRun maxConcurrentRuns wf actorOrg table.activeCount found workflowId actor runId
          body with
      | .error _ => (table, .closed)
      | .ok run => (table, .admitted run)
  | .act action runId actor =>
      match table.database.runs runId, action.answer table.database runId actor with
      | some seen, .ok db => (table, .accepted runId seen ((db.runs runId).getD seen))
      | _, _ => (table, .closed)
  | .schedule claimed runId => (table.insert (scheduledRow (createRun claimed runId)), .closed)
  | .admitted run => (table.insert run, .closed)
  | .accepted runId seen new =>
      (table.changeAt runId (saveRun seen new) (saveRun_key seen new), .closed)
  | .closed => (table, .closed)

namespace AdmissionDesk

variable {ι : Type} [DecidableEq ι]

def step (maxConcurrentRuns : Nat) (desk : AdmissionDesk ι) : AdmissionAct ι → AdmissionDesk ι
  | .turn session =>
      let (table, next) := (desk.sessions session).turn maxConcurrentRuns desk.table
      { table, sessions := Function.update desk.sessions session next }
  | .abandon session => { desk with sessions := Function.update desk.sessions session .closed }
  | .engine runId status =>
      { desk with table := desk.table.changeAt runId (setStatus status) (setStatus_key status) }

/-- The desk after the first `n` acts. -/
abbrev after (maxConcurrentRuns : Nat) (desk : AdmissionDesk ι) (acts : List (AdmissionAct ι))
    (n : Nat) : AdmissionDesk ι :=
  stateAfter (step maxConcurrentRuns) desk acts n

end AdmissionDesk

/-- A transaction that makes a run active: an insert by `start_run` or the scheduler, or the write
of a status over one that does not count. -/
def RunSession.Admits (table : RunTable) : RunSession → Prop
  | .schedule _ runId => table.get? runId = none
  | .admitted run => table.get? run.id = none ∧ run.active = true
  | .accepted runId seen new =>
      ∃ row, table.get? runId = some row ∧ row.active = false ∧
        (saveRun seen new row).active = true
  | _ => False

theorem activeCount_insert (table : RunTable) (row : RunRow) :
    RunTable.activeCount (table.insert row) =
      table.activeCount + if table.get? row.key = none ∧ row.active = true then 1 else 0 :=
  table.countP_insert row RunRow.active

theorem activeCount_changeAt (table : RunTable) (runId : String) (f : RunRow → RunRow)
    (keeps : ∀ row, (f row).key = row.key) :
    ((∃ row, table.get? runId = some row ∧ row.active = false ∧ (f row).active = true) →
      RunTable.activeCount (table.changeAt runId f keeps) = table.activeCount + 1) ∧
    ((¬ ∃ row, table.get? runId = some row ∧ row.active = false ∧ (f row).active = true) →
      RunTable.activeCount (table.changeAt runId f keeps) ≤ table.activeCount) := by
  cases found : table.get? runId with
  | none =>
      rw [Keyed.changeAt_of_none f keeps found]
      simp
  | some row =>
      have counts := table.countP_changeAt f keeps RunRow.active found
      constructor
      · intro turned
        obtain ⟨other, own, idle, busy⟩ := turned
        obtain rfl := Option.some.inj own
        rw [if_neg (by simp [idle]), if_pos busy] at counts
        exact counts
      · intro kept
        have still : (f row).active = true → row.active = true := by
          intro busy
          by_contra idle
          exact kept ⟨row, rfl, by simpa using idle, busy⟩
        unfold RunTable.activeCount
        by_cases busy : (f row).active = true
        · rw [if_pos (still busy), if_pos busy] at counts
          omega
        · rw [if_neg busy] at counts
          omega

theorem activeCount_turn (maxConcurrentRuns : Nat) (table : RunTable) (session : RunSession) :
    (session.Admits table →
      (session.turn maxConcurrentRuns table).1.activeCount = table.activeCount + 1) ∧
    (¬ session.Admits table →
      (session.turn maxConcurrentRuns table).1.activeCount ≤ table.activeCount) := by
  cases session with
  | start wf actorOrg found workflowId actor runId body =>
      refine ⟨False.elim, fun _ => ?_⟩
      simp only [RunSession.turn]
      split
      · exact le_refl _
      · exact le_refl _
  | act action runId actor =>
      refine ⟨False.elim, fun _ => ?_⟩
      simp only [RunSession.turn]
      split
      · exact le_refl _
      · exact le_refl _
  | schedule claimed runId =>
      have count := activeCount_insert table (scheduledRow (createRun claimed runId))
      constructor
      · intro fresh
        rw [if_pos ⟨fresh, rfl⟩] at count
        exact count
      · intro taken
        rw [if_neg fun both => taken both.1] at count
        exact count.le
  | admitted run =>
      have count := activeCount_insert table run
      constructor
      · intro fresh
        change table.get? run.key = none ∧ run.active = true at fresh
        rw [if_pos fresh] at count
        exact count
      · intro taken
        change ¬ (table.get? run.key = none ∧ run.active = true) at taken
        rw [if_neg taken] at count
        exact count.le
  | accepted runId seen new =>
      exact activeCount_changeAt table runId (saveRun seen new) (saveRun_key seen new)
  | closed => exact ⟨False.elim, fun _ => le_refl _⟩

def AdmissionDesk.Roomy {ι : Type} (maxConcurrentRuns : Nat) (desk : AdmissionDesk ι)
    (act : AdmissionAct ι) : Prop :=
  ∀ session, act = .turn session → (desk.sessions session).Admits desk.table →
    desk.table.activeCount < maxConcurrentRuns

theorem AdmissionDesk.bound_step_iff {ι : Type} [DecidableEq ι] {maxConcurrentRuns : Nat}
    {desk : AdmissionDesk ι} (within : desk.table.activeCount ≤ maxConcurrentRuns)
    (act : AdmissionAct ι) :
    (desk.step maxConcurrentRuns act).table.activeCount ≤ maxConcurrentRuns ↔
      desk.Roomy maxConcurrentRuns act := by
  cases act with
  | turn session =>
      by_cases admits : (desk.sessions session).Admits desk.table
      · have count : (desk.step maxConcurrentRuns (.turn session)).table.activeCount =
            desk.table.activeCount + 1 := (activeCount_turn maxConcurrentRuns _ _).1 admits
        rw [count, Nat.add_one_le_iff]
        constructor
        · exact fun room _ same => AdmissionAct.turn.inj same ▸ fun _ => room
        · exact fun roomy => roomy session rfl admits
      · have count : (desk.step maxConcurrentRuns (.turn session)).table.activeCount ≤
            desk.table.activeCount := (activeCount_turn maxConcurrentRuns _ _).2 admits
        apply iff_of_true (count.trans within)
        exact fun _ same => AdmissionAct.turn.inj same ▸ fun admitted => absurd admitted admits
  | abandon session => exact iff_of_true within nofun
  | engine runId status =>
      have idle : ¬ ∃ row, desk.table.get? runId = some row ∧
          row.active = false ∧ (setStatus status row).active = true := by
        intro turned
        obtain ⟨row, -, quiet, busy⟩ := turned
        rw [setStatus, if_neg (by simp [quiet]), quiet] at busy
        cases busy
      have count := (activeCount_changeAt _ _ _ (setStatus_key status)).2 idle
      exact iff_of_true (count.trans within) nofun

def startPlain (runId : String) : RunSession :=
  .start
    (some (createWorkflow
      { name := "plain", description := "", nodes := .list [], edges := .list [],
        metadata := .dict [] } "author" "default"))
    none (fun _ => .error (.notFound "version not found")) "plain" "author" runId
    { initialState := [], tags := [], version := none }

def replaying : Nat → RunSession
  | 0 => startPlain "first"
  | 1 => .act .cancel "first" "author"
  | 2 => startPlain "second"
  | 3 => .act .replay "first" "author"
  | _ => .closed

def noRuns : AdmissionDesk Nat where
  table := { rows := [], distinct := List.nodup_nil }
  sessions := replaying

end SyndicateClaw.Api
