import SyndicateClaw.Async.History
import SyndicateClaw.Data.KeySort
import SyndicateClaw.Services.Schedules

/-! `SchedulerService`: how its instances claim schedules, create their runs and release them. -/

namespace SyndicateClaw.Services

open Orchestrator
open Authz (Time)

structure SchedulerSettings where
  schedulerLockLeaseSeconds : Nat := 120
  schedulerBatchSize : Nat := 20

structure ClaimedSchedule where
  id : String
  workflowId : String
  workflowVersion : Option Int
  scheduleType : ScheduleType
  scheduleValue : String
  inputState : State
  actor : String
  namespaceName : String
  maxRuns : Option Int
  runCount : Int

def WorkflowSchedule.returned (row : WorkflowSchedule) : ClaimedSchedule where
  id := row.id
  workflowId := row.workflowId
  workflowVersion := row.workflowVersion
  scheduleType := row.scheduleType
  scheduleValue := row.scheduleValue
  inputState := row.inputState
  actor := row.actor
  namespaceName := row.namespaceName
  maxRuns := row.maxRuns
  runCount := row.runCount

/-- The columns that `_create_run` sets. -/
structure ScheduledRun where
  id : String
  workflowId : String
  workflowVersion : String
  initiatedBy : String
  state : State
  namespaceName : String
  triggeredBy : String
  parentScheduleId : String
  owningScopeType : String
  owningScopeId : String

def createRun (schedule : ClaimedSchedule) (runId : String) : ScheduledRun where
  id := runId
  workflowId := schedule.workflowId
  workflowVersion := (schedule.workflowVersion.map toString).getD "1"
  initiatedBy := schedule.actor
  state := schedule.inputState
  namespaceName := schedule.namespaceName
  triggeredBy := "SCHEDULE"
  parentScheduleId := schedule.id
  owningScopeType := "NAMESPACE"
  owningScopeId := schedule.namespaceName

/-! ### Single transactions -/

/-- The `WHERE` clause of a claim. -/
def WorkflowSchedule.due (now : Time) (row : WorkflowSchedule) : Bool :=
  row.status = .active && row.nextRunAt ≤ now && row.lockedUntil.all (· ≤ now)

/-- The rows that a claim locks; it skips those that another transaction holds. -/
def claimedRows (settings : SchedulerSettings) (table : Keyed WorkflowSchedule.id) (now : Time)
    (skipped : List String) : List WorkflowSchedule :=
  (sortBy WorkflowSchedule.nextRunAt
    (table.rows.filter fun row => row.due now && row.id ∉ skipped)).take
      settings.schedulerBatchSize

def WorkflowSchedule.relocked (row : WorkflowSchedule) (lock : Option String × Option Time) :
    WorkflowSchedule :=
  { row with lockedBy := lock.1, lockedUntil := lock.2 }

def WorkflowSchedule.locked (settings : SchedulerSettings) (now : Time) (instanceId : String)
    (row : WorkflowSchedule) : WorkflowSchedule :=
  row.relocked (some instanceId, some (now + settings.schedulerLockLeaseSeconds * 1000000))

/-- How the transaction that creates a run ends; the last commits, and its acknowledgement is
lost. -/
inductive Commit where
  | acknowledged | rolledBack | unacknowledged
  deriving DecidableEq

structure Attempt where
  created : Bool
  raised : Bool
  deriving DecidableEq

def ClaimedSchedule.maxRunsReached (schedule : ClaimedSchedule) : Bool :=
  schedule.maxRuns.any (· ≤ schedule.runCount)

/-- `_execute_schedule` -/
def executeSchedule (schedule : ClaimedSchedule) (commit : Commit) : Attempt :=
  if schedule.maxRunsReached then { created := false, raised := false }
  else match commit with
    | .acknowledged => { created := true, raised := false }
    | .rolledBack => { created := false, raised := true }
    | .unacknowledged => { created := true, raised := true }

def ClaimedSchedule.final (schedule : ClaimedSchedule) : Bool :=
  schedule.maxRuns.any (· ≤ schedule.runCount + 1) || schedule.scheduleType = .once

/-- The `new_status` and the `next_run` of `_execute_and_release`. -/
def concluded (readers : ScheduleReaders) (now : Time) (schedule : ClaimedSchedule)
    (raised : Bool) : Option ScheduleStatus × Option Time :=
  if raised then (none, none)
  else if schedule.final then (some .completed, none)
  else (none, (computeNextRun readers now schedule.scheduleType schedule.scheduleValue).toOption)

/-- `_release_lock` -/
def releaseLock (now : Time) (runCount : Int) (newStatus : Option ScheduleStatus)
    (nextRun : Option Time) (row : WorkflowSchedule) : WorkflowSchedule :=
  { row with
    lockedBy := none
    lockedUntil := none
    runCount := runCount + 1
    lastRunAt := some now
    nextRunAt := nextRun.getD row.nextRunAt
    status := newStatus.getD row.status }

theorem releaseLock_id (now : Time) (runCount : Int) (newStatus : Option ScheduleStatus)
    (nextRun : Option Time) (row : WorkflowSchedule) :
    (releaseLock now runCount newStatus nextRun row).id = row.id := rfl

/-! ### Instances -/

/-- An execution of `_execute_and_release`. Besides what it knows, `dueAt` is the `next_run_at`
that was due, `claim` the number of claims before this one, and `edits` how often operators had
set `next_run_at` before it. -/
structure Execution where
  schedule : ClaimedSchedule
  dueAt : Time
  claim : Nat
  edits : Nat
  attempt : Option Attempt := none

/-- A run that was created, with the due time and the claim that it answers. -/
structure Firing where
  run : ScheduledRun
  dueAt : Time
  claim : Nat

def Execution.firing (e : Execution) (runId : String) : Firing where
  run := createRun e.schedule runId
  dueAt := e.dueAt
  claim := e.claim

structure SchedulerWorld where
  table : Keyed WorkflowSchedule.id
  /-- The executions that have not been released, by instance and schedule. -/
  executions : String → String → Option Execution
  firings : List Firing
  claims : Nat
  edits : String → Nat

def SchedulerWorld.start (table : Keyed WorkflowSchedule.id) : SchedulerWorld where
  table
  executions := fun _ _ => none
  firings := []
  claims := 0
  edits := fun _ => 0

inductive SchedulerAct where
  | poll (instanceId : String) (now : Time) (skipped : List String)
  | execute (instanceId scheduleId runId : String) (commit : Commit)
  | release (instanceId scheduleId : String) (now : Time) (commits : Bool)
  | crash (instanceId : String)

namespace SchedulerWorld

variable (w : SchedulerWorld)

def setExecution (instanceId scheduleId : String) (execution : Option Execution) :
    String → String → Option Execution :=
  fun holder id =>
    if holder = instanceId ∧ id = scheduleId then execution else w.executions holder id

def begun (row : WorkflowSchedule) : Execution where
  schedule := row.returned
  dueAt := row.nextRunAt
  claim := w.claims
  edits := w.edits row.id

def busy (instanceId : String) : Bool :=
  w.table.rows.any fun row => (w.executions instanceId row.id).isSome

def poll (settings : SchedulerSettings) (instanceId : String) (now : Time)
    (skipped : List String) : SchedulerWorld :=
  if w.busy instanceId then w
  else
    let rows := claimedRows settings w.table now skipped
    { w with
      table := w.table.change
        (fun row =>
          if row.id ∈ rows.map WorkflowSchedule.id then row.locked settings now instanceId else row)
        fun row => by
          split
          · rfl
          · rfl
      executions := fun holder id =>
        if holder = instanceId then (rows.find? fun row => row.id = id).map w.begun
        else w.executions holder id
      claims := w.claims + 1 }

def execute (instanceId scheduleId runId : String) (commit : Commit) : SchedulerWorld :=
  match w.executions instanceId scheduleId with
  | none => w
  | some e =>
      if e.attempt.isSome then w
      else
        let attempt := executeSchedule e.schedule commit
        { w with
          executions := w.setExecution instanceId scheduleId (some { e with attempt := some attempt })
          firings := if attempt.created then w.firings ++ [e.firing runId] else w.firings }

def release (readers : ScheduleReaders) (instanceId scheduleId : String) (now : Time)
    (commits : Bool) : SchedulerWorld :=
  match w.executions instanceId scheduleId with
  | some { schedule, attempt := some attempt, .. } =>
      let (newStatus, nextRun) := concluded readers now schedule attempt.raised
      { w with
        executions := w.setExecution instanceId scheduleId none
        table :=
          if commits then
            w.table.changeAt scheduleId (releaseLock now schedule.runCount newStatus nextRun)
              (releaseLock_id now schedule.runCount newStatus nextRun)
          else w.table }
  | _ => w

def crash (instanceId : String) : SchedulerWorld :=
  { w with executions := fun holder id => if holder = instanceId then none else w.executions holder id }

def step (readers : ScheduleReaders) (settings : SchedulerSettings) (w : SchedulerWorld) :
    SchedulerAct → SchedulerWorld
  | .poll instanceId now skipped => w.poll settings instanceId now skipped
  | .execute instanceId scheduleId runId commit => w.execute instanceId scheduleId runId commit
  | .release instanceId scheduleId now commits => w.release readers instanceId scheduleId now commits
  | .crash instanceId => w.crash instanceId

def firingsOf (scheduleId : String) : List Firing :=
  w.firings.filter fun firing => firing.run.parentScheduleId = scheduleId

end SchedulerWorld

/-! ### What one transaction does -/

namespace SchedulerWorld

variable {w : SchedulerWorld} {settings : SchedulerSettings} {readers : ScheduleReaders}
  {instanceId holder scheduleId id runId : String} {now : Time} {skipped : List String}

theorem setExecution_own (execution : Option Execution) :
    w.setExecution instanceId scheduleId execution instanceId scheduleId = execution :=
  if_pos ⟨rfl, rfl⟩

theorem setExecution_cases {execution : Option Execution} {e : Execution}
    (held : w.setExecution instanceId scheduleId execution holder id = some e) :
    (holder = instanceId ∧ id = scheduleId ∧ execution = some e) ∨
      (¬ (holder = instanceId ∧ id = scheduleId) ∧ w.executions holder id = some e) := by
  unfold setExecution at held
  split at held
  · next own => exact .inl ⟨own.1, own.2, held⟩
  · next other => exact .inr ⟨other, held⟩

theorem poll_get? (w : SchedulerWorld) (settings : SchedulerSettings) (instanceId : String)
    (now : Time) (skipped : List String) (id : String) :
    ∃ lock : WorkflowSchedule → Option String × Option Time,
      (w.poll settings instanceId now skipped).table.get? id =
        (w.table.get? id).map fun row => row.relocked (lock row) := by
  unfold poll
  split
  · exact ⟨fun row => (row.lockedBy, row.lockedUntil), Option.map_id'.symm⟩
  · refine ⟨fun row => if row.id ∈ (claimedRows settings w.table now skipped).map
      WorkflowSchedule.id then (some instanceId, some (now + settings.schedulerLockLeaseSeconds *
        1000000)) else (row.lockedBy, row.lockedUntil), ?_⟩
    rw [Keyed.get?_change]
    congr 1
    funext row
    by_cases claimed : row.id ∈ (claimedRows settings w.table now skipped).map WorkflowSchedule.id
    · simp [claimed, WorkflowSchedule.locked]
    · simp [claimed, WorkflowSchedule.relocked]

theorem due_of_claimed {row : WorkflowSchedule}
    (claimed : row ∈ claimedRows settings w.table now skipped) :
    row ∈ w.table.rows ∧ row.due now = true := by
  have member := List.mem_of_mem_take claimed
  rw [mem_sortBy, List.mem_filter, Bool.and_eq_true] at member
  exact ⟨member.1, member.2.1⟩

theorem poll_execution {e : Execution}
    (held : (w.poll settings instanceId now skipped).executions holder id = some e) :
    w.executions holder id = some e ∨
      ∃ row, w.table.get? id = some row ∧ row.due now = true ∧ e = w.begun row ∧
        (w.poll settings instanceId now skipped).claims = w.claims + 1 := by
  unfold poll at held ⊢
  split at held
  · exact .inl held
  · next free =>
    rw [if_neg free]
    dsimp only at held ⊢
    split at held
    · obtain ⟨row, first, begun⟩ := Option.map_eq_some_iff.mp held
      obtain ⟨member, due⟩ := due_of_claimed (List.mem_of_find?_eq_some first)
      have own : row.id = id := by simpa using List.find?_some first
      exact .inr ⟨row, own ▸ Keyed.get?_of_mem member, due, begun.symm, rfl⟩
    · exact .inl held

theorem poll_keeps {row : WorkflowSchedule} {e : Execution}
    (found : w.table.get? id = some row) (held : w.executions holder id = some e) :
    (w.poll settings instanceId now skipped).executions holder id = some e := by
  obtain ⟨member, rfl⟩ := Keyed.get?_eq_some.mp found
  unfold poll
  split
  · exact held
  · next idle =>
      dsimp only
      split
      · next own =>
          subst own
          exact absurd (List.any_eq_true.mpr ⟨row, member, by rw [held]; rfl⟩) idle
      · exact held

@[simp] theorem poll_firings : (w.poll settings instanceId now skipped).firings = w.firings := by
  unfold poll
  split <;> rfl

@[simp] theorem poll_edits : (w.poll settings instanceId now skipped).edits = w.edits := by
  unfold poll
  split <;> rfl

theorem execute_cases (w : SchedulerWorld) (instanceId scheduleId runId : String)
    (commit : Commit) :
    w.execute instanceId scheduleId runId commit = w ∨
      ∃ e, w.executions instanceId scheduleId = some e ∧ e.attempt = none ∧
        w.execute instanceId scheduleId runId commit =
          { w with
            executions := w.setExecution instanceId scheduleId
              (some { e with attempt := some (executeSchedule e.schedule commit) })
            firings :=
              if (executeSchedule e.schedule commit).created then w.firings ++ [e.firing runId]
              else w.firings } := by
  unfold execute
  split
  · exact .inl rfl
  · next e found =>
      split
      · exact .inl rfl
      · next fresh => exact .inr ⟨e, found, by simpa using fresh, rfl⟩

theorem release_cases (readers : ScheduleReaders) (w : SchedulerWorld)
    (instanceId scheduleId : String) (now : Time) (commits : Bool) :
    w.release readers instanceId scheduleId now commits = w ∨
      ∃ e attempt, w.executions instanceId scheduleId = some e ∧ e.attempt = some attempt ∧
        w.release readers instanceId scheduleId now commits =
          { w with
            executions := w.setExecution instanceId scheduleId none
            table :=
              if commits then
                w.table.changeAt scheduleId
                  (releaseLock now e.schedule.runCount
                    (concluded readers now e.schedule attempt.raised).1
                    (concluded readers now e.schedule attempt.raised).2)
                  (releaseLock_id now e.schedule.runCount _ _)
              else w.table } := by
  unfold release
  split
  · next found => exact .inr ⟨_, _, found, rfl, rfl⟩
  · exact .inl rfl

/-- What a transaction does to a row: its lock may change, or a claim of it is released. -/
theorem step_get? (readers : ScheduleReaders) (settings : SchedulerSettings) (w : SchedulerWorld)
    (act : SchedulerAct) (id : String) :
    (∃ lock : WorkflowSchedule → Option String × Option Time,
      (w.step readers settings act).table.get? id =
        (w.table.get? id).map fun row => row.relocked (lock row)) ∨
    ∃ instanceId now e attempt, act = .release instanceId id now true ∧
      w.executions instanceId id = some e ∧ e.attempt = some attempt ∧
      (w.step readers settings act).table.get? id =
        (w.table.get? id).map (releaseLock now e.schedule.runCount
          (concluded readers now e.schedule attempt.raised).1
          (concluded readers now e.schedule attempt.raised).2) := by
  have unchanged (same : (w.step readers settings act).table.get? id = w.table.get? id) :
      ∃ lock : WorkflowSchedule → Option String × Option Time,
        (w.step readers settings act).table.get? id =
          (w.table.get? id).map fun row => row.relocked (lock row) :=
    ⟨fun row => (row.lockedBy, row.lockedUntil), same.trans Option.map_id'.symm⟩
  cases act with
  | poll instanceId now skipped => exact .inl (w.poll_get? settings instanceId now skipped id)
  | execute instanceId scheduleId runId commit =>
      left
      apply unchanged
      change (w.execute instanceId scheduleId runId commit).table.get? id = _
      rcases w.execute_cases instanceId scheduleId runId commit with same | ⟨e, -, -, after⟩
      · rw [same]
      · rw [after]
  | release instanceId scheduleId now commits =>
      rcases w.release_cases readers instanceId scheduleId now commits with
        same | ⟨e, attempt, held, tried, after⟩
      · exact .inl (unchanged (congrArg (fun w => w.table.get? id) same))
      · have table := congrArg (fun w => w.table.get? id) after
        cases commits with
        | false => exact .inl (unchanged table)
        | true =>
    
            rw [if_pos rfl] at table
            dsimp only at table
            rw [Keyed.get?_changeAt] at table
            by_cases own : id = scheduleId
            · subst own
              rw [if_pos rfl] at table
              exact .inr ⟨instanceId, now, e, attempt, rfl, held, tried, table⟩
            · rw [if_neg own] at table
              exact .inl (unchanged table)
  | crash instanceId => exact .inl (unchanged rfl)

def Named (w : SchedulerWorld) : Prop :=
  ∀ holder id e, w.executions holder id = some e → e.schedule.id = id

theorem Named.step (named : w.Named) (readers : ScheduleReaders) (settings : SchedulerSettings)
    (act : SchedulerAct) : (w.step readers settings act).Named := by
  intro holder id e held
  cases act with
  | poll instanceId now skipped =>
      rcases poll_execution held with same | ⟨row, found, -, begun, -⟩
      · exact named holder id e same
      · rw [begun]
        exact (Keyed.get?_eq_some.mp found).2
  | execute instanceId scheduleId runId commit =>
      change (w.execute instanceId scheduleId runId commit).executions holder id = some e at held
      rcases execute_cases w instanceId scheduleId runId commit with same | ⟨old, before, -, after⟩
      · rw [same] at held
        exact named holder id e held
      · rw [after] at held
        rcases setExecution_cases held with ⟨rfl, rfl, own⟩ | ⟨-, other⟩
        · obtain rfl := Option.some.inj own
          exact named holder id old before
        · exact named holder id e other
  | release instanceId scheduleId now commits =>
      change (w.release readers instanceId scheduleId now commits).executions holder id =
        some e at held
      rcases release_cases readers w instanceId scheduleId now commits with
        same | ⟨old, attempt, -, -, after⟩
      · rw [same] at held
        exact named holder id e held
      · rw [after] at held
        rcases setExecution_cases held with ⟨-, -, none⟩ | ⟨-, other⟩
        · cases none
        · exact named holder id e other
  | crash instanceId =>
      change (if holder = instanceId then none else w.executions holder id) = some e at held
      split at held
      · cases held
      · exact named holder id e held

end SchedulerWorld

end SyndicateClaw.Services
