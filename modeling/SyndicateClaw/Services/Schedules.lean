import SyndicateClaw.Approval.Races
import SyndicateClaw.Authz.Evaluator
import SyndicateClaw.Data.Keyed

/-! Schedules of workflow runs, and `ScheduleService`. -/

namespace SyndicateClaw.Services

open Orchestrator
open Approval (changed)
open Authz (Time)

inductive ScheduleType where
  | cron | interval | once
  deriving DecidableEq

inductive ScheduleStatus where
  | active | paused | completed | deleted
  deriving DecidableEq

structure WorkflowSchedule where
  id : String
  workflowId : String
  workflowVersion : Option Int
  name : String
  description : Option String
  scheduleType : ScheduleType
  scheduleValue : String
  inputState : State
  actor : String
  namespaceName : String
  status : ScheduleStatus
  nextRunAt : Time
  lastRunAt : Option Time
  maxRuns : Option Int
  runCount : Int
  lockedBy : Option String
  lockedUntil : Option Time

inductive ScheduleError where
  | notFound (message : String)
  | conflict (message : String)
  | invalid (message : String)
  /-- What is raised below the service. -/
  | other (message : String)
  deriving DecidableEq

/-! ### Times -/

structure ScheduleReaders where
  /-- `croniter.is_valid` -/
  isValid : String → Bool
  /-- `croniter(value, start).get_next(datetime)` -/
  getNext : String → Time → Except String Time
  /-- `pytimeparse.parse`, with an exception read as `None` -/
  parse : String → Option Int
  /-- `datetime.fromisoformat`, with a naive datetime read as UTC -/
  fromisoformat : String → Option Time

/-- The first instant after `datetime.max`. -/
def datetimeEnd : Time := 253402300800000000

def fromtimestamp (t : Time) : Except ScheduleError Time :=
  if t < datetimeEnd then .ok t else .error (.other "year is out of range")

section

variable (readers : ScheduleReaders) (utcnow : Time)

def getNextRun (value : String) : Except ScheduleError Time :=
  (readers.getNext value utcnow).mapError .other

def parseIso (value : String) : Option Time :=
  readers.fromisoformat (value.replace "Z" "+00:00")

def validateScheduleValue (scheduleType : ScheduleType) (value : String) :
    Except ScheduleError Time :=
  match scheduleType with
  | .cron =>
      if readers.isValid value then getNextRun readers utcnow value
      else .error (.invalid ("Invalid CRON expression: '" ++ value ++ "'. " ++
        "Use standard 5-field CRON syntax (minute hour day month weekday)."))
  | .interval =>
      match readers.parse value with
      | none => .error (.invalid ("Invalid INTERVAL value: '" ++ value ++ "'. " ++
          "Use a human-readable duration such as '1h', '30m', '7d', '2 weeks'."))
      | some parsedSeconds =>
          if parsedSeconds < 60 then
            .error (.invalid ("INTERVAL must be at least 60 seconds, got " ++
              toString parsedSeconds ++ "s for '" ++ value ++ "'."))
          else fromtimestamp (utcnow + parsedSeconds * 1000000)
  | .once =>
      match parseIso readers value with
      | none => .error (.invalid ("Invalid ONCE datetime: '" ++ value ++ "'. " ++
          "Use ISO 8601 format (e.g. 2024-12-31T23:59:59Z)."))
      | some parsed =>
          if parsed ≤ utcnow then
            .error (.invalid ("ONCE datetime must be in the future, got '" ++ value ++ "'."))
          else .ok parsed

def computeNextRun (scheduleType : ScheduleType) (scheduleValue : String) :
    Except ScheduleError Time :=
  match scheduleType with
  | .cron => getNextRun readers utcnow scheduleValue
  | .interval =>
      match readers.parse scheduleValue with
      | none => .error (.invalid ("Could not parse INTERVAL: " ++ scheduleValue))
      | some seconds => fromtimestamp (utcnow + seconds * 1000000)
  | .once =>
      match parseIso readers scheduleValue with
      | none => .error (.other ("Invalid isoformat string: '" ++ scheduleValue ++ "'"))
      | some parsed => .ok parsed

/-- `get_next` gives a later instant. -/
def ScheduleReaders.Ahead : Prop :=
  ∀ value start next, readers.getNext value start = .ok next → start < next

variable {readers utcnow}

theorem le_of_fromtimestamp {t next : Time} (done : fromtimestamp t = .ok next) : next = t := by
  unfold fromtimestamp at done
  split at done
  · exact (Except.ok.inj done).symm
  · cases done

/-- The values that `validate_schedule_value` lets through, now or then. -/
def ScheduleReaders.Accepts (readers : ScheduleReaders) (scheduleType : ScheduleType)
    (value : String) : Prop :=
  ∃ then_ next, validateScheduleValue readers then_ scheduleType value = .ok next

theorem computeNextRun_later (ahead : readers.Ahead) {scheduleType : ScheduleType}
    {value : String} (accepted : readers.Accepts scheduleType value)
    (recurs : scheduleType ≠ .once) {next : Time}
    (done : computeNextRun readers utcnow scheduleType value = .ok next) : utcnow < next := by
  cases scheduleType with
  | cron =>
      change (readers.getNext value utcnow).mapError ScheduleError.other = .ok next at done
      cases given : readers.getNext value utcnow with
      | error message =>
          rw [given] at done
          cases done
      | ok later =>
          rw [given] at done
          obtain rfl := Except.ok.inj done
          exact ahead value utcnow later given
  | interval =>
      obtain ⟨start, first, valid⟩ := accepted
      simp only [validateScheduleValue] at valid
      simp only [computeNextRun] at done
      cases read : readers.parse value with
      | none =>
          rw [read] at done
          cases done
      | some seconds =>
          rw [read] at done valid
          have long : ¬ seconds < 60 := by
            intro short
            simp [short] at valid
          have sum := le_of_fromtimestamp done
          unfold Time at *
          omega
  | once => exact absurd rfl recurs

end

/-! ### The service -/

structure ScheduleCreateRequest where
  workflowId : String
  workflowVersion : Option Int
  name : String
  description : Option String
  scheduleType : ScheduleType
  scheduleValue : String
  inputState : State
  maxRuns : Option Int
  namespaceName : String
  positive : ∀ runs, maxRuns = some runs → 1 ≤ runs

structure ScheduleUpdateRequest where
  name : Option String
  description : Option String
  scheduleType : Option ScheduleType
  scheduleValue : Option String
  inputState : Option State
  maxRuns : Option Int
  status : Option ScheduleStatus
  positive : ∀ runs, maxRuns = some runs → 1 ≤ runs
  settable : ∀ wanted, status = some wanted → wanted = .active ∨ wanted = .paused

namespace ScheduleService

variable (readers : ScheduleReaders) (utcnow : Time)

/-- `create`: the row that is committed. -/
def create (scheduleId actor : String) (commits : Bool) (request : ScheduleCreateRequest) :
    Except ScheduleError WorkflowSchedule :=
  match validateScheduleValue readers utcnow request.scheduleType request.scheduleValue with
  | .error error => .error error
  | .ok nextRunAt =>
      if commits then
        .ok
          { id := scheduleId
            workflowId := request.workflowId
            workflowVersion := request.workflowVersion
            name := request.name
            description := request.description
            scheduleType := request.scheduleType
            scheduleValue := request.scheduleValue
            inputState := request.inputState
            actor
            namespaceName := request.namespaceName
            status := .active
            nextRunAt
            lastRunAt := none
            maxRuns := request.maxRuns
            runCount := 0
            lockedBy := none
            lockedUntil := none }
      else .error (.conflict ("A schedule named '" ++ request.name ++
        "' already exists in namespace '" ++ request.namespaceName ++ "'."))

/-- `update`: the row that it has read, with what it sets. -/
def update (request : ScheduleUpdateRequest) (row : WorkflowSchedule) :
    Except ScheduleError WorkflowSchedule :=
  let row := { row with
    name := request.name.getD row.name
    description := request.description <|> row.description
    scheduleType := request.scheduleType.getD row.scheduleType
    scheduleValue := request.scheduleValue.getD row.scheduleValue
    inputState := request.inputState.getD row.inputState
    maxRuns := request.maxRuns <|> row.maxRuns
    status := request.status.getD row.status }
  if request.scheduleType.isSome || request.scheduleValue.isSome then
    match validateScheduleValue readers utcnow row.scheduleType row.scheduleValue with
    | .error error => .error error
    | .ok nextRunAt => .ok { row with nextRunAt }
  else .ok row

def pauseRequest : ScheduleUpdateRequest where
  name := none
  description := none
  scheduleType := none
  scheduleValue := none
  inputState := none
  maxRuns := none
  status := some .paused
  positive := nofun
  settable := by simp

/-- `resume`: the row that it has read, with what it sets. -/
def resume (row : WorkflowSchedule) : Except ScheduleError WorkflowSchedule :=
  if row.scheduleType = .once then .error (.invalid "Cannot resume an ONCE schedule.")
  else match computeNextRun readers utcnow row.scheduleType row.scheduleValue with
    | .error error => .error error
    | .ok nextRunAt => .ok { row with status := .active, nextRunAt }

/-- `delete` is one `UPDATE`. -/
def delete (row : WorkflowSchedule) : WorkflowSchedule := { row with status := .deleted }

/-- The flush of a row that was read before: the columns that have changed since are set. -/
def save (seen new current : WorkflowSchedule) : WorkflowSchedule :=
  { current with
    name := changed seen.name new.name current.name
    description := changed seen.description new.description current.description
    scheduleType := changed seen.scheduleType new.scheduleType current.scheduleType
    scheduleValue := changed seen.scheduleValue new.scheduleValue current.scheduleValue
    inputState := changed seen.inputState new.inputState current.inputState
    maxRuns := changed seen.maxRuns new.maxRuns current.maxRuns
    status := changed seen.status new.status current.status
    nextRunAt := changed seen.nextRunAt new.nextRunAt current.nextRunAt }

theorem delete_id (row : WorkflowSchedule) : (delete row).id = row.id := rfl

theorem save_id (seen new current : WorkflowSchedule) :
    (save seen new current).id = current.id := rfl

end ScheduleService

end SyndicateClaw.Services
