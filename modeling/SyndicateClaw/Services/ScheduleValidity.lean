import SyndicateClaw.Services.ScheduleEdits

/-! Schedules stay valid and move on, whatever operators and instances of the scheduler do. -/

namespace SyndicateClaw.Services

open Async Orchestrator
open Authz (Time)

/-! ### What is promised -/

def ScheduleReaders.Dependable (readers : ScheduleReaders) : Prop :=
  ∀ value, readers.isValid value = true → ∀ start, ∃ next,
    readers.getNext value start = .ok next ∧ start < next

/-- The value of a row is valid for its type at the time it was set: when the row was created, or
at one of the commits before. -/
def ValidatedBy (readers : ScheduleReaders) (table : Keyed WorkflowSchedule.id)
    (acts : List DeskAct) (n : Nat) (row : WorkflowSchedule) : Prop :=
  (∃ created, table.get? row.id = some created ∧ created.scheduleType = row.scheduleType ∧
    created.scheduleValue = row.scheduleValue) ∨
  ∃ k session now edit next, k < n ∧ acts[k]? = some (.commit session now edit) ∧
    validateScheduleValue readers now row.scheduleType row.scheduleValue = .ok next

/-- The schedules of a table are valid, edits that raise change nothing, and a schedule that was
executed is completed or has its next run ahead. -/
structure StaysValid (readers : ScheduleReaders) (settings : SchedulerSettings)
    (table : Keyed WorkflowSchedule.id) (acts : List DeskAct) : Prop where
  valid : ∀ n id row,
    ((ScheduleDesk.start table).after readers settings acts n).world.table.get? id = some row →
    ValidatedBy readers table acts n row
  unchanged : ∀ n session now edit seen error, acts[n]? = some (.commit session now edit) →
    ((ScheduleDesk.start table).after readers settings acts n).sessions session = some seen →
    edit.apply readers now seen = .error error →
    ((ScheduleDesk.start table).after readers settings acts (n + 1)).world =
      ((ScheduleDesk.start table).after readers settings acts n).world
  progress : ∀ n instanceId id now e attempt row,
    acts[n]? = some (.scheduler (.release instanceId id now true)) →
    ((ScheduleDesk.start table).after readers settings acts n).world.executions instanceId id =
      some e → e.attempt = some attempt → attempt.raised = false →
    ((ScheduleDesk.start table).after readers settings acts (n + 1)).world.table.get? id = some row →
    row.status = .completed ∨ now < row.nextRunAt

/-! ### The condition -/

/-- An update that writes only one of type and value finds the other one as it has read it. -/
def ScheduleUpdateRequest.Fits (request : ScheduleUpdateRequest) (seen current : WorkflowSchedule) :
    Prop :=
  (request.scheduleType.getD seen.scheduleType ≠ seen.scheduleType →
    request.scheduleValue.getD seen.scheduleValue = seen.scheduleValue →
    current.scheduleValue = seen.scheduleValue) ∧
  (request.scheduleValue.getD seen.scheduleValue ≠ seen.scheduleValue →
    request.scheduleType.getD seen.scheduleType = seen.scheduleType →
    current.scheduleType = seen.scheduleType)

/-- Updates that are committed fit the row they are written to, and the intervals that are added
after an execution stay before the end of `datetime`. -/
def DeskAct.Sound (readers : ScheduleReaders) (desk : ScheduleDesk) : DeskAct → Prop
  | .scheduler (.release instanceId scheduleId now true) =>
      ∀ e seconds, desk.world.executions instanceId scheduleId = some e →
        e.schedule.final = false → e.schedule.scheduleType = .interval →
        readers.parse e.schedule.scheduleValue = some seconds →
        now + seconds * 1000000 < datetimeEnd
  | .commit session now (.update request) =>
      ∀ seen new current, desk.sessions session = some seen →
        ScheduleService.update readers now request seen = .ok new →
        desk.world.table.get? seen.id = some current → request.Fits seen current
  | _ => True

/-! ### Single edits -/

section

variable {readers : ScheduleReaders} {now : Time} {seen new current : WorkflowSchedule}

theorem accepts_of_creates {row : WorkflowSchedule} (creates : readers.Creates row) :
    readers.Accepts row.scheduleType row.scheduleValue := by
  obtain ⟨utcnow, scheduleId, actor, request, created⟩ := creates
  unfold ScheduleService.create at created
  cases valid : validateScheduleValue readers utcnow request.scheduleType
      request.scheduleValue with
  | error error =>
      rw [valid] at created
      cases created
  | ok nextRunAt =>
      rw [valid] at created
      obtain rfl := Except.ok.inj created
      exact ⟨utcnow, nextRunAt, valid⟩

theorem update_ok {request : ScheduleUpdateRequest}
    (done : ScheduleService.update readers now request seen = .ok new) :
    new.scheduleType = request.scheduleType.getD seen.scheduleType ∧
      new.scheduleValue = request.scheduleValue.getD seen.scheduleValue ∧
      (request.scheduleType.isSome || request.scheduleValue.isSome →
        ∃ next, validateScheduleValue readers now new.scheduleType new.scheduleValue = .ok next) := by
  unfold ScheduleService.update at done
  dsimp only at done
  split at done
  · split at done
    · cases done
    · next nextRunAt valid =>
        obtain rfl := Except.ok.inj done
        exact ⟨rfl, rfl, fun _ => ⟨nextRunAt, valid⟩⟩
  · next neither =>
      obtain rfl := Except.ok.inj done
      exact ⟨rfl, rfl, fun given => absurd given neither⟩

theorem resume_ok (done : ScheduleService.resume readers now seen = .ok new) :
    new.scheduleType = seen.scheduleType ∧ new.scheduleValue = seen.scheduleValue := by
  unfold ScheduleService.resume at done
  split at done
  · cases done
  · split at done
    · cases done
    · obtain rfl := Except.ok.inj done
      exact ⟨rfl, rfl⟩

theorem save_fits {request : ScheduleUpdateRequest}
    (done : ScheduleService.update readers now request seen = .ok new)
    (fits : request.Fits seen current) :
    ((ScheduleService.save seen new current).scheduleType = current.scheduleType ∧
      (ScheduleService.save seen new current).scheduleValue = current.scheduleValue) ∨
    ∃ next, validateScheduleValue readers now
      (ScheduleService.save seen new current).scheduleType
      (ScheduleService.save seen new current).scheduleValue = .ok next := by
  obtain ⟨type, value, validated⟩ := update_ok done
  obtain ⟨typeOnly, valueOnly⟩ := fits
  rw [← type, ← value] at typeOnly valueOnly
  have given (moved : new.scheduleType ≠ seen.scheduleType ∨
      new.scheduleValue ≠ seen.scheduleValue) :
      ∃ next, validateScheduleValue readers now new.scheduleType new.scheduleValue = .ok next := by
    apply validated
    by_contra neither
    rw [Bool.or_eq_true, not_or, Option.not_isSome_iff_eq_none, Option.not_isSome_iff_eq_none]
      at neither
    rw [type, value, neither.1, neither.2] at moved
    simp at moved
  simp only [ScheduleService.save, Approval.changed]
  by_cases sameType : new.scheduleType = seen.scheduleType
  · by_cases sameValue : new.scheduleValue = seen.scheduleValue
    · rw [if_pos sameType, if_pos sameValue]
      exact .inl ⟨rfl, rfl⟩
    · rw [if_pos sameType, if_neg sameValue, valueOnly sameValue sameType, ← sameType]
      exact .inr (given (.inr sameValue))
  · by_cases sameValue : new.scheduleValue = seen.scheduleValue
    · rw [if_neg sameType, if_pos sameValue, typeOnly sameType sameValue, ← sameValue]
      exact .inr (given (.inl sameType))
    · rw [if_neg sameType, if_neg sameValue]
      exact .inr (given (.inl sameType))

end

/-! ### Single acts -/

section

variable {readers : ScheduleReaders} {settings : SchedulerSettings} {desk : ScheduleDesk}

theorem row_step {act : DeskAct} (sound : act.Sound readers desk) {id : String}
    {row : WorkflowSchedule}
    (found : (desk.step readers settings act).world.table.get? id = some row) :
    ∃ before, desk.world.table.get? id = some before ∧
      ((row.scheduleType = before.scheduleType ∧ row.scheduleValue = before.scheduleValue) ∨
        ∃ session now edit next, act = .commit session now edit ∧
          validateScheduleValue readers now row.scheduleType row.scheduleValue = .ok next) := by
  cases act with
  | scheduler act =>
      change (desk.world.step readers settings act).table.get? id = some row at found
      rcases desk.world.step_get? readers settings act id with
        ⟨lock, after⟩ | ⟨instanceId, now, e, attempt, -, -, -, after⟩
      · obtain ⟨before, held, rfl⟩ := Option.map_eq_some_iff.mp (after ▸ found)
        exact ⟨before, held, .inl ⟨rfl, rfl⟩⟩
      · obtain ⟨before, held, rfl⟩ := Option.map_eq_some_iff.mp (after ▸ found)
        exact ⟨before, held, .inl ⟨rfl, rfl⟩⟩
  | read session scheduleId => exact ⟨row, found, .inl ⟨rfl, rfl⟩⟩
  | commit session now edit =>
      change (desk.commit readers session now edit).world.table.get? id = some row at found
      rcases commit_cases readers desk session now edit with same | ⟨seen, new, read, done, after⟩
      · rw [same] at found
        exact ⟨row, found, .inl ⟨rfl, rfl⟩⟩
      · rw [after, save_row] at found
        split at found
        · next own =>
            obtain ⟨before, held, rfl⟩ := Option.map_eq_some_iff.mp found
            refine ⟨before, held, ?_⟩
            cases edit with
            | update request =>
                rcases save_fits done (sound seen new before read done (own ▸ held)) with
                  same | ⟨next, valid⟩
                · exact .inl same
                · exact .inr ⟨session, now, .update request, next, rfl, valid⟩
            | resume =>
                obtain ⟨type, value⟩ := resume_ok done
                exact .inl ⟨if_pos type, if_pos value⟩
        · exact ⟨row, found, .inl ⟨rfl, rfl⟩⟩
  | delete scheduleId =>
      change (desk.world.table.changeAt scheduleId ScheduleService.delete
        ScheduleService.delete_id).get? id = some row at found
      rw [Keyed.get?_changeAt] at found
      split at found
      · obtain ⟨before, held, rfl⟩ := Option.map_eq_some_iff.mp found
        exact ⟨before, held, .inl ⟨rfl, rfl⟩⟩
      · exact ⟨row, found, .inl ⟨rfl, rfl⟩⟩

/-- What an execution has claimed was in its row, or another execution has it from before. -/
theorem claimed_step {act : DeskAct} {holder id : String} {e : Execution}
    (held : (desk.step readers settings act).world.executions holder id = some e) :
    (∃ before, desk.world.executions holder id = some before ∧ e.schedule = before.schedule) ∨
      ∃ row, desk.world.table.get? id = some row ∧ e.schedule = row.returned := by
  rcases world_step readers settings desk act with ⟨move, -, after⟩ | ⟨executions, -, -⟩
  · rw [after] at held
    cases move with
    | poll instanceId now skipped =>
        rcases SchedulerWorld.poll_execution held with same | ⟨row, found, -, rfl, -⟩
        · exact .inl ⟨e, same, rfl⟩
        · exact .inr ⟨row, found, rfl⟩
    | execute instanceId scheduleId runId commit =>
        change (desk.world.execute instanceId scheduleId runId commit).executions holder id =
          some e at held
        rcases desk.world.execute_cases instanceId scheduleId runId commit with
          same | ⟨before, own, -, after⟩
        · rw [same] at held
          exact .inl ⟨e, held, rfl⟩
        · rw [after] at held
          rcases SchedulerWorld.setExecution_cases held with ⟨rfl, rfl, new⟩ | ⟨-, other⟩
          · obtain rfl := Option.some.inj new
            exact .inl ⟨before, own, rfl⟩
          · exact .inl ⟨e, other, rfl⟩
    | release instanceId scheduleId now commits =>
        change (desk.world.release readers instanceId scheduleId now commits).executions holder id =
          some e at held
        rcases desk.world.release_cases readers instanceId scheduleId now commits with
          same | ⟨_, _, _, _, released⟩
        · rw [same] at held
          exact .inl ⟨e, held, rfl⟩
        · rw [released] at held
          rcases SchedulerWorld.setExecution_cases held with ⟨-, -, none⟩ | ⟨-, other⟩
          · cases none
          · exact .inl ⟨e, other, rfl⟩
    | crash instanceId =>
        change (if holder = instanceId then none else desk.world.executions holder id) =
          some e at held
        split at held
        · cases held
        · exact .inl ⟨e, held, rfl⟩
  · rw [executions] at held
    exact .inl ⟨e, held, rfl⟩

theorem release_row {instanceId id : String} {now : Time} {e : Execution} {attempt : Attempt}
    {row : WorkflowSchedule} (held : desk.world.executions instanceId id = some e)
    (tried : e.attempt = some attempt)
    (found : (desk.step readers settings
      (.scheduler (.release instanceId id now true))).world.table.get? id = some row) :
    ∃ before, row = releaseLock now e.schedule.runCount
      (concluded readers now e.schedule attempt.raised).1
      (concluded readers now e.schedule attempt.raised).2 before := by
  obtain ⟨schedule, dueAt, claim, edits, known⟩ := e
  obtain rfl : known = some attempt := tried
  change (desk.world.release readers instanceId id now true).table.get? id = some row at found
  unfold SchedulerWorld.release at found
  rw [held] at found
  dsimp only at found
  rw [if_pos rfl, Keyed.get?_changeAt, if_pos rfl] at found
  obtain ⟨before, -, rfl⟩ := Option.map_eq_some_iff.mp found
  exact ⟨before, rfl⟩

theorem computeNextRun_ok (dependable : readers.Dependable) {scheduleType : ScheduleType}
    {value : String} (accepted : readers.Accepts scheduleType value)
    (recurs : scheduleType ≠ .once) {now : Time}
    (room : scheduleType = .interval → ∀ seconds, readers.parse value = some seconds →
      now + seconds * 1000000 < datetimeEnd) :
    ∃ next, computeNextRun readers now scheduleType value = .ok next ∧ now < next := by
  obtain ⟨start, first, valid⟩ := accepted
  cases scheduleType with
  | cron =>
      have expression : readers.isValid value = true := by
        by_contra invalid
        simp [validateScheduleValue, invalid] at valid
      obtain ⟨next, given, later⟩ := dependable value expression now
      exact ⟨next, by simp [computeNextRun, getNextRun, given, Except.mapError], later⟩
  | interval =>
      cases read : readers.parse value with
      | none => simp [validateScheduleValue, read] at valid
      | some seconds =>
          have long : ¬ seconds < 60 := by
            intro short
            simp [validateScheduleValue, read, short] at valid
          refine ⟨now + seconds * 1000000, ?_, ?_⟩
          · simp [computeNextRun, read, fromtimestamp, room rfl seconds read]
          · unfold Time at *
            omega
  | once => exact absurd rfl recurs

end

/-! ### Whole runs -/

section

variable {readers : ScheduleReaders} {settings : SchedulerSettings}
  {table : Keyed WorkflowSchedule.id} {acts : List DeskAct}

theorem validated_after
    (sound : ∀ n (act : DeskAct), acts[n]? = some act →
      act.Sound readers ((ScheduleDesk.start table).after readers settings acts n))
    (n : Nat) {id : String} {row : WorkflowSchedule}
    (found : ((ScheduleDesk.start table).after readers settings acts n).world.table.get? id =
      some row) : ValidatedBy readers table acts n row := by
  induction n generalizing id row with
  | zero =>
      change table.get? id = some row at found
      exact .inl ⟨row, (Keyed.get?_eq_some.mp found).2 ▸ found, rfl, rfl⟩
  | succ n ih =>
      cases present : acts[n]? with
      | none =>
          rw [ScheduleDesk.after, stateAfter_succ_of_none _ _ _ present] at found
          rcases ih found with first | ⟨k, session, now, edit, next, before, set⟩
          · exact .inl first
          · exact .inr ⟨k, session, now, edit, next, by omega, set⟩
      | some act =>
          rw [ScheduleDesk.after_succ _ present] at found
          obtain ⟨before, held, ⟨type, value⟩ | ⟨session, now, edit, next, rfl, valid⟩⟩ :=
            row_step (sound n act present) found
          · have own : before.id = row.id :=
              (Keyed.get?_eq_some.mp held).2.trans (Keyed.get?_eq_some.mp found).2.symm
            have earlier := ih held
            unfold ValidatedBy at earlier ⊢
            rw [own, ← type, ← value] at earlier
            rcases earlier with first | ⟨k, session, now, edit, next, before, set⟩
            · exact .inl first
            · exact .inr ⟨k, session, now, edit, next, by omega, set⟩
          · exact .inr ⟨n, session, now, edit, next, by omega, present, valid⟩

theorem ValidatedBy.accepted (created : ∀ row ∈ table.rows, readers.Creates row) {n : Nat}
    {row : WorkflowSchedule} (valid : ValidatedBy readers table acts n row) :
    readers.Accepts row.scheduleType row.scheduleValue := by
  rcases valid with ⟨first, found, type, value⟩ | ⟨-, -, now, -, next, -, -, valid⟩
  · rw [← type, ← value]
    exact accepts_of_creates (created first (Keyed.get?_eq_some.mp found).1)
  · exact ⟨now, next, valid⟩

theorem claims_accepted (created : ∀ row ∈ table.rows, readers.Creates row)
    (sound : ∀ n (act : DeskAct), acts[n]? = some act →
      act.Sound readers ((ScheduleDesk.start table).after readers settings acts n)) (n : Nat) :
    ∀ holder id e,
      ((ScheduleDesk.start table).after readers settings acts n).world.executions holder id =
        some e → readers.Accepts e.schedule.scheduleType e.schedule.scheduleValue := by
  induction n with
  | zero => exact fun _ _ _ held => nomatch held
  | succ n ih =>
      intro holder id e held
      cases present : acts[n]? with
      | none =>
          rw [ScheduleDesk.after, stateAfter_succ_of_none _ _ _ present] at held
          exact ih holder id e held
      | some act =>
          rw [ScheduleDesk.after_succ _ present] at held
          rcases claimed_step held with ⟨before, own, same⟩ | ⟨row, found, same⟩
          · rw [same]
            exact ih holder id before own
          · rw [same]
            exact (validated_after sound n found).accepted created

end

theorem minute_dependable : minuteReaders.Dependable := fun _ valid => nomatch valid

def hourReaders : ScheduleReaders where
  isValid value := value = "0 * * * *"
  getNext _ start := .ok (start + 3600000000)
  parse value :=
    if value = "1h" then some 3600 else if value = "30m" then some 1800
    else if value = "1504630d" then some 130000032000 else none
  fromisoformat _ := none

def intervalTable (scheduleValue : String) (nextRunAt : Time) : Keyed WorkflowSchedule.id :=
  ⟨[{ singleSchedule with scheduleValue, nextRunAt, maxRuns := none }], by simp⟩

theorem no_runs_positive (runs : ℤ) (given : none = some runs) : 1 ≤ runs := by
  cases given

def valueRequest (scheduleType : Option ScheduleType) (scheduleValue : String) :
    ScheduleUpdateRequest where
  name := none
  description := none
  scheduleType
  scheduleValue := some scheduleValue
  inputState := none
  maxRuns := none
  status := none
  positive := no_runs_positive
  settable := nofun

def staleEdits : List DeskAct :=
  [.read "x" "single", .read "y" "single",
    .commit "x" 1 (.update (valueRequest (some .cron) "0 * * * *")),
    .commit "y" 2 (.update (valueRequest none "30m"))]

/-- The instant after an execution plus the interval is past the end of `datetime`. -/
def endlessInterval : List DeskAct :=
  [.scheduler (.poll "a" 130000032000000000 []),
    .scheduler (.execute "a" "single" "r1" .acknowledged),
    .scheduler (.release "a" "single" 130000032000000001 true)]

end SyndicateClaw.Services
