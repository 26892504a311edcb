import SyndicateClaw.Services.Scheduler

/-! How often a schedule fires, over every interleaving of the instances' transactions. -/

namespace SyndicateClaw.Services

open Async Orchestrator
open Authz (Time)

def Execution.created (e : Execution) : Bool := e.attempt.any Attempt.created

/-- The row as `create` commits it. -/
def ScheduleReaders.Creates (readers : ScheduleReaders) (row : WorkflowSchedule) : Prop :=
  ∃ utcnow scheduleId actor request,
    ScheduleService.create readers utcnow scheduleId actor true request = .ok row

namespace SchedulerWorld

variable (w : SchedulerWorld)

def NoneCreated (id : String) : Prop :=
  ∀ holder e, w.executions holder id = some e → e.created = false

/-- The schedule fires as counted, and never too often. -/
structure AsCounted (id : String) (row : WorkflowSchedule) : Prop where
  bounded : ∀ runs, row.maxRuns = some runs → ((w.firingsOf id).length : Int) ≤ runs
  counted : (∀ holder, w.executions holder id = none) → row.runCount = (w.firingsOf id).length
  once : ((w.firingsOf id).map Firing.dueAt).Nodup

/-- A claim that is still current: the row is as the claim has read it, and nobody else who
holds a claim has created a run. -/
structure Current (id : String) (e : Execution) (row : WorkflowSchedule) : Prop where
  active : row.status = .active
  due : row.nextRunAt = e.dueAt
  count : row.runCount = e.schedule.runCount
  alone : w.NoneCreated id

end SchedulerWorld

/-- A run is created on a claim that is still current; a claim is released if its run was created
without an error, the next run can be computed and the clock is not behind the due time; no
instance dies before it releases what it has created. -/
def SchedulerAct.Timely (readers : ScheduleReaders) (w : SchedulerWorld) : SchedulerAct → Prop
  | .poll _ _ _ => True
  | .execute instanceId scheduleId _ commit =>
      ∀ e row, w.executions instanceId scheduleId = some e → e.attempt = none →
        w.table.get? scheduleId = some row → e.schedule.maxRunsReached = false →
        commit ≠ .rolledBack → w.Current scheduleId e row
  | .release instanceId scheduleId now commits =>
      ∀ e attempt, w.executions instanceId scheduleId = some e → e.attempt = some attempt →
        if commits then
          attempt = { created := true, raised := false } ∧ e.dueAt ≤ now ∧
            (e.schedule.final = false →
              ∃ next, computeNextRun readers now e.schedule.scheduleType
                e.schedule.scheduleValue = .ok next)
        else attempt.created = false
  | .crash instanceId => ∀ id e, w.executions instanceId id = some e → e.created = false

/-- What holds between a schedule, its executions and its runs, as long as all is timely. -/
structure Tallied (readers : ScheduleReaders) (w : SchedulerWorld) (id : String)
    (row : WorkflowSchedule) : Prop where
  accepted : readers.Accepts row.scheduleType row.scheduleValue
  returned : ∀ holder e, w.executions holder id = some e →
    e.schedule = { row.returned with runCount := e.schedule.runCount }
  single : ∀ holder other e e', w.executions holder id = some e → e.created = true →
    w.executions other id = some e' → e'.created = true → holder = other
  pending : ∀ holder e, w.executions holder id = some e → e.created = true →
    row.status = .active ∧ row.nextRunAt = e.dueAt ∧ row.runCount = e.schedule.runCount ∧
      row.runCount + 1 = (w.firingsOf id).length
  settled : w.NoneCreated id → row.runCount = (w.firingsOf id).length
  past : ∀ firing ∈ w.firingsOf id, firing.dueAt ≤ row.nextRunAt
  ahead : row.status = .active → w.NoneCreated id →
    ∀ firing ∈ w.firingsOf id, firing.dueAt < row.nextRunAt
  room : row.status = .active → ∀ runs, row.maxRuns = some runs → row.runCount < runs
  bounded : ∀ runs, row.maxRuns = some runs → ((w.firingsOf id).length : Int) ≤ runs
  once : ((w.firingsOf id).map Firing.dueAt).Nodup

section

variable {readers : ScheduleReaders} {settings : SchedulerSettings} {w : SchedulerWorld}
  {id : String} {row : WorkflowSchedule}

theorem Tallied.asCounted (tallied : Tallied readers w id row) : w.AsCounted id row where
  bounded := tallied.bounded
  counted idle := tallied.settled fun holder e held => by
    rw [idle holder] at held
    cases held
  once := tallied.once

theorem tallied_start {table : Keyed WorkflowSchedule.id} (creates : readers.Creates row) :
    Tallied readers (.start table) id row := by
  obtain ⟨utcnow, scheduleId, actor, request, created⟩ := creates
  unfold ScheduleService.create at created
  cases valid : validateScheduleValue readers utcnow request.scheduleType
      request.scheduleValue with
  | error error =>
      rw [valid] at created
      cases created
  | ok nextRunAt =>
      rw [valid] at created
      obtain rfl := Except.ok.inj created
      have empty : (SchedulerWorld.start table).firingsOf id = [] := rfl
      exact
        { accepted := ⟨utcnow, nextRunAt, valid⟩
          returned := fun _ _ held => nomatch held
          single := fun _ _ _ _ held => nomatch held
          pending := fun _ _ held => nomatch held
          settled := fun _ => by rw [empty]; rfl
          past := by simp [empty]
          ahead := by simp [empty]
          room := fun _ runs limit => by
            have positive := request.positive runs limit
            show (0 : Int) < runs
            omega
          bounded := fun runs limit => by
            have positive := request.positive runs limit
            rw [empty, List.length_nil]
            omega
          once := by simp [empty] }

theorem Tallied.of_frame {w' : SchedulerWorld} (firings : w'.firingsOf id = w.firingsOf id)
    (executions : ∀ holder e, w'.executions holder id = some e →
      e.schedule = { row.returned with runCount := e.schedule.runCount } ∧
        (e.created = true → w.executions holder id = some e))
    (idle : w'.NoneCreated id → w.NoneCreated id) (tallied : Tallied readers w id row) :
    Tallied readers w' id row where
  accepted := tallied.accepted
  returned holder e held := (executions holder e held).1
  single holder other e e' held created held' created' :=
    tallied.single holder other e e' ((executions holder e held).2 created) created
      ((executions other e' held').2 created') created'
  pending holder e held created := by
    rw [firings]
    exact tallied.pending holder e ((executions holder e held).2 created) created
  settled none := by
    rw [firings]
    exact tallied.settled (idle none)
  past := by
    rw [firings]
    exact tallied.past
  ahead active none := by
    rw [firings]
    exact tallied.ahead active (idle none)
  room := tallied.room
  bounded := by
    rw [firings]
    exact tallied.bounded
  once := by
    rw [firings]
    exact tallied.once

theorem Tallied.relocked (tallied : Tallied readers w id row)
    (lock : Option String × Option Time) : Tallied readers w id (row.relocked lock) where
  accepted := tallied.accepted
  returned := tallied.returned
  single := tallied.single
  pending := tallied.pending
  settled := tallied.settled
  past := tallied.past
  ahead := tallied.ahead
  room := tallied.room
  bounded := tallied.bounded
  once := tallied.once

theorem tallied_poll {instanceId : String} {now : Time} {skipped : List String}
    (found : w.table.get? id = some row) (tallied : Tallied readers w id row) :
    Tallied readers (w.poll settings instanceId now skipped) id row := by
  apply tallied.of_frame
  · unfold SchedulerWorld.firingsOf
    rw [SchedulerWorld.poll_firings]
  · intro holder e held
    rcases SchedulerWorld.poll_execution held with same | ⟨other, own, -, begun, -⟩
    · exact ⟨tallied.returned holder e same, fun _ => same⟩
    · obtain rfl := Option.some.inj (found.symm.trans own)
      rw [begun]
      exact ⟨rfl, fun created => nomatch created⟩
  · intro none holder e held
    exact none holder e (SchedulerWorld.poll_keeps found held)

theorem tallied_attempt {instanceId scheduleId : String} {e : Execution} {attempt : Attempt}
    {firings : List Firing} (held : w.executions instanceId scheduleId = some e)
    (fresh : e.attempt = none) (quiet : scheduleId = id → attempt.created = false)
    (kept : firings.filter (fun firing => firing.run.parentScheduleId = id) = w.firingsOf id)
    (tallied : Tallied readers w id row) :
    Tallied readers
      { w with
        executions := w.setExecution instanceId scheduleId (some { e with attempt := some attempt })
        firings } id row := by
  apply tallied.of_frame
  · exact kept
  · intro holder e' now
    rcases SchedulerWorld.setExecution_cases now with ⟨rfl, rfl, same⟩ | ⟨-, same⟩
    · obtain rfl := Option.some.inj same
      refine ⟨tallied.returned holder e held, fun created => ?_⟩
      exact absurd (quiet rfl) (by simpa [Execution.created] using created)
    · exact ⟨tallied.returned holder e' same, fun _ => same⟩
  · intro none holder e' same
    by_cases own : holder = instanceId ∧ id = scheduleId
    · obtain ⟨rfl, rfl⟩ := own
      obtain rfl := Option.some.inj (held.symm.trans same)
      simp [Execution.created, fresh]
    · exact none holder e' ((if_neg own).trans same)

theorem tallied_drop {executions : String → String → Option Execution}
    {table : Keyed WorkflowSchedule.id}
    (dropped : ∀ holder e, w.executions holder id = some e →
      executions holder id = some e ∨ e.created = false)
    (subset : ∀ holder e, executions holder id = some e → w.executions holder id = some e)
    (tallied : Tallied readers w id row) :
    Tallied readers { w with executions, table } id row := by
  apply tallied.of_frame
  · rfl
  · intro holder e held
    exact ⟨tallied.returned holder e (subset holder e held), fun _ => subset holder e held⟩
  · intro none holder e held
    rcases dropped holder e held with kept | quiet
    · exact none holder e kept
    · exact quiet

theorem tallied_fire {instanceId runId : String} {e : Execution} {attempt : Attempt}
    (held : w.executions instanceId id = some e) (own : row.id = id)
    (created : attempt.created = true) (current : w.Current id e row)
    (tallied : Tallied readers w id row) :
    Tallied readers
      { w with
        executions := w.setExecution instanceId id (some { e with attempt := some attempt })
        firings := w.firings ++ [e.firing runId] } id row := by
  have returned := tallied.returned instanceId e held
  have parent : e.schedule.id = id := by
    rw [returned]
    exact own
  have count := tallied.settled current.alone
  have ahead := tallied.ahead current.active current.alone
  have grown : (w.firings ++ [e.firing runId]).filter
        (fun firing => firing.run.parentScheduleId = id) =
      w.firingsOf id ++ [e.firing runId] := by
    rw [List.filter_append]
    simp [Execution.firing, createRun, parent, SchedulerWorld.firingsOf]
  have mine {holder : String} {e' : Execution} (created : e'.created = true)
      (now : w.setExecution instanceId id (some { e with attempt := some attempt }) holder id =
        some e') : holder = instanceId ∧ e' = { e with attempt := some attempt } := by
    rcases SchedulerWorld.setExecution_cases now with ⟨rfl, -, same⟩ | ⟨-, same⟩
    · exact ⟨rfl, (Option.some.inj same).symm⟩
    · rw [current.alone holder e' same] at created
      cases created
  have someone : ¬ SchedulerWorld.NoneCreated
      { w with
        executions := w.setExecution instanceId id (some { e with attempt := some attempt })
        firings := w.firings ++ [e.firing runId] } id := by
    intro none
    have quiet := none instanceId _ (SchedulerWorld.setExecution_own _)
    simp [Execution.created, created] at quiet
  exact
    { accepted := tallied.accepted
      returned := fun holder e' now => by
        rcases SchedulerWorld.setExecution_cases now with ⟨rfl, -, same⟩ | ⟨-, same⟩
        · obtain rfl := Option.some.inj same
          exact returned
        · exact tallied.returned holder e' same
      single := fun holder other e₁ e₂ now₁ created₁ now₂ created₂ =>
        (mine created₁ now₁).1.trans (mine created₂ now₂).1.symm
      pending := fun holder e' now created => by
        obtain ⟨-, rfl⟩ := mine created now
        rw [SchedulerWorld.firingsOf, grown, List.length_append]
        refine ⟨current.active, current.due, current.count, ?_⟩
        rw [count]
        rfl
      settled := fun none => absurd none someone
      past := by
        rw [SchedulerWorld.firingsOf, grown]
        intro firing member
        rcases List.mem_append.mp member with earlier | last
        · exact (ahead firing earlier).le
        · rw [List.mem_singleton.mp last]
          exact current.due.ge
      ahead := fun _ none => absurd none someone
      room := tallied.room
      bounded := fun runs limit => by
        have room := tallied.room current.active runs limit
        rw [SchedulerWorld.firingsOf, grown, List.length_append, List.length_singleton]
        omega
      once := by
        rw [SchedulerWorld.firingsOf, grown, List.map_append, List.nodup_append]
        refine ⟨tallied.once, List.nodup_singleton _, ?_⟩
        intro due member last only same
        obtain ⟨firing, earlier, rfl⟩ := List.mem_map.mp member
        have before := ahead firing earlier
        rw [same, List.mem_singleton.mp only, current.due] at before
        exact lt_irrefl _ before }

theorem SchedulerWorld.released_execution {instanceId holder : String} {e : Execution}
    (now : w.setExecution instanceId id none holder id = some e) :
    w.executions holder id = some e ∧ holder ≠ instanceId := by
  rcases SchedulerWorld.setExecution_cases now with ⟨-, -, none⟩ | ⟨away, before⟩
  · cases none
  · exact ⟨before, fun same => away ⟨same, rfl⟩⟩

theorem Tallied.noneCreated {instanceId : String} {e : Execution}
    {table : Keyed WorkflowSchedule.id} (held : w.executions instanceId id = some e)
    (mine : e.created = true) (tallied : Tallied readers w id row) :
    SchedulerWorld.NoneCreated
      { w with executions := w.setExecution instanceId id none, table } id := by
  intro holder other now
  obtain ⟨before, away⟩ := SchedulerWorld.released_execution now
  by_contra also
  exact away (tallied.single holder instanceId other e before (by simpa using also) held mine)

theorem Tallied.concluded_cases {instanceId : String} {now : Time} {e : Execution}
    (ahead : readers.Ahead) (held : w.executions instanceId id = some e)
    (same : row.nextRunAt = e.dueAt) (due : e.dueAt ≤ now)
    (computed : e.schedule.final = false →
      ∃ next, computeNextRun readers now e.schedule.scheduleType e.schedule.scheduleValue = .ok next)
    (tallied : Tallied readers w id row) :
    (e.schedule.final = true ∧ concluded readers now e.schedule false = (some .completed, none)) ∨
      (e.schedule.final = false ∧ ∃ next, row.nextRunAt < next ∧
        concluded readers now e.schedule false = (none, some next)) := by
  cases final : e.schedule.final with
  | true => exact .inl ⟨rfl, by simp [concluded, final]⟩
  | false =>
      obtain ⟨next, done⟩ := computed final
      refine .inr ⟨rfl, next, ?_, by simp [concluded, final, done, Except.toOption]⟩
      have recurs : e.schedule.scheduleType ≠ .once := by
        intro once
        simp [ClaimedSchedule.final, once] at final
      have later : now < next := by
        rw [tallied.returned instanceId e held] at done recurs
        exact computeNextRun_later ahead tallied.accepted recurs done
      rw [same]
      exact lt_of_le_of_lt due later

theorem tallied_release {instanceId : String} {now : Time} {e : Execution} {attempt : Attempt}
    {table : Keyed WorkflowSchedule.id} (ahead : readers.Ahead)
    (held : w.executions instanceId id = some e) (tried : e.attempt = some attempt)
    (created : attempt = { created := true, raised := false }) (due : e.dueAt ≤ now)
    (computed : e.schedule.final = false →
      ∃ next, computeNextRun readers now e.schedule.scheduleType e.schedule.scheduleValue = .ok next)
    (tallied : Tallied readers w id row) :
    Tallied readers
      { w with executions := w.setExecution instanceId id none, table } id
      (releaseLock now e.schedule.runCount (concluded readers now e.schedule attempt.raised).1
        (concluded readers now e.schedule attempt.raised).2 row) := by
  have mine : e.created = true := by simp [Execution.created, tried, created]
  obtain ⟨active, same, count, fired⟩ := tallied.pending instanceId e held mine
  have returned := tallied.returned instanceId e held
  have idle : SchedulerWorld.NoneCreated
      { w with executions := w.setExecution instanceId id none, table } id :=
    tallied.noneCreated held mine
  have next := tallied.concluded_cases ahead held same due computed
  have unraised : attempt.raised = false := by rw [created]
  rw [unraised]
  have le : row.nextRunAt ≤ (releaseLock now e.schedule.runCount
      (concluded readers now e.schedule false).1 (concluded readers now e.schedule false).2
      row).nextRunAt := by
    rcases next with ⟨-, last⟩ | ⟨-, next, later, more⟩
    · rw [last]
      exact le_refl _
    · rw [more]
      exact later.le
  exact
    { accepted := tallied.accepted
      returned := fun holder other now =>
        tallied.returned holder other (SchedulerWorld.released_execution now).1
      single := fun holder other e₁ e₂ now₁ created₁ => by
        rw [idle holder e₁ now₁] at created₁
        cases created₁
      pending := fun holder other now created => by
        rw [idle holder other now] at created
        cases created
      settled := fun _ => by
        rw [← count]
        exact fired
      past := fun firing member => (tallied.past firing member).trans le
      ahead := fun active _ firing member => by
        rcases next with ⟨-, last⟩ | ⟨-, next, later, more⟩
        · rw [last] at active
          cases active
        · rw [more]
          exact lt_of_le_of_lt (tallied.past firing member) later
      room := fun active runs limit => by
        rcases next with ⟨-, last⟩ | ⟨final, -⟩
        · rw [last] at active
          cases active
        · have more : ¬ runs ≤ e.schedule.runCount + 1 := by
            have known : e.schedule.maxRuns = some runs := by
              rw [returned]
              exact limit
            intro reached
            simp [ClaimedSchedule.final, known, reached] at final
          show e.schedule.runCount + 1 < runs
          omega
      bounded := tallied.bounded
      once := tallied.once }

/-- What is counted when a transaction begins. -/
structure Accounted (readers : ScheduleReaders) (w : SchedulerWorld) : Prop where
  named : w.Named
  tallied : ∀ id row, w.table.get? id = some row → Tallied readers w id row

theorem Accounted.execute (accounted : Accounted readers w)
    {instanceId scheduleId runId : String} {commit : Commit}
    (timely : SchedulerAct.Timely readers w (.execute instanceId scheduleId runId commit))
    (found : (w.execute instanceId scheduleId runId commit).table.get? id = some row) :
    Tallied readers (w.execute instanceId scheduleId runId commit) id row := by
  rcases w.execute_cases instanceId scheduleId runId commit with same | ⟨e, held, fresh, after⟩
  · rw [same] at found ⊢
    exact accounted.tallied id row found
  · rw [after] at found ⊢
    have before := accounted.tallied id row found
    cases creates : (executeSchedule e.schedule commit).created with
    | false => exact tallied_attempt held fresh (fun _ => creates) rfl before
    | true =>
        by_cases own : scheduleId = id
        · subst own
          have current : w.Current scheduleId e row := by
            unfold executeSchedule at creates
            split at creates
            · cases creates
            · next free =>
                apply timely e row held fresh found
                · exact Bool.eq_false_of_not_eq_true free
                · rintro rfl
                  cases creates
          exact tallied_fire held (Keyed.get?_eq_some.mp found).2 creates current before
        · apply tallied_attempt held fresh (fun same => absurd same own) _ before
          have parent := accounted.named instanceId scheduleId e held
          rw [if_pos rfl, List.filter_append]
          simp [Execution.firing, createRun, parent, own, SchedulerWorld.firingsOf]

theorem Accounted.release (ahead : readers.Ahead) (accounted : Accounted readers w)
    {instanceId scheduleId : String} {now : Time} {commits : Bool}
    (timely : SchedulerAct.Timely readers w (.release instanceId scheduleId now commits))
    (found : (w.release readers instanceId scheduleId now commits).table.get? id = some row) :
    Tallied readers (w.release readers instanceId scheduleId now commits) id row := by
  rcases w.release_cases readers instanceId scheduleId now commits with
    same | ⟨e, attempt, held, tried, after⟩
  · rw [same] at found ⊢
    exact accounted.tallied id row found
  · rw [after] at found ⊢
    have due := timely e attempt held tried
    have subset (holder : String) (other : Execution)
        (left : w.setExecution instanceId scheduleId none holder id = some other) :
        w.executions holder id = some other := by
      rcases SchedulerWorld.setExecution_cases left with ⟨-, -, none⟩ | ⟨-, before⟩
      · cases none
      · exact before
    cases commits with
    | false =>
        apply tallied_drop _ subset (accounted.tallied id row found)
        intro holder other before
        by_cases own : holder = instanceId ∧ id = scheduleId
        · obtain ⟨rfl, rfl⟩ := own
          obtain rfl := Option.some.inj (held.symm.trans before)
          right
          simpa [Execution.created, tried] using due
        · exact .inl ((if_neg own).trans before)
    | true =>
        rw [if_pos rfl, Keyed.get?_changeAt] at found
        by_cases own : id = scheduleId
        · subst own
          rw [if_pos rfl] at found
          obtain ⟨old, before, rfl⟩ := Option.map_eq_some_iff.mp found
          obtain ⟨created, late, computed⟩ := due
          exact tallied_release ahead held tried created late computed
            (accounted.tallied id old before)
        · rw [if_neg own] at found
          apply tallied_drop _ subset (accounted.tallied id row found)
          intro holder other before
          exact .inl ((if_neg fun same => own same.2).trans before)

theorem Accounted.step (ahead : readers.Ahead) (accounted : Accounted readers w)
    {act : SchedulerAct} (timely : act.Timely readers w) :
    Accounted readers (w.step readers settings act) where
  named := accounted.named.step readers settings act
  tallied id row found := by
    cases act with
    | poll instanceId now skipped =>
        obtain ⟨lock, after⟩ := w.poll_get? settings instanceId now skipped id
        obtain ⟨old, before, rfl⟩ := Option.map_eq_some_iff.mp (after.symm.trans found)
        exact (tallied_poll before (accounted.tallied id old before)).relocked (lock old)
    | execute instanceId scheduleId runId commit => exact accounted.execute timely found
    | release instanceId scheduleId now commits => exact accounted.release ahead timely found
    | crash instanceId =>
        apply tallied_drop _ _ (accounted.tallied id row found)
        · intro holder e held
          by_cases own : holder = instanceId
          · subst own
            exact .inr (timely id e held)
          · exact .inl ((if_neg own).trans held)
        · intro holder e held
          split at held
          · cases held
          · exact held

end

/-- As long as all is timely, the schedules fire as counted. -/
theorem fires_as_counted (readers : ScheduleReaders) (ahead : readers.Ahead)
    (settings : SchedulerSettings) (table : Keyed WorkflowSchedule.id)
    (creates : ∀ row ∈ table.rows, readers.Creates row) (acts : List SchedulerAct)
    (timely : ∀ n (act : SchedulerAct), acts[n]? = some act → act.Timely readers
      (stateAfter (SchedulerWorld.step readers settings) (.start table) acts n))
    (n : Nat) (id : String) (row : WorkflowSchedule)
    (found : (stateAfter (SchedulerWorld.step readers settings) (.start table) acts n).table.get?
      id = some row) :
    (stateAfter (SchedulerWorld.step readers settings) (.start table) acts n).AsCounted id row := by
  have accounted : Accounted readers
      (stateAfter (SchedulerWorld.step readers settings) (.start table) acts n) := by
    apply stateAfter_invariant
    · exact
        { named := fun _ _ _ held => nomatch held
          tallied := fun id row found =>
            tallied_start (creates row (Keyed.get?_eq_some.mp found).1) }
    · intro n act present before
      exact before.step ahead (timely n act present)
  exact (accounted.tallied id row found).asCounted

/-! A schedule for one run, due at the end of the first minute. -/

def minuteReaders : ScheduleReaders where
  isValid _ := false
  getNext value _ := .error ("[" ++ value ++ "] is not acceptable")
  parse value := if value = "1m" then some 60 else none
  fromisoformat _ := none

def singleRequest : ScheduleCreateRequest where
  workflowId := "workflow"
  workflowVersion := none
  name := "single"
  description := none
  scheduleType := .interval
  scheduleValue := "1m"
  inputState := []
  maxRuns := some 1
  namespaceName := "default"
  positive := by simp

def singleSchedule : WorkflowSchedule where
  id := "single"
  workflowId := "workflow"
  workflowVersion := none
  name := "single"
  description := none
  scheduleType := .interval
  scheduleValue := "1m"
  inputState := []
  actor := "operator"
  namespaceName := "default"
  status := .active
  nextRunAt := 60000000
  lastRunAt := none
  maxRuns := some 1
  runCount := 0
  lockedBy := none
  lockedUntil := none

def singleTable : Keyed WorkflowSchedule.id := ⟨[singleSchedule], by simp⟩

theorem single_creates : ∀ row ∈ singleTable.rows, minuteReaders.Creates row := by
  intro row member
  rw [List.mem_singleton.mp member]
  exact ⟨0, "single", "operator", singleRequest, rfl⟩

theorem minute_ahead : minuteReaders.Ahead := fun _ _ _ done => nomatch done

def promptActs : List SchedulerAct :=
  [.poll "a" 60000000 [], .execute "a" "single" "r1" .acknowledged,
    .release "a" "single" 61000000 true]

theorem prompt_acts_count :
    ∃ row, (stateAfter (SchedulerWorld.step minuteReaders {}) (.start singleTable)
        promptActs 3).table.get? "single" = some row ∧
      (stateAfter (SchedulerWorld.step minuteReaders {}) (.start singleTable)
        promptActs 3).AsCounted "single" row := by
  refine ⟨_, rfl, fires_as_counted minuteReaders minute_ahead {} singleTable single_creates
    promptActs ?_ 3 "single" _ rfl⟩
  intro n act present
  match n with
  | 0 =>
      obtain rfl := Option.some.inj present
      trivial
  | 1 =>
      obtain rfl := Option.some.inj present
      intro e row held _ found _ _
      obtain rfl : (SchedulerWorld.start singleTable).begun singleSchedule = e :=
        Option.some.inj held
      obtain rfl : singleSchedule.locked {} 60000000 "a" = row := Option.some.inj found
      refine ⟨rfl, rfl, rfl, ?_⟩
      intro holder other held
      by_cases own : holder = "a"
      · subst own
        obtain rfl : (SchedulerWorld.start singleTable).begun singleSchedule = other :=
          Option.some.inj held
        rfl
      · exact nomatch (if_neg own).symm.trans held
  | 2 =>
      obtain rfl := Option.some.inj present
      intro e attempt held tried
      obtain rfl : { (SchedulerWorld.start singleTable).begun singleSchedule with
          attempt := some { created := true, raised := false } } = e := Option.some.inj held
      obtain rfl := Option.some.inj tried
      exact ⟨rfl, by decide, nofun⟩
  | _ + 3 => cases present

def overlappingActs : List SchedulerAct :=
  [.poll "a" 60000000 [], .execute "a" "single" "r1" .acknowledged, .poll "b" 180000000 [],
    .execute "b" "single" "r2" .acknowledged]

theorem overlapping_acts_fire_twice :
    ¬ ∀ row, (stateAfter (SchedulerWorld.step minuteReaders {}) (.start singleTable)
        overlappingActs 4).table.get? "single" = some row →
      (stateAfter (SchedulerWorld.step minuteReaders {}) (.start singleTable)
        overlappingActs 4).AsCounted "single" row := by
  intro counted
  have once := (counted _ rfl).once
  revert once
  decide +kernel

end SyndicateClaw.Services
