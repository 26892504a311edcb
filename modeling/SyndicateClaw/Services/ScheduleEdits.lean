import SyndicateClaw.Services.ScheduleCounts

/-! Operators who change schedules while the instances of the scheduler work. -/

namespace SyndicateClaw.Services

open Async Orchestrator
open Authz (Time)

/-- The methods of `ScheduleService` that read a row and write it back; `pause` is an update. -/
inductive Edit where
  | update (request : ScheduleUpdateRequest)
  | resume

def Edit.pause : Edit := .update ScheduleService.pauseRequest

def Edit.apply (readers : ScheduleReaders) (now : Time) :
    Edit → WorkflowSchedule → Except ScheduleError WorkflowSchedule
  | .update request => ScheduleService.update readers now request
  | .resume => ScheduleService.resume readers now

structure ScheduleDesk where
  world : SchedulerWorld
  sessions : String → Option WorkflowSchedule

inductive DeskAct where
  | scheduler (act : SchedulerAct)
  | read (session scheduleId : String)
  | commit (session : String) (now : Time) (edit : Edit)
  | delete (scheduleId : String)

namespace ScheduleDesk

variable (desk : ScheduleDesk)

def start (table : Keyed WorkflowSchedule.id) : ScheduleDesk where
  world := .start table
  sessions := fun _ => none

def setSession (session : String) (seen : Option WorkflowSchedule) :
    String → Option WorkflowSchedule :=
  fun other => if other = session then seen else desk.sessions other

/-- The columns that have changed since the session has read the row are written. -/
def save (seen new : WorkflowSchedule) : SchedulerWorld :=
  { desk.world with
    table := desk.world.table.changeAt seen.id (ScheduleService.save seen new)
      (ScheduleService.save_id seen new)
    edits := fun id =>
      if id = seen.id ∧ new.nextRunAt ≠ seen.nextRunAt then desk.world.edits id + 1
      else desk.world.edits id }

def commit (readers : ScheduleReaders) (session : String) (now : Time) (edit : Edit) :
    ScheduleDesk :=
  match desk.sessions session with
  | none => desk
  | some seen =>
      match edit.apply readers now seen with
      | .error _ => { desk with sessions := desk.setSession session none }
      | .ok new => { world := desk.save seen new, sessions := desk.setSession session none }

def delete (scheduleId : String) : ScheduleDesk :=
  { desk with
    world :=
      { desk.world with
        table := desk.world.table.changeAt scheduleId ScheduleService.delete
          ScheduleService.delete_id } }

def step (readers : ScheduleReaders) (settings : SchedulerSettings) (desk : ScheduleDesk) :
    DeskAct → ScheduleDesk
  | .scheduler act => { desk with world := desk.world.step readers settings act }
  | .read session scheduleId =>
      { desk with sessions := desk.setSession session (desk.world.table.get? scheduleId) }
  | .commit session now edit => desk.commit readers session now edit
  | .delete scheduleId => desk.delete scheduleId

/-- The desk after the first `n` acts. -/
abbrev after (readers : ScheduleReaders) (settings : SchedulerSettings) (acts : List DeskAct)
    (n : Nat) : ScheduleDesk :=
  stateAfter (step readers settings) desk acts n

theorem after_succ {readers : ScheduleReaders} {settings : SchedulerSettings}
    {acts : List DeskAct} {n : Nat} {act : DeskAct} (present : acts[n]? = some act) :
    desk.after readers settings acts (n + 1) =
      (desk.after readers settings acts n).step readers settings act :=
  stateAfter_succ (step readers settings) desk acts present

def statusOf (id : String) : Option ScheduleStatus :=
  (desk.world.table.get? id).map WorkflowSchedule.status

def nextRunOf (id : String) : Option Time :=
  (desk.world.table.get? id).map WorkflowSchedule.nextRunAt

end ScheduleDesk

structure OperatorsWin (readers : ScheduleReaders) (settings : SchedulerSettings)
    (desk : ScheduleDesk) (acts : List DeskAct) : Prop where
  deleted : ∀ i j, i ≤ j → ∀ id, (desk.after readers settings acts i).statusOf id = some .deleted →
    (desk.after readers settings acts j).statusOf id = some .deleted
  silent : ∀ i j, i ≤ j → ∀ id, (desk.after readers settings acts i).statusOf id = some .deleted →
    ∀ firing ∈ (desk.after readers settings acts j).world.firingsOf id,
      firing.claim < (desk.after readers settings acts i).world.claims
  paused : ∀ n instanceId id now commits,
    acts[n]? = some (.scheduler (.release instanceId id now commits)) →
    (desk.after readers settings acts n).statusOf id = some .paused →
    (desk.after readers settings acts (n + 1)).statusOf id = some .paused
  rescheduled : ∀ n instanceId id now commits e,
    acts[n]? = some (.scheduler (.release instanceId id now commits)) →
    (desk.after readers settings acts n).world.executions instanceId id = some e →
    e.edits ≠ (desk.after readers settings acts n).world.edits id →
    (desk.after readers settings acts (n + 1)).nextRunOf id =
      (desk.after readers settings acts n).nextRunOf id

/-- No run completes a schedule that is paused or deleted, none moves a `next_run_at` that was set
since its claim, and no edit sets the status of a schedule that is deleted. -/
def DeskAct.Yields (readers : ScheduleReaders) (desk : ScheduleDesk) : DeskAct → Prop
  | .scheduler (.release instanceId scheduleId _ true) =>
      ∀ e attempt, desk.world.executions instanceId scheduleId = some e →
        e.attempt = some attempt → attempt.raised = false →
          if e.schedule.final then
            desk.statusOf scheduleId ≠ some .paused ∧ desk.statusOf scheduleId ≠ some .deleted
          else e.edits = desk.world.edits scheduleId
  | .scheduler _ => True
  | .read _ _ => True
  | .commit session now edit =>
      ∀ seen new, desk.sessions session = some seen → edit.apply readers now seen = .ok new →
        desk.statusOf seen.id = some .deleted → new.status = seen.status
  | .delete _ => True

/-! ### Claims in order -/

section

variable {readers : ScheduleReaders} {settings : SchedulerSettings} {w : SchedulerWorld}
  {id : String} {c c' : Nat}

/-- What is left of a schedule's claims, and what they have created, comes from the first `c`
claims. -/
def SchedulerWorld.Within (w : SchedulerWorld) (id : String) (c : Nat) : Prop :=
  (∀ holder e, w.executions holder id = some e → e.claim < c) ∧
    ∀ firing ∈ w.firingsOf id, firing.claim < c

theorem SchedulerWorld.claims_le (readers : ScheduleReaders) (settings : SchedulerSettings)
    (w : SchedulerWorld) (act : SchedulerAct) : w.claims ≤ (w.step readers settings act).claims := by
  cases act with
  | poll instanceId now skipped =>
      change w.claims ≤ (w.poll settings instanceId now skipped).claims
      unfold SchedulerWorld.poll
      split
      · exact le_refl _
      · exact Nat.le_succ _
  | execute instanceId scheduleId runId commit =>
      change w.claims ≤ (w.execute instanceId scheduleId runId commit).claims
      rcases w.execute_cases instanceId scheduleId runId commit with same | ⟨e, -, -, after⟩
      · rw [same]
      · rw [after]
  | release instanceId scheduleId now commits =>
      change w.claims ≤ (w.release readers instanceId scheduleId now commits).claims
      rcases w.release_cases readers instanceId scheduleId now commits with
        same | ⟨e, attempt, -, -, after⟩
      · rw [same]
      · rw [after]
  | crash instanceId => exact le_refl _

theorem SchedulerWorld.Within.step (named : w.Named) (within : w.Within id c) (le : c ≤ c')
    (act : SchedulerAct)
    (claimable : ∀ row, w.table.get? id = some row → row.status = .active →
      (w.step readers settings act).claims ≤ c') :
    (w.step readers settings act).Within id c' := by
  have held (holder : String) (e : Execution) (before : w.executions holder id = some e) :
      e.claim < c' := (within.1 holder e before).trans_le le
  have fired (firing : Firing) (member : firing ∈ w.firingsOf id) : firing.claim < c' :=
    (within.2 firing member).trans_le le
  cases act with
  | poll instanceId now skipped =>
      refine ⟨fun holder e now => ?_, fun firing member => fired firing ?_⟩
      · rcases SchedulerWorld.poll_execution now with before | ⟨row, found, due, begun, claims⟩
        · exact held holder e before
        · have active : row.status = .active := by
            unfold WorkflowSchedule.due at due
            simp only [Bool.and_eq_true, decide_eq_true_eq] at due
            exact due.1.1
          have room := claimable row found active
          change (w.poll settings instanceId _ skipped).claims ≤ c' at room
          rw [begun]
          show w.claims < c'
          omega
      · change firing ∈ (w.poll settings instanceId now skipped).firingsOf id at member
        unfold SchedulerWorld.firingsOf at member ⊢
        rwa [SchedulerWorld.poll_firings] at member
  | execute instanceId scheduleId runId commit =>
      show (w.execute instanceId scheduleId runId commit).Within id c'
      rcases w.execute_cases instanceId scheduleId runId commit with same | ⟨e, before, -, after⟩
      · rw [same]
        exact ⟨held, fired⟩
      · rw [after]
        constructor
        · intro holder e' now
          rcases SchedulerWorld.setExecution_cases now with ⟨rfl, rfl, own⟩ | ⟨-, other⟩
          · obtain rfl := Option.some.inj own
            exact held holder e before
          · exact held holder e' other
        · intro firing member
          obtain ⟨inside, parent⟩ := List.mem_filter.mp member
          split at inside
          · rcases List.mem_append.mp inside with old | new
            · exact fired firing (List.mem_filter.mpr ⟨old, parent⟩)
            · obtain rfl := List.mem_singleton.mp new
              have own : e.schedule.id = id := of_decide_eq_true parent
              rw [named instanceId scheduleId e before] at own
              subst own
              exact held instanceId e before
          · exact fired firing (List.mem_filter.mpr ⟨inside, parent⟩)
  | release instanceId scheduleId now commits =>
      show (w.release readers instanceId scheduleId now commits).Within id c'
      rcases w.release_cases readers instanceId scheduleId now commits with
        same | ⟨e, attempt, -, -, after⟩
      · rw [same]
        exact ⟨held, fired⟩
      · rw [after]
        refine ⟨fun holder e' now => ?_, fired⟩
        rcases SchedulerWorld.setExecution_cases now with ⟨-, -, none⟩ | ⟨-, other⟩
        · cases none
        · exact held holder e' other
  | crash instanceId =>
      refine ⟨fun holder e now => ?_, fired⟩
      change (if holder = instanceId then none else w.executions holder id) = some e at now
      split at now
      · cases now
      · exact held holder e now

end

/-! ### One act -/

section

variable {readers : ScheduleReaders} {settings : SchedulerSettings} {desk : ScheduleDesk}
  {id : String}

theorem concluded_cases (readers : ScheduleReaders) (now : Time) (schedule : ClaimedSchedule)
    (raised : Bool) :
    (raised = false ∧ schedule.final = true ∧
      concluded readers now schedule raised = (some .completed, none)) ∨
    (raised = false ∧ schedule.final = false ∧ (concluded readers now schedule raised).1 = none) ∨
    concluded readers now schedule raised = (none, none) := by
  unfold concluded
  cases raised with
  | true => exact .inr (.inr rfl)
  | false =>
      cases schedule.final with
      | true => exact .inl ⟨rfl, rfl, rfl⟩
      | false => exact .inr (.inl ⟨rfl, rfl, rfl⟩)

theorem status_scheduler {act : SchedulerAct} {status : ScheduleStatus}
    (yields : DeskAct.Yields readers desk (.scheduler act))
    (final : status = .paused ∨ status = .deleted) (held : desk.statusOf id = some status) :
    (desk.step readers settings (.scheduler act)).statusOf id = some status := by
  obtain ⟨row, found, own⟩ := Option.map_eq_some_iff.mp held
  show Option.map _ ((desk.world.step readers settings act).table.get? id) = some status
  rcases desk.world.step_get? readers settings act id with
    ⟨lock, after⟩ | ⟨instanceId, now, e, attempt, rfl, slot, tried, after⟩
  · rw [after, found]
    exact congrArg some own
  · rw [after, found]
    rcases concluded_cases readers now e.schedule attempt.raised with
      ⟨raised, last, -⟩ | ⟨-, -, none⟩ | none
    · have open_ := yields e attempt slot tried raised
      rw [if_pos last, held] at open_
      rcases final with rfl | rfl
      · exact absurd rfl open_.1
      · exact absurd rfl open_.2
    · simp [releaseLock, none, own]
    · simp [releaseLock, none, own]

theorem save_row (seen new : WorkflowSchedule) :
    (desk.save seen new).table.get? id =
      if id = seen.id then (desk.world.table.get? id).map (ScheduleService.save seen new)
      else desk.world.table.get? id :=
  desk.world.table.get?_changeAt seen.id id _ (ScheduleService.save_id seen new)

theorem commit_cases (readers : ScheduleReaders) (desk : ScheduleDesk) (session : String)
    (now : Time) (edit : Edit) :
    (desk.commit readers session now edit).world = desk.world ∨
      ∃ seen new, desk.sessions session = some seen ∧ edit.apply readers now seen = .ok new ∧
        (desk.commit readers session now edit).world = desk.save seen new := by
  unfold ScheduleDesk.commit
  cases read : desk.sessions session with
  | none => exact .inl rfl
  | some seen =>
      cases applied : edit.apply readers now seen with
      | error error => exact .inl (by simp [applied])
      | ok new => exact .inr ⟨seen, new, rfl, applied, by simp [applied]⟩

theorem deleted_step {act : DeskAct} (yields : act.Yields readers desk)
    (deleted : desk.statusOf id = some .deleted) :
    (desk.step readers settings act).statusOf id = some .deleted := by
  cases act with
  | scheduler act => exact status_scheduler yields (.inr rfl) deleted
  | read session scheduleId => exact deleted
  | commit session now edit =>
      show Option.map _ ((desk.commit readers session now edit).world.table.get? id) = _
      rcases commit_cases readers desk session now edit with same | ⟨seen, new, read, done, after⟩
      · rw [same]
        exact deleted
      · rw [after, save_row]
        split
        · next own =>
            subst own
            obtain ⟨row, found, own⟩ := Option.map_eq_some_iff.mp deleted
            have kept := yields seen new read done deleted
            rw [found]
            simp [ScheduleService.save, Approval.changed, kept, own]
        · exact deleted
  | delete scheduleId =>
      show Option.map _ ((desk.world.table.changeAt scheduleId ScheduleService.delete
        ScheduleService.delete_id).get? id) = _
      rw [Keyed.get?_changeAt]
      split
      · obtain ⟨row, found, -⟩ := Option.map_eq_some_iff.mp deleted
        rw [found]
        rfl
      · exact deleted

theorem world_step (readers : ScheduleReaders) (settings : SchedulerSettings)
    (desk : ScheduleDesk) (act : DeskAct) :
    (∃ move, act = .scheduler move ∧
      (desk.step readers settings act).world = desk.world.step readers settings move) ∨
    ((desk.step readers settings act).world.executions = desk.world.executions ∧
      (desk.step readers settings act).world.firings = desk.world.firings ∧
      (desk.step readers settings act).world.claims = desk.world.claims) := by
  cases act with
  | scheduler act => exact .inl ⟨act, rfl, rfl⟩
  | read session scheduleId => exact .inr ⟨rfl, rfl, rfl⟩
  | commit session now edit =>
      right
      show (desk.commit readers session now edit).world.executions = _ ∧
        (desk.commit readers session now edit).world.firings = _ ∧
        (desk.commit readers session now edit).world.claims = _
      rcases commit_cases readers desk session now edit with same | ⟨seen, new, -, -, after⟩
      · rw [same]
        exact ⟨rfl, rfl, rfl⟩
      · rw [after]
        exact ⟨rfl, rfl, rfl⟩
  | delete scheduleId => exact .inr ⟨rfl, rfl, rfl⟩

theorem within_step {c c' : Nat} (named : desk.world.Named) (within : desk.world.Within id c)
    (le : c ≤ c') {act : DeskAct}
    (claimable : desk.statusOf id = some .active →
      (desk.step readers settings act).world.claims ≤ c') :
    (desk.step readers settings act).world.Within id c' := by
  rcases world_step readers settings desk act with ⟨move, rfl, -⟩ | ⟨executions, firings, -⟩
  · apply SchedulerWorld.Within.step named within le move
    intro row found active
    apply claimable
    rw [ScheduleDesk.statusOf, found, Option.map_some, active]
  · constructor
    · rw [executions]
      exact fun holder e held => (within.1 holder e held).trans_le le
    · unfold SchedulerWorld.firingsOf
      rw [firings]
      exact fun firing member => (within.2 firing member).trans_le le

theorem named_step (named : desk.world.Named) (act : DeskAct) :
    (desk.step readers settings act).world.Named := by
  rcases world_step readers settings desk act with ⟨move, rfl, -⟩ | ⟨executions, -, -⟩
  · exact named.step readers settings move
  · unfold SchedulerWorld.Named
    rw [executions]
    exact named

theorem claims_step (act : DeskAct) :
    desk.world.claims ≤ (desk.step readers settings act).world.claims := by
  rcases world_step readers settings desk act with ⟨move, rfl, -⟩ | ⟨-, -, claims⟩
  · exact desk.world.claims_le readers settings move
  · exact claims.ge

theorem nextRun_release {instanceId : String} {now : Time} {commits : Bool} {e : Execution}
    (yields : DeskAct.Yields readers desk (.scheduler (.release instanceId id now commits)))
    (held : desk.world.executions instanceId id = some e) (edited : e.edits ≠ desk.world.edits id) :
    (desk.step readers settings (.scheduler (.release instanceId id now commits))).nextRunOf id =
      desk.nextRunOf id := by
  show Option.map _ ((desk.world.step readers settings
    (.release instanceId id now commits)).table.get? id) = _
  rcases desk.world.step_get? readers settings (.release instanceId id now commits) id with
    ⟨lock, after⟩ | ⟨other, later, e', attempt, same, slot, tried, after⟩
  · rw [after, Option.map_map]
    rfl
  · injection same with who _ when_ done
    subst who when_ done
    obtain rfl := Option.some.inj (held.symm.trans slot)
    rw [after, Option.map_map]
    apply Option.map_congr
    intro row found
    rcases concluded_cases readers now e.schedule attempt.raised with
      ⟨-, -, last⟩ | ⟨raised, more, -⟩ | none
    · simp [releaseLock, last]
    · have known := yields e attempt held tried raised
      rw [if_neg (by simp [more])] at known
      exact absurd known edited
    · simp [releaseLock, none]

end

/-- As long as every act yields, the operators' changes win. -/
theorem operators_win (readers : ScheduleReaders) (settings : SchedulerSettings)
    (table : Keyed WorkflowSchedule.id) (acts : List DeskAct)
    (yields : ∀ n (act : DeskAct), acts[n]? = some act →
      act.Yields readers ((ScheduleDesk.start table).after readers settings acts n)) :
    OperatorsWin readers settings (.start table) acts := by
  have deleted (id : String) : ∀ i j, i ≤ j →
      ((ScheduleDesk.start table).after readers settings acts i).statusOf id = some .deleted →
      ((ScheduleDesk.start table).after readers settings acts j).statusOf id = some .deleted := by
    apply (monotone_iff (ScheduleDesk.step readers settings) (.start table) acts
      (fun desk later => desk.statusOf id = some .deleted → later.statusOf id = some .deleted)
      (fun _ same => same) (fun _ _ _ first second held => second (first held))).mpr
    intro n act present
    exact deleted_step (yields n act present)
  have named (n : Nat) :
      ((ScheduleDesk.start table).after readers settings acts n).world.Named := by
    apply stateAfter_invariant _ _ _ fun desk : ScheduleDesk => desk.world.Named
    · exact fun _ _ _ held => nomatch held
    · exact fun _ act _ before => named_step before act
  have within (id : String) (n : Nat) :
      ((ScheduleDesk.start table).after readers settings acts n).world.Within id
        ((ScheduleDesk.start table).after readers settings acts n).world.claims := by
    have both := stateAfter_invariant (ScheduleDesk.step readers settings) (.start table) acts
      (fun desk => desk.world.Named ∧ desk.world.Within id desk.world.claims)
      ⟨(fun _ _ _ held => nomatch held), (fun _ _ held => nomatch held),
        fun _ member => absurd member List.not_mem_nil⟩
      (fun _ act _ before => ⟨named_step before.1 act,
        within_step before.1 before.2 (claims_step act) fun _ => le_refl _⟩) n
    exact both.2
  refine ⟨fun i j le id => deleted id i j le, ?_, ?_, ?_⟩
  · intro i j le id gone
    suffices quiet : ((ScheduleDesk.start table).after readers settings acts j).world.Within id
        ((ScheduleDesk.start table).after readers settings acts i).world.claims from quiet.2
    apply stateAfter_from _ _ _ (fun desk : ScheduleDesk => desk.world.Within id _) le (within id i)
    intro k act later _ quiet
    apply within_step (named k) quiet (le_refl _)
    intro active
    rw [deleted id i k later gone] at active
    cases active
  · intro n instanceId id now commits present held
    rw [ScheduleDesk.after_succ _ present]
    exact status_scheduler (yields n _ present) (.inl rfl) held
  · intro n instanceId id now commits e present slot edited
    rw [ScheduleDesk.after_succ _ present]
    exact nextRun_release (yields n _ present) slot edited

def lateDeletion : List DeskAct := promptActs.map .scheduler ++ [.delete "single"]

theorem late_deletion_wins :
    OperatorsWin minuteReaders {} (.start singleTable) lateDeletion := by
  apply operators_win
  intro n act present
  match n with
  | 0 =>
      obtain rfl := Option.some.inj present
      trivial
  | 1 =>
      obtain rfl := Option.some.inj present
      trivial
  | 2 =>
      obtain rfl := Option.some.inj present
      intro e attempt held tried _
      obtain rfl : { (SchedulerWorld.start singleTable).begun singleSchedule with
          attempt := some { created := true, raised := false } } = e := Option.some.inj held
      exact ⟨by decide +kernel, by decide +kernel⟩
  | 3 =>
      obtain rfl := Option.some.inj present
      trivial
  | _ + 4 => cases present

def earlyDeletion : List DeskAct :=
  [.scheduler (.poll "a" 60000000 []), .scheduler (.execute "a" "single" "r1" .acknowledged),
    .delete "single", .scheduler (.release "a" "single" 61000000 true)]

theorem early_deletion_lost :
    ¬ OperatorsWin minuteReaders {} (.start singleTable) earlyDeletion := by
  intro win
  have stays := win.deleted 3 4 (by decide) "single"
  revert stays
  decide +kernel

end SyndicateClaw.Services
