import SyndicateClaw.Api.RunRoutes
import SyndicateClaw.Orchestrator.Cancellation
import SyndicateClaw.Orchestrator.GraphRuns
import SyndicateClaw.Orchestrator.RunEndings

/-! Runs that are cancelled while a call is under way.

One call of `execute` or `resume_after_approval` is under way at a time. Between its
segments, and between the calls, the run is cancelled, paused or resumed, through the
engine or through the routes, requests are decided and time passes. -/

namespace SyndicateClaw.Orchestrator

open Async

inductive FlightMove where
  | execute (ref : Nat) (context : ExecutionContext)
  | resumeAfterApproval (approvalId : String) (context : ExecutionContext)
  | proceed
  | resume (fromNode : Option String)
  | cancel
  -- What a control operation emits when it goes on.
  | emitted (effects : List Effect)
  | cancelRun (actor : String)
  | pauseRun (actor : String)
  | resumeRun (actor : String)
  | meanwhile (signal : Signal)

def World.answered (w : World) : Except Api.HTTPException Database → World
  | .ok db => { w with db }
  | .error _ => w

def FlightMove.toMove (engine : WorkflowEngine) (workflow : WorkflowDefinition) (runId : String) :
    FlightMove → SoloMove World EngineError Point WorkflowRunResult ExecutionContext
  | .execute ref context => .start context (Orchestrator.execute engine ref context workflow)
  | .resumeAfterApproval approvalId context =>
      .start context (Orchestrator.resumeAfterApproval engine runId approvalId workflow context)
  | .proceed => .proceed
  | .resume fromNode => .external fun w => (Orchestrator.resume runId fromNode w).state
  | .cancel => .external fun w => (Orchestrator.cancel runId w).state
  | .emitted effects => .external (·.addEffects effects)
  | .cancelRun actor => .external fun w => w.answered (Api.cancelRun w.db runId actor)
  | .pauseRun actor => .external fun w => w.answered (Api.pauseRun w.db runId actor)
  | .resumeRun actor => .external fun w => w.answered (Api.resumeRun w.db runId actor)
  | .meanwhile signal => .external fun w => signal.act runId w

/-- The world and the call under way after the first `n` moves. -/
abbrev flightAfter (engine : WorkflowEngine) (workflow : WorkflowDefinition) (runId : String)
    (start : World) (moves : List FlightMove) (n : Nat) :
    Solo World EngineError Point WorkflowRunResult ExecutionContext :=
  Solo.after ⟨start, none⟩ (moves.map (FlightMove.toMove engine workflow runId)) n

/-- Calls are of the run object the engine holds, which is not cancelled; the call under way
goes on where it can; the run is not resumed under a call, nor paused once cancelled. -/
def FlightMove.spares (engine : WorkflowEngine) (workflow : WorkflowDefinition) (runId : String)
    (solo : Solo World EngineError Point WorkflowRunResult ExecutionContext) : FlightMove → Bool
  | .execute ref _ => solo.flight.isSome ||
      ((solo.state.objects ref).id = runId && (solo.state.objects ref).status ≠ .cancelled &&
        (solo.state.runs runId).all (·.run = ref))
  | .resumeAfterApproval approvalId _ => solo.flight.isSome || engine.sessionFactory ||
      solo.state.runStatus runId ≠ some .cancelled ||
      ((solo.state.run? runId).bind fun run =>
        approvalResumePayload solo.state.now run.state approvalId).isNone
  | .proceed => solo.flight.all fun flight =>
      sparing engine workflow runId flight.1 flight.2.1 solo.state
  | .resume _ => solo.flight.isNone
  | .meanwhile .pause => solo.state.runStatus runId ≠ some .cancelled
  | _ => true

section moves

variable {runId : String} {w : World}

/-- What happens outside a call permits a cancellation and leaves the call where it is. -/
structure Outside (runId : String) (w w' : World) : Prop where
  permits : Permits runId w w'
  drift : Drift runId w w'

theorem Outside.refl (runId : String) (w : World) : Outside runId w w :=
  ⟨.refl runId w, .refl runId w⟩

theorem outside_effects (effects : List Effect) : Outside runId w (w.addEffects effects) :=
  ⟨permits_effects effects, ⟨rfl, rfl, rfl, fun _ => rfl, id⟩⟩

theorem outside_modifyRun {ref : Nat} {f : WorkflowRun → WorkflowRun}
    (named : (f (w.objects ref)).id = (w.objects ref).id)
    (kept : (w.objects ref).status = .cancelled → (f (w.objects ref)).status = .cancelled) :
    Outside runId w (w.modifyRun ref f) := by
  have permits : Permits runId w (w.modifyRun ref f) := permits_modifyRun named kept
  refine ⟨permits, ⟨rfl, rfl, rfl, fun other => ?_, permits.named⟩⟩
  by_cases same : other = ref
  · subst same
    rw [World.modifyRun_objects_self]
    exact named
  · rw [World.modifyRun_objects_of_ne _ _ _ _ same]

theorem outside_cancel (runId : String) (w : World) :
    Outside runId w (Orchestrator.cancel runId w).state := by
  show Outside runId w ((findRun runId w).bind _).state
  rw [findRun_eq]
  cases w.runs runId with
  | none => exact .refl runId w
  | some result =>
      exact outside_modifyRun (f := fun run =>
        { run with status := .cancelled, completedAt := some w.now }) rfl fun _ => rfl

theorem outside_route {verb actor : String} {accepts : WorkflowRunStatus → Bool}
    {status : WorkflowRunStatus} (never : accepts .cancelled = false) :
    Outside runId w (w.answered (Api.setRunStatus verb accepts status w.db runId actor)) := by
  cases answer : Api.setRunStatus verb accepts status w.db runId actor with
  | error e => exact .refl runId w
  | ok db =>
      obtain ⟨run, stored, accepted, rfl⟩ := Api.setRunStatus_ok answer
      have named : w.Named runId → World.Named { w with db := w.db.setRun runId { run with status } }
          runId := by
        intro holds
        refine ⟨holds.1, fun row found => ?_⟩
        simp only [Database.setRun, Function.update_self, Option.some.injEq] at found
        rw [← found]
        exact holds.2 run stored
      refine ⟨⟨⟨id, fun cancelled => ?_, fun _ => ⟨[], by simp [World.answered], by simp⟩⟩, named⟩,
        ⟨rfl, rfl, rfl, fun _ => rfl, named⟩⟩
      rw [World.rowStatus, stored, Option.map_some, Option.some.injEq] at cancelled
      rw [cancelled, never] at accepted
      cases accepted

theorem outside_db {db : Database} (runs : db.runs = w.db.runs) :
    Outside runId w { w with db } := by
  have named : w.Named runId → World.Named { w with db } runId :=
    fun holds => ⟨holds.1, fun row stored => holds.2 row (runs ▸ stored)⟩
  exact ⟨.of_same rfl runs rfl named, ⟨rfl, rfl, rfl, fun _ => rfl, named⟩⟩

theorem outside_decide (requestId approver reason : String) (status : ApprovalStatus) :
    Outside runId w (w.decide requestId approver reason status) := by
  unfold World.decide
  split
  · next db decided => exact outside_db (decideApproval_redecided decided).1
  · exact .refl runId w

theorem outside_signal {signal : Signal}
    (live : signal = .pause → w.runStatus runId ≠ some .cancelled) :
    Outside runId w (signal.act runId w) := by
  cases signal with
  | pause =>
      simp only [Signal.act, settle_pause]
      split
      · exact .refl runId w
      · next result registered =>
          have alive : (w.objects result.run).status ≠ .cancelled := by
            intro cancelled
            exact live rfl (by simp [World.runStatus, World.run?, registered, cancelled])
          have paused : Outside runId w
              (w.modifyRun result.run fun run => { run with status := .paused }) :=
            outside_modifyRun rfl fun cancelled => absurd cancelled alive
          exact ⟨paused.permits.trans (permits_effects _),
            paused.drift.trans (outside_effects _).drift⟩
  | approve requestId approver reason => exact outside_decide requestId approver reason _
  | reject requestId approver reason => exact outside_decide requestId approver reason _
  | expireStale => exact outside_db rfl
  | tick now => exact ⟨.of_same rfl rfl rfl id, ⟨rfl, rfl, rfl, fun _ => rfl, id⟩⟩

def Protocol.permitting (runId : String) : Protocol World Point where
  rely _ _ _ := True
  guarantee := Permits runId
  refl := .refl runId
  trans := .trans

/-- `resume` refuses a cancelled run. -/
theorem permits_resume (runId : String) (fromNode : Option String) (w : World) :
    Permits runId w (Orchestrator.resume runId fromNode w).state := by
  suffices triple : Keeps (Protocol.permitting runId) (fun _ => True)
      (Orchestrator.resume runId fromNode) fun _ _ => True from (triple w trivial).state
  refine Co.Triple.bind (keeps_findRun runId) fun result => ?_
  refine Co.Triple.bind keeps_readRun fun run => ?_
  split
  · exact Co.Triple.raise fun _ _ => trivial
  next accepted =>
  refine Co.Triple.bind (Q := fun _ _ => True) ?_ fun _ => ?_
  · apply Co.Triple.modify
    intro w holds
    obtain ⟨rfl, -⟩ := holds
    refine ⟨permits_modifyRun rfl fun cancelled => ?_, trivial⟩
    rw [cancelled] at accepted
    exact absurd rfl accepted
  refine Co.Triple.bind (Q := fun _ _ => True) (Co.Triple.modify fun w _ =>
    ⟨permits_record (.resumed runId) fun starts => (by cases starts), trivial⟩) fun _ => ?_
  have announced : Keeps (Protocol.permitting runId) (fun _ => True) (do
      emitAudit .workflowResumed run.initiatedBy "workflow_run" runId "resumed" []
      findRun runId) fun _ _ => True := by
    refine Co.Triple.bind (Q := fun _ _ => True) (Co.Triple.bind (Q := fun _ _ => True)
      (Co.Triple.modify fun w _ => ⟨permits_effects _, trivial⟩)
      fun _ => Co.Triple.await fun _ _ _ _ => trivial) fun _ => ?_
    exact (keeps_findRun runId).conseq (fun _ holds => holds) (fun _ _ _ => trivial)
      fun _ _ holds => holds
  cases fromNode with
  | none => exact announced
  | some node =>
      refine Co.Triple.bind (Q := fun _ _ => True) (Co.Triple.modify fun w _ =>
        ⟨permits_modifyRun rfl id, trivial⟩) fun _ => ?_
      exact Co.Triple.bind (Q := fun _ _ => True) (Co.Triple.modify fun w _ =>
        ⟨permits_modifyResult fun _ => rfl, trivial⟩) fun _ => announced

/-! ### Histories -/

theorem admits_of_spares {engine : WorkflowEngine} {workflow : WorkflowDefinition}
    {solo : Solo World EngineError Point WorkflowRunResult ExecutionContext} {move : FlightMove}
    (named : solo.state.Named runId) (spared : move.spares engine workflow runId solo = true) :
    (cancelSpace engine workflow runId).Admits solo (move.toMove engine workflow runId) := by
  have outside {w' : World} (changes : Outside runId solo.state w') :
      Permits runId solo.state w' ∧ (solo.flight.isSome → Drift runId solo.state w') :=
    ⟨changes.permits, fun _ => changes.drift⟩
  cases move with
  | execute ref context =>
      intro free
      rw [FlightMove.spares, free] at spared
      simp only [Option.isSome_none, Bool.false_or, Bool.and_eq_true, decide_eq_true_eq,
        ne_eq] at spared
      obtain ⟨⟨own, live⟩, registered⟩ := spared
      refine permitted_execute solo.state ⟨own, live, fun result present => ?_⟩
      rw [present] at registered
      exact of_decide_eq_true registered
  | resumeAfterApproval approvalId context =>
      intro free
      rw [FlightMove.spares, free] at spared
      simp only [Option.isSome_none, Bool.false_or, Bool.or_eq_true, decide_eq_true_eq,
        Option.isNone_iff_eq_none, or_assoc] at spared
      exact permitted_resumeAfterApproval approvalId solo.state ⟨named, spared⟩
  | proceed =>
      intro context point k under
      rw [FlightMove.spares, under] at spared
      exact spared
  | resume fromNode =>
      refine ⟨permits_resume runId fromNode solo.state, fun busy => ?_⟩
      rw [FlightMove.spares, Option.isNone_iff_eq_none] at spared
      rw [spared] at busy
      cases busy
  | cancel => exact outside (outside_cancel runId solo.state)
  | emitted effects => exact outside (outside_effects effects)
  | cancelRun actor => exact outside (outside_route (by decide))
  | pauseRun actor => exact outside (outside_route (by decide))
  | resumeRun actor => exact outside (outside_route (by decide))
  | meanwhile signal =>
      refine outside (outside_signal fun paused => ?_)
      subst paused
      exact of_decide_eq_true spared

/-- In every history of a run whose moves spare it, once cancelled, in memory or in its row,
it stays so, and no node is started. -/
theorem cancellation_lasts {engine : WorkflowEngine} {workflow : WorkflowDefinition}
    (workflowId workflowVersion actor : String) (initialState : State) (tags : Dict String String)
    {start : World} (started : start = World.started (startRun runId workflowId workflowVersion
      actor initialState tags)) {moves : List FlightMove}
    (spared : ∀ (n : Nat) (move : FlightMove), moves[n]? = some move →
      move.spares engine workflow runId (flightAfter engine workflow runId start moves n) = true)
    {n m : Nat} (le : n ≤ m) :
    StaysCancelled runId (flightAfter engine workflow runId start moves n).state
      (flightAfter engine workflow runId start moves m).state := by
  have named : start.Named runId := by
    subst started
    refine ⟨fun _ registered => (by cases registered), fun row stored => ?_⟩
    simp only [World.started, startRun, Function.update_self, Option.some.injEq] at stored
    rw [← stored]
  have permits := (cancelSpace engine workflow runId).guaranteed start
    (moves.map (FlightMove.toMove engine workflow runId)) (fun n move present sofar => by
      rw [List.getElem?_map, Option.map_eq_some_iff] at present
      obtain ⟨own, listed, rfl⟩ := present
      exact admits_of_spares (sofar.named named) (spared n own listed)) le
  exact permits.toStaysCancelled

end moves

/-! ### Two nodes -/

section startToEnd

def storedEcho : WorkflowEngine := .plain (fun _ => some echoHandler) true

/-- The run is executed, cancelled when its call has gone on `early` times, and the call goes
on. -/
def cancelledAfter (early late : Nat) : List FlightMove :=
  [.execute 0 plainContext] ++ List.replicate early .proceed ++ [.cancel] ++
    List.replicate late .proceed

/-- Cancelled under the handler of START, the run keeps its status and END is not started. -/
theorem cancellation_lasts_startToEnd :
    (flightAfter storedEcho startToEnd "run" newRun (cancelledAfter 2 6) 4).state.runStatus
        "run" = some .cancelled ∧
      (flightAfter storedEcho startToEnd "run" newRun (cancelledAfter 2 6) 10).flight.isNone ∧
      StaysCancelled "run"
        (flightAfter storedEcho startToEnd "run" newRun (cancelledAfter 2 6) 4).state
        (flightAfter storedEcho startToEnd "run" newRun (cancelledAfter 2 6) 10).state := by
  have spared : ∀ n : Fin 10, ∀ move ∈ (cancelledAfter 2 6)[n.val]?, move.spares storedEcho
      startToEnd "run" (flightAfter storedEcho startToEnd "run" newRun (cancelledAfter 2 6)
        n.val) = true := by
    decide +kernel
  refine ⟨by decide +kernel, by decide +kernel, cancellation_lasts "workflow" "1" "client" [] []
    rfl (fun n move present => ?_) (by decide)⟩
  have below : n < (cancelledAfter 2 6).length := (List.getElem?_eq_some_iff.mp present).1
  exact spared ⟨n, below⟩ move present

/-- Cancelled under the handler of END, the run is completed. -/
theorem cancelled_run_completes :
    (flightAfter storedEcho startToEnd "run" newRun (cancelledAfter 6 5) 8).state.runStatus
        "run" = some .cancelled ∧
      (flightAfter storedEcho startToEnd "run" newRun (cancelledAfter 6 5) 13).state.runStatus
        "run" = some .completed ∧
      ¬ StaysCancelled "run"
        (flightAfter storedEcho startToEnd "run" newRun (cancelledAfter 6 5) 8).state
        (flightAfter storedEcho startToEnd "run" newRun (cancelledAfter 6 5) 13).state := by
  have cancelled : (flightAfter storedEcho startToEnd "run" newRun (cancelledAfter 6 5)
      8).state.runStatus "run" = some .cancelled := by decide +kernel
  have completed : (flightAfter storedEcho startToEnd "run" newRun (cancelledAfter 6 5)
      13).state.runStatus "run" = some .completed := by decide +kernel
  refine ⟨cancelled, completed, fun stays => ?_⟩
  have kept := stays.memory cancelled
  rw [completed] at kept
  cases kept

end startToEnd

end SyndicateClaw.Orchestrator
