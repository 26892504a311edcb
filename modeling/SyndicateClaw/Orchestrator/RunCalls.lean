import SyndicateClaw.Orchestrator.Calls
import SyndicateClaw.Orchestrator.GraphOrder

/-! Calls on one run, one after another.

While a call is suspended the run may be paused, requests may be decided or expire, and
time passes; the next call begins when the last one has ended. -/

namespace SyndicateClaw.Orchestrator

open Async

inductive Signal where
  | pause
  | approve (requestId approver reason : String)
  | reject (requestId approver reason : String)
  | expireStale
  | tick (now : Instant)

def Signal.act (runId : String) (w : World) : Signal → World
  | .pause => ((Orchestrator.pause runId).settle w).1
  | .approve requestId approver reason => w.decide requestId approver reason .approved
  | .reject requestId approver reason => w.decide requestId approver reason .rejected
  | .expireStale => { w with db := Orchestrator.expireStale w.db w.now }
  | .tick now => { w with now }

/-- The signals that arrive at each suspension point of a call. -/
abbrev Signals := Nat → List Signal

def Signals.env (signals : Signals) (runId : String) (i : Nat) (w : World) : World :=
  (signals i).foldl (Signal.act runId) w

inductive RunCall where
  | execute (ref : Nat) (context : ExecutionContext) (signals : Signals)
  | resumeAfterApproval (approvalId : String) (context : ExecutionContext) (signals : Signals)
  | resume
  | meanwhile (signal : Signal)

def RunCall.run (engine : WorkflowEngine) (workflow : WorkflowDefinition) (runId : String)
    (w : World) : RunCall → World
  | .execute ref context signals =>
      ((Orchestrator.execute engine ref context workflow w).settleWith (signals.env runId) 0).1
  | .resumeAfterApproval approvalId context signals =>
      ((Orchestrator.resumeAfterApproval engine runId approvalId workflow context w).settleWith
        (signals.env runId) 0).1
  | .resume => ((Orchestrator.resume runId none).settle w).1
  | .meanwhile signal => signal.act runId w

/-- `execute` is called on a new run or on one that was resumed, and without a store an
approval is redeemed only while the run is interrupted. -/
def RunCall.Allowed (engine : WorkflowEngine) (runId : String) (w : World) : RunCall → Prop
  | .execute ref _ _ => ref < w.nextObject ∧ ready w.trail = true
  | .resumeAfterApproval _ _ _ => engine.sessionFactory = false →
      ∀ result, w.runs runId = some result → resumable (w.objects result.run).status = true
  | _ => True

/-- One workflow, no node named by a caller, no replay, and nothing that sets a stopped
run running under a call. -/
def Conditions.sequential (workflow : WorkflowDefinition) : Conditions :=
  { workflow := (· = workflow), enter := fun trail => ready trail = true
    boundary := fun _ _ => True, redirect := False, replay := False, calm := True }

section writes

variable {engine : WorkflowEngine} {workflow : WorkflowDefinition} {runId : String}
  {c : Conditions}

/-- The environment leaves the trail alone and lets no stopped run go on. -/
def Protocol.calm (engine : WorkflowEngine) (c : Conditions) : Protocol World Point where
  rely _ w w' := EngineWrites engine c w w' ∧ w'.trail = w.trail ∧
    ∀ ref, haltsAfter (w.objects ref).status → haltsAfter (w'.objects ref).status
  guarantee := EngineWrites engine c
  refl _ := .refl
  trans := .trans

theorem observes_calm (boundary : ∀ db requestId, c.boundary db requestId) :
    Observes engine c (Protocol.calm engine c) where
  rely step := step.1
  boundary _ := boundary _ _
  entered step entered := by
    rw [step.2.1]
    exact entered
  calm _ _ _ _ step := step.2
  guarantee write := .single write

theorem settle_pause (runId : String) (w : World) :
    ((pause runId).settle w).1 = match w.runs runId with
      | none => w
      | some result =>
          (w.modifyRun result.run fun run => { run with status := .paused }).addEffects
            [.audit { eventType := .workflowPaused
                      actor := (w.objects result.run).initiatedBy
                      resourceType := "workflow_run", resourceId := runId, action := "paused"
                      details := [] }] := by
  simp only [pause, findRun, Co.settle_bind, Co.settle_get]
  cases w.runs runId <;> simp

theorem Signal.relied (signal : Signal) (point : Point) (w : World) :
    (Protocol.calm engine c).rely point w (signal.act runId w) := by
  have decided : ∀ requestId approver reason (status : ApprovalStatus),
      status = .approved ∨ status = .rejected →
      (Protocol.calm engine c).rely point w
        (w.decide requestId approver reason status) := by
    intro requestId approver reason status is
    refine ⟨decide_writes _ w requestId approver reason is, ?_⟩
    unfold World.decide
    split
    · exact ⟨rfl, fun _ halted => halted⟩
    · exact ⟨rfl, fun _ halted => halted⟩
  cases signal with
  | pause =>
      simp only [Signal.act, settle_pause]
      split
      · exact ⟨.refl, rfl, fun _ halted => halted⟩
      · next result registered =>
          refine ⟨.tail (.single (.control result.run (fun run =>
            { run with status := .paused }) fun _ => rfl)) (.effects _), rfl, fun ref halted => ?_⟩
          by_cases same : ref = result.run
          · subst same
            simp [haltsAfter]
          · rw [World.addEffects_objects, World.modifyRun_objects_of_ne _ _ _ _ same]
            exact halted
  | approve requestId approver reason => exact decided requestId approver reason _ (.inl rfl)
  | reject requestId approver reason => exact decided requestId approver reason _ (.inr rfl)
  | expireStale => exact ⟨.single .expire, rfl, fun _ halted => halted⟩
  | tick now => exact ⟨.single (.tick now), rfl, fun _ halted => halted⟩

theorem Signals.relied (signals : Signals) (i : Nat) (point : Point) (w : World) :
    (Protocol.calm engine c).rely point w (signals.env runId i w) := by
  have all : ∀ (arrived : List Signal) (w' : World),
      (Protocol.calm engine c).rely point w w' →
      (Protocol.calm engine c).rely point w
        (arrived.foldl (Signal.act runId) w') := by
    intro arrived
    induction arrived with
    | nil => exact fun w' relied => relied
    | cons signal rest ih =>
        intro w' relied
        have next : (Protocol.calm engine c).rely point w' (signal.act runId w') :=
          signal.relied point w'
        refine ih _ ⟨relied.1.trans next.1, next.2.1.trans relied.2.1, fun ref halted => ?_⟩
        exact next.2.2 ref (relied.2.2 ref halted)
  exact all _ w ⟨.refl, rfl, fun _ halted => halted⟩

theorem settleWith_writes {α : Type} {r : Res World EngineError Point α} {w : World}
    {Q : α → World → Prop} {E : EngineError → World → Prop}
    (meets : r.Meets (Protocol.calm engine c) Q E w) (signals : Signals) (i : Nat) :
    EngineWrites engine c w (r.settleWith (signals.env runId) i).1 := by
  refine (meets.settleWith (fun point s s' member => ?_) fun _ _ _ step => step.1).1
  obtain ⟨i, rfl⟩ := Res.mem_trace member
  exact signals.relied i point s

theorem RunCall.writes {w : World} (allocated : w.Allocated) {call : RunCall}
    (allowed : call.Allowed engine runId w) :
    EngineWrites engine (.sequential workflow) w (call.run engine workflow runId w) := by
  have obs : Observes engine (.sequential workflow) (Protocol.calm engine (.sequential workflow)) :=
    observes_calm fun _ _ => trivial
  cases call with
  | execute ref context signals =>
      exact settleWith_writes
        (keeps_execute obs rfl ref context w ⟨allocated, allowed.1, allowed.2⟩) signals 0
  | resumeAfterApproval approvalId context signals =>
      exact settleWith_writes (keeps_resumeAfterApproval obs rfl runId approvalId context
        (fun _ _ => ready_snoc _) (fun _ => ready_snoc _) w allocated) signals 0
  | resume =>
      exact ((keeps_resume obs runId none (by simp) w allocated).settle fun _ _ =>
        ⟨.refl, rfl, fun _ halted => halted⟩).1
  | meanwhile signal =>
      exact (signal.relied (.consumeApproval "") w).1

end writes

end SyndicateClaw.Orchestrator
