import SyndicateClaw.Async.Pool
import SyndicateClaw.Orchestrator.EngineSteps

/-! Histories of engine calls.

Any number of calls may be in flight. Between two moments at which one of them goes
on, approvers decide, stale requests expire and time passes. -/

namespace SyndicateClaw.Orchestrator

open Async

inductive EngineCall where
  | execute (ref : Nat) (context : ExecutionContext) (workflow : WorkflowDefinition)
  | pause (runId : String)
  | cancel (runId : String)
  | resume (runId : String) (fromNode : Option String)
  | resumeAfterApproval (runId approvalId : String) (workflow : WorkflowDefinition)
      (context : ExecutionContext)
  | replay (runId : String)

def EngineCall.run (engine : WorkflowEngine) : EngineCall → EngineM Unit
  | .execute ref context workflow => do let _ ← Orchestrator.execute engine ref context workflow
  | .pause runId => Orchestrator.pause runId
  | .cancel runId => Orchestrator.cancel runId
  | .resume runId fromNode => do let _ ← Orchestrator.resume runId fromNode
  | .resumeAfterApproval runId approvalId workflow context => do
      let _ ← Orchestrator.resumeAfterApproval engine runId approvalId workflow context
  | .replay runId => do let _ ← Orchestrator.replay engine runId

/-- What happens next: a call, the next segment of a call in flight, a decision on an
approval request, the expiry of stale requests, or a reading of the clock. -/
inductive Activity where
  | call (op : EngineCall)
  | proceed (i : Nat)
  | approve (requestId approver reason : String)
  | reject (requestId approver reason : String)
  | expireStale
  | tick (now : Instant)

def World.decide (w : World) (requestId approver reason : String) (status : ApprovalStatus) :
    World :=
  match decideApproval w.db requestId approver reason status w.now with
  | .ok db => { w with db }
  | .error _ => w

def Activity.move (engine : WorkflowEngine) : Activity → Move World EngineError Point Unit
  | .call op => .spawn (op.run engine)
  | .proceed i => .advance i
  | .approve requestId approver reason =>
      .external fun w => w.decide requestId approver reason .approved
  | .reject requestId approver reason =>
      .external fun w => w.decide requestId approver reason .rejected
  | .expireStale => .external fun w => { w with db := Orchestrator.expireStale w.db w.now }
  | .tick now => .external fun w => { w with now }

/-- The calls in flight and the world after the first `n` activities. -/
def poolAfter (engine : WorkflowEngine) (start : World) (activities : List Activity) (n : Nat) :
    Pool World EngineError Point Unit :=
  Pool.after ⟨start, []⟩ (activities.map (Activity.move engine)) n

abbrev worldAfter (engine : WorkflowEngine) (start : World) (activities : List Activity)
    (n : Nat) : World :=
  (poolAfter engine start activities n).state

/-- Calls that run side by side: nothing is known of the moment a loop is entered, and
a stopped run may be set running under a call. -/
def Conditions.concurrent (workflow : WorkflowDefinition → Prop)
    (boundary : Database → String → Prop) : Conditions :=
  { workflow, enter := fun _ => True, boundary, redirect := True, replay := True
    calm := False }

def Conditions.demand (c : Conditions) : Point → World → Prop
  | .persistApprovalBoundary _ requestId, w => c.boundary w.db requestId
  | _, _ => True

def EngineCall.Allowed (c : Conditions) (w : World) : EngineCall → Prop
  | .execute ref _ workflow => ref < w.nextObject ∧ c.workflow workflow
  | .resumeAfterApproval _ _ workflow _ => c.workflow workflow
  | _ => True

def Activity.Allowed (c : Conditions) (pool : Pool World EngineError Point Unit) :
    Activity → Prop
  | .call op => op.Allowed c pool.state
  | .proceed i => ∀ point k, pool.tasks[i]? = some (.suspended point k) →
      c.demand point pool.state
  | _ => True

section invariant

variable {engine : WorkflowEngine} {workflow : WorkflowDefinition → Prop}
  {boundary : Database → String → Prop}

theorem observes_concurrent :
    Observes engine (.concurrent workflow boundary)
      (Protocol.steps (EngineWrite engine (.concurrent workflow boundary))
        (Conditions.concurrent workflow boundary).demand) where
  rely step := step.1
  boundary step := step.2
  entered _ _ := trivial
  calm := nofun
  guarantee write := .single write

theorem EngineCall.keeps {w : World} (allocated : w.Allocated) {call : EngineCall}
    (allowed : call.Allowed (.concurrent workflow boundary) w) :
    (call.run engine w).Meets
      (Protocol.steps (EngineWrite engine (.concurrent workflow boundary))
        (Conditions.concurrent workflow boundary).demand) (fun _ _ => True) (fun _ _ => True) w := by
  have obs := @observes_concurrent engine workflow boundary
  cases call with
  | execute ref context definition =>
      exact Co.Triple.bind (keeps_execute obs allowed.2 ref context)
        (fun _ => Co.Triple.pure fun _ _ => trivial) w ⟨allocated, allowed.1, trivial⟩
  | pause runId => exact keeps_pause obs runId w allocated
  | cancel runId => exact keeps_cancel obs runId w allocated
  | resume runId fromNode =>
      exact Co.Triple.bind (keeps_resume obs runId fromNode fun _ => trivial)
        (fun _ => Co.Triple.pure fun _ _ => trivial) w allocated
  | resumeAfterApproval runId approvalId definition context =>
      exact Co.Triple.bind (keeps_resumeAfterApproval obs allowed runId approvalId context
        (fun _ _ => trivial) fun _ => trivial)
        (fun _ => Co.Triple.pure fun _ _ => trivial) w allocated
  | replay runId =>
      exact Co.Triple.bind (keeps_replay obs runId trivial)
        (fun _ => Co.Triple.pure fun _ _ => trivial) w allocated

theorem decide_writes (c : Conditions) (w : World) (requestId approver reason : String)
    {status : ApprovalStatus} (decided : status = .approved ∨ status = .rejected) :
    EngineWrites engine c w (w.decide requestId approver reason status) := by
  unfold World.decide
  split
  · next db accepted => exact .single (.decide requestId approver reason status db decided accepted)
  · exact .refl

theorem Activity.admitted {pool : Pool World EngineError Point Unit}
    (allocated : pool.state.Allocated) {activity : Activity}
    (allowed : activity.Allowed (.concurrent workflow boundary) pool) :
    pool.Admits (EngineWrite engine (.concurrent workflow boundary))
      (Conditions.concurrent workflow boundary).demand (activity.move engine) := by
  cases activity with
  | call op => exact EngineCall.keeps allocated allowed
  | proceed i => exact allowed
  | approve requestId approver reason =>
      exact decide_writes _ pool.state requestId approver reason (.inl rfl)
  | reject requestId approver reason =>
      exact decide_writes _ pool.state requestId approver reason (.inr rfl)
  | expireStale => exact Relation.ReflTransGen.single EngineWrite.expire
  | tick now => exact Relation.ReflTransGen.single (EngineWrite.tick now)

theorem history_invariant {I : World → Prop}
    (stable : Stable engine (.concurrent workflow boundary) I) {start : World} (first : I start)
    (allocated : start.Allocated) {activities : List Activity}
    (allowed : ∀ (n : Nat) (activity : Activity), activities[n]? = some activity →
      activity.Allowed (.concurrent workflow boundary) (poolAfter engine start activities n))
    (n : Nat) : I (worldAfter engine start activities n) := by
  have both := stable.and stable_allocated
  refine (@Pool.invariant _ _ _ _ _ (Conditions.concurrent workflow boundary).demand
    (fun w => I w ∧ w.Allocated) both start ⟨first, allocated⟩ _ ?_ n).1
  intro n move present holds
  rw [List.getElem?_map] at present
  obtain ⟨activity, found, rfl⟩ := Option.map_eq_some_iff.mp present
  exact activity.admitted holds.2 (allowed n activity found)

end invariant

end SyndicateClaw.Orchestrator
