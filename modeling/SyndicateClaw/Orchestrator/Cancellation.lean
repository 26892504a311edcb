import SyndicateClaw.Async.Solo
import SyndicateClaw.Orchestrator.ApprovalFinality
import SyndicateClaw.Orchestrator.EngineSteps

/-! Calls of the engine under a run that is cancelled.

Two of the engine's checks and most of its writes know nothing of CANCELLED. Here is
where a suspended call can go on without harm to a cancelled run, and that from there
every segment of the call leaves the cancellation as it is. -/

namespace SyndicateClaw.Orchestrator

open Async

def World.run? (w : World) (runId : String) : Option WorkflowRun :=
  (w.runs runId).map fun result => w.objects result.run

def World.runStatus (w : World) (runId : String) : Option WorkflowRunStatus :=
  (w.run? runId).map (·.status)

def World.rowStatus (w : World) (runId : String) : Option WorkflowRunStatus :=
  (w.db.runs runId).map (·.status)

def Event.starts : Event → Bool
  | .invoked _ _ _ attempt => attempt = 1
  | _ => false

/-- A cancelled run stays cancelled, in memory and in its row, and no node is started. -/
structure StaysCancelled (runId : String) (w w' : World) : Prop where
  memory : w.runStatus runId = some .cancelled → w'.runStatus runId = some .cancelled
  row : w.rowStatus runId = some .cancelled → w'.rowStatus runId = some .cancelled
  starts : w.runStatus runId = some .cancelled ∨ w.rowStatus runId = some .cancelled →
    ∃ events, w'.trail = w.trail ++ events ∧ ∀ event ∈ events, event.starts = false

/-! ### Where a call goes on without harm -/

def HandlerExit.spares (node : NodeDefinition) (attempt : Nat) : HandlerExit → Bool
  | .returned _ | .escaped _ => true
  | .failed _ => attempt < node.maxAttempts
  | _ => false

def lastResult (trail : List Event) : Option NodeResult :=
  match trail.getLast? with
  | some (.exited _ _ (.returned result)) => some result
  | _ => none

section spares

variable (engine : WorkflowEngine) (workflow : WorkflowDefinition) (runId : String)

def startable (nodeId : String) : Bool :=
  (workflow.node? nodeId).any fun node => (engine.handlers node.handler).isSome

/-- The loop comes to a node: it fails at a bound, or it starts the node unless the run is
stopped. -/
def comesSparing (next : String) (visited : List String) (w : World) : Bool :=
  if next ∈ visited ∨ engine.maxSteps ≤ visited.length then
    w.runStatus runId ≠ some .cancelled
  else
    (w.runStatus runId).all haltsBefore || !startable engine workflow next ||
      w.rowStatus runId ≠ some .cancelled

/-- The loop leaves a node: END completes the run, any other node has a successor. -/
def leavesSparing (w : World) : Bool :=
  match w.runs runId with
  | none => true
  | some result =>
      match result.currentNodeId.bind workflow.node? with
      | none => true
      | some node =>
          if node.nodeType = .endNode then w.runStatus runId ≠ some .cancelled
          else
            (((lastResult w.trail).bind (·.nextNodeId)).or (resolveNextNode node.id
              (w.objects result.run).state workflow.edges)).all fun next =>
                comesSparing engine workflow runId next result.visitedNodes w

def entersSparing (w : World) : Bool :=
  match findStartNode workflow, w.runs runId with
  | some startNode, some result =>
      comesSparing engine workflow runId
        (entryNode result.currentNodeId (w.objects result.run).state startNode) [] w
  | _, _ => true

/-- The handler's end, in the state it finds, does not change the status. -/
def handlerSparing (context : ExecutionContext) (nodeId : String) (attempt : Nat) (w : World) :
    Bool :=
  match w.run? runId, workflow.node? nodeId with
  | some run, some node =>
      (engine.handlers node.handler).all fun handler =>
        (handler (w.calls - 1) run.state
          { context with nodeId, config := node.config, attempt }).exit.spares node attempt
  | _, _ => true

/-- Whether a call suspended at a point can go on from a world without touching a
cancellation. -/
def sparing (context : ExecutionContext) : Point → World → Bool
  | .handler nodeId attempt, w => w.runStatus runId ≠ some .cancelled ||
      handlerSparing engine workflow runId context nodeId attempt w
  -- The transactions write the status of the run object to the row.
  | .persistRunAndNode _, w | .persistRunFailure, w | .persistApprovalBoundary _ _, w =>
      w.rowStatus runId ≠ some .cancelled || w.runStatus runId = some .cancelled
  | .audit .workflowStarted, w => entersSparing engine workflow runId w
  | .cacheState .executed, w => (w.runStatus runId).all haltsAfter ||
      (lastResult w.trail).any (·.shouldCheckpoint) || leavesSparing engine workflow runId w
  | .saveCheckpoint .executed, w => leavesSparing engine workflow runId w
  | .consumeApproval approvalId, w => w.runStatus runId ≠ some .cancelled ||
      !(consumeApproval w.now w.db runId approvalId).isOk
  | _, _ => true

end spares

/-! ### What every write amounts to -/

def World.Named (w : World) (runId : String) : Prop :=
  (∀ result, w.runs runId = some result → (w.objects result.run).id = runId) ∧
    ∀ row, w.db.runs runId = some row → row.id = runId

structure Permits (runId : String) (w w' : World) : Prop extends StaysCancelled runId w w' where
  named : w.Named runId → w'.Named runId

section permits

variable {runId : String} {w w' w'' : World}

theorem StaysCancelled.refl (runId : String) (w : World) : StaysCancelled runId w w :=
  ⟨id, id, fun _ => ⟨[], by simp, by simp⟩⟩

theorem StaysCancelled.trans (one : StaysCancelled runId w w')
    (two : StaysCancelled runId w' w'') : StaysCancelled runId w w'' := by
  refine ⟨two.memory ∘ one.memory, two.row ∘ one.row, fun cancelled => ?_⟩
  obtain ⟨events, first, quiet⟩ := one.starts cancelled
  obtain ⟨later, second, quiet'⟩ := two.starts (cancelled.imp one.memory one.row)
  refine ⟨events ++ later, by rw [second, first, List.append_assoc], fun event member => ?_⟩
  rcases List.mem_append.mp member with early | late
  · exact quiet event early
  · exact quiet' event late

theorem Permits.refl (runId : String) (w : World) : Permits runId w w := ⟨.refl runId w, id⟩

theorem Permits.trans (one : Permits runId w w') (two : Permits runId w' w'') :
    Permits runId w w'' :=
  ⟨one.toStaysCancelled.trans two.toStaysCancelled, two.named ∘ one.named⟩

theorem Permits.of_same (memory : w'.runStatus runId = w.runStatus runId)
    (db : w'.db.runs = w.db.runs) (trail : w'.trail = w.trail)
    (named : w.Named runId → w'.Named runId) : Permits runId w w' := by
  refine ⟨⟨fun cancelled => memory.trans cancelled, fun cancelled => ?_, fun _ => ?_⟩, named⟩
  · unfold World.rowStatus
    rw [db]
    exact cancelled
  · exact ⟨[], by rw [trail, List.append_nil], by simp⟩

theorem permits_effects (effects : List Effect) : Permits runId w (w.addEffects effects) :=
  .of_same rfl rfl rfl id

theorem permits_freshId : Permits runId w { w with ids := w.ids + 1 } := .of_same rfl rfl rfl id

theorem permits_calls (calls : Nat) : Permits runId w { w with calls } := .of_same rfl rfl rfl id

theorem permits_record (event : Event) (live : event.starts = true →
      w.runStatus runId ≠ some .cancelled ∧ w.rowStatus runId ≠ some .cancelled) :
    Permits runId w { w with trail := w.trail ++ [event] } := by
  refine ⟨⟨id, id, fun cancelled => ⟨[event], rfl, fun other member => ?_⟩⟩, id⟩
  obtain rfl := List.mem_singleton.mp member
  by_contra starts
  obtain ⟨memory, row⟩ := live (by simpa using starts)
  exact cancelled.elim memory row

theorem permits_modifyRun {ref : Nat} {f : WorkflowRun → WorkflowRun}
    (named : (f (w.objects ref)).id = (w.objects ref).id)
    (kept : (w.objects ref).status = .cancelled → (f (w.objects ref)).status = .cancelled) :
    Permits runId w (w.modifyRun ref f) := by
  refine ⟨⟨fun cancelled => ?_, id, fun _ => ⟨[], by simp, by simp⟩⟩, fun holds => ⟨?_, holds.2⟩⟩
  · unfold World.runStatus World.run? at cancelled ⊢
    rw [World.modifyRun_runs]
    cases registered : w.runs runId with
    | none =>
        rw [registered] at cancelled
        cases cancelled
    | some result =>
        rw [registered] at cancelled
        simp only [Option.map_some, Option.some.injEq] at cancelled ⊢
        by_cases same : result.run = ref
        · subst same
          rw [World.modifyRun_objects_self]
          exact kept cancelled
        · rw [World.modifyRun_objects_of_ne _ _ _ _ same]
          exact cancelled
  · intro result registered
    have before := holds.1 result registered
    by_cases same : result.run = ref
    · subst same
      rw [World.modifyRun_objects_self]
      exact named.trans before
    · rw [World.modifyRun_objects_of_ne _ _ _ _ same]
      exact before

section modifyResult

variable {id : String} {f : WorkflowRunResult → WorkflowRunResult}
  (same : ∀ result, (f result).run = result.run)

include same

theorem held_modifyResult :
    ((w.modifyResult id f).runs runId).map (·.run) = (w.runs runId).map (·.run) := by
  by_cases here : runId = id
  · subst here
    rw [World.modifyResult_runs_self, Option.map_map]
    congr 1
    funext result
    exact same result
  · simp only [World.modifyResult, Function.update_of_ne here]

theorem runStatus_modifyResult : (w.modifyResult id f).runStatus runId = w.runStatus runId := by
  have status : ∀ v : World, v.objects = w.objects →
      v.runStatus runId = ((v.runs runId).map (·.run)).map fun ref => (w.objects ref).status := by
    intro v objects
    simp only [World.runStatus, World.run?, Option.map_map, objects]
    rfl
  rw [status w rfl, status (w.modifyResult id f) rfl, held_modifyResult same]

theorem permits_modifyResult : Permits runId w (w.modifyResult id f) := by
  refine .of_same (runStatus_modifyResult same) rfl rfl fun holds =>
    ⟨fun result registered => ?_, holds.2⟩
  have held := @held_modifyResult runId w id f same
  rw [registered, Option.map_some] at held
  obtain ⟨old, present, run⟩ := Option.map_eq_some_iff.mp held.symm
  have named := holds.1 old present
  rw [run] at named
  exact named

end modifyResult

theorem permits_upsert {ref : Nat} {db : Database}
    (runs : db.runs = (w.db.upsertRun (w.objects ref)).runs)
    (kept : w.rowStatus runId = some .cancelled → (w.objects ref).status = .cancelled) :
    Permits runId w { w with db } := by
  refine ⟨⟨id, fun cancelled => ?_, fun _ => ⟨[], by simp, by simp⟩⟩, fun holds => ⟨holds.1, ?_⟩⟩
  · unfold World.rowStatus
    rw [show ({ w with db } : World).db.runs = _ from runs, Database.upsertRun_runs]
    by_cases here : runId = (w.objects ref).id
    · rw [here, Function.update_self, Option.map_some, Option.some.injEq]
      exact kept cancelled
    · rw [Function.update_of_ne here]
      exact cancelled
  · intro row stored
    rw [show ({ w with db } : World).db.runs = _ from runs, Database.upsertRun_runs] at stored
    by_cases here : runId = (w.objects ref).id
    · rw [here, Function.update_self, Option.some.injEq] at stored
      rw [← stored, here]
      rfl
    · rw [Function.update_of_ne here] at stored
      exact holds.2 row stored

end permits

/-! ### The protocol of a call -/

/-- What happens to the world outside a suspended call: the trail, the handler calls, the
engine's result and the names of run objects are left alone. -/
structure Drift (runId : String) (w w' : World) : Prop where
  trail : w'.trail = w.trail
  calls : w'.calls = w.calls
  runs : w'.runs runId = w.runs runId
  ids : ∀ ref, (w'.objects ref).id = (w.objects ref).id
  named : w.Named runId → w'.Named runId

theorem Drift.refl (runId : String) (w : World) : Drift runId w w :=
  ⟨rfl, rfl, rfl, fun _ => rfl, id⟩

theorem Drift.trans {runId : String} {w w' w'' : World} (one : Drift runId w w')
    (two : Drift runId w' w'') : Drift runId w w'' :=
  ⟨two.trail.trans one.trail, two.calls.trans one.calls, two.runs.trans one.runs,
    fun ref => (two.ids ref).trans (one.ids ref), two.named ∘ one.named⟩

/-- Calls that go on where they can, under changes that permit it. -/
def cancelSpace (engine : WorkflowEngine) (workflow : WorkflowDefinition) (runId : String) :
    Airspace World Point ExecutionContext where
  drift := Drift runId
  clear context point w := sparing engine workflow runId context point w = true
  guarantee := Permits runId
  drift_refl := .refl runId
  drift_trans := .trans
  refl := .refl runId
  trans := .trans

/-- The run object of the call, with what the engine's result says of the loop and what is
known of the trail. -/
structure InHand (runId : String) (ref : Nat) (visited : List String) (current : Option String)
    (T : List Event → Prop) (w : World) : Prop where
  registered : ∃ result, w.runs runId = some result ∧ result.run = ref ∧
    result.visitedNodes = visited ∧ result.currentNodeId = current
  named : (w.objects ref).id = runId
  trail : T w.trail

section inHand

variable {runId : String} {ref : Nat} {visited : List String} {current : Option String}
  {T T' : List Event → Prop} {w w' : World}

theorem InHand.run? (held : InHand runId ref visited current T w) :
    w.run? runId = some (w.objects ref) := by
  obtain ⟨result, registered, rfl, -⟩ := held.registered
  simp [World.run?, registered]

theorem InHand.runStatus (held : InHand runId ref visited current T w) :
    w.runStatus runId = some (w.objects ref).status := by
  rw [World.runStatus, held.run?, Option.map_some]

theorem InHand.mono (held : InHand runId ref visited current T w) (weaker : T w.trail → T' w.trail) :
    InHand runId ref visited current T' w :=
  ⟨held.registered, held.named, weaker held.trail⟩

theorem InHand.drift (held : InHand runId ref visited current T w) (drift : Drift runId w w') :
    InHand runId ref visited current T w' := by
  refine ⟨?_, (drift.ids ref).trans held.named, drift.trail ▸ held.trail⟩
  rw [drift.runs]
  exact held.registered

theorem InHand.of_same (held : InHand runId ref visited current T w)
    (runs : w'.runs = w.runs) (named : (w'.objects ref).id = (w.objects ref).id)
    (trail : w'.trail = w.trail) : InHand runId ref visited current T w' :=
  ⟨runs ▸ held.registered, named.trans held.named, trail ▸ held.trail⟩

theorem InHand.modifyRun (held : InHand runId ref visited current T w)
    {f : WorkflowRun → WorkflowRun} (named : (f (w.objects ref)).id = (w.objects ref).id) :
    InHand runId ref visited current T (w.modifyRun ref f) :=
  held.of_same rfl (by rw [World.modifyRun_objects_self, named]) rfl

end inHand

/-- A coroutine whose every segment permits a cancellation, wherever it can go on. -/
abbrev Permitted {α : Type} (engine : WorkflowEngine) (workflow : WorkflowDefinition)
    (runId : String) (context : ExecutionContext) (P : World → Prop) (m : EngineM α)
    (Q : α → World → Prop) : Prop :=
  Keeps ((cancelSpace engine workflow runId).protocol context) P m Q

section rules

variable {engine : WorkflowEngine} {workflow : WorkflowDefinition} {runId : String}
  {context : ExecutionContext} {ref : Nat} {visited : List String} {current : Option String}
  {T : List Event → Prop} {P : World → Prop}

theorem permitted_await {point : Point} {Q : Unit → World → Prop}
    (after : ∀ w w', P w → Drift runId w w' →
      sparing engine workflow runId context point w' = true → Q () w') :
    Permitted engine workflow runId context P (Co.await point) Q :=
  Co.Triple.await fun w w' holds step => after w w' holds step.1 step.2

theorem permitted_rest (point : Point) :
    Permitted engine workflow runId context (InHand runId ref visited current T) (Co.await point)
      fun _ => InHand runId ref visited current T :=
  permitted_await fun _ _ held drift _ => held.drift drift

theorem permitted_emitAudit (eventType : AuditEventType)
    (actor resourceType resourceId action : String) (details : State) :
    Permitted engine workflow runId context (InHand runId ref visited current T)
      (emitAudit eventType actor resourceType resourceId action details)
      fun _ => InHand runId ref visited current T :=
  Co.Triple.bind (Q := fun _ => InHand runId ref visited current T)
    (Co.Triple.modify fun _ held => ⟨permits_effects _, held.of_same rfl rfl rfl⟩)
    fun _ => permitted_rest _

theorem permitted_freshId :
    Permitted engine workflow runId context (InHand runId ref visited current T) (freshId engine)
      fun _ => InHand runId ref visited current T :=
  fun _ held => ⟨permits_freshId, held.of_same rfl rfl rfl⟩

theorem permitted_modifyRun {f : WorkflowRun → WorkflowRun} (named : ∀ run, (f run).id = run.id)
    (kept : ∀ w, P w → (w.objects ref).status = .cancelled →
      (f (w.objects ref)).status = .cancelled) :
    Permitted engine workflow runId context
      (fun w => InHand runId ref visited current T w ∧ P w) (modifyRun ref f)
      fun _ => InHand runId ref visited current T :=
  Co.Triple.modify fun w holds => ⟨permits_modifyRun (named _) (kept w holds.2),
    holds.1.modifyRun (named _)⟩

theorem permitted_steady {f : WorkflowRun → WorkflowRun} (named : ∀ run, (f run).id = run.id)
    (status : ∀ run, (f run).status = run.status) :
    Permitted engine workflow runId context (InHand runId ref visited current T) (modifyRun ref f)
      fun _ => InHand runId ref visited current T :=
  (permitted_modifyRun (P := fun _ => True) named
    fun _ _ cancelled => (status _).trans cancelled).conseq
      (fun _ held => ⟨held, trivial⟩) (fun _ _ held => held) fun _ _ holds => holds

theorem permitted_persistCheckpoint (stage : Stage) :
    Permitted engine workflow runId context (InHand runId ref visited current T)
      (persistCheckpoint engine ref stage) fun _ => InHand runId ref visited current T :=
  Co.Triple.bind (permitted_steady (fun _ => rfl) fun _ => rfl) fun _ => permitted_rest _

theorem permitted_commit {point : Point} {f : WorkflowRun → Database → Database}
    (writes : ∀ run db, (f run db).runs = (db.upsertRun run).runs)
    (spares : ∀ w, sparing engine workflow runId context point w = true →
      w.rowStatus runId = some .cancelled → w.runStatus runId = some .cancelled) :
    Permitted engine workflow runId context (InHand runId ref visited current T)
      (do Co.await point; let run ← readRun ref; modifyDb (f run))
      fun _ => InHand runId ref visited current T := by
  refine Co.Triple.bind (Q := fun _ w => InHand runId ref visited current T w ∧
      (w.rowStatus runId = some .cancelled → (w.objects ref).status = .cancelled)) ?_ fun _ => ?_
  · apply permitted_await
    intro w w' held drift spared
    have held' := held.drift drift
    refine ⟨held', fun row => ?_⟩
    have memory := spares w' spared row
    rw [held'.runStatus] at memory
    exact Option.some.inj memory
  refine Co.Triple.bind keeps_readRun fun run => ?_
  apply Co.Triple.modify
  intro w holds
  obtain ⟨rfl, held, kept⟩ := holds
  exact ⟨permits_upsert (writes _ _) kept, held.of_same rfl rfl rfl⟩

theorem permitted_persistRunFailure :
    Permitted engine workflow runId context (InHand runId ref visited current T)
      (persistRunFailure engine ref) fun _ => InHand runId ref visited current T := by
  unfold persistRunFailure
  split
  · apply permitted_commit
    · exact fun _ _ => rfl
    · intro w spared row
      simpa [sparing, row] using spared
  · exact Co.Triple.pure fun _ held => held

theorem permitted_persistRunAndNode (execution : NodeExecution) :
    Permitted engine workflow runId context (InHand runId ref visited current T)
      (persistRunAndNode engine ref execution) fun _ => InHand runId ref visited current T := by
  unfold persistRunAndNode
  split
  · apply permitted_commit
    · exact fun _ _ => rfl
    · intro w spared row
      simpa [sparing, row] using spared
  · exact Co.Triple.pure fun _ held => held

theorem permitted_persistApprovalBoundary (execution : NodeExecution) (request : ApprovalRequest) :
    Permitted engine workflow runId context (InHand runId ref visited current T)
      (persistApprovalBoundary engine ref execution request)
      fun _ => InHand runId ref visited current T := by
  unfold persistApprovalBoundary
  split
  · apply permitted_commit
    · exact fun _ _ => rfl
    · intro w spared row
      simpa [sparing, row] using spared
  · exact Co.Triple.pure fun _ held => held

theorem permitted_raiseExecutionBoundFailure {α : Type} {Q : α → World → Prop}
    (reason message : String) (cyclePath : List String) (stepCount : Nat) :
    Permitted engine workflow runId context
      (fun w => InHand runId ref visited current T w ∧ w.runStatus runId ≠ some .cancelled)
      (raiseExecutionBoundFailure engine ref workflow reason message cyclePath stepCount) Q := by
  refine Co.Triple.bind keeps_utcnow fun now => ?_
  refine Co.Triple.bind (Q := fun _ => InHand runId ref visited current T) ?_ fun _ => ?_
  · apply Co.Triple.modify
    intro w holds
    obtain ⟨-, held, live⟩ := holds
    refine ⟨permits_modifyRun rfl fun cancelled => ?_, held.modifyRun rfl⟩
    rw [held.runStatus, cancelled] at live
    exact absurd rfl live
  refine Co.Triple.bind (permitted_rest _) fun _ => ?_
  refine Co.Triple.bind permitted_persistRunFailure fun _ => ?_
  refine Co.Triple.bind keeps_readRun fun run => ?_
  refine Co.Triple.bind (Q := fun _ _ => True) ?_ fun _ => Co.Triple.raise fun _ _ => trivial
  refine Co.Triple.bind keeps_utcnow fun now => ?_
  exact (permitted_emitAudit _ _ _ _ _ _).conseq (fun _ holds => holds.2.2)
    (fun _ _ _ => trivial) fun _ _ holds => holds

end rules

/-! ### Node execution -/

/-- A result says of the next node and the checkpoint what the last handler said. -/
def NodeResult.Agrees (result : NodeResult) (trail : List Event) : Prop :=
  result.nextNodeId = (lastResult trail).bind (·.nextNodeId) ∧
    result.shouldCheckpoint = (lastResult trail).any (·.shouldCheckpoint)

/-- The attempts are over, and the node's result agrees with the trail. -/
def Attempts.Agree (attempts : Attempts) (trail : List Event) : Prop :=
  attempts.approvalInterrupt = none → ∀ result, attempts.result = some result → result.Agrees trail

theorem agrees_of_exited {trail : List Event} {runId nodeId : String} {exit : HandlerExit}
    (last : trail.getLast? = some (.exited runId nodeId exit))
    (other : ∀ result, exit ≠ .returned result) (outputState : State) :
    NodeResult.Agrees { outputState } trail := by
  have none : lastResult trail = none := by
    unfold lastResult
    rw [last]
    cases exit with
    | returned result => exact absurd rfl (other result)
    | _ => rfl
  constructor <;> simp [none]

section node

variable {engine : WorkflowEngine} {workflow : WorkflowDefinition} {runId : String}
  {context : ExecutionContext} {ref : Nat} {visited : List String} {current : Option String}
  {T : List Event → Prop} {node : NodeDefinition}

abbrev attemptContext (context : ExecutionContext) (node : NodeDefinition) (attempt : Nat) :
    ExecutionContext :=
  { context with nodeId := node.id, config := node.config, attempt }

theorem permitted_callHandler {handler : NodeHandler} {attempt : Nat}
    (found : workflow.node? node.id = some node)
    (present : engine.handlers node.handler = some handler) :
    Permitted engine workflow runId context
      (fun w => InHand runId ref visited current T w ∧ (attempt = 1 →
        (w.objects ref).status ≠ .cancelled ∧ w.rowStatus runId ≠ some .cancelled))
      (callHandler handler ref node (attemptContext context node attempt))
      fun exit w =>
        InHand runId ref visited current
          (fun trail => trail.getLast? = some (.exited runId node.id exit)) w ∧
        ((w.objects ref).status = .cancelled → exit.spares node attempt = true) := by
  intro w holds
  obtain ⟨held, live⟩ := holds
  rw [callHandler_eq]
  have invoked : Permits runId w (w.invoke (w.objects ref).id node attempt) := by
    refine (permits_calls (w.calls + 1)).trans (permits_record _ fun starts => ?_)
    obtain ⟨memory, row⟩ := live (by simpa [Event.starts] using starts)
    refine ⟨fun cancelled => memory ?_, row⟩
    have status := held.runStatus
    rw [show w.runStatus runId = some .cancelled from cancelled] at status
    exact (Option.some.inj status).symm
  refine ⟨invoked, fun w' step => ?_⟩
  obtain ⟨drift, spared⟩ := step
  have suspended : InHand runId ref visited current (fun _ => True)
      (w.invoke (w.objects ref).id node attempt) :=
    ⟨held.registered, held.named, trivial⟩
  have held' := suspended.drift drift
  have index : w'.calls - 1 = w.calls := by
    rw [drift.calls]
    exact Nat.add_sub_cancel w.calls 1
  dsimp only
  generalize ends : handler w.calls (w'.objects ref).state (attemptContext context node attempt) =
    outcome
  have handled : Permits runId w' (w'.handled ref (w'.objects ref).id node outcome) := by
    have left : Permits runId w'
        (w'.modifyRun ref fun run => { run with state := outcome.state }) :=
      permits_modifyRun rfl id
    refine left.trans ?_
    exact (permits_effects outcome.effects).trans (permits_record _ fun starts => by cases starts)
  refine ⟨handled, ⟨held'.registered, ?_, ?_⟩, fun cancelled => ?_⟩
  · simp [World.handled, held'.named]
  · simp [World.handled, held'.named]
  · have status : (w'.objects ref).status = .cancelled := by
      simpa [World.handled] using cancelled
    have memory := held'.runStatus
    rw [status] at memory
    simpa [cancelSpace, sparing, memory, handlerSparing, held'.run?, found, present, index, ends]
      using spared

theorem permitted_prepareApprovalInterrupt (exc : WaitForApprovalError) (execution : NodeExecution) :
    Permitted engine workflow runId context (InHand runId ref visited current T)
      (prepareApprovalInterrupt engine exc node ref execution)
      fun _ => InHand runId ref visited current T := by
  refine Co.Triple.bind permitted_freshId fun fresh => ?_
  refine Co.Triple.bind keeps_utcnow fun now => ?_
  refine Co.Triple.bind keeps_readRun fun run => ?_
  cases approvalRequestForInterrupt engine.platform fresh now exc node run execution with
  | none => exact Co.Triple.raise fun _ _ => trivial
  | some request =>
      refine Co.Triple.bind (Q := fun _ => InHand runId ref visited current T) ?_ fun _ => ?_
      · apply Co.Triple.modify
        intro w holds
        exact ⟨permits_modifyRun rfl id, holds.2.2.modifyRun rfl⟩
      refine Co.Triple.bind (permitted_persistCheckpoint _) fun _ => ?_
      refine Co.Triple.bind (permitted_rest _) fun _ => ?_
      refine Co.Triple.bind (permitted_persistApprovalBoundary execution request) fun _ => ?_
      refine Co.Triple.bind keeps_readRun fun run => ?_
      refine Co.Triple.bind (Q := fun _ => InHand runId ref visited current T) ?_
        fun _ => Co.Triple.pure fun _ held => held
      refine Co.Triple.bind keeps_utcnow fun now => ?_
      exact (permitted_emitAudit _ _ _ _ _ _).conseq (fun _ holds => holds.2.2)
        (fun _ _ held => held) fun _ _ holds => holds

theorem permitted_settleHalted {f : WorkflowRun → WorkflowRun} (named : ∀ run, (f run).id = run.id)
    {exit : HandlerExit} {attempt : Nat} (other : ∀ result, exit ≠ .returned result)
    (sets : exit.spares node attempt = false) {made : WorkflowRun → Instant → Attempts}
    (left : ∀ run now, (made run now).result = some { outputState := run.state }) :
    Permitted engine workflow runId context
      (fun w =>
        InHand runId ref visited current
          (fun trail => trail.getLast? = some (.exited runId node.id exit)) w ∧
        ((w.objects ref).status = .cancelled → exit.spares node attempt = true))
      (do
        modifyRun ref f
        let run ← readRun ref
        let now ← utcnow
        return some (made run now))
      fun attempts => InHand runId ref visited current
        fun trail => ∀ made, attempts = some made → made.Agree trail := by
  refine Co.Triple.bind (permitted_modifyRun named fun w spares cancelled => ?_) fun _ => ?_
  · rw [sets] at spares
    exact absurd (spares cancelled) Bool.false_ne_true
  refine Co.Triple.bind keeps_readRun fun run => ?_
  refine Co.Triple.bind keeps_utcnow fun now => ?_
  apply Co.Triple.pure
  intro w holds
  refine holds.2.2.mono fun last attempts same _ result is => ?_
  obtain rfl := Option.some.inj same
  rw [left run now] at is
  obtain rfl := Option.some.inj is
  exact agrees_of_exited last other run.state

theorem permitted_settleAttempt {execution : NodeExecution} {attempt : Nat} {lastAttempt : Bool}
    (last : lastAttempt = true → node.maxAttempts ≤ attempt) (exit : HandlerExit) :
    Permitted engine workflow runId context
      (fun w =>
        InHand runId ref visited current
          (fun trail => trail.getLast? = some (.exited runId node.id exit)) w ∧
        ((w.objects ref).status = .cancelled → exit.spares node attempt = true))
      (settleAttempt engine ref node execution lastAttempt exit)
      fun attempts => InHand runId ref visited current
        fun trail => ∀ made, attempts = some made → made.Agree trail := by
  cases exit with
  | returned result =>
      refine Co.Triple.bind (permitted_modifyRun (fun _ => rfl) fun _ _ cancelled => cancelled)
        fun _ => ?_
      refine Co.Triple.bind keeps_readRun fun run => ?_
      refine Co.Triple.bind keeps_utcnow fun now => ?_
      apply Co.Triple.pure
      intro w holds
      refine holds.2.2.mono fun ended attempts same _ value is => ?_
      obtain rfl := Option.some.inj same
      obtain rfl := Option.some.inj is
      simp [NodeResult.Agrees, lastResult, ended]
  | pauseExecution =>
      apply permitted_settleHalted
      · exact fun _ => rfl
      · exact fun _ => HandlerExit.noConfusion
      · rfl
      · exact fun _ _ => rfl
  | waitForApproval exc =>
      refine Co.Triple.bind (permitted_modifyRun (fun _ => rfl) fun w spares cancelled => ?_)
        fun _ => ?_
      · exact absurd (spares cancelled) Bool.false_ne_true
      refine Co.Triple.bind keeps_readRun fun run => ?_
      refine Co.Triple.bind keeps_utcnow fun now => ?_
      refine Co.Triple.bind ((permitted_prepareApprovalInterrupt exc _).conseq
        (fun _ holds => holds.2.2) (fun _ _ held => held) fun _ _ holds => holds) fun interrupt => ?_
      refine Co.Triple.bind keeps_readRun fun run => ?_
      apply Co.Triple.pure
      intro w holds
      refine holds.2.mono fun _ attempts same asks => ?_
      obtain rfl := Option.some.inj same
      cases asks
  | waitForAgentResponse =>
      apply permitted_settleHalted
      · exact fun _ => rfl
      · exact fun _ => HandlerExit.noConfusion
      · rfl
      · exact fun _ _ => rfl
  | failed message =>
      cases lastAttempt with
      | true =>
          have sets : (HandlerExit.failed message).spares node attempt = false := by
            simpa [HandlerExit.spares] using last rfl
          simp only [settleAttempt, if_true]
          apply permitted_settleHalted
          · exact fun _ => rfl
          · exact fun _ => HandlerExit.noConfusion
          · exact sets
          · exact fun _ _ => rfl
      | false =>
          simp only [settleAttempt, Bool.false_eq_true, if_false]
          apply Co.Triple.pure
          intro w holds
          exact holds.1.mono fun _ attempts same => by cases same
  | escaped message => exact Co.Triple.raise fun _ _ => trivial

theorem permitted_attemptNode {handler : NodeHandler}
    (found : workflow.node? node.id = some node)
    (present : engine.handlers node.handler = some handler) (multiplier : Rat)
    (left attempt : Nat) (within : attempt + left = node.maxAttempts + 1) (counted : attempt ≠ 0)
    (delay : Rat) (execution : NodeExecution) (T : List Event → Prop) :
    Permitted engine workflow runId context
      (fun w => InHand runId ref visited current T w ∧ (attempt = 1 →
        (w.objects ref).status ≠ .cancelled ∧ w.rowStatus runId ≠ some .cancelled))
      (attemptNode engine handler ref node { context with nodeId := node.id, config := node.config }
        multiplier left attempt delay execution)
      fun attempts => InHand runId ref visited current attempts.Agree := by
  induction left generalizing attempt delay execution T with
  | zero =>
      apply Co.Triple.pure
      intro w holds
      exact holds.1.mono fun _ _ result is => by cases is
  | succ left ih =>
      refine Co.Triple.bind (permitted_callHandler found present) fun exit => ?_
      have last : decide (left = 0) = true → node.maxAttempts ≤ attempt := by
        intro final
        have zero := of_decide_eq_true final
        omega
      refine Co.Triple.bind (permitted_settleAttempt last exit) fun attempts => ?_
      cases attempts with
      | some made =>
          apply Co.Triple.pure
          intro w held
          exact held.mono fun agree => agree made rfl
      | none =>
          refine Co.Triple.bind (permitted_rest _) fun _ => ?_
          refine (ih (attempt + 1) (by omega) (by omega) (delay * multiplier) _ _).conseq
            (fun w held => ⟨held, fun first => ?_⟩) (fun _ _ held => held) fun _ _ holds => holds
          omega

theorem permitted_finishNode (attempts : Attempts) :
    Permitted engine workflow runId context (InHand runId ref visited current attempts.Agree)
      (finishNode engine ref runId node attempts)
      fun result => InHand runId ref visited current result.Agrees := by
  refine Co.Triple.bind (Q := fun _ => InHand runId ref visited current attempts.Agree) ?_
    fun _ => ?_
  · apply Co.Triple.modify
    intro w held
    refine ⟨permits_modifyResult fun _ => rfl, ?_, held.named, held.trail⟩
    obtain ⟨result, registered, run, place⟩ := held.registered
    exact ⟨{ result with nodeExecutions := result.nodeExecutions ++ [attempts.execution] },
      by rw [World.modifyResult_runs_self, registered, Option.map_some], run, place⟩
  rcases attempts with ⟨execution, _ | result, _ | interrupt⟩
  · exact Co.Triple.raise fun _ _ => trivial
  · exact Co.Triple.raise fun _ _ => trivial
  · have agreed : ∀ w, InHand runId ref visited current
        (Attempts.Agree ⟨execution, some result, none⟩) w →
          InHand runId ref visited current result.Agrees w :=
      fun w held => held.mono fun agree => agree rfl result rfl
    refine Co.Triple.bind (permitted_steady (fun _ => rfl) fun _ => rfl) fun _ => ?_
    refine Co.Triple.bind (permitted_persistRunAndNode execution) fun _ => ?_
    by_cases completed : execution.status = .completed
    · simp only [completed, if_true]
      exact Co.Triple.bind (permitted_rest _) fun _ => Co.Triple.pure agreed
    · simp only [completed, if_false]
      exact Co.Triple.pure agreed
  · exact Co.Triple.raise fun _ _ => trivial

theorem permitted_executeNode (found : workflow.node? node.id = some node) :
    Permitted engine workflow runId context
      (fun w =>
        InHand runId ref visited current
          (fun trail => trail.getLast? = some (.dispatched runId node.id)) w ∧
        (w.objects ref).status ≠ .cancelled ∧
        (startable engine workflow node.id = true → w.rowStatus runId ≠ some .cancelled))
      (executeNode engine ref runId { context with nodeId := node.id } node)
      fun result => InHand runId ref visited current result.Agrees := by
  unfold executeNode
  cases present : engine.handlers node.handler with
  | none =>
      refine Co.Triple.bind (permitted_modifyRun (fun _ => rfl) fun w holds cancelled =>
        absurd cancelled holds.1) fun _ => ?_
      refine Co.Triple.bind keeps_readRun fun run => ?_
      apply Co.Triple.pure
      intro w holds
      refine holds.2.mono fun last => ?_
      simp [NodeResult.Agrees, lastResult, last]
  | some handler =>
      have starts : startable engine workflow node.id = true := by simp [startable, found, present]
      refine Co.Triple.bind (Q := fun _ w =>
        InHand runId ref visited current
          (fun trail => trail.getLast? = some (.dispatched runId node.id)) w ∧
        (w.objects ref).status ≠ .cancelled ∧ w.rowStatus runId ≠ some .cancelled) ?_ fun id => ?_
      · intro w holds
        exact ⟨permits_freshId, holds.1.of_same rfl rfl rfl, holds.2.1, holds.2.2 starts⟩
      refine Co.Triple.bind keeps_readRun fun run => ?_
      refine Co.Triple.bind keeps_utcnow fun now => ?_
      refine Co.Triple.bind ?_ fun attempts => permitted_finishNode attempts
      exact (permitted_attemptNode found present _ _ 1 (Nat.add_comm _ _) Nat.one_ne_zero _ _
        _).conseq (fun w holds => ⟨holds.2.2.1, fun _ => holds.2.2.2⟩) (fun _ _ held => held)
          fun _ _ holds => holds

end node

/-! ### The execution loop -/

section loop

variable {engine : WorkflowEngine} {workflow : WorkflowDefinition} {runId : String}
  {context : ExecutionContext} {ref : Nat} {visited : List String} {current : Option String}

def GoesOn (engine : WorkflowEngine) (workflow : WorkflowDefinition) (runId : String)
    (visited : List String) (next : Option String) (w : World) : Prop :=
  ∀ node, next = some node → comesSparing engine workflow runId node visited w = true

theorem permitted_completeRun :
    Permitted engine workflow runId context
      (fun w => InHand runId ref visited current (fun _ => True) w ∧
        (w.objects ref).status ≠ .cancelled)
      (completeRun ref workflow)
      fun _ => InHand runId ref visited current fun _ => True := by
  refine Co.Triple.bind keeps_utcnow fun now => ?_
  refine Co.Triple.bind (Q := fun _ => InHand runId ref visited current fun _ => True) ?_
    fun _ => ?_
  · apply Co.Triple.modify
    intro w holds
    obtain ⟨-, held, live⟩ := holds
    exact ⟨permits_modifyRun rfl fun cancelled => absurd cancelled live, held.modifyRun rfl⟩
  refine Co.Triple.bind (permitted_rest _) fun _ => ?_
  refine Co.Triple.bind keeps_readRun fun run => ?_
  exact (permitted_emitAudit _ _ _ _ _ _).conseq (fun _ holds => holds.2) (fun _ _ held => held)
    fun _ _ holds => holds

theorem permitted_leave {node : NodeDefinition} (found : workflow.node? node.id = some node)
    (result : NodeResult) :
    Permitted engine workflow runId context
      (fun w => InHand runId ref visited (some node.id) result.Agrees w ∧
        leavesSparing engine workflow runId w = true)
      (if node.nodeType = .endNode then do
        completeRun ref workflow
        return .stop
      else do
        let run ← readRun ref
        let next := result.nextNodeId.or (resolveNextNode node.id run.state workflow.edges)
        record (.chose run.id node.id next)
        return LoopExit.goTo next)
      fun exit w => InHand runId ref visited (some node.id) (fun _ => True) w ∧
        ∀ next, exit = .goTo next → GoesOn engine workflow runId visited next w := by
  have leaves : ∀ w, InHand runId ref visited (some node.id) result.Agrees w →
      leavesSparing engine workflow runId w = true →
        if node.nodeType = .endNode then (w.objects ref).status ≠ .cancelled
        else GoesOn engine workflow runId visited
          (result.nextNodeId.or (resolveNextNode node.id (w.objects ref).state workflow.edges)) w := by
    intro w held spared
    have status := held.runStatus
    obtain ⟨result', registered, rfl, visits, at_node⟩ := held.registered
    simp only [leavesSparing, registered, at_node, Option.bind_some, found, status] at spared
    split_ifs at spared ⊢ with ends
    · simpa using spared
    · intro next is
      rw [← held.trail.1, is, visits] at spared
      simpa using spared
  split
  · next ends =>
      refine Co.Triple.bind (Q := fun _ => InHand runId ref visited (some node.id) fun _ => True)
        (permitted_completeRun.conseq (fun w holds => ⟨holds.1.mono fun _ => trivial, ?_⟩)
          (fun _ _ held => held) fun _ _ holds => holds) fun _ => ?_
      · have live := leaves w holds.1 holds.2
        rwa [if_pos ends] at live
      · exact Co.Triple.pure fun w held => ⟨held, fun _ goes => by cases goes⟩
  · next other =>
      refine Co.Triple.bind keeps_readRun fun run => ?_
      refine Co.Triple.bind (Q := fun _ w =>
        InHand runId ref visited (some node.id) (fun _ => True) w ∧
        GoesOn engine workflow runId visited
          (result.nextNodeId.or (resolveNextNode node.id run.state workflow.edges)) w) ?_ fun _ => ?_
      · apply Co.Triple.modify
        intro w holds
        obtain ⟨rfl, held, spared⟩ := holds
        have goes := leaves w held spared
        rw [if_neg other] at goes
        exact ⟨permits_record _ fun starts => (by cases starts),
          ⟨held.registered, held.named, trivial⟩, goes⟩
      · apply Co.Triple.pure
        intro w holds
        refine ⟨holds.1, fun next goes => ?_⟩
        obtain rfl := LoopExit.goTo.inj goes
        exact holds.2

theorem permitted_advance {node : NodeDefinition} (found : workflow.node? node.id = some node)
    (result : NodeResult) :
    Permitted engine workflow runId context
      (InHand runId ref visited (some node.id) result.Agrees)
      (advance engine ref workflow node result)
      fun exit w => InHand runId ref visited (some node.id) (fun _ => True) w ∧
        ∀ next, exit = .goTo next → GoesOn engine workflow runId visited next w := by
  refine Co.Triple.bind (Q := fun _ w =>
    InHand runId ref visited (some node.id) result.Agrees w ∧
    (haltsAfter (w.objects ref).status = false → result.shouldCheckpoint = false →
      leavesSparing engine workflow runId w = true)) ?_ fun _ => ?_
  · apply permitted_await
    intro w w' held drift spared
    have held' := held.drift drift
    refine ⟨held', fun running unsaved => ?_⟩
    simp only [sparing, held'.runStatus, Option.all_some, running, ← held'.trail.2, unsaved,
      Bool.false_or] at spared
    exact spared
  refine Co.Triple.bind keeps_readRun fun run => ?_
  split
  · apply Co.Triple.pure
    intro w holds
    exact ⟨holds.2.1.mono fun _ => trivial, fun _ goes => by cases goes⟩
  next halts =>
  have running : haltsAfter run.status = false := by simpa using halts
  by_cases saves : result.shouldCheckpoint = true
  · rw [if_pos saves]
    refine Co.Triple.bind (Q := fun _ w =>
      InHand runId ref visited (some node.id) result.Agrees w ∧
        leavesSparing engine workflow runId w = true) ?_ fun _ => permitted_leave found result
    refine Co.Triple.bind (Q := fun _ => InHand runId ref visited (some node.id) result.Agrees) ?_
      fun _ => permitted_await fun w w' held drift spared => ⟨held.drift drift, spared⟩
    apply Co.Triple.modify
    intro w holds
    exact ⟨permits_modifyRun rfl id, holds.2.1.modifyRun rfl⟩
  · rw [if_neg saves]
    refine (permitted_leave found result).conseq (fun w holds => ?_) (fun _ _ held => held)
      fun _ _ holds => holds
    obtain ⟨rfl, held, spared⟩ := holds
    exact ⟨held, spared running (by simpa using saves)⟩

theorem permitted_visitNode {node : String} :
    Permitted engine workflow runId context
      (fun w => InHand runId ref visited current (fun _ => True) w ∧
        (haltsBefore (w.objects ref).status = false → startable engine workflow node = true →
          w.rowStatus runId ≠ some .cancelled))
      (visitNode engine ref runId context workflow node)
      fun exit w => (∃ current, InHand runId ref visited current (fun _ => True) w) ∧
        ∀ next, exit = .goTo next → GoesOn engine workflow runId visited next w := by
  refine Co.Triple.bind keeps_readRun fun run => ?_
  split
  · apply Co.Triple.pure
    intro w holds
    exact ⟨⟨current, holds.2.1⟩, fun _ goes => by cases goes⟩
  next halts =>
  have running : haltsBefore run.status = false := by simpa using halts
  have live : run.status ≠ .cancelled := by
    intro cancelled
    rw [cancelled] at running
    cases running
  cases found : workflow.node? node with
  | none =>
      refine Co.Triple.bind (Q := fun _ => InHand runId ref visited current fun _ => True) ?_
        fun _ => ?_
      · apply Co.Triple.modify
        intro w holds
        obtain ⟨rfl, held, -⟩ := holds
        exact ⟨permits_modifyRun rfl fun cancelled => absurd cancelled live, held.modifyRun rfl⟩
      · apply Co.Triple.pure
        intro w held
        exact ⟨⟨current, held⟩, fun _ goes => by cases goes⟩
  | some definition =>
      obtain rfl := node?_id workflow found
      refine Co.Triple.bind (Q := fun _ w =>
        InHand runId ref visited (some definition.id)
          (fun trail => trail.getLast? = some (.dispatched runId definition.id)) w ∧
        (w.objects ref).status ≠ .cancelled ∧ (startable engine workflow definition.id = true →
          w.rowStatus runId ≠ some .cancelled)) ?_ fun _ => ?_
      · apply Co.Triple.modify
        intro w holds
        obtain ⟨rfl, held, starts⟩ := holds
        refine ⟨?_, ⟨?_, held.named, by simp [World.dispatch]⟩, live, starts running⟩
        · have moved : Permits runId w
              (w.modifyResult runId fun result =>
                { result with currentNodeId := some definition.id }) :=
            permits_modifyResult fun _ => rfl
          exact moved.trans (permits_record (.dispatched runId definition.id) fun starts =>
            (by cases starts))
        · obtain ⟨result, registered, run, visits, -⟩ := held.registered
          exact ⟨{ result with currentNodeId := some definition.id },
            by simp [World.dispatch, registered], run, visits, rfl⟩
      refine Co.Triple.bind (permitted_executeNode found) fun result => ?_
      exact (permitted_advance found result).conseq (fun _ held => held)
        (fun _ _ holds => ⟨⟨_, holds.1⟩, holds.2⟩) fun _ _ holds => holds

theorem permitted_progress {P : World → Prop}
    (stepCount : Option Nat) (visitedNodes : List String)
    (kept : ∀ w, P w → P (w.modifyResult runId fun result =>
      { result with stepCount := stepCount.getD result.stepCount, visitedNodes })) :
    Permitted engine workflow runId context
      (fun w => InHand runId ref visited current (fun _ => True) w ∧ P w)
      (modifyResult runId fun result =>
        { result with stepCount := stepCount.getD result.stepCount, visitedNodes })
      fun _ w => InHand runId ref visitedNodes current (fun _ => True) w ∧ P w := by
  apply Co.Triple.modify
  intro w holds
  obtain ⟨held, known⟩ := holds
  refine ⟨permits_modifyResult fun _ => rfl, ⟨?_, held.named, trivial⟩, kept w known⟩
  obtain ⟨result, registered, run, -, place⟩ := held.registered
  exact ⟨{ result with stepCount := stepCount.getD result.stepCount, visitedNodes },
    by rw [World.modifyResult_runs_self, registered, Option.map_some], run, rfl, place⟩

theorem comesSparing_congr {w w' : World} {next : String}
    (memory : w'.runStatus runId = w.runStatus runId)
    (row : w'.rowStatus runId = w.rowStatus runId) :
    comesSparing engine workflow runId next visited w' =
      comesSparing engine workflow runId next visited w := by
  unfold comesSparing
  rw [memory, row]

theorem permitted_executeLoop (fuel : Nat) (visited : List String) (next : Option String) :
    Permitted engine workflow runId context
      (fun w => (∃ visits current, InHand runId ref visits current (fun _ => True) w) ∧
        GoesOn engine workflow runId visited next w)
      (executeLoop engine ref runId context workflow fuel visited.length visited next)
      fun _ _ => True := by
  induction fuel generalizing visited next with
  | zero =>
      cases next with
      | none => exact Co.Triple.pure fun _ _ => trivial
      | some node => exact Co.Triple.raise fun _ _ => trivial
  | succ fuel ih =>
      cases next with
      | none => exact Co.Triple.pure fun _ _ => trivial
      | some node =>
          intro w holds
          obtain ⟨⟨visits, current, held⟩, goes⟩ := holds
          suffices loop : Permitted engine workflow runId context
              (fun w => InHand runId ref visits current (fun _ => True) w ∧
                comesSparing engine workflow runId node visited w = true)
              (executeLoop engine ref runId context workflow (fuel + 1) visited.length visited
                (some node)) fun _ _ => True from loop w ⟨held, goes node rfl⟩
          clear held goes w
          have kept : ∀ (stepCount : Option Nat) (visitedNodes : List String) (w : World),
              comesSparing engine workflow runId node visited w = true →
                comesSparing engine workflow runId node visited
                  (w.modifyResult runId fun result =>
                    { result with stepCount := stepCount.getD result.stepCount, visitedNodes }) =
                  true := by
            intro stepCount visitedNodes w comes
            have memory : (w.modifyResult runId fun result =>
                { result with stepCount := stepCount.getD result.stepCount, visitedNodes }).runStatus
                  runId = w.runStatus runId := runStatus_modifyResult fun _ => rfl
            exact (comesSparing_congr memory rfl).trans comes
          refine Co.Triple.bind
            (permitted_progress (some (visited.length + 1)) visited (kept _ _)) fun _ => ?_
          have atBound : ∀ w, (node ∈ visited ∨ engine.maxSteps ≤ visited.length) →
              InHand runId ref visited current (fun _ => True) w ∧
                comesSparing engine workflow runId node visited w = true →
              InHand runId ref visited current (fun _ => True) w ∧
                w.runStatus runId ≠ some .cancelled := by
            intro w bound holds
            refine ⟨holds.1, ?_⟩
            have comes := holds.2
            rw [comesSparing, if_pos bound] at comes
            exact of_decide_eq_true comes
          split
          · next seen =>
              exact (permitted_raiseExecutionBoundFailure _ _ _ _).conseq
                (fun w holds => atBound w (.inl seen) holds) (fun _ _ holds => holds)
                fun _ _ holds => holds
          next fresh =>
          split
          · next full =>
              exact (permitted_raiseExecutionBoundFailure _ _ _ _).conseq
                (fun w holds => atBound w (.inr (Nat.le_of_lt_succ full)) holds)
                (fun _ _ holds => holds) fun _ _ holds => holds
          next room =>
          refine Co.Triple.bind
            (permitted_progress none (visited ++ [node]) (kept _ _)) fun _ => ?_
          have visit := @permitted_visitNode engine workflow runId context ref (visited ++ [node])
            current node
          refine Co.Triple.bind (visit.conseq (fun w holds => ?_) (fun _ _ holds => holds)
            fun _ _ holds => holds) fun exit => ?_
          · refine ⟨holds.1, fun running starts => ?_⟩
            have comes := holds.2
            have within : ¬(node ∈ visited ∨ engine.maxSteps ≤ visited.length) := by
              rintro (seen | full)
              · exact fresh seen
              · exact room (Nat.lt_succ_of_le full)
            rw [comesSparing, if_neg within, holds.1.runStatus, Option.all_some, running,
              starts] at comes
            simpa using comes
          · cases exit with
            | stop => exact Co.Triple.pure fun _ _ => trivial
            | goTo next =>
                have count : visited.length + 1 = (visited ++ [node]).length := by simp
                rw [count]
                refine (ih (visited ++ [node]) next).conseq (fun w holds => ?_)
                  (fun _ _ holds => holds) fun _ _ holds => holds
                exact ⟨⟨_, holds.1⟩, holds.2 next rfl⟩

end loop

/-! ### The operations -/

section operations

variable {engine : WorkflowEngine} {workflow : WorkflowDefinition} {runId : String}
  {context : ExecutionContext} {ref : Nat} {w : World}

theorem permits_register (named : (w.objects ref).id = runId) :
    Permits runId w { w with
      runs := Function.update w.runs runId (some ((w.runs runId).getD { run := ref })) } := by
  refine ⟨⟨fun cancelled => ?_, id, fun _ => ⟨[], by simp, by simp⟩⟩, fun holds => ⟨?_, holds.2⟩⟩
  · unfold World.runStatus World.run? at cancelled ⊢
    simp only [Function.update_self]
    cases registered : w.runs runId with
    | none =>
        rw [registered] at cancelled
        cases cancelled
    | some result =>
        rw [registered] at cancelled
        exact cancelled
  · intro result registered
    simp only [Function.update_self, Option.some.injEq] at registered
    subst registered
    cases before : w.runs runId with
    | none => exact named
    | some result => exact holds.1 result before

/-- `execute`, of the run object the engine has or of a first one, that is not cancelled. -/
theorem permitted_execute :
    Permitted engine workflow runId context
      (fun w => (w.objects ref).id = runId ∧ (w.objects ref).status ≠ .cancelled ∧
        ∀ result, w.runs runId = some result → result.run = ref)
      (execute engine ref context workflow) fun _ _ => True := by
  refine Co.Triple.bind keeps_readRun fun run => ?_
  refine Co.Triple.bind (Q := fun _ w =>
    (∃ visits current, InHand runId ref visits current (fun _ => True) w) ∧
      (w.objects ref).status ≠ .cancelled ∧ run.id = runId) ?_ fun _ => ?_
  · apply Co.Triple.modify
    intro w holds
    obtain ⟨rfl, named, live, own⟩ := holds
    simp only [named]
    refine ⟨permits_register named, ⟨_, _, ⟨_, Function.update_self .., ?_, rfl, rfl⟩, named,
      trivial⟩, live, trivial⟩
    cases registered : w.runs runId with
    | none => rfl
    | some result => exact own result registered
  refine Co.Triple.bind keeps_utcnow fun now => ?_
  intro w holds
  obtain ⟨-, ⟨visits, current, held⟩, live, rfl⟩ := holds
  suffices rest : Permitted engine workflow run.id context
      (fun w => InHand run.id ref visits current (fun _ => True) w ∧
        (w.objects ref).status ≠ .cancelled) _ fun _ _ => True from rest w ⟨held, live⟩
  clear held live w
  refine Co.Triple.bind (permitted_modifyRun (fun _ => rfl) fun _ live cancelled =>
    absurd cancelled live) fun _ => ?_
  refine Co.Triple.bind (permitted_rest _) fun _ => ?_
  refine Co.Triple.bind keeps_readRun fun started => ?_
  refine Co.Triple.bind (Q := fun _ w => InHand run.id ref visits current (fun _ => True) w ∧
    entersSparing engine workflow run.id w = true) ?_ fun _ => ?_
  · refine Co.Triple.bind (Q := fun _ => InHand run.id ref visits current fun _ => True) ?_
      fun _ => permitted_await fun w w' held drift spared => ⟨held.drift drift, spared⟩
    apply Co.Triple.modify
    intro w holds
    exact ⟨permits_effects _, holds.2.of_same rfl rfl rfl⟩
  cases found : findStartNode workflow with
  | none => exact Co.Triple.raise fun _ _ => trivial
  | some startNode =>
      refine Co.Triple.bind (keeps_findRun run.id) fun result => ?_
      refine Co.Triple.bind keeps_readRun fun state => ?_
      refine Co.Triple.bind (Q := fun _ _ => True) ?_ fun _ =>
        (keeps_findRun run.id).conseq (fun _ _ => trivial) (fun _ _ _ => trivial)
          fun _ _ holds => holds
      refine (permitted_executeLoop _ [] _).conseq (fun w holds => ?_) (fun _ _ holds => holds)
        fun _ _ holds => holds
      obtain ⟨rfl, registered, held, enters⟩ := holds
      refine ⟨⟨visits, current, held⟩, fun node is => ?_⟩
      obtain rfl := Option.some.inj is
      obtain ⟨result', registered', rfl, -⟩ := held.registered
      obtain rfl := Option.some.inj (registered.symm.trans registered')
      simpa [entersSparing, found, registered] using enters

theorem permits_redeem {approvalId : String} {consumption : Consumption}
    (live : w.runStatus runId ≠ some .cancelled) (holds : w.Named runId)
    (passed : consumeApproval w.now w.db runId approvalId = .ok consumption) :
    Permits runId w (w.redeem consumption runId approvalId) ∧
      consumption.run.id = runId ∧ consumption.run.status = .running := by
  obtain ⟨approval, row, resumeNode, -, -, -, -, stored, waiting, -, -, written⟩ :=
    consumeApproval_ok passed
  have named : consumption.run.id = runId := by
    rw [written]
    exact holds.2 row stored
  refine ⟨⟨⟨fun cancelled => absurd cancelled live, fun cancelled => ?_, fun cancelled => ?_⟩,
    fun _ => ⟨fun result registered => ?_, fun row' stored' => ?_⟩⟩, named, by rw [written]⟩
  · rw [World.rowStatus, stored, Option.map_some, waiting] at cancelled
    cases cancelled
  · exact ⟨[_], rfl, by simp [Event.starts]⟩
  · simp only [World.redeem, runOfRow, named, Function.update_self, Option.some.injEq] at registered
    subst registered
    simp [World.redeem, runOfRow, named]
  · simp only [World.redeem, Consumption.commit, Database.setRun, Function.update_self,
      Option.some.injEq] at stored'
    rw [← stored']
    exact named

theorem permitted_resumeFromStore (approvalId : String) :
    Permitted engine workflow runId context (·.Named runId) (resumeFromStore runId approvalId)
      fun ref w => (w.objects ref).id = runId ∧ (w.objects ref).status ≠ .cancelled ∧
        ∀ result, w.runs runId = some result → result.run = ref := by
  refine Co.Triple.bind (Q := fun _ w => w.Named runId ∧ sparing engine workflow runId context
    (.consumeApproval approvalId) w = true) ?_ fun _ => ?_
  · exact permitted_await fun w w' named drift spared => ⟨drift.named named, spared⟩
  refine Co.Triple.bind Co.Triple.get fun w => ?_
  cases passed : consumeApproval w.now w.db runId approvalId with
  | error message => exact Co.Triple.raise fun _ _ => trivial
  | ok consumption =>
      refine Co.Triple.bind (Q := fun _ w' => (w'.objects w.nextObject).id = runId ∧
        (w'.objects w.nextObject).status ≠ .cancelled ∧
        ∀ result, w'.runs runId = some result → result.run = w.nextObject) ?_
        fun _ => Co.Triple.pure fun _ holds => holds
      apply Co.Triple.modify
      intro w' holds
      obtain ⟨rfl, named, spared⟩ := holds
      have live : w.runStatus runId ≠ some .cancelled := by
        intro cancelled
        simp [sparing, cancelled, passed, Except.isOk, Except.toBool] at spared
      obtain ⟨permits, owned, running⟩ := permits_redeem live named passed
      refine ⟨permits, ?_, ?_, fun result registered => ?_⟩
      · simp [World.redeem, runOfRow, owned]
      · simp [World.redeem, runOfRow, running]
      · simp only [World.redeem, runOfRow, owned, Function.update_self, Option.some.injEq]
          at registered
        rw [← registered]

theorem permitted_resumeInMemory (approvalId : String) :
    Permitted engine workflow runId context
      (fun w => w.Named runId ∧ (w.runStatus runId ≠ some .cancelled ∨
        ((w.run? runId).bind fun run => approvalResumePayload w.now run.state approvalId) = none))
      (resumeInMemory runId approvalId)
      fun ref w => (w.objects ref).id = runId ∧ (w.objects ref).status ≠ .cancelled ∧
        ∀ result, w.runs runId = some result → result.run = ref := by
  refine Co.Triple.bind (keeps_findRun runId) fun result => ?_
  refine Co.Triple.bind keeps_readRun fun run => ?_
  refine Co.Triple.bind keeps_utcnow fun now => ?_
  cases waits : approvalResumePayload now run.state approvalId with
  | none => exact Co.Triple.raise fun _ _ => trivial
  | some payload =>
      refine Co.Triple.bind (Q := fun _ w => (w.objects result.run).id = runId ∧
        (w.objects result.run).status ≠ .cancelled ∧
        ∀ other, w.runs runId = some other → other.run = result.run) ?_
        fun _ => Co.Triple.pure fun _ holds => holds
      apply Co.Triple.modify
      intro w holds
      obtain ⟨rfl, rfl, registered, named, live⟩ := holds
      have alive : (w.objects result.run).status ≠ .cancelled := by
        intro cancelled
        rcases live with memory | stuck
        · exact memory (by simp [World.runStatus, World.run?, registered, cancelled])
        · simp [World.run?, registered, waits] at stuck
      refine ⟨?_, ?_, ?_, fun other same => ?_⟩
      · have resumed : Permits runId w (w.modifyRun result.run fun run =>
            { run with
              status := .running
              state := Dict.set (Dict.set run.state "_approval_resume" (.dict payload))
                "_approved_approval_id" (.str approvalId) }) :=
          permits_modifyRun rfl fun cancelled => absurd cancelled alive
        exact resumed.trans (permits_record (.resumed runId) fun starts => (by cases starts))
      · simpa [World.redeemInMemory] using named.1 result registered
      · simp [World.redeemInMemory]
      · rw [Option.some.inj (same.symm.trans registered)]

theorem permitted_resumeAfterApproval (approvalId : String) :
    Permitted engine workflow runId context
      (fun w => w.Named runId ∧ (engine.sessionFactory = true ∨
        w.runStatus runId ≠ some .cancelled ∨
        ((w.run? runId).bind fun run => approvalResumePayload w.now run.state approvalId) = none))
      (resumeAfterApproval engine runId approvalId workflow context) fun _ _ => True := by
  unfold resumeAfterApproval
  cases stored : engine.sessionFactory with
  | true =>
      refine Co.Triple.bind ((permitted_resumeFromStore approvalId).conseq
        (fun _ holds => holds.1) (fun _ _ holds => holds) fun _ _ holds => holds) fun ref => ?_
      exact permitted_execute
  | false =>
      refine Co.Triple.bind ((permitted_resumeInMemory approvalId).conseq
        (fun w holds => ⟨holds.1, ?_⟩) (fun _ _ holds => holds) fun _ _ holds => holds) fun ref => ?_
      · rcases holds.2 with never | known
        · cases never
        · exact known
      · exact permitted_execute

end operations

end SyndicateClaw.Orchestrator
