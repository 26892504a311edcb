import Mathlib.Logic.Relation
import SyndicateClaw.Async.RelyGuarantee
import SyndicateClaw.Orchestrator.Engine

/-! Everything the engine can do to the world in one write.

The coroutines of the engine are long; what they write is short. An invariant of
the world is kept by every interleaving of engine operations as soon as each
constructor of `EngineWrite` keeps it. -/

namespace SyndicateClaw.Orchestrator

open Async

/-- What a development asks of the calls it lets run: which workflows are executed,
which trails a call may enter its loop with, which approval rows a boundary may find,
whether a caller may name the node to resume at or replay a run, and whether stopped
runs are left alone until their call has returned. -/
structure Conditions where
  workflow : WorkflowDefinition → Prop
  enter : List Event → Prop
  boundary : Database → String → Prop
  redirect : Prop
  replay : Prop
  calm : Prop

def Controls (f : WorkflowRun → WorkflowRun) : Prop :=
  ∀ run, f run = { run with
    status := (f run).status
    startedAt := (f run).startedAt
    completedAt := (f run).completedAt
    error := (f run).error }

/-- How a call comes to its next node: as its entry, or by the choice just made. -/
def Comes (c : Conditions) (workflow : WorkflowDefinition) (ref : Nat) (runId : String) (w : World)
    (current : String) : Prop :=
  (c.enter w.trail ∧ ∃ startNode result, findStartNode workflow = some startNode ∧
      w.runs runId = some result ∧
      current = entryNode result.currentNodeId (w.objects ref).state startNode) ∨
    ∃ nodeId, w.trail.getLast? = some (.chose runId nodeId (some current))

def World.Owns (w : World) (ref : Nat) (runId : String) : Prop :=
  ref < w.nextObject ∧ (w.objects ref).id = runId

def World.Allocated (w : World) : Prop :=
  ∀ runId result, w.runs runId = some result → w.Owns result.run runId

def World.Asked (w : World) (runId nodeId : String) : Prop :=
  .dispatched runId nodeId ∈ w.trail ∧ ∃ exc, .exited runId nodeId (.waitForApproval exc) ∈ w.trail

def Event.IsDispatch : Event → Bool
  | .dispatched _ _ => true
  | _ => false

def Quiet (trail trail' : List Event) : Prop :=
  ∃ events, trail' = trail ++ events ∧ ∀ event ∈ events, event.IsDispatch = false

def InFlight (trail : List Event) (runId nodeId : String) (since : List Event) : Prop :=
  (∃ before, trail = before ++ .dispatched runId nodeId :: since) ∧
    ∀ event ∈ since, event.IsDispatch = false

def Current (trail : List Event) (runId nodeId : String) : Prop :=
  ∃ since, InFlight trail runId nodeId since

def Returned (trail : List Event) (runId nodeId : String) (result : NodeResult) : Prop :=
  ∃ since, InFlight trail runId nodeId since ∧ .exited runId nodeId (.returned result) ∈ since

section trail

variable {trail trail' : List Event} {runId nodeId : String}

theorem Quiet.refl (trail : List Event) : Quiet trail trail := ⟨[], by simp, by simp⟩

theorem Quiet.snoc (trail : List Event) {event : Event} (other : event.IsDispatch = false) :
    Quiet trail (trail ++ [event]) :=
  ⟨[event], rfl, by simpa using other⟩

theorem InFlight.quiet {since : List Event} (flight : InFlight trail runId nodeId since)
    (quiet : Quiet trail trail') :
    ∃ later, InFlight trail' runId nodeId (since ++ later) := by
  obtain ⟨⟨before, rfl⟩, still⟩ := flight
  obtain ⟨events, rfl, others⟩ := quiet
  refine ⟨events, ⟨before, by simp⟩, fun event member => ?_⟩
  rcases List.mem_append.mp member with old | new
  · exact still event old
  · exact others event new

theorem Current.quiet (current : Current trail runId nodeId) (quiet : Quiet trail trail') :
    Current trail' runId nodeId := by
  obtain ⟨since, flight⟩ := current
  obtain ⟨later, flight'⟩ := flight.quiet quiet
  exact ⟨_, flight'⟩

theorem Returned.quiet {result : NodeResult} (returned : Returned trail runId nodeId result)
    (quiet : Quiet trail trail') : Returned trail' runId nodeId result := by
  obtain ⟨since, flight, member⟩ := returned
  obtain ⟨later, flight'⟩ := flight.quiet quiet
  exact ⟨_, flight', List.mem_append_left later member⟩

theorem Current.dispatched (trail : List Event) (runId nodeId : String) :
    Current (trail ++ [.dispatched runId nodeId]) runId nodeId :=
  ⟨[], ⟨trail, rfl⟩, by simp⟩

theorem Current.returned (current : Current trail runId nodeId) (result : NodeResult) :
    Returned (trail ++ [.exited runId nodeId (.returned result)]) runId nodeId result := by
  obtain ⟨since, ⟨before, rfl⟩, still⟩ := current
  refine ⟨since ++ [.exited runId nodeId (.returned result)], ⟨⟨before, by simp⟩, ?_⟩, by simp⟩
  intro event member
  rcases List.mem_append.mp member with old | new
  · exact still event old
  · rw [List.mem_singleton.mp new]
    rfl

end trail

def World.invoke (w : World) (runId : String) (node : NodeDefinition) (attempt : Nat) : World :=
  { w with
    calls := w.calls + 1
    trail := w.trail ++ [.invoked runId node.id node.handler attempt] }

def World.handled (w : World) (ref : Nat) (runId : String) (node : NodeDefinition)
    (outcome : HandlerOutcome) : World :=
  { (w.modifyRun ref fun run => { run with state := outcome.state }).addEffects
      outcome.effects with
    trail := w.trail ++ [.exited runId node.id outcome.exit] }

/-- A node of a workflow in hand, with the context its handler is given. -/
structure Handling (engine : WorkflowEngine) (c : Conditions) (node : NodeDefinition)
    (handler : NodeHandler) (context : ExecutionContext) : Prop where
  belongs : ∃ workflow, c.workflow workflow ∧ workflow.node? node.id = some node
  present : engine.handlers node.handler = some handler
  named : context.nodeId = node.id
  configured : context.config = node.config

def NodeDefinition.maxAttempts (node : NodeDefinition) : Nat :=
  (node.retryPolicy.map (·.maxAttempts)).getD 1

/-- An attempt comes up: the first one after the dispatch of its node, another one after
an attempt that failed. -/
def AttemptDue (trail : List Event) (runId : String) (node : NodeDefinition) (attempt : Nat) :
    Prop :=
  trail.getLast? = some (.dispatched runId node.id) ∨
    1 < attempt ∧ attempt ≤ node.maxAttempts ∧
      ∃ message, trail.getLast? = some (.exited runId node.id (.failed message))

inductive EngineWrite (engine : WorkflowEngine) (c : Conditions) (w : World) : World → Prop
  | effects (effects : List Effect) : EngineWrite engine c w (w.addEffects effects)
  | freshId : EngineWrite engine c w { w with ids := w.ids + 1 }
  | control (ref : Nat) (f : WorkflowRun → WorkflowRun) (only : Controls f) :
      EngineWrite engine c w (w.modifyRun ref f)
  | register (ref : Nat) (runId : String) (owns : w.Owns ref runId) :
      EngineWrite engine c w { w with
        runs := Function.update w.runs runId (some ((w.runs runId).getD { run := ref })) }
  | progress (runId : String) (stepCount : Option Nat) (visitedNodes : List String) :
      EngineWrite engine c w (w.modifyResult runId fun result =>
        { result with stepCount := stepCount.getD result.stepCount, visitedNodes })
  | dispatch (workflow : WorkflowDefinition) (ref : Nat) (runId current : String)
      (used : c.workflow workflow) (owns : w.Owns ref runId)
      (found : ∃ node, workflow.node? current = some node)
      (comes : Comes c workflow ref runId w current) :
      EngineWrite engine c w (w.dispatch runId current)
  | invoke (runId : String) (node : NodeDefinition) (attempt : Nat)
      (current : c.calm → Current w.trail runId node.id)
      (due : c.calm → AttemptDue w.trail runId node attempt)
      (belongs : ∃ workflow, c.workflow workflow ∧ workflow.node? node.id = some node) :
      EngineWrite engine c w (w.invoke runId node attempt)
  | handle (ref : Nat) (runId : String) (node : NodeDefinition) (handler : NodeHandler)
      (index : Nat) (context : ExecutionContext) (handling : Handling engine c node handler context)
      (owns : w.Owns ref runId) (current : c.calm → Current w.trail runId node.id)
      (invoked : c.calm → ∃ attempt,
        w.trail.getLast? = some (.invoked runId node.id node.handler attempt)) :
      EngineWrite engine c w
        (w.handled ref runId node (handler index (w.objects ref).state context))
  | output (ref : Nat) (runId : String) (node : NodeDefinition) (handler : NodeHandler)
      (index : Nat) (state : State) (context : ExecutionContext) (result : NodeResult)
      (handling : Handling engine c node handler context)
      (left : (w.objects ref).state = (handler index state context).state)
      (returned : (handler index state context).exit = .returned result)
      (current : c.calm → Current w.trail runId node.id) :
      EngineWrite engine c w (w.modifyRun ref fun run =>
        { run with state := Dict.update run.state result.outputState })
  | append (runId : String) (execution : NodeExecution)
      (ended : execution.status = .completed → ∃ exit,
        ((∃ result, exit = .returned result) ∨ exit = .pauseExecution) ∧
          .exited runId execution.nodeId exit ∈ w.trail) :
      EngineWrite engine c w (w.modifyResult runId fun result =>
        { result with nodeExecutions := result.nodeExecutions ++ [execution] })
  | clear (ref : Nat) (nodeId : String) :
      EngineWrite engine c w (w.modifyRun ref fun run =>
        { run with state := clearConsumedResumeMarker nodeId run.state })
  | checkpoint (ref : Nat) :
      EngineWrite engine c w (w.modifyRun ref fun run =>
        { run with checkpointData := some (checkpointFor engine run.state) })
  | persistNode (ref : Nat) (execution : NodeExecution) :
      EngineWrite engine c w { w with
        db := w.db.persistRunAndNode (w.objects ref) execution }
  | chose (workflow : WorkflowDefinition) (ref : Nat) (runId nodeId : String) (result : NodeResult)
      (used : c.workflow workflow)
      (ended : c.calm → Returned w.trail runId nodeId result) :
      EngineWrite engine c w { w with
        trail := w.trail ++ [.chose runId nodeId (result.nextNodeId.or
          (resolveNextNode nodeId (w.objects ref).state workflow.edges))] }
  | bound (ref : Nat) (now : Instant) (reason : String) (cyclePath : List String)
      (stepCount : Nat) :
      EngineWrite engine c w (w.modifyRun ref (boundFailure now reason cyclePath stepCount))
  | persistFailure (ref : Nat) :
      EngineWrite engine c w { w with db := w.db.upsertRun (w.objects ref) }
  | await (ref : Nat) (runId nodeId : String) (now : Instant) (request : ApprovalRequest)
      (current : c.calm → Current w.trail runId nodeId) :
      EngineWrite engine c w (w.modifyRun ref fun run =>
        { run with state := waitingState now request nodeId run.id run.state })
  | persistBoundary (ref : Nat) (runId nodeId : String) (execution : NodeExecution)
      (request : ApprovalRequest) (owns : w.Owns ref runId) (owned : request.runId = runId)
      (context : Dict.get? request.context "node_id" = some (.str nodeId) ∧
        Dict.get? request.context "resume_node_id" = some (.str nodeId))
      (asked : w.Asked runId nodeId) (allowed : c.boundary w.db request.id) :
      EngineWrite engine c w { w with
        db := w.db.persistApprovalBoundary (w.objects ref) execution request }
  | redeem (consumption : Consumption) (runId approvalId : String)
      (passed : consumeApproval w.now w.db runId approvalId = .ok consumption) :
      EngineWrite engine c w (w.redeem consumption runId approvalId)
  | redeemInMemory (ref : Nat) (runId approvalId : String) (payload : State)
      (unstored : engine.sessionFactory = false)
      (waits : approvalResumePayload w.now (w.objects ref).state approvalId = some payload) :
      EngineWrite engine c w (w.redeemInMemory ref runId approvalId payload)
  | resumed (runId : String) :
      EngineWrite engine c w { w with trail := w.trail ++ [.resumed runId] }
  | mark (ref : Nat) (node : String) (allowed : c.redirect) :
      EngineWrite engine c w (w.modifyRun ref fun run =>
        { run with state := Dict.set run.state "_resume_from" (.str node) })
  | redirect (runId node : String) (allowed : c.redirect) :
      EngineWrite engine c w (w.modifyResult runId fun result =>
        { result with currentNodeId := some node })
  | restore (ref : Nat) (checkpoint : JsonText) (state : State)
      (saved : (w.objects ref).checkpointData = some checkpoint)
      (restored : restoreCheckpoint engine checkpoint = .ok state) (allowed : c.replay) :
      EngineWrite engine c w (w.modifyRun ref fun run => { run with state })
  | forget (runId : String) :
      EngineWrite engine c w (w.modifyResult runId fun result =>
        { result with nodeExecutions := [] })
  | decide (requestId approver reason : String) (status : ApprovalStatus) (db : Database)
      (decided : status = .approved ∨ status = .rejected)
      (accepted : decideApproval w.db requestId approver reason status w.now = .ok db) :
      EngineWrite engine c w { w with db }
  | expire : EngineWrite engine c w { w with db := expireStale w.db w.now }
  | tick (now : Instant) : EngineWrite engine c w { w with now }

abbrev EngineWrites (engine : WorkflowEngine) (c : Conditions) : World → World → Prop :=
  Relation.ReflTransGen (EngineWrite engine c)

/-! ### What every write keeps -/

def Stable (engine : WorkflowEngine) (c : Conditions) (P : World → Prop) : Prop :=
  ∀ w w', EngineWrite engine c w w' → P w → P w'

section stable

variable {engine : WorkflowEngine} {c : Conditions} {P Q : World → Prop}

theorem Stable.and (one : Stable engine c P) (two : Stable engine c Q) :
    Stable engine c fun w => P w ∧ Q w :=
  fun w w' write holds => ⟨one w w' write holds.1, two w w' write holds.2⟩

theorem Stable.writes (stable : Stable engine c P) {w w' : World}
    (writes : EngineWrites engine c w w') (holds : P w) : P w' := by
  induction writes with
  | refl => exact holds
  | tail _ last ih => exact stable _ _ last ih

theorem EngineWrite.trail_prefix {w w' : World} (write : EngineWrite engine c w w') :
    w.trail <+: w'.trail := by
  cases write <;> first | exact List.prefix_refl _ | exact List.prefix_append _ _

theorem stable_mem (event : Event) : Stable engine c (event ∈ ·.trail) :=
  fun _ _ write member => write.trail_prefix.subset member

theorem World.Owns.modifyRun {w : World} {ref other : Nat} {runId : String}
    {f : WorkflowRun → WorkflowRun} (owns : w.Owns ref runId)
    (named : (f (w.objects other)).id = (w.objects other).id) :
    (w.modifyRun other f).Owns ref runId := by
  refine ⟨owns.1, ?_⟩
  by_cases same : ref = other
  · subst same
    rw [modifyRun_objects_self, named]
    exact owns.2
  · rw [modifyRun_objects_of_ne _ _ _ _ same]
    exact owns.2

theorem stable_owns (ref : Nat) (runId : String) : Stable engine c (·.Owns ref runId) := by
  intro w w' write owns
  cases write with
  | control other f only => exact owns.modifyRun (by rw [only])
  | redeem consumption runId' approvalId passed =>
      refine ⟨Nat.lt_succ_of_lt owns.1, ?_⟩
      have other : ref ≠ w.nextObject := Nat.ne_of_lt owns.1
      simp only [World.redeem, Function.update_of_ne other]
      exact owns.2
  | handle other =>
      exact @World.Owns.modifyRun _ _ other _ (fun run => { run with state := _ }) owns rfl
  | redeemInMemory other id approvalId payload =>
      exact @World.Owns.modifyRun _ _ other _ (fun run => { run with
        status := .running
        state := Dict.set (Dict.set run.state "_approval_resume" (.dict payload))
          "_approved_approval_id" (.str approvalId) }) owns rfl
  | output | clear | checkpoint | bound | await | mark | restore => exact owns.modifyRun rfl
  | _ => exact owns

theorem stable_allocated : Stable engine c World.Allocated := by
  intro w w' write allocated
  have kept : ∀ ref runId, w.Owns ref runId → w'.Owns ref runId :=
    fun ref runId => stable_owns ref runId w w' write
  have old : ∀ runId (result : WorkflowRunResult),
      (∃ result', w.runs runId = some result' ∧ result'.run = result.run) →
      w'.Owns result.run runId := by
    rintro runId result ⟨result', found, same⟩
    rw [← same]
    exact kept _ _ (allocated runId result' found)
  have modified : ∀ {id runId result} {f : WorkflowRunResult → WorkflowRunResult},
      (w.modifyResult id f).runs runId = some result → (∀ r, (f r).run = r.run) →
        w'.Owns result.run runId := by
    intro id runId result f found same
    obtain ⟨result', present, rfl⟩ := w.modifyResult_runs_some runId f found
    refine old runId _ ⟨result', present, ?_⟩
    split
    · exact (same result').symm
    · rfl
  intro runId result found
  cases write with
  | register ref id owns =>
      by_cases here : runId = id
      · subst here
        simp only [Function.update_self, Option.some.injEq] at found
        cases present : w.runs runId with
        | none =>
            rw [present] at found
            exact found ▸ owns
        | some result' =>
            rw [present] at found
            exact old runId result ⟨result', present, congrArg _ found⟩
      · simp only [Function.update_of_ne here] at found
        exact old runId result ⟨result, found, rfl⟩
  | redeem consumption id approvalId passed =>
      by_cases here : runId = (runOfRow consumption.run).id
      · subst here
        simp only [World.redeem, Function.update_self, Option.some.injEq] at found
        subst found
        exact ⟨Nat.lt_succ_self _, by simp [World.redeem]⟩
      · simp only [World.redeem, Function.update_of_ne here] at found
        exact old runId result ⟨result, found, rfl⟩
  | dispatch workflow ref id current =>
      simp only [World.dispatch] at found
      exact modified found fun _ => rfl
  | progress | append | redirect | forget => exact modified found fun _ => rfl
  | _ => exact old runId result ⟨result, found, rfl⟩

end stable

end SyndicateClaw.Orchestrator
