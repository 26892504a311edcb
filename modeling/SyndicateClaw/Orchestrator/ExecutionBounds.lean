import Mathlib.Data.List.Chain
import SyndicateClaw.Orchestrator.Loop

/-! Bounds on one call of `execute`: every node is dispatched at most once, at most
`max_steps` nodes are, and a call that would pass either bound fails and reports the
nodes it went round. -/

namespace SyndicateClaw.Orchestrator

open Async

/-- The nodes of a run that went to `_execute_node`, in order. -/
def dispatchedNodes (runId : String) (events : List Event) : List String :=
  events.filterMap fun
    | .dispatched owner nodeId => if owner = runId then some nodeId else none
    | _ => none

def pendingNode (runId : String) (events : List Event) : Option String :=
  match events.getLast? with
  | some (.chose owner _ next) => if owner = runId then next else none
  | _ => none

section events

variable (runId : String)

theorem dispatchedNodes_append (first second : List Event) :
    dispatchedNodes runId (first ++ second) =
      dispatchedNodes runId first ++ dispatchedNodes runId second :=
  List.filterMap_append

theorem dispatchedNodes_calls {nodeId : String} {calls : List Event}
    (only : ∀ event ∈ calls, event.IsCall runId nodeId ∨ event = .chose runId nodeId none) :
    dispatchedNodes runId calls = [] := by
  apply List.filterMap_eq_nil_iff.mpr
  intro event member
  rcases only event member with (⟨handler, attempt, rfl⟩ | ⟨exit, rfl⟩) | rfl <;> rfl

theorem pendingNode_calls {nodeId : String} {calls : List Event} (events : List Event)
    (only : ∀ event ∈ calls, event.IsCall runId nodeId ∨ event = .chose runId nodeId none) :
    pendingNode runId (events ++ .dispatched runId nodeId :: calls) = none := by
  unfold pendingNode
  rw [List.getLast?_append_of_ne_nil _ (by simp)]
  cases last : (Event.dispatched runId nodeId :: calls).getLast? with
  | none => rfl
  | some event =>
      rcases List.mem_cons.mp (List.mem_of_getLast? last) with rfl | member
      · rfl
      · rcases only event member with (⟨handler, attempt, rfl⟩ | ⟨exit, rfl⟩) | rfl
        · rfl
        · rfl
        · simp

end events

/-- The nodes dispatched so far are those visited, each chose the next one, and the
last chose the current node. -/
structure Trailing (engine : WorkflowEngine) (runId : String) (events : List Event)
    (q : Position) : Prop where
  dispatched : dispatchedNodes runId events = q.visited
  once : q.visited.Nodup
  within : q.visited.length ≤ engine.maxSteps
  linked : (q.visited ++ [q.current]).IsChain fun a b => .chose runId a (some b) ∈ events
  pending : pendingNode runId events = if q.visited = [] then none else some q.current

theorem Trailing.moved {engine : WorkflowEngine} {runId : String} {events calls : List Event}
    {q q' : Position} (trailing : Trailing engine runId events q)
    (fresh : q.current ∉ q.visited) (within : q.visited.length < engine.maxSteps)
    (visited : q'.visited = q.visited ++ [q.current])
    (only : ∀ event ∈ calls, event.IsCall runId q.current) :
    Trailing engine runId (events ++ (.dispatched runId q.current :: calls ++
      [.chose runId q.current (some q'.current)])) q' := by
  have silent := dispatchedNodes_calls runId fun event member => .inl (only event member)
  constructor
  · rw [dispatchedNodes_append, trailing.dispatched, visited, List.cons_append]
    simp only [dispatchedNodes] at silent
    simp [dispatchedNodes, silent]
  · rw [visited, List.nodup_append]
    refine ⟨trailing.once, by simp, ?_⟩
    intro a first b second same
    obtain rfl := List.mem_singleton.mp second
    exact fresh (same ▸ first)
  · simp [visited]
    omega
  · rw [visited, List.append_assoc]
    refine List.isChain_split.mpr ⟨?_, ?_⟩
    · exact trailing.linked.imp fun a b chose => List.mem_append_left _ chose
    · simp
  · rw [← List.append_assoc, pendingNode, List.getLast?_concat]
    simp [visited]

section bounded

variable (engine : WorkflowEngine) (runId : String) (events : List Event) (run : WorkflowRun)

/-- What the events of a call, the run it leaves and its outcome have to do with the
bounds. `events` begins with the call. -/
structure Bounded {α : Type} (outcome : Except EngineError α) : Prop where
  terminates : outcome ≠ .error .outOfFuel
  once : (dispatchedNodes runId events).Nodup
  within : (dispatchedNodes runId events).length ≤ engine.maxSteps
  raises_iff : (∃ message id cyclePath steps,
      outcome = .error (.workflowCycleDetected message id cyclePath steps)) ↔
    ∃ next, pendingNode runId events = some next ∧
      (next ∈ dispatchedNodes runId events ∨
        (dispatchedNodes runId events).length = engine.maxSteps)
  fails : ∀ message id cyclePath steps,
    outcome = .error (.workflowCycleDetected message id cyclePath steps) →
    run.status = .failed ∧ ∃ next, pendingNode runId events = some next ∧
      if next ∈ dispatchedNodes runId events then
        run.error = some "cycle_detected" ∧
          cyclePath = (dispatchedNodes runId events).drop
            ((dispatchedNodes runId events).idxOf next) ∧
          cyclePath.head? = some next ∧ cyclePath.Nodup ∧
          (cyclePath ++ [next]).IsChain fun a b => .chose runId a (some b) ∈ events
      else
        run.error = some "step_limit_exceeded" ∧
          (dispatchedNodes runId events).length = engine.maxSteps

variable {engine runId events run}

theorem Bounded.of_errors {α β : Type} {outcome : Except EngineError α}
    {outcome' : Except EngineError β} (bounded : Bounded engine runId events run outcome)
    (same : ∀ e, outcome' = .error e ↔ outcome = .error e) :
    Bounded engine runId events run outcome' := by
  constructor
  · intro exhausted
    exact bounded.terminates ((same _).mp exhausted)
  · exact bounded.once
  · exact bounded.within
  · rw [← bounded.raises_iff]
    simp only [same]
  · intro message id cyclePath steps raised
    exact bounded.fails _ _ _ _ ((same _).mp raised)

end bounded

section trailing

variable {engine : WorkflowEngine} {workflow : WorkflowDefinition} {context : ExecutionContext}
  {now : Instant} {ref : Nat} {runId : String} {w w' : World} {events : List Event}
  {q : Position} {stop : Stop} {outcome : Except EngineError Unit}

theorem Trailing.bounded_dispatched {calls : List Event}
    (trailing : Trailing engine runId events q) (running : q.run.status = .running)
    (stops : q.iteration engine workflow context now = .inl stop)
    (stopped : w.Stopped engine workflow ref runId w' q stop outcome)
    (dispatches : stop.ending.dispatches)
    (only : ∀ event ∈ calls, event.IsCall runId q.current ∨ event = .chose runId q.current none) :
    Bounded engine runId (events ++ .dispatched runId q.current :: calls) (w'.objects ref)
      outcome := by
  obtain ⟨-, cycle, limit⟩ := iteration_fits running stops
  have fresh : q.current ∉ q.visited := by
    intro seen
    rw [cycle.mpr seen] at dispatches
    cases dispatches
  have room : q.visited.length < engine.maxSteps := by
    by_contra full
    rw [limit.mpr ⟨fresh, by omega⟩] at dispatches
    cases dispatches
  have nodes : dispatchedNodes runId (events ++ .dispatched runId q.current :: calls) =
      q.visited ++ [q.current] := by
    have silent := dispatchedNodes_calls runId only
    rw [dispatchedNodes_append, trailing.dispatched]
    simp only [dispatchedNodes] at silent
    simp [dispatchedNodes, silent]
  have pending := pendingNode_calls runId events only
  have quiet : ∀ message id cyclePath steps,
      outcome ≠ .error (.workflowCycleDetected message id cyclePath steps) := by
    intro message id cyclePath steps raised
    have raises := stopped.raised
    rw [raised] at raises
    cases ending : stop.ending <;> simp [ending, Ending.Raises, Ending.dispatches] at raises dispatches
  constructor
  · intro exhausted
    have raises := stopped.raised
    rw [exhausted] at raises
    cases ending : stop.ending <;> simp [ending, Ending.Raises] at raises
  · rw [nodes, List.nodup_append]
    refine ⟨trailing.once, by simp, ?_⟩
    intro a first b second same
    obtain rfl := List.mem_singleton.mp second
    exact fresh (same ▸ first)
  · simp [nodes]
    omega
  · refine iff_of_false ?_ (by simp [pending])
    rintro ⟨message, id, cyclePath, steps, raised⟩
    exact quiet _ _ _ _ raised
  · intro message id cyclePath steps raised
    exact absurd raised (quiet _ _ _ _)

theorem Trailing.bounded_cycle (trailing : Trailing engine runId events q)
    (seen : q.current ∈ q.visited)
    (stops : q.iteration engine workflow context now = .inl stop)
    (stopped : w.Stopped engine workflow ref runId w' q stop outcome) :
    Bounded engine runId events (w'.objects ref) outcome := by
  simp only [Position.iteration, if_pos seen] at stops
  obtain rfl := Sum.inl.inj stops
  obtain ⟨message, rfl⟩ := stopped.raised
  have pending : pendingNode runId events = some q.current := by
    rw [trailing.pending, if_neg (List.ne_nil_of_mem seen)]
  have member : q.current ∈ dispatchedNodes runId events := by rwa [trailing.dispatched]
  constructor
  · simp
  · rw [trailing.dispatched]
    exact trailing.once
  · rw [trailing.dispatched]
    exact trailing.within
  · exact iff_of_true ⟨_, _, _, _, rfl⟩ ⟨q.current, pending, .inl member⟩
  · intro message' id cyclePath steps raised
    obtain ⟨-, -, rfl, -⟩ := EngineError.workflowCycleDetected.inj (Except.error.inj raised)
    refine ⟨stopped.status, q.current, pending, ?_⟩
    rw [if_pos member, stopped.run (by simp), trailing.dispatched]
    have inside := List.idxOf_lt_length_of_mem seen
    refine ⟨rfl, rfl, ?_, trailing.once.sublist (List.drop_sublist _ _), ?_⟩
    · simp [List.head?_drop, inside]
    · have linked := trailing.linked
      rw [← List.take_append_drop (q.visited.idxOf q.current) q.visited, List.append_assoc] at linked
      exact linked.right_of_append

theorem Trailing.bounded_limit (trailing : Trailing engine runId events q)
    (fresh : q.current ∉ q.visited) (full : engine.maxSteps ≤ q.visited.length)
    (stops : q.iteration engine workflow context now = .inl stop)
    (stopped : w.Stopped engine workflow ref runId w' q stop outcome) :
    Bounded engine runId events (w'.objects ref) outcome := by
  simp only [Position.iteration, if_neg fresh, if_pos (Nat.lt_succ_of_le full)] at stops
  obtain rfl := Sum.inl.inj stops
  obtain ⟨message, path, rfl⟩ := stopped.raised
  have within := trailing.within
  have length : q.visited.length = engine.maxSteps := by omega
  have nonempty : q.visited ≠ [] := by
    intro empty
    have := engine.one_le_maxSteps
    simp [empty] at length
    omega
  have pending : pendingNode runId events = some q.current := by
    rw [trailing.pending, if_neg nonempty]
  constructor
  · simp
  · rw [trailing.dispatched]
    exact trailing.once
  · rw [trailing.dispatched]
    exact within
  · refine iff_of_true ⟨_, _, _, _, rfl⟩ ⟨q.current, pending, .inr ?_⟩
    rw [trailing.dispatched, length]
  · intro message' id cyclePath steps raised
    refine ⟨stopped.status, q.current, pending, ?_⟩
    rw [trailing.dispatched, if_neg fresh, stopped.run (by simp)]
    exact ⟨rfl, length⟩

theorem Trailing.bounded_missing (trailing : Trailing engine runId events q)
    (fresh : q.current ∉ q.visited) (room : q.visited.length < engine.maxSteps)
    (returned : outcome = .ok ()) :
    Bounded engine runId events (w'.objects ref) outcome := by
  subst returned
  constructor
  · simp
  · rw [trailing.dispatched]
    exact trailing.once
  · rw [trailing.dispatched]
    exact trailing.within
  · refine iff_of_false (by simp) ?_
    rintro ⟨next, pending, bound⟩
    rw [trailing.pending] at pending
    split_ifs at pending
    obtain rfl := Option.some.inj pending
    rw [trailing.dispatched] at bound
    rcases bound with seen | full
    · exact fresh seen
    · omega
  · simp

theorem Trailing.bounded (trailing : Trailing engine runId events q)
    (running : q.run.status = .running)
    (stops : q.iteration engine workflow context now = .inl stop)
    (stopped : w.Stopped engine workflow ref runId w' q stop outcome) :
    ∃ tail, w'.trail = w.trail ++ tail ∧
      Bounded engine runId (events ++ tail) (w'.objects ref) outcome := by
  obtain ⟨-, cycle, limit⟩ := iteration_fits running stops
  obtain ⟨tail, appended, shape, -⟩ := stopped.trail
  refine ⟨tail, appended, ?_⟩
  split_ifs at shape with dispatches
  · obtain ⟨calls, rfl, only⟩ := shape
    exact trailing.bounded_dispatched running stops stopped dispatches only
  · subst shape
    rw [List.append_nil]
    by_cases seen : q.current ∈ q.visited
    · exact trailing.bounded_cycle seen stops stopped
    · by_cases full : engine.maxSteps ≤ q.visited.length
      · exact trailing.bounded_limit seen full stops stopped
      · have missing : stop.ending = .nodeMissing := by
          cases ending : stop.ending <;> simp_all [Ending.dispatches]
        have returned : outcome = .ok () := by
          have raises := stopped.raised
          rwa [missing] at raises
        exact trailing.bounded_missing seen (by omega) returned

end trailing

/-- Every call of `execute` ends, within the bounds, and raises
`WorkflowCycleDetected` exactly when it would pass one. -/
theorem execute_bounded (engine : WorkflowEngine) (ref : Nat) (context : ExecutionContext)
    (workflow : WorkflowDefinition) (w : World) :
    ∃ events, ((execute engine ref context workflow).settle w).1.trail = w.trail ++ events ∧
      Bounded engine (w.objects ref).id events
        (((execute engine ref context workflow).settle w).1.objects ref)
        ((execute engine ref context workflow).settle w).2 := by
  cases starts : findStartNode workflow with
  | none =>
      rw [settle_execute, starts]
      refine ⟨[], by simp [World.begin], ?_⟩
      constructor <;> simp [dispatchedNodes, pendingNode]
  | some startNode =>
      have first : Trailing engine (w.objects ref).id [] (w.entry ref startNode) := by
        constructor <;> simp [dispatchedNodes, pendingNode, World.entry]
      obtain ⟨w₁, q, stop, w', outcome, -, ⟨events, passed, trailing⟩, running, stops, stopped,
        final, same⟩ := execute_walks engine workflow context ref
          (fun w₁ q => ∃ events, w₁.trail = w.trail ++ events ∧
            Trailing engine (w.objects ref).id events q) w starts
          (by
            rintro w₁ w₂ q q' ⟨events, passed, trailing⟩ fresh room moved
            obtain ⟨calls, only, trail⟩ := moved.trail
            refine ⟨_, ?_, trailing.moved fresh room moved.visited only⟩
            rw [trail, passed, List.append_assoc, List.append_assoc])
          ⟨[], by simp [World.begin], first⟩
      obtain ⟨tail, appended, bounded⟩ := trailing.bounded running stops stopped
      refine ⟨events ++ tail, ?_, ?_⟩
      · rw [final, appended, passed, List.append_assoc]
      · rw [final]
        exact bounded.of_errors same

end SyndicateClaw.Orchestrator
