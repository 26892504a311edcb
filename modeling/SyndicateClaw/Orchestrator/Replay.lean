import SyndicateClaw.Orchestrator.Checkpoint
import SyndicateClaw.Orchestrator.ExecutionBounds
import SyndicateClaw.Orchestrator.RunEndings

/-! `replay` followed by `execute`.

`replay` puts the checkpointed state back and leaves the node the engine stands at.
The second call therefore enters at the last node of the first one, and does again
what the first did after the checkpoint only if that is where the checkpoint was
left. -/

namespace SyndicateClaw.Orchestrator

open Async

def WorkflowEngine.Deterministic (engine : WorkflowEngine) : Prop :=
  ∀ name handler, engine.handlers name = some handler →
    ∀ calls calls' state context, handler calls state context = handler calls' state context

section attempts

variable {handler : NodeHandler}
  (steady : ∀ calls calls' state context, handler calls state context = handler calls' state context)
  (runId : String) (node : NodeDefinition) (context : ExecutionContext)

include steady

theorem runAttempts_steady (retries attempt calls calls' : Nat) (state : State) :
    (runAttempts handler runId node context retries attempt calls state).exit =
        (runAttempts handler runId node context retries attempt calls' state).exit ∧
      (runAttempts handler runId node context retries attempt calls state).state =
        (runAttempts handler runId node context retries attempt calls' state).state := by
  induction retries generalizing attempt calls calls' state with
  | zero =>
      simp only [runAttempts, runOnce]
      rw [steady calls calls']
      exact ⟨rfl, rfl⟩
  | succ retries ih =>
      have once := steady calls calls' state { context with attempt }
      rw [runAttempts, runAttempts]
      simp only [runOnce, once]
      split
      · exact ih _ _ _ _
      · simp

theorem nodeRun_steady (calls calls' : Nat) (state : State) :
    (nodeRun handler runId node context calls state).exit =
        (nodeRun handler runId node context calls' state).exit ∧
      (nodeRun handler runId node context calls state).state =
        (nodeRun handler runId node context calls' state).state :=
  runAttempts_steady steady runId node _ _ 1 calls calls' state

end attempts

section walk

variable {engine : WorkflowEngine} {workflow : WorkflowDefinition} {context : ExecutionContext}
  {now now' : Instant} {q q' : Position}

def Position.returned (engine : WorkflowEngine) (q : Position) (node : NodeDefinition)
    (r : HandlerRun) (result : NodeResult) : WorkflowRun :=
  checkpointRun engine result (closeRun node.id (.returned result) (r.written q.run))

structure Position.Moves (engine : WorkflowEngine) (workflow : WorkflowDefinition)
    (context : ExecutionContext) (q q' : Position) (node : NodeDefinition) (r : HandlerRun)
    (result : NodeResult) : Prop where
  executes : q.Executes engine context workflow node r
  exit : r.exit = .returned result
  other : node.nodeType ≠ .endNode
  chosen : successor workflow node result (q.returned engine node r result) = some q'.current
  next : q' = { visited := q.visited ++ [q.current], current := q'.current
                run := q.returned engine node r result, calls := r.calls, ids := q.ids + 1 }

theorem iteration_moves (moves : q.iteration engine workflow context now = .inr q') :
    ∃ node r result, q.Moves engine workflow context q' node r result := by
  simp only [Position.iteration] at moves
  split_ifs at moves with seen full
  unfold Position.enter at moves
  split at moves
  · cases moves
  · next node found =>
      split at moves
      · cases moves
      · next handler present =>
          unfold Position.visit at moves
          generalize ran : nodeRun handler q.run.id node { context with nodeId := q.current } q.calls
            q.run.state = r at moves
          cases left : r.exit with
          | returned result =>
              simp only [left] at moves
              split_ifs at moves with last
              split at moves
              · cases moves
              · next next chosen =>
                  obtain rfl := Sum.inr.inj moves
                  exact ⟨node, r, result, ⟨handler, seen, by omega, found, present, ran.symm⟩,
                    left, last, chosen, rfl⟩
          | _ => simp [left] at moves

theorem Position.Moves.iteration {node : NodeDefinition} {r : HandlerRun} {result : NodeResult}
    (moves : q.Moves engine workflow context q' node r result) :
    q.iteration engine workflow context now = .inr q' := by
  obtain ⟨handler, iteration, ran⟩ := moves.executes.iteration now
  have chosen := moves.chosen
  rw [Position.returned] at chosen
  rw [iteration, Position.visit, ran]
  simp only [moves.exit, if_neg moves.other, chosen]
  rw [moves.next]
  rfl

/-- Two positions with the same node, state and run id, where one has come from
further back. -/
structure Position.Twin (before : List String) (q twin : Position) : Prop where
  visited : q.visited = before ++ twin.visited
  current : twin.current = q.current
  id : twin.run.id = q.run.id
  state : twin.run.state = q.run.state
  status : twin.run.status = q.run.status

section twins

variable {before : List String} {twin : Position} (steady : engine.Deterministic)
  (twins : q.Twin before twin)

include steady twins

theorem Position.Twin.executes {node : NodeDefinition} {r : HandlerRun}
    (executes : q.Executes engine context workflow node r) :
    ∃ r', twin.Executes engine context workflow node r' ∧ r'.exit = r.exit ∧
      r'.state = r.state := by
  obtain ⟨handler, fresh, room, found, present, rfl⟩ := executes
  have same := nodeRun_steady (steady _ _ present) q.run.id node
    { context with nodeId := q.current } twin.calls q.calls q.run.state
  refine ⟨_, ⟨handler, ?_, ?_, ?_, present, rfl⟩, ?_⟩
  · rw [twins.current]
    exact fun seen => fresh (twins.visited ▸ List.mem_append_right _ seen)
  · rw [twins.visited, List.length_append] at room
    omega
  · rw [twins.current, found]
  · rw [twins.id, twins.current, twins.state]
    exact same

theorem Position.Twin.moves (moves : q.iteration engine workflow context now = .inr q') :
    ∃ twin', twin.iteration engine workflow context now' = .inr twin' ∧ q'.Twin before twin' := by
  obtain ⟨node, r, result, moved⟩ := iteration_moves moves
  obtain ⟨r', executes, exit, state⟩ := twins.executes steady moved.executes
  have after : (twin.returned engine node r' result).state =
      (q.returned engine node r result).state := by
    simp only [Position.returned, checkpointRun_state]
    simp only [closeRun, concludeRun, HandlerRun.written, state]
  let twin' : Position :=
    { visited := twin.visited ++ [twin.current], current := q'.current
      run := twin.returned engine node r' result, calls := r'.calls, ids := twin.ids + 1 }
  have moved' : twin.Moves engine workflow context twin' node r' result := by
    refine ⟨executes, exit.trans moved.exit, moved.other, ?_, rfl⟩
    rw [successor, after]
    exact moved.chosen
  refine ⟨twin', moved'.iteration, ?_⟩
  have recorded := fun (p : Position) (r : HandlerRun) => checkpointRun_record engine result
    (closeRun node.id (.returned result) (r.written p.run))
  rw [moved.next]
  constructor
  · show q.visited ++ [q.current] = before ++ (twin.visited ++ [twin.current])
    rw [twins.visited, twins.current, List.append_assoc]
  · rfl
  · exact (recorded twin r').2.1.trans (twins.id.trans (recorded q r).2.1.symm)
  · exact after
  · exact (recorded twin r').2.2.trans (twins.status.trans (recorded q r).2.2.symm)

theorem Position.Twin.reaches (reached : q.Reaches engine workflow context now q') :
    ∃ twin', twin.Reaches engine workflow context now' twin' ∧ q'.Twin before twin' := by
  induction reached with
  | refl => exact ⟨twin, .refl, twins⟩
  | tail _ moves ih =>
      obtain ⟨twin', reached', twins'⟩ := ih
      obtain ⟨twin'', moves', twins''⟩ := twins'.moves steady moves
      exact ⟨twin'', reached'.tail moves', twins''⟩

end twins

/-- How a finished run ended: its status, what failed it and its state. -/
def WorkflowRun.outcome (run : WorkflowRun) : WorkflowRunStatus × Option String × State :=
  (run.status, if run.status = .failed then run.error else none, run.state)

variable (now') in
theorem Position.Twin.stops {before : List String} {twin : Position} {stop : Stop}
    (steady : engine.Deterministic) (twins : q.Twin before twin)
    (running : q.run.status = .running)
    (fresh : q.current ∉ q.visited) (room : q.visited.length < engine.maxSteps)
    (stops : q.iteration engine workflow context now = .inl stop)
    (finished : stop.run.status ∈ [.completed, .failed]) :
    ∃ stop', twin.iteration engine workflow context now' = .inl stop' ∧
      stop'.ending = stop.ending ∧ stop'.run.outcome = stop.run.outcome := by
  have fresh' : twin.current ∉ twin.visited := by
    rw [twins.current]
    exact fun seen => fresh (twins.visited ▸ List.mem_append_right _ seen)
  have room' : ¬ engine.maxSteps < twin.visited.length + 1 := by
    rw [twins.visited, List.length_append] at room
    omega
  simp only [Position.iteration, if_neg fresh, if_neg (show ¬ engine.maxSteps <
    q.visited.length + 1 by omega)] at stops
  simp only [Position.iteration, if_neg fresh', if_neg room']
  unfold Position.enter at stops ⊢
  rw [twins.current]
  cases found : workflow.node? q.current with
  | none =>
      rw [found] at stops
      obtain rfl := Sum.inl.inj stops
      exact ⟨_, rfl, rfl, by simp [WorkflowRun.outcome, twins.state]⟩
  | some node =>
      simp only [found] at stops ⊢
      cases present : engine.handlers node.handler with
      | none =>
          rw [present] at stops
          obtain rfl := Sum.inl.inj stops
          exact ⟨_, rfl, rfl, by simp [WorkflowRun.outcome, twins.state]⟩
      | some handler =>
          simp only [present] at stops ⊢
          obtain ⟨exit, state⟩ := nodeRun_steady (steady _ _ present) q.run.id node
            { context with nodeId := q.current } twin.calls q.calls q.run.state
          unfold Position.visit at stops ⊢
          rw [twins.id, twins.current, twins.state]
          generalize nodeRun handler q.run.id node { context with nodeId := q.current } q.calls
            q.run.state = r at stops exit state
          generalize nodeRun handler q.run.id node { context with nodeId := q.current } twin.calls
            q.run.state = r' at exit state ⊢
          cases left : r.exit with
          | returned result =>
              simp only [exit, left] at stops ⊢
              split_ifs at stops ⊢ with last
              · obtain rfl := Sum.inl.inj stops
                refine ⟨_, rfl, rfl, ?_⟩
                simp only [WorkflowRun.outcome, checkpointRun_state]
                simp [closeRun, concludeRun, HandlerRun.written, state]
              · split at stops
                · obtain rfl := Sum.inl.inj stops
                  rw [(checkpointRun_record engine result _).2.2, closeRun, concludeRun,
                    HandlerRun.written, running] at finished
                  simp at finished
                · cases stops
          | failed message =>
              simp only [exit, left] at stops ⊢
              obtain rfl := Sum.inl.inj stops
              refine ⟨_, rfl, rfl, ?_⟩
              simp [WorkflowRun.outcome, closeRun, concludeRun, HandlerRun.written, state]
          | escaped message =>
              simp only [left] at stops
              obtain rfl := Sum.inl.inj stops
              simp [HandlerRun.written, running] at finished
          | _ =>
              simp only [left] at stops
              obtain rfl := Sum.inl.inj stops
              simp [closeRun, concludeRun] at finished

/-! ### Checkpoints along a walk -/

def Position.Saves (engine : WorkflowEngine) (workflow : WorkflowDefinition)
    (context : ExecutionContext) (q : Position) (saved : State) : Prop :=
  ∃ node r result, q.Executes engine context workflow node r ∧ r.exit = .returned result ∧
    result.shouldCheckpoint ∧ (q.returned engine node r result).state = saved

theorem Position.Executes.unique {node node' : NodeDefinition} {r r' : HandlerRun}
    (one : q.Executes engine context workflow node r)
    (two : q.Executes engine context workflow node' r') : node = node' ∧ r = r' := by
  obtain ⟨handler, -, -, found, present, rfl⟩ := one
  obtain ⟨handler', -, -, found', present', rfl⟩ := two
  obtain rfl := Option.some.inj (found.symm.trans found')
  obtain rfl := Option.some.inj (present.symm.trans present')
  exact ⟨rfl, rfl⟩

theorem checkpointRun_checkpointData (engine : WorkflowEngine) (result : NodeResult)
    (run : WorkflowRun) :
    (checkpointRun engine result run).checkpointData =
      if result.shouldCheckpoint then some (checkpointFor engine run.state)
      else run.checkpointData := by
  unfold checkpointRun
  split <;> rfl

theorem returned_checkpointData {node : NodeDefinition} {r : HandlerRun} {result : NodeResult}
    (executes : q.Executes engine context workflow node r) (left : r.exit = .returned result) :
    (∀ saved, q.Saves engine workflow context saved →
      (q.returned engine node r result).checkpointData = some (checkpointFor engine saved) ∧
        (q.returned engine node r result).state = saved) ∧
    ((∀ saved, ¬ q.Saves engine workflow context saved) →
      (q.returned engine node r result).checkpointData = q.run.checkpointData) := by
  constructor
  · rintro saved ⟨node', r', result', executes', left', saves, rfl⟩
    obtain ⟨rfl, rfl⟩ := executes.unique executes'
    obtain rfl := HandlerExit.returned.inj (left.symm.trans left')
    refine ⟨?_, rfl⟩
    rw [Position.returned, checkpointRun_checkpointData, if_pos saves, checkpointRun_state]
  · intro never
    rw [Position.returned, checkpointRun_checkpointData, if_neg]
    · rfl
    · exact fun saves => never _ ⟨node, r, result, executes, left, saves, rfl⟩

theorem moves_checkpointData (moves : q.iteration engine workflow context now = .inr q') :
    (∀ saved, q.Saves engine workflow context saved →
      q'.run.checkpointData = some (checkpointFor engine saved) ∧ q'.run.state = saved) ∧
    ((∀ saved, ¬ q.Saves engine workflow context saved) →
      q'.run.checkpointData = q.run.checkpointData) := by
  obtain ⟨node, r, result, moved⟩ := iteration_moves moves
  rw [moved.next]
  exact returned_checkpointData moved.executes moved.exit

theorem reaches_checkpointData (reached : q.Reaches engine workflow context now q')
    (never : ∀ p, q.Reaches engine workflow context now p →
      ∀ saved, ¬ p.Saves engine workflow context saved) :
    q'.run.checkpointData = q.run.checkpointData := by
  induction reached with
  | refl => rfl
  | tail before moves ih => exact ((moves_checkpointData moves).2 (never _ before)).trans ih

theorem visit_checkpointData {node : NodeDefinition} {handler : NodeHandler} {r : HandlerRun}
    {stop : Stop} (executes : q.Executes engine context workflow node r)
    (ran : nodeRun handler q.run.id node { context with nodeId := q.current } q.calls
      q.run.state = r)
    (stops : q.visit engine workflow context now node handler = .inl stop) :
    (∀ saved, q.Saves engine workflow context saved →
      stop.run.checkpointData = some (checkpointFor engine saved)) ∧
    ((∀ saved, ¬ q.Saves engine workflow context saved) →
      stop.run.checkpointData = q.run.checkpointData) := by
  simp only [Position.visit, ran] at stops
  cases left : r.exit with
  | returned result =>
      obtain ⟨saves, kept⟩ := returned_checkpointData executes left
      simp only [left] at stops
      split_ifs at stops with last
      · obtain rfl := Sum.inl.inj stops
        exact ⟨fun saved taken => (saves saved taken).1, kept⟩
      · split at stops
        · obtain rfl := Sum.inl.inj stops
          exact ⟨fun saved taken => (saves saved taken).1, kept⟩
        · cases stops
  | _ =>
      simp only [left] at stops
      obtain rfl := Sum.inl.inj stops
      refine ⟨?_, fun _ => rfl⟩
      rintro saved ⟨node', r', result, executes', left', -⟩
      obtain ⟨rfl, rfl⟩ := executes.unique executes'
      rw [left] at left'
      cases left'

theorem stops_checkpointData {stop : Stop}
    (stops : q.iteration engine workflow context now = .inl stop) :
    (∀ saved, q.Saves engine workflow context saved →
      stop.run.checkpointData = some (checkpointFor engine saved)) ∧
    ((∀ saved, ¬ q.Saves engine workflow context saved) →
      stop.run.checkpointData = q.run.checkpointData) := by
  simp only [Position.iteration] at stops
  split_ifs at stops with seen full
  · obtain rfl := Sum.inl.inj stops
    refine ⟨?_, fun _ => rfl⟩
    rintro saved ⟨_, _, _, ⟨_, fresh, _⟩, _⟩
    exact absurd seen fresh
  · obtain rfl := Sum.inl.inj stops
    refine ⟨?_, fun _ => rfl⟩
    rintro saved ⟨_, _, _, ⟨_, _, room, _⟩, _⟩
    exact absurd full (by omega)
  · unfold Position.enter at stops
    split at stops
    · next missing =>
        obtain rfl := Sum.inl.inj stops
        refine ⟨?_, fun _ => rfl⟩
        rintro saved ⟨node, r, result, ⟨handler, -, -, found, -⟩, -⟩
        rw [missing] at found
        cases found
    · next node found =>
        split at stops
        · next missing =>
            obtain rfl := Sum.inl.inj stops
            refine ⟨?_, fun _ => rfl⟩
            rintro saved ⟨node', r, result, ⟨handler, -, -, found', present, -⟩, -⟩
            obtain rfl := Option.some.inj (found.symm.trans found')
            rw [missing] at present
            cases present
        · next handler present =>
            exact visit_checkpointData ⟨handler, seen, by omega, found, present, rfl⟩ rfl stops

/-! ### One call -/

theorem reaches_visited (reached : q.Reaches engine workflow context now q') :
    ∃ passed, q'.visited = q.visited ++ passed ∧
      (passed ++ [q'.current]).head? = some q.current ∧
      (∀ nodeId ∈ passed, (workflow.node? nodeId).isSome) ∧
      (q.visited.length ≤ engine.maxSteps → q'.visited.length ≤ engine.maxSteps) := by
  induction reached with
  | refl => exact ⟨[], by simp, rfl, by simp, fun within => within⟩
  | @tail m q' _ moves ih =>
      obtain ⟨passed, visited, head, known, -⟩ := ih
      obtain ⟨node, r, result, moved⟩ := iteration_moves moves
      obtain ⟨handler, -, room, found, -⟩ := moved.executes
      have next : q'.visited = m.visited ++ [m.current] := by rw [moved.next]
      refine ⟨passed ++ [m.current], ?_, ?_, ?_, ?_⟩
      · rw [next, visited, List.append_assoc]
      · rw [List.head?_append, head]
        rfl
      · intro nodeId member
        rcases List.mem_append.mp member with early | last
        · exact known nodeId early
        · rw [List.mem_singleton.mp last, found]
          rfl
      · intro _
        rw [next, List.length_append, List.length_singleton]
        omega

theorem Position.Reaches.onward {p start : Position} {stop : Stop}
    (reached : start.Reaches engine workflow context now p)
    (reached' : start.Reaches engine workflow context now q)
    (stops : q.iteration engine workflow context now = .inl stop) :
    p.Reaches engine workflow context now q := by
  have deterministic : Relator.RightUnique fun p q : Position =>
      p.iteration engine workflow context now = .inr q := by
    intro a b c moves moves'
    exact Sum.inr.inj (moves.symm.trans moves')
  rcases Relation.ReflTransGen.total_of_right_unique deterministic reached reached' with
    later | later
  · exact later
  · rcases later.cases_head with rfl | ⟨next, moves, -⟩
    · exact .refl
    · cases stops.symm.trans moves

def Position.dispatched (q : Position) (stop : Stop) : List String :=
  q.visited ++ if stop.ending.dispatches then [q.current] else []

/-- One call of `execute`: where it stops, the run it leaves, the nodes it dispatched,
and the place the engine then has for the run. -/
structure CallStops (engine : WorkflowEngine) (workflow : WorkflowDefinition)
    (context : ExecutionContext) (ref : Nat) (startNode : NodeDefinition) (w w' : World)
    (q : Position) (stop : Stop) : Prop where
  reached : (w.entry ref startNode).Reaches engine workflow context w.now q
  running : q.run.status = .running
  stops : q.iteration engine workflow context w.now = .inl stop
  run : stop.ending ≠ .waiting → w'.objects ref = stop.run
  status : (w'.objects ref).status = stop.run.status
  dispatched : dispatchedNodes (w.objects ref).id (w'.trail.drop w.trail.length) =
    q.dispatched stop
  place : (w'.runs (w.objects ref).id).map (·.place) =
    some (((w.runs (w.objects ref).id).getD { run := ref }).run,
      (q.dispatched stop).getLast?.or
        ((w.runs (w.objects ref).id).bind (·.currentNodeId)))

variable (engine context) in
theorem execute_stops (ref : Nat) (w : World) {startNode : NodeDefinition}
    (starts : findStartNode workflow = some startNode) :
    ∃ q stop, CallStops engine workflow context ref startNode w
      ((execute engine ref context workflow).settle w).1 q stop := by
  let id := (w.objects ref).id
  let registered := (w.runs id).getD { run := ref }
  have first : Trailing engine id [] (w.entry ref startNode) := by
    constructor <;> simp [dispatchedNodes, pendingNode, World.entry]
  have current : (w.runs id).bind (·.currentNodeId) = registered.currentNodeId := by
    cases found : w.runs id <;> simp [registered, found]
  obtain ⟨w₁, q, stop, w', outcome, reached, ⟨events, passed, trailing, place⟩, running, stops,
    stopped, final, -⟩ := execute_walks engine workflow context ref
      (fun w₁ q => ∃ events, w₁.trail = w.trail ++ events ∧ Trailing engine id events q ∧
        (w₁.runs id).map (·.place) =
          some (registered.run, q.visited.getLast?.or registered.currentNodeId)) w starts
      (by
        rintro w₁ w₂ q q' ⟨events, passed, trailing, place⟩ fresh room moved
        obtain ⟨calls, only, trail⟩ := moved.trail
        refine ⟨_, ?_, trailing.moved fresh room moved.visited only, ?_⟩
        · rw [trail, passed, List.append_assoc, List.append_assoc]
        · obtain ⟨result, found, placed⟩ := Option.map_eq_some_iff.mp place
          rw [moved.place, found, moved.visited, List.getLast?_concat]
          have held : result.run = registered.run := congrArg Prod.fst placed
          exact congrArg some (Prod.ext held rfl))
      (by
        refine ⟨[], by simp [World.begin], first, ?_⟩
        simp [World.begin, World.entry, WorkflowRunResult.place, registered, id])
  obtain ⟨result, found, placed⟩ := Option.map_eq_some_iff.mp place
  obtain ⟨tail, appended, shape, -⟩ := stopped.trail
  refine ⟨q, stop, reached, running, stops, ?_, ?_, ?_, ?_⟩
  · rw [final]
    exact stopped.run
  · rw [final]
    exact stopped.status
  · rw [final, appended, passed, List.append_assoc, List.drop_left, dispatchedNodes_append,
      trailing.dispatched, Position.dispatched]
    split_ifs at shape ⊢ with dispatches
    · obtain ⟨calls, rfl, only⟩ := shape
      have silent := dispatchedNodes_calls (w.objects ref).id only
      simp only [dispatchedNodes] at silent
      simp [dispatchedNodes, silent]
    · rw [shape]
      rfl
  · rw [final, stopped.place, found, current, Position.dispatched]
    have held : result.run = registered.run := congrArg Prod.fst placed
    have at_node : result.currentNodeId = _ := congrArg Prod.snd placed
    refine congrArg some (Prod.ext held ?_)
    split_ifs with dispatches
    · simp
    · simpa using at_node

theorem reaches_id (reached : q.Reaches engine workflow context now q') :
    q'.run.id = q.run.id := by
  induction reached with
  | refl => rfl
  | tail _ moves ih =>
      obtain ⟨node, r, result, moved⟩ := iteration_moves moves
      rw [moved.next, ← ih]
      exact (checkpointRun_record engine result _).2.1

theorem stops_id {stop : Stop} (stops : q.iteration engine workflow context now = .inl stop) :
    stop.run.id = q.run.id := by
  simp only [Position.iteration] at stops
  split_ifs at stops
  · obtain rfl := Sum.inl.inj stops
    rfl
  · obtain rfl := Sum.inl.inj stops
    rfl
  · unfold Position.enter at stops
    split at stops
    · obtain rfl := Sum.inl.inj stops
      rfl
    · split at stops
      · obtain rfl := Sum.inl.inj stops
        rfl
      · next node _ _ handler _ =>
          unfold Position.visit at stops
          generalize nodeRun handler q.run.id node { context with nodeId := q.current } q.calls
            q.run.state = r at stops
          cases left : r.exit with
          | returned result =>
              simp only [left] at stops
              split_ifs at stops
              · obtain rfl := Sum.inl.inj stops
                exact (checkpointRun_record engine result _).2.1
              · split at stops
                · obtain rfl := Sum.inl.inj stops
                  exact (checkpointRun_record engine result _).2.1
                · cases stops
          | _ =>
              simp only [left] at stops
              obtain rfl := Sum.inl.inj stops
              rfl

/-! ### The second call -/

def Position.Within (engine : WorkflowEngine) (q : Position) : Prop :=
  q.current ∉ q.visited ∧ q.visited.length < engine.maxSteps

theorem nodeNotFound_ne {reason : String} (nodeId : String)
    (kind : reason = "cycle_detected" ∨ reason = "step_limit_exceeded") :
    "Node not found: " ++ nodeId ≠ reason := by
  intro same
  have letters := congrArg String.toList same
  rcases kind with rfl | rfl <;> simp at letters

theorem boundFailure_state_ne {run run' : WorkflowRun} {reason : String} {path path' : List String}
    {steps steps' : Nat} (fewer : steps' < steps) :
    (boundFailure now' reason path' steps' run').state ≠
      (boundFailure now reason path steps run).state := by
  intro same
  have recorded := congrArg (Dict.get? · "_execution_bound") same
  simp only [boundFailure, Dict.get?_set_self, Option.some.injEq, Value.dict.injEq,
    List.cons.injEq, Prod.mk.injEq, true_and, Value.int.injEq] at recorded
  omega

theorem dispatched_head {start : Position} (stop : Stop) {passed : List String}
    (visited : q.visited = start.visited ++ passed)
    (head : (passed ++ [q.current]).head? = some start.current)
    (some_node : (q.dispatched stop).drop start.visited.length ≠ []) :
    ((q.dispatched stop).drop start.visited.length).head? = some start.current := by
  rw [Position.dispatched, visited, List.append_assoc, List.drop_left] at some_node ⊢
  split_ifs at some_node ⊢ with dispatches
  · exact head
  · cases passed with
    | nil => simp at some_node
    | cons first passed => simpa using head

theorem enter_dispatches {stop : Stop} {node : NodeDefinition}
    (within : q.Within engine) (found : workflow.node? q.current = some node)
    (stops : q.iteration engine workflow context now = .inl stop) : stop.ending.dispatches := by
  simp only [Position.iteration, if_neg within.1, if_neg (show ¬ engine.maxSteps <
    q.visited.length + 1 by have := within.2; omega), Position.enter, found] at stops
  split at stops
  · obtain rfl := Sum.inl.inj stops
    rfl
  · next handler _ =>
      unfold Position.visit at stops
      generalize nodeRun handler q.run.id node { context with nodeId := q.current } q.calls
        q.run.state = r at stops
      cases left : r.exit with
      | returned result =>
          simp only [left] at stops
          split_ifs at stops
          · obtain rfl := Sum.inl.inj stops
            rfl
          · split at stops
            · obtain rfl := Sum.inl.inj stops
              rfl
            · cases stops
      | waitForApproval exc =>
          simp only [left] at stops
          obtain rfl := Sum.inl.inj stops
          split_ifs <;> rfl
      | _ =>
          simp only [left] at stops
          obtain rfl := Sum.inl.inj stops
          rfl

theorem stops_undispatched {stop : Stop}
    (stops : q.iteration engine workflow context now = .inl stop)
    (undispatched : stop.ending.dispatches = false) :
    stop.run.status = .failed ∧
      if q.current ∈ q.visited then
        ∃ path, stop.run = boundFailure now "cycle_detected" path (q.visited.length + 1) q.run
      else if engine.maxSteps ≤ q.visited.length then
        ∃ path, stop.run = boundFailure now "step_limit_exceeded" path (q.visited.length + 1) q.run
      else workflow.node? q.current = none ∧
        stop.run.error = some ("Node not found: " ++ q.current) := by
  by_cases seen : q.current ∈ q.visited
  · simp only [Position.iteration, if_pos seen] at stops
    obtain rfl := Sum.inl.inj stops
    exact ⟨rfl, by rw [if_pos seen]; exact ⟨_, rfl⟩⟩
  · by_cases full : engine.maxSteps ≤ q.visited.length
    · simp only [Position.iteration, if_neg seen, if_pos (show engine.maxSteps <
        q.visited.length + 1 by omega)] at stops
      obtain rfl := Sum.inl.inj stops
      exact ⟨rfl, by rw [if_neg seen, if_pos full]; exact ⟨_, rfl⟩⟩
    · rw [if_neg seen, if_neg full]
      cases found : workflow.node? q.current with
      | none =>
          simp only [Position.iteration, if_neg seen, if_neg (show ¬ engine.maxSteps <
            q.visited.length + 1 by omega), Position.enter, found] at stops
          obtain rfl := Sum.inl.inj stops
          exact ⟨rfl, rfl, rfl⟩
      | some node =>
          rw [enter_dispatches ⟨seen, by omega⟩ found stops] at undispatched
          cases undispatched

theorem bound_undispatched {stop : Stop}
    (stops : q.iteration engine workflow context now = .inl stop) (bound : ¬ q.Within engine) :
    stop.ending.dispatches = false := by
  simp only [Position.iteration] at stops
  split_ifs at stops with seen full
  · obtain rfl := Sum.inl.inj stops
    rfl
  · obtain rfl := Sum.inl.inj stops
    rfl
  · exact absurd ⟨seen, by omega⟩ bound

section secondCall

variable {next e q₂ : Position} {stop stop₂ : Stop}

/-- The rest of a finished call, from the position after the checkpoint, and a call that
enters with the state of that position. -/
structure CallsTwice (engine : WorkflowEngine) (workflow : WorkflowDefinition)
    (context : ExecutionContext) (now now' : Instant) (next q e q₂ : Position)
    (stop stop₂ : Stop) : Prop where
  onward : next.Reaches engine workflow context now q
  running : next.run.status = .running
  stops : q.iteration engine workflow context now = .inl stop
  finished : stop.run.status ∈ [.completed, .failed]
  enters : e.visited = []
  id : e.run.id = next.run.id
  state : e.run.state = next.run.state
  status : e.run.status = .running
  onward₂ : e.Reaches engine workflow context now' q₂
  stops₂ : q₂.iteration engine workflow context now' = .inl stop₂

variable (twice : CallsTwice engine workflow context now now' next q e q₂ stop stop₂)

include twice

theorem CallsTwice.twins (steady : engine.Deterministic) (same : e.current = next.current) :
    ∃ twin, e.Reaches engine workflow context now' twin ∧ q.Twin next.visited twin := by
  have twins : next.Twin next.visited e :=
    ⟨by rw [twice.enters, List.append_nil], same, twice.id, twice.state,
      twice.status.trans twice.running.symm⟩
  exact twins.reaches steady twice.onward

theorem CallsTwice.repeats (steady : engine.Deterministic) (same : e.current = next.current)
    (within : q.Within engine) :
    q₂.dispatched stop₂ = (q.dispatched stop).drop next.visited.length ∧
      stop₂.ending = stop.ending ∧ stop₂.run.outcome = stop.run.outcome := by
  obtain ⟨twin, reached, twins⟩ := twice.twins steady same
  obtain ⟨stop', stops', ending, outcome⟩ := twins.stops now' steady
    (twice.onward.running twice.running) within.1 within.2 twice.stops twice.finished
  obtain rfl := twice.onward₂.unique engine workflow context now' reached twice.stops₂ stops'
  obtain rfl := Sum.inl.inj (stops'.symm.trans twice.stops₂)
  refine ⟨?_, ending, outcome⟩
  rw [Position.dispatched, Position.dispatched, twins.visited, List.append_assoc, List.drop_left,
    ending, twins.current]

/-- A call that ended at a bound is not repeated: the second call has not been where the
first was before the checkpoint. -/
theorem CallsTwice.bound (steady : engine.Deterministic) (same : e.current = next.current)
    (bound : ¬ q.Within engine) (limit : q.visited.length ≤ engine.maxSteps)
    (passed : 0 < next.visited.length)
    (known : ∀ nodeId ∈ q.visited, (workflow.node? nodeId).isSome)
    (nodes : q₂.dispatched stop₂ = (q.dispatched stop).drop next.visited.length) :
    stop₂.run.outcome ≠ stop.run.outcome := by
  obtain ⟨twin, reached, twins⟩ := twice.twins steady same
  have undispatched := bound_undispatched twice.stops bound
  have nodes' : q₂.dispatched stop₂ = twin.visited := by
    rw [nodes, Position.dispatched, undispatched, twins.visited]
    simp
  have length : q.visited.length = next.visited.length + twin.visited.length := by
    rw [twins.visited, List.length_append]
  -- The second call comes to the twin and stops there, for it dispatches no more nodes.
  have onward := reached.onward twice.onward₂ twice.stops₂
  have here : q₂ = twin ∧ stop₂.ending.dispatches = false := by
    rcases onward.cases_head with rfl | ⟨q₃, moves, onward'⟩
    · refine ⟨rfl, ?_⟩
      rw [Position.dispatched] at nodes'
      split at nodes' <;> simp_all
    · obtain ⟨node, r, result, moved⟩ := iteration_moves moves
      obtain ⟨more, visited, -⟩ := reaches_visited onward'
      have counts := congrArg List.length nodes'
      rw [Position.dispatched, visited, moved.next] at counts
      simp at counts
  obtain ⟨rfl, undispatched₂⟩ := here
  obtain ⟨failed, why⟩ := stops_undispatched twice.stops undispatched
  obtain ⟨failed₂, why₂⟩ := stops_undispatched twice.stops₂ undispatched₂
  intro outcome
  simp only [WorkflowRun.outcome, failed, failed₂, if_true, Prod.mk.injEq] at outcome
  obtain ⟨-, errors, states⟩ := outcome
  rw [twins.current] at why₂
  by_cases again : q.current ∈ q₂.visited
  · have seen : q.current ∈ q.visited := twins.visited ▸ List.mem_append_right _ again
    rw [if_pos seen] at why
    rw [if_pos again] at why₂
    obtain ⟨path, why⟩ := why
    obtain ⟨path₂, why₂⟩ := why₂
    rw [why, why₂] at states
    exact boundFailure_state_ne (by omega) states
  · rw [if_neg again, if_neg (by omega)] at why₂
    obtain ⟨missing, error₂⟩ := why₂
    have fresh : q.current ∉ q.visited := by
      intro seen
      have found := known _ seen
      rw [missing] at found
      cases found
    have full : engine.maxSteps ≤ q.visited.length := by
      by_contra room
      exact bound ⟨fresh, by omega⟩
    rw [if_neg fresh, if_pos full] at why
    obtain ⟨path, why⟩ := why
    rw [error₂, why] at errors
    exact nodeNotFound_ne q.current (.inr rfl) (Option.some.inj errors)

/-- A repetition begins with the node after the checkpoint. -/
theorem CallsTwice.same_entry
    (nodes : q₂.dispatched stop₂ = (q.dispatched stop).drop next.visited.length)
    (outcome : stop₂.run.outcome = stop.run.outcome) : e.current = next.current := by
  obtain ⟨passed, visited, head, -⟩ := reaches_visited twice.onward
  obtain ⟨passed₂, visited₂, head₂, -, -⟩ := reaches_visited twice.onward₂
  have all : (q₂.dispatched stop₂).drop e.visited.length = q₂.dispatched stop₂ := by
    rw [twice.enters]
    rfl
  by_cases none_left : q₂.dispatched stop₂ = []
  · -- Neither call dispatches a node, so both stop where they enter.
    rw [none_left, Position.dispatched, visited, List.append_assoc, List.drop_left] at nodes
    obtain ⟨rfl, undispatched⟩ := List.append_eq_nil_iff.mp nodes.symm
    obtain ⟨nowhere, undispatched₂⟩ := List.append_eq_nil_iff.mp none_left
    obtain rfl : passed₂ = [] := by simpa [twice.enters, nowhere] using visited₂.symm
    have undispatched : stop.ending.dispatches = false := by
      by_contra dispatches
      simp [dispatches] at undispatched
    have undispatched₂ : stop₂.ending.dispatches = false := by
      by_contra dispatches
      simp [dispatches] at undispatched₂
    have here : q.current = next.current := by simpa using head
    have here₂ : q₂.current = e.current := by simpa using head₂
    obtain ⟨failed, why⟩ := stops_undispatched twice.stops undispatched
    obtain ⟨failed₂, why₂⟩ := stops_undispatched twice.stops₂ undispatched₂
    have room := engine.one_le_maxSteps
    rw [nowhere, if_neg (by simp), if_neg (by simp; omega)] at why₂
    obtain ⟨-, error₂⟩ := why₂
    simp only [WorkflowRun.outcome, failed, failed₂, if_true, Prod.mk.injEq] at outcome
    obtain ⟨-, errors, -⟩ := outcome
    rw [error₂] at errors
    split_ifs at why with seen full
    · obtain ⟨path, why⟩ := why
      rw [why] at errors
      exact absurd (Option.some.inj errors) (nodeNotFound_ne _ (.inl rfl))
    · obtain ⟨path, why⟩ := why
      rw [why] at errors
      exact absurd (Option.some.inj errors) (nodeNotFound_ne _ (.inr rfl))
    · rw [why.2, here, here₂] at errors
      exact String.append_right_inj _ |>.mp (Option.some.inj errors)
  · have one := dispatched_head stop visited head (nodes ▸ none_left)
    have two := dispatched_head stop₂ visited₂ head₂ (by rwa [all])
    rw [all, nodes, one] at two
    exact (Option.some.inj two).symm

end secondCall

end walk

section replay

variable (engine : WorkflowEngine) (ref : Nat) (context : ExecutionContext)
  (workflow : WorkflowDefinition) (w : World)

/-- The nodes a call of `execute` dispatches. -/
def nodesOf (w : World) : List String :=
  dispatchedNodes (w.objects ref).id
    (((execute engine ref context workflow).settle w).1.trail.drop w.trail.length)

/-- The run is replayed with this state and executed again; the second call dispatches
the nodes the first did after the checkpoint at this position, and ends the same way. -/
def Reexecutes (p : Position) (saved : State) : Prop :=
  let first := ((execute engine ref context workflow).settle w).1
  ∃ w₁ result, (replay engine (w.objects ref).id).settle first = (w₁, .ok result) ∧
    (w₁.objects ref).state = saved ∧
    nodesOf engine ref context workflow w₁ =
      (nodesOf engine ref context workflow w).drop (p.visited.length + 1) ∧
    (((execute engine ref context workflow).settle w₁).1.objects ref).outcome =
      (first.objects ref).outcome

def RestartsAt (startNode : NodeDefinition) : Prop :=
  let first := ((execute engine ref context workflow).settle w).1
  ∃ w₁ result, (replay engine (w.objects ref).id).settle first = (w₁, .ok result) ∧
    (nodesOf engine ref context workflow w₁).head? = some startNode.id

/-- The last checkpoint of the call was taken at this position, of this state. -/
structure LastCheckpoint (startNode : NodeDefinition) (p : Position) (saved : State) : Prop where
  reached : (w.entry ref startNode).Reaches engine workflow context w.now p
  saves : p.Saves engine workflow context saved
  last : ∀ next q, p.iteration engine workflow context w.now = .inr next →
    next.Reaches engine workflow context w.now q →
      ∀ later, ¬ q.Saves engine workflow context later

/-- The node a further call of `execute` would enter at, with a given state. -/
def reentry (startNode : NodeDefinition) (state : State) : String :=
  let first := ((execute engine ref context workflow).settle w).1
  entryNode ((first.runs (w.objects ref).id).bind (·.currentNodeId)) state startNode

/-- The checkpoint holds the state, the node after it is the one the engine still stands
at, and the call did not come to a bound. -/
structure ReentersAfter (startNode : NodeDefinition) (p : Position) (saved : State) : Prop where
  restored : checkpointValue engine (checkpointFor engine saved) = .ok (.dict saved)
  reenters : ∃ next, p.iteration engine workflow context w.now = .inr next ∧
    reentry engine ref context workflow w startNode saved = next.current
  within : ∀ q, p.Reaches engine workflow context w.now q → q.Within engine

def World.replayed (runId : String) (state : State) (w : World) : World :=
  (w.modifyRun ref (resetRun state)).modifyResult runId
    fun result => { result with nodeExecutions := [] }

variable {engine ref context workflow w}

/-- A call of `execute` that leaves its run COMPLETED or FAILED. -/
structure Finishes (engine : WorkflowEngine) (ref : Nat) (context : ExecutionContext)
    (workflow : WorkflowDefinition) (w first : World) (startNode : NodeDefinition) (q : Position)
    (stop : Stop) (result : WorkflowRunResult) : Prop where
  call : CallStops engine workflow context ref startNode w first q stop
  finished : stop.run.status ∈ [.completed, .failed]
  run : first.objects ref = stop.run
  registered : first.runs (w.objects ref).id = some result
  held : result.run = ref
  named : (first.objects ref).id = (w.objects ref).id

theorem execute_finishes {startNode : NodeDefinition}
    (own : ∀ result, w.runs (w.objects ref).id = some result → result.run = ref)
    (starts : findStartNode workflow = some startNode)
    (finished : (((execute engine ref context workflow).settle w).1.objects ref).status ∈
      [.completed, .failed]) :
    ∃ q stop result, Finishes engine ref context workflow w
      ((execute engine ref context workflow).settle w).1 startNode q stop result := by
  obtain ⟨q, stop, call⟩ := execute_stops engine context ref w starts
  rw [call.status] at finished
  have settled : stop.ending ≠ .waiting := by
    intro waiting
    have fits := (iteration_fits call.running call.stops).1
    rw [Stop.Fits, waiting] at fits
    rw [show stop.run.status = _ from fits] at finished
    simp at finished
  obtain ⟨result, registered, place⟩ := Option.map_eq_some_iff.mp call.place
  refine ⟨q, stop, result, call, finished, call.run settled, registered, ?_, ?_⟩
  · rw [show result.run = _ from congrArg Prod.fst place]
    cases before : w.runs (w.objects ref).id with
    | none => rfl
    | some old => exact own old before
  · rw [call.run settled, stops_id call.stops, reaches_id call.reached]
    rfl

variable {first : World} {startNode : NodeDefinition} {q : Position} {stop : Stop}
  {result : WorkflowRunResult}

theorem Finishes.checkpointData {p : Position} {saved : State}
    (done : Finishes engine ref context workflow w first startNode q stop result)
    (last : LastCheckpoint engine ref context workflow w startNode p saved) :
    (first.objects ref).checkpointData = some (checkpointFor engine saved) := by
  rw [done.run]
  have onward := last.reached.onward done.call.reached done.call.stops
  rcases onward.cases_head with rfl | ⟨next, moves, onward⟩
  · exact (stops_checkpointData done.call.stops).1 saved last.saves
  · rw [(stops_checkpointData done.call.stops).2 (last.last next q moves onward),
      reaches_checkpointData onward (last.last next · moves)]
    exact ((moves_checkpointData moves).1 saved last.saves).1

theorem Finishes.replays {saved : State} {after : World → Prop}
    (done : Finishes engine ref context workflow w first startNode q stop result)
    (checkpoint : (first.objects ref).checkpointData = some (checkpointFor engine saved)) :
    (∃ w₁ result, (replay engine (w.objects ref).id).settle first = (w₁, .ok result) ∧
        (w₁.objects ref).state = saved ∧ after w₁) ↔
      checkpointValue engine (checkpointFor engine saved) = .ok (.dict saved) ∧
        after (first.replayed ref (w.objects ref).id saved) := by
  rw [← restoreCheckpoint_eq_ok, settle_replay done.registered, done.held, checkpoint,
    Option.map_some]
  cases restored : restoreCheckpoint engine (checkpointFor engine saved) with
  | error e => simp
  | ok state =>
      constructor
      · rintro ⟨w₁, result, settled, same, holds⟩
        obtain ⟨rfl, -⟩ := Prod.mk.inj settled
        obtain rfl : state = saved := by simpa [resetRun] using same
        exact ⟨rfl, holds⟩
      · rintro ⟨same, holds⟩
        obtain rfl := Except.ok.inj same
        exact ⟨_, _, rfl, by simp [resetRun], holds⟩

variable (engine ref context workflow w) in
theorem Finishes.entry (done : Finishes engine ref context workflow w
      ((execute engine ref context workflow).settle w).1 startNode q stop result)
    (state : State) :
    let w₁ := ((execute engine ref context workflow).settle w).1.replayed ref
      (w.objects ref).id state
    (w₁.objects ref).id = (w.objects ref).id ∧
      (w₁.entry ref startNode).visited = [] ∧
      (w₁.entry ref startNode).current =
        reentry engine ref context workflow w startNode state ∧
      (w₁.entry ref startNode).run.state = state ∧
      (w₁.entry ref startNode).run.status = .running ∧
      (w₁.entry ref startNode).run.id = (w.objects ref).id := by
  intro w₁
  have named : (w₁.objects ref).id = (w.objects ref).id := by
    simp [w₁, World.replayed, resetRun, done.named]
  refine ⟨named, rfl, ?_, ?_, rfl, named⟩
  · simp only [World.entry, named, reentry]
    simp [w₁, World.replayed, resetRun, done.registered]
  · simp [w₁, World.replayed, World.entry, World.startedRun, resetRun]

theorem CallStops.outcome_iff {w' : World} {run : WorkflowRun}
    (call : CallStops engine workflow context ref startNode w w' q stop)
    (finished : run.status ∈ [.completed, .failed]) :
    (w'.objects ref).outcome = run.outcome ↔ stop.run.outcome = run.outcome := by
  by_cases waiting : stop.ending = .waiting
  · have fits := (iteration_fits call.running call.stops).1
    rw [Stop.Fits, waiting] at fits
    have differs : (stop.run.status : WorkflowRunStatus) ≠ run.status := by
      intro same
      rw [← same, show stop.run.status = _ from fits] at finished
      simp at finished
    refine iff_of_false ?_ ?_
    · intro same
      exact differs (call.status ▸ congrArg Prod.fst same)
    · intro same
      exact differs (congrArg Prod.fst same)
  · rw [call.run waiting]

theorem saves_completed {p : Position} {saved : State} {now : Instant} {stop : Stop}
    (saves : p.Saves engine workflow context saved) (running : p.run.status = .running)
    (stops : p.iteration engine workflow context now = .inl stop)
    (finished : stop.run.status ∈ [.completed, .failed]) : stop.run.status = .completed := by
  obtain ⟨node, r, value, executes, left, -⟩ := saves
  obtain ⟨handler, iteration, ran⟩ := executes.iteration now
  rw [iteration, Position.visit, ran] at stops
  simp only [left] at stops
  split_ifs at stops with last
  · obtain rfl := Sum.inl.inj stops
    rfl
  · split at stops
    · obtain rfl := Sum.inl.inj stops
      rw [(checkpointRun_record engine value _).2.2, closeRun, concludeRun, HandlerRun.written,
        running] at finished
      simp at finished
    · cases stops

theorem Finishes.twice {p next q₂ : Position} {saved : State} {stop₂ : Stop} {w₁ w₂ : World}
    (done : Finishes engine ref context workflow w
      ((execute engine ref context workflow).settle w).1 startNode q stop result)
    (last : LastCheckpoint engine ref context workflow w startNode p saved)
    (moves : p.iteration engine workflow context w.now = .inr next)
    (onward : next.Reaches engine workflow context w.now q)
    (replayed : ((execute engine ref context workflow).settle w).1.replayed ref
      (w.objects ref).id saved = w₁)
    (call₂ : CallStops engine workflow context ref startNode w₁ w₂ q₂ stop₂) :
    CallsTwice engine workflow context w.now w₁.now next q (w₁.entry ref startNode) q₂ stop
      stop₂ := by
  subst replayed
  obtain ⟨-, enters, -, state, status, id⟩ := Finishes.entry engine ref context workflow w done saved
  have reached : (w.entry ref startNode).Reaches engine workflow context w.now next :=
    last.reached.tail moves
  exact {
    onward
    running := reached.running rfl
    stops := done.call.stops
    finished := done.finished
    enters
    id := by
      rw [id, reaches_id reached]
      rfl
    state := by rw [state, ((moves_checkpointData moves).1 saved last.saves).2]
    status
    onward₂ := call₂.reached
    stops₂ := call₂.stops }

theorem Finishes.reexecutes_iff {p : Position} {saved : State} (steady : engine.Deterministic)
    (starts : findStartNode workflow = some startNode)
    (done : Finishes engine ref context workflow w
      ((execute engine ref context workflow).settle w).1 startNode q stop result)
    (last : LastCheckpoint engine ref context workflow w startNode p saved) :
    Reexecutes engine ref context workflow w p saved ↔
      ReentersAfter engine ref context workflow w startNode p saved := by
  unfold Reexecutes
  rw [done.replays (done.checkpointData last)]
  have shape : ReentersAfter engine ref context workflow w startNode p saved ↔
      checkpointValue engine (checkpointFor engine saved) = .ok (.dict saved) ∧
        (∃ next, p.iteration engine workflow context w.now = .inr next ∧
          reentry engine ref context workflow w startNode saved = next.current) ∧
        ∀ q, p.Reaches engine workflow context w.now q → q.Within engine :=
    ⟨fun holds => ⟨holds.restored, holds.reenters, holds.within⟩,
      fun ⟨restored, reenters, within⟩ => ⟨restored, reenters, within⟩⟩
  rw [shape]
  refine and_congr_right fun _ => ?_
  obtain ⟨-, -, entered, -⟩ := Finishes.entry engine ref context workflow w done saved
  generalize replayed : ((execute engine ref context workflow).settle w).1.replayed ref
    (w.objects ref).id saved = w₁ at entered ⊢
  obtain ⟨q₂, stop₂, call₂⟩ := execute_stops engine context ref w₁ starts
  rw [done.run, call₂.outcome_iff done.finished, show nodesOf engine ref context workflow w₁ = _ from
    call₂.dispatched, show nodesOf engine ref context workflow w = _ from done.call.dispatched]
  have onward := last.reached.onward done.call.reached done.call.stops
  rcases onward.cases_head with rfl | ⟨next, moves, onward'⟩
  · refine iff_of_false ?_ ?_
    · rintro ⟨nodes, outcome⟩
      have completed := saves_completed last.saves done.call.running done.call.stops done.finished
      have completed₂ : stop₂.run.status = .completed :=
        (congrArg Prod.fst outcome).trans completed
      have ending := (iteration_fits call₂.running call₂.stops).1.completed completed₂
      have empty : (p.dispatched stop).drop (p.visited.length + 1) = [] := by
        apply List.drop_eq_nil_of_le
        rw [Position.dispatched]
        split_ifs <;> simp
      rw [empty, Position.dispatched, ending] at nodes
      simp [Ending.dispatches] at nodes
    · rintro ⟨⟨next, moves, -⟩, -⟩
      cases done.call.stops.symm.trans moves
  · have twice := done.twice last moves onward' replayed call₂
    obtain ⟨node, r, value, moved⟩ := iteration_moves moves
    have length : next.visited.length = p.visited.length + 1 := by
      rw [moved.next]
      simp
    rw [← length, ← entered]
    constructor
    · rintro ⟨nodes, outcome⟩
      have same := twice.same_entry nodes outcome
      refine ⟨⟨next, moves, same⟩, fun m reached => ?_⟩
      obtain ⟨passed, visited, -, known, limit⟩ := reaches_visited done.call.reached
      have here : q.Within engine := by
        by_contra bound
        refine twice.bound steady same bound (limit (Nat.zero_le _)) (by omega) ?_ nodes outcome
        rw [visited]
        exact known
      have left : m.Reaches engine workflow context w.now q :=
        reached.onward onward done.call.stops
      rcases left.cases_head with rfl | ⟨after, goes, -⟩
      · exact here
      · obtain ⟨node, r, value, moved⟩ := iteration_moves goes
        obtain ⟨handler, fresh, room, -⟩ := moved.executes
        exact ⟨fresh, room⟩
    · rintro ⟨⟨next', moves', same⟩, within⟩
      obtain rfl := Sum.inr.inj (moves.symm.trans moves')
      obtain ⟨nodes, -, outcome⟩ := twice.repeats steady same (within q onward)
      exact ⟨nodes, outcome⟩

theorem CallStops.first_node {w' : World} {nodeId : String}
    (call : CallStops engine workflow context ref startNode w w' q stop)
    (known : (workflow.node? nodeId).isSome) :
    (q.dispatched stop).head? = some nodeId ↔ (w.entry ref startNode).current = nodeId := by
  obtain ⟨passed, visited, head, -⟩ := reaches_visited call.reached
  have begins : q.dispatched stop ≠ [] →
      (q.dispatched stop).head? = some (w.entry ref startNode).current :=
    @dispatched_head _ (w.entry ref startNode) stop _ visited head
  constructor
  · intro first
    rw [begins (by rintro empty; rw [empty] at first; cases first)] at first
    exact Option.some.inj first
  · rintro rfl
    apply begins
    rcases call.reached.cases_head with rfl | ⟨next, moves, onward⟩
    · obtain ⟨node, found⟩ := Option.isSome_iff_exists.mp known
      have within : (w.entry ref startNode).Within engine :=
        ⟨by simp [World.entry], engine.one_le_maxSteps⟩
      rw [Position.dispatched, enter_dispatches within found call.stops]
      simp
    · obtain ⟨node, r, value, moved⟩ := iteration_moves moves
      obtain ⟨more, visited', -⟩ := reaches_visited onward
      rw [Position.dispatched, visited', moved.next]
      simp

theorem findStartNode_known (starts : findStartNode workflow = some startNode) :
    (workflow.node? startNode.id).isSome := by
  rw [WorkflowDefinition.node?, List.find?_isSome]
  exact ⟨startNode, List.mem_reverse.mpr (List.mem_of_find?_eq_some starts), by simp⟩

theorem Finishes.restartsAt_iff (starts : findStartNode workflow = some startNode)
    (done : Finishes engine ref context workflow w
      ((execute engine ref context workflow).settle w).1 startNode q stop result)
    (unsaved : (((execute engine ref context workflow).settle w).1.objects ref).checkpointData =
      none) :
    RestartsAt engine ref context workflow w startNode ↔
      reentry engine ref context workflow w startNode
        (((execute engine ref context workflow).settle w).1.objects ref).state =
          startNode.id := by
  have replayed : (replay engine (w.objects ref).id).settle
      ((execute engine ref context workflow).settle w).1 =
        (((execute engine ref context workflow).settle w).1.replayed ref (w.objects ref).id
          (((execute engine ref context workflow).settle w).1.objects ref).state,
          .ok { result with nodeExecutions := [] }) := by
    rw [settle_replay done.registered, done.held, unsaved]
    rfl
  obtain ⟨-, -, entered, -⟩ := Finishes.entry engine ref context workflow w done
    (((execute engine ref context workflow).settle w).1.objects ref).state
  unfold RestartsAt
  dsimp only
  rw [replayed, ← entered]
  generalize ((execute engine ref context workflow).settle w).1.replayed ref (w.objects ref).id
    (((execute engine ref context workflow).settle w).1.objects ref).state = w₁
  obtain ⟨q₂, stop₂, call₂⟩ := execute_stops engine context ref w₁ starts
  rw [← call₂.first_node (findStartNode_known starts), ← call₂.dispatched]
  constructor
  · rintro ⟨w₂, result₂, same, first⟩
    obtain ⟨rfl, -⟩ := Prod.mk.inj same
    exact first
  · intro first
    exact ⟨w₁, _, rfl, first⟩

/-- A finished run is executed again from its last checkpoint exactly when the engine
still stands at the node after it, and without a checkpoint from START exactly when the
engine still stands there. -/
theorem replay_reexecutes_iff (steady : engine.Deterministic)
    (own : ∀ result, w.runs (w.objects ref).id = some result → result.run = ref)
    (starts : findStartNode workflow = some startNode)
    (finished : (((execute engine ref context workflow).settle w).1.objects ref).status ∈
      [.completed, .failed]) :
    (∀ p saved, LastCheckpoint engine ref context workflow w startNode p saved →
      (Reexecutes engine ref context workflow w p saved ↔
        ReentersAfter engine ref context workflow w startNode p saved)) ∧
    ((((execute engine ref context workflow).settle w).1.objects ref).checkpointData = none →
      (RestartsAt engine ref context workflow w startNode ↔
        reentry engine ref context workflow w startNode
          (((execute engine ref context workflow).settle w).1.objects ref).state =
            startNode.id)) := by
  obtain ⟨q, stop, result, done⟩ := execute_finishes own starts finished
  constructor
  · intro p saved last
    exact done.reexecutes_iff steady starts last
  · intro unsaved
    exact done.restartsAt_iff starts unsaved

end replay

/-! ### A node between the checkpoint and the end

The START node saves a checkpoint and a middle node follows it. The first call ends at
the END node, and so does the second, which begins there. -/

section skippedNode

def savingHandler : NodeHandler := fun _ state _ =>
  { state, effects := [], exit := .returned { outputState := state, shouldCheckpoint := true } }

def savingEngine : WorkflowEngine :=
  .plain (fun name => some (if name = "save" then savingHandler else echoHandler)) false

def savedOnce : WorkflowDefinition :=
  { id := "workflow"
    nodes := [.plain "start" .start "save", .plain "middle" .action "echo",
      .plain "end" .endNode "echo"]
    edges := [.plain "start" "middle", .plain "middle" "end"] }

theorem savingEngine_deterministic : savingEngine.Deterministic := by
  intro name handler present calls calls' state context
  obtain rfl := Option.some.inj present
  split_ifs <;> rfl

theorem replay_reexecutes_savedOnce :
    savingEngine.Deterministic ∧
      (((execute savingEngine 0 plainContext savedOnce).settle newRun).1.objects 0).status =
        .completed ∧
      ∀ p saved, LastCheckpoint savingEngine 0 plainContext savedOnce newRun
          (.plain "start" .start "save") p saved →
        (Reexecutes savingEngine 0 plainContext savedOnce newRun p saved ↔
          ReentersAfter savingEngine 0 plainContext savedOnce newRun
            (.plain "start" .start "save") p saved) := by
  have completed : (((execute savingEngine 0 plainContext savedOnce).settle newRun).1.objects
      0).status = .completed := by decide +kernel
  refine ⟨savingEngine_deterministic, completed, ?_⟩
  exact (replay_reexecutes_iff savingEngine_deterministic (by simp [newRun, World.started]) rfl
    (by rw [completed]; simp)).1

theorem lastCheckpoint_savedOnce :
    LastCheckpoint savingEngine 0 plainContext savedOnce newRun (.plain "start" .start "save")
      (newRun.entry 0 (.plain "start" .start "save")) [] := by
  refine ⟨.refl, ⟨.plain "start" .start "save", _, _, ⟨savingHandler, by simp [World.entry],
    by decide, rfl, rfl, rfl⟩, rfl, rfl, rfl⟩, ?_⟩
  rintro next q moves onward later ⟨node, r, result, ⟨handler, fresh, -, found, present, rfl⟩, left,
    saves, -⟩
  obtain ⟨node', r', result', moved⟩ := iteration_moves moves
  obtain ⟨passed, visited, -⟩ := reaches_visited onward
  have member := List.mem_reverse.mp (List.mem_of_find?_eq_some found)
  simp only [savedOnce, List.mem_cons, List.not_mem_nil, or_false] at member
  rcases member with rfl | rfl | rfl
  · -- The START node has been visited.
    apply fresh
    rw [visited, moved.next, ← node?_id savedOnce found]
    simp [World.entry, entryNode, newRun, World.started, startRun, runOfRow, lookup, Value.asStr?,
      NodeDefinition.plain]
  all_goals
    obtain rfl := Option.some.inj present
    obtain rfl := HandlerExit.returned.inj left
    cases saves

theorem middle_node_skipped :
    LastCheckpoint savingEngine 0 plainContext savedOnce newRun (.plain "start" .start "save")
        (newRun.entry 0 (.plain "start" .start "save")) [] ∧
      ¬ Reexecutes savingEngine 0 plainContext savedOnce newRun
        (newRun.entry 0 (.plain "start" .start "save")) [] := by
  refine ⟨lastCheckpoint_savedOnce, ?_⟩
  rintro ⟨w₁, result, settled, -, nodes, -⟩
  have second : nodesOf savingEngine 0 plainContext savedOnce ((replay savingEngine "run").settle
      ((execute savingEngine 0 plainContext savedOnce).settle newRun).1).1 = ["end"] := by
    decide +kernel
  have first : nodesOf savingEngine 0 plainContext savedOnce newRun = ["start", "middle", "end"] := by
    decide +kernel
  rw [show (newRun.objects 0).id = "run" from rfl] at settled
  rw [settled] at second
  rw [second, first] at nodes
  revert nodes
  decide

end skippedNode

end SyndicateClaw.Orchestrator
