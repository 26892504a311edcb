import SyndicateClaw.Orchestrator.Pausing
import SyndicateClaw.Orchestrator.Replay

/-! Runs that are paused, resumed and executed again until they come to an end. -/

namespace SyndicateClaw.Orchestrator

open Async

section visit

variable {engine : WorkflowEngine} {workflow : WorkflowDefinition} {context : ExecutionContext}
  {now : Instant} {ref : Nat} {runId : String} {ledger : Ledger} {q : Position} {w : World}

def Beyond (engine : WorkflowEngine) (visited : List String) (next : String) : Prop :=
  next ∈ visited ∨ engine.maxSteps ≤ visited.length

/-- An iteration at a node with a handler, by the pauses that reach it. -/
inductive Visits (engine : WorkflowEngine) (workflow : WorkflowDefinition)
    (context : ExecutionContext) (now : Instant) (ref : Nat) (runId : String) (ledger : Ledger)
    (q : Position) (log : List (Point × World)) (s : World) : LoopExit → Prop
  | interrupted (carries : s.Carries ref runId ledger .paused)
      (harmful : ∃ moment ∈ log, ¬ PausesSafely engine workflow runId moment) :
      Visits engine workflow context now ref runId ledger q log s .stop
  | completed (run : WorkflowRun)
      (stops : q.enter engine workflow context now = .inl ⟨.completed, run⟩)
      (state : (s.objects ref).state = run.state) (status : run.status = .completed)
      (carries : s.Carries ref runId ledger .completed)
      (harmless : ∀ moment ∈ log, PausesSafely engine workflow runId moment) :
      Visits engine workflow context now ref runId ledger q log s .stop
  | stalled (stops : q.enter engine workflow context now = .inl ⟨.stalled, s.objects ref⟩)
      (quiet : log = []) (carries : s.Carries ref runId ledger .running) :
      Visits engine workflow context now ref runId ledger q log s (.goTo none)
  | moved (q' : Position) (moves : q.enter engine workflow context now = .inr q')
      (visited : q'.visited = q.visited ++ [q.current]) (quiet : log = [])
      (stands : s.At now ref runId q') (carries : s.Carries ref runId ledger .running) :
      Visits engine workflow context now ref runId ledger q log s (.goTo (some q'.current))
  | outrun (next : Option String) (moment : Point × World) (once : log = [moment])
      (harmless : PausesSafely engine workflow runId moment ↔
        ∃ current, next = some current ∧ Beyond engine ledger.visited current)
      (position : ∀ current, next = some current → ∃ q', q'.current = current ∧
        q.enter engine workflow context now = .inr q' ∧ q'.visited = q.visited ++ [q.current] ∧
        s.objects ref = { q'.run with status := .paused })
      (carries : s.Carries ref runId ledger .paused) (same : s.now = now) :
      Visits engine workflow context now ref runId ledger q log s (.goTo next)

theorem nodeRun_returns {handler : NodeHandler} (runId : String) (node : NodeDefinition)
    (context : ExecutionContext) (calls : Nat) (state : State)
    (returns : ∀ calls state context, ∃ result, (handler calls state context).exit =
      .returned result) :
    ∃ result, (nodeRun handler runId node context calls state).exit = .returned result := by
  unfold nodeRun
  generalize (node.retryPolicy.map (·.maxAttempts)).getD 1 - 1 = retries
  obtain ⟨result, left⟩ := returns calls state { context with config := node.config, attempt := 1 }
  refine ⟨result, ?_⟩
  cases retries with
  | zero => exact left
  | succ retries => simp [runAttempts, runOnce, left]

variable (now) in
theorem enter_returned {node : NodeDefinition} {handler : NodeHandler} {r : HandlerRun}
    {result : NodeResult} (found : workflow.node? q.current = some node)
    (present : engine.handlers node.handler = some handler)
    (ran : nodeRun handler q.run.id node { context with nodeId := q.current } q.calls q.run.state = r)
    (left : r.exit = .returned result) {run : WorkflowRun}
    (closed : checkpointRun engine result (closeRun node.id r.exit (r.written q.run)) = run) :
    q.enter engine workflow context now =
      if node.nodeType = .endNode then
        .inl ⟨.completed, { run with status := .completed, completedAt := some now }⟩
      else match successor workflow node result run with
        | none => .inl ⟨.stalled, run⟩
        | some next => .inr
            { visited := q.visited ++ [q.current], current := next, run, calls := r.calls
              ids := q.ids + 1 } := by
  rw [left] at closed
  by_cases last : node.nodeType = .endNode
  · simp [Position.enter, found, present, Position.visit, ran, left, closed, last]
  · cases followed : successor workflow node result run with
    | none => simp [Position.enter, found, present, Position.visit, ran, left, closed, last, followed]
    | some next =>
        simp [Position.enter, found, present, Position.visit, ran, left, closed, last, followed]

theorem Advances.visits {node : NodeDefinition} {handler : NodeHandler} {r : HandlerRun}
    {result : NodeResult} (found : workflow.node? q.current = some node)
    (present : engine.handlers node.handler = some handler)
    (ran : nodeRun handler q.run.id node { context with nodeId := q.current } q.calls q.run.state = r)
    (left : r.exit = .returned result) {w₁ : World}
    (executed : w.Executed now ref runId w₁ q r (closeRun node.id r.exit (r.written q.run)))
    (ids : w₁.ids = q.ids + 1) {log : List (Point × World)} {s : World} {exit : LoopExit}
    (advances : Advances engine workflow ref runId ledger node result w₁ log s exit) :
    Visits engine workflow context now ref runId ledger q log s exit := by
  obtain ⟨run, closed⟩ : ∃ run, checkpointRun engine result
    (closeRun node.id r.exit (r.written q.run)) = run := ⟨_, rfl⟩
  have enters := enter_returned now found present ran left closed
  have state : (w₁.objects ref).state = run.state := by
    rw [executed.run, ← closed, checkpointRun_state]
  have kept := (checkpointRun_record engine result (closeRun node.id r.exit (r.written q.run))).2
  rw [closed, closeRun_id] at kept
  cases advances with
  | interrupted carries harmful => exact .interrupted carries harmful
  | completed last carries same harmless =>
      rw [if_pos last] at enters
      exact .completed _ enters (same.trans state) rfl carries harmless
  | onward other quiet saved carries same =>
      rw [if_neg other] at enters
      rw [executed.run, closed] at saved
      rw [successor_congr node result state]
      cases chosen : successor workflow node result run with
      | none =>
          rw [chosen] at enters
          rw [← saved] at enters
          exact .stalled enters quiet carries
      | some next =>
          rw [chosen] at enters
          refine .moved _ enters rfl quiet ⟨saved, ?_, ?_, ?_, ?_, ?_, ?_⟩ carries
          · exact same.1.trans executed.calls
          · exact same.2.1.trans ids
          · exact same.2.2.trans executed.now
          · rw [← saved, carries.status]
          · rw [← saved, carries.named]
          · obtain ⟨result, registered, -⟩ := carries.registered
            rw [registered]
            rfl
  | outrun other moment once harmless saved carries same =>
      rw [if_neg other] at enters
      rw [executed.run, closed] at saved
      rw [successor_congr node result state] at harmless ⊢
      refine .outrun _ moment once harmless ?_ carries (same.trans executed.now)
      intro next chosen
      rw [chosen] at enters
      exact ⟨_, rfl, enters, rfl, saved⟩

theorem whenever_visitNode (stands : w.At now ref runId q)
    (carries : w.Carries ref runId ledger .running)
    {node : NodeDefinition} (found : workflow.node? q.current = some node)
    {handler : NodeHandler} (present : engine.handlers node.handler = some handler)
    (returns : ∀ calls state context, ∃ result, (handler calls state context).exit =
      .returned result) :
    (visitNode engine ref runId context workflow q.current w).Whenever (World.pausedBy runId)
      fun log s outcome => ∃ exit, outcome = .ok exit ∧
        Visits engine workflow context now ref runId
          { ledger with
            current := some q.current
            succeeded := ledger.succeeded ++ [q.current] } q log s exit := by
  have named := node?_id workflow found
  have visits : visitNode engine ref runId context workflow q.current w =
      (executeNode engine ref runId { context with nodeId := q.current } node
        (w.dispatch runId q.current)).bind (advance engine ref workflow node) := by
    show (if haltsBefore (w.objects ref).status then _ else _ : EngineM LoopExit) w = _
    rw [carries.status, found]
    rfl
  have dispatched : (w.dispatch runId q.current).Carries ref runId
      { ledger with current := some q.current } .running := by
    have placed : (w.modifyResult runId fun result =>
        { result with currentNodeId := some q.current }).Carries ref runId
        { ledger with current := some q.current } .running :=
      carries.modifyResult carries.owner (by rintro result rfl; rfl)
    exact ⟨placed.listed, placed.owner, placed.named, placed.status⟩
  obtain ⟨r, ran⟩ : ∃ r, nodeRun handler q.run.id node { context with nodeId := q.current } q.calls
    q.run.state = r := ⟨_, rfl⟩
  obtain ⟨result, left⟩ := nodeRun_returns q.run.id node { context with nodeId := q.current }
    q.calls q.run.state returns
  rw [ran] at left
  rw [visits]
  refine ((ignores_executeNode workflow { context with nodeId := q.current } present returns .running _
    dispatched).and (Res.whenever_settle _)).bind ?_ fun log s e ends => ?_
  · rintro log s value ⟨⟨mode, same, struck, harmful, lists⟩, quiet⟩
    have listed : Lists ref runId
        { ledger with
          current := some q.current
          succeeded := ledger.succeeded ++ [q.current] }
        (.exited runId node.id (.returned value)) mode s := by
      simpa only [named] using lists
    rcases log with _ | ⟨moment, later⟩
    · obtain rfl := same rfl
      obtain ⟨w₁, result', settled, executed, ids, -, returned⟩ :=
        executed_closes stands present ran (by rw [left]; rfl)
      obtain ⟨rfl, rfl⟩ : s = w₁ ∧ value = result' := by
        simpa using (quiet rfl).trans settled
      obtain rfl := returned result left
      have known : workflow.node? node.id = some node := by
        rw [named]
        exact found
      refine (whenever_advance (by rw [named]) known listed).mono ?_
      rintro later s' outcome ⟨exit, rfl, advances⟩
      exact ⟨exit, rfl, advances.visits found present ran left executed ids⟩
    · obtain rfl := struck nofun
      refine (advance_paused node value listed.1).mono ?_
      rintro log s' outcome ⟨rfl, carries'⟩
      exact ⟨.stop, rfl, .interrupted carries' ⟨moment, by simp, harmful _ List.mem_cons_self⟩⟩
  · obtain ⟨⟨mode, -, -, -, impossible⟩, -⟩ := ends
    exact impossible.elim

end visit

section loop

variable (engine : WorkflowEngine) (workflow : WorkflowDefinition) (context : ExecutionContext)
  (now : Instant) (ref : Nat) (runId : String)

/-- The run has ended as the walk from a position does, and was executed that far. -/
def Finished (before : List String) (q : Position) (s : World) : Prop :=
  ∃ q₁ stop ledger, q.Reaches engine workflow context now q₁ ∧
    q₁.iteration engine workflow context now = .inl stop ∧ stop.run.status ≠ .paused ∧
    Rests ref runId ledger stop.run.state stop.run.status s ∧
    ledger.succeeded = before ++ q₁.dispatched stop ∧ (q₁.dispatched stop).Nodup

def Stuck (s : World) : Prop :=
  ∃ ledger current, s.Carries ref runId ledger .paused ∧ ledger.current = some current ∧
    current ∈ ledger.succeeded ∧ (workflow.node? current).isSome

/-- What the loop leaves from a position on, by the pauses that reach it. -/
structure LoopLeaves (before : List String) (q : Position) (log : List (Point × World))
    (s : World) : Prop where
  executed : ∃ ledger status, s.Carries ref runId ledger status ∧
    before ++ q.visited <+: ledger.succeeded ∧
    (q.Within engine → (workflow.node? q.current).isSome →
      before ++ q.visited ++ [q.current] <+: ledger.succeeded)
  finished : (∀ moment ∈ log, PausesSafely engine workflow runId moment) →
    Finished engine workflow context now ref runId before q s
  stuck : (∃ moment ∈ log, ¬ PausesSafely engine workflow runId moment) →
    Stuck workflow ref runId s

variable {engine workflow context now ref runId} {q q' : Position} {before : List String}
  {log : List (Point × World)} {s : World}

theorem Finished.head (moves : q.iteration engine workflow context now = .inr q')
    (finished : Finished engine workflow context now ref runId before q' s) :
    Finished engine workflow context now ref runId before q s := by
  obtain ⟨q₁, stop, ledger, reached, rest⟩ := finished
  exact ⟨q₁, stop, ledger, .head moves reached, rest⟩

theorem LoopLeaves.head (moves : q.iteration engine workflow context now = .inr q')
    (visited : q'.visited = q.visited ++ [q.current])
    (leaves : LoopLeaves engine workflow context now ref runId before q' log s) :
    LoopLeaves engine workflow context now ref runId before q log s := by
  obtain ⟨ledger, status, carries, prefixed, -⟩ := leaves.executed
  rw [visited, ← List.append_assoc] at prefixed
  exact ⟨⟨ledger, status, carries, (List.prefix_append _ _).trans prefixed,
    fun _ _ => prefixed⟩, fun safe => (leaves.finished safe).head moves, leaves.stuck⟩

variable (workflow context now) in
theorem iteration_within (within : q.Within engine) :
    q.iteration engine workflow context now = q.enter engine workflow context now := by
  simp only [Position.iteration, if_neg within.1, if_neg (show ¬ engine.maxSteps <
    q.visited.length + 1 by have := within.2; omega)]

variable (workflow context now ref runId) in
theorem loopFrom_beyond (fuel : Nat) (bound : ¬ q.Within engine) (w : World) :
    ∃ ending reason message path,
      q.iteration engine workflow context now =
        .inl ⟨ending, boundFailure now reason path (q.visited.length + 1) q.run⟩ ∧
      ending.dispatches = false ∧
      loopFrom engine workflow context ref runId (fuel + 1) q w =
        raiseExecutionBoundFailure engine ref workflow reason message path (q.visited.length + 1)
          (w.modifyResult runId fun result =>
            { result with stepCount := q.visited.length + 1, visitedNodes := q.visited }) := by
  by_cases seen : q.current ∈ q.visited
  · refine ⟨.cycle, "cycle_detected", "Cycle detected at node " ++ q.current,
      q.visited.drop (q.visited.idxOf q.current), ?_, rfl, ?_⟩
    · rw [Position.iteration, if_pos seen]
    · rw [loopFrom, executeLoop]
      simp only [if_pos seen]
      rfl
  · have full : engine.maxSteps < q.visited.length + 1 := by
      by_contra small
      exact bound ⟨seen, by omega⟩
    refine ⟨.stepLimit, "step_limit_exceeded",
      "Workflow execution exceeded max_steps=" ++ toString engine.maxSteps,
      q.visited.drop (q.visited.length - stepLimitPathLength), ?_, rfl, ?_⟩
    · simp only [Position.iteration, if_neg seen, if_pos full]
    · rw [loopFrom, executeLoop]
      simp only [if_neg seen, if_pos full]
      rfl

variable (engine workflow context ref runId) in
def goOn (fuel : Nat) (visited : List String) : LoopExit → EngineM Unit
  | .stop => pure ()
  | .goTo next => executeLoop engine ref runId context workflow fuel visited.length visited next

variable (engine runId) in
def World.counted (q : Position) (w : World) : World :=
  (w.modifyResult runId fun result =>
    { result with stepCount := q.visited.length + 1, visitedNodes := q.visited }).modifyResult runId
    fun result => { result with visitedNodes := q.visited ++ [q.current] }

theorem loopFrom_within (fuel : Nat) (within : q.Within engine) (w : World) :
    loopFrom engine workflow context ref runId (fuel + 1) q w =
      (visitNode engine ref runId context workflow q.current (w.counted runId q)).bind
        (goOn engine workflow context ref runId fuel (q.visited ++ [q.current])) := by
  have rest : (fun exit => match exit with
      | .stop => (pure () : EngineM Unit)
      | .goTo next => executeLoop engine ref runId context workflow fuel (q.visited.length + 1)
          (q.visited ++ [q.current]) next) =
      goOn engine workflow context ref runId fuel (q.visited ++ [q.current]) := by
    funext exit
    cases exit with
    | stop => rfl
    | goTo next =>
        unfold goOn
        rw [List.length_append, List.length_singleton]
  simp only [loopFrom, executeLoop, if_neg within.1, if_neg (show ¬ engine.maxSteps <
    q.visited.length + 1 by have := within.2; omega)]
  exact congrArg (Res.bind _) rest

theorem World.At.counted {w : World} (stands : w.At now ref runId q) :
    (w.counted runId q).At now ref runId q :=
  (stands.modifyResult now ref runId _).modifyResult now ref runId _

def Behind (workflow : WorkflowDefinition) (ledger : Ledger) : Prop :=
  ∃ current, ledger.current = some current ∧ current ∈ ledger.succeeded ∧
    (workflow.node? current).isSome

variable (before) in
/-- The loop at a position it refuses to go on from, whatever the status of the run. -/
theorem whenever_beyond {ledger : Ledger} {status : WorkflowRunStatus} {w : World} (fuel : Nat)
    (bound : ¬ q.Within engine) (carries : w.Carries ref runId ledger status)
    (run : (w.objects ref).state = q.run.state) (clock : w.now = now)
    (listed : ledger.succeeded = before ++ q.visited) (fresh : q.visited.Nodup)
    (behind : Behind workflow ledger) :
    (loopFrom engine workflow context ref runId (fuel + 1) q w).Whenever (World.pausedBy runId)
      fun log s _ => (log = [] → Finished engine workflow context now ref runId before q s) ∧
        (∀ moment ∈ log, ¬ PausesSafely engine workflow runId moment) ∧
        (log ≠ [] → Stuck workflow ref runId s) ∧
        ∃ ledger status, s.Carries ref runId ledger status ∧
          ledger.succeeded = before ++ q.visited := by
  obtain ⟨ending, reason, message, path, stops, undispatched, fails⟩ :=
    loopFrom_beyond workflow context now ref runId fuel bound w
  have counted : (w.modifyResult runId fun result =>
      { result with stepCount := q.visited.length + 1, visitedNodes := q.visited }).Carries ref runId
      { ledger with visited := q.visited } status :=
    carries.modifyResult carries.owner (by rintro result rfl; rfl)
  rw [fails]
  refine (whenever_boundFailure reason message path (q.visited.length + 1) counted).mono ?_
  rintro log s outcome ⟨-, status', failed, paused, harmful, rests⟩
  refine ⟨fun quiet => ?_, harmful, fun struck => ?_, _, status', rests.1, listed⟩
  · obtain rfl := failed quiet
    have dispatched : q.dispatched ⟨ending, boundFailure now reason path (q.visited.length + 1) q.run⟩ =
        q.visited := by
      simp [Position.dispatched, undispatched]
    refine ⟨q, _, _, .refl, stops, WorkflowRunStatus.noConfusion, ⟨rests.1, ?_⟩, ?_, ?_⟩
    · rw [rests.2]
      show (boundFailure w.now reason path _ (w.objects ref)).state = _
      simp only [boundFailure, run, clock]
    · rw [dispatched]
      exact listed
    · rw [dispatched]
      exact fresh
  · obtain rfl := paused struck
    obtain ⟨current, stands, done, known⟩ := behind
    exact ⟨_, current, rests.1, stands, done, known⟩

theorem Position.Within.of_unvisited (unvisited : q.visited = []) : q.Within engine := by
  refine ⟨by simp [unvisited], ?_⟩
  rw [unvisited]
  exact engine.one_le_maxSteps

theorem LoopLeaves.of_beyond {ledger : Ledger} (bound : ¬ q.Within engine)
    (finished : log = [] → Finished engine workflow context now ref runId before q s)
    (harmful : ∀ moment ∈ log, ¬ PausesSafely engine workflow runId moment)
    (stuck : log ≠ [] → Stuck workflow ref runId s) {status : WorkflowRunStatus}
    (carries : s.Carries ref runId ledger status) (listed : ledger.succeeded = before ++ q.visited) :
    LoopLeaves engine workflow context now ref runId before q log s where
  executed := ⟨ledger, status, carries, listed ▸ List.prefix_refl _, fun within => absurd within bound⟩
  finished safe := by
    apply finished
    by_contra struck
    obtain ⟨moment, member⟩ := List.exists_mem_of_ne_nil log struck
    exact harmful moment member (safe moment member)
  stuck := fun ⟨_, member, _⟩ => stuck (List.ne_nil_of_mem member)

theorem World.Carries.counted {ledger : Ledger} {status : WorkflowRunStatus} {w : World}
    (carries : w.Carries ref runId ledger status) (q : Position) :
    (w.counted runId q).Carries ref runId { ledger with visited := q.visited ++ [q.current] }
      status := by
  have first : (w.modifyResult runId fun result =>
      { result with stepCount := q.visited.length + 1, visitedNodes := q.visited }).Carries ref runId
      { ledger with visited := q.visited } status :=
    carries.modifyResult carries.owner (by rintro result rfl; rfl)
  exact first.modifyResult carries.owner fun result same =>
    congrArg (fun ledger : Ledger => { ledger with visited := q.visited ++ [q.current] }) same

theorem whenever_missing {ledger : Ledger} {w : World} (fuel : Nat) (within : q.Within engine)
    (stands : w.At now ref runId q) (carries : w.Carries ref runId ledger .running)
    (listed : ledger.succeeded = before ++ q.visited) (fresh : q.visited.Nodup)
    (missing : workflow.node? q.current = none) :
    (loopFrom engine workflow context ref runId (fuel + 1) q w).Whenever (World.pausedBy runId)
      fun log s _ => LoopLeaves engine workflow context now ref runId before q log s := by
  rw [loopFrom_within fuel within]
  have counted := carries.counted q
  have stands := stands.counted
  generalize w.counted runId q = w₁ at counted stands ⊢
  have fails : visitNode engine ref runId context workflow q.current w₁ =
      .ok (w₁.modifyRun ref fun run => { run with
        status := .failed
        error := some ("Node not found: " ++ q.current) }) .stop := by
    show (if haltsBefore (w₁.objects ref).status then _ else _ : EngineM LoopExit) w₁ = _
    rw [counted.status, missing]
    rfl
  rw [fails]
  have failed : (w₁.modifyRun ref fun run => { run with
      status := .failed
      error := some ("Node not found: " ++ q.current) }).Carries ref runId
      { ledger with visited := q.visited ++ [q.current] } .failed := counted.modifyRun rfl rfl
  have stops : q.iteration engine workflow context now = .inl ⟨.nodeMissing, { q.run with
      status := .failed
      error := some ("Node not found: " ++ q.current) }⟩ := by
    rw [iteration_within workflow context now within, Position.enter, missing]
  refine ⟨⟨_, .failed, failed, listed ▸ List.prefix_refl _, fun _ known => ?_⟩, fun _ => ?_, ?_⟩
  · rw [missing] at known
    cases known
  · refine ⟨q, _, _, .refl, stops, WorkflowRunStatus.noConfusion, ⟨failed, ?_⟩, ?_, ?_⟩
    · rw [World.modifyRun_objects_self, stands.run]
    · simp [Position.dispatched, Ending.dispatches, listed]
    · simpa [Position.dispatched, Ending.dispatches] using fresh
  · rintro ⟨moment, member, -⟩
    cases member

section visited

variable {ledger : Ledger} {status : WorkflowRunStatus}

theorem LoopLeaves.of_executed (carries : s.Carries ref runId ledger status)
    (listed : ledger.succeeded = before ++ q.visited ++ [q.current])
    (finished : (∀ moment ∈ log, PausesSafely engine workflow runId moment) →
      Finished engine workflow context now ref runId before q s)
    (stuck : (∃ moment ∈ log, ¬ PausesSafely engine workflow runId moment) →
      Stuck workflow ref runId s) :
    LoopLeaves engine workflow context now ref runId before q log s where
  executed := ⟨ledger, status, carries, by rw [listed]; exact List.prefix_append _ _,
    fun _ _ => listed ▸ List.prefix_refl _⟩
  finished
  stuck

theorem Stuck.of_executed (carries : s.Carries ref runId ledger .paused)
    (current : ledger.current = some q.current)
    (listed : ledger.succeeded = before ++ q.visited ++ [q.current])
    (known : (workflow.node? q.current).isSome) : Stuck workflow ref runId s :=
  ⟨ledger, q.current, carries, current, by simp [listed], known⟩

theorem Finished.of_executed {stop : Stop}
    (stops : q.iteration engine workflow context now = .inl stop)
    (dispatches : stop.ending.dispatches = true) (unpaused : stop.run.status ≠ .paused)
    (rests : Rests ref runId ledger stop.run.state stop.run.status s)
    (listed : ledger.succeeded = before ++ q.visited ++ [q.current])
    (onward : (q.visited ++ [q.current]).Nodup) :
    Finished engine workflow context now ref runId before q s := by
  have dispatched : q.dispatched stop = q.visited ++ [q.current] := by
    rw [Position.dispatched, if_pos dispatches]
  refine ⟨q, stop, ledger, .refl, stops, unpaused, rests, ?_, ?_⟩
  · rw [dispatched, listed, List.append_assoc]
  · rw [dispatched]
    exact onward

theorem leaves_halted {moment : Point × World} (fuel : Nat) (within : q'.Within engine)
    (onto : q'.visited = q.visited ++ [q.current])
    (harmless : PausesSafely engine workflow runId moment ↔
      ∃ current, some q'.current = some current ∧ Beyond engine ledger.visited current)
    (visited : ledger.visited = q.visited ++ [q.current])
    (carries : s.Carries ref runId ledger .paused) (current : ledger.current = some q.current)
    (listed : ledger.succeeded = before ++ q.visited ++ [q.current])
    (known : (workflow.node? q.current).isSome) :
    (loopFrom engine workflow context ref runId (fuel + 1) q' s).Whenever (World.pausedBy runId)
      fun later s' _ =>
        LoopLeaves engine workflow context now ref runId before q (moment :: later) s' := by
  have harmful : ¬ PausesSafely engine workflow runId moment := by
    rw [harmless]
    rintro ⟨next, same, beyond⟩
    obtain rfl := Option.some.inj same
    rw [Beyond, visited, ← onto] at beyond
    rcases beyond with seen | full
    · exact within.1 seen
    · exact absurd within.2 (not_lt.mpr full)
  have counted := carries.counted q'
  have halts : visitNode engine ref runId context workflow q'.current (s.counted runId q') =
      .ok (s.counted runId q') .stop := by
    show (if haltsBefore ((s.counted runId q').objects ref).status then _ else _ :
      EngineM LoopExit) _ = _
    rw [counted.status]
    rfl
  rw [loopFrom_within fuel within, halts]
  exact LoopLeaves.of_executed counted listed
    (fun safe => absurd (safe moment List.mem_cons_self) harmful)
    fun _ => .of_executed counted current listed known

/-- A pause struck between two nodes, and the next one is beyond the bounds anyway. -/
theorem leaves_failed {moment : Point × World} (fuel : Nat) (beyond : ¬ q'.Within engine)
    (moves : q.iteration engine workflow context now = .inr q')
    (onto : q'.visited = q.visited ++ [q.current])
    (harmless : PausesSafely engine workflow runId moment ↔
      ∃ current, some q'.current = some current ∧ Beyond engine ledger.visited current)
    (visited : ledger.visited = q.visited ++ [q.current])
    (carries : s.Carries ref runId ledger .paused) (run : (s.objects ref).state = q'.run.state)
    (clock : s.now = now) (current : ledger.current = some q.current)
    (listed : ledger.succeeded = before ++ q.visited ++ [q.current])
    (onward : (q.visited ++ [q.current]).Nodup) (known : (workflow.node? q.current).isSome) :
    (loopFrom engine workflow context ref runId (fuel + 1) q' s).Whenever (World.pausedBy runId)
      fun later s' _ =>
        LoopLeaves engine workflow context now ref runId before q (moment :: later) s' := by
  have onto' : before ++ q'.visited = before ++ q.visited ++ [q.current] := by
    rw [onto, List.append_assoc]
  have behind : Behind workflow ledger := ⟨q.current, current, by simp [listed], known⟩
  have safe : PausesSafely engine workflow runId moment := by
    refine harmless.mpr ⟨q'.current, rfl, ?_⟩
    rw [Beyond, visited, ← onto]
    by_contra other
    push Not at other
    exact beyond ⟨other.1, other.2⟩
  refine (whenever_beyond before fuel beyond carries run clock (listed.trans onto'.symm)
    (onto ▸ onward) behind).mono ?_
  rintro later s' outcome ⟨finished, harmful, stuck, ledger', status, carries', listed'⟩
  refine .of_executed carries' (listed'.trans onto') (fun safe => ?_) ?_
  · have quiet : later = [] := by
      by_contra struck
      obtain ⟨moment', member⟩ := List.exists_mem_of_ne_nil later struck
      exact harmful moment' member (safe moment' (List.mem_cons_of_mem _ member))
    exact (finished quiet).head moves
  · rintro ⟨moment', member, wrong⟩
    rcases List.mem_cons.mp member with rfl | member
    · exact absurd safe wrong
    · exact stuck (List.ne_nil_of_mem member)

end visited

theorem goOn_none (fuel : Nat) (visited : List String) (w : World) :
    goOn engine workflow context ref runId fuel visited (.goTo none) w = .ok w () := by
  cases fuel <;> rfl

theorem Visits.leaves {ledger : Ledger} {exit : LoopExit} (fuel : Nat) (within : q.Within engine)
    (known : (workflow.node? q.current).isSome)
    (visits : Visits engine workflow context now ref runId ledger q log s exit)
    (current : ledger.current = some q.current) (visited : ledger.visited = q.visited ++ [q.current])
    (listed : ledger.succeeded = before ++ q.visited ++ [q.current]) (fresh : q.visited.Nodup)
    (enough : q.visited.length + 1 + fuel = engine.maxSteps + 1)
    (ih : ∀ q', s.At now ref runId q' → s.Carries ref runId ledger .running →
      q'.visited = q.visited ++ [q.current] →
      (loopFrom engine workflow context ref runId fuel q' s).Whenever (World.pausedBy runId)
        fun later s' _ => LoopLeaves engine workflow context now ref runId before q' later s') :
    (goOn engine workflow context ref runId fuel (q.visited ++ [q.current]) exit s).Whenever
      (World.pausedBy runId) fun later s' _ =>
        LoopLeaves engine workflow context now ref runId before q (log ++ later) s' := by
  have onward : (q.visited ++ [q.current]).Nodup := by
    rw [List.nodup_append_comm]
    exact List.nodup_cons.mpr ⟨within.1, fresh⟩
  have enters := iteration_within workflow context now within
  cases visits with
  | interrupted carries harmful =>
      show LoopLeaves engine workflow context now ref runId before q (log ++ []) s
      rw [List.append_nil]
      obtain ⟨moment, member, wrong⟩ := harmful
      exact .of_executed carries listed (fun safe => absurd (safe moment member) wrong)
        fun _ => .of_executed carries current listed known
  | completed run stops state status carries harmless =>
      show LoopLeaves engine workflow context now ref runId before q (log ++ []) s
      rw [List.append_nil]
      refine .of_executed carries listed (fun _ => ?_) fun ⟨moment, member, harmful⟩ =>
        absurd (harmless moment member) harmful
      rw [← enters] at stops
      refine .of_executed stops rfl ?_ ⟨?_, state⟩ listed onward
      · rw [status]
        nofun
      · rw [status]
        exact carries
  | stalled stops quiet carries =>
      subst quiet
      rw [← enters] at stops
      rw [goOn_none]
      refine LoopLeaves.of_executed carries listed (fun _ => ?_) nofun
      refine .of_executed stops rfl ?_ ⟨?_, rfl⟩ listed onward
      · rw [carries.status]
        nofun
      · rw [carries.status]
        exact carries
  | moved q' moves same quiet stands carries =>
      subst quiet
      rw [← enters] at moves
      have later := ih q' stands carries same
      rw [loopFrom, same] at later
      exact later.mono fun later s' _ leaves => leaves.head moves same
  | outrun next moment once harmless position carries same =>
      subst once
      cases next with
      | none =>
          rw [goOn_none]
          have harmful : ¬ PausesSafely engine workflow runId moment := by
            rw [harmless]
            rintro ⟨_, impossible, -⟩
            cases impossible
          exact LoopLeaves.of_executed carries listed
            (fun safe => absurd (safe moment List.mem_cons_self) harmful)
            fun _ => .of_executed carries current listed known
      | some next =>
          obtain ⟨q', rfl, moves, onto, run⟩ := position next rfl
          rw [← enters] at moves
          obtain ⟨fuel, rfl⟩ : ∃ rest, fuel = rest + 1 := by
            have := within.2
            exact ⟨fuel - 1, by omega⟩
          show (executeLoop engine ref runId context workflow (fuel + 1)
            (q.visited ++ [q.current]).length (q.visited ++ [q.current]) (some q'.current) s).Whenever
              _ _
          rw [← onto]
          by_cases beyond : q'.Within engine
          · exact leaves_halted fuel beyond onto harmless visited carries current listed known
          · exact leaves_failed fuel beyond moves onto harmless visited carries (by rw [run]) same
              current listed onward known

variable (context before) in
theorem whenever_loopFrom (obliging : engine.Obliging workflow) (fuel : Nat) {ledger : Ledger}
    {w : World} (stands : w.At now ref runId q) (carries : w.Carries ref runId ledger .running)
    (listed : ledger.succeeded = before ++ q.visited) (fresh : q.visited.Nodup)
    (behind : q.visited ≠ [] → Behind workflow ledger)
    (enough : q.visited.length + fuel = engine.maxSteps + 1) (bounded : q.visited.length ≤ engine.maxSteps) :
    (loopFrom engine workflow context ref runId fuel q w).Whenever (World.pausedBy runId)
      fun log s _ => LoopLeaves engine workflow context now ref runId before q log s := by
  induction fuel generalizing q w ledger with
  | zero => omega
  | succ fuel ih =>
      by_cases within : q.Within engine
      swap
      · have behind := behind fun unvisited => within (.of_unvisited unvisited)
        refine (whenever_beyond before fuel within carries (by rw [stands.run]) stands.now
          listed fresh behind).mono ?_
        rintro log s outcome ⟨finished, harmful, stuck, ledger, status, carries, listed⟩
        exact .of_beyond within finished harmful stuck carries listed
      cases found : workflow.node? q.current with
      | none => exact whenever_missing fuel within stands carries listed fresh found
      | some node =>
          obtain ⟨handler, present, returns⟩ := obliging node
            (List.mem_reverse.mp (List.mem_of_find?_eq_some found))
          rw [loopFrom_within fuel within]
          refine (whenever_visitNode stands.counted (carries.counted q) found present returns).bind ?_ ?_
          · rintro log s exit ⟨exit', same, visits⟩
            obtain rfl := Except.ok.inj same
            have onward : ledger.succeeded ++ [q.current] = before ++ q.visited ++ [q.current] := by
              rw [listed]
            refine visits.leaves fuel within (by rw [found]; rfl) rfl rfl onward fresh (by omega) ?_
            intro q' stands' carries' same'
            have length : q'.visited.length = q.visited.length + 1 := by simp [same']
            refine ih stands' carries' ?_ ?_ ?_ (by omega) (by have := within.2; omega)
            · rw [same', ← List.append_assoc]
              exact onward
            · rw [same', List.nodup_append_comm]
              exact List.nodup_cons.mpr ⟨within.1, fresh⟩
            · exact fun _ => ⟨q.current, rfl, by simp, by rw [found]; rfl⟩
          · rintro log s e ⟨exit, same, -⟩
            cases same

end loop

/-! ### One call -/

section call

variable {engine : WorkflowEngine} {workflow : WorkflowDefinition} {context : ExecutionContext}
  {ref : Nat} {runId : String} {ledger : Ledger} {w s : World}

/-- `execute` would take the run up with these entries. -/
structure World.Poised (ref : Nat) (runId : String) (ledger : Ledger) (w : World) : Prop where
  listed : ((w.runs runId).getD { run := ref }).ledger = ledger
  owner : ledger.run = ref
  named : (w.objects ref).id = runId

/-- The run has been started and nothing else has happened to it. -/
structure World.Begun (ref : Nat) (runId : String) (ledger : Ledger) (w : World)
    (status : WorkflowRunStatus) (s : World) : Prop where
  listed : ∃ visited, s.Carries ref runId { ledger with visited } status
  run : s.objects ref = { w.startedRun ref with status }
  calls : s.calls = w.calls
  ids : s.ids = w.ids
  now : s.now = w.now

theorem World.Begun.paused {status : WorkflowRunStatus} (begun : w.Begun ref runId ledger status s) :
    w.Begun ref runId ledger .paused (s.pausedBy runId) := by
  obtain ⟨visited, carries⟩ := begun.listed
  obtain ⟨effects, same⟩ := pausedBy_eq carries
  refine ⟨⟨visited, carries.paused⟩, ?_, ?_, ?_, ?_⟩
  · rw [same]
    simp [begun.run]
  · rw [same]
    exact begun.calls
  · rw [same]
    exact begun.ids
  · rw [same]
    exact begun.now

theorem World.Begun.addEffects {status : WorkflowRunStatus}
    (begun : w.Begun ref runId ledger status s) (effects : List Effect) :
    w.Begun ref runId ledger status (s.addEffects effects) := by
  obtain ⟨visited, carries⟩ := begun.listed
  exact ⟨⟨visited, carries.listed, carries.owner, carries.named, carries.status⟩, begun.run,
    begun.calls, begun.ids, begun.now⟩

/-- What a call of `execute` leaves, by the pauses that reach it. -/
inductive CallLeaves (engine : WorkflowEngine) (workflow : WorkflowDefinition)
    (context : ExecutionContext) (ref : Nat) (runId : String) (ledger : Ledger) (w : World)
    (log : List (Point × World)) (s : World) : Prop
  | held (begun : w.Begun ref runId ledger .paused s) (struck : log ≠ [])
      (safe : ∀ moment ∈ log, PausesSafely engine workflow runId moment)
  | startless (none : findStartNode workflow = none) (begun : w.Begun ref runId ledger .running s)
      (safe : ∀ moment ∈ log, PausesSafely engine workflow runId moment)
  | looped (startNode : NodeDefinition) (starts : findStartNode workflow = some startNode)
      (leaves : LoopLeaves engine workflow context w.now ref runId ledger.succeeded
        (w.entry ref startNode) log s)

variable (engine workflow context ref) in
/-- `execute` once it has been announced. -/
def enterLoop (runId : String) : EngineM WorkflowRunResult :=
  match findStartNode workflow with
  | none => Co.raise (.value "Workflow has no START node")
  | some startNode => do
      let result ← findRun runId
      let entry := entryNode result.currentNodeId (← readRun ref).state startNode
      executeLoop engine ref runId context workflow (engine.maxSteps + 1) 0 [] (some entry)
      findRun runId

theorem execute_eq (w : World) :
    execute engine ref context workflow w =
      .yield (.cacheState .started)
        { w with
          runs := Function.update w.runs (w.objects ref).id
            (some ((w.runs (w.objects ref).id).getD { run := ref }))
          objects := Function.update w.objects ref (w.startedRun ref) }
        fun s => .yield (.audit .workflowStarted)
          (s.addEffects [.audit
            { eventType := .workflowStarted, actor := (s.objects ref).initiatedBy
              resourceType := "workflow", resourceId := workflow.id, action := "started"
              details := [("run_id", .str (s.objects ref).id)] }])
          (enterLoop engine workflow context ref (w.objects ref).id) := by
  unfold enterLoop execute
  cases findStartNode workflow with
  | none => rfl
  | some startNode => rfl

theorem World.Poised.current (poised : w.Poised ref runId ledger) :
    (w.runs (w.objects ref).id).bind (·.currentNodeId) = ledger.current := by
  rw [poised.named, ← poised.listed]
  cases w.runs runId <;> rfl

theorem enterLoop_eq (poised : w.Poised ref runId ledger) {status : WorkflowRunStatus}
    (begun : w.Begun ref runId ledger status s) {startNode : NodeDefinition}
    (starts : findStartNode workflow = some startNode) :
    enterLoop engine workflow context ref runId s =
      (loopFrom engine workflow context ref runId (engine.maxSteps + 1) (w.entry ref startNode) s).bind
        fun _ => findRun runId := by
  obtain ⟨visited, carries⟩ := begun.listed
  obtain ⟨result, registered, -, same⟩ := carries.registered
  have current : result.currentNodeId = ledger.current := congrArg Ledger.current same
  have entry : entryNode result.currentNodeId (s.objects ref).state startNode =
      (w.entry ref startNode).current := by
    rw [current, begun.run, World.entry, poised.current]
    rfl
  unfold enterLoop
  rw [starts]
  show ((findRun runId s).bind _ : Res World EngineError Point WorkflowRunResult) = _
  rw [findRun_eq, registered]
  show ((executeLoop engine ref runId context workflow (engine.maxSteps + 1) 0 []
    (some (entryNode result.currentNodeId (s.objects ref).state startNode)) s).bind _ :
      Res World EngineError Point WorkflowRunResult) = _
  rw [entry]
  rfl

theorem whenever_findRun (log : List (Point × World)) {P : List (Point × World) → World → Prop}
    (holds : P log s) :
    (findRun runId s).Whenever (World.pausedBy runId) fun later s' _ => P (log ++ later) s' := by
  rw [findRun_eq]
  cases s.runs runId with
  | none => simpa [Res.Whenever] using holds
  | some result => simpa [Res.Whenever] using holds

theorem whenever_enterLoop (obliging : engine.Obliging workflow) (poised : w.Poised ref runId ledger)
    (begun : w.Begun ref runId ledger .running s) :
    (enterLoop engine workflow context ref runId s).Whenever (World.pausedBy runId)
      fun log s' _ => CallLeaves engine workflow context ref runId ledger w log s' := by
  cases starts : findStartNode workflow with
  | none =>
      unfold enterLoop
      rw [starts]
      exact .startless starts begun nofun
  | some startNode =>
      rw [enterLoop_eq poised begun starts]
      obtain ⟨visited, carries⟩ := begun.listed
      have stands : s.At w.now ref runId (w.entry ref startNode) :=
        { run := begun.run, calls := begun.calls, ids := begun.ids, now := begun.now
          running := rfl, named := poised.named
          registered := by
            obtain ⟨result, registered, -⟩ := carries.registered
            rw [registered]
            rfl }
      refine (whenever_loopFrom context ledger.succeeded obliging
        (engine.maxSteps + 1) stands carries (List.append_nil _).symm List.nodup_nil
        (fun visited => absurd rfl visited) (Nat.zero_add _) (Nat.zero_le _)).bind ?_ ?_
      · intro log s' _ leaves
        exact whenever_findRun log (P := fun log s' =>
          CallLeaves engine workflow context ref runId ledger w log s') (.looped startNode starts leaves)
      · intro log s' _ leaves
        exact .looped startNode starts leaves

theorem World.Begun.counted {status : WorkflowRunStatus}
    (begun : w.Begun ref runId ledger status s) (q : Position) :
    w.Begun ref runId ledger status (s.counted runId q) := by
  obtain ⟨visited, carries⟩ := begun.listed
  exact ⟨⟨_, carries.counted q⟩, begun.run, begun.calls, begun.ids, begun.now⟩

theorem whenever_held (poised : w.Poised ref runId ledger)
    (begun : w.Begun ref runId ledger .paused s) :
    (enterLoop engine workflow context ref runId s).Whenever (World.pausedBy runId)
      fun log s' _ => log = [] ∧ w.Begun ref runId ledger .paused s' := by
  cases starts : findStartNode workflow with
  | none =>
      unfold enterLoop
      rw [starts]
      exact ⟨rfl, begun⟩
  | some startNode =>
      have within : (w.entry ref startNode).Within engine := .of_unvisited rfl
      have counted := begun.counted (w.entry ref startNode)
      have halts : visitNode engine ref runId context workflow (w.entry ref startNode).current
          (s.counted runId (w.entry ref startNode)) =
          .ok (s.counted runId (w.entry ref startNode)) .stop := by
        obtain ⟨visited, carries⟩ := counted.listed
        show (if haltsBefore ((s.counted runId _).objects ref).status then _ else _ :
          EngineM LoopExit) _ = _
        rw [carries.status]
        rfl
      rw [enterLoop_eq poised begun starts, loopFrom_within engine.maxSteps within, halts]
      exact whenever_findRun [] (P := fun log s' =>
        log = [] ∧ w.Begun ref runId ledger .paused s') ⟨rfl, counted⟩

variable (context) in
theorem whenever_execute (obliging : engine.Obliging workflow) (poised : w.Poised ref runId ledger) :
    (execute engine ref context workflow w).Whenever (World.pausedBy runId)
      fun log s _ => CallLeaves engine workflow context ref runId ledger w log s := by
  have begun : w.Begun ref runId ledger .running
      { w with
        runs := Function.update w.runs (w.objects ref).id
          (some ((w.runs (w.objects ref).id).getD { run := ref }))
        objects := Function.update w.objects ref (w.startedRun ref) } := by
    refine ⟨⟨ledger.visited, ?_, poised.owner, ?_, ?_⟩, ?_, rfl, rfl, rfl⟩
    · simp [World.ledger, poised.named, poised.listed]
    · simp [World.startedRun, poised.named]
    · simp [World.startedRun]
    · simp [World.startedRun]
  rw [execute_eq]
  simp only [poised.named] at begun ⊢
  generalize ({ w with
    runs := Function.update w.runs runId (some ((w.runs runId).getD { run := ref }))
    objects := Function.update w.objects ref (w.startedRun ref) } : World) = w₁ at begun ⊢
  have held (moments : List (Point × World)) {s : World}
      (begun : w.Begun ref runId ledger .paused s) (struck : moments ≠ [])
      (safe : ∀ moment ∈ moments, PausesSafely engine workflow runId moment) :
      (enterLoop engine workflow context ref runId s).Whenever (World.pausedBy runId)
        fun log s' _ => CallLeaves engine workflow context ref runId ledger w (moments ++ log) s' := by
    refine (whenever_held poised begun).mono ?_
    rintro log s' _ ⟨rfl, begun'⟩
    exact .held begun' (by simpa using struck) (by simpa using safe)
  refine ⟨⟨?_, ?_⟩, ?_, ?_⟩
  · exact whenever_enterLoop obliging poised (begun.addEffects _)
  · refine held [_] (begun.addEffects _).paused (List.cons_ne_nil _ _) ?_
    intro moment member
    obtain rfl := List.mem_singleton.mp member
    trivial
  · refine held [_] (begun.paused.addEffects _) (List.cons_ne_nil _ _) ?_
    intro moment member
    obtain rfl := List.mem_singleton.mp member
    trivial
  · refine held [_, _] (begun.paused.addEffects _).paused (List.cons_ne_nil _ _) ?_
    intro moment member
    simp only [List.mem_cons, List.not_mem_nil, or_false] at member
    rcases member with rfl | rfl
    · trivial
    · trivial

theorem resume_paused (carries : s.Carries ref runId ledger .paused) :
    ∃ trail effects, ((resume runId none).settle s).1 =
      { s.modifyRun ref fun run => { run with status := .running } with trail, effects } := by
  obtain ⟨result, registered, owner, -⟩ := carries.registered
  subst owner
  have status := carries.status
  simp [resume, findRun, registered, status, resumable]
  exact ⟨_, _, rfl⟩

end call

/-! ### Calls until the run is no longer paused -/

section calls

variable {engine : WorkflowEngine} {workflow : WorkflowDefinition} {context : ExecutionContext}
  {ref : Nat} {runId : String} {ledger : Ledger} {w s : World} {log : List (Point × World)}

/-- `execute` under pauses, and `resume` and `execute` again as long as the run is paused, with the
moments of the pauses. -/
inductive Completes (engine : WorkflowEngine) (workflow : WorkflowDefinition)
    (context : ExecutionContext) (ref : Nat) (runId : String) :
    World → List (Point × World) → World → Prop
  | ended {w s : World} (picks : Nat → Bool)
      (left : ((execute engine ref context workflow w).settleWith
        (Res.striking (World.pausedBy runId) picks) 0).1 = s)
      (done : (s.objects ref).status ≠ .paused) :
      Completes engine workflow context ref runId w
        (Res.struck (World.pausedBy runId) picks 0 (execute engine ref context workflow w)) s
  | again {w s s' : World} {log : List (Point × World)} (picks : Nat → Bool)
      (left : ((execute engine ref context workflow w).settleWith
        (Res.striking (World.pausedBy runId) picks) 0).1 = s)
      (paused : (s.objects ref).status = .paused)
      (rest : Completes engine workflow context ref runId ((resume runId none).settle s).1 log s') :
      Completes engine workflow context ref runId w
        (Res.struck (World.pausedBy runId) picks 0 (execute engine ref context workflow w) ++ log) s'

theorem World.Carries.resumed (carries : s.Carries ref runId ledger .paused) :
    ((resume runId none).settle s).1.Poised ref runId ledger := by
  obtain ⟨trail, effects, same⟩ := resume_paused carries
  obtain ⟨result, registered, -, own⟩ := carries.registered
  rw [same]
  refine ⟨?_, carries.owner, ?_⟩
  · show ((s.runs runId).getD { run := ref }).ledger = ledger
    rw [registered]
    exact own
  · simp [carries.named]

theorem World.Begun.resumed (begun : w.Begun ref runId ledger .paused s) :
    ∃ visited, ((resume runId none).settle s).1.Poised ref runId { ledger with visited } ∧
      ((resume runId none).settle s).1.startedRun ref = w.startedRun ref ∧
      ((resume runId none).settle s).1.calls = w.calls ∧
      ((resume runId none).settle s).1.ids = w.ids ∧
      ((resume runId none).settle s).1.now = w.now := by
  obtain ⟨visited, carries⟩ := begun.listed
  have poised := carries.resumed
  obtain ⟨trail, effects, same⟩ := resume_paused carries
  rw [same] at poised ⊢
  refine ⟨visited, poised, ?_, begun.calls, begun.ids, begun.now⟩
  simp [World.startedRun, begun.run, begun.now]

variable (engine workflow context ref runId ledger) in
/-- The run has ended as a call ends it that no pause reaches. -/
def EndsAlone (w s : World) : Prop :=
  (∃ startNode, findStartNode workflow = some startNode ∧
    Finished engine workflow context w.now ref runId ledger.succeeded (w.entry ref startNode) s) ∨
  findStartNode workflow = none ∧ w.Begun ref runId ledger .running s

theorem CallLeaves.endsAlone (leaves : CallLeaves engine workflow context ref runId ledger w log s)
    (done : (s.objects ref).status ≠ .paused)
    (safe : ∀ moment ∈ log, PausesSafely engine workflow runId moment) :
    EndsAlone engine workflow context ref runId ledger w s := by
  cases leaves with
  | held begun _ _ =>
      obtain ⟨visited, carries⟩ := begun.listed
      exact absurd carries.status done
  | startless none begun _ => exact .inr ⟨none, begun⟩
  | looped startNode starts leaves => exact .inl ⟨startNode, starts, leaves.finished safe⟩

theorem CallLeaves.alone (leaves : CallLeaves engine workflow context ref runId ledger w [] s) :
    EndsAlone engine workflow context ref runId ledger w s := by
  cases leaves with
  | held _ struck _ => exact absurd rfl struck
  | startless none begun _ => exact .inr ⟨none, begun⟩
  | looped startNode starts leaves => exact .inl ⟨startNode, starts, leaves.finished nofun⟩

theorem EndsAlone.of_resumed {visited : List String} {resumed : World}
    (poised : w.Poised ref runId ledger)
    (again : resumed.Poised ref runId { ledger with visited })
    (started : resumed.startedRun ref = w.startedRun ref) (calls : resumed.calls = w.calls)
    (ids : resumed.ids = w.ids) (now : resumed.now = w.now)
    (ends : EndsAlone engine workflow context ref runId { ledger with visited } resumed s) :
    EndsAlone engine workflow context ref runId ledger w s := by
  have state : (resumed.objects ref).state = (w.objects ref).state :=
    show (resumed.startedRun ref).state = (w.startedRun ref).state by rw [started]
  rcases ends with ⟨startNode, starts, finished⟩ | ⟨none, begun⟩
  · have entry : resumed.entry ref startNode = w.entry ref startNode := by
      rw [World.entry, World.entry, poised.current, again.current, started, calls, ids, state]
    rw [entry, now] at finished
    exact .inl ⟨startNode, starts, finished⟩
  · obtain ⟨visited, carries⟩ := begun.listed
    refine .inr ⟨none, ⟨visited, carries⟩, ?_, begun.calls.trans calls, begun.ids.trans ids,
      begun.now.trans now⟩
    rw [begun.run, started]

theorem Completes.endsAlone (obliging : engine.Obliging workflow)
    (runs : Completes engine workflow context ref runId w log s)
    (poised : w.Poised ref runId ledger)
    (safe : ∀ moment ∈ log, PausesSafely engine workflow runId moment) :
    EndsAlone engine workflow context ref runId ledger w s := by
  induction runs generalizing ledger with
  | ended picks left done =>
      subst left
      exact ((whenever_execute _ obliging poised).settleWith picks 0).endsAlone done safe
  | again picks left paused rest ih =>
      subst left
      have safely := fun moment member => safe moment (List.mem_append_left _ member)
      cases (whenever_execute context obliging poised).settleWith picks 0 with
      | held begun _ _ =>
          obtain ⟨visited, again, started, calls, ids, now⟩ := begun.resumed
          exact (ih again fun moment member => safe moment
            (List.mem_append_right _ member)).of_resumed poised again started calls ids now
      | startless none begun _ =>
          obtain ⟨visited, carries⟩ := begun.listed
          rw [carries.status] at paused
          cases paused
      | looped startNode starts leaves =>
          obtain ⟨q, stop, ledger', -, -, other, rests, -⟩ := leaves.finished safely
          exact absurd (rests.1.status.symm.trans paused) other

theorem LoopLeaves.stuck_of_paused {now : Instant} {before : List String} {q : Position}
    (leaves : LoopLeaves engine workflow context now ref runId before q log s)
    (paused : (s.objects ref).status = .paused) : Stuck workflow ref runId s := by
  by_contra unstuck
  have safe : ∀ moment ∈ log, PausesSafely engine workflow runId moment := by
    intro moment member
    by_contra harmful
    exact unstuck (leaves.stuck ⟨moment, member, harmful⟩)
  obtain ⟨q, stop, ledger', -, -, other, rests, -⟩ := leaves.finished safe
  exact other (rests.1.status.symm.trans paused)

def Repeated (ref : Nat) (runId : String) (s : World) : Prop :=
  ∃ ledger status, s.Carries ref runId ledger status ∧ ¬ ledger.succeeded.Nodup

theorem LoopLeaves.repeated {startNode : NodeDefinition} (named : ∀ node ∈ workflow.nodes, node.id ≠ "")
    (poised : w.Poised ref runId ledger)
    (leaves : LoopLeaves engine workflow context w.now ref runId ledger.succeeded
      (w.entry ref startNode) log s)
    (twice : ¬ ledger.succeeded.Nodup ∨ Behind workflow ledger) : Repeated ref runId s := by
  obtain ⟨ledger', status, carries, before, further⟩ := leaves.executed
  refine ⟨ledger', status, carries, fun nodup => ?_⟩
  have visited : (w.entry ref startNode).visited = [] := rfl
  rw [visited, List.append_nil] at before further
  rcases twice with twice | ⟨current, stands, done, known⟩
  · exact twice (nodup.sublist before.sublist)
  · obtain ⟨node, found⟩ := Option.isSome_iff_exists.mp known
    have nonempty : current ≠ "" := by
      rw [← node?_id workflow found]
      exact named node (List.mem_reverse.mp (List.mem_of_find?_eq_some found))
    have entry : (w.entry ref startNode).current = current := by
      rw [World.entry, poised.current, stands]
      simp [entryNode, Option.filter, nonempty]
    rw [entry] at further
    have again := nodup.sublist (further (.of_unvisited rfl) known).sublist
    rw [List.nodup_append_comm] at again
    exact (List.nodup_cons.mp again).1 done

/-- Calls that a pause reaches at the wrong moment execute a node twice. -/
theorem Completes.repeated (obliging : engine.Obliging workflow)
    (named : ∀ node ∈ workflow.nodes, node.id ≠ "")
    (runs : Completes engine workflow context ref runId w log s)
    (poised : w.Poised ref runId ledger)
    (twice : (∃ moment ∈ log, ¬ PausesSafely engine workflow runId moment) ∨
      (findStartNode workflow).isSome ∧ (¬ ledger.succeeded.Nodup ∨ Behind workflow ledger)) :
    Repeated ref runId s := by
  induction runs generalizing ledger with
  | ended picks left done =>
      subst left
      cases (whenever_execute context obliging poised).settleWith picks 0 with
      | held begun _ _ =>
          obtain ⟨visited, carries⟩ := begun.listed
          exact absurd carries.status done
      | startless none _ safe =>
          rcases twice with ⟨moment, member, harmful⟩ | ⟨some, -⟩
          · exact absurd (safe moment member) harmful
          · rw [none] at some
            cases some
      | looped startNode starts leaves =>
          rcases twice with harmful | ⟨-, twice⟩
          · obtain ⟨ledger', current, carries, -⟩ := leaves.stuck harmful
            exact absurd carries.status done
          · exact leaves.repeated named poised twice
  | again picks left paused rest ih =>
      subst left
      cases (whenever_execute context obliging poised).settleWith picks 0 with
      | held begun _ safe =>
          obtain ⟨visited, again, -⟩ := begun.resumed
          refine ih again ?_
          rcases twice with ⟨moment, member, harmful⟩ | twice
          · rcases List.mem_append.mp member with early | late
            · exact absurd (safe moment early) harmful
            · exact .inl ⟨moment, late, harmful⟩
          · exact .inr twice
      | startless none begun _ =>
          obtain ⟨visited, carries⟩ := begun.listed
          rw [carries.status] at paused
          cases paused
      | looped startNode starts leaves =>
          obtain ⟨ledger', current, carries, stands, done, known⟩ := leaves.stuck_of_paused paused
          exact ih carries.resumed (.inr ⟨by rw [starts]; rfl, .inr ⟨current, stands, done, known⟩⟩)

def World.ending (ref : Nat) (runId : String) (w : World) :
    State × WorkflowRunStatus × Option (List String) :=
  ((w.objects ref).state, (w.objects ref).status, (w.runs runId).map (·.succeeded))

theorem World.Carries.ending {status : WorkflowRunStatus} (carries : s.Carries ref runId ledger status) :
    s.ending ref runId = ((s.objects ref).state, status, some ledger.succeeded) := by
  obtain ⟨result, registered, -, rfl⟩ := carries.registered
  rw [World.ending, carries.status, registered]
  rfl

theorem EndsAlone.unique {s' : World} (ends : EndsAlone engine workflow context ref runId ledger w s)
    (ends' : EndsAlone engine workflow context ref runId ledger w s') :
    s.ending ref runId = s'.ending ref runId := by
  rcases ends with ⟨startNode, starts, q, stop, own, reached, stops, -, rests, listed, -⟩ |
    ⟨none, begun⟩
  · rcases ends' with ⟨startNode', starts', q', stop', own', reached', stops', -, rests', listed', -⟩ |
      ⟨none, -⟩
    · obtain rfl := Option.some.inj (starts.symm.trans starts')
      obtain rfl := reached.unique engine workflow context w.now reached' stops stops'
      obtain rfl := Sum.inl.inj (stops.symm.trans stops')
      rw [rests.1.ending, rests'.1.ending, rests.2, rests'.2, listed, listed']
    · rw [none] at starts
      cases starts
  · rcases ends' with ⟨startNode', starts', -⟩ | ⟨-, begun'⟩
    · rw [none] at starts'
      cases starts'
    · obtain ⟨visited, carries⟩ := begun.listed
      obtain ⟨visited', carries'⟩ := begun'.listed
      rw [carries.ending, carries'.ending, begun.run, begun'.run]

/-- The paused run ends as an uninterrupted call on the same run would, and has executed no node
twice. -/
structure Transparent (engine : WorkflowEngine) (workflow : WorkflowDefinition)
    (context : ExecutionContext) (ref : Nat) (runId : String) (w s : World) : Prop where
  same : s.ending ref runId = ((execute engine ref context workflow).settle w).1.ending ref runId
  once : ∀ result, s.runs runId = some result → result.succeeded.Nodup

theorem EndsAlone.nodup (fresh : ledger.succeeded = [])
    (ends : EndsAlone engine workflow context ref runId ledger w s) {result : WorkflowRunResult}
    (registered : s.runs runId = some result) : result.succeeded.Nodup := by
  have own {ledger : Ledger} {status : WorkflowRunStatus}
      (carries : s.Carries ref runId ledger status) : result.succeeded = ledger.succeeded := by
    obtain ⟨result', registered', -, rfl⟩ := carries.registered
    obtain rfl := Option.some.inj (registered.symm.trans registered')
    rfl
  rcases ends with ⟨startNode, starts, q, stop, ledger', -, -, -, rests, listed, nodup⟩ |
    ⟨none, begun⟩
  · rw [own rests.1, listed, fresh]
    exact nodup
  · obtain ⟨visited, carries⟩ := begun.listed
    rw [own carries]
    show ledger.succeeded.Nodup
    rw [fresh]
    exact List.nodup_nil

theorem pauses_transparent_iff (obliging : engine.Obliging workflow) {w s : World}
    {log : List (Point × World)} (fresh : w.runs (w.objects ref).id = none)
    (runs : Completes engine workflow context ref (w.objects ref).id w log s) :
    ((∀ moment ∈ log, PausesSafely engine workflow (w.objects ref).id moment) →
      Transparent engine workflow context ref (w.objects ref).id w s) ∧
    ((∀ node ∈ workflow.nodes, node.id ≠ "") →
      Transparent engine workflow context ref (w.objects ref).id w s →
        ∀ moment ∈ log, PausesSafely engine workflow (w.objects ref).id moment) := by
  have poised : w.Poised ref (w.objects ref).id
      { run := ref, current := none, visited := [], succeeded := [] } := by
    refine ⟨?_, rfl, rfl⟩
    rw [fresh]
    rfl
  constructor
  · intro safe
    have ends := runs.endsAlone obliging poised safe
    have alone := (whenever_execute context obliging poised).settle.alone
    exact ⟨ends.unique alone, fun result registered => ends.nodup rfl registered⟩
  · intro named transparent moment member
    by_contra harmful
    obtain ⟨ledger, status, carries, twice⟩ :=
      runs.repeated obliging named poised (.inl ⟨moment, member, harmful⟩)
    obtain ⟨result, registered, -, rfl⟩ := carries.registered
    exact twice (transparent.once result registered)

end calls

/-! A run of two nodes that is paused once. -/

def pausedAt (moment : Nat) (point : Nat) : Bool := point = moment

def echoes : WorkflowEngine := .plain (fun _ => some echoHandler) false

theorem echoes_obliging : echoes.Obliging startToEnd :=
  fun _ _ => ⟨echoHandler, rfl, fun _ state _ => ⟨{ outputState := state }, rfl⟩⟩

def pausedCall (moment : Nat) : World :=
  ((execute echoes 0 plainContext startToEnd newRun).settleWith
    (Res.striking (World.pausedBy "run") (pausedAt moment)) 0).1

def resumedCall (moment : Nat) : World :=
  ((execute echoes 0 plainContext startToEnd
    ((resume "run" none).settle (pausedCall moment)).1).settleWith
      (Res.striking (World.pausedBy "run") fun _ => false) 0).1

def pausesOf (moment : Nat) : List (Point × World) :=
  Res.struck (World.pausedBy "run") (pausedAt moment) 0
      (execute echoes 0 plainContext startToEnd newRun) ++
    Res.struck (World.pausedBy "run") (fun _ => false) 0
      (execute echoes 0 plainContext startToEnd ((resume "run" none).settle (pausedCall moment)).1)

theorem completes_resumed (moment : Nat) (paused : ((pausedCall moment).objects 0).status = .paused)
    (done : ((resumedCall moment).objects 0).status ≠ .paused) :
    Completes echoes startToEnd plainContext 0 "run" newRun (pausesOf moment) (resumedCall moment) :=
  .again (pausedAt moment) rfl paused (.ended (fun _ => false) rfl done)

def Point.starts : Point → Bool
  | .cacheState .started => true
  | _ => false

theorem safe_of_starts {engine : WorkflowEngine} {workflow : WorkflowDefinition} {runId : String}
    {moment : Point × World} (starts : moment.1.starts = true) :
    PausesSafely engine workflow runId moment := by
  obtain ⟨point, w⟩ := moment
  unfold Point.starts at starts
  split at starts
  · next same =>
      unfold PausesSafely
      rw [same]
      trivial
  · cases starts

/-- Paused as it starts, the run comes to the same end. -/
theorem early_pause_transparent :
    pausesOf 0 ≠ [] ∧ Transparent echoes startToEnd plainContext 0 "run" newRun (resumedCall 0) := by
  have struck : (pausesOf 0).isEmpty = false := by decide +kernel
  have starts : ((pausesOf 0).all fun moment => moment.1.starts) = true := by decide +kernel
  have runs := completes_resumed 0 (by decide +kernel) (by decide +kernel)
  have fresh : newRun.runs (newRun.objects 0).id = none := rfl
  refine ⟨fun none => ?_, (pauses_transparent_iff echoes_obliging fresh runs).1 ?_⟩
  · rw [none] at struck
    cases struck
  · exact fun moment member => safe_of_starts (List.all_eq_true.mp starts moment member)

/-- Paused while the handler of START runs, the run executes START twice. -/
theorem midway_pause_repeats : ¬ ∀ log s,
    Completes echoes startToEnd plainContext 0 "run" newRun log s →
      Transparent echoes startToEnd plainContext 0 "run" newRun s := by
  intro transparent
  have same := (transparent _ _ (completes_resumed 2 (by decide +kernel)
    (by decide +kernel))).same
  have twice : ((resumedCall 2).ending 0 "run").2.2 = some ["start", "start", "end"] := by
    decide +kernel
  have plain : (((execute echoes 0 plainContext startToEnd).settle newRun).1.ending 0 "run").2.2 =
      some ["start", "end"] := by decide +kernel
  rw [same, plain] at twice
  revert twice
  decide

end SyndicateClaw.Orchestrator
