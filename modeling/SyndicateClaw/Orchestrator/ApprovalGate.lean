import SyndicateClaw.Orchestrator.HandlerMarkers
import SyndicateClaw.Orchestrator.OneShot

/-! The approval gate.

A node of `approval_handler` completes only where the marker `_approval_resume` names
it. The marker lives in the run's state with everything else: in the run objects, in
the rows of the store and in the checkpoints. The invariant says of each of them that
an approval of that node was redeemed before. -/

namespace SyndicateClaw.Orchestrator

open Async

/-- The node's handler is `approval_handler`. -/
def IsGate (workflow : WorkflowDefinition) (nodeId : String) : Prop :=
  ∃ node, workflow.node? nodeId = some node ∧ node.handler = "approval"

/-- The redemption of an approval of this run and this node: the row was approved and
is now marked consumed. -/
def Grants (runId nodeId : String) (event : Event) : Prop :=
  ∃ approvalId row, event = .consumed runId approvalId row ∧ row.runId = runId ∧
    row.status = .approved ∧ row.redeemed = true ∧
    Dict.get? row.context "node_id" = some (.str nodeId)

def Granted (trail : List Event) (runId nodeId : String) : Prop :=
  ∃ event ∈ trail, Grants runId nodeId event

def Justified (workflow : WorkflowDefinition) (trail : List Event) (runId : String)
    (state : State) : Prop :=
  ∀ nodeId, Marked state nodeId → IsGate workflow nodeId → Granted trail runId nodeId

def Accounted (engine : WorkflowEngine) (workflow : WorkflowDefinition) (trail : List Event)
    (runId : String) (state : State) (checkpointData : Option JsonText) : Prop :=
  Justified workflow trail runId state ∧
    ∀ checkpoint restored, checkpointData = some checkpoint →
      restoreCheckpoint engine checkpoint = .ok restored →
      Justified workflow trail runId restored

section accounted

variable {engine : WorkflowEngine} {workflow : WorkflowDefinition} {trail trail' : List Event}
  {runId : String} {state state' : State} {checkpointData : Option JsonText}

theorem Granted.later {nodeId : String} (granted : Granted trail runId nodeId)
    (extends' : trail <+: trail') : Granted trail' runId nodeId := by
  obtain ⟨event, member, grants⟩ := granted
  exact ⟨event, extends'.subset member, grants⟩

theorem Accounted.later (holds : Accounted engine workflow trail runId state checkpointData)
    (extends' : trail <+: trail') :
    Accounted engine workflow trail' runId state checkpointData :=
  ⟨fun nodeId marked gate => (holds.1 nodeId marked gate).later extends',
    fun checkpoint restored saved ok nodeId marked gate =>
      (holds.2 checkpoint restored saved ok nodeId marked gate).later extends'⟩

theorem Accounted.kept (holds : Accounted engine workflow trail runId state checkpointData)
    (kept : MarkerKept state state') :
    Accounted engine workflow trail runId state' checkpointData :=
  ⟨fun nodeId marked gate => holds.1 nodeId (kept nodeId marked) gate, holds.2⟩

/-- `replay` restores the whole object, or what an envelope holds under `data`. -/
theorem restoreCheckpoint_ok {checkpoint : JsonText} {restored : State}
    (ok : restoreCheckpoint engine checkpoint = .ok restored) :
    ∃ envelope, checkpoint = .document (.dict envelope) ∧
      (if Dict.contains envelope "checkpoint_hmac" then
        Dict.get? envelope "data" = some (.dict restored)
      else restored = envelope) := by
  have assigned := restoreCheckpoint_eq_ok.mp ok
  rcases checkpointValue_ok assigned with ⟨envelope, rfl, signed, found, -⟩ | ⟨rfl, unsigned⟩
  · exact ⟨envelope, rfl, by rw [if_pos signed, found]⟩
  · exact ⟨restored, rfl, by rw [if_neg (by simpa using unsigned restored rfl)]⟩

/-- What `replay` restores from the checkpoint of a state marks no node the state does
not mark. -/
theorem restoreCheckpoint_kept {restored : State}
    (ok : restoreCheckpoint engine (checkpointFor engine state) = .ok restored) :
    MarkerKept state restored := by
  have json := markerKept_jsonable state
  obtain ⟨envelope, document, outcome⟩ := restoreCheckpoint_ok ok
  unfold checkpointFor at document
  split at document
  · obtain rfl := Value.dict.inj (JsonText.document.inj document)
    obtain rfl := Value.dict.inj (Option.some.inj outcome)
    exact json
  · obtain rfl := Value.dict.inj (JsonText.document.inj document)
    split at outcome
    · intro nodeId marked
      refine json nodeId (.nested ?_ marked)
      rw [lookup, outcome]
      rfl
    · rw [outcome]
      exact json

theorem Accounted.checkpoint (holds : Accounted engine workflow trail runId state checkpointData) :
    Accounted engine workflow trail runId state (some (checkpointFor engine state)) := by
  refine ⟨holds.1, fun checkpoint restored saved ok nodeId marked gate => ?_⟩
  obtain rfl := Option.some.inj saved
  exact holds.1 nodeId (restoreCheckpoint_kept ok nodeId marked) gate

theorem Accounted.jsonable (holds : Accounted engine workflow trail runId state checkpointData) :
    Accounted engine workflow trail runId (jsonableState state) checkpointData :=
  holds.kept (markerKept_jsonable state)

end accounted

/-! ### What the engine itself writes -/

section writes

variable (state : State) (nodeId : String)

theorem markerKept_clear : MarkerKept state (clearConsumedResumeMarker nodeId state) := by
  unfold clearConsumedResumeMarker
  split
  · split
    · apply markerKept_of_lookup
      · right
        simp [lookup, Dict.get?_pop, Value.asDict?]
      · left
        simp [lookup, Dict.get?_pop]
    · exact .refl state
  · exact .refl state

theorem markerKept_waiting (now : Instant) (request : ApprovalRequest) (runId : String) :
    MarkerKept state (waitingState now request nodeId runId state) :=
  ((markerKept_set (.inl (by decide)) state).trans (markerKept_set (.inl (by decide)) _)).trans
    (markerKept_set (.inl (by decide)) _)

theorem markerKept_bound (now : Instant) (reason : String) (cyclePath : List String)
    (stepCount : Nat) (run : WorkflowRun) :
    MarkerKept run.state (boundFailure now reason cyclePath stepCount run).state :=
  (markerKept_set (.inl (by decide)) run.state).trans (markerKept_set (.inl (by decide)) _)

/-- `run.state.update(output_state)` where the two are the same dictionary. -/
theorem markerKept_update_self : MarkerKept state (Dict.update state state) := by
  have same : ∀ key, lookup (Dict.update state state) key = lookup state key := by
    intro key
    simp [lookup, Dict.get?_update]
  exact markerKept_of_lookup (.inl (same _)) (.inl (same _))

end writes

/-! ### The invariant -/

/-- The built-in handlers over a store, templates that leave the marker alone, and nodes
with names. -/
structure Gated (services : Services) (engine : WorkflowEngine) (workflow : WorkflowDefinition) :
    Prop where
  builtin : engine.handlers = builtinHandlers services
  stored : engine.sessionFactory = true
  templates : TemplatesTame services
  named : ∀ node ∈ workflow.nodes, node.id ≠ ""

structure GateInvariant (engine : WorkflowEngine) (workflow : WorkflowDefinition) (w : World) :
    Prop where
  objects : ∀ ref, Accounted engine workflow w.trail (w.objects ref).id (w.objects ref).state
    (w.objects ref).checkpointData
  rows : ∀ runId row, w.db.runs runId = some row → row.id = runId ∧
    Accounted engine workflow w.trail runId row.state row.checkpointData
  approvals : ∀ id row, w.db.approvals id = some row → row.Names (· ≠ "")
  exits : ∀ pre runId nodeId exit post, w.trail = pre ++ .exited runId nodeId exit :: post →
    nodeId ≠ "" ∧ exit ≠ .pauseExecution ∧
      ∀ result, exit = .returned result → IsGate workflow nodeId → Granted pre runId nodeId
  executions : ∀ runId result, w.runs runId = some result →
    ∀ execution ∈ result.nodeExecutions, execution.status = .completed →
      IsGate workflow execution.nodeId → Granted w.trail runId execution.nodeId

abbrev gateConditions (workflow : WorkflowDefinition) : Conditions :=
  .concurrent (· = workflow) fun _ _ => True

section invariant

variable {services : Services} {engine : WorkflowEngine} {workflow : WorkflowDefinition}
  (gated : Gated services engine workflow) {w w' : World}

theorem redeem_accounted {consumption : Consumption} {runId approvalId : String}
    (holds : GateInvariant engine workflow w)
    (passed : consumeApproval w.now w.db runId approvalId = .ok consumption) :
    consumption.run.id = runId ∧
      Accounted engine workflow (w.trail ++ [.consumed runId approvalId consumption.approval])
        runId consumption.run.state consumption.run.checkpointData := by
  obtain ⟨redeemed, -⟩ := redeemed_of_consumption passed
  obtain ⟨approval, row, resumeNode, present, owner, approved, -, stored, -, resumes, written,
    writtenRun⟩ := consumeApproval_ok passed
  obtain ⟨nodeId, named, node, resume⟩ := holds.approvals approvalId approval present
  obtain rfl := resumeNodeFromState_named named resume resumes
  obtain ⟨id, accounted⟩ := holds.rows runId row stored
  have granted : Granted (w.trail ++ [.consumed runId approvalId consumption.approval]) runId
      resumeNode := by
    refine ⟨_, List.mem_append_right _ (List.mem_singleton_self _), approvalId, _, rfl, ?_, ?_,
      redeemed, ?_⟩
    · rw [written, owner]
    · rw [written, approved]
    · simp [written, Dict.get?_set, node]
  have later := accounted.later (List.prefix_append w.trail
    [.consumed runId approvalId consumption.approval])
  rw [writtenRun]
  refine ⟨id, fun nodeId marked gate => ?_, later.2⟩
  cases marked with
  | here found is =>
      simp only [lookup_set, String.reduceEq, if_false, if_true] at found
      obtain rfl := Option.some.inj found
      obtain rfl : resumeNode = nodeId := by
        simpa [lookup, Dict.get?_cons, Value.jsonable] using is
      exact granted
  | nested found marked =>
      simp only [lookup_set, String.reduceEq, if_false] at found
      exact later.1 nodeId (.nested found marked) gate

theorem GateInvariant.modifyRun (holds : GateInvariant engine workflow w) {other : Nat}
    {f : WorkflowRun → WorkflowRun} {trail : List Event} (extends' : w.trail <+: trail)
    (written : Accounted engine workflow trail (f (w.objects other)).id (f (w.objects other)).state
      (f (w.objects other)).checkpointData) (ref : Nat) :
    Accounted engine workflow trail ((w.modifyRun other f).objects ref).id
      ((w.modifyRun other f).objects ref).state
      ((w.modifyRun other f).objects ref).checkpointData := by
  by_cases same : ref = other
  · subst same
    rw [World.modifyRun_objects_self]
    exact written
  · rw [World.modifyRun_objects_of_ne _ _ _ _ same]
    exact (holds.objects ref).later extends'

include gated in
theorem gate_objects (write : EngineWrite engine (gateConditions workflow) w w')
    (holds : GateInvariant engine workflow w) (ref : Nat) :
    Accounted engine workflow w'.trail (w'.objects ref).id (w'.objects ref).state
      (w'.objects ref).checkpointData := by
  have same := List.prefix_refl w.trail
  cases write with
  | control other f only =>
      refine holds.modifyRun same ?_ ref
      rw [only]
      exact holds.objects other
  | handle other runId node handler index context handling owns =>
      refine holds.modifyRun (f := fun run => { run with state := _ }) (List.prefix_append _ _) ?_ ref
      have tame := builtinHandlers_tame gated.templates (gated.builtin ▸ handling.present) index
        (w.objects other).state context
      exact ((holds.objects other).later (List.prefix_append _ _)).kept tame.kept
  | output other runId node handler index state context result handling left returned =>
      refine holds.modifyRun same ?_ ref
      have tame := builtinHandlers_tame gated.templates (gated.builtin ▸ handling.present) index
        state context
      dsimp only
      rw [tame.output result returned, ← left]
      exact (holds.objects other).kept (markerKept_update_self _)
  | clear other nodeId =>
      exact holds.modifyRun same ((holds.objects other).kept (markerKept_clear _ nodeId)) ref
  | checkpoint other => exact holds.modifyRun same (holds.objects other).checkpoint ref
  | bound other now reason cyclePath stepCount =>
      exact holds.modifyRun same
        ((holds.objects other).kept (markerKept_bound now reason cyclePath stepCount _)) ref
  | await other runId nodeId now request =>
      exact holds.modifyRun same
        ((holds.objects other).kept (markerKept_waiting _ nodeId now request _)) ref
  | mark other node allowed =>
      exact holds.modifyRun same
        ((holds.objects other).kept (markerKept_set (.inl (by decide)) _)) ref
  | restore other checkpoint state saved restored =>
      exact holds.modifyRun same
        ⟨(holds.objects other).2 checkpoint state saved restored, (holds.objects other).2⟩ ref
  | redeemInMemory other runId approvalId payload unstored waits =>
      rw [gated.stored] at unstored
      cases unstored
  | redeem consumption runId approvalId passed =>
      obtain ⟨id, accounted⟩ := redeem_accounted holds passed
      by_cases fresh : ref = w.nextObject
      · subst fresh
        simp only [World.redeem, Function.update_self, runOfRow]
        rw [id]
        exact accounted
      · simp only [World.redeem, Function.update_of_ne fresh]
        exact (holds.objects ref).later (List.prefix_append _ _)
  | dispatch | invoke | chose | resumed => exact (holds.objects ref).later (List.prefix_append _ _)
  | _ => exact holds.objects ref

theorem GateInvariant.upsertRun (holds : GateInvariant engine workflow w) (ref : Nat)
    {runId : String} {row : WorkflowRunRow}
    (stored : (w.db.upsertRun (w.objects ref)).runs runId = some row) :
    row.id = runId ∧ Accounted engine workflow w.trail runId row.state row.checkpointData := by
  rw [Database.upsertRun_runs] at stored
  by_cases same : runId = (w.objects ref).id
  · subst same
    rw [Function.update_self] at stored
    obtain rfl := Option.some.inj stored
    exact ⟨rfl, (holds.objects ref).jsonable⟩
  · rw [Function.update_of_ne same] at stored
    exact holds.rows runId row stored

theorem gate_rows (write : EngineWrite engine (gateConditions workflow) w w')
    (holds : GateInvariant engine workflow w) (runId : String) (row : WorkflowRunRow)
    (stored : w'.db.runs runId = some row) :
    row.id = runId ∧ Accounted engine workflow w'.trail runId row.state row.checkpointData := by
  have later : w.db.runs runId = some row →
      row.id = runId ∧ Accounted engine workflow w'.trail runId row.state row.checkpointData := by
    intro before
    obtain ⟨id, accounted⟩ := holds.rows runId row before
    exact ⟨id, accounted.later write.trail_prefix⟩
  cases write with
  | persistNode ref execution => exact holds.upsertRun ref stored
  | persistFailure ref => exact holds.upsertRun ref stored
  | persistBoundary ref => exact holds.upsertRun ref stored
  | redeem consumption id approvalId passed =>
      by_cases same : runId = id
      · subst same
        have written : row = consumption.run := by
          simpa [World.redeem, Consumption.commit, Database.setRun, eq_comm] using stored
        rw [written]
        exact redeem_accounted holds passed
      · apply later
        simpa [World.redeem, Consumption.commit, Database.setRun, Function.update_of_ne same]
          using stored
  | decide requestId approver reason status db decided accepted =>
      exact later ((decideApproval_redecided accepted).1 ▸ stored)
  | _ => exact later stored

theorem GateInvariant.asked (holds : GateInvariant engine workflow w) {runId nodeId : String}
    (asked : w.Asked runId nodeId) : nodeId ≠ "" := by
  obtain ⟨-, exc, member⟩ := asked
  obtain ⟨before, after, split⟩ := List.append_of_mem member
  exact (holds.exits before runId nodeId _ after split).1

include gated in
theorem gate_exits (write : EngineWrite engine (gateConditions workflow) w w')
    (holds : GateInvariant engine workflow w) (before : List Event) (runId nodeId : String)
    (exit : HandlerExit) (after : List Event)
    (split : w'.trail = before ++ .exited runId nodeId exit :: after) :
    nodeId ≠ "" ∧ exit ≠ .pauseExecution ∧
      ∀ result, exit = .returned result → IsGate workflow nodeId → Granted before runId nodeId := by
  have neutral : ∀ event : Event, w.trail ++ [event] = before ++ .exited runId nodeId exit :: after →
      (∀ r n e, event ≠ .exited r n e) → nodeId ≠ "" ∧ exit ≠ .pauseExecution ∧
        ∀ result, exit = .returned result → IsGate workflow nodeId →
          Granted before runId nodeId := by
    intro event appended other
    rcases snoc_split appended with ⟨-, is⟩ | ⟨rest, earlier⟩
    · exact absurd is.symm (other runId nodeId exit)
    · exact holds.exits before runId nodeId exit rest earlier
  cases write with
  | handle ref id node handler index context handling owns =>
      rcases snoc_split split with ⟨rfl, is⟩ | ⟨rest, earlier⟩
      swap
      · exact holds.exits before runId nodeId exit rest earlier
      obtain ⟨rfl, rfl, rfl⟩ := Event.exited.inj is
      obtain ⟨definition, rfl, found⟩ := handling.belongs
      have present : builtinHandlers services node.handler = some handler :=
        gated.builtin ▸ handling.present
      have tame := builtinHandlers_tame gated.templates present index (w.objects ref).state context
      refine ⟨?_, tame.unpaused, fun result returned gate => ?_⟩
      · exact gated.named node (List.mem_reverse.mp (List.mem_of_find?_eq_some found))
      · obtain ⟨other, same, approval⟩ := gate
        obtain rfl := Option.some.inj (found.symm.trans same)
        have marked := approval_returned_marked (approval ▸ present) returned
        rw [handling.named] at marked
        rw [← owns.2]
        exact (holds.objects ref).1 node.id marked ⟨node, found, approval⟩
  | dispatch | invoke | chose | redeem | redeemInMemory | resumed =>
      exact neutral _ split (by simp)
  | _ => exact holds.exits before runId nodeId exit after split

theorem gate_executions (write : EngineWrite engine (gateConditions workflow) w w')
    (holds : GateInvariant engine workflow w) (runId : String) (result : WorkflowRunResult)
    (registered : w'.runs runId = some result) (execution : NodeExecution)
    (listed : execution ∈ result.nodeExecutions) (completed : execution.status = .completed)
    (gate : IsGate workflow execution.nodeId) : Granted w'.trail runId execution.nodeId := by
  have later : ∀ old, w.runs runId = some old → execution ∈ old.nodeExecutions →
      Granted w'.trail runId execution.nodeId := by
    intro old present member
    exact (holds.executions runId old present execution member completed gate).later
      write.trail_prefix
  -- Results that were there already and keep their executions.
  have modified : ∀ {id : String} {g : WorkflowRunResult → WorkflowRunResult},
      (w.modifyResult id g).runs runId = some result →
      (∀ old, (g old).nodeExecutions = old.nodeExecutions ∨ (g old).nodeExecutions = []) →
      Granted w'.trail runId execution.nodeId := by
    intro id g found executions
    obtain ⟨old, present, rfl⟩ := World.modifyResult_runs_some w runId g found
    refine later old present ?_
    split at listed
    · rcases executions old with same | none
      · rwa [same] at listed
      · rw [none] at listed
        cases listed
    · exact listed
  have fresh : ∀ ref, result.nodeExecutions =
      ((w.runs runId).getD { run := ref }).nodeExecutions → Granted w'.trail runId
        execution.nodeId := by
    intro ref same
    cases present : w.runs runId with
    | none =>
        rw [present] at same
        rw [same] at listed
        cases listed
    | some old =>
        rw [present] at same
        exact later old present (same ▸ listed)
  cases write with
  | register ref id owns =>
      by_cases same : runId = id
      · subst same
        simp only [Function.update_self, Option.some.injEq] at registered
        exact fresh ref (by rw [← registered])
      · simp only [Function.update_of_ne same] at registered
        exact later result registered listed
  | redeem consumption id approvalId passed =>
      by_cases same : runId = (runOfRow consumption.run).id
      · subst same
        simp only [World.redeem, Function.update_self, Option.some.injEq] at registered
        exact fresh w.nextObject (by rw [← registered])
      · simp only [World.redeem, Function.update_of_ne same] at registered
        exact later result registered listed
  | append id added ended =>
      obtain ⟨old, present, rfl⟩ := World.modifyResult_runs_some w runId _ registered
      split at listed
      · next same =>
          subst same
          rcases List.mem_append.mp listed with earlier | new
          · exact later old present earlier
          · obtain rfl := List.mem_singleton.mp new
            obtain ⟨exit, how, member⟩ := ended completed
            obtain ⟨before, after, split⟩ := List.append_of_mem member
            obtain ⟨-, unpaused, granted⟩ := holds.exits before runId _ exit after split
            obtain ⟨value, returned⟩ := how.resolve_right unpaused
            refine (granted value returned gate).later ?_
            rw [World.modifyResult_trail, split]
            exact List.prefix_append _ _
      · exact later old present listed
  | dispatch definition ref id current =>
      simp only [World.dispatch] at registered
      exact modified registered fun _ => .inl rfl
  | progress | redirect => exact modified registered fun _ => .inl rfl
  | forget => exact modified registered fun _ => .inr rfl
  | _ => exact later result registered listed

include gated in
theorem stable_gate : Stable engine (gateConditions workflow) (GateInvariant engine workflow) :=
  fun _ _ write holds =>
    ⟨gate_objects gated write holds, gate_rows write holds, 
      approvals_named (fun _ named => named) holds.approvals (fun _ _ => holds.asked) write,
      gate_exits gated write holds, gate_executions write holds⟩

theorem gate_started (id workflowId workflowVersion actor : String) {initialState : State}
    (tags : Dict String String)
    (unmarked : ∀ nodeId, Marked initialState nodeId → ¬ IsGate workflow nodeId) :
    GateInvariant engine workflow
      (World.started (startRun id workflowId workflowVersion actor initialState tags)) := by
  have accounted : Accounted engine workflow [] id initialState none :=
    ⟨fun nodeId marked gate => absurd gate (unmarked nodeId marked), nofun⟩
  constructor
  · intro ref
    exact accounted
  · intro runId row stored
    by_cases same : runId = id
    · subst same
      obtain rfl : _ = row := by simpa [World.started, startRun] using stored
      exact ⟨rfl, accounted⟩
    · simp [World.started, startRun, same] at stored
  · intro id row stored
    cases stored
  · intro before runId nodeId exit after split
    simp [World.started] at split
  · intro runId result registered
    cases registered

theorem started_allocated (row : WorkflowRunRow) : (World.started row).Allocated := by
  intro runId result registered
  cases registered

/-- In every history of calls on a run whose initial state marks no gate, a node of
`approval_handler` is recorded completed, and its handler returns, only after an
approval of that run and that node was redeemed. -/
theorem gate_passed_granted (gated : Gated services engine workflow)
    (id workflowId workflowVersion actor : String) {initialState : State}
    (tags : Dict String String)
    (unmarked : ∀ nodeId, Marked initialState nodeId → ¬ IsGate workflow nodeId)
    {start : World}
    (started : start = World.started (startRun id workflowId workflowVersion actor initialState
      tags)) {activities : List Activity}
    (calls : ∀ (n : Nat) (op : EngineCall), activities[n]? = some (.call op) →
      op.Allowed (gateConditions workflow) (worldAfter engine start activities n)) (n : Nat) :
    (∀ runId result, (worldAfter engine start activities n).runs runId = some result →
      ∀ execution ∈ result.nodeExecutions, execution.status = .completed →
        IsGate workflow execution.nodeId →
        Granted (worldAfter engine start activities n).trail runId execution.nodeId) ∧
    ∀ before runId nodeId result after, (worldAfter engine start activities n).trail =
        before ++ .exited runId nodeId (.returned result) :: after →
      IsGate workflow nodeId → Granted before runId nodeId := by
  have begins : GateInvariant engine workflow start :=
    started ▸ gate_started id workflowId workflowVersion actor tags unmarked
  have allocated : start.Allocated := started ▸ started_allocated _
  have allowed : ∀ (n : Nat) (activity : Activity), activities[n]? = some activity →
      activity.Allowed (gateConditions workflow) (poolAfter engine start activities n) := by
    intro n activity present
    cases activity with
    | call op => exact calls n op present
    | proceed i =>
        intro point k found
        cases point <;> trivial
    | _ => trivial
  have invariant := history_invariant (stable_gate gated) begins allocated allowed n
  refine ⟨invariant.executions, fun before runId nodeId result after split gate => ?_⟩
  exact (invariant.exits before runId nodeId _ after split).2.2 result rfl gate

end invariant

/-! ### One gate -/

section oneGate

def plainServices : Services :=
  { auditService := false, checkpointStore := false
    ulid := fun call k => "request-" ++ toString call ++ "-" ++ toString k
    now := fun _ _ => 0
    render := fun _ _ template _ state => (state, .ok template)
    inferChat := none, send := none, toolExecutor := none
    defaultScope := Platform.plain.defaultScope
    errorText := fun _ _ => "error" }

def oneGate : WorkflowDefinition :=
  { id := "workflow"
    nodes := [.plain "start" .start "start",
      { NodeDefinition.plain "gate" .approval "approval" with
        config := [("assigned_to", .list [.str "approver"])] },
      .plain "end" .endNode "end"]
    edges := [.plain "start" "gate", .plain "gate" "end"] }

def builtinEngine : WorkflowEngine := .plain (builtinHandlers plainServices) true

def approvedRun : List Activity :=
  .call (.execute 0 plainContext oneGate) :: (List.replicate 14 (.proceed 0) ++
    [.approve "request-1-2" "approver" "ok",
     .call (.resumeAfterApproval "run" "request-1-2" oneGate plainContext)] ++
    List.replicate 7 (.proceed 1))

theorem oneGate_gated : Gated plainServices builtinEngine oneGate where
  builtin := rfl
  stored := rfl
  templates := fun _ _ _ _ state => .refl state
  named := by simp [oneGate, NodeDefinition.plain]

theorem unmarked_empty (nodeId : String) (marked : Marked [] nodeId) : ¬ IsGate oneGate nodeId := by
  cases marked with
  | here found _ => cases found
  | nested found _ => cases found

theorem approvedRun_calls (n : Nat) (op : EngineCall) (present : approvedRun[n]? = some (.call op)) :
    op.Allowed (gateConditions oneGate) (worldAfter builtinEngine newRun approvedRun n) := by
  rcases n with _ | n
  · cases present
    exact ⟨Nat.zero_lt_one, rfl⟩
  · have member := List.mem_of_getElem? (show (approvedRun.tail)[n]? = some (.call op) from present)
    simp [approvedRun] at member
    subst member
    rfl

theorem gate_passed_granted_approvedRun :
    ((worldAfter builtinEngine newRun approvedRun 24).runs "run").any (fun result =>
        result.nodeExecutions.any fun execution =>
          execution.nodeId = "gate" ∧ execution.status = .completed) = true ∧
      ∀ result, (worldAfter builtinEngine newRun approvedRun 24).runs "run" = some result →
        ∀ execution ∈ result.nodeExecutions, execution.status = .completed →
          IsGate oneGate execution.nodeId →
          Granted (worldAfter builtinEngine newRun approvedRun 24).trail "run" execution.nodeId :=
  ⟨by decide +kernel, (gate_passed_granted oneGate_gated "run" "workflow" "1" "client" []
    unmarked_empty (Eq.refl newRun) approvedRun_calls 24).1 "run"⟩

def forgedRun : World :=
  World.started (startRun "run" "workflow" "1" "client"
    [("_approval_resume", .dict [("node_id", .str "gate")])] [])

def Event.isConsumption : Event → Bool
  | .consumed _ _ _ => true
  | _ => false

theorem forged_marker_passes_gate :
    ¬ ∀ n runId result,
      (worldAfter builtinEngine forgedRun approvedRun n).runs runId = some result →
      ∀ execution ∈ result.nodeExecutions, execution.status = .completed →
        IsGate oneGate execution.nodeId →
        Granted (worldAfter builtinEngine forgedRun approvedRun n).trail runId
          execution.nodeId := by
  intro sound
  have passed : ((worldAfter builtinEngine forgedRun approvedRun 9).runs "run").any (fun result =>
      result.nodeExecutions.any fun execution =>
        execution.nodeId = "gate" ∧ execution.status = .completed) = true := by decide +kernel
  have unasked : (worldAfter builtinEngine forgedRun approvedRun 9).trail.all
      (fun event => !event.isConsumption) = true := by decide +kernel
  obtain ⟨result, registered, any⟩ := (Option.any_eq_true ..).mp passed
  obtain ⟨execution, listed, is⟩ := List.any_eq_true.mp any
  obtain ⟨node, completed⟩ := of_decide_eq_true is
  have gate : IsGate oneGate execution.nodeId := by
    rw [node]
    exact ⟨_, rfl, rfl⟩
  obtain ⟨event, member, approvalId, row, rfl, -⟩ :=
    sound 9 "run" result registered execution listed completed gate
  exact absurd (List.all_eq_true.mp unasked _ member) Bool.false_ne_true

end oneGate

end SyndicateClaw.Orchestrator
