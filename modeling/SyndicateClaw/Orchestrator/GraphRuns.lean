import SyndicateClaw.Orchestrator.ApprovalFinality
import SyndicateClaw.Orchestrator.RunCalls

/-! Runs follow the graph.

A call enters its loop at the node the result names, at the node under `_resume_from`, or
at START. The invariant says that the first of these is where the run stands, and that
the second is out of play until a node has been dispatched. -/

namespace SyndicateClaw.Orchestrator

open Async

/-- The state names no node of the workflow to resume at but the START node. -/
def Unmarked (workflow : WorkflowDefinition) (state : State) : Prop :=
  ∀ resumeFrom node startNode, Dict.get? state "_resume_from" = some (.str resumeFrom) →
    workflow.node? resumeFrom = some node → findStartNode workflow = some startNode →
      resumeFrom = "" ∨ resumeFrom = startNode.id

/-- What each event of a run's trail has to be preceded by. -/
def Event.Sound (workflow : WorkflowDefinition) (runId : String) (before : List Event) :
    Event → Prop
  | .dispatched id nodeId => id = runId ∧ nodeId ≠ "" ∧ Follows workflow runId before nodeId
  | .invoked id nodeId _ _ => Current before id nodeId
  | .chose _ nodeId next => ∃ result state, Returned before runId nodeId result ∧
      result.nextNodeId.or (resolveNextNode nodeId state workflow.edges) = next
  | _ => True

structure OneRun (runId : String) (w : World) : Prop where
  ids : ∀ ref, (w.objects ref).id = runId
  rows : ∀ key row, w.db.runs key = some row → row.id = runId

/-- What the trail, the registered result, the run objects and the rows of one run have
to say about each other. -/
structure OnTrack (workflow : WorkflowDefinition) (runId : String) (w : World) : Prop where
  ids : ∀ ref, (w.objects ref).id = runId
  rows : ∀ key row, w.db.runs key = some row → row.id = runId
  current : ∀ result, w.runs runId = some result → result.currentNodeId = standing w.trail
  unregistered : w.runs runId = none → standing w.trail = none
  fresh : standing w.trail = none → ∀ ref, Unmarked workflow (w.objects ref).state
  stands : ∀ nodeId, standing w.trail = some nodeId → .dispatched runId nodeId ∈ w.trail
  approvals : ∀ id row, w.db.approvals id = some row →
    row.Names fun nodeId => .dispatched runId nodeId ∈ w.trail
  sound : Always (Event.Sound workflow runId) w.trail

section invariant

variable {engine : WorkflowEngine} {workflow : WorkflowDefinition} {runId : String} {w w' : World}

theorem Unmarked.congr {state state' : State} (unmarked : Unmarked workflow state)
    (same : Dict.get? state' "_resume_from" = Dict.get? state "_resume_from") :
    Unmarked workflow state' := by
  intro resumeFrom node startNode found
  rw [same] at found
  exact unmarked resumeFrom node startNode found

theorem Unmarked.clear {state : State} (unmarked : Unmarked workflow state) (nodeId : String) :
    Unmarked workflow (clearConsumedResumeMarker nodeId state) := by
  unfold clearConsumedResumeMarker
  split
  · split
    · intro resumeFrom node startNode found
      simp [Dict.get?_pop] at found
    · exact unmarked
  · exact unmarked

theorem Unmarked.entry {state : State} (unmarked : Unmarked workflow state)
    {startNode node : NodeDefinition} (found : findStartNode workflow = some startNode)
    (present : workflow.node? (entryNode none state startNode) = some node) :
    entryNode none state startNode = startNode.id := by
  by_cases named : ∃ resumeFrom, Dict.get? state "_resume_from" = some (.str resumeFrom) ∧
      resumeFrom ≠ ""
  · obtain ⟨resumeFrom, marked, nonempty⟩ := named
    rw [entryNode_resumeFrom _ _ nonempty marked] at present ⊢
    exact (unmarked resumeFrom node startNode marked present found).resolve_left nonempty
  · apply entryNode_start
    intro resumeFrom marked
    by_contra nonempty
    exact named ⟨resumeFrom, marked, nonempty⟩

section oneRun

variable {c : Conditions} (one : OneRun runId w)

include one

theorem OneRun.redeemed {now : Instant} {consumption : Consumption} {id approvalId : String}
    (passed : consumeApproval now w.db id approvalId = .ok consumption) :
    consumption.run.id = runId := by
  obtain ⟨approval, row, resumeNode, -, -, -, -, stored, -, -, -, written⟩ :=
    consumeApproval_ok passed
  rw [written]
  exact one.rows id row stored

theorem OneRun.ids_kept (write : EngineWrite engine c w w') (ref : Nat) :
    (w'.objects ref).id = runId := by
  have modified : ∀ {other : Nat} {f : WorkflowRun → WorkflowRun},
      (f (w.objects other)).id = (w.objects other).id →
      ((w.modifyRun other f).objects ref).id = runId := by
    intro other f named
    by_cases same : ref = other
    · subst same
      rw [World.modifyRun_objects_self, named]
      exact one.ids ref
    · rw [World.modifyRun_objects_of_ne _ _ _ _ same]
      exact one.ids ref
  cases write with
  | control other f only => exact modified (by rw [only])
  | handle other => exact @modified other (fun run => { run with state := _ }) rfl
  | redeemInMemory other id approvalId payload =>
      exact @modified other (fun run => { run with
        status := .running
        state := Dict.set (Dict.set run.state "_approval_resume" (.dict payload))
          "_approved_approval_id" (.str approvalId) }) rfl
  | output | clear | checkpoint | bound | await | mark | restore => exact modified rfl
  | redeem consumption id approvalId passed =>
      by_cases fresh : ref = w.nextObject
      · subst fresh
        simp only [World.redeem, Function.update_self, runOfRow]
        exact one.redeemed passed
      · simp only [World.redeem, Function.update_of_ne fresh]
        exact one.ids ref
  | _ => exact one.ids ref

theorem OneRun.rows_kept (write : EngineWrite engine c w w') (key : String)
    (row : WorkflowRunRow) (stored : w'.db.runs key = some row) : row.id = runId := by
  have upserted : ∀ ref, (w.db.upsertRun (w.objects ref)).runs key = some row →
      row.id = runId := by
    intro ref found
    rw [Database.upsertRun_runs] at found
    by_cases same : key = (w.objects ref).id
    · rw [same, Function.update_self] at found
      obtain rfl := Option.some.inj found
      exact one.ids ref
    · rw [Function.update_of_ne same] at found
      exact one.rows key row found
  cases write with
  | persistNode ref execution => exact upserted ref stored
  | persistFailure ref => exact upserted ref stored
  | persistBoundary ref => exact upserted ref stored
  | redeem consumption id approvalId passed =>
      by_cases same : key = id
      · subst same
        have written : row = consumption.run := by
          simpa [World.redeem, Consumption.commit, Database.setRun, eq_comm] using stored
        rw [written]
        exact one.redeemed passed
      · apply one.rows key row
        simpa [World.redeem, Consumption.commit, Database.setRun, Function.update_of_ne same]
          using stored
  | decide requestId approver reason status db decided accepted =>
      exact one.rows key row ((decideApproval_redecided accepted).1 ▸ stored)
  | _ => exact one.rows key row stored

end oneRun

theorem stable_oneRun {c : Conditions} : Stable engine c (OneRun runId) :=
  fun _ _ write one => ⟨one.ids_kept write, one.rows_kept write⟩

namespace OnTrack

variable (holds : OnTrack workflow runId w)

include holds

theorem dispatched {id nodeId : String} (member : .dispatched id nodeId ∈ w.trail) :
    id = runId ∧ nodeId ≠ "" := by
  obtain ⟨before, after, split⟩ := List.append_of_mem member
  obtain ⟨same, named, -⟩ := holds.sound before _ after split
  exact ⟨same, named⟩

theorem redeemed {consumption : Consumption} {id approvalId : String}
    (passed : consumeApproval w.now w.db id approvalId = .ok consumption) :
    consumption.run.id = runId ∧ ∃ nodeId, .dispatched runId nodeId ∈ w.trail ∧
      consumption.approval.resumeNode = some nodeId ∧
      lookupStr consumption.run.state "_resume_from" = nodeId := by
  obtain ⟨approval, row, resumeNode, -, -, -, -, stored, -, -, -, written⟩ :=
    consumeApproval_ok passed
  obtain ⟨nodeId, known, -, resume, marked⟩ := consumed_named
    (fun nodeId member => (holds.dispatched member).2) holds.approvals passed
  refine ⟨?_, nodeId, known, ?_, ?_⟩
  · rw [written]
    exact holds.rows id row stored
  · simp [ApprovalRequestRow.resumeNode, lookup, resume, Value.asStr?]
  · simp [lookupStr, marked, Value.pyStr]

theorem oneRun_kept (write : EngineWrite engine (.sequential workflow) w w') :
    OneRun runId w' :=
  stable_oneRun w w' write ⟨holds.ids, holds.rows⟩

theorem follows {ref : Nat} {current : String}
    (comes : Comes (.sequential workflow) workflow ref runId w current) {node : NodeDefinition}
    (present : workflow.node? current = some node) : Follows workflow runId w.trail current := by
  rcases comes with ⟨entered, startNode, result, found, registered, entry⟩ | ⟨nodeId, last⟩
  · have stands := holds.current result registered
    cases place : standing w.trail with
    | none =>
        rw [stands, place] at entry
        subst entry
        exact .start startNode found (standing_none place)
          ((holds.fresh place ref).entry found present)
    | some nodeId =>
        have known := holds.stands nodeId place
        rw [stands, place, entryNode_current _ _ (holds.dispatched known).2] at entry
        subst entry
        exact .resumed entered place known
  · obtain ⟨before, split⟩ := List.getLast?_eq_some_iff.mp last
    obtain ⟨result, state, returned, next⟩ := holds.sound before _ [] split
    refine .reached nodeId result state ?_ last next
    rw [split]
    exact returned.quiet (.snoc _ rfl)

theorem registered {ref : Nat} {current : String}
    (comes : Comes (.sequential workflow) workflow ref runId w current) : w.runs runId ≠ none := by
  intro absent
  have nowhere := holds.unregistered absent
  rcases comes with ⟨-, -, result, -, registered, -⟩ | ⟨nodeId, last⟩
  · rw [absent] at registered
    cases registered
  · obtain ⟨before, split⟩ := List.getLast?_eq_some_iff.mp last
    obtain ⟨result, state, ⟨since, flight, -⟩, -⟩ := holds.sound before _ [] split
    have current : Current w.trail runId nodeId := by
      rw [split]
      exact Current.quiet ⟨since, flight⟩ (.snoc _ rfl)
    exact current.stands nowhere

theorem current_kept (write : EngineWrite engine (.sequential workflow) w w')
    (result : WorkflowRunResult) (registered : w'.runs runId = some result) :
    result.currentNodeId = standing w'.trail := by
  have modified : ∀ {id : String} {f : WorkflowRunResult → WorkflowRunResult},
      (w.modifyResult id f).runs runId = some result →
      (∀ old, (f old).currentNodeId = old.currentNodeId) →
        result.currentNodeId = standing w.trail := by
    intro id f found same
    obtain ⟨old, present, rfl⟩ := w.modifyResult_runs_some runId f found
    split
    · rw [same]
      exact holds.current old present
    · exact holds.current old present
  cases write with
  | register ref id owns =>
      obtain rfl : id = runId := owns.2.symm.trans (holds.ids ref)
      simp only [Function.update_self] at registered
      cases present : w.runs id with
      | none =>
          rw [present] at registered
          obtain rfl := Option.some.inj registered
          exact (holds.unregistered present).symm
      | some old =>
          rw [present] at registered
          obtain rfl := Option.some.inj registered
          exact holds.current old present
  | dispatch definition ref id current used owns found comes =>
      obtain rfl : id = runId := owns.2.symm.trans (holds.ids ref)
      simp only [World.dispatch] at registered
      obtain ⟨old, present, rfl⟩ := w.modifyResult_runs_some id _ registered
      simp [World.dispatch]
  | redeem consumption id approvalId passed =>
      obtain ⟨same, nodeId, -, resume, marked⟩ := holds.redeemed passed
      have here : (runOfRow consumption.run).id = runId := same
      simp only [World.redeem, here, Function.update_self, Option.some.injEq] at registered
      subst registered
      simp [World.redeem, resume, runOfRow, marked]
  | redirect id node allowed => cases allowed
  | progress | append | forget => exact modified registered fun _ => rfl
  | invoke | handle | chose | resumed | redeemInMemory =>
      exact (holds.current result registered).trans (standing_still rfl).symm
  | _ => exact holds.current result registered

theorem unregistered_kept (write : EngineWrite engine (.sequential workflow) w w')
    (absent : w'.runs runId = none) : standing w'.trail = none := by
  have modified : ∀ {id : String} {f : WorkflowRunResult → WorkflowRunResult},
      (w.modifyResult id f).runs runId = none → w.runs runId = none := by
    intro id f found
    by_cases here : runId = id
    · subst here
      rw [World.modifyResult_runs_self] at found
      exact Option.map_eq_none_iff.mp found
    · simpa only [World.modifyResult, Function.update_of_ne here] using found
  cases write with
  | register ref id owns =>
      obtain rfl : id = runId := owns.2.symm.trans (holds.ids ref)
      simp at absent
  | dispatch definition ref id current used owns found comes =>
      obtain rfl : id = runId := owns.2.symm.trans (holds.ids ref)
      obtain rfl := used
      simp only [World.dispatch] at absent
      exact absurd (modified absent) (holds.registered comes)
  | redeem consumption id approvalId passed =>
      have here : (runOfRow consumption.run).id = runId := (holds.redeemed passed).1
      simp [World.redeem, here] at absent
  | progress | append | forget | redirect => exact holds.unregistered (modified absent)
  | invoke | handle | chose | resumed | redeemInMemory =>
      exact (standing_still rfl).trans (holds.unregistered absent)
  | _ => exact holds.unregistered absent

theorem fresh_kept (write : EngineWrite engine (.sequential workflow) w w')
    (nowhere : standing w'.trail = none) (ref : Nat) :
    Unmarked workflow (w'.objects ref).state := by
  have modified : ∀ {other : Nat} {f : WorkflowRun → WorkflowRun}, standing w.trail = none →
      (Unmarked workflow (w.objects other).state →
        Unmarked workflow (f (w.objects other)).state) →
      Unmarked workflow ((w.modifyRun other f).objects ref).state := by
    intro other f before kept
    by_cases same : ref = other
    · subst same
      rw [World.modifyRun_objects_self]
      exact kept (holds.fresh before ref)
    · rw [World.modifyRun_objects_of_ne _ _ _ _ same]
      exact holds.fresh before ref
  cases write with
  | control other f only =>
      refine modified nowhere fun unmarked => ?_
      rw [only]
      exact unmarked
  | handle other id node handler index context handling owns current =>
      have nowhere := (standing_still rfl).symm.trans nowhere
      exact absurd nowhere (current trivial).stands
  | output other id node handler index state context result handling left returned current =>
      exact absurd nowhere (current trivial).stands
  | await other id nodeId now request current =>
      exact absurd nowhere (current trivial).stands
  | clear other nodeId => exact modified nowhere fun unmarked => unmarked.clear nodeId
  | checkpoint other => exact modified nowhere fun unmarked => unmarked
  | bound other now reason cyclePath stepCount =>
      refine modified nowhere fun unmarked => unmarked.congr ?_
      simp [boundFailure, Dict.get?_set]
  | redeemInMemory other id approvalId payload unstored waits =>
      have nowhere := (standing_still rfl).symm.trans nowhere
      refine @modified other (fun run => { run with
        status := .running
        state := Dict.set (Dict.set run.state "_approval_resume" (.dict payload))
          "_approved_approval_id" (.str approvalId) }) nowhere fun unmarked => unmarked.congr ?_
      simp [Dict.get?_set]
  | mark other node allowed => cases allowed
  | restore other checkpoint state saved restored allowed => cases allowed
  | dispatch definition other id current used owns found comes =>
      simp [World.dispatch] at nowhere
  | redeem consumption id approvalId passed =>
      obtain ⟨-, nodeId, -, resume, -⟩ := holds.redeemed passed
      simp [World.redeem, resume] at nowhere
  | invoke | chose | resumed =>
      exact holds.fresh ((standing_still rfl).symm.trans nowhere) ref
  | _ => exact holds.fresh nowhere ref

theorem stands_kept (write : EngineWrite engine (.sequential workflow) w w') (nodeId : String)
    (stands : standing w'.trail = some nodeId) : .dispatched runId nodeId ∈ w'.trail := by
  have later : standing w.trail = some nodeId → .dispatched runId nodeId ∈ w'.trail :=
    fun before => write.trail_prefix.subset (holds.stands nodeId before)
  cases write with
  | dispatch definition ref id current used owns found comes =>
      obtain rfl : id = runId := owns.2.symm.trans (holds.ids ref)
      obtain rfl : current = nodeId := by simpa [World.dispatch] using stands
      simp [World.dispatch]
  | redeem consumption id approvalId passed =>
      obtain ⟨-, node, known, resume, -⟩ := holds.redeemed passed
      obtain rfl : node = nodeId := by simpa [World.redeem, resume] using stands
      exact List.mem_append_left _ known
  | invoke | handle | chose | resumed | redeemInMemory =>
      exact later ((standing_still rfl).symm.trans stands)
  | _ => exact later stands

theorem sound_kept (named : ∀ node ∈ workflow.nodes, node.id ≠ "")
    (write : EngineWrite engine (.sequential workflow) w w') :
    Always (Event.Sound workflow runId) w'.trail := by
  cases write with
  | dispatch definition ref id current used owns found comes =>
      obtain rfl : id = runId := owns.2.symm.trans (holds.ids ref)
      obtain rfl := used
      obtain ⟨node, found⟩ := found
      refine holds.sound.snoc ⟨rfl, ?_, holds.follows comes found⟩
      rw [← node?_id definition found]
      exact named node (List.mem_reverse.mp (List.mem_of_find?_eq_some found))
  | invoke id node attempt current => exact holds.sound.snoc (current trivial)
  | chose definition ref id nodeId result used ended =>
      obtain rfl := used
      have returned := ended trivial
      obtain rfl : id = runId := by
        obtain ⟨since, ⟨⟨before, split⟩, -⟩, -⟩ := returned
        have member : .dispatched id nodeId ∈ w.trail := by rw [split]; simp
        exact (holds.dispatched member).1
      exact holds.sound.snoc ⟨result, _, returned, rfl⟩
  | handle | resumed | redeemInMemory | redeem => exact holds.sound.snoc trivial
  | _ => exact holds.sound

end OnTrack

theorem stable_onTrack (named : ∀ node ∈ workflow.nodes, node.id ≠ "") :
    Stable engine (.sequential workflow) (OnTrack workflow runId) := by
  intro w w' write holds
  refine ⟨(holds.oneRun_kept write).ids, (holds.oneRun_kept write).rows, holds.current_kept write,
    holds.unregistered_kept write, holds.fresh_kept write, holds.stands_kept write, ?_,
    holds.sound_kept named write⟩
  have before := approvals_named (fun nodeId member => (holds.dispatched member).2) holds.approvals
    (fun id nodeId asked => (holds.dispatched asked.1).1 ▸ asked.1) write
  exact fun id row stored => (before id row stored).mono fun _ member =>
    write.trail_prefix.subset member

theorem onTrack_started (workflowId workflowVersion actor : String) {initialState : State}
    (tags : Dict String String) (unmarked : Unmarked workflow initialState) :
    OnTrack workflow runId
      (World.started (startRun runId workflowId workflowVersion actor initialState tags)) where
  ids _ := rfl
  rows key row stored := by
    by_cases same : key = runId
    · subst same
      simp only [World.started, startRun, Function.update_self, Option.some.injEq] at stored
      rw [← stored]
    · simp [World.started, startRun, Function.update_of_ne same] at stored
  current result registered := by cases registered
  unregistered _ := rfl
  fresh _ _ := unmarked
  stands nodeId stands := by cases stands
  approvals id row stored := by cases stored
  sound := .nil

/-- The world after the first `n` calls on the run. -/
abbrev runAfter (engine : WorkflowEngine) (workflow : WorkflowDefinition) (runId : String)
    (start : World) (calls : List RunCall) (n : Nat) : World :=
  stateAfter (RunCall.run engine workflow runId) start calls n

/-- As long as the client names no node to resume at and every execution begins with a
new or a resumed run, the run follows the graph through all its calls. -/
theorem run_follows_graph (named : ∀ node ∈ workflow.nodes, node.id ≠ "")
    (workflowId workflowVersion actor : String) {initialState : State} (tags : Dict String String)
    (unmarked : Unmarked workflow initialState) {start : World}
    (started : start = World.started (startRun runId workflowId workflowVersion actor initialState
      tags)) {calls : List RunCall}
    (allowed : ∀ (n : Nat) (call : RunCall), calls[n]? = some call →
      call.Allowed engine runId (runAfter engine workflow runId start calls n)) (n : Nat) :
    FollowsGraph workflow runId (runAfter engine workflow runId start calls n).trail := by
  have begins : OnTrack workflow runId start ∧ start.Allocated :=
    started ▸ ⟨onTrack_started workflowId workflowVersion actor tags unmarked, by
      intro runId result registered
      cases registered⟩
  have invariant := stateAfter_invariant (RunCall.run engine workflow runId) start calls
    (fun w => OnTrack workflow runId w ∧ w.Allocated) begins (by
      intro n call present holds
      have writes : EngineWrites engine (.sequential workflow) _ _ :=
        call.writes holds.2 (allowed n call present)
      exact ((stable_onTrack named).and stable_allocated).writes writes holds) n
  apply FollowsGraph.of_steps
  · intro before id nodeId after split
    exact (invariant.1.sound before _ after split).2.2
  · intro before id nodeId handler attempt after split
    exact invariant.1.sound before _ after split

end invariant

/-! ### Three nodes in a row -/

section line

def threeNodes : WorkflowDefinition :=
  { id := "workflow"
    nodes := [.plain "start" .start "echo", .plain "gate" .approval "echo",
      .plain "end" .endNode "echo"]
    edges := [.plain "start" "gate", .plain "gate" "end"] }

def echoEngine : WorkflowEngine := .plain (fun _ => some echoHandler) true

def pausedOnce : List RunCall :=
  [.execute 0 plainContext fun i => if i = 2 then [.pause] else [], .resume,
   .execute 0 plainContext fun _ => []]

theorem pausedOnce_allowed (n : Nat) (call : RunCall) (present : pausedOnce[n]? = some call) :
    call.Allowed echoEngine "run" (runAfter echoEngine threeNodes "run" newRun pausedOnce n) := by
  rcases n with _ | _ | _ | n
  · cases present
    exact ⟨Nat.zero_lt_one, rfl⟩
  · cases present
    trivial
  · cases present
    exact ⟨Nat.zero_lt_one, by decide +kernel⟩
  · cases present

theorem run_follows_graph_pausedOnce :
    ((runAfter echoEngine threeNodes "run" newRun pausedOnce 3).trail.filterMap fun event =>
        match event with
        | .dispatched _ nodeId => some nodeId
        | _ => none) = ["start", "start", "gate", "end"] ∧
      FollowsGraph threeNodes "run"
        (runAfter echoEngine threeNodes "run" newRun pausedOnce 3).trail := by
  have started : newRun = World.started (startRun "run" "workflow" "1" "client" [] []) := rfl
  refine ⟨by decide +kernel, ?_⟩
  refine run_follows_graph ?_ "workflow" "1" "client" [] ?_ started pausedOnce_allowed 3
  · simp [threeNodes, NodeDefinition.plain]
  · intro resumeFrom node startNode found
    cases found

def jumpingRun : World :=
  World.started (startRun "run" "workflow" "1" "client" [("_resume_from", .str "end")] [])

theorem client_marker_skips_gate :
    ¬ FollowsGraph threeNodes "run" (runAfter echoEngine threeNodes "run" jumpingRun
      [.execute 0 plainContext fun _ => []] 1).trail := by
  intro follows
  have first : (runAfter echoEngine threeNodes "run" jumpingRun
      [.execute 0 plainContext fun _ => []] 1).trail.head? = some (.dispatched "run" "end") := by
    decide +kernel
  obtain ⟨after, split⟩ := List.head?_eq_some_iff.mp first
  cases follows.nodes [] "run" "end" after split with
  | start startNode found first is =>
      cases found
      exact absurd is (by decide)
  | resumed again stands known => cases known
  | reached previous result state returned chosen next => cases chosen

end line

end SyndicateClaw.Orchestrator
