import SyndicateClaw.Orchestrator.AgentResponse
import SyndicateClaw.Orchestrator.ApprovalGate
import SyndicateClaw.Orchestrator.ExecutionBounds
import SyndicateClaw.Orchestrator.GraphRuns

/-! A run that waits for an agent.

The interrupt leaves the engine standing at the node that sent the message, and neither
the background task nor a resumption moves it on unless it names another node. -/

namespace SyndicateClaw.Orchestrator

open Async

inductive AgentStep where
  | call (call : RunCall)
  | resumeFrom (nodeId : String)
  | answer (tracked : Bool) (responses : List AgentResponse) (waiting : List String)
  | reload
  | adjust (ref : Nat) (f : State → State)

def World.reload (w : World) (runId : String) : World :=
  match w.db.runs runId with
  | none => w
  | some row =>
      { w with
        objects := Function.update w.objects w.nextObject (runOfRow row)
        nextObject := w.nextObject + 1 }

def AgentStep.run (engine : WorkflowEngine) (workflow : WorkflowDefinition) (runId : String)
    (w : World) : AgentStep → World
  | .call op => op.run engine workflow runId w
  | .resumeFrom nodeId => ((resume runId (some nodeId)).settle w).1
  | .answer tracked responses waiting => w.resumeWaitingRuns tracked responses waiting
  | .reload => w.reload runId
  | .adjust ref f => w.modifyRun ref fun run => { run with state := f run.state }

/-- The world after the first `n` steps. -/
abbrev agentAfter (engine : WorkflowEngine) (workflow : WorkflowDefinition) (runId : String)
    (start : World) (steps : List AgentStep) (n : Nat) : World :=
  stateAfter (AgentStep.run engine workflow runId) start steps n

/-! ### Where a call enters `execute` -/

/-- The world in which a call enters `execute`, the run object and the context it is
given, and the signals that are left. -/
structure Entry where
  world : World
  ref : Nat
  context : ExecutionContext
  signals : Signals

def RunCall.entry (engine : WorkflowEngine) (runId : String) (w : World) : RunCall → Option Entry
  | .execute ref context signals => some { world := w, ref, context, signals }
  | .resumeAfterApproval approvalId context signals =>
      if engine.sessionFactory then
        let w := signals.env runId 0 w
        match consumeApproval w.now w.db runId approvalId with
        | .error _ => none
        | .ok consumption => some
            { world := w.redeem consumption runId approvalId, ref := w.nextObject, context
              signals := fun i => signals (i + 1) }
      else do
        let result ← w.runs runId
        let payload ← approvalResumePayload w.now (w.objects result.run).state approvalId
        return { world := w.redeemInMemory result.run runId approvalId payload
                 ref := result.run, context, signals }
  | _ => none

section entries

variable {engine : WorkflowEngine} {workflow : WorkflowDefinition} {runId : String} {w : World}

/-- The call goes on as `execute` from its entry. -/
def Entry.run (engine : WorkflowEngine) (workflow : WorkflowDefinition) (runId : String)
    (entry : Entry) : World :=
  ((execute engine entry.ref entry.context workflow entry.world).settleWith
    (entry.signals.env runId) 0).1

theorem resumeFromStore_eq (runId approvalId : String) (w : World) :
    resumeFromStore runId approvalId w = .yield (.consumeApproval approvalId) w fun w =>
      match consumeApproval w.now w.db runId approvalId with
      | .error message => .raise w (.value message)
      | .ok consumption => .ok (w.redeem consumption runId approvalId) w.nextObject := by
  show Res.yield _ w _ = _
  congr
  funext w
  show (match consumeApproval w.now w.db runId approvalId with
    | .error message => _
    | .ok consumption => _ : EngineM Nat) w = _
  cases consumeApproval w.now w.db runId approvalId <;> rfl

theorem RunCall.run_entry {call : RunCall} {entry : Entry}
    (enters : call.entry engine runId w = some entry) :
    call.run engine workflow runId w = entry.run engine workflow runId := by
  cases call with
  | execute ref context signals =>
      obtain rfl := Option.some.inj enters
      rfl
  | resumeAfterApproval approvalId context signals =>
      simp only [RunCall.entry] at enters
      simp only [RunCall.run, Orchestrator.resumeAfterApproval]
      split_ifs at enters ⊢ with stored
      · show ((Res.bind (resumeFromStore runId approvalId w) _).settleWith _ 0).1 = _
        rw [resumeFromStore_eq]
        simp only [Res.bind, Res.settleWith]
        split at enters
        · cases enters
        · next consumption passed =>
            obtain rfl := Option.some.inj enters
            exact congrArg Prod.fst (Res.settleWith_shift (signals.env runId) 0 1 _)
      · obtain ⟨result, registered, rest⟩ := Option.bind_eq_some_iff.mp enters
        obtain ⟨payload, waits, is⟩ := Option.bind_eq_some_iff.mp rest
        obtain rfl := Option.some.inj is
        show ((Res.bind (resumeInMemory runId approvalId w) _).settleWith _ 0).1 = _
        rw [resumeInMemory_eq registered waits]
        rfl
  | resume => cases enters
  | meanwhile signal => cases enters

end entries

/-! ### What the trail of the run tells -/

/-- One node can be chosen after another: by an edge, or by the handler. -/
def Leads (engine : WorkflowEngine) (workflow : WorkflowDefinition) (source target : String) :
    Prop :=
  (∃ edge ∈ workflow.edges, edge.sourceNodeId = source ∧ edge.targetNodeId = target) ∨
    ∃ node handler index state context result, workflow.node? source = some node ∧
      engine.handlers node.handler = some handler ∧
      (handler index state context).exit = .returned result ∧ result.nextNodeId = some target

/-- How the engine comes to each event of a trail. -/
def Event.Made (engine : WorkflowEngine) (workflow : WorkflowDefinition) (before : List Event) :
    Event → Prop
  | .invoked id nodeId _ attempt => ∃ node, workflow.node? nodeId = some node ∧
      AttemptDue before id node attempt
  | .exited id nodeId exit => ∃ node handler index state context,
      workflow.node? nodeId = some node ∧ engine.handlers node.handler = some handler ∧
      context.config = node.config ∧ (handler index state context).exit = exit ∧
      ∃ attempt, before.getLast? = some (.invoked id nodeId node.handler attempt)
  | .chose id nodeId next => ∃ result state, Returned before id nodeId result ∧
      result.nextNodeId.or (resolveNextNode nodeId state workflow.edges) = next
  | _ => True

def Event.isInvoked (runId nodeId : String) : Event → Bool
  | .invoked owner id _ _ => owner = runId ∧ id = nodeId
  | _ => false

def handlerCalls (runId nodeId : String) (trail : List Event) : Nat :=
  trail.countP (Event.isInvoked runId nodeId)

def Unretried (engine : WorkflowEngine) (node : NodeDefinition) : Prop :=
  node.maxAttempts = 1 ∨ ∀ handler index state context message,
    engine.handlers node.handler = some handler → context.config = node.config →
      (handler index state context).exit ≠ .failed message

def NeverReturns (engine : WorkflowEngine) (node : NodeDefinition) : Prop :=
  ∀ handler index state context result, engine.handlers node.handler = some handler →
    context.config = node.config → (handler index state context).exit ≠ .returned result

section trails

variable {engine : WorkflowEngine} {workflow : WorkflowDefinition} {runId : String}
  {node : NodeDefinition} {trail : List Event}

theorem mem_dispatchedNodes {nodeId : String} :
    nodeId ∈ dispatchedNodes runId trail ↔ .dispatched runId nodeId ∈ trail := by
  unfold dispatchedNodes
  rw [List.mem_filterMap]
  constructor
  · rintro ⟨event, member, is⟩
    cases event with
    | dispatched owner id =>
        simp only [Option.ite_none_right_eq_some, Option.some.injEq] at is
        obtain ⟨rfl, rfl⟩ := is
        exact member
    | _ => cases is
  · intro member
    exact ⟨_, member, by simp⟩

theorem dispatchedNodes_quiet {events : List Event}
    (quiet : ∀ event ∈ events, event.IsDispatch = false) : dispatchedNodes runId events = [] := by
  apply List.filterMap_eq_nil_iff.mpr
  intro event member
  have other := quiet event member
  cases event with
  | dispatched owner id => cases other
  | _ => rfl

theorem Current.last {nodeId : String} (current : Current trail runId nodeId) :
    (dispatchedNodes runId trail).getLast? = some nodeId := by
  obtain ⟨since, ⟨before, rfl⟩, still⟩ := current
  rw [dispatchedNodes_append, ← List.singleton_append, dispatchedNodes_append,
    dispatchedNodes_quiet still]
  simp [dispatchedNodes]

theorem Current.mem {nodeId : String} (current : Current trail runId nodeId) :
    nodeId ∈ dispatchedNodes runId trail :=
  List.mem_of_getLast? current.last

theorem Current.unique {nodeId other : String} (one : Current trail runId nodeId)
    (two : Current trail runId other) : nodeId = other :=
  Option.some.inj (one.last.symm.trans two.last)

theorem Returned.current {nodeId : String} {result : NodeResult}
    (returned : Returned trail runId nodeId result) : Current trail runId nodeId := by
  obtain ⟨since, flight, -⟩ := returned
  exact ⟨since, flight⟩

variable (made : Always (Event.Made engine workflow) trail)

include made

theorem returned_exit {nodeId : String} {result : NodeResult}
    (returned : Returned trail runId nodeId result) :
    ∃ node handler index state context, workflow.node? nodeId = some node ∧
      engine.handlers node.handler = some handler ∧ context.config = node.config ∧
      (handler index state context).exit = .returned result := by
  obtain ⟨since, ⟨⟨before, split⟩, -⟩, exited⟩ := returned
  have member : .exited runId nodeId (.returned result) ∈ trail := by
    rw [split]
    exact List.mem_append_right _ (List.mem_cons_of_mem _ exited)
  obtain ⟨-, -, -, node, handler, index, state, context, found, present, configured, exit, -⟩ :=
    made.of_mem member
  exact ⟨node, handler, index, state, context, found, present, configured, exit⟩

theorem not_returned (found : workflow.node? node.id = some node)
    (never : NeverReturns engine node) (result : NodeResult) :
    ¬ Returned trail runId node.id result := by
  intro returned
  obtain ⟨node', handler, index, state, context, found', present, configured, exit⟩ :=
    returned_exit made returned
  obtain rfl := Option.some.inj (found.symm.trans found')
  exact never handler index state context result present configured exit

theorem chosen_leads {nodeId target : String}
    (last : trail.getLast? = some (.chose runId nodeId (some target))) :
    Current trail runId nodeId ∧ (∃ result, Returned trail runId nodeId result) ∧
      Leads engine workflow nodeId target := by
  obtain ⟨before, rfl⟩ := List.getLast?_eq_some_iff.mp last
  obtain ⟨result, state, returned, next⟩ := made.last
  have quiet : Quiet before (before ++ [.chose runId nodeId (some target)]) := .snoc before rfl
  have later := returned.quiet quiet
  refine ⟨later.current, ⟨result, later⟩, ?_⟩
  cases jumps : result.nextNodeId with
  | none =>
      rw [jumps, Option.none_or] at next
      exact .inl (resolveNextNode_edge next)
  | some jump =>
      rw [jumps, Option.some_or] at next
      obtain ⟨node, handler, index, state, context, found, present, -, exit⟩ :=
        returned_exit made.init returned
      exact .inr ⟨node, handler, index, state, context, result, found, present, exit,
        jumps.trans next⟩

theorem handlerCalls_le (found : workflow.node? node.id = some node)
    (unretried : Unretried engine node) :
    handlerCalls runId node.id trail ≤ (dispatchedNodes runId trail).count node.id := by
  -- A node just dispatched has a call to come.
  suffices bound : handlerCalls runId node.id trail +
      (if trail.getLast? = some (.dispatched runId node.id) then 1 else 0) ≤
        (dispatchedNodes runId trail).count node.id by omega
  induction trail using List.reverseRecOn with
  | nil => simp [handlerCalls, dispatchedNodes]
  | append_singleton trail event ih =>
      have before := ih made.init
      rw [handlerCalls, List.countP_append, List.countP_singleton, dispatchedNodes_append,
        List.count_append, List.getLast?_concat]
      rw [handlerCalls] at before
      cases event with
      | dispatched owner id =>
          by_cases here : owner = runId ∧ id = node.id
          · obtain ⟨rfl, rfl⟩ := here
            simp only [dispatchedNodes, Event.isInvoked]
            simp only [dispatchedNodes] at before
            simp
            omega
          · have other : (Event.dispatched owner id = .dispatched runId node.id) = False := by
              simpa using here
            simp [Event.isInvoked, other]
            omega
      | invoked owner id handler attempt =>
          by_cases here : owner = runId ∧ id = node.id
          · obtain ⟨rfl, rfl⟩ := here
            obtain ⟨node', found', due⟩ := made.last
            obtain rfl := Option.some.inj (found.symm.trans found')
            have last : trail.getLast? = some (.dispatched owner node.id) := by
              rcases due with last | ⟨again, within, message, last⟩
              · exact last
              · rcases unretried with one | never
                · omega
                · obtain ⟨-, -, -, node', handler, index, state, context, found', present,
                    configured, exit, -⟩ := made.init.of_mem (List.mem_of_getLast? last)
                  obtain rfl := Option.some.inj (found.symm.trans found')
                  exact absurd exit (never handler index state context message present configured)
            rw [if_pos last] at before
            simp [Event.isInvoked]
            omega
          · have other : Event.isInvoked runId node.id (.invoked owner id handler attempt) =
                false := by simpa [Event.isInvoked] using here
            simp [other]
            omega
      | _ =>
          simp [Event.isInvoked]
          omega

theorem handlerCalls_pos {nodeId : String} {exit : HandlerExit}
    (exited : .exited runId nodeId exit ∈ trail) : 0 < handlerCalls runId nodeId trail := by
  obtain ⟨before, after, split, node, handler, index, state, context, -, -, -, -, attempt, last⟩ :=
    made.of_mem exited
  apply List.countP_pos_iff.mpr
  refine ⟨_, ?_, show Event.isInvoked runId nodeId (.invoked runId nodeId node.handler attempt) =
    true by simp [Event.isInvoked]⟩
  rw [split]
  exact List.mem_append_left _ (List.mem_of_getLast? last)

end trails

/-! ### The invariant of the session -/

/-- Calls that enter with certain trails, where a caller may name a node. -/
def Conditions.entering (workflow : WorkflowDefinition) (enter : List Event → Prop)
    (redirect : Prop) : Conditions :=
  { workflow := (· = workflow), enter, boundary := fun _ _ => True, redirect, replay := False
    calm := True }

/-- The node comes up at most once, and what comes up after it does not lead back. -/
structure ComesOnce (engine : WorkflowEngine) (workflow : WorkflowDefinition) (runId : String)
    (nodeId : String) (w : World) : Prop where
  one : OneRun runId w
  made : Always (Event.Made engine workflow) w.trail
  once : (dispatchedNodes runId w.trail).count nodeId ≤ 1
  beyond : nodeId ∈ dispatchedNodes runId w.trail →
    ∀ last, (dispatchedNodes runId w.trail).getLast? = some last →
      last = nodeId ∨ ¬ Relation.ReflTransGen (Leads engine workflow) last nodeId

def World.place (w : World) (runId : String) : Option String :=
  (w.runs runId).bind (·.currentNodeId)

def CameLast (runId nodeId : String) (trail : List Event) : Prop :=
  (dispatchedNodes runId trail).getLast? = some nodeId

/-- A call that entered with this trail and this place: if the run came last to the node,
the first one to come up is the one at the place. -/
structure EntersAt (runId nodeId : String) (before : List Event) (place : Option String)
    (w : World) : Prop where
  later : before <+: w.trail
  unmoved : w.trail = before → w.place runId = place
  first : CameLast runId nodeId before → ∀ events, w.trail = before ++ events →
    ∀ next, (dispatchedNodes runId events).head? = some next → place = some next

def Past (engine : WorkflowEngine) (workflow : WorkflowDefinition) (nodeId : String)
    (place : Option String) : Prop :=
  ∃ current, place = some current ∧ current ≠ "" ∧
    ¬ Relation.ReflTransGen (Leads engine workflow) current nodeId

section session

variable {engine : WorkflowEngine} {workflow : WorkflowDefinition} {runId : String}
  {node : NodeDefinition} {enter : List Event → Prop} {redirect : Prop} {w w' : World}

theorem place_kept (write : EngineWrite engine (.entering workflow enter False) w w')
    (same : w'.trail = w.trail) : w'.place runId = w.place runId := by
  have modified : ∀ {id : String} {f : WorkflowRunResult → WorkflowRunResult},
      (∀ result, (f result).currentNodeId = result.currentNodeId) →
      (w.modifyResult id f).place runId = w.place runId := by
    intro id f kept
    unfold World.place
    by_cases here : runId = id
    · subst here
      rw [World.modifyResult_runs_self]
      cases w.runs runId with
      | none => rfl
      | some result => exact kept result
    · simp only [World.modifyResult, Function.update_of_ne here]
  cases write with
  | register ref id owns =>
      unfold World.place
      by_cases here : runId = id
      · subst here
        simp only [Function.update_self, Option.bind_some]
        cases w.runs runId <;> rfl
      · simp only [Function.update_of_ne here]
  | progress | append | forget => exact modified fun _ => rfl
  | redirect id node allowed => cases allowed
  | dispatch | invoke | handle | chose | resumed | redeemInMemory | redeem =>
      exact absurd same (by simp [World.dispatch, World.invoke, World.handled,
        World.redeemInMemory, World.redeem])
  | _ => rfl

theorem made_kept (made : Always (Event.Made engine workflow) w.trail)
    (write : EngineWrite engine (.entering workflow enter redirect) w w') :
    Always (Event.Made engine workflow) w'.trail := by
  cases write with
  | invoke id node attempt current due belongs =>
      obtain ⟨definition, rfl, found⟩ := belongs
      exact made.snoc ⟨node, found, due trivial⟩
  | handle ref id node handler index context handling owns current invoked =>
      obtain ⟨definition, rfl, found⟩ := handling.belongs
      exact made.snoc ⟨node, handler, index, _, context, found, handling.present,
        handling.configured, rfl, invoked trivial⟩
  | chose definition ref id nodeId result used ended =>
      obtain rfl := used
      exact made.snoc ⟨result, _, ended trivial, rfl⟩
  | dispatch | resumed | redeemInMemory | redeem => exact made.snoc trivial
  | _ => exact made

theorem dispatch_or_quiet (one : OneRun runId w)
    (write : EngineWrite engine (.entering workflow enter redirect) w w') :
    (∃ events, w'.trail = w.trail ++ events ∧ dispatchedNodes runId events = []) ∨
      ∃ ref current, w'.trail = w.trail ++ [.dispatched runId current] ∧
        Comes (.entering workflow enter redirect) workflow ref runId w current := by
  cases write with
  | dispatch definition ref id current used owns known comes =>
      obtain rfl : id = runId := owns.2.symm.trans (one.ids ref)
      obtain rfl := used
      exact .inr ⟨ref, current, rfl, comes⟩
  | invoke | handle | chose | resumed | redeemInMemory | redeem => exact .inl ⟨[_], rfl, rfl⟩
  | _ => exact .inl ⟨[], (List.append_nil _).symm, rfl⟩

@[simp] theorem dispatchedNodes_dispatched (nodeId : String) :
    dispatchedNodes runId [.dispatched runId nodeId] = [nodeId] := by
  simp [dispatchedNodes]

variable (found : workflow.node? node.id = some node) (never : NeverReturns engine node)

include found never

theorem ComesOnce.write (holds : ComesOnce engine workflow runId node.id w)
    (write : EngineWrite engine (.entering workflow enter redirect) w w')
    (entry : ∀ ref current startNode result, enter w.trail → w.runs runId = some result →
      current = entryNode result.currentNodeId (w.objects ref).state startNode →
      node.id ∈ dispatchedNodes runId w.trail →
        ¬ Relation.ReflTransGen (Leads engine workflow) current node.id) :
    ComesOnce engine workflow runId node.id w' := by
  have one := stable_oneRun w w' write holds.one
  have made := made_kept holds.made write
  rcases dispatch_or_quiet holds.one write with ⟨events, later, silent⟩ | ⟨ref, current, later, comes⟩
  · have same : dispatchedNodes runId w'.trail = dispatchedNodes runId w.trail := by
      rw [later, dispatchedNodes_append, silent, List.append_nil]
    exact ⟨one, made, same ▸ holds.once, same ▸ holds.beyond⟩
  -- A node that comes up after this one does not lead back to it.
  have onward : node.id ∈ dispatchedNodes runId w.trail →
      ¬ Relation.ReflTransGen (Leads engine workflow) current node.id := by
    intro member
    rcases comes with ⟨entered, startNode, result, -, registered, is⟩ | ⟨previous, last⟩
    · exact entry ref current startNode result entered registered is member
    · obtain ⟨flight, ⟨result, returned⟩, leads⟩ := chosen_leads holds.made last
      rcases holds.beyond member previous flight.last with rfl | beyond
      · exact absurd returned (not_returned holds.made found never result)
      · exact fun back => beyond (.head leads back)
  have nodes : dispatchedNodes runId w'.trail = dispatchedNodes runId w.trail ++ [current] := by
    rw [later, dispatchedNodes_append, dispatchedNodes_dispatched]
  refine ⟨one, made, ?_, ?_⟩
  · rw [nodes, List.count_append]
    by_cases member : node.id ∈ dispatchedNodes runId w.trail
    · have other : current ≠ node.id := by
        rintro rfl
        exact onward member .refl
      rw [List.count_singleton, if_neg (by simpa using other)]
      exact holds.once
    · rw [List.count_eq_zero_of_not_mem member, Nat.zero_add]
      exact List.count_le_length
  · intro member last is
    rw [nodes, List.getLast?_concat] at is
    obtain rfl := Option.some.inj is
    rw [nodes] at member
    rcases List.mem_append.mp member with early | here
    · exact .inr (onward early)
    · exact .inl (List.mem_singleton.mp here).symm

variable {before : List Event} {place : Option String}

theorem EntersAt.write (enters : EntersAt runId node.id before place w)
    (one : OneRun runId w) (made : Always (Event.Made engine workflow) w.trail)
    (named : CameLast runId node.id before → ∃ current, place = some current ∧ current ≠ "")
    (write : EngineWrite engine (.entering workflow (· = before) False) w w') :
    EntersAt runId node.id before place w' := by
  refine ⟨enters.later.trans write.trail_prefix, fun unmoved => ?_, ?_⟩
  · have same : w.trail = before :=
      (write.trail_prefix.trans (unmoved ▸ List.prefix_refl _)).eq_of_length_le
        (enters.later.length_le)
    rw [place_kept write (unmoved.trans same.symm)]
    exact enters.unmoved same
  intro came events split next comes
  obtain ⟨earlier, split'⟩ := enters.later
  rcases dispatch_or_quiet one write with ⟨more, added, silent⟩ | ⟨ref, current, added, due⟩
  · rw [added, ← split', List.append_assoc] at split
    rw [← List.append_cancel_left split, dispatchedNodes_append, silent, List.append_nil] at comes
    exact enters.first came earlier split'.symm next comes
  rw [added, ← split', List.append_assoc] at split
  rw [← List.append_cancel_left split, dispatchedNodes_append, dispatchedNodes_dispatched] at comes
  cases passed : dispatchedNodes runId earlier with
  | cons first rest =>
      rw [passed] at comes
      refine enters.first came earlier split'.symm next ?_
      rw [passed]
      exact comes
  | nil =>
      rw [passed] at comes
      obtain rfl := Option.some.inj comes
      rcases due with ⟨entered, startNode, result, -, registered, is⟩ | ⟨previous, last⟩
      · obtain ⟨stands, at_place, nonempty⟩ := named came
        have unmoved := enters.unmoved entered
        rw [at_place, World.place, registered, Option.bind_some] at unmoved
        rw [unmoved, entryNode_current _ _ nonempty] at is
        rw [is, at_place]
      · -- Nothing is chosen after a node that never returns.
        obtain ⟨flight, ⟨result, returned⟩, -⟩ := chosen_leads made last
        have still : (dispatchedNodes runId w.trail).getLast? = some node.id := by
          rw [← split', dispatchedNodes_append, passed, List.append_nil]
          exact came
        obtain rfl := Option.some.inj (flight.last.symm.trans still)
        exact absurd returned (not_returned made found never result)

theorem stable_past
    (past : node.id ∈ dispatchedNodes runId before → Past engine workflow node.id place) :
    Stable engine (.entering workflow (· = before) False)
      fun w => ComesOnce engine workflow runId node.id w ∧
        EntersAt runId node.id before place w := by
  rintro w w' write ⟨holds, enters⟩
  have named : CameLast runId node.id before → ∃ current, place = some current ∧ current ≠ "" := by
    intro came
    obtain ⟨current, at_place, nonempty, -⟩ := past (List.mem_of_getLast? came)
    exact ⟨current, at_place, nonempty⟩
  refine ⟨holds.write found never write ?_, enters.write found never holds.one holds.made named write⟩
  intro ref current startNode result entered registered is member
  obtain ⟨stands, at_place, nonempty, beyond⟩ := past (entered ▸ member)
  have unmoved := enters.unmoved entered
  rw [at_place, World.place, registered, Option.bind_some] at unmoved
  rw [unmoved, entryNode_current _ _ nonempty] at is
  rw [is]
  exact beyond

/-- Without a call of `execute` no node comes up. -/
theorem stable_comesOnce : Stable engine (.entering workflow (fun _ => False) redirect)
    (ComesOnce engine workflow runId node.id) :=
  fun _ _ write holds => holds.write found never write fun _ _ _ _ entered => entered.elim

end session

/-! ### Sessions -/

/-- A call enters past the node once the node has come up, and at its successor if no other
has come up since. -/
def Entry.Spares (engine : WorkflowEngine) (workflow : WorkflowDefinition) (runId nodeId : String)
    (entry : Entry) : Prop :=
  .dispatched runId nodeId ∈ entry.world.trail →
    Past engine workflow nodeId (entry.world.place runId) ∧
      (CameLast runId nodeId entry.world.trail → entry.world.place runId =
        resolveNextNode nodeId (entry.world.objects entry.ref).state workflow.edges)

def AgentStep.Spares (engine : WorkflowEngine) (workflow : WorkflowDefinition)
    (runId nodeId : String) (w : World) : AgentStep → Prop
  | .call op => ∀ entry, op.entry engine runId w = some entry →
      entry.Spares engine workflow runId nodeId
  | _ => True

/-- `execute` is given a run object there is. -/
def AgentStep.Allowed (w : World) : AgentStep → Prop
  | .call (.execute ref _ _) => ref < w.nextObject
  | _ => True

/-- An `agent_send` node that waits for the response. -/
structure AwaitsAgent (engine : WorkflowEngine) (services : Services)
    (workflow : WorkflowDefinition) (node : NodeDefinition) : Prop where
  found : workflow.node? node.id = some node
  handler : engine.handlers node.handler = some (HandlerM.toHandler (agentSendHandler services))
  waits : configuredBool node.config "wait_for_response" = true

section steps

variable {engine : WorkflowEngine} {workflow : WorkflowDefinition} {runId : String}
  {node : NodeDefinition} {w : World}

theorem AwaitsAgent.neverReturns {services : Services}
    (awaits : AwaitsAgent engine services workflow node) : NeverReturns engine node := by
  intro handler index state context result present configured returned
  obtain rfl := Option.some.inj (awaits.handler.symm.trans present)
  have ends := agentSend_outcome services index context state (configured ▸ awaits.waits)
  dsimp only at ends
  rw [returned] at ends
  rcases ends with ⟨waited, -⟩ | ⟨⟨message, failed⟩, -⟩
  · cases waited
  · cases failed

theorem Signals.writes (signals : Signals) (i : Nat) :
    EngineWrites engine (.entering workflow (fun _ => False) False) w (signals.env runId i w) :=
  (signals.relied i (.consumeApproval "") w).1

theorem Entry.writes {entry : Entry} (allocated : entry.world.Allocated)
    (below : entry.ref < entry.world.nextObject) :
    EngineWrites engine (.entering workflow (· = entry.world.trail) False) entry.world
      (entry.run engine workflow runId) := by
  have obs : Observes engine (.entering workflow (· = entry.world.trail) False)
      (Protocol.calm engine _) := observes_calm fun _ _ => trivial
  exact settleWith_writes (keeps_execute obs rfl entry.ref entry.context entry.world
    ⟨allocated, below, rfl⟩) entry.signals 0

theorem EntersAt.begins (nodeId : String) (w : World) :
    EntersAt runId nodeId w.trail (w.place runId) w := by
  refine ⟨List.prefix_refl _, fun _ => rfl, fun came events split next comes => ?_⟩
  obtain rfl := List.self_eq_append_right.mp split
  cases comes

theorem resume_writes (fromNode : Option String) (allocated : w.Allocated) :
    EngineWrites engine (.entering workflow (fun _ => False) True) w
      ((resume runId fromNode).settle w).1 := by
  have obs : Observes engine (.entering workflow (fun _ => False) True)
      (Protocol.calm engine _) := observes_calm fun _ _ => trivial
  exact ((keeps_resume obs runId fromNode (fun _ => trivial) w allocated).settle
    fun _ _ => ⟨.refl, rfl, fun _ halted => halted⟩).1

variable (found : workflow.node? node.id = some node) (never : NeverReturns engine node)

include found never

theorem Entry.kept {entry : Entry} (below : entry.ref < entry.world.nextObject)
    (holds : ComesOnce engine workflow runId node.id entry.world ∧ entry.world.Allocated)
    (spares : entry.Spares engine workflow runId node.id) :
    (ComesOnce engine workflow runId node.id (entry.run engine workflow runId) ∧
      EntersAt runId node.id entry.world.trail (entry.world.place runId)
        (entry.run engine workflow runId)) ∧ (entry.run engine workflow runId).Allocated := by
  have past : node.id ∈ dispatchedNodes runId entry.world.trail →
      Past engine workflow node.id (entry.world.place runId) :=
    fun member => (spares (mem_dispatchedNodes.mp member)).1
  have stable := (stable_past found never past).and stable_allocated
  exact stable.writes (Entry.writes holds.2 below) ⟨⟨holds.1, .begins _ _⟩, holds.2⟩

theorem kept_between {redirect : Prop} {w' : World}
    (holds : ComesOnce engine workflow runId node.id w ∧ w.Allocated)
    (writes : EngineWrites engine (.entering workflow (fun _ => False) redirect) w w') :
    ComesOnce engine workflow runId node.id w' ∧ w'.Allocated :=
  ((stable_comesOnce found never).and stable_allocated).writes writes holds

theorem RunCall.enters_kept {op : RunCall} {entry : Entry}
    (holds : ComesOnce engine workflow runId node.id w ∧ w.Allocated)
    (allowed : (AgentStep.call op).Allowed w) (enters : op.entry engine runId w = some entry) :
    (ComesOnce engine workflow runId node.id entry.world ∧ entry.world.Allocated) ∧
      entry.ref < entry.world.nextObject := by
  cases op with
  | execute ref context signals =>
      obtain rfl := Option.some.inj enters
      exact ⟨holds, allowed⟩
  | resumeAfterApproval approvalId context signals =>
      simp only [RunCall.entry] at enters
      split_ifs at enters with stored
      · split at enters
        · cases enters
        · next consumption passed =>
            obtain rfl := Option.some.inj enters
            refine ⟨kept_between found never holds
              ((signals.writes 0).tail (.redeem consumption runId approvalId passed)), ?_⟩
            exact Nat.lt_succ_self _
      · obtain ⟨result, registered, rest⟩ := Option.bind_eq_some_iff.mp enters
        obtain ⟨payload, waits, is⟩ := Option.bind_eq_some_iff.mp rest
        obtain rfl := Option.some.inj is
        have write : EngineWrite engine (.entering workflow (fun _ => False) False) w
            (w.redeemInMemory result.run runId approvalId payload) :=
          .redeemInMemory result.run runId approvalId payload (by simpa using stored) waits
        refine ⟨kept_between found never holds (.single write), ?_⟩
        exact (holds.2 runId result registered).1
  | resume => cases enters
  | meanwhile signal => cases enters

/-- A call that does not come to `execute`. -/
theorem RunCall.stays {op : RunCall} (stays : op.entry engine runId w = none)
    (holds : ComesOnce engine workflow runId node.id w ∧ w.Allocated) :
    ComesOnce engine workflow runId node.id (op.run engine workflow runId w) ∧
      (op.run engine workflow runId w).Allocated := by
  cases op with
  | execute ref context signals => cases stays
  | resumeAfterApproval approvalId context signals =>
      simp only [RunCall.entry] at stays
      simp only [RunCall.run, Orchestrator.resumeAfterApproval]
      split_ifs at stays ⊢ with stored
      · split at stays
        · next message refused =>
            have raised : (((resumeFromStore runId approvalId >>= fun ref =>
                Orchestrator.execute engine ref context workflow) w).settleWith
                  (signals.env runId) 0).1 = signals.env runId 0 w := by
              show ((Res.bind (resumeFromStore runId approvalId w) _).settleWith _ 0).1 = _
              rw [resumeFromStore_eq]
              simp only [Res.bind, Res.settleWith, refused]
            rw [raised]
            exact kept_between found never holds (signals.writes 0)
        · cases stays
      · have absent : ((w.runs runId).bind fun result =>
            approvalResumePayload w.now (w.objects result.run).state approvalId) = none := by
          cases registered : w.runs runId with
          | none => rfl
          | some result =>
              rw [registered] at stays
              rw [Option.bind_some]
              by_contra waits
              obtain ⟨payload, waits⟩ := Option.ne_none_iff_exists'.mp waits
              simp [waits] at stays
        obtain ⟨e, raises⟩ := resumeInMemory_raises absent
        have raised : (((resumeInMemory runId approvalId >>= fun ref =>
            Orchestrator.execute engine ref context workflow) w).settleWith
              (signals.env runId) 0).1 = w := by
          show ((Res.bind (resumeInMemory runId approvalId w) _).settleWith _ 0).1 = _
          rw [raises]
          rfl
        rw [raised]
        exact holds
  | resume => exact kept_between found never holds (resume_writes none holds.2)
  | meanwhile signal =>
      have writes : EngineWrites engine (.entering workflow (fun _ => False) False) w
          (signal.act runId w) := (signal.relied (.consumeApproval "") w).1
      exact kept_between found never holds writes

theorem RunCall.kept {op : RunCall} (allowed : (AgentStep.call op).Allowed w)
    (spares : (AgentStep.call op).Spares engine workflow runId node.id w)
    (holds : ComesOnce engine workflow runId node.id w ∧ w.Allocated) :
    ComesOnce engine workflow runId node.id (op.run engine workflow runId w) ∧
      (op.run engine workflow runId w).Allocated := by
  cases enters : op.entry engine runId w with
  | none => exact RunCall.stays found never enters holds
  | some entry =>
      rw [RunCall.run_entry enters]
      obtain ⟨before, below⟩ := RunCall.enters_kept found never holds allowed enters
      obtain ⟨⟨after, -⟩, allocated⟩ := Entry.kept found never below before (spares entry enters)
      exact ⟨after, allocated⟩

theorem AgentStep.kept {step : AgentStep} (allowed : step.Allowed w)
    (spares : step.Spares engine workflow runId node.id w)
    (holds : ComesOnce engine workflow runId node.id w ∧ w.Allocated) :
    ComesOnce engine workflow runId node.id (step.run engine workflow runId w) ∧
      (step.run engine workflow runId w).Allocated := by
  cases step with
  | call op => exact RunCall.kept found never allowed spares holds
  | resumeFrom nodeId => exact kept_between found never holds (resume_writes (some nodeId) holds.2)
  | answer tracked responses waiting =>
      simp only [AgentStep.run, World.resumeWaitingRuns]
      split
      · next db done =>
          refine ⟨⟨⟨holds.1.one.ids, ?_⟩, holds.1.made, holds.1.once, holds.1.beyond⟩, holds.2⟩
          exact resumeWaitingRuns_ids done holds.1.one.rows
      · exact holds
  | reload =>
      simp only [AgentStep.run, World.reload]
      split
      · exact holds
      · next row stored =>
          refine ⟨⟨⟨fun ref => ?_, holds.1.one.rows⟩, holds.1.made, holds.1.once, holds.1.beyond⟩,
            fun id result registered => ?_⟩
          · by_cases fresh : ref = w.nextObject
            · subst fresh
              simp only [Function.update_self]
              exact holds.1.one.rows runId row stored
            · simp only [Function.update_of_ne fresh]
              exact holds.1.one.ids ref
          · obtain ⟨below, named⟩ := holds.2 id result registered
            refine ⟨Nat.lt_succ_of_lt below, ?_⟩
            simp only [Function.update_of_ne (Nat.ne_of_lt below)]
            exact named
  | adjust ref f =>
      have named : ∀ other, ((w.modifyRun ref fun run => { run with state := f run.state }).objects
          other).id = (w.objects other).id := by
        intro other
        by_cases same : other = ref
        · subst same
          rw [World.modifyRun_objects_self]
        · rw [World.modifyRun_objects_of_ne _ _ _ _ same]
      refine ⟨⟨⟨fun other => ?_, holds.1.one.rows⟩, holds.1.made, holds.1.once, holds.1.beyond⟩,
        fun id result registered => ?_⟩
      · exact (named other).trans (holds.1.one.ids other)
      · obtain ⟨below, owned⟩ := holds.2 id result registered
        exact ⟨below, (named _).trans owned⟩

end steps

/-- The node's message is sent once, and a call that comes to `execute` while the run came
last to the node goes on at its successor. -/
structure SendsOnce (engine : WorkflowEngine) (workflow : WorkflowDefinition) (runId : String)
    (node : NodeDefinition) (start : World) (steps : List AgentStep) : Prop where
  atMostOnce : ∀ n, handlerCalls runId node.id
    (agentAfter engine workflow runId start steps n).trail ≤ 1
  sent : ∀ n, .exited runId node.id .waitForAgentResponse ∈
      (agentAfter engine workflow runId start steps n).trail →
    handlerCalls runId node.id (agentAfter engine workflow runId start steps n).trail = 1
  message : ∀ handler index state context, engine.handlers node.handler = some handler →
    context.config = node.config → messagesSent (handler index state context).effects ≤ 1 ∧
      ((handler index state context).exit = .waitForAgentResponse →
        messagesSent (handler index state context).effects = 1)
  continues : ∀ n op entry next, steps[n]? = some (.call op) →
    op.entry engine runId (agentAfter engine workflow runId start steps n) = some entry →
    CameLast runId node.id entry.world.trail →
    (dispatchedNodes runId ((agentAfter engine workflow runId start steps (n + 1)).trail.drop
      entry.world.trail.length)).head? = some next →
    resolveNextNode node.id (entry.world.objects entry.ref).state workflow.edges = some next

section sendsOnce

variable {engine : WorkflowEngine} {services : Services} {workflow : WorkflowDefinition}
  {node : NodeDefinition} {runId : String}

/-- In every session whose calls enter past the node, once it has come up, and at its
successor, while it came up last, its message is sent once and the run goes on there. -/
theorem sendsOnce_of_spares (awaits : AwaitsAgent engine services workflow node)
    (unretried : Unretried engine node) (workflowId workflowVersion actor : String)
    (initialState : State) (tags : Dict String String) {start : World}
    (started : start = World.started (startRun runId workflowId workflowVersion actor initialState
      tags)) {steps : List AgentStep}
    (allowed : ∀ (n : Nat) (step : AgentStep), steps[n]? = some step →
      step.Allowed (agentAfter engine workflow runId start steps n))
    (spares : ∀ (n : Nat) (step : AgentStep), steps[n]? = some step →
      step.Spares engine workflow runId node.id (agentAfter engine workflow runId start steps n)) :
    SendsOnce engine workflow runId node start steps := by
  have found := awaits.found
  have never := awaits.neverReturns
  have begins : ComesOnce engine workflow runId node.id start ∧ start.Allocated := by
    subst started
    refine ⟨⟨⟨fun _ => rfl, fun key row stored => ?_⟩, .nil, Nat.zero_le 1, nofun⟩, nofun⟩
    by_cases same : key = runId
    · subst same
      simp only [World.started, startRun, Function.update_self, Option.some.injEq] at stored
      rw [← stored]
    · simp [World.started, startRun, Function.update_of_ne same] at stored
  have invariant := stateAfter_invariant (AgentStep.run engine workflow runId) start steps
    (fun w => ComesOnce engine workflow runId node.id w ∧ w.Allocated) begins fun n step present =>
      AgentStep.kept found never (allowed n step present) (spares n step present)
  have atMostOnce : ∀ n, handlerCalls runId node.id
      (agentAfter engine workflow runId start steps n).trail ≤ 1 := by
    intro n
    exact (handlerCalls_le (invariant n).1.made found unretried).trans (invariant n).1.once
  refine ⟨atMostOnce, fun n exited => ?_, ?_, ?_⟩
  · exact Nat.le_antisymm (atMostOnce n) (handlerCalls_pos (invariant n).1.made exited)
  · intro handler index state context present configured
    obtain rfl := Option.some.inj (awaits.handler.symm.trans present)
    have ends := agentSend_outcome services index context state (configured ▸ awaits.waits)
    rcases ends with ⟨-, one⟩ | ⟨⟨message, failed⟩, atMost⟩
    · exact ⟨one.le, fun _ => one⟩
    · refine ⟨atMost, fun waited => ?_⟩
      rw [failed] at waited
      cases waited
  · intro n op entry next present enters came comes
    obtain ⟨before, below⟩ := RunCall.enters_kept found never (invariant n) (allowed n _ present)
      enters
    have spared := spares n _ present entry enters
    obtain ⟨⟨-, entered⟩, -⟩ := Entry.kept found never below before spared
    have after : agentAfter engine workflow runId start steps (n + 1) =
        entry.run engine workflow runId := by
      rw [agentAfter, stateAfter_succ _ _ _ present]
      exact RunCall.run_entry enters
    rw [after] at comes
    obtain ⟨events, later⟩ := entered.later
    rw [← later, List.drop_left] at comes
    have at_place := entered.first came events later.symm next comes
    rw [← (spared (mem_dispatchedNodes.mp (List.mem_of_getLast? came))).2 came]
    exact at_place

end sendsOnce

/-! ### One question -/

section oneQuestion

def agentServices : Services :=
  { plainServices with send := some fun _ _ _ => .ok ["message"] }

def askNode : NodeDefinition :=
  { NodeDefinition.plain "ask" .action "agent_send" with
    config := [("recipient_id", .str "helper"), ("wait_for_response", .bool true),
      ("response_key", .str "answer")] }

def oneQuestion : WorkflowDefinition :=
  { id := "workflow"
    nodes := [.plain "start" .start "start", askNode, .plain "end" .endNode "end"]
    edges := [.plain "start" "ask", .plain "ask" "end"] }

def agentEngine : WorkflowEngine := .plain (builtinHandlers agentServices) true

def helperAnswers : AgentResponse :=
  { id := "response", conversationId := "request-1-0", content := .str "yes" }

def answeredRun (between : List AgentStep) : List AgentStep :=
  [.call (.execute 0 plainContext fun _ => []), .answer true [helperAnswers] ["run"]] ++ between ++
    [.reload, .call (.execute 1 plainContext fun _ => [])]

theorem oneQuestion_awaits : AwaitsAgent agentEngine agentServices oneQuestion askNode where
  found := rfl
  handler := rfl
  waits := rfl

theorem askNode_unretried : Unretried agentEngine askNode := .inl rfl

/-- With the answer stored and the run running, the next execution asks again. -/
theorem answered_run_sends_again :
    ((agentAfter agentEngine oneQuestion "run" newRun (answeredRun []) 2).db.runs "run").any
        (fun row => row.status = .running ∧
          Dict.get? row.state "answer" = some (.str "yes")) = true ∧
      messagesSent (agentAfter agentEngine oneQuestion "run" newRun (answeredRun []) 4).effects =
        2 ∧
      ¬ SendsOnce agentEngine oneQuestion "run" askNode newRun (answeredRun []) := by
  refine ⟨by decide +kernel, by decide +kernel, fun sendsOnce => ?_⟩
  have twice : handlerCalls "run" "ask"
      (agentAfter agentEngine oneQuestion "run" newRun (answeredRun []) 4).trail = 2 := by
    decide +kernel
  have atMost := sendsOnce.atMostOnce 4
  change handlerCalls "run" "ask" _ ≤ 1 at atMost
  rw [twice] at atMost
  exact absurd atMost (by decide)

theorem end_leads_nowhere (target : String) : ¬ Leads agentEngine oneQuestion "end" target := by
  rintro (⟨edge, listed, source, -⟩ | ⟨node, handler, index, state, context, result, found, present,
    exit, next⟩)
  · simp only [oneQuestion, EdgeDefinition.plain, List.mem_cons, List.not_mem_nil, or_false] at listed
    rcases listed with rfl | rfl <;> exact absurd source (by decide)
  · obtain rfl : NodeDefinition.plain "end" .endNode "end" = node := Option.some.inj found
    obtain rfl := Option.some.inj present
    obtain rfl := HandlerExit.returned.inj exit
    cases next

theorem end_past : Past agentEngine oneQuestion "ask" (some "end") := by
  refine ⟨"end", rfl, by decide, fun back => ?_⟩
  rcases Relation.ReflTransGen.cases_head back with same | ⟨next, leads, -⟩
  · exact absurd same (by decide)
  · exact end_leads_nowhere next leads

theorem answeredRun_allowed (n : Nat) (step : AgentStep)
    (present : (answeredRun [.resumeFrom "end"])[n]? = some step) :
    step.Allowed (agentAfter agentEngine oneQuestion "run" newRun
      (answeredRun [.resumeFrom "end"]) n) := by
  rcases n with _ | _ | _ | _ | _ | n
  · cases present
    exact Nat.zero_lt_one
  · cases present
    trivial
  · cases present
    trivial
  · cases present
    trivial
  · cases present
    show 1 < World.nextObject _
    decide +kernel
  · cases present

theorem answeredRun_spares (n : Nat) (step : AgentStep)
    (present : (answeredRun [.resumeFrom "end"])[n]? = some step) :
    step.Spares agentEngine oneQuestion "run" askNode.id (agentAfter agentEngine oneQuestion "run"
      newRun (answeredRun [.resumeFrom "end"]) n) := by
  rcases n with _ | _ | _ | _ | _ | n
  · cases present
    intro entry enters dispatched
    obtain rfl := Option.some.inj enters
    cases dispatched
  · cases present
    trivial
  · cases present
    trivial
  · cases present
    trivial
  · cases present
    intro entry enters dispatched
    obtain rfl := Option.some.inj enters
    have place : (agentAfter agentEngine oneQuestion "run" newRun
        (answeredRun [.resumeFrom "end"]) 4).place "run" = some "end" := by decide +kernel
    refine ⟨?_, fun came => ?_⟩
    · show Past agentEngine oneQuestion "ask" (World.place _ "run")
      rw [place]
      exact end_past
    · show World.place _ "run" = _
      rw [place]
      decide +kernel
  · cases present

theorem sendsOnce_of_spares_answeredRun :
    .exited "run" "ask" .waitForAgentResponse ∈ (agentAfter agentEngine oneQuestion "run" newRun
        (answeredRun [.resumeFrom "end"]) 5).trail ∧
      SendsOnce agentEngine oneQuestion "run" askNode newRun (answeredRun [.resumeFrom "end"]) :=
  ⟨by decide +kernel, sendsOnce_of_spares oneQuestion_awaits askNode_unretried "workflow" "1"
    "client" [] [] rfl answeredRun_allowed answeredRun_spares⟩

end oneQuestion

end SyndicateClaw.Orchestrator
