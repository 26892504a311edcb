import Mathlib.Data.List.Chain
import Mathlib.Data.List.Induction
import SyndicateClaw.Async.History
import SyndicateClaw.Orchestrator.EngineWrite

/-! The order in which the nodes of a run come up.

The trail of a run follows the graph when every dispatched node is the START node, the
node a resumption takes up again, or the successor chosen for the node that completed
just before. A node that lies behind a gate then comes up only after the gate. -/

namespace SyndicateClaw.Orchestrator

open Async

def ApprovalRequestRow.resumeNode (row : ApprovalRequestRow) : Option String :=
  (lookup row.context "resume_node_id").asStr?

/-- The node the run stands at: the one dispatched last, or the one a later redemption
goes back to. -/
def standing (trail : List Event) : Option String :=
  trail.foldl (fun stands event => match event with
    | .dispatched _ nodeId => some nodeId
    | .consumed _ _ row => row.resumeNode.or stands
    | _ => stands) none

def ready (trail : List Event) : Bool :=
  trail.foldl (fun ready event => match event with
    | .dispatched _ _ => false
    | .resumed _ => true
    | .consumed _ _ _ => true
    | _ => ready) true

/-- A node comes up next on a trail. -/
inductive Follows (workflow : WorkflowDefinition) (runId : String) (before : List Event)
    (nodeId : String) : Prop
  | start (startNode : NodeDefinition) (found : findStartNode workflow = some startNode)
      (first : ∀ event ∈ before, event.IsDispatch = false) (is : nodeId = startNode.id)
  | resumed (again : ready before = true) (stands : standing before = some nodeId)
      (known : .dispatched runId nodeId ∈ before)
  | reached (previous : String) (result : NodeResult) (state : State)
      (returned : Returned before runId previous result)
      (chosen : before.getLast? = some (.chose runId previous (some nodeId)))
      (next : result.nextNodeId.or (resolveNextNode previous state workflow.edges) = some nodeId)

def Linked (workflow : WorkflowDefinition) (runId : String) (trail : List Event)
    (source target : String) : Prop :=
  (∃ edge ∈ workflow.edges, edge.sourceNodeId = source ∧ edge.targetNodeId = target) ∨
    ∃ result, .exited runId source (.returned result) ∈ trail ∧ result.nextNodeId = some target

structure PathTo (workflow : WorkflowDefinition) (runId : String) (trail : List Event)
    (target : String) (path : List String) : Prop where
  first : path.head? = (findStartNode workflow).map (·.id)
  last : path.getLast? = some target
  linked : path.IsChain (Linked workflow runId trail)

def Guards (workflow : WorkflowDefinition) (runId : String) (trail : List Event)
    (gate target : String) : Prop :=
  ∀ path, PathTo workflow runId trail target path → gate ∈ path

/-- The run follows the graph: every dispatched node comes up as it may, every handler
call belongs to the node dispatched last, and no node comes up before its gates have
completed. -/
structure FollowsGraph (workflow : WorkflowDefinition) (runId : String) (trail : List Event) :
    Prop where
  nodes : ∀ before id nodeId after, trail = before ++ .dispatched id nodeId :: after →
    Follows workflow runId before nodeId
  calls : ∀ before id nodeId handler attempt after,
    trail = before ++ .invoked id nodeId handler attempt :: after → Current before id nodeId
  gates : ∀ before id nodeId after gate, trail = before ++ .dispatched id nodeId :: after →
    Guards workflow runId before gate nodeId → gate ≠ nodeId →
      ∃ result, .exited runId gate (.returned result) ∈ before

section trail

variable {workflow : WorkflowDefinition} {runId : String} {trail : List Event}

@[simp] theorem standing_snoc (event : Event) :
    standing (trail ++ [event]) = match event with
      | .dispatched _ nodeId => some nodeId
      | .consumed _ _ row => row.resumeNode.or (standing trail)
      | _ => standing trail := by
  simp [standing, List.foldl_append]

def Event.Moves : Event → Bool
  | .dispatched _ _ => true
  | .consumed _ _ _ => true
  | _ => false

theorem standing_still {event : Event} (still : event.Moves = false) :
    standing (trail ++ [event]) = standing trail := by
  rw [standing_snoc]
  cases event <;> simp_all [Event.Moves]

@[simp] theorem ready_snoc (event : Event) :
    ready (trail ++ [event]) = match event with
      | .dispatched _ _ => false
      | .resumed _ => true
      | .consumed _ _ _ => true
      | _ => ready trail := by
  simp [ready, List.foldl_append]

theorem standing_none (nowhere : standing trail = none) :
    ∀ event ∈ trail, event.IsDispatch = false := by
  induction trail using List.reverseRecOn with
  | nil => simp
  | append_singleton trail last ih =>
      have before : standing trail = none := by
        cases last <;> simp_all
      have other : last.IsDispatch = false := by
        cases last with
        | dispatched id nodeId => simp at nowhere
        | _ => rfl
      intro event member
      rcases List.mem_append.mp member with old | new
      · exact ih before event old
      · rw [List.mem_singleton.mp new]
        exact other

theorem Current.stands {id nodeId : String} (current : Current trail id nodeId) :
    standing trail ≠ none := by
  intro nowhere
  obtain ⟨since, ⟨before, split⟩, -⟩ := current
  have other := standing_none nowhere (.dispatched id nodeId) (by rw [split]; simp)
  cases other

theorem resolveNextNode_edge {source target : String} {state : State}
    {edges : List EdgeDefinition} (resolved : resolveNextNode source state edges = some target) :
    ∃ edge ∈ edges, edge.sourceNodeId = source ∧ edge.targetNodeId = target := by
  obtain ⟨edge, found, is⟩ := Option.map_eq_some_iff.mp resolved
  have member := List.mem_of_find?_eq_some found
  rw [List.mem_insertionSort, List.mem_filter] at member
  exact ⟨edge, member.1, by simpa using member.2, is⟩

theorem Linked.later {before : List Event} (extends' : before ⊆ trail) {source target : String}
    (linked : Linked workflow runId before source target) :
    Linked workflow runId trail source target := by
  rcases linked with edge | ⟨result, exited, next⟩
  · exact .inl edge
  · exact .inr ⟨result, extends' exited, next⟩

/-- A trail that follows the graph has come to each of its nodes along a path whose other
nodes have completed. -/
theorem exists_path
    (nodes : ∀ before id nodeId after, trail = before ++ .dispatched id nodeId :: after →
      Follows workflow runId before nodeId) (before : List Event) {id nodeId : String}
    {after : List Event} (split : trail = before ++ .dispatched id nodeId :: after) :
    ∃ path, PathTo workflow runId before nodeId path ∧
      ∀ other ∈ path, other = nodeId ∨ ∃ result, .exited runId other (.returned result) ∈ before := by
  -- On the length of the trail before the node: an earlier dispatch has a shorter one.
  induction length : before.length using Nat.strong_induction_on
    generalizing before id nodeId after with
  | _ n ih =>
    have earlier : ∀ {first previous since}, before = first ++ .dispatched runId previous :: since →
        ∃ path, PathTo workflow runId before previous path ∧ ∀ other ∈ path, other = previous ∨
          ∃ result, .exited runId other (.returned result) ∈ before := by
      intro first previous since shorter
      have inside : first ⊆ before := by rw [shorter]; exact List.subset_append_left _ _
      have shrinks : first.length < n := by
        rw [← length, shorter]
        simp
      have again : trail = first ++ .dispatched runId previous ::
          (since ++ .dispatched id nodeId :: after) := by
        rw [split, shorter]
        simp
      obtain ⟨path, leads, completed⟩ := ih first.length shrinks first again rfl
      refine ⟨path, ⟨leads.first, leads.last, leads.linked.imp fun _ _ => .later inside⟩, ?_⟩
      intro other member
      rcases completed other member with same | ⟨result, exited⟩
      · exact .inl same
      · exact .inr ⟨result, inside exited⟩
    cases nodes before id nodeId after split with
    | start startNode found first is =>
        refine ⟨[nodeId], ⟨by simp [found, is], rfl, List.isChain_singleton _⟩, fun other member => ?_⟩
        exact .inl (List.mem_singleton.mp member)
    | resumed again stands known =>
        obtain ⟨first, since, shorter⟩ := List.append_of_mem known
        exact earlier shorter
    | reached previous result state returned chosen next =>
        obtain ⟨since, ⟨⟨first, shorter⟩, -⟩, exited⟩ := returned
        have ended : .exited runId previous (.returned result) ∈ before := by
          rw [shorter]
          exact List.mem_append_right _ (List.mem_cons_of_mem _ exited)
        obtain ⟨path, leads, completed⟩ := earlier shorter
        have step : Linked workflow runId before previous nodeId := by
          cases jumps : result.nextNodeId with
          | some target =>
              rw [jumps, Option.some_or] at next
              exact .inr ⟨result, ended, by rw [jumps, next]⟩
          | none =>
              rw [jumps, Option.none_or] at next
              exact .inl (resolveNextNode_edge next)
        refine ⟨path ++ [nodeId], ⟨?_, by simp, ?_⟩, fun other member => ?_⟩
        · rw [← leads.first, List.head?_append]
          cases path with
          | nil => cases leads.last
          | cons head rest => rfl
        · refine List.isChain_append.mpr ⟨leads.linked, List.isChain_singleton _, ?_⟩
          intro source last target head
          rw [leads.last] at last
          cases last
          cases head
          exact step
        · rcases List.mem_append.mp member with old | new
          · rcases completed other old with rfl | done
            · exact .inr ⟨result, ended⟩
            · exact .inr done
          · exact .inl (List.mem_singleton.mp new)

theorem FollowsGraph.of_steps
    (nodes : ∀ before id nodeId after, trail = before ++ .dispatched id nodeId :: after →
      Follows workflow runId before nodeId)
    (calls : ∀ before id nodeId handler attempt after,
      trail = before ++ .invoked id nodeId handler attempt :: after → Current before id nodeId) :
    FollowsGraph workflow runId trail := by
  refine ⟨nodes, calls, fun before id nodeId after gate split guards other => ?_⟩
  obtain ⟨path, leads, completed⟩ := exists_path nodes before split
  exact (completed gate (guards path leads)).resolve_left other

end trail

end SyndicateClaw.Orchestrator
