import SyndicateClaw.Data.KeySort
import SyndicateClaw.Orchestrator.Engine

/-! Which edge is taken out of a node, and what the order of the edges has to do with it. -/

namespace SyndicateClaw.Orchestrator

def EdgeDefinition.Open (nodeId : String) (state : State) (edge : EdgeDefinition) : Prop :=
  edge.sourceNodeId = nodeId ∧
    ∀ condition ∈ edge.condition, evaluateCondition condition state = true

/-- The first of the open edges with the highest priority, where it stands. -/
structure FirstOfHighest (nodeId : String) (state : State) (edges : List EdgeDefinition)
    (edge : EdgeDefinition) (before after : List EdgeDefinition) : Prop where
  whole : edges = before ++ edge :: after
  opens : edge.Open nodeId state
  earlier : ∀ other ∈ before, other.Open nodeId state → other.priority < edge.priority
  later : ∀ other ∈ after, other.Open nodeId state → other.priority ≤ edge.priority

def leaving (nodeId : String) (edges : List EdgeDefinition) : List EdgeDefinition :=
  edges.filter fun edge => edge.sourceNodeId = nodeId

/-- The order of the sort with `reverse=True`, which is stable too. -/
def EdgeDefinition.rank (edge : EdgeDefinition) : ℤᵒᵈ := OrderDual.toDual edge.priority

variable {nodeId : String} {state : State} {edges other : List EdgeDefinition}

theorem resolveNextNode_eq : resolveNextNode nodeId state edges =
    ((sortBy EdgeDefinition.rank (leaving nodeId edges)).find? fun edge =>
      edge.condition.all fun condition => evaluateCondition condition state).map
        (·.targetNodeId) := rfl

theorem open_iff (edge : EdgeDefinition) : edge.Open nodeId state ↔
    ((edge.condition.all fun condition => evaluateCondition condition state) &&
      decide (edge.sourceNodeId = nodeId)) = true := by
  rw [Bool.and_eq_true, decide_eq_true_eq, Option.all_eq_true, and_comm]
  rfl

theorem found_iff {edge : EdgeDefinition} :
    ((sortBy EdgeDefinition.rank (leaving nodeId edges)).find? fun edge =>
      edge.condition.all fun condition => evaluateCondition condition state) = some edge ↔
      ∃ before after, FirstOfHighest nodeId state edges edge before after := by
  rw [find?_sortBy, leaving, List.filter_filter, firstLeast_filter]
  constructor
  · rintro ⟨before, after, whole, opens, earlier, later⟩
    refine ⟨before, after, whole, (open_iff edge).mpr opens, ?_, ?_⟩
    · intro other member also
      exact earlier other member ((open_iff other).mp also)
    · intro other member also
      exact later other member ((open_iff other).mp also)
  · rintro ⟨before, after, first⟩
    refine ⟨before, after, first.whole, (open_iff edge).mp first.opens, ?_, ?_⟩
    · intro other member also
      exact first.earlier other member ((open_iff other).mpr also)
    · intro other member also
      exact first.later other member ((open_iff other).mpr also)

theorem resolveNextNode_some_iff {target : String} :
    resolveNextNode nodeId state edges = some target ↔
      ∃ edge before after, FirstOfHighest nodeId state edges edge before after ∧
        edge.targetNodeId = target := by
  rw [resolveNextNode_eq, Option.map_eq_some_iff]
  constructor
  · rintro ⟨edge, found, is⟩
    obtain ⟨before, after, first⟩ := found_iff.mp found
    exact ⟨edge, before, after, first, is⟩
  · rintro ⟨edge, before, after, first, is⟩
    exact ⟨edge, found_iff.mpr ⟨before, after, first⟩, is⟩

theorem resolveNextNode_none_iff :
    resolveNextNode nodeId state edges = none ↔ ∀ edge ∈ edges, ¬ edge.Open nodeId state := by
  rw [resolveNextNode_eq, Option.map_eq_none_iff, List.find?_eq_none]
  constructor
  · intro closed edge member opens
    have inside : edge ∈ leaving nodeId edges :=
      List.mem_filter.mpr ⟨member, decide_eq_true opens.1⟩
    have test := (open_iff edge).mp opens
    rw [Bool.and_eq_true] at test
    exact closed edge ((mem_sortBy _).mpr inside) test.1
  · intro closed edge member test
    obtain ⟨inside, leaves⟩ := List.mem_filter.mp ((mem_sortBy _).mp member)
    exact closed edge inside ((open_iff edge).mpr (Bool.and_eq_true_iff.mpr ⟨test, leaves⟩))

theorem resolveNextNode_of_levels
    (levels : ∀ priority : Int, (leaving nodeId other).filter (fun edge => edge.priority = priority) =
      (leaving nodeId edges).filter fun edge => edge.priority = priority) :
    resolveNextNode nodeId state other = resolveNextNode nodeId state edges := by
  have sorted : sortBy EdgeDefinition.rank (leaving nodeId other) =
      sortBy EdgeDefinition.rank (leaving nodeId edges) := sortBy_congr levels
  rw [resolveNextNode_eq, resolveNextNode_eq, sorted]

theorem resolveNextNode_perm (perm : other.Perm edges)
    (distinct : ((leaving nodeId other).map EdgeDefinition.priority).Nodup) :
    resolveNextNode nodeId state other = resolveNextNode nodeId state edges := by
  have same : (leaving nodeId other).Perm (leaving nodeId edges) := perm.filter _
  have sorted : sortBy EdgeDefinition.rank (leaving nodeId other) =
      sortBy EdgeDefinition.rank (leaving nodeId edges) := sortBy_perm same distinct
  rw [resolveNextNode_eq, resolveNextNode_eq, sorted]

/-- The next node is the target of the first of the open edges with the highest priority. Edges out
of other nodes may stand anywhere, edges of different priorities too, and only the order of edges
out of this node that have the same priority matters. -/
theorem next_by_priority (nodeId : String) (state : State) (edges : List EdgeDefinition) :
    (∀ target, resolveNextNode nodeId state edges = some target ↔
      ∃ edge before after, FirstOfHighest nodeId state edges edge before after ∧
        edge.targetNodeId = target) ∧
    (resolveNextNode nodeId state edges = none ↔ ∀ edge ∈ edges, ¬ edge.Open nodeId state) ∧
    (∀ other : List EdgeDefinition, other.Perm edges → leaving nodeId other = leaving nodeId edges →
      resolveNextNode nodeId state other = resolveNextNode nodeId state edges) ∧
    (∀ other : List EdgeDefinition, other.Perm edges →
      ((leaving nodeId edges).map EdgeDefinition.priority).Nodup →
      resolveNextNode nodeId state other = resolveNextNode nodeId state edges) ∧
    ∀ other : List EdgeDefinition,
      (∀ priority : Int, (leaving nodeId other).filter (fun edge => edge.priority = priority) =
        (leaving nodeId edges).filter fun edge => edge.priority = priority) →
      resolveNextNode nodeId state other = resolveNextNode nodeId state edges := by
  refine ⟨fun target => resolveNextNode_some_iff, resolveNextNode_none_iff, ?_, ?_, ?_⟩
  · intro other _ same
    exact resolveNextNode_of_levels fun priority => by rw [same]
  · intro other perm distinct
    have kept : ((leaving nodeId other).map EdgeDefinition.priority).Nodup :=
      ((perm.filter _).map _).nodup_iff.mpr distinct
    exact resolveNextNode_perm perm kept
  · intro other levels
    exact resolveNextNode_of_levels levels

end SyndicateClaw.Orchestrator
