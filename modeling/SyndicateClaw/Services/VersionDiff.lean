import Mathlib.Data.String.Basic
import SyndicateClaw.Orchestrator.Condition
import SyndicateClaw.Services.Versioning

/-! What `VersioningService.diff` reports of two versions. -/

namespace SyndicateClaw.Services

open Orchestrator
open Condition (pyEq)

/-! ### The diff -/

/-- The items that a comprehension over `definition.get(field, [])` takes; none where it raises. -/
def itemsOf (definition : State) (field : String) : Option (List State) :=
  match (Dict.get? definition field).getD (.list []) with
  | .list items => items.mapM Value.asDict?
  | .dict [] | .str "" => some []
  | _ => none

/-- `str(n.get("id"))`. -/
def nodeKey (node : State) : String := ((Dict.get? node "id").getD .none).pyStr

/-- `str(e.get("id", f"{e.get('source_node_id')}->{e.get('target_node_id')}"))`. -/
def edgeKey (edge : State) : String :=
  match Dict.get? edge "id" with
  | some id => id.pyStr
  | none =>
      ((Dict.get? edge "source_node_id").getD .none).pyStr ++ "->" ++
        ((Dict.get? edge "target_node_id").getD .none).pyStr

/-- `{key(item): item for item in items}`. -/
def byKey (key : State → String) (items : List State) : Dict String State :=
  items.foldl (fun found item => Dict.set found (key item) item) []

/-- `sorted(set(entries) - set(others))`. -/
def keysBeyond (entries others : Dict String State) : List String :=
  sortBy id ((entries.map Prod.fst).filter fun key => !Dict.contains others key)

/-- `sorted([k for k in set(entries) & set(others) if entries[k] != others[k]])`. -/
def keysChanged (entries others : Dict String State) : List String :=
  sortBy id ((entries.filter fun entry =>
    (Dict.get? others entry.1).any fun other => !pyEq (.dict entry.2) (.dict other)).map Prod.fst)

structure VersionDiff where
  fromVersion : Int
  toVersion : Int
  nodesAdded : List String
  nodesRemoved : List String
  nodesChanged : List String
  edgesAdded : List String
  edgesRemoved : List String
  metadataFrom : Value
  metadataTo : Value

inductive DiffError where
  | version (error : VersionError)
  -- A `TypeError` or an `AttributeError`.
  | other

/-- `diff`. -/
def VersioningService.diff (fromVersion toVersion : Int) (store : VersionStore) :
    Except DiffError VersionDiff :=
  match getVersion fromVersion store with
  | .error error => .error (.version error)
  | .ok vFrom =>
      match getVersion toVersion store with
      | .error error => .error (.version error)
      | .ok vTo =>
          match itemsOf vFrom.definition "nodes", itemsOf vTo.definition "nodes",
              itemsOf vFrom.definition "edges", itemsOf vTo.definition "edges" with
          | some fromNodes, some toNodes, some fromEdges, some toEdges =>
              let fromNodes := byKey nodeKey fromNodes
              let toNodes := byKey nodeKey toNodes
              let fromEdges := byKey edgeKey fromEdges
              let toEdges := byKey edgeKey toEdges
              .ok
                { fromVersion, toVersion
                  nodesAdded := keysBeyond toNodes fromNodes
                  nodesRemoved := keysBeyond fromNodes toNodes
                  nodesChanged := keysChanged fromNodes toNodes
                  edgesAdded := keysBeyond toEdges fromEdges
                  edgesRemoved := keysBeyond fromEdges toEdges
                  metadataFrom := (Dict.get? vFrom.definition "metadata").getD (.dict [])
                  metadataTo := (Dict.get? vTo.definition "metadata").getD (.dict []) }
          | _, _, _, _ => .error .other

/-! ### Definitions as the routes store them -/

/-- `NodeDefinition.model_dump()`. -/
structure NodeDump where
  id : String
  fields : State
  own : Dict.get? fields "id" = some (.str id)

/-- `EdgeDefinition.model_dump()`. -/
def edgeDump (edge : EdgeDefinition) : State :=
  [("source_node_id", .str edge.sourceNodeId), ("target_node_id", .str edge.targetNodeId),
    ("condition", (edge.condition.map Value.str).getD .none), ("priority", .int edge.priority)]

structure StoredDefinition where
  nodes : List NodeDump
  edges : List EdgeDefinition
  metadata : State

def StoredDefinition.dump (definition : StoredDefinition) : State :=
  [("nodes", .list (definition.nodes.map fun node => .dict node.fields)),
    ("edges", .list (definition.edges.map fun edge => .dict (edgeDump edge))),
    ("metadata", .dict definition.metadata)]

def EdgeDefinition.endpoints (edge : EdgeDefinition) : String :=
  edge.sourceNodeId ++ "->" ++ edge.targetNodeId

namespace StoredDefinition

variable (definition other : StoredDefinition)

def node? (id : String) : Option State :=
  ((definition.nodes.filter fun node => node.id = id).getLast?).map NodeDump.fields

def SameNodes : Prop :=
  ∀ id, Option.Rel (fun a b => pyEq (.dict a) (.dict b) = true) (definition.node? id)
    (other.node? id)

def SameMetadata : Prop :=
  pyEq (.dict definition.metadata) (.dict other.metadata) = true

def SameEndpoints : Prop :=
  ∀ endpoints, endpoints ∈ definition.edges.map EdgeDefinition.endpoints ↔
    endpoints ∈ other.edges.map EdgeDefinition.endpoints

end StoredDefinition

/-- A diff reports nothing exactly where nodes, edges and metadata are the same, and what it reports
leads from the ids of the first definition to those of the second. -/
structure VersionDiff.Faithful (diff : VersionDiff) (first second : StoredDefinition) : Prop where
  silent : (diff.nodesAdded = [] ∧ diff.nodesRemoved = [] ∧ diff.nodesChanged = [] ∧
      diff.edgesAdded = [] ∧ diff.edgesRemoved = [] ∧
      pyEq diff.metadataFrom diff.metadataTo = true) ↔
    first.SameNodes second ∧ first.edges.Perm second.edges ∧ first.SameMetadata second
  nodes : ∀ id, id ∈ second.nodes.map NodeDump.id ↔
    (id ∈ first.nodes.map NodeDump.id ∧ id ∉ diff.nodesRemoved) ∨ id ∈ diff.nodesAdded
  edges : ∀ endpoints, endpoints ∈ second.edges.map EdgeDefinition.endpoints ↔
    (endpoints ∈ first.edges.map EdgeDefinition.endpoints ∧ endpoints ∉ diff.edgesRemoved) ∨
      endpoints ∈ diff.edgesAdded

/-! ### Dictionaries of items -/

theorem get?_byKey (key : State → String) (items : List State) (name : String) :
    Dict.get? (byKey key items) name = (items.filter fun item => key item = name).getLast? := by
  have walk (found : Dict String State) :
      Dict.get? (items.foldl (fun found item => Dict.set found (key item) item) found) name =
        ((items.filter fun item => key item = name).getLast?).or (Dict.get? found name) := by
    induction items generalizing found with
    | nil => rfl
    | cons item items ih =>
        rw [List.foldl_cons, ih, Dict.get?_set]
        by_cases own : key item = name
        · cases last : (items.filter fun item => key item = name).getLast? with
          | none => simp [List.getLast?_cons, own, last]
          | some later => simp [List.getLast?_cons, own, last]
        · simp [own, Ne.symm own]
  rw [byKey, walk, Dict.get?_nil, Option.or_none]

theorem contains_byKey (key : State → String) (items : List State) (name : String) :
    Dict.contains (byKey key items) name = true ↔ name ∈ items.map key := by
  rw [Dict.contains, get?_byKey, List.getLast?_isSome, Ne, List.filter_eq_nil_iff]
  simp

theorem mem_keys_byKey (key : State → String) (items : List State) (name : String) :
    name ∈ (byKey key items).map Prod.fst ↔ name ∈ items.map key := by
  rw [Dict.mem_keys, contains_byKey]

theorem nodup_byKey (key : State → String) (items : List State) :
    ((byKey key items).map Prod.fst).Nodup := by
  have walk (found : Dict String State) (distinct : (found.map Prod.fst).Nodup) :
      ((items.foldl (fun found item => Dict.set found (key item) item) found).map
        Prod.fst).Nodup := by
    induction items generalizing found with
    | nil => exact distinct
    | cons item items ih => exact ih _ (Dict.nodup_set distinct (key item) item)
  exact walk [] List.nodup_nil

theorem mem_keysBeyond (key : State → String) (items others : List State) (name : String) :
    name ∈ keysBeyond (byKey key items) (byKey key others) ↔
      name ∈ items.map key ∧ name ∉ others.map key := by
  unfold keysBeyond
  rw [mem_sortBy, List.mem_filter, mem_keys_byKey, Bool.not_eq_true', ← Bool.not_eq_true,
    contains_byKey]

theorem keysBeyond_eq_nil (key : State → String) (items others : List State) :
    keysBeyond (byKey key items) (byKey key others) = [] ↔
      ∀ name, name ∈ items.map key → name ∈ others.map key := by
  rw [List.eq_nil_iff_forall_not_mem]
  simp only [mem_keysBeyond, not_and, not_not]

theorem keysChanged_eq_nil (key : State → String) (items others : List State) :
    keysChanged (byKey key items) (byKey key others) = [] ↔
      ∀ name a b, Dict.get? (byKey key items) name = some a →
        Dict.get? (byKey key others) name = some b → pyEq (.dict a) (.dict b) = true := by
  have distinct := nodup_byKey key items
  rw [List.eq_nil_iff_forall_not_mem]
  unfold keysChanged
  simp only [mem_sortBy, List.mem_map, List.mem_filter, not_exists, not_and]
  constructor
  · intro none name a b found found'
    by_contra differ
    rw [Bool.not_eq_true] at differ
    refine none name (name, a) ⟨(Dict.get?_eq_some distinct).mp found, ?_⟩ rfl
    simp [found', differ]
  · rintro all name entry ⟨member, differs⟩ -
    cases found' : Dict.get? (byKey key others) entry.1 with
    | none => simp [found'] at differs
    | some b =>
        have same := all entry.1 entry.2 b ((Dict.get?_eq_some distinct).mpr member) found'
        simp [found', same] at differs

/-! ### Dumps -/

section

variable (definition first second : StoredDefinition)

private theorem mapM_dicts {α : Type} (items : List α) (fields : α → State) :
    (items.map fun item => Value.dict (fields item)).mapM Value.asDict? =
      some (items.map fields) := by
  induction items with
  | nil => rfl
  | cons item items ih =>
      rw [List.map_cons, List.mapM_cons, ih]
      rfl

theorem itemsOf_nodes : itemsOf definition.dump "nodes" =
    some (definition.nodes.map NodeDump.fields) := mapM_dicts definition.nodes NodeDump.fields

theorem itemsOf_edges : itemsOf definition.dump "edges" = some (definition.edges.map edgeDump) :=
  mapM_dicts definition.edges edgeDump

theorem nodeKey_dump (node : NodeDump) : nodeKey node.fields = node.id := by
  rw [nodeKey, node.own]
  rfl

theorem nodeKeys_dump : (definition.nodes.map NodeDump.fields).map nodeKey =
    definition.nodes.map NodeDump.id := by
  rw [List.map_map]
  exact List.map_congr_left fun node _ => nodeKey_dump node

theorem edgeKeys_dump : (definition.edges.map edgeDump).map edgeKey =
    definition.edges.map EdgeDefinition.endpoints := by
  rw [List.map_map]
  rfl

theorem node?_eq (id : String) : definition.node? id =
    Dict.get? (byKey nodeKey (definition.nodes.map NodeDump.fields)) id := by
  rw [get?_byKey, List.filter_map, List.getLast?_map, StoredDefinition.node?]
  congr 2
  exact List.filter_congr fun node _ => by simp [nodeKey_dump]

theorem node?_isSome (id : String) :
    (definition.node? id).isSome = true ↔ id ∈ definition.nodes.map NodeDump.id := by
  rw [node?_eq, ← nodeKeys_dump]
  exact contains_byKey nodeKey (definition.nodes.map NodeDump.fields) id

theorem sameNodes_iff : first.SameNodes second ↔
    (∀ id, id ∈ first.nodes.map NodeDump.id ↔ id ∈ second.nodes.map NodeDump.id) ∧
      ∀ id a b, first.node? id = some a → second.node? id = some b →
        pyEq (.dict a) (.dict b) = true := by
  constructor
  · intro same
    constructor
    · intro id
      rw [← node?_isSome, ← node?_isSome]
      have related := same id
      generalize first.node? id = a at related ⊢
      generalize second.node? id = b at related ⊢
      cases related with
      | none => exact .rfl
      | some _ => exact .rfl
    · intro id a b found found'
      have related := same id
      rw [found, found'] at related
      cases related with
      | some equal => exact equal
  · rintro ⟨ids, equal⟩ id
    have present := ids id
    rw [← node?_isSome, ← node?_isSome] at present
    cases found : first.node? id with
    | none =>
        cases found' : second.node? id with
        | none => exact .none
        | some b => simp [found, found'] at present
    | some a =>
        cases found' : second.node? id with
        | none => simp [found, found'] at present
        | some b => exact .some (equal id a b found found')

end

section

variable {store : VersionStore} {fromVersion toVersion : Int} {vFrom vTo : WorkflowVersion}
  {first second : StoredDefinition}

theorem diff_eq (found : VersioningService.getVersion fromVersion store = .ok vFrom)
    (found' : VersioningService.getVersion toVersion store = .ok vTo)
    (holds : vFrom.definition = first.dump) (holds' : vTo.definition = second.dump) :
    VersioningService.diff fromVersion toVersion store =
      .ok
        { fromVersion, toVersion
          nodesAdded := keysBeyond (byKey nodeKey (second.nodes.map NodeDump.fields))
            (byKey nodeKey (first.nodes.map NodeDump.fields))
          nodesRemoved := keysBeyond (byKey nodeKey (first.nodes.map NodeDump.fields))
            (byKey nodeKey (second.nodes.map NodeDump.fields))
          nodesChanged := keysChanged (byKey nodeKey (first.nodes.map NodeDump.fields))
            (byKey nodeKey (second.nodes.map NodeDump.fields))
          edgesAdded := keysBeyond (byKey edgeKey (second.edges.map edgeDump))
            (byKey edgeKey (first.edges.map edgeDump))
          edgesRemoved := keysBeyond (byKey edgeKey (first.edges.map edgeDump))
            (byKey edgeKey (second.edges.map edgeDump))
          metadataFrom := .dict first.metadata
          metadataTo := .dict second.metadata } := by
  unfold VersioningService.diff
  rw [found, found']
  dsimp only
  rw [holds, holds', itemsOf_nodes, itemsOf_nodes, itemsOf_edges, itemsOf_edges]
  rfl

private theorem replayed (key : State → String) (items others : List State) (name : String) :
    name ∈ others.map key ↔
      (name ∈ items.map key ∧ name ∉ keysBeyond (byKey key items) (byKey key others)) ∨
        name ∈ keysBeyond (byKey key others) (byKey key items) := by
  rw [mem_keysBeyond, mem_keysBeyond]
  by_cases inItems : name ∈ items.map key <;> simp [inItems]

private theorem silent_iff (first second : StoredDefinition) :
    (keysBeyond (byKey nodeKey (second.nodes.map NodeDump.fields))
        (byKey nodeKey (first.nodes.map NodeDump.fields)) = [] ∧
      keysBeyond (byKey nodeKey (first.nodes.map NodeDump.fields))
        (byKey nodeKey (second.nodes.map NodeDump.fields)) = [] ∧
      keysChanged (byKey nodeKey (first.nodes.map NodeDump.fields))
        (byKey nodeKey (second.nodes.map NodeDump.fields)) = [] ∧
      keysBeyond (byKey edgeKey (second.edges.map edgeDump))
        (byKey edgeKey (first.edges.map edgeDump)) = [] ∧
      keysBeyond (byKey edgeKey (first.edges.map edgeDump))
        (byKey edgeKey (second.edges.map edgeDump)) = [] ∧
      pyEq (.dict first.metadata) (.dict second.metadata) = true) ↔
    first.SameNodes second ∧ first.SameMetadata second ∧ first.SameEndpoints second := by
  simp only [keysBeyond_eq_nil, keysChanged_eq_nil, nodeKeys_dump, edgeKeys_dump, ← node?_eq,
    sameNodes_iff, StoredDefinition.SameMetadata, StoredDefinition.SameEndpoints]
  constructor
  · rintro ⟨added, removed, changed, edgesAdded, edgesRemoved, metadata⟩
    exact ⟨⟨fun id => ⟨removed id, added id⟩, changed⟩, metadata,
      fun endpoints => ⟨edgesRemoved endpoints, edgesAdded endpoints⟩⟩
  · rintro ⟨⟨ids, changed⟩, metadata, endpoints⟩
    exact ⟨fun id => (ids id).mpr, fun id => (ids id).mp, changed, fun name => (endpoints name).mpr,
      fun name => (endpoints name).mp, metadata⟩

/-- A diff is faithful unless two definitions differ in nothing but their edges, and there in
nothing but conditions, priorities and how many edges join the same nodes. -/
theorem diff_faithful_iff (store : VersionStore) (fromVersion toVersion : Int)
    (vFrom vTo : WorkflowVersion) (first second : StoredDefinition)
    (found : VersioningService.getVersion fromVersion store = .ok vFrom)
    (found' : VersioningService.getVersion toVersion store = .ok vTo)
    (holds : vFrom.definition = first.dump) (holds' : vTo.definition = second.dump) :
    ∃ diff, VersioningService.diff fromVersion toVersion store = .ok diff ∧
      (diff.Faithful first second ↔
        (first.SameNodes second → first.SameMetadata second → first.SameEndpoints second →
          first.edges.Perm second.edges)) := by
  refine ⟨_, diff_eq found found' holds holds', ?_, ?_⟩
  · rintro ⟨silent, -, -⟩ nodes metadata endpoints
    exact (silent.mp ((silent_iff first second).mpr ⟨nodes, metadata, endpoints⟩)).2.1
  · intro edges
    refine ⟨?_, ?_, ?_⟩
    · refine (silent_iff first second).trans ⟨?_, ?_⟩
      · rintro ⟨nodes, metadata, endpoints⟩
        exact ⟨nodes, edges nodes metadata endpoints, metadata⟩
      · rintro ⟨nodes, perm, metadata⟩
        exact ⟨nodes, metadata, fun _ => (perm.map EdgeDefinition.endpoints).mem_iff⟩
    · intro id
      have all := replayed nodeKey (first.nodes.map NodeDump.fields)
        (second.nodes.map NodeDump.fields) id
      rwa [nodeKeys_dump, nodeKeys_dump] at all
    · intro name
      have all := replayed edgeKey (first.edges.map edgeDump) (second.edges.map edgeDump) name
      rwa [edgeKeys_dump, edgeKeys_dump] at all

private def joined (condition : Option String) : StoredDefinition where
  nodes := []
  edges := [{ sourceNodeId := "a", targetNodeId := "b", condition, priority := 0 }]
  metadata := []

private def joinedStore : VersionStore where
  workflow := none
  versions :=
    [{ version := 2, definition := (joined none).dump, changedBy := "actor", comment := none },
      { version := 3, definition := (joined (some "ok")).dump, changedBy := "actor", comment := none }]
  archive := []

theorem diff_same : ∃ diff, VersioningService.diff 2 2 joinedStore = .ok diff ∧
    (diff.Faithful (joined none) (joined none) ↔
      ((joined none).SameNodes (joined none) → (joined none).SameMetadata (joined none) →
        (joined none).SameEndpoints (joined none) → (joined none).edges.Perm (joined none).edges)) :=
  diff_faithful_iff joinedStore 2 2 _ _ (joined none) (joined none) rfl rfl rfl rfl

/-- The condition of an edge has changed, and no difference is reported. -/
theorem condition_change_unreported : ∃ diff, VersioningService.diff 2 3 joinedStore = .ok diff ∧
    diff.nodesAdded = [] ∧ diff.nodesRemoved = [] ∧ diff.nodesChanged = [] ∧
    diff.edgesAdded = [] ∧ diff.edgesRemoved = [] ∧
    pyEq diff.metadataFrom diff.metadataTo = true ∧
    ¬ (joined none).edges.Perm (joined (some "ok")).edges ∧
    ¬ diff.Faithful (joined none) (joined (some "ok")) := by
  have differ : ¬ (joined none).edges.Perm (joined (some "ok")).edges := by
    intro perm
    have same := List.singleton_perm_singleton.mp perm
    cases same
  refine ⟨_, diff_eq rfl rfl rfl rfl, by decide +kernel, by decide +kernel, by decide +kernel,
    by decide +kernel, by decide +kernel, by decide +kernel, differ, ?_⟩
  intro faithful
  exact differ (faithful.silent.mp ⟨by decide +kernel, by decide +kernel, by decide +kernel,
    by decide +kernel, by decide +kernel, by decide +kernel⟩).2.1

end

end SyndicateClaw.Services
