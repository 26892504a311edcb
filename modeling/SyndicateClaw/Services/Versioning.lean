import SyndicateClaw.Approval.Races
import SyndicateClaw.Data.Numbered

/-! Workflow definitions and their versions: `VersioningService`, and the routes that write
definitions. -/

namespace SyndicateClaw.Services

open Orchestrator
open Approval (changed)

structure WorkflowDefinitionRow where
  name : String
  description : Option String
  owner : String
  namespaceName : String
  nodes : Value
  edges : Value
  metadata : Value
  currentVersion : Nat
  updatedBy : Option String

/-- A row of `workflow_versions` or of `workflow_versions_archive`. -/
structure WorkflowVersion where
  version : Nat
  definition : State
  changedBy : String
  comment : Option String

structure VersionStore where
  workflow : Option WorkflowDefinitionRow
  versions : List WorkflowVersion
  archive : List WorkflowVersion

/-- The version that `create_version` adds. -/
def WorkflowDefinitionRow.added (wf : WorkflowDefinitionRow) (definition : State) (actor : String)
    (comment : Option String) : WorkflowVersion where
  version := wf.currentVersion + 1
  definition
  changedBy := actor
  comment

/-- The row as `create_version` sets it. -/
def WorkflowDefinitionRow.next (wf : WorkflowDefinitionRow) (definition : State)
    (actor : String) : WorkflowDefinitionRow :=
  { wf with
    currentVersion := wf.currentVersion + 1
    updatedBy := some actor
    nodes := (Dict.get? definition "nodes").getD wf.nodes
    edges := (Dict.get? definition "edges").getD wf.edges
    metadata := (Dict.get? definition "metadata").getD wf.metadata }

inductive VersionError where
  | notFound (message : String)
  deriving DecidableEq

namespace VersioningService

def versionCap : Nat := 100

/-- `_enforce_version_cap` -/
def enforceVersionCap (store : VersionStore) : VersionStore :=
  let count := store.versions.length
  if count ≤ versionCap then store
  else
    let rows := (sortBy WorkflowVersion.version store.versions).take (count - versionCap)
    { store with
      archive := store.archive ++ rows
      versions := store.versions.filter fun row => row.version ∉ rows.map WorkflowVersion.version }

/-- `create_version`: one transaction, on the locked row of the workflow. -/
def createVersion (definition : State) (actor : String) (comment : Option String)
    (store : VersionStore) : Except VersionError (Nat × VersionStore) :=
  match store.workflow with
  | none => .error (.notFound "workflow not found")
  | some wf =>
      .ok
        (wf.currentVersion + 1,
          enforceVersionCap
            { store with
              versions := store.versions ++ [wf.added definition actor comment]
              workflow := some (wf.next definition actor) })

def getVersion (version : Int) (store : VersionStore) : Except VersionError WorkflowVersion :=
  match store.versions.find? fun row => (row.version : Int) = version with
  | some row => .ok row
  | none => .error (.notFound "version not found")

end VersioningService

def VersionStore.history (store : VersionStore) : List WorkflowVersion :=
  store.archive ++ store.versions

theorem VersioningService.enforceVersionCap_eq {store : VersionStore} {first : Nat}
    (numbered : Numbered WorkflowVersion.version first store.versions) :
    enforceVersionCap store =
      { store with
        archive := store.archive ++ store.versions.take (store.versions.length - versionCap)
        versions := store.versions.drop (store.versions.length - versionCap) } := by
  unfold enforceVersionCap
  dsimp only
  split
  · next within =>
      rw [Nat.sub_eq_zero_of_le within, List.take_zero, List.drop_zero, List.append_nil]
  · rw [numbered.sorted, numbered.without]

/-- The versions from the second on are all there, the newest hundred in the table. -/
structure VersionStore.Kept (store : VersionStore) (wf : WorkflowDefinitionRow) : Prop where
  numbered : Numbered WorkflowVersion.version 2 store.history
  current : wf.currentVersion = store.history.length + 1
  capped : store.versions.length = min VersioningService.versionCap store.history.length

section

variable {store later : VersionStore} {wf : WorkflowDefinitionRow} {definition : State}
  {actor : String} {comment : Option String} {version : Nat}

theorem VersionStore.Kept.versions (kept : store.Kept wf) :
    Numbered WorkflowVersion.version (2 + store.archive.length) store.versions := by
  have rest := kept.numbered.drop store.archive.length
  rwa [VersionStore.history, List.drop_left] at rest

theorem VersionStore.Kept.createVersion (kept : store.Kept wf)
    (present : store.workflow = some wf)
    (done : VersioningService.createVersion definition actor comment store = .ok (version, later)) :
    later.workflow = some (wf.next definition actor) ∧
      later.history = store.history ++ [wf.added definition actor comment] ∧
      later.Kept (wf.next definition actor) := by
  have length : store.history.length = store.archive.length + store.versions.length :=
    List.length_append
  have current := kept.current
  have capped := kept.capped
  have grown : Numbered WorkflowVersion.version (2 + store.archive.length)
      (store.versions ++ [wf.added definition actor comment]) := by
    apply kept.versions.snoc
    show wf.currentVersion + 1 = _
    omega
  unfold VersioningService.createVersion at done
  rw [present] at done
  dsimp only at done
  rw [VersioningService.enforceVersionCap_eq grown] at done
  obtain ⟨-, rfl⟩ := Prod.mk.inj (Except.ok.inj done)
  have history : ∀ k, (store.archive ++
      (store.versions ++ [wf.added definition actor comment]).take k) ++
        (store.versions ++ [wf.added definition actor comment]).drop k =
      store.history ++ [wf.added definition actor comment] := by
    intro k
    rw [List.append_assoc, List.take_append_drop, VersionStore.history, List.append_assoc]
  refine ⟨rfl, history _, ?_, ?_, ?_⟩
  · rw [VersionStore.history, history]
    apply kept.numbered.snoc
    show wf.currentVersion + 1 = _
    omega
  · rw [VersionStore.history, history, List.length_append, List.length_singleton, ← current]
    rfl
  · rw [VersionStore.history, history]
    simp only [List.length_drop, List.length_append, List.length_singleton] at *
    unfold VersioningService.versionCap at *
    omega

theorem VersionStore.Kept.getVersion_ok (kept : store.Kept wf) (requested : Int) :
    (∃ row, VersioningService.getVersion requested store = .ok row) ↔
      2 ≤ requested ∧ requested ≤ wf.currentVersion ∧ (wf.currentVersion : Int) < requested + 100 := by
  have length : store.history.length = store.archive.length + store.versions.length :=
    List.length_append
  have current := kept.current
  have capped := kept.capped
  have found : (∃ row, VersioningService.getVersion requested store = .ok row) ↔
      ∃ row ∈ store.versions, (row.version : Int) = requested := by
    unfold VersioningService.getVersion
    cases search : store.versions.find? fun row => (row.version : Int) = requested with
    | none => simpa using search
    | some row =>
        have same : (row.version : Int) = requested := by simpa using List.find?_some search
        exact ⟨fun _ => ⟨row, List.mem_of_find?_eq_some search, same⟩, fun _ => ⟨row, rfl⟩⟩
  rw [found]
  unfold VersioningService.versionCap at capped
  constructor
  · intro stored
    obtain ⟨row, member, same⟩ := stored
    have inside := kept.versions.mem.mp ⟨row, member, rfl⟩
    omega
  · intro inside
    have stored : ∃ row ∈ store.versions, row.version = requested.toNat := by
      apply kept.versions.mem.mpr
      omega
    obtain ⟨row, member, same⟩ := stored
    exact ⟨row, member, by omega⟩

theorem VersionStore.Kept.getVersion_current (kept : store.Kept wf) (row : WorkflowVersion) :
    VersioningService.getVersion wf.currentVersion store = .ok row ↔
      store.history.getLast? = some row := by
  have length : store.history.length = store.archive.length + store.versions.length :=
    List.length_append
  have current := kept.current
  have capped := kept.capped
  unfold VersioningService.versionCap at capped
  have found : ∀ row, VersioningService.getVersion wf.currentVersion store = .ok row →
      row ∈ store.versions ∧ row.version = wf.currentVersion := by
    intro row done
    unfold VersioningService.getVersion at done
    cases search : store.versions.find? fun row => (row.version : Int) = wf.currentVersion with
    | none =>
        rw [search] at done
        cases done
    | some first =>
        rw [search] at done
        obtain rfl := Except.ok.inj done
        have same : (first.version : Int) = wf.currentVersion := by
          simpa using List.find?_some search
        exact ⟨List.mem_of_find?_eq_some search, Int.ofNat_inj.mp same⟩
  cases List.eq_nil_or_concat store.versions with
  | inl empty =>
      have none : store.history = [] := by
        apply List.eq_nil_of_length_eq_zero
        rw [empty] at length capped
        simp only [List.length_nil] at length capped
        omega
      rw [none]
      constructor
      · intro done
        have member := (found row done).1
        rw [empty] at member
        cases member
      · intro last
        cases last
  | inr split =>
      obtain ⟨older, last, split⟩ := split
      rw [List.concat_eq_append] at split
      have numbered := kept.versions
      have distinct := numbered.nodup
      rw [split] at numbered
      have grown : store.versions.length = older.length + 1 := by
        rw [split, List.length_append, List.length_singleton]
      have newest : last.version = wf.currentVersion := by
        have number := numbered.last
        omega
      have inside : 2 ≤ (wf.currentVersion : Int) := by omega
      have member : last ∈ store.versions := by
        rw [split]
        exact List.mem_append_right older List.mem_cons_self
      have latest : store.history.getLast? = some last := by
        rw [VersionStore.history, split, ← List.append_assoc, List.getLast?_concat]
      rw [latest]
      constructor
      · intro done
        obtain ⟨stored, number⟩ := found row done
        exact congrArg some
          (List.inj_on_of_nodup_map distinct member stored (newest.trans number.symm))
      · intro same
        obtain rfl := Option.some.inj same
        obtain ⟨first, done⟩ := (kept.getVersion_ok wf.currentVersion).mpr
          ⟨inside, le_refl _, by omega⟩
        obtain ⟨stored, number⟩ := found first done
        rw [List.inj_on_of_nodup_map distinct member stored (newest.trans number.symm)]
        exact done

end

/-! ### Routes -/

structure UpdateWorkflowRequest where
  name : Option String
  description : Option String
  nodes : Option Value
  edges : Option Value
  metadata : Option Value
  comment : Option String

/-- The workflow as `update_workflow` sets it, over the row that it has read. -/
def UpdateWorkflowRequest.apply (body : UpdateWorkflowRequest) (wf : WorkflowDefinitionRow) :
    WorkflowDefinitionRow :=
  { wf with
    name := body.name.getD wf.name
    description := body.description <|> wf.description
    nodes := body.nodes.getD wf.nodes
    edges := body.edges.getD wf.edges
    metadata := body.metadata.getD wf.metadata }

def WorkflowDefinitionRow.definition (wf : WorkflowDefinitionRow) : State :=
  [("nodes", wf.nodes), ("edges", wf.edges), ("metadata", wf.metadata)]

/-- The flush of `update_workflow`: the columns that have changed since the row was read are
set. -/
def WorkflowDefinitionRow.save (seen new current : WorkflowDefinitionRow) :
    WorkflowDefinitionRow :=
  { current with
    name := changed seen.name new.name current.name
    description := changed seen.description new.description current.description
    nodes := changed seen.nodes new.nodes current.nodes
    edges := changed seen.edges new.edges current.edges
    metadata := changed seen.metadata new.metadata current.metadata }

structure CreateWorkflowRequest where
  name : String
  description : String
  nodes : Value
  edges : Value
  metadata : Value

/-- The row that `create_workflow` inserts; no version of it is stored. -/
def createWorkflow (body : CreateWorkflowRequest) (actor namespaceName : String) :
    WorkflowDefinitionRow where
  name := body.name
  description := some body.description
  owner := actor
  namespaceName
  nodes := body.nodes
  edges := body.edges
  metadata := body.metadata
  currentVersion := 1
  updatedBy := some actor

end SyndicateClaw.Services
