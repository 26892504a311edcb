import SyndicateClaw.Api.MemoryRoutes
import SyndicateClaw.Memory.Reads

/-! The memory routes that read. -/

namespace SyndicateClaw.Memory

/-- `MemoryType.value` -/
def MemoryType.text : MemoryType → String
  | .episodic => "EPISODIC"
  | .semantic => "SEMANTIC"
  | .structured => "STRUCTURED"

end SyndicateClaw.Memory

namespace SyndicateClaw.Api

open Memory Orchestrator

def shownMemory (actor : String) (row : MemoryRow) : Except MemoryError MemoryRow :=
  match dbToDomain row with
  | none => .error .validation
  | some record => if checkAccessPolicy record actor then .ok row else .error notFoundMemory

/-- `read_memory`; the unique constraint leaves one row of the namespace and the key. -/
def readMemory (records : MemoryTable) (namespaceName key actor : String) :
    Except MemoryError MemoryRow :=
  match records.rows.find? fun row =>
      row.namespaceName = namespaceName ∧ row.key = key ∧ row.deletionStatus = .active with
  | none => .error notFoundMemory
  | some row => shownMemory actor row

/-- `search_memory`, over the rows in the order in which the database scans them. -/
def searchMemory (scan : List MemoryRow) (namespaceName : String) (memoryType : Option String)
    (offset limit : Nat) (actor : String) : Except MemoryError (List MemoryRow) :=
  let rows := ((scan.filter fun row =>
    row.namespaceName = namespaceName && row.deletionStatus = .active &&
      memoryType.all fun text => text = "" || row.memoryType.text = text).drop offset).take limit
  match rows.mapM fun row => (dbToDomain row).map (row, ·) with
  | none => .error .validation
  | some records =>
      .ok ((records.filter fun found => checkAccessPolicy found.2 actor).map Prod.fst)

/-! ### Lineage -/

/-- An id among the parents of a row: null is no key, and what is no text fails. -/
def parentId : Value → Except MemoryError (Option String)
  | .none => .ok none
  | .str text => .ok (some text)
  | _ => .error .validation

/-- `lineage.get("parent_ids", [])`, as it is gone through. -/
def parentIds (row : MemoryRow) : Except MemoryError (List String) :=
  match Dict.get? row.lineage "parent_ids" with
  | none => .ok []
  | some (.list items) => (items.mapM parentId).map fun ids => ids.filterMap id
  | some (.str text) => .ok (text.toList.map Char.toString)
  | some (.dict entries) => .ok (entries.map Prod.fst)
  | some _ => .error .validation

/-- `get_memory_lineage` -/
def getMemoryLineage (records : MemoryTable) (recordId actor : String) :
    Except MemoryError (List MemoryRow) := do
  let record ← heldMemory records recordId actor
  let parents ← parentIds record
  let ancestors ← records.walk parentIds parents [recordId]
  return record :: ancestors

section

variable {records : MemoryTable} {namespaceName key actor recordId : String}
  {row : MemoryRow} {record : MemoryRecord}

theorem shownMemory_ok {shown : MemoryRow} : shownMemory actor row = .ok shown ↔
    shown = row ∧ ∃ record, dbToDomain row = some record ∧
      checkAccessPolicy record actor = true := by
  unfold shownMemory
  cases dbToDomain row with
  | none => simp
  | some record =>
      cases allowed : checkAccessPolicy record actor with
      | false => simp [allowed]
      | true =>
          simp only [allowed, if_true, Except.ok.injEq, Option.some.injEq, exists_eq_left', and_true]
          exact eq_comm

/-- The row that `read_memory` shows. -/
theorem readMemory_ok (shown : readMemory records namespaceName key actor = .ok row) :
    row ∈ records.rows ∧ row.deletionStatus = .active ∧ ∃ record, dbToDomain row = some record ∧
      checkAccessPolicy record actor = true := by
  unfold readMemory at shown
  split at shown
  · cases shown
  · next stored found =>
      obtain ⟨rfl, allowed⟩ := shownMemory_ok.mp shown
      have selected := List.find?_some found
      simp only [decide_eq_true_eq] at selected
      exact ⟨List.mem_of_find?_eq_some found, selected.2.2, allowed⟩

/-- The rows that `search_memory` shows. -/
theorem searchMemory_ok {scan rows : List MemoryRow} {memoryType : Option String}
    {offset limit : Nat}
    (shown : searchMemory scan namespaceName memoryType offset limit actor = .ok rows)
    (member : row ∈ rows) :
    row ∈ scan ∧ row.deletionStatus = .active ∧ ∃ record, dbToDomain row = some record ∧
      checkAccessPolicy record actor = true := by
  unfold searchMemory at shown
  dsimp only at shown
  split at shown
  · cases shown
  · next records read =>
      obtain rfl := Except.ok.inj shown
      obtain ⟨found, kept, rfl⟩ := List.mem_map.mp member
      obtain ⟨there, allowed⟩ := List.mem_filter.mp kept
      obtain ⟨source, listed, paired⟩ := (mem_mapM read).mp there
      obtain ⟨record, decoded, rfl⟩ := Option.map_eq_some_iff.mp paired
      have selected := List.mem_filter.mp (List.mem_of_mem_drop (List.mem_of_mem_take listed))
      simp only [Bool.and_eq_true, decide_eq_true_eq] at selected
      exact ⟨selected.1, selected.2.1.2, record, decoded, allowed⟩

/-- What `get_memory_lineage` shows first. -/
theorem heldMemory_ok : heldMemory records recordId actor = .ok row ↔
    records.get? recordId = some row ∧ ∃ record, dbToDomain row = some record ∧
      checkAccessPolicy record actor = true := by
  unfold heldMemory
  cases records.get? recordId with
  | none => simp
  | some stored =>
      dsimp only
      cases decoded : dbToDomain stored with
      | none =>
          simp only [reduceCtorEq, Option.some.injEq, false_iff, not_and]
          rintro rfl ⟨record, read, _⟩
          rw [decoded] at read
          cases read
      | some record =>
          dsimp only
          cases allowed : checkAccessPolicy record actor with
          | false =>
              simp only [Bool.false_eq_true, if_false, reduceCtorEq, Option.some.injEq,
                false_iff, not_and]
              rintro rfl ⟨other, read, admits⟩
              rw [decoded] at read
              obtain rfl := Option.some.inj read
              rw [allowed] at admits
              cases admits
          | true =>
              simp only [if_true, Except.ok.injEq, Option.some.injEq, iff_self_and]
              rintro rfl
              exact ⟨record, decoded, allowed⟩

theorem getMemoryLineage_ok {chain : List MemoryRow} :
    getMemoryLineage records recordId actor = .ok chain ↔
      ∃ row parents ancestors, heldMemory records recordId actor = .ok row ∧
        parentIds row = .ok parents ∧
        records.walk parentIds parents [recordId] = .ok ancestors ∧ chain = row :: ancestors := by
  unfold getMemoryLineage
  cases heldMemory records recordId actor with
  | error error => simp [bind, Except.bind]
  | ok row =>
      cases named : parentIds row with
      | error error => simp [bind, Except.bind, named]
      | ok parents =>
          cases walked : records.walk parentIds parents [recordId] with
          | error error => simp [bind, Except.bind, named, walked]
          | ok ancestors => simp [bind, Except.bind, named, walked, pure, Except.pure, eq_comm]

theorem mem_lineage {chain : List MemoryRow}
    (shown : getMemoryLineage records recordId actor = .ok chain) {other : MemoryRow} :
    other ∈ chain ↔ records.Reaches parentIds recordId other := by
  obtain ⟨row, parents, ancestors, held, named, walked, rfl⟩ := getMemoryLineage_ok.mp shown
  have found := (heldMemory_ok.mp held).1
  have own : row.id = recordId := (Keyed.get?_eq_some.mp found).2
  constructor
  · intro member
    rcases List.mem_cons.mp member with rfl | member
    · exact .here found
    · obtain ⟨parent, listed, reaches⟩ := Keyed.reaches_of_walk walked member
      exact .onward found named listed reaches
  · intro reaches
    have one (another : MemoryRow) (stored : records.get? another.id = some another)
        (same : another.id = recordId) : another = row := by
      rw [same, found] at stored
      exact (Option.some.inj stored).symm
    -- The root is visited, and what it names is in the queue.
    have closed : records.Closed parentIds parents [recordId] := by
      intro another stored visited ids mentions id mentioned
      obtain rfl := one another stored (List.mem_singleton.mp visited)
      obtain rfl := Except.ok.inj (named.symm.trans mentions)
      exact .inr mentioned
    rcases Keyed.mem_walk walked closed reaches (.inl List.mem_cons_self) with root | ancestor
    · rw [one other reaches.stored (List.mem_singleton.mp root)]
      exact List.mem_cons_self
    · exact List.mem_cons_of_mem row ancestor

theorem lineage_shown : (∃ chain, getMemoryLineage records recordId actor = .ok chain) ↔
    (∃ row, heldMemory records recordId actor = .ok row) ∧
      ∀ other, records.Reaches parentIds recordId other → ∃ ids, parentIds other = .ok ids := by
  constructor
  · rintro ⟨chain, shown⟩
    obtain ⟨row, parents, ancestors, held, named, walked, rfl⟩ := getMemoryLineage_ok.mp shown
    refine ⟨⟨row, held⟩, ?_⟩
    intro other reaches
    rcases List.mem_cons.mp ((mem_lineage shown).mpr reaches) with rfl | ancestor
    · exact ⟨parents, named⟩
    · exact Keyed.named_of_walk walked ancestor
  · rintro ⟨⟨row, held⟩, readable⟩
    have found := (heldMemory_ok.mp held).1
    obtain ⟨parents, named⟩ := readable row (.here found)
    cases walked : records.walk parentIds parents [recordId] with
    | ok ancestors => exact ⟨_, getMemoryLineage_ok.mpr ⟨row, parents, ancestors, held, named, walked, rfl⟩⟩
    | error error =>
        obtain ⟨parent, listed, other, reaches, refused⟩ := Keyed.reaches_of_walk_error walked
        obtain ⟨ids, fine⟩ := readable other (.onward found named listed reaches)
        rw [refused] at fine
        cases fine

/-! ### The lineage that the service reads -/

/-- What a row names, as `_walk_lineage` reads it. -/
def lineageIds : MemoryRow → Except LineageError (List String) :=
  Keyed.mentioned readLineage MemoryRecord.parents

theorem lineageIds_ok {ids : List String} : lineageIds row = .ok ids ↔
    ∃ record, dbToDomain row = some record ∧ record.parents = ids := by
  unfold lineageIds
  rw [Keyed.mentioned_ok]
  simp only [readLineage_ok]

theorem parentIds_texts (items : List Value) {ids : List String}
    (texts : items.mapM Value.asStr? = some ids) :
    items.mapM parentId = .ok (ids.map some) := by
  induction items generalizing ids with
  | nil =>
      obtain rfl := Option.some.inj texts
      rfl
  | cons item items ih =>
      rw [List.mapM_cons] at texts
      obtain ⟨first, one, texts⟩ := Option.bind_eq_some_iff.mp texts
      obtain ⟨rest, others, same⟩ := Option.bind_eq_some_iff.mp texts
      obtain rfl := Option.some.inj same
      have text : parentId item = .ok (some first) := by
        cases item with
        | str text =>
            obtain rfl := Option.some.inj one
            rfl
        | _ => cases one
      rw [List.mapM_cons, text, ih others]
      rfl

theorem parentIds_of_read (read : dbToDomain row = some record) :
    parentIds row = .ok record.parents := by
  have lineage := dbToDomain_lineage read
  unfold MemoryLineage.ofDict? at lineage
  unfold parentIds MemoryRecord.parents
  cases found : Dict.get? row.lineage "parent_ids" with
  | none =>
      rw [found] at lineage
      simp only [Option.bind_eq_bind, Option.bind_eq_some_iff, Option.pure_def, Option.some.injEq,
        exists_eq_left'] at lineage
      obtain ⟨run, _, node, _, tool, _, method, _, same⟩ := lineage
      rw [← same]
  | some value =>
      rw [found] at lineage
      simp only [Option.bind_eq_bind, Option.bind_eq_some_iff, Option.pure_def, Option.some.injEq]
        at lineage
      obtain ⟨ids, ⟨items, listed, texts⟩, run, _, node, _, tool, _, method, _, same⟩ := lineage
      cases value with
      | list members =>
          obtain rfl := Option.some.inj listed
          simp [parentIds_texts members texts, Except.map, ← same]
      | _ => cases listed

theorem reaches_iff (readable : ∀ other, records.Reaches lineageIds recordId other →
    ∃ record, dbToDomain other = some record) :
    records.Reaches parentIds recordId row ↔ records.Reaches lineageIds recordId row := by
  constructor
  · intro reaches
    apply reaches.transfer
    intro other onward ids named
    obtain ⟨record, read⟩ := readable other onward
    rw [parentIds_of_read read] at named
    exact lineageIds_ok.mpr ⟨record, read, Except.ok.inj named⟩
  · intro reaches
    apply reaches.transfer
    intro other _ ids named
    obtain ⟨record, read, rfl⟩ := lineageIds_ok.mp named
    exact parentIds_of_read read

theorem ids_of_reads {rows : List MemoryRow} {chain : List MemoryRecord}
    (reads : List.Forall₂ (fun row record => readLineage row = .ok record) rows chain) :
    chain.map MemoryRecord.id = rows.map MemoryRow.id := by
  induction reads with
  | nil => rfl
  | cons one _ ih =>
      rw [List.map_cons, List.map_cons, (dbToDomain_some (readLineage_ok.mp one)).1, ih]

end

def lineageRow (id : String) (parents : List String) : MemoryRow where
  id := id
  namespaceName := "team"
  key := id
  value := .int 1
  memoryType := .semantic
  source := some "agent"
  actor := some "ann"
  confidence := some 1
  accessPolicy := "default"
  lineage := [("parent_ids", .list (parents.map .str))]
  ttlSeconds := none
  expiresAt := none
  deletionStatus := .active
  deletedAt := none
  tags := []
  createdAt := 0
  updatedAt := 0

def circledTable : MemoryTable where
  rows := [lineageRow "m1" ["m1", "gone", "m2"], lineageRow "m2" ["m3"], lineageRow "m3" ["m2", "m1"]]
  distinct := by decide

end SyndicateClaw.Api
