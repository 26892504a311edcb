import SyndicateClaw.Data.Traversal
import SyndicateClaw.Memory.ServiceSteps

/-! The calls of `MemoryService` that only read, with nothing between their steps. -/

namespace SyndicateClaw.Memory

open Orchestrator

/-- `_check_access_policy`, by what it looks at. -/
def policyAdmits (accessPolicy owner actor : String) : Bool :=
  if accessPolicy = "default" then true
  else if accessPolicy = "owner_only" then actor = owner
  else if accessPolicy = "system_only" then actor.startsWith "system:"
  else if accessPolicy = "restricted" then actor = owner
  else false

/-- The unique constraint of `memory_records`. -/
def UniqueKeys (rows : List MemoryRow) : Prop :=
  ∀ row ∈ rows, ∀ other ∈ rows, other.namespaceName = row.namespaceName → other.key = row.key →
    other = row

/-- What a turn of `read` returns, or will return once the cache is filled. -/
def MemoryTurn.returned : MemoryTurn → Option MemoryRecord
  | .answered record => record
  | .found _ _ record => some record
  | _ => none

namespace MemoryWorld

variable (service : MemoryService) (world : MemoryWorld) (namespaceName key actor : String)

/-- `read`: the lookup in the cache, the query, and the filling of the cache. -/
def read : MemoryWorld × MemoryTurn :=
  (fun call => call.2.advance service call.1)^[3] (world, .called (.read namespaceName key actor))

/-- `read` without a Redis client. -/
def readUncached : Option MemoryRecord := (world.readRow namespaceName key actor).returned

def live (row : MemoryRow) : Bool :=
  row.deletionStatus = .active && row.expiresAt.all (world.clock < ·)

/-- `search`, with the filters as one test; `none` where a row cannot be read. -/
def search (isMatch : MemoryRecord → Bool) (includeExpired : Bool) : Option (List MemoryRecord) := do
  let rows := (world.getByNamespace namespaceName).filter fun row => includeExpired || world.live row
  let records ← rows.mapM dbToDomain
  return records.filter fun record =>
    (includeExpired ||
      record.deletionStatus = .active && !record.expiresAt.any (· ≤ world.clock)) &&
    isMatch record && checkAccessPolicy record actor

end MemoryWorld

/-! ### Lineage -/

inductive LineageError where
  -- A row on the way is no record of the domain.
  | validation
  -- The recursion went deeper than it may.
  | recursion
  deriving DecidableEq

def readLineage (row : MemoryRow) : Except LineageError MemoryRecord :=
  match dbToDomain row with
  | none => .error .validation
  | some record => .ok record

def MemoryRecord.parents (record : MemoryRecord) : List String := record.lineage.parentIds

/-- `get_lineage`, where `_walk_lineage` may call itself to this depth. -/
def getLineage (records : MemoryTable) (depth : Nat) (recordId : String) :
    Except LineageError (List MemoryRecord) :=
  (records.descend readLineage MemoryRecord.parents .recursion depth {} recordId).map
    Keyed.Descent.chain

theorem readLineage_ok {row : MemoryRow} {record : MemoryRecord} :
    readLineage row = .ok record ↔ dbToDomain row = some record := by
  unfold readLineage
  cases dbToDomain row with
  | none => simp
  | some record => simp

theorem getLineage_ok {records : MemoryTable} {depth : Nat} {recordId : String}
    {chain : List MemoryRecord} : getLineage records depth recordId = .ok chain ↔
      ∃ after, records.descend readLineage MemoryRecord.parents .recursion depth {} recordId =
        .ok after ∧ after.chain = chain := by
  unfold getLineage
  cases records.descend readLineage MemoryRecord.parents .recursion depth {} recordId with
  | error error => simp [Except.map]
  | ok after => simp [Except.map]

variable {service : MemoryService} {world : MemoryWorld} {namespaceName key actor : String}
  {row : MemoryRow} {record : MemoryRecord}

theorem mem_mapM {α β : Type} {f : α → Option β} {xs : List α} {ys : List β}
    (read : xs.mapM f = some ys) {y : β} : y ∈ ys ↔ ∃ x ∈ xs, f x = some y := by
  induction xs generalizing ys with
  | nil =>
      obtain rfl := Option.some.inj read
      simp
  | cons x xs ih =>
      rw [List.mapM_cons] at read
      obtain ⟨first, one, read⟩ := Option.bind_eq_some_iff.mp read
      obtain ⟨rest, others, same⟩ := Option.bind_eq_some_iff.mp read
      obtain rfl := Option.some.inj same
      rw [List.mem_cons, ih others]
      simp [one, eq_comm]

theorem checkAccessPolicy_eq (record : MemoryRecord) (actor : String) :
    checkAccessPolicy record actor = policyAdmits record.accessPolicy record.actor actor := rfl

theorem getByKey_of_only (member : row ∈ world.records.rows)
    (only : ∀ other ∈ world.records.rows, other.namespaceName = row.namespaceName →
      other.key = row.key → other = row) :
    world.getByKey row.namespaceName row.key = some row := by
  unfold MemoryWorld.getByKey
  cases found : world.records.rows.find? fun other =>
      other.namespaceName = row.namespaceName ∧ other.key = row.key with
  | none => simpa using List.find?_eq_none.mp found row member
  | some other =>
      have named : other.namespaceName = row.namespaceName ∧ other.key = row.key := by
        simpa using List.find?_some found
      exact congrArg some (only other (List.mem_of_find?_eq_some found) named.1 named.2)

theorem getByKey_of_unique (unique : UniqueKeys world.records.rows)
    (member : row ∈ world.records.rows) :
    world.getByKey row.namespaceName row.key = some row :=
  getByKey_of_only member (unique row member)

theorem returned_read : (world.read service namespaceName key actor).2.returned =
    match world.cached (cacheKey namespaceName key) with
    | some record => answerFor actor record
    | none => world.readUncached namespaceName key actor := by
  unfold MemoryWorld.read MemoryWorld.readUncached
  simp only [Function.iterate_succ, Function.iterate_zero, Function.comp_apply, id_eq,
    MemoryTurn.advance]
  cases world.cached (cacheKey namespaceName key) with
  | some record => rfl
  | none =>
      rcases readRow_cases world namespaceName key actor with
        absent | invalid | ⟨record, ⟨found, _⟩ | answered, _⟩
      · simp [absent]
      · simp [invalid]
      · simp [found, MemoryTurn.returned]
      · simp [answered]

theorem mem_search {isMatch : MemoryRecord → Bool} {includeExpired : Bool}
    {records : List MemoryRecord}
    (found : world.search namespaceName actor isMatch includeExpired = some records) :
    record ∈ records ↔ ∃ row ∈ world.records.rows, row.namespaceName = namespaceName ∧
      dbToDomain row = some record ∧ (includeExpired = true ∨ world.live row = true) ∧
      isMatch record = true ∧ checkAccessPolicy record actor = true := by
  unfold MemoryWorld.search at found
  obtain ⟨read, rows, same⟩ := Option.bind_eq_some_iff.mp found
  obtain rfl := Option.some.inj same
  have again (row : MemoryRow) (decoded : dbToDomain row = some record)
      (lives : world.live row = true) :
      (record.deletionStatus = .active && !record.expiresAt.any (· ≤ world.clock)) = true := by
    obtain ⟨_, _, _, _, _, _, expires, status, _⟩ := dbToDomain_some decoded
    unfold MemoryWorld.live at lives
    rw [status, expires]
    cases expiry : row.expiresAt <;> simp_all
  rw [List.mem_filter, mem_mapM rows]
  unfold MemoryWorld.getByNamespace
  simp only [List.mem_filter, decide_eq_true_eq, Bool.or_eq_true, Bool.and_eq_true]
  constructor
  · rintro ⟨⟨row, ⟨⟨stored, named⟩, kept⟩, decoded⟩, ⟨_, isMatch⟩, allowed⟩
    exact ⟨row, stored, named, decoded, kept, isMatch, allowed⟩
  · rintro ⟨row, stored, named, decoded, kept, isMatch, allowed⟩
    refine ⟨⟨row, ⟨⟨stored, named⟩, kept⟩, decoded⟩, ⟨?_, isMatch⟩, allowed⟩
    rcases kept with all | lives
    · exact .inl all
    · exact .inr (by simpa using again row decoded lives)

theorem readUncached_eq_some : world.readUncached namespaceName key actor = some record ↔
    ∃ row, world.getByKey namespaceName key = some row ∧ dbToDomain row = some record ∧
      world.live row = true ∧ checkAccessPolicy record actor = true := by
  unfold MemoryWorld.readUncached MemoryWorld.readRow
  cases world.getByKey namespaceName key with
  | none => simp [MemoryTurn.returned]
  | some row =>
      cases decoded : dbToDomain row with
      | none => simp [MemoryTurn.returned, decoded]
      | some stored =>
          obtain ⟨_, _, _, _, _, _, expires, status, _⟩ := dbToDomain_some decoded
          have lives : world.live row = true ↔ stored.deletionStatus = .active ∧
              ¬ stored.expiresAt.any (· ≤ world.clock) = true := by
            unfold MemoryWorld.live
            rw [status, expires]
            cases row.expiresAt with
            | none => simp
            | some expiry => simp
          simp only [Option.some.injEq, exists_eq_left', decoded, lives]
          split_ifs with inactive expired denied shared
          · simp [MemoryTurn.returned, inactive]
          · simp [MemoryTurn.returned, expired]
          · simp only [MemoryTurn.returned, reduceCtorEq, false_iff]
            rintro ⟨rfl, _, allowed⟩
            rw [denied] at allowed
            cases allowed
          all_goals
            simp only [MemoryTurn.returned, Option.some.injEq]
            constructor
            · rintro rfl
              exact ⟨rfl, ⟨not_not.mp inactive, expired⟩, by simpa using denied⟩
            · exact fun same => same.1

end SyndicateClaw.Memory
