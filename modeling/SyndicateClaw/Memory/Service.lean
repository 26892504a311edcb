import SyndicateClaw.Approval.Races
import SyndicateClaw.Async.Crew
import SyndicateClaw.Memory.Records

/-! `MemoryService` over the table of the records and a cache in Redis. A call goes on by one query, one
commit or one command of Redis at a time. -/

namespace SyndicateClaw.Memory

open Approval (changed)
open Async Orchestrator
open Authz (Time)

inductive ServiceError where
  | value (message : String)
  -- The confidence is not between 0.0 and 1.0.
  | confidence (confidence : Rat)
  -- A record of the domain cannot be made of a row.
  | validation
  | integrity
  -- The row that was changed is gone.
  | stale
  | failed

structure MemoryService where
  maxValueBytes : Nat := 1048576
  maxKeyLength : Nat := 256
  maxNamespaceLength : Nat := 128
  maxNestingDepth : Nat := 20
  schemaRegistry : Option NamespaceSchemaRegistry := none

/-! ### Validation -/

mutual

/-- `_check_nesting_depth` does not raise. -/
def nestsWithin (maxDepth : Nat) : Nat → Value → Bool
  | current, .dict entries => current ≤ maxDepth && entriesNestWithin maxDepth (current + 1) entries
  | current, .list items => current ≤ maxDepth && itemsNestWithin maxDepth (current + 1) items
  | current, _ => current ≤ maxDepth

def itemsNestWithin (maxDepth : Nat) : Nat → List Value → Bool
  | _, [] => true
  | current, item :: items =>
      nestsWithin maxDepth current item && itemsNestWithin maxDepth current items

def entriesNestWithin (maxDepth : Nat) : Nat → List (String × Value) → Bool
  | _, [] => true
  | current, (_, value) :: entries =>
      nestsWithin maxDepth current value && entriesNestWithin maxDepth current entries

end

def validateProvenance (record : MemoryRecord) : Except ServiceError Unit :=
  if record.source = "" then .error (.value "Memory record must have a source")
  else if record.actor = "" then .error (.value "Memory record must have an actor")
  else .ok ()

def validateConfidence (confidence : Rat) : Except ServiceError Unit :=
  if 0 ≤ confidence ∧ confidence ≤ 1 then .ok () else .error (.confidence confidence)

namespace MemoryService

variable (service : MemoryService)

def validateValueBytes (value : Value) : Except ServiceError Unit :=
  if service.maxValueBytes < jsonValueByteSize value then
    .error (.value ("Value too large: " ++ toString (jsonValueByteSize value) ++ " bytes > " ++
      toString service.maxValueBytes ++ " byte limit"))
  else .ok ()

/-- `_validate_write_guardrails` -/
def validateWriteGuardrails (record : MemoryRecord) : Except ServiceError Unit := do
  if service.maxNamespaceLength < record.namespaceName.length then
    throw (.value ("Namespace too long: " ++ toString record.namespaceName.length ++ " > " ++
      toString service.maxNamespaceLength))
  if service.maxKeyLength < record.key.length then
    throw (.value ("Key too long: " ++ toString record.key.length ++ " > " ++
      toString service.maxKeyLength))
  service.validateValueBytes record.value
  match record.value with
  | .dict entries =>
      if nestsWithin service.maxNestingDepth 0 (.dict entries) then return ()
      else throw (.value ("Value nesting depth exceeds maximum of " ++
        toString service.maxNestingDepth))
  | _ => return ()

def validateNamespaceSchema (namespaceName : String) (value : Value) : Except ServiceError Unit :=
  match service.schemaRegistry with
  | none => .ok ()
  | some registry => (registry.validate namespaceName value).mapError .value

/-- What `write` checks, and the record that it stores. -/
def writtenRecord (now : Time) (record : MemoryRecord) : Except ServiceError MemoryRecord := do
  validateProvenance record
  validateConfidence record.confidence
  service.validateWriteGuardrails record
  service.validateNamespaceSchema record.namespaceName record.value
  match record.ttlSeconds, record.expiresAt with
  | some seconds, none =>
      return if seconds = 0 then record
        else { record with expiresAt := some (expiryAfter now seconds) }
  | _, _ => return record

end MemoryService

/-! ### Updates -/

/-- The fields of an update; `others` are those that no update may set. -/
structure MemoryUpdates where
  value : Option Value := none
  confidence : Option Rat := none
  tags : Option (Dict String String) := none
  ttlSeconds : Option (Option Int) := none
  accessPolicy : Option String := none
  others : List String := []

namespace MemoryUpdates

variable (updates : MemoryUpdates)

/-- What `update` reads and refuses. -/
def check (service : MemoryService) (recordId : String) (row : Option MemoryRow) :
    Except ServiceError (MemoryRow × MemoryRecord) := do
  match row with
  | none => throw (.value ("Memory record " ++ Value.quoted recordId ++ " not found"))
  | some row =>
      match dbToDomain row with
      | none => throw .validation
      | some existing =>
          if existing.deletionStatus ≠ .active then
            throw (.value ("Memory record " ++ Value.quoted recordId ++ " is deleted"))
          match updates.others with
          | field :: _ => throw (.value ("Cannot update field " ++ Value.quoted field))
          | [] =>
              match updates.confidence with
              | none => pure ()
              | some confidence => validateConfidence confidence
              match updates.value with
              | none => pure ()
              | some value =>
                  service.validateValueBytes value
                  service.validateNamespaceSchema existing.namespaceName value
              return (row, existing)

def lineageAfter (existing : MemoryRecord) : MemoryLineage :=
  { existing.lineage with
    parentIds :=
      if existing.id ∈ existing.lineage.parentIds then existing.lineage.parentIds
      else existing.lineage.parentIds ++ [existing.id]
    derivationMethod := some "update" }

def expiry (now : Time) : Option Time := (updates.ttlSeconds.bind id).map (expiryAfter now)

def assigned (seen : MemoryRow) : Option Value :=
  updates.value.filter fun value => !Condition.pyEq value seen.value

/-- What the flush makes of the row as it is by then: the columns that have changed since it was
read are set. -/
def flushed (now : Time) (seen : MemoryRow) (existing : MemoryRecord) (row : MemoryRow) : MemoryRow :=
  { row with
    value := (updates.assigned seen).getD row.value
    confidence := updates.confidence.elim row.confidence fun confidence =>
      changed seen.confidence (some confidence) row.confidence
    tags := updates.tags.elim row.tags fun tags => changed seen.tags (tagValues tags) row.tags
    ttlSeconds := updates.ttlSeconds.elim row.ttlSeconds fun seconds =>
      changed seen.ttlSeconds seconds row.ttlSeconds
    accessPolicy := updates.accessPolicy.elim row.accessPolicy fun policy =>
      changed seen.accessPolicy policy row.accessPolicy
    expiresAt := (updates.expiry now).elim row.expiresAt fun expiry =>
      changed seen.expiresAt (some expiry) row.expiresAt
    lineage := changed seen.lineage (lineageAfter existing).modelDump row.lineage
    updatedAt := changed seen.updatedAt now row.updatedAt }

end MemoryUpdates

def softDeleted (now : Time) (seen row : MemoryRow) : MemoryRow :=
  { row with
    deletionStatus := changed seen.deletionStatus .markedForDeletion row.deletionStatus
    deletedAt := changed seen.deletedAt (some now) row.deletedAt
    updatedAt := changed seen.updatedAt now row.updatedAt }

theorem flushed_id (updates : MemoryUpdates) (now : Time) (seen : MemoryRow)
    (existing : MemoryRecord) (row : MemoryRow) :
    (updates.flushed now seen existing row).id = row.id := rfl

theorem softDeleted_id (now : Time) (seen row : MemoryRow) : (softDeleted now seen row).id = row.id :=
  rfl

/-! ### Redis and the table -/

/-- `_cache_key` -/
def cacheKey (namespaceName key : String) : String :=
  "syndicateclaw:memory:" ++ namespaceName ++ ":" ++ key

/-- A record as JSON, which is read back as it was, and the time at which it expires. -/
structure CachedRecord where
  record : MemoryRecord
  expires : Time

structure MemoryWorld where
  records : MemoryTable
  cache : Dict String CachedRecord
  -- The rows that an open transaction has changed.
  locks : List String
  clock : Time

namespace MemoryWorld

variable (world : MemoryWorld)

/-- `GET` -/
def cached (key : String) : Option MemoryRecord :=
  match Dict.get? world.cache key with
  | none => none
  | some entry => if world.clock < entry.expires then some entry.record else none

/-- The seconds that a record is cached for: `record.ttl_seconds or 300`. -/
def ttlOf (record : MemoryRecord) : Int :=
  match record.ttlSeconds with
  | none => 300
  | some seconds => if seconds = 0 then 300 else seconds

/-- `SETEX` -/
def setCached (key : String) (record : MemoryRecord) : MemoryWorld :=
  { world with
    cache := Dict.set world.cache key
      { record, expires := expiryAfter world.clock (ttlOf record) } }

/-- `DEL` -/
def invalidate (key : String) : MemoryWorld := { world with cache := Dict.pop world.cache key }

/-- `get_by_key` -/
def getByKey (namespaceName key : String) : Option MemoryRow :=
  world.records.rows.find? fun row => row.namespaceName = namespaceName ∧ row.key = key

/-- `get_by_namespace`, with the expired rows. -/
def getByNamespace (namespaceName : String) : List MemoryRow :=
  world.records.rows.filter fun row => row.namespaceName = namespaceName

/-- What `purge_expired` deletes. -/
def purgeable (row : MemoryRow) : Bool :=
  row.deletionStatus = .markedForDeletion || row.expiresAt.any (· ≤ world.clock)

def conflicts (row : MemoryRow) : List String :=
  (world.records.rows.filter fun other =>
    other.id = row.id ∨ other.namespaceName = row.namespaceName ∧ other.key = row.key).map
      MemoryRow.id

def unlocked (ids : List String) : Bool := ids.all (· ∉ world.locks)

def remove (ids : List String) : MemoryWorld :=
  { world with records := world.records.filter fun row => row.id ∉ ids }

end MemoryWorld

/-! ### Calls -/

inductive MemoryCall where
  | write (record : MemoryRecord)
  | read (namespaceName key actor : String)
  | update (recordId : String) (updates : MemoryUpdates)
  | delete (recordId : String) (hard : Bool)
  | purgeNamespace (namespaceName : String)
  | enforceRetention

inductive MemoryTurn where
  | called (call : MemoryCall)
  | querying (namespaceName key actor : String)
  -- A record that was read from the table, on the way to the cache.
  | found (namespaceName key : String) (record : MemoryRecord)
  | updating (updates : MemoryUpdates) (seen : MemoryRow) (existing : MemoryRecord) (now : Time)
  | deleting (hard : Bool) (seen : MemoryRow)
  -- The deletion is flushed; then the cache is invalidated as well.
  | unlinking (hard : Bool) (seen : MemoryRow)
  | unlinked (hard : Bool) (seen : MemoryRow)
  | purging (rows : List MemoryRow)
  -- The changes of these records are committed, and these keys are left to be invalidated.
  | settling (touched keys : List String)
  | done (touched : List String)
  | answered (record : Option MemoryRecord)
  | raised (error : ServiceError)

inductive Passage where
  | succeeds
  -- The database fails and the transaction is rolled back, or Redis does and that is logged.
  | fails
  -- The process dies.
  | dies
  deriving DecidableEq

def MemoryTurn.settle (touched : List String) : List String → MemoryTurn
  | [] => .done touched
  | key :: keys => .settling touched (key :: keys)

/-- `return cached` -/
def answerFor (actor : String) (record : MemoryRecord) : Option MemoryRecord :=
  if checkAccessPolicy record actor then some record else none

namespace MemoryWorld

variable (world : MemoryWorld)

/-- `read`, from the query on. -/
def readRow (namespaceName key actor : String) : MemoryTurn :=
  match world.getByKey namespaceName key with
  | none => .answered none
  | some row =>
      match dbToDomain row with
      | none => .raised .validation
      | some record =>
          if record.deletionStatus ≠ .active then .answered none
          else if record.expiresAt.any (· ≤ world.clock) then .answered none
          else if checkAccessPolicy record actor = false then .answered none
          else if record.accessPolicy = "default" then .found namespaceName key record
          else .answered (some record)

/-- `write`, up to its commit; it waits while a row that is in its way is locked. -/
def commitWrite (service : MemoryService) (record : MemoryRecord) : MemoryWorld × MemoryTurn :=
  match service.writtenRecord world.clock record with
  | .error error => (world, .raised error)
  | .ok written =>
      if world.unlocked (world.conflicts (domainToDb written)) = false then
        (world, .called (.write record))
      else if world.conflicts (domainToDb written) ≠ [] then (world, .raised .integrity)
      else if (dbToDomain (domainToDb written)).isNone then (world, .raised .validation)
      else
        ({ world with records := world.records.insert (domainToDb written) },
          .settle [] [cacheKey written.namespaceName written.key])

/-- The flush and the commit of an update; it waits while the row is locked. -/
def commitUpdate (updates : MemoryUpdates) (seen : MemoryRow) (existing : MemoryRecord) (now : Time) :
    MemoryWorld × MemoryTurn :=
  match world.records.get? seen.id with
  | none => (world, .raised .stale)
  | some row =>
      if world.unlocked [row.id] = false then (world, .updating updates seen existing now)
      else match dbToDomain (updates.flushed now seen existing row) with
        | none => (world, .raised .validation)
        | some updated =>
            ({ world with
                records := world.records.changeAt seen.id (updates.flushed now seen existing)
                  (flushed_id updates now seen existing) },
              .settle [seen.id] [cacheKey updated.namespaceName updated.key])

/-- `repo.get` of a deletion. -/
def readDeleted (recordId : String) (hard : Bool) : MemoryTurn :=
  match world.records.get? recordId with
  | none =>
      if hard then .done []
      else .raised (.value ("Memory record " ++ Value.quoted recordId ++ " not found"))
  | some row => if (dbToDomain row).isNone then .raised .validation else .deleting hard row

/-- The flush of a deletion locks the row; a `DELETE` that finds none does not. -/
def flushDelete (hard : Bool) (seen : MemoryRow) : MemoryWorld × MemoryTurn :=
  match world.records.get? seen.id with
  | none =>
      (world, if hard then .settle [] [cacheKey seen.namespaceName seen.key] else .raised .stale)
  | some row =>
      if world.unlocked [row.id] = false then (world, .deleting hard seen)
      else ({ world with locks := seen.id :: world.locks }, .unlinking hard seen)

def commitDelete (hard : Bool) (seen : MemoryRow) : MemoryWorld × MemoryTurn :=
  let released := { world with locks := world.locks.erase seen.id }
  if hard then (released.remove [seen.id], .done [seen.id])
  else
    ({ released with
        records := world.records.changeAt seen.id (softDeleted world.clock seen)
          (softDeleted_id world.clock seen) }, .done [seen.id])

/-- The deletions of `purge_namespace`, and their commit. -/
def commitPurge (rows : List MemoryRow) : MemoryWorld × MemoryTurn :=
  if world.unlocked (rows.map MemoryRow.id) = false then (world, .purging rows)
  else
    (world.remove (rows.map MemoryRow.id),
      .settle (rows.map MemoryRow.id) (rows.map fun row => cacheKey row.namespaceName row.key))

/-- The ids of the rows that `purge_expired` deletes. -/
def purgeableIds : List String := (world.records.rows.filter world.purgeable).map MemoryRow.id

/-- `enforce_retention` -/
def enforceRetention : MemoryWorld × MemoryTurn :=
  if world.unlocked world.purgeableIds = false then (world, .called .enforceRetention)
  else (world.remove world.purgeableIds, .done world.purgeableIds)

end MemoryWorld

def MemoryTurn.locked : MemoryTurn → Option String
  | .unlinking _ seen | .unlinked _ seen => some seen.id
  | _ => none

def MemoryTurn.rollback (world : MemoryWorld) (turn : MemoryTurn) : MemoryWorld × MemoryTurn :=
  ({ world with locks := turn.locked.elim world.locks world.locks.erase }, .raised .failed)

def MemoryTurn.advance (service : MemoryService) (world : MemoryWorld) :
    MemoryTurn → MemoryWorld × MemoryTurn
  | .called (.write record) => world.commitWrite service record
  | .called (.read namespaceName key actor) =>
      match world.cached (cacheKey namespaceName key) with
      | some record => (world, .answered (answerFor actor record))
      | none => (world, .querying namespaceName key actor)
  | .called (.update recordId updates) =>
      match updates.check service recordId (world.records.get? recordId) with
      | .error error => (world, .raised error)
      | .ok (seen, existing) => (world, .updating updates seen existing world.clock)
  | .called (.delete recordId hard) => (world, world.readDeleted recordId hard)
  | .called (.purgeNamespace namespaceName) => (world, .purging (world.getByNamespace namespaceName))
  | .called .enforceRetention => world.enforceRetention
  | .querying namespaceName key actor => (world, world.readRow namespaceName key actor)
  | .found namespaceName key record =>
      (world.setCached (cacheKey namespaceName key) record, .answered (some record))
  | .updating updates seen existing now => world.commitUpdate updates seen existing now
  | .deleting hard seen => world.flushDelete hard seen
  | .unlinking hard seen =>
      (world.invalidate (cacheKey seen.namespaceName seen.key), .unlinked hard seen)
  | .unlinked hard seen => world.commitDelete hard seen
  | .purging rows => world.commitPurge rows
  | .settling touched (key :: keys) => (world.invalidate key, .settle touched keys)
  | .settling touched [] => (world, .done touched)
  | .done touched => (world, .done touched)
  | .answered record => (world, .answered record)
  | .raised error => (world, .raised error)

def MemoryTurn.fail (world : MemoryWorld) : MemoryTurn → MemoryWorld × MemoryTurn
  | .called (.read namespaceName key actor) => (world, .querying namespaceName key actor)
  | .found _ _ record => (world, .answered (some record))
  | .unlinking hard seen => (world, .unlinked hard seen)
  | .settling touched (_ :: keys) => (world, .settle touched keys)
  | .settling touched [] => (world, .done touched)
  | .done touched => (world, .done touched)
  | .answered record => (world, .answered record)
  | .raised error => (world, .raised error)
  | turn => turn.rollback world

def MemoryTurn.move {ι : Type} (service : MemoryService) (_ : ι) (passage : Passage)
    (world : MemoryWorld) (turn : MemoryTurn) : MemoryWorld × MemoryTurn :=
  match passage, turn with
  | .succeeds, turn => turn.advance service world
  | .fails, turn => turn.fail world
  | .dies, .done touched => (world, .done touched)
  | .dies, .answered record => (world, .answered record)
  | .dies, turn => turn.rollback world

inductive MemoryEvent where
  | tick (later : Time)
  -- Redis drops a key.
  | evict (key : String)

def MemoryEvent.apply : MemoryEvent → MemoryWorld → MemoryWorld
  | .tick later, world => { world with clock := max world.clock later }
  | .evict key, world => world.invalidate key

abbrev MemoryCrew (ι : Type) := Crew ι MemoryWorld MemoryTurn

section

variable {ι : Type}

def MemoryCrew.start (records : MemoryTable) (clock : Time) (calls : ι → MemoryCall) :
    MemoryCrew ι where
  shared := { records, cache := [], locks := [], clock }
  phase := fun i => .called (calls i)

variable [DecidableEq ι] (service : MemoryService)

/-- The calls after the first `n` acts. -/
abbrev MemoryCrew.after (crew : MemoryCrew ι) (acts : List (Act ι Passage MemoryEvent)) (n : Nat) :
    MemoryCrew ι :=
  Crew.after (MemoryTurn.move service) MemoryEvent.apply crew acts n

end

end SyndicateClaw.Memory
