import Mathlib.Algebra.GroupWithZero.Nat
import SyndicateClaw.Api.RunRoutes
import SyndicateClaw.Async.Crew
import SyndicateClaw.Memory.Records

/-! The memory routes that write, for the members of an organization. -/

namespace SyndicateClaw.Api

open Async Memory Orchestrator
open Approval (changed)
open Authz (Time)

structure QuotaOrganization extends Organization where
  quotas : Dict String Rat

structure WriteMemoryRequest where
  namespaceName : String
  key : String
  value : Value
  memoryType : MemoryType
  source : String
  confidence : Rat := 1
  ttlSeconds : Option Int := none
  accessPolicy : String := "default"
  tags : Dict String String := []
  lineage : State := []

structure UpdateMemoryRequest where
  value : Value := .none
  confidence : Option Rat := none
  ttlSeconds : Option Int := none
  tags : Option (Dict String String) := none

inductive MemoryError where
  | http (error : HTTPException)
  | quotaExceeded (quota : String) (limit : Rat) (current : Nat)
  | storageQuotaExceeded
  -- What the row holds is no record of the domain.
  | validation
  -- The id, or the namespace with the key, is taken.
  | integrity

structure MemoryStore where
  records : MemoryTable
  -- The row of the organization in `organization_quotas_usage`.
  storageBytesUsed : Option Nat

def notFoundMemory : MemoryError :=
  .http { statusCode := 404, detail := "Memory record not found" }

/-! ### What the routes check and write -/

namespace MemoryStore

variable (store : MemoryStore)

/-- `count_memory_records_for_org` -/
def countMemoryRecordsForOrg (namespaceName : String) : Nat :=
  store.records.rows.countP fun row => row.namespaceName = namespaceName

/-- `get_storage_bytes_used` -/
def getStorageBytesUsed : Nat := store.storageBytesUsed.getD 0

def Accepts (row : MemoryRow) : Prop :=
  store.records.get? row.id = none ∧
    ∀ other ∈ store.records.rows, ¬(other.namespaceName = row.namespaceName ∧ other.key = row.key)

instance (row : MemoryRow) : Decidable (store.Accepts row) :=
  inferInstanceAs (Decidable (_ ∧ _))

end MemoryStore

/-- `enforce_quota`, over the count that it reads. -/
def enforceQuota (org : QuotaOrganization) (quotaField : String) (current : Nat) :
    Except MemoryError Unit :=
  match Dict.get? org.quotas quotaField with
  | none => .ok ()
  | some limit =>
      if limit ≤ current then .error (.quotaExceeded quotaField limit current) else .ok ()

/-- The check of `storage_limit_bytes`, over the bytes that it reads. -/
def checkStorage (org : QuotaOrganization) (currentBytes valueBytes : Nat) :
    Except MemoryError Unit :=
  match Dict.get? org.quotas "storage_limit_bytes" with
  | none => .ok ()
  | some limitBytes =>
      if limitBytes < (currentBytes + valueBytes : Nat) then .error .storageQuotaExceeded else .ok ()

namespace WriteMemoryRequest

variable (body : WriteMemoryRequest)

def valueBytes : Nat := jsonValueByteSize (wrapped "_value" body.value)

def row (recordId actor : String) (now : Time) : MemoryRow where
  id := recordId
  namespaceName := body.namespaceName
  key := body.key
  value := wrapped "_value" body.value
  memoryType := body.memoryType
  source := some body.source
  actor := some actor
  confidence := some body.confidence
  accessPolicy := body.accessPolicy
  lineage := body.lineage
  ttlSeconds := body.ttlSeconds
  expiresAt := body.ttlSeconds.map (expiryAfter now)
  deletionStatus := .active
  deletedAt := none
  tags := tagValues body.tags
  createdAt := now
  updatedAt := now

/-- The first checks of `write_memory`. -/
def admitted (org : QuotaOrganization) (currentRecords : Nat) : Except MemoryError Unit :=
  if body.namespaceName ≠ org.namespaceName then
    .error
      (.http { statusCode := 403, detail := "Cross-namespace access requires impersonation" })
  else enforceQuota org "max_memory_records" currentRecords

end WriteMemoryRequest

/-- The record that an update or a deletion is about, as it is read. -/
def heldMemory (records : MemoryTable) (recordId actor : String) : Except MemoryError MemoryRow :=
  match records.get? recordId with
  | none => .error notFoundMemory
  | some row =>
      match dbToDomain row with
      | none => .error .validation
      | some record => if checkAccessPolicy record actor then .ok row else .error notFoundMemory

/-- What `update_memory` reads and refuses. -/
def updatableMemory (records : MemoryTable) (recordId actor : String) :
    Except MemoryError MemoryRow := do
  let row ← heldMemory records recordId actor
  if row.deletionStatus ≠ .active then
    throw (.http { statusCode := 410, detail := "Memory record has been deleted" })
  return row

namespace UpdateMemoryRequest

variable (body : UpdateMemoryRequest) (seen : MemoryRow)

def assignsValue : Bool :=
  body.value ≠ .none && !Condition.pyEq (wrapped "_value" body.value) seen.value

def assigns (now : Time) : Bool :=
  body.assignsValue seen || (body.confidence.any fun confidence => some confidence ≠ seen.confidence) ||
    (body.ttlSeconds.any fun seconds =>
      some seconds ≠ seen.ttlSeconds || some (expiryAfter now seconds) ≠ seen.expiresAt) ||
    body.tags.any fun tags => tagValues tags ≠ seen.tags

/-- What the flush of an update makes of the row as it is by then: the columns that have changed
since the row was read are set. -/
def flushed (now : Time) (row : MemoryRow) : MemoryRow :=
  { row with
    value := if body.assignsValue seen then wrapped "_value" body.value else row.value
    confidence := body.confidence.elim row.confidence fun confidence =>
      changed seen.confidence (some confidence) row.confidence
    ttlSeconds := body.ttlSeconds.elim row.ttlSeconds fun seconds =>
      changed seen.ttlSeconds (some seconds) row.ttlSeconds
    expiresAt := body.ttlSeconds.elim row.expiresAt fun seconds =>
      changed seen.expiresAt (some (expiryAfter now seconds)) row.expiresAt
    tags := body.tags.elim row.tags fun tags =>
      changed seen.tags (tagValues tags) row.tags
    updatedAt := if body.assigns seen now then now else row.updatedAt }

end UpdateMemoryRequest

/-- What the flush of a deletion makes of the row as it is by then. -/
def deletedMemory (seen : MemoryRow) (now : Time) (row : MemoryRow) : MemoryRow :=
  { row with
    deletionStatus := changed seen.deletionStatus .markedForDeletion row.deletionStatus
    deletedAt := changed seen.deletedAt (some now) row.deletedAt
    updatedAt := now }

theorem flushed_id (body : UpdateMemoryRequest) (seen : MemoryRow) (now : Time) (row : MemoryRow) :
    (body.flushed seen now row).id = row.id := rfl

theorem deletedMemory_id (seen : MemoryRow) (now : Time) (row : MemoryRow) :
    (deletedMemory seen now row).id = row.id := rfl

/-! ### Requests -/

inductive MemoryRequest where
  | write (recordId : String) (body : WriteMemoryRequest)
  | update (recordId : String) (body : UpdateMemoryRequest)
  | delete (recordId : String)

inductive MemorySession where
  | received (actor : String) (request : MemoryRequest)
  -- The number of records is below its quota; then the bytes are as well.
  | counted (actor recordId : String) (body : WriteMemoryRequest)
  | measured (actor recordId : String) (body : WriteMemoryRequest)
  | updating (body : UpdateMemoryRequest) (seen : MemoryRow)
  | deleting (seen : MemoryRow)
  | answered (result : Except MemoryError Unit)
  | abandoned

inductive MemoryChoice where
  | proceed (now : Time)
  -- The client disconnects or the database fails, and the transaction is rolled back.
  | abandon

namespace MemoryStore

/-- `write_memory` from the insert on: `add_storage_bytes_used` adds to the row by then. -/
def commitWrite (store : MemoryStore) (row : MemoryRow) (valueBytes : Nat) :
    MemoryStore × MemorySession :=
  if store.Accepts row then
    ({ records := store.records.insert row
       storageBytesUsed := some (store.getStorageBytesUsed + valueBytes) }, .answered (.ok ()))
  else (store, .answered (.error .integrity))

def commitUpdate (store : MemoryStore) (body : UpdateMemoryRequest) (seen : MemoryRow) (now : Time) :
    MemoryStore :=
  { store with
    records := store.records.changeAt seen.id (body.flushed seen now) (flushed_id body seen now) }

def commitDelete (store : MemoryStore) (seen : MemoryRow) (now : Time) : MemoryStore :=
  { store with
    records := store.records.changeAt seen.id (deletedMemory seen now) (deletedMemory_id seen now) }

end MemoryStore

def MemorySession.next {α : Type} (result : Except MemoryError α) (goesOn : α → MemorySession) :
    MemorySession :=
  match result with
  | .error error => .answered (.error error)
  | .ok value => goesOn value

def MemorySession.move {ι : Type} (org : QuotaOrganization) (_ : ι) (choice : MemoryChoice)
    (store : MemoryStore) (session : MemorySession) : MemoryStore × MemorySession :=
  match choice, session with
  | _, .answered result => (store, .answered result)
  | .abandon, _ => (store, .abandoned)
  | .proceed _, .received actor (.write recordId body) =>
      (store, next (body.admitted org (store.countMemoryRecordsForOrg org.namespaceName)) fun _ =>
        .counted actor recordId body)
  | .proceed _, .received actor (.update recordId body) =>
      (store, next (updatableMemory store.records recordId actor) (.updating body))
  | .proceed _, .received actor (.delete recordId) =>
      (store, next (heldMemory store.records recordId actor) .deleting)
  | .proceed _, .counted actor recordId body =>
      (store, next (checkStorage org store.getStorageBytesUsed body.valueBytes) fun _ =>
        .measured actor recordId body)
  | .proceed now, .measured actor recordId body =>
      store.commitWrite (body.row recordId actor now) body.valueBytes
  | .proceed now, .updating body seen => (store.commitUpdate body seen now, .answered (.ok ()))
  | .proceed now, .deleting seen => (store.commitDelete seen now, .answered (.ok ()))
  | .proceed _, .abandoned => (store, .abandoned)

abbrev MemoryDesk (ι : Type) := Crew ι MemoryStore MemorySession

section

variable {ι : Type} [DecidableEq ι] (org : QuotaOrganization)

def MemoryDesk.step (desk : MemoryDesk ι) (act : Act ι MemoryChoice Empty) : MemoryDesk ι :=
  Crew.step (MemorySession.move org) Empty.elim desk act

def MemoryDesk.start (store : MemoryStore) (requests : ι → String × MemoryRequest) : MemoryDesk ι where
  shared := store
  phase := fun i => .received (requests i).1 (requests i).2

/-- The desk after the first `n` acts. -/
abbrev MemoryDesk.after (desk : MemoryDesk ι) (acts : List (Act ι MemoryChoice Empty)) (n : Nat) :
    MemoryDesk ι :=
  stateAfter (MemoryDesk.step org) desk acts n

end

end SyndicateClaw.Api
