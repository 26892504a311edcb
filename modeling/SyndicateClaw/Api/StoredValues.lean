import SyndicateClaw.Api.MemoryRoutes
import SyndicateClaw.Memory.CacheFreshness
import SyndicateClaw.Memory.Reads
import SyndicateClaw.Memory.RoundTrip

/-! Values of the memory, from the writer back to a reader. -/

namespace SyndicateClaw.Api

open Memory Orchestrator
open Authz (Time)
open Orchestrator.Value (SameJson)

section

variable {body : WriteMemoryRequest} {recordId actor : String} {now : Time}

theorem not_wraps_route (value : Value) : ¬ Wraps (.dict [("_value", value)]) := by
  intro wraps
  obtain ⟨inner, same⟩ := wraps
  simp at same

/-- What the service makes of a value that `write_memory` stores. -/
theorem sameJson_route (value : Value) : SameJson (unwrapped (wrapped "_value" value)) value ↔
    (∃ entries, value = .dict entries) ∧ ¬ Wraps value := by
  cases value with
  | dict entries =>
      rw [show wrapped "_value" (.dict entries) = .dict entries from rfl, sameJson_unwrapped]
      simp
  | _ =>
      simp only [reduceCtorEq, exists_false, false_and, iff_false]
      intro same
      unfold wrapped at same
      dsimp only at same
      rw [unwrapped_eq_self (not_wraps_route _)] at same
      exact Value.not_sameJson_wrapping _ same.symm

/-- The row of `write_memory` is read by the service. -/
def WriteMemoryRequest.Readable (body : WriteMemoryRequest) : Prop :=
  (MemoryLineage.ofDict? body.lineage).isSome ∧
    withinBounds (readConfidence (some body.confidence)) body.ttlSeconds = true

theorem dbToDomain_body : (∃ record, dbToDomain (body.row recordId actor now) = some record ∧
      SameJson record.value body.value) ↔
    body.Readable ∧ (∃ entries, body.value = .dict entries) ∧ ¬ Wraps body.value := by
  rw [← sameJson_route]
  constructor
  · rintro ⟨record, read, same⟩
    obtain ⟨lineage, tags, parsed, _, bounds, rfl⟩ := dbToDomain_iff.mp read
    exact ⟨⟨Option.isSome_iff_exists.mpr ⟨lineage, parsed⟩, bounds⟩, same⟩
  · rintro ⟨⟨parsed, bounds⟩, same⟩
    obtain ⟨lineage, parsed⟩ := Option.isSome_iff_exists.mp parsed
    exact ⟨_, dbToDomain_iff.mpr
      ⟨lineage, body.tags, parsed, tagsOf_str body.tags, bounds, rfl⟩, same⟩

theorem readUncached_body {store : MemoryStore} {world : MemoryWorld} {reader : String}
    (accepted : store.Accepts (body.row recordId actor now))
    (written : world.records = store.records.insert (body.row recordId actor now))
    (unexpired : ∀ seconds, body.ttlSeconds = some seconds → world.clock < expiryAfter now seconds)
    (permitted : policyAdmits body.accessPolicy actor reader = true) :
    world.readUncached body.namespaceName body.key reader =
      dbToDomain (body.row recordId actor now) := by
  have rows : world.records.rows = store.records.rows ++ [body.row recordId actor now] := by
    rw [written]
    exact Keyed.rows_insert accepted.1
  have found : world.getByKey body.namespaceName body.key = some (body.row recordId actor now) := by
    have member : body.row recordId actor now ∈ world.records.rows := by
      rw [rows]
      exact List.mem_append_right _ List.mem_cons_self
    apply getByKey_of_only member
    intro other inside sameNamespace sameKey
    rw [rows] at inside
    rcases List.mem_append.mp inside with before | last
    · exact absurd ⟨sameNamespace, sameKey⟩ (accepted.2 other before)
    · exact List.mem_singleton.mp last
  have lives : world.live (body.row recordId actor now) = true := by
    unfold MemoryWorld.live WriteMemoryRequest.row
    cases ttl : body.ttlSeconds with
    | none => rfl
    | some seconds => simpa using unexpired seconds ttl
  apply Option.ext
  intro record
  rw [readUncached_eq_some, found]
  simp only [Option.some.injEq, exists_eq_left', lives, true_and, and_iff_left_iff_imp]
  intro read
  obtain ⟨_, _, _, _, _, rfl⟩ := dbToDomain_iff.mp read
  exact permitted

end

/-- Which values come back: of a record that is written, of an update, and, through the service, of
a request to `write_memory`. -/
theorem stored_values_iff (service : MemoryService) :
    (∀ now record written, service.writtenRecord now record = .ok written →
      (dbToDomain (domainToDb written)).isSome →
        (ReadsAs (domainToDb written) written ↔
          written.confidence ≠ 0 ∧ ¬ Wraps written.value)) ∧
    (∀ now recordId row existing (updates : MemoryUpdates),
      updates.check service recordId (some row) = .ok (row, existing) →
      (dbToDomain (updates.flushed now row existing row)).isSome →
        (ReadsAs (updates.flushed now row existing row) (updates.applied now existing) ↔
          updates.Distinguished row ∧ updates.confidence ≠ some 0)) ∧
    ∀ (store : MemoryStore) (body : WriteMemoryRequest) recordId actor now (world : MemoryWorld)
        reader, store.Accepts (body.row recordId actor now) →
      world.records = store.records.insert (body.row recordId actor now) →
      (∀ seconds, body.ttlSeconds = some seconds → world.clock < expiryAfter now seconds) →
      policyAdmits body.accessPolicy actor reader = true →
        ((∃ record,
            (world.read service body.namespaceName body.key reader).2.returned = some record ∧
            SameJson record.value body.value) ↔
          match world.cached (cacheKey body.namespaceName body.key) with
          | some record => checkAccessPolicy record reader = true ∧ SameJson record.value body.value
          | none =>
              body.Readable ∧ (∃ entries, body.value = .dict entries) ∧ ¬ Wraps body.value) := by
  refine ⟨?_, ?_, ?_⟩
  · intro now record written _ accepted
    exact readsAs_domainToDb accepted
  · intro now recordId row existing updates checked accepted
    exact readsAs_flushed (check_ok checked).2.1 accepted
  · intro store body recordId actor now world reader accepted written unexpired permitted
    rw [returned_read]
    cases world.cached (cacheKey body.namespaceName body.key) with
    | some record =>
        unfold answerFor
        cases checkAccessPolicy record reader <;> simp
    | none =>
        rw [readUncached_body accepted written unexpired permitted]
        exact dbToDomain_body

/-! A note is written, updated and written through the route; one that looks wrapped, one of no
confidence and a number do not come back. -/

def noteBody (value : Value) : WriteMemoryRequest where
  namespaceName := "team"
  key := "a"
  value
  memoryType := .semantic
  source := "chat"

def noteWorld (value : Value) : MemoryWorld where
  records := (⟨[], List.nodup_nil⟩ : MemoryTable).insert ((noteBody value).row "m1" "ada" 0)
  cache := []
  locks := []
  clock := 1

def renamed : MemoryUpdates := { value := some (.dict [("note", .str "y")]) }

theorem stored_values_note :
    ReadsAs (domainToDb (noteRecord none)) (noteRecord none) ∧
    ReadsAs (renamed.flushed 1 (noteRow none) (noteRecord none) (noteRow none))
      (renamed.applied 1 (noteRecord none)) ∧
    ∃ record, ((noteWorld (.dict [("note", .str "x")])).read {} "team" "a" "bob").2.returned =
      some record ∧ SameJson record.value (.dict [("note", .str "x")]) := by
  have values := stored_values_iff {}
  refine ⟨?_, ?_, ?_⟩
  · refine (values.1 0 (noteRecord none) (noteRecord none) rfl (by decide +kernel)).mpr ⟨?_, ?_⟩
    · decide +kernel
    · intro wraps
      obtain ⟨inner, same⟩ := wraps
      simp [noteRecord] at same
  · refine (values.2.1 1 "m1" (noteRow none) (noteRecord none) renamed rfl (by decide +kernel)).mpr
      ⟨?_, nofun⟩
    intro value given
    obtain rfl := Option.some.inj given
    refine ⟨?_, ?_⟩
    · intro wraps
      obtain ⟨inner, same⟩ := wraps
      simp at same
    · decide +kernel
  · refine (values.2.2 ⟨⟨[], List.nodup_nil⟩, none⟩ (noteBody (.dict [("note", .str "x")])) "m1" "ada" 0
      (noteWorld (.dict [("note", .str "x")])) "bob" ?_ rfl nofun rfl).mpr ?_
    · decide
    · refine ⟨⟨rfl, ?_⟩, ⟨_, rfl⟩, ?_⟩
      · decide +kernel
      · intro wraps
        obtain ⟨inner, same⟩ := wraps
        simp [noteBody] at same

theorem stored_values_lost :
    let wrapping := { noteRecord none with value := .dict [("_v", .int 1)] }
    let unsure := { noteRecord none with confidence := 0 }
    (({} : MemoryService).writtenRecord 0 wrapping = .ok wrapping ∧
      (dbToDomain (domainToDb wrapping)).isSome ∧ ¬ ReadsAs (domainToDb wrapping) wrapping) ∧
    (({} : MemoryService).writtenRecord 0 unsure = .ok unsure ∧
      (dbToDomain (domainToDb unsure)).isSome ∧ ¬ ReadsAs (domainToDb unsure) unsure) ∧
    ((noteWorld (.int 1)).read {} "team" "a" "ada").2.returned.map MemoryRecord.value =
      some (.dict [("_value", .int 1)]) := by
  refine ⟨⟨rfl, by decide +kernel, ?_⟩, ⟨rfl, by decide +kernel, ?_⟩, ?_⟩
  · intro same
    exact ((readsAs_domainToDb (by decide +kernel)).mp same).2 ⟨_, rfl⟩
  · intro same
    exact ((readsAs_domainToDb (by decide +kernel)).mp same).1 rfl
  · decide +kernel

end SyndicateClaw.Api
