import SyndicateClaw.Memory.Service

/-! What each step of a call to `MemoryService` can do. -/

namespace SyndicateClaw.Memory

open Async Orchestrator
open Authz (Time)

def StoredRecord (world : MemoryWorld) (record : MemoryRecord) : Prop :=
  (world.records.get? record.id).bind dbToDomain = some record ∧ record.deletionStatus = .active

instance (world : MemoryWorld) (record : MemoryRecord) : Decidable (StoredRecord world record) :=
  inferInstanceAs (Decidable (_ ∧ _))

section

variable {service : MemoryService} {world : MemoryWorld} {record written : MemoryRecord}
  {turn : MemoryTurn} {passage : Passage}

theorem writtenRecord_ok {now : Time} (done : service.writtenRecord now record = .ok written) :
    ∃ expiresAt, written = { record with expiresAt } := by
  unfold MemoryService.writtenRecord at done
  simp only [bind, Except.bind] at done
  split at done
  · cases done
  split at done
  · cases done
  split at done
  · cases done
  split at done
  · cases done
  split at done
  · next seconds _ _ =>
      split_ifs at done
      · exact ⟨_, (Except.ok.inj done).symm⟩
      · exact ⟨_, (Except.ok.inj done).symm⟩
  · exact ⟨_, (Except.ok.inj done).symm⟩

theorem checkedValue_ok {updates : MemoryUpdates} {row seen : MemoryRow} {existing : MemoryRecord}
    (rest : (match updates.value with
      | none => pure (row, record)
      | some value => do
          service.validateValueBytes value
          service.validateNamespaceSchema record.namespaceName value
          pure (row, record) : Except ServiceError (MemoryRow × MemoryRecord)) =
        .ok (seen, existing)) :
    (row, record) = (seen, existing) ∧
      ∀ value, updates.value = some value → service.validateValueBytes value = .ok () := by
  cases given : updates.value with
  | none =>
      rw [given] at rest
      exact ⟨Except.ok.inj rest, nofun⟩
  | some value =>
      rw [given] at rest
      simp only [bind, Except.bind] at rest
      cases bytes : service.validateValueBytes value with
      | error error =>
          rw [bytes] at rest
          cases rest
      | ok done =>
          rw [bytes] at rest
          dsimp only at rest
          split at rest
          · cases rest
          · refine ⟨Except.ok.inj rest, ?_⟩
            intro other same
            rw [← Option.some.inj same, bytes]

theorem check_ok {recordId : String} {updates : MemoryUpdates} {row : Option MemoryRow}
    {seen : MemoryRow} {existing : MemoryRecord}
    (checked : updates.check service recordId row = .ok (seen, existing)) :
    row = some seen ∧ dbToDomain seen = some existing ∧
      ∀ value, updates.value = some value → service.validateValueBytes value = .ok () := by
  unfold MemoryUpdates.check at checked
  cases row with
  | none => cases checked
  | some row =>
      dsimp only at checked
      cases read : dbToDomain row with
      | none =>
          rw [read] at checked
          cases checked
      | some record =>
          rw [read] at checked
          dsimp only at checked
          by_cases active : record.deletionStatus = .active
          · rw [if_neg (not_not.mpr active)] at checked
            cases others : updates.others with
            | cons field fields =>
                rw [others] at checked
                cases checked
            | nil =>
                rw [others] at checked
                dsimp only at checked
                have rest : (row, record) = (seen, existing) ∧ ∀ value,
                    updates.value = some value → service.validateValueBytes value = .ok () := by
                  cases sure : updates.confidence with
                  | none =>
                      rw [sure] at checked
                      exact checkedValue_ok checked
                  | some confidence =>
                      rw [sure] at checked
                      simp only [bind, Except.bind] at checked
                      split at checked
                      · cases checked
                      · exact checkedValue_ok checked
                obtain ⟨same, sized⟩ := rest
                obtain ⟨rfl, rfl⟩ := Prod.mk.inj same
                exact ⟨rfl, read, sized⟩
          · rw [if_pos active] at checked
            cases checked

theorem commitUpdate_cases (world : MemoryWorld) (updates : MemoryUpdates) (seen : MemoryRow)
    (existing : MemoryRecord) (now : Time) :
    world.commitUpdate updates seen existing now = (world, .updating updates seen existing now) ∨
      (∃ error, world.commitUpdate updates seen existing now = (world, .raised error)) ∨
      ∃ row, world.records.get? seen.id = some row ∧
        world.commitUpdate updates seen existing now =
          ({ world with
              records := world.records.changeAt seen.id (updates.flushed now seen existing)
                (flushed_id updates now seen existing) },
            .settling [seen.id] [cacheKey row.namespaceName row.key]) := by
  unfold MemoryWorld.commitUpdate
  cases found : world.records.get? seen.id with
  | none => exact .inr (.inl ⟨_, rfl⟩)
  | some row =>
      dsimp only
      split
      · exact .inl rfl
      · cases decoded : dbToDomain (updates.flushed now seen existing row) with
        | none => exact .inr (.inl ⟨_, rfl⟩)
        | some updated =>
            obtain ⟨_, sameNamespace, sameKey, _⟩ := dbToDomain_some decoded
            refine .inr (.inr ⟨row, rfl, ?_⟩)
            dsimp only
            rw [sameNamespace, sameKey]
            rfl

theorem flushDelete_cases (world : MemoryWorld) (hard : Bool) (seen : MemoryRow) :
    (∃ error, world.flushDelete hard seen = (world, .raised error)) ∨
      world.flushDelete hard seen = (world, .deleting hard seen) ∨
      world.flushDelete hard seen =
        (world, .settling [] [cacheKey seen.namespaceName seen.key]) ∨
      world.flushDelete hard seen =
        ({ world with locks := seen.id :: world.locks }, .unlinking hard seen) := by
  unfold MemoryWorld.flushDelete
  cases world.records.get? seen.id with
  | none =>
      cases hard with
      | true => exact .inr (.inr (.inl rfl))
      | false => exact .inl ⟨_, rfl⟩
  | some row =>
      dsimp only
      split
      · exact .inr (.inl rfl)
      · exact .inr (.inr (.inr rfl))

theorem getByKey_decoded {namespaceName key : String}
    (found : (world.getByKey namespaceName key).bind dbToDomain = some record) :
    ∃ row ∈ world.records.rows, dbToDomain row = some record ∧ row.id = record.id ∧
      row.namespaceName = namespaceName ∧ row.key = key := by
  obtain ⟨row, held, decoded⟩ := Option.bind_eq_some_iff.mp found
  have named := List.find?_some held
  simp only [decide_eq_true_eq] at named
  exact ⟨row, List.mem_of_find?_eq_some held, decoded, (dbToDomain_some decoded).1.symm, named⟩

theorem readRow_cases (world : MemoryWorld) (namespaceName key actor : String) :
    world.readRow namespaceName key actor = .answered none ∨
      world.readRow namespaceName key actor = .raised .validation ∨
      ∃ record,
        (world.readRow namespaceName key actor = .found namespaceName key record ∧
            record.accessPolicy = "default" ∨
          world.readRow namespaceName key actor = .answered (some record)) ∧
        (world.getByKey namespaceName key).bind dbToDomain = some record ∧
        record.deletionStatus = .active ∧
        ∀ expiresAt, record.expiresAt = some expiresAt → world.clock < expiresAt := by
  unfold MemoryWorld.readRow
  cases world.getByKey namespaceName key with
  | none => exact .inl rfl
  | some row =>
      dsimp only
      cases decoded : dbToDomain row with
      | none => exact .inr (.inl rfl)
      | some record =>
          dsimp only
          split_ifs with inactive expired denied shared
          · exact .inl rfl
          · exact .inl rfl
          · exact .inl rfl
          all_goals
            have lives (expiresAt : Time) (expires : record.expiresAt = some expiresAt) :
                world.clock < expiresAt := by
              simpa [expires] using expired
            refine .inr (.inr ⟨record, ?_, decoded, not_not.mp inactive, lives⟩)
          · exact .inl ⟨rfl, shared⟩
          · exact .inr rfl

theorem stored_of_getByKey {namespaceName key : String}
    (found : (world.getByKey namespaceName key).bind dbToDomain = some record)
    (active : record.deletionStatus = .active) : StoredRecord world record := by
  obtain ⟨row, member, decoded, sameId, _⟩ := getByKey_decoded found
  refine ⟨?_, active⟩
  rw [← sameId, Keyed.get?_of_mem member]
  exact decoded

/-! ### Steps -/

def MemoryTurn.cacheAfter (world : MemoryWorld) : Passage → MemoryTurn → Dict String CachedRecord
  | .succeeds, .found namespaceName key record =>
      (world.setCached (cacheKey namespaceName key) record).cache
  | .succeeds, .unlinking _ seen =>
      (world.invalidate (cacheKey seen.namespaceName seen.key)).cache
  | .succeeds, .settling _ (key :: _) => (world.invalidate key).cache
  | _, _ => world.cache

/-- What a call that goes on can do: a step that leaves the world as it is, or a change. -/
inductive Advances (service : MemoryService) (world : MemoryWorld) :
    MemoryTurn → MemoryWorld × MemoryTurn → Prop where
  -- It waits for a lock, or it is over.
  | stays {turn : MemoryTurn} (quiet : turn.cacheAfter world .succeeds = world.cache) :
      Advances service world turn (world, turn)
  | raises {turn : MemoryTurn} (error : ServiceError)
      (quiet : turn.cacheAfter world .succeeds = world.cache) :
      Advances service world turn (world, .raised error)
  | answers {turn : MemoryTurn} (record : Option MemoryRecord)
      (quiet : turn.cacheAfter world .succeeds = world.cache) :
      Advances service world turn (world, .answered record)
  | queries {namespaceName key actor : String} :
      Advances service world (.called (.read namespaceName key actor))
        (world, .querying namespaceName key actor)
  | finds {namespaceName key actor : String} {record : MemoryRecord}
      (held : (world.getByKey namespaceName key).bind dbToDomain = some record) :
      Advances service world (.querying namespaceName key actor)
        (world, .found namespaceName key record)
  | caches {namespaceName key : String} {record : MemoryRecord} :
      Advances service world (.found namespaceName key record)
        (world.setCached (cacheKey namespaceName key) record, .answered (some record))
  | writes {record written : MemoryRecord}
      (valid : service.writtenRecord world.clock record = .ok written)
      (apart : world.conflicts (domainToDb written) = []) :
      Advances service world (.called (.write record))
        ({ world with records := world.records.insert (domainToDb written) },
          .settling [] [cacheKey written.namespaceName written.key])
  | checks {recordId : String} {updates : MemoryUpdates} {seen : MemoryRow}
      {existing : MemoryRecord}
      (checked : updates.check service recordId (world.records.get? recordId) =
        .ok (seen, existing)) :
      Advances service world (.called (.update recordId updates))
        (world, .updating updates seen existing world.clock)
  | updates {updates : MemoryUpdates} {seen row : MemoryRow} {existing : MemoryRecord} {now : Time}
      (found : world.records.get? seen.id = some row) :
      Advances service world (.updating updates seen existing now)
        ({ world with
            records := world.records.changeAt seen.id (updates.flushed now seen existing)
              (flushed_id updates now seen existing) },
          .settling [seen.id] [cacheKey row.namespaceName row.key])
  | selects {recordId : String} {hard : Bool} (row : MemoryRow) :
      Advances service world (.called (.delete recordId hard)) (world, .deleting hard row)
  | skips {recordId : String} {hard : Bool} :
      Advances service world (.called (.delete recordId hard)) (world, .done [])
  | misses {hard : Bool} {seen : MemoryRow} :
      Advances service world (.deleting hard seen)
        (world, .settling [] [cacheKey seen.namespaceName seen.key])
  | locks {hard : Bool} {seen : MemoryRow} :
      Advances service world (.deleting hard seen)
        ({ world with locks := seen.id :: world.locks }, .unlinking hard seen)
  | unlinks {hard : Bool} {seen : MemoryRow} :
      Advances service world (.unlinking hard seen)
        (world.invalidate (cacheKey seen.namespaceName seen.key), .unlinked hard seen)
  | removes {seen : MemoryRow} :
      Advances service world (.unlinked true seen) (world.commitDelete true seen)
  | marks {seen : MemoryRow} :
      Advances service world (.unlinked false seen) (world.commitDelete false seen)
  | lists {namespaceName : String} :
      Advances service world (.called (.purgeNamespace namespaceName))
        (world, .purging (world.getByNamespace namespaceName))
  | purges {rows : List MemoryRow} :
      Advances service world (.purging rows) (world.remove (rows.map MemoryRow.id),
        .settle (rows.map MemoryRow.id) (rows.map fun row => cacheKey row.namespaceName row.key))
  | retains (free : world.unlocked world.purgeableIds = true) :
      Advances service world (.called .enforceRetention)
        (world.remove world.purgeableIds, .done world.purgeableIds)
  | invalidates {touched keys : List String} {key : String} :
      Advances service world (.settling touched (key :: keys))
        (world.invalidate key, .settle touched keys)
  | ends {touched : List String} :
      Advances service world (.settling touched []) (world, .done touched)

theorem advances_write (service : MemoryService) (world : MemoryWorld) (record : MemoryRecord) :
    Advances service world (.called (.write record)) (world.commitWrite service record) := by
  unfold MemoryWorld.commitWrite
  cases valid : service.writtenRecord world.clock record with
  | error error => exact .raises error rfl
  | ok written =>
      dsimp only
      split_ifs with waits taken invalid
      · exact .stays rfl
      · exact .raises _ rfl
      · exact .raises _ rfl
      · exact .writes valid (not_not.mp taken)

theorem advances_delete (service : MemoryService) (world : MemoryWorld) (recordId : String)
    (hard : Bool) : Advances service world (.called (.delete recordId hard))
      (world, world.readDeleted recordId hard) := by
  unfold MemoryWorld.readDeleted
  split
  · split
    · exact .skips
    · exact .raises _ rfl
  · split
    · exact .raises _ rfl
    · exact .selects _

theorem advances_query (service : MemoryService) (world : MemoryWorld)
    (namespaceName key actor : String) :
    Advances service world (.querying namespaceName key actor)
      (world, world.readRow namespaceName key actor) := by
  rcases readRow_cases world namespaceName key actor with
    absent | invalid | ⟨record, ⟨found, _⟩ | returned, held, _⟩
  · rw [absent]
    exact .answers none rfl
  · rw [invalid]
    exact .raises _ rfl
  · rw [found]
    exact .finds held
  · rw [returned]
    exact .answers _ rfl

theorem advances_update (service : MemoryService) (world : MemoryWorld) (updates : MemoryUpdates)
    (seen : MemoryRow) (existing : MemoryRecord) (now : Time) :
    Advances service world (.updating updates seen existing now)
      (world.commitUpdate updates seen existing now) := by
  rcases commitUpdate_cases world updates seen existing now with
    waits | ⟨error, refused⟩ | ⟨row, found, done⟩
  · rw [waits]
    exact .stays rfl
  · rw [refused]
    exact .raises error rfl
  · rw [done]
    exact .updates found

theorem advances_flush (service : MemoryService) (world : MemoryWorld) (hard : Bool)
    (seen : MemoryRow) :
    Advances service world (.deleting hard seen) (world.flushDelete hard seen) := by
  rcases flushDelete_cases world hard seen with ⟨error, refused⟩ | waits | absent | locked
  · rw [refused]
    exact .raises error rfl
  · rw [waits]
    exact .stays rfl
  · rw [absent]
    exact .misses
  · rw [locked]
    exact .locks

theorem advances (service : MemoryService) (world : MemoryWorld) (turn : MemoryTurn) :
    Advances service world turn (turn.advance service world) := by
  cases turn with
  | called call =>
      cases call with
      | write record => exact advances_write service world record
      | read namespaceName key actor =>
          unfold MemoryTurn.advance
          dsimp only
          split
          · exact .answers _ rfl
          · exact .queries
      | update recordId updates =>
          unfold MemoryTurn.advance
          dsimp only
          split
          · exact .raises _ rfl
          · next checked => exact .checks checked
      | delete recordId hard => exact advances_delete service world recordId hard
      | purgeNamespace namespaceName => exact .lists
      | enforceRetention =>
          unfold MemoryTurn.advance MemoryWorld.enforceRetention
          dsimp only
          split
          · exact .stays rfl
          · next free => exact .retains (by simpa using free)
  | querying namespaceName key actor => exact advances_query service world namespaceName key actor
  | found namespaceName key record => exact .caches
  | updating updates seen existing now => exact advances_update service world updates seen existing now
  | deleting hard seen => exact advances_flush service world hard seen
  | unlinking hard seen => exact .unlinks
  | unlinked hard seen =>
      cases hard with
      | true => exact .removes
      | false => exact .marks
  | purging rows =>
      unfold MemoryTurn.advance MemoryWorld.commitPurge
      dsimp only
      split
      · exact .stays rfl
      · exact .purges
  | settling touched keys =>
      cases keys with
      | nil => exact .ends
      | cons key keys => exact .invalidates
  | done touched => exact .stays rfl
  | answered record => exact .stays rfl
  | raised error => exact .stays rfl

/-! ### The table -/

inductive TableStep (service : MemoryService) (world : MemoryWorld) (turn : MemoryTurn) :
    MemoryTable → Prop where
  | kept : TableStep service world turn world.records
  | written {record written : MemoryRecord} (call : turn = .called (.write record))
      (valid : service.writtenRecord world.clock record = .ok written)
      (apart : world.conflicts (domainToDb written) = []) :
      TableStep service world turn (world.records.insert (domainToDb written))
  | updated {updates : MemoryUpdates} {seen : MemoryRow} {existing : MemoryRecord} {now : Time}
      (call : turn = .updating updates seen existing now) :
      TableStep service world turn (world.records.changeAt seen.id
        (updates.flushed now seen existing) (flushed_id updates now seen existing))
  | deleted (seen : MemoryRow) :
      TableStep service world turn (world.records.changeAt seen.id (softDeleted world.clock seen)
        (softDeleted_id world.clock seen))
  | removed (ids : List String) : TableStep service world turn (world.remove ids).records

theorem tableStep_advance (service : MemoryService) (world : MemoryWorld) (turn : MemoryTurn) :
    TableStep service world turn (turn.advance service world).1.records := by
  have step := advances service world turn
  generalize turn.advance service world = moved at step ⊢
  cases step with
  | writes valid apart => exact .written rfl valid apart
  | updates found => exact .updated rfl
  | @removes seen => exact .removed [seen.id]
  | @marks seen => exact .deleted seen
  | purges => exact .removed _
  | retains free => exact .removed _
  | _ => exact .kept

theorem tableStep_move {ι : Type} (service : MemoryService) (i : ι) (passage : Passage)
    (world : MemoryWorld) (turn : MemoryTurn) :
    TableStep service world turn (turn.move service i passage world).1.records := by
  cases passage with
  | succeeds => exact tableStep_advance service world turn
  | fails =>
      cases turn with
      | called call => cases call <;> exact .kept
      | settling touched keys => cases keys <;> exact .kept
      | _ => exact .kept
  | dies => cases turn <;> exact .kept

/-! ### The cache -/

theorem cache_move {ι : Type} (service : MemoryService) (i : ι) (passage : Passage)
    (world : MemoryWorld) (turn : MemoryTurn) :
    (turn.move service i passage world).1.clock = world.clock ∧
      (turn.move service i passage world).1.cache = turn.cacheAfter world passage := by
  cases passage with
  | succeeds =>
      show (turn.advance service world).1.clock = _ ∧ (turn.advance service world).1.cache = _
      have step := advances service world turn
      generalize turn.advance service world = moved at step ⊢
      cases step with
      | stays quiet => exact ⟨rfl, quiet.symm⟩
      | raises error quiet => exact ⟨rfl, quiet.symm⟩
      | answers record quiet => exact ⟨rfl, quiet.symm⟩
      | _ => exact ⟨rfl, rfl⟩
  | fails =>
      cases turn with
      | called call => cases call <;> exact ⟨rfl, rfl⟩
      | settling touched keys => cases keys <;> exact ⟨rfl, rfl⟩
      | _ => exact ⟨rfl, rfl⟩
  | dies => cases turn <;> exact ⟨rfl, rfl⟩

theorem entry_move {ι : Type} {i : ι} {key : String} {entry : CachedRecord}
    (there : Dict.get? (turn.move service i passage world).1.cache key = some entry) :
    (Dict.get? world.cache key = some entry ∧
      ∀ touched keys, passage = .succeeds → turn ≠ .settling touched (key :: keys)) ∨
    ∃ namespaceName recordKey, passage = .succeeds ∧
      turn = .found namespaceName recordKey entry.record ∧
      key = cacheKey namespaceName recordKey ∧
      entry.expires = expiryAfter world.clock (MemoryWorld.ttlOf entry.record) := by
  rw [(cache_move service i passage world turn).2] at there
  unfold MemoryTurn.cacheAfter at there
  split at there
  · next namespaceName recordKey record =>
      rw [MemoryWorld.setCached, Dict.get?_set] at there
      split at there
      · next same =>
          obtain rfl := Option.some.inj there
          exact .inr ⟨namespaceName, recordKey, rfl, rfl, same, rfl⟩
      · exact .inl ⟨there, nofun⟩
  · next hard seen =>
      rw [MemoryWorld.invalidate, Dict.get?_pop] at there
      split at there
      · cases there
      · exact .inl ⟨there, nofun⟩
  · next touched first rest =>
      rw [MemoryWorld.invalidate, Dict.get?_pop] at there
      split at there
      · cases there
      · next other =>
          refine .inl ⟨there, ?_⟩
          intro _ _ _ same
          cases same
          exact other rfl
  · next unlike =>
      refine .inl ⟨there, ?_⟩
      intro touched keys success same
      exact unlike touched key keys success same

theorem cached_eq_some {world : MemoryWorld} {key : String} {record : MemoryRecord} :
    world.cached key = some record ↔ ∃ entry, Dict.get? world.cache key = some entry ∧
      world.clock < entry.expires ∧ entry.record = record := by
  unfold MemoryWorld.cached
  cases Dict.get? world.cache key with
  | none => simp
  | some entry =>
      by_cases lives : world.clock < entry.expires
      · simp [lives]
      · simp [lives]

end

end SyndicateClaw.Memory
