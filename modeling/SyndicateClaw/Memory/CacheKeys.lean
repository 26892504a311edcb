import SyndicateClaw.Data.Paths
import SyndicateClaw.Memory.ServiceSteps

/-! Which record a read returns: the cache keys of two pairs of a namespace and a key may be one. -/

namespace SyndicateClaw.Memory

open Async Orchestrator
open Authz (Time)

structure MemoryRead where
  namespaceName : String
  key : String
  actor : String

def MemoryRead.call (read : MemoryRead) : MemoryCall :=
  .read read.namespaceName read.key read.actor

def MemoryRead.cacheKey (read : MemoryRead) : String :=
  Memory.cacheKey read.namespaceName read.key

def MemoryRead.AsksFor (read : MemoryRead) (record : MemoryRecord) : Prop :=
  record.namespaceName = read.namespaceName ∧ record.key = read.key

/-- The colon of one cache key is in the namespace or the key of the other. -/
def MemoryRead.Shifts (read other : MemoryRead) : Prop :=
  ∃ middle, other.namespaceName = read.namespaceName ++ ":" ++ middle ∧
    read.key = middle ++ ":" ++ other.key

def MemoryRead.Collides (read other : MemoryRead) : Prop := read.Shifts other ∨ other.Shifts read

/-- What a read puts into the cache: the active record of its namespace and key, if that is of the
default policy and has not expired. -/
def Cacheable (world : MemoryWorld) (read : MemoryRead) (record : MemoryRecord) : Prop :=
  (world.getByKey read.namespaceName read.key).bind dbToDomain = some record ∧
    record.deletionStatus = .active ∧ record.accessPolicy = "default" ∧
    ∀ expiresAt, record.expiresAt = some expiresAt → world.clock < expiresAt

section

variable {read other : MemoryRead}

theorem cacheKey_eq_iff :
    read.cacheKey = other.cacheKey ↔
      (read.namespaceName = other.namespaceName ∧ read.key = other.key) ∨ read.Collides other := by
  unfold MemoryRead.Collides MemoryRead.Shifts MemoryRead.cacheKey Memory.cacheKey
  simp only [← String.toList_inj, String.toList_append, List.append_assoc,
    List.append_cancel_left_eq]
  have colon : (":" : String).toList = [':'] := rfl
  simp only [colon, List.singleton_append]
  rw [Paths.joined_eq_iff]
  constructor
  · intro cut
    rcases cut with same | ⟨x, first, second⟩ | ⟨x, first, second⟩
    · exact .inl same
    · exact .inr (.inl ⟨String.ofList x, by simpa using first, by simpa using second⟩)
    · exact .inr (.inr ⟨String.ofList x, by simpa using first, by simpa using second⟩)
  · intro cut
    rcases cut with same | ⟨x, first, second⟩ | ⟨x, first, second⟩
    · exact .inl same
    · exact .inr (.inl ⟨x.toList, first, second⟩)
    · exact .inr (.inr ⟨x.toList, first, second⟩)

theorem MemoryRead.Shifts.apart (shifts : read.Shifts other) : other.key ≠ read.key := by
  obtain ⟨middle, _, key⟩ := shifts
  intro same
  have lengths := congrArg String.length key
  rw [same, String.length_append, String.length_append] at lengths
  have colon : (":" : String).length = 1 := rfl
  omega

theorem MemoryRead.Collides.apart (collides : read.Collides other) : other.key ≠ read.key := by
  rcases collides with shifts | shifts
  · exact shifts.apart
  · exact shifts.apart.symm

end

/-! ### Runs of reads -/

def ReadBy (world : MemoryWorld) (read : MemoryRead) : MemoryTurn → Prop
  | .called call => call = read.call
  | .querying namespaceName key _ => namespaceName = read.namespaceName ∧ key = read.key
  | .found namespaceName key record =>
      namespaceName = read.namespaceName ∧ key = read.key ∧ Cacheable world read record
  | .answered (some record) => read.AsksFor record
  | .answered none | .raised _ => True
  | _ => False

/-- Reads change neither the table nor what they put into the cache. -/
structure OnlyRead {ι : Type} (world : MemoryWorld) (reads : ι → MemoryRead) (crew : MemoryCrew ι) :
    Prop where
  records : crew.shared.records = world.records
  clock : world.clock ≤ crew.shared.clock
  entries : ∀ key entry, Dict.get? crew.shared.cache key = some entry →
    ∃ i, key = (reads i).cacheKey ∧ Cacheable world (reads i) entry.record
  turns : ∀ i, ReadBy world (reads i) (crew.phase i)

section

variable {service : MemoryService} {world : MemoryWorld} {read : MemoryRead}
  {record : MemoryRecord}

theorem asksFor_of_getByKey
    (found : (world.getByKey read.namespaceName read.key).bind dbToDomain = some record) :
    read.AsksFor record := by
  obtain ⟨row, _, decoded, _, sameNamespace, sameKey⟩ := getByKey_decoded found
  have common := dbToDomain_some decoded
  exact ⟨common.2.1.trans sameNamespace, common.2.2.1.trans sameKey⟩

theorem Cacheable.asksFor (cacheable : Cacheable world read record) : read.AsksFor record :=
  asksFor_of_getByKey cacheable.1

theorem readBy_readRow {now : MemoryWorld} (same : now.records = world.records)
    (later : world.clock ≤ now.clock) (actor : String) :
    ReadBy world read (now.readRow read.namespaceName read.key actor) := by
  have lookup : now.getByKey read.namespaceName read.key =
      world.getByKey read.namespaceName read.key := by
    unfold MemoryWorld.getByKey
    rw [same]
  rcases readRow_cases now read.namespaceName read.key actor with
    absent | invalid | ⟨record, answer, held, active, lives⟩
  · rw [absent]
    trivial
  · rw [invalid]
    trivial
  · rw [lookup] at held
    rcases answer with ⟨found, shared⟩ | returned
    · rw [found]
      refine ⟨rfl, rfl, held, active, shared, ?_⟩
      intro expiresAt expires
      exact Int.lt_of_le_of_lt later (lives expiresAt expires)
    · rw [returned]
      exact asksFor_of_getByKey held

theorem records_readBy {now : MemoryWorld} {turn : MemoryTurn} (reads : ReadBy world read turn)
    (passage : Passage) {ι : Type} (i : ι) :
    (turn.move service i passage now).1.records = now.records := by
  cases turn with
  | called call =>
      obtain rfl := reads
      cases passage with
      | succeeds =>
          simp only [MemoryRead.call, MemoryTurn.move, MemoryTurn.advance]
          split <;> rfl
      | _ => rfl
  | querying namespaceName key actor => cases passage <;> rfl
  | found namespaceName key record => cases passage <;> rfl
  | answered answer => cases passage <;> rfl
  | raised error => cases passage <;> rfl
  | _ => exact reads.elim

end

/-- Nothing that one read puts into the cache is under the cache key of another pair. -/
def KeysApart {ι : Type} (world : MemoryWorld) (reads : ι → MemoryRead) : Prop :=
  ∀ i j record, Cacheable world (reads i) record → ¬ (reads i).Collides (reads j)

section

variable {ι : Type} [DecidableEq ι] {service : MemoryService} {world : MemoryWorld}
  {reads : ι → MemoryRead} {crew : MemoryCrew ι}

theorem readBy_move (apart : KeysApart world reads) (only : OnlyRead world reads crew) (i : ι)
    (passage : Passage) :
    ReadBy world (reads i) ((crew.phase i).move service i passage crew.shared).2 := by
  have turn := only.turns i
  revert turn
  cases crew.phase i with
  | called call =>
      rintro rfl
      cases passage with
      | succeeds =>
          simp only [MemoryRead.call, MemoryTurn.move, MemoryTurn.advance]
          cases served : crew.shared.cached (cacheKey (reads i).namespaceName (reads i).key) with
          | none => exact ⟨rfl, rfl⟩
          | some record =>
              obtain ⟨entry, there, _, rfl⟩ := cached_eq_some.mp served
              obtain ⟨filler, key, cacheable⟩ := only.entries _ entry there
              have own : (reads filler).namespaceName = (reads i).namespaceName ∧
                  (reads filler).key = (reads i).key :=
                (cacheKey_eq_iff.mp key.symm).resolve_right (apart filler i entry.record cacheable)
              dsimp only
              unfold answerFor
              split
              · exact ⟨cacheable.asksFor.1.trans own.1, cacheable.asksFor.2.trans own.2⟩
              · trivial
      | fails => exact ⟨rfl, rfl⟩
      | dies => trivial
  | querying namespaceName key actor =>
      intro turn
      obtain ⟨rfl, rfl⟩ := turn
      cases passage with
      | succeeds => exact readBy_readRow only.records only.clock actor
      | fails => trivial
      | dies => trivial
  | found namespaceName key record =>
      intro turn
      cases passage with
      | succeeds => exact turn.2.2.asksFor
      | fails => exact turn.2.2.asksFor
      | dies => trivial
  | answered answer =>
      intro turn
      cases passage <;> exact turn
  | raised error =>
      intro turn
      cases passage <;> exact turn
  | _ => exact False.elim

theorem OnlyRead.step (apart : KeysApart world reads) (only : OnlyRead world reads crew)
    (act : Act ι Passage MemoryEvent) :
    OnlyRead world reads (crew.step (MemoryTurn.move service) MemoryEvent.apply act) := by
  cases act with
  | own i passage =>
      constructor
      · exact (records_readBy (only.turns i) passage i).trans only.records
      · exact Int.le_trans only.clock (Int.le_of_eq (cache_move service i passage _ _).1.symm)
      · intro key entry there
        rcases entry_move there with ⟨before, _⟩ | ⟨namespaceName, recordKey, _, turn, rfl, _⟩
        · exact only.entries key entry before
        · have filler := only.turns i
          rw [turn] at filler
          obtain ⟨rfl, rfl, cacheable⟩ := filler
          exact ⟨i, rfl, cacheable⟩
      · intro j
        rcases Crew.step_phase (MemoryTurn.move service) MemoryEvent.apply crew (.own i passage) j
          with same | ⟨passage', _, _, moved⟩
        · rw [same]
          exact only.turns j
        · rw [moved]
          exact readBy_move apart only j passage'
  | outside event =>
      cases event with
      | tick later =>
          exact ⟨only.records, Int.le_trans only.clock (Int.le_max_left _ _), only.entries,
            only.turns⟩
      | evict gone =>
          refine ⟨only.records, only.clock, ?_, only.turns⟩
          intro key entry there
          have popped : Dict.get? (Dict.pop crew.shared.cache gone) key = some entry := there
          rw [Dict.get?_pop] at popped
          split at popped
          · cases popped
          · exact only.entries key entry popped

end

section

variable {ι : Type} [DecidableEq ι]

abbrev readers (records : MemoryTable) (clock : Time) (reads : ι → MemoryRead) : MemoryCrew ι :=
  .start records clock fun i => (reads i).call

/-- In every history of the reads each returns no record but the one that it asks for. -/
def ExactReads (service : MemoryService) (records : MemoryTable) (clock : Time)
    (reads : ι → MemoryRead) : Prop :=
  ∀ acts n i record,
    ((readers records clock reads).after service acts n).phase i = .answered (some record) →
      (reads i).AsksFor record

theorem readRow_cacheable {world : MemoryWorld} {read : MemoryRead} {record : MemoryRecord}
    (cacheable : Cacheable world read record) (actor : String) :
    world.readRow read.namespaceName read.key actor =
      .found read.namespaceName read.key record := by
  obtain ⟨held, active, shared, lives⟩ := cacheable
  obtain ⟨row, found, decoded⟩ := Option.bind_eq_some_iff.mp held
  have fresh : record.expiresAt.any (· ≤ world.clock) = false := by
    cases expires : record.expiresAt with
    | none => rfl
    | some expiresAt => simpa using lives expiresAt expires
  have allowed : checkAccessPolicy record actor = true := if_pos shared
  unfold MemoryWorld.readRow
  rw [found]
  simp [decoded, active, fresh, allowed, shared]

theorem cached_setCached {world : MemoryWorld} {row : MemoryRow} {record : MemoryRecord}
    (decoded : dbToDomain row = some record) (key : String) :
    (world.setCached key record).cached key = some record := by
  have bounds := (dbToDomain_some decoded).2.2.2.2.2.2.2.2
  have positive : 0 < MemoryWorld.ttlOf record := by
    unfold withinBounds at bounds
    unfold MemoryWorld.ttlOf
    cases ttl : record.ttlSeconds with
    | none => decide
    | some seconds =>
        rw [ttl, Bool.and_eq_true] at bounds
        have least : 1 ≤ seconds := by simpa using bounds.2
        dsimp only
        split
        · decide
        · omega
  refine cached_eq_some.mpr ⟨_, Dict.get?_set_self _ _ _, ?_, rfl⟩
  exact Int.lt_add_of_pos_right _ (Int.mul_pos positive (by decide))

/-- What one read has put into the cache, another with the same cache key gets. -/
theorem served_to_other (service : MemoryService) {records : MemoryTable} {clock : Time}
    {reads : ι → MemoryRead} {i j : ι} {record : MemoryRecord} (other : j ≠ i)
    (cacheable : Cacheable (readers records clock reads).shared (reads i) record)
    (same : (reads i).cacheKey = (reads j).cacheKey) :
    ((readers records clock reads).after service
      [.own i .succeeds, .own i .succeeds, .own i .succeeds, .own j .succeeds] 4).phase j =
        .answered (some record) := by
  let filling : List (Act ι Passage MemoryEvent) :=
    [Passage.succeeds, .succeeds, .succeeds].map (Act.own i)
  obtain ⟨row, _, decoded, _⟩ := getByKey_decoded cacheable.1
  have filled : ((readers records clock reads).after service filling 3).shared =
      (readers records clock reads).shared.setCached (reads i).cacheKey record := by
    refine (Crew.after_own _ _ _ i [Passage.succeeds, .succeeds, .succeeds]).1.trans ?_
    have missed : MemoryTurn.move service i .succeeds (readers records clock reads).shared
        ((readers records clock reads).phase i) =
        ((readers records clock reads).shared,
          .querying (reads i).namespaceName (reads i).key (reads i).actor) := rfl
    have found : MemoryTurn.move service i .succeeds (readers records clock reads).shared
        (.querying (reads i).namespaceName (reads i).key (reads i).actor) =
        ((readers records clock reads).shared,
          .found (reads i).namespaceName (reads i).key record) :=
      congrArg (Prod.mk _) (readRow_cacheable cacheable (reads i).actor)
    unfold Crew.alone
    simp only [List.foldl_cons, List.foldl_nil, missed, found]
    rfl
  have waiting : ((readers records clock reads).after service filling 3).phase j =
      .called (reads j).call := by
    refine Crew.after_phase _ _ _ other filling ?_ 3
    intro act member
    obtain ⟨passage, _, rfl⟩ := List.mem_map.mp member
    exact ⟨passage, rfl⟩
  have last : ((readers records clock reads).after service
      [.own i .succeeds, .own i .succeeds, .own i .succeeds, .own j .succeeds] 4).phase j =
      (MemoryTurn.move service j .succeeds
        ((readers records clock reads).after service filling 3).shared
        (((readers records clock reads).after service filling 3).phase j)).2 :=
    Function.update_self ..
  have served : ((readers records clock reads).shared.setCached (reads i).cacheKey record).cached
      (Memory.cacheKey (reads j).namespaceName (reads j).key) = some record := by
    rw [same]
    exact cached_setCached decoded _
  rw [last, filled, waiting]
  simp only [MemoryRead.call, MemoryTurn.move, MemoryTurn.advance, served]
  exact congrArg _ (if_pos (if_pos cacheable.2.2.1))

/-- The reads are exact in every history exactly if their keys are apart. -/
theorem exact_reads_iff (service : MemoryService) (records : MemoryTable) (clock : Time)
    (reads : ι → MemoryRead) :
    ExactReads service records clock reads ↔
      KeysApart (readers records clock reads).shared reads := by
  constructor
  · intro exact_ i j record cacheable collides
    have other : j ≠ i := by
      rintro rfl
      exact collides.apart rfl
    have served := served_to_other service other cacheable
      (cacheKey_eq_iff.mpr (.inr collides))
    have asked := exact_ _ _ _ _ served
    exact collides.apart (asked.2.symm.trans cacheable.asksFor.2)
  · intro apart acts n i record returned
    have only : OnlyRead (readers records clock reads).shared reads
        ((readers records clock reads).after service acts n) := by
      apply stateAfter_invariant _ _ _ (OnlyRead (readers records clock reads).shared reads)
      · constructor
        · rfl
        · exact Int.le_refl _
        · intro key entry there
          cases there
        · intro j
          rfl
      · intro k act _ before
        exact before.step apart act
    have turn := only.turns i
    rw [returned] at turn
    exact turn

end

/-! A record of the namespace `agent` is served for one of the namespace `agent:facts`. -/

def agentRow : MemoryRow where
  id := "m1"
  namespaceName := "agent"
  key := "facts:1"
  value := .dict [("note", .str "x")]
  memoryType := .semantic
  source := some "chat"
  actor := some "ada"
  confidence := some 1
  accessPolicy := "default"
  lineage := []
  ttlSeconds := none
  expiresAt := none
  deletionStatus := .active
  deletedAt := none
  tags := []
  createdAt := 0
  updatedAt := 0

def agentTable : MemoryTable := ⟨[agentRow], List.nodup_singleton _⟩

def agentReads : Bool → MemoryRead
  | false => { namespaceName := "agent", key := "facts:1", actor := "ada" }
  | true => { namespaceName := "agent:facts", key := "1", actor := "bob" }

def agentRun : List (Act Bool Passage MemoryEvent) :=
  [.own false .succeeds, .own false .succeeds, .own false .succeeds, .own true .succeeds]

theorem agent_served_for_facts : ¬ ExactReads {} agentTable 0 agentReads := by
  intro exact_
  have asked := (exact_ agentRun 4 true _ rfl).1
  have differ : ("agent" : String) ≠ "agent:facts" := by decide
  exact differ asked

end SyndicateClaw.Memory
