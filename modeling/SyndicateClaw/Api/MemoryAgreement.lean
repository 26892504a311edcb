import SyndicateClaw.Api.MemoryReads
import SyndicateClaw.Memory.CacheFreshness

/-! What the routes and the service make of a namespace and a key: what is read under it, and whether it
can be written. -/

namespace SyndicateClaw.Api

open Async Memory Orchestrator
open Authz (Time)

variable (world : MemoryWorld) (namespaceName key actor : String)

/-- `read_memory` returns what `read` returns without a cache. -/
def ReadsAgree : Prop :=
  ∀ record, (∃ row, readMemory world.records namespaceName key actor = .ok row ∧
      dbToDomain row = some record) ↔
    world.readUncached namespaceName key actor = some record

def Outlived : Prop :=
  ∃ row ∈ world.records.rows, row.namespaceName = namespaceName ∧ row.key = key ∧
    row.deletionStatus = .active ∧ world.live row = false ∧
    ∃ record, dbToDomain row = some record ∧ checkAccessPolicy record actor = true

def VisibleAt : Prop := ∃ actor record, world.readUncached namespaceName key actor = some record

/-- The rows under the key are live, and there is someone who can see them. -/
def OnlyVisible : Prop :=
  ∀ row ∈ world.records.rows, row.namespaceName = namespaceName → row.key = key →
    world.live row = true ∧ ∃ record actor, dbToDomain row = some record ∧
      checkAccessPolicy record actor = true

def Vacant : Prop :=
  ∀ row ∈ world.records.rows, ¬(row.namespaceName = namespaceName ∧ row.key = key)

section

variable {service : MemoryService} {world : MemoryWorld} {namespaceName key actor : String}
  {row : MemoryRow} {record written : MemoryRecord}

/-! ### The unique constraint -/

theorem uniqueKeys_tableStep {turn : MemoryTurn} {records : MemoryTable}
    (unique : UniqueKeys world.records.rows) (step : TableStep service world turn records) :
    UniqueKeys records.rows := by
  have changed (recordId : String) (f : MemoryRow → MemoryRow) (keeps : ∀ row, (f row).id = row.id)
      (places : ∀ row, (f row).namespaceName = row.namespaceName ∧ (f row).key = row.key) :
      UniqueKeys (world.records.changeAt recordId f keeps).rows := by
    let edit := fun row : MemoryRow => if row.id = recordId then f row else row
    have edited (row : MemoryRow) :
        (edit row).namespaceName = row.namespaceName ∧ (edit row).key = row.key := by
      show (if row.id = recordId then f row else row).namespaceName = _ ∧
        (if row.id = recordId then f row else row).key = _
      split
      · exact places row
      · exact ⟨rfl, rfl⟩
    intro _ member _ inside sameNamespace sameKey
    obtain ⟨row, listed, rfl⟩ := List.mem_map.mp member
    obtain ⟨other, there, rfl⟩ := List.mem_map.mp inside
    have first := edited row
    have second := edited other
    have one : other = row := by
      apply unique row listed other there
      · exact second.1.symm.trans (sameNamespace.trans first.1)
      · exact second.2.symm.trans (sameKey.trans first.2)
    rw [one]
  cases step with
  | kept => exact unique
  | @written _ written _ _ apart =>
      have absent : ∀ other ∈ world.records.rows, ¬(other.id = (domainToDb written).id ∨
          other.namespaceName = (domainToDb written).namespaceName ∧
          other.key = (domainToDb written).key) := by
        intro other member conflict
        have listed : other.id ∈ world.conflicts (domainToDb written) :=
          List.mem_map_of_mem (List.mem_filter.mpr ⟨member, by simpa using conflict⟩)
        rw [apart] at listed
        cases listed
      intro row member other inside sameNamespace sameKey
      rcases Keyed.mem_insert member with before | rfl
      · rcases Keyed.mem_insert inside with there | rfl
        · exact unique row before other there sameNamespace sameKey
        · exact absurd (.inr ⟨sameNamespace.symm, sameKey.symm⟩) (absent row before)
      · rcases Keyed.mem_insert inside with there | rfl
        · exact absurd (.inr ⟨sameNamespace, sameKey⟩) (absent other there)
        · rfl
  | updated call => exact changed _ _ _ fun row => ⟨rfl, rfl⟩
  | deleted seen => exact changed _ _ _ fun row => ⟨rfl, rfl⟩
  | removed ids =>
      intro row member other inside sameNamespace sameKey
      exact unique row (List.mem_of_mem_filter member) other (List.mem_of_mem_filter inside)
        sameNamespace sameKey

theorem uniqueKeys_after {ι : Type} [DecidableEq ι] (service : MemoryService) (crew : MemoryCrew ι)
    (unique : UniqueKeys crew.shared.records.rows) (acts : List (Act ι Passage MemoryEvent)) (n : Nat) :
    UniqueKeys (crew.after service acts n).shared.records.rows := by
  apply stateAfter_invariant _ _ acts
    (fun crew : MemoryCrew ι => UniqueKeys crew.shared.records.rows) unique
  intro k act _ before
  cases act with
  | own i passage => exact uniqueKeys_tableStep before (tableStep_move service i passage _ _)
  | outside event => cases event <;> exact before

/-! ### Reads -/

theorem getByKey_iff (unique : UniqueKeys world.records.rows) :
    world.getByKey namespaceName key = some row ↔
      row ∈ world.records.rows ∧ row.namespaceName = namespaceName ∧ row.key = key := by
  constructor
  · intro found
    have named := List.find?_some found
    simp only [decide_eq_true_eq] at named
    exact ⟨List.mem_of_find?_eq_some found, named⟩
  · rintro ⟨member, rfl, rfl⟩
    exact getByKey_of_unique unique member

theorem readMemory_iff (unique : UniqueKeys world.records.rows) :
    readMemory world.records namespaceName key actor = .ok row ↔
      world.getByKey namespaceName key = some row ∧ row.deletionStatus = .active ∧
      ∃ record, dbToDomain row = some record ∧ checkAccessPolicy record actor = true := by
  rw [getByKey_iff unique]
  unfold readMemory
  cases found : world.records.rows.find? fun row =>
      row.namespaceName = namespaceName ∧ row.key = key ∧ row.deletionStatus = .active with
  | none =>
      simp only [reduceCtorEq, false_iff]
      rintro ⟨⟨member, named⟩, active, _⟩
      simpa [named, active] using List.find?_eq_none.mp found row member
  | some stored =>
      have selected := List.find?_some found
      simp only [decide_eq_true_eq] at selected
      have there := List.mem_of_find?_eq_some found
      dsimp only
      rw [shownMemory_ok]
      constructor
      · rintro ⟨rfl, allowed⟩
        exact ⟨⟨there, selected.1, selected.2.1⟩, selected.2.2, allowed⟩
      · rintro ⟨⟨member, sameNamespace, sameKey⟩, _, allowed⟩
        have one : row = stored := unique stored there row member
          (sameNamespace.trans selected.1.symm) (sameKey.trans selected.2.1.symm)
        exact ⟨one, one ▸ allowed⟩

theorem active_of_live (lives : world.live row = true) : row.deletionStatus = .active := by
  unfold MemoryWorld.live at lives
  simp only [Bool.and_eq_true, decide_eq_true_eq] at lives
  exact lives.1

theorem readsAgree_iff (unique : UniqueKeys world.records.rows) :
    ReadsAgree world namespaceName key actor ↔ ¬ Outlived world namespaceName key actor := by
  unfold ReadsAgree
  simp only [readUncached_eq_some, readMemory_iff unique]
  constructor
  · rintro agree ⟨row, member, sameNamespace, sameKey, active, dead, record, decoded, allowed⟩
    have found := (getByKey_iff unique).mpr ⟨member, sameNamespace, sameKey⟩
    obtain ⟨other, same, _, lives, _⟩ :=
      (agree record).mp ⟨row, ⟨found, active, record, decoded, allowed⟩, decoded⟩
    obtain rfl := Option.some.inj (found.symm.trans same)
    rw [dead] at lives
    cases lives
  · intro intime record
    constructor
    · rintro ⟨row, ⟨found, active, other, read, allowed⟩, decoded⟩
      obtain rfl := Option.some.inj (decoded.symm.trans read)
      refine ⟨row, found, decoded, ?_, allowed⟩
      obtain ⟨member, sameNamespace, sameKey⟩ := (getByKey_iff unique).mp found
      cases lives : world.live row with
      | true => rfl
      | false =>
          exact absurd ⟨row, member, sameNamespace, sameKey, active, lives, record, decoded, allowed⟩
            intime
    · rintro ⟨row, found, decoded, lives, allowed⟩
      exact ⟨row, ⟨found, active_of_live lives, record, decoded, allowed⟩, decoded⟩

/-! ### Writes -/

theorem vacant_iff (unique : UniqueKeys world.records.rows) :
    (Vacant world namespaceName key ↔ ¬ VisibleAt world namespaceName key) ↔
      OnlyVisible world namespaceName key := by
  unfold VisibleAt
  simp only [readUncached_eq_some]
  constructor
  · intro agree row member sameNamespace sameKey
    have occupied : ¬ Vacant world namespaceName key :=
      fun vacant => vacant row member ⟨sameNamespace, sameKey⟩
    obtain ⟨actor, record, other, found, decoded, lives, allowed⟩ :=
      not_not.mp fun unseen => occupied (agree.mpr unseen)
    have own := (getByKey_iff unique).mpr ⟨member, sameNamespace, sameKey⟩
    obtain rfl := Option.some.inj (own.symm.trans found)
    exact ⟨lives, record, actor, decoded, allowed⟩
  · intro visible
    constructor
    · rintro vacant ⟨_, _, row, found, _⟩
      obtain ⟨member, named⟩ := (getByKey_iff unique).mp found
      exact vacant row member named
    · rintro unseen row member ⟨sameNamespace, sameKey⟩
      obtain ⟨lives, record, actor, decoded, allowed⟩ := visible row member sameNamespace sameKey
      have found := (getByKey_iff unique).mpr ⟨member, sameNamespace, sameKey⟩
      exact unseen ⟨actor, record, row, found, decoded, lives, allowed⟩

/-- `write` stores a valid record with a new id if no row is under its key. -/
theorem commitWrite_iff (valid : service.writtenRecord world.clock record = .ok written)
    (readable : (dbToDomain (domainToDb written)).isSome)
    (fresh : world.records.get? record.id = none) (free : world.locks = []) :
    (world.commitWrite service record).2 =
        .settling [] [cacheKey record.namespaceName record.key] ↔
      Vacant world record.namespaceName record.key := by
  obtain ⟨expiresAt, rfl⟩ := writtenRecord_ok valid
  have vacancy : world.conflicts (domainToDb { record with expiresAt }) = [] ↔
      Vacant world record.namespaceName record.key := by
    unfold MemoryWorld.conflicts Vacant
    rw [List.map_eq_nil_iff, List.filter_eq_nil_iff]
    apply forall₂_congr
    intro row member
    have other : row.id ≠ record.id := by
      intro same
      rw [← same, Keyed.get?_of_mem member] at fresh
      cases fresh
    simp [domainToDb, other]
  have unlocked : world.unlocked (world.conflicts (domainToDb { record with expiresAt })) = true := by
    unfold MemoryWorld.unlocked
    rw [free]
    simp
  rw [← vacancy]
  unfold MemoryWorld.commitWrite
  rw [valid]
  dsimp only
  rw [if_neg (by simp [unlocked])]
  by_cases taken : world.conflicts (domainToDb { record with expiresAt }) = []
  · rw [if_neg (not_not.mpr taken), if_neg (by simpa [← Option.isSome_iff_ne_none] using readable)]
    exact iff_of_true rfl taken
  · rw [if_pos taken]
    exact iff_of_false nofun taken

/-- And so does `write_memory`. -/
theorem accepts_iff {store : MemoryStore} (same : store.records = world.records)
    (fresh : store.records.get? row.id = none) (valueBytes : Nat) :
    (store.commitWrite row valueBytes).2 = .answered (.ok ()) ↔
      Vacant world row.namespaceName row.key := by
  have vacancy : store.Accepts row ↔ Vacant world row.namespaceName row.key := by
    unfold MemoryStore.Accepts Vacant
    rw [same]
    exact and_iff_right (same ▸ fresh)
  rw [← vacancy]
  unfold MemoryStore.commitWrite
  split
  · next accepted => exact iff_of_true rfl accepted
  · next refused => exact iff_of_false nofun refused

end

/-- When the routes and the service agree about a key, at each point of a run of the service: the reads,
and the writes of a record with a new id, through the service and through the route. -/
theorem memory_agreement_iff {ι : Type} [DecidableEq ι] (service : MemoryService)
    (crew : MemoryCrew ι) (unique : UniqueKeys crew.shared.records.rows)
    (acts : List (Act ι Passage MemoryEvent)) (n : Nat) (namespaceName key : String) :
    let world := (crew.after service acts n).shared
    (∀ actor, ReadsAgree world namespaceName key actor ↔
      ¬ Outlived world namespaceName key actor) ∧
    (∀ record written, record.namespaceName = namespaceName → record.key = key →
      service.writtenRecord world.clock record = .ok written →
      (dbToDomain (domainToDb written)).isSome → world.records.get? record.id = none →
      world.locks = [] →
        (((world.commitWrite service record).2 = .settling [] [cacheKey namespaceName key] ↔
            ¬ VisibleAt world namespaceName key) ↔ OnlyVisible world namespaceName key)) ∧
    ∀ (store : MemoryStore) (row : MemoryRow) valueBytes, store.records = world.records →
      row.namespaceName = namespaceName → row.key = key → store.records.get? row.id = none →
        (((store.commitWrite row valueBytes).2 = .answered (.ok ()) ↔
            ¬ VisibleAt world namespaceName key) ↔ OnlyVisible world namespaceName key) := by
  intro world
  have unique := uniqueKeys_after service crew unique acts n
  refine ⟨?_, ?_, ?_⟩
  · intro actor
    exact readsAgree_iff unique
  · intro record written sameNamespace sameKey valid readable fresh free
    subst sameNamespace sameKey
    rw [commitWrite_iff valid readable fresh free]
    exact vacant_iff unique
  · intro store row valueBytes same sameNamespace sameKey fresh
    subst sameNamespace sameKey
    rw [accepts_iff same fresh]
    exact vacant_iff unique

/-! A note beyond its time: the route still shows it, and nothing else can be written in its place. -/

def keptWorld (expiresAt : Option Time) : MemoryWorld where
  records := noteTable expiresAt
  cache := []
  locks := []
  clock := 2

def keptCrew (expiresAt : Option Time) : MemoryCrew Nat where
  shared := keptWorld expiresAt
  phase := fun _ => .done []

def secondNote : MemoryRecord := { noteRecord none with id := "m2" }

theorem uniqueKeys_note (expiresAt : Option Time) : UniqueKeys (noteTable expiresAt).rows := by
  intro row member other inside _ _
  rw [List.mem_singleton.mp member, List.mem_singleton.mp inside]

theorem memory_agreement_note :
    ReadsAgree (keptWorld none) "team" "a" "bob" ∧
    ((((keptWorld none).commitWrite {} secondNote).2 = .settling [] [cacheKey "team" "a"] ↔
      ¬ VisibleAt (keptWorld none) "team" "a")) := by
  have agreement := memory_agreement_iff {} (keptCrew none) (uniqueKeys_note none) [] 0 "team" "a"
  have only : ∀ row ∈ (keptWorld none).records.rows, row = noteRow none :=
    fun row member => List.mem_singleton.mp member
  refine ⟨(agreement.1 "bob").mpr ?_, (agreement.2.1 secondNote secondNote rfl rfl rfl
    (by decide +kernel) rfl rfl).mpr ?_⟩
  · rintro ⟨row, member, _, _, _, dead, _⟩
    rw [only row member] at dead
    cases dead
  · intro row member _ _
    rw [only row member]
    exact ⟨rfl, noteRecord none, "bob", by decide +kernel, rfl⟩

theorem expired_note_kept :
    ¬ ReadsAgree (keptWorld (some 1)) "team" "a" "bob" ∧
    ((keptWorld (some 1)).commitWrite {} secondNote).2 = .raised .integrity ∧
    ¬ VisibleAt (keptWorld (some 1)) "team" "a" := by
  refine ⟨?_, rfl, ?_⟩
  · intro agree
    have shown := (agree (noteRecord (some 1))).mp ⟨noteRow (some 1), rfl, by decide +kernel⟩
    revert shown
    decide +kernel
  · rintro ⟨actor, record, read⟩
    obtain ⟨row, found, _, lives, _⟩ := readUncached_eq_some.mp read
    obtain rfl : noteRow (some 1) = row := Option.some.inj found
    revert lives
    decide +kernel

end SyndicateClaw.Api
