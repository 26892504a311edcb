import SyndicateClaw.Api.MemoryReads
import SyndicateClaw.Memory.CacheFreshness

/-! What the paths by which the memory is read let an actor see. -/

namespace SyndicateClaw.Api

open Memory Orchestrator

inductive ReadPath where
  | read (namespaceName key : String)
  | search (namespaceName : String) (isMatch : MemoryRecord → Bool) (includeExpired : Bool)
  | readMemory (namespaceName key : String)
  | searchMemory (namespaceName : String) (memoryType : Option String) (offset limit : Nat)
  | getMemoryLineage (recordId : String)

structure ShownRecord where
  id : String
  accessPolicy : String
  owner : String

def ShownRecord.ofRecord (record : MemoryRecord) : ShownRecord where
  id := record.id
  accessPolicy := record.accessPolicy
  owner := record.actor

def ShownRecord.ofRow (row : MemoryRow) : ShownRecord where
  id := row.id
  accessPolicy := row.accessPolicy
  owner := row.actor.getD ""

def Undeleted (world : MemoryWorld) (recordId : String) : Prop :=
  ∃ row, world.records.get? recordId = some row ∧ row.deletionStatus = .active

namespace ReadPath

variable (service : MemoryService) (world : MemoryWorld) (scan : List MemoryRow) (actor : String)

def returned : ReadPath → List ShownRecord
  | .read namespaceName key =>
      (world.read service namespaceName key actor).2.returned.toList.map .ofRecord
  | .search namespaceName isMatch includeExpired =>
      ((world.search namespaceName actor isMatch includeExpired).getD []).map .ofRecord
  | .readMemory namespaceName key =>
      (Api.readMemory world.records namespaceName key actor).toOption.toList.map .ofRow
  | .searchMemory namespaceName memoryType offset limit =>
      ((Api.searchMemory scan namespaceName memoryType offset limit actor).toOption.getD []).map
        .ofRow
  | .getMemoryLineage recordId =>
      ((Api.getMemoryLineage world.records recordId actor).toOption.getD []).map .ofRow

def Respects (path : ReadPath) : Prop :=
  ∀ shown ∈ path.returned service world scan actor,
    policyAdmits shown.accessPolicy shown.owner actor = true ∧ Undeleted world shown.id

/-- When a path respects the policy: what is cached is undeleted, what a search for expired
records matches is undeleted, and what a lineage leads to is undeleted and for the actor to see. -/
def Guarded : ReadPath → Prop
  | .read namespaceName key =>
      ∀ record, world.cached (cacheKey namespaceName key) = some record →
        checkAccessPolicy record actor = true → Undeleted world record.id
  | .search namespaceName isMatch includeExpired =>
      includeExpired = true → ((world.getByNamespace namespaceName).mapM dbToDomain).isSome →
        ∀ row ∈ world.getByNamespace namespaceName, ∀ record, dbToDomain row = some record →
          isMatch record = true → checkAccessPolicy record actor = true →
          row.deletionStatus = .active
  | .readMemory _ _ | .searchMemory _ _ _ _ => True
  | .getMemoryLineage recordId =>
      (∃ row, heldMemory world.records recordId actor = .ok row) →
      (∀ row, world.records.Reaches parentIds recordId row → ∃ ids, parentIds row = .ok ids) →
        ∀ row, world.records.Reaches parentIds recordId row →
          policyAdmits row.accessPolicy (row.actor.getD "") actor = true ∧
          row.deletionStatus = .active

end ReadPath

section

variable {service : MemoryService} {world : MemoryWorld} {scan : List MemoryRow}
  {namespaceName key actor recordId : String} {row : MemoryRow} {record : MemoryRecord}

theorem undeleted_of_mem (member : row ∈ world.records.rows)
    (active : row.deletionStatus = .active) : Undeleted world row.id :=
  ⟨row, Keyed.get?_of_mem member, active⟩

theorem undeleted_iff (member : row ∈ world.records.rows) :
    Undeleted world row.id ↔ row.deletionStatus = .active := by
  constructor
  · intro undeleted
    obtain ⟨stored, found, active⟩ := undeleted
    obtain rfl := Option.some.inj ((Keyed.get?_of_mem member).symm.trans found)
    exact active
  · exact undeleted_of_mem member

theorem policyAdmits_row (read : dbToDomain row = some record) :
    checkAccessPolicy record actor = policyAdmits row.accessPolicy (row.actor.getD "") actor := by
  unfold dbToDomain at read
  simp only [Option.bind_eq_bind, Option.bind_eq_some_iff, Option.guard_eq_some', Option.pure_def,
    Option.some.injEq] at read
  obtain ⟨_, _, _, _, _, _, rfl⟩ := read
  rfl

theorem respects_read : (ReadPath.read namespaceName key).Respects service world scan actor ↔
    (ReadPath.read namespaceName key).Guarded world actor := by
  unfold ReadPath.Respects ReadPath.returned ReadPath.Guarded
  simp only [returned_read, List.forall_mem_map, Option.mem_toList]
  cases cached : world.cached (cacheKey namespaceName key) with
  | some record =>
      simp only [answerFor, Option.some.injEq, forall_eq']
      cases allowed : checkAccessPolicy record actor with
      | false => simp
      | true =>
          rw [checkAccessPolicy_eq] at allowed
          simp [ShownRecord.ofRecord, allowed]
  | none =>
      simp only [reduceCtorEq, false_implies, implies_true, iff_true]
      intro record read
      obtain ⟨row, found, decoded, lives, allowed⟩ := readUncached_eq_some.mp read
      refine ⟨allowed, ?_⟩
      have active : row.deletionStatus = .active := by
        unfold MemoryWorld.live at lives
        simp only [Bool.and_eq_true, decide_eq_true_eq] at lives
        exact lives.1
      have stored := undeleted_of_mem (List.mem_of_find?_eq_some found) active
      rwa [← (dbToDomain_some decoded).1] at stored

theorem respects_search {isMatch : MemoryRecord → Bool} {includeExpired : Bool} :
    (ReadPath.search namespaceName isMatch includeExpired).Respects service world scan actor ↔
      (ReadPath.search namespaceName isMatch includeExpired).Guarded world actor := by
  unfold ReadPath.Respects ReadPath.returned ReadPath.Guarded
  simp only [List.forall_mem_map]
  cases includeExpired with
  | false =>
      simp only [Bool.false_eq_true, false_implies, iff_true]
      intro record member
      cases found : world.search namespaceName actor isMatch false with
      | none =>
          rw [found] at member
          cases member
      | some records =>
          rw [found] at member
          obtain ⟨row, stored, _, decoded, kept, _, allowed⟩ := (mem_search found).mp member
          have lives := kept.resolve_left Bool.false_ne_true
          unfold MemoryWorld.live at lives
          simp only [Bool.and_eq_true, decide_eq_true_eq] at lives
          refine ⟨allowed, ?_⟩
          have undeleted := undeleted_of_mem stored lives.1
          rwa [← (dbToDomain_some decoded).1] at undeleted
  | true =>
      simp only [true_implies]
      have all : (world.getByNamespace namespaceName).filter (fun row => true || world.live row) =
          world.getByNamespace namespaceName := by simp
      cases read : (world.getByNamespace namespaceName).mapM dbToDomain with
      | none =>
          have failed : world.search namespaceName actor isMatch true = none := by
            unfold MemoryWorld.search
            rw [all]
            dsimp only
            rw [read]
            rfl
          simp [failed]
      | some records =>
          have found : ∃ results, world.search namespaceName actor isMatch true = some results := by
            unfold MemoryWorld.search
            rw [all]
            dsimp only
            rw [read]
            exact ⟨_, rfl⟩
          obtain ⟨results, found⟩ := found
          simp only [found, Option.getD_some, Option.isSome_some, true_implies]
          constructor
          · intro respects row member record decoded isMatch allowed
            have named := List.mem_filter.mp member
            have shown := respects record ((mem_search found).mpr
              ⟨row, named.1, by simpa using named.2, decoded, .inl rfl, isMatch, allowed⟩)
            apply (undeleted_iff named.1).mp
            rw [← (dbToDomain_some decoded).1]
            exact shown.2
          · intro guarded record member
            obtain ⟨row, stored, named, decoded, _, isMatch, allowed⟩ := (mem_search found).mp member
            have listed : row ∈ world.getByNamespace namespaceName :=
              List.mem_filter.mpr ⟨stored, by simpa using named⟩
            have active := guarded row listed record decoded isMatch allowed
            have undeleted := undeleted_of_mem stored active
            rw [← (dbToDomain_some decoded).1] at undeleted
            exact ⟨allowed, undeleted⟩

theorem respects_readMemory :
    (ReadPath.readMemory namespaceName key).Respects service world scan actor := by
  unfold ReadPath.Respects ReadPath.returned
  simp only [List.forall_mem_map, Option.mem_toList]
  intro row shown
  cases answer : readMemory world.records namespaceName key actor with
  | error error =>
      rw [answer] at shown
      cases shown
  | ok stored =>
      rw [answer] at shown
      obtain rfl := Option.some.inj shown
      obtain ⟨member, active, record, decoded, allowed⟩ := readMemory_ok answer
      rw [policyAdmits_row decoded] at allowed
      exact ⟨allowed, undeleted_of_mem member active⟩

theorem respects_searchMemory {memoryType : Option String} {offset limit : Nat}
    (scanned : scan.Perm world.records.rows) :
    (ReadPath.searchMemory namespaceName memoryType offset limit).Respects service world scan
      actor := by
  unfold ReadPath.Respects ReadPath.returned
  simp only [List.forall_mem_map]
  intro row shown
  cases answer : searchMemory scan namespaceName memoryType offset limit actor with
  | error error =>
      rw [answer] at shown
      cases shown
  | ok rows =>
      rw [answer] at shown
      obtain ⟨member, active, record, decoded, allowed⟩ := searchMemory_ok answer shown
      rw [policyAdmits_row decoded] at allowed
      exact ⟨allowed, undeleted_of_mem (scanned.mem_iff.mp member) active⟩

theorem respects_lineage :
    (ReadPath.getMemoryLineage recordId).Respects service world scan actor ↔
      (ReadPath.getMemoryLineage recordId).Guarded world actor := by
  unfold ReadPath.Respects ReadPath.returned ReadPath.Guarded
  simp only [List.forall_mem_map]
  have stored (row : MemoryRow) (reaches : world.records.Reaches parentIds recordId row) :
      row ∈ world.records.rows := (Keyed.get?_eq_some.mp reaches.stored).1
  cases answer : getMemoryLineage world.records recordId actor with
  | ok chain =>
      obtain ⟨held, readable⟩ := lineage_shown.mp ⟨chain, answer⟩
      constructor
      · intro respects _ _ row reaches
        have shown := respects row ((mem_lineage answer).mpr reaches)
        exact ⟨shown.1, (undeleted_iff (stored row reaches)).mp shown.2⟩
      · intro guarded row member
        have reaches := (mem_lineage answer).mp member
        have shown := guarded held readable row reaches
        exact ⟨shown.1, undeleted_of_mem (stored row reaches) shown.2⟩
  | error error =>
      constructor
      · intro _ held readable
        obtain ⟨chain, shown⟩ := lineage_shown.mpr ⟨held, readable⟩
        rw [answer] at shown
        cases shown
      · intro _ row member
        cases member

end

/-- Which reads respect the access policy and the deletions. -/
theorem policy_respected_iff (service : MemoryService) (world : MemoryWorld) (scan : List MemoryRow)
    (scanned : scan.Perm world.records.rows) (actor : String) (path : ReadPath) :
    path.Respects service world scan actor ↔ path.Guarded world actor := by
  cases path with
  | read namespaceName key => exact respects_read
  | search namespaceName isMatch includeExpired => exact respects_search
  | readMemory namespaceName key => exact iff_of_true respects_readMemory trivial
  | searchMemory namespaceName memoryType offset limit =>
      exact iff_of_true (respects_searchMemory scanned) trivial
  | getMemoryLineage recordId => exact respects_lineage

/-! A note that was made of a record that only its owner may see. -/

def derivedRow : MemoryRow :=
  { noteRow none with lineage := [("parent_ids", .list [.str "secret"])] }

def secretRow : MemoryRow :=
  { noteRow none with id := "secret", key := "b", accessPolicy := "owner_only" }

def derivedWorld : MemoryWorld where
  records := ⟨[derivedRow, secretRow], by decide⟩
  cache := []
  locks := []
  clock := 0

theorem respects_note :
    (ReadPath.readMemory "team" "a").Respects {} derivedWorld [secretRow, derivedRow] "bob" :=
  (policy_respected_iff {} derivedWorld [secretRow, derivedRow] (.swap derivedRow secretRow []) "bob"
    (.readMemory "team" "a")).mpr trivial

theorem secret_shown :
    ¬ (ReadPath.getMemoryLineage "m1").Respects {} derivedWorld derivedWorld.records.rows "bob" := by
  intro respects
  have readable (row : MemoryRow)
      (reaches : derivedWorld.records.Reaches parentIds "m1" row) :
      ∃ ids, parentIds row = .ok ids := by
    have member := (Keyed.get?_eq_some.mp reaches.stored).1
    rcases List.mem_cons.mp member with rfl | member
    · exact ⟨["secret"], rfl⟩
    · rw [List.mem_singleton.mp member]
      exact ⟨[], rfl⟩
  have reaches : derivedWorld.records.Reaches parentIds "m1" secretRow := by
    have found : derivedWorld.records.get? "m1" = some derivedRow := rfl
    have named : parentIds derivedRow = .ok ["secret"] := rfl
    exact .onward found named List.mem_cons_self (.here rfl)
  have shown := respects_lineage.mp respects ⟨derivedRow, rfl⟩ readable secretRow reaches
  exact absurd shown.1 (by decide +kernel)

end SyndicateClaw.Api
