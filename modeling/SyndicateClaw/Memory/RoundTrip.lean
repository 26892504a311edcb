import SyndicateClaw.Memory.ServiceSteps

/-! Which records come back from the table as they were written, and as they were updated. -/

namespace SyndicateClaw.Orchestrator.Value

mutual

def sortKeys : Value → Value
  | .list items => .list (sortKeysItems items)
  | .dict entries => .dict ((sortKeysEntries entries).mergeSort fun a b => decide (a.1 ≤ b.1))
  | other => other

def sortKeysItems : List Value → List Value
  | [] => []
  | item :: items => sortKeys item :: sortKeysItems items

def sortKeysEntries : List (String × Value) → List (String × Value)
  | [] => []
  | (key, value) :: entries => (key, sortKeys value) :: sortKeysEntries entries

end

def SameJson (value other : Value) : Prop := value.sortKeys = other.sortKeys

instance (value other : Value) : Decidable (SameJson value other) :=
  inferInstanceAs (Decidable (_ = _))

variable {value other inner : Value} {key : String}

theorem sortKeys_single : (Value.dict [(key, value)]).sortKeys = .dict [(key, value.sortKeys)] := by
  simp [sortKeys, sortKeysEntries]

theorem single_of_sortKeys (sorted : value.sortKeys = .dict [(key, other)]) :
    ∃ entry, value = .dict [(key, entry)] ∧ entry.sortKeys = other := by
  cases value with
  | dict entries =>
      rw [sortKeys, Value.dict.injEq] at sorted
      have perm := List.mergeSort_perm (sortKeysEntries entries) fun a b => decide (a.1 ≤ b.1)
      rw [sorted] at perm
      have one := List.perm_singleton.mp perm.symm
      match entries with
      | [] => cases one
      | [(first, entry)] =>
          simp only [sortKeysEntries, List.cons.injEq, Prod.mk.injEq, and_true] at one
          obtain ⟨rfl, same⟩ := one
          exact ⟨entry, rfl, same⟩
      | _ :: _ :: _ => cases one
  | _ => cases sorted

theorem not_sameJson_wrapping (inner : Value) : ¬ SameJson inner (.dict [(key, inner)]) := by
  intro same
  obtain ⟨entry, rfl, nested⟩ := single_of_sortKeys (same.trans sortKeys_single)
  exact not_sameJson_wrapping entry nested
termination_by sizeOf inner

theorem not_pyEq_wrapping (key : String) (value inner : Value) (same : SameJson inner value) :
    Condition.pyEq value (.dict [(key, inner)]) = false := by
  rw [Bool.eq_false_iff]
  intro equal
  match value, equal with
  | .bool _, equal | .int _, equal | .float _ _, equal =>
      simp [Condition.pyEq, Condition.number?] at equal
  | .dict [(first, entry)], equal =>
      obtain ⟨other, rfl, nested⟩ := single_of_sortKeys (same.trans sortKeys_single)
      have deeper : first = key ∧ Condition.pyEq entry (.dict [(first, other)]) = true := by
        by_cases own : first = key
        · simpa [Condition.pyEq, Condition.pyEqEntries, Dict.get?_cons, own] using equal
        · have absent : Dict.get? [(key, Value.dict [(first, other)])] first = Option.none := by
            rw [Dict.get?_cons, if_neg (Ne.symm own)]
            rfl
          simp [Condition.pyEq, Condition.pyEqEntries, absent] at equal
      exact Bool.eq_false_iff.mp (not_pyEq_wrapping first entry other nested) deeper.2
  | .dict [], equal => simp [Condition.pyEq] at equal
  | .dict (_ :: _ :: _), equal => simp [Condition.pyEq] at equal
termination_by sizeOf value

end SyndicateClaw.Orchestrator.Value

namespace SyndicateClaw.Memory

open Approval (changed changed_self)
open Authz (Time)
open Orchestrator
open Orchestrator.Value (SameJson)

def Wraps (value : Value) : Prop := ∃ inner, value = .dict [("_v", inner)]

def SameRecord (stored record : MemoryRecord) : Prop :=
  SameJson stored.value record.value ∧ { stored with value := record.value } = record

def ReadsAs (row : MemoryRow) (record : MemoryRecord) : Prop :=
  ∃ stored, dbToDomain row = some stored ∧ SameRecord stored record

/-- `db_record.confidence or 1.0` -/
def readConfidence : Option Rat → Rat
  | none => 1
  | some confidence => if confidence = 0 then 1 else confidence

section

variable {value other : Value} {row : MemoryRow} {record : MemoryRecord}

theorem unwrapped_eq_self (plain : ¬ Wraps value) : unwrapped value = value := by
  unfold unwrapped
  split
  · exact absurd ⟨_, rfl⟩ plain
  · rfl

theorem sameJson_unwrapped : SameJson (unwrapped value) value ↔ ¬ Wraps value := by
  constructor
  · rintro same ⟨inner, rfl⟩
    exact Value.not_sameJson_wrapping inner same
  · intro plain
    rw [unwrapped_eq_self plain]
    rfl

theorem Wraps.of_sameJson (wraps : Wraps other) (same : SameJson value other) : Wraps value := by
  obtain ⟨inner, rfl⟩ := wraps
  obtain ⟨entry, rfl, _⟩ := Value.single_of_sortKeys (same.trans Value.sortKeys_single)
  exact ⟨entry, rfl⟩

theorem unwrapped_wrapped (value : Value) : unwrapped (wrapped "_v" value) = unwrapped value := by
  cases value with
  | dict entries => rfl
  | _ => rfl

theorem dbToDomain_iff : dbToDomain row = some record ↔
    ∃ lineage tags, MemoryLineage.ofDict? row.lineage = some lineage ∧
      tagsOf? row.tags = some tags ∧
      withinBounds (readConfidence row.confidence) row.ttlSeconds = true ∧
      record = { row with
        value := unwrapped row.value
        source := row.source.getD ""
        actor := row.actor.getD ""
        confidence := readConfidence row.confidence
        lineage, tags } := by
  unfold dbToDomain readConfidence
  simp only [Option.bind_eq_bind, Option.bind_eq_some_iff, Option.guard_eq_some', Option.pure_def,
    Option.some.injEq]
  constructor
  · rintro ⟨lineage, read, tags, texts, _, bounds, rfl⟩
    exact ⟨lineage, tags, read, texts, bounds, rfl⟩
  · rintro ⟨lineage, tags, read, texts, bounds, rfl⟩
    exact ⟨lineage, read, tags, texts, (), bounds, rfl⟩

theorem readConfidence_some (confidence : Rat) :
    readConfidence (some confidence) = confidence ↔ confidence ≠ 0 := by
  unfold readConfidence
  dsimp only
  split
  · next zero =>
      rw [zero]
      decide
  · next nonzero => simp [nonzero]

/-! ### Writes -/

theorem readsAs_domainToDb (accepted : (dbToDomain (domainToDb record)).isSome) :
    ReadsAs (domainToDb record) record ↔ record.confidence ≠ 0 ∧ ¬ Wraps record.value := by
  obtain ⟨stored, read⟩ := Option.isSome_iff_exists.mp accepted
  obtain ⟨lineage, tags, sameLineage, sameTags, _, rfl⟩ := dbToDomain_iff.mp read
  obtain rfl : record.lineage = lineage :=
    Option.some.inj ((MemoryLineage.ofDict_modelDump record.lineage).symm.trans sameLineage)
  obtain rfl : record.tags = tags := Option.some.inj ((tagsOf_str record.tags).symm.trans sameTags)
  unfold ReadsAs
  simp only [read, Option.some.injEq, exists_eq_left', SameRecord]
  rw [← readConfidence_some, ← sameJson_unwrapped, ← unwrapped_wrapped record.value]
  constructor
  · rintro ⟨same, equal⟩
    exact ⟨congrArg MemoryRecord.confidence equal, same⟩
  · rintro ⟨sure, same⟩
    refine ⟨same, ?_⟩
    simp only [domainToDb, Option.getD_some, sure]

end

/-! ### Updates -/

def MemoryUpdates.applied (updates : MemoryUpdates) (now : Time) (existing : MemoryRecord) :
    MemoryRecord :=
  { existing with
    value := updates.value.getD existing.value
    confidence := updates.confidence.getD existing.confidence
    tags := updates.tags.getD existing.tags
    ttlSeconds := updates.ttlSeconds.getD existing.ttlSeconds
    accessPolicy := updates.accessPolicy.getD existing.accessPolicy
    expiresAt := (updates.expiry now).or existing.expiresAt
    lineage := MemoryUpdates.lineageAfter existing
    updatedAt := now }

/-- The value of an update, if there is one, can be told from what it replaces and from a wrapped
value. -/
def MemoryUpdates.Distinguished (updates : MemoryUpdates) (row : MemoryRow) : Prop :=
  ∀ value, updates.value = some value → ¬ Wraps value ∧
    (Condition.pyEq value row.value = true → SameJson row.value value)

section

variable {updates : MemoryUpdates} {row : MemoryRow} {existing : MemoryRecord} {now : Time}

theorem sameJson_assigned :
    SameJson (unwrapped ((updates.assigned row).getD row.value))
        (updates.value.getD (unwrapped row.value)) ↔ updates.Distinguished row := by
  unfold MemoryUpdates.assigned MemoryUpdates.Distinguished
  cases updates.value with
  | none =>
      simp only [Option.filter_none, Option.getD_none, reduceCtorEq, false_implies, implies_true,
        iff_true]
      rfl
  | some value =>
      simp only [Option.getD_some, Option.some.injEq, forall_eq']
      cases equal : Condition.pyEq value row.value with
      | false =>
          rw [Option.filter_some_pos (by simp [equal])]
          simp only [Option.getD_some, Bool.false_eq_true, false_implies, and_true]
          exact sameJson_unwrapped
      | true =>
          rw [Option.filter_some_neg (by simp [equal])]
          simp only [Option.getD_none, true_implies]
          -- The column stays as it is.
          constructor
          · intro same
            have plain : ¬ Wraps row.value := by
              rintro ⟨inner, wrapping⟩
              rw [wrapping] at same equal
              exact Bool.eq_false_iff.mp (Value.not_pyEq_wrapping "_v" value inner same) equal
            rw [unwrapped_eq_self plain] at same
            exact ⟨fun wraps => plain (wraps.of_sameJson same), same⟩
          · rintro ⟨plain, same⟩
            rw [unwrapped_eq_self fun wraps => plain (wraps.of_sameJson same.symm)]
            exact same

theorem flushed_self : updates.flushed now row existing row =
    { row with
      value := (updates.assigned row).getD row.value
      confidence := updates.confidence.elim row.confidence some
      tags := updates.tags.elim row.tags tagValues
      ttlSeconds := updates.ttlSeconds.getD row.ttlSeconds
      accessPolicy := updates.accessPolicy.getD row.accessPolicy
      expiresAt := (updates.expiry now).or row.expiresAt
      lineage := (MemoryUpdates.lineageAfter existing).modelDump
      updatedAt := now } := by
  unfold MemoryUpdates.flushed
  simp only [changed_self]
  congr
  · cases updates.accessPolicy <;> rfl
  · cases updates.ttlSeconds <;> rfl
  · cases updates.expiry now <;> rfl

theorem tagsOf_elim {tags : Dict String String} (read : tagsOf? row.tags = some tags) :
    tagsOf? (updates.tags.elim row.tags tagValues) = some (updates.tags.getD tags) := by
  cases updates.tags with
  | none => exact read
  | some others => exact tagsOf_str others

theorem readConfidence_elim (row : MemoryRow) :
    readConfidence (updates.confidence.elim row.confidence some) =
      updates.confidence.getD (readConfidence row.confidence) ↔ updates.confidence ≠ some 0 := by
  cases updates.confidence with
  | none => simp
  | some confidence =>
      rw [Option.elim_some, Option.getD_some, readConfidence_some]
      simp

theorem readsAs_flushed (read : dbToDomain row = some existing)
    (accepted : (dbToDomain (updates.flushed now row existing row)).isSome) :
    ReadsAs (updates.flushed now row existing row) (updates.applied now existing) ↔
      updates.Distinguished row ∧ updates.confidence ≠ some 0 := by
  obtain ⟨stored, after⟩ := Option.isSome_iff_exists.mp accepted
  unfold ReadsAs
  simp only [after, Option.some.injEq, exists_eq_left', SameRecord]
  rw [flushed_self] at after
  obtain ⟨lineage, tags, _, texts, _, known⟩ := dbToDomain_iff.mp read
  obtain ⟨newLineage, newTags, sameLineage, sameTags, _, rfl⟩ := dbToDomain_iff.mp after
  obtain rfl := Option.some.inj ((MemoryLineage.ofDict_modelDump _).symm.trans sameLineage)
  obtain rfl := Option.some.inj ((tagsOf_elim texts).symm.trans sameTags)
  rw [← readConfidence_elim row, ← sameJson_assigned]
  unfold MemoryUpdates.applied
  rw [known]
  apply and_congr Iff.rfl
  constructor
  · exact congrArg MemoryRecord.confidence
  · intro same
    simp only [same]

end

end SyndicateClaw.Memory
