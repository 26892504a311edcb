import SyndicateClaw.Memory.CacheFreshness
import SyndicateClaw.Memory.RoundTrip

/-! The size and the depth of the values that the service stores. -/

namespace SyndicateClaw.Orchestrator.Value

mutual

def depth : Value → Nat
  | .list items => depthItems items
  | .dict entries => depthEntries entries
  | _ => 0

def depthItems : List Value → Nat
  | [] => 0
  | item :: items => max (depth item + 1) (depthItems items)

def depthEntries : List (String × Value) → Nat
  | [] => 0
  | (_, value) :: entries => max (depth value + 1) (depthEntries entries)

end

end SyndicateClaw.Orchestrator.Value

namespace SyndicateClaw.Memory

open Async Orchestrator
open Authz (Time)

/-- The value of a row, as it is read, is no larger and no deeper than the service allows. -/
def WithinLimits (service : MemoryService) (row : MemoryRow) : Prop :=
  jsonValueByteSize (unwrapped row.value) ≤ service.maxValueBytes ∧
    (unwrapped row.value).depth ≤ service.maxNestingDepth

instance (service : MemoryService) (row : MemoryRow) : Decidable (WithinLimits service row) :=
  inferInstanceAs (Decidable (_ ∧ _))

def WriteCommits (service : MemoryService) (world : MemoryWorld) (record : MemoryRecord) : Prop :=
  ∃ written, service.writtenRecord world.clock record = .ok written ∧
    world.conflicts (domainToDb written) = [] ∧ (dbToDomain (domainToDb written)).isSome

def UpdateCommits (world : MemoryWorld) (updates : MemoryUpdates) (seen : MemoryRow)
    (existing : MemoryRecord) (now : Time) : Prop :=
  ∃ row, world.records.get? seen.id = some row ∧ world.unlocked [row.id] = true ∧
    (dbToDomain (updates.flushed now seen existing row)).isSome

/-- The value that a step stores is shallow: a dictionary that is written has been checked. -/
def MemoryTurn.Shallow (service : MemoryService) (world : MemoryWorld) : MemoryTurn → Prop
  | .called (.write record) =>
      WriteCommits service world record →
        (∃ entries, record.value = .dict entries) ∨ record.value.depth ≤ service.maxNestingDepth
  | .updating updates seen existing now =>
      UpdateCommits world updates seen existing now → ∀ value, updates.assigned seen = some value →
        (unwrapped value).depth ≤ service.maxNestingDepth
  | _ => True

def ShallowAct {ι : Type} (service : MemoryService) (crew : MemoryCrew ι) :
    Act ι Passage MemoryEvent → Prop
  | .own i .succeeds => (crew.phase i).Shallow service crew.shared
  | _ => True

def MemoryTurn.stores : MemoryTurn → Bool
  | .called (.write _) | .updating _ _ _ _ => true
  | _ => false

def MemoryTurn.Sized (service : MemoryService) : MemoryTurn → Prop
  | .updating updates _ _ _ =>
      ∀ value, updates.value = some value → jsonValueByteSize value ≤ service.maxValueBytes
  | _ => True

section

variable {service : MemoryService} {world : MemoryWorld} {record written : MemoryRecord}
  {turn : MemoryTurn} {passage : Passage}

/-! ### Depth -/

mutual

/-- What `_check_nesting_depth` accepts. -/
theorem nestsWithin_iff {maxDepth : Nat} : ∀ (current : Nat) (value : Value),
    nestsWithin maxDepth current value = true ↔ current + value.depth ≤ maxDepth
  | current, .dict entries => by
      rw [nestsWithin, Value.depth, Bool.and_eq_true, decide_eq_true_eq]
      constructor
      · rintro ⟨le, within⟩
        exact (entriesNestWithin_iff current entries le).mp within
      · intro le
        have first : current ≤ maxDepth := by omega
        exact ⟨first, (entriesNestWithin_iff current entries first).mpr le⟩
  | current, .list items => by
      rw [nestsWithin, Value.depth, Bool.and_eq_true, decide_eq_true_eq]
      constructor
      · rintro ⟨le, within⟩
        exact (itemsNestWithin_iff current items le).mp within
      · intro le
        have first : current ≤ maxDepth := by omega
        exact ⟨first, (itemsNestWithin_iff current items first).mpr le⟩
  | _, .none | _, .bool _ | _, .int _ | _, .float _ _ | _, .str _ | _, .object _ => by
      simp [nestsWithin, Value.depth]

theorem itemsNestWithin_iff {maxDepth : Nat} : ∀ (current : Nat) (items : List Value),
    current ≤ maxDepth →
    (itemsNestWithin maxDepth (current + 1) items = true ↔
      current + Value.depthItems items ≤ maxDepth)
  | current, [], le => by simpa [itemsNestWithin, Value.depthItems] using le
  | current, item :: items, le => by
      rw [itemsNestWithin, Value.depthItems, Bool.and_eq_true, nestsWithin_iff,
        itemsNestWithin_iff current items le]
      omega

theorem entriesNestWithin_iff {maxDepth : Nat} : ∀ (current : Nat) (entries : List (String × Value)),
    current ≤ maxDepth →
    (entriesNestWithin maxDepth (current + 1) entries = true ↔
      current + Value.depthEntries entries ≤ maxDepth)
  | current, [], le => by simpa [entriesNestWithin, Value.depthEntries] using le
  | current, (_, value) :: entries, le => by
      rw [entriesNestWithin, Value.depthEntries, Bool.and_eq_true, nestsWithin_iff,
        entriesNestWithin_iff current entries le]
      omega

end

/-! ### What is read is no more than what is stored -/

theorem depth_unwrapped_le (value : Value) : (unwrapped value).depth ≤ value.depth := by
  unfold unwrapped
  split
  · next inner =>
      rw [Value.depth, Value.depthEntries, Value.depthEntries]
      omega
  · exact Nat.le_refl _

theorem size_unwrapped_le (value : Value) :
    jsonValueByteSize (unwrapped value) ≤ jsonValueByteSize value := by
  unfold unwrapped
  split
  · next inner =>
      unfold jsonValueByteSize
      rw [Tools.jsonDumps, Tools.jsonDumpsEntries, Tools.jsonDumpsEntries]
      simp only [String.intercalate_singleton, String.utf8ByteSize_append]
      omega
  · exact Nat.le_refl _

/-! ### Writes -/

theorem writtenRecord_limits {now : Time} (valid : service.writtenRecord now record = .ok written) :
    jsonValueByteSize record.value ≤ service.maxValueBytes ∧
      ∀ entries, record.value = .dict entries → record.value.depth ≤ service.maxNestingDepth := by
  have guarded : service.validateWriteGuardrails record = .ok () := by
    unfold MemoryService.writtenRecord at valid
    simp only [bind, Except.bind] at valid
    split at valid
    · cases valid
    split at valid
    · cases valid
    split at valid
    · cases valid
    · next checked => exact checked
  unfold MemoryService.validateWriteGuardrails MemoryService.validateValueBytes at guarded
  simp only [bind, Except.bind] at guarded
  split at guarded
  · cases guarded
  split at guarded
  · cases guarded
  split at guarded
  · cases guarded
  · next size =>
      split at size
      · cases size
      · next fits =>
          refine ⟨not_lt.mp fits, ?_⟩
          intro entries dict
          rw [dict] at guarded ⊢
          dsimp only at guarded
          split at guarded
          · next nests => simpa using (nestsWithin_iff 0 (.dict entries)).mp nests
          · cases guarded

theorem withinLimits_written (valid : service.writtenRecord world.clock record = .ok written) :
    WithinLimits service (domainToDb written) ↔
      (∃ entries, record.value = .dict entries) ∨ record.value.depth ≤ service.maxNestingDepth := by
  have limits := writtenRecord_limits valid
  obtain ⟨expiresAt, rfl⟩ := writtenRecord_ok valid
  unfold WithinLimits domainToDb
  dsimp only
  rw [unwrapped_wrapped]
  have size := Nat.le_trans (size_unwrapped_le record.value) limits.1
  have depth := depth_unwrapped_le record.value
  constructor
  · intro within
    cases shape : record.value with
    | dict entries => exact .inl ⟨entries, rfl⟩
    | _ =>
        rw [shape] at within
        exact .inr within.2
  · intro shallow
    refine ⟨size, Nat.le_trans depth ?_⟩
    rcases shallow with ⟨entries, dict⟩ | shallow
    · exact limits.2 entries dict
    · exact shallow

theorem limits_commitWrite (before : ∀ row ∈ world.records.rows, WithinLimits service row) :
    (∀ row ∈ (world.commitWrite service record).1.records.rows, WithinLimits service row) ↔
      (MemoryTurn.called (.write record)).Shallow service world := by
  have idle (uncommitted : ¬ WriteCommits service world record) :
      (∀ row ∈ world.records.rows, WithinLimits service row) ↔
        (MemoryTurn.called (.write record)).Shallow service world :=
    iff_of_true before fun commits => absurd commits uncommitted
  unfold MemoryWorld.commitWrite
  cases valid : service.writtenRecord world.clock record with
  | error error =>
      apply idle
      rintro ⟨written, same, _⟩
      rw [valid] at same
      cases same
  | ok written =>
      dsimp only
      split_ifs with waits taken invalid
      · apply idle
        rintro ⟨other, same, apart, _⟩
        obtain rfl := Except.ok.inj (valid.symm.trans same)
        rw [apart] at waits
        cases waits
      · apply idle
        rintro ⟨other, same, apart, _⟩
        obtain rfl := Except.ok.inj (valid.symm.trans same)
        exact taken apart
      · apply idle
        rintro ⟨other, same, _, readable⟩
        obtain rfl := Except.ok.inj (valid.symm.trans same)
        rw [Option.isNone_iff_eq_none] at invalid
        rw [invalid] at readable
        cases readable
      · have apart := not_not.mp taken
        have readable : (dbToDomain (domainToDb written)).isSome = true := by
          simpa [← Option.isSome_iff_ne_none] using invalid
        have fresh : world.records.get? (domainToDb written).id = none := by
          cases found : world.records.get? (domainToDb written).id with
          | none => rfl
          | some row =>
              obtain ⟨member, same⟩ := Keyed.get?_eq_some.mp found
              have listed : row.id ∈ world.conflicts (domainToDb written) :=
                List.mem_map_of_mem (List.mem_filter.mpr ⟨member, by simp [same]⟩)
              rw [apart] at listed
              cases listed
        dsimp only
        rw [Keyed.forall_mem_insert before fresh, withinLimits_written valid]
        constructor
        · exact fun shallow _ => shallow
        · exact fun shallow => shallow ⟨written, valid, apart, readable⟩

/-! ### Updates -/

theorem validateValueBytes_ok {value : Value} (valid : service.validateValueBytes value = .ok ()) :
    jsonValueByteSize value ≤ service.maxValueBytes := by
  unfold MemoryService.validateValueBytes at valid
  split at valid
  · cases valid
  · next fits => exact not_lt.mp fits

theorem withinLimits_flushed {updates : MemoryUpdates} {seen row : MemoryRow}
    {existing : MemoryRecord} {now : Time} (before : WithinLimits service row)
    (sized : (MemoryTurn.updating updates seen existing now).Sized service) :
    WithinLimits service (updates.flushed now seen existing row) ↔
      ∀ value, updates.assigned seen = some value →
        (unwrapped value).depth ≤ service.maxNestingDepth := by
  unfold WithinLimits MemoryUpdates.flushed
  dsimp only
  cases assigned : updates.assigned seen with
  | none => exact iff_of_true before nofun
  | some value =>
      have given : updates.value = some value := (Option.filter_eq_some_iff.mp assigned).1
      have size := Nat.le_trans (size_unwrapped_le value) (sized value given)
      simp [size]

theorem limits_commitUpdate {updates : MemoryUpdates} {seen : MemoryRow} {existing : MemoryRecord}
    {now : Time} (before : ∀ row ∈ world.records.rows, WithinLimits service row)
    (sized : (MemoryTurn.updating updates seen existing now).Sized service) :
    (∀ row ∈ (world.commitUpdate updates seen existing now).1.records.rows,
        WithinLimits service row) ↔
      (MemoryTurn.updating updates seen existing now).Shallow service world := by
  have idle (uncommitted : ¬ UpdateCommits world updates seen existing now) :
      (∀ row ∈ world.records.rows, WithinLimits service row) ↔
        (MemoryTurn.updating updates seen existing now).Shallow service world :=
    iff_of_true before fun commits => absurd commits uncommitted
  unfold MemoryWorld.commitUpdate
  cases found : world.records.get? seen.id with
  | none =>
      apply idle
      rintro ⟨row, same, _⟩
      rw [found] at same
      cases same
  | some row =>
      dsimp only
      split
      · next waits =>
          apply idle
          rintro ⟨other, same, unlocked, _⟩
          obtain rfl := Option.some.inj (found.symm.trans same)
          rw [waits] at unlocked
          cases unlocked
      · next unlocked =>
          cases decoded : dbToDomain (updates.flushed now seen existing row) with
          | none =>
              apply idle
              rintro ⟨other, same, _, readable⟩
              obtain rfl := Option.some.inj (found.symm.trans same)
              rw [decoded] at readable
              cases readable
          | some updated =>
              have commits : UpdateCommits world updates seen existing now :=
                ⟨row, found, by simpa using unlocked, by rw [decoded]; rfl⟩
              dsimp only
              rw [Keyed.forall_mem_changeAt _ _ before found,
                withinLimits_flushed (before row (Keyed.get?_eq_some.mp found).1) sized]
              constructor
              · exact fun shallow _ => shallow
              · exact fun shallow => shallow commits

/-! ### Runs -/

theorem records_unmoved {ι : Type} {i : ι} (stopped : passage ≠ .succeeds) :
    (turn.move service i passage world).1.records = world.records := by
  cases passage with
  | succeeds => exact absurd rfl stopped
  | fails =>
      cases turn with
      | called call => cases call <;> rfl
      | settling touched keys => cases keys <;> rfl
      | _ => rfl
  | dies => cases turn <;> rfl

theorem limits_tableStep {records : MemoryTable}
    (before : ∀ row ∈ world.records.rows, WithinLimits service row)
    (step : TableStep service world turn records)
    (quiet : turn.stores = false) : ∀ row ∈ records.rows, WithinLimits service row := by
  cases step with
  | kept => exact before
  | written call =>
      rw [call] at quiet
      cases quiet
  | updated call =>
      rw [call] at quiet
      cases quiet
  | deleted seen =>
      intro row member
      obtain ⟨source, there, rfl⟩ := List.mem_map.mp member
      split
      · exact before source there
      · exact before source there
  | removed ids =>
      intro row member
      exact before row (List.mem_of_mem_filter member)

theorem sized_settle (touched keys : List String) : (MemoryTurn.settle touched keys).Sized service := by
  cases keys <;> trivial

theorem sized_move {ι : Type} {i : ι} (sized : turn.Sized service) :
    (turn.move service i passage world).2.Sized service := by
  cases passage with
  | succeeds =>
      show (turn.advance service world).2.Sized service
      have step := advances service world turn
      generalize turn.advance service world = moved at step ⊢
      cases step with
      | stays => exact sized
      | checks checked =>
          intro value given
          exact validateValueBytes_ok ((check_ok checked).2.2 value given)
      | purges => exact sized_settle _ _
      | invalidates => exact sized_settle _ _
      | _ => trivial
  | fails =>
      cases turn with
      | called call => cases call <;> trivial
      | settling touched keys =>
          cases keys with
          | nil => trivial
          | cons key keys => exact sized_settle touched keys
      | _ => trivial
  | dies => cases turn <;> trivial

theorem limits_move {ι : Type} (i : ι) (passage : Passage) (sized : turn.Sized service)
    (before : ∀ row ∈ world.records.rows, WithinLimits service row) :
    (∀ row ∈ (turn.move service i passage world).1.records.rows, WithinLimits service row) ↔
      (passage = .succeeds → turn.Shallow service world) := by
  have step := tableStep_move service i passage world turn
  cases passage with
  | succeeds =>
      simp only [true_implies]
      cases turn with
      | called call =>
          cases call with
          | write record => exact limits_commitWrite before
          | _ => exact iff_of_true (limits_tableStep before step rfl) trivial
      | updating updates seen existing now => exact limits_commitUpdate before sized
      | _ => exact iff_of_true (limits_tableStep before step rfl) trivial
  | fails =>
      refine iff_of_true ?_ nofun
      rw [records_unmoved]
      · exact before
      · decide
  | dies =>
      refine iff_of_true ?_ nofun
      rw [records_unmoved]
      · exact before
      · decide

variable {ι : Type} [DecidableEq ι]

theorem limits_step {crew : MemoryCrew ι} (act : Act ι Passage MemoryEvent)
    (before : (∀ row ∈ crew.shared.records.rows, WithinLimits service row) ∧
      ∀ i, (crew.phase i).Sized service) :
    ((∀ row ∈ (crew.step (MemoryTurn.move service) MemoryEvent.apply act).shared.records.rows,
        WithinLimits service row) ∧
      ∀ i, ((crew.step (MemoryTurn.move service) MemoryEvent.apply act).phase i).Sized service) ↔
      ShallowAct service crew act := by
  have sized (i : ι) :
      ((crew.step (MemoryTurn.move service) MemoryEvent.apply act).phase i).Sized service := by
    rcases Crew.step_phase (MemoryTurn.move service) MemoryEvent.apply crew act i with
      same | ⟨passage, _, _, moved⟩
    · rw [same]
      exact before.2 i
    · rw [moved]
      exact sized_move (before.2 i)
  rw [and_iff_left sized]
  cases act with
  | own i passage =>
      have moved := limits_move i passage (before.2 i) before.1
      apply moved.trans
      cases passage with
      | succeeds => exact ⟨fun shallow => shallow rfl, fun shallow _ => shallow⟩
      | fails => exact iff_of_true nofun trivial
      | dies => exact iff_of_true nofun trivial
  | outside event => cases event <;> exact iff_of_true before.1 trivial

end

/-- In a run, the stored values stay within the limits if each value that is stored is shallow where it has
not been checked: a value that is no dictionary, and the value of an update. -/
theorem stored_values_within_iff {ι : Type} [DecidableEq ι] (service : MemoryService)
    (records : MemoryTable) (limits : ∀ row ∈ records.rows, WithinLimits service row) (clock : Time)
    (calls : ι → MemoryCall) (acts : List (Act ι Passage MemoryEvent)) :
    (∀ n, ∀ row ∈ ((MemoryCrew.start records clock calls).after service acts n).shared.records.rows,
        WithinLimits service row) ↔
      ∀ n act, acts[n]? = some act →
        ShallowAct service ((MemoryCrew.start records clock calls).after service acts n) act := by
  let start := MemoryCrew.start records clock calls
  have sized (n : Nat) (i : ι) : ((start.after service acts n).phase i).Sized service := by
    apply stateAfter_invariant _ start acts fun crew => (crew.phase i).Sized service
    · trivial
    · intro n act _ before
      rcases Crew.step_phase (MemoryTurn.move service) MemoryEvent.apply
          (start.after service acts n) act i with same | ⟨passage, _, _, moved⟩
      · exact same ▸ before
      · rw [moved]
        exact sized_move before
  have runs := stateAfter_invariant_iff (Crew.step (MemoryTurn.move service) MemoryEvent.apply) start
    acts (fun crew => (∀ row ∈ crew.shared.records.rows, WithinLimits service row) ∧
      ∀ i, (crew.phase i).Sized service) (ShallowAct service)
    (fun n act _ before => limits_step act before)
  have shallow := runs.trans (and_iff_right ⟨limits, fun _ => trivial⟩)
  rw [← shallow]
  exact ⟨fun within n => ⟨within n, sized n⟩, fun all n => (all n).1⟩

/-! A list and an update that nest deeper than the service allows. -/

def nestedValue (levels : Nat) : Value := (fun value => Value.list [value])^[levels] (.int 1)

def writeNested (levels : Nat) : Nat → MemoryCall :=
  fun _ => .write { noteRecord none with value := nestedValue levels }

def updateNested (levels : Nat) : Nat → MemoryCall :=
  fun _ => .update "m1" { value := some (.dict [("deep", nestedValue levels)]) }

theorem stored_values_within_note :
    ∃ row ∈ ((MemoryCrew.start ⟨[], List.nodup_nil⟩ 0 (writeNested 20)).after {} (goesOn [0])
      1).shared.records.rows, WithinLimits {} row := by
  have within := (stored_values_within_iff {} ⟨[], List.nodup_nil⟩ (by decide) 0 (writeNested 20)
    (goesOn [0])).mpr ?_ 1
  · have length : ((MemoryCrew.start ⟨[], List.nodup_nil⟩ 0 (writeNested 20)).after {} (goesOn [0])
        1).shared.records.rows.length = 1 := by decide +kernel
    obtain ⟨row, only⟩ := List.length_eq_one_iff.mp length
    have member : row ∈ ((MemoryCrew.start ⟨[], List.nodup_nil⟩ 0 (writeNested 20)).after {}
        (goesOn [0]) 1).shared.records.rows := by
      rw [only]
      exact List.mem_cons_self
    exact ⟨row, member, within row member⟩
  · intro n act present
    match n with
    | 0 =>
        obtain rfl := Option.some.inj present
        intro _
        exact .inr (by decide +kernel)
    | _ + 1 => cases present

theorem deep_values_stored :
    (¬ ∀ n, ∀ row ∈ ((MemoryCrew.start ⟨[], List.nodup_nil⟩ 0 (writeNested 21)).after {} (goesOn [0])
      n).shared.records.rows, WithinLimits {} row) ∧
    ¬ ∀ n, ∀ row ∈ ((MemoryCrew.start (noteTable none) 0 (updateNested 20)).after {} (goesOn [0, 0])
      n).shared.records.rows, WithinLimits {} row := by
  constructor
  · intro within
    have last := within 1
    revert last
    decide +kernel
  · intro within
    have last := within 2
    revert last
    decide +kernel

end SyndicateClaw.Memory
