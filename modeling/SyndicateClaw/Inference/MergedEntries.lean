import Mathlib.Data.List.Dedup
import SyndicateClaw.Inference.CatalogSync

/-! What a merge makes of static rows and of the rows of the feed, key by key. -/

namespace SyndicateClaw.Inference

variable {F : Type}

def staticRow (rows : List (StaticCatalogEntry F)) (key : String × String) :
    Option (CatalogEntryRecord F) :=
  match groupOf rows key with
  | [] => none
  | first :: rest =>
      some
        { providerId := key.1, modelId := key.2, descriptor := first.descriptor
          capabilities := (first :: rest).map StaticCatalogEntry.capability }

/-- The merge of static rows and of the rows of the feed: where YAML wins, the static row or else the
first one of the feed; otherwise the last one of the feed or else the static row. -/
def mergedRow (yamlRows : List (StaticCatalogEntry F)) (modelsDevRows : List (CatalogEntryRecord F))
    (yamlWins : Bool) (key : String × String) : Option (CatalogEntryRecord F) :=
  let own := modelsDevRows.filter fun row => row.key = key
  if yamlWins then (staticRow yamlRows key).or own.head?
  else own.getLast?.or (staticRow yamlRows key)

theorem get?_put (entries : CatalogEntries F) (row : CatalogEntryRecord F) (key : String × String) :
    Dict.get? (entries.put row).rows key =
      if key = row.key then some row else Dict.get? entries.rows key :=
  Dict.get?_set entries.rows row.key key row

theorem mem_groupOf {rows : List (StaticCatalogEntry F)} {key : String × String}
    {entry : StaticCatalogEntry F} : entry ∈ groupOf rows key ↔ entry ∈ rows ∧ entry.key = key := by
  unfold groupOf
  rw [mem_sortBy, List.mem_filter, decide_eq_true_eq]

theorem staticRow_isSome {rows : List (StaticCatalogEntry F)} {key : String × String} :
    (staticRow rows key).isSome = true ↔ key ∈ rows.map StaticCatalogEntry.key := by
  have present : key ∈ rows.map StaticCatalogEntry.key ↔ groupOf rows key ≠ [] := by
    rw [Ne, List.eq_nil_iff_forall_not_mem]
    simp [mem_groupOf]
  rw [present]
  unfold staticRow
  split
  · next none => simp [none]
  · next first rest some => simp [some]

section

variable [DecidableEq F]

theorem get?_mergeGroup {rows : List (StaticCatalogEntry F)} {key : String × String}
    {entries merged : CatalogEntries F}
    (done : mergeGroup entries key (groupOf rows key) = .ok merged) (other : String × String) :
    Dict.get? merged.rows other =
      if other = key then (staticRow rows key).or (Dict.get? entries.rows other)
      else Dict.get? entries.rows other := by
  unfold staticRow
  cases group : groupOf rows key with
  | nil =>
      rw [group] at done
      obtain rfl := Except.ok.inj done
      simp
  | cons first rest =>
      rw [group, mergeGroup] at done
      split at done
      · cases done
      · obtain rfl := Except.ok.inj done
        rw [get?_put]
        rfl

theorem get?_static {rows : List (StaticCatalogEntry F)} {merged : CatalogEntries F}
    (done : mergeStaticCatalogRows rows = .ok merged) (key : String × String) :
    Dict.get? merged.rows key = staticRow rows key := by
  have walk (keys : List (String × String)) (entries merged : CatalogEntries F)
      (done : keys.foldlM (fun entries key => mergeGroup entries key (groupOf rows key)) entries =
        .ok merged) : Dict.get? merged.rows key =
        (if key ∈ keys then staticRow rows key else none).or (Dict.get? entries.rows key) := by
    induction keys generalizing entries with
    | nil =>
        obtain rfl := Except.ok.inj done
        rfl
    | cons first keys ih =>
        rw [List.foldlM_cons] at done
        cases group : mergeGroup entries first (groupOf rows first) with
        | error message =>
            rw [group] at done
            cases done
        | ok next =>
            rw [group] at done
            rw [ih next done, get?_mergeGroup group key]
            by_cases same : key = first
            · subst same
              by_cases later : key ∈ keys <;>
                cases staticRow rows key <;> simp [later]
            · simp [same]
  have found := walk _ .empty merged done
  rw [found]
  by_cases present : key ∈ rows.map StaticCatalogEntry.key
  · simp [List.mem_eraseDups, present, CatalogEntries.empty]
  · have none : staticRow rows key = none := by
      rw [← Option.not_isSome_iff_eq_none, staticRow_isSome]
      exact present
    simp [none, CatalogEntries.empty]

omit [DecidableEq F] in
theorem get?_puts (yamlWins : Bool) (rows : List (CatalogEntryRecord F)) (entries : CatalogEntries F)
    (key : String × String) :
    Dict.get? (rows.foldl (fun combined row =>
        if Dict.contains combined.rows row.key && yamlWins then combined
        else combined.put row) entries).rows key =
      let own := rows.filter fun row => row.key = key
      if yamlWins then (Dict.get? entries.rows key).or own.head?
      else own.getLast?.or (Dict.get? entries.rows key) := by
  induction rows generalizing entries with
  | nil => cases yamlWins <;> simp
  | cons row rows ih =>
      rw [List.foldl_cons, ih]
      by_cases same : row.key = key
      · have kept : (row :: rows).filter (fun row => row.key = key) =
            row :: rows.filter fun row => row.key = key := by simp [same]
        rw [kept]
        cases yamlWins with
        | true =>
            cases found : Dict.get? entries.rows key with
            | none => simp [Dict.contains, same, found, get?_put]
            | some old => simp [Dict.contains, same, found]
        | false =>
            cases last : (rows.filter fun row => row.key = key).getLast? with
            | none => simp [List.getLast?_cons, last, get?_put, same]
            | some later => simp [List.getLast?_cons, last]
      · have kept : (row :: rows).filter (fun row => row.key = key) =
            rows.filter fun row => row.key = key := by simp [same]
        have away : Dict.get? (if Dict.contains entries.rows row.key && yamlWins then entries
            else entries.put row).rows key = Dict.get? entries.rows key := by
          split
          · rfl
          · rw [get?_put, if_neg (Ne.symm same)]
        rw [kept, away]

theorem get?_merged {yamlRows : List (StaticCatalogEntry F)}
    {modelsDevRows : List (CatalogEntryRecord F)} {snapshotVersion : String} {yamlWins : Bool}
    {merged : ModelCatalog F}
    (done : mergeYamlAndModelsDev yamlRows modelsDevRows snapshotVersion yamlWins = .ok merged)
    (key : String × String) :
    Dict.get? merged.entries.rows key = mergedRow yamlRows modelsDevRows yamlWins key := by
  obtain ⟨entries, static, rfl⟩ := static_ok_of_merge done
  have stable : (sortBy CatalogEntryRecord.sortKey modelsDevRows).filter
      (fun row => row.key = key) = modelsDevRows.filter fun row => row.key = key :=
    sortBy_stable modelsDevRows (toLex key)
  dsimp only
  rw [get?_puts, stable, get?_static static]
  rfl

theorem mergedRow_isSome (yamlRows : List (StaticCatalogEntry F))
    (modelsDevRows : List (CatalogEntryRecord F)) (yamlWins : Bool) (key : String × String) :
    (mergedRow yamlRows modelsDevRows yamlWins key).isSome = true ↔
      key ∈ yamlRows.map StaticCatalogEntry.key ++ modelsDevRows.map CatalogEntryRecord.key := by
  have present : key ∈ modelsDevRows.map CatalogEntryRecord.key ↔
      modelsDevRows.filter (fun row => row.key = key) ≠ [] := by
    rw [Ne, List.eq_nil_iff_forall_not_mem]
    simp
  rw [List.mem_append, ← staticRow_isSome, present]
  unfold mergedRow
  generalize modelsDevRows.filter (fun row => row.key = key) = own
  cases yamlWins <;> cases staticRow yamlRows key <;> cases own <;> simp

theorem entryCount_merged {yamlRows : List (StaticCatalogEntry F)}
    {modelsDevRows : List (CatalogEntryRecord F)} {snapshotVersion : String} {yamlWins : Bool}
    {merged : ModelCatalog F}
    (done : mergeYamlAndModelsDev yamlRows modelsDevRows snapshotVersion yamlWins = .ok merged) :
    merged.entryCount = (yamlRows.map StaticCatalogEntry.key ++
      modelsDevRows.map CatalogEntryRecord.key).dedup.length := by
  have perm : (merged.entries.rows.map Prod.fst).Perm (yamlRows.map StaticCatalogEntry.key ++
      modelsDevRows.map CatalogEntryRecord.key).dedup := by
    rw [List.perm_ext_iff_of_nodup merged.entries.distinct (List.nodup_dedup _)]
    intro key
    rw [List.mem_dedup, ← mergedRow_isSome yamlRows modelsDevRows yamlWins key, ← get?_merged done key]
    constructor
    · intro member
      obtain ⟨entry, stored, rfl⟩ := List.mem_map.mp member
      rw [(Dict.get?_eq_some merged.entries.distinct).mpr stored]
      rfl
    · intro found
      obtain ⟨row, stored⟩ := Option.isSome_iff_exists.mp found
      exact List.mem_map_of_mem (Dict.mem_of_get? stored)
  calc
    merged.entryCount = (merged.entries.rows.map Prod.fst).length := (List.length_map _).symm
    _ = _ := perm.length_eq

end

/-! ### Static rows that can be merged -/

def Consistent (rows : List (StaticCatalogEntry F)) : Prop :=
  ∀ entry ∈ rows, ∀ other ∈ rows, entry.key = other.key → entry.descriptor = other.descriptor

section

variable [DecidableEq F]

theorem mergeGroup_ok_iff (rows : List (StaticCatalogEntry F)) (key : String × String)
    (entries : CatalogEntries F) :
    (∃ merged, mergeGroup entries key (groupOf rows key) = .ok merged) ↔
      ∀ entry ∈ rows, ∀ other ∈ rows, entry.key = key → other.key = key →
        entry.descriptor = other.descriptor := by
  have own {entry : StaticCatalogEntry F} : entry ∈ rows → entry.key = key →
      entry ∈ groupOf rows key := fun member same => mem_groupOf.mpr ⟨member, same⟩
  have back {entry : StaticCatalogEntry F} : entry ∈ groupOf rows key →
      entry ∈ rows ∧ entry.key = key := mem_groupOf.mp
  generalize groupOf rows key = group at own back
  cases group with
  | nil =>
      constructor
      · intro _ entry member _ _ same
        exact absurd (own member same) List.not_mem_nil
      · exact fun _ => ⟨entries, rfl⟩
  | cons first rest =>
      have first_mem := back List.mem_cons_self
      rw [mergeGroup]
      constructor
      · intro merged
        have agree : ∀ entry ∈ first :: rest, entry.descriptor = first.descriptor := by
          obtain ⟨merged, done⟩ := merged
          split at done
          · cases done
          · next none =>
              intro entry member
              rcases List.mem_cons.mp member with rfl | later
              · rfl
              · by_contra differs
                exact none (List.any_eq_true.mpr ⟨entry, later, by simpa using differs⟩)
        intro entry member other member' same same'
        exact (agree entry (own member same)).trans (agree other (own member' same')).symm
      · intro agree
        have none : ¬ (rest.any fun entry => entry.descriptor ≠ first.descriptor) = true := by
          intro differs
          obtain ⟨entry, later, differ⟩ := List.any_eq_true.mp differs
          obtain ⟨member, same⟩ := back (List.mem_cons_of_mem first later)
          exact (by simpa using differ : entry.descriptor ≠ first.descriptor)
            (agree entry member first first_mem.1 same first_mem.2)
        rw [if_neg none]
        exact ⟨_, rfl⟩

theorem static_ok_iff (rows : List (StaticCatalogEntry F)) :
    (∃ merged, mergeStaticCatalogRows rows = .ok merged) ↔ Consistent rows := by
  have walk (keys : List (String × String)) (entries : CatalogEntries F) :
      (∃ merged, keys.foldlM (fun entries key => mergeGroup entries key (groupOf rows key)) entries =
        .ok merged) ↔ ∀ key ∈ keys, ∀ entry ∈ rows, ∀ other ∈ rows, entry.key = key →
          other.key = key → entry.descriptor = other.descriptor := by
    induction keys generalizing entries with
    | nil => exact ⟨fun _ => nofun, fun _ => ⟨entries, rfl⟩⟩
    | cons key keys ih =>
        have first := mergeGroup_ok_iff rows key entries
        rw [List.foldlM_cons, List.forall_mem_cons, ← first]
        cases group : mergeGroup entries key (groupOf rows key) with
        | error message =>
            constructor
            · intro done
              obtain ⟨merged, done⟩ := done
              cases done
            · intro both
              obtain ⟨merged, done⟩ := both.1
              cases done
        | ok next =>
            rw [← ih next]
            exact ⟨fun done => ⟨⟨next, rfl⟩, done⟩, fun both => both.2⟩
  unfold mergeStaticCatalogRows
  rw [walk]
  constructor
  · intro agree entry member other member' same
    exact agree other.key (List.mem_eraseDups.mpr (List.mem_map_of_mem member')) entry member
      other member' same rfl
  · intro consistent key _ entry member other member' same same'
    exact consistent entry member other member' (same.trans same'.symm)

end

/-! ### Orders and duplicates -/

/-- Equal rows; capabilities are a set. -/
structure CatalogEntryRecord.Same (row other : CatalogEntryRecord F) : Prop where
  key : row.key = other.key
  descriptor : row.descriptor = other.descriptor
  status : row.status = other.status
  source : row.source = other.source
  capabilities : ∀ capability, capability ∈ row.capabilities ↔ capability ∈ other.capabilities

theorem CatalogEntryRecord.Same.refl (row : CatalogEntryRecord F) : row.Same row :=
  ⟨rfl, rfl, rfl, rfl, fun _ => .rfl⟩

theorem CatalogEntryRecord.Same.symm {row other : CatalogEntryRecord F} (same : row.Same other) :
    other.Same row :=
  ⟨same.key.symm, same.descriptor.symm, same.status.symm, same.source.symm,
    fun capability => (same.capabilities capability).symm⟩

theorem CatalogEntryRecord.Same.trans {row other third : CatalogEntryRecord F}
    (same : row.Same other) (next : other.Same third) : row.Same third :=
  ⟨same.key.trans next.key, same.descriptor.trans next.descriptor, same.status.trans next.status,
    same.source.trans next.source,
    fun capability => (same.capabilities capability).trans (next.capabilities capability)⟩

/-- Both merges raise, or both leave the same rows under the same keys. -/
def SameMerge : Except String (ModelCatalog F) → Except String (ModelCatalog F) → Prop
  | .ok catalog, .ok other => ∀ key, Option.Rel CatalogEntryRecord.Same
      (Dict.get? catalog.entries.rows key) (Dict.get? other.entries.rows key)
  | .error _, .error _ => True
  | _, _ => False

def FeedDecides (yamlRows : List (StaticCatalogEntry F)) (yamlWins : Bool)
    (key : String × String) : Prop :=
  yamlWins = true → key ∉ yamlRows.map StaticCatalogEntry.key

theorem Consistent.perm {rows other : List (StaticCatalogEntry F)} (agree : Consistent rows)
    (perm : rows.Perm other) : Consistent other := fun a inA b inB =>
  agree a (perm.mem_iff.mpr inA) b (perm.mem_iff.mpr inB)

theorem staticRow_perm {rows other : List (StaticCatalogEntry F)} (agree : Consistent rows)
    (perm : rows.Perm other) (key : String × String) :
    Option.Rel CatalogEntryRecord.Same (staticRow rows key) (staticRow other key) := by
  have members (entry : StaticCatalogEntry F) :
      entry ∈ groupOf rows key ↔ entry ∈ groupOf other key := by
    rw [mem_groupOf, mem_groupOf, perm.mem_iff]
  unfold staticRow
  cases group : groupOf rows key with
  | nil =>
      have empty : groupOf other key = [] := by
        rw [List.eq_nil_iff_forall_not_mem]
        intro entry member
        have inRows := (members entry).mpr member
        rw [group] at inRows
        cases inRows
      rw [empty]
      exact .none
  | cons first rest =>
      cases group' : groupOf other key with
      | nil =>
          have inOther := (members first).mp (group ▸ List.mem_cons_self)
          rw [group'] at inOther
          cases inOther
      | cons first' rest' =>
          obtain ⟨inRows, own⟩ := mem_groupOf.mp (group ▸ List.mem_cons_self : first ∈ _)
          obtain ⟨inRows', own'⟩ := mem_groupOf.mp
            ((members first').mpr (group' ▸ List.mem_cons_self))
          refine .some ⟨rfl, agree first inRows first' inRows' (own.trans own'.symm), rfl, rfl, ?_⟩
          intro capability
          simp only [← group, ← group', List.mem_map, members]

section

variable [DecidableEq F]

theorem merge_ok_iff {yamlRows : List (StaticCatalogEntry F)}
    {modelsDevRows : List (CatalogEntryRecord F)} {snapshotVersion : String} {yamlWins : Bool} :
    (∃ merged, mergeYamlAndModelsDev yamlRows modelsDevRows snapshotVersion yamlWins = .ok merged) ↔
      Consistent yamlRows := by
  rw [← static_ok_iff]
  unfold mergeYamlAndModelsDev
  cases mergeStaticCatalogRows yamlRows <;> simp [bind, Except.bind, pure, Except.pure]

/-- A merge depends on no order, takes every row from the side that decides about its key, and
leaves a model with every capability that its rows of the feed have. -/
structure FaithfulMerge (yamlRows : List (StaticCatalogEntry F))
    (modelsDevRows : List (CatalogEntryRecord F)) (snapshotVersion : String) (yamlWins : Bool) :
    Prop where
  orderFree : ∀ yamlRows' modelsDevRows', yamlRows.Perm yamlRows' →
    modelsDevRows.Perm modelsDevRows' →
    SameMerge (mergeYamlAndModelsDev yamlRows modelsDevRows snapshotVersion yamlWins)
      (mergeYamlAndModelsDev yamlRows' modelsDevRows' snapshotVersion yamlWins)
  yamlKept : ∀ merged,
    mergeYamlAndModelsDev yamlRows modelsDevRows snapshotVersion yamlWins = .ok merged →
    ∀ key ∈ yamlRows.map StaticCatalogEntry.key,
      yamlWins = true ∨ key ∉ modelsDevRows.map CatalogEntryRecord.key →
      Dict.get? merged.entries.rows key = staticRow yamlRows key
  feedTaken : ∀ merged,
    mergeYamlAndModelsDev yamlRows modelsDevRows snapshotVersion yamlWins = .ok merged →
    ∀ key ∈ modelsDevRows.map CatalogEntryRecord.key, FeedDecides yamlRows yamlWins key →
      ∃ row ∈ modelsDevRows, row.key = key ∧ Dict.get? merged.entries.rows key = some row
  flagIdle : ∀ merged merged',
    mergeYamlAndModelsDev yamlRows modelsDevRows snapshotVersion true = .ok merged →
    mergeYamlAndModelsDev yamlRows modelsDevRows snapshotVersion false = .ok merged' →
    ∀ key ∉ yamlRows.map StaticCatalogEntry.key, Option.Rel CatalogEntryRecord.Same
      (Dict.get? merged.entries.rows key) (Dict.get? merged'.entries.rows key)
  capable : ∀ merged,
    mergeYamlAndModelsDev yamlRows modelsDevRows snapshotVersion yamlWins = .ok merged →
    ∀ row ∈ modelsDevRows, FeedDecides yamlRows yamlWins row.key → row.status = .active →
      ∀ capability ∈ row.capabilities,
        ∃ found ∈ merged.iterByCapability capability, found.key = row.key

omit [DecidableEq F] in
/-- A merged row comes from the feed where the feed decides, and else from YAML. -/
theorem mergedRow_cases (yamlRows : List (StaticCatalogEntry F))
    (modelsDevRows : List (CatalogEntryRecord F)) (yamlWins : Bool) (key : String × String) :
    (FeedDecides yamlRows yamlWins key ∧
      ∃ row ∈ modelsDevRows, row.key = key ∧
        mergedRow yamlRows modelsDevRows yamlWins key = some row) ∨
    ((key ∉ modelsDevRows.map CatalogEntryRecord.key ∨ ¬ FeedDecides yamlRows yamlWins key) ∧
      mergedRow yamlRows modelsDevRows yamlWins key = staticRow yamlRows key) := by
  have absent : (modelsDevRows.filter fun row => row.key = key) = [] ↔
      key ∉ modelsDevRows.map CatalogEntryRecord.key := by
    simp [List.filter_eq_nil_iff]
  have ofFeed {row : CatalogEntryRecord F}
      (member : row ∈ modelsDevRows.filter fun row => row.key = key) :
      row ∈ modelsDevRows ∧ row.key = key := by simpa using member
  unfold mergedRow
  cases yamlWins with
  | true =>
      cases static : staticRow yamlRows key with
      | some row =>
          have inYaml : key ∈ yamlRows.map StaticCatalogEntry.key := by
            rw [← staticRow_isSome, static]
            rfl
          exact .inr ⟨.inr fun decides => decides rfl inYaml, rfl⟩
      | none =>
          have decides : FeedDecides yamlRows true key := by
            intro _ inYaml
            rw [← staticRow_isSome, static] at inYaml
            cases inYaml
          cases own : modelsDevRows.filter fun row => row.key = key with
          | nil => exact .inr ⟨.inl (absent.mp own), rfl⟩
          | cons first rest =>
              obtain ⟨member, same⟩ := ofFeed (own ▸ List.mem_cons_self : first ∈ _)
              exact .inl ⟨decides, first, member, same, rfl⟩
  | false =>
      cases last : (modelsDevRows.filter fun row => row.key = key).getLast? with
      | none =>
          exact .inr ⟨.inl (absent.mp (List.getLast?_eq_none_iff.mp last)), by simp [last]⟩
      | some row =>
          obtain ⟨member, same⟩ := ofFeed (List.mem_of_getLast? last)
          exact .inl ⟨nofun, row, member, same, by simp [last]⟩

omit [DecidableEq F] in
theorem exists_deciding {yamlRows : List (StaticCatalogEntry F)}
    {modelsDevRows : List (CatalogEntryRecord F)} {yamlWins : Bool} {row : CatalogEntryRecord F}
    (member : row ∈ modelsDevRows) (decides : FeedDecides yamlRows yamlWins row.key) :
    ∃ modelsDevRows', modelsDevRows.Perm modelsDevRows' ∧
      mergedRow yamlRows modelsDevRows' yamlWins row.key = some row := by
  obtain ⟨before, after, rfl⟩ := List.append_of_mem member
  cases yamlWins with
  | true =>
      refine ⟨row :: (before ++ after), List.perm_middle, ?_⟩
      have none : staticRow yamlRows row.key = none := by
        rw [← Option.not_isSome_iff_eq_none, staticRow_isSome]
        exact decides rfl
      simp [mergedRow, none]
  | false =>
      refine ⟨before ++ after ++ [row], ?_, ?_⟩
      · exact List.perm_middle.trans (List.perm_append_singleton row (before ++ after)).symm
      · simp [mergedRow]

/-- Two rows of the feed for one model are the same wherever the feed decides; or the static rows
conflict, and every merge raises. -/
def FeedAgrees (yamlRows : List (StaticCatalogEntry F))
    (modelsDevRows : List (CatalogEntryRecord F)) (yamlWins : Bool) : Prop :=
  Consistent yamlRows → ∀ a ∈ modelsDevRows, ∀ b ∈ modelsDevRows, a.key = b.key →
    FeedDecides yamlRows yamlWins a.key → a.Same b

section

variable {yamlRows : List (StaticCatalogEntry F)} {modelsDevRows : List (CatalogEntryRecord F)}
  {snapshotVersion : String} {yamlWins : Bool}

omit [DecidableEq F] in
theorem mergedRow_alike (agree : Consistent yamlRows) {yamlRows' : List (StaticCatalogEntry F)}
    {modelsDevRows' : List (CatalogEntryRecord F)} {yamlWins' : Bool} {key : String × String}
    (same : ∀ a ∈ modelsDevRows, ∀ b ∈ modelsDevRows, a.key = key → b.key = key →
      FeedDecides yamlRows yamlWins key → a.Same b)
    (yamlPerm : yamlRows.Perm yamlRows') (feedPerm : modelsDevRows.Perm modelsDevRows')
    (decides : FeedDecides yamlRows' yamlWins' key ↔ FeedDecides yamlRows yamlWins key) :
    Option.Rel CatalogEntryRecord.Same (mergedRow yamlRows modelsDevRows yamlWins key)
      (mergedRow yamlRows' modelsDevRows' yamlWins' key) := by
  have listed : key ∈ modelsDevRows'.map CatalogEntryRecord.key ↔
      key ∈ modelsDevRows.map CatalogEntryRecord.key :=
    (feedPerm.map CatalogEntryRecord.key).mem_iff.symm
  obtain ⟨decided, row, member, own, eq⟩ | ⟨away, eq⟩ :=
    mergedRow_cases yamlRows modelsDevRows yamlWins key <;>
  obtain ⟨decided', row', member', own', eq'⟩ | ⟨away', eq'⟩ :=
    mergedRow_cases yamlRows' modelsDevRows' yamlWins' key <;>
  rw [eq, eq']
  · exact .some (same row member row' (feedPerm.mem_iff.mpr member') own own' decided)
  · rw [decides, listed] at away'
    rcases away' with absent | other
    · exact absurd (List.mem_map.mpr ⟨row, member, own⟩) absent
    · exact absurd decided other
  · rcases away with absent | other
    · exact absurd (List.mem_map.mpr ⟨row', feedPerm.mem_iff.mpr member', own'⟩) absent
    · exact absurd (decides.mp decided') other
  · exact staticRow_perm agree yamlPerm key

theorem sameMerge_of_feedAgrees (agrees : FeedAgrees yamlRows modelsDevRows yamlWins)
    {yamlRows' : List (StaticCatalogEntry F)} {modelsDevRows' : List (CatalogEntryRecord F)}
    (yamlPerm : yamlRows.Perm yamlRows') (feedPerm : modelsDevRows.Perm modelsDevRows') :
    SameMerge (mergeYamlAndModelsDev yamlRows modelsDevRows snapshotVersion yamlWins)
      (mergeYamlAndModelsDev yamlRows' modelsDevRows' snapshotVersion yamlWins) := by
  cases done : mergeYamlAndModelsDev yamlRows modelsDevRows snapshotVersion yamlWins with
  | error message =>
      cases done' : mergeYamlAndModelsDev yamlRows' modelsDevRows' snapshotVersion yamlWins with
      | error message' => trivial
      | ok merged' =>
          obtain ⟨merged, ok⟩ := merge_ok_iff.mpr
            ((merge_ok_iff.mp ⟨merged', done'⟩).perm yamlPerm.symm)
          rw [done] at ok
          cases ok
  | ok merged =>
      have agree := merge_ok_iff.mp ⟨merged, done⟩
      obtain ⟨merged', done'⟩ := merge_ok_iff.mpr (agree.perm yamlPerm)
      rw [done']
      intro key
      rw [get?_merged done, get?_merged done']
      refine mergedRow_alike agree ?_ yamlPerm feedPerm ?_
      · intro a inA b inB ofA ofB decides
        exact agrees agree a inA b inB (ofA.trans ofB.symm) (ofA ▸ decides)
      · unfold FeedDecides
        rw [(yamlPerm.map StaticCatalogEntry.key).mem_iff]

theorem feedAgrees_of_orderFree
    (orderFree : ∀ modelsDevRows', modelsDevRows.Perm modelsDevRows' →
      SameMerge (mergeYamlAndModelsDev yamlRows modelsDevRows snapshotVersion yamlWins)
        (mergeYamlAndModelsDev yamlRows modelsDevRows' snapshotVersion yamlWins)) :
    FeedAgrees yamlRows modelsDevRows yamlWins := by
  intro agree a inA b inB same decides
  obtain ⟨merged, done⟩ := merge_ok_iff.mpr agree
  have like {row : CatalogEntryRecord F} (member : row ∈ modelsDevRows)
      (decided : FeedDecides yamlRows yamlWins row.key) :
      Option.Rel CatalogEntryRecord.Same (Dict.get? merged.entries.rows row.key) (some row) := by
    obtain ⟨modelsDevRows', perm, eq⟩ := exists_deciding member decided
    obtain ⟨merged', done'⟩ := merge_ok_iff.mpr agree
    have alike := orderFree modelsDevRows' perm
    rw [done, done'] at alike
    have row := alike row.key
    rwa [get?_merged done', eq] at row
  have likeA := like inA decides
  have likeB := like inB (same ▸ decides)
  rw [← same] at likeB
  cases found : Dict.get? merged.entries.rows a.key with
  | none => rw [found] at likeA; cases likeA
  | some row =>
      rw [found] at likeA likeB
      cases likeA with
      | some first =>
          cases likeB with
          | some second => exact first.symm.trans second

theorem merge_faithful_iff (yamlRows : List (StaticCatalogEntry F))
    (modelsDevRows : List (CatalogEntryRecord F)) (snapshotVersion : String) (yamlWins : Bool) :
    FaithfulMerge yamlRows modelsDevRows snapshotVersion yamlWins ↔
      FeedAgrees yamlRows modelsDevRows yamlWins := by
  constructor
  · intro faithful
    exact feedAgrees_of_orderFree fun modelsDevRows' perm =>
      faithful.orderFree yamlRows modelsDevRows' (.refl _) perm
  · intro agrees
    refine ⟨fun _ _ => sameMerge_of_feedAgrees agrees, ?_, ?_, ?_, ?_⟩
    · intro merged done key inYaml keeps
      rw [get?_merged done]
      obtain ⟨decided, row, member, own, -⟩ | ⟨-, eq⟩ :=
        mergedRow_cases yamlRows modelsDevRows yamlWins key
      · rcases keeps with wins | absent
        · exact absurd inYaml (decided wins)
        · exact absurd (List.mem_map.mpr ⟨row, member, own⟩) absent
      · exact eq
    · intro merged done key listed decides
      rw [get?_merged done]
      obtain ⟨-, row, member, own, eq⟩ | ⟨absent | other, -⟩ :=
        mergedRow_cases yamlRows modelsDevRows yamlWins key
      · exact ⟨row, member, own, eq⟩
      · exact absurd listed absent
      · exact absurd decides other
    · intro merged merged' done done' key absent
      rw [get?_merged done, get?_merged done']
      have agree := merge_ok_iff.mp ⟨merged, done⟩
      refine mergedRow_alike agree ?_ (.refl _) (.refl _)
        (iff_of_true (fun _ => absent) fun _ => absent)
      intro a inA b inB ofA ofB _
      exact agrees agree a inA b inB (ofA.trans ofB.symm) fun _ => ofA ▸ absent
    · intro merged done row member decides active capability has
      obtain ⟨-, found, inFeed, own, eq⟩ | ⟨absent | other, -⟩ :=
        mergedRow_cases yamlRows modelsDevRows yamlWins row.key
      · have same := agrees (merge_ok_iff.mp ⟨merged, done⟩) row member found inFeed own.symm decides
        rw [← get?_merged done] at eq
        refine ⟨found, List.mem_filter.mpr ⟨?_, ?_⟩, own⟩
        · exact List.mem_map_of_mem (Dict.mem_of_get? eq)
        · simp [← same.capabilities, has, ← same.status, active]
      · exact absurd (List.mem_map_of_mem member) absent
      · exact absurd decides other

end

private def feedRow (capability : InferenceCapability) : CatalogEntryRecord Int where
  providerId := "p"
  modelId := "m"
  descriptor :=
    { modelId := "m", name := "m", providerId := "p"
      cost := { inputPerMillion := 0, outputPerMillion := 0, cacheReadPerMillion := 0 } }
  capabilities := [capability]
  source := .modelsDev

/-- A model that the feed lists for chat and for embedding is left for chat only. -/
theorem second_capability_lost : ∃ merged,
    mergeYamlAndModelsDev [] [feedRow .chat, feedRow .embedding] "s1" true = .ok merged ∧
      merged.iterByCapability .embedding = [] ∧
      ¬ FaithfulMerge [] [feedRow .chat, feedRow .embedding] "s1" true := by
  refine ⟨_, rfl, by decide, fun faithful => ?_⟩
  obtain ⟨found, member, -⟩ := faithful.capable _ rfl (feedRow .embedding) (.tail _ (.head _))
    (fun _ => List.not_mem_nil) rfl .embedding (.head _)
  revert found
  decide

end

end SyndicateClaw.Inference
