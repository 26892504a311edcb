import SyndicateClaw.Inference.Catalog

/-! The rows that the catalog takes over from the models.dev feed. -/

namespace SyndicateClaw.Inference

open Orchestrator

/-- How fields of the feed are validated as `bool` and as `int | None`. -/
structure FeedValidation where
  bool : Value → Option Bool
  optionalInt : Value → Option (Option Int)

structure ModelsDevSyncResult where
  applied : Bool
  snapshotVersion : String
  recordsAccepted : Nat
  recordsSkipped : Nat
  previousSnapshotVersion : Option String := none
  abortedReason : Option String := none

structure ModelsDevCatalogSync (F : Type) where
  baseSystem : ProviderSystemConfig F
  allowed : List String
  yamlRows : List (StaticCatalogEntry F)
  yamlWins : Bool := true
  anomalyMaxDrop : Rat := 1 / 2
  rollbackStack : List (String × String) := []

/-- `InferenceCapability(value)`. -/
def InferenceCapability.parse? : Value → Option InferenceCapability
  | .str "chat" => some .chat
  | .str "embedding" => some .embedding
  | _ => none

section

variable {F : Type} [Zero F]

/-- `_record_to_catalog_entry`; `none` is an error that skips the record. -/
def recordToCatalogEntry (validation : FeedValidation) (raw : State) :
    Option (CatalogEntryRecord F) := do
  let providerId := (← Dict.get? raw "provider_id").pyStr
  let modelId := (← Dict.get? raw "model_id").pyStr
  let capability ← InferenceCapability.parse? ((Dict.get? raw "capability").getD (.str "chat"))
  let isEmbeddingModel ←
    validation.bool ((Dict.get? raw "is_embedding_model").getD (.bool false))
  let embeddingDimensions ←
    validation.optionalInt ((Dict.get? raw "embedding_dimensions").getD .none)
  return {
    providerId, modelId
    descriptor :=
      { modelId, name := ((Dict.get? raw "name").map Value.pyStr).getD modelId, providerId
        cost := { inputPerMillion := 0, outputPerMillion := 0, cacheReadPerMillion := 0 }
        embeddingDimensions, isEmbeddingModel }
    capabilities := [capability], source := .modelsDev }

/-- The records of the feed that become rows: they are valid and their providers are known. -/
def acceptedRecords (validation : FeedValidation) (allowed : List String) (records : List State) :
    List (CatalogEntryRecord F) :=
  (records.filterMap (recordToCatalogEntry validation)).filter fun row => row.providerId ∈ allowed

variable [DecidableEq F]

/-- `sync_from_parsed_records`. -/
def syncFromParsedRecords (validation : FeedValidation) (sync : ModelsDevCatalogSync F)
    (catalog : ModelCatalog F) (records : List State) (snapshotVersion : String)
    (previousCount : Option Nat) :
    Except String ModelsDevSyncResult × ModelsDevCatalogSync F × ModelCatalog F :=
  let previousCount := previousCount.getD catalog.entryCount
  let accepted := acceptedRecords validation sync.allowed records
  let skipped := records.length - accepted.length
  if 0 < previousCount ∧ (accepted.length : Rat) < (1 - sync.anomalyMaxDrop) * previousCount then
    (.ok
      { applied := false, snapshotVersion := catalog.snapshotVersion, recordsAccepted := 0
        recordsSkipped := skipped, abortedReason := some "systemic_anomaly_drop" }, sync, catalog)
  else
    let tracked :=
      { sync with
        rollbackStack := sync.rollbackStack ++ [(catalog.snapshotVersion, snapshotVersion)] }
    match mergeYamlAndModelsDev sync.yamlRows accepted snapshotVersion sync.yamlWins with
    | .error message => (.error message, tracked, catalog)
    | .ok merged =>
        (.ok
          { applied := true, snapshotVersion, recordsAccepted := accepted.length
            recordsSkipped := skipped, previousSnapshotVersion := some catalog.snapshotVersion },
          tracked, merged)

/-! ### How a sync goes -/

section

omit [Zero F]

variable {yamlRows : List (StaticCatalogEntry F)} {modelsDevRows : List (CatalogEntryRecord F)}
  {snapshotVersion : String} {yamlWins : Bool}

theorem static_error_of_merge {message : String}
    (raised : mergeYamlAndModelsDev yamlRows modelsDevRows snapshotVersion yamlWins =
      .error message) : mergeStaticCatalogRows yamlRows = .error message := by
  unfold mergeYamlAndModelsDev at raised
  cases static : mergeStaticCatalogRows yamlRows with
  | ok entries =>
      rw [static] at raised
      cases raised
  | error own =>
      rw [static] at raised
      exact congrArg Except.error (Except.error.inj raised)

theorem static_ok_of_merge {merged : ModelCatalog F}
    (done : mergeYamlAndModelsDev yamlRows modelsDevRows snapshotVersion yamlWins = .ok merged) :
    ∃ entries, mergeStaticCatalogRows yamlRows = .ok entries ∧
      merged =
        { snapshotVersion
          entries := (sortBy CatalogEntryRecord.sortKey modelsDevRows).foldl
            (fun combined row =>
              if Dict.contains combined.rows row.key && yamlWins then combined
              else combined.put row) entries } := by
  unfold mergeYamlAndModelsDev at done
  cases static : mergeStaticCatalogRows yamlRows with
  | error message =>
      rw [static] at done
      cases done
  | ok entries =>
      rw [static] at done
      exact ⟨entries, rfl, (Except.ok.inj done).symm⟩

end

theorem syncFromParsedRecords_cases (validation : FeedValidation) (sync : ModelsDevCatalogSync F)
    (catalog : ModelCatalog F) (records : List State) (snapshotVersion : String)
    (previousCount : Option Nat) :
    let accepted := acceptedRecords validation sync.allowed records
    let anomalous := 0 < previousCount.getD catalog.entryCount ∧
      (accepted.length : Rat) < (1 - sync.anomalyMaxDrop) * previousCount.getD catalog.entryCount
    let tracked :=
      { sync with
        rollbackStack := sync.rollbackStack ++ [(catalog.snapshotVersion, snapshotVersion)] }
    let synced := syncFromParsedRecords validation sync catalog records snapshotVersion previousCount
    (anomalous ∧ synced =
      (.ok
        { applied := false, snapshotVersion := catalog.snapshotVersion, recordsAccepted := 0
          recordsSkipped := records.length - accepted.length
          abortedReason := some "systemic_anomaly_drop" }, sync, catalog)) ∨
    (¬ anomalous ∧ ∃ message, mergeStaticCatalogRows sync.yamlRows = .error message ∧
      synced = (.error message, tracked, catalog)) ∨
    (¬ anomalous ∧ ∃ merged, mergeYamlAndModelsDev sync.yamlRows accepted snapshotVersion
      sync.yamlWins = .ok merged ∧ synced =
        (.ok
          { applied := true, snapshotVersion, recordsAccepted := accepted.length
            recordsSkipped := records.length - accepted.length
            previousSnapshotVersion := some catalog.snapshotVersion }, tracked, merged)) := by
  intro accepted anomalous tracked synced
  by_cases guarded : anomalous
  · exact .inl ⟨guarded, if_pos guarded⟩
  · right
    have passes : synced = _ := if_neg guarded
    cases done : mergeYamlAndModelsDev sync.yamlRows accepted snapshotVersion sync.yamlWins with
    | error message =>
        refine .inl ⟨guarded, message, static_error_of_merge done, ?_⟩
        rw [passes, done]
    | ok merged =>
        refine .inr ⟨guarded, merged, rfl, ?_⟩
        rw [passes, done]

omit [Zero F] [DecidableEq F] in
theorem mem_put {entries : CatalogEntries F} {row : CatalogEntryRecord F}
    {entry : (String × String) × CatalogEntryRecord F} (member : entry ∈ (entries.put row).rows) :
    entry.2 = row ∨ entry ∈ entries.rows := by
  rcases Dict.mem_set member with rfl | old
  · exact .inl rfl
  · exact .inr old

omit [Zero F] in
theorem static_of_merged {rows : List (StaticCatalogEntry F)} {merged : CatalogEntries F}
    (done : mergeStaticCatalogRows rows = .ok merged) :
    ∀ entry ∈ merged.rows, entry.2.key ∈ rows.map StaticCatalogEntry.key := by
  have step (keys : List (String × String)) (known : ∀ key ∈ keys, key ∈ rows.map
      StaticCatalogEntry.key) (entries merged : CatalogEntries F)
      (before : ∀ entry ∈ entries.rows, entry.2.key ∈ rows.map StaticCatalogEntry.key)
      (done : keys.foldlM (fun entries key => mergeGroup entries key (groupOf rows key)) entries =
        .ok merged) : ∀ entry ∈ merged.rows, entry.2.key ∈ rows.map StaticCatalogEntry.key := by
    induction keys generalizing entries with
    | nil =>
        obtain rfl := Except.ok.inj done
        exact before
    | cons key keys ih =>
        rw [List.foldlM_cons] at done
        have own := known key List.mem_cons_self
        have rest : ∀ key ∈ keys, key ∈ rows.map StaticCatalogEntry.key := fun other member =>
          known other (List.mem_cons_of_mem key member)
        cases group : groupOf rows key with
        | nil =>
            rw [group] at done
            exact ih rest entries before done
        | cons first others =>
            rw [group, mergeGroup] at done
            split at done
            · cases done
            · refine ih rest _ ?_ done
              intro entry member
              rcases mem_put member with new | old
              · rw [new]
                exact own
              · exact before entry old
  exact step _ (fun key member => List.mem_eraseDups.mp member) .empty merged
    (fun _ member => absurd member List.not_mem_nil) done

omit [Zero F] [DecidableEq F] in
theorem property_of_puts {P : CatalogEntryRecord F → Prop} (skips : CatalogEntries F →
    CatalogEntryRecord F → Bool) {rows : List (CatalogEntryRecord F)} (new : ∀ row ∈ rows, P row)
    {entries : CatalogEntries F} (old : ∀ entry ∈ entries.rows, P entry.2) :
    ∀ entry ∈ (rows.foldl (fun combined row =>
      if skips combined row then combined else combined.put row) entries).rows, P entry.2 := by
  induction rows generalizing entries with
  | nil => exact old
  | cons row rows ih =>
      rw [List.foldl_cons]
      apply ih fun other member => new other (List.mem_cons_of_mem row member)
      split
      · exact old
      · intro entry member
        rcases mem_put member with same | before
        · rw [same]
          exact new row List.mem_cons_self
        · exact old entry before

theorem known_after_sync {validation : FeedValidation} {sync : ModelsDevCatalogSync F}
    {catalog : ModelCatalog F} {records : List State} {snapshotVersion : String}
    {previousCount : Option Nat} {row : CatalogEntryRecord F}
    (member : row ∈ (syncFromParsedRecords validation sync catalog records snapshotVersion
      previousCount).2.2.values) :
    row ∈ catalog.values ∨ row.key ∈ sync.yamlRows.map StaticCatalogEntry.key ∨
      row.providerId ∈ sync.allowed := by
  rcases syncFromParsedRecords_cases validation sync catalog records snapshotVersion previousCount with
    ⟨-, synced⟩ | ⟨-, message, -, synced⟩ | ⟨-, merged, done, synced⟩
  · rw [synced] at member
    exact .inl member
  · rw [synced] at member
    exact .inl member
  · rw [synced] at member
    obtain ⟨entry, own, rfl⟩ := List.mem_map.mp member
    obtain ⟨entries, static, rfl⟩ := static_ok_of_merge done
    right
    let known (row : CatalogEntryRecord F) : Prop :=
      row.key ∈ sync.yamlRows.map StaticCatalogEntry.key ∨ row.providerId ∈ sync.allowed
    apply property_of_puts (P := known) (fun combined row =>
      Dict.contains combined.rows row.key && sync.yamlWins) _ _ entry own
    · intro row accepted
      rw [mem_sortBy] at accepted
      exact .inr (by simpa using (List.mem_filter.mp accepted).2)
    · exact fun entry member => .inl (static_of_merged static entry member)

end

end SyndicateClaw.Inference
