import Mathlib.Data.Finset.Card
import SyndicateClaw.Data.GroupIndex
import SyndicateClaw.Inference.CatalogSync

/-! The catalog with its secondary indexes, over every sequence of replacements. -/

namespace SyndicateClaw.Inference

open GroupIndex

/-- `ModelCatalog` with `_by_capability_provider` and `_by_model_id`. -/
structure IndexedCatalog (F : Type) extends ModelCatalog F where
  byCapabilityProvider : Dict (InferenceCapability × String) (List String)
  byModelId : Dict String (List (String × String))

section

variable {F : Type}

/-- The entries that `_replace_entries` indexes. -/
def CatalogEntries.active (entries : CatalogEntries F) :
    List ((String × String) × CatalogEntryRecord F) :=
  entries.rows.filter fun entry => entry.2.status = .active

/-- The rows of the loop over `row.capabilities`. -/
def pushCapabilities (index : Dict (InferenceCapability × String) (List String))
    (key : String × String) (capabilities : List InferenceCapability) :
    Dict (InferenceCapability × String) (List String) :=
  capabilities.foldl (fun index capability => push index (capability, key.1) key.2) index

/-- `_replace_entries`. -/
def replaceEntries (entries : CatalogEntries F) (snapshotVersion : String) : IndexedCatalog F where
  snapshotVersion
  entries
  byCapabilityProvider :=
    tidy id (entries.active.foldl
      (fun index entry => pushCapabilities index entry.1 entry.2.capabilities) [])
  byModelId :=
    tidy toLex (entries.active.foldl (fun index entry => push index entry.1.2 entry.1) [])

namespace IndexedCatalog

/-- `ModelCatalog()`. -/
def new : IndexedCatalog F where
  snapshotVersion := "0"
  entries := .empty
  byCapabilityProvider := []
  byModelId := []

variable (catalog : IndexedCatalog F)

def modelsForCapabilityAndProvider (capability : InferenceCapability) (providerId : String) :
    List String :=
  sortBy id (under catalog.byCapabilityProvider (capability, providerId))

def providersForModelId (modelId : String) : List (String × String) :=
  sortBy toLex (under catalog.byModelId modelId)

variable [DecidableEq F]

/-- `replace_from_yaml_static`, with the catalog that is left. -/
def replaceFromYamlStatic (system : ProviderSystemConfig F) (snapshotVersion : String) :
    Except String Unit × IndexedCatalog F :=
  match mergeStaticCatalogRows system.staticCatalog with
  | .error message => (.error message, catalog)
  | .ok merged => (.ok (), replaceEntries merged snapshotVersion)

/-- `merge_yaml_and_models_dev`, with the catalog that is left. -/
def mergeYamlAndModelsDev (yamlRows : List (StaticCatalogEntry F))
    (modelsDevRows : List (CatalogEntryRecord F)) (snapshotVersion : String)
    (yamlWinsOnKeyCollision : Bool) : Except String Unit × IndexedCatalog F :=
  match Inference.mergeYamlAndModelsDev yamlRows modelsDevRows snapshotVersion
      yamlWinsOnKeyCollision with
  | .error message => (.error message, catalog)
  | .ok combined => (.ok (), replaceEntries combined.entries combined.snapshotVersion)

/-- `rollback_to_snapshot`: whether the version was found, and the catalog that is left. -/
def rollbackToSnapshot (sync : ModelsDevCatalogSync F) (snapshotVersion : String) :
    Except String Bool × IndexedCatalog F :=
  match sync.rollbackStack.find? fun pair => pair.2 = snapshotVersion with
  | none => (.ok false, catalog)
  | some (previous, _) =>
      let (outcome, left) := catalog.replaceFromYamlStatic sync.baseSystem previous
      (outcome.map fun _ => true, left)

end IndexedCatalog

inductive CatalogCall (F : Type) where
  | replaceFromYamlStatic (system : ProviderSystemConfig F) (snapshotVersion : String)
  | mergeYamlAndModelsDev (yamlRows : List (StaticCatalogEntry F))
      (modelsDevRows : List (CatalogEntryRecord F)) (snapshotVersion : String)
      (yamlWinsOnKeyCollision : Bool)
  | rollbackToSnapshot (sync : ModelsDevCatalogSync F) (snapshotVersion : String)

variable [DecidableEq F]

/-- A call on a catalog: its error if it raises, and the catalog that is left. -/
def CatalogCall.on (catalog : IndexedCatalog F) :
    CatalogCall F → Option String × IndexedCatalog F
  | .replaceFromYamlStatic system snapshotVersion =>
      let (outcome, left) := catalog.replaceFromYamlStatic system snapshotVersion
      (raised outcome, left)
  | .mergeYamlAndModelsDev yamlRows modelsDevRows snapshotVersion yamlWins =>
      let (outcome, left) :=
        catalog.mergeYamlAndModelsDev yamlRows modelsDevRows snapshotVersion yamlWins
      (raised outcome, left)
  | .rollbackToSnapshot sync snapshotVersion =>
      let (outcome, left) := catalog.rollbackToSnapshot sync snapshotVersion
      (raised outcome, left)
where
  raised {α : Type} : Except String α → Option String
    | .error message => some message
    | .ok _ => none

def IndexedCatalog.after (calls : List (CatalogCall F)) : IndexedCatalog F :=
  calls.foldl (fun catalog call => (call.on catalog).2) .new

/-! ### What the indexes say -/

structure IndexedCatalog.Agrees (catalog : IndexedCatalog F) : Prop where
  models : ∀ capability providerId modelId,
    modelId ∈ catalog.modelsForCapabilityAndProvider capability providerId ↔
      ∃ row ∈ catalog.iterByCapability capability,
        row.providerId = providerId ∧ row.modelId = modelId
  modelsSorted : ∀ capability providerId,
    (catalog.modelsForCapabilityAndProvider capability providerId).Pairwise (· < ·)
  providers : ∀ modelId key,
    key ∈ catalog.providersForModelId modelId ↔
      ∃ row ∈ catalog.values, row.status = .active ∧ row.modelId = modelId ∧ row.key = key
  providersSorted : ∀ modelId,
    (catalog.providersForModelId modelId).Pairwise fun a b => toLex a < toLex b
  count : catalog.entryCount = (catalog.values.map CatalogEntryRecord.key).toFinset.card

omit [DecidableEq F] in
theorem byCapabilityProvider_eq (entries : List ((String × String) × CatalogEntryRecord F))
    (index : Dict (InferenceCapability × String) (List String)) :
    entries.foldl (fun index entry => pushCapabilities index entry.1 entry.2.capabilities) index =
      gather index (entries.flatMap fun entry =>
        entry.2.capabilities.map fun capability => ((capability, entry.1.1), entry.1.2)) := by
  induction entries generalizing index with
  | nil => rfl
  | cons entry entries ih =>
      calc
        _ = gather (pushCapabilities index entry.1 entry.2.capabilities) _ := ih _
        _ = _ := by
          rw [List.flatMap_cons, gather_append]
          congr 1
          unfold pushCapabilities gather
          rw [List.foldl_map]

omit [DecidableEq F] in
theorem byModelId_eq (entries : List ((String × String) × CatalogEntryRecord F)) :
    entries.foldl (fun index entry => push index entry.1.2 entry.1) [] =
      gather [] (entries.map fun entry => (entry.1.2, entry.1)) := by
  unfold gather
  rw [List.foldl_map]

omit [DecidableEq F] in
theorem mem_active {entries : CatalogEntries F}
    {entry : (String × String) × CatalogEntryRecord F} :
    entry ∈ entries.active ↔ entry ∈ entries.rows ∧ entry.2.status = .active := by
  simp [CatalogEntries.active]

omit [DecidableEq F] in
theorem agrees_replaceEntries (entries : CatalogEntries F) (snapshotVersion : String) :
    (replaceEntries entries snapshotVersion).Agrees := by
  constructor
  · intro capability providerId modelId
    have listed : modelId ∈ (replaceEntries entries snapshotVersion).modelsForCapabilityAndProvider
        capability providerId ↔ ∃ entry ∈ entries.active,
          capability ∈ entry.2.capabilities ∧ entry.1 = (providerId, modelId) := by
      unfold IndexedCatalog.modelsForCapabilityAndProvider replaceEntries
      rw [mem_sortBy, byCapabilityProvider_eq, mem_under_gather, List.mem_flatMap]
      simp [Prod.ext_iff]
    rw [listed]
    constructor
    · intro found
      obtain ⟨entry, member, able, own⟩ := found
      obtain ⟨stored, active⟩ := mem_active.mp member
      have key : (providerId, modelId) = entry.2.key := own ▸ entries.own entry stored
      refine ⟨entry.2, ?_, (Prod.mk.inj key).1.symm, (Prod.mk.inj key).2.symm⟩
      simp only [ModelCatalog.iterByCapability, List.mem_filter, able, active]
      exact ⟨List.mem_map_of_mem stored, rfl⟩
    · intro found
      obtain ⟨row, member, rfl, rfl⟩ := found
      simp only [ModelCatalog.iterByCapability, List.mem_filter, Bool.and_eq_true,
        decide_eq_true_eq] at member
      obtain ⟨stored, able, active⟩ := member
      obtain ⟨entry, own, rfl⟩ := List.mem_map.mp stored
      exact ⟨entry, mem_active.mpr ⟨own, active⟩, able, entries.own entry own⟩
  · intro capability providerId
    unfold IndexedCatalog.modelsForCapabilityAndProvider replaceEntries
    rw [under_tidy]
    exact strict_sortedSet Function.injective_id _
  · intro modelId key
    have listed : key ∈ (replaceEntries entries snapshotVersion).providersForModelId modelId ↔
        ∃ entry ∈ entries.active, entry.1.2 = modelId ∧ entry.1 = key := by
      unfold IndexedCatalog.providersForModelId replaceEntries
      rw [mem_sortBy, byModelId_eq, mem_under_gather, List.mem_map]
      simp only [Prod.mk.injEq]
    rw [listed]
    constructor
    · intro found
      obtain ⟨entry, member, rfl, rfl⟩ := found
      obtain ⟨stored, active⟩ := mem_active.mp member
      have own := entries.own entry stored
      exact ⟨entry.2, List.mem_map_of_mem stored, active, by rw [own], own.symm⟩
    · intro found
      obtain ⟨row, member, active, rfl, rfl⟩ := found
      obtain ⟨entry, stored, rfl⟩ := List.mem_map.mp member
      have own := entries.own entry stored
      exact ⟨entry, mem_active.mpr ⟨stored, active⟩, by rw [own], own⟩
  · intro modelId
    unfold IndexedCatalog.providersForModelId replaceEntries
    rw [under_tidy]
    exact strict_sortedSet toLex.injective _
  · have distinct : ((replaceEntries entries snapshotVersion).values.map
        CatalogEntryRecord.key).Nodup := by
      rw [ModelCatalog.values_keys]
      exact entries.distinct
    rw [List.toFinset_card_of_nodup distinct]
    simp [ModelCatalog.entryCount, ModelCatalog.values]

omit [DecidableEq F] in
theorem agrees_new : (IndexedCatalog.new : IndexedCatalog F).Agrees :=
  agrees_replaceEntries .empty "0"

theorem CatalogCall.on_cases (call : CatalogCall F) (catalog : IndexedCatalog F) :
    (call.on catalog).2 = catalog ∨ (call.on catalog).1 = none ∧
      ∃ entries snapshotVersion, (call.on catalog).2 = replaceEntries entries snapshotVersion := by
  have replaced (system : ProviderSystemConfig F) (snapshotVersion : String) :
      (catalog.replaceFromYamlStatic system snapshotVersion).2 = catalog ∨
        (catalog.replaceFromYamlStatic system snapshotVersion).1 = .ok () ∧
          ∃ entries, (catalog.replaceFromYamlStatic system snapshotVersion).2 =
            replaceEntries entries snapshotVersion := by
    unfold IndexedCatalog.replaceFromYamlStatic
    cases mergeStaticCatalogRows system.staticCatalog with
    | error message => exact .inl rfl
    | ok merged => exact .inr ⟨rfl, merged, rfl⟩
  cases call with
  | replaceFromYamlStatic system snapshotVersion =>
      rcases replaced system snapshotVersion with same | ⟨returned, entries, new⟩
      · exact .inl same
      · refine .inr ⟨?_, entries, snapshotVersion, new⟩
        simp [on, on.raised, returned]
  | mergeYamlAndModelsDev yamlRows modelsDevRows snapshotVersion yamlWins =>
      cases merged : Inference.mergeYamlAndModelsDev yamlRows modelsDevRows snapshotVersion yamlWins with
      | error message => exact .inl (by simp [on, IndexedCatalog.mergeYamlAndModelsDev, merged])
      | ok combined =>
          refine .inr ⟨?_, combined.entries, combined.snapshotVersion, ?_⟩
          · simp [on, on.raised, IndexedCatalog.mergeYamlAndModelsDev, merged]
          · simp [on, IndexedCatalog.mergeYamlAndModelsDev, merged]
  | rollbackToSnapshot sync snapshotVersion =>
      cases found : sync.rollbackStack.find? fun pair => pair.2 = snapshotVersion with
      | none => exact .inl (by simp [on, IndexedCatalog.rollbackToSnapshot, found])
      | some pair =>
          rcases replaced sync.baseSystem pair.1 with same | ⟨returned, entries, new⟩
          · exact .inl (by simpa [on, IndexedCatalog.rollbackToSnapshot, found] using same)
          · refine .inr ⟨?_, entries, pair.1, ?_⟩
            · simp [on, on.raised, IndexedCatalog.rollbackToSnapshot, found, returned, Except.map]
            · simpa [on, IndexedCatalog.rollbackToSnapshot, found] using new

theorem after_concat (calls : List (CatalogCall F)) (call : CatalogCall F) :
    IndexedCatalog.after (calls ++ [call]) = (call.on (.after calls)).2 := by
  unfold IndexedCatalog.after
  rw [List.foldl_append]
  rfl

theorem agrees_after (calls : List (CatalogCall F)) : (IndexedCatalog.after calls).Agrees := by
  induction calls using List.reverseRecOn with
  | nil => exact agrees_new
  | append_singleton calls call ih =>
      rw [after_concat]
      rcases call.on_cases (.after calls) with same | ⟨-, entries, snapshotVersion, new⟩
      · rwa [same]
      · rw [new]
        exact agrees_replaceEntries entries snapshotVersion

/-- After any calls the indexes agree with the entries, and a call that raises changes nothing. -/
theorem indexes_agree (calls : List (CatalogCall F)) :
    (IndexedCatalog.after calls).Agrees ∧
      ∀ call : CatalogCall F, (call.on (.after calls)).1 ≠ none →
        (call.on (.after calls)).2 = .after calls := by
  refine ⟨agrees_after calls, fun call raises => ?_⟩
  rcases call.on_cases (.after calls) with same | ⟨returned, -⟩
  · exact same
  · exact absurd returned raises

end

end SyndicateClaw.Inference
