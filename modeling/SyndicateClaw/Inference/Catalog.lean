import Mathlib.Data.String.Basic
import Mathlib.Data.Prod.Lex
import SyndicateClaw.Data.KeySort
import SyndicateClaw.Inference.Registry
import SyndicateClaw.Orchestrator.Value

/-! The system configuration and the catalog of models.

`F` stands for the floats, NaN left out: an ordered type with the arithmetic of the scores. -/

namespace SyndicateClaw.Inference

open Authz Orchestrator

/-! ### Configuration -/

structure ModelCapabilities where
  reasoning : Bool := false
  toolCall : Bool := false
  structuredOutput : Bool := false
  temperature : Bool := true
  deriving DecidableEq

structure ModelCost (F : Type) where
  inputPerMillion : F
  outputPerMillion : F
  cacheReadPerMillion : F
  deriving DecidableEq

structure ModelLimits where
  contextWindow : Int := 0
  maxOutput : Int := 0
  deriving DecidableEq

structure ModelDescriptor (F : Type) where
  modelId : String
  name : String
  family : String := ""
  providerId : String
  capabilities : ModelCapabilities := {}
  modalitiesInput : List String := []
  modalitiesOutput : List String := []
  cost : ModelCost F
  limits : ModelLimits := {}
  openWeights : Bool := false
  embeddingDimensions : Option Int := none
  isEmbeddingModel : Bool := false
  deriving DecidableEq

structure RoutingWeights (F : Type) where
  cost : F
  latencyProxy : F
  sensitivityMatchBonus : F
  degradedPenalty : F
  trustTierTrustedBonus : F
  trustTierUntrustedPenalty : F

structure RoutingPolicyConfig (F : Type) where
  weights : RoutingWeights F
  costWeightCap : F
  policyMaxCandidatesPerRequest : Int := 64
  maxTotalLatency : Time := 120

structure StaticCatalogEntry (F : Type) where
  providerId : String
  modelId : String
  capability : InferenceCapability
  descriptor : ModelDescriptor F
  sameModel : descriptor.modelId = modelId
  sameProvider : descriptor.providerId = providerId

/-- A configuration that passed `validate_graph`. -/
structure ProviderSystemConfig (F : Type) where
  inferenceEnabled : Bool := true
  providers : List ProviderConfig
  routing : RoutingPolicyConfig F
  staticCatalog : List (StaticCatalogEntry F)
  yamlWinsOnKeyCollision : Bool := true
  distinct : (providers.map ProviderConfig.id).Nodup
  known : ∀ entry ∈ staticCatalog, entry.providerId ∈ providers.map ProviderConfig.id

/-- `ProviderRegistry(config)`. -/
def ProviderRegistry.ofConfig {F : Type} (config : ProviderSystemConfig F) : ProviderRegistry where
  providers := config.providers.map fun provider => (provider.id, provider)
  ephemeral := config.providers.map fun provider => (provider.id, {})

/-! ### The catalog -/

inductive CatalogEntryStatus where
  | active
  | quarantined
  | rejected
  deriving DecidableEq

inductive CatalogEntrySource where
  | yamlStatic
  | modelsDev
  deriving DecidableEq

structure CatalogEntryRecord (F : Type) where
  providerId : String
  modelId : String
  descriptor : ModelDescriptor F
  capabilities : List InferenceCapability
  status : CatalogEntryStatus := .active
  source : CatalogEntrySource := .yamlStatic

section

variable {F : Type}

abbrev CatalogEntryRecord.key (row : CatalogEntryRecord F) : String × String :=
  (row.providerId, row.modelId)

abbrev StaticCatalogEntry.key (entry : StaticCatalogEntry F) : String × String :=
  (entry.providerId, entry.modelId)

structure CatalogEntries (F : Type) where
  rows : Dict (String × String) (CatalogEntryRecord F)
  distinct : (rows.map Prod.fst).Nodup
  own : ∀ entry ∈ rows, entry.1 = entry.2.key

structure ModelCatalog (F : Type) where
  snapshotVersion : String
  entries : CatalogEntries F

def CatalogEntries.empty : CatalogEntries F :=
  ⟨[], List.nodup_nil, fun _ member => absurd member List.not_mem_nil⟩

/-- `combined[(row.provider_id, row.model_id)] = row`. -/
def CatalogEntries.put (entries : CatalogEntries F) (row : CatalogEntryRecord F) :
    CatalogEntries F where
  rows := Dict.set entries.rows row.key row
  distinct := Dict.nodup_set entries.distinct row.key row
  own entry member := by
    rcases Dict.mem_set member with rfl | old
    · rfl
    · exact entries.own entry old

namespace ModelCatalog

variable (catalog : ModelCatalog F)

def get (providerId modelId : String) : Option (CatalogEntryRecord F) :=
  Dict.get? catalog.entries.rows (providerId, modelId)

def entryCount : Nat := catalog.entries.rows.length

def values : List (CatalogEntryRecord F) := catalog.entries.rows.map Prod.snd

def iterByCapability (capability : InferenceCapability) : List (CatalogEntryRecord F) :=
  catalog.values.filter fun row => capability ∈ row.capabilities && row.status = .active

theorem values_keys : catalog.values.map CatalogEntryRecord.key =
    catalog.entries.rows.map Prod.fst := by
  unfold values
  rw [List.map_map]
  apply List.map_congr_left
  intro entry member
  exact (catalog.entries.own entry member).symm

theorem get_of_mem {row : CatalogEntryRecord F} (member : row ∈ catalog.values) :
    catalog.get row.providerId row.modelId = some row := by
  obtain ⟨entry, own, rfl⟩ := List.mem_map.mp member
  refine (Dict.get?_eq_some catalog.entries.distinct).mpr ?_
  rw [← show entry.1 = (entry.2.providerId, entry.2.modelId) from catalog.entries.own entry own]
  exact own

end ModelCatalog

/-! ### Merging -/

def groupOf (rows : List (StaticCatalogEntry F)) (key : String × String) :
    List (StaticCatalogEntry F) :=
  sortBy (fun entry => entry.capability.value) (rows.filter fun entry => entry.key = key)

/-- The key of `sorted(..., key=lambda r: (r.provider_id, r.model_id))`. -/
def CatalogEntryRecord.sortKey (row : CatalogEntryRecord F) : String ×ₗ String := toLex row.key

variable [DecidableEq F]

def mergeGroup (entries : CatalogEntries F) (key : String × String) :
    List (StaticCatalogEntry F) → Except String (CatalogEntries F)
  | [] => .ok entries
  | first :: rest =>
      if rest.any fun entry => entry.descriptor ≠ first.descriptor then
        .error ("conflicting ModelDescriptor for (" ++ (Value.str key.1).repr ++ ", " ++
          (Value.str key.2).repr ++ "): merge static_catalog rows")
      else
        .ok (entries.put
          { providerId := key.1, modelId := key.2, descriptor := first.descriptor
            capabilities := (first :: rest).map StaticCatalogEntry.capability })

/-- `_merge_static_catalog_rows`. -/
def mergeStaticCatalogRows (rows : List (StaticCatalogEntry F)) :
    Except String (CatalogEntries F) :=
  (rows.map StaticCatalogEntry.key).eraseDups.foldlM
    (fun entries key => mergeGroup entries key (groupOf rows key)) .empty

/-- `replace_from_yaml_static`. -/
def replaceFromYamlStatic (system : ProviderSystemConfig F) (snapshotVersion : String) :
    Except String (ModelCatalog F) := do
  return { snapshotVersion, entries := ← mergeStaticCatalogRows system.staticCatalog }

/-- `merge_yaml_and_models_dev`. -/
def mergeYamlAndModelsDev (yamlRows : List (StaticCatalogEntry F))
    (modelsDevRows : List (CatalogEntryRecord F)) (snapshotVersion : String)
    (yamlWinsOnKeyCollision : Bool) : Except String (ModelCatalog F) := do
  let merged ← mergeStaticCatalogRows yamlRows
  return { snapshotVersion
           entries := (sortBy CatalogEntryRecord.sortKey modelsDevRows).foldl
             (fun combined row =>
               if Dict.contains combined.rows row.key && yamlWinsOnKeyCollision then combined
               else combined.put row)
             merged }

end

end SyndicateClaw.Inference
