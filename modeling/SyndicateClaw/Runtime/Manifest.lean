import Mathlib.Data.Prod.Lex
import Mathlib.Data.String.Basic
import SyndicateClaw.Data.Keyed
import SyndicateClaw.Data.KeySort
import SyndicateClaw.Orchestrator.Value

/-! Skill manifests, and the registry that is loaded from them. -/

namespace SyndicateClaw.Runtime

open Orchestrator

inductive RiskLevel where
  | low | medium | high
  deriving DecidableEq

def RiskLevel.value : RiskLevel → String
  | low => "low"
  | medium => "medium"
  | high => "high"

inductive DeterminismTarget where
  | low | medium | high
  deriving DecidableEq

def DeterminismTarget.value : DeterminismTarget → String
  | low => "low"
  | medium => "medium"
  | high => "high"

inductive TriggerType where
  | intent
  deriving DecidableEq

inductive ToolPolicy where
  | explicitAllowlist | denyAll
  deriving DecidableEq

def ToolPolicy.value : ToolPolicy → String
  | explicitAllowlist => "explicit_allowlist"
  | denyAll => "deny_all"

/-- `phrases` are its `match`. -/
structure IntentTrigger where
  type : TriggerType := .intent
  phrases : List String

/-- A manifest as the router and the engine read it. -/
structure SkillManifest where
  skillId : String
  version : String
  triggers : List IntentTrigger
  nonTriggers : List IntentTrigger := []
  riskLevel : RiskLevel := .medium
  determinismTarget : DeterminismTarget := .medium
  toolPolicy : ToolPolicy := .explicitAllowlist
  allowedTools : List String := []
  deniedTools : List String := []
  inputSchema : State := []
  outputSchema : State := []
  deprecated : Bool := false
  -- `validate_tool_policy`
  denies : toolPolicy = .denyAll → allowedTools = [] := by nofun

def SkillManifest.key (manifest : SkillManifest) : String × String :=
  (manifest.skillId, manifest.version)

/-- A registry has one manifest of each id and version. -/
abbrev SkillRegistry := Keyed SkillManifest.key

/-- `load_manifests_from_directory`, of the manifests in the order of their files; `none` where one
comes twice. -/
def loadManifests (manifests : List SkillManifest) : Option SkillRegistry :=
  if distinct : (manifests.map SkillManifest.key).Nodup then some ⟨manifests, distinct⟩ else none

section

-- `packaging.version.Version`, by what it is compared by.
variable {κ : Type} [LinearOrder κ] (version : String → κ)

/-- `sort_manifests_by_key` -/
def sortManifestsByKey (manifests : List SkillManifest) : List SkillManifest :=
  sortBy (fun manifest => toLex (manifest.skillId, version manifest.version)) manifests

/-- `list_skills` -/
def listSkills (registry : SkillRegistry) (includeDeprecated : Bool) : List SkillManifest :=
  sortManifestsByKey version (registry.rows.filter fun manifest =>
    includeDeprecated || !manifest.deprecated)

end

end SyndicateClaw.Runtime
