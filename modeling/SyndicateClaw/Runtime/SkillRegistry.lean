import Mathlib.Data.List.DropRight
import Mathlib.Data.List.Lex
import Mathlib.Data.List.MinMax
import SyndicateClaw.Data.GroupIndex
import SyndicateClaw.Runtime.Manifest

/-! The indexes of the skill registry, and what the order of the manifests has to do with them. -/

namespace SyndicateClaw.Runtime

structure UnknownSkillError where
  message : String
  deriving DecidableEq

/-- `_by_key` and `_ids`. -/
structure RegistryIndex where
  byKey : Dict (String × String) SkillManifest
  ids : Dict String (List SkillManifest)

section

-- `packaging.version.Version`, by what it is compared by. A manifest has a valid version.
variable {κ : Type} [LinearOrder κ] (version : String → κ)

namespace RegistryIndex

/-- `SkillRegistry.__init__` -/
def ofManifests (manifests : List SkillManifest) : RegistryIndex :=
  let ordered := sortManifestsByKey version manifests
  { byKey := ordered.foldl (fun index manifest => Dict.set index manifest.key manifest) []
    ids := GroupIndex.gather [] (ordered.map fun manifest => (manifest.skillId, manifest)) }

variable (index : RegistryIndex)

/-- `get`; `max` takes the first of the greatest. -/
def get (skillId : String) : Option String → Except UnknownSkillError SkillManifest
  | some requested =>
      match Dict.get? index.byKey (skillId, requested) with
      | none => .error ⟨"unknown skill " ++ skillId ++ "@" ++ requested⟩
      | some found => .ok found
  | none =>
      match (GroupIndex.under index.ids skillId).argmax fun manifest => version manifest.version with
      | none => .error ⟨"unknown skill_id " ++ skillId⟩
      | some latest => .ok latest

def listSkills (includeDeprecated : Bool) : List SkillManifest :=
  sortManifestsByKey version ((index.byKey.map Prod.snd).filter fun manifest =>
    includeDeprecated || !manifest.deprecated)

def listVersions (skillId : String) : List String :=
  sortBy version ((GroupIndex.under index.ids skillId).map SkillManifest.version)

end RegistryIndex

end

/-! ### What the indexes hold -/

section

variable {κ : Type} [LinearOrder κ] {version : String → κ}

theorem key_distinct_sorted (manifests : SkillRegistry) :
    ((sortManifestsByKey version manifests.rows).map SkillManifest.key).Nodup :=
  ((perm_sortBy _ manifests.rows).map _).nodup_iff.mpr manifests.distinct

theorem byKey_ofManifests (manifests : SkillRegistry) :
    (RegistryIndex.ofManifests version manifests.rows).byKey =
      (sortManifestsByKey version manifests.rows).map fun manifest => (manifest.key, manifest) := by
  have distinct : (((sortManifestsByKey version manifests.rows).map
      fun manifest => (manifest.key, manifest)).map Prod.fst).Nodup := by
    rw [List.map_map]
    exact key_distinct_sorted manifests
  unfold RegistryIndex.ofManifests
  rw [← List.nil_append ((sortManifestsByKey version manifests.rows).map _),
    ← Dict.foldl_set distinct, List.foldl_map]

theorem under_ofManifests (manifests : List SkillManifest) (skillId : String) :
    GroupIndex.under (RegistryIndex.ofManifests version manifests).ids skillId =
      sortBy (fun manifest => version manifest.version)
        (manifests.filter fun manifest => manifest.skillId = skillId) := by
  have gathered : GroupIndex.under (RegistryIndex.ofManifests version manifests).ids skillId =
      (sortManifestsByKey version manifests).filter fun manifest => manifest.skillId = skillId := by
    unfold RegistryIndex.ofManifests
    rw [GroupIndex.under_gather, List.filter_map, List.map_map]
    simp [GroupIndex.under, Function.comp_def]
  rw [gathered]
  have sorted : ((sortManifestsByKey version manifests).filter fun manifest =>
      manifest.skillId = skillId).Pairwise fun a b => version a.version ≤ version b.version := by
    apply ((sorted_sortBy _ manifests).filter _).imp_of_mem
    intro a b first second le
    have own := of_decide_eq_true (List.mem_filter.mp first).2
    have own' := of_decide_eq_true (List.mem_filter.mp second).2
    rw [own, own', Prod.Lex.toLex_le_toLex] at le
    exact le.elim (fun less => absurd less (lt_irrefl _)) fun both => both.2
  refine sorted_unique_of_levels sorted (sorted_sortBy _ _) fun own => ?_
  have stable : (sortManifestsByKey version manifests).filter (fun manifest =>
      toLex (manifest.skillId, version manifest.version) = toLex (skillId, own)) = _ :=
    sortBy_stable manifests (toLex (skillId, own))
  have test (manifest : SkillManifest) :
      decide (toLex (manifest.skillId, version manifest.version) = toLex (skillId, own)) =
        (decide (version manifest.version = own) && decide (manifest.skillId = skillId)) := by
    rw [Bool.eq_iff_iff, Bool.and_eq_true, decide_eq_true_eq, decide_eq_true_eq, decide_eq_true_eq,
      toLex_inj, Prod.mk.injEq, and_comm]
  simp only [test] at stable
  rw [sortBy_stable, List.filter_filter, List.filter_filter, stable]

theorem mem_under {manifests : SkillRegistry} {skillId : String} {manifest : SkillManifest} :
    manifest ∈ GroupIndex.under (RegistryIndex.ofManifests version manifests.rows).ids skillId ↔
      manifest ∈ manifests.rows ∧ manifest.skillId = skillId := by
  rw [under_ofManifests, mem_sortBy, List.mem_filter, decide_eq_true_eq]

theorem listSkills_ofManifests (manifests : SkillRegistry) (includeDeprecated : Bool) :
    (RegistryIndex.ofManifests version manifests.rows).listSkills version includeDeprecated =
      listSkills version manifests includeDeprecated := by
  have values : (RegistryIndex.ofManifests version manifests.rows).byKey.map Prod.snd =
      sortManifestsByKey version manifests.rows := by
    rw [byKey_ofManifests, List.map_map]
    exact List.map_id _
  unfold RegistryIndex.listSkills listSkills
  rw [values, sortManifestsByKey, sortManifestsByKey, sortBy_filter]
  exact sortBy_congr fun own => sortBy_stable _ own

/-! ### The order of the manifests -/

/-- What the registry answers depends on the set of its manifests only, and versions are ordered as
they are compared. -/
structure OrderFree (version : String → κ) (manifests : SkillRegistry) : Prop where
  latest : ∀ other : SkillRegistry, other.rows.Perm manifests.rows → ∀ skillId,
    (RegistryIndex.ofManifests version other.rows).get version skillId none =
      (RegistryIndex.ofManifests version manifests.rows).get version skillId none
  pinned : ∀ other : SkillRegistry, other.rows.Perm manifests.rows → ∀ skillId requested,
    (RegistryIndex.ofManifests version other.rows).get version skillId (some requested) =
      (RegistryIndex.ofManifests version manifests.rows).get version skillId (some requested)
  skills : ∀ other : SkillRegistry, other.rows.Perm manifests.rows → ∀ includeDeprecated,
    (RegistryIndex.ofManifests version other.rows).listSkills version includeDeprecated =
      (RegistryIndex.ofManifests version manifests.rows).listSkills version includeDeprecated
  versions : ∀ other : SkillRegistry, other.rows.Perm manifests.rows → ∀ skillId,
    (RegistryIndex.ofManifests version other.rows).listVersions version skillId =
      (RegistryIndex.ofManifests version manifests.rows).listVersions version skillId
  greatest : ∀ manifest ∈ manifests.rows, ∃ latest ∈ manifests.rows,
    (RegistryIndex.ofManifests version manifests.rows).get version manifest.skillId none =
        .ok latest ∧
      latest.skillId = manifest.skillId ∧ version manifest.version ≤ version latest.version
  sorted : ∀ skillId, ((RegistryIndex.ofManifests version manifests.rows).listVersions version
    skillId).Pairwise fun a b => version a ≤ version b

theorem pinned_perm {manifests other : SkillRegistry} (perm : other.rows.Perm manifests.rows)
    (skillId requested : String) :
    (RegistryIndex.ofManifests version other.rows).get version skillId (some requested) =
      (RegistryIndex.ofManifests version manifests.rows).get version skillId (some requested) := by
  have ordered : (sortManifestsByKey version other.rows).Perm
      (sortManifestsByKey version manifests.rows) :=
    ((perm_sortBy _ _).trans perm).trans (perm_sortBy _ _).symm
  have found : Dict.get? (RegistryIndex.ofManifests version other.rows).byKey (skillId, requested) =
      Dict.get? (RegistryIndex.ofManifests version manifests.rows).byKey (skillId, requested) := by
    rw [byKey_ofManifests, byKey_ofManifests]
    apply Dict.get?_perm (ordered.map _)
    rw [List.map_map]
    exact key_distinct_sorted other
  simp only [RegistryIndex.get, found]

theorem exists_greatest {manifests : SkillRegistry} {manifest : SkillManifest}
    (member : manifest ∈ manifests.rows) : ∃ latest ∈ manifests.rows,
    (RegistryIndex.ofManifests version manifests.rows).get version manifest.skillId none =
        .ok latest ∧
      latest.skillId = manifest.skillId ∧ version manifest.version ≤ version latest.version := by
  have inside : manifest ∈ GroupIndex.under (RegistryIndex.ofManifests version manifests.rows).ids
      manifest.skillId := mem_under.mpr ⟨member, rfl⟩
  cases found : (GroupIndex.under (RegistryIndex.ofManifests version manifests.rows).ids
      manifest.skillId).argmax fun manifest => version manifest.version with
  | none =>
      rw [List.argmax_eq_none] at found
      rw [found] at inside
      cases inside
  | some latest =>
      obtain ⟨known, same⟩ := mem_under.mp (List.argmax_mem found)
      have greatest := List.le_of_mem_argmax
        (f := fun manifest : SkillManifest => version manifest.version) inside found
      refine ⟨latest, known, ?_, same, greatest⟩
      rw [RegistryIndex.get]
      simp only [found]

/-- No two manifests of a skill have the same version under two spellings. -/
def SpellingsApart (version : String → κ) (manifests : SkillRegistry) : Prop :=
  ∀ manifest ∈ manifests.rows, ∀ other ∈ manifests.rows, manifest.skillId = other.skillId →
    version manifest.version = version other.version → manifest.version = other.version

theorem ordered_perm {manifests other : SkillRegistry} (apart : SpellingsApart version manifests)
    (perm : other.rows.Perm manifests.rows) :
    sortManifestsByKey version other.rows = sortManifestsByKey version manifests.rows := by
  refine (sortBy_perm perm.symm ?_).symm
  apply List.Nodup.map_on _ manifests.distinct.of_map
  intro manifest member other' member' same
  obtain ⟨skill, level⟩ := Prod.mk.inj (toLex_inj.mp same)
  apply List.inj_on_of_nodup_map manifests.distinct member member'
  exact Prod.ext skill (apart manifest member other' member' skill level)

theorem exists_first {manifests : SkillRegistry} {manifest : SkillManifest}
    (member : manifest ∈ manifests.rows) :
    ∃ other : SkillRegistry, other.rows.Perm manifests.rows ∧ other.rows.head? = some manifest := by
  obtain ⟨before, after, whole⟩ := List.append_of_mem member
  have perm : (manifest :: (before ++ after)).Perm manifests.rows := by
    rw [whole]
    exact List.perm_middle.symm
  refine ⟨⟨manifest :: (before ++ after), ?_⟩, perm, rfl⟩
  exact (perm.map _).nodup_iff.mpr manifests.distinct

theorem first_listed {manifests : SkillRegistry} {manifest : SkillManifest}
    (first : manifests.rows.head? = some manifest) :
    (((RegistryIndex.ofManifests version manifests.rows).listVersions version
      manifest.skillId).filter fun own => version own = version manifest.version).head? =
        some manifest.version := by
  obtain ⟨rest, rows⟩ := List.head?_eq_some_iff.mp first
  have stable : (sortBy version ((GroupIndex.under (RegistryIndex.ofManifests version
      manifests.rows).ids manifest.skillId).map SkillManifest.version)).filter
        (fun own => version own = version manifest.version) = _ :=
    sortBy_stable _ (version manifest.version)
  have stable' : (sortBy (fun manifest => version manifest.version)
      (manifests.rows.filter fun other => other.skillId = manifest.skillId)).filter
        (fun other => version other.version = version manifest.version) = _ :=
    sortBy_stable _ (version manifest.version)
  unfold RegistryIndex.listVersions
  rw [stable, under_ofManifests, List.filter_map]
  show ((List.filter (fun other : SkillManifest => decide (version other.version = version manifest.version))
    _).map _).head? = _
  rw [stable', rows]
  simp

/-- The registry depends on the set of its manifests exactly if no skill has one version under two
spellings. -/
theorem orderFree_iff (version : String → κ) (manifests : SkillRegistry) :
    OrderFree version manifests ↔ SpellingsApart version manifests := by
  constructor
  · intro free manifest member other member' skill level
    obtain ⟨one, perm, first⟩ := exists_first member
    obtain ⟨two, perm', first'⟩ := exists_first member'
    have listed := @first_listed κ _ version one manifest first
    have listed' := @first_listed κ _ version two other first'
    rw [free.versions one perm, level, skill] at listed
    rw [free.versions two perm'] at listed'
    exact Option.some.inj (listed.symm.trans listed')
  · intro apart
    have same (other : SkillRegistry) (perm : other.rows.Perm manifests.rows) :
        RegistryIndex.ofManifests version other.rows =
          RegistryIndex.ofManifests version manifests.rows := by
      unfold RegistryIndex.ofManifests
      rw [ordered_perm apart perm]
    refine ⟨?_, fun other perm => pinned_perm perm, ?_, ?_, fun manifest => exists_greatest,
      fun skillId => sorted_sortBy _ _⟩
    · intro other perm skillId
      rw [same other perm]
    · intro other perm includeDeprecated
      rw [same other perm]
    · intro other perm skillId
      rw [same other perm]

end

/-! Two spellings of one version. -/

def releaseOf (version : String) : List Nat :=
  ((version.toList.splitOn '.').map fun part =>
    part.foldl (fun n digit => 10 * n + (digit.toNat - '0'.toNat)) 0).rdropWhile (· == 0)

def greeting (version : String) : SkillManifest := { skillId := "greet", version, triggers := [] }

def spelledTwice (shortFirst : Bool) : SkillRegistry where
  rows := if shortFirst then [greeting "1.0", greeting "1.0.0"]
    else [greeting "1.0.0", greeting "1.0"]
  distinct := by cases shortFirst <;> decide

theorem spelling_decides :
    (((RegistryIndex.ofManifests releaseOf (spelledTwice true).rows).get releaseOf "greet"
      none).toOption.map SkillManifest.version = some "1.0" ∧
    ((RegistryIndex.ofManifests releaseOf (spelledTwice false).rows).get releaseOf "greet"
      none).toOption.map SkillManifest.version = some "1.0.0") ∧
    ¬ OrderFree releaseOf (spelledTwice true) := by
  have short : ((RegistryIndex.ofManifests releaseOf (spelledTwice true).rows).get releaseOf "greet"
      none).toOption.map SkillManifest.version = some "1.0" := by
    decide +kernel
  have long : ((RegistryIndex.ofManifests releaseOf (spelledTwice false).rows).get releaseOf "greet"
      none).toOption.map SkillManifest.version = some "1.0.0" := by
    decide +kernel
  refine ⟨⟨short, long⟩, fun free => ?_⟩
  have perm : (spelledTwice false).rows.Perm (spelledTwice true).rows := List.Perm.swap _ _ _
  rw [free.latest (spelledTwice false) perm "greet", short] at long
  exact absurd (Option.some.inj long) (by decide)

end SyndicateClaw.Runtime
