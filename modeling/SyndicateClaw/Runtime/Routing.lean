import SyndicateClaw.Runtime.Router

/-! Which skill the router selects. -/

namespace SyndicateClaw.Runtime

structure Eligible (unicode : UnicodeData) (registry : SkillRegistry) (goalNorm : String)
    (manifest : SkillManifest) : Prop where
  registered : manifest ∈ registry.rows
  current : manifest.deprecated = false
  unvetoed : unicode.goalMatchesNonTrigger goalNorm manifest.nonTriggers = false
  triggered : 0 < unicode.triggerMatchScore goalNorm manifest.triggers

structure Best (unicode : UnicodeData) (registry : SkillRegistry) (goalNorm : String)
    (manifest : SkillManifest) : Prop where
  eligible : Eligible unicode registry goalNorm manifest
  wins : ∀ other, Eligible unicode registry goalNorm other → other ≠ manifest →
    compareCandidates manifest other (unicode.triggerMatchScore goalNorm manifest.triggers)
      (unicode.triggerMatchScore goalNorm other.triggers) < 0

/-- What `compare_candidates` compares. -/
def routingRank (manifest : SkillManifest) (score : Nat) : Int ×ₗ Nat ×ₗ Nat :=
  toLex (-(score : Int), toLex (riskRank manifest.riskLevel,
    determinismRank manifest.determinismTarget))

section

variable {κ : Type} [LinearOrder κ] {version : String → κ} {unicode : UnicodeData}
  {registry : SkillRegistry} {goalNorm : String} {manifest other : SkillManifest}
  {a b : SkillManifest} {scoreA scoreB : Nat}

/-! ### Ranks -/

theorem compareCandidates_neg :
    compareCandidates a b scoreA scoreB < 0 ↔ routingRank a scoreA < routingRank b scoreB := by
  unfold compareCandidates routingRank
  rw [Prod.Lex.toLex_lt_toLex, Prod.Lex.toLex_lt_toLex]
  dsimp only
  split
  · omega
  · split
    · omega
    · split
      · omega
      · omega

theorem compareCandidates_zero :
    compareCandidates a b scoreA scoreB = 0 ↔ routingRank a scoreA = routingRank b scoreB := by
  unfold compareCandidates routingRank
  rw [toLex_inj, Prod.mk.injEq, toLex_inj, Prod.mk.injEq]
  split
  · omega
  · split
    · omega
    · split
      · omega
      · omega

theorem routingRank_mono (le : sortKeyForManifest a scoreA ≤ sortKeyForManifest b scoreB) :
    routingRank a scoreA ≤ routingRank b scoreB := by
  unfold sortKeyForManifest at le
  unfold routingRank
  rw [Prod.Lex.toLex_le_toLex, Prod.Lex.toLex_le_toLex, Prod.Lex.toLex_le_toLex] at le
  rw [Prod.Lex.toLex_le_toLex, Prod.Lex.toLex_le_toLex]
  dsimp only at le ⊢
  rcases le with less | ⟨same, less | ⟨equal, less | ⟨alike, _⟩⟩⟩
  · exact .inl less
  · exact .inr ⟨same, .inl less⟩
  · exact .inr ⟨same, .inr ⟨equal, less.le⟩⟩
  · exact .inr ⟨same, .inr ⟨equal, alike.le⟩⟩

/-! ### Candidates -/

def entryOf (unicode : UnicodeData) (goalNorm : String) (manifest : SkillManifest) : Scored :=
  (manifest, unicode.triggerMatchScore goalNorm manifest.triggers,
    reasonsFor manifest (unicode.triggerMatchScore goalNorm manifest.triggers))

theorem scored_eq_some {item : Scored} : scored unicode goalNorm manifest = some item ↔
    unicode.goalMatchesNonTrigger goalNorm manifest.nonTriggers = false ∧
    0 < unicode.triggerMatchScore goalNorm manifest.triggers ∧
    item = entryOf unicode goalNorm manifest := by
  unfold scored
  cases unicode.goalMatchesNonTrigger goalNorm manifest.nonTriggers with
  | true => simp
  | false =>
      rw [if_neg Bool.false_ne_true]
      dsimp only
      split
      · next low => simp [Nat.not_lt.mpr low]
      · next high => simp [Nat.not_le.mp high, entryOf, eq_comm]

theorem mem_listSkills : manifest ∈ listSkills version registry false ↔
    manifest ∈ registry.rows ∧ manifest.deprecated = false := by
  unfold listSkills sortManifestsByKey
  rw [mem_sortBy]
  simp

theorem mem_candidatesFor {item : Scored} : item ∈ candidatesFor version unicode registry goalNorm ↔
    ∃ manifest, Eligible unicode registry goalNorm manifest ∧
      item = entryOf unicode goalNorm manifest := by
  unfold candidatesFor
  simp only [List.mem_filterMap, mem_listSkills, scored_eq_some]
  constructor
  · rintro ⟨manifest, ⟨registered, current⟩, unvetoed, triggered, same⟩
    exact ⟨manifest, ⟨registered, current, unvetoed, triggered⟩, same⟩
  · rintro ⟨manifest, eligible, same⟩
    exact ⟨manifest, ⟨eligible.registered, eligible.current⟩, eligible.unvetoed, eligible.triggered,
      same⟩

theorem candidates_distinct :
    (candidatesFor version unicode registry goalNorm).Pairwise fun item item' =>
      item.1.key ≠ item'.1.key := by
  unfold candidatesFor
  rw [List.pairwise_filterMap]
  have distinct : ((listSkills version registry false).map SkillManifest.key).Nodup := by
    unfold listSkills sortManifestsByKey
    apply ((perm_sortBy _ _).map SkillManifest.key).nodup_iff.mpr
    exact registry.distinct.sublist (List.filter_sublist.map _)
  apply (List.pairwise_map.mp distinct).imp
  intro a b apart item from_a item' from_b
  rw [(scored_eq_some.mp from_a).2.2, (scored_eq_some.mp from_b).2.2]
  exact apart

theorem keys_distinct :
    ((candidatesFor version unicode registry goalNorm).map Scored.key).Nodup := by
  apply List.pairwise_map.mpr
  apply candidates_distinct.imp
  intro item item' apart same
  unfold Scored.key sortKeyForManifest at same
  simp only [toLex_inj, Prod.mk.injEq] at same
  exact apart (Prod.ext same.2.2.2.1 same.2.2.2.2)

/-! ### The decision -/

def Scored.rank (item : Scored) : Int ×ₗ Nat ×ₗ Nat := routingRank item.1 item.2.1

theorem best_iff {best : Scored} {rest : List Scored}
    (listed : sortBy Scored.key (candidatesFor version unicode registry goalNorm) = best :: rest) :
    Best unicode registry goalNorm manifest ↔
      best = entryOf unicode goalNorm manifest ∧ ∀ other ∈ rest, best.rank < other.rank := by
  have members (item : Scored) : item ∈ best :: rest ↔
      ∃ manifest, Eligible unicode registry goalNorm manifest ∧
        item = entryOf unicode goalNorm manifest := by
    rw [← listed, mem_sortBy, mem_candidatesFor]
  have sorted := sorted_sortBy Scored.key (candidatesFor version unicode registry goalNorm)
  have distinct := nodup_sortBy (@keys_distinct κ _ version unicode registry goalNorm)
  rw [listed] at sorted distinct
  have first (other : Scored) (member : other ∈ rest) : best.rank ≤ other.rank :=
    routingRank_mono ((List.pairwise_cons.mp sorted).1 other member)
  have apart (other : Scored) (member : other ∈ rest) : other ≠ best := by
    rintro rfl
    rw [List.map_cons, List.nodup_cons] at distinct
    exact distinct.1 (List.mem_map_of_mem member)
  constructor
  · intro wins
    rcases List.mem_cons.mp ((members _).mpr ⟨manifest, wins.eligible, rfl⟩) with same | later
    · refine ⟨same.symm, ?_⟩
      intro item member
      obtain ⟨other, eligible, rfl⟩ := (members item).mp (List.mem_cons_of_mem _ member)
      rw [← same]
      apply compareCandidates_neg.mp
      apply wins.wins other eligible
      rintro rfl
      exact apart _ member same
    · -- The first one would win against it, and be won against.
      obtain ⟨leader, eligible, rfl⟩ := (members best).mp List.mem_cons_self
      have other : leader ≠ manifest := by
        rintro rfl
        exact apart _ later rfl
      have less := compareCandidates_neg.mp (wins.wins leader eligible other)
      exact absurd less (not_lt_of_ge (first _ later))
  · rintro ⟨rfl, before⟩
    obtain ⟨own, eligible, same⟩ := (members _).mp List.mem_cons_self
    obtain rfl : manifest = own := congrArg Prod.fst same
    refine ⟨eligible, ?_⟩
    intro other eligible apart
    apply compareCandidates_neg.mpr
    rcases List.mem_cons.mp ((members _).mpr ⟨other, eligible, rfl⟩) with same | later
    · exact absurd (congrArg Prod.fst same) apart
    · exact before _ later

theorem candidates_decisionOn (taskId timestamp : String) (candidates : List Scored) :
    (decisionOn taskId timestamp candidates).candidates = candidates.map Scored.candidate := by
  cases candidates with
  | nil => rfl
  | cons best rest => exact (apply_ite RoutingDecision.candidates _ _ _).trans (ite_self _)

theorem decisionOn_cons (taskId timestamp : String) {best : Scored} {rest : List Scored}
    (sorted : (best :: rest).Pairwise fun a b => a.rank ≤ b.rank) :
    let decision := decisionOn taskId timestamp (best :: rest)
    ((∀ other ∈ rest, best.rank < other.rank) → decision.routingStatus = .selected ∧
      decision.selectedSkill = some { skillId := best.1.skillId, version := best.1.version }) ∧
    ((¬ ∀ other ∈ rest, best.rank < other.rank) → decision.routingStatus = .uncertain ∧
      decision.selectedSkill = none) := by
  rw [first_alone_iff sorted]
  unfold decisionOn
  cases rest with
  | nil => simp
  | cons second rest =>
      have le := (List.pairwise_cons.mp sorted).1 second List.mem_cons_self
      have tie : compareCandidates best.1 second.1 best.2.1 second.2.1 = 0 ↔
          ¬ best.rank < second.rank := by
        rw [compareCandidates_zero]
        exact ⟨fun same => not_lt_of_ge (ge_of_eq same), fun least => le.eq_of_not_lt least⟩
      by_cases before : best.rank < second.rank
      · simp [tie, before]
      · simp [tie, before]

variable (version unicode registry)

/-- The router returns `SELECTED` with the best skill, `UNCERTAIN` where there are some but no best,
and `BLOCKED` where there are none. -/
theorem routeTask_iff (task : TaskContext) (timestamp : String) :
    let goalNorm := unicode.normalizeGoal task.goal
    let decision := routeTask version unicode registry task timestamp
    (∀ skill, decision.routingStatus = .selected ∧ decision.selectedSkill = some skill ↔
      ∃ manifest, Best unicode registry goalNorm manifest ∧
        skill = { skillId := manifest.skillId, version := manifest.version }) ∧
    (decision.routingStatus = .uncertain ↔
      (∃ manifest, Eligible unicode registry goalNorm manifest) ∧
        ¬ ∃ manifest, Best unicode registry goalNorm manifest) ∧
    (decision.routingStatus = .blocked ↔
      ¬ ∃ manifest, Eligible unicode registry goalNorm manifest) := by
  intro goalNorm
  unfold routeTask
  have members (manifest : SkillManifest) (eligible : Eligible unicode registry goalNorm manifest) :
      entryOf unicode goalNorm manifest ∈
        sortBy Scored.key (candidatesFor version unicode registry goalNorm) :=
    (mem_sortBy _).mpr (mem_candidatesFor.mpr ⟨manifest, eligible, rfl⟩)
  cases listed : sortBy Scored.key (candidatesFor version unicode registry goalNorm) with
  | nil =>
      rw [listed] at members
      have none : ¬ ∃ manifest, Eligible unicode registry goalNorm manifest :=
        fun some => absurd (members _ some.choose_spec) List.not_mem_nil
      have noBest : ¬ ∃ manifest, Best unicode registry goalNorm manifest :=
        fun best => none (best.imp fun _ wins => wins.eligible)
      refine ⟨fun skill => iff_of_false nofun ?_, iff_of_false nofun ?_, iff_of_true rfl none⟩
      · exact fun selected => noBest (selected.imp fun _ both => both.1)
      · exact fun uncertain => none uncertain.1
  | cons best rest =>
      have first : best ∈ sortBy Scored.key (candidatesFor version unicode registry goalNorm) :=
        listed ▸ List.mem_cons_self
      obtain ⟨leader, eligible, same⟩ := mem_candidatesFor.mp ((mem_sortBy _).mp first)
      have sorted := sorted_sortBy Scored.key (candidatesFor version unicode registry goalNorm)
      rw [listed] at sorted
      have decided := decisionOn_cons task.taskId timestamp
        (sorted.imp fun le => routingRank_mono le)
      dsimp only at decided ⊢
      by_cases before : ∀ other ∈ rest, best.rank < other.rank
      · obtain ⟨status, selected⟩ := decided.1 before
        have wins : Best unicode registry goalNorm leader := (best_iff listed).mpr ⟨same, before⟩
        rw [status, selected]
        refine ⟨?_, iff_of_false nofun fun none => none.2 ⟨leader, wins⟩,
          iff_of_false nofun fun none => none ⟨leader, eligible⟩⟩
        intro skill
        rw [same]
        constructor
        · rintro ⟨_, chosen⟩
          exact ⟨leader, wins, (Option.some.inj chosen).symm⟩
        · rintro ⟨manifest, best', rfl⟩
          have only := same.symm.trans ((best_iff listed).mp best').1
          obtain rfl : leader = manifest := congrArg Prod.fst only
          exact ⟨rfl, rfl⟩
      · obtain ⟨status, selected⟩ := decided.2 before
        have noBest : ¬ ∃ manifest, Best unicode registry goalNorm manifest := by
          rintro ⟨manifest, wins⟩
          exact before ((best_iff listed).mp wins).2
        rw [status, selected]
        refine ⟨fun skill => iff_of_false nofun ?_, iff_of_true rfl ⟨⟨leader, eligible⟩, noBest⟩,
          iff_of_false nofun fun none => none ⟨leader, eligible⟩⟩
        exact fun selected => noBest (selected.imp fun _ both => both.1)

variable {registry}

theorem routeTask_perm {registry' : SkillRegistry} (perm : registry.rows.Perm registry'.rows)
    (task : TaskContext) (timestamp : String) :
    routeTask version unicode registry task timestamp =
      routeTask version unicode registry' task timestamp := by
  have listed : (listSkills version registry false).Perm (listSkills version registry' false) :=
    ((perm_sortBy _ _).trans (perm.filter _)).trans (perm_sortBy _ _).symm
  have candidates (goalNorm : String) : (candidatesFor version unicode registry goalNorm).Perm
      (candidatesFor version unicode registry' goalNorm) := listed.filterMap _
  unfold routeTask
  rw [sortBy_perm (candidates _) keys_distinct]

theorem route_loaded_perm {manifests manifests' : List SkillManifest}
    (perm : manifests.Perm manifests') (task : TaskContext) (timestamp : String) :
    (loadManifests manifests).map (fun registry => routeTask version unicode registry task timestamp) =
      (loadManifests manifests').map
        (fun registry => routeTask version unicode registry task timestamp) := by
  have same := (perm.map SkillManifest.key).nodup_iff
  unfold loadManifests
  by_cases distinct : (manifests.map SkillManifest.key).Nodup
  · rw [dif_pos distinct, dif_pos (same.mp distinct), Option.map_some, Option.map_some]
    exact congrArg some (routeTask_perm version unicode perm task timestamp)
  · rw [dif_neg distinct, dif_neg fun other => distinct (same.mpr other)]

end

end SyndicateClaw.Runtime
