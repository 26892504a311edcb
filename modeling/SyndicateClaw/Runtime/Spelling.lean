import Mathlib.Algebra.Order.BigOperators.Group.List
import Mathlib.Data.List.Forall2
import SyndicateClaw.Runtime.Routing

/-! Whether a decision of the router depends on how the goal and the phrases are spelled. -/

namespace SyndicateClaw.Runtime

/-! ### Spellings -/

def UnicodeData.Equivalent (unicode : UnicodeData) (text other : String) : Prop :=
  unicode.nfc text = unicode.nfc other

def RespelledTriggers (unicode : UnicodeData) : List IntentTrigger → List IntentTrigger → Prop :=
  List.Forall₂ fun trigger other =>
    trigger.type = other.type ∧ List.Forall₂ unicode.Equivalent trigger.phrases other.phrases

def SkillManifest.unspoken (manifest : SkillManifest) : SkillManifest :=
  { manifest with triggers := [], nonTriggers := [] }

structure Respelled (unicode : UnicodeData) (manifest other : SkillManifest) : Prop where
  same : manifest.unspoken = other.unspoken
  triggers : RespelledTriggers unicode manifest.triggers other.triggers
  nonTriggers : RespelledTriggers unicode manifest.nonTriggers other.nonTriggers

def Stable {κ : Type} [LinearOrder κ] (version : String → κ) (unicode : UnicodeData)
    (registry : SkillRegistry) (task : TaskContext) (timestamp : String) : Prop :=
  ∀ (registry' : SkillRegistry) (goal : String),
    List.Forall₂ (Respelled unicode) registry.rows registry'.rows →
    unicode.Equivalent task.goal goal →
      routeTask version unicode registry' { task with goal } timestamp =
        routeTask version unicode registry task timestamp

def intentPhrases (triggers : List IntentTrigger) : List String :=
  (triggers.filter fun trigger => trigger.type = .intent).flatMap IntentTrigger.phrases

/-- No spelling of a phrase makes a difference for the manifest: some non-trigger occurs in every
spelling, or no trigger occurs in any; or no non-trigger occurs in any spelling, and each trigger adds
the same in all of them. -/
def Steady (unicode : UnicodeData) (goalNorm : String) (manifest : SkillManifest) : Prop :=
  (∃ phrase ∈ intentPhrases manifest.nonTriggers, ∀ spelling, unicode.Equivalent phrase spelling →
    unicode.occurs goalNorm spelling = true) ∨
  (∀ phrase ∈ intentPhrases manifest.triggers, ∀ spelling, unicode.Equivalent phrase spelling →
    unicode.occurs goalNorm spelling = false) ∨
  (∀ phrase ∈ intentPhrases manifest.nonTriggers, ∀ spelling, unicode.Equivalent phrase spelling →
    unicode.occurs goalNorm spelling = false) ∧
  ∀ phrase ∈ intentPhrases manifest.triggers, ∀ spelling, unicode.Equivalent phrase spelling →
    unicode.contribution goalNorm spelling = unicode.contribution goalNorm phrase

section

variable {κ : Type} [LinearOrder κ] {version : String → κ} {unicode : UnicodeData}
  {registry registry' : SkillRegistry} {goalNorm : String} {manifest other : SkillManifest}
  {triggers triggers' : List IntentTrigger}

/-! ### Phrases -/

theorem goalMatchesNonTrigger_eq (goalNorm : String) (triggers : List IntentTrigger) :
    unicode.goalMatchesNonTrigger goalNorm triggers =
      (intentPhrases triggers).any (unicode.occurs goalNorm) := by
  unfold UnicodeData.goalMatchesNonTrigger intentPhrases
  rw [List.any_flatMap, List.any_filter]

theorem triggerMatchScore_eq (goalNorm : String) (triggers : List IntentTrigger) :
    unicode.triggerMatchScore goalNorm triggers =
      ((intentPhrases triggers).map (unicode.contribution goalNorm)).sum := by
  unfold UnicodeData.triggerMatchScore intentPhrases
  induction triggers with
  | nil => rfl
  | cons trigger rest ih =>
      rw [List.map_cons, List.sum_cons, ih, List.filter_cons]
      cases trigger.type
      simp [List.sum_append]

theorem contribution_pos {phrase : String} :
    0 < unicode.contribution goalNorm phrase ↔ unicode.occurs goalNorm phrase = true := by
  unfold UnicodeData.contribution
  cases found : unicode.occurs goalNorm phrase with
  | false => simp
  | true =>
      have some : unicode.phraseOf phrase ≠ "" := by
        unfold UnicodeData.occurs at found
        simp at found
        exact found.1
      have long : (unicode.phraseOf phrase).length ≠ 0 :=
        fun empty => some (String.length_eq_zero_iff.mp empty)
      simpa using Nat.pos_of_ne_zero long

theorem intentPhrases_eq (triggers : List IntentTrigger) :
    intentPhrases triggers = triggers.flatMap IntentTrigger.phrases := by
  unfold intentPhrases
  rw [List.filter_eq_self.mpr]
  intro trigger _
  cases trigger.type
  rfl

theorem RespelledTriggers.phrases (respelled : RespelledTriggers unicode triggers triggers') :
    List.Forall₂ unicode.Equivalent (intentPhrases triggers) (intentPhrases triggers') := by
  rw [intentPhrases_eq, intentPhrases_eq]
  exact List.rel_flatMap respelled fun _ _ both => both.2

/-! ### Steady manifests -/

def outcome (unicode : UnicodeData) (goalNorm : String) (manifest : SkillManifest) : Option Nat :=
  (scored unicode goalNorm manifest).map fun item => item.2.1

theorem outcome_eq_some {score : Nat} : outcome unicode goalNorm manifest = some score ↔
    (∀ phrase ∈ intentPhrases manifest.nonTriggers, unicode.occurs goalNorm phrase = false) ∧
    0 < score ∧
    ((intentPhrases manifest.triggers).map (unicode.contribution goalNorm)).sum = score := by
  have unvetoed : unicode.goalMatchesNonTrigger goalNorm manifest.nonTriggers = false ↔
      ∀ phrase ∈ intentPhrases manifest.nonTriggers, unicode.occurs goalNorm phrase = false := by
    rw [goalMatchesNonTrigger_eq, List.any_eq_false]
    simp
  rw [← unvetoed, ← triggerMatchScore_eq]
  unfold outcome
  simp only [Option.map_eq_some_iff, scored_eq_some]
  constructor
  · rintro ⟨item, ⟨unvetoed, triggered, rfl⟩, rfl⟩
    exact ⟨unvetoed, triggered, rfl⟩
  · rintro ⟨unvetoed, triggered, rfl⟩
    exact ⟨_, ⟨unvetoed, triggered, rfl⟩, rfl⟩

theorem forall_respelled {phrases spellings : List String} {P : String → Prop}
    (respelled : List.Forall₂ unicode.Equivalent phrases spellings)
    (always : ∀ phrase ∈ phrases, ∀ spelling, unicode.Equivalent phrase spelling → P spelling) :
    ∀ spelling ∈ spellings, P spelling := by
  induction respelled with
  | nil => exact fun _ member => absurd member List.not_mem_nil
  | cons equivalent _ ih =>
      rw [List.forall_mem_cons] at always ⊢
      exact ⟨always.1 _ equivalent, ih always.2⟩

theorem exists_respelled {phrases spellings : List String} {phrase : String}
    (respelled : List.Forall₂ unicode.Equivalent phrases spellings) (member : phrase ∈ phrases) :
    ∃ spelling ∈ spellings, unicode.Equivalent phrase spelling := by
  induction respelled with
  | nil => exact absurd member List.not_mem_nil
  | cons equivalent _ ih =>
      rcases List.mem_cons.mp member with rfl | later
      · exact ⟨_, List.mem_cons_self, equivalent⟩
      · obtain ⟨spelling, inside, same⟩ := ih later
        exact ⟨spelling, List.mem_cons_of_mem _ inside, same⟩

theorem map_respelled {phrases spellings : List String} {f : String → Nat}
    (respelled : List.Forall₂ unicode.Equivalent phrases spellings)
    (same : ∀ phrase ∈ phrases, ∀ spelling, unicode.Equivalent phrase spelling →
      f spelling = f phrase) : spellings.map f = phrases.map f := by
  induction respelled with
  | nil => rfl
  | cons equivalent _ ih =>
      rw [List.forall_mem_cons] at same
      rw [List.map_cons, List.map_cons, same.1 _ equivalent, ih same.2]

theorem contribution_eq_zero {phrase : String} (quiet : unicode.occurs goalNorm phrase = false) :
    unicode.contribution goalNorm phrase = 0 := by
  unfold UnicodeData.contribution
  rw [quiet]
  rfl

theorem outcome_eq_none_of_quiet
    (never : ∀ phrase ∈ intentPhrases manifest.triggers, unicode.occurs goalNorm phrase = false) :
    outcome unicode goalNorm manifest = none := by
  apply Option.eq_none_iff_forall_ne_some.mpr
  intro score same
  obtain ⟨_, positive, total⟩ := outcome_eq_some.mp same
  have zero : ((intentPhrases manifest.triggers).map (unicode.contribution goalNorm)).sum = 0 := by
    apply List.sum_eq_zero
    rw [List.forall_mem_map]
    exact fun phrase member => contribution_eq_zero (never phrase member)
  omega

theorem outcome_eq_none_of_vetoed {phrase : String}
    (member : phrase ∈ intentPhrases manifest.nonTriggers)
    (occurs : unicode.occurs goalNorm phrase = true) :
    outcome unicode goalNorm manifest = none := by
  apply Option.eq_none_iff_forall_ne_some.mpr
  intro score same
  have quiet := (outcome_eq_some.mp same).1 phrase member
  rw [occurs] at quiet
  cases quiet

theorem steady_outcome (steady : Steady unicode goalNorm manifest)
    (respelled : Respelled unicode manifest other) :
    outcome unicode goalNorm other = outcome unicode goalNorm manifest := by
  have reflexive (phrase : String) : unicode.Equivalent phrase phrase := rfl
  rcases steady with ⟨phrase, member, always⟩ | never | ⟨silent, alike⟩
  · obtain ⟨spelling, inside, same⟩ := exists_respelled respelled.nonTriggers.phrases member
    rw [outcome_eq_none_of_vetoed inside (always spelling same),
      outcome_eq_none_of_vetoed member (always phrase (reflexive phrase))]
  · rw [outcome_eq_none_of_quiet (forall_respelled respelled.triggers.phrases never),
      outcome_eq_none_of_quiet fun phrase member => never phrase member phrase (reflexive phrase)]
  · have quiet := forall_respelled respelled.nonTriggers.phrases silent
    have quiet' : ∀ phrase ∈ intentPhrases manifest.nonTriggers,
        unicode.occurs goalNorm phrase = false :=
      fun phrase member => silent phrase member phrase (reflexive phrase)
    have total := map_respelled respelled.triggers.phrases alike
    apply Option.ext
    intro score
    rw [outcome_eq_some, outcome_eq_some, total]
    exact and_congr_left' (iff_of_true quiet quiet')

/-! ### The decision on respelled manifests -/

def Scored.unspoken (item : Scored) : Scored := (item.1.unspoken, item.2)

def offer (unicode : UnicodeData) (goalNorm : String) (manifest : SkillManifest) : Option Scored :=
  if manifest.deprecated then none
  else (scored unicode goalNorm manifest).map Scored.unspoken

theorem offer_eq (manifest : SkillManifest) : offer unicode goalNorm manifest =
    if manifest.unspoken.deprecated then none
    else (outcome unicode goalNorm manifest).map fun score =>
      (manifest.unspoken, score, reasonsFor manifest.unspoken score) := by
  unfold offer outcome
  rw [Option.map_map]
  apply congrArg (ite _ none)
  apply Option.map_congr
  intro item same
  obtain ⟨_, _, rfl⟩ := scored_eq_some.mp same
  rfl

theorem decisionOn_unspoken (taskId timestamp : String) (candidates : List Scored) :
    decisionOn taskId timestamp (candidates.map Scored.unspoken) =
      decisionOn taskId timestamp candidates := by
  have same : Scored.candidate ∘ Scored.unspoken = Scored.candidate := rfl
  cases candidates with
  | nil => rfl
  | cons best rest =>
      unfold decisionOn
      rw [List.map_map, same]
      cases rest with
      | nil => rfl
      | cons second rest => rfl

theorem sortBy_unspoken (candidates : List Scored) :
    (sortBy Scored.key candidates).map Scored.unspoken =
      sortBy Scored.key (candidates.map Scored.unspoken) :=
  List.map_insertionSort _ _ _ _ fun _ _ _ _ => Iff.rfl

theorem candidatesFor_unspoken : ((candidatesFor version unicode registry goalNorm).map
    Scored.unspoken).Perm (registry.rows.filterMap (offer unicode goalNorm)) := by
  have listed : (listSkills version registry false).Perm
      (registry.rows.filter fun manifest => !manifest.deprecated) := by
    unfold listSkills sortManifestsByKey
    simpa using perm_sortBy _ _
  have offers : (registry.rows.filter fun manifest => !manifest.deprecated).filterMap
      (fun manifest => (scored unicode goalNorm manifest).map Scored.unspoken) =
      registry.rows.filterMap (offer unicode goalNorm) := by
    rw [List.filterMap_filter]
    apply List.filterMap_congr
    intro manifest _
    unfold offer
    cases manifest.deprecated with
    | false => rfl
    | true => rfl
  unfold candidatesFor
  rw [List.map_filterMap, ← offers]
  exact listed.filterMap _

theorem routeTask_congr {goal goal' : String} {taskId timestamp : String}
    (equivalent : unicode.nfc goal = unicode.nfc goal')
    (offers : registry'.rows.filterMap (offer unicode (unicode.normalizeGoal goal)) =
      registry.rows.filterMap (offer unicode (unicode.normalizeGoal goal))) :
    routeTask version unicode registry' ⟨taskId, goal'⟩ timestamp =
      routeTask version unicode registry ⟨taskId, goal⟩ timestamp := by
  have same : unicode.normalizeGoal goal' = unicode.normalizeGoal goal := by
    unfold UnicodeData.normalizeGoal
    rw [equivalent]
  unfold routeTask
  dsimp only
  rw [same]
  generalize unicode.normalizeGoal goal = goalNorm at offers
  have perm : ((candidatesFor version unicode registry' goalNorm).map Scored.unspoken).Perm
      ((candidatesFor version unicode registry goalNorm).map Scored.unspoken) := by
    apply candidatesFor_unspoken.trans
    rw [offers]
    exact candidatesFor_unspoken.symm
  have distinct : (((candidatesFor version unicode registry' goalNorm).map Scored.unspoken).map
      Scored.key).Nodup := by
    rw [List.map_map]
    exact keys_distinct
  rw [← decisionOn_unspoken, sortBy_unspoken, sortBy_perm perm distinct, ← sortBy_unspoken,
    decisionOn_unspoken]

theorem offers_respelled {rows rows' : List SkillManifest}
    (respelled : List.Forall₂ (Respelled unicode) rows rows')
    (steady : ∀ manifest ∈ rows, manifest.deprecated = false → Steady unicode goalNorm manifest) :
    rows'.filterMap (offer unicode goalNorm) = rows.filterMap (offer unicode goalNorm) := by
  induction respelled with
  | nil => rfl
  | @cons manifest other rest rest' first _ ih =>
      rw [List.forall_mem_cons] at steady
      have same : offer unicode goalNorm other = offer unicode goalNorm manifest := by
        rw [offer_eq, offer_eq, ← first.same]
        cases current : manifest.deprecated with
        | true => exact (if_pos current).trans (if_pos current).symm
        | false => rw [steady_outcome (steady.1 current) first]
      rw [List.filterMap_cons, List.filterMap_cons, same, ih steady.2]

/-! ### Decisions that do not depend on the spelling -/

def respellTriggers (spell : String → String) (triggers : List IntentTrigger) : List IntentTrigger :=
  triggers.map fun trigger => { trigger with phrases := trigger.phrases.map spell }

def respell (spell spellNon : String → String) (manifest : SkillManifest) : SkillManifest :=
  { manifest with
    triggers := respellTriggers spell manifest.triggers
    nonTriggers := respellTriggers spellNon manifest.nonTriggers }

theorem intentPhrases_respell (spell : String → String) (triggers : List IntentTrigger) :
    intentPhrases (respellTriggers spell triggers) = (intentPhrases triggers).map spell := by
  unfold respellTriggers
  rw [intentPhrases_eq, intentPhrases_eq, List.map_flatMap, List.flatMap_map]

theorem mem_respell {spell : String → String} {phrase : String}
    (member : phrase ∈ intentPhrases triggers) :
    spell phrase ∈ intentPhrases (respellTriggers spell triggers) := by
  rw [intentPhrases_respell]
  exact List.mem_map_of_mem member

theorem respelledTriggers_respell {spell : String → String}
    (equivalent : ∀ phrase, unicode.Equivalent phrase (spell phrase))
    (triggers : List IntentTrigger) :
    RespelledTriggers unicode triggers (respellTriggers spell triggers) := by
  unfold RespelledTriggers respellTriggers
  rw [List.forall₂_map_right_iff, List.forall₂_same]
  refine fun trigger _ => ⟨rfl, ?_⟩
  rw [List.forall₂_map_right_iff, List.forall₂_same]
  exact fun phrase _ => equivalent phrase

theorem respelled_respell {spell spellNon : String → String}
    (equivalent : ∀ phrase, unicode.Equivalent phrase (spell phrase))
    (equivalentNon : ∀ phrase, unicode.Equivalent phrase (spellNon phrase))
    (manifest : SkillManifest) : Respelled unicode manifest (respell spell spellNon manifest) :=
  ⟨rfl, respelledTriggers_respell equivalent _, respelledTriggers_respell equivalentNon _⟩

theorem mem_candidates_routeTask (version : String → κ) (registered : manifest ∈ registry.rows)
    (current : manifest.deprecated = false) (task : TaskContext) (timestamp : String) (score : Nat) :
    (∃ candidate ∈ (routeTask version unicode registry task timestamp).candidates,
      (candidate.skillId, candidate.version) = manifest.key ∧ candidate.score = score) ↔
      outcome unicode (unicode.normalizeGoal task.goal) manifest = some score := by
  unfold routeTask outcome
  simp only [candidates_decisionOn, List.mem_map, mem_sortBy, mem_candidatesFor,
    Option.map_eq_some_iff, scored_eq_some]
  constructor
  · rintro ⟨_, ⟨item, ⟨other, eligible, rfl⟩, rfl⟩, named, rfl⟩
    obtain rfl : other = manifest :=
      List.inj_on_of_nodup_map registry.distinct eligible.registered registered named
    exact ⟨_, ⟨eligible.unvetoed, eligible.triggered, rfl⟩, rfl⟩
  · rintro ⟨item, ⟨unvetoed, triggered, rfl⟩, rfl⟩
    exact ⟨_, ⟨_, ⟨manifest, ⟨registered, current, unvetoed, triggered⟩, rfl⟩, rfl⟩, rfl, rfl⟩

theorem stable_outcome {task : TaskContext} {timestamp : String}
    (stable : Stable version unicode registry task timestamp) (registered : manifest ∈ registry.rows)
    (current : manifest.deprecated = false) {spell spellNon : String → String}
    (equivalent : ∀ phrase, unicode.Equivalent phrase (spell phrase))
    (equivalentNon : ∀ phrase, unicode.Equivalent phrase (spellNon phrase)) :
    outcome unicode (unicode.normalizeGoal task.goal) (respell spell spellNon manifest) =
      outcome unicode (unicode.normalizeGoal task.goal) manifest := by
  have same := stable (registry.change (respell spell spellNon) fun _ => rfl) task.goal ?_ rfl
  · apply Option.ext
    intro score
    have there : respell spell spellNon manifest ∈
        (registry.change (respell spell spellNon) fun _ => rfl).rows := List.mem_map_of_mem registered
    rw [← mem_candidates_routeTask version registered current task timestamp,
      ← mem_candidates_routeTask version there current task timestamp, same]
    rfl
  · show List.Forall₂ _ _ (registry.rows.map _)
    rw [List.forall₂_map_right_iff, List.forall₂_same]
    exact fun manifest _ => respelled_respell equivalent equivalentNon manifest

theorem exists_spelling (unicode : UnicodeData) (P : String → Prop) :
    ∃ spell : String → String, (∀ phrase, unicode.Equivalent phrase (spell phrase)) ∧
      ∀ phrase spelling, unicode.Equivalent phrase spelling → P spelling → P (spell phrase) := by
  have each (phrase : String) : ∃ spelling, unicode.Equivalent phrase spelling ∧
      ∀ other, unicode.Equivalent phrase other → P other → P spelling := by
    by_cases some : ∃ spelling, unicode.Equivalent phrase spelling ∧ P spelling
    · obtain ⟨spelling, equivalent, has⟩ := some
      exact ⟨spelling, equivalent, fun _ _ _ => has⟩
    · exact ⟨phrase, rfl, fun other equivalent has => absurd ⟨other, equivalent, has⟩ some⟩
  choose spell equivalent has using each
  exact ⟨spell, equivalent, has⟩

theorem sum_contribution_ne {phrases : List String} {phrase spelling : String}
    (member : phrase ∈ phrases)
    (differs : unicode.contribution goalNorm spelling ≠ unicode.contribution goalNorm phrase) :
    (phrases.map fun other =>
        unicode.contribution goalNorm (if other = phrase then spelling else other)).sum ≠
      (phrases.map (unicode.contribution goalNorm)).sum := by
  rcases Nat.lt_or_gt_of_ne differs with less | more
  · apply ne_of_lt
    apply List.sum_lt_sum
    · intro other _
      split
      · next same => exact same ▸ less.le
      · exact le_refl _
    · exact ⟨phrase, member, by rwa [if_pos rfl]⟩
  · apply ne_of_gt
    apply List.sum_lt_sum
    · intro other _
      split
      · next same => exact same ▸ more.le
      · exact le_refl _
    · exact ⟨phrase, member, by rwa [if_pos rfl]⟩

theorem offered_of_spelling {spell spellNon : String → String} {phrase : String}
    (silent : ∀ phrase ∈ intentPhrases manifest.nonTriggers,
      unicode.occurs goalNorm (spellNon phrase) = false)
    (member : phrase ∈ intentPhrases manifest.triggers)
    (hit : unicode.occurs goalNorm (spell phrase) = true) :
    ∃ score, outcome unicode goalNorm (respell spell spellNon manifest) = some score := by
  have unvetoed : ∀ phrase ∈ intentPhrases (respellTriggers spellNon manifest.nonTriggers),
      unicode.occurs goalNorm phrase = false := by
    rw [intentPhrases_respell, List.forall_mem_map]
    exact silent
  refine ⟨_, outcome_eq_some.mpr ⟨unvetoed, ?_, rfl⟩⟩
  apply (contribution_pos.mpr hit).trans_le
  apply List.single_le_sum (fun _ _ => Nat.zero_le _)
  exact List.mem_map_of_mem (mem_respell member)

theorem steady_of_outcome
    (same : ∀ spell spellNon : String → String,
      (∀ phrase, unicode.Equivalent phrase (spell phrase)) →
      (∀ phrase, unicode.Equivalent phrase (spellNon phrase)) →
        outcome unicode goalNorm (respell spell spellNon manifest) =
          outcome unicode goalNorm manifest) : Steady unicode goalNorm manifest := by
  obtain ⟨quiet, quietly, silent⟩ :=
    exists_spelling unicode fun spelling => unicode.occurs goalNorm spelling = false
  obtain ⟨loud, loudly, heard⟩ :=
    exists_spelling unicode fun spelling => unicode.occurs goalNorm spelling = true
  by_cases veto : ∃ phrase ∈ intentPhrases manifest.nonTriggers, ∀ spelling,
      unicode.Equivalent phrase spelling → unicode.occurs goalNorm spelling = true
  · exact .inl veto
  by_cases never : ∀ phrase ∈ intentPhrases manifest.triggers, ∀ spelling,
      unicode.Equivalent phrase spelling → unicode.occurs goalNorm spelling = false
  · exact .inr (.inl never)
  right
  right
  push Not at veto never
  -- With silent non-triggers and loud triggers, the manifest is a candidate.
  have offered : ∃ score, outcome unicode goalNorm manifest = some score := by
    obtain ⟨phrase, member, spelling, equivalent, occurs⟩ := never
    rw [← same loud quiet loudly quietly]
    apply offered_of_spelling _ member
      (heard phrase spelling equivalent (Bool.ne_false_iff.mp occurs))
    intro other inside
    obtain ⟨spelling, equivalent, misses⟩ := veto other inside
    exact silent other spelling equivalent (Bool.eq_false_iff.mpr misses)
  obtain ⟨score, own⟩ := offered
  constructor
  · intro phrase member spelling equivalent
    by_contra occurs
    have hit : unicode.occurs goalNorm (loud phrase) = true :=
      heard phrase spelling equivalent (Bool.ne_false_iff.mp occurs)
    have vetoed : outcome unicode goalNorm (respell loud loud manifest) = none :=
      outcome_eq_none_of_vetoed (mem_respell member) hit
    rw [same loud loud loudly loudly, own] at vetoed
    cases vetoed
  · intro phrase member spelling equivalent
    by_contra differs
    have one := same (fun other => if other = phrase then spelling else other) quiet ?_ quietly
    · have two := same id quiet (fun _ => rfl) quietly
      rw [own, outcome_eq_some] at one two
      apply sum_contribution_ne member differs
      have replaced := one.2.2.trans two.2.2.symm
      unfold respell at replaced
      dsimp only at replaced
      rw [intentPhrases_respell, intentPhrases_respell, List.map_map, List.map_id] at replaced
      exact replaced
    · intro other
      split
      · next same => exact same ▸ equivalent
      · rfl

variable (version unicode registry)

theorem stable_iff (task : TaskContext) (timestamp : String) :
    Stable version unicode registry task timestamp ↔
      ∀ manifest ∈ registry.rows, manifest.deprecated = false →
        Steady unicode (unicode.normalizeGoal task.goal) manifest := by
  constructor
  · intro stable manifest registered current
    exact steady_of_outcome fun _ _ equivalent equivalentNon =>
      stable_outcome stable registered current equivalent equivalentNon
  · intro steady registry' goal respelled equivalent
    exact routeTask_congr equivalent (offers_respelled respelled steady)

end

/-- What the router selects, whatever the order of the manifests, and when the spelling makes no
difference. -/
theorem routing_decided_iff {κ : Type} [LinearOrder κ] (version : String → κ) (unicode : UnicodeData)
    (registry : SkillRegistry) (task : TaskContext) (timestamp : String) :
    ((∀ skill, (routeTask version unicode registry task timestamp).routingStatus = .selected ∧
        (routeTask version unicode registry task timestamp).selectedSkill = some skill ↔
        ∃ manifest, Best unicode registry (unicode.normalizeGoal task.goal) manifest ∧
          skill = { skillId := manifest.skillId, version := manifest.version }) ∧
      ((routeTask version unicode registry task timestamp).routingStatus = .uncertain ↔
        (∃ manifest, Eligible unicode registry (unicode.normalizeGoal task.goal) manifest) ∧
          ¬ ∃ manifest, Best unicode registry (unicode.normalizeGoal task.goal) manifest) ∧
      ((routeTask version unicode registry task timestamp).routingStatus = .blocked ↔
        ¬ ∃ manifest, Eligible unicode registry (unicode.normalizeGoal task.goal) manifest)) ∧
    (∀ manifests manifests' : List SkillManifest, manifests.Perm manifests' →
      (loadManifests manifests).map
          (fun loaded => routeTask version unicode loaded task timestamp) =
        (loadManifests manifests').map
          (fun loaded => routeTask version unicode loaded task timestamp)) ∧
    (Stable version unicode registry task timestamp ↔
      ∀ manifest ∈ registry.rows, manifest.deprecated = false →
        Steady unicode (unicode.normalizeGoal task.goal) manifest) :=
  ⟨routeTask_iff version unicode registry task timestamp,
    fun _ _ perm => route_loaded_perm version unicode perm task timestamp,
    stable_iff version unicode registry task timestamp⟩

/-! A skill for orders, but not at a café. -/

/-- `e` and an acute accent are composed. -/
def composeAcute : List Char → List Char
  | 'e' :: accent :: rest =>
      if accent = Char.ofNat 0x301 then Char.ofNat 0xe9 :: composeAcute rest
      else 'e' :: composeAcute (accent :: rest)
  | c :: rest => c :: composeAcute rest
  | [] => []

def acuteAccents : UnicodeData where
  nfc text := String.ofList (composeAcute text.toList)
  lower := String.toLower

theorem allowlist_denies (denyAll : ToolPolicy.explicitAllowlist = .denyAll) :
    ([] : List String) = [] := by
  cases denyAll

def orderManifest (nonTrigger : String) : SkillManifest where
  skillId := "take_order"
  version := "1.0.0"
  triggers := [{ phrases := ["order"] }]
  nonTriggers := [{ phrases := [nonTrigger] }]
  denies := allowlist_denies

def orderRegistry (nonTrigger : String) : SkillRegistry :=
  ⟨[orderManifest nonTrigger], List.nodup_singleton _⟩

/-- The non-trigger is composed or not. -/
theorem veto_evaded :
    ¬ Stable (fun _ => 1) acuteAccents (orderRegistry "cafe\u0301") ⟨"task-1", "order at the caf\u00e9"⟩
      "2026-03-24T12:00:00Z" := by
  intro stable
  have respelled : List.Forall₂ (Respelled acuteAccents) (orderRegistry "cafe\u0301").rows
      (orderRegistry "caf\u00e9").rows := by
    have same : acuteAccents.nfc "cafe\u0301" = acuteAccents.nfc "caf\u00e9" := by decide +kernel
    exact .cons ⟨rfl, .cons ⟨rfl, .cons rfl .nil⟩ .nil, .cons ⟨rfl, .cons same .nil⟩ .nil⟩ .nil
  have same := stable (orderRegistry "caf\u00e9") "order at the caf\u00e9" respelled rfl
  have differ : (routeTask (fun _ => 1) acuteAccents (orderRegistry "caf\u00e9")
      ⟨"task-1", "order at the caf\u00e9"⟩ "2026-03-24T12:00:00Z").routingStatus ≠
      (routeTask (fun _ => 1) acuteAccents (orderRegistry "cafe\u0301")
        ⟨"task-1", "order at the caf\u00e9"⟩ "2026-03-24T12:00:00Z").routingStatus := by
    decide +kernel
  exact differ (congrArg RoutingDecision.routingStatus same)

end SyndicateClaw.Runtime
