import SyndicateClaw.Policy.FirstRule

/-! Rules of one priority: the order the database returns them in decides between them. -/

namespace SyndicateClaw.Policy

open Orchestrator FirstMatch

section

variable (engine : PolicyEngine) (resourceType resourceId actor : String) (context : State)

/-- What a call that ends in this decision returns; `none` if it raises. -/
def PolicyEngine.returned (decision : PolicyDecision) : Option PolicyEffect :=
  (engine.settle resourceType resourceId actor decision).toOption.map (·.effect)

/-- A row that the search does not pass over, with the effect that is returned for it. -/
inductive Decides (rule : PolicyRuleRow) : Option PolicyEffect → Prop where
  | applies {effect : PolicyEffect} : Applies engine.library context resourceId rule →
      PolicyEffect.parse? rule.effect = some effect →
      Decides rule (engine.returned resourceType resourceId actor
        (matchedDecision resourceType resourceId actor engine.library context rule effect))
  | malformed : Applies engine.library context resourceId rule →
      PolicyEffect.parse? rule.effect = none → Decides rule (some .deny)
  | raises : Raises engine.library context resourceId rule → Decides rule (some .deny)

def outcome (rule : PolicyRuleRow) : Option (Option PolicyEffect) :=
  answer (engine.returned resourceType resourceId actor) (some .deny)
    (consider resourceType resourceId actor engine.library context rule)

/-- The query's rows in an order that satisfies its `ORDER BY`. -/
structure IsQueryResult (rows : List PolicyRuleRow) : Prop where
  perm : rows.Perm
    (engine.rules.filter fun rule => rule.resourceType = resourceType && rule.enabled)
  descending : Descending (·.priority) rows

/-- The effect that `evaluate` returns if the query's rows come in this order. -/
def PolicyEngine.effectOver (rows : List PolicyRuleRow) : Option PolicyEffect :=
  (({ engine with rules := rows } : PolicyEngine).evaluate resourceType resourceId actor
    context).toOption.map PolicyDecision.effect

/-- The effect that `evaluate` returns is the same for every order of the rows. -/
def OrderIndependent : Prop :=
  ∀ xs ys, IsQueryResult engine resourceType xs → IsQueryResult engine resourceType ys →
    engine.effectOver resourceType resourceId actor context xs =
      engine.effectOver resourceType resourceId actor context ys

/-- At the highest priority at which an enabled rule decides, all that do lead to one effect. -/
def TiesAgree : Prop :=
  ∀ one ∈ engine.rules, ∀ two ∈ engine.rules,
    one.resourceType = resourceType ∧ one.enabled = true →
    two.resourceType = resourceType ∧ two.enabled = true →
    one.priority = two.priority →
    (∀ higher ∈ engine.rules, higher.resourceType = resourceType ∧ higher.enabled = true →
      one.priority < higher.priority →
      ∀ effect, ¬ Decides engine resourceType resourceId actor context higher effect) →
    ∀ x y, Decides engine resourceType resourceId actor context one x →
      Decides engine resourceType resourceId actor context two y → x = y

variable {engine resourceType resourceId actor context}

theorem outcome_eq_some {rule : PolicyRuleRow} {effect : Option PolicyEffect} :
    outcome engine resourceType resourceId actor context rule = some effect ↔
      Decides engine resourceType resourceId actor context rule effect := by
  unfold outcome
  constructor
  · intro decides
    rcases applies_or engine.library context resourceId rule with applies | passed | raises
    · rw [consider_of_applies applies] at decides
      cases parsed : PolicyEffect.parse? rule.effect with
      | none =>
          rw [parsed] at decides
          obtain rfl := Option.some.inj decides
          exact .malformed applies parsed
      | some effect =>
          rw [parsed] at decides
          obtain rfl := Option.some.inj decides
          exact .applies applies parsed
    · rw [consider_of_passed passed] at decides
      cases decides
    · obtain ⟨message, raised⟩ := consider_of_raises resourceType actor raises
      rw [raised] at decides
      obtain rfl := Option.some.inj decides
      exact .raises raises
  · intro decides
    cases decides with
    | applies applies parsed =>
        rw [consider_of_applies applies, parsed]
        rfl
    | malformed applies parsed =>
        rw [consider_of_applies applies, parsed]
        rfl
    | raises raises =>
        obtain ⟨message, raised⟩ := consider_of_raises resourceType actor raises
        rw [raised]
        rfl

theorem outcome_eq_none {rule : PolicyRuleRow} :
    outcome engine resourceType resourceId actor context rule = none ↔
      ∀ effect, ¬ Decides engine resourceType resourceId actor context rule effect := by
  rw [Option.eq_none_iff_forall_ne_some]
  exact forall_congr' fun effect => not_congr outcome_eq_some

theorem IsQueryResult.queried {rows : List PolicyRuleRow}
    (result : IsQueryResult engine resourceType rows) :
    ∀ rule ∈ rows, rule.resourceType = resourceType ∧ rule.enabled = true := by
  intro rule member
  have kept := (List.mem_filter.mp (result.perm.mem_iff.mp member)).2
  simpa using kept

theorem evaluate_effect {rows : List PolicyRuleRow} (read : engine.read = .ok ())
    (result : IsQueryResult engine resourceType rows) :
    engine.effectOver resourceType resourceId actor context rows =
      (rows.findSome? (outcome engine resourceType resourceId actor context)).getD
        (engine.returned resourceType resourceId actor
          (defaultDeny resourceType resourceId actor)) := by
  have sorted := getEnabledByResourceType_of_descending result.queried result.descending
  have first := findSome?_answer
    (f := consider resourceType resourceId actor engine.library context)
    (engine.returned resourceType resourceId actor) (some .deny)
    (engine.returned resourceType resourceId actor (defaultDeny resourceType resourceId actor))
    rows
  refine Eq.trans ?_ first.symm
  let ordered : PolicyEngine := { engine with rules := rows }
  have makes_iff (decision : PolicyDecision) :
      ordered.Makes resourceType resourceId actor context decision ↔
        (rows.findSomeM? (consider resourceType resourceId actor engine.library context)).map
          (·.getD (defaultDeny resourceType resourceId actor)) = .ok decision := by
    unfold PolicyEngine.Makes
    rw [sorted]
    exact made_iff.symm
  cases found : rows.findSomeM?
      (consider resourceType resourceId actor engine.library context) with
  | error message =>
      obtain ⟨detail, denied⟩ := @evaluate_of_error ordered resourceType resourceId actor context
        fun _ decision makes => by
          rw [makes_iff, found] at makes
          cases makes
      unfold PolicyEngine.effectOver
      rw [denied]
      rfl
  | ok answered =>
      have makes := (makes_iff (answered.getD (defaultDeny resourceType resourceId actor))).mpr
        (by rw [found]; rfl)
      have settled := @evaluate_of_makes ordered resourceType resourceId actor context _ read makes
      unfold PolicyEngine.effectOver
      rw [settled]
      cases answered <;> rfl

/-- The order of the rows does not matter exactly when tied rules agree. -/
theorem orderIndependent_iff (engine : PolicyEngine) (resourceType resourceId actor : String)
    (context : State) :
    OrderIndependent engine resourceType resourceId actor context ↔
      (engine.read = .ok () → TiesAgree engine resourceType resourceId actor context) := by
  let rows := engine.rules.filter fun rule => rule.resourceType = resourceType && rule.enabled
  have mem_rows {rule : PolicyRuleRow} : rule ∈ rows ↔
      rule ∈ engine.rules ∧ rule.resourceType = resourceType ∧ rule.enabled = true := by
    simp [rows]
  have ties : TopAgrees (·.priority) (outcome engine resourceType resourceId actor context) rows ↔
      TiesAgree engine resourceType resourceId actor context := by
    unfold TopAgrees TiesAgree
    constructor
    · intro agrees one inside two inside' kept kept' level above x y decides decides'
      refine agrees one (mem_rows.mpr ⟨inside, kept⟩) two (mem_rows.mpr ⟨inside', kept'⟩) x y
        level (fun higher member greater => ?_) (outcome_eq_some.mpr decides)
        (outcome_eq_some.mpr decides')
      obtain ⟨member, kept⟩ := mem_rows.mp member
      exact outcome_eq_none.mpr (above higher member kept greater)
    · intro agrees one inside two inside' x y level above decides decides'
      obtain ⟨inside, kept⟩ := mem_rows.mp inside
      obtain ⟨inside', kept'⟩ := mem_rows.mp inside'
      refine agrees one inside two inside' kept kept' level (fun higher member kept greater => ?_)
        x y (outcome_eq_some.mp decides) (outcome_eq_some.mp decides')
      exact outcome_eq_none.mp (above higher (mem_rows.mpr ⟨member, kept⟩) greater)
  cases read : engine.read with
  | error detail =>
      refine iff_of_true (fun xs ys _ _ => ?_) nofun
      unfold PolicyEngine.effectOver PolicyEngine.evaluate PolicyEngine.decide
      rw [read]
      rfl
  | ok answered =>
      have irrelevant : OrderIndependent engine resourceType resourceId actor context ↔
          OrderIrrelevant (·.priority) (outcome engine resourceType resourceId actor context)
            (engine.returned resourceType resourceId actor
              (defaultDeny resourceType resourceId actor)) rows := by
        constructor
        · intro same xs ys perm descending perm' descending'
          rw [← evaluate_effect read ⟨perm, descending⟩,
            ← evaluate_effect read ⟨perm', descending'⟩]
          exact same xs ys ⟨perm, descending⟩ ⟨perm', descending'⟩
        · intro same xs ys result result'
          rw [evaluate_effect read result, evaluate_effect read result']
          exact same xs ys result.perm result.descending result'.perm result'.descending
      rw [irrelevant, orderIrrelevant_iff, ties]
      exact ⟨fun agrees _ => agrees, fun agrees => agrees rfl⟩

end

/-! ### Two rules of one priority -/

/-- A rule without conditions for the tool `mail`. -/
def mailRuled (id effect : String) : PolicyRuleRow :=
  { id, name := id, resourceType := "tool", resourcePattern := "mail", effect
    conditions := .list [], priority := 10, enabled := true }

def tiedEngine : PolicyEngine :=
  workingEngine plainLibrary [mailRuled "R3" "ALLOW", mailRuled "R4" "DENY"]

theorem mailRuled_decides {id effect : String} {parsed : PolicyEffect}
    (valid : PolicyEffect.parse? effect = some parsed) :
    Decides tiedEngine "tool" "mail" "alice" [] (mailRuled id effect) (some parsed) := by
  have pattern : fnmatch "mail" "mail" = true := by decide
  have applies : Applies plainLibrary [] "mail" (mailRuled id effect) := ⟨pattern, nofun⟩
  exact .applies applies valid

theorem tied_rules_differ : ¬ OrderIndependent tiedEngine "tool" "mail" "alice" [] := by
  intro same
  have descending (one two one' two' : String) :
      Descending (·.priority) [mailRuled one one', mailRuled two two'] := by
    refine List.pairwise_cons.mpr ⟨fun rule member => ?_, List.pairwise_singleton _ _⟩
    obtain rfl := List.mem_singleton.mp member
    exact le_refl (10 : Int)
  have asked : IsQueryResult tiedEngine "tool" [mailRuled "R3" "ALLOW", mailRuled "R4" "DENY"] :=
    ⟨List.Perm.refl _, descending _ _ _ _⟩
  have swapped : IsQueryResult tiedEngine "tool" [mailRuled "R4" "DENY", mailRuled "R3" "ALLOW"] :=
    ⟨List.Perm.swap _ _ [], descending _ _ _ _⟩
  have equal := same _ _ asked swapped
  rw [evaluate_effect rfl asked, evaluate_effect rfl swapped, List.findSome?_cons,
    List.findSome?_cons, outcome_eq_some.mpr (mailRuled_decides rfl),
    outcome_eq_some.mpr (mailRuled_decides rfl)] at equal
  cases equal

end SyndicateClaw.Policy
