import SyndicateClaw.Policy.Conditions

/-! `evaluate` returns what the first rule that applies says. -/

namespace SyndicateClaw.Policy

open Orchestrator FirstMatch

section

variable (resourceType resourceId actor : String) (library : PolicyLibrary) (context : State)

def matchedDecision (rule : PolicyRuleRow) (effect : PolicyEffect) : PolicyDecision :=
  { ruleId := rule.id, ruleName := rule.name, effect, resourceType, resourceId, actor
    reason := "Matched rule '" ++ rule.name ++ "' (priority " ++ toString rule.priority ++ ")"
    conditionsEvaluated := matchedResults library context rule.storedConditions }

def consider (rule : PolicyRuleRow) : Except String (Option PolicyDecision) :=
  if fnmatch resourceId rule.resourcePattern then
    ruleDecision resourceType resourceId actor library context rule
  else .ok none

/-- The decision the rows lead to, where none of the reached ones raises. -/
inductive Made (rows : List PolicyRuleRow) : PolicyDecision → Prop where
  | matched {front : List PolicyRuleRow} {rule : PolicyRuleRow} {back : List PolicyRuleRow}
      {effect : PolicyEffect} :
      Splits (Applies library context resourceId) rows front rule back →
      (∀ passed ∈ front, PassedOver library context resourceId passed) →
      PolicyEffect.parse? rule.effect = some effect →
      Made rows (matchedDecision resourceType resourceId actor library context rule effect)
  | default : (∀ passed ∈ rows, PassedOver library context resourceId passed) →
      Made rows (defaultDeny resourceType resourceId actor)

variable {resourceType resourceId actor library context}

theorem consider_of_applies {rule : PolicyRuleRow}
    (applies : Applies library context resourceId rule) :
    consider resourceType resourceId actor library context rule =
      match PolicyEffect.parse? rule.effect with
      | none => .error ((Value.str rule.effect).repr ++ " is not a valid PolicyEffect")
      | some effect =>
          .ok (some (matchedDecision resourceType resourceId actor library context rule effect)) := by
  rw [consider, if_pos applies.pattern, ruleDecision,
    evaluateConditions_of_all applies.conditions]
  dsimp only [bind, Except.bind]
  rw [if_pos rfl]
  cases PolicyEffect.parse? rule.effect <;> rfl

theorem consider_of_stop {rule : PolicyRuleRow} {outcome : Except ConditionFailure Bool}
    (pattern : fnmatch resourceId rule.resourcePattern = true)
    (stops : StopsWith library context rule outcome) :
    consider resourceType resourceId actor library context rule =
      match outcome with
      | .error (.raised message) => .error message
      | _ => .ok none := by
  have first := evaluateConditions_of_stop stops
  have fails : outcome ≠ .ok true := by
    obtain ⟨front, data, back, splits, rfl⟩ := stops
    exact mt (holds_iff library context data).mpr splits.here
  rw [consider, if_pos pattern, ruleDecision]
  cases evaluated : evaluateConditions library context rule.conditionsList with
  | error message =>
      rw [evaluated] at first
      cases outcome with
      | ok result => cases first
      | error failure =>
          cases failure with
          | swallowed => cases first
          | raised message' =>
              obtain rfl : message = message' := Except.error.inj first
              rfl
  | ok answer =>
      obtain ⟨all, results⟩ := answer
      rw [evaluated] at first
      cases outcome with
      | ok result =>
          obtain rfl : all = result := Except.ok.inj first
          cases all with
          | true => exact absurd rfl fails
          | false => rfl
      | error failure =>
          cases failure with
          | swallowed =>
              obtain rfl : all = false := Except.ok.inj first
              rfl
          | raised message' => cases first

theorem consider_of_passed {rule : PolicyRuleRow}
    (passed : PassedOver library context resourceId rule) :
    consider resourceType resourceId actor library context rule = .ok none := by
  cases pattern : fnmatch resourceId rule.resourcePattern with
  | false =>
      rw [consider, pattern]
      rfl
  | true =>
      rcases passed with other | stops | stops
      · rw [pattern] at other
        cases other
      · exact consider_of_stop pattern stops
      · exact consider_of_stop pattern stops

variable (resourceType actor) in
theorem consider_of_raises {rule : PolicyRuleRow}
    (raises : Raises library context resourceId rule) :
    ∃ message, consider resourceType resourceId actor library context rule = .error message := by
  obtain ⟨pattern, message, stops⟩ := raises
  exact ⟨message, consider_of_stop pattern stops⟩

theorem stops_iff {rule : PolicyRuleRow} :
    Stops (consider resourceType resourceId actor library context) rule ↔
      ¬ PassedOver library context resourceId rule := by
  constructor
  · exact fun stops passed => stops (consider_of_passed passed)
  · intro stays passes
    rcases applies_or library context resourceId rule with applies | passed | raises
    · rw [consider_of_applies applies] at passes
      split at passes <;> cases passes
    · exact stays passed
    · obtain ⟨message, raised⟩ := consider_of_raises resourceType actor raises
      rw [raised] at passes
      cases passes

theorem made_iff {rows : List PolicyRuleRow} {decision : PolicyDecision} :
    (rows.findSomeM? (consider resourceType resourceId actor library context)).map
        (·.getD (defaultDeny resourceType resourceId actor)) = .ok decision ↔
      Made resourceType resourceId actor library context rows decision := by
  constructor
  · intro found
    rcases none_or_splits (p := Stops (consider resourceType resourceId actor library context))
      rows with passes | ⟨front, rule, back, splits⟩
    · rw [findSomeM?_of_none passes] at found
      obtain rfl := Except.ok.inj found
      exact .default fun rule member => not_not.mp (mt stops_iff.mpr (passes rule member))
    · have passed : ∀ earlier ∈ front, PassedOver library context resourceId earlier :=
        fun earlier member => not_not.mp (mt stops_iff.mpr (splits.before earlier member))
      rw [findSomeM?_of_splits splits] at found
      rcases applies_or library context resourceId rule with applies | passes | raises
      · rw [consider_of_applies applies] at found
        cases parsed : PolicyEffect.parse? rule.effect with
        | none =>
            rw [parsed] at found
            cases found
        | some effect =>
            rw [parsed] at found
            obtain rfl := Except.ok.inj found
            refine .matched ⟨splits.whole, fun earlier member => ?_, applies⟩ passed parsed
            exact (passed earlier member).not_applies
      · exact absurd passes (stops_iff.mp splits.here)
      · obtain ⟨message, raised⟩ := consider_of_raises resourceType actor raises
        rw [raised] at found
        cases found
  · intro made
    cases made with
    | @matched front rule back effect splits passed parsed =>
        have stops : Splits (Stops (consider resourceType resourceId actor library context))
            rows front rule back := by
          refine ⟨splits.whole, fun earlier member => ?_, ?_⟩
          · exact fun stops => stops_iff.mp stops (passed earlier member)
          · exact stops_iff.mpr fun passes => passes.not_applies splits.here
        rw [findSomeM?_of_splits stops, consider_of_applies splits.here, parsed]
        rfl
    | default passed =>
        rw [findSomeM?_of_none fun rule member stops => stops_iff.mp stops (passed rule member)]
        rfl

theorem firstDecision_eq (rules : List PolicyRuleRow) :
    firstDecision resourceType resourceId actor library context rules =
      rules.findSomeM? (ruleDecision resourceType resourceId actor library context) := by
  induction rules with
  | nil => rfl
  | cons rule rules ih =>
      rw [firstDecision, List.findSomeM?_cons, ih]
      cases ruleDecision resourceType resourceId actor library context rule with
      | error message => rfl
      | ok found => cases found <;> rfl

theorem firstDecision_matching (rows : List PolicyRuleRow) :
    firstDecision resourceType resourceId actor library context
        (rows.filter fun rule => fnmatch resourceId rule.resourcePattern) =
      rows.findSomeM? (consider resourceType resourceId actor library context) := by
  rw [firstDecision_eq, findSomeM?_filter]
  rfl

end

/-! ### The engine -/

section

variable (engine : PolicyEngine) (resourceType resourceId actor : String) (context : State)

/-- The decision is stored, audited and returned; one that cannot be stored is a denial. -/
def PolicyEngine.settle (decision : PolicyDecision) : Except String PolicyDecision :=
  match engine.create decision.row with
  | .error detail => .ok (evaluationError resourceType resourceId actor detail)
  | .ok () => (engine.emit decision).map fun _ => decision

/-- The decisions the engine's rows lead to. -/
abbrev PolicyEngine.Makes (decision : PolicyDecision) : Prop :=
  Made resourceType resourceId actor engine.library context
    (getEnabledByResourceType resourceType engine.rules) decision

variable {engine resourceType resourceId actor context}

theorem evaluate_of_makes {decision : PolicyDecision} (read : engine.read = .ok ())
    (makes : engine.Makes resourceType resourceId actor context decision) :
    engine.evaluate resourceType resourceId actor context =
      engine.settle resourceType resourceId actor decision := by
  have found := made_iff.mpr makes
  rw [← firstDecision_matching] at found
  unfold PolicyEngine.evaluate PolicyEngine.decide matchingRules
  rw [read]
  dsimp only [bind, Except.bind]
  unfold PolicyEngine.settle
  cases first : firstDecision resourceType resourceId actor engine.library context
      ((getEnabledByResourceType resourceType engine.rules).filter fun rule =>
        fnmatch resourceId rule.resourcePattern) with
  | error message =>
      rw [first] at found
      cases found
  | ok answer =>
      rw [first] at found
      obtain rfl := Except.ok.inj found
      dsimp only
      cases engine.create (answer.getD (defaultDeny resourceType resourceId actor)).row with
      | error detail => rfl
      | ok stored =>
          dsimp only [pure, Except.pure]
          cases engine.emit (answer.getD (defaultDeny resourceType resourceId actor)) <;> rfl

theorem evaluate_of_error
    (fails : engine.read = .ok () →
      ∀ decision, ¬ engine.Makes resourceType resourceId actor context decision) :
    ∃ detail, engine.evaluate resourceType resourceId actor context =
      .ok (evaluationError resourceType resourceId actor detail) := by
  unfold PolicyEngine.evaluate PolicyEngine.decide matchingRules
  cases read : engine.read with
  | error detail => exact ⟨detail, rfl⟩
  | ok rows =>
      dsimp only [bind, Except.bind]
      cases first : firstDecision resourceType resourceId actor engine.library context
          ((getEnabledByResourceType resourceType engine.rules).filter fun rule =>
            fnmatch resourceId rule.resourcePattern) with
      | error detail => exact ⟨detail, rfl⟩
      | ok answer =>
          rw [firstDecision_matching] at first
          have made : engine.Makes resourceType resourceId actor context
              (answer.getD (defaultDeny resourceType resourceId actor)) := by
            refine made_iff.mp ?_
            rw [first]
            rfl
          exact absurd made (fails read _)

theorem getEnabledByResourceType_of_descending {rows : List PolicyRuleRow}
    (queried : ∀ rule ∈ rows, rule.resourceType = resourceType ∧ rule.enabled = true)
    (descending : Descending (·.priority) rows) :
    getEnabledByResourceType resourceType rows = rows := by
  unfold getEnabledByResourceType
  rw [List.filter_eq_self.mpr fun rule member => by simp [queried rule member]]
  exact List.mergeSort_of_pairwise (descending.imp fun ordered => decide_eq_true ordered)

end

/-! ### The reference -/

section

variable (library : PolicyLibrary) (context : State) (resourceId : String)

/-- Every condition that is reached evaluates without an error. -/
def ReachesCleanly (rows : List PolicyRuleRow) : Prop :=
  ∀ front rule back, rows = front ++ rule :: back →
    (∀ earlier ∈ front, ¬ Applies library context resourceId earlier) →
    fnmatch resourceId rule.resourcePattern = true →
    ∀ before data behind, rule.storedConditions = before ++ data :: behind →
      (∀ other ∈ before, Holds library context other) →
      ∃ result, conditionOutcome library context data = .ok result

/-- The effect and the rule id of the first rule that applies, and the default without one. -/
structure IsReference (rows : List PolicyRuleRow) (resourceType actor : String)
    (decision : PolicyDecision) : Prop where
  first : ∀ front rule back, Splits (Applies library context resourceId) rows front rule back →
    PolicyEffect.parse? rule.effect = some decision.effect ∧ decision.ruleId = rule.id
  default : decision = defaultDeny resourceType resourceId actor ↔
    ∀ rule ∈ rows, ¬ Applies library context resourceId rule
  row : decision.row.effect = PolicyEffect.value decision.effect ∧
    decision.row.ruleId = decision.ruleId

variable {library context resourceId}

theorem ReachesCleanly.passedOver {rows front back : List PolicyRuleRow} {rule : PolicyRuleRow}
    (clean : ReachesCleanly library context resourceId rows)
    (whole : rows = front ++ rule :: back)
    (before : ∀ earlier ∈ front, ¬ Applies library context resourceId earlier)
    (unmet : ¬ Applies library context resourceId rule) :
    PassedOver library context resourceId rule := by
  rcases applies_or library context resourceId rule with applies | passed | raises
  · exact absurd applies unmet
  · exact passed
  · obtain ⟨pattern, message, earlier, data, later, splits, raised⟩ := raises
    obtain ⟨result, outcome⟩ := clean front rule back whole before pattern earlier data later
      splits.whole fun other member => not_not.mp (splits.before other member)
    rw [raised] at outcome
    cases outcome

theorem ReachesCleanly.front_passedOver {rows front back : List PolicyRuleRow}
    (clean : ReachesCleanly library context resourceId rows) (whole : rows = front ++ back)
    (before : ∀ earlier ∈ front, ¬ Applies library context resourceId earlier) :
    ∀ passed ∈ front, PassedOver library context resourceId passed := by
  intro passed member
  obtain ⟨one, two, rfl⟩ := List.append_of_mem member
  have split : rows = one ++ passed :: (two ++ back) := by
    rw [whole, List.append_assoc, List.cons_append]
  refine clean.passedOver split ?_ (before passed member)
  exact fun earlier inside => before earlier (List.mem_append_left _ inside)

theorem matchedDecision_ne_default {resourceType actor : String} {rule : PolicyRuleRow}
    {effect : PolicyEffect} :
    matchedDecision resourceType resourceId actor library context rule effect ≠
      defaultDeny resourceType resourceId actor := by
  intro same
  have reasons := congrArg (fun decision => decision.reason.toList.head?) same
  simp [matchedDecision, defaultDeny, String.toList_append] at reasons

end

/-! ### Single rules -/

def plainLibrary : PolicyLibrary :=
  { search := fun _ _ => .ok false, validationError := fun _ => "" }

/-- A rule for the tool `mail` in production. -/
def mailInProduction (effect : String) : PolicyRuleRow :=
  { id := "R1", name := "mail", resourceType := "tool", resourcePattern := "mail", effect
    conditions := .list [.dict [("field", .str "env"), ("operator", .str "eq"),
      ("value", .str "prod")]]
    priority := 10, enabled := true }

def production : State := [("env", .str "prod")]

theorem mailInProduction_holds {effect : String} :
    ∀ data ∈ (mailInProduction effect).storedConditions,
      conditionOutcome plainLibrary production data = .ok true := by
  intro data member
  obtain rfl : data = _ := List.mem_singleton.mp member
  rfl

theorem mailInProduction_applies {effect : String} :
    Applies plainLibrary production "mail" (mailInProduction effect) := by
  have pattern : fnmatch "mail" "mail" = true := by decide
  refine ⟨pattern, fun data member => ?_⟩
  exact (holds_iff plainLibrary production data).mpr (mailInProduction_holds data member)

theorem mailInProduction_clean {effect : String} :
    ReachesCleanly plainLibrary production "mail" [mailInProduction effect] := by
  intro front rule back whole _ _ before data behind stored _
  have only : rule ∈ [mailInProduction effect] := by
    rw [whole]
    exact List.mem_append_right front List.mem_cons_self
  obtain rfl := List.mem_singleton.mp only
  refine ⟨true, mailInProduction_holds data (?_ : data ∈ (mailInProduction effect).storedConditions)⟩
  rw [stored]
  exact List.mem_append_right before List.mem_cons_self

end SyndicateClaw.Policy
