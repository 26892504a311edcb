import SyndicateClaw.Policy.Conditions

/-! What `list_rules` shows of a stored rule, and what `evaluate` makes of it. -/

namespace SyndicateClaw.Policy

open Orchestrator

/-! ### The rule an administrator sees -/

structure PolicyRule where
  id : String
  name : String
  resourceType : String
  resourcePattern : String
  effect : PolicyEffect
  conditions : List PolicyCondition
  priority : Int
  enabled : Bool

/-- The upper case of a character. A character that is missing here and is not ASCII has an
upper case that is not ASCII either, which no effect contains. -/
def upperChar : Char → List Char
  | 'ı' => ['I']
  | 'ſ' => ['S']
  | 'ß' => ['S', 'S']
  | 'ﬀ' => ['F', 'F']
  | 'ﬁ' => ['F', 'I']
  | 'ﬂ' => ['F', 'L']
  | 'ﬃ' => ['F', 'F', 'I']
  | 'ﬄ' => ['F', 'F', 'L']
  | 'ﬅ' | 'ﬆ' => ['S', 'T']
  | c => [c.toUpper]

def upper (text : String) : String := String.ofList (text.toList.flatMap upperChar)

/-- `normalized_conditions`. -/
def normalizedConditions : Value → List Value
  | .list items => items
  | .dict entries =>
      if Dict.contains entries "field" && Dict.contains entries "operator" &&
        Dict.contains entries "value" then [.dict entries] else []
  | _ => []

def validateConditions (library : PolicyLibrary) : List Value → Except String (List PolicyCondition)
  | [] => .ok []
  | .dict data :: rest => do
      return (← policyCondition library data) :: (← validateConditions library rest)
  | _ :: _ => .error (library.validationError [])

/-- `_row_to_policy_rule`. -/
def rowToPolicyRule (library : PolicyLibrary) (row : PolicyRuleRow) : Except String PolicyRule :=
  match PolicyEffect.parse? (upper row.effect) with
  | none => .error ((Value.str (upper row.effect)).repr ++ " is not a valid PolicyEffect")
  | some effect => do
      let conditions ← validateConditions library (normalizedConditions row.conditions)
      return { id := row.id, name := row.name, resourceType := row.resourceType
               resourcePattern := row.resourcePattern, effect, conditions
               priority := row.priority, enabled := row.enabled }

/-- `model_dump` of a condition. -/
def PolicyCondition.modelDump (condition : PolicyCondition) : Value :=
  .dict [("field", .str condition.field), ("operator", .str condition.operator),
    ("value", condition.value)]

/-- The row `add_rule` stores. -/
def addRule (rule : PolicyRule) : PolicyRuleRow :=
  { id := rule.id, name := rule.name, resourceType := rule.resourceType
    resourcePattern := rule.resourcePattern, effect := PolicyEffect.value rule.effect
    conditions := .list (rule.conditions.map PolicyCondition.modelDump)
    priority := rule.priority, enabled := rule.enabled }

/-! ### What is enforced -/

/-- `evaluate` asks for the conditions of the rule, in every context, and has its effect. -/
structure TreatedAs (row : PolicyRuleRow) (rule : PolicyRule) : Prop where
  conditions : ∀ library context, evaluateConditions library context row.conditionsList =
    evaluateConditions library context (rule.conditions.map PolicyCondition.modelDump)
  effect : PolicyEffect.parse? row.effect = some rule.effect

def ShowsWhatIsEnforced (library : PolicyLibrary) (row : PolicyRuleRow) : Prop :=
  ∀ rule, rowToPolicyRule library row = .ok rule → TreatedAs row rule

def BareCondition (row : PolicyRuleRow) : Prop :=
  ∃ entries, row.conditions = .dict entries ∧ Dict.contains entries "field" = true ∧
    Dict.contains entries "operator" = true ∧ Dict.contains entries "value" = true

theorem parse?_value (effect : PolicyEffect) :
    PolicyEffect.parse? (PolicyEffect.value effect) = some effect := by
  cases effect <;> rfl

theorem parse?_eq_some {text : String} {effect : PolicyEffect}
    (parsed : PolicyEffect.parse? text = some effect) : text = PolicyEffect.value effect := by
  unfold PolicyEffect.parse? at parsed
  split at parsed
  · obtain rfl := Option.some.inj parsed
    rfl
  · obtain rfl := Option.some.inj parsed
    rfl
  · obtain rfl := Option.some.inj parsed
    rfl
  · cases parsed

theorem upper_value (effect : PolicyEffect) :
    upper (PolicyEffect.value effect) = PolicyEffect.value effect := by
  cases effect <;> decide

theorem policyCondition_modelDump (library : PolicyLibrary) (condition : PolicyCondition) :
    ∃ data, condition.modelDump = .dict data ∧
      policyCondition library data = .ok condition :=
  ⟨_, rfl, rfl⟩

theorem policyCondition_any {library library' : PolicyLibrary} {data : State}
    {condition : PolicyCondition} (read : policyCondition library data = .ok condition) :
    policyCondition library' data = .ok condition := by
  unfold policyCondition at read ⊢
  split at read
  · exact read
  · cases read

theorem evaluateConditions_modelDump {library library' : PolicyLibrary} {context : State}
    {items : List Value} {conditions : List PolicyCondition}
    (validated : validateConditions library items = .ok conditions) :
    evaluateConditions library' context items =
      evaluateConditions library' context (conditions.map PolicyCondition.modelDump) := by
  induction items generalizing conditions with
  | nil =>
      obtain rfl := Except.ok.inj validated
      rfl
  | cons item items ih =>
      cases item with
      | dict data =>
          unfold validateConditions at validated
          cases read : policyCondition library data with
          | error e =>
              rw [read] at validated
              cases validated
          | ok condition =>
              cases rest : validateConditions library items with
              | error e =>
                  rw [read, rest] at validated
                  cases validated
              | ok others =>
                  rw [read, rest] at validated
                  obtain rfl := Except.ok.inj validated
                  obtain ⟨dumped, same, again⟩ := policyCondition_modelDump library' condition
                  rw [List.map_cons, same, evaluateConditions, evaluateConditions, again,
                    policyCondition_any read, ih rest]
      | _ => cases validated

theorem evaluateConditions_ne_nil (library : PolicyLibrary) (context : State)
    (condition : PolicyCondition) :
    evaluateConditions library context [condition.modelDump] ≠ .ok (true, []) := by
  intro same
  obtain ⟨data, dumped, read⟩ := policyCondition_modelDump library condition
  rw [dumped] at same
  cases evaluated : evaluateCondition library condition context with
  | error message =>
      rw [evaluateConditions, read] at same
      dsimp only [bind, Except.bind] at same
      rw [evaluated] at same
      cases same
  | ok matched =>
      rw [evaluateConditions_cons read evaluated] at same
      cases matched with
      | true => simp [evaluateConditions, Except.map] at same
      | false => cases same

theorem fields_of_shown {library : PolicyLibrary} {row : PolicyRuleRow} {rule : PolicyRule}
    (shown : rowToPolicyRule library row = .ok rule) :
    ∃ effect conditions, rule =
      { id := row.id, name := row.name, resourceType := row.resourceType
        resourcePattern := row.resourcePattern, effect, conditions, priority := row.priority
        enabled := row.enabled } := by
  unfold rowToPolicyRule at shown
  split at shown
  · cases shown
  · cases validated : validateConditions library (normalizedConditions row.conditions) with
    | error e =>
        rw [validated] at shown
        cases shown
    | ok conditions =>
        rw [validated] at shown
        exact ⟨_, _, (Except.ok.inj shown).symm⟩

/-- A row that is treated as a rule decides every request as the row `add_rule` stores. -/
theorem TreatedAs.ruleDecision_eq {library : PolicyLibrary} {row : PolicyRuleRow}
    {rule : PolicyRule} (treated : TreatedAs row rule)
    (shown : rowToPolicyRule library row = .ok rule)
    (resourceType resourceId actor : String) (library' : PolicyLibrary) (context : State) :
    ruleDecision resourceType resourceId actor library' context (addRule rule) =
      ruleDecision resourceType resourceId actor library' context row := by
  have stored : (addRule rule).conditionsList = rule.conditions.map PolicyCondition.modelDump :=
    rfl
  have effect : PolicyEffect.parse? (addRule rule).effect = some rule.effect :=
    parse?_value rule.effect
  unfold ruleDecision
  rw [treated.conditions, stored, treated.effect, effect]
  obtain ⟨effect, conditions, rfl⟩ := fields_of_shown shown
  rfl

/-- The row that `add_rule` makes of what is shown of a row, if anything is. -/
def restored (library : PolicyLibrary) (row : PolicyRuleRow) : PolicyRuleRow :=
  match rowToPolicyRule library row with
  | .ok rule => addRule rule
  | .error _ => row

theorem matchingRules_restored (library : PolicyLibrary) (resourceType resourceId : String)
    (rows : List PolicyRuleRow) :
    matchingRules resourceType resourceId (rows.map (restored library)) =
      (matchingRules resourceType resourceId rows).map (restored library) := by
  have same (row : PolicyRuleRow) : (restored library row).resourceType = row.resourceType ∧
      (restored library row).resourcePattern = row.resourcePattern ∧
      (restored library row).priority = row.priority ∧
      (restored library row).enabled = row.enabled := by
    unfold restored
    cases shown : rowToPolicyRule library row with
    | error e => exact ⟨rfl, rfl, rfl, rfl⟩
    | ok rule =>
        obtain ⟨effect, conditions, rfl⟩ := fields_of_shown shown
        exact ⟨rfl, rfl, rfl, rfl⟩
  unfold matchingRules getEnabledByResourceType
  rw [List.filter_map, ← List.map_mergeSort, List.filter_map]
  · simp only [Function.comp_def, same]
    rfl
  · simp only [same, implies_true]

theorem firstDecision_restored {library : PolicyLibrary} {rows : List PolicyRuleRow}
    (faithful : ∀ row ∈ rows, ShowsWhatIsEnforced library row)
    (resourceType resourceId actor : String) (library' : PolicyLibrary) (context : State) :
    firstDecision resourceType resourceId actor library' context (rows.map (restored library)) =
      firstDecision resourceType resourceId actor library' context rows := by
  induction rows with
  | nil => rfl
  | cons row rows ih =>
      have own : ruleDecision resourceType resourceId actor library' context (restored library row) =
          ruleDecision resourceType resourceId actor library' context row := by
        unfold restored
        cases shown : rowToPolicyRule library row with
        | error e => rfl
        | ok rule => exact (faithful row List.mem_cons_self rule shown).ruleDecision_eq shown ..
      rw [List.map_cons, firstDecision, firstDecision, own,
        ih fun other member => faithful other (List.mem_cons_of_mem row member)]

/-- Rules that are read and stored again decide as before, where they are what is enforced. -/
theorem evaluate_restored (engine : PolicyEngine) (library : PolicyLibrary)
    (faithful : ∀ row ∈ engine.rules, ShowsWhatIsEnforced library row)
    (resourceType resourceId actor : String) (context : State) :
    ({ engine with rules := engine.rules.map (restored library) } : PolicyEngine).evaluate
        resourceType resourceId actor context =
      engine.evaluate resourceType resourceId actor context := by
  have matching : ∀ row ∈ matchingRules resourceType resourceId engine.rules,
      ShowsWhatIsEnforced library row := by
    intro row member
    unfold matchingRules getEnabledByResourceType at member
    have enabled := List.mem_mergeSort.mp (List.mem_filter.mp member).1
    exact faithful row (List.mem_filter.mp enabled).1
  unfold PolicyEngine.evaluate PolicyEngine.decide
  rw [matchingRules_restored, firstDecision_restored matching]

/-- What is shown is what is enforced, unless a bare condition is shown or the stored effect
is not spelt in upper case. -/
theorem showsWhatIsEnforced_iff (library : PolicyLibrary) (row : PolicyRuleRow) :
    ShowsWhatIsEnforced library row ↔
      ∀ rule, rowToPolicyRule library row = .ok rule →
        ¬ BareCondition row ∧ ∃ effect, row.effect = PolicyEffect.value effect := by
  refine forall_congr' fun rule => imp_congr_right fun shown => ?_
  unfold rowToPolicyRule at shown
  split at shown
  · cases shown
  next effect parsed =>
  cases validated : validateConditions library (normalizedConditions row.conditions) with
  | error e =>
      rw [validated] at shown
      cases shown
  | ok conditions =>
      rw [validated] at shown
      obtain rfl := Except.ok.inj shown
      constructor
      · intro treated
        refine ⟨?_, _, parse?_eq_some treated.effect⟩
        rintro ⟨entries, stored, field, operator, value⟩
        have normalized : normalizedConditions row.conditions = [.dict entries] := by
          rw [stored]
          simp [normalizedConditions, field, operator, value]
        rw [normalized, validateConditions] at validated
        cases read : policyCondition library entries with
        | error e =>
            rw [read] at validated
            cases validated
        | ok condition =>
            rw [read] at validated
            obtain rfl : [condition] = conditions := Except.ok.inj validated
            have ignored := treated.conditions library []
            have none : row.conditionsList = [] := by
              rw [PolicyRuleRow.conditionsList, stored]
              rfl
            rw [none] at ignored
            exact evaluateConditions_ne_nil library [] condition ignored.symm
      · rintro ⟨listed, effect', spelt⟩
        constructor
        · intro library' context
          have same : row.conditionsList = normalizedConditions row.conditions := by
            unfold PolicyRuleRow.conditionsList normalizedConditions
            split
            · next items stored =>
                rw [stored]
                rfl
            · next entries stored =>
                rw [stored, if_neg]
                · rfl
                · intro keys
                  rw [Bool.and_eq_true, Bool.and_eq_true] at keys
                  exact listed ⟨entries, stored, keys.1.1, keys.1.2, keys.2⟩
            · next other other' =>
                cases stored : row.conditions with
                | list items => exact absurd stored (other items)
                | dict entries => exact absurd stored (other' entries)
                | _ => rfl
          rw [same]
          exact evaluateConditions_modelDump validated
        · rw [spelt, upper_value] at parsed
          rw [spelt, parsed]

/-! ### A bare condition -/

/-- Shown with a condition, which `evaluate` does not read. -/
def bareRule : PolicyRuleRow :=
  { id := "R5", name := "deploy", resourceType := "tool", resourcePattern := "deploy"
    effect := "ALLOW"
    conditions := .dict [("field", .str "env"), ("operator", .str "eq"), ("value", .str "dev")]
    priority := 10, enabled := true }

theorem bare_condition_ignored :
    ¬ ShowsWhatIsEnforced { search := fun _ _ => .ok false, validationError := fun _ => "" }
      bareRule := by
  intro shows_
  have ignored := (shows_ _ rfl).conditions
    { search := fun _ _ => .ok false, validationError := fun _ => "" } []
  exact evaluateConditions_ne_nil _ [] { field := "env", operator := "eq", value := .str "dev" }
    ignored.symm

def noSearch : PolicyLibrary := { search := fun _ _ => .ok false, validationError := fun _ => "" }

def listedRule : PolicyRuleRow := { bareRule with conditions := .list [bareRule.conditions] }

theorem listedRule_decides_again :
    (workingEngine noSearch [restored noSearch listedRule]).evaluate "tool" "deploy" "ada" [] =
      (workingEngine noSearch [listedRule]).evaluate "tool" "deploy" "ada" [] := by
  refine evaluate_restored (workingEngine noSearch [listedRule]) noSearch ?_ ..
  intro row member rule shown
  obtain rfl := List.mem_singleton.mp member
  obtain rfl := Except.ok.inj shown
  exact ⟨fun _ _ => rfl, rfl⟩

end SyndicateClaw.Policy
