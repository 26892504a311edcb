import SyndicateClaw.Data.FirstMatch
import SyndicateClaw.Policy.Engine

/-! When a rule applies to a request, and what the loops of `evaluate` make of one that
does not. -/

namespace SyndicateClaw.Policy

open Orchestrator FirstMatch

/-! ### Conditions -/

/-- Following a dotted path through nested dictionaries; a missing segment is `None`. -/
inductive Leads : Value → List String → Value → Prop where
  | arrived {value : Value} : Leads value [] value
  | into {entries : State} {part : String} {next value : Value} {parts : List String} :
      Dict.get? entries part = some next → Leads next parts value →
      Leads (.dict entries) (part :: parts) value
  | missing {entries : State} {part : String} {parts : List String} :
      Dict.get? entries part = none → Leads (.dict entries) (part :: parts) .none
  | stuck {current : Value} {part : String} {parts : List String} :
      current.asDict? = none → Leads current (part :: parts) .none

theorem resolveParts_none (parts : List String) : resolveParts .none parts = .none := by
  cases parts <;> rfl

theorem leads_iff {current value : Value} {parts : List String} :
    Leads current parts value ↔ resolveParts current parts = value := by
  constructor
  · intro leads
    induction leads with
    | arrived => rw [resolveParts]
    | into present _ ih => rw [resolveParts, lookup, present, Option.getD_some, ih]
    | missing absent => rw [resolveParts, lookup, absent, Option.getD_none, resolveParts_none]
    | @stuck current _ _ other =>
        cases current with
        | dict entries => cases other
        | _ => rfl
  · rintro rfl
    induction parts generalizing current with
    | nil =>
        rw [resolveParts]
        exact .arrived
    | cons part parts ih =>
        cases current with
        | dict entries =>
            rw [resolveParts, lookup]
            cases present : Dict.get? entries part with
            | none =>
                rw [Option.getD_none, resolveParts_none]
                exact .missing present
            | some next => exact .into present ih
        | _ => exact .stuck rfl

inductive Satisfies (library : PolicyLibrary) (actual expected : Value) : String → Prop where
  | eq : Condition.pyEq actual expected = true → Satisfies library actual expected "eq"
  | neq : Condition.pyEq actual expected = false → Satisfies library actual expected "neq"
  | member : pyIn actual expected = some true → Satisfies library actual expected "in"
  | absent : pyIn actual expected = some false → Satisfies library actual expected "not_in"
  | greater : Condition.compareValues .gt actual expected = .ok true →
      Satisfies library actual expected "gt"
  | less : Condition.compareValues .lt actual expected = .ok true →
      Satisfies library actual expected "lt"
  | greaterEq : Condition.compareValues .ge actual expected = .ok true →
      Satisfies library actual expected "gte"
  | lessEq : Condition.compareValues .le actual expected = .ok true →
      Satisfies library actual expected "lte"
  | found : library.search expected.pyStr actual.pyStr = .ok true →
      Satisfies library actual expected "matches"

theorem comparison_eq_true {op : CompareOp} {actual expected : Value} :
    comparison op actual expected = .ok true ↔
      Condition.compareValues op actual expected = .ok true := by
  unfold comparison
  cases Condition.compareValues op actual expected <;> simp

theorem operatorOutcome_eq_true {library : PolicyLibrary} {operator : String}
    {actual expected : Value} :
    operatorOutcome library operator actual expected = .ok true ↔
      Satisfies library actual expected operator := by
  constructor
  · intro holds
    unfold operatorOutcome at holds
    split at holds
    · exact .eq (Except.ok.inj holds)
    · exact .neq (by simpa using holds)
    · cases member : pyIn actual expected with
      | none => simp [member] at holds
      | some found =>
          rw [member] at holds
          obtain rfl : found = true := Except.ok.inj holds
          exact .member member
    · cases member : pyIn actual expected with
      | none => simp [member] at holds
      | some found =>
          rw [member] at holds
          have absent : (!found) = true := Except.ok.inj holds
          rw [Bool.not_eq_true'] at absent
          exact .absent (absent ▸ member)
    · exact .greater (comparison_eq_true.mp holds)
    · exact .less (comparison_eq_true.mp holds)
    · exact .greaterEq (comparison_eq_true.mp holds)
    · exact .lessEq (comparison_eq_true.mp holds)
    · exact .found holds
    · cases holds
  · intro satisfied
    cases satisfied with
    | eq same => exact congrArg Except.ok same
    | neq different => exact congrArg (fun b => Except.ok !b) different
    | member found => simp [operatorOutcome, found]
    | absent found => simp [operatorOutcome, found]
    | greater holds => exact comparison_eq_true.mpr holds
    | less holds => exact comparison_eq_true.mpr holds
    | greaterEq holds => exact comparison_eq_true.mpr holds
    | lessEq holds => exact comparison_eq_true.mpr holds
    | found holds => exact holds

section

variable (library : PolicyLibrary) (context : State)

def Holds (data : State) : Prop :=
  ∃ condition actual, policyCondition library data = .ok condition ∧
    Leads (.dict context) (fieldParts condition.field) actual ∧
    Satisfies library actual condition.value condition.operator

/-- What evaluating a stored condition comes to before anything is caught. -/
def conditionOutcome (data : State) : Except ConditionFailure Bool :=
  match policyCondition library data with
  | .error message => .error (.raised message)
  | .ok condition =>
      operatorOutcome library condition.operator (resolveField context condition.field)
        condition.value

theorem holds_iff (data : State) :
    Holds library context data ↔ conditionOutcome library context data = .ok true := by
  unfold Holds conditionOutcome
  cases read : policyCondition library data with
  | error message => simp
  | ok condition =>
      dsimp only
      rw [operatorOutcome_eq_true]
      constructor
      · rintro ⟨_, actual, same, leads, satisfied⟩
        obtain rfl := Except.ok.inj same
        rwa [resolveField, leads_iff.mp leads]
      · intro satisfied
        exact ⟨condition, _, rfl, leads_iff.mpr rfl, satisfied⟩

def PolicyRuleRow.storedConditions (rule : PolicyRuleRow) : List State :=
  rule.conditionsList.filterMap Value.asDict?

/-- The first condition of the rule that does not hold comes to this. -/
def StopsWith (rule : PolicyRuleRow) (outcome : Except ConditionFailure Bool) : Prop :=
  ∃ front data back, Splits (fun data => ¬ Holds library context data) rule.storedConditions
    front data back ∧ conditionOutcome library context data = outcome

def matchedResults (conditions : List State) : List State :=
  conditions.filterMap fun data => (policyCondition library data).toOption.map fun condition =>
    conditionResult condition (resolveField context condition.field) true

variable {library context}

theorem evaluateConditions_skip (conditions : List Value) :
    evaluateConditions library context conditions =
      evaluateConditions library context ((conditions.filterMap Value.asDict?).map .dict) := by
  induction conditions with
  | nil => rfl
  | cons condition rest ih =>
      cases condition with
      | dict data =>
          show evaluateConditions library context (.dict data :: rest) =
            evaluateConditions library context
              (.dict data :: (rest.filterMap Value.asDict?).map .dict)
          rw [evaluateConditions, evaluateConditions, ih]
      | _ => exact ih

theorem evaluateConditions_cons {data : State} {condition : PolicyCondition} {matched : Bool}
    (read : policyCondition library data = .ok condition)
    (evaluated : evaluateCondition library condition context = .ok matched) (rest : List Value) :
    evaluateConditions library context (.dict data :: rest) =
      if matched then
        (evaluateConditions library context rest).map fun (all, results) =>
          (all, conditionResult condition (resolveField context condition.field) true :: results)
      else
        .ok (false,
          [conditionResult condition (resolveField context condition.field) false]) := by
  rw [evaluateConditions, read]
  dsimp only [bind, Except.bind]
  rw [evaluated]
  cases matched with
  | false => rfl
  | true =>
      dsimp only
      cases evaluateConditions library context rest <;> rfl

theorem evaluateConditions_of_holds (front : List State) (rest : List Value)
    (hold : ∀ data ∈ front, Holds library context data) :
    evaluateConditions library context (front.map .dict ++ rest) =
      (evaluateConditions library context rest).map fun (all, results) =>
        (all, matchedResults library context front ++ results) := by
  induction front with
  | nil =>
      cases evaluated : evaluateConditions library context rest <;>
        simp [evaluated, matchedResults, Except.map]
  | cons data front ih =>
      have here := (holds_iff library context data).mp (hold data List.mem_cons_self)
      have ih := ih fun other member => hold other (List.mem_cons_of_mem data member)
      unfold conditionOutcome at here
      cases read : policyCondition library data with
      | error message => simp [read] at here
      | ok condition =>
          rw [read] at here
          dsimp only at here
          have evaluated : evaluateCondition library condition context = .ok true := by
            rw [evaluateCondition, here, caught]
          rw [List.map_cons, List.cons_append, evaluateConditions_cons read evaluated, if_pos rfl,
            ih]
          cases evaluateConditions library context rest <;>
            simp [Except.map, matchedResults, read, Except.toOption]

theorem evaluateConditions_of_all {rule : PolicyRuleRow}
    (hold : ∀ data ∈ rule.storedConditions, Holds library context data) :
    evaluateConditions library context rule.conditionsList =
      .ok (true, matchedResults library context rule.storedConditions) := by
  have whole := evaluateConditions_of_holds rule.storedConditions [] hold
  rw [List.append_nil] at whole
  rw [evaluateConditions_skip]
  refine whole.trans ?_
  simp [evaluateConditions, Except.map]

theorem evaluateConditions_of_stop {rule : PolicyRuleRow}
    {outcome : Except ConditionFailure Bool} (stops : StopsWith library context rule outcome) :
    (evaluateConditions library context rule.conditionsList).map Prod.fst = caught outcome := by
  obtain ⟨front, data, back, splits, rfl⟩ := stops
  have holds := fun other member => not_not.mp (splits.before other member)
  have stored : rule.conditionsList.filterMap Value.asDict? = front ++ data :: back :=
    splits.whole
  have whole : (evaluateConditions library context rule.conditionsList).map Prod.fst =
      (evaluateConditions library context (.dict data :: back.map .dict)).map Prod.fst := by
    rw [evaluateConditions_skip, stored, List.map_append, List.map_cons,
      evaluateConditions_of_holds front _ holds]
    cases evaluateConditions library context (.dict data :: back.map .dict) <;> rfl
  have fails := mt (holds_iff library context data).mpr splits.here
  rw [whole]
  unfold conditionOutcome at fails ⊢
  cases read : policyCondition library data with
  | error message =>
      rw [evaluateConditions, read]
      rfl
  | ok condition =>
      rw [read] at fails
      dsimp only at fails ⊢
      cases evaluated : evaluateCondition library condition context with
      | ok matched =>
          rw [evaluateConditions_cons read evaluated]
          cases matched with
          | false => exact evaluated.symm
          | true =>
              unfold evaluateCondition caught at evaluated
              split at evaluated
              · next result outcome =>
                  obtain rfl := Except.ok.inj evaluated
                  exact absurd outcome fails
              · cases evaluated
              · cases evaluated
      | error message =>
          rw [evaluateConditions, read]
          dsimp only [bind, Except.bind]
          rw [evaluated]
          exact evaluated.symm

end

/-! ### Rules -/

section

variable (library : PolicyLibrary) (context : State) (resourceId : String) (rule : PolicyRuleRow)

structure Applies : Prop where
  pattern : fnmatch resourceId rule.resourcePattern = true
  conditions : ∀ data ∈ rule.storedConditions, Holds library context data

/-- A condition is false, or its evaluation fails and the failure is swallowed. -/
def ErrsSilently : Prop :=
  fnmatch resourceId rule.resourcePattern = true ∧
    StopsWith library context rule (.error .swallowed)

/-- A condition raises what `_evaluate_condition` does not catch, or is malformed. -/
def Raises : Prop :=
  fnmatch resourceId rule.resourcePattern = true ∧
    ∃ message, StopsWith library context rule (.error (.raised message))

def PassedOver : Prop :=
  fnmatch resourceId rule.resourcePattern = false ∨ StopsWith library context rule (.ok false) ∨
    StopsWith library context rule (.error .swallowed)

theorem applies_or : Applies library context resourceId rule ∨
    PassedOver library context resourceId rule ∨ Raises library context resourceId rule := by
  cases matching : fnmatch resourceId rule.resourcePattern with
  | false => exact .inr (.inl (.inl matching))
  | true =>
      rcases none_or_splits (p := fun data => ¬ Holds library context data)
        rule.storedConditions with hold | ⟨front, data, back, splits⟩
      · exact .inl ⟨matching, fun data member => not_not.mp (hold data member)⟩
      · cases outcome : conditionOutcome library context data with
        | ok result =>
            cases result with
            | true => exact absurd ((holds_iff library context data).mpr outcome) splits.here
            | false => exact .inr (.inl (.inr (.inl ⟨front, data, back, splits, outcome⟩)))
        | error failure =>
            have stops : StopsWith library context rule (.error failure) :=
              ⟨front, data, back, splits, outcome⟩
            cases failure with
            | swallowed => exact .inr (.inl (.inr (.inr stops)))
            | raised message => exact .inr (.inr ⟨matching, message, stops⟩)

variable {library context resourceId rule}

theorem StopsWith.not_applies {outcome : Except ConditionFailure Bool}
    (stops : StopsWith library context rule outcome) :
    ¬ Applies library context resourceId rule := by
  obtain ⟨front, data, back, splits, -⟩ := stops
  exact fun applies => splits.here (applies.conditions data splits.mem)

theorem PassedOver.not_applies (passed : PassedOver library context resourceId rule) :
    ¬ Applies library context resourceId rule := by
  rcases passed with other | stops | stops
  · intro applies
    rw [applies.pattern] at other
    cases other
  · exact stops.not_applies
  · exact stops.not_applies

end

end SyndicateClaw.Policy
