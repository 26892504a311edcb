import Mathlib.Data.List.Infix
import SyndicateClaw.Orchestrator.Handlers

/-! `PolicyEngine.evaluate`: the first rule that matches decides, and an error denies. -/

namespace SyndicateClaw.Policy

open Orchestrator

/-! ### Glob patterns -/

def inBracket (c : Char) : List Char → Bool
  | low :: '-' :: high :: rest => (low ≤ c && c ≤ high) || inBracket c rest
  | single :: rest => single = c || inBracket c rest
  | [] => false

/-- The body of a bracket and what follows it; a first `]` belongs to the body. -/
def bracketBody (pattern : List Char) : Option (List Char × List Char) :=
  let (front, rest) := match pattern with
    | '!' :: ']' :: rest => (['!', ']'], rest)
    | '!' :: rest => (['!'], rest)
    | ']' :: rest => ([']'], rest)
    | rest => ([], rest)
  if ']' ∈ rest then
    some (front ++ rest.takeWhile (· ≠ ']'), (rest.dropWhile (· ≠ ']')).drop 1)
  else none

def bracketMatches (c : Char) : List Char → Bool
  | '!' :: body => !inBracket c body
  | body => inBracket c body

/-- `fnmatch(name, pattern)`. Every step shortens the pattern or the name, so the sum of
their lengths is fuel enough. -/
def fnmatchFrom : Nat → List Char → List Char → Bool
  | _, name, [] => name.isEmpty
  | 0, _, _ :: _ => false
  | fuel + 1, name, '*' :: pattern =>
      fnmatchFrom fuel name pattern ||
        (match name with
          | [] => false
          | _ :: name => fnmatchFrom fuel name ('*' :: pattern))
  | fuel + 1, name, '[' :: pattern =>
      match name, bracketBody pattern with
      | c :: name, some (body, pattern) => bracketMatches c body && fnmatchFrom fuel name pattern
      | c :: name, none => c = '[' && fnmatchFrom fuel name pattern
      | [], _ => false
  | _ + 1, [], _ :: _ => false
  | fuel + 1, c :: name, p :: pattern => (p = '?' || p = c) && fnmatchFrom fuel name pattern

def fnmatch (name pattern : String) : Bool :=
  fnmatchFrom (name.length + pattern.length) name.toList pattern.toList

/-! ### Conditions -/

structure PolicyCondition where
  field : String
  operator : String
  value : Value

/-- A row of `policy_rules`. -/
structure PolicyRuleRow where
  id : String
  name : String
  resourceType : String
  resourcePattern : String
  effect : String
  conditions : Value
  priority : Int
  enabled : Bool

structure PolicyDecision where
  ruleId : String
  ruleName : String
  effect : PolicyEffect
  resourceType : String
  resourceId : String
  actor : String
  reason : String
  conditionsEvaluated : List State

structure PolicyDecisionRow where
  ruleId : String
  ruleName : String
  effect : String
  resourceType : String
  resourceId : String
  actor : String
  reason : String
  conditionsEvaluated : List State

def PolicyEffect.value : PolicyEffect → String
  | .allow => "ALLOW"
  | .deny => "DENY"
  | .requireApproval => "REQUIRE_APPROVAL"

def PolicyDecision.row (decision : PolicyDecision) : PolicyDecisionRow :=
  { ruleId := decision.ruleId, ruleName := decision.ruleName
    effect := PolicyEffect.value decision.effect
    resourceType := decision.resourceType, resourceId := decision.resourceId
    actor := decision.actor, reason := decision.reason
    conditionsEvaluated := decision.conditionsEvaluated }

/-- How the evaluation of a condition fails: a `TypeError` or `ValueError` is swallowed,
any other exception leaves the loop over the rules. -/
inductive ConditionFailure where
  | swallowed
  | raised (message : String)

/-- `re.search` and the texts of validation errors. -/
structure PolicyLibrary where
  search : String → String → Except ConditionFailure Bool
  validationError : State → String

/-- The engine and its database: the stored rules, and what reading them, storing a decision
and sending the audit event answer. -/
structure PolicyEngine where
  library : PolicyLibrary
  rules : List PolicyRuleRow
  read : Except String Unit
  create : PolicyDecisionRow → Except String Unit
  emit : PolicyDecision → Except String Unit

def workingEngine (library : PolicyLibrary) (rules : List PolicyRuleRow) : PolicyEngine :=
  { library, rules, read := .ok (), create := fun _ => .ok (), emit := fun _ => .ok () }

/-- `_resolve_field` along the parts of the path. -/
def resolveParts : Value → List String → Value
  | current, [] => current
  | .dict entries, part :: parts => resolveParts (lookup entries part) parts
  | _, _ :: _ => .none

def fieldParts (path : String) : List String :=
  (path.toList.splitOn '.').map String.ofList

/-- `_resolve_field`. -/
def resolveField (context : State) (path : String) : Value :=
  resolveParts (.dict context) (fieldParts path)

/-- `actual in expected`; `none` is a `TypeError`. -/
def pyIn (actual expected : Value) : Option Bool :=
  match actual, expected with
  | actual, .list items => some (items.any (Condition.pyEq actual))
  | .str part, .str text => some (part.toList <:+: text.toList)
  | .str key, .dict entries => some (Dict.contains entries key)
  | .list _, .dict _ | .dict _, .dict _ => none
  | _, .dict _ => some false
  | _, _ => none

def comparison (op : CompareOp) (actual expected : Value) : Except ConditionFailure Bool :=
  match Condition.compareValues op actual expected with
  | .ok result => .ok result
  | .error _ => .error .swallowed

/-- The body of the `try` of `_evaluate_condition`, on the resolved field. -/
def operatorOutcome (library : PolicyLibrary) (operator : String) (actual expected : Value) :
    Except ConditionFailure Bool :=
  match operator with
  | "eq" => .ok (Condition.pyEq actual expected)
  | "neq" => .ok (!Condition.pyEq actual expected)
  | "in" => ((pyIn actual expected).map Except.ok).getD (.error .swallowed)
  | "not_in" => ((pyIn actual expected).map fun found => .ok (!found)).getD (.error .swallowed)
  | "gt" => comparison .gt actual expected
  | "lt" => comparison .lt actual expected
  | "gte" => comparison .ge actual expected
  | "lte" => comparison .le actual expected
  | "matches" => library.search expected.pyStr actual.pyStr
  | _ => .ok false

/-- The `except` of `_evaluate_condition`: a failure that is swallowed does not hold. -/
def caught : Except ConditionFailure Bool → Except String Bool
  | .ok result => .ok result
  | .error .swallowed => .ok false
  | .error (.raised message) => .error message

/-- `_evaluate_condition`. -/
def evaluateCondition (library : PolicyLibrary) (condition : PolicyCondition) (context : State) :
    Except String Bool :=
  caught (operatorOutcome library condition.operator (resolveField context condition.field)
    condition.value)

/-- `PolicyCondition(**cond_data)`. -/
def policyCondition (library : PolicyLibrary) (data : State) : Except String PolicyCondition :=
  match Dict.get? data "field", Dict.get? data "operator", Dict.get? data "value" with
  | some (.str field), some (.str operator), some value => .ok { field, operator, value }
  | _, _, _ => .error (library.validationError data)

def conditionResult (condition : PolicyCondition) (actual : Value) (matched : Bool) : State :=
  [("field", .str condition.field), ("operator", .str condition.operator),
   ("expected", condition.value), ("actual", actual), ("matched", .bool matched)]

/-- The loop over a rule's conditions: whether all match, and the results up to the first
that does not. -/
def evaluateConditions (library : PolicyLibrary) (context : State) :
    List Value → Except String (Bool × List State)
  | [] => .ok (true, [])
  | .dict data :: rest => do
      let condition ← policyCondition library data
      let matched ← evaluateCondition library condition context
      let result := conditionResult condition (resolveField context condition.field) matched
      if matched then
        let (all, results) ← evaluateConditions library context rest
        return (all, result :: results)
      else return (false, [result])
  | _ :: rest => evaluateConditions library context rest

/-! ### Rules -/

def PolicyEffect.parse? : String → Option PolicyEffect
  | "ALLOW" => some .allow
  | "DENY" => some .deny
  | "REQUIRE_APPROVAL" => some .requireApproval
  | _ => none

def PolicyRuleRow.conditionsList (rule : PolicyRuleRow) : List Value :=
  rule.conditions.asList?.getD []

section

variable (resourceType resourceId actor : String)

def ruleDecision (library : PolicyLibrary) (context : State) (rule : PolicyRuleRow) :
    Except String (Option PolicyDecision) := do
  let (all, conditionsEvaluated) ← evaluateConditions library context rule.conditionsList
  if all then
    match PolicyEffect.parse? rule.effect with
    | none => throw ((Value.str rule.effect).repr ++ " is not a valid PolicyEffect")
    | some effect =>
        return some
          { ruleId := rule.id, ruleName := rule.name, effect, resourceType, resourceId, actor
            reason := "Matched rule '" ++ rule.name ++ "' (priority " ++
              toString rule.priority ++ ")"
            conditionsEvaluated }
  else return none

def firstDecision (library : PolicyLibrary) (context : State) :
    List PolicyRuleRow → Except String (Option PolicyDecision)
  | [] => .ok none
  | rule :: rules => do
      match ← ruleDecision resourceType resourceId actor library context rule with
      | some decision => return some decision
      | none => firstDecision library context rules

def defaultDeny : PolicyDecision :=
  { ruleId := "__default_deny__", ruleName := "default_deny", effect := .deny, resourceType
    resourceId, actor, reason := "No matching policy rule found — default DENY"
    conditionsEvaluated := [] }

def evaluationError (detail : String) : PolicyDecision :=
  { ruleId := "__evaluation_error__", ruleName := "evaluation_error", effect := .deny
    resourceType, resourceId, actor
    reason := "Policy evaluation failed (fail-closed): " ++ detail
    conditionsEvaluated :=
      [[("error", .str "evaluation_exception"), ("detail", .str detail)]] }

/-- `get_enabled_by_resource_type`: the highest priority first. -/
def getEnabledByResourceType (rules : List PolicyRuleRow) : List PolicyRuleRow :=
  (rules.filter fun rule => rule.resourceType = resourceType && rule.enabled).mergeSort
    fun a b => b.priority ≤ a.priority

def matchingRules (rules : List PolicyRuleRow) : List PolicyRuleRow :=
  (getEnabledByResourceType resourceType rules).filter fun rule =>
    fnmatch resourceId rule.resourcePattern

/-- The `try` block of `evaluate`. -/
def PolicyEngine.decide (engine : PolicyEngine) (context : State) :
    Except String PolicyDecision := do
  engine.read
  let found ← firstDecision resourceType resourceId actor engine.library context
    (matchingRules resourceType resourceId engine.rules)
  let decision := found.getD (defaultDeny resourceType resourceId actor)
  engine.create decision.row
  return decision

/-- `PolicyEngine.evaluate`. The audit event of a failed evaluation is sent on a best-effort
basis; that of a successful one can raise. -/
def PolicyEngine.evaluate (engine : PolicyEngine) (context : State) :
    Except String PolicyDecision :=
  match engine.decide resourceType resourceId actor context with
  | .error detail => .ok (evaluationError resourceType resourceId actor detail)
  | .ok decision => do
      engine.emit decision
      return decision

end

end SyndicateClaw.Policy
