import SyndicateClaw.Policy.Engine
import SyndicateClaw.Tools.Gates

/-! The two policy decisions on a tool call of a model.

`_process_llm_tool_calls` asks the policy engine before it hands a call to the executor, and
the executor asks again: with more fields in the context, and without the approval marker. -/

namespace SyndicateClaw.Tools

open Orchestrator Policy

section first

variable {α β : Type} (default : β) (f g : α → Option β)

/-- The first element that decides, decides the same for `f` and for `g`. Where only one of
the two decides, the other has to come to the same result further on. -/
def SameFirst : List α → Prop
  | [] => True
  | a :: rest =>
      match f a, g a with
      | none, none => SameFirst rest
      | some b, some c => b = c
      | some b, none => (rest.findSome? g).getD default = b
      | none, some c => (rest.findSome? f).getD default = c

theorem sameFirst_iff (items : List α) :
    (items.findSome? f).getD default = (items.findSome? g).getD default ↔
      SameFirst default f g items := by
  induction items with
  | nil => simp [SameFirst]
  | cons a rest ih =>
      rw [List.findSome?_cons, List.findSome?_cons]
      unfold SameFirst
      cases f a with
      | none =>
          cases g a with
          | none => exact ih
          | some c => rfl
      | some b =>
          cases g a with
          | none => exact eq_comm
          | some c => rfl

theorem sameFirst_of_eq {f g : α → Option β} (items : List α)
    (same : ∀ a ∈ items, f a = g a) : SameFirst default f g items := by
  induction items with
  | nil => trivial
  | cons a rest ih =>
      unfold SameFirst
      rw [same a List.mem_cons_self]
      cases g a with
      | none => exact ih fun a' member => same a' (List.mem_cons_of_mem a member)
      | some b => rfl

end first

/-! ### The effect the rules give -/

/-- What a rule makes of the context: nothing if a condition does not match, a denial if
one cannot be evaluated. -/
def ruleEffect (library : PolicyLibrary) (context : State) (rule : PolicyRuleRow) :
    Option PolicyEffect :=
  match evaluateConditions library context rule.conditionsList with
  | .error _ => some .deny
  | .ok (false, _) => none
  | .ok (true, _) => some ((PolicyEffect.parse? rule.effect).getD .deny)

def effectOf (library : PolicyLibrary) (rules : List PolicyRuleRow) (name : String)
    (context : State) : PolicyEffect :=
  ((matchingRules "tool" name rules).findSome? (ruleEffect library context)).getD .deny

theorem firstDecision_effect (library : PolicyLibrary) (resourceType resourceId actor : String)
    (context : State) (rules : List PolicyRuleRow) :
    (match firstDecision resourceType resourceId actor library context rules with
      | .ok (some decision) => decision.effect
      | _ => .deny) = (rules.findSome? (ruleEffect library context)).getD .deny := by
  induction rules with
  | nil => rfl
  | cons rule rules ih =>
      rw [List.findSome?_cons]
      unfold firstDecision ruleDecision ruleEffect
      cases evaluateConditions library context rule.conditionsList with
      | error e => rfl
      | ok answer =>
          obtain ⟨all, results⟩ := answer
          cases all with
          | false => exact ih
          | true =>
              cases PolicyEffect.parse? rule.effect with
              | none => rfl
              | some effect => rfl

theorem workingEngine_effect (library : PolicyLibrary) (rules : List PolicyRuleRow)
    (name actor : String) (context : State) :
    ((workingEngine library rules).evaluate "tool" name actor context).map (·.effect) =
      .ok (effectOf library rules name context) := by
  have first := firstDecision_effect library "tool" name actor context
    (matchingRules "tool" name rules)
  unfold effectOf
  rw [← first]
  unfold PolicyEngine.evaluate PolicyEngine.decide
  cases found : firstDecision "tool" name actor library context
      (matchingRules "tool" name rules) with
  | error e => simp [workingEngine, found, evaluationError, Except.map, bind, Except.bind]
  | ok answer =>
      cases answer <;>
        simp [workingEngine, found, defaultDeny, Except.map, bind, Except.bind, pure, Except.pure]

/-! ### The two contexts -/

section

variable (name : String) (args : State) (context : ExecutionContext) (tool : Tool)

def precheckContext : State :=
  [("tool", .str name), ("input", .dict args), ("run_id", .str context.runId),
   ("node_id", .str context.nodeId)]

def toolContext : ExecutionContext :=
  { context with config := Dict.set context.config "actor" (.str "system:engine") }

def sharedFields : List String := ["tool", "input", "run_id", "node_id"]

theorem lookup_shared {field : String} (shared : field ∈ sharedFields) :
    lookup (buildToolPolicyContext name args (toolContext context) tool) field =
      lookup (precheckContext name args context) field := by
  unfold buildToolPolicyContext lookup
  simp only [Dict.get?_append]
  rcases (by simpa [sharedFields] using shared) with rfl | rfl | rfl | rfl <;> rfl

theorem resolveField_shared {path : String} (shared : (fieldParts path).headD "" ∈ sharedFields) :
    resolveField (buildToolPolicyContext name args (toolContext context) tool) path =
      resolveField (precheckContext name args context) path := by
  unfold resolveField
  cases parts : fieldParts path with
  | nil =>
      rw [parts] at shared
      simp [sharedFields] at shared
  | cons part rest =>
      rw [parts, List.headD_cons] at shared
      unfold resolveParts
      rw [lookup_shared name args context tool shared]

def ReadsShared (rule : PolicyRuleRow) : Prop :=
  ∀ data field, .dict data ∈ rule.conditionsList → Dict.get? data "field" = some (.str field) →
    (fieldParts field).headD "" ∈ sharedFields

theorem policyCondition_field {library : PolicyLibrary} {data : State}
    {condition : PolicyCondition} (read : policyCondition library data = .ok condition) :
    Dict.get? data "field" = some (.str condition.field) := by
  unfold policyCondition at read
  split at read
  · cases read
    assumption
  · cases read

theorem evaluateConditions_shared (library : PolicyLibrary) (conditions : List Value)
    (shared : ∀ data field, .dict data ∈ conditions →
      Dict.get? data "field" = some (.str field) →
      (fieldParts field).headD "" ∈ sharedFields) :
    evaluateConditions library (precheckContext name args context) conditions =
      evaluateConditions library
        (buildToolPolicyContext name args (toolContext context) tool) conditions := by
  induction conditions with
  | nil => rfl
  | cons condition rest ih =>
      have ih := ih fun data field member => shared data field (List.mem_cons_of_mem _ member)
      cases condition with
      | dict data =>
          unfold evaluateConditions
          rw [ih]
          cases read : policyCondition library data with
          | error e => rfl
          | ok condition =>
              have resolved : resolveField (precheckContext name args context) condition.field =
                  resolveField (buildToolPolicyContext name args (toolContext context) tool)
                    condition.field := by
                refine (resolveField_shared name args context tool ?_).symm
                exact shared data condition.field List.mem_cons_self (policyCondition_field read)
              unfold Policy.evaluateCondition
              dsimp only [bind, Except.bind]
              rw [resolved]
      | _ => exact ih

end

/-! ### The executor as the handler sees it -/

/-- `str(exc)`. -/
def ToolError.text (platform : ToolPlatform) : ToolError → String
  | .notFound name => "Tool not found: " ++ name
  | .denied name reason =>
      "Tool denied: " ++ name ++ (if reason = "" then "" else " (" ++ reason ++ ")")
  | .approvalRequired name request =>
      "Approval required for tool: " ++ name ++ " (request=" ++ request.id ++ ")"
  | .execution name cause => "Tool execution failed: " ++ name ++ ": " ++ cause
  | .timeout name seconds => "Tool timed out after " ++ toString seconds ++ "s: " ++ name
  | .sandboxViolation name violation => "Sandbox violation for tool " ++ name ++ ": " ++ violation
  | .value message | .type message | .attribute message | .raised message | .escaped message =>
      message
  | .validation | .serialization => platform.errorText

def llmDefinition (definition : ToolDefinition) : Orchestrator.ToolDefinition :=
  { required := ((lookup definition.tool.inputSchema "required").asList?.getD []).filterMap
      Value.asStr?
    riskLevel := definition.tool.riskLevel }

/-- The executor in the handler's context: its registry, its policy engine and its `execute`. -/
def llmExecutor (executor : ToolExecutor) : Orchestrator.ToolExecutor :=
  { registry := some fun name => (executor.registry name).map llmDefinition
    evaluate := match executor.policyEngine with
      | .evaluating evaluate => some fun _ _ name args context =>
          evaluate name "system:engine" (precheckContext name args context)
      | _ => none
    execute := fun _ _ name args context =>
      match (execute executor name args context).run {} with
      | .ok output _ => .ok (.dict output)
      | .error e _ => .error (e.text executor.platform) }

def governed (executor : ToolExecutor) (library : PolicyLibrary) (rules : List PolicyRuleRow) :
    ToolExecutor :=
  { executor with
    policyEngine := .evaluating fun name actor context =>
      ((workingEngine library rules).evaluate "tool" name actor context).map (·.effect) }

section

variable (executor : ToolExecutor) (library : PolicyLibrary) (rules : List PolicyRuleRow)
  (name : String) (args : State) (context : ExecutionContext)

theorem toolDecision_governed (call : Nat) (frame : Frame) :
    (Orchestrator.toolDecision call context (llmExecutor (governed executor library rules)) name
      args).run frame =
      (.ok (effectOf library rules name (precheckContext name args context)),
        { frame with taken := frame.taken + 1 }) := by
  unfold Orchestrator.toolDecision llmExecutor governed
  dsimp only
  rw [workingEngine_effect]
  rfl

theorem checkPolicy_governed (tool : Tool) :
    checkPolicy (governed executor library rules) name args (toolContext context) tool =
      effectOf library rules name
        (buildToolPolicyContext name args (toolContext context) tool) := by
  unfold checkPolicy governed
  dsimp only
  rw [workingEngine_effect]

def Approved (state : State) : Prop :=
  ((resumeMarker state context.nodeId).filter
    fun resume => lookup resume "tool_name" = .str name).isSome

/-- The two decisions on a call of a registered tool agree, and an approved call that every
other gate lets pass is executed. -/
structure DecisionsAgree (executor : ToolExecutor) : Prop where
  effects : ∀ definition call frame effect after, executor.registry name = some definition →
    (Orchestrator.toolDecision call context (llmExecutor executor) name args).run frame =
        (.ok effect, after) →
      effect = checkPolicy executor name args (toolContext context) definition.tool
  approved : ∀ definition call frame after record, executor.registry name = some definition →
    (Orchestrator.toolDecision call context (llmExecutor executor) name args).run frame =
        (.ok .requireApproval, after) →
      Approved name context frame.state →
      OtherGatesOpen executor name args (toolContext context) definition.tool record →
      Identified (toolContext context) →
      ∃ event ∈ (ending ((execute executor name args (toolContext context)).run {})).events,
        event.IsInvocation

variable {executor library rules name args context}

theorem not_executed {definition : ToolDefinition} (known : executor.registry name = some definition)
    (asks : checkPolicy executor name args context definition.tool = .requireApproval) :
    ∀ event ∈ (ending ((execute executor name args context).run {})).events,
      ¬ event.IsInvocation := by
  rcases admission executor name args context with admitted | raised
  · obtain ⟨definition', record, known', opened, -⟩ := admitted
    obtain rfl := Option.some.inj (known.symm.trans known')
    rw [opened.policy] at asks
    cases asks
  · obtain ⟨error, frame, ran, none⟩ := raised
    rw [ran]
    exact none

def approvedState (name nodeId : String) : State :=
  [("_approval_resume", .dict [("node_id", .str nodeId), ("tool_name", .str name)])]

theorem approvedState_approved : Approved name context (approvedState name context.nodeId) := by
  simp [Approved, approvedState, resumeMarker, lookup, Dict.get?_cons, Value.asDict?]

theorem decisionsAgree_iff (executor : ToolExecutor) (library : PolicyLibrary)
    (rules : List PolicyRuleRow) (name : String) (args : State) (context : ExecutionContext) :
    DecisionsAgree name args context (governed executor library rules) ↔
      ∀ definition, executor.registry name = some definition →
        SameFirst .deny (ruleEffect library (precheckContext name args context))
          (ruleEffect library
            (buildToolPolicyContext name args (toolContext context) definition.tool))
          (matchingRules "tool" name rules) ∧
        ¬ (effectOf library rules name (precheckContext name args context) = .requireApproval ∧
          (∃ record,
            OtherGatesOpen executor name args (toolContext context) definition.tool record) ∧
          Identified (toolContext context)) := by
  constructor
  · intro agree definition known
    have decided := toolDecision_governed executor library rules name args context 0
      { state := approvedState name context.nodeId }
    have effects := agree.effects definition 0 _ _ _ known decided
    rw [checkPolicy_governed] at effects
    refine ⟨(sameFirst_iff _ _ _ _).mp effects, ?_⟩
    intro blocked
    obtain ⟨asks, ⟨record, opened⟩, identified⟩ := blocked
    rw [asks] at decided
    obtain ⟨event, member, invoked⟩ := agree.approved definition 0 _ _ record known decided
      approvedState_approved ⟨opened.schema, opened.sandbox, opened.ledger, opened.boundary⟩
      identified
    refine @not_executed (governed executor library rules) name args _ definition known ?_ event
      member invoked
    rw [checkPolicy_governed, ← effects, asks]
  · intro condition
    constructor
    · intro definition call frame effect after known decided
      rw [toolDecision_governed] at decided
      cases decided
      rw [checkPolicy_governed]
      exact (sameFirst_iff _ _ _ _).mpr (condition definition known).1
    · intro definition call frame after record known decided _ opened identified
      rw [toolDecision_governed] at decided
      refine absurd ⟨?_, ⟨record, ?_⟩, identified⟩ (condition definition known).2
      · exact Except.ok.inj (congrArg Prod.fst decided)
      · exact ⟨opened.schema, opened.sandbox, opened.ledger, opened.boundary⟩

end

/-! ### A rule that asks for an approval -/

def mailTool : Tool :=
  { inputSchema := [], outputSchema := [], riskLevel := .medium, sideEffects := ["send"]
    timeoutSeconds := 30
    sandboxPolicy :=
      { allowedDomains := [], allowedProtocols := ["https"], maxRequestBytes := 1048576
        maxResponseBytes := 10485760, networkIsolation := true, filesystemRead := false
        subprocessAllowed := false } }

def mailExecutor : ToolExecutor :=
  { platform :=
      { ulid := fun n => toString n, now := fun _ => 0, elapsedMs := 5, defaultScope := .none
        nfkc := id, isIpv6 := fun _ => false, serializable := fun _ => true, errorText := "" }
    registry := fun _ => some ⟨mailTool, fun _ => .returned []⟩
    policyEngine := .missing
    auditService := true
    decisionLedger := some fun _ => .ok (some "D1")
    runtimeBoundary := none }

def mailLibrary : PolicyLibrary :=
  { search := fun _ _ => .ok false, validationError := fun _ => "" }

def mailRule : PolicyRuleRow :=
  { id := "R1", name := "mail", resourceType := "tool", resourcePattern := "mail"
    effect := "REQUIRE_APPROVAL", conditions := .list [], priority := 10, enabled := true }

def mailContext : ExecutionContext :=
  { runId := "run-1", nodeId := "answer", attempt := 1, config := [] }

theorem mailRule_matches : matchingRules "tool" "mail" [mailRule] = [mailRule] := by
  simp [matchingRules, getEnabledByResourceType, mailRule]
  decide

theorem mailRule_asks (context : State) :
    effectOf mailLibrary [mailRule] "mail" context = .requireApproval := by
  unfold effectOf
  rw [mailRule_matches]
  rfl

theorem approved_call_not_executed :
    ¬ DecisionsAgree "mail" [] mailContext (governed mailExecutor mailLibrary [mailRule]) := by
  intro agree
  have decided := toolDecision_governed mailExecutor mailLibrary [mailRule] "mail" [] mailContext 0
    { state := approvedState "mail" mailContext.nodeId }
  rw [mailRule_asks] at decided
  have opened : OtherGatesOpen (governed mailExecutor mailLibrary [mailRule]) "mail" []
      (toolContext mailContext) mailTool "D1" :=
    ⟨rfl, rfl, ⟨fun _ => .ok (some "D1"), rfl, rfl⟩, nofun⟩
  have identified : Identified (toolContext mailContext) := by
    intro value held
    cases held
  obtain ⟨event, member, invoked⟩ := agree.approved ⟨mailTool, fun _ => .returned []⟩ 0 _ _ "D1"
    rfl decided approvedState_approved opened identified
  refine not_executed rfl ?_ event member invoked
  rw [checkPolicy_governed, mailRule_asks]

end SyndicateClaw.Tools
