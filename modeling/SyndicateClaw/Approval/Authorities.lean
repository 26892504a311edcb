import SyndicateClaw.Approval.Decisions
import SyndicateClaw.Policy.Engine

/-! `ApprovalAuthorityResolver`: who may approve a request, and whether anybody can. -/

namespace SyndicateClaw.Approval

open Orchestrator Policy

/-! ### The resolver -/

/-- `DEFAULT_APPROVAL_AUTHORITIES`. -/
def defaultApprovalAuthorities : Dict ToolRiskLevel (List String) :=
  [(.low, ["admin:ops"]), (.medium, ["admin:ops", "admin:security"]),
   (.high, ["admin:security", "admin:lead"]), (.critical, ["admin:security", "admin:ciso"])]

/-- `rules` is what the session answers, if there is a session factory. -/
structure ApprovalAuthorityResolver where
  rules : Option (Except String (List PolicyRuleRow))
  authorityOverrides : Option (Dict ToolRiskLevel (List String))

def ruleConditions (rule : PolicyRuleRow) : List Value :=
  match rule.conditions with
  | .list conditions => conditions
  | .dict entries => [.dict entries]
  | _ => []

def conditionAuthorities (condition : Value) : Option (List Value) :=
  match condition with
  | .dict entries =>
      if lookup entries "field" = .str "approval_authorities" then
        ((Dict.get? entries "value").bind Value.asList?).filter (· ≠ [])
      else none
  | _ => none

namespace ApprovalAuthorityResolver

variable (resolver : ApprovalAuthorityResolver) (toolName : String) (riskLevel : ToolRiskLevel)
  (requester : String)

/-- `_resolve_from_policy`: the first condition that names approvers. -/
def resolveFromPolicy : List Value :=
  match resolver.rules with
  | some (.ok rules) =>
      (((matchingRules "tool" toolName rules).flatMap ruleConditions).findSome?
        conditionAuthorities).getD []
  | _ => []

/-- `self._authorities`. -/
def authorities : Dict ToolRiskLevel (List String) :=
  match resolver.authorityOverrides with
  | some (entry :: entries) => entry :: entries
  | _ => defaultApprovalAuthorities

/-- The approvers before the requester is excluded: those of the policy, of the risk level, or the
administrators. -/
def candidates : List Value :=
  let approvers := resolver.resolveFromPolicy toolName
  let approvers :=
    if approvers = [] then
      ((Dict.get? resolver.authorities riskLevel).getD []).map Value.str
    else approvers
  if approvers = [] then [.str "admin:ops", .str "admin:security"] else approvers

/-- `resolve`. -/
def resolve : List Value :=
  let approvers := (resolver.candidates toolName riskLevel).filter fun a =>
    !Condition.pyEq a (.str requester)
  if approvers = [] then [.str "admin:security"] else approvers

end ApprovalAuthorityResolver

/-! ### New requests -/

def pendingRow (request : ApprovalRequest) (actor : String) (assignedTo : List Value) :
    ApprovalRow :=
  { id := request.id, actionDescription := some request.actionDescription
    riskLevel := request.riskLevel.value, status := "PENDING", requestedBy := some actor
    assignedTo := .list assignedTo, decidedBy := none, decidedAt := none, decisionReason := none
    expiresAt := some request.expiresAt, context := .dict request.context, scope := .dict [] }

/-- The row that `request_approval` stores; an error is the text of its `ValueError`. -/
def requestApproval (resolver : Option ApprovalAuthorityResolver) (resolveAuthority : Bool)
    (request : ApprovalRequest) (actor : String) : Except String ApprovalRow :=
  if request.actionDescription = "" then .error "action_description is required"
  else
    match if resolveAuthority then resolver else none with
    | some resolver => .ok (pendingRow request actor
        (resolver.resolve (request.toolName.getD "") request.riskLevel actor))
    | none =>
        if request.assignedTo = [] then .error "assigned_to must contain at least one approver"
        else .ok (pendingRow request actor (request.assignedTo.map Value.str))

/-! ### Usable approvers -/

section

variable (scope : Value → Bool) (resolver : ApprovalAuthorityResolver) (toolName : String)
  (riskLevel : ToolRiskLevel) (requester : String)

/-- There are approvers, the requester is none of them, and one of them can decide any request
with them until its deadline. -/
structure UsableApprovers : Prop where
  nonempty : resolver.resolve toolName riskLevel requester ≠ []
  independent : .str requester ∉ resolver.resolve toolName riskLevel requester
  decidable : ∀ request row, request.toolName.getD "" = toolName → request.riskLevel = riskLevel →
    requestApproval (some resolver) true request requester = .ok row →
      ∃ approver, ∀ decision reason now, now < request.expiresAt →
        Accepts (decide scope decision approver reason now row)

/-- All candidates are names, and one is not the requester's; or the requester is not the one who
is asked when all others are excluded. -/
structure OthersNamed : Prop where
  names : ∀ candidate ∈ resolver.candidates toolName riskLevel, candidate.asStr?.isSome = true
  others : (∃ candidate ∈ resolver.candidates toolName riskLevel, candidate ≠ .str requester) ∨
    requester ≠ "admin:security"

variable {scope resolver toolName riskLevel requester}

theorem pyEq_name {value : Value} {name : String} :
    Condition.pyEq value (.str name) = true ↔ value = .str name := by
  cases value <;> simp [Condition.pyEq, Condition.number?]

variable (resolver toolName riskLevel requester) in
theorem resolve_cases :
    ((∀ approver, approver ∈ resolver.resolve toolName riskLevel requester ↔
        approver ∈ resolver.candidates toolName riskLevel ∧ approver ≠ .str requester) ∧
      ∃ candidate ∈ resolver.candidates toolName riskLevel, candidate ≠ .str requester) ∨
    (resolver.resolve toolName riskLevel requester = [.str "admin:security"] ∧
      ∀ candidate ∈ resolver.candidates toolName riskLevel, candidate = .str requester) := by
  unfold ApprovalAuthorityResolver.resolve
  dsimp only
  have kept : ∀ approver, approver ∈ (resolver.candidates toolName riskLevel).filter
      (fun a => !Condition.pyEq a (.str requester)) ↔
        approver ∈ resolver.candidates toolName riskLevel ∧ approver ≠ .str requester := by
    intro approver
    rw [List.mem_filter, Bool.not_eq_true', ← Bool.not_eq_true, pyEq_name]
  split
  · next empty =>
      refine .inr ⟨rfl, fun candidate member => ?_⟩
      by_contra other
      have inside := (kept candidate).mpr ⟨member, other⟩
      rw [empty] at inside
      cases inside
  · next some_ =>
      obtain ⟨approver, inside⟩ := List.exists_mem_of_ne_nil _ some_
      obtain ⟨member, other⟩ := (kept approver).mp inside
      exact .inl ⟨kept, approver, member, other⟩

theorem resolve_ne_nil : resolver.resolve toolName riskLevel requester ≠ [] := by
  rcases resolve_cases resolver toolName riskLevel requester with
    ⟨kept, candidate, member, other⟩ | ⟨fallback, -⟩
  · exact List.ne_nil_of_mem ((kept candidate).mpr ⟨member, other⟩)
  · rw [fallback]
    exact List.cons_ne_nil _ _

theorem requestApproval_ok {request : ApprovalRequest} {row : ApprovalRow}
    (created : requestApproval (some resolver) true request requester = .ok row) :
    row = pendingRow request requester
      (resolver.resolve (request.toolName.getD "") request.riskLevel requester) := by
  unfold requestApproval at created
  split at created
  · cases created
  · exact (Except.ok.inj created).symm

theorem pendingRow_assigned {request : ApprovalRequest} {actor name : String}
    {assignedTo : List Value} (member : .str name ∈ assignedTo) :
    name ∈ (pendingRow request actor assignedTo).assigned :=
  List.mem_map.mpr ⟨.str name, member, rfl⟩

theorem pendingRow_validates {request : ApprovalRequest} {actor approver reason : String}
    {assignedTo : List Value} {decision : Decision} {now : Instant}
    (accepts : scope (.dict []) = true) :
    ((pendingRow request actor assignedTo).decided decision approver reason now).validates scope =
      true ↔ ∀ value ∈ assignedTo, value.asStr?.isSome = true := by
  have risk : (ToolRiskLevel.parse? request.riskLevel.value).isSome = true := by
    cases request.riskLevel <;> rfl
  have status : (ApprovalStatus.parse? decision.status).isSome = true := by
    cases decision <;> rfl
  rw [← List.all_eq_true]
  simp [ApprovalRow.validates, ApprovalRow.decided, pendingRow, risk, status, accepts,
    Value.asList?, Value.asDict?]

theorem pendingRow_decided {request : ApprovalRequest} {approver reason : String}
    {assignedTo : List Value} {decision : Decision} {now : Instant}
    (accepts : scope (.dict []) = true)
    (names : ∀ value ∈ assignedTo, value.asStr?.isSome = true)
    (member : .str approver ∈ assignedTo) (other : approver ≠ requester)
    (inTime : now < request.expiresAt) :
    Accepts
      (decide scope decision approver reason now (pendingRow request requester assignedTo)) := by
  apply decide_accepts.mpr
  refine ⟨⟨rfl, fun own => ?_, pendingRow_assigned member, fun deadline due => ?_⟩,
    (pendingRow_validates accepts).mpr names⟩
  · exact other (Option.some.inj own).symm
  · obtain rfl : request.expiresAt = deadline := Option.some.inj due
    exact inTime

end

def plainRequest (toolName : String) (riskLevel : ToolRiskLevel) : ApprovalRequest :=
  { id := "A1", runId := "run", nodeExecutionId := "node", toolName := some toolName
    actionDescription := "Execute tool", riskLevel, status := .pending, requestedBy := ""
    assignedTo := [], decidedBy := none, decidedAt := none, decisionReason := none, expiresAt := 1
    context := [], scope := .dict [] }

/-- The approvers that are resolved are usable exactly if the candidates are names and the requester
is not all of them and the last resort as well. -/
theorem usableApprovers_iff (scope : Value → Bool) (accepts : scope (.dict []) = true)
    (resolver : ApprovalAuthorityResolver) (toolName : String) (riskLevel : ToolRiskLevel)
    (requester : String) : UsableApprovers scope resolver toolName riskLevel requester ↔
      OthersNamed resolver toolName riskLevel requester := by
  constructor
  · intro usable
    obtain ⟨approver, decides⟩ := usable.decidable (plainRequest toolName riskLevel) _ rfl rfl rfl
    have accepted := decide_accepts.mp (decides .approve "" 0 Nat.one_pos)
    have names := (pendingRow_validates accepts).mp accepted.2
    refine ⟨fun candidate member => ?_, ?_⟩
    · by_cases own : candidate = .str requester
      · rw [own]
        rfl
      · rcases resolve_cases resolver toolName riskLevel requester with ⟨kept, -⟩ | ⟨-, all⟩
        · exact names candidate ((kept candidate).mpr ⟨member, own⟩)
        · exact absurd (all candidate member) own
    · rcases resolve_cases resolver toolName riskLevel requester with ⟨-, others⟩ | ⟨fallback, -⟩
      · exact .inl others
      · refine .inr fun same => usable.independent ?_
        rw [fallback, same]
        exact List.mem_singleton_self _
  · intro named
    rcases resolve_cases resolver toolName riskLevel requester with
      ⟨kept, candidate, member, other⟩ | ⟨fallback, all⟩
    · refine ⟨resolve_ne_nil, fun own => ((kept _).mp own).2 rfl, ?_⟩
      intro request row tool risk created
      obtain rfl := requestApproval_ok created
      subst tool risk
      obtain ⟨name, text⟩ := Option.isSome_iff_exists.mp (named.names candidate member)
      obtain rfl : candidate = .str name := by
        cases candidate <;> cases text
        rfl
      refine ⟨name, fun decision reason now inTime => pendingRow_decided accepts ?_
        ((kept _).mpr ⟨member, other⟩) (fun same => other (congrArg Value.str same)) inTime⟩
      intro value inside
      exact named.names value ((kept value).mp inside).1
    · have stranger : requester ≠ "admin:security" := by
        refine named.others.resolve_left ?_
        rintro ⟨candidate, member, other⟩
        exact other (all candidate member)
      refine ⟨resolve_ne_nil, fun own => ?_, ?_⟩
      · rw [fallback, List.mem_singleton] at own
        exact stranger (Value.str.inj own)
      · intro request row tool risk created
        obtain rfl := requestApproval_ok created
        subst tool risk
        rw [fallback]
        refine ⟨"admin:security", fun decision reason now inTime => pendingRow_decided accepts ?_
          (List.mem_singleton_self _) (fun same => stranger same.symm) inTime⟩
        intro value inside
        rw [List.mem_singleton.mp inside]
        rfl

def defaultResolver : ApprovalAuthorityResolver := { rules := none, authorityOverrides := none }

/-- Critical tools are approved by `admin:security` alone. -/
def soleAuthority : ApprovalAuthorityResolver :=
  { rules := none, authorityOverrides := some [(.critical, ["admin:security"])] }

theorem default_resolver_usable :
    UsableApprovers (fun _ => true) defaultResolver "mail" .low "admin:ops" := by
  have names : ∀ candidate ∈ defaultResolver.candidates "mail" .low,
      candidate.asStr?.isSome = true := by decide
  exact (usableApprovers_iff (fun _ => true) rfl defaultResolver "mail" .low "admin:ops").mpr
    ⟨names, .inr (by decide)⟩

/-- The last resort is the requester himself, and nobody can decide. -/
theorem sole_authority_asked :
    soleAuthority.resolve "mail" .critical "admin:security" = [.str "admin:security"] ∧
      ¬ UsableApprovers (fun _ => true) soleAuthority "mail" .critical "admin:security" := by
  have asked : soleAuthority.resolve "mail" .critical "admin:security" =
      [.str "admin:security"] := by decide
  refine ⟨asked, fun usable => usable.independent ?_⟩
  rw [asked]
  exact List.mem_singleton_self _

end SyndicateClaw.Approval
