import SyndicateClaw.Authz.Evaluator
import SyndicateClaw.Authz.Routes

/-! Scope resolvers: which scope owns the resource of a request, by its path parameters. -/

namespace SyndicateClaw.Authz

structure OwnedRow where
  id : String
  owningScope : Option Scope

structure NamespaceBinding where
  namespacePattern : String
  teamId : String

/-- The tables that the resolvers read. -/
structure Resources where
  workflowDefinitions : List OwnedRow
  workflowRuns : List OwnedRow
  memoryRecords : List OwnedRow
  policyRules : List OwnedRow
  approvalRequests : List OwnedRow
  namespaceBindings : List NamespaceBinding

/-- A scope, `None`, or an exception. -/
inductive Resolution where
  | found (scope : Scope)
  | unresolved
  | raised
  deriving DecidableEq

abbrev PathParams := Dict String String

/-! ### Patterns -/

/-- `LIKE`; `none` where the pattern ends in its escape character. -/
def sqlLike : List Char → List Char → Option Bool
  | text, [] => some text.isEmpty
  | [], '%' :: pattern => sqlLike [] pattern
  | c :: text, '%' :: pattern =>
      match sqlLike (c :: text) pattern with
      | some false => sqlLike text ('%' :: pattern)
      | answer => answer
  | [], _ :: _ => some false
  | _ :: text, '_' :: pattern => sqlLike text pattern
  | _ :: _, ['\\'] => none
  | c :: text, '\\' :: d :: pattern => if c = d then sqlLike text pattern else some false
  | c :: text, d :: pattern => if c = d then sqlLike text pattern else some false
  termination_by text pattern => text.length + pattern.length

/-- `REPLACE(namespace_pattern, '*', '%')`. -/
def likePattern (pattern : String) : List Char :=
  pattern.toList.map fun c => if c = '*' then '%' else c

def longestBinding : List NamespaceBinding → Option NamespaceBinding
  | [] => none
  | binding :: rest =>
      match longestBinding rest with
      | some other =>
          if binding.namespacePattern.length < other.namespacePattern.length then some other
          else some binding
      | none => some binding

/-! ### Resolvers -/

abbrev ScopeResolver := Database → Resources → PathParams → Resolution

def pathParam (params : PathParams) (name : String) : Option String :=
  (Dict.get? params name).filter fun value => value ≠ ""

def resolveOwned (name : String) (table : Resources → List OwnedRow) : ScopeResolver :=
  fun _ resources params =>
    match pathParam params name with
    | none => .unresolved
    | some id =>
        match ((table resources).find? fun row => row.id = id).bind OwnedRow.owningScope with
        | none => .unresolved
        | some scope => .found scope

def resolvePlatform : ScopeResolver := fun _ _ _ => .found .platform

def resolveWorkflowById : ScopeResolver := resolveOwned "workflow_id" Resources.workflowDefinitions

def resolveRunById : ScopeResolver := resolveOwned "run_id" Resources.workflowRuns

def resolveWorkflowForRunStart : ScopeResolver := fun db resources params =>
  match pathParam params "workflow_id" with
  | none => .unresolved
  | some _ => resolveWorkflowById db resources params

def resolveActorScope : ScopeResolver := fun _ _ _ => .found .platform

def resolveMemoryNamespace : ScopeResolver := fun db resources params =>
  match pathParam params "namespace" with
  | none => .found .platform
  | some space =>
      let joined := resources.namespaceBindings.filter fun binding =>
        db.principals.any fun principal => principal.id = binding.teamId
      match joined.mapM fun binding => sqlLike space.toList (likePattern binding.namespacePattern) with
      | none => .raised
      | some matching =>
          match longestBinding ((joined.zip matching).filter Prod.snd |>.map Prod.fst) with
          | none => .found .platform
          | some binding => .found { scopeType := "TEAM", scopeId := binding.teamId }

def resolveMemoryRecordById : ScopeResolver := resolveOwned "record_id" Resources.memoryRecords

def resolvePolicyById : ScopeResolver := resolveOwned "rule_id" Resources.policyRules

def resolveApprovalById : ScopeResolver := resolveOwned "approval_id" Resources.approvalRequests

def resolveApprovalRun : ScopeResolver := resolveOwned "run_id" Resources.workflowRuns

def resolveAuditTrace : ScopeResolver := fun _ _ _ => .found .platform

def scopeResolvers : Dict String ScopeResolver :=
  [("platform", resolvePlatform), ("workflow_by_id", resolveWorkflowById),
    ("run_by_id", resolveRunById), ("workflow_for_run_start", resolveWorkflowForRunStart),
    ("actor_scope", resolveActorScope), ("memory_namespace", resolveMemoryNamespace),
    ("memory_record_by_id", resolveMemoryRecordById), ("policy_by_id", resolvePolicyById),
    ("approval_by_id", resolveApprovalById), ("approval_run", resolveApprovalRun),
    ("audit_trace", resolveAuditTrace)]

/-- The resolver of a specification, applied. An unknown name resolves nothing. -/
def RouteAuthzSpec.resolve (spec : RouteAuthzSpec) (db : Database) (resources : Resources)
    (params : PathParams) : Resolution :=
  match Dict.get? scopeResolvers spec.scopeResolver with
  | none => .unresolved
  | some resolver => resolver db resources params

end SyndicateClaw.Authz
