import Mathlib.Data.List.Basic
import SyndicateClaw.Data.Dict
import SyndicateClaw.Data.RecursiveQuery

/-! `RBACEvaluator`: the queries on the tables and the decision. -/

namespace SyndicateClaw.Authz

/-! ### Scopes -/

structure Scope where
  scopeType : String
  scopeId : String
  deriving DecidableEq

def Scope.platform : Scope := { scopeType := "PLATFORM", scopeId := "platform" }

def scopeContainmentOrder : List String := ["PLATFORM", "TENANT", "TEAM", "NAMESPACE"]

/-- `_scope_contains`. -/
def scopeContains (outer inner : Scope) : Bool :=
  if outer.scopeType = "PLATFORM" then true
  else match scopeContainmentOrder.idxOf? outer.scopeType,
      scopeContainmentOrder.idxOf? inner.scopeType with
    | some outerIndex, some innerIndex =>
        if outerIndex > innerIndex then false
        else if outer.scopeType = inner.scopeType then outer.scopeId = inner.scopeId
        else true
    | _, _ => false

/-- A scope type below `PLATFORM` that is strictly broader than another. -/
def BroaderType (outer inner : String) : Prop :=
  outer = "TENANT" ∧ (inner = "TEAM" ∨ inner = "NAMESPACE") ∨ outer = "TEAM" ∧ inner = "NAMESPACE"

instance (outer inner : String) : Decidable (BroaderType outer inner) :=
  inferInstanceAs (Decidable (_ ∨ _))

/-- The types of scopes below `PLATFORM`. -/
def narrowTypes : List String := ["TENANT", "TEAM", "NAMESPACE"]

theorem scopeContains_platform {outer : Scope} (platform : outer.scopeType = "PLATFORM")
    (inner : Scope) : scopeContains outer inner = true :=
  if_pos platform

theorem known_or_not (scopeType : String) : scopeType = "PLATFORM" ∨ scopeType = "TENANT" ∨
    scopeType = "TEAM" ∨ scopeType = "NAMESPACE" ∨ scopeType ∉ scopeContainmentOrder := by
  by_cases known : scopeType ∈ scopeContainmentOrder
  · simp only [scopeContainmentOrder, List.mem_cons, List.not_mem_nil, or_false] at known
    rcases known with same | same | same | same
    · exact .inl same
    · exact .inr (.inl same)
    · exact .inr (.inr (.inl same))
    · exact .inr (.inr (.inr (.inl same)))
  · exact .inr (.inr (.inr (.inr known)))

theorem not_mem_order {scopeType : String} (unknown : scopeType ∉ scopeContainmentOrder) :
    scopeType ≠ "PLATFORM" ∧ scopeType ≠ "TENANT" ∧ scopeType ≠ "TEAM" ∧
      scopeType ≠ "NAMESPACE" := by
  simpa [scopeContainmentOrder] using unknown

theorem scopeContains_iff {outer inner : Scope} : scopeContains outer inner = true ↔
    outer.scopeType = "PLATFORM" ∨ BroaderType outer.scopeType inner.scopeType ∨
      outer = inner ∧ outer.scopeType ∈ narrowTypes := by
  obtain ⟨outerType, outerId⟩ := outer
  obtain ⟨innerType, innerId⟩ := inner
  unfold scopeContains BroaderType narrowTypes
  rcases known_or_not outerType with rfl | rfl | rfl | rfl | unknown
  · simp
  case inr.inr.inr.inr =>
    obtain ⟨one, two, three, four⟩ := not_mem_order unknown
    simp [List.idxOf?_eq_none_iff.mpr unknown, one, two, three, four]
  all_goals
    rcases known_or_not innerType with rfl | rfl | rfl | rfl | unknown
    case inr.inr.inr.inr =>
      obtain ⟨one, two, three, four⟩ := not_mem_order unknown
      simp [List.idxOf?_eq_none_iff.mpr unknown, two.symm, three, four, three.symm, four.symm]
    all_goals simp [scopeContainmentOrder, List.idxOf?_cons]

theorem BroaderType.trans {outer middle inner : String} (above : BroaderType outer middle)
    (below : BroaderType middle inner) : BroaderType outer inner := by
  rcases above with ⟨rfl, rfl | rfl⟩ | ⟨rfl, rfl⟩
  · exact .inl ⟨rfl, below.elim (fun tenant => absurd tenant.1 (by decide)) fun team => .inr team.2⟩
  · exact below.elim (fun tenant => absurd tenant.1 (by decide))
      fun team => absurd team.1 (by decide)
  · exact below.elim (fun tenant => absurd tenant.1 (by decide))
      fun team => absurd team.1 (by decide)

theorem BroaderType.not_platform {outer inner : String} (broader : BroaderType outer inner) :
    outer ∈ narrowTypes ∧ inner ≠ "PLATFORM" := by
  rcases broader with ⟨rfl, rfl | rfl⟩ | ⟨rfl, rfl⟩ <;> decide

theorem scopeContains_trans {outer middle inner : Scope}
    (above : scopeContains outer middle = true) (below : scopeContains middle inner = true) :
    scopeContains outer inner = true := by
  rw [scopeContains_iff] at above
  rcases above with platform | broader | ⟨rfl, -⟩
  · exact scopeContains_platform platform inner
  · rw [scopeContains_iff] at below ⊢
    rcases below with platform | narrower | ⟨rfl, -⟩
    · exact absurd platform broader.not_platform.2
    · exact .inr (.inl (broader.trans narrower))
    · exact .inr (.inl broader)
  · exact below

theorem scopeContains_self {outer inner : Scope} (contains : scopeContains outer inner = true) :
    scopeContains outer outer = true := by
  rw [scopeContains_iff] at contains ⊢
  rcases contains with platform | broader | ⟨-, known⟩
  · exact .inl platform
  · exact .inr (.inr ⟨rfl, broader.not_platform.1⟩)
  · exact .inr (.inr ⟨rfl, known⟩)

/-- `time.time()` and `timestamp()`, in microseconds. -/
abbrev Time := Int

/-! ### Tables -/

structure Principal where
  id : String
  name : String
  enabled : Bool

structure TeamMembership where
  principalId : String
  teamId : String

/-- The elements of `permissions`, as `jsonb_array_elements_text` gives them; it raises where the
column is no array. -/
structure Role where
  id : String
  name : String
  permissions : Option (List String)
  inheritsFrom : Option String
  scopeType : String
  deriving DecidableEq

structure RoleAssignment where
  id : String
  principalId : String
  roleId : String
  scopeType : String
  scopeId : String
  expiresAt : Option Time
  revoked : Bool

def RoleAssignment.scope (a : RoleAssignment) : Scope :=
  { scopeType := a.scopeType, scopeId := a.scopeId }

structure DenyAssignment where
  id : String
  principalId : String
  permission : String
  scopeType : String
  scopeId : String
  reason : Option String
  expiresAt : Option Time

def DenyAssignment.scope (d : DenyAssignment) : Scope :=
  { scopeType := d.scopeType, scopeId := d.scopeId }

structure Database where
  principals : List Principal
  memberships : List TeamMembership
  roles : List Role
  roleAssignments : List RoleAssignment
  denyAssignments : List DenyAssignment

/-- The keys of the tables: `roles` has its identifiers and `UNIQUE(name, scope_type)`, and an
assignment refers to a role. -/
structure Database.Keyed (db : Database) : Prop where
  roleIds : (db.roles.map Role.id).Nodup
  roleNames : (db.roles.map fun r => (r.name, r.scopeType)).Nodup
  assignedRoles : ∀ a ∈ db.roleAssignments, ∃ r ∈ db.roles, r.id = a.roleId

/-- `expires_at is not None and expires_at.timestamp() < now`. -/
def expiredAt (expiresAt : Option Time) (now : Time) : Bool :=
  match expiresAt with
  | none => false
  | some time => time < now

/-! ### Queries -/

/-- A row of `_RESOLVE_PERMISSIONS_SQL`. -/
structure AssignmentRow where
  assignment : RoleAssignment
  role : Role
  source : String

section

variable (db : Database)

def assignmentsOf (owner source : String) : List AssignmentRow :=
  (db.roleAssignments.filter fun a => a.principalId = owner && !a.revoked).flatMap fun a =>
    (db.roles.filter fun r => r.id = a.roleId).map fun r => { assignment := a, role := r, source }

/-- `_RESOLVE_PERMISSIONS_SQL`. -/
def resolvePermissions (principalId : String) : List AssignmentRow :=
  assignmentsOf db principalId "direct" ++
    (db.memberships.filter fun m => m.principalId = principalId).flatMap fun m =>
      assignmentsOf db m.teamId ("team:" ++ m.teamId)

/-- `_RESOLVE_DENIES_SQL`. -/
def resolveDenies (principalId : String) : List DenyAssignment :=
  db.denyAssignments.filter fun d => d.principalId = principalId

def rolesNamed (name : String) : List Role := db.roles.filter fun r => r.name = name

/-- `JOIN role_chain rc ON rc.inherits_from = r.name`. -/
def parents (role : Role) : List Role :=
  db.roles.filter fun r => role.inheritsFrom = some r.name

/-- `_RESOLVE_ROLE_PERMISSIONS_SQL`; `none` where it does not end or raises. -/
def resolveRolePermissions (roleName : String) : Option (List String) := do
  let chain ← RecursiveQuery.rows (parents db) db.roles.length (rolesNamed db roleName)
  return (← chain.mapM Role.permissions).flatten

/-! ### The evaluator -/

inductive Decision where
  | allow
  | deny
  deriving DecidableEq

inductive DenyReason where
  | noPrincipal
  | noMatchingGrant
  | explicitDeny
  | expiredAssignmentsOnly
  deriving DecidableEq

structure MatchedAssignment where
  roleId : String
  roleName : String
  scopeType : String
  scopeId : String
  source : String
  deriving DecidableEq

structure MatchedDeny where
  denyId : String
  permission : String
  scopeType : String
  scopeId : String
  reason : String
  deriving DecidableEq

structure AuthzResult where
  decision : Decision
  denyReason : Option DenyReason
  permissionSource : Option String
  matchedAssignments : List MatchedAssignment
  matchedDenies : List MatchedDeny
  cacheHit : Bool
  deriving DecidableEq

def AuthzResult.denied (reason : DenyReason) (denies : List MatchedDeny) (cacheHit : Bool) :
    AuthzResult :=
  { decision := .deny, denyReason := some reason, permissionSource := none
    matchedAssignments := [], matchedDenies := denies, cacheHit }

/-- The dictionary of an assignment; `expired` is `none` where the key is missing. -/
structure Assignment where
  assignmentId : String
  roleId : String
  roleName : String
  scopeType : String
  scopeId : String
  source : String
  expired : Option Bool

def Assignment.scope (a : Assignment) : Scope :=
  { scopeType := a.scopeType, scopeId := a.scopeId }

def Assignment.matched (a : Assignment) : MatchedAssignment :=
  { roleId := a.roleId, roleName := a.roleName, scopeType := a.scopeType, scopeId := a.scopeId
    source := a.source }

/-- The two readings of `time.time()` in an evaluation. -/
structure Clock where
  denies : Time
  assignments : Time

/-- `_check_denies`. -/
def checkDenies (principalId permission : String) (scope : Scope) (now : Time) :
    List MatchedDeny :=
  ((resolveDenies db principalId).filter fun d =>
    !expiredAt d.expiresAt now && (d.permission = permission || d.permission = "*") &&
      scopeContains d.scope scope).map fun d =>
    { denyId := d.id, permission := d.permission, scopeType := d.scopeType, scopeId := d.scopeId
      reason := d.reason.getD "" }

def AssignmentRow.read (row : AssignmentRow) (now : Time) : Assignment :=
  { assignmentId := row.assignment.id, roleId := row.role.id, roleName := row.role.name
    scopeType := row.assignment.scopeType, scopeId := row.assignment.scopeId
    source := row.source, expired := some (expiredAt row.assignment.expiresAt now) }

/-- The assignments `_resolve_assignments` reads from the database. -/
def readAssignments (principalId : String) (now : Time) : List Assignment :=
  (resolvePermissions db principalId).map fun row => row.read now

/-- `_role_perm_cache`. -/
abbrev Memo := Dict String (List String)

/-- `_expand_role_permissions`. -/
def expandRolePermissions (memo : Memo) (roleName : String) : Option (List String × Memo) :=
  match Dict.get? memo roleName with
  | some permissions => some (permissions, memo)
  | none => (resolveRolePermissions db roleName).map fun permissions =>
      (permissions, Dict.set memo roleName permissions)

def findGrants (permission : String) (scope : Scope) :
    Memo → List Assignment → Option (List MatchedAssignment × Bool)
  | _, [] => some ([], false)
  | memo, a :: rest =>
      if !scopeContains a.scope scope then findGrants permission scope memo rest
      else if a.expired = some true then
        (findGrants permission scope memo rest).map fun found => (found.1, true)
      else do
        let (permissions, memo) ← expandRolePermissions db memo a.roleName
        let (matched, hasExpired) ← findGrants permission scope memo rest
        return (if permission ∈ permissions then a.matched :: matched else matched, hasExpired)

def conclude (cacheHit : Bool) (matched : List MatchedAssignment) (hasExpired : Bool) :
    AuthzResult :=
  match matched with
  | first :: _ =>
      { decision := .allow, denyReason := none
        permissionSource := some (first.roleName ++ " @ " ++ first.scopeType ++ ":" ++ first.scopeId)
        matchedAssignments := matched, matchedDenies := [], cacheHit }
  | [] => .denied (if hasExpired then .expiredAssignmentsOnly else .noMatchingGrant) [] cacheHit

/-- `evaluate` behind `_resolve_assignments`. -/
def decideGrants (permission : String) (scope : Scope) (assignments : List Assignment)
    (cacheHit : Bool) : Option AuthzResult :=
  (findGrants db permission scope [] assignments).map fun found =>
    conclude cacheHit found.1 found.2

/-- `evaluate` without a cache; `none` where a query does not end or raises. -/
def evaluate (principalId : Option String) (permission : String) (resourceScope : Option Scope)
    (clock : Clock) : Option AuthzResult :=
  match principalId with
  | none => some (.denied .noPrincipal [] false)
  | some principalId =>
      let scope := resourceScope.getD .platform
      match checkDenies db principalId permission scope clock.denies with
      | [] => decideGrants db permission scope (readAssignments db principalId clock.assignments)
          false
      | denies => some (.denied .explicitDeny denies false)

/-- `resolve_principal_id`. -/
def resolvePrincipalId (actor : String) : Option String :=
  (db.principals.find? fun p => p.name = actor && p.enabled).map Principal.id

end

end SyndicateClaw.Authz
