import SyndicateClaw.Authz.Grants

/-! Explicit denies win and grants are monotone; an `ALLOW` is what the names of the roles grant. -/

namespace SyndicateClaw.Authz

structure RoleGrows (role role' : Role) : Prop where
  id : role'.id = role.id
  name : role'.name = role.name
  inherits : role'.inheritsFrom = role.inheritsFrom
  permissions : ∀ own, role.permissions = some own →
    ∃ more, role'.permissions = some more ∧ own ⊆ more

/-- The other database has all the memberships and assignments, and the roles with all their
permissions. -/
structure GrantsWithin (db db' : Database) : Prop where
  memberships : db.memberships ⊆ db'.memberships
  assignments : db.roleAssignments ⊆ db'.roleAssignments
  roles : ∀ role ∈ db.roles, ∃ role' ∈ db'.roles, RoleGrows role role'

/-- The other database has more assignments, memberships and permissions of roles. -/
structure AddsGrants (db db' : Database) : Prop where
  grants : GrantsWithin db db'
  denies : db'.denyAssignments = db.denyAssignments

structure AddsDenies (db db' : Database) : Prop where
  memberships : db'.memberships = db.memberships
  roles : db'.roles = db.roles
  assignments : db'.roleAssignments = db.roleAssignments
  denies : db.denyAssignments ⊆ db'.denyAssignments

section

variable (db : Database) (principalId permission : String) (scope : Scope) (clock : Clock)

def Granted : Prop :=
  ∃ a role, Holds db principalId scope clock a role ∧ HasPermission db role permission

/-- Denies win, and only they turn an `ALLOW` into a `DENY`; only grants turn a `DENY` into an
`ALLOW`; and an `ALLOW` is a grant without a deny. -/
structure DenyPrecedence : Prop where
  denyWins : ∀ d, DeniedBy db principalId permission scope clock d →
    Decides db principalId permission scope clock .deny
  addedDenies : ∀ db', AddsDenies db db' → Decides db principalId permission scope clock .deny →
    ¬ Decides db' principalId permission scope clock .allow
  addedGrants : ∀ db', AddsGrants db db' → Decides db principalId permission scope clock .allow →
    ¬ Decides db' principalId permission scope clock .deny
  allow : Decides db principalId permission scope clock .allow ↔
    (¬ ∃ d, DeniedBy db principalId permission scope clock d) ∧
      Granted db principalId permission scope clock

/-- The names of the roles held in scope stand for the roles: where one of them has the
permission, every one's inheritance ends; and where these end, a role of the same name has the
permission only if one of them has. -/
structure NamesSuffice : Prop where
  ends : Granted db principalId permission scope clock →
    ∀ a role, Holds db principalId scope clock a role → Resolves db role.name
  twins : (∀ a role, Holds db principalId scope clock a role → Resolves db role.name) →
    ∀ a role, Holds db principalId scope clock a role → ∀ twin ∈ db.roles,
      twin.name = role.name → HasPermission db twin permission →
        Granted db principalId permission scope clock

end

variable {db db' : Database} {principalId permission : String} {scope : Scope} {clock : Clock}

theorem joins_iff {role other : Role} : RecursiveQuery.Joins (parents db) role other ↔
    other ∈ db.roles ∧ role.inheritsFrom = some other.name := by
  unfold RecursiveQuery.Joins parents
  rw [List.mem_filter, decide_eq_true_eq]

theorem AddsDenies.grantsWithin (adds : AddsDenies db db') : GrantsWithin db' db where
  memberships := adds.memberships ▸ List.Subset.refl _
  assignments := adds.assignments ▸ List.Subset.refl _
  roles role known := ⟨role, adds.roles ▸ known, rfl, rfl, rfl, fun own listed =>
    ⟨own, listed, List.Subset.refl own⟩⟩

section

variable (within : GrantsWithin db db')

include within

theorem Inherits.grows {role role' ancestor : Role} (grows : RoleGrows role role')
    (leads : Inherits db role ancestor) :
    ∃ ancestor', RoleGrows ancestor ancestor' ∧ Inherits db' role' ancestor' := by
  induction leads with
  | refl => exact ⟨role', grows, .refl⟩
  | @tail middle last front joins ih =>
      obtain ⟨middle', grown, leads'⟩ := ih
      obtain ⟨known, parent⟩ := joins_iff.mp joins
      obtain ⟨last', known', grown'⟩ := within.roles last known
      refine ⟨last', grown', leads'.tail (joins_iff.mpr ⟨known', ?_⟩)⟩
      rw [grown.inherits, grown'.name]
      exact parent

theorem HasPermission.grows {role role' : Role} (grows : RoleGrows role role')
    (has : HasPermission db role permission) : HasPermission db' role' permission := by
  obtain ⟨ancestor, permissions, leads, own, inside⟩ := has
  obtain ⟨ancestor', grown, leads'⟩ := Inherits.grows within grows leads
  obtain ⟨more, listed, subset⟩ := grown.permissions permissions own
  exact ⟨ancestor', more, leads', listed, subset inside⟩

theorem Holds.grows {a : RoleAssignment} {role : Role}
    (held : Holds db principalId scope clock a role) :
    ∃ role', RoleGrows role role' ∧ Holds db' principalId scope clock a role' := by
  obtain ⟨role', known', grown⟩ := within.roles role held.known
  refine ⟨role', grown, within.assignments held.assigned, ?_, held.current, held.unexpired,
    held.contains, known', ?_⟩
  · exact held.owner.imp_right fun ⟨m, member, belongs⟩ =>
      ⟨m, within.memberships member, belongs⟩
  · rw [grown.id, held.role]

theorem allow_not_denied (allows : Decides db principalId permission scope clock .allow)
    (free : ¬ ∃ d, DeniedBy db' principalId permission scope clock d) :
    ¬ Decides db' principalId permission scope clock .deny := by
  intro denies
  obtain ⟨-, -, a, role, held, twin, known, named, has⟩ := allows_iff.mp allows
  obtain ⟨role', grown, held'⟩ := held.grows within
  obtain ⟨twin', known', grown'⟩ := within.roles twin known
  refine denies_grantless denies free held' known' ?_ (has.grows within grown')
  rw [grown'.name, named, grown.name]

end

theorem addedDenies_keep (adds : AddsDenies db db')
    (denies : Decides db principalId permission scope clock .deny) :
    ¬ Decides db' principalId permission scope clock .allow := by
  intro allows
  have free := (allows_iff.mp allows).1
  refine allow_not_denied adds.grantsWithin allows ?_ denies
  rintro ⟨d, member, denied⟩
  exact free ⟨d, adds.denies member, denied⟩

theorem addedGrants_keep (adds : AddsGrants db db')
    (allows : Decides db principalId permission scope clock .allow) :
    ¬ Decides db' principalId permission scope clock .deny := by
  refine allow_not_denied adds.grants allows ?_
  rintro ⟨d, member, denied⟩
  rw [adds.denies] at member
  exact (allows_iff.mp allows).1 ⟨d, member, denied⟩

/-- Denies win and grants are monotone in every database; an `ALLOW` is a grant without a deny
exactly where a deny applies or the names of the roles in scope stand for the roles. -/
theorem denyPrecedence_iff : DenyPrecedence db principalId permission scope clock ↔
    (∃ d, DeniedBy db principalId permission scope clock d) ∨
      NamesSuffice db principalId permission scope clock := by
  constructor
  · intro precedence
    by_cases denied : ∃ d, DeniedBy db principalId permission scope clock d
    · exact .inl denied
    · refine .inr ⟨fun granted => ?_, fun resolves a role held twin known named has => ?_⟩
      · exact (allows_iff.mp (precedence.allow.mpr ⟨denied, granted⟩)).2.1
      · exact (precedence.allow.mp
          (allows_iff.mpr ⟨denied, resolves, a, role, held, twin, known, named, has⟩)).2
  · intro condition
    refine ⟨fun d denied => evaluate_denied denied, fun db' => addedDenies_keep,
      fun db' => addedGrants_keep, fun allows => ?_, fun ⟨free, granted⟩ => ?_⟩
    · obtain ⟨free, resolves, a, role, held, twin, known, named, has⟩ := allows_iff.mp allows
      refine ⟨free, ?_⟩
      rcases condition with denied | suffice
      · exact absurd denied free
      · exact suffice.twins resolves a role held twin known named has
    · rcases condition with denied | suffice
      · exact absurd denied free
      · obtain ⟨a, role, held, has⟩ := granted
        exact allows_iff.mpr ⟨free, suffice.ends ⟨a, role, held, has⟩, a, role, held, role,
          held.known, rfl, has⟩

def namesakes : Database where
  principals := [{ id := "alice", name := "alice", enabled := true }]
  memberships := []
  roles :=
    [{ id := "team-auditor", name := "auditor", permissions := some [], inheritsFrom := none
       scopeType := "TEAM" },
      { id := "platform-auditor", name := "auditor", permissions := some ["audit:export"]
        inheritsFrom := none, scopeType := "PLATFORM" }]
  roleAssignments :=
    [{ id := "assignment", principalId := "alice", roleId := "team-auditor", scopeType := "TEAM"
       scopeId := "blue", expiresAt := none, revoked := false }]
  denyAssignments := []

theorem namesakes_keyed : namesakes.Keyed where
  roleIds := by decide
  roleNames := by decide
  assignedRoles := by decide

/-- The platform's role grants through the assignment of the team's. -/
theorem namesake_allowed : namesakes.Keyed ∧ ¬ DenyPrecedence namesakes "alice" "audit:export"
    { scopeType := "TEAM", scopeId := "blue" } { denies := 0, assignments := 0 } := by
  refine ⟨namesakes_keyed, fun precedence => ?_⟩
  have allows : Decides namesakes "alice" "audit:export"
      { scopeType := "TEAM", scopeId := "blue" } { denies := 0, assignments := 0 } .allow :=
    ⟨_, rfl, rfl⟩
  obtain ⟨-, a, role, held, ancestor, permissions, leads, own, inside⟩ :=
    precedence.allow.mp allows
  have assigned := held.assigned
  have known := held.known
  have same := held.role
  simp only [namesakes, List.mem_cons, List.not_mem_nil, or_false] at assigned known
  obtain rfl := assigned
  rcases known with rfl | rfl
  · rcases Relation.ReflTransGen.cases_head leads with rfl | ⟨parent, joins, -⟩
    · cases own
      cases inside
    · have none := (joins_iff.mp joins).2
      cases none
  · exact absurd same (by decide)

/-! ### Expansion

`_expand_role_permissions`: what a role has with all it inherits, for every table of roles. -/

section

variable (db : Database) (memo : Memo) (roleName : String)

/-- The roles a role inherits from, through any number of others, and itself. -/
def Reached (role : Role) : Prop :=
  ∃ first ∈ db.roles, first.name = roleName ∧ Inherits db first role

/-- The expansion ends with the permissions of the roles that are reached, and no others. -/
def ExpandsToClosure : Prop :=
  ∃ permissions memo', expandRolePermissions db memo roleName = some (permissions, memo') ∧
    ∀ permission, permission ∈ permissions ↔
      ∃ role own, Reached db roleName role ∧ role.permissions = some own ∧ permission ∈ own

/-- No role that is reached inherits from itself, and the permissions of each are an array. -/
structure ProperChains : Prop where
  acyclic : ∀ role, Reached db roleName role →
    ¬ Relation.TransGen (RecursiveQuery.Joins (parents db)) role role
  arrays : ∀ role, Reached db roleName role → role.permissions.isSome = true

end

variable {db : Database} {roleName : String}

theorem ends_iff_acyclic : RecursiveQuery.Ends (parents db) (rolesNamed db roleName) ↔
    ∀ role, Reached db roleName role →
      ¬ Relation.TransGen (RecursiveQuery.Joins (parents db)) role role := by
  have closed : ∀ role ∈ db.roles, ∀ other ∈ parents db role, other ∈ db.roles :=
    fun role _ other joins => (joins_iff.mp joins).1
  have within : rolesNamed db roleName ⊆ db.roles :=
    fun role named => (mem_rolesNamed.mp named).1
  rw [RecursiveQuery.ends_iff_acyclic closed within]
  constructor
  · rintro acyclic role ⟨first, known, named, leads⟩
    exact acyclic first (mem_rolesNamed.mpr ⟨known, named⟩) role leads
  · intro acyclic first named role leads
    obtain ⟨known, name⟩ := mem_rolesNamed.mp named
    exact acyclic role ⟨first, known, name, leads⟩

theorem resolves_iff : Resolves db roleName ↔ ProperChains db roleName := by
  constructor
  · intro resolves
    refine ⟨ends_iff_acyclic.mp resolves.ends, ?_⟩
    rintro role ⟨first, known, named, leads⟩
    exact resolves.lists first (mem_rolesNamed.mpr ⟨known, named⟩) role leads
  · intro proper
    refine ⟨ends_iff_acyclic.mpr proper.acyclic, fun first named role leads => ?_⟩
    obtain ⟨known, name⟩ := mem_rolesNamed.mp named
    exact proper.arrays role ⟨first, known, name, leads⟩

/-- A role is expanded to its closure exactly if its inheritance has no cycle and its permissions
are arrays; else the query has no answer. -/
theorem expansion_is_closure_iff (db : Database) (memo : Memo) (faithful : Faithful db memo)
    (roleName : String) : ExpandsToClosure db memo roleName ↔ ProperChains db roleName := by
  rw [← resolves_iff, ← resolveRolePermissions_isSome]
  obtain ⟨memo', -, expanded⟩ := expand_eq faithful roleName
  unfold ExpandsToClosure
  rw [expanded]
  constructor
  · rintro ⟨permissions, later, found, -⟩
    obtain ⟨own, resolved, -⟩ := Option.map_eq_some_iff.mp found
    rw [resolved]
    rfl
  · intro ends
    obtain ⟨permissions, resolved⟩ := Option.isSome_iff_exists.mp ends
    refine ⟨permissions, memo', by rw [resolved]; rfl, fun permission => ?_⟩
    rw [mem_resolveRolePermissions resolved]
    constructor
    · rintro ⟨first, known, named, role, own, leads, listed, inside⟩
      exact ⟨role, own, ⟨first, known, named, leads⟩, listed, inside⟩
    · rintro ⟨role, own, ⟨first, known, named, leads⟩, listed, inside⟩
      exact ⟨first, known, named, role, own, leads, listed, inside⟩

/-! ### A chain and a cycle -/

def chainedRole (name permission parent : String) : Role :=
  { id := name, name, permissions := some [permission], inheritsFrom := some parent
    scopeType := "PLATFORM" }

def rolesOnly (roles : List Role) : Database where
  principals := []
  memberships := []
  roles := roles
  roleAssignments := []
  denyAssignments := []

/-- `operator` inherits from `viewer`, which inherits from a role that does not exist. -/
def chainedRoles : Database :=
  rolesOnly [chainedRole "operator" "run:start" "viewer", chainedRole "viewer" "run:read" "guest"]

/-- `operator` and `viewer` inherit from each other. -/
def cyclicRoles : Database :=
  rolesOnly [chainedRole "operator" "run:start" "viewer",
    chainedRole "viewer" "run:read" "operator"]

theorem chained_roles_expand : ExpandsToClosure chainedRoles [] "operator" :=
  (expansion_is_closure_iff chainedRoles [] nofun "operator").mpr
    (resolves_iff.mp (resolveRolePermissions_isSome.mp (by decide)))

theorem cyclic_roles_endless : cyclicRoles.Keyed ∧
    expandRolePermissions cyclicRoles [] "operator" = none ∧
      ¬ ExpandsToClosure cyclicRoles [] "operator" := by
  have endless : expandRolePermissions cyclicRoles [] "operator" = none := by decide
  refine ⟨⟨by decide, by decide, nofun⟩, endless, ?_⟩
  rintro ⟨permissions, memo, found, -⟩
  rw [endless] at found
  cases found

end SyndicateClaw.Authz
