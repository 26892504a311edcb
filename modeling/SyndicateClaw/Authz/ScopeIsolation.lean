import SyndicateClaw.Authz.Grants

/-! Scopes in a tree of tenants, teams and namespaces: `_scope_contains` looks at the types of two
scopes, and at their identifiers only where the types are the same. -/

namespace SyndicateClaw.Authz

structure Hierarchy where
  tenantOf : String → String
  teamOf : String → String

namespace Hierarchy

variable (tree : Hierarchy)

def path (s : Scope) : List Scope :=
  if s.scopeType = "TENANT" then [s]
  else if s.scopeType = "TEAM" then
    [s, { scopeType := "TENANT", scopeId := tree.tenantOf s.scopeId }]
  else if s.scopeType = "NAMESPACE" then
    [s, { scopeType := "TEAM", scopeId := tree.teamOf s.scopeId },
      { scopeType := "TENANT", scopeId := tree.tenantOf (tree.teamOf s.scopeId) }]
  else []

def AssignedTo (tenant : String) (s : Scope) : Prop :=
  s = { scopeType := "TENANT", scopeId := tenant } ∨
    s.scopeType = "TEAM" ∧ tree.tenantOf s.scopeId = tenant

def InTenant (tenant : String) (s : Scope) : Prop :=
  { scopeType := "TENANT", scopeId := tenant } ∈ tree.path s

end Hierarchy

def Database.assign (db : Database) (a : RoleAssignment) : Database :=
  { db with roleAssignments := db.roleAssignments ++ [a] }

/-- No assignment at the one scope brings an `ALLOW` for the other. -/
def NeverGrants (outer inner : Scope) : Prop :=
  ∀ db principalId permission clock a, a.scope = outer →
    Decides (db.assign a) principalId permission inner clock .allow →
      Decides db principalId permission inner clock .allow

theorem self_mem_path (tree : Hierarchy) {s : Scope} (known : s.scopeType ∈ narrowTypes) :
    s ∈ tree.path s := by
  unfold Hierarchy.path
  simp only [narrowTypes, List.mem_cons, List.not_mem_nil, or_false] at known
  split_ifs with tenant team namespace_
  · exact List.mem_cons_self
  · exact List.mem_cons_self
  · exact List.mem_cons_self
  · exact absurd known (by simp [tenant, team, namespace_])

theorem broader_of_path {tree : Hierarchy} {outer inner : Scope} (above : outer ∈ tree.path inner) :
    outer = inner ∧ inner.scopeType ∈ narrowTypes ∨
      BroaderType outer.scopeType inner.scopeType := by
  unfold Hierarchy.path at above
  split_ifs at above with tenant team namespace_
  · exact .inl ⟨List.mem_singleton.mp above, by simp [narrowTypes, tenant]⟩
  · simp only [List.mem_cons, List.not_mem_nil, or_false] at above
    rcases above with rfl | rfl
    · exact .inl ⟨rfl, by simp [narrowTypes, team]⟩
    · exact .inr (.inl ⟨rfl, .inl team⟩)
  · simp only [List.mem_cons, List.not_mem_nil, or_false] at above
    rcases above with rfl | rfl | rfl
    · exact .inl ⟨rfl, by simp [narrowTypes, namespace_]⟩
    · exact .inr (.inr ⟨rfl, namespace_⟩)
    · exact .inr (.inl ⟨rfl, .inr namespace_⟩)
  · cases above

theorem contains_subtree_iff (tree : Hierarchy) (outer inner : Scope) :
    (scopeContains outer inner = true ↔
      outer.scopeType = "PLATFORM" ∨ outer ∈ tree.path inner) ↔
    ¬ BroaderType outer.scopeType inner.scopeType ∨ outer ∈ tree.path inner := by
  rw [scopeContains_iff]
  constructor
  · intro same
    by_cases broader : BroaderType outer.scopeType inner.scopeType
    · rcases same.mp (.inr (.inl broader)) with platform | above
      · rw [platform] at broader
        exact absurd broader (by simp [BroaderType])
      · exact .inr above
    · exact .inl broader
  · intro condition
    constructor
    · rintro (platform | broader | ⟨rfl, known⟩)
      · exact .inl platform
      · exact .inr (condition.resolve_left fun narrower => narrower broader)
      · exact .inr (self_mem_path tree known)
    · rintro (platform | above)
      · exact .inl platform
      · rcases broader_of_path above with ⟨rfl, known⟩ | broader
        · exact .inr (.inr ⟨rfl, known⟩)
        · exact .inr (.inl broader)

/-! ### Assignments in another tenant -/

theorem tenant_of_path {tree : Hierarchy} {tenant : String} {s : Scope}
    (inside : tree.InTenant tenant s) (team : s.scopeType = "TEAM") :
    tree.tenantOf s.scopeId = tenant := by
  unfold Hierarchy.InTenant Hierarchy.path at inside
  rw [if_neg (by simp [team]), if_pos team] at inside
  simp only [List.mem_cons, List.not_mem_nil, or_false] at inside
  rcases inside with rfl | same
  · exact absurd team (by simp)
  · exact (Scope.mk.inj same).2.symm

theorem tenant_self {tree : Hierarchy} {tenant other : String}
    (inside : tree.InTenant tenant { scopeType := "TENANT", scopeId := other }) :
    other = tenant := by
  unfold Hierarchy.InTenant Hierarchy.path at inside
  rw [if_pos rfl, List.mem_singleton] at inside
  exact (Scope.mk.inj inside).2.symm

theorem contains_across {tree : Hierarchy} {tenant other : String} (distinct : tenant ≠ other)
    {outer inner : Scope} (assigned : tree.AssignedTo tenant outer)
    (inside : tree.InTenant other inner) : scopeContains outer inner = true ↔
      BroaderType outer.scopeType inner.scopeType := by
  rw [scopeContains_iff]
  constructor
  · rintro (platform | broader | ⟨rfl, -⟩)
    · rcases assigned with rfl | ⟨team, -⟩
      · exact absurd platform (by simp)
      · exact absurd (team.symm.trans platform) (by simp)
    · exact broader
    · rcases assigned with rfl | ⟨team, own⟩
      · exact absurd (tenant_self inside) distinct
      · exact absurd (own.symm.trans (tenant_of_path inside team)) distinct
  · exact fun broader => .inr (.inl broader)

theorem neverGrants_of_outside {outer inner : Scope} (outside : scopeContains outer inner = false) :
    NeverGrants outer inner := by
  intro db principalId permission clock a own allows
  obtain ⟨free, resolves, held, role, holds, twin, known, named, has⟩ := allows_iff.mp allows
  refine allows_iff.mpr ⟨free, fun other otherRole otherHolds => ?_, held, role, ?_, twin, known,
    named, has⟩
  · have kept := resolves other otherRole
      { otherHolds with assigned := List.mem_append_left _ otherHolds.assigned }
    have resolved := resolveRolePermissions_isSome.mpr kept
    exact resolveRolePermissions_isSome.mp resolved
  · rcases List.mem_append.mp holds.assigned with before | last
    · exact { holds with assigned := before }
    · obtain rfl := List.mem_singleton.mp last
      have contains := holds.contains
      rw [own, outside] at contains
      cases contains

def oneRole : Database where
  principals := [{ id := "alice", name := "alice", enabled := true }]
  memberships := []
  roles :=
    [{ id := "reader", name := "reader", permissions := some ["run:read"], inheritsFrom := none
       scopeType := "PLATFORM" }]
  roleAssignments := []
  denyAssignments := []

def readerAt (s : Scope) : RoleAssignment :=
  { id := "assignment", principalId := "alice", roleId := "reader", scopeType := s.scopeType
    scopeId := s.scopeId, expiresAt := none, revoked := false }

theorem oneRole_resolves (s : Scope) : Resolves (oneRole.assign (readerAt s)) "reader" :=
  resolveRolePermissions_isSome.mp rfl

theorem reader_allowed {outer inner : Scope} (contains : scopeContains outer inner = true) :
    Decides (oneRole.assign (readerAt outer)) "alice" "run:read" inner
      { denies := 0, assignments := 0 } .allow := by
  have held : Holds (oneRole.assign (readerAt outer)) "alice" inner
      { denies := 0, assignments := 0 } (readerAt outer)
      { id := "reader", name := "reader", permissions := some ["run:read"], inheritsFrom := none
        scopeType := "PLATFORM" } :=
    ⟨List.mem_singleton_self _, .inl rfl, rfl, rfl, contains, List.mem_singleton_self _, rfl⟩
  refine allows_iff.mpr ⟨?_, fun a role holds => ?_, _, _, held, _, held.known, rfl, ?_⟩
  · rintro ⟨d, member, -⟩
    cases member
  · obtain rfl := List.mem_singleton.mp holds.known
    exact oneRole_resolves outer
  · exact ⟨_, _, .refl, rfl, List.mem_singleton_self _⟩

theorem oneRole_not_allowed (s : Scope) : ¬ Decides oneRole "alice" "run:read" s
    { denies := 0, assignments := 0 } .allow := by
  intro allows
  obtain ⟨-, -, a, role, held, -⟩ := allows_iff.mp allows
  cases held.assigned

/-- In every tree, containment is the subtree exactly where the outer type is not strictly broader
or the inner scope is in the subtree; and of two tenants, the assignments of the one never grant
in the other exactly where their type is not strictly broader than the resource's. -/
theorem scopes_isolate_iff (tree : Hierarchy) :
    (∀ outer inner, (scopeContains outer inner = true ↔
      outer.scopeType = "PLATFORM" ∨ outer ∈ tree.path inner) ↔
        ¬ BroaderType outer.scopeType inner.scopeType ∨ outer ∈ tree.path inner) ∧
    ∀ tenant other, tenant ≠ other → ∀ outer inner, tree.AssignedTo tenant outer →
      tree.InTenant other inner →
        (NeverGrants outer inner ↔ ¬ BroaderType outer.scopeType inner.scopeType) := by
  refine ⟨contains_subtree_iff tree, fun tenant other distinct outer inner assigned inside => ?_⟩
  have across := contains_across distinct assigned inside
  constructor
  · intro never broader
    refine oneRole_not_allowed inner (never oneRole "alice" "run:read" _ (readerAt outer) rfl ?_)
    exact reader_allowed (across.mpr broader)
  · intro narrower
    refine neverGrants_of_outside ?_
    rw [← Bool.not_eq_true, across]
    exact narrower

/-- A reader of the tenant acme reads in a team of the tenant globex. -/
theorem tenant_scope_leaks :
    ({ tenantOf := fun _ => "globex", teamOf := fun _ => "ops" } : Hierarchy).InTenant "globex"
      { scopeType := "TEAM", scopeId := "ops" } ∧
    scopeContains { scopeType := "TENANT", scopeId := "acme" }
      { scopeType := "TEAM", scopeId := "ops" } = true ∧
    ({ scopeType := "TENANT", scopeId := "acme" } : Scope) ∉
      ({ tenantOf := fun _ => "globex", teamOf := fun _ => "ops" } : Hierarchy).path
        { scopeType := "TEAM", scopeId := "ops" } ∧
    Decides (oneRole.assign (readerAt { scopeType := "TENANT", scopeId := "acme" })) "alice"
      "run:read" { scopeType := "TEAM", scopeId := "ops" } { denies := 0, assignments := 0 }
      .allow := by
  refine ⟨?_, by decide, by decide, reader_allowed (by decide)⟩
  exact List.mem_cons_of_mem _ (List.mem_singleton_self _)

end SyndicateClaw.Authz
