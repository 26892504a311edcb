import SyndicateClaw.Authz.Evaluator

/-! What the evaluator decides: denies first, then the grants in scope. -/

namespace SyndicateClaw.Authz

section

variable (db : Database)

/-! ### Roles -/

def Inherits : Role → Role → Prop := Relation.ReflTransGen (RecursiveQuery.Joins (parents db))

def HasPermission (role : Role) (permission : String) : Prop :=
  ∃ ancestor permissions, Inherits db role ancestor ∧ ancestor.permissions = some permissions ∧
    permission ∈ permissions

/-- The inheritance from the roles of a name ends, and every set of permissions on it is a list. -/
structure Resolves (roleName : String) : Prop where
  ends : RecursiveQuery.Ends (parents db) (rolesNamed db roleName)
  lists : ∀ role ∈ rolesNamed db roleName, ∀ ancestor, Inherits db role ancestor →
    ancestor.permissions.isSome = true

variable {db}

theorem mem_rolesNamed {roleName : String} {role : Role} :
    role ∈ rolesNamed db roleName ↔ role ∈ db.roles ∧ role.name = roleName := by
  unfold rolesNamed
  rw [List.mem_filter, decide_eq_true_eq]

theorem ends_iff {roleName : String} :
    RecursiveQuery.Ends (parents db) (rolesNamed db roleName) ↔
      (RecursiveQuery.rows (parents db) db.roles.length (rolesNamed db roleName)).isSome = true := by
  have closed : ∀ role ∈ db.roles, ∀ other ∈ parents db role, other ∈ db.roles :=
    fun role _ other member => List.mem_of_mem_filter member
  have within : rolesNamed db roleName ⊆ db.roles :=
    fun role member => List.mem_of_mem_filter member
  rw [RecursiveQuery.rows_isSome]
  exact RecursiveQuery.ends_iff closed within

theorem permissionLists_isSome {chain : List Role} : (chain.mapM Role.permissions).isSome = true ↔
    ∀ role ∈ chain, role.permissions.isSome = true := by
  induction chain with
  | nil => simp
  | cons role chain ih =>
      rw [List.mapM_cons, List.forall_mem_cons, ← ih]
      cases role.permissions <;> cases chain.mapM Role.permissions <;> simp

theorem mem_permissionLists {chain : List Role} {lists : List (List String)}
    (read : chain.mapM Role.permissions = some lists) {permission : String} :
    permission ∈ lists.flatten ↔
      ∃ role ∈ chain, ∃ permissions, role.permissions = some permissions ∧
        permission ∈ permissions := by
  induction chain generalizing lists with
  | nil =>
      cases read
      simp
  | cons role chain ih =>
      rw [List.mapM_cons] at read
      cases own : role.permissions with
      | none =>
          rw [own] at read
          cases read
      | some permissions =>
          cases others : chain.mapM Role.permissions with
          | none =>
              rw [own, others] at read
              cases read
          | some later =>
              rw [own, others] at read
              obtain rfl := Option.some.inj read
              rw [List.flatten_cons, List.mem_append, ih others, List.exists_mem_cons_iff, own]
              simp

theorem resolveRolePermissions_isSome {roleName : String} :
    (resolveRolePermissions db roleName).isSome = true ↔ Resolves db roleName := by
  unfold resolveRolePermissions
  cases found : RecursiveQuery.rows (parents db) db.roles.length (rolesNamed db roleName) with
  | none =>
      refine ⟨nofun, fun resolves => ?_⟩
      have ends := ends_iff.mp resolves.ends
      rw [found] at ends
      cases ends
  | some chain =>
      have ends : RecursiveQuery.Ends (parents db) (rolesNamed db roleName) := by
        rw [ends_iff, found]
        rfl
      have lists : (chain.mapM Role.permissions).isSome = true ↔ Resolves db roleName := by
        rw [permissionLists_isSome]
        constructor
        · intro all
          exact ⟨ends, fun role named ancestor leads =>
            all ancestor ((RecursiveQuery.mem_rows found).mpr ⟨role, named, leads⟩)⟩
        · intro resolves ancestor member
          obtain ⟨role, named, leads⟩ := (RecursiveQuery.mem_rows found).mp member
          exact resolves.lists role named ancestor leads
      rw [← lists]
      cases read : chain.mapM Role.permissions <;> simp [read]

theorem mem_resolveRolePermissions {roleName permission : String} {permissions : List String}
    (resolved : resolveRolePermissions db roleName = some permissions) :
    permission ∈ permissions ↔
      ∃ role ∈ db.roles, role.name = roleName ∧ HasPermission db role permission := by
  unfold resolveRolePermissions at resolved
  cases found : RecursiveQuery.rows (parents db) db.roles.length (rolesNamed db roleName) with
  | none =>
      rw [found] at resolved
      cases resolved
  | some chain =>
      cases read : chain.mapM Role.permissions with
      | none =>
          rw [found] at resolved
          simp [read] at resolved
      | some lists =>
          rw [found] at resolved
          simp only [Option.bind_eq_bind, Option.bind_some, read, Option.pure_def,
            Option.some.injEq] at resolved
          rw [← resolved, mem_permissionLists read]
          constructor
          · rintro ⟨ancestor, member, own, listed, inside⟩
            obtain ⟨role, named, leads⟩ := (RecursiveQuery.mem_rows found).mp member
            obtain ⟨known, name⟩ := mem_rolesNamed.mp named
            exact ⟨role, known, name, ancestor, own, leads, listed, inside⟩
          · rintro ⟨role, known, name, ancestor, own, leads, listed, inside⟩
            refine ⟨ancestor, (RecursiveQuery.mem_rows found).mpr ⟨role, ?_, leads⟩, own, listed,
              inside⟩
            exact mem_rolesNamed.mpr ⟨known, name⟩

/-! ### The loop over the assignments -/

variable (db) in
def Faithful (memo : Memo) : Prop :=
  ∀ roleName permissions, Dict.get? memo roleName = some permissions →
    resolveRolePermissions db roleName = some permissions

theorem expand_eq {memo : Memo} (faithful : Faithful db memo) (roleName : String) :
    ∃ memo', Faithful db memo' ∧ expandRolePermissions db memo roleName =
      (resolveRolePermissions db roleName).map fun permissions => (permissions, memo') := by
  unfold expandRolePermissions
  cases known : Dict.get? memo roleName with
  | some permissions =>
      refine ⟨memo, faithful, ?_⟩
      rw [faithful roleName permissions known]
      rfl
  | none =>
      cases resolved : resolveRolePermissions db roleName with
      | none => exact ⟨memo, faithful, rfl⟩
      | some permissions =>
          refine ⟨Dict.set memo roleName permissions, fun other own found => ?_, rfl⟩
          rw [Dict.get?_set] at found
          split at found
          · next same =>
              obtain rfl := Option.some.inj found
              rw [same, resolved]
          · exact faithful other own found

def Assignment.live (scope : Scope) (a : Assignment) : Bool :=
  scopeContains a.scope scope && a.expired != some true

def Assignment.lapsed (scope : Scope) (a : Assignment) : Bool :=
  scopeContains a.scope scope && a.expired == some true

variable (db) in
def Assignment.grants (permission : String) (scope : Scope) (a : Assignment) : Bool :=
  a.live scope && ((resolveRolePermissions db a.roleName).getD []).contains permission

/-- The memo does not show: the loop finds the live assignments whose roles have the permission. -/
theorem findGrants_some {permission : String} {scope : Scope} {memo : Memo}
    (faithful : Faithful db memo) {assignments : List Assignment}
    (resolvable : ∀ a ∈ assignments, a.live scope = true →
      (resolveRolePermissions db a.roleName).isSome = true) :
    findGrants db permission scope memo assignments =
      some ((assignments.filter (Assignment.grants db permission scope)).map Assignment.matched,
        assignments.any (Assignment.lapsed scope)) := by
  induction assignments generalizing memo with
  | nil => rfl
  | cons a rest ih =>
      have later := fun own member => resolvable own (List.mem_cons_of_mem a member)
      unfold findGrants
      by_cases contains : scopeContains a.scope scope = true
      · rw [contains, Bool.not_true, if_neg Bool.false_ne_true]
        by_cases expired : a.expired = some true
        · have skipped : Assignment.grants db permission scope a = false := by
            simp [Assignment.grants, Assignment.live, expired]
          have lapsed : a.lapsed scope = true := by
            simp [Assignment.lapsed, contains, expired]
          rw [if_pos expired, ih faithful later, List.filter_cons_of_neg (by simp [skipped]),
            List.any_cons, lapsed]
          rfl
        · have live : a.live scope = true := by simp [Assignment.live, contains, expired]
          have lapsed : a.lapsed scope = false := by simp [Assignment.lapsed, expired]
          obtain ⟨permissions, resolved⟩ :=
            Option.isSome_iff_exists.mp (resolvable a List.mem_cons_self live)
          obtain ⟨memo', faithful', expanded⟩ := expand_eq faithful a.roleName
          have granted : Assignment.grants db permission scope a =
              decide (permission ∈ permissions) := by
            simp [Assignment.grants, live, resolved]
          rw [if_neg expired, expanded, resolved, List.any_cons, lapsed, Bool.false_or,
            List.filter_cons, granted]
          simp only [Option.map_some, Option.bind_eq_bind, Option.bind_some, ih faithful' later]
          by_cases inside : permission ∈ permissions <;> simp [inside]
      · rw [Bool.not_eq_true] at contains
        have skipped : Assignment.grants db permission scope a = false := by
          simp [Assignment.grants, Assignment.live, contains]
        have lapsed : a.lapsed scope = false := by simp [Assignment.lapsed, contains]
        rw [contains, Bool.not_false, if_pos rfl, ih faithful later,
          List.filter_cons_of_neg (by simp [skipped]), List.any_cons, lapsed, Bool.false_or]

theorem findGrants_none {permission : String} {scope : Scope} {memo : Memo}
    (faithful : Faithful db memo) {assignments : List Assignment} {a : Assignment}
    (member : a ∈ assignments) (live : a.live scope = true)
    (endless : resolveRolePermissions db a.roleName = none) :
    findGrants db permission scope memo assignments = none := by
  induction assignments generalizing memo with
  | nil => cases member
  | cons first rest ih =>
      unfold findGrants
      rcases List.mem_cons.mp member with rfl | later
      · simp only [Assignment.live, Bool.and_eq_true, bne_iff_ne] at live
        obtain ⟨memo', -, expanded⟩ := expand_eq faithful a.roleName
        rw [live.1, Bool.not_true, if_neg Bool.false_ne_true, if_neg live.2, expanded, endless]
        rfl
      · split
        · exact ih faithful later
        split
        · rw [ih faithful later]
          rfl
        obtain ⟨memo', faithful', expanded⟩ := expand_eq faithful first.roleName
        rw [expanded]
        cases resolveRolePermissions db first.roleName with
        | none => rfl
        | some permissions =>
            simp only [Option.map_some, Option.bind_eq_bind, Option.bind_some,
              ih faithful' later, Option.bind_none]

/-! ### The decision -/

section

variable (db : Database) (principalId permission : String) (scope : Scope) (clock : Clock)

/-- A deny of the principal for the permission or for all, unexpired, whose scope contains the
resource's. -/
def DeniedBy (d : DenyAssignment) : Prop :=
  d ∈ db.denyAssignments ∧ d.principalId = principalId ∧ expiredAt d.expiresAt clock.denies = false ∧
    (d.permission = permission ∨ d.permission = "*") ∧ scopeContains d.scope scope = true

/-- An assignment of the principal or of a team of his, neither revoked nor expired, whose scope
contains the resource's, and its role. -/
structure Holds (a : RoleAssignment) (role : Role) : Prop where
  assigned : a ∈ db.roleAssignments
  owner : a.principalId = principalId ∨
    ∃ m ∈ db.memberships, m.principalId = principalId ∧ a.principalId = m.teamId
  current : a.revoked = false
  unexpired : expiredAt a.expiresAt clock.assignments = false
  contains : scopeContains a.scope scope = true
  known : role ∈ db.roles
  role : role.id = a.roleId

/-- `evaluate` returns this decision. -/
def Decides (decision : Decision) : Prop :=
  ∃ result, evaluate db (some principalId) permission (some scope) clock = some result ∧
    result.decision = decision

end

variable {principalId permission : String} {scope : Scope} {clock : Clock}

theorem DeniedBy.narrow {d : DenyAssignment} (denied : DeniedBy db principalId permission scope clock d)
    {narrower : Scope} (contains : scopeContains scope narrower = true) :
    DeniedBy db principalId permission narrower clock d := by
  obtain ⟨member, owner, unexpired, permitted, above⟩ := denied
  exact ⟨member, owner, unexpired, permitted, scopeContains_trans above contains⟩

theorem Holds.narrow {a : RoleAssignment} {role : Role}
    (held : Holds db principalId scope clock a role) {narrower : Scope}
    (contains : scopeContains scope narrower = true) : Holds db principalId narrower clock a role :=
  { held with contains := scopeContains_trans held.contains contains }

theorem checkDenies_eq_nil : checkDenies db principalId permission scope clock.denies = [] ↔
    ¬ ∃ d, DeniedBy db principalId permission scope clock d := by
  unfold checkDenies resolveDenies DeniedBy
  rw [List.map_eq_nil_iff, List.filter_eq_nil_iff]
  simp only [List.mem_filter, Bool.and_eq_true, Bool.or_eq_true, Bool.not_eq_true',
    decide_eq_true_eq, not_exists]
  constructor
  · rintro none d ⟨member, owner, unexpired, permitted, contains⟩
    exact none d ⟨member, owner⟩ ⟨⟨unexpired, permitted⟩, contains⟩
  · rintro none d ⟨member, owner⟩ ⟨⟨unexpired, permitted⟩, contains⟩
    exact none d ⟨member, owner, unexpired, permitted, contains⟩

theorem mem_assignmentsOf {owner source : String} {row : AssignmentRow} :
    row ∈ assignmentsOf db owner source ↔ row.assignment ∈ db.roleAssignments ∧
      row.assignment.principalId = owner ∧ row.assignment.revoked = false ∧
      row.role ∈ db.roles ∧ row.role.id = row.assignment.roleId ∧ row.source = source := by
  unfold assignmentsOf
  simp only [List.mem_flatMap, List.mem_filter, List.mem_map, Bool.and_eq_true, Bool.not_eq_true',
    decide_eq_true_eq]
  constructor
  · rintro ⟨a, ⟨assigned, own, current⟩, role, ⟨known, same⟩, rfl⟩
    exact ⟨assigned, own, current, known, same, rfl⟩
  · rintro ⟨assigned, own, current, known, same, rfl⟩
    exact ⟨row.assignment, ⟨assigned, own, current⟩, row.role, ⟨known, same⟩, rfl⟩

theorem exists_row {a : RoleAssignment} {role : Role} :
    (∃ row ∈ resolvePermissions db principalId, row.assignment = a ∧ row.role = role) ↔
      a ∈ db.roleAssignments ∧ a.revoked = false ∧ role ∈ db.roles ∧ role.id = a.roleId ∧
        (a.principalId = principalId ∨
          ∃ m ∈ db.memberships, m.principalId = principalId ∧ a.principalId = m.teamId) := by
  unfold resolvePermissions
  simp only [List.mem_append, List.mem_flatMap, List.mem_filter, decide_eq_true_eq,
    mem_assignmentsOf]
  constructor
  · rintro ⟨row, (⟨assigned, own, current, known, same, -⟩ |
      ⟨m, ⟨member, belongs⟩, assigned, own, current, known, same, -⟩), rfl, rfl⟩
    · exact ⟨assigned, current, known, same, .inl own⟩
    · exact ⟨assigned, current, known, same, .inr ⟨m, member, belongs, own⟩⟩
  · rintro ⟨assigned, current, known, same, own | ⟨m, member, belongs, own⟩⟩
    · exact ⟨⟨a, role, "direct"⟩, .inl ⟨assigned, own, current, known, same, rfl⟩, rfl, rfl⟩
    · exact ⟨⟨a, role, "team:" ++ m.teamId⟩,
        .inr ⟨m, ⟨member, belongs⟩, assigned, own, current, known, same, rfl⟩, rfl, rfl⟩

theorem exists_live {property : String → Prop} :
    (∃ a ∈ readAssignments db principalId clock.assignments,
      a.live scope = true ∧ property a.roleName) ↔
      ∃ a role, Holds db principalId scope clock a role ∧ property role.name := by
  unfold readAssignments
  simp only [List.mem_map]
  constructor
  · rintro ⟨-, ⟨row, member, rfl⟩, live, holds⟩
    obtain ⟨assigned, current, known, same, owner⟩ := exists_row.mp ⟨row, member, rfl, rfl⟩
    simp only [Assignment.live, AssignmentRow.read, Bool.and_eq_true, bne_iff_ne, ne_eq,
      Option.some.injEq, Bool.not_eq_true] at live
    exact ⟨row.assignment, row.role,
      ⟨assigned, owner, current, live.2, live.1, known, same⟩, holds⟩
  · rintro ⟨a, role, held, holds⟩
    obtain ⟨row, member, rfl, rfl⟩ :=
      exists_row.mpr ⟨held.assigned, held.current, held.known, held.role, held.owner⟩
    refine ⟨row.read clock.assignments, ⟨row, member, rfl⟩, ?_, holds⟩
    simp only [Assignment.live, AssignmentRow.read, Bool.and_eq_true, bne_iff_ne, ne_eq,
      Option.some.injEq, Bool.not_eq_true]
    exact ⟨held.contains, held.unexpired⟩

theorem faithful_nil : Faithful db [] := nofun

theorem conclude_decision {cacheHit hasExpired : Bool} {matched : List MatchedAssignment} :
    (conclude cacheHit matched hasExpired).decision = .allow ↔ matched ≠ [] := by
  cases matched <;> simp [conclude, AuthzResult.denied]

theorem evaluate_denied {d : DenyAssignment} (denied : DeniedBy db principalId permission scope clock d) :
    Decides db principalId permission scope clock .deny := by
  unfold Decides evaluate
  cases found : checkDenies db principalId permission scope clock.denies with
  | nil => exact absurd ⟨d, denied⟩ (checkDenies_eq_nil.mp found)
  | cons first rest =>
      simp only [Option.getD_some, found]
      exact ⟨_, rfl, rfl⟩

theorem evaluate_undenied (free : ¬ ∃ d, DeniedBy db principalId permission scope clock d) :
    evaluate db (some principalId) permission (some scope) clock =
      decideGrants db permission scope (readAssignments db principalId clock.assignments) false := by
  unfold evaluate
  simp only [Option.getD_some, checkDenies_eq_nil.mpr free]

theorem grants_iff {a : Assignment} (live : a.live scope = true)
    (resolves : (resolveRolePermissions db a.roleName).isSome = true) :
    Assignment.grants db permission scope a = true ↔
      ∃ twin ∈ db.roles, twin.name = a.roleName ∧ HasPermission db twin permission := by
  obtain ⟨permissions, resolved⟩ := Option.isSome_iff_exists.mp resolves
  rw [← mem_resolveRolePermissions resolved]
  simp [Assignment.grants, live, resolved]

theorem evaluate_stuck (free : ¬ ∃ d, DeniedBy db principalId permission scope clock d)
    {a : RoleAssignment} {role : Role} (held : Holds db principalId scope clock a role)
    (endless : ¬ Resolves db role.name) :
    evaluate db (some principalId) permission (some scope) clock = none := by
  obtain ⟨own, member, live, stuck⟩ := (@exists_live db principalId scope clock
    fun name => ¬ Resolves db name).mpr ⟨a, role, held, endless⟩
  have unresolved : resolveRolePermissions db own.roleName = none := by
    rw [← resolveRolePermissions_isSome] at stuck
    simpa using stuck
  rw [evaluate_undenied free, decideGrants, findGrants_none faithful_nil member live unresolved]
  rfl

/-- What `ALLOW` means for the code: roles are expanded by their names. -/
theorem allows_iff : Decides db principalId permission scope clock .allow ↔
    (¬ ∃ d, DeniedBy db principalId permission scope clock d) ∧
    (∀ a role, Holds db principalId scope clock a role → Resolves db role.name) ∧
    ∃ a role, Holds db principalId scope clock a role ∧
      ∃ twin ∈ db.roles, twin.name = role.name ∧ HasPermission db twin permission := by
  by_cases free : ∃ d, DeniedBy db principalId permission scope clock d
  · obtain ⟨d, denied⟩ := free
    obtain ⟨result, returned, deny⟩ := evaluate_denied denied
    constructor
    · rintro ⟨other, same, allow⟩
      rw [returned] at same
      obtain rfl := Option.some.inj same
      rw [deny] at allow
      cases allow
    · rintro ⟨none, -⟩
      exact absurd ⟨d, denied⟩ none
  · unfold Decides
    by_cases resolvable : ∀ a role, Holds db principalId scope clock a role → Resolves db role.name
    · rw [evaluate_undenied free]
      unfold decideGrants
      have all : ∀ a ∈ readAssignments db principalId clock.assignments, a.live scope = true →
          (resolveRolePermissions db a.roleName).isSome = true := by
        intro a member live
        obtain ⟨own, role, held, same⟩ := (@exists_live db principalId scope clock
          fun name => name = a.roleName).mp ⟨a, member, live, rfl⟩
        rw [← same]
        exact resolveRolePermissions_isSome.mpr (resolvable own role held)
      rw [findGrants_some faithful_nil all]
      simp only [Option.map_some, Option.some.injEq, exists_eq_left', conclude_decision, ne_eq,
        List.map_eq_nil_iff, List.filter_eq_nil_iff, not_forall, not_not, exists_prop]
      have granted := @exists_live db principalId scope clock fun name =>
        ∃ twin ∈ db.roles, twin.name = name ∧ HasPermission db twin permission
      rw [← granted]
      constructor
      · rintro ⟨a, member, grants⟩
        have live : a.live scope = true := by
          simp only [Assignment.grants, Bool.and_eq_true] at grants
          exact grants.1
        exact ⟨free, resolvable, a, member, live, (grants_iff live (all a member live)).mp grants⟩
      · rintro ⟨-, -, a, member, live, has⟩
        exact ⟨a, member, (grants_iff live (all a member live)).mpr has⟩
    · push Not at resolvable
      obtain ⟨own, role, held, endless⟩ := resolvable
      constructor
      · rintro ⟨result, returned, -⟩
        rw [evaluate_stuck free held endless] at returned
        cases returned
      · rintro ⟨-, all, -⟩
        exact absurd (all own role held) endless

/-- A `DENY` without an explicit deny means that nothing in scope grants. -/
theorem denies_grantless (denies : Decides db principalId permission scope clock .deny)
    (free : ¬ ∃ d, DeniedBy db principalId permission scope clock d) {a : RoleAssignment}
    {role : Role} (held : Holds db principalId scope clock a role) {twin : Role}
    (known : twin ∈ db.roles) (named : twin.name = role.name) :
    ¬ HasPermission db twin permission := by
  intro has
  have allows : Decides db principalId permission scope clock .allow := by
    refine allows_iff.mpr ⟨free, ?_, a, role, held, twin, known, named, has⟩
    intro own ownRole ownHeld
    by_contra endless
    obtain ⟨result, returned, -⟩ := denies
    rw [evaluate_stuck free ownHeld endless] at returned
    cases returned
  obtain ⟨result, returned, deny⟩ := denies
  obtain ⟨other, same, allow⟩ := allows
  rw [returned] at same
  obtain rfl := Option.some.inj same
  rw [deny] at allow
  cases allow

end

end SyndicateClaw.Authz
