import SyndicateClaw.Authz.Cache
import SyndicateClaw.Authz.ScopeIsolation

/-! A cache hit does not know which assignments have expired. -/

namespace SyndicateClaw.Authz

def AuthzResult.verdict (result : AuthzResult) : Decision × Option DenyReason :=
  (result.decision, result.denyReason)

/-- The evaluation with Redis gives the decision and the reason of the one without. -/
def Transparent (db : Database) (client : Client) (store : Redis) (now : Time)
    (principalId : Option String) (permission : String) (resourceScope : Option Scope)
    (clock : Clock) : Prop :=
  (evaluateCached db client store now principalId permission resourceScope clock).1.map
      AuthzResult.verdict =
    (evaluate db principalId permission resourceScope clock).map AuthzResult.verdict

section

variable (db : Database) (principalId permission : String) (scope : Scope) (clock : Clock)

/-- An assignment as in `Holds`, but expired. -/
structure Lapsed (a : RoleAssignment) (role : Role) : Prop where
  assigned : a ∈ db.roleAssignments
  owner : a.principalId = principalId ∨
    ∃ m ∈ db.memberships, m.principalId = principalId ∧ a.principalId = m.teamId
  current : a.revoked = false
  expired : expiredAt a.expiresAt clock.assignments = true
  contains : scopeContains a.scope scope = true
  known : role ∈ db.roles
  role : role.id = a.roleId

def GrantedByName : Prop :=
  ∃ a role, Holds db principalId scope clock a role ∧
    ∃ twin ∈ db.roles, twin.name = role.name ∧ HasPermission db twin permission

/-- Something is stored for the principal that a client which returns text reads. -/
structure Cached (client : Client) (store : Redis) (now : Time) : Prop where
  text : client = .str
  version : (store.get now (versionKey principalId)).isSome = true
  entry : (store.get now (permsKey principalId ['1'])).isSome = true

/-- A deny applies or nothing is cached, or nothing in scope has expired, or that makes no
difference: an unexpired role cannot be expanded, or one grants and the expired ones can be
expanded. -/
def CacheHarmless (client : Client) (store : Redis) (now : Time) : Prop :=
  (∃ d, DeniedBy db principalId permission scope clock d) ∨
  ¬ Cached principalId client store now ∨
  (¬ ∃ a role, Lapsed db principalId scope clock a role) ∨
  (∃ a role, Holds db principalId scope clock a role ∧ ¬ Resolves db role.name) ∨
  (GrantedByName db principalId permission scope clock ∧
    ∀ a role, Lapsed db principalId scope clock a role → Resolves db role.name)

end

variable {db : Database} {principalId permission : String} {scope : Scope} {clock : Clock}

theorem exists_lapsed (property : String → Prop) :
    (∃ a ∈ readAssignments db principalId clock.assignments,
      a.lapsed scope = true ∧ property a.roleName) ↔
      ∃ a role, Lapsed db principalId scope clock a role ∧ property role.name := by
  unfold readAssignments
  simp only [List.mem_map]
  constructor
  · rintro ⟨-, ⟨row, member, rfl⟩, lapsed, holds⟩
    obtain ⟨assigned, current, known, same, owner⟩ := exists_row.mp ⟨row, member, rfl, rfl⟩
    simp only [Assignment.lapsed, AssignmentRow.read, Bool.and_eq_true, beq_iff_eq,
      Option.some.injEq] at lapsed
    exact ⟨row.assignment, row.role,
      ⟨assigned, owner, current, lapsed.2, lapsed.1, known, same⟩, holds⟩
  · rintro ⟨a, role, held, holds⟩
    obtain ⟨row, member, rfl, rfl⟩ :=
      exists_row.mpr ⟨held.assigned, held.current, held.known, held.role, held.owner⟩
    refine ⟨row.read clock.assignments, ⟨row, member, rfl⟩, ?_, holds⟩
    simp only [Assignment.lapsed, AssignmentRow.read, Bool.and_eq_true, beq_iff_eq,
      Option.some.injEq]
    exact ⟨held.contains, held.expired⟩

theorem exists_stored (property : String → Prop) :
    (∃ a ∈ storedAssignments db principalId, a.live scope = true ∧ property a.roleName) ↔
      (∃ a ∈ readAssignments db principalId clock.assignments,
        a.live scope = true ∧ property a.roleName) ∨
      ∃ a ∈ readAssignments db principalId clock.assignments,
        a.lapsed scope = true ∧ property a.roleName := by
  unfold readAssignments storedAssignments
  simp only [List.mem_map]
  constructor
  · rintro ⟨-, ⟨row, member, rfl⟩, live, holds⟩
    have contains : scopeContains row.assignment.scope scope = true := by
      simp only [Assignment.live, Bool.and_eq_true] at live
      exact live.1
    by_cases expired : expiredAt row.assignment.expiresAt clock.assignments = true
    · refine .inr ⟨row.read clock.assignments, ⟨row, member, rfl⟩, ?_, holds⟩
      simp only [Assignment.lapsed, AssignmentRow.read, Bool.and_eq_true, beq_iff_eq,
        Option.some.injEq]
      exact ⟨contains, expired⟩
    · refine .inl ⟨row.read clock.assignments, ⟨row, member, rfl⟩, ?_, holds⟩
      simp only [Assignment.live, AssignmentRow.read, Bool.and_eq_true, bne_iff_ne, ne_eq,
        Option.some.injEq]
      exact ⟨contains, expired⟩
  · have inScope : ∀ row ∈ resolvePermissions db principalId,
        scopeContains (row.read clock.assignments).scope scope = true → property row.role.name →
        ∃ a, (∃ own ∈ resolvePermissions db principalId,
          { own.read 0 with expired := none } = a) ∧ a.live scope = true ∧ property a.roleName := by
      intro row member contains holds
      refine ⟨_, ⟨row, member, rfl⟩, ?_, holds⟩
      simp only [Assignment.live, Bool.and_eq_true]
      exact ⟨contains, rfl⟩
    rintro (⟨-, ⟨row, member, rfl⟩, live, holds⟩ | ⟨-, ⟨row, member, rfl⟩, lapsed, holds⟩)
    · simp only [Assignment.live, Bool.and_eq_true] at live
      exact inScope row member live.1 holds
    · simp only [Assignment.lapsed, Bool.and_eq_true] at lapsed
      exact inScope row member lapsed.1 holds

/-! ### Verdicts -/

def verdictOf (grants lapsed : Bool) : Decision × Option DenyReason :=
  if grants then (.allow, none)
  else (.deny, some (if lapsed then .expiredAssignmentsOnly else .noMatchingGrant))

theorem conclude_verdict (cacheHit hasExpired : Bool) (matched : List MatchedAssignment) :
    (conclude cacheHit matched hasExpired).verdict = verdictOf (!matched.isEmpty) hasExpired := by
  cases matched <;> rfl

theorem decideGrants_verdict {assignments : List Assignment} (cacheHit : Bool)
    (resolvable : ∀ a ∈ assignments, a.live scope = true →
      (resolveRolePermissions db a.roleName).isSome = true) :
    (decideGrants db permission scope assignments cacheHit).map AuthzResult.verdict =
      some (verdictOf (assignments.any (Assignment.grants db permission scope))
        (assignments.any (Assignment.lapsed scope))) := by
  have nonempty : (!((assignments.filter (Assignment.grants db permission scope)).map
      Assignment.matched).isEmpty) =
      assignments.any (Assignment.grants db permission scope) := by
    rw [Bool.eq_iff_iff, List.any_eq_true]
    simp
  unfold decideGrants
  rw [findGrants_some faithful_nil resolvable, Option.map_some, Option.map_some, conclude_verdict,
    nonempty]

theorem any_grants_iff {assignments : List Assignment}
    (resolvable : ∀ a ∈ assignments, a.live scope = true →
      (resolveRolePermissions db a.roleName).isSome = true) :
    assignments.any (Assignment.grants db permission scope) = true ↔
      ∃ a ∈ assignments, a.live scope = true ∧
        ∃ twin ∈ db.roles, twin.name = a.roleName ∧ HasPermission db twin permission := by
  rw [List.any_eq_true]
  constructor
  · rintro ⟨a, member, grants⟩
    have live : a.live scope = true := by
      simp only [Assignment.grants, Bool.and_eq_true] at grants
      exact grants.1
    exact ⟨a, member, live, (grants_iff live (resolvable a member live)).mp grants⟩
  · rintro ⟨a, member, live, has⟩
    exact ⟨a, member, (grants_iff live (resolvable a member live)).mpr has⟩

theorem read_verdict (permission : String)
    (resolves : ∀ a role, Holds db principalId scope clock a role → Resolves db role.name) :
    ∃ grants lapsed,
      (decideGrants db permission scope (readAssignments db principalId clock.assignments)
        false).map AuthzResult.verdict = some (verdictOf grants lapsed) ∧
      (grants = true ↔ GrantedByName db principalId permission scope clock) ∧
      (lapsed = true ↔ ∃ a role, Lapsed db principalId scope clock a role) := by
  have resolvable : ∀ a ∈ readAssignments db principalId clock.assignments,
      a.live scope = true → (resolveRolePermissions db a.roleName).isSome = true := by
    intro a member live
    obtain ⟨own, role, held, same⟩ := (@exists_live db principalId scope clock
      fun name => name = a.roleName).mp ⟨a, member, live, rfl⟩
    rw [← same]
    exact resolveRolePermissions_isSome.mpr (resolves own role held)
  refine ⟨_, _, decideGrants_verdict false resolvable, ?_, ?_⟩
  · rw [any_grants_iff resolvable]
    exact @exists_live db principalId scope clock fun name =>
      ∃ twin ∈ db.roles, twin.name = name ∧ HasPermission db twin permission
  · rw [List.any_eq_true]
    simpa only [and_true] using @exists_lapsed db principalId scope clock fun _ => True

theorem stored_verdict (permission : String)
    (resolves : ∀ a role, Holds db principalId scope clock a role → Resolves db role.name)
    (lapsed : ∀ a role, Lapsed db principalId scope clock a role → Resolves db role.name) :
    ∃ grants,
      (decideGrants db permission scope (storedAssignments db principalId) true).map
        AuthzResult.verdict = some (verdictOf grants false) ∧
      (grants = true ↔ GrantedByName db principalId permission scope clock ∨
        ∃ a role, Lapsed db principalId scope clock a role ∧
          ∃ twin ∈ db.roles, twin.name = role.name ∧ HasPermission db twin permission) := by
  have resolvable : ∀ a ∈ storedAssignments db principalId,
      a.live scope = true → (resolveRolePermissions db a.roleName).isSome = true := by
    intro a member live
    have resolved : Resolves db a.roleName := by
      rcases (@exists_stored db principalId scope clock fun name => name = a.roleName).mp
        ⟨a, member, live, rfl⟩ with read | read
      · obtain ⟨own, role, held, same⟩ := (@exists_live db principalId scope clock
          fun name => name = a.roleName).mp read
        exact same ▸ resolves own role held
      · obtain ⟨own, role, held, same⟩ := (exists_lapsed fun name => name = a.roleName).mp read
        exact same ▸ lapsed own role held
    exact resolveRolePermissions_isSome.mpr resolved
  have fresh : (storedAssignments db principalId).any (Assignment.lapsed scope) = false := by
    unfold storedAssignments
    rw [List.any_map, List.any_eq_false]
    intro row _
    simp [Assignment.lapsed]
  refine ⟨_, fresh ▸ decideGrants_verdict true resolvable, ?_⟩
  rw [any_grants_iff resolvable, @exists_stored db principalId scope clock fun name =>
    ∃ twin ∈ db.roles, twin.name = name ∧ HasPermission db twin permission]
  exact or_congr
    (@exists_live db principalId scope clock fun name =>
      ∃ twin ∈ db.roles, twin.name = name ∧ HasPermission db twin permission)
    (@exists_lapsed db principalId scope clock fun name =>
      ∃ twin ∈ db.roles, twin.name = name ∧ HasPermission db twin permission)

theorem stored_stuck {a : RoleAssignment} {role : Role}
    (inScope : Holds db principalId scope clock a role ∨ Lapsed db principalId scope clock a role)
    (endless : ¬ Resolves db role.name) :
    decideGrants db permission scope (storedAssignments db principalId) true = none := by
  obtain ⟨own, member, live, stuck⟩ := (@exists_stored db principalId scope clock
    fun name => ¬ Resolves db name).mpr (inScope.imp
      (fun held => (@exists_live db principalId scope clock fun name => ¬ Resolves db name).mpr
        ⟨a, role, held, endless⟩)
      fun lapsed => (exists_lapsed fun name => ¬ Resolves db name).mpr ⟨a, role, lapsed, endless⟩)
  have unresolved : resolveRolePermissions db own.roleName = none := by
    rw [← resolveRolePermissions_isSome] at stuck
    simpa using stuck
  rw [decideGrants, findGrants_none faithful_nil member live unresolved]
  rfl

theorem read_stuck {a : RoleAssignment} {role : Role}
    (held : Holds db principalId scope clock a role) (endless : ¬ Resolves db role.name) :
    decideGrants db permission scope (readAssignments db principalId clock.assignments) false =
      none := by
  obtain ⟨own, member, live, stuck⟩ := (@exists_live db principalId scope clock
    fun name => ¬ Resolves db name).mpr ⟨a, role, held, endless⟩
  have unresolved : resolveRolePermissions db own.roleName = none := by
    rw [← resolveRolePermissions_isSome] at stuck
    simpa using stuck
  rw [decideGrants, findGrants_none faithful_nil member live unresolved]
  rfl

/-- The same verdict comes from what is stored and from what is read. -/
def Agree (db : Database) (principalId permission : String) (scope : Scope) (clock : Clock) :
    Prop :=
  (decideGrants db permission scope (storedAssignments db principalId) true).map
      AuthzResult.verdict =
    (decideGrants db permission scope (readAssignments db principalId clock.assignments) false).map
      AuthzResult.verdict

theorem agree_of_stuck {a : RoleAssignment} {role : Role}
    (held : Holds db principalId scope clock a role) (endless : ¬ Resolves db role.name) :
    Agree db principalId permission scope clock := by
  unfold Agree
  rw [stored_stuck (.inl held) endless, read_stuck held endless]

theorem disagree_of_lapsed
    (resolves : ∀ a role, Holds db principalId scope clock a role → Resolves db role.name)
    {a : RoleAssignment} {role : Role} (lapsed : Lapsed db principalId scope clock a role)
    (endless : ¬ Resolves db role.name) : ¬ Agree db principalId permission scope clock := by
  obtain ⟨grants, expired, read, -⟩ := read_verdict permission resolves
  unfold Agree
  rw [stored_stuck (.inr lapsed) endless, read]
  exact nofun

theorem agree_iff
    (resolves : ∀ a role, Holds db principalId scope clock a role → Resolves db role.name)
    (lapsed : ∀ a role, Lapsed db principalId scope clock a role → Resolves db role.name) :
    Agree db principalId permission scope clock ↔
      (¬ ∃ a role, Lapsed db principalId scope clock a role) ∨
        GrantedByName db principalId permission scope clock := by
  obtain ⟨grants, expired, read, granting, expiring⟩ := read_verdict permission resolves
  obtain ⟨storedGrants, stored, storedGranting⟩ := stored_verdict permission resolves lapsed
  rw [← granting] at storedGranting
  unfold Agree
  rw [read, stored, Option.some.injEq, ← granting, ← expiring]
  cases expired with
  | true =>
      cases grants with
      | true =>
          have also : storedGrants = true := storedGranting.mpr (.inl rfl)
          rw [also]
          simp [verdictOf]
      | false => cases storedGrants <;> simp [verdictOf]
  | false =>
      have none : ¬ ∃ a role, Lapsed db principalId scope clock a role := by
        rw [← expiring]
        exact Bool.false_ne_true
      have same : storedGrants = grants := by
        rw [Bool.eq_iff_iff, storedGranting]
        refine or_iff_left fun grantsLapsed => none ?_
        obtain ⟨a, role, own, -⟩ := grantsLapsed
        exact ⟨a, role, own⟩
      simp [same]

/-! ### Hits and misses -/

section

variable {client : Client} {store : Redis} {now : Time}

theorem cacheGet_isSome (filled : Filled db store) :
    (cacheGet client store now principalId).isSome = true ↔
      Cached principalId client store now := by
  constructor
  · intro hit
    cases client with
    | bytes =>
        rw [cacheGet_bytes filled] at hit
        cases hit
    | str =>
        unfold cacheGet at hit
        split at hit
        · cases hit
        next version found =>
        obtain rfl := filled.version found
        split at hit
        · cases hit
        next data stored => exact ⟨rfl, by rw [found]; rfl, Option.isSome_of_mem stored⟩
  · intro cached
    obtain ⟨version, found⟩ := Option.isSome_iff_exists.mp cached.version
    obtain rfl := filled.version found
    obtain ⟨data, stored⟩ := Option.isSome_iff_exists.mp cached.entry
    obtain ⟨entry, known, rfl⟩ := get_stored stored
    rcases filled.filled _ _ known with ⟨other, same, -⟩ | ⟨other, -, value⟩
    · exact absurd same.symm (versionKey_ne_permsKey _ _ _)
    · unfold cacheGet
      rw [cached.text, found]
      simp only [Client.format, stored, value, loads_dumpAssignments, Option.isSome_some]

theorem evaluateCached_denied (resourceScope : Option Scope)
    (denied : ∃ d, DeniedBy db principalId permission (resourceScope.getD .platform) clock d) :
    (evaluateCached db client store now (some principalId) permission resourceScope clock).1 =
      evaluate db (some principalId) permission resourceScope clock := by
  unfold evaluateCached evaluate
  cases found : checkDenies db principalId permission (resourceScope.getD .platform)
      clock.denies with
  | nil => exact absurd denied (checkDenies_eq_nil.mp found)
  | cons first rest => simp only [found]

theorem evaluateCached_miss (resourceScope : Option Scope)
    (miss : cacheGet client store now principalId = none) :
    (evaluateCached db client store now (some principalId) permission resourceScope clock).1 =
      evaluate db (some principalId) permission resourceScope clock := by
  unfold evaluateCached evaluate
  cases found : checkDenies db principalId permission (resourceScope.getD .platform)
      clock.denies with
  | nil => simp only [found, miss]
  | cons first rest => simp only [found]

theorem evaluateCached_hit (filled : Filled db store) (resourceScope : Option Scope)
    (free : ¬ ∃ d, DeniedBy db principalId permission (resourceScope.getD .platform) clock d)
    (cached : Cached principalId client store now) :
    (evaluateCached db client store now (some principalId) permission resourceScope clock).1 =
      decideGrants db permission (resourceScope.getD .platform)
        (storedAssignments db principalId) true := by
  obtain ⟨document, hit⟩ := Option.isSome_iff_exists.mp ((cacheGet_isSome filled).mpr cached)
  unfold evaluateCached
  simp only [checkDenies_eq_nil.mpr free, hit, cacheGet_hit filled hit, Option.bind_some]

theorem transparent_hit_iff (filled : Filled db store) (resourceScope : Option Scope)
    (free : ¬ ∃ d, DeniedBy db principalId permission (resourceScope.getD .platform) clock d)
    (cached : Cached principalId client store now) :
    Transparent db client store now (some principalId) permission resourceScope clock ↔
      Agree db principalId permission (resourceScope.getD .platform) clock := by
  have uncached : evaluate db (some principalId) permission resourceScope clock =
      decideGrants db permission (resourceScope.getD .platform)
        (readAssignments db principalId clock.assignments) false := evaluate_undenied free
  unfold Transparent Agree
  rw [evaluateCached_hit filled resourceScope free cached, uncached]

theorem agree_condition : Agree db principalId permission scope clock ↔
    (¬ ∃ a role, Lapsed db principalId scope clock a role) ∨
    (∃ a role, Holds db principalId scope clock a role ∧ ¬ Resolves db role.name) ∨
    (GrantedByName db principalId permission scope clock ∧
      ∀ a role, Lapsed db principalId scope clock a role → Resolves db role.name) := by
  by_cases endless : ∃ a role, Holds db principalId scope clock a role ∧ ¬ Resolves db role.name
  · obtain ⟨a, role, held, stuck⟩ := endless
    exact iff_of_true (agree_of_stuck held stuck) (.inr (.inl ⟨a, role, held, stuck⟩))
  rw [or_iff_right endless]
  push Not at endless
  by_cases lapsed : ∀ a role, Lapsed db principalId scope clock a role → Resolves db role.name
  · rw [agree_iff endless lapsed, and_iff_left lapsed]
  · push Not at lapsed
    obtain ⟨a, role, own, stuck⟩ := lapsed
    refine iff_of_false (disagree_of_lapsed endless own stuck) ?_
    rintro (none | ⟨-, all⟩)
    · exact none ⟨a, role, own⟩
    · exact stuck (all a role own)

/-- Behind earlier evaluations, one with Redis answers as one without exactly where the principal
is unknown or the cache is harmless. -/
theorem cache_transparent_iff (produced : Produced db client store) (principal : Option String)
    (resourceScope : Option Scope) :
    Transparent db client store now principal permission resourceScope clock ↔
      ∀ principalId, principal = some principalId →
        CacheHarmless db principalId permission (resourceScope.getD .platform) clock client store
          now := by
  cases principal with
  | none => exact ⟨fun _ _ => nofun, fun _ => rfl⟩
  | some principalId =>
      have filled := produced.filled
      simp only [Option.some.injEq, forall_eq']
      unfold CacheHarmless
      by_cases free : ∃ d, DeniedBy db principalId permission (resourceScope.getD .platform) clock d
      · exact iff_of_true (congrArg _ (evaluateCached_denied resourceScope free)) (.inl free)
      by_cases cached : Cached principalId client store now
      · rw [transparent_hit_iff filled resourceScope free cached, or_iff_right free,
          or_iff_right (not_not_intro cached), agree_condition]
      · have miss : cacheGet client store now principalId = none := by
          rw [← Option.not_isSome_iff_eq_none, cacheGet_isSome filled]
          exact cached
        exact iff_of_true (congrArg _ (evaluateCached_miss resourceScope miss)) (.inr (.inl cached))

theorem cached_of_cacheSet {later : Time} (missing : store.get now (versionKey principalId) = none)
    (live : later < now + cacheTtl) (assignments : List Assignment) :
    Cached principalId .str (cacheSet store now principalId assignments) later := by
  have distinct := versionKey_ne_permsKey principalId principalId ['1']
  unfold cacheSet
  rw [missing]
  refine ⟨rfl, ?_, ?_⟩
  · unfold Redis.get Redis.set
    rw [Dict.get?_set_of_ne _ _ distinct, Dict.get?_set_self]
    rfl
  · unfold Redis.get Redis.set
    simp [live]

end

def firstStore (db : Database) (read : Time) : Redis :=
  (evaluateCached db .str [] 0 (some "alice") "run:read" none
    { denies := read, assignments := read }).2

theorem firstStore_eq (db : Database) (read : Time)
    (free : ¬ ∃ d, DeniedBy db "alice" "run:read" .platform { denies := read, assignments := read }
      d) :
    firstStore db read = cacheSet [] 0 "alice" (readAssignments db "alice" read) := by
  have undenied : checkDenies db "alice" "run:read" .platform read = [] :=
    checkDenies_eq_nil.mpr free
  unfold firstStore evaluateCached
  simp only [Option.getD_none, undenied]
  rfl

theorem firstStore_produced (db : Database) (read : Time) :
    Produced db .str (firstStore db read) := .evaluated .empty 0 _ _ _ _

/-- An assignment without an expiry date gives the same verdict from the cache. -/
theorem unexpiring_transparent :
    Transparent (oneRole.assign (readerAt .platform)) .str
      (firstStore (oneRole.assign (readerAt .platform)) 5) 1 (some "alice") "run:read" none
      { denies := 20, assignments := 20 } := by
  refine (cache_transparent_iff (firstStore_produced _ 5) _ _).mpr fun principalId _ => ?_
  refine .inr (.inr (.inl ?_))
  rintro ⟨a, role, lapsed⟩
  obtain rfl := List.mem_singleton.mp lapsed.assigned
  exact absurd lapsed.expired (by decide)

def readerUntil (time : Time) : Database :=
  oneRole.assign { readerAt .platform with expiresAt := some time }

theorem readerUntil_free (time : Time) (clock : Clock) :
    ¬ ∃ d, DeniedBy (readerUntil time) "alice" "run:read" .platform clock d := by
  rintro ⟨d, member, -⟩
  cases member

/-- The reader is cached while the assignment lasts, and it still grants after its end. -/
theorem expired_grants_on_hit :
    Produced (readerUntil 10) .str (firstStore (readerUntil 10) 5) ∧
    (evaluateCached (readerUntil 10) .str (firstStore (readerUntil 10) 5) 1 (some "alice")
      "run:read" none { denies := 20, assignments := 20 }).1.map AuthzResult.verdict =
        some (.allow, none) ∧
    (evaluate (readerUntil 10) (some "alice") "run:read" none
      { denies := 20, assignments := 20 }).map AuthzResult.verdict =
        some (.deny, some .expiredAssignmentsOnly) ∧
    ¬ Transparent (readerUntil 10) .str (firstStore (readerUntil 10) 5) 1 (some "alice")
      "run:read" none { denies := 20, assignments := 20 } := by
  have filled := (firstStore_produced (readerUntil 10) 5).filled
  have live : (1 : Time) < 0 + cacheTtl := by decide
  have cached : Cached "alice" .str (firstStore (readerUntil 10) 5) 1 := by
    rw [firstStore_eq _ _ (readerUntil_free 10 _)]
    exact cached_of_cacheSet rfl live _
  have hit : (evaluateCached (readerUntil 10) .str (firstStore (readerUntil 10) 5) 1 (some "alice")
      "run:read" none { denies := 20, assignments := 20 }).1.map AuthzResult.verdict =
        some (.allow, none) := by
    rw [evaluateCached_hit filled none (readerUntil_free 10 _) cached]
    decide
  have uncached : (evaluate (readerUntil 10) (some "alice") "run:read" none
      { denies := 20, assignments := 20 }).map AuthzResult.verdict =
        some (.deny, some .expiredAssignmentsOnly) := by decide
  refine ⟨firstStore_produced _ 5, hit, uncached, ?_⟩
  unfold Transparent
  rw [hit, uncached]
  decide

end SyndicateClaw.Authz
