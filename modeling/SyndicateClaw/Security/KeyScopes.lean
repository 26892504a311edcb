import SyndicateClaw.Authz.Enforcement

/-! What an API key may do: within the permissions of its owner when it is created, and within its
scopes when it is used. -/

namespace SyndicateClaw.Security

open Authz Policy

/-! ### Permissions of an owner -/

def AllowedSomewhere (db : Database) (actor permission : String) (clock : Clock) : Prop :=
  ∃ principalId scope, resolvePrincipalId db actor = some principalId ∧
    Decides db principalId permission scope clock .allow

/-- An assignment, neither revoked nor expired, whose role has the permission by its name, at a
scope that no deny covers and at which every role can be expanded. -/
def GrantedAnywhere (db : Database) (actor permission : String) (clock : Clock) : Prop :=
  ∃ principalId a role, resolvePrincipalId db actor = some principalId ∧
    Holds db principalId a.scope clock a role ∧
    (∃ twin ∈ db.roles, twin.name = role.name ∧ HasPermission db twin permission) ∧
    (¬ ∃ d, DeniedBy db principalId permission a.scope clock d) ∧
    ∀ other otherRole, Holds db principalId a.scope clock other otherRole →
      Resolves db otherRole.name

section

variable {db : Database} {permission : String} {clock : Clock}

theorem allowedSomewhere_iff (actor : String) :
    AllowedSomewhere db actor permission clock ↔ GrantedAnywhere db actor permission clock := by
  constructor
  · rintro ⟨principalId, scope, known, allows⟩
    obtain ⟨free, resolvable, a, role, held, grants⟩ := allows_iff.mp allows
    refine ⟨principalId, a, role, known,
      { held with contains := scopeContains_self held.contains }, grants, ?_, ?_⟩
    · rintro ⟨d, denied⟩
      exact free ⟨d, DeniedBy.narrow denied held.contains⟩
    · intro other otherRole otherHeld
      exact resolvable other otherRole (otherHeld.narrow held.contains)
  · rintro ⟨principalId, a, role, known, held, grants, free, resolvable⟩
    exact ⟨principalId, a.scope, known, allows_iff.mpr ⟨free, resolvable, a, role, held, grants⟩⟩

end

/-! ### Creation -/

section

variable (db : Database) (hashKey : String → String) (draw : Draw) (actor : String)
  (scopes : List String) (description : String) (expiresAt : Option Time) (keys : List ApiKeyRow)
  (clock : Clock)

/-- A key that is created for given scopes is stored with some, and the evaluator allows its owner
each of them. -/
def KeyWithinOwner : Prop :=
  ∀ created keys', createApiKey hashKey db draw
      { actor, scopes := some scopes, description, expiresAt } keys = .ok (created, keys') →
    ∃ row ∈ keys', row.keyHash = hashKey created.2 ∧ row.scopes ≠ [] ∧
      ∀ scope ∈ row.scopes, AllowedSomewhere db actor scope clock

/-- A scope that is a glob, unknown, or beyond what the actor's roles hold, whether they are still
assigned or not. -/
def OutOfBounds (scope : String) : Prop :=
  hasGlob scope = true ∨ scope ∉ permissionVocabulary ∨
    ∀ permissions, resolveActorPermissions db actor = some permissions →
      "admin:*" ∉ permissions ∧ ∀ permission ∈ permissions, fnmatch scope permission = false

def CreationFails : Prop :=
  50 < (normalizeScopes scopes).length ∨ (∃ scope ∈ normalizeScopes scopes, OutOfBounds db actor scope) ∨
    resolveActorPermissions db actor = none ∨
    ∃ row ∈ keys, row.keyHash = hashKey draw.rawKey ∨ row.id = draw.id

end

section

variable {db : Database} {hashKey : String → String} {draw : Draw} {actor : String}
  {scopes : List String} {description : String} {expiresAt : Option Time} {keys : List ApiKeyRow}
  {clock : Clock}

theorem not_outOfBounds {scope : String} {permissions : List String}
    (resolved : resolveActorPermissions db actor = some permissions) (plain : hasGlob scope ≠ true)
    (known : scope ∈ permissionVocabulary)
    (held : "admin:*" ∈ permissions ∨
      ∃ permission ∈ permissions, fnmatch scope permission = true) :
    ¬ OutOfBounds db actor scope := by
  rintro (glob | unknown | beyond)
  · exact plain glob
  · exact unknown known
  · obtain ⟨regular, none⟩ := beyond permissions resolved
    rcases held with admin | ⟨permission, inside, fits⟩
    · exact regular admin
    · rw [none permission inside] at fits
      cases fits

theorem validateScopes_ok_iff {stored : List String} :
    validateScopes db actor (some scopes) = .ok stored ↔ stored = normalizeScopes scopes ∧
      ¬ 50 < (normalizeScopes scopes).length ∧
      (∀ scope ∈ normalizeScopes scopes, ¬ OutOfBounds db actor scope) ∧
      resolveActorPermissions db actor ≠ none := by
  unfold validateScopes
  dsimp only
  split
  · next many => simp [many]
  next few =>
  split
  · next globs =>
      obtain ⟨scope, member, glob⟩ := List.any_eq_true.mp globs
      constructor
      · nofun
      · rintro ⟨-, -, within, -⟩
        exact absurd (.inl glob) (within scope member)
  next plain =>
  split
  · next first rest unknown =>
      have member : first ∈ (normalizeScopes scopes).filter fun scope => scope ∉ permissionVocabulary := by
        rw [unknown]
        exact List.mem_cons_self
      simp only [List.mem_filter, decide_eq_true_eq] at member
      constructor
      · nofun
      · rintro ⟨-, -, within, -⟩
        exact absurd (.inr (.inl member.2)) (within first member.1)
  next known =>
  have bounded : ∀ scope ∈ normalizeScopes scopes, hasGlob scope ≠ true ∧ scope ∈ permissionVocabulary := by
    intro scope member
    refine ⟨fun glob => plain (List.any_eq_true.mpr ⟨scope, member, glob⟩), ?_⟩
    have vocabulary := List.filter_eq_nil_iff.mp known scope member
    simpa using vocabulary
  cases resolved : resolveActorPermissions db actor with
  | none => simp
  | some permissions =>
      dsimp only
      have accepts : (∀ scope ∈ normalizeScopes scopes, ¬ OutOfBounds db actor scope) →
          (Except.ok (normalizeScopes scopes) = (.ok stored : Except CreateError (List String)) ↔
            stored = normalizeScopes scopes ∧ ¬ 50 < (normalizeScopes scopes).length ∧
              (∀ scope ∈ normalizeScopes scopes, ¬ OutOfBounds db actor scope) ∧
              some permissions ≠ none) := by
        intro within
        constructor
        · intro same
          exact ⟨(Except.ok.inj same).symm, few, within, nofun⟩
        · rintro ⟨rfl, -⟩
          rfl
      by_cases admin : "admin:*" ∈ permissions
      · rw [if_pos admin]
        apply accepts
        intro scope member
        obtain ⟨plain, known⟩ := bounded scope member
        exact not_outOfBounds resolved plain known (.inl admin)
      · rw [if_neg admin]
        split
        · next first rest missing =>
            have member : first ∈ (normalizeScopes scopes).filter
                fun scope => !permissions.any (fnmatch scope) := by
              rw [missing]
              exact List.mem_cons_self
            simp only [List.mem_filter, Bool.not_eq_true', List.any_eq_false, Bool.not_eq_true] at member
            constructor
            · nofun
            · rintro ⟨-, -, within, -⟩
              refine absurd (.inr (.inr fun own same => ?_)) (within first member.1)
              obtain rfl := Option.some.inj (resolved.symm.trans same)
              exact ⟨admin, member.2⟩
        · next covered =>
            apply accepts
            intro scope member
            obtain ⟨plain, known⟩ := bounded scope member
            have matching := List.filter_eq_nil_iff.mp covered scope member
            simp only [Bool.not_eq_true', Bool.not_eq_false, List.any_eq_true] at matching
            exact not_outOfBounds resolved plain known (.inr matching)

theorem createApiKey_ok_iff {created : String × String} {keys' : List ApiKeyRow} :
    createApiKey hashKey db draw { actor, scopes := some scopes, description, expiresAt } keys =
        .ok (created, keys') ↔
      ¬ CreationFails db hashKey draw actor scopes keys ∧ created = (draw.id, draw.rawKey) ∧
      keys' = keys ++
        [{ id := draw.id, keyHash := hashKey draw.rawKey
           keyPrefix := String.ofList (draw.rawKey.toList.take 12), actor, description
           revoked := false, expiresAt, lastUsedAt := none, scopes := normalizeScopes scopes }] := by
  have accepted (stored : List String) := @validateScopes_ok_iff db actor scopes stored
  have clash : (∃ row ∈ keys, row.keyHash = hashKey draw.rawKey ∨ row.id = draw.id) ↔
      (keys.any fun row => decide (row.keyHash = hashKey draw.rawKey) || decide (row.id = draw.id)) =
        true := by
    simp
  unfold CreationFails
  rw [clash]
  unfold createApiKey
  cases validated : validateScopes db actor (some scopes) with
  | error error =>
      constructor
      · nofun
      · rintro ⟨succeeds, -⟩
        push Not at succeeds
        have stored := (accepted (normalizeScopes scopes)).mpr
          ⟨rfl, by omega, succeeds.2.1, succeeds.2.2.1⟩
        rw [validated] at stored
        cases stored
  | ok stored =>
      obtain ⟨rfl, few, within, readable⟩ := (accepted stored).mp validated
      have outside : ¬ ∃ scope ∈ normalizeScopes scopes, OutOfBounds db actor scope := by
        rintro ⟨scope, member, beyond⟩
        exact within scope member beyond
      simp only [few, outside, readable, false_or]
      cases keys.any fun row =>
          decide (row.keyHash = hashKey draw.rawKey) || decide (row.id = draw.id) with
      | true =>
          constructor
          · nofun
          · rintro ⟨free, -⟩
            exact absurd rfl free
      | false =>
          constructor
          · intro done
            obtain ⟨rfl, rfl⟩ := Prod.mk.injEq .. ▸ Except.ok.inj done
            exact ⟨nofun, rfl, rfl⟩
          · rintro ⟨-, rfl, rfl⟩
            rfl

theorem keyWithinOwner_iff :
    KeyWithinOwner db hashKey draw actor scopes description expiresAt keys clock ↔
      CreationFails db hashKey draw actor scopes keys ∨
      normalizeScopes scopes ≠ [] ∧
        ∀ scope ∈ normalizeScopes scopes, GrantedAnywhere db actor scope clock := by
  unfold KeyWithinOwner
  simp only [createApiKey_ok_iff]
  constructor
  · intro within
    by_cases fails : CreationFails db hashKey draw actor scopes keys
    · exact .inl fails
    · obtain ⟨row, member, hash, some, allowed⟩ := within _ _ ⟨fails, rfl, rfl⟩
      rcases List.mem_append.mp member with before | last
      · exact absurd (.inr (.inr (.inr ⟨row, before, .inl hash⟩))) fails
      · obtain rfl := List.mem_singleton.mp last
        exact .inr ⟨some, fun scope inside => (allowedSomewhere_iff actor).mp (allowed scope inside)⟩
  · rintro condition created keys' ⟨succeeds, rfl, rfl⟩
    obtain ⟨some, granted⟩ := condition.resolve_left succeeds
    refine ⟨_, List.mem_append_right _ (List.mem_singleton_self _), rfl, some, ?_⟩
    intro scope inside
    exact (allowedSomewhere_iff actor).mpr (granted scope inside)

end

/-! ### Use -/

section

variable (app : App) (world : World) (request : HttpRequest)

structure ByKey (settings : Settings) (verification : ApiKeyVerificationResult) : Prop where
  enabled : app.settings = some settings
  enforced : settings.rbacEnforcementEnabled = true
  service : app.services.hasKeyService = true
  bearer : request.bearer = none
  verified : ∃ apiKey keys, truthy request.apiKey = some apiKey ∧
    verifyKeyDetails app.services.hashKey apiKey settings.allowUnscopedKeys world.now world.keys =
      (.ok (some verification), keys)

/-- A request that passes the middleware requires a scope of its key. -/
def UseWithinScopes (scopes : List String) : Prop :=
  (∃ state, rbacMiddleware app world request .initial = .proceeds state) →
    ∀ required, getRequiredPermission request.method request.path = some required →
      required ∈ scopes

end

theorem authenticated_byKey {app : App} {world : World} {request : HttpRequest}
    {settings : Settings} {verification : ApiKeyVerificationResult}
    (byKey : ByKey app world request settings verification) :
    (getCurrentActor app.services settings request world.now world.keys .initial).1 =
      .ok verification.actor := by
  obtain ⟨apiKey, keys, present, verified⟩ := byKey.verified
  unfold getCurrentActor
  rw [byKey.bearer, present]
  dsimp only
  unfold keyActor
  rw [if_pos byKey.service, verified]

theorem useWithinScopes_iff {app : App} {world : World} {request : HttpRequest}
    {settings : Settings} {verification : ApiKeyVerificationResult}
    (byKey : ByKey app world request settings verification) :
    UseWithinScopes app world request verification.scopes ↔
      RefusedByRbac app world request verification.actor ∨
      RaisedByRbac world request verification.actor ∨
      ∀ required, getRequiredPermission request.method request.path = some required →
        required ∈ verification.scopes := by
  have cases := rbac_cases byKey.enabled byKey.enforced (authenticated_byKey byKey)
  unfold UseWithinScopes
  cases passage : rbacMiddleware app world request .initial with
  | answered response =>
      rw [passage] at cases
      exact ⟨fun _ => .inl cases.1, fun _ => nofun⟩
  | raised =>
      rw [passage] at cases
      exact ⟨fun _ => .inr (.inl cases.2), fun _ => nofun⟩
  | proceeds state =>
      rw [passage] at cases
      rw [or_iff_right cases.1, or_iff_right cases.2]
      exact ⟨fun within => within ⟨state, rfl⟩, fun inside _ => inside⟩

/-! ### Main results -/

/-- A key is within its owner's permissions exactly where it is not created, or has a scope and its
owner is granted each; and a request by a key is within its scopes exactly where it is refused for
another reason, or requires one of them. -/
theorem keys_bounded_iff (db : Database) (hashKey : String → String) (draw : Draw) (actor : String)
    (scopes : List String) (description : String) (expiresAt : Option Time)
    (keys : List ApiKeyRow) (clock : Clock) (app : App) (world : World) (request : HttpRequest) :
    (KeyWithinOwner db hashKey draw actor scopes description expiresAt keys clock ↔
      CreationFails db hashKey draw actor scopes keys ∨
      normalizeScopes scopes ≠ [] ∧
        ∀ scope ∈ normalizeScopes scopes, GrantedAnywhere db actor scope clock) ∧
    ∀ settings verification, ByKey app world request settings verification →
      (UseWithinScopes app world request verification.scopes ↔
        RefusedByRbac app world request verification.actor ∨
        RaisedByRbac world request verification.actor ∨
        ∀ required, getRequiredPermission request.method request.path = some required →
          required ∈ verification.scopes) :=
  ⟨keyWithinOwner_iff, fun _ _ byKey => useWithinScopes_iff byKey⟩

/-! ### Keys that may do more -/

theorem created_of_normalized {db : Database} {draw : Draw} {actor : String} {scopes : List String}
    {permissions : List String} (readable : resolveActorPermissions db actor = some permissions)
    (few : (normalizeScopes scopes).length ≤ 50)
    (within : ∀ scope ∈ normalizeScopes scopes, hasGlob scope = false ∧
      scope ∈ permissionVocabulary ∧ ∃ permission ∈ permissions, fnmatch scope permission = true) :
    ¬ CreationFails db id draw actor scopes [] := by
  rintro (many | ⟨scope, member, glob | unknown | beyond⟩ | unreadable | ⟨row, none, -⟩)
  · omega
  · rw [(within scope member).1] at glob
    cases glob
  · exact unknown (within scope member).2.1
  · obtain ⟨-, -, permission, inside, fits⟩ := within scope member
    rw [(beyond permissions readable).2 permission inside] at fits
    cases fits
  · rw [readable] at unreadable
    cases unreadable
  · cases none

def memoryKey : ApiKeyVerificationResult :=
  { actor := "alice", keyId := "k1", scopes := ["memory:read"], unscoped := false }

def memoryKeyWorld : World where
  db := oneRole.assign (readerAt .platform)
  resources :=
    { workflowDefinitions := [], workflowRuns := [], memoryRecords := [], policyRules := []
      approvalRequests := [], namespaceBindings := [] }
  keys :=
    [{ id := "k1", keyHash := "sc-key", keyPrefix := "sc-key", actor := "alice", description := ""
       revoked := false, expiresAt := none, lastUsedAt := none, scopes := ["memory:read"] }]
  builderTokens := []
  redis := none
  now := 0
  clock := { denies := 0, assignments := 0 }

def readsRunByKey : HttpRequest := { readsRun with authorization := none, apiKey := some "sc-key" }

/-- A key for one blank scope is stored without any, one for a role that has expired is created, and
one for the memory reads a run. -/
theorem keys_exceed :
    ¬ KeyWithinOwner (oneRole.assign (readerAt .platform)) id { token := "t", id := "k1" } "alice"
      [" "] "" none [] { denies := 0, assignments := 0 } ∧
    ¬ KeyWithinOwner (readerUntil 10) id { token := "t", id := "k1" } "alice" ["run:read"] "" none []
      { denies := 20, assignments := 20 } ∧
    (∃ settings, ByKey enforcingApp memoryKeyWorld readsRunByKey settings memoryKey) ∧
    ¬ UseWithinScopes enforcingApp memoryKeyWorld readsRunByKey memoryKey.scopes := by
  have byKey : ByKey enforcingApp memoryKeyWorld readsRunByKey
      { rbacEnforcementEnabled := true, allowUnscopedKeys := true, builderEnabled := true
        environment := "production" } memoryKey :=
    ⟨rfl, rfl, rfl, rfl, "sc-key", _, by decide, by rfl⟩
  refine ⟨?_, ?_, ⟨_, byKey⟩, ?_⟩
  · have blank : normalizeScopes [" "] = [] := by decide
    rw [keyWithinOwner_iff]
    rintro (fails | ⟨some, -⟩)
    · refine @created_of_normalized _ _ _ _ ["run:read"] rfl ?_ ?_ fails <;> rw [blank]
      · decide
      · exact nofun
    · exact some blank
  · have kept : normalizeScopes ["run:read"] = ["run:read"] := by decide
    rw [keyWithinOwner_iff]
    rintro (fails | ⟨-, granted⟩)
    · refine @created_of_normalized _ _ _ _ ["run:read"] rfl ?_ ?_ fails <;> rw [kept]
      · decide
      · exact List.forall_mem_singleton.mpr ⟨by decide, by decide, "run:read", by decide, by decide⟩
    · rw [kept] at granted
      obtain ⟨principalId, a, role, -, held, -⟩ := granted "run:read" (List.mem_singleton_self _)
      obtain rfl := List.mem_singleton.mp held.assigned
      exact absurd held.unexpired (by decide)
  · have allows := @platform_allows memoryKeyWorld "alice" "run:read" _ rfl rfl
    have requires : getRequiredPermission readsRunByKey.method readsRunByKey.path =
        some "run:read" := readsRun_requires
    rw [useWithinScopes_iff byKey]
    rintro (⟨required, same, denied⟩ | ⟨required, same, stuck⟩ | within)
    · rw [requires] at same
      obtain rfl := Option.some.inj same
      rcases denied with deny | missing | denied
      · exact absurd deny (by decide)
      · cases missing
      · exact allows.2 denied
    · rw [requires] at same
      obtain rfl := Option.some.inj same
      exact allows.1 stuck
    · exact absurd (within "run:read" requires) (by decide)

end SyndicateClaw.Security
