import SyndicateClaw.Authz.CacheTransparency
import SyndicateClaw.Authz.Middleware
import SyndicateClaw.Authz.RequiredPermissions

/-! Which requests are refused, and what the scope that owns the resource has to do with it. -/

namespace SyndicateClaw.Authz

open Security

/-! ### Evaluation at the platform -/

section

variable (world : World) (actor required : String)

/-- Who has no principal, or has a deny at the platform or no grant there. -/
def DeniedAtPlatform : Prop :=
  ∀ principalId, resolvePrincipalId world.db actor = some principalId →
    (∃ d, DeniedBy world.db principalId required .platform world.clock d) ∨
    (∀ a role, Holds world.db principalId .platform world.clock a role →
        Resolves world.db role.name) ∧
      ¬ GrantedByName world.db principalId required .platform world.clock

/-- A role held at the platform cannot be expanded, and no deny makes that unnecessary. -/
def StuckAtPlatform : Prop :=
  ∃ principalId, resolvePrincipalId world.db actor = some principalId ∧
    (¬ ∃ d, DeniedBy world.db principalId required .platform world.clock d) ∧
    ∃ a role, Holds world.db principalId .platform world.clock a role ∧
      ¬ Resolves world.db role.name

end

section

variable {db : Database} {principalId permission : String} {scope : Scope} {clock : Clock}

theorem evaluate_none_iff : evaluate db (some principalId) permission (some scope) clock = none ↔
    (¬ ∃ d, DeniedBy db principalId permission scope clock d) ∧
      ∃ a role, Holds db principalId scope clock a role ∧ ¬ Resolves db role.name := by
  constructor
  · intro stuck
    have free : ¬ ∃ d, DeniedBy db principalId permission scope clock d := by
      rintro ⟨d, denied⟩
      obtain ⟨result, returned, -⟩ := evaluate_denied denied
      rw [stuck] at returned
      cases returned
    refine ⟨free, ?_⟩
    by_contra all
    push Not at all
    have some : (evaluate db (some principalId) permission (some scope) clock).isSome = true := by
      rw [evaluate_undenied free, decideGrants]
      have live : ∀ a ∈ readAssignments db principalId clock.assignments, a.live scope = true →
          (resolveRolePermissions db a.roleName).isSome = true := by
        intro a member live
        obtain ⟨own, role, held, same⟩ := (@exists_live db principalId scope clock
          fun name => name = a.roleName).mp ⟨a, member, live, rfl⟩
        rw [← same]
        exact resolveRolePermissions_isSome.mpr (all own role held)
      rw [findGrants_some faithful_nil live]
      rfl
    rw [stuck] at some
    cases some
  · rintro ⟨free, a, role, held, endless⟩
    exact evaluate_stuck free held endless

theorem evaluate_deny_iff : Decides db principalId permission scope clock .deny ↔
    (∃ d, DeniedBy db principalId permission scope clock d) ∨
    (∀ a role, Holds db principalId scope clock a role → Resolves db role.name) ∧
      ¬ GrantedByName db principalId permission scope clock := by
  constructor
  · intro denies
    by_cases free : ∃ d, DeniedBy db principalId permission scope clock d
    · exact .inl free
    · refine .inr ⟨fun a role held => ?_, fun granted => ?_⟩
      · by_contra endless
        obtain ⟨result, returned, -⟩ := denies
        rw [evaluate_stuck free held endless] at returned
        cases returned
      · obtain ⟨a, role, held, twin, known, named, has⟩ := granted
        exact denies_grantless denies free held known named has
  · rintro (⟨d, denied⟩ | ⟨resolvable, ungranted⟩)
    · exact evaluate_denied denied
    · by_cases free : ∃ d, DeniedBy db principalId permission scope clock d
      · obtain ⟨d, denied⟩ := free
        exact evaluate_denied denied
      · cases returned : evaluate db (some principalId) permission (some scope) clock with
        | none =>
            obtain ⟨-, a, role, held, endless⟩ := evaluate_none_iff.mp returned
            exact absurd (resolvable a role held) endless
        | some result =>
            cases decision : result.decision with
            | deny => exact ⟨result, returned, decision⟩
            | allow =>
                obtain ⟨-, -, granted⟩ := allows_iff.mp ⟨result, returned, decision⟩
                exact absurd granted ungranted

end

/-! ### `RBACMiddleware` -/

section

variable {app : App} {world : World} {request : HttpRequest} {settings : Settings} {actor : String}
  {state : RequestState}

theorem platform_cases (required : String) :
    match evaluate world.db (resolvePrincipalId world.db actor) required (some .platform)
        world.clock with
    | none => StuckAtPlatform world actor required ∧ ¬ DeniedAtPlatform world actor required
    | some result =>
        ¬ StuckAtPlatform world actor required ∧
          (result.decision = .deny ↔ DeniedAtPlatform world actor required) := by
  cases known : resolvePrincipalId world.db actor with
  | none =>
      refine ⟨?_, fun _ => ?_, fun _ => rfl⟩
      · rintro ⟨principalId, found, -⟩
        rw [known] at found
        cases found
      · intro principalId found
        rw [known] at found
        cases found
  | some principalId =>
      have stuck : StuckAtPlatform world actor required ↔
          evaluate world.db (some principalId) required (some .platform) world.clock = none := by
        rw [evaluate_none_iff]
        constructor
        · rintro ⟨other, found, rest⟩
          rw [known] at found
          obtain rfl := Option.some.inj found
          exact rest
        · intro rest
          exact ⟨principalId, known, rest⟩
      have denied : DeniedAtPlatform world actor required ↔
          Decides world.db principalId required .platform world.clock .deny := by
        rw [evaluate_deny_iff]
        constructor
        · intro denied
          exact denied principalId known
        · intro denied other found
          rw [known] at found
          obtain rfl := Option.some.inj found
          exact denied
      rw [stuck, denied]
      cases returned : evaluate world.db (some principalId) required (some .platform)
          world.clock with
      | none =>
          refine ⟨rfl, ?_⟩
          rintro ⟨result, same, -⟩
          rw [returned] at same
          cases same
      | some result =>
          refine ⟨nofun, fun deny => ⟨result, returned, deny⟩, ?_⟩
          rintro ⟨other, same, deny⟩
          rw [returned] at same
          obtain rfl := Option.some.inj same
          exact deny

theorem platform_allows {required : String} {result : AuthzResult}
    (returned : evaluate world.db (resolvePrincipalId world.db actor) required (some .platform)
      world.clock = some result) (allow : result.decision = .allow) :
    ¬ StuckAtPlatform world actor required ∧ ¬ DeniedAtPlatform world actor required := by
  have cases := @platform_cases world actor required
  rw [returned] at cases
  refine ⟨cases.1, fun denied => ?_⟩
  have deny := cases.2.mpr denied
  rw [allow] at deny
  cases deny

/-- The path is denied, there is no database, or the evaluation at the platform denies. -/
def RefusedByRbac (app : App) (world : World) (request : HttpRequest) (actor : String) : Prop :=
  ∃ required, getRequiredPermission request.method request.path = some required ∧
    (required = "DENY" ∨ app.hasSessionFactory = false ∨ DeniedAtPlatform world actor required)

def RaisedByRbac (world : World) (request : HttpRequest) (actor : String) : Prop :=
  ∃ required, getRequiredPermission request.method request.path = some required ∧
    StuckAtPlatform world actor required

theorem rbac_cases (enabled : app.settings = some settings)
    (on : settings.rbacEnforcementEnabled = true)
    (authenticated : (getCurrentActor app.services settings request world.now world.keys state).1 =
      .ok actor) :
    match rbacMiddleware app world request state with
    | .answered response => RefusedByRbac app world request actor ∧ response.statusCode = 403
    | .raised => ¬ RefusedByRbac app world request actor ∧ RaisedByRbac world request actor
    | .proceeds _ => ¬ RefusedByRbac app world request actor ∧
        ¬ RaisedByRbac world request actor := by
  unfold rbacMiddleware
  rw [enabled]
  simp only [on, Bool.not_true, Bool.false_eq_true, if_false]
  obtain ⟨inner, found⟩ : ∃ inner, getCurrentActor app.services settings request world.now world.keys
      state = (.ok actor, inner) := by
    rw [← authenticated]
    exact ⟨_, rfl⟩
  rw [found]
  dsimp only
  unfold RefusedByRbac RaisedByRbac
  cases requires : getRequiredPermission request.method request.path with
  | none => simp
  | some required =>
      simp only [Option.some.injEq, exists_eq_left']
      by_cases refused : required = "DENY" ∨ app.hasSessionFactory = false
      · have test : (decide (required = "DENY") || !app.hasSessionFactory) = true := by
          simpa using refused
        rw [if_pos test]
        exact ⟨by tauto, rfl⟩
      · have test : (decide (required = "DENY") || !app.hasSessionFactory) = false := by
          simpa using refused
        rw [if_neg (by simp [test])]
        rw [← or_assoc, or_iff_right refused]
        have cases := @platform_cases world actor required
        cases returned : evaluate world.db (resolvePrincipalId world.db actor) required
            (some .platform) world.clock with
        | none =>
            rw [returned] at cases
            exact ⟨cases.2, cases.1⟩
        | some result =>
            rw [returned] at cases
            dsimp only
            by_cases deny : result.decision = .deny
            · rw [if_pos deny]
              exact ⟨cases.2.mp deny, rfl⟩
            · rw [if_neg deny]
              exact ⟨fun denied => deny (cases.2.mpr denied), cases.1⟩

end

/-! ### The stack -/

section

variable (app : App) (world : World) (request : HttpRequest)

/-- A `PUT` of a workflow from the builder without a token, or with an invalid one. -/
def RefusedByCsrf : Prop :=
  (∃ settings, app.settings = some settings ∧ settings.builderEnabled = true) ∧
  ∃ workflowId, builderWorkflow request = some workflowId ∧
    (truthy request.builderToken = none ∨ app.hasBuilderTokens = true ∧
      ∃ token, truthy request.builderToken = some token ∧
        validateBuilderToken world token workflowId ≠ .ok ())

def Refused : Prop :=
  ∃ response, handle app world request = .answered response ∧ response.statusCode = 403

end

variable {app : App} {world : World} {request : HttpRequest} {settings : Settings} {actor : String}
  {spec : RouteAuthzSpec}

theorem csrf_refuses_iff (state : RequestState) :
    (∃ response, builderCsrf app world request state = .answered response ∧
      response.statusCode = 403) ↔ RefusedByCsrf app world request := by
  unfold builderCsrf RefusedByCsrf
  cases app.settings with
  | none => simp
  | some settings =>
      cases builder : settings.builderEnabled with
      | false => simp [builder]
      | true =>
          cases builderWorkflow request with
          | none => simp [builder]
          | some workflowId =>
              cases truthy request.builderToken with
              | none => simp [builder]
              | some token =>
                  cases app.hasBuilderTokens with
                  | false => simp [builder]
                  | true =>
                      cases valid : validateBuilderToken world token workflowId <;>
                        simp [builder, valid]

theorem refused_iff (enabled : app.settings = some settings)
    (on : settings.rbacEnforcementEnabled = true)
    (authenticated : (getCurrentActor app.services settings request world.now world.keys
      .initial).1 = .ok actor) :
    Refused app world request ↔ app.overLimit request = none ∧
      (RefusedByRbac app world request actor ∨
        ¬ RaisedByRbac world request actor ∧ RefusedByCsrf app world request) := by
  unfold Refused
  rw [handle_eq]
  unfold rateLimiter
  cases app.overLimit request with
  | some detail => simp [Passage.next]
  | none =>
      have cases := @rbac_cases app world request settings actor .initial enabled on authenticated
      simp only [Passage.next, true_and]
      cases passage : rbacMiddleware app world request .initial with
      | answered response =>
          rw [passage] at cases
          exact ⟨fun _ => .inl cases.1, fun _ => ⟨response, rfl, cases.2⟩⟩
      | raised =>
          rw [passage] at cases
          simp [cases.1, cases.2]
      | proceeds inner =>
          rw [passage] at cases
          simp only [csrf_refuses_iff, cases.1, false_or, cases.2, not_false_eq_true, true_and]

/-! ### Main results -/

/-- The scope that owns the resource, by the resolver of the route on the request as it is
routed. -/
def owningScope (app : App) (world : World) (request : HttpRequest) (spec : RouteAuthzSpec) :
    Resolution :=
  spec.resolve world.db world.resources (app.pathParams request)

def DeniedAtOwner (app : App) (world : World) (request : HttpRequest) (actor : String)
    (spec : RouteAuthzSpec) : Prop :=
  ∃ principalId scope d, resolvePrincipalId world.db actor = some principalId ∧
    owningScope app world request spec = .found scope ∧
    DeniedBy world.db principalId spec.permission scope world.clock d

/-- Denies at the scope that owns the resource are enforced, and where that scope cannot be resolved
the request is denied. -/
structure DenyEnforced (app : App) (world : World) (request : HttpRequest) (actor : String)
    (spec : RouteAuthzSpec) : Prop where
  denied : DeniedAtOwner app world request actor spec → Refused app world request
  unresolved : (∀ scope, owningScope app world request spec ≠ .found scope) →
    Refused app world request

/-- Denies are enforced exactly where none is at stake, and the scope is resolved, or where the
request is refused anyway: the evaluation at the platform, which never looks at the scope that owns
the resource, is all that is enforced. -/
theorem denyEnforced_iff (enabled : app.settings = some settings)
    (on : settings.rbacEnforcementEnabled = true)
    (authenticated : (getCurrentActor app.services settings request world.now world.keys
      .initial).1 = .ok actor)
    (_registered : getRouteSpec request.method (routeTemplate app request) = some spec) :
    DenyEnforced app world request actor spec ↔
      (¬ DeniedAtOwner app world request actor spec ∧
        ∃ scope, owningScope app world request spec = .found scope) ∨
      app.overLimit request = none ∧
        (RefusedByRbac app world request actor ∨
          ¬ RaisedByRbac world request actor ∧ RefusedByCsrf app world request) := by
  rw [← refused_iff enabled on authenticated]
  constructor
  · intro enforced
    by_cases refused : Refused app world request
    · exact .inr refused
    · refine .inl ⟨fun denied => refused (enforced.denied denied), ?_⟩
      by_contra unresolved
      push Not at unresolved
      exact refused (enforced.unresolved unresolved)
  · rintro (⟨undenied, scope, resolved⟩ | refused)
    · exact ⟨fun denied => absurd denied undenied, fun unresolved => absurd resolved (unresolved scope)⟩
    · exact ⟨fun _ => refused, fun _ => refused⟩

/-! ### A run of a team -/

def readsRun : HttpRequest where
  method := "GET"
  path := "/api/v1/workflows/runs/r1".toList
  authorization := some "Bearer token"
  apiKey := none
  teamContext := none
  builderToken := none

def enforcingApp : App where
  settings := some { rbacEnforcementEnabled := true, allowUnscopedKeys := true
                     builderEnabled := true, environment := "production" }
  services :=
    { decodeAccessToken := fun _ =>
        some { jti := none, sub := some "alice", orgId := none, orgRole := none }
      isTokenRevoked := fun _ => false, hashKey := id, hasKeyService := true }
  hasSessionFactory := true
  hasBuilderTokens := true
  overLimit := fun _ => none
  fullMatches := fun _ => ["/api/v1/workflows/runs/{run_id}".toList]
  pathParams := fun _ => [("run_id", "r1")]

def denyAt (scope : Scope) : DenyAssignment :=
  { id := "deny", principalId := "alice", permission := "run:read", scopeType := scope.scopeType
    scopeId := scope.scopeId, reason := none, expiresAt := none }

def deniedWorld (scope : Scope) (owner : Option Scope) : World where
  db := { oneRole.assign (readerAt .platform) with denyAssignments := [denyAt scope] }
  resources :=
    { workflowDefinitions := [], workflowRuns := [{ id := "r1", owningScope := owner }]
      memoryRecords := [], policyRules := [], approvalRequests := [], namespaceBindings := [] }
  keys := []
  builderTokens := []
  redis := none
  now := 0
  clock := { denies := 0, assignments := 0 }

theorem readsRun_requires :
    getRequiredPermission readsRun.method readsRun.path = some "run:read" := by
  have listed : (routePermissionMap.any fun entry =>
      entry.1 == api "GET" ["workflows", "runs", .param "run_id"]) = true := by
    decide +kernel
  obtain ⟨⟨_, spec⟩, mapped, same⟩ := List.any_eq_true.mp listed
  obtain rfl := eq_of_beq same
  have specifications := List.all_eq_true.mp exceptional_specified _ mapped
  simp only [Bool.and_eq_true, Bool.or_eq_true, bne_self_eq_false, Bool.false_eq_true, false_or,
    beq_iff_eq] at specifications
  have usual : ¬ Exceptional (api "GET" ["workflows", "runs", .param "run_id"])
      fun _ => "r1".toList := by
    unfold Exceptional
    decide
  have unrivalled : Unrivalled (api "GET" ["workflows", "runs", .param "run_id"])
      (joined ((api "GET" ["workflows", "runs", .param "run_id"]).filled fun _ => "r1".toList)
        false) := by
    unfold Unrivalled
    decide +kernel
  have required := required_of_unexceptional mapped (fun _ => by decide) unrivalled usual
    (show upper "GET" = "GET" from rfl)
  exact required.trans specifications.1.1.1

theorem readsRun_registered : getRouteSpec readsRun.method (routeTemplate enforcingApp readsRun) =
    some { permission := "run:read", scopeResolver := "run_by_id" } := by
  decide +kernel

/-- A deny at the platform is enforced, for a run of a team as well. -/
theorem platform_deny_enforced : DenyEnforced enforcingApp
    (deniedWorld .platform (some { scopeType := "TEAM", scopeId := "blue" })) readsRun "alice"
    { permission := "run:read", scopeResolver := "run_by_id" } := by
  refine (denyEnforced_iff rfl rfl rfl readsRun_registered).mpr (.inr ⟨rfl, .inl ?_⟩)
  refine ⟨"run:read", readsRun_requires, .inr (.inr fun principalId known => ?_)⟩
  obtain rfl := Option.some.inj known
  exact .inl ⟨denyAt .platform, List.mem_singleton_self _, rfl, rfl, .inl rfl, rfl⟩

theorem readsRun_passes (owner : Option Scope) : ¬ Refused enforcingApp
    (deniedWorld { scopeType := "TEAM", scopeId := "blue" } owner) readsRun := by
  have allows := @platform_allows (deniedWorld { scopeType := "TEAM", scopeId := "blue" } owner)
    "alice" "run:read" _ rfl rfl
  rw [refused_iff rfl rfl rfl]
  rintro ⟨-, ⟨required, requires, denied⟩ | ⟨-, -, workflowId, workflow, -⟩⟩
  · rw [readsRun_requires] at requires
    obtain rfl := Option.some.inj requires
    rcases denied with deny | missing | denied
    · exact absurd deny (by decide)
    · cases missing
    · exact allows.2 denied
  · have none : builderWorkflow readsRun = none := by decide
    rw [none] at workflow
    cases workflow

/-- A deny at the team that owns the run lets the request through, and so does a run without an
owner. -/
theorem team_deny_passes :
    (getCurrentActor enforcingApp.services
      { rbacEnforcementEnabled := true, allowUnscopedKeys := true, builderEnabled := true
        environment := "production" } readsRun 0 [] .initial).1 = .ok "alice" ∧
    getRouteSpec "GET" (routeTemplate enforcingApp readsRun) =
      some { permission := "run:read", scopeResolver := "run_by_id" } ∧
    ¬ DenyEnforced enforcingApp
      (deniedWorld { scopeType := "TEAM", scopeId := "blue" }
        (some { scopeType := "TEAM", scopeId := "blue" })) readsRun "alice"
      { permission := "run:read", scopeResolver := "run_by_id" } ∧
    ¬ DenyEnforced enforcingApp
      (deniedWorld { scopeType := "TEAM", scopeId := "blue" } none) readsRun "alice"
      { permission := "run:read", scopeResolver := "run_by_id" } := by
  refine ⟨rfl, readsRun_registered, fun enforced => ?_, fun enforced => ?_⟩
  · refine readsRun_passes _ (enforced.denied ⟨"alice", { scopeType := "TEAM", scopeId := "blue" },
      denyAt { scopeType := "TEAM", scopeId := "blue" }, rfl, rfl, ?_⟩)
    exact ⟨List.mem_singleton_self _, rfl, rfl, .inl rfl, by decide⟩
  · exact readsRun_passes _ (enforced.unresolved nofun)

end SyndicateClaw.Authz
