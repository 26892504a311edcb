import SyndicateClaw.Authz.Cache
import SyndicateClaw.Authz.ScopeResolvers
import SyndicateClaw.Security.ApiKeys

/-! The middlewares in front of the handlers, in the order in which `create_app` adds them. -/

namespace SyndicateClaw.Authz

open Security

structure Response where
  statusCode : Nat
  detail : String
  reason : Option String
  deriving DecidableEq

/-- The next application is called, or there is an answer or an exception before. -/
inductive Passage where
  | proceeds (state : RequestState)
  | answered (response : Response)
  | raised
  deriving DecidableEq

structure BuilderToken where
  token : String
  tokenType : String
  workflowId : Option String
  expiresAt : Time

/-- What the application holds: its settings, services and routes. What the limiter complains
of, the templates that match a request in full, and the parameters with which it is routed come from
code outside. -/
structure App where
  settings : Option Settings
  services : AuthServices
  hasSessionFactory : Bool
  hasBuilderTokens : Bool
  overLimit : HttpRequest → Option String
  fullMatches : HttpRequest → List (List Char)
  pathParams : HttpRequest → PathParams

/-- The stores, and the clocks during a request. -/
structure World where
  db : Database
  resources : Resources
  keys : List ApiKeyRow
  builderTokens : List BuilderToken
  redis : Option (Client × Redis)
  now : Time
  clock : Clock

/-! ### `ShadowRBACMiddleware` -/

inductive TeamContextError where
  | multipleTeams
  | notMember
  deriving DecidableEq

/-- `TeamContextValidator.validate`. -/
def validateTeamContext (db : Database) (principalId : String) (teamContext : Option String) :
    Except TeamContextError Unit :=
  let memberships := (db.memberships.filter fun m => m.principalId = principalId).map
    TeamMembership.teamId
  match teamContext with
  | none => if memberships.length > 1 then .error .multipleTeams else .ok ()
  | some team => if team ∈ memberships then .ok () else .error .notMember

def forbiddenFor (reason : String) : Passage :=
  .answered { statusCode := 403, detail := "Forbidden", reason := some reason }

/-- `_resolve_route_template`. -/
def routeTemplate (app : App) (request : HttpRequest) : List Char :=
  match (app.fullMatches request).insertionSort fun a b => a.count '{' ≤ b.count '{' with
  | [] => request.path
  | first :: _ => first

/-- `evaluate` with the application's Redis. -/
def World.evaluate (world : World) (principalId permission : String) (scope : Option Scope) :
    Option AuthzResult :=
  match world.redis with
  | none => Authz.evaluate world.db (some principalId) permission scope world.clock
  | some (client, store) =>
      (evaluateCached world.db client store world.now (some principalId) permission scope
        world.clock).1

/-- The resource scope that is passed to the evaluator; `none` there is its default. -/
def Resolution.resourceScope : Resolution → Option Scope
  | .found scope => some scope
  | .unresolved | .raised => none

def enforceSpec (world : World) (request : HttpRequest) (params : PathParams)
    (state : RequestState) (actor : String) (spec : RouteAuthzSpec) : Passage :=
  match resolvePrincipalId world.db actor with
  | none => forbiddenFor "principal_not_found"
  | some principalId =>
      let context := validateTeamContext world.db principalId request.teamContext
      let resolution := spec.resolve world.db world.resources params
      if resolution = .raised then forbiddenFor "scope_resolution_failed"
      else match context with
        | .error .multipleTeams => forbiddenFor "team_context_required"
        | .error .notMember => forbiddenFor "invalid_team_context"
        | .ok () =>
            match world.evaluate principalId spec.permission resolution.resourceScope with
            | none => .raised
            | some result =>
                if result.decision = .deny then forbiddenFor "rbac_deny" else .proceeds state

/-- `_enforce_rbac_if_enabled`. -/
def enforceRbacIfEnabled (app : App) (world : World) (request : HttpRequest) (params : PathParams)
    (state : RequestState) : Passage :=
  if app.settings.all fun settings => !settings.rbacEnforcementEnabled then .proceeds state
  else match state.actor with
    | none => .proceeds state
    | some actor =>
        let template := routeTemplate app request
        if actor = "anonymous" || isPublicRoute request.method template ||
            isExemptRoute request.method template then .proceeds state
        else match getRouteSpec request.method template with
          | none => .proceeds state
          | some spec =>
              if !app.hasSessionFactory then .proceeds state
              else enforceSpec world request params state actor spec

/-! ### `RBACMiddleware` -/

def forbidden : Passage := .answered { statusCode := 403, detail := "Forbidden", reason := none }

/-- `RBACMiddleware.dispatch`, up to the next application. -/
def rbacMiddleware (app : App) (world : World) (request : HttpRequest) (state : RequestState) :
    Passage :=
  match app.settings with
  | none => .proceeds state
  | some settings =>
      if !settings.rbacEnforcementEnabled then .proceeds state
      else match getCurrentActor app.services settings request world.now world.keys state with
        | (.error _, state, _) => .proceeds state
        | (.ok actor, state, _) =>
            match getRequiredPermission request.method request.path with
            | none => .proceeds state
            | some required =>
                if required = "DENY" || !app.hasSessionFactory then forbidden
                else match evaluate world.db (resolvePrincipalId world.db actor) required
                    (some .platform) world.clock with
                  | none => .raised
                  | some result =>
                      if result.decision = .deny then forbidden else .proceeds state

/-! ### `BuilderCSRFMiddleware` -/

/-- `BuilderTokenService.validate`, with the text of its `InvalidTokenError`. -/
def validateBuilderToken (world : World) (token workflowId : String) : Except String Unit :=
  match world.builderTokens.find? fun row => row.token = token with
  | none => .error "Token not found"
  | some row =>
      if row.tokenType ≠ "builder" then .error "Wrong token type"
      else if row.expiresAt < world.now then .error "Token expired"
      else if row.workflowId ≠ some workflowId then .error "Token not valid for this workflow"
      else .ok ()

/-- The workflow of a `PUT` that needs a builder token. -/
def builderWorkflow (request : HttpRequest) : Option String :=
  if upper request.method ≠ "PUT" then none
  else (afterPrefix "/api/v1/workflows/" (String.ofList request.path)).filter fun rest =>
    rest ≠ "" && !rest.toList.contains '/'

def builderCsrf (app : App) (world : World) (request : HttpRequest) (state : RequestState) :
    Passage :=
  if app.settings.all fun settings => !settings.builderEnabled then .proceeds state
  else match builderWorkflow request, truthy request.builderToken with
    | none, _ => .proceeds state
    | some _, none =>
        .answered { statusCode := 403, detail := "Missing X-Builder-Token", reason := none }
    | some workflowId, some token =>
        if !app.hasBuilderTokens then
          .answered
            { statusCode := 500, detail := "Builder token service unavailable", reason := none }
        else match validateBuilderToken world token workflowId with
          | .ok () => .proceeds state
          | .error detail => .answered { statusCode := 403, detail, reason := none }

/-! ### The stack -/

def Passage.next (passage : Passage) (inner : RequestState → Passage) : Passage :=
  match passage with
  | .proceeds state => inner state
  | .answered response => .answered response
  | .raised => .raised

def rateLimiter (app : App) (request : HttpRequest) (state : RequestState) : Passage :=
  match app.overLimit request with
  | none => .proceeds state
  | some detail => .answered { statusCode := 429, detail, reason := none }

/-- A request on its way to its handler. The outermost middleware sees neither an actor nor path
parameters: the one is set by `get_current_actor`, the others by the router. -/
def handle (app : App) (world : World) (request : HttpRequest) : Passage :=
  (enforceRbacIfEnabled app world request [] .initial).next fun state =>
    (rateLimiter app request state).next fun state =>
      (rbacMiddleware app world request state).next fun state =>
        builderCsrf app world request state

/-! ### What gets through -/

variable {app : App} {world : World} {request : HttpRequest}

theorem enforce_initial (params : PathParams) :
    enforceRbacIfEnabled app world request params .initial = .proceeds .initial := by
  unfold enforceRbacIfEnabled
  split
  · rfl
  · rfl

theorem handle_eq : handle app world request =
    (rateLimiter app request .initial).next fun state =>
      (rbacMiddleware app world request state).next fun state =>
        builderCsrf app world request state := by
  unfold handle
  rw [enforce_initial]
  rfl

end SyndicateClaw.Authz
