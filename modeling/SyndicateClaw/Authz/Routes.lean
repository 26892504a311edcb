import SyndicateClaw.Data.Dict
import SyndicateClaw.Data.Paths

/-! The registry of routes: which permission a request requires, and where its resource is. -/

namespace SyndicateClaw.Authz

/-! ### Templates -/

/-- What stands between two slashes of a template: a text, or the name of a parameter in braces. -/
inductive Segment where
  | lit (text : String)
  | param (name : String)
  deriving DecidableEq

instance : Coe String Segment := ⟨.lit⟩

def Segment.text : Segment → String
  | .lit text => text
  | .param name => "\x7b" ++ name ++ "\x7d"

/-- A method and a template, which may end in a slash. -/
structure Route where
  method : String
  segments : List Segment
  slash : Bool
  deriving DecidableEq

def Route.path (route : Route) : List Char :=
  ['/'].intercalate
    ([] :: route.segments.map (fun segment => segment.text.toList) ++
      if route.slash then [[]] else [])

def route (method : String) (segments : List Segment) : Route := { method, segments, slash := false }

/-- Under `/api/v1`. -/
def api (method : String) (segments : List Segment) : Route :=
  route method ("api" :: "v1" :: segments)

/-- Under `/api/v1`, with a slash at the end. -/
def collection (method : String) (segments : List Segment) : Route :=
  { api method segments with slash := true }

/-- What the middleware reads of a route's specification. -/
structure RouteAuthzSpec where
  permission : String
  scopeResolver : String := "platform"
  deriving DecidableEq

/-! ### Tables -/

/-- `PERMISSION_VOCABULARY`. -/
def permissionVocabulary : List String :=
  ["workflow:read", "workflow:create", "workflow:manage", "workflow:version", "run:read",
    "run:create", "run:control", "run:replay", "agent:read", "agent:register", "agent:manage",
    "agent:heartbeat", "agent:admin", "message:send", "message:broadcast", "message:read",
    "message:ack", "approval:read", "approval:request", "approval:decide", "approval:manage",
    "policy:read", "policy:evaluate", "policy:manage", "tool:read", "tool:execute", "tool:manage",
    "memory:read", "memory:write", "memory:update", "memory:delete", "memory:manage", "org:read",
    "org:manage", "schedule:read", "schedule:manage", "audit:read", "audit:export",
    "inference:read", "apikey:read", "apikey:manage", "admin:*"]

def routePermissionMap : Dict Route RouteAuthzSpec :=
  [(collection "POST" ["workflows"], { permission := "workflow:create" }),
    (collection "GET" ["workflows"],
      { permission := "workflow:read", scopeResolver := "actor_scope" }),
    (api "GET" ["workflows", .param "workflow_id"],
      { permission := "workflow:read", scopeResolver := "workflow_by_id" }),
    (api "PUT" ["workflows", .param "workflow_id"],
      { permission := "workflow:manage", scopeResolver := "workflow_by_id" }),
    (api "POST" ["workflows", .param "workflow_id", "runs"],
      { permission := "run:create", scopeResolver := "workflow_for_run_start" }),
    (api "GET" ["workflows", .param "workflow_id", "versions"],
      { permission := "workflow:manage", scopeResolver := "workflow_by_id" }),
    (api "GET" ["workflows", .param "workflow_id", "versions", .param "version"],
      { permission := "workflow:manage", scopeResolver := "workflow_by_id" }),
    (api "POST" ["workflows", .param "workflow_id", "rollback"],
      { permission := "workflow:manage", scopeResolver := "workflow_by_id" }),
    (api "GET" ["workflows", .param "workflow_id", "diff"],
      { permission := "workflow:manage", scopeResolver := "workflow_by_id" }),
    (api "POST" ["workflows", .param "workflow_id", "builder-token"],
      { permission := "workflow:manage", scopeResolver := "workflow_by_id" }),
    (api "GET" ["workflows", "runs"], { permission := "run:read", scopeResolver := "actor_scope" }),
    (api "GET" ["workflows", "runs", .param "run_id"],
      { permission := "run:read", scopeResolver := "run_by_id" }),
    (api "POST" ["workflows", "runs", .param "run_id", "pause"],
      { permission := "run:control", scopeResolver := "run_by_id" }),
    (api "POST" ["workflows", "runs", .param "run_id", "resume"],
      { permission := "run:control", scopeResolver := "run_by_id" }),
    (api "POST" ["workflows", "runs", .param "run_id", "cancel"],
      { permission := "run:control", scopeResolver := "run_by_id" }),
    (api "POST" ["workflows", "runs", .param "run_id", "replay"],
      { permission := "run:replay", scopeResolver := "run_by_id" }),
    (api "GET" ["workflows", "runs", .param "run_id", "nodes"],
      { permission := "run:read", scopeResolver := "run_by_id" }),
    (api "GET" ["workflows", "runs", .param "run_id", "timeline"],
      { permission := "audit:read", scopeResolver := "run_by_id" }),
    (api "POST" ["runs", .param "run_id", "streaming-token"],
      { permission := "run:read", scopeResolver := "run_by_id" }),
    (api "GET" ["runs", .param "run_id", "stream"],
      { permission := "run:read", scopeResolver := "run_by_id" }),
    (api "GET" ["runs", .param "run_id", "events"],
      { permission := "run:read", scopeResolver := "run_by_id" }),
    (api "POST" ["agents"], { permission := "agent:register" }),
    (api "GET" ["agents"], { permission := "agent:read", scopeResolver := "actor_scope" }),
    (api "GET" ["agents", .param "id"], { permission := "agent:read" }),
    (api "PUT" ["agents", .param "id"], { permission := "agent:manage" }),
    (api "DELETE" ["agents", .param "id"], { permission := "agent:manage" }),
    (api "POST" ["agents", .param "id", "heartbeat"], { permission := "agent:heartbeat" }),
    (api "GET" ["agents", .param "agent_id"], { permission := "agent:read" }),
    (api "PUT" ["agents", .param "agent_id"], { permission := "agent:manage" }),
    (api "DELETE" ["agents", .param "agent_id"], { permission := "agent:manage" }),
    (api "POST" ["agents", .param "agent_id", "heartbeat"], { permission := "agent:heartbeat" }),
    (api "POST" ["messages"], { permission := "message:send" }),
    (api "GET" ["messages"], { permission := "message:read", scopeResolver := "actor_scope" }),
    (api "GET" ["messages", .param "id"], { permission := "message:read" }),
    (api "POST" ["messages", .param "id", "ack"], { permission := "message:ack" }),
    (api "POST" ["messages", .param "id", "reply"], { permission := "message:send" }),
    (api "GET" ["messages", .param "message_id"], { permission := "message:read" }),
    (api "POST" ["messages", .param "message_id", "ack"], { permission := "message:ack" }),
    (api "POST" ["messages", .param "message_id", "reply"], { permission := "message:send" }),
    (api "POST" ["topics", .param "topic", "subscribe"], { permission := "agent:manage" }),
    (api "DELETE" ["topics", .param "topic", "subscribe"], { permission := "agent:manage" }),
    (api "GET" ["topics"], { permission := "agent:read", scopeResolver := "actor_scope" }),
    (api "POST" ["organizations"], { permission := "admin:*" }),
    (api "GET" ["organizations", .param "org_id"], { permission := "org:read" }),
    (api "PUT" ["organizations", .param "org_id"], { permission := "org:manage" }),
    (api "DELETE" ["organizations", .param "org_id"], { permission := "org:manage" }),
    (api "POST" ["organizations", .param "org_id", "members"], { permission := "org:manage" }),
    (api "GET" ["organizations", .param "org_id", "members"], { permission := "org:read" }),
    (api "DELETE" ["organizations", .param "org_id", "members", .param "member_actor"],
      { permission := "org:manage" }),
    (api "PUT" ["organizations", .param "org_id", "members", .param "member_actor", "role"],
      { permission := "org:manage" }),
    (collection "POST" ["memory"], { permission := "memory:write" }),
    (api "GET" ["memory", .param "namespace", .param "key"],
      { permission := "memory:read", scopeResolver := "memory_namespace" }),
    (api "GET" ["memory", .param "namespace"],
      { permission := "memory:read", scopeResolver := "memory_namespace" }),
    (api "PUT" ["memory", .param "record_id"],
      { permission := "memory:write", scopeResolver := "memory_record_by_id" }),
    (api "DELETE" ["memory", .param "record_id"],
      { permission := "memory:delete", scopeResolver := "memory_record_by_id" }),
    (api "GET" ["memory", .param "record_id", "lineage"],
      { permission := "memory:read", scopeResolver := "memory_record_by_id" }),
    (collection "GET" ["policy"], { permission := "policy:read" }),
    (collection "POST" ["policies"], { permission := "policy:manage" }),
    (collection "GET" ["policies"],
      { permission := "policy:read", scopeResolver := "actor_scope" }),
    (api "GET" ["policies", .param "rule_id"],
      { permission := "policy:read", scopeResolver := "policy_by_id" }),
    (api "PUT" ["policies", .param "rule_id"],
      { permission := "policy:manage", scopeResolver := "policy_by_id" }),
    (api "DELETE" ["policies", .param "rule_id"],
      { permission := "policy:manage", scopeResolver := "policy_by_id" }),
    (api "POST" ["policies", "evaluate"], { permission := "policy:evaluate" }),
    (collection "GET" ["inference"], { permission := "inference:read" }),
    (api "POST" ["inference", "chat"], { permission := "inference:invoke_chat" }),
    (api "POST" ["inference", "embedding"], { permission := "inference:invoke_embedding" }),
    (api "POST" ["inference", "chat", "stream"], { permission := "inference:invoke_chat" }),
    (collection "GET" ["providers"], { permission := "provider:read" }),
    (api "POST" ["providers", "catalog", "sync-models-dev"],
      { permission := "catalog:sync_models_dev" }),
    (api "POST" ["providers", .param "name", "test"], { permission := "admin:*" }),
    (collection "GET" ["tools"], { permission := "tool:read" }),
    (api "GET" ["tools", .param "tool_name"], { permission := "tool:read" }),
    (api "POST" ["tools", .param "tool_name", "execute"], { permission := "tool:execute" }),
    (api "POST" ["gate", "approvals"], { permission := "approval:request" }),
    (api "GET" ["gate", "approvals", .param "approval_id"],
      { permission := "approval:read", scopeResolver := "approval_by_id" }),
    (collection "GET" ["approvals"],
      { permission := "approval:read", scopeResolver := "actor_scope" }),
    (api "GET" ["approvals", .param "approval_id"],
      { permission := "approval:read", scopeResolver := "approval_by_id" }),
    (api "POST" ["approvals", .param "approval_id", "approve"],
      { permission := "approval:decide", scopeResolver := "approval_by_id" }),
    (api "POST" ["approvals", .param "approval_id", "reject"],
      { permission := "approval:decide", scopeResolver := "approval_by_id" }),
    (api "GET" ["approvals", "runs", .param "run_id"],
      { permission := "approval:read", scopeResolver := "approval_run" }),
    (collection "GET" ["audit"], { permission := "audit:read", scopeResolver := "actor_scope" }),
    (api "GET" ["audit", "trace", .param "trace_id"],
      { permission := "audit:read", scopeResolver := "audit_trace" }),
    (api "GET" ["audit", "runs", .param "run_id", "timeline"],
      { permission := "audit:read", scopeResolver := "run_by_id" }),
    (api "GET" ["admin", "dashboard"], { permission := "admin:*" }),
    (api "GET" ["admin", "connectors"], { permission := "admin:*" }),
    (api "GET" ["admin", "approvals"], { permission := "admin:*" }),
    (api "POST" ["admin", "approvals", .param "id", "decide"], { permission := "admin:*" }),
    (api "GET" ["admin", "workflows", "runs"], { permission := "admin:*" }),
    (api "GET" ["admin", "workflows", "runs", .param "run_id"], { permission := "admin:*" }),
    (api "GET" ["admin", "memory", "namespaces"], { permission := "admin:*" }),
    (api "DELETE" ["admin", "memory", "namespaces", .param "namespace"],
      { permission := "admin:*" }),
    (api "GET" ["admin", "audit"], { permission := "admin:*" }),
    (api "GET" ["admin", "providers"], { permission := "admin:*" }),
    (api "GET" ["admin", "api-keys"], { permission := "admin:*" }),
    (api "POST" ["admin", "api-keys"], { permission := "admin:*" }),
    (api "DELETE" ["admin", "api-keys", .param "key_id"], { permission := "admin:*" }),
    (route "POST" ["webhooks", "telegram", "update"], { permission := "admin:*" }),
    (route "POST" ["webhooks", "discord", "interactions"], { permission := "admin:*" }),
    (route "POST" ["webhooks", "slack", "events"], { permission := "admin:*" }),
    (route "POST" ["webhooks", "slack", "command"], { permission := "admin:*" })]

/-- The entries with which `ROUTE_REGISTRY` is updated. -/
def forwardRoutes : Dict Route (Option String) :=
  [(api "GET" ["workflows"], some "workflow:read"),
    (api "POST" ["workflows"], some "workflow:create"),
    (api "GET" ["workflows", .param "id"], some "workflow:read"),
    (api "PUT" ["workflows", .param "id"], some "workflow:manage"),
    (api "DELETE" ["workflows", .param "id"], some "workflow:manage"),
    (api "GET" ["workflows", .param "id", "versions"], some "workflow:manage"),
    (api "GET" ["workflows", .param "id", "versions", .param "version"], some "workflow:manage"),
    (api "POST" ["workflows", .param "id", "rollback"], some "workflow:manage"),
    (api "GET" ["workflows", .param "id", "diff"], some "workflow:manage"),
    (api "GET" ["workflows", .param "id", "runs"], some "run:read"),
    (api "POST" ["workflows", .param "id", "runs"], some "run:create"),
    (api "GET" ["runs", .param "id"], some "run:read"),
    (api "POST" ["runs", .param "id", "streaming-token"], some "run:read"),
    (api "GET" ["runs", .param "id", "stream"], some "run:read"),
    (api "GET" ["runs", .param "id", "events"], some "run:read"),
    (api "POST" ["runs", .param "id", "pause"], some "run:control"),
    (api "POST" ["runs", .param "id", "resume"], some "run:control"),
    (api "POST" ["runs", .param "id", "cancel"], some "run:control"),
    (api "POST" ["runs", .param "id", "replay"], some "run:replay"),
    (api "GET" ["runs", .param "id", "nodes"], some "run:read"),
    (api "POST" ["approvals", .param "id", "approve"], some "approval:decide"),
    (api "POST" ["approvals", .param "id", "reject"], some "approval:decide"),
    (api "GET" ["approvals", .param "id"], some "approval:read"),
    (api "GET" ["approvals"], some "approval:read"),
    (api "POST" ["policies"], some "policy:manage"),
    (api "GET" ["policies"], some "policy:read"),
    (api "GET" ["policies", .param "id"], some "policy:read"),
    (api "PUT" ["policies", .param "id"], some "policy:manage"),
    (api "DELETE" ["policies", .param "id"], some "policy:manage"),
    (api "GET" ["tools"], some "tool:read"),
    (api "POST" ["tools", .param "name", "execute"], some "tool:execute"),
    (api "GET" ["memory"], some "memory:read"),
    (api "POST" ["memory"], some "memory:write"),
    (api "GET" ["memory", .param "id"], some "memory:read"),
    (api "PUT" ["memory", .param "id"], some "memory:update"),
    (api "DELETE" ["memory", .param "id"], some "memory:delete"),
    (api "GET" ["memory", .param "id", "lineage"], some "memory:read"),
    (api "GET" ["audit"], some "audit:read"),
    (api "GET" ["api-keys"], some "admin:*"),
    (api "POST" ["api-keys"], some "admin:*"),
    (api "DELETE" ["api-keys", .param "id"], some "admin:*"),
    (api "GET" ["api-keys", "scopes"], none),
    (api "POST" ["providers", .param "name", "test"], some "admin:*"),
    (api "POST" ["agents"], some "agent:register"),
    (api "GET" ["agents"], some "agent:read"),
    (api "GET" ["agents", .param "id"], some "agent:read"),
    (api "PUT" ["agents", .param "id"], some "agent:manage"),
    (api "DELETE" ["agents", .param "id"], some "agent:manage"),
    (api "POST" ["agents", .param "id", "heartbeat"], some "agent:heartbeat"),
    (api "POST" ["messages"], some "message:send"),
    (api "GET" ["messages"], some "message:read"),
    (api "GET" ["messages", .param "id"], some "message:read"),
    (api "POST" ["messages", .param "id", "ack"], some "message:ack"),
    (api "POST" ["messages", .param "id", "reply"], some "message:send"),
    (api "POST" ["topics", .param "topic", "subscribe"], some "agent:manage"),
    (api "DELETE" ["topics", .param "topic", "subscribe"], some "agent:manage"),
    (api "GET" ["topics"], some "agent:read"),
    (route "GET" ["healthz"], none),
    (route "GET" ["readyz"], none),
    (api "GET" ["info"], none),
    (api "POST" ["schedules"], some "schedule:manage"),
    (api "GET" ["schedules"], some "schedule:read"),
    (api "GET" ["schedules", .param "schedule_id"], some "schedule:read"),
    (api "PUT" ["schedules", .param "schedule_id"], some "schedule:manage"),
    (api "DELETE" ["schedules", .param "schedule_id"], some "schedule:manage"),
    (api "POST" ["schedules", .param "schedule_id", "pause"], some "schedule:manage"),
    (api "POST" ["schedules", .param "schedule_id", "resume"], some "schedule:manage"),
    (api "GET" ["schedules", .param "schedule_id", "preview-next-run"], some "schedule:read"),
    (api "POST" ["organizations"], some "admin:*"),
    (api "GET" ["organizations", .param "id"], some "org:read"),
    (api "PUT" ["organizations", .param "id"], some "org:manage"),
    (api "DELETE" ["organizations", .param "id"], some "org:manage"),
    (api "POST" ["organizations", .param "id", "members"], some "org:manage"),
    (api "GET" ["organizations", .param "id", "members"], some "org:read"),
    (api "DELETE" ["organizations", .param "id", "members", .param "id"], some "org:manage"),
    (api "PUT" ["organizations", .param "id", "members", .param "id", "role"], some "org:manage"),
    (api "POST" ["workflows", .param "id", "builder-token"], some "workflow:manage"),
    (route "GET" ["builder", "new"], none),
    (route "GET" ["builder", .param "id"], none)]

def exemptRoutes : List Route :=
  [api "GET" ["runs", .param "id", "stream"],
    api "GET" ["runs", .param "run_id", "stream"],
    route "POST" ["webhooks", "telegram", "update"],
    route "POST" ["webhooks", "discord", "interactions"],
    route "POST" ["webhooks", "slack", "events"],
    route "POST" ["webhooks", "slack", "command"]]

def publicRoutes : List Route :=
  [route "GET" ["healthz"],
    route "GET" ["readyz"],
    api "GET" ["info"],
    route "GET" ["builder", "new"],
    route "GET" ["builder", .param "workflow_id"]]

/-- `ROUTE_REGISTRY`. -/
def routeRegistry : Dict Route (Option String) :=
  Dict.update
    (routePermissionMap.map fun (route, spec) =>
      (route, some (if spec.permission ∈ permissionVocabulary then spec.permission else "admin:*")))
    forwardRoutes

/-! ### Functions -/

/-- `str.upper` of a method. -/
def upper (method : String) : String := String.ofList (method.toList.map Char.toUpper)

def getRouteSpec (method : String) (path : List Char) : Option RouteAuthzSpec :=
  (routePermissionMap.find? fun entry =>
    entry.1.method = upper method && entry.1.path = path).map Prod.snd

def isPublicRoute (method : String) (path : List Char) : Bool :=
  publicRoutes.any fun route => route.method = upper method && route.path = path

def isExemptRoute (method : String) (path : List Char) : Bool :=
  exemptRoutes.any fun route => route.method = upper method && route.path = path

/-- A text without the one line break that `$` leaves behind a match. -/
def chomp (part : List Char) : List Char :=
  if part.getLast? = some '\n' then part.dropLast else part

def ulidChar (c : Char) : Bool :=
  '0' ≤ c && c ≤ '9' || 'A' ≤ c && c ≤ 'H' || c == 'J' || c == 'K' || c == 'M' || c == 'N' ||
    'P' ≤ c && c ≤ 'T' || 'V' ≤ c && c ≤ 'Z'

def hexChar (c : Char) : Bool :=
  '0' ≤ c && c ≤ '9' || 'a' ≤ c && c ≤ 'f' || 'A' ≤ c && c ≤ 'F'

/-- `_ULID_RE.match`. -/
def isUlid (part : List Char) : Bool := (chomp part).length == 26 && (chomp part).all ulidChar

/-- `_UUID_RE.match`. -/
def isUuid (part : List Char) : Bool :=
  let groups := (chomp part).splitOn '-'
  groups.map List.length == [8, 4, 4, 4, 12] && groups.all fun group => group.all hexChar

def normalizePart (part : List Char) : List Char :=
  if isUlid part || isUuid part then "{id}".toList else part

/-- `_normalize_path`. -/
def normalizePath (path : List Char) : List Char :=
  if path = [] then path
  else
    let trimmed := path.rdropWhile (· == '/')
    if trimmed = [] then ['/']
    else match trimmed.splitOn '/' with
      | [] => []
      | first :: rest => ['/'].intercalate (first :: rest.map normalizePart)

/-- The parts of a path that are not empty, without the slashes around it. -/
def pathParts (path : List Char) : List (List Char) :=
  Paths.parts '/' ((path.dropWhile (· == '/')).rdropWhile (· == '/'))

/-- `tpl_part.startswith("{") and tpl_part.endswith("}")`. -/
def isParameter (part : List Char) : Bool := part.head? == some '{' && part.getLast? == some '}'

/-- `_path_matches_template`. -/
def pathMatchesTemplate (path template : List Char) : Bool :=
  let parts := pathParts path
  let tplParts := pathParts template
  if parts.length ≠ tplParts.length then false
  else (parts.zip tplParts).all fun (part, tplPart) => isParameter tplPart || part == tplPart

def requirement (entry : Route × Option String) : Option String :=
  if entry.1 ∈ exemptRoutes then none else entry.2

def registered (method : String) (test : List Char → Bool) : Option (Option String) :=
  (routeRegistry.find? fun entry => entry.1.method == method && test entry.1.path).map requirement

/-- `get_required_permission`; the answer `DENY` is not a permission. -/
def getRequiredPermission (method : String) (path : List Char) : Option String :=
  let normalized := normalizePath path
  match registered (upper method) (· == normalized) with
  | some required => required
  | none =>
      let altPath := if normalized.getLast? = some '/' then normalized.dropLast
        else normalized ++ ['/']
      match registered (upper method) (· == altPath) with
      | some required => required
      | none =>
          match registered (upper method) (pathMatchesTemplate normalized) with
          | some required => required
          | none => some "DENY"

end SyndicateClaw.Authz
