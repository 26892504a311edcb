import SyndicateClaw.Authz.Evaluator
import SyndicateClaw.Authz.Routes
import SyndicateClaw.Policy.Engine

/-! `ApiKeyService`: creating a key within its owner's permissions, and verifying one. -/

namespace SyndicateClaw.Security

open Authz Policy

/-! ### Scopes -/

/-- `str.isspace` of a character. -/
def isSpace (c : Char) : Bool :=
  let n := c.toNat
  9 ≤ n && n ≤ 13 || 28 ≤ n && n ≤ 32 || n == 0x85 || n == 0xa0 || n == 0x1680 ||
    0x2000 ≤ n && n ≤ 0x200a || n == 0x2028 || n == 0x2029 || n == 0x202f || n == 0x205f ||
    n == 0x3000

def strip (text : String) : String :=
  String.ofList ((text.toList.dropWhile isSpace).rdropWhile isSpace)

/-- `_SCOPE_GLOB_RE.search`. -/
def hasGlob (scope : String) : Bool := scope.toList.any fun c => c ∈ ['*', '?', '[', ']']

/-- The roles that `_ACTOR_PERMISSIONS_SQL` joins: of every assignment that is not revoked, also of
a team, whether it has expired or not. -/
def assignedRoles (db : Database) (principalId : String) : List Role :=
  (resolvePermissions db principalId).map AssignmentRow.role

/-- `_resolve_actor_permissions`; `none` where the query raises. -/
def resolveActorPermissions (db : Database) (actor : String) : Option (List String) :=
  match resolvePrincipalId db actor with
  | none => some []
  | some principalId => ((assignedRoles db principalId).mapM Role.permissions).map List.flatten

/-- The errors of `create_api_key`. -/
inductive CreateError where
  | tooMany
  | wildcard
  | unknown (scopes : List String)
  | aboveCeiling (missing : List String)
  | database
  deriving DecidableEq

def normalizeScopes (scopes : List String) : List String :=
  (scopes.map strip).filter fun scope => scope ≠ ""

/-- `_validate_scopes`. -/
def validateScopes (db : Database) (actor : String) :
    Option (List String) → Except CreateError (List String)
  | none => .ok []
  | some scopes =>
      let normalized := normalizeScopes scopes
      if normalized.length > 50 then .error .tooMany
      else if normalized.any hasGlob then .error .wildcard
      else match normalized.filter fun scope => scope ∉ permissionVocabulary with
        | first :: rest => .error (.unknown (first :: rest))
        | [] =>
            match resolveActorPermissions db actor with
            | none => .error .database
            | some permissions =>
                if "admin:*" ∈ permissions then .ok normalized
                else match normalized.filter fun scope => !permissions.any (fnmatch scope) with
                  | first :: rest => .error (.aboveCeiling (first :: rest))
                  | [] => .ok normalized

/-! ### Keys -/

structure ApiKeyRow where
  id : String
  keyHash : String
  keyPrefix : String
  actor : String
  description : String
  revoked : Bool
  expiresAt : Option Time
  lastUsedAt : Option Time
  scopes : List String

/-- What a caller of `create_api_key` gives. -/
structure NewKey where
  actor : String
  scopes : Option (List String)
  description : String
  expiresAt : Option Time

/-- What is drawn for a key: `secrets.token_urlsafe(32)` and the row's ULID. -/
structure Draw where
  token : String
  id : String

def Draw.rawKey (draw : Draw) : String := "sc-" ++ draw.token

section

variable (hashKey : String → String)

/-- `create_api_key`: the identifier and the raw key, and the table with the new row. The unique
columns keep a row with a known hash or identifier out. -/
def createApiKey (db : Database) (draw : Draw) (new : NewKey) (keys : List ApiKeyRow) :
    Except CreateError ((String × String) × List ApiKeyRow) := do
  let scopes ← validateScopes db new.actor new.scopes
  let keyHash := hashKey draw.rawKey
  if keys.any fun row => row.keyHash = keyHash || row.id = draw.id then
    throw .database
  let row : ApiKeyRow :=
    { id := draw.id, keyHash, keyPrefix := String.ofList (draw.rawKey.toList.take 12)
      actor := new.actor, description := new.description, revoked := false
      expiresAt := new.expiresAt, lastUsedAt := none, scopes }
  return ((draw.id, draw.rawKey), keys ++ [row])

structure ApiKeyVerificationResult where
  actor : String
  keyId : String
  scopes : List String
  unscoped : Bool
  deriving DecidableEq

/-- `UnscopedApiKeyNotPermittedError`. -/
inductive UnscopedApiKey where
  | notPermitted
  deriving DecidableEq

/-- `verify_key_details`: what the key stands for, and the table with the time of its use. -/
def verifyKeyDetails (rawKey : String) (allowUnscopedKeys : Bool) (now : Time)
    (keys : List ApiKeyRow) :
    Except UnscopedApiKey (Option ApiKeyVerificationResult) × List ApiKeyRow :=
  match keys.find? fun row => row.keyHash = hashKey rawKey with
  | none => (.ok none, keys)
  | some row =>
      if row.revoked then (.ok none, keys)
      else if row.expiresAt.any fun time => time ≤ now then (.ok none, keys)
      else
        let unscoped := row.scopes.isEmpty
        if unscoped && !allowUnscopedKeys then (.error .notPermitted, keys)
        else
          (.ok (some { actor := row.actor, keyId := row.id, scopes := row.scopes, unscoped }),
            keys.map fun own =>
              if own.id = row.id then { own with lastUsedAt := some now } else own)

end

/-! ### The current actor

`get_current_actor`: who makes a request, by a token, an API key, or without credentials. -/

structure Settings where
  rbacEnforcementEnabled : Bool
  allowUnscopedKeys : Bool
  builderEnabled : Bool
  environment : String

structure Claims where
  jti : Option String
  sub : Option String
  orgId : Option String
  orgRole : Option String

structure HttpRequest where
  method : String
  path : List Char
  authorization : Option String
  apiKey : Option String
  teamContext : Option String
  builderToken : Option String

/-- `request.state`, of which unset attributes are `none`. -/
structure RequestState where
  actor : Option String
  apiKeyScopes : Option (List String)
  unscopedKey : Option Bool
  jwtOrgId : Option String
  jwtOrgRole : Option String
  deriving DecidableEq

def RequestState.initial : RequestState :=
  { actor := none, apiKeyScopes := none, unscopedKey := none, jwtOrgId := none, jwtOrgRole := none }

/-- What authentication asks: the decoder with the configured keys (`none` is a `JWTError`), the
revoked tokens, the digest of keys, and the service for keys where there is one. -/
structure AuthServices where
  decodeAccessToken : String → Option Claims
  isTokenRevoked : String → Bool
  hashKey : String → String
  hasKeyService : Bool

/-- `_API_KEY_ACTORS`. -/
def apiKeyActors : Dict String String :=
  [("sc-dev-key-001", "dev-agent"), ("sc-dev-key-002", "dev-admin")]

def verifyApiKey (apiKey : String) : Option String := Dict.get? apiKeyActors apiKey

inductive Unauthorized where
  | revokedToken
  | missingSub
  | invalidToken
  | unscopedKey
  | invalidKey
  | noCredentials
  deriving DecidableEq

def Unauthorized.detail : Unauthorized → String
  | .revokedToken => "Token has been revoked"
  | .missingSub => "Token missing 'sub' claim"
  | .invalidToken => "Invalid or expired token"
  | .unscopedKey => "unscoped_key_not_permitted"
  | .invalidKey => "Invalid, revoked, or expired API key"
  | .noCredentials => "Authentication required. Provide a Bearer token or X-API-Key header."

/-- `text.removeprefix(front)` where the text starts with it. -/
def afterPrefix (front text : String) : Option String :=
  if front.toList.isPrefixOf text.toList then some (String.ofList (text.toList.drop front.length))
  else none

/-- The token of an `Authorization` header. -/
def HttpRequest.bearer (request : HttpRequest) : Option String :=
  request.authorization.bind fun header => (afterPrefix "Bearer " header).map strip

def truthy (value : Option String) : Option String := value.filter fun text => text ≠ ""

def developmentEnvironments : List String := ["development", "dev", "test", "testing"]

section

variable (services : AuthServices)

def bearerActor (token : String) (state : RequestState) :
    Except Unauthorized String × RequestState :=
  match services.decodeAccessToken token with
  | none => (.error .invalidToken, state)
  | some claims =>
      if (truthy claims.jti).any services.isTokenRevoked then (.error .revokedToken, state)
      else match truthy claims.sub with
        | none => (.error .missingSub, state)
        | some actor => (.ok actor, { state with actor := some actor, jwtOrgId := claims.orgId
                                                 jwtOrgRole := claims.orgRole })

def keyActor (settings : Settings) (apiKey : String) (now : Time) (keys : List ApiKeyRow)
    (state : RequestState) : Except Unauthorized String × RequestState × List ApiKeyRow :=
  if services.hasKeyService then
    match verifyKeyDetails services.hashKey apiKey settings.allowUnscopedKeys now keys with
    | (.error .notPermitted, keys) => (.error .unscopedKey, state, keys)
    | (.ok none, keys) =>
        (.error .invalidKey, { state with apiKeyScopes := some [], unscopedKey := some false }, keys)
    | (.ok (some verification), keys) =>
        (.ok verification.actor,
          { state with actor := some verification.actor
                       apiKeyScopes := some verification.scopes
                       unscopedKey := some verification.unscoped }, keys)
  else match verifyApiKey apiKey with
    | none => (.error .invalidKey, state, keys)
    | some actor => (.ok actor, { state with actor := some actor }, keys)

/-- `get_current_actor`, with the table of keys. -/
def getCurrentActor (settings : Settings) (request : HttpRequest) (now : Time)
    (keys : List ApiKeyRow) (state : RequestState) :
    Except Unauthorized String × RequestState × List ApiKeyRow :=
  match request.bearer, truthy request.apiKey with
  | some token, _ =>
      let (actor, state) := bearerActor services token state
      (actor, state, keys)
  | none, some apiKey => keyActor services settings apiKey now keys state
  | none, none =>
      let environment := if settings.environment = "" then "production" else settings.environment
      if environment.toLower ∈ developmentEnvironments then
        (.ok "anonymous", { state with actor := some "anonymous" }, keys)
      else (.error .noCredentials, state, keys)

end

end SyndicateClaw.Security
