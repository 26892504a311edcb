import SyndicateClaw.Orchestrator.ApprovalBoundary

/-! The checks around a tool: the schema of its input and output, and the sandbox. -/

namespace SyndicateClaw.Tools

open Orchestrator

inductive ToolError where
  | notFound (name : String)
  | denied (name reason : String)
  | approvalRequired (name : String) (request : ApprovalRequest)
  | execution (name cause : String)
  | timeout (name : String) (seconds : Nat)
  | sandboxViolation (name violation : String)
  | value (message : String)
  | type (message : String)
  | attribute (message : String)
  | validation
  | serialization
  | raised (message : String)
  | escaped (message : String)

/-! ### Schemas -/

/-- `iter(value)`. -/
def pyIter : Value → Except ToolError (List Value)
  | .list items => .ok items
  | .str s => .ok (s.toList.map fun c => .str (String.singleton c))
  | .dict entries => .ok (entries.map fun entry => .str entry.1)
  | value => .error (.type ("'" ++ value.typeName ++ "' object is not iterable"))

/-- `key in data`, for a dictionary with string keys. -/
def hasKey (data : State) : Value → Except ToolError Bool
  | .str key => .ok (Dict.contains data key)
  | .list _ => .error (.type "unhashable type: 'list'")
  | .dict _ => .error (.type "unhashable type: 'dict'")
  | _ => .ok false

/-- `isinstance(value, type_map[name])`; `none` when the map has no such name. -/
def isInstance (name : String) (value : Value) : Option Bool :=
  match name, value with
  | "string", .str _ => some true
  | "integer", .int _ | "integer", .bool _ => some true
  | "number", .int _ | "number", .bool _ | "number", .float _ _ => some true
  | "boolean", .bool _ => some true
  | "array", .list _ => some true
  | "object", .dict _ => some true
  | name, _ =>
      if name ∈ ["string", "integer", "number", "boolean", "array", "object"] then some false
      else none

def checkRequired (data : State) (label : String) (key : Value) : Except ToolError Unit := do
  if ← hasKey data key then return ()
  else throw (.value (label ++ ": missing required field '" ++ key.pyStr ++ "'"))

def checkProperty (data : State) (label : String) (entry : String × Value) :
    Except ToolError Unit :=
  match Dict.get? data entry.1 with
  | none => .ok ()
  | some value =>
      match entry.2.asDict? with
      | none => .error (.attribute ("'" ++ entry.2.typeName ++ "' object has no attribute 'get'"))
      | some property =>
          match (Dict.get? property "type").getD (.str "") with
          | .list _ => .error (.type "unhashable type: 'list'")
          | .dict _ => .error (.type "unhashable type: 'dict'")
          | .str name =>
              if isInstance name value = some false then
                .error (.value (label ++ ": field '" ++ entry.1 ++ "' expected type " ++ name ++
                  ", got " ++ value.typeName))
              else .ok ()
          | _ => .ok ()

/-- `_validate_schema`. -/
def validateSchema (data schema : State) (label : String) : Except ToolError Unit := do
  if schema = [] then return ()
  let required ← pyIter ((Dict.get? schema "required").getD (.list []))
  required.forM (checkRequired data label)
  let properties := (Dict.get? schema "properties").getD (.dict [])
  match properties.asDict? with
  | none => throw (.attribute ("'" ++ properties.typeName ++ "' object has no attribute 'items'"))
  | some entries => entries.forM (checkProperty data label)

/-! ### The sandbox -/

structure ToolSandboxPolicy where
  allowedDomains : List String
  allowedProtocols : List String
  maxRequestBytes : Nat
  maxResponseBytes : Nat
  networkIsolation : Bool
  filesystemRead : Bool
  subprocessAllowed : Bool

/-- Library functions of the executor: identifiers, the clock, Unicode normalisation,
IP addresses, which values `model_dump` can serialise, and the text of the errors the
libraries raise. -/
structure ToolPlatform where
  ulid : Nat → String
  now : Nat → Instant
  elapsedMs : Nat
  defaultScope : Value
  nfkc : String → String
  isIpv6 : String → Bool
  serializable : State → Bool
  errorText : String

structure ParsedUrl where
  scheme : String
  hostname : Option String

/-- `text.partition(c)`: the parts before and after the first `c`. -/
def partition (c : Char) (text : List Char) : List Char × List Char :=
  (text.takeWhile (· ≠ c), (text.dropWhile (· ≠ c)).drop 1)

/-- The scheme in front of the first colon and what follows it. -/
def splitScheme (url : List Char) : List Char × List Char :=
  let (front, rest) := partition ':' url
  let legal := fun c : Char => c.isAlphanum || c ∈ ['+', '-', '.']
  if ':' ∈ url ∧ (front.head?.any fun c => c.isAlpha) ∧ front.all legal then
    (front.map Char.toLower, rest)
  else ([], url)

/-- `_check_bracketed_host`. -/
def checkBracketedHost (platform : ToolPlatform) (host : List Char) : Except ToolError Unit :=
  match host with
  | 'v' :: future =>
      let (digits, address) := partition '.' future
      let hex := fun c : Char => c.isDigit || c ∈ "abcdefABCDEF".toList
      if digits ≠ [] ∧ digits.all hex ∧ address ≠ [] then .ok ()
      else .error (.value "IPvFuture address is invalid")
  | _ =>
      if platform.isIpv6 (String.ofList host) then .ok ()
      else .error (.value "not an IPv6 address in brackets")

/-- `_checknetloc`. -/
def checkNetloc (platform : ToolPlatform) (netloc : List Char) : Except ToolError Unit :=
  let plain := String.ofList (netloc.filter (· ∉ ['@', ':', '#', '?']))
  let normal := platform.nfkc plain
  if netloc.all (·.toNat < 128) ∨ normal = plain then .ok ()
  else if normal.toList.any (· ∈ ['/', '?', '#', '@', ':']) then
    .error (.value "netloc contains invalid characters under NFKC normalization")
  else .ok ()

/-- The `hostname` of a netloc. -/
def hostname (netloc : List Char) : Option String :=
  let hostinfo := (netloc.reverse.takeWhile (· ≠ '@')).reverse
  let host := if '[' ∈ hostinfo then (partition ']' (partition '[' hostinfo).2).1
    else (partition ':' hostinfo).1
  let (name, zone) := partition '%' host
  if host = [] then none
  else some (String.ofList (name.map Char.toLower ++ (if '%' ∈ host then '%' :: zone else [])))

/-- `urlparse(url)`, as far as the sandbox reads the result. -/
def urlparse (platform : ToolPlatform) (url : String) : Except ToolError ParsedUrl := do
  let stripped := (url.toList.dropWhile (·.toNat ≤ 32)).filter (· ∉ ['\t', '\r', '\n'])
  let (scheme, rest) := splitScheme stripped
  match rest with
  | '/' :: '/' :: location =>
      let netloc := location.takeWhile (· ∉ ['/', '?', '#'])
      if ('[' ∈ netloc) ≠ (']' ∈ netloc) then throw (.value "Invalid IPv6 URL")
      if '[' ∈ netloc then checkBracketedHost platform (partition ']' (partition '[' netloc).2).1
      checkNetloc platform netloc
      return { scheme := String.ofList scheme, hostname := hostname netloc }
  | _ => return { scheme := String.ofList scheme, hostname := none }

section sandbox

variable (platform : ToolPlatform) (name : String) (input : State) (policy : ToolSandboxPolicy)

def sandboxUrl : Except ToolError Unit := do
  let url := lookup input "url"
  if policy.networkIsolation ∧ url.truthy then
    throw (.sandboxViolation name "network access denied: tool has network_isolation=True")
  match url with
  | .str text =>
      if text = "" then return ()
      let parsed ← urlparse platform text
      if parsed.scheme ≠ "" ∧ parsed.scheme ∉ policy.allowedProtocols then
        throw (.sandboxViolation name ("protocol '" ++ parsed.scheme ++ "' not in allowed: " ++
          (Value.list (policy.allowedProtocols.map .str)).repr))
      match parsed.hostname with
      | some host =>
          if policy.allowedDomains ≠ [] ∧ host ∉ policy.allowedDomains then
            throw (.sandboxViolation name ("domain '" ++ host ++ "' not in allowlist: " ++
              (Value.list (policy.allowedDomains.map .str)).repr))
      | none => return ()
  | _ => return ()

def sandboxBody : Except ToolError Unit :=
  match lookup input "body" with
  | .str body =>
      if body ≠ "" ∧ policy.maxRequestBytes < body.utf8ByteSize then
        .error (.sandboxViolation name ("request payload " ++ toString body.utf8ByteSize ++
          " bytes exceeds limit " ++ toString policy.maxRequestBytes))
      else .ok ()
  | _ => .ok ()

/-- `enforce_sandbox`. -/
def enforceSandbox : Except ToolError Unit := do
  sandboxUrl platform name input policy
  sandboxBody name input policy
  if !policy.subprocessAllowed && (lookup input "subprocess").truthy then
    throw (.sandboxViolation name "subprocess execution denied")
  if !policy.filesystemRead && (lookup input "file_path").truthy then
    throw (.sandboxViolation name "filesystem read denied")

end sandbox

/-! ### The size of a response -/

def hexDigits (width n : Nat) : String :=
  let digits := Nat.toDigits 16 n
  String.ofList (List.replicate (width - digits.length) '0' ++ digits)

def jsonChar (c : Char) : String :=
  if c = '"' then "\\\"" else if c = '\\' then "\\\\"
  else if c = '\n' then "\\n" else if c = '\r' then "\\r" else if c = '\t' then "\\t"
  else if c.toNat = 8 then "\\b" else if c.toNat = 12 then "\\f"
  else if 32 ≤ c.toNat ∧ c.toNat ≤ 126 then String.singleton c
  else if c.toNat < 0x10000 then "\\u" ++ hexDigits 4 c.toNat
  else
    let offset := c.toNat - 0x10000
    "\\u" ++ hexDigits 4 (0xd800 + offset / 0x400) ++ "\\u" ++ hexDigits 4 (0xdc00 + offset % 0x400)

def jsonString (text : String) : String :=
  "\"" ++ String.join (text.toList.map jsonChar) ++ "\""

mutual

/-- `json.dumps(value, default=str)`. -/
def jsonDumps : Value → String
  | .none => "null"
  | .bool b => if b then "true" else "false"
  | .int i => toString i
  | .float _ text => text
  | .str s => jsonString s
  | .list items => "[" ++ ", ".intercalate (jsonDumpsList items) ++ "]"
  | .dict entries => "\x7b" ++ ", ".intercalate (jsonDumpsEntries entries) ++ "\x7d"
  | .object text => jsonString text

def jsonDumpsList : List Value → List String
  | [] => []
  | item :: items => jsonDumps item :: jsonDumpsList items

def jsonDumpsEntries : List (String × Value) → List String
  | [] => []
  | (key, value) :: entries => (jsonString key ++ ": " ++ jsonDumps value) :: jsonDumpsEntries entries

end

/-- `enforce_response_limits`. -/
def enforceResponseLimits (name : String) (output : State) (policy : ToolSandboxPolicy) :
    Except ToolError Unit :=
  if policy.maxResponseBytes < (jsonDumps (.dict output)).utf8ByteSize then
    .error (.sandboxViolation name
      ("response payload exceeds limit " ++ toString policy.maxResponseBytes))
  else .ok ()

end SyndicateClaw.Tools
