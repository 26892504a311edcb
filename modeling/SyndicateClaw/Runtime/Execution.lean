import SyndicateClaw.Runtime.Manifest

/-! `ExecutionEngine.execute_skill`, and the tools that a handler may use. -/

namespace SyndicateClaw.Runtime

open Orchestrator

/-! ### Python's side -/

inductive PyKey where
  | str (text : String)
  -- The bytes of a text.
  | bytes (text : String)
  | other (key : Value)

def PyKey.text : PyKey → Option String
  | str text => some text
  | bytes text => some text
  | other _ => none

/-- A dictionary with keys of any kind. -/
abbrev PyDict := List (PyKey × Value)

/-- `dict[str, Any]`; `none` is a `ValidationError`. -/
def textKeyed (entries : PyDict) : Option State :=
  entries.foldlM (fun state entry => entry.1.text.map (Dict.set state · entry.2)) []

def pyDict (entries : State) : PyDict := entries.map fun entry => (.str entry.1, entry.2)

/-- An exception by its class; the text is `none` where `str(e)` raises, or gives no text that a record
can hold. -/
structure PyException where
  name : String
  text : Option String

/-! ### Tools -/

/-- The arguments of `invoke`. -/
structure ToolCall where
  toolName : String
  purpose : String
  arguments : PyDict
  requestedScope : Option String := none
  idempotencyKey : Option String := none
  sideEffectExpected : Bool := false

structure ToolRequest where
  executionId : String
  skillId : String
  toolName : String
  purpose : String
  arguments : State
  requestedScope : Option String
  idempotencyKey : Option String
  sideEffectExpected : Bool

inductive ToolAnswer where
  | returned (output : Value)
  | raised (exception : PyException)

inductive SchemaAnswer where
  | valid
  | invalid (message : String)
  -- Any other exception than a `ValidationError`.
  | raises (exception : PyException)

/-- What the engine takes from outside: `Draft202012Validator(schema).validate(payload)`, the
`ValidationError` of a call that makes no request, and what `model_dump(mode="json")` makes of the
arguments. -/
structure RuntimeLibrary where
  validate : State → PyDict → SchemaAnswer
  invalidCall : ToolCall → PyException
  jsonMode : State → Except PyException State

/-- What the executor works on, and `tools_invoked`. For the proofs, also the calls of the handler and
the requests that went to the executor. -/
structure Session (ω : Type) where
  world : ω
  toolsInvoked : List ToolRequest := []
  asked : List ToolCall := []
  executed : List ToolRequest := []

abbrev ToolExecutor (ω : Type) := ToolRequest → ω → ω × ToolAnswer

/-- The checks of `invoke`, with the message of the `ToolNotAuthorizedError`. -/
def unauthorized (manifest : SkillManifest) (toolName : String) : Option String :=
  if manifest.toolPolicy = .denyAll then
    some ("tool " ++ Value.quoted toolName ++
      " rejected (manifest tool_policy=deny_all — explicit no-tool policy)")
  else if toolName ∈ manifest.deniedTools then
    some ("tool " ++ Value.quoted toolName ++ " is denied for skill " ++ manifest.skillId)
  else if manifest.allowedTools = [] then
    some ("tool " ++ Value.quoted toolName ++ " rejected (explicit_allowlist with empty list — " ++
      "deny-by-default; not the same as tool_policy=deny_all)")
  else if toolName ∉ manifest.allowedTools then
    some ("tool " ++ Value.quoted toolName ++ " not in allowlist for skill " ++ manifest.skillId)
  else none

section

variable {ω : Type} (library : RuntimeLibrary) (executor : Option (ToolExecutor ω))
  (manifest : SkillManifest) (executionId : String)

/-- The request of a call; `none` is a `ValidationError`. -/
def requestOf (call : ToolCall) : Option ToolRequest :=
  if call.toolName = "" ∨ call.purpose = "" then none
  else
    (textKeyed call.arguments).map fun arguments => {
      executionId
      skillId := manifest.skillId
      toolName := call.toolName
      purpose := call.purpose
      arguments
      requestedScope := call.requestedScope
      idempotencyKey := call.idempotencyKey
      sideEffectExpected := call.sideEffectExpected }

/-- `model_dump(mode="json")` -/
def modelDump (request : ToolRequest) : Except PyException ToolRequest :=
  (library.jsonMode request.arguments).map fun arguments => { request with arguments }

/-- `ToolInvoker.invoke` -/
def invoke (call : ToolCall) (session : Session ω) : Session ω × ToolAnswer :=
  let session := { session with asked := session.asked ++ [call] }
  match unauthorized manifest call.toolName with
  | some message => (session, .raised ⟨"ToolNotAuthorizedError", some message⟩)
  | none =>
      match requestOf manifest executionId call with
      | none => (session, .raised (library.invalidCall call))
      | some request =>
          match modelDump library request with
          | .error exception => (session, .raised exception)
          | .ok dumped =>
              let session := { session with toolsInvoked := session.toolsInvoked ++ [dumped] }
              match executor with
              | none => (session, .returned (.dict []))
              | some execute =>
                  let answered := execute request session.world
                  ({ session with world := answered.1, executed := session.executed ++ [request] },
                    answered.2)

end

/-! ### Handlers -/

/-- What a handler does: it may use tools, depending on the answers so far, and then returns a
dictionary or something else, or raises an exception, an `Exception` or another one. -/
inductive Handler where
  | invoke (call : ToolCall) (next : ToolAnswer → Handler)
  | returns (output : PyDict)
  | returnsOther
  | raises (exception : PyException)
  | exits

abbrev SkillHandler := State → SkillManifest → Handler

inductive HandlerEnd where
  | returned (output : PyDict)
  | returnedOther
  | raised (exception : PyException)
  | exited

def Handler.run {ω : Type} (invoker : ToolCall → Session ω → Session ω × ToolAnswer) :
    Handler → Session ω → Session ω × HandlerEnd
  | .invoke call next, session =>
      (next (invoker call session).2).run invoker (invoker call session).1
  | .returns output, session => (session, .returned output)
  | .returnsOther, session => (session, .returnedOther)
  | .raises exception, session => (session, .raised exception)
  | .exits, session => (session, .exited)

/-! ### The engine -/

structure ExecutionRequest where
  executionId : String
  taskId : String
  skillId : String
  version : String
  inputPayload : State

inductive ResultStatus where
  | success | failed
  deriving DecidableEq

structure ExecutionRecord where
  executionId : String
  taskId : String
  skillId : String
  version : String
  manifestToolPolicy : String
  triggerReason : String
  inputsUsed : List State
  memoryReads : List String := []
  memoryWrites : List String := []
  toolsInvoked : List ToolRequest
  decisions : List String
  uncertainties : List String := []
  failuresDetected : List String
  resultStatus : ResultStatus
  output : Option State
  errorCode : Option String := none
  errorMessage : Option String := none
  startTime : String
  endTime : String

/-- The other arguments of `execute_skill`. -/
structure ExecutionInfo where
  startTime : String
  endTime : String
  triggerReason : String

/-- The engine, with the text of the error with which its sink refuses a record. -/
structure ExecutionEngine (ω : Type) where
  library : RuntimeLibrary
  executor : Option (ToolExecutor ω)
  refuses : ExecutionRecord → Option String

/-- What `execute_skill` can raise. -/
inductive Escape where
  | exception (exception : PyException)
  -- What `str(e)` raises, or the record that is made of it.
  | textless (exception : PyException)
  -- No `Exception`.
  | exit

structure Execution (ω : Type) where
  answer : Except Escape ExecutionRecord
  sink : List ExecutionRecord
  session : Session ω

/-- `output`, of type `dict[str, Any] | None`; `none` is a `ValidationError`. -/
def outputField : Option PyDict → Option (Option State)
  | none => some none
  | some output => (textKeyed output).map some

/-- `_failure_record`; `none` is a `ValidationError`. -/
def failureRecord (request : ExecutionRequest) (manifest : SkillManifest) (info : ExecutionInfo)
    (code message : String) (toolsInvoked : List ToolRequest) (failures : List String)
    (output : Option PyDict) : Option ExecutionRecord := do
  let output ← outputField output
  return {
    executionId := request.executionId
    taskId := request.taskId
    skillId := manifest.skillId
    version := manifest.version
    manifestToolPolicy := manifest.toolPolicy.value
    triggerReason := info.triggerReason
    inputsUsed := [request.inputPayload]
    toolsInvoked
    decisions := []
    failuresDetected := if failures = [] then [message] else failures
    resultStatus := .failed
    output
    errorCode := some code
    errorMessage := some message
    startTime := info.startTime
    endTime := info.endTime }

/-- The record of a success; `none` is a `ValidationError`. -/
def successRecord (request : ExecutionRequest) (manifest : SkillManifest) (info : ExecutionInfo)
    (toolsInvoked : List ToolRequest) (output : PyDict) : Option ExecutionRecord := do
  let output ← textKeyed output
  let policyNote := "manifest_tool_policy=" ++ manifest.toolPolicy.value ++
    if manifest.toolPolicy = .explicitAllowlist ∧ manifest.allowedTools = [] then
      "; explicit_allowlist_empty_means_deny_all"
    else ""
  return {
    executionId := request.executionId
    taskId := request.taskId
    skillId := manifest.skillId
    version := manifest.version
    manifestToolPolicy := manifest.toolPolicy.value
    triggerReason := info.triggerReason
    inputsUsed := [request.inputPayload]
    toolsInvoked
    decisions := ["handler completed", policyNote]
    failuresDetected := []
    resultStatus := .success
    output := some output
    startTime := info.startTime
    endTime := info.endTime }

namespace ExecutionEngine

variable {ω : Type} (engine : ExecutionEngine ω) (sink : List ExecutionRecord)

/-- `_emit`, and the return of the record. -/
def emit (session : Session ω) (record : Option ExecutionRecord) : Execution ω :=
  match record with
  | none => ⟨.error (.exception ⟨"ValidationError", none⟩), sink, session⟩
  | some record =>
      match engine.refuses record with
      | some text =>
          ⟨.error (.exception ⟨"AuditSinkError", some ("audit sink failed: " ++ text)⟩), sink, session⟩
      | none => ⟨.ok record, sink ++ [record], session⟩

variable (request : ExecutionRequest) (manifest : SkillManifest) (info : ExecutionInfo)

def afterHandler (session : Session ω) : HandlerEnd → Execution ω
  | .exited => ⟨.error .exit, sink, session⟩
  | .raised exception =>
      match exception.text with
      | none => ⟨.error (.textless exception), sink, session⟩
      | some text =>
          engine.emit sink session (failureRecord request manifest info exception.name text
            session.toolsInvoked [text] none)
  | .returnedOther =>
      engine.emit sink session (failureRecord request manifest info "INVALID_HANDLER_OUTPUT"
        "skill handler must return a dict" session.toolsInvoked [] none)
  | .returned output =>
      match engine.library.validate manifest.outputSchema output with
      | .raises exception => ⟨.error (.exception exception), sink, session⟩
      | .invalid message =>
          engine.emit sink session (failureRecord request manifest info "ExecutionValidationError"
            ("output failed JSON Schema validation: " ++ message) session.toolsInvoked [] (some output))
      | .valid =>
          engine.emit sink session
            (successRecord request manifest info session.toolsInvoked output)

def handle (handler : SkillHandler) (world : ω) : Session ω × HandlerEnd :=
  (handler request.inputPayload manifest).run
    (invoke engine.library engine.executor manifest request.executionId) { world }

def executeSkill (handler : Option SkillHandler) (world : ω) : Execution ω :=
  let session : Session ω := { world }
  if request.skillId ≠ manifest.skillId ∨ request.version ≠ manifest.version then
    engine.emit sink session (failureRecord request manifest info "SKILL_REF_MISMATCH"
      "execution request skill ref does not match manifest" [] [] none)
  else
    match engine.library.validate manifest.inputSchema (pyDict request.inputPayload) with
    | .raises exception => ⟨.error (.exception exception), sink, session⟩
    | .invalid message =>
        engine.emit sink session (failureRecord request manifest info "ExecutionValidationError"
          ("input_payload failed JSON Schema validation: " ++ message) [] [] none)
    | .valid =>
        match handler with
        | none =>
            engine.emit sink session (failureRecord request manifest info "SkillHandlerMissingError"
              ("no handler for " ++ manifest.skillId ++ "@" ++ manifest.version) [] [] none)
        | some handler =>
            let handled := engine.handle request manifest handler world
            engine.afterHandler sink request manifest info handled.1 handled.2

end ExecutionEngine

end SyndicateClaw.Runtime
