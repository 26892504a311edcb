import SyndicateClaw.Orchestrator.Engine

/-! The built-in node handlers.

A handler works on the run's own state dictionary, so what it wrote before an
exception stays. Services, clocks, identifiers and the template engine are
parameters: they answer by the number of the handler call and by how many answers
the call has already taken. -/

namespace SyndicateClaw.Orchestrator

/-- What a handler call has changed so far, and how many answers it has taken. -/
structure Frame where
  state : State
  effects : List Effect := []
  taken : Nat := 0

abbrev HandlerM := ExceptT HandlerExit (StateM Frame)

structure ChatMessage where
  role : String
  content : String

/-- Configured values pass to the service as they are, which also validates them. -/
structure ChatInferenceRequest where
  messages : List ChatMessage
  modelId : Value
  providerId : Value
  temperature : Value
  maxTokens : Value
  actor : String
  scopeType : String
  scopeId : String
  traceId : String
  idempotencyKey : Option String

structure ChatResponse where
  content : String
  toolCalls : List State

inductive PolicyEffect where
  | allow | deny | requireApproval
  deriving DecidableEq

/-- `required` is the list under that key of the tool's input schema. -/
structure ToolDefinition where
  required : List String
  riskLevel : ToolRiskLevel

structure ToolExecutor where
  registry : Option (String → Option ToolDefinition)
  evaluate : Option (Nat → Nat → String → State → ExecutionContext → Except String PolicyEffect)
  execute : Nat → Nat → String → State → ExecutionContext → Except String Value

structure WorkflowMessage where
  actor : String
  messageNamespace : String
  messageType : String
  content : Value
  recipient : Option String
  topic : Option String
  conversationId : String
  priority : String

/-- What surrounds a handler. `render` is the sandboxed template engine: it is given
the state itself, so a template can write to it. `errorText` is the text of an
exception raised by library code. -/
structure Services where
  auditService : Bool
  checkpointStore : Bool
  ulid : Nat → Nat → String
  now : Nat → Nat → Instant
  render : Nat → Nat → String → State → State → State × Except String String
  inferChat : Option (Nat → Nat → ChatInferenceRequest → Except String ChatResponse)
  send : Option (Nat → Nat → WorkflowMessage → Except String (List String))
  toolExecutor : Option ToolExecutor
  defaultScope : Value
  errorText : Nat → Nat → String

/-- `config.get(key, default)`. -/
def configured (config : State) (key : String) (default : Value) : Value :=
  (Dict.get? config key).getD default

/-- `str(config.get(key, default))`. -/
def configuredStr (config : State) (key default : String) : String :=
  (configured config key (.str default)).pyStr

/-- `bool(config.get(key, False))`. -/
def configuredBool (config : State) (key : String) : Bool :=
  (configured config key (.bool false)).truthy

def roundHalfEven (q : Rat) : Int :=
  let below := q.floor
  if q - below < 1 / 2 then below
  else if 1 / 2 < q - below then below + 1
  else if below % 2 = 0 then below else below + 1

/-- `timedelta(hours=value)` in microseconds. -/
def Value.hours? : Value → Option Int
  | .bool b => some (if b then 3600000000 else 0)
  | .int i => some (i * 3600000000)
  | .float q _ => some (roundHalfEven (q * 3600000000))
  | _ => Option.none

/-- `int(value)`. -/
def Value.int? : Value → Option Int
  | .bool b => some (if b then 1 else 0)
  | .int i => some i
  | .float q _ => some (if 0 ≤ q then q.floor else q.ceil)
  | .str s => s.trimAscii.toString.toInt?
  | _ => Option.none

namespace HandlerM

def getState : HandlerM State := do return (← get).state

def setState (state : State) : HandlerM Unit := modify fun frame => { frame with state }

/-- `state[key] = value`. -/
def put (key : String) (value : Value) : HandlerM Unit :=
  modify fun frame => { frame with state := Dict.set frame.state key value }

def emit (effect : Effect) : HandlerM Unit :=
  modify fun frame => { frame with effects := frame.effects ++ [effect] }

def take : HandlerM Nat :=
  modifyGet fun frame => (frame.taken, { frame with taken := frame.taken + 1 })

def fail {α : Type} (message : String) : HandlerM α := throw (.failed message)

def ofExcept {α : Type} : Except String α → HandlerM α
  | .ok a => pure a
  | .error message => fail message

/-- `state.setdefault(key, []).append(value)`. -/
def append (key : String) (value : Value) : HandlerM Unit := do
  match Dict.get? (← getState) key with
  | none => put key (.list [value])
  | some (.list items) => put key (.list (items ++ [value]))
  | some other => fail ("'" ++ other.typeName ++ "' object has no attribute 'append'")

end HandlerM

open HandlerM

def HandlerM.toHandler (body : Nat → ExecutionContext → HandlerM NodeResult) : NodeHandler :=
  fun call state context =>
    match (body call context).run { state } with
    | (.ok result, frame) =>
        { state := frame.state, effects := frame.effects, exit := .returned result }
    | (.error exit, frame) => { state := frame.state, effects := frame.effects, exit }

section handlers

variable (services : Services) (call : Nat) (context : ExecutionContext)

/-- `_utcnow()`. -/
def handlerNow : HandlerM Instant := do return services.now call (← take)

/-- `str(ULID())`. -/
def handlerUlid : HandlerM String := do return services.ulid call (← take)

def libraryError {α : Type} : HandlerM α := do fail (services.errorText call (← take))

def recordNodeEvent (eventType : AuditEventType) (action : String) : HandlerM Unit := do
  if services.auditService then
    emit (.audit
      { eventType, actor := "system", resourceType := "node", resourceId := context.nodeId, action
        details := [("run_id", .str context.runId), ("node_id", .str context.nodeId)] })

def startHandler : HandlerM NodeResult := do
  put "_started_at" (.str (Instant.isoformat (← handlerNow services call)))
  put "_run_id" (.str context.runId)
  recordNodeEvent services context .nodeStarted "start_handler"
  return { outputState := ← getState }

def endHandler : HandlerM NodeResult := do
  put "_completed_at" (.str (Instant.isoformat (← handlerNow services call)))
  recordNodeEvent services context .nodeCompleted "end_handler"
  return { outputState := ← getState }

def checkpointHandler : HandlerM NodeResult := do
  if services.checkpointStore then emit (.checkpointSaved context.runId (← getState))
  return { outputState := ← getState, shouldCheckpoint := true }

def resumeMarker (state : State) (nodeId : String) : Option State :=
  (lookup state "_approval_resume").asDict?.filter fun resume =>
    lookup resume "node_id" = .str nodeId

/-- The request `approval_handler` makes. -/
def approvalRequestOf (state : State) : HandlerM ApprovalRequest := do
  let config := context.config
  let fresh ← handlerUlid services call
  let level := configured config "risk_level" (.str "MEDIUM")
  match level.asStr?.bind ToolRiskLevel.parse? with
  | none => fail (level.repr ++ " is not a valid ToolRiskLevel")
  | some riskLevel =>
      let now ← handlerNow services call
      let hours := configured config "expires_hours" (.int 24)
      match hours.hours? with
      | none => fail ("unsupported type for timedelta hours component: " ++ hours.typeName)
      | some delta =>
          let id ← handlerUlid services call
          match (configured config "node_execution_id" (.str fresh)).asStr?,
            (configured config "description" (.str "Approval required")).asStr?,
            (configured config "requested_by" (.str "system")).asStr?,
            (configured config "assigned_to" (.list [])).asList?.bind
              (fun items => items.mapM Value.asStr?) with
          | some nodeExecutionId, some actionDescription, some requestedBy, some assignedTo =>
              return { id, runId := context.runId, nodeExecutionId, toolName := none
                       actionDescription, riskLevel, status := .pending, requestedBy, assignedTo
                       decidedBy := none, decidedAt := none, decisionReason := none
                       expiresAt := (now + delta).toNat
                       context := [("run_id", .str context.runId),
                         ("node_id", .str context.nodeId), ("state", .dict state)]
                       scope := services.defaultScope }
          | _, _, _, _ => libraryError services call

/-- The part of `approval_handler` that raises. -/
def askForApproval (state : State) : HandlerM NodeResult := do
  let request ← approvalRequestOf services call context state
  let now ← handlerNow services call
  put "_pending_approval" (.dict (request.modelDump now))
  throw (.waitForApproval
    { message := "Approval required: " ++ request.id
      approvalId := request.id
      toolName := configuredStr context.config "tool_name" "approval"
      nodeId := context.nodeId
      runId := context.runId
      persistedState := jsonableState (← getState) })

def approvalHandler : HandlerM NodeResult := do
  let state ← getState
  match resumeMarker state context.nodeId with
  | some resume =>
      put "_approval_completed" (.dict
        [("approval_id", .str (lookupStr resume "approval_id")),
         ("node_id", .str context.nodeId),
         ("approved_at", .str (Instant.isoformat (← handlerNow services call)))])
      return { outputState := ← getState }
  | none => askForApproval services call context state

theorem approvalHandler_unmarked {state : State}
    (absent : resumeMarker state context.nodeId = none) :
    (approvalHandler services call context).run { state } =
      (askForApproval services call context state).run { state } := by
  show ExceptT.run (match resumeMarker state context.nodeId with
    | some resume => _
    | none => askForApproval services call context state) { state } = _
  rw [absent]

/-- `render_message_template`. -/
def renderMessageTemplate (template : String) (bindings : State) : HandlerM String := do
  let (state, text) := services.render call (← take) template bindings (← getState)
  setState state
  ofExcept text

def emitToolCallAudit (action : String) (details : State) : HandlerM Unit := do
  if services.auditService then
    emit (.audit
      { eventType := .toolExecutionStarted, actor := "system:engine", resourceType := "tool"
        resourceId := ((Dict.get? details "tool").getD (.str "unknown")).pyStr, action, details })

/-- The part of `_process_llm_tool_calls` that asks for an approval. -/
def askToolApproval (name : String) (args : State) (definition : ToolDefinition) :
    HandlerM Unit := do
  let fresh ← handlerUlid services call
  let now ← handlerNow services call
  let id ← handlerUlid services call
  match (configured context.config "node_execution_id" (.str fresh)).asStr? with
  | none => libraryError services call
  | some nodeExecutionId =>
      let request : ApprovalRequest :=
        { id, runId := context.runId, nodeExecutionId, toolName := some name
          actionDescription := "LLM tool call requires approval: " ++ name
          riskLevel := definition.riskLevel, status := .pending
          requestedBy := "system:engine", assignedTo := [], decidedBy := none
          decidedAt := none, decisionReason := none
          expiresAt := now + Instant.microsPerDay
          context := [("tool", .str name), ("arguments", .dict args)]
          scope := services.defaultScope }
      append "_pending_approvals" (.dict (request.modelDump now))
      emitToolCallAudit services "llm.tool_call_requires_approval"
        [("tool", .str name), ("approval_id", .str id)]
      throw (.waitForApproval
        { message := "Approval required: " ++ id, approvalId := id, toolName := name
          nodeId := context.nodeId, runId := context.runId
          persistedState := jsonableState (← getState) })

/-- The branch of `_process_llm_tool_calls` for a call that needs an approval. -/
def requireToolApproval (name : String) (args : State) (definition : ToolDefinition) :
    HandlerM Unit := do
  match (resumeMarker (← getState) context.nodeId).filter
      (fun resume => lookup resume "tool_name" = .str name) with
  | some resume =>
      emitToolCallAudit services "llm.tool_call_approved"
        [("tool", .str name), ("approval_id", .str (lookupStr resume "approval_id"))]
  | none => askToolApproval services call context name args definition

def executeTool (executor : ToolExecutor) (name : String) (args : State) : HandlerM Unit := do
  let config := Dict.set context.config "actor" (.str "system:engine")
  emit (.toolExecuted name args config)
  let result ← ofExcept (executor.execute call (← take) name args { context with config })
  append "_llm_tool_results" (.dict [("tool", .str name), ("result", result)])

def toolDecision (executor : ToolExecutor) (name : String) (args : State) :
    HandlerM PolicyEffect := do
  match executor.evaluate with
  | some evaluate => ofExcept (evaluate call (← take) name args context)
  | none => return .allow

def applyDecision (executor : ToolExecutor) (name : String) (args : State)
    (definition : ToolDefinition) : PolicyEffect → HandlerM Unit
  | .deny => emitToolCallAudit services "llm.tool_call_denied"
      [("tool", .str name), ("decision", .str "DENY")]
  | .requireApproval => do
      requireToolApproval services call context name args definition
      executeTool call context executor name args
  | .allow => do
      emitToolCallAudit services "llm.tool_call" [("tool", .str name)]
      executeTool call context executor name args

/-- One round of `_process_llm_tool_calls`. -/
def processToolCall (executor : ToolExecutor) (registry : String → Option ToolDefinition)
    (toolCall : State) : HandlerM Unit := do
  let name := lookupStr toolCall "name"
  let args := ((Dict.get? toolCall "arguments").bind Value.asDict?).getD []
  match registry name with
  | none =>
      emitToolCallAudit services "llm.tool_call_invalid_args"
        [("tool", .str name), ("reason", .str "unknown_tool")]
  | some definition =>
      match definition.required.find? fun key => !Dict.contains args key with
      | some key =>
          emitToolCallAudit services "llm.tool_call_invalid_args"
            [("tool", .str name),
             ("reason", .str ("missing required field '" ++ key ++ "'"))]
      | none =>
          let decision ← toolDecision call context executor name args
          applyDecision services call context executor name args definition decision

def processLlmToolCalls (toolCalls : List State) : HandlerM Unit := do
  match services.toolExecutor with
  | none => return ()
  | some executor =>
      match executor.registry with
      | none => return ()
      | some registry => toolCalls.forM (processToolCall services call context executor registry)

/-- `ChatMessage.model_validate`. -/
def chatMessage? (item : Value) : Option ChatMessage := do
  let fields ← item.asDict?
  let role ← (Dict.get? fields "role").bind Value.asStr?
  let content ← (Dict.get? fields "content").bind Value.asStr?
  return { role, content }

def chatMessages (renderedPrompt : String) : HandlerM (List ChatMessage) := do
  match (lookup context.config "messages").asList?.filter (· ≠ []) with
  | some items =>
      match items.mapM chatMessage? with
      | some messages => return messages
      | none => libraryError services call
  | none => return [{ role := "user", content := renderedPrompt }]

def llmHandler : HandlerM NodeResult := do
  match services.inferChat with
  | none => fail "provider_service is required for llm handler"
  | some inferChat =>
      let config := context.config
      let template := configuredStr config "prompt_template" (configuredStr config "prompt" "")
      let renderedPrompt ← renderMessageTemplate services call template config
      let messages ← chatMessages services call context renderedPrompt
      let traceId ← handlerUlid services call
      let bypass := configuredBool config "bypass_cache" || 1 < context.attempt
      let request : ChatInferenceRequest :=
        { messages
          modelId := lookup config "model_id"
          providerId := lookup config "provider_id"
          temperature := lookup config "temperature"
          maxTokens := lookup config "max_tokens"
          actor := configuredStr config "actor" "system:engine"
          scopeType := configuredStr config "scope_type" "PLATFORM"
          scopeId := configuredStr config "scope_id" "default"
          traceId
          idempotencyKey := if bypass then none else
            some (context.runId ++ ":" ++ context.nodeId ++ ":" ++ toString context.attempt) }
      let response ← ofExcept (inferChat call (← take) request)
      let responseKey := configuredStr config "response_key" "llm_response"
      put responseKey (.str response.content)
      put ("_llm_output_" ++ responseKey) (.bool true)
      if response.toolCalls ≠ [] ∧ configuredBool config "allow_tool_calls" then
        processLlmToolCalls services call context response.toolCalls
      return { outputState := ← getState }

mutual

/-- `_render_template_dict`. -/
def renderTemplate (bindings : State) : Value → HandlerM Value
  | .str template => do return .str (← renderMessageTemplate services call template bindings)
  | .list items => do return .list (← renderTemplateList bindings items)
  | .dict entries => do return .dict (← renderTemplateEntries bindings entries)
  | value => return value

def renderTemplateList (bindings : State) : List Value → HandlerM (List Value)
  | [] => return []
  | item :: items => do
      let rendered ← renderTemplate bindings item
      return rendered :: (← renderTemplateList bindings items)

def renderTemplateEntries (bindings : State) :
    List (String × Value) → HandlerM (List (String × Value))
  | [] => return []
  | (key, value) :: entries => do
      let rendered ← renderTemplate bindings value
      return (key, rendered) :: (← renderTemplateEntries bindings entries)

end

/-- The message type and topic of `agent_send` for a recipient. -/
def agentRoute (recipient messageType : String) : HandlerM (String × Option String) := do
  if recipient ≠ "" then return (messageType, none)
  else
    let fallback := (configuredStr context.config "fallback_strategy" "fail").toLower
    if fallback = "broadcast" then return ("BROADCAST", none)
    else if fallback = "queue" then
      return (messageType,
        some ("capability:" ++ configuredStr context.config "capability" "default"))
    else fail "agent_send requires recipient_id or recipient_name"

def agentSendHandler : HandlerM NodeResult := do
  match services.send with
  | none => fail "message_service is required for agent_send handler"
  | some send =>
      let config := context.config
      let recipient := (((lookup config "recipient_id").orElse
        (lookup config "recipient_name")).orElse (.str "")).pyStr
      let responseKey := configuredStr config "response_key" "agent_response"
      let messageNamespace := (configured config "namespace"
        (configured (← getState) "namespace" (.str "default"))).pyStr
      match (configured config "response_timeout_seconds" (.int 300)).int? with
      | none => libraryError services call
      | some timeoutSeconds =>
          let (messageType, topic) ← agentRoute context recipient
            (configuredStr config "message_type" "REQUEST")
          match (configured config "content" (.dict [])).asDict? with
          | none => fail "agent_send config.content must be an object"
          | some contentConfig =>
              let content ← renderTemplate services call [("context", .dict config)]
                (.dict contentConfig)
              let conversationId ← handlerUlid services call
              emit (.messageSent (if recipient = "" then none else some recipient) topic
                messageType (content.asDict?.getD []) conversationId)
              let sent ← ofExcept (send call (← take)
                { actor := configuredStr config "actor" "system:engine"
                  messageNamespace, messageType, content
                  recipient := if recipient = "" then none else some recipient
                  topic, conversationId
                  priority := configuredStr config "priority" "NORMAL" })
              match sent with
              | [] => fail "agent_send did not persist any message"
              | first :: _ =>
                  if configuredBool config "wait_for_response" then do
                    put "_waiting_agent_response" (.dict
                      [("conversation_id", .str conversationId),
                       ("response_key", .str responseKey),
                       ("requested_at", .str (Instant.isoformat (← handlerNow services call))),
                       ("timeout_seconds", .int timeoutSeconds)])
                    throw .waitForAgentResponse
                  else do
                    put responseKey (.dict [("message_id", .str first),
                      ("conversation_id", .str conversationId)])
                    return { outputState := ← getState }

/-- `safe_eval_condition(condition, state) if condition else False`. -/
def evaluateDecision (condition : Value) (state : State) : HandlerM Bool := do
  if condition.truthy then
    match condition with
    | .str text =>
        match safeEvalCondition text state with
        | .ok result => return result
        | .error (.invalid message) | .error (.type message) => fail message
        | .error .recursion => libraryError services call
    | _ => libraryError services call
  else return false

def decisionHandler : HandlerM NodeResult := do
  let condition := configured context.config "condition" (.str "")
  let result ← evaluateDecision services call condition (← getState)
  let nextNode := lookup context.config (if result then "true_node" else "false_node")
  put "_decision" (.dict
    [("condition", condition), ("result", .bool result), ("next_node", nextNode)])
  return { outputState := ← getState
           nextNodeId := if nextNode = .none then none else some nextNode.pyStr }

end handlers

/-- `BUILTIN_HANDLERS`. -/
def builtinHandlers (services : Services) : String → Option NodeHandler
  | "start" => some (toHandler (startHandler services))
  | "end" => some (toHandler (endHandler services))
  | "checkpoint" => some (toHandler fun _ => checkpointHandler services)
  | "approval" => some (toHandler (approvalHandler services))
  | "llm" => some (toHandler (llmHandler services))
  | "agent_send" => some (toHandler (agentSendHandler services))
  | "decision" => some (toHandler (decisionHandler services))
  | _ => none

end SyndicateClaw.Orchestrator
