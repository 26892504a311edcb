import SyndicateClaw.Data.Restart
import SyndicateClaw.Orchestrator.HandlerMarkers

/-! One round of `_process_llm_tool_calls` over the calls of a model's response.

The calls that are known, valid and not denied are handed to the executor in order, up to
the first that needs an approval other than the one the marker of the state carries. -/

namespace SyndicateClaw.Orchestrator

open HandlerM Restart

def handed (toolCall : State) : String × State :=
  (lookupStr toolCall "name", ((Dict.get? toolCall "arguments").bind Value.asDict?).getD [])

/-- `state.setdefault(key, []).append(value)` does not raise. -/
def Appendable (state : State) (key : String) : Prop :=
  ∀ value, Dict.get? state key = some value → ∃ items, value = .list items

/-- The registered tools, what the policy says about a call, and what the tools answer. -/
structure ToolSetting where
  registry : String → Option ToolDefinition
  policy : String → State → PolicyEffect
  answer : String → State → Except String Value

namespace ToolSetting

variable (setting : ToolSetting)

def executor : ToolExecutor :=
  { registry := some setting.registry
    evaluate := some fun _ _ name args _ => .ok (setting.policy name args)
    execute := fun _ _ name args _ => setting.answer name args }

def accepts (x : String × State) : Bool :=
  match setting.registry x.1 with
  | none => false
  | some definition =>
      (definition.required.find? fun key => !Dict.contains x.2 key).isNone &&
        setting.policy x.1 x.2 ≠ .deny

def accepted (toolCalls : List State) : List (String × State) :=
  (toolCalls.map handed).filter setting.accepts

def needs (x : String × State) : Option String :=
  if setting.policy x.1 x.2 = .requireApproval then some x.1 else none

structure Serves (state : State) (x : String × State) : Prop where
  answers : ∃ result, setting.answer x.1 x.2 = .ok result
  stores : Appendable state "_llm_tool_results"

end ToolSetting

def approvedTool (state : State) (nodeId : String) : Option String :=
  (resumeMarker state nodeId).bind fun resume => (lookup resume "tool_name").asStr?

/-- The configuration has no `node_execution_id` that is not a string. -/
def IdConfigured (context : ExecutionContext) : Prop :=
  ∀ value, Dict.get? context.config "node_execution_id" = some value → ∃ id, value = .str id

def toolRuns (effects : List Effect) : List (String × State) :=
  effects.filterMap fun
    | .toolExecuted name args _ => some (name, args)
    | _ => none

structure SameKeys (nodeId : String) (before after : State) : Prop where
  marker : approvedTool after nodeId = approvedTool before nodeId
  results : Appendable after "_llm_tool_results" ↔ Appendable before "_llm_tool_results"
  pending : Appendable after "_pending_approvals" ↔ Appendable before "_pending_approvals"

theorem SameKeys.refl (nodeId : String) (state : State) : SameKeys nodeId state state :=
  ⟨rfl, .rfl, .rfl⟩

theorem SameKeys.trans {nodeId : String} {a b c : State} (one : SameKeys nodeId a b)
    (two : SameKeys nodeId b c) : SameKeys nodeId a c :=
  ⟨two.marker.trans one.marker, two.results.trans one.results, two.pending.trans one.pending⟩

theorem toolRuns_append (a b : List Effect) : toolRuns (a ++ b) = toolRuns a ++ toolRuns b :=
  List.filterMap_append

theorem approvedTool_set {state : State} {nodeId key : String} {value : Value}
    (other : "_approval_resume" ≠ key) :
    approvedTool (Dict.set state key value) nodeId = approvedTool state nodeId := by
  unfold approvedTool resumeMarker
  rw [lookup_set, if_neg other]

theorem appendable_set_of_ne {state : State} {key other : String} {value : Value}
    (distinct : other ≠ key) :
    Appendable (Dict.set state key value) other ↔ Appendable state other := by
  unfold Appendable
  rw [Dict.get?_set_of_ne state value distinct]

theorem appendable_set_list (state : State) (key : String) (items : List Value) :
    Appendable (Dict.set state key (.list items)) key := by
  intro value held
  rw [Dict.get?_set_self] at held
  exact ⟨items, (Option.some.inj held).symm⟩

theorem sameKeys_set_list {state : State} {nodeId key : String} {items : List Value}
    (marker : "_approval_resume" ≠ key) (appendable : Appendable state key) :
    SameKeys nodeId state (Dict.set state key (.list items)) := by
  have kept : ∀ other, Appendable (Dict.set state key (.list items)) other ↔
      Appendable state other := by
    intro other
    by_cases same : other = key
    · rw [same]
      exact iff_of_true (appendable_set_list state key items) appendable
    · exact appendable_set_of_ne same
  exact ⟨approvedTool_set marker, kept _, kept _⟩

/-! ### Runs of the parts -/

section sequence

variable {α β : Type} {m : HandlerM α} {f : α → HandlerM β} {frame after : Frame}

theorem bind_run_ok {a : α} (ran : m.run frame = (.ok a, after)) :
    (m >>= f).run frame = (f a).run after := by
  rw [bind_run_eq, ran]

theorem bind_run_error {exit : HandlerExit} (ran : m.run frame = (.error exit, after)) :
    (m >>= f).run frame = (.error exit, after) := by
  rw [bind_run_eq, ran]

end sequence

section parts

variable (services : Services) (call : Nat) (context : ExecutionContext) (frame : Frame)

theorem append_run_eq (key : String) (value : Value) :
    (append key value).run frame =
      (match Dict.get? frame.state key with
        | none => put key (.list [value])
        | some (.list items) => put key (.list (items ++ [value]))
        | some other => fail ("'" ++ other.typeName ++ "' object has no attribute 'append'") :
        HandlerM Unit).run frame :=
  rfl

theorem append_run {key : String} (value : Value) (appendable : Appendable frame.state key) :
    ∃ items, (append key value).run frame =
      (.ok (), { frame with state := Dict.set frame.state key (.list (items ++ [value])) }) := by
  rw [append_run_eq]
  cases held : Dict.get? frame.state key with
  | none => exact ⟨[], rfl⟩
  | some other =>
      obtain ⟨items, rfl⟩ := appendable other held
      exact ⟨items, rfl⟩

theorem append_fails {key : String} (value : Value) (stuck : ¬ Appendable frame.state key) :
    ∃ message, (append key value).run frame = (.error (.failed message), frame) := by
  rw [append_run_eq]
  cases held : Dict.get? frame.state key with
  | none =>
      refine absurd ?_ stuck
      intro value present
      rw [held] at present
      cases present
  | some other =>
      cases other with
      | list items =>
          refine absurd ?_ stuck
          intro value present
          rw [held] at present
          exact ⟨items, (Option.some.inj present).symm⟩
      | _ => exact ⟨_, rfl⟩

theorem emitToolCallAudit_run (action : String) (details : State) :
    ∃ events, toolRuns events = [] ∧ (emitToolCallAudit services action details).run frame =
      (.ok (), { frame with effects := frame.effects ++ events }) := by
  unfold emitToolCallAudit
  split
  · exact ⟨[_], rfl, rfl⟩
  · refine ⟨[], rfl, ?_⟩
    rw [List.append_nil]
    rfl

variable (setting : ToolSetting) (name : String) (args : State)

def handedFrame : Frame :=
  { frame with
    effects := frame.effects ++
      [Effect.toolExecuted name args (Dict.set context.config "actor" (.str "system:engine"))]
    taken := frame.taken + 1 }

theorem toolRuns_handedFrame :
    toolRuns (handedFrame context frame name args).effects =
      toolRuns frame.effects ++ [(name, args)] :=
  toolRuns_append _ _

theorem executeTool_run_eq :
    (executeTool call context setting.executor name args).run frame =
      (do
        let result ← ofExcept (setting.answer name args)
        append "_llm_tool_results" (.dict [("tool", .str name), ("result", result)])).run
        (handedFrame context frame name args) :=
  rfl

theorem executeTool_run (served : setting.Serves frame.state (name, args)) :
    ∃ after, (executeTool call context setting.executor name args).run frame = (.ok (), after) ∧
      toolRuns after.effects = toolRuns frame.effects ++ [(name, args)] ∧
      SameKeys context.nodeId frame.state after.state := by
  obtain ⟨⟨result, answered⟩, appendable⟩ := served
  obtain ⟨items, ran⟩ := append_run (handedFrame context frame name args)
    (.dict [("tool", .str name), ("result", result)]) appendable
  rw [executeTool_run_eq, answered]
  refine ⟨_, ran, toolRuns_handedFrame context frame name args, ?_⟩
  exact sameKeys_set_list (by decide) appendable

theorem executeTool_fails (unserved : ¬ setting.Serves frame.state (name, args)) :
    ∃ message after,
      (executeTool call context setting.executor name args).run frame =
        (.error (.failed message), after) ∧
      toolRuns after.effects = toolRuns frame.effects ++ [(name, args)] := by
  rw [executeTool_run_eq]
  have ran := toolRuns_handedFrame context frame name args
  cases answered : setting.answer name args with
  | error message => exact ⟨message, _, rfl, ran⟩
  | ok result =>
      have stuck : ¬ Appendable frame.state "_llm_tool_results" :=
        fun appendable => unserved ⟨⟨result, answered⟩, appendable⟩
      obtain ⟨message, failed⟩ := append_fails (handedFrame context frame name args)
        (.dict [("tool", .str name), ("result", result)]) stuck
      exact ⟨message, _, failed, ran⟩

/-! ### Calls that need an approval -/

variable {definition : ToolDefinition}

theorem resumeMarker_approved :
    ((resumeMarker frame.state context.nodeId).filter fun resume =>
      lookup resume "tool_name" = .str name).isSome ↔
      approvedTool frame.state context.nodeId = some name := by
  unfold approvedTool
  cases resumeMarker frame.state context.nodeId with
  | none => simp
  | some resume =>
      cases named : lookup resume "tool_name" <;> simp [Option.filter, Value.asStr?, named]

theorem requireToolApproval_run_eq :
    (requireToolApproval services call context name args definition).run frame =
      (match (resumeMarker frame.state context.nodeId).filter
          (fun resume => lookup resume "tool_name" = .str name) with
        | some resume =>
            emitToolCallAudit services "llm.tool_call_approved"
              [("tool", .str name), ("approval_id", .str (lookupStr resume "approval_id"))]
        | none => askToolApproval services call context name args definition : HandlerM Unit).run
        frame :=
  rfl

theorem requireToolApproval_approved
    (approved : approvedTool frame.state context.nodeId = some name) :
    ∃ events, toolRuns events = [] ∧
      (requireToolApproval services call context name args definition).run frame =
        (.ok (), { frame with effects := frame.effects ++ events }) := by
  have marked := (resumeMarker_approved context frame name).mpr approved
  obtain ⟨resume, found⟩ := Option.isSome_iff_exists.mp marked
  rw [requireToolApproval_run_eq, found]
  exact emitToolCallAudit_run services frame _ _

theorem requireToolApproval_unapproved
    (unapproved : approvedTool frame.state context.nodeId ≠ some name) :
    (requireToolApproval services call context name args definition).run frame =
      (askToolApproval services call context name args definition).run frame := by
  have unmarked := mt (resumeMarker_approved context frame name).mp unapproved
  rw [requireToolApproval_run_eq, Option.not_isSome_iff_eq_none.mp unmarked]

/-- The request for this call is the last of the pending ones. -/
def Requested (state : State) (name : String) (args : State) : Prop :=
  ∃ items request, Dict.get? state "_pending_approvals" = some (.list (items ++ [.dict request])) ∧
    lookup request "tool_name" = .str name ∧
    lookup request "context" =
      .dict [("tool", .str name), ("arguments", .dict (jsonableState args))]

def requestNodeExecutionId : Option String :=
  (configured context.config "node_execution_id" (.str (services.ulid call frame.taken))).asStr?

/-- The request that is put under `_pending_approvals`. -/
def toolApprovalRequest (definition : ToolDefinition) (nodeExecutionId : String) :
    ApprovalRequest :=
  { id := services.ulid call (frame.taken + 2), runId := context.runId, nodeExecutionId
    toolName := some name, actionDescription := "LLM tool call requires approval: " ++ name
    riskLevel := definition.riskLevel, status := .pending, requestedBy := "system:engine"
    assignedTo := [], decidedBy := none, decidedAt := none, decisionReason := none
    expiresAt := services.now call (frame.taken + 1) + Instant.microsPerDay
    context := [("tool", .str name), ("arguments", .dict args)]
    scope := services.defaultScope }

theorem askToolApproval_run_eq :
    (askToolApproval services call context name args definition).run frame =
      (match requestNodeExecutionId services call context frame with
        | none => libraryError services call
        | some nodeExecutionId => do
            let request := toolApprovalRequest services call context frame name args definition
              nodeExecutionId
            append "_pending_approvals"
              (.dict (request.modelDump (services.now call (frame.taken + 1))))
            emitToolCallAudit services "llm.tool_call_requires_approval"
              [("tool", .str name), ("approval_id", .str request.id)]
            throw (.waitForApproval
              { message := "Approval required: " ++ request.id, approvalId := request.id
                toolName := name, nodeId := context.nodeId, runId := context.runId
                persistedState := jsonableState (← getState) }) : HandlerM Unit).run
        { frame with taken := frame.taken + 3 } :=
  rfl

theorem requestNodeExecutionId_isSome :
    (requestNodeExecutionId services call context frame).isSome ↔ IdConfigured context := by
  unfold requestNodeExecutionId configured IdConfigured
  cases Dict.get? context.config "node_execution_id" with
  | none => simp [Value.asStr?]
  | some value => cases value <;> simp [Value.asStr?]

theorem askToolApproval_run (identified : IdConfigured context)
    (appendable : Appendable frame.state "_pending_approvals") :
    ∃ exc after, (askToolApproval services call context name args definition).run frame =
        (.error (.waitForApproval exc), after) ∧
      exc.toolName = name ∧ toolRuns after.effects = toolRuns frame.effects ∧
      SameKeys context.nodeId frame.state after.state ∧ Requested after.state name args := by
  have named := (requestNodeExecutionId_isSome services call context frame).mpr identified
  obtain ⟨id, named⟩ := Option.isSome_iff_exists.mp named
  rw [askToolApproval_run_eq, named]
  obtain ⟨items, put⟩ := append_run { frame with taken := frame.taken + 3 }
    (.dict ((toolApprovalRequest services call context frame name args definition id).modelDump
      (services.now call (frame.taken + 1)))) appendable
  obtain ⟨events, none, audited⟩ := emitToolCallAudit_run services
    { frame with
      state := Dict.set frame.state "_pending_approvals" (.list (items ++ [.dict
        ((toolApprovalRequest services call context frame name args definition id).modelDump
          (services.now call (frame.taken + 1)))]))
      taken := frame.taken + 3 } "llm.tool_call_requires_approval"
    [("tool", .str name), ("approval_id", .str (services.ulid call (frame.taken + 2)))]
  dsimp only
  rw [bind_run_ok put]
  refine ⟨_, _, (bind_run_ok audited).trans rfl, rfl, ?_,
    sameKeys_set_list (by decide) appendable, ?_⟩
  · exact (toolRuns_append _ _).trans (by rw [none, List.append_nil])
  · exact ⟨items, _, Dict.get?_set_self _ _ _, rfl, rfl⟩

theorem askToolApproval_fails
    (fails : ¬ (IdConfigured context ∧ Appendable frame.state "_pending_approvals")) :
    ∃ message after, (askToolApproval services call context name args definition).run frame =
        (.error (.failed message), after) ∧ toolRuns after.effects = toolRuns frame.effects := by
  rw [askToolApproval_run_eq]
  cases named : requestNodeExecutionId services call context frame with
  | none => exact ⟨_, _, rfl, rfl⟩
  | some id =>
      have identified : IdConfigured context :=
        (requestNodeExecutionId_isSome services call context frame).mp (by rw [named]; rfl)
      have stuck : ¬ Appendable frame.state "_pending_approvals" := fun ok => fails ⟨identified, ok⟩
      obtain ⟨message, put⟩ := append_fails { frame with taken := frame.taken + 3 }
        (.dict ((toolApprovalRequest services call context frame name args definition id).modelDump
          (services.now call (frame.taken + 1)))) stuck
      dsimp only
      rw [bind_run_error put]
      exact ⟨message, _, rfl, rfl⟩

/-! ### One call -/

variable (toolCall : State)

abbrev processCall : HandlerM Unit :=
  processToolCall services call context setting.executor setting.registry toolCall

theorem processCall_run_eq {definition : ToolDefinition}
    (known : setting.registry (handed toolCall).1 = some definition)
    (complete : (definition.required.find? fun key =>
      !Dict.contains (handed toolCall).2 key) = none) :
    (processCall services call context setting toolCall).run frame =
      (applyDecision services call context setting.executor (handed toolCall).1 (handed toolCall).2
        definition (setting.policy (handed toolCall).1 (handed toolCall).2)).run
        { frame with taken := frame.taken + 1 } := by
  unfold processCall processToolCall
  unfold handed at known complete
  dsimp only at known complete ⊢
  rw [known]
  dsimp only
  rw [complete]
  rfl

theorem accepts_iff {x : String × State} :
    setting.accepts x = true ↔ ∃ definition, setting.registry x.1 = some definition ∧
      (definition.required.find? fun key => !Dict.contains x.2 key) = none ∧
      setting.policy x.1 x.2 ≠ .deny := by
  unfold ToolSetting.accepts
  cases setting.registry x.1 <;> simp

theorem processCall_skips (refused : setting.accepts (handed toolCall) = false) :
    ∃ after, (processCall services call context setting toolCall).run frame = (.ok (), after) ∧
      after.state = frame.state ∧ toolRuns after.effects = toolRuns frame.effects := by
  have audited : ∀ frame : Frame, ∀ action details, ∃ after : Frame,
      (emitToolCallAudit services action details).run frame = (.ok (), after) ∧
        after.state = frame.state ∧ toolRuns after.effects = toolRuns frame.effects := by
    intro frame action details
    obtain ⟨events, none, ran⟩ := emitToolCallAudit_run services frame action details
    refine ⟨_, ran, rfl, ?_⟩
    rw [toolRuns_append, none, List.append_nil]
  cases known : setting.registry (handed toolCall).1 with
  | none =>
      unfold processCall processToolCall
      unfold handed at known
      dsimp only at known ⊢
      rw [known]
      exact audited frame _ _
  | some definition =>
      cases complete : definition.required.find? fun key =>
          !Dict.contains (handed toolCall).2 key with
      | some key =>
          unfold processCall processToolCall
          unfold handed at known complete
          dsimp only at known complete ⊢
          rw [known]
          dsimp only
          rw [complete]
          exact audited frame _ _
      | none =>
          have denied : setting.policy (handed toolCall).1 (handed toolCall).2 = .deny := by
            by_contra allowed
            rw [(accepts_iff setting).mpr ⟨definition, known, complete, allowed⟩] at refused
            cases refused
          rw [processCall_run_eq services call context frame setting toolCall known complete, denied]
          exact audited { frame with taken := frame.taken + 1 } _ _

theorem blocked_iff {held : Option String} {x : String × State} :
    blocked setting.needs held x = true ↔
      setting.policy x.1 x.2 = .requireApproval ∧ held ≠ some x.1 := by
  unfold blocked ToolSetting.needs
  split <;> simp_all

theorem processCall_hands (accepted : setting.accepts (handed toolCall) = true)
    (free : blocked setting.needs (approvedTool frame.state context.nodeId) (handed toolCall) =
      false) :
    ∃ middle : Frame, middle.state = frame.state ∧
      toolRuns middle.effects = toolRuns frame.effects ∧
      (processCall services call context setting toolCall).run frame =
        (executeTool call context setting.executor (handed toolCall).1 (handed toolCall).2).run
          middle := by
  obtain ⟨definition, known, complete, allowed⟩ := (accepts_iff setting).mp accepted
  rw [processCall_run_eq services call context frame setting toolCall known complete]
  cases decided : setting.policy (handed toolCall).1 (handed toolCall).2 with
  | deny => exact absurd decided allowed
  | allow =>
      obtain ⟨events, none, audited⟩ := emitToolCallAudit_run services
        { frame with taken := frame.taken + 1 } "llm.tool_call" [("tool", .str (handed toolCall).1)]
      refine ⟨{ frame with effects := frame.effects ++ events, taken := frame.taken + 1 }, rfl, ?_,
        bind_run_ok audited⟩
      rw [toolRuns_append, none, List.append_nil]
  | requireApproval =>
      have approved : approvedTool frame.state context.nodeId = some (handed toolCall).1 := by
        by_contra unapproved
        rw [(blocked_iff setting).mpr ⟨decided, unapproved⟩] at free
        cases free
      obtain ⟨events, none, audited⟩ := requireToolApproval_approved services call context
        { frame with taken := frame.taken + 1 } (handed toolCall).1 (handed toolCall).2 approved
      refine ⟨{ frame with effects := frame.effects ++ events, taken := frame.taken + 1 }, rfl, ?_,
        bind_run_ok audited⟩
      rw [toolRuns_append, none, List.append_nil]

theorem processCall_asks (accepted : setting.accepts (handed toolCall) = true)
    (stopped : blocked setting.needs (approvedTool frame.state context.nodeId) (handed toolCall) =
      true) :
    ∃ definition, (processCall services call context setting toolCall).run frame =
      (do
        askToolApproval services call context (handed toolCall).1 (handed toolCall).2 definition
        executeTool call context setting.executor (handed toolCall).1 (handed toolCall).2).run
          { frame with taken := frame.taken + 1 } := by
  obtain ⟨definition, known, complete, -⟩ := (accepts_iff setting).mp accepted
  obtain ⟨decided, unapproved⟩ := (blocked_iff setting).mp stopped
  refine ⟨definition, ?_⟩
  rw [processCall_run_eq services call context frame setting toolCall known complete, decided]
  have asks := @requireToolApproval_unapproved services call context
    { frame with taken := frame.taken + 1 } (handed toolCall).1 (handed toolCall).2 definition
    unapproved
  unfold applyDecision
  exact congrArg (fun answer : Except HandlerExit Unit × Frame =>
    (ExceptT.bindCont (fun _ => executeTool call context setting.executor (handed toolCall).1
      (handed toolCall).2) answer.1).run answer.2) asks

end parts

/-! ### A round -/

section round

variable (setting : ToolSetting) (context : ExecutionContext)

/-- How a round over these accepted calls ends. -/
inductive Round (frame : Frame) (items : List (String × State)) :
    Except HandlerExit Unit × Frame → Prop
  | finished {after : Frame}
      (free : asked setting.needs (approvedTool frame.state context.nodeId) items = none)
      (ran : toolRuns after.effects = toolRuns frame.effects ++ items)
      (served : ∀ x ∈ items, setting.Serves frame.state x)
      (same : SameKeys context.nodeId frame.state after.state) : Round frame items (.ok (), after)
  | waiting {after : Frame} {exc : WaitForApprovalError} {x : String × State}
      (stops : asked setting.needs (approvedTool frame.state context.nodeId) items = some x)
      (ran : toolRuns after.effects = toolRuns frame.effects ++
        performed setting.needs (approvedTool frame.state context.nodeId) items)
      (served : ∀ x ∈ performed setting.needs (approvedTool frame.state context.nodeId) items,
        setting.Serves frame.state x)
      (same : SameKeys context.nodeId frame.state after.state)
      (identified : IdConfigured context)
      (appendable : Appendable frame.state "_pending_approvals")
      (named : exc.toolName = x.1) (requested : Requested after.state x.1 x.2) :
      Round frame items (.error (.waitForApproval exc), after)
  | failed {after : Frame} {message : String} {done : List (String × State)}
      (cause : (∃ x ∈ items, ¬ setting.Serves frame.state x) ∨
        (∃ x, asked setting.needs (approvedTool frame.state context.nodeId) items = some x) ∧
          ¬ (IdConfigured context ∧ Appendable frame.state "_pending_approvals"))
      (ran : toolRuns after.effects = toolRuns frame.effects ++ done)
      (early : done <+: performed setting.needs (approvedTool frame.state context.nodeId) items) :
      Round frame items (.error (.failed message), after)

variable {setting context} {frame middle : Frame} {items : List (String × State)}
  {result : Except HandlerExit Unit × Frame}

theorem ToolSetting.Serves.congr {state state' : State} {nodeId : String} {x : String × State}
    (same : SameKeys nodeId state state') : setting.Serves state' x ↔ setting.Serves state x :=
  ⟨fun served => ⟨served.answers, same.results.mp served.stores⟩,
    fun served => ⟨served.answers, same.results.mpr served.stores⟩⟩

theorem Round.skip (state : middle.state = frame.state)
    (effects : toolRuns middle.effects = toolRuns frame.effects)
    (round : Round setting context middle items result) :
    Round setting context frame items result := by
  cases round with
  | finished free ran served same =>
      rw [state] at free served same
      rw [effects] at ran
      exact .finished free ran served same
  | waiting stops ran served same identified appendable named requested =>
      rw [state] at stops ran served same appendable
      rw [effects] at ran
      exact .waiting stops ran served same identified appendable named requested
  | failed cause ran early =>
      rw [state] at cause early
      rw [effects] at ran
      exact .failed cause ran early

theorem Round.cons {x : String × State}
    (free : blocked setting.needs (approvedTool frame.state context.nodeId) x = false)
    (served : setting.Serves frame.state x)
    (same : SameKeys context.nodeId frame.state middle.state)
    (effects : toolRuns middle.effects = toolRuns frame.effects ++ [x])
    (round : Round setting context middle items result) :
    Round setting context frame (x :: items) result := by
  cases round with
  | finished free' ran served' same' =>
      refine .finished ?_ ?_ ?_ (same.trans same')
      · rw [asked_cons free, ← same.marker]
        exact free'
      · rw [ran, effects, List.append_assoc, List.singleton_append]
      · intro y member
        rcases List.mem_cons.mp member with rfl | later
        · exact served
        · exact (ToolSetting.Serves.congr same).mp (served' y later)
  | waiting stops ran served' same' identified appendable named requested =>
      rw [same.marker] at stops ran served'
      refine .waiting ?_ ?_ ?_ (same.trans same') identified (same.pending.mp appendable) named
        requested
      · rw [asked_cons free]
        exact stops
      · rw [performed_cons free, ran, effects, List.append_assoc, List.singleton_append]
      · rw [performed_cons free]
        intro y member
        rcases List.mem_cons.mp member with rfl | later
        · exact served
        · exact (ToolSetting.Serves.congr same).mp (served' y later)
  | @failed _ _ done cause ran early =>
      rw [same.marker] at cause early
      refine @Round.failed _ _ _ _ _ _ (x :: done) ?_ ?_ ?_
      · rw [asked_cons free]
        rcases cause with ⟨y, member, unserved⟩ | ⟨stops, unusable⟩
        · refine .inl ⟨y, List.mem_cons_of_mem x member, ?_⟩
          rw [← ToolSetting.Serves.congr same]
          exact unserved
        · rw [same.pending] at unusable
          exact .inr ⟨stops, unusable⟩
      · rw [ran, effects, List.append_assoc, List.singleton_append]
      · rw [performed_cons free]
        exact List.cons_prefix_cons.mpr ⟨rfl, early⟩

variable (services : Services) (call : Nat)

def ToolSetting.within (setting : ToolSetting) (services : Services) : Services :=
  { services with toolExecutor := some setting.executor }

theorem processLlmToolCalls_eq (toolCalls : List State) :
    processLlmToolCalls (setting.within services) call context toolCalls =
      toolCalls.forM (processCall (setting.within services) call context setting) :=
  rfl

theorem round_calls (services : Services) (toolCalls : List State) (frame : Frame) :
    Round setting context frame (setting.accepted toolCalls)
      ((toolCalls.forM (processCall services call context setting)).run frame) := by
  induction toolCalls generalizing frame with
  | nil => exact .finished rfl (List.append_nil _).symm (by simp [ToolSetting.accepted]) (.refl _ _)
  | cons toolCall toolCalls ih =>
      have unfolded : (toolCall :: toolCalls).forM (processCall services call context setting) = (do
          processCall services call context setting toolCall
          toolCalls.forM (processCall services call context setting)) := rfl
      unfold ToolSetting.accepted at ih ⊢
      rw [List.map_cons, unfolded]
      cases accepted : setting.accepts (handed toolCall) with
      | false =>
          rw [List.filter_cons_of_neg (by simp [accepted])]
          obtain ⟨middle, ran, state, effects⟩ :=
            processCall_skips services call context frame setting toolCall accepted
          rw [bind_run_ok ran]
          exact (ih middle).skip state effects
      | true =>
          rw [List.filter_cons_of_pos accepted]
          cases free : blocked setting.needs (approvedTool frame.state context.nodeId)
              (handed toolCall) with
          | false =>
              obtain ⟨middle, state, effects, hands⟩ :=
                processCall_hands services call context frame setting toolCall accepted free
              by_cases served : setting.Serves frame.state (handed toolCall)
              · have served' := served
                rw [← state] at served'
                obtain ⟨after, ran, effects', same⟩ := executeTool_run call context middle setting
                  (handed toolCall).1 (handed toolCall).2 served'
                rw [state] at same
                rw [effects] at effects'
                rw [bind_run_ok (hands.trans ran)]
                exact (ih after).cons free served same effects'
              · have unserved := served
                rw [← state] at unserved
                obtain ⟨message, after, ran, effects'⟩ := executeTool_fails call context middle
                  setting (handed toolCall).1 (handed toolCall).2 unserved
                rw [effects] at effects'
                rw [bind_run_error (hands.trans ran)]
                refine .failed (.inl ⟨_, List.mem_cons_self, served⟩) effects' ?_
                rw [performed_cons free]
                exact List.cons_prefix_cons.mpr ⟨rfl, List.nil_prefix⟩
          | true =>
              obtain ⟨definition, asks⟩ :=
                processCall_asks services call context frame setting toolCall accepted free
              by_cases usable : IdConfigured context ∧ Appendable frame.state "_pending_approvals"
              · obtain ⟨exc, after, ran, named, effects, same, requested⟩ :=
                  @askToolApproval_run services call context
                    { frame with taken := frame.taken + 1 } (handed toolCall).1 (handed toolCall).2
                    definition usable.1 usable.2
                rw [bind_run_error (asks.trans (bind_run_error ran))]
                refine .waiting (asked_cons_of_blocked free) ?_ ?_ same usable.1 usable.2 named
                  requested
                · rw [performed_cons_of_blocked free, effects, List.append_nil]
                · rw [performed_cons_of_blocked free]
                  simp
              · obtain ⟨message, after, ran, effects⟩ :=
                  @askToolApproval_fails services call context
                    { frame with taken := frame.taken + 1 } (handed toolCall).1 (handed toolCall).2
                    definition usable
                rw [bind_run_error (asks.trans (bind_run_error ran))]
                refine .failed (.inr ⟨⟨_, asked_cons_of_blocked free⟩, usable⟩) ?_
                  List.nil_prefix
                rw [effects, List.append_nil]

end round

end SyndicateClaw.Orchestrator
