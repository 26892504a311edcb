import SyndicateClaw.Orchestrator.Handlers

/-! What the built-in handlers do to the marker `_approval_resume`.

`approval_handler` passes a node whose identifier the marker names, so what counts is
which handlers can make it name one. None can, as long as the templates leave it
alone. -/

namespace SyndicateClaw.Orchestrator

open HandlerM

/-- A state that marks this node: its own marker names it, or the one of a state it
holds under `data`. A checkpoint without a signature is read as an envelope when the
state has a key `checkpoint_hmac`, and what is under `data` is then restored. Names
are compared as they read after a JSON round trip. -/
inductive Marked : State → String → Prop
  | here {state : State} {nodeId : String} {resume : State}
      (found : (lookup state "_approval_resume").asDict? = some resume)
      (named : (lookup resume "node_id").jsonable = .str nodeId) : Marked state nodeId
  | nested {state : State} {nodeId : String} {inner : State}
      (found : (lookup state "data").asDict? = some inner) (marked : Marked inner nodeId) :
      Marked state nodeId

def MarkerKept (before after : State) : Prop := ∀ nodeId, Marked after nodeId → Marked before nodeId

theorem MarkerKept.refl (state : State) : MarkerKept state state := fun _ marked => marked

theorem MarkerKept.trans {a b c : State} (one : MarkerKept a b) (two : MarkerKept b c) :
    MarkerKept a c :=
  fun nodeId marked => one nodeId (two nodeId marked)

theorem markerKept_of_lookup {before after : State}
    (marker : lookup after "_approval_resume" = lookup before "_approval_resume" ∨
      (lookup after "_approval_resume").asDict? = none)
    (data : lookup after "data" = lookup before "data" ∨ (lookup after "data").asDict? = none) :
    MarkerKept before after := by
  intro nodeId marked
  cases marked with
  | here found named =>
      rcases marker with same | absent
      · exact .here (same ▸ found) named
      · rw [absent] at found
        cases found
  | nested found marked =>
      rcases data with same | absent
      · exact .nested (same ▸ found) marked
      · rw [absent] at found
        cases found

def Value.Unmarking (value : Value) : Prop :=
  ∀ entries, value.asDict? = some entries →
    ∀ nodeId, (lookup entries "node_id").jsonable ≠ .str nodeId ∧ ¬ Marked entries nodeId

theorem lookup_set (state : State) (key other : String) (value : Value) :
    lookup (Dict.set state key value) other = if other = key then value else lookup state other := by
  by_cases same : other = key <;> simp [lookup, Dict.get?_set, same]

def Harmless (key : String) (value : Value) : Prop :=
  key ≠ "_approval_resume" ∧ key ≠ "data" ∨ value.Unmarking

theorem markerKept_set {key : String} {value : Value} (harmless : Harmless key value)
    (state : State) : MarkerKept state (Dict.set state key value) := by
  rcases harmless with ⟨marker, data⟩ | unmarking
  · apply markerKept_of_lookup
    · rw [lookup_set, if_neg (Ne.symm marker)]
      exact .inl rfl
    · rw [lookup_set, if_neg (Ne.symm data)]
      exact .inl rfl
  · intro nodeId marked
    cases marked with
    | here found named =>
        rw [lookup_set] at found
        split at found
        · exact absurd named (unmarking _ found nodeId).1
        · exact .here found named
    | nested found marked =>
        rw [lookup_set] at found
        split at found
        · exact absurd marked (unmarking _ found nodeId).2
        · exact .nested found marked

theorem unmarking_of_no_dict {value : Value} (flat : value.asDict? = none) : value.Unmarking := by
  intro entries found
  rw [flat] at found
  cases found

theorem unmarking_dict {entries : State} (node : Dict.get? entries "node_id" = none)
    (marker : Dict.get? entries "_approval_resume" = none) (data : Dict.get? entries "data" = none) :
    (Value.dict entries).Unmarking := by
  intro found same nodeId
  obtain rfl := Option.some.inj same
  constructor
  · simp [lookup, node, Value.jsonable]
  · intro marked
    cases marked with
    | here found _ => simp [lookup, marker, Value.asDict?] at found
    | nested found _ => simp [lookup, data, Value.asDict?] at found

theorem lookup_jsonableState (state : State) (key : String) :
    lookup (jsonableState state) key = (lookup state key).jsonable := by
  unfold lookup
  rw [get?_jsonableState]
  cases Dict.get? state key <;> rfl

theorem markerKept_jsonable (state : State) : MarkerKept state (jsonableState state) := by
  intro nodeId marked
  generalize same : jsonableState state = json at marked
  induction marked generalizing state with
  | here found named =>
      subst same
      rw [lookup_jsonableState, Value.asDict?_jsonable] at found
      obtain ⟨resume, present, rfl⟩ := Option.map_eq_some_iff.mp found
      refine .here present ?_
      rw [lookup_jsonableState] at named
      cases value : lookup resume "node_id" <;> rw [value] at named <;>
        simp [Value.jsonable] at named ⊢
      · exact named
      · exact named
  | nested found marked ih =>
      subst same
      rw [lookup_jsonableState, Value.asDict?_jsonable] at found
      obtain ⟨inner, present, rfl⟩ := Option.map_eq_some_iff.mp found
      exact .nested present (ih inner rfl)

def HandlerExit.raised : HandlerExit → Bool
  | .returned _ | .pauseExecution => false
  | _ => true

/-- A part of a handler that makes the marker name no node, raises only as handlers
do, and ends in `Q`. -/
def HandlerM.Tame {α : Type} (m : HandlerM α) (Q : α → Frame → Prop) : Prop :=
  ∀ frame, MarkerKept frame.state (m.run frame).2.state ∧
    match (m.run frame).1 with
    | .ok a => Q a (m.run frame).2
    | .error exit => exit.raised = true

def ReturnsState (result : NodeResult) (frame : Frame) : Prop := result.outputState = frame.state

section rules

variable {α β : Type} {Q : α → Frame → Prop}

theorem tame_pure {a : α} (ends : ∀ frame, Q a frame) : Tame (pure a : HandlerM α) Q :=
  fun frame => ⟨.refl _, ends frame⟩

theorem tame_throw {exit : HandlerExit} (raised : exit.raised = true) :
    Tame (throw exit : HandlerM α) Q :=
  fun _ => ⟨.refl _, raised⟩

theorem tame_fail (message : String) : Tame (fail message : HandlerM α) Q := tame_throw rfl

theorem bind_run_eq (m : HandlerM α) (f : α → HandlerM β) (frame : Frame) :
    (m >>= f).run frame =
      match m.run frame with
      | (.ok a, frame') => (f a).run frame'
      | (.error exit, frame') => (.error exit, frame') := by
  rw [ExceptT.run_bind]
  show StateT.bind m.run _ frame = _
  rcases left : m.run frame with ⟨exit | a, frame'⟩ <;> simp only [StateT.bind, left] <;> rfl

theorem tame_bind {m : HandlerM α} {f : α → HandlerM β} {Q' : β → Frame → Prop}
    (first : Tame m fun _ _ => True) (second : ∀ a, Tame (f a) Q') : Tame (m >>= f) Q' := by
  intro frame
  obtain ⟨kept, outcome⟩ := first frame
  rw [bind_run_eq]
  rcases left : m.run frame with ⟨exit | a, frame'⟩
  · rw [left] at kept outcome
    exact ⟨kept, outcome⟩
  · rw [left] at kept
    obtain ⟨later, ends⟩ := second a frame'
    exact ⟨kept.trans later, ends⟩

theorem HandlerM.Tame.mono {m : HandlerM α} {Q' : α → Frame → Prop} (tame : Tame m Q)
    (weaker : ∀ a frame, Q a frame → Q' a frame) : Tame m Q' := by
  intro frame
  obtain ⟨kept, outcome⟩ := tame frame
  refine ⟨kept, ?_⟩
  cases ran : (m.run frame).1 with
  | error exit =>
      rw [ran] at outcome
      exact outcome
  | ok a =>
      rw [ran] at outcome
      exact weaker _ _ outcome

theorem tame_modify {f : Frame → Frame} (kept : ∀ frame, MarkerKept frame.state (f frame).state)
    {Q : Unit → Frame → Prop} (ends : ∀ frame, Q () (f frame)) :
    Tame (modify f : HandlerM Unit) Q :=
  fun frame => ⟨kept frame, ends frame⟩

theorem tame_put {key : String} {value : Value} (harmless : Harmless key value) :
    Tame (put key value) fun _ _ => True :=
  tame_modify (fun frame => markerKept_set harmless frame.state) fun _ => trivial

theorem tame_emit (effect : Effect) : Tame (emit effect) fun _ _ => True :=
  fun _ => ⟨.refl _, trivial⟩

theorem tame_take : Tame take fun _ _ => True := fun _ => ⟨.refl _, trivial⟩

theorem tame_getState : Tame getState fun _ _ => True := fun _ => ⟨.refl _, trivial⟩

theorem tame_ofExcept (answer : Except String α) : Tame (ofExcept answer) fun _ _ => True := by
  cases answer with
  | ok a => exact tame_pure fun _ => trivial
  | error message => exact tame_fail message

theorem tame_append {key : String} (other : key ≠ "_approval_resume" ∧ key ≠ "data") (value : Value) :
    Tame (append key value) fun _ _ => True := by
  refine tame_bind tame_getState fun state => ?_
  split
  · exact tame_put (.inl other)
  · exact tame_put (.inl other)
  · exact tame_fail _

theorem tame_return (next : Option String) (shouldCheckpoint : Bool) :
    Tame (do return { outputState := ← getState, nextNodeId := next, shouldCheckpoint })
      ReturnsState :=
  fun _ => ⟨.refl _, rfl⟩

end rules

def TemplatesTame (services : Services) : Prop :=
  ∀ call k template bindings state,
    MarkerKept state (services.render call k template bindings state).1

section handlers

variable {services : Services} (call : Nat) (context : ExecutionContext)

theorem tame_handlerNow : Tame (handlerNow services call) fun _ _ => True :=
  tame_bind tame_take fun _ => tame_pure fun _ => trivial

theorem tame_handlerUlid : Tame (handlerUlid services call) fun _ _ => True :=
  tame_bind tame_take fun _ => tame_pure fun _ => trivial

theorem tame_libraryError {α : Type} {Q : α → Frame → Prop} :
    Tame (libraryError services call : HandlerM α) Q :=
  tame_bind tame_take fun _ => tame_fail _

theorem tame_recordNodeEvent (eventType : AuditEventType) (action : String) :
    Tame (recordNodeEvent services context eventType action) fun _ _ => True := by
  unfold recordNodeEvent
  split
  · exact tame_emit _
  · exact tame_pure fun _ => trivial

theorem tame_startHandler : Tame (startHandler services call context) ReturnsState := by
  refine tame_bind (tame_handlerNow call) fun now => ?_
  refine tame_bind (tame_put (.inl (by decide))) fun _ => ?_
  refine tame_bind (tame_put (.inl (by decide))) fun _ => ?_
  exact tame_bind (tame_recordNodeEvent context _ _) fun _ => tame_return none false

theorem tame_endHandler : Tame (endHandler services call context) ReturnsState := by
  refine tame_bind (tame_handlerNow call) fun now => ?_
  refine tame_bind (tame_put (.inl (by decide))) fun _ => ?_
  exact tame_bind (tame_recordNodeEvent context _ _) fun _ => tame_return none false

theorem tame_checkpointHandler : Tame (checkpointHandler services context) ReturnsState := by
  unfold checkpointHandler
  split
  · refine tame_bind tame_getState fun state => ?_
    exact tame_bind (tame_emit _) fun _ => tame_return none true
  · exact tame_return none true

theorem tame_approvalRequestOf (state : State) :
    Tame (approvalRequestOf services call context state) fun _ _ => True := by
  refine tame_bind (tame_handlerUlid call) fun fresh => ?_
  dsimp only
  split
  · exact tame_fail _
  refine tame_bind (tame_handlerNow call) fun now => ?_
  split
  · exact tame_fail _
  refine tame_bind (tame_handlerUlid call) fun id => ?_
  split
  · exact tame_pure fun _ => trivial
  · exact tame_libraryError call

/-- Without a marker for the node, `approval_handler` never returns. -/
theorem tame_askForApproval (state : State) :
    Tame (askForApproval services call context state) fun _ _ => False := by
  refine tame_bind (tame_approvalRequestOf call context state) fun request => ?_
  refine tame_bind (tame_handlerNow call) fun now => ?_
  refine tame_bind (tame_put (.inl (by decide))) fun _ => ?_
  exact tame_bind tame_getState fun state => tame_throw rfl

theorem tame_approvalHandler : Tame (approvalHandler services call context) ReturnsState := by
  refine tame_bind tame_getState fun state => ?_
  split
  · refine tame_bind (tame_handlerNow call) fun now => ?_
    exact tame_bind (tame_put (.inl (by decide))) fun _ => tame_return none false
  · exact (tame_askForApproval call context state).mono fun _ _ never => never.elim

/-- `approval_handler` returns only at a node the marker names. -/
theorem approvalHandler_marked {state : State} {result : NodeResult} {frame : Frame}
    (ran : (approvalHandler services call context).run { state } = (.ok result, frame)) :
    Marked state context.nodeId := by
  by_contra unmarked
  have absent : resumeMarker state context.nodeId = none := by
    by_contra present
    obtain ⟨resume, found⟩ := Option.ne_none_iff_exists'.mp present
    obtain ⟨dict, named⟩ := Option.filter_eq_some_iff.mp found
    refine unmarked (.here dict ?_)
    rw [of_decide_eq_true named]
    rfl
  have asks := approvalHandler_unmarked services call context absent
  have never := (@tame_askForApproval services call context state { state }).2
  rw [← asks, ran] at never
  exact never

theorem tame_renderMessageTemplate (tame : TemplatesTame services) (template : String)
    (bindings : State) :
    Tame (renderMessageTemplate services call template bindings) fun _ _ => True := by
  intro frame
  have ran : (renderMessageTemplate services call template bindings).run frame =
      (ofExcept (services.render call frame.taken template bindings frame.state).2).run
        { frame with
          taken := frame.taken + 1
          state := (services.render call frame.taken template bindings frame.state).1 } := rfl
  rw [ran]
  obtain ⟨kept, ends⟩ := tame_ofExcept
    (services.render call frame.taken template bindings frame.state).2
    { frame with
      taken := frame.taken + 1
      state := (services.render call frame.taken template bindings frame.state).1 }
  exact ⟨(tame call frame.taken template bindings frame.state).trans kept, ends⟩

theorem tame_emitToolCallAudit (action : String) (details : State) :
    Tame (emitToolCallAudit services action details) fun _ _ => True := by
  unfold emitToolCallAudit
  split
  · exact tame_emit _
  · exact tame_pure fun _ => trivial

theorem tame_askToolApproval (name : String) (args : State) (definition : ToolDefinition) :
    Tame (askToolApproval services call context name args definition) fun _ _ => True := by
  refine tame_bind (tame_handlerUlid call) fun fresh => ?_
  refine tame_bind (tame_handlerNow call) fun now => ?_
  refine tame_bind (tame_handlerUlid call) fun id => ?_
  split
  · exact tame_libraryError call
  refine tame_bind (tame_append (by decide) _) fun _ => ?_
  refine tame_bind (tame_emitToolCallAudit _ _) fun _ => ?_
  exact tame_bind tame_getState fun state => tame_throw rfl

theorem tame_requireToolApproval (name : String) (args : State) (definition : ToolDefinition) :
    Tame (requireToolApproval services call context name args definition) fun _ _ => True := by
  refine tame_bind tame_getState fun state => ?_
  split
  · exact tame_emitToolCallAudit _ _
  · exact tame_askToolApproval call context name args definition

theorem tame_executeTool (executor : ToolExecutor) (name : String) (args : State) :
    Tame (executeTool call context executor name args) fun _ _ => True := by
  refine tame_bind (tame_emit _) fun _ => ?_
  refine tame_bind tame_take fun k => ?_
  exact tame_bind (tame_ofExcept _) fun result => tame_append (by decide) _

theorem tame_toolDecision (executor : ToolExecutor) (name : String) (args : State) :
    Tame (toolDecision call context executor name args) fun _ _ => True := by
  unfold toolDecision
  split
  · exact tame_bind tame_take fun k => tame_ofExcept _
  · exact tame_pure fun _ => trivial

theorem tame_applyDecision (executor : ToolExecutor) (name : String) (args : State)
    (definition : ToolDefinition) (decision : PolicyEffect) :
    Tame (applyDecision services call context executor name args definition decision)
      fun _ _ => True := by
  cases decision with
  | deny => exact tame_emitToolCallAudit _ _
  | requireApproval =>
      exact tame_bind (tame_requireToolApproval call context name args definition) fun _ =>
        tame_executeTool call context executor name args
  | allow =>
      exact tame_bind (tame_emitToolCallAudit _ _) fun _ =>
        tame_executeTool call context executor name args

theorem tame_processToolCall (executor : ToolExecutor)
    (registry : String → Option ToolDefinition) (toolCall : State) :
    Tame (processToolCall services call context executor registry toolCall) fun _ _ => True := by
  unfold processToolCall
  dsimp only
  split
  · exact tame_emitToolCallAudit _ _
  split
  · exact tame_emitToolCallAudit _ _
  · exact tame_bind (tame_toolDecision call context executor _ _) fun decision =>
      tame_applyDecision call context executor _ _ _ decision

theorem tame_processLlmToolCalls (toolCalls : List State) :
    Tame (processLlmToolCalls services call context toolCalls) fun _ _ => True := by
  unfold processLlmToolCalls
  split
  · exact tame_pure fun _ => trivial
  next executor _ =>
    split
    · exact tame_pure fun _ => trivial
    next registry _ =>
      induction toolCalls with
      | nil => exact tame_pure fun _ => trivial
      | cons toolCall toolCalls ih =>
          exact tame_bind (tame_processToolCall call context executor registry toolCall)
            fun _ => ih

theorem tame_chatMessages (renderedPrompt : String) :
    Tame (chatMessages services call context renderedPrompt) fun _ _ => True := by
  unfold chatMessages
  split
  · split
    · exact tame_pure fun _ => trivial
    · exact tame_libraryError call
  · exact tame_pure fun _ => trivial

theorem tame_llmHandler (tame : TemplatesTame services) :
    Tame (llmHandler services call context) ReturnsState := by
  unfold llmHandler
  split
  · exact tame_fail _
  refine tame_bind (tame_renderMessageTemplate call tame _ _) fun renderedPrompt => ?_
  refine tame_bind (tame_chatMessages call context renderedPrompt) fun messages => ?_
  refine tame_bind (tame_handlerUlid call) fun traceId => ?_
  refine tame_bind tame_take fun k => ?_
  refine tame_bind (tame_ofExcept _) fun response => ?_
  -- Whatever the key, the response is a text and no dictionary.
  refine tame_bind (tame_put (.inr (unmarking_of_no_dict rfl))) fun _ => ?_
  refine tame_bind (tame_put (.inr (unmarking_of_no_dict rfl))) fun _ => ?_
  split
  · exact tame_bind (tame_processLlmToolCalls call context _) fun _ => tame_return none false
  · exact tame_return none false

mutual

theorem tame_renderTemplate (tame : TemplatesTame services) (bindings : State) :
    ∀ value, Tame (renderTemplate services call bindings value) fun _ _ => True
  | .str template => tame_bind (tame_renderMessageTemplate call tame template bindings)
      fun _ => tame_pure fun _ => trivial
  | .list items => tame_bind (tame_renderTemplateList tame bindings items)
      fun _ => tame_pure fun _ => trivial
  | .dict entries => tame_bind (tame_renderTemplateEntries tame bindings entries)
      fun _ => tame_pure fun _ => trivial
  | .none | .bool _ | .int _ | .float _ _ | .object _ => tame_pure fun _ => trivial

theorem tame_renderTemplateList (tame : TemplatesTame services) (bindings : State) :
    ∀ items, Tame (renderTemplateList services call bindings items) fun _ _ => True
  | [] => tame_pure fun _ => trivial
  | item :: items => tame_bind (tame_renderTemplate tame bindings item) fun _ =>
      tame_bind (tame_renderTemplateList tame bindings items) fun _ =>
        tame_pure fun _ => trivial

theorem tame_renderTemplateEntries (tame : TemplatesTame services) (bindings : State) :
    ∀ entries, Tame (renderTemplateEntries services call bindings entries) fun _ _ => True
  | [] => tame_pure fun _ => trivial
  | (_, value) :: entries => tame_bind (tame_renderTemplate tame bindings value) fun _ =>
      tame_bind (tame_renderTemplateEntries tame bindings entries) fun _ =>
        tame_pure fun _ => trivial

end

theorem tame_agentRoute (recipient messageType : String) :
    Tame (agentRoute context recipient messageType) fun _ _ => True := by
  unfold agentRoute
  split
  · exact tame_pure fun _ => trivial
  dsimp only
  split
  · exact tame_pure fun _ => trivial
  split
  · exact tame_pure fun _ => trivial
  · exact tame_fail _

theorem tame_agentSendHandler (tame : TemplatesTame services) :
    Tame (agentSendHandler services call context) ReturnsState := by
  unfold agentSendHandler
  split
  · exact tame_fail _
  refine tame_bind tame_getState fun state => ?_
  split
  · exact tame_libraryError call
  refine tame_bind (tame_agentRoute context _ _) fun route => ?_
  obtain ⟨messageType, topic⟩ := route
  dsimp only
  split
  · exact tame_fail _
  refine tame_bind (tame_renderTemplate call tame _ _) fun content => ?_
  refine tame_bind (tame_handlerUlid call) fun conversationId => ?_
  refine tame_bind (tame_emit _) fun _ => ?_
  refine tame_bind tame_take fun k => ?_
  refine tame_bind (tame_ofExcept _) fun sent => ?_
  split
  · exact tame_fail _
  split
  · refine tame_bind (tame_handlerNow call) fun now => ?_
    exact tame_bind (tame_put (.inl (by decide))) fun _ => tame_throw rfl
  · exact tame_bind (tame_put (.inr (unmarking_dict rfl rfl rfl))) fun _ => tame_return none false

theorem tame_evaluateDecision (condition : Value) (state : State) :
    Tame (evaluateDecision services call condition state) fun _ _ => True := by
  unfold evaluateDecision
  split
  · split
    · split
      · exact tame_pure fun _ => trivial
      · exact tame_fail _
      · exact tame_fail _
      · exact tame_libraryError call
    · exact tame_libraryError call
  · exact tame_pure fun _ => trivial

theorem tame_decisionHandler : Tame (decisionHandler services call context) ReturnsState := by
  refine tame_bind tame_getState fun state => ?_
  refine tame_bind (tame_evaluateDecision call _ state) fun result => ?_
  exact tame_bind (tame_put (.inl (by decide))) fun _ => tame_return _ false

end handlers

/-! ### As the engine sees them -/

/-- What the engine can count on from one call of a built-in handler. -/
structure HandlerOutcome.Tame (state : State) (outcome : HandlerOutcome) : Prop where
  kept : MarkerKept state outcome.state
  output : ∀ result, outcome.exit = .returned result → result.outputState = outcome.state
  unpaused : outcome.exit ≠ .pauseExecution

theorem toHandler_tame {body : Nat → ExecutionContext → HandlerM NodeResult} {call : Nat}
    {context : ExecutionContext} (tame : (body call context).Tame ReturnsState) (state : State) :
    (toHandler body call state context).Tame state := by
  obtain ⟨kept, outcome⟩ := tame { state }
  unfold toHandler
  rcases ran : (body call context).run { state } with ⟨exit | result, frame⟩
  · rw [ran] at kept outcome
    refine ⟨kept, ?_, ?_⟩
    · rintro result rfl
      cases outcome
    · rintro rfl
      cases outcome
  · rw [ran] at kept outcome
    refine ⟨kept, ?_, nofun⟩
    rintro result' returned
    obtain rfl := HandlerExit.returned.inj returned
    exact outcome

theorem builtinHandlers_tame {services : Services} (templates : TemplatesTame services)
    {name : String} {handler : NodeHandler} (present : builtinHandlers services name = some handler)
    (call : Nat) (state : State) (context : ExecutionContext) :
    (handler call state context).Tame state := by
  unfold builtinHandlers at present
  split at present
  · cases present
    exact toHandler_tame (tame_startHandler call context) state
  · cases present
    exact toHandler_tame (tame_endHandler call context) state
  · cases present
    exact toHandler_tame (tame_checkpointHandler context) state
  · cases present
    exact toHandler_tame (tame_approvalHandler call context) state
  · cases present
    exact toHandler_tame (tame_llmHandler call context templates) state
  · cases present
    exact toHandler_tame (tame_agentSendHandler call context templates) state
  · cases present
    exact toHandler_tame (tame_decisionHandler call context) state
  · cases present

/-- The gate: `approval_handler` returns only at a node the marker names. -/
theorem approval_returned_marked {services : Services} {handler : NodeHandler}
    (present : builtinHandlers services "approval" = some handler) {call : Nat} {state : State}
    {context : ExecutionContext} {result : NodeResult}
    (returned : (handler call state context).exit = .returned result) :
    Marked state context.nodeId := by
  cases present
  have tame := (@tame_approvalHandler services call context { state }).2
  unfold toHandler at returned
  rcases ran : (approvalHandler services call context).run { state } with ⟨exit | value, frame⟩
  · rw [ran] at returned tame
    obtain rfl : exit = .returned result := returned
    cases tame
  · exact approvalHandler_marked call context ran

end SyndicateClaw.Orchestrator
