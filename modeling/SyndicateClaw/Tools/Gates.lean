import SyndicateClaw.Tools.Executor

/-! The gates of `ToolExecutor.execute`.

Everything in front of the handler either passes or raises; nothing there calls the
handler. The handler is called once all gates have let the call pass. -/

namespace SyndicateClaw.Tools

open Orchestrator ToolM

def ToolEvent.IsInvocation : ToolEvent → Prop
  | .invoked _ _ => True
  | _ => False

def ToolEvent.IsTerminal : ToolEvent → Prop
  | .audited _ _ => True
  | _ => False

def ending {α : Type} : EStateM.Result ToolError ToolFrame α → ToolFrame
  | .ok _ frame => frame
  | .error _ frame => frame

section runs

variable {α β : Type} {frame after : ToolFrame}

theorem bind_ok {m : ToolM α} {f : α → ToolM β} {b : β}
    (ran : (m >>= f).run frame = .ok b after) :
    ∃ a middle, m.run frame = .ok a middle ∧ (f a).run middle = .ok b after := by
  rw [EStateM.run_bind] at ran
  cases first : m.run frame with
  | error e middle =>
      rw [first] at ran
      cases ran
  | ok a middle =>
      rw [first] at ran
      exact ⟨a, middle, rfl, ran⟩

theorem check_ok {outcome : Except ToolError α} {a : α}
    (ran : (check outcome).run frame = .ok a after) : outcome = .ok a ∧ after = frame := by
  cases outcome with
  | error e => cases ran
  | ok b =>
      cases ran
      exact ⟨rfl, rfl⟩

end runs

/-! ### What a computation can add to the events -/

/-- Whether it returns or raises, the computation adds only such events. -/
def Adds {α : Type} (allowed : ToolEvent → Prop) (m : ToolM α) : Prop :=
  ∀ frame, ∃ added, (ending (m.run frame)).events = frame.events ++ added ∧
    ∀ event ∈ added, allowed event

namespace Adds

variable {α β : Type} {allowed : ToolEvent → Prop}

theorem pure (a : α) : Adds allowed (pure a : ToolM α) :=
  fun frame => ⟨[], by simp [ending], by simp⟩

theorem throw (e : ToolError) : Adds allowed (throw e : ToolM α) :=
  fun frame => ⟨[], (List.append_nil _).symm, by simp⟩

theorem bind {m : ToolM α} {f : α → ToolM β} (first : Adds allowed m)
    (rest : ∀ a, Adds allowed (f a)) : Adds allowed (m >>= f) := by
  intro frame
  obtain ⟨added, events, only⟩ := first frame
  rw [EStateM.run_bind]
  cases ran : m.run frame with
  | error e after =>
      rw [ran] at events
      exact ⟨added, events, only⟩
  | ok a after =>
      rw [ran] at events
      obtain ⟨more, events', only'⟩ := rest a after
      refine ⟨added ++ more, ?_, ?_⟩
      · rw [events', show after.events = _ from events, List.append_assoc]
      · intro event member
        rcases List.mem_append.mp member with early | late
        · exact only event early
        · exact only' event late

theorem check (outcome : Except ToolError α) : Adds allowed (check outcome) := by
  cases outcome with
  | error e => exact .throw e
  | ok a => exact .pure a

theorem take : Adds allowed take :=
  fun frame => ⟨[], by simp [ToolM.take, ending], by simp⟩

theorem emit {event : ToolEvent} (permitted : allowed event) : Adds allowed (emit event) := by
  intro frame
  refine ⟨[event], by simp [ToolM.emit, ending], ?_⟩
  intro event' member
  obtain rfl := List.mem_singleton.mp member
  exact permitted

theorem fresh {m : ToolM α} (adds : Adds allowed m) :
    ∀ event ∈ (ending (m.run {})).events, allowed event := by
  obtain ⟨added, events, only⟩ := adds {}
  rw [events]
  exact only

end Adds

/-- The computation neither calls a handler nor audits a tool. -/
abbrev Quiet {α : Type} (m : ToolM α) : Prop :=
  Adds (fun event => ¬ event.IsInvocation ∧ ¬ event.IsTerminal) m

section

variable (executor : ToolExecutor) (name : String) (input : State) (context : ExecutionContext)
  (tool : Tool)

theorem recordDecision_quiet (effect justification : String) :
    Quiet (recordDecision executor name input context tool effect justification) := by
  unfold recordDecision
  cases executor.decisionLedger with
  | none => exact .pure _
  | some ledger =>
      refine .bind (.emit ?_) fun _ => .pure _
      simp [ToolEvent.IsInvocation, ToolEvent.IsTerminal]

theorem enforceRuntimeBoundary_quiet :
    Quiet (enforceRuntimeBoundary executor name context tool) := by
  unfold enforceRuntimeBoundary
  cases executor.runtimeBoundary with
  | none => exact .pure _
  | some authorize =>
      refine .bind (.check _) fun authority => ?_
      dsimp only
      split
      · exact .throw _
      · refine .bind (.emit ?_) fun _ => ?_
        · simp [ToolEvent.IsInvocation, ToolEvent.IsTerminal]
        · split
          · exact .throw _
          · exact .pure _

theorem nodeExecutionId_quiet : Quiet (nodeExecutionId executor context) := by
  refine .bind (.bind .take fun _ => .pure _) fun fresh => ?_
  split
  · exact .pure _
  · exact .throw _

theorem approvalRequest_quiet : Quiet (approvalRequest executor name input context tool) := by
  refine .bind (nodeExecutionId_quiet executor context) fun _ => ?_
  refine .bind (.bind .take fun _ => .pure _) fun _ => ?_
  exact .bind (.bind .take fun _ => .pure _) fun _ => .pure _

theorem authorizeTool_quiet : Quiet (authorizeTool executor name input context tool) := by
  have records := recordDecision_quiet executor name input context tool
  unfold authorizeTool
  cases checkPolicy executor name input context tool with
  | deny => exact .bind (records _ _) fun _ => .throw _
  | requireApproval =>
      refine .bind (records _ _) fun _ => ?_
      exact .bind (approvalRequest_quiet executor name input context tool) fun _ => .throw _
  | allow =>
      refine .bind (records _ _) fun record => ?_
      cases record with
      | none => exact .throw _
      | some record =>
          exact .bind (enforceRuntimeBoundary_quiet executor name context tool) fun _ => .pure _

theorem toolExecution_quiet (record : String) :
    Quiet (toolExecution executor name input context record) := by
  refine .bind (nodeExecutionId_quiet executor context) fun _ => ?_
  exact .bind (.bind .take fun _ => .pure _) fun _ => .pure _

/-! ### Passing the gates -/

/-- The decision `execute` has recorded before it goes on. -/
def allowDecision : ToolDecision :=
  toolDecision name input context tool "allow"
    ("Policy allowed execution of tool '" ++ name ++ "'")

def BoundaryAllows : Prop :=
  ∀ authorize, executor.runtimeBoundary = some authorize →
    ∃ authority reason, authorityContext (lookup context.config "authority") = .ok authority ∧
      authorize authority (expectedBinding name context tool authority) = .ok (true, reason)

/-- The gates beside the policy let the call pass, the ledger with this record. -/
structure OtherGatesOpen (record : String) : Prop where
  schema : validateSchema input tool.inputSchema ("tool:" ++ name ++ ":input") = .ok ()
  sandbox : enforceSandbox executor.platform name input tool.sandboxPolicy = .ok ()
  ledger : ∃ ledger, executor.decisionLedger = some ledger ∧
    ledger (allowDecision name input context tool) = .ok (some record)
  boundary : BoundaryAllows executor name context tool

structure GatesOpen (record : String) : Prop
    extends OtherGatesOpen executor name input context tool record where
  policy : checkPolicy executor name input context tool = .allow

/-- The configuration has no `node_execution_id` that is not a string. -/
def Identified : Prop :=
  ∀ value, Dict.get? context.config "node_execution_id" = some value → ∃ id, value = .str id

/-- The ledger has returned a record for the call, and the boundary has allowed it. -/
def Cleared (record : String) (events : List ToolEvent) : Prop :=
  .decided (allowDecision name input context tool) (some record) ∈ events ∧
    (executor.runtimeBoundary.isSome → ∃ authority,
      .authorized (expectedBinding name context tool authority) true ∈ events)

variable {executor name input context tool}

theorem enforceRuntimeBoundary_ok {frame after : ToolFrame}
    (ran : (enforceRuntimeBoundary executor name context tool).run frame = .ok () after) :
    BoundaryAllows executor name context tool ∧ frame.events <+: after.events ∧
      (executor.runtimeBoundary.isSome → ∃ authority,
        .authorized (expectedBinding name context tool authority) true ∈ after.events) := by
  unfold enforceRuntimeBoundary at ran
  cases configured : executor.runtimeBoundary with
  | none =>
      simp only [configured] at ran
      cases ran
      refine ⟨?_, List.prefix_refl _, by simp⟩
      intro authorize present
      rw [configured] at present
      cases present
  | some authorize =>
      simp only [configured] at ran
      obtain ⟨authority, middle, first, rest⟩ := bind_ok ran
      obtain ⟨read, same⟩ := check_ok first
      subst same
      cases answered : authorize authority (expectedBinding name context tool authority) with
      | error message =>
          simp only [answered] at rest
          cases rest
      | ok answer =>
          obtain ⟨allowed, reason⟩ := answer
          simp only [answered] at rest
          cases allowed with
          | false => cases rest
          | true =>
              cases rest
              refine ⟨?_, List.prefix_append _ _, fun _ => ⟨authority, ?_⟩⟩
              swap
              · exact List.mem_append_right _ (List.mem_singleton_self _)
              intro authorize' present
              obtain rfl := Option.some.inj (configured.symm.trans present)
              exact ⟨authority, reason, read, answered⟩

theorem recordDecision_ok {frame after : ToolFrame} {effect justification : String}
    {record : Option String}
    (ran : (recordDecision executor name input context tool effect justification).run frame =
      .ok record after) (recorded : record.isSome) :
    (∃ ledger, executor.decisionLedger = some ledger ∧
      ledger (toolDecision name input context tool effect justification) = .ok record) ∧
      .decided (toolDecision name input context tool effect justification) record ∈
        after.events := by
  unfold recordDecision at ran
  cases present : executor.decisionLedger with
  | none =>
      simp only [present] at ran
      cases ran
      cases recorded
  | some ledger =>
      simp only [present] at ran
      cases ran
      refine ⟨⟨ledger, rfl, ?_⟩, List.mem_append_right _ (List.mem_singleton_self _)⟩
      cases answered : ledger (toolDecision name input context tool effect justification) with
      | error message => simp [answered] at recorded
      | ok record => rfl

theorem authorizeTool_ok {frame after : ToolFrame} {record : String}
    (ran : (authorizeTool executor name input context tool).run frame = .ok record after) :
    checkPolicy executor name input context tool = .allow ∧
      (∃ ledger, executor.decisionLedger = some ledger ∧
        ledger (allowDecision name input context tool) = .ok (some record)) ∧
      BoundaryAllows executor name context tool ∧
      Cleared executor name input context tool record after.events := by
  unfold authorizeTool at ran
  cases decided : checkPolicy executor name input context tool with
  | deny =>
      simp only [decided] at ran
      obtain ⟨_, _, -, raised⟩ := bind_ok ran
      cases raised
  | requireApproval =>
      simp only [decided] at ran
      obtain ⟨_, _, -, ran⟩ := bind_ok ran
      obtain ⟨_, _, -, raised⟩ := bind_ok ran
      cases raised
  | allow =>
      simp only [decided] at ran
      obtain ⟨recorded, middle, first, ran⟩ := bind_ok ran
      cases recorded with
      | none => cases ran
      | some record' =>
          obtain ⟨_, _, second, third⟩ := bind_ok ran
          cases third
          obtain ⟨ledger, written⟩ := recordDecision_ok first rfl
          obtain ⟨allows, later, authorized⟩ := enforceRuntimeBoundary_ok second
          exact ⟨rfl, ledger, allows, later.subset written, authorized⟩

variable (executor name input context tool)

/-- Everything `execute` does before it calls the handler. -/
def admitTool : ToolM ToolExecution := do
  check (validateSchema input tool.inputSchema ("tool:" ++ name ++ ":input"))
  check (enforceSandbox executor.platform name input tool.sandboxPolicy)
  let record ← authorizeTool executor name input context tool
  toolExecution executor name input context record

theorem admitTool_quiet : Quiet (admitTool executor name input context tool) :=
  .bind (.check _) fun _ => .bind (.check _) fun _ =>
    .bind (authorizeTool_quiet executor name input context tool) fun record =>
      toolExecution_quiet executor name input context record

variable {executor name input context tool}

theorem execute_eq_none (unknown : executor.registry name = none) :
    execute executor name input context = throw (.notFound name) := by
  unfold execute
  rw [unknown]

theorem execute_eq_some {definition : ToolDefinition}
    (known : executor.registry name = some definition) :
    execute executor name input context =
      admitTool executor name input context definition.tool >>=
        runTool executor name input definition.tool definition.handler := by
  unfold execute admitTool
  rw [known]
  simp only [bind_assoc]

theorem nodeExecutionId_run (identified : Identified context) (frame : ToolFrame) :
    ∃ id, (nodeExecutionId executor context).run frame =
      .ok id { frame with taken := frame.taken + 1 } := by
  unfold nodeExecutionId
  cases held : Dict.get? context.config "node_execution_id" with
  | none => exact ⟨executor.platform.ulid frame.taken, rfl⟩
  | some value =>
      obtain ⟨id, rfl⟩ := identified value held
      exact ⟨id, rfl⟩

theorem nodeExecutionId_ok {frame after : ToolFrame} {id : String}
    (ran : (nodeExecutionId executor context).run frame = .ok id after) :
    Identified context ∧ after.events = frame.events := by
  have taken : after = { frame with taken := frame.taken + 1 } ∧ Identified context := by
    unfold nodeExecutionId at ran
    unfold Identified
    cases held : Dict.get? context.config "node_execution_id" with
    | none =>
        simp only [held] at ran
        cases ran
        simp
    | some value =>
        simp only [held] at ran
        cases value with
        | str id =>
            cases ran
            simp
        | _ => cases ran
  exact ⟨taken.2, by rw [taken.1]⟩

theorem toolExecution_ok {frame after : ToolFrame} {record : String} {execution : ToolExecution}
    (ran : (toolExecution executor name input context record).run frame = .ok execution after) :
    Identified context ∧ after.events = frame.events ∧ execution.inputData = input := by
  obtain ⟨id, middle, first, rest⟩ := bind_ok ran
  obtain ⟨identified, events⟩ := nodeExecutionId_ok first
  cases rest
  exact ⟨identified, events, rfl⟩

theorem admitTool_ok {frame after : ToolFrame} {execution : ToolExecution}
    (ran : (admitTool executor name input context tool).run frame = .ok execution after) :
    ∃ record, GatesOpen executor name input context tool record ∧
      Cleared executor name input context tool record after.events ∧
      Identified context ∧ execution.inputData = input := by
  obtain ⟨_, first, checkedSchema, rest⟩ := bind_ok ran
  obtain ⟨schema, same⟩ := check_ok checkedSchema
  subst same
  obtain ⟨_, second, checkedSandbox, rest'⟩ := bind_ok rest
  obtain ⟨sandbox, same⟩ := check_ok checkedSandbox
  subst same
  obtain ⟨record, third, authorized, executing⟩ := bind_ok rest'
  obtain ⟨policy, ledger, boundary, cleared⟩ := authorizeTool_ok authorized
  obtain ⟨identified, events, inputData⟩ := toolExecution_ok executing
  rw [← events] at cleared
  exact ⟨record, ⟨⟨schema, sandbox, ledger, boundary⟩, policy⟩, cleared, identified, inputData⟩

theorem recordDecision_run {ledger : ToolDecision → Except String (Option String)}
    {effect justification : String} {record : Option String} (frame : ToolFrame)
    (present : executor.decisionLedger = some ledger)
    (answered : ledger (toolDecision name input context tool effect justification) = .ok record) :
    ∃ after, (recordDecision executor name input context tool effect justification).run frame =
      .ok record after := by
  unfold recordDecision
  rw [present]
  dsimp only
  rw [answered]
  exact ⟨_, rfl⟩

theorem enforceRuntimeBoundary_run (frame : ToolFrame)
    (allows : BoundaryAllows executor name context tool) :
    ∃ after, (enforceRuntimeBoundary executor name context tool).run frame = .ok () after := by
  unfold enforceRuntimeBoundary
  cases configured : executor.runtimeBoundary with
  | none => exact ⟨frame, rfl⟩
  | some authorize =>
      obtain ⟨authority, reason, read, answered⟩ := allows authorize configured
      simp only [read, EStateM.run_bind, check, EStateM.run_pure, answered]
      exact ⟨_, rfl⟩

theorem admitTool_run {record : String} (frame : ToolFrame)
    (opened : GatesOpen executor name input context tool record)
    (identified : Identified context) :
    ∃ execution after,
      (admitTool executor name input context tool).run frame = .ok execution after := by
  obtain ⟨ledger, present, answered⟩ := opened.ledger
  obtain ⟨recorded, first⟩ := recordDecision_run frame present answered
  obtain ⟨bounded, second⟩ := enforceRuntimeBoundary_run recorded opened.boundary
  obtain ⟨id, third⟩ := @nodeExecutionId_run executor context identified bounded
  unfold admitTool authorizeTool toolExecution
  rw [opened.schema, opened.sandbox, opened.policy]
  simp only [check, pure_bind, bind_assoc, EStateM.run_bind, first, second, third]
  exact ⟨_, _, rfl⟩

/-! ### The handler's call -/

variable (executor name input tool)

theorem emitAudit_adds (event : TerminalEvent) (execution : ToolExecution) :
    Adds (fun event => ¬ event.IsInvocation) (emitAudit executor event execution) := by
  unfold emitAudit
  split
  · split
    · exact .emit id
    · exact .pure ()
  · exact .throw _

theorem finishTool_adds (execution : ToolExecution) (output : State) :
    Adds (fun event => ¬ event.IsInvocation) (finishTool executor name tool execution output) := by
  refine .bind (.check _) fun _ => .bind (.bind .take fun _ => .pure _) fun _ => ?_
  exact .bind (.check _) fun _ => .bind (emitAudit_adds executor _ _) fun _ => .pure _

theorem settleTool_adds (execution : ToolExecution) (outcome : ToolOutcome) :
    Adds (fun event => ¬ event.IsInvocation) (settleTool executor name tool execution outcome) := by
  cases outcome with
  | returned output => exact finishTool_adds executor name tool execution output
  | timedOut =>
      exact .bind (.bind .take fun _ => .pure _) fun _ =>
        .bind (emitAudit_adds executor _ _) fun _ => .throw _
  | raised message =>
      exact .bind (.bind .take fun _ => .pure _) fun _ =>
        .bind (emitAudit_adds executor _ _) fun _ => .throw _
  | escaped message => exact .throw _

theorem runTool_run (handler : State → ToolOutcome) (execution : ToolExecution)
    (frame : ToolFrame) :
    (runTool executor name input tool handler execution).run frame =
      (settleTool executor name tool execution (handler input)).run
        { frame with events := frame.events ++ [.invoked name input] } :=
  rfl

theorem runTool_events (handler : State → ToolOutcome) (execution : ToolExecution)
    (frame : ToolFrame) :
    ∃ after, (ending ((runTool executor name input tool handler execution).run frame)).events =
        frame.events ++ .invoked name input :: after ∧
      ∀ event ∈ after, ¬ event.IsInvocation := by
  rw [runTool_run]
  obtain ⟨after, events, only⟩ := settleTool_adds executor name tool execution
    (handler input) { frame with events := frame.events ++ [.invoked name input] }
  refine ⟨after, ?_, only⟩
  rw [events, List.append_assoc, List.singleton_append]

/-- Either the gates are open, or `execute` raises without a call of the handler. -/
theorem admission (context : ExecutionContext) :
    (∃ definition record, executor.registry name = some definition ∧
      GatesOpen executor name input context definition.tool record ∧ Identified context) ∨
    ∃ error frame, (execute executor name input context).run {} = .error error frame ∧
      ∀ event ∈ frame.events, ¬ event.IsInvocation := by
  cases known : executor.registry name with
  | none =>
      rw [execute_eq_none known]
      exact .inr ⟨.notFound name, {}, rfl, by simp⟩
  | some definition =>
      rw [execute_eq_some known, EStateM.run_bind]
      have quiet := (admitTool_quiet executor name input context definition.tool).fresh
      cases admitted : (admitTool executor name input context definition.tool).run {} with
      | error error frame =>
          rw [admitted] at quiet
          exact .inr ⟨error, frame, rfl, fun event member => (quiet event member).1⟩
      | ok execution frame =>
          obtain ⟨record, opened, -, identified, -⟩ := admitTool_ok admitted
          exact .inl ⟨definition, record, rfl, opened, identified⟩

/-- `execute` calls the handler once, after every gate has let the call pass, or it raises
without calling it. -/
theorem execute_gated (executor : ToolExecutor) (name : String) (input : State)
    (context : ExecutionContext) :
    (∃ definition record before after,
      executor.registry name = some definition ∧
      (ending ((execute executor name input context).run {})).events =
        before ++ .invoked name input :: after ∧
      (∀ event ∈ before ++ after, ¬ event.IsInvocation) ∧
      GatesOpen executor name input context definition.tool record ∧
      Cleared executor name input context definition.tool record before) ∨
    (∃ error frame, (execute executor name input context).run {} = .error error frame ∧
      ∀ event ∈ frame.events, ¬ event.IsInvocation) := by
  rcases admission executor name input context with admitted | raised
  · obtain ⟨definition, _, known, opened, identified⟩ := admitted
    obtain ⟨execution, frame, admitted⟩ := admitTool_run {} opened identified
    obtain ⟨record, opened, cleared, -, -⟩ := admitTool_ok admitted
    have quiet := (admitTool_quiet executor name input context definition.tool).fresh
    rw [admitted] at quiet
    obtain ⟨after, events, only⟩ := runTool_events executor name input definition.tool
      definition.handler execution frame
    rw [execute_eq_some known, EStateM.run_bind, admitted]
    refine .inl ⟨definition, record, frame.events, after, known, events, ?_, opened, cleared⟩
    intro event member
    rcases List.mem_append.mp member with early | late
    · exact (quiet event early).1
    · exact only event late
  · exact .inr raised

end

end SyndicateClaw.Tools
