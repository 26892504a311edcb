import SyndicateClaw.Tools.Gates

/-! The audit event that ends a tool execution.

A handler that times out or raises is audited, and so is one whose output is accepted.
An output that is too large or does not fit the schema is refused after the handler has
run and before anything is audited. -/

namespace SyndicateClaw.Tools

open Orchestrator ToolM

/-- Exactly one of the events ends a tool execution, and it is this one. -/
def AuditedOnce (events : List ToolEvent) (event : TerminalEvent) (execution : ToolExecution) :
    Prop :=
  ∃ before after, events = before ++ .audited event execution :: after ∧
    ∀ other ∈ before ++ after, ¬ other.IsTerminal

section

variable (executor : ToolExecutor) (name : String) (input : State) (context : ExecutionContext)
  (tool : Tool)

/-- A result whose invocation, if there is one, is audited once, as completed only if the
output is returned. -/
def AuditsInvocation (result : EStateM.Result ToolError ToolFrame State) : Prop :=
  (∃ event ∈ (ending result).events, event.IsInvocation) →
    ∃ event execution, AuditedOnce (ending result).events event execution ∧
      (event = .completed →
        ∃ output frame, result = .ok output frame ∧ execution.outputData = some output)

/-- `_emit_audit` is reached with a record that can be serialised. -/
def Recorded : ToolOutcome → Prop
  | .returned output =>
      enforceResponseLimits name output tool.sandboxPolicy = .ok () ∧
        validateSchema output tool.outputSchema ("tool:" ++ name ++ ":output") = .ok () ∧
        executor.platform.serializable input ∧ executor.platform.serializable output
  | .timedOut | .raised _ => executor.platform.serializable input
  | .escaped _ => False

/-! ### One audit call -/

variable {executor name input context tool} {frame : ToolFrame} {execution : ToolExecution}

def Sendable (executor : ToolExecutor) (execution : ToolExecution) : Prop :=
  executor.auditService = true ∧ executor.platform.serializable execution.inputData = true ∧
    execution.outputData.all executor.platform.serializable = true

variable {event : TerminalEvent} {ended : Instant → ToolExecution} {rest : ToolM State}

theorem emitAudit_lost (lost : ¬ Sendable executor execution) :
    (ending ((emitAudit executor event execution).run frame)).events = frame.events := by
  unfold emitAudit
  split
  case isFalse => rfl
  case isTrue dumped =>
      rw [Bool.and_eq_true] at dumped
      split
      case isFalse => rfl
      case isTrue audited => exact absurd ⟨audited, dumped⟩ lost

theorem audit_run :
    (do
      let now ← utcnow executor
      emitAudit executor event (ended now)
      rest).run frame =
    (do
      emitAudit executor event (ended (executor.platform.now frame.taken))
      rest).run { frame with taken := frame.taken + 1 } :=
  rfl

theorem audit_sent (sendable : ∀ now, Sendable executor (ended now)) :
    (do
      let now ← utcnow executor
      emitAudit executor event (ended now)
      rest).run frame =
      rest.run ⟨frame.events ++ [.audited event (ended (executor.platform.now frame.taken))],
        frame.taken + 1⟩ := by
  obtain ⟨audited, dumped, dumped'⟩ := sendable (executor.platform.now frame.taken)
  rw [audit_run]
  unfold emitAudit
  rw [dumped, dumped', audited]
  rfl

theorem audit_lost (lost : ∀ now, ¬ Sendable executor (ended now))
    (silent : ∀ frame, (ending (rest.run frame)).events = frame.events) :
    (ending ((do
      let now ← utcnow executor
      emitAudit executor event (ended now)
      rest).run frame)).events = frame.events := by
  have kept := @emitAudit_lost executor { frame with taken := frame.taken + 1 } _ event
    (lost (executor.platform.now frame.taken))
  rw [audit_run, EStateM.run_bind]
  cases ran : (emitAudit executor event (ended (executor.platform.now frame.taken))).run
      { frame with taken := frame.taken + 1 } with
  | error e after =>
      rw [ran] at kept
      exact kept
  | ok _ after =>
      rw [ran] at kept
      exact (silent after).trans kept

/-! ### The end of the handler -/

theorem finishTool_checked {output : State}
    (limits : enforceResponseLimits name output tool.sandboxPolicy = .ok ())
    (schema : validateSchema output tool.outputSchema ("tool:" ++ name ++ ":output") = .ok ()) :
    finishTool executor name tool execution output = do
      let now ← utcnow executor
      emitAudit executor .completed
        (execution.ended .completed none (some output) now executor.platform.elapsedMs)
      return output := by
  unfold finishTool
  rw [limits, schema]
  rfl

theorem finishTool_refused {output : State}
    (refused : ¬ (enforceResponseLimits name output tool.sandboxPolicy = .ok () ∧
      validateSchema output tool.outputSchema ("tool:" ++ name ++ ":output") = .ok ())) :
    (ending ((finishTool executor name tool execution output).run frame)).events =
      frame.events := by
  unfold finishTool
  cases limits : enforceResponseLimits name output tool.sandboxPolicy with
  | error e => rfl
  | ok _ =>
      cases schema : validateSchema output tool.outputSchema ("tool:" ++ name ++ ":output") with
      | error e => rfl
      | ok _ => exact absurd ⟨limits, schema⟩ refused

theorem settleTool_sent {outcome : ToolOutcome} (audited : executor.auditService = true)
    (recorded : Recorded executor name execution.inputData tool outcome) :
    ∃ event execution',
      (ending ((settleTool executor name tool execution outcome).run frame)).events =
        frame.events ++ [.audited event execution'] ∧
      (event = .completed → ∃ output after,
        (settleTool executor name tool execution outcome).run frame = .ok output after ∧
          execution'.outputData = some output) := by
  cases outcome with
  | returned output =>
      obtain ⟨limits, schema, dumped, dumped'⟩ := recorded
      simp only [settleTool]
      rw [finishTool_checked limits schema, audit_sent]
      · exact ⟨.completed, _, rfl, fun _ => ⟨output, _, rfl, rfl⟩⟩
      · exact fun now => ⟨audited, dumped, dumped'⟩
  | timedOut =>
      simp only [settleTool]
      rw [audit_sent]
      · exact ⟨.timedOut, _, rfl, nofun⟩
      · exact fun now => ⟨audited, recorded, rfl⟩
  | raised message =>
      simp only [settleTool]
      rw [audit_sent]
      · exact ⟨.failed, _, rfl, nofun⟩
      · exact fun now => ⟨audited, recorded, rfl⟩
  | escaped message => exact recorded.elim

theorem settleTool_lost {outcome : ToolOutcome}
    (lost : ¬ (executor.auditService = true ∧
      Recorded executor name execution.inputData tool outcome)) :
    (ending ((settleTool executor name tool execution outcome).run frame)).events =
      frame.events := by
  cases outcome with
  | returned output =>
      by_cases checked : enforceResponseLimits name output tool.sandboxPolicy = .ok () ∧
          validateSchema output tool.outputSchema ("tool:" ++ name ++ ":output") = .ok ()
      · simp only [settleTool]
        rw [finishTool_checked checked.1 checked.2]
        refine audit_lost (fun now sendable => lost ?_) fun _ => rfl
        exact ⟨sendable.1, checked.1, checked.2, sendable.2.1, sendable.2.2⟩
      · exact finishTool_refused checked
  | timedOut => exact audit_lost (fun now sendable => lost ⟨sendable.1, sendable.2.1⟩) fun _ => rfl
  | raised message =>
      exact audit_lost (fun now sendable => lost ⟨sendable.1, sendable.2.1⟩) fun _ => rfl
  | escaped message => rfl

/-! ### The whole call -/

theorem not_auditedOnce {events : List ToolEvent} (none : ∀ other ∈ events, ¬ other.IsTerminal) :
    ¬ AuditedOnce events event execution := by
  intro once
  obtain ⟨before, after, rfl, -⟩ := once
  refine none (.audited event execution) ?_ trivial
  exact List.mem_append_right _ List.mem_cons_self

theorem auditedOnce_append {events : List ToolEvent} (none : ∀ other ∈ events, ¬ other.IsTerminal) :
    AuditedOnce (events ++ [.audited event execution]) event execution :=
  ⟨events, [], rfl, by simpa using none⟩

theorem runTool_audits {handler : State → ToolOutcome}
    (none : ∀ other ∈ frame.events, ¬ other.IsTerminal) (inputData : execution.inputData = input) :
    AuditsInvocation ((runTool executor name input tool handler execution).run frame) ↔
      executor.auditService = true ∧ Recorded executor name input tool (handler input) := by
  have invoked : ∃ event ∈ (ending ((runTool executor name input tool handler execution).run
      frame)).events, event.IsInvocation := by
    obtain ⟨after, events, -⟩ := runTool_events executor name input tool handler execution frame
    refine ⟨.invoked name input, ?_, trivial⟩
    rw [events]
    exact List.mem_append_right _ List.mem_cons_self
  have before : ∀ other ∈ frame.events ++ [.invoked name input], ¬ other.IsTerminal := by
    intro other member
    rcases List.mem_append.mp member with early | last
    · exact none other early
    · rw [List.mem_singleton.mp last]
      exact id
  subst inputData
  constructor
  · intro audits
    by_contra lost
    obtain ⟨event, execution', once, -⟩ := audits invoked
    rw [runTool_run, settleTool_lost lost] at once
    exact not_auditedOnce before once
  · intro recorded _
    rw [runTool_run]
    obtain ⟨event, execution', events, completed⟩ := settleTool_sent recorded.1 recorded.2
    refine ⟨event, execution', ?_, completed⟩
    rw [events]
    exact auditedOnce_append before

theorem execute_audits_of_open {definition : ToolDefinition} {record : String}
    (known : executor.registry name = some definition)
    (opened : GatesOpen executor name input context definition.tool record)
    (identified : Identified context) :
    AuditsInvocation ((execute executor name input context).run {}) ↔
      executor.auditService = true ∧
        Recorded executor name input definition.tool (definition.handler input) := by
  obtain ⟨execution, frame, admitted⟩ := admitTool_run {} opened identified
  obtain ⟨-, -, -, -, inputData⟩ := admitTool_ok admitted
  have quiet := (admitTool_quiet executor name input context definition.tool).fresh
  rw [admitted] at quiet
  have none : ∀ other ∈ frame.events, ¬ other.IsTerminal :=
    fun other member => (quiet other member).2
  rw [execute_eq_some known, EStateM.run_bind, admitted]
  exact runTool_audits none inputData

theorem auditsInvocation_iff (executor : ToolExecutor) (name : String) (input : State)
    (context : ExecutionContext) :
    AuditsInvocation ((execute executor name input context).run {}) ↔
      ∀ definition record, executor.registry name = some definition →
        GatesOpen executor name input context definition.tool record → Identified context →
        executor.auditService = true ∧
          Recorded executor name input definition.tool (definition.handler input) := by
  constructor
  · intro audits definition record known opened identified
    exact (execute_audits_of_open known opened identified).mp audits
  · intro condition invoked
    rcases admission executor name input context with admitted | raised
    · obtain ⟨definition, record, known, opened, identified⟩ := admitted
      have recorded := condition definition record known opened identified
      exact (execute_audits_of_open known opened identified).mpr recorded invoked
    · obtain ⟨error, frame, ran, none⟩ := raised
      obtain ⟨event, member, invocation⟩ := invoked
      rw [ran] at member
      exact absurd invocation (none event member)

/-- A lookup tool that promises a `title`; its handler returns none. -/
def titleTool : Tool :=
  { inputSchema := [], outputSchema := [("required", .list [.str "title"])], riskLevel := .low
    sideEffects := ["send"], timeoutSeconds := 30
    sandboxPolicy :=
      { allowedDomains := [], allowedProtocols := ["https"], maxRequestBytes := 1048576
        maxResponseBytes := 10485760, networkIsolation := true, filesystemRead := false
        subprocessAllowed := false } }

def titleExecutor : ToolExecutor :=
  { platform :=
      { ulid := fun n => toString n, now := fun _ => 0, elapsedMs := 5, defaultScope := .none
        nfkc := id, isIpv6 := fun _ => false, serializable := fun _ => true
        errorText := "" }
    registry := fun _ => some ⟨titleTool, fun _ => .returned []⟩
    policyEngine := .evaluating fun _ _ _ => .ok .allow
    auditService := true
    decisionLedger := some fun _ => .ok (some "D1")
    runtimeBoundary := none }

def titleContext : ExecutionContext :=
  { runId := "run-1", nodeId := "lookup", attempt := 1, config := [] }

theorem titleGates_open :
    GatesOpen titleExecutor "lookup" [] titleContext titleTool "D1" where
  schema := rfl
  sandbox := rfl
  policy := rfl
  ledger := ⟨fun _ => .ok (some "D1"), rfl, rfl⟩
  boundary := nofun

theorem refused_output_not_audited :
    ¬ AuditsInvocation ((execute titleExecutor "lookup" [] titleContext).run {}) := by
  intro audits
  have identified : Identified titleContext := by
    intro value held
    cases held
  obtain ⟨-, -, schema, -⟩ := (execute_audits_of_open rfl titleGates_open identified).mp audits
  cases schema

end

end SyndicateClaw.Tools
