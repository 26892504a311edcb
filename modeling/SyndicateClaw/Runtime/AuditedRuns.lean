import SyndicateClaw.Runtime.Execution

/-! When an invocation of a skill is audited, and which tools it has used. -/

namespace SyndicateClaw.Runtime

open Orchestrator

def Permitted (manifest : SkillManifest) (toolName : String) : Prop :=
  toolName ∈ manifest.allowedTools ∧ toolName ∉ manifest.deniedTools ∧
    manifest.toolPolicy ≠ .denyAll

instance (manifest : SkillManifest) (toolName : String) : Decidable (Permitted manifest toolName) :=
  inferInstanceAs (Decidable (_ ∧ _ ∧ _))

section

variable {ω : Type} (engine : ExecutionEngine ω) (request : ExecutionRequest)
  (manifest : SkillManifest)

def permittedRequests (calls : List ToolCall) : List ToolRequest :=
  (calls.filter fun call => Permitted manifest call.toolName).filterMap
    (requestOf manifest request.executionId)

def dumped (toolRequest : ToolRequest) : Option ToolRequest :=
  (modelDump engine.library toolRequest).toOption

/-- The log is of the permitted requests, and these went to the executor, if there is one. -/
structure Logged (session : Session ω) : Prop where
  invoked : session.toolsInvoked.map some =
    (permittedRequests request manifest session.asked).map (dumped engine)
  executed : engine.executor.isSome →
    session.executed = permittedRequests request manifest session.asked

def Recorded (sink : List ExecutionRecord) (execution : Execution ω) : Prop :=
  ∃ record, execution.answer = .ok record ∧ execution.sink = sink ++ [record] ∧
    record.toolsInvoked = execution.session.toolsInvoked

/-- There is one record, and no tool was used but the permitted ones, which are in the record. -/
def Audited (sink : List ExecutionRecord) (execution : Execution ω) : Prop :=
  Logged engine request manifest execution.session ∧ Recorded sink execution

def Matches : Prop := request.skillId = manifest.skillId ∧ request.version = manifest.version

def Handles (handler : Option SkillHandler) (own : SkillHandler) : Prop :=
  Matches request manifest ∧
    engine.library.validate manifest.inputSchema (pyDict request.inputPayload) = .valid ∧
    handler = some own

/-- An end of a handler that leads to a record: no other exception than an `Exception` that has a text,
and no dictionary whose check raises another error, or that has keys which are no texts. -/
structure HandlerEnd.Decent (ending : HandlerEnd) : Prop where
  stays : ending ≠ .exited
  speaks : ∀ exception, ending = .raised exception → exception.text.isSome
  answers : ∀ output, ending = .returned output →
    (∀ exception, engine.library.validate manifest.outputSchema output ≠ .raises exception) ∧
    (textKeyed output).isSome

/-- The check of the input raises no other error, and if the handler is run, then the permitted requests
that it makes have dumps, and it ends decently. -/
structure Orderly (handler : Option SkillHandler) (world : ω) : Prop where
  input : Matches request manifest → ∀ exception,
    engine.library.validate manifest.inputSchema (pyDict request.inputPayload) ≠ .raises exception
  requests : ∀ own, Handles engine request manifest handler own →
    ∀ toolRequest ∈ permittedRequests request manifest
      (engine.handle request manifest own world).1.asked, (dumped engine toolRequest).isSome
  ending : ∀ own, Handles engine request manifest handler own →
    (engine.handle request manifest own world).2.Decent engine manifest

end

section

variable {ω : Type} {engine : ExecutionEngine ω} {request : ExecutionRequest}
  {manifest : SkillManifest} {info : ExecutionInfo} {sink : List ExecutionRecord}
  {session : Session ω} {world : ω}

/-! ### Tools -/

theorem unauthorized_eq_none {toolName : String} :
    unauthorized manifest toolName = none ↔ Permitted manifest toolName := by
  unfold unauthorized Permitted
  split
  · next denyAll => simp [denyAll]
  · next policy =>
      split
      · next denied => simp [denied]
      · next undenied =>
          split
          · next empty => simp [empty]
          · split
            · next absent => simp [absent]
            · next allowed =>
                rw [not_not] at allowed
                simp [allowed, undenied, policy]

theorem permittedRequests_append (calls : List ToolCall) (call : ToolCall) :
    permittedRequests request manifest (calls ++ [call]) =
      permittedRequests request manifest calls ++ permittedRequests request manifest [call] := by
  unfold permittedRequests
  rw [List.filter_append, List.filterMap_append]

theorem permittedRequests_of_forbidden {call : ToolCall}
    (forbidden : ¬ Permitted manifest call.toolName) :
    permittedRequests request manifest [call] = [] := by
  simp [permittedRequests, forbidden]

theorem permittedRequests_of_permitted {call : ToolCall} (permitted : Permitted manifest call.toolName) :
    permittedRequests request manifest [call] =
      (requestOf manifest request.executionId call).toList := by
  have kept : [call].filter (fun call => Permitted manifest call.toolName) = [call] := by
    simp [permitted]
  unfold permittedRequests
  rw [kept, List.filterMap_cons]
  cases requestOf manifest request.executionId call with
  | none => rfl
  | some toolRequest => rfl

variable (engine request manifest) in
structure Tracked (session : Session ω) : Prop where
  invoked : session.toolsInvoked =
    (permittedRequests request manifest session.asked).filterMap (dumped engine)
  executed : engine.executor.isSome →
    session.executed = (permittedRequests request manifest session.asked).filter fun toolRequest =>
      (dumped engine toolRequest).isSome

theorem tracked_start (world : ω) : Tracked engine request manifest { world } :=
  ⟨rfl, fun _ => rfl⟩

theorem Tracked.ask (tracked : Tracked engine request manifest session) {call : ToolCall}
    (undumped : ∀ toolRequest ∈ permittedRequests request manifest [call],
      dumped engine toolRequest = none) :
    Tracked engine request manifest { session with asked := session.asked ++ [call] } := by
  constructor
  · dsimp only
    rw [permittedRequests_append, List.filterMap_append, ← tracked.invoked,
      List.filterMap_eq_nil_iff.mpr undumped, List.append_nil]
  · intro present
    dsimp only
    have nothing : (permittedRequests request manifest [call]).filter (fun toolRequest =>
        (dumped engine toolRequest).isSome) = [] := by
      apply List.filter_eq_nil_iff.mpr
      intro toolRequest mem
      rw [undumped toolRequest mem]
      exact nofun
    rw [permittedRequests_append, List.filter_append, ← tracked.executed present, nothing,
      List.append_nil]

theorem Tracked.invoke (tracked : Tracked engine request manifest session) (call : ToolCall) :
    Tracked engine request manifest
      (invoke engine.library engine.executor manifest request.executionId call session).1 := by
  unfold Runtime.invoke
  dsimp only
  cases checked : unauthorized manifest call.toolName with
  | some message =>
      have forbidden : ¬ Permitted manifest call.toolName := by
        rw [← unauthorized_eq_none, checked]
        exact nofun
      apply tracked.ask
      rw [permittedRequests_of_forbidden forbidden]
      exact nofun
  | none =>
      have requests : permittedRequests request manifest [call] =
          (requestOf manifest request.executionId call).toList :=
        permittedRequests_of_permitted (unauthorized_eq_none.mp checked)
      dsimp only
      cases made : requestOf manifest request.executionId call with
      | none =>
          apply tracked.ask
          rw [requests, made]
          exact nofun
      | some toolRequest =>
          rw [made, Option.toList_some] at requests
          dsimp only
          cases dump : modelDump engine.library toolRequest with
          | error exception =>
              apply tracked.ask
              rw [requests]
              intro other mem
              rw [List.mem_singleton.mp mem]
              unfold dumped
              rw [dump]
              rfl
          | ok dump' =>
              have known : dumped engine toolRequest = some dump' := by
                unfold dumped
                rw [dump]
                rfl
              dsimp only
              cases present : engine.executor with
              | none =>
                  constructor
                  · dsimp only
                    rw [permittedRequests_append, requests, List.filterMap_append, ← tracked.invoked]
                    simp [known]
                  · rw [present]
                    exact nofun
              | some execute =>
                  constructor
                  · dsimp only
                    rw [permittedRequests_append, requests, List.filterMap_append, ← tracked.invoked]
                    simp [known]
                  · intro some
                    dsimp only
                    rw [permittedRequests_append, requests, List.filter_append, ← tracked.executed some]
                    simp [known]

theorem Tracked.run (handler : Handler) (tracked : Tracked engine request manifest session) :
    Tracked engine request manifest (handler.run
      (Runtime.invoke engine.library engine.executor manifest request.executionId) session).1 := by
  induction handler generalizing session with
  | invoke call next ih => exact ih _ (tracked.invoke call)
  | returns output => exact tracked
  | returnsOther => exact tracked
  | raises exception => exact tracked
  | exits => exact tracked

theorem Tracked.logged_iff (tracked : Tracked engine request manifest session) :
    Logged engine request manifest session ↔
      ∀ toolRequest ∈ permittedRequests request manifest session.asked,
        (dumped engine toolRequest).isSome := by
  constructor
  · intro logged toolRequest mem
    have among : dumped engine toolRequest ∈ session.toolsInvoked.map some := by
      rw [logged.invoked]
      exact List.mem_map_of_mem mem
    obtain ⟨dump, _, known⟩ := List.mem_map.mp among
    rw [← known]
    rfl
  · intro dumps
    constructor
    · rw [tracked.invoked, List.map_filterMap]
      rw [← List.filterMap_eq_map]
      apply List.filterMap_congr
      intro toolRequest mem
      obtain ⟨dump, known⟩ := Option.isSome_iff_exists.mp (dumps toolRequest mem)
      simp [known]
    · intro present
      exact (tracked.executed present).trans (List.filter_eq_self.mpr dumps)

/-! ### Records -/

theorem toolsInvoked_failureRecord {code message : String} {toolsInvoked : List ToolRequest}
    {failures : List String} {output : Option PyDict} {record : ExecutionRecord}
    (made : failureRecord request manifest info code message toolsInvoked failures output =
      some record) : record.toolsInvoked = toolsInvoked := by
  unfold failureRecord at made
  simp only [Option.bind_eq_bind, Option.bind_eq_some_iff, Option.pure_def, Option.some.injEq] at made
  obtain ⟨_, _, rfl⟩ := made
  rfl

theorem toolsInvoked_successRecord {toolsInvoked : List ToolRequest} {output : PyDict}
    {record : ExecutionRecord}
    (made : successRecord request manifest info toolsInvoked output = some record) :
    record.toolsInvoked = toolsInvoked := by
  unfold successRecord at made
  simp only [Option.bind_eq_bind, Option.bind_eq_some_iff, Option.pure_def, Option.some.injEq] at made
  obtain ⟨_, _, rfl⟩ := made
  rfl

theorem isSome_failureRecord (code message : String) (toolsInvoked : List ToolRequest)
    (failures : List String) (output : Option PyDict) :
    (failureRecord request manifest info code message toolsInvoked failures output).isSome =
      (outputField output).isSome := by
  unfold failureRecord
  cases outputField output with
  | none => rfl
  | some output => rfl

theorem isSome_successRecord (toolsInvoked : List ToolRequest) (output : PyDict) :
    (successRecord request manifest info toolsInvoked output).isSome = (textKeyed output).isSome := by
  unfold successRecord
  cases textKeyed output with
  | none => rfl
  | some output => rfl

theorem isSome_outputField (output : PyDict) :
    (outputField (some output)).isSome = (textKeyed output).isSome :=
  Option.isSome_map

theorem not_recorded_error {escape : Escape} :
    ¬ Recorded sink ⟨.error escape, sink, session⟩ := by
  intro recorded
  obtain ⟨record, answered, _⟩ := recorded
  cases answered

theorem recorded_emit (accepts : ∀ record, engine.refuses record = none)
    {record : Option ExecutionRecord}
    (tools : ∀ own, record = some own → own.toolsInvoked = session.toolsInvoked) :
    Recorded sink (engine.emit sink session record) ↔ record.isSome := by
  cases record with
  | none => exact iff_of_false not_recorded_error nofun
  | some record =>
      unfold ExecutionEngine.emit
      dsimp only
      rw [accepts record]
      exact iff_of_true ⟨record, rfl, rfl, tools record rfl⟩ rfl

theorem recorded_failure (accepts : ∀ record, engine.refuses record = none) (code message : String)
    (failures : List String) (output : Option PyDict) :
    Recorded sink (engine.emit sink session
      (failureRecord request manifest info code message session.toolsInvoked failures output)) ↔
      (outputField output).isSome := by
  rw [recorded_emit accepts fun _ made => toolsInvoked_failureRecord made, isSome_failureRecord]

theorem recorded_success (accepts : ∀ record, engine.refuses record = none) (output : PyDict) :
    Recorded sink (engine.emit sink session
      (successRecord request manifest info session.toolsInvoked output)) ↔
      (textKeyed output).isSome := by
  rw [recorded_emit accepts fun _ made => toolsInvoked_successRecord made, isSome_successRecord]

theorem recorded_afterHandler (accepts : ∀ record, engine.refuses record = none)
    (ending : HandlerEnd) :
    Recorded sink (engine.afterHandler sink request manifest info session ending) ↔
      ending.Decent engine manifest := by
  unfold ExecutionEngine.afterHandler
  cases ending with
  | exited => exact iff_of_false not_recorded_error fun decent => decent.stays rfl
  | raised exception =>
      dsimp only
      have decent : (HandlerEnd.raised exception).Decent engine manifest ↔ exception.text.isSome :=
        ⟨fun decent => decent.speaks exception rfl,
          fun spoken => ⟨nofun, fun _ same => HandlerEnd.raised.inj same ▸ spoken, nofun⟩⟩
      rw [decent]
      cases exception.text with
      | none => exact iff_of_false not_recorded_error nofun
      | some text => exact iff_of_true ((recorded_failure accepts _ _ _ none).mpr rfl) rfl
  | returnedOther =>
      exact iff_of_true ((recorded_failure accepts _ _ _ none).mpr rfl) ⟨nofun, nofun, nofun⟩
  | returned output =>
      dsimp only
      have decent : (HandlerEnd.returned output).Decent engine manifest ↔
          (∀ exception, engine.library.validate manifest.outputSchema output ≠ .raises exception) ∧
          (textKeyed output).isSome :=
        ⟨fun decent => decent.answers output rfl,
          fun answers => ⟨nofun, nofun, fun _ same => HandlerEnd.returned.inj same ▸ answers⟩⟩
      rw [decent]
      cases engine.library.validate manifest.outputSchema output with
      | raises exception => exact iff_of_false not_recorded_error fun answers => answers.1 exception rfl
      | invalid message =>
          dsimp only
          rw [recorded_failure accepts, isSome_outputField]
          exact (and_iff_right fun _ => nofun).symm
      | valid =>
          dsimp only
          rw [recorded_success accepts]
          exact (and_iff_right fun _ => nofun).symm

theorem session_emit (record : Option ExecutionRecord) :
    (engine.emit sink session record).session = session := by
  unfold ExecutionEngine.emit
  split
  · rfl
  · split <;> rfl

theorem session_afterHandler (ending : HandlerEnd) :
    (engine.afterHandler sink request manifest info session ending).session = session := by
  unfold ExecutionEngine.afterHandler
  split
  · rfl
  · split
    · rfl
    · exact session_emit _
  · exact session_emit _
  · split
    · rfl
    · exact session_emit _
    · exact session_emit _

theorem audited_failure (accepts : ∀ record, engine.refuses record = none) (world : ω)
    (code message : String) :
    Audited engine request manifest sink (engine.emit sink { world }
      (failureRecord request manifest info code message [] [] none)) := by
  constructor
  · rw [session_emit]
    exact ⟨rfl, fun _ => rfl⟩
  · exact (recorded_failure accepts code message [] none).mpr rfl

theorem not_audited_error {escape : Escape} :
    ¬ Audited engine request manifest sink ⟨.error escape, sink, session⟩ :=
  fun audited => not_recorded_error audited.2

theorem audited_afterHandler (accepts : ∀ record, engine.refuses record = none)
    (tracked : Tracked engine request manifest session) (ending : HandlerEnd) :
    Audited engine request manifest sink
        (engine.afterHandler sink request manifest info session ending) ↔
      (∀ toolRequest ∈ permittedRequests request manifest session.asked,
        (dumped engine toolRequest).isSome) ∧ ending.Decent engine manifest := by
  unfold Audited
  rw [session_afterHandler, tracked.logged_iff, recorded_afterHandler accepts]

theorem orderly_of_unhandled {handler : Option SkillHandler}
    (unhandled : ∀ own, ¬ Handles engine request manifest handler own)
    (input : Matches request manifest → ∀ exception,
      engine.library.validate manifest.inputSchema (pyDict request.inputPayload) ≠
        .raises exception) :
    Orderly engine request manifest handler world where
  input := input
  requests own handles := absurd handles (unhandled own)
  ending own handles := absurd handles (unhandled own)

theorem orderly_iff_of_handles {own : SkillHandler}
    (handles : Handles engine request manifest (some own) own) :
    Orderly engine request manifest (some own) world ↔
      (∀ toolRequest ∈ permittedRequests request manifest
        (engine.handle request manifest own world).1.asked, (dumped engine toolRequest).isSome) ∧
      (engine.handle request manifest own world).2.Decent engine manifest := by
  constructor
  · exact fun orderly => ⟨orderly.requests own handles, orderly.ending own handles⟩
  · intro does
    constructor
    · intro _ exception
      rw [handles.2.1]
      exact nofun
    · intro other others
      rw [← Option.some.inj others.2.2]
      exact does.1
    · intro other others
      rw [← Option.some.inj others.2.2]
      exact does.2

end

/-- An invocation is audited if it is orderly. -/
theorem execution_audited_iff {ω : Type} (engine : ExecutionEngine ω)
    (accepts : ∀ record, engine.refuses record = none) (sink : List ExecutionRecord)
    (request : ExecutionRequest) (manifest : SkillManifest) (info : ExecutionInfo)
    (handler : Option SkillHandler) (world : ω) :
    Audited engine request manifest sink
        (engine.executeSkill sink request manifest info handler world) ↔
      Orderly engine request manifest handler world := by
  unfold ExecutionEngine.executeSkill
  dsimp only
  split
  · next other =>
      have apart : ¬ Matches request manifest := by
        intro same
        exact other.elim (absurd same.1) (absurd same.2)
      apply iff_of_true (audited_failure accepts world _ _)
      exact orderly_of_unhandled (fun own handles => apart handles.1) fun same => absurd same apart
  · next same =>
      push Not at same
      cases checked : engine.library.validate manifest.inputSchema (pyDict request.inputPayload) with
      | raises exception =>
          apply iff_of_false not_audited_error
          exact fun orderly => orderly.input same exception checked
      | invalid message =>
          apply iff_of_true (audited_failure accepts world _ _)
          apply orderly_of_unhandled
          · intro own handles
            rw [handles.2.1] at checked
            cases checked
          · intro _ exception
            rw [checked]
            exact nofun
      | valid =>
          cases handler with
          | none =>
              apply iff_of_true (audited_failure accepts world _ _)
              apply orderly_of_unhandled
              · exact fun own handles => nomatch handles.2.2
              · intro _ exception
                rw [checked]
                exact nofun
          | some own =>
              have tracked : Tracked engine request manifest
                  (engine.handle request manifest own world).1 := (tracked_start world).run _
              dsimp only
              rw [audited_afterHandler accepts tracked, orderly_iff_of_handles ⟨same, checked, rfl⟩]

/-! A skill that looks something up, and then asks for a tool that is denied. -/

/-- The check of an object, for a schema that is empty or has only a type, which is `object` or none that
there is. -/
def checkType (schema : State) : SchemaAnswer :=
  match Dict.get? schema "type" with
  | none => .valid
  | some (.str "object") => .valid
  -- The first line of its text.
  | some type =>
      .raises ⟨"UnknownType", some ("Unknown type " ++ type.repr ++ " for validator with schema:")⟩

def countingEngine : ExecutionEngine Nat where
  library := {
    validate := fun schema _ => checkType schema
    invalidCall := fun _ => ⟨"ValidationError", some "1 validation error for ToolRequest"⟩
    jsonMode := .ok }
  executor := some fun _ calls => (calls + 1, .returned (.dict []))
  refuses _ := none

def lookupManifest (outputSchema : State) : SkillManifest where
  skillId := "lookup"
  version := "1.0.0"
  triggers := [{ phrases := ["look up"] }]
  allowedTools := ["search", "delete"]
  deniedTools := ["delete"]
  outputSchema

def lookupRequest : ExecutionRequest where
  executionId := "exec-1"
  taskId := "task-1"
  skillId := "lookup"
  version := "1.0.0"
  inputPayload := [("query", .str "rates")]

def lookupInfo : ExecutionInfo where
  startTime := "2025-03-24T12:00:00Z"
  endTime := "2025-03-24T12:00:01Z"
  triggerReason := "test"

def lookup (ending : Handler) : SkillHandler := fun _ _ =>
  .invoke { toolName := "search", purpose := "rates", arguments := [(.str "query", .str "rates")] }
    fun _ => .invoke { toolName := "delete", purpose := "tidy up", arguments := [] } fun _ => ending

/-- It is audited when it fails. -/
theorem lookup_failure_audited :
    Audited countingEngine lookupRequest (lookupManifest []) []
      (countingEngine.executeSkill [] lookupRequest (lookupManifest []) lookupInfo
        (some (lookup (.raises ⟨"ValueError", some "no rates"⟩))) 0) := by
  apply (execution_audited_iff countingEngine (fun _ => rfl) [] lookupRequest (lookupManifest [])
    lookupInfo (some (lookup (.raises ⟨"ValueError", some "no rates"⟩))) 0).mpr
  apply (orderly_iff_of_handles ⟨⟨rfl, rfl⟩, rfl, rfl⟩).mpr
  constructor
  · intro toolRequest _
    rfl
  · exact ⟨nofun, fun exception raised => HandlerEnd.raised.inj raised ▸ rfl, nofun⟩

/-- The tool has been used, but the schema of the output has a type that there is not. -/
theorem lookup_unaudited :
    (∀ record, countingEngine.refuses record = none) ∧
      (countingEngine.executeSkill [] lookupRequest (lookupManifest [("type", .str "dictionary")])
        lookupInfo (some (lookup (.returns []))) 0).session.world = 1 ∧
      (countingEngine.executeSkill [] lookupRequest (lookupManifest [("type", .str "dictionary")])
        lookupInfo (some (lookup (.returns []))) 0).sink = [] ∧
      ¬ Audited countingEngine lookupRequest (lookupManifest [("type", .str "dictionary")]) []
        (countingEngine.executeSkill [] lookupRequest
          (lookupManifest [("type", .str "dictionary")]) lookupInfo
          (some (lookup (.returns []))) 0) := by
  refine ⟨fun _ => rfl, by decide +kernel, ?_, ?_⟩
  · rfl
  · intro audited
    obtain ⟨_, record, answered, _⟩ := audited
    cases answered

end SyndicateClaw.Runtime
