import SyndicateClaw.Orchestrator.HandlerMarkers

/-! Messages to agents and their responses.

`agent_send` sends one message and then returns or waits. While a run waits, a
background task looks for the response and edits the stored run. -/

namespace SyndicateClaw.Orchestrator

open HandlerM

/-! ### The message of `agent_send` -/

def Effect.isMessage : Effect → Bool
  | .messageSent .. => true
  | _ => false

/-- How often `message_service.send` was called. -/
def messagesSent (effects : List Effect) : Nat := effects.countP Effect.isMessage

/-- The handler's part leaves the effects alone and raises nothing but failures. -/
def HandlerM.Silent {α : Type} (m : HandlerM α) : Prop :=
  ∀ frame, (m.run frame).2.effects = frame.effects ∧
    ∀ exit, (m.run frame).1 = .error exit → ∃ message, exit = .failed message

def HandlerM.Adds {α : Type} (m : HandlerM α) (Q : Except HandlerExit α → List Effect → Prop) :
    Prop :=
  ∀ frame, ∃ added, (m.run frame).2.effects = frame.effects ++ added ∧ Q (m.run frame).1 added

section rules

variable {α β : Type} {Q : Except HandlerExit β → List Effect → Prop}

theorem silent_pure (a : α) : Silent (pure a : HandlerM α) := fun _ => ⟨rfl, nofun⟩

theorem silent_fail (message : String) : Silent (fail message : HandlerM α) := by
  intro frame
  refine ⟨rfl, fun exit failed => ⟨message, ?_⟩⟩
  exact (Except.error.inj failed).symm

theorem silent_take : Silent take := fun _ => ⟨rfl, nofun⟩

theorem silent_getState : Silent getState := fun _ => ⟨rfl, nofun⟩

theorem silent_put (key : String) (value : Value) : Silent (put key value) :=
  fun _ => ⟨rfl, nofun⟩

theorem silent_ofExcept (answer : Except String α) : Silent (ofExcept answer) := by
  cases answer with
  | ok a => exact silent_pure a
  | error message => exact silent_fail message

theorem silent_bind {m : HandlerM α} {f : α → HandlerM β} (first : Silent m)
    (second : ∀ a, Silent (f a)) : Silent (m >>= f) := by
  intro frame
  obtain ⟨same, failed⟩ := first frame
  rw [bind_run_eq]
  rcases left : m.run frame with ⟨exit | a, frame'⟩
  · rw [left] at same failed
    refine ⟨same, fun exit' raised => ?_⟩
    rw [← Except.error.inj raised]
    exact failed exit rfl
  · rw [left] at same
    obtain ⟨same', failed'⟩ := second a frame'
    exact ⟨same'.trans same, failed'⟩

theorem adds_bind {m : HandlerM α} {f : α → HandlerM β} (silent : Silent m)
    (error : ∀ message, Q (.error (.failed message)) []) (rest : ∀ a, Adds (f a) Q) :
    Adds (m >>= f) Q := by
  intro frame
  obtain ⟨same, failed⟩ := silent frame
  rw [bind_run_eq]
  rcases left : m.run frame with ⟨exit | a, frame'⟩
  · rw [left] at same failed
    obtain ⟨message, rfl⟩ := failed exit rfl
    exact ⟨[], by rw [same, List.append_nil], error message⟩
  · rw [left] at same
    obtain ⟨added, effects, ends⟩ := rest a frame'
    exact ⟨added, by rw [effects, same], ends⟩

theorem adds_emit {effect : Effect} {f : Unit → HandlerM β}
    (rest : Adds (f ()) fun outcome added => Q outcome (effect :: added)) :
    Adds (emit effect >>= f) Q := by
  intro frame
  obtain ⟨added, effects, ends⟩ := rest { frame with effects := frame.effects ++ [effect] }
  refine ⟨effect :: added, ?_, ends⟩
  rw [bind_run_eq]
  show ((f ()).run _).2.effects = _
  rw [effects, List.append_assoc]
  rfl

theorem adds_throw {exit : HandlerExit} (ends : Q (.error exit) []) :
    Adds (throw exit : HandlerM β) Q :=
  fun _ => ⟨[], (List.append_nil _).symm, ends⟩

end rules

section sends

variable (services : Services) (call : Nat) (context : ExecutionContext)

theorem silent_handlerNow : Silent (handlerNow services call) :=
  silent_bind silent_take fun _ => silent_pure _

theorem silent_handlerUlid : Silent (handlerUlid services call) :=
  silent_bind silent_take fun _ => silent_pure _

theorem silent_renderMessageTemplate (template : String) (bindings : State) :
    Silent (renderMessageTemplate services call template bindings) := by
  refine silent_bind silent_take fun k => ?_
  refine silent_bind silent_getState fun state => ?_
  refine silent_bind (fun _ => ⟨rfl, nofun⟩) fun _ => ?_
  exact silent_ofExcept _

mutual

theorem silent_renderTemplate (bindings : State) :
    ∀ value, Silent (renderTemplate services call bindings value)
  | .str template => silent_bind (silent_renderMessageTemplate services call template bindings)
      fun _ => silent_pure _
  | .list items => silent_bind (silent_renderTemplateList bindings items) fun _ => silent_pure _
  | .dict entries => silent_bind (silent_renderTemplateEntries bindings entries)
      fun _ => silent_pure _
  | .none | .bool _ | .int _ | .float _ _ | .object _ => silent_pure _

theorem silent_renderTemplateList (bindings : State) :
    ∀ items, Silent (renderTemplateList services call bindings items)
  | [] => silent_pure _
  | item :: items => silent_bind (silent_renderTemplate bindings item) fun _ =>
      silent_bind (silent_renderTemplateList bindings items) fun _ => silent_pure _

theorem silent_renderTemplateEntries (bindings : State) :
    ∀ entries, Silent (renderTemplateEntries services call bindings entries)
  | [] => silent_pure _
  | (_, value) :: entries => silent_bind (silent_renderTemplate bindings value) fun _ =>
      silent_bind (silent_renderTemplateEntries bindings entries) fun _ => silent_pure _

end

theorem silent_agentRoute (recipient messageType : String) :
    Silent (agentRoute context recipient messageType) := by
  unfold agentRoute
  split
  · exact silent_pure _
  dsimp only
  split
  · exact silent_pure _
  split
  · exact silent_pure _
  · exact silent_fail _

/-- A node that waits for a response ends by waiting, with one message sent, or it fails,
with at most one. -/
def AwaitsOrFails {α : Type} (outcome : Except HandlerExit α) (added : List Effect) : Prop :=
  outcome = .error .waitForAgentResponse ∧ messagesSent added = 1 ∨
    (∃ message, outcome = .error (.failed message)) ∧ messagesSent added ≤ 1

theorem adds_agentSendHandler (waits : configuredBool context.config "wait_for_response" = true) :
    Adds (agentSendHandler services call context) AwaitsOrFails := by
  have early : ∀ message,
      AwaitsOrFails (@Except.error HandlerExit NodeResult (.failed message)) [] :=
    fun message => .inr ⟨⟨message, rfl⟩, Nat.zero_le 1⟩
  unfold agentSendHandler
  split
  · exact adds_throw (early _)
  refine adds_bind silent_getState early fun state => ?_
  split
  · exact adds_bind silent_take early fun _ => adds_throw (early _)
  refine adds_bind (silent_agentRoute context _ _) early fun route => ?_
  obtain ⟨messageType, topic⟩ := route
  dsimp only
  split
  · exact adds_throw (early _)
  refine adds_bind (silent_renderTemplate services call _ _) early fun content => ?_
  refine adds_bind (silent_handlerUlid services call) early fun conversationId => ?_
  refine adds_emit ?_
  -- The message is out: whatever raises now raises after one call of the service.
  have late : ∀ recipient topic messageType content conversationId message,
      AwaitsOrFails (@Except.error HandlerExit NodeResult (.failed message))
        [.messageSent recipient topic messageType content conversationId] :=
    fun _ _ _ _ _ message => .inr ⟨⟨message, rfl⟩, Nat.le_refl 1⟩
  refine adds_bind silent_take (late _ _ _ _ _) fun k => ?_
  refine adds_bind (silent_ofExcept _) (late _ _ _ _ _) fun sent => ?_
  split
  · exact adds_throw (late _ _ _ _ _ _)
  rw [if_pos waits]
  refine adds_bind (silent_handlerNow services call) (late _ _ _ _ _) fun now => ?_
  refine adds_bind (silent_put _ _) (late _ _ _ _ _) fun _ => ?_
  exact adds_throw (.inl ⟨rfl, rfl⟩)

theorem agentSend_outcome (state : State)
    (waits : configuredBool context.config "wait_for_response" = true) :
    let outcome := toHandler (agentSendHandler services) call state context
    outcome.exit = .waitForAgentResponse ∧ messagesSent outcome.effects = 1 ∨
      (∃ message, outcome.exit = .failed message) ∧ messagesSent outcome.effects ≤ 1 := by
  obtain ⟨added, effects, ends⟩ := adds_agentSendHandler services call context waits { state }
  rw [List.nil_append] at effects
  unfold toHandler
  rcases ran : (agentSendHandler services call context).run { state } with ⟨exit | result, frame⟩
  · rw [ran] at effects ends
    dsimp only at effects ⊢
    rw [effects]
    rcases ends with ⟨waited, one⟩ | ⟨⟨message, failed⟩, one⟩
    · exact .inl ⟨Except.error.inj waited, one⟩
    · exact .inr ⟨⟨message, Except.error.inj failed⟩, one⟩
  · rw [ran] at ends
    rcases ends with ⟨returned, -⟩ | ⟨⟨message, returned⟩, -⟩ <;> cases returned

end sends

/-! ### `resume_waiting_runs_once` -/

structure AgentResponse where
  id : String
  conversationId : String
  content : Value

/-- `_parse_requested_at`, for a text `isoformat` writes. -/
def parseRequestedAt (value : String) : Option Instant :=
  Instant.ofIsoformat? (value.replace "Z" "+00:00")

/-- What the loop body makes of one waiting run: the row as the session then holds it and
the response marked as consumed. -/
def resumeWaitingRow (responses : List AgentResponse) (now : Instant) (row : WorkflowRunRow) :
    Except String (WorkflowRunRow × Option String) :=
  match (configured row.state "_waiting_agent_response" (.dict [])).asDict? with
  | none => .ok (row, none)
  | some waitCtx =>
      let conversationId := configuredStr waitCtx "conversation_id" ""
      if conversationId = "" then .ok (row, none)
      else
        match (configured waitCtx "timeout_seconds" (.int 300)).int? with
        | none => .error "invalid literal for int()"
        | some timeoutSeconds =>
            let requestedAt := parseRequestedAt (configuredStr waitCtx "requested_at" "")
            -- `by_conversation` keeps the last response of a conversation.
            match responses.reverse.find? (·.conversationId = conversationId), requestedAt with
            | some matched, _ =>
                let responseKey := configuredStr waitCtx "response_key" "agent_response"
                .ok ({ row with
                  status := .running
                  state := Dict.pop (Dict.set row.state responseKey matched.content)
                    "_waiting_agent_response" }, some matched.id)
            | none, none => .ok (row, none)
            | none, some requestedAt =>
                if (requestedAt : Int) + timeoutSeconds * 1000000 ≤ now then
                  .ok ({ row with
                    status := .failed
                    error := some "WAITING_AGENT_RESPONSE_TIMEOUT"
                    state := Dict.pop row.state "_waiting_agent_response" }, none)
                else .ok (row, none)

/-- What the session writes back. The state is edited in place, which reaches the row only
where the column tracks its mutations. -/
def flushed (tracked : Bool) (row edited : WorkflowRunRow) : WorkflowRunRow :=
  { edited with state := if tracked then edited.state else row.state }

/-- One pass over the rows the query finds, with the responses consumed by its end. -/
def resumeWaitingRuns (tracked : Bool) (responses : List AgentResponse) (now : Instant) :
    List String → Database → List String → List String × Except String Database
  | [], db, consumed => (consumed, .ok db)
  | id :: ids, db, consumed =>
      match (db.runs id).filter (·.status = .waitingAgentResponse) with
      | none => resumeWaitingRuns tracked responses now ids db consumed
      | some row =>
          match resumeWaitingRow responses now row with
          | .error e => (consumed, .error e)
          | .ok (edited, response) =>
              resumeWaitingRuns tracked responses now ids
                (db.setRun id (flushed tracked row edited)) (consumed ++ response.toList)

/-- The world after a pass; one that raises is rolled back. -/
def World.resumeWaitingRuns (w : World) (tracked : Bool) (responses : List AgentResponse)
    (waiting : List String) : World :=
  match (Orchestrator.resumeWaitingRuns tracked responses w.now waiting w.db []).2 with
  | .ok db => { w with db }
  | .error _ => w

theorem resumeWaitingRow_id {responses : List AgentResponse} {now : Instant}
    {row edited : WorkflowRunRow} {consumed : Option String}
    (done : resumeWaitingRow responses now row = .ok (edited, consumed)) : edited.id = row.id := by
  unfold resumeWaitingRow at done
  split at done
  · cases done
    rfl
  dsimp only at done
  split at done
  · cases done
    rfl
  split at done
  · cases done
  split at done
  · cases done
    rfl
  · cases done
    rfl
  · split at done <;> cases done <;> rfl

theorem resumeWaitingRuns_ids {tracked : Bool} {responses : List AgentResponse} {now : Instant}
    {ids consumed : List String} {db db' : Database} {runId : String}
    (done : (resumeWaitingRuns tracked responses now ids db consumed).2 = .ok db')
    (rows : ∀ key row, db.runs key = some row → row.id = runId) :
    ∀ key row, db'.runs key = some row → row.id = runId := by
  induction ids generalizing db consumed with
  | nil =>
      obtain rfl := Except.ok.inj done
      exact rows
  | cons id ids ih =>
      rw [resumeWaitingRuns] at done
      split at done
      · exact ih done rows
      · next row found =>
          split at done
          · cases done
          · next edited response edits =>
              refine ih done ?_
              intro key row' stored
              obtain ⟨present, -⟩ := Option.filter_eq_some_iff.mp found
              by_cases same : key = id
              · subst same
                simp only [Database.setRun, Function.update_self, Option.some.injEq] at stored
                rw [← stored]
                exact (resumeWaitingRow_id edits).trans (rows key row present)
              · simp only [Database.setRun, Function.update_of_ne same] at stored
                exact rows key row' stored

end SyndicateClaw.Orchestrator
