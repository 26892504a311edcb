import SyndicateClaw.Services.Replies

/-! `resume_waiting_runs_once`: responses are marked in transactions of their own while the
transaction of the runs is open. -/

namespace SyndicateClaw.Services

open Authz (Time)
open Orchestrator (AgentResponse State Value WorkflowRunRow configured configuredStr flushed
  resumeWaitingRow resumeWaitingRow_id)

structure ResumeStore where
  runs : Keyed WorkflowRunRow.id
  messages : Keyed AgentMessage.id

def ResumeStore.waiting (store : ResumeStore) : List WorkflowRunRow :=
  store.runs.rows.filter fun run => run.status = .waitingAgentResponse

inductive Ending where
  | passes
  | fails
  -- It is committed, and the caller is told that it was not.
  | lost
  deriving DecidableEq

structure ResumePass where
  polledAt : Time
  now : Instant
  -- Both queries are answered.
  reads : Bool
  markedAt : Nat → Time
  marks : Nat → Ending
  commit : Ending

def AgentMessage.response (message : AgentMessage) : AgentResponse where
  id := message.id
  conversationId := message.conversationId
  content := message.content

def AgentMessage.consumedAt (now : Time) (message : AgentMessage) : AgentMessage :=
  { message with status := .acked, ackedAt := some now }

theorem id_consumedAt (now : Time) (message : AgentMessage) :
    (message.consumedAt now).id = message.id := rfl

/-- `mark_response_consumed` -/
def markResponseConsumed (messageId : String) (now : Time) (messages : Keyed AgentMessage.id) :
    Keyed AgentMessage.id :=
  messages.changeAt messageId (AgentMessage.consumedAt now) (id_consumedAt now)

section

variable (pass : ResumePass) (responses : List AgentMessage)

/-- The loop over the waiting runs: whether it comes to its end, and the messages as committed. The
number counts the responses marked before. -/
def resumeRows : Nat → List WorkflowRunRow → Keyed AgentMessage.id →
    Except String Unit × Keyed AgentMessage.id
  | _, [], messages => (.ok (), messages)
  | k, run :: rest, messages =>
      match resumeWaitingRow (responses.map AgentMessage.response) pass.now run with
      | .error error => (.error error, messages)
      | .ok (_, none) => resumeRows k rest messages
      | .ok (_, some messageId) =>
          match pass.marks k with
          | .passes =>
              resumeRows (k + 1) rest (markResponseConsumed messageId (pass.markedAt k) messages)
          | .fails => (.error "transaction rolled back", messages)
          | .lost =>
              (.error "connection lost",
                markResponseConsumed messageId (pass.markedAt k) messages)

def writtenRun (run : WorkflowRunRow) : WorkflowRunRow :=
  if run.status = .waitingAgentResponse then
    match resumeWaitingRow (responses.map AgentMessage.response) pass.now run with
    | .error _ => run
    | .ok (edited, _) => flushed false run edited
  else run

theorem id_writtenRun (run : WorkflowRunRow) : (writtenRun pass responses run).id = run.id := by
  unfold writtenRun
  split
  · split
    · rfl
    · next edited _ edits =>
        have same : edited.id = run.id := resumeWaitingRow_id edits
        exact same
  · rfl

/-- `resume_waiting_runs_once` -/
def resumeWaitingRunsOnce (store : ResumeStore) : ResumeStore :=
  if pass.reads then
    let responses := deliveredResponses pass.polledAt 200 store.messages.rows
    match resumeRows pass responses 0 store.waiting store.messages with
    | (.error _, messages) => { store with messages }
    | (.ok (), messages) =>
        if pass.commit = .fails then { store with messages }
        else { runs := store.runs.change (writtenRun pass responses) (id_writtenRun pass responses)
               messages }
  else store

end

/-! ### What the property says -/

/-- `run.state.get("_waiting_agent_response", {})`, if it is a dict. -/
def waitContext (run : WorkflowRunRow) : Option State :=
  (configured run.state "_waiting_agent_response" (.dict [])).asDict?

def AwaitsUnder (run : WorkflowRunRow) (conversationId key : String) : Prop :=
  ∃ waitCtx, waitContext run = some waitCtx ∧
    configuredStr waitCtx "conversation_id" "" = conversationId ∧
    configuredStr waitCtx "response_key" "agent_response" = key

def Acked (messages : Keyed AgentMessage.id) (messageId : String) : Prop :=
  ∃ row, messages.get? messageId = some row ∧ row.status = .acked

/-- The run is stored as `RUNNING`, with the content under the key. -/
def StoredIn (runs : Keyed WorkflowRunRow.id) (runId key : String) (content : Value) : Prop :=
  ∃ row, runs.get? runId = some row ∧ row.status = .running ∧ Dict.get? row.state key = some content

structure NoResponseLost (responses : List AgentMessage) (before after : ResumeStore) : Prop where
  stored : ∀ message ∈ responses, Acked after.messages message.id ↔
    ∃ run ∈ before.waiting, ∃ key, AwaitsUnder run message.conversationId key ∧
      StoredIn after.runs run.id key message.content
  -- A run that has gone on took one of the responses.
  one : ∀ run ∈ before.waiting, ∀ message ∈ responses, WaitsOn run message.conversationId →
    (∃ row, after.runs.get? run.id = some row ∧ row.status = .running) →
    ∃ taken ∈ responses, taken.conversationId = message.conversationId ∧
      Acked after.messages taken.id
  atMostOne : ∀ message ∈ responses, ∀ other ∈ responses,
    message.conversationId = other.conversationId → Acked after.messages message.id →
    Acked after.messages other.id → message = other

/-! ### The condition -/

def matchedResponse (responses : List AgentMessage) (run : WorkflowRunRow) : Option AgentMessage :=
  match waitContext run with
  | none => none
  | some waitCtx =>
      if configuredStr waitCtx "conversation_id" "" = "" then none
      else responses.reverse.find? fun message =>
        message.conversationId = configuredStr waitCtx "conversation_id" ""

/-- `int(wait_ctx.get("timeout_seconds", 300))` does not raise, where it is reached. -/
def Readable (run : WorkflowRunRow) : Prop :=
  ∀ waitCtx, waitContext run = some waitCtx → configuredStr waitCtx "conversation_id" "" ≠ "" →
    (configured waitCtx "timeout_seconds" (.int 300)).int?.isSome = true

/-- The first run that has a response is reached, and its response is marked. -/
def MarksFirst (pass : ResumePass) (responses : List AgentMessage) : List WorkflowRunRow → Prop
  | [] => False
  | run :: rest =>
      Readable run ∧
        match matchedResponse responses run with
        | none => MarksFirst pass responses rest
        | some _ => pass.marks 0 ≠ .fails

structure PassCompletes (pass : ResumePass) (responses : List AgentMessage)
    (runs : List WorkflowRunRow) : Prop where
  readable : ∀ run ∈ runs, Readable run
  marks : ∀ k < (runs.filterMap (matchedResponse responses)).length, pass.marks k = .passes
  commit : pass.commit ≠ .fails

/-- What the pass would lose is there already: each response that is matched is in the state of a run
that waits for it, and no other response of its conversation is. -/
def AlreadyStored (responses : List AgentMessage) (runs : List WorkflowRunRow) : Prop :=
  ∀ run ∈ runs, ∀ message, matchedResponse responses run = some message →
    (∃ other ∈ runs, ∃ key, AwaitsUnder other message.conversationId key ∧
      Dict.get? other.state key = some message.content) ∧
    ∀ rival ∈ responses, rival.conversationId = message.conversationId → rival ≠ message →
      ∀ other ∈ runs, ∀ key, AwaitsUnder other rival.conversationId key →
        Dict.get? other.state key ≠ some rival.content

section

variable {pass : ResumePass} {responses : List AgentMessage} {run : WorkflowRunRow}

theorem find_response (conversationId : String) :
    (responses.map AgentMessage.response).reverse.find? (·.conversationId = conversationId) =
      (responses.reverse.find? fun message => message.conversationId = conversationId).map
        AgentMessage.response := by
  rw [← List.map_reverse, List.find?_map]
  rfl

theorem matched_of_awaits {conversationId key : String} (awaits : AwaitsUnder run conversationId key)
    (named : conversationId ≠ "") :
    matchedResponse responses run =
      responses.reverse.find? fun message => message.conversationId = conversationId := by
  obtain ⟨waitCtx, found, rfl, _⟩ := awaits
  unfold matchedResponse
  rw [found]
  exact if_neg named

theorem matched_awaits {message : AgentMessage} (matched : matchedResponse responses run = some message) :
    message ∈ responses ∧ message.conversationId ≠ "" ∧
      ∃ key, AwaitsUnder run message.conversationId key := by
  unfold matchedResponse at matched
  cases found : waitContext run with
  | none =>
      rw [found] at matched
      cases matched
  | some waitCtx =>
      rw [found] at matched
      dsimp only at matched
      split_ifs at matched with empty
      have same : message.conversationId = configuredStr waitCtx "conversation_id" "" := by
        simpa using List.find?_some matched
      refine ⟨List.mem_reverse.mp (List.mem_of_find?_eq_some matched), ?_, _, waitCtx, found,
        same.symm, rfl⟩
      rw [same]
      exact empty

theorem resumeWaitingRow_cases (pass : ResumePass) (responses : List AgentMessage)
    (waits : run.status = .waitingAgentResponse) :
    (¬ Readable run ∧ ∃ error,
      resumeWaitingRow (responses.map AgentMessage.response) pass.now run = .error error) ∨
    Readable run ∧ ∃ edited,
      resumeWaitingRow (responses.map AgentMessage.response) pass.now run =
        .ok (edited, (matchedResponse responses run).map AgentMessage.id) ∧
      (edited.status = .running ↔ (matchedResponse responses run).isSome = true) := by
  unfold resumeWaitingRow Readable matchedResponse
  cases found : waitContext run with
  | none =>
      have context : (configured run.state "_waiting_agent_response" (.dict [])).asDict? = none :=
        found
      rw [context]
      refine .inr ⟨nofun, run, rfl, ?_⟩
      rw [waits]
      simp
  | some waitCtx =>
      have context : (configured run.state "_waiting_agent_response" (.dict [])).asDict? =
          some waitCtx := found
      rw [context]
      dsimp only
      by_cases empty : configuredStr waitCtx "conversation_id" "" = ""
      · rw [if_pos empty, if_pos empty]
        refine .inr ⟨?_, run, rfl, ?_⟩
        · intro _ same named
          obtain rfl := Option.some.inj same
          exact absurd empty named
        · rw [waits]
          simp
      · rw [if_neg empty, if_neg empty, find_response]
        cases timeout : (configured waitCtx "timeout_seconds" (.int 300)).int? with
        | none =>
            refine .inl ⟨?_, _, rfl⟩
            intro readable
            have reads := readable waitCtx rfl empty
            rw [timeout] at reads
            cases reads
        | some seconds =>
            have readable : ∀ waitCtx', some waitCtx = some waitCtx' →
                configuredStr waitCtx' "conversation_id" "" ≠ "" →
                (configured waitCtx' "timeout_seconds" (.int 300)).int?.isSome = true := by
              intro _ same _
              obtain rfl := Option.some.inj same
              rw [timeout]
              rfl
            refine .inr ⟨readable, ?_⟩
            dsimp only
            cases responses.reverse.find? fun message =>
                message.conversationId = configuredStr waitCtx "conversation_id" "" with
            | some message => exact ⟨_, rfl, by simp⟩
            | none =>
                cases Orchestrator.parseRequestedAt (configuredStr waitCtx "requested_at" "") with
                | none => exact ⟨run, rfl, by simp [waits]⟩
                | some requestedAt =>
                    dsimp only [Option.map_none]
                    split
                    · exact ⟨_, rfl, by simp⟩
                    · exact ⟨run, rfl, by simp [waits]⟩

/-! ### The loop -/

variable {k : Nat} {runs : List WorkflowRunRow} {messages : Keyed AgentMessage.id}
  {messageId : String}

theorem acked_markResponseConsumed {other : String} {now : Time} :
    Acked (markResponseConsumed other now messages) messageId ↔
      Acked messages messageId ∨ messageId = other ∧ (messages.get? messageId).isSome = true := by
  unfold Acked markResponseConsumed
  rw [Keyed.get?_changeAt]
  by_cases own : messageId = other
  · rw [if_pos own]
    cases messages.get? messageId with
    | none => simp
    | some row => simp [own, AgentMessage.consumedAt]
  · simp [own]

theorem present_markResponseConsumed {other : String} {now : Time} :
    ((markResponseConsumed other now messages).get? messageId).isSome =
      (messages.get? messageId).isSome := by
  unfold markResponseConsumed
  rw [Keyed.get?_changeAt]
  split
  · exact Option.isSome_map
  · rfl

theorem resumeRows_cons (waits : run.status = .waitingAgentResponse) :
    (¬ Readable run ∧ ∃ error,
      resumeRows pass responses k (run :: runs) messages = (.error error, messages)) ∨
    (Readable run ∧ matchedResponse responses run = none ∧
      resumeRows pass responses k (run :: runs) messages =
        resumeRows pass responses k runs messages) ∨
    ∃ message, Readable run ∧ matchedResponse responses run = some message ∧
      ((pass.marks k = .passes ∧ resumeRows pass responses k (run :: runs) messages =
        resumeRows pass responses (k + 1) runs
          (markResponseConsumed message.id (pass.markedAt k) messages)) ∨
      (pass.marks k = .fails ∧ ∃ error,
        resumeRows pass responses k (run :: runs) messages = (.error error, messages)) ∨
      (pass.marks k = .lost ∧ ∃ error,
        resumeRows pass responses k (run :: runs) messages =
          (.error error, markResponseConsumed message.id (pass.markedAt k) messages))) := by
  rw [resumeRows]
  rcases resumeWaitingRow_cases pass responses waits with raises | reads
  · obtain ⟨unreadable, error, same⟩ := raises
    rw [same]
    exact .inl ⟨unreadable, error, rfl⟩
  · obtain ⟨readable, edited, same, _⟩ := reads
    rw [same]
    cases matched : matchedResponse responses run with
    | none => exact .inr (.inl ⟨readable, rfl, rfl⟩)
    | some message =>
        refine .inr (.inr ⟨message, readable, rfl, ?_⟩)
        dsimp only [Option.map_some]
        cases pass.marks k with
        | passes => exact .inl ⟨rfl, rfl⟩
        | fails => exact .inr (.inl ⟨rfl, _, rfl⟩)
        | lost => exact .inr (.inr ⟨rfl, _, rfl⟩)

theorem acked_source (waiting : ∀ run ∈ runs, run.status = .waitingAgentResponse)
    (acked : Acked (resumeRows pass responses k runs messages).2 messageId) :
    Acked messages messageId ∨ ∃ run ∈ runs, ∃ message,
      matchedResponse responses run = some message ∧ message.id = messageId := by
  induction runs generalizing k messages with
  | nil => exact .inl acked
  | cons run rest ih =>
      have own : ∀ message : AgentMessage, matchedResponse responses run = some message →
          Acked (markResponseConsumed message.id (pass.markedAt k) messages) messageId →
          Acked messages messageId ∨ ∃ other ∈ run :: rest, ∃ message,
            matchedResponse responses other = some message ∧ message.id = messageId := by
        intro message matched marked
        rcases acked_markResponseConsumed.mp marked with before | now
        · exact .inl before
        · exact .inr ⟨run, List.mem_cons_self, message, matched, now.1.symm⟩
      have later : (∃ other ∈ rest, ∃ message, matchedResponse responses other = some message ∧
          message.id = messageId) → ∃ other ∈ run :: rest, ∃ message,
            matchedResponse responses other = some message ∧ message.id = messageId := by
        intro found
        obtain ⟨other, member, matched⟩ := found
        exact ⟨other, List.mem_cons_of_mem run member, matched⟩
      have others := fun other member => waiting other (List.mem_cons_of_mem run member)
      rcases resumeRows_cons (waiting run List.mem_cons_self) with raises | skips | marks
      · obtain ⟨_, error, same⟩ := raises
        rw [same] at acked
        exact .inl acked
      · obtain ⟨_, _, same⟩ := skips
        rw [same] at acked
        exact (ih others acked).imp id later
      · obtain ⟨message, _, matched, ⟨_, same⟩ | ⟨_, error, same⟩ | ⟨_, error, same⟩⟩ := marks
        · rw [same] at acked
          rcases ih others acked with before | found
          · exact own message matched before
          · exact .inr (later found)
        · rw [same] at acked
          exact .inl acked
        · rw [same] at acked
          exact own message matched acked

theorem acked_kept (waiting : ∀ run ∈ runs, run.status = .waitingAgentResponse)
    (acked : Acked messages messageId) :
    Acked (resumeRows pass responses k runs messages).2 messageId := by
  induction runs generalizing k messages with
  | nil => exact acked
  | cons run rest ih =>
      have others := fun other member => waiting other (List.mem_cons_of_mem run member)
      rcases resumeRows_cons (waiting run List.mem_cons_self) with raises | skips | marks
      · obtain ⟨_, error, same⟩ := raises
        rwa [same]
      · obtain ⟨_, _, same⟩ := skips
        rw [same]
        exact ih others acked
      · obtain ⟨message, _, _, ⟨_, same⟩ | ⟨_, error, same⟩ | ⟨_, error, same⟩⟩ := marks
        · rw [same]
          exact ih others (acked_markResponseConsumed.mpr (.inl acked))
        · rwa [same]
        · rw [same]
          exact acked_markResponseConsumed.mpr (.inl acked)

theorem resumeRows_ok_iff (waiting : ∀ run ∈ runs, run.status = .waitingAgentResponse) :
    (resumeRows pass responses k runs messages).1 = .ok () ↔
      (∀ run ∈ runs, Readable run) ∧
        ∀ i < (runs.filterMap (matchedResponse responses)).length,
          pass.marks (k + i) = .passes := by
  induction runs generalizing k messages with
  | nil =>
      constructor
      · intro _
        constructor
        · intro run none
          cases none
        · intro i inside
          exact absurd inside (Nat.not_lt_zero i)
      · intro _
        rfl
  | cons run rest ih =>
      have others := fun other member => waiting other (List.mem_cons_of_mem run member)
      rw [List.forall_mem_cons, List.filterMap_cons]
      rcases resumeRows_cons (waiting run List.mem_cons_self) with raises | skips | marks
      · obtain ⟨unreadable, error, same⟩ := raises
        rw [same]
        constructor
        · intro ok
          cases ok
        · intro all
          exact absurd all.1.1 unreadable
      · obtain ⟨readable, unmatched, same⟩ := skips
        rw [same, unmatched, ih others]
        simp [readable]
      · obtain ⟨message, readable, matched, marks⟩ := marks
        rw [matched]
        dsimp only
        rw [List.length_cons]
        rcases marks with ⟨passes, same⟩ | ⟨fails, error, same⟩ | ⟨lost, error, same⟩
        · rw [same, ih others]
          constructor
          · intro all
            refine ⟨⟨readable, all.1⟩, ?_⟩
            intro i inside
            cases i with
            | zero => exact passes
            | succ i =>
                have next := all.2 i (Nat.lt_of_succ_lt_succ inside)
                rwa [Nat.add_right_comm] at next
          · intro all
            refine ⟨all.1.2, ?_⟩
            intro i inside
            have next := all.2 (i + 1) (Nat.succ_lt_succ inside)
            rwa [Nat.add_right_comm]
        · rw [same]
          constructor
          · intro ok
            cases ok
          · intro all
            have first := all.2 0 (Nat.zero_lt_succ _)
            rw [Nat.add_zero, fails] at first
            cases first
        · rw [same]
          constructor
          · intro ok
            cases ok
          · intro all
            have first := all.2 0 (Nat.zero_lt_succ _)
            rw [Nat.add_zero, lost] at first
            cases first

theorem acked_all (waiting : ∀ run ∈ runs, run.status = .waitingAgentResponse)
    (ok : (resumeRows pass responses k runs messages).1 = .ok ()) (member : run ∈ runs)
    {message : AgentMessage} (matched : matchedResponse responses run = some message)
    (present : (messages.get? message.id).isSome = true) :
    Acked (resumeRows pass responses k runs messages).2 message.id := by
  induction runs generalizing k messages with
  | nil => cases member
  | cons first rest ih =>
      have others := fun other member => waiting other (List.mem_cons_of_mem first member)
      rcases resumeRows_cons (waiting first List.mem_cons_self) with raises | skips | marks
      · obtain ⟨_, error, same⟩ := raises
        rw [same] at ok
        cases ok
      · obtain ⟨_, unmatched, same⟩ := skips
        rw [same] at ok ⊢
        rcases List.mem_cons.mp member with rfl | member
        · rw [unmatched] at matched
          cases matched
        · exact ih others ok member present
      · obtain ⟨taken, _, own, ⟨_, same⟩ | ⟨_, error, same⟩ | ⟨_, error, same⟩⟩ := marks
        · rw [same] at ok ⊢
          rcases List.mem_cons.mp member with rfl | member
          · obtain rfl := Option.some.inj (own.symm.trans matched)
            exact acked_kept others (acked_markResponseConsumed.mpr (.inr ⟨rfl, present⟩))
          · exact ih others ok member (present_markResponseConsumed.trans present)
        · rw [same] at ok
          cases ok
        · rw [same] at ok
          cases ok

/-- The first mark takes effect, or none does. -/
theorem first_mark (pass : ResumePass) (responses : List AgentMessage)
    (messages : Keyed AgentMessage.id)
    (waiting : ∀ run ∈ runs, run.status = .waitingAgentResponse) :
    (MarksFirst pass responses runs ∧ ∃ run ∈ runs, ∃ message,
      matchedResponse responses run = some message ∧
      ((messages.get? message.id).isSome = true →
        Acked (resumeRows pass responses 0 runs messages).2 message.id)) ∨
    ¬ MarksFirst pass responses runs ∧ (resumeRows pass responses 0 runs messages).2 = messages := by
  induction runs with
  | nil => exact .inr ⟨id, rfl⟩
  | cons run rest ih =>
      have others := fun other member => waiting other (List.mem_cons_of_mem run member)
      unfold MarksFirst
      rcases resumeRows_cons (waiting run List.mem_cons_self) with raises | skips | marks
      · obtain ⟨unreadable, error, same⟩ := raises
        exact .inr ⟨fun first => unreadable first.1, congrArg Prod.snd same⟩
      · obtain ⟨readable, unmatched, same⟩ := skips
        rw [unmatched, same]
        refine (ih others).imp ?_ ?_
        · intro marked
          obtain ⟨first, other, member, found⟩ := marked
          exact ⟨⟨readable, first⟩, other, List.mem_cons_of_mem run member, found⟩
        · intro none
          exact ⟨fun first => none.1 first.2, none.2⟩
      · obtain ⟨message, readable, matched, marks⟩ := marks
        rw [matched]
        have own : Acked (markResponseConsumed message.id (pass.markedAt 0) messages) message.id ↔
            Acked messages message.id ∨ message.id = message.id ∧
              (messages.get? message.id).isSome = true := acked_markResponseConsumed
        rcases marks with ⟨passes, same⟩ | ⟨fails, error, same⟩ | ⟨lost, error, same⟩
        · refine .inl ⟨⟨readable, ?_⟩, run, List.mem_cons_self, message, matched, ?_⟩
          · rw [passes]
            intro fails
            cases fails
          · intro present
            rw [same]
            exact acked_kept others (own.mpr (.inr ⟨rfl, present⟩))
        · exact .inr ⟨fun first => first.2 fails, congrArg Prod.snd same⟩
        · refine .inl ⟨⟨readable, ?_⟩, run, List.mem_cons_self, message, matched, ?_⟩
          · rw [lost]
            intro fails
            cases fails
          · intro present
            rw [same]
            exact own.mpr (.inr ⟨rfl, present⟩)

/-! ### A whole pass -/

variable {store : ResumeStore}

theorem waiting_status (run : WorkflowRunRow) (member : run ∈ store.waiting) :
    run.status = .waitingAgentResponse :=
  of_decide_eq_true (List.mem_filter.mp member).2

theorem messages_after (reads : pass.reads = true) :
    (resumeWaitingRunsOnce pass store).messages =
      (resumeRows pass (deliveredResponses pass.polledAt 200 store.messages.rows) 0 store.waiting
        store.messages).2 := by
  unfold resumeWaitingRunsOnce
  rw [if_pos reads]
  dsimp only
  split
  · next same => rw [same]
  · next same =>
      rw [same]
      split <;> rfl

theorem passCompletes_iff :
    PassCompletes pass responses store.waiting ↔
      (resumeRows pass responses 0 store.waiting store.messages).1 = .ok () ∧
        pass.commit ≠ .fails := by
  rw [resumeRows_ok_iff waiting_status]
  constructor
  · intro completes
    refine ⟨⟨completes.readable, ?_⟩, completes.commit⟩
    intro i inside
    rw [Nat.zero_add]
    exact completes.marks i inside
  · intro ends
    refine ⟨ends.1.1, ?_, ends.2⟩
    intro i inside
    have mark := ends.1.2 i inside
    rwa [Nat.zero_add] at mark

/-- What becomes of a waiting run: its state stays, and it runs where the pass completes and has a
response for it. -/
theorem run_after (reads : pass.reads = true) (member : run ∈ store.waiting) :
    ∃ row, (resumeWaitingRunsOnce pass store).runs.get? run.id = some row ∧
      row.state = run.state ∧
      (row.status = .running ↔
        PassCompletes pass (deliveredResponses pass.polledAt 200 store.messages.rows) store.waiting ∧
          (matchedResponse (deliveredResponses pass.polledAt 200 store.messages.rows) run).isSome =
            true) := by
  generalize offered : deliveredResponses pass.polledAt 200 store.messages.rows = responses
  have found : store.runs.get? run.id = some run :=
    Keyed.get?_of_mem (List.mem_of_mem_filter member)
  have waits := waiting_status run member
  rw [passCompletes_iff]
  unfold resumeWaitingRunsOnce
  rw [if_pos reads]
  dsimp only
  rw [offered]
  -- A pass that does not complete leaves the runs alone.
  have stays : ¬ ((resumeRows pass responses 0 store.waiting store.messages).1 = .ok () ∧
      pass.commit ≠ .fails) → (run.status = .running ↔
        ((resumeRows pass responses 0 store.waiting store.messages).1 = .ok () ∧
          pass.commit ≠ .fails) ∧ (matchedResponse responses run).isSome = true) := by
    intro incomplete
    rw [waits]
    simp [incomplete]
  split
  · next ends =>
      rw [ends] at stays ⊢
      exact ⟨run, found, rfl, stays fun both => by cases both.1⟩
  · next ends =>
      rw [ends] at stays ⊢
      split
      · next fails => exact ⟨run, found, rfl, stays fun both => both.2 fails⟩
      · next commits =>
          refine ⟨writtenRun pass responses run, ?_, ?_⟩
          · rw [Keyed.get?_change, found]
            rfl
          · unfold writtenRun
            rw [if_pos waits]
            have ok : (resumeRows pass responses 0 store.waiting store.messages).1 = .ok () :=
              congrArg Prod.fst ends
            have readable := ((resumeRows_ok_iff waiting_status).mp ok).1 run member
            rcases resumeWaitingRow_cases pass responses waits with raises | row
            · exact absurd readable raises.1
            · obtain ⟨_, edited, same, status⟩ := row
              rw [same]
              refine ⟨rfl, ?_⟩
              show edited.status = .running ↔ _
              rw [status]
              simp [commits]

abbrev ResumeStore.offered (store : ResumeStore) (pass : ResumePass) : List AgentMessage :=
  deliveredResponses pass.polledAt 200 store.messages.rows

theorem offered_stored {message : AgentMessage} (member : message ∈ store.offered pass) :
    store.messages.get? message.id = some message ∧ message.status = .delivered := by
  have selected := List.mem_filter.mp ((mem_sortBy _).mp (List.mem_of_mem_take member))
  refine ⟨Keyed.get?_of_mem selected.1, ?_⟩
  have all := selected.2
  simp only [Bool.and_eq_true, decide_eq_true_eq] at all
  exact all.1.2

theorem not_acked {message : AgentMessage} (member : message ∈ store.offered pass) :
    ¬ Acked store.messages message.id := by
  intro acked
  obtain ⟨row, there, acked⟩ := acked
  obtain ⟨present, delivered⟩ := offered_stored member
  obtain rfl := Option.some.inj (present.symm.trans there)
  rw [delivered] at acked
  cases acked

theorem awaits_unique {conversationId key conversationId' key' : String}
    (awaits : AwaitsUnder run conversationId key) (awaits' : AwaitsUnder run conversationId' key') :
    conversationId = conversationId' := by
  obtain ⟨waitCtx, found, rfl, _⟩ := awaits
  obtain ⟨_, found', rfl, _⟩ := awaits'
  rw [Option.some.inj (found.symm.trans found')]

theorem matched_unique {other : WorkflowRunRow} {message : AgentMessage} {key : String}
    (matched : matchedResponse responses run = some message)
    (awaits : AwaitsUnder other message.conversationId key) :
    matchedResponse responses other = some message := by
  obtain ⟨_, named, own, waits⟩ := matched_awaits matched
  rw [← matched, matched_of_awaits awaits named, matched_of_awaits waits named]

theorem matched_of_acked {message : AgentMessage} (member : message ∈ store.offered pass)
    (reads : pass.reads = true)
    (acked : Acked (resumeWaitingRunsOnce pass store).messages message.id) :
    ∃ run ∈ store.waiting, matchedResponse (store.offered pass) run = some message := by
  rw [messages_after reads] at acked
  rcases acked_source waiting_status acked with before | now
  · exact absurd before (not_acked member)
  · obtain ⟨run, waits, found, matched, same⟩ := now
    have present := (offered_stored (matched_awaits matched).1).1
    rw [same, (offered_stored member).1] at present
    obtain rfl := Option.some.inj present
    exact ⟨run, waits, matched⟩

theorem marked_of_acked {message : AgentMessage} (member : message ∈ store.offered pass)
    (reads : pass.reads = true)
    (acked : Acked (resumeWaitingRunsOnce pass store).messages message.id) :
    MarksFirst pass (store.offered pass) store.waiting := by
  rcases first_mark pass (store.offered pass) store.messages waiting_status with found | none
  · exact found.1
  · rw [messages_after reads, none.2] at acked
    exact absurd acked (not_acked member)

theorem acked_of_matched {message : AgentMessage} (reads : pass.reads = true)
    (completes : PassCompletes pass (store.offered pass) store.waiting)
    (member : run ∈ store.waiting)
    (matched : matchedResponse (store.offered pass) run = some message) :
    Acked (resumeWaitingRunsOnce pass store).messages message.id := by
  rw [messages_after reads]
  apply acked_all waiting_status (passCompletes_iff.mp completes).1 member matched
  rw [(offered_stored (matched_awaits matched).1).1]
  rfl

theorem atMostOne_acked (reads : pass.reads = true) {message other : AgentMessage}
    (member : message ∈ store.offered pass) (member' : other ∈ store.offered pass)
    (same : message.conversationId = other.conversationId)
    (acked : Acked (resumeWaitingRunsOnce pass store).messages message.id)
    (acked' : Acked (resumeWaitingRunsOnce pass store).messages other.id) : message = other := by
  obtain ⟨run, _, matched⟩ := matched_of_acked member reads acked
  obtain ⟨run', _, matched'⟩ := matched_of_acked member' reads acked'
  obtain ⟨_, _, key, awaits⟩ := matched_awaits matched'
  rw [← same] at awaits
  exact Option.some.inj ((matched_unique matched awaits).symm.trans matched')

theorem one_acked (reads : pass.reads = true) (member : run ∈ store.waiting)
    {message : AgentMessage} (waits : WaitsOn run message.conversationId)
    (running : ∃ row, (resumeWaitingRunsOnce pass store).runs.get? run.id = some row ∧
      row.status = .running) :
    ∃ taken ∈ store.offered pass, taken.conversationId = message.conversationId ∧
      Acked (resumeWaitingRunsOnce pass store).messages taken.id := by
  obtain ⟨row, there, _, goes⟩ := run_after reads member
  obtain ⟨row', there', running⟩ := running
  obtain rfl := Option.some.inj (there.symm.trans there')
  obtain ⟨completes, matched⟩ := goes.mp running
  obtain ⟨taken, matched⟩ := Option.isSome_iff_exists.mp matched
  obtain ⟨offered, _, key, awaits⟩ := matched_awaits matched
  obtain ⟨_, waitCtx, found, same⟩ := waits
  refine ⟨taken, offered, ?_, acked_of_matched reads completes member matched⟩
  exact awaits_unique awaits ⟨waitCtx, found, same, rfl⟩

theorem storedIn_iff (reads : pass.reads = true) (member : run ∈ store.waiting) {key : String}
    {content : Value} :
    StoredIn (resumeWaitingRunsOnce pass store).runs run.id key content ↔
      PassCompletes pass (store.offered pass) store.waiting ∧
        (matchedResponse (store.offered pass) run).isSome = true ∧
        Dict.get? run.state key = some content := by
  obtain ⟨row, there, state, goes⟩ := run_after reads member
  constructor
  · intro stored
    obtain ⟨row', there', running, holds⟩ := stored
    obtain rfl := Option.some.inj (there.symm.trans there')
    obtain ⟨completes, matched⟩ := goes.mp running
    exact ⟨completes, matched, state ▸ holds⟩
  · intro stored
    obtain ⟨completes, matched, holds⟩ := stored
    exact ⟨row, there, goes.mpr ⟨completes, matched⟩, state ▸ holds⟩

theorem lossless_of_unread (unread : pass.reads ≠ true) :
    NoResponseLost (store.offered pass) store (resumeWaitingRunsOnce pass store) := by
  have unchanged : resumeWaitingRunsOnce pass store = store := if_neg unread
  rw [unchanged]
  have idle : ∀ run ∈ store.waiting, ∀ row, store.runs.get? run.id = some row →
      row.status ≠ .running := by
    intro run member row there running
    have found := Keyed.get?_of_mem (List.mem_of_mem_filter member)
    obtain rfl := Option.some.inj (found.symm.trans there)
    rw [waiting_status run member] at running
    cases running
  constructor
  · intro message member
    refine ⟨fun acked => absurd acked (not_acked member), ?_⟩
    intro stored
    obtain ⟨run, waits, _, _, row, there, running, _⟩ := stored
    exact absurd running (idle run waits row there)
  · intro run waits message member _ running
    obtain ⟨row, there, running⟩ := running
    exact absurd running (idle run waits row there)
  · intro message member _ _ _ acked
    exact absurd acked (not_acked member)

theorem completes_of_lossless (reads : pass.reads = true)
    (lossless : NoResponseLost (store.offered pass) store (resumeWaitingRunsOnce pass store))
    (marked : MarksFirst pass (store.offered pass) store.waiting) :
    PassCompletes pass (store.offered pass) store.waiting := by
  rcases first_mark pass (store.offered pass) store.messages waiting_status with found | none
  · obtain ⟨_, run, _, message, matched, marks⟩ := found
    have acked : Acked (resumeWaitingRunsOnce pass store).messages message.id := by
      rw [messages_after reads]
      apply marks
      rw [(offered_stored (matched_awaits matched).1).1]
      rfl
    obtain ⟨holder, waits, key, _, stored⟩ :=
      (lossless.stored message (matched_awaits matched).1).mp acked
    exact ((storedIn_iff reads waits).mp stored).1
  · exact absurd marked none.1

theorem alreadyStored_of_lossless (reads : pass.reads = true)
    (lossless : NoResponseLost (store.offered pass) store (resumeWaitingRunsOnce pass store))
    (completes : PassCompletes pass (store.offered pass) store.waiting) :
    AlreadyStored (store.offered pass) store.waiting := by
  intro run member message matched
  have acked := acked_of_matched reads completes member matched
  constructor
  · obtain ⟨holder, waits, key, awaits, stored⟩ :=
      (lossless.stored message (matched_awaits matched).1).mp acked
    exact ⟨holder, waits, key, awaits, ((storedIn_iff reads waits).mp stored).2.2⟩
  · intro rival offered same different other waits key awaits holds
    have own : matchedResponse (store.offered pass) other = some message :=
      matched_unique matched (same ▸ awaits)
    have stored : StoredIn (resumeWaitingRunsOnce pass store).runs other.id key rival.content :=
      (storedIn_iff reads waits).mpr ⟨completes, by rw [own]; rfl, holds⟩
    have consumed := (lossless.stored rival offered).mpr ⟨other, waits, key, awaits, stored⟩
    exact different (lossless.atMostOne rival offered message (matched_awaits matched).1 same
      consumed acked)

theorem lossless_of_stored (reads : pass.reads = true)
    (condition : MarksFirst pass (store.offered pass) store.waiting →
      PassCompletes pass (store.offered pass) store.waiting ∧
        AlreadyStored (store.offered pass) store.waiting) :
    NoResponseLost (store.offered pass) store (resumeWaitingRunsOnce pass store) := by
  constructor
  · intro message member
    constructor
    · intro acked
      obtain ⟨run, waits, matched⟩ := matched_of_acked member reads acked
      obtain ⟨completes, already⟩ := condition (marked_of_acked member reads acked)
      obtain ⟨⟨holder, inside, key, awaits, holds⟩, _⟩ := already run waits message matched
      refine ⟨holder, inside, key, awaits, (storedIn_iff reads inside).mpr ⟨completes, ?_, holds⟩⟩
      rw [matched_unique matched awaits]
      rfl
    · intro stored
      obtain ⟨run, waits, key, awaits, stored⟩ := stored
      obtain ⟨completes, matched, holds⟩ := (storedIn_iff reads waits).mp stored
      obtain ⟨taken, matched⟩ := Option.isSome_iff_exists.mp matched
      have acked := acked_of_matched reads completes waits matched
      have marked := marked_of_acked (matched_awaits matched).1 reads acked
      obtain ⟨_, already⟩ := condition marked
      obtain ⟨_, others⟩ := already run waits taken matched
      by_cases own : message = taken
      · rwa [own]
      · obtain ⟨_, _, key', awaits'⟩ := matched_awaits matched
        exact absurd holds (others message member (awaits_unique awaits awaits') own run waits key
          awaits)
  · intro run waits message member awaits running
    exact one_acked reads waits awaits running
  · intro message member other member' same acked acked'
    exact atMostOne_acked reads member member' same acked acked'

/-- No response is lost exactly where the pass fails before its first mark, or it completes and
found in the states what it was to store. -/
theorem no_response_lost_iff (pass : ResumePass) (store : ResumeStore) :
    NoResponseLost (store.offered pass) store (resumeWaitingRunsOnce pass store) ↔
      (pass.reads = true → MarksFirst pass (store.offered pass) store.waiting →
        PassCompletes pass (store.offered pass) store.waiting ∧
          AlreadyStored (store.offered pass) store.waiting) := by
  constructor
  · intro lossless reads marked
    have completes := completes_of_lossless reads lossless marked
    exact ⟨completes, alreadyStored_of_lossless reads lossless completes⟩
  · intro condition
    by_cases reads : pass.reads = true
    · exact lossless_of_stored reads (condition reads)
    · exact lossless_of_unread reads

end

/-! One run that waits, one response, and nothing that fails. -/

def calmPass : ResumePass where
  polledAt := 10
  now := 10
  reads := true
  markedAt _ := 10
  marks _ := .passes
  commit := .passes

def agentAnswer : AgentMessage :=
  { question "01HZAGENTB0000000000000000" with
    id := "m2", recipient := some "system:engine", messageType := "RESPONSE"
    content := .str "42" }

def answeredStore : ResumeStore where
  runs := { rows := [waitingRun], distinct := List.nodup_singleton _ }
  messages := { rows := [agentAnswer], distinct := List.nodup_singleton _ }

theorem answer_lost : ¬ NoResponseLost (answeredStore.offered calmPass) answeredStore
    (resumeWaitingRunsOnce calmPass answeredStore) := by
  intro lossless
  have offered : answeredStore.offered calmPass = [agentAnswer] := by decide
  have waiting : answeredStore.waiting = [waitingRun] := rfl
  have acked : Acked (resumeWaitingRunsOnce calmPass answeredStore).messages agentAnswer.id :=
    ⟨agentAnswer.consumedAt 10, by decide, rfl⟩
  obtain ⟨run, waits, key, awaits, stored⟩ :=
    (lossless.stored agentAnswer (offered ▸ List.mem_singleton_self _)).mp acked
  obtain ⟨_, _, holds⟩ := (storedIn_iff rfl waits).mp stored
  rw [waiting] at waits
  obtain rfl := List.mem_singleton.mp waits
  obtain ⟨waitCtx, found, _, rfl⟩ := awaits
  obtain rfl := Option.some.inj found
  revert holds
  decide

end SyndicateClaw.Services
