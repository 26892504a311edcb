import SyndicateClaw.Inference.Requests

/-! Messages from chat platforms: the requests made of them, and the replies that are sent while the
answer streams in. -/

namespace SyndicateClaw.Connectors

open Inference

inductive Platform where
  | telegram | discord | slack | webhook
  deriving DecidableEq

def Platform.value : Platform → String
  | .telegram => "telegram"
  | .discord => "discord"
  | .slack => "slack"
  | .webhook => "webhook"

/-- A message, without its raw form, its thread and the time of its arrival. -/
structure ConnectorMessage where
  platform : Platform
  platformMessageId : String
  channelId : String
  userId : String
  text : String
  isCommand : Bool := false
  command : Option String := none
  commandArgs : Option String := none

namespace ConnectorMessage

variable (message : ConnectorMessage)

def actor : String := "connector:" ++ message.platform.value ++ ":" ++ message.userId

def memoryNamespace : String := "connector:" ++ message.platform.value ++ ":" ++ message.channelId

/-- `ChatInferenceRequest` has no field for the metadata. -/
def request : ChatInferenceRequest where
  messages := [{ role := "user", content := message.text }]
  modelId := none
  providerId := none
  temperature := none
  maxTokens := none
  actor := message.actor
  scopeType := "NAMESPACE"
  scopeId := message.memoryNamespace
  sensitivity := .internal
  traceId := message.platformMessageId
  idempotencyKey := none
  modelPinning := .preferred

end ConnectorMessage

structure ConnectorStatus where
  connected : Bool
  lastEventAt : Option Int
  eventsReceived : Nat
  errors : Nat

/-- A call of `send_reply`. -/
structure Reply where
  text : String
  isStreamingComplete : Bool

/-- How the body of the `try` ends. -/
inductive Ending where
  | finishes
  | denied (text : String)
  | approvalRequired
  | raises (text : String)

/-- What an exception handler sends. -/
def Ending.notice : Ending → Option String
  | .finishes => none
  | .denied text => some ("⛔ Request denied: " ++ text)
  | .approvalRequired => some "⏳ Requires approval…"
  | .raises text => some ("❌ Error: " ++ text)

def Ending.errors : Ending → Nat
  | .raises _ => 1
  | _ => 0

section

-- The error with which the call of `send_reply` of a number raises, if it does.
variable (fails : Nat → Option String)

def sendReply (sent : Nat) : Ending :=
  match fails sent with
  | none => .finishes
  | some text => .raises text

/-- The loop over the deltas of a stream that breaks off with an ending, and the last reply. -/
def streamReplies (ending : Ending) :
    (sent : Nat) → (buffer : String) → (lastFlush : Nat) → List String → List Reply × Ending
  | sent, buffer, _, [] =>
      match ending with
      | .finishes => ([⟨buffer, true⟩], sendReply fails sent)
      | broken => ([], broken)
  | sent, buffer, lastFlush, delta :: rest =>
      if lastFlush + 80 ≤ (buffer ++ delta).length then
        match fails sent with
        | some text => ([⟨buffer ++ delta, false⟩], .raises text)
        | none =>
            let later := streamReplies ending (sent + 1) (buffer ++ delta) (buffer ++ delta).length rest
            (⟨buffer ++ delta, false⟩ :: later.1, later.2)
      else streamReplies ending sent (buffer ++ delta) lastFlush rest

/-- The text that `handle_command` sends. -/
def commandReply (strip lower : String → String) (status : ConnectorStatus)
    (message : ConnectorMessage) : String :=
  let command := lower (strip (message.command.getD ""))
  if command = "/help" then "Commands:\n/help\n/status\n/run <workflow_name>"
  else if command = "/status" then
    message.platform.value ++ ": " ++ (if status.connected then "connected" else "disconnected") ++
      "\nevents=" ++ toString status.eventsReceived ++ "\nerrors=" ++ toString status.errors
  else if command = "/run" then
    let workflow := strip (message.commandArgs.getD "")
    if workflow = "" then "Usage: /run <workflow_name>"
    else "Workflow trigger accepted: " ++ workflow ++ " (execution wiring pending)"
  else "Unknown command. Try /help."

/-- `handle_message`: the replies it tries to send, and the status it leaves. -/
def handleMessage (strip lower : String → String)
    (streamChat : ChatInferenceRequest → List String × Ending) (now : Int) (status : ConnectorStatus)
    (message : ConnectorMessage) : List Reply × ConnectorStatus :=
  let status :=
    { status with eventsReceived := status.eventsReceived + 1, lastEventAt := some now }
  let (replies, ending) :=
    if message.isCommand then
      ([⟨commandReply strip lower status message, true⟩], sendReply fails 0)
    else
      let answer := streamChat message.request
      streamReplies fails answer.2 0 "" 0 answer.1
  (replies ++ (ending.notice.map (⟨·, true⟩)).toList,
    { status with errors := status.errors + ending.errors })

/-! ### Partial replies -/

/-- Partial replies from a number of characters on: each is a beginning of the whole text, and has 80
characters more than the one before. The last number is that of the characters shown in the end. -/
inductive Shown (whole : String) : Nat → List Reply → Nat → Prop
  | nil (shown : Nat) : Shown whole shown [] shown
  | cons {before shown : Nat} {text : String} {rest : List Reply}
      (grown : before + 80 ≤ text.length) (part : text.toList <+: whole.toList)
      (later : Shown whole text.length rest shown) : Shown whole before (⟨text, false⟩ :: rest) shown

theorem Shown.length {whole : String} {before shown : Nat} {parts : List Reply}
    (shows : Shown whole before parts shown) (within : before ≤ whole.length) :
    before + 80 * parts.length ≤ shown ∧ shown ≤ whole.length := by
  induction shows with
  | nil shown => exact ⟨Nat.le_refl shown, within⟩
  | cons grown part later ih =>
      have bounds := ih part.length_le
      rw [List.length_cons]
      omega

theorem prefix_foldl (buffer : String) (deltas : List String) :
    buffer.toList <+: (deltas.foldl (· ++ ·) buffer).toList := by
  induction deltas generalizing buffer with
  | nil => exact List.prefix_refl _
  | cons delta rest ih =>
      refine List.IsPrefix.trans ?_ (ih (buffer ++ delta))
      rw [String.toList_append]
      exact List.prefix_append _ _

/-- How a stream is shown: partial replies, and at most one more, which is all of it. Where no call of
`send_reply` raises, less than 80 characters are left for it. -/
theorem streamReplies_shows (ending : Ending) (sent lastFlush : Nat) (buffer : String)
    (deltas : List String) (behind : buffer.length < lastFlush + 80) :
    ∃ parts last shown, (streamReplies fails ending sent buffer lastFlush deltas).1 = parts ++ last ∧
      Shown (deltas.foldl (· ++ ·) buffer) lastFlush parts shown ∧
      (last = [] ∨ last = [⟨deltas.foldl (· ++ ·) buffer, true⟩]) ∧
      ((∀ n, fails n = none) →
        (streamReplies fails ending sent buffer lastFlush deltas).2 = ending ∧
        (deltas.foldl (· ++ ·) buffer).length < shown + 80 ∧
        (last = [] ↔ ending ≠ .finishes)) := by
  induction deltas generalizing sent buffer lastFlush with
  | nil =>
      cases ending with
      | finishes =>
          refine ⟨[], _, _, rfl, .nil lastFlush, .inr rfl, fun sends => ⟨?_, behind, by simp⟩⟩
          simp [streamReplies, sendReply, sends]
      | denied | approvalRequired | raises =>
          exact ⟨[], [], _, rfl, .nil lastFlush, .inl rfl, fun _ => ⟨rfl, behind, by simp⟩⟩
  | cons delta rest ih =>
      rw [streamReplies, List.foldl_cons]
      by_cases flushes : lastFlush + 80 ≤ (buffer ++ delta).length
      · rw [if_pos flushes]
        have part := prefix_foldl (buffer ++ delta) rest
        cases sends : fails sent with
        | some text =>
            refine ⟨[⟨buffer ++ delta, false⟩], [], _, rfl, .cons flushes part (.nil _), .inl rfl, ?_⟩
            intro all
            rw [all] at sends
            cases sends
        | none =>
            obtain ⟨parts, last, shown, replies, shows, rest⟩ :=
              ih (sent + 1) (buffer ++ delta).length (buffer ++ delta) (by omega)
            refine ⟨⟨buffer ++ delta, false⟩ :: parts, last, shown, ?_, .cons flushes part shows, rest⟩
            show _ :: (streamReplies fails ending _ _ _ _).1 = _
            rw [replies]
            rfl
      · rw [if_neg flushes]
        exact ih sent lastFlush (buffer ++ delta) (by omega)

/-- No partial reply follows a complete one. Where no call of `send_reply` raises, the last reply is
the one complete reply, and it has the text or says why there is none. -/
theorem message_replies (strip lower : String → String)
    (streamChat : ChatInferenceRequest → List String × Ending) (now : Int) (status : ConnectorStatus)
    (message : ConnectorMessage) {deltas : List String} {ending : Ending}
    (plain : message.isCommand = false) (streams : streamChat message.request = (deltas, ending)) :
    ∃ parts last shown,
      (handleMessage fails strip lower streamChat now status message).1 = parts ++ last ∧
      Shown (deltas.foldl (· ++ ·) "") 0 parts shown ∧ 80 * parts.length ≤ shown ∧
      shown ≤ (deltas.foldl (· ++ ·) "").length ∧
      (∀ reply ∈ last, reply.isStreamingComplete = true) ∧
      ((∀ n, fails n = none) → (deltas.foldl (· ++ ·) "").length < shown + 80 ∧
        last = [⟨ending.notice.getD (deltas.foldl (· ++ ·) ""), true⟩] ∧
        (handleMessage fails strip lower streamChat now status message).2 =
          { status with
            eventsReceived := status.eventsReceived + 1
            lastEventAt := some now
            errors := status.errors + ending.errors }) := by
  obtain ⟨parts, last, shown, replies, shows, whole, calm⟩ :=
    streamReplies_shows fails ending 0 0 "" deltas (by simp)
  have bounds := shows.length (Nat.zero_le _)
  simp only [handleMessage, plain, streams, Bool.false_eq_true, if_false, replies]
  refine ⟨parts, _, shown, List.append_assoc _ _ _, shows, by omega, bounds.2, ?_, fun sends => ?_⟩
  · intro reply mem
    rcases List.mem_append.mp mem with mem | mem
    · rcases whole with rfl | rfl
      · cases mem
      · rw [List.mem_singleton.mp mem]
    · obtain ⟨text, -, rfl⟩ := Option.mem_map.mp (Option.mem_toList.mp mem)
      rfl
  · obtain ⟨ends, behind, open_iff⟩ := calm sends
    refine ⟨behind, ?_, by rw [ends]⟩
    rw [ends]
    cases ending with
    | finishes =>
        rw [whole.resolve_left fun unsent => open_iff.mp unsent rfl]
        rfl
    | denied | approvalRequired | raises =>
        rw [open_iff.mpr (by simp)]
        rfl

end

theorem greeting_replies :
    ∃ parts last shown, (handleMessage (fun _ => none) id id (fun _ => (["Good ", "day"], .finishes))
        5 ⟨true, none, 0, 0⟩ ⟨.slack, "1", "c", "u", "Hello", false, none, none⟩).1 = parts ++ last ∧
      Shown "Good day" 0 parts shown := by
  obtain ⟨parts, last, shown, replies, shows, -⟩ := message_replies (fun _ => none) id id
    (fun _ => (["Good ", "day"], .finishes)) 5 ⟨true, none, 0, 0⟩
    ⟨.slack, "1", "c", "u", "Hello", false, none, none⟩ rfl rfl
  exact ⟨parts, last, shown, replies, shows⟩

end SyndicateClaw.Connectors
