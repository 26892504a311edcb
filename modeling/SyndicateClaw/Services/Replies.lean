import SyndicateClaw.Orchestrator.AgentResponse
import SyndicateClaw.Services.MessageHops

/-! Replies, and whether they come back to the sender of the message. -/

namespace SyndicateClaw.Services

open Authz (Time)
open Orchestrator (Value State WorkflowRunRow configured configuredStr)

def WaitsOn (run : WorkflowRunRow) (conversationId : String) : Prop :=
  run.status = .waitingAgentResponse ∧
    ∃ waitCtx, (configured run.state "_waiting_agent_response" (.dict [])).asDict? = some waitCtx ∧
      configuredStr waitCtx "conversation_id" "" = conversationId

/-- What the query of `list_for_actor` selects. -/
def Sees (actor : String) (message : AgentMessage) : Bool :=
  message.sender = actor || message.recipient = some actor

/-- What the query of `delivered_responses` selects. -/
def Deliverable (now : Time) (message : AgentMessage) : Bool :=
  message.messageType = "RESPONSE" && message.status = .delivered &&
    message.expiresAt.any fun at_ => now < at_

/-- The reply succeeds with a message in the conversation that the sender of the parent sees, and
that the resume task is offered at `later` where a run waits for it. -/
def ReplyReaches (runs : List WorkflowRunRow) (later : Time) (parent : AgentMessage)
    (outcome : Except MessageError (List AgentMessage) × MessageStore) : Prop :=
  ∃ rows, outcome.1 = .ok rows ∧ ∃ row ∈ rows, row.conversationId = parent.conversationId ∧
    row ∈ listForActor parent.sender 100 outcome.2.messages.rows ∧
    ((∃ run ∈ runs, WaitsOn run parent.conversationId) →
      row ∈ deliveredResponses later 200 outcome.2.messages.rows)

/-- The text that is stored as the sender also leads to the sender. -/
def ReplyAddressed (services : MessageServices) (actor : String) (parent : AgentMessage)
    (messageType : String) : Prop :=
  if messageType = "BROADCAST" then
    services.mayBroadcast actor = true ∧ services.overBroadcastLimit actor = false ∧
      (services.getSubscribers parent.namespaceName).length ≤ 50 ∧
      (parent.sender ∈ services.getSubscribers parent.namespaceName ∨
        parent.sender = actor ∧ services.getSubscribers parent.namespaceName ≠ [])
  else
    ∃ recipientId, resolveRecipientId services parent.sender parent.namespaceName = .ok recipientId ∧
      (recipientId = parent.sender ∨ parent.sender = actor)

structure ReplyOffered (services : MessageServices) (now later : Time) (parent : AgentMessage)
    (messageType : String) (store : MessageStore) : Prop where
  response : messageType = "RESPONSE"
  named : resolveRecipientId services parent.sender parent.namespaceName ≠ .ok ""
  early : (store.messages.rows.countP fun message =>
    Deliverable later message && decide (message.createdAt ≤ now)) < 200

section

variable {services : MessageServices} {now later : Time} {maxHops : Int} {actor messageId : String}
  {parent : AgentMessage} {content : Value} {messageType : String} {store : MessageStore}
  {rows : List AgentMessage} {status : MessageStatus}

theorem ids_mapIdx (injective : services.newId.Injective) (agents : List String)
    (row : Nat → String → AgentMessage) (named : ∀ k agentId, (row k agentId).id = services.newId k) :
    ((agents.mapIdx row).map AgentMessage.id).Nodup := by
  have same : (agents.mapIdx row).map AgentMessage.id =
      (List.range agents.length).map services.newId := by
    apply List.ext_getElem
    · simp
    · intro k inside inside'
      simp [named]
  rw [same]
  exact List.nodup_range.map injective

theorem ids_rows {request : SendRequest} (injective : services.newId.Injective)
    (made : request.rows services now = .ok (rows, status)) :
    (rows.map AgentMessage.id).Nodup := by
  unfold SendRequest.rows at made
  split at made
  · split_ifs at made
    obtain ⟨rfl, -⟩ := Prod.mk.inj (Except.ok.inj made)
    exact ids_mapIdx injective _ _ fun k agentId => rfl
  · split at made
    · obtain ⟨rfl, -⟩ := Prod.mk.inj (Except.ok.inj made)
      exact List.nodup_singleton _
    · split at made
      · cases made
      · obtain ⟨rfl, -⟩ := Prod.mk.inj (Except.ok.inj made)
        exact List.nodup_singleton _

theorem addRows_fresh (within : ∀ row ∈ rows, row.hopCount < maxHops)
    (distinct : (rows.map AgentMessage.id).Nodup) (table : Keyed AgentMessage.id)
    (fresh : ∀ row ∈ rows, table.get? row.id = none) :
    ∃ later, addRows services now maxHops rows table store = (.ok later, store) := by
  induction rows generalizing table with
  | nil => exact ⟨table, rfl⟩
  | cons row rest ih =>
      rw [List.map_cons, List.nodup_cons] at distinct
      have passes : route maxHops services now row store = (.ok (), store) :=
        if_neg (Int.not_le.mpr (within row List.mem_cons_self))
      rw [addRows, passes, fresh row List.mem_cons_self]
      apply ih (fun other member => within other (List.mem_cons_of_mem row member)) distinct.2
      intro other member
      rw [Keyed.get?_insert, if_neg]
      · exact fresh other (List.mem_cons_of_mem row member)
      · intro both
        exact distinct.1 (both.2 ▸ List.mem_map_of_mem member)

theorem reply_stores (stored : store.messages.get? messageId = some parent)
    (reader : parent.recipient = some actor) (below : parent.hopCount + 1 < maxHops)
    (fresh : ∀ k, store.messages.get? (services.newId k) = none)
    (injective : services.newId.Injective)
    (made : (parent.replyRequest actor content messageType).rows services now =
      .ok (rows, status)) :
    ∃ after, reply services now maxHops actor messageId content messageType store =
        (.ok (rows.map (AgentMessage.withStatus status)), after) ∧
      after.messages.rows = store.messages.rows ++ rows.map (AgentMessage.withStatus status) := by
  have read : getForActor actor messageId store = .ok parent := by
    unfold getForActor
    rw [stored]
    exact if_neg fun both => both.2 reader
  have distinct := ids_rows injective made
  have new : ∀ row ∈ rows, store.messages.get? row.id = none := by
    intro row member
    obtain ⟨k, recipient, topic, rfl⟩ := mem_rows made row member
    exact fresh k
  have within : ∀ row ∈ rows, row.hopCount < maxHops := by
    intro row member
    obtain ⟨k, recipient, topic, rfl⟩ := mem_rows made row member
    exact below
  obtain ⟨_, added⟩ : ∃ later, addRows services now maxHops rows store.messages store =
      (.ok later, store) := addRows_fresh within distinct store.messages new
  refine ⟨{ store with
    messages := (rows.map (AgentMessage.withStatus status)).foldl Keyed.insert store.messages },
    ?_, ?_⟩
  · unfold reply send
    rw [read]
    dsimp only
    rw [made]
    dsimp only
    rw [added]
  · apply Keyed.rows_inserts
    · intro row member
      obtain ⟨row, inside, rfl⟩ := List.mem_map.mp member
      exact new row inside
    · rwa [List.map_map]

theorem reply_refused (stored : store.messages.get? messageId = some parent)
    (reader : parent.recipient = some actor) {error : MessageError}
    (made : (parent.replyRequest actor content messageType).rows services now = .error error) :
    reply services now maxHops actor messageId content messageType store = (.error error, store) := by
  have read : getForActor actor messageId store = .ok parent := by
    unfold getForActor
    rw [stored]
    exact if_neg fun both => both.2 reader
  unfold reply send
  rw [read]
  dsimp only
  rw [made]

/-! ### Whom the rows name -/

theorem replyRows_broadcast (broadcast : messageType = "BROADCAST") :
    (parent.replyRequest actor content messageType).rows services now =
      if !services.mayBroadcast actor then
        .error (.broadcastDenied "message:broadcast permission required")
      else if services.overBroadcastLimit actor then
        .error (.broadcastDenied "broadcast rate limit exceeded")
      else if (services.getSubscribers parent.namespaceName).length > 50 then .error .capExceeded
      else
        .ok ((services.getSubscribers parent.namespaceName).mapIdx fun k agentId =>
          (parent.replyRequest actor content messageType).row services now k (some agentId)
            (some "__broadcast__"), .delivered) :=
  if_pos broadcast

theorem replyRows_direct (direct : messageType ≠ "BROADCAST") :
    (parent.replyRequest actor content messageType).rows services now =
      match resolveRecipientId services parent.sender parent.namespaceName with
      | .error error => .error error
      | .ok recipientId =>
          .ok ([(parent.replyRequest actor content messageType).row services now 0
            (some recipientId) none],
            if truthy (some recipientId) || truthy none then .delivered else .pending) :=
  if_neg direct

theorem addressed_iff :
    ReplyAddressed services actor parent messageType ↔
      ∃ rows status, (parent.replyRequest actor content messageType).rows services now =
        .ok (rows, status) ∧ ∃ row ∈ rows, Sees parent.sender row = true := by
  unfold ReplyAddressed
  split
  · next broadcast =>
      rw [replyRows_broadcast broadcast]
      constructor
      · intro addressed
        obtain ⟨may, below, few, names⟩ := addressed
        rw [may, below, if_neg (by decide), if_neg (by decide), if_neg (Nat.not_lt.mpr few)]
        refine ⟨_, _, rfl, ?_⟩
        cases names with
        | inl named =>
            obtain ⟨k, inside, same⟩ := List.mem_iff_getElem.mp named
            refine ⟨_, List.mem_mapIdx.mpr ⟨k, inside, rfl⟩, ?_⟩
            simp [Sees, SendRequest.row, same]
        | inr own =>
            obtain ⟨sender, some⟩ := own
            refine ⟨_, List.mem_mapIdx.mpr ⟨0, List.length_pos_of_ne_nil some, rfl⟩, ?_⟩
            simp [Sees, SendRequest.row, AgentMessage.replyRequest, sender]
      · intro made
        obtain ⟨rows, status, made, row, member, sees⟩ := made
        split_ifs at made with may below few
        obtain ⟨rfl, -⟩ := Prod.mk.inj (Except.ok.inj made)
        obtain ⟨k, inside, rfl⟩ := List.mem_mapIdx.mp member
        refine ⟨by simpa using may, by simpa using below, Nat.le_of_not_lt few, ?_⟩
        rcases Bool.or_eq_true_iff.mp sees with sender | recipient
        · exact .inr ⟨(of_decide_eq_true sender).symm,
            List.ne_nil_of_length_pos (Nat.zero_lt_of_lt inside)⟩
        · have same := Option.some.inj (of_decide_eq_true recipient)
          exact .inl (same ▸ List.getElem_mem inside)
  · next direct =>
      rw [replyRows_direct direct]
      cases resolved : resolveRecipientId services parent.sender parent.namespaceName with
      | error error => simp
      | ok recipientId =>
          constructor
          · intro addressed
            obtain ⟨_, same, names⟩ := addressed
            obtain rfl := Except.ok.inj same
            refine ⟨_, _, rfl, _, List.mem_singleton_self _, ?_⟩
            rcases names with named | own
            · simp [Sees, SendRequest.row, named]
            · simp [Sees, SendRequest.row, AgentMessage.replyRequest, own]
          · intro made
            obtain ⟨rows, status, made, row, member, sees⟩ := made
            obtain ⟨rfl, -⟩ := Prod.mk.inj (Except.ok.inj made)
            obtain rfl := List.mem_singleton.mp member
            refine ⟨recipientId, rfl, ?_⟩
            rcases Bool.or_eq_true_iff.mp sees with sender | recipient
            · exact .inr (of_decide_eq_true sender).symm
            · exact .inl (Option.some.inj (of_decide_eq_true recipient))

theorem response_rows (made : (parent.replyRequest actor content "RESPONSE").rows services now =
      .ok (rows, status)) :
    ∃ row recipientId, rows = [row] ∧
      resolveRecipientId services parent.sender parent.namespaceName = .ok recipientId ∧
      (status = .delivered ↔ recipientId ≠ "") := by
  rw [replyRows_direct (by decide)] at made
  cases resolved : resolveRecipientId services parent.sender parent.namespaceName with
  | error error =>
      rw [resolved] at made
      cases made
  | ok recipientId =>
      rw [resolved] at made
      obtain ⟨rfl, rfl⟩ := Prod.mk.inj (Except.ok.inj made)
      refine ⟨_, recipientId, rfl, rfl, ?_⟩
      by_cases empty : recipientId = "" <;> simp [truthy, empty]

/-! ### The two lists -/

variable {table : List AgentMessage}

theorem conversation_rows (made : (parent.replyRequest actor content messageType).rows services now =
      .ok (rows, status)) (row : AgentMessage) (member : row ∈ rows) :
    row.conversationId = parent.conversationId ∧ row.createdAt = now ∧
      row.messageType = messageType ∧ row.expiresAt = some (now + 3600 * 1000000) := by
  obtain ⟨k, recipient, topic, rfl⟩ := mem_rows made row member
  exact ⟨rfl, rfl, rfl, rfl⟩

theorem listed_iff {new : List AgentMessage} (distinct : new.Nodup)
    (apart : ∀ row ∈ new, row ∉ table) (level : ∀ row ∈ new, row.createdAt = now) (actor : String) :
    (∃ row ∈ new, row ∈ listForActor actor 100 (table ++ new)) ↔
      (∃ row ∈ new, Sees actor row = true) ∧
        (table.countP fun message => Sees actor message && decide (now ≤ message.createdAt)) <
          100 := by
  have level' : ∀ row ∈ new, (fun message : AgentMessage => -message.createdAt) row = -now :=
    fun row member => congrArg Neg.neg (level row member)
  have page := mem_page_append distinct apart level' (Sees actor) 100
  simp only [Int.neg_le_neg_iff] at page
  exact page

theorem offered_iff {new : List AgentMessage} (distinct : new.Nodup)
    (apart : ∀ row ∈ new, row ∉ table) (level : ∀ row ∈ new, row.createdAt = now) :
    (∃ row ∈ new, row ∈ deliveredResponses later 200 (table ++ new)) ↔
      (∃ row ∈ new, Deliverable later row = true) ∧
        (table.countP fun message =>
          Deliverable later message && decide (message.createdAt ≤ now)) < 200 :=
  mem_page_append distinct apart level (Deliverable later) 200

theorem replied_rows (made : (parent.replyRequest actor content messageType).rows services now =
      .ok (rows, status)) (row : AgentMessage)
    (member : row ∈ rows.map (AgentMessage.withStatus status)) :
    row.conversationId = parent.conversationId ∧ row.createdAt = now ∧
      row.messageType = messageType ∧ row.status = status ∧
      row.expiresAt = some (now + 3600 * 1000000) := by
  obtain ⟨row, inside, rfl⟩ := List.mem_map.mp member
  obtain ⟨conversation, created, type, expires⟩ := conversation_rows made row inside
  exact ⟨conversation, created, type, rfl, expires⟩

theorem replied_apart (made : (parent.replyRequest actor content messageType).rows services now =
      .ok (rows, status)) (fresh : ∀ k, store.messages.get? (services.newId k) = none)
    (row : AgentMessage) (member : row ∈ rows.map (AgentMessage.withStatus status)) :
    row ∉ store.messages.rows := by
  intro there
  obtain ⟨row, inside, rfl⟩ := List.mem_map.mp member
  obtain ⟨k, recipient, topic, rfl⟩ := mem_rows made row inside
  have taken := Keyed.get?_of_mem there
  exact absurd (taken.symm.trans (fresh k)) nofun

theorem replied_nodup (made : (parent.replyRequest actor content messageType).rows services now =
      .ok (rows, status)) (injective : services.newId.Injective) :
    (rows.map (AgentMessage.withStatus status)).Nodup := by
  have own : ((rows.map (AgentMessage.withStatus status)).map AgentMessage.id).Nodup := by
    rw [List.map_map]
    exact ids_rows injective made
  exact own.of_map

theorem replied_seen : (∃ rows' status', (Except.ok (rows, status) : Except MessageError _) =
      .ok (rows', status') ∧ ∃ row ∈ rows', Sees parent.sender row = true) ↔
    ∃ row ∈ rows.map (AgentMessage.withStatus status), Sees parent.sender row = true := by
  constructor
  · intro sees
    obtain ⟨_, _, same, row, member, sees⟩ := sees
    obtain ⟨rfl, rfl⟩ := Prod.mk.inj (Except.ok.inj same)
    exact ⟨_, List.mem_map_of_mem member, sees⟩
  · intro sees
    obtain ⟨_, member, sees⟩ := sees
    obtain ⟨row, inside, rfl⟩ := List.mem_map.mp member
    exact ⟨rows, status, rfl, row, inside, sees⟩

theorem replied_deliverable (made : (parent.replyRequest actor content messageType).rows services now =
      .ok (rows, status)) (lives : later < now + 3600 * 1000000) :
    (∃ row ∈ rows.map (AgentMessage.withStatus status), Deliverable later row = true) ↔
      messageType = "RESPONSE" ∧
        resolveRecipientId services parent.sender parent.namespaceName ≠ .ok "" := by
  constructor
  · intro offers
    obtain ⟨row, member, deliverable⟩ := offers
    obtain ⟨_, _, type, state, _⟩ := replied_rows made row member
    simp only [Deliverable, type, state, Bool.and_eq_true, decide_eq_true_eq] at deliverable
    obtain ⟨⟨response, delivered⟩, _⟩ := deliverable
    subst response
    obtain ⟨_, recipientId, _, resolved, named⟩ := response_rows made
    refine ⟨rfl, ?_⟩
    rw [resolved]
    intro empty
    exact named.mp delivered (Except.ok.inj empty)
  · intro both
    obtain ⟨rfl, someone⟩ := both
    obtain ⟨row, recipientId, single, resolved, named⟩ := response_rows made
    obtain rfl : status = .delivered := by
      apply named.mpr
      intro empty
      rw [empty] at resolved
      exact someone resolved
    have member : row.withStatus .delivered ∈ rows.map (AgentMessage.withStatus .delivered) := by
      rw [single]
      exact List.mem_cons_self
    obtain ⟨_, _, type, state, expires⟩ := replied_rows made _ member
    refine ⟨_, member, ?_⟩
    simpa [Deliverable, type, state, expires] using lives

/-- A reply comes back exactly where the sender's text names the sender again, the sender's list has
room for it and, where a run waits for it, it is a response within the first two hundred. -/
theorem reply_reaches_iff {runs : List WorkflowRunRow}
    (stored : store.messages.get? messageId = some parent) (reader : parent.recipient = some actor)
    (below : parent.hopCount + 1 < maxHops)
    (fresh : ∀ k, store.messages.get? (services.newId k) = none)
    (injective : services.newId.Injective) (lives : later < now + 3600 * 1000000) :
    ReplyReaches runs later parent
        (reply services now maxHops actor messageId content messageType store) ↔
      ReplyAddressed services actor parent messageType ∧
        (store.messages.rows.countP fun message =>
          Sees parent.sender message && decide (now ≤ message.createdAt)) < 100 ∧
        ((∃ run ∈ runs, WaitsOn run parent.conversationId) →
          ReplyOffered services now later parent messageType store) := by
  have addressed : ReplyAddressed services actor parent messageType ↔
      ∃ rows status, (parent.replyRequest actor content messageType).rows services now =
        .ok (rows, status) ∧ ∃ row ∈ rows, Sees parent.sender row = true := addressed_iff
  rw [addressed]
  cases made : (parent.replyRequest actor content messageType).rows services now with
  | error error =>
      rw [reply_refused stored reader made]
      constructor
      · intro reaches
        obtain ⟨rows, result, _⟩ := reaches
        cases result
      · intro addressed
        obtain ⟨⟨rows, status, result, _⟩, _⟩ := addressed
        cases result
  | ok both =>
      obtain ⟨rows, status⟩ := both
      obtain ⟨after, result, table⟩ := reply_stores stored reader below fresh injective made
      rw [result, replied_seen]
      have distinct := replied_nodup made injective
      have apart := replied_apart made fresh
      have level := replied_rows made
      have deliverable := replied_deliverable made lives
      have listed := listed_iff distinct apart (fun row member => (level row member).2.1)
        parent.sender
      have offered : (∃ row ∈ rows.map (AgentMessage.withStatus status),
          row ∈ deliveredResponses later 200
            (store.messages.rows ++ rows.map (AgentMessage.withStatus status))) ↔ _ :=
        offered_iff distinct apart fun row member => (level row member).2.1
      rw [← table] at listed offered
      constructor
      · intro reaches
        obtain ⟨_, same, row, member, _, list, waits⟩ := reaches
        obtain rfl := Except.ok.inj same
        have visible := listed.mp ⟨row, member, list⟩
        refine ⟨visible.1, visible.2, ?_⟩
        intro waiting
        have queued := offered.mp ⟨row, member, waits waiting⟩
        have response := deliverable.mp queued.1
        exact ⟨response.1, response.2, queued.2⟩
      · intro condition
        obtain ⟨sees, room, waits⟩ := condition
        obtain ⟨row, member, list⟩ := listed.mpr ⟨sees, room⟩
        refine ⟨_, rfl, row, member, (level row member).1, list, ?_⟩
        intro waiting
        have offer := waits waiting
        obtain ⟨other, inside, queued⟩ :=
          offered.mpr ⟨deliverable.mpr ⟨offer.response, offer.named⟩, offer.early⟩
        -- A response is one row.
        obtain rfl := offer.response
        obtain ⟨only, _, single, _⟩ := response_rows made
        rw [single] at member inside
        rwa [List.mem_singleton.mp member, ← List.mem_singleton.mp inside]

end

section

def question (sender : String) : AgentMessage where
  id := "m1"
  conversationId := "01HZCONVERSATION0000000000"
  sender
  recipient := some "01HZAGENTB0000000000000000"
  topic := none
  messageType := "REQUEST"
  content := .dict []
  metadata := [("namespace", .str "default")]
  priority := "NORMAL"
  status := .delivered
  ttlSeconds := 3600
  hopCount := 0
  parentMessageId := none
  expiresAt := some 3600000000
  deliveredAt := none
  ackedAt := none
  createdAt := 0

def questionStore (sender : String) : MessageStore where
  messages := { rows := [question sender], distinct := List.nodup_singleton _ }
  audit := []
  deadLetters := []

def waitingRun : WorkflowRunRow where
  id := "run"
  workflowId := "wf"
  workflowVersion := "1"
  status := .waitingAgentResponse
  state := [("_waiting_agent_response",
    .dict [("conversation_id", .str "01HZCONVERSATION0000000000"), ("response_key", .str "answer")])]
  parentRunId := none
  initiatedBy := "alice"
  startedAt := some 0
  completedAt := none
  error := none
  checkpointData := none
  tags := []
  versionManifest := none
  replayMode := .live

def countingServices : MessageServices :=
  { quietServices "" with newId := fun k => String.ofList (List.replicate k 'r') }

theorem reply_reaches_agent :
    ReplyReaches [waitingRun] 2 (question "01HZAGENTA0000000000000000")
      (reply countingServices 1 10 "01HZAGENTB0000000000000000" "m1" (.dict []) "RESPONSE"
        (questionStore "01HZAGENTA0000000000000000")) := by
  apply (reply_reaches_iff rfl rfl (by decide) ?fresh ?injective (by decide)).mpr
  case fresh =>
    intro k
    apply Keyed.get?_eq_none.mpr
    intro taken
    have same := congrArg String.toList (List.mem_singleton.mp taken)
    have all : ∀ character ∈ (countingServices.newId k).toList, character = 'r' := by
      intro character member
      rw [countingServices, String.toList_ofList] at member
      exact List.eq_of_mem_replicate member
    rw [same] at all
    exact absurd (all 'm' (by decide)) (by decide)
  case injective =>
    intro a b same
    have equal := congrArg String.length same
    simpa [countingServices] using equal
  have resolved : resolveRecipientId countingServices "01HZAGENTA0000000000000000" "default" =
      .ok "01HZAGENTA0000000000000000" := if_pos (by decide)
  refine ⟨⟨_, resolved, .inl rfl⟩, by decide, fun _ => ⟨rfl, ?_, by decide⟩⟩
  intro empty
  exact absurd (Except.ok.inj (resolved.symm.trans empty)) (by decide)

/-- The default sender of `agent_send` names no agent. -/
theorem reply_to_engine_fails :
    ¬ ReplyReaches [waitingRun] 2 (question "system:engine")
      (reply countingServices 1 10 "01HZAGENTB0000000000000000" "m1" (.dict []) "RESPONSE"
        (questionStore "system:engine")) := by
  intro reaches
  have unknown : resolveRecipientId countingServices (question "system:engine").sender
      (question "system:engine").namespaceName = .error .agentNotFound := if_neg (by decide)
  have made : ((question "system:engine").replyRequest "01HZAGENTB0000000000000000" (.dict [])
      "RESPONSE").rows countingServices 1 = .error .agentNotFound := by
    rw [replyRows_direct (by decide), unknown]
  rw [reply_refused rfl rfl made] at reaches
  obtain ⟨rows, result, _⟩ := reaches
  cases result

end

end SyndicateClaw.Services
