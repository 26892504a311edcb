import SyndicateClaw.Authz.Evaluator
import SyndicateClaw.Data.KeySort
import SyndicateClaw.Data.Keyed
import SyndicateClaw.Orchestrator.Handlers

/-! `MessageService` and `MessageRouter`: messages between agents and workflows. -/

namespace SyndicateClaw.Services

open Orchestrator
open Authz (Time)

inductive MessageStatus where
  | pending | delivered | acked | failed | hopLimitExceeded
  deriving DecidableEq

structure AgentMessage where
  id : String
  conversationId : String
  sender : String
  recipient : Option String
  topic : Option String
  messageType : String
  content : Value
  metadata : State
  priority : String
  status : MessageStatus
  ttlSeconds : Int
  hopCount : Int
  parentMessageId : Option String
  expiresAt : Option Time
  deliveredAt : Option Time
  ackedAt : Option Time
  createdAt : Time
  deriving DecidableEq

/-- The columns of an audit event and of a dead letter that the router sets. -/
structure HopAuditEvent where
  eventType : String
  actor : String
  resourceType : String
  resourceId : String
  action : String
  details : State
  deriving DecidableEq

structure DeadLetterRecord where
  eventType : String
  eventPayload : State
  errorMessage : String
  errorCategory : String
  status : String
  deriving DecidableEq

structure MessageStore where
  messages : Keyed AgentMessage.id
  audit : List HopAuditEvent
  deadLetters : List DeadLetterRecord

/-- `str.isalnum` and `str.upper`, a character at a time. -/
structure CharacterTables where
  isalnum : Char → Bool
  upper : Char → List Char

/-- What `MessageService` asks others for. -/
structure MessageServices where
  characters : CharacterTables
  /-- The id of the agent that `get_by_name` finds. -/
  getByName : String → String → Option String
  /-- `_actor_has_permission(actor, "message:broadcast")` -/
  mayBroadcast : String → Bool
  /-- `_enforce_broadcast_rate_limit` raises. -/
  overBroadcastLimit : String → Bool
  /-- The ids of the agents that subscribe to the broadcasts of a namespace. -/
  getSubscribers : String → List String
  /-- `_generate_ulid` -/
  newId : Nat → String
  isoformat : Time → String

inductive MessageError where
  | broadcastDenied (message : String)
  | capExceeded
  | agentNotFound
  | messageNotFound
  | hopLimitExceeded (messageId : String) (hopCount : Int)
  -- A primary key that is taken.
  | integrity

def MessageError.message : MessageError → String
  | .broadcastDenied message => message
  | .capExceeded => "broadcast subscriber cap exceeded"
  | .agentNotFound => "Agent not found"
  | .messageNotFound => "message not found"
  | .hopLimitExceeded messageId hopCount =>
      "Message " ++ messageId ++ " exceeded max hops (" ++ toString hopCount ++ ")"
  | .integrity => "duplicate key value violates unique constraint"

/-! ### `MessageRouter` -/

def AgentMessage.withStatus (status : MessageStatus) (message : AgentMessage) : AgentMessage :=
  { message with status }

theorem id_withStatus (status : MessageStatus) (message : AgentMessage) :
    (message.withStatus status).id = message.id := rfl

def AgentMessage.hopAudit (message : AgentMessage) (maxHops : Int) : HopAuditEvent where
  eventType := "message.hop_limit_exceeded"
  actor := message.sender
  resourceType := "agent_message"
  resourceId := message.id
  action := "terminate"
  details := [("hop_count", .int message.hopCount), ("max_hops", .int maxHops)]

def AgentMessage.hopLetter (message : AgentMessage) (maxHops : Int) (at_ : String) :
    DeadLetterRecord where
  eventType := "agent_message"
  eventPayload :=
    [("source_type", .str "agent_message"), ("message_id", .str message.id),
     ("hop_count", .int message.hopCount), ("max_hops", .int maxHops), ("at", .str at_)]
  errorMessage := "message hop limit exceeded"
  errorCategory := "permanent"
  status := "PENDING"

section

variable (maxHops : Int) (services : MessageServices) (now : Time)

/-- `_mark_hop_limit_exceeded`: its session sees the rows that are committed. -/
def markHopLimitExceeded (message : AgentMessage) (store : MessageStore) : MessageStore where
  messages := store.messages.changeAt message.id (AgentMessage.withStatus .hopLimitExceeded)
    (id_withStatus _)
  audit := store.audit ++ [message.hopAudit maxHops]
  deadLetters := store.deadLetters ++ [message.hopLetter maxHops (services.isoformat now)]

/-- `route` -/
def route (message : AgentMessage) (store : MessageStore) :
    Except MessageError Unit × MessageStore :=
  if maxHops ≤ message.hopCount then
    (.error (.hopLimitExceeded message.id message.hopCount),
      markHopLimitExceeded maxHops services now message store)
  else (.ok (), store)

end

/-! ### `send` -/

structure SendRequest where
  actor : String
  namespaceName : String
  messageType : String
  content : Value
  recipient : Option String := none
  topic : Option String := none
  priority : String := "NORMAL"
  ttlSeconds : Int := 3600
  conversationId : Option String := none
  hopCount : Int := 0
  parentMessageId : Option String := none

section

variable (services : MessageServices) (now : Time)

/-- `recipient` is spelt like an id. -/
def CharacterTables.isId (characters : CharacterTables) (recipient : String) : Bool :=
  recipient.length = 26 && recipient.toList.all characters.isalnum &&
    recipient.toList.flatMap characters.upper = recipient.toList

/-- `_resolve_recipient_id` -/
def resolveRecipientId (recipient namespaceName : String) : Except MessageError String :=
  if services.characters.isId recipient then .ok recipient
  else
    match services.getByName recipient namespaceName with
    | none => .error .agentNotFound
    | some agentId => .ok agentId

def SendRequest.row (request : SendRequest) (k : Nat) (recipient topic : Option String) :
    AgentMessage where
  id := services.newId k
  conversationId := request.conversationId.getD ""
  sender := request.actor
  recipient
  topic
  messageType := request.messageType
  content := request.content
  metadata := [("namespace", .str request.namespaceName)]
  priority := request.priority
  status := .pending
  ttlSeconds := request.ttlSeconds
  hopCount := request.hopCount
  parentMessageId := request.parentMessageId
  expiresAt := some (now + request.ttlSeconds * 1000000)
  deliveredAt := none
  ackedAt := none
  createdAt := now

def truthy (text : Option String) : Bool := text.any fun text => text ≠ ""

/-- The rows that `send` is about to add, with the status that they get at the end. -/
def SendRequest.rows (request : SendRequest) : Except MessageError (List AgentMessage × MessageStatus) :=
  if request.messageType = "BROADCAST" then
    if !services.mayBroadcast request.actor then
      .error (.broadcastDenied "message:broadcast permission required")
    else if services.overBroadcastLimit request.actor then
      .error (.broadcastDenied "broadcast rate limit exceeded")
    else if (services.getSubscribers request.namespaceName).length > 50 then .error .capExceeded
    else
      .ok ((services.getSubscribers request.namespaceName).mapIdx fun k agentId =>
        request.row services now k (some agentId) (some "__broadcast__"), .delivered)
  else
    match request.recipient with
    | none =>
        .ok ([request.row services now 0 none request.topic],
          if truthy request.topic then .delivered else .pending)
    | some recipient =>
        match resolveRecipientId services recipient request.namespaceName with
        | .error error => .error error
        | .ok recipientId =>
            .ok ([request.row services now 0 (some recipientId) request.topic],
              if truthy (some recipientId) || truthy request.topic then .delivered else .pending)

variable (maxHops : Int)

/-- The rows are added, flushed and routed one after another: the table of the transaction, and
the store that others see. -/
def addRows : List AgentMessage → Keyed AgentMessage.id → MessageStore →
    Except MessageError (Keyed AgentMessage.id) × MessageStore
  | [], table, store => (.ok table, store)
  | row :: rest, table, store =>
      if (table.get? row.id).isSome then (.error .integrity, store)
      else
        match route maxHops services now row store with
        | (.error error, store) => (.error error, store)
        | (.ok (), store) => addRows rest (table.insert row) store

/-- `send`: its result, and what is committed. -/
def send (request : SendRequest) (store : MessageStore) :
    Except MessageError (List AgentMessage) × MessageStore :=
  match request.rows services now with
  | .error error => (.error error, store)
  | .ok (rows, status) =>
      let final := rows.map (AgentMessage.withStatus status)
      match addRows services now maxHops rows store.messages store with
      | (.error error, store) => (.error error, store)
      | (.ok _, store) =>
          (.ok final, { store with messages := final.foldl Keyed.insert store.messages })

/-- `get_for_actor` -/
def getForActor (actor messageId : String) (store : MessageStore) :
    Except MessageError AgentMessage :=
  match store.messages.get? messageId with
  | none => .error .messageNotFound
  | some row =>
      if row.sender ≠ actor ∧ row.recipient ≠ some actor then .error .messageNotFound else .ok row

/-- `str(parent.metadata_.get("namespace", "default"))` -/
def AgentMessage.namespaceName (message : AgentMessage) : String :=
  configuredStr message.metadata "namespace" "default"

/-- What `reply` sends. -/
def AgentMessage.replyRequest (parent : AgentMessage) (actor : String) (content : Value)
    (messageType : String) : SendRequest where
  actor
  namespaceName := parent.namespaceName
  messageType
  content
  recipient := some parent.sender
  conversationId := some parent.conversationId
  hopCount := parent.hopCount + 1
  parentMessageId := some parent.id

/-- `reply` -/
def reply (actor messageId : String) (content : Value) (messageType : String)
    (store : MessageStore) : Except MessageError (List AgentMessage) × MessageStore :=
  match getForActor actor messageId store with
  | .error error => (.error error, store)
  | .ok parent => send services now maxHops (parent.replyRequest actor content messageType) store

/-- What `relay` sends. -/
def AgentMessage.relayRequest (message : AgentMessage) : SendRequest where
  actor := message.sender
  namespaceName := message.namespaceName
  messageType := message.messageType
  content := message.content
  recipient := message.recipient
  topic := message.topic
  priority := message.priority
  ttlSeconds := message.ttlSeconds
  conversationId := some message.conversationId
  hopCount := message.hopCount + 1
  parentMessageId := some message.id

/-- `relay` -/
def relay (message : AgentMessage) (store : MessageStore) :
    Except MessageError (List AgentMessage) × MessageStore :=
  send services now maxHops message.relayRequest store

end

/-! ### Lists -/

/-- `list_for_actor` -/
def listForActor (actor : String) (limit : Nat) (messages : List AgentMessage) :
    List AgentMessage :=
  (sortBy (fun message => -message.createdAt) (messages.filter fun message =>
    message.sender = actor || message.recipient = some actor)).take limit

/-- `pending_messages` -/
def pendingMessages (now : Time) (limit : Nat) (messages : List AgentMessage) : List AgentMessage :=
  (sortBy AgentMessage.createdAt (messages.filter fun message =>
    message.status = .pending && message.expiresAt.any fun at_ => now < at_)).take limit

/-- `delivered_responses` -/
def deliveredResponses (now : Time) (limit : Nat) (messages : List AgentMessage) :
    List AgentMessage :=
  (sortBy AgentMessage.createdAt (messages.filter fun message =>
    message.messageType = "RESPONSE" && message.status = .delivered &&
      message.expiresAt.any fun at_ => now < at_)).take limit

/-! ### What `send` comes to -/

section

variable {services : MessageServices} {now : Time} {maxHops : Int} {request : SendRequest}
  {rows : List AgentMessage} {status : MessageStatus}

theorem mem_rows (made : request.rows services now = .ok (rows, status)) :
    ∀ row ∈ rows, ∃ k recipient topic, row = request.row services now k recipient topic := by
  intro row member
  unfold SendRequest.rows at made
  split at made
  · split_ifs at made
    obtain ⟨rfl, -⟩ := Prod.mk.inj (Except.ok.inj made)
    obtain ⟨k, inside, rfl⟩ := List.mem_mapIdx.mp member
    exact ⟨k, _, _, rfl⟩
  · split at made
    · obtain ⟨rfl, -⟩ := Prod.mk.inj (Except.ok.inj made)
      exact ⟨0, _, _, List.mem_singleton.mp member⟩
    · split at made
      · cases made
      · obtain ⟨rfl, -⟩ := Prod.mk.inj (Except.ok.inj made)
        exact ⟨0, _, _, List.mem_singleton.mp member⟩

theorem status_rows (made : request.rows services now = .ok (rows, status)) :
    status = .pending ∨ status = .delivered := by
  unfold SendRequest.rows at made
  split at made
  · split_ifs at made
    exact .inr (Prod.mk.inj (Except.ok.inj made)).2.symm
  · split at made
    · obtain ⟨-, rfl⟩ := Prod.mk.inj (Except.ok.inj made)
      split
      · exact .inr rfl
      · exact .inl rfl
    · split at made
      · cases made
      · obtain ⟨-, rfl⟩ := Prod.mk.inj (Except.ok.inj made)
        split
        · exact .inr rfl
        · exact .inl rfl

theorem addRows_within (within : ∀ row ∈ rows, row.hopCount < maxHops)
    (table : Keyed AgentMessage.id) (store : MessageStore) :
    (∃ later, addRows services now maxHops rows table store = (.ok later, store)) ∨
      addRows services now maxHops rows table store = (.error .integrity, store) := by
  induction rows generalizing table with
  | nil => exact .inl ⟨table, rfl⟩
  | cons row rest ih =>
      have passes : route maxHops services now row store = (.ok (), store) :=
        if_neg (Int.not_le.mpr (within row List.mem_cons_self))
      rw [addRows, passes]
      split
      · exact .inr rfl
      · exact ih (fun other member => within other (List.mem_cons_of_mem row member))
          (table.insert row)

theorem addRows_over {row : AgentMessage} (excess : maxHops ≤ row.hopCount) (store : MessageStore)
    (fresh : store.messages.get? row.id = none) (rest : List AgentMessage) :
    addRows services now maxHops (row :: rest) store.messages store =
      (.error (.hopLimitExceeded row.id row.hopCount),
        { store with
          audit := store.audit ++ [row.hopAudit maxHops]
          deadLetters := store.deadLetters ++
            [row.hopLetter maxHops (services.isoformat now)] }) := by
  have stops : route maxHops services now row store = (.error _, _) := if_pos excess
  rw [addRows, stops, fresh]
  unfold markHopLimitExceeded
  rw [Keyed.changeAt_of_none _ _ fresh]
  rfl

def SendRequest.Routes (services : MessageServices) (now : Time) (request : SendRequest)
    (store : MessageStore) (row : AgentMessage) : Prop :=
  ∃ rest status, request.rows services now = .ok (row :: rest, status) ∧
    store.messages.get? row.id = none

/-- The ways of `send`: it stores its rows, it is refused and leaves the store as it was, or a row is
over the limit and nothing is stored but for the audit event and the dead letter. -/
theorem send_cases (services : MessageServices) (now : Time) (maxHops : Int) (request : SendRequest)
    (store : MessageStore) :
    (∃ rows status, request.rows services now = .ok (rows, status) ∧
      (∀ row ∈ rows, row.hopCount < maxHops) ∧
      send services now maxHops request store =
        (.ok (rows.map (AgentMessage.withStatus status)),
          { store with
            messages := (rows.map (AgentMessage.withStatus status)).foldl Keyed.insert
              store.messages })) ∨
    (∃ error, (∀ messageId hopCount, error ≠ .hopLimitExceeded messageId hopCount) ∧
      send services now maxHops request store = (.error error, store)) ∨
    ∃ row, request.Routes services now store row ∧ maxHops ≤ row.hopCount ∧
      send services now maxHops request store =
        (.error (.hopLimitExceeded row.id row.hopCount),
          { store with
            audit := store.audit ++ [row.hopAudit maxHops]
            deadLetters := store.deadLetters ++
              [row.hopLetter maxHops (services.isoformat now)] }) := by
  unfold send
  cases made : request.rows services now with
  | error error =>
      refine .inr (.inl ⟨error, ?_, rfl⟩)
      intro messageId hopCount
      rintro rfl
      unfold SendRequest.rows at made
      split at made
      · split_ifs at made <;> cases made
      · split at made
        · cases made
        · split at made
          · next refused =>
              obtain rfl := Except.error.inj made
              unfold resolveRecipientId at refused
              split at refused
              · cases refused
              · split at refused <;> cases refused
          · cases made
  | ok both =>
      obtain ⟨rows, status⟩ := both
      dsimp only
      have level : ∀ row ∈ rows, row.hopCount = request.hopCount := by
        intro row member
        obtain ⟨k, recipient, topic, rfl⟩ := mem_rows made row member
        rfl
      by_cases within : request.hopCount < maxHops
      · have all : ∀ row ∈ rows, row.hopCount < maxHops := fun row member => by
          rw [level row member]
          exact within
        cases addRows_within all store.messages store with
        | inl stored =>
            obtain ⟨later, stored⟩ := stored
            rw [stored]
            exact .inl ⟨rows, status, rfl, all, rfl⟩
        | inr refused =>
            rw [refused]
            exact .inr (.inl ⟨.integrity, nofun, rfl⟩)
      · cases rows with
        | nil =>
            have none : ∀ row ∈ ([] : List AgentMessage), row.hopCount < maxHops := by
              intro row member
              cases member
            exact .inl ⟨[], status, rfl, none, rfl⟩
        | cons row rest =>
            have excess : maxHops ≤ row.hopCount := by
              rw [level row List.mem_cons_self]
              exact Int.not_lt.mp within
            cases fresh : store.messages.get? row.id with
            | none =>
                rw [addRows_over excess store fresh rest]
                exact .inr (.inr ⟨row, ⟨rest, status, made, fresh⟩, excess, rfl⟩)
            | some taken =>
                have refused : addRows services now maxHops (row :: rest) store.messages store =
                    (.error .integrity, store) := by
                  rw [addRows, fresh]
                  rfl
                rw [refused]
                exact .inr (.inl ⟨.integrity, nofun, rfl⟩)

theorem mem_inserted {added : List AgentMessage} {table : Keyed AgentMessage.id}
    {message : AgentMessage} (member : message ∈ (added.foldl Keyed.insert table).rows) :
    message ∈ table.rows ∨ message ∈ added := by
  induction added generalizing table with
  | nil => exact .inl member
  | cons row rest ih =>
      cases ih member with
      | inl before =>
          cases Keyed.mem_insert before with
          | inl stored => exact .inl stored
          | inr last => exact .inr (last ▸ List.mem_cons_self)
      | inr later => exact .inr (List.mem_cons_of_mem row later)

theorem mem_inserted_of_mem {table : Keyed AgentMessage.id} {message : AgentMessage}
    (member : message ∈ table.rows) (added : List AgentMessage) :
    message ∈ (added.foldl Keyed.insert table).rows := by
  induction added generalizing table with
  | nil => exact member
  | cons row rest ih => exact ih (Keyed.mem_insert_of_mem member row)

end

end SyndicateClaw.Services
