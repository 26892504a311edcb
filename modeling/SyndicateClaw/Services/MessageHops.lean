import SyndicateClaw.Async.History
import SyndicateClaw.Services.Messages

/-! Forwarding: hop counts, chains of parents, and what a message over the limit leaves behind. -/

namespace SyndicateClaw.Services

open Async
open Authz (Time)
open Orchestrator (Value State)

inductive MessageCall where
  | send (request : SendRequest)
  | reply (actor messageId : String) (content : Value) (messageType : String)
  -- The caller has read the message.
  | relay (messageId : String)

structure MessageOp where
  services : MessageServices
  now : Time
  call : MessageCall

namespace MessageOp

def outcome (maxHops : Int) (op : MessageOp) (store : MessageStore) :
    Except MessageError (List AgentMessage) × MessageStore :=
  match op.call with
  | .send request => send op.services op.now maxHops request store
  | .reply actor messageId content messageType =>
      reply op.services op.now maxHops actor messageId content messageType store
  | .relay messageId =>
      match store.messages.get? messageId with
      | none => (.error .messageNotFound, store)
      | some message => relay op.services op.now maxHops message store

def request (op : MessageOp) (store : MessageStore) : Except MessageError SendRequest :=
  match op.call with
  | .send request => .ok request
  | .reply actor messageId content messageType =>
      match getForActor actor messageId store with
      | .error error => .error error
      | .ok parent => .ok (parent.replyRequest actor content messageType)
  | .relay messageId =>
      match store.messages.get? messageId with
      | none => .error .messageNotFound
      | some message => .ok message.relayRequest

end MessageOp

/-- The store after the first `n` operations. -/
def storeAfter (maxHops : Int) (start : MessageStore) (ops : List MessageOp) (n : Nat) :
    MessageStore :=
  stateAfter (fun store op => (op.outcome maxHops store).2) start ops n

def MessageStore.empty : MessageStore where
  messages := { rows := [], distinct := List.nodup_nil }
  audit := []
  deadLetters := []

structure ParentChain (store : MessageStore) (chain : List AgentMessage) : Prop where
  stored : ∀ message ∈ chain, message ∈ store.messages.rows
  linked : chain.IsChain fun child parent => child.parentMessageId = some parent.id

structure HopsBounded (maxHops : Int) (store : MessageStore) : Prop where
  hops : ∀ message ∈ store.messages.rows,
    message.hopCount < maxHops ∨ message.status = .hopLimitExceeded
  chains : ∀ chain, ParentChain store chain → chain.length ≤ maxHops.toNat

/-- An operation that raises for the hop limit leaves the row that it names, one more audit event and
one more dead letter. -/
def ExcessRecorded (op : MessageOp) (maxHops : Int) (store : MessageStore) : Prop :=
  ∀ messageId hopCount,
    (op.outcome maxHops store).1 = .error (.hopLimitExceeded messageId hopCount) →
    let after := (op.outcome maxHops store).2
    (∃ row, after.messages.get? messageId = some row ∧ row.status = .hopLimitExceeded) ∧
      (∃ event, after.audit = store.audit ++ [event] ∧ event.resourceId = messageId) ∧
      ∃ letter, after.deadLetters = store.deadLetters ++ [letter] ∧
        letter.eventPayload.get? "message_id" = some (.str messageId)

/-- A message that is sent directly names no parent or a stored one that has been forwarded less. -/
def SendRequest.Descends (request : SendRequest) (store : MessageStore) : Prop :=
  0 ≤ request.hopCount ∧ ∀ messageId, request.parentMessageId = some messageId →
    ∃ parent, store.messages.get? messageId = some parent ∧ parent.hopCount < request.hopCount

def MessageOp.Descends (op : MessageOp) (store : MessageStore) : Prop :=
  ∀ request, op.call = .send request → request.Descends store

def MessageOp.OverLimit (op : MessageOp) (maxHops : Int) (store : MessageStore) : Prop :=
  ∃ request row, op.request store = .ok request ∧ request.Routes op.services op.now store row ∧
    maxHops ≤ request.hopCount

section

variable {maxHops : Int} {store : MessageStore} {op : MessageOp}

theorem getForActor_stored {actor messageId : String} {message : AgentMessage}
    (read : getForActor actor messageId store = .ok message) :
    store.messages.get? messageId = some message := by
  unfold getForActor at read
  split at read
  · cases read
  · next found =>
      split at read
      · cases read
      · rw [found, Except.ok.inj read]

theorem getForActor_error {actor messageId : String} {error : MessageError}
    (read : getForActor actor messageId store = .error error) : error = .messageNotFound := by
  unfold getForActor at read
  split at read
  · exact (Except.error.inj read).symm
  · split at read
    · exact (Except.error.inj read).symm
    · cases read

/-- Every operation is a `send`, or finds no message. -/
theorem outcome_eq (maxHops : Int) (op : MessageOp) (store : MessageStore) :
    (∃ request, op.request store = .ok request ∧
      op.outcome maxHops store = send op.services op.now maxHops request store) ∨
    op.request store = .error .messageNotFound ∧
      op.outcome maxHops store = (.error .messageNotFound, store) := by
  obtain ⟨services, now, call⟩ := op
  cases call with
  | send request => exact .inl ⟨request, rfl, rfl⟩
  | reply actor messageId content messageType =>
      unfold MessageOp.outcome MessageOp.request reply
      dsimp only
      cases read : getForActor actor messageId store with
      | error error =>
          rw [getForActor_error read]
          exact .inr ⟨rfl, rfl⟩
      | ok parent => exact .inl ⟨_, rfl, rfl⟩
  | relay messageId =>
      unfold MessageOp.outcome MessageOp.request
      dsimp only
      cases store.messages.get? messageId with
      | none => exact .inr ⟨rfl, rfl⟩
      | some message => exact .inl ⟨_, rfl, rfl⟩

theorem routes_level {services : MessageServices} {now : Time} {request : SendRequest}
    {row : AgentMessage} (routes : request.Routes services now store row) :
    row.hopCount = request.hopCount := by
  obtain ⟨rest, status, made, _⟩ := routes
  obtain ⟨k, recipient, topic, rfl⟩ := mem_rows made row List.mem_cons_self
  rfl

theorem outcome_cases (maxHops : Int) (op : MessageOp) (store : MessageStore) :
    (∃ request rows status, op.request store = .ok request ∧
      request.rows op.services op.now = .ok (rows, status) ∧
      (∀ row ∈ rows, row.hopCount < maxHops) ∧
      op.outcome maxHops store = (.ok (rows.map (AgentMessage.withStatus status)),
        { store with
          messages := (rows.map (AgentMessage.withStatus status)).foldl Keyed.insert
            store.messages })) ∨
    (∃ error, (∀ messageId hopCount, error ≠ .hopLimitExceeded messageId hopCount) ∧
      op.outcome maxHops store = (.error error, store)) ∨
    ∃ row : AgentMessage, op.OverLimit maxHops store ∧ store.messages.get? row.id = none ∧
      op.outcome maxHops store = (.error (.hopLimitExceeded row.id row.hopCount),
        { store with
          audit := store.audit ++ [row.hopAudit maxHops]
          deadLetters := store.deadLetters ++
            [row.hopLetter maxHops (op.services.isoformat op.now)] }) := by
  cases outcome_eq maxHops op store with
  | inl sends =>
      obtain ⟨request, sent, same⟩ := sends
      rw [same]
      rcases send_cases op.services op.now maxHops request store with stored | refused | excess
      · obtain ⟨rows, status, made, within, result⟩ := stored
        exact .inl ⟨request, rows, status, sent, made, within, result⟩
      · exact .inr (.inl refused)
      · obtain ⟨row, routes, limit, result⟩ := excess
        have reached : maxHops ≤ request.hopCount := routes_level routes ▸ limit
        have fresh : store.messages.get? row.id = none := by
          obtain ⟨_, _, _, fresh⟩ := routes
          exact fresh
        exact .inr (.inr ⟨row, ⟨request, row, sent, routes, reached⟩, fresh, result⟩)
  | inr missing => exact .inr (.inl ⟨.messageNotFound, nofun, missing.2⟩)

/-! ### Chains -/

/-- Every stored message is below the limit and farther than its parent, which is stored. -/
structure Grounded (maxHops : Int) (store : MessageStore) : Prop where
  within : ∀ message ∈ store.messages.rows, 0 ≤ message.hopCount ∧ message.hopCount < maxHops
  parents : ∀ child ∈ store.messages.rows, ∀ messageId, child.parentMessageId = some messageId →
    ∃ parent, store.messages.get? messageId = some parent ∧ parent.hopCount < child.hopCount

theorem chain_length_le (grounded : Grounded maxHops store) {child : AgentMessage}
    {chain : List AgentMessage} (parents : ParentChain store (child :: chain)) :
    (chain.length : Int) ≤ child.hopCount := by
  induction chain generalizing child with
  | nil => exact (grounded.within child (parents.stored child List.mem_cons_self)).1
  | cons parent rest ih =>
      have linked := List.isChain_cons_cons.mp parents.linked
      have above : ParentChain store (parent :: rest) :=
        ⟨fun message member => parents.stored message (List.mem_cons_of_mem child member),
          linked.2⟩
      obtain ⟨named, found, less⟩ := grounded.parents child
        (parents.stored child List.mem_cons_self) parent.id linked.1
      have same : store.messages.get? parent.id = some parent :=
        Keyed.get?_of_mem (above.stored parent List.mem_cons_self)
      obtain rfl : named = parent := Option.some.inj (found.symm.trans same)
      have shorter := ih above
      rw [List.length_cons]
      omega

theorem Grounded.bounded (grounded : Grounded maxHops store) : HopsBounded maxHops store where
  hops message stored := .inl (grounded.within message stored).2
  chains chain parents := by
    cases chain with
    | nil => exact Nat.zero_le _
    | cons child rest =>
        have bounds := grounded.within child (parents.stored child List.mem_cons_self)
        have length := chain_length_le grounded parents
        rw [List.length_cons]
        omega

theorem request_descends (grounded : Grounded maxHops store) (descends : op.Descends store)
    {request : SendRequest} (sent : op.request store = .ok request) : request.Descends store := by
  have farther : ∀ messageId message, store.messages.get? messageId = some message →
      0 ≤ message.hopCount + 1 ∧ ∀ other, some message.id = some other →
        ∃ parent, store.messages.get? other = some parent ∧
          parent.hopCount < message.hopCount + 1 := by
    intro messageId message found
    obtain ⟨member, rfl⟩ := Keyed.get?_eq_some.mp found
    constructor
    · have := (grounded.within message member).1
      omega
    · intro other same
      obtain rfl := Option.some.inj same
      exact ⟨message, found, Int.lt_succ _⟩
  unfold MessageOp.request at sent
  split at sent
  · next direct =>
      obtain rfl := Except.ok.inj sent
      exact descends _ direct
  · split at sent
    · cases sent
    · next parent read =>
        obtain rfl := Except.ok.inj sent
        exact farther _ parent (getForActor_stored read)
  · split at sent
    · cases sent
    · next message found =>
        obtain rfl := Except.ok.inj sent
        exact farther _ message found

theorem grounded_outcome (grounded : Grounded maxHops store) (descends : op.Descends store) :
    Grounded maxHops (op.outcome maxHops store).2 := by
  rcases outcome_cases maxHops op store with stored | refused | excess
  · obtain ⟨request, rows, status, sent, made, within, result⟩ := stored
    have descent := request_descends grounded descends sent
    rw [result]
    have added : ∀ message ∈ rows.map (AgentMessage.withStatus status),
        message.hopCount = request.hopCount ∧ message.hopCount < maxHops ∧
          message.parentMessageId = request.parentMessageId := by
      intro message member
      obtain ⟨row, inside, rfl⟩ := List.mem_map.mp member
      have below : row.hopCount < maxHops := within row inside
      obtain ⟨k, recipient, topic, rfl⟩ := mem_rows made row inside
      exact ⟨rfl, below, rfl⟩
    constructor
    · intro message member
      cases mem_inserted member with
      | inl before => exact grounded.within message before
      | inr new =>
          obtain ⟨level, below, _⟩ := added message new
          exact ⟨level ▸ descent.1, below⟩
    · intro child member messageId named
      have parent : ∃ parent, store.messages.get? messageId = some parent ∧
          parent.hopCount < child.hopCount := by
        cases mem_inserted member with
        | inl before => exact grounded.parents child before messageId named
        | inr new =>
            obtain ⟨level, _, same⟩ := added child new
            rw [level]
            exact descent.2 messageId (same ▸ named)
      obtain ⟨parent, found, less⟩ := parent
      obtain ⟨there, rfl⟩ := Keyed.get?_eq_some.mp found
      exact ⟨parent, Keyed.get?_of_mem (mem_inserted_of_mem there _), less⟩
  · obtain ⟨error, _, result⟩ := refused
    rwa [result]
  · obtain ⟨row, _, _, result⟩ := excess
    rw [result]
    exact ⟨grounded.within, grounded.parents⟩

end

section

variable {maxHops : Int} {ops : List MessageOp}

theorem grounded_after (descend : ∀ (n : Nat) (op : MessageOp), ops[n]? = some op →
      op.Descends (storeAfter maxHops .empty ops n)) (n : Nat) :
    Grounded maxHops (storeAfter maxHops .empty ops n) := by
  apply stateAfter_invariant _ _ ops (Grounded maxHops)
  · constructor
    · intro message none
      cases none
    · intro child none
      cases none
  · intro k op present grounded
    exact grounded_outcome grounded (descend k op present)

/-- The mark is made in a transaction that does not see the row. -/
theorem recorded_iff (op : MessageOp) (store : MessageStore) :
    ExcessRecorded op maxHops store ↔ ¬ op.OverLimit maxHops store := by
  constructor
  · intro recorded overLimit
    rcases outcome_cases maxHops op store with stored | refused | excess
    · obtain ⟨request, rows, status, sent, made, within, _⟩ := stored
      obtain ⟨other, row, sent', ⟨rest, status', made', _⟩, limit⟩ := overLimit
      obtain rfl := Except.ok.inj (sent.symm.trans sent')
      obtain ⟨rfl, -⟩ := Prod.mk.inj (Except.ok.inj (made.symm.trans made'))
      have below := within row List.mem_cons_self
      obtain ⟨k, recipient, topic, rfl⟩ := mem_rows made row List.mem_cons_self
      exact Int.not_lt.mpr limit below
    · obtain ⟨error, other, result⟩ := refused
      obtain ⟨request, row, sent, routes, limit⟩ := overLimit
      cases outcome_eq maxHops op store with
      | inr missing =>
          rw [missing.1] at sent
          cases sent
      | inl sends =>
          obtain ⟨_, sent', same⟩ := sends
          obtain rfl := Except.ok.inj (sent.symm.trans sent')
          obtain ⟨rest, status, made, fresh⟩ := routes
          have reached : maxHops ≤ row.hopCount := by
            rw [routes_level ⟨rest, status, made, fresh⟩]
            exact limit
          unfold send at same
          rw [made] at same
          dsimp only at same
          rw [addRows_over reached store fresh rest, result] at same
          exact other _ _ (Except.error.inj (Prod.mk.inj same).1)
    · obtain ⟨row, _, fresh, result⟩ := excess
      obtain ⟨⟨marked, there, _⟩, _⟩ := recorded row.id row.hopCount (by rw [result])
      rw [result] at there
      rw [fresh] at there
      cases there
  · intro within messageId hopCount raised
    rcases outcome_cases maxHops op store with stored | refused | excess
    · obtain ⟨_, _, _, _, _, _, result⟩ := stored
      rw [result] at raised
      cases raised
    · obtain ⟨error, other, result⟩ := refused
      rw [result] at raised
      exact absurd (Except.error.inj raised) (other messageId hopCount)
    · obtain ⟨_, overLimit, _⟩ := excess
      exact absurd overLimit within

/-- Forwarding is bounded, and what is over the limit is recorded exactly where nothing is. -/
theorem hops_recorded_iff (descend : ∀ (n : Nat) (op : MessageOp), ops[n]? = some op →
      op.Descends (storeAfter maxHops .empty ops n)) :
    ((∀ n, HopsBounded maxHops (storeAfter maxHops .empty ops n)) ∧
      ∀ (n : Nat) (op : MessageOp), ops[n]? = some op →
        ExcessRecorded op maxHops (storeAfter maxHops .empty ops n)) ↔
    ∀ (n : Nat) (op : MessageOp), ops[n]? = some op →
      ¬ op.OverLimit maxHops (storeAfter maxHops .empty ops n) := by
  constructor
  · intro kept n op present
    exact (recorded_iff op _).mp (kept.2 n op present)
  · intro within
    constructor
    · intro n
      exact (grounded_after descend n).bounded
    · intro n op present
      exact (recorded_iff op _).mpr (within n op present)

end

section

def quietServices (id : String) : MessageServices where
  characters := { isalnum := Char.isAlphanum, upper := fun character => [character.toUpper] }
  getByName _ _ := none
  mayBroadcast _ := false
  overBroadcastLimit _ := false
  getSubscribers _ := []
  newId _ := id
  isoformat _ := "2026-03-01T00:00:00+00:00"

/-- A message to an agent with `hops` behind it. -/
def directMessage (id : String) (hops : Int) : MessageOp where
  services := quietServices id
  now := 0
  call := .send
    { actor := "01HZAGENTA0000000000000000", namespaceName := "default", messageType := "DIRECT"
      content := .dict [], recipient := some "01HZAGENTB0000000000000000", hopCount := hops }

def answer (id messageId : String) : MessageOp where
  services := quietServices id
  now := 1
  call := .reply "01HZAGENTB0000000000000000" messageId (.dict []) "RESPONSE"

theorem hops_recorded_answered :
    (∀ n, HopsBounded 10 (storeAfter 10 .empty [directMessage "m1" 0, answer "m2" "m1"] n)) ∧
      ∀ (n : Nat) (op : MessageOp), [directMessage "m1" 0, answer "m2" "m1"][n]? = some op →
        ExcessRecorded op 10 (storeAfter 10 .empty [directMessage "m1" 0, answer "m2" "m1"] n) := by
  apply (hops_recorded_iff ?descend).mpr
  case descend =>
    intro n op present request direct
    match n with
    | 0 =>
        obtain rfl := Option.some.inj present
        obtain rfl := MessageCall.send.inj direct
        exact ⟨by decide, nofun⟩
    | 1 =>
        obtain rfl := Option.some.inj present
        cases direct
    | n + 2 => cases present
  intro n op present overLimit
  obtain ⟨request, row, sent, _, limit⟩ := overLimit
  match n with
  | 0 =>
      obtain rfl := Option.some.inj present
      obtain rfl := Except.ok.inj sent
      revert limit
      decide
  | 1 =>
      obtain rfl := Option.some.inj present
      have one : ((answer "m2" "m1").request (storeAfter 10 .empty
          [directMessage "m1" 0, answer "m2" "m1"] 1)).toOption.map SendRequest.hopCount =
          some 1 := by decide
      rw [sent] at one
      have same : request.hopCount = 1 := Option.some.inj one
      rw [same] at limit
      revert limit
      decide
  | n + 2 => cases present

/-- The tenth hop: the row is rolled back, and the audit event and the dead letter name no message. -/
theorem excess_unrecorded :
    ¬ ExcessRecorded (directMessage "m1" 10) 10 (storeAfter 10 .empty [directMessage "m1" 10] 0) := by
  intro recorded
  have none : ((directMessage "m1" 10).outcome 10 .empty).2.messages.get? "m1" = none := by decide
  have raises : ((directMessage "m1" 10).outcome 10 .empty).1 =
      .error (.hopLimitExceeded "m1" 10) := by
    unfold MessageOp.outcome
    rfl
  obtain ⟨⟨row, found, _⟩, _⟩ := recorded "m1" 10 raises
  exact absurd (none.symm.trans found) nofun

end

end SyndicateClaw.Services
