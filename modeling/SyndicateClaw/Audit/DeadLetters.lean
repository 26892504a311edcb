import SyndicateClaw.Async.History
import SyndicateClaw.Authz.Evaluator
import SyndicateClaw.Data.Keyed
import SyndicateClaw.Orchestrator.Value

/-! `AuditService.emit` and the queue of the events that it could not store. -/

namespace SyndicateClaw.Audit

open Authz (Time)
open Orchestrator

structure AuditEvent where
  id : String
  eventType : String
  actor : String
  resourceType : String
  resourceId : String
  action : String
  details : State := []
  deriving DecidableEq

inductive DeadLetterStatus where
  | pending | retried | failedPermanent | discarded | resolved
  deriving DecidableEq

inductive ErrorCategory where
  | transient | permanent
  deriving DecidableEq

/-- A row of `dead_letter_records`; it is known by its place. -/
structure DeadLetterRecord where
  eventType : String
  eventPayload : AuditEvent
  errorMessage : String
  errorCategory : ErrorCategory
  status : DeadLetterStatus
  retryCount : Nat
  maxRetries : Nat
  lastRetryAt : Option Time := none
  resolvedAt : Option Time := none
  resolvedBy : Option String := none
  deriving DecidableEq

abbrev EventTable := Keyed AuditEvent.id

structure AuditStore where
  events : EventTable
  letters : List DeadLetterRecord

inductive TxEnding where
  | passes
  | fails (error : String)
  -- It is committed, and the caller is told that it was not.
  | lost (error : String)
  deriving DecidableEq

namespace TxEnding

def commits : TxEnding → Bool
  | .passes | .lost _ => true
  | .fails _ => false

def error : TxEnding → Option String
  | .passes => none
  | .fails error | .lost error => some error

@[simp] theorem commits_passes : passes.commits = true := rfl

@[simp] theorem commits_fails (error : String) : (fails error).commits = false := rfl

@[simp] theorem commits_lost (error : String) : (lost error).commits = true := rfl

@[simp] theorem error_passes : passes.error = none := rfl

@[simp] theorem error_fails (text : String) : (fails text).error = some text := rfl

@[simp] theorem error_lost (text : String) : (lost text).error = some text := rfl

end TxEnding

/-- `_classify_error` -/
def classifyError (error : String) : ErrorCategory :=
  let indicators :=
    ["validation", "schema", "invalid", "malformed", "permission", "forbidden", "not found"]
  if indicators.any fun indicator => decide (indicator.toList <:+: error.toLower.toList) then
    .permanent
  else .transient

/-! ### Emitting -/

structure AuditService where
  -- `sign_record`, where there is a key.
  sign : State → State := id

/-- The transactions of one `emit`: of the event, whose error is `conflict` where the id is taken, and of
the dead letter. -/
structure EmitEndings where
  insert : TxEnding
  conflict : String
  enqueue : TxEnding

def deadLetter (event : AuditEvent) (error : String) : DeadLetterRecord where
  eventType := event.eventType
  eventPayload := event
  errorMessage := error
  errorCategory := classifyError error
  status := .pending
  retryCount := 0
  maxRetries := if classifyError error = .transient then 3 else 0

namespace AuditStore

variable (store : AuditStore)

def append (row : AuditEvent) (ending : TxEnding) (conflict : String) : AuditStore × Option String :=
  match store.events.get? row.id with
  | some _ => (store, some (ending.error.getD conflict))
  | none =>
      (if ending.commits then { store with events := store.events.insert row } else store,
        ending.error)

/-- `enqueue` -/
def enqueue (event : AuditEvent) (error : String) (ending : TxEnding) : AuditStore × Option String :=
  (if ending.commits then { store with letters := store.letters ++ [deadLetter event error] }
    else store, ending.error)

def changeLetter (place : Nat) (change : DeadLetterRecord → DeadLetterRecord) (ending : TxEnding) :
    AuditStore × Option String :=
  (if ending.commits then { store with letters := store.letters.modify place change } else store,
    ending.error)

end AuditStore

namespace AuditService

variable (service : AuditService)

def rowOf (event : AuditEvent) : AuditEvent := { event with details := service.sign event.details }

/-- `emit`, with the queue that is wired to it. -/
def emit (store : AuditStore) (event : AuditEvent) (endings : EmitEndings) :
    AuditStore × Except String AuditEvent :=
  match store.append (service.rowOf event) endings.insert endings.conflict with
  | (stored, none) => (stored, .ok event)
  | (stored, some error) =>
      match stored.enqueue event error endings.enqueue with
      | (queued, none) => (queued, .ok event)
      | (queued, some failure) => (queued, .error failure)

end AuditService

/-! ### Retrying -/

/-- The transactions for one letter: that it has no retries left, the `emit`, that it is resolved, and
that it was tried again. -/
structure RetryEndings where
  exhaust : TxEnding
  emit : EmitEndings
  resolve : TxEnding
  count : TxEnding

namespace DeadLetterRecord

variable (letter : DeadLetterRecord)

def exhausted : DeadLetterRecord :=
  { letter with
    status := .failedPermanent
    errorMessage := letter.errorMessage ++ " | max retries exhausted" }

def resolved (now : Time) : DeadLetterRecord :=
  { letter with status := .resolved, resolvedAt := some now, resolvedBy := some "system:dlq_retry" }

def counted (now : Time) (error : String) : DeadLetterRecord :=
  { letter with
    retryCount := letter.retryCount + 1
    lastRetryAt := some now
    errorMessage :=
      letter.errorMessage ++ " | retry_" ++ toString (letter.retryCount + 1) ++ ": " ++ error }

/-- The letters that `retry_all` selects. -/
def eligible : Bool := letter.status = .pending && letter.errorCategory = .transient

end DeadLetterRecord

/-- What has become of the letters so far: the ids of the events that were tried, the count of those
that are said to be stored, and the error that ends it. -/
structure RetryOutcome where
  store : AuditStore
  tried : List String := []
  retried : Nat := 0
  raised : Option String := none

variable (service : AuditService) (now : Time)

/-- The `except` branch. -/
def countRetry (store : AuditStore) (place : Nat) (error : String) (ending : TxEnding) :
    AuditStore × Option String :=
  store.changeLetter place (·.counted now error) ending

/-- The rest of a turn, once `emit` has returned. -/
def resolveRetry (emitted : AuditStore) (place : Nat) (eventId : String) (endings : RetryEndings) :
    RetryOutcome :=
  match emitted.changeLetter place (·.resolved now) endings.resolve with
  | (changed, none) => { store := changed, tried := [eventId], retried := 1 }
  | (changed, some error) =>
      let counted := countRetry now changed place error endings.count
      { store := counted.1, tried := [eventId], retried := 1, raised := counted.2 }

/-- One turn of the loop, for a letter as it was selected. -/
def retryLetter (store : AuditStore) (place : Nat) (letter : DeadLetterRecord)
    (endings : RetryEndings) : RetryOutcome :=
  if letter.maxRetries ≤ letter.retryCount then
    let changed := store.changeLetter place DeadLetterRecord.exhausted endings.exhaust
    { store := changed.1, raised := changed.2 }
  else
    let event := letter.eventPayload
    match service.emit store event endings.emit with
    | (emitted, .error error) =>
        let counted := countRetry now emitted place error endings.count
        { store := counted.1, tried := [event.id], raised := counted.2 }
    | (emitted, .ok _) => resolveRetry now emitted place event.id endings

def retryLoop (endings : Nat → RetryEndings) :
    AuditStore → List (DeadLetterRecord × Nat) → RetryOutcome
  | store, [] => { store }
  | store, (letter, place) :: rest =>
      let turn := retryLetter service now store place letter (endings place)
      match turn.raised with
      | some _ => turn
      | none =>
          let later := retryLoop endings turn.store rest
          { later with tried := turn.tried ++ later.tried, retried := turn.retried + later.retried }

/-- `retry_all`: the letters come in the order in which the database lists them. -/
def retryAll (store : AuditStore) (rank : Nat → Nat) (select : TxEnding)
    (endings : Nat → RetryEndings) : RetryOutcome :=
  match select.error with
  | some error => { store, raised := some error }
  | none =>
      retryLoop service now endings store
        ((store.letters.zipIdx.filter (·.1.eligible)).mergeSort fun a b => rank a.2 ≤ rank b.2)

/-! ### Histories -/

/-- A call, with what becomes of its transactions. -/
inductive AuditCall where
  | emit (event : AuditEvent) (endings : EmitEndings)
  | retryAll (now : Time) (rank : Nat → Nat) (select : TxEnding) (endings : Nat → RetryEndings)

/-- The store, and the ids of the events that were tried again so far. -/
structure AuditHistory where
  store : AuditStore
  tried : List String

def AuditHistory.step (history : AuditHistory) : AuditCall → AuditHistory
  | .emit event endings => { history with store := (service.emit history.store event endings).1 }
  | .retryAll now rank select endings =>
      let outcome := Audit.retryAll service now history.store rank select endings
      { store := outcome.store, tried := history.tried ++ outcome.tried }

def AuditHistory.start (events : EventTable) : AuditHistory where
  store := { events, letters := [] }
  tried := []

/-- The history after the first `n` calls. -/
abbrev AuditHistory.after (history : AuditHistory) (calls : List AuditCall) (n : Nat) : AuditHistory :=
  Async.stateAfter (AuditHistory.step service) history calls n

end SyndicateClaw.Audit
