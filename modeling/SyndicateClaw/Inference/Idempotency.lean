import SyndicateClaw.Async.Crew
import SyndicateClaw.Async.RowLock
import SyndicateClaw.Authz.Evaluator
import SyndicateClaw.Data.Json

/-! Calls with one idempotency key: `IdempotencyStore` and the calls of `ProviderService` around it.

`infer_chat` and `infer_embedding` go through the same steps, and both are calls here. A step is a
command of a transaction, its end, or what happens between transactions; any call may make its
next one, and any may end in between. -/

namespace SyndicateClaw.Inference

open Async Authz

/-! ### Envelopes -/

inductive EnvelopeStatus where
  | pending
  | executing
  | completed
  | failed
  | timedOut
  deriving DecidableEq

abbrev Result := Dict Text Json

/-- The row of a key in `inference_request_envelopes`. -/
structure Envelope where
  requestHash : String
  inferenceId : String
  status : EnvelopeStatus
  failureReason : Option String
  resultJson : Option Result
  lastSeenAt : Time
  updatedAt : Time

def staleFailureReason : String := "stale_in_progress"

def EnvelopeStatus.inProgress (status : EnvelopeStatus) : Bool :=
  status = .pending || status = .executing

/-- What the sweep of `acquire` looks for. -/
def Envelope.stale (row : Envelope) (cutoff : Time) : Bool :=
  row.status.inProgress && row.updatedAt < cutoff

def Envelope.sweep (row : Envelope) (now : Time) : Envelope :=
  { row with status := .failed, failureReason := some staleFailureReason, updatedAt := now }

/-- An exception of `_infer_chat_execute`. -/
structure ExecutionError where
  detail : String
  errorType : String

/-- The `result_json` of a failure. -/
def ExecutionError.result (error : ExecutionError) : Result :=
  [(String.text "_failed", .bool true), (String.text "detail", .str (String.text error.detail)),
    (String.text "error_type", .str (String.text error.errorType))]

/-- `model_dump` of a response, by its other fields. -/
def responseDump (inferenceId : String) (fields : Result) : Result :=
  (String.text "inference_id", .str (String.text inferenceId)) :: fields

def truthyJson : Json → Bool
  | .null => false
  | .bool b => b
  | .int i => i ≠ 0
  | .float repr => repr ≠ "0.0".toList && repr ≠ "-0.0".toList
  | .str text => !text.isEmpty
  | .arr items => !items.isEmpty
  | .obj entries => !entries.isEmpty

/-- `row.result_json and row.result_json.get("_failed")`. -/
def Envelope.hasFailed (row : Envelope) : Bool :=
  row.resultJson.any fun result =>
    !result.isEmpty && (Dict.get? result (String.text "_failed")).any truthyJson

/-- `row.result_json` is neither `None` nor empty. -/
def Envelope.hasResult (row : Envelope) : Bool := row.resultJson.any fun result => !result.isEmpty

/-! ### Calls -/

structure Call where
  requestHash : String
  /-- The identifier it would give a new envelope. -/
  candidate : String

/-- What a call returns or raises. An answer from an envelope carries the row. -/
inductive Answer where
  | result (inferenceId : String) (dump : Result)
  | executionError (inferenceId : String) (error : ExecutionError)
  | replay (row : Envelope)
  | storedFailure (row : Envelope)
  | inProgress (row : Envelope)
  | terminalKey (row : Envelope)
  | conflict
  /-- An error of the database, or the end of the process. -/
  | broken

inductive Phase where
  | ready
  | inserting (now : Time)
  | selecting (now : Time)
  | closing (row : Envelope) (isNew : Bool)
  | deciding (row : Envelope) (isNew : Bool)
  | marking (inferenceId : String)
  | marked (inferenceId : String)
  | executing (inferenceId : String)
  | completing (inferenceId : String) (dump : Result)
  | completed (inferenceId : String) (dump : Result)
  | failing (inferenceId : String) (error : ExecutionError)
  | failed (inferenceId : String) (error : ExecutionError)
  /-- `entered` if it was in `_infer_chat_execute`. -/
  | finished (entered : Bool) (answer : Answer)

/-- What is up to the surroundings of a call: its next command goes through, at a time, or fails; a
commit that takes effect fails for the call; its execution returns or raises; or it ends. -/
inductive Event where
  | proceeds (now : Time)
  | fails (error : ExecutionError)
  | loses (error : ExecutionError)
  | returns (fields : Result)
  | dies

/-- The row of the key, and for the proofs the call that inserted it. -/
structure Desk (ι : Type) where
  cell : Cell ι (Option Envelope)
  creator : Option ι

def Desk.empty {ι : Type} : Desk ι := { cell := { committed := none, dirty := none }, creator := none }

section

variable {ι : Type} [DecidableEq ι]

/-- `UPDATE ... WHERE inference_id = :id`, with a condition on the row; `none` while it waits. -/
def updateEnvelope (i : ι) (matching : Envelope → Bool) (change : Envelope → Envelope)
    (cell : Cell ι (Option Envelope)) : Option (Cell ι (Option Envelope)) :=
  match cell.committed with
  | none => some cell
  | some row =>
      if !matching row then some cell
      else if cell.blocked i then none
      else some (cell.write i (some (change row)))

def Desk.abort (desk : Desk ι) (i : ι) (entered : Bool) (answer : Answer) : Desk ι × Phase :=
  ({ desk with cell := desk.cell.rollback i }, .finished entered answer)

/-- The sweep of stale rows, the first command of `acquire`. -/
def sweepStale (staleAfter : Time) (i : ι) (now : Time) (desk : Desk ι) : Desk ι × Phase :=
  match updateEnvelope i (fun row => row.stale (now - staleAfter)) (fun row => row.sweep now)
      desk.cell with
  | none => (desk, .ready)
  | some cell => ({ desk with cell }, .inserting now)

/-- `updated_at` is filled in when the row is inserted. -/
def Call.envelope (call : Call) (now later : Time) : Envelope :=
  { requestHash := call.requestHash, inferenceId := call.candidate, status := .pending
    failureReason := none, resultJson := none, lastSeenAt := now, updatedAt := later }

/-- `INSERT ... ON CONFLICT DO NOTHING RETURNING`. -/
def insertEnvelope (call : Call) (i : ι) (now later : Time) (desk : Desk ι) : Desk ι × Phase :=
  match desk.cell.seen i with
  | some _ => (desk, .selecting now)
  | none =>
      if desk.cell.blocked i then (desk, .inserting now)
      else
        let row := call.envelope now later
        ({ desk with cell := desk.cell.write i (some row) }, .closing row true)

/-- The flush of `last_seen_at`, where it changed; it sets `updated_at` as well. -/
def Envelope.touch (row : Envelope) (now later : Time) : Envelope :=
  if row.lastSeenAt = now then row else { row with lastSeenAt := now, updatedAt := later }

/-- `SELECT ... FOR UPDATE`, the comparison of the hashes, and the flush. -/
def selectEnvelope (call : Call) (i : ι) (now later : Time) (desk : Desk ι) : Desk ι × Phase :=
  if desk.cell.blocked i then (desk, .selecting now)
  else match desk.cell.seen i with
    | none => desk.abort i false .broken
    | some row =>
        if row.requestHash ≠ call.requestHash then desk.abort i false .conflict
        else
          let row := row.touch now later
          ({ desk with cell := desk.cell.write i (some row) }, .closing row false)

/-- The commit of `acquire`. -/
def closeAcquire (i : ι) (isNew : Bool) (desk : Desk ι) : Desk ι :=
  { cell := desk.cell.commit i, creator := if isNew then some i else desk.creator }

/-- `_idempotency_chat_begin` behind `acquire`. -/
def idempotencyBegin (row : Envelope) (isNew : Bool) : Phase :=
  if isNew then .marking row.inferenceId
  else if row.status = .completed && row.hasResult then
    if row.hasFailed then .finished false (.storedFailure row) else .finished false (.replay row)
  else if row.status.inProgress then .finished false (.inProgress row)
  else if row.status = .failed then
    if row.hasFailed then .finished false (.storedFailure row)
    else .finished false (.terminalKey row)
  else .marking row.inferenceId

/-- A transaction of one `UPDATE`, up to its commit. -/
def updateStep (i : ι) (desk : Desk ι) (matching : Envelope → Bool) (change : Envelope → Envelope)
    (waits goes : Phase) : Desk ι × Phase :=
  match updateEnvelope i matching change desk.cell with
  | none => (desk, waits)
  | some cell => ({ desk with cell }, goes)

/-- `mark_executing`. -/
def markExecuting (i : ι) (inferenceId : String) (now : Time) (desk : Desk ι) : Desk ι × Phase :=
  updateStep i desk (fun row => row.inferenceId = inferenceId && row.status.inProgress)
    (fun row => { row with status := .executing, updatedAt := now }) (.marking inferenceId)
    (.marked inferenceId)

/-- `update_completed`. -/
def updateCompleted (i : ι) (inferenceId : String) (dump : Result) (now : Time) (desk : Desk ι) :
    Desk ι × Phase :=
  updateStep i desk (fun row => row.inferenceId = inferenceId)
    (fun row => { row with
      status := .completed, resultJson := some dump, failureReason := none, updatedAt := now })
    (.completing inferenceId dump) (.completed inferenceId dump)

/-- `update_failed`, as `infer_chat` calls it. -/
def updateFailed (i : ι) (inferenceId : String) (error : ExecutionError) (now : Time)
    (desk : Desk ι) : Desk ι × Phase :=
  updateStep i desk (fun row => row.inferenceId = inferenceId)
    (fun row => { row with
      status := .failed, failureReason := some "inference_failed"
      resultJson := some error.result, updatedAt := now })
    (.failing inferenceId error) (.failed inferenceId error)

def Desk.commit (desk : Desk ι) (i : ι) : Desk ι := { desk with cell := desk.cell.commit i }

def Desk.rollback (desk : Desk ι) (i : ι) : Desk ι := { desk with cell := desk.cell.rollback i }

def advance (staleAfter : Time) (calls : ι → Call) (i : ι) (event : Event) (desk : Desk ι)
    (phase : Phase) : Desk ι × Phase :=
  match phase, event with
  | .ready, .proceeds now => sweepStale staleAfter i now desk
  | .inserting now, .proceeds later => insertEnvelope (calls i) i now later desk
  | .selecting now, .proceeds later => selectEnvelope (calls i) i now later desk
  | .closing row isNew, .proceeds _ => (closeAcquire i isNew desk, .deciding row isNew)
  | .closing _ isNew, .loses _ => (closeAcquire i isNew desk, .finished false .broken)
  | .deciding row isNew, .proceeds _ => (desk, idempotencyBegin row isNew)
  | .marking inferenceId, .proceeds now => markExecuting i inferenceId now desk
  | .marked inferenceId, .proceeds _ => (desk.commit i, .executing inferenceId)
  | .marked _, .loses _ => (desk.commit i, .finished false .broken)
  | .executing inferenceId, .returns fields =>
      (desk, .completing inferenceId (responseDump inferenceId fields))
  | .executing inferenceId, .fails error => (desk, .failing inferenceId error)
  | .completing inferenceId dump, .proceeds now => updateCompleted i inferenceId dump now desk
  | .completing inferenceId _, .fails error => (desk.rollback i, .failing inferenceId error)
  | .completed inferenceId dump, .proceeds _ =>
      (desk.commit i, .finished true (.result inferenceId dump))
  | .completed inferenceId _, .loses error => (desk.commit i, .failing inferenceId error)
  | .completed inferenceId _, .fails error => (desk.rollback i, .failing inferenceId error)
  | .failing inferenceId error, .proceeds now => updateFailed i inferenceId error now desk
  | .failed inferenceId error, .proceeds _ =>
      (desk.commit i, .finished true (.executionError inferenceId error))
  | .failed _ _, .loses _ => (desk.commit i, .finished true .broken)
  | .failing _ _, .fails _ | .failed _ _, .fails _ => desk.abort i true .broken
  | .executing _, .dies | .completing _ _, .dies | .completed _ _, .dies | .failing _ _, .dies
  | .failed _ _, .dies => desk.abort i true .broken
  | .ready, .fails _ | .inserting _, .fails _ | .selecting _, .fails _ | .closing _ _, .fails _
  | .deciding _ _, .fails _ | .marking _, .fails _ | .marked _, .fails _
  | .ready, .dies | .inserting _, .dies | .selecting _, .dies | .closing _ _, .dies
  | .deciding _ _, .dies | .marking _, .dies | .marked _, .dies => desk.abort i false .broken
  | phase, _ => (desk, phase)

/-- Nothing but the calls themselves changes the row. -/
abbrev Inferences (ι : Type) := Crew ι (Desk ι) Phase

def Inferences.start : Inferences ι := { shared := .empty, phase := fun _ => .ready }

/-- The calls after the first `n` steps of some. -/
abbrev Inferences.run (staleAfter : Time) (calls : ι → Call) (inferences : Inferences ι)
    (acts : List (Act ι Event Empty)) (n : Nat) : Inferences ι :=
  Crew.after (advance staleAfter calls) (fun change : Empty => change.elim) inferences acts n

def after (staleAfter : Time) (calls : ι → Call) (acts : List (Act ι Event Empty)) (n : Nat) :
    Inferences ι :=
  Inferences.start.run staleAfter calls acts n

end

end SyndicateClaw.Inference
