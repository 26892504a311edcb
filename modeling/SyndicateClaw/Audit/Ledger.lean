import SyndicateClaw.Authz.Evaluator
import SyndicateClaw.Data.JsonReading
import SyndicateClaw.Data.Keyed

/-! The decision ledger, and the checks of the hashes that it stores. -/

namespace SyndicateClaw.Audit

open Authz (Time)

inductive DecisionDomain where
  | policy | toolExecution | memoryWrite | memoryRead | approval | workflowRouting
  deriving DecidableEq

/-- A row of `decision_records`, with what `json.loads` makes of its JSONB columns. -/
structure DecisionRow where
  id : String
  domain : DecisionDomain
  decisionType : String
  actor : String
  runId : Option String
  nodeExecutionId : Option String
  inputs : Json
  rulesEvaluated : Json
  matchedRule : Option String
  effect : String
  justification : String
  confidence : Rat
  sideEffects : Json
  contextHash : String
  traceId : Option String
  createdAt : Time

abbrev DecisionTable := Keyed DecisionRow.id

/-- What the ledger takes from outside: the hex digests of SHA-256 and, with a key, of HMAC, of the
UTF-8 encoding of a text, and what a JSONB column gives back of a document, if it takes it. -/
structure LedgerLibrary where
  sha256 : String → String
  hmac : List Nat → String → String
  jsonb : Json → Option Json

/-- `document or {}` -/
def orEmpty : Json → Json
  | .null | .bool false | .int 0 | .str [] | .arr [] => .obj []
  | .float repr =>
      if repr = "0.0".toList ∨ repr = "-0.0".toList then .obj [] else .float repr
  | document => document

namespace LedgerLibrary

variable (library : LedgerLibrary)

/-- `_hash_inputs`; `none` where it raises. -/
def hashInputs (inputs : Json) : Option String := inputs.canonicalText.map library.sha256

/-- `sign_payload` -/
def signPayload (payload : Json) (signingKey : List Nat) : Option String :=
  payload.canonicalText.map (library.hmac signingKey)

/-- `verify_signature` -/
def verifySignature (payload : Json) (signature : String) (signingKey : List Nat) : Option Bool :=
  (library.signPayload payload signingKey).map fun expected => expected = signature

end LedgerLibrary

/-! ### Recording -/

/-- The arguments of `record`. -/
structure Decision where
  domain : DecisionDomain
  decisionType : String
  actor : String
  inputs : Dict Text Json
  rulesEvaluated : List Json
  matchedRule : Option String
  effect : String
  justification : String
  runId : Option String := none
  nodeExecutionId : Option String := none
  confidence : Rat := 1
  sideEffects : List String := []
  traceId : Option String := none

structure DecisionLedger where
  library : LedgerLibrary
  signingKey : Option (List Nat)

namespace DecisionLedger

variable (ledger : DecisionLedger)

def signedEffects (decision : Decision) : Option (List String) :=
  match ledger.signingKey with
  | none => some decision.sideEffects
  | some key => do
      let signature ← ledger.library.signPayload (.obj decision.inputs) key
      return decision.sideEffects ++ ["hmac:" ++ signature]

def rowOf (decision : Decision) (id : String) (createdAt : Time) : Option DecisionRow := do
  let contextHash ← ledger.library.hashInputs (.obj decision.inputs)
  let effects ← ledger.signedEffects decision
  let inputs ← ledger.library.jsonb (.obj decision.inputs)
  let rulesEvaluated ← ledger.library.jsonb (.arr decision.rulesEvaluated)
  let sideEffects ← ledger.library.jsonb (.arr (effects.map fun text => .str (String.text text)))
  guard (0 ≤ decision.confidence ∧ decision.confidence ≤ 1)
  return {
    id
    domain := decision.domain
    decisionType := decision.decisionType
    actor := decision.actor
    runId := decision.runId
    nodeExecutionId := decision.nodeExecutionId
    inputs
    rulesEvaluated
    matchedRule := decision.matchedRule
    effect := decision.effect
    justification := decision.justification
    confidence := decision.confidence
    sideEffects
    contextHash
    traceId := decision.traceId
    createdAt }

/-- `record`, with the id and the time of the new record; `none` where it raises. -/
def record (table : DecisionTable) (decision : Decision) (id : String) (createdAt : Time) :
    Option (DecisionTable × DecisionRow) := do
  let row ← ledger.rowOf decision id createdAt
  guard (table.get? id = none)
  return (table.insert row, row)

end DecisionLedger

/-! ### Checking -/

structure HashViolation where
  decisionRecordId : String
  expectedHash : String
  storedHash : String
  domain : DecisionDomain
  createdAt : Time

namespace LedgerLibrary

variable (library : LedgerLibrary)

/-- `verify_integrity`; `none` where it raises. -/
def verifyIntegrity (table : DecisionTable) (decisionId : String) : Option Bool :=
  match table.get? decisionId with
  | none => some false
  | some row => (library.hashInputs (orEmpty row.inputs)).map fun expected =>
      expected = row.contextHash

/-- The violations among some rows; `none` where a hash cannot be computed. -/
def violations : List DecisionRow → Option (List HashViolation)
  | [] => some []
  | row :: rest => do
      let expected ← library.hashInputs (orEmpty row.inputs)
      let later ← violations rest
      return if expected = row.contextHash then later
        else {
          decisionRecordId := row.id
          expectedHash := expected
          storedHash := row.contextHash
          domain := row.domain
          createdAt := row.createdAt } :: later

/-- `verify_decision_hashes`, of the rows as the database lists them. -/
def verifyDecisionHashes (limit : Nat) (scan : List DecisionRow) : Option (List HashViolation) :=
  library.violations (scan.take limit)

end LedgerLibrary

/-- `ORDER BY created_at DESC` -/
structure Listing (table : DecisionTable) (scan : List DecisionRow) : Prop where
  rows : scan.Perm table.rows
  newest : scan.Pairwise fun row other => other.createdAt ≤ row.createdAt

end SyndicateClaw.Audit
