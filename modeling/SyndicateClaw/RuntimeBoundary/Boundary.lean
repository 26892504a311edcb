import SyndicateClaw.Data.Json
import SyndicateClaw.Tools.Executor

/-! The runtime authority boundary.

`authorize` checks the presented authority against the expected binding, asks the control
plane, and appends its decision to the audit chain before any side effect. -/

namespace SyndicateClaw.RuntimeBoundary

open Orchestrator Tools

inductive BoundaryReason where
  | allowed
  | authorityMissing
  | controlplaneUnavailable
  | controlplaneDenied
  | tenantMismatch
  | projectMismatch
  | workspaceMismatch
  | actorMismatch
  | toolActionMismatch
  | approvalMismatch
  | permitExpired
  | permitRevoked
  | permitConsumed
  | gateEvidenceMissing
  | auditAppendFailed
  deriving DecidableEq

def BoundaryReason.text : BoundaryReason → String
  | .allowed => "ALLOWED"
  | .authorityMissing => "AUTHORITY_MISSING"
  | .controlplaneUnavailable => "CONTROLPLANE_UNAVAILABLE"
  | .controlplaneDenied => "CONTROLPLANE_DENIED"
  | .tenantMismatch => "TENANT_MISMATCH"
  | .projectMismatch => "PROJECT_MISMATCH"
  | .workspaceMismatch => "WORKSPACE_MISMATCH"
  | .actorMismatch => "ACTOR_MISMATCH"
  | .toolActionMismatch => "TOOL_ACTION_MISMATCH"
  | .approvalMismatch => "APPROVAL_MISMATCH"
  | .permitExpired => "PERMIT_EXPIRED"
  | .permitRevoked => "PERMIT_REVOKED"
  | .permitConsumed => "PERMIT_CONSUMED"
  | .gateEvidenceMissing => "GATE_EVIDENCE_MISSING"
  | .auditAppendFailed => "AUDIT_APPEND_FAILED"

/-! ### The control plane -/

inductive ValidationStatus where
  | allow | denied | expired | revoked | consumed | unavailable
  deriving DecidableEq

def ValidationStatus.value : ValidationStatus → String
  | .allow => "allow"
  | .denied => "denied"
  | .expired => "expired"
  | .revoked => "revoked"
  | .consumed => "consumed"
  | .unavailable => "unavailable"

structure ValidationResult where
  status : ValidationStatus
  permitId : Value
  validatedAt : String
  detail : String

def ValidationResult.toDict (result : ValidationResult) : State :=
  [("status", .str result.status.value), ("permit_id", result.permitId),
   ("validated_at", .str result.validatedAt), ("detail", .str result.detail)]

/-- What the control plane is asked to validate the reference against. -/
structure AuthorityBinding where
  actor : String
  tenantId : String
  projectId : String
  workspaceId : String
  toolIdentity : String
  action : String
  resourceScope : String
  approvalId : Value
  correlationId : Value

/-! ### Audit chains -/

mutual

/-- A value as a document; `none` where `json.dumps` raises a `TypeError`. -/
def toJson : Value → Option Json
  | .none => some .null
  | .bool b => some (.bool b)
  | .int i => some (.int i)
  | .float _ text => some (.float text.toList)
  | .str s => some (.str (String.text s))
  | .list items => (toJsonItems items).map .arr
  | .dict entries => (toJsonEntries entries).map .obj
  | .object _ => Option.none

def toJsonItems : List Value → Option (List Json)
  | [] => some []
  | item :: items => do return (← toJson item) :: (← toJsonItems items)

def toJsonEntries : List (String × Value) → Option (List (Text × Json))
  | [] => some []
  | (key, value) :: entries => do
      return (String.text key, ← toJson value) :: (← toJsonEntries entries)

end

/-- What the boundary needs of a chain: an append that goes through adds one record, with
the decision of the event. -/
structure AuditChain (σ ρ : Type) where
  append : State → σ → Except String (Nat × String) × σ
  records : σ → List ρ
  decision : ρ → Option String
  appended : ∀ event chain receipt, (append event chain).1 = .ok receipt →
    ∃ record, records (append event chain).2 = records chain ++ [record] ∧
      decision record = (lookup event "decision").asStr?

def genesis : String := String.ofList (List.replicate 64 '0')

/-- A record of `_AppendOnlyAuditChain`, without and with its hash. -/
structure ChainRecord where
  body : State
  eventHash : String

structure AppendOnlyAuditChain where
  records : List ChainRecord
  fail : Bool

namespace AppendOnlyAuditChain

def nextBody (chain : AppendOnlyAuditChain) (event : State) : State × String :=
  let previous := (chain.records.getLast?.map (·.eventHash)).getD genesis
  (Dict.set (Dict.set event "sequence" (.int chain.records.length)) "previous_hash"
    (.str previous), previous)

/-- `append`: `sha256` is the hex digest of the UTF-8 encoding. -/
def append (sha256 : String → String) (event : State) (chain : AppendOnlyAuditChain) :
    Except String (Nat × String) × AppendOnlyAuditChain :=
  if chain.fail then (.error "audit store unavailable", chain)
  else
    let (body, previous) := chain.nextBody event
    match (toJson (.dict body)).bind (Json.dumps Json.spaced) with
    | none => (.error "not JSON serializable", chain)
    | some canonical =>
        let eventHash := sha256 (previous ++ String.ofList canonical)
        (.ok (chain.records.length, eventHash),
          { chain with records := chain.records ++ [{ body, eventHash }] })

theorem append_decision {sha256 : String → String} {event : State} {chain : AppendOnlyAuditChain}
    {receipt : Nat × String} (ok : (append sha256 event chain).1 = .ok receipt) :
    ∃ record : ChainRecord,
      (append sha256 event chain).2.records = chain.records ++ [record] ∧
        (lookup record.body "decision").asStr? = (lookup event "decision").asStr? := by
  unfold append at ok ⊢
  split at ok
  · cases ok
  next running =>
  rw [if_neg running]
  dsimp only at ok ⊢
  split at ok
  · cases ok
  · next canonical written =>
      refine ⟨_, rfl, ?_⟩
      have kept : Dict.get? (chain.nextBody event).1 "decision" = Dict.get? event "decision" := by
        unfold nextBody
        rw [Dict.get?_set_of_ne _ _ (by decide), Dict.get?_set_of_ne _ _ (by decide)]
      rw [lookup, lookup, kept]

end AppendOnlyAuditChain

/-- `_AppendOnlyAuditChain`. -/
def appendOnlyAuditChain (sha256 : String → String) :
    AuditChain AppendOnlyAuditChain ChainRecord where
  append := AppendOnlyAuditChain.append sha256
  records := AppendOnlyAuditChain.records
  decision record := (lookup record.body "decision").asStr?
  appended _ _ _ := AppendOnlyAuditChain.append_decision

/-! ### Decisions -/

structure BoundaryDecision where
  allowed : Bool
  reason : BoundaryReason
  authorityReference : Value
  correlationId : Value
  validation : Value
  auditSequence : Option Nat
  auditHash : Option String
  detail : String
  evaluatedAt : String

structure ClawRuntimeBoundary (σ ρ τ : Type) where
  validate : Value → AuthorityBinding → τ → ValidationResult × τ
  production : Bool
  audit : AuditChain σ ρ
  utcnow : Nat → String

/-- The chain, the control plane with what it was asked, and the clock. -/
structure BoundaryState (σ τ : Type) where
  chain : σ
  service : τ
  consulted : List (Value × AuthorityBinding)
  ticks : Nat

section authorize

variable {σ ρ τ : Type} (boundary : ClawRuntimeBoundary σ ρ τ)

abbrev BoundaryM (σ τ : Type) := StateM (BoundaryState σ τ)

def utcnowIso : BoundaryM σ τ String :=
  modifyGet fun s => (boundary.utcnow s.ticks, { s with ticks := s.ticks + 1 })

def appendEvent (event : State) : BoundaryM σ τ (Except String (Nat × String)) :=
  modifyGet fun s =>
    let (receipt, chain) := boundary.audit.append event s.chain
    (receipt, { s with chain })

def validateAuthority (reference : Value) (binding : AuthorityBinding) :
    BoundaryM σ τ ValidationResult :=
  modifyGet fun s =>
    let (result, service) := boundary.validate reference binding s.service
    (result, { s with service, consulted := s.consulted ++ [(reference, binding)] })

def decisionEvent (reason : BoundaryReason) (ctx : Option AuthorityContext)
    (expected : ExpectedBinding) (validation : Value) (emittedAt : String) : State :=
  [("event_type", .str "CLAW_RUNTIME_BOUNDARY_DECISION"),
   ("decision", .str (if reason = .allowed then "allow" else "deny")),
   ("reason", .str reason.text),
   ("authority_reference", (ctx.map (·.authorityReference)).getD .none),
   ("actor", .str expected.actor), ("tenant_id", .str expected.tenantId),
   ("project_id", .str expected.projectId), ("workspace_id", .str expected.workspaceId),
   ("tool_identity", .str expected.toolIdentity), ("action", .str expected.action),
   ("approval_id", expected.approvalId),
   ("correlation_id", (ctx.map (·.correlationId)).getD .none),
   ("controlplane_validation", validation), ("emitted_at", .str emittedAt)]

def emittedDecision (reason : BoundaryReason) (ctx : Option AuthorityContext) (validation : Value)
    (receipt : Except String (Nat × String)) (evaluatedAt : String) : BoundaryDecision :=
  let authorityReference := (ctx.map (·.authorityReference)).getD .none
  let correlationId := (ctx.map (·.correlationId)).getD .none
  match receipt with
  | .error _ =>
      { allowed := false, reason := .auditAppendFailed, authorityReference, correlationId
        validation, auditSequence := none, auditHash := none
        detail := "audit append failed before side effect", evaluatedAt }
  | .ok (sequence, hash) =>
      { allowed := reason = .allowed, reason, authorityReference, correlationId, validation
        auditSequence := some sequence, auditHash := some hash, detail := reason.text
        evaluatedAt }

/-- `_emit`: the event is appended first, and without it nothing is allowed. -/
def emit (reason : BoundaryReason) (ctx : Option AuthorityContext) (expected : ExpectedBinding)
    (validation : Value) : BoundaryM σ τ BoundaryDecision := do
  let emittedAt ← utcnowIso boundary
  let receipt ← appendEvent boundary (decisionEvent reason ctx expected validation emittedAt)
  let evaluatedAt ← utcnowIso boundary
  return emittedDecision reason ctx validation receipt evaluatedAt

/-- `(presented or "") != expected`. -/
def differs (presented : Value) (expected : String) : Bool :=
  !Condition.pyEq (presented.orElse (.str "")) (.str expected)

def approvalDiffers (presented expected : Value) : Bool :=
  !Condition.pyEq (presented.orElse (.str "")) (expected.orElse (.str ""))

def authorityBinding (ctx : AuthorityContext) (expected : ExpectedBinding) : AuthorityBinding :=
  { actor := expected.actor, tenantId := expected.tenantId, projectId := expected.projectId
    workspaceId := expected.workspaceId, toolIdentity := expected.toolIdentity
    action := expected.action, resourceScope := expected.resourceScope
    approvalId := ctx.approvalId, correlationId := ctx.correlationId.orElse (.str "") }

def validationReason : ValidationStatus → BoundaryReason
  | .unavailable => .controlplaneUnavailable
  | .expired => .permitExpired
  | .revoked => .permitRevoked
  | .consumed => .permitConsumed
  | .denied => .controlplaneDenied
  | .allow => .allowed

/-- `authorize`. An unavailable control plane denies in production and elsewhere. -/
def authorize (ctx : Option AuthorityContext) (expected : ExpectedBinding) :
    BoundaryM σ τ BoundaryDecision := do
  match ctx with
  | none => emit boundary .authorityMissing none expected .none
  | some ctx =>
      let deny reason := emit boundary reason (some ctx) expected .none
      if !ctx.authorityReference.truthy then deny .authorityMissing
      else if differs ctx.tenantId expected.tenantId then deny .tenantMismatch
      else if differs ctx.projectId expected.projectId then deny .projectMismatch
      else if differs ctx.workspaceId expected.workspaceId then deny .workspaceMismatch
      else if differs ctx.actor expected.actor then deny .actorMismatch
      else if differs ctx.toolIdentity expected.toolIdentity ||
          differs ctx.action expected.action then deny .toolActionMismatch
      else if expected.requireApproval && approvalDiffers ctx.approvalId expected.approvalId then
        deny .approvalMismatch
      else if ctx.requiresGateEvidence && !ctx.gateEvidenceReference.truthy then
        deny .gateEvidenceMissing
      else
        let result ← validateAuthority boundary ctx.authorityReference
          (authorityBinding ctx expected)
        let validation := Value.dict result.toDict
        match result.status with
        | .unavailable =>
            if boundary.production then
              emit boundary .controlplaneUnavailable (some ctx) expected validation
            else emit boundary .controlplaneUnavailable (some ctx) expected validation
        | status => emit boundary (validationReason status) (some ctx) expected validation

end authorize

end SyndicateClaw.RuntimeBoundary
