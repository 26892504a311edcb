import SyndicateClaw.Data.Sha256
import SyndicateClaw.RuntimeBoundary.Authorization
import SyndicateClaw.Tools.Gates

/-! The binding an execution is checked against, and the authority it presents. -/

namespace SyndicateClaw.Tools

open Orchestrator RuntimeBoundary

section guarded

variable {σ ρ τ : Type} (executor : ToolExecutor) (boundary : ClawRuntimeBoundary σ ρ τ)
  (s : BoundaryState σ τ) (name : String) (tool : Tool)

def guarded : ToolExecutor :=
  { executor with
    runtimeBoundary := some fun ctx expected =>
      let decision := ((authorize boundary ctx expected).run s).1
      .ok (decision.allowed, decision.reason.text) }

/-- The authority `_enforce_runtime_boundary` reads from the configuration. -/
abbrev presented (context : ExecutionContext) : Except ToolError (Option AuthorityContext) :=
  authorityContext (lookup context.config "authority")

abbrev presentedApproval (authority : Option AuthorityContext) : Value :=
  (authority.map (·.approvalId)).getD .none

/-- `_enforce_runtime_boundary` builds this binding and gets this answer. -/
def Builds (context : ExecutionContext) (expected : ExpectedBinding) (allowed : Bool) : Prop :=
  .authorized expected allowed ∈
    (ending ((enforceRuntimeBoundary (guarded executor boundary s) name context tool).run
      {})).events

/-- The contexts agree on everything except `config['authority']`. -/
structure AgreeApart (c c' : ExecutionContext) : Prop where
  runId : c.runId = c'.runId
  nodeId : c.nodeId = c'.nodeId
  attempt : c.attempt = c'.attempt
  config : ∀ key, key ≠ "authority" → Dict.get? c.config key = Dict.get? c'.config key

/-- The binding does not depend on the authority; where an approval is required, an allowed
authority carries an approval id that is known without it. -/
structure BindsIndependently (c c' : ExecutionContext) : Prop where
  same : ∀ expected allowed expected' allowed',
    Builds executor boundary s name tool c expected allowed →
    Builds executor boundary s name tool c' expected' allowed' → expected = expected'
  approved : (lookup c.config "require_approval").truthy = true →
    ∀ expected, Builds executor boundary s name tool c expected true →
      ∃ authority id, presented c = .ok (some authority) ∧
        authority.approvalId.truthy = true ∧ Condition.pyEq authority.approvalId id = true ∧
        ∀ (other : ExecutionContext) (expected' : ExpectedBinding) (allowed' : Bool),
          AgreeApart c other → Builds executor boundary s name tool other expected' allowed' →
          expected'.approvalId = id

variable {executor boundary s name tool} {c c' : ExecutionContext}

theorem builds_iff {expected : ExpectedBinding} {allowed : Bool} :
    Builds executor boundary s name tool c expected allowed ↔
      ∃ authority, presented c = .ok authority ∧
        expected = expectedBinding name c tool authority ∧
        ((authorize boundary authority expected).run s).1.allowed = allowed := by
  unfold Builds enforceRuntimeBoundary
  dsimp only [guarded]
  cases read : presented c with
  | error e =>
      rw [show authorityContext (lookup c.config "authority") = .error e from read]
      constructor
      · intro member
        cases member
      · rintro ⟨authority, same, -⟩
        cases same
  | ok authority =>
      rw [show authorityContext (lookup c.config "authority") = .ok authority from read]
      have events : ∀ decision : BoundaryDecision, (ending ((ToolM.emit (.authorized
          (expectedBinding name c tool authority) decision.allowed) >>= fun _ =>
            if !decision.allowed then
              throw (ToolError.denied name ("Runtime authority boundary denied (" ++
                decision.reason.text ++ "); no upstream ControlPlane authority — fail-closed"))
            else pure ()).run {})).events =
          [.authorized (expectedBinding name c tool authority) decision.allowed] := by
        intro decision
        cases allows : decision.allowed <;> rfl
      refine (iff_of_eq (congrArg (ToolEvent.authorized expected allowed ∈ ·)
        (events ((authorize boundary authority (expectedBinding name c tool authority)).run
          s).1))).trans ?_
      rw [List.mem_singleton, ToolEvent.authorized.injEq]
      constructor
      · rintro ⟨rfl, rfl⟩
        exact ⟨authority, rfl, rfl, rfl⟩
      · rintro ⟨authority', same, rfl, rfl⟩
        obtain rfl := Except.ok.inj same
        exact ⟨rfl, rfl⟩

theorem AgreeApart.lookup (agree : AgreeApart c c') {key : String} (other : key ≠ "authority") :
    lookup c.config key = lookup c'.config key := by
  unfold Orchestrator.lookup
  rw [agree.config key other]

theorem AgreeApart.lookupStr (agree : AgreeApart c c') {key : String}
    (other : key ≠ "authority") : lookupStr c.config key = lookupStr c'.config key := by
  unfold Orchestrator.lookupStr
  rw [agree.config key other]

theorem expectedBinding_eq_iff (agree : AgreeApart c c')
    (authority authority' : Option AuthorityContext) :
    expectedBinding name c tool authority = expectedBinding name c' tool authority' ↔
      presentedApproval authority = presentedApproval authority' := by
  have actor : policyActor c = policyActor c' := by
    unfold policyActor
    rw [agree.lookup (by decide), agree.runId]
  unfold expectedBinding
  dsimp only
  rw [actor, agree.lookupStr (by decide : "tenant_id" ≠ "authority"),
    agree.lookupStr (by decide : "project_id" ≠ "authority"),
    agree.lookupStr (by decide : "workspace_id" ≠ "authority"),
    agree.lookupStr (by decide : "resource_scope" ≠ "authority"),
    agree.lookup (by decide : "require_approval" ≠ "authority")]
  simp only [ExpectedBinding.mk.injEq, true_and, and_true]

def bare (c : ExecutionContext) : ExecutionContext :=
  { c with config := Dict.pop c.config "authority" }

theorem agreeApart_bare : AgreeApart c (bare c) := by
  refine ⟨rfl, rfl, rfl, fun key other => ?_⟩
  rw [bare, Dict.get?_pop, if_neg other]

theorem no_independent_approval {authority : AuthorityContext} {id : Value}
    (truthy : authority.approvalId.truthy = true)
    (equal : Condition.pyEq authority.approvalId id = true) :
    ¬ ∀ (other : ExecutionContext) (expected : ExpectedBinding) (allowed : Bool),
      AgreeApart c other → Builds executor boundary s name tool other expected allowed →
      expected.approvalId = id := by
  intro known
  have absent : presented (bare c) = .ok none := by
    unfold presented Orchestrator.lookup bare
    rw [Dict.get?_pop, if_pos rfl]
    rfl
  have built := known (bare c) _ _ agreeApart_bare (builds_iff.mpr ⟨none, absent, rfl, rfl⟩)
  obtain rfl : Value.none = id := built
  cases same : authority.approvalId with
  | none =>
      rw [same] at truthy
      cases truthy
  | _ => simp [same, Condition.pyEq, Condition.number?] at equal

/-- The two authorities bind alike exactly when they carry the same approval id; where an
approval is required, the property fails whenever an authority is allowed. -/
theorem bindsIndependently_iff (agree : AgreeApart c c') :
    BindsIndependently executor boundary s name tool c c' ↔
      (∀ authority authority', presented c = .ok authority → presented c' = .ok authority' →
        presentedApproval authority = presentedApproval authority') ∧
      ¬ ((lookup c.config "require_approval").truthy = true ∧ ∃ authority,
        presented c = .ok (some authority) ∧
        Authorised boundary (expectedBinding name c tool (some authority)) s authority) := by
  have allows {authority : AuthorityContext} {expected : ExpectedBinding} :
      ((authorize boundary (some authority) expected).run s).1.allowed = true ↔
        Authorised boundary expected s authority := by
    rw [authorize_allowed_iff boundary (some authority) expected s]
    constructor
    · rintro ⟨c, same, authorised⟩
      obtain rfl := Option.some.inj same
      exact authorised
    · exact fun authorised => ⟨authority, rfl, authorised⟩
  constructor
  · intro independent
    refine ⟨fun authority authority' read read' => ?_, ?_⟩
    · have same := independent.same _ _ _ _ (builds_iff.mpr ⟨authority, read, rfl, rfl⟩)
        (builds_iff.mpr ⟨authority', read', rfl, rfl⟩)
      exact (expectedBinding_eq_iff agree authority authority').mp same
    · rintro ⟨required, authority, read, authorised⟩
      have built : Builds executor boundary s name tool c
          (expectedBinding name c tool (some authority)) true :=
        builds_iff.mpr ⟨some authority, read, rfl, allows.mpr authorised⟩
      obtain ⟨_, id, -, truthy, equal, known⟩ := independent.approved required _ built
      exact no_independent_approval truthy equal known
  · rintro ⟨same, never⟩
    refine ⟨fun expected allowed expected' allowed' built built' => ?_, fun required => ?_⟩
    · obtain ⟨authority, read, rfl, -⟩ := builds_iff.mp built
      obtain ⟨authority', read', rfl, -⟩ := builds_iff.mp built'
      exact (expectedBinding_eq_iff agree authority authority').mpr
        (same authority authority' read read')
    · intro expected built
      obtain ⟨authority, read, rfl, allowed⟩ := builds_iff.mp built
      cases authority with
      | none =>
          obtain ⟨_, absent, -⟩ := (authorize_allowed_iff boundary none
            (expectedBinding name c tool none) s).mp allowed
          cases absent
      | some authority =>
          exact absurd ⟨required, authority, read, allows.mp allowed⟩ never

end guarded

def permitBoundary : ClawRuntimeBoundary AppendOnlyAuditChain ChainRecord Unit :=
  { validate := fun _ _ service =>
      ({ status := .allow, permitId := .str "permit-1"
         validatedAt := "2026-01-01T00:00:00+00:00", detail := "" }, service)
    production := true
    audit := appendOnlyAuditChain Sha256.hexdigest
    utcnow := fun _ => "2026-01-01T00:00:00+00:00" }

def freshState : BoundaryState AppendOnlyAuditChain Unit :=
  { chain := { records := [], fail := false }, service := (), consulted := [], ticks := 0 }

def publishTool : Tool :=
  { inputSchema := [], outputSchema := [], riskLevel := .high, sideEffects := ["publish"]
    timeoutSeconds := 30
    sandboxPolicy :=
      { allowedDomains := [], allowedProtocols := ["https"], maxRequestBytes := 1048576
        maxResponseBytes := 10485760, networkIsolation := true, filesystemRead := false
        subprocessAllowed := false } }

def publishExecutor : ToolExecutor :=
  { platform :=
      { ulid := fun n => toString n, now := fun _ => 0, elapsedMs := 5, defaultScope := .none
        nfkc := id, isIpv6 := fun _ => false, serializable := fun _ => true
        errorText := "" }
    registry := fun _ => some ⟨publishTool, fun _ => .returned []⟩
    policyEngine := .evaluating fun _ _ _ => .ok .allow
    auditService := true
    decisionLedger := some fun _ => .ok (some "D1")
    runtimeBoundary := none }

/-- What the caller puts under `authority`. -/
def callerAuthority (reference approval : Value) : Value :=
  .dict [("authority_reference", reference), ("actor", .str "alice"),
    ("tool_identity", .str "publish"), ("action", .str "publish"), ("approval_id", approval)]

def publishContext (required : Bool) (authority : Value) : ExecutionContext :=
  { runId := "run-1", nodeId := "publish", attempt := 1
    config := [("authority", authority), ("actor", .str "alice"),
      ("require_approval", .bool required)] }

theorem agreeApart_publishContext (required : Bool) (authority authority' : Value) :
    AgreeApart (publishContext required authority) (publishContext required authority') := by
  refine ⟨rfl, rfl, rfl, fun key other => ?_⟩
  have skip (value : Value) (rest : State) :
      Dict.get? (("authority", value) :: rest) key = Dict.get? rest key := by
    rw [Dict.get?_cons, if_neg (Ne.symm other)]
  exact (skip _ _).trans (skip _ _).symm

theorem references_bindIndependently :
    BindsIndependently publishExecutor permitBoundary freshState "publish" publishTool
      (publishContext false (callerAuthority (.str "ref-1") (.str "dec-1")))
      (publishContext false (callerAuthority (.str "ref-2") (.str "dec-1"))) := by
  refine (bindsIndependently_iff (agreeApart_publishContext _ _ _)).mpr ⟨?_, ?_⟩
  · intro authority authority' read read'
    obtain rfl := Except.ok.inj read
    obtain rfl := Except.ok.inj read'
    rfl
  · rintro ⟨required, -⟩
    cases required

/-- The mapping of `callerAuthority`, as the boundary reads it. -/
def readAuthority (reference approval : Value) : AuthorityContext :=
  { authorityReference := reference, actor := .str "alice", tenantId := .none
    projectId := .none, workspaceId := .none, toolIdentity := .str "publish"
    action := .str "publish", resourceScope := .none, approvalId := approval
    correlationId := .none, gateEvidenceReference := .none, requiresGateEvidence := false }

theorem unissued_approval_allowed :
    ∃ expected,
      AgreeApart (publishContext true (callerAuthority (.str "ref-1") (.str "dec-1")))
        (publishContext true .none) ∧
      Builds publishExecutor permitBoundary freshState "publish" publishTool
        (publishContext true (callerAuthority (.str "ref-1") (.str "dec-1"))) expected true ∧
      ¬ BindsIndependently publishExecutor permitBoundary freshState "publish" publishTool
        (publishContext true (callerAuthority (.str "ref-1") (.str "dec-1")))
        (publishContext true .none) := by
  have built : Builds publishExecutor permitBoundary freshState "publish" publishTool
      (publishContext true (callerAuthority (.str "ref-1") (.str "dec-1"))) _ true :=
    builds_iff.mpr ⟨some (readAuthority (.str "ref-1") (.str "dec-1")), rfl, rfl, rfl⟩
  refine ⟨_, agreeApart_publishContext _ _ _, built, fun independent => ?_⟩
  obtain ⟨_, id, -, truthy, equal, known⟩ := independent.approved rfl _ built
  exact no_independent_approval truthy equal known

end SyndicateClaw.Tools
