import SyndicateClaw.RuntimeBoundary.Boundary

/-! What the boundary allows, and what it leaves in the chain. -/

namespace SyndicateClaw.RuntimeBoundary

open Orchestrator Tools

def Matches (presented : Value) (expected : String) : Prop :=
  presented.orElse (.str "") = .str expected

/-- The checks `authorize` makes before it asks the control plane. -/
structure LocallyBound (ctx : AuthorityContext) (expected : ExpectedBinding) : Prop where
  reference : ctx.authorityReference.truthy = true
  tenant : Matches ctx.tenantId expected.tenantId
  project : Matches ctx.projectId expected.projectId
  workspace : Matches ctx.workspaceId expected.workspaceId
  actor : Matches ctx.actor expected.actor
  tool : Matches ctx.toolIdentity expected.toolIdentity
  action : Matches ctx.action expected.action
  approval : expected.requireApproval = true →
    Condition.pyEq (ctx.approvalId.orElse (.str "")) (expected.approvalId.orElse (.str "")) = true
  gateEvidence : ctx.requiresGateEvidence = true → ctx.gateEvidenceReference.truthy = true

theorem pyEq_str (value : Value) (text : String) :
    Condition.pyEq value (.str text) = true ↔ value = .str text := by
  cases value <;> simp [Condition.pyEq, Condition.number?]

theorem differs_eq_false (presented : Value) (expected : String) :
    differs presented expected = false ↔ Matches presented expected := by
  rw [differs, Bool.not_eq_false', pyEq_str, Matches]

section authorize

variable {σ ρ τ : Type} (boundary : ClawRuntimeBoundary σ ρ τ) (ctx : Option AuthorityContext)
  (expected : ExpectedBinding) (s : BoundaryState σ τ)

/-- The first local check that fails, or the control plane's answer, becomes the decision. -/
theorem authorize_cases :
    (∃ reason, reason ≠ .allowed ∧ (∀ c, ctx = some c → ¬ LocallyBound c expected) ∧
      authorize boundary ctx expected = emit boundary reason ctx expected .none) ∨
    ∃ c, ctx = some c ∧ LocallyBound c expected ∧ authorize boundary ctx expected =
      validateAuthority boundary c.authorityReference (authorityBinding c expected) >>=
        fun result => emit boundary (validationReason result.status) (some c) expected
          (.dict result.toDict) := by
  cases ctx with
  | none => exact .inl ⟨.authorityMissing, by decide, nofun, rfl⟩
  | some c =>
      have denied (reason : BoundaryReason) (other : reason ≠ .allowed)
          (unbound : ¬ LocallyBound c expected)
          (same : authorize boundary (some c) expected =
            emit boundary reason (some c) expected .none) :
          ∃ reason, reason ≠ .allowed ∧
            (∀ c', some c = some c' → ¬ LocallyBound c' expected) ∧
            authorize boundary (some c) expected =
              emit boundary reason (some c) expected .none := by
        refine ⟨reason, other, fun c' present => ?_, same⟩
        obtain rfl := Option.some.inj present
        exact unbound
      have mismatch {presented : Value} {name : String} (found : differs presented name = true) :
          ¬ Matches presented name := by
        rw [← differs_eq_false, found]
        decide
      by_cases reference : (!c.authorityReference.truthy) = true
      · refine .inl (denied .authorityMissing (by decide) (fun bound => ?_) (if_pos reference))
        rw [bound.reference] at reference
        cases reference
      by_cases tenant : differs c.tenantId expected.tenantId = true
      · refine .inl (denied .tenantMismatch (by decide)
          (fun bound => mismatch tenant bound.tenant) ?_)
        exact (if_neg reference).trans (if_pos tenant)
      by_cases project : differs c.projectId expected.projectId = true
      · refine .inl (denied .projectMismatch (by decide)
          (fun bound => mismatch project bound.project) ?_)
        exact (if_neg reference).trans ((if_neg tenant).trans (if_pos project))
      by_cases workspace : differs c.workspaceId expected.workspaceId = true
      · refine .inl (denied .workspaceMismatch (by decide)
          (fun bound => mismatch workspace bound.workspace) ?_)
        exact (if_neg reference).trans ((if_neg tenant).trans ((if_neg project).trans
          (if_pos workspace)))
      have front : authorize boundary (some c) expected = _ :=
        (if_neg reference).trans ((if_neg tenant).trans ((if_neg project).trans
          (if_neg workspace)))
      by_cases actor : differs c.actor expected.actor = true
      · refine .inl (denied .actorMismatch (by decide) (fun bound => mismatch actor bound.actor) ?_)
        exact front.trans (if_pos actor)
      by_cases tool : (differs c.toolIdentity expected.toolIdentity ||
          differs c.action expected.action) = true
      · refine .inl (denied .toolActionMismatch (by decide) (fun bound => ?_)
          (front.trans ((if_neg actor).trans (if_pos tool))))
        rw [Bool.or_eq_true] at tool
        exact tool.elim (fun found => mismatch found bound.tool) fun found =>
          mismatch found bound.action
      by_cases approval : (expected.requireApproval &&
          approvalDiffers c.approvalId expected.approvalId) = true
      · refine .inl (denied .approvalMismatch (by decide) (fun bound => ?_)
          (front.trans ((if_neg actor).trans ((if_neg tool).trans (if_pos approval)))))
        rw [Bool.and_eq_true, approvalDiffers] at approval
        rw [bound.approval approval.1] at approval
        cases approval.2
      by_cases evidence : (c.requiresGateEvidence && !c.gateEvidenceReference.truthy) = true
      · refine .inl (denied .gateEvidenceMissing (by decide) (fun bound => ?_)
          (front.trans ((if_neg actor).trans ((if_neg tool).trans ((if_neg approval).trans
            (if_pos evidence))))))
        rw [Bool.and_eq_true] at evidence
        rw [bound.gateEvidence evidence.1] at evidence
        cases evidence.2
      refine .inr ⟨c, rfl, ⟨?_, ?_, ?_, ?_, ?_, ?_, ?_, ?_, ?_⟩, ?_⟩
      · simpa using reference
      · exact (differs_eq_false _ _).mp (Bool.not_eq_true _ ▸ tenant)
      · exact (differs_eq_false _ _).mp (Bool.not_eq_true _ ▸ project)
      · exact (differs_eq_false _ _).mp (Bool.not_eq_true _ ▸ workspace)
      · exact (differs_eq_false _ _).mp (Bool.not_eq_true _ ▸ actor)
      · rw [Bool.not_eq_true, Bool.or_eq_false_iff] at tool
        exact (differs_eq_false _ _).mp tool.1
      · rw [Bool.not_eq_true, Bool.or_eq_false_iff] at tool
        exact (differs_eq_false _ _).mp tool.2
      · intro required
        rw [required, approvalDiffers] at approval
        simpa using approval
      · intro required
        rw [required] at evidence
        simpa using evidence
      · refine front.trans ((if_neg actor).trans ((if_neg tool).trans ((if_neg approval).trans
          ((if_neg evidence).trans ?_))))
        refine congrArg (fun k => validateAuthority boundary c.authorityReference
          (authorityBinding c expected) >>= k) (funext fun result => ?_)
        cases answer : result.status with
        | unavailable =>
            dsimp only [validationReason]
            split <;> rfl
        | _ => rfl

def verdict (c : AuthorityContext) : ValidationResult :=
  (boundary.validate c.authorityReference (authorityBinding c expected) s.service).1

def allowEvent (c : AuthorityContext) : State :=
  decisionEvent .allowed (some c) expected (.dict (verdict boundary expected s c).toDict)
    (boundary.utcnow s.ticks)

/-- The authority is bound to this execution, the control plane allows it, and the event of
the decision can be appended. -/
def Authorised (c : AuthorityContext) : Prop :=
  LocallyBound c expected ∧ (verdict boundary expected s c).status = .allow ∧
    ∃ receipt, (boundary.audit.append (allowEvent boundary expected s c) s.chain).1 = .ok receipt

/-- A call allows what is authorised and nothing else, appends one event, which says what it
returns, and asks the control plane at most once, after all local checks. -/
structure AuthorizesExactly : Prop where
  allowed_iff : ((authorize boundary ctx expected).run s).1.allowed = true ↔
    ∃ c, ctx = some c ∧ Authorised boundary expected s c
  audited : ∃ event,
    ((authorize boundary ctx expected).run s).2.chain = (boundary.audit.append event s.chain).2 ∧
    ∀ receipt, (boundary.audit.append event s.chain).1 = .ok receipt →
      ∃ record, boundary.audit.records ((authorize boundary ctx expected).run s).2.chain =
          boundary.audit.records s.chain ++ [record] ∧
        boundary.audit.decision record =
          some (if ((authorize boundary ctx expected).run s).1.allowed then "allow" else "deny")
  consulted : ((authorize boundary ctx expected).run s).2.consulted = s.consulted ∨
    ∃ c, ctx = some c ∧ LocallyBound c expected ∧
      ((authorize boundary ctx expected).run s).2.consulted =
        s.consulted ++ [(c.authorityReference, authorityBinding c expected)]

theorem emittedDecision_allowed {reason : BoundaryReason} {validation : Value}
    {receipt : Except String (Nat × String)} {evaluatedAt : String} :
    (emittedDecision reason ctx validation receipt evaluatedAt).allowed = true ↔
      reason = .allowed ∧ ∃ answer, receipt = .ok answer := by
  cases receipt with
  | error e => simp [emittedDecision]
  | ok answer => simp [emittedDecision]

variable {ctx expected s}

theorem emit_audited {reason : BoundaryReason} {validation : Value} {s' : BoundaryState σ τ}
    (chain : s'.chain = s.chain) :
    ∃ event, ((emit boundary reason ctx expected validation).run s').2.chain =
        (boundary.audit.append event s.chain).2 ∧
      ∀ receipt, (boundary.audit.append event s.chain).1 = .ok receipt →
        ∃ record, boundary.audit.records
            ((emit boundary reason ctx expected validation).run s').2.chain =
              boundary.audit.records s.chain ++ [record] ∧
          boundary.audit.decision record = some (if
            ((emit boundary reason ctx expected validation).run s').1.allowed
              then "allow" else "deny") := by
  refine ⟨decisionEvent reason ctx expected validation (boundary.utcnow s'.ticks),
    congrArg (fun chain => (boundary.audit.append _ chain).2) chain, fun receipt ok => ?_⟩
  obtain ⟨record, added, decides⟩ := boundary.audit.appended _ _ _ ok
  refine ⟨record, ?_, ?_⟩
  · rw [← added]
    exact congrArg (fun chain => boundary.audit.records (boundary.audit.append _ chain).2) chain
  · rw [decides]
    have same : ((emit boundary reason ctx expected validation).run s').1.allowed =
        decide (reason = .allowed) := by
      rw [← chain] at ok
      rw [Bool.eq_iff_iff]
      refine (emittedDecision_allowed ctx).trans ?_
      rw [decide_eq_true_eq]
      exact and_iff_left ⟨receipt, ok⟩
    rw [same]
    show some (if reason = .allowed then "allow" else "deny") = _
    by_cases allowed : reason = .allowed <;> simp [allowed]

theorem validationReason_allowed {status : ValidationStatus} :
    validationReason status = .allowed ↔ status = .allow := by
  cases status <;> decide

variable (ctx expected s)

theorem authorize_allowed_iff : ((authorize boundary ctx expected).run s).1.allowed = true ↔
    ∃ c, ctx = some c ∧ Authorised boundary expected s c := by
  rcases authorize_cases boundary ctx expected with
    ⟨reason, other, unbound, same⟩ | ⟨c, rfl, bound, same⟩
  · rw [same]
    refine (emittedDecision_allowed ctx).trans ⟨fun allowed => absurd allowed.1 other, ?_⟩
    rintro ⟨c, present, authorised⟩
    exact absurd authorised.1 (unbound c present)
  · rw [same]
    refine (emittedDecision_allowed (some c)).trans ?_
    rw [validationReason_allowed]
    constructor
    · rintro ⟨allows, receipt, ok⟩
      refine ⟨c, rfl, bound, allows, receipt, ?_⟩
      rw [← ok, allowEvent, verdict, ← validationReason_allowed.mpr allows]
    · rintro ⟨c', present, -, allows, receipt, ok⟩
      obtain rfl := Option.some.inj present
      refine ⟨allows, receipt, ?_⟩
      rw [← ok, allowEvent, verdict, ← validationReason_allowed.mpr allows]
      rfl

end authorize

end SyndicateClaw.RuntimeBoundary
