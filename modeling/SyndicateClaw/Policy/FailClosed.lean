import SyndicateClaw.Policy.FirstRule

/-! Where an error denies, and where it is passed over. -/

namespace SyndicateClaw.Policy

open Orchestrator FirstMatch

section

variable (library : PolicyLibrary) (context : State) (resourceId : String)

def FullyMatches (rule : PolicyRuleRow) : Prop :=
  Applies library context resourceId rule ∧ (PolicyEffect.parse? rule.effect).isSome

def Errs (rule : PolicyRuleRow) : Prop :=
  fnmatch resourceId rule.resourcePattern = true ∧
      (∃ failure, StopsWith library context rule (.error failure)) ∨
    Applies library context resourceId rule ∧ PolicyEffect.parse? rule.effect = none

/-- A rule that errs comes before the first one that is fully evaluated and matches. -/
def ReachesError (rows : List PolicyRuleRow) : Prop :=
  ∃ front rule back, rows = front ++ rule :: back ∧
    (∀ earlier ∈ front, ¬ FullyMatches library context resourceId earlier) ∧
    Errs library context resourceId rule

variable {library context resourceId}

theorem StopsWith.unique {rule : PolicyRuleRow} {one two : Except ConditionFailure Bool}
    (stops : StopsWith library context rule one) (stops' : StopsWith library context rule two) :
    one = two := by
  obtain ⟨front, data, back, splits, rfl⟩ := stops
  obtain ⟨front', data', back', splits', rfl⟩ := stops'
  obtain ⟨-, rfl, -⟩ := splits.unique splits'
  rfl

theorem Errs.silently {rule : PolicyRuleRow} (errs : Errs library context resourceId rule)
    (passed : PassedOver library context resourceId rule) :
    ErrsSilently library context resourceId rule := by
  rcases errs with ⟨pattern, failure, stops⟩ | ⟨applies, -⟩
  · rcases passed with other | stops' | stops'
    · rw [pattern] at other
      cases other
    · cases stops.unique stops'
    · exact ⟨pattern, stops'⟩
  · exact absurd applies passed.not_applies

theorem ErrsSilently.errs {rule : PolicyRuleRow}
    (silent : ErrsSilently library context resourceId rule) :
    Errs library context resourceId rule :=
  .inl ⟨silent.1, _, silent.2⟩

theorem ReachesError.silent {rows front back : List PolicyRuleRow} {rule : PolicyRuleRow}
    {effect : PolicyEffect} (reaches : ReachesError library context resourceId rows)
    (splits : Splits (Applies library context resourceId) rows front rule back)
    (passed : ∀ earlier ∈ front, PassedOver library context resourceId earlier)
    (parsed : PolicyEffect.parse? rule.effect = some effect) :
    ∃ silent ∈ front, ErrsSilently library context resourceId silent := by
  obtain ⟨front', err, back', whole, before, errs⟩ := reaches
  have full : Splits (FullyMatches library context resourceId) rows front rule back := by
    refine ⟨splits.whole, fun earlier member => ?_, splits.here, by rw [parsed]; rfl⟩
    exact fun matches_ => splits.before earlier member matches_.1
  rcases full.reached whole before with member | rfl
  · exact ⟨err, member, errs.silently (passed err member)⟩
  · rcases errs with ⟨-, failure, stops⟩ | ⟨-, malformed⟩
    · exact absurd splits.here stops.not_applies
    · rw [parsed] at malformed
      cases malformed

theorem reachesError_of_silent {rows front back : List PolicyRuleRow} {rule silent : PolicyRuleRow}
    (splits : Splits (Applies library context resourceId) rows front rule back)
    (member : silent ∈ front) (errs : ErrsSilently library context resourceId silent) :
    ReachesError library context resourceId rows := by
  obtain ⟨one, two, rfl⟩ := List.append_of_mem member
  refine ⟨one, silent, two ++ rule :: back, ?_, fun earlier inside matches_ => ?_, errs.errs⟩
  · rw [splits.whole, List.append_assoc, List.cons_append]
  · exact splits.before earlier (List.mem_append_left _ inside) matches_.1

end

section

variable (engine : PolicyEngine) (resourceType resourceId actor : String) (context : State)

/-- `evaluate` returns, and what follows an error is not an ALLOW. -/
structure FailsClosed : Prop where
  returns : ∃ decision, engine.evaluate resourceType resourceId actor context = .ok decision
  denies : (engine.read ≠ .ok () ∨ ReachesError engine.library context resourceId
      (getEnabledByResourceType resourceType engine.rules)) →
    ∀ decision, engine.evaluate resourceType resourceId actor context = .ok decision →
      decision.effect ≠ .allow

/-- An ALLOW rule applies, a rule in front of it erred without a trace, and the database lets
the decision pass. -/
def AllowsPastError : Prop :=
  ∃ front rule back, Splits (Applies engine.library context resourceId)
      (getEnabledByResourceType resourceType engine.rules) front rule back ∧
    (∀ passed ∈ front, PassedOver engine.library context resourceId passed) ∧
    (∃ silent ∈ front, ErrsSilently engine.library context resourceId silent) ∧
    PolicyEffect.parse? rule.effect = some .allow ∧ engine.read = .ok () ∧
    engine.create (matchedDecision resourceType resourceId actor engine.library context rule
      .allow).row = .ok ()

def AuditAccepts : Prop :=
  ∀ decision, engine.read = .ok () →
    engine.Makes resourceType resourceId actor context decision →
    engine.create decision.row = .ok () → engine.emit decision = .ok ()

variable {engine resourceType resourceId actor context}

theorem settle_of_stored {decision : PolicyDecision}
    (stored : engine.create decision.row = .ok ()) :
    engine.settle resourceType resourceId actor decision =
      (engine.emit decision).map fun _ => decision := by
  unfold PolicyEngine.settle
  rw [stored]

theorem settle_of_refused {decision : PolicyDecision} {detail : String}
    (refused : engine.create decision.row = .error detail) :
    engine.settle resourceType resourceId actor decision =
      .ok (evaluationError resourceType resourceId actor detail) := by
  unfold PolicyEngine.settle
  rw [refused]

theorem FailsClosed.auditAccepts (closed : FailsClosed engine resourceType resourceId actor context) :
    AuditAccepts engine resourceType resourceId actor context := by
  intro decision read makes stored
  obtain ⟨answer, returned⟩ := closed.returns
  rw [evaluate_of_makes read makes, settle_of_stored stored] at returned
  cases accepted : engine.emit decision with
  | error e =>
      rw [accepted] at returned
      cases returned
  | ok sent => rfl

theorem FailsClosed.not_allowsPastError
    (closed : FailsClosed engine resourceType resourceId actor context) :
    ¬ AllowsPastError engine resourceType resourceId actor context := by
  rintro ⟨front, rule, back, splits, passed, ⟨silent, member, errs⟩, parsed, read, stored⟩
  have makes : engine.Makes resourceType resourceId actor context _ :=
    .matched splits passed parsed
  have accepted := closed.auditAccepts _ read makes stored
  have returned := evaluate_of_makes read makes
  rw [settle_of_stored stored, accepted] at returned
  exact closed.denies (.inr (reachesError_of_silent splits member errs)) _ returned rfl

/-- `evaluate` fails closed exactly when the audit store answers and no ALLOW rule comes behind
a rule whose error is swallowed. -/
theorem failsClosed_iff (engine : PolicyEngine) (resourceType resourceId actor : String)
    (context : State) :
    FailsClosed engine resourceType resourceId actor context ↔
      AuditAccepts engine resourceType resourceId actor context ∧
      ¬ AllowsPastError engine resourceType resourceId actor context := by
  constructor
  · exact fun closed => ⟨closed.auditAccepts, closed.not_allowsPastError⟩
  rintro ⟨accepts, never⟩
  by_cases made : engine.read = .ok () ∧
      ∃ decision, engine.Makes resourceType resourceId actor context decision
  · obtain ⟨read, decision, makes⟩ := made
    have settled := evaluate_of_makes read makes
    cases stored : engine.create decision.row with
    | error detail =>
        rw [settle_of_refused stored] at settled
        refine ⟨⟨_, settled⟩, fun _ answer returned => ?_⟩
        obtain rfl := Except.ok.inj (settled.symm.trans returned)
        nofun
    | ok row =>
        rw [settle_of_stored stored, accepts decision read makes stored] at settled
        refine ⟨⟨decision, settled⟩, fun errs answer returned => ?_⟩
        obtain rfl := Except.ok.inj (settled.symm.trans returned)
        have reaches := errs.resolve_left fun unread => unread read
        cases makes with
        | @matched front rule back effect splits passed parsed =>
            intro allowed
            obtain rfl : effect = .allow := allowed
            refine never ⟨front, rule, back, splits, passed, ?_, parsed, read, stored⟩
            exact reaches.silent splits passed parsed
        | default => nofun
  · obtain ⟨detail, denied⟩ := evaluate_of_error fun read decision makes =>
      made ⟨read, decision, makes⟩
    refine ⟨⟨_, denied⟩, fun _ answer returned => ?_⟩
    obtain rfl := Except.ok.inj (denied.symm.trans returned)
    nofun

end

/-! ### A comparison that cannot be made -/

def amountLimit : PolicyRuleRow :=
  { id := "R2", name := "limit", resourceType := "tool", resourcePattern := "mail"
    effect := "DENY"
    conditions := .list [.dict [("field", .str "amount"), ("operator", .str "gt"),
      ("value", .int 100)]]
    priority := 20, enabled := true }

def mailAllowed : PolicyRuleRow :=
  { id := "R3", name := "allow", resourceType := "tool", resourcePattern := "mail"
    effect := "ALLOW", conditions := .list [], priority := 10, enabled := true }

def textAmount : State := [("amount", .str "500")]

theorem text_amount_allowed :
    ¬ FailsClosed (workingEngine plainLibrary [amountLimit, mailAllowed]) "tool" "mail" "alice"
      textAmount := by
  have sorted : getEnabledByResourceType "tool" [amountLimit, mailAllowed] =
      [amountLimit, mailAllowed] := by
    refine getEnabledByResourceType_of_descending ?_ ?_
    · intro rule member
      rcases List.mem_cons.mp member with rfl | member
      · exact ⟨rfl, rfl⟩
      · obtain rfl := List.mem_singleton.mp member
        exact ⟨rfl, rfl⟩
    · refine List.pairwise_cons.mpr ⟨fun rule member => ?_, List.pairwise_singleton _ _⟩
      obtain rfl := List.mem_singleton.mp member
      decide
  have pattern : fnmatch "mail" "mail" = true := by decide
  have silent : ErrsSilently plainLibrary textAmount "mail" amountLimit := by
    have outcome : conditionOutcome plainLibrary textAmount
        [("field", .str "amount"), ("operator", .str "gt"), ("value", .int 100)] =
          .error .swallowed := rfl
    refine ⟨pattern, [], _, [], ⟨rfl, nofun, fun holds => ?_⟩, outcome⟩
    rw [holds_iff, outcome] at holds
    cases holds
  have applies : Applies plainLibrary textAmount "mail" mailAllowed := ⟨pattern, nofun⟩
  have passed : PassedOver plainLibrary textAmount "mail" amountLimit := .inr (.inr silent.2)
  intro closed
  refine closed.not_allowsPastError ⟨[amountLimit], mailAllowed, [], ⟨sorted, ?_, applies⟩, ?_,
    ⟨amountLimit, List.mem_singleton_self _, silent⟩, rfl, rfl, rfl⟩
  · exact List.forall_mem_singleton.mpr passed.not_applies
  · exact List.forall_mem_singleton.mpr passed

end SyndicateClaw.Policy
