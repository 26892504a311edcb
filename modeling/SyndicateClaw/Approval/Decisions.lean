import SyndicateClaw.Async.ReadCommitted
import SyndicateClaw.Orchestrator.Store

/-! The three paths on which an approval is decided: `ApprovalService._decide` and the routes
`approve_request` and `reject_request`. -/

namespace SyndicateClaw.Approval

open Orchestrator Async.ReadCommitted

/-- A row of `approval_requests`, with the columns as loosely typed as they are stored. -/
structure ApprovalRow where
  id : String
  actionDescription : Option String
  riskLevel : String
  status : String
  requestedBy : Option String
  assignedTo : Value
  decidedBy : Option String
  decidedAt : Option Instant
  decisionReason : Option String
  expiresAt : Option Instant
  context : Value
  scope : Value

inductive Decision where
  | approve
  | reject
  deriving DecidableEq

def Decision.status : Decision → String
  | .approve => "APPROVED"
  | .reject => "REJECTED"

inductive Refusal where
  | value (message : String)
  | permission (message : String)
  | validation
  | http (code : Nat) (detail : String)
  | notStale

namespace ApprovalRow

/-- The entries of `assigned_to`, if it is a list. -/
def assigned (row : ApprovalRow) : List String :=
  match row.assignedTo with
  | .list items => items.map Value.pyStr
  | _ => []

def decided (row : ApprovalRow) (decision : Decision) (actor reason : String) (now : Instant) :
    ApprovalRow :=
  { row with
    status := decision.status, decidedBy := some actor, decidedAt := some now
    decisionReason := some reason }

def expired (row : ApprovalRow) : ApprovalRow := { row with status := "EXPIRED" }

/-- `ApprovalRequest.model_validate(row)`; `scope` is whether `ApprovalScope` accepts. -/
def validates (scope : Value → Bool) (row : ApprovalRow) : Bool :=
  row.actionDescription.isSome && (ToolRiskLevel.parse? row.riskLevel).isSome &&
    (ApprovalStatus.parse? row.status).isSome && row.requestedBy.isSome &&
    (row.assignedTo.asList?.any fun items => items.all fun item => item.asStr?.isSome) &&
    row.expiresAt.isSome && row.context.asDict?.isSome && scope row.scope

end ApprovalRow

section

variable (scope : Value → Bool) (decision : Decision) (actor reason : String) (now : Instant)
  (row : ApprovalRow)

/-- `_decide` on the row it has read. -/
def decide : Answer ApprovalRow Refusal :=
  if row.status ≠ "PENDING" then
    .leaves (.value ("Request " ++ row.id ++ " is " ++ row.status ++ ", not PENDING"))
  else if row.requestedBy = some actor then
    .leaves (.permission ("Self-approval prohibited: " ++ actor ++
      " cannot approve their own request"))
  else if actor ∉ row.assigned then
    .leaves (.permission (actor ++ " is not in the assigned approvers list"))
  else if row.expiresAt.any (· ≤ now) then
    .undoes row.expired (.value ("Request " ++ row.id ++ " has expired"))
  else
    let row := row.decided decision actor reason now
    if row.validates scope then .writes row else .undoes row .validation

def routeRefusal (prohibited : String) : Option Refusal :=
  if row.status ≠ "PENDING" then
    some (.http 409 ("Approval is already in status " ++ row.status))
  else if row.requestedBy.any fun requester => requester ≠ "" && actor = requester then
    some (.http 403 prohibited)
  else if row.assigned ≠ [] ∧ actor ∉ row.assigned then
    some (.http 403 ("Actor '" ++ actor ++ "' is not in the assigned approvers list"))
  else none

def respond : Answer ApprovalRow Refusal :=
  if row.context.asDict?.isSome then .writes row else .undoes row .validation

/-- `approve_request`. -/
def approveRequest : Answer ApprovalRow Refusal :=
  match routeRefusal actor row
      "Self-approval prohibited: requester cannot approve their own request" with
  | some refusal => .leaves refusal
  | none =>
      if row.expiresAt.any (· < now) then
        .undoes row.expired (.http 410 "Approval request has expired")
      else respond (row.decided .approve actor reason now)

/-- `reject_request`. -/
def rejectRequest : Answer ApprovalRow Refusal :=
  match routeRefusal actor row
      "Self-rejection prohibited: requester cannot reject their own request" with
  | some refusal => .leaves refusal
  | none => respond (row.decided .reject actor reason now)

def route : Answer ApprovalRow Refusal :=
  match decision with
  | .approve => approveRequest actor reason now row
  | .reject => rejectRequest actor reason now row

def Accepts (answer : Answer ApprovalRow Refusal) : Prop := ∃ row, answer = .writes row

/-! ### The rules -/

/-- The row is pending, the actor is one of its approvers and not its requester, and the
deadline is in the future. -/
structure MayDecide : Prop where
  pending : row.status = "PENDING"
  other : row.requestedBy ≠ some actor
  approver : actor ∈ row.assigned
  inTime : ∀ deadline, row.expiresAt = some deadline → now < deadline

structure EnforcesRules : Prop where
  service : Accepts (decide scope decision actor reason now row) ↔ MayDecide actor now row
  route : Accepts (route decision actor reason now row) ↔ MayDecide actor now row

structure RoutePasses : Prop where
  pending : row.status = "PENDING"
  other : ∀ requester, row.requestedBy = some requester → requester ≠ "" → actor ≠ requester
  approver : row.assigned = [] ∨ actor ∈ row.assigned
  inTime : decision = .approve → ∀ deadline, row.expiresAt = some deadline → now ≤ deadline
  object : row.context.asDict?.isSome = true

/-- Where a route asks for less than the rules: there are no approvers, the deadline has come,
or the requester has no name. -/
inductive RouteGap : Prop where
  | unassigned : row.assigned = [] → RouteGap
  | late (deadline : Instant) : row.expiresAt = some deadline → deadline ≤ now → RouteGap
  | nameless : row.requestedBy = some "" → actor = "" → RouteGap

variable {scope decision actor reason now row}

theorem not_accepts_leaves {why : Refusal} : ¬ Accepts (.leaves why) := by
  rintro ⟨row, written⟩
  cases written

theorem not_accepts_undoes {row : ApprovalRow} {why : Refusal} : ¬ Accepts (.undoes row why) := by
  rintro ⟨row, written⟩
  cases written

theorem accepts_writes (row : ApprovalRow) : Accepts (.writes row) := ⟨row, rfl⟩

theorem decide_accepts :
    Accepts (decide scope decision actor reason now row) ↔
      MayDecide actor now row ∧ (row.decided decision actor reason now).validates scope = true := by
  unfold decide
  by_cases pending : row.status = "PENDING"
  swap
  · rw [if_pos pending]
    exact iff_of_false not_accepts_leaves fun both => pending both.1.pending
  rw [if_neg (not_not.mpr pending)]
  by_cases other : row.requestedBy = some actor
  · rw [if_pos other]
    exact iff_of_false not_accepts_leaves fun both => both.1.other other
  rw [if_neg other]
  by_cases approver : actor ∈ row.assigned
  swap
  · rw [if_pos approver]
    exact iff_of_false not_accepts_leaves fun both => approver both.1.approver
  rw [if_neg (not_not.mpr approver)]
  by_cases late : row.expiresAt.any (· ≤ now) = true
  · rw [if_pos late]
    refine iff_of_false not_accepts_undoes fun both => ?_
    obtain ⟨deadline, due, passed⟩ := (Option.any_eq_true _ _).mp late
    exact absurd (both.1.inTime deadline due) (not_lt.mpr (of_decide_eq_true passed))
  rw [if_neg late]
  have allowed : MayDecide actor now row := by
    refine ⟨pending, other, approver, fun deadline due => ?_⟩
    rw [due] at late
    simpa using late
  by_cases valid : (row.decided decision actor reason now).validates scope = true
  · rw [if_pos valid]
    exact iff_of_true (accepts_writes _) ⟨allowed, valid⟩
  · rw [if_neg valid]
    exact iff_of_false not_accepts_undoes fun both => valid both.2

theorem routeRefusal_eq_none {prohibited : String} :
    routeRefusal actor row prohibited = none ↔ row.status = "PENDING" ∧
      (∀ requester, row.requestedBy = some requester → requester ≠ "" → actor ≠ requester) ∧
      (row.assigned = [] ∨ actor ∈ row.assigned) := by
  unfold routeRefusal
  by_cases pending : row.status = "PENDING"
  swap
  · rw [if_pos pending]
    exact iff_of_false nofun fun all => pending all.1
  rw [if_neg (not_not.mpr pending)]
  by_cases own : (row.requestedBy.any fun requester => requester ≠ "" && actor = requester) = true
  · rw [if_pos own]
    refine iff_of_false nofun fun all => ?_
    obtain ⟨requester, requested, same⟩ := (Option.any_eq_true _ _).mp own
    rw [Bool.and_eq_true, decide_eq_true_eq, decide_eq_true_eq] at same
    exact all.2.1 requester requested same.1 same.2
  rw [if_neg own]
  have other : ∀ requester, row.requestedBy = some requester → requester ≠ "" →
      actor ≠ requester := by
    intro requester requested named same
    refine own ((Option.any_eq_true _ _).mpr ⟨requester, requested, ?_⟩)
    rw [Bool.and_eq_true, decide_eq_true_eq, decide_eq_true_eq]
    exact ⟨named, same⟩
  by_cases stranger : row.assigned ≠ [] ∧ actor ∉ row.assigned
  · rw [if_pos stranger]
    exact iff_of_false nofun fun all => all.2.2.elim stranger.1 stranger.2
  · rw [if_neg stranger]
    refine iff_of_true rfl ⟨pending, other, ?_⟩
    by_cases empty : row.assigned = []
    · exact .inl empty
    · exact .inr (not_not.mp fun absent => stranger ⟨empty, absent⟩)

theorem respond_accepts {row : ApprovalRow} :
    Accepts (respond row) ↔ row.context.asDict?.isSome = true := by
  unfold respond
  split
  · next object => exact iff_of_true (accepts_writes row) object
  · next other => exact iff_of_false not_accepts_undoes other

theorem approveRequest_accepts :
    Accepts (approveRequest actor reason now row) ↔ RoutePasses .approve actor now row := by
  unfold approveRequest
  split
  · next refusal refused =>
      refine iff_of_false not_accepts_leaves fun passes => ?_
      rw [routeRefusal_eq_none.mpr ⟨passes.pending, passes.other, passes.approver⟩] at refused
      cases refused
  · next open_ =>
      obtain ⟨pending, other, approver⟩ := routeRefusal_eq_none.mp open_
      by_cases late : row.expiresAt.any (· < now) = true
      · rw [if_pos late]
        refine iff_of_false not_accepts_undoes fun passes => ?_
        obtain ⟨deadline, due, passed⟩ := (Option.any_eq_true _ _).mp late
        exact absurd (passes.inTime rfl deadline due) (not_le.mpr (of_decide_eq_true passed))
      · rw [if_neg late]
        refine respond_accepts.trans ⟨fun object => ⟨pending, other, approver, ?_, object⟩,
          fun passes => passes.object⟩
        intro _ deadline due
        rw [due] at late
        simpa using late

theorem rejectRequest_accepts :
    Accepts (rejectRequest actor reason now row) ↔ RoutePasses .reject actor now row := by
  unfold rejectRequest
  split
  · next refusal refused =>
      refine iff_of_false not_accepts_leaves fun passes => ?_
      rw [routeRefusal_eq_none.mpr ⟨passes.pending, passes.other, passes.approver⟩] at refused
      cases refused
  · next open_ =>
      obtain ⟨pending, other, approver⟩ := routeRefusal_eq_none.mp open_
      exact respond_accepts.trans ⟨fun object => ⟨pending, other, approver, nofun, object⟩,
        fun passes => passes.object⟩

theorem route_accepts :
    Accepts (route decision actor reason now row) ↔ RoutePasses decision actor now row := by
  cases decision with
  | approve => exact approveRequest_accepts
  | reject => exact rejectRequest_accepts

theorem RouteGap.not_mayDecide (gap : RouteGap actor now row) : ¬ MayDecide actor now row := by
  intro may
  cases gap with
  | unassigned empty =>
      have member := may.approver
      rw [empty] at member
      cases member
  | late deadline due passed => exact absurd (may.inTime deadline due) (not_lt.mpr passed)
  | nameless requested nameless => exact may.other (nameless ▸ requested)

theorem RoutePasses.mayDecide (passes : RoutePasses decision actor now row)
    (strict : ¬ RouteGap actor now row) : MayDecide actor now row := by
  refine ⟨passes.pending, fun requested => ?_, ?_, fun deadline due => ?_⟩
  · by_cases named : actor = ""
    · exact strict (.nameless (named ▸ requested) named)
    · exact passes.other actor requested named rfl
  · exact passes.approver.resolve_left fun empty => strict (.unassigned empty)
  · exact not_le.mp fun passed => strict (.late deadline due passed)

theorem MayDecide.routePasses (may : MayDecide actor now row)
    (object : row.context.asDict?.isSome = true) : RoutePasses decision actor now row := by
  refine ⟨may.pending, fun requester requested _ same => ?_, .inr may.approver, ?_, object⟩
  · exact may.other (same ▸ requested)
  · exact fun _ deadline due => le_of_lt (may.inTime deadline due)

theorem object_of_validates
    (valid : (row.decided decision actor reason now).validates scope = true) :
    row.context.asDict?.isSome = true := by
  simp only [ApprovalRow.validates, Bool.and_eq_true] at valid
  exact valid.1.2

/-- The paths decide by the same rules exactly when every row that may be decided validates,
and no route passes where it asks for less. -/
theorem enforcesRules_iff (scope : Value → Bool) (decision : Decision) (actor reason : String)
    (now : Instant) (row : ApprovalRow) :
    EnforcesRules scope decision actor reason now row ↔
      (MayDecide actor now row →
        (row.decided decision actor reason now).validates scope = true) ∧
      ¬ (RoutePasses decision actor now row ∧ RouteGap actor now row) := by
  constructor
  · intro enforces
    refine ⟨fun may => (decide_accepts.mp (enforces.service.mpr may)).2, ?_⟩
    rintro ⟨passes, gap⟩
    exact gap.not_mayDecide (enforces.route.mp (route_accepts.mpr passes))
  · rintro ⟨valid, strict⟩
    refine ⟨decide_accepts.trans ⟨fun both => both.1, fun may => ⟨may, valid may⟩⟩,
      route_accepts.trans ⟨fun passes => ?_, fun may => ?_⟩⟩
    · exact passes.mayDecide fun gap => strict ⟨passes, gap⟩
    · exact may.routePasses (object_of_validates (valid may))

end

/-! ### The rows the engine stores -/

def ofRequestRow (row : ApprovalRequestRow) : ApprovalRow :=
  { id := row.id, actionDescription := some row.actionDescription
    riskLevel := row.riskLevel.value, status := row.status.value
    requestedBy := some row.requestedBy, assignedTo := .list (row.assignedTo.map .str)
    decidedBy := row.decidedBy, decidedAt := row.decidedAt, decisionReason := row.decisionReason
    expiresAt := row.expiresAt, context := .dict row.context, scope := row.scope }

theorem ofRequestRow_assigned (row : ApprovalRequestRow) :
    (ofRequestRow row).assigned = row.assignedTo := by
  show (row.assignedTo.map Value.str).map Value.pyStr = row.assignedTo
  rw [List.map_map]
  exact List.map_id'' (fun _ => rfl) row.assignedTo

theorem status_value_eq_pending {status : ApprovalStatus} :
    status.value = "PENDING" ↔ status = .pending := by
  cases status <;> decide

theorem ofRequestRow_validates {scope : Value → Bool} {row : ApprovalRequestRow}
    {decision : Decision} {actor reason : String} {now : Instant}
    (dated : row.expiresAt.isSome = true) (valid : scope row.scope = true) :
    ((ofRequestRow row).decided decision actor reason now).validates scope = true := by
  have risk : (ToolRiskLevel.parse? row.riskLevel.value).isSome = true := by
    cases row.riskLevel <;> rfl
  have status : (ApprovalStatus.parse? decision.status).isSome = true := by
    cases decision <;> rfl
  have texts : (row.assignedTo.map Value.str).all (fun item => item.asStr?.isSome) = true := by
    rw [List.all_eq_true]
    intro item member
    obtain ⟨text, -, rfl⟩ := List.mem_map.mp member
    rfl
  simp only [ApprovalRow.validates, Bool.and_eq_true]
  exact ⟨⟨⟨⟨⟨⟨⟨rfl, risk⟩, status⟩, rfl⟩, texts⟩, dated⟩, rfl⟩, valid⟩

/-- On a row the engine has stored, `decideApproval` accepts what `decide` accepts. -/
theorem decideApproval_accepts {db : Database} {id actor reason : String} {now : Instant}
    {row : ApprovalRequestRow} {scope : Value → Bool} (decision : Decision)
    (status : ApprovalStatus) (stored : db.approvals id = some row)
    (dated : row.expiresAt.isSome = true) (valid : scope row.scope = true) :
    (∃ db', decideApproval db id actor reason status now = .ok db') ↔
      Accepts (decide scope decision actor reason now (ofRequestRow row)) := by
  rw [decide_accepts, and_iff_left (ofRequestRow_validates dated valid)]
  unfold decideApproval
  rw [stored]
  dsimp only
  constructor
  · rintro ⟨db', accepted⟩
    split_ifs at accepted with pending other approver late
    refine ⟨status_value_eq_pending.mpr (not_not.mp pending), ?_, ?_, fun deadline due => ?_⟩
    · exact fun requested => other (Option.some.inj requested).symm
    · rw [ofRequestRow_assigned]
      exact approver
    · have due : row.expiresAt = some deadline := due
      rw [due] at late
      simpa using late
  · intro may
    have approver := may.approver
    rw [ofRequestRow_assigned] at approver
    have late : ¬ row.expiresAt.any (· ≤ now) = true := by
      intro passed
      obtain ⟨deadline, due, passed⟩ := (Option.any_eq_true _ _).mp passed
      exact absurd (may.inTime deadline due) (not_lt.mpr (of_decide_eq_true passed))
    rw [if_neg (not_not.mpr (status_value_eq_pending.mp may.pending)),
      if_neg fun same => may.other (congrArg some same.symm), if_neg (not_not.mpr approver),
      if_neg late]
    exact ⟨_, rfl⟩

/-! ### Late decisions -/

inductive Path where
  | service
  | route
  deriving DecidableEq

/-- The row is pending and its deadline has passed; else the actor could decide it. -/
structure Late (actor : String) (now : Instant) (row : ApprovalRow) : Prop where
  pending : row.status = "PENDING"
  other : row.requestedBy ≠ some actor
  approver : actor ∈ row.assigned
  passed : ∃ deadline, row.expiresAt = some deadline ∧ deadline ≤ now

section

variable (scope : Value → Bool) (path : Path) (decision : Decision) (actor reason : String)
  (now : Instant) (row : ApprovalRow)

def Path.answer : Answer ApprovalRow Refusal :=
  match path with
  | .service => decide scope decision actor reason now row
  | .route => Approval.route decision actor reason now row

structure Expires : Prop where
  fails : ¬ Accepts (path.answer scope decision actor reason now row)
  expired : ((path.answer scope decision actor reason now row).stored row).status = "EXPIRED"

variable {row}

theorem stored_of_not_accepts {answer : Answer ApprovalRow Refusal} (fails : ¬ Accepts answer) :
    answer.stored row = row := by
  cases answer with
  | leaves why => rfl
  | undoes new why => rfl
  | writes new => exact absurd (accepts_writes new) fails

/-- No attempt to decide a late request leaves it expired. -/
theorem late_never_expires (late : Late actor now row) :
    ¬ Expires scope path decision actor reason now row := by
  intro expires
  have kept := expires.expired
  rw [stored_of_not_accepts expires.fails, late.pending] at kept
  exact absurd kept (by decide)

end

def lateRow : ApprovalRow :=
  { id := "A1", actionDescription := some "Execute tool: mail", riskLevel := "LOW"
    status := "PENDING", requestedBy := some "alice", assignedTo := .list [.str "bob"]
    decidedBy := none, decidedAt := none, decisionReason := none, expiresAt := some 100
    context := .dict [], scope := .dict [] }

theorem lateRow_late : Late "bob" 200 lateRow :=
  ⟨rfl, by decide, by decide, 100, rfl, by decide⟩

theorem late_row_kept : ¬ Expires (fun _ => true) .service .approve "bob" "" 200 lateRow :=
  late_never_expires (fun _ => true) .service .approve "bob" "" 200 lateRow_late

/-- The service and the approving route leave the row pending, and the other route rejects it. -/
theorem late_row_stored :
    ((Path.service.answer (fun _ => true) .approve "bob" "" 200 lateRow).stored lateRow).status =
        "PENDING" ∧
      ((Path.route.answer (fun _ => true) .approve "bob" "" 200 lateRow).stored lateRow).status =
        "PENDING" ∧
      ((Path.route.answer (fun _ => true) .reject "bob" "" 200 lateRow).stored lateRow).status =
        "REJECTED" ∧
      ¬ Expires (fun _ => true) .service .approve "bob" "" 200 lateRow := by
  refine ⟨by decide, by decide, by decide, fun expires => ?_⟩
  exact absurd expires.expired (by decide)

/-! ### A row without approvers -/

def unassignedRow : ApprovalRow :=
  { id := "A1", actionDescription := some "Execute tool: mail", riskLevel := "LOW"
    status := "PENDING", requestedBy := some "alice", assignedTo := .list [], decidedBy := none
    decidedAt := none, decisionReason := none, expiresAt := some 100, context := .dict []
    scope := .dict [] }

theorem unassigned_row_approved :
    ¬ EnforcesRules (fun _ => true) .approve "mallory" "" 10 unassignedRow := by
  intro enforces
  have accepted : Accepts (route .approve "mallory" "" 10 unassignedRow) := ⟨_, rfl⟩
  have member := (enforces.route.mp accepted).approver
  cases member

end SyndicateClaw.Approval
