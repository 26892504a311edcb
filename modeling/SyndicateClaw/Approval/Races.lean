import SyndicateClaw.Approval.Decisions

/-! Decisions and expiries of one approval that run at the same time.

Each reads the row in a transaction of its own, checks that it is pending and writes the
columns it has changed; nothing holds the row between the check and the write. -/

namespace SyndicateClaw.Approval

open Orchestrator Async.ReadCommitted

inductive Operation where
  | service (decision : Decision) (approver reason : String) (now : Instant)
  | route (decision : Decision) (actor reason : String) (now : Instant)
  | expireStale (now : Instant)

/-- `expire_stale` on the row: it is selected if it is pending and past its deadline. -/
def expireStale (now : Instant) (row : ApprovalRow) : Answer ApprovalRow Refusal :=
  if row.status = "PENDING" ∧ row.expiresAt.any (· ≤ now) then .writes row.expired
  else .leaves .notStale

def Operation.answer (scope : Value → Bool) : Operation → ApprovalRow → Answer ApprovalRow Refusal
  | .service decision approver reason now, row => decide scope decision approver reason now row
  | .route decision actor reason now, row => Approval.route decision actor reason now row
  | .expireStale now, row => Approval.expireStale now row

def Operation.status : Operation → String
  | .service decision _ _ _ => decision.status
  | .route decision _ _ _ => decision.status
  | .expireStale _ => "EXPIRED"

/-- Who has decided, once the operation has; an expiry leaves the column as it was. -/
def Operation.decidedBy (row : ApprovalRow) : Operation → Option String
  | .service _ approver _ _ => some approver
  | .route _ actor _ _ => some actor
  | .expireStale _ => row.decidedBy

/-- A column of an `UPDATE`: it is set if it has changed since the row was read. -/
def changed {α : Type} [DecidableEq α] (seen new current : α) : α :=
  if new = seen then current else new

/-- The flush of a row: no operation changes a column that is missing here. -/
def save (seen new current : ApprovalRow) : ApprovalRow :=
  { current with
    status := changed seen.status new.status current.status
    decidedBy := changed seen.decidedBy new.decidedBy current.decidedBy
    decidedAt := changed seen.decidedAt new.decidedAt current.decidedAt
    decisionReason := changed seen.decisionReason new.decisionReason current.decisionReason }

theorem changed_self {α : Type} [DecidableEq α] (row new : α) : changed row new row = new := by
  unfold changed
  split
  · next same => exact same.symm
  · rfl

theorem save_status (row new : ApprovalRow) : (save row new row).status = new.status :=
  changed_self row.status new.status

theorem save_decidedBy (row new : ApprovalRow) : (save row new row).decidedBy = new.decidedBy :=
  changed_self row.decidedBy new.decidedBy

theorem Operation.writes {scope : Value → Bool} {operation : Operation} {row new : ApprovalRow}
    (answer : operation.answer scope row = .writes new) :
    new.status = operation.status ∧ new.decidedBy = operation.decidedBy row := by
  cases operation with
  | service decision approver reason now =>
      change decide scope decision approver reason now row = .writes new at answer
      unfold decide at answer
      dsimp only at answer
      split_ifs at answer
      cases answer
      exact ⟨rfl, rfl⟩
  | route decision actor reason now =>
      have responds {row' : ApprovalRow} (answer : respond row' = .writes new) : row' = new := by
        unfold respond at answer
        split_ifs at answer
        cases answer
        rfl
      cases decision with
      | approve =>
          change approveRequest actor reason now row = .writes new at answer
          unfold approveRequest at answer
          split at answer
          · cases answer
          · split_ifs at answer
            obtain rfl := responds answer
            exact ⟨rfl, rfl⟩
      | reject =>
          change rejectRequest actor reason now row = .writes new at answer
          unfold rejectRequest at answer
          split at answer
          · cases answer
          · obtain rfl := responds answer
            exact ⟨rfl, rfl⟩
  | expireStale now =>
      change Approval.expireStale now row = .writes new at answer
      unfold Approval.expireStale at answer
      split_ifs at answer
      cases answer
      exact ⟨rfl, rfl⟩

theorem Operation.status_ne_pending (operation : Operation) : operation.status ≠ "PENDING" := by
  have decided (decision : Decision) : decision.status ≠ "PENDING" := by
    cases decision <;> decide
  cases operation with
  | service decision => exact decided decision
  | route decision => exact decided decision
  | expireStale => exact (by decide : "EXPIRED" ≠ "PENDING")

section

variable {ι : Type} [DecidableEq ι] (scope : Value → Bool) (operations : ι → Operation)
  (row : ApprovalRow)

/-- The states that runs of the operations on the row reach. -/
abbrev Interleaving (allowed : Shared ι ApprovalRow → Shared ι ApprovalRow → Prop)
    (s : Shared ι ApprovalRow) : Prop :=
  Reaches (fun i => (operations i).answer scope) save allowed row s

abbrev IsPending (row : ApprovalRow) : Prop := row.status = "PENDING"

/-- At most one operation has reported success, and the row is as it has left it. -/
def Settled (s : Shared ι ApprovalRow) : Prop :=
  ∀ i, s.phase i = .committed true →
    (∀ j, s.phase j = .committed true → j = i) ∧
    s.committed.status = (operations i).status ∧
    s.committed.decidedBy = (operations i).decidedBy row

variable {scope operations row}

/-- As long as no write that is to be committed meets a row that is no longer pending, one
operation at most succeeds and its decision stays. -/
theorem settled_of_writesPending {s : Shared ι ApprovalRow}
    (run : Interleaving scope operations row (WritesFresh IsPending) s) :
    Settled operations row s := by
  have stales : ∀ i new, (operations i).answer scope row = .writes new →
      ¬ IsPending (save row new row) := by
    intro i new answer
    rw [IsPending, save_status, (Operation.writes answer).1]
    exact (operations i).status_ne_pending
  intro i success
  rcases serial_of_reaches stales run with untouched | ⟨winner, new, won⟩
  · exact absurd ⟨true, success⟩ (untouched.nobody i)
  · obtain rfl := won.only i ⟨true, success⟩
    obtain ⟨status, decidedBy⟩ := Operation.writes won.writes
    refine ⟨fun j success' => won.only j ⟨true, success'⟩, ?_, ?_⟩
    · rw [won.committed, save_status, status]
    · rw [won.committed, save_decidedBy, decidedBy]

end

/-! ### Two approvers at once -/

def sharedRow : ApprovalRow :=
  { id := "A1", actionDescription := some "Execute tool: mail", riskLevel := "LOW"
    status := "PENDING", requestedBy := some "alice"
    assignedTo := .list [.str "bob", .str "carol"], decidedBy := none, decidedAt := none
    decisionReason := none, expiresAt := some 100, context := .dict [], scope := .dict [] }

def bobAndCarol : Bool → Operation
  | true => .service .approve "bob" "" 10
  | false => .service .reject "carol" "" 10

abbrev bobAndCarolAnswer : Bool → ApprovalRow → Answer ApprovalRow Refusal :=
  fun i => (bobAndCarol i).answer fun _ => true

def bobRow : ApprovalRow := sharedRow.decided .approve "bob" "" 10

def carolRow : ApprovalRow := sharedRow.decided .reject "carol" "" 10

theorem bob_writes : bobAndCarolAnswer true sharedRow = .writes bobRow := rfl

theorem carol_writes : bobAndCarolAnswer false sharedRow = .writes carolRow := rfl

theorem bob_settles : ∃ s : Shared Bool ApprovalRow,
    s.phase true = .committed true ∧ Settled bobAndCarol sharedRow s := by
  have run : Interleaving (fun _ => true) bobAndCarol sharedRow (WritesFresh IsPending) _ :=
    ((Reaches.start.step (.read (i := true) rfl) fun _ _ _ => rfl).step
      (.flush (i := true) rfl bob_writes rfl) fun _ _ _ => rfl).step
      (.commit (i := true) true rfl rfl) fun _ _ _ => rfl
  exact ⟨_, rfl, settled_of_writesPending run⟩

/-- Both read the pending row, and both succeed: Carol's decision replaces Bob's. -/
theorem both_succeed : ∃ s : Shared Bool ApprovalRow,
    Interleaving (fun _ => true) bobAndCarol sharedRow (fun _ _ => True) s ∧
      ¬ Settled bobAndCarol sharedRow s := by
  have run : Interleaving (fun _ => true) bobAndCarol sharedRow (fun _ _ => True) _ :=
    (((((Reaches.start.step (.read (i := true) rfl) trivial).step
      (.read (i := false) rfl) trivial).step
      (.flush (i := true) rfl bob_writes rfl) trivial).step
      (.commit (i := true) true rfl rfl) trivial).step
      (.flush (i := false) rfl carol_writes rfl) trivial).step
      (.commit (i := false) true rfl rfl) trivial
  refine ⟨_, run, fun settled => ?_⟩
  have alone := (settled true rfl).1 false rfl
  cases alone

end SyndicateClaw.Approval
