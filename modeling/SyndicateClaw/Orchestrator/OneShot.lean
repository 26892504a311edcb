import SyndicateClaw.Orchestrator.ApprovalResume
import SyndicateClaw.Orchestrator.Calls

/-! An approval is redeemed at most once, as long as no boundary writes over the row
that says so.

The mark of a redemption is `consumed_at` in the row's context. Decisions and other
redemptions leave it alone; only `_persist_approval_boundary` stores a new context. -/

namespace SyndicateClaw.Orchestrator

open Async

def Event.redeems (approvalId : String) : Event → Bool
  | .consumed _ id _ => id = approvalId
  | _ => false

/-- `approval.context.get("consumed_at")` is set. -/
def ApprovalRequestRow.redeemed (row : ApprovalRequestRow) : Bool :=
  (lookup row.context "consumed_at").truthy

def Unredeemed (approvalId : String) (db : Database) (requestId : String) : Prop :=
  requestId = approvalId → ∀ row, db.approvals requestId = some row → row.redeemed = false

/-- At most one redemption so far, and if there was one, its row says so. -/
structure RedeemedOnce (approvalId : String) (w : World) : Prop where
  once : w.trail.countP (·.redeems approvalId) ≤ 1
  marked : 0 < w.trail.countP (·.redeems approvalId) →
    ∃ row, w.db.approvals approvalId = some row ∧ row.redeemed = true

section invariant

variable {engine : WorkflowEngine} {approvalId : String}

theorem RedeemedOnce.of_same {w w' : World} (holds : RedeemedOnce approvalId w)
    (trail : w'.trail.countP (·.redeems approvalId) = w.trail.countP (·.redeems approvalId))
    (row : ∀ row, w.db.approvals approvalId = some row → row.redeemed = true →
      ∃ row', w'.db.approvals approvalId = some row' ∧ row'.redeemed = true) :
    RedeemedOnce approvalId w' := by
  refine ⟨trail ▸ holds.once, fun positive => ?_⟩
  obtain ⟨found, present, redeemed⟩ := holds.marked (trail ▸ positive)
  exact row found present redeemed

theorem redeemed_of_consumption {now : Instant} {db : Database} {runId id : String}
    {consumption : Consumption} (passed : consumeApproval now db runId id = .ok consumption) :
    consumption.approval.redeemed = true ∧
      ∃ row, db.approvals id = some row ∧ row.redeemed = false := by
  obtain ⟨approval, row, resumeNode, present, -, -, unconsumed, -, -, -, written, -⟩ :=
    consumeApproval_ok passed
  refine ⟨?_, approval, present, unconsumed⟩
  simp [written, ApprovalRequestRow.redeemed, lookup, Dict.get?_set, Value.truthy,
    Instant.isoformat_ne_empty]

theorem redeemed_redecided {db db' : Database} (redecided : db.Redecided db') :
    ∀ row, db.approvals approvalId = some row → row.redeemed = true →
      ∃ row', db'.approvals approvalId = some row' ∧ row'.redeemed = true := by
  obtain ⟨-, f, rows, kept⟩ := redecided
  intro row present redeemed
  refine ⟨f approvalId row, by rw [rows, present, Option.map_some], ?_⟩
  rw [ApprovalRequestRow.redeemed, (kept approvalId row).2]
  exact redeemed

theorem stable_redeemedOnce (workflow : WorkflowDefinition → Prop) :
    Stable engine (.concurrent workflow (Unredeemed approvalId)) (RedeemedOnce approvalId) := by
  intro w w' write holds
  have unchanged : ∀ row, w.db.approvals approvalId = some row → row.redeemed = true →
      ∃ row', w.db.approvals approvalId = some row' ∧ row'.redeemed = true :=
    fun row present redeemed => ⟨row, present, redeemed⟩
  cases write with
  | persistBoundary ref runId nodeId execution request owns owned context asked allowed =>
      refine holds.of_same rfl fun row present redeemed => ?_
      by_cases same : request.id = approvalId
      · have unredeemed := allowed same row (same ▸ present)
        rw [redeemed] at unredeemed
        cases unredeemed
      · refine ⟨row, ?_, redeemed⟩
        rw [Database.persistApprovalBoundary_approvals, Function.update_of_ne (Ne.symm same)]
        exact present
  | redeem consumption runId id passed =>
      obtain ⟨redeemed, row, present, unredeemed⟩ := redeemed_of_consumption passed
      by_cases same : id = approvalId
      · subst same
        have none : w.trail.countP (·.redeems id) = 0 := by
          by_contra positive
          obtain ⟨row', present', marked⟩ := holds.marked (Nat.pos_of_ne_zero positive)
          obtain rfl := Option.some.inj (present.symm.trans present')
          rw [unredeemed] at marked
          cases marked
        constructor
        · rw [World.redeem, List.countP_append, none]
          simp [Event.redeems]
        · intro _
          exact ⟨consumption.approval, by simp [World.redeem, Consumption.commit,
            Database.setApproval], redeemed⟩
      · refine holds.of_same (by simp [World.redeem, Event.redeems, same]) ?_
        intro row present redeemed
        refine ⟨row, ?_, redeemed⟩
        simpa [World.redeem, Consumption.commit, Database.setApproval,
          Function.update_of_ne (Ne.symm same)] using present
  | decide requestId approver reason status db decided accepted =>
      exact holds.of_same rfl (redeemed_redecided (decideApproval_redecided accepted))
  | expire => exact holds.of_same rfl (redeemed_redecided (expireStale_redecided w.db w.now))
  | _ =>
      refine holds.of_same ?_ unchanged
      simp [Event.redeems, World.dispatch, World.handled, World.invoke, World.redeemInMemory]

/-- A call of `resume_after_approval` first runs its transaction: it raises
`ValueError` there with nothing changed, or it redeems the approval and executes. -/
def RaisesOrRedeems (engine : WorkflowEngine) (approvalId : String) : Prop :=
  ∀ runId workflow context w,
    resumeAfterApproval engine runId approvalId workflow context w =
      .yield (.consumeApproval approvalId) w fun w' =>
        match consumeApproval w'.now w'.db runId approvalId with
        | .error message => .raise w' (.value message)
        | .ok consumption => execute engine w'.nextObject context workflow
            (w'.redeem consumption runId approvalId)

theorem raisesOrRedeems (stored : engine.sessionFactory = true) (approvalId : String) :
    RaisesOrRedeems engine approvalId := by
  intro runId workflow context w
  have first : resumeAfterApproval engine runId approvalId workflow context =
      resumeFromStore runId approvalId >>= fun ref => execute engine ref context workflow := by
    simp [resumeAfterApproval, stored]
  rw [first]
  show Res.yield _ _ _ = _
  congr
  funext w'
  show Res.bind ((match consumeApproval w'.now w'.db runId approvalId with
    | .error message => Co.raise (.value message)
    | .ok consumption => _ : EngineM Nat) w') _ = _
  cases consumeApproval w'.now w'.db runId approvalId <;> rfl

/-- In a history whose boundaries never find this approval redeemed, at most one call
passes its transaction; every other one has raised there. -/
theorem approval_redeemed_once (stored : engine.sessionFactory = true) (approvalId : String)
    {start : World} (allocated : start.Allocated)
    (first : start.trail.countP (·.redeems approvalId) = 0) {activities : List Activity}
    (allowed : ∀ (n : Nat) (activity : Activity), activities[n]? = some activity →
      activity.Allowed (.concurrent (fun _ => True) (Unredeemed approvalId))
        (poolAfter engine start activities n)) :
    RaisesOrRedeems engine approvalId ∧
      ∀ n, (worldAfter engine start activities n).trail.countP (·.redeems approvalId) ≤ 1 := by
  refine ⟨raisesOrRedeems stored approvalId, fun n => ?_⟩
  have begins : RedeemedOnce approvalId start :=
    ⟨by rw [first]; exact Nat.zero_le 1, fun positive => by rw [first] at positive; cases positive⟩
  exact (history_invariant (stable_redeemedOnce _) begins allocated allowed n).once

end invariant

section witness

def grantedRun : World := pairWorld waitingForSecond twoApprovals none

def twoCalls : List Activity :=
  [.call (.resumeAfterApproval "run" "first" ⟨"workflow", [], []⟩ plainContext),
   .call (.resumeAfterApproval "run" "first" ⟨"workflow", [], []⟩ plainContext),
   .proceed 0, .proceed 1]

theorem grantedRun_allocated : grantedRun.Allocated := by
  intro runId result found
  by_cases same : runId = "run"
  · subst same
    cases found
    exact ⟨Nat.zero_lt_one, rfl⟩
  · simp [grantedRun, pairWorld, World.started, waitingForSecond, startRun, same] at found

theorem twoCalls_allowed :
    ∀ (n : Nat) (activity : Activity), twoCalls[n]? = some activity →
      activity.Allowed (.concurrent (fun _ => True) (Unredeemed "first"))
        (poolAfter (.plain (fun _ => none) true) grantedRun twoCalls n) := by
  intro n activity present
  rcases n with _ | _ | _ | _ | n
  · cases present
    trivial
  · cases present
    trivial
  · cases present
    intro point k found
    cases found
    trivial
  · cases present
    intro point k found
    cases found
    trivial
  · cases present

theorem approval_redeemed_once_two_calls :
    (worldAfter (.plain (fun _ => none) true) grantedRun twoCalls 3).trail.countP
        (·.redeems "first") = 1 ∧
      ∀ n, (worldAfter (.plain (fun _ => none) true) grantedRun twoCalls n).trail.countP
        (·.redeems "first") ≤ 1 :=
  ⟨by decide +kernel, (approval_redeemed_once rfl "first" grantedRun_allocated rfl
    twoCalls_allowed).2⟩

end witness

/-! ### An approval redeemed twice

The second node asks for an approval without naming one. The engine finds the first
node's request still under `_pending_approval` and stores it again, pending and
without its mark; approved once more, it is redeemed by the call that was still
waiting for the row. -/

section twice

def gateHandler : NodeHandler := fun _ state context =>
  match (lookup state "_approval_resume").asDict? with
  | some _ => { state, effects := [], exit := .returned { outputState := state } }
  | none =>
      { state := Dict.set state "_pending_approval" (.dict (firstRequest.modelDump 0))
        effects := []
        exit := .waitForApproval (asksFor firstRequest.id context.nodeId) }

def askHandler : NodeHandler := fun _ state context =>
  { state, effects := [], exit := .waitForApproval (asksFor "" context.nodeId) }

def gatedEngine : WorkflowEngine :=
  .plain (fun
    | "start" => some echoHandler
    | "gate" => some gateHandler
    | "ask" => some askHandler
    | _ => none) true

def gatedTwice : WorkflowDefinition :=
  { id := "workflow"
    nodes := [.plain "start" .start "start", .plain "first" .approval "gate",
      .plain "second" .action "ask"]
    edges := [.plain "start" "first", .plain "first" "second"] }

def twoResumptions : List Activity :=
  [.call (.execute 0 plainContext gatedTwice)] ++ List.replicate 16 (.proceed 0) ++
    [.approve "ulid-1" "approver" "ok",
     .call (.resumeAfterApproval "run" "ulid-1" gatedTwice plainContext),
     .call (.resumeAfterApproval "run" "ulid-1" gatedTwice plainContext)]

def secondRedemption : List Activity :=
  List.replicate 16 (.proceed 1) ++ [.approve "ulid-1" "approver" "ok", .proceed 2]

theorem approval_redeemed_twice :
    ¬ ∀ n, (worldAfter gatedEngine newRun (twoResumptions ++ secondRedemption) n).trail.countP
      (·.redeems "ulid-1") ≤ 1 := by
  intro once
  have twice : (worldAfter gatedEngine newRun (twoResumptions ++ secondRedemption) 40).trail.countP
      (·.redeems "ulid-1") = 2 := by decide +kernel
  have bound := once 40
  rw [twice] at bound
  exact absurd bound (by decide)

end twice

end SyndicateClaw.Orchestrator
