import SyndicateClaw.Async.History
import SyndicateClaw.Orchestrator.EngineWrite
import SyndicateClaw.Orchestrator.NodeRun

/-! Decisions on approval rows over time.

The rows change through four transactions: the engine's approval boundary, a
decision, the expiry sweep and the consumption by a resumed run. Only the boundary
can take a decision back, because it writes the whole row of whatever identifier
the interrupt resolves to.
-/

namespace SyndicateClaw.Orchestrator

open Async

inductive ApprovalOp where
  | boundary (fresh : String) (now : Instant) (exc : WaitForApprovalError)
      (node : NodeDefinition) (run : WorkflowRun) (execution : NodeExecution)
  | approve (requestId approver reason : String) (now : Instant)
  | reject (requestId approver reason : String) (now : Instant)
  | expireStale (now : Instant)
  | consume (now : Instant) (runId approvalId : String)

/-- The database after a boundary: `_prepare_approval_interrupt` up to its commit. -/
def boundaryCommit (engine : WorkflowEngine) (db : Database) (fresh : String) (now : Instant)
    (exc : WaitForApprovalError) (node : NodeDefinition) (run : WorkflowRun)
    (execution : NodeExecution) : Database :=
  match approvalRequestForInterrupt engine.platform fresh now exc node run execution with
  | none => db
  | some request =>
      db.persistApprovalBoundary (boundaryRun engine now request node.id run) execution request

theorem prepareApprovalInterrupt_db (engine : WorkflowEngine) (stored : engine.sessionFactory)
    (exc : WaitForApprovalError) (node : NodeDefinition) (ref : Nat) (execution : NodeExecution)
    (w : World) :
    ((prepareApprovalInterrupt engine exc node ref execution).settle w).1.db =
      boundaryCommit engine w.db (engine.platform.ulid w.ids) w.now exc node (w.objects ref)
        execution := by
  obtain ⟨effects, enriched, -, settled⟩ :=
    settle_prepareApprovalInterrupt engine ref node w exc execution rfl
  rw [settled, boundaryCommit]
  cases approvalRequestForInterrupt engine.platform (engine.platform.ulid w.ids) w.now exc node
    (w.objects ref) execution with
  | none => rfl
  | some request => exact if_pos stored

def ApprovalOp.apply (engine : WorkflowEngine) (db : Database) : ApprovalOp → Database
  | .boundary fresh now exc node run execution =>
      boundaryCommit engine db fresh now exc node run execution
  | .approve requestId approver reason now =>
      (decideApproval db requestId approver reason .approved now).toOption.getD db
  | .reject requestId approver reason now =>
      (decideApproval db requestId approver reason .rejected now).toOption.getD db
  | .expireStale now => Orchestrator.expireStale db now
  | .consume now runId approvalId =>
      match consumeApproval now db runId approvalId with
      | .ok consumption => consumption.commit db runId approvalId
      | .error _ => db

/-- The context carries `consumed_at`. -/
def ApprovalRequestRow.Consumed (row : ApprovalRequestRow) : Prop :=
  Dict.contains row.context "consumed_at" = true

/-- What was decided stays decided and what was consumed stays consumed. -/
def Final (before after : Database) : Prop :=
  ∀ id row, before.approvals id = some row → ∃ row', after.approvals id = some row' ∧
    (row.status ≠ .pending → row'.status ≠ .pending) ∧ (row.Consumed → row'.Consumed)

theorem Final.refl (db : Database) : Final db db :=
  fun _ row present => ⟨row, present, id, id⟩

theorem Final.trans (a b c : Database) (first : Final a b) (second : Final b c) : Final a c := by
  intro id row present
  obtain ⟨row', present', decided', consumed'⟩ := first id row present
  obtain ⟨row'', present'', decided'', consumed''⟩ := second id row' present'
  exact ⟨row'', present'', decided'' ∘ decided', consumed'' ∘ consumed'⟩

/-- An interrupt takes a decision back: the payload it resolves to names a row that
is decided while the payload is pending, or consumed while the payload is not. -/
def ApprovalOp.Overwrites (engine : WorkflowEngine) (db : Database) : ApprovalOp → Prop
  | .boundary fresh now exc node run execution =>
      ∃ payload row, interruptPayload engine.platform fresh now exc node run execution =
          some payload ∧ db.approvals payload.id = some row ∧
        (row.status ≠ .pending ∧ payload.status = .pending ∨
          row.Consumed ∧ Dict.contains payload.context "consumed_at" = false)
  | _ => False

theorem final_of_row {before after : Database} {id : String} {row' : ApprovalRequestRow}
    (written : after.approvals = Function.update before.approvals id (some row')) :
    Final before after ↔ ∀ row, before.approvals id = some row →
      (row.status ≠ .pending → row'.status ≠ .pending) ∧ (row.Consumed → row'.Consumed) := by
  constructor
  · intro final row present
    obtain ⟨found, stored, decided, consumed⟩ := final id row present
    obtain rfl : row' = found := by simpa [written] using stored
    exact ⟨decided, consumed⟩
  · intro kept other row present
    by_cases same : other = id
    · subst same
      exact ⟨row', by simp [written], kept row present⟩
    · exact ⟨row, by simpa [written, same] using present, fun h => h, fun h => h⟩

theorem decideApproval_final (db : Database) (requestId approver reason : String)
    (status : ApprovalStatus) (decision : status ≠ .pending) (now : Instant) :
    Final db ((decideApproval db requestId approver reason status now).toOption.getD db) := by
  unfold decideApproval
  cases present : db.approvals requestId with
  | none => exact Final.refl db
  | some row =>
      dsimp only
      split_ifs
      all_goals first
        | exact Final.refl db
        | refine (final_of_row rfl).mpr fun found stored => ⟨fun _ => decision, fun consumed => ?_⟩
          obtain rfl : row = found := Option.some.inj (present.symm.trans stored)
          exact consumed

theorem expireStale_final (db : Database) (now : Instant) : Final db (expireStale db now) := by
  intro id row present
  refine ⟨_, by simp only [expireStale, present, Option.map_some]; rfl, ?_, ?_⟩
  · intro decided
    rw [if_neg (by simp [decided])]
    exact decided
  · intro consumed
    split
    · exact consumed
    · exact consumed

theorem consumeApproval_ok {now : Instant} {db : Database} {runId approvalId : String}
    {consumption : Consumption}
    (passed : consumeApproval now db runId approvalId = .ok consumption) :
    ∃ approval row resumeNode, db.approvals approvalId = some approval ∧
      approval.runId = runId ∧ approval.status = .approved ∧
      (lookup approval.context "consumed_at").truthy = false ∧
      db.runs runId = some row ∧ row.status = .waitingApproval ∧
      resumeNodeFromState row.state approval.context = some resumeNode ∧
      consumption.approval = { approval with
        context := Dict.set (Dict.set (Dict.set approval.context
          "consumed_at" (.str now.isoformat)) "consumed_for_run_id" (.str runId))
          "resume_node_id" (.str resumeNode) } ∧
      consumption.run = { row with
        status := .running
        state := Dict.set (Dict.set (Dict.set row.state "_approval_resume" (.dict
            [("approval_id", .str approvalId), ("node_id", .str resumeNode),
             ("tool_name", .str approval.toolName), ("resumed_at", .str now.isoformat)]))
          "_approved_approval_id" (.str approvalId)) "_resume_from" (.str resumeNode) } := by
  unfold consumeApproval at passed
  split at passed
  · cases passed
  · next approval found =>
      obtain ⟨present, owner⟩ := Option.filter_eq_some_iff.mp found
      split_ifs at passed with unapproved consumed
      split at passed
      · cases passed
      · next row stored =>
          split_ifs at passed with waiting
          split at passed
          · cases passed
          · next resumeNode resumes =>
              obtain rfl := Except.ok.inj passed
              exact ⟨approval, row, resumeNode, present, by simpa using owner,
                by simpa using unapproved, by simpa using consumed, stored,
                by simpa using waiting, resumes, rfl, rfl⟩

theorem consume_final (engine : WorkflowEngine) (db : Database) (now : Instant)
    (runId approvalId : String) :
    Final db ((ApprovalOp.consume now runId approvalId).apply engine db) := by
  simp only [ApprovalOp.apply]
  split
  · next consumption passed =>
      obtain ⟨approval, row, resumeNode, present, -, approved, -, -, -, -, stored, -⟩ :=
        consumeApproval_ok passed
      refine (final_of_row rfl).mpr fun found known => ⟨fun _ => ?_, fun _ => ?_⟩
      · simp [stored, approved]
      · simp [stored, ApprovalRequestRow.Consumed, Dict.contains, Dict.get?_set]
  · exact Final.refl db

theorem approvalRow_consumed_iff (request : ApprovalRequest) (row : Option ApprovalRequestRow)
    (payload : State) (runId nodeId : String) (state : State)
    (merged : request.context = Dict.update payload
      [("run_id", .str runId), ("node_id", .str nodeId), ("resume_node_id", .str nodeId),
       ("state", .dict state)]) :
    (Database.approvalRow request row).Consumed ↔
      Dict.contains payload "consumed_at" = true := by
  simp [ApprovalRequestRow.Consumed, Database.approvalRow, merged, Dict.contains,
    get?_jsonableState, Dict.get?_update, Dict.get?_cons]

theorem boundary_final_iff (engine : WorkflowEngine) (db : Database) (fresh : String)
    (now : Instant) (exc : WaitForApprovalError) (node : NodeDefinition) (run : WorkflowRun)
    (execution : NodeExecution) :
    Final db (boundaryCommit engine db fresh now exc node run execution) ↔
      ¬ (ApprovalOp.boundary fresh now exc node run execution).Overwrites engine db := by
  cases found : interruptPayload engine.platform fresh now exc node run execution with
  | none =>
      simp only [boundaryCommit, approvalRequestForInterrupt, found, Option.map_none,
        ApprovalOp.Overwrites, reduceCtorEq, false_and, exists_false, not_false_eq_true, iff_true]
      exact Final.refl db
  | some payload =>
      simp only [boundaryCommit, approvalRequestForInterrupt, found, Option.map_some,
        ApprovalOp.Overwrites, Option.some.injEq]
      rw [final_of_row (Database.persistApprovalBoundary_approvals ..)]
      have marked := fun request row =>
        approvalRow_consumed_iff request row payload.context run.id node.id
          (jsonableState run.state)
      constructor
      · rintro kept ⟨_, row, rfl, present, ⟨decided, pending⟩ | ⟨consumed, unmarked⟩⟩
        · exact (kept row present).1 decided pending
        · have mark := (marked _ _ rfl).mp ((kept row present).2 consumed)
          simp [mark] at unmarked
      · intro harmless row present
        refine ⟨fun decided pending => ?_, fun consumed => (marked _ _ rfl).mpr ?_⟩
        · exact harmless ⟨payload, row, rfl, present, .inl ⟨decided, pending⟩⟩
        · by_contra unmarked
          exact harmless ⟨payload, row, rfl, present, .inr ⟨consumed, by simpa using unmarked⟩⟩

theorem step_final_iff (engine : WorkflowEngine) (db : Database) (op : ApprovalOp) :
    Final db (op.apply engine db) ↔ ¬ op.Overwrites engine db := by
  cases op with
  | boundary fresh now exc node run execution =>
      exact boundary_final_iff engine db fresh now exc node run execution
  | approve requestId approver reason now =>
      exact iff_of_true (decideApproval_final db _ _ _ _ (by simp) now) id
  | reject requestId approver reason now =>
      exact iff_of_true (decideApproval_final db _ _ _ _ (by simp) now) id
  | expireStale now => exact iff_of_true (expireStale_final db now) id
  | consume now runId approvalId =>
      exact iff_of_true (consume_final engine db now runId approvalId) id

/-- Decisions and consumptions are final in a history exactly when none of its
interrupts takes one back. -/
theorem decisions_final_iff (engine : WorkflowEngine) (db : Database) (ops : List ApprovalOp) :
    (∀ n m, n ≤ m → Final (stateAfter (ApprovalOp.apply engine) db ops n)
        (stateAfter (ApprovalOp.apply engine) db ops m)) ↔
      ∀ (n : Nat) (op : ApprovalOp), ops[n]? = some op →
        ¬ op.Overwrites engine (stateAfter (ApprovalOp.apply engine) db ops n) := by
  rw [monotone_iff (ApprovalOp.apply engine) db ops Final Final.refl Final.trans]
  simp only [step_final_iff]

/-! ### A decision taken back

A first node asks for approval with the request it leaves under
`_pending_approval`. The request is approved and consumed. A second node then asks
without naming a request, and the engine finds the first one still there. -/

section overwritten

def firstRequest : ApprovalRequest :=
  { id := "ulid-1", runId := "run", nodeExecutionId := "ulid-0", toolName := none
    actionDescription := "Approval required", riskLevel := .medium, status := .pending
    requestedBy := "system", assignedTo := ["approver"], decidedBy := none, decidedAt := none
    decisionReason := none, expiresAt := Instant.microsPerDay, context := []
    scope := Platform.plain.defaultScope }

def waitingRun : WorkflowRun :=
  { runOfRow (startRun "run" "workflow" "1" "client" [] []) with
    status := .waitingApproval
    state := [("_pending_approval", .dict (firstRequest.modelDump 0))] }

def askingExecution (id nodeId : String) : NodeExecution :=
  { id, runId := "run", nodeId, nodeName := nodeId, status := .waitingApproval, attempt := 1
    inputState := [], outputState := waitingRun.state, startedAt := some 0
    completedAt := some 0, error := none, durationMs := some 0 }

def asksFor (approvalId nodeId : String) : WaitForApprovalError :=
  { message := "", approvalId, toolName := "", nodeId, runId := "run", persistedState := [] }

def reopening : List ApprovalOp :=
  [.boundary "ulid-2" 0 (asksFor "ulid-1" "first") (.plain "first" .approval "approval")
     waitingRun (askingExecution "ulid-0" "first"),
   .approve "ulid-1" "approver" "ok" 0,
   .consume 0 "run" "ulid-1",
   .boundary "ulid-4" 0 (asksFor "" "second") (.plain "second" .action "ask") waitingRun
     (askingExecution "ulid-3" "second")]

theorem approval_reopened :
    ¬ ∀ n m, n ≤ m →
      Final (stateAfter (ApprovalOp.apply (.plain (fun _ => none) true))
          (World.started (startRun "run" "workflow" "1" "client" [] [])).db reopening n)
        (stateAfter (ApprovalOp.apply (.plain (fun _ => none) true))
          (World.started (startRun "run" "workflow" "1" "client" [] [])).db reopening m) := by
  intro final
  have before : ((stateAfter (ApprovalOp.apply (.plain (fun _ => none) true))
      (World.started (startRun "run" "workflow" "1" "client" [] [])).db reopening 3).approvals
        "ulid-1").map (fun row => (row.status, Dict.contains row.context "consumed_at")) =
      some (.approved, true) := by decide +kernel
  have after : ((stateAfter (ApprovalOp.apply (.plain (fun _ => none) true))
      (World.started (startRun "run" "workflow" "1" "client" [] [])).db reopening 4).approvals
        "ulid-1").map (fun row => (row.status, Dict.contains row.context "consumed_at")) =
      some (.pending, false) := by decide +kernel
  obtain ⟨row, present, approved⟩ := Option.map_eq_some_iff.mp before
  obtain ⟨row', stored, decided, -⟩ := final 3 4 (by decide) "ulid-1" row present
  rw [stored, Option.map_some] at after
  simp only [Prod.mk.injEq, Option.some.injEq] at approved after
  exact decided (by simp [approved.1]) after.1

end overwritten

/-! ### Nodes of the rows

What the engine's writes leave in an approval row: the node that asked for it is the
node a redemption resumes at. -/

/-- The row names one such node, as the one that asked and as the one to resume at. -/
def ApprovalRequestRow.Names (row : ApprovalRequestRow) (R : String → Prop) : Prop :=
  ∃ nodeId, R nodeId ∧ Dict.get? row.context "node_id" = some (.str nodeId) ∧
    Dict.get? row.context "resume_node_id" = some (.str nodeId)

theorem ApprovalRequestRow.Names.mono {row : ApprovalRequestRow} {R S : String → Prop}
    (names : row.Names R) (weaker : ∀ nodeId, R nodeId → S nodeId) : row.Names S := by
  obtain ⟨nodeId, holds, context⟩ := names
  exact ⟨nodeId, weaker nodeId holds, context⟩

theorem resumeNodeFromState_named {state context : State} {nodeId resumeNode : String}
    (named : nodeId ≠ "") (found : Dict.get? context "resume_node_id" = some (.str nodeId))
    (resumes : resumeNodeFromState state context = some resumeNode) : resumeNode = nodeId := by
  have known : (lookup context "resume_node_id").orElse (lookup state "_resume_from") =
      .str nodeId := by
    simp [lookup, found, Value.orElse, Value.truthy, named]
  have truthy : (Value.str nodeId).truthy = true := by simp [Value.truthy, named]
  simp only [resumeNodeFromState, known, truthy, if_true] at resumes
  exact (Option.some.inj resumes).symm

section approvals

variable {engine : WorkflowEngine} {c : Conditions} {w w' : World} {R : String → Prop}
  (named : ∀ nodeId, R nodeId → nodeId ≠ "")
  (rows : ∀ id row, w.db.approvals id = some row → row.Names R)

include named rows

theorem consumed_named {consumption : Consumption} {runId approvalId : String}
    (passed : consumeApproval w.now w.db runId approvalId = .ok consumption) :
    ∃ nodeId, R nodeId ∧ Dict.get? consumption.approval.context "node_id" = some (.str nodeId) ∧
      Dict.get? consumption.approval.context "resume_node_id" = some (.str nodeId) ∧
      Dict.get? consumption.run.state "_resume_from" = some (.str nodeId) := by
  obtain ⟨approval, run, resumeNode, present, -, -, -, -, -, resumes, written, stored⟩ :=
    consumeApproval_ok passed
  obtain ⟨nodeId, holds, node, resume⟩ := rows approvalId approval present
  obtain rfl := resumeNodeFromState_named (named nodeId holds) resume resumes
  refine ⟨resumeNode, holds, ?_, ?_, ?_⟩
  · simp [written, Dict.get?_set, node]
  · simp [written]
  · simp [stored]

theorem approvals_named (asked : ∀ runId nodeId, w.Asked runId nodeId → R nodeId)
    (write : EngineWrite engine c w w') (id : String) (row : ApprovalRequestRow)
    (stored : w'.db.approvals id = some row) : row.Names R := by
  have redecided : ∀ {db : Database}, w.db.Redecided db → db.approvals id = some row →
      row.Names R := by
    rintro db ⟨-, f, changed, kept⟩ found
    rw [changed] at found
    obtain ⟨before, present, rfl⟩ := Option.map_eq_some_iff.mp found
    unfold ApprovalRequestRow.Names
    rw [(kept id before).2]
    exact rows id before present
  cases write with
  | persistBoundary ref runId nodeId execution request owns owned context asks allowed =>
      rw [Database.persistApprovalBoundary_approvals] at stored
      by_cases same : id = request.id
      · subst same
        rw [Function.update_self] at stored
        obtain rfl := Option.some.inj stored
        refine ⟨nodeId, asked runId nodeId asks, ?_, ?_⟩
        · simp [Database.approvalRow, get?_jsonableState, context.1, Value.jsonable]
        · simp [Database.approvalRow, get?_jsonableState, context.2, Value.jsonable]
      · rw [Function.update_of_ne same] at stored
        exact rows id row stored
  | redeem consumption runId approvalId passed =>
      by_cases same : id = approvalId
      · subst same
        have found : row = consumption.approval := by
          simpa [World.redeem, Consumption.commit, Database.setApproval, eq_comm] using stored
        obtain ⟨nodeId, holds, node, resume, -⟩ := consumed_named named rows passed
        rw [found]
        exact ⟨nodeId, holds, node, resume⟩
      · apply rows id row
        simpa [World.redeem, Consumption.commit, Database.setApproval, Function.update_of_ne same]
          using stored
  | decide requestId approver reason status db decided accepted =>
      exact redecided (decideApproval_redecided accepted) stored
  | expire => exact redecided (expireStale_redecided w.db w.now) stored
  | _ => exact rows id row stored

end approvals

end SyndicateClaw.Orchestrator
