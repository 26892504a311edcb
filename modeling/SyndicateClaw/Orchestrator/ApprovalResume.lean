import SyndicateClaw.Orchestrator.ApprovalFinality

/-! Which run an approval resumes.

The two branches of `resume_after_approval` make different checks: the one over
the store looks at the approval row and at the run's status, the one in memory only
at the identifier under `_waiting_approval`. -/

namespace SyndicateClaw.Orchestrator

open Async

/-- A run and a table of approvals, seen by both branches: the run is stored, and
it is the object the engine holds. -/
def pairWorld (run : WorkflowRunRow) (approvals : String → Option ApprovalRequestRow)
    (currentNodeId : Option String) : World :=
  let w := World.started run
  { w with
    runs := Function.update w.runs run.id (some { run := 0, currentNodeId })
    db := { w.db with approvals } }

/-- `_waiting_approval` records this approval and this node. -/
def WaitsFor (state : State) (approvalId nodeId : String) : Prop :=
  ∃ waiting, (lookup state "_waiting_approval").asDict? = some waiting ∧
    lookupStr waiting "approval_id" = approvalId ∧ lookupStr waiting "node_id" = nodeId

/-- The node an execution of the object `ref` begins with. -/
def resumedNode (w : World) (runId : String) (ref : Nat) (startNode : NodeDefinition) : String :=
  entryNode ((w.runs runId).bind (·.currentNodeId)) (w.objects ref).state startNode

/-- A branch continues only a run that waits for this approval, on the node it waits
at, and otherwise raises `ValueError` and changes neither run nor approval. -/
def ContinuesOnlyWaiting (branch : EngineM Nat) (run : WorkflowRunRow)
    (approvals : String → Option ApprovalRequestRow) (currentNodeId : Option String)
    (approvalId : String) (startNode : NodeDefinition) : Prop :=
  match branch.settle (pairWorld run approvals currentNodeId) with
  | (w, .ok ref) =>
      WaitsFor run.state approvalId (resumedNode w run.id ref startNode) ∧
        (∃ approval, approvals approvalId = some approval ∧ approval.status = .approved) ∧
        run.status = .waitingApproval
  | (w, .error e) =>
      (∃ message, e = .value message) ∧
        w.db = (pairWorld run approvals currentNodeId).db ∧
        w.objects = (pairWorld run approvals currentNodeId).objects

def Continues (branch : EngineM Nat) (w : World) : Prop := ∃ ref, (branch.settle w).2 = .ok ref

/-- Both branches keep to the waiting approval and accept the same pairs. -/
def ResumesOnlyWaiting (run : WorkflowRunRow) (approvals : String → Option ApprovalRequestRow)
    (currentNodeId : Option String) (approvalId : String) (startNode : NodeDefinition) : Prop :=
  ContinuesOnlyWaiting (resumeFromStore run.id approvalId) run approvals currentNodeId approvalId
      startNode ∧
    ContinuesOnlyWaiting (resumeInMemory run.id approvalId) run approvals currentNodeId approvalId
      startNode ∧
    (Continues (resumeFromStore run.id approvalId) (pairWorld run approvals currentNodeId) ↔
      Continues (resumeInMemory run.id approvalId) (pairWorld run approvals currentNodeId))

/-- The checks of the branch over the store. -/
def Redeemable (run : WorkflowRunRow) (approvals : String → Option ApprovalRequestRow)
    (approvalId resumeNode : String) : Prop :=
  ∃ approval, approvals approvalId = some approval ∧ approval.runId = run.id ∧
    approval.status = .approved ∧ (lookup approval.context "consumed_at").truthy = false ∧
    run.status = .waitingApproval ∧
    resumeNodeFromState run.state approval.context = some resumeNode

section branches

variable (run : WorkflowRunRow) (approvals : String → Option ApprovalRequestRow)
  (currentNodeId : Option String) (approvalId : String) (startNode : NodeDefinition)

theorem consumeApproval_pass_iff (now : Instant) :
    (∃ consumption, consumeApproval now (pairWorld run approvals currentNodeId).db run.id
        approvalId = .ok consumption) ↔
      ∃ resumeNode, Redeemable run approvals approvalId resumeNode := by
  constructor
  · rintro ⟨consumption, passed⟩
    obtain ⟨approval, row, resumeNode, present, owner, approved, unconsumed, stored, waiting,
      resumes, -, -⟩ := consumeApproval_ok passed
    obtain rfl : run = row := by simpa [pairWorld, World.started] using stored
    exact ⟨resumeNode, approval, present, owner, approved, unconsumed, waiting, resumes⟩
  · rintro ⟨resumeNode, approval, present, owner, approved, unconsumed, waiting, resumes⟩
    have found : (approvals approvalId).filter (·.runId = run.id) = some approval := by
      simp [present, owner]
    simp [consumeApproval, pairWorld, World.started, found, approved, unconsumed, waiting,
      resumes]

theorem settle_resumeFromStore (w : World) (runId : String) :
    (resumeFromStore runId approvalId).settle w =
      match consumeApproval w.now w.db runId approvalId with
      | .error message => (w, .error (.value message))
      | .ok consumption => (w.redeem consumption runId approvalId, .ok w.nextObject) := by
  cases decided : consumeApproval w.now w.db runId approvalId <;>
    simp [resumeFromStore, decided]

theorem settle_resumeInMemory {w : World} {runId : String} {result : WorkflowRunResult}
    (registered : w.runs runId = some result) :
    (resumeInMemory runId approvalId).settle w =
      match approvalResumePayload w.now (w.objects result.run).state approvalId with
      | none => (w, .error (.value ("Approval " ++ approvalId ++
          " is not the waiting approval for this run")))
      | some payload => (w.redeemInMemory result.run runId approvalId payload, .ok result.run) := by
  cases known : approvalResumePayload w.now (w.objects result.run).state approvalId <;>
    simp [resumeInMemory, findRun, registered, known]

/-- A passing consumption resumes at the node it put under `_resume_from`. -/
theorem continuesOnlyWaiting_store_iff :
    ContinuesOnlyWaiting (resumeFromStore run.id approvalId) run approvals currentNodeId
        approvalId startNode ↔
      ∀ resumeNode, Redeemable run approvals approvalId resumeNode →
        WaitsFor run.state approvalId (if resumeNode = "" then startNode.id else resumeNode) := by
  unfold ContinuesOnlyWaiting
  rw [settle_resumeFromStore]
  cases decided : consumeApproval (pairWorld run approvals currentNodeId).now
      (pairWorld run approvals currentNodeId).db run.id approvalId with
  | error message =>
      simp only [EngineError.value.injEq, exists_eq', and_self, true_iff]
      intro resumeNode redeemable
      obtain ⟨consumption, passed⟩ := (consumeApproval_pass_iff run approvals currentNodeId
        approvalId _).mpr ⟨resumeNode, redeemable⟩
      cases decided.symm.trans passed
  | ok consumption =>
      obtain ⟨approval, row, resumeNode, present, owner, approved, unconsumed, stored, waiting,
        resumes, -, written⟩ := consumeApproval_ok decided
      have known : approvals approvalId = some approval := present
      obtain rfl : run = row := by simpa [pairWorld, World.started] using stored
      have node : resumedNode ((pairWorld run approvals currentNodeId).redeem consumption run.id
          approvalId) run.id (pairWorld run approvals currentNodeId).nextObject startNode =
          if resumeNode = "" then startNode.id else resumeNode := by
        simp only [resumedNode, World.redeem, written, runOfRow, Function.update_self,
          Option.bind_some, lookupStr, Dict.get?_set_self, Option.getD_some, Value.pyStr]
        by_cases empty : resumeNode = ""
        · rw [if_pos empty, empty, entryNode_empty, entryNode_start]
          simp
        · rw [if_neg empty, entryNode_current _ _ empty]
      simp only [node]
      constructor
      · rintro ⟨waits, -, -⟩ other ⟨approval', present', -, -, -, -, resumes'⟩
        obtain rfl := Option.some.inj (known.symm.trans present')
        obtain rfl := Option.some.inj (resumes.symm.trans resumes')
        exact waits
      · intro only
        exact ⟨only resumeNode ⟨approval, known, owner, approved, unconsumed, waiting, resumes⟩,
          ⟨approval, known, approved⟩, waiting⟩

theorem approvalResumePayload_isSome_iff (now : Instant) (state : State) :
    (∃ payload, approvalResumePayload now state approvalId = some payload) ↔
      ∃ nodeId, WaitsFor state approvalId nodeId := by
  unfold approvalResumePayload WaitsFor
  cases (lookup state "_waiting_approval").asDict? with
  | none => simp
  | some waiting =>
      by_cases same : lookupStr waiting "approval_id" = approvalId <;> simp [same]

theorem WaitsFor.unique {state : State} {approvalId first second : String}
    (one : WaitsFor state approvalId first) (two : WaitsFor state approvalId second) :
    first = second := by
  obtain ⟨waiting, found, -, rfl⟩ := one
  obtain ⟨waiting', found', -, rfl⟩ := two
  obtain rfl := Option.some.inj (found.symm.trans found')
  rfl

theorem continuesOnlyWaiting_memory_iff :
    ContinuesOnlyWaiting (resumeInMemory run.id approvalId) run approvals currentNodeId
        approvalId startNode ↔
      ∀ nodeId, WaitsFor run.state approvalId nodeId →
        entryNode currentNodeId run.state startNode = nodeId ∧
          (∃ approval, approvals approvalId = some approval ∧ approval.status = .approved) ∧
          run.status = .waitingApproval := by
  have registered : (pairWorld run approvals currentNodeId).runs run.id =
      some { run := 0, currentNodeId } := by simp [pairWorld]
  unfold ContinuesOnlyWaiting
  rw [settle_resumeInMemory approvalId registered]
  cases known : approvalResumePayload (pairWorld run approvals currentNodeId).now
      ((pairWorld run approvals currentNodeId).objects 0).state approvalId with
  | none =>
      simp only [EngineError.value.injEq, exists_eq', and_self, true_iff]
      intro nodeId waits
      obtain ⟨payload, some⟩ := (approvalResumePayload_isSome_iff approvalId _ _).mpr
        ⟨nodeId, waits⟩
      cases known.symm.trans some
  | some payload =>
      obtain ⟨nodeId, waits⟩ := (approvalResumePayload_isSome_iff approvalId _ _).mp
        ⟨payload, known⟩
      have node : resumedNode ((pairWorld run approvals currentNodeId).redeemInMemory 0
          run.id approvalId payload) run.id 0 startNode =
          entryNode currentNodeId run.state startNode := by
        simp only [resumedNode, World.redeemInMemory, World.modifyRun_runs, registered,
          Option.bind_some, World.modifyRun_objects_self]
        apply entryNode_congr
        simp [Dict.get?_set, pairWorld, World.started, runOfRow]
      simp only [node]
      constructor
      · rintro ⟨at_entry, approved, waiting⟩ other waits'
        exact ⟨at_entry.unique waits', approved, waiting⟩
      · intro only
        obtain ⟨rfl, approved, waiting⟩ := only nodeId waits
        exact ⟨waits, approved, waiting⟩

theorem continues_store_iff :
    Continues (resumeFromStore run.id approvalId) (pairWorld run approvals currentNodeId) ↔
      ∃ resumeNode, Redeemable run approvals approvalId resumeNode := by
  unfold Continues
  rw [← consumeApproval_pass_iff run approvals currentNodeId approvalId
    (pairWorld run approvals currentNodeId).now, settle_resumeFromStore]
  cases consumeApproval (pairWorld run approvals currentNodeId).now
    (pairWorld run approvals currentNodeId).db run.id approvalId <;> simp

theorem continues_memory_iff :
    Continues (resumeInMemory run.id approvalId) (pairWorld run approvals currentNodeId) ↔
      ∃ nodeId, WaitsFor run.state approvalId nodeId := by
  have registered : (pairWorld run approvals currentNodeId).runs run.id =
      some { run := 0, currentNodeId } := by simp [pairWorld]
  have state : ((pairWorld run approvals currentNodeId).objects 0).state = run.state := rfl
  unfold Continues
  rw [settle_resumeInMemory approvalId registered,
    ← approvalResumePayload_isSome_iff approvalId (pairWorld run approvals currentNodeId).now, state]
  cases approvalResumePayload (pairWorld run approvals currentNodeId).now run.state approvalId <;>
    simp

/-- `resume_after_approval` keeps to the waiting approval exactly when being that
approval and passing the checks of the store come to the same, and the node the
approval names and the node the engine stopped at are the one recorded. -/
theorem resumes_only_waiting_iff :
    ResumesOnlyWaiting run approvals currentNodeId approvalId startNode ↔
      ((∃ resumeNode, Redeemable run approvals approvalId resumeNode) ↔
          ∃ nodeId, WaitsFor run.state approvalId nodeId) ∧
        ∀ resumeNode nodeId, Redeemable run approvals approvalId resumeNode →
          WaitsFor run.state approvalId nodeId →
          (if resumeNode = "" then startNode.id else resumeNode) = nodeId ∧
            entryNode currentNodeId run.state startNode = nodeId := by
  unfold ResumesOnlyWaiting
  rw [continuesOnlyWaiting_store_iff, continuesOnlyWaiting_memory_iff, continues_store_iff,
    continues_memory_iff]
  constructor
  · rintro ⟨store, memory, same⟩
    refine ⟨same, fun resumeNode nodeId redeemable waits => ⟨?_, (memory nodeId waits).1⟩⟩
    exact (store resumeNode redeemable).unique waits
  · rintro ⟨same, nodes⟩
    refine ⟨fun resumeNode redeemable => ?_, fun nodeId waits => ?_, same⟩
    · obtain ⟨nodeId, waits⟩ := same.mp ⟨resumeNode, redeemable⟩
      rw [(nodes resumeNode nodeId redeemable waits).1]
      exact waits
    · obtain ⟨resumeNode, redeemable⟩ := same.mpr ⟨nodeId, waits⟩
      have entry := (nodes resumeNode nodeId redeemable waits).2
      obtain ⟨approval, present, -, approved, -, waiting, -⟩ := redeemable
      exact ⟨entry, ⟨approval, present, approved⟩, waiting⟩

end branches

/-! ### A stale approval

The run waits for the approval `second` at node `b`. An approval `first` of node
`a` was granted and never redeemed, and `second` has been rejected. -/

section stale

def approvalOf (id nodeId : String) (status : ApprovalStatus) : ApprovalRequestRow :=
  { id, runId := "run", nodeExecutionId := id, toolName := "approval"
    actionDescription := "Approval required", riskLevel := .medium, status
    requestedBy := "system", assignedTo := ["approver"], decidedBy := some "approver"
    decidedAt := some 0, decisionReason := none, expiresAt := none
    context := [("run_id", .str "run"), ("node_id", .str nodeId), ("resume_node_id", .str nodeId)]
    scope := Platform.plain.defaultScope }

def twoApprovals : String → Option ApprovalRequestRow
  | "first" => some (approvalOf "first" "a" .approved)
  | "second" => some (approvalOf "second" "b" .rejected)
  | _ => none

def waitingForSecond : WorkflowRunRow :=
  { startRun "run" "workflow" "1" "client"
      [("_waiting_approval", .dict [("approval_id", .str "second"), ("tool_name", .str "approval"),
         ("node_id", .str "b"), ("run_id", .str "run")]),
       ("_resume_from", .str "b")] [] with
    status := .waitingApproval }

/-- The store resumes the run on the stale approval, and memory on the rejected one. -/
theorem stale_and_rejected_resume :
    ¬ ResumesOnlyWaiting waitingForSecond twoApprovals (some "b") "first"
        (.plain "start" .start "start") ∧
      ¬ ResumesOnlyWaiting waitingForSecond twoApprovals (some "b") "second"
        (.plain "start" .start "start") := by
  constructor
  · rintro ⟨store, -, -⟩
    rw [continuesOnlyWaiting_store_iff] at store
    have redeemable : Redeemable waitingForSecond twoApprovals "first" "a" :=
      ⟨approvalOf "first" "a" .approved, rfl, rfl, rfl, by decide +kernel, rfl,
        by decide +kernel⟩
    obtain ⟨waiting, found, named, -⟩ := store "a" redeemable
    obtain rfl := Option.some.inj found
    exact absurd named (by decide +kernel)
  · rintro ⟨-, memory, -⟩
    rw [continuesOnlyWaiting_memory_iff] at memory
    have waits : WaitsFor waitingForSecond.state "second" "b" :=
      ⟨_, rfl, by decide +kernel, by decide +kernel⟩
    obtain ⟨-, ⟨approval, present, approved⟩, -⟩ := memory "b" waits
    obtain rfl := Option.some.inj present
    exact absurd approved (by decide)

end stale

end SyndicateClaw.Orchestrator
