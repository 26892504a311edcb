import SyndicateClaw.Data.Retries
import SyndicateClaw.Orchestrator.EngineWrite
import SyndicateClaw.Orchestrator.NodeRun

/-! The attempts of a node as a bounded retry loop.

The handler gets `run.state` itself, not a copy, so each attempt starts from the state the one
before has left, failed or not. Which exception ended an attempt is never looked at:
`retryable_errors` of the policy is declared and not read. -/

namespace SyndicateClaw.Orchestrator

open Async

def HandlerExit.IsFailure (exit : HandlerExit) : Prop :=
  ∃ message, exit = .failed message

instance (exit : HandlerExit) : Decidable exit.IsFailure :=
  match exit with
  | .failed message => isTrue ⟨message, rfl⟩
  | .returned _ => isFalse nofun
  | .pauseExecution => isFalse nofun
  | .waitForApproval _ => isFalse nofun
  | .waitForAgentResponse => isFalse nofun
  | .escaped _ => isFalse nofun

section

variable (handler : NodeHandler) (runId : String) (node : NodeDefinition)
  (context : ExecutionContext) (calls : Nat)

def attemptOn (k : Nat) (state : State) : State × HandlerExit :=
  let outcome := handler (calls + k) state { context with config := node.config, attempt := k + 1 }
  (outcome.state, outcome.exit)

abbrev stateGiven (state : State) (k : Nat) : State :=
  Retries.given (attemptOn handler node context calls) state k

abbrev exitOf (state : State) (k : Nat) : HandlerExit :=
  Retries.outcome (attemptOn handler node context calls) state k

abbrev lastAttempt (state : State) : Nat :=
  Retries.last (attemptOn handler node context calls) HandlerExit.IsFailure state
    (node.maxAttempts - 1) 0

def attemptEvents (state : State) (k : Nat) : List Event :=
  [.invoked runId node.id node.handler (k + 1),
   .exited runId node.id (exitOf handler node context calls state k)]

def attemptEffects (state : State) (k : Nat) : List Effect :=
  (handler (calls + k) (stateGiven handler node context calls state k)
    { context with config := node.config, attempt := k + 1 }).effects

theorem runAttempts_eq (state : State) (retries k : Nat) {last : Nat}
    (ends : Retries.last (attemptOn handler node context calls) HandlerExit.IsFailure state
      retries k = last) :
    runAttempts handler runId node { context with config := node.config } retries (k + 1)
        (calls + k) (stateGiven handler node context calls state k) =
      { state := stateGiven handler node context calls state (last + 1)
        calls := calls + last + 1
        attempt := last + 1
        effects := (List.range' k (last + 1 - k)).flatMap
          (attemptEffects handler node context calls state)
        events := (List.range' k (last + 1 - k)).flatMap
          (attemptEvents handler runId node context calls state)
        exit := exitOf handler node context calls state last } := by
  induction retries generalizing k with
  | zero =>
      obtain rfl : k = last := ends
      simp [runAttempts, runOnce, attemptEffects, attemptEvents, stateGiven, exitOf, attemptOn,
        Retries.given, Retries.outcome]
  | succ retries ih =>
      rw [Retries.last] at ends
      have exits : (runOnce handler runId node
          { context with config := node.config, attempt := k + 1 } (calls + k)
          (stateGiven handler node context calls state k)).exit =
        exitOf handler node context calls state k := rfl
      split at ends
      · next fails =>
          have later : k + 1 ≤ last := by
            rw [← ends]
            exact Retries.le_last retries (k + 1)
          have count : last + 1 - k = (last + 1 - (k + 1)) + 1 := by omega
          obtain ⟨message, failed⟩ := fails
          rw [runAttempts, exits, exitOf, failed, count, List.range'_succ]
          have rest := ih (k + 1) ends
          simp only [HandlerRun.andThen, List.flatMap_cons]
          exact congrArg (HandlerRun.andThen (runOnce handler runId node
            { context with config := node.config, attempt := k + 1 } (calls + k)
            (stateGiven handler node context calls state k))) rest
      · next fails =>
          subst ends
          rw [runAttempts, exits]
          have count : k + 1 - k = 1 := by omega
          rw [count, List.range'_one]
          split
          · next message failed => exact absurd ⟨message, failed⟩ fails
          · simp [runOnce, attemptEffects, attemptEvents, stateGiven, exitOf, attemptOn,
              Retries.given, Retries.outcome]

theorem nodeRun_eq (state : State) {last : Nat}
    (ends : lastAttempt handler node context calls state = last) :
    nodeRun handler runId node context calls state =
      { state := stateGiven handler node context calls state (last + 1)
        calls := calls + last + 1
        attempt := last + 1
        effects := (List.range (last + 1)).flatMap
          (attemptEffects handler node context calls state)
        events := (List.range (last + 1)).flatMap
          (attemptEvents handler runId node context calls state)
        exit := exitOf handler node context calls state last } := by
  rw [List.range_eq_range']
  exact runAttempts_eq handler runId node context calls state (node.maxAttempts - 1) 0 ends

end

section

variable (engine : WorkflowEngine) (handler : NodeHandler) (ref : Nat) (runId : String)
  (node : NodeDefinition) (context : ExecutionContext) (w : World)

theorem executeNode_trail (present : engine.handlers node.handler = some handler) :
    ((executeNode engine ref runId context node).settle w).1.trail =
      w.trail ++ (nodeRun handler (w.objects ref).id node context w.calls
        (w.objects ref).state).events := by
  obtain ⟨r, ran⟩ : ∃ r, nodeRun handler (w.objects ref).id node context w.calls
    (w.objects ref).state = r := ⟨_, rfl⟩
  rw [ran]
  cases exited : r.exit with
  | waitForApproval exc =>
      obtain ⟨execution, settled⟩ := executeNode_asks engine handler ref runId node context w
        present ran exited rfl
      split at settled
      · rw [settled]
        rfl
      · obtain ⟨effects, interrupt, -, settled⟩ := settled
        rw [settled]
        rfl
  | escaped message =>
      rw [executeNode_escapes engine handler ref runId node context w present ran exited]
      rfl
  | _ =>
      obtain ⟨execution, result, settled, -⟩ := executeNode_closes engine handler ref runId node
        context w present ran (by rw [exited]; rfl)
      rw [settled]
      rfl

theorem executeNode_failed (present : engine.handlers node.handler = some handler)
    (message : String)
    (failed : exitOf handler node context w.calls (w.objects ref).state
      (lastAttempt handler node context w.calls (w.objects ref).state) = .failed message) :
    ((executeNode engine ref runId context node).settle w).1.objects ref =
      { w.objects ref with
        status := .failed
        error := some ("Node " ++ node.id ++ " failed: " ++ message)
        state := clearConsumedResumeMarker node.id
          (stateGiven handler node context w.calls (w.objects ref).state
            (lastAttempt handler node context w.calls (w.objects ref).state + 1)) } := by
  have ran := nodeRun_eq handler (w.objects ref).id node context w.calls (w.objects ref).state rfl
  obtain ⟨execution, result, settled, -⟩ := executeNode_closes engine handler ref runId node
    context w present ran (by rw [failed]; rfl)
  rw [settled]
  simp only [World.closeNode, Function.update_self, failed, closeRun, concludeRun,
    afterAttempts_objects_self, HandlerRun.written]

/-! ### Traces of failed attempts -/

/-- Failed attempts leave no trace: all attempts are given the state the node was entered with,
and if the last one fails too then only status and error of the run change. -/
def Traceless : Prop :=
  let run := w.objects ref
  let last := lastAttempt handler node context w.calls run.state
  (∀ k ≤ last, stateGiven handler node context w.calls run.state k = run.state) ∧
    ∀ message, exitOf handler node context w.calls run.state last = .failed message →
      ((executeNode engine ref runId context node).settle w).1.objects ref =
        { run with
          status := .failed
          error := some ("Node " ++ node.id ++ " failed: " ++ message) }

/-- A handler whose failures leave the mapping as they got it: each one that is tried again, and
the last one up to the resume marker. -/
def FailuresRestore (calls : Nat) (state : State) : Prop :=
  let attempt := attemptOn handler node context calls
  (∀ k < node.maxAttempts - 1,
      (∀ j ≤ k, (attempt j state).2.IsFailure) → (attempt k state).1 = state) ∧
    ((∀ j < node.maxAttempts, (attempt j state).2.IsFailure) →
      clearConsumedResumeMarker node.id (attempt (node.maxAttempts - 1) state).1 = state)

theorem maxAttempts_pos (node : NodeDefinition) : 0 < node.maxAttempts := by
  rw [NodeDefinition.maxAttempts, retries_succ]
  exact Nat.succ_pos _

theorem lastAttempt_of_failed {calls : Nat} {state : State}
    (fails : (exitOf handler node context calls state
      (lastAttempt handler node context calls state)).IsFailure) :
    lastAttempt handler node context calls state + 1 = node.maxAttempts := by
  have positive := maxAttempts_pos node
  have bound : lastAttempt handler node context calls state ≤ 0 + (node.maxAttempts - 1) :=
    Retries.last_le _ 0
  by_contra more
  have early : lastAttempt handler node context calls state < 0 + (node.maxAttempts - 1) := by
    omega
  exact Retries.last_not_failed early fails

/-- The attempts of a node leave no trace iff its handler cleans up after itself. -/
theorem traceless_iff (present : engine.handlers node.handler = some handler) :
    Traceless engine handler ref runId node context w ↔
      FailuresRestore handler node context w.calls (w.objects ref).state := by
  obtain ⟨state, entered⟩ : ∃ state, (w.objects ref).state = state := ⟨_, rfl⟩
  have positive := maxAttempts_pos node
  have leaves := executeNode_failed engine handler ref runId node context w present
  unfold Traceless FailuresRestore
  simp only [entered] at leaves ⊢
  apply (and_congr_left' Retries.same_iff).trans
  apply and_congr_right
  intro restores
  have same := Retries.same_iff.mpr restores
  have exits : ∀ k ≤ lastAttempt handler node context w.calls state,
      exitOf handler node context w.calls state k =
        (attemptOn handler node context w.calls k state).2 := by
    intro k made
    rw [exitOf, Retries.outcome, same k made]
  have left : stateGiven handler node context w.calls state
        (lastAttempt handler node context w.calls state + 1) =
      (attemptOn handler node context w.calls (lastAttempt handler node context w.calls state)
        state).1 := by
    rw [stateGiven, Retries.given, same _ le_rfl]
  rw [left] at leaves
  constructor
  · intro unchanged fails
    have last : lastAttempt handler node context w.calls state = node.maxAttempts - 1 := by
      apply Nat.le_antisymm
      · exact (Retries.last_le _ 0).trans_eq (Nat.zero_add _)
      · exact Retries.le_last_of_same same le_rfl fun j before => fails j (by omega)
    obtain ⟨message, failed⟩ := fails (node.maxAttempts - 1) (by omega)
    rw [← last, ← exits _ le_rfl] at failed
    have closed := (leaves message failed).symm.trans (unchanged message failed)
    rw [← last]
    exact congrArg WorkflowRun.state closed
  · intro cleared message failed
    have last := lastAttempt_of_failed handler node context ⟨message, failed⟩
    have fails : ∀ j < node.maxAttempts,
        (attemptOn handler node context w.calls j state).2.IsFailure := by
      intro j before
      have made : j ≤ lastAttempt handler node context w.calls state := by omega
      rw [← exits j made]
      rcases Nat.eq_or_lt_of_le made with rfl | earlier
      · exact ⟨message, failed⟩
      · exact Retries.failed_of_lt_last (Nat.zero_le j) earlier
    have last' : lastAttempt handler node context w.calls state = node.maxAttempts - 1 := by omega
    rw [leaves message failed, last', cleared fails]

/-! ### The policy -/

/-- Whether the policy of the node lets an error of this class be tried again. -/
def NodeDefinition.MayRetry (errorClass : String) : Prop :=
  ∀ policy, node.retryPolicy = some policy →
    policy.retryableErrors = [] ∨ errorClass ∈ policy.retryableErrors

/-- The attempts end with the first that does not fail, with the last one allowed or with a failure
of a class the policy does not list, and a failure that ends them is the run's. The classes are
those of the exceptions the attempts end with. -/
def FollowsPolicy (errorClass : Nat → String) : Prop :=
  let after := ((executeNode engine ref runId context node).settle w).1
  let exit := exitOf handler node context w.calls (w.objects ref).state
  ∃ n, after.trail = w.trail ++ (List.range n).flatMap
      (attemptEvents handler (w.objects ref).id node context w.calls (w.objects ref).state) ∧
    0 < n ∧ n ≤ node.maxAttempts ∧
    (∀ k, k + 1 < n → (exit k).IsFailure ∧ node.MayRetry (errorClass k)) ∧
    (n < node.maxAttempts → ¬ ((exit (n - 1)).IsFailure ∧ node.MayRetry (errorClass (n - 1)))) ∧
    ((exit (n - 1)).IsFailure → (after.objects ref).status = .failed)

def FailuresListed (errorClass : Nat → String) (calls : Nat) (state : State) : Prop :=
  ∀ k < node.maxAttempts - 1, (∀ j ≤ k, (exitOf handler node context calls state j).IsFailure) →
    node.MayRetry (errorClass k)

theorem length_attemptEvents (calls : Nat) (state : State) (n : Nat) :
    ((List.range n).flatMap (attemptEvents handler runId node context calls state)).length =
      n * 2 := by
  simp [List.length_flatMap, attemptEvents]

/-- The engine follows the policy only where the list of errors makes no difference. -/
theorem followsPolicy_iff (present : engine.handlers node.handler = some handler)
    (errorClass : Nat → String) :
    FollowsPolicy engine handler ref runId node context w errorClass ↔
      FailuresListed handler node context errorClass w.calls (w.objects ref).state := by
  obtain ⟨last, ends⟩ : ∃ last, lastAttempt handler node context w.calls (w.objects ref).state =
    last := ⟨_, rfl⟩
  have positive := maxAttempts_pos node
  have bound : last ≤ 0 + (node.maxAttempts - 1) := by
    rw [← ends]
    exact Retries.last_le _ 0
  have trail := executeNode_trail engine handler ref runId node context w present
  rw [nodeRun_eq handler _ node context w.calls _ ends] at trail
  constructor
  · rintro ⟨n, written, -, -, retried, -⟩ k before fails
    have count : n = last + 1 := by
      have lengths := congrArg List.length (List.append_cancel_left (written.symm.trans trail))
      rw [length_attemptEvents, length_attemptEvents] at lengths
      omega
    have made : k + 1 ≤ last := by
      rw [← ends]
      exact Retries.le_last_of_failed (by omega) fun j early => fails j (by omega)
    exact (retried k (by omega)).2
  · intro listed
    have failed : ∀ k < last,
        (exitOf handler node context w.calls (w.objects ref).state k).IsFailure := by
      intro k before
      rw [← ends] at before
      exact Retries.failed_of_lt_last (Nat.zero_le k) before
    refine ⟨last + 1, trail, Nat.succ_pos last, by omega, ?_, ?_, ?_⟩
    · intro k before
      exact ⟨failed k (by omega), listed k (by omega) fun j le => failed j (by omega)⟩
    · intro early ended
      subst ends
      have := lastAttempt_of_failed handler node context ended.1
      omega
    · intro ⟨message, fails⟩
      subst ends
      rw [executeNode_failed engine handler ref runId node context w present message fails]

end

/-! ### A handler that fails with its work half done -/

def markingHandler : NodeHandler := fun _ state _ =>
  { state := Dict.set state "charged" (.bool true), effects := [], exit := .failed "timeout" }

def twice : RetryPolicy where
  maxAttempts := 2
  backoffSeconds := 1
  backoffMultiplier := 2
  retryableErrors := ["TimeoutError"]
  one_le_maxAttempts := by decide

def flakyNode : NodeDefinition :=
  { NodeDefinition.plain "charge" .action "charge" with retryPolicy := some twice }

def markingEngine : WorkflowEngine := .plain (fun _ => some markingHandler) false

/-- The second attempt sees the mark of the first. -/
theorem mark_left :
    ¬ Traceless markingEngine markingHandler 0 "run" flakyNode plainContext newRun := by
  intro ⟨same, _⟩
  have marked := same 1 (by decide)
  exact absurd marked (by decide)

def decliningHandler : NodeHandler := fun _ state _ =>
  { state, effects := [], exit := .failed "timeout" }

theorem declined_traceless :
    Traceless (.plain (fun _ => some decliningHandler) false) decliningHandler 0 "run" flakyNode
      plainContext newRun := by
  apply (traceless_iff (.plain (fun _ => some decliningHandler) false) decliningHandler 0 "run"
    flakyNode plainContext newRun rfl).mpr
  exact ⟨fun _ _ _ => rfl, fun _ => rfl⟩

/-- Both attempts raise what the policy does not list. -/
theorem unlisted_retried :
    ¬ FollowsPolicy markingEngine markingHandler 0 "run" flakyNode plainContext newRun
      fun _ => "ValueError" := by
  rintro ⟨n, trail, -, -, retried, -⟩
  have lengths := congrArg List.length trail
  rw [List.length_append, length_attemptEvents] at lengths
  have made : 4 = 0 + n * 2 := lengths
  rcases (retried 0 (by omega)).2 twice rfl with empty | listed
  · cases empty
  · exact absurd listed (by decide)

theorem listed_retried :
    FollowsPolicy markingEngine markingHandler 0 "run" flakyNode plainContext newRun
      fun _ => "TimeoutError" := by
  apply (followsPolicy_iff markingEngine markingHandler 0 "run" flakyNode plainContext newRun rfl
    fun _ => "TimeoutError").mpr
  intro k _ _ policy given
  obtain rfl : twice = policy := Option.some.inj given
  exact .inr (List.mem_singleton_self _)

end SyndicateClaw.Orchestrator
