import SyndicateClaw.Orchestrator.EngineWrite

/-! Every engine operation changes the world by engine writes.

The operations are taken one coroutine at a time, in any environment that itself
only makes engine writes while they are suspended. -/

namespace SyndicateClaw.Orchestrator

open Async

/-- A protocol under which the engine's operations change the world by its writes. -/
structure Observes (engine : WorkflowEngine) (c : Conditions) (p : Protocol World Point) :
    Prop where
  rely : ∀ {point w w'}, p.rely point w w' → EngineWrites engine c w w'
  boundary : ∀ {nodeId requestId w w'},
    p.rely (.persistApprovalBoundary nodeId requestId) w w' → c.boundary w'.db requestId
  entered : ∀ {point w w'}, p.rely point w w' → c.enter w.trail → c.enter w'.trail
  calm : c.calm → ∀ {point w w'}, p.rely point w w' → w'.trail = w.trail ∧
    ∀ ref, haltsAfter (w.objects ref).status → haltsAfter (w'.objects ref).status
  guarantee : ∀ {w w'}, EngineWrite engine c w w' → p.guarantee w w'

/-- A property that lasts while one node is executed: the environment keeps it, and so
does every write but the dispatch of a node. -/
structure Lasting (engine : WorkflowEngine) (c : Conditions) (p : Protocol World Point)
    (P : World → Prop) : Prop where
  write : ∀ {w w'}, EngineWrite engine c w w' →
    Quiet w.trail w'.trail → P w → P w'
  rely : ∀ {point w w'}, p.rely point w w' → P w → P w'

theorem Stable.lasting {engine : WorkflowEngine} {c : Conditions} {p : Protocol World Point}
    {P : World → Prop} (stable : Stable engine c P) (obs : Observes engine c p) :
    Lasting engine c p P :=
  ⟨fun write _ holds => stable _ _ write holds,
    fun step holds => stable.writes (obs.rely step) holds⟩

theorem Lasting.and {engine : WorkflowEngine} {c : Conditions} {p : Protocol World Point}
    {P Q : World → Prop} (one : Lasting engine c p P) (two : Lasting engine c p Q) :
    Lasting engine c p fun w => P w ∧ Q w :=
  ⟨fun write quiet holds => ⟨one.write write quiet holds.1, two.write write quiet holds.2⟩,
    fun step holds => ⟨one.rely step holds.1, two.rely step holds.2⟩⟩

section current

variable {engine : WorkflowEngine} {c : Conditions} {p : Protocol World Point}
  (obs : Observes engine c p)

include obs

theorem lasting_quiet {R : List Event → Prop}
    (kept : ∀ {trail trail'}, R trail → Quiet trail trail' → R trail') :
    Lasting engine c p fun w => c.calm → R w.trail := by
  constructor
  · intro w w' write quiet holds calm
    exact kept (holds calm) quiet
  · intro point w w' step holds calm
    rw [(obs.calm calm step).1]
    exact holds calm

theorem lasting_current (runId nodeId : String) :
    Lasting engine c p fun w => c.calm → Current w.trail runId nodeId :=
  lasting_quiet obs Current.quiet

theorem lasting_returned (runId nodeId : String) (result : NodeResult) :
    Lasting engine c p fun w => c.calm → Returned w.trail runId nodeId result :=
  lasting_quiet obs Returned.quiet

end current

/-- A coroutine that keeps to the protocol and leaves `Q` when it returns. -/
abbrev Keeps {α : Type} (p : Protocol World Point) (P : World → Prop) (m : EngineM α)
    (Q : α → World → Prop) : Prop :=
  Co.Triple p P m Q fun _ _ => True

section rules

variable {engine : WorkflowEngine} {c : Conditions} {p : Protocol World Point}
  {P : World → Prop} {ref : Nat}

theorem keeps_readRun : Keeps p P (readRun ref) fun run w => run = w.objects ref ∧ P w :=
  fun w holds => ⟨p.refl w, rfl, holds⟩

theorem keeps_utcnow : Keeps p P utcnow fun now w => now = w.now ∧ P w :=
  fun w holds => ⟨p.refl w, rfl, holds⟩

theorem keeps_findRun (runId : String) :
    Keeps p P (findRun runId) fun result w => w.runs runId = some result ∧ P w := by
  refine Co.Triple.bind Co.Triple.get fun s => ?_
  cases found : s.runs runId with
  | none => exact Co.Triple.raise fun _ _ => trivial
  | some result => exact Co.Triple.pure fun w holds => ⟨holds.1 ▸ found, holds.2⟩

variable (obs : Observes engine c p)

include obs

theorem Observes.write {f : World → World} {Q : Unit → World → Prop}
    (step : ∀ w, P w → EngineWrite engine c w (f w) ∧ Q () (f w)) : Keeps p P (Co.modify f) Q :=
  Co.Triple.modify fun w holds => ⟨obs.guarantee (step w holds).1, (step w holds).2⟩

variable (lasting : Lasting engine c p P)

include lasting

theorem Observes.keep {f : World → World} (step : ∀ w, P w → EngineWrite engine c w (f w))
    (quiet : ∀ w, Quiet w.trail (f w).trail) :
    Keeps p P (Co.modify f) fun _ => P :=
  obs.write fun w holds => ⟨step w holds, lasting.write (step w holds) (quiet w) holds⟩

omit obs in
theorem Lasting.await (point : Point) : Keeps p P (Co.await point) fun _ => P :=
  Co.Triple.await fun _ _ holds step => lasting.rely step holds

theorem keeps_freshId : Keeps p P (freshId engine) fun _ => P :=
  fun _ holds => ⟨obs.guarantee .freshId, lasting.write .freshId (.refl _) holds⟩

theorem keeps_emitAudit (eventType : AuditEventType)
    (actor resourceType resourceId action : String) (details : State) :
    Keeps p P (emitAudit eventType actor resourceType resourceId action details) fun _ => P :=
  Co.Triple.bind (obs.keep lasting (fun _ _ => .effects _) fun _ => .refl _) fun _ => lasting.await _

omit obs in
theorem keeps_maybeCacheState (stage : Stage) : Keeps p P (maybeCacheState stage) fun _ => P :=
  lasting.await _

theorem Observes.control {f : WorkflowRun → WorkflowRun} (only : Controls f) :
    Keeps p P (modifyRun ref f) fun _ => P :=
  obs.keep lasting (fun _ _ => .control ref f only) fun _ => .refl _

theorem keeps_persistCheckpoint (stage : Stage) :
    Keeps p P (persistCheckpoint engine ref stage) fun _ => P :=
  Co.Triple.bind (obs.keep lasting (fun _ _ => .checkpoint ref) fun _ => .refl _) fun _ =>
    lasting.await _

theorem Observes.commit {f : WorkflowRun → Database → Database}
    (step : ∀ w, P w → EngineWrite engine c w { w with db := f (w.objects ref) w.db }) :
    Keeps p P (do let run ← readRun ref; modifyDb (f run)) fun _ => P := by
  refine Co.Triple.bind keeps_readRun fun run => ?_
  apply Co.Triple.modify
  rintro w ⟨rfl, holds⟩
  exact ⟨obs.guarantee (step w holds), lasting.write (step w holds) (.refl _) holds⟩

theorem keeps_persistRunFailure : Keeps p P (persistRunFailure engine ref) fun _ => P := by
  unfold persistRunFailure
  split
  · refine Co.Triple.bind (lasting.await _) fun _ => ?_
    exact obs.commit lasting fun _ _ => .persistFailure ref
  · exact Co.Triple.pure fun _ holds => holds

theorem keeps_raiseExecutionBoundFailure {α : Type} {Q : α → World → Prop}
    (workflow : WorkflowDefinition) (reason message : String) (cyclePath : List String)
    (stepCount : Nat) :
    Keeps p P (raiseExecutionBoundFailure engine ref workflow reason message cyclePath stepCount)
      Q := by
  refine Co.Triple.bind keeps_utcnow fun now => ?_
  refine Co.Triple.bind (Q := fun _ => P) ?_ fun _ => ?_
  · exact (obs.keep lasting (fun _ _ => .bound ref now reason cyclePath stepCount)
      fun _ => .refl _).conseq (fun _ holds => holds.2) (fun _ _ holds => holds) fun _ _ holds => holds
  refine Co.Triple.bind (keeps_maybeCacheState lasting _) fun _ => ?_
  refine Co.Triple.bind (keeps_persistRunFailure obs lasting) fun _ => ?_
  refine Co.Triple.bind keeps_readRun fun run => ?_
  refine Co.Triple.bind (Q := fun _ _ => True) ?_ fun _ => Co.Triple.raise fun _ _ => trivial
  refine Co.Triple.bind keeps_utcnow fun now => ?_
  exact (keeps_emitAudit obs lasting _ _ _ _ _ _).conseq (fun _ holds => holds.2.2)
    (fun _ _ _ => trivial) fun _ _ holds => holds

end rules

/-! ### Node execution -/

theorem Observes.last {engine : WorkflowEngine} {c : Conditions} {p : Protocol World Point}
    (obs : Observes engine c p) {R : List Event → Prop} {point : Point} {w w' : World}
    (step : p.rely point w w') (holds : c.calm → R w.trail) : c.calm → R w'.trail := by
  intro calm
  rw [(obs.calm calm step).1]
  exact holds calm

/-- The run's state and the trail are as the last call of the node's handler left
them. -/
def LeftBy (engine : WorkflowEngine) (c : Conditions) (ref : Nat) (runId : String)
    (node : NodeDefinition) (exit : HandlerExit) (w : World) : Prop :=
  ∃ handler index state context, Handling engine c node handler context ∧
    (handler index state context).exit = exit ∧
    (w.objects ref).state = (handler index state context).state ∧
    .exited runId node.id exit ∈ w.trail ∧
    (∀ result, exit = .returned result → c.calm → Returned w.trail runId node.id result) ∧
    (c.calm → w.trail.getLast? = some (.exited runId node.id exit))

/-- What is known of a node once its attempts are over. -/
structure Concluded (c : Conditions) (ref : Nat) (runId : String) (node : NodeDefinition)
    (attempts : Attempts) (w : World) : Prop where
  named : attempts.execution.nodeId = node.id
  ended : attempts.execution.status = .completed → ∃ exit,
    ((∃ result, exit = .returned result) ∨ exit = .pauseExecution) ∧
      .exited runId node.id exit ∈ w.trail
  result : c.calm → attempts.approvalInterrupt = none → ∀ result, attempts.result = some result →
    haltsAfter (w.objects ref).status ∨ Returned w.trail runId node.id result

/-- What an attempt comes to: the end of the attempts, or another one is due. -/
def Settled (c : Conditions) (ref : Nat) (runId : String) (node : NodeDefinition)
    (lastAttempt : Bool) (attempts : Option Attempts) (w : World) : Prop :=
  match attempts with
  | some made => Concluded c ref runId node made w
  | none => lastAttempt = false ∧ (c.calm →
      ∃ message, w.trail.getLast? = some (.exited runId node.id (.failed message)))

/-- What the loop learns from a node's result: the run stands still, or the handler
returned it. -/
def Answered (c : Conditions) (ref : Nat) (runId nodeId : String) (result : NodeResult)
    (w : World) : Prop :=
  c.calm → haltsAfter (w.objects ref).status ∨ Returned w.trail runId nodeId result

section node

variable {engine : WorkflowEngine} {c : Conditions} {p : Protocol World Point}
  (obs : Observes engine c p) {P : World → Prop} (lasting : Lasting engine c p P)
  {ref : Nat} {runId : String} (owns : ∀ w, P w → w.Owns ref runId) {node : NodeDefinition}

theorem callHandler_eq (handler : NodeHandler) (context : ExecutionContext) (w : World) :
    callHandler handler ref node context w =
      .yield (.handler node.id context.attempt) (w.invoke (w.objects ref).id node context.attempt)
        fun w' =>
          .ok (w'.handled ref (w'.objects ref).id node
              (handler w.calls (w'.objects ref).state context))
            (handler w.calls (w'.objects ref).state context).exit := rfl

include obs lasting owns

theorem keeps_callHandler {handler : NodeHandler} {context : ExecutionContext}
    (handling : Handling engine c node handler context)
    (current : ∀ w, P w → c.calm → Current w.trail runId node.id) :
    Keeps p (fun w => P w ∧ (c.calm → AttemptDue w.trail runId node context.attempt))
      (callHandler handler ref node context)
      fun exit w => P w ∧ LeftBy engine c ref runId node exit w := by
  rintro w ⟨holds, due⟩
  rw [callHandler_eq]
  have invoked : EngineWrite engine c w _ := .invoke runId node context.attempt (current w holds)
    due handling.belongs
  rw [(owns w holds).2]
  refine ⟨obs.guarantee invoked, fun w' step => ?_⟩
  have last : c.calm → w'.trail.getLast? =
      some (.invoked runId node.id node.handler context.attempt) :=
    obs.last (R := fun trail => trail.getLast? = _) step fun _ => by simp [World.invoke]
  have holds' : P w' := lasting.rely step
    (lasting.write invoked (.snoc _ rfl) holds)
  have named := (owns w' holds').2
  have handled := EngineWrite.handle ref runId node handler w.calls context handling
    (owns w' holds') (current w' holds') fun calm => ⟨_, last calm⟩
  dsimp only
  rw [named]
  refine ⟨obs.guarantee handled,
    lasting.write handled (.snoc _ rfl) holds', ?_⟩
  refine ⟨handler, w.calls, (w'.objects ref).state, context, handling, rfl,
    by simp [World.handled], by simp [World.handled], fun result returned calm => ?_,
    fun _ => by simp [World.handled]⟩
  simp only [World.handled, returned]
  exact (current w' holds' calm).returned result

omit obs lasting owns in
theorem approvalRequestForInterrupt_names {platform : Platform} {fresh : String} {now : Instant}
    {exc : WaitForApprovalError} {run : WorkflowRun} {execution : NodeExecution}
    {request : ApprovalRequest}
    (asked : approvalRequestForInterrupt platform fresh now exc node run execution =
      some request) :
    request.runId = run.id ∧ Dict.get? request.context "node_id" = some (.str node.id) ∧
      Dict.get? request.context "resume_node_id" = some (.str node.id) := by
  obtain ⟨payload, -, rfl⟩ := Option.map_eq_some_iff.mp asked
  simp [Dict.get?_update, Dict.get?_cons]

theorem keeps_persistApprovalBoundary (asked : ∀ w, P w → w.Asked runId node.id)
    {execution : NodeExecution} {request : ApprovalRequest} (owned : request.runId = runId)
    (context : Dict.get? request.context "node_id" = some (.str node.id) ∧
      Dict.get? request.context "resume_node_id" = some (.str node.id)) :
    Keeps p P (persistApprovalBoundary engine ref execution request) fun _ => P := by
  unfold persistApprovalBoundary
  split
  · refine Co.Triple.bind (Q := fun _ w => P w ∧ c.boundary w.db request.id) ?_ fun _ => ?_
    · apply Co.Triple.await
      intro w w' holds step
      exact ⟨lasting.rely step holds, obs.boundary step⟩
    refine Co.Triple.bind keeps_readRun fun run => ?_
    apply Co.Triple.modify
    rintro w ⟨rfl, holds, allowed⟩
    have write : EngineWrite engine c w _ := .persistBoundary ref runId node.id execution request
      (owns w holds) owned context (asked w holds) allowed
    exact ⟨obs.guarantee write, lasting.write write (.refl _) holds⟩
  · exact Co.Triple.pure fun _ holds => holds

theorem keeps_prepareApprovalInterrupt
    (current : ∀ w, P w → c.calm → Current w.trail runId node.id) (asked : ∀ w, P w → w.Asked runId node.id)
    (exc : WaitForApprovalError) (execution : NodeExecution) :
    Keeps p P (prepareApprovalInterrupt engine exc node ref execution) fun _ => P := by
  refine Co.Triple.bind (keeps_freshId obs lasting) fun fresh => ?_
  refine Co.Triple.bind keeps_utcnow fun now => ?_
  refine Co.Triple.bind keeps_readRun fun run => ?_
  cases requested : approvalRequestForInterrupt engine.platform fresh now exc node run execution with
  | none => exact Co.Triple.raise fun _ _ => trivial
  | some request =>
      dsimp only
      intro w holds
      obtain ⟨rfl, -, holds⟩ := holds
      obtain ⟨owned, context⟩ := approvalRequestForInterrupt_names requested
      rw [(owns w holds).2] at owned
      refine Co.Triple.bind (P := P) (Q := fun _ => P)
        (obs.keep lasting (fun w holds => .await ref runId node.id now request (current w holds))
          fun _ => .refl _) (fun _ => ?_) w holds
      refine Co.Triple.bind (keeps_persistCheckpoint obs lasting _) fun _ => ?_
      refine Co.Triple.bind (keeps_maybeCacheState lasting _) fun _ => ?_
      refine Co.Triple.bind
        (keeps_persistApprovalBoundary obs lasting owns asked owned context) fun _ => ?_
      refine Co.Triple.bind keeps_readRun fun run => ?_
      refine Co.Triple.bind (Q := fun _ => P) ?_ fun _ => Co.Triple.pure fun _ holds => holds
      refine Co.Triple.bind keeps_utcnow fun now => ?_
      exact (keeps_emitAudit obs lasting _ _ _ _ _ _).conseq (fun _ holds => holds.2.2)
        (fun _ _ holds => holds) fun _ _ holds => holds

omit owns in
theorem keeps_halt {f : WorkflowRun → WorkflowRun} (only : Controls f)
    (halts : ∀ run, haltsAfter (f run).status) (exit : HandlerExit) :
    Keeps p (fun w => P w ∧ LeftBy engine c ref runId node exit w) (modifyRun ref f)
      fun _ w => P w ∧ haltsAfter (w.objects ref).status ∧ .exited runId node.id exit ∈ w.trail := by
  apply obs.write
  rintro w ⟨holds, handler, index, state, context, -, -, -, exited, -, -⟩
  have write : EngineWrite engine c w _ := .control ref f only
  exact ⟨write, lasting.write write (.refl _) holds, by simpa using halts _, exited⟩

omit owns in
theorem keeps_settleHalted {f : WorkflowRun → WorkflowRun} (only : Controls f)
    (halts : ∀ run, haltsAfter (f run).status) {exit : HandlerExit} {lastAttempt : Bool}
    {made : WorkflowRun → Instant → Attempts}
    (named : ∀ run now, (made run now).execution.nodeId = node.id)
    (ended : ∀ run now, (made run now).execution.status = .completed → exit = .pauseExecution) :
    Keeps p (fun w => P w ∧ LeftBy engine c ref runId node exit w)
      (do
        modifyRun ref f
        let run ← readRun ref
        let now ← utcnow
        return some (made run now))
      fun attempts w => P w ∧ Settled c ref runId node lastAttempt attempts w := by
  refine Co.Triple.bind (keeps_halt obs lasting only halts exit) fun _ => ?_
  refine Co.Triple.bind keeps_readRun fun run => ?_
  refine Co.Triple.bind keeps_utcnow fun now => ?_
  apply Co.Triple.pure
  rintro w ⟨-, -, holds, halted, exited⟩
  refine ⟨holds, named run now, fun completed => ?_, fun _ _ _ _ => .inl halted⟩
  exact ⟨exit, .inr (ended run now completed), exited⟩

omit owns in
theorem keeps_settleReturned (current : ∀ w, P w → c.calm → Current w.trail runId node.id)
    {execution : NodeExecution} (named : execution.nodeId = node.id)
    (lastAttempt : Bool) (result : NodeResult) :
    Keeps p (fun w => P w ∧ LeftBy engine c ref runId node (.returned result) w)
      (settleAttempt engine ref node execution lastAttempt (.returned result))
      fun attempts w => P w ∧ Settled c ref runId node lastAttempt attempts w := by
  refine Co.Triple.bind (Q := fun _ w => P w ∧ .exited runId node.id (.returned result) ∈
    w.trail ∧ (c.calm → Returned w.trail runId node.id result)) ?_ fun _ => ?_
  · apply obs.write
    rintro w ⟨holds, handler, index, state, context, handling, returned, left, exited, ended, -⟩
    have write := EngineWrite.output ref runId node handler index state context result handling
      left returned (current w holds)
    exact ⟨write, lasting.write write (.refl _) holds, exited, ended result rfl⟩
  refine Co.Triple.bind keeps_readRun fun run => ?_
  refine Co.Triple.bind keeps_utcnow fun now => ?_
  apply Co.Triple.pure
  rintro w ⟨-, -, holds, exited, ended⟩
  refine ⟨holds, named, fun _ => ⟨_, .inl ⟨result, rfl⟩, exited⟩, fun calm _ value is => .inr ?_⟩
  obtain rfl := Option.some.inj is
  exact ended calm

theorem keeps_settleAsking (dispatched : ∀ w, P w → .dispatched runId node.id ∈ w.trail)
    (current : ∀ w, P w → c.calm → Current w.trail runId node.id)
    {execution : NodeExecution} (named : execution.nodeId = node.id) (lastAttempt : Bool)
    (exc : WaitForApprovalError) :
    Keeps p (fun w => P w ∧ LeftBy engine c ref runId node (.waitForApproval exc) w)
      (settleAttempt engine ref node execution lastAttempt (.waitForApproval exc))
      fun attempts w => P w ∧ Settled c ref runId node lastAttempt attempts w := by
  have asking := lasting.and
    ((stable_mem (.exited runId node.id (.waitForApproval exc))).lasting obs)
  refine Co.Triple.bind (keeps_halt obs lasting (fun _ => rfl) (fun _ => rfl) _) fun _ => ?_
  refine Co.Triple.bind keeps_readRun fun run => ?_
  refine Co.Triple.bind keeps_utcnow fun now => ?_
  refine Co.Triple.bind
    ((keeps_prepareApprovalInterrupt obs asking (fun w holds => owns w holds.1)
      (fun w holds => current w holds.1) (fun w holds => ⟨dispatched w holds.1, exc, holds.2⟩) exc _).conseq
        (fun _ holds => ⟨holds.2.2.1, holds.2.2.2.2⟩) (fun _ _ holds => holds)
        fun _ _ holds => holds) fun interrupt => ?_
  refine Co.Triple.bind keeps_readRun fun run => ?_
  apply Co.Triple.pure
  rintro w ⟨-, holds, -⟩
  exact ⟨holds, named, nofun, nofun⟩

theorem keeps_settleAttempt (dispatched : ∀ w, P w → .dispatched runId node.id ∈ w.trail)
    (current : ∀ w, P w → c.calm → Current w.trail runId node.id)
    {execution : NodeExecution} (named : execution.nodeId = node.id) (lastAttempt : Bool)
    (exit : HandlerExit) :
    Keeps p (fun w => P w ∧ LeftBy engine c ref runId node exit w)
      (settleAttempt engine ref node execution lastAttempt exit)
      fun attempts w => P w ∧ Settled c ref runId node lastAttempt attempts w := by
  cases exit with
  | returned result => exact keeps_settleReturned obs lasting current named lastAttempt result
  | pauseExecution =>
      exact keeps_settleHalted obs lasting (fun _ => rfl) (fun _ => rfl) (fun _ _ => named)
        fun _ _ _ => rfl
  | waitForApproval exc =>
      exact keeps_settleAsking obs lasting owns dispatched current named lastAttempt exc
  | waitForAgentResponse =>
      refine keeps_settleHalted obs lasting (fun _ => rfl) (fun _ => rfl) (fun _ _ => named) ?_
      intro run now completed
      simp at completed
  | failed message =>
      cases lastAttempt with
      | true =>
          simp only [settleAttempt, if_true]
          refine keeps_settleHalted obs lasting (fun _ => rfl) (fun _ => rfl) (fun _ _ => named) ?_
          intro run now completed
          simp at completed
      | false =>
          simp only [settleAttempt, Bool.false_eq_true, if_false]
          apply Co.Triple.pure
          rintro w ⟨holds, handler, index, state, context, -, -, -, -, -, last⟩
          exact ⟨holds, rfl, fun calm => ⟨message, last calm⟩⟩
  | escaped message => exact Co.Triple.raise fun _ _ => trivial

theorem keeps_attemptNode (dispatched : ∀ w, P w → .dispatched runId node.id ∈ w.trail)
    (current : ∀ w, P w → c.calm → Current w.trail runId node.id)
    {handler : NodeHandler} {context : ExecutionContext}
    (handling : Handling engine c node handler context) (multiplier : Rat) (left attempt : Nat)
    (within : attempt + left = node.maxAttempts + 1) (counted : attempt ≠ 0)
    (delay : Rat) {execution : NodeExecution} (named : execution.nodeId = node.id)
    (begun : execution.status = .running) :
    Keeps p (fun w => P w ∧ (c.calm → AttemptDue w.trail runId node attempt))
      (attemptNode engine handler ref node context multiplier left attempt delay execution)
      fun attempts w => P w ∧ Concluded c ref runId node attempts w := by
  induction left generalizing attempt delay execution with
  | zero =>
      apply Co.Triple.pure
      intro w holds
      exact ⟨holds.1, named, fun completed => by simp [begun] at completed, nofun⟩
  | succ left ih =>
      have again : Handling engine c node handler { context with attempt } :=
        ⟨handling.belongs, handling.present, handling.named, handling.configured⟩
      have still : { execution with attempt }.nodeId = node.id := named
      refine Co.Triple.bind (keeps_callHandler obs lasting owns again current) fun exit => ?_
      refine Co.Triple.bind (keeps_settleAttempt obs lasting owns dispatched current still _ exit)
        fun attempts => ?_
      cases attempts with
      | some made => exact Co.Triple.pure fun w holds => holds
      | none =>
          refine Co.Triple.bind ?_ fun _ =>
            ih (attempt + 1) (by omega) (by omega) (delay * multiplier) named begun
          apply Co.Triple.await
          rintro w w' ⟨holds, again, failed⟩ step
          have more := of_decide_eq_false again
          refine ⟨lasting.rely step holds, fun calm => .inr ⟨by omega, by omega, ?_⟩⟩
          exact obs.last (R := fun trail => ∃ message, trail.getLast? = some
            (.exited runId node.id (.failed message))) step failed calm

omit owns in
theorem keeps_await_answered (point : Point) (nodeId : String) (result : NodeResult) :
    Keeps p (fun w => P w ∧ Answered c ref runId nodeId result w) (Co.await point)
      fun _ w => P w ∧ Answered c ref runId nodeId result w := by
  apply Co.Triple.await
  rintro w w' ⟨holds, answered⟩ step
  refine ⟨lasting.rely step holds, fun calm => ?_⟩
  rcases answered calm with halted | returned
  · exact .inl ((obs.calm calm step).2 ref halted)
  · rw [(obs.calm calm step).1]
    exact .inr returned

omit owns in
theorem keeps_finishNode (attempts : Attempts) :
    Keeps p (fun w => P w ∧ Concluded c ref runId node attempts w)
      (finishNode engine ref runId node attempts)
      fun result w => P w ∧ Answered c ref runId node.id result w := by
  refine Co.Triple.bind
    (Q := fun _ w => P w ∧ Concluded c ref runId node attempts w) ?_ fun _ => ?_
  · apply obs.write
    rintro w ⟨holds, concluded⟩
    have write : EngineWrite engine c w _ := .append runId attempts.execution
      (by rw [concluded.named]; exact concluded.ended)
    exact ⟨write, lasting.write write (.refl _) holds, concluded.named, concluded.ended,
      concluded.result⟩
  rcases attempts with ⟨execution, _ | result, _ | interrupt⟩
  · exact Co.Triple.raise fun _ _ => trivial
  · exact Co.Triple.raise fun _ _ => trivial
  · refine Co.Triple.bind
      (Q := fun _ w => P w ∧ Answered c ref runId node.id result w) ?_ fun _ => ?_
    · apply obs.write
      rintro w ⟨holds, concluded⟩
      have write : EngineWrite engine c w _ := .clear ref node.id
      refine ⟨write, lasting.write write (.refl _) holds, fun calm => ?_⟩
      have answered := concluded.result calm rfl result rfl
      simpa using answered
    refine Co.Triple.bind
      (Q := fun _ w => P w ∧ Answered c ref runId node.id result w) ?_ fun _ => ?_
    · unfold persistRunAndNode
      split
      · refine Co.Triple.bind (keeps_await_answered obs lasting _ _ _) fun _ => ?_
        refine Co.Triple.bind keeps_readRun fun run => ?_
        apply Co.Triple.modify
        rintro w ⟨rfl, holds, answered⟩
        have write : EngineWrite engine c w _ := .persistNode ref execution
        exact ⟨obs.guarantee write, lasting.write write (.refl _) holds, answered⟩
      · exact Co.Triple.pure fun _ holds => holds
    by_cases completed : execution.status = .completed
    · simp only [completed, if_true]
      refine Co.Triple.bind (keeps_await_answered obs lasting _ _ _) fun _ => ?_
      exact Co.Triple.pure fun _ holds => holds
    · simp only [completed, if_false]
      exact Co.Triple.pure fun _ holds => holds
  · exact Co.Triple.raise fun _ _ => trivial

theorem keeps_executeNode (dispatched : ∀ w, P w → .dispatched runId node.id ∈ w.trail)
    (current : ∀ w, P w → c.calm → Current w.trail runId node.id)
    (belongs : ∃ workflow, c.workflow workflow ∧ workflow.node? node.id = some node)
    {context : ExecutionContext} (named : context.nodeId = node.id) :
    Keeps p (fun w => P w ∧ (c.calm → w.trail.getLast? = some (.dispatched runId node.id)))
      (executeNode engine ref runId context node)
      fun result w => P w ∧ Answered c ref runId node.id result w := by
  unfold executeNode
  cases present : engine.handlers node.handler with
  | none =>
      refine Co.Triple.bind (Q := fun _ w => P w ∧ haltsAfter (w.objects ref).status) ?_
        fun _ => ?_
      · apply obs.write
        rintro w ⟨holds, -⟩
        have write : EngineWrite engine c w _ := .control ref (fun run =>
          { run with
            status := .failed
            error := some ("No handler registered for: " ++ node.handler) }) fun _ => rfl
        exact ⟨write, lasting.write write (.refl _) holds, by simp [haltsAfter]⟩
      refine Co.Triple.bind keeps_readRun fun run => ?_
      exact Co.Triple.pure fun w holds => ⟨holds.2.1, fun _ => .inl holds.2.2⟩
  | some handler =>
      refine Co.Triple.bind (Q := fun _ w => P w ∧
        (c.calm → w.trail.getLast? = some (.dispatched runId node.id))) ?_ fun id => ?_
      · rintro w ⟨holds, last⟩
        exact ⟨obs.guarantee .freshId, lasting.write .freshId (.refl _) holds, last⟩
      refine Co.Triple.bind keeps_readRun fun run => ?_
      refine Co.Triple.bind keeps_utcnow fun now => ?_
      refine Co.Triple.bind (P := fun w => _ ∧ _ ∧ _)
        (Q := fun attempts w => P w ∧ Concluded c ref runId node attempts w) ?_ fun attempts =>
          keeps_finishNode obs lasting attempts
      have handling : Handling engine c node handler { context with config := node.config } :=
        ⟨belongs, present, named, rfl⟩
      exact (keeps_attemptNode obs lasting owns dispatched current handling _ _ 1
        (Nat.add_comm _ _) Nat.one_ne_zero _ rfl rfl).conseq
          (fun _ holds => ⟨holds.2.2.1, fun calm => .inl (holds.2.2.2 calm)⟩)
          (fun _ _ holds => holds) fun _ _ holds => holds

end node

/-! ### The execution loop -/

def Onward (runId : String) (exit : LoopExit) (w : World) : Prop :=
  ∀ next, exit = .goTo (some next) →
    ∃ nodeId, w.trail.getLast? = some (.chose runId nodeId (some next))

section loop

variable {engine : WorkflowEngine} {c : Conditions} {p : Protocol World Point}
  (obs : Observes engine c p) {P : World → Prop} (lasting : Lasting engine c p P)
  {ref : Nat} {runId : String} (owns : ∀ w, P w → w.Owns ref runId)
  {workflow : WorkflowDefinition} (used : c.workflow workflow)

include obs lasting

theorem keeps_completeRun : Keeps p P (completeRun ref workflow) fun _ => P := by
  refine Co.Triple.bind keeps_utcnow fun now => ?_
  refine Co.Triple.bind (Q := fun _ => P) ?_ fun _ => ?_
  · exact (obs.control lasting fun _ => rfl).conseq (fun _ holds => holds.2)
      (fun _ _ holds => holds) fun _ _ holds => holds
  refine Co.Triple.bind (keeps_maybeCacheState lasting _) fun _ => ?_
  refine Co.Triple.bind keeps_readRun fun run => ?_
  exact (keeps_emitAudit obs lasting _ _ _ _ _ _).conseq (fun _ holds => holds.2)
    (fun _ _ holds => holds) fun _ _ holds => holds

include owns used

theorem keeps_choose {node : NodeDefinition} {result : NodeResult}
    (ended : ∀ w, P w → c.calm → Returned w.trail runId node.id result) :
    Keeps p P (if node.nodeType = .endNode then do
        completeRun ref workflow
        return .stop
      else do
        let run ← readRun ref
        let next := result.nextNodeId.or (resolveNextNode node.id run.state workflow.edges)
        record (.chose run.id node.id next)
        return .goTo next) fun exit w => P w ∧ Onward runId exit w := by
  split
  · refine Co.Triple.bind (keeps_completeRun obs lasting) fun _ => ?_
    exact Co.Triple.pure fun w holds => ⟨holds, by simp [Onward]⟩
  · refine Co.Triple.bind keeps_readRun fun run => ?_
    refine Co.Triple.bind (Q := fun _ w => P w ∧ w.trail.getLast? = some (.chose runId node.id
      (result.nextNodeId.or (resolveNextNode node.id run.state workflow.edges)))) ?_ fun _ => ?_
    · apply obs.write
      rintro w ⟨rfl, holds⟩
      have write : EngineWrite engine c w _ := .chose workflow ref runId node.id result used
        (ended w holds)
      rw [(owns w holds).2]
      exact ⟨write, lasting.write write (.snoc _ rfl) holds, by simp⟩
    · apply Co.Triple.pure
      intro w holds
      refine ⟨holds.1, fun next is => ⟨node.id, ?_⟩⟩
      rw [holds.2, LoopExit.goTo.inj is]

theorem keeps_advance {node : NodeDefinition} (result : NodeResult) :
    Keeps p (fun w => P w ∧ Answered c ref runId node.id result w)
      (advance engine ref workflow node result) fun exit w => P w ∧ Onward runId exit w := by
  have returned := lasting.and (lasting_returned obs runId node.id result)
  have chosen := (keeps_choose obs returned (fun w holds => owns w holds.1) used
    fun w holds => holds.2).conseq (fun _ holds => holds)
      (fun _ _ holds => (⟨holds.1.1, holds.2⟩ : P _ ∧ _)) fun _ _ holds => holds
  refine Co.Triple.bind (keeps_await_answered obs lasting _ _ _) fun _ => ?_
  refine Co.Triple.bind keeps_readRun fun run => ?_
  by_cases halted : haltsAfter run.status
  · simp only [halted, if_true]
    exact Co.Triple.pure fun w holds => ⟨holds.2.1, by simp [Onward]⟩
  -- Past the second check the handler must have returned this result.
  have past : ∀ w, run = w.objects ref ∧ P w ∧ Answered c ref runId node.id result w →
      P w ∧ (c.calm → Returned w.trail runId node.id result) := by
    rintro w ⟨rfl, holds, answered⟩
    exact ⟨holds, fun calm => (answered calm).resolve_left halted⟩
  simp only [halted, Bool.false_eq_true, if_false]
  refine Co.Triple.conseq ?_ past (fun _ _ holds => holds) fun _ _ holds => holds
  split
  · exact Co.Triple.bind (keeps_persistCheckpoint obs returned _) fun _ => chosen
  · exact chosen

omit obs lasting owns used in
theorem Comes.progress {w : World} {current : String} (comes : Comes c workflow ref runId w current)
    (stepCount : Option Nat) (visitedNodes : List String) :
    Comes c workflow ref runId (w.modifyResult runId fun result =>
      { result with stepCount := stepCount.getD result.stepCount, visitedNodes }) current := by
  rcases comes with ⟨entered, startNode, result, found, registered, entry⟩ | ⟨nodeId, chosen⟩
  · refine .inl ⟨entered, startNode, { result with
      stepCount := stepCount.getD result.stepCount, visitedNodes }, found, ?_, entry⟩
    rw [World.modifyResult_runs_self, registered, Option.map_some]
  · exact .inr ⟨nodeId, chosen⟩

end loop

section iterations

variable {engine : WorkflowEngine} {c : Conditions} {p : Protocol World Point}
  (obs : Observes engine c p) {P : World → Prop} (stable : Stable engine c P)
  {ref : Nat} {runId : String} (owns : ∀ w, P w → w.Owns ref runId)
  {workflow : WorkflowDefinition} (used : c.workflow workflow)

include obs

include stable owns used

theorem keeps_visitNode (context : ExecutionContext) (current : String) :
    Keeps p (fun w => P w ∧ Comes c workflow ref runId w current)
      (visitNode engine ref runId context workflow current)
      fun exit w => P w ∧ Onward runId exit w := by
  refine Co.Triple.bind keeps_readRun fun run => ?_
  split
  · exact Co.Triple.pure fun w holds => ⟨holds.2.1, by simp [Onward]⟩
  cases found : workflow.node? current with
  | none =>
      refine Co.Triple.bind (Q := fun _ => P) ?_ fun _ =>
        Co.Triple.pure fun w holds => ⟨holds, by simp [Onward]⟩
      exact (obs.control (stable.lasting obs) fun _ => .refl _).conseq (fun _ holds => holds.2.1)
        (fun _ _ holds => holds) fun _ _ holds => holds
  | some node =>
      have named := node?_id workflow found
      subst named
      have lasting := ((stable.and (stable_mem (.dispatched runId node.id))).lasting obs).and
        (lasting_current obs runId node.id)
      refine Co.Triple.bind
        (Q := fun _ w => ((P w ∧ .dispatched runId node.id ∈ w.trail) ∧
          (c.calm → Current w.trail runId node.id)) ∧
          (c.calm → w.trail.getLast? = some (.dispatched runId node.id))) ?_ fun _ => ?_
      · apply obs.write
        rintro w ⟨-, holds, comes⟩
        have write : EngineWrite engine c w _ := .dispatch workflow ref runId node.id used
          (owns w holds) ⟨node, found⟩ comes
        exact ⟨write, ⟨⟨stable _ _ write holds, by simp [World.dispatch]⟩,
          fun _ => .dispatched _ _ _⟩, fun _ => by simp [World.dispatch]⟩
      refine Co.Triple.bind (keeps_executeNode obs lasting (fun w holds => owns w holds.1.1)
        (fun w holds => holds.1.2) (fun w holds => holds.2) ⟨workflow, used, found⟩ rfl)
        fun result => ?_
      exact (keeps_advance obs lasting (fun w holds => owns w holds.1.1) used result).conseq
        (fun _ holds => holds) (fun _ _ holds => ⟨holds.1.1.1, holds.2⟩) fun _ _ holds => holds

theorem keeps_executeLoop (context : ExecutionContext) (fuel stepCount : Nat)
    (visited : List String) (current : Option String) :
    Keeps p (fun w => P w ∧ ∀ next, current = some next → Comes c workflow ref runId w next)
      (executeLoop engine ref runId context workflow fuel stepCount visited current)
      fun _ => P := by
  induction fuel generalizing stepCount visited current with
  | zero =>
      cases current with
      | none => exact Co.Triple.pure fun _ holds => holds.1
      | some current => exact Co.Triple.raise fun _ _ => trivial
  | succ fuel ih =>
      cases current with
      | none => exact Co.Triple.pure fun _ holds => holds.1
      | some current =>
          have progress : ∀ (stepCount : Option Nat) visitedNodes,
              Keeps p (fun w => P w ∧ Comes c workflow ref runId w current)
                (modifyResult runId fun result =>
                  { result with stepCount := stepCount.getD result.stepCount, visitedNodes })
                fun _ w => P w ∧ Comes c workflow ref runId w current := by
            intro stepCount visitedNodes
            apply obs.write
            rintro w ⟨holds, comes⟩
            have write : EngineWrite engine c w _ := .progress runId stepCount visitedNodes
            exact ⟨write, stable _ _ write holds, comes.progress stepCount visitedNodes⟩
          refine Co.Triple.conseq (P := fun w => P w ∧ Comes c workflow ref runId w current) ?_
            (fun _ holds => ⟨holds.1, holds.2 current rfl⟩) (fun _ _ holds => holds)
            fun _ _ holds => holds
          refine Co.Triple.bind (progress (some (stepCount + 1)) visited) fun _ => ?_
          split
          · exact (keeps_raiseExecutionBoundFailure obs (stable.lasting obs) _ _ _ _ _).conseq
              (fun _ holds => holds.1) (fun _ _ holds => holds) fun _ _ holds => holds
          split
          · exact (keeps_raiseExecutionBoundFailure obs (stable.lasting obs) _ _ _ _ _).conseq
              (fun _ holds => holds.1) (fun _ _ holds => holds) fun _ _ holds => holds
          refine Co.Triple.bind (progress none (visited ++ [current])) fun _ => ?_
          refine Co.Triple.bind (keeps_visitNode obs stable owns used context current) fun exit => ?_
          cases exit with
          | stop => exact Co.Triple.pure fun _ holds => holds.1
          | goTo next =>
              refine (ih (stepCount + 1) (visited ++ [current]) next).conseq ?_
                (fun _ _ holds => holds) fun _ _ holds => holds
              rintro w ⟨holds, onward⟩
              refine ⟨holds, fun succ is => .inr (onward succ ?_)⟩
              rw [is]

end iterations

/-! ### The operations -/

section operations

variable {engine : WorkflowEngine} {c : Conditions} {p : Protocol World Point}
  (obs : Observes engine c p)

include obs

theorem keeps_await_entered {P : World → Prop} (stable : Stable engine c P) (point : Point) :
    Keeps p (fun w => P w ∧ c.enter w.trail) (Co.await point)
      fun _ w => P w ∧ c.enter w.trail := by
  apply Co.Triple.await
  rintro w w' ⟨holds, entered⟩ step
  exact ⟨stable.writes (obs.rely step) holds, obs.entered step entered⟩

theorem keeps_execute {workflow : WorkflowDefinition} (used : c.workflow workflow) (ref : Nat)
    (context : ExecutionContext) :
    Keeps p (fun w => w.Allocated ∧ ref < w.nextObject ∧ c.enter w.trail)
      (execute engine ref context workflow) fun _ w => w.Allocated := by
  refine Co.Triple.bind keeps_readRun fun run => ?_
  generalize named : run.id = runId
  -- From here on the object is known by the identifier it was called with.
  have stable : Stable engine c fun w => w.Allocated ∧ w.Owns ref runId :=
    stable_allocated.and (stable_owns ref runId)
  have owns : ∀ w : World, w.Allocated ∧ w.Owns ref runId → w.Owns ref runId :=
    fun _ holds => holds.2
  refine Co.Triple.conseq
    (P := fun w => (w.Allocated ∧ w.Owns ref runId) ∧ c.enter w.trail) ?_ ?_
    (fun _ _ holds => holds) fun _ _ holds => holds
  swap
  · rintro w ⟨rfl, allocated, below, entered⟩
    exact ⟨⟨allocated, below, named⟩, entered⟩
  have register : Keeps p (fun w => (w.Allocated ∧ w.Owns ref runId) ∧ c.enter w.trail)
      (registerRun ref runId)
      fun _ w => (w.Allocated ∧ w.Owns ref runId) ∧ c.enter w.trail := by
    apply obs.write
    rintro w ⟨holds, entered⟩
    have write : EngineWrite engine c w _ := .register ref runId holds.2
    exact ⟨write, stable _ _ write holds, entered⟩
  refine Co.Triple.bind register fun _ => ?_
  refine Co.Triple.bind keeps_utcnow fun now => ?_
  refine Co.Triple.bind
    (Q := fun _ w => (w.Allocated ∧ w.Owns ref runId) ∧ c.enter w.trail) ?_ fun _ => ?_
  · apply obs.write
    rintro w ⟨-, holds, entered⟩
    have write : EngineWrite engine c w _ := .control ref (fun run =>
      { run with status := .running, startedAt := some now }) fun _ => rfl
    exact ⟨write, stable _ _ write holds, entered⟩
  refine Co.Triple.bind (keeps_await_entered obs stable _) fun _ => ?_
  refine Co.Triple.bind keeps_readRun fun run => ?_
  refine Co.Triple.bind
    (Q := fun _ w => (w.Allocated ∧ w.Owns ref runId) ∧ c.enter w.trail) ?_ fun _ => ?_
  · refine Co.Triple.bind (Q := fun _ w => (w.Allocated ∧ w.Owns ref runId) ∧ c.enter w.trail) ?_
      fun _ => keeps_await_entered obs stable _
    apply obs.write
    rintro w ⟨-, holds, entered⟩
    exact ⟨.effects _, stable _ _ (.effects _) holds, entered⟩
  cases found : findStartNode workflow with
  | none => exact Co.Triple.raise fun _ _ => trivial
  | some startNode =>
      refine Co.Triple.bind (keeps_findRun runId) fun result => ?_
      refine Co.Triple.bind keeps_readRun fun run => ?_
      refine Co.Triple.bind (Q := fun _ w => w.Allocated ∧ w.Owns ref runId) ?_ fun _ => ?_
      · refine (keeps_executeLoop obs stable owns used context _ _ _ _).conseq ?_
          (fun _ _ holds => holds) fun _ _ holds => holds
        rintro w ⟨rfl, registered, holds, entered⟩
        refine ⟨holds, fun next is => .inl ⟨entered, startNode, result, found, registered, ?_⟩⟩
        rw [← Option.some.inj is]
      · exact (keeps_findRun runId).conseq (fun _ holds => holds) (fun _ _ holds => holds.2.1)
          fun _ _ holds => holds

theorem keeps_pause (runId : String) : Keeps p World.Allocated (pause runId) fun _ _ => True := by
  refine Co.Triple.bind (keeps_findRun runId) fun result => ?_
  refine Co.Triple.bind (Q := fun _ => World.Allocated) ?_ fun _ => ?_
  · exact (obs.control (stable_allocated.lasting obs) fun _ => .refl _).conseq (fun _ holds => holds.2)
      (fun _ _ holds => holds) fun _ _ holds => holds
  refine Co.Triple.bind (keeps_maybeCacheState (stable_allocated.lasting obs) _) fun _ => ?_
  refine Co.Triple.bind keeps_readRun fun run => ?_
  exact (keeps_emitAudit obs (stable_allocated.lasting obs) _ _ _ _ _ _).conseq (fun _ holds => holds.2)
    (fun _ _ _ => trivial) fun _ _ holds => holds

theorem keeps_cancel (runId : String) : Keeps p World.Allocated (cancel runId) fun _ _ => True := by
  refine Co.Triple.bind (keeps_findRun runId) fun result => ?_
  refine Co.Triple.bind keeps_utcnow fun now => ?_
  refine Co.Triple.bind (Q := fun _ => World.Allocated) ?_ fun _ => ?_
  · exact (obs.control (stable_allocated.lasting obs) fun _ => .refl _).conseq (fun _ holds => holds.2.2)
      (fun _ _ holds => holds) fun _ _ holds => holds
  refine Co.Triple.bind (keeps_maybeCacheState (stable_allocated.lasting obs) _) fun _ => ?_
  refine Co.Triple.bind keeps_readRun fun run => ?_
  exact (keeps_emitAudit obs (stable_allocated.lasting obs) _ _ _ _ _ _).conseq (fun _ holds => holds.2)
    (fun _ _ _ => trivial) fun _ _ holds => holds

theorem keeps_resume (runId : String) (fromNode : Option String)
    (allowed : fromNode.isSome → c.redirect) :
    Keeps p World.Allocated (resume runId fromNode) fun _ _ => True := by
  refine Co.Triple.bind (keeps_findRun runId) fun result => ?_
  refine Co.Triple.bind keeps_readRun fun run => ?_
  split
  · exact Co.Triple.raise fun _ _ => trivial
  refine Co.Triple.bind (Q := fun _ => World.Allocated) ?_ fun _ => ?_
  · exact (obs.control (stable_allocated.lasting obs) fun _ => .refl _).conseq (fun _ holds => holds.2.2)
      (fun _ _ holds => holds) fun _ _ holds => holds
  refine Co.Triple.bind (obs.keep (stable_allocated.lasting obs) (fun _ _ => .resumed runId)
    fun _ => .snoc _ rfl) fun _ => ?_
  have announced : Keeps p World.Allocated (do
      emitAudit .workflowResumed run.initiatedBy "workflow_run" runId "resumed" []
      findRun runId) fun _ _ => True :=
    Co.Triple.bind (keeps_emitAudit obs (stable_allocated.lasting obs) _ _ _ _ _ _) fun _ =>
      (keeps_findRun runId).conseq (fun _ holds => holds) (fun _ _ _ => trivial)
        fun _ _ holds => holds
  cases fromNode with
  | none => exact announced
  | some node =>
      refine Co.Triple.bind (obs.keep (stable_allocated.lasting obs) (fun _ _ =>
        .mark result.run node (allowed rfl)) fun _ => .refl _) fun _ => ?_
      refine Co.Triple.bind (obs.keep (stable_allocated.lasting obs) (fun _ _ =>
        .redirect runId node (allowed rfl)) fun _ => .refl _) fun _ => ?_
      exact announced

theorem keeps_replay (runId : String) (allowed : c.replay) : Keeps p World.Allocated (replay engine runId)
    fun _ _ => True := by
  refine Co.Triple.bind (keeps_findRun runId) fun result => ?_
  refine Co.Triple.bind keeps_readRun fun run => ?_
  have rest : Keeps p World.Allocated (do
      modifyRun result.run fun run =>
        { run with status := .pending, error := none, completedAt := none }
      modifyResult runId fun result => { result with nodeExecutions := [] }
      findRun runId) fun _ _ => True := by
    refine Co.Triple.bind (obs.control (stable_allocated.lasting obs) fun _ => .refl _) fun _ => ?_
    refine Co.Triple.bind (obs.keep (stable_allocated.lasting obs) (fun _ _ => .forget runId)
      fun _ => .refl _) fun _ => ?_
    exact (keeps_findRun runId).conseq (fun _ holds => holds) (fun _ _ _ => trivial)
      fun _ _ holds => holds
  cases saved : run.checkpointData with
  | none => exact rest.conseq (fun _ holds => holds.2.2) (fun _ _ holds => holds) fun _ _ holds => holds
  | some checkpoint =>
      cases restored : restoreCheckpoint engine checkpoint with
      | error e =>
          simp only [Option.map_some, restored]
          exact Co.Triple.raise fun _ _ => trivial
      | ok state =>
          simp only [Option.map_some, restored]
          refine Co.Triple.bind (Q := fun _ => World.Allocated) ?_ fun _ => rest
          apply obs.write
          rintro w ⟨rfl, -, allocated⟩
          have write := EngineWrite.restore (c := c) result.run checkpoint state saved restored allowed
          exact ⟨write, stable_allocated _ _ write allocated⟩

theorem keeps_resumeFromStore (runId approvalId : String)
    (again : ∀ trail row, c.enter (trail ++ [.consumed runId approvalId row])) :
    Keeps p World.Allocated (resumeFromStore runId approvalId)
      fun ref w => w.Allocated ∧ ref < w.nextObject ∧ c.enter w.trail := by
  refine Co.Triple.bind ((stable_allocated.lasting obs).await _) fun _ => ?_
  refine Co.Triple.bind Co.Triple.get fun w => ?_
  cases passed : consumeApproval w.now w.db runId approvalId with
  | error message => exact Co.Triple.raise fun _ _ => trivial
  | ok consumption =>
      refine Co.Triple.bind (Q := fun _ w' => w'.Allocated ∧ w.nextObject < w'.nextObject ∧
        c.enter w'.trail) ?_ fun _ => Co.Triple.pure fun _ holds => holds
      apply obs.write
      rintro w' ⟨rfl, allocated⟩
      have write : EngineWrite engine c w _ := .redeem consumption runId approvalId passed
      exact ⟨write, stable_allocated _ _ write allocated, Nat.lt_succ_self _, again _ _⟩

theorem keeps_resumeInMemory (unstored : engine.sessionFactory = false)
    (runId approvalId : String) (again : ∀ trail, c.enter (trail ++ [.resumed runId])) :
    Keeps p World.Allocated (resumeInMemory runId approvalId)
      fun ref w => w.Allocated ∧ ref < w.nextObject ∧ c.enter w.trail := by
  refine Co.Triple.bind (keeps_findRun runId) fun result => ?_
  refine Co.Triple.bind keeps_readRun fun run => ?_
  refine Co.Triple.bind keeps_utcnow fun now => ?_
  cases waits : approvalResumePayload now run.state approvalId with
  | none => exact Co.Triple.raise fun _ _ => trivial
  | some payload =>
      refine Co.Triple.bind (Q := fun _ w => w.Allocated ∧ result.run < w.nextObject ∧
        c.enter w.trail) ?_ fun _ => Co.Triple.pure fun _ holds => holds
      apply obs.write
      rintro w ⟨rfl, rfl, registered, allocated⟩
      have write := EngineWrite.redeemInMemory (c := c) result.run runId approvalId payload
        unstored waits
      exact ⟨write, stable_allocated _ _ write allocated, (allocated runId result registered).1,
        again _⟩

theorem keeps_resumeAfterApproval {workflow : WorkflowDefinition} (used : c.workflow workflow)
    (runId approvalId : String) (context : ExecutionContext)
    (consumed : ∀ trail row, c.enter (trail ++ [.consumed runId approvalId row]))
    (resumed : ∀ trail, c.enter (trail ++ [.resumed runId])) :
    Keeps p World.Allocated (resumeAfterApproval engine runId approvalId workflow context)
      fun _ w => w.Allocated := by
  unfold resumeAfterApproval
  cases stored : engine.sessionFactory with
  | true =>
      exact Co.Triple.bind (keeps_resumeFromStore obs runId approvalId consumed) fun ref =>
        keeps_execute obs used ref context
  | false =>
      exact Co.Triple.bind (keeps_resumeInMemory obs stored runId approvalId resumed) fun ref =>
        keeps_execute obs used ref context

end operations

end SyndicateClaw.Orchestrator
