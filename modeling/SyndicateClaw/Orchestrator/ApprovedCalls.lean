import SyndicateClaw.Orchestrator.ApprovalGate
import SyndicateClaw.Orchestrator.ToolRounds

/-! The tool calls of an `llm` node that is interrupted for approvals.

After an approval the handler starts again at the first call of the same list, and the
marker of the state names one tool only. -/

namespace SyndicateClaw.Orchestrator

open Restart

/-- What a resumption after an approval of this tool leaves of an interrupted state, when
the calls are processed again. -/
structure Resumed (nodeId toolName : String) (interrupted resumed : State) : Prop where
  approved : approvedTool resumed nodeId = some toolName
  results : Appendable resumed "_llm_tool_results" ↔ Appendable interrupted "_llm_tool_results"
  pending : Appendable resumed "_pending_approvals" ↔ Appendable interrupted "_pending_approvals"

/-! ### The resumptions of the engine -/

section resumptions

variable {now now' : Instant} {request : ApprovalRequest} {nodeId runId toolName : String}
  {state payload : State}

theorem approvedTool_marked (node : lookup payload "node_id" = .str nodeId)
    (tool : lookup payload "tool_name" = .str toolName) :
    approvedTool (Dict.set state "_approval_resume" (.dict payload)) nodeId = some toolName := by
  unfold approvedTool resumeMarker
  rw [lookup_set, if_pos rfl]
  simp [Value.asDict?, Option.filter, node, tool, Value.asStr?]

end resumptions

section session

variable (setting : ToolSetting) (services : Services) (context : ExecutionContext)
  (resume : Nat → WaitForApprovalError → State → State) (toolCalls : List State) (start : State)

/-- The `n`th time the handler processes the calls. -/
def visit (n : Nat) (state : State) : Except HandlerExit Unit × Frame :=
  (processLlmToolCalls (setting.within services) n context toolCalls).run { state }

/-- The state the `n`th visit starts from; nothing once one has returned or failed. -/
def startOf : Nat → Option State
  | 0 => some start
  | n + 1 => (startOf n).bind fun state =>
      match visit setting services context toolCalls n state with
      | (.error (.waitForApproval exc), frame) => some (resume n exc frame.state)
      | _ => none

/-- The calls the first `n` visits have handed to the executor. -/
def handedBy : Nat → List (String × State)
  | 0 => []
  | n + 1 => handedBy n ++
      ((startOf setting services context resume toolCalls start n).elim [] fun state =>
        toolRuns (visit setting services context toolCalls n state).2.effects)

/-- Whatever number of times the node is resumed, no call is handed over twice; and if every
approval is granted, the node returns with each call that is valid and not denied handed
over once. -/
structure ExactlyOnce : Prop where
  atMostOnce : ∀ n, (handedBy setting services context resume toolCalls start n).Subperm
    (toolCalls.map handed)
  completes : ∃ n state after,
    startOf setting services context resume toolCalls start n = some state ∧
      visit setting services context toolCalls n state = (.ok (), after) ∧
      (handedBy setting services context resume toolCalls start (n + 1)).Perm
        (setting.accepted toolCalls)

variable {setting services context resume toolCalls start}

theorem visit_round (n : Nat) (state : State) :
    Round setting context { state } (setting.accepted toolCalls)
      (visit setting services context toolCalls n state) := by
  unfold visit
  rw [processLlmToolCalls_eq]
  exact round_calls n (setting.within services) toolCalls { state }

theorem startOf_succ {n : Nat} {state' : State}
    (begins : startOf setting services context resume toolCalls start (n + 1) = some state') :
    ∃ state exc frame, startOf setting services context resume toolCalls start n = some state ∧
      visit setting services context toolCalls n state =
        (.error (.waitForApproval exc), frame) ∧
      state' = resume n exc frame.state := by
  unfold startOf at begins
  obtain ⟨state, before, follows⟩ := Option.bind_eq_some_iff.mp begins
  cases ended : visit setting services context toolCalls n state with
  | mk outcome frame =>
      rw [ended] at follows
      split at follows
      next exc frame' same =>
          cases same
          exact ⟨state, exc, frame, before, ended, (Option.some.inj follows).symm⟩
      next => cases follows

structure SameStore (before after : State) : Prop where
  results : Appendable after "_llm_tool_results" ↔ Appendable before "_llm_tool_results"
  pending : Appendable after "_pending_approvals" ↔ Appendable before "_pending_approvals"

variable (resumes : ∀ n exc state,
  Resumed context.nodeId exc.toolName state (resume n exc state))

include resumes

theorem startOf_heldAt {n : Nat} {state : State}
    (begins : startOf setting services context resume toolCalls start n = some state) :
    heldAt setting.needs (approvedTool start context.nodeId) (setting.accepted toolCalls) n =
        some (approvedTool state context.nodeId) ∧
      SameStore start state ∧
      handedBy setting services context resume toolCalls start n =
        total setting.needs (approvedTool start context.nodeId) (setting.accepted toolCalls) n := by
  induction n generalizing state with
  | zero =>
      obtain rfl := Option.some.inj begins
      exact ⟨rfl, ⟨.rfl, .rfl⟩, rfl⟩
  | succ n ih =>
      obtain ⟨before, exc, frame, begins', ended, rfl⟩ := startOf_succ begins
      obtain ⟨held, store, handed⟩ := ih begins'
      have round := @visit_round setting services context toolCalls n before
      rw [ended] at round
      cases round with
      | @waiting _ _ x stops ran served same identified appendable named requested =>
          obtain ⟨approved, results, pending⟩ := resumes n exc frame.state
          have wants : setting.needs x = some exc.toolName := by
            obtain ⟨stopped, -⟩ := asked_some stops
            rw [named, ToolSetting.needs, if_pos ((blocked_iff setting).mp stopped).1]
          refine ⟨?_, ⟨?_, ?_⟩, ?_⟩
          · rw [heldAt, held, Option.bind_some, stops, Option.map_some, wants, approved]
          · exact results.trans (same.results.trans store.results)
          · exact pending.trans (same.pending.trans store.pending)
          · rw [handedBy, total, handed, begins', held, Option.elim_some, Option.elim_some, ended,
              ran]
            rfl

omit resumes in
theorem needs_of_asked {held : Option String} {items : List (String × State)}
    {x : String × State} (stops : asked setting.needs held items = some x) :
    setting.needs x = some x.1 := by
  obtain ⟨stopped, -⟩ := asked_some stops
  rw [ToolSetting.needs, if_pos ((blocked_iff setting).mp stopped).1]

omit resumes in
theorem SameStore.serves {before after : State} {x : String × State}
    (store : SameStore before after) : setting.Serves after x ↔ setting.Serves before x :=
  ⟨fun served => ⟨served.answers, store.results.mp served.stores⟩,
    fun served => ⟨served.answers, store.results.mpr served.stores⟩⟩

omit resumes in
/-- A visit that neither a tool nor the state can make fail. -/
structure Usable (setting : ToolSetting) (context : ExecutionContext) (toolCalls : List State)
    (state : State) : Prop where
  served : ∀ x ∈ setting.accepted toolCalls, setting.Serves state x
  requests : asked setting.needs (approvedTool state context.nodeId)
      (setting.accepted toolCalls) = none ∨
    (IdConfigured context ∧ Appendable state "_pending_approvals")

omit resumes in
theorem visit_usable {n : Nat} {state : State} (usable : Usable setting context toolCalls state) :
    toolRuns (visit setting services context toolCalls n state).2.effects =
        performed setting.needs (approvedTool state context.nodeId) (setting.accepted toolCalls) ∧
      match asked setting.needs (approvedTool state context.nodeId)
          (setting.accepted toolCalls) with
      | none => ∃ after, visit setting services context toolCalls n state = (.ok (), after)
      | some x => ∃ exc frame, visit setting services context toolCalls n state =
          (.error (.waitForApproval exc), frame) ∧ exc.toolName = x.1 := by
  have round := @visit_round setting services context toolCalls n state
  cases ended : visit setting services context toolCalls n state with
  | mk outcome frame =>
      rw [ended] at round
      cases round with
      | finished free ran =>
          rw [free, performed_of_asked_none free]
          exact ⟨ran, frame, rfl⟩
      | @waiting _ exc y stops ran _ _ _ _ named =>
          rw [stops]
          exact ⟨ran, exc, frame, rfl, named⟩
      | failed cause =>
          rcases cause with ⟨x, member, unserved⟩ | ⟨⟨x, stops⟩, unusable⟩
          · exact absurd (usable.served x member) unserved
          · rcases usable.requests with free | requests
            · rw [free] at stops
              cases stops
            · exact absurd requests unusable

theorem usable_startOf (usable : Usable setting context toolCalls start) {n : Nat} {state : State}
    (begins : startOf setting services context resume toolCalls start n = some state) :
    Usable setting context toolCalls state := by
  obtain ⟨reached, store, -⟩ := startOf_heldAt resumes begins
  refine ⟨fun x member => store.serves.mpr (usable.served x member), ?_⟩
  rcases usable.requests with free | ⟨identified, appendable⟩
  · cases n with
    | zero =>
        obtain rfl := Option.some.inj begins
        exact .inl free
    | succ n =>
        -- without a request there is no second pass
        have ended : heldAt setting.needs (approvedTool start context.nodeId)
            (setting.accepted toolCalls) 1 = none := by
          rw [heldAt, heldAt, Option.bind_some, free, Option.map_none]
        rw [heldAt_none_of_le ended (by omega)] at reached
        cases reached
  · exact .inr ⟨identified, store.pending.mpr appendable⟩

theorem heldAt_startOf (usable : Usable setting context toolCalls start) {n : Nat}
    {held : Option String}
    (reached : heldAt setting.needs (approvedTool start context.nodeId)
      (setting.accepted toolCalls) n = some held) :
    ∃ state, startOf setting services context resume toolCalls start n = some state ∧
      approvedTool state context.nodeId = held := by
  induction n generalizing held with
  | zero => exact ⟨start, rfl, Option.some.inj reached⟩
  | succ n ih =>
      rw [heldAt] at reached
      obtain ⟨before, reached', follows⟩ := Option.bind_eq_some_iff.mp reached
      obtain ⟨x, stops, rfl⟩ := Option.map_eq_some_iff.mp follows
      obtain ⟨state, begins, rfl⟩ := ih reached'
      have ends := (@visit_usable setting services context toolCalls n state
        (usable_startOf resumes usable begins)).2
      rw [stops] at ends
      obtain ⟨exc, frame, waits, named⟩ := ends
      refine ⟨resume n exc frame.state, ?_, ?_⟩
      · rw [startOf, begins, Option.bind_some, waits]
      · rw [(resumes n exc frame.state).approved, named, needs_of_asked stops]

theorem handedBy_eq_total (usable : Usable setting context toolCalls start) (n : Nat) :
    handedBy setting services context resume toolCalls start n =
      total setting.needs (approvedTool start context.nodeId) (setting.accepted toolCalls) n := by
  induction n with
  | zero => rfl
  | succ n ih =>
      rw [handedBy, total, ih]
      cases begins : startOf setting services context resume toolCalls start n with
      | none =>
          have ended : heldAt setting.needs (approvedTool start context.nodeId)
              (setting.accepted toolCalls) n = none := by
            by_contra going
            obtain ⟨held, reached⟩ := Option.ne_none_iff_exists'.mp going
            obtain ⟨state, begins', -⟩ := heldAt_startOf resumes usable reached
            rw [begins] at begins'
            cases begins'
          rw [ended]
          rfl
      | some state =>
          obtain ⟨reached, -, -⟩ := startOf_heldAt resumes begins
          rw [reached, Option.elim_some, Option.elim_some,
            (visit_usable (usable_startOf resumes usable begins)).1]

end session

/-! ### A second response -/

section responses

def ToolSetting.answering (setting : ToolSetting) (answer : String → State → Except String Value) :
    ToolSetting :=
  { setting with answer }

variable (setting : ToolSetting)

def underApproval (calls : List (String × State)) : List (String × State) :=
  calls.filter fun x => setting.policy x.1 x.2 = .requireApproval

/-- Whenever the node has waited for an approval over the first response and processes the
second one after the resumption, at most one call is handed over under the approval, and it
is the one of the request that was raised. -/
def ApprovalExact (nodeId : String) (held : Option String) (first second : List State) : Prop :=
  ∀ answer services services' context n n' state state' exc frame,
    context.nodeId = nodeId → approvedTool state nodeId = held →
    visit (setting.answering answer) services context first n state =
      (.error (.waitForApproval exc), frame) →
    Resumed nodeId exc.toolName frame.state state' →
    let ran := underApproval setting
      (toolRuns (visit (setting.answering answer) services' context second n' state').2.effects)
    ran.length ≤ 1 ∧ ∀ x ∈ ran, Requested frame.state x.1 x.2

/-- The calls of a response an approval of the tool reaches: those up to the first that
needs the approval of another tool. -/
def reached (toolName : String) (response : List State) : List (String × State) :=
  performed setting.needs (some toolName) (setting.accepted response)

variable {setting}

theorem visit_within {services : Services} {context : ExecutionContext} {toolCalls : List State}
    {n : Nat} {state : State} :
    toolRuns (visit setting services context toolCalls n state).2.effects <+:
      performed setting.needs (approvedTool state context.nodeId) (setting.accepted toolCalls) := by
  have round := @visit_round setting services context toolCalls n state
  cases ended : visit setting services context toolCalls n state with
  | mk outcome frame =>
      rw [ended] at round
      cases round with
      | finished free ran =>
          rw [performed_of_asked_none free]
          exact ⟨[], by rw [List.append_nil, ran]; rfl⟩
      | waiting _ ran => exact ⟨[], by rw [List.append_nil, ran]; rfl⟩
      | failed _ ran early =>
          rw [show toolRuns frame.effects = _ from ran]
          exact early

theorem reached_named {toolName : String} {response : List State} {x : String × State}
    (member : x ∈ underApproval setting (reached setting toolName response)) : x.1 = toolName := by
  obtain ⟨inside, asks⟩ := List.mem_filter.mp member
  have free := List.mem_takeWhile_imp inside
  by_contra other
  have stopped : blocked setting.needs (some toolName) x = true :=
    (blocked_iff setting).mpr ⟨by simpa using asks, fun same => other (Option.some.inj same).symm⟩
  rw [stopped] at free
  cases free

theorem requested_congr {state : State} {name : String} {args args' : State}
    (same : jsonableState args' = jsonableState args) (requested : Requested state name args) :
    Requested state name args' := by
  obtain ⟨items, request, held, named, context⟩ := requested
  exact ⟨items, request, held, named, by rw [same]; exact context⟩

theorem requested_unique {state : State} {name name' : String} {args args' : State}
    (one : Requested state name args) (two : Requested state name' args') :
    jsonableState args' = jsonableState args := by
  obtain ⟨items, request, held, -, context⟩ := one
  obtain ⟨items', request', held', -, context'⟩ := two
  have same : items ++ [Value.dict request] = items' ++ [.dict request'] :=
    Value.list.inj (Option.some.inj (held.symm.trans held'))
  have last : request = request' := by
    have ends := congrArg List.getLast? same
    simpa using ends
  rw [last, context'] at context
  have equal : name' = name ∧ jsonableState args' = jsonableState args := by simpa using context
  exact equal.2

def heldState (nodeId : String) : Option String → State
  | none => []
  | some toolName =>
      [("_approval_resume", .dict [("node_id", .str nodeId), ("tool_name", .str toolName)])]

theorem approvedTool_heldState (nodeId : String) (held : Option String) :
    approvedTool (heldState nodeId held) nodeId = held := by
  cases held with
  | none => rfl
  | some toolName =>
      simp [heldState, approvedTool, resumeMarker, lookup, Dict.get?_cons, Value.asDict?,
        Value.asStr?, Option.filter]

theorem appendable_heldState {nodeId key : String} (held : Option String)
    (other : key ≠ "_approval_resume") : Appendable (heldState nodeId held) key := by
  intro value found
  cases held with
  | none => cases found
  | some toolName =>
      simp only [heldState, Dict.get?_cons, if_neg (Ne.symm other)] at found
      cases found

theorem approvalExact_reached {nodeId : String} {held : Option String} {first second : List State}
    (precise : ApprovalExact setting nodeId held first second) {x : String × State}
    (stops : asked setting.needs held (setting.accepted first) = some x) :
    (underApproval setting (reached setting x.1 second)).length ≤ 1 ∧
      ∀ y ∈ underApproval setting (reached setting x.1 second),
        jsonableState y.2 = jsonableState x.2 := by
  let serving := setting.answering fun _ _ => .ok .none
  let context : ExecutionContext := { runId := "", nodeId, attempt := 1, config := [] }
  have identified : IdConfigured context := by
    intro value found
    cases found
  have usable : Usable serving context first (heldState nodeId held) :=
    { served := fun _ _ => ⟨⟨.none, rfl⟩, appendable_heldState held (by decide)⟩
      requests := .inr ⟨identified, appendable_heldState held (by decide)⟩ }
  have waits := (@visit_usable serving plainServices context first 0 _ usable).2
  rw [approvedTool_heldState, show asked serving.needs held (serving.accepted first) = some x
    from stops] at waits
  obtain ⟨exc, frame, waits, named⟩ := waits
  have round := @visit_round serving plainServices context first 0 (heldState nodeId held)
  rw [waits] at round
  cases round with
  | @waiting _ _ y stops' _ _ same _ appendable _ requested =>
      obtain rfl : x = y := by
        rw [approvedTool_heldState] at stops'
        exact Option.some.inj (stops.symm.trans stops')
      let resumed := Dict.set frame.state "_approval_resume"
        (.dict [("node_id", .str nodeId), ("tool_name", .str exc.toolName)])
      have resumes : Resumed nodeId exc.toolName frame.state resumed :=
        ⟨approvedTool_marked rfl rfl, appendable_set_of_ne (by decide),
          appendable_set_of_ne (by decide)⟩
      have results := same.results.mpr (appendable_heldState held (by decide))
      have pending := same.pending.mpr (appendable_heldState held (by decide))
      have usable' : Usable serving context second resumed :=
        { served := fun _ _ => ⟨⟨.none, rfl⟩, resumes.results.mpr results⟩
          requests := .inr ⟨identified, resumes.pending.mpr pending⟩ }
      have ran := (@visit_usable serving plainServices context second 1 resumed usable').1
      rw [resumes.approved, named] at ran
      have bound := precise _ plainServices plainServices context 0 1 _ resumed exc frame rfl
        (approvedTool_heldState nodeId held) waits resumes
      dsimp only at bound
      rw [ran] at bound
      refine ⟨bound.1, fun z member => ?_⟩
      have requested' := bound.2 z member
      exact requested_unique requested requested'

end responses

/-! ### A lookup before a mail -/

/-- Every tool is registered and answers; only `mail` needs an approval. -/
def mailSetting : ToolSetting :=
  { registry := fun _ => some { required := [], riskLevel := .medium }
    policy := fun name _ => if name = "mail" then .requireApproval else .allow
    answer := fun _ _ => .ok (.dict []) }

def nodeContext : ExecutionContext :=
  { runId := "run", nodeId := "answer", attempt := 1, config := [] }

def grantTool (exc : WaitForApprovalError) (state : State) : State :=
  Dict.set state "_approval_resume"
    (.dict [("node_id", .str "answer"), ("tool_name", .str exc.toolName)])

theorem grantTool_resumed (exc : WaitForApprovalError) (state : State) :
    Resumed nodeContext.nodeId exc.toolName state (grantTool exc state) :=
  ⟨approvedTool_marked rfl rfl, appendable_set_of_ne (by decide), appendable_set_of_ne (by decide)⟩

def toolCallOf (name : String) : State := [("name", .str name)]

theorem mailSetting_usable (toolCalls : List State) :
    Usable mailSetting nodeContext toolCalls [] where
  served := fun _ _ => ⟨⟨_, rfl⟩, fun _ held => nomatch held⟩
  requests := .inr ⟨(fun _ held => nomatch held), fun _ held => nomatch held⟩

def mailTo (address : String) : State :=
  [("name", .str "mail"), ("arguments", .dict [("to", .str address)])]

end SyndicateClaw.Orchestrator
