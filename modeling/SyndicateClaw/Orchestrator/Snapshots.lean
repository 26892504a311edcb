import SyndicateClaw.Async.History
import SyndicateClaw.Authz.Evaluator
import SyndicateClaw.Data.JsonReading
import SyndicateClaw.Data.Keyed
import SyndicateClaw.Data.Sha256

/-! The snapshots of tool responses that a run leaves behind, and what a replay is served of them. -/

namespace SyndicateClaw.Orchestrator

open Authz (Time)

/-- A row of `input_snapshots`, with what `json.loads` makes of its JSONB columns. -/
structure InputSnapshot where
  id : String
  runId : String
  nodeExecutionId : String
  snapshotType : String
  sourceIdentifier : String
  requestData : Json
  responseData : Json
  contentHash : String
  capturedAt : Time

abbrev SnapshotTable := Keyed InputSnapshot.id

/-- The store takes from outside the hex digest of SHA-256 and what a JSONB column gives back of a
document, if it takes it. -/
structure InputSnapshotStore where
  sha256 : String → String
  jsonb : Json → Option Json

/-- A tool call that has its output, and what becomes of its snapshot: its id, its time, and whether its
transaction is committed. -/
structure ServedCall where
  runId : String
  nodeId : String
  toolName : String
  inputData : Dict Text Json
  output : Dict Text Json
  snapshotId : String
  capturedAt : Time
  commits : Bool

/-- The report of `detect_replay_divergence`. -/
structure Divergence where
  sourceIdentifier : String
  runId : String
  frozenHash : String
  liveHash : String
  frozenResponseKeys : List Text
  liveResponseKeys : List Text
  detectedAt : Time

namespace InputSnapshotStore

variable (store : InputSnapshotStore)

/-- `_hash_response`; `none` where it raises. -/
def hashResponse (data : Json) : Option String := data.canonicalText.map store.sha256

def rowOf (call : ServedCall) : Option InputSnapshot := do
  let contentHash ← store.hashResponse (.obj call.output)
  let requestData ← store.jsonb (.obj call.inputData)
  let responseData ← store.jsonb (.obj call.output)
  return {
    id := call.snapshotId
    runId := call.runId
    nodeExecutionId := call.nodeId
    snapshotType := "tool_response"
    sourceIdentifier := call.toolName
    requestData
    responseData
    contentHash
    capturedAt := call.capturedAt }

/-- `capture`; `none` where it raises. -/
def capture (table : SnapshotTable) (call : ServedCall) : Option SnapshotTable := do
  let row ← store.rowOf call
  guard (call.commits = true ∧ table.get? call.snapshotId = none)
  return table.insert row

/-- `_capture_snapshot`: a failure is logged. -/
def captureSnapshot (table : SnapshotTable) (call : ServedCall) : SnapshotTable :=
  (store.capture table call).getD table

/-- The snapshots after the first `n` calls. -/
abbrev after (table : SnapshotTable) (calls : List ServedCall) (n : Nat) : SnapshotTable :=
  Async.stateAfter store.captureSnapshot table calls n

end InputSnapshotStore

/-- `ORDER BY captured_at DESC` -/
structure NewestFirst (table : SnapshotTable) (scan : List InputSnapshot) : Prop where
  rows : scan.Perm table.rows
  newest : scan.Pairwise fun row other => other.capturedAt ≤ row.capturedAt

/-- `get_for_replay`, of the rows as the database lists them. -/
def getForReplay (scan : List InputSnapshot) (runId sourceIdentifier : String) :
    Option InputSnapshot :=
  scan.find? fun row => row.runId = runId && row.sourceIdentifier = sourceIdentifier

/-- `get_frozen` -/
def getFrozen (scan : List InputSnapshot) (originalRunId sourceIdentifier : String) : Option Json :=
  (getForReplay scan originalRunId sourceIdentifier).map InputSnapshot.responseData

/-- `data.keys()`; `none` where there is no such method. -/
def keys? : Json → Option (List Text)
  | .obj entries => some (entries.map Prod.fst)
  | _ => none

/-- `detect_replay_divergence`; the outer `none` is an error. -/
def InputSnapshotStore.detectReplayDivergence (store : InputSnapshotStore)
    (scan : List InputSnapshot) (runId sourceIdentifier : String) (liveResponse : Dict Text Json)
    (now : Time) : Option (Option Divergence) :=
  match getFrozen scan runId sourceIdentifier with
  | none => some none
  | some frozen => do
      let liveHash ← store.hashResponse (.obj liveResponse)
      let frozenHash ← store.hashResponse frozen
      if liveHash = frozenHash then return none
      let frozenResponseKeys ← keys? frozen
      return some {
        sourceIdentifier
        runId
        frozenHash
        liveHash
        frozenResponseKeys
        liveResponseKeys := liveResponse.map Prod.fst
        detectedAt := now }

/-! ### Replays -/

/-- The `n`-th call of a history is captured in this row. -/
def Captured (store : InputSnapshotStore) (table : SnapshotTable) (calls : List ServedCall) (n : Nat)
    (call : ServedCall) (row : InputSnapshot) : Prop :=
  calls[n]? = some call ∧ store.rowOf call = some row ∧ call.commits = true ∧
    (store.after table calls n).get? call.snapshotId = none

/-- The replay of a call is served the call's own response, and where the live response is the same no
divergence is reported. -/
structure Replayed (store : InputSnapshotStore) (scan : List InputSnapshot) (now : Time)
    (call : ServedCall) : Prop where
  served : ∃ frozen, getFrozen scan call.runId call.toolName = some frozen ∧
    frozen.sortKeys = (Json.obj call.output).sortKeys
  agrees : ∀ live : Dict Text Json, (Json.obj live).sortKeys = (Json.obj call.output).sortKeys →
    store.detectReplayDivergence scan call.runId call.toolName live now = some none

section

variable {store : InputSnapshotStore} {table : SnapshotTable} {calls : List ServedCall} {n : Nat}
  {call : ServedCall} {row : InputSnapshot} {scan : List InputSnapshot} {now : Time}

theorem rowOf_eq (captured : store.rowOf call = some row) :
    row.id = call.snapshotId ∧ row.runId = call.runId ∧ row.sourceIdentifier = call.toolName ∧
      store.jsonb (.obj call.output) = some row.responseData ∧
      ∃ hash, store.hashResponse (.obj call.output) = some hash := by
  unfold InputSnapshotStore.rowOf at captured
  simp only [Option.bind_eq_bind, Option.bind_eq_some_iff, Option.pure_def,
    Option.some.injEq] at captured
  obtain ⟨hash, hashed, request, _, response, stored, rfl⟩ := captured
  exact ⟨rfl, rfl, rfl, stored, hash, hashed⟩

theorem rows_captureSnapshot (made : store.rowOf call = some row) (commits : call.commits = true)
    (fresh : table.get? call.snapshotId = none) :
    (store.captureSnapshot table call).rows = table.rows ++ [row] := by
  have new : table.get? row.id = none := by
    rw [(rowOf_eq made).1]
    exact fresh
  rw [← Keyed.rows_insert new]
  unfold InputSnapshotStore.captureSnapshot InputSnapshotStore.capture
  simp [made, commits, fresh]

theorem mem_captureSnapshot : row ∈ (store.captureSnapshot table call).rows ↔
    row ∈ table.rows ∨ store.rowOf call = some row ∧ call.commits = true ∧
      table.get? call.snapshotId = none := by
  unfold InputSnapshotStore.captureSnapshot InputSnapshotStore.capture
  cases made : store.rowOf call with
  | none => simp
  | some new =>
      by_cases passes : call.commits = true ∧ table.get? call.snapshotId = none
      · have rows := rows_captureSnapshot made passes.1 passes.2
        unfold InputSnapshotStore.captureSnapshot InputSnapshotStore.capture at rows
        rw [made] at rows
        rw [rows]
        simp [passes, eq_comm]
      · simp [guard, passes]

theorem mem_after : row ∈ (store.after table calls n).rows ↔
    row ∈ table.rows ∨ ∃ i < n, ∃ call, Captured store table calls i call row := by
  induction n with
  | zero => simp
  | succ n ih =>
      have next : (∃ i < n + 1, ∃ call, Captured store table calls i call row) ↔
          (∃ i < n, ∃ call, Captured store table calls i call row) ∨
            ∃ call, Captured store table calls n call row := by
        simp only [Nat.lt_succ_iff_lt_or_eq, or_and_right, exists_or, exists_eq_left]
      rw [next, ← or_assoc, ← ih]
      cases present : calls[n]? with
      | none =>
          rw [InputSnapshotStore.after, Async.stateAfter_succ_of_none _ _ _ present]
          simp [Captured, present]
      | some call =>
          rw [InputSnapshotStore.after, Async.stateAfter_succ _ _ _ present, mem_captureSnapshot]
          simp [Captured, present]

/-! ### Replaying -/

theorem getFrozen_some {runId toolName : String} {frozen : Json}
    (found : getFrozen scan runId toolName = some frozen) :
    ∃ row ∈ scan, row.runId = runId ∧ row.sourceIdentifier = toolName ∧
      row.responseData = frozen := by
  obtain ⟨row, first, rfl⟩ := Option.map_eq_some_iff.mp found
  have matching := List.find?_some first
  simp only [Bool.and_eq_true, decide_eq_true_eq] at matching
  exact ⟨row, List.mem_of_find?_eq_some first, matching.1, matching.2, rfl⟩

theorem getFrozen_of_mem (member : row ∈ scan) :
    ∃ frozen, getFrozen scan row.runId row.sourceIdentifier = some frozen := by
  unfold getFrozen getForReplay
  rw [← Option.isSome_iff_exists, Option.isSome_map, List.find?_isSome]
  exact ⟨row, member, by simp⟩

theorem captured_of_getFrozen {runId toolName : String} {frozen : Json}
    (fresh : ∀ row ∈ table.rows, row.runId ≠ runId)
    (listed : NewestFirst (store.after table calls n) scan)
    (found : getFrozen scan runId toolName = some frozen) :
    ∃ k < n, ∃ source latest, Captured store table calls k source latest ∧
      source.runId = runId ∧ source.toolName = toolName ∧ latest.responseData = frozen := by
  obtain ⟨latest, member, ofRun, ofTool, same⟩ := getFrozen_some found
  rcases mem_after.mp (listed.rows.mem_iff.mp member) with first | ⟨k, before, source, captured⟩
  · exact absurd ofRun (fresh latest first)
  · obtain ⟨_, sameRun, sameTool, _⟩ := rowOf_eq captured.2.1
    exact ⟨k, before, source, latest, captured, sameRun.symm.trans ofRun, sameTool.symm.trans ofTool,
      same⟩

theorem agrees_of_served {frozen : Json} {live : Dict Text Json}
    (found : getFrozen scan call.runId call.toolName = some frozen) {hash : String}
    (hashed : store.hashResponse (.obj call.output) = some hash)
    (served : frozen.sortKeys = (Json.obj call.output).sortKeys)
    (same : (Json.obj live).sortKeys = (Json.obj call.output).sortKeys) :
    store.detectReplayDivergence scan call.runId call.toolName live now = some none := by
  have frozenHash : store.hashResponse frozen = some hash := by
    unfold InputSnapshotStore.hashResponse at hashed ⊢
    rw [Json.canonicalText_congr served, hashed]
  have liveHash : store.hashResponse (.obj live) = some hash := by
    unfold InputSnapshotStore.hashResponse at hashed ⊢
    rw [Json.canonicalText_congr same, hashed]
  unfold InputSnapshotStore.detectReplayDivergence
  rw [found]
  simp [frozenHash, liveHash]

end

/-- The captured calls of a run are all replayed if, of each tool, they all have the response that the
column gives back of any of them. -/
theorem replay_served_iff (store : InputSnapshotStore)
    (unordered : ∀ document other : Json, document.sortKeys = other.sortKeys →
      (store.jsonb document).map Json.sortKeys = (store.jsonb other).map Json.sortKeys)
    (table : SnapshotTable) (calls : List ServedCall) (n : Nat) (runId : String)
    (fresh : ∀ row ∈ table.rows, row.runId ≠ runId) (scan : List InputSnapshot)
    (listed : NewestFirst (store.after table calls n) scan) (now : Time) :
    (∀ i < n, ∀ call row, Captured store table calls i call row → call.runId = runId →
        Replayed store scan now call) ↔
      ∀ i < n, ∀ j < n, ∀ call other row row', Captured store table calls i call row →
        Captured store table calls j other row' → call.runId = runId → other.runId = runId →
        call.toolName = other.toolName →
          row'.responseData.sortKeys = (Json.obj call.output).sortKeys := by
  constructor
  · intro replayed i before j before' call other row row' captured captured' own own' tool
    obtain ⟨frozen, found, served⟩ := (replayed i before call row captured own).served
    obtain ⟨frozen', found', served'⟩ := (replayed j before' other row' captured' own').served
    rw [own', ← tool, ← own, found] at found'
    obtain rfl := Option.some.inj found'
    -- Both are served what a third call captured, which is served its own.
    obtain ⟨k, earlier, source, latest, taken, ofRun, ofTool, rfl⟩ :=
      captured_of_getFrozen (own ▸ fresh) listed found
    obtain ⟨frozen', found', servedThird⟩ :=
      (replayed k earlier source latest taken (ofRun.trans own)).served
    rw [ofRun, ofTool, found] at found'
    obtain rfl := Option.some.inj found'
    have stored := (rowOf_eq taken.2.1).2.2.2.1
    have stored' := (rowOf_eq captured'.2.1).2.2.2.1
    have back := unordered _ _ (servedThird.symm.trans served')
    rw [stored, stored'] at back
    exact (Option.some.inj back).symm.trans served
  · intro alike i before call row captured own
    have member : row ∈ scan :=
      listed.rows.mem_iff.mpr (mem_after.mpr (.inr ⟨i, before, call, captured⟩))
    obtain ⟨_, ofRun, ofTool, _, hash, hashed⟩ := rowOf_eq captured.2.1
    obtain ⟨frozen, found⟩ := getFrozen_of_mem member
    rw [ofRun, ofTool] at found
    obtain ⟨k, earlier, source, latest, taken, sameRun, sameTool, rfl⟩ :=
      captured_of_getFrozen (own ▸ fresh) listed found
    have served := alike i before k earlier call source row latest captured taken own
      (sameRun.trans own) sameTool.symm
    exact ⟨⟨_, found, served⟩, fun live same => agrees_of_served found hashed served same⟩

/-! A run that looks at one page twice. -/

def pageStore : InputSnapshotStore where
  sha256 := Sha256.hexdigest
  jsonb := some

def pageCall (snapshotId : String) (capturedAt : Time) (text : String) : ServedCall where
  runId := "run-1"
  nodeId := "fetch"
  toolName := "http_request"
  inputData := [(String.text "url", .str (String.text "https://example.org"))]
  output := [(String.text "body", .str (String.text text))]
  snapshotId
  capturedAt
  commits := true

def pageCalls (first second : String) : List ServedCall :=
  [pageCall "snapshot-1" 0 first, pageCall "snapshot-2" 1 second]

def noSnapshots : SnapshotTable := ⟨[], List.nodup_nil⟩

theorem pageCall_row (snapshotId : String) (capturedAt : Time) (text : String) :
    ∃ row, pageStore.rowOf (pageCall snapshotId capturedAt text) = some row ∧
      row.capturedAt = capturedAt := by
  have printable : Json.printable (.obj (pageCall snapshotId capturedAt text).output) = true := rfl
  rw [← Json.isSome_canonicalText] at printable
  obtain ⟨written, same⟩ := Option.isSome_iff_exists.mp printable
  unfold InputSnapshotStore.rowOf InputSnapshotStore.hashResponse
  rw [same]
  exact ⟨_, rfl, rfl⟩

theorem pages_captured (first second : String) :
    ∃ row row', Captured pageStore noSnapshots (pageCalls first second) 0
        (pageCall "snapshot-1" 0 first) row ∧
      Captured pageStore noSnapshots (pageCalls first second) 1
        (pageCall "snapshot-2" 1 second) row' ∧
      NewestFirst (pageStore.after noSnapshots (pageCalls first second) 2) [row', row] := by
  obtain ⟨row, made, time⟩ := pageCall_row "snapshot-1" 0 first
  obtain ⟨row', made', time'⟩ := pageCall_row "snapshot-2" 1 second
  have one : (pageStore.after noSnapshots (pageCalls first second) 1).rows = [row] := by
    have empty : noSnapshots.get? "snapshot-1" = none := rfl
    exact rows_captureSnapshot made rfl empty
  have fresh : (pageStore.after noSnapshots (pageCalls first second) 1).get? "snapshot-2" = none := by
    rw [Keyed.get?_eq_none, one]
    have id : row.id = "snapshot-1" := (rowOf_eq made).1
    simp [id]
  have two : (pageStore.after noSnapshots (pageCalls first second) 2).rows = [row, row'] := by
    have rows := rows_captureSnapshot made' rfl fresh
    rw [one] at rows
    exact rows
  refine ⟨row, row', ⟨rfl, made, rfl, rfl⟩, ⟨rfl, made', rfl, fresh⟩, ?_, ?_⟩
  · rw [two]
    exact .swap row row' []
  · rw [List.pairwise_pair, time, time']
    decide

theorem replay_served_page :
    ∃ scan, NewestFirst (pageStore.after noSnapshots (pageCalls "news" "news") 2) scan ∧
      Replayed pageStore scan 2 (pageCall "snapshot-1" 0 "news") := by
  obtain ⟨row, row', captured, captured', listed⟩ := pages_captured "news" "news"
  refine ⟨[row', row], listed, ?_⟩
  apply (replay_served_iff pageStore (fun _ _ same => congrArg some same) noSnapshots
    (pageCalls "news" "news") 2 "run-1" nofun [row', row] listed 2).mpr ?_ 0 (by decide) _ row
    captured rfl
  -- Every call has the same output.
  have output (i : Nat) (call : ServedCall) (there : (pageCalls "news" "news")[i]? = some call) :
      call.output = [(String.text "body", .str (String.text "news"))] := by
    have member := List.mem_of_getElem? there
    simp only [pageCalls, List.mem_cons, List.not_mem_nil, or_false] at member
    rcases member with rfl | rfl
    · rfl
    · rfl
  intro i _ j _ call other _ row' one two _ _ _
  have stored := (rowOf_eq two.2.1).2.2.2.1
  rw [← Option.some.inj stored, output i call one.1, output j other two.1]

/-- The second look is served for the first one. -/
theorem second_page_served :
    ∃ scan, NewestFirst (pageStore.after noSnapshots (pageCalls "news" "olds") 2) scan ∧
      ¬ Replayed pageStore scan 2 (pageCall "snapshot-1" 0 "news") := by
  obtain ⟨row, row', captured, captured', listed⟩ := pages_captured "news" "olds"
  refine ⟨[row', row], listed, ?_⟩
  intro replayed
  obtain ⟨frozen, found, same⟩ := replayed.served
  obtain ⟨_, ofRun, ofTool, stored, _⟩ := rowOf_eq captured'.2.1
  have first : getFrozen [row', row] "run-1" "http_request" = some row'.responseData := by
    unfold getFrozen getForReplay
    rw [List.find?_cons_of_pos (by simp [ofRun, ofTool, pageCall])]
    rfl
  obtain rfl := Option.some.inj (first.symm.trans found)
  rw [← Option.some.inj stored] at same
  revert same
  simp [pageCall, Json.sortKeys, Json.sortKeysEntries]
  decide

end SyndicateClaw.Orchestrator
