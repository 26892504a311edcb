import SyndicateClaw.Orchestrator.Engine

/-! Checkpoints.

`_persist_checkpoint` stores the state, in an envelope with its signature when the
engine has a key. `replay` takes a document for an envelope when it is an object with
a `checkpoint_hmac` field, whoever wrote that field. -/

namespace SyndicateClaw.Orchestrator

open Async

def WorkflowEngine.key? (engine : WorkflowEngine) : Option String :=
  engine.signingKey.filter (· ≠ "")

def Platform.HexDigests (platform : Platform) : Prop :=
  ∀ key value, (platform.hmacHex key value).toList.all (·.toNat < 128)

section values

variable {engine : WorkflowEngine} {envelope : State}

theorem compareDigest_eq_true {expected : String} {stored : Value}
    (equal : compareDigest expected stored = .ok true) : stored = .str expected := by
  cases stored with
  | str signature =>
      simp only [compareDigest] at equal
      split at equal
      · have same := of_decide_eq_true (Except.ok.inj equal)
        rw [same]
      · cases equal
  | _ => cases equal

theorem verifyCheckpointHmac_ok {key : String} {data : Value} (keyed : engine.key? = some key)
    (signed : Dict.contains envelope "checkpoint_hmac") (found : Dict.get? envelope "data" = some data)
    (verified : verifyCheckpointHmac engine envelope = .ok ()) :
    Dict.get? envelope "checkpoint_hmac" = some (.str (engine.platform.hmacHex key data)) := by
  rw [WorkflowEngine.key?] at keyed
  obtain ⟨stored, present⟩ := Option.isSome_iff_exists.mp signed
  simp only [verifyCheckpointHmac, keyed, found, present, Option.getD_some] at verified
  cases compared : compareDigest (engine.platform.hmacHex key data) stored with
  | error e => simp [compared, bind, Except.bind] at verified
  | ok equal =>
      cases equal with
      | false => simp [compared, bind, Except.bind, throw, throwThe, MonadExceptOf.throw] at verified
      | true => rw [present, compareDigest_eq_true compared]

theorem compareDigest_self {digest : String} (ascii : digest.toList.all (·.toNat < 128)) :
    compareDigest digest (.str digest) = .ok true := by
  rw [compareDigest, if_pos ascii, decide_eq_true rfl]

variable (state : State)

/-- The envelope `_persist_checkpoint` writes passes its own check. -/
theorem checkpointValue_signed {key : String} (keyed : engine.key? = some key)
    (hex : engine.platform.HexDigests) :
    checkpointValue engine (checkpointFor engine state) = .ok (.dict (jsonableState state)) := by
  let data := Value.dict (jsonableState state)
  let envelope : State :=
    [("data", data), ("checkpoint_hmac", .str (engine.platform.hmacHex key data))]
  rw [WorkflowEngine.key?] at keyed
  have saved : checkpointFor engine state = .document (.dict envelope) := by
    simp only [checkpointFor, keyed]
    rfl
  have signature : Dict.get? envelope "checkpoint_hmac" =
      some (.str (engine.platform.hmacHex key data)) := rfl
  have found : Dict.get? envelope "data" = some data := rfl
  have signed : signedEnvelope? (.dict envelope) = some envelope :=
    signedEnvelope?_eq_some.mpr ⟨rfl, rfl⟩
  have verified : verifyCheckpointHmac engine envelope = .ok () := by
    simp only [verifyCheckpointHmac, keyed, signature, found, Option.getD_some,
      compareDigest_self (hex key data)]
    rfl
  simp only [saved, checkpointValue, signed, verified, found]
  rfl

theorem checkpointFor_keyless (keyless : engine.key? = none) :
    checkpointFor engine state = .document (.dict (jsonableState state)) := by
  rw [WorkflowEngine.key?] at keyless
  simp only [checkpointFor, keyless]

theorem contains_jsonableState (key : String) :
    Dict.contains (jsonableState state) key = Dict.contains state key := by
  simp [Dict.contains, get?_jsonableState]

theorem checkpointValue_plain (keyless : engine.key? = none)
    (plain : Dict.contains state "checkpoint_hmac" = false) :
    checkpointValue engine (checkpointFor engine state) = .ok (.dict (jsonableState state)) := by
  rw [checkpointFor_keyless state keyless]
  simp [checkpointValue, signedEnvelope?, Value.asDict?, Option.filter_some,
    contains_jsonableState, plain, pure, Except.pure]

/-- Without a key, a state with a `checkpoint_hmac` field is taken for an envelope. -/
theorem checkpointValue_mistaken {value : Value} (keyless : engine.key? = none)
    (mistaken : Dict.contains state "checkpoint_hmac")
    (ok : checkpointValue engine (checkpointFor engine state) = .ok value) :
    Dict.get? (jsonableState state) "data" = some value := by
  rw [checkpointFor_keyless state keyless] at ok
  rcases checkpointValue_ok ok with ⟨envelope, document, -, found, -⟩ | ⟨document, unsigned⟩
  · obtain rfl := Value.dict.inj (JsonText.document.inj document)
    exact found
  · have absent := unsigned _ (JsonText.document.inj document).symm
    rw [contains_jsonableState, mistaken] at absent
    cases absent

end values

theorem sizeOf_get? {state : State} {key : String} {value : Value}
    (found : Dict.get? state key = some value) : sizeOf value < sizeOf state := by
  induction state with
  | nil => cases found
  | cons entry state ih =>
      obtain ⟨other, first⟩ := entry
      rw [Dict.get?_cons] at found
      split at found
      · obtain rfl := Option.some.inj found
        simp
        omega
      · have smaller := ih found
        simp
        omega

/-! ### The round trip -/

def resetRun (state : State) (run : WorkflowRun) : WorkflowRun :=
  { run with state, status := .pending, error := none, completedAt := none }

section roundTrip

variable {engine : WorkflowEngine} {runId : String} {w : World} {result : WorkflowRunResult}

theorem settle_replay (registered : w.runs runId = some result) :
    (replay engine runId).settle w =
      match (w.objects result.run).checkpointData.map (restoreCheckpoint engine) with
      | some (.error e) => (w, .error e)
      | restored =>
          let state := match restored with
            | some (.ok state) => state
            | _ => (w.objects result.run).state
          ((w.modifyRun result.run (resetRun state)).modifyResult runId
              fun result => { result with nodeExecutions := [] },
            .ok { result with nodeExecutions := [] }) := by
  cases saved : (w.objects result.run).checkpointData with
  | none =>
      simp [replay, findRun, registered, saved, resetRun, World.modifyRun, World.modifyResult]
  | some checkpoint =>
      cases restored : restoreCheckpoint engine checkpoint with
      | error e => simp [replay, findRun, registered, saved, restored]
      | ok state =>
          simp [replay, findRun, registered, saved, restored, resetRun, World.modifyRun,
            World.modifyResult]

variable (engine runId w)

def persistThenReplay (ref : Nat) (stage : Stage) : EngineM WorkflowRunResult := do
  persistCheckpoint engine ref stage
  replay engine runId

def RestoresState (ref : Nat) (stage : Stage) : Prop :=
  ∃ w' result, (persistThenReplay engine runId ref stage).settle w = (w', .ok result) ∧
    (w'.objects ref).state = (w.objects ref).state

variable {engine runId w}

theorem restoresState_iff_value (registered : w.runs runId = some result) (stage : Stage) :
    RestoresState engine runId w result.run stage ↔
      checkpointValue engine (checkpointFor engine (w.objects result.run).state) =
        .ok (.dict (w.objects result.run).state) := by
  rw [← restoreCheckpoint_eq_ok]
  unfold RestoresState persistThenReplay
  rw [Co.settle_bind]
  simp only [persistCheckpoint, Co.settle_bind, settle_modifyRun, Co.settle_await]
  rw [settle_replay (w := w.modifyRun result.run _) registered]
  simp only [World.modifyRun_objects_self, Option.map_some]
  cases restored : restoreCheckpoint engine
    (checkpointFor engine (w.objects result.run).state) with
  | error e => simp
  | ok state => simp [resetRun]

/-- A JSON state comes back from its checkpoint exactly when the engine signs or the
state has no `checkpoint_hmac` field of its own. -/
theorem restoresState_iff (registered : w.runs runId = some result)
    (hex : engine.platform.HexDigests)
    (json : jsonableState (w.objects result.run).state = (w.objects result.run).state)
    (stage : Stage) :
    RestoresState engine runId w result.run stage ↔
      engine.key?.isSome ∨
        Dict.contains (w.objects result.run).state "checkpoint_hmac" = false := by
  rw [restoresState_iff_value registered stage]
  generalize (w.objects result.run).state = state at json
  cases keyed : engine.key? with
  | some key =>
      rw [checkpointValue_signed state keyed hex, json]
      simp
  | none =>
      cases mistaken : Dict.contains state "checkpoint_hmac" with
      | false =>
          rw [checkpointValue_plain state keyed mistaken, json]
          simp
      | true =>
          refine iff_of_false ?_ (by simp)
          intro ok
          -- The state would be an entry of itself.
          have inside := sizeOf_get? (checkpointValue_mistaken state keyed mistaken ok)
          rw [json, Value.dict.sizeOf_spec] at inside
          omega

end roundTrip

/-! A key of 32 bytes, and the signatures of three documents under it. -/

def signingPlatform : Platform :=
  { Platform.plain with
    hmacHex := fun _ value =>
      if value = .dict [("amount", .int 1)] then
        "0362ee97910d66dee17643ba7a953cac35c22e020256819f0f64c5d913f0cc83"
      else if value = .dict [] then
        "3c8759712cf1a8d3f8bc9eec480100823f785af4454b5b19f0ee0b2efe563376"
      else "11b0aa3110e62173b38281bd3066bf956b80b8d61b22e82d060c8ecb6c219e21" }

def signingEngine : WorkflowEngine :=
  { WorkflowEngine.plain (fun _ => some echoHandler) false with
    platform := signingPlatform
    signingKey := some "test-signing-key-32-bytes-long!!" }

def envelopeState : State :=
  [("data", .dict [("amount", .int 1)]), ("checkpoint_hmac", .str "none")]

def registeredRun (state : State) : World :=
  { World.started (startRun "run" "workflow" "1" "client" state []) with
    runs := Function.update (fun _ => none) "run" (some { run := 0 }) }

theorem signingPlatform_hexDigests : signingPlatform.HexDigests := by
  intro key value
  unfold signingPlatform
  dsimp only
  split_ifs <;> decide +kernel

theorem restoresState_envelopeState :
    (registeredRun envelopeState).runs "run" = some { run := 0 } ∧
      jsonableState envelopeState = envelopeState ∧
      (RestoresState signingEngine "run" (registeredRun envelopeState) 0 .executed ↔
        signingEngine.key?.isSome ∨ Dict.contains envelopeState "checkpoint_hmac" = false) := by
  have registered : (registeredRun envelopeState).runs "run" = some { run := 0 } := rfl
  have state : ((registeredRun envelopeState).objects 0).state = envelopeState := rfl
  have json : jsonableState envelopeState = envelopeState := rfl
  have restores := @restoresState_iff signingEngine "run" (registeredRun envelopeState)
    { run := 0 } registered signingPlatform_hexDigests (by rw [state]; exact json) .executed
  rw [state] at restores
  exact ⟨registered, json, restores⟩

theorem envelopeState_not_restored :
    ¬ RestoresState (.plain (fun _ => some echoHandler) false) "run"
      (registeredRun envelopeState) 0 .executed := by
  rintro ⟨w', result, settled, same⟩
  have loaded : (((persistThenReplay (.plain (fun _ => some echoHandler) false) "run" 0
      .executed).settle (registeredRun envelopeState)).1.objects 0).state =
        [("amount", .int 1)] := by decide +kernel
  rw [settled] at loaded
  rw [loaded] at same
  revert same
  decide

/-! ### Any document

`run.state` is assigned whatever the document holds, so here a state is any value. -/

/-- The fields of a run that `replay` reads and writes. -/
structure LooseRun where
  state : Value
  status : WorkflowRunStatus
  error : Option String
  completedAt : Option Instant
  checkpointData : Option JsonText

def WorkflowRun.loose (run : WorkflowRun) : LooseRun :=
  { state := .dict run.state, status := run.status, error := run.error
    completedAt := run.completedAt, checkpointData := run.checkpointData }

section anyDocument

variable (engine : WorkflowEngine)

/-- What `replay` does to the run. -/
def replayRun : EStateM EngineError LooseRun Unit := do
  match (← get).checkpointData with
  | none => pure ()
  | some checkpoint =>
      match checkpointValue engine checkpoint with
      | .error e => throw e
      | .ok value => modify fun run => { run with state := value }
  modify fun run => { run with status := .pending, error := none, completedAt := none }

variable {engine}

theorem replayRun_error {run : LooseRun} {checkpoint : JsonText} {e : EngineError}
    (saved : run.checkpointData = some checkpoint)
    (refused : checkpointValue engine checkpoint = .error e) :
    (replayRun engine).run run = .error e run := by
  simp [replayRun, saved, refused, EStateM.run_bind]

theorem replayRun_ok {run : LooseRun} {checkpoint : JsonText} {value : Value}
    (saved : run.checkpointData = some checkpoint)
    (assigned : checkpointValue engine checkpoint = .ok value) :
    (replayRun engine).run run = .ok ()
      { run with state := value, status := .pending, error := none, completedAt := none } := by
  simp [replayRun, saved, assigned, EStateM.run_bind]

/-- `replay` does to a registered run what `replayRun` does to its fields, as long as the
state stays a dictionary. -/
theorem replay_refines {runId : String} {w : World} {result : WorkflowRunResult}
    {checkpoint : JsonText} (registered : w.runs runId = some result)
    (saved : (w.objects result.run).checkpointData = some checkpoint) :
    match (replayRun engine).run (w.objects result.run).loose with
    | .error e _ => (replay engine runId).settle w = (w, .error e)
    | .ok _ after => ∀ state, after.state = .dict state →
        (((replay engine runId).settle w).1.objects result.run).loose = after := by
  rw [settle_replay registered, saved, Option.map_some]
  cases assigned : checkpointValue engine checkpoint with
  | error e =>
      rw [replayRun_error saved assigned]
      simp [restoreCheckpoint, assigned, bind, Except.bind]
  | ok value =>
      rw [replayRun_ok saved assigned]
      intro state object
      obtain rfl : value = .dict state := object
      rw [restoreCheckpoint_eq_ok.mpr assigned]
      simp [resetRun, WorkflowRun.loose]

variable (engine)

/-- `replay` raises and leaves the run as it was, or loads the data of an envelope whose
signature under the key is the stored one. -/
def LoadsVerified (key : String) (run : LooseRun) : Prop :=
  match (replayRun engine).run run with
  | .error _ after =>
      after.state = run.state ∧ after.status = run.status ∧ after.error = run.error
  | .ok _ after => ∃ envelope, run.checkpointData = some (.document (.dict envelope)) ∧
      Dict.get? envelope "data" = some after.state ∧
      Dict.get? envelope "checkpoint_hmac" =
        some (.str (engine.platform.hmacHex key after.state))

/-- The document has no signature field, and `replay` loads it as it stands. -/
def LoadsUnsigned (run : LooseRun) : Prop :=
  ∃ raw, run.checkpointData = some (.document raw) ∧ signedEnvelope? raw = none ∧
    (replayRun engine).run run = .ok ()
      { run with state := raw, status := .pending, error := none, completedAt := none }

variable {engine}

/-- With a key, `replay` loads verified data or a document without a signature field. -/
theorem replay_loads {key : String} (keyed : engine.key? = some key) (run : LooseRun)
    (checkpoint : JsonText) :
    let run := { run with checkpointData := some checkpoint }
    LoadsVerified engine key run ∨ LoadsUnsigned engine run := by
  intro run
  cases assigned : checkpointValue engine checkpoint with
  | error e =>
      left
      rw [LoadsVerified, replayRun_error rfl assigned]
      exact ⟨rfl, rfl, rfl⟩
  | ok value =>
      have loaded := @replayRun_ok engine run _ _ rfl assigned
      rcases checkpointValue_ok assigned with ⟨envelope, rfl, signed, found, verified⟩ |
        ⟨rfl, unsigned⟩
      · left
        rw [LoadsVerified, loaded]
        exact ⟨envelope, rfl, found, verifyCheckpointHmac_ok keyed signed found verified⟩
      · right
        refine ⟨value, rfl, ?_, loaded⟩
        cases envelope? : signedEnvelope? value with
        | none => rfl
        | some envelope =>
            obtain ⟨object, present⟩ := signedEnvelope?_eq_some.mp envelope?
            rw [unsigned envelope object] at present
            cases present

end anyDocument

def failedWith (checkpoint : JsonText) : LooseRun :=
  { state := .dict [("amount", .int 7)], status := .failed, error := some "Node pay failed: timeout"
    completedAt := none, checkpointData := some checkpoint }

def signedAmount : JsonText :=
  .document (.dict [("data", .dict [("amount", .int 1)]), ("checkpoint_hmac",
    .str "0362ee97910d66dee17643ba7a953cac35c22e020256819f0f64c5d913f0cc83")])

theorem replay_loads_signedAmount :
    signingEngine.key? = some "test-signing-key-32-bytes-long!!" ∧
      (LoadsVerified signingEngine "test-signing-key-32-bytes-long!!" (failedWith signedAmount) ∨
        LoadsUnsigned signingEngine (failedWith signedAmount)) :=
  ⟨rfl, replay_loads rfl (failedWith signedAmount) signedAmount⟩

theorem unsigned_document_loaded :
    ¬ LoadsVerified signingEngine "test-signing-key-32-bytes-long!!"
      (failedWith (.document (.dict [("amount", .int 1000)]))) := by
  have assigned : checkpointValue signingEngine (.document (.dict [("amount", .int 1000)])) =
      .ok (.dict [("amount", .int 1000)]) := rfl
  rw [LoadsVerified, replayRun_ok rfl assigned]
  rintro ⟨envelope, document, found, -⟩
  obtain rfl := Value.dict.inj (JsonText.document.inj (Option.some.inj document))
  cases found

end SyndicateClaw.Orchestrator
