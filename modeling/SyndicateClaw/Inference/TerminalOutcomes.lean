import SyndicateClaw.Inference.RowOutline

/-! The terminal outcomes of a key. `update_completed` and `update_failed` find the row by its
identifier alone, so they also overwrite the failure that a sweep has left. -/

namespace SyndicateClaw.Inference

open Async Authz

def EnvelopeStatus.terminal : EnvelopeStatus → Bool
  | .completed | .failed => true
  | .pending | .executing | .timedOut => false

theorem EnvelopeStatus.terminal_of_inProgress {status : EnvelopeStatus}
    (inProgress : status.inProgress = true) : status.terminal = false := by
  cases status <;> first | rfl | cases inProgress

structure Outcome where
  status : EnvelopeStatus
  resultJson : Option Result
  failureReason : Option String

def Envelope.outcome (row : Envelope) : Outcome :=
  { status := row.status, resultJson := row.resultJson, failureReason := row.failureReason }

/-- What `update_completed` writes. -/
def completedWith (dump : Result) : Outcome :=
  { status := .completed, resultJson := some dump, failureReason := none }

/-- What `update_failed` writes. -/
def failedWith (error : ExecutionError) : Outcome :=
  { status := .failed, resultJson := some error.result, failureReason := some "inference_failed" }

def Answer.outcome : Answer → Option Outcome
  | .result _ dump => some (completedWith dump)
  | .executionError _ error => some (failedWith error)
  | .replay row | .storedFailure row | .terminalKey row => some row.outcome
  | .inProgress _ | .conflict | .broken => none

def Phase.outcome : Phase → Option Outcome
  | .finished _ answer => answer.outcome
  | _ => none

def Reached (row : Option Envelope) (outcome : Outcome) : Prop :=
  ∃ own, row = some own ∧ own.outcome = outcome

def Settles (row row' : Option Envelope) : Prop :=
  ∀ own, row = some own → own.status.terminal = true → Reached row' own.outcome

theorem Settles.refl (row : Option Envelope) : Settles row row := fun own same _ => ⟨own, same, rfl⟩

theorem Settles.reached {row row' : Option Envelope} {outcome : Outcome}
    (settles : Settles row row') (reached : Reached row outcome)
    (terminal : outcome.status.terminal = true) : Reached row' outcome := by
  obtain ⟨own, same, rfl⟩ := reached
  exact settles own same terminal

theorem Settles.trans {row row' row'' : Option Envelope} (first : Settles row row')
    (second : Settles row' row'') : Settles row row'' :=
  fun own same terminal => second.reached (first own same terminal) terminal

def Mild (row : Option Envelope) (new : Envelope) : Prop :=
  ∀ own, row = some own → own.status.terminal = true → new.outcome = own.outcome

theorem Mild.settles {row : Option Envelope} {new : Envelope} (mild : Mild row new) :
    Settles row (some new) := fun own same terminal => ⟨new, rfl, mild own same terminal⟩

theorem mild_of_open {row : Option Envelope} (new : Envelope)
    (unsettled : ∀ own, row = some own → own.status.terminal = false) : Mild row new := by
  intro own same terminal
  rw [unsettled own same] at terminal
  cases terminal

/-! ### What the calls know of the outcome -/

section

variable {ι : Type}

/-- What a call may assert of the outcome in its phases. -/
def Agrees (i : ι) (desk : Desk ι) : Phase → Prop
  | .inserting _ | .selecting _ | .marked _ =>
      ∀ row, desk.cell.dirty = some (i, some row) → Mild desk.cell.committed row
  | .closing row _ => Mild desk.cell.committed row
  | .deciding row _ => row.status.terminal = true → Reached desk.cell.committed row.outcome
  | .completed _ dump =>
      ∃ row, desk.cell.dirty = some (i, some row) ∧ row.outcome = completedWith dump
  | .failed _ error =>
      ∃ row, desk.cell.dirty = some (i, some row) ∧ row.outcome = failedWith error
  | .finished _ answer => ∀ outcome, answer.outcome = some outcome →
      outcome.status.terminal = true ∧ Reached desk.cell.committed outcome
  | .ready | .marking _ | .executing _ | .completing _ _ | .failing _ _ => True

theorem Agrees.stable {call : Call} {i : ι} {desk desk' : Desk ι} {phase : Phase}
    (agrees : Agrees i desk phase) (asserts : Asserts call i desk phase)
    (rely : Rely i desk desk') (settles : Settles desk.cell.committed desk'.cell.committed) :
    Agrees i desk' phase := by
  have uncommitted (mild : ∀ row, desk.cell.dirty = some (i, some row) →
      Mild desk.cell.committed row) (row : Envelope) (dirty : desk'.cell.dirty = some (i, some row)) :
      Mild desk'.cell.committed row := by
    by_cases holding : desk.cell.Holding i
    · rw [rely.spares holding] at dirty ⊢
      exact mild row dirty
    · exact absurd ⟨_, dirty⟩ (rely.idle holding)
  have held {outcome : Outcome} (before : ∃ row, desk.cell.dirty = some (i, some row) ∧
      row.outcome = outcome) : ∃ row, desk'.cell.dirty = some (i, some row) ∧
      row.outcome = outcome := by
    obtain ⟨row, dirty, same⟩ := before
    rw [rely.spares ⟨_, dirty⟩]
    exact ⟨row, dirty, same⟩
  cases phase with
  | ready | marking _ | executing _ | completing _ _ | failing _ _ => trivial
  | inserting _ | selecting _ | marked _ => exact uncommitted agrees
  | closing row _ =>
      unfold Agrees
      rw [rely.spares ⟨_, asserts.1⟩]
      exact agrees
  | deciding row _ => exact fun terminal => settles.reached (agrees terminal) terminal
  | completed _ _ | failed _ _ => exact held agrees
  | finished _ answer =>
      intro outcome own
      obtain ⟨terminal, reached⟩ := agrees outcome own
      exact ⟨terminal, settles.reached reached terminal⟩

/-! ### Single steps -/

/-- A step that leaves a terminal outcome, and what the call may assert afterwards. -/
structure Fair (i : ι) (desk : Desk ι) (next : Desk ι × Phase) : Prop where
  settles : Settles desk.cell.committed next.1.cell.committed
  agrees : Agrees i next.1 next.2

theorem fair_nothing {i : ι} {desk : Desk ι} {phase : Phase} (agrees : Agrees i desk phase) :
    Fair i desk (desk, phase) :=
  ⟨.refl _, agrees⟩

theorem fair_write {i : ι} {desk : Desk ι} {row : Option Envelope} {phase : Phase}
    (agrees : Agrees i { desk with cell := desk.cell.write i row } phase) :
    Fair i desk ({ desk with cell := desk.cell.write i row }, phase) :=
  ⟨.refl _, agrees⟩

end

section

variable {ι : Type} [DecidableEq ι] {call : Call} {i : ι} {desk : Desk ι}

theorem fair_abort {entered : Bool} {answer : Answer} (untold : answer.outcome = none) :
    Fair i desk (desk.abort i entered answer) := by
  constructor
  · show Settles _ (desk.cell.rollback i).committed
    rw [Cell.rollback_committed]
    exact .refl _
  · intro outcome own
    rw [untold] at own
    cases own

theorem fair_rollback (inferenceId : String) (error : ExecutionError) :
    Fair i desk (desk.rollback i, .failing inferenceId error) := by
  constructor
  · show Settles _ (desk.cell.rollback i).committed
    rw [Cell.rollback_committed]
    exact .refl _
  · trivial

theorem settles_commit (stored : Stored desk)
    (mild : ∀ row, desk.cell.dirty = some (i, some row) → Mild desk.cell.committed row) :
    Settles desk.cell.committed (desk.cell.commit i).committed := by
  have effect : Cell.Effect (Extends desk) i desk.cell (desk.cell.commit i) := .commit
  rcases effect.committed with same | dirty
  · rw [same]
    exact .refl _
  · obtain ⟨new, same, -⟩ := stored.dirty i _ dirty
    rw [same] at dirty ⊢
    exact (mild new dirty).settles

theorem fair_sweep (idle : ¬ desk.cell.Holding i) (staleAfter now : Time) :
    Fair i desk (sweepStale staleAfter i now desk) := by
  unfold sweepStale
  cases updated : updateEnvelope i (fun row => row.stale (now - staleAfter))
      (fun row => row.sweep now) desk.cell with
  | none => exact fair_nothing trivial
  | some cell =>
      rcases updateEnvelope_cases updated with ⟨rfl, -⟩ | ⟨row, committed, stale, -, rfl⟩
      · exact fair_nothing fun row dirty => absurd ⟨_, dirty⟩ idle
      · refine fair_write fun new _ => mild_of_open new fun own same => ?_
        have open_ : row.status.inProgress = true := by
          unfold Envelope.stale at stale
          exact (Bool.and_eq_true_iff.mp stale).1
        rw [Cell.write_committed, committed] at same
        obtain rfl := Option.some.inj same
        exact EnvelopeStatus.terminal_of_inProgress open_

theorem fair_insert (stored : Stored desk) (now later : Time)
    (agrees : Agrees i desk (.inserting now)) :
    Fair i desk (insertEnvelope call i now later desk) := by
  unfold insertEnvelope
  cases seen : desk.cell.seen i with
  | some row => exact fair_nothing agrees
  | none =>
      dsimp only
      split
      · exact fair_nothing agrees
      · refine fair_write fun own same => ?_
        rw [Cell.write_committed, (stored.unseen seen).2] at same
        cases same

theorem touch_outcome (row : Envelope) (now later : Time) :
    (row.touch now later).outcome = row.outcome := by
  unfold Envelope.touch
  split <;> rfl

theorem seen_mild {row : Envelope}
    (mild : ∀ row, desk.cell.dirty = some (i, some row) → Mild desk.cell.committed row)
    (seen : desk.cell.seen i = some row) : Mild desk.cell.committed row := by
  by_cases holding : desk.cell.Holding i
  · obtain ⟨held, dirty⟩ := holding
    rw [Cell.seen_of_dirty dirty] at seen
    subst seen
    exact mild row dirty
  · rw [Cell.seen_of_not_holding holding] at seen
    intro own same _
    rw [seen] at same
    obtain rfl := Option.some.inj same
    rfl

theorem fair_select (now later : Time) (agrees : Agrees i desk (.selecting now)) :
    Fair i desk (selectEnvelope call i now later desk) := by
  unfold selectEnvelope
  split
  · exact fair_nothing agrees
  · cases seen : desk.cell.seen i with
    | none => exact fair_abort rfl
    | some row =>
        dsimp only
        split
        · exact fair_abort rfl
        · refine fair_write fun own same terminal => ?_
          exact (touch_outcome row now later).trans (seen_mild agrees seen own same terminal)

theorem fair_close {row : Envelope} (isNew : Bool)
    (dirty : desk.cell.dirty = some (i, some row)) (mild : Mild desk.cell.committed row)
    {phase : Phase}
    (agrees : ∀ desk' : Desk ι, desk'.cell.committed = some row → Agrees i desk' phase) :
    Fair i desk (closeAcquire i isNew desk, phase) := by
  have committed : (desk.cell.commit i).committed = some row := by rw [Cell.commit_of_dirty dirty]
  constructor
  · show Settles _ (desk.cell.commit i).committed
    rw [committed]
    exact mild.settles
  · exact agrees _ committed

theorem fair_mark (idle : ¬ desk.cell.Holding i) (inferenceId : String) (now : Time) :
    Fair i desk (markExecuting i inferenceId now desk) := by
  unfold markExecuting updateStep
  cases updated : updateEnvelope i
      (fun row => row.inferenceId = inferenceId && row.status.inProgress)
      (fun row => { row with status := .executing, updatedAt := now }) desk.cell with
  | none => exact fair_nothing trivial
  | some cell =>
      rcases updateEnvelope_cases updated with ⟨rfl, -⟩ | ⟨row, committed, matched, -, rfl⟩
      · exact fair_nothing fun row dirty => absurd ⟨_, dirty⟩ idle
      · refine fair_write fun new _ => mild_of_open new fun own same => ?_
        rw [Cell.write_committed, committed] at same
        obtain rfl := Option.some.inj same
        exact EnvelopeStatus.terminal_of_inProgress (Bool.and_eq_true_iff.mp matched).2

theorem fair_update {inferenceId : String} (bound : Bound call desk inferenceId)
    {waits goes : Phase} (change : Envelope → Envelope) (stays : Agrees i desk waits)
    (agrees : ∀ desk' : Desk ι, (∃ row, desk'.cell.dirty = some (i, some (change row))) →
      Agrees i desk' goes) :
    Fair i desk (updateStep i desk (fun row => row.inferenceId = inferenceId) change waits goes) := by
  unfold updateStep
  cases updated : updateEnvelope i (fun row => row.inferenceId = inferenceId) change desk.cell with
  | none => exact fair_nothing stays
  | some cell =>
      rcases updateEnvelope_cases updated with ⟨-, unmatched⟩ | ⟨row, -, -, -, rfl⟩
      · obtain ⟨own, committed, -, same⟩ := bound
        exact absurd same (of_decide_eq_false (unmatched own committed))
      · exact fair_write (agrees _ ⟨row, rfl⟩)

theorem fair_commit {phase : Phase} {outcome : Outcome}
    (written : ∃ row, desk.cell.dirty = some (i, some row) ∧ row.outcome = outcome)
    (unsettled : ∀ own, desk.cell.committed = some own → own.status.terminal = false)
    (agrees : ∀ desk' : Desk ι, Reached desk'.cell.committed outcome → Agrees i desk' phase) :
    Fair i desk (desk.commit i, phase) := by
  obtain ⟨row, dirty, same⟩ := written
  have committed : (desk.cell.commit i).committed = some row := by rw [Cell.commit_of_dirty dirty]
  constructor
  · show Settles _ (desk.cell.commit i).committed
    rw [committed]
    exact (mild_of_open row unsettled).settles
  · exact agrees _ ⟨row, committed, same⟩

omit [DecidableEq ι] in
theorem agrees_begin {row : Envelope} {isNew : Bool} (sound : row.Sound)
    (agrees : row.status.terminal = true → Reached desk.cell.committed row.outcome) :
    Agrees i desk (idempotencyBegin row isNew) := by
  have told {answer : Answer} (own : answer.outcome = some row.outcome)
      (terminal : row.status.terminal = true) : Agrees i desk (.finished false answer) := by
    intro outcome same
    rw [own] at same
    obtain rfl := Option.some.inj same
    exact ⟨terminal, agrees terminal⟩
  unfold idempotencyBegin
  cases isNew with
  | true => trivial
  | false =>
      obtain ⟨inTime, result⟩ := sound
      cases status : row.status with
      | pending | executing => exact nofun
      | completed =>
          have terminal : row.status.terminal = true := by rw [status]; rfl
          simp only [result status, decide_true, Bool.and_self, if_true, Bool.false_eq_true, if_false]
          split
          · exact told rfl terminal
          · exact told rfl terminal
      | failed =>
          have terminal : row.status.terminal = true := by rw [status]; rfl
          simp only [EnvelopeStatus.inProgress, reduceCtorEq, decide_false, Bool.false_and,
            Bool.or_self, Bool.false_eq_true, if_false, if_true]
          split
          · exact told rfl terminal
          · exact told rfl terminal
      | timedOut => exact absurd status inTime

/-- It has run `update_completed` or `update_failed`, and not committed. -/
def Phase.updates : Phase → Bool
  | .completed _ _ | .failed _ _ => true
  | _ => false

def Event.commits : Event → Bool
  | .proceeds _ | .loses _ => true
  | .fails _ | .returns _ | .dies => false

theorem advance_fair (staleAfter : Time) (calls : ι → Call) (event : Event) (stored : Stored desk)
    {phase : Phase} (asserts : Asserts (calls i) i desk phase) (agrees : Agrees i desk phase)
    (timely : phase.updates = true → event.commits = true →
      ∀ own, desk.cell.committed = some own → own.status.terminal = false) :
    Fair i desk (advance staleAfter calls i event desk phase) := by
  cases phase with
  | ready =>
      cases event with
      | proceeds now => exact fair_sweep asserts staleAfter now
      | fails _ | dies => exact fair_abort rfl
      | loses _ | returns _ => exact fair_nothing agrees
  | inserting now =>
      cases event with
      | proceeds later => exact fair_insert stored now later agrees
      | fails _ | dies => exact fair_abort rfl
      | loses _ | returns _ => exact fair_nothing agrees
  | selecting now =>
      cases event with
      | proceeds later => exact fair_select now later agrees
      | fails _ | dies => exact fair_abort rfl
      | loses _ | returns _ => exact fair_nothing agrees
  | closing row isNew =>
      have dirty := asserts.1
      cases event with
      | proceeds _ =>
          exact fair_close isNew dirty agrees fun desk' committed _ => ⟨row, committed, rfl⟩
      | loses _ => exact fair_close isNew dirty agrees fun desk' _ => nofun
      | fails _ | dies => exact fair_abort rfl
      | returns _ => exact fair_nothing agrees
  | deciding row isNew =>
      cases event with
      | proceeds _ => exact fair_nothing (agrees_begin asserts.2.1 agrees)
      | fails _ | dies => exact fair_abort rfl
      | loses _ | returns _ => exact fair_nothing agrees
  | marking inferenceId =>
      cases event with
      | proceeds now => exact fair_mark asserts.1 inferenceId now
      | fails _ | dies => exact fair_abort rfl
      | loses _ | returns _ => exact fair_nothing agrees
  | marked inferenceId =>
      cases event with
      | proceeds _ => exact ⟨settles_commit stored agrees, trivial⟩
      | loses _ => exact ⟨settles_commit stored agrees, nofun⟩
      | fails _ | dies => exact fair_abort rfl
      | returns _ => exact fair_nothing agrees
  | executing inferenceId =>
      cases event with
      | returns _ | fails _ => exact fair_nothing trivial
      | dies => exact fair_abort rfl
      | proceeds _ | loses _ => exact fair_nothing agrees
  | completing inferenceId dump =>
      cases event with
      | proceeds now =>
          refine fair_update asserts.2.1 _ trivial fun desk' written => ?_
          obtain ⟨row, dirty⟩ := written
          exact ⟨_, dirty, rfl⟩
      | fails error => exact fair_rollback inferenceId error
      | dies => exact fair_abort rfl
      | loses _ | returns _ => exact fair_nothing agrees
  | completed inferenceId dump =>
      cases event with
      | proceeds _ =>
          refine fair_commit agrees (timely rfl rfl) fun desk' reached outcome own => ?_
          obtain rfl := Option.some.inj own
          exact ⟨rfl, reached⟩
      | loses error => exact fair_commit agrees (timely rfl rfl) fun _ _ => trivial
      | fails error => exact fair_rollback inferenceId error
      | dies => exact fair_abort rfl
      | returns _ => exact fair_nothing agrees
  | failing inferenceId error =>
      cases event with
      | proceeds now =>
          refine fair_update asserts.2.1 _ trivial fun desk' written => ?_
          obtain ⟨row, dirty⟩ := written
          exact ⟨_, dirty, rfl⟩
      | fails _ | dies => exact fair_abort rfl
      | loses _ | returns _ => exact fair_nothing agrees
  | failed inferenceId error =>
      cases event with
      | proceeds _ =>
          refine fair_commit agrees (timely rfl rfl) fun desk' reached outcome own => ?_
          obtain rfl := Option.some.inj own
          exact ⟨rfl, reached⟩
      | loses _ => exact fair_commit agrees (timely rfl rfl) fun _ _ => nofun
      | fails _ | dies => exact fair_abort rfl
      | returns _ => exact fair_nothing agrees
  | finished entered answer => cases event <;> exact fair_nothing agrees

end

/-! ### Whole histories -/

section

variable {ι : Type} [DecidableEq ι] (staleAfter : Time) (calls : ι → Call)
  (acts : List (Act ι Event Empty))

/-- Terminal outcomes are final, and no two calls tell different ones. -/
structure Final : Prop where
  row : ∀ n m, n ≤ m → Settles (after staleAfter calls acts n).shared.cell.committed
    (after staleAfter calls acts m).shared.cell.committed
  callers : ∀ n m i j outcome outcome',
    ((after staleAfter calls acts n).phase i).outcome = some outcome →
      ((after staleAfter calls acts m).phase j).outcome = some outcome' → outcome = outcome'

def Timely (inferences : Inferences ι) : Act ι Event Empty → Prop
  | .own i event => (inferences.phase i).updates = true → event.commits = true →
      ∀ own ∈ inferences.shared.cell.committed, own.status.terminal = false
  | .outside _ => True

instance (inferences : Inferences ι) (act : Act ι Event Empty) : Decidable (Timely inferences act) :=
  match act with
  | .own i event => inferInstanceAs (Decidable ((inferences.phase i).updates = true →
      event.commits = true →
        ∀ own ∈ inferences.shared.cell.committed, own.status.terminal = false))
  | .outside _ => .isTrue trivial

variable {staleAfter calls acts}

theorem outcomes_outline : Outline (advance staleAfter calls) (fun change : Empty => change.elim)
    (fun inferences act => inferences.Holds Stored (fun i => Asserts (calls i) i) ∧
      Timely inferences act)
    (fun _ => True) (fun i => Agrees i) where
  kept _ _ _ _ _ := trivial
  own _ i event agrees admitted := (advance_fair staleAfter calls event admitted.1.shared
    (admitted.1.worker i) (agrees.worker i) admitted.2).agrees
  others _ i event agrees admitted j other := by
    obtain ⟨holds, timely⟩ := admitted
    have rely := (advance_sane staleAfter calls event holds.shared (holds.worker i)).rely
      holds.shared (holds.worker i) (Ne.symm other)
    have fair := advance_fair staleAfter calls event holds.shared (holds.worker i)
      (agrees.worker i) timely
    exact (agrees.worker j).stable (holds.worker j) rely fair.settles
  outside _ change := change.elim
  undisturbed _ change := change.elim

theorem outcomes_agree
    (timely : ∀ n act, acts[n]? = some act → Timely (after staleAfter calls acts n) act) (n : Nat) :
    (after staleAfter calls acts n).Holds (fun _ => True) fun i => Agrees i := by
  apply outcomes_outline.holds
  · exact ⟨trivial, fun i => trivial⟩
  · exact fun n act present => ⟨inferences_hold staleAfter calls acts n, timely n act present⟩

theorem outcomes_settle
    (timely : ∀ n act, acts[n]? = some act → Timely (after staleAfter calls acts n) act)
    {n m : Nat} (le : n ≤ m) :
    Settles (after staleAfter calls acts n).shared.cell.committed
      (after staleAfter calls acts m).shared.cell.committed := by
  refine (monotone_iff _ _ acts fun before next : Inferences ι =>
    Settles before.shared.cell.committed next.shared.cell.committed) ?refl ?trans |>.mpr ?step n m le
  case refl => exact fun _ => .refl _
  case trans => exact fun _ _ _ => .trans
  case step =>
    intro n act present
    have holds := inferences_hold staleAfter calls acts n
    cases act with
    | own i event =>
        exact (advance_fair staleAfter calls event holds.shared (holds.worker i)
          ((outcomes_agree timely n).worker i) (timely n _ present)).settles
    | outside change => exact change.elim

theorem reached_of_outcome
    (timely : ∀ n act, acts[n]? = some act → Timely (after staleAfter calls acts n) act) {n : Nat}
    {i : ι} {outcome : Outcome}
    (told : ((after staleAfter calls acts n).phase i).outcome = some outcome) :
    outcome.status.terminal = true ∧
      Reached (after staleAfter calls acts n).shared.cell.committed outcome := by
  have agrees := (outcomes_agree timely n).worker i
  generalize (after staleAfter calls acts n).phase i = phase at told agrees
  cases phase with
  | finished _ answer => exact agrees outcome told
  | ready | inserting _ | selecting _ | closing _ _ | deciding _ _ | marking _ | marked _
  | executing _ | completing _ _ | completed _ _ | failing _ _ | failed _ _ => cases told

theorem outcomes_final
    (timely : ∀ n act, acts[n]? = some act → Timely (after staleAfter calls acts n) act) :
    Final staleAfter calls acts where
  row _ _ le := outcomes_settle timely le
  callers n m i j outcome outcome' told told' := by
    obtain ⟨terminal, reached⟩ := reached_of_outcome timely told
    obtain ⟨terminal', reached'⟩ := reached_of_outcome timely told'
    have first := (outcomes_settle timely (Nat.le_max_left n m)).reached reached terminal
    have second := (outcomes_settle timely (Nat.le_max_right n m)).reached reached' terminal'
    obtain ⟨own, committed, rfl⟩ := first
    obtain ⟨own', committed', rfl⟩ := second
    rw [committed] at committed'
    obtain rfl := Option.some.inj committed'
    rfl

end

/-! A worker executes for longer than the time after which its row is stale. The next call finds the
row stale, marks it failed and raises; then the worker commits its result, which the call after that
replays. -/

def slowCalls (i : Fin 3) : Call :=
  { requestHash := "5f2d", candidate := ["01HA", "01HB", "01HC"].getD i "" }

def inTimeHistory : List (Act (Fin 3) Event Empty) :=
  List.replicate 6 (.own 0 (.proceeds 0)) ++ [.own 0 (.returns [])] ++
    List.replicate 2 (.own 0 (.proceeds 2)) ++ List.replicate 5 (.own 2 (.proceeds 303))

def slowHistory : List (Act (Fin 3) Event Empty) :=
  List.replicate 6 (.own 0 (.proceeds 0)) ++ List.replicate 5 (.own 1 (.proceeds 301)) ++
    [.own 0 (.returns [])] ++ List.replicate 2 (.own 0 (.proceeds 302)) ++
    List.replicate 5 (.own 2 (.proceeds 303))

theorem inTime_final : Final 300 slowCalls inTimeHistory := by
  have timely : ∀ k : Fin inTimeHistory.length,
      Timely (after 300 slowCalls inTimeHistory k) inTimeHistory[k] := by decide +kernel
  apply outcomes_final
  intro n act present
  obtain ⟨lt, rfl⟩ := List.getElem?_eq_some_iff.mp present
  exact timely ⟨n, lt⟩

/-- One call is told that the key has failed, and the other its result. -/
theorem stale_failure_overwritten : ¬ Final 300 slowCalls slowHistory := by
  intro final
  have same := final.callers 11 19 1 2
    { status := .failed, resultJson := none, failureReason := some staleFailureReason }
    (completedWith (responseDump "01HA" [])) rfl rfl
  cases congrArg Outcome.status same

end SyndicateClaw.Inference
