import SyndicateClaw.Inference.RowOutline

/-! At most one call with a key executes, and the others answer from the row that it inserted. -/

namespace SyndicateClaw.Inference

open Async Authz

/-! ### What is seen of a call -/

/-- It is or was in `_infer_chat_execute`. -/
def Phase.entered : Phase → Bool
  | .executing _ | .completing _ _ | .completed _ _ | .failing _ _ | .failed _ _ => true
  | .finished entered _ => entered
  | _ => false

def Phase.acquiring : Phase → Bool
  | .ready | .inserting _ | .selecting _ => true
  | _ => false

def Answer.inferenceId : Answer → Option String
  | .result inferenceId _ | .executionError inferenceId _ => some inferenceId
  | .replay row | .storedFailure row | .inProgress row | .terminalKey row => some row.inferenceId
  | .conflict | .broken => none

/-- The identifier a call works with, from the commit of `acquire` on. -/
def Phase.inferenceId : Phase → Option String
  | .deciding row _ => some row.inferenceId
  | .marking inferenceId | .marked inferenceId | .executing inferenceId
  | .completing inferenceId _ | .completed inferenceId _ | .failing inferenceId _
  | .failed inferenceId _ => some inferenceId
  | .finished _ answer => answer.inferenceId
  | _ => none

def Answer.row : Answer → Option Envelope
  | .replay row | .storedFailure row | .inProgress row | .terminalKey row => some row
  | _ => none

def Phase.row : Phase → Option Envelope
  | .deciding row _ => some row
  | .finished _ answer => answer.row
  | _ => none

def Event.disturbs : Event → Bool
  | .fails _ | .loses _ | .dies => true
  | .proceeds _ | .returns _ => false

/-- How a call goes on. -/
inductive Follows (event : Event) : Phase → Phase → Prop where
  | stays (phase : Phase) : Follows event phase phase
  | acquires {phase next : Phase} (before : phase.acquiring = true) (after : next.acquiring = true) :
      Follows event phase next
  | closes {phase : Phase} (before : phase.acquiring = true) (row : Envelope) (isNew : Bool) :
      Follows event phase (.closing row isNew)
  | conflicts {phase : Phase} (before : phase.acquiring = true) :
      Follows event phase (.finished false .conflict)
  | decides (row : Envelope) (isNew : Bool) : Follows event (.closing row isNew) (.deciding row isNew)
  | begins (row : Envelope) (isNew : Bool) :
      Follows event (.deciding row isNew) (idempotencyBegin row isNew)
  | marks (inferenceId : String) : Follows event (.marking inferenceId) (.marked inferenceId)
  | enters (inferenceId : String) : Follows event (.marked inferenceId) (.executing inferenceId)
  | executes {phase next : Phase} {inferenceId : String} (before : phase.entered = true)
      (after : next.entered = true) (own : next.inferenceId = some inferenceId)
      (noRow : next.row = none) : Follows event phase next
  | breaks (phase : Phase) (disturbs : event.disturbs = true) :
      Follows event phase (.finished phase.entered .broken)

section

variable {ι : Type} [DecidableEq ι] {call : Call} {i : ι} {desk : Desk ι}

theorem updateStep_phase (i : ι) (desk : Desk ι) (matching : Envelope → Bool) (change : Envelope → Envelope)
    (waits goes : Phase) :
    (updateStep i desk matching change waits goes).2 = waits ∨
      (updateStep i desk matching change waits goes).2 = goes := by
  unfold updateStep
  cases updateEnvelope i matching change desk.cell with
  | none => exact .inl rfl
  | some cell => exact .inr rfl

theorem sweepStale_follows (event : Event) (staleAfter now : Time) :
    Follows event .ready (sweepStale staleAfter i now desk).2 := by
  unfold sweepStale
  cases updateEnvelope i (fun row => row.stale (now - staleAfter)) (fun row => row.sweep now)
      desk.cell with
  | none => exact .stays _
  | some cell => exact .acquires rfl rfl

theorem insertEnvelope_follows (event : Event) (now later : Time) :
    Follows event (.inserting now) (insertEnvelope call i now later desk).2 := by
  unfold insertEnvelope
  cases desk.cell.seen i with
  | some row => exact .acquires rfl rfl
  | none =>
      dsimp only
      split
      · exact .stays _
      · exact .closes rfl _ _

/-- There is a row to select, so `scalar_one` does not raise. -/
theorem selectEnvelope_follows (event : Event) (stored : Stored desk) (now later : Time)
    (present : desk.cell.committed ≠ none) :
    Follows event (.selecting now) (selectEnvelope call i now later desk).2 := by
  unfold selectEnvelope
  split
  · exact .stays _
  · cases seen : desk.cell.seen i with
    | some row =>
        dsimp only
        split
        · exact .conflicts rfl
        · exact .closes rfl _ _
    | none => exact absurd (stored.unseen seen).2 present

theorem updateStep_follows (event : Event) {phase : Phase} {inferenceId : String}
    (matching : Envelope → Bool) (change : Envelope → Envelope) {goes : Phase}
    (before : phase.entered = true) (after : goes.entered = true)
    (own : goes.inferenceId = some inferenceId) (noRow : goes.row = none) :
    Follows event phase (updateStep i desk matching change phase goes).2 := by
  rcases updateStep_phase i desk matching change phase goes with same | same
  · rw [same]
    exact .stays _
  · rw [same]
    exact .executes before after own noRow

theorem advance_follows (staleAfter : Time) (calls : ι → Call) (event : Event)
    (stored : Stored desk) {phase : Phase} (asserts : Asserts (calls i) i desk phase) :
    Follows event phase (advance staleAfter calls i event desk phase).2 := by
  cases phase with
  | ready =>
      cases event with
      | proceeds now => exact sweepStale_follows _ staleAfter now
      | fails _ | dies => exact .breaks _ rfl
      | loses _ | returns _ => exact .stays _
  | inserting now =>
      cases event with
      | proceeds later => exact insertEnvelope_follows _ now later
      | fails _ | dies => exact .breaks _ rfl
      | loses _ | returns _ => exact .stays _
  | selecting now =>
      cases event with
      | proceeds later => exact selectEnvelope_follows _ stored now later asserts
      | fails _ | dies => exact .breaks _ rfl
      | loses _ | returns _ => exact .stays _
  | closing row isNew =>
      cases event with
      | proceeds _ => exact .decides row isNew
      | loses _ | fails _ | dies => exact .breaks _ rfl
      | returns _ => exact .stays _
  | deciding row isNew =>
      cases event with
      | proceeds _ => exact .begins row isNew
      | fails _ | dies => exact .breaks _ rfl
      | loses _ | returns _ => exact .stays _
  | marking inferenceId =>
      cases event with
      | proceeds now =>
          rcases updateStep_phase i desk _ _ _ _ with same | same
          · exact same ▸ .stays _
          · exact same ▸ .marks inferenceId
      | fails _ | dies => exact .breaks _ rfl
      | loses _ | returns _ => exact .stays _
  | marked inferenceId =>
      cases event with
      | proceeds _ => exact .enters inferenceId
      | loses _ | fails _ | dies => exact .breaks _ rfl
      | returns _ => exact .stays _
  | executing inferenceId =>
      cases event with
      | returns _ | fails _ => exact .executes rfl rfl rfl rfl
      | dies => exact .breaks _ rfl
      | proceeds _ | loses _ => exact .stays _
  | completing inferenceId dump =>
      cases event with
      | proceeds _ => exact updateStep_follows _ _ _ rfl rfl rfl rfl
      | fails _ => exact .executes rfl rfl rfl rfl
      | dies => exact .breaks _ rfl
      | loses _ | returns _ => exact .stays _
  | completed inferenceId dump =>
      cases event with
      | proceeds _ | loses _ | fails _ => exact .executes rfl rfl rfl rfl
      | dies => exact .breaks _ rfl
      | returns _ => exact .stays _
  | failing inferenceId error =>
      cases event with
      | proceeds _ => exact updateStep_follows _ _ _ rfl rfl rfl rfl
      | fails _ | dies => exact .breaks _ rfl
      | loses _ | returns _ => exact .stays _
  | failed inferenceId error =>
      cases event with
      | proceeds _ => exact .executes rfl rfl rfl rfl
      | loses _ | fails _ | dies => exact .breaks _ rfl
      | returns _ => exact .stays _
  | finished entered answer => cases event <;> exact .stays _

theorem updateEnvelope_free {cell : Cell ι (Option Envelope)} {own : Envelope}
    (committed : cell.committed = some own) (free : cell.dirty = none) (i : ι)
    (matching : Envelope → Bool) (change : Envelope → Envelope) :
    updateEnvelope i matching change cell =
      some (if matching own then cell.write i (some (change own)) else cell) := by
  have unblocked : cell.blocked i = false := Cell.blocked_eq_false.mpr (.inl free)
  unfold updateEnvelope
  rw [committed, unblocked]
  dsimp only
  cases matching own with
  | true => rfl
  | false => rfl

theorem sweepStale_free {desk : Desk ι} {row : Envelope}
    (committed : desk.cell.committed = some row) (free : desk.cell.dirty = none) (i : ι)
    (staleAfter now : Time) :
    ∃ cell, sweepStale staleAfter i now desk = ({ desk with cell }, .inserting now) ∧
      cell.committed = some row ∧ cell.blocked i = false ∧
      cell.seen i = some (if row.stale (now - staleAfter) then row.sweep now else row) := by
  unfold sweepStale
  rw [updateEnvelope_free committed free]
  by_cases stale : row.stale (now - staleAfter) = true
  · rw [if_pos stale, if_pos stale]
    exact ⟨_, rfl, committed, Cell.blocked_eq_false.mpr (.inr ⟨_, rfl⟩), Cell.seen_of_dirty rfl⟩
  · rw [if_neg stale, if_neg stale]
    have idle : ¬ desk.cell.Holding i := by
      intro holding
      obtain ⟨held, dirty⟩ := holding
      rw [free] at dirty
      cases dirty
    exact ⟨_, rfl, committed, Cell.blocked_eq_false.mpr (.inl free),
      (Cell.seen_of_not_holding idle).trans committed⟩

omit [DecidableEq ι] in
theorem begin_cases (row : Envelope) (isNew : Bool) :
    idempotencyBegin row isNew = .marking row.inferenceId ∨
      ∃ answer, idempotencyBegin row isNew = .finished false answer ∧ answer.row = some row := by
  unfold idempotencyBegin
  split
  · exact .inl rfl
  · split
    · split
      · exact .inr ⟨_, rfl, rfl⟩
      · exact .inr ⟨_, rfl, rfl⟩
    · split
      · exact .inr ⟨_, rfl, rfl⟩
      · split
        · split
          · exact .inr ⟨_, rfl, rfl⟩
          · exact .inr ⟨_, rfl, rfl⟩
        · exact .inl rfl

theorem Phase.entered_of_acquiring {phase : Phase} (acquiring : phase.acquiring = true) :
    phase.entered = false := by
  cases phase <;> first | rfl | cases acquiring

theorem Phase.row_of_acquiring {phase : Phase} (acquiring : phase.acquiring = true) :
    phase.row = none := by
  cases phase <;> first | rfl | cases acquiring

namespace Follows

variable {event : Event} {phase next : Phase}

theorem entered (follows : Follows event phase next) (before : phase.entered = true) :
    next.entered = true := by
  cases follows with
  | stays _ => exact before
  | acquires acquiring _ | closes acquiring _ _ | conflicts acquiring =>
      rw [Phase.entered_of_acquiring acquiring] at before
      cases before
  | decides _ _ | begins _ _ | marks _ | enters _ => cases before
  | executes _ after _ _ => exact after
  | breaks _ _ => exact before

/-- An answer is from the row that `acquire` committed. -/
theorem row {own : Envelope} (follows : Follows event phase next) (after : next.row = some own) :
    phase.row = some own ∨ ∃ isNew, phase = .closing own isNew ∧ next = .deciding own isNew := by
  cases follows with
  | stays _ => exact .inl after
  | acquires _ acquiring =>
      rw [Phase.row_of_acquiring acquiring] at after
      cases after
  | decides row isNew =>
      obtain rfl := Option.some.inj after
      exact .inr ⟨isNew, rfl, rfl⟩
  | begins row isNew =>
      rcases begin_cases row isNew with marks | ⟨answer, answers, same⟩
      · rw [marks] at after
        cases after
      · rw [answers] at after
        exact .inl (same.symm.trans after)
  | executes _ _ _ noRow =>
      rw [noRow] at after
      cases after
  | closes _ _ _ | conflicts _ | marks _ | enters _ | breaks _ _ => cases after

theorem broken {ended : Bool} (follows : Follows event phase (.finished ended .broken)) :
    phase = .finished ended .broken ∨ event.disturbs = true := by
  generalize same : Phase.finished ended .broken = next at follows
  cases follows with
  | stays _ => exact .inl rfl
  | acquires _ acquiring =>
      subst same
      cases acquiring
  | begins row isNew =>
      rcases begin_cases row isNew with marks | ⟨answer, answers, own⟩
      · rw [marks] at same
        cases same
      · rw [answers] at same
        cases same
        cases own
  | executes _ _ own _ =>
      subst same
      cases own
  | breaks _ disturbs => exact .inr disturbs
  | closes _ _ _ | conflicts _ | decides _ _ | marks _ | enters _ => cases same

end Follows

end

/-! ### Whole histories -/

section

variable {ι : Type} [DecidableEq ι] (staleAfter : Time) (calls : ι → Call)
  (acts : List (Act ι Event Empty))

/-- The call of `_infer_chat_execute`. -/
def Enters (n : Nat) (i : ι) : Prop :=
  ∃ inferenceId, (after staleAfter calls acts n).phase i = .marked inferenceId ∧
    (after staleAfter calls acts (n + 1)).phase i = .executing inferenceId

/-- Answers of a call that does not execute: errors, and what was in a row. -/
def Answer.FromStore (was : Envelope → Prop) : Answer → Prop
  | .replay row => was row ∧ row.status = .completed ∧ row.hasResult = true
  | .storedFailure row | .inProgress row | .terminalKey row => was row
  | .conflict | .broken => True
  | .result _ _ | .executionError _ _ => False

/-- What calls with one key can count on. -/
structure ExecutesOnce : Prop where
  once : ∀ n m i j, Enters staleAfter calls acts n i → Enters staleAfter calls acts m j →
    n = m ∧ i = j
  conflict : ∀ n i own, (after staleAfter calls acts n).shared.cell.committed = some own →
    own.requestHash ≠ (calls i).requestHash →
      ((after staleAfter calls acts n).phase i).acquiring = true ∨
        (after staleAfter calls acts n).phase i = .finished false .conflict ∨
        (after staleAfter calls acts n).phase i = .finished false .broken
  /-- It raises, once the row is free. -/
  raises : ∀ n i own, (after staleAfter calls acts n).shared.cell.committed = some own →
    own.requestHash ≠ (calls i).requestHash →
      (after staleAfter calls acts n).shared.cell.dirty = none →
      (after staleAfter calls acts n).phase i = .ready → ∀ first second third,
        ((after staleAfter calls acts n).run staleAfter calls
          [.own i (.proceeds first), .own i (.proceeds second), .own i (.proceeds third)] 3).phase i =
            .finished false .conflict
  broken : ∀ n i entered, (after staleAfter calls acts n).phase i = .finished entered .broken →
    ∃ k event, k < n ∧ acts[k]? = some (.own i event) ∧ event.disturbs = true
  others : ∀ n i answer, (after staleAfter calls acts n).phase i = .finished false answer →
    answer.FromStore fun row =>
      ∃ k, k ≤ n ∧ (after staleAfter calls acts k).shared.cell.committed = some row
  same : ∀ n m i j inferenceId inferenceId',
    ((after staleAfter calls acts n).phase i).inferenceId = some inferenceId →
      ((after staleAfter calls acts m).phase j).inferenceId = some inferenceId' →
        inferenceId = inferenceId'

theorem phase_follows (n : Nat) (i : ι) :
    (after staleAfter calls acts (n + 1)).phase i = (after staleAfter calls acts n).phase i ∨
      ∃ event, acts[n]? = some (.own i event) ∧
        (after staleAfter calls acts (n + 1)).shared =
          (advance staleAfter calls i event (after staleAfter calls acts n).shared
            ((after staleAfter calls acts n).phase i)).1 ∧
        (after staleAfter calls acts (n + 1)).phase i =
          (advance staleAfter calls i event (after staleAfter calls acts n).shared
            ((after staleAfter calls acts n).phase i)).2 := by
  cases present : acts[n]? with
  | none =>
      left
      unfold after Inferences.run Crew.after
      rw [stateAfter_succ_of_none _ _ acts present]
  | some act =>
      unfold after Inferences.run Crew.after
      rw [stateAfter_succ _ _ acts present]
      rcases Crew.step_phase (advance staleAfter calls) _ _ act i with same | ⟨event, own, step⟩
      · exact .inl same
      · exact .inr ⟨event, congrArg some own, step⟩

theorem phase_next (n : Nat) (i : ι) :
    ∃ event, Follows event ((after staleAfter calls acts n).phase i)
        ((after staleAfter calls acts (n + 1)).phase i) ∧
      (event.disturbs = true → acts[n]? = some (.own i event)) := by
  rcases phase_follows staleAfter calls acts n i with
    same | ⟨event, present, -, step⟩
  · rw [same]
    exact ⟨.returns [], .stays _, nofun⟩
  · have holds := inferences_hold staleAfter calls acts n
    rw [step]
    exact ⟨event, advance_follows staleAfter calls event holds.shared (holds.worker i),
      fun _ => present⟩

variable {staleAfter calls acts}

theorem entered_from {n m : Nat} (le : n ≤ m) {i : ι}
    (entered : ((after staleAfter calls acts n).phase i).entered = true) :
    ((after staleAfter calls acts m).phase i).entered = true := by
  induction m, le using Nat.le_induction with
  | base => exact entered
  | succ m _ ih =>
      obtain ⟨event, follows, -⟩ := phase_next staleAfter calls acts m i
      exact follows.entered ih

theorem creator_of_entered {n : Nat} {i : ι}
    (entered : ((after staleAfter calls acts n).phase i).entered = true) :
    (after staleAfter calls acts n).shared.creator = some i := by
  have asserts := (inferences_hold staleAfter calls acts n).worker i
  generalize (after staleAfter calls acts n).phase i = phase at entered asserts
  cases phase with
  | executing _ | failing _ _ => exact asserts.2.2
  | completing _ _ => exact asserts.2.2.1
  | completed _ _ | failed _ _ => exact asserts.2
  | finished _ _ => exact asserts.2.1 entered
  | ready | inserting _ | selecting _ | closing _ _ | deciding _ _ | marking _ | marked _ =>
      cases entered

theorem entered_of_enters {n : Nat} {i : ι} (enters : Enters staleAfter calls acts n i) :
    ((after staleAfter calls acts n).phase i).entered = false ∧
      ((after staleAfter calls acts (n + 1)).phase i).entered = true := by
  obtain ⟨inferenceId, before, next⟩ := enters
  rw [before, next]
  exact ⟨rfl, rfl⟩

theorem enters_le {n m : Nat} {i : ι} (first : Enters staleAfter calls acts n i)
    (second : Enters staleAfter calls acts m i) : m ≤ n := by
  by_contra later
  have entered := entered_from (by omega : n + 1 ≤ m) (entered_of_enters first).2
  rw [(entered_of_enters second).1] at entered
  cases entered

theorem enters_once {n m : Nat} {i j : ι} (first : Enters staleAfter calls acts n i)
    (second : Enters staleAfter calls acts m j) : n = m ∧ i = j := by
  have claimed := (desk_kept staleAfter calls acts (Nat.le_max_left (n + 1) (m + 1))).creator i
    (creator_of_entered (entered_of_enters first).2)
  have claimed' := (desk_kept staleAfter calls acts (Nat.le_max_right (n + 1) (m + 1))).creator j
    (creator_of_entered (entered_of_enters second).2)
  rw [claimed] at claimed'
  obtain rfl := Option.some.inj claimed'
  exact ⟨Nat.le_antisymm (enters_le second first) (enters_le first second), rfl⟩

theorem bound_of_inferenceId {n : Nat} {i : ι} {inferenceId : String}
    (own : ((after staleAfter calls acts n).phase i).inferenceId = some inferenceId) :
    Bound (calls i) (after staleAfter calls acts n).shared inferenceId := by
  have asserts := (inferences_hold staleAfter calls acts n).worker i
  generalize (after staleAfter calls acts n).phase i = phase at own asserts
  cases phase with
  | ready | inserting _ | selecting _ | closing _ _ => cases own
  | deciding row isNew =>
      obtain rfl := Option.some.inj own
      exact asserts.2.2.1
  | marking _ | executing _ | failing _ _ | completing _ _ =>
      obtain rfl := Option.some.inj own
      exact asserts.2.1
  | marked _ | completed _ _ | failed _ _ =>
      obtain rfl := Option.some.inj own
      exact asserts.1
  | finished entered answer =>
      obtain ⟨-, -, fits⟩ := asserts
      cases answer with
      | result _ _ | executionError _ _ | storedFailure _ | inProgress _ | terminalKey _ =>
          obtain rfl := Option.some.inj own
          exact fits.2
      | replay _ =>
          obtain rfl := Option.some.inj own
          exact fits.2.1
      | conflict | broken => cases own

theorem same_inferenceId {n m : Nat} {i j : ι} {inferenceId inferenceId' : String}
    (first : ((after staleAfter calls acts n).phase i).inferenceId = some inferenceId)
    (second : ((after staleAfter calls acts m).phase j).inferenceId = some inferenceId') :
    inferenceId = inferenceId' := by
  obtain ⟨own, committed, -, same⟩ := (bound_of_inferenceId first).stable
    (desk_kept staleAfter calls acts (Nat.le_max_left n m)).bound
  obtain ⟨own', committed', -, same'⟩ := (bound_of_inferenceId second).stable
    (desk_kept staleAfter calls acts (Nat.le_max_right n m)).bound
  rw [committed] at committed'
  obtain rfl := Option.some.inj committed'
  exact same.symm.trans same'

theorem conflict_of_other {n : Nat} {i : ι} {own : Envelope}
    (committed : (after staleAfter calls acts n).shared.cell.committed = some own)
    (other : own.requestHash ≠ (calls i).requestHash) :
    ((after staleAfter calls acts n).phase i).acquiring = true ∨
      (after staleAfter calls acts n).phase i = .finished false .conflict ∨
      (after staleAfter calls acts n).phase i = .finished false .broken := by
  have unbound : ((after staleAfter calls acts n).phase i).inferenceId = none := by
    by_contra bound
    obtain ⟨inferenceId, bound⟩ := Option.ne_none_iff_exists'.mp bound
    obtain ⟨own', committed', hash, -⟩ := bound_of_inferenceId bound
    rw [committed] at committed'
    obtain rfl := Option.some.inj committed'
    exact other hash
  have holds := inferences_hold staleAfter calls acts n
  have asserts := holds.worker i
  generalize (after staleAfter calls acts n).phase i = phase at unbound asserts
  cases phase with
  | ready | inserting _ | selecting _ => exact .inl rfl
  | closing row isNew =>
      obtain ⟨dirty, -, hash⟩ := asserts
      obtain ⟨new, same, -, extends_⟩ := holds.shared.dirty i _ dirty
      obtain rfl := Option.some.inj same
      exact absurd ((extends_ own committed).1.symm.trans hash) other
  | deciding _ _ | marking _ | marked _ | executing _ | completing _ _ | completed _ _
  | failing _ _ | failed _ _ => cases unbound
  | finished entered answer =>
      obtain ⟨-, -, fits⟩ := asserts
      cases answer with
      | result _ _ | executionError _ _ | replay _ | storedFailure _ | inProgress _
      | terminalKey _ => cases unbound
      | conflict =>
          obtain ⟨rfl, -⟩ := fits
          exact .inr (.inl rfl)
      | broken =>
          cases entered with
          | false => exact .inr (.inr rfl)
          | true =>
              obtain ⟨inferenceId, own', committed', hash, -⟩ := fits rfl
              rw [committed] at committed'
              obtain rfl := Option.some.inj committed'
              exact absurd hash other

theorem disturbed_of_broken {n : Nat} {i : ι} {entered : Bool}
    (broken : (after staleAfter calls acts n).phase i = .finished entered .broken) :
    ∃ k event, k < n ∧ acts[k]? = some (.own i event) ∧ event.disturbs = true := by
  induction n with
  | zero => cases broken
  | succ n ih =>
      obtain ⟨event, follows, present⟩ := phase_next staleAfter calls acts n i
      rw [broken] at follows
      rcases follows.broken with before | disturbs
      · obtain ⟨k, event, earlier, own⟩ := ih before
        exact ⟨k, event, by omega, own⟩
      · exact ⟨n, event, by omega, present disturbs, disturbs⟩

theorem committed_of_row {n : Nat} {i : ι} {row : Envelope}
    (own : ((after staleAfter calls acts n).phase i).row = some row) :
    ∃ k, k ≤ n ∧ (after staleAfter calls acts k).shared.cell.committed = some row := by
  induction n with
  | zero => cases own
  | succ n ih =>
      have earlier (before : ((after staleAfter calls acts n).phase i).row = some row) :
          ∃ k, k ≤ n + 1 ∧ (after staleAfter calls acts k).shared.cell.committed = some row := by
        obtain ⟨k, le, committed⟩ := ih before
        exact ⟨k, by omega, committed⟩
      rcases phase_follows staleAfter calls acts n i with
        same | ⟨event, -, shared, step⟩
      · rw [same] at own
        exact earlier own
      · have holds := inferences_hold staleAfter calls acts n
        have follows := advance_follows staleAfter calls event holds.shared (holds.worker i)
        rw [step] at own
        rcases follows.row own with before | ⟨isNew, closing, deciding⟩
        · exact earlier before
        · refine ⟨n + 1, le_rfl, ?_⟩
          have asserts := holds.worker i
          rw [closing] at deciding asserts shared
          rw [shared]
          cases event with
          | proceeds _ =>
              show ((after staleAfter calls acts n).shared.cell.commit i).committed = some row
              rw [Cell.commit_of_dirty asserts.1]
          | fails _ | loses _ | returns _ | dies => cases deciding

theorem answer_fromStore {n : Nat} {i : ι} {answer : Answer}
    (finished : (after staleAfter calls acts n).phase i = .finished false answer) :
    answer.FromStore fun row =>
      ∃ k, k ≤ n ∧ (after staleAfter calls acts k).shared.cell.committed = some row := by
  have asserts := (inferences_hold staleAfter calls acts n).worker i
  have was (row : Envelope) (own : answer.row = some row) :
      ∃ k, k ≤ n ∧ (after staleAfter calls acts k).shared.cell.committed = some row := by
    apply committed_of_row (i := i)
    rw [finished]
    exact own
  rw [finished] at asserts
  obtain ⟨-, -, fits⟩ := asserts
  cases answer with
  | result _ _ | executionError _ _ => cases fits.1
  | replay row => exact ⟨was row rfl, fits.2.2⟩
  | storedFailure row | inProgress row | terminalKey row => exact was row rfl
  | conflict | broken => trivial

theorem conflict_raised {crew : Inferences ι} {i : ι} {own : Envelope}
    (committed : crew.shared.cell.committed = some own)
    (other : own.requestHash ≠ (calls i).requestHash) (free : crew.shared.cell.dirty = none)
    (ready : crew.phase i = .ready) (first second third : Time) :
    (crew.run staleAfter calls
      [.own i (.proceeds first), .own i (.proceeds second), .own i (.proceeds third)] 3).phase i =
        .finished false .conflict := by
  obtain ⟨cell, sweeps, -, unblocked, seen⟩ := sweepStale_free committed free i staleAfter first
  let desk : Desk ι := { crew.shared with cell }
  have swept : advance staleAfter calls i (.proceeds first) crew.shared (crew.phase i) =
      (desk, .inserting first) := by
    rw [ready, ← sweeps]
    rfl
  have inserted : advance staleAfter calls i (.proceeds second) desk (.inserting first) =
      (desk, .selecting first) := by
    show insertEnvelope _ _ _ _ _ = _
    unfold insertEnvelope
    rw [seen]
  have selected : (advance staleAfter calls i (.proceeds third) desk (.selecting first)).2 =
      .finished false .conflict := by
    show (selectEnvelope _ _ _ _ _).2 = _
    unfold selectEnvelope
    rw [unblocked, seen]
    dsimp only
    rw [if_neg (by decide), if_pos (by split <;> exact other)]
    rfl
  simp only [Inferences.run, Crew.after, stateAfter, List.take_succ_cons, List.take_zero,
    List.foldl_cons, List.foldl_nil, Crew.step, Function.update_self, swept, inserted, selected]

end

section

variable {ι : Type} [DecidableEq ι]

theorem executes_once (staleAfter : Time) (calls : ι → Call) (acts : List (Act ι Event Empty)) :
    ExecutesOnce staleAfter calls acts where
  once _ _ _ _ first second := enters_once first second
  conflict _ _ _ committed other := conflict_of_other committed other
  raises _ _ _ committed other free ready := conflict_raised committed other free ready
  broken _ _ _ broken := disturbed_of_broken broken
  others _ _ _ finished := answer_fromStore finished
  same _ _ _ _ _ _ first second := same_inferenceId first second

end

end SyndicateClaw.Inference
