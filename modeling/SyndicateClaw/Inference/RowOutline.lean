import SyndicateClaw.Inference.Idempotency

/-! What holds of the row of a key and of every call with it, through whole histories. -/

namespace SyndicateClaw.Inference

open Async Authz

/-! ### What holds throughout -/

def Same (row row' : Envelope) : Prop :=
  row'.requestHash = row.requestHash ∧ row'.inferenceId = row.inferenceId

def Envelope.Sound (row : Envelope) : Prop :=
  row.status ≠ .timedOut ∧ (row.status = .completed → row.hasResult = true)

section

variable {ι : Type}

/-- What may be written: a sound row, with the hash and the identifier of the committed one. -/
def Extends (desk : Desk ι) (row : Option Envelope) : Prop :=
  ∃ new, row = some new ∧ new.Sound ∧
    ∀ own, desk.cell.committed = some own → Same own new

structure Stored (desk : Desk ι) : Prop where
  sound : ∀ row, desk.cell.committed = some row → row.Sound
  unclaimed : desk.cell.committed = none → desk.creator = none
  dirty : ∀ i row, desk.cell.dirty = some (i, row) → Extends desk row

def Bound (call : Call) (desk : Desk ι) (inferenceId : String) : Prop :=
  ∃ own, desk.cell.committed = some own ∧ own.requestHash = call.requestHash ∧
    own.inferenceId = inferenceId

def Answer.Fits (call : Call) (desk : Desk ι) : Bool → Answer → Prop
  | entered, .result inferenceId _ | entered, .executionError inferenceId _ =>
      entered = true ∧ Bound call desk inferenceId
  | entered, .replay row =>
      entered = false ∧ Bound call desk row.inferenceId ∧ row.status = .completed ∧
        row.hasResult = true
  | entered, .storedFailure row | entered, .inProgress row | entered, .terminalKey row =>
      entered = false ∧ Bound call desk row.inferenceId
  | entered, .conflict =>
      entered = false ∧ ∃ own, desk.cell.committed = some own ∧ own.requestHash ≠ call.requestHash
  | entered, .broken => entered = true → ∃ inferenceId, Bound call desk inferenceId

def Asserts (call : Call) (i : ι) (desk : Desk ι) : Phase → Prop
  | .ready => ¬ desk.cell.Holding i
  | .inserting _ => desk.cell.Holding i → desk.cell.committed ≠ none
  | .selecting _ => desk.cell.committed ≠ none
  | .closing row isNew => desk.cell.dirty = some (i, some row) ∧
      (isNew = true ↔ desk.cell.committed = none) ∧ row.requestHash = call.requestHash
  | .deciding row isNew => ¬ desk.cell.Holding i ∧ row.Sound ∧ Bound call desk row.inferenceId ∧
      (isNew = true → desk.creator = some i)
  | .marking inferenceId | .executing inferenceId | .failing inferenceId _ =>
      ¬ desk.cell.Holding i ∧ Bound call desk inferenceId ∧ desk.creator = some i
  | .completing inferenceId dump => ¬ desk.cell.Holding i ∧ Bound call desk inferenceId ∧
      desk.creator = some i ∧ dump ≠ []
  | .marked inferenceId | .completed inferenceId _ | .failed inferenceId _ =>
      Bound call desk inferenceId ∧ desk.creator = some i
  | .finished entered answer => ¬ desk.cell.Holding i ∧ (entered = true → desk.creator = some i) ∧
      answer.Fits call desk entered

/-- What every step leaves: the hash and the identifier of the row, and its creator. -/
structure Keeps (desk desk' : Desk ι) : Prop where
  bound : ∀ own, desk.cell.committed = some own →
    ∃ own', desk'.cell.committed = some own' ∧ Same own own'
  creator : ∀ k, desk.creator = some k → desk'.creator = some k

/-- What the steps of the others leave to a call. -/
structure Rely (i : ι) (desk desk' : Desk ι) : Prop extends Keeps desk desk' where
  spares : desk.cell.Holding i → desk'.cell = desk.cell
  idle : ¬ desk.cell.Holding i → ¬ desk'.cell.Holding i

variable {call : Call} {i : ι} {desk desk' : Desk ι}

theorem Bound.stable {inferenceId : String} (bound : Bound call desk inferenceId)
    (kept : ∀ own, desk.cell.committed = some own →
      ∃ own', desk'.cell.committed = some own' ∧ Same own own') :
    Bound call desk' inferenceId := by
  obtain ⟨own, committed, hash, same⟩ := bound
  obtain ⟨own', committed', hash', same'⟩ := kept own committed
  exact ⟨own', committed', hash'.trans hash, same'.trans same⟩

theorem Answer.Fits.stable {entered : Bool} {answer : Answer} (fits : answer.Fits call desk entered)
    (kept : ∀ own, desk.cell.committed = some own →
      ∃ own', desk'.cell.committed = some own' ∧ Same own own') :
    answer.Fits call desk' entered := by
  cases answer with
  | result _ _ | executionError _ _ => exact ⟨fits.1, fits.2.stable kept⟩
  | replay _ => exact ⟨fits.1, fits.2.1.stable kept, fits.2.2⟩
  | storedFailure _ | inProgress _ | terminalKey _ => exact ⟨fits.1, fits.2.stable kept⟩
  | conflict =>
      obtain ⟨first, own, committed, other⟩ := fits
      obtain ⟨own', committed', hash, -⟩ := kept own committed
      exact ⟨first, own', committed', fun same => other (hash ▸ same)⟩
  | broken =>
      intro entered
      obtain ⟨inferenceId, bound⟩ := fits entered
      exact ⟨inferenceId, bound.stable kept⟩

theorem Asserts.stable {phase : Phase} (asserts : Asserts call i desk phase)
    (rely : Rely i desk desk') : Asserts call i desk' phase := by
  have some (present : desk.cell.committed ≠ none) : desk'.cell.committed ≠ none := by
    obtain ⟨own, committed⟩ := Option.ne_none_iff_exists'.mp present
    obtain ⟨own', committed', -⟩ := rely.bound own committed
    rw [committed']
    exact nofun
  cases phase with
  | ready => exact rely.idle asserts
  | inserting now =>
      intro holding
      by_cases before : desk.cell.Holding i
      · exact some (asserts before)
      · exact absurd holding (rely.idle before)
  | selecting now => exact some asserts
  | closing row isNew =>
      have same := rely.spares ⟨_, asserts.1⟩
      unfold Asserts
      rw [same]
      exact asserts
  | deciding row isNew =>
      obtain ⟨idle, sound, bound, creator⟩ := asserts
      exact ⟨rely.idle idle, sound, bound.stable rely.bound, fun new => rely.creator i (creator new)⟩
  | marking inferenceId | executing inferenceId | failing inferenceId error =>
      obtain ⟨idle, bound, creator⟩ := asserts
      exact ⟨rely.idle idle, bound.stable rely.bound, rely.creator i creator⟩
  | completing inferenceId dump =>
      obtain ⟨idle, bound, creator, some⟩ := asserts
      exact ⟨rely.idle idle, bound.stable rely.bound, rely.creator i creator, some⟩
  | marked inferenceId | completed inferenceId dump | failed inferenceId error =>
      obtain ⟨bound, creator⟩ := asserts
      exact ⟨bound.stable rely.bound, rely.creator i creator⟩
  | finished entered answer =>
      obtain ⟨idle, creator, fits⟩ := asserts
      exact ⟨rely.idle idle, fun new => rely.creator i (creator new), fits.stable rely.bound⟩

end

/-! ### Single steps -/

section

variable {ι : Type} [DecidableEq ι] {call : Call} {i : ι} {desk : Desk ι}

theorem updateEnvelope_cases {matching : Envelope → Bool} {change : Envelope → Envelope}
    {cell cell' : Cell ι (Option Envelope)}
    (updated : updateEnvelope i matching change cell = some cell') :
    (cell' = cell ∧ ∀ row, cell.committed = some row → matching row = false) ∨
      ∃ row, cell.committed = some row ∧ matching row = true ∧ cell.blocked i = false ∧
        cell' = cell.write i (some (change row)) := by
  unfold updateEnvelope at updated
  cases committed : cell.committed with
  | none =>
      rw [committed] at updated
      exact .inl ⟨(Option.some.inj updated).symm, nofun⟩
  | some row =>
      rw [committed] at updated
      dsimp only at updated
      split at updated
      · next unmatched =>
          refine .inl ⟨(Option.some.inj updated).symm, fun own same => ?_⟩
          obtain rfl := Option.some.inj same
          simpa using unmatched
      · next matched =>
          split at updated
          · cases updated
          · next free =>
              exact .inr ⟨row, rfl, by simpa using matched, by simpa using free,
                (Option.some.inj updated).symm⟩

/-- A step of a call: what it does to the row, who is its creator, and what the call may assert
afterwards. -/
structure Sane (call : Call) (i : ι) (desk : Desk ι) (phase : Phase) (next : Desk ι × Phase) :
    Prop where
  effect : Cell.Effect (Extends desk) i desk.cell next.1.cell
  creator : next.1.creator = desk.creator ∨
    (∃ row, phase = .closing row true) ∧ next.1.cell.committed ≠ none
  asserts : Asserts call i next.1 next.2

theorem Stored.seen (stored : Stored desk) {row : Envelope} (seen : desk.cell.seen i = some row) :
    row.Sound ∧ ∀ own, desk.cell.committed = some own → Same own row := by
  by_cases holding : desk.cell.Holding i
  · obtain ⟨held, dirty⟩ := holding
    rw [Cell.seen_of_dirty dirty] at seen
    subst seen
    obtain ⟨new, same, sound, extends_⟩ := stored.dirty i _ dirty
    obtain rfl := Option.some.inj same
    exact ⟨sound, extends_⟩
  · rw [Cell.seen_of_not_holding holding] at seen
    refine ⟨stored.sound row seen, fun own committed => ?_⟩
    rw [seen] at committed
    obtain rfl := Option.some.inj committed
    exact ⟨rfl, rfl⟩

theorem Stored.unseen (stored : Stored desk) (unseen : desk.cell.seen i = none) :
    ¬ desk.cell.Holding i ∧ desk.cell.committed = none := by
  have idle : ¬ desk.cell.Holding i := by
    rintro ⟨row, dirty⟩
    obtain ⟨new, same, -⟩ := stored.dirty i row dirty
    rw [Cell.seen_of_dirty dirty, same] at unseen
    cases unseen
  rw [Cell.seen_of_not_holding idle] at unseen
  exact ⟨idle, unseen⟩

theorem sane_nothing {phase phase' : Phase} (asserts : Asserts call i desk phase') :
    Sane call i desk phase (desk, phase') :=
  ⟨.nothing, .inl rfl, asserts⟩

theorem sane_abort {phase : Phase} {entered : Bool} {answer : Answer}
    (creator : entered = true → desk.creator = some i) (fits : answer.Fits call desk entered) :
    Sane call i desk phase (desk.abort i entered answer) := by
  refine ⟨.rollback, .inl rfl, Cell.not_holding_rollback, creator, fits.stable fun own committed => ?_⟩
  exact ⟨own, Cell.rollback_committed.trans committed, rfl, rfl⟩

theorem sane_rollback {phase : Phase} {inferenceId : String} (error : ExecutionError)
    (bound : Bound call desk inferenceId) (creator : desk.creator = some i) :
    Sane call i desk phase (desk.rollback i, .failing inferenceId error) := by
  refine ⟨.rollback, .inl rfl, Cell.not_holding_rollback, bound.stable fun own committed => ?_, creator⟩
  exact ⟨own, Cell.rollback_committed.trans committed, rfl, rfl⟩

theorem Stored.commit (stored : Stored desk) {own : Envelope}
    (committed : desk.cell.committed = some own) :
    ∃ own', (desk.cell.commit i).committed = some own' ∧ Same own own' := by
  have effect : Cell.Effect (Extends desk) i desk.cell (desk.cell.commit i) := .commit
  rcases effect.committed with same | dirty
  · exact ⟨own, same.trans committed, rfl, rfl⟩
  · obtain ⟨new, same, -, extends_⟩ := stored.dirty i _ dirty
    exact ⟨new, same, extends_ own committed⟩

theorem sane_commit (stored : Stored desk) {phase phase' : Phase}
    (asserts : ∀ desk' : Desk ι, ¬ desk'.cell.Holding i → desk'.creator = desk.creator →
      (∀ own, desk.cell.committed = some own →
        ∃ own', desk'.cell.committed = some own' ∧ Same own own') → Asserts call i desk' phase') :
    Sane call i desk phase (desk.commit i, phase') :=
  ⟨.commit, .inl rfl, asserts _ Cell.not_holding_commit rfl fun _ => stored.commit⟩

theorem sane_update (stored : Stored desk) {inferenceId : String} {phase waits goes : Phase}
    {matching : Envelope → Bool} {change : Envelope → Envelope}
    (keeps : ∀ row : Envelope, row.Sound → (change row).Sound ∧ Same row (change row))
    (bound : Bound call desk inferenceId) (stays : Asserts call i desk waits)
    (asserts : ∀ desk' : Desk ι, desk'.creator = desk.creator → Bound call desk' inferenceId →
      Asserts call i desk' goes) :
    Sane call i desk phase (updateStep i desk matching change waits goes) := by
  unfold updateStep
  cases updated : updateEnvelope i matching change desk.cell with
  | none => exact sane_nothing stays
  | some cell =>
      rcases updateEnvelope_cases updated with ⟨rfl, -⟩ | ⟨row, committed, -, free, rfl⟩
      · exact ⟨.nothing, .inl rfl, asserts _ rfl bound⟩
      · obtain ⟨sound, same⟩ := keeps row (stored.sound row committed)
        refine ⟨.write _ free ⟨_, rfl, sound, fun own present => ?_⟩, .inl rfl, asserts _ rfl bound⟩
        rw [committed] at present
        obtain rfl := Option.some.inj present
        exact same

theorem sane_sweep (idle : ¬ desk.cell.Holding i) (staleAfter now : Time) :
    Sane call i desk .ready (sweepStale staleAfter i now desk) := by
  unfold sweepStale
  cases updated : updateEnvelope i (fun row => row.stale (now - staleAfter))
      (fun row => row.sweep now) desk.cell with
  | none => exact sane_nothing idle
  | some cell =>
      rcases updateEnvelope_cases updated with ⟨rfl, -⟩ | ⟨row, committed, -, free, rfl⟩
      · exact ⟨.nothing, .inl rfl, fun holding => absurd holding idle⟩
      · refine ⟨.write _ free ⟨_, rfl, ⟨nofun, nofun⟩, fun own present => ?_⟩, .inl rfl, fun _ => ?_⟩
        · rw [committed] at present
          obtain rfl := Option.some.inj present
          exact ⟨rfl, rfl⟩
        · show desk.cell.committed ≠ none
          rw [committed]
          exact nofun

theorem sane_insert (stored : Stored desk) (now later : Time)
    (begun : desk.cell.Holding i → desk.cell.committed ≠ none) :
    Sane call i desk (.inserting now) (insertEnvelope call i now later desk) := by
  unfold insertEnvelope
  cases seen : desk.cell.seen i with
  | some row =>
      refine sane_nothing ?_
      by_cases holding : desk.cell.Holding i
      · exact begun holding
      · show desk.cell.committed ≠ none
        rw [← Cell.seen_of_not_holding holding, seen]
        exact nofun
  | none =>
      dsimp only
      by_cases blocked : desk.cell.blocked i = true
      · rw [if_pos blocked]
        exact sane_nothing begun
      · rw [if_neg blocked]
        obtain ⟨-, absent⟩ := stored.unseen seen
        refine ⟨.write _ (by simpa using blocked) ⟨_, rfl, ⟨nofun, nofun⟩, ?_⟩, .inl rfl, rfl, ?_, rfl⟩
        · intro own committed
          rw [absent] at committed
          cases committed
        · exact ⟨fun _ => absent, fun _ => rfl⟩

omit [DecidableEq ι] in
theorem touch_keeps (row : Envelope) (now later : Time) (sound : row.Sound) :
    (row.touch now later).Sound ∧ Same row (row.touch now later) := by
  unfold Envelope.touch
  split
  · exact ⟨sound, rfl, rfl⟩
  · exact ⟨sound, rfl, rfl⟩

theorem sane_select (stored : Stored desk) (now later : Time) (present : desk.cell.committed ≠ none) :
    Sane call i desk (.selecting now) (selectEnvelope call i now later desk) := by
  unfold selectEnvelope
  by_cases blocked : desk.cell.blocked i = true
  · rw [if_pos blocked]
    exact sane_nothing present
  · rw [if_neg blocked]
    cases seen : desk.cell.seen i with
    | none => exact sane_abort nofun nofun
    | some row =>
        obtain ⟨sound, same⟩ := stored.seen seen
        dsimp only
        by_cases other : row.requestHash ≠ call.requestHash
        · rw [if_pos other]
          obtain ⟨own, committed⟩ := Option.ne_none_iff_exists'.mp present
          refine sane_abort nofun ⟨rfl, own, committed, ?_⟩
          rwa [← (same own committed).1]
        · rw [if_neg other]
          obtain ⟨kept, touched⟩ := touch_keeps row now later sound
          refine ⟨.write _ (by simpa using blocked) ⟨_, rfl, kept, fun own committed => ?_⟩, .inl rfl,
            rfl, ⟨nofun, fun none => absurd none present⟩, touched.1.trans (not_not.mp other)⟩
          obtain ⟨hash, inferenceId⟩ := same own committed
          exact ⟨touched.1.trans hash, touched.2.trans inferenceId⟩

theorem sane_close (stored : Stored desk) {row : Envelope} {isNew : Bool}
    (dirty : desk.cell.dirty = some (i, some row)) (hash : row.requestHash = call.requestHash)
    {phase' : Phase}
    (asserts : ∀ desk' : Desk ι, ¬ desk'.cell.Holding i → row.Sound →
      Bound call desk' row.inferenceId → (isNew = true → desk'.creator = some i) →
      Asserts call i desk' phase') :
    Sane call i desk (.closing row isNew) (closeAcquire i isNew desk, phase') := by
  have committed : (desk.cell.commit i).committed = some row := by rw [Cell.commit_of_dirty dirty]
  obtain ⟨new, same, sound, -⟩ := stored.dirty i _ dirty
  obtain rfl := Option.some.inj same
  refine ⟨.commit, ?_, asserts _ Cell.not_holding_commit sound ⟨row, committed, hash, rfl⟩ ?_⟩
  · cases isNew with
    | false => exact .inl rfl
    | true =>
        refine .inr ⟨⟨row, rfl⟩, ?_⟩
        show (desk.cell.commit i).committed ≠ none
        rw [committed]
        exact nofun
  · rintro rfl
    rfl

omit [DecidableEq ι] in
theorem asserts_begin {row : Envelope} {isNew : Bool} (idle : ¬ desk.cell.Holding i)
    (sound : row.Sound) (bound : Bound call desk row.inferenceId)
    (creator : isNew = true → desk.creator = some i) :
    Asserts call i desk (idempotencyBegin row isNew) := by
  unfold idempotencyBegin
  cases isNew with
  | true => exact ⟨idle, bound, creator rfl⟩
  | false =>
      obtain ⟨inTime, result⟩ := sound
      cases status : row.status with
      | pending | executing => exact ⟨idle, nofun, rfl, bound⟩
      | completed =>
          simp only [result status, decide_true, Bool.and_self, if_true, Bool.false_eq_true, if_false]
          split
          · exact ⟨idle, nofun, rfl, bound⟩
          · exact ⟨idle, nofun, rfl, bound, status, result status⟩
      | failed =>
          simp only [EnvelopeStatus.inProgress, reduceCtorEq, decide_false, Bool.false_and,
            Bool.or_self, Bool.false_eq_true, if_false, if_true]
          split <;> exact ⟨idle, nofun, rfl, bound⟩
      | timedOut => exact absurd status inTime

theorem advance_sane (staleAfter : Time) (calls : ι → Call) (event : Event) (stored : Stored desk)
    {phase : Phase} (asserts : Asserts (calls i) i desk phase) :
    Sane (calls i) i desk phase (advance staleAfter calls i event desk phase) := by
  cases phase with
  | ready =>
      cases event with
      | proceeds now => exact sane_sweep asserts staleAfter now
      | fails _ | dies => exact sane_abort nofun nofun
      | loses _ | returns _ => exact sane_nothing asserts
  | inserting now =>
      cases event with
      | proceeds later => exact sane_insert stored now later asserts
      | fails _ | dies => exact sane_abort nofun nofun
      | loses _ | returns _ => exact sane_nothing asserts
  | selecting now =>
      cases event with
      | proceeds later => exact sane_select stored now later asserts
      | fails _ | dies => exact sane_abort nofun nofun
      | loses _ | returns _ => exact sane_nothing asserts
  | closing row isNew =>
      have kept := asserts
      obtain ⟨dirty, -, hash⟩ := asserts
      cases event with
      | proceeds _ =>
          exact sane_close stored dirty hash fun _ idle sound bound creator =>
            ⟨idle, sound, bound, creator⟩
      | loses _ => exact sane_close stored dirty hash fun _ idle _ _ _ => ⟨idle, nofun, nofun⟩
      | fails _ | dies => exact sane_abort nofun nofun
      | returns _ => exact sane_nothing kept
  | deciding row isNew =>
      cases event with
      | proceeds _ =>
          obtain ⟨idle, sound, bound, creator⟩ := asserts
          exact sane_nothing (asserts_begin idle sound bound creator)
      | fails _ | dies => exact sane_abort nofun nofun
      | loses _ | returns _ => exact sane_nothing asserts
  | marking inferenceId =>
      have kept := asserts
      obtain ⟨idle, bound, creator⟩ := asserts
      cases event with
      | proceeds now =>
          refine sane_update stored (fun row _ => ⟨⟨nofun, nofun⟩, rfl, rfl⟩) bound kept ?_
          intro desk' same bound
          exact ⟨bound, same.trans creator⟩
      | fails _ | dies => exact sane_abort nofun nofun
      | loses _ | returns _ => exact sane_nothing kept
  | marked inferenceId =>
      have kept := asserts
      obtain ⟨bound, creator⟩ := asserts
      cases event with
      | proceeds _ =>
          refine sane_commit stored fun desk' idle same keeps => ?_
          exact ⟨idle, bound.stable keeps, same.trans creator⟩
      | loses _ => exact sane_commit stored fun desk' idle _ _ => ⟨idle, nofun, nofun⟩
      | fails _ | dies => exact sane_abort nofun nofun
      | returns _ => exact sane_nothing kept
  | executing inferenceId =>
      have kept := asserts
      obtain ⟨idle, bound, creator⟩ := asserts
      cases event with
      | returns fields => exact sane_nothing ⟨idle, bound, creator, nofun⟩
      | fails error => exact sane_nothing ⟨idle, bound, creator⟩
      | dies => exact sane_abort (fun _ => creator) fun _ => ⟨inferenceId, bound⟩
      | proceeds _ | loses _ => exact sane_nothing kept
  | completing inferenceId dump =>
      have kept := asserts
      obtain ⟨idle, bound, creator, some⟩ := asserts
      cases event with
      | proceeds now =>
          have result : (!dump.isEmpty) = true := by simpa using some
          refine sane_update stored (fun row _ => ⟨⟨nofun, fun _ => result⟩, rfl, rfl⟩) bound kept ?_
          intro desk' same bound
          exact ⟨bound, same.trans creator⟩
      | fails error => exact sane_rollback error bound creator
      | dies => exact sane_abort (fun _ => creator) fun _ => ⟨inferenceId, bound⟩
      | loses _ | returns _ => exact sane_nothing kept
  | completed inferenceId dump =>
      have kept := asserts
      obtain ⟨bound, creator⟩ := asserts
      cases event with
      | proceeds _ =>
          refine sane_commit stored fun desk' idle same keeps => ?_
          exact ⟨idle, fun _ => same.trans creator, rfl, bound.stable keeps⟩
      | loses error =>
          refine sane_commit stored fun desk' idle same keeps => ?_
          exact ⟨idle, bound.stable keeps, same.trans creator⟩
      | fails error => exact sane_rollback error bound creator
      | dies => exact sane_abort (fun _ => creator) fun _ => ⟨inferenceId, bound⟩
      | returns _ => exact sane_nothing kept
  | failing inferenceId error =>
      have kept := asserts
      obtain ⟨idle, bound, creator⟩ := asserts
      cases event with
      | proceeds now =>
          refine sane_update stored (fun row _ => ⟨⟨nofun, nofun⟩, rfl, rfl⟩) bound kept ?_
          intro desk' same bound
          exact ⟨bound, same.trans creator⟩
      | fails _ | dies => exact sane_abort (fun _ => creator) fun _ => ⟨inferenceId, bound⟩
      | loses _ | returns _ => exact sane_nothing kept
  | failed inferenceId error =>
      have kept := asserts
      obtain ⟨bound, creator⟩ := asserts
      cases event with
      | proceeds _ =>
          refine sane_commit stored fun desk' idle same keeps => ?_
          exact ⟨idle, fun _ => same.trans creator, rfl, bound.stable keeps⟩
      | loses _ =>
          refine sane_commit stored fun desk' idle same keeps => ?_
          exact ⟨idle, fun _ => same.trans creator, fun _ => ⟨inferenceId, bound.stable keeps⟩⟩
      | fails _ | dies => exact sane_abort (fun _ => creator) fun _ => ⟨inferenceId, bound⟩
      | returns _ => exact sane_nothing kept
  | finished entered answer => cases event <;> exact sane_nothing asserts

/-! ### Whole histories -/

theorem Sane.keeps {phase : Phase} {next : Desk ι × Phase} (sane : Sane call i desk phase next)
    (stored : Stored desk) (asserts : Asserts call i desk phase) : Keeps desk next.1 where
  bound own committed := by
    rcases sane.effect.committed with same | dirty
    · exact ⟨own, same.trans committed, rfl, rfl⟩
    · obtain ⟨new, same, -, extends_⟩ := stored.dirty i _ dirty
      exact ⟨new, same, extends_ own committed⟩
  creator k claimed := by
    rcases sane.creator with same | ⟨⟨row, rfl⟩, -⟩
    · exact same.trans claimed
    · have none := stored.unclaimed (asserts.2.1.mp rfl)
      rw [none] at claimed
      cases claimed

theorem Sane.rely {phase : Phase} {next : Desk ι × Phase} (sane : Sane call i desk phase next)
    (stored : Stored desk) (asserts : Asserts call i desk phase) {j : ι} (other : i ≠ j) :
    Rely j desk next.1 where
  toKeeps := sane.keeps stored asserts
  spares holding := sane.effect.spares holding other
  idle idle := sane.effect.idle idle other

theorem Sane.stored {phase : Phase} {next : Desk ι × Phase} (sane : Sane call i desk phase next)
    (stored : Stored desk) : Stored next.1 where
  sound row committed := by
    rcases sane.effect.committed with same | dirty
    · exact stored.sound row (same.symm.trans committed)
    · obtain ⟨new, same, sound, -⟩ := stored.dirty i _ dirty
      rw [committed] at same
      obtain rfl := Option.some.inj same
      exact sound
  unclaimed none := by
    rcases sane.creator with creator | ⟨-, some⟩
    · rcases sane.effect.committed with same | dirty
      · exact creator.trans (stored.unclaimed (same.symm.trans none))
      · obtain ⟨new, same, -⟩ := stored.dirty i _ dirty
        rw [none] at same
        cases same
    · exact absurd none some
  dirty j row dirty := by
    obtain ⟨same, before | may⟩ := sane.effect.dirty dirty
    · obtain ⟨new, rfl, sound, extends_⟩ := stored.dirty j row before
      exact ⟨new, rfl, sound, fun own committed => extends_ own (same.symm.trans committed)⟩
    · obtain ⟨new, rfl, sound, extends_⟩ := may
      exact ⟨new, rfl, sound, fun own committed => extends_ own (same.symm.trans committed)⟩

theorem inferences_outline (staleAfter : Time) (calls : ι → Call) :
    Outline (advance staleAfter calls) (fun change : Empty => change.elim) (fun _ _ => True) Stored
      (fun i => Asserts (calls i) i) where
  kept _ i event holds _ := (advance_sane staleAfter calls event holds.shared (holds.worker i)).stored
    holds.shared
  own _ i event holds _ := (advance_sane staleAfter calls event holds.shared (holds.worker i)).asserts
  others _ i event holds _ j other := (holds.worker j).stable
    ((advance_sane staleAfter calls event holds.shared (holds.worker i)).rely holds.shared
      (holds.worker i) (Ne.symm other))
  outside _ change := change.elim
  undisturbed _ change := change.elim

theorem inferences_hold (staleAfter : Time) (calls : ι → Call) (acts : List (Act ι Event Empty))
    (n : Nat) : (after staleAfter calls acts n).Holds Stored fun i => Asserts (calls i) i := by
  apply (inferences_outline staleAfter calls).holds
  · constructor
    · exact ⟨nofun, fun _ => rfl, nofun⟩
    · exact fun i => nofun
  · exact fun _ _ _ => trivial

theorem desk_kept (staleAfter : Time) (calls : ι → Call) (acts : List (Act ι Event Empty))
    {n m : Nat} (le : n ≤ m) :
    Keeps (after staleAfter calls acts n).shared (after staleAfter calls acts m).shared := by
  refine (monotone_iff _ _ acts fun crew crew' : Inferences ι => Keeps crew.shared crew'.shared)
    ?refl ?trans |>.mpr ?step n m le
  case refl => exact fun crew => ⟨fun own committed => ⟨own, committed, rfl, rfl⟩, fun _ => id⟩
  case trans =>
    intro a b c first second
    constructor
    · intro own committed
      obtain ⟨own', committed', hash, inferenceId⟩ := first.bound own committed
      obtain ⟨own'', committed'', hash', inferenceId'⟩ := second.bound own' committed'
      exact ⟨own'', committed'', hash'.trans hash, inferenceId'.trans inferenceId⟩
    · exact fun k claimed => second.creator k (first.creator k claimed)
  case step =>
    intro n act present
    have holds := inferences_hold staleAfter calls acts n
    cases act with
    | own i event =>
        exact (advance_sane staleAfter calls event holds.shared (holds.worker i)).keeps
          holds.shared (holds.worker i)
    | outside change => exact change.elim

end

end SyndicateClaw.Inference
