import Mathlib.Logic.Function.Basic

/-! Transactions over one row at READ COMMITTED.

A transaction reads the last committed row and decides from it alone. Its write takes the row
lock, sets the columns it changed over the row committed by then, and is seen by the others
when it commits. -/

namespace SyndicateClaw.Async.ReadCommitted

/-- What a transaction does with the row it has read: nothing, a write that it takes back, or
a write that it commits. -/
inductive Answer (ρ ε : Type) where
  | leaves (why : ε)
  | undoes (row : ρ) (why : ε)
  | writes (row : ρ)

/-- The stored row when a transaction is over that nobody else has interfered with. -/
def Answer.stored {ρ ε : Type} (row : ρ) : Answer ρ ε → ρ
  | .leaves _ => row
  | .undoes _ _ => row
  | .writes new => new

inductive Phase (ρ : Type) where
  | waiting
  | holding (seen : ρ)
  | flushed (commits : Bool)
  | ended
  | committed (reported : Bool)

/-- `dirty` is the uncommitted row, with the transaction that holds the lock. -/
structure Shared (ι ρ : Type) where
  committed : ρ
  dirty : Option (ι × ρ)
  phase : ι → Phase ρ

def Shared.start {ι ρ : Type} (row : ρ) : Shared ι ρ :=
  { committed := row, dirty := none, phase := fun _ => .waiting }

section

variable {ι ρ : Type} {s : Shared ι ρ}

def HasCommitted (s : Shared ι ρ) (i : ι) : Prop := ∃ reported, s.phase i = .committed reported

def Locked (s : Shared ι ρ) : Prop :=
  ∀ i commits, s.phase i = .flushed commits → ∃ dirty, s.dirty = some (i, dirty)

theorem Locked.unique (locked : Locked s) {i j : ι} {commits : Bool} {dirty : ρ}
    (here : s.phase j = .flushed commits) (held : s.dirty = some (i, dirty)) : j = i := by
  obtain ⟨dirty', held'⟩ := locked j commits here
  rw [held, Option.some.injEq, Prod.mk.injEq] at held'
  exact held'.1.symm

theorem Locked.free (locked : Locked s) (free : s.dirty = none) (j : ι) (commits : Bool) :
    s.phase j ≠ .flushed commits := by
  intro here
  obtain ⟨dirty, held⟩ := locked j commits here
  rw [free] at held
  cases held

end

section

variable {ι ρ ε : Type} [DecidableEq ι]

def Shared.enter (s : Shared ι ρ) (i : ι) (next : Phase ρ) : Shared ι ρ :=
  { s with phase := Function.update s.phase i next }

@[simp] theorem Shared.enter_self (s : Shared ι ρ) (i : ι) (next : Phase ρ) :
    (s.enter i next).phase i = next := by
  simp only [enter, Function.update_self]

theorem Shared.enter_ne (s : Shared ι ρ) {i j : ι} (other : j ≠ i) (next : Phase ρ) :
    (s.enter i next).phase j = s.phase j := by
  simp only [enter, Function.update_of_ne other]

@[simp] theorem Shared.enter_committed (s : Shared ι ρ) (i : ι) (next : Phase ρ) :
    (s.enter i next).committed = s.committed := rfl

@[simp] theorem Shared.enter_dirty (s : Shared ι ρ) (i : ι) (next : Phase ρ) :
    (s.enter i next).dirty = s.dirty := rfl

variable (answer : ι → ρ → Answer ρ ε) (save : ρ → ρ → ρ → ρ)

/-- `save seen new current` sets the columns in which `new` differs from `seen`. -/
inductive Step : Shared ι ρ → Shared ι ρ → Prop where
  | read {s : Shared ι ρ} {i : ι} : s.phase i = .waiting →
      Step s (s.enter i (.holding s.committed))
  | leave {s : Shared ι ρ} {i : ι} {seen : ρ} : s.phase i = .holding seen →
      Step s (s.enter i .ended)
  | flush {s : Shared ι ρ} {i : ι} {seen new : ρ} : s.phase i = .holding seen →
      answer i seen = .writes new → s.dirty = none →
      Step s ({ s with dirty := some (i, save seen new s.committed) }.enter i (.flushed true))
  | trial {s : Shared ι ρ} {i : ι} {seen new : ρ} {why : ε} : s.phase i = .holding seen →
      answer i seen = .undoes new why → s.dirty = none →
      Step s ({ s with dirty := some (i, save seen new s.committed) }.enter i (.flushed false))
  | commit {s : Shared ι ρ} {i : ι} {row : ρ} (reported : Bool) : s.phase i = .flushed true →
      s.dirty = some (i, row) →
      Step s ({ s with committed := row, dirty := none }.enter i (.committed reported))
  | rollback {s : Shared ι ρ} {i : ι} {commits : Bool} : s.phase i = .flushed commits →
      Step s ({ s with dirty := none }.enter i .ended)

/-- A write that is to be committed is made while the committed row is fresh. -/
def WritesFresh (fresh : ρ → Prop) (s s' : Shared ι ρ) : Prop :=
  ∀ i, s'.phase i = .flushed true → s.phase i ≠ .flushed true → fresh s.committed

/-- The states that runs from `row` reach, if all their steps are allowed. -/
inductive Reaches (allowed : Shared ι ρ → Shared ι ρ → Prop) (row : ρ) : Shared ι ρ → Prop where
  | start : Reaches allowed row (.start row)
  | step {s s' : Shared ι ρ} : Reaches allowed row s → Step answer save s s' → allowed s s' →
      Reaches allowed row s'

/-- Nobody has committed: all have seen the first row, and what is to be committed is made
of it. -/
structure Untouched (row : ρ) (s : Shared ι ρ) : Prop where
  committed : s.committed = row
  nobody : ∀ i, ¬ HasCommitted s i
  seen : ∀ i seen, s.phase i = .holding seen → seen = row
  intended : ∀ i, s.phase i = .flushed true → ∃ new, answer i row = .writes new ∧
    s.dirty = some (i, save row new row)

/-- One transaction has committed what it makes of the first row, and nobody else is about to. -/
structure Won (row : ρ) (s : Shared ι ρ) (i : ι) (new : ρ) : Prop where
  writes : answer i row = .writes new
  committed : s.committed = save row new row
  only : ∀ j, HasCommitted s j → j = i
  nobody : ∀ j, s.phase j ≠ .flushed true

variable {answer save} {fresh : ρ → Prop} {row : ρ} {s s' : Shared ι ρ}

theorem enter_eq {i j : ι} {next phase : Phase ρ} (here : (s.enter i next).phase j = phase)
    (other : next ≠ phase) : j ≠ i ∧ s.phase j = phase := by
  by_cases own : j = i
  · subst own
    rw [Shared.enter_self] at here
    exact absurd here other
  · exact ⟨own, (Shared.enter_ne s own next).symm.trans here⟩

theorem Locked.write (locked : Locked s) (free : s.dirty = none) (i : ι) (dirty : ρ)
    (commits : Bool) :
    Locked ({ s with dirty := some (i, dirty) }.enter i (.flushed commits)) := by
  intro j commits' here
  by_cases own : j = i
  · subst own
    exact ⟨dirty, rfl⟩
  · rw [Shared.enter_ne _ own] at here
    exact absurd here (locked.free free j commits')

theorem Locked.step (locked : Locked s) (step : Step answer save s s') : Locked s' := by
  cases step with
  | read => exact fun j commits here => locked j commits (enter_eq here nofun).2
  | leave => exact fun j commits here => locked j commits (enter_eq here nofun).2
  | flush _ _ free => exact locked.write free _ _ true
  | trial _ _ free => exact locked.write free _ _ false
  | commit reported _ held =>
      intro j commits here
      obtain ⟨other, before⟩ := enter_eq here nofun
      exact absurd (locked.unique before held) other
  | rollback written =>
      intro j commits here
      obtain ⟨other, before⟩ := enter_eq here nofun
      obtain ⟨dirty, held⟩ := locked _ _ written
      exact absurd (locked.unique before held) other

theorem hasCommitted_enter {i j : ι} {next : Phase ρ} (here : HasCommitted (s.enter i next) j)
    (other : ∀ reported, next ≠ .committed reported) : HasCommitted s j := by
  obtain ⟨reported, phase⟩ := here
  exact ⟨reported, (enter_eq phase (other reported)).2⟩

theorem Untouched.enter (before : Untouched answer save row s) {t : Shared ι ρ} {i : ι}
    {next : Phase ρ} (same : t.committed = s.committed) (phases : t.phase = s.phase)
    (open_ : ∀ reported, next ≠ .committed reported)
    (seen : ∀ seen, next = .holding seen → seen = row)
    (intended : ∀ j, (t.enter i next).phase j = .flushed true →
      ∃ new, answer j row = .writes new ∧ t.dirty = some (j, save row new row)) :
    Untouched answer save row (t.enter i next) := by
  refine ⟨same.trans before.committed, fun j here => ?_, fun j read here => ?_, intended⟩
  · obtain ⟨reported, phase⟩ := hasCommitted_enter here open_
    exact before.nobody j ⟨reported, phases ▸ phase⟩
  · by_cases own : j = i
    · subst own
      rw [Shared.enter_self] at here
      exact seen read here
    · rw [Shared.enter_ne t own, phases] at here
      exact before.seen j read here

theorem Untouched.step (before : Untouched answer save row s) (locked : Locked s)
    (step : Step answer save s s') :
    Untouched answer save row s' ∨ ∃ i new, Won answer save row s' i new := by
  cases step with
  | read waiting =>
      refine .inl (before.enter rfl rfl nofun (fun seen same => ?_) fun j here => ?_)
      · cases same
        exact before.committed
      · exact before.intended j (enter_eq here nofun).2
  | leave holding =>
      refine .inl (before.enter rfl rfl nofun nofun fun j here => ?_)
      exact before.intended j (enter_eq here nofun).2
  | @flush i seen new holding writes free =>
      refine .inl (before.enter rfl rfl nofun nofun fun j here => ?_)
      by_cases own : j = i
      · subst own
        obtain rfl := before.seen j seen holding
        exact ⟨new, writes, by rw [before.committed]⟩
      · rw [Shared.enter_ne _ own] at here
        exact absurd here (locked.free free j true)
  | trial holding undoes free =>
      refine .inl (before.enter rfl rfl nofun nofun fun j here => ?_)
      exact absurd (enter_eq here nofun).2 (locked.free free j true)
  | @commit i dirty reported written held =>
      obtain ⟨new, writes, held'⟩ := before.intended i written
      rw [held, Option.some.injEq, Prod.mk.injEq] at held'
      refine .inr ⟨i, new, writes, held'.2, fun j here => ?_, fun j here => ?_⟩
      · obtain ⟨reported', phase⟩ := here
        by_contra other
        rw [Shared.enter_ne _ other] at phase
        exact before.nobody j ⟨reported', phase⟩
      · obtain ⟨other, written'⟩ := enter_eq here nofun
        exact other (locked.unique written' held)
  | rollback written =>
      refine .inl (before.enter rfl rfl nofun nofun fun j here => ?_)
      obtain ⟨other, written'⟩ := enter_eq here nofun
      obtain ⟨dirty, held⟩ := locked _ _ written
      exact absurd (locked.unique written' held) other

theorem Won.step {i : ι} {new : ρ} (won : Won answer save row s i new)
    (stale : ¬ fresh (save row new row)) (step : Step answer save s s')
    (writes : WritesFresh fresh s s') : Won answer save row s' i new := by
  have nobody : ∀ j, s'.phase j ≠ .flushed true := by
    intro j here
    exact stale (won.committed ▸ writes j here (won.nobody j))
  cases step with
  | read => exact ⟨won.writes, won.committed, fun j here => won.only j
      (hasCommitted_enter here nofun), nobody⟩
  | leave => exact ⟨won.writes, won.committed, fun j here => won.only j
      (hasCommitted_enter here nofun), nobody⟩
  | @flush i => exact absurd (Shared.enter_self _ i _) (nobody i)
  | trial => exact ⟨won.writes, won.committed, fun j here => won.only j
      (hasCommitted_enter here nofun), nobody⟩
  | @commit i _ _ written => exact absurd written (won.nobody i)
  | rollback => exact ⟨won.writes, won.committed, fun j here => won.only j
      (hasCommitted_enter here nofun), nobody⟩

theorem serial_of_reaches
    (stales : ∀ i new, answer i row = .writes new → ¬ fresh (save row new row))
    (reaches : Reaches answer save (WritesFresh fresh) row s) :
    Untouched answer save row s ∨ ∃ i new, Won answer save row s i new := by
  suffices both : Locked s ∧
      (Untouched answer save row s ∨ ∃ i new, Won answer save row s i new) from both.2
  induction reaches with
  | start =>
      refine ⟨nofun, .inl ⟨rfl, fun i committed => ?_, nofun, nofun⟩⟩
      obtain ⟨reported, phase⟩ := committed
      cases phase
  | step _ step writes ih =>
      refine ⟨ih.1.step step, ?_⟩
      rcases ih.2 with untouched | ⟨i, new, won⟩
      · exact untouched.step ih.1 step
      · exact .inr ⟨i, new, won.step (stales i new won.writes) step writes⟩

end

end SyndicateClaw.Async.ReadCommitted
