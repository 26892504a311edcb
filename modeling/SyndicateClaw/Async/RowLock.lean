import Mathlib.Data.Option.Basic

/-! A row behind a lock.

A transaction takes the lock when it writes, and holds it until it commits or is rolled back. The
others see the committed row, and wait where they would write. -/

namespace SyndicateClaw.Async

/-- `dirty` is the uncommitted row, with the transaction that holds the lock. -/
structure Cell (ι ρ : Type) where
  committed : ρ
  dirty : Option (ι × ρ)

section

variable {ι ρ : Type}

def Cell.Holding (cell : Cell ι ρ) (i : ι) : Prop := ∃ row, cell.dirty = some (i, row)

variable [DecidableEq ι]

def Cell.blocked (cell : Cell ι ρ) (i : ι) : Bool := cell.dirty.any fun held => held.1 ≠ i

def Cell.seen (cell : Cell ι ρ) (i : ι) : ρ :=
  match cell.dirty with
  | some (j, row) => if j = i then row else cell.committed
  | none => cell.committed

def Cell.write (cell : Cell ι ρ) (i : ι) (row : ρ) : Cell ι ρ := { cell with dirty := some (i, row) }

def Cell.commit (cell : Cell ι ρ) (i : ι) : Cell ι ρ :=
  match cell.dirty with
  | some (j, row) => if j = i then { committed := row, dirty := none } else cell
  | none => cell

def Cell.rollback (cell : Cell ι ρ) (i : ι) : Cell ι ρ :=
  if cell.blocked i then cell else { cell with dirty := none }

variable {cell : Cell ι ρ} {i j : ι} {row : ρ}

omit [DecidableEq ι] in
@[simp] theorem Cell.write_committed : (cell.write i row).committed = cell.committed := rfl

omit [DecidableEq ι] in
@[simp] theorem Cell.write_dirty : (cell.write i row).dirty = some (i, row) := rfl

theorem Cell.blocked_eq_false : cell.blocked i = false ↔
    cell.dirty = none ∨ ∃ row, cell.dirty = some (i, row) := by
  unfold blocked
  cases dirty : cell.dirty with
  | none => simp
  | some held =>
      obtain ⟨j, row⟩ := held
      simp

theorem Cell.blocked_of_holding (holding : cell.Holding i) (other : j ≠ i) :
    cell.blocked j = true := by
  obtain ⟨row, dirty⟩ := holding
  unfold blocked
  rw [dirty]
  simpa using other.symm

theorem Cell.commit_of_dirty (dirty : cell.dirty = some (i, row)) :
    cell.commit i = { committed := row, dirty := none } := by
  unfold commit
  rw [dirty]
  exact if_pos rfl

theorem Cell.commit_of_not_holding (idle : ¬ cell.Holding i) : cell.commit i = cell := by
  unfold commit
  split
  · next other row dirty =>
      refine if_neg ?_
      rintro rfl
      exact idle ⟨row, dirty⟩
  · rfl

@[simp] theorem Cell.rollback_committed : (cell.rollback i).committed = cell.committed := by
  unfold rollback
  split <;> rfl

theorem Cell.rollback_of_free (free : cell.blocked i = false) :
    cell.rollback i = { committed := cell.committed, dirty := none } := by
  unfold rollback
  rw [if_neg (by simpa using free)]

theorem Cell.seen_of_dirty (dirty : cell.dirty = some (i, row)) : cell.seen i = row := by
  unfold seen
  rw [dirty]
  exact if_pos rfl

theorem Cell.seen_of_not_holding (idle : ¬ cell.Holding i) : cell.seen i = cell.committed := by
  unfold seen
  split
  · next other row dirty =>
      refine if_neg ?_
      rintro rfl
      exact idle ⟨row, dirty⟩
  · rfl

theorem Cell.not_holding_commit : ¬ (cell.commit i).Holding i := by
  by_cases holding : cell.Holding i
  · obtain ⟨row, dirty⟩ := holding
    rw [commit_of_dirty dirty]
    exact nofun
  · rwa [commit_of_not_holding holding]

theorem Cell.not_holding_rollback : ¬ (cell.rollback i).Holding i := by
  unfold rollback
  split
  · next blocked =>
      rintro ⟨row, dirty⟩
      rw [blocked_eq_false.mpr (.inr ⟨row, dirty⟩)] at blocked
      cases blocked
  · exact nofun

/-- What a transaction does to the row in one step, if it writes only what is allowed. -/
inductive Cell.Effect (allowed : ρ → Prop) (i : ι) (cell : Cell ι ρ) : Cell ι ρ → Prop where
  | nothing : Effect allowed i cell cell
  | write (row : ρ) (free : cell.blocked i = false) (may : allowed row) :
      Effect allowed i cell (cell.write i row)
  | commit : Effect allowed i cell (cell.commit i)
  | rollback : Effect allowed i cell (cell.rollback i)

namespace Cell.Effect

variable {allowed : ρ → Prop} {cell' : Cell ι ρ}

theorem spares (effect : Effect allowed i cell cell') (holding : cell.Holding j) (other : i ≠ j) :
    cell' = cell := by
  have blocked := blocked_of_holding holding other
  cases effect with
  | nothing => rfl
  | write row free _ =>
      rw [blocked] at free
      cases free
  | commit =>
      refine commit_of_not_holding ?_
      rintro ⟨row, dirty⟩
      rw [blocked_eq_false.mpr (.inr ⟨row, dirty⟩)] at blocked
      cases blocked
  | rollback => exact if_pos blocked

theorem idle (effect : Effect allowed i cell cell') (idle : ¬ cell.Holding j) (other : i ≠ j) :
    ¬ cell'.Holding j := by
  cases effect with
  | nothing => exact idle
  | write row _ _ =>
      rintro ⟨row', dirty⟩
      exact other (Prod.mk.inj (Option.some.inj dirty)).1
  | commit =>
      by_cases holding : cell.Holding i
      · obtain ⟨row, dirty⟩ := holding
        rw [commit_of_dirty dirty]
        exact nofun
      · rwa [commit_of_not_holding holding]
  | rollback =>
      unfold Cell.rollback
      split
      · exact idle
      · exact nofun

theorem committed (effect : Effect allowed i cell cell') :
    cell'.committed = cell.committed ∨ cell.dirty = some (i, cell'.committed) := by
  cases effect with
  | nothing => exact .inl rfl
  | write row _ _ => exact .inl rfl
  | commit =>
      by_cases holding : cell.Holding i
      · obtain ⟨row, dirty⟩ := holding
        rw [commit_of_dirty dirty]
        exact .inr dirty
      · rw [commit_of_not_holding holding]
        exact .inl rfl
  | rollback => exact .inl rollback_committed

theorem dirty (effect : Effect allowed i cell cell') {row : ρ} (dirty : cell'.dirty = some (j, row)) :
    cell'.committed = cell.committed ∧ (cell.dirty = some (j, row) ∨ allowed row) := by
  cases effect with
  | nothing => exact ⟨rfl, .inl dirty⟩
  | write row' _ may =>
      obtain ⟨-, rfl⟩ := Prod.mk.inj (Option.some.inj dirty)
      exact ⟨rfl, .inr may⟩
  | commit =>
      by_cases holding : cell.Holding i
      · obtain ⟨row', held⟩ := holding
        rw [commit_of_dirty held] at dirty
        cases dirty
      · rw [commit_of_not_holding holding] at dirty ⊢
        exact ⟨rfl, .inl dirty⟩
  | rollback =>
      refine ⟨rollback_committed, .inl ?_⟩
      unfold Cell.rollback at dirty
      split at dirty
      · exact dirty
      · cases dirty

end Cell.Effect

end

end SyndicateClaw.Async
