import Mathlib.Data.Bool.Basic
import Mathlib.Data.Nat.Find
import Mathlib.Logic.Function.Basic
import SyndicateClaw.Async.History

/-! Two edits of one row. Each reads the row, publishes a copy of what it makes of it, and writes
the columns that it has changed. -/

namespace SyndicateClaw.Async

variable {κ V : Type}

def patched (patch : κ → Option V) (row : κ → V) : κ → V := fun c => (patch c).getD (row c)

theorem patched_of_some {patch : κ → Option V} {row : κ → V} {c : κ} {v : V}
    (asked : patch c = some v) : patched patch row c = v := by
  rw [patched, asked, Option.getD_some]

theorem patched_of_none {patch : κ → Option V} {row : κ → V} {c : κ} (asked : patch c = none) :
    patched patch row c = row c := by
  rw [patched, asked, Option.getD_none]

inductive RowEdit (κ V : Type) where
  | waiting
  | read (seen : κ → V)
  | published (seen : κ → V)
  | closed

/-- A row, the last copy of its covered columns, and two edits. -/
structure Edited (κ V : Type) where
  live : κ → V
  copy : κ → Option V
  edits : Bool → RowEdit κ V

namespace Edited

variable [DecidableEq V] (covered : κ → Bool) (patches : Bool → κ → Option V)

def step (row : Edited κ V) (which : Bool) : Edited κ V :=
  match row.edits which with
  | .waiting => { row with edits := Function.update row.edits which (.read row.live) }
  | .read seen =>
      { live := fun c => if covered c then patched (patches which) seen c else row.live c
        copy := fun c => if covered c then some (patched (patches which) seen c) else none
        edits := Function.update row.edits which (.published seen) }
  | .published seen =>
      { row with
        live := fun c =>
          if patched (patches which) seen c = seen c then row.live c
          else patched (patches which) seen c
        edits := Function.update row.edits which .closed }
  | .closed => row

def Holds (row : Edited κ V) (patch : κ → Option V) : Prop :=
  ∀ c v, patch c = some v → row.live c = v ∧ (covered c = true → row.copy c = some v)

/-- An edit is about to publish a change while the other has read the row and published nothing. -/
def Overtakes (row : Edited κ V) (which : Bool) : Prop :=
  ∃ seen old c, row.edits which = .read seen ∧ row.edits (!which) = .read old ∧
    covered c = true ∧ patched (patches which) seen c ≠ seen c

/-- A column that one edit sets to `v`, so that the other leaves it alone. -/
structure Owned (which : Bool) (c : κ) (v first : V) (row : Edited κ V) : Prop where
  own : match row.edits which with
    | .waiting => row.live c = first
    | .read seen => seen c = first ∧ row.live c = first
    | .published seen =>
        seen c = first ∧ row.live c = (if covered c then v else first) ∧
          (covered c = true → row.copy c = some v)
    | .closed => row.live c = v ∧ (covered c = true → row.copy c = some v)
  other : ∀ seen, row.edits (!which) = .read seen → covered c = true → seen c = row.live c

variable {covered} {patches} {row : Edited κ V} {which : Bool} {c : κ} {v first : V}

theorem Owned.step_own (owned : Owned covered which c v first row)
    (asked : patches which c = some v) (clear : ¬ row.Overtakes covered patches which) :
    Owned covered which c v first (row.step covered patches which) := by
  obtain ⟨own, other⟩ := owned
  have apart : (!which) ≠ which := Bool.not_ne_self which
  unfold step
  cases phase : row.edits which with
  | waiting =>
      rw [phase] at own
      dsimp only at own ⊢
      constructor
      · dsimp only
        rw [Function.update_self]
        exact ⟨own, own⟩
      · dsimp only
        rw [Function.update_of_ne apart]
        exact other
  | read seen =>
      rw [phase] at own
      dsimp only at own ⊢
      constructor
      · dsimp only
        rw [Function.update_self]
        dsimp only
        rw [patched_of_some asked, own.2]
        exact ⟨own.1, rfl, fun inside => if_pos inside⟩
      · dsimp only
        rw [Function.update_of_ne apart]
        intro old reading inside
        rw [if_pos inside, patched_of_some asked, other old reading inside, own.2]
        by_contra changes
        apply clear
        refine ⟨seen, old, c, phase, reading, inside, ?_⟩
        rw [patched_of_some asked, own.1]
        exact fun same => changes same.symm
  | published seen =>
      rw [phase] at own
      dsimp only at own ⊢
      obtain ⟨before, now, copied⟩ := own
      have written : (if patched (patches which) seen c = seen c then row.live c
          else patched (patches which) seen c) = v := by
        rw [patched_of_some asked, before, now]
        split
        · next same =>
            rw [← same]
            exact ite_self v
        · rfl
      constructor
      · dsimp only
        rw [Function.update_self]
        exact ⟨written, copied⟩
      · dsimp only
        rw [Function.update_of_ne apart]
        intro old reading inside
        rw [written, other old reading inside, now, if_pos inside]
  | closed => exact ⟨own, other⟩

theorem Owned.transfer (owned : Owned covered which c v first row) {later : Edited κ V}
    (phase : later.edits which = row.edits which) (level : later.live c = row.live c)
    (copied : covered c = true → later.copy c = row.copy c ∨ later.copy c = some (row.live c))
    (other : ∀ seen, later.edits (!which) = .read seen → covered c = true →
      seen c = row.live c) :
    Owned covered which c v first later := by
  have copies : covered c = true → row.live c = v → row.copy c = some v →
      later.copy c = some v := by
    intro inside now before
    cases copied inside with
    | inl kept => exact kept.trans before
    | inr set => rw [set, now]
  have own := owned.own
  constructor
  · rw [phase]
    cases mine : row.edits which with
    | waiting =>
        rw [mine] at own
        exact level.trans own
    | read seen =>
        rw [mine] at own
        exact ⟨own.1, level.trans own.2⟩
    | published seen =>
        rw [mine] at own
        obtain ⟨before, now, copy⟩ := own
        refine ⟨before, level.trans now, ?_⟩
        intro inside
        rw [if_pos inside] at now
        exact copies inside now (copy inside)
    | closed =>
        rw [mine] at own
        exact ⟨level.trans own.1, fun inside => copies inside own.1 (own.2 inside)⟩
  · intro seen reading inside
    rw [level]
    exact other seen reading inside

theorem Owned.step_other (owned : Owned covered which c v first row)
    (unasked : patches (!which) c = none) :
    Owned covered which c v first (row.step covered patches (!which)) := by
  have apart : which ≠ (!which) := Bool.self_ne_not which
  unfold step
  cases phase : row.edits (!which) with
  | waiting =>
      dsimp only
      apply owned.transfer
      · exact Function.update_of_ne apart _ _
      · rfl
      · exact fun _ => .inl rfl
      · dsimp only
        rw [Function.update_self]
        intro seen reading _
        obtain rfl := RowEdit.read.inj reading
        rfl
  | read seen =>
      dsimp only
      have same : covered c = true → patched (patches (!which)) seen c = row.live c := by
        intro inside
        rw [patched_of_none unasked, owned.other seen phase inside]
      apply owned.transfer
      · exact Function.update_of_ne apart _ _
      · dsimp only
        split
        · next inside => exact same inside
        · rfl
      · intro inside
        dsimp only
        rw [if_pos inside, same inside]
        exact .inr rfl
      · dsimp only
        rw [Function.update_self]
        intro old reading
        cases reading
  | published seen =>
      dsimp only
      apply owned.transfer
      · exact Function.update_of_ne apart _ _
      · exact if_pos (patched_of_none unasked)
      · exact fun _ => .inl rfl
      · dsimp only
        rw [Function.update_self]
        intro old reading
        cases reading
  | closed => exact owned

/-- A change that is not in the copy, or will not be. -/
structure Lost (which : Bool) (c : κ) (first : V) (row : Edited κ V) : Prop where
  published : (∃ seen, row.edits which = .published seen) ∨ row.edits which = .closed
  other : match row.edits (!which) with
    | .waiting => False
    | .read seen => seen c = first
    | .published _ => row.copy c = some first
    | .closed => row.copy c = some first

theorem Lost.step_own (lost : Lost which c first row) :
    Lost which c first (row.step covered patches which) := by
  have apart : (!which) ≠ which := Bool.not_ne_self which
  unfold step
  cases lost.published with
  | inl published =>
      obtain ⟨seen, phase⟩ := published
      rw [phase]
      dsimp only
      constructor
      · exact .inr (Function.update_self which _ _)
      · dsimp only
        rw [Function.update_of_ne apart]
        exact lost.other
  | inr phase =>
      rw [phase]
      exact lost

theorem Lost.step_other (lost : Lost which c first row) (inside : covered c = true)
    (unasked : patches (!which) c = none) :
    Lost which c first (row.step covered patches (!which)) := by
  have apart : which ≠ (!which) := Bool.self_ne_not which
  have other := lost.other
  unfold step
  cases phase : row.edits (!which) with
  | waiting =>
      rw [phase] at other
      exact other.elim
  | read seen =>
      rw [phase] at other
      dsimp only at other ⊢
      constructor
      · dsimp only
        rw [Function.update_of_ne apart]
        exact lost.published
      · dsimp only
        rw [Function.update_self]
        dsimp only
        rw [if_pos inside, patched_of_none unasked, other]
  | published seen =>
      rw [phase] at other
      dsimp only at other ⊢
      constructor
      · dsimp only
        rw [Function.update_of_ne apart]
        exact lost.published
      · dsimp only
        rw [Function.update_self]
        exact other
  | closed => exact lost

/-- The row after the first `n` turns. -/
abbrev after (covered : κ → Bool) (patches : Bool → κ → Option V) (row : Edited κ V)
    (turns : List Bool) (n : Nat) : Edited κ V :=
  stateAfter (step covered patches) row turns n

variable {turns : List Bool} {n : Nat}

theorem owned_after (fresh : ∀ which, row.edits which = .waiting)
    (asked : patches which c = some v) (unasked : patches (!which) c = none)
    (clear : ∀ k < n, ∀ turn, turns[k]? = some turn →
      ¬ (row.after covered patches turns k).Overtakes covered patches turn) :
    Owned covered which c v (row.live c) (row.after covered patches turns n) := by
  induction n with
  | zero =>
      rw [after, stateAfter_zero]
      constructor
      · rw [fresh]
      · intro seen reading
        rw [fresh] at reading
        cases reading
  | succ n ih =>
      have before := ih fun k less => clear k (Nat.lt_succ_of_lt less)
      cases present : turns[n]? with
      | none =>
          rw [after, stateAfter_succ_of_none _ _ _ present]
          exact before
      | some turn =>
          rw [after, stateAfter_succ _ _ _ present]
          by_cases own : turn = which
          · subst own
            exact before.step_own asked (clear n (Nat.lt_succ_self n) turn present)
          · obtain rfl : turn = !which := Bool.eq_not.mpr own
            exact before.step_other unasked

theorem copied_after (covered : κ → Bool) (patches : Bool → κ → Option V)
    (fresh : ∀ which, row.edits which = .waiting) (turns : List Bool) (n : Nat) :
    (∀ which, (row.after covered patches turns n).edits which = .waiting ∨
      ∃ seen, (row.after covered patches turns n).edits which = .read seen) ∨
    ∀ c, covered c = true → ((row.after covered patches turns n).copy c).isSome = true := by
  apply stateAfter_invariant _ _ _ fun later : Edited κ V =>
    (∀ which, later.edits which = .waiting ∨ ∃ seen, later.edits which = .read seen) ∨
      ∀ c, covered c = true → (later.copy c).isSome = true
  · exact .inl fun which => .inl (fresh which)
  · intro n turn _ before
    generalize stateAfter _ row turns n = later at before ⊢
    unfold step
    cases phase : later.edits turn with
    | waiting =>
        cases before with
        | inl early =>
            left
            intro which
            by_cases own : which = turn
            · subst own
              exact .inr ⟨later.live, Function.update_self which _ _⟩
            · dsimp only
              rw [Function.update_of_ne own]
              exact early which
        | inr copied => exact .inr copied
    | read seen =>
        right
        intro c inside
        dsimp only
        rw [if_pos inside]
        rfl
    | published seen =>
        cases before with
        | inl early =>
            cases early turn with
            | inl waits => cases phase.symm.trans waits
            | inr reads =>
                obtain ⟨old, reads⟩ := reads
                cases phase.symm.trans reads
        | inr copied => exact .inr copied
    | closed => exact before

theorem lost_after (inside : covered c = true) (unasked : patches (!which) c = none) {m : Nat}
    (lost : Lost which c first (row.after covered patches turns m)) (le : m ≤ n) :
    Lost which c first (row.after covered patches turns n) := by
  apply stateAfter_from _ _ _ (Lost which c first) le lost
  intro k turn _ _ still
  by_cases own : turn = which
  · subst own
    exact still.step_own
  · obtain rfl : turn = !which := Bool.eq_not.mpr own
    exact still.step_other inside unasked

/-- Two edits of different columns are both kept exactly if neither publishes a change between
the read and the publication of the other. -/
theorem holds_iff (fresh : ∀ which, row.edits which = .waiting)
    (disjoint : ∀ which c, patches which c = none ∨ patches (!which) c = none)
    (complete : ∀ which, (row.after covered patches turns turns.length).edits which = .closed) :
    (∀ which, (row.after covered patches turns turns.length).Holds covered (patches which)) ↔
      ∀ n which, turns[n]? = some which →
        ¬ (row.after covered patches turns n).Overtakes covered patches which := by
  have alone : ∀ {which c v}, patches which c = some v → patches (!which) c = none := by
    intro which c v asked
    cases disjoint which c with
    | inl unasked => cases asked.symm.trans unasked
    | inr unasked => exact unasked
  constructor
  · intro holds
    by_contra overtaken
    have some_overtakes : ∃ n which, turns[n]? = some which ∧
        (row.after covered patches turns n).Overtakes covered patches which := by
      by_contra none_overtakes
      apply overtaken
      intro n which present overtakes
      exact none_overtakes ⟨n, which, present, overtakes⟩
    classical
    -- The first time that an edit overtakes the other.
    have earlier := fun k less => Nat.find_min some_overtakes (m := k) less
    obtain ⟨which, present, overtakes⟩ := Nat.find_spec some_overtakes
    obtain ⟨seen, old, c, mine, others, inside, changes⟩ := overtakes
    cases asked : patches which c with
    | none => exact changes (patched_of_none asked)
    | some v =>
        have unasked := alone asked
        have owned := owned_after fresh asked unasked
          fun k less turn there overtakes => earlier k less ⟨turn, there, overtakes⟩
        have own := owned.own
        rw [mine] at own
        have stale := (owned.other old others inside).trans own.2
        have lost : Lost which c (row.live c)
            (row.after covered patches turns (Nat.find some_overtakes + 1)) := by
          rw [after, stateAfter_succ _ _ _ present, step, mine]
          constructor
          · exact .inl ⟨seen, Function.update_self which _ _⟩
          · dsimp only
            rw [Function.update_of_ne (Bool.not_ne_self which), others]
            exact stale
        have reached : Nat.find some_overtakes + 1 ≤ turns.length :=
          (List.getElem?_eq_some_iff.mp present).1
        have final := (lost_after inside unasked lost reached).other
        rw [complete] at final
        have kept := (holds which c v asked).2 inside
        apply changes
        rw [patched_of_some asked, own.1]
        exact Option.some.inj (kept.symm.trans final)
  · intro clear which c v asked
    have owned := owned_after (n := turns.length) fresh asked (alone asked)
      fun k _ turn present => clear k turn present
    have own := owned.own
    rw [complete] at own
    exact own

end Edited

end SyndicateClaw.Async
