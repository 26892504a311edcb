import Mathlib.Logic.Function.Basic
import SyndicateClaw.Async.History

/-! Workers over a shared state.

A worker moves from the shared state and its own phase to new ones, and the world changes the
shared state in between. What always holds of the shared state, and what every worker may assert
of it in its phase, hold in a whole history where each move keeps both for the worker that moves
and disturbs no other. -/

namespace SyndicateClaw.Async

structure Crew (ι σ φ : Type) where
  shared : σ
  phase : ι → φ

/-- The move of a worker, with what is up to its surroundings, or a change from outside. -/
inductive Act (ι ν ω : Type) where
  | own (i : ι) (choice : ν)
  | outside (change : ω)

section

variable {ι σ φ ν ω : Type} [DecidableEq ι]

section

variable (move : ι → ν → σ → φ → σ × φ) (change : ω → σ → σ)

def Crew.step (crew : Crew ι σ φ) : Act ι ν ω → Crew ι σ φ
  | .own i choice =>
      let moved := move i choice crew.shared (crew.phase i)
      { shared := moved.1, phase := Function.update crew.phase i moved.2 }
  | .outside occurs => { crew with shared := change occurs crew.shared }

/-- The crew after the first `n` acts. -/
abbrev Crew.after (crew : Crew ι σ φ) (acts : List (Act ι ν ω)) (n : Nat) : Crew ι σ φ :=
  stateAfter (Crew.step move change) crew acts n

end

theorem Crew.step_phase (move : ι → ν → σ → φ → σ × φ) (change : ω → σ → σ) (crew : Crew ι σ φ)
    (act : Act ι ν ω) (i : ι) :
    (crew.step move change act).phase i = crew.phase i ∨
      ∃ choice, act = .own i choice ∧
        (crew.step move change act).shared = (move i choice crew.shared (crew.phase i)).1 ∧
        (crew.step move change act).phase i = (move i choice crew.shared (crew.phase i)).2 := by
  cases act with
  | own j choice =>
      by_cases same : i = j
      · subst same
        exact .inr ⟨choice, rfl, rfl, Function.update_self ..⟩
      · exact .inl (Function.update_of_ne same ..)
  | outside occurs => exact .inl rfl

theorem Crew.after_phase (move : ι → ν → σ → φ → σ × φ) (change : ω → σ → σ) (crew : Crew ι σ φ)
    {i j : ι} (other : j ≠ i) (acts : List (Act ι ν ω))
    (own : ∀ act ∈ acts, ∃ choice, act = .own i choice) (n : Nat) :
    (crew.after move change acts n).phase j = crew.phase j := by
  apply stateAfter_invariant _ _ _ fun reached : Crew ι σ φ => reached.phase j = crew.phase j
  · rfl
  · intro n act present ih
    obtain ⟨choice, rfl⟩ := own act (List.mem_of_getElem? present)
    rcases Crew.step_phase move change (crew.after move change acts n) (.own i choice) j with
      same | ⟨choice', same, -⟩
    · exact same.trans ih
    · cases same
      exact absurd rfl other

def Crew.alone (move : ι → ν → σ → φ → σ × φ) (i : ι) (choices : List ν) (start : σ × φ) : σ × φ :=
  choices.foldl (fun reached choice => move i choice reached.1 reached.2) start

theorem Crew.after_own (move : ι → ν → σ → φ → σ × φ) (change : ω → σ → σ) (crew : Crew ι σ φ)
    (i : ι) (choices : List ν) :
    (crew.after move change (choices.map (Act.own i)) choices.length).shared =
        (Crew.alone move i choices (crew.shared, crew.phase i)).1 ∧
      (crew.after move change (choices.map (Act.own i)) choices.length).phase i =
        (Crew.alone move i choices (crew.shared, crew.phase i)).2 := by
  have all : crew.after move change (choices.map (Act.own i)) choices.length =
      (choices.map (Act.own i)).foldl (Crew.step move change) crew := by
    unfold Crew.after stateAfter
    rw [← List.length_map (Act.own i), List.take_length]
  rw [all]
  clear all
  induction choices generalizing crew with
  | nil => exact ⟨rfl, rfl⟩
  | cons choice choices ih =>
      have moved : (crew.step move change (.own i choice)).phase i =
          (move i choice crew.shared (crew.phase i)).2 := Function.update_self ..
      rw [List.map_cons, List.foldl_cons]
      have rest := ih (crew.step move change (.own i choice))
      rw [moved] at rest
      exact rest

/-- The shared state keeps its invariant and every worker its assertion. -/
structure Crew.Holds (always : σ → Prop) (asserts : ι → σ → φ → Prop) (crew : Crew ι σ φ) :
    Prop where
  shared : always crew.shared
  worker : ∀ i, asserts i crew.shared (crew.phase i)

structure Outline (move : ι → ν → σ → φ → σ × φ) (change : ω → σ → σ)
    (admits : Crew ι σ φ → Act ι ν ω → Prop) (always : σ → Prop) (asserts : ι → σ → φ → Prop) :
    Prop where
  kept : ∀ crew i choice, crew.Holds always asserts → admits crew (.own i choice) →
    always (move i choice crew.shared (crew.phase i)).1
  own : ∀ crew i choice, crew.Holds always asserts → admits crew (.own i choice) →
    asserts i (move i choice crew.shared (crew.phase i)).1
      (move i choice crew.shared (crew.phase i)).2
  others : ∀ crew i choice, crew.Holds always asserts → admits crew (.own i choice) →
    ∀ j, j ≠ i → asserts j (move i choice crew.shared (crew.phase i)).1 (crew.phase j)
  outside : ∀ crew occurs, crew.Holds always asserts → admits crew (.outside occurs) →
    always (change occurs crew.shared)
  undisturbed : ∀ crew occurs, crew.Holds always asserts → admits crew (.outside occurs) →
    ∀ j, asserts j (change occurs crew.shared) (crew.phase j)

variable {move : ι → ν → σ → φ → σ × φ} {change : ω → σ → σ}
  {admits : Crew ι σ φ → Act ι ν ω → Prop} {always : σ → Prop} {asserts : ι → σ → φ → Prop}

theorem Outline.step (outline : Outline move change admits always asserts) {crew : Crew ι σ φ}
    (holds : crew.Holds always asserts) {act : Act ι ν ω} (admitted : admits crew act) :
    (crew.step move change act).Holds always asserts := by
  cases act with
  | own i choice =>
      constructor
      · exact outline.kept crew i choice holds admitted
      · intro j
        show asserts j _ (Function.update crew.phase i _ j)
        by_cases same : j = i
        · subst same
          rw [Function.update_self]
          exact outline.own crew j choice holds admitted
        · rw [Function.update_of_ne same]
          exact outline.others crew i choice holds admitted j same
  | outside occurs =>
      constructor
      · exact outline.outside crew occurs holds admitted
      · exact outline.undisturbed crew occurs holds admitted

theorem Outline.holds (outline : Outline move change admits always asserts) {start : Crew ι σ φ}
    (first : start.Holds always asserts) (acts : List (Act ι ν ω))
    (admitted : ∀ n act, acts[n]? = some act → admits (start.after move change acts n) act)
    (n : Nat) : (start.after move change acts n).Holds always asserts := by
  apply stateAfter_invariant
  · exact first
  · intro n act present holds
    exact outline.step holds (admitted n act present)

end

end SyndicateClaw.Async
