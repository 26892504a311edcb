import Mathlib.Data.List.Basic
import Mathlib.Data.Nat.Init

/-! Histories of a deterministic step function: a preorder relates every two
states of a history, earlier to later, exactly when every step keeps it. -/

namespace SyndicateClaw.Async

theorem snoc_split {α : Type} {trail before after : List α} {last event : α}
    (split : trail ++ [last] = before ++ event :: after) :
    (before = trail ∧ event = last) ∨ ∃ rest, trail = before ++ event :: rest := by
  rcases List.eq_nil_or_concat after with rfl | ⟨rest, final, rfl⟩
  · obtain ⟨same, ends⟩ := List.append_inj' split rfl
    exact .inl ⟨same.symm, (List.singleton_inj.mp ends).symm⟩
  · rw [List.concat_eq_append, ← List.cons_append, ← List.append_assoc] at split
    exact .inr ⟨rest, (List.append_inj' split rfl).1⟩

/-- Every element of a history has its property, given what came before it. -/
def Always {α : Type} (P : List α → α → Prop) (trail : List α) : Prop :=
  ∀ before event after, trail = before ++ event :: after → P before event

section always

variable {α : Type} {P : List α → α → Prop} {trail : List α}

theorem Always.nil : Always P [] := by
  intro before event after split
  simp at split

theorem Always.snoc (always : Always P trail) {event : α} (holds : P trail event) :
    Always P (trail ++ [event]) := by
  intro before other after split
  rcases snoc_split split with ⟨rfl, rfl⟩ | ⟨rest, inside⟩
  · exact holds
  · exact always before other rest inside

theorem Always.init {event : α} (always : Always P (trail ++ [event])) : Always P trail := by
  intro before other after split
  exact always before other (after ++ [event]) (by simp [split])

theorem Always.last {event : α} (always : Always P (trail ++ [event])) : P trail event :=
  always trail event [] rfl

theorem Always.of_mem {event : α} (always : Always P trail) (member : event ∈ trail) :
    ∃ before after, trail = before ++ event :: after ∧ P before event := by
  obtain ⟨before, after, split⟩ := List.append_of_mem member
  exact ⟨before, after, split, always before event after split⟩

end always

variable {σ op : Type}

/-- The state after the first `n` operations. -/
def stateAfter (step : σ → op → σ) (start : σ) (ops : List op) (n : Nat) : σ :=
  (ops.take n).foldl step start

variable (step : σ → op → σ) (start : σ) (ops : List op)

@[simp] theorem stateAfter_zero : stateAfter step start ops 0 = start := by
  simp [stateAfter]

theorem stateAfter_succ {n : Nat} {o : op} (present : ops[n]? = some o) :
    stateAfter step start ops (n + 1) = step (stateAfter step start ops n) o := by
  simp [stateAfter, List.take_add_one, present]

theorem stateAfter_succ_of_none {n : Nat} (absent : ops[n]? = none) :
    stateAfter step start ops (n + 1) = stateAfter step start ops n := by
  simp [stateAfter, List.take_add_one, absent]

theorem stateAfter_invariant (I : σ → Prop) (first : I start)
    (kept : ∀ n o, ops[n]? = some o → I (stateAfter step start ops n) →
      I (step (stateAfter step start ops n) o)) (n : Nat) :
    I (stateAfter step start ops n) := by
  induction n with
  | zero => simpa using first
  | succ n ih =>
      cases present : ops[n]? with
      | none => rwa [stateAfter_succ_of_none step start ops present]
      | some o =>
          rw [stateAfter_succ step start ops present]
          exact kept n o present ih

theorem stateAfter_invariant_iff (I : σ → Prop) (K : σ → op → Prop)
    (kept : ∀ n o, ops[n]? = some o → I (stateAfter step start ops n) →
      (I (step (stateAfter step start ops n) o) ↔ K (stateAfter step start ops n) o)) :
    (∀ n, I (stateAfter step start ops n)) ↔
      I start ∧ ∀ n o, ops[n]? = some o → K (stateAfter step start ops n) o := by
  constructor
  · intro always
    constructor
    · simpa using always 0
    · intro n o present
      have next := always (n + 1)
      rw [stateAfter_succ step start ops present] at next
      exact (kept n o present (always n)).mp next
  · intro all
    apply stateAfter_invariant step start ops I all.1
    intro n o present before
    exact (kept n o present before).mpr (all.2 n o present)

theorem stateAfter_from (I : σ → Prop) {m n : Nat} (le : m ≤ n) (first : I (stateAfter step start ops m))
    (kept : ∀ k o, m ≤ k → ops[k]? = some o → I (stateAfter step start ops k) →
      I (step (stateAfter step start ops k) o)) :
    I (stateAfter step start ops n) := by
  induction n, le using Nat.le_induction with
  | base => exact first
  | succ n le ih =>
      cases present : ops[n]? with
      | none => rwa [stateAfter_succ_of_none step start ops present]
      | some o =>
          rw [stateAfter_succ step start ops present]
          exact kept n o le present ih

theorem monotone_iff (R : σ → σ → Prop) (refl : ∀ s, R s s)
    (trans : ∀ a b c, R a b → R b c → R a c) :
    (∀ n m, n ≤ m → R (stateAfter step start ops n) (stateAfter step start ops m)) ↔
      ∀ n o, ops[n]? = some o →
        R (stateAfter step start ops n) (step (stateAfter step start ops n) o) := by
  constructor
  · intro monotone n o present
    rw [← stateAfter_succ step start ops present]
    exact monotone n (n + 1) (Nat.le_succ n)
  · intro kept n m le
    apply stateAfter_from step start ops (R (stateAfter step start ops n)) le (refl _)
    intro k o _ present related
    exact trans _ _ _ related (kept k o present)

end SyndicateClaw.Async
