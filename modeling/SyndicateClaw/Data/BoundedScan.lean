import Mathlib.Data.List.Basic

/-! Scans of a list by a test that carries a state, up to a bound on what they keep. -/

namespace SyndicateClaw.Scan

variable {α σ : Type} (test : α → σ → Bool × σ)

def tested (state : σ) (items : List α) : σ :=
  items.foldl (fun state item => (test item state).2) state

def passing : σ → List α → List α
  | _, [] => []
  | state, item :: rest =>
      if (test item state).1 then item :: passing (test item state).2 rest
      else passing (test item state).2 rest

/-- What a scan keeps, how many it drops, and what it does not come to. -/
structure Outcome (α : Type) where
  kept : List α
  dropped : Nat
  left : List α

def run : Nat → σ → List α → Outcome α
  | _, _, [] => { kept := [], dropped := 0, left := [] }
  | 0, _, item :: rest => { kept := [], dropped := 0, left := item :: rest }
  | bound + 1, state, item :: rest =>
      if (test item state).1 then
        let later := run bound (test item state).2 rest
        { later with kept := item :: later.kept }
      else
        let later := run (bound + 1) (test item state).2 rest
        { later with dropped := later.dropped + 1 }

variable {test} {state : σ}

theorem kept_run (bound : Nat) (items : List α) :
    (run test bound state items).kept = (passing test state items).take bound := by
  induction items generalizing bound state with
  | nil => cases bound <;> rfl
  | cons item rest ih =>
      cases bound with
      | zero => rfl
      | succ bound =>
          unfold run passing
          by_cases passes : (test item state).1 = true
          · rw [if_pos passes, if_pos passes, List.take_succ_cons]
            exact congrArg (item :: ·) (ih bound)
          · rw [if_neg passes, if_neg passes]
            exact ih (bound + 1)

theorem length_run (bound : Nat) (items : List α) :
    (run test bound state items).kept.length + (run test bound state items).dropped +
      (run test bound state items).left.length = items.length := by
  induction items generalizing bound state with
  | nil => cases bound <;> rfl
  | cons item rest ih =>
      cases bound with
      | zero => exact Nat.zero_add _
      | succ bound =>
          unfold run
          by_cases passes : (test item state).1 = true
          · rw [if_pos passes]
            have later := @ih (test item state).2 bound
            simp only [List.length_cons]
            omega
          · rw [if_neg passes]
            have later := @ih (test item state).2 (bound + 1)
            simp only [List.length_cons]
            omega

theorem left_run (bound : Nat) (items : List α) : (run test bound state items).left = [] ↔
    ∀ before item after, items = before ++ item :: after →
      (passing test state before).length < bound := by
  induction items generalizing bound state with
  | nil =>
      constructor
      · intro _ before item after split
        simp at split
      · intro _
        cases bound <;> rfl
  | cons first rest ih =>
      cases bound with
      | zero =>
          constructor
          · exact nofun
          · intro all
            exact absurd (all [] first rest rfl) (Nat.not_lt_zero _)
      | succ bound =>
          have shift : ∀ limit, (run test limit (test first state).2 rest).left = [] →
              ∀ before item after, first :: rest = before ++ item :: after → before = [] ∨
                ∃ inner, before = first :: inner ∧
                  (passing test (test first state).2 inner).length < limit := by
            intro limit done before item after split
            cases before with
            | nil => exact .inl rfl
            | cons head inner =>
                rw [List.cons_append] at split
                have same := List.cons.inj split
                rw [← same.1]
                exact .inr ⟨inner, rfl, (ih limit).mp done inner item after same.2⟩
          unfold run
          by_cases passes : (test first state).1 = true
          · rw [if_pos passes]
            constructor
            · intro done before item after split
              rcases shift bound done before item after split with rfl | ⟨inner, rfl, fewer⟩
              · exact Nat.succ_pos bound
              · rw [passing, if_pos passes, List.length_cons]
                omega
            · intro all
              apply (ih bound).mpr
              intro before item after split
              have fewer := all (first :: before) item after (by rw [split, List.cons_append])
              rw [passing, if_pos passes, List.length_cons] at fewer
              omega
          · rw [if_neg passes]
            constructor
            · intro done before item after split
              rcases shift (bound + 1) done before item after split with rfl | ⟨inner, rfl, fewer⟩
              · exact Nat.succ_pos bound
              · rwa [passing, if_neg passes]
            · intro all
              apply (ih (bound + 1)).mpr
              intro before item after split
              have fewer := all (first :: before) item after (by rw [split, List.cons_append])
              rwa [passing, if_neg passes] at fewer

theorem passing_eq_filter {P : α → Bool} {items : List α}
    (agrees : ∀ before item after, items = before ++ item :: after →
      (test item (tested test state before)).1 = P item) :
    passing test state items = items.filter P := by
  induction items generalizing state with
  | nil => rfl
  | cons item rest ih =>
      have first : (test item state).1 = P item := agrees [] item rest rfl
      have later : passing test (test item state).2 rest = rest.filter P := by
        apply ih
        intro before other after split
        exact agrees (item :: before) other after (by rw [split, List.cons_append])
      rw [passing, later, first, List.filter_cons]

end SyndicateClaw.Scan
