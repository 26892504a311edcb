import Mathlib.Data.List.Basic

/-! Walks down a chain of candidates to the first that succeeds.

A walk passes over the candidates that it does not try, ends with the first success, and goes on
after some of the errors. What a candidate is worth may depend on the number of earlier tries. -/

namespace SyndicateClaw.FallbackChain

variable {α β ε : Type}

inductive Ending (α β ε : Type) where
  | succeeded (position : Nat) (candidate : α) (value : β)
  | stopped (error : ε)
  | exhausted (last : Option ε)

section

variable (outcome : Nat → α → Except ε β) (tries : Nat → α → Bool) (continues : ε → Bool)

/-- The candidates tried and the ending, after some tries, from a position on and with the last error
so far. -/
def walk : (turn position : Nat) → Option ε → List α → List α × Ending α β ε
  | _, _, last, [] => ([], .exhausted last)
  | turn, position, last, candidate :: rest =>
      if tries turn candidate then
        match outcome turn candidate with
        | .ok value => ([candidate], .succeeded position candidate value)
        | .error error =>
            if continues error then
              let later := walk (turn + 1) (position + 1) (some error) rest
              (candidate :: later.1, later.2)
            else ([candidate], .stopped error)
      else walk turn (position + 1) last rest

/-- The first valid candidate to succeed, behind valid ones whose errors are harmless. -/
inductive First (valid : Nat → α → Bool) (harmless : ε → Prop) : Nat → List α → α → β → Prop where
  | here {turn candidate rest value} (ready : valid turn candidate = true)
      (success : outcome turn candidate = .ok value) :
      First valid harmless turn (candidate :: rest) candidate value
  | invalid {turn other rest candidate value} (gone : valid turn other = false)
      (later : First valid harmless turn rest candidate value) :
      First valid harmless turn (other :: rest) candidate value
  | failed {turn other rest candidate value error} (ready : valid turn other = true)
      (fails : outcome turn other = .error error) (passes : harmless error)
      (later : First valid harmless (turn + 1) rest candidate value) :
      First valid harmless turn (other :: rest) candidate value

/-- Of a chain, some candidates were tried and failed, and the others were not valid. -/
inductive Spent (valid : Nat → α → Bool) : Nat → (chain tried : List α) → Prop where
  | nil {turn} : Spent valid turn [] []
  | invalid {turn candidate rest tried} (gone : valid turn candidate = false)
      (later : Spent valid turn rest tried) : Spent valid turn (candidate :: rest) tried
  | failed {turn candidate rest tried error} (fails : outcome turn candidate = .error error)
      (later : Spent valid (turn + 1) rest tried) :
      Spent valid turn (candidate :: rest) (candidate :: tried)

end

variable {outcome : Nat → α → Except ε β} {tries tries' : Nat → α → Bool}
  {continues continues' : ε → Bool} {turn : Nat}

theorem walk_skip {candidate : α} (skipped : tries turn candidate = false) (position : Nat)
    (last : Option ε) (rest : List α) :
    walk outcome tries continues turn position last (candidate :: rest) =
      walk outcome tries continues turn (position + 1) last rest := by
  rw [walk, if_neg (by simp [skipped])]

theorem walk_success {candidate : α} {value : β} (tried : tries turn candidate = true)
    (success : outcome turn candidate = .ok value) (position : Nat) (last : Option ε)
    (rest : List α) :
    walk outcome tries continues turn position last (candidate :: rest) =
      ([candidate], .succeeded position candidate value) := by
  rw [walk, if_pos tried, success]

theorem walk_continue {candidate : α} {error : ε} (tried : tries turn candidate = true)
    (fails : outcome turn candidate = .error error) (goesOn : continues error = true)
    (position : Nat) (last : Option ε) (rest : List α) :
    walk outcome tries continues turn position last (candidate :: rest) =
      (candidate :: (walk outcome tries continues (turn + 1) (position + 1) (some error) rest).1,
        (walk outcome tries continues (turn + 1) (position + 1) (some error) rest).2) := by
  rw [walk, if_pos tried, fails]
  exact if_pos goesOn

theorem walk_stop {candidate : α} {error : ε} (tried : tries turn candidate = true)
    (fails : outcome turn candidate = .error error) (stops : continues error = false)
    (position : Nat) (last : Option ε) (rest : List α) :
    walk outcome tries continues turn position last (candidate :: rest) =
      ([candidate], .stopped error) := by
  rw [walk, if_pos tried, fails]
  exact if_neg (by simp [stops])

theorem First.walk {harmless : ε → Prop} {chain : List α} {candidate : α} {value : β}
    (first : First outcome tries harmless turn chain candidate value)
    (passes : ∀ error, harmless error → continues error = true) (position : Nat) (last : Option ε) :
    ∃ reached, (walk outcome tries continues turn position last chain).2 =
      .succeeded reached candidate value := by
  induction first generalizing position last with
  | here ready success =>
      rw [walk_success ready success]
      exact ⟨position, rfl⟩
  | invalid gone later ih =>
      rw [walk_skip gone]
      exact ih (position + 1) last
  | failed ready fails harmless later ih =>
      rw [walk_continue ready fails (passes _ harmless)]
      exact ih (position + 1) _

theorem spent_of_exhausted {valid : Nat → α → Bool} {chain : List α}
    (sound : ∀ turn candidate, tries turn candidate = false → valid turn candidate = false)
    {position : Nat} {last final : Option ε}
    (exhausted : (walk outcome tries continues turn position last chain).2 = .exhausted final) :
    Spent outcome valid turn chain (walk outcome tries continues turn position last chain).1 := by
  induction chain generalizing turn position last with
  | nil => exact .nil
  | cons first rest ih =>
      cases tried : tries turn first with
      | false =>
          rw [walk_skip tried] at exhausted ⊢
          exact .invalid (sound turn first tried) (ih exhausted)
      | true =>
          cases result : outcome turn first with
          | ok value =>
              rw [walk_success tried result] at exhausted
              cases exhausted
          | error error =>
              cases goesOn : continues error with
              | false =>
                  rw [walk_stop tried result goesOn] at exhausted
                  cases exhausted
              | true =>
                  rw [walk_continue tried result goesOn] at exhausted ⊢
                  exact .failed result (ih exhausted)

theorem continues_of_stopped {chain : List α} {position : Nat} {last : Option ε} {error : ε}
    (stopped : (walk outcome tries continues turn position last chain).2 = .stopped error) :
    continues error = false := by
  induction chain generalizing turn position last with
  | nil => cases stopped
  | cons first rest ih =>
      cases tried : tries turn first with
      | false =>
          rw [walk_skip tried] at stopped
          exact ih stopped
      | true =>
          cases result : outcome turn first with
          | ok value =>
              rw [walk_success tried result] at stopped
              cases stopped
          | error own =>
              cases goesOn : continues own with
              | false =>
                  rw [walk_stop tried result goesOn] at stopped
                  obtain rfl := Ending.stopped.inj stopped
                  exact goesOn
              | true =>
                  rw [walk_continue tried result goesOn] at stopped
                  exact ih stopped

theorem walk_head {candidate : α} (tried : tries turn candidate = true) (position : Nat)
    (last : Option ε) (rest : List α) :
    ∃ later, (walk outcome tries continues turn position last (candidate :: rest)).1 =
      candidate :: later := by
  cases result : outcome turn candidate with
  | ok value =>
      rw [walk_success tried result]
      exact ⟨[], rfl⟩
  | error error =>
      cases goesOn : continues error with
      | false =>
          rw [walk_stop tried result goesOn]
          exact ⟨[], rfl⟩
      | true =>
          rw [walk_continue tried result goesOn]
          exact ⟨_, rfl⟩

theorem tries_of_head {chain later : List α} {candidate : α} {position : Nat} {last : Option ε}
    (head : (walk outcome tries continues turn position last chain).1 = candidate :: later) :
    tries turn candidate = true := by
  induction chain generalizing position last with
  | nil => cases head
  | cons first rest ih =>
      cases tried : tries turn first with
      | false =>
          rw [walk_skip tried] at head
          exact ih head
      | true =>
          obtain ⟨later', own⟩ := walk_head tried
            position last rest
          obtain rfl := (List.cons.inj (own.symm.trans head)).1
          exact tried

theorem walk_eq_nil {chain : List α} {position : Nat} {last : Option ε} :
    (walk outcome tries continues turn position last chain).1 = [] ↔
      ∀ candidate ∈ chain, tries turn candidate = false := by
  induction chain generalizing turn position last with
  | nil => exact ⟨fun _ _ member => absurd member List.not_mem_nil, fun _ => rfl⟩
  | cons first rest ih =>
      cases tried : tries turn first with
      | false =>
          rw [walk_skip tried, ih, List.forall_mem_cons]
          exact ⟨fun all => ⟨tried, all⟩, fun all => all.2⟩
      | true =>
          obtain ⟨later, head⟩ : ∃ later, (walk outcome tries continues turn position last
              (first :: rest)).1 = first :: later := walk_head tried position last rest
          rw [head]
          constructor
          · exact fun none => absurd none (List.cons_ne_nil _ _)
          · intro all
            exact absurd ((all first List.mem_cons_self).symm.trans tried) Bool.false_ne_true

theorem walk_idle {chain : List α} (idle : ∀ candidate ∈ chain, tries turn candidate = false)
    {position : Nat} {last : Option ε} :
    walk outcome tries continues turn position last chain = ([], .exhausted last) := by
  induction chain generalizing turn position with
  | nil => rfl
  | cons first rest ih =>
      rw [walk_skip (idle first List.mem_cons_self)]
      exact ih fun other member => idle other (List.mem_cons_of_mem first member)

/-! ### Two walks -/

/-- As far as they get, two walks try the same candidates. -/
def Agree (outcome : Nat → α → Except ε β) (tries tries' : Nat → α → Bool)
    (continues continues' : ε → Bool) : Nat → List α → Prop
  | _, [] => True
  | turn, candidate :: rest =>
      tries turn candidate = tries' turn candidate ∧
        if tries turn candidate then
          match outcome turn candidate with
          | .ok _ => True
          | .error error =>
              match continues error, continues' error with
              | true, true => Agree outcome tries tries' continues continues' (turn + 1) rest
              | true, false => ∀ other ∈ rest, tries (turn + 1) other = false
              | false, true => ∀ other ∈ rest, tries' (turn + 1) other = false
              | false, false => True
        else Agree outcome tries tries' continues continues' turn rest

/-- After a failure past which both go on. -/
theorem agree_cons {candidate : α} {rest : List α} {error : ε}
    (first : tries turn candidate = true) (second : tries' turn candidate = true)
    (failed : outcome turn candidate = .error error) (continuing : continues error = true)
    (continuing' : continues' error = true)
    (agree : Agree outcome tries tries' continues continues' (turn + 1) rest) :
    Agree outcome tries tries' continues continues' turn (candidate :: rest) := by
  refine ⟨first.trans second.symm, ?_⟩
  rw [if_pos first, failed]
  dsimp only
  rw [continuing, continuing']
  exact agree

theorem walk_eq_iff {chain : List α} {position position' : Nat} {last last' : Option ε} :
    (walk outcome tries continues turn position last chain).1 =
        (walk outcome tries' continues' turn position' last' chain).1 ↔
      Agree outcome tries tries' continues continues' turn chain := by
  induction chain generalizing turn position position' last last' with
  | nil => exact ⟨fun _ => trivial, fun _ => rfl⟩
  | cons first rest ih =>
      unfold Agree
      cases tried : tries turn first with
      | false =>
          cases tried' : tries' turn first with
          | false =>
              rw [walk_skip tried, walk_skip tried', ih]
              exact ⟨fun same => ⟨rfl, same⟩, fun both => both.2⟩
          | true =>
              constructor
              · intro same
                obtain ⟨later, head⟩ := walk_head tried' position' last' rest
                have own := tries_of_head (same.trans head)
                exact absurd (tried.symm.trans own) Bool.false_ne_true
              · exact fun both => absurd both.1 Bool.false_ne_true
      | true =>
          cases tried' : tries' turn first with
          | false =>
              constructor
              · intro same
                obtain ⟨later, head⟩ := walk_head tried position last rest
                have own := tries_of_head (same.symm.trans head)
                exact absurd (tried'.symm.trans own) Bool.false_ne_true
              · exact fun both => absurd both.1.symm Bool.false_ne_true
          | true =>
              rw [if_pos rfl, and_iff_right rfl]
              cases result : outcome turn first with
              | ok value =>
                  rw [walk_success tried result, walk_success tried' result]
                  exact ⟨fun _ => trivial, fun _ => rfl⟩
              | error error =>
                  dsimp only
                  cases goesOn : continues error with
                  | false =>
                      rw [walk_stop tried result goesOn]
                      cases goesOn' : continues' error with
                      | false =>
                          rw [walk_stop tried' result goesOn']
                          exact ⟨fun _ => trivial, fun _ => rfl⟩
                      | true =>
                          rw [walk_continue tried' result goesOn', List.cons_eq_cons, eq_comm (a := [])]
                          exact (and_iff_right rfl).trans walk_eq_nil
                  | true =>
                      rw [walk_continue tried result goesOn]
                      cases goesOn' : continues' error with
                      | false =>
                          rw [walk_stop tried' result goesOn', List.cons_eq_cons]
                          exact (and_iff_right rfl).trans walk_eq_nil
                      | true =>
                          rw [walk_continue tried' result goesOn', List.cons_eq_cons]
                          exact (and_iff_right rfl).trans ih

theorem success_of_agree {chain : List α} {position : Nat} {last : Option ε} (last' : Option ε)
    (agree : Agree outcome tries tries' continues continues' turn chain) {reached : Nat} {candidate : α}
    {value : β}
    (success : (walk outcome tries continues turn position last chain).2 =
      .succeeded reached candidate value) :
    (walk outcome tries' continues' turn position last' chain).2 =
      .succeeded reached candidate value := by
  induction chain generalizing turn position last last' with
  | nil => cases success
  | cons first rest ih =>
      unfold Agree at agree
      obtain ⟨same, agree⟩ := agree
      cases tried : tries turn first with
      | false =>
          rw [tried] at agree same
          rw [walk_skip tried] at success
          rw [walk_skip same.symm]
          exact ih _ agree success
      | true =>
          rw [tried] at agree same
          rw [if_pos rfl] at agree
          cases result : outcome turn first with
          | ok own =>
              rw [walk_success tried result] at success
              rw [walk_success same.symm result]
              exact success
          | error error =>
              rw [result] at agree
              dsimp only at agree
              cases goesOn : continues error with
              | false =>
                  rw [walk_stop tried result goesOn] at success
                  cases success
              | true =>
                  rw [walk_continue tried result goesOn] at success
                  rw [goesOn] at agree
                  cases goesOn' : continues' error with
                  | true =>
                      rw [goesOn'] at agree
                      rw [walk_continue same.symm result goesOn']
                      exact ih _ agree success
                  | false =>
                      rw [goesOn'] at agree
                      rw [walk_idle agree] at success
                      cases success

theorem exhausted_of_agree {chain : List α} {position : Nat} (last : Option ε) {last' : Option ε}
    (agree : Agree outcome tries tries' continues continues' turn chain) {error : ε}
    (stopped : (walk outcome tries' continues' turn position last' chain).2 = .stopped error)
    (passes : continues error = true) :
    ∃ final, (walk outcome tries continues turn position last chain).2 = .exhausted final := by
  induction chain generalizing turn position last last' with
  | nil => cases stopped
  | cons first rest ih =>
      unfold Agree at agree
      obtain ⟨same, agree⟩ := agree
      cases tried : tries turn first with
      | false =>
          rw [tried] at agree same
          rw [walk_skip same.symm] at stopped
          rw [walk_skip tried]
          exact ih _ agree stopped
      | true =>
          rw [tried] at agree same
          rw [if_pos rfl] at agree
          cases result : outcome turn first with
          | ok own =>
              rw [walk_success same.symm result] at stopped
              cases stopped
          | error own =>
              rw [result] at agree
              dsimp only at agree
              cases goesOn' : continues' own with
              | true =>
                  rw [walk_continue same.symm result goesOn'] at stopped
                  cases goesOn : continues own with
                  | true =>
                      rw [goesOn, goesOn'] at agree
                      rw [walk_continue tried result goesOn]
                      exact ih _ agree stopped
                  | false =>
                      rw [goesOn, goesOn'] at agree
                      rw [walk_idle agree] at stopped
                      cases stopped
              | false =>
                  rw [walk_stop same.symm result goesOn'] at stopped
                  obtain rfl := Ending.stopped.inj stopped
                  rw [passes, goesOn'] at agree
                  rw [walk_continue tried result passes, walk_idle agree]
                  exact ⟨_, rfl⟩

end SyndicateClaw.FallbackChain
