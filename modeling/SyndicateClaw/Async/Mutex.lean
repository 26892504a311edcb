import Mathlib.Logic.Function.Basic

/-! Calls that read and change a shared state under a lock.

What a call changes is applied to the state there is when it writes, not to the one it has
read; under the lock they are the same, and the calls happen one after another. -/

namespace SyndicateClaw.Async.Mutex

inductive Phase (κ σ ε α : Type) where
  | outside
  | entered (call : κ)
  | loaded (call : κ) (seen : σ)
  | stored (call : κ) (answer : Except ε α)

def Phase.pending {κ σ ε α : Type} : Phase κ σ ε α → List (κ × Except ε α)
  | .stored call answer => [(call, answer)]
  | _ => []

/-- `returned` lists the answers in the order in which the callers got them. -/
structure Guarded (ι κ σ ε α : Type) where
  shared : σ
  holder : Option ι
  phase : ι → Phase κ σ ε α
  returned : List (ι × κ × Except ε α)

namespace Guarded

variable {ι κ σ ε α : Type}

def start (shared : σ) : Guarded ι κ σ ε α :=
  { shared, holder := none, phase := fun _ => .outside, returned := [] }

def pending (s : Guarded ι κ σ ε α) : List (κ × Except ε α) :=
  match s.holder with
  | some i => (s.phase i).pending
  | none => []

def answers (s : Guarded ι κ σ ε α) : List (κ × Except ε α) :=
  s.returned.map (·.2) ++ s.pending

def enter [DecidableEq ι] (s : Guarded ι κ σ ε α) (i : ι) (next : Phase κ σ ε α) :
    Guarded ι κ σ ε α :=
  { s with phase := Function.update s.phase i next }

end Guarded

section

variable {ι κ σ ε α : Type} [DecidableEq ι] (op : κ → σ → Except ε (α × (σ → σ)))

inductive Step : Guarded ι κ σ ε α → Guarded ι κ σ ε α → Prop where
  | enter {s : Guarded ι κ σ ε α} {i : ι} (call : κ) : s.phase i = .outside → s.holder = none →
      Step s ({ s with holder := some i }.enter i (.entered call))
  | load {s : Guarded ι κ σ ε α} {i : ι} {call : κ} : s.phase i = .entered call →
      Step s (s.enter i (.loaded call s.shared))
  | store {s : Guarded ι κ σ ε α} {i : ι} {call : κ} {seen : σ} {a : α} {change : σ → σ} :
      s.phase i = .loaded call seen → op call seen = .ok (a, change) →
      Step s ({ s with shared := change s.shared }.enter i (.stored call (.ok a)))
  | raise {s : Guarded ι κ σ ε α} {i : ι} {call : κ} {seen : σ} {e : ε} :
      s.phase i = .loaded call seen → op call seen = .error e →
      Step s (s.enter i (.stored call (.error e)))
  | leave {s : Guarded ι κ σ ε α} {i : ι} {call : κ} {answer : Except ε α} :
      s.phase i = .stored call answer →
      Step s ({ s with holder := none, returned := s.returned ++ [(i, call, answer)] }.enter i
        .outside)

inductive Reaches (shared : σ) : Guarded ι κ σ ε α → Prop where
  | start : Reaches shared (.start shared)
  | step {s s' : Guarded ι κ σ ε α} : Reaches shared s → Step op s s' → Reaches shared s'

/-- The calls one after another, from a first state, with their answers. -/
inductive Serial (shared : σ) : List (κ × Except ε α) → σ → Prop where
  | nil : Serial shared [] shared
  | ok {history : List (κ × Except ε α)} {s : σ} {call : κ} {a : α} {change : σ → σ} :
      Serial shared history s → op call s = .ok (a, change) →
      Serial shared (history ++ [(call, .ok a)]) (change s)
  | error {history : List (κ × Except ε α)} {s : σ} {call : κ} {e : ε} :
      Serial shared history s → op call s = .error e →
      Serial shared (history ++ [(call, .error e)]) s

/-- Only the holder of the lock is inside, what it has read is the state, and the state is that
of the calls so far. -/
structure Exclusive (shared : σ) (s : Guarded ι κ σ ε α) : Prop where
  alone : ∀ i, s.phase i ≠ .outside → s.holder = some i
  current : ∀ i call seen, s.phase i = .loaded call seen → seen = s.shared
  serial : Serial op shared s.answers s.shared

variable {op} {shared : σ} {s s' : Guarded ι κ σ ε α}

theorem enter_self (s : Guarded ι κ σ ε α) (i : ι) (next : Phase κ σ ε α) :
    (s.enter i next).phase i = next := by
  simp only [Guarded.enter, Function.update_self]

theorem enter_ne (s : Guarded ι κ σ ε α) {i j : ι} (other : j ≠ i) (next : Phase κ σ ε α) :
    (s.enter i next).phase j = s.phase j := by
  simp only [Guarded.enter, Function.update_of_ne other]

theorem Exclusive.move (exclusive : Exclusive op shared s) {i : ι} {next : Phase κ σ ε α}
    {t : Guarded ι κ σ ε α} (phases : t.phase = s.phase) (held : t.holder = some i)
    (before : s.holder = some i ∨ s.holder = none)
    (current : ∀ call seen, next = .loaded call seen → seen = t.shared)
    (serial : Serial op shared (t.returned.map (·.2) ++ next.pending) t.shared) :
    Exclusive op shared (t.enter i next) := by
  have alone (j : ι) (inside : (t.enter i next).phase j ≠ .outside) : j = i := by
    by_contra other
    rw [enter_ne t other, phases] at inside
    have own := exclusive.alone j inside
    rcases before with before | before
    · rw [before, Option.some.injEq] at own
      exact other own.symm
    · rw [before] at own
      cases own
  refine ⟨fun j inside => ?_, fun j call seen loaded => ?_, ?_⟩
  · rw [alone j inside]
    exact held
  · obtain rfl := alone j fun out => by
      rw [loaded] at out
      cases out
    rw [enter_self] at loaded
    exact current call seen loaded
  · have pending : (t.enter i next).pending = next.pending := by
      unfold Guarded.pending
      rw [show (t.enter i next).holder = some i from held]
      exact congrArg Phase.pending (enter_self t i next)
    unfold Guarded.answers
    rw [pending]
    exact serial

omit [DecidableEq ι] in
theorem Exclusive.answered (exclusive : Exclusive op shared s) {i : ι} {phase : Phase κ σ ε α}
    (held : s.holder = some i) (here : s.phase i = phase) :
    Serial op shared (s.returned.map (·.2) ++ phase.pending) s.shared := by
  have serial := exclusive.serial
  unfold Guarded.answers Guarded.pending at serial
  rw [held] at serial
  exact here ▸ serial

theorem Exclusive.step (exclusive : Exclusive op shared s) (step : Step op s s') :
    Exclusive op shared s' := by
  have inside {i : ι} {phase : Phase κ σ ε α} (here : s.phase i = phase)
      (other : phase ≠ .outside) : s.holder = some i :=
    exclusive.alone i fun out => other (here.symm.trans out)
  cases step with
  | @enter i call outside free =>
      refine exclusive.move rfl rfl (.inr free) nofun ?_
      have serial := exclusive.serial
      unfold Guarded.answers Guarded.pending at serial
      rw [free] at serial
      exact serial
  | @load i call entered =>
      have held := inside entered nofun
      have serial := exclusive.answered held entered
      refine exclusive.move rfl held (.inl held) (fun call' seen same => ?_) serial
      cases same
      rfl
  | @store i call seen a change loaded ok =>
      have held := inside loaded nofun
      obtain rfl := exclusive.current i call seen loaded
      refine exclusive.move rfl held (.inl held) nofun ?_
      have serial : Serial op shared (s.returned.map (·.2) ++ []) s.shared :=
        exclusive.answered held loaded
      rw [List.append_nil] at serial
      exact serial.ok ok
  | @raise i call seen e loaded failed =>
      have held := inside loaded nofun
      obtain rfl := exclusive.current i call seen loaded
      refine exclusive.move rfl held (.inl held) nofun ?_
      have serial : Serial op shared (s.returned.map (·.2) ++ []) s.shared :=
        exclusive.answered held loaded
      rw [List.append_nil] at serial
      exact serial.error failed
  | @leave i call answer stored =>
      have held := inside stored nofun
      have out (j : ι) : (Guarded.enter { s with
          holder := none, returned := s.returned ++ [(i, call, answer)] } i .outside).phase j =
            .outside := by
        by_cases own : j = i
        · rw [own, enter_self]
        · rw [enter_ne _ own]
          by_contra inside
          have held' := exclusive.alone j inside
          rw [held, Option.some.injEq] at held'
          exact own held'.symm
      refine ⟨fun j inside => absurd (out j) inside, fun j call' seen loaded => ?_, ?_⟩
      · rw [out j] at loaded
        cases loaded
      · have serial := exclusive.answered held stored
        have same : (s.returned ++ [(i, call, answer)]).map (·.2) ++ [] =
            s.returned.map (·.2) ++ (Phase.stored (σ := σ) call answer).pending := by
          rw [List.append_nil, List.map_append]
          rfl
        rw [← same] at serial
        exact serial

theorem serial_of_reaches (reaches : Reaches op shared s) : Serial op shared s.answers s.shared := by
  suffices exclusive : Exclusive op shared s from exclusive.serial
  induction reaches with
  | start => exact ⟨fun i inside => absurd rfl inside, nofun, .nil⟩
  | step _ step ih => exact ih.step step

omit [DecidableEq ι] in
theorem answers_of_free (free : s.holder = none) : s.answers = s.returned.map (·.2) := by
  unfold Guarded.answers Guarded.pending
  rw [free]
  exact List.append_nil _

theorem Reaches.call (reaches : Reaches op shared s) (free : s.holder = none) {i : ι}
    (outside : s.phase i = .outside) {call : κ} {a : α} {change : σ → σ}
    (ok : op call s.shared = .ok (a, change)) :
    ∃ s', Reaches op shared s' ∧ s'.shared = change s.shared ∧ s'.holder = none ∧
      s'.phase = s.phase ∧ s'.returned = s.returned ++ [(i, call, .ok a)] := by
  have entered := reaches.step (.enter call outside free)
  have loaded := entered.step (.load (enter_self _ i _))
  have stored := loaded.step (.store (enter_self _ i _) ok)
  refine ⟨_, stored.step (.leave (enter_self _ i _)), rfl, rfl, ?_, rfl⟩
  simp only [Guarded.enter, Function.update_idem]
  rw [← outside, Function.update_eq_self]

end

end SyndicateClaw.Async.Mutex
