import Mathlib.Logic.Basic

/-! Cooperative coroutines over a shared state.

A coroutine runs atomically up to its next suspension point. At a suspension
point it hands the shared state to its environment and continues from whatever
state the environment leaves. Exceptions keep the state written so far. -/

namespace SyndicateClaw.Async

/-- What one atomic segment leaves: a value, an exception, or a suspension at a
labelled point with the rest of the computation. -/
inductive Res (σ ε ℓ α : Type) where
  | ok (s : σ) (a : α)
  | raise (s : σ) (e : ε)
  | yield (point : ℓ) (s : σ) (k : σ → Res σ ε ℓ α)

def Co (σ ε ℓ α : Type) : Type := σ → Res σ ε ℓ α

variable {σ ε ℓ α β : Type}

namespace Res

def bind : Res σ ε ℓ α → (α → Co σ ε ℓ β) → Res σ ε ℓ β
  | .ok s a, f => f a s
  | .raise s e, _ => .raise s e
  | .yield point s k, f => .yield point s fun s' => (k s').bind f

def state : Res σ ε ℓ α → σ
  | .ok s _ => s
  | .raise s _ => s
  | .yield _ s _ => s

/-- Run to the end with `env i` applied at the `i`-th suspension point. -/
def settleWith (env : Nat → σ → σ) : Nat → Res σ ε ℓ α → σ × Except ε α
  | _, .ok s a => (s, .ok a)
  | _, .raise s e => (s, .error e)
  | i, .yield _ s k => settleWith env (i + 1) (k (env i s))

/-- The suspension points passed, each with the state left by the coroutine and
the state the environment handed back. -/
def trace (env : Nat → σ → σ) : Nat → Res σ ε ℓ α → List (ℓ × σ × σ)
  | _, .ok _ _ => []
  | _, .raise _ _ => []
  | i, .yield point s k => (point, s, env i s) :: trace env (i + 1) (k (env i s))

theorem mem_trace {env : Nat → σ → σ} {r : Res σ ε ℓ α} {i : Nat} {point : ℓ} {s s' : σ}
    (member : (point, s, s') ∈ r.trace env i) : ∃ j, s' = env j s := by
  induction r generalizing i with
  | ok s a => cases member
  | raise s e => cases member
  | yield label before k ih =>
      rcases List.mem_cons.mp member with same | later
      · cases same
        exact ⟨i, rfl⟩
      · exact ih _ later

def settle : Res σ ε ℓ α → σ × Except ε α
  | .ok s a => (s, .ok a)
  | .raise s e => (s, .error e)
  | .yield _ s k => settle (k s)

theorem settleWith_shift (env : Nat → σ → σ) (i k : Nat) (r : Res σ ε ℓ α) :
    settleWith env (i + k) r = settleWith (fun j => env (j + k)) i r := by
  induction r generalizing i with
  | ok s a => rfl
  | raise s e => rfl
  | yield point s k' ih =>
      simp only [settleWith]
      rw [Nat.add_right_comm]
      exact ih (env (i + k) s) (i + 1)

theorem settle_bind (r : Res σ ε ℓ α) (f : α → Co σ ε ℓ β) :
    settle (r.bind f) =
      match settle r with
      | (s, .ok a) => settle (f a s)
      | (s, .error e) => (s, .error e) := by
  induction r with
  | ok s a => rfl
  | raise s e => rfl
  | yield point s k ih => exact ih s

theorem bind_assoc {γ : Type} (r : Res σ ε ℓ α) (f : α → Co σ ε ℓ β)
    (g : β → Co σ ε ℓ γ) :
    (r.bind f).bind g = r.bind fun a s => (f a s).bind g := by
  induction r with
  | ok s a => rfl
  | raise s e => rfl
  | yield point s k ih =>
      simp only [bind]
      congr
      funext s'
      exact ih s'

end Res

namespace Co

protected def pure (a : α) : Co σ ε ℓ α := fun s => .ok s a

protected def bind (m : Co σ ε ℓ α) (f : α → Co σ ε ℓ β) : Co σ ε ℓ β :=
  fun s => (m s).bind f

instance : Monad (Co σ ε ℓ) where
  pure := Co.pure
  bind := Co.bind

def raise (e : ε) : Co σ ε ℓ α := fun s => .raise s e

def get : Co σ ε ℓ σ := fun s => .ok s s

theorem run_get_bind (f : σ → Co σ ε ℓ α) (s : σ) : (get >>= f) s = f s s := rfl

def modify (f : σ → σ) : Co σ ε ℓ Unit := fun s => .ok (f s) ()

def await (point : ℓ) : Co σ ε ℓ Unit := fun s => .yield point s fun s' => .ok s' ()

def settle (m : Co σ ε ℓ α) (s : σ) : σ × Except ε α := (m s).settle

variable (s : σ)

@[simp] theorem settle_pure (a : α) :
    (pure a : Co σ ε ℓ α).settle s = (s, .ok a) := rfl

@[simp] theorem settle_raise (e : ε) :
    (raise e : Co σ ε ℓ α).settle s = (s, .error e) := rfl

@[simp] theorem settle_get : (get : Co σ ε ℓ σ).settle s = (s, .ok s) := rfl

@[simp] theorem settle_modify (f : σ → σ) :
    (modify f : Co σ ε ℓ Unit).settle s = (f s, .ok ()) := rfl

@[simp] theorem settle_await (point : ℓ) :
    (await point : Co σ ε ℓ Unit).settle s = (s, .ok ()) := rfl

@[simp] theorem settle_bind (m : Co σ ε ℓ α) (f : α → Co σ ε ℓ β) :
    (m >>= f).settle s =
      match m.settle s with
      | (s', .ok a) => (f a).settle s'
      | (s', .error e) => (s', .error e) :=
  Res.settle_bind (m s) f

end Co

end SyndicateClaw.Async
