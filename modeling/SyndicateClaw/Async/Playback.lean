import SyndicateClaw.Async.Coroutine

/-! Coroutines that catch exceptions, and what a coroutine does in a given environment. -/

namespace SyndicateClaw.Async

variable {σ ε ℓ α β : Type}

def Res.handle : Res σ ε ℓ α → (ε → Co σ ε ℓ α) → Res σ ε ℓ α
  | .ok s a, _ => .ok s a
  | .raise s e, handler => handler e s
  | .yield point s k, handler => .yield point s fun s' => (k s').handle handler

def Co.tryCatch (m : Co σ ε ℓ α) (handler : ε → Co σ ε ℓ α) : Co σ ε ℓ α :=
  fun s => (m s).handle handler

/-- The points that were passed, the number of the next one, and how it ended. -/
structure Take (σ ε ℓ α : Type) where
  points : List (ℓ × σ × σ)
  next : Nat
  state : σ
  outcome : Except ε α

namespace Take

def after (points : List (ℓ × σ × σ)) (take : Take σ ε ℓ α) : Take σ ε ℓ α :=
  { take with points := points ++ take.points }

@[simp] theorem points_after (points : List (ℓ × σ × σ)) (take : Take σ ε ℓ α) :
    (take.after points).points = points ++ take.points := rfl

@[simp] theorem outcome_after (points : List (ℓ × σ × σ)) (take : Take σ ε ℓ α) :
    (take.after points).outcome = take.outcome := rfl

@[simp] theorem state_after (points : List (ℓ × σ × σ)) (take : Take σ ε ℓ α) :
    (take.after points).state = take.state := rfl

@[simp] theorem next_after (points : List (ℓ × σ × σ)) (take : Take σ ε ℓ α) :
    (take.after points).next = take.next := rfl

end Take

variable (env : Nat → σ → σ)

/-- What happens when the environment makes its `i`-th change at the `i`-th point. -/
def Res.play : Nat → Res σ ε ℓ α → Take σ ε ℓ α
  | i, .ok s a => { points := [], next := i, state := s, outcome := .ok a }
  | i, .raise s e => { points := [], next := i, state := s, outcome := .error e }
  | i, .yield point s k => (play (i + 1) (k (env i s))).after [(point, s, env i s)]

def Co.play (i : Nat) (m : Co σ ε ℓ α) (s : σ) : Take σ ε ℓ α := (m s).play env i

theorem Res.play_yield (i : Nat) (point : ℓ) (s : σ) (k : σ → Res σ ε ℓ α) :
    (Res.yield point s k).play env i =
      ((k (env i s)).play env (i + 1)).after [(point, s, env i s)] := rfl

theorem Res.play_bind (i : Nat) (r : Res σ ε ℓ α) (f : α → Co σ ε ℓ β) :
    (r.bind f).play env i =
      match (r.play env i).outcome with
      | .ok a =>
          ((f a).play env (r.play env i).next (r.play env i).state).after (r.play env i).points
      | .error e =>
          { points := (r.play env i).points, next := (r.play env i).next
            state := (r.play env i).state, outcome := .error e } := by
  induction r generalizing i with
  | ok s a => rfl
  | raise s e => rfl
  | yield point s k ih =>
      show (Res.yield point s fun s' => (k s').bind f).play env i = _
      rw [play_yield, play_yield, ih, Take.outcome_after]
      cases ((k (env i s)).play env (i + 1)).outcome with
      | ok a => rfl
      | error e => rfl

theorem Res.play_handle (i : Nat) (r : Res σ ε ℓ α) (handler : ε → Co σ ε ℓ α) :
    (r.handle handler).play env i =
      match (r.play env i).outcome with
      | .ok _ => r.play env i
      | .error e =>
          ((handler e).play env (r.play env i).next (r.play env i).state).after
            (r.play env i).points := by
  induction r generalizing i with
  | ok s a => rfl
  | raise s e => rfl
  | yield point s k ih =>
      show (Res.yield point s fun s' => (k s').handle handler).play env i = _
      rw [play_yield, play_yield, ih, Take.outcome_after]
      cases ((k (env i s)).play env (i + 1)).outcome with
      | ok a => rfl
      | error e => rfl

namespace Co

theorem bind_bind {γ : Type} (m : Co σ ε ℓ α) (f : α → Co σ ε ℓ β) (g : β → Co σ ε ℓ γ) :
    m >>= f >>= g = m >>= fun a => f a >>= g :=
  funext fun s => Res.bind_assoc (m s) f g

variable (i : Nat) (s : σ)

theorem play_bind (m : Co σ ε ℓ α) (f : α → Co σ ε ℓ β) :
    (m >>= f).play env i s =
      match (m.play env i s).outcome with
      | .ok a =>
          ((f a).play env (m.play env i s).next (m.play env i s).state).after
            (m.play env i s).points
      | .error e =>
          { points := (m.play env i s).points, next := (m.play env i s).next
            state := (m.play env i s).state, outcome := .error e } :=
  Res.play_bind env i (m s) f

theorem play_tryCatch (m : Co σ ε ℓ α) (handler : ε → Co σ ε ℓ α) :
    (m.tryCatch handler).play env i s =
      match (m.play env i s).outcome with
      | .ok _ => m.play env i s
      | .error e =>
          ((handler e).play env (m.play env i s).next (m.play env i s).state).after
            (m.play env i s).points :=
  Res.play_handle env i (m s) handler

theorem play_bind_ok {m : Co σ ε ℓ α} {a : α} (done : (m.play env i s).outcome = .ok a)
    (f : α → Co σ ε ℓ β) :
    (m >>= f).play env i s =
      ((f a).play env (m.play env i s).next (m.play env i s).state).after (m.play env i s).points := by
  rw [play_bind, done]

theorem play_tryCatch_ok {m : Co σ ε ℓ α} {a : α} (done : (m.play env i s).outcome = .ok a)
    (handler : ε → Co σ ε ℓ α) : (m.tryCatch handler).play env i s = m.play env i s := by
  rw [play_tryCatch, done]

theorem play_pure (a : α) : (pure a : Co σ ε ℓ α).play env i s =
    { points := [], next := i, state := s, outcome := .ok a } := rfl

theorem play_get_bind (f : σ → Co σ ε ℓ α) :
    ((get : Co σ ε ℓ σ) >>= f).play env i s = (f s).play env i s := rfl

theorem play_await_bind (point : ℓ) (f : Unit → Co σ ε ℓ α) :
    ((await point : Co σ ε ℓ Unit) >>= f).play env i s =
      ((f ()).play env (i + 1) (env i s)).after [(point, s, env i s)] := rfl

theorem points_discard (m : Co σ ε ℓ α) :
    ((do
      let _ ← m
      return () : Co σ ε ℓ Unit).play env i s).points = (m.play env i s).points := by
  rw [play_bind]
  cases (m.play env i s).outcome with
  | ok a => exact List.append_nil _
  | error e => rfl

end Co

end SyndicateClaw.Async
