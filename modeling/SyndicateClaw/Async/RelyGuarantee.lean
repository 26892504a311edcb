import SyndicateClaw.Async.Playback

/-! Rely/guarantee reasoning for coroutines.

A protocol says what the environment may do at each suspension point and what
every atomic segment of the coroutine does in return. -/

namespace SyndicateClaw.Async

structure Protocol (σ ℓ : Type) where
  rely : ℓ → σ → σ → Prop
  guarantee : σ → σ → Prop
  refl : ∀ s, guarantee s s
  trans : ∀ {a b c}, guarantee a b → guarantee b c → guarantee a c

variable {σ ε ℓ α β : Type}

/-- From a segment that began in `start`: every segment keeps the guarantee as
long as the environment keeps the rely, a value ends in `Q` and an exception in
`E`. -/
def Res.Meets (p : Protocol σ ℓ) (Q : α → σ → Prop) (E : ε → σ → Prop) :
    σ → Res σ ε ℓ α → Prop
  | start, .ok s a => p.guarantee start s ∧ Q a s
  | start, .raise s e => p.guarantee start s ∧ E e s
  | start, .yield point s k =>
      p.guarantee start s ∧ ∀ s', p.rely point s s' → Res.Meets p Q E s' (k s')

/-- A coroutine started in a state satisfying `P`. -/
def Co.Triple (p : Protocol σ ℓ) (P : σ → Prop) (m : Co σ ε ℓ α) (Q : α → σ → Prop)
    (E : ε → σ → Prop) : Prop :=
  ∀ s, P s → (m s).Meets p Q E s

namespace Res

variable {p : Protocol σ ℓ} {Q Q' : α → σ → Prop} {E E' : ε → σ → Prop}

theorem Meets.after {start s : σ} {r : Res σ ε ℓ α} (meets : r.Meets p Q E s)
    (before : p.guarantee start s) : r.Meets p Q E start := by
  cases r with
  | ok s' a => exact ⟨p.trans before meets.1, meets.2⟩
  | raise s' e => exact ⟨p.trans before meets.1, meets.2⟩
  | yield point s' k => exact ⟨p.trans before meets.1, meets.2⟩

theorem Meets.state {start : σ} {r : Res σ ε ℓ α} (meets : r.Meets p Q E start) :
    p.guarantee start r.state := by
  cases r with
  | ok s a => exact meets.1
  | raise s e => exact meets.1
  | yield point s k => exact meets.1

theorem Meets.mono {start : σ} {r : Res σ ε ℓ α} (meets : r.Meets p Q E start)
    (value : ∀ a s, Q a s → Q' a s) (error : ∀ e s, E e s → E' e s) :
    r.Meets p Q' E' start := by
  induction r generalizing start with
  | ok s a => exact ⟨meets.1, value a s meets.2⟩
  | raise s e => exact ⟨meets.1, error e s meets.2⟩
  | yield point s k ih =>
      exact ⟨meets.1, fun s' step => ih s' (meets.2 s' step)⟩

theorem Meets.bind {start : σ} {r : Res σ ε ℓ α} {f : α → Co σ ε ℓ β}
    {Q₂ : β → σ → Prop} (meets : r.Meets p Q E start)
    (next : ∀ a s, Q a s → (f a s).Meets p Q₂ E s) :
    (r.bind f).Meets p Q₂ E start := by
  induction r generalizing start with
  | ok s a => exact (next a s meets.2).after meets.1
  | raise s e => exact meets
  | yield point s k ih =>
      exact ⟨meets.1, fun s' step => ih s' (meets.2 s' step)⟩

theorem Meets.handle {start : σ} {r : Res σ ε ℓ α} {handler : ε → Co σ ε ℓ α} {E₂ : ε → σ → Prop}
    (meets : r.Meets p Q E start) (caught : ∀ e s, E e s → (handler e s).Meets p Q E₂ s) :
    (r.handle handler).Meets p Q E₂ start := by
  induction r generalizing start with
  | ok s a => exact meets
  | raise s e => exact (caught e s meets.2).after meets.1
  | yield point s k ih =>
      exact ⟨meets.1, fun s' step => ih s' (meets.2 s' step)⟩

theorem Meets.settle {start : σ} {r : Res σ ε ℓ α} (meets : r.Meets p Q E start)
    (quiet : ∀ point s, p.rely point s s) :
    p.guarantee start r.settle.1 ∧
      match r.settle.2 with
      | .ok a => Q a r.settle.1
      | .error e => E e r.settle.1 := by
  induction r generalizing start with
  | ok s a => exact meets
  | raise s e => exact meets
  | yield point s k ih =>
      obtain ⟨kept, ends⟩ := ih s (meets.2 s (quiet point s))
      exact ⟨p.trans meets.1 kept, ends⟩

theorem Meets.settleWith {start : σ} {r : Res σ ε ℓ α} (meets : r.Meets p Q E start)
    {env : Nat → σ → σ} {i : Nat}
    (fair : ∀ point s s', (point, s, s') ∈ r.trace env i → p.rely point s s')
    (kept : ∀ point s s', p.rely point s s' → p.guarantee s s') :
    p.guarantee start (r.settleWith env i).1 ∧
      match (r.settleWith env i).2 with
      | .ok a => Q a (r.settleWith env i).1
      | .error e => E e (r.settleWith env i).1 := by
  induction r generalizing start i with
  | ok s a => exact meets
  | raise s e => exact meets
  | yield point s k ih =>
      have step := fair point s (env i s) List.mem_cons_self
      obtain ⟨after, ends⟩ := ih (env i s) (meets.2 _ step)
        (fun _ _ _ member => fair _ _ _ (List.mem_cons_of_mem _ member))
      exact ⟨p.trans meets.1 (p.trans (kept _ _ _ step) after), ends⟩

end Res

namespace Co.Triple

variable {p : Protocol σ ℓ} {P P' : σ → Prop} {Q Q' : α → σ → Prop} {E E' : ε → σ → Prop}

theorem conseq {m : Co σ ε ℓ α} (triple : Co.Triple p P m Q E) (before : ∀ s, P' s → P s)
    (value : ∀ a s, Q a s → Q' a s) (error : ∀ e s, E e s → E' e s) :
    Co.Triple p P' m Q' E' :=
  fun s holds => (triple s (before s holds)).mono value error

theorem bind {m : Co σ ε ℓ α} {f : α → Co σ ε ℓ β} {Q₂ : β → σ → Prop}
    (first : Co.Triple p P m Q E) (second : ∀ a, Co.Triple p (Q a) (f a) Q₂ E) :
    Co.Triple p P (m >>= f) Q₂ E :=
  fun s holds => (first s holds).bind fun a s' holds' => second a s' holds'

theorem tryCatch {m : Co σ ε ℓ α} {handler : ε → Co σ ε ℓ α} {E₂ : ε → σ → Prop}
    (body : Co.Triple p P m Q E) (caught : ∀ e, Co.Triple p (E e) (handler e) Q E₂) :
    Co.Triple p P (m.tryCatch handler) Q E₂ :=
  fun s holds => (body s holds).handle fun e s' holds' => caught e s' holds'

theorem pure {a : α} (value : ∀ s, P s → Q a s) :
    Co.Triple p P (Pure.pure a : Co σ ε ℓ α) Q E :=
  fun s holds => ⟨p.refl s, value s holds⟩

theorem raise {e : ε} (error : ∀ s, P s → E e s) :
    Co.Triple p P (Co.raise e : Co σ ε ℓ α) Q E :=
  fun s holds => ⟨p.refl s, error s holds⟩

theorem modify {f : σ → σ} {Q : Unit → σ → Prop}
    (step : ∀ s, P s → p.guarantee s (f s) ∧ Q () (f s)) :
    Co.Triple p P (Co.modify f : Co σ ε ℓ Unit) Q E :=
  fun s holds => step s holds

theorem get : Co.Triple p P (Co.get : Co σ ε ℓ σ) (fun a s => a = s ∧ P s) E :=
  fun s holds => ⟨p.refl s, rfl, holds⟩

theorem of_get {f : σ → Co σ ε ℓ α} {s : σ} (body : Co.Triple p P (f s) Q E) (holds : P s) :
    ((Co.get >>= f) s).Meets p Q E s :=
  body s holds

theorem await {point : ℓ} {Q : Unit → σ → Prop}
    (stable : ∀ s s', P s → p.rely point s s' → Q () s') :
    Co.Triple p P (Co.await point : Co σ ε ℓ Unit) Q E :=
  fun s holds => ⟨p.refl s, fun s' step => ⟨p.refl s', stable s s' holds step⟩⟩

end Co.Triple

end SyndicateClaw.Async
