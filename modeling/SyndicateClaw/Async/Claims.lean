import SyndicateClaw.Async.Playback

/-! What coroutines claim at their points, as long as the environment keeps to a relation. -/

namespace SyndicateClaw.Async

variable {σ ε ℓ α β : Type}

section

variable (rely : σ → σ → Prop) (claim : ℓ → σ → Prop)

/-- The claim is true at every point, a value ends in `Q` and an exception in `E`. -/
def Res.Upholds (Q : α → σ → Prop) (E : ε → σ → Prop) : Res σ ε ℓ α → Prop
  | .ok s a => Q a s
  | .raise s e => E e s
  | .yield point s k => claim point s ∧ ∀ s', rely s s' → Upholds Q E (k s')

def Co.Upholds (P : σ → Prop) (m : Co σ ε ℓ α) (Q : α → σ → Prop) (E : ε → σ → Prop) : Prop :=
  ∀ s, P s → (m s).Upholds rely claim Q E

end

variable {rely : σ → σ → Prop} {claim : ℓ → σ → Prop}

namespace Res

variable {Q Q' : α → σ → Prop} {E E' : ε → σ → Prop} {r : Res σ ε ℓ α}

theorem Upholds.mono (upholds : r.Upholds rely claim Q E) (value : ∀ a s, Q a s → Q' a s)
    (error : ∀ e s, E e s → E' e s) : r.Upholds rely claim Q' E' := by
  induction r with
  | ok s a => exact value a s upholds
  | raise s e => exact error e s upholds
  | yield point s k ih => exact ⟨upholds.1, fun s' step => ih s' (upholds.2 s' step)⟩

theorem Upholds.bind {f : α → Co σ ε ℓ β} {Q₂ : β → σ → Prop}
    (upholds : r.Upholds rely claim Q E) (next : ∀ a s, Q a s → (f a s).Upholds rely claim Q₂ E) :
    (r.bind f).Upholds rely claim Q₂ E := by
  induction r with
  | ok s a => exact next a s upholds
  | raise s e => exact upholds
  | yield point s k ih => exact ⟨upholds.1, fun s' step => ih s' (upholds.2 s' step)⟩

theorem Upholds.handle {handler : ε → Co σ ε ℓ α} {E₂ : ε → σ → Prop}
    (upholds : r.Upholds rely claim Q E)
    (caught : ∀ e s, E e s → (handler e s).Upholds rely claim Q E₂) :
    (r.handle handler).Upholds rely claim Q E₂ := by
  induction r with
  | ok s a => exact upholds
  | raise s e => exact caught e s upholds
  | yield point s k ih => exact ⟨upholds.1, fun s' step => ih s' (upholds.2 s' step)⟩

variable {env : Nat → σ → σ} (fair : ∀ i s, rely s (env i s)) (i : Nat)

include fair

theorem Upholds.points_play (upholds : r.Upholds rely claim Q E) {step : ℓ × σ × σ}
    (passed : step ∈ (r.play env i).points) :
    claim step.1 step.2.1 ∧ ∃ j, step.2.2 = env j step.2.1 := by
  induction r generalizing i with
  | ok s a => cases passed
  | raise s e => cases passed
  | yield point s k ih =>
      rw [play_yield, Take.points_after] at passed
      cases List.mem_append.mp passed with
      | inl first =>
          obtain rfl := List.mem_singleton.mp first
          exact ⟨upholds.1, i, rfl⟩
      | inr later => exact ih (env i s) (i + 1) (upholds.2 _ (fair i s)) later

theorem Upholds.ends_play (upholds : r.Upholds rely claim Q E) :
    (∃ a, (r.play env i).outcome = .ok a ∧ Q a (r.play env i).state) ∨
      ∃ e, (r.play env i).outcome = .error e ∧ E e (r.play env i).state := by
  induction r generalizing i with
  | ok s a => exact .inl ⟨a, rfl, upholds⟩
  | raise s e => exact .inr ⟨e, rfl, upholds⟩
  | yield point s k ih => exact ih (env i s) (i + 1) (upholds.2 _ (fair i s))

end Res

namespace Co.Upholds

variable {P P' : σ → Prop} {Q Q' : α → σ → Prop} {E E' : ε → σ → Prop}

theorem conseq {m : Co σ ε ℓ α} (upholds : Co.Upholds rely claim P m Q E)
    (before : ∀ s, P' s → P s) (value : ∀ a s, Q a s → Q' a s) (error : ∀ e s, E e s → E' e s) :
    Co.Upholds rely claim P' m Q' E' :=
  fun s holds => (upholds s (before s holds)).mono value error

theorem bind {m : Co σ ε ℓ α} {f : α → Co σ ε ℓ β} {Q₂ : β → σ → Prop}
    (first : Co.Upholds rely claim P m Q E)
    (second : ∀ a, Co.Upholds rely claim (Q a) (f a) Q₂ E) :
    Co.Upholds rely claim P (m >>= f) Q₂ E :=
  fun s holds => (first s holds).bind fun a s' holds' => second a s' holds'

theorem tryCatch {m : Co σ ε ℓ α} {handler : ε → Co σ ε ℓ α} {E₂ : ε → σ → Prop}
    (body : Co.Upholds rely claim P m Q E)
    (caught : ∀ e, Co.Upholds rely claim (E e) (handler e) Q E₂) :
    Co.Upholds rely claim P (m.tryCatch handler) Q E₂ :=
  fun s holds => (body s holds).handle fun e s' holds' => caught e s' holds'

theorem pure {a : α} (value : ∀ s, P s → Q a s) :
    Co.Upholds rely claim P (Pure.pure a : Co σ ε ℓ α) Q E := value

theorem raise {e : ε} (error : ∀ s, P s → E e s) :
    Co.Upholds rely claim P (Co.raise e : Co σ ε ℓ α) Q E := error

theorem modify {f : σ → σ} {Q : Unit → σ → Prop} (step : ∀ s, P s → Q () (f s)) :
    Co.Upholds rely claim P (Co.modify f : Co σ ε ℓ Unit) Q E := step

theorem get : Co.Upholds rely claim P (Co.get : Co σ ε ℓ σ) (fun a s => a = s ∧ P s) E :=
  fun _ holds => ⟨rfl, holds⟩

theorem get_bind {f : σ → Co σ ε ℓ α}
    (next : ∀ s, P s → (f s s).Upholds rely claim Q E) :
    Co.Upholds rely claim P (Co.get >>= f) Q E := next

theorem await {point : ℓ} {Q : Unit → σ → Prop} (claims : ∀ s, P s → claim point s)
    (next : ∀ s s', P s → rely s s' → Q () s') :
    Co.Upholds rely claim P (Co.await point : Co σ ε ℓ Unit) Q E :=
  fun s holds => ⟨claims s holds, fun s' step => next s s' holds step⟩

theorem ends_play {m : Co σ ε ℓ α} (upholds : Co.Upholds rely claim P m Q E) {env : Nat → σ → σ}
    (fair : ∀ i s, rely s (env i s)) (i : Nat) {s : σ} (holds : P s) :
    (∃ a, (m.play env i s).outcome = .ok a ∧ Q a (m.play env i s).state) ∨
      ∃ e, (m.play env i s).outcome = .error e ∧ E e (m.play env i s).state :=
  (upholds s holds).ends_play fair i

theorem points_play {m : Co σ ε ℓ α} (upholds : Co.Upholds rely claim P m Q E)
    {env : Nat → σ → σ} (fair : ∀ i s, rely s (env i s)) (i : Nat) {s : σ} (holds : P s)
    {step : ℓ × σ × σ} (passed : step ∈ (m.play env i s).points) :
    claim step.1 step.2.1 ∧ ∃ j, step.2.2 = env j step.2.1 :=
  (upholds s holds).points_play fair i passed

end Co.Upholds

/-! ### The points of parts -/

section

variable {env : Nat → σ → σ} {i : Nat} {s : σ} {step : ℓ × σ × σ}

theorem Co.mem_points_bind {m : Co σ ε ℓ α} {f : α → Co σ ε ℓ β}
    (passed : step ∈ (m.play env i s).points) : step ∈ ((m >>= f).play env i s).points := by
  rw [play_bind]
  cases (m.play env i s).outcome with
  | ok a => exact List.mem_append_left _ passed
  | error e => exact passed

theorem Co.mem_points_bind_ok {m : Co σ ε ℓ α} {f : α → Co σ ε ℓ β} {a : α}
    (done : (m.play env i s).outcome = .ok a)
    (passed : step ∈ ((f a).play env (m.play env i s).next (m.play env i s).state).points) :
    step ∈ ((m >>= f).play env i s).points := by
  rw [play_bind_ok env i s done]
  exact List.mem_append_right _ passed

theorem Co.mem_points_tryCatch {m : Co σ ε ℓ α} {handler : ε → Co σ ε ℓ α}
    (passed : step ∈ (m.play env i s).points) :
    step ∈ ((m.tryCatch handler).play env i s).points := by
  rw [play_tryCatch]
  cases (m.play env i s).outcome with
  | ok a => exact passed
  | error e => exact List.mem_append_left _ passed

end

end SyndicateClaw.Async
