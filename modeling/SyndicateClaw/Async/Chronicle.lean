import SyndicateClaw.Async.Playback

/-! A program logic whose assertions speak of what has happened so far: the points that were passed,
each with the state that was left and the state that was handed back. What it shows holds in every
environment. -/

namespace SyndicateClaw.Async

variable {σ ε ℓ α β : Type}

abbrev Chronicle (σ ℓ : Type) := List (ℓ × σ × σ)

section

variable (claims : Chronicle σ ℓ → ℓ → σ → Prop)

/-- After some points: the claim is true at every further point, a value ends in `Q` and an exception
in `E`. -/
def Res.Kept (Q : Chronicle σ ℓ → α → σ → Prop) (E : Chronicle σ ℓ → ε → σ → Prop) :
    Chronicle σ ℓ → Res σ ε ℓ α → Prop
  | h, .ok s a => Q h a s
  | h, .raise s e => E h e s
  | h, .yield point s k => claims h point s ∧ ∀ s', Kept Q E (h ++ [(point, s, s')]) (k s')

def Co.Keeps (P : Chronicle σ ℓ → σ → Prop) (m : Co σ ε ℓ α) (Q : Chronicle σ ℓ → α → σ → Prop)
    (E : Chronicle σ ℓ → ε → σ → Prop) : Prop :=
  ∀ h s, P h s → (m s).Kept claims Q E h

end

variable {claims : Chronicle σ ℓ → ℓ → σ → Prop}

namespace Res

variable {Q Q' : Chronicle σ ℓ → α → σ → Prop} {E E' : Chronicle σ ℓ → ε → σ → Prop}
  {h : Chronicle σ ℓ} {r : Res σ ε ℓ α}

theorem Kept.mono (kept : r.Kept claims Q E h) (value : ∀ h a s, Q h a s → Q' h a s)
    (error : ∀ h e s, E h e s → E' h e s) : r.Kept claims Q' E' h := by
  induction r generalizing h with
  | ok s a => exact value h a s kept
  | raise s e => exact error h e s kept
  | yield point s k ih => exact ⟨kept.1, fun s' => ih s' (kept.2 s')⟩

theorem Kept.bind {f : α → Co σ ε ℓ β} {Q₂ : Chronicle σ ℓ → β → σ → Prop}
    (kept : r.Kept claims Q E h) (next : ∀ h a s, Q h a s → (f a s).Kept claims Q₂ E h) :
    (r.bind f).Kept claims Q₂ E h := by
  induction r generalizing h with
  | ok s a => exact next h a s kept
  | raise s e => exact kept
  | yield point s k ih => exact ⟨kept.1, fun s' => ih s' (kept.2 s')⟩

theorem Kept.handle {handler : ε → Co σ ε ℓ α} {E₂ : Chronicle σ ℓ → ε → σ → Prop}
    (kept : r.Kept claims Q E h) (caught : ∀ h e s, E h e s → (handler e s).Kept claims Q E₂ h) :
    (r.handle handler).Kept claims Q E₂ h := by
  induction r generalizing h with
  | ok s a => exact kept
  | raise s e => exact caught h e s kept
  | yield point s k ih => exact ⟨kept.1, fun s' => ih s' (kept.2 s')⟩

variable (env : Nat → σ → σ) (i : Nat)

theorem Kept.claims_play (kept : r.Kept claims Q E h) {before after : Chronicle σ ℓ} {point : ℓ}
    {s s' : σ} (passed : (r.play env i).points = before ++ (point, s, s') :: after) :
    claims (h ++ before) point s := by
  induction r generalizing h i before with
  | ok s a => simp [play] at passed
  | raise s e => simp [play] at passed
  | yield first own k ih =>
      rw [play_yield, Take.points_after] at passed
      cases before with
      | nil =>
          obtain ⟨same, -⟩ := List.cons.inj passed
          cases same
          rw [List.append_nil]
          exact kept.1
      | cons earlier before =>
          obtain ⟨rfl, later⟩ := List.cons.inj passed
          have claim := ih (env i own) (i + 1) (kept.2 (env i own)) later
          rwa [List.append_assoc] at claim

theorem Kept.value_play (kept : r.Kept claims Q E h) {a : α}
    (done : (r.play env i).outcome = .ok a) : Q (h ++ (r.play env i).points) a (r.play env i).state := by
  induction r generalizing h i with
  | ok s b =>
      obtain rfl : b = a := Except.ok.inj done
      rw [play, List.append_nil]
      exact kept
  | raise s e => cases done
  | yield point s k ih =>
      have value := ih (env i s) (i + 1) (kept.2 (env i s)) done
      rwa [List.append_assoc] at value

theorem Kept.error_play (kept : r.Kept claims Q E h) {e : ε}
    (failed : (r.play env i).outcome = .error e) :
    E (h ++ (r.play env i).points) e (r.play env i).state := by
  induction r generalizing h i with
  | ok s a => cases failed
  | raise s e' =>
      obtain rfl : e' = e := Except.error.inj failed
      rw [play, List.append_nil]
      exact kept
  | yield point s k ih =>
      have error := ih (env i s) (i + 1) (kept.2 (env i s)) failed
      rwa [List.append_assoc] at error

end Res

namespace Co.Keeps

variable {P P' : Chronicle σ ℓ → σ → Prop} {Q Q' : Chronicle σ ℓ → α → σ → Prop}
  {E E' : Chronicle σ ℓ → ε → σ → Prop}

theorem conseq {m : Co σ ε ℓ α} (keeps : Co.Keeps claims P m Q E) (before : ∀ h s, P' h s → P h s)
    (value : ∀ h a s, Q h a s → Q' h a s) (error : ∀ h e s, E h e s → E' h e s) :
    Co.Keeps claims P' m Q' E' :=
  fun h s holds => (keeps h s (before h s holds)).mono value error

theorem bind {m : Co σ ε ℓ α} {f : α → Co σ ε ℓ β} {Q₂ : Chronicle σ ℓ → β → σ → Prop}
    (first : Co.Keeps claims P m Q E) (second : ∀ a, Co.Keeps claims (fun h => Q h a) (f a) Q₂ E) :
    Co.Keeps claims P (m >>= f) Q₂ E :=
  fun h s holds => (first h s holds).bind fun h' a s' holds' => second a h' s' holds'

theorem tryCatch {m : Co σ ε ℓ α} {handler : ε → Co σ ε ℓ α} {E₂ : Chronicle σ ℓ → ε → σ → Prop}
    (body : Co.Keeps claims P m Q E)
    (caught : ∀ e, Co.Keeps claims (fun h => E h e) (handler e) Q E₂) :
    Co.Keeps claims P (m.tryCatch handler) Q E₂ :=
  fun h s holds => (body h s holds).handle fun h' e s' holds' => caught e h' s' holds'

theorem pure {a : α} (value : ∀ h s, P h s → Q h a s) :
    Co.Keeps claims P (Pure.pure a : Co σ ε ℓ α) Q E := value

theorem raise {e : ε} (error : ∀ h s, P h s → E h e s) :
    Co.Keeps claims P (Co.raise e : Co σ ε ℓ α) Q E := error

theorem modify {f : σ → σ} {Q : Chronicle σ ℓ → Unit → σ → Prop}
    (step : ∀ h s, P h s → Q h () (f s)) :
    Co.Keeps claims P (Co.modify f : Co σ ε ℓ Unit) Q E := step

theorem get : Co.Keeps claims P (Co.get : Co σ ε ℓ σ) (fun h a s => a = s ∧ P h s) E :=
  fun _ _ holds => ⟨rfl, holds⟩

theorem await {point : ℓ} {Q : Chronicle σ ℓ → Unit → σ → Prop}
    (step : ∀ h s, P h s → claims h point s ∧ ∀ s', Q (h ++ [(point, s, s')]) () s') :
    Co.Keeps claims P (Co.await point : Co σ ε ℓ Unit) Q E := step

end Co.Keeps

end SyndicateClaw.Async
