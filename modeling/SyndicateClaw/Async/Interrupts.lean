import SyndicateClaw.Async.Coroutine

/-! One change of the environment, made at any of a coroutine's suspension points.

A schedule picks the points at which the change is made. What holds of the end under every
schedule, told together with the moments picked, is proved along the coroutine, once for
each way the environment can go on. -/

namespace SyndicateClaw.Async

variable {σ ε ℓ α β κ : Type}

namespace Res

variable (alter : σ → σ)

def striking (picks : Nat → Bool) (i : Nat) (s : σ) : σ := if picks i then alter s else s

/-- The moments picked: the suspension points and the states the change met there. -/
def struck (picks : Nat → Bool) : Nat → Res σ ε ℓ α → List (ℓ × σ)
  | _, .ok _ _ => []
  | _, .raise _ _ => []
  | i, .yield point s k =>
      (if picks i then [(point, s)] else []) ++
        struck picks (i + 1) (k (striking alter picks i s))

/-- Under every schedule the moments picked, the state and the outcome satisfy `Q`. -/
def Whenever : (List (ℓ × σ) → σ → Except ε α → Prop) → Res σ ε ℓ α → Prop
  | Q, .ok s a => Q [] s (.ok a)
  | Q, .raise s e => Q [] s (.error e)
  | Q, .yield point s k =>
      Whenever Q (k s) ∧ Whenever (fun log => Q ((point, s) :: log)) (k (alter s))

variable {alter} {Q Q' : List (ℓ × σ) → σ → Except ε α → Prop} {r : Res σ ε ℓ α}

theorem Whenever.mono (holds : r.Whenever alter Q)
    (weaker : ∀ log s outcome, Q log s outcome → Q' log s outcome) : r.Whenever alter Q' := by
  induction r generalizing Q Q' with
  | ok s a => exact weaker _ _ _ holds
  | raise s e => exact weaker _ _ _ holds
  | yield point s k ih =>
      exact ⟨ih s holds.1 weaker, ih _ holds.2 fun log => weaker ((point, s) :: log)⟩

theorem Whenever.and (one : r.Whenever alter Q) (two : r.Whenever alter Q') :
    r.Whenever alter fun log s outcome => Q log s outcome ∧ Q' log s outcome := by
  induction r generalizing Q Q' with
  | ok s a => exact ⟨one, two⟩
  | raise s e => exact ⟨one, two⟩
  | yield point s k ih => exact ⟨ih s one.1 two.1, ih _ one.2 two.2⟩

theorem Whenever.bind {f : α → Co σ ε ℓ β} {Q₂ : List (ℓ × σ) → σ → Except ε β → Prop}
    (first : r.Whenever alter Q)
    (value : ∀ log s a, Q log s (.ok a) →
      (f a s).Whenever alter fun later => Q₂ (log ++ later))
    (error : ∀ log s e, Q log s (.error e) → Q₂ log s (.error e)) :
    (r.bind f).Whenever alter Q₂ := by
  induction r generalizing Q Q₂ with
  | ok s a => exact value [] s a first
  | raise s e => exact error [] s e first
  | yield point s k ih =>
      exact ⟨ih s first.1 value error, ih _ first.2
        (fun log => value ((point, s) :: log)) (fun log => error ((point, s) :: log))⟩

theorem whenever_settle (r : Res σ ε ℓ α) :
    r.Whenever alter fun log s outcome => log = [] → (s, outcome) = r.settle := by
  induction r with
  | ok s a => exact fun _ => rfl
  | raise s e => exact fun _ => rfl
  | yield point s k ih =>
      exact ⟨ih s, (ih (alter s)).mono fun log _ _ _ impossible => nomatch impossible⟩

theorem Whenever.settle (holds : r.Whenever alter Q) : Q [] r.settle.1 r.settle.2 := by
  induction r generalizing Q with
  | ok s a => exact holds
  | raise s e => exact holds
  | yield point s k ih => exact ih s holds.1

theorem Whenever.settleWith (holds : r.Whenever alter Q) (picks : Nat → Bool) (i : Nat) :
    Q (r.struck alter picks i) (r.settleWith (striking alter picks) i).1
      (r.settleWith (striking alter picks) i).2 := by
  induction r generalizing Q i with
  | ok s a => exact holds
  | raise s e => exact holds
  | yield point s k ih =>
      unfold struck Res.settleWith striking
      cases picked : picks i with
      | true => exact ih _ holds.2 (i + 1)
      | false => exact ih _ holds.1 (i + 1)

end Res

namespace Co

variable {alter : σ → σ} {bad : ℓ → σ → Prop} {hit : κ} {P : κ → σ → Prop}
  {Q : α → κ → σ → Prop} {E : κ → σ → Prop}

/-- The coroutine goes on whenever the change is made: only the mode tells that it was, and
every moment of it is a bad one. -/
def Heedless (alter : σ → σ) (bad : ℓ → σ → Prop) (hit : κ) (P : κ → σ → Prop)
    (m : Co σ ε ℓ α) (Q : α → κ → σ → Prop) (E : κ → σ → Prop) : Prop :=
  ∀ mode s, P mode s → (m s).Whenever alter fun log s' outcome =>
    ∃ mode', (log = [] → mode' = mode) ∧ (log ≠ [] → mode' = hit) ∧
      (∀ moment ∈ log, bad moment.1 moment.2) ∧
      match outcome with
      | .ok a => Q a mode' s'
      | .error _ => E mode' s'

theorem Heedless.straight {m : Co σ ε ℓ α}
    (steps : ∀ mode s, P mode s → ∃ s' a, m s = .ok s' a ∧ Q a mode s') :
    Heedless alter bad hit P m Q E := by
  intro mode s holds
  obtain ⟨s', a, is, ends⟩ := steps mode s holds
  rw [is]
  exact ⟨mode, fun _ => rfl, fun impossible => absurd rfl impossible, nofun, ends⟩

theorem Heedless.raise {e : ε} (ends : ∀ mode s, P mode s → E mode s) :
    Heedless alter bad hit P (Co.raise e : Co σ ε ℓ α) Q E :=
  fun mode s holds =>
    ⟨mode, fun _ => rfl, fun impossible => absurd rfl impossible, nofun, ends mode s holds⟩

theorem Heedless.await {point : ℓ} (kept : ∀ mode s, P mode s → bad point s ∧ P hit (alter s)) :
    Heedless alter bad hit P (Co.await point : Co σ ε ℓ Unit) (fun _ => P) E := by
  intro mode s holds
  obtain ⟨ruled, altered⟩ := kept mode s holds
  refine ⟨⟨mode, fun _ => rfl, fun impossible => absurd rfl impossible, nofun, holds⟩,
    hit, nofun, fun _ => rfl, ?_, altered⟩
  intro moment member
  obtain rfl := List.mem_singleton.mp member
  exact ruled

theorem Heedless.bind {m : Co σ ε ℓ α} {f : α → Co σ ε ℓ β} {Q₂ : β → κ → σ → Prop}
    (first : Heedless alter bad hit P m Q E)
    (second : ∀ a, Heedless alter bad hit (Q a) (f a) Q₂ E) :
    Heedless alter bad hit P (m >>= f) Q₂ E := by
  intro mode s holds
  refine (first mode s holds).bind ?_ fun log s' e ends => ends
  rintro log s' a ⟨mode', same, struck, ruled, holds'⟩
  refine (second a mode' s' holds').mono ?_
  rintro later s'' outcome ⟨mode'', same', struck', ruled', ends⟩
  refine ⟨mode'', fun untouched => ?_, fun touched => ?_, ?_, ends⟩
  · obtain ⟨early, late⟩ := List.append_eq_nil_iff.mp untouched
    rw [same' late, same early]
  · by_cases late : later = []
    · rw [same' late]
      exact struck fun early => touched (by rw [early, late, List.append_nil])
    · exact struck' late
  · intro moment member
    rcases List.mem_append.mp member with early | late
    · exact ruled moment early
    · exact ruled' moment late

end Co

end SyndicateClaw.Async
