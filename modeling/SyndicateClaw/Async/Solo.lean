import SyndicateClaw.Async.History
import SyndicateClaw.Async.RelyGuarantee

/-! One coroutine at a time over a shared state.

A move starts a coroutine when none is under way, lets the suspended one run to its next
suspension point, or changes the state from outside. -/

namespace SyndicateClaw.Async

/-- The shared state and the coroutine under way, with its tag. -/
structure Solo (σ ε ℓ α κ : Type) where
  state : σ
  flight : Option (κ × ℓ × (σ → Res σ ε ℓ α))

inductive SoloMove (σ ε ℓ α κ : Type) where
  | start (tag : κ) (m : Co σ ε ℓ α)
  | proceed
  | external (f : σ → σ)

variable {σ ε ℓ α κ : Type}

def Res.flight (tag : κ) : Res σ ε ℓ α → Option (κ × ℓ × (σ → Res σ ε ℓ α))
  | .yield point _ k => some (tag, point, k)
  | _ => none

namespace Solo

def segment (tag : κ) (r : Res σ ε ℓ α) : Solo σ ε ℓ α κ :=
  { state := r.state, flight := r.flight tag }

def step (solo : Solo σ ε ℓ α κ) : SoloMove σ ε ℓ α κ → Solo σ ε ℓ α κ
  | .start tag m =>
      match solo.flight with
      | some _ => solo
      | none => segment tag (m solo.state)
  | .proceed =>
      match solo.flight with
      | none => solo
      | some (tag, _, k) => segment tag (k solo.state)
  | .external f => { solo with state := f solo.state }

/-- The state of affairs after the first `n` moves. -/
abbrev after (solo : Solo σ ε ℓ α κ) (moves : List (SoloMove σ ε ℓ α κ)) (n : Nat) :
    Solo σ ε ℓ α κ :=
  stateAfter step solo moves n

end Solo

/-- What the world outside may do to the state while coroutines are suspended, where it has
to leave it for them to go on, and what every change amounts to. -/
structure Airspace (σ ℓ κ : Type) where
  drift : σ → σ → Prop
  clear : κ → ℓ → σ → Prop
  guarantee : σ → σ → Prop
  drift_refl : ∀ s, drift s s
  drift_trans : ∀ {a b c}, drift a b → drift b c → drift a c
  refl : ∀ s, guarantee s s
  trans : ∀ {a b c}, guarantee a b → guarantee b c → guarantee a c

namespace Airspace

variable (space : Airspace σ ℓ κ)

def protocol (tag : κ) : Protocol σ ℓ where
  rely point s s' := space.drift s s' ∧ space.clear tag point s'
  guarantee := space.guarantee
  refl := space.refl
  trans := space.trans

/-- The coroutine under way keeps the protocol from the present state on. -/
def Sound (solo : Solo σ ε ℓ α κ) : Prop :=
  ∀ tag point k, solo.flight = some (tag, point, k) → ∀ s', space.drift solo.state s' →
    space.clear tag point s' →
      (k s').Meets (space.protocol tag) (fun _ _ => True) (fun _ _ => True) s'

def Admits (solo : Solo σ ε ℓ α κ) : SoloMove σ ε ℓ α κ → Prop
  | .start tag m => solo.flight = none →
      (m solo.state).Meets (space.protocol tag) (fun _ _ => True) (fun _ _ => True) solo.state
  | .proceed => ∀ tag point k, solo.flight = some (tag, point, k) →
      space.clear tag point solo.state
  | .external f => space.guarantee solo.state (f solo.state) ∧
      (solo.flight.isSome → space.drift solo.state (f solo.state))

variable {space}

theorem sound_segment {tag : κ} {s : σ} {r : Res σ ε ℓ α}
    (meets : r.Meets (space.protocol tag) (fun _ _ => True) (fun _ _ => True) s) :
    space.guarantee s (Solo.segment tag r).state ∧ space.Sound (Solo.segment tag r) := by
  cases r with
  | ok s' a => exact ⟨meets.1, fun _ _ _ => nofun⟩
  | raise s' e => exact ⟨meets.1, fun _ _ _ => nofun⟩
  | yield point s' k =>
      refine ⟨meets.1, fun tag' point' k' under => ?_⟩
      obtain ⟨rfl, rfl, rfl⟩ : tag = tag' ∧ point = point' ∧ k = k' := by
        simpa [Solo.segment, Res.flight] using under
      exact fun s'' drifted cleared => meets.2 s'' ⟨drifted, cleared⟩

theorem Sound.step {solo : Solo σ ε ℓ α κ} (sound : space.Sound solo)
    {move : SoloMove σ ε ℓ α κ} (admitted : space.Admits solo move) :
    space.guarantee solo.state (solo.step move).state ∧ space.Sound (solo.step move) := by
  cases move with
  | start tag m =>
      simp only [Solo.step]
      cases free : solo.flight with
      | some _ => exact ⟨space.refl _, sound⟩
      | none => exact sound_segment (admitted free)
  | proceed =>
      simp only [Solo.step]
      cases under : solo.flight with
      | none => exact ⟨space.refl _, sound⟩
      | some flight =>
          obtain ⟨tag, point, k⟩ := flight
          have cleared := admitted tag point k under
          exact sound_segment (sound tag point k under _ (space.drift_refl _) cleared)
  | external f =>
      refine ⟨admitted.1, fun tag point k under s' drifted cleared => ?_⟩
      have busy : solo.flight.isSome := by
        rw [show solo.flight = _ from under]
        rfl
      exact sound tag point k under s' (space.drift_trans (admitted.2 busy) drifted) cleared

theorem guaranteed (start : σ) (moves : List (SoloMove σ ε ℓ α κ))
    (admitted : ∀ n move, moves[n]? = some move →
      space.guarantee start (Solo.after ⟨start, none⟩ moves n).state →
        space.Admits (Solo.after ⟨start, none⟩ moves n) move) {n m : Nat} (le : n ≤ m) :
    space.guarantee (Solo.after ⟨start, none⟩ moves n).state
      (Solo.after ⟨start, none⟩ moves m).state := by
  have invariant := stateAfter_invariant Solo.step ⟨start, none⟩ moves
    (fun solo => space.guarantee start solo.state ∧ space.Sound solo)
    ⟨space.refl _, fun _ _ _ => nofun⟩ fun n move present holds => by
      have next := holds.2.step (admitted n move present holds.1)
      exact ⟨space.trans holds.1 next.1, next.2⟩
  refine (monotone_iff Solo.step ⟨start, none⟩ moves
    (fun one two => space.guarantee one.state two.state) (fun _ => space.refl _)
    fun _ _ _ => space.trans).mpr ?_ n m le
  intro n move present
  exact ((invariant n).2.step (admitted n move present (invariant n).1)).1

end Airspace

end SyndicateClaw.Async
