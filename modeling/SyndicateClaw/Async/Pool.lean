import Mathlib.Logic.Relation
import SyndicateClaw.Async.History
import SyndicateClaw.Async.RelyGuarantee

/-! Pools of coroutines over one shared state.

A move starts a coroutine, lets a suspended one run to its next suspension point, or
changes the state from outside. When every coroutine changes the state by steps of
one relation, so does every history of moves. -/

namespace SyndicateClaw.Async

variable {σ ε ℓ α : Type}

/-- What is left of a coroutine between its segments. -/
inductive Task (σ ε ℓ α : Type) where
  | suspended (point : ℓ) (k : σ → Res σ ε ℓ α)
  | finished (outcome : Except ε α)

def Res.task : Res σ ε ℓ α → Task σ ε ℓ α
  | .ok _ a => .finished (.ok a)
  | .raise _ e => .finished (.error e)
  | .yield point _ k => .suspended point k

structure Pool (σ ε ℓ α : Type) where
  state : σ
  tasks : List (Task σ ε ℓ α)

inductive Move (σ ε ℓ α : Type) where
  | spawn (m : Co σ ε ℓ α)
  | advance (i : Nat)
  | external (f : σ → σ)

namespace Pool

def step (pool : Pool σ ε ℓ α) : Move σ ε ℓ α → Pool σ ε ℓ α
  | .spawn m =>
      let r := m pool.state
      { state := r.state, tasks := pool.tasks ++ [r.task] }
  | .advance i =>
      match pool.tasks[i]? with
      | some (.suspended _ k) =>
          let r := k pool.state
          { state := r.state, tasks := pool.tasks.set i r.task }
      | _ => pool
  | .external f => { pool with state := f pool.state }

/-- The pool after the first `n` moves. -/
abbrev after (pool : Pool σ ε ℓ α) (moves : List (Move σ ε ℓ α)) (n : Nat) : Pool σ ε ℓ α :=
  stateAfter step pool moves n

end Pool

/-- Coroutines that change the state by steps of one relation, wherever the demand of
their points is met. -/
def Protocol.steps (step : σ → σ → Prop) (demand : ℓ → σ → Prop) : Protocol σ ℓ where
  rely point s s' := Relation.ReflTransGen step s s' ∧ demand point s'
  guarantee := Relation.ReflTransGen step
  refl _ := .refl
  trans := .trans

section invariant

variable {step : σ → σ → Prop} {demand : ℓ → σ → Prop} {P : σ → Prop}

/-- A suspended task goes on by steps of the relation from every later state. -/
def Task.Ready (step : σ → σ → Prop) (demand : ℓ → σ → Prop) (s : σ) : Task σ ε ℓ α → Prop
  | .suspended point k => ∀ s', Relation.ReflTransGen step s s' → demand point s' →
      (k s').Meets (Protocol.steps step demand) (fun _ _ => True) (fun _ _ => True) s'
  | .finished _ => True

theorem Task.Ready.later {s s' : σ} {task : Task σ ε ℓ α} (ready : task.Ready step demand s)
    (steps : Relation.ReflTransGen step s s') : task.Ready step demand s' := by
  cases task with
  | suspended point k => exact fun s'' further met => ready s'' (steps.trans further) met
  | finished outcome => trivial

theorem Res.Meets.task_ready {s : σ} {r : Res σ ε ℓ α}
    (meets : r.Meets (Protocol.steps step demand) (fun _ _ => True) (fun _ _ => True) s) :
    Relation.ReflTransGen step s r.state ∧ r.task.Ready step demand r.state := by
  cases r with
  | ok s' a => exact ⟨meets.1, trivial⟩
  | raise s' e => exact ⟨meets.1, trivial⟩
  | yield point s' k =>
      exact ⟨meets.1, fun s'' further met => meets.2 s'' ⟨further, met⟩⟩

/-- What a move has to bring: a spawned coroutine and a change from outside keep to the
steps, and a task goes on only when the demand of its point is met. -/
def Pool.Admits (step : σ → σ → Prop) (demand : ℓ → σ → Prop) (pool : Pool σ ε ℓ α) :
    Move σ ε ℓ α → Prop
  | .spawn m => (m pool.state).Meets (Protocol.steps step demand) (fun _ _ => True)
      (fun _ _ => True) pool.state
  | .advance i => ∀ point k, pool.tasks[i]? = some (.suspended point k) → demand point pool.state
  | .external f => Relation.ReflTransGen step pool.state (f pool.state)

/-- A pool whose state satisfies `P` and whose tasks are all ready. -/
def Pool.Sound (step : σ → σ → Prop) (demand : ℓ → σ → Prop) (P : σ → Prop)
    (pool : Pool σ ε ℓ α) : Prop :=
  P pool.state ∧ ∀ task ∈ pool.tasks, task.Ready step demand pool.state

theorem Pool.Sound.after_move (stable : ∀ s s', step s s' → P s → P s') {pool : Pool σ ε ℓ α}
    (sound : pool.Sound step demand P) {move : Move σ ε ℓ α}
    (admitted : pool.Admits step demand move) : (pool.step move).Sound step demand P := by
  have lasting : ∀ {s s'}, Relation.ReflTransGen step s s' → P s → P s' := by
    intro s s' steps holds
    induction steps with
    | refl => exact holds
    | tail _ last ih => exact stable _ _ last ih
  cases move with
  | spawn m =>
      obtain ⟨steps, ready⟩ := Res.Meets.task_ready admitted
      refine ⟨lasting steps sound.1, ?_⟩
      intro task member
      rcases List.mem_append.mp member with old | new
      · exact (sound.2 task old).later steps
      · obtain rfl := List.mem_singleton.mp new
        exact ready
  | advance i =>
      simp only [Pool.step]
      split
      · next point k found =>
          have resumed := sound.2 _ (List.mem_of_getElem? found) pool.state .refl
            (admitted point k found)
          obtain ⟨steps, ready⟩ := resumed.task_ready
          refine ⟨lasting steps sound.1, ?_⟩
          intro task member
          rcases List.mem_or_eq_of_mem_set member with old | rfl
          · exact (sound.2 task old).later steps
          · exact ready
      · exact sound
  | external f =>
      exact ⟨lasting admitted sound.1, fun task member => (sound.2 task member).later admitted⟩

theorem Pool.invariant (stable : ∀ s s', step s s' → P s → P s') (start : σ) (first : P start)
    (moves : List (Move σ ε ℓ α))
    (admitted : ∀ n move, moves[n]? = some move → P (Pool.after ⟨start, []⟩ moves n).state →
      (Pool.after ⟨start, []⟩ moves n).Admits step demand move) (n : Nat) :
    P (Pool.after ⟨start, []⟩ moves n).state := by
  have sound : (Pool.after ⟨start, []⟩ moves n).Sound step demand P := by
    apply stateAfter_invariant Pool.step ⟨start, []⟩ moves (Pool.Sound step demand P)
    · exact ⟨first, by simp⟩
    · intro n move present sound
      exact sound.after_move stable (admitted n move present sound.1)
  exact sound.1

end invariant

end SyndicateClaw.Async
