import Mathlib.Data.Nat.Basic

/-! A bounded retry loop whose attempts share a state: each attempt takes what the one before has
left, and the loop goes on only after a failure. -/

namespace SyndicateClaw.Retries

variable {σ ε : Type} (attempt : Nat → σ → σ × ε) (failed : ε → Prop) [DecidablePred failed]
  (start : σ)

def given : Nat → σ
  | 0 => start
  | k + 1 => (attempt k (given k)).1

def outcome (k : Nat) : ε := (attempt k (given attempt start k)).2

def last : Nat → Nat → Nat
  | 0, k => k
  | retries + 1, k => if failed (outcome attempt start k) then last retries (k + 1) else k

variable {attempt failed start}

theorem le_last (retries k : Nat) : k ≤ last attempt failed start retries k := by
  induction retries generalizing k with
  | zero => exact le_rfl
  | succ retries ih =>
      rw [last]
      split
      · exact Nat.le_trans (Nat.le_succ k) (ih (k + 1))
      · exact le_rfl

theorem last_le (retries k : Nat) : last attempt failed start retries k ≤ k + retries := by
  induction retries generalizing k with
  | zero => exact le_rfl
  | succ retries ih =>
      rw [last]
      split
      · exact Nat.le_trans (ih (k + 1)) (by omega)
      · omega

theorem failed_of_lt_last {retries k j : Nat} (reached : k ≤ j)
    (before : j < last attempt failed start retries k) : failed (outcome attempt start j) := by
  induction retries generalizing k with
  | zero => exact absurd (Nat.lt_of_le_of_lt reached before) (lt_irrefl k)
  | succ retries ih =>
      rw [last] at before
      split at before
      · next fails =>
          rcases Nat.eq_or_lt_of_le reached with rfl | later
          · exact fails
          · exact ih later before
      · exact absurd (Nat.lt_of_le_of_lt reached before) (lt_irrefl k)

theorem last_not_failed {retries k : Nat}
    (early : last attempt failed start retries k < k + retries) :
    ¬ failed (outcome attempt start (last attempt failed start retries k)) := by
  induction retries generalizing k with
  | zero => exact absurd early (lt_irrefl k)
  | succ retries ih =>
      rw [last] at early ⊢
      split at early
      · next fails =>
          rw [if_pos fails]
          exact ih (by omega)
      · next fails =>
          rw [if_neg fails]
          exact fails

theorem le_last_of_failed {retries k : Nat} (allowed : k ≤ retries)
    (fails : ∀ j < k, failed (outcome attempt start j)) :
    k ≤ last attempt failed start retries 0 := by
  by_contra early
  rw [not_le] at early
  refine last_not_failed ?_ (fails _ early)
  omega

omit [DecidablePred failed] in
theorem given_eq_start {n : Nat} (fails : ∀ j < n, failed (outcome attempt start j))
    (restores : ∀ k < n, (∀ j ≤ k, failed (attempt j start).2) → (attempt k start).1 = start) :
    ∀ k ≤ n, given attempt start k = start := by
  intro k
  induction k using Nat.strong_induction_on with
  | _ k ih =>
      intro le
      cases k with
      | zero => rfl
      | succ k =>
          have same := ih k (Nat.lt_succ_self k) (by omega)
          rw [given, same]
          refine restores k le fun j before => ?_
          have early := fails j (by omega)
          rw [outcome, ih j (by omega) (by omega)] at early
          exact early

theorem le_last_of_same {retries : Nat}
    (same : ∀ k ≤ last attempt failed start retries 0, given attempt start k = start) {k : Nat}
    (allowed : k ≤ retries) (fails : ∀ j < k, failed (attempt j start).2) :
    k ≤ last attempt failed start retries 0 := by
  induction k with
  | zero => exact Nat.zero_le _
  | succ k ih =>
      have made : k ≤ last attempt failed start retries 0 :=
        ih (by omega) fun j before => fails j (by omega)
      apply le_last_of_failed allowed
      intro j before
      rw [outcome, same j (by omega)]
      exact fails j before

theorem same_iff {retries : Nat} :
    (∀ k ≤ last attempt failed start retries 0, given attempt start k = start) ↔
      ∀ k < retries, (∀ j ≤ k, failed (attempt j start).2) → (attempt k start).1 = start := by
  constructor
  · intro same k allowed fails
    have made : k + 1 ≤ last attempt failed start retries 0 :=
      le_last_of_same same allowed fun j before => fails j (by omega)
    calc
      (attempt k start).1 = (attempt k (given attempt start k)).1 := by rw [same k (by omega)]
      _ = start := same (k + 1) made
  · intro restores k made
    have bound : last attempt failed start retries 0 ≤ 0 + retries := last_le retries 0
    have fails : ∀ j < last attempt failed start retries 0, failed (outcome attempt start j) :=
      fun j before => failed_of_lt_last (Nat.zero_le j) before
    exact given_eq_start fails (fun j before => restores j (by omega)) k made

end SyndicateClaw.Retries
