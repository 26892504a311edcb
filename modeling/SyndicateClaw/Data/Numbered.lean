import Mathlib.Data.List.Range
import SyndicateClaw.Data.KeySort

/-! Lists whose items are numbered one after another. -/

namespace SyndicateClaw

variable {α : Type} (number : α → Nat)

def Numbered (first : Nat) (items : List α) : Prop :=
  items.map number = List.range' first items.length

variable {number} {first : Nat} {items : List α}

theorem Numbered.nil : Numbered number first [] := rfl

theorem Numbered.snoc (numbered : Numbered number first items) {item : α}
    (next : number item = first + items.length) : Numbered number first (items ++ [item]) := by
  unfold Numbered at *
  rw [List.map_append, numbered, List.map_singleton, next, List.length_append,
    List.length_singleton, List.range'_concat, Nat.one_mul]

theorem Numbered.drop (numbered : Numbered number first items) (k : Nat) :
    Numbered number (first + k) (items.drop k) := by
  unfold Numbered at *
  rw [List.map_drop, numbered, List.length_drop, List.drop_range', Nat.mul_one]

theorem Numbered.last {item : α} (numbered : Numbered number first (items ++ [item])) :
    number item = first + items.length := by
  have rest := numbered.drop items.length
  rw [List.drop_left] at rest
  exact List.singleton_inj.mp rest

theorem Numbered.mem (numbered : Numbered number first items) {n : Nat} :
    (∃ item ∈ items, number item = n) ↔ first ≤ n ∧ n < first + items.length := by
  rw [← List.mem_range'_1, ← numbered, List.mem_map]

theorem Numbered.nodup (numbered : Numbered number first items) :
    (items.map number).Nodup := by
  rw [numbered]
  exact List.nodup_range'

theorem Numbered.count (numbered : Numbered number first items) (n : Nat) :
    items.countP (fun item => number item = n) =
      if first ≤ n ∧ n < first + items.length then 1 else 0 := by
  have counted : items.countP (fun item => number item = n) = (items.map number).count n := by
    rw [List.count, List.countP_map]
    congr 1
  rw [counted]
  split
  · next inside =>
      apply List.count_eq_one_of_mem numbered.nodup
      rw [numbered, List.mem_range'_1]
      exact inside
  · next outside =>
      apply List.count_eq_zero.mpr
      rw [numbered, List.mem_range'_1]
      exact outside

theorem Numbered.sorted (numbered : Numbered number first items) : sortBy number items = items := by
  apply sorted_unique (perm_sortBy number items) (nodup_sortBy numbered.nodup)
    (sorted_sortBy number items)
  have ascending : (items.map number).Pairwise (· ≤ ·) := by
    rw [numbered]
    exact List.pairwise_le_range'
  exact List.pairwise_map.mp ascending

theorem Numbered.without (numbered : Numbered number first items) (k : Nat) :
    (items.filter fun item => number item ∉ (items.take k).map number) = items.drop k := by
  have split : items.take k ++ items.drop k = items := List.take_append_drop k items
  have apart := numbered.nodup
  rw [← split, List.map_append, List.nodup_append] at apart
  calc
    _ = (items.take k ++ items.drop k).filter fun item =>
          number item ∉ (items.take k).map number := by rw [split]
    _ = items.drop k := by
      rw [List.filter_append]
      have gone : (items.take k).filter (fun item =>
          number item ∉ (items.take k).map number) = [] := by
        apply List.filter_eq_nil_iff.mpr
        intro item member
        simpa using List.mem_map_of_mem member
      have kept : (items.drop k).filter (fun item =>
          number item ∉ (items.take k).map number) = items.drop k := by
        apply List.filter_eq_self.mpr
        intro item member
        apply decide_eq_true
        intro early
        exact apart.2.2 _ early _ (List.mem_map_of_mem member) rfl
      rw [gone, kept, List.nil_append]

end SyndicateClaw
