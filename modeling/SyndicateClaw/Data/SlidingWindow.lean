import Mathlib.Algebra.Order.Group.Defs
import Mathlib.Algebra.Order.Sub.Basic
import Mathlib.Data.List.Induction
import Mathlib.Order.Lattice

/-! Readings of a clock, and those of them that a sliding window holds. -/

namespace SyndicateClaw

variable {α : Type} [AddCommGroup α] [LinearOrder α] [IsOrderedAddMonoid α]

/-- What is later than `now - span`. -/
def inWindow (span now : α) (readings : List α) : List α := readings.filter fun r => now - span < r

variable {span earlier now : α} {readings : List α}

theorem mem_inWindow {r : α} : r ∈ inWindow span now readings ↔ r ∈ readings ∧ now - span < r := by
  simp [inWindow]

theorem inWindow_append (others : List α) :
    inWindow span now (readings ++ others) =
      inWindow span now readings ++ inWindow span now others :=
  List.filter_append ..

theorem inWindow_inWindow (le : earlier ≤ now) :
    inWindow span now (inWindow span earlier readings) = inWindow span now readings := by
  unfold inWindow
  rw [List.filter_filter]
  apply List.filter_congr
  intro r _
  have stays : now - span < r → earlier - span < r := lt_of_le_of_lt (sub_le_sub_right le span)
  by_cases inside : now - span < r
  · simp [inside, stays inside]
  · simp [inside]

theorem inWindow_self (positive : 0 < span) : inWindow span now [now] = [now] := by
  simp [inWindow, positive]

theorem inWindow_eq_nil (gone : ∀ r ∈ readings, r ≤ now - span) : inWindow span now readings = [] := by
  apply List.filter_eq_nil_iff.mpr
  intro r member
  simpa using gone r member

def AtMostIn (span : α) (limit : Nat) (history : List (α × Bool)) : Prop :=
  ∀ start, (history.countP fun e => e.2 && (decide (start ≤ e.1) && decide (e.1 < start + span))) ≤
    limit

theorem AtMostIn.nil {limit : Nat} : AtMostIn span limit [] := fun _ => Nat.zero_le limit

theorem AtMostIn.snoc {limit : Nat} {history : List (α × Bool)} (bounded : AtMostIn span limit history)
    (positive : 0 < span) {accepted : Bool}
    (room : accepted = true →
      (inWindow span now (history.map Prod.fst ++ [now])).length ≤ limit) :
    AtMostIn span limit (history ++ [(now, accepted)]) := by
  intro start
  rw [List.countP_append, List.countP_singleton]
  by_cases counts : accepted = true ∧ start ≤ now ∧ now < start + span
  · obtain ⟨admitted, _, before⟩ := counts
    have few := room admitted
    rw [inWindow_append, inWindow_self positive, List.length_append, List.length_singleton] at few
    have others : (history.countP fun e =>
        e.2 && (decide (start ≤ e.1) && decide (e.1 < start + span))) ≤
          (inWindow span now (history.map Prod.fst)).length := by
      unfold inWindow
      rw [← List.countP_eq_length_filter, List.countP_map]
      apply List.countP_mono_left
      intro e _ inside
      simp only [Bool.and_eq_true, decide_eq_true_eq] at inside
      have later : now - span < e.1 := lt_of_lt_of_le (sub_lt_iff_lt_add.mpr before) inside.2.1
      exact decide_eq_true later
    split <;> omega
  · have no : (accepted && (decide (start ≤ now) && decide (now < start + span))) ≠ true := by
      simpa using counts
    rw [if_neg no]
    exact bounded start

/-! ### Readings in order -/

/-- What is not earlier than `now - span`. -/
def recent (span now : α) (readings : List α) : List α := readings.filter fun r => now - span ≤ r

theorem recent_append (others : List α) :
    recent span now (readings ++ others) = recent span now readings ++ recent span now others :=
  List.filter_append ..

theorem recent_recent (le : earlier ≤ now) :
    recent span now (recent span earlier readings) = recent span now readings := by
  unfold recent
  rw [List.filter_filter]
  apply List.filter_congr
  intro r _
  have stays : now - span ≤ r → earlier - span ≤ r := le_trans (sub_le_sub_right le span)
  by_cases inside : now - span ≤ r
  · simp [inside, stays inside]
  · simp [inside]

theorem recent_length_le : (recent span now readings).length ≤ readings.length :=
  List.length_filter_le ..

theorem dropWhile_eq_recent (sorted : readings.Pairwise (· ≤ ·)) :
    readings.dropWhile (fun r => r < now - span) = recent span now readings := by
  unfold recent
  induction readings with
  | nil => rfl
  | cons first rest ih =>
      obtain ⟨least, sorted⟩ := List.pairwise_cons.mp sorted
      by_cases old : first < now - span
      · have dropped : ¬ now - span ≤ first := not_le.mpr old
        rw [List.dropWhile_cons, List.filter_cons, if_pos (decide_eq_true old),
          if_neg (by rw [decide_eq_true_eq]; exact dropped), ih sorted]
      · rw [List.dropWhile_cons, if_neg (by rw [decide_eq_true_eq]; exact old)]
        symm
        apply List.filter_eq_self.mpr
        intro r member
        apply decide_eq_true
        rcases List.mem_cons.mp member with rfl | later
        · exact not_lt.mp old
        · exact (not_lt.mp old).trans (least r later)

end SyndicateClaw
