import Mathlib.Data.List.Perm.Basic
import Mathlib.Order.Lattice

/-! The first element of a list that decides, and how much of that the order decides. -/

namespace SyndicateClaw.FirstMatch

section split

variable {α : Type*} (p : α → Prop)

/-- The first element with `p`, between what stands before and behind it. -/
structure Splits (items front : List α) (a : α) (back : List α) : Prop where
  whole : items = front ++ a :: back
  before : ∀ b ∈ front, ¬ p b
  here : p a

variable {p}

theorem none_or_splits (items : List α) :
    (∀ a ∈ items, ¬ p a) ∨ ∃ front a back, Splits p items front a back := by
  induction items with
  | nil => exact .inl nofun
  | cons a items ih =>
      by_cases here : p a
      · exact .inr ⟨[], a, items, rfl, nofun, here⟩
      rcases ih with none | ⟨front, b, back, splits⟩
      · exact .inl (List.forall_mem_cons.mpr ⟨here, none⟩)
      · refine .inr ⟨a :: front, b, back, ?_, ?_, splits.here⟩
        · rw [splits.whole, List.cons_append]
        · exact List.forall_mem_cons.mpr ⟨here, splits.before⟩

theorem Splits.mem {items front back : List α} {a : α} (splits : Splits p items front a back) :
    a ∈ items := by
  rw [splits.whole]
  exact List.mem_append_right front List.mem_cons_self

theorem Splits.unique {items front back front' back' : List α} {a a' : α}
    (splits : Splits p items front a back) (splits' : Splits p items front' a' back') :
    front = front' ∧ a = a' ∧ back = back' := by
  induction front generalizing items front' with
  | nil =>
      cases front' with
      | nil =>
          have same := splits.whole.symm.trans splits'.whole
          exact ⟨rfl, List.cons.inj same⟩
      | cons b front' =>
          have same := splits.whole.symm.trans splits'.whole
          rw [List.nil_append, List.cons_append, List.cons.injEq] at same
          exact absurd (same.1 ▸ splits.here) (splits'.before b List.mem_cons_self)
  | cons b front ih =>
      cases front' with
      | nil =>
          have same := splits.whole.symm.trans splits'.whole
          rw [List.nil_append, List.cons_append, List.cons.injEq] at same
          exact absurd (same.1 ▸ splits'.here) (splits.before b List.mem_cons_self)
      | cons c front' =>
          have same := splits.whole.symm.trans splits'.whole
          rw [List.cons_append, List.cons_append, List.cons.injEq] at same
          obtain ⟨rfl, rest⟩ := same
          have tail : Splits p (front ++ a :: back) front a back :=
            ⟨rfl, fun d member => splits.before d (List.mem_cons_of_mem b member), splits.here⟩
          have tail' : Splits p (front ++ a :: back) front' a' back' :=
            ⟨rest, fun d member => splits'.before d (List.mem_cons_of_mem b member),
              splits'.here⟩
          obtain ⟨rfl, rfl, rfl⟩ := ih tail tail'
          exact ⟨rfl, rfl, rfl⟩

/-- What is reached without passing an element with `p` stands before the first one, or
is it. -/
theorem Splits.reached {items front back front' back' : List α} {a b : α}
    (splits : Splits p items front a back) (whole : items = front' ++ b :: back')
    (before : ∀ c ∈ front', ¬ p c) : b ∈ front ∨ b = a := by
  rcases List.append_eq_append_iff.mp (splits.whole.symm.trans whole) with
    ⟨between, rfl, rest⟩ | ⟨between, rfl, rest⟩
  · cases between with
    | nil => exact .inr (List.cons.inj rest).1.symm
    | cons c between =>
        have same := (List.cons.inj rest).1
        have inside : a ∈ front ++ c :: between := by
          rw [same]
          exact List.mem_append_right front List.mem_cons_self
        exact absurd splits.here (before a inside)
  · cases between with
    | nil => exact .inr (List.cons.inj rest).1
    | cons c between =>
        rw [List.cons_append, List.cons.injEq] at rest
        rw [rest.1]
        exact .inl (List.mem_append_right front' List.mem_cons_self)

end split

section search

variable {α β ε : Type} {f : α → Except ε (Option β)}

def Stops (f : α → Except ε (Option β)) (a : α) : Prop := f a ≠ .ok none

theorem findSomeM?_of_passes {front : List α} (passes : ∀ a ∈ front, ¬ Stops f a)
    (back : List α) : (front ++ back).findSomeM? f = back.findSomeM? f := by
  induction front with
  | nil => rfl
  | cons a front ih =>
      have here : f a = .ok none := not_not.mp (passes a List.mem_cons_self)
      rw [List.cons_append, List.findSomeM?_cons, here]
      exact ih fun b member => passes b (List.mem_cons_of_mem a member)

theorem findSomeM?_of_splits {items front back : List α} {a : α}
    (splits : Splits (Stops f) items front a back) : items.findSomeM? f = f a := by
  rw [splits.whole, findSomeM?_of_passes splits.before, List.findSomeM?_cons]
  have here : f a ≠ .ok none := splits.here
  cases answer : f a with
  | error e => rfl
  | ok found =>
      cases found with
      | none => exact absurd answer here
      | some b => rfl

theorem findSomeM?_of_none {items : List α} (passes : ∀ a ∈ items, ¬ Stops f a) :
    items.findSomeM? f = .ok none := by
  have whole := findSomeM?_of_passes passes []
  rwa [List.append_nil] at whole

theorem findSomeM?_filter (kept : α → Bool) (items : List α) :
    (items.filter kept).findSomeM? f =
      items.findSomeM? fun a => if kept a then f a else .ok none := by
  induction items with
  | nil => rfl
  | cons a items ih =>
      rw [List.findSomeM?_cons, ← ih]
      by_cases stays : kept a = true
      · rw [List.filter_cons_of_pos stays, List.findSomeM?_cons, if_pos stays]
      · rw [List.filter_cons_of_neg stays, if_neg stays]
        rfl

/-- The result of an element that decides, where an error is a result too. -/
def answer {γ : Type} (g : β → γ) (failed : γ) : Except ε (Option β) → Option γ
  | .ok none => none
  | .ok (some b) => some (g b)
  | .error _ => some failed

theorem findSome?_answer {γ : Type} (g : β → γ) (failed otherwise : γ) (items : List α) :
    (items.findSome? fun a => answer g failed (f a)).getD otherwise =
      (answer g failed (items.findSomeM? f)).getD otherwise := by
  induction items with
  | nil => rfl
  | cons a items ih =>
      rw [List.findSome?_cons, List.findSomeM?_cons]
      cases f a with
      | error e => rfl
      | ok found =>
          cases found with
          | none => exact ih
          | some b => rfl

end search

section order

variable {α β κ : Type*} [LinearOrder κ] (priority : α → κ) (outcome : α → Option β)

def Descending (items : List α) : Prop := items.Pairwise fun a b => priority b ≤ priority a

def OrderIrrelevant (otherwise : β) (items : List α) : Prop :=
  ∀ xs ys : List α, xs.Perm items → Descending priority xs → ys.Perm items →
    Descending priority ys →
    (xs.findSome? outcome).getD otherwise = (ys.findSome? outcome).getD otherwise

/-- The elements that decide in the highest class with one decide alike. -/
def TopAgrees (items : List α) : Prop :=
  ∀ a ∈ items, ∀ b ∈ items, ∀ x y, priority a = priority b →
    (∀ c ∈ items, priority a < priority c → outcome c = none) →
    outcome a = some x → outcome b = some y → x = y

variable {priority outcome}

variable (priority) in
/-- Some descending order puts `a` in front of its class. -/
theorem exists_descending {items : List α} {a : α} (member : a ∈ items) :
    ∃ front back, (front ++ a :: back).Perm items ∧ Descending priority (front ++ a :: back) ∧
      ∀ b ∈ front, priority a < priority b := by
  obtain ⟨before, behind, rfl⟩ := List.append_of_mem member
  let rest := before ++ behind
  let higher := rest.filter fun b => priority a < priority b
  let others := rest.filter fun b => ¬ priority a < priority b
  let sorted (xs : List α) := xs.mergeSort fun b c => priority c ≤ priority b
  have descending (xs : List α) : Descending priority (sorted xs) := by
    have pairs := @List.pairwise_mergeSort α (fun b c => decide (priority c ≤ priority b))
      (by intro b c d; simp only [decide_eq_true_eq]; exact fun one two => le_trans two one)
      (by intro b c; simp only [Bool.or_eq_true, decide_eq_true_eq]; exact le_total _ _) xs
    exact pairs.imp fun related => of_decide_eq_true related
  have mem_higher {b : α} (inside : b ∈ sorted higher) : priority a < priority b := by
    have inside := (List.mem_filter.mp (List.mem_mergeSort.mp inside)).2
    exact of_decide_eq_true inside
  have mem_others {b : α} (inside : b ∈ sorted others) : priority b ≤ priority a := by
    have inside := (List.mem_filter.mp (List.mem_mergeSort.mp inside)).2
    exact not_lt.mp (of_decide_eq_true inside)
  refine ⟨sorted higher, sorted others, ?_, ?_, fun b inside => mem_higher inside⟩
  · have split : (higher ++ others).Perm rest := by
      have perm := List.filter_append_perm (fun b => decide (priority a < priority b)) rest
      simpa only [higher, others, decide_not] using perm
    calc (sorted higher ++ a :: sorted others).Perm (a :: (sorted higher ++ sorted others)) :=
          List.perm_middle
      _ |>.Perm (a :: (higher ++ others)) :=
          ((List.mergeSort_perm _ _).append (List.mergeSort_perm _ _)).cons a
      _ |>.Perm (a :: rest) := split.cons a
      _ |>.Perm (before ++ a :: behind) := List.perm_middle.symm
  · refine List.pairwise_append.mpr ⟨descending higher, ?_, ?_⟩
    · exact List.pairwise_cons.mpr ⟨fun b inside => mem_others inside, descending others⟩
    · intro b inside c behind
      rcases List.mem_cons.mp behind with rfl | behind
      · exact le_of_lt (mem_higher inside)
      · exact le_trans (mem_others behind) (le_of_lt (mem_higher inside))

theorem higher_undecided {front back : List α} {a c : α}
    (descending : Descending priority (front ++ a :: back))
    (undecided : ∀ b ∈ front, outcome b = none) (member : c ∈ front ++ a :: back)
    (higher : priority a < priority c) : outcome c = none := by
  rcases List.mem_append.mp member with inside | inside
  · exact undecided c inside
  · have ordered := (List.pairwise_append.mp descending).2.1
    rcases List.mem_cons.mp inside with rfl | inside
    · exact absurd higher (lt_irrefl _)
    · exact absurd higher (not_lt.mpr ((List.pairwise_cons.mp ordered).1 c inside))

theorem orderIrrelevant_iff {otherwise : β} {items : List α} :
    OrderIrrelevant priority outcome otherwise items ↔ TopAgrees priority outcome items := by
  constructor
  · intro same a inside b inside' x y level undecided decides decides'
    have first {a : α} {x : β} (inside : a ∈ items) (decides : outcome a = some x)
        (undecided : ∀ c ∈ items, priority a < priority c → outcome c = none) :
        ∃ xs : List α, xs.Perm items ∧ Descending priority xs ∧ xs.findSome? outcome = some x := by
      obtain ⟨front, back, perm, descending, higher⟩ := exists_descending priority inside
      refine ⟨_, perm, descending, List.findSome?_eq_some_iff.mpr ?_⟩
      refine ⟨front, a, back, rfl, decides, fun b member => ?_⟩
      have present := perm.mem_iff.mp (List.mem_append_left (a :: back) member)
      exact undecided b present (higher b member)
    obtain ⟨xs, perm, descending, found⟩ := first inside decides undecided
    obtain ⟨ys, perm', descending', found'⟩ := first inside' decides' (level ▸ undecided)
    have equal := same xs ys perm descending perm' descending'
    rwa [found, found', Option.getD_some, Option.getD_some] at equal
  · intro agrees xs ys perm descending perm' descending'
    have none_iff (zs : List α) (perm : zs.Perm items) :
        zs.findSome? outcome = none ↔ ∀ c ∈ items, outcome c = none := by
      rw [List.findSome?_eq_none_iff]
      exact forall_congr' fun c => imp_congr_left perm.mem_iff
    cases found : xs.findSome? outcome with
    | none => rw [(none_iff ys perm').mpr ((none_iff xs perm).mp found)]
    | some x =>
        cases found' : ys.findSome? outcome with
        | none =>
            rw [(none_iff xs perm).mpr ((none_iff ys perm').mp found')] at found
            cases found
        | some y =>
            obtain ⟨front, a, back, rfl, decides, undecided⟩ :=
              List.findSome?_eq_some_iff.mp found
            obtain ⟨front', b, back', rfl, decides', undecided'⟩ :=
              List.findSome?_eq_some_iff.mp found'
            have inside := perm.mem_iff.mp (List.mem_append_right front List.mem_cons_self)
            have inside' := perm'.mem_iff.mp (List.mem_append_right front' List.mem_cons_self)
            have above (c : α) (member : c ∈ items) (higher : priority a < priority c) :
                outcome c = none :=
              higher_undecided descending undecided (perm.mem_iff.mpr member) higher
            have above' (c : α) (member : c ∈ items) (higher : priority b < priority c) :
                outcome c = none :=
              higher_undecided descending' undecided' (perm'.mem_iff.mpr member) higher
            have level : priority a = priority b := by
              rcases lt_trichotomy (priority a) (priority b) with lower | level | higher
              · rw [above b inside' lower] at decides'
                cases decides'
              · exact level
              · rw [above' a inside higher] at decides
                cases decides
            exact agrees a inside b inside' x y level above decides decides'

end order

end SyndicateClaw.FirstMatch
