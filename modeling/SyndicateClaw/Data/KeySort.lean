import Mathlib.Data.List.Sort
import Mathlib.Order.Defs.LinearOrder

/-! `sorted(items, key=...)`, with and without items of the same key. -/

namespace SyndicateClaw

variable {α κ : Type} [LinearOrder κ] (key : α → κ)

def sortBy (items : List α) : List α := items.insertionSort fun a b => key a ≤ key b

instance total_key : Std.Total fun a b : α => key a ≤ key b := ⟨fun a b => le_total (key a) (key b)⟩

instance trans_key : IsTrans α fun a b => key a ≤ key b :=
  ⟨fun _ _ _ first second => le_trans first second⟩

theorem perm_sortBy (items : List α) : (sortBy key items).Perm items :=
  List.perm_insertionSort _ items

theorem mem_sortBy {items : List α} {item : α} : item ∈ sortBy key items ↔ item ∈ items :=
  (perm_sortBy key items).mem_iff

theorem length_sortBy (items : List α) : (sortBy key items).length = items.length :=
  (perm_sortBy key items).length_eq

theorem sorted_sortBy (items : List α) :
    (sortBy key items).Pairwise fun a b => key a ≤ key b :=
  List.pairwise_insertionSort _ items

variable {key}

theorem nodup_sortBy {items : List α} (distinct : (items.map key).Nodup) :
    ((sortBy key items).map key).Nodup :=
  ((perm_sortBy key items).map key).nodup_iff.mpr distinct

theorem sorted_unique {items other : List α} (perm : items.Perm other)
    (distinct : (items.map key).Nodup) (sorted : items.Pairwise fun a b => key a ≤ key b)
    (sorted' : other.Pairwise fun a b => key a ≤ key b) : items = other := by
  refine perm.eq_of_pairwise ?_ sorted sorted'
  intro a b first second le ge
  exact List.inj_on_of_nodup_map distinct first (perm.symm.subset second) (le_antisymm le ge)

theorem sortBy_perm {items other : List α} (perm : items.Perm other)
    (distinct : (items.map key).Nodup) : sortBy key items = sortBy key other := by
  have same : (sortBy key items).Perm (sortBy key other) :=
    ((perm_sortBy key items).trans perm).trans (perm_sortBy key other).symm
  exact sorted_unique same (nodup_sortBy distinct) (sorted_sortBy key items)
    (sorted_sortBy key other)

/-! ### Items with the same key -/

theorem sortBy_stable (items : List α) (own : κ) :
    (sortBy key items).filter (fun item => key item = own) =
      items.filter fun item => key item = own := by
  have level : (items.filter fun item => key item = own).Pairwise fun a b => key a ≤ key b := by
    apply List.pairwise_of_forall_mem_list
    intro a first b second
    simp only [List.mem_filter, decide_eq_true_eq] at first second
    exact (first.2.trans second.2.symm).le
  have inside : (items.filter fun item => key item = own).Sublist (sortBy key items) :=
    List.sublist_insertionSort level List.filter_sublist
  have kept := inside.filter fun item => decide (key item = own)
  rw [List.filter_filter] at kept
  simp only [Bool.and_self] at kept
  exact (kept.eq_of_length ((perm_sortBy key items).filter _).length_eq.symm).symm

theorem level_cons {item : α} {own : κ} (here : key item = own) (items : List α) :
    (item :: items).filter (fun other => key other = own) =
      item :: items.filter fun other => key other = own :=
  List.filter_cons_of_pos (decide_eq_true here)

theorem sorted_unique_of_levels {items other : List α}
    (sorted : items.Pairwise fun a b => key a ≤ key b)
    (sorted' : other.Pairwise fun a b => key a ≤ key b)
    (levels : ∀ own, items.filter (fun item => key item = own) =
      other.filter fun item => key item = own) : items = other := by
  induction items generalizing other with
  | nil =>
      cases other with
      | nil => rfl
      | cons b other =>
          have level := levels (key b)
          rw [level_cons rfl] at level
          cases level
  | cons a items ih =>
      have inside : a ∈ other := by
        have level := levels (key a)
        rw [level_cons rfl] at level
        exact List.mem_of_mem_filter (level ▸ List.mem_cons_self)
      cases other with
      | nil => cases inside
      | cons b other =>
          have inside' : b ∈ a :: items := by
            have level := levels (key b)
            rw [level_cons rfl other] at level
            exact List.mem_of_mem_filter (level ▸ List.mem_cons_self)
          have le : key a ≤ key b := by
            rcases List.mem_cons.mp inside' with rfl | member
            · exact le_rfl
            · exact List.rel_of_pairwise_cons sorted member
          have ge : key b ≤ key a := by
            rcases List.mem_cons.mp inside with rfl | member
            · exact le_rfl
            · exact List.rel_of_pairwise_cons sorted' member
          have same : key b = key a := le_antisymm ge le
          have first := levels (key a)
          rw [level_cons rfl, level_cons same] at first
          obtain rfl : a = b := (List.cons.inj first).1
          have rest : items = other := by
            apply ih sorted.of_cons sorted'.of_cons
            intro own
            have level := levels own
            by_cases here : key a = own
            · rw [level_cons here, level_cons here] at level
              exact (List.cons.inj level).2
            · rw [List.filter_cons_of_neg (by simpa using here),
                List.filter_cons_of_neg (by simpa using here)] at level
              exact level
          rw [rest]

theorem sortBy_congr {items other : List α}
    (levels : ∀ own, items.filter (fun item => key item = own) =
      other.filter fun item => key item = own) : sortBy key items = sortBy key other := by
  refine sorted_unique_of_levels (sorted_sortBy key items) (sorted_sortBy key other) fun own => ?_
  rw [sortBy_stable, sortBy_stable, levels]

theorem sortBy_filter (items : List α) (p : α → Bool) :
    (sortBy key items).filter p = sortBy key (items.filter p) := by
  apply sorted_unique_of_levels ((sorted_sortBy key items).filter p) (sorted_sortBy key _)
  intro own
  have stable : (sortBy key items).filter (fun item => key item = own) = _ :=
    sortBy_stable items own
  rw [sortBy_stable, List.filter_comm, stable, List.filter_comm]

/-- The first of the items with the least key: what stands before it has a greater one. -/
structure FirstLeast (key : α → κ) (items : List α) (item : α) (before after : List α) : Prop where
  whole : items = before ++ item :: after
  earlier : ∀ other ∈ before, key item < key other
  later : ∀ other ∈ after, key item ≤ key other

theorem FirstLeast.le {items before after : List α} {item : α}
    (least : FirstLeast key items item before after) {other : α} (member : other ∈ items) :
    key item ≤ key other := by
  rw [least.whole, List.mem_append, List.mem_cons] at member
  rcases member with inside | rfl | inside
  · exact (least.earlier other inside).le
  · exact le_rfl
  · exact least.later other inside

theorem FirstLeast.level {items before after : List α} {item : α}
    (least : FirstLeast key items item before after) :
    (items.filter fun other => key other = key item).head? = some item := by
  have none : before.filter (fun other => decide (key other = key item)) = [] := by
    apply List.filter_eq_nil_iff.mpr
    intro other inside same
    exact (least.earlier other inside).ne' (of_decide_eq_true same)
  rw [least.whole, List.filter_append, none, List.nil_append, level_cons rfl]
  rfl

theorem head?_sortBy {items : List α} {item : α} :
    (sortBy key items).head? = some item ↔
      ∃ before after, FirstLeast key items item before after := by
  have split {first : α} (head : (sortBy key items).head? = some first) :
      ∃ before after, FirstLeast key items first before after := by
    obtain ⟨rest, shape⟩ := List.head?_eq_some_iff.mp head
    have sorted := sorted_sortBy key items
    rw [shape] at sorted
    have least : ∀ other ∈ items, key first ≤ key other := by
      intro other member
      rw [← mem_sortBy key, shape] at member
      rcases List.mem_cons.mp member with rfl | inside
      · exact le_rfl
      · exact List.rel_of_pairwise_cons sorted inside
    have level : (sortBy key items).filter (fun other => key other = key first) = _ :=
      sortBy_stable items (key first)
    rw [shape, level_cons rfl] at level
    obtain ⟨before, after, whole, others, -, -⟩ := List.filter_eq_cons_iff.mp level.symm
    refine ⟨before, after, whole, fun other inside => ?_, fun other inside => ?_⟩
    · have member : other ∈ items := whole ▸ List.mem_append_left _ inside
      exact lt_of_le_of_ne (least other member) fun same =>
        others other inside (decide_eq_true same.symm)
    · exact least other (whole ▸ List.mem_append_right _ (List.mem_cons_of_mem _ inside))
  refine ⟨split, fun ⟨before, after, least⟩ => ?_⟩
  cases head : (sortBy key items).head? with
  | none =>
      rw [List.head?_eq_none_iff, ← List.length_eq_zero_iff, length_sortBy, least.whole] at head
      simp at head
  | some first =>
      obtain ⟨before', after', least'⟩ := split head
      have same : key first = key item :=
        le_antisymm (least'.le (least.whole ▸ List.mem_append_right _ List.mem_cons_self))
          (least.le (least'.whole ▸ List.mem_append_right _ List.mem_cons_self))
      have level := least'.level
      rw [same, least.level] at level
      exact level.symm

theorem find?_sortBy {items : List α} {p : α → Bool} {item : α} :
    (sortBy key items).find? p = some item ↔
      ∃ before after, FirstLeast key (items.filter p) item before after := by
  rw [← List.head?_filter, sortBy_filter, head?_sortBy]

theorem firstLeast_filter {items : List α} {p : α → Bool} {item : α} :
    (∃ before after, FirstLeast key (items.filter p) item before after) ↔
      ∃ before after, items = before ++ item :: after ∧ p item = true ∧
        (∀ other ∈ before, p other = true → key item < key other) ∧
        ∀ other ∈ after, p other = true → key item ≤ key other := by
  constructor
  · rintro ⟨before, after, least⟩
    obtain ⟨front, back, rfl, kept, rest⟩ := List.filter_eq_append_iff.mp least.whole
    obtain ⟨dropped, later, rfl, none, passes, rfl⟩ := List.filter_eq_cons_iff.mp rest
    refine ⟨front ++ dropped, later, (List.append_assoc _ _ _).symm, passes, ?_, ?_⟩
    · intro other member pass
      rcases List.mem_append.mp member with inside | inside
      · exact least.earlier other (kept ▸ List.mem_filter.mpr ⟨inside, pass⟩)
      · exact absurd pass (none other inside)
    · intro other member pass
      exact least.later other (List.mem_filter.mpr ⟨member, pass⟩)
  · rintro ⟨before, after, rfl, passes, earlier, later⟩
    refine ⟨before.filter p, after.filter p, ?_, ?_, ?_⟩
    · rw [List.filter_append, List.filter_cons_of_pos passes]
    · intro other member
      obtain ⟨inside, pass⟩ := List.mem_filter.mp member
      exact earlier other inside pass
    · intro other member
      obtain ⟨inside, pass⟩ := List.mem_filter.mp member
      exact later other inside pass

/-! ### Places in the order -/

theorem first_alone_iff {π : Type} [Preorder π] {rank : α → π} {best : α} {rest : List α}
    (sorted : (best :: rest).Pairwise fun a b => rank a ≤ rank b) :
    (∀ other ∈ rest, rank best < rank other) ↔ ∀ second ∈ rest.head?, rank best < rank second := by
  cases rest with
  | nil => simp
  | cons second rest =>
      have later := (List.pairwise_cons.mp (List.pairwise_cons.mp sorted).2).1
      constructor
      · intro before next same
        obtain rfl := Option.some.inj same
        exact before _ List.mem_cons_self
      · intro before
        have first := before second rfl
        rw [List.forall_mem_cons]
        exact ⟨first, fun other member => first.trans_le (later other member)⟩

theorem sortBy_before {items before after : List α} {item : α}
    (distinct : (items.map key).Nodup) (split : sortBy key items = before ++ item :: after) :
    before = sortBy key (items.filter fun other => key other < key item) := by
  have nodup := nodup_sortBy distinct
  have sorted := sorted_sortBy key items
  rw [split] at sorted nodup
  rw [List.map_append, List.map_cons, List.nodup_append] at nodup
  obtain ⟨-, rest, apart⟩ := nodup
  rw [List.pairwise_append, List.pairwise_cons] at sorted
  obtain ⟨-, ⟨later, -⟩, across⟩ := sorted
  rw [← sortBy_filter, split, List.filter_append]
  have kept : before.filter (fun other => decide (key other < key item)) = before := by
    apply List.filter_eq_self.mpr
    intro other member
    have le : key other ≤ key item := across other member item List.mem_cons_self
    have ne : key other ≠ key item :=
      apart _ (List.mem_map_of_mem member) _ List.mem_cons_self
    exact decide_eq_true (lt_of_le_of_ne le ne)
  have dropped : (item :: after).filter (fun other => decide (key other < key item)) = [] := by
    apply List.filter_eq_nil_iff.mpr
    intro other member
    rw [decide_eq_true_eq, not_lt]
    rcases List.mem_cons.mp member with rfl | member
    · exact le_rfl
    · exact later other member
  rw [kept, dropped, List.append_nil]

theorem sortBy_first {items rest : List α} {item : α} (fresh : item ∉ items)
    (apart : item ∉ rest) (level : ∀ other ∈ rest, key other = key item) :
    ∃ before after, sortBy key (items ++ item :: rest) = before ++ item :: after ∧
      (∀ other ∈ rest, other ∈ before → other ∈ items) ∧ item ∉ before ∧
      before.length = items.countP fun other => key other ≤ key item := by
  have member : item ∈ sortBy key (items ++ item :: rest) :=
    (mem_sortBy key).mpr (List.mem_append_right _ List.mem_cons_self)
  obtain ⟨before, after, split, first⟩ := List.eq_append_cons_of_mem member
  have sorted := sorted_sortBy key (items ++ item :: rest)
  rw [split, List.pairwise_append, List.pairwise_cons] at sorted
  obtain ⟨-, ⟨later, -⟩, across⟩ := sorted
  -- The items of the key stand as they did.
  have stable : (sortBy key (items ++ item :: rest)).filter (fun other => key other = key item) =
      _ := sortBy_stable (items ++ item :: rest) (key item)
  have all : rest.filter (fun other => decide (key other = key item)) = rest :=
    List.filter_eq_self.mpr fun other inside => decide_eq_true (level other inside)
  rw [split, List.filter_append, List.filter_append, List.filter_cons, List.filter_cons,
    if_pos (decide_eq_true rfl), if_pos (decide_eq_true rfl), all] at stable
  have absent : item ∉ items.filter fun other => decide (key other = key item) :=
    fun inside => fresh (List.mem_of_mem_filter inside)
  obtain ⟨same, -, -⟩ := (List.append_cons_inj_of_notMem absent apart).mp stable.symm
  -- What is less stands before the item.
  have perm := perm_sortBy key (items ++ item :: rest)
  have less := perm.countP_eq fun other => decide (key other < key item)
  have none : (item :: rest).countP (fun other => decide (key other < key item)) = 0 := by
    apply List.countP_eq_zero.mpr
    intro other inside
    rw [decide_eq_true_eq, not_lt]
    rcases List.mem_cons.mp inside with rfl | inside
    · exact le_rfl
    · exact (level other inside).ge
  have none' : (item :: after).countP (fun other => decide (key other < key item)) = 0 := by
    apply List.countP_eq_zero.mpr
    intro other inside
    rw [decide_eq_true_eq, not_lt]
    rcases List.mem_cons.mp inside with rfl | inside
    · exact le_rfl
    · exact later other inside
  rw [split, List.countP_append, List.countP_append, none, none'] at less
  have upTo : ∀ list : List α, (list.countP fun other => decide (key other ≤ key item)) =
      (list.countP fun other => decide (key other < key item)) +
        (list.filter fun other => decide (key other = key item)).length := by
    intro list
    induction list with
    | nil => rfl
    | cons head tail ih =>
        rw [List.countP_cons, List.countP_cons, List.filter_cons, ih]
        rcases lt_trichotomy (key head) (key item) with below | equal | above
        · simp [below, below.le, below.ne]
          omega
        · simp [equal]
          omega
        · simp [not_lt.mpr above.le, not_le.mpr above, above.ne']
  refine ⟨before, after, split, ?_, first, ?_⟩
  · intro other inside before'
    have kept : other ∈ before.filter fun other => decide (key other = key item) :=
      List.mem_filter.mpr ⟨before', decide_eq_true (level other inside)⟩
    rw [← same] at kept
    exact List.mem_of_mem_filter kept
  · calc before.length
      _ = before.countP fun other => decide (key other ≤ key item) := by
        apply Eq.symm
        apply List.countP_eq_length.mpr
        intro other inside
        exact decide_eq_true (across other inside item List.mem_cons_self)
      _ = items.countP fun other => decide (key other ≤ key item) := by
        rw [upTo, upTo, same]
        omega

/-- Whether one of the items that come last with a key is among the first `n`. -/
theorem mem_take_sortBy_append {items new : List α} {own : κ} (distinct : new.Nodup)
    (apart : ∀ item ∈ new, item ∉ items) (level : ∀ item ∈ new, key item = own) (n : Nat) :
    (∃ item ∈ new, item ∈ (sortBy key (items ++ new)).take n) ↔
      new ≠ [] ∧ (items.countP fun other => key other ≤ own) < n := by
  cases new with
  | nil => simp
  | cons item rest =>
      have same : key item = own := level item List.mem_cons_self
      have equal : ∀ other ∈ rest, key other = key item := by
        intro other inside
        exact (level other (List.mem_cons_of_mem item inside)).trans same.symm
      obtain ⟨before, after, split, elsewhere, first, length⟩ := sortBy_first
        (apart item List.mem_cons_self) (List.nodup_cons.mp distinct).1 equal
      rw [split, ← same, ← length]
      constructor
      · intro found
        obtain ⟨other, inside, taken⟩ := found
        refine ⟨List.cons_ne_nil _ _, ?_⟩
        by_contra beyond
        rw [List.take_append_of_le_length (Nat.le_of_not_lt beyond)] at taken
        have early := List.mem_of_mem_take taken
        rcases List.mem_cons.mp inside with rfl | inside
        · exact first early
        · exact apart other (List.mem_cons_of_mem item inside) (elsewhere other inside early)
      · intro room
        refine ⟨item, List.mem_cons_self, ?_⟩
        rw [List.take_append, List.take_cons (Nat.sub_pos_of_lt room.2)]
        exact List.mem_append_right _ List.mem_cons_self

theorem mem_page_append {items new : List α} {own : κ} (distinct : new.Nodup)
    (apart : ∀ item ∈ new, item ∉ items) (level : ∀ item ∈ new, key item = own) (p : α → Bool)
    (n : Nat) :
    (∃ item ∈ new, item ∈ (sortBy key ((items ++ new).filter p)).take n) ↔
      (∃ item ∈ new, p item = true) ∧
        (items.countP fun other => p other && decide (key other ≤ own)) < n := by
  have apart' : ∀ item ∈ new.filter p, item ∉ items.filter p := by
    intro item member inside
    exact apart item (List.mem_of_mem_filter member) (List.mem_of_mem_filter inside)
  have level' : ∀ item ∈ new.filter p, key item = own :=
    fun item member => level item (List.mem_of_mem_filter member)
  have page := mem_take_sortBy_append (distinct.filter p) apart' level' n
  rw [← List.filter_append, List.countP_filter] at page
  have swap : (items.countP fun other => decide (key other ≤ own) && p other) =
      items.countP fun other => p other && decide (key other ≤ own) := by
    simp only [Bool.and_comm]
  rw [swap] at page
  constructor
  · intro found
    obtain ⟨item, member, listed⟩ := found
    have selected : p item = true :=
      (List.mem_filter.mp ((mem_sortBy key).mp (List.mem_of_mem_take listed))).2
    have room := page.mp ⟨item, List.mem_filter.mpr ⟨member, selected⟩, listed⟩
    exact ⟨⟨item, member, selected⟩, room.2⟩
  · intro room
    obtain ⟨⟨item, member, selected⟩, few⟩ := room
    have some : new.filter p ≠ [] :=
      List.ne_nil_of_mem (List.mem_filter.mpr ⟨member, selected⟩)
    obtain ⟨first, inside, listed⟩ := page.mpr ⟨some, few⟩
    exact ⟨first, List.mem_of_mem_filter inside, listed⟩

end SyndicateClaw
