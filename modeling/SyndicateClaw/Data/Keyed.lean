import Mathlib.Algebra.GroupWithZero.Nat
import Mathlib.Data.List.Nodup

/-! A table with a primary key. -/

namespace SyndicateClaw

structure Keyed {α κ : Type} (key : α → κ) where
  rows : List α
  distinct : (rows.map key).Nodup

namespace Keyed

variable {α κ : Type} {key : α → κ}

/-- `UPDATE` of a table: no row changes its key. -/
def change (table : Keyed key) (f : α → α) (keeps : ∀ row, key (f row) = key row) : Keyed key where
  rows := table.rows.map f
  distinct := by
    have same : key ∘ f = key := funext keeps
    rw [List.map_map, same]
    exact table.distinct

variable [DecidableEq κ]

def get? (table : Keyed key) (k : κ) : Option α := table.rows.find? fun row => key row = k

variable {table : Keyed key} {k : κ} {row : α}

theorem get?_eq_some : table.get? k = some row ↔ row ∈ table.rows ∧ key row = k := by
  unfold get?
  constructor
  · intro found
    exact ⟨List.mem_of_find?_eq_some found, by simpa using List.find?_some found⟩
  · intro found
    obtain ⟨member, rfl⟩ := found
    cases first : table.rows.find? fun other => key other = key row with
    | none => simpa using List.find?_eq_none.mp first row member
    | some other =>
        have same : key other = key row := by simpa using List.find?_some first
        exact congrArg some (List.inj_on_of_nodup_map table.distinct
          (List.mem_of_find?_eq_some first) member same)

theorem get?_of_mem (member : row ∈ table.rows) : table.get? (key row) = some row :=
  get?_eq_some.mpr ⟨member, rfl⟩

theorem get?_change (f : α → α) (keeps : ∀ row, key (f row) = key row) :
    (table.change f keeps).get? k = (table.get? k).map f := by
  unfold get?
  show (table.rows.map f).find? _ = _
  induction table.rows with
  | nil => rfl
  | cons first rest ih =>
      by_cases own : key first = k
      · simp [own, keeps]
      · simpa [own, keeps] using ih

/-- `UPDATE` of the row with a key. -/
def changeAt (table : Keyed key) (k : κ) (f : α → α) (keeps : ∀ row, key (f row) = key row) :
    Keyed key :=
  table.change (fun row => if key row = k then f row else row) fun row => by
    split
    · exact keeps row
    · rfl

theorem get?_changeAt (table : Keyed key) (k other : κ) (f : α → α)
    (keeps : ∀ row, key (f row) = key row) :
    (table.changeAt k f keeps).get? other =
      if other = k then (table.get? other).map f else table.get? other := by
  unfold changeAt
  rw [get?_change]
  cases found : table.get? other with
  | none => simp
  | some row =>
      rw [Option.map_some, (get?_eq_some.mp found).2]
      split <;> rfl

/-- An `UPDATE` that finds no row. -/
theorem changeAt_of_none (f : α → α) (keeps : ∀ row, key (f row) = key row)
    (absent : table.get? k = none) : table.changeAt k f keeps = table := by
  have same : (table.rows.map fun row => if key row = k then f row else row) = table.rows := by
    refine (List.map_congr_left ?_).trans (List.map_id table.rows)
    intro row member
    apply if_neg
    simpa using List.find?_eq_none.mp absent row member
  unfold changeAt change
  congr

/-- `INSERT`: a key that is taken is refused. -/
def insert (table : Keyed key) (row : α) : Keyed key :=
  if taken : key row ∈ table.rows.map key then table
  else
    { rows := table.rows ++ [row]
      distinct := by
        rw [List.map_append, List.map_singleton, List.nodup_append]
        refine ⟨table.distinct, List.nodup_singleton _, ?_⟩
        intro k member last only same
        rw [same, List.mem_singleton.mp only] at member
        exact taken member }

/-- `DELETE` of the rows that are not kept. -/
def filter (table : Keyed key) (keeps : α → Bool) : Keyed key where
  rows := table.rows.filter keeps
  distinct := table.distinct.sublist (List.filter_sublist.map key)

theorem get?_eq_none : table.get? k = none ↔ k ∉ table.rows.map key := by
  unfold get?
  rw [List.find?_eq_none]
  simp

theorem get?_insert (table : Keyed key) (row : α) (k : κ) :
    (table.insert row).get? k =
      if table.get? (key row) = none ∧ key row = k then some row else table.get? k := by
  unfold insert
  split
  · next taken => rw [if_neg fun both => get?_eq_none.mp both.1 taken]
  · next fresh =>
      have absent := get?_eq_none.mpr fresh
      have last : (table.rows ++ [row]).find? (fun other => key other = k) =
          (table.get? k).or (if key row = k then some row else none) := by
        rw [List.find?_append, List.find?_singleton]
        simp [get?]
      apply last.trans
      by_cases own : key row = k
      · subst own
        simp [absent]
      · simp [own]

theorem mem_insert {table : Keyed key} {row other : α} (member : other ∈ (table.insert row).rows) :
    other ∈ table.rows ∨ other = row := by
  unfold insert at member
  split at member
  · exact .inl member
  · exact (List.mem_append.mp member).imp id List.mem_singleton.mp

theorem mem_insert_of_mem {other : α} (member : other ∈ table.rows) (row : α) :
    other ∈ (table.insert row).rows := by
  unfold insert
  split
  · exact member
  · exact List.mem_append_left _ member

theorem rows_insert (fresh : table.get? (key row) = none) :
    (table.insert row).rows = table.rows ++ [row] := by
  unfold insert
  rw [dif_neg (get?_eq_none.mp fresh)]

theorem forall_mem_insert {P : α → Prop} (before : ∀ other ∈ table.rows, P other)
    (fresh : table.get? (key row) = none) :
    (∀ other ∈ (table.insert row).rows, P other) ↔ P row := by
  rw [rows_insert fresh]
  constructor
  · intro all
    exact all row (List.mem_append_right _ List.mem_cons_self)
  · intro last other member
    rcases List.mem_append.mp member with there | only
    · exact before other there
    · rwa [List.mem_singleton.mp only]

/-- What all rows have after an `UPDATE` of one, if they all had it before. -/
theorem forall_mem_changeAt {P : α → Prop} (f : α → α) (keeps : ∀ row, key (f row) = key row)
    (before : ∀ other ∈ table.rows, P other) (found : table.get? k = some row) :
    (∀ other ∈ (table.changeAt k f keeps).rows, P other) ↔ P (f row) := by
  obtain ⟨member, own⟩ := get?_eq_some.mp found
  constructor
  · intro all
    apply all
    exact List.mem_map.mpr ⟨row, member, if_pos own⟩
  · intro edited other inside
    obtain ⟨source, there, rfl⟩ := List.mem_map.mp inside
    split
    · next same =>
        have one := get?_of_mem there
        rw [same, found] at one
        rwa [← Option.some.inj one]
    · exact before source there

theorem rows_inserts {added : List α} (fresh : ∀ row ∈ added, table.get? (key row) = none)
    (distinct : (added.map key).Nodup) :
    (added.foldl insert table).rows = table.rows ++ added := by
  induction added generalizing table with
  | nil => exact (List.append_nil _).symm
  | cons row rest ih =>
      rw [List.map_cons, List.nodup_cons] at distinct
      have one := rows_insert (fresh row List.mem_cons_self)
      have later : ∀ other ∈ rest, (table.insert row).get? (key other) = none := by
        intro other member
        rw [get?_insert, if_neg]
        · exact fresh other (List.mem_cons_of_mem row member)
        · intro both
          exact distinct.1 (both.2 ▸ List.mem_map_of_mem member)
      rw [List.foldl_cons, ih later distinct.2, one, List.append_assoc]
      rfl

/-- What an `UPDATE` of one row adds to a sum over the rows, and takes from it. -/
theorem sum_changeAt (table : Keyed key) (f : α → α) (keeps : ∀ row, key (f row) = key row)
    (weight : α → Nat) (found : table.get? k = some row) :
    ((table.changeAt k f keeps).rows.map weight).sum + weight row =
      (table.rows.map weight).sum + weight (f row) := by
  obtain ⟨member, rfl⟩ := get?_eq_some.mp found
  have distinct := table.distinct
  show ((table.rows.map fun other => if key other = key row then f other else other).map weight).sum
    + _ = _
  revert member distinct
  induction table.rows with
  | nil => simp
  | cons first rest ih =>
      intro member distinct
      rw [List.map_cons, List.nodup_cons] at distinct
      simp only [List.map_cons, List.sum_cons]
      rcases List.mem_cons.mp member with rfl | later
      · have others : (rest.map fun other => if key other = key row then f other else other) =
            rest := by
          refine (List.map_congr_left ?_).trans (List.map_id rest)
          intro other inside
          apply if_neg
          intro same
          exact distinct.1 (same ▸ List.mem_map_of_mem inside)
        rw [others, if_pos rfl]
        omega
      · have apart : key first ≠ key row := by
          intro same
          exact distinct.1 (same ▸ List.mem_map_of_mem later)
        rw [if_neg apart]
        have rest := ih later distinct.2
        omega

theorem sum_insert (table : Keyed key) (row : α) (weight : α → Nat) :
    ((table.insert row).rows.map weight).sum =
      (table.rows.map weight).sum + if table.get? (key row) = none then weight row else 0 := by
  unfold insert
  split
  · next taken => rw [if_neg fun absent => get?_eq_none.mp absent taken, Nat.add_zero]
  · next fresh =>
      rw [if_pos (get?_eq_none.mpr fresh), List.map_append, List.sum_append]
      simp

theorem countP_eq_sum (p : α → Bool) (rows : List α) :
    rows.countP p = (rows.map fun row => if p row then 1 else 0).sum := by
  induction rows with
  | nil => rfl
  | cons first rest ih =>
      rw [List.countP_cons, List.map_cons, List.sum_cons, ih]
      omega

theorem countP_changeAt (table : Keyed key) (f : α → α) (keeps : ∀ row, key (f row) = key row)
    (p : α → Bool) (found : table.get? k = some row) :
    (table.changeAt k f keeps).rows.countP p + (if p row then 1 else 0) =
      table.rows.countP p + if p (f row) then 1 else 0 := by
  rw [countP_eq_sum, countP_eq_sum]
  exact sum_changeAt table f keeps _ found

theorem countP_insert (table : Keyed key) (row : α) (p : α → Bool) :
    (table.insert row).rows.countP p =
      table.rows.countP p + if table.get? (key row) = none ∧ p row = true then 1 else 0 := by
  unfold insert
  split
  · next taken => rw [if_neg fun both => get?_eq_none.mp both.1 taken, Nat.add_zero]
  · next fresh =>
      rw [List.countP_append, List.countP_singleton]
      simp [get?_eq_none.mpr fresh]

end Keyed

end SyndicateClaw
