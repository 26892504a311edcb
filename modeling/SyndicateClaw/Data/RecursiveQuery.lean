import Mathlib.Data.Fintype.Card
import Mathlib.Data.List.Perm.Subperm
import Mathlib.Data.Nat.Find
import Mathlib.Data.Set.Finite.List
import Mathlib.Logic.Relation

/-! `WITH RECURSIVE ... UNION ALL`: the rows of a step are joined to the rows of the one before,
until a step has none. -/

namespace SyndicateClaw.RecursiveQuery

variable {α : Type} (next : α → List α)

def level : Nat → List α → List α
  | 0, working => working
  | n + 1, working => level n (working.flatMap next)

def rows : Nat → List α → Option (List α)
  | _, [] => some []
  | 0, _ :: _ => none
  | n + 1, row :: working =>
      (rows n ((row :: working).flatMap next)).map fun later => row :: working ++ later

def Ends (working : List α) : Prop := ∃ n, level next n working = []

def Joins (row other : α) : Prop := other ∈ next row

variable {next}

theorem level_nil (n : Nat) : level next n [] = [] := by
  induction n with
  | zero => rfl
  | succ n ih => exact ih

theorem level_later {n : Nat} {working : List α} (none : level next n working = [])
    (more : Nat) : level next (n + more) working = [] := by
  induction n generalizing working with
  | zero =>
      have empty : working = [] := none
      rw [empty, level_nil]
  | succ n ih =>
      rw [Nat.add_right_comm]
      exact ih none

theorem mem_level {n : Nat} {working : List α} {row : α} :
    row ∈ level next n working ↔ ∃ start ∈ working, row ∈ level next n [start] := by
  induction n generalizing working with
  | zero =>
      constructor
      · exact fun member => ⟨row, member, List.mem_singleton_self row⟩
      · rintro ⟨start, member, same⟩
        rw [List.mem_singleton.mp same]
        exact member
  | succ n ih =>
      unfold level
      constructor
      · intro member
        obtain ⟨later, joined, inside⟩ := ih.mp member
        obtain ⟨start, first, joins⟩ := List.mem_flatMap.mp joined
        refine ⟨start, first, ih.mpr ⟨later, ?_, inside⟩⟩
        exact List.mem_flatMap.mpr ⟨start, List.mem_singleton_self start, joins⟩
      · rintro ⟨start, first, member⟩
        obtain ⟨later, joined, inside⟩ := ih.mp member
        obtain ⟨own, same, joins⟩ := List.mem_flatMap.mp joined
        rw [List.mem_singleton.mp same] at joins
        exact ih.mpr ⟨later, List.mem_flatMap.mpr ⟨start, first, joins⟩, inside⟩

theorem level_eq_nil {n : Nat} {working : List α} :
    level next n working = [] ↔ ∀ start ∈ working, level next n [start] = [] := by
  simp only [List.eq_nil_iff_forall_not_mem]
  constructor
  · intro none start member row inside
    exact none row (mem_level.mpr ⟨start, member, inside⟩)
  · intro none row inside
    obtain ⟨start, member, inside⟩ := mem_level.mp inside
    exact none start member row inside

theorem level_joined {n : Nat} {row : α} :
    level next (n + 1) [row] = [] ↔ ∀ other ∈ next row, level next n [other] = [] := by
  rw [level, List.flatMap_singleton]
  exact level_eq_nil

theorem rows_isSome {n : Nat} {working : List α} :
    (rows next n working).isSome = true ↔ level next n working = [] := by
  induction n generalizing working with
  | zero => cases working <;> simp [rows, level]
  | succ n ih =>
      cases working with
      | nil => simp [rows, level_nil]
      | cons row working =>
          rw [rows, Option.isSome_map]
          exact ih

theorem mem_rows {n : Nat} {working answer : List α} (found : rows next n working = some answer)
    {row : α} : row ∈ answer ↔ ∃ start ∈ working, Relation.ReflTransGen (Joins next) start row := by
  induction n generalizing working answer with
  | zero =>
      cases working with
      | nil =>
          cases found
          simp
      | cons => cases found
  | succ n ih =>
      cases working with
      | nil =>
          cases found
          simp
      | cons first working =>
          rw [rows] at found
          obtain ⟨later, deeper, rfl⟩ := Option.map_eq_some_iff.mp found
          rw [List.mem_append, ih deeper]
          constructor
          · rintro (here | ⟨joined, member, leads⟩)
            · exact ⟨row, here, .refl⟩
            · obtain ⟨start, own, joins⟩ := List.mem_flatMap.mp member
              exact ⟨start, own, .head joins leads⟩
          · rintro ⟨start, member, leads⟩
            rcases Relation.ReflTransGen.cases_head leads with rfl | ⟨joined, joins, leads⟩
            · exact .inl member
            · exact .inr ⟨joined, List.mem_flatMap.mpr ⟨start, member, joins⟩, leads⟩

theorem distinct_rows {table : List α} (closed : ∀ row ∈ table, ∀ other ∈ next row, other ∈ table)
    {n : Nat} {row : α} (inside : row ∈ table) (some : level next n [row] ≠ [])
    (none : level next (n + 1) [row] = []) :
    ∃ chain : List α, chain.Nodup ∧ chain ⊆ table ∧ chain.length = n + 1 ∧
      ∀ other ∈ chain, level next (n + 1) [other] = [] := by
  -- the row of each number of steps left is another one
  induction n generalizing row with
  | zero =>
      refine ⟨[row], by simp, by simpa using inside, rfl, fun other member => ?_⟩
      rw [List.mem_singleton.mp member]
      exact none
  | succ n ih =>
      have leads : ¬ ∀ other ∈ next row, level next n [other] = [] :=
        fun all => some (level_joined.mpr all)
      push Not at leads
      obtain ⟨other, joins, deep⟩ := leads
      obtain ⟨chain, distinct, within, long, ends⟩ :=
        ih (closed row inside other joins) deep (level_joined.mp none other joins)
      refine ⟨row :: chain, List.nodup_cons.mpr ⟨fun again => ?_, distinct⟩, ?_, ?_, ?_⟩
      · exact some (ends row again)
      · exact List.cons_subset.mpr ⟨inside, within⟩
      · rw [List.length_cons, long]
      · intro own member
        rcases List.mem_cons.mp member with rfl | later
        · exact none
        · exact level_later (ends own later) 1

theorem ends_iff {table : List α} (closed : ∀ row ∈ table, ∀ other ∈ next row, other ∈ table)
    {working : List α} (within : working ⊆ table) :
    Ends next working ↔ level next table.length working = [] := by
  constructor
  · rintro ⟨n, none⟩
    rw [level_eq_nil] at none ⊢
    intro row member
    have ends : ∃ n, level next n [row] = [] := ⟨n, none row member⟩
    classical
    cases least : Nat.find ends with
    | zero =>
        have empty := Nat.find_spec ends
        rw [least] at empty
        cases empty
    | succ m =>
        have last := Nat.find_spec ends
        rw [least] at last
        have before := Nat.find_min ends (show m < Nat.find ends by omega)
        obtain ⟨chain, distinct, inside, long, -⟩ :=
          distinct_rows closed (within member) before last
        have few := distinct.length_le_of_subset inside
        obtain ⟨more, same⟩ := Nat.exists_eq_add_of_le (long ▸ few)
        rw [same]
        exact level_later last more
  · exact fun none => ⟨table.length, none⟩

/-! ### Cycles -/

def Acyclic (next : α → List α) (working : List α) : Prop :=
  ∀ start ∈ working, ∀ row, Relation.ReflTransGen (Joins next) start row →
    ¬ Relation.TransGen (Joins next) row row

theorem level_transGen {n : Nat} {row other : α} (leads : Relation.TransGen (Joins next) row other)
    (none : level next (n + 1) [row] = []) : level next n [other] = [] := by
  induction leads with
  | single joins => exact level_joined.mp none _ joins
  | @tail middle last _ joins ih =>
      cases n with
      | zero => cases ih
      | succ n => exact level_later (level_joined.mp ih last joins) 1

theorem level_reflTransGen {n : Nat} {row other : α}
    (leads : Relation.ReflTransGen (Joins next) row other) (none : level next n [row] = []) :
    level next n [other] = [] := by
  rcases Relation.reflTransGen_iff_eq_or_transGen.mp leads with same | leads
  · rw [same]
    exact none
  · cases n with
    | zero => cases none
    | succ n => exact level_later (level_transGen leads none) 1

theorem not_transGen_self {n : Nat} {row : α} (none : level next n [row] = []) :
    ¬ Relation.TransGen (Joins next) row row := by
  intro cycle
  induction n with
  | zero => cases none
  | succ n ih => exact ih (level_transGen cycle none)

theorem ends_iff_forall {working : List α} :
    Ends next working ↔ ∀ start ∈ working, Ends next [start] := by
  constructor
  · rintro ⟨n, none⟩ start member
    exact ⟨n, level_eq_nil.mp none start member⟩
  · intro each
    induction working with
    | nil => exact ⟨0, rfl⟩
    | cons row working ih =>
        obtain ⟨n, first⟩ := each row List.mem_cons_self
        obtain ⟨m, others⟩ := ih fun start member => each start (List.mem_cons_of_mem row member)
        refine ⟨n + m, level_eq_nil.mpr fun start member => ?_⟩
        rcases List.mem_cons.mp member with rfl | later
        · exact level_later first m
        · rw [Nat.add_comm]
          exact level_later (level_eq_nil.mp others start later) n

theorem ends_of_joined {row : α} (each : ∀ other ∈ next row, Ends next [other]) :
    Ends next [row] := by
  obtain ⟨n, none⟩ := ends_iff_forall.mpr each
  exact ⟨n + 1, level_joined.mpr fun other joins => level_eq_nil.mp none other joins⟩

theorem ends_iff_acyclic {table : List α}
    (closed : ∀ row ∈ table, ∀ other ∈ next row, other ∈ table) {working : List α}
    (within : working ⊆ table) : Ends next working ↔ Acyclic next working := by
  constructor
  · rintro ⟨n, none⟩ start member row leads
    exact not_transGen_self (level_reflTransGen leads (level_eq_nil.mp none start member))
  · intro acyclic
    rw [ends_iff_forall]
    intro start member
    -- what is reached is finite, and "leads to" is well-founded on it
    let Reached := {row : α // row ∈ table ∧ Relation.ReflTransGen (Joins next) start row}
    have finite : Finite Reached :=
      Set.Finite.subset (List.finite_toSet table) fun row reached => reached.1
    let Below (other row : Reached) : Prop := Relation.TransGen (Joins next) row.1 other.1
    have transitive : IsTrans Reached Below := ⟨fun _ _ _ first second => second.trans first⟩
    have irreflexive : Std.Irrefl Below := ⟨fun row => acyclic start member row.1 row.2.2⟩
    have founded : WellFounded Below := Finite.wellFounded_of_trans_of_irrefl Below
    have ends (row : Reached) : Ends next [row.1] := by
      induction row using founded.induction with
      | h row ih =>
          apply ends_of_joined
          intro other joins
          exact ih ⟨other, closed row.1 row.2.1 other joins, row.2.2.tail joins⟩ (.single joins)
    exact ends ⟨start, within member, .refl⟩

end SyndicateClaw.RecursiveQuery
