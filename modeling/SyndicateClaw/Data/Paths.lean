import Mathlib.Data.List.DropRight

/-! Texts in parts between separators: what is split is joined again, and the other way round. -/

namespace SyndicateClaw.Paths

variable {α : Type} [BEq α] [LawfulBEq α] {sep : α}

variable (sep) in
def parts (path : List α) : List (List α) := (path.splitOn sep).filter fun part => !part.isEmpty

variable (sep) in
def Clean (items : List (List α)) : Prop := ∀ part ∈ items, sep ∉ part

theorem clean_splitOn (path : List α) : Clean sep (path.splitOn sep) := by
  induction path with
  | nil => simp [Clean]
  | cons first rest ih =>
      rw [List.splitOn_cons_eq_if_modifyHead]
      split
      · exact List.forall_mem_cons.mpr ⟨List.not_mem_nil, ih⟩
      · next other =>
          cases found : rest.splitOn sep with
          | nil => exact nofun
          | cons part later =>
              rw [found] at ih
              refine List.forall_mem_cons.mpr ⟨?_, fun own member => ih own (.tail _ member)⟩
              rw [List.mem_cons, not_or]
              exact ⟨fun same => other (beq_iff_eq.mpr same.symm), ih part List.mem_cons_self⟩

theorem intercalate_inj {items others : List (List α)} (clean : Clean sep items)
    (clean' : Clean sep others) (some : items ≠ []) (some' : others ≠ []) :
    [sep].intercalate items = [sep].intercalate others ↔ items = others := by
  refine ⟨fun same => ?_, congrArg _⟩
  calc items = ([sep].intercalate items).splitOn sep :=
        (List.splitOn_intercalate sep clean some).symm
    _ = ([sep].intercalate others).splitOn sep := congrArg _ same
    _ = others := List.splitOn_intercalate sep clean' some'

theorem parts_intercalate {items : List (List α)} (clean : Clean sep items) :
    parts sep ([sep].intercalate items) = items.filter fun part => !part.isEmpty := by
  unfold parts
  by_cases none : items = []
  · simp [none]
  · rw [List.splitOn_intercalate sep clean none]

theorem parts_sep (before after : List α) :
    parts sep (before ++ sep :: after) = parts sep before ++ parts sep after := by
  unfold parts
  rw [List.splitOn_append_cons_self, List.filter_append]

omit [LawfulBEq α] in
theorem parts_nil : parts sep [] = [] := by simp [parts]

theorem parts_cons_sep (path : List α) : parts sep (sep :: path) = parts sep path := by
  have apart := @parts_sep α _ _ sep [] path
  rwa [parts_nil, List.nil_append, List.nil_append] at apart

theorem parts_concat_sep (path : List α) : parts sep (path ++ [sep]) = parts sep path := by
  rw [parts_sep, parts_nil, List.append_nil]

theorem parts_dropWhile (path : List α) :
    parts sep (path.dropWhile (· == sep)) = parts sep path := by
  induction path with
  | nil => rfl
  | cons first rest ih =>
      rw [List.dropWhile_cons]
      split
      · next same => rw [ih, eq_of_beq same, parts_cons_sep]
      · rfl

theorem parts_rdropWhile (path : List α) :
    parts sep (path.rdropWhile (· == sep)) = parts sep path := by
  induction path using List.reverseRecOn with
  | nil => rfl
  | append_singleton front last ih =>
      rw [List.rdropWhile_concat]
      split
      · next same => rw [ih, eq_of_beq same, parts_concat_sep]
      · rfl

omit [BEq α] [LawfulBEq α] in
theorem intercalate_concat (items : List (List α)) (last : List α) :
    ∃ front, [sep].intercalate (items ++ [last]) = front ++ last := by
  induction items with
  | nil => exact ⟨[], by simp⟩
  | cons first rest ih =>
      obtain ⟨front, ends⟩ := ih
      refine ⟨first ++ [sep] ++ front, ?_⟩
      rw [List.cons_append, List.intercalate_cons_of_ne_nil (by simp), ends]
      simp

omit [BEq α] [LawfulBEq α] in
theorem intercalate_concat_nil {items : List (List α)} (some : items ≠ []) :
    [sep].intercalate (items ++ [[]]) = [sep].intercalate items ++ [sep] := by
  induction items with
  | nil => exact absurd rfl some
  | cons first rest ih =>
      cases rest with
      | nil => simp
      | cons second rest =>
          have later := ih (by simp)
          rw [List.cons_append, List.intercalate_cons_of_ne_nil (by simp), later,
            List.intercalate_cons_cons]
          simp

theorem rdropWhile_intercalate {items : List (List α)} {last : List α} (clean : sep ∉ last)
    (nonempty : last ≠ []) :
    ([sep].intercalate (items ++ [last])).rdropWhile (· == sep) =
      [sep].intercalate (items ++ [last]) := by
  obtain ⟨front, ends⟩ := @intercalate_concat α sep items last
  obtain ⟨body, final, rfl⟩ := (List.eq_nil_or_concat last).resolve_left nonempty
  have other : final ≠ sep := by
    rintro rfl
    exact clean (by simp)
  rw [ends, List.concat_eq_append, ← List.append_assoc, List.rdropWhile_concat_neg]
  simpa using other

omit [BEq α] [LawfulBEq α] in
theorem joined_eq_iff {a b c d : List α} :
    a ++ sep :: b = c ++ sep :: d ↔ (a = c ∧ b = d) ∨
      (∃ x, c = a ++ sep :: x ∧ b = x ++ sep :: d) ∨
      ∃ x, a = c ++ sep :: x ∧ d = x ++ sep :: b := by
  rw [List.append_eq_append_iff]
  constructor
  · intro cut
    rcases cut with ⟨x, first, second⟩ | ⟨x, first, second⟩
    · cases x with
      | nil =>
          rw [List.append_nil] at first
          exact .inl ⟨first.symm, (List.cons.inj second).2⟩
      | cons head x =>
          obtain ⟨rfl, rest⟩ := List.cons.inj second
          exact .inr (.inl ⟨x, first, rest⟩)
    · cases x with
      | nil =>
          rw [List.append_nil] at first
          exact .inl ⟨first, (List.cons.inj second).2.symm⟩
      | cons head x =>
          obtain ⟨rfl, rest⟩ := List.cons.inj second
          exact .inr (.inr ⟨x, first, rest⟩)
  · intro same
    rcases same with ⟨rfl, rfl⟩ | ⟨x, rfl, rfl⟩ | ⟨x, rfl, rfl⟩
    · exact .inl ⟨[], (List.append_nil a).symm, rfl⟩
    · exact .inl ⟨sep :: x, rfl, rfl⟩
    · exact .inr ⟨sep :: x, rfl, rfl⟩

end SyndicateClaw.Paths
