import Mathlib.Data.List.Perm.Subperm
import Mathlib.Data.List.TakeWhile

/-! A loop that is restarted from its first item with one permission.

An item may need a permission. A pass performs the items in order and stops at the first one
that needs a permission other than the one it holds; the next pass starts again at the first
item, with the permission the last one stopped for. -/

namespace SyndicateClaw.Restart

variable {α κ : Type} [DecidableEq κ] (needs : α → Option κ)

def blocked (held : Option κ) (item : α) : Bool :=
  (needs item).any fun key => held ≠ some key

def performed (held : Option κ) (items : List α) : List α :=
  items.takeWhile fun item => !blocked needs held item

def asked (held : Option κ) (items : List α) : Option α :=
  items.find? (blocked needs held)

/-- The permission the `n`th pass holds; nothing once a pass has come to the end. -/
def heldAt (held : Option κ) (items : List α) : Nat → Option (Option κ)
  | 0 => some held
  | n + 1 => (heldAt held items n).bind fun held => (asked needs held items).map needs

/-- What the first `n` passes have performed. -/
def total (held : Option κ) (items : List α) : Nat → List α
  | 0 => []
  | n + 1 => total held items n ++ ((heldAt needs held items n).elim [] fun held =>
      performed needs held items)

/-- No item is performed twice, and in the end each has been performed. -/
structure OneShot (held : Option κ) (items : List α) : Prop where
  atMostOnce : ∀ n, (total needs held items n).Subperm items
  completes : ∃ n last, heldAt needs held items n = some last ∧
    asked needs last items = none ∧ (total needs held items (n + 1)).Perm items

variable {needs} {held : Option κ} {items : List α}

theorem performed_cons {item : α} (free : blocked needs held item = false) :
    performed needs held (item :: items) = item :: performed needs held items :=
  List.takeWhile_cons_of_pos (by simp [free])

theorem asked_cons {item : α} (free : blocked needs held item = false) :
    asked needs held (item :: items) = asked needs held items :=
  List.find?_cons_of_neg (by simp [free])

theorem performed_cons_of_blocked {item : α} (stopped : blocked needs held item = true) :
    performed needs held (item :: items) = [] :=
  List.takeWhile_cons_of_neg (by simp [stopped])

theorem asked_cons_of_blocked {item : α} (stopped : blocked needs held item = true) :
    asked needs held (item :: items) = some item :=
  List.find?_cons_of_pos stopped

theorem asked_eq_none :
    asked needs held items = none ↔ ∀ item ∈ items, blocked needs held item = false := by
  unfold asked
  simp

theorem performed_of_asked_none (free : asked needs held items = none) :
    performed needs held items = items := by
  rw [asked_eq_none] at free
  unfold performed
  rw [List.takeWhile_eq_self_iff]
  intro item member
  rw [free item member]
  rfl

theorem asked_some {item : α} (stops : asked needs held items = some item) :
    blocked needs held item = true ∧ ∃ rest, items = performed needs held items ++ item :: rest := by
  induction items with
  | nil => cases stops
  | cons first rest ih =>
      unfold asked performed at *
      cases free : blocked needs held first with
      | true =>
          rw [List.find?_cons_of_pos free] at stops
          obtain rfl := Option.some.inj stops
          exact ⟨free, rest, by simp [free]⟩
      | false =>
          rw [List.find?_cons_of_neg (by simp [free])] at stops
          obtain ⟨stopped, rest', split⟩ := ih stops
          refine ⟨stopped, rest', ?_⟩
          rw [List.takeWhile_cons_of_pos (by simp [free]), List.cons_append, ← split]

theorem blocked_needs {item : α} (stopped : blocked needs held item = true) :
    ∃ key, needs item = some key ∧ held ≠ some key := by
  unfold blocked at stopped
  cases wanted : needs item with
  | none => simp [wanted] at stopped
  | some key => exact ⟨key, rfl, by simpa [wanted] using stopped⟩

theorem heldAt_none_of_le {n m : Nat} (ended : heldAt needs held items n = none) (le : n ≤ m) :
    heldAt needs held items m = none := by
  induction le with
  | refl => exact ended
  | step _ ih =>
      unfold heldAt
      rw [ih]
      rfl

theorem total_of_ended {n m : Nat} (ended : heldAt needs held items n = none) (le : n ≤ m) :
    total needs held items m = total needs held items n := by
  induction le with
  | refl => rfl
  | step le ih =>
      rw [total, ih, heldAt_none_of_le ended le]
      exact List.append_nil _

theorem oneShot_of_free (free : asked needs held items = none) : OneShot needs held items := by
  have ended : heldAt needs held items 1 = none := by
    unfold heldAt heldAt
    simp [free]
  have all : total needs held items 1 = items := by
    unfold total total heldAt
    simp [performed_of_asked_none free]
  constructor
  · intro n
    cases n with
    | zero => exact List.nil_subperm
    | succ n =>
        rw [total_of_ended ended (by omega), all]
  · exact ⟨0, held, rfl, free, by rw [all]⟩

theorem oneShot_of_first {first : α} {key : κ} (stops : asked needs held items = some first)
    (wants : needs first = some key) (nothing : performed needs held items = [])
    (free : asked needs (some key) items = none) : OneShot needs held items := by
  have second : heldAt needs held items 1 = some (some key) := by
    unfold heldAt heldAt
    simp [stops, wants]
  have ended : heldAt needs held items 2 = none := by
    rw [heldAt, second]
    simp [free]
  have none : total needs held items 1 = [] := by
    unfold total total heldAt
    simp [nothing]
  have all : total needs held items 2 = items := by
    rw [total, none, second]
    simp [performed_of_asked_none free]
  constructor
  · intro n
    rcases Nat.lt_or_ge n 2 with small | large
    · have empty : total needs held items n = [] := by
        match n, small with
        | 0, _ => rfl
        | 1, _ => exact none
      rw [empty]
      exact List.nil_subperm
    · rw [total_of_ended ended large, all]
  · exact ⟨1, some key, second, free, by rw [all]⟩

/-- Every item that needs a permission needs the one already held, or all need the same one
and the first item is among them. -/
def OnePermission (needs : α → Option κ) (held : Option κ) (items : List α) : Prop :=
  (∀ item ∈ items, blocked needs held item = false) ∨
    ∃ first key, items.head? = some first ∧ needs first = some key ∧
      ∀ item ∈ items, blocked needs (some key) item = false

theorem onePermission_of_completes {n : Nat} {last : Option κ}
    (reached : heldAt needs held items n = some last) (free : asked needs last items = none)
    (all : (total needs held items (n + 1)).Perm items) : OnePermission needs held items := by
  cases n with
  | zero =>
      obtain rfl := Option.some.inj reached
      exact .inl (asked_eq_none.mp free)
  | succ n =>
      have stepped := reached
      unfold heldAt at stepped
      obtain ⟨before, reached', wants⟩ := Option.bind_eq_some_iff.mp stepped
      obtain ⟨item, stops, rfl⟩ := Option.map_eq_some_iff.mp wants
      obtain ⟨stopped, rest, split⟩ := asked_some stops
      obtain ⟨key, wanted, -⟩ := blocked_needs stopped
      rw [wanted] at free reached
      -- the last pass performs every item, so the one before has performed none
      have nothing : performed needs before items = [] := by
        rw [total, total, reached', reached] at all
        have lengths := all.length_eq
        simp only [Option.elim_some, performed_of_asked_none free, List.length_append] at lengths
        exact List.eq_nil_of_length_eq_zero (by omega)
      rw [nothing, List.nil_append] at split
      exact .inr ⟨item, key, by rw [split]; rfl, wanted, asked_eq_none.mp free⟩

theorem oneShot_of_onePermission (one : OnePermission needs held items) :
    OneShot needs held items := by
  rcases one with free | ⟨first, key, head, wants, free⟩
  · exact oneShot_of_free (asked_eq_none.mpr free)
  · by_cases same : held = some key
    · rw [same]
      exact oneShot_of_free (asked_eq_none.mpr free)
    · obtain ⟨rest, rfl⟩ : ∃ rest, items = first :: rest := by
        cases items with
        | nil => cases head
        | cons a rest => exact ⟨rest, by rw [Option.some.inj head]⟩
      have stopped : blocked needs held first = true := by
        unfold blocked
        simp [wants, same]
      exact oneShot_of_first (asked_cons_of_blocked stopped) wants
        (performed_cons_of_blocked stopped) (asked_eq_none.mpr free)

end SyndicateClaw.Restart
