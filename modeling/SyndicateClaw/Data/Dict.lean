import Mathlib.Data.List.Nodup
import Mathlib.Data.List.Perm.Basic
import Mathlib.Data.Prod.Basic

/-! Insertion-ordered dictionaries as association lists. Lookups read the first
entry of a key; writes go to every entry of it, so the laws below need no
uniqueness assumption. -/

namespace SyndicateClaw

abbrev Dict (κ ν : Type) := List (κ × ν)

namespace Dict

variable {κ ν : Type} [DecidableEq κ]

def get? (d : Dict κ ν) (key : κ) : Option ν := d.lookup key

def contains (d : Dict κ ν) (key : κ) : Bool := (get? d key).isSome

def set (d : Dict κ ν) (key : κ) (value : ν) : Dict κ ν :=
  if contains d key then d.map fun entry => if entry.1 = key then (key, value) else entry
  else d ++ [(key, value)]

def pop (d : Dict κ ν) (key : κ) : Dict κ ν := d.filter fun entry => entry.1 ≠ key

/-- `d.update(e)`: keys of `d` keep their place, new keys follow in `e`'s order. -/
def update (d e : Dict κ ν) : Dict κ ν :=
  (d.map fun entry => (entry.1, (get? e entry.1).getD entry.2)) ++
    e.filter fun entry => !contains d entry.1

@[simp] theorem get?_nil (key : κ) : get? ([] : Dict κ ν) key = none := rfl

theorem get?_cons (entry : κ × ν) (d : Dict κ ν) (key : κ) :
    get? (entry :: d) key = if entry.1 = key then some entry.2 else get? d key := by
  obtain ⟨k, v⟩ := entry
  by_cases same : k = key
  · simp [get?, same]
  · have other : (key == k) = false := by simpa using fun h => same h.symm
    simp [get?, List.lookup_cons, other, same]

theorem get?_eq_none {d : Dict κ ν} {key : κ} (absent : ∀ entry ∈ d, entry.1 ≠ key) :
    get? d key = none := by
  induction d with
  | nil => rfl
  | cons entry d ih =>
      rw [get?_cons, if_neg (absent entry List.mem_cons_self)]
      exact ih fun other member => absent other (List.mem_cons_of_mem entry member)

theorem get?_eq_some {d : Dict κ ν} {key : κ} {value : ν} (distinct : (d.map Prod.fst).Nodup) :
    get? d key = some value ↔ (key, value) ∈ d := by
  induction d with
  | nil => simp
  | cons entry d ih =>
      rw [List.map_cons, List.nodup_cons] at distinct
      rw [get?_cons, List.mem_cons]
      split
      · next same =>
          subst same
          rw [Option.some.injEq]
          constructor
          · rintro rfl
            exact .inl rfl
          · rintro (same | later)
            · rw [← same]
            · exact absurd (List.mem_map_of_mem later) distinct.1
      · next other =>
          rw [ih distinct.2]
          exact ⟨.inr, fun member => member.resolve_left fun same => other (by rw [← same])⟩

theorem mem_of_get? {d : Dict κ ν} {key : κ} {value : ν} (found : get? d key = some value) :
    (key, value) ∈ d := by
  induction d with
  | nil => cases found
  | cons entry d ih =>
      rw [get?_cons] at found
      split at found
      · next same =>
          obtain rfl := Option.some.inj found
          rw [← same]
          exact List.mem_cons_self
      · exact List.mem_cons_of_mem entry (ih found)

theorem mem_keys {d : Dict κ ν} {key : κ} : key ∈ d.map Prod.fst ↔ contains d key = true := by
  rw [contains, Option.isSome_iff_exists]
  constructor
  · intro member
    by_contra absent
    obtain ⟨entry, inside, rfl⟩ := List.mem_map.mp member
    have none : d.lookup entry.1 = none := by
      simpa [get?, Option.eq_none_iff_forall_ne_some] using absent
    exact absurd (List.lookup_eq_none_iff.mp none entry inside) (by simp)
  · rintro ⟨value, found⟩
    exact List.mem_map_of_mem (mem_of_get? found)

theorem get?_perm {d d' : Dict κ ν} (perm : d.Perm d') (distinct : (d.map Prod.fst).Nodup)
    (key : κ) : get? d key = get? d' key := by
  have distinct' : (d'.map Prod.fst).Nodup := (perm.map Prod.fst).nodup_iff.mp distinct
  apply Option.ext
  intro value
  rw [get?_eq_some distinct, get?_eq_some distinct']
  exact perm.mem_iff

theorem get?_append (d e : Dict κ ν) (key : κ) :
    get? (d ++ e) key = (get? d key).or (get? e key) := by
  induction d with
  | nil => simp
  | cons entry d ih =>
      simp only [List.cons_append, get?_cons, ih]
      split <;> simp

theorem get?_map_value (f : κ → ν → ν) (d : Dict κ ν) (key : κ) :
    get? (d.map fun entry => (entry.1, f entry.1 entry.2)) key = (get? d key).map (f key) := by
  induction d with
  | nil => rfl
  | cons entry d ih =>
      simp only [List.map_cons, get?_cons, ih]
      split
      · next same => simp [same]
      · rfl

theorem get?_filter_key (p : κ → Bool) (d : Dict κ ν) (key : κ) :
    get? (d.filter fun entry => p entry.1) key = if p key then get? d key else none := by
  induction d with
  | nil => simp
  | cons entry d ih =>
      simp only [List.filter_cons]
      by_cases kept : p entry.1 = true
      · rw [if_pos kept, get?_cons, get?_cons, ih]
        by_cases same : entry.1 = key
        · subst same; simp [kept]
        · simp [same]
      · rw [if_neg kept, get?_cons, ih]
        by_cases same : entry.1 = key
        · subst same; simp [kept]
        · simp [same]

private theorem set_present (d : Dict κ ν) (key : κ) (value : ν) :
    (d.map fun entry => if entry.1 = key then (key, value) else entry) =
      d.map fun entry => (entry.1, if entry.1 = key then value else entry.2) := by
  apply List.map_congr_left
  rintro ⟨k, v⟩ -
  by_cases same : k = key <;> simp [same]

theorem get?_set (d : Dict κ ν) (key other : κ) (value : ν) :
    get? (set d key value) other = if other = key then some value else get? d other := by
  unfold set
  split
  · next present =>
      rw [set_present, get?_map_value fun k v => if k = key then value else v]
      by_cases same : other = key
      · subst same
        obtain ⟨v, found⟩ := Option.isSome_iff_exists.mp present
        simp [found]
      · simp [same]
  · next absent =>
      rw [get?_append, get?_cons]
      by_cases same : other = key
      · subst same
        simp only [contains, Bool.not_eq_true, Option.isSome_eq_false_iff,
          Option.isNone_iff_eq_none] at absent
        simp [absent]
      · simp [same, Ne.symm same]

@[simp] theorem get?_set_self (d : Dict κ ν) (key : κ) (value : ν) :
    get? (set d key value) key = some value := by simp [get?_set]

theorem get?_set_of_ne (d : Dict κ ν) {key other : κ} (value : ν) (distinct : other ≠ key) :
    get? (set d key value) other = get? d other := by simp [get?_set, distinct]

theorem get?_pop (d : Dict κ ν) (key other : κ) :
    get? (pop d key) other = if other = key then none else get? d other := by
  have filtered := get?_filter_key (fun k => decide (k ≠ key)) d other
  simp only [decide_not, Bool.not_eq_true', decide_eq_false_iff_not] at filtered
  simp only [pop, decide_not, filtered, ite_not]

theorem get?_update (d e : Dict κ ν) (key : κ) :
    get? (update d e) key = (get? e key).or (get? d key) := by
  unfold update
  rw [get?_append, get?_map_value fun k v => (get? e k).getD v,
    get?_filter_key fun k => !contains d k]
  cases found : get? d key <;> cases new : get? e key <;> simp [contains, found]

theorem mem_update {d e : Dict κ ν} {entry : κ × ν} (member : entry ∈ update d e) :
    entry ∈ d ∨ entry ∈ e := by
  rcases List.mem_append.mp member with kept | added
  · obtain ⟨own, inside, rfl⟩ := List.mem_map.mp kept
    cases new : get? e own.1 with
    | none => exact .inl inside
    | some value => exact .inr (mem_of_get? new)
  · exact .inr (List.mem_filter.mp added).1

theorem mem_keys_update {d : Dict κ ν} {key : κ} (member : key ∈ d.map Prod.fst) (e : Dict κ ν) :
    key ∈ (update d e).map Prod.fst := by
  unfold update
  rw [List.map_append, List.map_map, List.mem_append]
  exact .inl member

theorem find?_update (d e : Dict κ ν) (p : κ → Bool) :
    (update d e).find? (fun entry => p entry.1) =
      ((d.find? fun entry => p entry.1).map fun entry =>
        (entry.1, (get? e entry.1).getD entry.2)).or (e.find? fun entry => p entry.1) := by
  unfold update
  rw [List.find?_append, List.find?_map]
  cases first : d.find? fun entry => p entry.1 with
  | some entry => simp [Function.comp_def, first]
  | none =>
      have fresh : ∀ entry : κ × ν, p entry.1 = true → contains d entry.1 = false := by
        intro entry passes
        rw [← Bool.not_eq_true, contains, Option.isSome_iff_exists]
        intro ⟨value, found⟩
        exact List.find?_eq_none.mp first _ (mem_of_get? found) passes
      have same : (fun entry : κ × ν => (!contains d entry.1) && p entry.1) =
          fun entry => p entry.1 := by
        funext entry
        cases passes : p entry.1 with
        | true => simp [fresh entry passes]
        | false => simp
      rw [List.find?_filter]
      simp [Function.comp_def, first, same]

theorem mem_set {d : Dict κ ν} {key : κ} {value : ν} {entry : κ × ν}
    (member : entry ∈ set d key value) : entry = (key, value) ∨ entry ∈ d := by
  unfold set at member
  split at member
  · obtain ⟨own, inside, rfl⟩ := List.mem_map.mp member
    split
    · exact .inl rfl
    · exact .inr inside
  · rcases List.mem_append.mp member with inside | last
    · exact .inr inside
    · exact .inl (List.mem_singleton.mp last)

theorem nodup_set {d : Dict κ ν} (distinct : (d.map Prod.fst).Nodup) (key : κ) (value : ν) :
    ((set d key value).map Prod.fst).Nodup := by
  unfold set
  split
  · have same : (d.map fun entry => if entry.1 = key then (key, value) else entry).map Prod.fst =
        d.map Prod.fst := by
      rw [List.map_map]
      refine List.map_congr_left fun entry _ => ?_
      by_cases same : entry.1 = key <;> simp [same]
    rw [same]
    exact distinct
  · next absent =>
      rw [List.map_append]
      refine distinct.append (List.nodup_singleton key) ?_
      intro own member last
      obtain rfl := List.mem_singleton.mp last
      obtain ⟨entry, inside, rfl⟩ := List.mem_map.mp member
      refine absent ?_
      rw [contains, (get?_eq_some distinct).mpr inside]
      rfl

theorem foldl_set {d entries : Dict κ ν} (distinct : ((d ++ entries).map Prod.fst).Nodup) :
    entries.foldl (fun d entry => set d entry.1 entry.2) d = d ++ entries := by
  induction entries generalizing d with
  | nil => exact (List.append_nil d).symm
  | cons entry entries ih =>
      have fresh : contains d entry.1 = false := by
        rw [List.map_append, List.nodup_append] at distinct
        have absent := get?_eq_none fun other member => distinct.2.2 other.1
          (List.mem_map_of_mem member) entry.1 (List.mem_map_of_mem List.mem_cons_self)
        rw [contains, absent]
        rfl
      rw [List.foldl_cons, set, fresh, if_neg (by decide), ih]
      · rw [List.append_assoc, List.singleton_append]
      · rw [List.append_assoc, List.singleton_append]
        exact distinct

theorem pop_set (d : Dict κ ν) (key : κ) (value : ν) : pop (set d key value) key = pop d key := by
  unfold set
  split
  · have sameKeys : (fun entry : κ × ν => decide (entry.1 ≠ key)) ∘
        (fun entry : κ × ν => (entry.1, if entry.1 = key then value else entry.2)) =
          fun entry : κ × ν => decide (entry.1 ≠ key) := rfl
    rw [set_present, pop, pop, List.filter_map, sameKeys]
    refine (List.map_congr_left fun entry member => ?_).trans (List.map_id _)
    have other : entry.1 ≠ key := by simpa using (List.mem_filter.mp member).2
    rw [if_neg other, id]
  · simp [pop, List.filter_append]

theorem perm_pop {d : Dict κ ν} (distinct : (d.map Prod.fst).Nodup) {key : κ} {value : ν}
    (found : get? d key = some value) : d.Perm ((key, value) :: pop d key) := by
  have others : ∀ entry, entry ∈ pop d key ↔ entry ∈ d ∧ entry.1 ≠ key := by
    intro entry
    rw [pop, List.mem_filter, decide_eq_true_eq]
  rw [List.perm_ext_iff_of_nodup distinct.of_map]
  · intro entry
    rw [List.mem_cons, others]
    constructor
    · intro member
      by_cases same : entry.1 = key
      · refine .inl (List.inj_on_of_nodup_map distinct member (mem_of_get? found) same)
      · exact .inr ⟨member, same⟩
    · rintro (rfl | ⟨member, -⟩)
      · exact mem_of_get? found
      · exact member
  · refine List.nodup_cons.mpr ⟨fun member => ((others _).mp member).2 rfl, ?_⟩
    exact distinct.of_map.filter _

end Dict

end SyndicateClaw
