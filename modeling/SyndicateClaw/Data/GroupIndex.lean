import Mathlib.Data.List.Dedup
import SyndicateClaw.Data.Dict
import SyndicateClaw.Data.KeySort

/-! Indexes that gather values under keys, each group sorted and without duplicates. -/

namespace SyndicateClaw.GroupIndex

variable {κ ν μ : Type} [DecidableEq κ] [DecidableEq ν] [LinearOrder μ] (rank : ν → μ)

/-- `index[key].append(value)`, on a `defaultdict(list)`. -/
def push (index : Dict κ (List ν)) (key : κ) (value : ν) : Dict κ (List ν) :=
  Dict.set index key ((Dict.get? index key).getD [] ++ [value])

/-- `index.get(key, ())`. -/
def under (index : Dict κ (List ν)) (key : κ) : List ν := (Dict.get? index key).getD []

/-- `sorted(set(values))`. -/
def sortedSet (values : List ν) : List ν := sortBy rank values.dedup

def tidy (index : Dict κ (List ν)) : Dict κ (List ν) :=
  index.map fun group => (group.1, sortedSet rank group.2)

def gather (index : Dict κ (List ν)) (pairs : List (κ × ν)) : Dict κ (List ν) :=
  pairs.foldl (fun index pair => push index pair.1 pair.2) index

omit [DecidableEq ν] in
theorem under_push (index : Dict κ (List ν)) (key other : κ) (value : ν) :
    under (push index key value) other =
      if other = key then under index other ++ [value] else under index other := by
  unfold under push
  rw [Dict.get?_set]
  split
  · next same =>
      subst same
      rfl
  · rfl

omit [DecidableEq ν] in
theorem under_gather (index : Dict κ (List ν)) (pairs : List (κ × ν)) (key : κ) :
    under (gather index pairs) key =
      under index key ++ (pairs.filter fun pair => pair.1 = key).map Prod.snd := by
  induction pairs generalizing index with
  | nil => simp [gather]
  | cons pair pairs ih =>
      calc
        under (gather index (pair :: pairs)) key =
            under (push index pair.1 pair.2) key ++
              (pairs.filter fun pair => pair.1 = key).map Prod.snd := ih _
        _ = under index key ++ ((pair :: pairs).filter fun pair => pair.1 = key).map Prod.snd := by
          rw [under_push]
          by_cases same : pair.1 = key
          · simp [same]
          · simp [same, Ne.symm same]

omit [DecidableEq ν] in
theorem gather_append (index : Dict κ (List ν)) (pairs later : List (κ × ν)) :
    gather index (pairs ++ later) = gather (gather index pairs) later :=
  List.foldl_append

theorem under_tidy (index : Dict κ (List ν)) (key : κ) :
    under (tidy rank index) key = sortedSet rank (under index key) := by
  unfold under tidy
  rw [Dict.get?_map_value (fun _ group => sortedSet rank group)]
  cases Dict.get? index key with
  | none => rfl
  | some group => rfl

theorem mem_sortedSet {values : List ν} {value : ν} :
    value ∈ sortedSet rank values ↔ value ∈ values := by
  unfold sortedSet
  rw [mem_sortBy, List.mem_dedup]

theorem strict_sortedSet {rank : ν → μ} (injective : Function.Injective rank) (values : List ν) :
    (sortBy rank (sortedSet rank values)).Pairwise fun a b => rank a < rank b := by
  have distinct : ((sortBy rank (sortedSet rank values)).map rank).Nodup := by
    apply nodup_sortBy
    apply nodup_sortBy
    exact (List.nodup_dedup values).map injective
  have sorted := sorted_sortBy rank (sortedSet rank values)
  rw [List.Nodup, List.pairwise_map] at distinct
  exact (sorted.and distinct).imp fun both => lt_of_le_of_ne both.1 both.2

theorem mem_under_gather {pairs : List (κ × ν)} {key : κ} {value : ν} :
    value ∈ under (tidy rank (gather [] pairs)) key ↔ (key, value) ∈ pairs := by
  rw [under_tidy, mem_sortedSet, under_gather]
  simp [under]

end SyndicateClaw.GroupIndex
