import Mathlib.Data.List.Basic

/-! Keys in the order of their last uses: a history of uses, and a list of keys that is kept so. -/

namespace SyndicateClaw

variable {κ : Type*}

def UsedLater (uses : List κ) (earlier later : κ) : Prop :=
  ∃ before since, uses = before ++ since ∧ later ∈ since ∧ earlier ∉ since

def ByRecency (uses keys : List κ) : Prop := keys.Pairwise (UsedLater uses)

variable {uses : List κ} {key earlier later : κ}

theorem UsedLater.mem (used : UsedLater uses earlier later) : later ∈ uses := by
  obtain ⟨before, since, rfl, member, -⟩ := used
  exact List.mem_append_right before member

theorem UsedLater.use (used : UsedLater uses earlier later) (other : earlier ≠ key) :
    UsedLater (uses ++ [key]) earlier later := by
  obtain ⟨before, since, rfl, member, absent⟩ := used
  refine ⟨before, since ++ [key], List.append_assoc _ _ _, List.mem_append_left _ member, ?_⟩
  rw [List.mem_append, List.mem_singleton]
  exact not_or.mpr ⟨absent, other⟩

theorem usedLater_last (other : earlier ≠ key) : UsedLater (uses ++ [key]) earlier key := by
  refine ⟨uses, [key], rfl, List.mem_singleton_self key, ?_⟩
  rwa [List.mem_singleton]

variable {keys kept : List κ}

theorem ByRecency.sublist (ordered : ByRecency uses keys) (sublist : kept.Sublist keys) :
    ByRecency uses kept := List.Pairwise.sublist sublist ordered

theorem ByRecency.use (ordered : ByRecency uses kept) (absent : key ∉ kept) :
    ByRecency (uses ++ [key]) (kept ++ [key]) := by
  have other : ∀ earlier ∈ kept, earlier ≠ key := fun earlier member same => absent (same ▸ member)
  unfold ByRecency at *
  rw [List.pairwise_append]
  refine ⟨?_, List.pairwise_singleton _ _, ?_⟩
  · apply ordered.imp_of_mem
    intro earlier later member _ used
    exact used.use (other earlier member)
  · intro earlier member later single
    obtain rfl := List.mem_singleton.mp single
    exact usedLater_last (other earlier member)

theorem ByRecency.drop (ordered : ByRecency uses keys) {n : Nat}
    (gone : earlier ∈ keys) (dropped : earlier ∉ keys.drop n) (stays : later ∈ keys.drop n) :
    UsedLater uses earlier later := by
  unfold ByRecency at ordered
  rw [← List.take_append_drop n keys, List.pairwise_append] at ordered
  rw [← List.take_append_drop n keys, List.mem_append] at gone
  exact ordered.2.2 earlier (gone.resolve_right dropped) later stays

end SyndicateClaw
