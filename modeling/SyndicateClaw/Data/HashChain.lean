import Mathlib.Data.List.Induction
import Mathlib.Data.Set.Function

/-! Chains of hashes: the last hash determines what was hashed before it. -/

namespace SyndicateClaw.HashChain

variable {δ β : Type} (hash : δ → β → δ)

def tip (start : δ) (bodies : List β) : δ := bodies.foldl hash start

def hashed (start : δ) : List β → List (δ × β)
  | [] => []
  | body :: rest => (start, body) :: hashed (hash start body) rest

variable {hash} {start : δ}

@[simp] theorem tip_append (bodies : List β) (body : β) :
    tip hash start (bodies ++ [body]) = hash (tip hash start bodies) body := by
  simp [tip]

theorem hashed_append (bodies : List β) (body : β) :
    hashed hash start (bodies ++ [body]) =
      hashed hash start bodies ++ [(tip hash start bodies, body)] := by
  induction bodies generalizing start with
  | nil => rfl
  | cons first bodies ih => simp [hashed, tip, ih]

theorem last_hashed (bodies : List β) (body : β) :
    (tip hash start bodies, body) ∈ hashed hash start (bodies ++ [body]) := by
  rw [hashed_append]
  exact List.mem_append_right _ (List.mem_singleton_self _)

theorem bodies_unique {bodies others : List β}
    (injective : Set.InjOn (Function.uncurry hash)
      {pair | pair ∈ hashed hash start bodies ∨ pair ∈ hashed hash start others})
    (apart : bodies.length = others.length ∨
      ∀ pair, pair ∈ hashed hash start bodies ∨ pair ∈ hashed hash start others →
        hash pair.1 pair.2 ≠ start)
    (same : tip hash start bodies = tip hash start others) : bodies = others := by
  -- backwards from the last hash
  induction bodies using List.reverseRecOn generalizing others with
  | nil =>
      rcases List.eq_nil_or_concat others with rfl | ⟨front, body, rfl⟩
      · rfl
      · rw [List.concat_eq_append] at apart same
        rw [tip_append] at same
        rcases apart with long | never
        · simp at long
        · exact absurd same.symm (never _ (.inr (last_hashed front body)))
  | append_singleton front body ih =>
      rcases List.eq_nil_or_concat others with rfl | ⟨front', body', rfl⟩
      · rw [tip_append] at same
        rcases apart with long | never
        · simp at long
        · exact absurd same (never _ (.inl (last_hashed front body)))
      · rw [List.concat_eq_append] at injective apart same ⊢
        simp only [hashed_append, List.mem_append, List.mem_singleton] at injective apart
        rw [tip_append, tip_append] at same
        have equal : (tip hash start front, body) = (tip hash start front', body') :=
          injective (.inl (.inr rfl)) (.inr (.inr rfl)) same
        obtain ⟨sameFront, rfl⟩ := Prod.mk.inj equal
        have earlier : front = front' := by
          apply ih _ _ sameFront
          · exact injective.mono fun pair member => member.imp .inl .inl
          · refine apart.imp (fun long => ?_) fun never pair member => ?_
            · simpa using long
            · exact never pair (member.imp .inl .inl)
        rw [earlier]

end SyndicateClaw.HashChain
