import SyndicateClaw.Inference.RoutedCandidates

/-! When the bound on the candidates changes neither the winner nor the accounting. -/

namespace SyndicateClaw.Inference

open Authz

variable {F : Type}

namespace RoutingView

variable (view : RoutingView F) (catalog : ModelCatalog F)

def ReachesAll : Prop :=
  ∀ row ∈ view.narrowed catalog,
    ((view.routable catalog).filter fun other => other.sortKey < row.sortKey).length < view.bound

theorem passing_before {before after : List (CatalogEntryRecord F)} {row : CatalogEntryRecord F}
    (split : view.narrowed catalog = before ++ row :: after) :
    Scan.passing view.test view.cache before =
      (view.routable catalog).filter fun other => other.sortKey < row.sortKey := by
  have passed : Scan.passing view.test view.cache before =
      before.filter fun other => view.Routable catalog other := by
    apply Scan.passing_eq_filter
    intro earlier other later inner
    apply view.test_turn catalog
    rw [split, inner, List.append_assoc, List.cons_append]
  rw [passed, ← narrowed_routable]
  rw [narrowed_eq] at split ⊢
  rw [sortBy_before (distinct_filter catalog _) split, ← sortBy_filter,
    List.filter_filter, List.filter_filter]
  apply List.filter_congr
  intro other _
  exact Bool.and_comm _ _

theorem left_scan : (view.scan view.bound view.cache (view.narrowed catalog)).left = [] ↔
    view.ReachesAll catalog := by
  unfold scan ReachesAll
  rw [Scan.left_run]
  constructor
  · intro all row member
    obtain ⟨before, after, split⟩ := List.append_of_mem member
    rw [← view.passing_before catalog split]
    exact all before row after split
  · intro all before row after split
    rw [view.passing_before catalog split]
    exact all row (by rw [split]; simp)

variable [LinearOrder F] [Add F] [Sub F] [Mul F] [Div F] [IntCast F]

def candidates : List (Scored F) := (view.routable catalog).filterMap view.scoredRow

def bounded : List (Scored F) := (view.first catalog).filterMap view.scoredRow

theorem bounded_sublist : (view.bounded catalog).Sublist (view.candidates catalog) :=
  (List.take_sublist _ _).filterMap view.scoredRow

theorem length_bounded : (view.bounded catalog).length = (view.first catalog).length := by
  have same := (view.candidates_chosen catalog).length_eq
  rw [List.length_map, List.length_map, chosen, length_sortBy] at same
  exact same

/-- A candidate with the least score is among those that the bound leaves. -/
def KeepsBest : Prop :=
  ∃ best ∈ view.bounded catalog, ∀ other ∈ view.candidates catalog, best.key ≤ other.key

theorem distinct_candidates : ((view.candidates catalog).map Scored.candidate).Nodup := by
  unfold candidates
  rw [view.candidates_scored]
  · exact view.distinct_routable catalog
  · exact fun row member => (view.mem_routable.mp member).2.1.2

theorem keepsBest_iff {primary : Scored F} {rest : List (Scored F)}
    (chosen : view.chosen catalog = primary :: rest) : view.KeepsBest catalog ↔
      ∃ best ∈ view.candidates catalog, best.candidate = primary.candidate ∧
        ∀ other ∈ view.candidates catalog, best.key ≤ other.key := by
  have own : primary ∈ view.bounded catalog := by
    rw [bounded, ← mem_sortBy Scored.key]
    show primary ∈ view.chosen catalog
    rw [chosen]
    exact List.mem_cons_self
  have least : ∀ other ∈ view.bounded catalog, primary.key ≤ other.key := by
    intro other member
    have sorted := sorted_sortBy Scored.key (view.bounded catalog)
    have place : other ∈ view.chosen catalog := (mem_sortBy Scored.key).mpr member
    change (view.chosen catalog).Pairwise _ at sorted
    rw [chosen] at sorted place
    rcases List.mem_cons.mp place with rfl | later
    · exact le_rfl
    · exact (List.pairwise_cons.mp sorted).1 other later
  constructor
  · rintro ⟨best, left, all⟩
    refine ⟨primary, (view.bounded_sublist catalog).subset own, rfl, fun other member => ?_⟩
    exact (least best left).trans (all other member)
  · rintro ⟨best, member, same, all⟩
    have equal : best = primary := List.inj_on_of_nodup_map (view.distinct_candidates catalog) member
      ((view.bounded_sublist catalog).subset own) same
    exact ⟨primary, own, equal ▸ all⟩

end RoutingView

section

variable [LinearOrder F] [Add F] [Sub F] [Mul F] [Div F] [IntCast F]

/-- The selected candidate is the best of all, and all are accounted for. -/
structure BoundHarmless (view : RoutingView F) (catalog : ModelCatalog F)
    (decision : RoutingDecision) : Prop where
  winner : ∃ best ∈ view.candidates catalog,
    best.candidate = (decision.selectedProviderId, decision.selectedModelId) ∧
      ∀ other ∈ view.candidates catalog, best.key ≤ other.key
  accounting : decision.candidatesConsidered = decision.candidatesFiltered + decision.chain.length

variable (hash : List Char → String) (routing : RoutingPolicyConfig F) (request : InferenceRequest)
  (capability : InferenceCapability → (actor scopeType scopeId : String) → GateAnswer)
  (model : ModelQuestion → GateAnswer) (now : Option Time) (world : World F)
  (system : ProviderSystemConfig F) (resolvedPin : Option (String × String))

theorem accounting_iff (view : RoutingView F) (catalog : ModelCatalog F) {primary : Scored F}
    {rest : List (Scored F)} (chosen : view.chosen catalog = primary :: rest) (considered : Int) :
    considered = considered - (view.narrowed catalog).length +
        (view.scan view.bound view.cache (view.narrowed catalog)).dropped + (rest.length + 1) ↔
      view.ReachesAll catalog := by
  have kept : rest.length + 1 =
      (view.scan view.bound view.cache (view.narrowed catalog)).kept.length := by
    rw [view.kept_scan, ← view.length_bounded]
    have sorted := length_sortBy Scored.key (view.bounded catalog)
    exact (congrArg List.length chosen).symm.trans sorted
  have total : (view.scan view.bound view.cache (view.narrowed catalog)).kept.length +
      (view.scan view.bound view.cache (view.narrowed catalog)).dropped +
      (view.scan view.bound view.cache (view.narrowed catalog)).left.length =
        (view.narrowed catalog).length := Scan.length_run _ _
  rw [← view.left_scan, ← List.length_eq_zero_iff]
  omega

theorem bound_harmless_iff (catalog : ModelCatalog F)
    (positive : 1 ≤ routing.policyMaxCandidatesPerRequest) :
    (∀ decision, world.routed hash routing request capability model now system resolvedPin catalog =
        .ok decision →
      BoundHarmless (world.view hash routing request capability model now) catalog decision) ↔
      ((world.view hash routing request capability model now).Admitted system resolvedPin →
        (world.view hash routing request capability model now).routable catalog ≠ [] →
          (world.view hash routing request capability model now).KeepsBest catalog ∧
            (world.view hash routing request capability model now).ReachesAll catalog) := by
  rw [world.routed_eq_verdict]
  have room : (world.view hash routing request capability model now).bound ≠ 0 := by
    show routing.policyMaxCandidatesPerRequest.toNat ≠ 0
    omega
  generalize world.view hash routing request capability model now = view at room ⊢
  constructor
  · intro harmless admitted some
    rw [view.verdict_of_admitted admitted] at harmless
    cases chosen : view.chosen catalog with
    | nil =>
        have none := (view.chosen_eq_nil).mp chosen
        rw [RoutingView.first, List.take_eq_nil_iff] at none
        exact absurd none (not_or.mpr ⟨room, some⟩)
    | cons primary rest =>
        rw [chosen] at harmless
        obtain ⟨winner, accounting⟩ := harmless _ rfl
        refine ⟨(view.keepsBest_iff catalog chosen).mpr winner, ?_⟩
        apply (accounting_iff view catalog chosen _).mp
        simpa [RoutingDecision.chain] using accounting
  · intro fits decision decided
    by_cases admitted : view.Admitted system resolvedPin
    · rw [view.verdict_of_admitted admitted] at decided
      cases chosen : view.chosen catalog with
      | nil =>
          rw [chosen] at decided
          cases decided
      | cons primary rest =>
          rw [chosen] at decided
          obtain rfl := Except.ok.inj decided
          have some : view.routable catalog ≠ [] := by
            intro none
            have empty : view.first catalog = [] := by
              rw [RoutingView.first, none, List.take_nil]
            rw [view.chosen_eq_nil.mpr empty] at chosen
            cases chosen
          obtain ⟨best, reaches⟩ := fits admitted some
          refine ⟨(view.keepsBest_iff catalog chosen).mp best, ?_⟩
          have accounting := (accounting_iff view catalog chosen
            (catalog.iterByCapability view.request.capability).length).mpr reaches
          simpa [RoutingDecision.chain] using accounting
    · obtain ⟨failure, refused, -⟩ := view.verdict_of_refused catalog (world.ulids world.drawn) admitted
      rw [refused] at decided
      cases decided

end

/-! Two providers, of which the second is the cheaper one. -/

def dearAndCheap : World ℤ :=
  .boot (systemOf true [localProvider, { localProvider with id := "remote" }] (by decide))
    (catalogOf [chatRow "local" "large" 10, chatRow "remote" "small" 1]) (plainEngine []) silent

set_option maxRecDepth 2000 in
theorem wide_bound_harmless : ∃ decision,
    dearAndCheap.routed String.ofList (wholePolicy 64) (chatRequest .none) (fun _ _ _ _ => .allow)
        (fun _ => .allow) none (systemOf true [localProvider] (by decide)) none
        dearAndCheap.catalog = .ok decision ∧
      BoundHarmless (dearAndCheap.view String.ofList (wholePolicy 64) (chatRequest .none)
        (fun _ _ _ _ => .allow) (fun _ => .allow) none) dearAndCheap.catalog decision := by
  refine ⟨_, rfl, ?_⟩
  apply (bound_harmless_iff String.ofList (wholePolicy 64) (chatRequest .none) _ _ none dearAndCheap
    (systemOf true [localProvider] (by decide)) none dearAndCheap.catalog (by decide)).mpr
  · intro _ _
    unfold RoutingView.KeepsBest RoutingView.ReachesAll
    decide +kernel
  · rfl

theorem narrow_bound_harmful : ¬ ∀ decision,
    dearAndCheap.routed String.ofList (wholePolicy 1) (chatRequest .none) (fun _ _ _ _ => .allow)
        (fun _ => .allow) none (systemOf true [localProvider] (by decide)) none
        dearAndCheap.catalog = .ok decision →
      BoundHarmless (dearAndCheap.view String.ofList (wholePolicy 1) (chatRequest .none)
        (fun _ _ _ _ => .allow) (fun _ => .allow) none) dearAndCheap.catalog decision := by
  intro all
  have winner := (all _ rfl).winner
  revert winner
  decide +kernel

end SyndicateClaw.Inference
