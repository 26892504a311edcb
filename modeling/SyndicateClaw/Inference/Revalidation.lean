import SyndicateClaw.Inference.Clearance
import SyndicateClaw.Inference.RoutedCalls

/-! What still holds of a routed candidate when its adapter is called. -/

namespace SyndicateClaw.Inference

open Async Authz

section

variable {F : Type}

/-! ### Every path -/

inductive InferencePath where
  | chat
  | embedding
  | stream
  deriving DecidableEq

def InferenceCall.path : InferenceCall → InferencePath
  | .chat _ => .chat
  | .embedding _ => .embedding
  | .stream _ => .stream

def InferencePath.rechecks : InferencePath → AdapterCall → World F → Prop
  | .chat => chatPipeline.rechecks
  | .embedding => embeddingPipeline.rechecks
  | .stream => fun _ _ => True

theorem callClaim_of_run [LinearOrder F] [Add F] [Sub F] [Mul F] [Div F] [IntCast F]
    {hash : List Char → String} {path : InferenceCall} {env : Nat → World F → World F} {i : Nat}
    {start : World F} {before after : Record F} {call : AdapterCall} {s s' : World F}
    (called : ((path.run hash).play env i start).points =
      before ++ (.adapter call, s, s') :: after) :
    CallClaim start path.path.rechecks before call s := by
  cases path with
  | chat request =>
      unfold InferenceCall.run at called
      rw [Co.points_discard] at called
      have kept := keeps_infer chatPipeline hash (.chat request) [] start ⟨rfl, rfl⟩
      exact kept.claims_play env i called
  | embedding request =>
      unfold InferenceCall.run at called
      rw [Co.points_discard] at called
      have kept := keeps_infer embeddingPipeline hash (.embedding request) [] start ⟨rfl, rfl⟩
      exact kept.claims_play env i called
  | stream request =>
      have kept := keeps_streamChat hash request [] start ⟨rfl, rfl⟩
      exact kept.claims_play env i called

/-! ### Validity and what overtakes it -/

def CapturedProvider (start : World F) (providerId : String) (provider : ProviderConfig) : Prop :=
  ∃ system version, start.loader = some (system, version) ∧
    (system.providers.find? fun provider => provider.id = providerId) = some provider

theorem CapturedProvider.unique {start : World F} {providerId : String}
    {provider other : ProviderConfig} (captured : CapturedProvider start providerId provider)
    (captured' : CapturedProvider start providerId other) : provider = other := by
  obtain ⟨system, version, loaded, found⟩ := captured
  obtain ⟨system', version', loaded', found'⟩ := captured'
  obtain ⟨rfl, rfl⟩ := Prod.mk.inj (Option.some.inj (loaded.symm.trans loaded'))
  exact Option.some.inj (found.symm.trans found')

/-- The call is covered by the captured configuration and by the present registry and catalog. -/
structure Revalidated (start : World F) (call : AdapterCall) (s : World F) : Prop where
  configured : ∃ provider, CapturedProvider start call.provider.id provider ∧
    provider.enabled = true ∧
      sensitivityAllowed call.request.envelope.sensitivity provider.maxAllowedSensitivity = true
  notDisabled : s.registry.isRuntimeDisabled call.provider.id = false
  listed : (s.catalog.get call.provider.id call.modelId).isSome = true

/-- The captured configuration denies of the provider what a registry of the run grants. -/
def Apart (start : World F) (before : Record F) (call : AdapterCall)
    (grants : ProviderConfig → Bool) : Prop :=
  (∃ world, Seen start before world ∧ ∃ provider,
      world.registry.getProvider call.provider.id = some provider ∧ grants provider = true) ∧
    ∃ provider, CapturedProvider start call.provider.id provider ∧ grants provider = false

def DisabledSince (start : World F) (before : Record F) (call : AdapterCall) (s : World F) : Prop :=
  (∃ world, Seen start before world ∧
      world.registry.isRuntimeDisabled call.provider.id = false) ∧
    s.registry.isRuntimeDisabled call.provider.id = true

def DroppedSince (start : World F) (before : Record F) (call : AdapterCall) (s : World F) : Prop :=
  (∃ world, Seen start before world ∧
      (world.catalog.get call.provider.id call.modelId).isSome = true) ∧
    (s.catalog.get call.provider.id call.modelId).isSome = false

/-- A change that a path does not notice came between the checks of the router and the call. -/
def Overtaken (path : InferencePath) (start : World F) (before : Record F) (call : AdapterCall)
    (s : World F) : Prop :=
  Apart start before call (fun provider =>
      sensitivityAllowed call.request.envelope.sensitivity provider.maxAllowedSensitivity) ∨
    (path ≠ .chat ∧ (DisabledSince start before call s ∨ DroppedSince start before call s)) ∨
      (path = .stream ∧ Apart start before call ProviderConfig.enabled)

theorem Revalidated.not_overtaken {path : InferencePath} {start : World F} {before : Record F}
    {call : AdapterCall} {s : World F} (valid : Revalidated start call s) :
    ¬ Overtaken path start before call s := by
  obtain ⟨⟨provider, captured, enabled, sensitivity⟩, notDisabled, listed⟩ := valid
  rintro (⟨-, other, captured', denied⟩ | ⟨-, disabled | dropped⟩ | ⟨-, -, other, captured', off⟩)
  · obtain rfl := captured.unique captured'
    exact absurd (denied.symm.trans sensitivity) Bool.false_ne_true
  · exact absurd (notDisabled.symm.trans disabled.2) Bool.false_ne_true
  · exact absurd (dropped.2.symm.trans listed) Bool.false_ne_true
  · obtain rfl := captured.unique captured'
    exact absurd (off.symm.trans enabled) Bool.false_ne_true

theorem CallClaim.revalidated {path : InferencePath} {start : World F} {before : Record F}
    {call : AdapterCall} {s : World F} (claim : CallClaim start path.rechecks before call s)
    (current : ¬ Overtaken path start before call s) : Revalidated start call s := by
  obtain ⟨captured, ⟨world, routed, all⟩, rechecked⟩ := claim
  obtain ⟨listed, checkedIn, seen, provider, found, enabled, notDisabled, low⟩ :=
    all _ (List.mem_singleton_self _)
  have sensitivity : sensitivityAllowed call.request.envelope.sensitivity
      call.provider.maxAllowedSensitivity = true := by
    by_contra denied
    exact current (.inl ⟨⟨checkedIn, seen, provider, found, low⟩, call.provider, captured,
      Bool.eq_false_iff.mpr denied⟩)
  have notSince (other : path ≠ .chat) : s.registry.isRuntimeDisabled call.provider.id = false ∧
      (s.catalog.get call.provider.id call.modelId).isSome = true := by
    constructor
    · by_contra disabled
      exact current (.inr (.inl ⟨other, .inl ⟨⟨checkedIn, seen, notDisabled⟩,
        Bool.eq_true_of_not_eq_false disabled⟩⟩))
    · by_contra dropped
      exact current (.inr (.inl ⟨other, .inr ⟨⟨world, seen_routedIn start routed, listed⟩,
        Bool.eq_false_iff.mpr dropped⟩⟩))
  cases path with
  | chat =>
      obtain ⟨on, again⟩ := rechecked
      simp only [chatPipeline, Bool.and_eq_true, Bool.not_eq_true'] at again
      exact ⟨⟨call.provider, captured, on, sensitivity⟩, again.1, again.2⟩
  | embedding =>
      obtain ⟨notDisabled, listed⟩ := notSince (by decide)
      exact ⟨⟨call.provider, captured, rechecked.1, sensitivity⟩, notDisabled, listed⟩
  | stream =>
      obtain ⟨notDisabled, listed⟩ := notSince (by decide)
      refine ⟨⟨call.provider, captured, ?_, sensitivity⟩, notDisabled, listed⟩
      by_contra off
      exact current (.inr (.inr ⟨rfl, ⟨checkedIn, seen, provider, found, enabled⟩, call.provider,
        captured, Bool.eq_false_iff.mpr off⟩))

theorem revalidated_iff [LinearOrder F] [Add F] [Sub F] [Mul F] [Div F] [IntCast F]
    {hash : List Char → String} {path : InferenceCall} {env : Nat → World F → World F} {i : Nat}
    {start : World F} {before after : Record F} {call : AdapterCall} {s s' : World F}
    (called : ((path.run hash).play env i start).points =
      before ++ (.adapter call, s, s') :: after) :
    Revalidated start call s ↔ ¬ Overtaken path.path start before call s :=
  ⟨fun valid => valid.not_overtaken, (callClaim_of_run called).revalidated⟩

end

/-! A chat of one candidate, streamed or not, with changes while its model gate is asked. -/

def Point.call? : Point → Option AdapterCall
  | .adapter call => some call
  | _ => none

theorem call_of_any {points : Record ℤ} (any : (points.any fun step => step.1.call?.isSome) = true) :
    ∃ before call s s' after, points = before ++ (.adapter call, s, s') :: after := by
  obtain ⟨⟨point, s, s'⟩, member, calls⟩ := List.any_eq_true.mp any
  obtain ⟨before, after, split⟩ := List.append_of_mem member
  cases point with
  | adapter call => exact ⟨before, call, s, s', after, split⟩
  | evaluate | emit | delta | idempotencyBegin | updateCompleted | updateFailed => cases calls

theorem of_call {points before after : Record ℤ} {call : AdapterCall} {s s' : World ℤ}
    {p : AdapterCall → World ℤ → Bool}
    (all : (points.all fun step => step.1.call?.all fun call => p call step.2.1) = true)
    (called : points = before ++ (.adapter call, s, s') :: after) : p call s = true := by
  have member : (Point.adapter call, s, s') ∈ points := by
    rw [called]
    exact List.mem_append_right before List.mem_cons_self
  exact List.all_eq_true.mp all _ member

def meddled (change : World ℤ → World ℤ) (i : Nat) (world : World ℤ) : World ℤ :=
  if i = 2 then change world else world

def meddledPlay (path : InferenceCall) (change : World ℤ → World ℤ) :
    Take (World ℤ) Failure Point Unit :=
  (path.run String.ofList).play (meddled change) 0 (ruledWorld "ALLOW")

def disableLocal (world : World ℤ) : World ℤ :=
  { world with registry := world.registry.setRuntimeDisabled "local" true }

theorem undisturbed_revalidated : ∃ before call s s' after,
    (meddledPlay (.chat annsChat) id).points = before ++ (.adapter call, s, s') :: after ∧
      Revalidated (ruledWorld "ALLOW") call s := by
  have any : ((meddledPlay (.chat annsChat) id).points.any fun step => step.1.call?.isSome) = true := by
    decide +kernel
  have all : ((meddledPlay (.chat annsChat) id).points.all fun step => step.1.call?.all fun call =>
      decide (call.provider.id = "local" ∧
        call.request.envelope.sensitivity = .publicData)) = true := by
    decide +kernel
  obtain ⟨before, call, s, s', after, called⟩ := call_of_any any
  have own := of_decide_eq_true (of_call (p := fun call _ => decide (call.provider.id = "local" ∧
    call.request.envelope.sensitivity = .publicData)) all called)
  refine ⟨before, call, s, s', after, called, (revalidated_iff called).mpr ?_⟩
  rintro (⟨-, provider, ⟨system, version, loaded, found⟩, denied⟩ | ⟨other, -⟩ | ⟨other, -⟩)
  · obtain ⟨rfl, rfl⟩ := Prod.mk.inj (Option.some.inj loaded)
    rw [own.1] at found
    obtain rfl : localProvider = provider := Option.some.inj found
    rw [own.2] at denied
    cases denied
  · exact other rfl
  · cases other

/-- The stream goes to a provider that was disabled while its model gate was asked. -/
theorem disabled_streamed : ¬ ∀ before call s s' after,
    (meddledPlay (.stream annsChat) disableLocal).points =
        before ++ (.adapter call, s, s') :: after →
      Revalidated (ruledWorld "ALLOW") call s := by
  intro revalidated
  have any : ((meddledPlay (.stream annsChat) disableLocal).points.any fun step =>
      step.1.call?.isSome) = true := by decide +kernel
  have all : ((meddledPlay (.stream annsChat) disableLocal).points.all fun step =>
      step.1.call?.all fun call => step.2.1.registry.isRuntimeDisabled call.provider.id) = true := by
    decide +kernel
  obtain ⟨before, call, s, s', after, called⟩ := call_of_any any
  have disabled := of_call (p := fun call s => s.registry.isRuntimeDisabled call.provider.id) all called
  exact absurd ((revalidated before call s s' after called).notDisabled.symm.trans disabled)
    Bool.false_ne_true

end SyndicateClaw.Inference
