import SyndicateClaw.Inference.Clearance
import SyndicateClaw.Inference.RoutedCalls

/-! The catalog version in the evidence of an inference, and the catalog it was routed from. -/

namespace SyndicateClaw.Inference

open Async Authz

variable {F : Type}

def InferenceRequest.pipeline : InferenceRequest → Pipeline F
  | .chat _ => chatPipeline
  | .embedding _ => embeddingPipeline

/-- The event names the version of the catalog from which the candidates were routed. -/
def NamesCatalog (before : Record F) (event : AuditEvent) : Prop :=
  ∃ world, routedIn before = some world ∧
    event.details.lookup "catalog_snapshot_version" = some (jsonText world.catalog.snapshotVersion)

theorem jsonText_eq_iff {s t : String} : jsonText s = jsonText t ↔ s = t :=
  ⟨fun same => jsonText_inj (congrArg Json.sortKeys same), congrArg jsonText⟩

section

variable [LinearOrder F] [Add F] [Sub F] [Mul F] [Div F] [IntCast F] {hash : List Char → String}
  {request : InferenceRequest} {env : Nat → World F → World F} {i : Nat} {start : World F}
  {before after : Record F} {event : AuditEvent} {s s' : World F}

theorem recorded_of_completed
    (emitted : ((infer hash request.pipeline request).play env i start).points =
      before ++ (.emit event, s, s') :: after)
    (completed : event.eventType = .inferenceCompleted) :
    (∃ world, routedIn before = some world) ∧
      event.details.lookup "catalog_snapshot_version" =
        match request.capability with
        | .chat => some (jsonText start.catalog.snapshotVersion)
        | .embedding => none := by
  have kept := keeps_infer request.pipeline hash request [] start ⟨rfl, rfl⟩
  have claim : EventClaim start request.pipeline before event := kept.claims_play env i emitted
  obtain ⟨run, decision, providerId, modelId, position, raw, details, version, world, routed, -⟩ :=
    claim completed
  refine ⟨⟨world, routed⟩, ?_⟩
  rw [details]
  cases request with
  | chat request =>
      show some (jsonText run.binding.catalogSnapshotVersion) = _
      rw [version]
      rfl
  | embedding request => rfl

/-- The evidence is right exactly for chat over a catalog that was not replaced by another version
before it was routed from. -/
theorem names_catalog_iff
    (emitted : ((infer hash request.pipeline request).play env i start).points =
      before ++ (.emit event, s, s') :: after)
    (completed : event.eventType = .inferenceCompleted) :
    NamesCatalog before event ↔ request.capability = .chat ∧
      ∀ world, routedIn before = some world →
        world.catalog.snapshotVersion = start.catalog.snapshotVersion := by
  obtain ⟨⟨routed, found⟩, recorded⟩ := recorded_of_completed emitted completed
  unfold NamesCatalog
  rw [recorded]
  cases request.capability with
  | chat =>
      constructor
      · rintro ⟨world, own, same⟩
        refine ⟨rfl, fun other found => ?_⟩
        obtain rfl := Option.some.inj (own.symm.trans found)
        exact (jsonText_eq_iff.mp (Option.some.inj same)).symm
      · rintro ⟨-, same⟩
        exact ⟨routed, found, congrArg (fun version => some (jsonText version)) (same routed found).symm⟩
  | embedding =>
      constructor
      · rintro ⟨world, own, same⟩
        cases same
      · exact fun both => absurd both.1 nofun

end

/-! A chat request that is completed, while a sync may replace the catalog. -/

def obliging : Outside :=
  { silent with adapter := fun _ => .ok { modelId := "small", latency := 0, body := [] } }

def syncedTo (version : String) (_ : Nat) (world : World ℤ) : World ℤ :=
  { world with catalog := { world.catalog with snapshotVersion := version } }

def chattedUnder (version : String) : Take (World ℤ) Failure Point InferenceResponse :=
  (infer String.ofList (InferenceRequest.chat annsChat).pipeline (.chat annsChat)).play (syncedTo version)
    0 { ruledWorld "ALLOW" with outside := obliging }

def Point.completes : Point → Bool
  | .emit event => event.eventType = .inferenceCompleted
  | _ => false

theorem completion_of_any {points : Record ℤ} (any : (points.any fun step => step.1.completes) = true) :
    ∃ before event s s' after, points = before ++ (.emit event, s, s') :: after ∧
      event.eventType = .inferenceCompleted := by
  obtain ⟨⟨point, s, s'⟩, member, completes⟩ := List.any_eq_true.mp any
  obtain ⟨before, after, split⟩ := List.append_of_mem member
  cases point with
  | emit event => exact ⟨before, event, s, s', after, split, of_decide_eq_true completes⟩
  | evaluate | adapter | delta | idempotencyBegin | updateCompleted | updateFailed => cases completes

theorem version_of_routed {points before : Record ℤ} {version : String}
    (all : ∀ step ∈ points, step.2.2.catalog.snapshotVersion = version) (part : before ⊆ points)
    {world : World ℤ} (routed : routedIn before = some world) :
    world.catalog.snapshotVersion = version := by
  unfold routedIn at routed
  obtain ⟨step, found, rfl⟩ := Option.map_eq_some_iff.mp routed
  exact all step (part (List.mem_of_find?_eq_some found))

theorem unsynced_names_catalog : ∃ before event s s' after,
    (chattedUnder "1").points = before ++ (.emit event, s, s') :: after ∧
      event.eventType = .inferenceCompleted ∧ NamesCatalog before event := by
  have any : ((chattedUnder "1").points.any fun step => step.1.completes) = true := by decide +kernel
  have all : ∀ step ∈ (chattedUnder "1").points, step.2.2.catalog.snapshotVersion = "1" := by
    decide +kernel
  obtain ⟨before, event, s, s', after, split, completed⟩ := completion_of_any any
  refine ⟨before, event, s, s', after, split, completed, ?_⟩
  refine (names_catalog_iff split completed).mpr ⟨rfl, fun world routed => ?_⟩
  exact version_of_routed all (split ▸ List.subset_append_left _ _) routed

/-- A catalog that arrives with the first audit event is routed from, and the one before is named. -/
theorem synced_misnames_catalog : ¬ ∀ before event s s' after,
    (chattedUnder "2").points = before ++ (.emit event, s, s') :: after →
      event.eventType = .inferenceCompleted → NamesCatalog before event := by
  intro names
  have any : ((chattedUnder "2").points.any fun step => step.1.completes) = true := by decide +kernel
  have all : ∀ step ∈ (chattedUnder "2").points, step.2.2.catalog.snapshotVersion = "2" := by
    decide +kernel
  obtain ⟨before, event, s, s', after, split, completed⟩ := completion_of_any any
  obtain ⟨world, routed, named⟩ := names before event s s' after split completed
  have recorded : event.details.lookup "catalog_snapshot_version" = some (jsonText "1") :=
    (recorded_of_completed split completed).2
  rw [recorded, version_of_routed all (split ▸ List.subset_append_left _ _) routed] at named
  exact absurd (jsonText_eq_iff.mp (Option.some.inj named)) (by decide)

end SyndicateClaw.Inference
