import SyndicateClaw.Inference.Declarations
import SyndicateClaw.Inference.SyncRunner

/-! When a sync is all-or-nothing and leaves the catalog with enough entries. -/

namespace SyndicateClaw.Inference

open Orchestrator

variable {F : Type}

/-! ### The promise -/

section

variable [Zero F] [DecidableEq F] (args : SyncArguments F) (world : SyncWorld)
  (before : ModelCatalog F)

def SyncArguments.accepted : List (CatalogEntryRecord F) :=
  match args.fetched world with
  | .error _ => []
  | .ok raw =>
      match world.reader.records raw with
      | .error _ => []
      | .ok records => acceptedRecords world.reader.validation args.syncer.allowed records

/-- A sync is applied as a whole or not at all, and leaves enough entries. -/
structure AllOrNothing : Prop where
  ends :
    (∃ result, (runModelsDevCatalogSync args world before).1 = .ok result ∧ result.applied = true ∧
      (runModelsDevCatalogSync args world before).2.snapshotVersion = result.snapshotVersion ∧
      (∀ key, Dict.get? (runModelsDevCatalogSync args world before).2.entries.rows key =
        mergedRow args.system.staticCatalog (args.accepted world)
          args.system.yamlWinsOnKeyCollision key) ∧
      (1 - args.syncer.anomalyMaxDrop) * before.entryCount ≤
        (runModelsDevCatalogSync args world before).2.entryCount) ∨
    (∃ result, (runModelsDevCatalogSync args world before).1 = .ok result ∧
      result.applied = false ∧ (runModelsDevCatalogSync args world before).2 = before)
  configured : ∀ row ∈ args.accepted world,
    row.providerId ∈ args.system.providers.map ProviderConfig.id

def SyncArguments.keys (accepted : List (CatalogEntryRecord F)) : List (String × String) :=
  args.system.staticCatalog.map StaticCatalogEntry.key ++ accepted.map CatalogEntryRecord.key

/-- The guard of `sync_from_parsed_records`. -/
def SyncArguments.Anomalous (accepted : List (CatalogEntryRecord F)) : Prop :=
  0 < before.entryCount ∧
    (accepted.length : Rat) < (1 - args.syncer.anomalyMaxDrop) * before.entryCount

/-- What the records of a feed have to be, unless the guard gives them up: the static rows are
consistent and there are keys enough. -/
def SyncArguments.Sufficient (records : List State) : Prop :=
  let accepted := acceptedRecords world.reader.validation args.syncer.allowed records
  let skipped := records.length - accepted.length
  (args.Anomalous before accepted ∧
      world.emit (args.anomalous world skipped before.snapshotVersion) = .ok ()) ∨
    (¬ args.Anomalous before accepted ∧ Consistent args.system.staticCatalog ∧
      (1 - args.syncer.anomalyMaxDrop) * before.entryCount ≤ (args.keys accepted).dedup.length ∧
      world.emit (args.completed world world.newSnapshot accepted.length skipped) = .ok ())

/-- What a sync has to meet with: an audit service that takes its events, a feed that is read or
fails with a `ValueError`, and records that suffice. -/
def SyncArguments.Meets : Prop :=
  world.emit (args.started world) = .ok () ∧
    match args.fetched world with
    | .error error => world.emit (args.failed world error.reason error.message) = .ok ()
    | .ok raw =>
        match world.reader.records raw with
        | .error (.valueError message) =>
            world.emit (args.failed world "parse_failed" message) = .ok ()
        | .error (.other _) => False
        | .ok records => args.Sufficient world before records

/-! ### What comes of each way -/

variable {args world before}

theorem accepted_configured :
    ∀ row ∈ args.accepted world, row.providerId ∈ args.system.providers.map ProviderConfig.id := by
  intro row member
  unfold SyncArguments.accepted at member
  split at member
  · exact absurd member List.not_mem_nil
  · split at member
    · exact absurd member List.not_mem_nil
    · exact of_decide_eq_true (List.mem_filter.mp member).2

theorem not_ends_of_error (message : String)
    (raises : (runModelsDevCatalogSync args world before).1 = .error message) :
    ¬ AllOrNothing args world before := by
  intro holds
  rcases holds.ends with ⟨result, returns, -⟩ | ⟨result, returns, -⟩
  · rw [raises] at returns
    cases returns
  · rw [raises] at returns
    cases returns

theorem allOrNothing_giveUp (reason detail : String)
    (ends : runModelsDevCatalogSync args world before = giveUp args world before reason detail) :
    AllOrNothing args world before ↔ world.emit (args.failed world reason detail) = .ok () := by
  cases taken : world.emit (args.failed world reason detail) with
  | error message =>
      refine ⟨fun holds => absurd holds (not_ends_of_error message ?_), nofun⟩
      simp [ends, giveUp, taken]
  | ok =>
      refine ⟨fun _ => rfl, fun _ => ⟨.inr ?_, accepted_configured⟩⟩
      rw [ends]
      simp [giveUp, taken]

theorem allOrNothing_merge (records : List State)
    (ends : runModelsDevCatalogSync args world before = mergeRecords args world before records)
    (read : args.accepted world =
      acceptedRecords world.reader.validation args.syncer.allowed records) :
    AllOrNothing args world before ↔ args.Sufficient world before records := by
  unfold SyncArguments.Sufficient
  dsimp only
  rw [← read]
  have raises {message : String} (failed : (mergeRecords args world before records).1 =
      .error message) : ¬ AllOrNothing args world before :=
    not_ends_of_error message (by rw [ends, failed])
  have ways := syncFromParsedRecords_cases world.reader.validation args.syncer before records
    world.newSnapshot (some before.entryCount)
  dsimp only at ways
  rw [← read] at ways
  rcases ways with ⟨guarded, synced⟩ | ⟨guarded, message, static, synced⟩ |
    ⟨guarded, left, merged, synced⟩
  · have anomalous : args.Anomalous before (args.accepted world) := guarded
    cases taken : world.emit (args.anomalous world
        (records.length - (args.accepted world).length) before.snapshotVersion) with
    | error message =>
        have failed : (mergeRecords args world before records).1 = .error message := by
          simp [mergeRecords, synced, taken]
        simp [raises failed, anomalous]
    | ok =>
        have done : AllOrNothing args world before := by
          refine ⟨.inr ?_, accepted_configured⟩
          rw [ends]
          simp [mergeRecords, synced, taken]
        simp [done, anomalous]
  · have anomalous : ¬ args.Anomalous before (args.accepted world) := guarded
    have failed : (mergeRecords args world before records).1 = .error message := by
      simp [mergeRecords, synced]
    have inconsistent : ¬ Consistent args.system.staticCatalog := by
      rw [← static_ok_iff]
      intro consistent
      obtain ⟨entries, done⟩ := consistent
      cases static.symm.trans done
    simp [raises failed, anomalous, inconsistent]
  · have anomalous : ¬ args.Anomalous before (args.accepted world) := guarded
    have applied : left.snapshotVersion = world.newSnapshot ∧
        Consistent args.system.staticCatalog := by
      obtain ⟨entries, static, rfl⟩ := static_ok_of_merge merged
      exact ⟨rfl, (static_ok_iff _).mp ⟨entries, static⟩⟩
    obtain ⟨version, consistent⟩ := applied
    have count : left.entryCount = (args.keys (args.accepted world)).dedup.length :=
      entryCount_merged merged
    cases taken : world.emit (args.completed world world.newSnapshot
        (args.accepted world).length (records.length - (args.accepted world).length)) with
    | error message =>
        have failed : (mergeRecords args world before records).1 = .error message := by
          simp [mergeRecords, synced, taken]
        simp [raises failed, anomalous]
    | ok =>
        have run : runModelsDevCatalogSync args world before = (.ok
            { applied := true, snapshotVersion := world.newSnapshot
              recordsAccepted := (args.accepted world).length
              recordsSkipped := records.length - (args.accepted world).length
              previousSnapshotVersion := some before.snapshotVersion }, left) := by
          rw [ends]
          simp [mergeRecords, synced, taken]
        simp only [anomalous, consistent, not_false_eq_true, false_and, true_and, and_true,
          false_or, ← count]
        constructor
        · intro holds
          rcases holds.ends with ⟨result, returns, -, -, -, ample⟩ | ⟨result, returns, kept, -⟩
          · rw [run] at ample
            exact ample
          · rw [run] at returns
            obtain rfl := Except.ok.inj returns
            cases kept
        · intro ample
          refine ⟨.inl ?_, accepted_configured⟩
          rw [run]
          exact ⟨_, rfl, rfl, version, get?_merged merged, ample⟩

/-- A sync is all-or-nothing, and leaves the catalog with enough entries, exactly if it meets with
what it has to. -/
theorem allOrNothing_iff (args : SyncArguments F) (world : SyncWorld) (before : ModelCatalog F) :
    AllOrNothing args world before ↔ args.Meets world before := by
  unfold SyncArguments.Meets
  cases taken : world.emit (args.started world) with
  | error message =>
      have failed : (runModelsDevCatalogSync args world before).1 = .error message := by
        simp [runModelsDevCatalogSync, taken]
      simp [not_ends_of_error _ failed]
  | ok =>
      cases fetched : args.fetched world with
      | error error =>
          rw [allOrNothing_giveUp error.reason error.message
            (by simp [runModelsDevCatalogSync, taken, fetched])]
          simp
      | ok raw =>
          cases read : world.reader.records raw with
          | ok records =>
              rw [allOrNothing_merge records
                (by simp [runModelsDevCatalogSync, taken, fetched, read])
                (by simp [SyncArguments.accepted, fetched, read])]
              simp [read]
          | error error =>
              cases error with
              | valueError message =>
                  rw [allOrNothing_giveUp "parse_failed" message
                    (by simp [runModelsDevCatalogSync, taken, fetched, read])]
                  simp [read]
              | other message =>
                  have failed : (runModelsDevCatalogSync args world before).1 = .error message := by
                    simp [runModelsDevCatalogSync, taken, fetched, read]
                  simp [not_ends_of_error _ failed, read]

end

/-! A feed that lists one model four times, for a catalog of four. -/

def repeatedRecord : Value := .dict [("provider_id", .str "local"), ("model_id", .str "a")]

def repeatingWorld : SyncWorld where
  network :=
    { resolveSafeUrl := fun _ _ _ => .ok "https"
      stream := fun _ _ => .ok { status := 200, location := none, chunks := [[]], breaks := none }
      urljoin := fun _ location => location }
  reader :=
    { decode := fun _ => .ok ""
      loads := fun _ => .ok (.list (List.replicate 4 repeatedRecord))
      validation := plainValidation }
  emit _ := .ok ()
  newTraceId := "t"
  newSnapshot := "2"

def repeatedFeed : SyncArguments ℤ where
  feedUrl := "https://models.dev/api.json"
  allowedHostSuffixes := ["models.dev"]
  maxBytes := 1000
  maxRedirects := 3
  system := systemOf true [localProvider] localProvider_alone
  actor := "ann"

def fourModels : ModelCatalog ℤ :=
  catalogOf [chatRow "local" "a" 1, chatRow "local" "b" 1, chatRow "local" "c" 1,
    chatRow "local" "d" 1]

theorem repeated_feed_guts_catalog : ¬ AllOrNothing repeatedFeed repeatingWorld fourModels := by
  intro holds
  have left : (runModelsDevCatalogSync repeatedFeed repeatingWorld fourModels).2.entryCount = 1 := by
    decide +kernel
  rcases holds.ends with ⟨result, -, -, -, -, ample⟩ | ⟨result, -, -, kept⟩
  · rw [left] at ample
    revert ample
    decide +kernel
  · rw [kept] at left
    revert left
    decide +kernel

end SyndicateClaw.Inference
