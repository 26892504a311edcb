import SyndicateClaw.Inference.CatalogIndexes
import SyndicateClaw.Inference.Declarations

/-! What a rollback brings back, over every sequence of syncs and rollbacks. -/

namespace SyndicateClaw.Inference

open Orchestrator

variable {F : Type}

structure SyncDesk (F : Type) where
  sync : ModelsDevCatalogSync F
  catalog : IndexedCatalog F

inductive SyncCall where
  | sync (records : List State) (snapshotVersion : String) (previousCount : Option Nat)
  | rollback (snapshotVersion : String)

def SyncCall.version? : SyncCall → Option String
  | .sync _ snapshotVersion _ => some snapshotVersion
  | .rollback _ => none

def SyncDesk.start (sync : ModelsDevCatalogSync F) (catalog : ModelCatalog F) : SyncDesk F where
  sync := { sync with rollbackStack := [] }
  catalog := replaceEntries catalog.entries catalog.snapshotVersion

namespace SyncDesk

variable [DecidableEq F] (validation : FeedValidation) (desk : SyncDesk F)

/-- `rollback_to_snapshot`. -/
def rolledBack (snapshotVersion : String) : Except String Bool × SyncDesk F :=
  let (outcome, catalog) := desk.catalog.rollbackToSnapshot desk.sync snapshotVersion
  (outcome, { desk with catalog })

def Yaml : Prop := mergeStaticCatalogRows desk.sync.baseSystem.staticCatalog = .ok desk.catalog.entries

def Built : Prop :=
  desk.catalog = replaceEntries desk.catalog.entries desk.catalog.snapshotVersion

variable [Zero F]

/-- `sync_from_parsed_records`, on the catalog with its indexes. -/
def synced (records : List State) (snapshotVersion : String) (previousCount : Option Nat) :
    Except String ModelsDevSyncResult × SyncDesk F :=
  let (outcome, sync, left) := syncFromParsedRecords validation desk.sync
    desk.catalog.toModelCatalog records snapshotVersion previousCount
  match outcome with
  | .error message => (.error message, { desk with sync })
  | .ok result =>
      (.ok result,
        { sync
          catalog :=
            if result.applied then replaceEntries left.entries left.snapshotVersion
            else desk.catalog })

def Applies (records : List State) (snapshotVersion : String) (previousCount : Option Nat) : Prop :=
  (desk.synced validation records snapshotVersion previousCount).1.map
    ModelsDevSyncResult.applied = .ok true

def next (desk : SyncDesk F) : SyncCall → SyncDesk F
  | .sync records snapshotVersion previousCount =>
      (desk.synced validation records snapshotVersion previousCount).2
  | .rollback snapshotVersion => (desk.rolledBack snapshotVersion).2

def after (calls : List SyncCall) : SyncDesk F :=
  calls.foldl (fun desk call => desk.next validation call) desk

theorem after_append (calls later : List SyncCall) :
    desk.after validation (calls ++ later) =
      (desk.after validation calls).after validation later := by
  unfold after
  rw [List.foldl_append]

end SyncDesk

section

variable [Zero F] [DecidableEq F] (validation : FeedValidation)

theorem synced_cases (desk : SyncDesk F) (records : List State) (snapshotVersion : String)
    (previousCount : Option Nat) :
    (¬ desk.Applies validation records snapshotVersion previousCount ∧
      (desk.synced validation records snapshotVersion previousCount).2.catalog = desk.catalog ∧
      ∃ top, (∀ pair ∈ top, pair.2 = snapshotVersion) ∧
        (desk.synced validation records snapshotVersion previousCount).2.sync =
          { desk.sync with rollbackStack := desk.sync.rollbackStack ++ top }) ∨
    (desk.Applies validation records snapshotVersion previousCount ∧
      (∃ entries, (desk.synced validation records snapshotVersion previousCount).2.catalog =
        replaceEntries entries snapshotVersion) ∧
      (desk.synced validation records snapshotVersion previousCount).2.sync =
        { desk.sync with
          rollbackStack :=
            desk.sync.rollbackStack ++ [(desk.catalog.snapshotVersion, snapshotVersion)] }) := by
  unfold SyncDesk.Applies SyncDesk.synced
  rcases syncFromParsedRecords_cases validation desk.sync desk.catalog.toModelCatalog records
    snapshotVersion previousCount with
    ⟨-, synced⟩ | ⟨-, message, -, synced⟩ | ⟨-, merged, done, synced⟩
  · left
    rw [synced]
    exact ⟨by simp [Except.map], rfl, [], nofun, by simp⟩
  · left
    rw [synced]
    refine ⟨by simp [Except.map], rfl, [(desk.catalog.snapshotVersion, snapshotVersion)], ?_, rfl⟩
    intro pair member
    rw [List.mem_singleton.mp member]
  · right
    rw [synced]
    obtain ⟨entries, -, rfl⟩ := static_ok_of_merge done
    exact ⟨rfl, ⟨_, rfl⟩, rfl⟩

omit [Zero F] in
theorem rolledBack_cases (desk : SyncDesk F) (snapshotVersion : String) :
    (desk.rolledBack snapshotVersion).2 = desk ∨
      (desk.rolledBack snapshotVersion).2.sync = desk.sync ∧
        ∃ entries previous, (desk.rolledBack snapshotVersion).2.catalog =
          replaceEntries entries previous ∧
          mergeStaticCatalogRows desk.sync.baseSystem.staticCatalog = .ok entries := by
  unfold SyncDesk.rolledBack IndexedCatalog.rollbackToSnapshot
  cases desk.sync.rollbackStack.find? fun pair => pair.2 = snapshotVersion with
  | none => exact .inl rfl
  | some pair =>
      unfold IndexedCatalog.replaceFromYamlStatic
      cases merged : mergeStaticCatalogRows desk.sync.baseSystem.staticCatalog with
      | error message => exact .inl rfl
      | ok entries => exact .inr ⟨rfl, entries, pair.1, rfl, rfl⟩

theorem next_keeps (desk : SyncDesk F) (call : SyncCall) :
    (desk.next validation call).sync.baseSystem = desk.sync.baseSystem ∧
      (desk.Built → (desk.next validation call).Built) ∧
      ∃ top, (∀ pair ∈ top, call.version? = some pair.2) ∧
        (desk.next validation call).sync.rollbackStack = desk.sync.rollbackStack ++ top := by
  cases call with
  | sync records snapshotVersion previousCount =>
      show (desk.synced validation records snapshotVersion previousCount).2.sync.baseSystem = _ ∧
        (_ → (desk.synced validation records snapshotVersion previousCount).2.Built) ∧
        ∃ top, _ ∧ (desk.synced validation records snapshotVersion
          previousCount).2.sync.rollbackStack = _
      rcases synced_cases validation desk records snapshotVersion previousCount with
        ⟨-, same, top, own, stack⟩ | ⟨-, ⟨entries, new⟩, stack⟩
      · rw [stack]
        refine ⟨rfl, fun built => ?_, top, fun pair member => ?_, rfl⟩
        · unfold SyncDesk.Built
          rw [same]
          exact built
        · exact congrArg some (own pair member).symm
      · rw [stack]
        refine ⟨rfl, fun _ => ?_, _, ?_, rfl⟩
        · unfold SyncDesk.Built
          rw [new]
          rfl
        · intro pair member
          obtain rfl := List.mem_singleton.mp member
          rfl
  | rollback snapshotVersion =>
      show (desk.rolledBack snapshotVersion).2.sync.baseSystem = _ ∧
        (_ → (desk.rolledBack snapshotVersion).2.Built) ∧
        ∃ top, _ ∧ (desk.rolledBack snapshotVersion).2.sync.rollbackStack = _
      rcases rolledBack_cases desk snapshotVersion with same | ⟨stack, entries, previous, new, -⟩
      · rw [same]
        exact ⟨rfl, id, [], nofun, (List.append_nil _).symm⟩
      · rw [stack]
        refine ⟨rfl, fun _ => ?_, [], nofun, (List.append_nil _).symm⟩
        unfold SyncDesk.Built
        rw [new]
        rfl

theorem after_keeps (desk : SyncDesk F) (calls : List SyncCall) :
    (desk.after validation calls).sync.baseSystem = desk.sync.baseSystem ∧
      (desk.Built → (desk.after validation calls).Built) ∧
      ∃ top, (∀ pair ∈ top, pair.2 ∈ calls.filterMap SyncCall.version?) ∧
        (desk.after validation calls).sync.rollbackStack = desk.sync.rollbackStack ++ top := by
  induction calls generalizing desk with
  | nil => exact ⟨rfl, id, [], nofun, (List.append_nil _).symm⟩
  | cons call calls ih =>
      obtain ⟨base, built, top, own, stack⟩ := next_keeps validation desk call
      obtain ⟨base', built', top', own', stack'⟩ := ih (desk.next validation call)
      refine ⟨base'.trans base, built' ∘ built, top ++ top', ?_, ?_⟩
      · intro pair member
        rw [List.mem_filterMap]
        rcases List.mem_append.mp member with first | later
        · exact ⟨call, List.mem_cons_self, own pair first⟩
        · obtain ⟨other, inside, same⟩ := List.mem_filterMap.mp (own' pair later)
          exact ⟨other, List.mem_cons_of_mem call inside, same⟩
      · exact stack'.trans (by rw [stack, List.append_assoc])

/-! ### The contents of a version -/

omit [Zero F] in
theorem yaml_of_same {desk other : SyncDesk F} (base : other.sync.baseSystem = desk.sync.baseSystem)
    (same : other.catalog = desk.catalog) (yaml : desk.Yaml) : other.Yaml := by
  unfold SyncDesk.Yaml
  rw [base, same]
  exact yaml

/-- The entries under a version, where they are not the YAML-static materialization. -/
abbrev Contents (F : Type) := String → Option (CatalogEntries F)

/-- The catalog holds the contents of its version, or the YAML-static materialization. -/
def SyncDesk.Holds (desk : SyncDesk F) (contents : Contents F) : Prop :=
  contents desk.catalog.snapshotVersion = some desk.catalog.entries ∨ desk.Yaml

def Contents.Within (contents : Contents F) (versions : List String) : Prop :=
  ∀ version, contents version ≠ none → version ∈ versions

/-- A call under a new version adds the contents of that version at most. -/
theorem holds_next {desk : SyncDesk F} (call : SyncCall) {contents : Contents F}
    {versions : List String} (within : contents.Within versions)
    (fresh : ∀ version, call.version? = some version → version ∉ versions)
    (holds : desk.Holds contents) :
    ∃ later : Contents F, later.Within (versions ++ call.version?.toList) ∧
      (∀ version, contents version ≠ none → later version = contents version) ∧
      (desk.next validation call).Holds later := by
  have kept (same : (desk.next validation call).catalog = desk.catalog) :
      ∃ later : Contents F, later.Within (versions ++ call.version?.toList) ∧
        (∀ version, contents version ≠ none → later version = contents version) ∧
        (desk.next validation call).Holds later := by
    refine ⟨contents, fun version known => List.mem_append_left _ (within version known),
      fun _ _ => rfl, ?_⟩
    rcases holds with own | yaml
    · left
      rw [same]
      exact own
    · exact .inr (yaml_of_same (next_keeps validation desk call).1 same yaml)
  cases call with
  | sync records snapshotVersion previousCount =>
      rcases synced_cases validation desk records snapshotVersion previousCount with
        ⟨-, same, -⟩ | ⟨-, ⟨entries, new⟩, -⟩
      · exact kept same
      · refine ⟨fun version => if version = snapshotVersion then some entries else contents version,
          ?_, ?_, .inl ?_⟩
        · intro version known
          by_cases own : version = snapshotVersion
          · simp [own, SyncCall.version?]
          · have old : contents version ≠ none := by simpa [own] using known
            exact List.mem_append_left _ (within version old)
        · intro version known
          have old : version ≠ snapshotVersion := by
            rintro rfl
            exact fresh version rfl (within version known)
          exact if_neg old
        · show (fun version => if version = snapshotVersion then some entries else contents version)
            (desk.synced validation records snapshotVersion previousCount).2.catalog.snapshotVersion =
              some (desk.synced validation records snapshotVersion previousCount).2.catalog.entries
          rw [new]
          exact if_pos rfl
  | rollback snapshotVersion =>
      rcases rolledBack_cases desk snapshotVersion with same | ⟨stack, entries, previous, new, yaml⟩
      · exact kept (congrArg SyncDesk.catalog same)
      · refine ⟨contents, fun version known => List.mem_append_left _ (within version known),
          fun _ _ => rfl, .inr ?_⟩
        show mergeStaticCatalogRows (desk.rolledBack snapshotVersion).2.sync.baseSystem.staticCatalog =
          .ok (desk.rolledBack snapshotVersion).2.catalog.entries
        rw [stack, new]
        exact yaml

theorem contents_exist (start : SyncDesk F) (calls : List SyncCall)
    (distinct : (start.catalog.snapshotVersion :: calls.filterMap SyncCall.version?).Nodup) :
    ∃ contents : Contents F,
      contents.Within (start.catalog.snapshotVersion :: calls.filterMap SyncCall.version?) ∧
      ∀ i, (start.after validation (calls.take i)).Holds contents := by
  induction calls using List.reverseRecOn with
  | nil =>
      refine ⟨fun version =>
        if version = start.catalog.snapshotVersion then some start.catalog.entries else none, ?_, ?_⟩
      · intro version known
        by_contra other
        apply known
        apply if_neg
        rintro rfl
        exact other List.mem_cons_self
      · intro i
        rw [List.take_nil]
        exact .inl (if_pos rfl)
  | append_singleton calls call ih =>
      rw [List.filterMap_append, ← List.cons_append] at distinct
      have own : List.filterMap SyncCall.version? [call] = call.version?.toList := by
        cases call <;> rfl
      rw [own, List.nodup_append] at distinct
      obtain ⟨before, -, apart⟩ := distinct
      obtain ⟨contents, within, holds⟩ := ih before
      have last := holds calls.length
      rw [List.take_length] at last
      obtain ⟨later, within', same, holds'⟩ := holds_next validation call within
        (fun version own inside => apart version inside version (by rw [own]; simp) rfl) last
      refine ⟨later, ?_, fun i => ?_⟩
      · rw [List.filterMap_append, own]
        exact within'
      · by_cases early : i ≤ calls.length
        · rw [List.take_append_of_le_length early]
          rcases holds i with old | yaml
          · left
            rw [same _ (by rw [old]; exact nofun)]
            exact old
          · exact .inr yaml
        · rw [List.take_of_length_le (by simp; omega), SyncDesk.after_append]
          exact holds'

/-! ### Where the rows come from -/

/-- A row was there at the start, or YAML declares its key, or its provider may be taken over. -/
structure SyncDesk.Accounts (sync : ModelsDevCatalogSync F) (catalog : ModelCatalog F)
    (desk : SyncDesk F) : Prop where
  own : ∃ stack, desk.sync = { sync with rollbackStack := stack }
  known : ∀ row ∈ desk.catalog.values, row ∈ catalog.values ∨
    row.key ∈ (sync.yamlRows ++ sync.baseSystem.staticCatalog).map StaticCatalogEntry.key ∨
    row.providerId ∈ sync.allowed

theorem accounts_next {sync : ModelsDevCatalogSync F} {catalog : ModelCatalog F} {desk : SyncDesk F}
    (accounts : desk.Accounts sync catalog) (call : SyncCall) :
    (desk.next validation call).Accounts sync catalog := by
  obtain ⟨⟨stack, own⟩, known⟩ := accounts
  cases call with
  | sync records snapshotVersion previousCount =>
      constructor
      · rcases synced_cases validation desk records snapshotVersion previousCount with
          ⟨-, -, top, -, left⟩ | ⟨-, -, left⟩
        all_goals exact ⟨_, left.trans (by rw [own])⟩
      · intro row member
        have source : row ∈ desk.catalog.values ∨ row ∈ (syncFromParsedRecords validation desk.sync
            desk.catalog.toModelCatalog records snapshotVersion previousCount).2.2.values := by
          unfold SyncDesk.next SyncDesk.synced at member
          dsimp only at member
          split at member
          · exact .inl member
          · dsimp only at member
            split at member
            · exact .inr member
            · exact .inl member
        rcases source.imp_right known_after_sync with old | old | static | allowed
        · exact known row old
        · exact known row old
        · rw [own] at static
          exact .inr (.inl (List.map_append ▸ List.mem_append_left _ static))
        · rw [own] at allowed
          exact .inr (.inr allowed)
  | rollback snapshotVersion =>
      show (desk.rolledBack snapshotVersion).2.Accounts sync catalog
      rcases rolledBack_cases desk snapshotVersion with same | ⟨left, entries, previous, new, yaml⟩
      · rw [same]
        exact ⟨⟨stack, own⟩, known⟩
      · refine ⟨⟨stack, left.trans own⟩, fun row member => .inr (.inl ?_)⟩
        rw [new] at member
        obtain ⟨entry, inside, rfl⟩ := List.mem_map.mp member
        rw [own] at yaml
        exact List.map_append ▸ List.mem_append_right _ (static_of_merged yaml entry inside)

theorem accounts_after (sync : ModelsDevCatalogSync F) (catalog : ModelCatalog F)
    (calls : List SyncCall) :
    ((SyncDesk.start sync catalog).after validation calls).Accounts sync catalog := by
  induction calls using List.reverseRecOn with
  | nil => exact ⟨⟨[], rfl⟩, fun row member => .inl member⟩
  | append_singleton calls call ih =>
      rw [SyncDesk.after_append]
      exact accounts_next validation ih call

/-! ### Rolling back -/

structure RollsBack (validation : FeedValidation) (start : SyncDesk F) (calls : List SyncCall) :
    Prop where
  materializes : ∀ before after records version previousCount,
    calls = before ++ .sync records version previousCount :: after →
    (start.after validation before).Applies validation records version previousCount →
    (start.after validation calls).rolledBack version =
      let replaced := (start.after validation calls).catalog.replaceFromYamlStatic
        start.sync.baseSystem (start.after validation before).catalog.snapshotVersion
      (replaced.1.map fun _ => true, { start.after validation calls with catalog := replaced.2 })
  undoes : ∀ before after records version previousCount,
    calls = before ++ .sync records version previousCount :: after →
    (start.after validation before).Applies validation records version previousCount →
    (start.after validation before).Yaml →
    ((start.after validation calls).rolledBack version).2.catalog =
      (start.after validation before).catalog
  sameVersion : ∀ i j,
    (start.after validation (calls.take i)).catalog.snapshotVersion =
        (start.after validation (calls.take j)).catalog.snapshotVersion →
      (start.after validation (calls.take i)).catalog.entries =
          (start.after validation (calls.take j)).catalog.entries ∨
        (start.after validation (calls.take i)).Yaml ∨ (start.after validation (calls.take j)).Yaml

theorem found_on_stack (start : SyncDesk F) {before after : List SyncCall} {records : List State}
    {version : String} {previousCount : Option Nat}
    (empty : start.sync.rollbackStack = [])
    (distinct : ((before ++ .sync records version previousCount :: after).filterMap
      SyncCall.version?).Nodup)
    (applied : (start.after validation before).Applies validation records version previousCount) :
    (start.after validation (before ++ .sync records version previousCount :: after)
      ).sync.rollbackStack.find? (fun pair => pair.2 = version) =
        some ((start.after validation before).catalog.snapshotVersion, version) := by
  obtain ⟨-, -, bottom, earlier, stack⟩ := after_keeps validation start before
  rw [empty, List.nil_append] at stack
  rcases synced_cases validation (start.after validation before) records version
    previousCount with ⟨gave, -⟩ | ⟨-, -, pushed⟩
  · exact absurd applied gave
  · obtain ⟨-, -, top, -, grown⟩ := after_keeps validation
      ((start.after validation before).next validation (.sync records version previousCount)) after
    have whole : (start.after validation
        (before ++ .sync records version previousCount :: after)).sync.rollbackStack =
        bottom ++ (((start.after validation before).catalog.snapshotVersion, version) :: top) := by
      calc
        _ = ((start.after validation before).synced validation records version
              previousCount).2.sync.rollbackStack ++ top := by
          rw [SyncDesk.after_append]
          exact grown
        _ = _ := by
          rw [pushed, ← stack, List.append_assoc]
          rfl
    have absent : bottom.find? (fun pair => pair.2 = version) = none := by
      rw [List.find?_eq_none]
      intro pair member same
      rw [List.filterMap_append, List.nodup_append] at distinct
      exact distinct.2.2 pair.2 (earlier pair member) version (by simp [SyncCall.version?])
        (of_decide_eq_true same)
    rw [whole, List.find?_append, absent]
    simp

/-- A rollback restores the YAML-static materialization under the version before the sync. -/
theorem rollback_restores_yaml (validation : FeedValidation) (sync : ModelsDevCatalogSync F)
    (catalog : ModelCatalog F) (calls : List SyncCall)
    (distinct : (catalog.snapshotVersion :: calls.filterMap SyncCall.version?).Nodup) :
    RollsBack validation (.start sync catalog) calls := by
  have found : ∀ before after records version previousCount,
      calls = before ++ .sync records version previousCount :: after →
      ((SyncDesk.start sync catalog).after validation before).Applies validation records version
        previousCount →
      ((SyncDesk.start sync catalog).after validation calls).rolledBack version =
        let replaced := ((SyncDesk.start sync catalog).after validation
          calls).catalog.replaceFromYamlStatic (SyncDesk.start sync catalog).sync.baseSystem
            ((SyncDesk.start sync catalog).after validation before).catalog.snapshotVersion
        (replaced.1.map fun _ => true,
          { (SyncDesk.start sync catalog).after validation calls with catalog := replaced.2 }) := by
    intro before after records version previousCount split applied
    subst split
    have own := found_on_stack validation (.start sync catalog) rfl
      (List.nodup_cons.mp distinct).2 applied
    have base := (after_keeps validation (.start sync catalog)
      (before ++ .sync records version previousCount :: after)).1
    unfold SyncDesk.rolledBack IndexedCatalog.rollbackToSnapshot
    rw [own, base]
  refine ⟨found, ?_, ?_⟩
  · intro before after records version previousCount split applied yaml
    rw [found before after records version previousCount split applied]
    have built := (after_keeps validation (.start sync catalog) before).2.1 rfl
    have base := (after_keeps validation (.start sync catalog) before).1
    unfold SyncDesk.Yaml at yaml
    rw [base] at yaml
    unfold IndexedCatalog.replaceFromYamlStatic
    dsimp only
    rw [yaml]
    exact built.symm
  · intro i j same
    obtain ⟨contents, -, holds⟩ := contents_exist validation
      (.start sync catalog) calls distinct
    rcases holds i with first | yaml
    · rcases holds j with second | yaml
      · left
        rw [same, second] at first
        exact (Option.some.inj first).symm
      · exact .inr (.inr yaml)
    · exact .inr (.inl yaml)

end

/-! Two syncs with one record each, to a catalog without static rows. -/

def localRecord (modelId : String) : State :=
  [("provider_id", .str "local"), ("model_id", .str modelId)]

def localSync : ModelsDevCatalogSync ℤ where
  baseSystem := systemOf true [localProvider] localProvider_alone
  allowed := ["local"]
  yamlRows := []

def twoSyncs : List SyncCall :=
  [.sync [localRecord "a"] "v1" none, .sync [localRecord "b"] "v2" none]

theorem two_syncs_rollBack :
    RollsBack plainValidation (.start localSync (catalogOf [])) twoSyncs :=
  rollback_restores_yaml plainValidation localSync (catalogOf []) twoSyncs (by decide)

/-- The second sync is not undone: the record of the first is gone. -/
theorem second_sync_not_undone :
    ¬ ∀ before after records version previousCount,
      twoSyncs = before ++ .sync records version previousCount :: after →
      ((SyncDesk.start localSync (catalogOf [])).after plainValidation before).Applies plainValidation
        records version previousCount →
      (((SyncDesk.start localSync (catalogOf [])).after plainValidation twoSyncs).rolledBack
          version).2.catalog =
        ((SyncDesk.start localSync (catalogOf [])).after plainValidation before).catalog := by
  intro undone
  have same := undone [.sync [localRecord "a"] "v1" none] [] [localRecord "b"] "v2" none rfl
    (by unfold SyncDesk.Applies; decide +kernel)
  have count := congrArg (fun catalog => catalog.toModelCatalog.entryCount) same
  revert count
  decide +kernel

end SyndicateClaw.Inference
