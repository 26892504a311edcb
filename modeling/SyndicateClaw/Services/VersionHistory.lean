import SyndicateClaw.Async.History
import SyndicateClaw.Services.Versioning

/-! The versions of a workflow, over every interleaving of requests that create, update and roll
it back. -/

namespace SyndicateClaw.Services

open Async Orchestrator

inductive VersionSession where
  | create (body : CreateWorkflowRequest) (actor namespaceName : String)
  | update (body : UpdateWorkflowRequest) (actor : String)
  | rollback (version : Int) (comment : Option String) (actor : String)
  -- An update that has read the row, and one whose version was created.
  | read (body : UpdateWorkflowRequest) (actor : String) (seen : WorkflowDefinitionRow)
  | versioned (body : UpdateWorkflowRequest) (seen : WorkflowDefinitionRow)
  -- A rollback that has read its target.
  | target (definition : State) (comment actor : String)
  | closed

structure VersionDesk (ι : Type) where
  store : VersionStore
  sessions : ι → VersionSession

inductive VersionAct (ι : Type) where
  | turn (session : ι)
  -- The request is cancelled, or it fails and its session is rolled back.
  | abandon (session : ι)

def VersionSession.turn (store : VersionStore) : VersionSession → VersionStore × VersionSession
  | .create body actor namespaceName =>
      match store.workflow with
      | some _ => (store, .closed)
      | none => ({ store with workflow := some (createWorkflow body actor namespaceName) }, .closed)
  | .update body actor =>
      match store.workflow with
      | none => (store, .closed)
      | some wf =>
          if wf.owner ≠ "" ∧ wf.owner ≠ actor then (store, .closed) else (store, .read body actor wf)
  | .read body actor seen =>
      match VersioningService.createVersion (body.apply seen).definition actor body.comment store with
      | .error _ => (store, .closed)
      | .ok (_, later) => (later, .versioned body seen)
  | .versioned body seen =>
      ({ store with
          workflow := store.workflow.map (WorkflowDefinitionRow.save seen (body.apply seen)) },
        .closed)
  | .rollback version comment actor =>
      match VersioningService.getVersion version store with
      | .error _ => (store, .closed)
      | .ok row =>
          (store, .target row.definition
            (if (comment.getD "").isEmpty then "Rollback to version " ++ toString version
              else comment.getD "") actor)
  | .target definition comment actor =>
      match VersioningService.createVersion definition actor (some comment) store with
      | .error _ => (store, .closed)
      | .ok (_, later) => (later, .closed)
  | .closed => (store, .closed)

namespace VersionDesk

variable {ι : Type} [DecidableEq ι]

def start (requests : ι → VersionSession) : VersionDesk ι where
  store := { workflow := none, versions := [], archive := [] }
  sessions := requests

def step (desk : VersionDesk ι) : VersionAct ι → VersionDesk ι
  | .turn session =>
      let (store, next) := (desk.sessions session).turn desk.store
      { store, sessions := Function.update desk.sessions session next }
  | .abandon session => { desk with sessions := Function.update desk.sessions session .closed }

/-- The desk after the first `n` acts. -/
abbrev after (desk : VersionDesk ι) (acts : List (VersionAct ι)) (n : Nat) : VersionDesk ι :=
  stateAfter step desk acts n

end VersionDesk

/-- A workflow whose versions are all there: each from 1 to `current_version` is stored once, the
newest hundred in `workflow_versions`, and the live columns are those of the last. -/
structure VersionStore.Intact (store : VersionStore) (wf : WorkflowDefinitionRow) : Prop where
  stored : ∀ version, 1 ≤ version → version ≤ wf.currentVersion →
    store.history.countP (fun row => row.version = version) = 1
  capped : store.versions.length ≤ 100
  newest : ∀ old ∈ store.archive, ∀ row ∈ store.versions, old.version < row.version
  live : ∃ row ∈ store.versions, row.version = wf.currentVersion ∧
    row.definition = wf.definition

/-- No version is lost: the workflow is intact whenever it exists, and the definition that is
stored for a version never changes. -/
structure NoVersionLost {ι : Type} [DecidableEq ι] (desk : VersionDesk ι)
    (acts : List (VersionAct ι)) : Prop where
  intact : ∀ n wf, (desk.after acts n).store.workflow = some wf → (desk.after acts n).store.Intact wf
  fixed : ∀ i j, i ≤ j → ∀ row ∈ (desk.after acts i).store.history,
    ∀ later ∈ (desk.after acts j).store.history, later.version = row.version → later = row

/-! ### What every history keeps -/

/-- Nothing is stored without a workflow, and of a workflow all versions but the first. -/
def VersionStore.Sound (store : VersionStore) : Prop :=
  match store.workflow with
  | none => store.history = [] ∧ store.versions = []
  | some wf => store.Kept wf

section

variable {store later : VersionStore} {wf : WorkflowDefinitionRow}

theorem VersionStore.Sound.kept (sound : store.Sound) (present : store.workflow = some wf) :
    store.Kept wf := by
  unfold VersionStore.Sound at sound
  rwa [present] at sound

/-- The columns of `update_workflow` have nothing to do with versions. -/
theorem VersionStore.Kept.saved (kept : store.Kept wf) {row : WorkflowDefinitionRow}
    (same : row.currentVersion = wf.currentVersion) :
    VersionStore.Kept { store with workflow := some row } row where
  numbered := kept.numbered
  current := same.trans kept.current
  capped := kept.capped

theorem sound_createVersion (sound : store.Sound) {definition : State} {actor : String}
    {comment : Option String} {version : Nat}
    (done : VersioningService.createVersion definition actor comment store = .ok (version, later)) :
    later.Sound ∧ store.history <+: later.history := by
  cases present : store.workflow with
  | none =>
      unfold VersioningService.createVersion at done
      rw [present] at done
      cases done
  | some wf =>
      obtain ⟨now, history, kept⟩ := (sound.kept present).createVersion present done
      constructor
      · unfold VersionStore.Sound
        rw [now]
        exact kept
      · rw [history]
        exact List.prefix_append _ _

theorem turn_cases (store : VersionStore) (session : VersionSession) :
    (session.turn store).1 = store ∨
    (store.workflow = none ∧ ∃ wf : WorkflowDefinitionRow, wf.currentVersion = 1 ∧
      (session.turn store).1 = { store with workflow := some wf }) ∨
    (∃ definition actor comment version, VersioningService.createVersion definition actor comment
      store = .ok (version, (session.turn store).1)) ∨
    ∃ seen new, (session.turn store).1 =
      { store with workflow := store.workflow.map (WorkflowDefinitionRow.save seen new) } := by
  cases session with
  | create body actor namespaceName =>
      simp only [VersionSession.turn]
      cases present : store.workflow with
      | some wf => exact .inl rfl
      | none => exact .inr (.inl ⟨rfl, createWorkflow body actor namespaceName, rfl, rfl⟩)
  | update body actor =>
      simp only [VersionSession.turn]
      cases store.workflow with
      | none => exact .inl rfl
      | some wf =>
          dsimp only
          split
          · exact .inl rfl
          · exact .inl rfl
  | rollback version comment actor =>
      simp only [VersionSession.turn]
      cases VersioningService.getVersion version store with
      | error error => exact .inl rfl
      | ok row => exact .inl rfl
  | read body actor seen =>
      simp only [VersionSession.turn]
      cases done : VersioningService.createVersion (body.apply seen).definition actor
          body.comment store with
      | error error => exact .inl rfl
      | ok made => exact .inr (.inr (.inl ⟨_, actor, body.comment, made.1, done⟩))
  | versioned body seen => exact .inr (.inr (.inr ⟨seen, body.apply seen, rfl⟩))
  | target definition comment actor =>
      simp only [VersionSession.turn]
      cases done : VersioningService.createVersion definition actor (some comment) store with
      | error error => exact .inl rfl
      | ok made => exact .inr (.inr (.inl ⟨definition, actor, some comment, made.1, done⟩))
  | closed => exact .inl rfl

theorem VersionStore.Sound.created (sound : store.Sound) (absent : store.workflow = none)
    (first : wf.currentVersion = 1) : VersionStore.Sound { store with workflow := some wf } := by
  unfold VersionStore.Sound at sound
  rw [absent] at sound
  obtain ⟨empty, none⟩ := sound
  have all : VersionStore.history { store with workflow := some wf } = [] := empty
  exact
    { numbered := by
        rw [all]
        exact Numbered.nil
      current := by
        rw [all]
        exact first
      capped := by
        rw [all, none]
        rfl }

theorem VersionStore.Sound.flushed (sound : store.Sound) (seen new : WorkflowDefinitionRow) :
    VersionStore.Sound
      { store with workflow := store.workflow.map (WorkflowDefinitionRow.save seen new) } := by
  cases present : store.workflow with
  | none =>
      unfold VersionStore.Sound at sound ⊢
      rw [present] at sound
      exact sound
  | some wf => exact (sound.kept present).saved rfl

theorem sound_turn (sound : store.Sound) (session : VersionSession) :
    (session.turn store).1.Sound ∧ store.history <+: (session.turn store).1.history := by
  rcases turn_cases store session with same | ⟨absent, wf, first, new⟩ |
    ⟨definition, actor, comment, version, done⟩ | ⟨seen, new, flush⟩
  · rw [same]
    exact ⟨sound, List.prefix_rfl⟩
  · rw [new]
    exact ⟨sound.created absent first, List.prefix_rfl⟩
  · exact sound_createVersion sound done
  · rw [flush]
    exact ⟨sound.flushed seen new, List.prefix_rfl⟩

end

section

variable {ι : Type} [DecidableEq ι]

theorem sound_step {desk : VersionDesk ι} (sound : desk.store.Sound) (act : VersionAct ι) :
    (desk.step act).store.Sound ∧ desk.store.history <+: (desk.step act).store.history := by
  cases act with
  | turn session => exact sound_turn sound (desk.sessions session)
  | abandon session => exact ⟨sound, List.prefix_rfl⟩

theorem present_createVersion {store later : VersionStore} {definition : State} {actor : String}
    {comment : Option String} {version : Nat}
    (done : VersioningService.createVersion definition actor comment store = .ok (version, later)) :
    later.workflow.isSome = true := by
  unfold VersioningService.createVersion at done
  cases present : store.workflow with
  | none =>
      rw [present] at done
      cases done
  | some wf =>
      rw [present] at done
      obtain ⟨-, rfl⟩ := Prod.mk.inj (Except.ok.inj done)
      unfold VersioningService.enforceVersionCap
      dsimp only
      split
      · rfl
      · rfl

theorem present_step {desk : VersionDesk ι} (act : VersionAct ι)
    (present : desk.store.workflow.isSome = true) :
    (desk.step act).store.workflow.isSome = true := by
  cases act with
  | abandon session => exact present
  | turn session =>
      show ((desk.sessions session).turn desk.store).1.workflow.isSome = true
      rcases turn_cases desk.store (desk.sessions session) with same | ⟨-, wf, -, new⟩ |
        ⟨definition, actor, comment, version, done⟩ | ⟨seen, new, flush⟩
      · rw [same]
        exact present
      · rw [new]
        rfl
      · exact present_createVersion done
      · rw [flush, Option.isSome_map]
        exact present

theorem sound_after (requests : ι → VersionSession) (acts : List (VersionAct ι)) (n : Nat) :
    ((VersionDesk.start requests).after acts n).store.Sound := by
  apply stateAfter_invariant _ _ _ fun desk : VersionDesk ι => desk.store.Sound
  · exact ⟨rfl, rfl⟩
  · exact fun _ act _ sound => (sound_step sound act).1

theorem history_grows (requests : ι → VersionSession) (acts : List (VersionAct ι)) {i j : Nat}
    (le : i ≤ j) : ((VersionDesk.start requests).after acts i).store.history <+:
      ((VersionDesk.start requests).after acts j).store.history := by
  have both := (monotone_iff VersionDesk.step (VersionDesk.start requests) acts
    (fun desk later => desk.store.history <+: later.store.history)
    (fun _ => List.prefix_rfl) (fun _ _ _ first second => first.trans second)).mpr
  apply both _ i j le
  intro n act _
  exact (sound_step (sound_after requests acts n) act).2

theorem current_grows (requests : ι → VersionSession) (acts : List (VersionAct ι)) {i j : Nat}
    (le : i ≤ j) {wf : WorkflowDefinitionRow}
    (present : ((VersionDesk.start requests).after acts i).store.workflow = some wf) :
    ∃ later, ((VersionDesk.start requests).after acts j).store.workflow = some later ∧
      wf.currentVersion ≤ later.currentVersion := by
  have stays := (monotone_iff VersionDesk.step (VersionDesk.start requests) acts
    (fun desk later => desk.store.workflow.isSome = true → later.store.workflow.isSome = true)
    (fun _ same => same) (fun _ _ _ first second held => second (first held))).mpr
      fun n act _ => present_step act
  have there := stays i j le (by rw [present]; rfl)
  obtain ⟨later, found⟩ := Option.isSome_iff_exists.mp there
  refine ⟨later, found, ?_⟩
  have before := ((sound_after requests acts i).kept present).current
  have after := ((sound_after requests acts j).kept found).current
  have length := (history_grows requests acts le).length_le
  omega

/-- What is stored stays, in place, and from version 2 on there are no gaps and no version twice. -/
theorem versions_numbered (requests : ι → VersionSession) (acts : List (VersionAct ι)) (i k : Nat) :
    ((VersionDesk.start requests).after acts i).store.history <+:
        ((VersionDesk.start requests).after acts (i + k)).store.history ∧
      Numbered WorkflowVersion.version 2 ((VersionDesk.start requests).after acts i).store.history := by
  refine ⟨history_grows requests acts (Nat.le_add_right i k), ?_⟩
  have sound := sound_after requests acts i
  cases present : ((VersionDesk.start requests).after acts i).store.workflow with
  | none =>
      unfold VersionStore.Sound at sound
      rw [present] at sound
      rw [sound.1]
      exact .nil
  | some wf => exact (sound.kept present).numbered

/-- No history keeps the first version of the workflow. -/
theorem never_intact (requests : ι → VersionSession) (acts : List (VersionAct ι)) (n : Nat)
    (wf : WorkflowDefinitionRow)
    (present : ((VersionDesk.start requests).after acts n).store.workflow = some wf) :
    ¬ ((VersionDesk.start requests).after acts n).store.Intact wf ∧
      ¬ NoVersionLost (VersionDesk.start requests) acts := by
  have kept := (sound_after requests acts n).kept present
  have torn : ¬ ((VersionDesk.start requests).after acts n).store.Intact wf := by
    intro intact
    have current := kept.current
    have first := intact.stored 1 (le_refl 1) (by omega)
    rw [kept.numbered.count 1, if_neg (by omega)] at first
    cases first
  exact ⟨torn, fun all => torn (all.intact n wf present)⟩

end

/-! A workflow that is created and never changed. -/

def plainWorkflow : CreateWorkflowRequest where
  name := "plain"
  description := ""
  nodes := .list []
  edges := .list []
  metadata := .dict []

def onlyCreated : Bool → VersionSession
  | true => .create plainWorkflow "author" "default"
  | false => .closed

theorem onlyCreated_never_intact :
    ¬ ((VersionDesk.start onlyCreated).after [.turn true] 1).store.Intact
        (createWorkflow plainWorkflow "author" "default") ∧
      ¬ NoVersionLost (VersionDesk.start onlyCreated) [.turn true] :=
  never_intact onlyCreated [.turn true] 1 _ rfl

theorem onlyCreated_loses_version : ¬ NoVersionLost (VersionDesk.start onlyCreated) [.turn true] := by
  intro all
  have first := (all.intact 1 _ rfl).stored 1 (by decide) (by decide)
  revert first
  decide

end SyndicateClaw.Services
