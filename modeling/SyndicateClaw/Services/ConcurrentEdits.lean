import SyndicateClaw.Async.Edits
import SyndicateClaw.Services.VersionHistory

/-! Two updates of one workflow at a time. -/

namespace SyndicateClaw.Services

open Async Orchestrator
open Approval (changed)

/-- The columns that `update_workflow` sets. -/
inductive WorkflowColumn where
  | name | description | nodes | edges | metadata
  deriving DecidableEq

def WorkflowColumn.field : WorkflowColumn → Option String
  | .name => none
  | .description => none
  | .nodes => some "nodes"
  | .edges => some "edges"
  | .metadata => some "metadata"

def WorkflowColumn.covered (c : WorkflowColumn) : Bool := c.field.isSome

def WorkflowDefinitionRow.column (wf : WorkflowDefinitionRow) : WorkflowColumn → Value
  | .name => .str wf.name
  | .description => (wf.description.map Value.str).getD .none
  | .nodes => wf.nodes
  | .edges => wf.edges
  | .metadata => wf.metadata

def UpdateWorkflowRequest.column (body : UpdateWorkflowRequest) : WorkflowColumn → Option Value
  | .name => body.name.map Value.str
  | .description => body.description.map Value.str
  | .nodes => body.nodes
  | .edges => body.edges
  | .metadata => body.metadata

def WorkflowVersion.column (row : WorkflowVersion) (c : WorkflowColumn) : Option Value :=
  c.field.bind (Dict.get? row.definition)

/-- The live workflow and the definition of its last version hold what a request sets. -/
def VersionStore.HoldsUpdate (store : VersionStore) (body : UpdateWorkflowRequest) : Prop :=
  ∃ wf row, store.workflow = some wf ∧
    VersioningService.getVersion wf.currentVersion store = .ok row ∧
    ∀ c value, body.column c = some value →
      wf.column c = value ∧ (c.covered = true → row.column c = some value)

section

variable {ι : Type} [DecidableEq ι]

def VersionDesk.Reached (desk : VersionDesk ι) : Prop :=
  ∃ requests acts n, (VersionDesk.start requests).after acts n = desk

/-- An update creates a version that changes the definition it has read, while the other has read
the workflow and not created its version yet. -/
def VersionDesk.Overtakes (pair : Bool → ι) (desk : VersionDesk ι) (which : Bool) : Prop :=
  ∃ body actor seen, desk.sessions (pair which) = .read body actor seen ∧
    (body.apply seen).definition ≠ seen.definition ∧
    ∃ other owner old, desk.sessions (pair !which) = .read other owner old

end

/-! ### Columns -/

section

variable (wf row : WorkflowDefinitionRow) (body : UpdateWorkflowRequest) (c : WorkflowColumn)

theorem column_apply : (body.apply wf).column c = patched body.column wf.column c := by
  unfold patched
  cases c with
  | name =>
      show Value.str (body.name.getD wf.name) = (body.name.map Value.str).getD (Value.str wf.name)
      cases body.name with
      | none => rfl
      | some name => rfl
  | description =>
      show ((body.description <|> wf.description).map Value.str).getD .none =
        (body.description.map Value.str).getD ((wf.description.map Value.str).getD .none)
      cases body.description with
      | none => rfl
      | some description => rfl
  | nodes => rfl
  | edges => rfl
  | metadata => rfl

theorem description_injective :
    Function.Injective fun description : Option String =>
      (description.map Value.str).getD .none := by
  intro left right same
  cases left with
  | none =>
      cases right with
      | none => rfl
      | some text => cases same
  | some text =>
      cases right with
      | none => cases same
      | some other => exact congrArg some (Value.str.inj same)

theorem changed_apply {α β : Type} [DecidableEq α] [DecidableEq β] {f : α → β}
    (injective : Function.Injective f) (seen new current : α) :
    f (changed seen new current) = if f new = f seen then f current else f new := by
  unfold changed
  by_cases same : new = seen
  · rw [if_pos same, if_pos (congrArg f same)]
  · rw [if_neg same, if_neg fun equal => same (injective equal)]

theorem column_save (seen new : WorkflowDefinitionRow) :
    (WorkflowDefinitionRow.save seen new wf).column c =
      if new.column c = seen.column c then wf.column c else new.column c := by
  cases c with
  | name => exact changed_apply (fun _ _ same => Value.str.inj same) seen.name new.name wf.name
  | description => exact changed_apply description_injective _ _ _
  | nodes => exact changed_apply Function.injective_id _ _ _
  | edges => exact changed_apply Function.injective_id _ _ _
  | metadata => exact changed_apply Function.injective_id _ _ _

theorem column_next (actor : String) :
    (wf.next row.definition actor).column c = if c.covered then row.column c else wf.column c := by
  cases c with
  | name => rfl
  | description => rfl
  | nodes => rfl
  | edges => rfl
  | metadata => rfl

theorem column_added (actor : String) (comment : Option String) :
    (wf.added row.definition actor comment).column c =
      if c.covered then some (row.column c) else none := by
  cases c with
  | name => rfl
  | description => rfl
  | nodes => rfl
  | edges => rfl
  | metadata => rfl

theorem definition_ne_iff :
    row.definition ≠ wf.definition ↔ ∃ c : WorkflowColumn, c.covered = true ∧
      row.column c ≠ wf.column c := by
  constructor
  · intro differ
    by_contra same
    push Not at same
    apply differ
    unfold WorkflowDefinitionRow.definition
    have nodes : row.nodes = wf.nodes := same .nodes rfl
    have edges : row.edges = wf.edges := same .edges rfl
    have metadata : row.metadata = wf.metadata := same .metadata rfl
    rw [nodes, edges, metadata]
  · intro differ same
    obtain ⟨c, inside, differ⟩ := differ
    apply differ
    have found : ∀ key, Dict.get? row.definition key = Dict.get? wf.definition key := by
      intro key
      rw [same]
    cases c with
    | name => cases inside
    | description => cases inside
    | nodes => exact Option.some.inj (found "nodes")
    | edges => exact Option.some.inj (found "edges")
    | metadata => exact Option.some.inj (found "metadata")

end

/-! ### The edits of the columns -/

def VersionSession.edit : VersionSession → RowEdit WorkflowColumn Value
  | .read _ _ seen => .read seen.column
  | .versioned _ seen => .published seen.column
  | .closed => .closed
  | _ => .waiting

inductive Updating (body : UpdateWorkflowRequest) (actor : String) : VersionSession → Prop
  | update : Updating body actor (.update body actor)
  | read (seen : WorkflowDefinitionRow) : Updating body actor (.read body actor seen)
  | versioned (seen : WorkflowDefinitionRow) : Updating body actor (.versioned body seen)
  | closed : Updating body actor .closed

section

variable {ι : Type} [DecidableEq ι] {pair : Bool → ι} {bodies : Bool → UpdateWorkflowRequest}
  {actors : Bool → String} {desk : VersionDesk ι} {wf : WorkflowDefinitionRow}

def VersionDesk.edited (pair : Bool → ι) (desk : VersionDesk ι) (wf : WorkflowDefinitionRow) :
    Edited WorkflowColumn Value where
  live := wf.column
  copy := fun c => desk.store.history.getLast?.bind fun row => row.column c
  edits := fun which => (desk.sessions (pair which)).edit

structure Editing (pair : Bool → ι) (bodies : Bool → UpdateWorkflowRequest)
    (actors : Bool → String) (desk : VersionDesk ι) (wf : WorkflowDefinitionRow) : Prop where
  present : desk.store.workflow = some wf
  kept : desk.store.Kept wf
  allowed : ∀ which, wf.owner = "" ∨ wf.owner = actors which
  sessions : ∀ which, Updating (bodies which) (actors which) (desk.sessions (pair which))

theorem edit_update (distinct : Function.Injective pair) (sessions : ι → VersionSession)
    (which : Bool) (next : VersionSession) :
    (fun each => (Function.update sessions (pair which) next (pair each)).edit) =
      Function.update (fun each => (sessions (pair each)).edit) which next.edit := by
  funext each
  by_cases own : each = which
  · subst own
    rw [Function.update_self, Function.update_self]
  · rw [Function.update_of_ne own, Function.update_of_ne fun same => own (distinct same)]

theorem updating_update (distinct : Function.Injective pair) {sessions : ι → VersionSession}
    (updating : ∀ which, Updating (bodies which) (actors which) (sessions (pair which)))
    {which : Bool} {next : VersionSession}
    (goes : Updating (bodies which) (actors which) next) (each : Bool) :
    Updating (bodies each) (actors each)
      (Function.update sessions (pair which) next (pair each)) := by
  by_cases own : each = which
  · subst own
    rw [Function.update_self]
    exact goes
  · rw [Function.update_of_ne fun same => own (distinct same)]
    exact updating each

theorem Editing.moved (editing : Editing pair bodies actors desk wf)
    (distinct : Function.Injective pair) {which : Bool} {session : VersionSession}
    (own : desk.sessions (pair which) = session) {store : VersionStore} {next : VersionSession}
    {later : WorkflowDefinitionRow} (turned : session.turn desk.store = (store, next))
    (present : store.workflow = some later) (kept : store.Kept later)
    (owner : later.owner = wf.owner) (goes : Updating (bodies which) (actors which) next) :
    Editing pair bodies actors (desk.step (.turn (pair which))) later ∧
      (desk.step (.turn (pair which))).edited pair later =
        { live := later.column
          copy := fun c => store.history.getLast?.bind fun row => row.column c
          edits := Function.update (desk.edited pair wf).edits which next.edit } := by
  have stepped : desk.step (.turn (pair which)) =
      { store, sessions := Function.update desk.sessions (pair which) next } := by
    show VersionDesk.mk ((desk.sessions (pair which)).turn desk.store).1
      (Function.update desk.sessions (pair which)
        ((desk.sessions (pair which)).turn desk.store).2) = _
    rw [own, turned]
  rw [stepped]
  constructor
  · exact ⟨present, kept, fun each => owner ▸ editing.allowed each,
      updating_update distinct editing.sessions goes⟩
  · unfold VersionDesk.edited
    dsimp only
    rw [edit_update distinct]

omit [DecidableEq ι] in
theorem turn_update (editing : Editing pair bodies actors desk wf) (which : Bool) :
    (VersionSession.update (bodies which) (actors which)).turn desk.store =
      (desk.store, .read (bodies which) (actors which) wf) := by
  simp only [VersionSession.turn, editing.present]
  rw [if_neg]
  intro denied
  exact (editing.allowed which).elim denied.1 denied.2

theorem Editing.step (editing : Editing pair bodies actors desk wf)
    (distinct : Function.Injective pair) (which : Bool) :
    ∃ later, Editing pair bodies actors (desk.step (.turn (pair which))) later ∧
      (desk.step (.turn (pair which))).edited pair later =
        (desk.edited pair wf).step WorkflowColumn.covered (fun each => (bodies each).column)
          which := by
  have updating := editing.sessions which
  have phase : (desk.edited pair wf).edits which = (desk.sessions (pair which)).edit := rfl
  unfold Edited.step
  rw [phase]
  generalize own : desk.sessions (pair which) = session at updating
  cases updating with
  | update =>
      obtain ⟨under, same⟩ := editing.moved distinct own (turn_update editing which)
        editing.present editing.kept rfl (.read wf)
      exact ⟨wf, under, same⟩
  | read seen =>
      cases done : VersioningService.createVersion ((bodies which).apply seen).definition
          (actors which) (bodies which).comment desk.store with
      | error error =>
          unfold VersioningService.createVersion at done
          rw [editing.present] at done
          cases done
      | ok made =>
          obtain ⟨now, history, kept⟩ := editing.kept.createVersion editing.present done
          have creates : (VersionSession.read (bodies which) (actors which) seen).turn desk.store =
              (made.2, .versioned (bodies which) seen) := by
            simp only [VersionSession.turn, done]
          obtain ⟨under, same⟩ := editing.moved distinct own creates now kept rfl
            (.versioned seen)
          refine ⟨_, under, ?_⟩
          rw [same, history, List.getLast?_concat]
          have live : (wf.next ((bodies which).apply seen).definition (actors which)).column =
              fun c => if c.covered then patched (bodies which).column seen.column c
                else wf.column c := by
            funext c
            rw [column_next, column_apply]
          have copy : (fun c => (some (wf.added ((bodies which).apply seen).definition
                (actors which) (bodies which).comment)).bind fun row => row.column c) =
              fun c => if c.covered then some (patched (bodies which).column seen.column c)
                else none := by
            funext c
            rw [Option.bind_some, column_added, column_apply]
          rw [live, copy]
          rfl
  | versioned seen =>
      have saves : (VersionSession.versioned (bodies which) seen).turn desk.store =
          ({ desk.store with
              workflow := some (seen.save ((bodies which).apply seen) wf) }, .closed) := by
        simp only [VersionSession.turn, editing.present, Option.map_some]
      have kept : VersionStore.Kept
          { desk.store with workflow := some (seen.save ((bodies which).apply seen) wf) }
          (seen.save ((bodies which).apply seen) wf) := editing.kept.saved rfl
      obtain ⟨under, same⟩ := editing.moved distinct own saves rfl kept rfl .closed
      refine ⟨_, under, ?_⟩
      have live : (seen.save ((bodies which).apply seen) wf).column = fun c =>
          if patched (bodies which).column seen.column c = seen.column c then wf.column c
            else patched (bodies which).column seen.column c := by
        funext c
        rw [column_save, column_apply]
      rw [same, live]
      rfl
  | closed =>
      have rests : VersionSession.closed.turn desk.store = (desk.store, .closed) := rfl
      obtain ⟨under, same⟩ := editing.moved distinct own rests editing.present editing.kept rfl
        .closed
      refine ⟨wf, under, same.trans ?_⟩
      have closed : (desk.edited pair wf).edits which = VersionSession.closed.edit := by
        rw [phase, own]
      rw [Function.update_eq_self_iff.mpr closed.symm]
      rfl

theorem Editing.after (editing : Editing pair bodies actors desk wf)
    (distinct : Function.Injective pair) (turns : List Bool) (n : Nat) :
    ∃ later,
      Editing pair bodies actors
        (desk.after (turns.map fun which => .turn (pair which)) n) later ∧
      (desk.after (turns.map fun which => .turn (pair which)) n).edited pair later =
        (desk.edited pair wf).after WorkflowColumn.covered (fun each => (bodies each).column)
          turns n := by
  induction n with
  | zero =>
      rw [VersionDesk.after, Edited.after, stateAfter_zero, stateAfter_zero]
      exact ⟨wf, editing, rfl⟩
  | succ n ih =>
      obtain ⟨now, still, same⟩ := ih
      rw [VersionDesk.after, Edited.after]
      cases present : turns[n]? with
      | none =>
          rw [stateAfter_succ_of_none _ _ _ present,
            stateAfter_succ_of_none _ _ _ (by rw [List.getElem?_map, present]; rfl)]
          exact ⟨now, still, same⟩
      | some which =>
          have act : (turns.map fun which => VersionAct.turn (pair which))[n]? =
              some (.turn (pair which)) := by
            rw [List.getElem?_map, present]
            rfl
          rw [stateAfter_succ _ _ _ present, stateAfter_succ _ _ _ act]
          obtain ⟨later, goes, steps⟩ := still.step distinct which
          refine ⟨later, goes, ?_⟩
          rw [steps, same]

theorem Editing.overtakes_iff (editing : Editing pair bodies actors desk wf) (which : Bool) :
    desk.Overtakes pair which ↔
      (desk.edited pair wf).Overtakes WorkflowColumn.covered (fun each => (bodies each).column)
        which := by
  have own := editing.sessions which
  have other := editing.sessions (!which)
  have reads : ∀ {session seen}, VersionSession.edit session = .read seen →
      ∃ body actor row, session = .read body actor row ∧ seen = row.column := by
    intro session seen phase
    cases session with
    | read body actor row => exact ⟨body, actor, row, rfl, (RowEdit.read.inj phase).symm⟩
    | _ => cases phase
  constructor
  · intro overtakes
    obtain ⟨body, actor, seen, mine, changes, body', actor', old, others⟩ := overtakes
    rw [mine] at own
    obtain ⟨c, inside, differ⟩ := definition_ne_iff _ _ |>.mp changes
    refine ⟨seen.column, old.column, c, ?_, ?_, inside, ?_⟩
    · show (desk.sessions (pair which)).edit = _
      rw [mine]
      rfl
    · show (desk.sessions (pair !which)).edit = _
      rw [others]
      rfl
    · rw [column_apply] at differ
      cases own
      exact differ
  · intro overtakes
    obtain ⟨seen, old, c, reading, stale, inside, differ⟩ := overtakes
    obtain ⟨body, actor, row, mine, rfl⟩ := reads reading
    obtain ⟨body', actor', row', others, -⟩ := reads stale
    refine ⟨body, actor, row, mine, ?_, body', actor', row', others⟩
    apply definition_ne_iff _ _ |>.mpr
    refine ⟨c, inside, ?_⟩
    rw [column_apply]
    rw [mine] at own
    cases own
    exact differ

theorem Editing.holdsUpdate_iff (editing : Editing pair bodies actors desk wf)
    {row : WorkflowVersion} (last : desk.store.history.getLast? = some row)
    (body : UpdateWorkflowRequest) :
    desk.store.HoldsUpdate body ↔
      (desk.edited pair wf).Holds WorkflowColumn.covered body.column := by
  have copied : ∀ c, (desk.edited pair wf).copy c = row.column c := by
    intro c
    show (desk.store.history.getLast?.bind fun row => row.column c) = row.column c
    rw [last, Option.bind_some]
  constructor
  · intro holds
    obtain ⟨live, version, present, found, kept⟩ := holds
    obtain rfl := Option.some.inj (editing.present.symm.trans present)
    have same := (editing.kept.getVersion_current version).mp found
    obtain rfl := Option.some.inj (last.symm.trans same)
    intro c v asked
    rw [copied]
    exact kept c v asked
  · intro holds
    refine ⟨wf, row, editing.present, (editing.kept.getVersion_current row).mpr last, ?_⟩
    intro c v asked
    rw [← copied]
    exact holds c v asked

/-- Two updates of different columns, in any order of their transactions, both arrive in the live
workflow and in its last version exactly if neither creates a version with a change while the
other has read the workflow and not created its own yet. -/
theorem updates_kept_iff {ι : Type} [DecidableEq ι] (desk : VersionDesk ι) (reached : desk.Reached)
    (wf : WorkflowDefinitionRow) (present : desk.store.workflow = some wf) (pair : Bool → ι)
    (distinct : pair true ≠ pair false) (bodies : Bool → UpdateWorkflowRequest)
    (actors : Bool → String) (allowed : ∀ which, wf.owner = "" ∨ wf.owner = actors which)
    (waiting : ∀ which, desk.sessions (pair which) = .update (bodies which) (actors which))
    (disjoint : ∀ c, (bodies true).column c = none ∨ (bodies false).column c = none)
    (turns : List Bool)
    (complete : ∀ which, (desk.after (turns.map fun which => .turn (pair which))
      turns.length).sessions (pair which) = .closed) :
    (∀ which, (desk.after (turns.map fun which => .turn (pair which))
      turns.length).store.HoldsUpdate (bodies which)) ↔
      ∀ n which, turns[n]? = some which →
        ¬ (desk.after (turns.map fun which => .turn (pair which)) n).Overtakes pair which := by
  have injective : Function.Injective pair := Bool.injective_iff.mpr distinct.symm
  have kept : desk.store.Kept wf := by
    obtain ⟨requests, acts, n, rfl⟩ := reached
    exact (sound_after requests acts n).kept present
  have editing : Editing pair bodies actors desk wf := by
    refine ⟨present, kept, allowed, ?_⟩
    intro which
    rw [waiting]
    exact .update
  have fresh : ∀ which, (desk.edited pair wf).edits which = .waiting := by
    intro which
    show (desk.sessions (pair which)).edit = .waiting
    rw [waiting]
    rfl
  have apart : ∀ which c, (bodies which).column c = none ∨ (bodies !which).column c = none := by
    intro which c
    cases which with
    | true => exact disjoint c
    | false => exact (disjoint c).symm
  obtain ⟨later, ended, same⟩ := editing.after injective turns turns.length
  have closed : ∀ which, ((desk.edited pair wf).after WorkflowColumn.covered
      (fun each => (bodies each).column) turns turns.length).edits which = .closed := by
    intro which
    rw [← same]
    show VersionSession.edit _ = .closed
    rw [complete]
    rfl
  have stored : ∃ row, (desk.after (turns.map fun which => .turn (pair which))
      turns.length).store.history.getLast? = some row := by
    cases Edited.copied_after WorkflowColumn.covered (fun each => (bodies each).column) fresh
        turns turns.length with
    | inl early =>
        cases early true with
        | inl waits => cases (closed true).symm.trans waits
        | inr reads =>
            obtain ⟨seen, reads⟩ := reads
            cases (closed true).symm.trans reads
    | inr copied =>
        have nodes := copied .nodes rfl
        rw [← same] at nodes
        apply Option.isSome_iff_exists.mp
        exact Option.isSome_of_isSome_bind nodes
  obtain ⟨row, last⟩ := stored
  have holds := Edited.holds_iff fresh apart closed
  calc
    _ ↔ ∀ which, ((desk.edited pair wf).after WorkflowColumn.covered
          (fun each => (bodies each).column) turns turns.length).Holds WorkflowColumn.covered
            (bodies which).column := by
      rw [← same]
      exact forall_congr' fun which => ended.holdsUpdate_iff last (bodies which)
    _ ↔ _ := holds
    _ ↔ _ := by
      apply forall_congr'
      intro n
      obtain ⟨now, still, so_far⟩ := editing.after injective turns n
      apply forall_congr'
      intro which
      rw [still.overtakes_iff which, so_far]

end

/-! A new workflow, where one request sets the metadata and another the nodes. -/

def bothEdits : Bool → UpdateWorkflowRequest
  | true =>
      { name := none, description := none, nodes := none, edges := none
        metadata := some (.dict [("team", .str "one")]), comment := none }
  | false =>
      { name := none, description := none, edges := none, metadata := none, comment := none
        nodes := some (.list [.dict
          [("id", .str "start"), ("name", .str "start"), ("node_type", .str "START"),
            ("handler", .str "start"), ("config", .dict []), ("retry_policy", .none),
            ("timeout_seconds", .none)]]) }

def editRequests : Option Bool → VersionSession
  | none => .create plainWorkflow "author" "default"
  | some which => .update (bothEdits which) "author"

def newWorkflow : VersionDesk (Option Bool) :=
  (VersionDesk.start editRequests).after [.turn none] 1

def oneByOne : List Bool := [true, true, true, false, false, false]

theorem oneByOne_kept_iff :
    (∀ which, (newWorkflow.after (oneByOne.map fun which => .turn (some which))
      oneByOne.length).store.HoldsUpdate (bothEdits which)) ↔
      ∀ n which, oneByOne[n]? = some which →
        ¬ (newWorkflow.after (oneByOne.map fun which => .turn (some which)) n).Overtakes some
          which :=
  updates_kept_iff newWorkflow ⟨editRequests, [.turn none], 1, rfl⟩
    (createWorkflow plainWorkflow "author" "default") rfl some (by decide) bothEdits
    (fun _ => "author") (fun _ => .inr rfl) (fun which => by cases which <;> rfl)
    (fun c => by cases c <;> decide) oneByOne (fun which => by cases which <;> rfl)

/-- Both read the new workflow; the version of the nodes, the last one, has the old metadata. -/
theorem interleaved_loses_metadata :
    ¬ ∀ which, (newWorkflow.after
      ([true, false, true, true, false, false].map fun which => .turn (some which))
        6).store.HoldsUpdate (bothEdits which) := by
  intro holds
  obtain ⟨wf, row, present, found, kept⟩ := holds true
  obtain rfl := Option.some.inj present
  obtain rfl := Except.ok.inj found
  have copied := (kept .metadata _ rfl).2 rfl
  revert copied
  decide

end SyndicateClaw.Services
