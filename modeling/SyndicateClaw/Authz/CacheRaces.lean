import SyndicateClaw.Async.Crew
import SyndicateClaw.Authz.Cache
import SyndicateClaw.Authz.ScopeIsolation

/-! Evaluations that share the cache of a principal, while an assignment is revoked and the version
is changed behind it. The version a list is stored under is read after the list. -/

namespace SyndicateClaw.Authz

open Async (Crew Act Outline)

/-- A list of assignments, and whether it was read after the revocation. -/
structure Reading where
  assignments : List Assignment
  after : Bool

/-- Where an evaluation is; `late` is one that began after the change of the version. -/
inductive Phase where
  | idle
  | versioning (late : Bool)
  | fetching (late : Bool) (version : List Char)
  | querying (late : Bool)
  | stamping (late : Bool) (reading : Reading)
  | numbering (late : Bool) (reading : Reading)
  | filing (late : Bool) (version : List Char) (reading : Reading)
  | used (late : Bool) (reading : Reading)
  | ended

/-- The database and Redis. `origin` tells of the lists in Redis whether they were read after the
revocation. -/
structure Deployment where
  db : Database
  clock : Time
  store : Redis
  revoked : Bool
  announced : Bool
  origin : String → Bool

/-- What a command meets: an answer, at a reading of `time.time()`, or an error. -/
inductive Outcome where
  | answers (now : Time)
  | fails

inductive Change where
  | tick (later : Time)
  | write (db : Database)
  | revoke (db : Database)
  | announce (version : List Char)

/-- An entry as it is read: a null is a miss, and what is no list of assignments raises. -/
def fetched (late : Bool) (data : List Char) (after : Bool) : Phase :=
  match Json.loads id data with
  | .error _ | .ok .null => .querying late
  | .ok document =>
      match assignmentsOf? document with
      | some assignments => .used late { assignments, after }
      | none => .ended

section

variable (client : Client) (principalId : String)

/-- The next command of an evaluation: `_cache_get`, the query, `_cache_set`. -/
def advance (outcome : Outcome) (s : Deployment) : Phase → Deployment × Phase
  | .idle => (s, .versioning s.announced)
  | .versioning late =>
      match outcome with
      | .fails => (s, .querying late)
      | .answers _ =>
          match s.store.get s.clock (versionKey principalId) with
          | none => (s, .querying late)
          | some version => (s, .fetching late version)
  | .fetching late version =>
      match outcome with
      | .fails => (s, .querying late)
      | .answers _ =>
          match s.store.get s.clock (permsKey principalId (client.format version)) with
          | none => (s, .querying late)
          | some data =>
              (s, fetched late data (s.origin (permsKey principalId (client.format version))))
  | .querying late =>
      match outcome with
      | .fails => (s, .ended)
      | .answers now =>
          (s, .stamping late
            { assignments := readAssignments s.db principalId now, after := s.revoked })
  | .stamping late reading =>
      match outcome with
      | .fails => (s, .used late reading)
      | .answers _ =>
          match s.store.get s.clock (versionKey principalId) with
          | none => (s, .numbering late reading)
          | some version => (s, .filing late version reading)
  | .numbering late reading =>
      match outcome with
      | .fails => (s, .used late reading)
      | .answers _ =>
          ({ s with store := s.store.set (versionKey principalId) ['1'] none },
            .filing late ['1'] reading)
  | .filing late version reading =>
      match outcome with
      | .fails => (s, .used late reading)
      | .answers _ =>
          let key := permsKey principalId version
          ({ s with
              store := s.store.set key (dumpAssignments reading.assignments)
                (some (s.clock + cacheTtl))
              origin := Function.update s.origin key reading.after }, .used late reading)
  | .used late reading => (s, .used late reading)
  | .ended => (s, .ended)

/-- The revocation commits, and then the version is set to a new one, under which no list is
found. -/
def Change.apply : Change → Deployment → Deployment
  | .tick later, s => { s with clock := max s.clock later }
  | .write db, s => { s with db }
  | .revoke db, s => { s with db, revoked := true }
  | .announce version, s =>
      if s.revoked = true ∧ s.announced = false ∧
          Dict.get? s.store (permsKey principalId (client.format version)) = none then
        { s with store := s.store.set (versionKey principalId) version none, announced := true }
      else s

abbrev Evaluations (ι : Type) := Crew ι Deployment Phase

abbrev Evaluations.run {ι : Type} [DecidableEq ι] (evaluations : Evaluations ι)
    (acts : List (Act ι Outcome Change)) (n : Nat) : Evaluations ι :=
  Crew.after (fun _ => advance client principalId) (Change.apply client principalId) evaluations
    acts n

/-- Whoever began after the change of the version works with a list read after the revocation. -/
def Effective {ι : Type} (evaluations : Evaluations ι) : Prop :=
  ∀ i reading, evaluations.phase i = .used true reading → reading.after = true

/-- After the change of the version it is not set to `1` over another, and no list read before the
revocation is stored where the present version leads. -/
def Careful (s : Deployment) (outcome : Outcome) (phase : Phase) : Prop :=
  s.announced = true → outcome ≠ .fails →
    match phase with
    | .numbering _ _ => s.store.get s.clock (versionKey principalId) = some ['1']
    | .filing _ version reading => reading.after = false →
        ∀ current, s.store.get s.clock (versionKey principalId) = some current →
          permsKey principalId version ≠ permsKey principalId (client.format current)
    | _ => True

def CarefulAct {ι : Type} (evaluations : Evaluations ι) : Act ι Outcome Change → Prop
  | .own i outcome => Careful client principalId evaluations.shared outcome (evaluations.phase i)
  | .outside _ => True

/-! ### One evaluation alone -/

section

variable (client : Client) (principalId : String) (s : Deployment) (late : Bool) (now : Time)

def advanceAlone (state : Deployment × Phase) : Deployment × Phase :=
  advance client principalId (.answers now) state.1 state.2

/-- Alone, an evaluation that hits reads what `cacheGet` does. -/
theorem alone_hit {document : Json} {assignments : List Assignment}
    (hit : cacheGet client s.store s.clock principalId = some document)
    (listed : assignmentsOf? document = some assignments) :
    ∃ after, (advanceAlone client principalId now)^[2] (s, .versioning late) =
      (s, .used late { assignments, after }) := by
  unfold cacheGet at hit
  split at hit
  · cases hit
  next version found =>
  split at hit
  · cases hit
  next data stored =>
  split at hit
  · cases hit
  · cases hit
  next read notNull loaded =>
  obtain rfl := Option.some.inj hit
  refine ⟨s.origin (permsKey principalId (client.format version)), ?_⟩
  simp only [Function.iterate_succ, Function.iterate_zero, Function.comp, id, advanceAlone, advance,
    found, stored, fetched, loaded, listed]

/-- Alone, one that misses reads the database and leaves what `cacheSet` does. -/
theorem alone_miss (miss : cacheGet client s.store s.clock principalId = none) :
    ∃ origin, (advanceAlone client principalId now)^[5] (s, .versioning late) =
      ({ s with
          store := cacheSet s.store s.clock principalId (readAssignments s.db principalId now)
          origin },
        .used late
          { assignments := readAssignments s.db principalId now, after := s.revoked }) := by
  unfold cacheGet at miss
  unfold cacheSet
  cases found : s.store.get s.clock (versionKey principalId) with
  | none =>
      refine ⟨Function.update s.origin (permsKey principalId ['1']) s.revoked, ?_⟩
      simp only [Function.iterate_succ, Function.iterate_zero, Function.comp, id, advanceAlone,
        advance, found]
  | some version =>
      rw [found] at miss
      refine ⟨Function.update s.origin (permsKey principalId version) s.revoked, ?_⟩
      cases stored : s.store.get s.clock (permsKey principalId (client.format version)) with
      | none =>
          simp only [Function.iterate_succ, Function.iterate_zero, Function.comp, id, advanceAlone,
            advance, found, stored]
      | some data =>
          have unread (after : Bool) : fetched late data after = .querying late := by
            simp only [stored] at miss
            unfold fetched
            cases loaded : Json.loads id data with
            | error error => rfl
            | ok document =>
                rw [loaded] at miss
                cases document with
                | null => rfl
                | bool _ | int _ | float _ | str _ | arr _ | obj _ => cases miss
          simp only [Function.iterate_succ, Function.iterate_zero, Function.comp, id, advanceAlone,
            advance, found, stored, unread]

end

/-! ### The invariant -/

/-- This version stays, and what it leads to was read after the revocation. -/
structure Guarded (s : Deployment) (version : List Char) : Prop where
  cell : Dict.get? s.store (versionKey principalId) = some { value := version, expires := none }
  fresh : ∀ stored, Dict.get? s.store (permsKey principalId (client.format version)) = some stored →
    s.origin (permsKey principalId (client.format version)) = true

def Settled (s : Deployment) : Prop :=
  s.announced = true → s.revoked = true ∧ ∃ version, Guarded client principalId s version

/-- What a late evaluation knows: the present version, or that its list is of after the
revocation. -/
def Knows (s : Deployment) : Phase → Prop
  | .idle | .ended => True
  | .versioning late | .querying late => late = true → s.announced = true
  | .fetching late version => late = true → s.announced = true ∧
      Dict.get? s.store (versionKey principalId) = some { value := version, expires := none }
  | .stamping late reading | .numbering late reading | .filing late _ reading
  | .used late reading => late = true → s.announced = true ∧ reading.after = true

def Onward (s s' : Deployment) : Prop :=
  s.announced = true → s'.announced = true ∧
    Dict.get? s'.store (versionKey principalId) = Dict.get? s.store (versionKey principalId)

end

section

variable {client : Client} {principalId : String} {s s' : Deployment} {outcome : Outcome}
  {phase : Phase}

theorem Onward.refl (s : Deployment) : Onward principalId s s := fun announced => ⟨announced, rfl⟩

theorem Knows.onward (knows : Knows principalId s phase) (onward : Onward principalId s s') :
    Knows principalId s' phase := by
  cases phase with
  | idle => trivial
  | ended => trivial
  | versioning late => exact fun begun => (onward (knows begun)).1
  | querying late => exact fun begun => (onward (knows begun)).1
  | fetching late version =>
      intro begun
      obtain ⟨announced, cell⟩ := knows begun
      obtain ⟨still, same⟩ := onward announced
      exact ⟨still, same.trans cell⟩
  | stamping late reading => exact fun begun => ⟨(onward (knows begun).1).1, (knows begun).2⟩
  | numbering late reading => exact fun begun => ⟨(onward (knows begun).1).1, (knows begun).2⟩
  | filing late version reading =>
      exact fun begun => ⟨(onward (knows begun).1).1, (knows begun).2⟩
  | used late reading => exact fun begun => ⟨(onward (knows begun).1).1, (knows begun).2⟩

theorem Guarded.get {version : List Char} (guarded : Guarded client principalId s version) :
    s.store.get s.clock (versionKey principalId) = some version := by
  unfold Redis.get
  rw [guarded.cell]

theorem get?_set_version (store : Redis) (version : List Char) :
    Dict.get? (store.set (versionKey principalId) version none) (versionKey principalId) =
      some { value := version, expires := none } :=
  Dict.get?_set_self _ _ _

theorem get?_set_entry (store : Redis) (version data : List Char) (expires : Option Time) :
    Dict.get? (store.set (permsKey principalId version) data expires) (versionKey principalId) =
      Dict.get? store (versionKey principalId) :=
  Dict.get?_set_of_ne _ _ (versionKey_ne_permsKey _ _ _)

theorem get?_keep_entry (store : Redis) (version data : List Char) (expires : Option Time) :
    Dict.get? (store.set (versionKey principalId) data expires) (permsKey principalId version) =
      Dict.get? store (permsKey principalId version) :=
  Dict.get?_set_of_ne _ _ (versionKey_ne_permsKey _ _ _).symm

/-- Only two commands write: the version `1`, and a list under a version. -/
theorem advance_cases (client : Client) (principalId : String) (outcome : Outcome)
    (s : Deployment) (phase : Phase) :
    (advance client principalId outcome s phase).1 = s ∨
    (outcome ≠ .fails ∧ (∃ late reading, phase = .numbering late reading) ∧
      (advance client principalId outcome s phase).1 =
        { s with store := s.store.set (versionKey principalId) ['1'] none }) ∨
    ∃ late version reading, outcome ≠ .fails ∧ phase = .filing late version reading ∧
      (advance client principalId outcome s phase).1 =
        { s with
          store := s.store.set (permsKey principalId version)
            (dumpAssignments reading.assignments) (some (s.clock + cacheTtl))
          origin := Function.update s.origin (permsKey principalId version) reading.after } := by
  cases phase with
  | idle => exact .inl rfl
  | ended => exact .inl rfl
  | used late reading => exact .inl rfl
  | versioning late =>
      left
      unfold advance
      cases outcome with
      | fails => rfl
      | answers now => dsimp only; split <;> rfl
  | fetching late version =>
      left
      unfold advance
      cases outcome with
      | fails => rfl
      | answers now => dsimp only; split <;> rfl
  | querying late => cases outcome <;> exact .inl rfl
  | stamping late reading =>
      left
      unfold advance
      cases outcome with
      | fails => rfl
      | answers now => dsimp only; split <;> rfl
  | numbering late reading =>
      cases outcome with
      | fails => exact .inl rfl
      | answers now => exact .inr (.inl ⟨nofun, ⟨late, reading, rfl⟩, rfl⟩)
  | filing late version reading =>
      cases outcome with
      | fails => exact .inl rfl
      | answers now => exact .inr (.inr ⟨late, version, reading, nofun, rfl, rfl⟩)

theorem advance_onward (settled : Settled client principalId s)
    (careful : Careful client principalId s outcome phase) :
    Onward principalId s (advance client principalId outcome s phase).1 := by
  rcases advance_cases client principalId outcome s phase with
    same | ⟨answered, ⟨late, reading, rfl⟩, written⟩ |
      ⟨late, version, reading, answered, rfl, written⟩
  · rw [same]
    exact .refl s
  · rw [written]
    intro announced
    obtain ⟨-, version, guarded⟩ := settled announced
    have one : some version = some ['1'] := guarded.get.symm.trans (careful announced answered)
    refine ⟨announced, ?_⟩
    rw [get?_set_version, guarded.cell, Option.some.inj one]
  · rw [written]
    intro announced
    exact ⟨announced, get?_set_entry _ _ _ _⟩

theorem advance_settled (settled : Settled client principalId s)
    (careful : Careful client principalId s outcome phase) :
    Settled client principalId (advance client principalId outcome s phase).1 := by
  rcases advance_cases client principalId outcome s phase with
    same | ⟨answered, ⟨late, reading, rfl⟩, written⟩ |
      ⟨late, version, reading, answered, rfl, written⟩
  · rw [same]
    exact settled
  · rw [written]
    intro announced
    obtain ⟨revoked, version, guarded⟩ := settled announced
    have one : some version = some ['1'] := guarded.get.symm.trans (careful announced answered)
    obtain rfl := Option.some.inj one
    refine ⟨revoked, ['1'], get?_set_version _ _, fun stored found => ?_⟩
    rw [get?_keep_entry] at found
    exact guarded.fresh stored found
  · rw [written]
    intro announced
    obtain ⟨revoked, current, guarded⟩ := settled announced
    refine ⟨revoked, current, (get?_set_entry _ _ _ _).trans guarded.cell, fun stored found => ?_⟩
    show Function.update s.origin (permsKey principalId version) reading.after _ = true
    by_cases same : permsKey principalId (client.format current) = permsKey principalId version
    · rw [same, Function.update_self]
      by_contra before
      rw [Bool.not_eq_true] at before
      exact careful announced answered before current guarded.get same.symm
    · rw [Function.update_of_ne same]
      have kept := (Dict.get?_set_of_ne s.store
        { value := dumpAssignments reading.assignments, expires := some (s.clock + cacheTtl) }
        same).symm
      exact guarded.fresh stored (kept.trans found)

theorem knows_fetched {late after : Bool} {data : List Char}
    (fresh : late = true → s.announced = true ∧ after = true) :
    Knows principalId s (fetched late data after) := by
  unfold fetched
  split
  · exact fun begun => (fresh begun).1
  · exact fun begun => (fresh begun).1
  split
  · exact fresh
  · trivial

theorem advance_knows (settled : Settled client principalId s)
    (careful : Careful client principalId s outcome phase)
    (knows : Knows principalId s phase) :
    Knows principalId (advance client principalId outcome s phase).1
      (advance client principalId outcome s phase).2 := by
  have onward := advance_onward settled careful
  cases phase with
  | idle => exact id
  | ended => trivial
  | used late reading => exact knows
  | versioning late =>
      cases outcome with
      | fails => exact knows
      | answers now =>
          unfold advance
          cases found : s.store.get s.clock (versionKey principalId) with
          | none => exact knows
          | some version =>
              intro begun
              obtain ⟨-, current, guarded⟩ := settled (knows begun)
              have same : some version = some current := found.symm.trans guarded.get
              rw [Option.some.inj same]
              exact ⟨knows begun, guarded.cell⟩
  | fetching late version =>
      cases outcome with
      | fails => exact fun begun => (knows begun).1
      | answers now =>
          unfold advance
          dsimp only
          cases found : s.store.get s.clock (permsKey principalId (client.format version)) with
          | none => exact fun begun => (knows begun).1
          | some data =>
              refine knows_fetched fun begun => ?_
              obtain ⟨announced, cell⟩ := knows begun
              obtain ⟨-, current, guarded⟩ := settled announced
              have same := cell.symm.trans guarded.cell
              rw [Option.some.injEq, RedisValue.mk.injEq] at same
              obtain ⟨rfl, -⟩ := same
              obtain ⟨stored, present, -⟩ := get_stored found
              exact ⟨announced, guarded.fresh stored present⟩
  | querying late =>
      cases outcome with
      | fails => trivial
      | answers now => exact fun begun => ⟨knows begun, (settled (knows begun)).1⟩
  | stamping late reading =>
      cases outcome with
      | fails => exact knows
      | answers now =>
          unfold advance
          cases s.store.get s.clock (versionKey principalId) <;> exact knows
  | numbering late reading =>
      cases outcome with
      | fails => exact knows
      | answers now => exact fun begun => ⟨(onward (knows begun).1).1, (knows begun).2⟩
  | filing late version reading =>
      cases outcome with
      | fails => exact knows
      | answers now => exact fun begun => ⟨(onward (knows begun).1).1, (knows begun).2⟩

/-! ### Changes from outside -/

theorem apply_onward (s : Deployment) (change : Change) :
    Onward principalId s (change.apply client principalId s) := by
  cases change with
  | tick later => exact fun announced => ⟨announced, rfl⟩
  | write db => exact fun announced => ⟨announced, rfl⟩
  | revoke db => exact fun announced => ⟨announced, rfl⟩
  | announce version =>
      intro announced
      unfold Change.apply
      dsimp only
      rw [if_neg (by simp [announced])]
      exact ⟨announced, rfl⟩

theorem apply_settled (settled : Settled client principalId s) (change : Change) :
    Settled client principalId (change.apply client principalId s) := by
  cases change with
  | tick later =>
      intro announced
      obtain ⟨revoked, version, guarded⟩ := settled announced
      exact ⟨revoked, version, guarded.cell, guarded.fresh⟩
  | write db =>
      intro announced
      obtain ⟨revoked, version, guarded⟩ := settled announced
      exact ⟨revoked, version, guarded.cell, guarded.fresh⟩
  | revoke db =>
      intro announced
      obtain ⟨revoked, version, guarded⟩ := settled announced
      exact ⟨rfl, version, guarded.cell, guarded.fresh⟩
  | announce version =>
      unfold Change.apply
      dsimp only
      split
      · next enabled =>
          obtain ⟨revoked, -, unused⟩ := enabled
          refine fun _ => ⟨revoked, version, get?_set_version _ _, fun stored found => ?_⟩
          rw [get?_keep_entry, unused] at found
          cases found
      · exact settled

end

section

variable {ι : Type} (client : Client) (principalId : String)

theorem outline : Outline (ι := ι) (fun _ => advance client principalId)
    (Change.apply client principalId) (CarefulAct client principalId)
    (Settled client principalId) (fun _ => Knows principalId) where
  kept _ _ _ holds careful := advance_settled holds.shared careful
  own _ i _ holds careful := advance_knows holds.shared careful (holds.worker i)
  others _ _ _ holds careful j _ :=
    (holds.worker j).onward (advance_onward holds.shared careful)
  outside _ change holds _ := apply_settled holds.shared change
  undisturbed _ change holds _ j := (holds.worker j).onward (apply_onward _ change)

/-- Where every step is careful, the invalidation is effective in every state that is reached. -/
theorem invalidation_effective [DecidableEq ι] (start : Evaluations ι) (idle : ∀ i, start.phase i = .idle)
    (before : start.shared.announced = false) (acts : List (Act ι Outcome Change))
    (careful : ∀ n act, acts[n]? = some act →
      CarefulAct client principalId (start.run client principalId acts n) act) (n : Nat) :
    Effective (start.run client principalId acts n) := by
  have first : start.Holds (Settled client principalId) (fun _ => Knows principalId) := by
    constructor
    · intro announced
      rw [before] at announced
      cases announced
    · intro i
      rw [idle i]
      trivial
  have holds := (outline client principalId).holds first acts careful n
  intro i reading used
  have knows := holds.worker i
  rw [used] at knows
  exact (knows rfl).2

end

/-! ### A slow evaluation -/

theorem fetched_dump (late after : Bool) (assignments : List Assignment) :
    fetched late (dumpAssignments assignments) after =
      .used late { assignments := assignments.map fun a => { a with expired := none }, after } := by
  unfold fetched
  rw [loads_dumpAssignments]
  simp only [assignmentsOf?_stored]

/-- The role of a reader is assigned to alice, whose permissions have version `1`. -/
def readerDeployment : Evaluations Bool where
  shared :=
    { db := oneRole.assign (readerAt .platform), clock := 0
      store := Redis.set [] (versionKey "alice") ['1'] none, revoked := false, announced := false
      origin := fun _ => false }
  phase _ := .idle

def promptEvaluation : List (Act Bool Outcome Change) :=
  [.outside (.revoke oneRole), .outside (.announce ['2']), .own true (.answers 0),
    .own true (.answers 0), .own true (.answers 0), .own true (.answers 0),
    .own true (.answers 0), .own true (.answers 0)]

def slowEvaluation : List (Act Bool Outcome Change) :=
  [.own false (.answers 0), .own false (.answers 0), .own false (.answers 0),
    .own false (.answers 0), .outside (.revoke oneRole), .outside (.announce ['2']),
    .own false (.answers 0), .own false (.answers 0), .own true (.answers 0),
    .own true (.answers 0), .own true (.answers 0)]

theorem prompt_careful (n : Nat) (act : Act Bool Outcome Change)
    (present : promptEvaluation[n]? = some act) :
    CarefulAct .str "alice" (readerDeployment.run .str "alice" promptEvaluation n) act := by
  have apart (version : List Char) : permsKey "alice" version ≠ versionKey "alice" :=
    (versionKey_ne_permsKey _ _ _).symm
  rcases n with _ | _ | _ | _ | _ | _ | _ | _ | n
  all_goals
    simp only [promptEvaluation, List.getElem?_cons_zero, List.getElem?_cons_succ,
      List.getElem?_nil, Option.some.injEq, reduceCtorEq] at present
  all_goals
    subst present
    simp [CarefulAct, Careful, readerDeployment, promptEvaluation, Async.stateAfter, Crew.step,
      advance, Change.apply, Redis.get, Redis.set, Dict.get?_set, Client.format, apart]

theorem prompt_effective :
    Effective (readerDeployment.run .str "alice" promptEvaluation 8) :=
  invalidation_effective .str "alice" readerDeployment (fun _ => rfl) rfl promptEvaluation
    prompt_careful 8

theorem slow_run :
    (readerDeployment.run .str "alice" slowEvaluation 11).phase true =
      .used true
        { assignments := storedAssignments (oneRole.assign (readerAt .platform)) "alice"
          after := false } := by
  have apart (version : List Char) : permsKey "alice" version ≠ versionKey "alice" :=
    (versionKey_ne_permsKey _ _ _).symm
  have apart' (version : List Char) : versionKey "alice" ≠ permsKey "alice" version :=
    versionKey_ne_permsKey _ _ _
  simp [readerDeployment, slowEvaluation, Async.stateAfter, Crew.step, advance, Change.apply,
    Redis.get, Redis.set, Dict.get?_set, Client.format, apart, apart', cacheTtl, fetched_dump]
  rfl

/-- The list of before the revocation is stored under the version of after it, and grants. -/
theorem stale_list_survives :
    (∀ i, readerDeployment.phase i = .idle) ∧ readerDeployment.shared.announced = false ∧
    ¬ Effective (readerDeployment.run .str "alice" slowEvaluation 11) ∧
    (decideGrants oneRole "run:read" .platform
      (storedAssignments (oneRole.assign (readerAt .platform)) "alice") true).map
        AuthzResult.decision = some .allow := by
  refine ⟨fun _ => rfl, rfl, fun effective => ?_, by decide⟩
  have fresh := effective true _ slow_run
  cases fresh

end SyndicateClaw.Authz
