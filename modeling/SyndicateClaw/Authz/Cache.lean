import SyndicateClaw.Authz.Grants
import SyndicateClaw.Data.JsonSorted
import SyndicateClaw.Data.Sha256

/-! The permission cache of the evaluator: assignments as JSON in Redis, under a version of the
principal. -/

namespace SyndicateClaw.Authz

/-! ### Redis -/

structure RedisValue where
  value : List Char
  expires : Option Time

abbrev Redis := Dict String RedisValue

/-- `GET`, at a time of the server. -/
def Redis.get (store : Redis) (now : Time) (key : String) : Option (List Char) :=
  match Dict.get? store key with
  | none => none
  | some stored =>
      match stored.expires with
      | none => some stored.value
      | some expires => if now < expires then some stored.value else none

/-- `SET`, with the time at which the value expires for `EX`. -/
def Redis.set (store : Redis) (key : String) (value : List Char) (expires : Option Time) : Redis :=
  Dict.set store key { value, expires }

/-- What the client's `get` returns. -/
inductive Client where
  | str
  | bytes
  deriving DecidableEq

/-- A byte as `repr` of `bytes` spells it between its quotes. -/
def reprByte (quote : Nat) (byte : Nat) : List Char :=
  if byte = quote ∨ byte = 92 then ['\\', Char.ofNat byte]
  else if byte = 9 then ['\\', 't']
  else if byte = 10 then ['\\', 'n']
  else if byte = 13 then ['\\', 'r']
  else if 32 ≤ byte ∧ byte < 127 then [Char.ofNat byte]
  else ['\\', 'x', Nat.digitChar (byte / 16), Nat.digitChar (byte % 16)]

/-- `repr` of the bytes of a text. -/
def reprBytes (text : List Char) : List Char :=
  let bytes := text.flatMap Sha256.utf8
  let quote := if bytes.contains 39 && !bytes.contains 34 then 34 else 39
  ['b', Char.ofNat quote] ++ bytes.flatMap (reprByte quote) ++ [Char.ofNat quote]

/-- A reply of `get` in an f-string. -/
def Client.format (client : Client) (reply : List Char) : List Char :=
  match client with
  | .str => reply
  | .bytes => reprBytes reply

/-! ### Entries -/

def cacheTtl : Time := 60 * 1000000

def versionKey (principalId : String) : String := "rbac:version:" ++ principalId

def permsKey (principalId : String) (version : List Char) : String :=
  "rbac:perms:" ++ principalId ++ ":" ++ String.ofList version

/-- The dictionary without `expired`. -/
def Assignment.serializable (a : Assignment) : Json :=
  .obj [(String.text "assignment_id", .str (String.text a.assignmentId)),
    (String.text "role_id", .str (String.text a.roleId)),
    (String.text "role_name", .str (String.text a.roleName)),
    (String.text "scope_type", .str (String.text a.scopeType)),
    (String.text "scope_id", .str (String.text a.scopeId)),
    (String.text "source", .str (String.text a.source))]

/-- `json.dumps(serializable)`. -/
def dumpAssignments (assignments : List Assignment) : List Char :=
  Json.dump Json.spaced (.arr (assignments.map Assignment.serializable))

def ofText (text : Text) : String := String.ofList (text.map Char.ofNat)

def Assignment.field (entries : Dict Text Json) (key : String) : Option String :=
  match Dict.get? entries (String.text key) with
  | some (.str text) => some (ofText text)
  | _ => none

/-- An entry as the evaluator reads it; `none` where it raises. -/
def Assignment.ofJson? : Json → Option Assignment
  | .obj entries => do
      let expired := match Dict.get? entries (String.text "expired") with
        | some (.bool expired) => some expired
        | _ => none
      return { assignmentId := ← field entries "assignment_id", roleId := ← field entries "role_id"
               roleName := ← field entries "role_name", scopeType := ← field entries "scope_type"
               scopeId := ← field entries "scope_id", source := ← field entries "source", expired }
  | _ => none

def assignmentsOf? : Json → Option (List Assignment)
  | .arr items => items.mapM Assignment.ofJson?
  | _ => none

/-! ### The cached evaluation -/

section

variable (client : Client) (store : Redis) (now : Time) (principalId : String)

/-- `_cache_get`. -/
def cacheGet : Option Json :=
  match store.get now (versionKey principalId) with
  | none => none
  | some version =>
      match store.get now (permsKey principalId (client.format version)) with
      | none => none
      | some data =>
          match Json.loads id data with
          | .error _ | .ok .null => none
          | .ok document => some document

/-- `_cache_set`. -/
def cacheSet (assignments : List Assignment) : Redis :=
  match store.get now (versionKey principalId) with
  | some version =>
      store.set (permsKey principalId version) (dumpAssignments assignments) (some (now + cacheTtl))
  | none =>
      (store.set (versionKey principalId) ['1'] none).set (permsKey principalId ['1'])
        (dumpAssignments assignments) (some (now + cacheTtl))

end

/-- `evaluate` with Redis, whose clock shows `now`. -/
def evaluateCached (db : Database) (client : Client) (store : Redis) (now : Time)
    (principalId : Option String) (permission : String) (resourceScope : Option Scope)
    (clock : Clock) : Option AuthzResult × Redis :=
  match principalId with
  | none => (some (.denied .noPrincipal [] false), store)
  | some principalId =>
      let scope := resourceScope.getD .platform
      match checkDenies db principalId permission scope clock.denies with
      | [] =>
          match cacheGet client store now principalId with
          | some document =>
              ((assignmentsOf? document).bind fun assignments =>
                decideGrants db permission scope assignments true, store)
          | none =>
              let assignments := readAssignments db principalId clock.assignments
              (decideGrants db permission scope assignments false,
                cacheSet store now principalId assignments)
      | denies => (some (.denied .explicitDeny denies false), store)

inductive Produced (db : Database) (client : Client) : Redis → Prop where
  | empty : Produced db client []
  | evaluated {store : Redis} (produced : Produced db client store) (now : Time)
      (principalId : Option String) (permission : String) (resourceScope : Option Scope)
      (clock : Clock) :
      Produced db client
        (evaluateCached db client store now principalId permission resourceScope clock).2

/-! ### What is stored -/

/-- The assignments of a principal without the key `expired`. -/
def storedAssignments (db : Database) (principalId : String) : List Assignment :=
  (resolvePermissions db principalId).map fun row => { row.read 0 with expired := none }

theorem ofText_text (s : String) : ofText (String.text s) = s := by
  unfold ofText String.text
  rw [List.map_map]
  have same : Char.ofNat ∘ Char.toNat = id := funext Char.ofNat_toNat
  rw [same, List.map_id, String.ofList_toList]

theorem ofJson?_serializable (a : Assignment) :
    Assignment.ofJson? a.serializable = some { a with expired := none } := by
  have read : Assignment.ofJson? a.serializable =
      some { assignmentId := ofText (String.text a.assignmentId)
             roleId := ofText (String.text a.roleId)
             roleName := ofText (String.text a.roleName)
             scopeType := ofText (String.text a.scopeType)
             scopeId := ofText (String.text a.scopeId)
             source := ofText (String.text a.source), expired := none } := rfl
  rw [read]
  simp only [ofText_text]

theorem assignmentsOf?_stored (assignments : List Assignment) :
    assignmentsOf? (.arr (assignments.map Assignment.serializable)) =
      some (assignments.map fun a => { a with expired := none }) := by
  show (assignments.map Assignment.serializable).mapM Assignment.ofJson? = _
  induction assignments with
  | nil => rfl
  | cons a rest ih =>
      rw [List.map_cons, List.mapM_cons, ofJson?_serializable, ih]
      rfl

theorem proper_serializable (a : Assignment) : a.serializable.Proper id := by
  have distinct : (["assignment_id", "role_id", "role_name", "scope_type", "scope_id",
      "source"].map String.text).Nodup := by decide
  unfold Assignment.serializable
  exact ⟨distinct, Json.properText_text _, Json.properText_text _, Json.properText_text _,
    Json.properText_text _, Json.properText_text _, Json.properText_text _,
    Json.properText_text _, Json.properText_text _, Json.properText_text _,
    Json.properText_text _, Json.properText_text _, Json.properText_text _, trivial⟩

theorem loads_dumpAssignments (assignments : List Assignment) :
    Json.loads id (dumpAssignments assignments) =
      .ok (.arr (assignments.map Assignment.serializable)) := by
  apply Json.loads_dump Json.readable_spaced
  · show Json.ProperItems id (assignments.map Assignment.serializable)
    induction assignments with
    | nil => trivial
    | cons a rest ih => exact ⟨proper_serializable a, ih⟩
  · show Json.printableItems (assignments.map Assignment.serializable) = true
    induction assignments with
    | nil => rfl
    | cons a rest ih =>
        rw [List.map_cons, Json.printableItems, ih]
        rfl

/-! ### The store behind earlier evaluations -/

/-- Only versions `1`, and under them the assignments of the database. -/
structure Filled (db : Database) (store : Redis) : Prop where
  filled : ∀ key stored, Dict.get? store key = some stored →
    (∃ principalId, key = versionKey principalId ∧ stored.value = ['1']) ∨
      ∃ principalId, key = permsKey principalId ['1'] ∧
        stored.value = dumpAssignments (storedAssignments db principalId)

theorem dumpAssignments_read (db : Database) (principalId : String) (now : Time) :
    dumpAssignments (readAssignments db principalId now) =
      dumpAssignments (storedAssignments db principalId) := by
  unfold dumpAssignments readAssignments storedAssignments
  rw [List.map_map, List.map_map]
  rfl

theorem versionKey_ne_permsKey (principalId other : String) (version : List Char) :
    versionKey principalId ≠ permsKey other version := by
  intro same
  have chars := congrArg (fun key => (String.toList key).drop 5 |>.head?) same
  simp [versionKey, permsKey] at chars

theorem permsKey_inj {principalId other : String} {version : List Char}
    (same : permsKey principalId version = permsKey other version) : principalId = other := by
  unfold permsKey at same
  rw [String.append_left_inj, String.append_left_inj, String.append_right_inj] at same
  exact same

theorem permsKey_bytes (principalId other : String) :
    permsKey principalId (Client.bytes.format ['1']) ≠ permsKey other ['1'] := by
  intro same
  have format : Client.bytes.format ['1'] = ['b', '\'', '1', '\''] := by decide
  have chars := congrArg (fun key => (String.toList key).reverse.head?) same
  rw [format] at chars
  simp [permsKey] at chars

section

variable {db : Database} {client : Client} {store : Redis} {now : Time}

theorem get_stored {key : String} {value : List Char} (found : store.get now key = some value) :
    ∃ stored, Dict.get? store key = some stored ∧ stored.value = value := by
  unfold Redis.get at found
  split at found
  · cases found
  next stored known =>
  split at found
  · exact ⟨stored, known, Option.some.inj found⟩
  split at found
  · exact ⟨stored, known, Option.some.inj found⟩
  · cases found

theorem Filled.set (filled : Filled db store) {key : String} {value : List Char}
    (expires : Option Time)
    (own : (∃ principalId, key = versionKey principalId ∧ value = ['1']) ∨
      ∃ principalId, key = permsKey principalId ['1'] ∧
        value = dumpAssignments (storedAssignments db principalId)) :
    Filled db (store.set key value expires) := by
  refine ⟨fun other stored found => ?_⟩
  unfold Redis.set at found
  rw [Dict.get?_set] at found
  split at found
  · next same =>
      obtain rfl := Option.some.inj found
      rw [same]
      exact own
  · exact filled.filled other stored found

theorem Filled.version (filled : Filled db store) {principalId : String} {version : List Char}
    (found : store.get now (versionKey principalId) = some version) : version = ['1'] := by
  obtain ⟨stored, known, rfl⟩ := get_stored found
  rcases filled.filled _ _ known with ⟨-, -, one⟩ | ⟨other, same, -⟩
  · exact one
  · exact absurd same (versionKey_ne_permsKey _ _ _)

theorem Filled.cacheSet (filled : Filled db store) (principalId : String) (read : Time) :
    Filled db (cacheSet store now principalId (readAssignments db principalId read)) := by
  unfold Authz.cacheSet
  rw [dumpAssignments_read]
  split
  · next version found =>
      rw [filled.version found]
      exact filled.set _ (.inr ⟨principalId, rfl, rfl⟩)
  · exact (filled.set _ (.inl ⟨principalId, rfl, rfl⟩)).set _ (.inr ⟨principalId, rfl, rfl⟩)

theorem Produced.filled (produced : Produced db client store) : Filled db store := by
  induction produced with
  | empty => exact ⟨nofun⟩
  | @evaluated store produced now principalId permission resourceScope clock ih =>
      unfold evaluateCached
      cases principalId with
      | none => exact ih
      | some principalId =>
          dsimp only
          split
          · split
            · exact ih
            · exact ih.cacheSet principalId _
          · exact ih

theorem cacheGet_hit (filled : Filled db store) {principalId : String} {document : Json}
    (hit : cacheGet client store now principalId = some document) :
    assignmentsOf? document = some (storedAssignments db principalId) := by
  unfold cacheGet at hit
  split at hit
  · cases hit
  next version found =>
  obtain rfl := filled.version found
  split at hit
  · cases hit
  next data stored =>
  obtain ⟨entry, known, rfl⟩ := get_stored stored
  rcases filled.filled _ _ known with ⟨other, same, -⟩ | ⟨other, same, value⟩
  · exact absurd same.symm (versionKey_ne_permsKey _ _ _)
  · cases client with
    | bytes => exact absurd same (permsKey_bytes principalId other)
    | str =>
        obtain rfl := permsKey_inj same
        rw [value, loads_dumpAssignments] at hit
        obtain rfl := Option.some.inj hit
        rw [assignmentsOf?_stored, storedAssignments, List.map_map]
        rfl

theorem cacheGet_bytes (filled : Filled db store) (principalId : String) :
    cacheGet .bytes store now principalId = none := by
  unfold cacheGet
  split
  · rfl
  next version found =>
  obtain rfl := filled.version found
  split
  · rfl
  next data stored =>
  obtain ⟨entry, known, -⟩ := get_stored stored
  rcases filled.filled _ _ known with ⟨other, same, -⟩ | ⟨other, same, -⟩
  · exact absurd same.symm (versionKey_ne_permsKey _ _ _)
  · exact absurd same (permsKey_bytes principalId other)

end

end SyndicateClaw.Authz
