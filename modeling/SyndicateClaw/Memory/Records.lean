import Mathlib.Data.Option.Basic
import SyndicateClaw.Authz.Evaluator
import SyndicateClaw.Data.Keyed
import SyndicateClaw.Orchestrator.Condition
import SyndicateClaw.Tools.Checks

/-! Memory records: the rows of `memory_records` and what the service makes of them. -/

namespace SyndicateClaw.Memory

open Authz (Time)

open Orchestrator

inductive MemoryType where
  | episodic | semantic | structured
  deriving DecidableEq

inductive DeletionStatus where
  | active | markedForDeletion | deleted
  deriving DecidableEq

structure MemoryLineage where
  parentIds : List String := []
  workflowRunId : Option String := none
  nodeExecutionId : Option String := none
  toolName : Option String := none
  derivationMethod : Option String := none
  deriving DecidableEq

/-- A row, with the columns that are not set to constants. -/
structure MemoryRow where
  id : String
  namespaceName : String
  key : String
  value : Value
  memoryType : MemoryType
  source : Option String
  actor : Option String
  confidence : Option Rat
  accessPolicy : String
  lineage : State
  ttlSeconds : Option Int
  expiresAt : Option Time
  deletionStatus : DeletionStatus
  deletedAt : Option Time
  tags : State
  createdAt : Time
  updatedAt : Time
  deriving DecidableEq

/-- `MemoryRecord` of the domain. -/
structure MemoryRecord where
  id : String
  namespaceName : String
  key : String
  value : Value
  memoryType : MemoryType
  source : String
  actor : String
  confidence : Rat
  accessPolicy : String
  lineage : MemoryLineage
  ttlSeconds : Option Int
  expiresAt : Option Time
  deletionStatus : DeletionStatus
  deletedAt : Option Time
  tags : Dict String String
  createdAt : Time
  updatedAt : Time
  deriving DecidableEq

abbrev MemoryTable := Keyed MemoryRow.id

/-! ### Lineage -/

namespace MemoryLineage

def textField (data : State) (field : String) : Option (Option String) :=
  match Dict.get? data field with
  | none | some .none => some none
  | some value => value.asStr?.map some

/-- `MemoryLineage(**data)`; `none` where the validation raises. -/
def ofDict? (data : State) : Option MemoryLineage := do
  let parentIds ← match Dict.get? data "parent_ids" with
    | none => some []
    | some value => value.asList?.bind fun items => items.mapM Value.asStr?
  let workflowRunId ← textField data "workflow_run_id"
  let nodeExecutionId ← textField data "node_execution_id"
  let toolName ← textField data "tool_name"
  let derivationMethod ← textField data "derivation_method"
  return { parentIds, workflowRunId, nodeExecutionId, toolName, derivationMethod }

def textValue : Option String → Value
  | none => .none
  | some text => .str text

/-- `lineage.model_dump()`. -/
def modelDump (lineage : MemoryLineage) : State :=
  [("parent_ids", .list (lineage.parentIds.map .str)),
    ("workflow_run_id", textValue lineage.workflowRunId),
    ("node_execution_id", textValue lineage.nodeExecutionId),
    ("tool_name", textValue lineage.toolName),
    ("derivation_method", textValue lineage.derivationMethod)]

theorem textField_dump (text : Option String) (data : State) (field : String)
    (found : Dict.get? data field = some (textValue text)) : textField data field = some text := by
  unfold textField
  rw [found]
  cases text with
  | none => rfl
  | some text => rfl

theorem mapM_asStr (texts : List String) :
    (texts.map Value.str).mapM Value.asStr? = some texts := by
  induction texts with
  | nil => rfl
  | cons text texts ih =>
      rw [List.map_cons, List.mapM_cons, ih]
      rfl

theorem ofDict_modelDump (lineage : MemoryLineage) : ofDict? lineage.modelDump = some lineage := by
  unfold ofDict?
  rw [textField_dump lineage.workflowRunId _ _ rfl, textField_dump lineage.nodeExecutionId _ _ rfl,
    textField_dump lineage.toolName _ _ rfl, textField_dump lineage.derivationMethod _ _ rfl]
  have parents : Dict.get? lineage.modelDump "parent_ids" =
      some (.list (lineage.parentIds.map .str)) := rfl
  rw [parents]
  simp only [Value.asList?, Option.bind_some, mapM_asStr]
  rfl

end MemoryLineage

/-! ### The mapping -/

def tagsOf? (tags : State) : Option (Dict String String) :=
  tags.mapM fun entry => entry.2.asStr?.map (entry.1, ·)

def tagValues (tags : Dict String String) : State := tags.map fun entry => (entry.1, .str entry.2)

/-- `{"_v": value}` is taken apart. -/
def unwrapped (value : Value) : Value :=
  match value with
  | .dict [("_v", inner)] => inner
  | other => other

/-- `value if isinstance(value, dict) else {field: value}`. -/
def wrapped (field : String) (value : Value) : Value :=
  match value with
  | .dict entries => .dict entries
  | other => .dict [(field, other)]

def withinBounds (confidence : Rat) (ttlSeconds : Option Int) : Bool :=
  0 ≤ confidence && confidence ≤ 1 && ttlSeconds.all fun seconds => 1 ≤ seconds

/-- `_db_to_domain`; `none` where the validation raises. -/
def dbToDomain (row : MemoryRow) : Option MemoryRecord := do
  let lineage ← MemoryLineage.ofDict? row.lineage
  let tags ← tagsOf? row.tags
  -- A confidence of 0 is falsy.
  let confidence := match row.confidence with
    | none => 1
    | some confidence => if confidence = 0 then 1 else confidence
  guard (withinBounds confidence row.ttlSeconds)
  return {
    row with
    value := unwrapped row.value
    source := row.source.getD ""
    actor := row.actor.getD ""
    confidence, lineage, tags }

/-- `_domain_to_db`. -/
def domainToDb (record : MemoryRecord) : MemoryRow :=
  { record with
    value := wrapped "_v" record.value
    source := some record.source
    actor := some record.actor
    confidence := some record.confidence
    lineage := record.lineage.modelDump
    tags := tagValues record.tags }

/-- `_check_access_policy` -/
def checkAccessPolicy (record : MemoryRecord) (actor : String) : Bool :=
  if record.accessPolicy = "default" then true
  else if record.accessPolicy = "owner_only" then actor = record.actor
  else if record.accessPolicy = "system_only" then actor.startsWith "system:"
  else if record.accessPolicy = "restricted" then actor = record.actor
  else false

/-- `now + timedelta(seconds=ttl_seconds)` -/
def expiryAfter (now : Time) (ttlSeconds : Int) : Time := now + ttlSeconds * 1000000

/-- `len(json.dumps(value, default=str).encode("utf-8"))` -/
def jsonValueByteSize (value : Value) : Nat := (Tools.jsonDumps value).utf8ByteSize

section

variable {row : MemoryRow} {record : MemoryRecord}

theorem dbToDomain_some (read : dbToDomain row = some record) :
    record.id = row.id ∧ record.namespaceName = row.namespaceName ∧ record.key = row.key ∧
      record.value = unwrapped row.value ∧ record.accessPolicy = row.accessPolicy ∧
      record.ttlSeconds = row.ttlSeconds ∧ record.expiresAt = row.expiresAt ∧
      record.deletionStatus = row.deletionStatus ∧
      withinBounds record.confidence record.ttlSeconds = true := by
  unfold dbToDomain at read
  simp only [Option.bind_eq_bind, Option.bind_eq_some_iff, Option.guard_eq_some', Option.pure_def,
    Option.some.injEq] at read
  obtain ⟨lineage, _, tags, _, _, bounds, rfl⟩ := read
  exact ⟨rfl, rfl, rfl, rfl, rfl, rfl, rfl, rfl, bounds⟩

theorem dbToDomain_lineage (read : dbToDomain row = some record) :
    MemoryLineage.ofDict? row.lineage = some record.lineage := by
  unfold dbToDomain at read
  obtain ⟨lineage, parsed, read⟩ := Option.bind_eq_some_iff.mp read
  simp only [Option.bind_eq_bind, Option.bind_eq_some_iff, Option.guard_eq_some', Option.pure_def,
    Option.some.injEq] at read
  obtain ⟨tags, _, _, _, rfl⟩ := read
  exact parsed

theorem tagsOf_str (tags : Dict String String) :
    tagsOf? (tagValues tags) = some tags := by
  unfold tagsOf? tagValues
  induction tags with
  | nil => rfl
  | cons entry tags ih =>
      rw [List.map_cons, List.mapM_cons, ih]
      rfl

end

/-! ### Structural schemas of namespaces -/

structure NamespaceSchema where
  requiredFields : List String := []
  fieldTypes : Dict String String := []
  maxFieldCount : Option Nat := none
  allowExtraFields : Bool := true

abbrev NamespaceSchemaRegistry := Dict String NamespaceSchema

/-- `sorted(names)` in an f-string. -/
def sortedText (names : List String) : String :=
  (Value.list ((names.mergeSort fun a b => decide (a ≤ b)).map .str)).repr

/-- `isinstance` by the name of the type; a name that is not known takes every value. -/
def hasType (typeName : String) (value : Value) : Bool :=
  match typeName, value with
  | "str", .str _ | "list", .list _ | "dict", .dict _ | "bool", .bool _ => true
  -- A Boolean is an integer.
  | "int", .int _ | "int", .bool _ => true
  | "float", .int _ | "float", .bool _ | "float", .float _ _ => true
  | "number", .int _ | "number", .bool _ | "number", .float _ _ => true
  | known, _ => known ∉ ["str", "int", "float", "bool", "list", "dict", "number"]

namespace NamespaceSchemaRegistry

variable (registry : NamespaceSchemaRegistry) (namespaceName : String)

/-- `get_schema`: the namespace itself, or the first pattern with a star that it begins with. -/
def getSchema : Option NamespaceSchema :=
  match Dict.get? registry namespaceName with
  | some schema => some schema
  | none =>
      (registry.find? fun entry =>
        entry.1.toList.getLast? = some '*' &&
          entry.1.toList.dropLast.isPrefixOf namespaceName.toList).map Prod.snd

def about : String := "Namespace '" ++ namespaceName ++ "' "

/-- `validate` on a dictionary, against its schema. -/
def validateFields (schema : NamespaceSchema) (entries : State) : Except String Unit := do
  let keys := entries.map Prod.fst
  let missing := schema.requiredFields.filter (· ∉ keys)
  if missing ≠ [] then
    throw (about namespaceName ++ "missing required fields: " ++ sortedText missing)
  if schema.maxFieldCount.any (· < entries.length) then
    throw (about namespaceName ++ "value has " ++ toString entries.length ++
      " fields, max allowed is " ++ toString (schema.maxFieldCount.getD 0))
  let allowed := schema.requiredFields ++ schema.fieldTypes.map Prod.fst
  let extra := keys.filter (· ∉ allowed)
  if schema.allowExtraFields = false ∧ extra ≠ [] then
    throw (about namespaceName ++ "disallows extra fields: " ++ sortedText extra)
  match schema.fieldTypes.find? fun field =>
      (Dict.get? entries field.1).any fun value => !hasType field.2 value with
  | none => return ()
  | some (field, expected) =>
      throw (about namespaceName ++ "field '" ++ field ++ "' expected " ++ expected ++ ", got " ++
        Condition.typeName ((Dict.get? entries field).getD .none))

/-- `validate` -/
def validate (value : Value) : Except String Unit :=
  match registry.getSchema namespaceName with
  | none => .ok ()
  | some schema =>
      match value with
      | .dict entries => validateFields namespaceName schema entries
      | other =>
          .error (about namespaceName ++ "requires a dict value, got " ++ Condition.typeName other)

end NamespaceSchemaRegistry

end SyndicateClaw.Memory
