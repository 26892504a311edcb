import Mathlib.Data.Rat.Defs
import SyndicateClaw.Data.Dict

/-! The values a run's state dictionary can hold. -/

namespace SyndicateClaw.Orchestrator

/-- A Python value. `float` carries the exact value of a finite float with its
`repr`; `object` is any value the JSON encoder only knows through `str`. -/
inductive Value where
  | none
  | bool (b : Bool)
  | int (i : Int)
  | float (value : Rat) (text : String)
  | str (s : String)
  | list (items : List Value)
  | dict (entries : List (String × Value))
  | object (text : String)

abbrev State := Dict String Value

namespace Value

mutual

def decEq : (a b : Value) → Decidable (a = b)
  | .none, .none => isTrue rfl
  | .bool a, .bool b => decidable_of_iff (a = b) (by simp)
  | .int a, .int b => decidable_of_iff (a = b) (by simp)
  | .float a s, .float b t => decidable_of_iff (a = b ∧ s = t) (by simp)
  | .str a, .str b => decidable_of_iff (a = b) (by simp)
  | .list a, .list b =>
      match decEqList a b with
      | isTrue same => isTrue (by rw [same])
      | isFalse differ => isFalse (by simpa using differ)
  | .dict a, .dict b =>
      match decEqEntries a b with
      | isTrue same => isTrue (by rw [same])
      | isFalse differ => isFalse (by simpa using differ)
  | .object a, .object b => decidable_of_iff (a = b) (by simp)
  | .none, .bool _ | .none, .int _ | .none, .float _ _ | .none, .str _ | .none, .list _
  | .none, .dict _ | .none, .object _
  | .bool _, .none | .bool _, .int _ | .bool _, .float _ _ | .bool _, .str _
  | .bool _, .list _ | .bool _, .dict _ | .bool _, .object _
  | .int _, .none | .int _, .bool _ | .int _, .float _ _ | .int _, .str _ | .int _, .list _
  | .int _, .dict _ | .int _, .object _
  | .float _ _, .none | .float _ _, .bool _ | .float _ _, .int _ | .float _ _, .str _
  | .float _ _, .list _ | .float _ _, .dict _ | .float _ _, .object _
  | .str _, .none | .str _, .bool _ | .str _, .int _ | .str _, .float _ _ | .str _, .list _
  | .str _, .dict _ | .str _, .object _
  | .list _, .none | .list _, .bool _ | .list _, .int _ | .list _, .float _ _
  | .list _, .str _ | .list _, .dict _ | .list _, .object _
  | .dict _, .none | .dict _, .bool _ | .dict _, .int _ | .dict _, .float _ _
  | .dict _, .str _ | .dict _, .list _ | .dict _, .object _
  | .object _, .none | .object _, .bool _ | .object _, .int _ | .object _, .float _ _
  | .object _, .str _ | .object _, .list _ | .object _, .dict _ =>
      isFalse (by simp)

def decEqList : (a b : List Value) → Decidable (a = b)
  | [], [] => isTrue rfl
  | [], _ :: _ | _ :: _, [] => isFalse (by simp)
  | a :: as, b :: bs =>
      match decEq a b, decEqList as bs with
      | isTrue head, isTrue tail => isTrue (by rw [head, tail])
      | isFalse differ, _ => isFalse (by simp [differ])
      | _, isFalse differ => isFalse (by simp [differ])

def decEqEntries : (a b : List (String × Value)) → Decidable (a = b)
  | [], [] => isTrue rfl
  | [], _ :: _ | _ :: _, [] => isFalse (by simp)
  | (k, a) :: as, (l, b) :: bs =>
      match decEq a b, decEqEntries as bs with
      | isTrue head, isTrue tail =>
          if same : k = l then isTrue (by rw [head, tail, same])
          else isFalse (by simp [same])
      | isFalse differ, _ => isFalse (by simp [differ])
      | _, isFalse differ => isFalse (by simp [differ])

end

instance : DecidableEq Value := decEq

/-- `bool(value)`. -/
def truthy : Value → Bool
  | .none => false
  | .bool b => b
  | .int i => i ≠ 0
  | .float q _ => q ≠ 0
  | .str s => s ≠ ""
  | .list items => !items.isEmpty
  | .dict entries => !entries.isEmpty
  | .object _ => true

private def escapeChar (quote : Char) (c : Char) : List Char :=
  if c = quote ∨ c = '\\' then ['\\', c]
  else if c = '\n' then ['\\', 'n']
  else if c = '\r' then ['\\', 'r']
  else if c = '\t' then ['\\', 't']
  else [c]

/-- `repr(text)`: single quotes unless the text has a single quote and no double one. -/
def quoted (text : String) : String :=
  let quote := if '\'' ∈ text.toList ∧ '"' ∉ text.toList then '"' else '\''
  String.ofList ([quote] ++ text.toList.flatMap (escapeChar quote) ++ [quote])

mutual

/-- `repr(value)`. -/
def repr : Value → String
  | .none => "None"
  | .bool b => if b then "True" else "False"
  | .int i => toString i
  | .float _ text => text
  | .str s => quoted s
  | .list items => "[" ++ ", ".intercalate (reprList items) ++ "]"
  | .dict entries => "\x7b" ++ ", ".intercalate (reprEntries entries) ++ "\x7d"
  | .object text => text

def reprList : List Value → List String
  | [] => []
  | item :: items => repr item :: reprList items

def reprEntries : List (String × Value) → List String
  | [] => []
  | (key, value) :: entries => (quoted key ++ ": " ++ repr value) :: reprEntries entries

end

/-- `str(value)`. -/
def pyStr : Value → String
  | .str s => s
  | value => repr value

mutual

/-- `json.loads(json.dumps(value, default=str))`. -/
def jsonable : Value → Value
  | .list items => .list (jsonableList items)
  | .dict entries => .dict (jsonableEntries entries)
  | .object text => .str text
  | value => value

def jsonableList : List Value → List Value
  | [] => []
  | item :: items => jsonable item :: jsonableList items

def jsonableEntries : List (String × Value) → List (String × Value)
  | [] => []
  | (key, value) :: entries => (key, jsonable value) :: jsonableEntries entries

end

def typeName : Value → String
  | .none => "NoneType" | .bool _ => "bool" | .int _ => "int" | .float _ _ => "float"
  | .str _ => "str" | .list _ => "list" | .dict _ => "dict" | .object _ => "object"

/-- `isinstance(value, dict)`. -/
def asDict? : Value → Option State
  | .dict entries => some entries
  | _ => Option.none

/-- `isinstance(value, str)`. -/
def asStr? : Value → Option String
  | .str s => some s
  | _ => Option.none

/-- `isinstance(value, list)`. -/
def asList? : Value → Option (List Value)
  | .list items => some items
  | _ => Option.none

end Value

/-- `_jsonable` on a state dictionary. -/
def jsonableState (state : State) : State := Value.jsonableEntries state

theorem jsonableState_eq_map (state : State) :
    jsonableState state = state.map fun entry => (entry.1, entry.2.jsonable) := by
  unfold jsonableState
  induction state with
  | nil => rfl
  | cons entry state ih => simp [Value.jsonableEntries, ih]

theorem get?_jsonableState (state : State) (key : String) :
    Dict.get? (jsonableState state) key = (Dict.get? state key).map Value.jsonable := by
  rw [jsonableState_eq_map, Dict.get?_map_value fun _ => Value.jsonable]

theorem Value.asDict?_jsonable (value : Value) :
    value.jsonable.asDict? = value.asDict?.map jsonableState := by
  cases value <;> simp [Value.jsonable, Value.asDict?, jsonableState]

end SyndicateClaw.Orchestrator
