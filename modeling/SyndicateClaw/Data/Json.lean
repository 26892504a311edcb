import Mathlib.Data.List.Lex
import Mathlib.Data.List.Sort
import SyndicateClaw.Data.Dict

/-! JSON documents as `json.dumps` writes and `json.loads` reads them. -/

namespace SyndicateClaw

/-- A text by its code points, surrogates among them. -/
abbrev Text := List Nat

def String.text (s : String) : Text := s.toList.map Char.toNat

/-- A document. A float stands as its `repr`. -/
inductive Json where
  | null
  | bool (b : Bool)
  | int (i : Int)
  | float (repr : List Char)
  | str (text : Text)
  | arr (items : List Json)
  | obj (entries : List (Text × Json))

/-- The digits `int` and `str` convert at most. -/
def maxStrDigits : Nat := 4300

namespace Json

/-! ### Writing -/

def unicodeEscape (unit : Nat) : List Char :=
  ['\\', 'u', Nat.digitChar (unit / 4096 % 16), Nat.digitChar (unit / 256 % 16),
    Nat.digitChar (unit / 16 % 16), Nat.digitChar (unit % 16)]

def units (code : Nat) : Text :=
  if code < 0x10000 then [code]
  else [0xd800 + (code - 0x10000) / 0x400 % 0x400, 0xdc00 + (code - 0x10000) % 0x400]

def escapeUnit (unit : Nat) : List Char :=
  if unit = 34 then ['\\', '"']
  else if unit = 92 then ['\\', '\\']
  else if unit = 10 then ['\\', 'n']
  else if unit = 13 then ['\\', 'r']
  else if unit = 9 then ['\\', 't']
  else if unit = 8 then ['\\', 'b']
  else if unit = 12 then ['\\', 'f']
  else if 32 ≤ unit ∧ unit ≤ 126 then [Char.ofNat unit]
  else unicodeEscape unit

def dumpText (text : Text) : List Char :=
  '"' :: (text.flatMap units).flatMap escapeUnit ++ ['"']

def dumpInt (i : Int) : List Char :=
  if i < 0 then '-' :: Nat.toDigits 10 i.natAbs else Nat.toDigits 10 i.natAbs

structure Separators where
  item : List Char
  key : List Char

/-- The separators of `json.dumps`, and those of `separators=(",", ":")`. -/
def spaced : Separators := { item := [',', ' '], key := [':', ' '] }

def compact : Separators := { item := [','], key := [':'] }

section dump

variable (sep : Separators)

mutual

def dump : Json → List Char
  | null => "null".toList
  | bool b => if b then "true".toList else "false".toList
  | int i => dumpInt i
  | float repr => repr
  | str text => dumpText text
  | arr [] => ['[', ']']
  | arr (item :: items) => '[' :: dump item ++ dumpItems items
  | obj [] => ['\x7b', '\x7d']
  | obj ((key, value) :: entries) =>
      '\x7b' :: dumpText key ++ sep.key ++ dump value ++ dumpEntries entries

def dumpItems : List Json → List Char
  | [] => [']']
  | item :: items => sep.item ++ dump item ++ dumpItems items

def dumpEntries : List (Text × Json) → List Char
  | [] => ['\x7d']
  | (key, value) :: entries =>
      sep.item ++ dumpText key ++ sep.key ++ dump value ++ dumpEntries entries

end

end dump

/-- The order of the keys under `sort_keys=True`. -/
abbrev KeyLE (a b : Text × Json) : Prop := a.1 ≤ b.1

mutual

def sortKeys : Json → Json
  | arr items => arr (sortKeysItems items)
  | obj entries => obj ((sortKeysEntries entries).insertionSort KeyLE)
  | document => document

def sortKeysItems : List Json → List Json
  | [] => []
  | item :: items => sortKeys item :: sortKeysItems items

def sortKeysEntries : List (Text × Json) → List (Text × Json)
  | [] => []
  | (key, value) :: entries => (key, sortKeys value) :: sortKeysEntries entries

end

mutual

/-- No integer has more digits than `str` converts. -/
def printable : Json → Bool
  | int i => (Nat.toDigits 10 i.natAbs).length ≤ maxStrDigits
  | arr items => printableItems items
  | obj entries => printableEntries entries
  | _ => true

def printableItems : List Json → Bool
  | [] => true
  | item :: items => printable item && printableItems items

def printableEntries : List (Text × Json) → Bool
  | [] => true
  | (_, value) :: entries => printable value && printableEntries entries

end

/-- `json.dumps(document, sort_keys=True, ...)`; `none` is a `ValueError`. -/
def dumps (sep : Separators) (document : Json) : Option (List Char) :=
  if document.printable then some (dump sep document.sortKeys) else none

/-! ### Reading -/

/-- `JSONDecodeError`, or the `ValueError` of an integer with too many digits. -/
inductive LoadsError where
  | decode
  | value
  deriving DecidableEq

abbrev Reader (α : Type) := List Char → Except LoadsError (α × List Char)

def isWhitespace (c : Char) : Bool := c = ' ' || c = '\t' || c = '\n' || c = '\r'

def skipWhitespace (chars : List Char) : List Char := chars.dropWhile isWhitespace

def hexValue (c : Char) : Option Nat :=
  if c.isDigit then some (c.toNat - 48)
  else if 'a' ≤ c ∧ c ≤ 'f' then some (c.toNat - 87)
  else if 'A' ≤ c ∧ c ≤ 'F' then some (c.toNat - 55)
  else none

/-- The unit of a `\uXXXX`. -/
def hexUnit (a b c d : Char) : Option Nat := do
  return 4096 * (← hexValue a) + 256 * (← hexValue b) + 16 * (← hexValue c) + (← hexValue d)

def simpleEscape : Char → Option Nat
  | '"' => some 34
  | '\\' => some 92
  | '/' => some 47
  | 'b' => some 8
  | 'f' => some 12
  | 'n' => some 10
  | 'r' => some 13
  | 't' => some 9
  | _ => none

/-- The units of a text, up to its closing quote. -/
def readUnits : Reader Text
  | [] => .error .decode
  | '"' :: rest => .ok ([], rest)
  | '\\' :: 'u' :: a :: b :: c :: d :: rest =>
      match hexUnit a b c d with
      | none => .error .decode
      | some unit => do
          let (text, rest) ← readUnits rest
          return (unit :: text, rest)
  | '\\' :: escape :: rest =>
      match simpleEscape escape with
      | none => .error .decode
      | some unit => do
          let (text, rest) ← readUnits rest
          return (unit :: text, rest)
  | c :: rest =>
      if c.toNat < 32 ∨ c = '\\' then .error .decode
      else do
        let (text, rest) ← readUnits rest
        return (c.toNat :: text, rest)

def isHigh (unit : Nat) : Bool := 0xd800 ≤ unit && unit ≤ 0xdbff

def isLow (unit : Nat) : Bool := 0xdc00 ≤ unit && unit ≤ 0xdfff

def joinUnits : Text → Text
  | [] => []
  | [unit] => [unit]
  | high :: low :: rest =>
      if isHigh high ∧ isLow low then
        (0x10000 + (high - 0xd800) * 0x400 + (low - 0xdc00)) :: joinUnits rest
      else high :: joinUnits (low :: rest)

def readText : Reader Text := fun chars => do
  let (units, rest) ← readUnits chars
  return (joinUnits units, rest)

def wholePart (chars : List Char) : List Char :=
  if chars.head? = some '0' then ['0'] else chars.takeWhile Char.isDigit

def fractionPart : List Char → List Char
  | '.' :: rest =>
      let digits := rest.takeWhile Char.isDigit
      if digits = [] then [] else '.' :: digits
  | _ => []

def exponentPart : List Char → List Char
  | e :: rest =>
      let sign := if rest.head? = some '+' ∨ rest.head? = some '-' then rest.take 1 else []
      let digits := (rest.drop sign.length).takeWhile Char.isDigit
      if (e = 'e' ∨ e = 'E') ∧ digits ≠ [] then e :: sign ++ digits else []
  | [] => []

/-- The number behind an optional sign. `canonical` is `repr(float(literal))`. -/
def readNumber (canonical : List Char → List Char) (sign chars : List Char) :
    Except LoadsError (Json × List Char) :=
  let whole := wholePart chars
  let fraction := fractionPart (chars.drop whole.length)
  let exponent := exponentPart (chars.drop (whole.length + fraction.length))
  let rest := chars.drop (whole.length + fraction.length + exponent.length)
  if whole = [] then .error .decode
  else if fraction = [] ∧ exponent = [] then
    if maxStrDigits < whole.length then .error .value
    else
      let magnitude := (Nat.ofDigitChars 10 whole 0 : Int)
      .ok (.int (if sign = [] then magnitude else -magnitude), rest)
  else .ok (.float (canonical (sign ++ whole ++ fraction ++ exponent)), rest)

/-- A dictionary from its entries in order; a key that comes again is set again. -/
def ofEntries (entries : List (Text × Json)) : Dict Text Json :=
  entries.foldl (fun d entry => Dict.set d entry.1 entry.2) []

section read

variable (canonical : List Char → List Char)

mutual

/-- A value. Every call takes a character or is followed by one that does, so that twice
the length is fuel enough. -/
def readValue : Nat → Reader Json
  | 0, _ => .error .decode
  | fuel + 1, chars =>
      match chars with
      | '"' :: rest => do
          let (text, rest) ← readText rest
          return (.str text, rest)
      | '\x7b' :: rest =>
          match skipWhitespace rest with
          | '\x7d' :: rest => .ok (.obj [], rest)
          | rest => do
              let (entries, rest) ← readEntries fuel rest
              return (.obj (ofEntries entries), rest)
      | '[' :: rest =>
          match skipWhitespace rest with
          | ']' :: rest => .ok (.arr [], rest)
          | rest => do
              let (items, rest) ← readItems fuel rest
              return (.arr items, rest)
      | 'n' :: 'u' :: 'l' :: 'l' :: rest => .ok (.null, rest)
      | 't' :: 'r' :: 'u' :: 'e' :: rest => .ok (.bool true, rest)
      | 'f' :: 'a' :: 'l' :: 's' :: 'e' :: rest => .ok (.bool false, rest)
      | 'N' :: 'a' :: 'N' :: rest => .ok (.float "NaN".toList, rest)
      | 'I' :: 'n' :: 'f' :: 'i' :: 'n' :: 'i' :: 't' :: 'y' :: rest =>
          .ok (.float "Infinity".toList, rest)
      | '-' :: 'I' :: 'n' :: 'f' :: 'i' :: 'n' :: 'i' :: 't' :: 'y' :: rest =>
          .ok (.float "-Infinity".toList, rest)
      | '-' :: rest => readNumber canonical ['-'] rest
      | chars => readNumber canonical [] chars

def readItems : Nat → Reader (List Json)
  | 0, _ => .error .decode
  | fuel + 1, chars => do
      let (item, rest) ← readValue fuel chars
      match skipWhitespace rest with
      | ']' :: rest => return ([item], rest)
      | ',' :: rest =>
          let (items, rest) ← readItems fuel (skipWhitespace rest)
          return (item :: items, rest)
      | _ => throw .decode

def readEntries : Nat → Reader (List (Text × Json))
  | 0, _ => .error .decode
  | fuel + 1, chars =>
      match chars with
      | '"' :: rest => do
          let (key, rest) ← readText rest
          match skipWhitespace rest with
          | ':' :: rest =>
              let (value, rest) ← readValue fuel (skipWhitespace rest)
              match skipWhitespace rest with
              | '\x7d' :: rest => return ([(key, value)], rest)
              | ',' :: rest =>
                  let (entries, rest) ← readEntries fuel (skipWhitespace rest)
                  return ((key, value) :: entries, rest)
              | _ => throw .decode
          | _ => throw .decode
      | _ => .error .decode

end

theorem readValue_bracket (fuel : Nat) (chars : List Char) :
    readValue canonical (fuel + 1) ('[' :: chars) = match skipWhitespace chars with
      | ']' :: rest => .ok (.arr [], rest)
      | rest => readItems canonical fuel rest >>= fun read => .ok (.arr read.1, read.2) :=
  rfl

theorem readValue_brace (fuel : Nat) (chars : List Char) :
    readValue canonical (fuel + 1) ('\x7b' :: chars) = match skipWhitespace chars with
      | '\x7d' :: rest => .ok (.obj [], rest)
      | rest => readEntries canonical fuel rest >>= fun read =>
          .ok (.obj (ofEntries read.1), read.2) :=
  rfl

/-- `json.loads(chars)`. -/
def loads (chars : List Char) : Except LoadsError Json := do
  let (document, rest) ← readValue canonical (2 * chars.length + 1) (skipWhitespace chars)
  if skipWhitespace rest = [] then return document else throw .decode

end read

end Json

end SyndicateClaw
