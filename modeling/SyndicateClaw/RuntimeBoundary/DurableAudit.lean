import SyndicateClaw.Data.JsonSorted
import SyndicateClaw.Data.Sha256
import SyndicateClaw.RuntimeBoundary.Boundary

/-! `DurableAuditChain`: the hash chain in a file, one record a line. -/

namespace SyndicateClaw.RuntimeBoundary

open Orchestrator

/-! ### Lines -/

def isLineBreak (c : Char) : Bool :=
  c.toNat ∈ [0x0a, 0x0b, 0x0c, 0x0d, 0x1c, 0x1d, 0x1e, 0x85, 0x2028, 0x2029]

/-- `str.splitlines`. -/
def splitlines : List Char → List (List Char)
  | [] => []
  | '\r' :: '\n' :: rest => [] :: splitlines rest
  | c :: rest =>
      if isLineBreak c then [] :: splitlines rest
      else match splitlines rest with
        | [] => [[c]]
        | line :: lines => (c :: line) :: lines

/-- `str.isspace` of a character. -/
def isSpace (c : Char) : Bool :=
  (0x09 ≤ c.toNat && c.toNat ≤ 0x0d) || (0x1c ≤ c.toNat && c.toNat ≤ 0x20) ||
    (0x2000 ≤ c.toNat && c.toNat ≤ 0x200a) ||
    c.toNat ∈ [0x85, 0xa0, 0x1680, 0x2028, 0x2029, 0x202f, 0x205f, 0x3000]

inductive ChainError where
  | unavailable
  | value
  | type
  | key
  | attribute
  | encode
  deriving DecidableEq

/-- The text of the file; `none` if its bytes are not UTF-8. -/
abbrev AuditFile := Option (List Char)

/-- `_read_all_raw`: the lines that are not blank. -/
def readAllRaw : AuditFile → Except ChainError (List (List Char))
  | none => .error .value
  | some text => .ok ((splitlines text).filter fun line => !line.all isSpace)

/-! ### Records -/

/-- What the chain takes from outside: `repr(float(literal))`, and the hex digest of the UTF-8
encoding of a text. -/
structure HashLibrary where
  canonical : List Char → List Char
  sha256 : String → String

def sha256Library : HashLibrary where
  canonical := id
  sha256 := Sha256.hexdigest

def sequenceKey : Text := String.text "sequence"

def previousHashKey : Text := String.text "previous_hash"

def eventHashKey : Text := String.text "event_hash"

/-- `text.encode("utf-8")`: a surrogate cannot be encoded. -/
def encode? (text : Text) : Option String :=
  if text.all fun code => decide (code.isValidChar) then some (String.ofList (text.map Char.ofNat))
  else none

def isText (value : Option Json) (text : Text) : Bool :=
  match value with
  | some (.str own) => own = text
  | _ => false

section

variable (lib : HashLibrary)

/-- `_canonical`. -/
def canonicalText (record : Dict Text Json) : Option (List Char) :=
  Json.dumps Json.compact (.obj (Dict.pop record eventHashKey))

/-- `_hash`. -/
def recordHash (previous : String) (record : Dict Text Json) : Except ChainError String :=
  match canonicalText record with
  | none => .error .value
  | some text => .ok (lib.sha256 (previous ++ String.ofList text))

/-- The records up to the first line that cannot be parsed. -/
def recordsOf : List (List Char) → Except ChainError (List Json)
  | [] => .ok []
  | line :: rest =>
      match Json.loads lib.canonical line with
      | .ok record => do return record :: (← recordsOf rest)
      | .error .decode => .ok []
      | .error .value => .error .value

def records (file : AuditFile) : Except ChainError (List Json) := do
  recordsOf lib (← readAllRaw file)

/-- `existing[-1]["event_hash"]`, as `_hash` encodes it. -/
def lastHash (existing : List Json) : Except ChainError String :=
  match existing.getLast? with
  | none => .ok genesis
  | some (.obj record) =>
      match Dict.get? record eventHashKey with
      | none => .error .key
      | some (.str text) =>
          match encode? text with
          | some hash => .ok hash
          | none => .error .encode
      | some _ => .error .attribute
  | some _ => .error .type

def linkedRecord (event : Dict Text Json) (sequence : Nat) (previous : String) :
    Dict Text Json :=
  Dict.set (Dict.set event sequenceKey (.int sequence)) previousHashKey
    (.str (String.text previous))

/-- `append`, while the lock is held: the receipt, and the text it writes at the end. -/
def append (event : Dict Text Json) (file : AuditFile) :
    Except ChainError ((Nat × String) × List Char) := do
  let existing ← records lib file
  let previous ← lastHash existing
  let body := linkedRecord event existing.length previous
  let hash ← recordHash lib previous body
  match Json.dumps Json.spaced (.obj (Dict.set body eventHashKey (.str (String.text hash)))) with
  | none => throw .value
  | some line => return ((existing.length, hash), line ++ ['\n'])

variable {lib} in
theorem append_ok {event : Dict Text Json} {file : AuditFile} {receipt : Nat × String}
    {text : List Char} (ok : append lib event file = .ok (receipt, text)) :
    ∃ existing previous line, records lib file = .ok existing ∧
      lastHash existing = .ok previous ∧ receipt.1 = existing.length ∧
      recordHash lib previous (linkedRecord event receipt.1 previous) = .ok receipt.2 ∧
      Json.dumps Json.spaced (.obj (Dict.set (linkedRecord event receipt.1 previous) eventHashKey
        (.str (String.text receipt.2)))) = some line ∧
      text = line ++ ['\n'] := by
  unfold append at ok
  cases read : records lib file with
  | error e => rw [read] at ok; cases ok
  | ok existing =>
  cases tip : lastHash existing with
  | error e =>
      rw [read] at ok
      simp only [bind, Except.bind, tip] at ok
      cases ok
  | ok previous =>
  rw [read] at ok
  simp only [bind, Except.bind, tip] at ok
  split at ok
  · cases ok
  next hash hashed =>
  split at ok
  · cases ok
  next line written =>
  cases ok
  exact ⟨existing, previous, line, rfl, tip, rfl, hashed, written, rfl⟩

variable {lib} in
/-- An event with nothing that `str` refuses to convert is appended where the tail can be read. -/
theorem append_accepts {file : AuditFile} {existing : List Json} {previous : String}
    (read : records lib file = .ok existing) (last : lastHash existing = .ok previous)
    {event : Dict Text Json} (printed : (Json.obj event).printable = true)
    (few : (Json.int existing.length).printable = true) :
    ∃ written, append lib event file = .ok written := by
  have sequenced := Json.printable_set printed sequenceKey few
  have linked : (Json.obj (linkedRecord event existing.length previous)).printable = true :=
    Json.printable_set sequenced previousHashKey rfl
  have canonical := Json.dumps_eq_some Json.compact (Json.printable_pop linked eventHashKey)
  have hashed (hash : String) := Json.dumps_eq_some Json.spaced
    (@Json.printable_set _ linked eventHashKey (.str (String.text hash)) rfl)
  unfold append
  rw [read]
  simp only [bind, Except.bind, last, recordHash, canonicalText, canonical, hashed]
  exact ⟨_, rfl⟩

structure VerifyResult where
  valid : Bool
  recordCount : Nat
  genesisLinked : Bool
  corruptTail : Bool
  detail : String

/-- The loop of `verify`; the number of the line is the count of the records so far. -/
def verifyFrom (count : Nat) (previous : String) (genesisLinked : Bool) :
    List (List Char) → Except ChainError VerifyResult
  | [] => .ok { valid := true, recordCount := count, genesisLinked, corruptTail := false
                detail := "chain intact" }
  | line :: rest =>
      let corrupt (genesisLinked : Bool) (what : String) : Except ChainError VerifyResult :=
        .ok { valid := false, recordCount := count, genesisLinked, corruptTail := true
              detail := what ++ toString count }
      match Json.loads lib.canonical line with
      | .error .decode => corrupt genesisLinked "unparsable record at line "
      | .error .value => .error .value
      | .ok (.obj record) =>
          let link := Dict.get? record previousHashKey
          let genesisLinked :=
            genesisLinked && (count ≠ 0 || isText link (String.text genesis))
          if !isText link (String.text previous) then
            corrupt genesisLinked "broken chain link at sequence "
          else match recordHash lib previous record with
            | .error e => .error e
            | .ok hash =>
                if !isText (Dict.get? record eventHashKey) (String.text hash) then
                  corrupt genesisLinked "event_hash mismatch at sequence "
                else verifyFrom (count + 1) hash genesisLinked rest
      | .ok _ => .error .attribute

/-- `verify`. -/
def verify (file : AuditFile) : Except ChainError VerifyResult := do
  verifyFrom lib 0 genesis true (← readAllRaw file)

/-! ### The chain of a boundary -/

/-- The file, the injected fault, and the events that have been written. -/
structure DurableChain where
  file : AuditFile
  fail : Bool
  written : List State

def DurableChain.append (event : State) (chain : DurableChain) :
    Except String (Nat × String) × DurableChain :=
  if chain.fail then (.error "durable audit store unavailable", chain)
  else match toJson (.dict event) with
    | some (.obj entries) =>
        match RuntimeBoundary.append lib entries chain.file with
        | .error _ => (.error "append failed", chain)
        | .ok (receipt, line) =>
            (.ok receipt,
              { chain with file := chain.file.map (· ++ line), written := chain.written ++ [event] })
    | _ => (.error "not JSON serializable", chain)

variable {lib}

theorem DurableChain.append_ok {event : State} {chain : DurableChain} {receipt : Nat × String}
    (ok : (DurableChain.append lib event chain).1 = .ok receipt) :
    ∃ entries text, RuntimeBoundary.append lib entries chain.file = .ok (receipt, text) := by
  unfold DurableChain.append at ok
  split at ok
  · cases ok
  split at ok
  · next entries _ =>
      split at ok
      · cases ok
      · next own line written =>
          obtain rfl := Except.ok.inj ok
          exact ⟨entries, line, written⟩
  · cases ok

theorem DurableChain.append_accepts {event : State} {chain : DurableChain}
    (running : chain.fail = false) {entries : Dict Text Json}
    (json : toJson (.dict event) = some (.obj entries)) {written : (Nat × String) × List Char}
    (ok : RuntimeBoundary.append lib entries chain.file = .ok written) :
    (DurableChain.append lib event chain).1 = .ok written.1 := by
  unfold DurableChain.append
  simp only [running, json, ok, Bool.false_eq_true, if_false]

theorem DurableChain.append_written {event : State} {chain : DurableChain}
    {receipt : Nat × String} (ok : (DurableChain.append lib event chain).1 = .ok receipt) :
    (DurableChain.append lib event chain).2.written = chain.written ++ [event] := by
  unfold DurableChain.append at ok ⊢
  split at ok
  · cases ok
  next running =>
  rw [if_neg running]
  split at ok
  · split at ok
    · cases ok
    · rfl
  · cases ok

variable (lib)

def durableAuditChain : AuditChain DurableChain State where
  append := DurableChain.append lib
  records := DurableChain.written
  decision event := (lookup event "decision").asStr?
  appended event _ _ ok := ⟨event, DurableChain.append_written ok, rfl⟩

end

end SyndicateClaw.RuntimeBoundary
