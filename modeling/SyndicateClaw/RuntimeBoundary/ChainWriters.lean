import SyndicateClaw.Async.Mutex
import SyndicateClaw.RuntimeBoundary.LinkedChain

/-! Writers that append to one file under its lock: what they come to is one chain. -/

namespace SyndicateClaw.RuntimeBoundary

open Async

variable {lib : HashLibrary}

/-- An event that `json.dumps` takes, with its keys and values. -/
structure JsonEvent (lib : HashLibrary) where
  entries : Dict Text Json
  proper : (Json.obj entries).Proper lib.canonical

section

variable (lib)

/-- `append` of a writer: what it answers, and what it does to the file. -/
def appendCall (event : JsonEvent lib) (file : AuditFile) :
    Except ChainError ((Nat × String) × (AuditFile → AuditFile)) :=
  (append lib event.entries file).map fun written =>
    (written.1, Option.map fun text => text ++ written.2)

end

theorem appendCall_ok {event : JsonEvent lib} {file : AuditFile}
    {written : (Nat × String) × List Char} (ok : append lib event.entries file = .ok written) :
    appendCall lib event file =
      .ok (written.1, Option.map fun text => text ++ written.2) := by
  rw [appendCall, ok]
  rfl

def appended (answers : List (JsonEvent lib × Except ChainError (Nat × String))) :
    List (JsonEvent lib × Nat × String) :=
  answers.filterMap fun answer => answer.2.toOption.map fun receipt => (answer.1, receipt)

theorem linked_of_serial {answers : List (JsonEvent lib × Except ChainError (Nat × String))}
    {file : AuditFile} (serial : Mutex.Serial (appendCall lib) (fileOf []) answers file) :
    ∃ entries, Linked lib 0 genesis entries ∧ file = fileOf (entries.map Entry.line) ∧
      (appended answers).map (fun append => (append.1.entries, append.2)) =
        entries.map fun entry => (entry.event, entry.receipt) := by
  induction serial with
  | nil => exact ⟨[], trivial, rfl, rfl⟩
  | @ok answers file event receipt change _ ok ih =>
      obtain ⟨entries, linked, rfl, same⟩ := ih
      unfold appendCall at ok
      cases written : append lib event.entries (fileOf (entries.map Entry.line)) with
      | error e => rw [written] at ok; cases ok
      | ok result =>
      rw [written] at ok
      cases ok
      obtain ⟨entry, own, receipt, text, linked⟩ := linked.grows event.proper written
      refine ⟨entries ++ [entry], linked, ?_, ?_⟩
      · rw [text, fileOf_append, List.map_append, List.map_singleton]
      · rw [appended, List.filterMap_append, List.map_append, List.map_append]
        refine congrArg₂ (· ++ ·) same ?_
        exact congrArg (fun pair => [pair]) (Prod.ext own.symm receipt.symm)
  | @error answers file event e _ failed ih =>
      obtain ⟨entries, linked, rfl, same⟩ := ih
      refine ⟨entries, linked, rfl, ?_⟩
      rw [← same, appended, List.filterMap_append]
      exact congrArg _ (List.append_nil _)

/-- A record of the file at a place, for an event and what its caller got back. -/
structure RecordOf (lib : HashLibrary) (hashes : List String) (index : Nat)
    (event : Dict Text Json) (receipt : Nat × String) (record : Dict Text Json) : Prop where
  number : receipt.1 = index
  sequence : Dict.get? record sequenceKey = some (.int index)
  link : ∃ previous, (genesis :: hashes)[index]? = some previous ∧
    Dict.get? record previousHashKey = some (.str (String.text previous)) ∧
    recordHash lib previous record = .ok receipt.2
  hash : Dict.get? record eventHashKey = some (.str (String.text receipt.2))
  event : ∀ key, key ≠ sequenceKey → key ≠ previousHashKey → key ≠ eventHashKey →
    Dict.get? record key = (Dict.get? event key).map Json.sortKeys

/-- The file verifies, and its records are those of the appends, in their order. -/
structure ChainHolds (file : AuditFile) (appends : List (JsonEvent lib × Nat × String)) :
    Prop where
  verified : verify lib file =
    .ok { valid := true, recordCount := appends.length, genesisLinked := true
          corruptTail := false, detail := "chain intact" }
  recorded : ∃ own : List (Dict Text Json), records lib file = .ok (own.map Json.obj) ∧
    own.length = appends.length ∧
    ∀ index event receipt, appends[index]? = some (event, receipt) →
      ∃ record, own[index]? = some record ∧
        RecordOf lib (appends.map fun append => append.2.2) index event.entries receipt record

theorem chainHolds_of_linked {entries : List Entry} (linked : Linked lib 0 genesis entries)
    {appends : List (JsonEvent lib × Nat × String)}
    (same : appends.map (fun append => (append.1.entries, append.2)) =
      entries.map fun entry => (entry.event, entry.receipt)) :
    ChainHolds (fileOf (entries.map Entry.line)) appends := by
  have length : appends.length = entries.length := by
    have lengths := congrArg List.length same
    rwa [List.length_map, List.length_map] at lengths
  have hashes : appends.map (fun append => append.2.2) = entries.map Entry.hash := by
    have seconds := congrArg (List.map fun pair => pair.2.2) same
    rwa [List.map_map, List.map_map] at seconds
  refine ⟨by rw [linked.verifies, length], entries.map Entry.record, ?_, ?_, ?_⟩
  · rw [records_completed linked.completed, List.map_map]
    rfl
  · rw [List.length_map, length]
  · intro index event receipt here
    have pair := congrArg (fun pairs => pairs[index]?) same
    simp only [List.getElem?_map, here, Option.map_some] at pair
    obtain ⟨entry, there, own⟩ := Option.map_eq_some_iff.mp pair.symm
    obtain ⟨same, rfl⟩ := Prod.mk.inj own
    rw [← same]
    obtain ⟨number, link⟩ := linked.at there
    rw [Nat.zero_add] at number
    have completed := linked.completed entry (List.mem_of_getElem? there)
    refine ⟨entry.record, by rw [List.getElem?_map, there]; rfl, ?_⟩
    rw [hashes]
    exact
      { number
        sequence := number ▸ completed.get?_sequence
        link := ⟨entry.previous, link, completed.get?_previousHash, completed.recordHash_record⟩
        hash := completed.get?_eventHash
        event := fun _ sequence link hash => completed.get?_event sequence link hash }

/-- The appends of any writers, however they come: the chain holds, and whoever got a receipt
finds his record at the number it says. -/
theorem appends_chainHolds {ι : Type} [DecidableEq ι]
    {s : Mutex.Guarded ι (JsonEvent lib) AuditFile ChainError (Nat × String)}
    (reaches : Mutex.Reaches (appendCall lib) (some []) s) :
    ChainHolds s.shared (appended s.answers) ∧
      ∀ writer event receipt, (writer, event, .ok receipt) ∈ s.returned →
        (appended s.answers)[receipt.1]? = some (event, receipt) := by
  obtain ⟨entries, linked, file, same⟩ := linked_of_serial (Mutex.serial_of_reaches reaches)
  have holds := chainHolds_of_linked linked same
  rw [← file] at holds
  refine ⟨holds, fun writer event receipt returned => ?_⟩
  have answered : (event, Except.ok receipt) ∈ s.answers :=
    List.mem_append_left _ (List.mem_map_of_mem returned)
  have member : (event, receipt) ∈ appended s.answers :=
    List.mem_filterMap.mpr ⟨_, answered, rfl⟩
  obtain ⟨index, here⟩ := List.getElem?_of_mem member
  obtain ⟨own, -, -, recorded⟩ := holds.recorded
  obtain ⟨record, -, is⟩ := recorded index event receipt here
  rw [is.number]
  exact here

/-- An event with the chain's own keys, and a text that is two lines to `splitlines`. -/
def forgedEvent : JsonEvent sha256Library where
  entries := [(sequenceKey, .int 7), (eventHashKey, .str (String.text genesis)),
    (String.text "note", .str [0x61, 0x2028, 0x62])]
  proper := by
    rw [Json.proper_obj]
    refine ⟨by decide, fun entry member => ?_⟩
    simp only [List.mem_cons, List.not_mem_nil, or_false] at member
    rcases member with rfl | rfl | rfl
    · exact ⟨Json.properText_text _, trivial⟩
    · exact ⟨Json.properText_text _, Json.properText_text _⟩
    · exact ⟨Json.properText_text _, by decide, by simp [Json.isHigh, Json.isLow]⟩

def emptyEvent : JsonEvent sha256Library where
  entries := []
  proper := (Json.proper_obj _).mpr ⟨List.nodup_nil, nofun⟩

theorem two_writers_return : ∃ first second,
    ∃ s : Mutex.Guarded Bool (JsonEvent sha256Library) AuditFile ChainError (Nat × String),
      Mutex.Reaches (appendCall sha256Library) (some []) s ∧ s.holder = none ∧
        s.returned = [(false, forgedEvent, .ok first), (true, emptyEvent, .ok second)] := by
  have empty : Linked sha256Library 0 genesis [] := trivial
  obtain ⟨first, wroteFirst⟩ := empty.accepts forgedEvent.entries (by decide) (by decide)
  obtain ⟨entry, -, -, text, linked⟩ := empty.grows forgedEvent.proper wroteFirst
  have few : (Json.int 1).printable = true := by decide
  obtain ⟨second, wroteSecond⟩ := linked.accepts emptyEvent.entries rfl few
  have fresh : Mutex.Reaches (ι := Bool) (appendCall sha256Library) (some []) _ := .start
  obtain ⟨s, reaches, file, free, outside, returned⟩ :=
    fresh.call rfl (i := false) rfl (appendCall_ok wroteFirst)
  have shared : s.shared = fileOf (([] ++ [entry]).map Entry.line) := by
    rw [file, text, List.map_append, List.map_singleton, ← fileOf_append]
    rfl
  rw [← shared] at wroteSecond
  obtain ⟨s', reaches', -, free', -, returned'⟩ :=
    reaches.call free (i := true) (by rw [outside]; rfl) (appendCall_ok wroteSecond)
  refine ⟨first.1, second.1, s', reaches', free', ?_⟩
  rw [returned', returned]
  rfl

/-- Both writers, the first with an event that forges the chain's keys. -/
theorem two_writers_chainHolds : ∃ first second,
    ∃ s : Mutex.Guarded Bool (JsonEvent sha256Library) AuditFile ChainError (Nat × String),
      s.returned = [(false, forgedEvent, .ok first), (true, emptyEvent, .ok second)] ∧
        ChainHolds s.shared [(forgedEvent, first), (emptyEvent, second)] := by
  obtain ⟨first, second, s, reaches, free, returned⟩ := two_writers_return
  refine ⟨first, second, s, returned, ?_⟩
  have holds := (appends_chainHolds reaches).1
  rw [Mutex.answers_of_free free, returned] at holds
  exact holds

end SyndicateClaw.RuntimeBoundary
