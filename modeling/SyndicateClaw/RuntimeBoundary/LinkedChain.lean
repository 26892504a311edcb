import SyndicateClaw.RuntimeBoundary.DurableAudit

/-! What appends leave in a file: records that are read back, numbered and linked. -/

namespace SyndicateClaw.RuntimeBoundary

open Json (Printing sortValue KeyLE)

/-! ### Lines of a file -/

/-- A line that is read back as it was written. -/
structure IsRecordLine (line : List Char) : Prop where
  printing : ∀ c ∈ line, Printing c
  visible : line.all isSpace = false

theorem not_isLineBreak {c : Char} (printing : Printing c) : isLineBreak c = false := by
  obtain ⟨low, high⟩ := printing
  simp only [isLineBreak, List.mem_cons, List.not_mem_nil, or_false, decide_eq_false_iff_not]
  omega

theorem splitlines_line {line : List Char} (printing : ∀ c ∈ line, Printing c)
    (rest : List Char) : splitlines (line ++ '\n' :: rest) = line :: splitlines rest := by
  induction line with
  | nil =>
      rw [List.nil_append, splitlines, if_pos (by decide)]
      nofun
  | cons c line ih =>
      have first := printing c List.mem_cons_self
      have later := ih fun other member => printing other (List.mem_cons_of_mem c member)
      rw [List.cons_append, splitlines, later, not_isLineBreak first, if_neg Bool.false_ne_true]
      rintro rest' rfl
      exact absurd first (by decide)

def fileOf (lines : List (List Char)) : AuditFile :=
  some (lines.flatMap fun line => line ++ ['\n'])

theorem readAllRaw_fileOf {lines : List (List Char)} (are : ∀ line ∈ lines, IsRecordLine line) :
    readAllRaw (fileOf lines) = .ok lines := by
  have splits : splitlines (lines.flatMap fun line => line ++ ['\n']) = lines := by
    induction lines with
    | nil => rfl
    | cons line lines ih =>
        have later := ih fun other member => are other (List.mem_cons_of_mem line member)
        rw [List.flatMap_cons, List.append_assoc, List.singleton_append,
          splitlines_line (are line List.mem_cons_self).printing, later]
  unfold readAllRaw fileOf
  simp only [splits]
  refine congrArg Except.ok (List.filter_eq_self.mpr fun line member => ?_)
  rw [(are line member).visible]
  rfl

theorem fileOf_append (lines : List (List Char)) (line : List Char) :
    (fileOf lines).map (· ++ (line ++ ['\n'])) = fileOf (lines ++ [line]) := by
  simp [fileOf]

/-! ### Entries of a chain -/

/-- What was appended, what the caller got back, and the line written for it. -/
structure Entry where
  event : Dict Text Json
  sequence : Nat
  previous : String
  hash : String
  line : List Char

namespace Entry

def receipt (entry : Entry) : Nat × String := (entry.sequence, entry.hash)

def body (entry : Entry) : Dict Text Json :=
  Dict.set (linkedRecord entry.event entry.sequence entry.previous) eventHashKey
    (.str (String.text entry.hash))

def record (entry : Entry) : Dict Text Json :=
  (entry.body.map sortValue).insertionSort KeyLE

end Entry

section

variable (lib : HashLibrary)

/-- `append` has hashed and written the entry. -/
structure Completed (entry : Entry) : Prop where
  proper : (Json.obj entry.event).Proper lib.canonical
  hashed : recordHash lib entry.previous
    (linkedRecord entry.event entry.sequence entry.previous) = .ok entry.hash
  written : Json.dumps Json.spaced (.obj entry.body) = some entry.line

/-- Completed entries, numbered from a first number, each with the hash of the one before. -/
def Linked : Nat → String → List Entry → Prop
  | _, _, [] => True
  | sequence, previous, entry :: rest =>
      entry.sequence = sequence ∧ entry.previous = previous ∧ Completed lib entry ∧
        Linked (sequence + 1) entry.hash rest

end

def tip (previous : String) (entries : List Entry) : String :=
  entries.foldl (fun _ entry => entry.hash) previous

variable {lib : HashLibrary}

theorem encode?_text (s : String) : encode? (String.text s) = some s := by
  have valid : (String.text s).all (fun code => decide code.isValidChar) = true := by
    rw [List.all_eq_true]
    intro code member
    obtain ⟨c, -, rfl⟩ := List.mem_map.mp member
    exact decide_eq_true c.valid
  unfold encode?
  rw [if_pos valid, String.text, List.map_map]
  have same : Char.ofNat ∘ Char.toNat = id := funext Char.ofNat_toNat
  rw [same, List.map_id, String.ofList_toList]

theorem isText_text (s : String) : isText (some (.str (String.text s))) (String.text s) = true :=
  decide_eq_true rfl

namespace Completed

variable {entry : Entry} (completed : Completed lib entry)

include completed

theorem proper_body : (Json.obj entry.body).Proper lib.canonical := by
  unfold Entry.body linkedRecord
  refine Json.proper_set (Json.proper_set (Json.proper_set completed.proper ?_ ?_) ?_ ?_) ?_ ?_
  all_goals first | exact Json.properText_text _ | trivial

theorem get?_record (key : Text) :
    Dict.get? entry.record key = (Dict.get? entry.body key).map Json.sortKeys :=
  Json.get?_sorted ((Json.proper_obj _).mp completed.proper_body).1 key

theorem loads_line : Json.loads lib.canonical entry.line = .ok (.obj entry.record) := by
  rw [Json.loads_dumps Json.readable_spaced completed.proper_body completed.written, Json.sortKeys_obj]
  rfl

theorem isRecordLine : IsRecordLine entry.line := by
  refine ⟨Json.printing_dumps completed.proper_body completed.written, ?_⟩
  obtain ⟨rest, opens⟩ := Json.dumps_obj completed.written
  rw [opens]
  rfl

theorem get?_eventHash :
    Dict.get? entry.record eventHashKey = some (.str (String.text entry.hash)) := by
  rw [completed.get?_record, Entry.body, Dict.get?_set_self]
  rfl

theorem get?_previousHash :
    Dict.get? entry.record previousHashKey = some (.str (String.text entry.previous)) := by
  rw [completed.get?_record, Entry.body, Dict.get?_set_of_ne _ _ (by decide), linkedRecord,
    Dict.get?_set_self]
  rfl

theorem get?_sequence :
    Dict.get? entry.record sequenceKey = some (.int entry.sequence) := by
  rw [completed.get?_record, Entry.body, Dict.get?_set_of_ne _ _ (by decide), linkedRecord,
    Dict.get?_set_of_ne _ _ (by decide), Dict.get?_set_self]
  rfl

theorem get?_event {key : Text} (sequence : key ≠ sequenceKey) (link : key ≠ previousHashKey)
    (hash : key ≠ eventHashKey) :
    Dict.get? entry.record key = (Dict.get? entry.event key).map Json.sortKeys := by
  rw [completed.get?_record, Entry.body, Dict.get?_set_of_ne _ _ hash, linkedRecord,
    Dict.get?_set_of_ne _ _ link, Dict.get?_set_of_ne _ _ sequence]

theorem recordHash_record : recordHash lib entry.previous entry.record = .ok entry.hash := by
  have same : canonicalText entry.record =
      canonicalText (linkedRecord entry.event entry.sequence entry.previous) := by
    have sorted : canonicalText entry.record = canonicalText entry.body :=
      Json.dumps_filter_sorted Json.compact (fun key => decide (key ≠ eventHashKey))
        completed.proper_body
    rw [sorted, canonicalText, canonicalText, Entry.body, Dict.pop_set]
  rw [← completed.hashed, recordHash, recordHash, same]

end Completed

/-! ### Chains -/

section

variable {entries : List Entry}

@[simp] theorem tip_append (previous : String) (entries : List Entry) (entry : Entry) :
    tip previous (entries ++ [entry]) = entry.hash := by
  simp [tip]

theorem linked_append {sequence : Nat} {previous : String} {entry : Entry} :
    Linked lib sequence previous (entries ++ [entry]) ↔ Linked lib sequence previous entries ∧
      entry.sequence = sequence + entries.length ∧ entry.previous = tip previous entries ∧
        Completed lib entry := by
  induction entries generalizing sequence previous with
  | nil => simp [Linked, tip]
  | cons first entries ih =>
      simp only [List.cons_append, Linked, ih, tip, List.foldl_cons, List.length_cons]
      grind

theorem Linked.completed {sequence : Nat} {previous : String}
    (linked : Linked lib sequence previous entries) : ∀ entry ∈ entries, Completed lib entry := by
  induction entries generalizing sequence previous with
  | nil => nofun
  | cons first entries ih =>
      obtain ⟨-, -, completed, later⟩ := linked
      intro entry member
      rcases List.mem_cons.mp member with rfl | member
      · exact completed
      · exact ih later entry member

theorem Linked.at {sequence : Nat} {previous : String}
    (linked : Linked lib sequence previous entries) {index : Nat} {entry : Entry}
    (here : entries[index]? = some entry) : entry.sequence = sequence + index ∧
      (previous :: entries.map Entry.hash)[index]? = some entry.previous := by
  induction entries generalizing sequence previous index with
  | nil => cases here
  | cons first entries ih =>
      obtain ⟨number, link, -, later⟩ := linked
      cases index with
      | zero =>
          obtain rfl := Option.some.inj here
          exact ⟨number, congrArg some link.symm⟩
      | succ index =>
          obtain ⟨number, link⟩ := ih later here
          exact ⟨by omega, link⟩

theorem verifyFrom_linked {sequence : Nat} {previous : String}
    (linked : Linked lib sequence previous entries) (start : sequence = 0 → previous = genesis) :
    verifyFrom lib sequence previous true (entries.map Entry.line) =
      .ok { valid := true, recordCount := sequence + entries.length, genesisLinked := true
            corruptTail := false, detail := "chain intact" } := by
  induction entries generalizing sequence previous with
  | nil => rfl
  | cons entry entries ih =>
      obtain ⟨rfl, rfl, completed, later⟩ := linked
      have linksGenesis : (true && (decide (entry.sequence ≠ 0) ||
          isText (some (.str (String.text entry.previous))) (String.text genesis))) = true := by
        by_cases first : entry.sequence = 0
        · rw [start first, isText_text, Bool.or_true, Bool.and_true]
        · simp [first]
      rw [List.map_cons, verifyFrom]
      simp only [completed.loads_line, completed.get?_previousHash, linksGenesis, isText_text,
        completed.recordHash_record, completed.get?_eventHash, Bool.not_true,
        Bool.false_eq_true, if_false]
      rw [ih later nofun, List.length_cons, Nat.add_right_comm, Nat.add_assoc]

theorem recordsOf_completed (completed : ∀ entry ∈ entries, Completed lib entry) :
    recordsOf lib (entries.map Entry.line) =
      .ok (entries.map fun entry => Json.obj entry.record) := by
  induction entries with
  | nil => rfl
  | cons entry entries ih =>
      have later := ih fun other member => completed other (List.mem_cons_of_mem entry member)
      rw [List.map_cons, recordsOf, (completed entry List.mem_cons_self).loads_line]
      simp only [later]
      rfl

theorem records_completed (completed : ∀ entry ∈ entries, Completed lib entry) :
    records lib (fileOf (entries.map Entry.line)) =
      .ok (entries.map fun entry => Json.obj entry.record) := by
  have lines : ∀ line ∈ entries.map Entry.line, IsRecordLine line := by
    intro line member
    obtain ⟨entry, inside, rfl⟩ := List.mem_map.mp member
    exact (completed entry inside).isRecordLine
  unfold records
  rw [readAllRaw_fileOf lines]
  exact recordsOf_completed completed

theorem lastHash_completed (completed : ∀ entry ∈ entries, Completed lib entry) :
    lastHash (entries.map fun entry => Json.obj entry.record) = .ok (tip genesis entries) := by
  rcases List.eq_nil_or_concat entries with rfl | ⟨before, entry, rfl⟩
  · rfl
  · have last := completed entry (by simp)
    rw [List.concat_eq_append, tip_append, lastHash, List.map_append, List.map_singleton,
      List.getLast?_concat]
    simp only [last.get?_eventHash, encode?_text]

theorem Linked.verifies (linked : Linked lib 0 genesis entries) :
    verify lib (fileOf (entries.map Entry.line)) =
      .ok { valid := true, recordCount := entries.length, genesisLinked := true
            corruptTail := false, detail := "chain intact" } := by
  have lines : ∀ line ∈ entries.map Entry.line, IsRecordLine line := by
    intro line member
    obtain ⟨entry, inside, rfl⟩ := List.mem_map.mp member
    exact (linked.completed entry inside).isRecordLine
  unfold verify
  rw [readAllRaw_fileOf lines]
  refine (verifyFrom_linked linked fun _ => rfl).trans ?_
  rw [Nat.zero_add]

theorem Linked.grows (linked : Linked lib 0 genesis entries) {event : Dict Text Json}
    (proper : (Json.obj event).Proper lib.canonical) {receipt : Nat × String} {text : List Char}
    (ok : append lib event (fileOf (entries.map Entry.line)) = .ok (receipt, text)) :
    ∃ entry, entry.event = event ∧ entry.receipt = receipt ∧ text = entry.line ++ ['\n'] ∧
      Linked lib 0 genesis (entries ++ [entry]) := by
  obtain ⟨existing, previous, line, read, last, number, hashed, written, rfl⟩ := append_ok ok
  rw [records_completed linked.completed] at read
  obtain rfl := Except.ok.inj read
  rw [lastHash_completed linked.completed] at last
  obtain rfl := Except.ok.inj last
  rw [List.length_map] at number
  let entry : Entry :=
    { event, sequence := receipt.1, previous := tip genesis entries, hash := receipt.2, line }
  refine ⟨entry, rfl, rfl, rfl, linked_append.mpr ⟨linked, ?_, rfl, proper, hashed, written⟩⟩
  rw [Nat.zero_add]
  exact number

theorem Linked.accepts (linked : Linked lib 0 genesis entries) (event : Dict Text Json)
    (printed : (Json.obj event).printable = true)
    (few : (Json.int entries.length).printable = true) :
    ∃ written, append lib event (fileOf (entries.map Entry.line)) = .ok written := by
  apply append_accepts (records_completed linked.completed) (lastHash_completed linked.completed)
    printed
  rw [List.length_map]
  exact few

end

end SyndicateClaw.RuntimeBoundary
