import SyndicateClaw.Data.HashChain
import SyndicateClaw.Data.JsonReading
import SyndicateClaw.RuntimeBoundary.LinkedChain

/-! The last hash of a valid file tells what its records are. -/

namespace SyndicateClaw.RuntimeBoundary

open Json (sortValue KeyLE)

section

variable (lib : HashLibrary)

/-- `verify` reports the file valid. -/
def Valid (file : AuditFile) : Prop :=
  ∃ result, verify lib file = .ok result ∧ result.valid = true

/-- The texts whose UTF-8 encoding `verify` passes to SHA-256, from a line on. -/
def hashedFrom (previous : String) : List (List Char) → List String
  | [] => []
  | line :: rest =>
      match Json.loads lib.canonical line with
      | .ok (.obj record) =>
          if isText (Dict.get? record previousHashKey) (String.text previous) then
            match canonicalText record with
            | none => []
            | some text =>
                let body := previous ++ String.ofList text
                if isText (Dict.get? record eventHashKey) (String.text (lib.sha256 body)) then
                  body :: hashedFrom (lib.sha256 body) rest
                else [body]
          else []
      | _ => []

/-- The texts `verify` hashes. -/
def hashedTexts (file : AuditFile) : List String :=
  match readAllRaw file with
  | .ok lines => hashedFrom lib genesis lines
  | .error _ => []

def SameRecords (existing existing' : List Json) : Prop :=
  existing.map Json.sortKeys = existing'.map Json.sortKeys

/-- A record of a file and its text without the hash. -/
structure Replayed where
  record : Dict Text Json
  text : List Char

/-- `_hash`, on the text of a record. -/
def linkHash (previous : String) (text : List Char) : String :=
  lib.sha256 (previous ++ String.ofList text)

/-- Lines that replay: every record links to the hash before it and has its own hash. -/
inductive Replays : String → List (List Char) → List Replayed → Prop where
  | nil {previous : String} : Replays previous [] []
  | cons {previous : String} {line : List Char} {rest : List (List Char)} {own : Replayed}
      {later : List Replayed} (loaded : Json.loads lib.canonical line = .ok (.obj own.record))
      (link : Dict.get? own.record previousHashKey = some (.str (String.text previous)))
      (canonical : canonicalText own.record = some own.text)
      (hash : Dict.get? own.record eventHashKey =
        some (.str (String.text (linkHash lib previous own.text))))
      (replays : Replays (linkHash lib previous own.text) rest later) :
      Replays previous (line :: rest) (own :: later)

end

variable {lib : HashLibrary}

theorem isText_eq_true {value : Option Json} {text : Text} :
    isText value text = true ↔ value = some (.str text) := by
  unfold isText
  split
  · simp
  · next other =>
      constructor
      · nofun
      · intro same
        exact absurd same (other text)

/-- The loop of `verify` on a line that links and has its own hash. -/
theorem verifyFrom_cons {previous : String} {line : List Char} {own : Replayed}
    (loaded : Json.loads lib.canonical line = .ok (.obj own.record))
    (link : Dict.get? own.record previousHashKey = some (.str (String.text previous)))
    (canonical : canonicalText own.record = some own.text)
    (hash : Dict.get? own.record eventHashKey =
      some (.str (String.text (linkHash lib previous own.text))))
    (count : Nat) (linked : Bool) (rest : List (List Char)) :
    ∃ linked', verifyFrom lib count previous linked (line :: rest) =
      verifyFrom lib (count + 1) (linkHash lib previous own.text) linked' rest := by
  unfold linkHash at hash
  rw [verifyFrom, loaded]
  simp only [link, isText_text, recordHash, canonical, hash, Bool.not_true, Bool.false_eq_true,
    if_false]
  exact ⟨_, rfl⟩

theorem verifyFrom_cons_valid {previous : String} {line : List Char} {count : Nat} {linked : Bool}
    {rest : List (List Char)} {result : VerifyResult}
    (ran : verifyFrom lib count previous linked (line :: rest) = .ok result)
    (valid : result.valid = true) :
    ∃ own : Replayed, Json.loads lib.canonical line = .ok (.obj own.record) ∧
      Dict.get? own.record previousHashKey = some (.str (String.text previous)) ∧
      canonicalText own.record = some own.text ∧
      Dict.get? own.record eventHashKey =
        some (.str (String.text (linkHash lib previous own.text))) := by
  unfold verifyFrom at ran
  dsimp only at ran
  split at ran
  · obtain rfl := Except.ok.inj ran
    cases valid
  · cases ran
  · next record loaded =>
      by_cases link : isText (Dict.get? record previousHashKey) (String.text previous) = true
      · rw [link, Bool.not_true, if_neg Bool.false_ne_true, recordHash] at ran
        cases canonical : canonicalText record with
        | none =>
            rw [canonical] at ran
            cases ran
        | some text =>
            rw [canonical] at ran
            dsimp only at ran
            split at ran
            · obtain rfl := Except.ok.inj ran
              cases valid
            · next own =>
                rw [Bool.not_eq_true, Bool.not_eq_false', isText_eq_true] at own
                exact ⟨⟨record, text⟩, loaded, isText_eq_true.mp link, canonical, own⟩
      · rw [Bool.not_eq_true] at link
        rw [link, Bool.not_false, if_pos rfl] at ran
        obtain rfl := Except.ok.inj ran
        cases valid
  · cases ran

theorem verifyFrom_valid {previous : String} {lines : List (List Char)} {count : Nat}
    {linked : Bool} : (∃ result, verifyFrom lib count previous linked lines = .ok result ∧
      result.valid = true) ↔ ∃ replayed, Replays lib previous lines replayed := by
  induction lines generalizing previous count linked with
  | nil => exact ⟨fun _ => ⟨[], .nil⟩, fun _ => ⟨_, rfl, rfl⟩⟩
  | cons line rest ih =>
      constructor
      · rintro ⟨result, ran, valid⟩
        obtain ⟨own, loaded, link, canonical, hash⟩ := verifyFrom_cons_valid ran valid
        obtain ⟨linked', later⟩ := verifyFrom_cons loaded link canonical hash count linked rest
        rw [later] at ran
        obtain ⟨replayed, replays⟩ := ih.mp ⟨result, ran, valid⟩
        exact ⟨own :: replayed, .cons loaded link canonical hash replays⟩
      · rintro ⟨replayed, replays⟩
        cases replays with
        | @cons _ _ _ own later loaded link canonical hash replays =>
            obtain ⟨linked', same⟩ := verifyFrom_cons loaded link canonical hash count linked rest
            rw [same]
            exact ih.mpr ⟨later, replays⟩

theorem valid_iff {file : AuditFile} : Valid lib file ↔
    ∃ lines replayed, readAllRaw file = .ok lines ∧ Replays lib genesis lines replayed := by
  unfold Valid verify
  cases readAllRaw file with
  | error e => exact ⟨nofun, nofun⟩
  | ok lines =>
      have replays := @verifyFrom_valid lib genesis lines 0 true
      refine replays.trans ?_
      simp

namespace Replays

variable {previous : String} {lines lines' : List (List Char)} {replayed replayed' : List Replayed}

theorem recordsOf (replays : Replays lib previous lines replayed) :
    RuntimeBoundary.recordsOf lib lines = .ok (replayed.map fun own => Json.obj own.record) := by
  induction replays with
  | nil => rfl
  | cons loaded link canonical hash replays ih =>
      unfold RuntimeBoundary.recordsOf
      rw [loaded]
      simp only [ih]
      rfl

theorem hashedFrom (replays : Replays lib previous lines replayed) :
    RuntimeBoundary.hashedFrom lib previous lines =
      (HashChain.hashed (linkHash lib) previous (replayed.map Replayed.text)).map fun pair =>
        pair.1 ++ String.ofList pair.2 := by
  induction replays with
  | nil => rfl
  | cons loaded link canonical hash replays ih =>
      unfold RuntimeBoundary.hashedFrom
      unfold linkHash at hash ih
      rw [loaded]
      simp only [link, isText_text, canonical, hash, if_true, ih]
      rfl

theorem lastHash (replays : Replays lib previous lines replayed)
    (nonempty : replayed = [] → previous = genesis) :
    RuntimeBoundary.lastHash (replayed.map fun own => Json.obj own.record) =
      .ok (HashChain.tip (linkHash lib) previous (replayed.map Replayed.text)) := by
  induction replays with
  | nil =>
      rw [nonempty rfl]
      rfl
  | @cons previous line rest own later loaded link canonical hash replays ih =>
      cases later with
      | nil =>
          unfold RuntimeBoundary.lastHash
          rw [List.map_singleton, List.getLast?_singleton]
          simp only [hash, encode?_text]
          rfl
      | cons next later =>
          have tail := ih nofun
          unfold RuntimeBoundary.lastHash at tail ⊢
          rw [List.map_cons, List.map_cons, List.getLast?_cons_cons]
          exact tail

theorem sameRecords (floats : Json.ReprsFloats lib.canonical)
    (replays : Replays lib previous lines replayed)
    (replays' : Replays lib previous lines' replayed')
    (same : replayed.map Replayed.text = replayed'.map Replayed.text) :
    SameRecords (replayed.map fun own => Json.obj own.record)
      (replayed'.map fun own => Json.obj own.record) := by
  induction replays generalizing lines' replayed' with
  | nil =>
      obtain rfl := List.map_eq_nil_iff.mp same.symm
      rfl
  | @cons previous line rest own later loaded link canonical hash replays ih =>
      cases replays' with
      | nil => cases same
      | @cons _ _ _ own' later' loaded' link' canonical' hash' replays' =>
          obtain ⟨text, texts⟩ := List.cons.inj same
          rw [← text] at canonical' hash' replays'
          have bodies := Json.dumps_injective Json.readable_compact
            (Json.proper_pop (Json.proper_loads floats loaded) eventHashKey)
            (Json.proper_pop (Json.proper_loads floats loaded') eventHashKey) canonical canonical'
          have records := Json.sortKeys_of_pop (Json.proper_loads floats loaded)
            (Json.proper_loads floats loaded') hash hash' bodies
          unfold SameRecords
          simp only [List.map_cons, records]
          exact congrArg _ (ih replays' texts)

end Replays

/-- SHA-256 as `linkHash` takes it, on texts of which no two collide. -/
theorem linkHash_injective {pairs : Set (String × List Char)} (long : ∀ pair ∈ pairs, pair.1.length = 64)
    (injective : Set.InjOn lib.sha256
      ((fun pair : String × List Char => pair.1 ++ String.ofList pair.2) '' pairs)) :
    Set.InjOn (Function.uncurry (linkHash lib)) pairs := by
  rintro ⟨previous, text⟩ member ⟨previous', text'⟩ member' same
  have bodies := injective ⟨_, member, rfl⟩ ⟨_, member', rfl⟩ same
  have chars := congrArg String.toList bodies
  simp only [String.toList_append, String.toList_ofList] at chars
  have lengths : previous.toList.length = previous'.toList.length := by
    rw [String.length_toList, String.length_toList, long _ member, long _ member']
  obtain ⟨front, back⟩ := List.append_inj chars lengths
  rw [String.toList_inj.mp front, back]

theorem hashed_long (digests : ∀ text, (lib.sha256 text).length = 64) {previous : String}
    (long : previous.length = 64) (texts : List (List Char)) :
    ∀ pair ∈ HashChain.hashed (linkHash lib) previous texts, pair.1.length = 64 := by
  induction texts generalizing previous with
  | nil => nofun
  | cons text texts ih =>
      intro pair member
      rcases List.mem_cons.mp member with rfl | later
      · exact long
      · exact ih (digests _) pair later

theorem hashedTexts_of_replays {file : AuditFile} {lines : List (List Char)}
    {replayed : List Replayed} (raw : readAllRaw file = .ok lines)
    (replays : Replays lib genesis lines replayed) :
    hashedTexts lib file =
      (HashChain.hashed (linkHash lib) genesis (replayed.map Replayed.text)).map fun pair =>
        pair.1 ++ String.ofList pair.2 := by
  unfold hashedTexts
  rw [raw]
  exact replays.hashedFrom

theorem valid_sameRecords (floats : Json.ReprsFloats lib.canonical)
    (digests : ∀ text, (lib.sha256 text).length = 64) {file file' : AuditFile}
    (injective : Set.InjOn lib.sha256
      {text | text ∈ hashedTexts lib file ∨ text ∈ hashedTexts lib file'})
    {existing existing' : List Json} (read : records lib file = .ok existing)
    (read' : records lib file' = .ok existing') (last : lastHash existing = lastHash existing')
    (valid : Valid lib file) (valid' : Valid lib file')
    (apart : existing.length = existing'.length ∨
      ∀ text, text ∈ hashedTexts lib file ∨ text ∈ hashedTexts lib file' →
        lib.sha256 text ≠ genesis) :
    SameRecords existing existing' := by
  obtain ⟨lines, replayed, raw, replays⟩ := valid_iff.mp valid
  obtain ⟨lines', replayed', raw', replays'⟩ := valid_iff.mp valid'
  have hashed := hashedTexts_of_replays raw replays
  have hashed' := hashedTexts_of_replays raw' replays'
  unfold records at read read'
  simp only [raw, raw', bind, Except.bind, replays.recordsOf, replays'.recordsOf] at read read'
  obtain rfl := Except.ok.inj read
  obtain rfl := Except.ok.inj read'
  rw [replays.lastHash fun _ => rfl, replays'.lastHash fun _ => rfl] at last
  apply replays.sameRecords floats replays'
  apply HashChain.bodies_unique _ _ (Except.ok.inj last)
  · apply linkHash_injective
    · rintro pair (member | member)
      · exact hashed_long digests rfl _ pair member
      · exact hashed_long digests rfl _ pair member
    · apply injective.mono
      rintro text ⟨pair, member, rfl⟩
      rw [Set.mem_ofPred_eq, hashed, hashed']
      exact member.imp List.mem_map_of_mem List.mem_map_of_mem
  · apply apart.imp
    · intro long
      simpa using long
    · intro never pair member
      apply never (pair.1 ++ String.ofList pair.2)
      rw [hashed, hashed']
      exact member.imp List.mem_map_of_mem List.mem_map_of_mem

/-- Two valid files of equally many records with the same last hash have the same records. So a
file with the last hash of a valid one and other records is not valid: equally many of them, or
any number where no text that is hashed has the hash `GENESIS`. -/
theorem tamper_evident (floats : Json.ReprsFloats lib.canonical)
    (digests : ∀ text, (lib.sha256 text).length = 64) {file file' : AuditFile}
    (injective : Set.InjOn lib.sha256
      {text | text ∈ hashedTexts lib file ∨ text ∈ hashedTexts lib file'})
    {existing existing' : List Json} (read : records lib file = .ok existing)
    (read' : records lib file' = .ok existing')
    (last : lastHash existing = lastHash existing') :
    (Valid lib file → Valid lib file' → existing.length = existing'.length →
      SameRecords existing existing') ∧
    (Valid lib file → ¬ SameRecords existing existing' →
      existing.length = existing'.length ∨
        (∀ text, text ∈ hashedTexts lib file ∨ text ∈ hashedTexts lib file' →
          lib.sha256 text ≠ genesis) →
      ¬ Valid lib file') := by
  have same := valid_sameRecords floats digests injective read read' last
  constructor
  · intro valid valid' long
    exact same valid valid' (.inl long)
  · intro valid tampered apart valid'
    exact tampered (same valid valid' apart)

def floatless : HashLibrary where
  canonical _ := "NaN".toList
  sha256 := Sha256.hexdigest

def firstText : List Char :=
  Json.dump Json.compact (Json.obj (Dict.pop (linkedRecord [] 0 genesis) eventHashKey)).sortKeys

def firstRecord : Dict Text Json :=
  Dict.set (linkedRecord [] 0 genesis) eventHashKey
    (.str (String.text (linkHash floatless genesis firstText)))

theorem firstRecord_proper : (Json.obj firstRecord).Proper floatless.canonical := by
  have empty : (Json.obj []).Proper floatless.canonical := ⟨.nil, trivial⟩
  refine Json.proper_set (Json.proper_set (Json.proper_set empty ?_ ?_) ?_ ?_) ?_ ?_
  all_goals first | exact Json.properText_text _ | trivial

theorem firstRecord_printable : (Json.obj firstRecord).printable = true :=
  Json.printable_set (Json.printable_set (@Json.printable_set [] rfl _ (.int 0) (by decide)) _ rfl)
    _ rfl

def firstFile (sep : Json.Separators) : AuditFile :=
  fileOf [Json.dump sep (.obj firstRecord)]

theorem firstFile_raw {sep : Json.Separators}
    (separators : ∀ c, c ∈ sep.item ∨ c ∈ sep.key → Json.Printing c) :
    readAllRaw (firstFile sep) = .ok [Json.dump sep (.obj firstRecord)] := by
  apply readAllRaw_fileOf
  intro line member
  obtain rfl := List.mem_singleton.mp member
  exact ⟨Json.printing_dump separators _ firstRecord_proper, rfl⟩

theorem firstFile_replays {sep : Json.Separators} (readable : sep.Readable) :
    Replays floatless genesis [Json.dump sep (.obj firstRecord)] [⟨firstRecord, firstText⟩] := by
  refine .cons (Json.loads_dump readable firstRecord_proper firstRecord_printable) ?_ ?_ ?_ .nil
  · rw [firstRecord, Dict.get?_set_of_ne _ _ (by decide), linkedRecord, Dict.get?_set_self]
  · rw [firstRecord, canonicalText, Dict.pop_set]
    exact Json.dumps_eq_some _ (by decide)
  · rw [firstRecord, Dict.get?_set_self]

section

variable {sep : Json.Separators} (readable : sep.Readable)
  (separators : ∀ c, c ∈ sep.item ∨ c ∈ sep.key → Json.Printing c)

include readable separators

theorem firstFile_valid : Valid floatless (firstFile sep) :=
  valid_iff.mpr ⟨_, _, firstFile_raw separators, firstFile_replays readable⟩

theorem firstFile_hashed :
    hashedTexts floatless (firstFile sep) = [genesis ++ String.ofList firstText] :=
  hashedTexts_of_replays (firstFile_raw separators) (firstFile_replays readable)

theorem firstFile_records :
    records floatless (firstFile sep) = .ok [.obj firstRecord] := by
  unfold records
  rw [firstFile_raw separators]
  exact (firstFile_replays readable).recordsOf

end

theorem floatless_reprs : Json.ReprsFloats floatless.canonical := fun _ _ => .nan

/-- The first record in both spellings of `json.dumps`. -/
theorem tamper_evident_spellings : Valid floatless (firstFile Json.spaced) ∧
    Valid floatless (firstFile Json.compact) ∧
    SameRecords [.obj firstRecord] [.obj firstRecord] := by
  have valid := firstFile_valid Json.readable_spaced Json.printing_spaced
  have valid' := firstFile_valid Json.readable_compact Json.printing_compact
  have read := firstFile_records Json.readable_spaced Json.printing_spaced
  have read' := firstFile_records Json.readable_compact Json.printing_compact
  have injective : Set.InjOn floatless.sha256
      {text | text ∈ hashedTexts floatless (firstFile Json.spaced) ∨
        text ∈ hashedTexts floatless (firstFile Json.compact)} := by
    rw [firstFile_hashed Json.readable_spaced Json.printing_spaced,
      firstFile_hashed Json.readable_compact Json.printing_compact]
    intro text member text' member' _
    rw [Set.mem_ofPred_eq, or_self, List.mem_singleton] at member member'
    rw [member, member']
  have evident := tamper_evident floatless_reprs Sha256.length_hexdigest injective read read' rfl
  exact ⟨valid, valid', evident.1 valid valid' rfl⟩

end SyndicateClaw.RuntimeBoundary
