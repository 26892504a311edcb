import Mathlib.Logic.Relation
import SyndicateClaw.RuntimeBoundary.Authorization
import SyndicateClaw.RuntimeBoundary.LinkedChain

/-! What becomes of a chain that `verify` reports invalid.

`append` reads the records up to the first line that does not parse and links to the last of
them; it denies only what it cannot link to. -/

namespace SyndicateClaw.RuntimeBoundary

open Orchestrator Tools

section

variable (lib : HashLibrary)

def ReportsInvalid (file : AuditFile) : Prop :=
  ∃ result, verify lib file = .ok result ∧ result.valid = false

/-! ### The lines that `append` reads -/

def parses (line : List Char) : Bool :=
  match Json.loads lib.canonical line with
  | .error .decode => false
  | _ => true

variable {lib} in
theorem parses_eq_false {line : List Char} :
    parses lib line = false ↔ Json.loads lib.canonical line = .error .decode := by
  unfold parses
  split <;> simp_all

def parsedLines (lines : List (List Char)) : List (List Char) := lines.takeWhile (parses lib)

/-- An object whose `event_hash` is a text that UTF-8 encodes. -/
def IsLink (line : List Char) : Prop :=
  ∃ record text hash, Json.loads lib.canonical line = .ok (.obj record) ∧
    Dict.get? record eventHashKey = some (.str text) ∧ encode? text = some hash

/-- The lines before the first that is no JSON can be read and numbered, and the last of them,
if there is one, can be linked to. -/
structure Usable (lines : List (List Char)) : Prop where
  readable : ∀ line ∈ parsedLines lib lines, Json.loads lib.canonical line ≠ .error .value
  link : ∀ line, (parsedLines lib lines).getLast? = some line → IsLink lib line
  few : (Json.int (parsedLines lib lines).length).printable = true

def TailUsable (file : AuditFile) : Prop := ∀ lines, readAllRaw file = .ok lines → Usable lib lines

/-! ### Denial -/

def Appends : AuditFile → AuditFile → Prop :=
  Relation.ReflTransGen fun file file' =>
    ∃ event receipt text, append lib event file = .ok (receipt, text) ∧
      file' = file.map fun own => own ++ text

def decisionKey : Text := String.text "decision"

/-- Every append raises, no boundary over the file allows, and no appends lead to an allow
record. -/
structure Denies (file : AuditFile) : Prop where
  raises : ∀ event, ∃ e, append lib event file = .error e
  denied : ∀ {τ : Type} (boundary : ClawRuntimeBoundary DurableChain State τ),
    boundary.audit = durableAuditChain lib → ∀ ctx expected s, s.chain.file = file →
      ((authorize boundary ctx expected).run s).1.allowed = false
  never : ∀ file', Appends lib file file' → ∀ event,
    Dict.get? event decisionKey = some (.str (String.text "allow")) →
      ∃ e, append lib event file' = .error e

variable {lib}

theorem recordsOf_ok {lines : List (List Char)} {existing : List Json}
    (read : recordsOf lib lines = .ok existing) :
    (parsedLines lib lines).map (Json.loads lib.canonical) = existing.map Except.ok := by
  induction lines generalizing existing with
  | nil =>
      cases read
      rfl
  | cons line lines ih =>
      unfold recordsOf at read
      unfold parsedLines
      rw [List.takeWhile_cons, parses]
      split at read
      · next record loaded =>
          cases later : recordsOf lib lines with
          | error e =>
              rw [later] at read
              cases read
          | ok records =>
              rw [later] at read
              cases read
              rw [loaded]
              simp only [if_true, List.map_cons, loaded]
              exact congrArg _ (ih later)
      · next failed =>
          cases read
          rw [failed]
          rfl
      · cases read

theorem recordsOf_readable {lines : List (List Char)}
    (readable : ∀ line ∈ parsedLines lib lines, Json.loads lib.canonical line ≠ .error .value) :
    ∃ existing, recordsOf lib lines = .ok existing := by
  induction lines with
  | nil => exact ⟨[], rfl⟩
  | cons line lines ih =>
      unfold parsedLines at readable
      rw [List.takeWhile_cons, parses] at readable
      unfold recordsOf
      split
      · next record loaded =>
          rw [loaded, if_pos rfl] at readable
          obtain ⟨records, later⟩ := ih fun other member =>
            readable other (List.mem_cons_of_mem line member)
          rw [later]
          exact ⟨_, rfl⟩
      · exact ⟨[], rfl⟩
      · next failed =>
          rw [failed, if_pos rfl] at readable
          exact absurd failed (readable line List.mem_cons_self)

theorem lastHash_isLink {lines : List (List Char)} {existing : List Json}
    (same : (parsedLines lib lines).map (Json.loads lib.canonical) = existing.map Except.ok) :
    (∃ previous, lastHash existing = .ok previous) ↔
      ∀ line, (parsedLines lib lines).getLast? = some line → IsLink lib line := by
  have last := congrArg List.getLast? same
  rw [List.getLast?_map, List.getLast?_map] at last
  cases tail : (parsedLines lib lines).getLast? with
  | none =>
      rw [tail] at last
      have none := Option.map_eq_none_iff.mp last.symm
      unfold lastHash
      rw [none]
      exact ⟨fun _ => nofun, fun _ => ⟨_, rfl⟩⟩
  | some line =>
      rw [tail, Option.map_some] at last
      obtain ⟨record, isLast, loaded⟩ := Option.map_eq_some_iff.mp last.symm
      unfold lastHash
      rw [isLast]
      constructor
      · rintro ⟨previous, ok⟩ own same
        obtain rfl := Option.some.inj same
        cases record with
        | obj entries =>
            dsimp only at ok
            split at ok
            · cases ok
            · next text found =>
                split at ok
                · next hash encoded => exact ⟨entries, text, hash, loaded.symm, found, encoded⟩
                · cases ok
            · cases ok
        | _ => cases ok
      · intro links
        obtain ⟨entries, text, hash, loaded', found, encoded⟩ := links line rfl
        obtain rfl := Except.ok.inj (loaded.trans loaded')
        simp only [found, encoded]
        exact ⟨hash, rfl⟩

theorem append_accepts_iff {file : AuditFile} {lines : List (List Char)}
    (raw : readAllRaw file = .ok lines) :
    (∃ event written, append lib event file = .ok written) ↔ Usable lib lines := by
  have reads : records lib file = recordsOf lib lines := by
    unfold records
    rw [raw]
    rfl
  constructor
  · rintro ⟨event, ⟨receipt, text⟩, ok⟩
    obtain ⟨existing, previous, line, read, last, number, -, written, -⟩ := append_ok ok
    have same := recordsOf_ok (reads.symm.trans read)
    have count : (parsedLines lib lines).length = receipt.1 := by
      have lengths := congrArg List.length same
      rwa [List.length_map, List.length_map, ← number] at lengths
    refine ⟨fun line member failed => ?_, (lastHash_isLink same).mp ⟨previous, last⟩, ?_⟩
    · have loaded : Json.loads lib.canonical line ∈ existing.map Except.ok :=
        same ▸ List.mem_map_of_mem member
      rw [failed] at loaded
      obtain ⟨_, _, wrong⟩ := List.mem_map.mp loaded
      cases wrong
    · rw [count]
      refine (Json.printable_obj _).mp (Json.dumps_printable written) (sequenceKey, _) ?_
      apply Dict.mem_of_get?
      rw [Dict.get?_set_of_ne _ _ (by decide), linkedRecord,
        Dict.get?_set_of_ne _ _ (by decide), Dict.get?_set_self]
  · intro usable
    obtain ⟨existing, read⟩ := recordsOf_readable usable.readable
    have same := recordsOf_ok read
    obtain ⟨previous, last⟩ := (lastHash_isLink same).mpr usable.link
    have count : existing.length = (parsedLines lib lines).length := by
      have lengths := congrArg List.length same
      rwa [List.length_map, List.length_map, eq_comm] at lengths
    refine ⟨[], append_accepts (reads.trans read) last rfl ?_⟩
    rw [count]
    exact usable.few

theorem Linked.usable {entries : List Entry} (linked : Linked lib 0 genesis entries)
    (few : (Json.int entries.length).printable = true) {torn : List Char}
    (unparsed : parses lib torn = false) (rest : List (List Char)) :
    Usable lib (entries.map Entry.line ++ torn :: rest) := by
  have loaded := fun entry member => (linked.completed entry member).loads_line
  have parsed : parsedLines lib (entries.map Entry.line ++ torn :: rest) =
      entries.map Entry.line := by
    unfold parsedLines
    rw [List.takeWhile_append_of_pos, List.takeWhile_cons, unparsed, if_neg Bool.false_ne_true,
      List.append_nil]
    intro line member
    obtain ⟨entry, inside, rfl⟩ := List.mem_map.mp member
    rw [parses, loaded entry inside]
  refine ⟨fun line member => ?_, fun line last => ?_, ?_⟩
  · rw [parsed] at member
    obtain ⟨entry, inside, rfl⟩ := List.mem_map.mp member
    rw [loaded entry inside]
    nofun
  · rw [parsed] at last
    obtain ⟨entry, inside, rfl⟩ := List.mem_map.mp (List.mem_of_getLast? last)
    exact ⟨entry.record, _, entry.hash, loaded entry inside,
      (linked.completed entry inside).get?_eventHash, encode?_text entry.hash⟩
  · rw [parsed, List.length_map]
    exact few

end

def numberHashLine : List Char := Json.dump Json.spaced (.obj [(eventHashKey, .int 5)])

def tornLine : List Char := "\x7b\"action\": \"pub".toList

def durableBoundary : ClawRuntimeBoundary DurableChain State Unit :=
  { validate := fun _ _ service =>
      ({ status := .allow, permitId := .str "permit-1"
         validatedAt := "2026-01-01T00:00:00+00:00", detail := "" }, service)
    production := true
    audit := durableAuditChain sha256Library
    utcnow := fun _ => "2026-01-01T00:00:00+00:00" }

def publishAuthority : AuthorityContext :=
  { authorityReference := .str "ref-1", actor := .str "alice", tenantId := .none
    projectId := .none, workspaceId := .none, toolIdentity := .str "publish"
    action := .str "publish", resourceScope := .none, approvalId := .none
    correlationId := .none, gateEvidenceReference := .none, requiresGateEvidence := false }

def publishBinding : ExpectedBinding :=
  { actor := "alice", tenantId := "", projectId := "", workspaceId := ""
    toolIdentity := "publish", action := "publish", resourceScope := "", approvalId := .none
    requireApproval := false }

def tornState : BoundaryState DurableChain Unit :=
  { chain := { file := some tornLine, fail := false, written := [] }, service := ()
    consulted := [], ticks := 0 }

end SyndicateClaw.RuntimeBoundary
