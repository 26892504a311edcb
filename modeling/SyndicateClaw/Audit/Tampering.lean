import SyndicateClaw.Audit.Ledger
import SyndicateClaw.Data.Sha256

/-! Which changes of a recorded decision the checks of the hashes report. -/

namespace SyndicateClaw.Audit

open Authz (Time)

/-- The check of one decision passes, and the check of all of them does not report it. -/
def Accepted (library : LedgerLibrary) (table : DecisionTable) (limit : Nat)
    (scan : List DecisionRow) (decisionId : String) : Prop :=
  library.verifyIntegrity table decisionId = some true ∧
    ∀ violation ∈ (library.verifyDecisionHashes limit scan).getD [],
      violation.decisionRecordId ≠ decisionId

def Reported (library : LedgerLibrary) (table : DecisionTable) (limit : Nat)
    (scan : List DecisionRow) (decisionId : String) : Prop :=
  library.verifyIntegrity table decisionId = some false ∧
    ∃ violation ∈ (library.verifyDecisionHashes limit scan).getD [],
      violation.decisionRecordId = decisionId

/-- The hash gives the change away: it is the recorded one, and the inputs are others, or it is
another one than that of the inputs. -/
def Exposed (library : LedgerLibrary) (decision : Decision) (row altered : DecisionRow) : Prop :=
  if altered.contextHash = row.contextHash then
    (orEmpty altered.inputs).sortKeys ≠ (Json.obj decision.inputs).sortKeys
  else library.hashInputs (orEmpty altered.inputs) ≠ some altered.contextHash

def Scanned (limit : Nat) (scan : List DecisionRow) (row : DecisionRow) : Prop :=
  row ∈ scan.take limit ∧ ∀ other ∈ scan.take limit, other.inputs.printable = true

section

variable {library : LedgerLibrary} {canonical : List Char → List Char} {document other : Json}
  {table stored : DecisionTable} {scan rows : List DecisionRow} {row : DecisionRow} {limit : Nat}

/-! ### Documents -/

theorem proper_orEmpty (proper : document.Proper canonical) :
    (orEmpty document).Proper canonical := by
  unfold orEmpty
  split
  all_goals first | exact ⟨List.nodup_nil, trivial⟩ | skip
  · split
    · exact ⟨List.nodup_nil, trivial⟩
    · exact proper
  · exact proper

theorem printable_orEmpty (document : Json) :
    (orEmpty document).printable = document.printable := by
  unfold orEmpty
  split
  all_goals first | rfl | skip
  split
  all_goals rfl

/-! ### Recording -/

theorem record_some {ledger : DecisionLedger} {decision : Decision} {id : String} {createdAt : Time}
    (recorded : ledger.record table decision id createdAt = some (stored, row)) :
    stored.get? id = some row ∧ row.id = id ∧
      ledger.library.hashInputs (.obj decision.inputs) = some row.contextHash ∧
      ledger.library.jsonb (.obj decision.inputs) = some row.inputs := by
  unfold DecisionLedger.record DecisionLedger.rowOf at recorded
  simp only [Option.bind_eq_bind, Option.bind_eq_some_iff, Option.guard_eq_some', Option.pure_def,
    Option.some.injEq, Prod.mk.injEq] at recorded
  obtain ⟨made, ⟨contextHash, hashed, effects, _, inputs, kept, rules, _, sides, _, _, _, rfl⟩, _,
    fresh, rfl, rfl⟩ := recorded
  refine ⟨?_, rfl, hashed, kept⟩
  rw [Keyed.get?_insert, if_pos ⟨fresh, rfl⟩]

theorem record_signed {ledger : DecisionLedger} {decision : Decision} {id : String}
    {createdAt : Time} (recorded : ledger.record table decision id createdAt = some (stored, row))
    {key : List Nat} (keyed : ledger.signingKey = some key)
    (proper : (Json.obj decision.inputs).Proper canonical) :
    ∃ signature,
      ledger.library.jsonb (.arr ((decision.sideEffects ++ ["hmac:" ++ signature]).map
        fun text => .str (String.text text))) = some row.sideEffects ∧
      ∀ inputs : Json, inputs.Proper canonical →
        Json.Apart (ledger.library.hmac key) (.obj decision.inputs) inputs →
        (ledger.library.verifySignature inputs signature key = some true ↔
          inputs.sortKeys = (Json.obj decision.inputs).sortKeys) := by
  unfold DecisionLedger.record DecisionLedger.rowOf DecisionLedger.signedEffects at recorded
  rw [keyed] at recorded
  simp only [Option.bind_eq_bind, Option.bind_eq_some_iff, Option.guard_eq_some', Option.pure_def,
    Option.some.injEq, Prod.mk.injEq] at recorded
  obtain ⟨made, ⟨_, _, _, ⟨signature, signed, rfl⟩, _, _, _, _, sides, kept, _, _, rfl⟩, _, _, _,
    rfl⟩ := recorded
  refine ⟨signature, kept, ?_⟩
  intro inputs properInputs apart
  rw [← Json.digest_iff proper properInputs apart signed]
  unfold LedgerLibrary.verifySignature LedgerLibrary.signPayload
  rw [Option.map_map]
  simp [Option.map_eq_some_iff]

/-! ### Checking -/

theorem isSome_hashInputs (library : LedgerLibrary) :
    (library.hashInputs (orEmpty document)).isSome = document.printable := by
  unfold LedgerLibrary.hashInputs
  rw [Option.isSome_map, Json.isSome_canonicalText, printable_orEmpty]

theorem isSome_violations (library : LedgerLibrary) : (library.violations rows).isSome ↔
    ∀ row ∈ rows, row.inputs.printable = true := by
  induction rows with
  | nil => simp [LedgerLibrary.violations]
  | cons row rest ih =>
      rw [List.forall_mem_cons, ← ih, ← isSome_hashInputs library, LedgerLibrary.violations]
      cases library.hashInputs (orEmpty row.inputs) with
      | none => simp
      | some expected =>
          cases LedgerLibrary.violations library rest with
          | none => simp
          | some later => simp

theorem mem_violations {found : List HashViolation} (checked : library.violations rows = some found)
    (decisionId : String) : (∃ violation ∈ found, violation.decisionRecordId = decisionId) ↔
      ∃ row ∈ rows, row.id = decisionId ∧
        library.hashInputs (orEmpty row.inputs) ≠ some row.contextHash := by
  induction rows generalizing found with
  | nil =>
      obtain rfl := Option.some.inj checked
      simp
  | cons row rest ih =>
      rw [LedgerLibrary.violations] at checked
      simp only [Option.bind_eq_bind, Option.bind_eq_some_iff, Option.pure_def,
        Option.some.injEq] at checked
      obtain ⟨expected, hashed, later, checked, rfl⟩ := checked
      rw [List.exists_mem_cons_iff, ← ih checked, hashed]
      by_cases same : expected = row.contextHash
      · simp [same]
      · simp [same]

theorem verifyIntegrity_eq {decisionId : String} (found : table.get? decisionId = some row)
    (passes : Bool) : library.verifyIntegrity table decisionId = some passes ↔
      ∃ expected, library.hashInputs (orEmpty row.inputs) = some expected ∧
        decide (expected = row.contextHash) = passes := by
  unfold LedgerLibrary.verifyIntegrity
  rw [found]
  exact Option.map_eq_some_iff

theorem Listing.only (listing : Listing table scan) {decisionId : String}
    (found : table.get? decisionId = some row) {listed : DecisionRow} (member : listed ∈ scan)
    (same : listed.id = decisionId) : listed = row := by
  have stored := Keyed.get?_of_mem (listing.rows.mem_iff.mp member)
  rw [same, found] at stored
  exact (Option.some.inj stored).symm

theorem accepted_iff (listing : Listing table scan) {decisionId : String}
    (found : table.get? decisionId = some row) : Accepted library table limit scan decisionId ↔
      library.hashInputs (orEmpty row.inputs) = some row.contextHash := by
  unfold Accepted
  rw [verifyIntegrity_eq found]
  constructor
  · rintro ⟨⟨expected, hashed, same⟩, _⟩
    rw [hashed, of_decide_eq_true same]
  · intro hashed
    refine ⟨⟨_, hashed, decide_eq_true rfl⟩, ?_⟩
    intro violation member named
    cases checked : library.verifyDecisionHashes limit scan with
    | none =>
        rw [checked] at member
        cases member
    | some violations =>
        rw [checked] at member
        obtain ⟨listed, inside, same, differs⟩ :=
          (mem_violations checked decisionId).mp ⟨violation, member, named⟩
        obtain rfl := listing.only found (List.mem_of_mem_take inside) same
        exact differs hashed

theorem reported_iff (listing : Listing table scan) {decisionId : String} (named : row.id = decisionId)
    (found : table.get? decisionId = some row) : Reported library table limit scan decisionId ↔
      library.hashInputs (orEmpty row.inputs) ≠ some row.contextHash ∧ Scanned limit scan row := by
  unfold Reported Scanned
  rw [verifyIntegrity_eq found, ← isSome_violations library]
  unfold LedgerLibrary.verifyDecisionHashes
  cases checked : library.violations (scan.take limit) with
  | none => simp
  | some violations =>
      rw [Option.getD_some, mem_violations checked]
      constructor
      · rintro ⟨_, listed, inside, same, differs⟩
        obtain rfl := listing.only found (List.mem_of_mem_take inside) same
        exact ⟨differs, inside, rfl⟩
      · rintro ⟨differs, inside, _⟩
        refine ⟨?_, row, inside, named, differs⟩
        have readable : row.inputs.printable = true :=
          (isSome_violations library).mp (Option.isSome_of_eq_some checked) row inside
        rw [← isSome_hashInputs library] at readable
        obtain ⟨expected, hashed⟩ := Option.isSome_iff_exists.mp readable
        refine ⟨expected, hashed, decide_eq_false ?_⟩
        rintro rfl
        exact differs hashed

end

/-- A recorded decision is accepted if the column gives its inputs back, and a changed one is reported
if its hash gives the change away and the check gets to it. -/
theorem tampering_reported_iff (ledger : DecisionLedger) (canonical : List Char → List Char)
    (table stored : DecisionTable) (decision : Decision) (id : String) (createdAt : Time)
    (row : DecisionRow) (recorded : ledger.record table decision id createdAt = some (stored, row))
    (proper : (Json.obj decision.inputs).Proper canonical) :
    (∀ limit scan, Listing stored scan → row.inputs.Proper canonical →
      Json.Apart ledger.library.sha256 (.obj decision.inputs) (orEmpty row.inputs) →
        (Accepted ledger.library stored limit scan id ↔
          (orEmpty row.inputs).sortKeys = (Json.obj decision.inputs).sortKeys)) ∧
    ∀ (tampered : DecisionTable) (altered : DecisionRow) limit scan,
      tampered.get? id = some altered → Listing tampered scan →
      altered.inputs.Proper canonical →
      Json.Apart ledger.library.sha256 (.obj decision.inputs) (orEmpty altered.inputs) →
        (Reported ledger.library tampered limit scan id ↔
          Exposed ledger.library decision row altered ∧ Scanned limit scan altered) := by
  obtain ⟨found, named, hashed, _⟩ := record_some recorded
  constructor
  · intro limit scan listing properRow apart
    rw [accepted_iff listing found]
    exact Json.digest_iff proper (proper_orEmpty properRow) apart hashed
  · intro tampered altered limit scan there listing properAltered apart
    have id : altered.id = id := (Keyed.get?_eq_some.mp there).2
    rw [reported_iff listing id there]
    apply and_congr_left'
    unfold Exposed
    split
    · next same =>
        rw [same]
        exact not_congr (Json.digest_iff proper (proper_orEmpty properAltered) apart hashed)
    · rfl

/-! A refused access. Its inputs cannot be changed unnoticed as long as the hash stays; its effect can,
and so can the inputs with their hash. -/

def largeNumbers : Json → Json
  | .float repr => if repr = "1e+16".toList then .int 10000000000000000 else .float repr
  | document => document

def sha256Ledger : DecisionLedger where
  library := {
    sha256 := Sha256.hexdigest
    hmac := Sha256.hmacHexdigest
    jsonb := fun
      | .obj entries => some (.obj (entries.map fun entry => (entry.1, largeNumbers entry.2)))
      | document => some document }
  signingKey := some (List.replicate 32 7)

def noDecisions : DecisionTable := ⟨[], List.nodup_nil⟩

def actionInputs (value : Json) : Dict Text Json := [(String.text "action", value)]

def refusal (value : Json) : Decision where
  domain := .policy
  decisionType := "policy_read"
  actor := "ada"
  inputs := actionInputs value
  rulesEvaluated := []
  matchedRule := none
  effect := "deny"
  justification := "no rule"

theorem refusal_recorded (value : Json) (printable : (Json.obj (actionInputs value)).printable = true) :
    ∃ stored row, sha256Ledger.record noDecisions (refusal value) "decision-1" 0 =
      some (stored, row) ∧ stored.get? "decision-1" = some row ∧ row.id = "decision-1" ∧
      sha256Ledger.library.hashInputs (.obj (actionInputs value)) = some row.contextHash ∧
      row.inputs = .obj (actionInputs (largeNumbers value)) := by
  have written : ∃ text, Json.canonicalText (.obj (actionInputs value)) = some text := by
    rw [← Option.isSome_iff_exists, Json.isSome_canonicalText, printable]
  obtain ⟨text, written⟩ := written
  have some : ∃ answer, sha256Ledger.record noDecisions (refusal value) "decision-1" 0 =
      some answer := by
    unfold DecisionLedger.record DecisionLedger.rowOf DecisionLedger.signedEffects
      LedgerLibrary.hashInputs LedgerLibrary.signPayload
    have bounds : (0 : Rat) ≤ 1 ∧ (1 : Rat) ≤ 1 := by decide +kernel
    simp [refusal, sha256Ledger, written, bounds, noDecisions, Keyed.get?]
  obtain ⟨⟨stored, row⟩, recorded⟩ := some
  obtain ⟨found, named, hashed, kept⟩ := record_some recorded
  exact ⟨stored, row, recorded, found, named, hashed, (Option.some.inj kept).symm⟩

theorem actionInputs_proper (action : String) :
    (Json.obj (actionInputs (.str (String.text action)))).Proper id :=
  ⟨List.nodup_singleton _, Json.properText_text _, Json.properText_text _, trivial⟩

def readRefusal : Decision := refusal (.str (String.text "read"))

def readInputs : Json := .obj (actionInputs (.str (String.text "read")))

def writeInputs : Json := .obj (actionInputs (.str (String.text "write")))

def alone (row : DecisionRow) : DecisionTable := ⟨[row], List.nodup_singleton _⟩

theorem listing_alone (row : DecisionRow) : Listing (alone row) [row] :=
  ⟨.refl _, List.pairwise_singleton _ _⟩

theorem get?_alone (row : DecisionRow) : (alone row).get? row.id = some row :=
  Keyed.get?_of_mem List.mem_cons_self

theorem read_write_apart : Json.Apart Sha256.hexdigest readInputs writeInputs := by
  intro text text' written written' same
  have read : readInputs.canonicalText = some "\x7b\"action\": \"read\"\x7d" := by decide +kernel
  have write : writeInputs.canonicalText = some "\x7b\"action\": \"write\"\x7d" := by decide +kernel
  obtain rfl := Option.some.inj (read.symm.trans written)
  obtain rfl := Option.some.inj (write.symm.trans written')
  have differ : Sha256.hexdigest "\x7b\"action\": \"read\"\x7d" ≠
      Sha256.hexdigest "\x7b\"action\": \"write\"\x7d" := by decide +kernel
  exact absurd same differ

theorem tampering_reported_refusal :
    ∃ stored row, sha256Ledger.record noDecisions readRefusal "decision-1" 0 = some (stored, row) ∧
      Reported sha256Ledger.library (alone { row with inputs := writeInputs }) 1000
        [{ row with inputs := writeInputs }] "decision-1" := by
  obtain ⟨stored, row, recorded, found, named, hashed, kept⟩ :=
    refusal_recorded (.str (String.text "read")) rfl
  refine ⟨stored, row, recorded, ?_⟩
  apply ((tampering_reported_iff sha256Ledger id noDecisions stored readRefusal "decision-1" 0 row
    recorded (actionInputs_proper "read")).2 (alone { row with inputs := writeInputs })
    { row with inputs := writeInputs } 1000 [{ row with inputs := writeInputs }] ?_
    (listing_alone _) (actionInputs_proper "write") read_write_apart).mpr
  · refine ⟨?_, List.mem_cons_self, ?_⟩
    · unfold Exposed
      rw [if_pos rfl]
      intro same
      cases same
    · intro other member
      rw [List.mem_singleton.mp member]
      rfl
  · rw [← named]
    exact get?_alone { row with inputs := writeInputs }

theorem read_refusal_signed :
    ∃ stored row signature, sha256Ledger.record noDecisions readRefusal "decision-1" 0 =
      some (stored, row) ∧
      sha256Ledger.library.verifySignature readInputs signature (List.replicate 32 7) = some true := by
  obtain ⟨stored, row, recorded, -⟩ := refusal_recorded (.str (String.text "read")) rfl
  obtain ⟨signature, -, verifies⟩ := record_signed recorded rfl (actionInputs_proper "read")
  refine ⟨stored, row, signature, recorded, (verifies _ (actionInputs_proper "read") ?_).mpr rfl⟩
  intro text text' written written' _
  exact Option.some.inj (written.symm.trans written')

theorem not_reported_alone (row : DecisionRow) (named : row.id = "decision-1")
    (hashed : sha256Ledger.library.hashInputs (orEmpty row.inputs) = some row.contextHash) :
    ¬ Reported sha256Ledger.library (alone row) 1000 [row] "decision-1" := by
  have found : (alone row).get? "decision-1" = some row := by
    rw [← named]
    exact get?_alone row
  rw [reported_iff (listing_alone row) named found]
  exact fun both => both.1 hashed

theorem changes_unreported :
    (∃ stored row, sha256Ledger.record noDecisions readRefusal "decision-1" 0 = some (stored, row) ∧
      (¬ Reported sha256Ledger.library (alone { row with effect := "allow" }) 1000
        [{ row with effect := "allow" }] "decision-1") ∧
      ∃ hash, ¬ Reported sha256Ledger.library
        (alone { row with inputs := writeInputs, contextHash := hash }) 1000
        [{ row with inputs := writeInputs, contextHash := hash }] "decision-1") ∧
    ∃ stored row, sha256Ledger.record noDecisions (refusal (.float "1e+16".toList)) "decision-1" 0 =
        some (stored, row) ∧
      ¬ Accepted sha256Ledger.library stored 1000 stored.rows "decision-1" := by
  constructor
  · obtain ⟨stored, row, recorded, found, named, hashed, kept⟩ :=
      refusal_recorded (.str (String.text "read")) rfl
    refine ⟨stored, row, recorded, ?_, Sha256.hexdigest "\x7b\"action\": \"write\"\x7d", ?_⟩
    · apply not_reported_alone { row with effect := "allow" } named
      dsimp only
      rw [kept]
      exact hashed
    · apply not_reported_alone { row with inputs := writeInputs, contextHash := _ } named
      have write : writeInputs.canonicalText = some "\x7b\"action\": \"write\"\x7d" := by
        decide +kernel
      exact congrArg (Option.map Sha256.hexdigest) write
  · obtain ⟨stored, row, recorded, found, named, hashed, kept⟩ :=
      refusal_recorded (.float "1e+16".toList) rfl
    refine ⟨stored, row, recorded, ?_⟩
    intro accepted
    have check := accepted.1
    rw [verifyIntegrity_eq found, kept] at check
    obtain ⟨expected, hashed', same⟩ := check
    rw [of_decide_eq_true same] at hashed'
    have float : Json.canonicalText (.obj (actionInputs (.float "1e+16".toList))) =
        some "\x7b\"action\": 1e+16\x7d" := by decide +kernel
    have int : Json.canonicalText
        (orEmpty (.obj (actionInputs (largeNumbers (.float "1e+16".toList))))) = some "\x7b\"action\": 10000000000000000\x7d" := by decide +kernel
    unfold LedgerLibrary.hashInputs at hashed hashed'
    rw [float] at hashed
    rw [int, ← hashed] at hashed'
    have differ : Sha256.hexdigest "\x7b\"action\": 10000000000000000\x7d" ≠
        Sha256.hexdigest "\x7b\"action\": 1e+16\x7d" := by decide +kernel
    exact differ (Option.some.inj hashed')

end SyndicateClaw.Audit
