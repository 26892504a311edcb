import SyndicateClaw.Data.JsonRoundtrip

/-! Documents under `sort_keys=True`: what sorting keeps, and the round trip of `dumps`. -/

namespace SyndicateClaw.Json

open List (Perm)

/-! ### Sorting -/

instance keyLE_total : Std.Total KeyLE := ⟨fun a b => le_total a.1 b.1⟩

instance keyLE_trans : IsTrans (Text × Json) KeyLE := ⟨fun _ _ _ => le_trans⟩

theorem insertionSort_perm {entries entries' : List (Text × Json)} (perm : entries.Perm entries')
    (distinct : (entries.map Prod.fst).Nodup) :
    entries.insertionSort KeyLE = entries'.insertionSort KeyLE := by
  have perm' : (entries.insertionSort KeyLE).Perm (entries'.insertionSort KeyLE) :=
    ((List.perm_insertionSort KeyLE entries).trans perm).trans
      (List.perm_insertionSort KeyLE entries').symm
  apply perm'.eq_of_pairwise
  · intro a b first second le ge
    have memberA : a ∈ entries := (List.mem_insertionSort KeyLE).mp first
    have memberB : b ∈ entries := perm.symm.subset ((List.mem_insertionSort KeyLE).mp second)
    exact List.inj_on_of_nodup_map distinct memberA memberB (le_antisymm le ge)
  · exact List.pairwise_insertionSort KeyLE _
  · exact List.pairwise_insertionSort KeyLE _

abbrev sortValue (entry : Text × Json) : Text × Json := (entry.1, entry.2.sortKeys)

theorem sortKeysEntries_eq_map (entries : List (Text × Json)) :
    sortKeysEntries entries = entries.map sortValue := by
  induction entries with
  | nil => rfl
  | cons entry entries ih => rw [sortKeysEntries, ih, List.map_cons]

theorem keys_sortValue (entries : List (Text × Json)) :
    (entries.map sortValue).map Prod.fst = entries.map Prod.fst := by
  rw [List.map_map]
  rfl

theorem sortKeys_obj (entries : List (Text × Json)) :
    sortKeys (obj entries) = obj ((entries.map sortValue).insertionSort KeyLE) := by
  rw [sortKeys, sortKeysEntries_eq_map]

theorem sorted_perm (entries : List (Text × Json)) :
    ((entries.map sortValue).insertionSort KeyLE).Perm (entries.map sortValue) :=
  List.perm_insertionSort KeyLE _

theorem nodup_sorted {entries : List (Text × Json)} (distinct : (entries.map Prod.fst).Nodup) :
    (((entries.map sortValue).insertionSort KeyLE).map Prod.fst).Nodup := by
  rw [((sorted_perm entries).map Prod.fst).nodup_iff, keys_sortValue]
  exact distinct

/-! ### What sorting keeps -/

theorem printableEntries_iff (entries : List (Text × Json)) :
    printableEntries entries = true ↔ ∀ entry ∈ entries, entry.2.printable = true := by
  induction entries with
  | nil => simp [printableEntries]
  | cons entry entries ih => simp [printableEntries, ih]

section proper

variable {canonical : List Char → List Char}

theorem properEntries_iff (entries : List (Text × Json)) :
    ProperEntries canonical entries ↔
      ∀ entry ∈ entries, ProperText entry.1 ∧ entry.2.Proper canonical := by
  induction entries with
  | nil => simp [ProperEntries]
  | cons entry entries ih => simp [ProperEntries, ih, and_assoc]

theorem printable_obj (entries : List (Text × Json)) :
    (obj entries).printable = true ↔ ∀ entry ∈ entries, entry.2.printable = true := by
  rw [printable, printableEntries_iff]

theorem proper_obj (entries : List (Text × Json)) :
    (obj entries).Proper canonical ↔ (entries.map Prod.fst).Nodup ∧
      ∀ entry ∈ entries, ProperText entry.1 ∧ entry.2.Proper canonical := by
  rw [Proper, properEntries_iff]

mutual

theorem printable_sortKeys : ∀ document : Json,
    document.sortKeys.printable = document.printable
  | .arr items => by
      rw [sortKeys, printable, printable, printableItems_sortKeys]
  | .obj entries => by
      have values := printableEntries_sortKeys entries
      rw [Bool.eq_iff_iff, printableEntries_iff, sortKeysEntries_eq_map, printableEntries_iff]
        at values
      rw [Bool.eq_iff_iff, sortKeys_obj, printable_obj, printable_obj, ← values]
      exact forall_congr' fun entry => by rw [List.mem_insertionSort]
  | .null | .bool _ | .int _ | .float _ | .str _ => rfl

theorem printableItems_sortKeys : ∀ items : List Json,
    printableItems (sortKeysItems items) = printableItems items
  | [] => rfl
  | item :: items => by
      rw [sortKeysItems, printableItems, printableItems, printable_sortKeys item,
        printableItems_sortKeys items]

theorem printableEntries_sortKeys : ∀ entries : List (Text × Json),
    printableEntries (sortKeysEntries entries) = printableEntries entries
  | [] => rfl
  | (key, value) :: entries => by
      rw [sortKeysEntries, printableEntries, printableEntries, printable_sortKeys value,
        printableEntries_sortKeys entries]

end

mutual

theorem proper_sortKeys : ∀ document : Json, document.Proper canonical →
    document.sortKeys.Proper canonical
  | .arr items, proper => by
      rw [sortKeys, Proper]
      exact properItems_sortKeys items proper
  | .obj entries, proper => by
      have values := (properEntries_iff _).mp (properEntries_sortKeys entries proper.2)
      rw [sortKeysEntries_eq_map] at values
      rw [sortKeys_obj, proper_obj]
      refine ⟨nodup_sorted proper.1, fun entry member => values entry ?_⟩
      exact (List.mem_insertionSort KeyLE).mp member
  | .null, proper | .bool _, proper | .int _, proper | .float _, proper | .str _, proper => proper

theorem properItems_sortKeys : ∀ items : List Json, ProperItems canonical items →
    ProperItems canonical (sortKeysItems items)
  | [], proper => proper
  | item :: items, proper => ⟨proper_sortKeys item proper.1, properItems_sortKeys items proper.2⟩

theorem properEntries_sortKeys : ∀ entries : List (Text × Json), ProperEntries canonical entries →
    ProperEntries canonical (sortKeysEntries entries)
  | [], proper => proper
  | (_, value) :: entries, proper =>
      ⟨proper.1, proper_sortKeys value proper.2.1, properEntries_sortKeys entries proper.2.2⟩

end

mutual

theorem sortKeys_sortKeys : ∀ document : Json, document.Proper canonical →
    document.sortKeys.sortKeys = document.sortKeys
  | .arr items, proper => by
      rw [sortKeys, sortKeys, sortKeysItems_sortKeys items proper]
  | .obj entries, proper => by
      have twice := sortKeysEntries_sortKeys entries proper.2
      rw [sortKeysEntries_eq_map, sortKeysEntries_eq_map] at twice
      have perm := (sorted_perm entries).map sortValue
      rw [twice] at perm
      rw [sortKeys_obj, sortKeys_obj]
      refine congrArg obj (insertionSort_perm perm ?_)
      rw [keys_sortValue]
      exact nodup_sorted proper.1
  | .null, _ | .bool _, _ | .int _, _ | .float _, _ | .str _, _ => rfl

theorem sortKeysItems_sortKeys : ∀ items : List Json, ProperItems canonical items →
    sortKeysItems (sortKeysItems items) = sortKeysItems items
  | [], _ => rfl
  | item :: items, proper => by
      rw [sortKeysItems, sortKeysItems, sortKeys_sortKeys item proper.1,
        sortKeysItems_sortKeys items proper.2]

theorem sortKeysEntries_sortKeys : ∀ entries : List (Text × Json),
    ProperEntries canonical entries →
    sortKeysEntries (sortKeysEntries entries) = sortKeysEntries entries
  | [], _ => rfl
  | (key, value) :: entries, proper => by
      rw [sortKeysEntries, sortKeysEntries, sortKeys_sortKeys value proper.2.1,
        sortKeysEntries_sortKeys entries proper.2.2]

end

theorem sortKeys_filter_sorted {entries : List (Text × Json)} (keep : Text → Bool)
    (proper : (obj entries).Proper canonical) :
    sortKeys (obj (((entries.map sortValue).insertionSort KeyLE).filter fun e => keep e.1)) =
      sortKeys (obj (entries.filter fun e => keep e.1)) := by
  have twice : (entries.map sortValue).map sortValue = entries.map sortValue := by
    have same := sortKeysEntries_sortKeys entries proper.2
    rwa [sortKeysEntries_eq_map, sortKeysEntries_eq_map] at same
  have commutes : ∀ list : List (Text × Json),
      (list.filter fun e => keep e.1).map sortValue =
        (list.map sortValue).filter fun e => keep e.1 := by
    intro list
    rw [List.filter_map]
    rfl
  have perm := ((sorted_perm entries).map sortValue).filter fun e => keep e.1
  rw [twice] at perm
  rw [sortKeys_obj, sortKeys_obj, commutes, commutes]
  refine congrArg obj (insertionSort_perm perm ?_)
  have distinct : ((((entries.map sortValue).insertionSort KeyLE).map sortValue).map
      Prod.fst).Nodup := by
    rw [keys_sortValue]
    exact nodup_sorted proper.1
  exact distinct.sublist ((List.filter_sublist).map Prod.fst)

theorem dumps_filter_sorted (sep : Separators) {entries : List (Text × Json)}
    (keep : Text → Bool) (proper : (obj entries).Proper canonical) :
    dumps sep (obj (((entries.map sortValue).insertionSort KeyLE).filter fun e => keep e.1)) =
      dumps sep (obj (entries.filter fun e => keep e.1)) := by
  have same := sortKeys_filter_sorted keep proper
  have printed := congrArg printable same
  rw [printable_sortKeys, printable_sortKeys] at printed
  unfold dumps
  rw [same, printed]

theorem proper_set {entries : Dict Text Json} (proper : (obj entries).Proper canonical)
    {key : Text} (properKey : ProperText key) {value : Json}
    (properValue : value.Proper canonical) :
    (obj (Dict.set entries key value)).Proper canonical := by
  rw [proper_obj] at proper ⊢
  refine ⟨Dict.nodup_set proper.1 key value, fun entry member => ?_⟩
  rcases Dict.mem_set member with rfl | old
  · exact ⟨properKey, properValue⟩
  · exact proper.2 entry old

theorem printable_set {entries : Dict Text Json} (printed : (obj entries).printable = true)
    (key : Text) {value : Json} (printedValue : value.printable = true) :
    (obj (Dict.set entries key value)).printable = true := by
  rw [printable_obj] at printed ⊢
  intro entry member
  rcases Dict.mem_set member with rfl | old
  · exact printedValue
  · exact printed entry old

theorem proper_pop {entries : Dict Text Json} (proper : (obj entries).Proper canonical)
    (key : Text) : (obj (Dict.pop entries key)).Proper canonical := by
  rw [proper_obj] at proper ⊢
  refine ⟨proper.1.sublist (List.filter_sublist.map Prod.fst), fun entry member => ?_⟩
  exact proper.2 entry (List.mem_of_mem_filter member)

theorem sortKeys_of_pop {entries entries' : Dict Text Json}
    (proper : (obj entries).Proper canonical) (proper' : (obj entries').Proper canonical)
    {key : Text} {value : Json} (found : Dict.get? entries key = some value)
    (found' : Dict.get? entries' key = some value)
    (same : sortKeys (obj (Dict.pop entries key)) = sortKeys (obj (Dict.pop entries' key))) :
    sortKeys (obj entries) = sortKeys (obj entries') := by
  have distinct := ((proper_obj _).mp proper).1
  have distinct' := ((proper_obj _).mp proper').1
  rw [sortKeys_obj, sortKeys_obj, obj.injEq] at same
  have others : ((Dict.pop entries key).map sortValue).Perm
      ((Dict.pop entries' key).map sortValue) := by
    have perm := sorted_perm (Dict.pop entries key)
    rw [same] at perm
    exact perm.symm.trans (sorted_perm (Dict.pop entries' key))
  have perm := ((Dict.perm_pop distinct found).map sortValue).trans
    ((others.cons (key, value.sortKeys)).trans ((Dict.perm_pop distinct' found').map sortValue).symm)
  rw [sortKeys_obj, sortKeys_obj]
  refine congrArg obj (insertionSort_perm perm ?_)
  rw [keys_sortValue]
  exact distinct

theorem printable_pop {entries : Dict Text Json} (printed : (obj entries).printable = true)
    (key : Text) : (obj (Dict.pop entries key)).printable = true := by
  rw [printable_obj] at printed ⊢
  exact fun entry member => printed entry (List.mem_of_mem_filter member)

theorem dumps_printable {sep : Separators} {document : Json} {line : List Char}
    (written : dumps sep document = some line) : document.printable = true := by
  unfold dumps at written
  split at written
  · assumption
  · cases written

theorem dumps_eq_some {document : Json} (sep : Separators) (printed : document.printable = true) :
    dumps sep document = some (dump sep document.sortKeys) :=
  if_pos printed

theorem get?_sorted {entries : Dict Text Json} (distinct : (entries.map Prod.fst).Nodup)
    (key : Text) :
    Dict.get? ((entries.map sortValue).insertionSort KeyLE) key =
      (Dict.get? entries key).map sortKeys := by
  have values : Dict.get? (entries.map sortValue) key = (Dict.get? entries key).map sortKeys :=
    Dict.get?_map_value (fun _ => sortKeys) entries key
  rw [← values]
  refine Dict.get?_perm (sorted_perm entries) ?_ key
  exact nodup_sorted distinct

theorem get?_of_sortKeys {entries other : Dict Text Json} (distinct : (entries.map Prod.fst).Nodup)
    (distinctOther : (other.map Prod.fst).Nodup)
    (same : (obj entries).sortKeys = (obj other).sortKeys) (key : Text) :
    (Dict.get? entries key).map sortKeys = (Dict.get? other key).map sortKeys := by
  rw [sortKeys_obj, sortKeys_obj, obj.injEq] at same
  rw [← get?_sorted distinct, ← get?_sorted distinctOther, same]

/-! ### The round trip -/

theorem loads_dump {sep : Separators} (readable : sep.Readable) {document : Json}
    (proper : document.Proper canonical) (printed : document.printable = true) :
    loads canonical (dump sep document) = .ok document := by
  have opens := opens_dump proper sep
  have read := readValue_dump readable document (2 * (dump sep document).length + 1) [] proper
    printed (Nat.le_succ _) (by rintro c ⟨⟩)
  rw [List.append_nil] at read
  unfold loads
  rw [opens.skip, read]
  rfl

/-- `json.loads(json.dumps(document, sort_keys=True))`. -/
theorem loads_dumps {sep : Separators} (readable : sep.Readable) {document : Json}
    (proper : document.Proper canonical) {line : List Char}
    (written : dumps sep document = some line) :
    loads canonical line = .ok document.sortKeys := by
  unfold dumps at written
  split at written
  · next printed =>
      obtain rfl := Option.some.inj written
      apply loads_dump readable (proper_sortKeys document proper)
      rw [printable_sortKeys]
      exact printed
  · cases written

/-! ### Characters -/

abbrev Printing (c : Char) : Prop := 32 ≤ c.toNat ∧ c.toNat ≤ 126

theorem printing_of_all {chars : List Char}
    (all : chars.all (fun c => decide (Printing c)) = true) : ∀ c ∈ chars, Printing c :=
  fun c member => of_decide_eq_true (List.all_eq_true.mp all c member)

theorem printing_digit {c : Char} (digit : c.isDigit = true) : Printing c := by
  obtain ⟨low, high⟩ := Char.isDigit_iff_toNat.mp digit
  have zero : '0'.toNat = 48 := rfl
  have nine : '9'.toNat = 57 := rfl
  exact ⟨by omega, by omega⟩

theorem printing_digitChar : ∀ d, d < 16 → Printing (Nat.digitChar d) := by
  decide

theorem printing_unicodeEscape {unit : Nat} : ∀ c ∈ unicodeEscape unit, Printing c := by
  intro c member
  have digit := fun d => printing_digitChar (d % 16) (Nat.mod_lt _ (by decide))
  simp only [unicodeEscape, List.mem_cons, List.not_mem_nil, or_false] at member
  rcases member with rfl | rfl | rfl | rfl | rfl | rfl
  · exact ⟨by decide, by decide⟩
  · exact ⟨by decide, by decide⟩
  · exact digit _
  · exact digit _
  · exact digit _
  · exact digit _

theorem printing_escapeUnit {unit : Nat} : ∀ c ∈ escapeUnit unit, Printing c := by
  unfold escapeUnit
  split_ifs with _ _ _ _ _ _ _ printed
  case pos => exact printing_of_all rfl
  case pos => exact printing_of_all rfl
  case pos => exact printing_of_all rfl
  case pos => exact printing_of_all rfl
  case pos => exact printing_of_all rfl
  case pos => exact printing_of_all rfl
  case pos => exact printing_of_all rfl
  · intro c member
    obtain rfl := List.mem_singleton.mp member
    unfold Printing
    rw [toNat_ofNat printed.2]
    exact printed
  · exact printing_unicodeEscape

theorem printing_dumpText (text : Text) : ∀ c ∈ dumpText text, Printing c := by
  intro c member
  unfold dumpText at member
  rw [List.cons_append, List.mem_cons, List.mem_append, List.mem_singleton] at member
  rcases member with rfl | inside | rfl
  · exact ⟨by decide, by decide⟩
  · obtain ⟨unit, -, escaped⟩ := List.mem_flatMap.mp inside
    exact printing_escapeUnit c escaped
  · exact ⟨by decide, by decide⟩

theorem IsFloatLiteral.printing {whole fraction exponent : List Char}
    (parts : IsFloatLiteral whole fraction exponent) :
    ∀ c ∈ whole ++ fraction ++ exponent, Printing c := by
  intro c member
  rw [List.mem_append, List.mem_append] at member
  rcases member with (inWhole | inFraction) | inExponent
  · exact printing_digit (parts.front.digits c inWhole)
  · rcases parts.middle with rfl | ⟨digits, rfl, -, all⟩
    · cases inFraction
    · rcases List.mem_cons.mp inFraction with rfl | digit
      · exact ⟨by decide, by decide⟩
      · exact printing_digit (all c digit)
  · rcases parts.last with rfl | ⟨sign, digits, rfl, signs, -, all⟩
    · cases inExponent
    · rw [List.cons_append, List.mem_cons, List.mem_append] at inExponent
      rcases inExponent with rfl | signed | digit
      · exact ⟨by decide, by decide⟩
      · rcases signs with rfl | rfl | rfl
        · cases signed
        · obtain rfl := List.mem_singleton.mp signed
          exact ⟨by decide, by decide⟩
        · obtain rfl := List.mem_singleton.mp signed
          exact ⟨by decide, by decide⟩
      · exact printing_digit (all c digit)

theorem IsFloatRepr.printing {repr : List Char} (is : IsFloatRepr canonical repr) :
    ∀ c ∈ repr, Printing c := by
  cases is with
  | nan => exact printing_of_all rfl
  | infinity => exact printing_of_all rfl
  | negInfinity => exact printing_of_all rfl
  | @literal sign whole fraction exponent signed parts _ =>
      intro c member
      rw [List.append_assoc, List.append_assoc, List.mem_append, ← List.append_assoc] at member
      rcases member with inSign | inside
      · rcases signed with rfl | rfl
        · cases inSign
        · obtain rfl := List.mem_singleton.mp inSign
          exact ⟨by decide, by decide⟩
      · exact parts.printing c inside

theorem printing_dumpInt (i : Int) : ∀ c ∈ dumpInt i, Printing c := by
  have digits : ∀ c ∈ Nat.toDigits 10 i.natAbs, Printing c := by
    intro c member
    exact printing_digit ((isWhole_toDigits i.natAbs).digits c member)
  intro c member
  unfold dumpInt at member
  split at member
  · rcases List.mem_cons.mp member with rfl | digit
    · exact ⟨by decide, by decide⟩
    · exact digits c digit
  · exact digits c member

section dump

variable {sep : Separators} (separators : ∀ c, c ∈ sep.item ∨ c ∈ sep.key → Printing c)

include separators

mutual

/-- `ensure_ascii`: a document is written in printing ASCII characters. -/
theorem printing_dump : ∀ document : Json, document.Proper canonical →
    ∀ c ∈ dump sep document, Printing c
  | .null, _ => by
      rw [dump]
      exact printing_of_all rfl
  | .bool true, _ => by
      rw [dump]
      exact printing_of_all rfl
  | .bool false, _ => by
      rw [dump]
      exact printing_of_all rfl
  | .int i, _ => by
      rw [dump]
      exact printing_dumpInt i
  | .float repr, proper => by
      rw [dump]
      exact IsFloatRepr.printing proper
  | .str text, _ => by
      rw [dump]
      exact printing_dumpText text
  | .arr [], _ => by
      rw [dump]
      exact printing_of_all rfl
  | .arr (first :: items), proper => by
      intro c member
      rw [dump, List.cons_append, List.mem_cons, List.mem_append] at member
      rcases member with rfl | inFirst | inItems
      · exact ⟨by decide, by decide⟩
      · exact printing_dump first proper.1 c inFirst
      · exact printing_dumpItems items proper.2 c inItems
  | .obj [], _ => by
      rw [dump]
      exact printing_of_all rfl
  | .obj ((name, value) :: entries), proper => by
      intro c member
      rw [dump] at member
      simp only [List.cons_append, List.mem_cons, List.mem_append] at member
      rcases member with rfl | ((inName | inKey) | inValue) | inEntries
      · exact ⟨by decide, by decide⟩
      · exact printing_dumpText name c inName
      · exact separators c (.inr inKey)
      · exact printing_dump value proper.2.2.1 c inValue
      · exact printing_dumpEntries entries proper.2.2.2 c inEntries

theorem printing_dumpItems : ∀ items : List Json, ProperItems canonical items →
    ∀ c ∈ dumpItems sep items, Printing c
  | [], _ => by
      rw [dumpItems]
      exact printing_of_all rfl
  | first :: items, proper => by
      intro c member
      rw [dumpItems, List.mem_append, List.mem_append] at member
      rcases member with (inItem | inFirst) | inItems
      · exact separators c (.inl inItem)
      · exact printing_dump first proper.1 c inFirst
      · exact printing_dumpItems items proper.2 c inItems

theorem printing_dumpEntries : ∀ entries : List (Text × Json), ProperEntries canonical entries →
    ∀ c ∈ dumpEntries sep entries, Printing c
  | [], _ => by
      rw [dumpEntries]
      exact printing_of_all rfl
  | (name, value) :: entries, proper => by
      intro c member
      rw [dumpEntries] at member
      simp only [List.mem_append] at member
      rcases member with (((inItem | inName) | inKey) | inValue) | inEntries
      · exact separators c (.inl inItem)
      · exact printing_dumpText name c inName
      · exact separators c (.inr inKey)
      · exact printing_dump value proper.2.1 c inValue
      · exact printing_dumpEntries entries proper.2.2 c inEntries

end

end dump

theorem printing_spaced : ∀ c, c ∈ spaced.item ∨ c ∈ spaced.key → Printing c := by
  rintro c (member | member)
  · exact @printing_of_all spaced.item rfl c member
  · exact @printing_of_all spaced.key rfl c member

theorem printing_compact :
    ∀ c, c ∈ compact.item ∨ c ∈ compact.key → Printing c := by
  rintro c (member | member)
  · exact @printing_of_all compact.item rfl c member
  · exact @printing_of_all compact.key rfl c member

theorem printing_dumps {document : Json} (proper : document.Proper canonical) {line : List Char}
    (written : dumps spaced document = some line) : ∀ c ∈ line, Printing c := by
  unfold dumps at written
  split at written
  · obtain rfl := Option.some.inj written
    exact printing_dump printing_spaced _ (proper_sortKeys document proper)
  · cases written

end proper

theorem dumps_obj {sep : Separators} {entries : List (Text × Json)} {line : List Char}
    (written : dumps sep (obj entries) = some line) : ∃ rest, line = '\x7b' :: rest := by
  unfold dumps at written
  split at written
  · obtain rfl := Option.some.inj written
    rw [sortKeys_obj]
    cases (entries.map sortValue).insertionSort KeyLE with
    | nil => exact ⟨_, rfl⟩
    | cons entry entries => exact ⟨_, rfl⟩
  · cases written

end SyndicateClaw.Json
