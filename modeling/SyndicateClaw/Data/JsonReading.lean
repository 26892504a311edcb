import SyndicateClaw.Data.JsonSorted

/-! What `json.loads` returns is made of Python's JSON types, and `json.dumps` tells such
documents apart. -/

namespace SyndicateClaw.Json

/-! ### Texts -/

theorem hexValue_lt {c : Char} {digit : Nat} (read : hexValue c = some digit) : digit < 16 := by
  unfold hexValue at read
  split_ifs at read with decimal lower upper
  · obtain rfl := Option.some.inj read
    have range := Char.isDigit_iff_toNat.mp decimal
    have nine : '9'.toNat = 57 := rfl
    omega
  · obtain rfl := Option.some.inj read
    have high : c.toNat ≤ 'f'.toNat := lower.2
    have f : 'f'.toNat = 102 := rfl
    omega
  · obtain rfl := Option.some.inj read
    have high : c.toNat ≤ 'F'.toNat := upper.2
    have f : 'F'.toNat = 70 := rfl
    omega

theorem hexUnit_lt {a b c d : Char} {unit : Nat} (read : hexUnit a b c d = some unit) :
    unit < 0x10000 := by
  unfold hexUnit at read
  simp only [Option.bind_eq_bind, Option.bind_eq_some_iff, Option.pure_def] at read
  obtain ⟨first, readA, second, readB, third, readC, fourth, readD, same⟩ := read
  obtain rfl := Option.some.inj same
  have boundA := hexValue_lt readA
  have boundB := hexValue_lt readB
  have boundC := hexValue_lt readC
  have boundD := hexValue_lt readD
  omega

theorem simpleEscape_lt {escape : Char} {unit : Nat} (read : simpleEscape escape = some unit) :
    unit < 0x110000 := by
  unfold simpleEscape at read
  split at read <;> cases read <;> omega

/-- The units of a text, each with a code that Python's texts can hold. -/
def Coded (answer : Except LoadsError (Text × List Char)) : Prop :=
  ∀ text rest, answer = .ok (text, rest) → ∀ unit ∈ text, unit < 0x110000

theorem coded_cons {unit : Nat} (small : unit < 0x110000)
    {answer : Except LoadsError (Text × List Char)} (coded : Coded answer) :
    Coded (do
      let (text, rest) ← answer
      return (unit :: text, rest)) := by
  intro text rest read own member
  cases answer with
  | error e => cases read
  | ok later =>
      obtain ⟨rfl, rfl⟩ := Prod.mk.inj (Except.ok.inj read)
      rcases List.mem_cons.mp member with rfl | inside
      · exact small
      · exact coded _ _ rfl own inside

theorem coded_readUnits (chars : List Char) : Coded (readUnits chars) := by
  fun_induction readUnits chars with
  | case1 => nofun
  | case2 rest =>
      rintro text rest' ⟨⟩
      nofun
  | case3 => nofun
  | case4 a b c d rest unit known ih =>
      have bound := hexUnit_lt known
      exact coded_cons (by omega) ih
  | case5 => nofun
  | case6 escape rest plain unit known ih => exact coded_cons (simpleEscape_lt known) ih
  | case7 => nofun
  | case8 c rest _ _ plain _ ih =>
      have valid : c.toNat < 0xd800 ∨ 0xdfff < c.toNat ∧ c.toNat < 0x110000 := c.valid
      exact coded_cons (by omega) ih

theorem head_joinUnits (text : Text) : ∀ code ∈ (joinUnits text).head?, isLow code = true →
    text.head? = some code := by
  fun_induction joinUnits text with
  | case1 => nofun
  | case2 unit => exact fun code first _ => first
  | case3 high low rest pair ih =>
      intro code first isolated
      obtain rfl := Option.some.inj first
      simp only [isLow, Bool.and_eq_true, decide_eq_true_eq] at isolated
      omega
  | case4 high low rest pair ih => exact fun code first _ => first

theorem properText_cons {code : Nat} {text : Text} (bound : code < 0x110000)
    (apart : ∀ next ∈ text.head?, ¬ (isHigh code = true ∧ isLow next = true))
    (later : ProperText text) : ProperText (code :: text) := by
  refine ⟨fun own member => ?_, ?_⟩
  · rcases List.mem_cons.mp member with same | inside
    · rw [same]
      exact bound
    · exact later.codes own inside
  · cases text with
    | nil => exact .singleton code
    | cons next text => exact .cons_cons (apart next rfl) later.unpaired

theorem properText_joinUnits (text : Text) (codes : ∀ unit ∈ text, unit < 0x110000) :
    ProperText (joinUnits text) := by
  fun_induction joinUnits text with
  | case1 => exact ⟨nofun, .nil⟩
  | case2 unit => exact ⟨codes, .singleton unit⟩
  | case3 high low rest pair ih =>
      have later := ih fun unit member =>
        codes unit (List.mem_cons_of_mem high (List.mem_cons_of_mem low member))
      simp only [isHigh, isLow, Bool.and_eq_true, decide_eq_true_eq] at pair
      apply properText_cons (by omega) _ later
      intro next _ surrogates
      have joined := surrogates.1
      simp only [isHigh, Bool.and_eq_true, decide_eq_true_eq] at joined
      omega
  | case4 high low rest apart ih =>
      have later := ih fun unit member => codes unit (List.mem_cons_of_mem high member)
      apply properText_cons (codes high List.mem_cons_self) _ later
      intro next first surrogates
      obtain rfl := Option.some.inj (head_joinUnits (low :: rest) next first surrogates.2)
      exact apart surrogates

theorem properText_readText {chars : List Char} {text : Text} {rest : List Char}
    (read : readText chars = .ok (text, rest)) : ProperText text := by
  unfold readText at read
  cases answer : readUnits chars with
  | error e =>
      rw [answer] at read
      cases read
  | ok units =>
      rw [answer] at read
      obtain ⟨rfl, rfl⟩ := Prod.mk.inj (Except.ok.inj read)
      exact properText_joinUnits _ (coded_readUnits chars _ _ answer)

/-! ### Documents -/

def IsFloatText (literal : List Char) : Prop :=
  ∃ sign chars rest, (sign = [] ∨ sign = ['-']) ∧
    readNumber id sign chars = .ok (.float literal, rest)

/-- `repr(float(literal))` is spelled like a float, and is the `repr` of the float it spells. -/
def ReprsFloats (canonical : List Char → List Char) : Prop :=
  ∀ literal, IsFloatText literal → IsFloatRepr canonical (canonical literal)

section

variable {canonical : List Char → List Char}

theorem proper_ofEntries {entries : List (Text × Json)} (proper : ProperEntries canonical entries) :
    (obj (ofEntries entries)).Proper canonical := by
  have set : ∀ d : Dict Text Json, (obj d).Proper canonical →
      (obj (entries.foldl (fun d entry => Dict.set d entry.1 entry.2) d)).Proper canonical := by
    induction entries with
    | nil => exact fun d properD => properD
    | cons entry entries ih =>
        intro d properD
        exact ih proper.2.2 _ (proper_set properD proper.1 proper.2.1)
  exact set [] ⟨.nil, trivial⟩

theorem proper_readNumber (floats : ReprsFloats canonical) {sign chars : List Char}
    (signed : sign = [] ∨ sign = ['-']) {document : Json} {rest : List Char}
    (read : readNumber canonical sign chars = .ok (document, rest)) :
    document.Proper canonical := by
  unfold readNumber at read
  dsimp only at read
  split_ifs at read with none integer long positive
  · obtain ⟨rfl, -⟩ := Prod.mk.inj (Except.ok.inj read)
    trivial
  · obtain ⟨rfl, -⟩ := Prod.mk.inj (Except.ok.inj read)
    trivial
  · obtain ⟨rfl, last⟩ := Prod.mk.inj (Except.ok.inj read)
    refine floats _ ⟨sign, chars, rest, signed, ?_⟩
    unfold readNumber
    dsimp only
    rw [if_neg none, if_neg integer, last, id]

def Gives {α : Type} (P : α → Prop) (answer : Except LoadsError (α × List Char)) : Prop :=
  ∀ value rest, answer = .ok (value, rest) → P value

theorem gives_ok {α : Type} {P : α → Prop} {value : α} (holds : P value) (rest : List Char) :
    Gives P (.ok (value, rest)) := by
  rintro _ _ ⟨⟩
  exact holds

theorem gives_error {α : Type} {P : α → Prop} (e : LoadsError) : Gives P (.error e) := nofun

theorem gives_bind {α β : Type} {P : α → Prop} {Q : β → Prop}
    {answer : Except LoadsError (α × List Char)} (gives : Gives P answer)
    {next : α × List Char → Except LoadsError (β × List Char)}
    (onward : ∀ value rest, P value → Gives Q (next (value, rest))) : Gives Q (answer >>= next) := by
  intro own rest read
  cases answer with
  | error e => cases read
  | ok first => exact onward first.1 first.2 (gives _ _ rfl) own rest read

theorem gives_readText (chars : List Char) : Gives ProperText (readText chars) :=
  fun _ _ read => properText_readText read

structure ReadsProper (canonical : List Char → List Char) (fuel : Nat) : Prop where
  value : ∀ chars, Gives (Proper canonical) (readValue canonical fuel chars)
  items : ∀ chars, Gives (ProperItems canonical) (readItems canonical fuel chars)
  entries : ∀ chars, Gives (ProperEntries canonical) (readEntries canonical fuel chars)

theorem gives_readValue (floats : ReprsFloats canonical) {fuel : Nat}
    (reads : ReadsProper canonical fuel) (chars : List Char) :
    Gives (Proper canonical) (readValue canonical (fuel + 1) chars) := by
  unfold readValue
  split
  · exact gives_bind (gives_readText _) fun text rest proper =>
      @gives_ok _ (Proper canonical) (.str text) proper rest
  · split
    · exact gives_ok ⟨.nil, trivial⟩ _
    · exact gives_bind (reads.entries _) fun entries rest proper =>
        gives_ok (proper_ofEntries proper) rest
  · split
    · exact gives_ok trivial _
    · exact gives_bind (reads.items _) fun items rest proper =>
        @gives_ok _ (Proper canonical) (.arr items) proper rest
  · exact gives_ok trivial _
  · exact gives_ok trivial _
  · exact gives_ok trivial _
  · exact gives_ok .nan _
  · exact gives_ok .infinity _
  · exact gives_ok .negInfinity _
  · exact fun _ _ => proper_readNumber floats (.inr rfl)
  · exact fun _ _ => proper_readNumber floats (.inl rfl)

theorem gives_readItems {fuel : Nat} (reads : ReadsProper canonical fuel) (chars : List Char) :
    Gives (ProperItems canonical) (readItems canonical (fuel + 1) chars) := by
  unfold readItems
  refine gives_bind (reads.value _) fun item rest properItem => ?_
  dsimp only
  split
  · exact gives_ok ⟨properItem, trivial⟩ _
  · exact gives_bind (reads.items _) fun items rest properItems =>
      gives_ok ⟨properItem, properItems⟩ rest
  · exact gives_error _

theorem gives_readEntries {fuel : Nat} (reads : ReadsProper canonical fuel) (chars : List Char) :
    Gives (ProperEntries canonical) (readEntries canonical (fuel + 1) chars) := by
  unfold readEntries
  split
  · refine gives_bind (gives_readText _) fun key rest properKey => ?_
    dsimp only
    split
    · refine gives_bind (reads.value _) fun value rest properValue => ?_
      dsimp only
      split
      · exact gives_ok ⟨properKey, properValue, trivial⟩ _
      · exact gives_bind (reads.entries _) fun entries rest properEntries =>
          gives_ok ⟨properKey, properValue, properEntries⟩ rest
      · exact gives_error _
    · exact gives_error _
  · exact gives_error _

theorem readsProper (floats : ReprsFloats canonical) (fuel : Nat) :
    ReadsProper canonical fuel := by
  induction fuel with
  | zero => exact ⟨fun _ => gives_error _, fun _ => gives_error _, fun _ => gives_error _⟩
  | succ fuel ih =>
      exact ⟨gives_readValue floats ih, gives_readItems ih, gives_readEntries ih⟩

theorem proper_loads (floats : ReprsFloats canonical) {chars : List Char} {document : Json}
    (read : loads canonical chars = .ok document) : document.Proper canonical := by
  unfold loads at read
  cases answer : readValue canonical (2 * chars.length + 1) (skipWhitespace chars) with
  | error e =>
      rw [answer] at read
      cases read
  | ok first =>
      rw [answer] at read
      simp only [bind, Except.bind] at read
      split at read
      · obtain rfl := Except.ok.inj read
        exact (readsProper floats _).value _ _ _ answer
      · cases read

theorem dumps_injective {sep : Separators} (readable : sep.Readable) {document other : Json}
    (proper : document.Proper canonical) (properOther : other.Proper canonical)
    {line : List Char} (written : dumps sep document = some line)
    (same : dumps sep other = some line) : document.sortKeys = other.sortKeys := by
  have read := loads_dumps readable proper written
  rw [loads_dumps readable properOther same] at read
  exact (Except.ok.inj read).symm

end

/-! ### Digests -/

/-- `json.dumps(document, sort_keys=True, default=str)` -/
def canonicalText (document : Json) : Option String := (dumps spaced document).map String.ofList

def Apart (digest : String → String) (document other : Json) : Prop :=
  ∀ text text', canonicalText document = some text → canonicalText other = some text' →
    digest text = digest text' → text = text'

variable {canonical : List Char → List Char} {document other : Json}

theorem isSome_canonicalText (document : Json) :
    (canonicalText document).isSome = document.printable := by
  unfold canonicalText dumps
  cases document.printable with
  | false => rfl
  | true => rfl

theorem canonicalText_congr (same : other.sortKeys = document.sortKeys) :
    canonicalText other = canonicalText document := by
  unfold canonicalText dumps
  rw [← printable_sortKeys other, same, printable_sortKeys]

theorem canonicalText_iff (proper : document.Proper canonical) (properOther : other.Proper canonical)
    {text : String} (written : canonicalText document = some text) :
    canonicalText other = some text ↔ other.sortKeys = document.sortKeys := by
  constructor
  · intro same
    obtain ⟨line, dumped, rfl⟩ := Option.map_eq_some_iff.mp written
    obtain ⟨line', dumped', equal⟩ := Option.map_eq_some_iff.mp same
    obtain rfl := String.ofList_injective equal
    exact dumps_injective readable_spaced properOther proper dumped' dumped
  · intro same
    rw [canonicalText_congr same, written]

theorem digest_iff {digest : String → String} {digested : String}
    (proper : document.Proper canonical) (properOther : other.Proper canonical)
    (apart : Apart digest document other)
    (own : (canonicalText document).map digest = some digested) :
    (canonicalText other).map digest = some digested ↔ other.sortKeys = document.sortKeys := by
  obtain ⟨text, written, rfl⟩ := Option.map_eq_some_iff.mp own
  rw [← canonicalText_iff proper properOther written]
  constructor
  · intro same
    obtain ⟨text', written', equal⟩ := Option.map_eq_some_iff.mp same
    rw [written', apart text text' written written' equal.symm]
  · intro same
    rw [same]
    rfl

end SyndicateClaw.Json
