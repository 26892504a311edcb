import Mathlib.Tactic.IntervalCases
import SyndicateClaw.Data.Json

/-! What `json.dumps` writes, `json.loads` reads back. -/

namespace SyndicateClaw.Json

/-! ### Texts -/

theorem hexValue_digitChar : ∀ d, d < 16 → hexValue (Nat.digitChar d) = some d := by
  decide

theorem hexUnit_digitChars {unit : Nat} (small : unit < 0x10000) :
    hexUnit (Nat.digitChar (unit / 4096 % 16)) (Nat.digitChar (unit / 256 % 16))
      (Nat.digitChar (unit / 16 % 16)) (Nat.digitChar (unit % 16)) = some unit := by
  unfold hexUnit
  have digit (n : Nat) : hexValue (Nat.digitChar (n % 16)) = some (n % 16) :=
    hexValue_digitChar _ (Nat.mod_lt n (by decide))
  rw [digit, digit, digit, digit]
  have whole : 4096 * (unit / 4096 % 16) + 256 * (unit / 256 % 16) + 16 * (unit / 16 % 16) +
      unit % 16 = unit := by omega
  exact congrArg some whole

/-- The text of the units read, with one more in front. -/
abbrev consUnit (unit : Nat) (answer : Except LoadsError (Text × List Char)) :
    Except LoadsError (Text × List Char) :=
  answer.map fun read => (unit :: read.1, read.2)

theorem readUnits_unicodeEscape {unit : Nat} (small : unit < 0x10000) (rest : List Char) :
    readUnits (unicodeEscape unit ++ rest) = consUnit unit (readUnits rest) := by
  unfold unicodeEscape
  simp only [List.cons_append, List.nil_append]
  rw [readUnits, hexUnit_digitChars small]
  cases readUnits rest <;> rfl

theorem readUnits_simple {escape : Char} {unit : Nat} (known : simpleEscape escape = some unit)
    (rest : List Char) :
    readUnits ('\\' :: escape :: rest) = consUnit unit (readUnits rest) := by
  have other : escape ≠ 'u' := by
    rintro rfl
    cases known
  rw [readUnits, known]
  · cases readUnits rest <;> rfl
  · intro a b c d rest' same
    exact absurd same other

theorem toNat_ofNat {unit : Nat} (printed : unit ≤ 126) : (Char.ofNat unit).toNat = unit := by
  have valid : unit.isValidChar := .inl (by omega)
  rw [Char.ofNat, dif_pos valid]
  rfl

theorem readUnits_plain {unit : Nat} (printed : 32 ≤ unit ∧ unit ≤ 126) (quote : unit ≠ 34)
    (escape : unit ≠ 92) (rest : List Char) :
    readUnits (Char.ofNat unit :: rest) = consUnit unit (readUnits rest) := by
  have code := toNat_ofNat printed.2
  have differs : ∀ c : Char, c.toNat ≠ unit → Char.ofNat unit ≠ c := by
    rintro c other rfl
    exact other code
  have notQuote : Char.ofNat unit ≠ '"' := differs '"' (Ne.symm quote)
  have notEscape : Char.ofNat unit ≠ '\\' := differs '\\' (Ne.symm escape)
  have plain : ¬ ((Char.ofNat unit).toNat < 32 ∨ Char.ofNat unit = '\\') := by
    rw [code]
    rintro (low | same)
    · omega
    · exact notEscape same
  rw [readUnits, if_neg plain, code]
  · cases readUnits rest <;> rfl
  · exact notQuote
  · intro a b c d rest' same
    exact absurd same notEscape
  · intro e rest' same
    exact absurd same notEscape

theorem readUnits_escapeUnit {unit : Nat} (small : unit < 0x10000) (rest : List Char) :
    readUnits (escapeUnit unit ++ rest) = consUnit unit (readUnits rest) := by
  unfold escapeUnit
  by_cases quote : unit = 34
  · subst quote
    exact readUnits_simple rfl rest
  rw [if_neg quote]
  by_cases escape : unit = 92
  · subst escape
    exact readUnits_simple rfl rest
  rw [if_neg escape]
  split_ifs with newline ret tab back feed printed
  · subst newline
    exact readUnits_simple rfl rest
  · subst ret
    exact readUnits_simple rfl rest
  · subst tab
    exact readUnits_simple rfl rest
  · subst back
    exact readUnits_simple rfl rest
  · subst feed
    exact readUnits_simple rfl rest
  · exact readUnits_plain printed quote escape rest
  · exact readUnits_unicodeEscape small rest

theorem readUnits_flatMap (text : Text) (small : ∀ unit ∈ text, unit < 0x10000)
    (rest : List Char) :
    readUnits (text.flatMap escapeUnit ++ '"' :: rest) = .ok (text, rest) := by
  induction text with
  | nil => rfl
  | cons unit text ih =>
      have ih := ih fun other member => small other (List.mem_cons_of_mem unit member)
      rw [List.flatMap_cons, List.append_assoc,
        readUnits_escapeUnit (small unit List.mem_cons_self), ih]
      rfl

theorem units_lt {code unit : Nat} (member : unit ∈ units code) : unit < 0x10000 := by
  unfold units at member
  split at member
  · obtain rfl := List.mem_singleton.mp member
    assumption
  · simp only [List.mem_cons, List.not_mem_nil, or_false] at member
    omega

/-- The code points of a Python text in which no two surrogates make a pair. -/
structure ProperText (text : Text) : Prop where
  codes : ∀ code ∈ text, code < 0x110000
  unpaired : text.IsChain fun high low => ¬ (isHigh high = true ∧ isLow low = true)

theorem ProperText.tail {code : Nat} {text : Text} (proper : ProperText (code :: text)) :
    ProperText text :=
  ⟨fun other member => proper.codes other (List.mem_cons_of_mem code member),
    proper.unpaired.of_cons⟩

theorem text_injective {s t : String} (same : String.text s = String.text t) : s = t := by
  have chars : s.toList = t.toList :=
    List.map_injective_iff.mpr (fun _ _ => Char.toNat_inj.mp) same
  rw [← String.ofList_toList (s := s), chars, String.ofList_toList]

/-- The characters of a `String` are no surrogates. -/
theorem properText_text (s : String) : ProperText (String.text s) := by
  have surrogateFree : ∀ code ∈ String.text s,
      code < 0xd800 ∨ 0xdfff < code ∧ code < 0x110000 := by
    intro code member
    obtain ⟨c, -, rfl⟩ := List.mem_map.mp member
    exact c.valid
  refine ⟨fun code member => ?_, (List.pairwise_of_forall_mem_list ?_).isChain⟩
  · rcases surrogateFree code member with low | high <;> omega
  · intro high member _ _ ⟨pair, _⟩
    simp only [isHigh, Bool.and_eq_true, decide_eq_true_eq] at pair
    rcases surrogateFree high member with low | beyond <;> omega

theorem units_head (code : Nat) : ∃ unit rest, units code = unit :: rest ∧
    (isLow unit = true → isLow code = true) := by
  unfold units
  split
  · exact ⟨code, [], rfl, id⟩
  · refine ⟨_, _, rfl, fun low => ?_⟩
    simp only [isLow, Bool.and_eq_true, decide_eq_true_eq] at low
    omega

theorem joinUnits_unit {unit : Nat} {text : Text}
    (single : ∀ next rest, text = next :: rest → ¬ (isHigh unit = true ∧ isLow next = true)) :
    joinUnits (unit :: text) = unit :: joinUnits text := by
  cases text with
  | nil => rfl
  | cons next rest => rw [joinUnits, if_neg (single next rest rfl)]

theorem joinUnits_units {text : Text} (proper : ProperText text) :
    joinUnits (text.flatMap units) = text := by
  induction text with
  | nil => rfl
  | cons code text ih =>
      have ih := ih proper.tail
      rw [List.flatMap_cons]
      have bound := proper.codes code List.mem_cons_self
      by_cases small : code < 0x10000
      · rw [units, if_pos small, List.singleton_append, joinUnits_unit, ih]
        intro next rest comes
        cases text with
        | nil => cases comes
        | cons second text =>
            obtain ⟨unit, others, first, low⟩ := units_head second
            rw [List.flatMap_cons, first] at comes
            obtain rfl : unit = next := (List.cons.inj comes).1
            have apart := (List.isChain_cons_cons.mp proper.unpaired).1
            exact fun pair => apart ⟨pair.1, low pair.2⟩
      · rw [units, if_neg small, List.cons_append, List.singleton_append, joinUnits, if_pos, ih]
        · have whole : 0x10000 + (0xd800 + (code - 0x10000) / 0x400 % 0x400 - 0xd800) * 0x400 +
              (0xdc00 + (code - 0x10000) % 0x400 - 0xdc00) = code := by omega
          rw [whole]
        · simp only [isHigh, isLow, Bool.and_eq_true, decide_eq_true_eq]
          omega

theorem readText_dumpText {text : Text} (proper : ProperText text) (rest : List Char) :
    readText ((text.flatMap units).flatMap escapeUnit ++ '"' :: rest) = .ok (text, rest) := by
  have small : ∀ unit ∈ text.flatMap units, unit < 0x10000 := by
    intro unit member
    obtain ⟨code, -, inside⟩ := List.mem_flatMap.mp member
    exact units_lt inside
  unfold readText
  rw [readUnits_flatMap _ small]
  show Except.ok (joinUnits (text.flatMap units), rest) = _
  rw [joinUnits_units proper]

/-! ### Numbers -/

def Closed (rest : List Char) : Prop :=
  ∀ c ∈ rest.head?, c = ',' ∨ c = ']' ∨ c = '\x7d'

theorem Closed.not_digit {rest : List Char} (closed : Closed rest) :
    ∀ c ∈ rest.head?, c.isDigit = false := by
  intro c first
  rcases closed c first with rfl | rfl | rfl <;> rfl

theorem takeWhile_digits {digits rest : List Char} (all : ∀ c ∈ digits, c.isDigit = true)
    (stops : ∀ c ∈ rest.head?, c.isDigit = false) :
    (digits ++ rest).takeWhile Char.isDigit = digits := by
  rw [List.takeWhile_append_of_pos all]
  cases rest with
  | nil => rw [List.takeWhile_nil, List.append_nil]
  | cons c rest =>
      have stop : ¬ c.isDigit = true := by simp [stops c rfl]
      rw [List.takeWhile_cons_of_neg stop, List.append_nil]

/-- A whole part: digits, without a leading zero unless that is all. -/
structure IsWhole (whole : List Char) : Prop where
  nonempty : whole ≠ []
  digits : ∀ c ∈ whole, c.isDigit = true
  zero : whole.head? = some '0' → whole = ['0']

theorem wholePart_append {whole rest : List Char} (is : IsWhole whole)
    (stops : ∀ c ∈ rest.head?, c.isDigit = false) : wholePart (whole ++ rest) = whole := by
  unfold wholePart
  have first : (whole ++ rest).head? = whole.head? := by
    cases whole with
    | nil => exact absurd rfl is.nonempty
    | cons c whole => rfl
  rw [first]
  split
  · next zero => exact (is.zero zero).symm
  · exact takeWhile_digits is.digits stops

theorem toDigits_head {n : Nat} (positive : 0 < n) :
    (Nat.toDigits 10 n).head? ≠ some '0' := by
  induction n using Nat.strong_induction_on with
  | _ n ih =>
      by_cases small : n < 10
      · rw [Nat.toDigits_of_lt_base small]
        intro zero
        have digit : Nat.digitChar n = '0' := Option.some.inj zero
        interval_cases n <;> exact absurd digit (by decide)
      · rw [Nat.toDigits_of_base_le (by decide) (Nat.le_of_not_lt small), List.head?_append]
        have head := ih (n / 10) (by omega) (by omega)
        cases first : (Nat.toDigits 10 (n / 10)).head? with
        | none => exact absurd (List.head?_eq_none_iff.mp first) Nat.toDigits_ne_nil
        | some c =>
            rw [first] at head
            exact head

theorem isWhole_toDigits (n : Nat) : IsWhole (Nat.toDigits 10 n) := by
  refine ⟨Nat.toDigits_ne_nil, fun c member => ?_, fun zero => ?_⟩
  · exact Nat.isDigit_of_mem_toDigits (by decide) (by decide) member
  · rcases Nat.eq_zero_or_pos n with rfl | positive
    · exact Nat.toDigits_zero 10
    · exact absurd zero (toDigits_head positive)

theorem fractionPart_closed {rest : List Char} (closed : Closed rest) :
    fractionPart rest = [] := by
  cases rest with
  | nil => rfl
  | cons c rest => rcases closed c rfl with rfl | rfl | rfl <;> rfl

theorem exponentPart_closed {rest : List Char} (closed : Closed rest) :
    exponentPart rest = [] := by
  cases rest with
  | nil => rfl
  | cons c rest =>
      unfold exponentPart
      rcases closed c rfl with rfl | rfl | rfl <;> simp

section numbers

variable {canonical : List Char → List Char} {sign rest : List Char}

theorem readNumber_toDigits (closed : Closed rest) {n : Nat}
    (printable : (Nat.toDigits 10 n).length ≤ maxStrDigits) :
    readNumber canonical sign (Nat.toDigits 10 n ++ rest) =
      .ok (.int (if sign = [] then (n : Int) else -(n : Int)), rest) := by
  have whole := wholePart_append (isWhole_toDigits n) closed.not_digit
  unfold readNumber
  simp only [whole, List.drop_left, fractionPart_closed closed, List.length_nil, Nat.add_zero,
    exponentPart_closed closed, Nat.ofDigitChars_ten_toDigits]
  rw [if_neg Nat.toDigits_ne_nil, if_pos ⟨trivial, trivial⟩, if_neg (Nat.not_lt.mpr printable)]

/-- The parts of a float literal: a point with digits, an exponent, or both. -/
structure IsFloatLiteral (whole fraction exponent : List Char) : Prop where
  front : IsWhole whole
  middle : fraction = [] ∨ ∃ digits, fraction = '.' :: digits ∧ digits ≠ [] ∧
    ∀ c ∈ digits, c.isDigit = true
  last : exponent = [] ∨ ∃ sign digits, exponent = 'e' :: sign ++ digits ∧
    (sign = [] ∨ sign = ['+'] ∨ sign = ['-']) ∧ digits ≠ [] ∧ ∀ c ∈ digits, c.isDigit = true
  float : fraction ≠ [] ∨ exponent ≠ []

theorem exponentPart_append {exponent : List Char} (closed : Closed rest)
    (is : exponent = [] ∨ ∃ sign digits, exponent = 'e' :: sign ++ digits ∧
      (sign = [] ∨ sign = ['+'] ∨ sign = ['-']) ∧ digits ≠ [] ∧ ∀ c ∈ digits, c.isDigit = true) :
    exponentPart (exponent ++ rest) = exponent := by
  rcases is with rfl | ⟨sign, digits, rfl, signs, nonempty, all⟩
  · exact exponentPart_closed closed
  obtain ⟨c, others, rfl⟩ := List.exists_cons_of_ne_nil nonempty
  have digit : c.isDigit = true := all c List.mem_cons_self
  have taken := takeWhile_digits all closed.not_digit
  have plus : c ≠ '+' := by rintro rfl; cases digit
  have minus : c ≠ '-' := by rintro rfl; cases digit
  have open_ : ('e' :: sign ++ c :: others) ++ rest = 'e' :: (sign ++ ((c :: others) ++ rest)) := by
    simp
  rw [open_, exponentPart]
  rcases signs with rfl | rfl | rfl
  · simp only [List.nil_append, List.cons_append, List.head?_cons, Option.some.injEq, plus, minus,
      or_self, if_false, List.length_nil, List.drop_zero]
    rw [← List.cons_append, taken]
    simp
  · simp only [List.cons_append, List.nil_append, List.head?_cons, true_or, if_true,
      List.take_succ_cons, List.take_zero, List.length_cons, List.length_nil, Nat.zero_add,
      List.drop_succ_cons, List.drop_zero]
    rw [← List.cons_append, taken]
    simp
  · simp only [List.cons_append, List.nil_append, List.head?_cons, or_true, if_true,
      List.take_succ_cons, List.take_zero, List.length_cons, List.length_nil, Nat.zero_add,
      List.drop_succ_cons, List.drop_zero]
    rw [← List.cons_append, taken]
    simp

theorem readNumber_literal (closed : Closed rest) {whole fraction exponent : List Char}
    (is : IsFloatLiteral whole fraction exponent) :
    readNumber canonical sign (whole ++ fraction ++ exponent ++ rest) =
      .ok (.float (canonical (sign ++ whole ++ fraction ++ exponent)), rest) := by
  have last := exponentPart_append closed is.last
  have exponentHead : ∀ c ∈ (exponent ++ rest).head?, c.isDigit = false := by
    rcases is.last with rfl | ⟨sign, digits, rfl, -⟩
    · exact closed.not_digit
    · rintro c ⟨⟩
      rfl
  have middle : fractionPart (fraction ++ (exponent ++ rest)) = fraction := by
    rcases is.middle with rfl | ⟨digits, rfl, nonempty, all⟩
    · rcases is.last with rfl | ⟨sign, digits, rfl, -⟩
      · exact fractionPart_closed closed
      · rfl
    · rw [List.cons_append, fractionPart, takeWhile_digits all exponentHead]
      exact if_neg nonempty
  have fractionHead : ∀ c ∈ (fraction ++ (exponent ++ rest)).head?, c.isDigit = false := by
    rcases is.middle with rfl | ⟨digits, rfl, -⟩
    · exact exponentHead
    · rintro c ⟨⟩
      rfl
  have front := wholePart_append is.front fractionHead
  have whole_eq : whole ++ fraction ++ exponent ++ rest =
      whole ++ (fraction ++ (exponent ++ rest)) := by simp
  have two : (whole ++ (fraction ++ (exponent ++ rest))).drop (whole.length + fraction.length) =
      exponent ++ rest := by
    rw [← List.append_assoc, ← List.length_append, List.drop_left]
  have three : (whole ++ (fraction ++ (exponent ++ rest))).drop
      (whole.length + fraction.length + exponent.length) = rest := by
    rw [← List.append_assoc, ← List.append_assoc, ← List.length_append, ← List.length_append,
      List.drop_left]
  unfold readNumber
  rw [whole_eq]
  simp only [front, List.drop_left, middle, two, last, three]
  have some_part : ¬ (fraction = [] ∧ exponent = []) := by
    rintro ⟨none, none'⟩
    exact is.float.elim (absurd none) (absurd none')
  rw [if_neg is.front.nonempty, if_neg some_part]

end numbers

/-! ### Documents -/

section documents

variable (canonical : List Char → List Char)

/-- The `repr` of a float, as `json.dumps` spells it. -/
inductive IsFloatRepr : List Char → Prop where
  | nan : IsFloatRepr "NaN".toList
  | infinity : IsFloatRepr "Infinity".toList
  | negInfinity : IsFloatRepr "-Infinity".toList
  | literal {sign whole fraction exponent : List Char} (signed : sign = [] ∨ sign = ['-'])
      (parts : IsFloatLiteral whole fraction exponent)
      (fixed : canonical (sign ++ whole ++ fraction ++ exponent) =
        sign ++ whole ++ fraction ++ exponent) :
      IsFloatRepr (sign ++ whole ++ fraction ++ exponent)

mutual

/-- A value made of Python's JSON types: keys are distinct, texts and floats are what Python
can hold. -/
def Proper : Json → Prop
  | float repr => IsFloatRepr canonical repr
  | str text => ProperText text
  | arr items => ProperItems items
  | obj entries => (entries.map Prod.fst).Nodup ∧ ProperEntries entries
  | _ => True

def ProperItems : List Json → Prop
  | [] => True
  | item :: items => Proper item ∧ ProperItems items

def ProperEntries : List (Text × Json) → Prop
  | [] => True
  | (key, value) :: entries => ProperText key ∧ Proper value ∧ ProperEntries entries

end

variable {canonical}

theorem readValue_number {whole : List Char} (is : IsWhole whole) {sign : List Char}
    (signed : sign = [] ∨ sign = ['-']) (fuel : Nat) (rest : List Char) :
    readValue canonical (fuel + 1) (sign ++ (whole ++ rest)) =
      readNumber canonical sign (whole ++ rest) := by
  obtain ⟨d, digits, rfl⟩ := List.exists_cons_of_ne_nil is.nonempty
  have digit : d.isDigit = true := is.digits d List.mem_cons_self
  have differs : ∀ c : Char, c.isDigit = false → d ≠ c := by
    rintro c none rfl
    rw [none] at digit
    cases digit
  rcases signed with rfl | rfl
  · rw [List.nil_append, List.cons_append, readValue] <;>
      exact fun _ same => differs _ rfl (List.cons.inj same).1
  · rw [List.cons_append, List.nil_append, List.cons_append, readValue]
    exact fun _ same => differs _ rfl (List.cons.inj same).1

/-- A value does not start like white space or like the end of a collection. -/
def Opens (chars : List Char) : Prop :=
  ∃ c rest, chars = c :: rest ∧ isWhitespace c = false ∧ c ≠ ']' ∧ c ≠ '\x7d'

theorem Opens.append {chars : List Char} (opens : Opens chars) (rest : List Char) :
    Opens (chars ++ rest) := by
  obtain ⟨c, others, rfl, plain, notBracket, notBrace⟩ := opens
  exact ⟨c, others ++ rest, rfl, plain, notBracket, notBrace⟩

theorem Opens.of_number {whole : List Char} (is : IsWhole whole) {sign : List Char}
    (signed : sign = [] ∨ sign = ['-']) (rest : List Char) : Opens (sign ++ (whole ++ rest)) := by
  rcases signed with rfl | rfl
  · obtain ⟨d, digits, rfl⟩ := List.exists_cons_of_ne_nil is.nonempty
    have digit : d.isDigit = true := is.digits d List.mem_cons_self
    have differs : ∀ c : Char, c.isDigit = false → d ≠ c := by
      rintro c none rfl
      rw [none] at digit
      cases digit
    refine ⟨d, digits ++ rest, rfl, ?_, differs _ rfl, differs _ rfl⟩
    simp [isWhitespace, differs ' ' rfl, differs '\t' rfl, differs '\n' rfl, differs '\r' rfl]
  · exact ⟨'-', whole ++ rest, rfl, rfl, by decide, by decide⟩

theorem Opens.skip {chars : List Char} (opens : Opens chars) : skipWhitespace chars = chars := by
  obtain ⟨c, rest, rfl, plain, -⟩ := opens
  exact List.dropWhile_cons_of_neg (by simp [plain])

theorem Opens.skip_space {space chars : List Char} (opens : Opens chars)
    (white : ∀ c ∈ space, isWhitespace c = true) : skipWhitespace (space ++ chars) = chars := by
  have skip := opens.skip
  unfold skipWhitespace at skip ⊢
  rw [List.dropWhile_append_of_pos white, skip]

/-- A comma and a colon, with nothing but white space behind them. -/
structure Separators.Readable (sep : Separators) : Prop where
  item : ∃ space, sep.item = ',' :: space ∧ ∀ c ∈ space, isWhitespace c = true
  key : ∃ space, sep.key = ':' :: space ∧ ∀ c ∈ space, isWhitespace c = true

theorem readable_spaced : spaced.Readable :=
  ⟨⟨[' '], rfl, List.forall_mem_singleton.mpr rfl⟩, ⟨[' '], rfl, List.forall_mem_singleton.mpr rfl⟩⟩

theorem readable_compact : compact.Readable :=
  ⟨⟨[], rfl, nofun⟩, ⟨[], rfl, nofun⟩⟩

theorem dumpInt_eq (i : Int) :
    dumpInt i = (if i < 0 then ['-'] else []) ++ (Nat.toDigits 10 i.natAbs ++ []) := by
  unfold dumpInt
  split <;> simp

theorem opens_dump {document : Json} (proper : document.Proper canonical) (sep : Separators) :
    Opens (dump sep document) := by
  cases document with
  | null => exact ⟨_, _, rfl, by decide, by decide, by decide⟩
  | bool b => cases b <;> exact ⟨_, _, rfl, by decide, by decide, by decide⟩
  | int i =>
      rw [dump, dumpInt_eq]
      exact .of_number (isWhole_toDigits _) (by split <;> simp) []
  | float repr =>
      rw [dump]
      cases (proper : IsFloatRepr canonical repr) with
      | nan => exact ⟨_, _, rfl, by decide, by decide, by decide⟩
      | infinity => exact ⟨_, _, rfl, by decide, by decide, by decide⟩
      | negInfinity => exact ⟨_, _, rfl, by decide, by decide, by decide⟩
      | literal signed parts fixed =>
          rw [List.append_assoc, List.append_assoc]
          exact .of_number parts.front signed _
  | str text => exact ⟨_, _, rfl, by decide, by decide, by decide⟩
  | arr items => cases items <;> exact ⟨_, _, rfl, by decide, by decide, by decide⟩
  | obj entries => rcases entries with _ | ⟨⟨key, value⟩, entries⟩ <;>
      exact ⟨_, _, rfl, by decide, by decide, by decide⟩

theorem ofEntries_of_nodup {entries : Dict Text Json}
    (distinct : (entries.map Prod.fst).Nodup) : ofEntries entries = entries :=
  Dict.foldl_set distinct

theorem readValue_arr {chars : List Char} (opens : Opens chars) (fuel : Nat) :
    readValue canonical (fuel + 1) ('[' :: chars) =
      (readItems canonical fuel chars).map fun read => (.arr read.1, read.2) := by
  rw [readValue_bracket, opens.skip]
  obtain ⟨c, others, rfl, -, notBracket, -⟩ := opens
  split
  · next same => exact absurd (List.cons.inj same).1 notBracket
  · cases readItems canonical fuel (c :: others) <;> rfl

theorem readValue_obj (fuel : Nat) (chars : List Char) :
    readValue canonical (fuel + 1) ('\x7b' :: '"' :: chars) =
      (readEntries canonical fuel ('"' :: chars)).map fun read =>
        (.obj (ofEntries read.1), read.2) := by
  have skipped : skipWhitespace ('"' :: chars) = '"' :: chars := rfl
  rw [readValue_brace, skipped]
  split
  · next same => exact absurd (List.cons.inj same).1 (by decide)
  · cases readEntries canonical fuel ('"' :: chars) <;> rfl

section separators

variable {sep : Separators} (readable : sep.Readable)

include readable

theorem closed_dumpItems (items : List Json) (rest : List Char) :
    Closed (dumpItems sep items ++ rest) := by
  obtain ⟨space, shape, -⟩ := readable.item
  intro c first
  cases items with
  | nil => exact .inr (.inl (Option.some.inj first).symm)
  | cons item items =>
      rw [dumpItems, shape] at first
      exact .inl (Option.some.inj first).symm

theorem closed_dumpEntries (entries : List (Text × Json)) (rest : List Char) :
    Closed (dumpEntries sep entries ++ rest) := by
  obtain ⟨space, shape, -⟩ := readable.item
  intro c first
  rcases entries with _ | ⟨⟨key, value⟩, entries⟩
  · exact .inr (.inr (Option.some.inj first).symm)
  · rw [dumpEntries, shape] at first
    exact .inl (Option.some.inj first).symm

theorem readEntries_entry {key : Text} (proper : ProperText key) {value : Json} (fuel : Nat)
    {chars rest : List Char} (opens : Opens chars)
    (read : readValue canonical fuel chars = .ok (value, rest)) :
    readEntries canonical (fuel + 1) (dumpText key ++ (sep.key ++ chars)) =
      match skipWhitespace rest with
      | '\x7d' :: rest => .ok ([(key, value)], rest)
      | ',' :: rest => (readEntries canonical fuel (skipWhitespace rest)).map fun read =>
          ((key, value) :: read.1, read.2)
      | _ => .error .decode := by
  obtain ⟨space, colon, white⟩ := readable.key
  have text := readText_dumpText proper (':' :: (space ++ chars))
  have front : dumpText key ++ (sep.key ++ chars) =
      '"' :: ((key.flatMap units).flatMap escapeUnit ++ '"' :: ':' :: (space ++ chars)) := by
    simp [dumpText, colon]
  rw [front, readEntries, text]
  show (readValue canonical fuel (skipWhitespace (space ++ chars)) >>= _) = _
  rw [opens.skip_space white, read]
  show (match skipWhitespace rest with | '\x7d' :: rest => _ | ',' :: rest => _ | _ => _) = _
  split
  · rfl
  · cases readEntries canonical fuel (skipWhitespace _) <;> rfl
  · rfl

mutual

theorem readValue_dump : ∀ (document : Json) (fuel : Nat) (rest : List Char),
    document.Proper canonical → document.printable = true →
    2 * (dump sep document).length ≤ fuel → Closed rest →
    readValue canonical fuel (dump sep document ++ rest) = .ok (document, rest)
  | document, 0, rest, proper, _, enough, _ => by
      obtain ⟨c, others, shape, -⟩ := opens_dump proper sep
      rw [shape, List.length_cons] at enough
      omega
  | .null, fuel + 1, rest, _, _, _, _ => rfl
  | .bool true, fuel + 1, rest, _, _, _, _ => rfl
  | .bool false, fuel + 1, rest, _, _, _, _ => rfl
  | .int i, fuel + 1, rest, _, printed, _, closed => by
      have short : (Nat.toDigits 10 i.natAbs).length ≤ maxStrDigits := of_decide_eq_true printed
      rw [dump, dumpInt_eq, List.append_nil, List.append_assoc,
        readValue_number (isWhole_toDigits _) (by split <;> simp), readNumber_toDigits closed short]
      split
      · next negative =>
          rw [if_neg (by simp)]
          exact congrArg (fun i => Except.ok (Json.int i, rest)) (by omega)
      · next natural =>
          rw [if_pos rfl]
          exact congrArg (fun i => Except.ok (Json.int i, rest)) (by omega)
  | .float repr, fuel + 1, rest, proper, _, _, closed => by
      rw [dump]
      cases (proper : IsFloatRepr canonical repr) with
      | nan => rfl
      | infinity => rfl
      | negInfinity => rfl
      | @literal sign whole fraction exponent signed parts fixed =>
          have read := @readNumber_literal canonical sign rest closed _ _ _ parts
          rw [fixed] at read
          have shape : sign ++ whole ++ fraction ++ exponent ++ rest =
              sign ++ (whole ++ (fraction ++ exponent ++ rest)) := by simp
          rw [shape, readValue_number parts.front signed, ← List.append_assoc, ← List.append_assoc]
          exact read
  | .str text, fuel + 1, rest, proper, _, _, _ => by
      have read := readText_dumpText proper rest
      have shape : dump sep (.str text) ++ rest =
          '"' :: ((text.flatMap units).flatMap escapeUnit ++ '"' :: rest) := by
        simp [dump, dumpText]
      rw [shape]
      show (readText _ >>= fun read => Except.ok (Json.str read.1, read.2)) = _
      rw [read]
      rfl
  | .arr [], fuel + 1, rest, _, _, _, _ => rfl
  | .arr (item :: items), fuel + 1, rest, proper, printed, enough, _ => by
      obtain ⟨properItem, properItems⟩ := proper
      simp only [printable, printableItems, Bool.and_eq_true] at printed
      rw [dump, List.length_append, List.length_cons] at enough
      obtain ⟨fuel, rfl⟩ : ∃ fuel', fuel = fuel' + 1 := ⟨fuel - 1, by omega⟩
      have opens := opens_dump properItem sep
      have value := readValue_dump item fuel (dumpItems sep items ++ rest) properItem printed.1
        (by omega) (closed_dumpItems readable items rest)
      have read := readItems_dump items fuel _ rest item properItems printed.2 (by omega) value
      rw [dump, List.cons_append, List.cons_append, List.append_assoc,
        readValue_arr (opens.append _), read]
      rfl
  | .obj [], fuel + 1, rest, _, _, _, _ => rfl
  | .obj ((key, value) :: entries), fuel + 1, rest, proper, printed, enough, _ => by
      obtain ⟨distinct, properKey, properValue, properEntries⟩ := proper
      simp only [printable, printableEntries, Bool.and_eq_true] at printed
      rw [dump] at enough
      simp only [List.length_append, List.length_cons] at enough
      obtain ⟨fuel, rfl⟩ : ∃ fuel', fuel = fuel' + 1 := ⟨fuel - 1, by omega⟩
      have opens := opens_dump properValue sep
      have read := readValue_dump value fuel (dumpEntries sep entries ++ rest) properValue
        printed.1 (by omega) (closed_dumpEntries readable entries rest)
      have all := readEntries_dump entries fuel _ rest key value properKey properEntries printed.2
        (by omega) (opens.append _) read
      have shape : dump sep (.obj ((key, value) :: entries)) ++ rest = '\x7b' ::
          (dumpText key ++ (sep.key ++ (dump sep value ++
            (dumpEntries sep entries ++ rest)))) := by
        simp [dump]
      rw [shape, dumpText, List.cons_append, List.cons_append, readValue_obj, ← List.cons_append,
        ← List.cons_append, ← dumpText, all]
      show Except.ok (Json.obj (ofEntries _), rest) = _
      rw [ofEntries_of_nodup distinct]

theorem readItems_dump : ∀ (items : List Json) (fuel : Nat) (chars rest : List Char)
    (item : Json), ProperItems canonical items → printableItems items = true →
    2 * (dumpItems sep items).length ≤ fuel →
    readValue canonical fuel chars = .ok (item, dumpItems sep items ++ rest) →
    readItems canonical (fuel + 1) chars = .ok (item :: items, rest)
  | [], fuel, chars, rest, item, _, _, _, read => by
      rw [readItems, read]
      rfl
  | next :: items, fuel, chars, rest, item, proper, printed, enough, read => by
      obtain ⟨properNext, properItems⟩ := proper
      simp only [printableItems, Bool.and_eq_true] at printed
      obtain ⟨space, comma, white⟩ := readable.item
      rw [dumpItems, comma, List.length_append, List.length_append, List.length_cons] at enough
      obtain ⟨fuel, rfl⟩ : ∃ fuel', fuel = fuel' + 1 := ⟨fuel - 1, by omega⟩
      have value := readValue_dump next fuel (dumpItems sep items ++ rest) properNext printed.1
        (by omega) (closed_dumpItems readable items rest)
      have more := readItems_dump items fuel _ rest next properItems printed.2 (by omega) value
      have opens := (opens_dump properNext sep).append (dumpItems sep items ++ rest)
      have shape : dumpItems sep (next :: items) ++ rest =
          ',' :: (space ++ (dump sep next ++ (dumpItems sep items ++ rest))) := by
        simp [dumpItems, comma]
      rw [readItems, read, shape]
      show (readItems canonical (fuel + 1) (skipWhitespace (space ++ _)) >>= _) = _
      rw [opens.skip_space white, more]
      rfl

theorem readEntries_dump : ∀ (entries : List (Text × Json)) (fuel : Nat) (chars rest : List Char)
    (key : Text) (value : Json), ProperText key → ProperEntries canonical entries →
    printableEntries entries = true → 2 * (dumpEntries sep entries).length ≤ fuel →
    Opens chars → readValue canonical fuel chars = .ok (value, dumpEntries sep entries ++ rest) →
    readEntries canonical (fuel + 1) (dumpText key ++ (sep.key ++ chars)) =
      .ok ((key, value) :: entries, rest)
  | [], fuel, chars, rest, key, value, properKey, _, _, _, opens, read => by
      rw [readEntries_entry readable properKey fuel opens read]
      rfl
  | (key', value') :: entries, fuel, chars, rest, key, value, properKey, proper, printed, enough,
      opens, read => by
      obtain ⟨properKey', properValue, properEntries⟩ := proper
      simp only [printableEntries, Bool.and_eq_true] at printed
      obtain ⟨space, comma, white⟩ := readable.item
      simp only [dumpEntries, comma, List.length_append, List.length_cons] at enough
      obtain ⟨fuel, rfl⟩ : ∃ fuel', fuel = fuel' + 1 := ⟨fuel - 1, by omega⟩
      have next := readValue_dump value' fuel (dumpEntries sep entries ++ rest) properValue
        printed.1 (by omega) (closed_dumpEntries readable entries rest)
      have more := readEntries_dump entries fuel _ rest key' value' properKey' properEntries
        printed.2 (by omega) ((opens_dump properValue sep).append _) next
      have shape : dumpEntries sep ((key', value') :: entries) ++ rest = ',' :: (space ++
          (dumpText key' ++ (sep.key ++ (dump sep value' ++
            (dumpEntries sep entries ++ rest))))) := by
        simp [dumpEntries, comma]
      have quoted : Opens (dumpText key' ++ (sep.key ++ (dump sep value' ++
          (dumpEntries sep entries ++ rest)))) := ⟨_, _, rfl, by decide, by decide, by decide⟩
      rw [readEntries_entry readable properKey (fuel + 1) opens read, shape]
      show (readEntries canonical (fuel + 1) (skipWhitespace (space ++ _))).map _ = _
      rw [quoted.skip_space white, more]
      rfl

end

end separators

end documents

end SyndicateClaw.Json
