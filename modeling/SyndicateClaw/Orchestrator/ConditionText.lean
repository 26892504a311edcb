import Mathlib.Data.List.TakeWhile
import SyndicateClaw.Orchestrator.ConditionEvaluation

/-! The text of tokens.

Tokens are spelled one after another with a space only where two would run together. The tokenizer
finds them again, and no text it makes the same tokens of is shorter. -/

namespace SyndicateClaw.Orchestrator.Condition

/-! ### Spelling of tokens -/

/-- `-?\d+(?:\.\d+)?` -/
def Numeral (chars : List Char) : Prop :=
  ∃ sign whole fraction, (sign = [] ∨ sign = ['-']) ∧ whole ≠ [] ∧
    (∀ c ∈ whole, c.isDigit = true) ∧
    (fraction = [] ∨ ∃ digits, fraction = '.' :: digits ∧ digits ≠ [] ∧
      ∀ c ∈ digits, c.isDigit = true) ∧
    chars = sign ++ whole ++ fraction

/-- `'[^']*'|"[^"]*"` -/
def Quoted (chars : List Char) : Prop :=
  ∃ quote body, (quote = '\'' ∨ quote = '"') ∧ quote ∉ body ∧ chars = quote :: body ++ [quote]

def Spelled : Token → Prop
  | .bool text => text ∈ ["true", "false", "True", "False"]
  | .none text => text ∈ ["None", "null"]
  | .number text => Numeral text.toList
  | .string text => Quoted text.toList
  | .ident name => name.toList ≠ [] ∧ ∀ c ∈ name.toList, isWordChar c = true
  | _ => True

def runsOn : Token → List Char → Bool
  | .ident _, c :: _ => isWordChar c
  | .number _, c :: _ => c.isDigit || c = '.'
  | .op .gt, c :: _ | .op .lt, c :: _ => c = '='
  | _, _ => false

/-- Tokens one after another, with a space only where they would run together. -/
def spell : List Token → List Char
  | [] => []
  | token :: tokens =>
      (tokenText token).toList ++
        if runsOn token (spell tokens) then ' ' :: spell tokens else spell tokens

section

variable {text : String} {rest : List Char}

theorem matchToken_bool (spelled : Spelled (.bool text)) :
    matchToken (text.toList ++ rest) = some (.bool text, rest) := by
  simp only [Spelled, List.mem_cons, List.not_mem_nil, or_false] at spelled
  rcases spelled with rfl | rfl | rfl | rfl <;>
    simp [matchToken, matchTable, literalTokens, stripWord]

theorem matchToken_none (spelled : Spelled (.none text)) :
    matchToken (text.toList ++ rest) = some (.none text, rest) := by
  simp only [Spelled, List.mem_cons, List.not_mem_nil, or_false] at spelled
  rcases spelled with rfl | rfl <;> simp [matchToken, matchTable, literalTokens, stripWord]

theorem matchToken_keyword (word : Keyword) :
    matchToken ((tokenText (.keyword word)).toList ++ rest) = some (.keyword word, rest) := by
  cases word <;>
    simp [tokenText, matchToken, matchTable, literalTokens, symbolTokens, matchNumber, matchString,
      stripWord]

theorem matchToken_op (op : CompareOp) (separate : runsOn (.op op) rest = false) :
    matchToken ((tokenText (.op op)).toList ++ rest) = some (.op op, rest) := by
  cases op with
  | gt | lt =>
      cases rest with
      | nil => rfl
      | cons c rest =>
          have differs : c ≠ '=' := by simpa [runsOn] using separate
          simp [tokenText, opText, matchToken, matchTable, literalTokens, symbolTokens,
            matchNumber, matchString, stripWord, differs.symm]
  | _ =>
      simp [tokenText, opText, matchToken, matchTable, literalTokens, symbolTokens, matchNumber,
        matchString, stripWord]

theorem takeWhile_stops {p : Char → Bool} {word : List Char} (all : ∀ c ∈ word, p c = true)
    (stops : ∀ c ∈ rest.head?, p c = false) :
    (word ++ rest).takeWhile p = word ∧ (word ++ rest).dropWhile p = rest := by
  rw [List.takeWhile_append_of_pos all, List.dropWhile_append_of_pos all]
  cases rest with
  | nil => exact ⟨List.append_nil word, rfl⟩
  | cons c rest =>
      have stop := stops c rfl
      simp [stop]

theorem matchToken_ident {name : String} (spelled : Spelled (.ident name))
    (separate : runsOn (.ident name) rest = false) :
    matchToken ((tokenText (.ident name)).toList ++ rest) = some (.ident name, rest) := by
  have stops : ∀ c ∈ rest.head?, isWordChar c = false := by
    intro c head
    cases rest with
    | nil => cases head
    | cons c' rest =>
        obtain rfl := Option.some.inj head
        exact separate
  obtain ⟨taken, dropped⟩ := takeWhile_stops spelled.2 stops
  have ident : matchIdent ((tokenText (.ident name)).toList ++ rest) =
      some (.ident name, rest) := by
    simp [tokenText, matchIdent, stripWord, taken, dropped, spelled.1]
  have start : (tokenText (.ident name)).toList ++ rest =
      's' :: 't' :: 'a' :: 't' :: 'e' :: '.' :: (name.toList ++ rest) := by
    simp [tokenText]
  rw [start] at ident ⊢
  simp [matchToken, matchTable, literalTokens, symbolTokens, matchNumber, matchString, stripWord,
    ident]

theorem matchTable_literal {c : Char} (differs : c ∉ ['t', 'f', 'T', 'F', 'N', 'n']) :
    matchTable literalTokens (c :: rest) = Option.none := by
  simp only [List.mem_cons, List.not_mem_nil, or_false, not_or] at differs
  obtain ⟨h₁, h₂, h₃, h₄, h₅, h₆⟩ := differs
  simp [matchTable, literalTokens, stripWord, Ne.symm h₁, Ne.symm h₂, Ne.symm h₃, Ne.symm h₄,
    Ne.symm h₅, Ne.symm h₆]

theorem matchToken_string (spelled : Spelled (.string text)) :
    matchToken (text.toList ++ rest) = some (.string text, rest) := by
  obtain ⟨quote, body, kind, fresh, same⟩ := spelled
  have inside : ∀ c ∈ body, decide (c ≠ quote) = true := by
    intro c member
    exact decide_eq_true fun equal => fresh (equal ▸ member)
  obtain ⟨taken, dropped⟩ := @takeWhile_stops (quote :: rest) (fun c => decide (c ≠ quote)) body
    inside (by simp)
  have number : matchNumber (quote :: (body ++ quote :: rest)) = Option.none := by
    rcases kind with rfl | rfl <;> simp [matchNumber]
  have string : matchString (quote :: (body ++ quote :: rest)) = some (.string text, rest) := by
    rw [matchString, if_pos kind, dropped, taken]
    simp only [← same, String.ofList_toList]
  have literal : matchTable literalTokens (quote :: (body ++ quote :: rest)) = Option.none := by
    apply matchTable_literal
    rcases kind with rfl | rfl <;> decide
  rw [same, List.append_assoc, List.cons_append, List.singleton_append, matchToken, literal,
    number, string]
  rfl

/-- `matchNumber` after the optional sign. -/
def scanNumber (sign body : List Char) : Option (Token × List Char) :=
  let digits := body.takeWhile Char.isDigit
  let rest := body.dropWhile Char.isDigit
  if digits.isEmpty then Option.none else
  match rest with
  | '.' :: tail =>
      let fraction := tail.takeWhile Char.isDigit
      if fraction.isEmpty then some (.number (String.ofList (sign ++ digits)), rest)
      else some (.number (String.ofList (sign ++ digits ++ '.' :: fraction)),
        tail.dropWhile Char.isDigit)
  | _ => some (.number (String.ofList (sign ++ digits)), rest)

theorem matchNumber_sign {sign body : List Char} {d : Char} (signed : sign = [] ∨ sign = ['-'])
    (digit : d.isDigit = true) : matchNumber (sign ++ d :: body) = scanNumber sign (d :: body) := by
  rcases signed with rfl | rfl
  · rw [List.nil_append, matchNumber.eq_def]
    split
    next sign body found =>
      split at found
      · next same =>
          cases same
          exact absurd digit (by decide)
      · cases found
        rfl
  · rfl

theorem matchTable_number {sign body : List Char} {d : Char} (signed : sign = [] ∨ sign = ['-'])
    (digit : d.isDigit = true) : matchTable literalTokens (sign ++ d :: body) = Option.none := by
  rcases signed with rfl | rfl
  · apply matchTable_literal
    intro member
    simp only [List.mem_cons, List.not_mem_nil, or_false] at member
    rcases member with rfl | rfl | rfl | rfl | rfl | rfl <;> exact absurd digit (by decide)
  · exact matchTable_literal (by decide)

theorem matchToken_number (spelled : Spelled (.number text))
    (separate : runsOn (.number text) rest = false) :
    matchToken (text.toList ++ rest) = some (.number text, rest) := by
  obtain ⟨sign, whole, fraction, signed, start, digits, point, same⟩ := spelled
  have stops : ∀ c ∈ rest.head?, c.isDigit = false ∧ c ≠ '.' := by
    intro c head
    cases rest with
    | nil => cases head
    | cons c' rest =>
        obtain rfl := Option.some.inj head
        simpa [runsOn] using separate
  have number : scanNumber sign (whole ++ (fraction ++ rest)) = some (.number text, rest) := by
    rcases point with rfl | ⟨ds, rfl, start', digits'⟩
    · obtain ⟨taken, dropped⟩ := takeWhile_stops digits fun c head => (stops c head).1
      rw [List.append_nil] at same
      simp only [scanNumber, List.nil_append, taken, dropped, ← same, String.ofList_toList,
        List.isEmpty_iff, if_neg start]
      split
      · exact absurd rfl (stops _ rfl).2
      · rfl
    · obtain ⟨taken, dropped⟩ := @takeWhile_stops ('.' :: (ds ++ rest)) _ _ digits (by simp)
      obtain ⟨taken', dropped'⟩ := takeWhile_stops digits' fun c head => (stops c head).1
      simp only [scanNumber, List.cons_append, taken, dropped, taken', dropped', ← same,
        String.ofList_toList, List.isEmpty_iff, if_neg start, if_neg start']
  obtain ⟨d, body, rfl⟩ := List.exists_cons_of_ne_nil start
  have digit : d.isDigit = true := digits d List.mem_cons_self
  rw [same, List.append_assoc, List.append_assoc, List.cons_append, matchToken,
    matchTable_number signed digit, matchNumber_sign signed digit, ← List.cons_append, number]
  rfl

theorem matchToken_bracket {token : Token} (bracket : token ∈ bracketTokens.map Prod.snd) :
    matchToken ((tokenText token).toList ++ rest) = some (token, rest) := by
  simp only [bracketTokens, List.map_cons, List.map_nil, List.mem_cons, List.not_mem_nil,
    or_false] at bracket
  rcases bracket with rfl | rfl | rfl | rfl | rfl <;>
    simp [tokenText, matchToken, matchTable, literalTokens, symbolTokens, bracketTokens,
      matchNumber, matchString, matchIdent, stripWord]

theorem matchToken_spelled {token : Token} (spelled : Spelled token)
    (separate : runsOn token rest = false) :
    matchToken ((tokenText token).toList ++ rest) = some (token, rest) := by
  cases token with
  | bool text => exact matchToken_bool spelled
  | none text => exact matchToken_none spelled
  | number text => exact matchToken_number spelled separate
  | string text => exact matchToken_string spelled
  | keyword word => exact matchToken_keyword word
  | op op => exact matchToken_op op separate
  | ident name => exact matchToken_ident spelled separate
  | _ => exact matchToken_bracket (by decide)

end

theorem isSpace_of_digit {c : Char} (digit : c.isDigit = true) : isSpace c = false := by
  have low : 48 ≤ c.toNat := by
    simp only [Char.isDigit, Bool.and_eq_true, decide_eq_true_eq] at digit
    exact digit.1
  have differs : ∀ d : Char, d.toNat < 48 → c ≠ d := by
    rintro d small rfl
    omega
  have first : ¬ c.toNat ≤ 0x0c := by omega
  have second : ¬ c.toNat ≤ 0x1f := by omega
  simp [isSpace, Char.isWhitespace, first, second, differs ' ' (by decide),
    differs '\t' (by decide), differs '\r' (by decide), differs '\n' (by decide)]

theorem tokenText_cons {token : Token} (spelled : Spelled token) :
    ∃ c chars, (tokenText token).toList = c :: chars ∧ isSpace c = false := by
  cases token with
  | bool text =>
      simp only [Spelled, List.mem_cons, List.not_mem_nil, or_false] at spelled
      rcases spelled with rfl | rfl | rfl | rfl <;> exact ⟨_, _, rfl, by decide⟩
  | none text =>
      simp only [Spelled, List.mem_cons, List.not_mem_nil, or_false] at spelled
      rcases spelled with rfl | rfl <;> exact ⟨_, _, rfl, by decide⟩
  | number text =>
      obtain ⟨sign, whole, fraction, signed, start, digits, -, same⟩ := spelled
      obtain ⟨d, body, rfl⟩ := List.exists_cons_of_ne_nil start
      rcases signed with rfl | rfl
      · exact ⟨d, _, same, isSpace_of_digit (digits d List.mem_cons_self)⟩
      · exact ⟨'-', _, same, by decide⟩
  | string text =>
      obtain ⟨quote, body, kind, -, same⟩ := spelled
      refine ⟨quote, _, same, ?_⟩
      rcases kind with rfl | rfl <;> decide
  | keyword word => cases word <;> exact ⟨_, _, rfl, by decide⟩
  | op op => cases op <;> exact ⟨_, _, rfl, by decide⟩
  | ident name => exact ⟨'s', _, by simp [tokenText]; rfl, by decide⟩
  | _ => exact ⟨_, _, rfl, by decide⟩

theorem runsOn_space (token : Token) (chars : List Char) :
    runsOn token (' ' :: chars) = false := by
  cases token with
  | op op => cases op <;> rfl
  | _ => rfl

theorem tokenizeFrom_spell {tokens : List Token} (spelled : ∀ token ∈ tokens, Spelled token)
    {fuel pos : Nat} (enough : (spell tokens).length ≤ fuel) :
    tokenizeFrom fuel pos (spell tokens) = .ok tokens := by
  induction tokens generalizing fuel pos with
  | nil => cases fuel <;> rfl
  | cons token tokens ih =>
      obtain ⟨c, chars, text, visible⟩ := tokenText_cons (spelled token List.mem_cons_self)
      have later := fun token member => spelled token (List.mem_cons_of_mem _ member)
      rw [spell, text] at enough ⊢
      cases fuel with
      | zero => cases enough
      | succ fuel =>
          simp only [List.cons_append, List.length_cons, List.length_append] at enough
          rw [List.cons_append, tokenizeFrom, if_neg (by rw [visible]; decide), ← List.cons_append,
            ← text]
          split_ifs at enough ⊢ with close
          · rw [matchToken_spelled (spelled token List.mem_cons_self) (runsOn_space token _)]
            rw [List.length_cons] at enough
            obtain ⟨less, rfl⟩ : ∃ less, fuel = less + 1 := ⟨fuel - 1, by omega⟩
            dsimp only
            rw [tokenizeFrom, if_pos (by decide), ih later (by omega)]
            rfl
          · rw [matchToken_spelled (spelled token List.mem_cons_self) (by simpa using close)]
            dsimp only
            rw [ih later (by omega)]
            rfl

theorem tokenize_spell {tokens : List Token} (spelled : ∀ token ∈ tokens, Spelled token) :
    tokenize (String.ofList (spell tokens)) = .ok tokens := by
  rw [tokenize, String.toList_ofList]
  exact tokenizeFrom_spell spelled le_rfl

/-! ### Texts of tokens -/

theorem stripWord_inv {word chars rest : List Char} (found : stripWord word chars = some rest) :
    chars = word ++ rest := by
  induction word generalizing chars with
  | nil => exact Option.some.inj found
  | cons w word ih =>
      cases chars with
      | nil => cases found
      | cons c chars =>
          rw [stripWord] at found
          split at found
          · next same => rw [same, ih found, List.cons_append]
          · cases found

theorem matchTable_inv {table : List (String × Token)} {chars rest : List Char} {token : Token}
    (found : matchTable table chars = some (token, rest)) :
    ∃ entry ∈ table, entry.2 = token ∧ chars = entry.1.toList ++ rest := by
  obtain ⟨entry, member, stripped⟩ := List.exists_of_findSome?_eq_some found
  obtain ⟨rest', strip, same⟩ := Option.map_eq_some_iff.mp stripped
  cases same
  exact ⟨entry, member, rfl, stripWord_inv strip⟩

/-- What stands for a token at the front of a text. A number may be followed by a point that has
no digits after it. -/
structure Fronts (token : Token) (chars rest : List Char) : Prop where
  split : chars = (tokenText token).toList ++ rest
  spelled : Spelled token
  ends : runsOn token rest = false ∨ rest.head? = some '.'

theorem head_dropWhile {p : Char → Bool} {chars : List Char} :
    ∀ c ∈ (chars.dropWhile p).head?, p c = false := by
  intro c head
  have stop := List.head?_dropWhile_not p chars
  rw [Option.mem_def.mp head] at stop
  exact stop

theorem all_takeWhile {p : Char → Bool} {chars : List Char} :
    ∀ c ∈ chars.takeWhile p, p c = true :=
  fun _ => List.mem_takeWhile_imp

theorem number_ends {text : String} {rest : List Char}
    (stops : ∀ c ∈ rest.head?, c.isDigit = false) :
    runsOn (.number text) rest = false ∨ rest.head? = some '.' := by
  cases rest with
  | nil => exact .inl rfl
  | cons c rest =>
      by_cases point : c = '.'
      · exact .inr (by rw [point]; rfl)
      · exact .inl (by simp [runsOn, stops c rfl, point])

theorem matchNumber_fronts {chars rest : List Char} {token : Token}
    (found : matchNumber chars = some (token, rest)) : Fronts token chars rest := by
  obtain ⟨sign, body, signed, split, scanned⟩ : ∃ sign body, (sign = [] ∨ sign = ['-']) ∧
      chars = sign ++ body ∧ scanNumber sign body = some (token, rest) := by
    rw [matchNumber.eq_def] at found
    split at found
    next sign body same =>
      refine ⟨sign, body, ?_, ?_, found⟩
      · split at same <;> cases same <;> simp
      · split at same <;> cases same <;> rfl
  subst split
  have whole : ∀ c ∈ body.takeWhile Char.isDigit, c.isDigit = true := all_takeWhile
  have scan : body.takeWhile Char.isDigit ++ body.dropWhile Char.isDigit = body :=
    List.takeWhile_append_dropWhile
  have numeral : ∀ fraction, body.takeWhile Char.isDigit ≠ [] → (fraction = [] ∨ ∃ digits,
      fraction = '.' :: digits ∧ digits ≠ [] ∧ ∀ c ∈ digits, c.isDigit = true) →
      Spelled (.number (String.ofList (sign ++ body.takeWhile Char.isDigit ++ fraction))) := by
    intro fraction start point
    exact ⟨sign, _, fraction, signed, start, whole, point, String.toList_ofList⟩
  simp only [scanNumber] at scanned
  split at scanned
  · cases scanned
  · next start =>
      rw [List.isEmpty_iff] at start
      split at scanned
      · next tail point =>
          have fraction : ∀ c ∈ tail.takeWhile Char.isDigit, c.isDigit = true := all_takeWhile
          have scan' : tail.takeWhile Char.isDigit ++ tail.dropWhile Char.isDigit = tail :=
            List.takeWhile_append_dropWhile
          split at scanned
          · cases scanned
            refine ⟨?_, by simpa using numeral [] start (.inl rfl), number_ends head_dropWhile⟩
            simp only [tokenText, String.toList_ofList, List.append_assoc, scan]
          · next digits =>
              rw [List.isEmpty_iff] at digits
              cases scanned
              refine ⟨?_, numeral _ start (.inr ⟨_, rfl, digits, fraction⟩),
                number_ends head_dropWhile⟩
              simp only [tokenText, String.toList_ofList, List.append_assoc, List.cons_append,
                scan', ← point, scan]
      · next other =>
          cases scanned
          refine ⟨?_, by simpa using numeral [] start (.inl rfl), number_ends head_dropWhile⟩
          simp only [tokenText, String.toList_ofList, List.append_assoc, scan]

theorem matchString_fronts {chars rest : List Char} {token : Token}
    (found : matchString chars = some (token, rest)) : Fronts token chars rest := by
  cases chars with
  | nil => cases found
  | cons c chars =>
      rw [matchString] at found
      split at found
      · next kind =>
          split at found
          · next last tail point =>
              cases found
              have closes : last = c := by
                have stop := @head_dropWhile (fun d => decide (d ≠ c)) chars
                rw [point] at stop
                simpa using stop last rfl
              subst closes
              have scan := @List.takeWhile_append_dropWhile _ (fun d => decide (d ≠ last)) chars
              refine ⟨?_, ⟨last, _, kind, ?_, String.toList_ofList⟩, .inl rfl⟩
              · rw [tokenText, String.toList_ofList, List.append_assoc, List.cons_append,
                  List.singleton_append, ← point, scan]
              · intro member
                have differs := all_takeWhile _ member
                simp at differs
          · cases found
      · cases found

theorem matchIdent_fronts {chars rest : List Char} {token : Token}
    (found : matchIdent chars = some (token, rest)) : Fronts token chars rest := by
  rw [matchIdent] at found
  split at found
  · next tail stripped =>
      simp only at found
      split at found
      · cases found
      · next start =>
          rw [List.isEmpty_iff] at start
          cases found
          have scan := @List.takeWhile_append_dropWhile _ isWordChar tail
          refine ⟨?_, ⟨?_, ?_⟩, .inl ?_⟩
          · simp only [tokenText, String.toList_append, String.toList_ofList, List.append_assoc,
              scan]
            exact stripWord_inv stripped
          · rwa [String.toList_ofList]
          · rw [String.toList_ofList]
            exact all_takeWhile
          · have stop := @head_dropWhile isWordChar tail
            cases rest : tail.dropWhile isWordChar with
            | nil => rfl
            | cons c more =>
                rw [rest] at stop
                exact stop c rfl
  · cases found

theorem tables_spelled : ∀ entry ∈ literalTokens ++ symbolTokens ++ bracketTokens,
    tokenText entry.2 = entry.1 ∧ Spelled entry.2 ∧
      ((∃ op, entry.2 = .op op) ∨ ∀ rest, runsOn entry.2 rest = false) := by
  simp only [literalTokens, symbolTokens, bracketTokens, List.cons_append, List.nil_append,
    List.forall_mem_cons, List.not_mem_nil, false_implies, implies_true, and_true]
  simp [tokenText, opText, Spelled, runsOn]

theorem shorter_op {op longer : CompareOp} {rest : List Char}
    (text : (opText longer).toList = (opText op).toList ++ ['='])
    (alone : ∀ rest, runsOn (.op longer) rest = false)
    (found : matchToken ((opText op).toList ++ rest) = some (.op op, rest)) :
    rest.head? ≠ some '=' := by
  intro head
  obtain ⟨more, rfl⟩ := List.head?_eq_some_iff.mp head
  have other : matchToken ((opText longer).toList ++ more) = some (.op longer, more) :=
    matchToken_op longer (alone more)
  rw [text, List.append_assoc] at other
  have same := Option.some.inj (found.symm.trans other)
  exact List.cons_ne_self '=' more (congrArg Prod.snd same)

theorem op_ends {op : CompareOp} {rest : List Char}
    (found : matchToken ((opText op).toList ++ rest) = some (.op op, rest)) :
    runsOn (.op op) rest = false := by
  cases rest with
  | nil => cases op <;> rfl
  | cons c rest =>
      cases op with
      | gt =>
          have differs := @shorter_op .gt .ge (c :: rest) rfl (fun _ => rfl) found
          simpa [runsOn] using differs
      | lt =>
          have differs := @shorter_op .lt .le (c :: rest) rfl (fun _ => rfl) found
          simpa [runsOn] using differs
      | _ => rfl

theorem matchToken_fronts {chars rest : List Char} {token : Token}
    (found : matchToken chars = some (token, rest)) : Fronts token chars rest := by
  have table : ∀ entry ∈ literalTokens ++ symbolTokens ++ bracketTokens, entry.2 = token →
      chars = entry.1.toList ++ rest → Fronts token chars rest := by
    rintro entry member rfl rfl
    obtain ⟨text, spelled, ⟨op, same⟩ | ends⟩ := tables_spelled entry member
    · rw [same] at text found spelled ⊢
      rw [← text] at found ⊢
      exact ⟨rfl, spelled, .inl (op_ends found)⟩
    · exact ⟨by rw [text], spelled, .inl (ends rest)⟩
  have kinds := found
  simp only [matchToken, Option.or_eq_some_iff] at kinds
  rcases kinds with literal | ⟨-, number | ⟨-, string | ⟨-, symbol | ⟨-, ident | ⟨-, bracket⟩⟩⟩⟩⟩
  · obtain ⟨entry, member, same, split⟩ := matchTable_inv literal
    exact table entry (by simp [member]) same split
  · exact matchNumber_fronts number
  · exact matchString_fronts string
  · obtain ⟨entry, member, same, split⟩ := matchTable_inv symbol
    exact table entry (by simp [member]) same split
  · exact matchIdent_fronts ident
  · obtain ⟨entry, member, same, split⟩ := matchTable_inv bracket
    exact table entry (by simp [member]) same split

theorem matchToken_point (rest : List Char) : matchToken ('.' :: rest) = Option.none := by
  simp [matchToken, matchTable, literalTokens, symbolTokens, bracketTokens, matchNumber,
    matchString, matchIdent, stripWord]

theorem runsOn_nil (token : Token) : runsOn token [] = false := by
  cases token with
  | op op => cases op <;> rfl
  | _ => rfl

theorem runsOn_congr {token : Token} {rest rest' : List Char} (same : rest.head? = rest'.head?) :
    runsOn token rest = runsOn token rest' := by
  cases rest with
  | nil =>
      cases rest' with
      | nil => rfl
      | cons c' rest' => cases same
  | cons c rest =>
      cases rest' with
      | nil => cases same
      | cons c' rest' =>
          obtain rfl := Option.some.inj same
          cases token with
          | op op => cases op <;> rfl
          | _ => rfl

theorem tokenizeFrom_point {fuel pos : Nat} {chars : List Char} {tokens : List Token} :
    tokenizeFrom fuel pos ('.' :: chars) ≠ .ok tokens := by
  cases fuel with
  | zero => nofun
  | succ fuel =>
      rw [tokenizeFrom, if_neg (by decide), matchToken_point]
      nofun

/-- A text and the least text of its tokens: the same first character or a space more. -/
structure Respelled (chars : List Char) (tokens : List Token) : Prop where
  spelled : ∀ token ∈ tokens, Spelled token
  shorter : (spell tokens).length ≤ chars.length
  space : ∀ c ∈ chars.head?, isSpace c = true → (spell tokens).length < chars.length
  visible : ∀ c ∈ chars.head?, isSpace c = false → (spell tokens).head? = some c

theorem Respelled.needed {token : Token} {tokens : List Token} {chars tail : List Char}
    {fuel pos : Nat} (later : Respelled tail tokens) (fronts : Fronts token chars tail)
    (more : tokenizeFrom fuel pos tail = .ok tokens) (runs : runsOn token (spell tokens) = true) :
    (spell tokens).length < tail.length := by
  cases tail with
  | nil =>
      have empty : spell tokens = [] := List.eq_nil_of_length_eq_zero (Nat.le_zero.mp later.shorter)
      rw [empty, runsOn_nil] at runs
      cases runs
  | cons d tail =>
      cases space : isSpace d with
      | true => exact later.space d rfl space
      | false =>
          have head : (spell tokens).head? = (d :: tail).head? := later.visible d rfl space
          rw [runsOn_congr head] at runs
          rcases fronts.ends with stops | point
          · rw [stops] at runs
            cases runs
          · obtain rfl := Option.some.inj point
            exact absurd more tokenizeFrom_point

theorem Respelled.cons {token : Token} {tokens : List Token} {c : Char} {chars tail : List Char}
    {fuel pos : Nat} (later : Respelled tail tokens) (fronts : Fronts token (c :: chars) tail)
    (visible : ¬ isSpace c = true) (more : tokenizeFrom fuel pos tail = .ok tokens) :
    Respelled (c :: chars) (token :: tokens) := by
  obtain ⟨c', text, front, -⟩ := tokenText_cons fronts.spelled
  have split := fronts.split
  rw [front, List.cons_append] at split
  obtain ⟨rfl, rfl⟩ := List.cons.inj split
  refine ⟨List.forall_mem_cons.mpr ⟨fronts.spelled, later.spelled⟩, ?_, ?_, ?_⟩
  · rw [spell, front]
    split_ifs with runs
    · have needed := later.needed fronts more runs
      simp only [List.cons_append, List.length_cons, List.length_append]
      omega
    · have shorter := later.shorter
      simp only [List.cons_append, List.length_cons, List.length_append]
      omega
  · intro c' head space
    obtain rfl := Option.some.inj head
    exact absurd space visible
  · intro c' head _
    obtain rfl := Option.some.inj head
    rw [spell, front]
    rfl

theorem tokenizeFrom_respelled {fuel pos : Nat} {chars : List Char} {tokens : List Token}
    (tokenized : tokenizeFrom fuel pos chars = .ok tokens) : Respelled chars tokens := by
  induction fuel generalizing pos chars tokens with
  | zero =>
      cases chars with
      | nil =>
          cases tokenized
          exact ⟨nofun, le_rfl, nofun, nofun⟩
      | cons c chars => cases tokenized
  | succ fuel ih =>
      cases chars with
      | nil =>
          cases tokenized
          exact ⟨nofun, le_rfl, nofun, nofun⟩
      | cons c chars =>
          rw [tokenizeFrom] at tokenized
          split at tokenized
          · next space =>
              have later := ih tokenized
              have less := Nat.lt_succ_of_le later.shorter
              refine ⟨later.spelled, less.le, fun _ _ _ => less, fun c' head visible => ?_⟩
              obtain rfl := Option.some.inj head
              exact absurd space (by rw [visible]; decide)
          · next visible =>
              split at tokenized
              · cases tokenized
              · next token tail found =>
                  cases more :
                    tokenizeFrom fuel (pos + ((c :: chars).length - tail.length)) tail with
                  | error err =>
                      rw [more] at tokenized
                      cases tokenized
                  | ok tokens' =>
                      rw [more] at tokenized
                      cases tokenized
                      exact (ih more).cons (matchToken_fronts found) visible more

theorem spell_least {text : String} {tokens : List Token} (tokenized : tokenize text = .ok tokens) :
    (String.ofList (spell tokens)).length ≤ text.length := by
  rw [String.length_ofList, ← String.length_toList]
  exact (tokenizeFrom_respelled tokenized).shorter

end SyndicateClaw.Orchestrator.Condition
