import SyndicateClaw.Orchestrator.Condition

/-! The grammar of conditions and a parser that only reads.

`Derives` is the grammar of the docstring of `_ConditionParser`, one rule a constructor. What the
code takes as a list is wider, and `Grammar` says which of the two is meant. The readers are the
functions of the parser with an expression built where the code computes a value. -/

namespace SyndicateClaw.Orchestrator.Condition

inductive Literal where
  | bool (text : String)
  | none (text : String)
  | number (text : String)
  | string (text : String)
  deriving DecidableEq

def Literal.token : Literal → Token
  | .bool text => .bool text
  | .none text => .none text
  | .number text => .number text
  | .string text => .string text

def Literal.value : Literal → Value
  | .bool text => .bool (text = "true" || text = "True")
  | .none _ => .none
  | .number text => numberValue text
  | .string text => .str (unquoted text)

inductive Expr where
  | ref (name : String)
  | literal (l : Literal)
  | not (e : Expr)
  | and (left right : Expr)
  | or (left right : Expr)
  | compare (op : CompareOp) (left right : Expr)
  | isIn (left : Expr) (items : List Expr)

/-- Lists as the docstring has them, or as the code takes them. -/
inductive Grammar where
  | documented | accepted
  deriving DecidableEq

/-- What a rule reads. The rests are the starred parts, with what stands before them. -/
inductive Phrase where
  | or (e : Expr)
  | orRest (left e : Expr)
  | and (e : Expr)
  | andRest (left e : Expr)
  | not (e : Expr)
  | compare (e : Expr)
  | primary (e : Expr)
  | list (items : List Expr)
  | items (items : List Expr)
  | item (e : Expr)

inductive Derives (g : Grammar) : Phrase → List Token → Prop
  | or {left e ts us} : Derives g (.and left) ts → Derives g (.orRest left e) us →
      Derives g (.or e) (ts ++ us)
  | orEnd {e} : Derives g (.orRest e e) []
  | orMore {left right e ts us} : Derives g (.and right) ts →
      Derives g (.orRest (.or left right) e) us →
      Derives g (.orRest left e) (.keyword .or :: (ts ++ us))
  | and {left e ts us} : Derives g (.not left) ts → Derives g (.andRest left e) us →
      Derives g (.and e) (ts ++ us)
  | andEnd {e} : Derives g (.andRest e e) []
  | andMore {left right e ts us} : Derives g (.not right) ts →
      Derives g (.andRest (.and left right) e) us →
      Derives g (.andRest left e) (.keyword .and :: (ts ++ us))
  | not {e ts} : Derives g (.not e) ts → Derives g (.not (.not e)) (.keyword .not :: ts)
  | plain {e ts} : Derives g (.compare e) ts → Derives g (.not e) ts
  | single {e ts} : Derives g (.primary e) ts → Derives g (.compare e) ts
  | compare {op left right ts us} : Derives g (.primary left) ts → Derives g (.primary right) us →
      Derives g (.compare (.compare op left right)) (ts ++ .op op :: us)
  | isIn {left items ts us} : Derives g (.primary left) ts → Derives g (.list items) us →
      Derives g (.compare (.isIn left items)) (ts ++ .keyword .in :: us)
  | ref {name} : Derives g (.primary (.ref name)) [.ident name]
  | literal {l} : Derives g (.primary (.literal l)) [l.token]
  | parens {e ts} : Derives g (.or e) ts →
      Derives g (.primary e) (.lparen :: (ts ++ [.rparen]))
  | list {e items ts us} : Derives g (.item e) ts → Derives g (.items items) us →
      Derives g (.list (e :: items)) (.lbracket :: (ts ++ us ++ [.rbracket]))
  | emptyList : g = .accepted → Derives g (.list []) [.lbracket, .rbracket]
  | itemsEnd : Derives g (.items []) []
  | itemsMore {e items ts us} : Derives g (.item e) ts → Derives g (.items items) us →
      Derives g (.items (e :: items)) (.comma :: (ts ++ us))
  | itemLiteral {l} : Derives g (.item (.literal l)) [l.token]
  | itemPrimary {e ts} : g = .accepted → Derives g (.primary e) ts → Derives g (.item e) ts

theorem Derives.accepts {g : Grammar} {p : Phrase} {ts : List Token} (derived : Derives g p ts) :
    Derives .accepted p ts := by
  induction derived with
  | or _ _ left rest => exact .or left rest
  | orEnd => exact .orEnd
  | orMore _ _ right rest => exact .orMore right rest
  | and _ _ left rest => exact .and left rest
  | andEnd => exact .andEnd
  | andMore _ _ right rest => exact .andMore right rest
  | not _ inner => exact .not inner
  | plain _ inner => exact .plain inner
  | single _ inner => exact .single inner
  | compare _ _ left right => exact .compare left right
  | isIn _ _ left items => exact .isIn left items
  | ref => exact .ref
  | literal => exact .literal
  | parens _ inner => exact .parens inner
  | list _ _ item items => exact .list item items
  | emptyList => exact .emptyList rfl
  | itemsEnd => exact .itemsEnd
  | itemsMore _ _ item items => exact .itemsMore item items
  | itemLiteral => exact .itemLiteral
  | itemPrimary _ _ inner => exact .itemPrimary rfl inner

/-! ### Readers -/

mutual

def readOr : Nat → List Token → Except ConditionError (Expr × List Token)
  | 0, _ => .error .recursion
  | fuel + 1, tokens => do
      let (left, rest) ← readAnd fuel tokens
      readOrRest fuel left rest

def readOrRest : Nat → Expr → List Token → Except ConditionError (Expr × List Token)
  | fuel + 1, left, .keyword .or :: tokens => do
      let (right, rest) ← readAnd fuel tokens
      readOrRest fuel (.or left right) rest
  | 0, _, .keyword .or :: _ => .error .recursion
  | _, left, tokens => .ok (left, tokens)

def readAnd : Nat → List Token → Except ConditionError (Expr × List Token)
  | 0, _ => .error .recursion
  | fuel + 1, tokens => do
      let (left, rest) ← readNot fuel tokens
      readAndRest fuel left rest

def readAndRest : Nat → Expr → List Token → Except ConditionError (Expr × List Token)
  | fuel + 1, left, .keyword .and :: tokens => do
      let (right, rest) ← readNot fuel tokens
      readAndRest fuel (.and left right) rest
  | 0, _, .keyword .and :: _ => .error .recursion
  | _, left, tokens => .ok (left, tokens)

def readNot : Nat → List Token → Except ConditionError (Expr × List Token)
  | 0, _ => .error .recursion
  | fuel + 1, .keyword .not :: tokens => do
      let (e, rest) ← readNot fuel tokens
      return (.not e, rest)
  | fuel + 1, tokens => readCompare fuel tokens

def readCompare : Nat → List Token → Except ConditionError (Expr × List Token)
  | 0, _ => .error .recursion
  | fuel + 1, tokens => do
      let (left, rest) ← readPrimary fuel tokens
      match rest with
      | .op op :: rest =>
          let (right, rest) ← readPrimary fuel rest
          return (.compare op left right, rest)
      | .keyword .in :: rest =>
          let (items, rest) ← readList fuel rest
          return (.isIn left items, rest)
      | _ => return (left, rest)

def readPrimary : Nat → List Token → Except ConditionError (Expr × List Token)
  | _, .ident name :: rest => .ok (.ref name, rest)
  | _, .number text :: rest => .ok (.literal (.number text), rest)
  | _, .string text :: rest => .ok (.literal (.string text), rest)
  | _, .bool text :: rest => .ok (.literal (.bool text), rest)
  | _, .none text :: rest => .ok (.literal (.none text), rest)
  | fuel + 1, .lparen :: rest => do
      let (e, rest) ← readOr fuel rest
      let rest ← expect .rparen "rparen" rest
      return (e, rest)
  | 0, .lparen :: _ => .error .recursion
  | _, token :: _ => .error (.invalid ("Unexpected token: " ++ tokenText token))
  | _, [] => .error (.invalid "Unexpected end of expression")

def readList : Nat → List Token → Except ConditionError (List Expr × List Token)
  | 0, _ => .error .recursion
  | fuel + 1, tokens => do
      let rest ← expect .lbracket "lbracket" tokens
      match rest with
      | [] => .error (.invalid "Expected rbracket, got EOF")
      | .rbracket :: rest => return ([], rest)
      | _ :: _ =>
          let (e, rest) ← readPrimary fuel rest
          let (items, rest) ← readItems fuel rest
          let rest ← expect .rbracket "rbracket" rest
          return (e :: items, rest)

def readItems : Nat → List Token → Except ConditionError (List Expr × List Token)
  | fuel + 1, .comma :: tokens => do
      let (e, rest) ← readPrimary fuel tokens
      let (items, rest) ← readItems fuel rest
      return (e :: items, rest)
  | 0, .comma :: _ => .error .recursion
  | _, tokens => .ok ([], tokens)

end

def read (tokens : List Token) : Except ConditionError Expr := do
  let (e, rest) ← readOr (6 * (tokens.length + 1)) tokens
  match rest with
  | [] => return e
  | token :: _ => .error (.invalid ("Unexpected token: " ++ tokenText token))

/-! ### What is read is derived -/

/-- A result is a phrase at the front of the tokens, and an error with enough fuel is the
parser's own. -/
def Reads {α : Type} (enough : Prop) (phrase : α → Phrase) (tokens : List Token) :
    Except ConditionError (α × List Token) → Prop
  | .ok (a, rest) => ∃ ts, tokens = ts ++ rest ∧ Derives .accepted (phrase a) ts
  | .error err => enough → ∃ message, err = .invalid message

section

variable {α β : Type} {enough first : Prop} {phrase : α → Phrase} {before : β → Phrase}
  {tokens part : List Token}

theorem Reads.bind {x : Except ConditionError (β × List Token)}
    {k : β × List Token → Except ConditionError (α × List Token)}
    (one : Reads first before part x) (fuel : enough → first)
    (two : ∀ b ts rest, part = ts ++ rest → Derives .accepted (before b) ts →
      Reads enough phrase tokens (k (b, rest))) :
    Reads enough phrase tokens (x >>= k) := by
  cases x with
  | error err => exact fun enough => one (fuel enough)
  | ok read =>
      obtain ⟨ts, split, derived⟩ := one
      exact two read.1 ts read.2 split derived

theorem Reads.after {phrase' : α → Phrase} {rest front : List Token}
    {y : Except ConditionError (α × List Token)} (read : Reads first phrase' rest y)
    (split : tokens = front ++ rest) (fuel : enough → first)
    (derive : ∀ a us, Derives .accepted (phrase' a) us →
      Derives .accepted (phrase a) (front ++ us)) :
    Reads enough phrase tokens y := by
  cases y with
  | error err => exact fun enough => read (fuel enough)
  | ok read' =>
      obtain ⟨us, rfl, derived⟩ := read
      exact ⟨front ++ us, by rw [split, List.append_assoc], derive _ _ derived⟩

end

/-- The readers with some fuel; a token is worth five units. -/
structure Sound (fuel : Nat) : Prop where
  or : ∀ tokens, Reads (5 * tokens.length + 4 ≤ fuel) .or tokens (readOr fuel tokens)
  orRest : ∀ left tokens,
    Reads (5 * tokens.length ≤ fuel) (.orRest left) tokens (readOrRest fuel left tokens)
  and : ∀ tokens, Reads (5 * tokens.length + 3 ≤ fuel) .and tokens (readAnd fuel tokens)
  andRest : ∀ left tokens,
    Reads (5 * tokens.length ≤ fuel) (.andRest left) tokens (readAndRest fuel left tokens)
  not : ∀ tokens, Reads (5 * tokens.length + 2 ≤ fuel) .not tokens (readNot fuel tokens)
  compare : ∀ tokens,
    Reads (5 * tokens.length + 1 ≤ fuel) .compare tokens (readCompare fuel tokens)
  primary : ∀ tokens, Reads (5 * tokens.length ≤ fuel) .primary tokens (readPrimary fuel tokens)
  list : ∀ tokens, Reads (5 * tokens.length + 1 ≤ fuel) .list tokens (readList fuel tokens)
  items : ∀ tokens, Reads (5 * tokens.length ≤ fuel) .items tokens (readItems fuel tokens)

theorem expect_ok {token : Token} {kind : String} {tokens rest : List Token}
    (found : expect token kind tokens = .ok rest) : tokens = token :: rest := by
  cases tokens with
  | nil => cases found
  | cons head tokens =>
      rw [expect] at found
      split at found
      · next same => rw [same, Except.ok.inj found]
      · cases found

theorem expect_error {token : Token} {kind : String} {tokens : List Token} {err : ConditionError}
    (missed : expect token kind tokens = .error err) : ∃ message, err = .invalid message := by
  cases tokens with
  | nil => exact ⟨_, (Except.error.inj missed).symm⟩
  | cons head tokens =>
      rw [expect] at missed
      split at missed
      · cases missed
      · exact ⟨_, (Except.error.inj missed).symm⟩

section

variable {fuel : Nat} (ih : ∀ less, fuel = less + 1 → Sound less)
include ih

theorem sound_or (tokens : List Token) :
    Reads (5 * tokens.length + 4 ≤ fuel) .or tokens (readOr fuel tokens) := by
  rw [readOr.eq_def]
  split
  · exact fun enough => absurd enough (by omega)
  · next less =>
      apply ((ih less rfl).and tokens).bind (by omega)
      intro left ts rest split derived
      apply ((ih less rfl).orRest left rest).after split
      · simp only [split, List.length_append]
        omega
      · intro e us more
        exact .or derived more

theorem sound_orRest (left : Expr) (tokens : List Token) :
    Reads (5 * tokens.length ≤ fuel) (.orRest left) tokens (readOrRest fuel left tokens) := by
  rw [readOrRest.eq_def]
  split
  · next less tokens =>
      apply ((ih less rfl).and tokens).bind (by simp only [List.length_cons]; omega)
      intro right ts rest split derived
      subst split
      have front : Token.keyword .or :: (ts ++ rest) = (.keyword .or :: ts) ++ rest := rfl
      apply ((ih less rfl).orRest _ rest).after front
      · simp only [List.length_cons, List.length_append]
        omega
      · intro e us more
        exact .orMore derived more
  · exact fun enough => absurd enough (by simp only [List.length_cons]; omega)
  · exact ⟨[], rfl, .orEnd⟩

theorem sound_and (tokens : List Token) :
    Reads (5 * tokens.length + 3 ≤ fuel) .and tokens (readAnd fuel tokens) := by
  rw [readAnd.eq_def]
  split
  · exact fun enough => absurd enough (by omega)
  · next less =>
      apply ((ih less rfl).not tokens).bind (by omega)
      intro left ts rest split derived
      apply ((ih less rfl).andRest left rest).after split
      · simp only [split, List.length_append]
        omega
      · intro e us more
        exact .and derived more

theorem sound_andRest (left : Expr) (tokens : List Token) :
    Reads (5 * tokens.length ≤ fuel) (.andRest left) tokens (readAndRest fuel left tokens) := by
  rw [readAndRest.eq_def]
  split
  · next less tokens =>
      apply ((ih less rfl).not tokens).bind (by simp only [List.length_cons]; omega)
      intro right ts rest split derived
      subst split
      have front : Token.keyword .and :: (ts ++ rest) = (.keyword .and :: ts) ++ rest := rfl
      apply ((ih less rfl).andRest _ rest).after front
      · simp only [List.length_cons, List.length_append]
        omega
      · intro e us more
        exact .andMore derived more
  · exact fun enough => absurd enough (by simp only [List.length_cons]; omega)
  · exact ⟨[], rfl, .andEnd⟩

theorem sound_not (tokens : List Token) :
    Reads (5 * tokens.length + 2 ≤ fuel) .not tokens (readNot fuel tokens) := by
  rw [readNot.eq_def]
  split
  · exact fun enough => absurd enough (by omega)
  · next less tokens =>
      apply ((ih less rfl).not tokens).bind (by simp only [List.length_cons]; omega)
      intro e ts rest split derived
      exact ⟨.keyword .not :: ts, congrArg _ split, .not derived⟩
  · next less _ =>
      apply ((ih less rfl).compare tokens).after (List.nil_append tokens).symm (by omega)
      intro e us derived
      exact .plain derived

theorem sound_compare (tokens : List Token) :
    Reads (5 * tokens.length + 1 ≤ fuel) .compare tokens (readCompare fuel tokens) := by
  rw [readCompare.eq_def]
  split
  · exact fun enough => absurd enough (by omega)
  · next less =>
      apply ((ih less rfl).primary tokens).bind (by omega)
      intro left ts rest split derived
      subst split
      dsimp only
      split
      · next op rest =>
          apply ((ih less rfl).primary rest).bind
          · simp only [List.length_cons, List.length_append]
            omega
          · intro right us rest split more
            refine ⟨ts ++ .op op :: us, ?_, .compare derived more⟩
            rw [split, List.append_assoc, List.cons_append]
      · next rest =>
          apply ((ih less rfl).list rest).bind
          · simp only [List.length_cons, List.length_append]
            omega
          · intro items us rest split more
            refine ⟨ts ++ .keyword .in :: us, ?_, .isIn derived more⟩
            rw [split, List.append_assoc, List.cons_append]
      · exact ⟨ts, rfl, .single derived⟩

theorem sound_primary (tokens : List Token) :
    Reads (5 * tokens.length ≤ fuel) .primary tokens (readPrimary fuel tokens) := by
  rw [readPrimary.eq_def]
  split
  · exact ⟨_, rfl, .ref⟩
  · exact ⟨_, rfl, .literal⟩
  · exact ⟨_, rfl, .literal⟩
  · exact ⟨_, rfl, .literal⟩
  · exact ⟨_, rfl, .literal⟩
  · next less rest =>
      apply ((ih less rfl).or rest).bind (by simp only [List.length_cons]; omega)
      intro e ts rest split derived
      subst split
      dsimp only
      cases closed : expect .rparen "rparen" rest with
      | error err => exact fun _ => expect_error closed
      | ok rest' =>
          refine ⟨.lparen :: (ts ++ [.rparen]), ?_, .parens derived⟩
          rw [expect_ok closed, List.cons_append, List.append_assoc]
          rfl
  · exact fun enough => absurd enough (by simp only [List.length_cons]; omega)
  · exact fun _ => ⟨_, rfl⟩
  · exact fun _ => ⟨_, rfl⟩

theorem sound_list (tokens : List Token) :
    Reads (5 * tokens.length + 1 ≤ fuel) .list tokens (readList fuel tokens) := by
  rw [readList.eq_def]
  split
  · exact fun enough => absurd enough (by omega)
  · next less =>
      cases opened : expect .lbracket "lbracket" tokens with
      | error err => exact fun _ => expect_error opened
      | ok rest =>
          rw [expect_ok opened]
          dsimp only [bind, Except.bind]
          split
          · exact fun _ => ⟨_, rfl⟩
          · exact ⟨[.lbracket, .rbracket], rfl, .emptyList rfl⟩
          · next head rest _ =>
              apply ((ih less rfl).primary (head :: rest)).bind
              · simp only [List.length_cons]
                omega
              · intro e ts rest split derived
                rw [split]
                apply ((ih less rfl).items rest).bind
                · simp only [List.length_cons, List.length_append]
                  omega
                · intro items us rest split more
                  subst split
                  dsimp only
                  cases closed : expect .rbracket "rbracket" rest with
                  | error err => exact fun _ => expect_error closed
                  | ok rest' =>
                      refine ⟨.lbracket :: (ts ++ us ++ [.rbracket]), ?_,
                        .list (.itemPrimary rfl derived) more⟩
                      rw [expect_ok closed]
                      simp only [List.cons_append, List.append_assoc, List.nil_append]

theorem sound_items (tokens : List Token) :
    Reads (5 * tokens.length ≤ fuel) .items tokens (readItems fuel tokens) := by
  rw [readItems.eq_def]
  split
  · next less tokens =>
      apply ((ih less rfl).primary tokens).bind (by simp only [List.length_cons]; omega)
      intro e ts rest split derived
      subst split
      apply ((ih less rfl).items rest).bind
      · simp only [List.length_cons, List.length_append]
        omega
      · intro items us rest split more
        refine ⟨.comma :: (ts ++ us), ?_, .itemsMore (.itemPrimary rfl derived) more⟩
        rw [split, List.cons_append, List.append_assoc]
  · exact fun enough => absurd enough (by simp only [List.length_cons]; omega)
  · exact ⟨[], rfl, .itemsEnd⟩

theorem sound_step : Sound fuel :=
  { or := sound_or ih
    orRest := sound_orRest ih
    and := sound_and ih
    andRest := sound_andRest ih
    not := sound_not ih
    compare := sound_compare ih
    primary := sound_primary ih
    list := sound_list ih
    items := sound_items ih }

end

theorem sound (fuel : Nat) : Sound fuel := by
  induction fuel with
  | zero => exact sound_step fun less equal => nomatch equal
  | succ fuel ih =>
      apply sound_step
      intro less equal
      cases equal
      exact ih

/-! ### What is derived is read -/

def startsPrimary : Token → Bool
  | .ident _ | .bool _ | .none _ | .number _ | .string _ | .lparen => true
  | _ => false

theorem startsPrimary_literal (l : Literal) : startsPrimary l.token = true := by
  cases l <;> rfl

section

variable {g : Grammar} {e : Expr} {ts : List Token}

theorem primary_starts (derived : Derives g (.primary e) ts) :
    ∃ t rest, ts = t :: rest ∧ startsPrimary t := by
  cases derived with
  | ref => exact ⟨_, _, rfl, rfl⟩
  | literal => exact ⟨_, _, rfl, startsPrimary_literal _⟩
  | parens => exact ⟨_, _, rfl, rfl⟩

theorem compare_starts (derived : Derives g (.compare e) ts) :
    ∃ t rest, ts = t :: rest ∧ startsPrimary t := by
  cases derived with
  | single inner => exact primary_starts inner
  | compare left right =>
      obtain ⟨t, rest, rfl, starts⟩ := primary_starts left
      exact ⟨t, _, rfl, starts⟩
  | isIn left items =>
      obtain ⟨t, rest, rfl, starts⟩ := primary_starts left
      exact ⟨t, _, rfl, starts⟩

theorem item_starts (derived : Derives g (.item e) ts) :
    ∃ t rest, ts = t :: rest ∧ startsPrimary t := by
  cases derived with
  | itemLiteral => exact ⟨_, _, rfl, startsPrimary_literal _⟩
  | itemPrimary _ inner => exact primary_starts inner

end

def looseness : Token → Nat
  | .op _ | .keyword .in => 1
  | .keyword .and => 2
  | .keyword .or => 3
  | _ => 4

def Phrase.loosest : Phrase → Nat
  | .or _ | .orRest _ _ => 3
  | .and _ | .andRest _ _ => 2
  | .not _ | .compare _ => 1
  | _ => 0

/-- What follows does not make the phrase longer. -/
structure Ends (p : Phrase) (rest : List Token) : Prop where
  looser : ∀ t ∈ rest.head?, p.loosest < looseness t
  separate : ∀ items, p = .items items → rest.head? ≠ some .comma

def IsRead (fuel : Nat) (tokens rest : List Token) : Phrase → Prop
  | .or e => readOr fuel tokens = .ok (e, rest)
  | .orRest left e => readOrRest fuel left tokens = .ok (e, rest)
  | .and e => readAnd fuel tokens = .ok (e, rest)
  | .andRest left e => readAndRest fuel left tokens = .ok (e, rest)
  | .not e => readNot fuel tokens = .ok (e, rest)
  | .compare e => readCompare fuel tokens = .ok (e, rest)
  | .primary e | .item e => readPrimary fuel tokens = .ok (e, rest)
  | .list items => readList fuel tokens = .ok (items, rest)
  | .items items => readItems fuel tokens = .ok (items, rest)

/-- The calls between the reader of a phrase and the reader of a primary. -/
def Phrase.depth : Phrase → Nat
  | .or _ => 4
  | .and _ => 3
  | .not _ => 2
  | .compare _ | .list _ => 1
  | _ => 0

@[simp] theorem Phrase.depth_or (e : Expr) : (Phrase.or e).depth = 4 := rfl

@[simp] theorem Phrase.depth_orRest (left e : Expr) : (Phrase.orRest left e).depth = 0 := rfl

@[simp] theorem Phrase.depth_and (e : Expr) : (Phrase.and e).depth = 3 := rfl

@[simp] theorem Phrase.depth_andRest (left e : Expr) : (Phrase.andRest left e).depth = 0 := rfl

@[simp] theorem Phrase.depth_not (e : Expr) : (Phrase.not e).depth = 2 := rfl

@[simp] theorem Phrase.depth_compare (e : Expr) : (Phrase.compare e).depth = 1 := rfl

@[simp] theorem Phrase.depth_primary (e : Expr) : (Phrase.primary e).depth = 0 := rfl

@[simp] theorem Phrase.depth_item (e : Expr) : (Phrase.item e).depth = 0 := rfl

@[simp] theorem Phrase.depth_list (items : List Expr) : (Phrase.list items).depth = 1 := rfl

@[simp] theorem Phrase.depth_items (items : List Expr) : (Phrase.items items).depth = 0 := rfl

theorem looseness_pos (t : Token) : 0 < looseness t := by
  unfold looseness
  split <;> decide

theorem ends_closed {p : Phrase} {rest : List Token} (closed : p.loosest = 0)
    (single : ∀ items, p ≠ .items items) : Ends p rest where
  looser t _ := by
    rw [closed]
    exact looseness_pos t
  separate items same := absurd same (single items)

theorem Ends.mono {p q : Phrase} {rest : List Token} (ends : Ends p rest)
    (tighter : q.loosest ≤ p.loosest) (single : ∀ items, q ≠ .items items) : Ends q rest where
  looser t head := Nat.lt_of_le_of_lt tighter (ends.looser t head)
  separate items same := absurd same (single items)

theorem ends_cons {p : Phrase} {t : Token} {rest : List Token} (looser : p.loosest < looseness t)
    (single : ∀ items, p ≠ .items items) : Ends p (t :: rest) where
  looser t' head := by
    obtain rfl := Option.some.inj head
    exact looser
  separate items same := absurd same (single items)

section

variable {g : Grammar} {left l e : Expr} {us rest : List Token}

theorem orRest_ends (derived : Derives g (.orRest left e) us) (ends : Ends (.or e) rest) :
    Ends (.and l) (us ++ rest) := by
  cases derived with
  | orEnd => exact ends.mono (show 2 ≤ 3 by decide) nofun
  | orMore => exact ends_cons (show 2 < 3 by decide) nofun

theorem andRest_ends (derived : Derives g (.andRest left e) us) (ends : Ends (.and e) rest) :
    Ends (.not l) (us ++ rest) := by
  cases derived with
  | andEnd => exact ends.mono (show 1 ≤ 2 by decide) nofun
  | andMore => exact ends_cons (show 1 < 2 by decide) nofun

end

theorem readPrimary_literal (fuel : Nat) (l : Literal) (rest : List Token) :
    readPrimary fuel (l.token :: rest) = .ok (.literal l, rest) := by
  cases l <;> cases fuel <;> rfl

theorem readOrRest_stop {fuel : Nat} {left : Expr} {rest : List Token}
    (stops : ∀ t ∈ rest.head?, 3 < looseness t) :
    readOrRest fuel left rest = .ok (left, rest) := by
  rw [readOrRest.eq_def]
  split
  · exact absurd (stops _ rfl) (by decide)
  · exact absurd (stops _ rfl) (by decide)
  · rfl

theorem readAndRest_stop {fuel : Nat} {left : Expr} {rest : List Token}
    (stops : ∀ t ∈ rest.head?, 2 < looseness t) :
    readAndRest fuel left rest = .ok (left, rest) := by
  rw [readAndRest.eq_def]
  split
  · exact absurd (stops _ rfl) (by decide)
  · exact absurd (stops _ rfl) (by decide)
  · rfl

theorem readItems_stop {fuel : Nat} {rest : List Token} (stops : rest.head? ≠ some .comma) :
    readItems fuel rest = .ok ([], rest) := by
  rw [readItems.eq_def]
  split
  · exact absurd rfl stops
  · exact absurd rfl stops
  · rfl

/-- The readers find a phrase at the front of what does not make it longer, and stop where it
stops. -/
def IsFound (p : Phrase) (ts : List Token) : Prop :=
  ∀ fuel rest, 5 * ts.length + p.depth ≤ fuel → Ends p rest → IsRead fuel (ts ++ rest) rest p

theorem IsFound.of_succ {p : Phrase} {ts : List Token} (some_ : 0 < 5 * ts.length + p.depth)
    (calls : ∀ less rest, 5 * ts.length + p.depth ≤ less + 1 → Ends p rest →
      IsRead (less + 1) (ts ++ rest) rest p) : IsFound p ts := by
  intro fuel rest enough ends
  cases fuel with
  | zero => exact absurd (some_.trans_le enough) (Nat.lt_irrefl 0)
  | succ less => exact calls less rest enough ends

section

variable {op : CompareOp} {left right e : Expr} {items : List Expr} {ts us : List Token}

theorem found_or (one : IsFound (.and left) ts) (more : Derives .accepted (.orRest left e) us)
    (others : IsFound (.orRest left e) us) : IsFound (.or e) (ts ++ us) := by
  refine IsFound.of_succ (Nat.succ_pos _) ?_
  intro less rest enough ends
  simp only [IsFound, List.length_append, Phrase.depth_or, Phrase.depth_and, Phrase.depth_orRest]
    at enough one others
  have first : readAnd less (ts ++ (us ++ rest)) = .ok (left, us ++ rest) :=
    one less (us ++ rest) (by omega) (orRest_ends more ends)
  show readOr (less + 1) (ts ++ us ++ rest) = .ok (e, rest)
  rw [readOr, List.append_assoc, first]
  exact others less rest (by omega) (ends.mono le_rfl nofun)

theorem found_orMore (one : IsFound (.and right) ts)
    (more : Derives .accepted (.orRest (.or left right) e) us)
    (others : IsFound (.orRest (.or left right) e) us) :
    IsFound (.orRest left e) (.keyword .or :: (ts ++ us)) := by
  refine IsFound.of_succ (Nat.succ_pos _) ?_
  intro less rest enough ends
  simp only [IsFound, List.length_cons, List.length_append, Phrase.depth_orRest, Phrase.depth_and]
    at enough one others
  have first : readAnd less (ts ++ (us ++ rest)) = .ok (right, us ++ rest) :=
    one less (us ++ rest) (by omega) (orRest_ends more (ends.mono le_rfl nofun))
  show readOrRest (less + 1) left (.keyword .or :: (ts ++ us ++ rest)) = .ok (e, rest)
  rw [readOrRest, List.append_assoc, first]
  exact others less rest (by omega) (ends.mono le_rfl nofun)

theorem found_and (one : IsFound (.not left) ts) (more : Derives .accepted (.andRest left e) us)
    (others : IsFound (.andRest left e) us) : IsFound (.and e) (ts ++ us) := by
  refine IsFound.of_succ (Nat.succ_pos _) ?_
  intro less rest enough ends
  simp only [IsFound, List.length_append, Phrase.depth_and, Phrase.depth_not, Phrase.depth_andRest]
    at enough one others
  have first : readNot less (ts ++ (us ++ rest)) = .ok (left, us ++ rest) :=
    one less (us ++ rest) (by omega) (andRest_ends more ends)
  show readAnd (less + 1) (ts ++ us ++ rest) = .ok (e, rest)
  rw [readAnd, List.append_assoc, first]
  exact others less rest (by omega) (ends.mono le_rfl nofun)

theorem found_andMore (one : IsFound (.not right) ts)
    (more : Derives .accepted (.andRest (.and left right) e) us)
    (others : IsFound (.andRest (.and left right) e) us) :
    IsFound (.andRest left e) (.keyword .and :: (ts ++ us)) := by
  refine IsFound.of_succ (Nat.succ_pos _) ?_
  intro less rest enough ends
  simp only [IsFound, List.length_cons, List.length_append, Phrase.depth_andRest, Phrase.depth_not]
    at enough one others
  have first : readNot less (ts ++ (us ++ rest)) = .ok (right, us ++ rest) :=
    one less (us ++ rest) (by omega) (andRest_ends more (ends.mono le_rfl nofun))
  show readAndRest (less + 1) left (.keyword .and :: (ts ++ us ++ rest)) = .ok (e, rest)
  rw [readAndRest, List.append_assoc, first]
  exact others less rest (by omega) (ends.mono le_rfl nofun)

theorem found_not (one : IsFound (.not e) ts) :
    IsFound (.not (.not e)) (.keyword .not :: ts) := by
  refine IsFound.of_succ (Nat.succ_pos _) ?_
  intro less rest enough ends
  simp only [IsFound, List.length_cons, Phrase.depth_not] at enough one
  have inner : readNot less (ts ++ rest) = .ok (e, rest) :=
    one less rest (by omega) (ends.mono le_rfl nofun)
  show readNot (less + 1) (.keyword .not :: (ts ++ rest)) = .ok (.not e, rest)
  rw [readNot, inner]
  rfl

theorem found_plain (compared : Derives .accepted (.compare e) ts)
    (one : IsFound (.compare e) ts) : IsFound (.not e) ts := by
  refine IsFound.of_succ (Nat.succ_pos _) ?_
  intro less rest enough ends
  simp only [IsFound, Phrase.depth_not, Phrase.depth_compare] at enough one
  have inner : readCompare less (ts ++ rest) = .ok (e, rest) :=
    one less rest (by omega) (ends.mono le_rfl nofun)
  obtain ⟨t, ts, rfl, starts⟩ := compare_starts compared
  show readNot (less + 1) (t :: (ts ++ rest)) = .ok (e, rest)
  rw [readNot]
  · exact inner
  · rintro tokens ⟨⟩
    cases starts

theorem found_single (one : IsFound (.primary e) ts) : IsFound (.compare e) ts := by
  refine IsFound.of_succ (Nat.succ_pos _) ?_
  intro less rest enough ends
  simp only [IsFound, Phrase.depth_compare, Phrase.depth_primary] at enough one
  have inner : readPrimary less (ts ++ rest) = .ok (e, rest) :=
    one less rest (by omega) (ends_closed rfl nofun)
  show readCompare (less + 1) (ts ++ rest) = .ok (e, rest)
  rw [readCompare, inner]
  dsimp only [bind, Except.bind]
  split
  · exact absurd (ends.looser _ rfl) (Nat.lt_irrefl 1)
  · exact absurd (ends.looser _ rfl) (Nat.lt_irrefl 1)
  · rfl

theorem found_compare (one : IsFound (.primary left) ts) (two : IsFound (.primary right) us) :
    IsFound (.compare (.compare op left right)) (ts ++ .op op :: us) := by
  refine IsFound.of_succ (Nat.succ_pos _) ?_
  intro less rest enough ends
  simp only [IsFound, List.length_cons, List.length_append, Phrase.depth_compare,
    Phrase.depth_primary] at enough one two
  have first : readPrimary less (ts ++ (.op op :: us ++ rest)) =
      .ok (left, .op op :: us ++ rest) :=
    one less _ (by omega) (ends_closed rfl nofun)
  have second : readPrimary less (us ++ rest) = .ok (right, rest) :=
    two less rest (by omega) (ends_closed rfl nofun)
  show readCompare (less + 1) (ts ++ .op op :: us ++ rest) = .ok (.compare op left right, rest)
  rw [readCompare, List.append_assoc, first]
  dsimp only [bind, Except.bind, List.cons_append]
  rw [second]
  rfl

theorem found_isIn (one : IsFound (.primary left) ts) (two : IsFound (.list items) us) :
    IsFound (.compare (.isIn left items)) (ts ++ .keyword .in :: us) := by
  refine IsFound.of_succ (Nat.succ_pos _) ?_
  intro less rest enough ends
  simp only [IsFound, List.length_cons, List.length_append, Phrase.depth_compare,
    Phrase.depth_primary, Phrase.depth_list] at enough one two
  have first : readPrimary less (ts ++ (.keyword .in :: us ++ rest)) =
      .ok (left, .keyword .in :: us ++ rest) :=
    one less _ (by omega) (ends_closed rfl nofun)
  have second : readList less (us ++ rest) = .ok (items, rest) :=
    two less rest (by omega) (ends_closed rfl nofun)
  show readCompare (less + 1) (ts ++ .keyword .in :: us ++ rest) = .ok (.isIn left items, rest)
  rw [readCompare, List.append_assoc, first]
  dsimp only [bind, Except.bind, List.cons_append]
  rw [second]
  rfl

theorem found_parens (one : IsFound (.or e) ts) :
    IsFound (.primary e) (.lparen :: (ts ++ [.rparen])) := by
  refine IsFound.of_succ (Nat.succ_pos _) ?_
  intro less rest enough _
  simp only [IsFound, List.length_cons, List.length_append, List.length_nil, Phrase.depth_primary,
    Phrase.depth_or] at enough one
  have inner : readOr less (ts ++ .rparen :: rest) = .ok (e, .rparen :: rest) :=
    one less _ (by omega) (ends_cons (show 3 < 4 by decide) nofun)
  show readPrimary (less + 1) (.lparen :: (ts ++ [.rparen] ++ rest)) = .ok (e, rest)
  rw [List.append_assoc, readPrimary, List.singleton_append, inner]
  rfl

theorem found_list (item : Derives .accepted (.item e) ts) (one : IsFound (.item e) ts)
    (others : IsFound (.items items) us) :
    IsFound (.list (e :: items)) (.lbracket :: (ts ++ us ++ [.rbracket])) := by
  refine IsFound.of_succ (Nat.succ_pos _) ?_
  intro less rest enough _
  simp only [IsFound, List.length_cons, List.length_append, List.length_nil, Phrase.depth_list,
    Phrase.depth_item, Phrase.depth_items] at enough one others
  have first : readPrimary less (ts ++ (us ++ .rbracket :: rest)) =
      .ok (e, us ++ .rbracket :: rest) :=
    one less _ (by omega) (ends_closed rfl nofun)
  have second : readItems less (us ++ .rbracket :: rest) = .ok (items, .rbracket :: rest) :=
    others less _ (by omega) ⟨fun _ _ => looseness_pos _, nofun⟩
  obtain ⟨t, ts, rfl, starts⟩ := item_starts item
  simp only [List.cons_append] at first
  have layout : Token.lbracket :: (t :: ts ++ us ++ [.rbracket]) ++ rest =
      .lbracket :: t :: (ts ++ (us ++ .rbracket :: rest)) := by
    simp only [List.cons_append, List.append_assoc, List.nil_append]
  show readList (less + 1) (.lbracket :: (t :: ts ++ us ++ [.rbracket]) ++ rest) =
    .ok (e :: items, rest)
  rw [layout, readList]
  dsimp only [expect, bind, Except.bind]
  rw [if_pos rfl]
  dsimp only
  split
  · next found => cases found
  · next found =>
      cases found
      cases starts
  · rw [first]
    dsimp only
    rw [second]
    rfl

theorem found_itemsMore (one : IsFound (.item e) ts) (others : IsFound (.items items) us) :
    IsFound (.items (e :: items)) (.comma :: (ts ++ us)) := by
  refine IsFound.of_succ (Nat.succ_pos _) ?_
  intro less rest enough ends
  simp only [IsFound, List.length_cons, List.length_append, Phrase.depth_items, Phrase.depth_item]
    at enough one others
  have first : readPrimary less (ts ++ (us ++ rest)) = .ok (e, us ++ rest) :=
    one less _ (by omega) (ends_closed rfl nofun)
  have second : readItems less (us ++ rest) = .ok (items, rest) :=
    others less rest (by omega) ⟨ends.looser, fun _ _ => ends.separate _ rfl⟩
  show readItems (less + 1) (.comma :: (ts ++ us ++ rest)) = .ok (e :: items, rest)
  rw [readItems, List.append_assoc, first]
  dsimp only [bind, Except.bind]
  rw [second]
  rfl

end

theorem complete {p : Phrase} {ts : List Token} (derived : Derives .accepted p ts) :
    IsFound p ts := by
  induction derived with
  | or _ more one others => exact found_or one more others
  | orEnd => exact fun _ _ _ ends => readOrRest_stop ends.looser
  | orMore _ more one others => exact found_orMore one more others
  | and _ more one others => exact found_and one more others
  | andEnd => exact fun _ _ _ ends => readAndRest_stop ends.looser
  | andMore _ more one others => exact found_andMore one more others
  | not _ one => exact found_not one
  | plain compared one => exact found_plain compared one
  | single _ one => exact found_single one
  | compare _ _ one two => exact found_compare one two
  | isIn _ _ one two => exact found_isIn one two
  | ref =>
      intro fuel rest _ _
      cases fuel <;> rfl
  | literal => exact fun fuel rest _ _ => readPrimary_literal fuel _ rest
  | parens _ one => exact found_parens one
  | list item _ one others => exact found_list item one others
  | emptyList _ => exact IsFound.of_succ (Nat.succ_pos _) fun less rest _ _ => rfl
  | itemsEnd => exact fun _ _ _ ends => readItems_stop (ends.separate [] rfl)
  | itemsMore _ _ one others => exact found_itemsMore one others
  | itemLiteral => exact fun fuel rest _ _ => readPrimary_literal fuel _ rest
  | itemPrimary _ _ one =>
      exact fun fuel rest enough _ => one fuel rest enough (ends_closed rfl nofun)

theorem read_iff {tokens : List Token} {e : Expr} :
    read tokens = .ok e ↔ Derives .accepted (.or e) tokens := by
  constructor
  · intro found
    have front := (sound (6 * (tokens.length + 1))).or tokens
    rw [read] at found
    cases result : readOr (6 * (tokens.length + 1)) tokens with
    | error err =>
        rw [result] at found
        cases found
    | ok pair =>
        obtain ⟨e', rest⟩ := pair
        rw [result] at found front
        obtain ⟨ts, split, derived⟩ := front
        cases rest with
        | cons token rest => cases found
        | nil =>
            cases found
            rw [split, List.append_nil]
            exact derived
  · intro derived
    have nothing : Ends (.or e) [] := ⟨nofun, nofun⟩
    have all : readOr (6 * (tokens.length + 1)) (tokens ++ []) = .ok (e, []) :=
      complete derived _ [] (by simp only [Phrase.depth]; omega) nothing
    rw [List.append_nil] at all
    rw [read, all]
    rfl

theorem read_error {tokens : List Token} {err : ConditionError}
    (failed : read tokens = .error err) : ∃ message, err = .invalid message := by
  have front := (sound (6 * (tokens.length + 1))).or tokens
  rw [read] at failed
  cases result : readOr (6 * (tokens.length + 1)) tokens with
  | error err' =>
      rw [result] at failed front
      cases failed
      exact front (by omega)
  | ok pair =>
      obtain ⟨e', rest⟩ := pair
      rw [result] at failed
      cases rest with
      | nil => cases failed
      | cons token rest => exact ⟨_, (Except.error.inj failed).symm⟩

end SyndicateClaw.Orchestrator.Condition
