import Mathlib.Data.List.Chain
import SyndicateClaw.Orchestrator.ConditionText

/-! Conditions printed and read back.

An expression is printed with parentheses only where its rule needs them. What is printed is
tokenized and read as the expression, and the parser accepts what the rules derive, with more
lists than the docstring has. -/

namespace SyndicateClaw.Orchestrator.Condition

/-! ### Printing of expressions -/

/-- The rule an expression is made by, from the loosest to the tightest. -/
def Expr.level : Expr → Nat
  | .or _ _ => 0
  | .and _ _ => 1
  | .not _ => 2
  | .compare _ _ _ | .isIn _ _ => 3
  | .ref _ | .literal _ => 4

def parenthesized (place : Nat) (e : Expr) (tokens : List Token) : List Token :=
  if e.level < place then .lparen :: (tokens ++ [.rparen]) else tokens

mutual

def Expr.tokens : Expr → List Token
  | .ref name => [.ident name]
  | .literal l => [l.token]
  | .not e => .keyword .not :: parenthesized 2 e e.tokens
  | .and left right =>
      parenthesized 1 left left.tokens ++ .keyword .and :: parenthesized 2 right right.tokens
  | .or left right => left.tokens ++ .keyword .or :: parenthesized 1 right right.tokens
  | .compare op left right =>
      parenthesized 4 left left.tokens ++ .op op :: parenthesized 4 right right.tokens
  | .isIn left items => parenthesized 4 left left.tokens ++ .keyword .in :: listTokens items

def listTokens : List Expr → List Token
  | [] => [.lbracket, .rbracket]
  | item :: items => .lbracket :: (parenthesized 4 item item.tokens ++ itemTokens items ++
      [.rbracket])

def itemTokens : List Expr → List Token
  | [] => []
  | item :: items => .comma :: (parenthesized 4 item item.tokens ++ itemTokens items)

end

def phraseAt : Nat → Expr → Phrase
  | 0 => .or
  | 1 => .and
  | 2 => .not
  | 3 => .compare
  | _ => .primary

section

variable {g : Grammar} {e : Expr} {ts us : List Token}

theorem derives_looser {place : Nat} (derived : Derives g (phraseAt (place + 1) e) ts)
    (bound : place < 4) : Derives g (phraseAt place e) ts := by
  match place, bound with
  | 0, _ =>
      rw [← List.append_nil ts]
      exact .or derived .orEnd
  | 1, _ =>
      rw [← List.append_nil ts]
      exact .and derived .andEnd
  | 2, _ => exact .plain derived
  | 3, _ => exact .single derived

theorem derives_at {level place : Nat} (derived : Derives g (phraseAt level e) ts)
    (fits : place ≤ level) (bound : level ≤ 4) : Derives g (phraseAt place e) ts := by
  induction level with
  | zero =>
      obtain rfl := Nat.le_zero.mp fits
      exact derived
  | succ level ih =>
      rcases Nat.eq_or_lt_of_le fits with rfl | below
      · exact derived
      · exact ih (derives_looser derived bound) (by omega) (by omega)

theorem level_le (e : Expr) : e.level ≤ 4 := by
  unfold Expr.level
  split <;> decide

theorem derives_parenthesized (place : Nat) (derived : Derives g (phraseAt e.level e) ts)
    (bound : place ≤ 4) : Derives g (phraseAt place e) (parenthesized place e ts) := by
  unfold parenthesized
  split
  · have inner : Derives g (.or e) ts := derives_at derived (Nat.zero_le _) (level_le e)
    have primary : Derives g (phraseAt 4 e) (.lparen :: (ts ++ [.rparen])) := .parens inner
    exact derives_at primary bound le_rfl
  · exact derives_at derived (by omega) (level_le e)

theorem rest_snoc {p : Phrase} (derived : Derives g p ts) : match p with
    | .orRest left e => ∀ right us, Derives g (.and right) us →
        Derives g (.orRest left (.or e right)) (ts ++ .keyword .or :: us)
    | .andRest left e => ∀ right us, Derives g (.not right) us →
        Derives g (.andRest left (.and e right)) (ts ++ .keyword .and :: us)
    | _ => True := by
  induction derived with
  | orEnd =>
      intro right us more
      rw [← List.append_nil us]
      exact .orMore more .orEnd
  | andEnd =>
      intro right us more
      rw [← List.append_nil us]
      exact .andMore more .andEnd
  | orMore first _ _ ih =>
      intro right us more
      rw [List.cons_append, List.append_assoc]
      exact .orMore first (ih right us more)
  | andMore first _ _ ih =>
      intro right us more
      rw [List.cons_append, List.append_assoc]
      exact .andMore first (ih right us more)
  | _ => trivial

theorem derives_or {left right : Expr} (one : Derives g (.or left) ts)
    (two : Derives g (.and right) us) :
    Derives g (.or (.or left right)) (ts ++ .keyword .or :: us) := by
  cases one with
  | or first more =>
      rw [List.append_assoc]
      exact .or first (rest_snoc more right us two)

theorem derives_and {left right : Expr} (one : Derives g (.and left) ts)
    (two : Derives g (.not right) us) :
    Derives g (.and (.and left right)) (ts ++ .keyword .and :: us) := by
  cases one with
  | and first more =>
      rw [List.append_assoc]
      exact .and first (rest_snoc more right us two)

end

mutual

theorem tokens_derives (e : Expr) : Derives .accepted (phraseAt e.level e) e.tokens := by
  cases e with
  | ref name => exact .ref
  | literal l => exact .literal
  | not e => exact .not (derives_parenthesized 2 (tokens_derives e) (by decide))
  | and left right =>
      exact derives_and (derives_parenthesized 1 (tokens_derives left) (by decide))
        (derives_parenthesized 2 (tokens_derives right) (by decide))
  | or left right =>
      exact derives_or (derives_at (tokens_derives left) (Nat.zero_le _) (level_le left))
        (derives_parenthesized 1 (tokens_derives right) (by decide))
  | compare op left right =>
      exact .compare (derives_parenthesized 4 (tokens_derives left) le_rfl)
        (derives_parenthesized 4 (tokens_derives right) le_rfl)
  | isIn left items =>
      exact .isIn (derives_parenthesized 4 (tokens_derives left) le_rfl) (listTokens_derives items)

theorem listTokens_derives (items : List Expr) :
    Derives .accepted (.list items) (listTokens items) := by
  cases items with
  | nil => exact .emptyList rfl
  | cons item items =>
      exact .list (.itemPrimary rfl (derives_parenthesized 4 (tokens_derives item) le_rfl))
        (itemTokens_derives items)

theorem itemTokens_derives (items : List Expr) :
    Derives .accepted (.items items) (itemTokens items) := by
  cases items with
  | nil => exact .itemsEnd
  | cons item items =>
      exact .itemsMore (.itemPrimary rfl (derives_parenthesized 4 (tokens_derives item) le_rfl))
        (itemTokens_derives items)

end

theorem length_parenthesized_mono {e : Expr} {ts : List Token} {place place' : Nat}
    (looser : place ≤ place') :
    (parenthesized place e ts).length ≤ (parenthesized place' e ts).length := by
  unfold parenthesized
  split_ifs with one two
  · exact le_rfl
  · omega
  · simp only [List.length_cons, List.length_append]
    omega
  · exact le_rfl

theorem length_le_parenthesized (place : Nat) (e : Expr) (ts : List Token) :
    ts.length ≤ (parenthesized place e ts).length :=
  @length_parenthesized_mono e ts 0 place (Nat.zero_le place)

theorem parenthesized_length_le (place : Nat) (e : Expr) (ts : List Token) :
    (parenthesized place e ts).length ≤ ts.length + 2 := by
  unfold parenthesized
  split_ifs
  · simp
  · omega

/-- A phrase that is printed with so many tokens at most, counting none for what stands before a
rest. -/
def PrintsWithin (n : Nat) : Phrase → Prop
  | .or e => e.tokens.length ≤ n
  | .orRest left e => e.tokens.length ≤ left.tokens.length + n
  | .and e => (parenthesized 1 e e.tokens).length ≤ n
  | .andRest left e =>
      (parenthesized 1 e e.tokens).length ≤ (parenthesized 1 left left.tokens).length + n
  | .not e => (parenthesized 2 e e.tokens).length ≤ n
  | .compare e => (parenthesized 3 e e.tokens).length ≤ n
  | .primary e | .item e => (parenthesized 4 e e.tokens).length ≤ n
  | .list items => (listTokens items).length ≤ n
  | .items items => (itemTokens items).length ≤ n

/-- What is printed has the fewest tokens, so no parentheses but those it needs. -/
theorem printed_least {g : Grammar} {p : Phrase} {ts : List Token} (derived : Derives g p ts) :
    PrintsWithin ts.length p := by
  induction derived with
  | @or left e ts us _ _ ih more =>
      have inner := length_le_parenthesized 1 left left.tokens
      simp only [PrintsWithin, List.length_append] at *
      omega
  | orEnd => exact le_rfl
  | @orMore left right e ts us _ _ ih more =>
      simp only [PrintsWithin, Expr.tokens, List.length_append, List.length_cons] at *
      omega
  | @and left e ts us _ _ ih more =>
      have tighter := @length_parenthesized_mono left left.tokens 1 2 (by decide)
      simp only [PrintsWithin, List.length_append] at *
      omega
  | andEnd => exact le_rfl
  | @andMore left right e ts us _ _ ih more =>
      have bare : (parenthesized 1 (.and left right) (Expr.and left right).tokens).length =
          (parenthesized 1 left left.tokens).length +
            ((parenthesized 2 right right.tokens).length + 1) := List.length_append
      simp only [PrintsWithin, List.length_append, List.length_cons] at *
      omega
  | @not e ts _ ih =>
      have bare : (parenthesized 2 (.not e) (Expr.not e).tokens).length =
          (parenthesized 2 e e.tokens).length + 1 := rfl
      simp only [PrintsWithin, List.length_cons] at *
      omega
  | @plain e ts _ ih => exact (length_parenthesized_mono (by decide)).trans ih
  | @single e ts _ ih => exact (length_parenthesized_mono (by decide)).trans ih
  | @compare op left right ts us _ _ one two =>
      have bare : (parenthesized 3 (.compare op left right)
            (Expr.compare op left right).tokens).length =
          (parenthesized 4 left left.tokens).length +
            ((parenthesized 4 right right.tokens).length + 1) := List.length_append
      simp only [PrintsWithin, List.length_append, List.length_cons] at *
      omega
  | @isIn left items ts us _ _ one two =>
      have bare : (parenthesized 3 (.isIn left items) (Expr.isIn left items).tokens).length =
          (parenthesized 4 left left.tokens).length + ((listTokens items).length + 1) :=
        List.length_append
      simp only [PrintsWithin, List.length_append, List.length_cons] at *
      omega
  | ref => exact le_rfl
  | literal => exact le_rfl
  | @parens e ts _ ih =>
      have outer := parenthesized_length_le 4 e e.tokens
      simp only [PrintsWithin, List.length_cons, List.length_append, List.length_nil] at *
      omega
  | list _ _ one two =>
      simp only [PrintsWithin, listTokens, List.length_cons, List.length_append, List.length_nil]
        at *
      omega
  | emptyList => exact le_rfl
  | itemsEnd => exact le_rfl
  | itemsMore _ _ one two =>
      simp only [PrintsWithin, itemTokens, List.length_cons, List.length_append] at *
      omega
  | itemLiteral => exact le_rfl
  | itemPrimary _ _ ih => exact ih

/-! ### Lists -/

def opensItem : Token → Bool
  | .lbracket | .comma => true
  | _ => false

def isLiteral : Token → Bool
  | .bool _ | .none _ | .number _ | .string _ => true
  | _ => false

theorem isLiteral_token (l : Literal) : isLiteral l.token = true := by
  cases l <;> rfl

theorem opensItem_token (l : Literal) : opensItem l.token = false := by
  cases l <;> rfl

def PlainLists (tokens : List Token) : Prop :=
  tokens.IsChain fun a b => opensItem a = true → isLiteral b = true

instance (tokens : List Token) : Decidable (PlainLists tokens) :=
  inferInstanceAs (Decidable (tokens.IsChain _))

theorem PlainLists.left {ts us : List Token} (plain : PlainLists (ts ++ us)) : PlainLists ts :=
  List.IsChain.left_of_append plain

theorem PlainLists.right {ts us : List Token} (plain : PlainLists (ts ++ us)) : PlainLists us :=
  List.IsChain.right_of_append plain

theorem PlainLists.tail {t : Token} {ts : List Token} (plain : PlainLists (t :: ts)) :
    PlainLists ts :=
  List.IsChain.tail plain

theorem item_literal {g : Grammar} {e : Expr} {t : Token} {ts : List Token}
    (derived : Derives .accepted (.item e) (t :: ts)) (literal : isLiteral t = true) :
    Derives g (.item e) (t :: ts) := by
  cases derived with
  | itemLiteral => exact .itemLiteral
  | itemPrimary _ inner =>
      cases inner with
      | ref => cases literal
      | literal => exact .itemLiteral
      | parens => cases literal

theorem item_documented {e : Expr} {a : Token} {ts rest : List Token} (opens : opensItem a = true)
    (derived : Derives .accepted (.item e) ts) (plain : PlainLists (a :: (ts ++ rest))) :
    Derives .documented (.item e) ts := by
  obtain ⟨t, ts, rfl, -⟩ := item_starts derived
  exact item_literal derived ((List.isChain_cons_cons.mp plain).1 opens)

theorem documented_of_plain {p : Phrase} {ts : List Token} (derived : Derives .accepted p ts)
    (plain : PlainLists ts) (whole : ∀ e, p ≠ .item e) : Derives .documented p ts := by
  induction derived with
  | or _ _ ih more => exact .or (ih plain.left nofun) (more plain.right nofun)
  | orEnd => exact .orEnd
  | orMore _ _ ih more => exact .orMore (ih plain.tail.left nofun) (more plain.tail.right nofun)
  | and _ _ ih more => exact .and (ih plain.left nofun) (more plain.right nofun)
  | andEnd => exact .andEnd
  | andMore _ _ ih more => exact .andMore (ih plain.tail.left nofun) (more plain.tail.right nofun)
  | not _ ih => exact .not (ih plain.tail nofun)
  | plain _ ih => exact .plain (ih plain nofun)
  | single _ ih => exact .single (ih plain nofun)
  | compare _ _ one two => exact .compare (one plain.left nofun) (two plain.right.tail nofun)
  | isIn _ _ one two => exact .isIn (one plain.left nofun) (two plain.right.tail nofun)
  | ref => exact .ref
  | literal => exact .literal
  | parens _ ih => exact .parens (ih plain.tail.left nofun)
  | @list e items ts us item _ _ more =>
      have first : PlainLists (.lbracket :: (ts ++ us)) := by
        rw [← List.cons_append] at plain
        exact plain.left
      exact .list (item_documented rfl item first) (more plain.tail.left.right nofun)
  | emptyList =>
      have element := (List.isChain_cons_cons.mp plain).1 rfl
      cases element
  | itemsEnd => exact .itemsEnd
  | itemsMore item _ _ more =>
      exact .itemsMore (item_documented rfl item plain) (more plain.tail.right nofun)
  | itemLiteral => exact absurd rfl (whole _)
  | itemPrimary => exact absurd rfl (whole _)

structure Plain (ts : List Token) : Prop where
  lists : PlainLists ts
  last : ∀ t ∈ ts.getLast?, opensItem t = false

theorem Plain.append {ts us : List Token} (one : Plain ts) (two : Plain us) : Plain (ts ++ us) where
  lists := by
    apply List.IsChain.append one.lists two.lists
    intro a last b _ opens
    rw [one.last a last] at opens
    cases opens
  last t last := by
    rw [List.getLast?_append] at last
    rcases Option.or_eq_some_iff.mp last with two' | ⟨-, one'⟩
    · exact two.last t two'
    · exact one.last t one'

theorem plain_nil : Plain [] := ⟨.nil, nofun⟩

theorem plain_single {t : Token} (other : opensItem t = false) : Plain [t] where
  lists := .singleton t
  last t' last := by
    obtain rfl := Option.some.inj last
    exact other

theorem Plain.cons {t : Token} {ts : List Token} (other : opensItem t = false) (rest : Plain ts) :
    Plain (t :: ts) :=
  (plain_single other).append rest

theorem Plain.element {a : Token} {l : Literal} {ts : List Token} (rest : Plain ts) :
    Plain (a :: ([l.token] ++ ts)) where
  lists := by
    have literal : Plain (l.token :: ts) := rest.cons (opensItem_token l)
    exact List.isChain_cons_cons.mpr ⟨fun _ => isLiteral_token l, literal.lists⟩
  last := by
    have literal : Plain (l.token :: ts) := rest.cons (opensItem_token l)
    exact literal.last

theorem item_literal_of_documented {e : Expr} {ts : List Token}
    (derived : Derives .documented (.item e) ts) : ∃ l : Literal, ts = [l.token] := by
  cases derived with
  | itemLiteral => exact ⟨_, rfl⟩
  | itemPrimary other => cases other

theorem plain_of_documented {p : Phrase} {ts : List Token} (derived : Derives .documented p ts) :
    Plain ts := by
  induction derived with
  | or _ _ ih more => exact ih.append more
  | orEnd => exact plain_nil
  | orMore _ _ ih more => exact (ih.append more).cons rfl
  | and _ _ ih more => exact ih.append more
  | andEnd => exact plain_nil
  | andMore _ _ ih more => exact (ih.append more).cons rfl
  | not _ ih => exact ih.cons rfl
  | plain _ ih => exact ih
  | single _ ih => exact ih
  | compare _ _ one two => exact one.append (two.cons rfl)
  | isIn _ _ one two => exact one.append (two.cons rfl)
  | ref => exact plain_single rfl
  | literal => exact plain_single (opensItem_token _)
  | parens _ ih => exact (ih.append (plain_single rfl)).cons rfl
  | list item _ _ more =>
      obtain ⟨l, rfl⟩ := item_literal_of_documented item
      rw [List.append_assoc]
      exact (more.append (plain_single rfl)).element
  | emptyList other => cases other
  | itemsEnd => exact plain_nil
  | itemsMore item _ _ more =>
      obtain ⟨l, rfl⟩ := item_literal_of_documented item
      exact more.element
  | itemLiteral => exact plain_single (opensItem_token _)
  | itemPrimary other => cases other

theorem documented_iff {e : Expr} {ts : List Token} :
    Derives .documented (.or e) ts ↔ Derives .accepted (.or e) ts ∧ PlainLists ts :=
  ⟨fun derived => ⟨derived.accepts, (plain_of_documented derived).lists⟩,
    fun ⟨derived, plain⟩ => documented_of_plain derived plain nofun⟩

/-! ### Conditions that can be written -/

def AllSpelled (ts : List Token) : Prop := ∀ t ∈ ts, Spelled t

@[simp] theorem allSpelled_nil : AllSpelled [] := nofun

@[simp] theorem allSpelled_cons {t : Token} {ts : List Token} :
    AllSpelled (t :: ts) ↔ Spelled t ∧ AllSpelled ts :=
  List.forall_mem_cons

@[simp] theorem allSpelled_append {ts us : List Token} :
    AllSpelled (ts ++ us) ↔ AllSpelled ts ∧ AllSpelled us :=
  List.forall_mem_append

@[simp] theorem allSpelled_parenthesized {place : Nat} {e : Expr} {ts : List Token} :
    AllSpelled (parenthesized place e ts) ↔ AllSpelled ts := by
  unfold parenthesized
  split
  · simp [Spelled]
  · rfl

/-- An expression whose names and literals have a text. -/
structure Printable where
  expr : Expr
  spelled : AllSpelled expr.tokens

def Printable.print (c : Printable) : String := String.ofList (spell c.expr.tokens)

def readText (text : String) : Except ConditionError Expr := do
  read (← tokenize text)

theorem derives_tokens (e : Expr) : Derives .accepted (.or e) e.tokens :=
  derives_at (tokens_derives e) (Nat.zero_le _) (level_le e)

theorem tokenize_print (c : Printable) : tokenize c.print = .ok c.expr.tokens :=
  tokenize_spell c.spelled

theorem readText_print (c : Printable) : readText c.print = .ok c.expr := by
  rw [readText, tokenize_print]
  exact read_iff.mpr (derives_tokens c.expr)

theorem safeEvalCondition_print (c : Printable) (state : State) :
    safeEvalCondition c.print state = (c.expr.everyValue state).map Value.truthy := by
  rw [safeEvalCondition, tokenize_print]
  exact parse_of_derives (derives_tokens c.expr) state

/-! ### The parser and the docstring -/

/-- The parser takes all the tokens iff the docstring derives them, or a comparison fails on the
way. -/
def AcceptsExactly (tokens : List Token) : Prop :=
  ∀ state, match parse state tokens with
    | .ok _ => ∃ e, Derives .documented (.or e) tokens
    | .error (.invalid _) => ¬ ∃ e, Derives .documented (.or e) tokens
    | .error (.type _) => True
    | .error .recursion => False

end SyndicateClaw.Orchestrator.Condition
