import SyndicateClaw.Orchestrator.Value

/-! The edge condition evaluator: tokenizer, recursive-descent parser and the
Python comparisons it applies. Parsing and evaluation are one pass, as in
`_ConditionParser`; characters outside ASCII count as neither spaces, digits nor
word characters. -/

namespace SyndicateClaw.Orchestrator

inductive CompareOp where
  | eq | ne | gt | ge | lt | le
  deriving DecidableEq

inductive Keyword where
  | and | or | not | in
  deriving DecidableEq

inductive Token where
  | bool (text : String)
  | none (text : String)
  | number (text : String)
  | string (text : String)
  | keyword (word : Keyword)
  | op (op : CompareOp)
  | ident (text : String)
  | lbracket | rbracket | lparen | rparen | comma
  deriving DecidableEq

/-- `invalid` is the parser's `ValueError`, `type` a `TypeError` of a comparison,
`recursion` the interpreter's `RecursionError`. -/
inductive ConditionError where
  | invalid (message : String)
  | type (message : String)
  | recursion
  deriving DecidableEq

namespace Condition

def stripWord : List Char → List Char → Option (List Char)
  | [], rest => some rest
  | _ :: _, [] => Option.none
  | w :: word, c :: rest => if w = c then stripWord word rest else Option.none

def literalTokens : List (String × Token) :=
  [("true", .bool "true"), ("false", .bool "false"), ("True", .bool "True"),
   ("False", .bool "False"), ("None", .none "None"), ("null", .none "null")]

def symbolTokens : List (String × Token) :=
  [("and", .keyword .and), ("or", .keyword .or), ("not", .keyword .not), ("in", .keyword .in),
   ("==", .op .eq), ("!=", .op .ne), (">=", .op .ge), ("<=", .op .le), (">", .op .gt),
   ("<", .op .lt)]

def bracketTokens : List (String × Token) :=
  [("[", .lbracket), ("]", .rbracket), ("(", .lparen), (")", .rparen), (",", .comma)]

def matchTable (table : List (String × Token)) (input : List Char) :
    Option (Token × List Char) :=
  table.findSome? fun entry => (stripWord entry.1.toList input).map fun rest => (entry.2, rest)

def isWordChar (c : Char) : Bool := c.isAlphanum || c = '_'

/-- `-?\d+(?:\.\d+)?` -/
def matchNumber (input : List Char) : Option (Token × List Char) :=
  let (sign, body) := match input with
    | '-' :: rest => (['-'], rest)
    | _ => ([], input)
  let digits := body.takeWhile Char.isDigit
  let rest := body.dropWhile Char.isDigit
  if digits.isEmpty then Option.none else
  match rest with
  | '.' :: tail =>
      let fraction := tail.takeWhile Char.isDigit
      if fraction.isEmpty then some (.number (String.ofList (sign ++ digits)), rest)
      else some (.number (String.ofList (sign ++ digits ++ '.' :: fraction)),
        tail.dropWhile Char.isDigit)
  | _ => some (.number (String.ofList (sign ++ digits)), rest)

/-- `'[^']*'|"[^"]*"` -/
def matchString (input : List Char) : Option (Token × List Char) :=
  match input with
  | c :: rest =>
      if c = '\'' ∨ c = '"' then
        match rest.dropWhile (· ≠ c) with
        | _ :: tail =>
            some (.string (String.ofList (c :: rest.takeWhile (· ≠ c) ++ [c])), tail)
        | [] => Option.none
      else Option.none
  | [] => Option.none

/-- `state\.\w+`; the token keeps the name after the dot. -/
def matchIdent (input : List Char) : Option (Token × List Char) :=
  match stripWord "state.".toList input with
  | some rest =>
      let name := rest.takeWhile isWordChar
      if name.isEmpty then Option.none
      else some (.ident (String.ofList name), rest.dropWhile isWordChar)
  | Option.none => Option.none

/-- The first alternative of `_TOKEN_RE` that matches. -/
def matchToken (input : List Char) : Option (Token × List Char) :=
  (matchTable literalTokens input).or <|
  (matchNumber input).or <|
  (matchString input).or <|
  (matchTable symbolTokens input).or <|
  (matchIdent input).or <|
  matchTable bracketTokens input

/-- `str.isspace` of a single character. -/
def isSpace (c : Char) : Bool :=
  c.isWhitespace || (0x0b ≤ c.toNat && c.toNat ≤ 0x0c) || (0x1c ≤ c.toNat && c.toNat ≤ 0x1f)

/-- `_tokenize`. Every round consumes a character, so the length of the input is
fuel enough. -/
def tokenizeFrom : Nat → Nat → List Char → Except ConditionError (List Token)
  | _, _, [] => .ok []
  | 0, _, _ :: _ => .error .recursion
  | fuel + 1, pos, c :: rest =>
      if isSpace c then tokenizeFrom fuel (pos + 1) rest
      else match matchToken (c :: rest) with
        | Option.none =>
            .error (.invalid ("Unexpected character at position " ++ toString pos ++ ": " ++
              String.ofList (c :: rest)))
        | some (token, tail) =>
            (tokenizeFrom fuel (pos + ((c :: rest).length - tail.length)) tail).map (token :: ·)

def tokenize (expression : String) : Except ConditionError (List Token) :=
  tokenizeFrom expression.toList.length 0 expression.toList

/-- `a == b` on numbers: `bool` is a subtype of `int` and mixed comparisons are exact. -/
def number? : Value → Option Rat
  | .bool b => some (if b then 1 else 0)
  | .int i => some i
  | .float q _ => some q
  | _ => Option.none

mutual

def pyEq : Value → Value → Bool
  | .str a, .str b => a = b
  | .none, .none => true
  | .list a, .list b => pyEqList a b
  | .dict a, .dict b => a.length = b.length && pyEqEntries a b
  | .object a, .object b => a = b
  | .bool a, b => number? b = some (if a then 1 else 0)
  | .int a, b => number? b = some (a : Rat)
  | .float a _, b => number? b = some a
  | _, _ => false

def pyEqList : List Value → List Value → Bool
  | [], [] => true
  | a :: as, b :: bs => pyEq a b && pyEqList as bs
  | _, _ => false

def pyEqEntries : List (String × Value) → State → Bool
  | [], _ => true
  | (key, value) :: entries, other =>
      (match Dict.get? other key with
        | some found => pyEq value found
        | Option.none => false) && pyEqEntries entries other

end

def typeName : Value → String
  | .none => "NoneType"
  | .bool _ => "bool"
  | .int _ => "int"
  | .float _ _ => "float"
  | .str _ => "str"
  | .list _ => "list"
  | .dict _ => "dict"
  | .object _ => "object"

def opText : CompareOp → String
  | .eq => "==" | .ne => "!=" | .gt => ">" | .ge => ">=" | .lt => "<" | .le => "<="

def orderHolds {α : Type} [DecidableEq α] [LT α] [DecidableLT α] (op : CompareOp) (a b : α) :
    Bool :=
  match op with
  | .eq => a = b
  | .ne => a ≠ b
  | .gt => b < a
  | .ge => b < a || a = b
  | .lt => a < b
  | .le => a < b || a = b

mutual

/-- `_COMPARE_OPS[op](a, b)`. -/
def compareValues (op : CompareOp) : Value → Value → Except ConditionError Bool
  | .str a, .str b => .ok (orderHolds op a b)
  | .list a, .list b => compareLists op a b
  | a, b =>
      match op with
      | .eq => .ok (pyEq a b)
      | .ne => .ok (!pyEq a b)
      | _ =>
          match number? a, number? b with
          | some x, some y => .ok (orderHolds op x y)
          | _, _ =>
              .error (.type ("'" ++ opText op ++ "' not supported between instances of '" ++
                typeName a ++ "' and '" ++ typeName b ++ "'"))

def compareLists (op : CompareOp) : List Value → List Value → Except ConditionError Bool
  | [], b => .ok (orderHolds op 0 b.length)
  | a, [] => .ok (orderHolds op a.length 0)
  | a :: as, b :: bs =>
      if pyEq a b then compareLists op as bs
      else match op with
        | .eq => .ok false
        | .ne => .ok true
        | _ => compareValues op a b

end

def roundHalfEven (q : Rat) : Int :=
  let low := q.floor
  let rest := q - low
  if rest < 1 / 2 then low
  else if 1 / 2 < rest then low + 1
  else if low % 2 = 0 then low else low + 1

/-- The double nearest to `q`, for magnitudes below the overflow threshold. -/
def nearestDouble (q : Rat) : Rat :=
  if q = 0 then 0 else
  let magnitude : Rat := if q < 0 then -q else q
  let power : Int → Rat := fun e => if 0 ≤ e then 2 ^ e.toNat else 1 / 2 ^ (-e).toNat
  let guess : Int := (Nat.log2 magnitude.num.natAbs : Int) - Nat.log2 magnitude.den - 52
  let exponent := if magnitude / power guess < 2 ^ 52 then guess - 1 else guess
  let exponent := max exponent (-1074)
  let mantissa : Rat := roundHalfEven (magnitude / power exponent)
  (if q < 0 then -1 else 1) * mantissa * power exponent

def digitsValue (digits : List Char) : Nat :=
  digits.foldl (fun acc c => 10 * acc + (c.toNat - '0'.toNat)) 0

/-- `float(text) if "." in text else int(text)`. -/
def numberValue (text : String) : Value :=
  let chars := text.toList
  let negative := chars.head? = some '-'
  let body := if negative then chars.tail else chars
  let whole := body.takeWhile (· ≠ '.')
  match body.dropWhile (· ≠ '.') with
  | _ :: fraction =>
      let magnitude : Rat := digitsValue (whole ++ fraction) / 10 ^ fraction.length
      .float (nearestDouble (if negative then -magnitude else magnitude)) text
  | [] => .int (if negative then -(digitsValue whole : Int) else digitsValue whole)

/-- `text[1:-1]` -/
def unquoted (text : String) : String := String.ofList (text.toList.drop 1).dropLast

def tokenText : Token → String
  | .bool text | .none text | .number text | .string text => text
  | .keyword .and => "and" | .keyword .or => "or" | .keyword .not => "not"
  | .keyword .in => "in"
  | .op op => opText op
  | .ident name => "state." ++ name
  | .lbracket => "[" | .rbracket => "]" | .lparen => "(" | .rparen => ")" | .comma => ","

/-- `_expect` for a closing token. -/
def expect (token : Token) (kind : String) : List Token → Except ConditionError (List Token)
  | found :: rest =>
      if found = token then .ok rest
      else .error (.invalid ("Expected " ++ kind ++ ", got " ++ tokenText found))
  | [] => .error (.invalid ("Expected " ++ kind ++ ", got EOF"))

mutual

def orExpr : Nat → State → List Token → Except ConditionError (Value × List Token)
  | 0, _, _ => .error .recursion
  | fuel + 1, state, tokens => do
      let (left, rest) ← andExpr fuel state tokens
      orRest fuel state left rest

/-- The `while` loop of `_or_expr`: the right operand is evaluated even when the
left one already decides. -/
def orRest : Nat → State → Value → List Token → Except ConditionError (Value × List Token)
  | fuel + 1, state, left, .keyword .or :: tokens => do
      let (right, rest) ← andExpr fuel state tokens
      orRest fuel state (if left.truthy then left else right) rest
  | 0, _, _, .keyword .or :: _ => .error .recursion
  | _, _, left, tokens => .ok (left, tokens)

def andExpr : Nat → State → List Token → Except ConditionError (Value × List Token)
  | 0, _, _ => .error .recursion
  | fuel + 1, state, tokens => do
      let (left, rest) ← notExpr fuel state tokens
      andRest fuel state left rest

def andRest : Nat → State → Value → List Token → Except ConditionError (Value × List Token)
  | fuel + 1, state, left, .keyword .and :: tokens => do
      let (right, rest) ← notExpr fuel state tokens
      andRest fuel state (if left.truthy then right else left) rest
  | 0, _, _, .keyword .and :: _ => .error .recursion
  | _, _, left, tokens => .ok (left, tokens)

def notExpr : Nat → State → List Token → Except ConditionError (Value × List Token)
  | 0, _, _ => .error .recursion
  | fuel + 1, state, .keyword .not :: tokens => do
      let (value, rest) ← notExpr fuel state tokens
      return (.bool (!value.truthy), rest)
  | fuel + 1, state, tokens => compare fuel state tokens

def compare : Nat → State → List Token → Except ConditionError (Value × List Token)
  | 0, _, _ => .error .recursion
  | fuel + 1, state, tokens => do
      let (left, rest) ← primary fuel state tokens
      match rest with
      | .op op :: rest =>
          let (right, rest) ← primary fuel state rest
          let result ← compareValues op left right
          return (.bool result, rest)
      | .keyword .in :: rest =>
          let (items, rest) ← listExpr fuel state rest
          return (.bool (items.any (pyEq left)), rest)
      | _ => return (left, rest)

def primary : Nat → State → List Token → Except ConditionError (Value × List Token)
  | _, state, .ident name :: rest => .ok ((Dict.get? state name).getD .none, rest)
  | _, _, .number text :: rest => .ok (numberValue text, rest)
  | _, _, .string text :: rest => .ok (.str (unquoted text), rest)
  | _, _, .bool text :: rest => .ok (.bool (text = "true" || text = "True"), rest)
  | _, _, .none _ :: rest => .ok (.none, rest)
  | fuel + 1, state, .lparen :: rest => do
      let (value, rest) ← orExpr fuel state rest
      let rest ← expect .rparen "rparen" rest
      return (value, rest)
  | 0, _, .lparen :: _ => .error .recursion
  | _, _, token :: _ => .error (.invalid ("Unexpected token: " ++ tokenText token))
  | _, _, [] => .error (.invalid "Unexpected end of expression")

def listExpr : Nat → State → List Token → Except ConditionError (List Value × List Token)
  | 0, _, _ => .error .recursion
  | fuel + 1, state, tokens => do
      let rest ← expect .lbracket "lbracket" tokens
      match rest with
      | [] => .error (.invalid "Expected rbracket, got EOF")
      | .rbracket :: rest => return ([], rest)
      | _ :: _ =>
          let (item, rest) ← primary fuel state rest
          let (items, rest) ← listRest fuel state rest
          let rest ← expect .rbracket "rbracket" rest
          return (item :: items, rest)

def listRest : Nat → State → List Token → Except ConditionError (List Value × List Token)
  | fuel + 1, state, .comma :: tokens => do
      let (item, rest) ← primary fuel state tokens
      let (items, rest) ← listRest fuel state rest
      return (item :: items, rest)
  | 0, _, .comma :: _ => .error .recursion
  | _, _, tokens => .ok ([], tokens)

end

/-- `parse` on the tokens; nesting never goes deeper than six calls a token. -/
def parse (state : State) (tokens : List Token) : Except ConditionError Bool := do
  let (value, rest) ← orExpr (6 * (tokens.length + 1)) state tokens
  match rest with
  | [] => return value.truthy
  | token :: _ => .error (.invalid ("Unexpected token: " ++ tokenText token))

end Condition

def safeEvalCondition (condition : String) (state : State) : Except ConditionError Bool := do
  Condition.parse state (← Condition.tokenize condition)

/-- `_evaluate_condition`: an error counts as false. -/
def evaluateCondition (condition : String) (state : State) : Bool :=
  match safeEvalCondition condition state with
  | .ok result => result
  | .error _ => false

example : evaluateCondition "state.x >= 2 and not (state.y in ['a', \"b\"])"
    [("x", .int 3), ("y", .str "c")] = true := by decide +kernel

end SyndicateClaw.Orchestrator
