import SyndicateClaw.Orchestrator.ConditionGrammar

/-! What a condition means and what the parser computes.

`Expr.value` evaluates the right operand of `and` and `or` only where it is needed. The parser
evaluates while it reads, so it computes `Expr.everyValue`: all operands, and then the one that
counts. The two differ only in the comparisons that Python refuses. -/

namespace SyndicateClaw.Orchestrator.Condition

section

variable (state : State)

mutual

def Expr.value : Expr → Except ConditionError Value
  | .ref name => .ok ((Dict.get? state name).getD .none)
  | .literal l => .ok l.value
  | .not e => do
      let inner ← e.value
      return .bool (!inner.truthy)
  | .and left right => do
      let first ← left.value
      if first.truthy then right.value else return first
  | .or left right => do
      let first ← left.value
      if first.truthy then return first else right.value
  | .compare op left right => do
      let first ← left.value
      let second ← right.value
      let result ← compareValues op first second
      return .bool result
  | .isIn left items => do
      let first ← left.value
      let found ← itemValues items
      return .bool (found.any (pyEq first))

def itemValues : List Expr → Except ConditionError (List Value)
  | [] => .ok []
  | item :: items => do
      let first ← item.value
      let others ← itemValues items
      return first :: others

end

mutual

/-- Evaluation of all operands. -/
def Expr.everyValue : Expr → Except ConditionError Value
  | .ref name => .ok ((Dict.get? state name).getD .none)
  | .literal l => .ok l.value
  | .not e => do
      let inner ← e.everyValue
      return .bool (!inner.truthy)
  | .and left right => do
      let first ← left.everyValue
      let second ← right.everyValue
      return if first.truthy then second else first
  | .or left right => do
      let first ← left.everyValue
      let second ← right.everyValue
      return if first.truthy then first else second
  | .compare op left right => do
      let first ← left.everyValue
      let second ← right.everyValue
      let result ← compareValues op first second
      return .bool result
  | .isIn left items => do
      let first ← left.everyValue
      let found ← everyItem items
      return .bool (found.any (pyEq first))

def everyItem : List Expr → Except ConditionError (List Value)
  | [] => .ok []
  | item :: items => do
      let first ← item.everyValue
      let others ← everyItem items
      return first :: others

end

mutual

/-- Every comparison of the expression has a result, also where short-circuiting skips it. -/
def Expr.Comparable : Expr → Prop
  | .ref _ | .literal _ => True
  | .not e => e.Comparable
  | .and left right | .or left right => left.Comparable ∧ right.Comparable
  | .compare op left right => left.Comparable ∧ right.Comparable ∧
      ∀ a b, left.value state = .ok a → right.value state = .ok b →
        ∃ result, compareValues op a b = .ok result
  | .isIn left items => left.Comparable ∧ ItemsComparable items

def ItemsComparable : List Expr → Prop
  | [] => True
  | item :: items => item.Comparable ∧ ItemsComparable items

end

/-! ### Comparable operands -/

theorem bind_ok_iff {ε α β : Type} {m : Except ε α} {k : α → Except ε β} {b : β} :
    (m >>= k) = .ok b ↔ ∃ a, m = .ok a ∧ k a = .ok b := by
  cases m with
  | error err => exact ⟨nofun, nofun⟩
  | ok a =>
      constructor
      · intro result
        exact ⟨a, rfl, result⟩
      · rintro ⟨_, ⟨⟩, result⟩
        exact result

variable {state}

mutual

theorem Expr.Comparable.values {e : Expr} (comparable : e.Comparable state) :
    ∃ v, e.value state = .ok v ∧ e.everyValue state = .ok v := by
  cases e with
  | ref name => exact ⟨_, rfl, rfl⟩
  | literal l => exact ⟨_, rfl, rfl⟩
  | not e =>
      obtain ⟨v, value, every⟩ := @Expr.Comparable.values e comparable
      exact ⟨.bool (!v.truthy), by rw [Expr.value, value]; rfl, by rw [Expr.everyValue, every]; rfl⟩
  | and left right =>
      obtain ⟨a, value, every⟩ := Expr.Comparable.values comparable.1
      obtain ⟨b, value', every'⟩ := Expr.Comparable.values comparable.2
      refine ⟨if a.truthy then b else a, ?_, by rw [Expr.everyValue, every, every']; rfl⟩
      rw [Expr.value, value]
      show (if a.truthy then right.value state else .ok a) = _
      split
      · exact value'
      · rfl
  | or left right =>
      obtain ⟨a, value, every⟩ := Expr.Comparable.values comparable.1
      obtain ⟨b, value', every'⟩ := Expr.Comparable.values comparable.2
      refine ⟨if a.truthy then a else b, ?_, by rw [Expr.everyValue, every, every']; rfl⟩
      rw [Expr.value, value]
      show (if a.truthy then .ok a else right.value state) = _
      split
      · rfl
      · exact value'
  | compare op left right =>
      obtain ⟨a, value, every⟩ := Expr.Comparable.values comparable.1
      obtain ⟨b, value', every'⟩ := Expr.Comparable.values comparable.2.1
      obtain ⟨result, compared⟩ := comparable.2.2 a b value value'
      refine ⟨.bool result, ?_, ?_⟩
      · rw [Expr.value, value, value']
        exact congrArg (· >>= fun result => Except.ok (Value.bool result)) compared
      · rw [Expr.everyValue, every, every']
        exact congrArg (· >>= fun result => Except.ok (Value.bool result)) compared
  | isIn left items =>
      obtain ⟨a, value, every⟩ := Expr.Comparable.values comparable.1
      obtain ⟨vs, values, all⟩ := ItemsComparable.values comparable.2
      exact ⟨.bool (vs.any (pyEq a)), by rw [Expr.value, value, values]; rfl,
        by rw [Expr.everyValue, every, all]; rfl⟩

theorem ItemsComparable.values {items : List Expr} (comparable : ItemsComparable state items) :
    ∃ vs, itemValues state items = .ok vs ∧ everyItem state items = .ok vs := by
  cases items with
  | nil => exact ⟨[], rfl, rfl⟩
  | cons item items =>
      obtain ⟨v, value, every⟩ := Expr.Comparable.values comparable.1
      obtain ⟨vs, values, all⟩ := ItemsComparable.values comparable.2
      exact ⟨v :: vs, by rw [itemValues, value, values]; rfl, by rw [everyItem, every, all]; rfl⟩

end

mutual

theorem Expr.comparable_of_every {e : Expr} {v : Value} (every : e.everyValue state = .ok v) :
    e.Comparable state := by
  cases e with
  | ref name => trivial
  | literal l => trivial
  | not e =>
      obtain ⟨a, first, -⟩ := bind_ok_iff.mp every
      exact @Expr.comparable_of_every e a first
  | and left right =>
      obtain ⟨a, first, rest⟩ := bind_ok_iff.mp every
      obtain ⟨b, second, -⟩ := bind_ok_iff.mp rest
      exact ⟨Expr.comparable_of_every first, Expr.comparable_of_every second⟩
  | or left right =>
      obtain ⟨a, first, rest⟩ := bind_ok_iff.mp every
      obtain ⟨b, second, -⟩ := bind_ok_iff.mp rest
      exact ⟨Expr.comparable_of_every first, Expr.comparable_of_every second⟩
  | compare op left right =>
      obtain ⟨a, first, rest⟩ := bind_ok_iff.mp every
      obtain ⟨b, second, rest⟩ := bind_ok_iff.mp rest
      obtain ⟨result, compared, -⟩ := bind_ok_iff.mp rest
      have one := Expr.comparable_of_every first
      have two := Expr.comparable_of_every second
      refine ⟨one, two, fun a' b' value value' => ⟨result, ?_⟩⟩
      obtain ⟨a'', valued, every⟩ := one.values
      obtain ⟨b'', valued', every'⟩ := two.values
      cases value.symm.trans valued
      cases value'.symm.trans valued'
      cases first.symm.trans every
      cases second.symm.trans every'
      exact compared
  | isIn left items =>
      obtain ⟨a, first, rest⟩ := bind_ok_iff.mp every
      obtain ⟨vs, second, -⟩ := bind_ok_iff.mp rest
      exact ⟨Expr.comparable_of_every first, itemsComparable_of_every second⟩

theorem itemsComparable_of_every {items : List Expr} {vs : List Value}
    (every : everyItem state items = .ok vs) : ItemsComparable state items := by
  cases items with
  | nil => trivial
  | cons item items =>
      obtain ⟨v, first, rest⟩ := bind_ok_iff.mp every
      obtain ⟨others, second, -⟩ := bind_ok_iff.mp rest
      exact ⟨Expr.comparable_of_every first, itemsComparable_of_every second⟩

end

theorem everyValue_iff {e : Expr} {v : Value} :
    e.everyValue state = .ok v ↔ e.Comparable state ∧ e.value state = .ok v := by
  constructor
  · intro every
    have comparable := Expr.comparable_of_every every
    obtain ⟨v', value, every'⟩ := comparable.values
    cases every.symm.trans every'
    exact ⟨comparable, value⟩
  · rintro ⟨comparable, value⟩
    obtain ⟨v', value', every⟩ := comparable.values
    cases value.symm.trans value'
    exact every

/-! ### Errors of an evaluation -/

mutual

/-- A comparison that fails is Python's `TypeError`. -/
theorem compareValues_error {op : CompareOp} (a b : Value) {err : ConditionError}
    (failed : compareValues op a b = .error err) : ∃ message, err = .type message := by
  rw [compareValues.eq_def] at failed
  split at failed
  · cases failed
  · next as bs => exact compareLists_error as bs failed
  · split at failed
    · cases failed
    · cases failed
    · split at failed
      · cases failed
      · exact ⟨_, (Except.error.inj failed).symm⟩

theorem compareLists_error {op : CompareOp} (as bs : List Value) {err : ConditionError}
    (failed : compareLists op as bs = .error err) : ∃ message, err = .type message := by
  rw [compareLists.eq_def] at failed
  split at failed
  · cases failed
  · cases failed
  · next a as b bs =>
      split at failed
      · exact compareLists_error as bs failed
      · split at failed
        · cases failed
        · cases failed
        · exact compareValues_error a b failed

end

theorem bind_error_cases {ε α β : Type} {m : Except ε α} {k : α → Except ε β} {err : ε}
    (failed : (m >>= k) = .error err) : m = .error err ∨ ∃ a, m = .ok a ∧ k a = .error err := by
  cases m with
  | error err' =>
      obtain rfl : err' = err := Except.error.inj failed
      exact .inl rfl
  | ok a => exact .inr ⟨a, rfl, failed⟩

mutual

theorem everyValue_error {e : Expr} {err : ConditionError}
    (failed : e.everyValue state = .error err) : ∃ message, err = .type message := by
  cases e with
  | ref name => cases failed
  | literal l => cases failed
  | not e =>
      rcases bind_error_cases failed with first | ⟨a, -, impossible⟩
      · exact everyValue_error first
      · cases impossible
  | and left right =>
      rcases bind_error_cases failed with first | ⟨a, -, rest⟩
      · exact everyValue_error first
      · rcases bind_error_cases rest with second | ⟨b, -, impossible⟩
        · exact everyValue_error second
        · cases impossible
  | or left right =>
      rcases bind_error_cases failed with first | ⟨a, -, rest⟩
      · exact everyValue_error first
      · rcases bind_error_cases rest with second | ⟨b, -, impossible⟩
        · exact everyValue_error second
        · cases impossible
  | compare op left right =>
      rcases bind_error_cases failed with first | ⟨a, -, rest⟩
      · exact everyValue_error first
      · rcases bind_error_cases rest with second | ⟨b, -, rest⟩
        · exact everyValue_error second
        · rcases bind_error_cases rest with compared | ⟨result, -, impossible⟩
          · exact compareValues_error a b compared
          · cases impossible
  | isIn left items =>
      rcases bind_error_cases failed with first | ⟨a, -, rest⟩
      · exact everyValue_error first
      · rcases bind_error_cases rest with second | ⟨vs, -, impossible⟩
        · exact everyItem_error second
        · cases impossible

theorem everyItem_error {items : List Expr} {err : ConditionError}
    (failed : everyItem state items = .error err) : ∃ message, err = .type message := by
  cases items with
  | nil => cases failed
  | cons item items =>
      rcases bind_error_cases failed with first | ⟨a, -, rest⟩
      · exact everyValue_error first
      · rcases bind_error_cases rest with second | ⟨b, -, impossible⟩
        · exact everyItem_error second
        · cases impossible

end

theorem rest_error {g : Grammar} {p : Phrase} {ts : List Token} (derived : Derives g p ts)
    {err : ConditionError} : match p with
      | .orRest left e | .andRest left e =>
          left.everyValue state = .error err → e.everyValue state = .error err
      | _ => True := by
  induction derived with
  | orEnd => exact id
  | andEnd => exact id
  | orMore _ _ _ ih =>
      intro failed
      apply ih
      rw [Expr.everyValue, failed]
      rfl
  | andMore _ _ _ ih =>
      intro failed
      apply ih
      rw [Expr.everyValue, failed]
      rfl
  | _ => trivial

theorem readOrRest_error {fuel : Nat} {left e : Expr} {tokens after : List Token}
    {err : ConditionError} (read : readOrRest fuel left tokens = .ok (e, after))
    (failed : left.everyValue state = .error err) : e.everyValue state = .error err := by
  have found := (sound fuel).orRest left tokens
  rw [read] at found
  obtain ⟨ts, -, derived⟩ := found
  exact rest_error derived failed

theorem readAndRest_error {fuel : Nat} {left e : Expr} {tokens after : List Token}
    {err : ConditionError} (read : readAndRest fuel left tokens = .ok (e, after))
    (failed : left.everyValue state = .error err) : e.everyValue state = .error err := by
  have found := (sound fuel).andRest left tokens
  rw [read] at found
  obtain ⟨ts, -, derived⟩ := found
  exact rest_error derived failed

end

/-! ### The parser evaluates what is read -/

/-- The parser's result is the value of what the reader reads. Where the reader fails the parser
does, unless a comparison has failed before. -/
def Evaluates {α β : Type} (eval : α → Except ConditionError β)
    (parsed : Except ConditionError (β × List Token)) :
    Except ConditionError (α × List Token) → Prop
  | .ok (a, rest) => parsed = (eval a).map (·, rest)
  | .error err => parsed = .error err ∨ ∃ message, parsed = .error (.type message)

section

variable {α β γ δ : Type} {eval : α → Except ConditionError β} {eval' : γ → Except ConditionError δ}

theorem Evaluates.bind {parsed : Except ConditionError (β × List Token)}
    {tree : Except ConditionError (α × List Token)}
    {k : β × List Token → Except ConditionError (δ × List Token)}
    {k' : α × List Token → Except ConditionError (γ × List Token)}
    (one : Evaluates eval parsed tree)
    (types : ∀ a err, eval a = .error err → ∃ message, err = .type message)
    (two : ∀ a b rest, tree = .ok (a, rest) → eval a = .ok b →
      Evaluates eval' (k (b, rest)) (k' (a, rest)))
    (strict : ∀ a err rest c after, tree = .ok (a, rest) → eval a = .error err →
      k' (a, rest) = .ok (c, after) → eval' c = .error err) :
    Evaluates eval' (parsed >>= k) (tree >>= k') := by
  cases tree with
  | error err =>
      rcases one with same | ⟨message, failed⟩
      · rw [same]
        exact .inl rfl
      · rw [failed]
        exact .inr ⟨message, rfl⟩
  | ok read =>
      obtain ⟨a, rest⟩ := read
      cases value : eval a with
      | ok b =>
          obtain rfl : parsed = .ok (b, rest) := by
            rw [show parsed = (eval a).map (·, rest) from one, value]
            rfl
          exact two a b rest rfl value
      | error err =>
          obtain rfl : parsed = .error err := by
            rw [show parsed = (eval a).map (·, rest) from one, value]
            rfl
          obtain ⟨message, rfl⟩ := types a err value
          show Evaluates eval' (.error (.type message)) (k' (a, rest))
          cases next : k' (a, rest) with
          | error err => exact .inr ⟨message, rfl⟩
          | ok read =>
              show _ = (eval' read.1).map _
              rw [strict a _ rest read.1 read.2 rfl value next]
              rfl

end

/-- The functions of the parser and the readers with the same fuel. -/
structure Simulates (state : State) (fuel : Nat) : Prop where
  or : ∀ tokens,
    Evaluates (Expr.everyValue state) (orExpr fuel state tokens) (readOr fuel tokens)
  orRest : ∀ left v tokens, left.everyValue state = .ok v →
    Evaluates (Expr.everyValue state) (orRest fuel state v tokens) (readOrRest fuel left tokens)
  and : ∀ tokens,
    Evaluates (Expr.everyValue state) (andExpr fuel state tokens) (readAnd fuel tokens)
  andRest : ∀ left v tokens, left.everyValue state = .ok v →
    Evaluates (Expr.everyValue state) (andRest fuel state v tokens) (readAndRest fuel left tokens)
  not : ∀ tokens,
    Evaluates (Expr.everyValue state) (notExpr fuel state tokens) (readNot fuel tokens)
  compare : ∀ tokens,
    Evaluates (Expr.everyValue state) (compare fuel state tokens) (readCompare fuel tokens)
  primary : ∀ tokens,
    Evaluates (Expr.everyValue state) (primary fuel state tokens) (readPrimary fuel tokens)
  list : ∀ tokens, Evaluates (everyItem state) (listExpr fuel state tokens) (readList fuel tokens)
  items : ∀ tokens,
    Evaluates (everyItem state) (listRest fuel state tokens) (readItems fuel tokens)

section

variable {state : State} {fuel : Nat} (ih : ∀ less, fuel = less + 1 → Simulates state less)
include ih

theorem simulates_or (tokens : List Token) :
    Evaluates (Expr.everyValue state) (orExpr fuel state tokens) (readOr fuel tokens) := by
  cases fuel with
  | zero => exact .inl rfl
  | succ less =>
      rw [orExpr, readOr]
      apply ((ih less rfl).and tokens).bind fun _ _ => everyValue_error
      · intro left v rest _ value
        exact (ih less rfl).orRest left v rest value
      · intro left err rest e after _ failed read
        exact readOrRest_error read failed

theorem simulates_orRest (left : Expr) (v : Value) (tokens : List Token)
    (value : left.everyValue state = .ok v) :
    Evaluates (Expr.everyValue state) (orRest fuel state v tokens)
      (readOrRest fuel left tokens) := by
  rw [orRest.eq_def, readOrRest.eq_def]
  split
  · next less tokens =>
      dsimp only
      apply ((ih less rfl).and tokens).bind fun _ _ => everyValue_error
      · intro right u rest _ value'
        apply (ih less rfl).orRest
        rw [Expr.everyValue, value, value']
        rfl
      · intro right err rest e after _ failed read
        apply readOrRest_error read
        rw [Expr.everyValue, value, failed]
        rfl
  · exact .inl rfl
  · next more none =>
      split
      · exact absurd rfl (more _ _ rfl)
      · exact absurd rfl (none _ rfl)
      · show Except.ok (v, tokens) = (left.everyValue state).map _
        rw [value]
        rfl

theorem simulates_and (tokens : List Token) :
    Evaluates (Expr.everyValue state) (andExpr fuel state tokens) (readAnd fuel tokens) := by
  cases fuel with
  | zero => exact .inl rfl
  | succ less =>
      rw [andExpr, readAnd]
      apply ((ih less rfl).not tokens).bind fun _ _ => everyValue_error
      · intro left v rest _ value
        exact (ih less rfl).andRest left v rest value
      · intro left err rest e after _ failed read
        exact readAndRest_error read failed

theorem simulates_andRest (left : Expr) (v : Value) (tokens : List Token)
    (value : left.everyValue state = .ok v) :
    Evaluates (Expr.everyValue state) (andRest fuel state v tokens)
      (readAndRest fuel left tokens) := by
  rw [andRest.eq_def, readAndRest.eq_def]
  split
  · next less tokens =>
      dsimp only
      apply ((ih less rfl).not tokens).bind fun _ _ => everyValue_error
      · intro right u rest _ value'
        apply (ih less rfl).andRest
        rw [Expr.everyValue, value, value']
        rfl
      · intro right err rest e after _ failed read
        apply readAndRest_error read
        rw [Expr.everyValue, value, failed]
        rfl
  · exact .inl rfl
  · next more none =>
      split
      · exact absurd rfl (more _ _ rfl)
      · exact absurd rfl (none _ rfl)
      · show Except.ok (v, tokens) = (left.everyValue state).map _
        rw [value]
        rfl

theorem simulates_not (tokens : List Token) :
    Evaluates (Expr.everyValue state) (notExpr fuel state tokens) (readNot fuel tokens) := by
  rw [notExpr.eq_def, readNot.eq_def]
  split
  · exact .inl rfl
  · next less tokens =>
      dsimp only
      apply ((ih less rfl).not tokens).bind fun _ _ => everyValue_error
      · intro e v rest _ value
        show Except.ok _ = ((Expr.not e).everyValue state).map _
        rw [Expr.everyValue, value]
        rfl
      · intro e err rest e' after _ failed read
        cases read
        rw [Expr.everyValue, failed]
        rfl
  · next less plain =>
      split
      · next impossible => cases impossible
      · next impossible => exact absurd rfl (plain _)
      · next same _ =>
          cases same
          exact (ih _ rfl).compare _

theorem simulates_compare (tokens : List Token) :
    Evaluates (Expr.everyValue state) (compare fuel state tokens) (readCompare fuel tokens) := by
  cases fuel with
  | zero => exact .inl rfl
  | succ less =>
      rw [compare, readCompare]
      apply ((ih less rfl).primary tokens).bind fun _ _ => everyValue_error
      · intro left v rest _ value
        dsimp only
        split
        · next op rest _ =>
            apply ((ih less rfl).primary rest).bind fun _ _ => everyValue_error
            · intro right u rest' _ value'
              show _ = ((Expr.compare op left right).everyValue state).map _
              rw [Expr.everyValue, value, value']
              dsimp only [bind, Except.bind]
              cases compareValues op v u <;> rfl
            · intro right err rest' e after _ failed read
              cases read
              rw [Expr.everyValue, value, failed]
              rfl
        · next rest _ =>
            apply ((ih less rfl).list rest).bind fun _ _ => everyItem_error
            · intro items vs rest' _ values
              show Except.ok _ = ((Expr.isIn left items).everyValue state).map _
              rw [Expr.everyValue, value, values]
              rfl
            · intro items err rest' e after _ failed read
              cases read
              rw [Expr.everyValue, value, failed]
              rfl
        · next noOp noIn =>
            have kept : Evaluates (Expr.everyValue state) (pure (v, rest)) (pure (left, rest)) := by
              show Except.ok _ = (left.everyValue state).map _
              rw [value]
              rfl
            simpa [noOp, noIn] using kept
      · intro left err rest e after _ failed read
        dsimp only at read
        split at read
        · obtain ⟨⟨right, rest'⟩, -, made⟩ := bind_ok_iff.mp read
          cases made
          rw [Expr.everyValue, failed]
          rfl
        · obtain ⟨⟨items, rest'⟩, -, made⟩ := bind_ok_iff.mp read
          cases made
          rw [Expr.everyValue, failed]
          rfl
        · cases read
          exact failed

theorem simulates_primary (tokens : List Token) :
    Evaluates (Expr.everyValue state) (primary fuel state tokens) (readPrimary fuel tokens) := by
  cases tokens with
  | nil => cases fuel <;> exact .inl rfl
  | cons token rest =>
      cases token with
      | lparen =>
          cases fuel with
          | zero => exact .inl rfl
          | succ less =>
              rw [primary, readPrimary]
              apply ((ih less rfl).or rest).bind fun _ _ => everyValue_error
              · intro e v rest _ value
                dsimp only
                cases expect .rparen "rparen" rest with
                | error err => exact .inl rfl
                | ok rest' =>
                    show Except.ok _ = (e.everyValue state).map _
                    rw [value]
                    rfl
              · intro e err rest e' after _ failed read
                obtain ⟨rest', -, made⟩ := bind_ok_iff.mp read
                cases made
                exact failed
      | ident _ | number _ | string _ | bool _ | none _ => cases fuel <;> rfl
      | _ => cases fuel <;> exact .inl rfl

omit ih in
theorem listExpr_cons {less : Nat} {token : Token} {rest : List Token}
    (element : token ≠ .rbracket) :
    listExpr (less + 1) state (.lbracket :: token :: rest) = (do
      let (item, rest) ← primary less state (token :: rest)
      let (items, rest) ← listRest less state rest
      let rest ← expect .rbracket "rbracket" rest
      return (item :: items, rest)) := by
  cases token with
  | rbracket => exact absurd rfl element
  | _ => rfl

omit ih in
theorem readList_cons {less : Nat} {token : Token} {rest : List Token}
    (element : token ≠ .rbracket) :
    readList (less + 1) (.lbracket :: token :: rest) = (do
      let (e, rest) ← readPrimary less (token :: rest)
      let (items, rest) ← readItems less rest
      let rest ← expect .rbracket "rbracket" rest
      return (e :: items, rest)) := by
  cases token with
  | rbracket => exact absurd rfl element
  | _ => rfl

theorem simulates_list (tokens : List Token) :
    Evaluates (everyItem state) (listExpr fuel state tokens) (readList fuel tokens) := by
  cases fuel with
  | zero => exact .inl rfl
  | succ less =>
      cases opened : expect .lbracket "lbracket" tokens with
      | error err =>
          rw [listExpr, readList, opened]
          exact .inl rfl
      | ok rest =>
          rw [expect_ok opened]
          cases rest with
          | nil => exact .inl rfl
          | cons token rest =>
              by_cases closed : token = .rbracket
              · rw [closed]
                rfl
              · rw [listExpr_cons closed, readList_cons closed]
                apply ((ih less rfl).primary (token :: rest)).bind fun _ _ => everyValue_error
                · intro e v rest _ value
                  apply ((ih less rfl).items rest).bind fun _ _ => everyItem_error
                  · intro items vs rest' _ values
                    dsimp only
                    cases expect .rbracket "rbracket" rest' with
                    | error err => exact .inl rfl
                    | ok after =>
                        show Except.ok _ = (everyItem state (e :: items)).map _
                        rw [everyItem, value, values]
                        rfl
                  · intro items err rest' items' after _ failed read
                    obtain ⟨rest'', -, made⟩ := bind_ok_iff.mp read
                    cases made
                    rw [everyItem, value, failed]
                    rfl
                · intro e err rest items after _ failed read
                  obtain ⟨⟨others, rest'⟩, -, more⟩ := bind_ok_iff.mp read
                  obtain ⟨rest'', -, made⟩ := bind_ok_iff.mp more
                  cases made
                  rw [everyItem, failed]
                  rfl

theorem simulates_items (tokens : List Token) :
    Evaluates (everyItem state) (listRest fuel state tokens) (readItems fuel tokens) := by
  rw [listRest.eq_def, readItems.eq_def]
  split
  · next less tokens =>
      dsimp only
      apply ((ih less rfl).primary tokens).bind fun _ _ => everyValue_error
      · intro e v rest _ value
        apply ((ih less rfl).items rest).bind fun _ _ => everyItem_error
        · intro items vs rest' _ values
          show Except.ok _ = (everyItem state (e :: items)).map _
          rw [everyItem, value, values]
          rfl
        · intro items err rest' items' after _ failed read
          cases read
          rw [everyItem, value, failed]
          rfl
      · intro e err rest items after _ failed read
        obtain ⟨⟨others, rest'⟩, -, made⟩ := bind_ok_iff.mp read
        cases made
        rw [everyItem, failed]
        rfl
  · exact .inl rfl
  · next more none =>
      split
      · exact absurd rfl (more _ _ rfl)
      · exact absurd rfl (none _ rfl)
      · rfl

theorem simulates_step : Simulates state fuel :=
  { or := simulates_or ih
    orRest := simulates_orRest ih
    and := simulates_and ih
    andRest := simulates_andRest ih
    not := simulates_not ih
    compare := simulates_compare ih
    primary := simulates_primary ih
    list := simulates_list ih
    items := simulates_items ih }

end

theorem simulates (state : State) (fuel : Nat) : Simulates state fuel := by
  induction fuel with
  | zero => exact simulates_step fun less equal => nomatch equal
  | succ fuel ih =>
      apply simulates_step
      intro less equal
      cases equal
      exact ih

theorem parse_spec (state : State) (tokens : List Token) :
    match read tokens with
      | .ok e => parse state tokens = (e.everyValue state).map Value.truthy
      | .error err => parse state tokens = .error err ∨
          ∃ message, parse state tokens = .error (.type message) := by
  have parsed := (simulates state (6 * (tokens.length + 1))).or tokens
  rw [read, parse]
  cases result : readOr (6 * (tokens.length + 1)) tokens with
  | error err =>
      rw [result] at parsed
      rcases parsed with same | ⟨message, failed⟩
      · rw [same]
        exact .inl rfl
      · rw [failed]
        exact .inr ⟨message, rfl⟩
  | ok pair =>
      obtain ⟨e, rest⟩ := pair
      rw [result] at parsed
      rw [show orExpr _ state tokens = (e.everyValue state).map (·, rest) from parsed]
      cases value : e.everyValue state with
      | ok v => cases rest with
        | nil =>
            show _ = (e.everyValue state).map Value.truthy
            rw [value]
            rfl
        | cons token rest => exact .inl rfl
      | error err => cases rest with
        | nil =>
            show _ = (e.everyValue state).map Value.truthy
            rw [value]
            rfl
        | cons token rest =>
            obtain ⟨message, rfl⟩ := everyValue_error value
            exact .inr ⟨message, rfl⟩

theorem parse_of_derives {g : Grammar} {e : Expr} {tokens : List Token}
    (derived : Derives g (.or e) tokens) (state : State) :
    parse state tokens = (e.everyValue state).map Value.truthy := by
  have spec := parse_spec state tokens
  rw [read_iff.mpr derived.accepts] at spec
  exact spec

/-! ### Guarded conditions -/

def guarded : String := "state.x == None or state.x > 5"

def guardedTokens : List Token :=
  [.ident "x", .op .eq, .none "None", .keyword .or, .ident "x", .op .gt, .number "5"]

def guardedExpr : Expr :=
  .or (.compare .eq (.ref "x") (.literal (.none "None")))
    (.compare .gt (.ref "x") (.literal (.number "5")))

theorem guarded_derived : Derives .documented (.or guardedExpr) guardedTokens := by
  have left : Derives .documented (.and (.compare .eq (.ref "x") (.literal (.none "None"))))
      ([.ident "x"] ++ .op .eq :: [Literal.token (.none "None")] ++ []) :=
    .and (.plain (.compare .ref .literal)) .andEnd
  have right : Derives .documented (.and (.compare .gt (.ref "x") (.literal (.number "5"))))
      ([.ident "x"] ++ .op .gt :: [Literal.token (.number "5")] ++ []) :=
    .and (.plain (.compare .ref .literal)) .andEnd
  exact .or left (.orMore right .orEnd)

end SyndicateClaw.Orchestrator.Condition
