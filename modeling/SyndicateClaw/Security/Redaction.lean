import SyndicateClaw.Orchestrator.Value

/-! Redaction of a run's state before it is shown. -/

namespace SyndicateClaw.Security

open Orchestrator

/-! ### Patterns -/

/-- A part of a pattern: a letter in either case, or one of some characters that may be left out. -/
inductive Piece where
  | letter (c : Char)
  | optional (chars : List Char)

/-- The letter that a character stands for where case is ignored. Besides the capitals, these are
the dotted and the dotless i, the sign for kelvin and the long s. -/
def caseless (c : Char) : Char :=
  if c = '\u0130' ∨ c = '\u0131' then 'i'
  else if c = '\u212a' then 'k'
  else if c = '\u017f' then 's'
  else c.toLower

def Piece.matchesFrom : List Piece → List Char → Bool
  | [], _ => true
  | .letter c :: pieces, x :: text => caseless x = c && matchesFrom pieces text
  | .letter _ :: _, [] => false
  | .optional chars :: pieces, x :: text =>
      (chars.contains x && matchesFrom pieces text) || matchesFrom pieces (x :: text)
  | .optional _ :: pieces, [] => matchesFrom pieces []

/-- `pattern.search(text)`. -/
def Piece.search (pieces : List Piece) : List Char → Bool
  | [] => matchesFrom pieces []
  | x :: text => matchesFrom pieces (x :: text) || search pieces text

/-- A compiled pattern: the texts in which it is found. -/
abbrev Pattern := String → Bool

private def word (text : String) : List Piece := text.toList.map .letter

private def found (pieces : List Piece) : Pattern := fun text => Piece.search pieces text.toList

def SENSITIVE_PATTERNS : List Pattern :=
  [found (word "password"), found (word "secret"), found (word "token"),
    found (word "api" ++ [.optional ['_', '-']] ++ word "key"), found (word "credential"),
    found (word "private" ++ [.optional ['_', '-']] ++ word "key"), found (word "auth"),
    found (word "ssn"), found (word "credit" ++ [.optional ['_', '-']] ++ word "card"),
    found (word "cvv")]

def REDACTED : String := "[REDACTED]"

def isSensitiveKey (key : String) (patterns : List Pattern) : Bool := patterns.any fun p => p key

/-! ### Redaction -/

/-- `f"{path}.{key}" if path else key`. -/
def fullPath (path key : String) : String := if path = "" then key else path ++ "." ++ key

/-- `f"{path}[{i}]"`. -/
def itemPath (path : String) (i : Nat) : String := path ++ "[" ++ toString i ++ "]"

/-- `key in allowlist or full_path in allowlist`. -/
def allows (allowlist : List String) (path key : String) : Bool :=
  allowlist.contains key || allowlist.contains (fullPath path key)

section

variable (patterns : List Pattern) (allowlist : List String)

mutual

/-- `_redact_recursive`: the object as the call leaves it. -/
def redactRecursive : Value → String → Value
  | .dict entries, path => .dict (redactEntries entries path)
  | .list items, path => .list (redactItems items path 0)
  | value, _ => value

def redactEntries : List (String × Value) → String → List (String × Value)
  | [], _ => []
  | (key, value) :: entries, path =>
      (key,
        if allows allowlist path key then value
        else if isSensitiveKey key patterns then .str REDACTED
        else redactRecursive value (fullPath path key)) :: redactEntries entries path

def redactItems : List Value → String → Nat → List Value
  | [], _, _ => []
  | item :: items, path, i =>
      redactRecursive item (itemPath path i) :: redactItems items path (i + 1)

end

end

/-- The states in memory, by number. No two of them share a part. -/
abbrev Objects := List Value

/-- `copy.deepcopy(state)`. -/
def deepcopy (state : Nat) (objects : Objects) : Option (Objects × Nat) :=
  objects[state]?.map fun value => (objects ++ [value], objects.length)

/-- `redact_state`, with the new object's number; none where a pattern does not compile. -/
def redactState (compile : String → Option Pattern) (state : Nat)
    (extraPatterns allowlist : Option (List String)) (objects : Objects) :
    Option (Objects × Nat) := do
  let extra ← (extraPatterns.getD []).mapM compile
  let (objects, result) ← deepcopy state objects
  let redact value :=
    redactRecursive (SENSITIVE_PATTERNS ++ extra) (allowlist.getD []) value ""
  return (objects.modify result redact, result)

/-- `WorkflowRunResponse.from_orm_redacted`, as to the state. -/
def fromOrmRedacted (state : Nat) (objects : Objects) : Option (Objects × Nat) :=
  redactState (fun _ => none) state none
    (some ["_run_id", "_started_at", "_completed_at", "_decision"]) objects

/-! ### Places in a state -/

inductive Step where
  | key (name : String)
  | index (i : Nat)

def child : Value → Step → Option Value
  | .dict entries, .key name => Dict.get? entries name
  | .list items, .index i => items[i]?
  | _, _ => none

def at? (value : Value) : List Step → Option Value
  | [] => some value
  | step :: place => (child value step).bind fun part => at? part place

def Step.extend (path : String) : Step → String
  | .key name => fullPath path name
  | .index i => itemPath path i

def lastKey (path : String) : List Step → Option (String × String)
  | [] => none
  | [.key name] => some (path, name)
  | [.index _] => none
  | step :: place => lastKey (step.extend path) place

section

variable (patterns : List Pattern) (allowlist : List String) (path : String)

/-- The place is a field that is allow-listed, by its name or by its full path. -/
def AllowListed (place : List Step) : Prop :=
  ∃ holder name, lastKey path place = some (holder, name) ∧ allows allowlist holder name

def Sensitive (place : List Step) : Prop :=
  ∃ holder name, lastKey path place = some (holder, name) ∧ isSensitiveKey name patterns

/-- The place is a sensitive field; neither it nor a field it lies in is allow-listed. -/
def Hidden (place : List Step) : Prop :=
  Sensitive patterns path place ∧ ∀ above, above <+: place → ¬ AllowListed allowlist path above

def Shown (place : List Step) : Prop :=
  ∀ above, above <+: place → ¬ Hidden patterns allowlist path above

end

def SameOutline : Value → Value → Prop
  | .dict entries, .dict others => entries.map Prod.fst = others.map Prod.fst
  | .list items, .list others => items.length = others.length
  | value, other => value = other

/-- Hidden fields hold the marker, what is shown keeps its outline, what lies in an allow-listed
field is as it was, and nothing is added. -/
structure Redacts (patterns : List Pattern) (allowlist : List String) (state redacted : Value) :
    Prop where
  marked : ∀ place value, at? redacted place = some value → Hidden patterns allowlist "" place →
    value = .str REDACTED
  covered : ∀ place value, at? state place = some value → ¬ Shown patterns allowlist "" place →
    ∃ above, above <+: place ∧ Hidden patterns allowlist "" above ∧
      at? redacted above = some (.str REDACTED)
  kept : ∀ place value, at? state place = some value → Shown patterns allowlist "" place →
    ∃ value', at? redacted place = some value' ∧ SameOutline value value'
  exempt : ∀ place above, above <+: place → AllowListed allowlist "" above →
    Shown patterns allowlist "" place → at? redacted place = at? state place
  nothingAdded : ∀ place, (at? redacted place).isSome → (at? state place).isSome

section

variable {patterns : List Pattern} {allowlist : List String} {path : String}

/-! ### One step into a state -/

variable (patterns allowlist path) in
def Step.treated (part : Value) : Step → Value
  | .key name =>
      if allows allowlist path name then part
      else if isSensitiveKey name patterns then .str REDACTED
      else redactRecursive patterns allowlist part (fullPath path name)
  | .index i => redactRecursive patterns allowlist part (itemPath path i)

theorem redactEntries_eq_map (entries : List (String × Value)) :
    redactEntries patterns allowlist entries path = entries.map fun entry =>
      (entry.1, (Step.key entry.1).treated patterns allowlist path entry.2) := by
  induction entries with
  | nil => rfl
  | cons entry entries ih => rw [redactEntries, ih, List.map_cons, Step.treated]

theorem redactItems_get? (items : List Value) (start i : Nat) :
    (redactItems patterns allowlist items path start)[i]? = items[i]?.map fun item =>
      redactRecursive patterns allowlist item (itemPath path (start + i)) := by
  induction items generalizing start i with
  | nil => rfl
  | cons item items ih =>
      cases i with
      | zero => rfl
      | succ i =>
          rw [redactItems, List.getElem?_cons_succ, List.getElem?_cons_succ, ih,
            Nat.add_right_comm, Nat.add_assoc]

theorem redactItems_length (items : List Value) (start : Nat) :
    (redactItems patterns allowlist items path start).length = items.length := by
  induction items generalizing start with
  | nil => rfl
  | cons item items ih => rw [redactItems, List.length_cons, List.length_cons, ih]

theorem child_redactRecursive (value : Value) (step : Step) :
    child (redactRecursive patterns allowlist value path) step =
      (child value step).map fun part => step.treated patterns allowlist path part := by
  cases value with
  | dict entries =>
      cases step with
      | key name =>
          show Dict.get? (redactEntries patterns allowlist entries path) name = _
          rw [redactEntries_eq_map, Dict.get?_map_value
            fun key value => (Step.key key).treated patterns allowlist path value]
          rfl
      | index i => rfl
  | list items =>
      cases step with
      | key name => rfl
      | index i =>
          show (redactItems patterns allowlist items path 0)[i]? = _
          rw [redactItems_get?, Nat.zero_add]
          rfl
  | _ => cases step <;> rfl

theorem at?_redact_cons (value : Value) (step : Step) (place : List Step) :
    at? (redactRecursive patterns allowlist value path) (step :: place) =
      (child value step).bind fun part =>
        at? (step.treated patterns allowlist path part) place := by
  rw [at?, child_redactRecursive, Option.bind_map]
  rfl

theorem at?_str (text : String) (step : Step) (place : List Step) :
    at? (.str text) (step :: place) = none := by
  cases step <;> rfl

theorem outline_redactRecursive (value : Value) :
    SameOutline value (redactRecursive patterns allowlist value path) := by
  cases value with
  | dict entries =>
      show entries.map Prod.fst = (redactEntries patterns allowlist entries path).map Prod.fst
      rw [redactEntries_eq_map, List.map_map]
      rfl
  | list items => exact (redactItems_length items 0).symm
  | _ => rfl

theorem SameOutline.refl (value : Value) : SameOutline value value := by
  cases value <;> rfl

/-! ### What lies under one step -/

theorem lastKey_cons (step next : Step) (place : List Step) :
    lastKey path (step :: next :: place) = lastKey (step.extend path) (next :: place) := by
  cases step <;> rfl

theorem not_allowListed_nil : ¬ AllowListed allowlist path [] := by simp [AllowListed, lastKey]

theorem not_sensitive_nil : ¬ Sensitive patterns path [] := by simp [Sensitive, lastKey]

theorem allowListed_cons {step : Step} (open' : ¬ AllowListed allowlist path [step])
    (place : List Step) :
    AllowListed allowlist path (step :: place) ↔ AllowListed allowlist (step.extend path) place := by
  cases place with
  | nil => exact iff_of_false open' not_allowListed_nil
  | cons next place => rw [AllowListed, lastKey_cons, AllowListed]

theorem sensitive_cons {step : Step} (plain : ¬ Sensitive patterns path [step])
    (place : List Step) :
    Sensitive patterns path (step :: place) ↔ Sensitive patterns (step.extend path) place := by
  cases place with
  | nil => exact iff_of_false plain not_sensitive_nil
  | cons next place => rw [Sensitive, lastKey_cons, Sensitive]

theorem shown_nil : Shown patterns allowlist path [] := fun above before hidden => by
  rw [List.prefix_nil.mp before] at hidden
  exact not_sensitive_nil hidden.1

private theorem forall_prefix_cons {p : List Step → Prop} (empty : p []) (step : Step)
    (place : List Step) :
    (∀ above, above <+: step :: place → p above) ↔ ∀ above, above <+: place → p (step :: above) := by
  constructor
  · intro all above before
    exact all _ ((List.prefix_cons_inj step).mpr before)
  · intro all above before
    cases above with
    | nil => exact empty
    | cons first above =>
        obtain ⟨rfl, within⟩ := List.cons_prefix_cons.mp before
        exact all above within

theorem hidden_cons {step : Step} (open' : ¬ AllowListed allowlist path [step])
    (plain : ¬ Sensitive patterns path [step]) (place : List Step) :
    Hidden patterns allowlist path (step :: place) ↔
      Hidden patterns allowlist (step.extend path) place := by
  unfold Hidden
  rw [sensitive_cons plain, forall_prefix_cons not_allowListed_nil]
  simp only [allowListed_cons open']

theorem shown_cons {step : Step} (open' : ¬ AllowListed allowlist path [step])
    (plain : ¬ Sensitive patterns path [step]) (place : List Step) :
    Shown patterns allowlist path (step :: place) ↔
      Shown patterns allowlist (step.extend path) place := by
  unfold Shown
  rw [forall_prefix_cons fun hidden => not_sensitive_nil hidden.1]
  simp only [hidden_cons open' plain]

theorem not_hidden_of_allowListed {step : Step} (exempt : AllowListed allowlist path [step])
    (place : List Step) : ¬ Hidden patterns allowlist path (step :: place) := fun hidden =>
  hidden.2 [step] ⟨place, rfl⟩ exempt

theorem hidden_single {step : Step} (open' : ¬ AllowListed allowlist path [step])
    (sensitive : Sensitive patterns path [step]) : Hidden patterns allowlist path [step] := by
  refine ⟨sensitive, (forall_prefix_cons not_allowListed_nil step []).mpr fun above before => ?_⟩
  rwa [List.prefix_nil.mp before]

theorem shown_of_allowListed {step : Step} (exempt : AllowListed allowlist path [step])
    (place : List Step) : Shown patterns allowlist path (step :: place) :=
  (forall_prefix_cons (fun hidden => not_sensitive_nil hidden.1) step place).mpr
    fun above _ => not_hidden_of_allowListed exempt above

theorem Step.treated_cases (step : Step) :
    (AllowListed allowlist path [step] ∧
      ∀ part, step.treated patterns allowlist path part = part) ∨
    (¬ AllowListed allowlist path [step] ∧ Sensitive patterns path [step] ∧
      ∀ part, step.treated patterns allowlist path part = .str REDACTED) ∨
    (¬ AllowListed allowlist path [step] ∧ ¬ Sensitive patterns path [step] ∧
      ∀ part, step.treated patterns allowlist path part =
        redactRecursive patterns allowlist part (step.extend path)) := by
  cases step with
  | index i => exact .inr (.inr ⟨by simp [AllowListed, lastKey], by simp [Sensitive, lastKey],
      fun _ => rfl⟩)
  | key name =>
      have allowed : AllowListed allowlist path [.key name] ↔ allows allowlist path name := by
        simp [AllowListed, lastKey]
      have sensitive : Sensitive patterns path [.key name] ↔ isSensitiveKey name patterns := by
        simp [Sensitive, lastKey]
      simp only [allowed, sensitive, Step.treated, Step.extend]
      by_cases exempt : allows allowlist path name
      · exact .inl ⟨exempt, fun _ => if_pos exempt⟩
      · by_cases hides : isSensitiveKey name patterns
        · exact .inr (.inl ⟨exempt, hides, fun _ => by rw [if_neg exempt, if_pos hides]⟩)
        · exact .inr (.inr ⟨exempt, hides, fun _ => by rw [if_neg exempt, if_neg hides]⟩)

/-! ### Every place -/

theorem marked_redactRecursive {place : List Step} {value found : Value}
    (holds : at? (redactRecursive patterns allowlist value path) place = some found)
    (hidden : Hidden patterns allowlist path place) : found = .str REDACTED := by
  induction place generalizing value path with
  | nil => exact absurd hidden.1 not_sensitive_nil
  | cons step place ih =>
      rw [at?_redact_cons] at holds
      obtain ⟨part, -, holds⟩ := Option.bind_eq_some_iff.mp holds
      obtain ⟨exempt, -⟩ | ⟨-, -, becomes⟩ | ⟨open', plain, becomes⟩ :=
        @Step.treated_cases patterns allowlist path step
      · exact absurd hidden (not_hidden_of_allowListed exempt place)
      · rw [becomes] at holds
        cases place with
        | nil => exact (Option.some.inj holds).symm
        | cons next place => rw [at?_str] at holds; cases holds
      · rw [becomes] at holds
        exact ih holds ((hidden_cons open' plain place).mp hidden)

theorem covered_redactRecursive {place : List Step} {value found : Value}
    (holds : at? value place = some found) (covered : ¬ Shown patterns allowlist path place) :
    ∃ above, above <+: place ∧ Hidden patterns allowlist path above ∧
      at? (redactRecursive patterns allowlist value path) above = some (.str REDACTED) := by
  induction place generalizing value path with
  | nil => exact absurd shown_nil covered
  | cons step place ih =>
      obtain ⟨part, has, holds⟩ := Option.bind_eq_some_iff.mp holds
      obtain ⟨exempt, -⟩ | ⟨open', sensitive, becomes⟩ | ⟨open', plain, becomes⟩ :=
        @Step.treated_cases patterns allowlist path step
      · exact absurd (shown_of_allowListed exempt place) covered
      · refine ⟨[step], ⟨place, rfl⟩, hidden_single open' sensitive, ?_⟩
        rw [at?_redact_cons, has, Option.bind_some, becomes]
        rfl
      · obtain ⟨above, before, hidden, marker⟩ :=
          ih holds fun shown => covered ((shown_cons open' plain place).mpr shown)
        refine ⟨step :: above, (List.prefix_cons_inj step).mpr before,
          (hidden_cons open' plain above).mpr hidden, ?_⟩
        rwa [at?_redact_cons, has, Option.bind_some, becomes]

theorem kept_redactRecursive {place : List Step} {value found : Value}
    (holds : at? value place = some found) (shown : Shown patterns allowlist path place) :
    ∃ found', at? (redactRecursive patterns allowlist value path) place = some found' ∧
      SameOutline found found' := by
  induction place generalizing value path with
  | nil =>
      obtain rfl := Option.some.inj holds
      exact ⟨_, rfl, outline_redactRecursive value⟩
  | cons step place ih =>
      obtain ⟨part, has, holds⟩ := Option.bind_eq_some_iff.mp holds
      rw [at?_redact_cons, has, Option.bind_some]
      obtain ⟨-, stays⟩ | ⟨open', sensitive, -⟩ | ⟨open', plain, becomes⟩ :=
        @Step.treated_cases patterns allowlist path step
      · exact ⟨found, by rw [stays, holds], .refl found⟩
      · exact absurd (hidden_single open' sensitive) (shown [step] ⟨place, rfl⟩)
      · rw [becomes]
        exact ih holds ((shown_cons open' plain place).mp shown)

theorem exempt_redactRecursive {place above : List Step} {value : Value}
    (within : above <+: place) (exempt : AllowListed allowlist path above)
    (shown : Shown patterns allowlist path place) :
    at? (redactRecursive patterns allowlist value path) place = at? value place := by
  induction place generalizing value path above with
  | nil =>
      rw [List.prefix_nil.mp within] at exempt
      exact absurd exempt not_allowListed_nil
  | cons step place ih =>
      rw [at?_redact_cons, at?]
      refine Option.bind_congr fun part _ => ?_
      obtain ⟨-, stays⟩ | ⟨open', sensitive, -⟩ | ⟨open', plain, becomes⟩ :=
        @Step.treated_cases patterns allowlist path step
      · rw [stays]
      · exact absurd (hidden_single open' sensitive) (shown [step] ⟨place, rfl⟩)
      · rw [becomes]
        cases above with
        | nil => exact absurd exempt not_allowListed_nil
        | cons first above =>
            obtain ⟨rfl, inner⟩ := List.cons_prefix_cons.mp within
            exact ih inner ((allowListed_cons open' above).mp exempt)
              ((shown_cons open' plain place).mp shown)

theorem nothingAdded_redactRecursive {place : List Step} {value : Value}
    (holds : (at? (redactRecursive patterns allowlist value path) place).isSome) :
    (at? value place).isSome := by
  induction place generalizing value path with
  | nil => rfl
  | cons step place ih =>
      rw [at?_redact_cons] at holds
      cases has : child value step with
      | none => simp [has] at holds
      | some part =>
          rw [has, Option.bind_some] at holds
          rw [at?, has, Option.bind_some]
          obtain ⟨-, stays⟩ | ⟨-, -, becomes⟩ | ⟨-, -, becomes⟩ :=
            @Step.treated_cases patterns allowlist path step
          · rwa [stays] at holds
          · rw [becomes] at holds
            cases place with
            | nil => rfl
            | cons next place => rw [at?_str] at holds; cases holds
          · rw [becomes] at holds
            exact ih holds

theorem redacts_redactRecursive (state : Value) :
    Redacts patterns allowlist state (redactRecursive patterns allowlist state "") where
  marked _ _ := marked_redactRecursive
  covered _ _ := covered_redactRecursive
  kept _ _ := kept_redactRecursive
  exempt _ _ := exempt_redactRecursive
  nothingAdded _ := nothingAdded_redactRecursive

/-! ### Redacting again -/

mutual

theorem redactRecursive_again : ∀ (value : Value) (path : String),
    redactRecursive patterns allowlist (redactRecursive patterns allowlist value path) path =
      redactRecursive patterns allowlist value path
  | .dict entries, path => congrArg Value.dict (redactEntries_again entries path)
  | .list items, path => congrArg Value.list (redactItems_again items path 0)
  | .none, _ | .bool _, _ | .int _, _ | .float _ _, _ | .str _, _ | .object _, _ => rfl

theorem redactEntries_again : ∀ (entries : List (String × Value)) (path : String),
    redactEntries patterns allowlist (redactEntries patterns allowlist entries path) path =
      redactEntries patterns allowlist entries path
  | [], _ => rfl
  | (key, value) :: entries, path => by
      simp only [redactEntries, redactEntries_again entries path, List.cons.injEq, Prod.mk.injEq,
        true_and, and_true]
      split
      · rfl
      · split
        · rfl
        · exact redactRecursive_again value (fullPath path key)

theorem redactItems_again : ∀ (items : List Value) (path : String) (i : Nat),
    redactItems patterns allowlist (redactItems patterns allowlist items path i) path i =
      redactItems patterns allowlist items path i
  | [], _, _ => rfl
  | item :: items, path, i => by
      rw [redactItems, redactItems, redactItems_again items path (i + 1),
        redactRecursive_again item (itemPath path i)]

end

end

/-! ### The state in memory -/

theorem redactState_eq {compile : String → Option Pattern}
    {extraPatterns allowlist : Option (List String)} {extra : List Pattern} {objects : Objects} {state : Nat} {value : Value}
    (compiles : (extraPatterns.getD []).mapM compile = some extra)
    (stands : objects[state]? = some value) :
    redactState compile state extraPatterns allowlist objects =
      some (objects ++ [redactRecursive (SENSITIVE_PATTERNS ++ extra) (allowlist.getD []) value ""],
        objects.length) := by
  simp [redactState, deepcopy, compiles, stands, List.modify_eq_take_cons_drop]

/-- The states in memory stay as they are, the new one is redacted but for what stands in an
allow-listed field, and redacting it again gives the same. -/
theorem redacted_outside_allowListed {compile : String → Option Pattern}
    {extraPatterns allowlist : Option (List String)} {extra : List Pattern} {objects : Objects}
    {state : Nat} {value : Value} (compiles : (extraPatterns.getD []).mapM compile = some extra)
    (stands : objects[state]? = some value) :
    ∃ redacted,
      redactState compile state extraPatterns allowlist objects =
        some (objects ++ [redacted], objects.length) ∧
      Redacts (SENSITIVE_PATTERNS ++ extra) (allowlist.getD []) value redacted ∧
      redactState compile objects.length extraPatterns allowlist (objects ++ [redacted]) =
        some (objects ++ [redacted] ++ [redacted], (objects ++ [redacted]).length) := by
  refine ⟨_, redactState_eq compiles stands, redacts_redactRecursive value, ?_⟩
  have again := @redactRecursive_again (SENSITIVE_PATTERNS ++ extra) (allowlist.getD []) value ""
  rw [redactState_eq compiles (List.getElem?_concat_length ..), again]

private def decided : Value := .dict [("_decision", .dict [("password", .str "hunter2")])]

theorem redacted_decided : ∃ redacted,
    redactState (fun _ => none) 0 none (some ["_decision"]) [decided] =
      some ([decided] ++ [redacted], 1) ∧
    Redacts (SENSITIVE_PATTERNS ++ []) ["_decision"] decided redacted ∧
    redactState (fun _ => none) 1 none (some ["_decision"]) ([decided] ++ [redacted]) =
      some ([decided] ++ [redacted] ++ [redacted], 2) :=
  @redacted_outside_allowListed (fun _ => none) none (some ["_decision"]) [] [decided] 0 decided
    rfl rfl

/-- The password in a run's `_decision` is shown, although it is not allow-listed itself. -/
theorem password_shown : ∃ objects result,
    fromOrmRedacted 0 [decided] = some (objects, result) ∧
    ∃ redacted, objects[result]? = some redacted ∧
      at? redacted [.key "_decision", .key "password"] = some (.str "hunter2") ∧
      Sensitive SENSITIVE_PATTERNS "" [.key "_decision", .key "password"] ∧
      ¬ AllowListed ["_run_id", "_started_at", "_completed_at", "_decision"] ""
        [.key "_decision", .key "password"] := by
  refine ⟨[decided, decided], 1, ?_, decided, rfl, ?_, ⟨"_decision", "password", rfl, ?_⟩, ?_⟩
  · decide +kernel
  · decide +kernel
  · decide +kernel
  · rintro ⟨holder, name, last, allowed⟩
    obtain ⟨rfl, rfl⟩ : "_decision" = holder ∧ "password" = name := by
      simpa [lastKey, Step.extend, fullPath] using last
    revert allowed
    decide +kernel

end SyndicateClaw.Security
