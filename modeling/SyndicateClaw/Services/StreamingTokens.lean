import SyndicateClaw.Async.Crew
import SyndicateClaw.Authz.Middleware
import SyndicateClaw.Data.Keyed

/-! `StreamingTokenService`: tokens that are checked in one transaction and marked in another. -/

namespace SyndicateClaw.Services

open Async
open Authz (Time)

structure StreamingTokenRecord where
  token : String
  runId : Option String
  actor : String
  tokenType : String
  workflowId : Option String
  expiresAt : Time
  usedAt : Option Time

abbrev StreamingTokens := Keyed StreamingTokenRecord.token

inductive InvalidToken where
  | notFound
  | wrongType
  | alreadyConsumed
  | expired
  | otherRun
  deriving DecidableEq

def InvalidToken.message : InvalidToken → String
  | .notFound => "Token not found"
  | .wrongType => "Wrong token type"
  | .alreadyConsumed => "Token already consumed"
  | .expired => "Token expired"
  | .otherRun => "Token not valid for this run"

/-- The checks of `validate_and_consume` on what `get` returns. -/
def validate (record : Option StreamingTokenRecord) (runId : String) (now : Time) :
    Except InvalidToken StreamingTokenRecord :=
  match record with
  | none => .error .notFound
  | some record =>
      if record.tokenType ≠ "streaming" then .error .wrongType
      else if record.usedAt.isSome then .error .alreadyConsumed
      else if record.expiresAt < now then .error .expired
      else if record.runId ≠ some runId then .error .otherRun
      else .ok record

def StreamingTokenRecord.used (now : Time) (record : StreamingTokenRecord) : StreamingTokenRecord :=
  { record with usedAt := some now }

theorem token_used (now : Time) (record : StreamingTokenRecord) :
    (record.used now).token = record.token := rfl

/-- `mark_used` -/
def markUsed (tokens : StreamingTokens) (token : String) (now : Time) : StreamingTokens :=
  tokens.changeAt token (StreamingTokenRecord.used now) (token_used now)

/-! ### Calls and their transactions -/

/-- A call of `validate_and_consume` and how far it has come. -/
inductive TokenCall where
  | waiting (token runId : String)
  -- It has passed the checks and has not marked the token.
  | validated (token runId actor : String) (checkedAt : Time)
  | returned (token runId actor : String) (checkedAt : Time)
  | invalid (reason : InvalidToken)
  -- The call is cancelled, or the database raises.
  | failed

inductive TokenChoice where
  | get (now : Time)
  | markUsed (now : Time)
  | abandon
  deriving DecidableEq

/-- What else writes tokens. -/
inductive TokenIssue where
  | streaming (token runId actor : String) (expiresAt : Time)
  | builder (token workflowId actor : String) (expiresAt : Time)

/-- The row that `issue` inserts. -/
def TokenIssue.row : TokenIssue → StreamingTokenRecord
  | .streaming token runId actor expiresAt =>
      { token, runId := some runId, actor, tokenType := "streaming", workflowId := none, expiresAt
        usedAt := none }
  | .builder token workflowId actor expiresAt =>
      { token, runId := none, actor, tokenType := "builder", workflowId := some workflowId, expiresAt
        usedAt := none }

def issueToken (issue : TokenIssue) (tokens : StreamingTokens) : StreamingTokens :=
  tokens.insert issue.row

def TokenCall.move {ι : Type} (_ : ι) (choice : TokenChoice) (tokens : StreamingTokens) :
    TokenCall → StreamingTokens × TokenCall
  | .waiting token runId =>
      match choice with
      | .get now =>
          match validate (tokens.get? token) runId now with
          | .error reason => (tokens, .invalid reason)
          | .ok record => (tokens, .validated token runId record.actor now)
      | .markUsed _ => (tokens, .waiting token runId)
      | .abandon => (tokens, .failed)
  | .validated token runId actor checkedAt =>
      match choice with
      | .get _ => (tokens, .validated token runId actor checkedAt)
      | .markUsed now => (markUsed tokens token now, .returned token runId actor checkedAt)
      | .abandon => (tokens, .failed)
  | call => (tokens, call)

abbrev TokenDesk (ι : Type) := Crew ι StreamingTokens TokenCall

namespace TokenDesk

variable {ι : Type} [DecidableEq ι]

/-- Calls of `validate_and_consume`, none of which has begun. -/
def start (tokens : StreamingTokens) (requests : ι → String × String) : TokenDesk ι where
  shared := tokens
  phase i := .waiting (requests i).1 (requests i).2

abbrev after (desk : TokenDesk ι) (acts : List (Act ι TokenChoice TokenIssue)) (n : Nat) :
    TokenDesk ι :=
  Crew.after TokenCall.move issueToken desk acts n

end TokenDesk

/-- A token lets one call in, and a call is let in by a streaming token of its run that had not
expired when it was checked. -/
structure SingleUse {ι : Type} (desk : TokenDesk ι) : Prop where
  once : ∀ i j token runId actor checkedAt runId' actor' checkedAt',
    desk.phase i = .returned token runId actor checkedAt →
    desk.phase j = .returned token runId' actor' checkedAt' → i = j
  valid : ∀ i token runId actor checkedAt, desk.phase i = .returned token runId actor checkedAt →
    ∃ row, desk.shared.get? token = some row ∧ row.tokenType = "streaming" ∧
      row.runId = some runId ∧ row.actor = actor ∧ checkedAt ≤ row.expiresAt

/-- A call passes the checks while no other has passed them for the token and not marked it yet. -/
def ChecksAlone {ι : Type} (desk : TokenDesk ι) : Act ι TokenChoice TokenIssue → Prop
  | .own i (.get now) => ∀ token runId record, desk.phase i = .waiting token runId →
      validate (desk.shared.get? token) runId now = .ok record →
      ∀ j runId' actor checkedAt, desk.phase j ≠ .validated token runId' actor checkedAt
  | _ => True

/-- A call that has passed the checks is not broken off, and comes to the mark by the end. -/
structure Completes {ι : Type} [DecidableEq ι] (desk : TokenDesk ι)
    (acts : List (Act ι TokenChoice TokenIssue)) : Prop where
  unbroken : ∀ n i, acts[n]? = some (.own i .abandon) → ∀ token runId actor checkedAt,
    (desk.after acts n).phase i ≠ .validated token runId actor checkedAt
  marked : ∀ i token runId actor checkedAt,
    (desk.after acts acts.length).phase i ≠ .validated token runId actor checkedAt

/-! ### What a call stands for -/

def TokenCall.passed : TokenCall → Option String
  | .validated token _ _ _ | .returned token _ _ _ => some token
  | _ => none

theorem validate_ok {record : Option StreamingTokenRecord} {runId : String} {now : Time}
    {row : StreamingTokenRecord} (passes : validate record runId now = .ok row) :
    record = some row ∧ row.tokenType = "streaming" ∧ row.usedAt = none ∧ now ≤ row.expiresAt ∧
      row.runId = some runId := by
  unfold validate at passes
  cases record with
  | none => cases passes
  | some own =>
      dsimp only at passes
      split_ifs at passes with type used expired run
      obtain rfl := Except.ok.inj passes
      exact ⟨rfl, not_not.mp type, by simpa using used, Int.not_lt.mp expired,
        not_not.mp run⟩

def StreamingTokenRecord.Extends (later row : StreamingTokenRecord) : Prop :=
  later.tokenType = row.tokenType ∧ later.runId = row.runId ∧ later.actor = row.actor ∧
    later.expiresAt = row.expiresAt ∧ (row.usedAt.isSome = true → later.usedAt.isSome = true)

theorem extends_markUsed {tokens : StreamingTokens} {token : String} {row : StreamingTokenRecord}
    (present : tokens.get? token = some row) (other : String) (now : Time) :
    ∃ later, (markUsed tokens other now).get? token = some later ∧ later.Extends row ∧
      (token = other → later.usedAt.isSome = true) := by
  rw [markUsed, Keyed.get?_changeAt, present]
  by_cases own : token = other
  · rw [if_pos own]
    exact ⟨row.used now, rfl, ⟨rfl, rfl, rfl, rfl, fun _ => rfl⟩, fun _ => rfl⟩
  · rw [if_neg own]
    exact ⟨row, rfl, ⟨rfl, rfl, rfl, rfl, id⟩, fun same => absurd same own⟩

theorem extends_issueToken {tokens : StreamingTokens} {token : String} {row : StreamingTokenRecord}
    (present : tokens.get? token = some row) (issue : TokenIssue) :
    (issueToken issue tokens).get? token = some row := by
  obtain ⟨member, own⟩ := Keyed.get?_eq_some.mp present
  apply Keyed.get?_eq_some.mpr
  refine ⟨?_, own⟩
  unfold issueToken Keyed.insert
  split
  · exact member
  · exact List.mem_append_left _ member

section

variable {ι : Type} [DecidableEq ι]

/-- What a call asserts of the token that it has passed the checks for. -/
def TokenCall.Asserts (tokens : StreamingTokens) : TokenCall → Prop
  | .validated token runId actor checkedAt => ∃ row, tokens.get? token = some row ∧
      row.tokenType = "streaming" ∧ row.runId = some runId ∧ row.actor = actor ∧
      checkedAt ≤ row.expiresAt
  | .returned token runId actor checkedAt => ∃ row, tokens.get? token = some row ∧
      row.tokenType = "streaming" ∧ row.runId = some runId ∧ row.actor = actor ∧
      checkedAt ≤ row.expiresAt ∧ row.usedAt.isSome = true
  | _ => True

theorem TokenCall.Asserts.later {tokens later : StreamingTokens} {call : TokenCall}
    (asserts : call.Asserts tokens)
    (grows : ∀ token row, tokens.get? token = some row →
      ∃ row', later.get? token = some row' ∧ row'.Extends row) : call.Asserts later := by
  cases call with
  | validated token runId actor checkedAt =>
      obtain ⟨row, present, type, run, own, open_⟩ := asserts
      obtain ⟨row', present', type', run', own', until_, -⟩ := grows token row present
      exact ⟨row', present', type'.trans type, run'.trans run, own'.trans own, until_ ▸ open_⟩
  | returned token runId actor checkedAt =>
      obtain ⟨row, present, type, run, own, open_, used⟩ := asserts
      obtain ⟨row', present', type', run', own', until_, used'⟩ := grows token row present
      exact ⟨row', present', type'.trans type, run'.trans run, own'.trans own, until_ ▸ open_,
        used' used⟩
  | _ => trivial

theorem asserts_outside {tokens : StreamingTokens} {call : TokenCall} (asserts : call.Asserts tokens)
    (issue : TokenIssue) : call.Asserts (issueToken issue tokens) :=
  asserts.later fun _ row present =>
    ⟨row, extends_issueToken present issue, rfl, rfl, rfl, rfl, id⟩

theorem move_tokens (i : ι) (choice : TokenChoice) (tokens : StreamingTokens) (call : TokenCall) :
    (TokenCall.move i choice tokens call).1 = tokens ∨
      ∃ token now, (TokenCall.move i choice tokens call).1 = markUsed tokens token now := by
  cases call with
  | waiting token runId =>
      cases choice with
      | get now =>
          left
          simp only [TokenCall.move]
          cases validate (tokens.get? token) runId now with
          | error reason => rfl
          | ok record => rfl
      | markUsed now => exact .inl rfl
      | abandon => exact .inl rfl
  | validated token runId actor checkedAt =>
      cases choice with
      | get now => exact .inl rfl
      | markUsed now => exact .inr ⟨token, now, rfl⟩
      | abandon => exact .inl rfl
  | _ => exact .inl rfl

theorem asserts_move {tokens : StreamingTokens} {other : TokenCall} (asserts : other.Asserts tokens)
    (i : ι) (choice : TokenChoice) (call : TokenCall) :
    other.Asserts (TokenCall.move i choice tokens call).1 := by
  cases move_tokens i choice tokens call with
  | inl same =>
      rw [same]
      exact asserts
  | inr marks =>
      obtain ⟨token, now, marks⟩ := marks
      rw [marks]
      apply asserts.later
      intro own row present
      obtain ⟨later, found, grows, -⟩ := extends_markUsed present token now
      exact ⟨later, found, grows⟩

theorem asserts_own {tokens : StreamingTokens} {call : TokenCall} (asserts : call.Asserts tokens)
    (i : ι) (choice : TokenChoice) :
    (TokenCall.move i choice tokens call).2.Asserts (TokenCall.move i choice tokens call).1 := by
  cases call with
  | waiting token runId =>
      cases choice with
      | get now =>
          simp only [TokenCall.move]
          cases passes : validate (tokens.get? token) runId now with
          | error reason => trivial
          | ok record =>
              obtain ⟨present, type, -, until_, run⟩ := validate_ok passes
              exact ⟨record, present, type, run, rfl, until_⟩
      | markUsed now => trivial
      | abandon => trivial
  | validated token runId actor checkedAt =>
      cases choice with
      | get now => exact asserts
      | markUsed now =>
          obtain ⟨row, present, type, run, own, until_⟩ := asserts
          obtain ⟨later, found, ⟨type', run', own', until', -⟩, used⟩ :=
            extends_markUsed present token now
          exact ⟨later, found, type'.trans type, run'.trans run, own'.trans own, until' ▸ until_,
            used rfl⟩
      | abandon => trivial
  | returned token runId actor checkedAt => exact asserts
  | _ => trivial

theorem outline_asserts : Outline (TokenCall.move (ι := ι)) issueToken (fun _ _ => True)
    (fun _ => True) fun _ tokens call => call.Asserts tokens where
  kept _ _ _ _ _ := trivial
  own _ i choice holds _ := asserts_own (holds.worker i) i choice
  others crew i choice holds _ j _ := asserts_move (holds.worker j) i choice (crew.phase i)
  outside _ _ _ _ := trivial
  undisturbed _ occurs holds _ j := asserts_outside (holds.worker j) occurs

variable (tokens : StreamingTokens) (requests : ι → String × String)
  (acts : List (Act ι TokenChoice TokenIssue))

theorem asserts_after (n : Nat) (i : ι) :
    (((TokenDesk.start tokens requests).after acts n).phase i).Asserts
      ((TokenDesk.start tokens requests).after acts n).shared := by
  apply (outline_asserts.holds _ acts (fun _ _ _ => trivial) n).worker
  exact ⟨trivial, fun _ => trivial⟩

theorem valid_after (n : Nat) (i : ι) (token runId actor : String) (checkedAt : Time)
    (returned : ((TokenDesk.start tokens requests).after acts n).phase i =
      .returned token runId actor checkedAt) :
    ∃ row, ((TokenDesk.start tokens requests).after acts n).shared.get? token = some row ∧
      row.tokenType = "streaming" ∧ row.runId = some runId ∧ row.actor = actor ∧
      checkedAt ≤ row.expiresAt := by
  have asserts := asserts_after tokens requests acts n i
  rw [returned] at asserts
  obtain ⟨row, present, type, run, own, until_, -⟩ := asserts
  exact ⟨row, present, type, run, own, until_⟩

/-! ### Calls that passed the checks for one token -/

theorem passed_step {desk : TokenDesk ι} {act : Act ι TokenChoice TokenIssue} {i : ι}
    {token : String} (passed : ((desk.step TokenCall.move issueToken act).phase i).passed =
      some token) :
    (desk.phase i).passed = some token ∨ ∃ now runId record, act = .own i (.get now) ∧
      desk.phase i = .waiting token runId ∧
      validate (desk.shared.get? token) runId now = .ok record := by
  cases Crew.step_phase TokenCall.move issueToken desk act i with
  | inl same =>
      rw [same] at passed
      exact .inl passed
  | inr moved =>
      obtain ⟨choice, rfl, -, moves⟩ := moved
      rw [moves] at passed
      cases phase : desk.phase i with
      | waiting other runId =>
          rw [phase] at passed
          cases choice with
          | get now =>
              simp only [TokenCall.move] at passed
              cases passes : validate (desk.shared.get? other) runId now with
              | error reason =>
                  rw [passes] at passed
                  cases passed
              | ok record =>
                  rw [passes] at passed
                  obtain rfl := Option.some.inj passed
                  exact .inr ⟨now, runId, record, rfl, rfl, passes⟩
          | markUsed now => cases passed
          | abandon => cases passed
      | validated other runId actor checkedAt =>
          rw [phase] at passed
          cases choice with
          | get now => exact .inl passed
          | markUsed now => exact .inl passed
          | abandon => cases passed
      | returned other runId actor checkedAt =>
          rw [phase] at passed
          exact .inl passed
      | _ =>
          rw [phase] at passed
          cases passed

theorem passed_kept {desk : TokenDesk ι} {act : Act ι TokenChoice TokenIssue} {i : ι}
    {token : String} (passed : (desk.phase i).passed = some token)
    (unbroken : act = .own i .abandon → ∀ token runId actor checkedAt,
      desk.phase i ≠ .validated token runId actor checkedAt) :
    ((desk.step TokenCall.move issueToken act).phase i).passed = some token := by
  cases Crew.step_phase TokenCall.move issueToken desk act i with
  | inl same =>
      rw [same]
      exact passed
  | inr moved =>
      obtain ⟨choice, rfl, -, moves⟩ := moved
      rw [moves]
      cases phase : desk.phase i with
      | validated other runId actor checkedAt =>
          rw [phase] at passed
          cases choice with
          | get now => exact passed
          | markUsed now => exact passed
          | abandon => exact absurd phase (unbroken rfl other runId actor checkedAt)
      | returned other runId actor checkedAt =>
          rw [phase] at passed
          exact passed
      | _ =>
          rw [phase] at passed
          cases passed

theorem used_after {n : Nat} {i : ι} {token runId actor : String} {checkedAt : Time}
    (returned : ((TokenDesk.start tokens requests).after acts n).phase i =
      .returned token runId actor checkedAt) {other : String} {now : Time} :
    ∀ record, validate (((TokenDesk.start tokens requests).after acts n).shared.get? token) other
      now ≠ .ok record := by
  intro record passes
  have asserts := asserts_after tokens requests acts n i
  rw [returned] at asserts
  obtain ⟨row, present, -, -, -, -, used⟩ := asserts
  obtain ⟨found, -, unused, -, -⟩ := validate_ok passes
  obtain rfl := Option.some.inj (present.symm.trans found)
  rw [unused] at used
  cases used

theorem passed_fresh (alone : ∀ n act, acts[n]? = some act →
      ChecksAlone ((TokenDesk.start tokens requests).after acts n) act) {n : Nat}
    {act : Act ι TokenChoice TokenIssue} (present : acts[n]? = some act) {i : ι} {token : String}
    (passes : ∃ now runId record, act = .own i (.get now) ∧
      ((TokenDesk.start tokens requests).after acts n).phase i = .waiting token runId ∧
      validate (((TokenDesk.start tokens requests).after acts n).shared.get? token) runId now =
        .ok record) (j : ι) :
    (((TokenDesk.start tokens requests).after acts n).phase j).passed ≠ some token := by
  intro passed
  obtain ⟨now, runId, record, rfl, waits, passes⟩ := passes
  cases phase : ((TokenDesk.start tokens requests).after acts n).phase j with
  | validated other runId' actor checkedAt =>
      rw [phase] at passed
      obtain rfl := Option.some.inj passed
      exact alone n _ present other runId record waits passes j runId' actor checkedAt phase
  | returned other runId' actor checkedAt =>
      rw [phase] at passed
      obtain rfl := Option.some.inj passed
      exact used_after tokens requests acts phase record passes
  | _ =>
      rw [phase] at passed
      cases passed

theorem passed_unique (alone : ∀ n act, acts[n]? = some act →
      ChecksAlone ((TokenDesk.start tokens requests).after acts n) act) (n : Nat) :
    ∀ i j token, (((TokenDesk.start tokens requests).after acts n).phase i).passed = some token →
      (((TokenDesk.start tokens requests).after acts n).phase j).passed = some token → i = j := by
  apply stateAfter_invariant _ _ _ fun desk : TokenDesk ι =>
    ∀ i j token, (desk.phase i).passed = some token → (desk.phase j).passed = some token → i = j
  · intro i j token passed
    cases passed
  · intro n act present unique i j token first second
    cases passed_step first with
    | inl before =>
        cases passed_step second with
        | inl before' => exact unique i j token before before'
        | inr now => exact absurd before (passed_fresh tokens requests acts alone present now i)
    | inr now =>
        cases passed_step second with
        | inl before' => exact absurd before' (passed_fresh tokens requests acts alone present now j)
        | inr now' =>
            obtain ⟨_, _, _, one, _⟩ := now
            obtain ⟨_, _, _, two, _⟩ := now'
            exact (Act.own.inj (one.symm.trans two)).1

theorem singleUse_of_alone (alone : ∀ n act, acts[n]? = some act →
      ChecksAlone ((TokenDesk.start tokens requests).after acts n) act) (n : Nat) :
    SingleUse ((TokenDesk.start tokens requests).after acts n) where
  once i j token _ _ _ _ _ _ first second := by
    apply passed_unique tokens requests acts alone n i j token
    · rw [first]
      rfl
    · rw [second]
      rfl
  valid := valid_after tokens requests acts n

theorem passed_end (completes : Completes (TokenDesk.start tokens requests) acts) {n : Nat} (i : ι)
    (token : String) (le : n ≤ acts.length)
    (passed : (((TokenDesk.start tokens requests).after acts n).phase i).passed = some token) :
    ∃ runId actor checkedAt, ((TokenDesk.start tokens requests).after acts acts.length).phase i =
      .returned token runId actor checkedAt := by
  have kept := stateAfter_from (Crew.step TokenCall.move issueToken)
    (TokenDesk.start tokens requests) acts
    (fun desk : TokenDesk ι => (desk.phase i).passed = some token) le passed
    fun k act _ present before => passed_kept before fun own =>
      completes.unbroken k i (own ▸ present)
  cases phase : ((TokenDesk.start tokens requests).after acts acts.length).phase i with
  | validated other runId actor checkedAt =>
      exact absurd phase (completes.marked i other runId actor checkedAt)
  | returned other runId actor checkedAt =>
      rw [phase] at kept
      obtain rfl := Option.some.inj kept
      exact ⟨runId, actor, checkedAt, rfl⟩
  | _ =>
      rw [phase] at kept
      cases kept

theorem alone_of_singleUse (completes : Completes (TokenDesk.start tokens requests) acts)
    (single : SingleUse ((TokenDesk.start tokens requests).after acts acts.length)) (n : Nat)
    (act : Act ι TokenChoice TokenIssue) (present : acts[n]? = some act) :
    ChecksAlone ((TokenDesk.start tokens requests).after acts n) act := by
  have reached : n < acts.length := (List.getElem?_eq_some_iff.mp present).1
  cases act with
  | outside issue => trivial
  | own i choice =>
      cases choice with
      | get now =>
          intro token runId record waits passes j runId' actor checkedAt validated
          have next : ((TokenDesk.start tokens requests).after acts (n + 1)).phase i =
              .validated token runId record.actor now := by
            rw [TokenDesk.after, Crew.after, stateAfter_succ _ _ _ present]
            show Function.update _ i _ i = _
            rw [Function.update_self, waits]
            simp only [TokenCall.move, passes]
          obtain ⟨run, own, time, returned⟩ := passed_end tokens requests acts completes i
            token reached (by rw [next]; rfl)
          obtain ⟨run', own', time', returned'⟩ := passed_end tokens requests acts completes j
            token (Nat.le_of_lt reached) (by rw [validated]; rfl)
          obtain rfl := single.once i j token run own time run' own' time' returned returned'
          rw [waits] at validated
          cases validated
      | markUsed now => trivial
      | abandon => trivial

/-- Tokens are single-use, over every order of the transactions of any calls, as long as no call
checks a token while another one is between its check and its mark; where no call is broken off
there, exactly then. -/
theorem singleUse_iff {ι : Type} [DecidableEq ι] (tokens : StreamingTokens)
    (requests : ι → String × String) (acts : List (Act ι TokenChoice TokenIssue)) :
    ((∀ n act, acts[n]? = some act →
        ChecksAlone ((TokenDesk.start tokens requests).after acts n) act) →
      ∀ n, SingleUse ((TokenDesk.start tokens requests).after acts n)) ∧
    (Completes (TokenDesk.start tokens requests) acts →
      ((∀ n, SingleUse ((TokenDesk.start tokens requests).after acts n)) ↔
        ∀ n act, acts[n]? = some act →
          ChecksAlone ((TokenDesk.start tokens requests).after acts n) act)) := by
  have sufficient := singleUse_of_alone tokens requests acts
  refine ⟨sufficient, fun completes => ⟨fun single => ?_, sufficient⟩⟩
  exact alone_of_singleUse tokens requests acts completes (single acts.length)

end

/-! Two calls with one token. -/

def freshToken : StreamingTokens :=
  ⟨[{ token := "t", runId := some "run", actor := "ann", tokenType := "streaming"
      workflowId := none, expiresAt := 300, usedAt := none }], by simp⟩

def bothCalls : Bool → String × String := fun _ => ("t", "run")

theorem both_calls_return : ¬ ∀ n, SingleUse ((TokenDesk.start freshToken bothCalls).after
    [.own true (.get 1), .own false (.get 1), .own true (.markUsed 2), .own false (.markUsed 2)]
      n) := by
  intro single
  have same := (single 4).once true false "t" "run" "ann" 1 "run" "ann" 1 rfl rfl
  cases same

/-! ### Builder tokens -/

/-- The checks of `BuilderTokenService.validate` on what `get` returns. -/
def validateBuilder (record : Option StreamingTokenRecord) (workflowId : String) (now : Time) :
    Except String String :=
  match record with
  | none => .error "Token not found"
  | some record =>
      if record.tokenType ≠ "builder" then .error "Wrong token type"
      else if record.expiresAt < now then .error "Token expired"
      else if record.workflowId ≠ some workflowId then .error "Token not valid for this workflow"
      else .ok record.actor

/-- It answers the middleware as `validateBuilderToken` does. -/
theorem validateBuilderToken_eq (tokens : StreamingTokens) (world : Authz.World)
    (token workflowId : String) :
    Authz.validateBuilderToken
        { world with
          builderTokens := tokens.rows.map fun row =>
            ⟨row.token, row.tokenType, row.workflowId, row.expiresAt⟩ } token workflowId =
      (validateBuilder (tokens.get? token) workflowId world.now).map fun _ => () := by
  unfold Authz.validateBuilderToken validateBuilder Keyed.get?
  rw [List.find?_map, Function.comp_def]
  cases tokens.rows.find? fun row => row.token = token with
  | none => rfl
  | some row =>
      dsimp only [Option.map_some]
      split_ifs <;> rfl

section

variable {ι : Type}

def issuedWith (token : String) : Act ι TokenChoice TokenIssue → Option TokenIssue
  | .outside issue => if issue.row.token = token then some issue else none
  | .own _ _ => none

def issueOf (acts : List (Act ι TokenChoice TokenIssue)) (token : String) : Option TokenIssue :=
  acts.findSome? (issuedWith token)

variable [DecidableEq ι] (requests : ι → String × String)
  (acts : List (Act ι TokenChoice TokenIssue))

abbrev tokensAfter (n : Nat) : TokenDesk ι :=
  (TokenDesk.start ⟨[], List.nodup_nil⟩ requests).after acts n

theorem row_after (n : Nat) (token : String) : ∃ usedAt,
    (tokensAfter requests acts n).shared.get? token =
      (issueOf (acts.take n) token).map fun issue => { issue.row with usedAt } := by
  induction n with
  | zero => exact ⟨none, rfl⟩
  | succ n ih =>
      obtain ⟨usedAt, row⟩ := ih
      unfold issueOf at row ⊢
      rw [List.take_add_one, List.findSome?_append]
      cases present : acts[n]? with
      | none =>
          rw [tokensAfter, TokenDesk.after, Crew.after, stateAfter_succ_of_none _ _ _ present]
          exact ⟨usedAt, by simpa using row⟩
      | some act =>
          rw [tokensAfter, TokenDesk.after, Crew.after, stateAfter_succ _ _ _ present]
          cases act with
          | own i choice =>
              have rest : (some (Act.own i choice)).toList.findSome? (issuedWith token) = none := rfl
              rw [rest, Option.or_none]
              show ∃ usedAt, (TokenCall.move i choice (tokensAfter requests acts n).shared
                ((tokensAfter requests acts n).phase i)).1.get? token = _
              rcases move_tokens i choice (tokensAfter requests acts n).shared
                ((tokensAfter requests acts n).phase i) with same | ⟨marked, now, marks⟩
              · rw [same]
                exact ⟨usedAt, row⟩
              · rw [marks, markUsed, Keyed.get?_changeAt, row]
                split
                · refine ⟨some now, ?_⟩
                  rw [Option.map_map]
                  rfl
                · exact ⟨usedAt, rfl⟩
          | outside issue =>
              show ∃ usedAt, (issueToken issue (tokensAfter requests acts n).shared).get? token = _
              rw [issueToken, Keyed.get?_insert]
              have rest : (some (Act.outside issue)).toList.findSome? (issuedWith (ι := ι) token) =
                  if issue.row.token = token then some issue else none := by
                simp [issuedWith]
              rw [rest]
              by_cases own : issue.row.token = token
              · subst own
                rw [row]
                cases acts.take n |>.findSome? (issuedWith issue.row.token) with
                | none => exact ⟨none, by cases issue <;> simp [TokenIssue.row]⟩
                | some first => exact ⟨usedAt, by simp⟩
              · rw [if_neg fun both => own both.2, if_neg own, Option.or_none]
                exact ⟨usedAt, row⟩

/-- Whatever calls of `validate_and_consume` do in between, with this token or with others, a builder
token lets in the actor and for the workflow that it was issued for, until it expires and as often as
it is presented, and nothing else does. -/
theorem builder_token_iff (n : Nat) (token workflowId actor : String) (now : Time) :
    validateBuilder ((tokensAfter requests acts n).shared.get? token) workflowId now = .ok actor ↔
      ∃ expiresAt, issueOf (acts.take n) token = some (.builder token workflowId actor expiresAt) ∧
        now ≤ expiresAt := by
  obtain ⟨usedAt, row⟩ := row_after requests acts n token
  rw [row]
  cases issued : issueOf (acts.take n) token with
  | none => simp [validateBuilder]
  | some issue =>
      rw [issued] at row
      have own := (Keyed.get?_eq_some.mp row).2
      cases issue with
      | streaming other runId actor expiresAt => simp [validateBuilder, TokenIssue.row]
      | builder other workflowId' actor' expiresAt =>
          obtain rfl : other = token := own
          simp only [validateBuilder, Option.map_some, TokenIssue.row]
          constructor
          · intro lets
            split_ifs at lets with type late other
            obtain rfl := Except.ok.inj lets
            obtain rfl := Option.some.inj (not_not.mp other)
            exact ⟨expiresAt, rfl, Int.not_lt.mp late⟩
          · rintro ⟨until_, same, inTime⟩
            cases same
            simp [Int.not_lt.mpr inTime]

end

end SyndicateClaw.Services
