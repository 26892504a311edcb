import SyndicateClaw.RuntimeBoundary.Boundary

/-! `HttpControlPlaneValidator`: every answer of the control plane, over both of its transports. -/

namespace SyndicateClaw.RuntimeBoundary

open Orchestrator

/-! ### Responses -/

mutual

/-- A value that `json.loads` can make; the `repr` of a float begins with a digit or a sign. -/
def isJson : Value → Bool
  | .none | .bool _ | .int _ | .str _ => true
  | .float _ text => text.toList.head?.any fun c => c.isDigit || c = '-'
  | .list items => isJsonItems items
  | .dict entries => isJsonEntries entries
  | .object _ => false

def isJsonItems : List Value → Bool
  | [] => true
  | item :: items => isJson item && isJsonItems items

def isJsonEntries : List (String × Value) → Bool
  | [] => true
  | (_, value) :: entries => isJson value && isJsonEntries entries

end

structure JsonBody where
  value : Value
  json : isJson value = true

/-- A response that is not redirected; without a body, what reading its bytes raises. -/
structure HttpResponse where
  statusCode : Int
  reason : String
  body : Except String JsonBody

def HttpResponse.isSuccess (response : HttpResponse) : Bool :=
  200 ≤ response.statusCode && response.statusCode < 300

/-- Who sends the request: the injected session, or `urllib.request`. -/
inductive Transport where
  | session
  | urllib
  deriving DecidableEq

def ValidationStatus.parse? (text : String) : Option ValidationStatus :=
  [ValidationStatus.allow, .denied, .expired, .revoked, .consumed, .unavailable].find?
    (·.value = text)

/-! ### The validator -/

/-- `str(exc)[:200]`. -/
def excerpt (text : String) : String := String.ofList (text.toList.take 200)

/-- What the first `try` leaves: a body, or the detail of an `UNAVAILABLE`. `urlopen` raises for
every response that is no success. -/
def readBody (transport : Transport) (reply : Except String HttpResponse) :
    Except String JsonBody :=
  match reply with
  | .error exc => .error (excerpt exc)
  | .ok response =>
      match transport with
      | .urllib =>
          if response.isSuccess then response.body.mapError excerpt
          else .error (excerpt
            ("HTTP Error " ++ toString response.statusCode ++ ": " ++ response.reason))
      | .session =>
          if 500 ≤ response.statusCode then .error ("http " ++ toString response.statusCode)
          else response.body.mapError excerpt

/-- `str(body.get("status", "denied"))`. -/
def statusText (entries : State) : String :=
  ((Dict.get? entries "status").getD (.str "denied")).pyStr

def statusOf (entries : State) : ValidationStatus :=
  (ValidationStatus.parse? (statusText entries)).getD .denied

/-- `validate`; an error is an `AttributeError` that it raises. -/
def validate (transport : Transport) (validatedAt : String) (reply : Except String HttpResponse) :
    Except String ValidationResult :=
  match readBody transport reply with
  | .error detail => .ok { status := .unavailable, permitId := .none, validatedAt, detail }
  | .ok body =>
      match body.value.asDict? with
      | none => .error ("'" ++ body.value.typeName ++ "' object has no attribute 'get'")
      | some entries => .ok
          { status := statusOf entries, permitId := lookup entries "permit_id", validatedAt
            detail := lookupStr entries "detail" }

/-! ### What is promised -/

/-- The body says `allow`, and comes with a success. -/
def SaysAllow (reply : Except String HttpResponse) : Prop :=
  ∃ response body entries, reply = .ok response ∧ response.isSuccess = true ∧
    response.body = .ok body ∧ body.value = .dict entries ∧
    Dict.get? entries "status" = some (.str "allow")

/-- Both transports have a result, the same one, which allows only what says so. -/
structure FailsClosed (validatedAt : String) (reply : Except String HttpResponse) : Prop where
  returns : ∀ transport, ∃ result, validate transport validatedAt reply = .ok result
  allows : ∀ transport result, validate transport validatedAt reply = .ok result →
    result.status = .allow → SaysAllow reply
  agrees : ∀ result other, validate .session validatedAt reply = .ok result →
    validate .urllib validatedAt reply = .ok other → result.status = other.status

/-- A response below 500 whose body is JSON has an object for it, and is a success or says that
the control plane is unavailable. -/
def Benign (reply : Except String HttpResponse) : Prop :=
  ∀ response body, reply = .ok response → response.statusCode < 500 → response.body = .ok body →
    ∃ entries, body.value = .dict entries ∧
      (response.isSuccess = true ∨ statusText entries = "unavailable")

/-! ### The status of a body -/

theorem parse?_eq_some {text : String} {status : ValidationStatus} :
    ValidationStatus.parse? text = some status ↔ status.value = text := by
  constructor
  · intro found
    simpa using List.find?_some found
  · rintro rfl
    cases status <;> rfl

theorem statusOf_eq {entries : State} {status : ValidationStatus} (other : status ≠ .denied) :
    statusOf entries = status ↔ statusText entries = status.value := by
  unfold statusOf
  cases read : ValidationStatus.parse? (statusText entries) with
  | none =>
      refine iff_of_false (fun same => other same.symm) fun same => ?_
      rw [parse?_eq_some.mpr same.symm] at read
      cases read
  | some found =>
      rw [Option.getD_some, ← parse?_eq_some.mp read]
      constructor
      · rintro rfl
        rfl
      · intro same
        have again := parse?_eq_some.mpr same.symm
        rw [parse?_eq_some.mpr rfl] at again
        exact Option.some.inj again

/-- Only a text prints as one that begins with a letter other than those of `None`, `True` and
`False`. -/
theorem str_of_pyStr {value : Value} (json : isJson value = true)
    (prints : value.pyStr = "allow") : value = .str "allow" := by
  have head : value.pyStr.toList.head? = some 'a' := by
    rw [prints]
    rfl
  cases value with
  | none => exact absurd prints (by decide)
  | bool b => cases b <;> exact absurd prints (by decide)
  | int i =>
      have text : (Value.int i).pyStr = toString i := rfl
      rw [text, Int.toString_eq_repr, Int.repr_eq_if] at head
      split at head
      · rw [Nat.toList_repr] at head
        have digit := Nat.isDigit_of_mem_toDigits (by decide) (by decide)
          (List.mem_of_mem_head? head)
        exact absurd digit (by decide)
      · have minus : "-".toList = ['-'] := rfl
        rw [String.toList_append, minus] at head
        cases head
  | float value text =>
      have first : text.toList.head? = some 'a' := head
      rw [isJson, first] at json
      cases json
  | str s => exact congrArg Value.str prints
  | list items =>
      have first : (Value.list items).pyStr.toList.head? = some '[' := by
        simp [Value.pyStr, Value.repr]
      rw [first] at head
      cases head
  | dict entries =>
      have first : (Value.dict entries).pyStr.toList.head? = some '\x7b' := by
        simp [Value.pyStr, Value.repr]
      rw [first] at head
      cases head
  | object text => cases json

theorem isJson_of_get? {entries : State} {key : String} {value : Value}
    (json : isJsonEntries entries = true) (found : Dict.get? entries key = some value) :
    isJson value = true := by
  induction entries with
  | nil => cases found
  | cons entry entries ih =>
      obtain ⟨name, first⟩ := entry
      rw [isJsonEntries, Bool.and_eq_true] at json
      unfold Dict.get? at found
      rw [List.lookup_cons] at found
      split at found
      · obtain rfl := Option.some.inj found
        exact json.1
      · exact ih json.2 found

theorem statusOf_eq_allow {body : JsonBody} {entries : State}
    (object : body.value = .dict entries) :
    statusOf entries = .allow ↔ Dict.get? entries "status" = some (.str "allow") := by
  have json := body.json
  rw [object] at json
  rw [statusOf_eq (by decide)]
  unfold statusText
  cases found : Dict.get? entries "status" with
  | none => exact iff_of_false (by decide) nofun
  | some value =>
      rw [Option.getD_some, Option.some.injEq]
      constructor
      · exact str_of_pyStr (isJson_of_get? json found)
      · rintro rfl
        rfl

/-! ### The answers of the two transports -/

section

variable {validatedAt : String} {response : HttpResponse}

variable (validatedAt) in
theorem validate_body {transport : Transport} {reply : Except String HttpResponse} {body : JsonBody}
    {entries : State} (read : readBody transport reply = .ok body)
    (object : body.value = .dict entries) :
    ∃ result, validate transport validatedAt reply = .ok result ∧
      result.status = statusOf entries := by
  unfold validate
  rw [read]
  dsimp only
  rw [object]
  exact ⟨_, rfl, rfl⟩

variable (validatedAt) in
theorem validate_unavailable {transport : Transport} {reply : Except String HttpResponse}
    {detail : String} (read : readBody transport reply = .error detail) :
    ∃ result, validate transport validatedAt reply = .ok result ∧ result.status = .unavailable := by
  unfold validate
  rw [read]
  exact ⟨_, rfl, rfl⟩

theorem validate_ok {transport : Transport} {reply : Except String HttpResponse}
    {result : ValidationResult} (answer : validate transport validatedAt reply = .ok result) :
    (∃ detail, readBody transport reply = .error detail ∧ result.status = .unavailable) ∨
      ∃ body entries, readBody transport reply = .ok body ∧ body.value = .dict entries ∧
        result.status = statusOf entries := by
  unfold validate at answer
  split at answer
  · next detail read =>
      obtain rfl := Except.ok.inj answer
      exact .inl ⟨detail, read, rfl⟩
  · next body read =>
      split at answer
      · cases answer
      · next entries object =>
          obtain rfl := Except.ok.inj answer
          refine .inr ⟨body, entries, read, ?_, rfl⟩
          cases value : body.value with
          | dict own =>
              rw [value] at object
              exact congrArg Value.dict (Option.some.inj object)
          | _ =>
              rw [value] at object
              cases object

theorem isSuccess_lt (success : response.isSuccess = true) : response.statusCode < 500 := by
  unfold HttpResponse.isSuccess at success
  simp only [Bool.and_eq_true, decide_eq_true_eq] at success
  omega

theorem readBody_session {reply : Except String HttpResponse} {body : JsonBody} :
    readBody .session reply = .ok body ↔
      ∃ response, reply = .ok response ∧ response.statusCode < 500 ∧ response.body = .ok body := by
  unfold readBody
  cases reply with
  | error exc => exact iff_of_false nofun nofun
  | ok response =>
      by_cases failed : 500 ≤ response.statusCode
      · have above : ¬ response.statusCode < 500 := not_lt.mpr failed
        simp [failed, above]
      · have below : response.statusCode < 500 := not_le.mp failed
        cases read : response.body <;> simp [failed, below, read, Except.mapError]

/-- And `urllib` reads that of a success. -/
theorem readBody_urllib {reply : Except String HttpResponse} {body : JsonBody} :
    readBody .urllib reply = .ok body ↔
      ∃ response, reply = .ok response ∧ response.isSuccess = true ∧ response.body = .ok body := by
  unfold readBody
  cases reply with
  | error exc => exact iff_of_false nofun nofun
  | ok response =>
      by_cases success : response.isSuccess = true
      · cases read : response.body <;> simp [success, read, Except.mapError]
      · simp [success]

/-- The session reads what `urllib` reads. -/
theorem readBody_of_urllib {reply : Except String HttpResponse} {body : JsonBody}
    (read : readBody .urllib reply = .ok body) : readBody .session reply = .ok body := by
  obtain ⟨response, replied, success, own⟩ := readBody_urllib.mp read
  exact readBody_session.mpr ⟨response, replied, isSuccess_lt success, own⟩

theorem readBody_below {transport : Transport} {reply : Except String HttpResponse}
    {body : JsonBody} (read : readBody transport reply = .ok body) :
    ∃ response, reply = .ok response ∧ response.statusCode < 500 ∧ response.body = .ok body := by
  cases transport with
  | session => exact readBody_session.mp read
  | urllib => exact readBody_session.mp (readBody_of_urllib read)

theorem statusOf_unavailable {entries : State} :
    statusOf entries = .unavailable ↔ statusText entries = "unavailable" :=
  statusOf_eq (by decide)

/-- A body that says `allow` came with a success, if the response was benign. -/
theorem Benign.says_allow {reply : Except String HttpResponse} (benign : Benign reply)
    {transport : Transport} {body : JsonBody} {entries : State}
    (read : readBody transport reply = .ok body) (object : body.value = .dict entries)
    (allow : statusOf entries = .allow) : SaysAllow reply := by
  obtain ⟨response, replied, below, own⟩ := readBody_below read
  obtain ⟨entries', object', success | text⟩ := benign response body replied below own
  · exact ⟨response, body, entries, replied, success, own, object,
      (statusOf_eq_allow object).mp allow⟩
  · obtain rfl : entries = entries' := Value.dict.inj (object.symm.trans object')
    rw [statusOf_unavailable.mpr text] at allow
    cases allow

theorem Benign.agrees {reply : Except String HttpResponse} (benign : Benign reply)
    {result other : ValidationResult} (session : validate .session validatedAt reply = .ok result)
    (urllib : validate .urllib validatedAt reply = .ok other) : result.status = other.status := by
  rcases validate_ok session with ⟨detail, unread, gone⟩ | ⟨body, entries, read, object, status⟩
  · rcases validate_ok urllib with ⟨detail', unread', gone'⟩ | ⟨body', entries', read', -, -⟩
    · exact gone.trans gone'.symm
    · rw [readBody_of_urllib read'] at unread
      cases unread
  · rcases validate_ok urllib with
      ⟨detail', unread', gone'⟩ | ⟨body', entries', read', object', status'⟩
    · obtain ⟨response, replied, below, own⟩ := readBody_session.mp read
      obtain ⟨entries', object', success | text⟩ := benign response body replied below own
      · rw [readBody_urllib.mpr ⟨response, replied, success, own⟩] at unread'
        cases unread'
      · obtain rfl : entries = entries' := Value.dict.inj (object.symm.trans object')
        rw [status, gone', statusOf_unavailable.mpr text]
    · obtain rfl : body = body' :=
        Except.ok.inj (read.symm.trans (readBody_of_urllib read'))
      obtain rfl : entries = entries' := Value.dict.inj (object.symm.trans object')
      exact status.trans status'.symm

end

/-- Validation fails closed, over either transport alike, exactly for the benign replies. -/
theorem validate_failsClosed_iff (validatedAt : String) (reply : Except String HttpResponse) :
    FailsClosed validatedAt reply ↔ Benign reply := by
  constructor
  · intro closed response body replied below own
    have read : readBody .session reply = .ok body :=
      readBody_session.mpr ⟨response, replied, below, own⟩
    obtain ⟨result, answer⟩ := closed.returns .session
    rcases validate_ok answer with ⟨detail, unread, -⟩ | ⟨body', entries, read', object, status⟩
    · rw [read] at unread
      cases unread
    · obtain rfl : body = body' := Except.ok.inj (read.symm.trans read')
      refine ⟨entries, object, ?_⟩
      by_cases success : response.isSuccess = true
      · exact .inl success
      · cases urllib : readBody .urllib reply with
        | ok other =>
            obtain ⟨response', replied', success', -⟩ := readBody_urllib.mp urllib
            obtain rfl : response = response' := Except.ok.inj (replied.symm.trans replied')
            exact absurd success' success
        | error detail =>
            obtain ⟨other, answer', gone⟩ := validate_unavailable validatedAt urllib
            have same := closed.agrees result other answer answer'
            exact .inr (statusOf_unavailable.mp (status.symm.trans (same.trans gone)))
  · intro benign
    refine ⟨fun transport => ?_, fun transport result answer allow => ?_,
      fun result other session urllib => benign.agrees session urllib⟩
    · cases read : readBody transport reply with
      | error detail =>
          obtain ⟨result, answer, -⟩ := validate_unavailable validatedAt read
          exact ⟨result, answer⟩
      | ok body =>
          obtain ⟨response, replied, below, own⟩ := readBody_below read
          obtain ⟨entries, object, -⟩ := benign response body replied below own
          obtain ⟨result, answer, -⟩ := validate_body validatedAt read object
          exact ⟨result, answer⟩
    · rcases validate_ok answer with ⟨detail, -, gone⟩ | ⟨body, entries, read, object, status⟩
      · rw [gone] at allow
        cases allow
      · exact benign.says_allow read object (status.symm.trans allow)

/-- A proxy's 404 with a body that says `allow`. -/
def notFoundAllow : HttpResponse where
  statusCode := 404
  reason := "Not Found"
  body := .ok { value := .dict [("status", .str "allow")], json := by decide }

def listBody : HttpResponse where
  statusCode := 200
  reason := "OK"
  body := .ok { value := .list [], json := by decide }

/-- The session takes the 404 for an `ALLOW`, and the list makes both transports raise. -/
theorem open_on_not_found : ¬ FailsClosed "" (.ok notFoundAllow) ∧
    ¬ FailsClosed "" (.ok listBody) := by
  constructor
  · intro closed
    obtain ⟨response, body, entries, replied, success, -⟩ :=
      closed.allows .session _ rfl rfl
    obtain rfl : notFoundAllow = response := Except.ok.inj replied
    exact absurd success (by decide)
  · intro closed
    obtain ⟨result, answer⟩ := closed.returns .urllib
    cases answer

end SyndicateClaw.RuntimeBoundary
