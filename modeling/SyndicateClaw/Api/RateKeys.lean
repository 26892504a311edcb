import SyndicateClaw.Api.RateLimiter

/-! The keys of the limiter, and when two requests share one. -/

namespace SyndicateClaw.Api

inductive Credential where
  | name (actor : String)
  | apiKey (key : String)
  | bearer (token : String)

def Credential.actor : Credential → String
  | .name actor => actor
  | .apiKey key => "apikey:" ++ firstEight key
  | .bearer token => "bearer:" ++ firstEight token

def credential (request : RateRequest) : Option Credential :=
  if request.path ∈ rateLimitSkipPaths then none
  else
    match request.stateActor with
    | some actor => if actor = "anonymous" then none else some (.name actor)
    | none =>
        match request.apiKey.filter (· ≠ "") with
        | some key => some (.apiKey key)
        | none =>
            let auth := request.authorization.getD ""
            if "Bearer ".toList.isPrefixOf auth.toList then
              some (.bearer (String.ofList (auth.toList.drop 7)))
            else none

def countsSeen (settings : RateSettings) (actor : String) (now : Rat) (redis : Redis) : Nat × Nat :=
  let redis := recorded settings actor now redis
  ((redis (windowKey actor)).zcard, (redis (burstKey actor)).zcard)

/-- Two requests have keys of their own, and neither changes what the other counts. -/
structure NoInterference (settings : RateSettings) (first second : RateRequest) : Prop where
  keys : ∀ a b, limitedActor first = some a → limitedActor second = some b →
    [windowKey a, burstKey a, windowKey b, burstKey b].Nodup
  onSecond : ∀ b, limitedActor second = some b → ∀ redis now now',
    countsSeen settings b now' (dispatch settings first now redis).2 = countsSeen settings b now' redis
  onFirst : ∀ a, limitedActor first = some a → ∀ redis now now',
    countsSeen settings a now' (dispatch settings second now redis).2 = countsSeen settings a now' redis

/-- What makes two credentials share a key: the first eight characters of two keys or of two tokens, or
an actor's name. -/
def Collide : Credential → Credential → Prop
  | .apiKey key, .apiKey key' => firstEight key = firstEight key'
  | .bearer token, .bearer token' => firstEight token = firstEight token'
  | .apiKey _, .bearer _ => False
  | .bearer _, .apiKey _ => False
  | .name actor, .name actor' =>
      actor = actor' ∨ actor = "burst:" ++ actor' ∨ actor' = "burst:" ++ actor
  | .name actor, other => actor = other.actor ∨ actor = "burst:" ++ other.actor
  | other, .name actor => actor = other.actor ∨ actor = "burst:" ++ other.actor

/-! ### Texts with different beginnings -/

theorem ne_of_beginning (head head' : String) (n : Nat) (short : n ≤ head.length)
    (short' : n ≤ head'.length) (differ : head.toList.take n ≠ head'.toList.take n)
    (tail tail' : String) : head ++ tail ≠ head' ++ tail' := by
  intro same
  apply differ
  have lists : (head ++ tail).toList.take n = (head' ++ tail').toList.take n :=
    congrArg (fun text => text.toList.take n) same
  rwa [String.toList_append, String.toList_append, List.take_append_of_le_length short,
    List.take_append_of_le_length short'] at lists

theorem apiKey_ne_bearer (a b : String) : "apikey:" ++ a ≠ "bearer:" ++ b :=
  ne_of_beginning _ _ 2 (by decide) (by decide) (by decide) a b

theorem apiKey_ne_burst (a b : String) : "apikey:" ++ a ≠ "burst:" ++ b :=
  ne_of_beginning _ _ 2 (by decide) (by decide) (by decide) a b

theorem bearer_ne_burst (a b : String) : "bearer:" ++ a ≠ "burst:" ++ b :=
  ne_of_beginning _ _ 2 (by decide) (by decide) (by decide) a b

theorem apiKey_ne_anonymous (a : String) : "apikey:" ++ a ≠ "anonymous" := by
  have apart := ne_of_beginning "apikey:" "anonymous" 2 (by decide) (by decide) (by decide) a ""
  rwa [String.append_empty] at apart

theorem bearer_ne_anonymous (a : String) : "bearer:" ++ a ≠ "anonymous" := by
  have apart := ne_of_beginning "bearer:" "anonymous" 2 (by decide) (by decide) (by decide) a ""
  rwa [String.append_empty] at apart

theorem limitedActor_eq (request : RateRequest) :
    limitedActor request = (credential request).map Credential.actor := by
  unfold limitedActor credential
  split
  · rfl
  cases request.stateActor with
  | some actor =>
      rw [Option.some_or]
      by_cases anonymous : actor = "anonymous"
      · subst anonymous
        rfl
      · simp [Option.filter, anonymous, Credential.actor]
  | none =>
      rw [Option.none_or]
      unfold extractActorHint
      dsimp only
      cases request.apiKey.filter (· ≠ "") with
      | some key => simp [Option.filter, apiKey_ne_anonymous, Credential.actor]
      | none =>
          dsimp only
          split
          · simp [Option.filter, bearer_ne_anonymous, Credential.actor]
          · rfl

theorem apart_iff (c d : Credential) : ActorsApart c.actor d.actor ↔ ¬ Collide c d := by
  constructor
  · intro apart collide
    obtain ⟨different, notBurst, notBurst'⟩ := apart
    cases c <;> cases d <;> simp_all [Collide, Credential.actor]
  · intro distinct
    cases c with
    | name actor =>
        cases d with
        | name other =>
            simp only [Collide, not_or] at distinct
            exact ⟨distinct.1, distinct.2.1, distinct.2.2⟩
        | apiKey key =>
            simp only [Collide, not_or] at distinct
            exact ⟨distinct.1, distinct.2, apiKey_ne_burst _ _⟩
        | bearer token =>
            simp only [Collide, not_or] at distinct
            exact ⟨distinct.1, distinct.2, bearer_ne_burst _ _⟩
    | apiKey key =>
        cases d with
        | name other =>
            simp only [Collide, not_or] at distinct
            exact ⟨fun same => distinct.1 same.symm, apiKey_ne_burst _ _, distinct.2⟩
        | apiKey other =>
            refine ⟨?_, apiKey_ne_burst _ _, apiKey_ne_burst _ _⟩
            intro same
            exact distinct ((String.append_right_inj _).mp same)
        | bearer token =>
            exact ⟨apiKey_ne_bearer _ _, apiKey_ne_burst _ _, bearer_ne_burst _ _⟩
    | bearer token =>
        cases d with
        | name other =>
            simp only [Collide, not_or] at distinct
            exact ⟨fun same => distinct.1 same.symm, bearer_ne_burst _ _, distinct.2⟩
        | apiKey key =>
            exact ⟨(apiKey_ne_bearer _ _).symm, bearer_ne_burst _ _, apiKey_ne_burst _ _⟩
        | bearer other =>
            refine ⟨?_, bearer_ne_burst _ _, bearer_ne_burst _ _⟩
            intro same
            exact distinct ((String.append_right_inj _).mp same)

section

variable {settings : RateSettings} {a b : String}

theorem keys_nodup_iff :
    [windowKey a, burstKey a, windowKey b, burstKey b].Nodup ↔ ActorsApart a b := by
  constructor
  · intro distinct
    simp only [burstKey_eq, List.nodup_cons, List.mem_cons, windowKey_inj, List.not_mem_nil,
      or_false, not_or] at distinct
    obtain ⟨⟨_, different, notBurst⟩, ⟨notBurst', _⟩, _⟩ := distinct
    exact ⟨different, notBurst, fun same => notBurst' same.symm⟩
  · intro apart
    obtain ⟨first, second, third, fourth⟩ := apart.keys
    simp [own_keys a, own_keys b, first, second, third, fourth]

theorem countsSeen_apart (apart : ActorsApart a b) (now now' : Rat) (redis : Redis) :
    countsSeen settings b now' (recorded settings a now redis) = countsSeen settings b now' redis := by
  unfold countsSeen
  dsimp only
  rw [recorded_window, recorded_burst, recorded_window, recorded_burst, (recorded_apart apart).1,
    (recorded_apart apart).2]

end

/-- Two requests leave each other's counts alone exactly where their credentials do not collide. -/
theorem noInterference_iff (settings : RateSettings) (first second : RateRequest) :
    NoInterference settings first second ↔ ∀ c d, credential first = some c →
      credential second = some d → ¬ Collide c d := by
  constructor
  · intro alone c d one two
    apply (apart_iff c d).mp
    apply keys_nodup_iff.mp
    apply alone.keys
    · rw [limitedActor_eq, one]
      rfl
    · rw [limitedActor_eq, two]
      rfl
  · intro distinct
    have apart : ∀ a b, limitedActor first = some a → limitedActor second = some b →
        ActorsApart a b := by
      intro a b one two
      rw [limitedActor_eq] at one two
      obtain ⟨c, own, rfl⟩ := Option.map_eq_some_iff.mp one
      obtain ⟨d, own', rfl⟩ := Option.map_eq_some_iff.mp two
      exact (apart_iff c d).mpr (distinct c d own own')
    constructor
    · intro a b one two
      exact keys_nodup_iff.mpr (apart a b one two)
    · intro b two redis now now'
      rw [dispatch_redis]
      cases one : limitedActor first with
      | none => rfl
      | some a => exact countsSeen_apart (apart a b one two) now now' redis
    · intro a one redis now now'
      rw [dispatch_redis]
      cases two : limitedActor second with
      | none => rfl
      | some b => exact countsSeen_apart (apart a b one two).symm now now' redis

/-! Two users with tokens of one algorithm. -/

def bearerOf (claims : String) : RateRequest where
  path := "/api/v1/workflows/"
  stateActor := none
  apiKey := none
  authorization := some ("Bearer eyJhbGciOiJIUzI1NiIsInR5cCI6IkpXVCJ9." ++ claims)

theorem tokens_interfere :
    ¬ NoInterference defaultRateSettings (bearerOf "ann") (bearerOf "bob") := by
  intro alone
  have distinct := alone.keys "bearer:eyJhbGci" "bearer:eyJhbGci" rfl rfl
  simp at distinct

end SyndicateClaw.Api
