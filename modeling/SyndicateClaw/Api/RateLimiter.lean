import Mathlib.Algebra.Order.Field.Rat
import Mathlib.Logic.Function.Basic
import Mathlib.Tactic.Linarith
import SyndicateClaw.Data.SlidingWindow

/-! `RateLimitMiddleware`: sliding windows in Redis. -/

namespace SyndicateClaw.Api

/-! ### Sorted sets -/

/-- A sorted set whose members are the texts of their scores, and when its key expires. -/
structure SortedSet where
  readings : List Rat := []
  expiresAt : Option Rat := none
  deriving DecidableEq

namespace SortedSet

def live (now : Rat) (set : SortedSet) : SortedSet :=
  if set.expiresAt.any fun at_ => at_ ≤ now then {} else set

/-- `zremrangebyscore(key, "-inf", cutoff)` -/
def zremrangebyscore (cutoff : Rat) (set : SortedSet) : SortedSet :=
  { set with readings := set.readings.filter fun r => cutoff < r }

/-- `zadd(key, {str(now): now})` -/
def zadd (now : Rat) (set : SortedSet) : SortedSet :=
  { set with readings := if now ∈ set.readings then set.readings else set.readings ++ [now] }

def zcard (set : SortedSet) : Nat := set.readings.length

def expire (seconds now : Rat) (set : SortedSet) : SortedSet :=
  { set with expiresAt := some (now + seconds) }

def record (span now : Rat) (set : SortedSet) : SortedSet :=
  (((set.live now).zremrangebyscore (now - span)).zadd now).expire (span + 1) now

end SortedSet

abbrev Redis := String → SortedSet

/-! ### Requests -/

structure RateRequest where
  path : String
  /-- `request.state.actor` -/
  stateActor : Option String
  apiKey : Option String
  authorization : Option String

structure RateSettings where
  rateLimitRequests : Nat
  rateLimitWindowSeconds : Nat
  rateLimitBurst : Nat
  requests : 1 ≤ rateLimitRequests
  window : 1 ≤ rateLimitWindowSeconds
  burst : 1 ≤ rateLimitBurst

def defaultRateSettings : RateSettings where
  rateLimitRequests := 100
  rateLimitWindowSeconds := 60
  rateLimitBurst := 20
  requests := by decide
  window := by decide
  burst := by decide

def rateLimitSkipPaths : List String :=
  ["/healthz", "/readyz", "/docs", "/openapi.json", "/redoc"]

/-- `text[:8]` -/
def firstEight (text : String) : String := String.ofList (text.toList.take 8)

/-- `_extract_actor_hint` -/
def extractActorHint (request : RateRequest) : Option String :=
  match request.apiKey.filter (· ≠ "") with
  | some apiKey => some ("apikey:" ++ firstEight apiKey)
  | none =>
      let auth := request.authorization.getD ""
      if "Bearer ".toList.isPrefixOf auth.toList then
        some ("bearer:" ++ firstEight (String.ofList (auth.toList.drop 7)))
      else none

def limitedActor (request : RateRequest) : Option String :=
  if request.path ∈ rateLimitSkipPaths then none
  else (request.stateActor.or (extractActorHint request)).filter (· ≠ "anonymous")

def windowKey (actor : String) : String := "syndicateclaw:ratelimit:" ++ actor

def burstKey (actor : String) : String := "syndicateclaw:ratelimit:burst:" ++ actor

inductive RateKind where
  | sustained | burst
  deriving DecidableEq

inductive RateOutcome where
  -- The middleware does not limit the request.
  | passed
  | admitted (limit : Nat) (remaining : Nat) (reset : Int)
  | rejected (kind : RateKind) (count limit : Nat) (retryAfter : Int)
  deriving DecidableEq

def RateOutcome.isAdmitted : RateOutcome → Bool
  | .admitted .. => true
  | _ => false

/-- `int(x)` -/
def truncated (x : Rat) : Int := x.num.tdiv x.den

section

variable (settings : RateSettings)

def recorded (actor : String) (now : Rat) (redis : Redis) : Redis :=
  let redis := Function.update redis (windowKey actor)
    ((redis (windowKey actor)).record settings.rateLimitWindowSeconds now)
  Function.update redis (burstKey actor) ((redis (burstKey actor)).record 1 now)

/-- `dispatch`, with Redis available. -/
def dispatch (request : RateRequest) (now : Rat) (redis : Redis) : RateOutcome × Redis :=
  match limitedActor request with
  | none => (.passed, redis)
  | some actor =>
      let window : Rat := settings.rateLimitWindowSeconds
      let cutoff := now - window
      let redis := recorded settings actor now redis
      let windowCount := (redis (windowKey actor)).zcard
      let burstCount := (redis (burstKey actor)).zcard
      if settings.rateLimitRequests < windowCount then
        (.rejected .sustained windowCount settings.rateLimitRequests
          (truncated (window - (now - cutoff)) + 1), redis)
      else if settings.rateLimitBurst < burstCount then
        (.rejected .burst burstCount settings.rateLimitBurst 1, redis)
      else
        (.admitted settings.rateLimitRequests (settings.rateLimitRequests - windowCount)
          (truncated now + settings.rateLimitWindowSeconds), redis)

end

/-! ### Keys -/

theorem burstKey_eq (actor : String) : burstKey actor = windowKey ("burst:" ++ actor) := by
  unfold burstKey windowKey
  rw [← String.append_assoc]
  rfl

theorem windowKey_inj {a b : String} : windowKey a = windowKey b ↔ a = b := by
  unfold windowKey
  exact String.append_right_inj _

theorem burst_ne (actor : String) : "burst:" ++ actor ≠ actor := by
  intro same
  have length := congrArg String.length same
  rw [String.length_append] at length
  have six : "burst:".length = 6 := rfl
  omega

structure ActorsApart (a b : String) : Prop where
  different : a ≠ b
  notBurst : a ≠ "burst:" ++ b
  notBurst' : b ≠ "burst:" ++ a

section

variable {a b : String}

theorem ActorsApart.symm (apart : ActorsApart a b) : ActorsApart b a :=
  ⟨apart.different.symm, apart.notBurst', apart.notBurst⟩

theorem ActorsApart.keys (apart : ActorsApart a b) :
    windowKey a ≠ windowKey b ∧ windowKey a ≠ burstKey b ∧ burstKey a ≠ windowKey b ∧
      burstKey a ≠ burstKey b := by
  rw [burstKey_eq, burstKey_eq]
  simp only [ne_eq, windowKey_inj]
  refine ⟨apart.different, apart.notBurst, fun same => apart.notBurst' same.symm, ?_⟩
  intro same
  exact apart.different ((String.append_right_inj _).mp same)

theorem own_keys (a : String) : windowKey a ≠ burstKey a := by
  rw [burstKey_eq]
  intro same
  exact burst_ne a (windowKey_inj.mp same).symm

variable {settings : RateSettings} {now : Rat} {redis : Redis}

theorem recorded_window :
    recorded settings a now redis (windowKey a) =
      (redis (windowKey a)).record settings.rateLimitWindowSeconds now := by
  unfold recorded
  rw [Function.update_of_ne (own_keys a), Function.update_self]

theorem recorded_burst :
    recorded settings a now redis (burstKey a) = (redis (burstKey a)).record 1 now := by
  unfold recorded
  rw [Function.update_self, Function.update_of_ne (own_keys a).symm]

theorem recorded_other {key : String} (window : key ≠ windowKey a) (burst : key ≠ burstKey a) :
    recorded settings a now redis key = redis key := by
  unfold recorded
  rw [Function.update_of_ne burst, Function.update_of_ne window]

theorem recorded_apart (apart : ActorsApart a b) :
    recorded settings a now redis (windowKey b) = redis (windowKey b) ∧
      recorded settings a now redis (burstKey b) = redis (burstKey b) := by
  have keys := apart.symm.keys
  exact ⟨recorded_other keys.1 keys.2.1, recorded_other keys.2.2.1 keys.2.2.2⟩

theorem dispatch_redis (request : RateRequest) :
    (dispatch settings request now redis).2 =
      match limitedActor request with
      | none => redis
      | some actor => recorded settings actor now redis := by
  unfold dispatch
  split
  · rfl
  · dsimp only
    split
    · rfl
    · split <;> rfl

end

end SyndicateClaw.Api
