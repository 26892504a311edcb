import SyndicateClaw.Authz.Evaluator
import SyndicateClaw.Data.Recency

/-! The cache of the answers of policy gates. -/

namespace SyndicateClaw.Inference

open Authz

/-- `PolicyGateAnswer`. -/
inductive GateAnswer where
  | allow
  | deny
  deriving DecidableEq

/-- The least recently used entry comes first. `maxEntries` is at least 1. -/
structure BoundedPolicyCache where
  ttl : Time
  maxEntries : Nat
  data : Dict String (Time × GateAnswer)

namespace BoundedPolicyCache

variable (cache : BoundedPolicyCache) (key : String) (now : Time)

/-- The answer of `get`. -/
def answer? : Option GateAnswer :=
  match Dict.get? cache.data key with
  | none => none
  | some (expiresAt, answer) => if expiresAt ≤ now then none else some answer

/-- What `get` leaves: an expired entry is deleted, another one is moved to the end. -/
def afterGet : BoundedPolicyCache :=
  match Dict.get? cache.data key with
  | none => cache
  | some (expiresAt, answer) =>
      { cache with
        data := if expiresAt ≤ now then Dict.pop cache.data key
          else Dict.pop cache.data key ++ [(key, expiresAt, answer)] }

def set (answer : GateAnswer) : BoundedPolicyCache :=
  let data := Dict.pop cache.data key ++ [(key, now + cache.ttl, answer)]
  { cache with data := data.drop (data.length - cache.maxEntries) }

variable {cache key now}

theorem mem_of_answer? {answer : GateAnswer} (found : cache.answer? key now = some answer) :
    ∃ expiresAt, (key, expiresAt, answer) ∈ cache.data ∧ now < expiresAt := by
  unfold answer? at found
  cases entry : Dict.get? cache.data key with
  | none =>
      rw [entry] at found
      cases found
  | some stored =>
      rw [entry] at found
      dsimp only at found
      split at found
      · cases found
      · next valid =>
          obtain rfl := Option.some.inj found
          exact ⟨stored.1, Dict.mem_of_get? entry, Int.not_le.mp valid⟩

theorem mem_afterGet {entry : String × Time × GateAnswer}
    (member : entry ∈ (cache.afterGet key now).data) : entry ∈ cache.data := by
  unfold afterGet at member
  cases found : Dict.get? cache.data key with
  | none =>
      rw [found] at member
      exact member
  | some stored =>
      rw [found] at member
      dsimp only at member
      split at member
      · exact List.mem_of_mem_filter member
      · rcases List.mem_append.mp member with old | new
        · exact List.mem_of_mem_filter old
        · rw [List.mem_singleton.mp new]
          exact Dict.mem_of_get? found

theorem afterGet_ttl : (cache.afterGet key now).ttl = cache.ttl := by
  unfold afterGet
  split
  · rfl
  · rfl

theorem mem_set {answer : GateAnswer} {entry : String × Time × GateAnswer}
    (member : entry ∈ (cache.set key now answer).data) :
    entry = (key, now + cache.ttl, answer) ∨ entry ∈ cache.data := by
  have kept := List.mem_of_mem_drop member
  rcases List.mem_append.mp kept with old | new
  · exact .inr (List.mem_of_mem_filter old)
  · exact .inl (List.mem_singleton.mp new)

/-! ### Sequences of calls -/

/-- `BoundedPolicyCache(ttl_seconds=..., max_entries=...)`. -/
def new (ttl : Time) (maxEntries : Int) : BoundedPolicyCache where
  ttl
  maxEntries := (max 1 maxEntries).toNat
  data := []

def clear (cache : BoundedPolicyCache) : BoundedPolicyCache := { cache with data := [] }

inductive Call where
  | get (key : String) (now : Time)
  | set (key : String) (answer : GateAnswer) (now : Time)
  | clear

def apply (cache : BoundedPolicyCache) : Call → BoundedPolicyCache
  | .get key now => cache.afterGet key now
  | .set key answer now => cache.set key now answer
  | .clear => cache.clear

def used? (cache : BoundedPolicyCache) : Call → Option String
  | .get key now => (cache.answer? key now).map fun _ => key
  | .set key _ _ => some key
  | .clear => none

def after (cache : BoundedPolicyCache) (calls : List Call) : BoundedPolicyCache :=
  calls.foldl apply cache

def uses (cache : BoundedPolicyCache) : List Call → List String
  | [] => []
  | call :: calls => (cache.used? call).toList ++ (cache.apply call).uses calls

def keys (cache : BoundedPolicyCache) : List String := cache.data.map Prod.fst

def Call.sets (key : String) : Call → Option (Time × GateAnswer)
  | .set own answer now => if own = key then some (now, answer) else none
  | _ => none

def lastSet (key : String) (calls : List Call) : Option (Time × GateAnswer) :=
  calls.reverse.findSome? (Call.sets key)

@[simp] theorem after_snoc (cache : BoundedPolicyCache) (calls : List Call) (call : Call) :
    cache.after (calls ++ [call]) = (cache.after calls).apply call := by
  simp [after, List.foldl_append]

theorem uses_snoc (cache : BoundedPolicyCache) (calls : List Call) (call : Call) :
    cache.uses (calls ++ [call]) =
      cache.uses calls ++ ((cache.after calls).used? call).toList := by
  induction calls generalizing cache with
  | nil => simp [uses, after]
  | cons first calls ih => simp [uses, ih, after]

@[simp] theorem lastSet_snoc (key : String) (calls : List Call) (call : Call) :
    lastSet key (calls ++ [call]) = (call.sets key).or (lastSet key calls) := by
  simp only [lastSet, List.reverse_append, List.reverse_singleton, List.singleton_append,
    List.findSome?_cons]
  cases call.sets key <;> rfl

structure Tracks (ttl : Time) (maxEntries : Int) (calls : List Call) (uses : List String)
    (cache : BoundedPolicyCache) : Prop where
  ttl_eq : cache.ttl = ttl
  room : cache.maxEntries = (max 1 maxEntries).toNat
  distinct : cache.keys.Nodup
  ordered : ByRecency uses cache.keys
  bounded : cache.data.length ≤ cache.maxEntries
  stored : ∀ key expiresAt answer, (key, expiresAt, answer) ∈ cache.data →
    ∃ setAt, lastSet key calls = some (setAt, answer) ∧ expiresAt = setAt + ttl

section

variable {ttl : Time} {maxEntries : Int} {calls : List Call} {uses : List String}

theorem keys_pop (data : Dict String (Time × GateAnswer)) (key : String) :
    (Dict.pop data key).map Prod.fst = (data.map Prod.fst).filter fun own => own ≠ key := by
  rw [Dict.pop, List.filter_map]
  rfl

theorem tracks_new (ttl : Time) (maxEntries : Int) :
    Tracks ttl maxEntries [] [] (new ttl maxEntries) where
  ttl_eq := rfl
  room := rfl
  distinct := List.nodup_nil
  ordered := List.Pairwise.nil
  bounded := Nat.zero_le _
  stored _ _ _ member := absurd member List.not_mem_nil

theorem Tracks.keep (tracks : Tracks ttl maxEntries calls uses cache)
    {data : Dict String (Time × GateAnswer)} (kept : data.Sublist cache.data)
    {calls' : List Call} (same : ∀ entry ∈ data, lastSet entry.1 calls' = lastSet entry.1 calls) :
    Tracks ttl maxEntries calls' uses { cache with data } where
  ttl_eq := tracks.ttl_eq
  room := tracks.room
  distinct := tracks.distinct.sublist (kept.map Prod.fst)
  ordered := tracks.ordered.sublist (kept.map Prod.fst)
  bounded := kept.length_le.trans tracks.bounded
  stored key expiresAt answer member := by
    rw [same _ member]
    exact tracks.stored key expiresAt answer (kept.subset member)

theorem Tracks.put (tracks : Tracks ttl maxEntries calls uses cache) {key : String}
    {expiresAt setAt : Time} {answer : GateAnswer} (absent : key ∉ cache.keys)
    (last : lastSet key calls = some (setAt, answer)) (expires : expiresAt = setAt + ttl) :
    Tracks ttl maxEntries calls (uses ++ [key])
      { cache with
        data := (cache.data ++ [(key, expiresAt, answer)]).drop
          ((cache.data ++ [(key, expiresAt, answer)]).length - cache.maxEntries) } := by
  have keys : (cache.data ++ [(key, expiresAt, answer)]).map Prod.fst = cache.keys ++ [key] := by
    rw [List.map_append]
    rfl
  have kept := List.drop_sublist ((cache.data ++ [(key, expiresAt, answer)]).length -
    cache.maxEntries) (cache.data ++ [(key, expiresAt, answer)])
  have keptKeys := kept.map Prod.fst
  rw [keys] at keptKeys
  refine ⟨tracks.ttl_eq, tracks.room, ?_, ?_, ?_, ?_⟩
  · have distinct := tracks.distinct.append (List.nodup_singleton key) (by simpa using absent)
    exact distinct.sublist keptKeys
  · exact (tracks.ordered.use absent).sublist keptKeys
  · show ((cache.data ++ [(key, expiresAt, answer)]).drop _).length ≤ cache.maxEntries
    rw [List.length_drop]
    omega
  · intro own expires' answer' member
    rcases List.mem_append.mp (kept.subset member) with old | new
    · exact tracks.stored own expires' answer' old
    · obtain ⟨rfl, rfl, rfl⟩ := by simpa using new
      exact ⟨setAt, last, expires⟩

theorem Tracks.pop (tracks : Tracks ttl maxEntries calls uses cache) (key : String)
    {calls' : List Call} (same : ∀ own, own ≠ key → lastSet own calls' = lastSet own calls) :
    Tracks ttl maxEntries calls' uses { cache with data := Dict.pop cache.data key } :=
  tracks.keep List.filter_sublist fun entry member =>
    same entry.1 (of_decide_eq_true (List.mem_filter.mp member).2)

theorem not_mem_pop (data : Dict String (Time × GateAnswer)) (key : String) :
    key ∉ (Dict.pop data key).map Prod.fst := by
  rw [keys_pop, List.mem_filter]
  exact fun inside => of_decide_eq_true inside.2 rfl

theorem Tracks.get (tracks : Tracks ttl maxEntries calls uses cache) (key : String) (now : Time) :
    Tracks ttl maxEntries (calls ++ [.get key now])
      (uses ++ (cache.used? (.get key now)).toList) (cache.apply (.get key now)) := by
  have same : ∀ own, lastSet own (calls ++ [.get key now]) = lastSet own calls := by
    intro own
    rw [lastSet_snoc]
    rfl
  show Tracks _ _ _ (uses ++ ((cache.answer? key now).map fun _ => key).toList)
    (cache.afterGet key now)
  unfold answer? afterGet
  cases found : Dict.get? cache.data key with
  | none =>
      show Tracks _ _ _ (uses ++ []) cache
      rw [List.append_nil]
      exact tracks.keep (List.Sublist.refl _) fun entry _ => same entry.1
  | some stored =>
      obtain ⟨expiresAt, answer⟩ := stored
      have popped := tracks.pop key fun own _ => same own
      dsimp only
      split
      · show Tracks _ _ _ (uses ++ []) _
        rw [List.append_nil]
        exact popped
      · have inside := Dict.mem_of_get? found
        obtain ⟨setAt, last, expires⟩ := tracks.stored key expiresAt answer inside
        have put := popped.put (not_mem_pop cache.data key) ((same key).trans last) expires
        -- The entry is one of those that were there.
        have fits : (Dict.pop cache.data key ++ [(key, expiresAt, answer)]).length ≤
            cache.maxEntries := by
          have length := (Dict.perm_pop tracks.distinct found).length_eq
          have bounded := tracks.bounded
          simp only [List.length_cons, List.length_append, List.length_nil] at length ⊢
          omega
        dsimp only at put
        rw [Nat.sub_eq_zero_of_le fits, List.drop_zero] at put
        exact put

theorem Tracks.set (tracks : Tracks ttl maxEntries calls uses cache) (key : String)
    (answer : GateAnswer) (now : Time) :
    Tracks ttl maxEntries (calls ++ [.set key answer now])
      (uses ++ (cache.used? (.set key answer now)).toList) (cache.apply (.set key answer now)) := by
  have popped : Tracks ttl maxEntries (calls ++ [.set key answer now]) uses
      { cache with data := Dict.pop cache.data key } := by
    apply tracks.pop key
    intro own other
    rw [lastSet_snoc, Call.sets, if_neg (Ne.symm other)]
    rfl
  have last : lastSet key (calls ++ [.set key answer now]) = some (now, answer) := by
    rw [lastSet_snoc, Call.sets, if_pos rfl]
    rfl
  have expires : now + cache.ttl = now + ttl := by rw [tracks.ttl_eq]
  exact popped.put (not_mem_pop cache.data key) last expires

theorem Tracks.apply (tracks : Tracks ttl maxEntries calls uses cache) (call : Call) :
    Tracks ttl maxEntries (calls ++ [call]) (uses ++ (cache.used? call).toList)
      (cache.apply call) := by
  cases call with
  | get key now => exact tracks.get key now
  | set key answer now => exact tracks.set key answer now
  | clear =>
      show Tracks _ _ _ (uses ++ []) { cache with data := [] }
      rw [List.append_nil]
      exact tracks.keep (List.nil_sublist _) fun entry member => absurd member List.not_mem_nil

end

theorem tracks_after (ttl : Time) (maxEntries : Int) (calls : List Call) :
    Tracks ttl maxEntries calls ((new ttl maxEntries).uses calls)
      ((new ttl maxEntries).after calls) := by
  induction calls using List.reverseRecOn with
  | nil => exact tracks_new ttl maxEntries
  | append_singleton calls call ih =>
      rw [uses_snoc, after_snoc]
      exact ih.apply call

theorem keys_set (cache : BoundedPolicyCache) (key : String) (answer : GateAnswer) (now : Time) :
    (cache.set key now answer).keys = (cache.keys.filter (fun own => own ≠ key) ++ [key]).drop
      ((cache.keys.filter (fun own => own ≠ key) ++ [key]).length - cache.maxEntries) := by
  have whole : (Dict.pop cache.data key ++ [(key, now + cache.ttl, answer)]).map Prod.fst =
      cache.keys.filter (fun own => own ≠ key) ++ [key] := by
    rw [List.map_append, keys_pop]
    rfl
  rw [← whole, List.length_map, ← List.map_drop]
  rfl

theorem Tracks.evicts {ttl : Time} {maxEntries : Int} {calls : List Call} {uses : List String}
    (tracks : Tracks ttl maxEntries calls uses cache) (key : String) (answer : GateAnswer)
    (now : Time) : key ∈ (cache.set key now answer).keys ∧
      ∀ evicted ∈ cache.keys, evicted ∉ (cache.set key now answer).keys →
        ((cache.set key now answer).data.length : Int) = max 1 maxEntries ∧
        ∀ kept ∈ (cache.set key now answer).keys, UsedLater (uses ++ [key]) evicted kept := by
  have absent : key ∉ cache.keys.filter fun own => own ≠ key := by simp
  have ordered : ByRecency (uses ++ [key]) (cache.keys.filter (fun own => own ≠ key) ++ [key]) :=
    (tracks.ordered.sublist List.filter_sublist).use absent
  have room := tracks.room
  have length : (cache.set key now answer).data.length = (cache.set key now answer).keys.length :=
    (List.length_map _).symm
  rw [length, keys_set]
  generalize front : cache.keys.filter (fun own => own ≠ key) = others at absent ordered
  have stays : key ∈ (others ++ [key]).drop ((others ++ [key]).length - cache.maxEntries) := by
    rw [List.drop_append_of_le_length]
    · exact List.mem_append_right _ (List.mem_singleton_self key)
    · rw [List.length_append, List.length_singleton]
      omega
  refine ⟨stays, fun evicted inside gone => ?_⟩
  have other : evicted ≠ key := fun same => gone (same ▸ stays)
  have before : evicted ∈ others ++ [key] := by
    rw [← front]
    exact List.mem_append_left _ (List.mem_filter.mpr ⟨inside, decide_eq_true other⟩)
  refine ⟨?_, fun kept member => ordered.drop before gone member⟩
  have full : cache.maxEntries < (others ++ [key]).length := by
    by_contra fits
    rw [Nat.sub_eq_zero_of_le (Nat.not_lt.mp fits), List.drop_zero] at gone
    exact gone before
  rw [List.length_drop]
  omega

/-- After any calls the cache is within its bound, answers with what was set last and not `ttl` ago,
and gives up, when it is full, only keys that were used less recently than all that stay. -/
theorem bounded_recent (ttl : Time) (maxEntries : Int) (calls : List Call) :
    (((new ttl maxEntries).after calls).data.length : Int) ≤ max 1 maxEntries ∧
    (∀ key now answer, ((new ttl maxEntries).after calls).answer? key now = some answer →
      ∃ setAt, lastSet key calls = some (setAt, answer) ∧ now - setAt < ttl) ∧
    ∀ key answer now,
      key ∈ (((new ttl maxEntries).after calls).set key now answer).keys ∧
      ∀ evicted ∈ ((new ttl maxEntries).after calls).keys,
        evicted ∉ (((new ttl maxEntries).after calls).set key now answer).keys →
        ((((new ttl maxEntries).after calls).set key now answer).data.length : Int) =
          max 1 maxEntries ∧
        ∀ kept ∈ (((new ttl maxEntries).after calls).set key now answer).keys,
          UsedLater ((new ttl maxEntries).uses (calls ++ [.set key answer now])) evicted kept := by
  have tracks := tracks_after ttl maxEntries calls
  refine ⟨?_, ?_, ?_⟩
  · have bounded := tracks.bounded
    rw [tracks.room] at bounded
    omega
  · intro key now answer found
    obtain ⟨expiresAt, inside, fresh⟩ := mem_of_answer? found
    obtain ⟨setAt, last, rfl⟩ := tracks.stored key expiresAt answer inside
    exact ⟨setAt, last, Int.sub_left_lt_of_lt_add fresh⟩
  · intro key answer now
    rw [uses_snoc]
    exact tracks.evicts key answer now

end BoundedPolicyCache

end SyndicateClaw.Inference
