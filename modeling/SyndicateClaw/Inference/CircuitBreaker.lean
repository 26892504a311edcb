import SyndicateClaw.Data.SlidingWindow
import SyndicateClaw.Inference.Registry

/-! The circuit of a provider, over every sequence of failures, successes and reads. -/

namespace SyndicateClaw.Inference

open Authz

inductive CircuitEvent where
  | failure
  | success
  | read
  deriving DecidableEq

/-- A call of `record_failure`, `record_success` or `state`. -/
structure CircuitCall where
  event : CircuitEvent
  now : Time
  deriving DecidableEq

/-- The calls come one after another, and then it is `now`. -/
def InTurn (calls : List CircuitCall) (now : Time) : Prop :=
  (calls.map CircuitCall.now ++ [now]).Pairwise (· ≤ ·)

def failuresSince (calls : List CircuitCall) : List Time :=
  calls.foldl (fun times call =>
    match call.event with
    | .failure => times ++ [call.now]
    | .success => []
    | .read => times) []

theorem inTurn_nil (now : Time) : InTurn [] now := List.pairwise_singleton _ now

theorem inTurn_snoc {calls : List CircuitCall} {call : CircuitCall} {now : Time} :
    InTurn (calls ++ [call]) now ↔ InTurn calls call.now ∧ call.now ≤ now := by
  unfold InTurn
  rw [List.map_append, List.map_singleton, List.pairwise_append]
  constructor
  · rintro ⟨sorted, -, last⟩
    exact ⟨sorted, last call.now (by simp) now (List.mem_singleton_self now)⟩
  · rintro ⟨sorted, le⟩
    refine ⟨sorted, List.pairwise_singleton _ now, fun time member other same => ?_⟩
    rw [List.mem_singleton.mp same]
    rcases List.mem_append.mp member with early | last
    · have before := (List.pairwise_append.mp sorted).2.2 time early call.now
      exact (before (List.mem_singleton_self _)).trans le
    · rw [List.mem_singleton.mp last]
      exact le

theorem InTurn.of_prefix {before calls : List CircuitCall} {now : Time}
    (ordered : InTurn calls now) (first : before <+: calls) : InTurn before now := by
  refine List.Pairwise.sublist ?_ ordered
  exact (first.sublist.map CircuitCall.now).append (List.Sublist.refl [now])

namespace CircuitBreaker

section

variable (breaker : CircuitBreaker)

def after (call : CircuitCall) : CircuitBreaker :=
  match call.event with
  | .failure => breaker.recordFailure call.now
  | .success => breaker.recordSuccess
  | .read => breaker.state call.now

def run (calls : List CircuitCall) : CircuitBreaker := calls.foldl after breaker

/-- What `state(now)` answers. -/
def answer (now : Time) : CircuitState := (breaker.state now).current

def new (failureThreshold : Int) (windowSeconds openSeconds : Time) : CircuitBreaker :=
  { failureThreshold, windowSeconds, openSeconds }

theorem run_snoc (calls : List CircuitCall) (call : CircuitCall) :
    breaker.run (calls ++ [call]) = (breaker.run calls).after call :=
  List.foldl_append ..

end

variable {breaker : CircuitBreaker} {call : CircuitCall} {now : Time}

/-! ### One call -/

theorem state_of_not_cooled (warm : breaker.cooled now ≠ true) : breaker.state now = breaker :=
  if_neg warm

theorem state_of_cooled (cooled : breaker.cooled now = true) :
    breaker.state now = { breaker with current := .halfOpen } :=
  if_pos cooled

theorem cooled_iff : breaker.cooled now = true ↔ breaker.current = .opened ∧
    ∃ since, breaker.openedAt = some since ∧ since + breaker.openSeconds ≤ now := by
  unfold cooled
  rw [Bool.and_eq_true, decide_eq_true_eq, Option.any_eq_true]
  apply and_congr_right
  intro _
  apply exists_congr
  intro since
  rw [decide_eq_true_eq]
  exact and_congr_right fun _ => le_sub_iff_add_le'

theorem cooled_later {later : Time} (cooled : breaker.cooled now = true) (le : now ≤ later) :
    breaker.cooled later = true := by
  obtain ⟨opened, since, at_, passed⟩ := cooled_iff.mp cooled
  exact cooled_iff.mpr ⟨opened, since, at_, passed.trans le⟩

theorem recordFailure_cases (sorted : (breaker.failTimes ++ [now]).Pairwise (· ≤ ·)) :
    (breaker.failureThreshold ≤
        (recent breaker.windowSeconds now (breaker.failTimes ++ [now])).length ∧
      breaker.recordFailure now = { breaker with
        failTimes := recent breaker.windowSeconds now (breaker.failTimes ++ [now])
        current := .opened, openedAt := some now }) ∨
    ((recent breaker.windowSeconds now (breaker.failTimes ++ [now])).length <
        breaker.failureThreshold ∧
      breaker.recordFailure now = { breaker with
        failTimes := recent breaker.windowSeconds now (breaker.failTimes ++ [now]) }) := by
  unfold recordFailure
  rw [dropWhile_eq_recent sorted]
  by_cases many : breaker.failureThreshold ≤
      (recent breaker.windowSeconds now (breaker.failTimes ++ [now])).length
  · exact .inl ⟨many, if_pos many⟩
  · exact .inr ⟨not_le.mp many, if_neg many⟩

theorem after_settings (breaker : CircuitBreaker) (call : CircuitCall) :
    (breaker.after call).failureThreshold = breaker.failureThreshold ∧
    (breaker.after call).windowSeconds = breaker.windowSeconds ∧
    (breaker.after call).openSeconds = breaker.openSeconds := by
  unfold after recordFailure recordSuccess state
  dsimp only
  split
  · split <;> exact ⟨rfl, rfl, rfl⟩
  · split <;> exact ⟨rfl, rfl, rfl⟩
  · split <;> exact ⟨rfl, rfl, rfl⟩

theorem run_settings (breaker : CircuitBreaker) (calls : List CircuitCall) :
    (breaker.run calls).failureThreshold = breaker.failureThreshold ∧
    (breaker.run calls).windowSeconds = breaker.windowSeconds ∧
    (breaker.run calls).openSeconds = breaker.openSeconds := by
  induction calls using List.reverseRecOn with
  | nil => exact ⟨rfl, rfl, rfl⟩
  | append_singleton calls call ih =>
      rw [run_snoc]
      obtain ⟨threshold, window, open_⟩ := after_settings (breaker.run calls) call
      exact ⟨threshold.trans ih.1, window.trans ih.2.1, open_.trans ih.2.2⟩

/-! ### What a breaker remembers -/

/-- The failures that are kept are in order, and while the circuit is closed they are too few to
open it and as recent as those since the last success. -/
structure Remembers (breaker : CircuitBreaker) (times : List Time) (now : Time) : Prop where
  sorted : (breaker.failTimes ++ [now]).Pairwise (· ≤ ·)
  few : breaker.current = .closed → breaker.failTimes.length < breaker.failureThreshold
  same : breaker.current = .closed → ∀ later, now ≤ later →
    recent breaker.windowSeconds later times =
      recent breaker.windowSeconds later breaker.failTimes

theorem sorted_of_sorted {times : List Time} {now later : Time}
    (sorted : (times ++ [now]).Pairwise (· ≤ ·)) (le : now ≤ later) :
    (times ++ [later]).Pairwise (· ≤ ·) := by
  rw [List.pairwise_append] at sorted ⊢
  refine ⟨sorted.1, List.pairwise_singleton _ later, fun time member other last => ?_⟩
  rw [List.mem_singleton.mp last]
  exact (sorted.2.2 time member now (List.mem_singleton_self now)).trans le

theorem sorted_recent {times : List Time} {span : Time}
    (sorted : (times ++ [now]).Pairwise (· ≤ ·)) :
    (recent span now (times ++ [now]) ++ [now]).Pairwise (· ≤ ·) := by
  have below : ∀ time ∈ times ++ [now], time ≤ now := by
    intro time member
    rcases List.mem_append.mp member with early | last
    · exact (List.pairwise_append.mp sorted).2.2 time early now (List.mem_singleton_self now)
    · exact (List.mem_singleton.mp last).le
  refine List.pairwise_append.mpr ⟨sorted.sublist List.filter_sublist,
    List.pairwise_singleton _ now, fun time member other last => ?_⟩
  rw [List.mem_singleton.mp last]
  exact below time (List.mem_of_mem_filter member)

theorem Remembers.later {times : List Time} {later : Time} (holds : Remembers breaker times now)
    (le : now ≤ later) : Remembers breaker times later where
  sorted := sorted_of_sorted holds.sorted le
  few := holds.few
  same closed other after := holds.same closed other (le.trans after)

theorem remembers_failure {times : List Time} (holds : Remembers breaker times now) :
    Remembers (breaker.recordFailure now) (times ++ [now]) now := by
  rcases recordFailure_cases holds.sorted with ⟨-, trips⟩ | ⟨few, counts⟩
  · rw [trips]
    exact ⟨sorted_recent holds.sorted, nofun, nofun⟩
  · rw [counts]
    refine ⟨sorted_recent holds.sorted, fun _ => few, fun closed later le => ?_⟩
    dsimp only
    rw [recent_recent le, recent_append, recent_append, holds.same closed later le]

theorem remembers_success {times : List Time} (positive : 0 < breaker.failureThreshold)
    (holds : Remembers breaker times now) : Remembers breaker.recordSuccess [] now := by
  unfold recordSuccess
  have alone : (([] : List Time) ++ [now]).Pairwise (· ≤ ·) := List.pairwise_singleton _ now
  split
  · exact ⟨alone, fun _ => positive, fun _ _ _ => rfl⟩
  · exact ⟨alone, fun _ => positive, fun _ _ _ => rfl⟩
  · next opened =>
      have other : breaker.current ≠ .closed := by simp [opened]
      exact ⟨holds.sorted, fun closed => absurd closed other, fun closed => absurd closed other⟩

theorem remembers_read {times : List Time} (holds : Remembers breaker times now) :
    Remembers (breaker.state now) times now := by
  by_cases cooled : breaker.cooled now = true
  · rw [state_of_cooled cooled]
    exact ⟨holds.sorted, nofun, nofun⟩
  · rw [state_of_not_cooled cooled]
    exact holds

theorem failuresSince_snoc (calls : List CircuitCall) (call : CircuitCall) :
    failuresSince (calls ++ [call]) = match call.event with
      | .failure => failuresSince calls ++ [call.now]
      | .success => []
      | .read => failuresSince calls :=
  List.foldl_append ..

theorem remembers_run {threshold : Int} (window open_ : Time) (positive : 0 < threshold)
    {calls : List CircuitCall} (ordered : InTurn calls now) :
    Remembers ((new threshold window open_).run calls) (failuresSince calls) now := by
  induction calls using List.reverseRecOn generalizing now with
  | nil => exact ⟨List.pairwise_singleton _ now, fun _ => positive, fun _ _ _ => rfl⟩
  | append_singleton calls call ih =>
      obtain ⟨before, le⟩ := inTurn_snoc.mp ordered
      have holds := ih before
      have positive' : 0 < ((new threshold window open_).run calls).failureThreshold := by
        rw [(run_settings _ calls).1]
        exact positive
      refine Remembers.later ?_ le
      rw [run_snoc, failuresSince_snoc]
      unfold after
      cases call.event with
      | failure => exact remembers_failure holds
      | success => exact remembers_success positive' holds
      | read => exact remembers_read holds

/-! ### What an open circuit waits for -/

/-- Opened at `t` or later; or half-open, and the time that it stays open has passed. -/
def HeldOpen (t : Time) (breaker : CircuitBreaker) (now : Time) : Prop :=
  (breaker.current = .opened ∧ ∃ since, breaker.openedAt = some since ∧ t ≤ since) ∨
    (breaker.current = .halfOpen ∧ t + breaker.openSeconds ≤ now)

theorem HeldOpen.later {t later : Time} (held : HeldOpen t breaker now) (le : now ≤ later) :
    HeldOpen t breaker later :=
  held.imp_right fun ⟨half, passed⟩ => ⟨half, passed.trans le⟩

theorem heldOpen_failure {t : Time} (sorted : (breaker.failTimes ++ [now]).Pairwise (· ≤ ·))
    (le : t ≤ now) (held : HeldOpen t breaker now) :
    HeldOpen t (breaker.recordFailure now) now := by
  rcases recordFailure_cases sorted with ⟨-, trips⟩ | ⟨-, counts⟩
  · rw [trips]
    exact .inl ⟨rfl, now, rfl, le⟩
  · rw [counts]
    exact held

theorem heldOpen_success {t : Time} (early : now < t + breaker.openSeconds)
    (held : HeldOpen t breaker now) : HeldOpen t breaker.recordSuccess now := by
  rcases held with ⟨opened, at_⟩ | ⟨-, passed⟩
  · have ignored : breaker.recordSuccess = breaker := by simp [recordSuccess, opened]
    rw [ignored]
    exact .inl ⟨opened, at_⟩
  · exact absurd early (not_lt.mpr passed)

theorem heldOpen_read {t : Time} (held : HeldOpen t breaker now) :
    HeldOpen t (breaker.state now) now := by
  by_cases cooled : breaker.cooled now = true
  · rw [state_of_cooled cooled]
    obtain ⟨opened, since, at_, passed⟩ := cooled_iff.mp cooled
    refine .inr ⟨rfl, ?_⟩
    rcases held with ⟨-, since', at', le⟩ | ⟨-, passed⟩
    · obtain rfl : since' = since := Option.some.inj (at'.symm.trans at_)
      exact (Int.add_le_add_right le _).trans passed
    · exact passed
  · rw [state_of_not_cooled cooled]
    exact held

theorem answer_heldOpen {t : Time} (held : HeldOpen t breaker now) :
    breaker.answer now ≠ .closed ∧
      (now < t + breaker.openSeconds → breaker.answer now = .opened) := by
  unfold answer
  by_cases cooled : breaker.cooled now = true
  · rw [state_of_cooled cooled]
    refine ⟨nofun, fun early => ?_⟩
    have passed := heldOpen_read held
    rw [state_of_cooled cooled] at passed
    rcases passed with ⟨half, -⟩ | ⟨-, passed⟩
    · cases half
    · exact absurd early (not_lt.mpr passed)
  · rw [state_of_not_cooled cooled]
    rcases held with ⟨opened, -⟩ | ⟨half, passed⟩
    · exact ⟨by simp [opened], fun _ => opened⟩
    · exact ⟨by simp [half], fun early => absurd early (not_lt.mpr passed)⟩

/-- The breaker has just been opened, at `t`. -/
def OpenedAt (t : Time) (breaker : CircuitBreaker) : Prop :=
  breaker.current = .opened ∧ breaker.openedAt = some t

theorem heldOpen_run {threshold : Int} {window open_ t : Time} (positive : 0 < threshold)
    {before later : List CircuitCall} (ordered : InTurn (before ++ [⟨.failure, t⟩] ++ later) now)
    (opens : OpenedAt t ((new threshold window open_).run (before ++ [⟨.failure, t⟩])))
    (early : ∀ call ∈ later, call.event = .success → call.now < t + open_) :
    HeldOpen t ((new threshold window open_).run (before ++ [⟨.failure, t⟩] ++ later)) now := by
  induction later using List.reverseRecOn generalizing now with
  | nil =>
      rw [List.append_nil]
      exact .inl ⟨opens.1, t, opens.2, le_rfl⟩
  | append_singleton later call ih =>
      rw [← List.append_assoc] at ordered ⊢
      obtain ⟨first, le⟩ := inTurn_snoc.mp ordered
      have held := ih first fun other member => early other (List.mem_append_left [call] member)
      have sorted := (remembers_run window open_ positive first).sorted
      have since : t ≤ call.now := by
        have opening := first.of_prefix (List.prefix_append (before ++ [⟨.failure, t⟩]) later)
        exact (inTurn_snoc.mp opening).2
      have settings := (run_settings (new threshold window open_)
        (before ++ [⟨.failure, t⟩] ++ later)).2.2
      refine HeldOpen.later ?_ le
      rw [run_snoc]
      unfold after
      cases event : call.event with
      | failure => exact heldOpen_failure sorted since held
      | success =>
          have soon := early call (List.mem_append_right later (List.mem_singleton_self call)) event
          refine heldOpen_success ?_ held
          rw [settings]
          exact soon
      | read => exact heldOpen_read held

/-! ### The state machine -/

/-- At every point of the calls: closed with too few failures in the window since the last success;
open for as long as it should be, and not closed before a success after that; and opened again by
a failure while half-open. -/
structure StateMachine (breaker : CircuitBreaker) (calls : List CircuitCall) : Prop where
  closed : ∀ before, before <+: calls → ∀ now, InTurn before now →
    (breaker.run before).answer now = .closed →
    (recent breaker.windowSeconds now (failuresSince before)).length < breaker.failureThreshold
  opened : ∀ before t later, before ++ [⟨.failure, t⟩] ++ later <+: calls →
    OpenedAt t (breaker.run (before ++ [⟨.failure, t⟩])) → ∀ now,
      InTurn (before ++ [⟨.failure, t⟩] ++ later) now → now < t + breaker.openSeconds →
        (breaker.run (before ++ [⟨.failure, t⟩] ++ later)).answer now = .opened
  waits : ∀ before t later, before ++ [⟨.failure, t⟩] ++ later <+: calls →
    OpenedAt t (breaker.run (before ++ [⟨.failure, t⟩])) →
    (∀ call ∈ later, call.event = .success → call.now < t + breaker.openSeconds) →
      ∀ now, InTurn (before ++ [⟨.failure, t⟩] ++ later) now →
        (breaker.run (before ++ [⟨.failure, t⟩] ++ later)).answer now ≠ .closed
  reopens : ∀ before t, before ++ [⟨.failure, t⟩] <+: calls →
    (breaker.run before).answer t = .halfOpen → ∀ now, t ≤ now → now < t + breaker.openSeconds →
      (breaker.run (before ++ [⟨.failure, t⟩])).answer now = .opened

/-- A failure while half-open comes while the failures that are remembered from its window are,
with it, enough to open the circuit. -/
def RepeatedFailures (breaker : CircuitBreaker) (calls : List CircuitCall) : Prop :=
  ∀ before t, before ++ [⟨.failure, t⟩] <+: calls → (breaker.run before).answer t = .halfOpen →
    0 < breaker.openSeconds → breaker.failureThreshold ≤
      (recent breaker.windowSeconds t ((breaker.run before).failTimes ++ [t])).length

theorem answer_recordFailure_few (counts : breaker.recordFailure now =
    { breaker with failTimes := recent breaker.windowSeconds now (breaker.failTimes ++ [now]) }) :
    (breaker.recordFailure now).answer now = breaker.answer now := by
  rw [counts]
  unfold answer state cooled
  dsimp only
  split <;> rfl

end CircuitBreaker

structure CircuitHistory where
  calls : List CircuitCall
  inTurn : (calls.map CircuitCall.now).Pairwise (· ≤ ·)

theorem CircuitHistory.at_last (history : CircuitHistory) {before : List CircuitCall}
    {call : CircuitCall} (first : before ++ [call] <+: history.calls) :
    InTurn before call.now := by
  have sorted := history.inTurn.sublist (first.sublist.map CircuitCall.now)
  rw [List.map_append] at sorted
  exact sorted

namespace CircuitBreaker

section

variable {threshold : Int} {window open_ t now : Time}

theorem few_of_closed (positive : 0 < threshold) {calls : List CircuitCall}
    (ordered : InTurn calls now)
    (closed : ((new threshold window open_).run calls).answer now = .closed) :
    (recent window now (failuresSince calls)).length < threshold := by
  have holds := remembers_run window open_ positive ordered
  obtain ⟨needs, spans, -⟩ := run_settings (new threshold window open_) calls
  have warm : ((new threshold window open_).run calls).cooled now ≠ true := by
    intro cooled
    unfold answer at closed
    rw [state_of_cooled cooled] at closed
    cases closed
  unfold answer at closed
  rw [state_of_not_cooled warm] at closed
  have few := holds.few closed
  rw [needs] at few
  change _ = window at spans
  rw [← spans, holds.same closed now le_rfl]
  exact lt_of_le_of_lt (Int.ofNat_le.mpr recent_length_le) few

theorem opened_until (positive : 0 < threshold) {before later : List CircuitCall}
    (opens : OpenedAt t ((new threshold window open_).run (before ++ [⟨.failure, t⟩])))
    (ordered : InTurn (before ++ [⟨.failure, t⟩] ++ later) now) (soon : now < t + open_) :
    ((new threshold window open_).run (before ++ [⟨.failure, t⟩] ++ later)).answer now =
      .opened := by
  have settings := (run_settings (new threshold window open_)
    (before ++ [⟨.failure, t⟩] ++ later)).2.2
  have early : ∀ call ∈ later, call.event = .success → call.now < t + open_ := by
    intro call member _
    have last := (List.pairwise_append.mp ordered).2.2 call.now
      (List.mem_map_of_mem (List.mem_append_right _ member)) now (List.mem_singleton_self now)
    exact lt_of_le_of_lt last soon
  apply (answer_heldOpen (heldOpen_run positive ordered opens early)).2
  rw [settings]
  exact soon

theorem opened_of_many (positive : 0 < threshold) {calls : List CircuitCall}
    (ordered : InTurn calls t)
    (many : threshold ≤ (recent window t
      (((new threshold window open_).run calls).failTimes ++ [t])).length)
    (soon : now < t + open_) :
    ((new threshold window open_).run (calls ++ [⟨.failure, t⟩])).answer now = .opened := by
  have sorted := (remembers_run window open_ positive ordered).sorted
  obtain ⟨needs, spans, stays⟩ := run_settings (new threshold window open_) calls
  rw [run_snoc]
  rcases recordFailure_cases sorted with ⟨-, trips⟩ | ⟨few, -⟩
  · have held : HeldOpen t (((new threshold window open_).run calls).recordFailure t) now := by
      rw [trips]
      exact .inl ⟨rfl, t, rfl, le_rfl⟩
    apply (answer_heldOpen held).2
    rw [trips]
    dsimp only
    rw [stays]
    exact soon
  · rw [needs, spans] at few
    exact absurd many (not_le.mpr few)

theorem many_of_opened (positive : 0 < threshold) {calls : List CircuitCall}
    (ordered : InTurn calls t)
    (half : ((new threshold window open_).run calls).answer t = .halfOpen)
    (again : ((new threshold window open_).run (calls ++ [⟨.failure, t⟩])).answer t = .opened) :
    threshold ≤ (recent window t
      (((new threshold window open_).run calls).failTimes ++ [t])).length := by
  have sorted := (remembers_run window open_ positive ordered).sorted
  obtain ⟨needs, spans, -⟩ := run_settings (new threshold window open_) calls
  rcases recordFailure_cases sorted with ⟨many, -⟩ | ⟨-, counts⟩
  · rw [needs, spans] at many
    exact many
  · rw [run_snoc] at again
    have stays := (answer_recordFailure_few counts).trans half
    have told : CircuitState.halfOpen = .opened := stays.symm.trans again
    cases told

end

/-- The breaker is the state machine exactly if it needs a failure to open and every failure while
half-open meets enough others in its window. -/
theorem stateMachine_iff (threshold : Int) (window open_ : Time) (history : CircuitHistory) :
    StateMachine (new threshold window open_) history.calls ↔
      0 < threshold ∧ RepeatedFailures (new threshold window open_) history.calls := by
  constructor
  · intro machine
    have positive : 0 < threshold :=
      machine.closed [] (List.nil_prefix) 0 (inTurn_nil 0) rfl
    refine ⟨positive, fun before t first half some_ => ?_⟩
    have again := machine.reopens before t first half t le_rfl (lt_add_of_pos_right t some_)
    exact many_of_opened positive (history.at_last first) half again
  · rintro ⟨positive, repeated⟩
    refine ⟨?_, ?_, ?_, ?_⟩
    · intro before _ now ordered closed
      exact few_of_closed positive ordered closed
    · intro before t later _ opens now ordered soon
      exact opened_until positive opens ordered soon
    · intro before t later _ opens early now ordered
      exact (answer_heldOpen (heldOpen_run positive ordered opens early)).1
    · intro before t first half now le soon
      have lasts : 0 < open_ := pos_of_lt_add_right (lt_of_le_of_lt le soon)
      exact opened_of_many positive (history.at_last first) (repeated before t first half lasts)
        soon

def lateFailures : CircuitHistory where
  calls := [⟨.failure, 0⟩, ⟨.failure, 0⟩, ⟨.failure, 0⟩, ⟨.failure, 0⟩, ⟨.failure, 0⟩,
    ⟨.read, 61⟩, ⟨.failure, 61⟩]
  inTurn := by decide

/-- With the settings that providers have, the failure of the trial leaves the circuit half-open. -/
theorem trial_failure_ignored : ¬ StateMachine (new 5 60 30) lateFailures.calls := by
  intro machine
  have again := machine.reopens [⟨.failure, 0⟩, ⟨.failure, 0⟩, ⟨.failure, 0⟩, ⟨.failure, 0⟩,
    ⟨.failure, 0⟩, ⟨.read, 61⟩] 61 (List.prefix_refl _) (by decide) 61 (by decide) (by decide)
  exact absurd again (by decide)

end CircuitBreaker

/-! ### Reads that are left out -/

/-- The other calls are these and some more reads. -/
inductive FewerReads : List CircuitCall → List CircuitCall → Prop where
  | nil : FewerReads [] []
  | both {calls full : List CircuitCall} (call : CircuitCall) : FewerReads calls full →
      FewerReads (calls ++ [call]) (full ++ [call])
  | extra {calls full : List CircuitCall} (now : Time) : FewerReads calls full →
      FewerReads calls (full ++ [⟨.read, now⟩])

theorem FewerReads.refl (calls : List CircuitCall) : FewerReads calls calls := by
  induction calls using List.reverseRecOn with
  | nil => exact .nil
  | append_singleton calls call ih => exact .both call ih

namespace CircuitBreaker

/-- The breakers are alike, or the one has been half-opened by a read and the other would be. -/
def ReadApart (breaker read : CircuitBreaker) (now : Time) : Prop :=
  read = breaker ∨
    (breaker.cooled now = true ∧ read = { breaker with current := .halfOpen })

variable {breaker read : CircuitBreaker} {now : Time}

theorem ReadApart.later {later : Time} (apart : ReadApart breaker read now) (le : now ≤ later) :
    ReadApart breaker read later :=
  apart.imp_right fun ⟨cooled, half⟩ => ⟨cooled_later cooled le, half⟩

theorem readApart_state (breaker : CircuitBreaker) (now : Time) :
    ReadApart breaker (breaker.state now) now := by
  by_cases cooled : breaker.cooled now = true
  · exact .inr ⟨cooled, state_of_cooled cooled⟩
  · exact .inl (state_of_not_cooled cooled)

theorem ReadApart.state_eq (apart : ReadApart breaker read now) :
    read.state now = breaker.state now := by
  rcases apart with rfl | ⟨cooled, rfl⟩
  · rfl
  · rw [state_of_cooled cooled]
    exact if_neg nofun

theorem ReadApart.failure (apart : ReadApart breaker read now) :
    ReadApart (breaker.recordFailure now) (read.recordFailure now) now := by
  rcases apart with rfl | ⟨cooled, rfl⟩
  · exact .inl rfl
  · unfold recordFailure
    dsimp only
    split
    · exact .inl rfl
    · exact .inr ⟨cooled, rfl⟩

theorem ReadApart.success (warm : breaker.cooled now ≠ true) (apart : ReadApart breaker read now) :
    read.recordSuccess = breaker.recordSuccess := by
  rcases apart with rfl | ⟨cooled, -⟩
  · rfl
  · exact absurd cooled warm

theorem readApart_run {calls full : List CircuitCall} (fewer : FewerReads calls full)
    (seen : ∀ before t, before ++ [⟨.success, t⟩] <+: calls →
      (breaker.run before).cooled t ≠ true) (ordered : InTurn full now) :
    ReadApart (breaker.run calls) (breaker.run full) now := by
  induction fewer generalizing now with
  | nil => exact .inl rfl
  | @both calls full call _ ih =>
      obtain ⟨first, le⟩ := inTurn_snoc.mp ordered
      have apart := ih
        (fun before t own => seen before t (own.trans (List.prefix_append _ _))) first
      refine ReadApart.later ?_ le
      rw [run_snoc, run_snoc]
      unfold after
      cases event : call.event with
      | failure => exact apart.failure
      | success =>
          have own : calls ++ [⟨.success, call.now⟩] = calls ++ [call] := by rw [← event]
          exact .inl (apart.success (seen calls call.now (own ▸ List.prefix_refl _)))
      | read => exact .inl apart.state_eq
  | @extra calls full earlier _ ih =>
      obtain ⟨first, le⟩ := inTurn_snoc.mp ordered
      have apart := ih seen first
      refine ReadApart.later ?_ le
      rw [run_snoc]
      show ReadApart _ ((breaker.run full).state earlier) earlier
      rw [apart.state_eq]
      exact readApart_state (breaker.run calls) earlier

theorem answer_success (cooled : breaker.cooled now = true) :
    (breaker.state now).recordSuccess.answer now = .closed ∧
      breaker.recordSuccess.answer now = .halfOpen := by
  have opened := (cooled_iff.mp cooled).1
  have ignored : breaker.recordSuccess = breaker := by simp [recordSuccess, opened]
  constructor
  · rw [state_of_cooled cooled]
    rfl
  · unfold answer
    rw [ignored, state_of_cooled cooled]

end CircuitBreaker

namespace ProviderRegistry

variable (registry : ProviderRegistry) (providerId : String)

/-- A call of `record_circuit_failure`, `record_circuit_success` or `circuit_state`. -/
def after (call : CircuitCall) : ProviderRegistry :=
  match call.event with
  | .failure => registry.recordCircuitFailure providerId call.now
  | .success => registry.recordCircuitSuccess providerId
  | .read => registry.tick providerId call.now

def run (calls : List CircuitCall) : ProviderRegistry :=
  calls.foldl (fun registry call => registry.after providerId call) registry

def circuit? : Option CircuitBreaker := (Dict.get? registry.ephemeral providerId).map (·.circuit)

theorem run_snoc (calls : List CircuitCall) (call : CircuitCall) :
    registry.run providerId (calls ++ [call]) =
      (registry.run providerId calls).after providerId call :=
  List.foldl_append ..

theorem circuitState_eq (now : Time) : registry.circuitState providerId now =
    ((registry.circuit? providerId).map fun circuit => circuit.answer now).getD .closed := by
  unfold circuitState circuit?
  cases Dict.get? registry.ephemeral providerId <;> rfl

theorem circuit?_changeCircuit (change : CircuitBreaker → CircuitBreaker) :
    (registry.changeCircuit providerId change).circuit? providerId =
      (registry.circuit? providerId).map change := by
  unfold changeCircuit circuit?
  cases found : Dict.get? registry.ephemeral providerId with
  | none => simp [found]
  | some state => simp

theorem circuit?_after (call : CircuitCall) :
    (registry.after providerId call).circuit? providerId =
      (registry.circuit? providerId).map fun circuit => circuit.after call := by
  unfold after CircuitBreaker.after
  cases call.event with
  | failure => exact circuit?_changeCircuit registry providerId _
  | success => exact circuit?_changeCircuit registry providerId _
  | read => exact circuit?_changeCircuit registry providerId fun circuit => circuit.state call.now

theorem circuit?_run (calls : List CircuitCall) :
    (registry.run providerId calls).circuit? providerId =
      (registry.circuit? providerId).map fun circuit => circuit.run calls := by
  induction calls using List.reverseRecOn with
  | nil => simp [run, CircuitBreaker.run]
  | append_singleton calls call ih =>
      rw [run_snoc, circuit?_after, ih, Option.map_map]
      simp only [CircuitBreaker.run_snoc, Function.comp_def]

/-- Whatever further reads there have been at any point, `circuit_state` answers the same. -/
def ReadsUnobservable (calls : List CircuitCall) : Prop :=
  ∀ before, before <+: calls → ∀ full, FewerReads before full → ∀ now, InTurn full now →
    (registry.run providerId full).circuitState providerId now =
      (registry.run providerId before).circuitState providerId now

/-- No success is reported after the open period of a circuit whose state nobody has asked for
since. -/
def SuccessesSeen (calls : List CircuitCall) : Prop :=
  ∀ before t, before ++ [⟨.success, t⟩] <+: calls → ∀ circuit,
    (registry.run providerId before).circuit? providerId = some circuit → circuit.cooled t ≠ true

variable {registry providerId}

theorem circuitState_run (calls : List CircuitCall) (now : Time) :
    (registry.run providerId calls).circuitState providerId now =
      ((registry.circuit? providerId).map fun circuit => (circuit.run calls).answer now).getD
        .closed := by
  rw [circuitState_eq, circuit?_run, Option.map_map]
  rfl

/-- Reads are unobservable exactly if no success is reported between the end of an open period and
the next read. -/
theorem reads_unobservable_iff (registry : ProviderRegistry) (providerId : String)
    (history : CircuitHistory) : ReadsUnobservable registry providerId history.calls ↔
      SuccessesSeen registry providerId history.calls := by
  constructor
  · intro unobservable before t first circuit found cooled
    rw [circuit?_run, Option.map_eq_some_iff] at found
    obtain ⟨own, present, rfl⟩ := found
    -- the same calls, with a read just before the success
    have full : FewerReads (before ++ [⟨.success, t⟩])
        (before ++ [⟨.read, t⟩] ++ [⟨.success, t⟩]) :=
      .both _ (.extra t (.refl before))
    have earlier : InTurn before t := history.at_last first
    have ordered : InTurn (before ++ [⟨.read, t⟩] ++ [⟨.success, t⟩]) t :=
      inTurn_snoc.mpr ⟨inTurn_snoc.mpr ⟨earlier, le_rfl⟩, le_rfl⟩
    have same := unobservable _ first _ full t ordered
    rw [circuitState_run, circuitState_run, present] at same
    simp only [Option.map_some, Option.getD_some, CircuitBreaker.run_snoc] at same
    obtain ⟨closes, waits⟩ := CircuitBreaker.answer_success cooled
    have told : CircuitState.closed = .halfOpen := closes.symm.trans (same.trans waits)
    cases told
  · intro seen before first full fewer now ordered
    rw [circuitState_run, circuitState_run]
    cases present : registry.circuit? providerId with
    | none => rfl
    | some circuit =>
        have apart := @CircuitBreaker.readApart_run circuit _ _ _ fewer (by
          intro early t own
          apply seen early t (own.trans first)
          rw [circuit?_run, present]
          rfl) ordered
        simp only [Option.map_some, Option.getD_some, CircuitBreaker.answer, apart.state_eq]

def oneProvider : ProviderRegistry :=
  { providers := [("a", { id := "a", capabilities := [] })], ephemeral := [("a", {})] }

def lateSuccess : CircuitHistory where
  calls := [⟨.failure, 0⟩, ⟨.failure, 0⟩, ⟨.failure, 0⟩, ⟨.failure, 0⟩, ⟨.failure, 0⟩,
    ⟨.success, 100⟩]
  inTurn := by decide

/-- With a read before it the success closes the circuit; without, it does not. -/
theorem read_observed : ¬ ReadsUnobservable oneProvider "a" lateSuccess.calls := by
  intro unobservable
  have full : FewerReads lateSuccess.calls [⟨.failure, 0⟩, ⟨.failure, 0⟩, ⟨.failure, 0⟩,
      ⟨.failure, 0⟩, ⟨.failure, 0⟩, ⟨.read, 100⟩, ⟨.success, 100⟩] :=
    .both ⟨.success, 100⟩ (.extra 100 (.refl [⟨.failure, 0⟩, ⟨.failure, 0⟩, ⟨.failure, 0⟩,
      ⟨.failure, 0⟩, ⟨.failure, 0⟩]))
  have same := unobservable _ (List.prefix_refl _) _ full 100 (by unfold InTurn; decide)
  exact absurd same (by decide)

end ProviderRegistry

end SyndicateClaw.Inference
