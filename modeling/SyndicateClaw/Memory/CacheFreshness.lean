import SyndicateClaw.Memory.ServiceSteps

/-! What a read may serve, over every interleaving of the calls: a record as it stood in the table no
earlier than the last change of it that was completed when the read began. -/

namespace SyndicateClaw.Memory

open Async Orchestrator
open Authz (Time)

/-- The records that a call has updated, deleted or purged, once that is committed. -/
def MemoryTurn.touched : MemoryTurn → List String
  | .settling touched _ | .done touched => touched
  | _ => []

/-- The call has updated, deleted or purged the record, and has returned. -/
def MemoryTurn.Completed (recordId : String) : MemoryTurn → Prop
  | .done touched => recordId ∈ touched
  | _ => False

section

variable {ι : Type} [DecidableEq ι] (service : MemoryService) (start : MemoryCrew ι)
  (acts : List (Act ι Passage MemoryEvent))

/-- The record as it stood at a moment that is not before the changes completed by then. -/
def AsStored (m s : Nat) (record : MemoryRecord) : Prop :=
  StoredRecord (start.after service acts m).shared record ∧
    ∀ j, ((start.after service acts s).phase j).Completed record.id →
      record.id ∈ ((start.after service acts m).phase j).touched

/-- What a read returns that has not begun at `s` has not expired by then, and stood in the table at a
moment up to its return that is not before the changes completed at `s`: it is no record that one of
them deleted, and no older than what one of them set. -/
def ReadsLive : Prop :=
  ∀ i s a namespaceName key actor record,
    (start.after service acts s).phase i = .called (.read namespaceName key actor) → s ≤ a →
    (start.after service acts a).phase i = .answered (some record) →
    (∀ expiresAt, record.expiresAt = some expiresAt →
      (start.after service acts s).shared.clock < expiresAt) ∧
      ∃ m ≤ a, AsStored service start acts m s record

end

/-! ### The condition -/

/-- A record is put into the cache while the table holds it, and for no longer than it lives; when a
deletion is committed the record is not cached; an invalidation fails only where nothing is cached
that the call has changed. -/
def MemoryTurn.Careful (world : MemoryWorld) : Passage → MemoryTurn → Prop
  | .succeeds, .found _ _ record =>
      StoredRecord world record ∧ ∀ expiresAt, record.expiresAt = some expiresAt →
        expiryAfter world.clock (MemoryWorld.ttlOf record) ≤ expiresAt
  | .succeeds, .unlinked _ seen =>
      ∀ key record, world.cached key = some record → record.id ≠ seen.id
  | .succeeds, .called .enforceRetention =>
      world.unlocked world.purgeableIds = true →
        ∀ key record, world.cached key = some record → record.id ∉ world.purgeableIds
  | .fails, .settling touched (key :: _) =>
      ∀ record, world.cached key = some record → record.id ∈ touched → StoredRecord world record
  | _, _ => True

def CarefulAct {ι : Type} (crew : MemoryCrew ι) : Act ι Passage MemoryEvent → Prop
  | .own i passage => (crew.phase i).Careful crew.shared passage
  | .outside _ => True

structure Placed {ι : Type} (place : String → String × String) (records : MemoryTable)
    (calls : ι → MemoryCall) : Prop where
  rows : ∀ row ∈ records.rows, place row.id = (row.namespaceName, row.key)
  writes : ∀ i record, calls i = .write record →
    place record.id = (record.namespaceName, record.key)

/-! ### The table -/

section

variable {service : MemoryService} {world : MemoryWorld}
  {turn : MemoryTurn} {passage : Passage} {place : String → String × String}

def RowsPlaced (place : String → String × String) (rows : List MemoryRow) : Prop :=
  ∀ row ∈ rows, place row.id = (row.namespaceName, row.key)

def MemoryTurn.Knows (place : String → String × String) : MemoryTurn → Prop
  | .called (.write record) => place record.id = (record.namespaceName, record.key)
  | .found namespaceName key record => place record.id = (namespaceName, key)
  | .purging rows => RowsPlaced place rows
  | _ => True

theorem RowsPlaced.insert (placed : RowsPlaced place world.records.rows) {row : MemoryRow}
    (own : place row.id = (row.namespaceName, row.key)) :
    RowsPlaced place (world.records.insert row).rows := by
  intro other member
  rcases Keyed.mem_insert member with old | rfl
  · exact placed other old
  · exact own

theorem RowsPlaced.changeAt (placed : RowsPlaced place world.records.rows) (recordId : String)
    (f : MemoryRow → MemoryRow) (keeps : ∀ row, (f row).id = row.id)
    (stays : ∀ row, (f row).namespaceName = row.namespaceName ∧ (f row).key = row.key) :
    RowsPlaced place (world.records.changeAt recordId f keeps).rows := by
  intro row member
  obtain ⟨old, inside, rfl⟩ := List.mem_map.mp member
  have own := placed old inside
  split
  · rw [keeps, (stays old).1, (stays old).2, own]
  · exact own

theorem RowsPlaced.remove (placed : RowsPlaced place world.records.rows) (ids : List String) :
    RowsPlaced place (world.remove ids).records.rows :=
  fun row member => placed row (List.mem_filter.mp member).1

theorem knows_settle (touched keys : List String) : (MemoryTurn.settle touched keys).Knows place := by
  cases keys <;> trivial

theorem placed_advance (placed : RowsPlaced place world.records.rows) (known : turn.Knows place) :
    RowsPlaced place (turn.advance service world).1.records.rows ∧
      (turn.advance service world).2.Knows place := by
  have step := advances service world turn
  generalize turn.advance service world = moved at step ⊢
  cases step with
  | stays => exact ⟨placed, known⟩
  | @finds namespaceName key actor record held =>
      refine ⟨placed, ?_⟩
      obtain ⟨row, member, _, sameId, sameNamespace, sameKey⟩ := getByKey_decoded held
      show place record.id = (namespaceName, key)
      rw [← sameId, placed row member, sameNamespace, sameKey]
  | writes valid =>
      obtain ⟨expiresAt, rfl⟩ := writtenRecord_ok valid
      exact ⟨placed.insert known, trivial⟩
  | @updates updates seen _ existing now =>
      have keeps := flushed_id updates now seen existing
      exact ⟨placed.changeAt seen.id _ keeps fun _ => ⟨rfl, rfl⟩, trivial⟩
  | removes => exact ⟨placed.remove _, trivial⟩
  | @marks seen =>
      have keeps := softDeleted_id world.clock seen
      exact ⟨placed.changeAt seen.id _ keeps fun _ => ⟨rfl, rfl⟩, trivial⟩
  | lists => exact ⟨placed, fun row member => placed row (List.mem_filter.mp member).1⟩
  | purges => exact ⟨placed.remove _, knows_settle _ _⟩
  | retains => exact ⟨placed.remove _, trivial⟩
  | invalidates => exact ⟨placed, knows_settle _ _⟩
  | _ => exact ⟨placed, trivial⟩

variable (service passage) in
theorem placed_move {ι : Type} (i : ι) (placed : RowsPlaced place world.records.rows)
    (known : turn.Knows place) :
    RowsPlaced place (turn.move service i passage world).1.records.rows ∧
      (turn.move service i passage world).2.Knows place := by
  cases passage with
  | succeeds => exact placed_advance placed known
  | fails =>
      cases turn with
      | called call => cases call <;> exact ⟨placed, trivial⟩
      | settling touched keys =>
          cases keys with
          | nil => exact ⟨placed, trivial⟩
          | cons key keys => exact ⟨placed, knows_settle _ _⟩
      | _ => exact ⟨placed, trivial⟩
  | dies => cases turn <;> exact ⟨placed, trivial⟩

/-! ### Invalidation -/

def keyOf (place : String → String × String) (recordId : String) : String :=
  cacheKey (place recordId).1 (place recordId).2

def MemoryTurn.Passed (place : String → String × String) (recordId : String) : MemoryTurn → Prop
  | .settling touched keys => recordId ∈ touched ∧ keyOf place recordId ∉ keys
  | .done touched => recordId ∈ touched
  | _ => False

theorem MemoryTurn.Passed.touched {recordId : String} (passed : turn.Passed place recordId) :
    recordId ∈ turn.touched := by
  cases turn with
  | settling touched keys => exact passed.1
  | done touched => exact passed
  | _ => exact passed.elim

theorem MemoryTurn.Completed.passed {recordId : String} (completed : turn.Completed recordId) :
    turn.Passed place recordId := by
  cases turn with
  | done touched => exact completed
  | _ => exact completed.elim

theorem MemoryTurn.Completed.touched {recordId : String} (completed : turn.Completed recordId) :
    recordId ∈ turn.touched := by
  cases turn with
  | done touched => exact completed
  | _ => exact completed.elim

theorem passed_settle {touched keys : List String} {recordId : String}
    (passed : (MemoryTurn.settle touched keys).Passed place recordId) :
    recordId ∈ touched ∧ keyOf place recordId ∉ keys := by
  cases keys with
  | nil => exact ⟨passed, List.not_mem_nil⟩
  | cons key keys => exact passed

theorem keyOf_eq {recordId namespaceName key : String}
    (placed : place recordId = (namespaceName, key)) :
    keyOf place recordId = cacheKey namespaceName key := by
  unfold keyOf
  rw [placed]

/-- The step that puts an invalidation behind a call: a deletion or a retention is committed, or the
key of the record comes up. -/
inductive MemoryTurn.Passes (place : String → String × String) (world : MemoryWorld)
    (recordId : String) : Passage → MemoryTurn → Prop where
  | deletes {hard : Bool} {seen : MemoryRow} (same : recordId = seen.id) :
      Passes place world recordId .succeeds (.unlinked hard seen)
  | retains (free : world.unlocked world.purgeableIds = true)
      (purged : recordId ∈ world.purgeableIds) :
      Passes place world recordId .succeeds (.called .enforceRetention)
  | invalidates {passage : Passage} {touched keys : List String} (lives : passage ≠ .dies)
      (changed : recordId ∈ touched) :
      Passes place world recordId passage (.settling touched (keyOf place recordId :: keys))

theorem passed_cons (lives : passage ≠ .dies) {touched keys : List String} {key recordId : String}
    (passed : (MemoryTurn.settle touched keys).Passed place recordId) :
    (MemoryTurn.settling touched (key :: keys)).Passed place recordId ∨
      (MemoryTurn.settling touched (key :: keys)).Passes place world recordId passage := by
  obtain ⟨changed, behind⟩ := passed_settle passed
  by_cases own : key = keyOf place recordId
  · subst own
    exact .inr (.invalidates lives changed)
  · left
    refine ⟨changed, ?_⟩
    intro member
    rcases List.mem_cons.mp member with same | later
    · exact own same.symm
    · exact behind later

theorem passed_advance {recordId : String} (placed : RowsPlaced place world.records.rows)
    (known : turn.Knows place) (passed : (turn.advance service world).2.Passed place recordId) :
    turn.Passed place recordId ∨ turn.Passes place world recordId .succeeds := by
  have step := advances service world turn
  generalize turn.advance service world = moved at step passed
  cases step with
  | stays => exact .inl passed
  | writes => cases passed.1
  | @updates _ _ row _ _ found =>
      obtain ⟨member, same⟩ := Keyed.get?_eq_some.mp found
      have own : keyOf place recordId = cacheKey row.namespaceName row.key := by
        rw [List.mem_singleton.mp passed.1, ← same]
        exact keyOf_eq (placed row member)
      exact absurd (List.mem_singleton.mpr own) passed.2
  | skips => cases passed
  | misses => cases passed.1
  | removes => exact .inr (.deletes (List.mem_singleton.mp passed))
  | marks => exact .inr (.deletes (List.mem_singleton.mp passed))
  | purges =>
      obtain ⟨changed, behind⟩ := passed_settle passed
      obtain ⟨row, member, rfl⟩ := List.mem_map.mp changed
      rw [keyOf_eq (known row member)] at behind
      exact absurd (List.mem_map_of_mem member) behind
  | retains free => exact .inr (.retains free passed)
  | invalidates => exact passed_cons (by decide) passed
  | ends => exact .inl ⟨passed, List.not_mem_nil⟩
  | _ => exact passed.elim

theorem passed_move {ι : Type} {i : ι} {recordId : String}
    (placed : RowsPlaced place world.records.rows) (known : turn.Knows place)
    (passed : (turn.move service i passage world).2.Passed place recordId) :
    turn.Passed place recordId ∨ turn.Passes place world recordId passage := by
  revert passed
  cases passage with
  | succeeds => exact passed_advance placed known
  | fails =>
      cases turn with
      | called call => cases call <;> exact False.elim
      | settling touched keys =>
          cases keys with
          | nil => exact fun passed => .inl ⟨passed, List.not_mem_nil⟩
          | cons key keys => exact fun passed => passed_cons (by decide) passed
      | done touched => exact .inl
      | _ => exact False.elim
  | dies =>
      cases turn with
      | done touched => exact .inl
      | _ => exact False.elim

end

/-! ### Runs -/

section

variable {ι : Type} [DecidableEq ι] {service : MemoryService}
  {place : String → String × String} {states : Nat → MemoryCrew ι} {n : Nat}

/-- What holds before act `n`: each entry is under the key of its record and goes before the record
expires, and what is served stood in the table no earlier than the changes that are invalidated. -/
structure Sound (place : String → String × String) (states : Nat → MemoryCrew ι) (n : Nat) :
    Prop where
  rows : RowsPlaced place (states n).shared.records.rows
  turns : ∀ i, ((states n).phase i).Knows place
  entries : ∀ key entry, Dict.get? (states n).shared.cache key = some entry →
    key = keyOf place entry.record.id ∧
      ∀ expiresAt, entry.record.expiresAt = some expiresAt → entry.expires ≤ expiresAt
  fresh : ∀ key record, (states n).shared.cached key = some record →
    ∃ m ≤ n, StoredRecord (states m).shared record ∧
      ∀ j, ((states n).phase j).Passed place record.id → record.id ∈ ((states m).phase j).touched

theorem Sound.stored_now {record : MemoryRecord} (stored : StoredRecord (states n).shared record)
    {later : MemoryCrew ι} {i : ι} (others : ∀ j, j ≠ i → later.phase j = (states n).phase j)
    (own : (later.phase i).Passed place record.id → record.id ∈ ((states n).phase i).touched) :
    ∃ m ≤ n + 1, StoredRecord (states m).shared record ∧
      ∀ j, (later.phase j).Passed place record.id → record.id ∈ ((states m).phase j).touched := by
  refine ⟨n, Nat.le_succ n, stored, ?_⟩
  intro j passed
  by_cases same : j = i
  · subst same
    exact own passed
  · rw [others j same] at passed
    exact passed.touched

theorem Sound.own (sound : Sound place states n) (i : ι) (passage : Passage)
    (careful : ((states n).phase i).Careful (states n).shared passage)
    (next : states (n + 1) =
      (states n).step (MemoryTurn.move service) MemoryEvent.apply (.own i passage)) :
    Sound place states (n + 1) := by
  have shared : (states (n + 1)).shared =
      (((states n).phase i).move service i passage (states n).shared).1 := by
    rw [next]
    rfl
  have mine : (states (n + 1)).phase i =
      (((states n).phase i).move service i passage (states n).shared).2 := by
    rw [next]
    exact Function.update_self ..
  have others (j : ι) (other : j ≠ i) : (states (n + 1)).phase j = (states n).phase j := by
    rw [next]
    exact Function.update_of_ne other ..
  have placed := placed_move service passage i sound.rows (sound.turns i)
  constructor
  · rw [shared]
    exact placed.1
  · intro j
    by_cases same : j = i
    · subst same
      rw [mine]
      exact placed.2
    · rw [others j same]
      exact sound.turns j
  · intro key entry there
    rw [shared] at there
    rcases entry_move there with
      ⟨before, _⟩ | ⟨namespaceName, recordKey, rfl, turn, rfl, expires⟩
    · exact sound.entries key entry before
    · have known := sound.turns i
      rw [turn] at known careful
      refine ⟨(keyOf_eq known).symm, ?_⟩
      rw [expires]
      exact careful.2
  · intro key record served
    obtain ⟨entry, there, lives, rfl⟩ := cached_eq_some.mp served
    rw [shared] at there lives
    rw [(cache_move service i passage _ _).1] at lives
    rcases entry_move there with ⟨before, stays⟩ | ⟨namespaceName, recordKey, rfl, turn, _, _⟩
    · have visible : (states n).shared.cached key = some entry.record :=
        cached_eq_some.mpr ⟨entry, before, lives, rfl⟩
      by_cases passes : ((states n).phase i).Passes place (states n).shared entry.record.id passage
      · -- The record is invalidated now: only a failure leaves it in the cache.
        generalize turn : (states n).phase i = acting at passes careful stays
        cases passes with
        | deletes same => exact absurd same (careful key entry.record visible)
        | retains free purged => exact absurd purged (careful free key entry.record visible)
        | invalidates runs changed =>
            have under := (sound.entries key entry before).1
            cases passage with
            | succeeds =>
                rw [under] at stays
                exact absurd rfl (stays _ _ rfl)
            | fails =>
                rw [under] at visible
                have stored := careful entry.record visible changed
                apply Sound.stored_now stored others
                rw [turn]
                exact fun _ => changed
            | dies => exact absurd rfl runs
      · obtain ⟨m, le, stored, before⟩ := sound.fresh key entry.record visible
        refine ⟨m, le.trans (Nat.le_succ n), stored, ?_⟩
        intro j passed
        by_cases same : j = i
        · subst same
          rw [mine] at passed
          rcases passed_move sound.rows (sound.turns j) passed with old | now
          · exact before j old
          · exact absurd now passes
        · rw [others j same] at passed
          exact before j passed
    · rw [turn] at careful mine
      apply Sound.stored_now careful.1 others
      rw [mine]
      exact False.elim

theorem Sound.outside (sound : Sound place states n) (event : MemoryEvent)
    (next : states (n + 1) =
      (states n).step (MemoryTurn.move service) MemoryEvent.apply (.outside event)) :
    Sound place states (n + 1) := by
  have phases : (states (n + 1)).phase = (states n).phase := by
    rw [next]
    rfl
  have shared : (states (n + 1)).shared = event.apply (states n).shared := by
    rw [next]
    rfl
  have entries (key : String) (entry : CachedRecord)
      (there : Dict.get? (states (n + 1)).shared.cache key = some entry) :
      Dict.get? (states n).shared.cache key = some entry := by
    rw [shared] at there
    cases event with
    | tick later => exact there
    | evict gone =>
        have popped : Dict.get? (Dict.pop (states n).shared.cache gone) key = some entry := there
        rw [Dict.get?_pop] at popped
        split at popped
        · cases popped
        · exact popped
  have clock : (states n).shared.clock ≤ (states (n + 1)).shared.clock := by
    rw [shared]
    cases event with
    | tick later => exact Int.le_max_left _ _
    | evict gone => exact Int.le_refl _
  constructor
  · rw [shared]
    cases event <;> exact sound.rows
  · rw [phases]
    exact sound.turns
  · exact fun key entry there => sound.entries key entry (entries key entry there)
  · intro key record served
    obtain ⟨entry, there, lives, rfl⟩ := cached_eq_some.mp served
    obtain ⟨m, le, stored, before⟩ := sound.fresh key entry.record
      (cached_eq_some.mpr ⟨entry, entries key entry there, Int.lt_of_le_of_lt clock lives, rfl⟩)
    rw [phases]
    exact ⟨m, le.trans (Nat.le_succ n), stored, before⟩

end

section

variable {ι : Type} [DecidableEq ι] {service : MemoryService} {place : String → String × String}
  {records : MemoryTable} {clock : Time} {calls : ι → MemoryCall}
  {acts : List (Act ι Passage MemoryEvent)}

theorem sound_start (placed : Placed place records calls) :
    Sound place ((MemoryCrew.start records clock calls).after service acts) 0 := by
  have first : (MemoryCrew.start records clock calls).after service acts 0 =
      MemoryCrew.start records clock calls := stateAfter_zero ..
  constructor
  · rw [first]
    exact placed.rows
  · intro i
    rw [first]
    show (MemoryTurn.called (calls i)).Knows place
    cases call : calls i with
    | write record => exact placed.writes i record call
    | _ => trivial
  · intro key entry there
    rw [first] at there
    cases there
  · intro key record served
    rw [first] at served
    cases served

theorem sound_after (placed : Placed place records calls)
    (careful : ∀ n act, acts[n]? = some act →
      CarefulAct ((MemoryCrew.start records clock calls).after service acts n) act) (n : Nat) :
    Sound place ((MemoryCrew.start records clock calls).after service acts) n := by
  induction n with
  | zero => exact sound_start placed
  | succ n ih =>
      cases present : acts[n]? with
      | none =>
          have same : (MemoryCrew.start records clock calls).after service acts (n + 1) =
              (MemoryCrew.start records clock calls).after service acts n :=
            stateAfter_succ_of_none _ _ _ present
          constructor
          · rw [same]
            exact ih.rows
          · rw [same]
            exact ih.turns
          · rw [same]
            exact ih.entries
          · rw [same]
            intro key record served
            obtain ⟨m, le, fresh⟩ := ih.fresh key record served
            exact ⟨m, le.trans (Nat.le_succ n), fresh⟩
      | some act =>
          have next := stateAfter_succ (Crew.step (MemoryTurn.move service) MemoryEvent.apply)
            (MemoryCrew.start records clock calls) acts present
          have kept := careful n act present
          cases act with
          | own i passage => exact ih.own i passage kept next
          | outside event => exact ih.outside event next

theorem done_after {start : MemoryCrew ι} {j : ι} {touched : List String} {s n : Nat} (le : s ≤ n)
    (done : (start.after service acts s).phase j = .done touched) :
    (start.after service acts n).phase j = .done touched := by
  apply stateAfter_from _ _ _ (fun crew : MemoryCrew ι => crew.phase j = .done touched) le done
  intro k act _ _ still
  rcases Crew.step_phase (MemoryTurn.move service) MemoryEvent.apply
      (start.after service acts k) act j with same | ⟨passage, _, _, moved⟩
  · exact same.trans still
  · rw [still] at moved
    refine moved.trans ?_
    cases passage <;> rfl

theorem clock_after {start : MemoryCrew ι} {s n : Nat} (le : s ≤ n) :
    (start.after service acts s).shared.clock ≤ (start.after service acts n).shared.clock := by
  apply stateAfter_from _ _ _
    (fun crew : MemoryCrew ι => (start.after service acts s).shared.clock ≤ crew.shared.clock) le
    (Int.le_refl _)
  intro k act _ _ later
  apply Int.le_trans later
  cases act with
  | own i passage => exact Int.le_of_eq (cache_move service i passage _ _).1.symm
  | outside event =>
      cases event with
      | tick time => exact Int.le_max_left _ _
      | evict key => exact Int.le_refl _

theorem Completed.after {start : MemoryCrew ι} {j : ι} {recordId : String} {s n : Nat} (le : s ≤ n)
    (completed : ((start.after service acts s).phase j).Completed recordId) :
    ((start.after service acts n).phase j).Completed recordId := by
  cases turn : (start.after service acts s).phase j with
  | done touched =>
      rw [done_after le turn]
      rw [turn] at completed
      exact completed
  | _ =>
      rw [turn] at completed
      exact completed.elim

/-- What a read has in hand is live since `s`. -/
def LiveSince (service : MemoryService) (start : MemoryCrew ι)
    (acts : List (Act ι Passage MemoryEvent)) (s n : Nat) (record : MemoryRecord) : Prop :=
  (∀ expiresAt, record.expiresAt = some expiresAt →
    (start.after service acts s).shared.clock < expiresAt) ∧
    ∃ m ≤ n, AsStored service start acts m s record

theorem LiveSince.succ {start : MemoryCrew ι} {s n : Nat} {record : MemoryRecord}
    (live : LiveSince service start acts s n record) :
    LiveSince service start acts s (n + 1) record := by
  obtain ⟨unexpired, m, le, stored⟩ := live
  exact ⟨unexpired, m, le.trans (Nat.le_succ n), stored⟩

/-- Where a read may be, with what it may have in hand. -/
def ReadTurn (service : MemoryService) (start : MemoryCrew ι)
    (acts : List (Act ι Passage MemoryEvent)) (s n : Nat) : MemoryTurn → Prop
  | .called (.read _ _ _) | .querying _ _ _ | .answered none | .raised _ => True
  | .found _ _ record | .answered (some record) => LiveSince service start acts s n record
  | _ => False

theorem live_of_cached {start : MemoryCrew ι} {s n : Nat} (le : s ≤ n) {key : String}
    {record : MemoryRecord} (sound : Sound place (start.after service acts) n)
    (served : (start.after service acts n).shared.cached key = some record) :
    LiveSince service start acts s n record := by
  obtain ⟨m, before, stored, passed⟩ := sound.fresh key record served
  refine ⟨?_, m, before, stored, ?_⟩
  · intro expiresAt expires
    obtain ⟨entry, there, lives, rfl⟩ := cached_eq_some.mp served
    have bound := (sound.entries key entry there).2 expiresAt expires
    exact Int.lt_of_lt_of_le (Int.lt_of_le_of_lt (clock_after le) lives) bound
  · intro j completed
    exact passed j (Completed.after le completed).passed

theorem live_of_stored {start : MemoryCrew ι} {s n : Nat} (le : s ≤ n) {record : MemoryRecord}
    (stored : StoredRecord (start.after service acts n).shared record)
    (lives : ∀ expiresAt, record.expiresAt = some expiresAt →
      (start.after service acts n).shared.clock < expiresAt) :
    LiveSince service start acts s n record := by
  constructor
  · intro expiresAt expires
    exact Int.lt_of_le_of_lt (clock_after le) (lives expiresAt expires)
  · refine ⟨n, le_refl n, stored, ?_⟩
    intro j completed
    exact (Completed.after le completed).touched

theorem ReadTurn.keep {start : MemoryCrew ι} {s n : Nat} {turn : MemoryTurn}
    (reads : ReadTurn service start acts s n turn) : ReadTurn service start acts s (n + 1) turn := by
  cases turn with
  | called call => cases call <;> exact reads
  | found namespaceName key record => exact LiveSince.succ reads
  | answered answer =>
      cases answer with
      | none => trivial
      | some record => exact LiveSince.succ reads
  | _ => exact reads

theorem ReadTurn.succ {start : MemoryCrew ι} {s n : Nat} (le : s ≤ n)
    (sound : Sound place (start.after service acts) n) {turn : MemoryTurn} (i : ι)
    (passage : Passage) (reads : ReadTurn service start acts s n turn) :
    ReadTurn service start acts s (n + 1)
      (turn.move service i passage (start.after service acts n).shared).2 := by
  cases turn with
  | called call =>
      cases call with
      | read namespaceName key actor =>
          cases passage with
          | succeeds =>
              simp only [MemoryTurn.move, MemoryTurn.advance]
              cases served : (start.after service acts n).shared.cached
                  (cacheKey namespaceName key) with
              | none => trivial
              | some record =>
                  have live := (live_of_cached le sound served).succ
                  dsimp only
                  unfold answerFor
                  split
                  · exact live
                  · trivial
          | fails => trivial
          | dies => trivial
      | _ => exact reads.elim
  | querying namespaceName key actor =>
      cases passage with
      | succeeds =>
          simp only [MemoryTurn.move, MemoryTurn.advance]
          rcases readRow_cases (start.after service acts n).shared namespaceName key actor with
            absent | invalid | ⟨record, ⟨found, _⟩ | returned, held, active, lives⟩
          · rw [absent]
            trivial
          · rw [invalid]
            trivial
          · rw [found]
            exact (live_of_stored le (stored_of_getByKey held active) lives).succ
          · rw [returned]
            exact (live_of_stored le (stored_of_getByKey held active) lives).succ
      | fails => trivial
      | dies => trivial
  | found namespaceName key record =>
      cases passage with
      | succeeds => exact LiveSince.succ reads
      | fails => exact LiveSince.succ reads
      | dies => trivial
  | answered answer => cases passage <;> exact reads.keep
  | raised error => cases passage <;> exact reads.keep
  | _ => exact reads.elim

/-- In a careful run every read returns what is live. -/
theorem reads_live (service : MemoryService) (records : MemoryTable) (clock : Time)
    (calls : ι → MemoryCall) (place : String → String × String)
    (placed : Placed place records calls) (acts : List (Act ι Passage MemoryEvent))
    (careful : ∀ n act, acts[n]? = some act →
      CarefulAct ((MemoryCrew.start records clock calls).after service acts n) act) :
    ReadsLive service (.start records clock calls) acts := by
  intro i s a namespaceName key actor record begins le returned
  have reads : ReadTurn service (.start records clock calls) acts s a
      (((MemoryCrew.start records clock calls).after service acts a).phase i) := by
    clear returned
    induction a, le using Nat.le_induction with
    | base =>
        rw [begins]
        trivial
    | succ a le ih =>
        cases present : acts[a]? with
        | none =>
            have same : (MemoryCrew.start records clock calls).after service acts (a + 1) =
                (MemoryCrew.start records clock calls).after service acts a :=
              stateAfter_succ_of_none _ _ _ present
            rw [same]
            exact ih.keep
        | some act =>
            have next := stateAfter_succ (Crew.step (MemoryTurn.move service) MemoryEvent.apply)
              (MemoryCrew.start records clock calls) acts present
            rcases Crew.step_phase (MemoryTurn.move service) MemoryEvent.apply
                ((MemoryCrew.start records clock calls).after service acts a) act i with
              same | ⟨passage, _, _, moved⟩
            · rw [MemoryCrew.after, Crew.after, next, same]
              exact ih.keep
            · rw [MemoryCrew.after, Crew.after, next, moved]
              exact ih.succ le (sound_after placed careful a) i passage
  rw [returned] at reads
  exact reads

end

/-! A note that is read into the cache: its time runs out there; it is deleted, and read between the
invalidation and the commit; it is updated between the query and the filling of the cache. -/

def noteRow (expiresAt : Option Time) : MemoryRow where
  id := "m1"
  namespaceName := "team"
  key := "a"
  value := .dict [("note", .str "x")]
  memoryType := .semantic
  source := some "chat"
  actor := some "ada"
  confidence := some 1
  accessPolicy := "default"
  lineage := []
  ttlSeconds := none
  expiresAt
  deletionStatus := .active
  deletedAt := none
  tags := []
  createdAt := 0
  updatedAt := 0

def noteRecord (expiresAt : Option Time) : MemoryRecord where
  id := "m1"
  namespaceName := "team"
  key := "a"
  value := .dict [("note", .str "x")]
  memoryType := .semantic
  source := "chat"
  actor := "ada"
  confidence := 1
  accessPolicy := "default"
  lineage := {}
  ttlSeconds := none
  expiresAt
  deletionStatus := .active
  deletedAt := none
  tags := []
  createdAt := 0
  updatedAt := 0

def noteTable (expiresAt : Option Time) : MemoryTable := ⟨[noteRow expiresAt], List.nodup_singleton _⟩

def readNote : MemoryCall := .read "team" "a" "bob"

def goesOn (turns : List Nat) : List (Act Nat Passage MemoryEvent) :=
  turns.map fun i => .own i .succeeds

def outlivingRun : List (Act Nat Passage MemoryEvent) :=
  goesOn [0, 0, 0] ++ [.outside (.tick 200000000)] ++ goesOn [1]

def deletingCalls : Nat → MemoryCall
  | 0 => .delete "m1" false
  | _ => readNote

def updatingCalls : Nat → MemoryCall
  | 0 => .update "m1" { value := some (.dict [("note", .str "y")]) }
  | _ => readNote

theorem noteTable_placed (calls : Nat → MemoryCall) (reads : ∀ i record, calls i ≠ .write record) :
    Placed (fun _ => ("team", "a")) (noteTable none) calls where
  rows := by
    intro row member
    rw [List.mem_singleton.mp member]
    rfl
  writes := fun i record write => absurd write (reads i record)

theorem reads_live_note :
    ReadsLive {} (.start (noteTable none) 0 updatingCalls) (goesOn [1, 1, 1, 2, 0, 0, 0, 3, 3, 3]) := by
  apply reads_live {} (noteTable none) 0 updatingCalls (fun _ => ("team", "a"))
  · apply noteTable_placed
    intro i record write
    match i with
    | 0 => cases write
    | _ + 1 => cases write
  · intro n act present
    match n with
    | 0 | 1 | 3 | 4 | 5 | 6 | 7 | 8 =>
        obtain rfl := Option.some.inj present
        trivial
    | 2 =>
        obtain rfl := Option.some.inj present
        refine ⟨?_, nofun⟩
        show StoredRecord _ (noteRecord none)
        decide +kernel
    | 9 =>
        obtain rfl := Option.some.inj present
        refine ⟨?_, nofun⟩
        decide +kernel
    | _ + 10 => cases present

theorem dead_records_served :
    ¬ ReadsLive {} (.start (noteTable (some 100000000)) 0 fun _ : Nat => readNote) outlivingRun ∧
      ¬ ReadsLive {} (.start (noteTable none) 0 deletingCalls) (goesOn [0, 0, 0, 1, 1, 1, 0, 2]) ∧
      ¬ ReadsLive {} (.start (noteTable none) 0 updatingCalls) (goesOn [1, 1, 0, 0, 0, 1, 2]) := by
  refine ⟨?_, ?_, ?_⟩
  · intro live
    have unexpired := (live 1 4 5 "team" "a" "bob" (noteRecord (some 100000000)) rfl (by decide)
      rfl).1 100000000 rfl
    revert unexpired
    decide +kernel
  · intro live
    obtain ⟨m, le, stored, before⟩ :=
      (live 2 7 8 "team" "a" "bob" (noteRecord none) rfl (by decide) rfl).2
    have committed := before 0 (List.mem_singleton_self "m1")
    have early : ∀ m ≤ 6, "m1" ∉ (((MemoryCrew.start (noteTable none) 0 deletingCalls).after {}
        (goesOn [0, 0, 0, 1, 1, 1, 0, 2]) m).phase 0).touched := by decide +kernel
    have late : ∀ m ≤ 8, 7 ≤ m → ¬ StoredRecord ((MemoryCrew.start (noteTable none) 0
        deletingCalls).after {} (goesOn [0, 0, 0, 1, 1, 1, 0, 2]) m).shared (noteRecord none) := by
      decide +kernel
    by_cases before : m ≤ 6
    · exact early m before committed
    · exact late m le (by omega) stored
  · intro live
    obtain ⟨m, le, stored, before⟩ :=
      (live 2 6 7 "team" "a" "bob" (noteRecord none) rfl (by decide) rfl).2
    have committed := before 0 (List.mem_singleton_self "m1")
    have early : ∀ m ≤ 3, "m1" ∉ (((MemoryCrew.start (noteTable none) 0 updatingCalls).after {}
        (goesOn [1, 1, 0, 0, 0, 1, 2]) m).phase 0).touched := by decide +kernel
    have late : ∀ m ≤ 7, 4 ≤ m → ¬ StoredRecord ((MemoryCrew.start (noteTable none) 0
        updatingCalls).after {} (goesOn [1, 1, 0, 0, 0, 1, 2]) m).shared (noteRecord none) := by
      decide +kernel
    by_cases before : m ≤ 3
    · exact early m before committed
    · exact late m le (by omega) stored

end SyndicateClaw.Memory
