import SyndicateClaw.Audit.DeadLetters

/-! What becomes of audit events over a history of calls to `emit` and `retry_all`. -/

namespace SyndicateClaw.Audit

open Authz (Time)

variable (service : AuditService)

def Stored (store : AuditStore) (event : AuditEvent) : Prop :=
  store.events.get? event.id = some (service.rowOf event)

/-- No event is stored twice, those of the resolved letters are stored, and none was tried again more
often than its letter allows. -/
structure Accounted (history : AuditHistory) : Prop where
  once : ∀ eventId, history.store.events.rows.countP (fun row => row.id = eventId) ≤ 1
  resolved : ∀ letter ∈ history.store.letters, letter.status = .resolved →
    Stored service history.store letter.eventPayload
  bounded : ∀ letter ∈ history.store.letters,
    history.tried.count letter.eventPayload.id ≤ letter.maxRetries

/-- An `emit` that returns leaves the event stored or in a letter that is not resolved, and a `retry_all`
that returns counts the events that it has stored. -/
def CallAccounted (history : AuditHistory) : AuditCall → Prop
  | .emit event endings =>
      (service.emit history.store event endings).2 = .ok event →
        Stored service (service.emit history.store event endings).1 event ∨
        ∃ letter ∈ (service.emit history.store event endings).1.letters,
          letter.eventPayload = event ∧ letter.status ≠ .resolved
  | .retryAll now rank select endings =>
      let outcome := retryAll service now history.store rank select endings
      outcome.raised = none →
        outcome.store.events.rows.length = history.store.events.rows.length + outcome.retried

/-- A letter is tried again without a letter of its own: the event is stored now, and the letter is
resolved or at least counted; or it is not stored now, no new letter is stored for it either, and
the retry is counted. -/
def PlainRetry (store : AuditStore) (letter : DeadLetterRecord) (endings : RetryEndings) : Prop :=
  store.events.get? letter.eventPayload.id = none ∧ endings.emit.insert = .passes ∧
      (endings.resolve.commits = true ∨ endings.count.commits = true) ∨
    (store.events.get? letter.eventPayload.id ≠ none ∨ endings.emit.insert.commits = false) ∧
      endings.emit.enqueue.commits = false ∧ endings.count.commits = true

def Unlettered (store : AuditStore) (event : AuditEvent) : Prop :=
  ∀ letter ∈ store.letters, letter.eventPayload.id ≠ event.id

def PlainEmit (store : AuditStore) (event : AuditEvent) (endings : EmitEndings) : Prop :=
  Unlettered store event ∨ endings.enqueue.commits = false ∨
    store.events.get? event.id = none ∧ endings.insert = .passes

def PlainCall (history : AuditHistory) : AuditCall → Prop
  | .emit event endings => PlainEmit history.store event endings
  | .retryAll _ _ _ endings =>
      ∀ place letter, history.store.letters[place]? = some letter → letter.eligible = true →
        letter.retryCount < letter.maxRetries → PlainRetry history.store letter (endings place)

/-- The invariant: an event has one letter, whose count of retries is the number of times that the event
was tried again, as long as it is pending. -/
structure Counted (store : AuditStore) (tried : List String) : Prop where
  apart : ∀ (i j : Nat) letter other, store.letters[i]? = some letter →
    store.letters[j]? = some other → letter.eventPayload.id = other.eventPayload.id → i = j
  resolved : ∀ (i : Nat) letter, store.letters[i]? = some letter → letter.status = .resolved →
    Stored service store letter.eventPayload
  bounded : ∀ (i : Nat) letter, store.letters[i]? = some letter →
    tried.count letter.eventPayload.id ≤ letter.maxRetries
  pending : ∀ (i : Nat) letter, store.letters[i]? = some letter → letter.status = .pending →
    tried.count letter.eventPayload.id ≤ letter.retryCount
  known : ∀ eventId ∈ tried, ∃ (i : Nat) (letter : DeadLetterRecord),
    store.letters[i]? = some letter ∧ letter.eventPayload.id = eventId

section

variable {service : AuditService} {store : AuditStore} {tried : List String}
  {letter : DeadLetterRecord} {place : Nat} {now : Time}

/-! ### One letter -/

theorem changed_source {letters : List DeadLetterRecord} {f : DeadLetterRecord → DeadLetterRecord}
    {changed : DeadLetterRecord} {i : Nat} (there : letters[place]? = some letter)
    (present : (letters.modify place f)[i]? = some changed) :
    i = place ∧ changed = f letter ∨ i ≠ place ∧ letters[i]? = some changed := by
  by_cases same : place = i
  · subst same
    rw [List.getElem?_modify_eq, there] at present
    exact .inl ⟨rfl, (Option.some.inj present).symm⟩
  · rw [List.getElem?_modify_ne _ _ same] at present
    exact .inr ⟨Ne.symm same, present⟩

/-- A letter is changed, and its event may be tried again, where that is counted or the letter is no
longer pending. -/
theorem Counted.change (counted : Counted service store tried)
    (there : store.letters[place]? = some letter) (pending : letter.status = .pending)
    {f : DeadLetterRecord → DeadLetterRecord}
    (payload : (f letter).eventPayload = letter.eventPayload)
    (limit : (f letter).maxRetries = letter.maxRetries) {events : EventTable}
    (grown : ∀ eventId row, store.events.get? eventId = some row → events.get? eventId = some row)
    {attempts : List String} (own : ∀ eventId ∈ attempts, eventId = letter.eventPayload.id)
    (room : letter.retryCount + attempts.length ≤ letter.maxRetries ∨ attempts = [])
    (stored : (f letter).status = .resolved →
      events.get? letter.eventPayload.id = some (service.rowOf letter.eventPayload))
    (counts : (f letter).status = .pending →
      letter.retryCount + attempts.length ≤ (f letter).retryCount) :
    Counted service { events, letters := store.letters.modify place f } (tried ++ attempts) := by
  have origin (i : Nat) (changed : DeadLetterRecord)
      (present : (store.letters.modify place f)[i]? = some changed) :
      ∃ before, store.letters[i]? = some before ∧
        before.eventPayload.id = changed.eventPayload.id := by
    rcases changed_source there present with ⟨rfl, rfl⟩ | ⟨_, before⟩
    · exact ⟨letter, there, by rw [payload]⟩
    · exact ⟨changed, before, rfl⟩
  have times : attempts.count letter.eventPayload.id ≤ attempts.length := List.count_le_length
  have elsewhere (i : Nat) (other : DeadLetterRecord) (apart : i ≠ place)
      (present : store.letters[i]? = some other) : attempts.count other.eventPayload.id = 0 := by
    apply List.count_eq_zero.mpr
    intro member
    exact apart (counted.apart i place other letter present there (own _ member))
  have before := counted.pending place letter there pending
  constructor
  · intro i j changed other present also same
    obtain ⟨first, one, firstId⟩ := origin i changed present
    obtain ⟨second, two, secondId⟩ := origin j other also
    exact counted.apart i j first second one two (firstId.trans (same.trans secondId.symm))
  · intro i changed present resolved
    rcases changed_source there present with ⟨rfl, rfl⟩ | ⟨_, kept⟩
    · unfold Stored
      rw [payload]
      exact stored resolved
    · exact grown _ _ (counted.resolved i changed kept resolved)
  · intro i changed present
    rw [List.count_append]
    rcases changed_source there present with ⟨rfl, rfl⟩ | ⟨apart, kept⟩
    · rw [payload, limit]
      rcases room with room | rfl
      · omega
      · exact counted.bounded i letter there
    · rw [elsewhere i changed apart kept]
      exact counted.bounded i changed kept
  · intro i changed present waiting
    rw [List.count_append]
    rcases changed_source there present with ⟨rfl, rfl⟩ | ⟨apart, kept⟩
    · rw [payload]
      have enough := counts waiting
      omega
    · rw [elsewhere i changed apart kept]
      exact counted.pending i changed kept waiting
  · intro eventId member
    have named : ∃ (i : Nat) (other : DeadLetterRecord), store.letters[i]? = some other ∧
        other.eventPayload.id = eventId := by
      rcases List.mem_append.mp member with earlier | attempt
      · exact counted.known eventId earlier
      · exact ⟨place, letter, there, (own eventId attempt).symm⟩
    obtain ⟨i, other, present, same⟩ := named
    by_cases here : place = i
    · subst here
      obtain rfl := Option.some.inj (there.symm.trans present)
      refine ⟨place, f letter, ?_, by rw [payload, same]⟩
      rw [List.getElem?_modify_eq, there]
      rfl
    · exact ⟨i, other, by rwa [List.getElem?_modify_ne _ _ here], same⟩

theorem TxEnding.error_of_fails {ending : TxEnding} (fails : ending.commits = false) :
    ∃ error, ending.error = some error := by
  cases ending with
  | fails error => exact ⟨error, rfl⟩
  | _ => cases fails

/-- An `emit` that stores a new event. -/
theorem emit_stored {event : AuditEvent} {endings : EmitEndings}
    (fresh : store.events.get? event.id = none) (passes : endings.insert = .passes) :
    service.emit store event endings =
      ({ store with events := store.events.insert (service.rowOf event) }, .ok event) := by
  have absent : store.events.get? (service.rowOf event).id = none := fresh
  unfold AuditService.emit AuditStore.append
  rw [absent, passes]
  rfl

/-- An `emit` that stores neither the event nor a letter. -/
theorem emit_failed (service : AuditService) {event : AuditEvent} {endings : EmitEndings}
    (unstored : store.events.get? event.id ≠ none ∨ endings.insert.commits = false)
    (unqueued : endings.enqueue.commits = false) :
    ∃ error, service.emit store event endings = (store, .error error) := by
  obtain ⟨failure, failed⟩ := TxEnding.error_of_fails unqueued
  have refused : ∃ error, store.append (service.rowOf event) endings.insert endings.conflict =
      (store, some error) := by
    unfold AuditStore.append
    cases taken : store.events.get? (service.rowOf event).id with
    | some row => exact ⟨_, rfl⟩
    | none =>
        have fails := unstored.resolve_left (not_not.mpr taken)
        obtain ⟨error, because⟩ := TxEnding.error_of_fails fails
        exact ⟨error, by simp [fails, because]⟩
  obtain ⟨error, refused⟩ := refused
  refine ⟨failure, ?_⟩
  unfold AuditService.emit AuditStore.enqueue
  simp [refused, failed, unqueued]

theorem resolveRetry_cases (emitted : AuditStore) (eventId : String) {endings : RetryEndings}
    (settled : endings.resolve.commits = true ∨ endings.count.commits = true) :
    ∃ f raised, resolveRetry now emitted place eventId endings =
        { store := { emitted with letters := emitted.letters.modify place f }
          tried := [eventId], retried := 1, raised } ∧
      ∀ letter : DeadLetterRecord, (f letter).eventPayload = letter.eventPayload ∧
        (f letter).maxRetries = letter.maxRetries ∧
        ((f letter).status = .pending → (f letter).retryCount = letter.retryCount + 1) := by
  unfold resolveRetry countRetry AuditStore.changeLetter
  cases ending : endings.resolve with
  | passes => exact ⟨(·.resolved now), none, rfl, fun _ => ⟨rfl, rfl, nofun⟩⟩
  | fails error =>
      rw [ending] at settled
      have commits := settled.resolve_left Bool.false_ne_true
      refine ⟨(·.counted now error), endings.count.error, ?_, fun _ => ⟨rfl, rfl, fun _ => rfl⟩⟩
      simp [commits]
  | lost error =>
      cases commits : endings.count.commits with
      | true =>
          refine ⟨(·.counted now error) ∘ (·.resolved now), endings.count.error, ?_,
            fun _ => ⟨rfl, rfl, nofun⟩⟩
          simp [List.modify_modify_eq]
      | false =>
          refine ⟨(·.resolved now), endings.count.error, ?_, fun _ => ⟨rfl, rfl, nofun⟩⟩
          simp

/-- What a turn of the loop leaves alone. -/
structure OwnTurn (store : AuditStore) (place : Nat) (letter : DeadLetterRecord)
    (turn : RetryOutcome) : Prop where
  count : turn.store.events.rows.length = store.events.rows.length + turn.retried
  letters : ∀ i ≠ place, turn.store.letters[i]? = store.letters[i]?
  events : ∀ eventId ≠ letter.eventPayload.id,
    turn.store.events.get? eventId = store.events.get? eventId

theorem get?_insert_of_some {events : EventTable} {row other : AuditEvent} {eventId : String}
    (found : events.get? eventId = some other) : (events.insert row).get? eventId = some other := by
  rw [Keyed.get?_insert, if_neg]
  · exact found
  · rintro ⟨absent, rfl⟩
    rw [absent] at found
    cases found

theorem counted_retryLetter (now : Time) (counted : Counted service store tried)
    (there : store.letters[place]? = some letter) (pending : letter.status = .pending)
    {endings : RetryEndings}
    (plain : letter.retryCount < letter.maxRetries → PlainRetry store letter endings) :
    let turn := retryLetter service now store place letter endings
    Counted service turn.store (tried ++ turn.tried) ∧ OwnTurn store place letter turn := by
  have others (f : DeadLetterRecord → DeadLetterRecord) (i : Nat) (apart : i ≠ place) :
      (store.letters.modify place f)[i]? = store.letters[i]? :=
    List.getElem?_modify_ne _ _ apart.symm
  unfold retryLetter
  split
  · next spent =>
      cases commits : endings.exhaust.commits with
      | true =>
          simp only [AuditStore.changeLetter, commits, if_true]
          refine ⟨?_, rfl, others _, fun _ _ => rfl⟩
          apply counted.change there pending rfl rfl (fun _ _ found => found)
          · exact fun _ member => absurd member List.not_mem_nil
          · exact .inr rfl
          · exact nofun
          · exact nofun
      | false =>
          simp only [AuditStore.changeLetter, commits, Bool.false_eq_true, if_false, List.append_nil]
          exact ⟨counted, rfl, fun _ _ => rfl, fun _ _ => rfl⟩
  · next unspent =>
      have room : letter.retryCount < letter.maxRetries := not_le.mp unspent
      have once (eventId : String) (member : eventId ∈ [letter.eventPayload.id]) :
          eventId = letter.eventPayload.id := List.mem_singleton.mp member
      rcases plain room with ⟨fresh, passes, settled⟩ | ⟨unstored, unqueued, commits⟩
      · dsimp only
        rw [emit_stored fresh passes]
        dsimp only
        obtain ⟨f, raised, same, changes⟩ := resolveRetry_cases
          { store with events := store.events.insert (service.rowOf letter.eventPayload) }
          letter.eventPayload.id settled
        rw [same]
        have new : store.events.get? (service.rowOf letter.eventPayload).id = none := fresh
        refine ⟨?_, ?_, others f, ?_⟩
        · apply counted.change there pending (changes letter).1 (changes letter).2.1
            (fun _ _ => get?_insert_of_some) once (.inl room)
          · intro _
            rw [Keyed.get?_insert, if_pos ⟨new, rfl⟩]
          · intro waiting
            exact ((changes letter).2.2 waiting).ge
        · dsimp only
          rw [Keyed.rows_insert new, List.length_append]
          rfl
        · intro eventId other
          dsimp only
          rw [Keyed.get?_insert, if_neg]
          exact fun both => other both.2.symm
      · obtain ⟨error, failed⟩ := emit_failed service unstored unqueued
        dsimp only
        rw [failed]
        simp only [countRetry, AuditStore.changeLetter, commits, if_true]
        refine ⟨?_, rfl, others _, fun _ _ => rfl⟩
        apply counted.change there pending rfl rfl (fun _ _ found => found) once (.inl room)
        · intro resolved
          have same : letter.status = .resolved := resolved
          rw [pending] at same
          cases same
        · exact fun _ => le_refl _

/-! ### A whole pass -/

theorem PlainRetry.of_events {other : AuditStore} {endings : RetryEndings}
    (plain : PlainRetry store letter endings)
    (same : other.events.get? letter.eventPayload.id = store.events.get? letter.eventPayload.id) :
    PlainRetry other letter endings := by
  unfold PlainRetry at *
  rwa [same]

theorem counted_retryLoop (endings : Nat → RetryEndings) (snapshot : List (DeadLetterRecord × Nat))
    (counted : Counted service store tried) (distinct : (snapshot.map Prod.snd).Nodup)
    (held : ∀ entry ∈ snapshot, store.letters[entry.2]? = some entry.1 ∧
      entry.1.status = .pending ∧
      (entry.1.retryCount < entry.1.maxRetries → PlainRetry store entry.1 (endings entry.2))) :
    let outcome := retryLoop service now endings store snapshot
    Counted service outcome.store (tried ++ outcome.tried) ∧
      (outcome.raised = none →
        outcome.store.events.rows.length = store.events.rows.length + outcome.retried) := by
  induction snapshot generalizing store tried with
  | nil => exact ⟨by simpa [retryLoop] using counted, fun _ => rfl⟩
  | cons entry rest ih =>
      obtain ⟨letter, place⟩ := entry
      obtain ⟨there, pending, plain⟩ := held _ List.mem_cons_self
      obtain ⟨kept, own⟩ := counted_retryLetter now counted there pending plain
      rw [List.map_cons, List.nodup_cons] at distinct
      -- The letters that are still to come are as they were.
      have later : ∀ entry ∈ rest,
          (retryLetter service now store place letter (endings place)).store.letters[entry.2]? =
            some entry.1 ∧ entry.1.status = .pending ∧
          (entry.1.retryCount < entry.1.maxRetries → PlainRetry
            (retryLetter service now store place letter (endings place)).store entry.1
              (endings entry.2)) := by
        intro other member
        obtain ⟨present, waiting, plainly⟩ := held other (List.mem_cons_of_mem _ member)
        have elsewhere : other.2 ≠ place := by
          intro same
          exact distinct.1 (List.mem_map.mpr ⟨other, member, same⟩)
        have apart : other.1.eventPayload.id ≠ letter.eventPayload.id := fun same =>
          elsewhere (counted.apart other.2 place other.1 letter present there same)
        refine ⟨(own.letters other.2 elsewhere).trans present, waiting, ?_⟩
        exact fun room => (plainly room).of_events (own.events _ apart)
      obtain ⟨counts, stores⟩ := ih kept distinct.2 later
      unfold retryLoop
      dsimp only
      split
      · next error raised =>
          refine ⟨kept, ?_⟩
          intro unraised
          rw [raised] at unraised
          cases unraised
      · next unraised =>
          refine ⟨by simpa [List.append_assoc] using counts, ?_⟩
          intro passed
          dsimp only at passed ⊢
          rw [stores passed, own.count]
          exact Nat.add_assoc _ _ _

theorem held_snapshot (letters : List DeadLetterRecord) (rank : Nat → Nat) :
    let snapshot := (letters.zipIdx.filter (·.1.eligible)).mergeSort fun a b => rank a.2 ≤ rank b.2
    (snapshot.map Prod.snd).Nodup ∧
      ∀ entry ∈ snapshot, letters[entry.2]? = some entry.1 ∧ entry.1.eligible = true := by
  have perm := List.mergeSort_perm (letters.zipIdx.filter (·.1.eligible))
    fun a b => rank a.2 ≤ rank b.2
  constructor
  · apply (perm.map Prod.snd).nodup_iff.mpr
    apply List.Nodup.sublist (List.filter_sublist.map Prod.snd)
    rw [List.zipIdx_map_snd]
    exact List.nodup_range'
  · intro entry member
    obtain ⟨inside, eligible⟩ := List.mem_filter.mp (perm.mem_iff.mp member)
    exact ⟨List.mem_zipIdx_iff_getElem?.mp inside, eligible⟩

theorem counted_retryAll {rank : Nat → Nat} {select : TxEnding} {endings : Nat → RetryEndings}
    (counted : Counted service store tried)
    (plain : PlainCall { store, tried } (.retryAll now rank select endings)) :
    let outcome := retryAll service now store rank select endings
    Counted service outcome.store (tried ++ outcome.tried) ∧
      (outcome.raised = none →
        outcome.store.events.rows.length = store.events.rows.length + outcome.retried) := by
  unfold retryAll
  cases select.error with
  | some error => exact ⟨by simpa using counted, nofun⟩
  | none =>
      obtain ⟨distinct, held⟩ := held_snapshot store.letters rank
      apply counted_retryLoop endings _ counted distinct
      intro entry member
      obtain ⟨there, eligible⟩ := held entry member
      have waiting := eligible
      unfold DeadLetterRecord.eligible at waiting
      simp only [Bool.and_eq_true, decide_eq_true_eq] at waiting
      exact ⟨there, waiting.1, plain entry.2 entry.1 there eligible⟩

/-! ### Emitting -/

/-- What an `emit` may make of the store. -/
theorem emit_store (service : AuditService) (store : AuditStore) (event : AuditEvent)
    (endings : EmitEndings) :
    ((service.emit store event endings).1.events = store.events ∨
      (service.emit store event endings).1.events = store.events.insert (service.rowOf event)) ∧
    ((service.emit store event endings).1.letters = store.letters ∨
      endings.enqueue.commits = true ∧
        ∃ error, (service.emit store event endings).1.letters =
          store.letters ++ [deadLetter event error]) := by
  have appended : ((store.append (service.rowOf event) endings.insert endings.conflict).1.events =
        store.events ∨
      (store.append (service.rowOf event) endings.insert endings.conflict).1.events =
        store.events.insert (service.rowOf event)) ∧
      (store.append (service.rowOf event) endings.insert endings.conflict).1.letters =
        store.letters := by
    unfold AuditStore.append
    split
    · exact ⟨.inl rfl, rfl⟩
    · dsimp only
      split
      · exact ⟨.inr rfl, rfl⟩
      · exact ⟨.inl rfl, rfl⟩
  unfold AuditService.emit
  split
  · next stored same =>
      rw [same] at appended
      exact ⟨appended.1, .inl appended.2⟩
  · next stored error same =>
      rw [same] at appended
      have queued : (stored.enqueue event error endings.enqueue).1.events = stored.events ∧
          ((stored.enqueue event error endings.enqueue).1.letters = stored.letters ∨
            endings.enqueue.commits = true ∧
              (stored.enqueue event error endings.enqueue).1.letters =
                stored.letters ++ [deadLetter event error]) := by
        unfold AuditStore.enqueue
        dsimp only
        split
        · next commits => exact ⟨rfl, .inr ⟨commits, rfl⟩⟩
        · exact ⟨rfl, .inl rfl⟩
      split
      all_goals
        next last equal =>
          rw [equal] at queued
          dsimp only at appended queued ⊢
          rw [queued.1, ← appended.2]
          exact ⟨appended.1, queued.2.imp_right fun added => ⟨added.1, error, added.2⟩⟩

theorem Counted.grow (counted : Counted service store tried) {events : EventTable}
    (grown : ∀ eventId row, store.events.get? eventId = some row →
      events.get? eventId = some row) :
    Counted service { events, letters := store.letters } tried where
  apart := counted.apart
  resolved i letter there resolved := grown _ _ (counted.resolved i letter there resolved)
  bounded := counted.bounded
  pending := counted.pending
  known := counted.known

theorem letter_source {letters : List DeadLetterRecord} {last letter : DeadLetterRecord} {i : Nat}
    (there : (letters ++ [last])[i]? = some letter) :
    letters[i]? = some letter ∨ i = letters.length ∧ letter = last := by
  by_cases before : i < letters.length
  · rw [List.getElem?_append_left before] at there
    exact .inl there
  · rw [List.getElem?_append_right (not_lt.mp before), List.getElem?_singleton] at there
    split at there
    · next last => exact .inr ⟨by omega, (Option.some.inj there).symm⟩
    · cases there

theorem Counted.queue (counted : Counted service store tried) {event : AuditEvent}
    (unlettered : Unlettered store event) (error : String) :
    Counted service { store with letters := store.letters ++ [deadLetter event error] } tried := by
  have untried : tried.count event.id = 0 := by
    apply List.count_eq_zero.mpr
    intro member
    obtain ⟨i, letter, there, same⟩ := counted.known event.id member
    exact unlettered letter (List.mem_of_getElem? there) same
  constructor
  · intro i j letter other one two same
    rcases letter_source one with before | ⟨last, rfl⟩
    · rcases letter_source two with there | ⟨_, rfl⟩
      · exact counted.apart i j letter other before there same
      · exact absurd same (unlettered letter (List.mem_of_getElem? before))
    · rcases letter_source two with there | ⟨final, _⟩
      · exact absurd same.symm (unlettered other (List.mem_of_getElem? there))
      · exact last.trans final.symm
  · intro i letter there resolved
    rcases letter_source there with before | ⟨_, rfl⟩
    · exact counted.resolved i letter before resolved
    · cases resolved
  · intro i letter there
    rcases letter_source there with before | ⟨_, rfl⟩
    · exact counted.bounded i letter before
    · exact untried.le.trans (Nat.zero_le _)
  · intro i letter there waiting
    rcases letter_source there with before | ⟨_, rfl⟩
    · exact counted.pending i letter before waiting
    · exact untried.le
  · intro eventId member
    obtain ⟨i, letter, there, same⟩ := counted.known eventId member
    have inside := (List.getElem?_eq_some_iff.mp there).1
    exact ⟨i, letter, (List.getElem?_append_left inside).trans there, same⟩

theorem Counted.emit {event : AuditEvent} {endings : EmitEndings}
    (counted : Counted service store tried)
    (plain : PlainEmit store event endings) :
    Counted service (service.emit store event endings).1 tried := by
  obtain ⟨events, letters⟩ := emit_store service store event endings
  have grown (eventId : String) (row : AuditEvent)
      (found : store.events.get? eventId = some row) :
      (service.emit store event endings).1.events.get? eventId = some row := by
    rcases events with same | inserted
    · rwa [same]
    · rw [inserted]
      exact get?_insert_of_some found
  rcases letters with same | ⟨commits, error, added⟩
  · have kept := counted.grow grown
    rwa [← same] at kept
  · have unlettered : Unlettered store event := by
      rcases plain with unlettered | unqueued | ⟨fresh, passes⟩
      · exact unlettered
      · rw [unqueued] at commits
        cases commits
      · rw [emit_stored fresh passes] at added
        have longer := congrArg List.length added
        simp at longer
    have kept := (counted.queue unlettered error).grow grown
    dsimp only at kept
    rwa [← added] at kept

theorem append_none {row : AuditEvent} {ending : TxEnding} {conflict : String} {stored : AuditStore}
    (appended : store.append row ending conflict = (stored, none)) :
    stored.events.get? row.id = some row := by
  unfold AuditStore.append at appended
  split at appended
  · cases congrArg Prod.snd appended
  · next absent =>
      cases ending with
      | passes =>
          obtain rfl := congrArg Prod.fst appended
          show (store.events.insert row).get? row.id = some row
          rw [Keyed.get?_insert, if_pos ⟨absent, rfl⟩]
      | fails error => cases congrArg Prod.snd appended
      | lost error => cases congrArg Prod.snd appended

theorem enqueue_none {event : AuditEvent} {error : String} {ending : TxEnding} {queued : AuditStore}
    (enqueued : store.enqueue event error ending = (queued, none)) :
    deadLetter event error ∈ queued.letters := by
  unfold AuditStore.enqueue at enqueued
  cases ending with
  | passes =>
      obtain rfl := congrArg Prod.fst enqueued
      exact List.mem_append_right _ List.mem_cons_self
  | fails error => cases congrArg Prod.snd enqueued
  | lost error => cases congrArg Prod.snd enqueued

/-- An `emit` that returns has stored the event, or a letter of it. -/
theorem emit_returns {event : AuditEvent} {endings : EmitEndings}
    (returned : (service.emit store event endings).2 = .ok event) :
    Stored service (service.emit store event endings).1 event ∨
      ∃ letter ∈ (service.emit store event endings).1.letters,
        letter.eventPayload = event ∧ letter.status ≠ .resolved := by
  unfold AuditService.emit at *
  split at returned
  · next stored same => exact .inl (append_none same)
  · next stored error same =>
      split at returned
      · next queued enqueued =>
          right
          exact ⟨deadLetter event error, enqueue_none enqueued, rfl, nofun⟩
      · cases returned

/-! ### Whole histories -/

theorem Counted.accounted {history : AuditHistory}
    (counted : Counted service history.store history.tried) : Accounted service history := by
  constructor
  · intro eventId
    have nodup := history.store.events.distinct
    rw [List.nodup_iff_count_le_one] at nodup
    have once := nodup eventId
    rw [List.count, List.countP_map] at once
    exact once
  · intro letter member resolved
    obtain ⟨i, there⟩ := List.mem_iff_getElem?.mp member
    exact counted.resolved i letter there resolved
  · intro letter member
    obtain ⟨i, there⟩ := List.mem_iff_getElem?.mp member
    exact counted.bounded i letter there

theorem Counted.step {history : AuditHistory} {call : AuditCall}
    (counted : Counted service history.store history.tried) (plain : PlainCall history call) :
    Counted service (history.step service call).store (history.step service call).tried := by
  cases call with
  | emit event endings => exact counted.emit plain
  | retryAll now rank select endings => exact (counted_retryAll counted plain).1

theorem Counted.callAccounted {history : AuditHistory} {call : AuditCall}
    (counted : Counted service history.store history.tried) (plain : PlainCall history call) :
    CallAccounted service history call := by
  cases call with
  | emit event endings => exact emit_returns
  | retryAll now rank select endings => exact (counted_retryAll counted plain).2

theorem counted_start (events : EventTable) :
    Counted service (AuditHistory.start events).store (AuditHistory.start events).tried := by
  constructor
  all_goals intros
  all_goals simp_all [AuditHistory.start]

end

/-- While the calls are plain, every event is accounted for, and every call accounts for its own. -/
theorem events_accounted (events : EventTable) (calls : List AuditCall)
    (plain : ∀ n call, calls[n]? = some call →
      PlainCall ((AuditHistory.start events).after service calls n) call) (n : Nat) :
    Accounted service ((AuditHistory.start events).after service calls n) ∧
      ∀ call, calls[n]? = some call →
        CallAccounted service ((AuditHistory.start events).after service calls n) call := by
  have counted : Counted service ((AuditHistory.start events).after service calls n).store
      ((AuditHistory.start events).after service calls n).tried := by
    apply Async.stateAfter_invariant (AuditHistory.step service) (AuditHistory.start events) calls
      fun history => Counted service history.store history.tried
    · exact counted_start events
    · exact fun m call there before => before.step (plain m call there)
  exact ⟨counted.accounted, fun call there => counted.callAccounted (plain n call there)⟩

def loginEvent : AuditEvent where
  id := "event-1"
  eventType := "auth.login"
  actor := "ada"
  resourceType := "session"
  resourceId := "session-1"
  action := "login"

def outage : EmitEndings := ⟨.fails "connection reset", "duplicate key", .passes⟩

def recovered : EmitEndings := ⟨.passes, "duplicate key", .passes⟩

def retryThrough (endings : EmitEndings) : AuditCall :=
  .retryAll 60000000 id .passes fun _ => ⟨.passes, endings, .passes, .passes⟩

def noEvents : EventTable := ⟨[], List.nodup_nil⟩

/-- The letter of an event that could not be stored is retried once the database is back. -/
theorem login_accounted :
    Accounted {} ((AuditHistory.start noEvents).after {}
      [.emit loginEvent outage, retryThrough recovered] 2) := by
  have first : (AuditHistory.start noEvents).after {}
      [.emit loginEvent outage, retryThrough recovered] 1 =
      ⟨⟨noEvents, [deadLetter loginEvent "connection reset"]⟩, []⟩ := rfl
  apply (events_accounted {} noEvents [.emit loginEvent outage, retryThrough recovered] _ 2).1
  intro n call there
  match n with
  | 0 =>
      obtain rfl := Option.some.inj there
      left
      intro letter member
      exact absurd member List.not_mem_nil
  | 1 =>
      obtain rfl := Option.some.inj there
      rw [first]
      intro place letter present _ _
      obtain rfl := List.mem_singleton.mp (List.mem_of_getElem? present)
      exact .inl ⟨rfl, rfl, .inl rfl⟩
  | n + 2 => cases there

/-- The database is still away when the letter is retried: a new letter is stored, the old one is
resolved and counted, and the event is not stored. -/
theorem failed_retry_resolved :
    ¬ Accounted {} ((AuditHistory.start noEvents).after {}
        [.emit loginEvent outage, retryThrough outage] 2) ∧
      ¬ CallAccounted {} ((AuditHistory.start noEvents).after {}
        [.emit loginEvent outage, retryThrough outage] 1) (retryThrough outage) := by
  have eligible : (deadLetter loginEvent "connection reset").eligible = true := by decide +kernel
  have limit : (deadLetter loginEvent "connection reset").maxRetries = 3 := by decide +kernel
  have retried : retryAll {} 60000000 ⟨noEvents, [deadLetter loginEvent "connection reset"]⟩ id
      .passes (fun _ => ⟨.passes, outage, .passes, .passes⟩) =
      ⟨⟨noEvents, [(deadLetter loginEvent "connection reset").resolved 60000000,
        deadLetter loginEvent "connection reset"]⟩, ["event-1"], 1, none⟩ := by
    simp [retryAll, eligible, retryLoop, retryLetter, limit]
    rfl
  have first : (AuditHistory.start noEvents).after {}
      [.emit loginEvent outage, retryThrough outage] 1 =
      ⟨⟨noEvents, [deadLetter loginEvent "connection reset"]⟩, []⟩ := rfl
  have last : (AuditHistory.start noEvents).after {}
      [.emit loginEvent outage, retryThrough outage] 2 =
      ⟨⟨noEvents, [(deadLetter loginEvent "connection reset").resolved 60000000,
        deadLetter loginEvent "connection reset"]⟩, ["event-1"]⟩ := by
    show AuditHistory.step {} ⟨⟨noEvents, [deadLetter loginEvent "connection reset"]⟩, []⟩
      (retryThrough outage) = _
    simp only [AuditHistory.step, retryThrough, retried]
    rfl
  constructor
  · intro accounted
    rw [last] at accounted
    have stored := accounted.resolved _ List.mem_cons_self rfl
    cases stored
  · intro accounted
    -- The outcome is the one above, with one letter counted.
    rw [first] at accounted
    dsimp only [CallAccounted, retryThrough] at accounted
    rw [retried] at accounted
    have one : 0 = 0 + 1 := accounted rfl
    cases one

end SyndicateClaw.Audit
