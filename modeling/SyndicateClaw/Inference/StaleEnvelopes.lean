import SyndicateClaw.Inference.OneExecution
import SyndicateClaw.Inference.TerminalOutcomes

/-! Calls of `acquire` one after the other, while the worker of the row makes no progress. The
sweep looks at `updated_at`, and every call with the hash of the row sets it. -/

namespace SyndicateClaw.Inference

open Async Authz

/-- A call of `acquire`: its reading of the clock, and the one of the flush. -/
structure Poll (ι : Type) where
  caller : ι
  now : Time
  later : Time

/-- The sweep, the insertion, the selection with its flush, and the commit. -/
def Poll.acts {ι : Type} (poll : Poll ι) : List (Act ι Event Empty) :=
  [.proceeds poll.now, .proceeds poll.later, .proceeds poll.later, .proceeds poll.later].map
    (.own poll.caller)

section

variable {ι : Type} [DecidableEq ι] (staleAfter : Time) (calls : ι → Call)

/-- The calls after some polls, each of which runs to its end before the next begins. -/
def Inferences.polled (inferences : Inferences ι) (polls : List (Poll ι)) : Inferences ι :=
  polls.foldl (fun inferences poll => inferences.run staleAfter calls poll.acts 4) inferences

def InOrder (since : Time) : List (Poll ι) → Prop
  | [] => True
  | poll :: polls => since ≤ poll.now ∧ poll.now ≤ poll.later ∧ InOrder poll.later polls

/-- The worker has made no progress since the row was last updated, and the last of the calls is
the first after `stale_after_seconds` have passed. -/
structure Stuck (inferences : Inferences ι) (row : Envelope) (polls : List (Poll ι))
    (last : Poll ι) : Prop where
  committed : inferences.shared.cell.committed = some row
  free : inferences.shared.cell.dirty = none
  inProgress : row.status.inProgress = true
  ready : ∀ poll ∈ polls ++ [last], inferences.phase poll.caller = .ready
  distinct : ((polls ++ [last]).map Poll.caller).Nodup
  ordered : InOrder row.updatedAt (polls ++ [last])
  before : ∀ poll ∈ polls, poll.now ≤ row.updatedAt + staleAfter
  after : row.updatedAt + staleAfter < last.now

def Detected (row : Option Envelope) : Prop :=
  ∃ own, row = some own ∧ own.status = .failed ∧ own.failureReason = some staleFailureReason

/-- When polls set `updated_at`: those with the hash of the row, unless `last_seen_at` stays. -/
def renewals (requestHash : String) (lastSeenAt : Time) : List (Poll ι) → List Time
  | [] => []
  | poll :: polls =>
      if (calls poll.caller).requestHash ≠ requestHash ∨ lastSeenAt = poll.now then
        renewals requestHash lastSeenAt polls
      else poll.later :: renewals requestHash poll.now polls

/-- What `acquire` leaves of a row that it finds. -/
def Envelope.acquired (row : Envelope) (requestHash : String) (now later : Time) : Envelope :=
  if row.requestHash ≠ requestHash then row
  else (if row.stale (now - staleAfter) then row.sweep now else row).touch now later

/-! ### One call -/

variable {inferences : Inferences ι} {row : Envelope}

theorem run_poll {poll : Poll ι} (committed : inferences.shared.cell.committed = some row)
    (free : inferences.shared.cell.dirty = none) (ready : inferences.phase poll.caller = .ready) :
    (inferences.run staleAfter calls poll.acts 4).shared.cell =
      { committed := some (row.acquired staleAfter (calls poll.caller).requestHash poll.now poll.later)
        dirty := none } := by
  obtain ⟨i, now, later⟩ := poll
  obtain ⟨cell, sweeps, kept, unblocked, seen⟩ :=
    sweepStale_free committed free i staleAfter now
  let desk : Desk ι := { inferences.shared with cell }
  have swept : advance staleAfter calls i (.proceeds now) inferences.shared (inferences.phase i) =
      (desk, .inserting now) := by
    rw [show inferences.phase i = .ready from ready, ← sweeps]
    rfl
  have inserted : advance staleAfter calls i (.proceeds later) desk (.inserting now) =
      (desk, .selecting now) := by
    show insertEnvelope _ _ _ _ _ = _
    unfold insertEnvelope
    rw [seen]
  have run : (inferences.run staleAfter calls (Poll.acts ⟨i, now, later⟩) 4).shared =
      (Crew.alone (advance staleAfter calls) i [.proceeds later, .proceeds later]
        (desk, .selecting now)).1 := by
    calc (inferences.run staleAfter calls (Poll.acts ⟨i, now, later⟩) 4).shared =
          (Crew.alone (advance staleAfter calls) i
            [.proceeds now, .proceeds later, .proceeds later, .proceeds later]
            (inferences.shared, inferences.phase i)).1 :=
        (Crew.after_own (advance staleAfter calls) _ inferences i
          [.proceeds now, .proceeds later, .proceeds later, .proceeds later]).1
      _ = (Crew.alone (advance staleAfter calls) i [.proceeds later, .proceeds later]
            (desk, .selecting now)).1 := by
        simp only [Crew.alone, List.foldl_cons, List.foldl_nil, swept, inserted]
  rw [run]
  unfold Envelope.acquired
  by_cases other : row.requestHash ≠ (calls i).requestHash
  · have selected : advance staleAfter calls i (.proceeds later) desk (.selecting now) =
        desk.abort i false .conflict := by
      show selectEnvelope _ _ _ _ _ = _
      unfold selectEnvelope
      rw [unblocked, seen]
      dsimp only
      rw [if_neg (by decide), if_pos (by split <;> exact other)]
    rw [if_pos other]
    simp only [Crew.alone, List.foldl_cons, List.foldl_nil, selected]
    show cell.rollback i = _
    rw [Cell.rollback_of_free unblocked, kept]
  · have selected : advance staleAfter calls i (.proceeds later) desk (.selecting now) =
        ({ desk with cell := cell.write i (some ((if row.stale (now - staleAfter) then
            row.sweep now else row).touch now later)) },
          .closing ((if row.stale (now - staleAfter) then row.sweep now else row).touch now later)
            false) := by
      show selectEnvelope _ _ _ _ _ = _
      unfold selectEnvelope
      rw [unblocked, seen]
      dsimp only
      rw [if_neg (by decide), if_neg (by split <;> exact other)]
    rw [if_neg other]
    simp only [Crew.alone, List.foldl_cons, List.foldl_nil, selected]
    show (cell.write i _).commit i = _
    exact Cell.commit_of_dirty rfl

/-! ### Many calls -/

def Envelope.acquiredBy (staleAfter : Time) (calls : ι → Call) (row : Envelope)
    (polls : List (Poll ι)) : Envelope :=
  polls.foldl (fun row poll =>
    row.acquired staleAfter (calls poll.caller).requestHash poll.now poll.later) row

theorem polled_cell {polls : List (Poll ι)} (committed : inferences.shared.cell.committed = some row)
    (free : inferences.shared.cell.dirty = none)
    (ready : ∀ poll ∈ polls, inferences.phase poll.caller = .ready)
    (distinct : (polls.map Poll.caller).Nodup) :
    (inferences.polled staleAfter calls polls).shared.cell =
      { committed := some (row.acquiredBy staleAfter calls polls), dirty := none } := by
  induction polls generalizing inferences row with
  | nil =>
      show inferences.shared.cell = _
      rw [← show inferences.shared.cell.committed = some (row.acquiredBy staleAfter calls []) from
        committed, ← free]
  | cons poll polls ih =>
      have cell := run_poll staleAfter calls committed free
        (ready poll List.mem_cons_self)
      rw [List.map_cons, List.nodup_cons] at distinct
      refine @ih (inferences.run staleAfter calls poll.acts 4) _ ?_ ?_ ?_ distinct.2
      · rw [cell]
      · rw [cell]
      · intro later member
        have other : later.caller ≠ poll.caller := by
          intro same
          exact distinct.1 (same ▸ List.mem_map_of_mem member)
        rw [Crew.after_phase _ _ inferences other poll.acts (fun act own => ?_) 4]
        · exact ready later (List.mem_cons_of_mem _ member)
        · obtain ⟨event, -, rfl⟩ := List.mem_map.mp own
          exact ⟨event, rfl⟩

theorem stale_iff {cutoff : Time} (inProgress : row.status.inProgress = true) :
    row.stale cutoff = true ↔ row.updatedAt < cutoff := by
  unfold Envelope.stale
  rw [inProgress, Bool.true_and, decide_eq_true_eq]

omit [DecidableEq ι] in
/-- Calls before the time is up leave the row in progress, and the last that sets `updated_at` is
the one that counts. -/
theorem acquiredBy_early {start since : Time} {polls : List (Poll ι)}
    (inProgress : row.status.inProgress = true) (begun : start ≤ row.updatedAt)
    (known : row.updatedAt ≤ since) (ordered : InOrder since polls)
    (early : ∀ poll ∈ polls, poll.now ≤ start + staleAfter) :
    (row.acquiredBy staleAfter calls polls).status.inProgress = true ∧
      (row.acquiredBy staleAfter calls polls).requestHash = row.requestHash ∧
      ∀ cutoff, (row.acquiredBy staleAfter calls polls).updatedAt < cutoff ↔
        row.updatedAt < cutoff ∧
          ∀ time ∈ renewals calls row.requestHash row.lastSeenAt polls, time < cutoff := by
  induction polls generalizing row since with
  | nil => exact ⟨inProgress, rfl, fun cutoff => (and_iff_left nofun).symm⟩
  | cons poll polls ih =>
      obtain ⟨after, flushed, rest⟩ := ordered
      have soon := early poll List.mem_cons_self
      obtain ⟨due, past, past'⟩ : ¬ row.updatedAt < poll.now - staleAfter ∧
          row.updatedAt ≤ poll.later ∧ start ≤ poll.later := by
        unfold Time at *
        omega
      have fresh : ¬ row.stale (poll.now - staleAfter) = true := by
        rwa [stale_iff inProgress]
      have later : ∀ poll ∈ polls, poll.now ≤ start + staleAfter := fun poll member =>
        early poll (List.mem_cons_of_mem _ member)
      unfold Envelope.acquiredBy renewals
      rw [List.foldl_cons]
      unfold Envelope.acquired
      rw [if_neg fresh]
      by_cases other : (calls poll.caller).requestHash ≠ row.requestHash
      · rw [if_pos (Ne.symm other), if_pos (.inl other)]
        exact ih inProgress begun past rest later
      · rw [if_neg (fun different => other (Ne.symm different))]
        unfold Envelope.touch
        by_cases seen : row.lastSeenAt = poll.now
        · rw [if_pos seen, if_pos (.inr seen)]
          exact ih inProgress begun past rest later
        · rw [if_neg seen, if_neg (not_or.mpr ⟨other, seen⟩)]
          obtain ⟨still, hash, renewed⟩ := @ih { row with lastSeenAt := poll.now, updatedAt := poll.later } _
            inProgress past' le_rfl rest later
          refine ⟨still, hash, fun cutoff => (renewed cutoff).trans ?_⟩
          rw [List.forall_mem_cons]
          constructor
          · intro all
            exact ⟨lt_of_le_of_lt past all.1, all⟩
          · exact And.right

theorem acquired_detected {requestHash : String} {now later : Time}
    (inProgress : row.status.inProgress = true) :
    Detected (some (row.acquired staleAfter requestHash now later)) ↔
      requestHash = row.requestHash ∧ row.updatedAt < now - staleAfter := by
  have unfailed {own : Envelope} (same : own.status = row.status) : ¬ Detected (some own) := by
    intro detected
    obtain ⟨own', found, failed, -⟩ := detected
    obtain rfl := Option.some.inj found
    rw [← same, failed] at inProgress
    cases inProgress
  have touched (own : Envelope) := touch_outcome own now later
  unfold Envelope.acquired
  by_cases other : row.requestHash ≠ requestHash
  · rw [if_pos other]
    exact ⟨fun detected => absurd detected (unfailed rfl), fun both => absurd both.1.symm other⟩
  · rw [if_neg other, ← stale_iff inProgress]
    by_cases stale : row.stale (now - staleAfter) = true
    · rw [if_pos stale]
      refine ⟨fun _ => ⟨(not_not.mp other).symm, stale⟩, fun _ => ⟨_, rfl, ?_, ?_⟩⟩
      · exact congrArg Outcome.status (touched (row.sweep now))
      · exact congrArg Outcome.failureReason (touched (row.sweep now))
    · rw [if_neg stale]
      constructor
      · exact fun detected => absurd detected (unfailed (congrArg Outcome.status (touched row)))
      · exact fun both => absurd both.2 stale

omit [DecidableEq ι] in
theorem ordered_init {since : Time} {polls : List (Poll ι)} {last : Poll ι}
    (ordered : InOrder since (polls ++ [last])) : InOrder since polls := by
  induction polls generalizing since with
  | nil => trivial
  | cons poll polls ih =>
      obtain ⟨after, flushed, rest⟩ := ordered
      exact ⟨after, flushed, ih rest⟩

theorem stuck_detected_iff {polls : List (Poll ι)} {last : Poll ι}
    (stuck : Stuck staleAfter inferences row polls last) :
    Detected (inferences.polled staleAfter calls (polls ++ [last])).shared.cell.committed ↔
      (calls last.caller).requestHash = row.requestHash ∧
        ∀ time ∈ renewals calls row.requestHash row.lastSeenAt polls,
          time < last.now - staleAfter := by
  have cell := polled_cell staleAfter calls stuck.committed stuck.free
    stuck.ready stuck.distinct
  obtain ⟨inProgress, hash, updated⟩ := acquiredBy_early staleAfter calls stuck.inProgress le_rfl
    le_rfl (ordered_init stuck.ordered) stuck.before
  have due : row.updatedAt < last.now - staleAfter := by
    have after := stuck.after
    unfold Time at *
    omega
  rw [cell]
  unfold Envelope.acquiredBy at inProgress hash updated ⊢
  rw [List.foldl_append, List.foldl_cons, List.foldl_nil, acquired_detected staleAfter inProgress, hash,
    updated, and_iff_right due]

end

/-! The worker `0` is in its execution since 0, and a row is stale after 300. Another call polls the
row at 100, or at 250, and the next comes at 401. -/

def pollFirst (now : Time) : List (Poll (Fin 3)) := [{ caller := (Fin.last 1).castSucc, now, later := now }]

def pollLast : Poll (Fin 3) := { caller := Fin.last 2, now := 401, later := 401 }

theorem abandoned_stuck {now : Time} (begun : 0 ≤ now) (soon : now ≤ 300) :
    Stuck 300 (after 300 slowCalls slowHistory 6)
      { requestHash := "5f2d", inferenceId := "01HA", status := .executing, failureReason := none
        resultJson := none, lastSeenAt := 0, updatedAt := 0 } (pollFirst now) pollLast where
  committed := rfl
  free := rfl
  inProgress := rfl
  ready poll member := by
    rcases List.mem_cons.mp member with rfl | member
    · rfl
    · obtain rfl := List.mem_singleton.mp member
      rfl
  distinct := by
    show [(1 : Fin 3), 2].Nodup
    decide
  ordered := ⟨begun, le_rfl, le_trans soon (by decide), le_rfl, trivial⟩
  before poll member := by
    obtain rfl := List.mem_singleton.mp member
    exact soon
  after := by decide

theorem early_poll_detected :
    Detected ((after 300 slowCalls slowHistory 6).polled 300 slowCalls
      (pollFirst 100 ++ [pollLast])).shared.cell.committed :=
  (stuck_detected_iff 300 slowCalls (abandoned_stuck (by decide) (by decide))).mpr ⟨rfl, by decide⟩

theorem polled_row_undetected :
    ¬ ∀ row polls last, Stuck 300 (after 300 slowCalls slowHistory 6) row polls last →
      Detected ((after 300 slowCalls slowHistory 6).polled 300 slowCalls
        (polls ++ [last])).shared.cell.committed := by
  intro all
  have detected := all _ (pollFirst 250) pollLast (abandoned_stuck (by decide) (by decide))
  obtain ⟨own, found, failed, -⟩ := detected
  cases found
  cases failed

end SyndicateClaw.Inference
