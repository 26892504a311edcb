import SyndicateClaw.Async.Crew
import SyndicateClaw.Services.Messages

/-! The writers of a message's status: each reads the row in a session, sets the status whatever it
is, and commits. The delivery loop polls and calls two of them. -/

namespace SyndicateClaw.Services

open Async
open Authz (Time)

inductive StatusMark where
  | delivered
  | failed
  | acked (actor : String)
  | consumed
  deriving DecidableEq

namespace StatusMark

def target : StatusMark → MessageStatus
  | .delivered => .delivered
  | .failed => .failed
  | .acked _ | .consumed => .acked

def source : StatusMark → MessageStatus
  | .delivered | .failed => .pending
  | .acked _ | .consumed => .delivered

/-- `ack` takes a message of the actor's own. -/
def admits (mark : StatusMark) (row : AgentMessage) : Bool :=
  match mark with
  | .acked actor => row.recipient = some actor
  | _ => true

/-- What a commit writes on the row: the status where it is not the one that the session read. -/
def write (mark : StatusMark) (seen : MessageStatus) (now : Time) (row : AgentMessage) :
    AgentMessage :=
  { row with
    status := if mark.target = seen then row.status else mark.target
    deliveredAt := if mark = .delivered then some now else row.deliveredAt
    ackedAt := if mark.target = .acked then some now else row.ackedAt }

end StatusMark

inductive Caller where
  | request
  -- An attempt of the delivery loop, and how many are left after it.
  | attempt (left : Nat)
  -- The loop gives the message up.
  | giveUp
  deriving DecidableEq

inductive StatusWriter where
  | polling
  | calling (mark : StatusMark) (caller : Caller)
  | holding (mark : StatusMark) (seen : MessageStatus) (caller : Caller)
  | returned
  | raised
  deriving DecidableEq

def Caller.returned : Caller → StatusWriter
  | .request => .returned
  | .attempt _ | .giveUp => .polling

/-- Five attempts, and then `mark_delivery_failed`, which nothing guards. -/
def Caller.raised : Caller → StatusWriter
  | .request | .giveUp => .raised
  | .attempt 0 => .calling .failed .giveUp
  | .attempt (left + 1) => .calling .delivered (.attempt left)

inductive StatusChoice where
  | proceed (now : Time)
  -- The poll leaves the message out of its first hundred.
  | overlook
  -- The commit is made, and the caller is told that it was not.
  | lost (now : Time)
  | raised
  deriving DecidableEq

structure MessageDesk where
  row : Option AgentMessage
  consumptions : Nat

def MessageDesk.commit (desk : MessageDesk) (mark : StatusMark) (seen : MessageStatus) (now : Time) :
    MessageDesk :=
  match desk.row with
  | none => desk
  | some row =>
      { row := some (mark.write seen now row)
        consumptions := if mark = .consumed then desk.consumptions + 1 else desk.consumptions }

/-- What the query of `pending_messages` selects. -/
def Pending (now : Time) (message : AgentMessage) : Bool :=
  message.status = .pending && message.expiresAt.any fun at_ => now < at_

def StatusWriter.move {ι : Type} (_ : ι) (choice : StatusChoice) (desk : MessageDesk)
    (writer : StatusWriter) : MessageDesk × StatusWriter :=
  match writer with
  | .polling =>
      match choice with
      | .proceed now =>
          (desk, if desk.row.any (Pending now) then .calling .delivered (.attempt 4) else .polling)
      | .raised => (desk, .raised)
      | _ => (desk, .polling)
  | .calling mark caller =>
      match choice with
      | .proceed _ =>
          match desk.row with
          | none => (desk, if mark.target = .acked ∧ mark ≠ .consumed then caller.raised
              else caller.returned)
          | some row =>
              (desk, if mark.admits row then .holding mark row.status caller else caller.raised)
      | .raised => (desk, caller.raised)
      | _ => (desk, .calling mark caller)
  | .holding mark seen caller =>
      match choice with
      | .proceed now => (desk.commit mark seen now, caller.returned)
      | .lost now => (desk.commit mark seen now, caller.raised)
      | .raised => (desk, caller.raised)
      | .overlook => (desk, .holding mark seen caller)
  | .returned => (desk, .returned)
  | .raised => (desk, .raised)

/-- A message as `send` commits it. -/
structure SentMessage where
  message : AgentMessage
  status : message.status = .pending ∨ message.status = .delivered

/-- The rows that `send` stores are such messages. -/
theorem sent_by_send {services : MessageServices} {now : Time} {request : SendRequest}
    {rows : List AgentMessage} {status : MessageStatus}
    (made : request.rows services now = .ok (rows, status)) :
    ∀ row ∈ rows.map (AgentMessage.withStatus status), ∃ sent : SentMessage, sent.message = row := by
  intro row member
  obtain ⟨before, _, rfl⟩ := List.mem_map.mp member
  exact ⟨⟨before.withStatus status, status_rows made⟩, rfl⟩

def sendTo (sent : SentMessage) (desk : MessageDesk) : MessageDesk :=
  match desk.row with
  | none => { desk with row := some sent.message }
  | some _ => desk

inductive StatusTask where
  | call (mark : StatusMark)
  | deliveryLoop

def StatusTask.begin : StatusTask → StatusWriter
  | .call mark => .calling mark .request
  | .deliveryLoop => .polling

abbrev MessageRun (ι : Type) := Crew ι MessageDesk StatusWriter

namespace MessageRun

variable {ι : Type} [DecidableEq ι]

def start (tasks : ι → StatusTask) : MessageRun ι where
  shared := { row := none, consumptions := 0 }
  phase i := (tasks i).begin

abbrev after (run : MessageRun ι) (acts : List (Act ι StatusChoice SentMessage)) (n : Nat) :
    MessageRun ι :=
  Crew.after StatusWriter.move sendTo run acts n

end MessageRun

/-! ### The order of the statuses -/

inductive StatusStep : MessageStatus → MessageStatus → Prop where
  | deliver : StatusStep .pending .delivered
  | ack : StatusStep .delivered .acked
  | fail : StatusStep .pending .failed

def Forward (before after : MessageDesk) : Prop :=
  ∀ old, before.row = some old → ∃ new, after.row = some new ∧
    (new.status = old.status ∨ StatusStep old.status new.status)

/-- The status only moves forward, and from `ACKED` nowhere. -/
structure StatusOrder {ι : Type} [DecidableEq ι] (run : MessageRun ι)
    (acts : List (Act ι StatusChoice SentMessage)) : Prop where
  steps : ∀ n, Forward (run.after acts n).shared (run.after acts (n + 1)).shared
  final : ∀ n m, n ≤ m → ∀ old, (run.after acts n).shared.row = some old → old.status = .acked →
    ∃ new, (run.after acts m).shared.row = some new ∧ new.status = .acked

def Commits : StatusChoice → Prop
  | .proceed _ | .lost _ => True
  | _ => False

/-- A commit that writes a status finds the message there already or right before it. -/
def InOrder {ι : Type} (run : MessageRun ι) : Act ι StatusChoice SentMessage → Prop
  | .own i choice => ∀ mark seen caller row, run.phase i = .holding mark seen caller →
      run.shared.row = some row → Commits choice → mark.target ≠ seen →
        row.status = mark.target ∨ row.status = mark.source
  | .outside _ => True

/-- A response is consumed while it is `DELIVERED`, from its reading to the commit. -/
def ConsumesDelivered {ι : Type} (run : MessageRun ι) : Act ι StatusChoice SentMessage → Prop
  | .own i choice => ∀ seen caller row, run.phase i = .holding .consumed seen caller →
      run.shared.row = some row → Commits choice → seen = .delivered ∧ row.status = .delivered
  | .outside _ => True

section

theorem statusStep_iff {old : MessageStatus} (mark : StatusMark) :
    StatusStep old mark.target ↔ old = mark.source := by
  constructor
  · intro step
    cases mark <;> cases step <;> rfl
  · rintro rfl
    cases mark with
    | delivered => exact .deliver
    | failed => exact .fail
    | acked actor => exact .ack
    | consumed => exact .ack

variable {ι : Type}

theorem move_desk (i : ι) (choice : StatusChoice) (desk : MessageDesk) (writer : StatusWriter) :
    (StatusWriter.move i choice desk writer).1 = desk ∨
      ∃ mark seen caller now, writer = .holding mark seen caller ∧ Commits choice ∧
        (StatusWriter.move i choice desk writer).1 = desk.commit mark seen now := by
  cases writer with
  | holding mark seen caller =>
      cases choice with
      | proceed now => exact .inr ⟨mark, seen, caller, now, rfl, trivial, rfl⟩
      | lost now => exact .inr ⟨mark, seen, caller, now, rfl, trivial, rfl⟩
      | _ => exact .inl rfl
  | polling => cases choice <;> exact .inl rfl
  | calling mark caller =>
      left
      unfold StatusWriter.move
      cases choice with
      | proceed now => cases desk.row <;> rfl
      | _ => rfl
  | _ => exact .inl rfl

theorem move_commits {choice : StatusChoice} (commits : Commits choice) (i : ι) (desk : MessageDesk)
    (mark : StatusMark) (seen : MessageStatus) (caller : Caller) :
    ∃ now, (StatusWriter.move i choice desk (.holding mark seen caller)).1 =
      desk.commit mark seen now := by
  cases choice with
  | proceed now => exact ⟨now, rfl⟩
  | lost now => exact ⟨now, rfl⟩
  | _ => exact commits.elim

theorem forward_commit_iff {desk : MessageDesk} {mark : StatusMark} {seen : MessageStatus}
    {now : Time} :
    Forward desk (desk.commit mark seen now) ↔ ∀ row, desk.row = some row → mark.target ≠ seen →
      row.status = mark.target ∨ row.status = mark.source := by
  constructor
  · intro forward row present writes
    obtain ⟨new, committed, moves⟩ := forward row present
    rw [MessageDesk.commit, present] at committed
    obtain rfl := Option.some.inj committed
    have status : (mark.write seen now row).status = mark.target := if_neg writes
    rw [status] at moves
    exact moves.imp Eq.symm (statusStep_iff mark).mp
  · intro found row present
    refine ⟨mark.write seen now row, ?_, ?_⟩
    · rw [MessageDesk.commit, present]
    · by_cases writes : mark.target = seen
      · exact .inl (if_pos writes)
      · have status : (mark.write seen now row).status = mark.target := if_neg writes
        rw [status]
        exact (found row present writes).imp Eq.symm (statusStep_iff mark).mpr

theorem forward_refl (desk : MessageDesk) : Forward desk desk :=
  fun old present => ⟨old, present, .inl rfl⟩

variable [DecidableEq ι]

theorem forward_step_iff (run : MessageRun ι) (act : Act ι StatusChoice SentMessage) :
    Forward run.shared (run.step StatusWriter.move sendTo act).shared ↔ InOrder run act := by
  cases act with
  | own i choice =>
      show Forward run.shared (StatusWriter.move i choice run.shared (run.phase i)).1 ↔ _
      constructor
      · intro forward mark seen caller row phase present commits writes
        obtain ⟨now, moves⟩ := move_commits commits i run.shared mark seen caller
        rw [phase, moves] at forward
        exact forward_commit_iff.mp forward row present writes
      · intro inOrder
        rcases move_desk i choice run.shared (run.phase i) with same | commit
        · rw [same]
          exact forward_refl run.shared
        · obtain ⟨mark, seen, caller, now, phase, commits, moves⟩ := commit
          rw [moves]
          apply forward_commit_iff.mpr
          intro row present
          exact inOrder mark seen caller row phase present commits
  | outside sent =>
      constructor
      · intro _
        trivial
      · intro _ old present
        refine ⟨old, ?_, .inl rfl⟩
        show (sendTo sent run.shared).row = some old
        unfold sendTo
        rw [present]
        exact present

variable {run : MessageRun ι} {acts : List (Act ι StatusChoice SentMessage)}

theorem acked_stays (steps : ∀ n, Forward (run.after acts n).shared (run.after acts (n + 1)).shared)
    {n m : Nat} (le : n ≤ m) {old : AgentMessage}
    (present : (run.after acts n).shared.row = some old) (acked : old.status = .acked) :
    ∃ new, (run.after acts m).shared.row = some new ∧ new.status = .acked := by
  induction m, le using Nat.le_induction with
  | base => exact ⟨old, present, acked⟩
  | succ m _ ih =>
      obtain ⟨row, there, before⟩ := ih
      obtain ⟨new, next, moves⟩ := steps m row there
      refine ⟨new, next, ?_⟩
      rw [before] at moves
      rcases moves with same | step
      · exact same
      · cases step

theorem statusOrder_iff :
    StatusOrder run acts ↔ ∀ n act, acts[n]? = some act → InOrder (run.after acts n) act := by
  have each : ∀ n act, acts[n]? = some act →
      (Forward (run.after acts n).shared (run.after acts (n + 1)).shared ↔
        InOrder (run.after acts n) act) := by
    intro n act present
    rw [MessageRun.after, MessageRun.after, Crew.after, Crew.after, stateAfter_succ _ _ _ present]
    exact forward_step_iff _ act
  constructor
  · intro order n act present
    exact (each n act present).mp (order.steps n)
  · intro inOrder
    have steps : ∀ n, Forward (run.after acts n).shared (run.after acts (n + 1)).shared := by
      intro n
      cases present : acts[n]? with
      | none =>
          rw [MessageRun.after, MessageRun.after, Crew.after, Crew.after,
            stateAfter_succ_of_none _ _ _ present]
          exact forward_refl _
      | some act => exact (each n act present).mpr (inOrder n act present)
    exact ⟨steps, fun n m le old present acked => acked_stays steps le present acked⟩

def ConsumedOnce (desk : MessageDesk) : Prop :=
  desk.consumptions = 0 ∨
    desk.consumptions = 1 ∧ ∃ row, desk.row = some row ∧ row.status = .acked

theorem consumedOnce_forward {before after : MessageDesk} (once : ConsumedOnce before)
    (forward : Forward before after) (same : after.consumptions = before.consumptions) :
    ConsumedOnce after := by
  unfold ConsumedOnce
  rw [same]
  refine once.imp id ?_
  intro consumed
  obtain ⟨count, row, present, acked⟩ := consumed
  obtain ⟨new, there, moves⟩ := forward row present
  refine ⟨count, new, there, ?_⟩
  rw [acked] at moves
  rcases moves with kept | step
  · exact kept
  · cases step

theorem consumedOnce_step {act : Act ι StatusChoice SentMessage} (once : ConsumedOnce run.shared)
    (inOrder : InOrder run act) (delivered : ConsumesDelivered run act) :
    ConsumedOnce (run.step StatusWriter.move sendTo act).shared := by
  have forward := (forward_step_iff run act).mpr inOrder
  cases act with
  | outside sent =>
      apply consumedOnce_forward once forward
      show (sendTo sent run.shared).consumptions = _
      unfold sendTo
      split <;> rfl
  | own i choice =>
      rcases move_desk i choice run.shared (run.phase i) with same | commit
      · exact consumedOnce_forward once forward (congrArg MessageDesk.consumptions same)
      · obtain ⟨mark, seen, caller, now, phase, commits, moves⟩ := commit
        have after : (run.step StatusWriter.move sendTo (.own i choice)).shared =
            run.shared.commit mark seen now := moves
        cases present : run.shared.row with
        | none =>
            have unchanged : run.shared.commit mark seen now = run.shared := by
              rw [MessageDesk.commit, present]
            rw [after, unchanged]
            exact once
        | some row =>
            by_cases consumes : mark = .consumed
            · subst consumes
              obtain ⟨rfl, stands⟩ := delivered seen caller row phase present commits
              have first : run.shared.consumptions = 0 := by
                rcases once with none | consumed
                · exact none
                · obtain ⟨_, other, there, acked⟩ := consumed
                  obtain rfl := Option.some.inj (present.symm.trans there)
                  rw [stands] at acked
                  cases acked
              rw [after, MessageDesk.commit, present, first]
              exact .inr ⟨rfl, _, rfl, rfl⟩
            · apply consumedOnce_forward once forward
              rw [after, MessageDesk.commit, present]
              exact if_neg consumes

theorem consumptions_le_one {tasks : ι → StatusTask}
    (inOrder : ∀ n act, acts[n]? = some act → InOrder ((MessageRun.start tasks).after acts n) act)
    (delivered : ∀ n act, acts[n]? = some act →
      ConsumesDelivered ((MessageRun.start tasks).after acts n) act) (n : Nat) :
    ((MessageRun.start tasks).after acts n).shared.consumptions ≤ 1 := by
  have once : ConsumedOnce ((MessageRun.start tasks).after acts n).shared := by
    apply stateAfter_invariant _ _ acts fun run : MessageRun ι => ConsumedOnce run.shared
    · exact .inl rfl
    · intro k act present before
      exact consumedOnce_step before (inOrder k act present) (delivered k act present)
  rcases once with none | one
  · rw [none]
    exact Nat.zero_le 1
  · exact one.1.le

end

def openMessage : SentMessage where
  message :=
    { id := "m1", conversationId := "01HZCONVERSATION0000000000", sender := "system:engine"
      recipient := none, topic := none, messageType := "RESPONSE", content := .dict []
      metadata := [], priority := "NORMAL", status := .pending, ttlSeconds := 3600, hopCount := 0
      parentMessageId := none, expiresAt := some 3600000000, deliveredAt := none, ackedAt := none
      createdAt := 0 }
  status := .inl rfl

inductive Deployed where
  | first | second | resume
  deriving DecidableEq

def deployedTasks : Deployed → StatusTask
  | .first | .second => .deliveryLoop
  | .resume => .call .consumed

def staleBatch : List (Act Deployed StatusChoice SentMessage) :=
  [.outside openMessage, .own .first (.proceed 1), .own .second (.proceed 1),
    .own .first (.proceed 2), .own .first (.proceed 3), .own .resume (.proceed 4),
    .own .resume (.proceed 5), .own .second (.proceed 6), .own .second (.proceed 7)]

end SyndicateClaw.Services
