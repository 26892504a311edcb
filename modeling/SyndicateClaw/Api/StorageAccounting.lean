import SyndicateClaw.Api.MemoryRoutes

/-! The storage that is counted for an organization, over every interleaving of its members'
requests: it is counted when a record is written, and neither when one is updated nor deleted. -/

namespace SyndicateClaw.Api

open Async Memory Orchestrator
open Approval (changed)
open Authz (Time)

def LiveIn (org : QuotaOrganization) (row : MemoryRow) : Prop :=
  row.namespaceName = org.namespaceName ∧ row.deletionStatus = .active

instance (org : QuotaOrganization) (row : MemoryRow) : Decidable (LiveIn org row) :=
  inferInstanceAs (Decidable (_ ∧ _))

def liveBytes (org : QuotaOrganization) (row : MemoryRow) : Nat :=
  if LiveIn org row then jsonValueByteSize row.value else 0

def MemoryStore.bytesStored (org : QuotaOrganization) (store : MemoryStore) : Nat :=
  (store.records.rows.map (liveBytes org)).sum

/-- A number of bytes is within `storage_limit_bytes`. -/
def WithinStorage (org : QuotaOrganization) (bytes : Nat) : Prop :=
  ∀ limitBytes, Dict.get? org.quotas "storage_limit_bytes" = some limitBytes →
    (bytes : Rat) ≤ limitBytes

structure Accounts (org : QuotaOrganization) (store : MemoryStore) : Prop where
  equal : store.getStorageBytesUsed = store.bytesStored org
  within : WithinStorage org store.getStorageBytesUsed

/-- The condition on the next move of a request: a record is inserted while its bytes fit in, a value
that is set has the size of the one it replaces, and a record that is marked is not live. -/
def MemorySession.Keeps (org : QuotaOrganization) (store : MemoryStore) (now : Time) :
    MemorySession → Prop
  | .measured actor recordId body =>
      store.Accepts (body.row recordId actor now) →
        WithinStorage org (store.getStorageBytesUsed + body.valueBytes)
  | .updating body seen =>
      body.assignsValue seen = true → ∀ row, store.records.get? seen.id = some row →
        LiveIn org row → jsonValueByteSize (wrapped "_value" body.value) = jsonValueByteSize row.value
  | .deleting seen =>
      seen.deletionStatus ≠ .markedForDeletion →
        ∀ row, store.records.get? seen.id = some row → liveBytes org row = 0
  | _ => True

def KeepsAccounts {ι : Type} (org : QuotaOrganization) (desk : MemoryDesk ι) :
    Act ι MemoryChoice Empty → Prop
  | .own i (.proceed now) => (desk.phase i).Keeps org desk.shared now
  | _ => True

def OwnNamespace (org : QuotaOrganization) : MemorySession → Prop
  | .counted _ _ body | .measured _ _ body => body.namespaceName = org.namespaceName
  | _ => True

section

variable {org : QuotaOrganization} {store : MemoryStore} {row : MemoryRow}

theorem liveBytes_row {body : WriteMemoryRequest} (own : body.namespaceName = org.namespaceName)
    (recordId actor : String) (now : Time) :
    liveBytes org (body.row recordId actor now) = body.valueBytes := by
  unfold liveBytes
  rw [if_pos]
  · rfl
  · exact ⟨own, rfl⟩

theorem liveBytes_flushed (body : UpdateMemoryRequest) (seen : MemoryRow) (now : Time) :
    liveBytes org (body.flushed seen now row) = liveBytes org row ↔
      (body.assignsValue seen = true → LiveIn org row →
        jsonValueByteSize (wrapped "_value" body.value) = jsonValueByteSize row.value) := by
  have same : LiveIn org (body.flushed seen now row) ↔ LiveIn org row := Iff.rfl
  unfold liveBytes
  by_cases live : LiveIn org row
  · rw [if_pos (same.mpr live), if_pos live]
    unfold UpdateMemoryRequest.flushed
    cases body.assignsValue seen with
    | true => simp [live]
    | false => simp
  · rw [if_neg (fun also => live (same.mp also)), if_neg live]
    simp [live]

theorem liveBytes_deletedMemory (seen : MemoryRow) (now : Time) :
    liveBytes org (deletedMemory seen now row) = liveBytes org row ↔
      (seen.deletionStatus ≠ .markedForDeletion → liveBytes org row = 0) := by
  by_cases marked : seen.deletionStatus = .markedForDeletion
  · have status : (deletedMemory seen now row).deletionStatus = row.deletionStatus :=
      if_pos marked.symm
    have live : LiveIn org (deletedMemory seen now row) ↔ LiveIn org row := by
      unfold LiveIn
      rw [status]
      exact Iff.rfl
    have same : liveBytes org (deletedMemory seen now row) = liveBytes org row :=
      if_congr live rfl rfl
    exact ⟨fun _ other => absurd marked other, fun _ => same⟩
  · have status : (deletedMemory seen now row).deletionStatus = .markedForDeletion :=
      if_neg fun same => marked same.symm
    have dead : liveBytes org (deletedMemory seen now row) = 0 := by
      apply if_neg
      intro live
      have active := status.symm.trans live.2
      cases active
    rw [dead]
    exact ⟨fun none _ => none.symm, fun none => (none marked).symm⟩

theorem accounts_commitWrite (accounts : Accounts org store) (valueBytes : Nat)
    (counted : liveBytes org row = valueBytes) :
    Accounts org (store.commitWrite row valueBytes).1 ↔
      (store.Accepts row → WithinStorage org (store.getStorageBytesUsed + valueBytes)) := by
  unfold MemoryStore.commitWrite
  by_cases accepted : store.Accepts row
  · rw [if_pos accepted]
    constructor
    · intro after _
      exact after.within
    · intro within
      refine ⟨?_, within accepted⟩
      have grown := Keyed.sum_insert store.records row (liveBytes org)
      rw [if_pos accepted.1, counted] at grown
      calc
        store.getStorageBytesUsed + valueBytes = store.bytesStored org + valueBytes := by
          rw [accounts.equal]
        _ = _ := grown.symm
  · rw [if_neg accepted]
    exact ⟨fun _ also => absurd also accepted, fun _ => accounts⟩

/-- An `UPDATE` is not counted. -/
theorem accounts_changeAt (accounts : Accounts org store) (recordId : String)
    (f : MemoryRow → MemoryRow) (keeps : ∀ row, (f row).id = row.id) :
    Accounts org { store with records := store.records.changeAt recordId f keeps } ↔
      ∀ row, store.records.get? recordId = some row → liveBytes org (f row) = liveBytes org row := by
  have equal : store.getStorageBytesUsed = (store.records.rows.map (liveBytes org)).sum :=
    accounts.equal
  constructor
  · intro after row found
    have sum := Keyed.sum_changeAt store.records f keeps (liveBytes org) found
    have next : store.getStorageBytesUsed =
        ((store.records.changeAt recordId f keeps).rows.map (liveBytes org)).sum := after.equal
    omega
  · intro same
    refine ⟨?_, accounts.within⟩
    show store.getStorageBytesUsed =
      ((store.records.changeAt recordId f keeps).rows.map (liveBytes org)).sum
    cases found : store.records.get? recordId with
    | none => rw [Keyed.changeAt_of_none f keeps found, equal]
    | some row =>
        have sum := Keyed.sum_changeAt store.records f keeps (liveBytes org) found
        have still := same row found
        omega

theorem ownNamespace_move {ι : Type} (i : ι) (choice : MemoryChoice) {session : MemorySession}
    (own : OwnNamespace org session) :
    OwnNamespace org (session.move org i choice store).2 := by
  cases choice with
  | abandon => cases session <;> trivial
  | proceed now =>
      cases session with
      | received actor request =>
          cases request with
          | write recordId body =>
              show OwnNamespace org (MemorySession.next (body.admitted org _) _)
              unfold WriteMemoryRequest.admitted
              split
              · trivial
              · next same =>
                  unfold MemorySession.next
                  split
                  · trivial
                  · exact not_not.mp same
          | update recordId body =>
              show OwnNamespace org (MemorySession.next (updatableMemory _ recordId actor) _)
              unfold MemorySession.next
              split <;> trivial
          | delete recordId =>
              show OwnNamespace org (MemorySession.next (heldMemory _ recordId actor) _)
              unfold MemorySession.next
              split <;> trivial
      | counted actor recordId body =>
          show OwnNamespace org (MemorySession.next (checkStorage org _ _) _)
          unfold MemorySession.next
          split
          · trivial
          · exact own
      | measured actor recordId body =>
          show OwnNamespace org (store.commitWrite _ _).2
          unfold MemoryStore.commitWrite
          split <;> trivial
      | updating body seen => trivial
      | deleting seen => trivial
      | answered result => trivial
      | abandoned => trivial

theorem accounts_move {ι : Type} (accounts : Accounts org store) (i : ι) (now : Time)
    {session : MemorySession} (own : OwnNamespace org session) :
    Accounts org (session.move org i (.proceed now) store).1 ↔ session.Keeps org store now := by
  cases session with
  | received actor request => cases request <;> exact iff_of_true accounts trivial
  | counted actor recordId body => exact iff_of_true accounts trivial
  | measured actor recordId body =>
      exact accounts_commitWrite accounts _ (liveBytes_row own recordId actor now)
  | updating body seen =>
      apply (accounts_changeAt accounts seen.id _ (flushed_id body seen now)).trans
      simp only [liveBytes_flushed]
      constructor
      · intro all assigns row found
        exact all row found assigns
      · intro all row found assigns
        exact all assigns row found
  | deleting seen =>
      apply (accounts_changeAt accounts seen.id _ (deletedMemory_id seen now)).trans
      simp only [liveBytes_deletedMemory]
      constructor
      · intro all unmarked row found
        exact all row found unmarked
      · intro all row found unmarked
        exact all unmarked row found
  | answered result => exact iff_of_true accounts trivial
  | abandoned => exact iff_of_true accounts trivial

section

variable {ι : Type} [DecidableEq ι]

theorem ownNamespace_step {desk : MemoryDesk ι} (own : ∀ i, OwnNamespace org (desk.phase i))
    (act : Act ι MemoryChoice Empty) (i : ι) : OwnNamespace org ((desk.step org act).phase i) := by
  unfold MemoryDesk.step
  rcases Crew.step_phase (MemorySession.move org) Empty.elim desk act i
    with same | ⟨choice, _, _, moved⟩
  · rw [same]
    exact own i
  · rw [moved]
    exact ownNamespace_move i choice (own i)

theorem accounts_step {desk : MemoryDesk ι} (accounts : Accounts org desk.shared)
    (own : ∀ i, OwnNamespace org (desk.phase i)) (act : Act ι MemoryChoice Empty) :
    Accounts org (desk.step org act).shared ↔ KeepsAccounts org desk act := by
  cases act with
  | outside occurs => nomatch occurs
  | own i choice =>
      cases choice with
      | proceed now => exact accounts_move accounts i now (own i)
      | abandon =>
          show Accounts org ((desk.phase i).move org i .abandon desk.shared).1 ↔ True
          cases desk.phase i <;> exact iff_of_true accounts trivial

/-- In a history of the members' requests the storage is accounted for throughout exactly if it is at
the start and every act keeps it so. -/
theorem storage_accounted_iff (org : QuotaOrganization) (store : MemoryStore)
    (requests : ι → String × MemoryRequest) (acts : List (Act ι MemoryChoice Empty)) :
    (∀ n, Accounts org ((MemoryDesk.start store requests).after org acts n).shared) ↔
      Accounts org store ∧ ∀ n act, acts[n]? = some act →
        KeepsAccounts org ((MemoryDesk.start store requests).after org acts n) act := by
  have own (n : Nat) (i : ι) :
      OwnNamespace org (((MemoryDesk.start store requests).after org acts n).phase i) := by
    revert i
    apply stateAfter_invariant _ _ _ fun desk : MemoryDesk ι => ∀ i, OwnNamespace org (desk.phase i)
    · intro i
      trivial
    · intro n act _ before
      exact ownNamespace_step before act
  apply stateAfter_invariant_iff _ _ _ (fun desk : MemoryDesk ι => Accounts org desk.shared)
  intro n act _ accounts
  exact accounts_step accounts (own n) act

end

end

/-! A member writes a record and deletes it; two members write at the same time, where one record
fits in. -/

def smallOrganization : QuotaOrganization where
  status := "ACTIVE"
  namespaceName := "team"
  quotas := [("storage_limit_bytes", 20)]

def noteRequest (key : String) : WriteMemoryRequest where
  namespaceName := "team"
  key
  value := .dict [("note", .str "x")]
  memoryType := .semantic
  source := "chat"

def emptyStore : MemoryStore where
  records := ⟨[], List.nodup_nil⟩
  storageBytesUsed := some 0

def writeThenDelete : Nat → String × MemoryRequest
  | 0 => ("ada", .write "m1" (noteRequest "a"))
  | _ => ("ada", .delete "m1")

def writeTwice : Nat → String × MemoryRequest
  | 0 => ("ada", .write "m1" (noteRequest "a"))
  | _ => ("bob", .write "m2" (noteRequest "b"))

def turns (turn : List Nat) : List (Act Nat MemoryChoice Empty) :=
  turn.map fun i => .own i (.proceed 0)

theorem emptyStore_accounts : Accounts smallOrganization emptyStore where
  equal := rfl
  within := by
    intro limitBytes limit
    obtain rfl := Option.some.inj limit
    show ((0 : Nat) : Rat) ≤ 20
    decide +kernel

theorem deleted_storage_counted :
    Accounts smallOrganization emptyStore ∧
      (¬ ∀ n, Accounts smallOrganization ((MemoryDesk.start emptyStore writeThenDelete).after
        smallOrganization (turns [0, 0, 0, 1, 1]) n).shared) ∧
      ¬ ∀ n, Accounts smallOrganization ((MemoryDesk.start emptyStore writeTwice).after
        smallOrganization (turns [0, 1, 0, 1, 0, 1]) n).shared := by
  refine ⟨emptyStore_accounts, ?_, ?_⟩
  · intro accounts
    have equal := (accounts 5).equal
    revert equal
    decide +kernel
  · intro accounts
    have within := (accounts 6).within 20 rfl
    revert within
    decide +kernel

end SyndicateClaw.Api
