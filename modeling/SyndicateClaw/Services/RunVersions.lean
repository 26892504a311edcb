import SyndicateClaw.Api.RunRoutes
import SyndicateClaw.Services.VersionHistory

/-! The versions that runs are pinned to. -/

namespace SyndicateClaw.Services

open Api

/-- A run names the version that was asked for, or the current one, and this version can be
fetched. -/
def NamesVersion (recorded : String) (requested : Option Int) (store : VersionStore)
    (wf : WorkflowDefinitionRow) : Prop :=
  recorded = toString (requested.getD wf.currentVersion) ∧
    ∃ row, VersioningService.getVersion (requested.getD wf.currentVersion) store = .ok row

/-! ### `str` of a number -/

theorem natRepr_injective {m n : Nat} (same : Nat.repr m = Nat.repr n) : m = n := by
  have texts := congrArg String.toList same
  have digits : Nat.toDigits 10 m = Nat.toDigits 10 n := by simpa [Nat.repr] using texts
  have values := congrArg (fun digits => Nat.ofDigitChars 10 digits 0) digits
  simpa using values

theorem natRepr_unsigned (m n : Nat) : Nat.repr m ≠ "-" ++ Nat.repr n := by
  intro same
  have texts := congrArg String.toList same
  have sign : '-' ∈ Nat.toDigits 10 m := by
    have head : Nat.toDigits 10 m = '-' :: Nat.toDigits 10 n := by simpa [Nat.repr] using texts
    rw [head]
    exact List.mem_cons_self
  have digit := Nat.isDigit_of_mem_toDigits (by decide) (by decide) sign
  revert digit
  decide

theorem toString_injective {m n : Int} (same : toString m = toString n) : m = n := by
  cases m with
  | ofNat m =>
      cases n with
      | ofNat n => exact congrArg Int.ofNat (natRepr_injective same)
      | negSucc n => exact absurd same (natRepr_unsigned m (n + 1))
  | negSucc m =>
      cases n with
      | ofNat n => exact absurd same.symm (natRepr_unsigned n (m + 1))
      | negSucc n =>
          change "-" ++ Nat.repr (m + 1) = "-" ++ Nat.repr (n + 1) at same
          have magnitudes : Nat.repr (m + 1) = Nat.repr (n + 1) :=
            String.append_right_inj _ |>.mp same
          exact congrArg Int.negSucc (Nat.succ.inj (natRepr_injective magnitudes))

section

variable {store : VersionStore} {wf : WorkflowDefinitionRow}

theorem namesVersion_iff (kept : store.Kept wf) (recorded : Int) (requested : Option Int) :
    NamesVersion (toString recorded) requested store wf ↔
      recorded = requested.getD wf.currentVersion ∧ 2 ≤ recorded ∧ recorded ≤ wf.currentVersion ∧
        (wf.currentVersion : Int) < recorded + 100 := by
  unfold NamesVersion
  rw [kept.getVersion_ok]
  constructor
  · intro names
    obtain ⟨same, inside⟩ := names
    rw [← toString_injective same] at inside
    exact ⟨toString_injective same, inside⟩
  · intro names
    obtain ⟨rfl, inside⟩ := names
    exact ⟨rfl, inside⟩

end

variable {ι : Type} [DecidableEq ι]

/-- `start_run` reads the workflow in state `i` and the version in state `j`, and its run is
committed in state `k`; the scheduler creates one in state `k`. -/
theorem run_versions_iff (requests : ι → VersionSession) (acts : List (VersionAct ι)) :
    (∀ i j k, i ≤ j → j ≤ k →
      ∀ maxConcurrentRuns actorOrg activeCount workflowId actor runId body run,
        startRun maxConcurrentRuns ((VersionDesk.start requests).after acts i).store.workflow
          actorOrg activeCount
          (fun version => VersioningService.getVersion version
            ((VersionDesk.start requests).after acts j).store)
          workflowId actor runId body = .ok run →
        ∃ seen wf, ((VersionDesk.start requests).after acts i).store.workflow = some seen ∧
          ((VersionDesk.start requests).after acts k).store.workflow = some wf ∧
          (NamesVersion run.workflowVersion body.version
              ((VersionDesk.start requests).after acts k).store wf ↔
            match body.version with
            | some version => (wf.currentVersion : Int) < version + 100
            | none => 2 ≤ wf.currentVersion ∧ wf.currentVersion = seen.currentVersion)) ∧
    (∀ k schedule runId wf,
      ((VersionDesk.start requests).after acts k).store.workflow = some wf →
        (NamesVersion (createRun schedule runId).workflowVersion schedule.workflowVersion
            ((VersionDesk.start requests).after acts k).store wf ↔
          match schedule.workflowVersion with
          | some version =>
              2 ≤ version ∧ version ≤ wf.currentVersion ∧ (wf.currentVersion : Int) < version + 100
          | none => False)) := by
  constructor
  · intro i j k before after max org count workflowId actor runId body run done
    obtain ⟨seen, resolved, read, -, resolves, recorded, -, -⟩ := startRun_ok done
    obtain ⟨middle, checked, later⟩ := current_grows requests acts before read
    obtain ⟨wf, now, latest⟩ := current_grows requests acts after checked
    have kept := (sound_after requests acts k).kept now
    have positive := ((sound_after requests acts i).kept read).current
    refine ⟨seen, wf, read, now, ?_⟩
    rw [recorded, namesVersion_iff kept]
    cases asked : body.version with
    | none =>
        rw [asked] at resolves
        simp only [resolvedVersion, Except.ok.injEq] at resolves
        rw [if_neg (by omega)] at resolves
        simp only [Option.getD_none]
        omega
    | some version =>
        rw [asked] at resolves
        simp only [resolvedVersion] at resolves
        cases found : VersioningService.getVersion version
            ((VersionDesk.start requests).after acts j).store with
        | error error =>
            rw [found] at resolves
            cases resolves
        | ok row =>
            rw [found] at resolves
            obtain rfl := Except.ok.inj resolves
            have there := (((sound_after requests acts j).kept checked).getVersion_ok
              version).mp ⟨row, found⟩
            constructor
            · intro names
              exact names.2.2.2
            · intro recent
              change (wf.currentVersion : Int) < version + 100 at recent
              refine ⟨rfl, there.1, ?_, recent⟩
              omega
  · intro k schedule runId wf now
    have kept := (sound_after requests acts k).kept now
    unfold createRun
    cases schedule.workflowVersion with
    | none =>
        have first := namesVersion_iff kept 1 none
        simp only [Option.getD_none] at first
        show NamesVersion (toString (1 : Int)) none _ wf ↔ False
        rw [first]
        constructor
        · omega
        · exact False.elim
    | some version =>
        show NamesVersion (toString version) (some version) _ wf ↔ _
        rw [namesVersion_iff kept]
        exact ⟨fun names => names.2, fun inside => ⟨rfl, inside⟩⟩

/-- A run of a workflow that was never updated names a version that is not stored. -/
theorem first_version_missing :
    ∃ run wf,
      startRun 100 ((VersionDesk.start onlyCreated).after [.turn true] 1).store.workflow none 0
          (fun version => VersioningService.getVersion version
            ((VersionDesk.start onlyCreated).after [.turn true] 1).store)
          "plain" "author" "run" { initialState := [], tags := [], version := none } = .ok run ∧
        ((VersionDesk.start onlyCreated).after [.turn true] 1).store.workflow = some wf ∧
        ¬ NamesVersion run.workflowVersion none
          ((VersionDesk.start onlyCreated).after [.turn true] 1).store wf := by
  refine ⟨_, _, rfl, rfl, ?_⟩
  intro names
  obtain ⟨-, row, found⟩ := names
  cases found

end SyndicateClaw.Services
