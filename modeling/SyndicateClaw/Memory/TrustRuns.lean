import SyndicateClaw.Memory.TrustDecay

/-! Runs of the calls of `MemoryTrustService`: what becomes of the trust in a record. -/

namespace SyndicateClaw.Memory

open Authz (Time)
open Orchestrator

/-! ### Conflicts and freezing -/

def TrustRow.under (namespaceName key : String) (row : TrustRow) : Bool :=
  row.namespaceName = namespaceName && row.key = key && row.deletionStatus = .active

/-- What `detect_conflicts` makes of a record that conflicts. -/
def TrustRow.conflicted (now : Time) (conflictSetId : String) (row : TrustRow) : TrustRow :=
  { row with
    conflictSetId := some conflictSetId
    trustScore :=
      if row.trustFrozen then row.trustScore
      else some (max 0 (numberOr 1 row.trustScore * (1 / 2)))
    updatedAt := now }

/-- What `freeze_record` makes of a row. -/
def TrustRow.freeze (now : Time) (row : TrustRow) : TrustRow :=
  { row with trustFrozen := true, updatedAt := now }

def disagree (valueOf : String → Value) (namespaceName key : String) (table : TrustTable) : Bool :=
  let records := table.rows.filter (TrustRow.under namespaceName key)
  let valuesSeen := (records.map fun row => (valueOf row.id).pyStr).eraseDups
  1 < records.length && 1 < valuesSeen.length

theorem conflicted_id (now : Time) (namespaceName key conflictSetId : String) (row : TrustRow) :
    (if row.under namespaceName key then row.conflicted now conflictSetId else row).id = row.id := by
  split <;> rfl

/-- `detect_conflicts`, with the ids of the conflict sets. -/
def detectConflicts (valueOf : String → Value) (now : Time)
    (namespaceName key conflictSetId : String) (table : TrustTable) : TrustTable × List String :=
  if disagree valueOf namespaceName key table then
    (table.change (fun row => if row.under namespaceName key then row.conflicted now conflictSetId
      else row) (conflicted_id now namespaceName key conflictSetId), [conflictSetId])
  else (table, [])

/-- `freeze_record`; `none` where there is no such record. -/
def freezeRecord (recordId : String) (now : Time) (table : TrustTable) : Option TrustTable :=
  (table.get? recordId).map fun _ => table.changeAt recordId (TrustRow.freeze now) fun _ => rfl

/-! ### Runs -/

/-- The calls of the service; a conflict that is detected gets an id. -/
inductive TrustCall where
  | applyDecay
  | detectConflicts (namespaceName key conflictSetId : String)
  | getTrustReport (namespaceName : String)
  | validateRecord (recordId : String)
  | freezeRecord (recordId : String)

structure TimedCall where
  now : Time
  call : TrustCall

/-- The table after a call; where the call raises, nothing is written. -/
def MemoryTrustService.afterCall (service : MemoryTrustService) (valueOf : String → Value)
    (table : TrustTable) (timed : TimedCall) : TrustTable :=
  match timed.call with
  | .applyDecay => (service.applyDecay timed.now table).1
  | .detectConflicts namespaceName key conflictSetId =>
      (Memory.detectConflicts valueOf timed.now namespaceName key conflictSetId table).1
  | .getTrustReport _ => table
  | .validateRecord recordId =>
      ((Memory.validateRecord recordId timed.now table).map Prod.fst).getD table
  | .freezeRecord recordId => (Memory.freezeRecord recordId timed.now table).getD table

def MemoryTrustService.afterCalls (service : MemoryTrustService) (valueOf : String → Value)
    (table : TrustTable) (calls : List TimedCall) : TrustTable :=
  calls.foldl (service.afterCall valueOf) table

def TimedCall.rowAfter (valueOf : String → Value) (table : TrustTable) (timed : TimedCall)
    (row : TrustRow) : TrustRow :=
  match timed.call with
  | .applyDecay => row.decayed timed.now
  | .detectConflicts namespaceName key conflictSetId =>
      if disagree valueOf namespaceName key table ∧ row.under namespaceName key = true then
        row.conflicted timed.now conflictSetId
      else row
  | .getTrustReport _ => row
  | .validateRecord recordId => if row.id = recordId then row.validated timed.now else row
  | .freezeRecord recordId => if row.id = recordId then row.freeze timed.now else row

def TrustRow.effectiveAt (now : Time) (row : TrustRow) : Rat :=
  computeEffectiveTrust now (numberOr 1 row.trustScore) (numberOr (1 / 100) row.decayRate)
    row.lastValidatedAt row.trustFrozen

structure TrustRow.Bounded (row : TrustRow) : Prop where
  score : ∃ score, row.trustScore = some score ∧ 0 ≤ score ∧ score ≤ 1
  rate : ∃ rate, row.decayRate = some rate ∧ 0 ≤ rate

/-- The call does not meet a score of 0 that it takes for a full one, nor does it leave one that a
report would; and the record was not validated in the future. -/
def TimedCall.Spares (valueOf : String → Value) (table : TrustTable) (timed : TimedCall)
    (row : TrustRow) : Prop :=
  match timed.call with
  | .applyDecay =>
      row.decays = true → ∀ validatedAt score, row.lastValidatedAt = some validatedAt →
        row.trustScore = some score → validatedAt ≤ timed.now ∧
          (numberOr (1 / 100) row.decayRate * elapsedDays validatedAt timed.now < score ∨
            1 ≤ numberOr (1 / 100) row.decayRate * elapsedDays validatedAt timed.now)
  | .detectConflicts namespaceName key _ =>
      disagree valueOf namespaceName key table = true → row.under namespaceName key = true →
        row.trustFrozen = false → row.trustScore ≠ some 0
  | _ => True

def SparingRun (service : MemoryTrustService) (valueOf : String → Value) (table : TrustTable) :
    List TimedCall → Prop
  | [] => True
  | timed :: calls =>
      (∀ row ∈ table.rows, timed.Spares valueOf table row) ∧
        SparingRun service valueOf (service.afterCall valueOf table timed) calls

section

variable {service : MemoryTrustService} {valueOf : String → Value} {table : TrustTable}
  {timed : TimedCall} {calls between : List TimedCall} {row after : TrustRow} {recordId : String}
  {now later : Time} {score rate : Rat}

/-! ### Rounding -/

theorem roundToFour_mono {value other : Rat} (le : value ≤ other) :
    roundToFour value ≤ roundToFour other := by
  have scaled : value * 10000 ≤ other * 10000 := mul_le_mul_of_nonneg_right le (by norm_num)
  have floors := Rat.floor_monotone scaled
  unfold roundToFour
  apply div_le_div_of_nonneg_right _ (by norm_num)
  rw [Int.cast_le]
  rcases Int.lt_or_eq_of_le floors with less | same
  · -- The greater one is at least the next integer.
    split <;> split <;> omega
  · rw [same]
    split
    · split <;> omega
    · next up =>
        rw [if_neg]
        rintro (less | ⟨half, even⟩)
        · exact up (.inl (by linarith))
        · rcases lt_or_eq_of_le scaled with smaller | equal
          · exact up (.inl (by linarith))
          · exact up (.inr ⟨by rw [equal, half], even⟩)

/-! ### The trust that is reported -/

theorem effectiveAt_bounds (bounded : row.Bounded) (now : Time) :
    0 ≤ row.effectiveAt now ∧ row.effectiveAt now ≤ 1 := by
  obtain ⟨⟨score, scored, least, most⟩, _⟩ := bounded
  have used : 0 ≤ numberOr 1 (some score) ∧ numberOr 1 (some score) ≤ 1 := by
    refine ⟨(numberOr_pos one_pos least).le, ?_⟩
    unfold numberOr
    dsimp only
    split
    · exact le_refl 1
    · exact most
  unfold TrustRow.effectiveAt computeEffectiveTrust
  rw [scored]
  split
  · exact used
  · split
    · exact used
    · exact ⟨le_max_left _ _, max_le (by norm_num) (min_le_left _ _)⟩

theorem elapsedDays_mono (validatedAt : Time) (le : now ≤ later) :
    elapsedDays validatedAt now ≤ elapsedDays validatedAt later := by
  unfold elapsedDays
  apply div_le_div_of_nonneg_right _ (by norm_num)
  exact_mod_cast Int.sub_le_sub_right le validatedAt

theorem effectiveAt_antitone (bounded : row.Bounded) (le : now ≤ later) :
    row.effectiveAt later ≤ row.effectiveAt now := by
  obtain ⟨_, rate, rated, nonnegative⟩ := bounded
  unfold TrustRow.effectiveAt computeEffectiveTrust
  rw [rated]
  split
  · exact le_refl _
  · split
    · exact le_refl _
    · next validatedAt _ =>
        have positive : 0 < numberOr (1 / 100) (some rate) := numberOr_pos (by norm_num) nonnegative
        have decay := mul_le_mul_of_nonneg_left (elapsedDays_mono validatedAt le) positive.le
        exact max_le_max_left 0 (min_le_min_left 1 (by linarith))

/-! ### What a call makes of a row -/

structure Lowered (before after : TrustRow) : Prop where
  bounded : after.Bounded
  score : ∀ score less, before.trustScore = some score → after.trustScore = some less → less ≤ score
  frozen : before.trustFrozen = true →
    after.trustFrozen = true ∧ after.trustScore = before.trustScore

theorem Lowered.refl (bounded : row.Bounded) : Lowered row row where
  bounded := bounded
  score score less scored same := by
    rw [scored] at same
    exact (Option.some.inj same).ge
  frozen frozen := ⟨frozen, rfl⟩

theorem Lowered.trans {before between after : TrustRow} (first : Lowered before between)
    (second : Lowered between after) : Lowered before after where
  bounded := second.bounded
  score score less scored lowered := by
    obtain ⟨middle, kept, _⟩ := first.bounded.score
    exact (second.score middle less kept lowered).trans (first.score score middle scored kept)
  frozen frozen := by
    obtain ⟨still, same⟩ := first.frozen frozen
    obtain ⟨ends, kept⟩ := second.frozen still
    exact ⟨ends, kept.trans same⟩

theorem lowered_of_score (bounded : row.Bounded) (thawed : row.trustFrozen = false)
    (scored : row.trustScore = some score) {less : Rat} (least : 0 ≤ less) (le : less ≤ score)
    (rated : after.decayRate = row.decayRate) (lowered : after.trustScore = some less) :
    Lowered row after where
  bounded := by
    obtain ⟨⟨whole, same, _, most⟩, rate⟩ := bounded
    rw [scored] at same
    obtain rfl := Option.some.inj same
    exact ⟨⟨less, lowered, least, le.trans most⟩, rated ▸ rate⟩
  score whole part first second := by
    rw [scored] at first
    rw [lowered] at second
    rwa [← Option.some.inj first, ← Option.some.inj second]
  frozen frozen := by
    rw [thawed] at frozen
    cases frozen

theorem effective_mono {least : Rat} (le : least ≤ score) (validatedAt : Option Time) (frozen : Bool) :
    computeEffectiveTrust now least rate validatedAt frozen ≤
      computeEffectiveTrust now score rate validatedAt frozen := by
  unfold computeEffectiveTrust
  split
  · exact le
  · split
    · exact le
    · exact max_le_max_left 0 (min_le_min_left 1 (by linarith))

theorem decayed_of_stays (stays : row.decays = false) (now : Time) : row.decayed now = row := by
  unfold TrustRow.decayed
  split
  · rfl
  · exact if_neg fun both => by simp [stays] at both

theorem lowered_decayed (bounded : row.Bounded)
    (spares : TimedCall.Spares valueOf table ⟨now, .applyDecay⟩ row) :
    Lowered row (row.decayed now) ∧
      ∀ later, now ≤ later → (row.decayed now).effectiveAt later ≤ row.effectiveAt later := by
  cases decays : row.decays with
  | false =>
      rw [decayed_of_stays decays]
      exact ⟨.refl bounded, fun _ _ => le_refl _⟩
  | true =>
      have facts := decays
      simp only [TrustRow.decays, Bool.and_eq_true, Bool.not_eq_true', decide_eq_true_eq] at facts
      obtain ⟨⟨active, thawed⟩, known⟩ := facts
      obtain ⟨validatedAt, validated⟩ := Option.isSome_iff_exists.mp known
      obtain ⟨score, scored, least, most⟩ := bounded.score
      obtain ⟨rate, rated, nonnegative⟩ := bounded.rate
      obtain ⟨past, spared⟩ := spares decays validatedAt score validated scored
      rw [rated] at spared
      have positive : 0 < usedRate rate := numberOr_pos (by norm_num) nonnegative
      have used := mul_nonneg positive.le (elapsedDays_nonneg past)
      obtain ⟨updatedAt, written⟩ := decayed_of_decays now decays scored validated rated
      change usedRate rate * _ < score ∨ 1 ≤ usedRate rate * _ at spared
      rw [written]
      rcases spared with some | gone
      · have nonzero : score ≠ 0 := by
          intro zero
          linarith
        rw [numberOr_of_ne nonzero, max_eq_right (by linarith)]
        refine ⟨lowered_of_score bounded thawed scored (by linarith) (by linarith) rfl rfl, ?_⟩
        intro later _
        unfold TrustRow.effectiveAt
        dsimp only
        rw [scored, numberOr_of_ne nonzero, numberOr_of_ne (by linarith)]
        exact effective_mono (by linarith) _ _
      · -- Nothing is left even of a full score.
        have full : numberOr 1 (some score) ≤ 1 := by
          unfold numberOr
          dsimp only
          split
          · exact le_refl 1
          · exact most
        rw [max_eq_left (by linarith)]
        refine ⟨lowered_of_score bounded thawed scored (le_refl 0) least rfl rfl, ?_⟩
        intro later le
        have more := mul_le_mul_of_nonneg_left (elapsedDays_mono validatedAt le) positive.le
        have nothing : computeEffectiveTrust later (numberOr 1 (some 0)) (usedRate rate)
            (some validatedAt) false = 0 :=
          effective_eq_zero ⟨le_refl 0, zero_le_one⟩ (gone.trans more)
        have spent : TrustRow.effectiveAt later
            { row with trustScore := some 0, updatedAt := updatedAt } = 0 := by
          unfold TrustRow.effectiveAt
          dsimp only
          rw [rated, validated, thawed]
          exact nothing
        rw [spent]
        exact (effectiveAt_bounds bounded later).1

theorem lowered_conflicted (bounded : row.Bounded) (now : Time) (conflictSetId : String)
    (spares : row.trustFrozen = false → row.trustScore ≠ some 0) :
    Lowered row (row.conflicted now conflictSetId) ∧
      ∀ later, (row.conflicted now conflictSetId).effectiveAt later ≤ row.effectiveAt later := by
  unfold TrustRow.conflicted
  cases frozen : row.trustFrozen with
  | true =>
      refine ⟨⟨⟨bounded.score, bounded.rate⟩, (Lowered.refl bounded).score, fun _ => ⟨rfl, rfl⟩⟩, ?_⟩
      intro later
      unfold TrustRow.effectiveAt
      rw [frozen]
      exact le_refl _
  | false =>
      obtain ⟨score, scored, least, _⟩ := bounded.score
      have nonzero : score ≠ 0 := by
        rintro rfl
        exact spares frozen scored
      have positive : 0 < score := lt_of_le_of_ne least nonzero.symm
      simp only [Bool.false_eq_true, if_false, scored]
      rw [numberOr_of_ne nonzero, max_eq_right (by linarith)]
      refine ⟨lowered_of_score bounded frozen scored (by linarith) (by linarith) rfl rfl, ?_⟩
      intro later
      unfold TrustRow.effectiveAt
      dsimp only
      rw [scored, numberOr_of_ne nonzero, numberOr_of_ne (by linarith)]
      rw [frozen]
      exact effective_mono (by linarith) _ _

theorem bounded_ceiling (sourceType : Option MemorySourceType) :
    0 ≤ sourceTrustCeiling sourceType ∧ sourceTrustCeiling sourceType ≤ 1 := by
  unfold sourceTrustCeiling
  split <;> norm_num

theorem get?_afterCall (recordId : String) :
    (service.afterCall valueOf table timed).get? recordId =
      (table.get? recordId).map (timed.rowAfter valueOf table) := by
  obtain ⟨now, call⟩ := timed
  have at_own (f : TrustRow → TrustRow) (other : String) :
      (if recordId = other then (table.get? recordId).map f else table.get? recordId) =
        (table.get? recordId).map fun row => if row.id = other then f row else row := by
    cases found : table.get? recordId with
    | none => simp
    | some row =>
        rw [Option.map_some, Option.map_some, (Keyed.get?_eq_some.mp found).2]
        split <;> rfl
  cases call with
  | applyDecay => exact Keyed.get?_change (TrustRow.decayed now) (decayed_id now)
  | getTrustReport namespaceName => exact Option.map_id'.symm
  | detectConflicts namespaceName key conflictSetId =>
      unfold MemoryTrustService.afterCall Memory.detectConflicts TimedCall.rowAfter
      dsimp only
      by_cases conflict : disagree valueOf namespaceName key table = true
      · rw [if_pos conflict, Keyed.get?_change]
        simp only [conflict, true_and]
      · rw [if_neg conflict]
        simp [conflict]
  | validateRecord other =>
      unfold MemoryTrustService.afterCall Memory.validateRecord TimedCall.rowAfter
      dsimp only
      rw [← at_own]
      cases there : table.get? other with
      | none =>
          simp only [Option.map_none, Option.getD_none]
          split
          · next same => rw [same, there, Option.map_none]
          · rfl
      | some row =>
          simp only [Option.map_some, Option.getD_some]
          exact Keyed.get?_changeAt ..
  | freezeRecord other =>
      unfold MemoryTrustService.afterCall Memory.freezeRecord TimedCall.rowAfter
      dsimp only
      rw [← at_own]
      cases there : table.get? other with
      | none =>
          simp only [Option.map_none, Option.getD_none]
          split
          · next same => rw [same, there, Option.map_none]
          · rfl
      | some row =>
          simp only [Option.map_some, Option.getD_some]
          exact Keyed.get?_changeAt ..

theorem lowered_rowAfter (bounded : row.Bounded) (spares : timed.Spares valueOf table row)
    (unvalidated : timed.call ≠ .validateRecord row.id) :
    Lowered row (timed.rowAfter valueOf table row) ∧
      (timed.call ≠ .freezeRecord row.id → ∀ later, timed.now ≤ later →
        (timed.rowAfter valueOf table row).effectiveAt later ≤ row.effectiveAt later) := by
  obtain ⟨now, call⟩ := timed
  have same : Lowered row row ∧ (call ≠ .freezeRecord row.id → ∀ later, now ≤ later →
      row.effectiveAt later ≤ row.effectiveAt later) :=
    ⟨.refl bounded, fun _ _ _ => le_refl _⟩
  cases call with
  | applyDecay =>
      obtain ⟨lowered, falls⟩ := lowered_decayed bounded spares
      exact ⟨lowered, fun _ => falls⟩
  | getTrustReport namespaceName => exact same
  | detectConflicts namespaceName key conflictSetId =>
      unfold TimedCall.rowAfter
      dsimp only
      split
      · next conflict =>
          obtain ⟨lowered, falls⟩ :=
            lowered_conflicted bounded now conflictSetId (spares conflict.1 conflict.2)
          exact ⟨lowered, fun _ later _ => falls later⟩
      · exact same
  | validateRecord other =>
      have elsewhere : row.id ≠ other := by
        rintro rfl
        exact unvalidated rfl
      unfold TimedCall.rowAfter
      dsimp only
      rw [if_neg elsewhere]
      exact same
  | freezeRecord other =>
      unfold TimedCall.rowAfter
      dsimp only
      split
      · next own =>
          refine ⟨⟨⟨bounded.score, bounded.rate⟩, (Lowered.refl bounded).score, fun _ => ⟨rfl, rfl⟩⟩, ?_⟩
          intro elsewhere
          exact absurd (congrArg TrustCall.freezeRecord own.symm) elsewhere
      · exact same

theorem bounded_rowAfter (bounded : row.Bounded) (spares : timed.Spares valueOf table row) :
    (timed.rowAfter valueOf table row).Bounded := by
  by_cases validated : timed.call = .validateRecord row.id
  · unfold TimedCall.rowAfter
    rw [validated]
    dsimp only
    rw [if_pos rfl]
    exact ⟨⟨_, rfl, bounded_ceiling row.sourceType⟩, bounded.rate⟩
  · exact (lowered_rowAfter bounded spares validated).1.bounded

/-! ### What becomes of a row -/

theorem afterCalls_cons : service.afterCalls valueOf table (timed :: calls) =
    service.afterCalls valueOf (service.afterCall valueOf table timed) calls := rfl

theorem afterCalls_append : service.afterCalls valueOf table (calls ++ between) =
    service.afterCalls valueOf (service.afterCalls valueOf table calls) between :=
  List.foldl_append

theorem sparingRun_append : SparingRun service valueOf table (calls ++ between) ↔
    SparingRun service valueOf table calls ∧
      SparingRun service valueOf (service.afterCalls valueOf table calls) between := by
  induction calls generalizing table with
  | nil => simp [SparingRun, MemoryTrustService.afterCalls]
  | cons timed calls ih =>
      rw [List.cons_append, SparingRun, ih, SparingRun, afterCalls_cons, and_assoc]

theorem bounded_afterCall (bounded : ∀ row ∈ table.rows, row.Bounded)
    (spares : ∀ row ∈ table.rows, timed.Spares valueOf table row) :
    ∀ row ∈ (service.afterCall valueOf table timed).rows, row.Bounded := by
  intro after member
  have stored := Keyed.get?_of_mem member
  rw [get?_afterCall] at stored
  obtain ⟨row, found, rfl⟩ := Option.map_eq_some_iff.mp stored
  have there := (Keyed.get?_eq_some.mp found).1
  exact bounded_rowAfter (bounded row there) (spares row there)

theorem bounded_afterCalls (bounded : ∀ row ∈ table.rows, row.Bounded)
    (sparing : SparingRun service valueOf table calls) :
    ∀ row ∈ (service.afterCalls valueOf table calls).rows, row.Bounded := by
  induction calls generalizing table with
  | nil => exact bounded
  | cons timed calls ih =>
      rw [afterCalls_cons]
      exact ih (bounded_afterCall bounded sparing.1) sparing.2

theorem lowered_afterCalls (bounded : ∀ row ∈ table.rows, row.Bounded)
    (sparing : SparingRun service valueOf table calls) (found : table.get? recordId = some row)
    (unvalidated : ∀ timed ∈ calls, timed.call ≠ .validateRecord recordId) :
    ∃ after, (service.afterCalls valueOf table calls).get? recordId = some after ∧
      Lowered row after ∧
      ((∀ timed ∈ calls, timed.call ≠ .freezeRecord recordId) →
        ∀ later, (∀ timed ∈ calls, timed.now ≤ later) →
          after.effectiveAt later ≤ row.effectiveAt later) := by
  induction calls generalizing table row with
  | nil =>
      exact ⟨row, found, .refl (bounded row (Keyed.get?_eq_some.mp found).1), fun _ _ _ => le_refl _⟩
  | cons timed calls ih =>
      obtain ⟨there, rfl⟩ := Keyed.get?_eq_some.mp found
      obtain ⟨first, others⟩ := List.forall_mem_cons.mp unvalidated
      obtain ⟨lowered, falls⟩ := lowered_rowAfter (bounded row there) (sparing.1 row there) first
      have next : (service.afterCall valueOf table timed).get? row.id =
          some (timed.rowAfter valueOf table row) := by
        rw [get?_afterCall, found, Option.map_some]
      obtain ⟨after, ends, lower, fall⟩ :=
        ih (bounded_afterCall bounded sparing.1) sparing.2 next others
      refine ⟨after, ends, lowered.trans lower, ?_⟩
      intro thawed later times
      obtain ⟨own, rest⟩ := List.forall_mem_cons.mp thawed
      obtain ⟨before, onward⟩ := List.forall_mem_cons.mp times
      exact (fall rest later onward).trans (falls own later before)

end

/-! ### The trust along a run -/

/-- No call but a validation raises the trust in a record, and that one to the ceiling of its source. -/
structure NeverRises (service : MemoryTrustService) (valueOf : String → Value) (start : TrustTable)
    (calls : List TimedCall) : Prop where
  bounded : ∀ done rest, calls = done ++ rest →
    ∀ row ∈ (service.afterCalls valueOf start done).rows, row.Bounded
  scores : ∀ done between rest, calls = done ++ (between ++ rest) → ∀ recordId row,
    (service.afterCalls valueOf start done).get? recordId = some row →
    (∀ timed ∈ between, timed.call ≠ .validateRecord recordId) →
    ∃ after, (service.afterCalls valueOf start (done ++ between)).get? recordId = some after ∧
      Lowered row after
  ceilings : ∀ done timed rest, calls = done ++ timed :: rest → ∀ recordId row,
    timed.call = .validateRecord recordId →
    (service.afterCalls valueOf start done).get? recordId = some row →
    ∃ after, (service.afterCalls valueOf start (done ++ [timed])).get? recordId = some after ∧
      after.trustScore = some (sourceTrustCeiling row.sourceType)
  reported : ∀ done timed rest, calls = done ++ timed :: rest → ∀ namespaceName,
    ∀ entry ∈ service.getTrustReport timed.now namespaceName (service.afterCalls valueOf start done),
      0 ≤ entry.effectiveTrust ∧ entry.effectiveTrust ≤ 1
  reports : ∀ done first between second rest,
    calls = done ++ (first :: between ++ second :: rest) → ∀ namespaceName other,
    first.call = .getTrustReport namespaceName → second.call = .getTrustReport other →
    ∀ entry ∈ service.getTrustReport first.now namespaceName
      (service.afterCalls valueOf start done),
    ∀ follower ∈ service.getTrustReport second.now other
      (service.afterCalls valueOf start (done ++ first :: between)),
    follower.id = entry.id →
    (∀ timed ∈ between, timed.call ≠ .validateRecord entry.id ∧ timed.call ≠ .freezeRecord entry.id) →
    follower.effectiveTrust ≤ entry.effectiveTrust

section

variable {service : MemoryTrustService} {valueOf : String → Value} {table : TrustTable}
  {now : Time} {namespaceName : String} {entry : TrustEntry}

theorem report_stored (listed : entry ∈ service.getTrustReport now namespaceName table) :
    ∃ row, table.get? entry.id = some row ∧ entry.effective = row.effectiveAt now := by
  obtain ⟨row, kept, rfl⟩ := List.mem_map.mp listed
  exact ⟨row, Keyed.get?_of_mem (List.mem_filter.mp kept).1, rfl⟩

theorem roundToFour_bounds {value : Rat} (bounds : 0 ≤ value ∧ value ≤ 1) :
    0 ≤ roundToFour value ∧ roundToFour value ≤ 1 := by
  have least : roundToFour 0 = 0 := by decide +kernel
  have most : roundToFour 1 = 1 := by decide +kernel
  constructor
  · rw [← least]
    exact roundToFour_mono bounds.1
  · rw [← most]
    exact roundToFour_mono bounds.2

end

/-- Where the calls spare the rows that they meet, the trust never rises without a validation. -/
theorem trust_never_rises (service : MemoryTrustService) (valueOf : String → Value)
    (start : TrustTable) (calls : List TimedCall) (bounded : ∀ row ∈ start.rows, row.Bounded)
    (ordered : calls.Pairwise fun before after => before.now ≤ after.now)
    (sparing : SparingRun service valueOf start calls) :
    NeverRises service valueOf start calls where
  bounded := by
    rintro done rest rfl
    exact bounded_afterCalls bounded (sparingRun_append.mp sparing).1
  scores := by
    rintro done between rest rfl recordId row found unvalidated
    obtain ⟨before, onward⟩ := sparingRun_append.mp sparing
    obtain ⟨after, ends, lowered, _⟩ := lowered_afterCalls (bounded_afterCalls bounded before)
      (sparingRun_append.mp onward).1 found unvalidated
    rw [afterCalls_append]
    exact ⟨after, ends, lowered⟩
  ceilings := by
    rintro done timed rest rfl recordId row validates found
    refine ⟨timed.rowAfter valueOf (service.afterCalls valueOf start done) row, ?_, ?_⟩
    · rw [afterCalls_append]
      show (service.afterCall valueOf _ timed).get? recordId = _
      rw [get?_afterCall, found, Option.map_some]
    · unfold TimedCall.rowAfter
      rw [validates]
      dsimp only
      rw [if_pos (Keyed.get?_eq_some.mp found).2]
      rfl
  reported := by
    rintro done timed rest rfl namespaceName entry listed
    obtain ⟨row, found, effective⟩ := report_stored listed
    have fine := bounded_afterCalls bounded (sparingRun_append.mp sparing).1 row
      (Keyed.get?_eq_some.mp found).1
    unfold TrustEntry.effectiveTrust
    rw [effective]
    exact roundToFour_bounds (effectiveAt_bounds fine timed.now)
  reports := by
    rintro done first between second rest rfl namespaceName other reports _ entry listed follower
      follows same untouched
    obtain ⟨row, found, effective⟩ := report_stored listed
    obtain ⟨later, stored, reported⟩ := report_stored follows
    obtain ⟨before, onward⟩ := sparingRun_append.mp sparing
    have fine := bounded_afterCalls bounded before
    obtain ⟨_, others, _⟩ := List.pairwise_append.mp ordered
    obtain ⟨reaches, following, between_le⟩ := List.pairwise_append.mp others
    have times : ∀ timed ∈ first :: between, timed.now ≤ second.now :=
      fun timed member => between_le timed member second List.mem_cons_self
    have unvalidated : ∀ timed ∈ first :: between, timed.call ≠ .validateRecord entry.id :=
      List.forall_mem_cons.mpr ⟨by rw [reports]; nofun, fun timed member => (untouched timed member).1⟩
    have thawed : ∀ timed ∈ first :: between, timed.call ≠ .freezeRecord entry.id :=
      List.forall_mem_cons.mpr ⟨by rw [reports]; nofun, fun timed member => (untouched timed member).2⟩
    obtain ⟨after, ends, _, falls⟩ :=
      lowered_afterCalls fine (sparingRun_append.mp onward).1 found unvalidated
    rw [same, afterCalls_append, ends] at stored
    obtain rfl := Option.some.inj stored
    unfold TrustEntry.effectiveTrust
    apply roundToFour_mono
    rw [effective, reported]
    exact (falls thawed second.now times).trans (effectiveAt_antitone
      (fine row (Keyed.get?_eq_some.mp found).1) (times first List.mem_cons_self))

/-! A record that is validated at the start: what the decay leaves on the first day stays below, but once
nothing is left, the next run takes its score for a full one. -/

def decayAt (day : Int) : TimedCall := ⟨dayTime day, .applyDecay⟩

def reportAt (day : Int) : TimedCall := ⟨dayTime day, .getTrustReport "team"⟩

theorem rows_validated : (validatedTable .derived (3 / 10)).rows = [validatedRow .derived (3 / 10)] := by
  decide +kernel

theorem bounded_validated : ∀ row ∈ (validatedTable .derived (3 / 10)).rows, row.Bounded := by
  rw [rows_validated]
  refine List.forall_mem_singleton.mpr ?_
  exact ⟨⟨6 / 10, rfl, by norm_num, by norm_num⟩, 3 / 10, rfl, by norm_num⟩

theorem trust_lowered_first_day :
    NeverRises {} (fun _ => .none) (validatedTable .derived (3 / 10))
      [decayAt 1, reportAt 2, reportAt 3] := by
  apply trust_never_rises _ _ _ _ bounded_validated
  · decide +kernel
  · refine ⟨?_, fun _ _ => trivial, fun _ _ => trivial, trivial⟩
    rw [rows_validated]
    refine List.forall_mem_singleton.mpr ?_
    intro _ validatedAt score validated scored
    obtain rfl := Option.some.inj validated
    obtain rfl := Option.some.inj scored
    exact ⟨by decide +kernel, .inl (by decide +kernel)⟩

theorem spent_trust_returns :
    (∀ row ∈ (validatedTable .derived (3 / 10)).rows, row.Bounded) ∧
    ¬ NeverRises {} (fun _ => .none) (validatedTable .derived (3 / 10)) [decayAt 2, decayAt 2] := by
  refine ⟨bounded_validated, ?_⟩
  intro holds
  have before : (MemoryTrustService.afterCalls {} (fun _ => .none)
      (validatedTable .derived (3 / 10)) [decayAt 2]).get? "m1" =
        some { validatedRow .derived (3 / 10) with trustScore := some 0, updatedAt := dayTime 2 } := by
    decide +kernel
  have after : (MemoryTrustService.afterCalls {} (fun _ => .none)
      (validatedTable .derived (3 / 10)) [decayAt 2, decayAt 2]).get? "m1" =
        some { validatedRow .derived (3 / 10) with
          trustScore := some (4 / 10), updatedAt := dayTime 2 } := by
    decide +kernel
  obtain ⟨row, found, lowered⟩ := holds.scores [decayAt 2] [decayAt 2] [] rfl "m1" _ before
    (List.forall_mem_singleton.mpr nofun)
  obtain rfl := Option.some.inj (after.symm.trans found)
  have less := lowered.score 0 (4 / 10) rfl rfl
  norm_num at less

end SyndicateClaw.Memory
