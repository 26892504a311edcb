import Mathlib.Algebra.Order.BigOperators.Group.List
import Mathlib.Algebra.Order.Field.Rat
import Mathlib.Tactic.Linarith
import SyndicateClaw.Memory.Trust

/-! The trust that is reported some time after a validation, when the decay was applied in between. -/

namespace SyndicateClaw.Memory

open Authz (Time)

def usedRate (rate : Rat) : Rat := numberOr (1 / 100) (some rate)

def spentDays (validatedAt : Time) (runs : List Time) : Rat :=
  (runs.map (elapsedDays validatedAt)).sum

def dueTrust (frozen : Bool) (score rate : Rat) (validatedAt now : Time) : Rat :=
  if frozen then score else max 0 (score - rate * elapsedDays validatedAt now)

def Reports (service : MemoryTrustService) (table : TrustTable) (runs : List Time) (now : Time)
    (row : TrustRow) (trust : Rat) : Prop :=
  ∃ entry ∈ service.getTrustReport now row.namespaceName (service.decayRuns runs table),
    entry.id = row.id ∧ entry.effective = trust

/-- The runs take nothing from the trust that counts: they are at the time of the validation, and so
is the report where the rate is 0; or no trust is left by the time of the report, which then has
decayed from a full score, or from one that the runs did not use up. -/
def Spared (frozen : Bool) (score rate : Rat) (validatedAt : Time) (runs : List Time) (now : Time) :
    Prop :=
  if frozen then score ≠ 0
  else
    score ≠ 0 ∧ (∀ run ∈ runs, run = validatedAt) ∧ (rate ≠ 0 ∨ now = validatedAt) ∨
    score ≤ rate * elapsedDays validatedAt now ∧
      (1 ≤ usedRate rate * elapsedDays validatedAt now ∨
        usedRate rate * spentDays validatedAt runs < score)

def scoreAfter (validatedAt : Time) (rate : Rat) : Rat → List Time → Rat
  | score, [] => score
  | score, run :: runs =>
      scoreAfter validatedAt rate
        (max 0 (numberOr 1 (some score) - rate * elapsedDays validatedAt run)) runs

section

variable {service : MemoryTrustService} {table : TrustTable} {row : TrustRow} {score rate : Rat}
  {validatedAt now : Time} {runs : List Time}

/-! ### Numbers -/

theorem numberOr_pos {default value : Rat} (positive : 0 < default) (nonnegative : 0 ≤ value) :
    0 < numberOr default (some value) := by
  unfold numberOr
  dsimp only
  split
  · exact positive
  · next nonzero => exact lt_of_le_of_ne nonnegative (Ne.symm nonzero)

theorem numberOr_of_ne {default value : Rat} (nonzero : value ≠ 0) :
    numberOr default (some value) = value := if_neg nonzero

theorem le_usedRate (rate : Rat) : rate ≤ usedRate rate := by
  unfold usedRate numberOr
  dsimp only
  split
  · next zero =>
      rw [zero]
      norm_num
  · exact le_refl rate

theorem elapsedDays_nonneg (le : validatedAt ≤ now) : 0 ≤ elapsedDays validatedAt now := by
  unfold elapsedDays
  have difference : (0 : Rat) ≤ ((now - validatedAt : Int) : Rat) := by
    exact_mod_cast Int.sub_nonneg_of_le le
  linarith

theorem elapsedDays_eq_zero : elapsedDays validatedAt now = 0 ↔ now = validatedAt := by
  unfold elapsedDays
  constructor
  · intro zero
    have difference : ((now - validatedAt : Int) : Rat) = 0 := by linarith
    have same : now - validatedAt = 0 := by exact_mod_cast difference
    exact Int.sub_eq_zero.mp same
  · rintro rfl
    simp

theorem spentDays_nonneg (later : ∀ run ∈ runs, validatedAt ≤ run) : 0 ≤ spentDays validatedAt runs := by
  apply List.sum_nonneg
  intro days member
  obtain ⟨run, listed, rfl⟩ := List.mem_map.mp member
  exact elapsedDays_nonneg (later run listed)

theorem spentDays_eq_zero (later : ∀ run ∈ runs, validatedAt ≤ run) :
    spentDays validatedAt runs = 0 ↔ ∀ run ∈ runs, run = validatedAt := by
  induction runs with
  | nil => simp [spentDays]
  | cons run runs ih =>
      have first := elapsedDays_nonneg (later run List.mem_cons_self)
      have others : ∀ run ∈ runs, validatedAt ≤ run :=
        fun other member => later other (List.mem_cons_of_mem run member)
      have rest := spentDays_nonneg others
      have sum : spentDays validatedAt (run :: runs) =
          elapsedDays validatedAt run + spentDays validatedAt runs := List.sum_cons
      rw [List.forall_mem_cons, ← ih others, ← elapsedDays_eq_zero, sum]
      constructor
      · intro zero
        constructor <;> linarith
      · rintro ⟨zero, nothing⟩
        linarith

/-! ### Runs -/

theorem scoreAfter_bounds (later : ∀ run ∈ runs, validatedAt ≤ run) (nonnegative : 0 ≤ rate)
    (bounds : 0 ≤ score ∧ score ≤ 1) :
    0 ≤ scoreAfter validatedAt rate score runs ∧ scoreAfter validatedAt rate score runs ≤ 1 := by
  induction runs generalizing score with
  | nil => exact bounds
  | cons run runs ih =>
      apply ih fun other member => later other (List.mem_cons_of_mem run member)
      have decay := mul_nonneg nonnegative (elapsedDays_nonneg (later run List.mem_cons_self))
      have most : numberOr 1 (some score) ≤ 1 := by
        unfold numberOr
        dsimp only
        split
        · exact le_refl 1
        · exact bounds.2
      exact ⟨le_max_left _ _, max_le zero_le_one (by linarith)⟩

theorem scoreAfter_unspent (later : ∀ run ∈ runs, validatedAt ≤ run) (nonnegative : 0 ≤ rate)
    (unspent : rate * spentDays validatedAt runs < score) :
    scoreAfter validatedAt rate score runs = score - rate * spentDays validatedAt runs := by
  induction runs generalizing score with
  | nil => simp [scoreAfter, spentDays]
  | cons run runs ih =>
      have others : ∀ run ∈ runs, validatedAt ≤ run :=
        fun other member => later other (List.mem_cons_of_mem run member)
      have decay := mul_nonneg nonnegative (elapsedDays_nonneg (later run List.mem_cons_self))
      have rest := mul_nonneg nonnegative (spentDays_nonneg others)
      have sum : spentDays validatedAt (run :: runs) =
          elapsedDays validatedAt run + spentDays validatedAt runs := List.sum_cons
      rw [sum, mul_add] at unspent
      have nonzero : score ≠ 0 := by
        intro zero
        linarith
      rw [scoreAfter, numberOr_of_ne nonzero, max_eq_right (by linarith), ih others (by linarith),
        sum, mul_add]
      exact sub_sub _ _ _

theorem decayed_of_decays (now : Time) (decays : row.decays = true) (scored : row.trustScore = some score)
    (validated : row.lastValidatedAt = some validatedAt) (rated : row.decayRate = some rate) :
    ∃ updatedAt, row.decayed now = { row with
      trustScore := some (max 0
        (numberOr 1 (some score) - usedRate rate * elapsedDays validatedAt now))
      updatedAt } := by
  obtain ⟨_, _, _, _, _, _, _, _, _, _, _, updatedAt⟩ := row
  cases scored
  cases validated
  cases rated
  unfold TrustRow.decayed
  dsimp only
  split
  · exact ⟨now, rfl⟩
  · next same =>
      -- The score that is there is the one that would be written.
      have kept : some (decayedScore now validatedAt (some score) (some rate)) = some score := by
        simpa [decays] using same
      refine ⟨updatedAt, ?_⟩
      congr
      exact (Option.some.inj kept).symm

theorem foldl_decayed (decays : row.decays = true) (scored : row.trustScore = some score)
    (validated : row.lastValidatedAt = some validatedAt) (rated : row.decayRate = some rate)
    (runs : List Time) :
    ∃ updatedAt, runs.foldl (fun row now => row.decayed now) row = { row with
      trustScore := some (scoreAfter validatedAt (usedRate rate) score runs)
      updatedAt } := by
  induction runs generalizing row score with
  | nil =>
      refine ⟨row.updatedAt, ?_⟩
      cases row
      cases scored
      rfl
  | cons run runs ih =>
      obtain ⟨first, one⟩ := decayed_of_decays run decays scored validated rated
      rw [List.foldl_cons, one, scoreAfter]
      exact ih decays rfl validated rated

theorem foldl_frozen (frozen : row.trustFrozen = true) (runs : List Time) :
    runs.foldl (fun row now => row.decayed now) row = row := by
  induction runs with
  | nil => rfl
  | cons run runs ih =>
      have kept : row.decayed run = row := by
        unfold TrustRow.decayed
        split
        · rfl
        · exact if_neg fun both => by simp [TrustRow.decays, frozen] at both
      rw [List.foldl_cons, kept, ih]

theorem get?_decayRuns (recordId : String) : (service.decayRuns runs table).get? recordId =
    (table.get? recordId).map fun row => runs.foldl (fun row now => row.decayed now) row := by
  unfold MemoryTrustService.decayRuns
  induction runs generalizing table with
  | nil => simp
  | cons run runs ih =>
      rw [List.foldl_cons, ih]
      unfold MemoryTrustService.applyDecay
      rw [Keyed.get?_change, Option.map_map]
      rfl

theorem reports_iff {after : TrustRow} {trust : Rat} (stored : row ∈ table.rows)
    (reached : runs.foldl (fun row now => row.decayed now) row = after)
    (active : after.deletionStatus = .active) (named : after.namespaceName = row.namespaceName)
    (same : after.id = row.id) :
    Reports service table runs now row trust ↔ (service.entryOf now after).effective = trust := by
  have found : (service.decayRuns runs table).get? row.id = some after := by
    rw [get?_decayRuns, Keyed.get?_of_mem stored, Option.map_some, reached]
  obtain ⟨member, _⟩ := Keyed.get?_eq_some.mp found
  unfold Reports MemoryTrustService.getTrustReport
  constructor
  · rintro ⟨entry, listed, own, effective⟩
    obtain ⟨other, kept, rfl⟩ := List.mem_map.mp listed
    have there := Keyed.get?_of_mem (List.mem_filter.mp kept).1
    rw [show other.id = row.id from own, found] at there
    rwa [Option.some.inj there]
  · intro effective
    exact ⟨_, List.mem_map_of_mem (List.mem_filter.mpr ⟨member, by simp [named, active]⟩), same,
      effective⟩

/-! ### The trust that is reported -/

theorem spentDays_still (still : ∀ run ∈ runs, run = validatedAt) : spentDays validatedAt runs = 0 :=
  (spentDays_eq_zero fun run member => Int.le_of_eq (still run member).symm).mpr still

theorem effective_eq (nonzero : score ≠ 0) (most : score ≤ 1) (nonnegative : 0 ≤ rate)
    (le : validatedAt ≤ now) :
    computeEffectiveTrust now (numberOr 1 (some score)) rate (some validatedAt) false =
      max 0 (score - rate * elapsedDays validatedAt now) := by
  have decay := mul_nonneg nonnegative (elapsedDays_nonneg le)
  unfold computeEffectiveTrust
  simp only [Bool.false_eq_true, if_false]
  rw [numberOr_of_ne nonzero, min_eq_right (by linarith)]

theorem effective_eq_zero (bounds : 0 ≤ score ∧ score ≤ 1)
    (used : 1 ≤ rate * elapsedDays validatedAt now) :
    computeEffectiveTrust now (numberOr 1 (some score)) rate (some validatedAt) false = 0 := by
  have most : numberOr 1 (some score) ≤ 1 := by
    unfold numberOr
    dsimp only
    split
    · exact le_refl 1
    · exact bounds.2
  unfold computeEffectiveTrust
  simp only [Bool.false_eq_true, if_false]
  apply max_eq_left
  exact min_le_of_right_le (by linarith)

theorem due_iff_unspent (later : ∀ run ∈ runs, validatedAt ≤ run) (le : validatedAt ≤ now)
    (nonnegative : 0 ≤ rate) (unspent : usedRate rate * spentDays validatedAt runs < score) :
    max 0 (score - usedRate rate * spentDays validatedAt runs -
        usedRate rate * elapsedDays validatedAt now) =
        max 0 (score - rate * elapsedDays validatedAt now) ↔
      Spared false score rate validatedAt runs now := by
  have days := elapsedDays_nonneg le
  have spent := spentDays_nonneg later
  have positive : 0 < usedRate rate := numberOr_pos (by norm_num) nonnegative
  have decay := mul_nonneg nonnegative days
  have faster := mul_le_mul_of_nonneg_right (le_usedRate rate) days
  have taken := mul_nonneg positive.le spent
  unfold Spared
  simp only [Bool.false_eq_true, if_false]
  constructor
  · intro same
    by_cases gone : score ≤ rate * elapsedDays validatedAt now
    · exact .inr ⟨gone, .inr unspent⟩
    · have left : 0 < score - rate * elapsedDays validatedAt now := by linarith
      rw [max_eq_right left.le] at same
      have equal : score - usedRate rate * spentDays validatedAt runs -
          usedRate rate * elapsedDays validatedAt now =
            score - rate * elapsedDays validatedAt now := by
        rcases le_total 0 (score - usedRate rate * spentDays validatedAt runs -
          usedRate rate * elapsedDays validatedAt now) with some | nothing
        · rwa [max_eq_right some] at same
        · rw [max_eq_left nothing] at same
          linarith
      have nothing : usedRate rate * spentDays validatedAt runs = 0 := by linarith
      have alike : usedRate rate * elapsedDays validatedAt now =
          rate * elapsedDays validatedAt now := by linarith
      refine .inl ⟨by linarith, ?_, ?_⟩
      · exact (spentDays_eq_zero later).mp ((mul_eq_zero.mp nothing).resolve_left positive.ne')
      · by_cases zero : rate = 0
        · rw [zero, zero_mul] at alike
          have positive : usedRate 0 ≠ 0 := (numberOr_pos (by norm_num) (le_refl 0)).ne'
          exact .inr (elapsedDays_eq_zero.mp ((mul_eq_zero.mp alike).resolve_left positive))
        · exact .inl zero
  · rintro (⟨_, still, rated⟩ | ⟨gone, _⟩)
    · rw [spentDays_still still, mul_zero, sub_zero]
      rcases rated with nonzero | same
      · rw [usedRate, numberOr_of_ne nonzero]
      · rw [elapsedDays_eq_zero.mpr same, mul_zero, mul_zero]
    · rw [max_eq_left (by linarith), max_eq_left (by linarith)]

def decayingTrust (score rate : Rat) (validatedAt : Time) (runs : List Time) (now : Time) : Rat :=
  computeEffectiveTrust now (numberOr 1 (some (scoreAfter validatedAt (usedRate rate) score runs)))
    (usedRate rate) (some validatedAt) false

theorem decayingTrust_unspent (later : ∀ run ∈ runs, validatedAt ≤ run) (le : validatedAt ≤ now)
    (nonnegative : 0 ≤ rate) (most : score ≤ 1)
    (unspent : usedRate rate * spentDays validatedAt runs < score) :
    decayingTrust score rate validatedAt runs now = max 0 (score - rate * elapsedDays validatedAt now) ↔
      Spared false score rate validatedAt runs now := by
  have positive : 0 < usedRate rate := numberOr_pos (by norm_num) nonnegative
  have taken := mul_nonneg positive.le (spentDays_nonneg later)
  unfold decayingTrust
  rw [scoreAfter_unspent later positive.le unspent,
    effective_eq (by linarith) (by linarith) positive.le le]
  exact due_iff_unspent later le nonnegative unspent

theorem decayingTrust_spared (later : ∀ run ∈ runs, validatedAt ≤ run) (le : validatedAt ≤ now)
    (nonnegative : 0 ≤ rate) (bounds : 0 ≤ score ∧ score ≤ 1)
    (spared : Spared false score rate validatedAt runs now) :
    decayingTrust score rate validatedAt runs now =
      max 0 (score - rate * elapsedDays validatedAt now) := by
  have unspent (less : usedRate rate * spentDays validatedAt runs < score) :=
    (decayingTrust_unspent later le nonnegative bounds.2 less).mpr spared
  have cases := spared
  unfold Spared at cases
  simp only [Bool.false_eq_true, if_false] at cases
  rcases cases with ⟨nonzero, still, _⟩ | ⟨gone, used | less⟩
  · apply unspent
    rw [spentDays_still still, mul_zero]
    exact lt_of_le_of_ne bounds.1 nonzero.symm
  · have positive : 0 < usedRate rate := numberOr_pos (by norm_num) nonnegative
    unfold decayingTrust
    rw [effective_eq_zero (scoreAfter_bounds later positive.le bounds) used,
      max_eq_left (by linarith)]
  · exact unspent less

theorem decayingTrust_unapplied (le : validatedAt ≤ now) (nonnegative : 0 ≤ rate)
    (bounds : 0 ≤ score ∧ score ≤ 1) :
    decayingTrust score rate validatedAt [] now = max 0 (score - rate * elapsedDays validatedAt now) ↔
      Spared false score rate validatedAt [] now := by
  have decay := mul_nonneg nonnegative (elapsedDays_nonneg le)
  by_cases zero : score = 0
  · subst zero
    unfold decayingTrust Spared computeEffectiveTrust scoreAfter spentDays
    simp only [Bool.false_eq_true, if_false, List.map_nil, List.sum_nil, mul_zero, lt_irrefl,
      or_false, ne_eq, not_true_eq_false, false_and, false_or]
    rw [max_eq_left (by linarith : 0 - rate * elapsedDays validatedAt now ≤ 0)]
    have full : numberOr 1 (some (0 : Rat)) = 1 := rfl
    rw [full]
    constructor
    · intro nothing
      refine ⟨decay, ?_⟩
      have left := max_eq_left_iff.mp nothing
      rcases min_le_iff.mp left with absurd | used
      · linarith
      · linarith
    · rintro ⟨_, used⟩
      exact max_eq_left (min_le_of_right_le (by linarith))
  · apply decayingTrust_unspent (fun _ member => absurd member List.not_mem_nil) le nonnegative bounds.2
    simpa [spentDays] using lt_of_le_of_ne bounds.1 (Ne.symm zero)

theorem reports_validated (stored : row ∈ table.rows) (active : row.deletionStatus = .active)
    (scored : row.trustScore = some score) (rated : row.decayRate = some rate)
    (validated : row.lastValidatedAt = some validatedAt) {trust : Rat} :
    Reports service table runs now row trust ↔
      (if row.trustFrozen then numberOr 1 (some score)
        else decayingTrust score rate validatedAt runs now) = trust := by
  cases frozen : row.trustFrozen with
  | true =>
      rw [reports_iff stored (foldl_frozen frozen runs) active rfl rfl]
      simp [MemoryTrustService.entryOf, computeEffectiveTrust, frozen, scored]
  | false =>
      have decays : row.decays = true := by simp [TrustRow.decays, active, frozen, validated]
      obtain ⟨updatedAt, reached⟩ := foldl_decayed decays scored validated rated runs
      rw [reports_iff stored reached active rfl rfl]
      simp only [MemoryTrustService.entryOf, validated, rated, frozen]
      rfl

end

/-- The trust that is reported of a validated record is the one that is due if the runs of the decay spare
it; and only then, if it is frozen, if no run came in between, or if they did not use it up. -/
theorem trust_due_iff (service : MemoryTrustService) (table : TrustTable) (row : TrustRow)
    (stored : row ∈ table.rows) (active : row.deletionStatus = .active) (score rate : Rat)
    (validatedAt : Time) (scored : row.trustScore = some score) (bounds : 0 ≤ score ∧ score ≤ 1)
    (rated : row.decayRate = some rate) (nonnegative : 0 ≤ rate)
    (validated : row.lastValidatedAt = some validatedAt) (runs : List Time) (now : Time)
    (ordered : (validatedAt :: (runs ++ [now])).Pairwise (· ≤ ·)) :
    (Spared row.trustFrozen score rate validatedAt runs now →
      Reports service table runs now row (dueTrust row.trustFrozen score rate validatedAt now)) ∧
    (row.trustFrozen = true ∨ runs = [] ∨ usedRate rate * spentDays validatedAt runs < score →
      Reports service table runs now row (dueTrust row.trustFrozen score rate validatedAt now) →
        Spared row.trustFrozen score rate validatedAt runs now) := by
  have later := (List.pairwise_cons.mp ordered).1
  have le : validatedAt ≤ now := later now (List.mem_append_right runs List.mem_cons_self)
  have runsLater : ∀ run ∈ runs, validatedAt ≤ run :=
    fun run member => later run (List.mem_append_left _ member)
  rw [reports_validated stored active scored rated validated]
  unfold dueTrust
  cases row.trustFrozen with
  | true =>
      have same : numberOr 1 (some score) = score ↔ score ≠ 0 := by
        constructor
        · intro equal zero
          rw [zero] at equal
          exact one_ne_zero equal
        · exact numberOr_of_ne
      exact ⟨same.mpr, fun _ => same.mp⟩
  | false =>
      refine ⟨decayingTrust_spared runsLater le nonnegative bounds, ?_⟩
      rintro (frozen | rfl | unspent)
      · cases frozen
      · exact (decayingTrust_unapplied le nonnegative bounds).mp
      · exact (decayingTrust_unspent runsLater le nonnegative bounds.2 unspent).mp

/-! Records that are validated at the start: after a run on the first day, the report on the second day is
short of what is due; and a record whose trust was used up is trusted again. -/

def unvalidatedRow (sourceType : MemorySourceType) (rate : Rat) : TrustRow where
  id := "m1"
  namespaceName := "team"
  key := "a"
  sourceType := some sourceType
  deletionStatus := .active
  trustScore := some 1
  decayRate := some rate
  lastValidatedAt := none
  validationCount := some 0
  trustFrozen := false
  conflictSetId := none
  updatedAt := 0

def validatedRow (sourceType : MemorySourceType) (rate : Rat) : TrustRow :=
  (unvalidatedRow sourceType rate).validated 0

def validatedTable (sourceType : MemorySourceType) (rate : Rat) : TrustTable :=
  ((validateRecord "m1" 0 ⟨[unvalidatedRow sourceType rate], List.nodup_singleton _⟩).map
    Prod.fst).getD ⟨[], List.nodup_nil⟩

def dayTime (day : Int) : Time := day * 86400000000

theorem trust_due_human :
    Reports {} (validatedTable .human (1 / 100)) [] (dayTime 2) (validatedRow .human (1 / 100))
      (98 / 100) := by
  have law := (trust_due_iff {} (validatedTable .human (1 / 100)) (validatedRow .human (1 / 100))
    (by decide +kernel) rfl 1 (1 / 100) 0 rfl (by decide +kernel) rfl (by decide +kernel) rfl []
    (dayTime 2) (by decide +kernel)).1
  have due : dueTrust false 1 (1 / 100) 0 (dayTime 2) = 98 / 100 := by decide +kernel
  rw [← due]
  apply law
  refine .inl ⟨by decide +kernel, ?_, .inl (by decide +kernel)⟩
  exact fun run member => absurd member List.not_mem_nil

theorem decay_counted_twice :
    ¬ Reports {} (validatedTable .human (1 / 100)) [dayTime 1] (dayTime 2)
        (validatedRow .human (1 / 100)) (dueTrust false 1 (1 / 100) 0 (dayTime 2)) ∧
    Reports {} (validatedTable .derived (3 / 10)) [dayTime 2] (dayTime 3)
        (validatedRow .derived (3 / 10)) (1 / 10) ∧
    dueTrust false (6 / 10) (3 / 10) 0 (dayTime 3) = 0 := by
  refine ⟨?_, ?_, ?_⟩
  · unfold Reports
    decide +kernel
  · unfold Reports
    decide +kernel
  · decide +kernel

end SyndicateClaw.Memory
