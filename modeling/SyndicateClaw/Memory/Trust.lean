import Mathlib.Algebra.Order.Ring.Unbundled.Rat
import SyndicateClaw.Memory.Records

/-! `MemoryTrustService`: the trust in a record, which decays with the days since it was validated. -/

namespace SyndicateClaw.Memory

open Authz (Time)

inductive MemorySourceType where
  | human | system | derived | external | llm
  deriving DecidableEq

/-- A row of `memory_records`, with the columns that the trust service reads and writes. -/
structure TrustRow where
  id : String
  namespaceName : String
  key : String
  -- A text that names no source type is `none`.
  sourceType : Option MemorySourceType
  deletionStatus : DeletionStatus
  trustScore : Option Rat
  decayRate : Option Rat
  lastValidatedAt : Option Time
  validationCount : Option Nat
  trustFrozen : Bool
  conflictSetId : Option String
  updatedAt : Time
  deriving DecidableEq

abbrev TrustTable := Keyed TrustRow.id

structure MemoryTrustService where
  minUsableTrust : Rat := 3 / 10

/-- `value or default`, of a number. -/
def numberOr (default : Rat) : Option Rat → Rat
  | none => default
  | some value => if value = 0 then default else value

/-- `(now - then).total_seconds() / 86400` -/
def elapsedDays (since now : Time) : Rat := ((now - since : Int) : Rat) / 86400000000

/-- `compute_effective_trust` -/
def computeEffectiveTrust (now : Time) (trustScore decayRate : Rat) (lastValidatedAt : Option Time)
    (frozen : Bool) : Rat :=
  if frozen then trustScore
  else match lastValidatedAt with
    | none => trustScore
    | some validatedAt => max 0 (min 1 (trustScore - decayRate * elapsedDays validatedAt now))

/-- `round(value, 4)`: a tie goes to the even digit. -/
def roundToFour (value : Rat) : Rat :=
  let scaled := value * 10000
  let below := scaled.floor
  let rest := scaled - below
  let digits := if rest < 1 / 2 ∨ rest = 1 / 2 ∧ below % 2 = 0 then below else below + 1
  (digits : Rat) / 10000

/-! ### Decay -/

def TrustRow.decays (row : TrustRow) : Bool :=
  row.deletionStatus = .active && !row.trustFrozen && row.lastValidatedAt.isSome

def decayedScore (now validatedAt : Time) (trustScore decayRate : Option Rat) : Rat :=
  max 0 (numberOr 1 trustScore - numberOr (1 / 100) decayRate * elapsedDays validatedAt now)

def TrustRow.decayed (now : Time) (row : TrustRow) : TrustRow :=
  match row.lastValidatedAt with
  | none => row
  | some validatedAt =>
      let newScore := decayedScore now validatedAt row.trustScore row.decayRate
      if row.decays = true ∧ some newScore ≠ row.trustScore then
        { row with trustScore := some newScore, updatedAt := now }
      else row

theorem decayed_id (now : Time) (row : TrustRow) : (row.decayed now).id = row.id := by
  unfold TrustRow.decayed
  split
  · rfl
  · dsimp only
    split <;> rfl

namespace MemoryTrustService

variable (service : MemoryTrustService) (now : Time)

def isUsable (effectiveTrust : Rat) : Bool := service.minUsableTrust ≤ effectiveTrust

/-- `apply_decay`, with the count of the records whose new score is below the threshold. -/
def applyDecay (table : TrustTable) : TrustTable × Nat :=
  (table.change (TrustRow.decayed now) (decayed_id now),
    table.rows.countP fun row =>
      row.decayed now ≠ row && (row.decayed now).trustScore.any (· < service.minUsableTrust))

end MemoryTrustService

/-! ### The report -/

structure TrustEntry where
  id : String
  namespaceName : String
  key : String
  sourceType : Option MemorySourceType
  trustScore : Option Rat
  -- Before it is rounded.
  effective : Rat
  usable : Bool
  frozen : Bool
  lastValidatedAt : Option Time
  conflictSetId : Option String
  deriving DecidableEq

def TrustEntry.effectiveTrust (entry : TrustEntry) : Rat := roundToFour entry.effective

namespace MemoryTrustService

variable (service : MemoryTrustService) (now : Time)

def entryOf (row : TrustRow) : TrustEntry :=
  let effective := computeEffectiveTrust now (numberOr 1 row.trustScore)
    (numberOr (1 / 100) row.decayRate) row.lastValidatedAt row.trustFrozen
  { id := row.id
    namespaceName := row.namespaceName
    key := row.key
    sourceType := row.sourceType
    trustScore := row.trustScore
    effective
    usable := service.isUsable effective
    frozen := row.trustFrozen
    lastValidatedAt := row.lastValidatedAt
    conflictSetId := row.conflictSetId }

/-- `get_trust_report` -/
def getTrustReport (namespaceName : String) (table : TrustTable) : List TrustEntry :=
  (table.rows.filter fun row =>
    row.namespaceName = namespaceName && row.deletionStatus = .active).map (service.entryOf now)

/-- `apply_decay` at these times, one run after the other. -/
def decayRuns (runs : List Time) (table : TrustTable) : TrustTable :=
  runs.foldl (fun table now => (service.applyDecay now table).1) table

end MemoryTrustService

/-! ### Validation -/

/-- `_SOURCE_TRUST_CEILING` -/
def sourceTrustCeiling : Option MemorySourceType → Rat
  | some .human => 1
  | some .system => 95 / 100
  | some .external => 8 / 10
  | some .llm => 7 / 10
  | some .derived => 6 / 10
  | none => 8 / 10

/-- What `validate_record` makes of a row. -/
def TrustRow.validated (now : Time) (row : TrustRow) : TrustRow :=
  { row with
    trustScore := some (sourceTrustCeiling row.sourceType)
    lastValidatedAt := some now
    validationCount := some (row.validationCount.getD 0 + 1)
    updatedAt := now }

theorem validated_id (now : Time) (row : TrustRow) : (row.validated now).id = row.id := rfl

/-- `validate_record`; `none` where there is no such record. -/
def validateRecord (recordId : String) (now : Time) (table : TrustTable) :
    Option (TrustTable × Rat) :=
  (table.get? recordId).map fun row =>
    (table.changeAt recordId (TrustRow.validated now) (validated_id now),
      sourceTrustCeiling row.sourceType)

end SyndicateClaw.Memory
