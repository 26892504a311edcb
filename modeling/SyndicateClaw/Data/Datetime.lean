import Mathlib.Data.Nat.Notation

/-! UTC instants, counted in microseconds since 1970, and their ISO 8601 text. -/

namespace SyndicateClaw

abbrev Instant := Nat

namespace Instant

def microsPerDay : Nat := 86400000000

/-- Year, month and day of a number of days since 1970-01-01. The year of the
computation begins in March, so that the leap day comes last. -/
def civil (days : Nat) : Nat × Nat × Nat :=
  let shifted := days + 719468
  let era := shifted / 146097
  let dayOfEra := shifted % 146097
  let yearOfEra :=
    (dayOfEra - dayOfEra / 1460 + dayOfEra / 36524 - dayOfEra / 146096) / 365
  let dayOfYear := dayOfEra - (365 * yearOfEra + yearOfEra / 4 - yearOfEra / 100)
  let marchMonth := (5 * dayOfYear + 2) / 153
  let day := dayOfYear - (153 * marchMonth + 2) / 5 + 1
  let month := if marchMonth < 10 then marchMonth + 3 else marchMonth - 9
  let year := yearOfEra + 400 * era
  (if month ≤ 2 then year + 1 else year, month, day)

/-- Inverse of `civil`. -/
def daysOf (year month day : Nat) : Nat :=
  let marchYear := if month ≤ 2 then year - 1 else year
  let era := marchYear / 400
  let yearOfEra := marchYear % 400
  let marchMonth := if 2 < month then month - 3 else month + 9
  let dayOfYear := (153 * marchMonth + 2) / 5 + day - 1
  era * 146097 + (yearOfEra * 365 + yearOfEra / 4 - yearOfEra / 100 + dayOfYear) - 719468

def padded (width n : Nat) : String :=
  let digits := Nat.toDigits 10 n
  String.ofList (List.replicate (width - digits.length) '0' ++ digits)

/-- `datetime.isoformat()` of an aware UTC datetime. -/
def isoformat (t : Instant) : String :=
  let (year, month, day) := civil (t / microsPerDay)
  let micros := t % microsPerDay
  let seconds := micros / 1000000
  let fraction := micros % 1000000
  padded 4 year ++ "-" ++ padded 2 month ++ "-" ++ padded 2 day ++ "T" ++
    padded 2 (seconds / 3600) ++ ":" ++ padded 2 (seconds / 60 % 60) ++ ":" ++
    padded 2 (seconds % 60) ++ (if fraction = 0 then "" else "." ++ padded 6 fraction) ++
    "+00:00"

private def digits? (text : List Char) : Option Nat :=
  if text.all Char.isDigit then
    some (text.foldl (fun acc c => 10 * acc + (c.toNat - '0'.toNat)) 0)
  else none

/-- The instant of a text `isoformat` produces for a year of four digits. -/
def ofIsoformat? (text : String) : Option Instant := do
  let chars := text.toList
  let part (start len : Nat) := digits? ((chars.drop start).take len)
  let days := daysOf (← part 0 4) (← part 5 2) (← part 8 2)
  let seconds := (← part 11 2) * 3600 + (← part 14 2) * 60 + (← part 17 2)
  let fraction ← if chars[19]? = some '.' then part 20 6 else some 0
  return days * microsPerDay + seconds * 1000000 + fraction

theorem isoformat_ne_empty (t : Instant) : isoformat t ≠ "" := by
  intro empty
  have length := congrArg String.length empty
  simp [isoformat, String.length_append] at length

example : isoformat 1700000000000001 = "2023-11-14T22:13:20.000001+00:00" := by decide +kernel

end Instant

end SyndicateClaw
