import CourierPlatform.Js.Number

/-! Calendar days, as `Date.prototype.toISOString` prints them. An instant is a number of
milliseconds since the epoch. -/
namespace CourierPlatform.Js

/-- The year, month and day of the civil date that is `days` days after 1970-01-01. Years are counted
from March inside, so that a leap day is the last of its year. -/
def civilDate (days : Int) : Int × Int × Int :=
  let shifted := days + 719468
  let era := shifted / 146097
  let dayOfEra := shifted % 146097
  let yearOfEra := (dayOfEra - dayOfEra / 1460 + dayOfEra / 36524 - dayOfEra / 146096) / 365
  let dayOfYear := dayOfEra - (365 * yearOfEra + yearOfEra / 4 - yearOfEra / 100)
  let marchMonth := (5 * dayOfYear + 2) / 153
  let day := dayOfYear - (153 * marchMonth + 2) / 5 + 1
  let month := if marchMonth < 10 then marchMonth + 3 else marchMonth - 9
  (yearOfEra + era * 400 + if month ≤ 2 then 1 else 0, month, day)

def padded (width n : Nat) : String :=
  let digits := toString n
  String.ofList (List.replicate (width - digits.length) '0') ++ digits

/-- `new Date(now).toISOString().split('T')[0]`. Years outside four digits carry a sign. -/
def isoDate (now : Int) : String :=
  let (year, month, day) := civilDate (now / 86400000)
  let yearText :=
    if 0 ≤ year ∧ year ≤ 9999 then padded 4 year.natAbs
    else (if year < 0 then "-" else "+") ++ padded 6 year.natAbs
  yearText ++ "-" ++ padded 2 month.natAbs ++ "-" ++ padded 2 day.natAbs

def toISOString (now : Int) : String :=
  let time := (now % 86400000).natAbs
  isoDate now ++ "T" ++ padded 2 (time / 3600000) ++ ":" ++ padded 2 (time / 60000 % 60) ++ ":" ++
    padded 2 (time / 1000 % 60) ++ "." ++ padded 3 (time % 1000) ++ "Z"

example : isoDate 1772236800000 = "2026-02-28" := by decide
example : isoDate 951782400000 = "2000-02-29" := by decide
example : toISOString 951782461005 = "2000-02-29T00:01:01.005Z" := by decide

end CourierPlatform.Js
