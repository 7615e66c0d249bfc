import StateCoverage.Text.CodePoint

/-!
Times of day as events are marked with them: `2024-02-29 07:05:09`, for the meridian of Greenwich.
-/
namespace StateCoverage.Command

/-- Year, month and day of a day counted from 1970-01-01. Years are counted from March on, so that
the leap day ends one; four hundred of them have 146097 days. -/
def dateOfDay (day : Nat) : Nat × Nat × Nat :=
  let shifted := day + 719468
  let era := shifted / 146097
  let dayOfEra := shifted % 146097
  let yearOfEra := (dayOfEra - dayOfEra / 1460 + dayOfEra / 36524 - dayOfEra / 146096) / 365
  let dayOfYear := dayOfEra - (365 * yearOfEra + yearOfEra / 4 - yearOfEra / 100)
  let fromMarch := (5 * dayOfYear + 2) / 153
  let month := if fromMarch < 10 then fromMarch + 3 else fromMarch - 9
  let year := era * 400 + yearOfEra + (if month ≤ 2 then 1 else 0)
  (year, month, dayOfYear - (153 * fromMarch + 2) / 5 + 1)

def padded (width n : Nat) : String :=
  let digits := toString n
  "".pushn '0' (width - digits.length) ++ digits

def timeText (seconds : Nat) : Text :=
  let (year, month, day) := dateOfDay (seconds / 86400)
  let clock := [seconds / 3600 % 24, seconds / 60 % 60, seconds % 60].map (padded 2)
  text ("-".intercalate [padded 4 year, padded 2 month, padded 2 day] ++ " "
    ++ ":".intercalate clock)

end StateCoverage.Command
