/-!
Points in time as text: date and time of day at the zero meridian, down to the microsecond.
-/

namespace TypeFamily.Text

/-- A number in at least `width` digits. -/
def zeroPadded (width n : Nat) : String :=
  let ds := Nat.toDigits 10 n
  String.ofList (List.replicate (width - ds.length) '0' ++ ds)

/-- Year, month and day of a day, counted from the first of January 1970. Years are reckoned from
March, so that the day that some of them have more is their last. -/
def civilDate (day : Nat) : Nat × Nat × Nat :=
  let shifted := day + 719468
  let cycle := shifted / 146097
  let dayOfCycle := shifted % 146097
  let yearOfCycle :=
    (dayOfCycle - dayOfCycle / 1460 + dayOfCycle / 36524 - dayOfCycle / 146096) / 365
  let dayOfYear := dayOfCycle - (365 * yearOfCycle + yearOfCycle / 4 - yearOfCycle / 100)
  let monthFromMarch := (5 * dayOfYear + 2) / 153
  let dayOfMonth := dayOfYear - (153 * monthFromMarch + 2) / 5 + 1
  let month := if monthFromMarch < 10 then monthFromMarch + 3 else monthFromMarch - 9
  (yearOfCycle + 400 * cycle + (if month ≤ 2 then 1 else 0), month, dayOfMonth)

/-- The point in time so many microseconds after the start of 1970. -/
def instant (microseconds : Nat) : String :=
  let seconds := microseconds / 1000000
  let (year, month, day) := civilDate (seconds / 86400)
  let time := seconds % 86400
  zeroPadded 4 year ++ "-" ++ zeroPadded 2 month ++ "-" ++ zeroPadded 2 day ++ "T" ++
    zeroPadded 2 (time / 3600) ++ ":" ++ zeroPadded 2 (time / 60 % 60) ++ ":" ++
    zeroPadded 2 (time % 60) ++ "." ++ zeroPadded 6 (microseconds % 1000000) ++ "Z"

example : instant 1716795120123456 = "2024-05-27T07:32:00.123456Z" := by decide +kernel

example : civilDate 0 = (1970, 1, 1) ∧ civilDate 11016 = (2000, 2, 29) := by decide

end TypeFamily.Text
