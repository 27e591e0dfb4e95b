/-! Times in reports: date and time of day in Greenwich. -/
namespace PatchReview

structure CalendarDay where
  year : Nat
  month : Nat
  day : Nat
deriving DecidableEq

namespace CalendarDay

/-- The day that comes `days` days after the first of January 1970. Years are taken to start in
March, so that a leap day is the last day of its year, and 400 years have 146097 days. -/
def ofDays (days : Nat) : CalendarDay :=
  let z := days + 719468
  let inCycle := z % 146097
  let yearOfCycle := (inCycle - inCycle / 1460 + inCycle / 36524 - inCycle / 146096) / 365
  let dayOfYear := inCycle - (365 * yearOfCycle + yearOfCycle / 4 - yearOfCycle / 100)
  let monthFromMarch := (5 * dayOfYear + 2) / 153
  let month := if monthFromMarch < 10 then monthFromMarch + 3 else monthFromMarch - 9
  let year := yearOfCycle + 400 * (z / 146097) + if month ≤ 2 then 1 else 0
  ⟨year, month, dayOfYear - (153 * monthFromMarch + 2) / 5 + 1⟩

end CalendarDay

/-- A number with zeros in front, `width` digits long at least. -/
def paddedNumber (width n : Nat) : String :=
  let digits := toString n
  "".pushn '0' (width - digits.length) ++ digits

/-- The time that is `seconds` after the start of 1970. -/
def timeText (seconds : Nat) : String :=
  let day := CalendarDay.ofDays (seconds / 86400)
  let rest := seconds % 86400
  paddedNumber 4 day.year ++ "-" ++ paddedNumber 2 day.month ++ "-" ++ paddedNumber 2 day.day ++
    "T" ++ paddedNumber 2 (rest / 3600) ++ ":" ++ paddedNumber 2 (rest / 60 % 60) ++ ":" ++
    paddedNumber 2 (rest % 60) ++ "Z"

end PatchReview
