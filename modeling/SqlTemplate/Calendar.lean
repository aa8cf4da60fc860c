import SqlTemplate.Text.Numeral

/-!
This file reads a count of seconds as a date and a time of day in the Gregorian calendar and writes
both as text.
-/

namespace SqlTemplate

/-- A day of the Gregorian calendar, which also reaches back before its introduction. -/
structure Day where
  year : Int
  month : Nat
  dayOfMonth : Nat
  deriving DecidableEq, Repr

namespace Day

/-- The day this many days after the first of January 1970. Years begin in March here, so the day
that leap years add is their last, and 400 of them have 146097 days. -/
def ofNumber (number : Int) : Day :=
  let shifted := number + 719468
  let cycle := shifted / 146097
  let dayOfCycle := (shifted % 146097).toNat
  let yearOfCycle :=
    (dayOfCycle - dayOfCycle / 1460 + dayOfCycle / 36524 - dayOfCycle / 146096) / 365
  let dayOfYear := dayOfCycle - (365 * yearOfCycle + yearOfCycle / 4 - yearOfCycle / 100)
  let marchMonth := (5 * dayOfYear + 2) / 153
  let month := if marchMonth < 10 then marchMonth + 3 else marchMonth - 9
  { year := yearOfCycle + cycle * 400 + (if month ≤ 2 then 1 else 0)
    month := month
    dayOfMonth := dayOfYear - (153 * marchMonth + 2) / 5 + 1 }

/-- A year from 0 to 9999 has four digits; every other year has a sign before at least four. -/
def yearText (year : Int) : String :=
  if 0 ≤ year && year ≤ 9999 then Text.padded 4 year.toNat
  else (if year < 0 then "-" else "+") ++ Text.padded 4 year.natAbs

end Day

/-- A point in time counts seconds from the start of 1970 and nanoseconds within the second. A
leap second has more than a thousand million nanoseconds and follows the second it is counted
from. -/
structure Instant where
  seconds : Int
  nanoseconds : Nat
  deriving DecidableEq, Repr

namespace Instant

/-- The part below a second is left out when it is zero and otherwise has three, six or nine
digits, as few as it needs. -/
def fractionText (nanoseconds : Nat) : String :=
  if nanoseconds = 0 then ""
  else if nanoseconds % 1000000 = 0 then "." ++ Text.padded 3 (nanoseconds / 1000000)
  else if nanoseconds % 1000 = 0 then "." ++ Text.padded 6 (nanoseconds / 1000)
  else "." ++ Text.padded 9 nanoseconds

/-- The date and the time of day without a zone. -/
def text (instant : Instant) : String :=
  let day := Day.ofNumber (instant.seconds / 86400)
  let secondOfDay := (instant.seconds % 86400).toNat
  let second := secondOfDay % 60 + instant.nanoseconds / 1000000000
  Day.yearText day.year ++ "-" ++ Text.padded 2 day.month ++ "-" ++ Text.padded 2 day.dayOfMonth ++
    "T" ++ Text.padded 2 (secondOfDay / 3600) ++ ":" ++ Text.padded 2 (secondOfDay / 60 % 60) ++
    ":" ++ Text.padded 2 second ++ fractionText (instant.nanoseconds % 1000000000)

/-- The first second of the year 2000. -/
def millennium : Instant := ⟨946684800, 0⟩

/-- The whole microseconds from the start of the year 2000, the rest cut off. -/
def microsecondsFromMillennium (instant : Instant) : Int :=
  ((instant.seconds - millennium.seconds) * 1000000000 + instant.nanoseconds).tdiv 1000

end Instant

end SqlTemplate
