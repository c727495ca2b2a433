import ErdSql.Log.Record

/-!
# The clock

The moment that a count of microseconds stands for.  Days are counted from the first of March,
so that the day that leap years add is the last of its year; four hundred years have always the
same number of days.
-/

namespace ErdSql
namespace Log

/-- A day of the calendar. -/
structure CalendarDay where
  year : Nat
  month : Nat
  day : Nat
deriving DecidableEq, Repr

/-- The days of four hundred years. -/
def daysOfCycle : Nat := 146097

/-- The days from the first of March of the year zero to the first day of 1970. -/
def daysToEpoch : Nat := 719468

/-- The day that is the given number of days after the first day of 1970. -/
def CalendarDay.ofEpochDay (days : Nat) : CalendarDay :=
  let count := days + daysToEpoch
  let cycle := count / daysOfCycle
  let inCycle := count % daysOfCycle
  let year := (inCycle - inCycle / 1460 + inCycle / 36524 - inCycle / 146096) / 365
  let inYear := inCycle - (365 * year + year / 4 - year / 100)
  let marchMonth := (5 * inYear + 2) / 153
  let month := if marchMonth < 10 then marchMonth + 3 else marchMonth - 9
  { year := cycle * 400 + year + if month ≤ 2 then 1 else 0
    month := month
    day := inYear - (153 * marchMonth + 2) / 5 + 1 }

/-- The moment that is the given number of microseconds after the beginning of 1970. -/
def Moment.ofEpochMicroseconds (microseconds : Nat) : Moment :=
  let seconds := microseconds / 1000000
  let date := CalendarDay.ofEpochDay (seconds / 86400)
  let inDay := seconds % 86400
  { year := date.year
    month := date.month
    day := date.day
    hour := inDay / 3600
    minute := inDay % 3600 / 60
    second := inDay % 60
    microsecond := microseconds % 1000000 }

end Log
end ErdSql
