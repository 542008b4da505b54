/-!
Moments of universal time, and their calendar date in the Gregorian calendar without beginning or
end.
-/

namespace Backlog

/-- Seconds since the start of 1970 and nanoseconds after them. A leap second is counted in the
nanoseconds of the second before it. It is due after the last second of a minute, but a moment can
have one after any second. -/
structure Instant where
  seconds : Int
  nanos : Nat
  valid : nanos < 2000000000
deriving DecidableEq

/-- A day of the calendar; the year before year 1 is year 0. -/
structure Date where
  year : Int
  month : Nat
  day : Nat
deriving DecidableEq, Repr

namespace Date

/-- The date so many days after the first of January 1970. Years are taken to begin in March, so
that the leap day is the last, and are grouped in cycles of 400. -/
def ofDays (days : Int) : Date :=
  let shifted := days + 719468
  let cycle := shifted / 146097
  let dayOfCycle := (shifted % 146097).toNat
  let yearOfCycle :=
    (dayOfCycle - dayOfCycle / 1460 + dayOfCycle / 36524 - dayOfCycle / 146096) / 365
  let dayOfYear := dayOfCycle - (365 * yearOfCycle + yearOfCycle / 4 - yearOfCycle / 100)
  let marchMonth := (5 * dayOfYear + 2) / 153
  let month := if marchMonth < 10 then marchMonth + 3 else marchMonth - 9
  let year := cycle * 400 + yearOfCycle
  { year := if month ≤ 2 then year + 1 else year
    month := month
    day := dayOfYear - (153 * marchMonth + 2) / 5 + 1 }

end Date

namespace Instant

def date (t : Instant) : Date := Date.ofDays (t.seconds / 86400)

def secondOfDay (t : Instant) : Nat := (t.seconds % 86400).toNat

/-- Whole milliseconds since the start of 1970, rounded down. -/
def milliseconds (t : Instant) : Int := t.seconds * 1000 + (t.nanos / 1000000 : Nat)

/-- The moment so many milliseconds after the start of 1970. -/
def ofMilliseconds (ms : Nat) : Instant where
  seconds := (ms / 1000 : Nat)
  nanos := ms % 1000 * 1000000
  valid := by omega

end Instant

end Backlog
