/-!
# Instants

Points in time with microsecond resolution, and the text by which records are dated.

## Main definitions

* `Instant` — microseconds since the start of the year 1, in universal time.
* `CalendarDate.ofDays` — the calendar date of a day.
* `Instant.text` — date, time of day and offset; a fraction only where it is not zero.
* `Clock`, `Clock.read?` — successive readings, a fixed tick apart.
-/

set_option autoImplicit false

namespace TaskShell

/-- A point in time: microseconds since the start of the year 1. -/
structure Instant where
  micros : Nat
  deriving DecidableEq, Repr, Inhabited

/-- A calendar date. -/
structure CalendarDate where
  year : Nat
  month : Nat
  day : Nat
  deriving DecidableEq, Repr

namespace CalendarDate

/-- Whether a year has a leap day. -/
def isLeap (year : Nat) : Bool :=
  year % 4 == 0 && (year % 100 != 0 || year % 400 == 0)

/-- The days of a month. -/
def daysIn (year month : Nat) : Nat :=
  if month = 2 then (if isLeap year then 29 else 28)
  else if month = 4 ∨ month = 6 ∨ month = 9 ∨ month = 11 then 30 else 31

/-- The month and day of the `n`-th day counted from the start of `month`, looking ahead at most
`ahead` months. -/
def monthFrom (year month : Nat) : Nat → Nat → Nat × Nat
  | 0, n => (month, n + 1)
  | ahead + 1, n =>
    if n < daysIn year month then (month, n + 1)
    else monthFrom year (month + 1) ahead (n - daysIn year month)

/-- The calendar date of a day, counted from the first of January of the year 1. Four hundred
years have 146097 days, each of the first three centuries of them 36524, four years within a
century 1461, and each of the first three years of them 365. -/
def ofDays (days : Nat) : CalendarDate :=
  let era := days / 146097
  let inEra := days % 146097
  let century := min (inEra / 36524) 3
  let inCentury := inEra - 36524 * century
  let cycle := inCentury / 1461
  let inCycle := inCentury % 1461
  let year := min (inCycle / 365) 3
  let inYear := inCycle - 365 * year
  let year := 400 * era + 100 * century + 4 * cycle + year + 1
  let (month, day) := monthFrom year 1 11 inYear
  ⟨year, month, day⟩

end CalendarDate

namespace Instant

/-- A number in decimal with leading zeros up to a width. -/
def padded (width n : Nat) : List Char :=
  let digits := Nat.toDigits 10 n
  List.replicate (width - digits.length) '0' ++ digits

/-- Date, time of day and offset. Microseconds are written, with six digits, only where they are
not zero. -/
def chars (t : Instant) : List Char :=
  let micros := t.micros % 1000000
  let seconds := t.micros / 1000000
  let date := CalendarDate.ofDays (seconds / 86400)
  let second := seconds % 86400
  padded 4 date.year ++ '-' :: padded 2 date.month ++ '-' :: padded 2 date.day ++
    'T' :: padded 2 (second / 3600) ++ ':' :: padded 2 (second / 60 % 60) ++
    ':' :: padded 2 (second % 60) ++ (if micros = 0 then [] else '.' :: padded 6 micros) ++
    "+00:00".toList

/-- The text by which records are dated. -/
def text (t : Instant) : String :=
  String.ofList t.chars

/-- The start of the year 2024. -/
def start2024 : Instant := ⟨738885 * 86400 * 1000000⟩

/-- The microseconds from the start of the year 1 to the end of the year 9999. -/
def dated : Nat := 3652059 * 86400 * 1000000

/-- The instant some microseconds after the start of the year 1970. -/
def after1970 (micros : Int) : Instant :=
  ⟨(719162 * 86400 * 1000000 + micros).toNat⟩

end Instant

/-- A clock: the microseconds from the start of the year 1 to its next reading, and those by which
readings move, forward or back. -/
structure Clock where
  next : Int := Instant.start2024.micros
  tick : Int := 1000000
  deriving Repr, Inhabited

namespace Clock

/-- The next reading, if it has a date: the years 1 to 9999 do. -/
def read? (c : Clock) : Option Instant :=
  if 0 ≤ c.next ∧ c.next < Instant.dated then some ⟨c.next.toNat⟩ else none

/-- The clock after a reading. -/
def advance (c : Clock) : Clock :=
  { c with next := c.next + c.tick }

end Clock

end TaskShell
