import PageQuery.Number.Double
/-!
Seconds since 1970 as calendar time.

Dates are proleptic Gregorian. `civil` counts whole eras of 400 years first, then years that begin
in March, so that a leap day is the last day of its year. `stamp` writes a time in fixed width.

`stamp` is the time in the name of an export (specification §4.3, `default_export_path`).
-/

namespace PageQuery.Calendar

open Number

structure Date where
  year : Int
  month : Nat
  day : Nat
  deriving DecidableEq, Repr

structure Time where
  date : Date
  hour : Nat
  minute : Nat
  second : Nat
  deriving DecidableEq, Repr

/-- Days in an era of 400 years. -/
def daysPerEra : Nat := 146097

/-- The date of a day counted from 1970-01-01. -/
def civil (days : Int) : Date :=
  let shifted := days + 719468
  let era := shifted / daysPerEra
  let day := (shifted % daysPerEra).toNat
  let year := (day - day / 1460 + day / 36524 - day / 146096) / 365
  let dayOfYear := day - (365 * year + year / 4 - year / 100)
  let slot := (5 * dayOfYear + 2) / 153
  let month := if slot < 10 then slot + 3 else slot - 9
  { year := year + era * 400 + (if month ≤ 2 then 1 else 0)
    month := month
    day := dayOfYear - (153 * slot + 2) / 5 + 1 }

/-- The time of a second counted from 1970-01-01, as shown at an offset in seconds. -/
def time (unix offset : Int) : Time :=
  let shown := unix + offset
  let rest := (shown % 86400).toNat
  { date := civil (shown / 86400)
    hour := rest / 3600
    minute := rest / 60 % 60
    second := rest % 60 }

/-- The years that can be written. -/
def inRange (t : Time) : Bool := -9999 ≤ t.date.year && t.date.year ≤ 9999

/-- A number in at least the given number of digits. -/
def padded (width n : Nat) : List Char :=
  let digits := naturalDigits n
  List.replicate (width - digits.length) '0' ++ digits

/-- Year, month and day, a dash, then hour, minute and second, each in fixed width. A negative year
has a minus before its four digits. -/
def stamp (t : Time) : List Char :=
  (if t.date.year < 0 then ['-'] else []) ++ padded 4 t.date.year.natAbs ++
    padded 2 t.date.month ++ padded 2 t.date.day ++ '-' ::
    (padded 2 t.hour ++ padded 2 t.minute ++ padded 2 t.second)

end PageQuery.Calendar
