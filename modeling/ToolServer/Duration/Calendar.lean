/-
Points in time as dates:

* `Date`, `dateOfDay`: the date of a day, counted from the first of January
  1970;
* `utcText`: a point in time, in nanoseconds from that day's beginning, as a
  date and a time of day.
-/
import ToolServer.Duration.Basic

namespace ToolServer.Calendar

/-- A date. -/
structure Date where
  year : Nat
  month : Nat
  day : Nat
  deriving Repr, DecidableEq

/-- The date of a day. Years are counted from March, so that a leap day is the
last day of its year, in eras of four hundred years. -/
def dateOfDay (n : Nat) : Date :=
  let n := n + 719468
  let era := n / 146097
  let inEra := n % 146097
  let yearInEra := (inEra - inEra / 1460 + inEra / 36524 - inEra / 146096) / 365
  let inYear := inEra - (365 * yearInEra + yearInEra / 4 - yearInEra / 100)
  let fromMarch := (5 * inYear + 2) / 153
  let day := inYear - (153 * fromMarch + 2) / 5 + 1
  let month := if fromMarch < 10 then fromMarch + 3 else fromMarch - 9
  let year := 400 * era + yearInEra
  ⟨if month ≤ 2 then year + 1 else year, month, day⟩

/-- The fraction of a second: no digits, or three, six or nine of them. -/
def fractionText (nanos : Nat) : List Char :=
  if nanos = 0 then []
  else if nanos % 1000000 = 0 then '.' :: Duration.zeroPadded 3 (nanos / 1000000)
  else if nanos % 1000 = 0 then '.' :: Duration.zeroPadded 6 (nanos / 1000)
  else '.' :: Duration.zeroPadded 9 nanos

/-- A point in time as a date and a time of day, without offset. -/
def utcText (nanos : Nat) : String :=
  let secs := Duration.wholeSecs nanos
  let d := dateOfDay (secs / 86400)
  let inDay := secs % 86400
  let two := Duration.zeroPadded 2
  String.ofList <|
    Duration.zeroPadded 4 d.year ++ '-' :: two d.month ++ '-' :: two d.day ++ 'T'
      :: two (inDay / 3600) ++ ':' :: two (inDay % 3600 / 60) ++ ':' :: two (inDay % 60)
      ++ fractionText (Duration.subsecNanos nanos) ++ ['+', '0', '0', ':', '0', '0']

end ToolServer.Calendar
