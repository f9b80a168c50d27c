/-
Spans of time and points in time, in nanoseconds:

* `secs`, `millis`, `micros`: spans in larger units, `max` the longest one;
* `deadlineAfter`: the point some span after another, at most thirty years;
* `brief`: a span in its largest fitting unit, with a decimal point;
* `inSeconds`: a span in seconds with nine places.
-/
import ToolServer.Number.Shortest

namespace ToolServer

namespace Duration

/-- The span of some microseconds. -/
def micros (n : Nat) : Nat := n * 1000

/-- The span of some milliseconds. -/
def millis (n : Nat) : Nat := n * 1000000

/-- The span of some seconds. -/
def secs (n : Nat) : Nat := n * 1000000000

/-- The largest span: `2^64 - 1` seconds and 999999999 nanoseconds. -/
def max : Nat := secs 0x10000000000000000 - 1

/-- The whole seconds of a span. -/
def wholeSecs (d : Nat) : Nat := d / 1000000000

/-- The whole milliseconds of a span. -/
def wholeMillis (d : Nat) : Nat := d / 1000000

/-- The nanoseconds of a span beyond its whole seconds. -/
def subsecNanos (d : Nat) : Nat := d % 1000000000

/-- The longest span that a deadline lies ahead: thirty years of 365 days. -/
def farFuture : Nat := secs (86400 * 365 * 30)

/-! ### Brief text -/

/-- A number with zeros in front, up to some number of digits. -/
def zeroPadded (width n : Nat) : List Char :=
  let ds := decimalDigits n
  List.replicate (width - ds.length) '0' ++ ds

/-- The digits of a fraction below `10^places`, without zeros at its end. -/
def fractionDigits (places fraction : Nat) : List Char :=
  ((zeroPadded places fraction).reverse.dropWhile (· == '0')).reverse

/-- A whole number and a fraction below `10^places` as a decimal. -/
def decimalText (whole fraction places : Nat) : List Char :=
  if fraction = 0 then decimalDigits whole
  else decimalDigits whole ++ '.' :: fractionDigits places fraction

/-- A span in the largest unit from nanoseconds to seconds that it fills. -/
def brief (d : Nat) : String :=
  String.ofList <|
    if 1000000000 ≤ d then decimalText (d / 1000000000) (d % 1000000000) 9 ++ ['s']
    else if 1000000 ≤ d then decimalText (d / 1000000) (d % 1000000) 6 ++ ['m', 's']
    else if 1000 ≤ d then decimalText (d / 1000) (d % 1000) 3 ++ ['µ', 's']
    else decimalDigits d ++ ['n', 's']

/-- A span in seconds, with nine places behind the point. -/
def inSeconds (d : Nat) : String :=
  String.ofList (decimalDigits (wholeSecs d) ++ '.' :: zeroPadded 9 (subsecNanos d))

/-! ### Deadlines -/

/-- The point in time `span` after `start`, at most thirty years ahead. -/
def deadlineAfter (start span : Nat) : Nat :=
  start + min span farFuture

end Duration

end ToolServer
