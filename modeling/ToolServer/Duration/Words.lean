/-
Spans of time in words, such as `1h 30m` or `2days 500ms`:

* `words`: a span written in falling units, each at most once;
* `ofWords`: the span that a text spells, its parts in any order and
  number, with fractions where they come out exactly;
* `WordsFault.message`: why a text spells no span.

A month is 30.44 days and a year is 365.25 days.
-/
import ToolServer.Duration.Basic
import ToolServer.Text.Blank
import ToolServer.Text.Quoted

namespace ToolServer.Duration

open ToolServer.Text (isBlank)

/-! ### Writing -/

/-- The number of seconds of a day. -/
def daySecs : Nat := 86400

/-- The number of seconds of a month. -/
def monthSecs : Nat := 2630016

/-- The number of seconds of a year. -/
def yearSecs : Nat := 31557600

/-- A number and its unit; nothing for zero. -/
def counted (n : Nat) (unit : String) : List String :=
  if n = 0 then [] else [s!"{n}{unit}"]

/-- A number and its unit, which takes an `s` from two on; nothing for zero. -/
def countedPlural (n : Nat) (unit : String) : List String :=
  if n = 0 then [] else [if n = 1 then s!"{n}{unit}" else s!"{n}{unit}s"]

/-- A span in falling units. -/
def words (d : Nat) : String :=
  if d = 0 then "0s"
  else
    let secs := wholeSecs d
    let nanos := subsecNanos d
    let inYear := secs % yearSecs
    let inMonth := inYear % monthSecs
    let inDay := inMonth % daySecs
    " ".intercalate <|
      countedPlural (secs / yearSecs) "year" ++ countedPlural (inYear / monthSecs) "month"
        ++ countedPlural (inMonth / daySecs) "day" ++ counted (inDay / 3600) "h"
        ++ counted (inDay % 3600 / 60) "m" ++ counted (inDay % 60) "s"
        ++ counted (nanos / 1000000) "ms" ++ counted (nanos / 1000 % 1000) "us"
        ++ counted (nanos % 1000) "ns"

/-! ### Faults -/

/-- Why a text spells no span. Places are counted in bytes. -/
inductive WordsFault
  /-- A character that has no place in a span. -/
  | invalidCharacter (place : Nat)
  /-- Something other than a digit where a part starts. -/
  | numberExpected (place : Nat)
  /-- A unit that is not known, and the number in front of it. -/
  | unknownUnit (unit : String) (value : Nat)
  /-- A number beyond its bounds, or a fraction that does not come out. -/
  | overflow
  /-- A text of blanks. -/
  | empty
  deriving Repr, DecidableEq

/-- The fault in words. -/
def WordsFault.message : WordsFault → String
  | .invalidCharacter place => s!"invalid character at {place}"
  | .numberExpected place => s!"expected number at {place}"
  | .unknownUnit unit value =>
    if unit = "" then s!"time unit needed, for example {value}sec or {value}ms"
    else
      s!"unknown time unit {Text.quoted unit}, supported units: ns, us/µs, ms, sec, min, "
        ++ "hours, days, weeks, months, years (and few variations)"
  | .overflow =>
    "number is too large or cannot be represented without a lack of precision "
      ++ "(values below 1ns are not supported)"
  | .empty => "value was empty"

/-! ### Units -/

/-- What a number counts: nanoseconds or seconds, so many each. -/
inductive Scale
  | nanos (each : Nat)
  | secs (each : Nat)
  deriving Repr, DecidableEq

/-- What a whole number of a unit counts, and what a fraction of it counts. -/
structure Unit where
  /-- The scale of a whole number. -/
  whole : Scale
  /-- The scale of a fraction, if the unit can be divided. -/
  part : Option Scale
  deriving Repr, DecidableEq

/-- The unit of a name. -/
def unit? (name : String) : Option Unit :=
  if name ∈ ["nanos", "nsec", "ns"] then some ⟨.nanos 1, none⟩
  else if name ∈ ["usec", "us", "µs"] then some ⟨.nanos 1000, some (.nanos 1000)⟩
  else if name ∈ ["millis", "msec", "ms"] then
    some ⟨.nanos 1000000, some (.nanos 1000000)⟩
  else if name ∈ ["seconds", "second", "secs", "sec", "s"] then
    some ⟨.secs 1, some (.nanos 1000000000)⟩
  else if name ∈ ["minutes", "minute", "min", "mins", "m"] then
    some ⟨.secs 60, some (.nanos 60000000000)⟩
  else if name ∈ ["hours", "hour", "hrs", "hr", "h"] then ofSecs 3600
  else if name ∈ ["days", "day", "d"] then ofSecs daySecs
  else if name ∈ ["weeks", "week", "wk", "wks", "w"] then ofSecs (7 * daySecs)
  else if name ∈ ["months", "month", "M"] then ofSecs monthSecs
  else if name ∈ ["years", "year", "yr", "yrs", "y"] then ofSecs yearSecs
  else none
where
  /-- A unit of whole seconds, in parts as in whole. -/
  ofSecs (n : Nat) : Option Unit := some ⟨.secs n, some (.secs n)⟩

/-- A proper fraction in lowest decimal places: `numerator / denominator`. -/
structure Fraction where
  numerator : Nat
  denominator : Nat
  deriving Repr, DecidableEq

/-- The bound of every number on the way. -/
def numberBound : Nat := 0x10000000000000000

/-- Adds `n / denominator` times a scale to a span, if the quotient comes out
and nothing passes its bound. -/
def add? (total : Nat) (n denominator : Nat) (scale : Scale) : Option Nat :=
  let product := match scale with
    | .nanos each => n * each
    | .secs each => n * each
  if numberBound ≤ product || product % denominator != 0 then none
  else
    let quotient := product / denominator
    let next := match scale with
      | .nanos _ => total + quotient
      | .secs _ => total + secs quotient
    let fits := match scale with
      | .nanos _ => subsecNanos total + quotient < numberBound
      | .secs _ => true
    if fits && next ≤ max then some next else none

/-! ### Reading -/

/-- A letter of a unit's name. -/
def isUnitLetter (c : Char) : Bool :=
  ('a' ≤ c && c ≤ 'z') || ('A' ≤ c && c ≤ 'Z') || c == 'µ'

/-- The value of a decimal digit. -/
def digitOf (c : Char) : Nat := c.toNat - 48

/-- What stands at some byte of the text. -/
structure Spot where
  /-- The number of bytes in front. -/
  offset : Nat
  /-- The characters from here on. -/
  rest : List Char

/-- Skips blanks up to the digit that starts a part; nothing at the end. -/
def firstDigit? (start : Nat) : (offset : Nat) → List Char →
    Except WordsFault (Option (Nat × Spot))
  | _, [] => .ok none
  | offset, c :: rest =>
    if c.isDigit then .ok (some (digitOf c, ⟨offset + c.utf8Size, rest⟩))
    else if isBlank c then firstDigit? start (offset + c.utf8Size) rest
    else .error (.numberExpected start)

/-- Reads the digits of a fraction up to a letter or the end. `before` is the
place of the point or of the last character taken in. -/
def fraction (f : Fraction) (before : Nat) : (offset : Nat) → List Char →
    Except WordsFault (Fraction × Spot)
  | offset, [] =>
    if f.denominator = 1 then .error (.invalidCharacter before)
    else .ok (f, ⟨offset, []⟩)
  | offset, c :: rest =>
    let next := offset + c.utf8Size
    if c.isDigit then
      let f' : Fraction := ⟨f.numerator * 10 + digitOf c, f.denominator * 10⟩
      if f'.denominator < numberBound && f'.numerator < numberBound then
        fraction f' next next rest
      else .error .overflow
    else if isBlank c then fraction f next next rest
    else if isUnitLetter c then
      if f.denominator = 1 then .error (.invalidCharacter before)
      else .ok (f, ⟨offset, c :: rest⟩)
    else .error (.invalidCharacter before)

/-- Reads a number up to a letter or the end; `n` is its value so far. -/
def number (n : Nat) : (offset : Nat) → List Char →
    Except WordsFault (Nat × Option Fraction × Spot)
  | offset, [] => .ok (n, none, ⟨offset, []⟩)
  | offset, c :: rest =>
    let next := offset + c.utf8Size
    if c.isDigit then
      let n' := n * 10 + digitOf c
      if n' < numberBound then number n' next rest else .error .overflow
    else if isBlank c then number n next rest
    else if isUnitLetter c then .ok (n, none, ⟨offset, c :: rest⟩)
    else if c == '.' then
      (fraction ⟨0, 1⟩ offset next rest).map fun r => (n, some r.1, r.2)
    else .error (.invalidCharacter offset)

/-- Reads the name of a unit up to a digit, behind a blank or to the end;
`name` holds its letters so far, last first. -/
def unitName (name : List Char) : (offset : Nat) → List Char →
    Except WordsFault (String × Spot)
  | offset, [] => .ok (String.ofList name.reverse, ⟨offset, []⟩)
  | offset, c :: rest =>
    if c.isDigit then .ok (String.ofList name.reverse, ⟨offset, c :: rest⟩)
    else if isBlank c then
      .ok (String.ofList name.reverse, ⟨offset + c.utf8Size, rest⟩)
    else if isUnitLetter c then unitName (c :: name) (offset + c.utf8Size) rest
    else .error (.invalidCharacter offset)

/-- Adds a part to a span. -/
def addPart (total : Nat) (n : Nat) (f : Option Fraction) (name : String) :
    Except WordsFault Nat :=
  match unit? name with
  | none => .error (.unknownUnit name n)
  | some u =>
    match add? total n 1 u.whole, f with
    | none, _ => .error .overflow
    | some total, none => .ok total
    | some total, some f =>
      match u.part.bind (add? total f.numerator f.denominator) with
      | none => .error .overflow
      | some total => .ok total

/-- Reads the parts from some place on; `fuel` bounds their number. -/
def parts : (fuel : Nat) → (total : Nat) → Spot → Except WordsFault Nat
  | 0, _, _ => .error .overflow
  | fuel + 1, total, spot => do
    match ← firstDigit? spot.offset spot.offset spot.rest with
    | none => return total
    | some (n, spot) =>
      let (n, f, spot) ← number n spot.offset spot.rest
      let (name, spot) ← unitName [] spot.offset spot.rest
      let total ← addPart total n f name
      parts fuel total spot

/-- The span that a text spells; `0` needs no unit. -/
def ofWords (s : String) : Except WordsFault Nat :=
  if s = "0" then .ok 0
  else if s.toList.all isBlank then .error .empty
  else parts (s.length + 1) 0 ⟨0, s.toList⟩

end ToolServer.Duration
