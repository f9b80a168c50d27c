/-
The shortest decimal that reads back as a given floating-point number:

* `Magnitude`: a positive number `m · 2^q` and the interval of reals that are
  nearest to it;
* `Decimal`: a natural number times a power of ten;
* `shortest`: the decimal of fewest digits in the interval, of those the
  nearest one, a tie going to the even last digit;
* `Layout`, `render`: how a decimal is laid out as text.

Everything is computed in natural numbers, with no rounding.
-/
import ToolServer.Number.Binary64

namespace ToolServer

/-! ### Magnitudes -/

/-- The positive number `m · 2^q`. -/
structure Magnitude where
  /-- The integral significand. -/
  m : Nat
  /-- The binary exponent. -/
  q : Int
  /-- Whether the next smaller number is only half as far as the next larger. -/
  closeBelow : Bool
  deriving Repr, DecidableEq

/-- The magnitude of a finite number that is not zero. -/
def Binary64.magnitude (x : Binary64) : Magnitude :=
  if x.biased = 0 then ⟨x.fraction, -1074, false⟩
  else ⟨0x10000000000000 + x.fraction, (x.biased : Int) - 1075, x.fraction = 0 && 1 < x.biased⟩

namespace Magnitude

/-- Four times the significand, over a power of two: numerator. -/
def scaled (x : Magnitude) (quarters : Nat) : Nat :=
  quarters * Nat.pow 2 (x.q - 2).toNat

/-- The denominator that goes with `scaled`. -/
def den (x : Magnitude) : Nat :=
  Nat.pow 2 (2 - x.q).toNat

/-- The number itself, times `den`. -/
def num (x : Magnitude) : Nat :=
  x.scaled (4 * x.m)

/-- The lower end of the interval that rounds to the number, times `den`. -/
def low (x : Magnitude) : Nat :=
  x.scaled (if x.closeBelow then 4 * x.m - 1 else 4 * x.m - 2)

/-- The upper end of the interval that rounds to the number, times `den`. -/
def high (x : Magnitude) : Nat :=
  x.scaled (4 * x.m + 2)

/-- Whether `a / den` rounds to the number; the ends do if `m` is even. -/
def admits (x : Magnitude) (a scale : Nat) : Bool :=
  if x.m % 2 = 0 then x.low * scale ≤ a && a ≤ x.high * scale
  else x.low * scale < a && a < x.high * scale

end Magnitude

/-! ### Decimals -/

/-- The number `digits · 10^exponent`. -/
structure Decimal where
  /-- The digits, read as a natural number. -/
  digits : Nat
  /-- The power of ten of the last digit. -/
  exponent : Int
  deriving Repr, DecidableEq

/-- The number of decimal digits of a natural number, one for zero. -/
def decimalLength (n : Nat) : Nat :=
  (Nat.toDigits 10 n).length

/-- The decimal without zeros at its end. -/
def Decimal.stripped (d : Decimal) : Decimal :=
  if h : 0 < d.digits ∧ d.digits % 10 = 0 then
    stripped ⟨d.digits / 10, d.exponent + 1⟩
  else d
termination_by d.digits
decreasing_by exact Nat.div_lt_self h.1 (by decide)

/-- The power of ten of the first digit. -/
def Decimal.leading (d : Decimal) : Int :=
  d.exponent + (decimalLength d.digits : Int) - 1

namespace Magnitude

/-- The power of ten of the number's first decimal digit. -/
def leading (x : Magnitude) : Int :=
  if x.den ≤ x.num then (decimalLength (x.num / x.den) : Int) - 1
  else -(decimalLength ((x.den + x.num - 1) / x.num - 1) : Int)

/-- The decimal with last place `10^p` that rounds to the number, if its two
neighbours on that grid hold one; of two the nearer, of two equally near the
one with the even last digit. -/
def onGrid? (x : Magnitude) (p : Int) : Option Decimal :=
  let up := Nat.pow 10 (-p).toNat
  let unit := x.den * Nat.pow 10 p.toNat
  let n := x.num * up
  let below := n / unit
  let fits (k : Nat) : Bool := x.admits (k * unit) up
  let rest := 2 * (n % unit)
  let aboveFirst := unit < rest || (rest == unit && below % 2 == 1)
  let order := if aboveFirst then [below + 1, below] else [below, below + 1]
  (order.find? fun k => 0 < k && fits k).map fun k => ⟨k, p⟩

/-- The largest number of digits that is ever needed. -/
def maxDigits : Nat := 17

/-- The shortest decimal that rounds to the number. -/
def shortest (x : Magnitude) : Decimal :=
  let first := x.leading
  let found := (List.range maxDigits).findSome? fun n : Nat => x.onGrid? (first - n)
  (found.getD ⟨x.num / x.den, 0⟩).stripped

end Magnitude

/-! ### Layout -/

/-- How a decimal number is laid out as text. -/
structure Layout where
  /-- The smallest power of ten of a first digit that is written in place. -/
  leastPlain : Int
  /-- The largest power of ten of a first digit that is written in place. -/
  greatestPlain : Int
  /-- What stands between the exponent mark and an exponent that is not negative. -/
  positiveSign : List Char

/-- The decimal digits of a natural number. -/
def decimalDigits (n : Nat) : List Char :=
  Nat.toDigits 10 n

/-- The decimal digits of an integer, after a minus sign if it is negative. -/
def integerDigits (n : Int) : List Char :=
  if n < 0 then '-' :: decimalDigits n.natAbs else decimalDigits n.natAbs

/-- A decimal with its digits in place, with at least one digit on each side
of the point. -/
def Decimal.inPlace (d : Decimal) : List Char :=
  let ds := decimalDigits d.digits
  if 0 ≤ d.exponent then ds ++ List.replicate d.exponent.toNat '0' ++ ['.', '0']
  else
    let behind := (-d.exponent).toNat
    if behind < ds.length then
      ds.take (ds.length - behind) ++ '.' :: ds.drop (ds.length - behind)
    else ['0', '.'] ++ List.replicate (behind - ds.length) '0' ++ ds

/-- A decimal with one digit before the point and an exponent. -/
def Decimal.scientific (d : Decimal) (positiveSign : List Char) : List Char :=
  let e := d.leading
  let tail := if e < 0 then integerDigits e else positiveSign ++ integerDigits e
  match decimalDigits d.digits with
  | [] => tail
  | [c] => c :: 'e' :: tail
  | c :: cs => c :: '.' :: cs ++ 'e' :: tail

/-- A finite number as text. -/
def Layout.render (l : Layout) (x : Binary64) : List Char :=
  let sign := if x.isNegative then ['-'] else []
  if x.isZero then sign ++ ['0', '.', '0']
  else
    let d := x.magnitude.shortest
    let body :=
      if l.leastPlain ≤ d.leading ∧ d.leading ≤ l.greatestPlain then d.inPlace
      else d.scientific l.positiveSign
    sign ++ body

end ToolServer
