/-
Floating-point numbers of 64 bits, known by their bits:

* `Binary64`: the type; two numbers are equal when their bits are;
* `ofNat64`, `mul`, `div`, `neg`: the rounded operations that reading and
  reporting numbers needs;
* `tenPow`: the powers of ten;
* `ofParts`: the number `significand · 10^exponent`, by one rounded
  multiplication or division, or nothing when it is too large.
-/

namespace ToolServer

/-- A floating-point number of 64 bits. -/
structure Binary64 where
  /-- Sign, exponent and fraction, from the highest bit down. -/
  bits : UInt64
  deriving DecidableEq, Repr, Inhabited

namespace Binary64

/-- The machine's number with these bits. -/
def toFloat (x : Binary64) : Float :=
  Float.ofBits x.bits

/-- The bits of a machine number. -/
def ofFloat (x : Float) : Binary64 :=
  ⟨x.toBits⟩

/-- The number nearest to a natural number below `2^64`. -/
def ofNat64 (n : UInt64) : Binary64 :=
  ofFloat n.toFloat

/-- The rounded product. -/
def mul (x y : Binary64) : Binary64 :=
  ofFloat (x.toFloat * y.toFloat)

/-- The rounded quotient. -/
def div (x y : Binary64) : Binary64 :=
  ofFloat (x.toFloat / y.toFloat)

/-- The number with its sign turned. -/
def neg (x : Binary64) : Binary64 :=
  ⟨x.bits ^^^ 0x8000000000000000⟩

/-- Zero with a positive sign. -/
def zero : Binary64 := ⟨0⟩

/-- The sign bit. -/
def isNegative (x : Binary64) : Bool :=
  x.bits >>> 63 == 1

/-- The eleven bits of the biased exponent. -/
def biased (x : Binary64) : Nat :=
  (x.bits >>> 52 &&& 0x7FF).toNat

/-- The fifty-two bits of the fraction. -/
def fraction (x : Binary64) : Nat :=
  (x.bits &&& 0xFFFFFFFFFFFFF).toNat

/-- Whether the number is zero, of either sign. -/
def isZero (x : Binary64) : Bool :=
  x.bits <<< 1 == 0

/-- Whether the number is neither infinite nor undefined. -/
def isFinite (x : Binary64) : Bool :=
  x.biased != 0x7FF

/-- The number nearest to `10^k`. -/
def tenPow (k : Nat) : Binary64 :=
  ofFloat (OfScientific.ofScientific 1 false k)

/-- The largest exponent of a power of ten that is finite. -/
def maxTenPow : Nat := 308

/-- Divides by `10^k`, at most `10^308` at a time. -/
def scaleDown (x : Binary64) (k : Nat) : Binary64 :=
  if k ≤ maxTenPow then x.div (tenPow k)
  else if x.isZero then x
  else scaleDown (x.div (tenPow maxTenPow)) (k - maxTenPow)
termination_by k
decreasing_by simp only [maxTenPow] at *; omega

/-- The number `significand · 10^exponent`; nothing if it is out of range. -/
def ofParts (significand : UInt64) (exponent : Int) : Option Binary64 :=
  let x := ofNat64 significand
  if exponent < 0 then some (x.scaleDown exponent.natAbs)
  else if exponent.natAbs ≤ maxTenPow then
    let y := x.mul (tenPow exponent.natAbs)
    if y.isFinite then some y else none
  else if x.isZero then some x
  else none

end Binary64

end ToolServer
