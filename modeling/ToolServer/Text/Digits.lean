/-
Digits:

* `hexByte?`: the value of a byte that is a hexadecimal digit;
* `digitValue?`: the value of a digit to some base;
* `ofDigits?`: the number that digits spell to some base;
* `numeral?`: the number of a decimal numeral.

Letters are digits from ten on, in either case.
-/

namespace ToolServer.Text

/-- The value of a hexadecimal digit. -/
def hexByte? (b : UInt8) : Option Nat :=
  if 0x30 ≤ b && b ≤ 0x39 then some (b.toNat - 0x30)
  else if 0x41 ≤ b && b ≤ 0x46 then some (b.toNat - 0x37)
  else if 0x61 ≤ b && b ≤ 0x66 then some (b.toNat - 0x57)
  else none

/-- The value of a digit to a base up to sixteen. -/
def digitValue? (base : Nat) (c : Char) : Option Nat :=
  if c.toNat < 0x80 then (hexByte? c.toNat.toUInt8).filter (· < base) else none

/-- The number that digits spell to a base; no digits spell zero. -/
def ofDigits? (base : Nat) (cs : List Char) : Option Nat :=
  (cs.mapM (digitValue? base)).map fun values => values.foldl (fun n v => base * n + v) 0

/-- The number that decimal digits spell, after a plus sign or not. -/
def numeral? (cs : List Char) : Option Nat :=
  let digits := match cs with
    | '+' :: rest => rest
    | _ => cs
  if digits.isEmpty then none else ofDigits? 10 digits

end ToolServer.Text
