/-
Quoted text and hexadecimal digits:

* `quoted`: a string between double quotes, with backslash escapes for quotes,
  backslashes, common controls and characters without a shape;
* `hexOfNat`, `hexOfBytes`: lower-case hexadecimal digits.
-/
import ToolServer.Text.Unprintable
import ToolServer.Text.Utf8

namespace ToolServer.Text

/-! ### Hexadecimal digits -/

/-- The lower-case hexadecimal digit of a number below sixteen. -/
def hexDigit (n : Nat) : Char :=
  if n < 10 then Char.ofNat (48 + n) else Char.ofNat (87 + n)

/-- The lower-case hexadecimal digits of a number, without leading zeros. -/
def hexOfNat (n : Nat) : List Char :=
  if n < 16 then [hexDigit n] else hexOfNat (n / 16) ++ [hexDigit (n % 16)]

/-- Two hexadecimal digits for every byte. -/
def hexOfBytes (bytes : Bytes) : List Char :=
  bytes.flatMap fun b => [hexDigit (b.toNat / 16), hexDigit (b.toNat % 16)]

/-! ### Quoting -/

/-- One character of a quoted text. -/
def quoteChar (c : Char) : List Char :=
  if c == '\x00' then ['\\', '0']
  else if c == '\t' then ['\\', 't']
  else if c == '\n' then ['\\', 'n']
  else if c == '\r' then ['\\', 'r']
  else if c == '"' then ['\\', '"']
  else if c == '\\' then ['\\', '\\']
  else if c.toNat < 0x20 || isUnprintable c then
    ['\\', 'u', '\x7b'] ++ hexOfNat c.toNat ++ ['\x7d']
  else [c]

/-- A string between double quotes, with its special characters escaped. -/
def quoted (s : String) : String :=
  String.ofList ('"' :: s.toList.flatMap quoteChar ++ ['"'])

end ToolServer.Text
