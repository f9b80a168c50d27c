/-
JSON text of a value:

* `text`: without blanks, members in the order of the value;
* `prettyText`: one item or member a line, two blanks for each level;
* `escaped`: a string between quotes, with only quotes, backslashes and
  controls escaped.
-/
import ToolServer.Json.Value
import ToolServer.Number.Shortest
import ToolServer.Text.Quoted

namespace ToolServer.Json

open ToolServer.Text (hexDigit)

/-! ### Strings and numbers -/

/-- One character of a string's text. -/
def escapeChar (c : Char) : List Char :=
  if c == '"' then ['\\', '"']
  else if c == '\\' then ['\\', '\\']
  else if c == '\x08' then ['\\', 'b']
  else if c == '\x0c' then ['\\', 'f']
  else if c == '\n' then ['\\', 'n']
  else if c == '\r' then ['\\', 'r']
  else if c == '\t' then ['\\', 't']
  else if c.toNat < 0x20 then
    ['\\', 'u', '0', '0', hexDigit (c.toNat / 16), hexDigit (c.toNat % 16)]
  else [c]

/-- A string between quotes. -/
def escaped (s : String) : List Char :=
  '"' :: s.toList.flatMap escapeChar ++ ['"']

/-- Floating-point numbers are written in place from `10^-5` up to below
`10^16`; the exponent of a larger one has a plus sign. -/
def layout : Layout := ⟨-5, 15, ['+']⟩

/-- The text of a number. -/
def Number.chars : Number → List Char
  | .natural n => decimalDigits n.toNat
  | .negative n => '-' :: decimalDigits (n.val + 1)
  | .float x => layout.render x

/-! ### Values -/

mutual

/-- The text of a value, without blanks. -/
def chars : Json → List Char
  | .null => ['n', 'u', 'l', 'l']
  | .bool true => ['t', 'r', 'u', 'e']
  | .bool false => ['f', 'a', 'l', 's', 'e']
  | .number n => n.chars
  | .string s => escaped s
  | .array [] => ['[', ']']
  | .array (v :: rest) => '[' :: v.chars ++ moreItems rest
  | .object [] => ['\x7b', '\x7d']
  | .object ((k, v) :: rest) =>
    '\x7b' :: escaped k ++ ':' :: v.chars ++ moreMembers rest

/-- The text of the items after the first, up to the closing bracket. -/
def moreItems : List Json → List Char
  | [] => [']']
  | v :: rest => ',' :: v.chars ++ moreItems rest

/-- The text of the members after the first, up to the closing brace. -/
def moreMembers : List (String × Json) → List Char
  | [] => ['\x7d']
  | (k, v) :: rest => ',' :: escaped k ++ ':' :: v.chars ++ moreMembers rest

end

/-- The text of a value, without blanks. -/
def text (v : Json) : String :=
  String.ofList v.chars

/-! ### Indented text -/

/-- A line feed and the blanks in front of a line at some level. -/
def newline (level : Nat) : List Char :=
  '\n' :: List.replicate (2 * level) ' '

mutual

/-- The text of a value that stands at some level of nesting. -/
def prettyChars (level : Nat) : Json → List Char
  | .array [] => ['[', ']']
  | .array (v :: rest) =>
    '[' :: newline (level + 1) ++ v.prettyChars (level + 1) ++ prettyItems level rest
  | .object [] => ['\x7b', '\x7d']
  | .object ((k, v) :: rest) =>
    '\x7b' :: newline (level + 1) ++ escaped k ++ ':' :: ' '
      :: v.prettyChars (level + 1) ++ prettyMembers level rest
  | v => v.chars

/-- The items after the first, up to the closing bracket. -/
def prettyItems (level : Nat) : List Json → List Char
  | [] => newline level ++ [']']
  | v :: rest =>
    ',' :: newline (level + 1) ++ v.prettyChars (level + 1) ++ prettyItems level rest

/-- The members after the first, up to the closing brace. -/
def prettyMembers (level : Nat) : List (String × Json) → List Char
  | [] => newline level ++ ['\x7d']
  | (k, v) :: rest =>
    ',' :: newline (level + 1) ++ escaped k ++ ':' :: ' '
      :: v.prettyChars (level + 1) ++ prettyMembers level rest

end

/-- The text of a value, one item or member a line. -/
def prettyText (v : Json) : String :=
  String.ofList (v.prettyChars 0)

end ToolServer.Json
