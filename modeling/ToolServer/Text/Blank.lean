/-
White space and what is defined by it:

* `isBlank`: the Unicode property White_Space;
* `trim`: a string without the blanks at its two ends;
* `wordCount`, `lineCount`: the number of words and of lines of a text;
* `lowerAscii`: the ASCII capitals of a string made small.
-/

namespace ToolServer.Text

/-- The characters with the Unicode property White_Space. -/
def isBlank (c : Char) : Bool :=
  let n := c.toNat
  (0x09 ≤ n && n ≤ 0x0D) || n == 0x20 || n == 0x85 || n == 0xA0 || n == 0x1680
    || (0x2000 ≤ n && n ≤ 0x200A) || n == 0x2028 || n == 0x2029 || n == 0x202F
    || n == 0x205F || n == 0x3000

/-- Every blank of core is a blank. -/
theorem isBlank_of_isWhitespace {c : Char} (h : c.isWhitespace = true) :
    isBlank c = true := by
  simp only [Char.isWhitespace, Bool.or_eq_true, decide_eq_true_eq] at h
  rcases h with (((rfl | rfl) | rfl) | rfl) <;> decide

/-- A list of characters without the blanks at its end. -/
def trimEnd (cs : List Char) : List Char :=
  (cs.reverse.dropWhile isBlank).reverse

/-- A string without the blanks at its start and end. -/
def trim (s : String) : String :=
  String.ofList (trimEnd (s.toList.dropWhile isBlank))

/-- Whether a string holds blanks only. -/
def isBlankString (s : String) : Bool :=
  s.toList.all isBlank

/-- The number of words of a text: of the characters that are not blank and
have a blank or nothing in front of them. -/
def wordCount (s : String) : Nat :=
  let cs := s.toList
  (cs.zip (' ' :: cs)).countP fun c => !isBlank c.1 && isBlank c.2

/-- The number of lines of a text: every line feed ends one, and what stands
after the last line feed is a line if there is anything. -/
def lineCount (s : String) : Nat :=
  let cs := s.toList
  cs.count '\n' + (if cs.getLast?.any (· != '\n') then 1 else 0)

/-- A string with the letters A to Z made small and all else kept. -/
def lowerAscii (s : String) : String :=
  s.map Char.toLower

end ToolServer.Text
