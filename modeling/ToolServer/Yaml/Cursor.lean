/-
Places in a YAML text:

* `Cursor`: the characters that are left, and the line and column of the first;
* `advance`, `pass`: the cursor behind some characters of its line;
* `lineBreak?`: the line break at a cursor, in its plain form;
* `atBlank`, `atSeparator`, `atMark`: what stands at a cursor.
-/

namespace ToolServer.Yaml

/-! ### Characters -/

/-- A space or a tab. -/
def isBlank (c : Char) : Bool :=
  c == ' ' || c == '\t'

/-- A character that ends a line. -/
def isBreak (c : Char) : Bool :=
  c == '\n' || c == '\r' || c == '\u0085' || c == '\u2028' || c == '\u2029'

/-- A character that may stand in a text. -/
def isPrintable (c : Char) : Bool :=
  let n := c.toNat
  n == 0x09 || n == 0x0A || n == 0x0D || (0x20 ≤ n && n ≤ 0x7E) || n == 0x85
    || (0xA0 ≤ n && n ≤ 0xFFFD) || 0x10000 ≤ n

/-- A character of names. -/
def isNameChar (c : Char) : Bool :=
  c.isAlphanum || c == '_' || c == '-'

/-! ### Cursors -/

/-- A place in a text. -/
structure Cursor where
  /-- The characters from the place on. -/
  rest : List Char
  /-- The number of line breaks in front of the place. -/
  line : Nat := 0
  /-- The number of characters in front of the place on its line. -/
  column : Nat := 0
  /-- The number of characters in front of the place. -/
  index : Nat := 0
  deriving Repr, Inhabited

namespace Cursor

/-- The cursor behind the next characters, which are on one line. -/
def advance (k : Cursor) (count : Nat) : Cursor :=
  { k with
    rest := k.rest.drop count
    column := k.column + count
    index := k.index + count }

/-- The next characters with a property. -/
def run (k : Cursor) (p : Char → Bool) : List Char :=
  k.rest.takeWhile p

/-- The cursor behind the next characters with a property, which holds of no
line break. -/
def pass (k : Cursor) (p : Char → Bool) : Cursor :=
  k.advance (k.run p).length

/-- The cursor at the start of the next line, behind a break of some length. -/
def newLine (k : Cursor) (length : Nat) : Cursor :=
  ⟨k.rest.drop length, k.line + 1, 0, k.index + length⟩

/-- The line break at the cursor in its plain form, and the cursor behind it.
All breaks are line feeds but the separators of lines and paragraphs. -/
def lineBreak? (k : Cursor) : Option (Char × Cursor) :=
  match k.rest with
  | '\r' :: '\n' :: _ => some ('\n', k.newLine 2)
  | c :: _ =>
    if c == '\u2028' || c == '\u2029' then some (c, k.newLine 1)
    else if isBreak c then some ('\n', k.newLine 1)
    else none
  | [] => none

/-- Whether the text is over or a character with a property follows some others. -/
def endsOr (k : Cursor) (skipped : Nat) (p : Char → Bool) : Bool :=
  ((k.rest.drop skipped).head?.map p).getD true

/-- Whether the character behind some others has a property. -/
def has (k : Cursor) (skipped : Nat) (p : Char → Bool) : Bool :=
  (k.rest.drop skipped).head?.any p

/-- Whether a space or a tab is next. -/
def atBlank (k : Cursor) : Bool :=
  k.has 0 isBlank

/-- Whether a blank, a line break or the end is behind some characters. -/
def atSeparator (k : Cursor) (skipped : Nat) : Bool :=
  k.endsOr skipped fun c => isBlank c || isBreak c

/-- Whether the line or the text is over. -/
def atLineEnd (k : Cursor) : Bool :=
  k.endsOr 0 isBreak

/-- Whether some mark of three characters stands alone at the start of the line. -/
def atMark (k : Cursor) (c : Char) : Bool :=
  k.column == 0 && k.rest.take 3 == [c, c, c] && k.atSeparator 3

/-- Whether the line marks the start or the end of a document. -/
def atDocumentMark (k : Cursor) : Bool :=
  k.atMark '-' || k.atMark '.'

/-- The cursor at the end of the line if there are only blanks and a comment up
to it. -/
def lineRest? (k : Cursor) : Option Cursor :=
  let k := k.pass isBlank
  let k := if k.has 0 (· == '#') then k.pass (fun c => !isBreak c) else k
  if k.atLineEnd then some k else none

end Cursor

end ToolServer.Yaml
