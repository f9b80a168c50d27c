/-
The tokens of YAML texts:

* `Token`: the signs, names and scalars of a text, with marks for the starts and
  ends of collections that only indentation shows;
* `Scan`: a scan on its way;
* `Token.ofText?`: the tokens of a text.

A key has no sign of its own: only the colon behind it shows that it is one. So
the place of every possible key is kept until the line is over, and the marks of
a key and of the mapping that it starts are put in front of it later.
-/
import ToolServer.Yaml.Scalar

namespace ToolServer.Yaml

/-! ### Tokens -/

/-- A part of a text. -/
inductive Token
  /-- A directive for the version of the language. -/
  | version (number : List Char)
  /-- A directive for a handle of tags. -/
  | handle (name : List Char)
  | documentStart
  | documentEnd
  /-- The start of a sequence or a mapping that indentation shows. -/
  | sequenceStart
  | mappingStart
  /-- The end of a collection that indentation shows. -/
  | blockEnd
  /-- The brackets and braces of flow collections. -/
  | openBracket
  | closeBracket
  | openBrace
  | closeBrace
  /-- The dash in front of an item. -/
  | dash
  | comma
  /-- The place in front of a key. -/
  | key
  /-- The colon in front of a value. -/
  | colon
  | anchor (name : List Char)
  | alias (name : List Char)
  /-- A tag, with the handle in it. -/
  | tag (handle : List Char)
  | scalar (isPlain : Bool) (text : List Char)
  deriving DecidableEq, Repr

/-! ### Scans -/

/-- A place where a key may have started. -/
structure KeyPlace where
  /-- The number of tokens in front of the key. -/
  position : Nat
  /-- The place of the key in the text. -/
  cursor : Cursor
  /-- Whether the line can be nothing but a key. -/
  required : Bool

/-- A scan on its way. -/
structure Scan where
  /-- What is left of the text. -/
  cursor : Cursor
  /-- The tokens so far. -/
  tokens : Array Token := #[]
  /-- The columns of the open block collections, innermost first. -/
  columns : List Nat := []
  /-- Whether a key may start here. -/
  keyAllowed : Bool := true
  /-- The place where a key of the innermost flow collection may have started. -/
  candidate : Option KeyPlace := none
  /-- The same for the collections around it, up to the block collections. -/
  outer : List (Option KeyPlace) := []

namespace Scan

/-- Whether the scan is inside a flow collection. -/
def inFlow (s : Scan) : Bool :=
  !s.outer.isEmpty

/-- The first column of what belongs to the innermost block collection. -/
def least (s : Scan) : Nat :=
  (s.columns.head?.map (· + 1)).getD 0

/-- Appends a token. -/
def emit (s : Scan) (t : Token) : Scan :=
  { s with tokens := s.tokens.push t }

/-- Puts a token in front of the tokens from some position on. -/
def insert (s : Scan) (position : Nat) (t : Token) : Scan :=
  { s with tokens := s.tokens.take position ++ #[t] ++ s.tokens.drop position }

/-- Gives up the place of a key, unless a key is required there. -/
def dropKey (s : Scan) : Option Scan :=
  if s.candidate.any (·.required) then none else some { s with candidate := none }

/-- Notes that a key may start here. -/
def noteKey (s : Scan) : Option Scan :=
  if !s.keyAllowed then some s
  else s.dropKey.map fun s =>
    { s with
      candidate := some ⟨s.tokens.size, s.cursor,
        !s.inFlow && s.columns.head? = some s.cursor.column⟩ }

/-- The places of keys without those that the scan has left behind: a key ends on
its line and within 1024 characters. -/
def dropStale (s : Scan) : Option Scan := do
  let isStale (p : KeyPlace) : Bool :=
    p.cursor.line < s.cursor.line || p.cursor.index + 1024 < s.cursor.index
  let fresh (place : Option KeyPlace) : Option (Option KeyPlace) :=
    match place with
    | some p => if isStale p then if p.required then none else some none else some (some p)
    | none => some none
  return { s with candidate := ← fresh s.candidate, outer := ← s.outer.mapM fresh }

/-- Starts a block collection at a column, unless one is open there; its mark
goes in front of the tokens from some position on. -/
def openBlock (s : Scan) (column position : Nat) (mark : Token) : Scan :=
  if s.inFlow || column < s.least then s
  else { s.insert position mark with columns := column :: s.columns }

/-- Ends the block collections that are open from a column on. -/
def closeBlocks (s : Scan) (column : Nat) : Scan :=
  if s.inFlow then s
  else
    let inner := s.columns.takeWhile (column ≤ ·)
    { s with
      tokens := s.tokens ++ Array.replicate inner.length .blockEnd
      columns := s.columns.drop inner.length }

/-- Moves behind some characters and appends a token. -/
def take (s : Scan) (count : Nat) (t : Token) : Scan :=
  { s.emit t with cursor := s.cursor.advance count }

/-! ### Blanks and comments -/

/-- Passes blanks, comments and line breaks. A tab is no blank where a key may
start in a block. -/
def passBlanks : (fuel : Nat) → Scan → Scan
  | 0, s => s
  | fuel + 1, s =>
    let isSpace (c : Char) : Bool := c == ' ' || ((s.inFlow || !s.keyAllowed) && c == '\t')
    let k := s.cursor.pass isSpace
    let k := if k.has 0 (· == '#') then k.pass (fun c => !isBreak c) else k
    match k.lineBreak? with
    | some (_, next) =>
      passBlanks fuel { s with cursor := next, keyAllowed := s.keyAllowed || !s.inFlow }
    | none => { s with cursor := k }

/-! ### Directives, names and tags -/

/-- A directive: a version, or a handle for tags with what it stands for. -/
def directive (s : Scan) : Option Scan := do
  let s ← (s.closeBlocks 0).dropKey
  let k := s.cursor.advance 1
  let name := k.run isNameChar
  let k := (k.pass isNameChar).pass isBlank
  let word := k.run fun c => !isBlank c && !isBreak c
  let k := k.advance word.length
  let s := { s with keyAllowed := false }
  if name = "YAML".toList then
    let k ← k.lineRest?
    return { s.emit (.version word) with cursor := k }
  else if name = "TAG".toList && word.head? = some '!' && k.atBlank then
    let k := k.pass isBlank
    let k ← (k.pass fun c => !isBlank c && !isBreak c).lineRest?
    return { s.emit (.handle word) with cursor := k }
  else none

/-- The mark of the start or the end of a document. -/
def documentMark (s : Scan) (t : Token) : Option Scan := do
  let s ← (s.closeBlocks 0).dropKey
  return { s.take 3 t with keyAllowed := false }

/-- An anchor or an alias. -/
def named (s : Scan) (token : List Char → Token) : Option Scan := do
  let s ← s.noteKey
  let k := s.cursor.advance 1
  let name := k.run isNameChar
  let next := k.advance name.length
  let ends := next.atSeparator 0
    || next.has 0 fun c => ['?', ':', ',', ']', '\x7d', '%', '@', '\x60'].contains c
  if name.isEmpty || !ends then none
  else return { s.emit (token name) with cursor := next, keyAllowed := false }

/-- Whether a character may stand in the name of a tag. -/
def isTagChar (c : Char) : Bool :=
  isNameChar c || ";/?:@&=+$.!~*'()%".toList.contains c

/-- A tag. -/
def tag (s : Scan) : Option Scan := do
  let s ← s.noteKey
  let k := s.cursor.advance 1
  let (handle, next) ←
    if k.has 0 (· == '<') then
      let next := (k.advance 1).pass fun c => isTagChar c || [',', '[', ']'].contains c
      if next.index = k.index + 1 || !next.has 0 (· == '>') then none
      else pure ([], next.advance 1)
    else
      let name := k.run isNameChar
      let behind := k.advance name.length
      if behind.has 0 (· == '!') then
        let next := (behind.advance 1).pass isTagChar
        if next.index = behind.index + 1 then none
        else pure ('!' :: name ++ ['!'], next)
      else pure (['!'], k.pass isTagChar)
  if next.atSeparator 0 || (s.inFlow && next.has 0 (· == ',')) then
    return { s.emit (.tag handle) with cursor := next, keyAllowed := false }
  else none

/-! ### Signs -/

/-- The start of a flow collection. -/
def openFlow (s : Scan) (t : Token) : Option Scan := do
  let s ← s.noteKey
  return { s.take 1 t with
    keyAllowed := true, candidate := none, outer := s.candidate :: s.outer }

/-- The end of a flow collection. -/
def closeFlow (s : Scan) (t : Token) : Option Scan := do
  let s ← s.dropKey
  let s := { s.take 1 t with keyAllowed := false }
  match s.outer with
  | place :: outer => return { s with candidate := place, outer := outer }
  | [] => return s

/-- The comma between the items of a flow collection. -/
def comma (s : Scan) : Option Scan := do
  let s ← s.dropKey
  return { s.take 1 .comma with keyAllowed := true }

/-- The dash in front of an item. -/
def dash (s : Scan) : Option Scan := do
  if !s.inFlow && !s.keyAllowed then none
  else
    let s ← (s.openBlock s.cursor.column s.tokens.size .sequenceStart).dropKey
    return { s.take 1 .dash with keyAllowed := true }

/-- The question mark in front of a key. -/
def question (s : Scan) : Option Scan := do
  if !s.inFlow && !s.keyAllowed then none
  else
    let s ← (s.openBlock s.cursor.column s.tokens.size .mappingStart).dropKey
    return { s.take 1 .key with keyAllowed := !s.inFlow }

/-- The colon in front of a value, behind a key or not. -/
def colon (s : Scan) : Option Scan :=
  match s.candidate with
  | some place =>
    let s := (s.insert place.position .key).openBlock place.cursor.column place.position
      .mappingStart
    some { s.take 1 .colon with candidate := none, keyAllowed := false }
  | none =>
    if !s.inFlow && !s.keyAllowed then none
    else
      let s := s.openBlock s.cursor.column s.tokens.size .mappingStart
      some { s.take 1 .colon with keyAllowed := !s.inFlow }

/-! ### Scalars -/

/-- A block of lines. -/
def block (s : Scan) : Option Scan := do
  let s ← s.dropKey
  let (text, k) ← s.cursor.block? s.least
  return { s.emit (.scalar false text) with cursor := k, keyAllowed := true }

/-- A quoted scalar. -/
def quoted (s : Scan) : Option Scan := do
  let s ← s.noteKey
  let (text, k) ← s.cursor.quoted?
  return { s.emit (.scalar false text) with cursor := k, keyAllowed := false }

/-- A scalar without quotes. -/
def plain (s : Scan) : Option Scan := do
  let s ← s.noteKey
  let (text, k, broken) ← s.cursor.plain? s.inFlow s.least
  return { s.emit (.scalar true text) with cursor := k, keyAllowed := broken }

/-- Whether a plain scalar may start here. -/
def startsPlain (s : Scan) : Bool :=
  let k := s.cursor
  let signs := "-?:,[]\x7b\x7d#&*!|>'\"%@\x60".toList
  k.has 0 (fun c => !signs.contains c && !isBlank c)
    || (k.has 0 (· == '-') && !k.has 1 isBlank)
    || (!s.inFlow && k.has 0 (fun c => c == '?' || c == ':') && !k.atSeparator 1)

/-! ### The whole text -/

/-- The next token. -/
def step (s : Scan) (c : Char) : Option Scan :=
  let k := s.cursor
  let single := s.inFlow || k.atSeparator 1
  if k.column = 0 && c = '%' then s.directive
  else if k.atMark '-' then s.documentMark .documentStart
  else if k.atMark '.' then s.documentMark .documentEnd
  else if c = '[' then s.openFlow .openBracket
  else if c = '\x7b' then s.openFlow .openBrace
  else if c = ']' then s.closeFlow .closeBracket
  else if c = '\x7d' then s.closeFlow .closeBrace
  else if c = ',' then s.comma
  else if c = '-' && k.atSeparator 1 then s.dash
  else if c = '?' && single then s.question
  else if c = ':' && single then s.colon
  else if c = '*' then s.named .alias
  else if c = '&' then s.named .anchor
  else if c = '!' then s.tag
  else if (c = '|' || c = '>') && !s.inFlow then s.block
  else if c = '\'' || c = '"' then s.quoted
  else if s.startsPlain then s.plain
  else none

/-- All tokens from a scan on. -/
def finish : (fuel : Nat) → Scan → Option (Array Token)
  | 0, _ => none
  | fuel + 1, s =>
    match (s.passBlanks (s.cursor.rest.length + 1)).dropStale with
    | none => none
    | some s =>
      match s.cursor.rest with
      | [] => (s.closeBlocks 0).dropKey.map (·.tokens)
      | c :: _ =>
        match (s.closeBlocks (s.cursor.column + 1)).step c with
        | some s => finish fuel s
        | none => none

end Scan

/-- The tokens of a text, if it can be split into tokens. -/
def Token.ofText? (text : List Char) : Option (List Token) :=
  let text := if text.head? = some '\uFEFF' then text.tail else text
  if text.all isPrintable then
    (Scan.finish (text.length + 1) { cursor := { rest := text } }).map (·.toList)
  else none

end ToolServer.Yaml
