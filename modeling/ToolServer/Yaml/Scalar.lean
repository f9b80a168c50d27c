/-
Scalars of YAML texts:

* `Gap`: the blanks and line breaks between two words, and the text that they
  stand for;
* `Cursor.quoted?`: a scalar between quotes;
* `Cursor.plain?`: a scalar without quotes;
* `Cursor.block?`: the lines below a bar or an angle bracket.

A single line break between words is a space; of several the first is dropped.
-/
import ToolServer.Text.Digits
import ToolServer.Yaml.Cursor

namespace ToolServer.Yaml

/-! ### Gaps -/

/-- What stands between two words of a scalar. -/
structure Gap where
  /-- The blanks, as long as there is no line break. -/
  blanks : List Char := []
  /-- Whether there is a line break. -/
  broken : Bool := false
  /-- The first line break, unless it is escaped. -/
  first : Option Char := none
  /-- The other line breaks. -/
  others : List Char := []

/-- The text that a gap stands for. -/
def Gap.text (g : Gap) : List Char :=
  if !g.broken then g.blanks
  else if g.first = some '\n' then if g.others.isEmpty then [' '] else g.others
  else g.first.toList ++ g.others

/-- The gap at a cursor that continues another, and the cursor behind it. No tab
may stand in front of the column `least` of a later line. -/
def Gap.read (least : Nat) : (fuel : Nat) → Gap → Cursor → Option (Gap × Cursor)
  | 0, _, _ => none
  | fuel + 1, g, k =>
    match k.lineBreak? with
    | some (b, next) =>
      if g.broken then Gap.read least fuel { g with others := g.others ++ [b] } next
      else Gap.read least fuel ⟨[], true, some b, []⟩ next
    | none =>
      match k.rest with
      | c :: _ =>
        if !isBlank c then some (g, k)
        else if g.broken then
          if c == '\t' && k.column < least then none else Gap.read least fuel g (k.advance 1)
        else Gap.read least fuel { g with blanks := g.blanks ++ [c] } (k.advance 1)
      | [] => some (g, k)

/-- The gap at a cursor, of which some may have been read. -/
def Cursor.gap? (k : Cursor) (least : Nat) (before : Gap) : Option (Gap × Cursor) :=
  Gap.read least (k.rest.length + 1) before k

/-! ### Quotes -/

/-- The character with a code point, which surrogates have not. -/
def charOf? (n : Nat) : Option Char :=
  if n.isValidChar then some (Char.ofNat n) else none

/-- The character that a letter behind a backslash stands for. -/
def namedEscape? (c : Char) : Option Char :=
  ([('0', '\x00'), ('a', '\x07'), ('b', '\x08'), ('t', '\t'), ('\t', '\t'), ('n', '\n'),
    ('v', '\x0b'), ('f', '\x0c'), ('r', '\r'), ('e', '\x1b'), (' ', ' '), ('"', '"'),
    ('/', '/'), ('\\', '\\'), ('N', '\u0085'), ('_', '\u00a0'), ('L', '\u2028'),
    ('P', '\u2029')].find? fun e => e.1 == c).map (·.2)

/-- The number of digits that a letter behind a backslash asks for. -/
def escapeDigits? (c : Char) : Option Nat :=
  ([('x', 2), ('u', 4), ('U', 8)].find? fun e => e.1 == c).map (·.2)

/-- The character that the escape behind a backslash stands for, and the number
of characters of the escape. -/
def escape? : List Char → Option (Char × Nat)
  | [] => none
  | c :: rest =>
    match namedEscape? c, escapeDigits? c with
    | some named, _ => some (named, 1)
    | none, some count =>
      let digits := rest.take count
      if digits.length < count then none
      else ((Text.ofDigits? 16 digits).bind charOf?).map fun named => (named, count + 1)
    | none, none => none

/-- The text up to the closing quote, and the cursor behind the quote. `done` is
the text so far, last character first. -/
def quotedFrom (single : Bool) : (fuel : Nat) → Cursor → (done : List Char) →
    Option (List Char × Cursor)
  | 0, _, _ => none
  | fuel + 1, k, done =>
    if k.atDocumentMark then none
    else match k.rest with
      | [] => none
      | c :: rest =>
        if isBlank c || isBreak c then
          match k.gap? 0 {} with
          | some (g, k) => quotedFrom single fuel k (g.text.reverse ++ done)
          | none => none
        else if single then
          if c != '\'' then quotedFrom single fuel (k.advance 1) (c :: done)
          else if rest.head? == some '\'' then
            quotedFrom single fuel (k.advance 2) (c :: done)
          else some (done.reverse, k.advance 1)
        else if c == '"' then some (done.reverse, k.advance 1)
        else if c != '\\' then quotedFrom single fuel (k.advance 1) (c :: done)
        else match (k.advance 1).lineBreak? with
          | some (_, k) =>
            match k.gap? 0 { broken := true } with
            | some (g, k) => quotedFrom single fuel k (g.text.reverse ++ done)
            | none => none
          | none =>
            match escape? rest with
            | some (e, count) => quotedFrom single fuel (k.advance (1 + count)) (e :: done)
            | none => none

/-- The text of the quoted scalar at a cursor, and the cursor behind it. -/
def Cursor.quoted? (k : Cursor) : Option (List Char × Cursor) :=
  quotedFrom (k.has 0 (· == '\'')) (k.rest.length + 1) (k.advance 1) []

/-! ### Plain scalars -/

/-- Whether the character at a cursor ends a word of a plain scalar. -/
def endsPlain (inFlow : Bool) (k : Cursor) : Bool :=
  (k.has 0 (· == ':') && k.atSeparator 1)
    || (inFlow && k.has 0 fun c => [',', '[', ']', '\x7b', '\x7d'].contains c)

/-- Whether a colon stands right in front of a sign of a flow collection. -/
def colonInFlow (inFlow : Bool) (k : Cursor) : Bool :=
  inFlow && k.has 0 (· == ':')
    && k.has 1 fun c => [',', '?', '[', ']', '\x7b', '\x7d'].contains c

/-- The text of a plain scalar, the cursor behind it and the blanks that follow,
and whether a line break is among these. `least` is the first column of later
lines; `gap` is what stands between the word in front and the cursor. -/
def plainFrom (inFlow : Bool) (least : Nat) : (fuel : Nat) → Cursor → (gap : Option Gap) →
    (done : List Char) → Option (List Char × Cursor × Bool)
  | 0, _, _, _ => none
  | fuel + 1, k, gap, done =>
    let ended := some (done.reverse, k, gap.any (·.broken))
    if gap.isSome && (k.atDocumentMark || k.has 0 (· == '#')) then ended
    else match k.rest with
      | [] => ended
      | c :: _ =>
        if isBlank c || isBreak c then
          match k.gap? least {} with
          | none => none
          | some (g, next) =>
            if !inFlow && next.column < least then some (done.reverse, next, g.broken)
            else plainFrom inFlow least fuel next (some g) done
        else if colonInFlow inFlow k then none
        else if endsPlain inFlow k then ended
        else
          let before := (gap.map Gap.text).getD []
          plainFrom inFlow least fuel (k.advance 1) none (c :: (before.reverse ++ done))

/-- The plain scalar at a cursor: its text, the cursor behind it and the blanks
that follow, and whether a line break is among these. -/
def Cursor.plain? (k : Cursor) (inFlow : Bool) (least : Nat) :
    Option (List Char × Cursor × Bool) :=
  plainFrom inFlow least (2 * k.rest.length + 1) k none []

/-! ### Blocks of lines -/

/-- What becomes of the line breaks at the end of a block. -/
inductive Chomping
  | strip | clip | keep
  deriving DecidableEq, Repr

/-- The sign of a way to treat the last line breaks. -/
def chomping? (c : Char) : Option Chomping :=
  if c == '+' then some .keep else if c == '-' then some .strip else none

/-- The indentation that a digit asks for. -/
def indentation? (c : Char) : Option Nat :=
  if c.isDigit then some (c.toNat - 48) else none

/-- The signs at the head of a block: the indentation if it is given, the way to
treat the last line breaks, and the cursor behind them. -/
def blockHead? (k : Cursor) : Option (Option Nat × Chomping × Cursor) :=
  let (indentation, chomping, k) :=
    match k.rest.map indentation?, k.rest.map chomping? with
    | some n :: _, _ :: some c :: _ => (some n, some c, k.advance 2)
    | some n :: _, _ => (some n, none, k.advance 1)
    | _ :: some n :: _, some c :: _ => (some n, some c, k.advance 2)
    | _, some c :: _ => (none, some c, k.advance 1)
    | _, _ => (none, none, k)
  if indentation = some 0 then none
  else k.lineRest?.map fun k =>
    (indentation, chomping.getD .clip, (k.lineBreak?.map (·.2)).getD k)

/-- Passes empty lines. The column of the text, if it is known, is `column?`; the
breaks of the lines passed, the farthest column and the cursor are returned. -/
def emptyLines (column? : Option Nat) : (fuel : Nat) → Cursor → (breaks : List Char) →
    (farthest : Nat) → Option (List Char × Nat × Cursor)
  | 0, _, _, _ => none
  | fuel + 1, k, breaks, farthest =>
    let spaces := (k.run (· == ' ')).length
    let k := k.advance ((column?.map fun n => min spaces (n - k.column)).getD spaces)
    let farthest := max farthest k.column
    if column?.all (fun n => k.column < n) && k.has 0 (· == '\t') then none
    else match k.lineBreak? with
      | some (b, next) => emptyLines column? fuel next (breaks ++ [b]) farthest
      | none => some (breaks, farthest, k)

/-- The lines of a block from a cursor on. `before` is the break of the line in
front, `breaks` are those of the empty lines behind it, and `indented` says
whether the line in front starts with a blank. -/
def blockFrom (literal : Bool) (chomping : Chomping) (column : Nat) : (fuel : Nat) → Cursor →
    (before : Option Char) → (breaks : List Char) → (indented : Bool) → (done : List Char) →
    Option (List Char × Cursor)
  | 0, _, _, _, _, _ => none
  | fuel + 1, k, before, breaks, indented, done =>
    if k.column != column || k.rest.isEmpty then
      let last := if chomping = .strip then [] else before.toList
      let others := if chomping = .keep then breaks else []
      some (done ++ last ++ others, k)
    else
      let joined :=
        if !literal && before = some '\n' && !indented && !k.atBlank then
          if breaks.isEmpty then [' '] else breaks
        else before.toList ++ breaks
      let line := k.run fun c => !isBreak c
      let next := k.advance line.length
      let (after, next) := match next.lineBreak? with
        | some (b, next) => (some b, next)
        | none => (none, next)
      match emptyLines (some column) (next.rest.length + 1) next [] 0 with
      | none => none
      | some (breaks, _, next) =>
        blockFrom literal chomping column fuel next after breaks k.atBlank
          (done ++ joined ++ line)

/-- The text of the block whose sign is at a cursor, and the cursor behind it.
`least` is the first column that the lines may have. -/
def Cursor.block? (k : Cursor) (least : Nat) : Option (List Char × Cursor) := do
  let literal := k.has 0 (· == '|')
  let (indentation, chomping, k) ← blockHead? (k.advance 1)
  let column? := indentation.map (least - 1 + ·)
  let (breaks, farthest, k) ← emptyLines column? (k.rest.length + 1) k [] 0
  let column := column?.getD (max farthest (max least 1))
  blockFrom literal chomping column (k.rest.length + 1) k none breaks false []

end ToolServer.Yaml
