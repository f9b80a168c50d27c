/-
Reading TOML texts:

* `string?`: a string in one or three quotes;
* `key?`: a dotted key;
* `number?`: numbers, dates and times;
* `value?`: values of all kinds;
* `ofText?`: the document of a whole text, statement by statement.

A reading function takes the characters from some place on and hands back what
it leaves.
-/
import ToolServer.Text.Digits
import ToolServer.Toml.Value

namespace ToolServer.Toml

/-! ### Blanks, comments and line ends -/

/-- A space or a tab. -/
def isBlank (c : Char) : Bool :=
  c == ' ' || c == '\t'

/-- A character that may stand in a line. -/
def isLineChar (c : Char) : Bool :=
  c == '\t' || (0x20 ≤ c.toNat && c.toNat != 0x7F)

/-- The characters from the first one that is not blank. -/
def skipBlanks (cs : List Char) : List Char :=
  cs.dropWhile isBlank

/-- What is behind the line break at the front. -/
def lineBreak? : List Char → Option (List Char)
  | '\n' :: rest => some rest
  | '\r' :: '\n' :: rest => some rest
  | _ => none

/-- What is behind the comment at the front, if there is one. -/
def skipComment : List Char → List Char
  | '#' :: rest => rest.dropWhile isLineChar
  | cs => cs

/-- What is behind the rest of a line that holds no more than a comment. -/
def lineEnd? (cs : List Char) : Option (List Char) :=
  match skipComment (skipBlanks cs) with
  | [] => some []
  | cs => lineBreak? cs

/-- What is behind blanks, comments and line breaks. -/
def skipSpace : (fuel : Nat) → List Char → Option (List Char)
  | 0, _ => none
  | fuel + 1, cs =>
    let cs := skipBlanks cs
    match skipComment cs, lineBreak? (skipComment cs) with
    | _, some rest => skipSpace fuel rest
    | [], none => some []
    | behind, none => if behind.length = cs.length then some cs else none

/-! ### Strings -/

/-- The character whose code point some digits in front spell. -/
def codePoint? (count : Nat) (cs : List Char) : Option (Char × List Char) := do
  let digits := cs.take count
  let n ← Text.ofDigits? 16 digits
  if digits.length = count ∧ n.isValidChar then some (Char.ofNat n, cs.drop count) else none

/-- The character that an escape stands for; the text starts behind the backslash. -/
def escape? : List Char → Option (Char × List Char)
  | 'b' :: rest => some ('\x08', rest)
  | 't' :: rest => some ('\t', rest)
  | 'n' :: rest => some ('\n', rest)
  | 'f' :: rest => some ('\x0c', rest)
  | 'r' :: rest => some ('\r', rest)
  | '"' :: rest => some ('"', rest)
  | '\\' :: rest => some ('\\', rest)
  | 'u' :: rest => codePoint? 4 rest
  | 'U' :: rest => codePoint? 8 rest
  | _ => none

/-- What is behind blanks and line breaks. -/
def skipLines : (fuel : Nat) → List Char → List Char
  | 0, cs => cs
  | fuel + 1, cs =>
    let cs := skipBlanks cs
    match lineBreak? cs with
    | some rest => skipLines fuel rest
    | none => cs

/-- The end of a string on several lines, of which up to two quotes are text: the
number of these, and what is behind the end. -/
def closing? (quote : Char) (cs : List Char) : Option (Nat × List Char) :=
  let count := (cs.takeWhile (· == quote)).length
  if count < 3 then none
  else some (min count 5 - 3, cs.drop (min count 5))

/-- The text of a string up to its end. `done` is the text so far, last character
first. -/
def stringFrom (quote : Char) (lines : Bool) : (fuel : Nat) → List Char →
    (done : List Char) → Option (List Char × List Char)
  | 0, _, _ => none
  | _, [], _ => none
  | fuel + 1, c :: rest, done =>
    if c == quote then
      if !lines then some (done.reverse, rest)
      else match closing? quote (c :: rest) with
        | some (count, rest) => some (done.reverse ++ List.replicate count quote, rest)
        | none => stringFrom quote lines fuel rest (c :: done)
    else if c == '\\' && quote == '"' then
      match if lines then lineBreak? (skipBlanks rest) else none with
      | some behind => stringFrom quote lines fuel (skipLines (behind.length + 1) behind) done
      | none =>
        match escape? rest with
        | some (e, rest) => stringFrom quote lines fuel rest (e :: done)
        | none => none
    else if isLineChar c then stringFrom quote lines fuel rest (c :: done)
    else match if lines then lineBreak? (c :: rest) else none with
      | some rest => stringFrom quote lines fuel rest ('\n' :: done)
      | none => none

/-- The string in front on one line, behind its quote. -/
def lineString? (quote : Char) (cs : List Char) : Option (List Char × List Char) :=
  stringFrom quote false (cs.length + 1) cs []

/-- The string in front, behind its quote; three quotes start several lines. -/
def string? (quote : Char) (cs : List Char) : Option (List Char × List Char) :=
  if cs.take 2 = [quote, quote] then
    let text := cs.drop 2
    stringFrom quote true (cs.length + 1) ((lineBreak? text).getD text) []
  else lineString? quote cs

/-! ### Keys -/

/-- A character of names without quotes. -/
def isNameChar (c : Char) : Bool :=
  c.isAlphanum || c == '_' || c == '-'

/-- A name, in quotes or not. -/
def name? : List Char → Option (List Char × List Char)
  | '"' :: rest => lineString? '"' rest
  | '\'' :: rest => lineString? '\'' rest
  | cs =>
    let name := cs.takeWhile isNameChar
    if name.isEmpty then none else some (name, cs.drop name.length)

/-- A dotted key: the names in front of the last one, and the last one. -/
def key? : (fuel : Nat) → List Char → Option ((List (List Char) × List Char) × List Char)
  | 0, _ => none
  | fuel + 1, cs =>
    match name? (skipBlanks cs) with
    | none => none
    | some (name, rest) =>
      match skipBlanks rest with
      | '.' :: rest => (key? fuel rest).map fun k => ((name :: k.1.1, k.1.2), k.2)
      | rest => some (([], name), rest)

/-! ### Numbers, dates and times -/

/-- Digits in front, between which there may be single underscores. -/
def digits? (base : Nat) (cs : List Char) : Option (List Char × List Char) :=
  let isPart (c : Char) : Bool := (Text.digitValue? base c).isSome || c == '_'
  let part := cs.takeWhile isPart
  let groups := part.splitOn '_'
  if groups.any List.isEmpty then none else some (groups.flatten, cs.drop part.length)

/-- The whole part of a decimal number: without zeros in front. -/
def whole? : List Char → Option (List Char × List Char)
  | '0' :: rest => some (['0'], rest)
  | cs => digits? 10 cs

/-- What is behind the exponent of a number, whose letter has been read. -/
def exponent? (cs : List Char) : Option (List Char) :=
  let cs := if cs.head? = some '+' || cs.head? = some '-' then cs.tail else cs
  (digits? 10 cs).map (·.2)

/-- What is behind the fraction and the exponent of a number, if it has any. -/
def fraction? : List Char → Option (Option (List Char))
  | '.' :: cs =>
    match digits? 10 cs with
    | some (_, 'e' :: rest) | some (_, 'E' :: rest) => (exponent? rest).map some
    | some (_, rest) => some (some rest)
    | none => none
  | 'e' :: cs | 'E' :: cs => (exponent? cs).map some
  | _ => some none

/-- An integer of 64 bits. -/
def word? (i : Int) : Option Toml :=
  if -0x8000000000000000 ≤ i ∧ i < 0x8000000000000000 then some (.integer i) else none

/-- A decimal number behind its sign. -/
def decimal? (negative : Bool) (cs : List Char) : Option (Toml × List Char) := do
  if cs.take 3 = "inf".toList ∨ cs.take 3 = "nan".toList then return (.fraction, cs.drop 3)
  let (digits, rest) ← whole? cs
  match ← fraction? rest with
  | some rest => return (.fraction, rest)
  | none =>
    let n ← Text.ofDigits? 10 digits
    let i ← word? (if negative then -(n : Int) else n)
    return (i, rest)

/-- A whole number to some base. -/
def based? (base : Nat) (cs : List Char) : Option (Toml × List Char) := do
  let (digits, rest) ← digits? base cs
  let i ← word? (← Text.ofDigits? base digits)
  return (i, rest)

/-- The number that two digits in front spell, if it is within bounds. -/
def twoDigits? (low high : Nat) (cs : List Char) : Option (Nat × List Char) := do
  let n ← Text.ofDigits? 10 (cs.take 2)
  if (cs.take 2).length = 2 ∧ low ≤ n ∧ n ≤ high then return (n, cs.drop 2) else none

/-- The number of days of a month. -/
def daysIn (year month : Nat) : Nat :=
  if month = 2 then
    if year % 4 = 0 ∧ (year % 100 ≠ 0 ∨ year % 400 = 0) then 29 else 28
  else if month = 4 ∨ month = 6 ∨ month = 9 ∨ month = 11 then 30 else 31

/-- What is behind the time of day in front. -/
def time? (cs : List Char) : Option (List Char) := do
  let (_, cs) ← twoDigits? 0 23 cs
  let ':' :: cs := cs | none
  let (_, cs) ← twoDigits? 0 59 cs
  let ':' :: cs := cs | none
  let (_, cs) ← twoDigits? 0 60 cs
  match cs with
  | '.' :: part =>
    let rest := part.dropWhile Char.isDigit
    if rest.length = part.length then none else return rest
  | cs => return cs

/-- What is behind the offset from universal time, if there is one. -/
def offset? : List Char → Option (List Char)
  | 'Z' :: rest | 'z' :: rest => some rest
  | '+' :: cs | '-' :: cs => do
    let (_, cs) ← twoDigits? 0 23 cs
    let ':' :: cs := cs | none
    let (_, cs) ← twoDigits? 0 59 cs
    return cs
  | cs => some cs

/-- What is behind the date and the time in front. -/
def date? (cs : List Char) : Option (List Char) := do
  let year ← Text.ofDigits? 10 (cs.take 4)
  let (month, cs) ← twoDigits? 1 12 (cs.drop 5)
  let '-' :: cs := cs | none
  let (_, cs) ← twoDigits? 1 (daysIn year month) cs
  match cs with
  | 'T' :: after | 't' :: after => offset? (← time? after)
  | ' ' :: after => if after.head?.any Char.isDigit then offset? (← time? after) else return cs
  | _ => return cs

/-- Whether some digits in front have a sign behind them. -/
def startsWith (count : Nat) (sign : Char) (cs : List Char) : Bool :=
  (cs.take count).length == count && (cs.take count).all Char.isDigit
    && (cs.drop count).head? == some sign

/-- A number, a date or a time. -/
def number? (cs : List Char) : Option (Toml × List Char) :=
  if startsWith 4 '-' cs then (date? cs).map fun rest => (.moment, rest)
  else if startsWith 2 ':' cs then (time? cs).map fun rest => (.moment, rest)
  else match cs with
    | '0' :: 'x' :: rest => based? 16 rest
    | '0' :: 'o' :: rest => based? 8 rest
    | '0' :: 'b' :: rest => based? 2 rest
    | '+' :: rest => decimal? false rest
    | '-' :: rest => decimal? true rest
    | cs => decimal? false cs

/-! ### Values -/

mutual

/-- The value in front. -/
def value? : (fuel : Nat) → List Char → Option (Toml × List Char)
  | 0, _ => none
  | fuel + 1, cs =>
    match cs with
    | '"' :: rest => (string? '"' rest).map fun s => (.string s.1, s.2)
    | '\'' :: rest => (string? '\'' rest).map fun s => (.string s.1, s.2)
    | '[' :: rest => (items? fuel rest).map fun s => (.array s.1, s.2)
    | '\x7b' :: rest =>
      match skipBlanks rest with
      | '\x7d' :: rest => some (.table .closed [], rest)
      | rest => (entries? fuel rest []).map fun s => (.table .closed s.1, s.2)
    | 't' :: 'r' :: 'u' :: 'e' :: rest => some (.bool true, rest)
    | 'f' :: 'a' :: 'l' :: 's' :: 'e' :: rest => some (.bool false, rest)
    | cs => number? cs

/-- The items of an array up to its bracket. -/
def items? : (fuel : Nat) → List Char → Option (List Toml × List Char)
  | 0, _ => none
  | fuel + 1, cs => do
    match ← skipSpace (cs.length + 1) cs with
    | ']' :: rest => return ([], rest)
    | cs =>
      let (item, rest) ← value? fuel cs
      match ← skipSpace (rest.length + 1) rest with
      | ',' :: rest =>
        let (items, rest) ← items? fuel rest
        return (item :: items, rest)
      | ']' :: rest => return ([item], rest)
      | _ => none

/-- The entries of a table that is a value, up to its brace. -/
def entries? : (fuel : Nat) → List Char → List (List Char × Toml) →
    Option (List (List Char × Toml) × List Char)
  | 0, _, _ => none
  | fuel + 1, cs, done => do
    let ((path, key), rest) ← key? (cs.length + 1) cs
    let '=' :: rest := skipBlanks rest | none
    let (value, rest) ← value? fuel (skipBlanks rest)
    let done ← insert? key value path done
    match skipBlanks rest with
    | ',' :: rest => entries? fuel rest done
    | '\x7d' :: rest => return (done, rest)
    | _ => none

end

/-! ### Documents -/

/-- A document on its way: what stands in it, and the names of the table that the
next values go to. -/
structure Draft where
  entries : List (List Char × Toml) := []
  current : List (List Char) := []

/-- The header or the value in front, behind the blanks of its line. -/
def statement? (d : Draft) (cs : List Char) : Option (Draft × List Char) := do
  match cs with
  | '[' :: '[' :: rest =>
    let ((path, key), rest) ← key? (cs.length + 1) rest
    let ']' :: ']' :: rest := rest | none
    return (⟨← extend? path key d.entries, path ++ [key]⟩, rest)
  | '[' :: rest =>
    let ((path, key), rest) ← key? (cs.length + 1) rest
    let ']' :: rest := rest | none
    return (⟨← section? path key d.entries, path ++ [key]⟩, rest)
  | cs =>
    let ((path, key), rest) ← key? (cs.length + 1) cs
    let '=' :: rest := rest | none
    let (value, rest) ← value? (2 * cs.length + 2) (skipBlanks rest)
    return ({ d with entries := ← within? (insert? key value path) d.current d.entries }, rest)

/-- The document that the lines make of a draft. -/
def lines? : (fuel : Nat) → Draft → List Char → Option Draft
  | 0, _, _ => none
  | fuel + 1, d, cs =>
    match skipBlanks cs with
    | [] => some d
    | c :: rest => do
      if c = '#' ∨ c = '\n' ∨ c = '\r' then lines? fuel d (← lineEnd? (c :: rest))
      else
        let (d, rest) ← statement? d (c :: rest)
        lines? fuel d (← lineEnd? rest)

/-- The document that a text is, a byte order mark in front of it apart. -/
def ofText? (text : List Char) : Option Toml :=
  let text := if text.head? = some '\uFEFF' then text.tail else text
  (lines? (text.length + 1) {} text).map fun d => .table .named d.entries

end ToolServer.Toml
