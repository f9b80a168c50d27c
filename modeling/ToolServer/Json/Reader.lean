/-
Reading JSON text:

* `Json.Cause`, `Json.Fault`: why a text is no JSON, and the line and column
  of the byte last looked at;
* `readString`, `readNumber`, `readRaw`: what stands at the front of a byte
  string, and what follows it;
* `readAsWritten`, `read`: the value of a whole text.

A reading function that fails hands back the bytes behind the fault, so a
position is computed once, from the length of what was read. Containers may be
nested `maxNesting` deep.
-/
import ToolServer.Json.Value
import ToolServer.Text.Digits
import ToolServer.Text.Utf8

namespace ToolServer.Json

open ToolServer.Text (Bytes)

/-! ### Faults -/

/-- Why a text is no JSON. -/
inductive Cause
  | endInValue
  | endInList
  | endInObject
  | endInString
  | expectedColon
  | expectedCommaOrBracket
  | expectedCommaOrBrace
  | expectedWord
  | expectedValue
  | invalidEscape
  | invalidNumber
  | numberOutOfRange
  | invalidText
  | controlInString
  | keyNotString
  | loneSurrogate
  | endOfHexEscape
  | trailingComma
  | trailingCharacters
  | tooDeep
  deriving Repr, DecidableEq

/-- The cause in words. -/
def Cause.message : Cause → String
  | .endInValue => "EOF while parsing a value"
  | .endInList => "EOF while parsing a list"
  | .endInObject => "EOF while parsing an object"
  | .endInString => "EOF while parsing a string"
  | .expectedColon => "expected `:`"
  | .expectedCommaOrBracket => "expected `,` or `]`"
  | .expectedCommaOrBrace => "expected `,` or `\x7d`"
  | .expectedWord => "expected ident"
  | .expectedValue => "expected value"
  | .invalidEscape => "invalid escape"
  | .invalidNumber => "invalid number"
  | .numberOutOfRange => "number out of range"
  | .invalidText => "invalid unicode code point"
  | .controlInString => "control character (\\u0000-\\u001F) found while parsing a string"
  | .keyNotString => "key must be a string"
  | .loneSurrogate => "lone leading surrogate in hex escape"
  | .endOfHexEscape => "unexpected end of hex escape"
  | .trailingComma => "trailing comma"
  | .trailingCharacters => "trailing characters"
  | .tooDeep => "recursion limit exceeded"

/-- Why and where a text is no JSON. -/
structure Fault where
  /-- What is wrong. -/
  cause : Cause
  /-- The line of the byte last looked at, counted from one. -/
  line : Nat
  /-- The number of bytes of that line up to and with that byte. -/
  column : Nat
  deriving Repr, DecidableEq

/-- The fault in words. -/
def Fault.message (f : Fault) : String :=
  s!"{f.cause.message} at line {f.line} column {f.column}"

/-- A fault on the way: its cause, and the bytes behind it. -/
structure Stop where
  /-- What is wrong. -/
  cause : Cause
  /-- The bytes after the one last looked at. -/
  rest : Bytes

/-- A fault behind the bytes read so far. -/
def fail {α : Type} (cause : Cause) (rest : Bytes) : Except Stop α :=
  .error ⟨cause, rest⟩

/-- A fault at the next byte, if there is one. -/
def failAtNext {α : Type} (cause : Cause) (rest : Bytes) : Except Stop α :=
  .error ⟨cause, rest.drop 1⟩

/-- The line and column behind the bytes `before`. -/
def position (before : Bytes) : Nat × Nat :=
  (1 + before.count 0x0A, (before.reverse.takeWhile (· != 0x0A)).length)

/-- The fault of a text, seen from its beginning. -/
def Stop.locate (input : Bytes) (s : Stop) : Fault :=
  let place := position (input.take (input.length - s.rest.length))
  ⟨s.cause, place.1, place.2⟩

/-! ### Blanks and words -/

/-- The bytes that may stand between the parts of a text. -/
def isBlankByte (b : UInt8) : Bool :=
  b == 0x20 || b == 0x0A || b == 0x09 || b == 0x0D

/-- The bytes from the first one that is not blank. -/
def skipBlanks (input : Bytes) : Bytes :=
  input.dropWhile isBlankByte

/-- Reads the letters of a word, giving `value`. -/
def readWord (value : Json) : (letters : Bytes) → Bytes → Except Stop (Json × Bytes)
  | [], input => .ok (value, input)
  | _ :: _, [] => fail .endInValue []
  | l :: letters, b :: rest =>
    if b == l then readWord value letters rest else fail .expectedWord rest

/-! ### Strings -/

/-- The value of four hexadecimal digits. -/
def fourHex? (a b c d : UInt8) : Option Nat :=
  match Text.hexByte? a, Text.hexByte? b, Text.hexByte? c, Text.hexByte? d with
  | some a, some b, some c, some d => some (((a * 16 + b) * 16 + c) * 16 + d)
  | _, _, _, _ => none

/-- The number that four hexadecimal digits at the front spell. -/
def readFourHex : Bytes → Except Stop (Nat × Bytes)
  | a :: b :: c :: d :: rest =>
    match fourHex? a b c d with
    | some n => .ok (n, rest)
    | none => fail .invalidEscape rest
  | _ => fail .endInString []

/-- The character that stands for itself behind a backslash or is named by a
letter there. -/
def simpleEscape? (b : UInt8) : Option Char :=
  if b == 0x22 then some '"'
  else if b == 0x5C then some '\\'
  else if b == 0x2F then some '/'
  else if b == 0x62 then some '\x08'
  else if b == 0x66 then some '\x0c'
  else if b == 0x6E then some '\n'
  else if b == 0x72 then some '\r'
  else if b == 0x74 then some '\t'
  else none

/-- Whether a number is the first half of a pair of surrogates. -/
def isLeading (n : Nat) : Bool :=
  0xD800 ≤ n && n ≤ 0xDBFF

/-- Whether a number is the second half of a pair of surrogates. -/
def isTrailing (n : Nat) : Bool :=
  0xDC00 ≤ n && n ≤ 0xDFFF

/-- The character behind a first half of a pair, which only a second half may
follow. -/
def readPair (lead : Nat) : Bytes → Except Stop (Char × Bytes)
  | [] => fail .endInString []
  | b :: rest =>
    if b != 0x5C then fail .endOfHexEscape rest
    else match rest with
      | [] => fail .endInString []
      | u :: rest =>
        if u != 0x75 then fail .endOfHexEscape rest
        else do
          let (trail, rest) ← readFourHex rest
          if isTrailing trail then
            .ok (Char.ofNat ((lead - 0xD800) * 0x400 + (trail - 0xDC00) + 0x10000), rest)
          else fail .loneSurrogate rest

/-- The character that an escape names; `input` starts behind the backslash. -/
def readEscape (input : Bytes) : Except Stop (Char × Bytes) :=
  match input with
  | [] => fail .endInString []
  | b :: rest =>
    match simpleEscape? b with
    | some c => .ok (c, rest)
    | none =>
      if b == 0x75 then do
        let (n, rest) ← readFourHex rest
        if isTrailing n then fail .loneSurrogate rest
        else if isLeading n then readPair n rest
        else .ok (Char.ofNat n, rest)
      else fail .invalidEscape rest

/-- Reads the bytes that a string stands for, up to its closing quote. `done` holds
the bytes so far, last first; `fuel` bounds the number of characters. -/
def readStringFrom : (fuel : Nat) → (done : Bytes) → Bytes → Except Stop (Bytes × Bytes)
  | 0, _, _ => fail .endInString []
  | _ + 1, _, [] => fail .endInString []
  | fuel + 1, done, b :: rest =>
    if b == 0x22 then .ok (done.reverse, rest)
    else if b == 0x5C then do
      let (c, rest) ← readEscape rest
      readStringFrom fuel ((Text.encodeChar c).reverse ++ done) rest
    else if b < 0x20 then fail .controlInString rest
    else readStringFrom fuel (b :: done) rest

/-- The bytes behind the first one of a string that belongs to no character. -/
def behindFault (input : Bytes) (length : Nat) : Bytes :=
  match Text.decode? (input.take length) with
  | .error fault => input.drop (fault.index + 1)
  | .ok _ => input.drop length

/-- Reads a string; `input` starts behind the opening quote. -/
def readString (input : Bytes) : Except Stop (String × Bytes) := do
  let (bytes, rest) ← readStringFrom (input.length + 1) [] input
  match Text.stringOf? bytes with
  | some s => .ok (s, rest)
  | none => fail .invalidText (behindFault input (input.length - rest.length - 1))

/-! ### Numbers -/

/-- Whether a byte is a decimal digit. -/
def isDigit (b : UInt8) : Bool :=
  0x30 ≤ b && b ≤ 0x39

/-- The value of a decimal digit. -/
def digitValue (b : UInt8) : Nat :=
  b.toNat - 0x30

/-- The leading digits of a number: as many as 64 bits hold, and the number of
digits in front of the point that did not fit. -/
structure Significand where
  /-- The digits that fit, read as a number. -/
  value : Nat
  /-- The power of ten that belongs to the last of them. -/
  exponent : Int
  /-- Whether every digit so far has fitted. -/
  complete : Bool

/-- Takes in a digit in front of the point. -/
def Significand.pushInteger (s : Significand) (b : UInt8) : Significand :=
  let next := s.value * 10 + digitValue b
  if s.complete && next < 0x10000000000000000 then { s with value := next }
  else ⟨s.value, s.exponent + 1, false⟩

/-- Takes in a digit behind the point. One that does not fit ends the digits
that count. -/
def Significand.pushFraction (s : Significand) (b : UInt8) : Significand :=
  let next := s.value * 10 + digitValue b
  if s.complete && next < 0x10000000000000000 then ⟨next, s.exponent - 1, true⟩
  else { s with complete := false }

/-- The floating-point number of a significand and an exponent. -/
def Significand.toNumber (negative : Bool) (s : Significand) (exponent : Int)
    (rest : Bytes) : Except Stop (Number × Bytes) :=
  match Binary64.ofParts s.value.toUInt64 (s.exponent + exponent) with
  | some x => .ok (.float (if negative then x.neg else x), rest)
  | none => fail .numberOutOfRange rest

/-- The largest exponent that is read. -/
def maxExponent : Nat := 0x7FFFFFFF

/-- The value of the digits of an exponent, or the bytes behind the digit with
which it passes `maxExponent`. -/
def exponentOf : (value : Nat) → Bytes → Except Bytes (Nat × Bytes)
  | value, [] => .ok (value, [])
  | value, b :: rest =>
    if isDigit b then
      let next := value * 10 + digitValue b
      if next ≤ maxExponent then exponentOf next rest else .error rest
    else .ok (value, b :: rest)

/-- Reads the exponent of a number; `input` starts behind the mark. -/
def readExponent (negative : Bool) (s : Significand) (input : Bytes) :
    Except Stop (Number × Bytes) :=
  let (positive, digits) :=
    match input with
    | 0x2B :: rest => (true, rest)
    | 0x2D :: rest => (false, rest)
    | _ => (true, input)
  match digits with
  | [] => fail .endInValue []
  | b :: rest =>
    if isDigit b then
      match exponentOf 0 digits with
      | .ok (e, rest) => s.toNumber negative (if positive then e else -(e : Int)) rest
      | .error rest =>
        if s.value != 0 && positive then fail .numberOutOfRange rest
        else
          .ok (.float (if negative then Binary64.zero.neg else Binary64.zero),
            rest.dropWhile isDigit)
    else fail .invalidNumber rest

/-- Reads what may follow the digits of a number: an exponent or nothing. -/
def readScale (negative : Bool) (s : Significand) (input : Bytes) : Except Stop (Number × Bytes) :=
  match input with
  | b :: rest =>
    if b == 0x65 || b == 0x45 then readExponent negative s rest
    else s.toNumber negative 0 input
  | [] => s.toNumber negative 0 []

/-- Reads the fraction of a number; `input` starts behind the point. -/
def readFraction (negative : Bool) (s : Significand) (input : Bytes) :
    Except Stop (Number × Bytes) :=
  let digits := input.takeWhile isDigit
  let rest := input.dropWhile isDigit
  if digits.isEmpty then
    failAtNext (if rest.isEmpty then .endInValue else .invalidNumber) rest
  else readScale negative (digits.foldl .pushFraction s) rest

/-- The number that digits alone spell. -/
def wholeNumber (negative : Bool) (n : Nat) : Number :=
  if negative then
    if h : 0 < n ∧ n ≤ 0x8000000000000000 then .negative ⟨n - 1, by omega⟩
    else .float (Binary64.ofNat64 n.toUInt64).neg
  else .natural n.toUInt64

/-- Reads what follows the integral digits of a number. -/
def readAfterInteger (negative : Bool) (s : Significand) (input : Bytes) :
    Except Stop (Number × Bytes) :=
  match input with
  | 0x2E :: rest => readFraction negative s rest
  | _ =>
    if s.complete && !(input.head?.any fun b => b == 0x65 || b == 0x45) then
      .ok (wholeNumber negative s.value, input)
    else readScale negative s input

/-- Reads a number without its sign. -/
def readNumber (negative : Bool) (input : Bytes) : Except Stop (Number × Bytes) :=
  match input with
  | [] => fail .endInValue []
  | b :: rest =>
    if b == 0x30 then
      if rest.head?.any isDigit then failAtNext .invalidNumber rest
      else readAfterInteger negative ⟨0, 0, true⟩ rest
    else if isDigit b then
      readAfterInteger negative
        ((input.takeWhile isDigit).foldl .pushInteger ⟨0, 0, true⟩)
        (input.dropWhile isDigit)
    else fail .invalidNumber rest

/-! ### Values -/

/-- Reads the items of an array up to its closing bracket. `done` holds the
items so far, last first; `fuel` bounds their number. -/
def readItems (item : Bytes → Except Stop (Json × Bytes)) :
    (fuel : Nat) → (done : List Json) → Bytes → Except Stop (Json × Bytes)
  | 0, _, input => fail .endInList input
  | fuel + 1, done, input =>
    match skipBlanks input with
    | [] => fail .endInList []
    | b :: rest =>
      if b == 0x5D then .ok (.array done.reverse, rest)
      else if done.isEmpty then do
        let (v, rest) ← item (b :: rest)
        readItems item fuel [v] rest
      else if b == 0x2C then
        match skipBlanks rest with
        | [] => fail .endInValue []
        | c :: rest =>
          if c == 0x5D then fail .trailingComma rest
          else do
            let (v, rest) ← item (c :: rest)
            readItems item fuel (v :: done) rest
      else fail .expectedCommaOrBracket rest

/-- Reads a member of an object; `input` starts behind the quote that opens
its key. -/
def readMember (item : Bytes → Except Stop (Json × Bytes)) (input : Bytes) :
    Except Stop ((String × Json) × Bytes) := do
  let (key, rest) ← readString input
  match skipBlanks rest with
  | [] => fail .endInObject []
  | b :: rest =>
    if b == 0x3A then do
      let (v, rest) ← item rest
      return ((key, v), rest)
    else fail .expectedColon rest

/-- Reads the members of an object up to its closing brace. `done` holds the
members so far, last first; `fuel` bounds their number. -/
def readMembers (item : Bytes → Except Stop (Json × Bytes)) :
    (fuel : Nat) → (done : List (String × Json)) → Bytes →
      Except Stop (List (String × Json) × Bytes)
  | 0, _, input => fail .endInObject input
  | fuel + 1, done, input =>
    match skipBlanks input with
    | [] => fail .endInObject []
    | b :: rest =>
      if b == 0x7D then .ok (done.reverse, rest)
      else if done.isEmpty then
        if b == 0x22 then do
          let (m, rest) ← readMember item rest
          readMembers item fuel [m] rest
        else fail .keyNotString rest
      else if b == 0x2C then
        match skipBlanks rest with
        | [] => fail .endInValue []
        | c :: rest =>
          if c == 0x22 then do
            let (m, rest) ← readMember item rest
            readMembers item fuel (m :: done) rest
          else if c == 0x7D then fail .trailingComma rest
          else fail .keyNotString rest
      else fail .expectedCommaOrBrace rest

/-- The number of containers that may be open at once. -/
def maxNesting : Nat := 127

/-- Reads a value whose containers are nested at most `levels` deep. The
members of its objects stand as written. -/
def readRaw (levels : Nat) (input : Bytes) : Except Stop (Json × Bytes) :=
  match skipBlanks input with
  | [] => fail .endInValue []
  | b :: rest =>
    if b == 0x6E then readWord .null [0x75, 0x6C, 0x6C] rest
    else if b == 0x74 then readWord (.bool true) [0x72, 0x75, 0x65] rest
    else if b == 0x66 then readWord (.bool false) [0x61, 0x6C, 0x73, 0x65] rest
    else if b == 0x2D then
      (readNumber true rest).map fun r => (.number r.1, r.2)
    else if isDigit b then
      (readNumber false (b :: rest)).map fun r => (.number r.1, r.2)
    else if b == 0x22 then
      (readString rest).map fun r => (.string r.1, r.2)
    else if b == 0x5B then
      match levels with
      | 0 => fail .tooDeep rest
      | levels + 1 => readItems (readRaw levels) (rest.length + 1) [] rest
    else if b == 0x7B then
      match levels with
      | 0 => fail .tooDeep rest
      | levels + 1 =>
        (readMembers (readRaw levels) (rest.length + 1) [] rest).map fun r =>
          (.object r.1, r.2)
    else fail .expectedValue rest

/-- The value of a whole text, its objects with their members as written. -/
def readAsWritten (input : Bytes) : Except Fault Json :=
  match readRaw maxNesting input with
  | .error s => .error (s.locate input)
  | .ok (v, rest) =>
    match skipBlanks rest with
    | [] => .ok v
    | _ :: rest => .error (Stop.locate input ⟨.trailingCharacters, rest⟩)

/-- The value of a whole text, the members of its objects sorted by key and
the last one of every key kept. -/
def read (input : Bytes) : Except Fault Json :=
  (readAsWritten input).map canonical

/-- The value of a text. -/
def ofText (s : String) : Except Fault Json :=
  read (Text.bytesOf s)

end ToolServer.Json
