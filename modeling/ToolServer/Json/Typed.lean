/-
Reading JSON text as a value of a given type:

* `TypedFault`: a text that is no JSON, or that is JSON of another kind;
* `readInt64`, `readText`, `readByteList`: an integer of 64 bits, a string and
  a list of bytes as whole texts.

A text of another kind is read far enough to say what it is, and the fault is
found behind that; a list or an object is not entered.
-/
import ToolServer.Json.Decode
import ToolServer.Json.Reader

namespace ToolServer.Json

open ToolServer.Decode (Found Mismatch)
open ToolServer.Text (Bytes)

/-- What is wrong with a text that should have some type. -/
inductive TypedCause
  /-- It is no JSON. -/
  | text (cause : Cause)
  /-- It is JSON of another kind. -/
  | kind (mismatch : Mismatch)
  deriving Repr, DecidableEq

/-- What is wrong with a text that should have some type, and where. -/
structure TypedFault where
  cause : TypedCause
  line : Nat
  column : Nat
  deriving Repr, DecidableEq

/-- The fault in words. -/
def TypedFault.message (f : TypedFault) : String :=
  let what := match f.cause with
    | .text cause => cause.message
    | .kind mismatch => mismatch.message
  s!"{what} at line {f.line} column {f.column}"

/-- A fault on the way: what is wrong, and the bytes behind it. -/
abbrev TypedStop := TypedCause × Bytes

/-- A fault of the text itself. -/
def TypedStop.ofStop (s : Stop) : TypedStop :=
  (.text s.cause, s.rest)

/-- What was found instead of a value of some type. -/
def wrongKind {α : Type} (found : Found) (expected : String) (rest : Bytes) :
    Except TypedStop α :=
  .error (.kind (.wrongType found expected), rest)

/-- What a number is, in a report. -/
def Number.found (n : Number) : Found :=
  match n with
  | .float x => .float x
  | _ => .integer (n.toInt?.getD 0)

/-- The fault of a value that is of another kind than asked for; `input` does
not start with a blank. -/
def otherKind {α : Type} (expected : String) (input : Bytes) : Except TypedStop α :=
  match input with
  | [] => .error (.text .endInValue, [])
  | b :: rest =>
    if b == 0x5B then wrongKind .sequence expected input
    else if b == 0x7B then wrongKind .map expected input
    else match readRaw maxNesting input with
      | .error s => .error (.ofStop s)
      | .ok (.null, rest) => wrongKind .null expected rest
      | .ok (.bool b, rest) => wrongKind (.bool b) expected rest
      | .ok (.number n, rest) => wrongKind n.found expected rest
      | .ok (.string s, rest) => wrongKind (.string s) expected rest
      | .ok (_, _) => .error (.text .expectedValue, rest)

/-- Whether a byte can start a number. -/
def startsNumber (b : UInt8) : Bool :=
  b == 0x2D || isDigit b

/-- Reads an integer within bounds. -/
def readInteger (low high : Int) (expected : String) (input : Bytes) :
    Except TypedStop (Int × Bytes) :=
  match skipBlanks input with
  | [] => .error (.text .endInValue, [])
  | b :: rest =>
    if startsNumber b then
      let number := if b == 0x2D then readNumber true rest else readNumber false (b :: rest)
      match number with
      | .error s => .error (.ofStop s)
      | .ok (n, rest) =>
        match n.toInt? with
        | none => wrongKind n.found expected rest
        | some i =>
          if low ≤ i ∧ i ≤ high then .ok (i, rest)
          else .error (.kind (.wrongValue (.integer i) expected), rest)
    else otherKind expected (b :: rest)

/-- Reads a string. -/
def readQuoted (input : Bytes) : Except TypedStop (String × Bytes) :=
  match skipBlanks input with
  | [] => .error (.text .endInValue, [])
  | b :: rest =>
    if b == 0x22 then (readString rest).mapError .ofStop
    else otherKind "a string" (b :: rest)

/-- Reads the bytes of a list up to its closing bracket. `done` holds the
bytes so far, last first; `fuel` bounds their number. -/
def readBytesFrom : (fuel : Nat) → (done : Bytes) → Bytes → Except TypedStop (Bytes × Bytes)
  | 0, _, input => .error (.text .endInList, input)
  | fuel + 1, done, input =>
    match skipBlanks input with
    | [] => .error (.text .endInList, [])
    | b :: rest =>
      if b == 0x5D then .ok (done.reverse, rest)
      else if done.isEmpty then
        match readInteger 0 255 "u8" (b :: rest) with
        | .error s => .error s
        | .ok (n, rest) => readBytesFrom fuel [n.toNat.toUInt8] rest
      else if b == 0x2C then
        match skipBlanks rest with
        | [] => .error (.text .endInValue, [])
        | c :: rest =>
          if c == 0x5D then .error (.text .trailingComma, rest)
          else match readInteger 0 255 "u8" (c :: rest) with
            | .error s => .error s
            | .ok (n, rest) => readBytesFrom fuel (n.toNat.toUInt8 :: done) rest
      else .error (.text .expectedCommaOrBracket, rest)

/-- Reads a list of bytes. -/
def readBytes (input : Bytes) : Except TypedStop (Bytes × Bytes) :=
  match skipBlanks input with
  | [] => .error (.text .endInValue, [])
  | b :: rest =>
    if b == 0x5B then readBytesFrom (rest.length + 1) [] rest
    else otherKind "a sequence" (b :: rest)

/-- Reads a whole text. -/
def readWhole {α : Type} (item : Bytes → Except TypedStop (α × Bytes)) (input : Bytes) :
    Except TypedFault α :=
  let locate (s : TypedStop) : TypedFault :=
    let place := position (input.take (input.length - s.2.length))
    ⟨s.1, place.1, place.2⟩
  match item input with
  | .error s => .error (locate s)
  | .ok (v, rest) =>
    match skipBlanks rest with
    | [] => .ok v
    | _ :: rest => .error (locate (.text .trailingCharacters, rest))

/-- The integer of 64 bits that a whole text spells. -/
def readInt64 (input : Bytes) : Except TypedFault Int :=
  readWhole (readInteger (-0x8000000000000000) 0x7FFFFFFFFFFFFFFF "i64") input

/-- The string that a whole text spells. -/
def readText (input : Bytes) : Except TypedFault String :=
  readWhole readQuoted input

/-- The bytes that a whole text spells as a list of numbers. -/
def readByteList (input : Bytes) : Except TypedFault Bytes :=
  readWhole readBytes input

end ToolServer.Json
