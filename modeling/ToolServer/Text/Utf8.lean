/-
UTF-8 as bytes and characters:

* `encode`: the bytes of a list of characters, one to four for each;
* `nextChar`: the first character of a byte string, or why there is none;
* `decode?`: all characters of a byte string, or the place and kind of its
  first fault;
* `decodeLossy`: all characters, with U+FFFD in place of every longest
  faulty stretch.

A fault is located the way a reader would repair it: either some bytes can
never start a character here (`malformed`, with their number), or the input
stops inside a character (`truncated`).
-/

namespace ToolServer.Text

/-- A string of bytes. -/
abbrev Bytes := List UInt8

/-! ### Encoding -/

/-- The UTF-8 bytes of one character. -/
def encodeChar (c : Char) : Bytes :=
  let n := c.toNat
  if n < 0x80 then [n.toUInt8]
  else if n < 0x800 then
    [(0xC0 + n / 0x40).toUInt8, (0x80 + n % 0x40).toUInt8]
  else if n < 0x10000 then
    [(0xE0 + n / 0x1000).toUInt8, (0x80 + n / 0x40 % 0x40).toUInt8,
      (0x80 + n % 0x40).toUInt8]
  else
    [(0xF0 + n / 0x40000).toUInt8, (0x80 + n / 0x1000 % 0x40).toUInt8,
      (0x80 + n / 0x40 % 0x40).toUInt8, (0x80 + n % 0x40).toUInt8]

/-- The UTF-8 bytes of a list of characters. -/
def encode (cs : List Char) : Bytes :=
  cs.flatMap encodeChar

/-- The UTF-8 bytes of a string. -/
def bytesOf (s : String) : Bytes :=
  encode s.toList

/-! ### Decoding -/

/-- Why a byte string does not start with a character. -/
inductive CharFault
  /-- The first `count` bytes belong to no character. -/
  | malformed (count : Nat)
  /-- The input stops before the character that it starts is complete. -/
  | truncated
  deriving Repr, DecidableEq

/-- A byte `10xxxxxx`, which can only continue a character. -/
def isTail (b : UInt8) : Bool :=
  0x80 ≤ b && b ≤ 0xBF

/-- The six payload bits of a continuation byte. -/
def tailBits (b : UInt8) : Nat :=
  b.toNat - 0x80

/-- Whether `b` may follow the first byte `a` of a three-byte character:
surrogates and over-long forms are excluded. -/
def fitsThree (a b : UInt8) : Bool :=
  if a == 0xE0 then 0xA0 ≤ b && b ≤ 0xBF
  else if a == 0xED then 0x80 ≤ b && b ≤ 0x9F
  else isTail b

/-- Whether `b` may follow the first byte `a` of a four-byte character:
over-long forms and values above U+10FFFF are excluded. -/
def fitsFour (a b : UInt8) : Bool :=
  if a == 0xF0 then 0x90 ≤ b && b ≤ 0xBF
  else if a == 0xF4 then 0x80 ≤ b && b ≤ 0x8F
  else isTail b

/-- The first character of a non-empty byte string `a :: rest` and what
follows it. -/
def nextChar (a : UInt8) (rest : Bytes) : Except CharFault (Char × Bytes) :=
  if a < 0x80 then .ok (Char.ofNat a.toNat, rest)
  else if 0xC2 ≤ a && a ≤ 0xDF then
    match rest with
    | [] => .error .truncated
    | b :: rest =>
      if isTail b then
        .ok (Char.ofNat ((a.toNat - 0xC0) * 0x40 + tailBits b), rest)
      else .error (.malformed 1)
  else if 0xE0 ≤ a && a ≤ 0xEF then
    match rest with
    | [] => .error .truncated
    | b :: rest =>
      if fitsThree a b then
        match rest with
        | [] => .error .truncated
        | c :: rest =>
          if isTail c then
            .ok (Char.ofNat ((a.toNat - 0xE0) * 0x1000 + tailBits b * 0x40
              + tailBits c), rest)
          else .error (.malformed 2)
      else .error (.malformed 1)
  else if 0xF0 ≤ a && a ≤ 0xF4 then
    match rest with
    | [] => .error .truncated
    | b :: rest =>
      if fitsFour a b then
        match rest with
        | [] => .error .truncated
        | c :: rest =>
          if isTail c then
            match rest with
            | [] => .error .truncated
            | d :: rest =>
              if isTail d then
                .ok (Char.ofNat ((a.toNat - 0xF0) * 0x40000 + tailBits b * 0x1000
                  + tailBits c * 0x40 + tailBits d), rest)
              else .error (.malformed 3)
          else .error (.malformed 2)
      else .error (.malformed 1)
  else .error (.malformed 1)

/-- The rest after a character is shorter than what it was read from. -/
theorem length_of_nextChar {a : UInt8} {rest rest' : Bytes} {c : Char}
    (h : nextChar a rest = .ok (c, rest')) : rest'.length ≤ rest.length := by
  unfold nextChar at h
  repeat' split at h
  all_goals simp_all
  all_goals omega

/-- The first fault of a byte string: where it starts and what it is. -/
structure Utf8Fault where
  /-- Number of bytes in front of the fault, all of them well formed. -/
  index : Nat
  /-- What is wrong there. -/
  fault : CharFault
  deriving Repr, DecidableEq

/-- The fault in words. -/
def Utf8Fault.message (f : Utf8Fault) : String :=
  match f.fault with
  | .malformed n => s!"invalid utf-8 sequence of {n} bytes from index {f.index}"
  | .truncated => s!"incomplete utf-8 byte sequence from index {f.index}"

/-- Reads characters from the front of `bytes`, `index` bytes into the whole
text; `done` holds the characters so far, last first. -/
def decodeFrom (index : Nat) (done : List Char) (bytes : Bytes) :
    Except Utf8Fault (List Char) :=
  match bytes with
  | [] => .ok done.reverse
  | a :: rest =>
    match h : nextChar a rest with
    | .error fault => .error ⟨index, fault⟩
    | .ok (c, rest') =>
      have := length_of_nextChar h
      decodeFrom (index + (rest.length + 1 - rest'.length)) (c :: done) rest'
termination_by bytes.length
decreasing_by simp; omega

/-- All characters of a byte string, or its first fault. -/
def decode? (bytes : Bytes) : Except Utf8Fault (List Char) :=
  decodeFrom 0 [] bytes

/-- The string that a byte string spells, if it is well formed. -/
def stringOf? (bytes : Bytes) : Option String :=
  match decode? bytes with
  | .ok cs => some (String.ofList cs)
  | .error _ => none

/-- Reads characters, writing U+FFFD for every faulty stretch. -/
def decodeLossyFrom (done : List Char) (bytes : Bytes) : List Char :=
  match bytes with
  | [] => done.reverse
  | a :: rest =>
    match h : nextChar a rest with
    | .ok (c, rest') =>
      have := length_of_nextChar h
      decodeLossyFrom (c :: done) rest'
    | .error .truncated => ('\uFFFD' :: done).reverse
    | .error (.malformed n) =>
      decodeLossyFrom ('\uFFFD' :: done) (rest.drop (n - 1))
termination_by bytes.length
decreasing_by
  all_goals simp only [List.length_cons, List.length_drop]
  all_goals omega

/-- All characters of a byte string, U+FFFD standing for what is no text. -/
def decodeLossy (bytes : Bytes) : List Char :=
  decodeLossyFrom [] bytes

end ToolServer.Text
