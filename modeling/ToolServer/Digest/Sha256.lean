/-
The digest SHA-256:

* `padded`: a message with its closing bit, its zeros and its length;
* `schedule`, `rounds`, `compress`: the work on one block of sixteen words;
* `digest`: the eight words of a message's digest;
* `hex`: these words as sixty-four hexadecimal digits.
-/
import ToolServer.Text.Quoted

namespace ToolServer.Sha256

open ToolServer.Text (Bytes)

/-! ### Constants -/

/-- The words that the chaining state starts with. -/
def initial : List UInt32 :=
  [0x6a09e667, 0xbb67ae85, 0x3c6ef372, 0xa54ff53a, 0x510e527f, 0x9b05688c,
    0x1f83d9ab, 0x5be0cd19]

/-- The words that the sixty-four rounds add. -/
def roundConstants : List UInt32 :=
  [0x428a2f98, 0x71374491, 0xb5c0fbcf, 0xe9b5dba5, 0x3956c25b, 0x59f111f1,
    0x923f82a4, 0xab1c5ed5, 0xd807aa98, 0x12835b01, 0x243185be, 0x550c7dc3,
    0x72be5d74, 0x80deb1fe, 0x9bdc06a7, 0xc19bf174, 0xe49b69c1, 0xefbe4786,
    0x0fc19dc6, 0x240ca1cc, 0x2de92c6f, 0x4a7484aa, 0x5cb0a9dc, 0x76f988da,
    0x983e5152, 0xa831c66d, 0xb00327c8, 0xbf597fc7, 0xc6e00bf3, 0xd5a79147,
    0x06ca6351, 0x14292967, 0x27b70a85, 0x2e1b2138, 0x4d2c6dfc, 0x53380d13,
    0x650a7354, 0x766a0abb, 0x81c2c92e, 0x92722c85, 0xa2bfe8a1, 0xa81a664b,
    0xc24b8b70, 0xc76c51a3, 0xd192e819, 0xd6990624, 0xf40e3585, 0x106aa070,
    0x19a4c116, 0x1e376c08, 0x2748774c, 0x34b0bcb5, 0x391c0cb3, 0x4ed8aa4a,
    0x5b9cca4f, 0x682e6ff3, 0x748f82ee, 0x78a5636f, 0x84c87814, 0x8cc70208,
    0x90befffa, 0xa4506ceb, 0xbef9a3f7, 0xc67178f2]

/-! ### Words -/

/-- A word turned right by `n` places. -/
def rotateRight (x : UInt32) (n : UInt32) : UInt32 :=
  x >>> n ||| x <<< (32 - n)

/-- The word of four bytes, the highest first. -/
def wordOf (a b c d : UInt8) : UInt32 :=
  a.toUInt32 <<< 24 ||| b.toUInt32 <<< 16 ||| c.toUInt32 <<< 8 ||| d.toUInt32

/-- The words of a byte string whose length is a multiple of four. -/
def wordsOf : Bytes → List UInt32
  | a :: b :: c :: d :: rest => wordOf a b c d :: wordsOf rest
  | _ => []

/-- The four bytes of a word, the highest first. -/
def bytesOfWord (x : UInt32) : Bytes :=
  [(x >>> 24).toUInt8, (x >>> 16).toUInt8, (x >>> 8).toUInt8, x.toUInt8]

/-- The eight bytes of a length, the highest first. -/
def lengthBytes (n : Nat) : Bytes :=
  bytesOfWord (n / 0x100000000).toUInt32 ++ bytesOfWord n.toUInt32

/-- A message with one bit set behind it, zeros up to eight bytes short of a
whole block, and its length in bits. -/
def padded (message : Bytes) : Bytes :=
  message ++ 0x80 :: List.replicate ((119 - message.length % 64) % 64) 0
    ++ lengthBytes (8 * message.length)

/-! ### Blocks -/

/-- The next word of a schedule whose last sixteen words, the last one first,
are `recent`. -/
def nextWord (recent : List UInt32) : UInt32 :=
  let w (n : Nat) : UInt32 := recent.getD (n - 1) 0
  let s0 := rotateRight (w 15) 7 ^^^ rotateRight (w 15) 18 ^^^ w 15 >>> 3
  let s1 := rotateRight (w 2) 17 ^^^ rotateRight (w 2) 19 ^^^ w 2 >>> 10
  w 16 + s0 + w 7 + s1

/-- The sixty-four words of a block's schedule. -/
def schedule (block : List UInt32) : List UInt32 :=
  ((List.range 48).foldl (fun words _ => nextWord words :: words) block.reverse).reverse

/-- One round on the eight working words. -/
def round (s : List UInt32) (constant word : UInt32) : List UInt32 :=
  match s with
  | [a, b, c, d, e, f, g, h] =>
    let s1 := rotateRight e 6 ^^^ rotateRight e 11 ^^^ rotateRight e 25
    let choice := (e &&& f) ^^^ (~~~e &&& g)
    let t1 := h + s1 + choice + constant + word
    let s0 := rotateRight a 2 ^^^ rotateRight a 13 ^^^ rotateRight a 22
    let majority := (a &&& b) ^^^ (a &&& c) ^^^ (b &&& c)
    [t1 + (s0 + majority), a, b, c, d + t1, e, f, g]
  | _ => s

/-- The sixty-four rounds of a block. -/
def rounds (s : List UInt32) (block : List UInt32) : List UInt32 :=
  (roundConstants.zip (schedule block)).foldl (fun s kw => round s kw.1 kw.2) s

/-- Takes one block into the chaining state. -/
def compress (s : List UInt32) (block : List UInt32) : List UInt32 :=
  List.zipWith (· + ·) s (rounds s block)

/-- Takes a list of words, sixteen at a time, into the chaining state. -/
def absorb (s : List UInt32) (words : List UInt32) : List UInt32 :=
  if words.length < 16 then s
  else absorb (compress s (words.take 16)) (words.drop 16)
termination_by words.length
decreasing_by simp; omega

/-- The digest of a message, as eight words. -/
def digest (message : Bytes) : List UInt32 :=
  absorb initial (wordsOf (padded message))

/-- The digest of a message, as sixty-four hexadecimal digits. -/
def hex (message : Bytes) : String :=
  String.ofList (Text.hexOfBytes ((digest message).flatMap bytesOfWord))

end ToolServer.Sha256
