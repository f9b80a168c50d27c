/-
JSON values:

* `Json`: the type, with the members of an object as a list of pairs;
* `Json.Number`: whole numbers of 64 bits and floating-point numbers, kept
  apart;
* `insertMember`, `ofMembers`: objects with their keys in increasing order, a
  later member taking the place of an earlier one with its key;
* `canonical`: the value with all its objects in that form.

Keys are ordered by code points, which is the order of their UTF-8 bytes.
-/
import ToolServer.Number.Binary64

namespace ToolServer

/-- A number: a whole number below `2^64`, a negative whole number not below
`-2^63`, or a floating-point number. -/
inductive Json.Number
  /-- A whole number that is not negative. -/
  | natural (n : UInt64)
  /-- The negative whole number `-(n + 1)`. -/
  | negative (n : Fin 0x8000000000000000)
  /-- A floating-point number. -/
  | float (x : Binary64)
  deriving DecidableEq, Repr, Inhabited

/-- A JSON value. -/
inductive Json
  | null
  | bool (b : Bool)
  | number (n : Json.Number)
  | string (s : String)
  | array (items : List Json)
  | object (members : List (String × Json))
  deriving BEq, Repr, Inhabited

namespace Json

/-! ### Numbers -/

/-- The integer with this value, if it is a whole number. -/
def Number.toInt? : Number → Option Int
  | .natural n => some n.toNat
  | .negative n => some (-(n.val : Int) - 1)
  | .float _ => none

/-- The whole number with this value, if it has 64 bits. -/
def Number.ofInt? (i : Int) : Option Number :=
  if 0 ≤ i then
    if i < 0x10000000000000000 then some (.natural i.toNat.toUInt64) else none
  else
    if h : (-i - 1).toNat < 0x8000000000000000 then some (.negative ⟨(-i - 1).toNat, h⟩) else none

/-- A natural number as a value; only its lowest 64 bits count. -/
def ofNat (n : Nat) : Json :=
  .number (.natural n.toUInt64)

/-- An integer as a value; what does not fit in 64 bits has no number. -/
def ofInt (i : Int) : Json :=
  match Number.ofInt? i with
  | some n => .number n
  | none => .null

/-- A floating-point number as a value; what is not finite has no number. -/
def ofBinary64 (x : Binary64) : Json :=
  if x.isFinite then .number (.float x) else .null

/-! ### Objects -/

/-- Puts a member in its place among members with increasing keys. -/
def insertMember (key : String) (value : Json) :
    List (String × Json) → List (String × Json)
  | [] => [(key, value)]
  | (k, v) :: rest =>
    if key < k then (key, value) :: (k, v) :: rest
    else if key = k then (key, value) :: rest
    else (k, v) :: insertMember key value rest

/-- The members with increasing keys, the last one of every key. -/
def sortMembers (members : List (String × Json)) : List (String × Json) :=
  members.foldl (fun sorted m => insertMember m.1 m.2 sorted) []

/-- The object with these members, the last one of every key. -/
def ofMembers (members : List (String × Json)) : Json :=
  .object (sortMembers members)

/-- The value of a key among members. -/
def lookup (key : String) (members : List (String × Json)) : Option Json :=
  (members.find? fun m => m.1 = key).map (·.2)

/-- The value of a key of an object. -/
def get? (key : String) : Json → Option Json
  | .object members => lookup key members
  | _ => none

/-- Whether the value is an object. -/
def isObject : Json → Bool
  | .object _ => true
  | _ => false

/-- Whether the value is null. -/
def isNull : Json → Bool
  | .null => true
  | _ => false

/-- The string that the value is, if it is one. -/
def string? : Json → Option String
  | .string s => some s
  | _ => none

/-- The whole number below `2^64` that the value is, if it is one. -/
def natural? : Json → Option UInt64
  | .number (.natural n) => some n
  | _ => none

mutual

/-- The value with all its objects sorted by key. -/
def canonical : Json → Json
  | .array items => .array (canonicalItems items)
  | .object members => ofMembers (canonicalMembers members)
  | .null => .null
  | .bool b => .bool b
  | .number n => .number n
  | .string s => .string s

/-- Items of an array, each with its objects sorted. -/
def canonicalItems : List Json → List Json
  | [] => []
  | v :: rest => v.canonical :: canonicalItems rest

/-- Members of an object, each value with its objects sorted. -/
def canonicalMembers : List (String × Json) → List (String × Json)
  | [] => []
  | (k, v) :: rest => (k, v.canonical) :: canonicalMembers rest

end

end Json

end ToolServer
