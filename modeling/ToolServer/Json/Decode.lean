/-
Values of other types from documents:

* `Mismatch`: why a document does not have the form that is asked for;
* `Document`: what a document can be read as, so that JSON values and
  configuration files are decoded by the same rules;
* `string`, `bool`, `integerIn`, `list`, `optional`: documents of simple form;
* `Slots`, `Slots.field`, `firstFault`: the fields of a record, given as an
  object or as an array in the order of the fields.

Of several faults in an object the one with the least key is reported, a
missing field only when all others are sound.
-/
import ToolServer.Json.Printer

namespace ToolServer.Decode

/-! ### Mismatches -/

/-- What was found in a document, as far as a report shows it. -/
inductive Found
  | null
  | bool (b : Bool)
  | integer (i : Int)
  | float (x : Binary64)
  | string (s : String)
  | sequence
  | map
  deriving Repr, DecidableEq

/-- What was found, in words. -/
def Found.words : Found → String
  | .null => "null"
  | .bool b => s!"boolean `{b}`"
  | .integer i => s!"integer `{i}`"
  | .float x => s!"floating point `{String.ofList (Json.layout.render x)}`"
  | .string s => s!"string {Text.quoted s}"
  | .sequence => "sequence"
  | .map => "map"

/-- Why a document does not have the form that is asked for. -/
inductive Mismatch
  /-- Something of another kind. -/
  | wrongType (found : Found) (expected : String)
  /-- Something of the right kind outside the range. -/
  | wrongValue (found : Found) (expected : String)
  /-- A record without a field that it needs. -/
  | missing (field : String)
  /-- A record with a field that is given more than once. -/
  | duplicate (field : String)
  /-- A list that is too short or too long. -/
  | wrongLength (length : Nat) (expected : String)
  /-- A name that is none of the known ones. -/
  | unknownVariant (name : String) (known : List String)
  /-- A document that has none of the forms of a type. -/
  | noVariant (type : String)
  deriving Repr, DecidableEq

/-- The known names of a choice, in words. -/
def choices : List String → String
  | [a] => s!"`{a}`"
  | [a, b] => s!"`{a}` or `{b}`"
  | known => "one of " ++ ", ".intercalate (known.map fun n => s!"`{n}`")

/-- The mismatch in words. -/
def Mismatch.message : Mismatch → String
  | .wrongType found expected => s!"invalid type: {found.words}, expected {expected}"
  | .wrongValue found expected => s!"invalid value: {found.words}, expected {expected}"
  | .missing field => s!"missing field `{field}`"
  | .duplicate field => s!"duplicate field `{field}`"
  | .wrongLength n expected => s!"invalid length {n}, expected {expected}"
  | .unknownVariant name known =>
    s!"unknown variant `{name}`, expected {choices known}"
  | .noVariant type => s!"data did not match any variant of untagged enum {type}"

/-! ### Documents -/

/-- The fields of a record, as they stand in a document. -/
inductive Fields (α : Type)
  /-- Fields by name. -/
  | named (members : List (String × α))
  /-- Fields by position. -/
  | positional (items : List α)

/-- Documents that can be decoded: what a document can be read as. -/
class Document (α : Type) where
  /-- What the document is, in a report. -/
  found : α → Found
  /-- Whether nothing is there, so that an optional field is absent. -/
  isAbsent : α → Bool
  /-- The document as a string. -/
  string? : α → Option String
  /-- The document as a truth value. -/
  bool? : α → Option Bool
  /-- The document as an integer. -/
  integer? : α → Option Int
  /-- The document as a floating-point number. -/
  float? : α → Option Binary64
  /-- The document as a list. -/
  list? : α → Option (List α)
  /-- The document as a map. -/
  map? : α → Option (List (String × α))
  /-- The document as a record. -/
  record? : α → Option (Fields α)

export Document (found)

/-- The number that an integer of 64 bits is rounded to. -/
def floatOfInt (i : Int) : Binary64 :=
  if i < 0 then (Binary64.ofNat64 i.natAbs.toUInt64).neg
  else Binary64.ofNat64 i.natAbs.toUInt64

instance : Document Json where
  found
    | .null => .null
    | .bool b => .bool b
    | .number (.natural n) => .integer n.toNat
    | .number (.negative n) => .integer (-(n.val : Int) - 1)
    | .number (.float x) => .float x
    | .string s => .string s
    | .array _ => .sequence
    | .object _ => .map
  isAbsent := Json.isNull
  string? := Json.string?
  bool?
    | .bool b => some b
    | _ => none
  integer?
    | .number n => n.toInt?
    | _ => none
  float?
    | .number (.float x) => some x
    | .number n => n.toInt?.map floatOfInt
    | _ => none
  list?
    | .array items => some items
    | _ => none
  map?
    | .object members => some members
    | _ => none
  record?
    | .array items => some (.positional items)
    | .object members => some (.named members)
    | _ => none

variable {α : Type} [Document α]

/-- A decoder of documents to values of a type. -/
abbrev Decoder (α β : Type) := α → Except Mismatch β

/-- The value that a reading gives, or a report of what was found. -/
def expect {β : Type} (expected : String) (reading : α → Option β) : Decoder α β :=
  fun d => match reading d with
    | some v => .ok v
    | none => .error (.wrongType (found d) expected)

/-- A document that is a string. -/
def string : Decoder α String :=
  expect "a string" Document.string?

/-- A document that is a truth value. -/
def bool : Decoder α Bool :=
  expect "a boolean" Document.bool?

/-- A document that is a number. -/
def float : Decoder α Binary64 :=
  expect "f64" Document.float?

/-- A document that is an integer within bounds. -/
def integerIn (low high : Int) (expected : String) : Decoder α Int :=
  fun d => match Document.integer? d with
    | some i =>
      if low ≤ i ∧ i ≤ high then .ok i else .error (.wrongValue (.integer i) expected)
    | none => .error (.wrongType (found d) expected)

/-- A document that is a natural number below `2^64`. -/
def natural (expected : String) : Decoder α Nat :=
  fun d => (integerIn 0 0xFFFFFFFFFFFFFFFF expected d).map Int.toNat

/-- A document that is a list of documents of some form. -/
def list {β : Type} (item : Decoder α β) : Decoder α (List β) :=
  fun d => match Document.list? d with
    | some items => items.mapM item
    | none => .error (.wrongType (found d) "a sequence")

/-- A document that is a map to documents of some form. -/
def table {β : Type} (item : Decoder α β) : Decoder α (List (String × β)) :=
  fun d => match Document.map? d with
    | some members => members.mapM fun m => (item m.2).map fun v => (m.1, v)
    | none => .error (.wrongType (found d) "a map")

/-- A document of some form, or nothing. -/
def optional {β : Type} (item : Decoder α β) : Decoder α (Option β) :=
  fun d => if Document.isAbsent d then .ok none else (item d).map some

/-- A document of any form. -/
def anything : Decoder α α := fun d => .ok d

/-- A document that names one of several choices, either as a string or as a
map with that one key and nothing under it. -/
def choice {β : Type} (known : List (String × β)) : Decoder α β :=
  fun d => match Document.string? d, Document.map? d with
    | some s, _ => pick s
    | none, some [(name, value)] =>
      match pick name with
      | .ok v =>
        if Document.isAbsent value then .ok v
        else .error (.wrongType (found value) "unit")
      | .error e => .error e
    | none, some _ => .error (.wrongValue .map "map with a single key")
    | none, none => .error (.wrongType (found d) "string or map")
where
  /-- The choice of a name. -/
  pick (name : String) : Except Mismatch β :=
    match known.find? fun k => k.1 = name with
    | some k => .ok k.2
    | none => .error (.unknownVariant name (known.map (·.1)))

/-! ### Records -/

/-- The fields of a record, and the form that the record is expected to have. -/
structure Slots (α : Type) where
  /-- The fields as they stand in the document. -/
  fields : Fields α
  /-- The form of the record, in words. -/
  expected : String

/-- The fields of a record with this name and number of fields. -/
def slots (name : String) (count : Nat) (d : α) : Except Mismatch (Slots α) :=
  match Document.record? d with
  | some fields =>
    let elements := if count = 1 then "1 element" else s!"{count} elements"
    .ok ⟨fields, s!"struct {name} with {elements}"⟩
  | none => .error (.wrongType (found d) s!"struct {name}")

/-- What came of one field: its value or what is wrong with it. -/
structure Field (β : Type) where
  /-- The name of the field. -/
  name : String
  /-- Whether the field is there. -/
  present : Bool
  /-- The value of the field. -/
  value : Except Mismatch β

/-- The field of a name and position; `absent` is its value when it may be
left out. A name may be given once only. -/
def Slots.field {β : Type} (s : Slots α) (name : String) (index : Nat)
    (item : Decoder α β) (absent : Option β) : Field β :=
  let missing (m : Mismatch) : Field β :=
    ⟨name, false, match absent with
      | some v => .ok v
      | none => .error m⟩
  match s.fields with
  | .named members =>
    match members.filter fun m => m.1 = name with
    | [] => missing (.missing name)
    | [m] => ⟨name, true, item m.2⟩
    | _ => ⟨name, true, .error (.duplicate name)⟩
  | .positional items =>
    match items[index]? with
    | some d => ⟨name, true, item d⟩
    | none => missing (.wrongLength index s.expected)

/-- The field of a name and position that may be left out of an object, and
then has a value, but not out of an array. -/
def Slots.omissible {β : Type} (s : Slots α) (name : String) (index : Nat)
    (item : Decoder α β) (absent : β) : Field β :=
  match s.fields with
  | .named _ => s.field name index item (some absent)
  | .positional _ => s.field name index item none

/-- What is wrong with a field, with its name and whether it is there. -/
def Field.fault? {β : Type} (f : Field β) : Option (String × Bool × Mismatch) :=
  match f.value with
  | .ok _ => none
  | .error e => some (f.name, f.present, e)

/-- The fault with the least name, the first of several. -/
def leastFault : List (String × Mismatch) → Option (String × Mismatch)
  | [] => none
  | f :: rest =>
    match leastFault rest with
    | none => some f
    | some g => if g.1 < f.1 then some g else some f

/-- The fault that is reported for a record, of the faults of its fields in
their order. -/
def Slots.firstFault (s : Slots α) (faults : List (Option (String × Bool × Mismatch))) :
    Mismatch :=
  let faults := faults.filterMap id
  let first := (faults.head?.map fun f => f.2.2).getD (.noVariant "")
  match s.fields with
  | .positional _ => first
  | .named _ =>
    let present := faults.filterMap fun f => if f.2.1 then some (f.1, f.2.2) else none
    ((leastFault present).map (·.2)).getD first

/-- Whether no positions are left over after the fields of a record. -/
def Slots.exhausted (s : Slots α) (count : Nat) : Except Mismatch Unit :=
  match s.fields with
  | .named _ => .ok ()
  | .positional items =>
    if items.length ≤ count then .ok ()
    else .error (.wrongLength items.length "fewer elements in array")

end ToolServer.Decode
