/-
Documents written in TOML:

* `Toml`: the values;
* `insert?`: a table with a value under a dotted key;
* `section?`, `extend?`: a document with a table under a header, and with
  one more table in a list of tables;
* how the values are decoded.

A table that a header names may not be named again or reached by dotted keys,
and a table that dotted keys make may not be named by a header.
-/
import ToolServer.Json.Decode

namespace ToolServer

/-- How a table came to be. -/
inductive Toml.Origin
  /-- Named by a header. -/
  | named
  /-- Named only in front of another name in a header. -/
  | implied
  /-- Made by a dotted key. -/
  | dotted
  /-- Written as one value, which cannot be extended. -/
  | closed
  deriving DecidableEq, Repr, Inhabited

/-- A value. -/
inductive Toml
  | string (text : List Char)
  | integer (i : Int)
  | bool (b : Bool)
  /-- A number that is not written as a whole number. -/
  | fraction
  /-- A date or a time. -/
  | moment
  | array (items : List Toml)
  | table (origin : Toml.Origin) (entries : List (List Char × Toml))
  /-- The tables of one header in double brackets, with the last one apart. -/
  | tables (latest : List (List Char × Toml)) (earlier : List (List (List Char × Toml)))
  deriving Repr, Inhabited

namespace Toml

/-! ### Tables -/

/-- Changes the value of a key, which may be new. -/
def alter? (key : List Char) (change : Option Toml → Option Toml) :
    List (List Char × Toml) → Option (List (List Char × Toml))
  | [] => (change none).map fun v => [(key, v)]
  | (k, v) :: rest =>
    if k = key then (change (some v)).map fun v => (k, v) :: rest
    else (alter? key change rest).map ((k, v) :: ·)

/-- The entries with a value under a dotted key: a path and a last name. -/
def insert? (key : List Char) (value : Toml) : (path : List (List Char)) →
    List (List Char × Toml) → Option (List (List Char × Toml))
  | [], entries => alter? key (fun old => if old.isNone then some value else none) entries
  | step :: path, entries =>
    entries |> alter? step fun
      | none => (insert? key value path []).map (.table .dotted)
      | some (.table .dotted inner) => (insert? key value path inner).map (.table .dotted)
      | some (.table .implied inner) =>
        if path.isEmpty then none else (insert? key value path inner).map (.table .implied)
      | some (.tables latest earlier) =>
        if path.isEmpty then none else (insert? key value path latest).map (.tables · earlier)
      | some _ => none

/-- Changes the entries of the table that is reached by the names of a header. -/
def within? (change : List (List Char × Toml) → Option (List (List Char × Toml))) :
    (path : List (List Char)) → List (List Char × Toml) → Option (List (List Char × Toml))
  | [], entries => change entries
  | step :: path, entries =>
    entries |> alter? step fun
      | none => (within? change path []).map (.table .implied)
      | some (.table .closed _) => none
      | some (.table origin inner) => (within? change path inner).map (.table origin)
      | some (.tables latest earlier) => (within? change path latest).map (.tables · earlier)
      | some _ => none

/-- The entries with a table that a header names, by a path and a last name. -/
def section? (path : List (List Char)) (key : List Char) :
    List (List Char × Toml) → Option (List (List Char × Toml)) :=
  path |> within? (alter? key fun
    | none => some (.table .named [])
    | some (.table .implied inner) => some (.table .named inner)
    | some _ => none)

/-- The entries with one more table in the list of tables that a header names. -/
def extend? (path : List (List Char)) (key : List Char) :
    List (List Char × Toml) → Option (List (List Char × Toml)) :=
  path |> within? (alter? key fun
    | none => some (.tables [] [])
    | some (.tables latest earlier) => some (.tables [] (latest :: earlier))
    | some _ => none)

/-! ### Decoding -/

/-- The entries of a table. -/
def map? : Toml → Option (List (String × Toml))
  | .table _ entries => some (entries.map fun e => (String.ofList e.1, e.2))
  | _ => none

/-- The items of a list, or of a list of tables. -/
def list? : Toml → Option (List Toml)
  | .array items => some items
  | .tables latest earlier => some ((latest :: earlier).reverse.map (.table .named))
  | _ => none

instance : Decode.Document Toml where
  found
    | .string text => .string (String.ofList text)
    | .integer i => .integer i
    | .bool b => .bool b
    | .fraction => .float .zero
    | .moment | .table _ _ => .map
    | .array _ | .tables _ _ => .sequence
  isAbsent
    | .array items => items.isEmpty
    | .table _ entries => entries.isEmpty
    | _ => false
  string?
    | .string text => some (String.ofList text)
    | _ => none
  bool?
    | .bool b => some b
    | _ => none
  integer?
    | .integer i => some i
    | _ => none
  float? _ := none
  list? := list?
  map? := map?
  record?
    | .moment => some (.named [])
    | value =>
      match list? value with
      | some items => some (.positional items)
      | none => (map? value).map .named

end Toml

end ToolServer
