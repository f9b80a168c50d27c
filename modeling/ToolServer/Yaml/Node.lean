/-
Documents written in YAML:

* `Node`: scalars, sequences and mappings;
* how they are decoded: every scalar is a string, and one without quotes may
  also be a truth value or a whole number.

An empty scalar without quotes stands for an empty collection too, so that a
section whose lines are all left out has its defaults.
-/
import ToolServer.Json.Decode
import ToolServer.Yaml.Scalar

namespace ToolServer.Yaml

/-- A document or a part of one. -/
inductive Node
  | scalar (isPlain : Bool) (text : List Char)
  | sequence (items : List Node)
  | mapping (entries : List (Node × Node))
  /-- A node that is part of itself. -/
  | endless
  deriving Repr, Inhabited

namespace Node

/-- The scalar for which nothing is written. -/
def empty : Node :=
  .scalar true []

/-- The number that one digit or more spell to a base. -/
def digits? (base : Nat) (cs : List Char) : Option Nat :=
  if cs.isEmpty then none else Text.ofDigits? base cs

/-- The natural number that a text spells, in the decimal system without leading
zeros or with a sign for another base. -/
def natural? (cs : List Char) : Option Nat :=
  let cs := if cs.head? = some '+' then cs.tail else cs
  match cs with
  | '0' :: 'x' :: rest => digits? 16 rest
  | '0' :: 'o' :: rest => digits? 8 rest
  | '0' :: 'b' :: rest => digits? 2 rest
  | '0' :: _ :: _ => none
  | cs => digits? 10 cs

/-- The truth value that a text spells. -/
def truth? (cs : List Char) : Option Bool :=
  if ["true", "True", "TRUE"].contains (String.ofList cs) then some true
  else if ["false", "False", "FALSE"].contains (String.ofList cs) then some false
  else none

/-- The integer that a node is. -/
def integer? : Node → Option Int
  | .scalar true ('-' :: cs) =>
    if cs.head? = some '+' then none else (natural? cs).map fun n => -(n : Int)
  | .scalar true cs => (natural? cs).map Int.ofNat
  | _ => none

/-- The entries of a mapping whose keys are all scalars. -/
def members? : List (Node × Node) → Option (List (String × Node))
  | [] => some []
  | (.scalar _ key, value) :: rest =>
    (members? rest).map ((String.ofList key, value) :: ·)
  | _ => none

/-- The entries of a mapping, or of nothing. -/
def map? : Node → Option (List (String × Node))
  | .mapping entries => members? entries
  | .scalar true [] => some []
  | _ => none

instance : Decode.Document Node where
  found
    | .scalar _ text => .string (String.ofList text)
    | .sequence _ => .sequence
    | .mapping _ => .map
    | .endless => .null
  isAbsent _ := false
  string?
    | .scalar _ text => some (String.ofList text)
    | _ => none
  bool?
    | .scalar true text => truth? text
    | _ => none
  integer? := integer?
  float? _ := none
  list?
    | .sequence items => some items
    | .scalar true [] => some []
    | _ => none
  map? := map?
  record? node := (map? node).map .named

end Node

end ToolServer.Yaml
