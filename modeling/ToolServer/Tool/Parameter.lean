/-
The parameters of tools and the schema of their arguments:

* `Parameter`: a parameter, with its default and its range;
* `Parameter.schema`, `inputSchema`: what a caller may pass, as a JSON schema;
* `Parameter.toJson`, `Parameter.decode`: a parameter as a document and back.
-/
import ToolServer.Json.Decode

namespace ToolServer.Tool

/-- A parameter of a tool. -/
structure Parameter where
  name : String
  description : String
  /-- The type of its values, as the schema names it. -/
  type : String
  required : Bool := true
  default : Option Json := none
  /-- The values that it may have, if they are listed. -/
  values : Option (List Json) := none
  minimum : Option Binary64 := none
  maximum : Option Binary64 := none
  deriving BEq, Repr, Inhabited

namespace Parameter

/-! ### Making parameters -/

/-- A parameter that is a string. -/
def string (name description : String) : Parameter :=
  { name, description, type := "string" }

/-- A parameter that is an integer. -/
def integer (name description : String) : Parameter :=
  { name, description, type := "integer" }

/-- A parameter that is a truth value. -/
def boolean (name description : String) : Parameter :=
  { name, description, type := "boolean" }

/-- A parameter that may be left out, or not. -/
def requiring (p : Parameter) (required : Bool) : Parameter :=
  if required then p else { p with required := false }

/-! ### Schemas -/

/-- The schema of a parameter. -/
def schema (p : Parameter) : Json :=
  .ofMembers <| [("type", .string p.type), ("description", .string p.description)]
    ++ (p.values.map fun vs => ("enum", Json.array vs)).toList
    ++ (p.default.map fun v => ("default", v)).toList
    ++ (p.minimum.map fun x => ("minimum", Json.ofBinary64 x)).toList
    ++ (p.maximum.map fun x => ("maximum", Json.ofBinary64 x)).toList

/-! ### Documents -/

/-- An optional value, null if it is absent. -/
def orNull {α : Type} (f : α → Json) (v : Option α) : Json :=
  (v.map f).getD .null

/-- A parameter as a JSON value. -/
def toJson (p : Parameter) : Json :=
  .object [("name", .string p.name), ("description", .string p.description),
    ("param_type", .string p.type), ("required", .bool p.required),
    ("default", orNull id p.default), ("enum_values", orNull Json.array p.values),
    ("minimum", orNull Json.ofBinary64 p.minimum),
    ("maximum", orNull Json.ofBinary64 p.maximum)]

/-- The parameter that a JSON value stands for. -/
def decode (v : Json) : Except Decode.Mismatch Parameter := do
  let s ← Decode.slots "ToolParameter" 8 v
  let name := s.field "name" 0 Decode.string none
  let description := s.field "description" 1 Decode.string none
  let type := s.field "param_type" 2 Decode.string none
  let required := s.field "required" 3 Decode.bool none
  let default := s.omissible "default" 4 (Decode.optional Decode.anything) none
  let values :=
    s.omissible "enum_values" 5 (Decode.optional (Decode.list Decode.anything)) none
  let minimum := s.omissible "minimum" 6 (Decode.optional Decode.float) none
  let maximum := s.omissible "maximum" 7 (Decode.optional Decode.float) none
  match name.value, description.value, type.value, required.value, default.value,
      values.value, minimum.value, maximum.value with
  | .ok name, .ok description, .ok type, .ok required, .ok default, .ok values,
      .ok minimum, .ok maximum =>
    s.exhausted 8
    return ⟨name, description, type, required, default, values, minimum, maximum⟩
  | _, _, _, _, _, _, _, _ =>
    throw (s.firstFault [name.fault?, description.fault?, type.fault?, required.fault?,
      default.fault?, values.fault?, minimum.fault?, maximum.fault?])

end Parameter

/-- The schema of the arguments of a tool with these parameters. -/
def inputSchema (parameters : List Parameter) : Json :=
  let required := (parameters.filter (·.required)).map fun p => Json.string p.name
  .ofMembers <| [("type", .string "object"),
      ("properties", .ofMembers (parameters.map fun p => (p.name, p.schema)))]
    ++ if required.isEmpty then [] else [("required", .array required)]

end ToolServer.Tool
