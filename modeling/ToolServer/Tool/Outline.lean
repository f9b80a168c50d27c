/-
The outline of a tool: a text with all its fields, for people to read.

* `Json.outline`: the outline of a value;
* `Definition.outline`: the outline of a tool, without its handler.
-/
import ToolServer.Tool.Definition

namespace ToolServer

/-- Floating-point numbers in an outline are written in place from `10^-4` up
to below `10^16`. -/
def outlineLayout : Layout := ⟨-4, 15, []⟩

/-- Outlines of parts, between commas. -/
def commaList (parts : List String) : String :=
  ", ".intercalate parts

mutual

/-- The outline of a value. -/
def Json.outline : Json → String
  | .null => "Null"
  | .bool b => s!"Bool({b})"
  | .number n => s!"Number({String.ofList n.chars})"
  | .string s => s!"String({Text.quoted s})"
  | .array items => s!"Array [{commaList (outlineItems items)}]"
  | .object members => s!"Object \x7b{commaList (outlineMembers members)}\x7d"

/-- The outlines of the items of an array. -/
def Json.outlineItems : List Json → List String
  | [] => []
  | v :: rest => v.outline :: outlineItems rest

/-- The outlines of the members of an object. -/
def Json.outlineMembers : List (String × Json) → List String
  | [] => []
  | (k, v) :: rest => s!"{Text.quoted k}: {v.outline}" :: outlineMembers rest

end

namespace Tool

/-- The outline of something that may be absent. -/
def outlineOption {α : Type} (f : α → String) : Option α → String
  | none => "None"
  | some v => s!"Some({f v})"

/-- The outline of a list. -/
def outlineList {α : Type} (f : α → String) (items : List α) : String :=
  s!"[{commaList (items.map f)}]"

/-- The outline of a record: its name and its fields. -/
def outlineRecord (name : String) (fields : List (String × String)) (more : List String) :
    String :=
  let parts := fields.map (fun f => s!"{f.1}: {f.2}") ++ more
  s!"{name} \x7b {commaList parts} \x7d"

/-- The outline of a floating-point number. -/
def outlineFloat (x : Binary64) : String :=
  String.ofList (outlineLayout.render x)

/-- The outline of a parameter. -/
def Parameter.outline (p : Parameter) : String :=
  outlineRecord "ToolParameter"
    [("name", Text.quoted p.name), ("description", Text.quoted p.description),
      ("param_type", Text.quoted p.type), ("required", toString p.required),
      ("default", outlineOption Json.outline p.default),
      ("enum_values", outlineOption (outlineList Json.outline) p.values),
      ("minimum", outlineOption outlineFloat p.minimum),
      ("maximum", outlineOption outlineFloat p.maximum)] []

/-- The outline of the rules of caching. -/
def Caching.outline (c : Caching) : String :=
  outlineRecord "ToolCacheMetadata"
    [("cacheable", toString c.cacheable), ("ttl", outlineOption Duration.brief c.ttl),
      ("tags", s!"\x7b{commaList (c.tags.map Text.quoted)}\x7d")] []

/-- The outline of a tool. -/
def Definition.outline (t : Definition) : String :=
  outlineRecord "ToolDefinition"
    [("name", Text.quoted t.name), ("description", Text.quoted t.description),
      ("parameters", outlineList Parameter.outline t.parameters),
      ("streaming", toString t.streaming), ("cache", t.caching.outline)] [".."]

end Tool

end ToolServer
