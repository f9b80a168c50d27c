/-
The tools that a server knows:

* `Registry`: tools by name, in increasing order of their names;
* `register`: puts a tool in, in place of an earlier one of its name;
* `get?`, `contains`, `list`, `names`, `size`: what is in a registry.
-/
import ToolServer.Tool.Definition

namespace ToolServer.Tool

/-- Puts a tool in its place among tools with increasing names. -/
def insertTool (t : Definition) : List Definition → List Definition
  | [] => [t]
  | u :: rest =>
    if t.name < u.name then t :: u :: rest
    else if t.name = u.name then t :: rest
    else u :: insertTool t rest

/-- The tools that a server knows. -/
structure Registry where
  /-- The tools, in increasing order of their names. -/
  tools : List Definition := []

namespace Registry

/-- The tool of a name. -/
def get? (r : Registry) (name : String) : Option Definition :=
  r.tools.find? fun t => t.name = name

/-- Puts a tool in, and gives back the tool that had its name. -/
def register (r : Registry) (t : Definition) : Option Definition × Registry :=
  (r.get? t.name, ⟨insertTool t r.tools⟩)

/-- The registry of some tools, the last one of every name. -/
def ofList (tools : List Definition) : Registry :=
  tools.foldl (fun r t => (r.register t).2) {}

/-- Whether there is a tool of a name. -/
def contains (r : Registry) (name : String) : Bool :=
  (r.get? name).isSome

/-- All tools, sorted by their names, whatever the order in which they are kept. -/
def list (r : Registry) : List Definition :=
  r.tools.mergeSort fun t u => t.name ≤ u.name

/-- The names of all tools, in increasing order. -/
def names (r : Registry) : List String :=
  r.list.map (·.name)

/-- The number of tools. -/
def size (r : Registry) : Nat :=
  r.tools.length

/-- The rules of caching of the tool of a name. -/
def caching? (r : Registry) (name : String) : Option Caching :=
  (r.get? name).map (·.caching)

end Registry

end ToolServer.Tool
