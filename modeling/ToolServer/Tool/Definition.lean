/-
Tools and how they are put together:

* `Definition`: a tool, with its parameters, its rules of caching and its
  handler;
* `Draft`: a tool that is being put together, and the steps of doing so;
* `Draft.build`: the finished tool, if it has a name and a handler.
-/
import ToolServer.Execution.Behaviour
import ToolServer.Text.Blank
import ToolServer.Tool.Caching
import ToolServer.Tool.Parameter

namespace ToolServer.Tool

/-- A tool. -/
structure Definition where
  name : String
  description : String
  parameters : List Parameter
  /-- Whether its events can be followed while it runs. -/
  streaming : Bool
  caching : Caching
  handler : Execution.Handler

/-- The schema of a tool's arguments. -/
def Definition.schema (t : Definition) : Json :=
  inputSchema t.parameters

/-- A tool that is being put together. -/
structure Draft where
  name : String
  description : String := ""
  parameters : List Parameter := []
  streaming : Bool := false
  caching : Caching := {}
  handler : Option Execution.Handler := none

namespace Draft

/-- Describes the tool. -/
def describe (t : Draft) (description : String) : Draft :=
  { t with description }

/-- Adds a parameter. -/
def param (t : Draft) (p : Parameter) : Draft :=
  { t with parameters := t.parameters ++ [p] }

/-- Lets the events of the tool be followed. -/
def stream (t : Draft) : Draft :=
  { t with streaming := true }

/-- Lets results be kept, for some time if one is given. -/
def cacheable (t : Draft) (ttl : Option Nat) : Draft :=
  { t with caching := { t.caching with cacheable := true, ttl } }

/-- Lets no results be kept. -/
def uncacheable (t : Draft) : Draft :=
  { t with caching := { t.caching with cacheable := false, ttl := none } }

/-- Adds a tag. -/
def tag (t : Draft) (tag : String) : Draft :=
  { t with caching := t.caching.tag tag }

/-- Gives the tool its handler. -/
def handle (t : Draft) (handler : Execution.Handler) : Draft :=
  { t with handler := some handler }

/-- The finished tool, which needs a name and a handler. -/
def build (t : Draft) : Except ServerError Definition :=
  if Text.isBlankString t.name then
    .error (.config "tool name must not be empty")
  else match t.handler with
    | none => .error (.tool t.name "no handler configured")
    | some handler =>
      .ok { name := t.name, description := t.description, parameters := t.parameters,
            streaming := t.streaming, caching := t.caching, handler }

end Draft

end ToolServer.Tool
