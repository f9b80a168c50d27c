/-
Events as blocks of text for an event stream:

* `Block`: the event name, the identifier and the data of a block;
* `Block.text`: its lines, every line of the data with a field name of its own;
* `Block.ofEvent`, `Event.block`: the block of an event.
-/
import ToolServer.Event.Basic
import ToolServer.Json.Printer

namespace ToolServer

/-- A block of an event stream. -/
structure Block where
  /-- The name of the event, if it has one. -/
  event : Option String
  /-- The identifier, if it has one. -/
  id : Option String
  /-- The data, of any number of lines. -/
  data : String
  deriving Repr, DecidableEq

namespace Block

/-- Puts a character in front of the lines of a text. -/
def consLine (c : Char) (ls : List (List Char)) : List (List Char) :=
  if c = '\n' then [] :: ls
  else match ls with
    | [] => [[c]]
    | l :: ls => (c :: l) :: ls

/-- The lines of a text: what stands between its line feeds. -/
def lines (cs : List Char) : List (List Char) :=
  cs.foldr consLine [[]]

/-- A line without one carriage return at its end. -/
def dropReturn (line : List Char) : List Char :=
  if line.getLast? = some '\r' then line.dropLast else line

/-- A line of a block: a field and its value. -/
def fieldLine (field : String) (value : List Char) : List Char :=
  field.toList ++ ':' :: ' ' :: value ++ ['\n']

/-- The line with the name of the event, if there is a name. -/
def eventLine : Option String → List Char
  | some e => if e.isEmpty then [] else fieldLine "event" e.toList
  | none => []

/-- The line with the identifier, if there is one. -/
def idLine : Option String → List Char
  | some id => fieldLine "id" id.toList
  | none => []

/-- The text of a block, with the empty line that ends it. -/
def text (b : Block) : String :=
  String.ofList <| eventLine b.event ++ idLine b.id
    ++ (lines b.data.toList).flatMap (fun l => fieldLine "data" (dropReturn l))
    ++ ['\n']

/-- The block of an event; an empty request identifier is left out. -/
def ofEvent (e : Event) (requestId : String) : Block where
  event := some e.kind.name
  id := if requestId.isEmpty then none else some requestId
  data := e.payload.text

end Block

/-- The text of an event's block. -/
def Event.block (e : Event) (requestId : String) : String :=
  (Block.ofEvent e requestId).text

end ToolServer
