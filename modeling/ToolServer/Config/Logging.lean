/-
How the server logs:

* `LogFormat`: the form of the lines, and the form that a text names;
* `LoggingConfig`: the form and the filter;
* `LogFilter.check`: whether a text is a list of filter directives.

A directive is a level, a target, or a target or a span with a level.
-/
import ToolServer.Error
import ToolServer.Json.Decode
import ToolServer.Text.Alphanumeric
import ToolServer.Text.Blank
import ToolServer.Text.Digits

namespace ToolServer

/-! ### The form of the lines -/

/-- The form of the lines. -/
inductive LogFormat
  | pretty | compact | json
  deriving DecidableEq, Repr, Inhabited

namespace LogFormat

/-- The name of a form. -/
def name : LogFormat → String
  | .pretty => "pretty"
  | .compact => "compact"
  | .json => "json"

/-- The form that a text names; blanks around it and capitals do not matter. -/
def ofText (s : String) : Except ServerError LogFormat :=
  let word := Text.lowerAscii (Text.trim s)
  if word = "pretty" then .ok .pretty
  else if word = "compact" then .ok .compact
  else if word = "json" then .ok .json
  else
    .error (.config s!"unknown log format '{word}', expected pretty, compact or json")

/-- The form that a document names. -/
def decode {α : Type} [Decode.Document α] : Decode.Decoder α LogFormat :=
  Decode.choice [("pretty", .pretty), ("compact", .compact), ("json", .json)]

end LogFormat

/-! ### Filters -/

namespace LogFilter

/-- Whether a text is a level: a name or a number up to five. -/
def isLevel (cs : List Char) : Bool :=
  (Text.numeral? cs).any (· ≤ 5)
    || Text.lowerAscii (String.ofList cs) ∈ ["error", "warn", "info", "debug", "trace", "off"]

/-- Whether a character may start a target or a level. -/
def startsName (c : Char) : Bool :=
  Text.isAlphanumeric c || c == '-' || c == ':' || c == '_'

/-- Where the reading of a directive stands. -/
inductive Place
  /-- Nothing has been read. -/
  | start
  /-- In a target or a level. -/
  | name
  /-- Between the brackets of a span. -/
  | span
  /-- Between the braces of a span, with the number of characters of the field
  so far. -/
  | field (length : Nat)
  /-- Behind the braces of a span. -/
  | fields
  /-- Behind the brackets of a span. -/
  | target
  /-- In a level that starts at some character. -/
  | level (first : Nat)
  deriving Repr, DecidableEq

/-- Takes in the character at some index. -/
def Place.next (p : Place) (index : Nat) (c : Char) : Option Place :=
  match p with
  | .start =>
    if c == '[' then some .span else if startsName c then some .name else none
  | .name =>
    if c == '=' then some (.level (index + 1)) else if c == '[' then some .span
    else some .name
  | .span =>
    if c == ']' then some .target else if c == '\x7b' then some (.field 0)
    else some .span
  | .field length =>
    if c == '\x7d' then if length = 0 then none else some .fields
    else some (.field (length + 1))
  | .fields => if c == ']' then some .target else none
  | .target => if c == '=' then some (.level (index + 1)) else none
  | .level first => some (.level first)

/-- Takes in a list of characters from some index on. -/
def Place.run (p : Place) (index : Nat) : List Char → Option Place
  | [] => some p
  | c :: rest =>
    match p.next index c with
    | some p => p.run (index + 1) rest
    | none => none

/-- What is wrong with a directive. -/
inductive Fault
  | malformed
  | unknownLevel
  deriving DecidableEq, Repr

/-- What is wrong with a directive, in words. -/
def Fault.message : Fault → String
  | .malformed => "invalid filter directive"
  | .unknownLevel =>
    "error parsing level filter: expected one of \"off\", \"error\", \"warn\", \"info\", "
      ++ "\"debug\", \"trace\", or a number 0-5"

/-- Reads a directive. Blanks around it are passed over, but a level is looked for
in the whole text. -/
def checkDirective (cs : List Char) : Except Fault Unit :=
  match Place.start.run 0 (Text.trimEnd (cs.dropWhile Text.isBlank)) with
  | some .name | some .target => .ok ()
  | some (.level first) =>
    if (cs.drop first).isEmpty || isLevel (cs.drop first) then .ok () else .error .unknownLevel
  | _ => .error .malformed

/-- Reads a list of directives between commas, of which some may be empty. -/
def check (level : String) : Except Fault Unit :=
  (level.splitOn ",").forM fun part =>
    if part.isEmpty then .ok () else checkDirective part.toList

/-- Whether a text is a list of directives. -/
def accepts (level : String) : Bool :=
  match check level with
  | .ok () => true
  | .error _ => false

end LogFilter

/-! ### The configuration -/

/-- How the server logs. -/
structure LoggingConfig where
  /-- The filter. -/
  level : String := "info"
  /-- The form of the lines. -/
  format : LogFormat := .pretty
  deriving DecidableEq, Repr, Inhabited

namespace LoggingConfig

/-- A configuration as a JSON value. -/
def toJson (c : LoggingConfig) : Json :=
  .object [("level", .string c.level), ("format", .string c.format.name)]

/-- The configuration that a document stands for; fields that are left out have
their defaults. -/
def decode {α : Type} [Decode.Document α] (d : α) :
    Except Decode.Mismatch LoggingConfig := do
  let unset : LoggingConfig := {}
  let s ← Decode.slots "LoggingConfig" 2 d
  let level := s.field "level" 0 Decode.string (some unset.level)
  let format := s.field "format" 1 LogFormat.decode (some unset.format)
  match level.value, format.value with
  | .ok level, .ok format =>
    s.exhausted 2
    return ⟨level, format⟩
  | _, _ => throw (s.firstFault [level.fault?, format.fault?])

end LoggingConfig

end ToolServer
