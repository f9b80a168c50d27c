/-
The events of an invocation:

* `Event`: a start, pieces of data and progress, and an end or an error;
* `Event.kind`, `Event.isTerminal`, `Event.sequence?`: what an event is;
* `Event.payload`: its content as a JSON value.
-/
import ToolServer.Duration.Basic
import ToolServer.Json.Value

namespace ToolServer

/-- The kinds of events. -/
inductive EventKind
  | start | data | progress | done | error
  deriving Repr, DecidableEq

/-- The name of a kind. -/
def EventKind.name : EventKind → String
  | .start => "start"
  | .data => "data"
  | .progress => "progress"
  | .done => "end"
  | .error => "error"

/-- Whether an event of this kind is the last one of its invocation. -/
def EventKind.isTerminal : EventKind → Bool
  | .done | .error => true
  | _ => false

/-- An event of an invocation. -/
inductive Event
  /-- The invocation of a tool begins. -/
  | start (tool requestId : String) (args : Json)
  /-- A piece of the result. -/
  | data (chunk : Json) (sequence : Nat)
  /-- How far the work has come. -/
  | progress (current total : UInt64) (message : String) (sequence : Nat)
  /-- The invocation has succeeded. -/
  | done (duration : Nat) (count : Nat) (summary : Option String)
      (result : Option Json)
  /-- The invocation has failed. -/
  | error (message : String) (retryable : Bool)
  deriving BEq, Repr, Inhabited

namespace Event

/-- The kind of an event. -/
def kind : Event → EventKind
  | .start .. => .start
  | .data .. => .data
  | .progress .. => .progress
  | .done .. => .done
  | .error .. => .error

/-- Whether the event is the last one of its invocation. -/
def isTerminal (e : Event) : Bool :=
  e.kind.isTerminal

/-- The number of a piece of data or progress. -/
def sequence? : Event → Option Nat
  | .data _ n => some n
  | .progress _ _ _ n => some n
  | _ => none

/-- How much of the work is done, of a hundred; zero if there is none to do. -/
def percentage (current total : UInt64) : Binary64 :=
  if total = 0 then .zero
  else ((Binary64.ofNat64 current).div (.ofNat64 total)).mul (.ofNat64 100)

/-- The content of an event. Arguments that are null, a message that is empty
and what is absent are left out. -/
def payload : Event → Json
  | .start tool requestId args =>
    .object <| [("tool_name", .string tool), ("request_id", .string requestId)]
      ++ if args.isNull then [] else [("args", args)]
  | .data chunk n => .object [("chunk", chunk), ("sequence", .ofNat n)]
  | .progress current total message n =>
    .object <| [("current", .number (.natural current)), ("total", .number (.natural total)),
        ("percentage", .ofBinary64 (percentage current total))]
      ++ (if message.isEmpty then [] else [("message", .string message)])
      ++ [("sequence", .ofNat n)]
  | .done duration count summary result =>
    .object <|
      [("duration_ms", .ofNat (Duration.wholeMillis duration)), ("event_count", .ofNat count)]
      ++ (summary.map fun s => ("summary", Json.string s)).toList
      ++ (result.map fun v => ("result", v)).toList
  | .error message retryable =>
    .object [("message", .string message), ("retryable", .bool retryable)]

end Event

end ToolServer
