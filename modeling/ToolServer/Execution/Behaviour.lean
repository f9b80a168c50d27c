/-
What tool handlers do:

* `Behaviour`: a tree of the steps of a handler, branching on what each step
  answers, with an outcome at every leaf;
* `Emission`, `View`, `Wake`, `Outcome`: what a step emits and sees, why a
  pause ends and how a handler ends;
* `Handler`: the behaviour for given arguments.

A behaviour is a finite tree along every branch, so a handler that has all its
answers comes to an end.
-/
import ToolServer.Error
import ToolServer.Event.Basic

namespace ToolServer.Execution

/-- What a handler emits. -/
inductive Emission
  /-- A piece of the result. -/
  | data (chunk : Json)
  /-- How far the work has come. -/
  | progress (current total : UInt64) (message : String)
  deriving BEq, Repr, Inhabited

/-- The event of an emission with its number. -/
def Emission.event (sequence : Nat) : Emission → Event
  | .data chunk => .data chunk sequence
  | .progress current total message => .progress current total message sequence

/-- What a handler sees of its invocation. -/
structure View where
  /-- The name of the tool. -/
  tool : String
  /-- The identifier of the request. -/
  requestId : String
  /-- Whether the invocation is cancelled. -/
  cancelled : Bool
  /-- Whether the deadline has been reached. -/
  deadlineExceeded : Bool
  /-- The time left up to the deadline. -/
  remaining : Nat
  /-- The time on the clock. -/
  now : Nat
  deriving Repr, DecidableEq

/-- Why a pause ends. -/
inductive Wake
  /-- The time is over. -/
  | elapsed
  /-- The invocation is cancelled. -/
  | cancelled
  deriving Repr, DecidableEq

/-- How a handler ends. -/
inductive Outcome
  /-- With a value. -/
  | ok (value : Json)
  /-- With a failure. -/
  | failed (error : ToolError)
  /-- By a panic, with or without a message. -/
  | panicked (message : Option String)
  deriving BEq, Repr

/-- What a handler does from some point on. -/
inductive Behaviour
  /-- It ends. -/
  | done (outcome : Outcome)
  /-- It emits something, and learns whether that failed. -/
  | emit (emission : Emission) (next : Option EmitError → Behaviour)
  /-- It looks at its invocation. -/
  | look (next : View → Behaviour)
  /-- It pauses for a span of time, if one is given, and up to the cancellation
  of its invocation, if it watches for that. -/
  | pause (span : Option Nat) (watching : Bool) (next : Wake → Behaviour)
  /-- It adds one to a counter and learns the sum. -/
  | count (counter : String) (next : Nat → Behaviour)
  /-- It lays its emitter aside under a name. -/
  | share (name : String) (next : Behaviour)

/-- A handler: its behaviour for given arguments. -/
abbrev Handler := Json → Behaviour

/-- The failure that an outcome stands for, if it is no value. -/
def Outcome.error? : Outcome → Option ToolError
  | .ok _ => none
  | .failed e => some e
  | .panicked (some message) => some (.executionFailed ("handler panicked: " ++ message))
  | .panicked none => some (.executionFailed "handler panicked")

end ToolServer.Execution
