/-
Handlers written as scripts:

* `Instruction`: a step of a script;
* `Instruction.run`, `runAll`: the behaviour of a step and of a script, with
  what comes after it;
* `scripted`: the handler of a script.

A script keeps a record, a list of values that it may return. Every call of a
scripted handler is counted under the name of its tool.
-/
import ToolServer.Execution.Behaviour
import ToolServer.Json.Reader

namespace ToolServer.Execution

/-- What a script emits. -/
inductive Source
  /-- A given emission. -/
  | given (x : Emission)
  /-- A piece of data: one more than the number of emissions so far. -/
  | ordinal

/-- What a script writes into its record. -/
inductive Note
  /-- A given value. -/
  | given (v : Json)
  /-- The number of this call of the tool. -/
  | call
  /-- The identifier of the request. -/
  | requestId
  /-- What the handler sees of its invocation. -/
  | view
  /-- The value of a JSON text; a text that is none ends the script. -/
  | parsed (text : String)

/-- A step of a script. -/
inductive Instruction
  /-- Emits something. If that fails, the script ends, or goes on with the
  failure in its record. -/
  | emit (source : Source) (tolerant : Bool)
  /-- Pauses for a span of time. -/
  | sleep (span : Nat)
  /-- Pauses up to the cancellation of the invocation. -/
  | awaitCancel
  /-- Pauses for a span of time; a cancellation ends the script. -/
  | sleepOrCancel (span : Nat)
  /-- Writes into the record. -/
  | note (n : Note)
  /-- Lays the emitter aside under a name. -/
  | share (name : String)
  /-- Ends the script unless an argument is a string. -/
  | requireString (name : String)
  /-- Ends with a failure. -/
  | fail (e : ToolError)
  /-- Panics. -/
  | panic (message : Option String)
  /-- Ends with a value. -/
  | result (v : Json)
  /-- Ends with the arguments. -/
  | resultArgs
  /-- Ends with the record. -/
  | resultRecord
  /-- Goes through some steps a number of times. -/
  | repeated (times : Nat) (steps : List Instruction)
  deriving Inhabited

/-- What a script knows while it runs. -/
structure Frame where
  /-- The arguments of the call. -/
  args : Json
  /-- The identifier of the request. -/
  requestId : String
  /-- The number of this call of the tool. -/
  call : Nat
  /-- The number of emissions that were tried. -/
  emissions : Nat := 0
  /-- The record, last entry first. -/
  record : List Json := []

/-- Writes into the record. -/
def Frame.push (f : Frame) (v : Json) : Frame :=
  { f with record := v :: f.record }

/-- What a handler sees of its invocation, as a JSON value. -/
def View.toJson (v : View) : Json :=
  .object [("cancelled", .bool v.cancelled), ("deadline_exceeded", .bool v.deadlineExceeded),
    ("remaining", .string (Duration.inSeconds v.remaining)), ("tool", .string v.tool)]

/-- A behaviour with something to come after it. -/
abbrev Continued := Frame → (Frame → Behaviour) → Behaviour

/-- Goes through something a number of times. -/
def times (step : Continued) : Nat → Continued
  | 0, f, next => next f
  | n + 1, f, next => step f fun f => times step n f next

/-- Emits something. -/
def Source.run (s : Source) (tolerant : Bool) : Continued := fun f next =>
  let x := match s with
    | .given x => x
    | .ordinal => .data (.ofNat (f.emissions + 1))
  .emit x fun failure =>
    let f := { f with emissions := f.emissions + 1 }
    match failure with
    | none => next (if tolerant then f.push (.string "ok") else f)
    | some e =>
      if tolerant then next (f.push (.string e.message))
      else .done (.failed (.ofEmit e))

/-- Writes into the record. -/
def Note.run (n : Note) : Continued := fun f next =>
  match n with
  | .given v => next (f.push v)
  | .call => next (f.push (.ofNat f.call))
  | .requestId => next (f.push (.string f.requestId))
  | .view => .look fun v => next (f.push v.toJson)
  | .parsed text =>
    match Json.ofText text with
    | .ok v => next (f.push v)
    | .error e => .done (.failed (.invalidArguments e.message))

mutual

/-- The behaviour of a step. -/
def Instruction.run : Instruction → Continued
  | .emit source tolerant => source.run tolerant
  | .sleep span => fun f next => .pause (some span) false fun _ => next f
  | .awaitCancel => fun f next => .pause none true fun _ => next f
  | .sleepOrCancel span => fun f next =>
    .pause (some span) true fun
      | .elapsed => next f
      | .cancelled => .done (.failed .cancelled)
  | .note n => n.run
  | .share name => fun f next => .share name (next f)
  | .requireString name => fun f next =>
    match (f.args.get? name).bind Json.string? with
    | some _ => next f
    | none => .done (.failed (.invalidArguments (name ++ " must be a string")))
  | .fail e => fun _ _ => .done (.failed e)
  | .panic message => fun _ _ => .done (.panicked message)
  | .result v => fun _ _ => .done (.ok v)
  | .resultArgs => fun f _ => .done (.ok f.args)
  | .resultRecord => fun f _ => .done (.ok (.array f.record.reverse))
  | .repeated n steps => times (runAll steps) n

/-- The behaviour of a list of steps. -/
def runAll : List Instruction → Continued
  | [] => fun f next => next f
  | i :: rest => fun f next => i.run f fun f => runAll rest f next

end

/-- The handler of a script. A script that comes to its end returns null. -/
def scripted (steps : List Instruction) : Handler := fun args =>
  .look fun v => .count v.tool fun call =>
    runAll steps { args, requestId := v.requestId, call } fun _ => .done (.ok .null)

end ToolServer.Execution
