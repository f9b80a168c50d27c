/-
Who goes on when:

* `Engine.runOut`: an invocation takes steps until it has to wait;
* `Engine.canStep`, `Engine.quiesce`: all invocations go on until every one of
  them has to wait, and no time passes;
* `Engine.nextTime`: the time to which the clock jumps when all have to wait.

An invocation is never interrupted between two steps that it can take.
-/
import ToolServer.Execution.Engine

namespace ToolServer.Execution

/-- A number of steps that no input comes near. -/
def patience : Nat := 1000000000

namespace Engine

/-- Lets an invocation take steps until it has to wait. -/
def runOut : (fuel : Nat) → (id : Nat) → Engine → Engine
  | 0, _, e => e
  | fuel + 1, id, e =>
    match e.advance id with
    | some e => runOut fuel id e
    | none => e

/-- Whether an invocation can take a step, or its deadline can fire its token. -/
def canStepAt (e : Engine) (id : Nat) : Bool :=
  (e.expire id).isSome || (e.advance id).isSome

/-- Whether anything can happen without time passing. -/
def canStep (e : Engine) : Bool :=
  (List.range e.runs.length).any e.canStepAt

/-- Lets every invocation go on in its turn, deadlines first. -/
def round (e : Engine) : Engine :=
  (List.range e.runs.length).foldl
    (fun e id => runOut patience id ((e.expire id).getD e)) e

/-- Lets all invocations go on until every one of them has to wait. -/
def quiesceWithin : (fuel : Nat) → Engine → Engine
  | 0, e => e
  | fuel + 1, e => if e.canStep then quiesceWithin fuel e.round else e

/-- Lets all invocations go on until every one of them has to wait. -/
def quiesce (e : Engine) : Engine :=
  quiesceWithin patience e

/-- The time to which the clock jumps when all have to wait, for the invocations
or for one of some alarms. -/
def nextTime (e : Engine) (alarms : List Nat) : Option Nat :=
  (nextTick e.now (alarms ++ e.timers)).map (timeAtTick e.now)

end Engine

end ToolServer.Execution
