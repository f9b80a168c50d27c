/-
The tools that the program itself brings along:

* `echo`: gives a text back;
* `wordCount`: counts words, lines and characters;
* `countdown`: counts down to zero, a step at a time;
* `clock`: tells the time;
* `registry`: all of them.
-/
import ToolServer.Duration.Calendar
import ToolServer.Tool.Registry

namespace ToolServer.Demo

open ToolServer.Execution
open ToolServer.Tool (Definition Draft Parameter Registry)

/-! ### Arguments -/

/-- The argument `text`, which must be a string. -/
def textArg (args : Json) : Except ToolError String :=
  match (args.get? "text").bind Json.string? with
  | some s => .ok s
  | none => .error (.invalidArguments "'text' must be a string")

/-- An argument that is a natural number below `2^64`, if it is there. -/
def naturalArg (args : Json) (name : String) (unset : UInt64) : Except ToolError UInt64 :=
  match args.get? name with
  | none | some .null => .ok unset
  | some v =>
    match v.natural? with
    | some n => .ok n
    | none => .error (.invalidArguments s!"'{name}' must be a non-negative integer")

/-- The behaviour of a handler that only computes. -/
def computing (f : Json → Except ToolError Json) : Handler := fun args =>
  match f args with
  | .ok v => .done (.ok v)
  | .error e => .done (.failed e)

/-! ### The tools -/

/-- Gives the given text back. -/
def echo : Draft :=
  ({ name := "echo" } : Draft).describe "Echo the given text back"
    |>.param (.string "text" "Text to echo")
    |>.cacheable none |>.tag "demo"
    |>.handle (computing fun args => do
      let text ← textArg args
      return .object [("text", .string text)])

/-- How long a count of words is kept. -/
def wordCountTtl : Nat := Duration.secs 600

/-- Counts the words, lines and characters of a text. -/
def wordCount : Draft :=
  ({ name := "word_count" } : Draft).describe "Count words, lines and characters in text"
    |>.param (.string "text" "Text to analyse")
    |>.cacheable (some wordCountTtl) |>.tag "demo" |>.tag "text"
    |>.handle (computing fun args => do
      let text ← textArg args
      return .object [("chars", .ofNat text.length), ("lines", .ofNat (Text.lineCount text)),
        ("words", .ofNat (Text.wordCount text))])

/-- Goes on if an emission has not failed. -/
def unlessFailed (next : Behaviour) : Option EmitError → Behaviour
  | none => next
  | some e => .done (.failed (.ofEmit e))

/-- Counts down from `total`, of which `left` steps are left. -/
def countDown (total : Nat) (interval : Nat) : (left : Nat) → Behaviour
  | 0 => .done (.ok .null)
  | left + 1 =>
    .emit (.progress (total - left).toUInt64 total.toUInt64 s!"{left} left") <| unlessFailed <|
      .emit (.data (.ofNat left)) <| unlessFailed <|
        if left = 0 then countDown total interval left
        else .pause (some interval) true fun
          | .cancelled => .done (.failed .cancelled)
          | .elapsed => countDown total interval left

/-- The largest number to count down from. -/
def maxFrom : UInt64 := 1000

/-- Counts down to zero, telling every step. -/
def countdown : Draft :=
  ({ name := "countdown" } : Draft).describe "Count down to zero, streaming each step"
    |>.param ((Parameter.integer "from" "Starting number (default 5)").requiring false)
    |>.param ((Parameter.integer "interval_ms" "Delay between steps (default 200)").requiring
      false)
    |>.stream |>.tag "demo"
    |>.handle fun args =>
      match naturalArg args "from" 5 with
      | .error e => .done (.failed e)
      | .ok start =>
        if maxFrom < start then
          .done (.failed (.invalidArguments s!"'from' must be at most {maxFrom}"))
        else match naturalArg args "interval_ms" 200 with
          | .error e => .done (.failed e)
          | .ok interval =>
            countDown start.toNat (Duration.millis interval.toNat) start.toNat

/-- Tells the time, the clock having been started `epoch` nanoseconds after the
beginning of 1970. -/
def clock (epoch : Nat) : Draft :=
  ({ name := "now" } : Draft).describe "Current UTC time"
    |>.uncacheable |>.tag "demo"
    |>.handle fun _ => .look fun v =>
      let now := epoch + v.now
      .done (.ok (.object [("unix_ms", .ofNat (Duration.wholeMillis now)),
        ("utc", .string (Calendar.utcText now))]))

/-- All tools, for a clock started at `epoch`. -/
def registry (epoch : Nat) : Except ServerError Registry := do
  let tools ← [echo, wordCount, countdown, clock epoch].mapM Draft.build
  return .ofList tools

end ToolServer.Demo
