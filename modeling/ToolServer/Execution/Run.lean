/-
One invocation and its queue of events:

* `Run`: where an invocation stands, what its reader has not yet read, and the
  numbers that its emitter keeps;
* `Run.emitStep`: the steps of an emission, between which others may emit too;
* `Run.publish`: what becomes of an emission that takes its steps at once;
* `Run.deliver`: what becomes of the first and the last event;
* `Run.conclude`: the state and the last event that an outcome leads to.

An emission is refused by a closed emitter, then by a cancelled invocation,
then by the limit of events; only one that passes these gets a number, and it
is lost if the queue has no room or no reader.
-/
import ToolServer.Execution.Config
import ToolServer.Execution.Context
import ToolServer.Execution.Timer

namespace ToolServer.Execution

/-- The states that an invocation shows. -/
inductive RunState
  | init | running | done | error | canceled
  deriving Repr, DecidableEq, Inhabited

/-- The name of a state. -/
def RunState.name : RunState → String
  | .init => "init"
  | .running => "running"
  | .done => "done"
  | .error => "error"
  | .canceled => "canceled"

/-- Whether a state is never left. -/
def RunState.isTerminal : RunState → Bool
  | .done | .error | .canceled => true
  | .init | .running => false

/-- Where an invocation stands. -/
inductive Stage
  /-- It has not yet asked for a slot. -/
  | arriving
  /-- It stands in line for a slot. -/
  | waiting
  /-- Its handler goes on with this behaviour. -/
  | active (b : Behaviour)
  /-- Its handler pauses up to some time, if one is given, and up to the
  cancellation, if it watches for that. -/
  | asleep (wakeAt : Option Nat) (watching : Bool) (next : Wake → Behaviour)
  /-- Its last event waits for room up to some time. -/
  | delivering (last : Event) (giveUp : Nat)
  /-- It is over. -/
  | finished

/-- An invocation. -/
structure Run where
  /-- The name of the tool. -/
  tool : String
  /-- The identifier of the request. -/
  requestId : String
  /-- The arguments. -/
  args : Json
  /-- The token that cancels the invocation from outside. -/
  caller : Token
  /-- The token of the invocation itself, below the caller's. -/
  scope : Token
  /-- What the handler does. -/
  body : Behaviour
  /-- The state that the invocation shows. -/
  state : RunState := .init
  /-- Where the invocation stands. -/
  stage : Stage := .arriving
  /-- The events that wait for the reader. -/
  queue : List Event := []
  /-- Whether there still is a reader. -/
  reading : Bool := true
  /-- Whether the emitter is open. -/
  emitting : Bool := false
  /-- The number of the last emission that got one. -/
  sequence : Nat := 0
  /-- The number of emissions that were queued. -/
  delivered : Nat := 0
  /-- The time at which the invocation got its slot. -/
  started : Nat := 0
  /-- The time at which the invocation should be over. -/
  deadline : Nat := 0

/-- How far an emission has come. -/
inductive Emission.Phase
  /-- It has been asked for. -/
  | called
  /-- It has found the emitter open, and keeps it open until it has its answer. -/
  | admitted
  /-- It has found the invocation not cancelled. -/
  | wanted
  /-- It has found the limit not reached. -/
  | allowed
  /-- It has its number. -/
  | numbered (n : Nat)
  /-- It is queued and not yet counted. -/
  | queued
  /-- It has its answer: the failure if there is one. -/
  | answered (failure : Option EmitError)
  deriving Repr, DecidableEq

/-- The answer of an emission that has one. -/
def Emission.Phase.answer? : Emission.Phase → Option (Option EmitError)
  | .answered failure => some failure
  | .called | .admitted | .wanted | .allowed | .numbered _ | .queued => none

namespace Run

/-- Whether the invocation is over. -/
def isFinished (r : Run) : Bool :=
  match r.stage with
  | .finished => true
  | _ => false

/-- Whether the invocation holds a slot. -/
def holdsSlot (r : Run) : Bool :=
  match r.stage with
  | .active _ | .asleep .. | .delivering .. => true
  | .arriving | .waiting | .finished => false

/-- What the invocation's handler knows about it. -/
def context (r : Run) : Context :=
  ⟨r.tool, r.requestId, r.scope, r.deadline⟩

/-! ### Emitting -/

/-- One step of an emission: the invocation afterwards, and how far the emission
has come. -/
def emitStep (maxEvents capacity : Nat) (cancelled : Bool) (x : Emission) (r : Run) :
    Emission.Phase → Run × Emission.Phase
  | .called => (r, if r.emitting then .admitted else .answered (some .closed))
  | .admitted => (r, if cancelled then .answered (some .cancelled) else .wanted)
  | .wanted =>
    (r, if maxEvents ≤ r.delivered then .answered (some (.limitExceeded maxEvents)) else .allowed)
  | .allowed => ({ r with sequence := r.sequence + 1 }, .numbered (r.sequence + 1))
  | .numbered n =>
    if !r.reading then (r, .answered (some .channelClosed))
    else if capacity ≤ r.queue.length then (r, .answered (some .channelFull))
    else ({ r with queue := r.queue ++ [x.event n] }, .queued)
  | .queued => ({ r with delivered := r.delivered + 1 }, .answered none)
  | .answered failure => (r, .answered failure)

/-- Some steps of an emission that nothing comes between. -/
def emitSteps (maxEvents capacity : Nat) (cancelled : Bool) (x : Emission) :
    Nat → Run → Emission.Phase → Run × Emission.Phase
  | 0, r, phase => (r, phase)
  | n + 1, r, phase =>
    let (r, phase) := r.emitStep maxEvents capacity cancelled x phase
    emitSteps maxEvents capacity cancelled x n r phase

/-- What becomes of an emission that nothing comes between, which has its answer after six
steps: the invocation afterwards, and the failure if there is one. -/
def publish (maxEvents capacity : Nat) (cancelled : Bool) (x : Emission) (r : Run) :
    Run × Option EmitError :=
  let (r, phase) := emitSteps maxEvents capacity cancelled x 6 r .called
  (r, phase.answer?.join)

/-! ### The first and the last event -/

/-- What becomes of an event that may wait for room. -/
inductive Delivery
  /-- It is queued, or nobody would read it. -/
  | settled
  /-- It has waited long enough and is lost. -/
  | abandoned
  /-- It has to wait. -/
  | blocked
  deriving Repr, DecidableEq

/-- Queues an event if there is room and a reader. `late` says whether it has
waited long enough. -/
def deliver (capacity : Nat) (late : Bool) (e : Event) (r : Run) : Run × Delivery :=
  if !r.reading then (r, .settled)
  else if r.queue.length < capacity then ({ r with queue := r.queue ++ [e] }, .settled)
  else if late then (r, .abandoned)
  else (r, .blocked)

/-! ### The outcome -/

/-- How an invocation ends: the state it shows, its last event, and whether it
has passed its deadline. -/
structure Conclusion where
  state : RunState
  last : Event
  timedOut : Bool := false
  deriving Repr, BEq

/-- The conclusion that an outcome leads to at some time. A value counts
whatever has happened meanwhile; a failure is put down first to the caller,
then to the deadline, and only then to the tool. -/
def conclude (timeout : Nat) (now : Nat) (callerCancelled : Bool) (o : Outcome)
    (r : Run) : Conclusion :=
  match o, o.error? with
  | .ok v, _ =>
    ⟨.done, .done (now - r.started) r.delivered (some (r.tool ++ " completed"))
      (if v.isNull then none else some v), false⟩
  | _, error =>
    let error := error.getD (.other "")
    if callerCancelled then ⟨.canceled, .error error.message false, false⟩
    else if r.deadline ≤ now then
      ⟨.error, .error ("execution timeout after " ++ Duration.brief timeout) false, true⟩
    else ⟨.error, .error error.message error.isRetryable, false⟩

end Run

end ToolServer.Execution
