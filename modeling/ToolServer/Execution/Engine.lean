/-
The executor: all invocations, the slots they share and the counts it keeps.

* `Engine`: the state of an executor;
* `Engine.submit`: a new invocation;
* `Engine.advance`: one step of an invocation, if it can take one;
* `Engine.expire`: an invocation's deadline fires its token;
* `Engine.take`, `Engine.drop`: what the reader of an invocation does;
* `Engine.stats`: the counts as they are shown.

Slots are handed out in the order of asking: a slot that is given back goes to
the first in line, and to the free ones only if nobody waits.
-/
import ToolServer.Execution.Run

namespace ToolServer.Execution

/-- The counts that an executor keeps. -/
structure Counters where
  total : Nat := 0
  succeeded : Nat := 0
  failed : Nat := 0
  cancellations : Nat := 0
  timeouts : Nat := 0
  dropped : Nat := 0
  deriving Repr, DecidableEq, Inhabited

/-- The state of an executor. -/
structure Engine where
  /-- The limits. -/
  config : ExecutorConfig
  /-- The time. -/
  now : Nat := 0
  /-- The tokens that have been fired. -/
  fired : List Token := []
  /-- The number of tokens that have been made below others. -/
  children : Nat := 0
  /-- All invocations, in the order of their submission. -/
  runs : List Run := []
  /-- The number of slots that nobody has. -/
  free : Nat
  /-- The invocations in line for a slot. -/
  line : List Nat := []
  /-- The invocations that have been given a slot and have not yet noticed. -/
  granted : List Nat := []
  /-- The counts. -/
  counters : Counters := {}
  /-- The counters of handlers. -/
  tally : List (String × Nat) := []
  /-- The emitters that handlers have laid aside, by name. -/
  shared : List (String × Nat) := []

namespace Engine

/-- A new executor. -/
def new (config : ExecutorConfig) : Engine :=
  { config, free := config.slots }

/-- Whether a token is cancelled. -/
def isCancelled (e : Engine) (t : Token) : Bool :=
  t.isCancelled e.fired

/-- Fires a token. -/
def fire (e : Engine) (t : Token) : Engine :=
  { e with fired := t :: e.fired }

/-- A new token below another. -/
def childOf (e : Engine) (t : Token) : Token × Engine :=
  (.child t e.children, { e with children := e.children + 1 })

/-- Puts an invocation in the place of one. -/
def setRun (e : Engine) (id : Nat) (r : Run) : Engine :=
  { e with runs := e.runs.set id r }

/-- Changes the counts. -/
def countUp (e : Engine) (f : Counters → Counters) : Engine :=
  { e with counters := f e.counters }

/-! ### Submitting -/

/-- A new invocation of a handler under a caller's token. -/
def submit (e : Engine) (tool requestId : String) (args : Json) (caller : Token)
    (handler : Handler) : Nat × Engine :=
  let (scope, e) := e.childOf caller
  let r : Run := { tool, requestId, args, caller, scope, body := handler args }
  (e.runs.length,
    { e with
        runs := e.runs ++ [r]
        counters := { e.counters with total := e.counters.total + 1 } })

/-! ### Slots -/

/-- Gives a slot back. -/
def release (e : Engine) : Engine :=
  match e.line with
  | [] => { e with free := e.free + 1 }
  | id :: rest => { e with line := rest, granted := e.granted ++ [id] }

/-- Takes an invocation out of the line; a slot that it has been given and not
used goes back. -/
def leaveLine (e : Engine) (id : Nat) : Engine :=
  let e := { e with line := e.line.erase id }
  if id ∈ e.granted then { e with granted := e.granted.erase id }.release else e

/-- The words of the event for an invocation that is cancelled in line. -/
def cancelledEarly : String := "invocation cancelled before it started"

/-- An invocation that is cancelled before it has a slot. -/
def turnAway (e : Engine) (id : Nat) (r : Run) : Engine :=
  let e := e.leaveLine id
  let r := (r.deliver e.config.capacity false (.error cancelledEarly false)).1
  (e.setRun id { r with state := .canceled, stage := .finished }).countUp
    fun c => { c with cancellations := c.cancellations + 1 }

/-- An invocation that has its slot starts. -/
def begin (e : Engine) (id : Nat) (r : Run) : Engine :=
  let r := (r.deliver e.config.capacity false (.start r.tool r.requestId r.args)).1
  e.setRun id
    { r with
        state := .running
        stage := .active r.body
        emitting := true
        started := e.now
        deadline := Duration.deadlineAfter e.now e.config.timeout }

/-- An invocation without a slot asks for one. -/
def askForSlot (e : Engine) (id : Nat) (r : Run) : Option Engine :=
  if e.isCancelled r.caller then some (e.turnAway id r)
  else if id ∈ e.granted then
    some ({ e with granted := e.granted.erase id }.begin id r)
  else if id ∈ e.line then none
  else if 0 < e.free then some ({ e with free := e.free - 1 }.begin id r)
  else some ({ e with line := e.line ++ [id] }.setRun id { r with stage := .waiting })

/-! ### Steps of a handler -/

/-- What an invocation's handler sees. -/
def view (e : Engine) (r : Run) : View :=
  r.context.view e.fired e.now

/-- An emission through the emitter of an invocation. -/
def publish (e : Engine) (id : Nat) (r : Run) (x : Emission) :
    Engine × Run × Option EmitError :=
  let (r, failure) :=
    r.publish e.config.maxEvents e.config.capacity (e.isCancelled r.scope) x
  let e := if failure = some .channelFull then
      e.countUp fun c => { c with dropped := c.dropped + 1 }
    else e
  (e.setRun id r, r, failure)

/-- Adds one to a handler's counter and gives the sum. -/
def bump (e : Engine) (counter : String) : Nat × Engine :=
  let n := ((e.tally.find? fun c => c.1 = counter).map (·.2)).getD 0 + 1
  (n, { e with tally := (e.tally.filter fun c => c.1 ≠ counter) ++ [(counter, n)] })

/-- The counts after an invocation has come to a conclusion. -/
def Counters.conclude (c : Counters) (x : Run.Conclusion) : Counters :=
  match x.state with
  | .done => { c with succeeded := c.succeeded + 1 }
  | .canceled => { c with cancellations := c.cancellations + 1 }
  | _ =>
    { c with
        failed := c.failed + 1
        timeouts := if x.timedOut then c.timeouts + 1 else c.timeouts }

/-- The handler of an invocation has come to its end. -/
def conclude (e : Engine) (id : Nat) (r : Run) (o : Outcome) : Engine :=
  let x := r.conclude e.config.timeout e.now (e.isCancelled r.caller) o
  let r := { r with
    emitting := false
    state := x.state
    stage := .delivering x.last (timerAfter e.now e.config.terminalTimeout) }
  (e.setRun id r).countUp fun c => Counters.conclude c x

/-- One step of a handler. -/
def perform (e : Engine) (id : Nat) (r : Run) : Behaviour → Engine
  | .done o => e.conclude id r o
  | .emit x next =>
    let (e, r, failure) := e.publish id r x
    e.setRun id { r with stage := .active (next failure) }
  | .look next => e.setRun id { r with stage := .active (next (e.view r)) }
  | .pause span watching next =>
    e.setRun id { r with stage := .asleep (span.map (timerAfter e.now)) watching next }
  | .count counter next =>
    let (n, e) := e.bump counter
    e.setRun id { r with stage := .active (next n) }
  | .share name next =>
    let others := e.shared.filter fun s => s.1 ≠ name
    { e with shared := (name, id) :: others }.setRun id { r with stage := .active next }

/-- An invocation is over: its token is fired and its slot goes back. -/
def finish (e : Engine) (id : Nat) (r : Run) : Engine :=
  ((e.setRun id { r with stage := .finished }).fire r.scope).release

/-- The last event of an invocation is queued or given up, if that can be done
now. -/
def settle (e : Engine) (id : Nat) (r : Run) (last : Event) (giveUp : Nat) :
    Option Engine :=
  match r.deliver e.config.capacity (isDue giveUp e.now) last with
  | (r, .settled) => some (e.finish id r)
  | (r, .abandoned) =>
    some ((e.finish id r).countUp fun c => { c with dropped := c.dropped + 1 })
  | (_, .blocked) => none

/-- One step of an invocation that stands somewhere, if it can take one. -/
def advanceRun (e : Engine) (id : Nat) (r : Run) : Option Engine :=
  match r.stage with
  | .arriving | .waiting => e.askForSlot id r
  | .active b => some (e.perform id r b)
  | .asleep wakeAt watching next =>
    if watching && e.isCancelled r.scope then
      some (e.setRun id { r with stage := .active (next .cancelled) })
    else if wakeAt.any (isDue · e.now) then
      some (e.setRun id { r with stage := .active (next .elapsed) })
    else none
  | .delivering last giveUp => e.settle id r last giveUp
  | .finished => none

/-- One step of an invocation, if it can take one. -/
def advance (e : Engine) (id : Nat) : Option Engine :=
  match e.runs[id]? with
  | some r => e.advanceRun id r
  | none => none

/-- Whether the deadline of an invocation should fire its token now. -/
def mustExpire (e : Engine) (r : Run) : Bool :=
  r.holdsSlot && isDue r.deadline e.now && !e.isCancelled r.scope

/-- The deadline of an invocation fires its token, if it is time. -/
def expire (e : Engine) (id : Nat) : Option Engine :=
  match e.runs[id]? with
  | some r => if e.mustExpire r then some (e.fire r.scope) else none
  | none => none

/-! ### Readers -/

/-- What a reader gets. -/
inductive Reading
  /-- The next event. -/
  | event (e : Event)
  /-- Nothing now. -/
  | pending
  /-- Nothing any more. -/
  | ended
  deriving BEq, Repr

/-- The reader of an invocation takes the next event. -/
def take (e : Engine) (id : Nat) : Reading × Engine :=
  match e.runs[id]? with
  | none => (.ended, e)
  | some r =>
    match r.queue with
    | event :: rest => (.event event, e.setRun id { r with queue := rest })
    | [] => (if r.isFinished then .ended else .pending, e)

/-- The reader of an invocation goes away. -/
def drop (e : Engine) (id : Nat) : Engine :=
  match e.runs[id]? with
  | none => e
  | some r => e.setRun id { r with reading := false, queue := [] }

/-- An emission from outside through an emitter that was laid aside. -/
def emitShared (e : Engine) (name : String) (x : Emission) :
    Option (Engine × Option EmitError) :=
  match e.shared.find? fun s => s.1 = name with
  | none => none
  | some (_, id) =>
    (e.runs[id]?).map fun r =>
      let (e, _, failure) := e.publish id r x
      (e, failure)

/-! ### Counts -/

/-- The number of slots in use. -/
def running (e : Engine) : Nat :=
  e.config.slots - e.free

/-- The counts as a JSON value. -/
def stats (e : Engine) : Json :=
  .object [("total_executions", .ofNat e.counters.total),
    ("successful_executions", .ofNat e.counters.succeeded),
    ("failed_executions", .ofNat e.counters.failed),
    ("cancellations", .ofNat e.counters.cancellations),
    ("timeouts", .ofNat e.counters.timeouts),
    ("dropped_events", .ofNat e.counters.dropped), ("running", .ofNat e.running)]

/-! ### Time -/

/-- The deadlines that an invocation waits for. -/
def timersOf (e : Engine) (r : Run) : List Nat :=
  let own := match r.stage with
    | .asleep (some wakeAt) _ _ => [wakeAt]
    | .delivering _ giveUp => [giveUp]
    | _ => []
  if r.holdsSlot && !e.isCancelled r.scope then r.deadline :: own else own

/-- The deadlines that invocations wait for. -/
def timers (e : Engine) : List Nat :=
  e.runs.flatMap e.timersOf

/-- The earliest millisecond after now at which one of some timers goes off. -/
def nextTick (now : Nat) (deadlines : List Nat) : Option Nat :=
  ((deadlines.map tickOf).filter (ticks now < ·)).min?

end Engine

end ToolServer.Execution
