/-
Stores that are swept from time to time:

* `Sweeper`: how far the task that sweeps a store has come;
* `Swept`: a store with its sweeper;
* `Swept.turn`: what becomes of a store when its sweeper gets its turn;
* `Swept.close`: empties the store, which the sweeper has yet to notice;
* `Swept.pass`, `Swept.skip`: the store after the clock has run on to some time, or
  has been set to it, the sweeper having had its turns.

A sweeper counts its ticks from its first turn. The tick of that time opens its
loop; every later one is a sweep. If a tick has come and the store has been closed,
the sweeper notices either of them first.
-/
import ToolServer.Cache.Store
import ToolServer.Execution.Timer

namespace ToolServer.Cache

open ToolServer.Execution (isDue tickLength tickOf ticks timeAtTick)

/-- How far the task that sweeps a store has come. -/
inductive Sweeper
  /-- It has not had its first turn. -/
  | pending
  /-- It waits for the tick of its first turn. -/
  | opening (first : Nat)
  /-- It has taken so many later ticks. It waits for another one, or for the store to be
  closed. -/
  | ticking (first taken : Nat)
  /-- It has stopped. -/
  | stopped
  deriving DecidableEq, Repr, Inhabited

/-- A store that is swept from time to time. -/
structure Swept where
  store : Store
  /-- The time between two ticks; zero if there is no sweeper. -/
  interval : Nat
  /-- How far the sweeper has come. -/
  sweeper : Sweeper := .pending
  /-- Whether the store has been closed. -/
  closed : Bool := false
  deriving DecidableEq, Repr, Inhabited

/-- What a sweeper does when it gets its turn. -/
inductive Turn
  /-- It sets up its ticks. -/
  | start
  /-- It takes the tick that it waits for. -/
  | tick
  /-- It notices that the store has been closed. -/
  | stop
  deriving DecidableEq, Repr

namespace Swept

/-! ### The sweeper -/

/-- The store after a turn of its sweeper, if it can take that turn. -/
def turn (s : Swept) (now : Nat) (t : Turn) : Option Swept :=
  match s.sweeper, t with
  | .pending, .start =>
    if s.interval = 0 then none else some { s with sweeper := .opening now }
  | .opening first, .tick =>
    if isDue first now then some { s with sweeper := .ticking first 0 } else none
  | .ticking first k, .tick =>
    if isDue (first + (k + 1) * s.interval) now then
      some { s with
        store := (s.store.cleanExpired now).2
        sweeper := .ticking first (k + 1) }
    else none
  | .ticking .., .stop => if s.closed then some { s with sweeper := .stopped } else none
  | _, _ => none

/-- Empties the store and tells its sweeper to stop. -/
def close (s : Swept) : Swept :=
  { s with store := s.store.clear, closed := true }

/-! ### The clock -/

/-- The number of the last tick that has come by some time. -/
def lastTick (s : Swept) (first now : Nat) : Nat :=
  (ticks now * tickLength - first) / s.interval

/-- The sweeper has its first turn, if it has not had it. -/
def begin (s : Swept) (now : Nat) : Swept :=
  (s.turn now .start).getD s

/-- The sweeper enters its loop, if the tick of its first turn has come. -/
def enter (s : Swept) (now : Nat) : Swept :=
  match s.sweeper with
  | .opening _ => (s.turn now .tick).getD s
  | _ => s

/-- The sweeper notices that the store has been closed, or takes all ticks that have
come by some time, the last one at `time`. Of several sweeps the last one takes out
what the earlier ones would have. -/
def catchUp (s : Swept) (now : Nat) (time : Nat → Nat) : Swept :=
  match s.sweeper with
  | .ticking first taken =>
    if s.closed then { s with sweeper := .stopped }
    else
      let last := s.lastTick first now
      if last ≤ taken then s
      else
        { s with
          store := (s.store.cleanExpired (time (first + last * s.interval))).2
          sweeper := .ticking first last }
  | _ => s

/-- The clock has run from one time to another, and has stopped for every tick that
has come on the way. -/
def pass (s : Swept) (start now : Nat) : Swept :=
  ((s.begin start).enter now).catchUp now
    fun deadline => max start (timeAtTick start (tickOf deadline))

/-- The clock has been set from one time to another. The sweeper has its turn
afterwards, for what has come before. -/
def skip (s : Swept) (start now : Nat) : Swept :=
  ((s.enter start).catchUp start fun _ => now).begin now

end Swept

end ToolServer.Cache
