/-
A server and the time that passes in it:

* `Server`: its tools, its executor, its store of results and what it has seen;
* `Call`: a call of a tool that is under way;
* `Server.runAll`: invocations go on that can, and no time passes;
* `Server.setClock`: the clock is set to a later time;
* `Server.elapse`: the clock jumps to the next alarm.
-/
import ToolServer.Cache.Backend
import ToolServer.Execution.Schedule
import ToolServer.Protocol.Message
import ToolServer.Tool.Registry

namespace ToolServer

/-- What a server tells about itself. -/
structure ServerInfo where
  name : String := "toolgate"
  version : String := "0.3.0"
  deriving DecidableEq, Repr, Inhabited

/-- A check of the credentials that come with a call of a tool; a refusal gives
its reason. -/
abbrev Validator := (tool : String) → (credentials : Option Json) → Except String Unit

/-- A call of a tool that is under way. -/
structure Call where
  /-- The invocation that does the work. -/
  run : Nat
  /-- The pieces of data so far, last one first. -/
  chunks : List Json := []
  /-- The key under which the result is to be kept, and for how long. -/
  keep : Option (String × Nat) := none
  deriving Repr, Inhabited

/-- A server with a store of results. -/
structure Server (σ : Type) where
  /-- The tools. -/
  tools : Tool.Registry
  /-- The executor, which also has the clock. -/
  engine : Execution.Engine
  /-- The store of results. -/
  cache : σ
  /-- How results are cached. -/
  cacheConfig : CacheConfig := {}
  /-- What the server tells about itself. -/
  info : ServerInfo := {}
  /-- The check of credentials, if there is one. -/
  validator : Option Validator := none
  /-- What has been checked, last one first. -/
  checked : List (String × Option Json) := []
  /-- Calls that go on though nobody waits for their answers. -/
  orphans : List Call := []

namespace Server

variable {σ : Type} [ResultCache σ]

/-- The time. -/
def now (s : Server σ) : Nat :=
  s.engine.now

/-- Lets invocations go on until all of them have to wait. -/
def runAll (s : Server σ) : Server σ :=
  { s with engine := s.engine.quiesce }

/-- Sets the clock to a later time. -/
def setClock (s : Server σ) (now : Nat) : Server σ :=
  { s with
    engine := { s.engine with now }
    cache := ResultCache.pass s.cache s.engine.now now }

/-- The clock jumps to the next time at which an invocation or one of some alarms
is due, if there is one. -/
def elapse (s : Server σ) (alarms : List Nat) : Option (Server σ) :=
  (s.engine.nextTime alarms).map s.setClock

end Server

end ToolServer
