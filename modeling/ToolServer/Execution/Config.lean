/-
How an executor is set up:

* `ExecutorConfig`: its limits, with their defaults;
* `validate`: the limits that must not be zero;
* `toJson`, `decode`: a configuration as a document and back, fields that are
  left out having their defaults.
-/
import ToolServer.Duration.Decode
import ToolServer.Error

namespace ToolServer

/-- The limits of an executor. -/
structure ExecutorConfig where
  /-- The number of events that may wait for the reader of an invocation. -/
  bufferSize : Nat := 100
  /-- The time that an invocation has. -/
  timeout : Nat := Duration.secs 300
  /-- The number of pieces of data and progress that an invocation may emit. -/
  maxEvents : Nat := 10000
  /-- The number of invocations that may run at once. -/
  maxConcurrent : Nat := 16
  /-- The time that the first and the last event wait for room. -/
  terminalTimeout : Nat := Duration.secs 5
  deriving Repr, DecidableEq, Inhabited

namespace ExecutorConfig

/-- The number of invocations that run at once: at least one. -/
def slots (c : ExecutorConfig) : Nat :=
  max c.maxConcurrent 1

/-- The number of events that wait at once: at least one. -/
def capacity (c : ExecutorConfig) : Nat :=
  max c.bufferSize 1

/-- Refuses limits of zero. -/
def validate (c : ExecutorConfig) : Except ServerError Unit :=
  if c.maxConcurrent = 0 then
    .error (.config "executor max_concurrent must be positive")
  else if c.bufferSize = 0 then
    .error (.config "executor buffer_size must be positive")
  else if c.timeout = 0 then
    .error (.config "executor timeout must be non-zero")
  else .ok ()

/-- A configuration as a JSON value. -/
def toJson (c : ExecutorConfig) : Json :=
  .object [("buffer_size", .ofNat c.bufferSize), ("timeout", Duration.toJson c.timeout),
    ("max_events", .ofNat c.maxEvents), ("max_concurrent", .ofNat c.maxConcurrent),
    ("terminal_event_timeout", Duration.toJson c.terminalTimeout)]

/-- The configuration that a document stands for. -/
def decode {α : Type} [Decode.Document α] (d : α) :
    Except Decode.Mismatch ExecutorConfig := do
  let unset : ExecutorConfig := {}
  let s ← Decode.slots "ExecutorConfig" 5 d
  let bufferSize := s.field "buffer_size" 0 (Decode.natural "usize") (some unset.bufferSize)
  let timeout := s.field "timeout" 1 Duration.decode (some unset.timeout)
  let maxEvents := s.field "max_events" 2 (Decode.natural "u64") (some unset.maxEvents)
  let maxConcurrent :=
    s.field "max_concurrent" 3 (Decode.natural "usize") (some unset.maxConcurrent)
  let terminal :=
    s.field "terminal_event_timeout" 4 Duration.decode (some unset.terminalTimeout)
  match bufferSize.value, timeout.value, maxEvents.value, maxConcurrent.value,
      terminal.value with
  | .ok bufferSize, .ok timeout, .ok maxEvents, .ok maxConcurrent, .ok terminal =>
    s.exhausted 5
    return ⟨bufferSize, timeout, maxEvents, maxConcurrent, terminal⟩
  | _, _, _, _, _ =>
    throw (s.firstFault [bufferSize.fault?, timeout.fault?, maxEvents.fault?,
      maxConcurrent.fault?, terminal.fault?])

end ExecutorConfig

end ToolServer
