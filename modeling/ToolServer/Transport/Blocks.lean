/-
Events as an event stream:

* `Server.writeBlocks`: writes the events of an invocation block by block, up to
  its end or to a sink that is full.

The reader of the invocation goes away in the end.
-/
import ToolServer.Event.Block
import ToolServer.Server.Waiting
import ToolServer.Transport.Sink

namespace ToolServer.Server

variable {σ : Type} [ResultCache σ]

/-- Writes the events of an invocation from now on; `count` blocks have been
written so far. -/
def writeBlocksFrom (requestId : String) (run : Nat) : (fuel : Nat) → Server σ → Sink →
    (count : Nat) → Server σ × Sink × Option (Except ServerError Nat)
  | 0, s, sink, _ => (s, sink, none)
  | fuel + 1, s, sink, count =>
    match s.nextEvent run with
    | (s, none) => (s, sink, none)
    | (s, some none) => (s, sink, some (.ok count))
    | (s, some (some e)) =>
      match sink.write (Text.bytesOf (e.block requestId)) with
      | (sink, .ok ()) => writeBlocksFrom requestId run fuel s sink (count + 1)
      | (sink, .error e) => (s, sink, some (.error e))

/-- Writes the events of an invocation, and gives the number of blocks. -/
def writeBlocks (s : Server σ) (run : Nat) (requestId : String) (sink : Sink) :
    Server σ × Sink × Option (Except ServerError Nat) :=
  let (s, sink, written) :=
    writeBlocksFrom requestId run Execution.patience s sink 0
  ({ s with engine := s.engine.drop run }, sink, written)

end ToolServer.Server
