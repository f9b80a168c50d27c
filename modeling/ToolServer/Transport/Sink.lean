/-
Where output goes:

* `Sink`: a place with or without a bound on the bytes that it takes;
* `Sink.write`: the sink after some more bytes, and whether it took them all.

A sink that cannot take all of the bytes takes as many as it has room for.
-/
import ToolServer.Error
import ToolServer.Text.Utf8

namespace ToolServer

open ToolServer.Text (Bytes)

/-- A place where output goes. -/
structure Sink where
  /-- The number of bytes that it still takes, if there is a bound. -/
  room : Option Nat := none
  /-- What it has taken, latest part first. -/
  parts : List Bytes := []
  deriving Repr, Inhabited

namespace Sink

/-- What a sink has taken. -/
def content (s : Sink) : Bytes :=
  s.parts.reverse.flatten

/-- The failure of a sink without room. -/
def full : ServerError :=
  .io "sink is full"

/-- Writes some bytes. -/
def write (s : Sink) (bytes : Bytes) : Sink × Except ServerError Unit :=
  match s.room with
  | none => ({ s with parts := bytes :: s.parts }, .ok ())
  | some room =>
    let taken := bytes.take room
    let s := ⟨some (room - bytes.length), taken :: s.parts⟩
    (s, if bytes.length ≤ room then .ok () else .error full)

end Sink

end ToolServer
