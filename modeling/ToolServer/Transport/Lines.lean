/-
Requests and responses as lines:

* `linesOf`: the lines of a byte string;
* `Server.takeLines`: takes the request of every line in;
* `Server.serveLines`: takes all lines in, carries them out at the same time and
  writes a line for every response.

A line that is no text ends the service, and so does a sink that is full; what is
under way then goes on without anybody waiting for it.
-/
import ToolServer.Server.Waiting
import ToolServer.Text.Blank
import ToolServer.Transport.Sink

namespace ToolServer

open ToolServer.Text (Bytes)

/-- Puts a byte in front of the lines of a byte string. -/
def consByte (b : UInt8) (lines : List Bytes) : List Bytes :=
  if b = 0x0A then [b] :: lines
  else match lines with
    | [] => [[b]]
    | l :: rest => (b :: l) :: rest

/-- The lines of a byte string, every one with its line feed. -/
def linesOf (input : Bytes) : List Bytes :=
  input.foldr consByte []

namespace Server

variable {σ : Type} [ResultCache σ]

/-- Gives the calls of some replies up to themselves. -/
def abandon (s : Server σ) (replies : List Reply) : Server σ :=
  let call? : Reply → Option Call
    | .underWay _ call => some call
    | .ready _ => none
  { s with orphans := s.orphans ++ replies.filterMap call? }

/-- Takes the requests of some lines in, empty lines apart, up to the first line
that is no text. -/
def takeLines (caller : Execution.Token) : List Bytes → Server σ → List Reply →
    Server σ × List Reply × Except ServerError Unit
  | [], s, replies => (s, replies, .ok ())
  | line :: rest, s, replies =>
    match Text.decode? line with
    | .error fault => (s, replies, .error (.io fault.message))
    | .ok cs =>
      let request := Text.trim (String.ofList cs)
      if request.isEmpty then takeLines caller rest s replies
      else
        let (s, reply) := s.receive (Text.bytesOf request) caller
        takeLines caller rest s (replies ++ [reply])

/-- What a service by lines has come to: the replies that are under way, the sink,
and the responses written so far, last one first. -/
structure LineService where
  replies : List Reply
  sink : Sink
  written : List String := []

/-- Goes on with the replies of a service and writes the responses that are there,
up to a failure. -/
def LineService.write (v : LineService) : (pending : List Reply) → Server σ →
    Server σ × LineService × Except ServerError Unit
  | [], s => (s, v, .ok ())
  | reply :: rest, s =>
    match s.pursue reply with
    | (s, .underWay id call) =>
      LineService.write { v with replies := v.replies ++ [.underWay id call] } rest s
    | (s, .ready none) => LineService.write v rest s
    | (s, .ready (some response)) =>
      match v.sink.write (Text.bytesOf (response.text ++ "\n")) with
      | (sink, .ok ()) =>
        LineService.write { v with sink, written := response.text :: v.written } rest s
      | (sink, .error e) => (s, { v with sink, replies := v.replies ++ rest }, .error e)

/-- Serves the lines of an input under a caller's token, and gives the responses in
the order in which they were written. -/
def serveLines (s : Server σ) (input : Bytes) (sink : Sink) (caller : Execution.Token) :
    Server σ × Option (Except ServerError (List String)) :=
  if s.engine.isCancelled caller then (s, some (.ok []))
  else match takeLines caller (linesOf input) s [] with
    | (s, replies, .error e) => (s.abandon replies, some (.error e))
    | (s, replies, .ok ()) =>
      s.await [] (⟨replies, sink, []⟩ : LineService) fun s v =>
        match LineService.write { v with replies := [] } v.replies s with
        | (s, v, .error e) => (s.abandon v.replies, .inr (.error e))
        | (s, v, .ok ()) =>
          if v.replies.isEmpty then (s, .inr (.ok v.written.reverse)) else (s, .inl v)

end Server

end ToolServer
