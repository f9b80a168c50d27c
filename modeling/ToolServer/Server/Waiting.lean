/-
Waiting for a server:

* `Server.settle`: everything goes on that can, and no time passes;
* `Server.turn`: everything goes on, or else the clock jumps to the next alarm;
* `Server.await`: asks for something again and again, a turn in between;
* `Server.response`, `Server.responses`: the responses to messages;
* `Server.nextEvent`, `Server.events`: the events of an invocation;
* `Server.pause`: lets some time pass.

Nobody waits forever: an answer `none` means that nothing would ever happen.
-/
import ToolServer.Server.Request

namespace ToolServer.Server

open ToolServer.Execution (Token patience timerAfter isDue)

variable {σ : Type} [ResultCache σ]

/-! ### Turns -/

/-- Goes on with the calls for whose answers nobody waits. -/
def tendOrphans (s : Server σ) : Server σ :=
  s.orphans.foldl (fun s call =>
    match s.resume call with
    | (s, .inl call) => { s with orphans := s.orphans ++ [call] }
    | (s, .inr _) => s) { s with orphans := [] }

/-- Lets invocations and calls go on until all of them have to wait. -/
def settleWithin : (fuel : Nat) → Server σ → Server σ
  | 0, s => s
  | fuel + 1, s =>
    let s := s.runAll.tendOrphans
    if s.engine.canStep then settleWithin fuel s else s

/-- Lets invocations and calls go on until all of them have to wait. -/
def settle (s : Server σ) : Server σ :=
  settleWithin patience s

/-- Everything goes on that can, or else the clock jumps to the next time at which
an invocation or one of some alarms is due. -/
def turn (s : Server σ) (alarms : List Nat) : Option (Server σ) :=
  if s.engine.canStep then some s.settle else (s.elapse alarms).map settle

/-- Asks for something with a turn between every two attempts. An attempt gives an
answer, or what to ask for next. -/
def awaitWithin {α β : Type} (ask : Server σ → α → Server σ × (α ⊕ β)) (alarms : List Nat) :
    (fuel : Nat) → Server σ → α → Server σ × Option β
  | 0, s, _ => (s, none)
  | fuel + 1, s, a =>
    match ask s a with
    | (s, .inr b) => (s, some b)
    | (s, .inl a) =>
      match s.turn alarms with
      | some s => awaitWithin ask alarms fuel s a
      | none => (s, none)

/-- Asks for something with a turn between every two attempts. -/
def await {α β : Type} (s : Server σ) (alarms : List Nat) (a : α)
    (ask : Server σ → α → Server σ × (α ⊕ β)) : Server σ × Option β :=
  awaitWithin ask alarms patience s a

/-- Lets some time pass. -/
def pause (s : Server σ) (span : Nat) : Server σ :=
  let alarm := timerAfter s.now span
  (s.await [alarm] () fun s _ => (s, if isDue alarm s.now then .inr () else .inl ())).1

/-! ### Responses -/

/-- Goes on with replies in their order, and tells whether all responses are there. -/
def pursueAll (s : Server σ) (replies : List Reply) :
    Server σ × (List Reply ⊕ List (Option Response)) :=
  let (s, replies) := replies.foldl
    (fun done r => let (s, r) := done.1.pursue r; (s, done.2 ++ [r])) (s, [])
  let response? : Reply → Option (Option Response)
    | .ready response => some response
    | .underWay .. => none
  match replies.mapM response? with
  | some responses => (s, .inr responses)
  | none => (s, .inl replies)

/-- The responses to messages that are taken in one after the other and carried out
at the same time. -/
def responses (s : Server σ) (messages : List Text.Bytes) (caller : Token) :
    Server σ × Option (List (Option Response)) :=
  let (s, replies) := messages.foldl
    (fun done m => let (s, r) := done.1.receive m caller; (s, done.2 ++ [r])) (s, [])
  s.await [] replies pursueAll

/-- The response to a message; it may have none. -/
def response (s : Server σ) (message : Text.Bytes) (caller : Token) :
    Server σ × Option (Option Response) :=
  let (s, found) := s.responses [message] caller
  (s, found.map fun rs => (rs.head?.getD none))

/-- The response to a request; it may have none. -/
def responseTo (s : Server σ) (r : Request) (caller : Token) :
    Server σ × Option (Option Response) :=
  let (s, reply) := s.handle r caller
  let (s, found) := s.await [] [reply] pursueAll
  (s, found.map fun rs => (rs.head?.getD none))

/-! ### Events -/

/-- Asks for the next event of an invocation. -/
def askEvent (run : Nat) (s : Server σ) (_ : Unit) : Server σ × (Unit ⊕ Option Event) :=
  match s.engine.take run with
  | (.event e, engine) => ({ s with engine }, .inr (some e))
  | (.ended, _) => (s, .inr none)
  | (.pending, _) => (s, .inl ())

/-- The next event of an invocation, `none` inside if there are no more. -/
def nextEvent (s : Server σ) (run : Nat) : Server σ × Option (Option Event) :=
  s.await [] () (askEvent run)

/-- All events of an invocation that are there, last one first, behind earlier
ones, and whether they are all. -/
def drain : (fuel : Nat) → Server σ → (run : Nat) → (done : List Event) →
    Server σ × List Event × Bool
  | 0, s, _, done => (s, done, false)
  | fuel + 1, s, run, done =>
    match s.engine.take run with
    | (.event e, engine) => drain fuel { s with engine } run (e :: done)
    | (.ended, _) => (s, done, true)
    | (.pending, _) => (s, done, false)

/-- The events of an invocation up to its end, or none if that takes longer than
some time. -/
def events (s : Server σ) (run : Nat) (limit : Option Nat) :
    Server σ × Option (Option (List Event)) :=
  let alarm := limit.map (timerAfter s.now)
  let (s, found) := s.await alarm.toList [] fun s done =>
    match drain patience s run done with
    | (s, done, true) => (s, .inr (some done.reverse))
    | (s, done, false) =>
      if alarm.any (isDue · s.now) then (s, .inr none) else (s, .inl done)
  ({ s with engine := s.engine.drop run }, found)

end ToolServer.Server
