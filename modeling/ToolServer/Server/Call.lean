/-
Calls of tools:

* `callTool`: starts a call, from the parameters of a request;
* `Call.read`: what a call does with an event of its invocation;
* `advanceCall`: takes the events that are there, up to the end of the call;
* `keepResult`: keeps a result for the next call.

A result that is kept is the same whether it comes from the tool or from the
store.
-/
import ToolServer.Cache.Key
import ToolServer.Json.Reader
import ToolServer.Server.Basic

namespace ToolServer

/-- The answer to a request: there at once, or at the end of a call. -/
inductive Answer
  | ready (result : Except RpcError Json)
  | underWay (call : Call)

/-- The identifier of the requests that a server makes up itself. -/
def madeUpId : String := "<uuid>"

/-! ### Events of a call -/

/-- The result of a call whose invocation has ended: the value that it ended with,
or else the pieces of data, or else nothing. -/
def resultOf (chunks : List Json) : Option Json → Json
  | some v => v
  | none => if chunks.isEmpty then .null else .array chunks

/-- What comes of an event: the end of the call, or the call from then on. -/
def Call.read (c : Call) : Event → Call ⊕ Except RpcError Json
  | .data chunk _ => .inl { c with chunks := chunk :: c.chunks }
  | .done _ _ _ result =>
    .inr (.ok (CallResult.ofValue (resultOf c.chunks.reverse result)).toJson.canonical)
  | .error message retryable => .inr (.error (.toolFailed message retryable))
  | .start .. | .progress .. => .inl c

/-- The error of a call whose events end too early. -/
def streamClosed : RpcError :=
  .internalError "event stream closed without a terminal event"

namespace Server

variable {σ : Type} [ResultCache σ]

/-! ### Starting -/

/-- Starts an invocation of a tool for a call, under a token below the caller's. -/
def invoke (s : Server σ) (tool : Tool.Definition) (args : Json)
    (caller : Execution.Token) (keep : Option (String × Nat)) : Server σ × Call :=
  let (scope, engine) := s.engine.childOf caller
  let (run, engine) := engine.submit tool.name madeUpId args scope tool.handler
  ({ s with engine }, { run, keep })

/-- How long the result of a tool is kept: as the tool says, or else as the
configuration says; zero leaves it to the store. -/
def ttlOf (s : Server σ) (tool : Tool.Definition) : Nat :=
  (tool.caching.ttl <|> s.cacheConfig.toolTtl? tool.name).getD 0

/-- Looks the result of a call up. One that cannot be read is as good as none. -/
def lookUp (s : Server σ) (tool : Tool.Definition) (args : Json) : Server σ × Option Json :=
  let (found, cache) := ResultCache.get s.cache s.now (Cache.keyOf tool.name args)
  ({ s with cache }, found.toOption.bind fun entry => (Json.read entry.value).toOption)

/-- A call whose result may be kept: it is looked up first. -/
def invokeCached (s : Server σ) (tool : Tool.Definition) (args : Json)
    (caller : Execution.Token) : Server σ × Answer :=
  match s.lookUp tool args with
  | (s, some result) => (s, .ready (.ok result))
  | (s, none) =>
    (s.invoke tool args caller (some (Cache.keyOf tool.name args, s.ttlOf tool))).map id .underWay

/-- Shows credentials to the check, whose verdict changes nothing. -/
def checkCredentials (s : Server σ) (tool : String) (credentials : Option Json) : Server σ :=
  match s.validator with
  | some _ => { s with checked := (tool, credentials) :: s.checked }
  | none => s

/-- The arguments in the parameters of a call: none, or an object. -/
def argumentsOf (params : List (String × Json)) : Except RpcError Json :=
  match Json.lookup "arguments" params with
  | none | some .null => .ok (.object [])
  | some (.object members) => .ok (.object members)
  | some _ => .error (.invalidParams "'arguments' must be an object")

/-- The tool and the arguments that the parameters of a call ask for. -/
def target (s : Server σ) (params : Json) : Except RpcError (Tool.Definition × Json) :=
  match params with
  | .object members =>
    match (Json.lookup "name" members).bind Json.string? with
    | none => .error (.invalidParams "missing or invalid 'name' parameter")
    | some name => do
      let args ← argumentsOf members
      match s.tools.get? name with
      | some tool => return (tool, args)
      | none => .error (.invalidParams s!"tool not found: {name}")
  | _ => .error (.invalidParams "params must be an object")

/-- Starts the call that some parameters ask for. -/
def callTool (s : Server σ) (params : Json) (caller : Execution.Token) :
    Server σ × Answer :=
  match s.target params with
  | .error e => (s, .ready (.error e))
  | .ok (tool, args) =>
    let s := s.checkCredentials tool.name ((params.get? "_meta").bind (Json.get? "credentials"))
    if tool.caching.cacheable then s.invokeCached tool args caller
    else (s.invoke tool args caller none).map id .underWay

/-! ### Going on -/

/-- Keeps the result of a call under its key, if it has one. -/
def keepResult (s : Server σ) (c : Call) : Except RpcError Json → Server σ
  | .ok result =>
    match c.keep with
    | some (key, ttl) =>
      { s with
        cache := (ResultCache.set s.cache s.now key (Text.bytesOf result.text) ttl).2 }
    | none => s
  | .error _ => s

/-- The end of a call: its result is kept and its events are given up. -/
def endCall (s : Server σ) (c : Call) (result : Except RpcError Json) : Server σ :=
  ({ s with engine := s.engine.drop c.run }).keepResult c result

/-- Takes the events of a call that are there. -/
def advanceCall : (fuel : Nat) → Server σ → Call → Server σ × (Call ⊕ Except RpcError Json)
  | 0, s, c => (s, .inl c)
  | fuel + 1, s, c =>
    match s.engine.take c.run with
    | (.pending, _) => (s, .inl c)
    | (.ended, _) => (s.endCall c (.error streamClosed), .inr (.error streamClosed))
    | (.event e, engine) =>
      let s := { s with engine }
      match c.read e with
      | .inl c => advanceCall fuel s c
      | .inr result => (s.endCall c result, .inr result)

/-- Takes the events of a call that are there, of which there are finitely many. -/
def resume (s : Server σ) (c : Call) : Server σ × (Call ⊕ Except RpcError Json) :=
  advanceCall (((s.engine.runs[c.run]?.map fun r => r.queue.length).getD 0) + 2) s c

/-! ### Streaming -/

/-- Starts an invocation whose events are to be followed. -/
def stream (s : Server σ) (tool : String) (args : Json) (requestId : String)
    (caller : Execution.Token) : Except RpcError (Nat × Server σ) :=
  match s.tools.get? tool with
  | none => .error (.invalidParams s!"tool not found: {tool}")
  | some t =>
    if !t.streaming then .error (.invalidParams s!"tool '{tool}' does not support streaming")
    else
      let (scope, engine) := s.engine.childOf caller
      let (run, engine) := engine.submit t.name requestId args scope t.handler
      .ok (run, { s with engine })

end Server

end ToolServer
