/-
The server over HTTP:

* `Route`: the paths that the server knows;
* `Server.serveRequest`: the response to a request;
* `grantedOrigin?`: the origin that may read a response;
* `Server.nextFrame`, `Server.readBody`, `Server.closeBody`: the body of a
  response, which may be the events of an invocation.

A request for options is answered on every path. Every invocation is below a
token of its request, which is below the token that stops the service.
-/
import ToolServer.Config.Http
import ToolServer.Event.Block
import ToolServer.Http.Message
import ToolServer.Server.Waiting

namespace ToolServer.Http

open ToolServer.Execution (Token)
open ToolServer.Text (Bytes)

/-! ### Routes -/

/-- The paths that the server knows. -/
inductive Route
  /-- One message of the protocol in a request. -/
  | message
  /-- The events of a tool. -/
  | stream
  /-- Whether the server is up. -/
  | health
  deriving DecidableEq, Repr

namespace Route

/-- The route of a path. -/
def ofPath? (path : String) : Option Route :=
  if path = "/rpc" then some .message
  else if path = "/stream" then some .stream
  else if path = "/health" then some .health
  else none

/-- The methods of a route, in words. -/
def methods : Route → String
  | .message | .stream => "POST"
  | .health => "GET,HEAD"

/-- Whether a route has a method. -/
def admits (route : Route) (method : String) : Bool :=
  match route with
  | .message | .stream => method = "POST"
  | .health => method = "GET" || method = "HEAD"

end Route

/-! ### Responses -/

/-- A response with some bytes of a type. -/
def document (status : Nat) (type : String) (bytes : Bytes) : Response :=
  ⟨status, [("content-type", type)], .whole bytes⟩

/-- A response without a body. -/
def empty (status : Nat) : Response :=
  ⟨status, [], .whole []⟩

/-- A refusal in plain text. -/
def refuse (status : Nat) (reason : String) : Response :=
  document status "text/plain; charset=utf-8" (Text.bytesOf reason)

/-- The header fields of an event stream. -/
def streamHeaders : List (String × String) :=
  [("content-type", "text/event-stream"), ("cache-control", "no-cache"),
    ("x-accel-buffering", "no")]

/-- Why a stream is refused. -/
inductive StreamFault
  | invalidArguments (detail : String)
  | missingTool
  | unknownTool (name : String)
  | notStreaming (name : String)
  | internal (detail : String)
  deriving DecidableEq, Repr

/-- The code of a refusal. -/
def StreamFault.code : StreamFault → String
  | .invalidArguments _ => "invalid_request"
  | .missingTool => "missing_tool"
  | .unknownTool _ => "tool_not_found"
  | .notStreaming _ => "not_streaming"
  | .internal _ => "internal_error"

/-- A refusal in words. -/
def StreamFault.message : StreamFault → String
  | .invalidArguments detail | .internal detail => detail
  | .missingTool => "tool name required in query parameter 'tool'"
  | .unknownTool name => s!"tool not found: {name}"
  | .notStreaming name => s!"tool '{name}' does not support streaming"

/-- The response to a request for a stream that is refused: a stream of one event,
with the code as its identifier. -/
def StreamFault.response (f : StreamFault) : Response :=
  ⟨200, streamHeaders, .whole (Text.bytesOf ((Event.error f.message false).block f.code))⟩

/-! ### Requests -/

/-- A blank of ASCII but the vertical tab. -/
def isBlankByte (b : UInt8) : Bool :=
  b == 0x20 || b == 0x09 || b == 0x0A || b == 0x0C || b == 0x0D

/-- The arguments in a body: none if it is blank, or else an object. -/
def argumentsOf (body : Bytes) : Except StreamFault Json :=
  if body.all isBlankByte then .ok (.object [])
  else match Json.read body with
    | .ok (.object members) => .ok (.object members)
    | .ok _ => .error (.invalidArguments "arguments must be a JSON object")
    | .error fault => .error (.invalidArguments s!"failed to parse arguments: {fault.message}")

/-- The tool and the arguments of a request for a stream, where `tools` are those
that the server knows. -/
def streamTarget (tools : Tool.Registry) (tool : Option String) (body : Bytes) :
    Except StreamFault (String × Json) := do
  let args ← argumentsOf body
  match tool.filter (!·.isEmpty) with
  | none => .error .missingTool
  | some name =>
    match tools.get? name with
    | none => .error (.unknownTool name)
    | some t => if t.streaming then return (name, args) else .error (.notStreaming name)

/-- The refusal of a body that is too long. -/
def tooLong : Response :=
  refuse 413 "Failed to buffer the request body: length limit exceeded"

/-! ### Origins -/

/-- Whether a text consists of visible characters, spaces and tabs of ASCII. -/
def isVisible (s : String) : Bool :=
  s.toList.all fun c => c = '\t' || (0x20 ≤ c.toNat && c.toNat < 0x7F)

/-- The origin of a request, if it may read the response. -/
def grantedOrigin? (origins : List String) (r : Request) : Option String :=
  (r.header? "origin").filter fun origin =>
    isVisible origin && origins.any fun allowed => allowed = "*" || allowed = origin

/-- The header fields that let an origin read a response. -/
def originHeaders (origin : String) : List (String × String) :=
  [("access-control-allow-origin", origin), ("access-control-allow-methods", "POST, OPTIONS"),
    ("access-control-allow-headers", "Content-Type")]

/-- A response with the header fields that every response gets: its length where
that is known, the methods of a route that has not the one asked for, and those
for the origin. The body is left out if only the head is asked for. -/
def finish (origins : List String) (r : Request) (response : Response) : Response :=
  let allow := match Route.ofPath? r.path with
    | some route => if route.admits r.method then [] else [("allow", route.methods)]
    | none => []
  let length := match response.body with
    | .whole bytes => [("content-length", toString bytes.length)]
    | .events .. => []
  let granted := ((grantedOrigin? origins r).map originHeaders).getD []
  { response with
    headers := response.headers ++ allow ++ length ++ granted
    body := if r.method = "HEAD" then .whole [] else response.body }

end Http

namespace Server

open ToolServer.Execution (Token)
open ToolServer.Text (Bytes)
open ToolServer.Http

variable {σ : Type} [ResultCache σ]

/-! ### Serving -/

/-- The response to a message of the protocol. Its token is fired in the end. -/
def serveMessage (s : Server σ) (body : Bytes) (shutdown : Token) :
    Server σ × Option Http.Response :=
  let (scope, engine) := s.engine.childOf shutdown
  let (s, found) := { s with engine }.response body scope
  let s := { s with engine := s.engine.fire scope }
  (s, found.map fun
    | some response => document 200 "application/json" (Text.bytesOf response.text)
    | none => empty 204)

/-- The response to a request for the events of a tool. -/
def serveStream (s : Server σ) (tool : Option String) (body : Bytes) (shutdown : Token) :
    Server σ × Http.Response :=
  match streamTarget s.tools tool body with
  | .error fault => (s, fault.response)
  | .ok (name, args) =>
    let (scope, engine) := s.engine.childOf shutdown
    let id := madeUpId
    match { s with engine }.stream name args id scope with
    | .ok (run, s) => (s, ⟨200, streamHeaders, .events run scope id⟩)
    | .error e => (s, (StreamFault.internal e.message).response)

/-- The response of a route that has the method of a request. -/
def serveRoute (s : Server σ) (config : HttpConfig) (shutdown : Token) (r : Http.Request) :
    Route → Server σ × Option Http.Response
  | .health =>
    let up := Json.object [("status", .string "ok")]
    (s, some (document 200 "application/json" (Text.bytesOf up.text)))
  | .message =>
    if config.maxRequestSize < r.body.length then (s, some tooLong)
    else s.serveMessage r.body shutdown
  | .stream =>
    match formField "tool" (formFields (r.query?.getD "")) with
    | .error e => (s, some (refuse 400 s!"Failed to deserialize query string: {e}"))
    | .ok tool =>
      if config.maxRequestSize < r.body.length then (s, some tooLong)
      else
        let (s, response) := s.serveStream tool r.body shutdown
        (s, some response)

/-- The response to a request, below the token that stops the service. -/
def serveRequest (s : Server σ) (config : HttpConfig) (shutdown : Token) (r : Http.Request) :
    Server σ × Option Http.Response :=
  let (s, response) :=
    if r.method = "OPTIONS" then (s, some (empty 200))
    else match Route.ofPath? r.path with
      | none => (s, some (empty 404))
      | some route =>
        if route.admits r.method then s.serveRoute config shutdown r route
        else (s, some (empty 405))
  (s, response.map (finish config.allowedOrigins r))

/-! ### Bodies -/

/-- The next piece of a body, `none` inside if there are no more, and the body
behind it. -/
def nextFrame (s : Server σ) : Http.Body → Server σ × Http.Body × Option (Option Bytes)
  | .whole [] => (s, .whole [], some none)
  | .whole bytes => (s, .whole [], some (some bytes))
  | .events run scope id =>
    let (s, found) := s.nextEvent run
    (s, .events run scope id,
      found.map fun e => e.map fun e => Text.bytesOf (e.block id))

/-- Up to `count` pieces of a body, up to its end, and the body behind them. -/
def readFrames : (count : Nat) → Server σ → Http.Body →
    Server σ × Http.Body × Option (List (Option Bytes))
  | 0, s, b => (s, b, some [])
  | count + 1, s, b =>
    match s.nextFrame b with
    | (s, b, none) => (s, b, none)
    | (s, b, some none) => (s, b, some [none])
    | (s, b, some (some frame)) =>
      let (s, b, rest) := readFrames count s b
      (s, b, rest.map (some frame :: ·))

/-- Gives a body up: its events have no reader any more, and its token is fired. -/
def closeBody (s : Server σ) : Http.Body → Server σ
  | .whole _ => s
  | .events run scope _ => { s with engine := (s.engine.drop run).fire scope }

/-- All of a body, which is then given up. -/
def readBody (s : Server σ) (b : Http.Body) : Server σ × Option Bytes :=
  let (s, b, frames) := s.readFrames Execution.patience b
  (s.closeBody b, frames.map fun frames => (frames.map fun f => f.getD []).flatten)

/-! ### Addresses -/

end Server

/-- Whether the service can be bound to an address: a host and a port. -/
def HttpConfig.bind (address : String) : Except ServerError Unit :=
  let failed (reason : String) : Except ServerError Unit :=
    .error (.io s!"failed to bind {address}: {reason}")
  let reversed := address.toList.reverse
  let port := (reversed.takeWhile (· != ':')).reverse
  if !reversed.contains ':' then failed "invalid socket address"
  else if (Text.numeral? port).any (· < 0x10000) then .ok ()
  else failed "invalid port value"

end ToolServer
