/-
Requests and their answers:

* `readRequest`: the request in a message, or the response that tells why there
  is none;
* `Server.answer`: what the server answers to a method;
* `Server.handle`, `Server.receive`: what comes of a request and of a message;
* `Reply`: a response that is there or under way.

A request without an identifier is carried out and gets no response.
-/
import ToolServer.Server.Call

namespace ToolServer

/-! ### Reading requests -/

/-- The identifier of a message that need not be a request. -/
def idOf (message : Json) : Option RequestId :=
  (message.get? "id").bind RequestId.ofJson?

/-- The request in a message, or the response that tells why there is none. -/
def readRequest (data : Text.Bytes) : Except Response Request :=
  match Json.read data with
  | .error fault => .error (.failure none (.parseError fault.message))
  | .ok message =>
    if !message.isObject then
      .error (.failure none (.invalidRequest "request must be a JSON object"))
    else match Request.decode message with
      | .ok request => .ok request
      | .error e => .error (.failure (idOf message) (.invalidRequest e.message))

/-- What comes of a request. -/
inductive Reply
  /-- The response is there, or there is none. -/
  | ready (response : Option Response)
  /-- The response comes at the end of a call; `id` is that of the request. -/
  | underWay (id : Option RequestId) (call : Call)

/-- The response to a request with or without an identifier. -/
def respond (id : Option RequestId) (result : Except RpcError Json) : Option Response :=
  id.map fun id => .ofResult (some id) result

/-- The text of a response. -/
def Response.text (r : Response) : String :=
  r.toJson.text

namespace Server

variable {σ : Type} [ResultCache σ]

/-! ### Methods -/

/-- The version of the protocol. -/
def protocolVersion : String := "2024-11-05"

/-- What the server tells about itself. -/
def introduction (s : Server σ) : Json :=
  Json.canonical <| .object
    [("protocolVersion", .string protocolVersion),
      ("serverInfo", .object [("name", .string s.info.name), ("version", .string s.info.version)]),
      ("capabilities", .object
        [("tools", .object [("listChanged", .bool false)]),
          ("experimental", .object
            [("streaming", .bool true), ("cache", .bool s.cacheConfig.enabled)])])]

/-- What the server tells about its tools. -/
def toolList (s : Server σ) : Json :=
  let info (t : Tool.Definition) : ToolInfo := ⟨t.name, t.description, t.schema⟩
  Json.canonical <|
    .object [("tools", .array (s.tools.list.map fun t => (info t).toJson))]

/-- What the server answers to a method with parameters. -/
def answer (s : Server σ) (method : String) (params : Json) (caller : Execution.Token) :
    Server σ × Answer :=
  if method = "initialize" then (s, .ready (.ok s.introduction))
  else if method = "ping" then (s, .ready (.ok (.object [])))
  else if method = "tools/list" then (s, .ready (.ok s.toolList))
  else if method = "tools/call" then s.callTool params caller
  else if method = "cache/stats" then
    (s, .ready (.ok (ResultCache.stats s.cache).toJson.canonical))
  else if "notifications/".toList.isPrefixOf method.toList then (s, .ready (.ok .null))
  else (s, .ready (.error (.methodNotFound method)))

/-! ### Requests -/

/-- What comes of a request under a caller's token. -/
def handle (s : Server σ) (r : Request) (caller : Execution.Token) : Server σ × Reply :=
  if r.version ≠ messageVersion then
    (s, .ready (respond r.id (.error
      (.invalidRequest s!"unsupported jsonrpc version '{r.version}'"))))
  else match s.answer r.method (r.params.getD .null) caller with
    | (s, .ready result) => (s, .ready (respond r.id result))
    | (s, .underWay call) => (s, .underWay r.id call)

/-- What comes of a message under a caller's token. -/
def receive (s : Server σ) (data : Text.Bytes) (caller : Execution.Token) :
    Server σ × Reply :=
  match readRequest data with
  | .error response => (s, .ready (some response))
  | .ok request => s.handle request caller

/-- Goes on with a reply as far as events are there. -/
def pursue (s : Server σ) : Reply → Server σ × Reply
  | .ready response => (s, .ready response)
  | .underWay id call =>
    match s.resume call with
    | (s, .inl call) => (s, .underWay id call)
    | (s, .inr result) => (s, .ready (respond id result))

end Server

end ToolServer
