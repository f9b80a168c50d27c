/-
The messages of the protocol:

* `RequestId`, `Request`, `Response`: what is asked and answered;
* `ToolInfo`, `ContentItem`, `CallResult`: parts of answers;
* `toJson`, `decode` of each: a message as a document and back.
-/
import ToolServer.Protocol.RpcError

namespace ToolServer

/-- The version that every message carries. -/
def messageVersion : String := "2.0"

/-! ### Identifiers -/

/-- The identifier of a request. -/
inductive RequestId
  /-- A text. -/
  | string (s : String)
  /-- An integer of 64 bits. -/
  | number (n : Int64)
  deriving DecidableEq, Repr, Inhabited

namespace RequestId

/-- An identifier as plain text. -/
def shown : RequestId → String
  | .string s => s
  | .number n => toString n.toInt

/-- An identifier as a JSON value. -/
def toJson : RequestId → Json
  | .string s => .string s
  | .number n => Json.ofInt n.toInt

/-- The identifier that a JSON value stands for: a string, or an integer of 64
bits. -/
def ofJson? : Json → Option RequestId
  | .string s => some (.string s)
  | .number n =>
    match n.toInt? with
    | some i => if -0x8000000000000000 ≤ i ∧ i < 0x8000000000000000 then some (.number (.ofInt i)) else none
    | none => none
  | _ => none

/-- The identifier that a JSON value stands for, or a report. -/
def decode (v : Json) : Except Decode.Mismatch RequestId :=
  match ofJson? v with
  | some id => .ok id
  | none => .error (.noVariant "RequestId")

end RequestId

/-! ### Requests -/

/-- A request; without an identifier it is a notification. -/
structure Request where
  version : String
  id : Option RequestId
  method : String
  params : Option Json
  deriving BEq, Repr, Inhabited

namespace Request

/-- A request that wants an answer. -/
def new (id : RequestId) (method : String) (params : Option Json) : Request :=
  ⟨messageVersion, some id, method, params⟩

/-- A request that wants no answer. -/
def notification (method : String) (params : Option Json) : Request :=
  ⟨messageVersion, none, method, params⟩

/-- Whether no answer is wanted. -/
def isNotification (r : Request) : Bool :=
  r.id.isNone

/-- A request as a JSON value; what is absent is left out. -/
def toJson (r : Request) : Json :=
  .object <| [("jsonrpc", .string r.version)]
    ++ (r.id.map fun id => ("id", id.toJson)).toList
    ++ [("method", .string r.method)]
    ++ (r.params.map fun p => ("params", p)).toList

/-- The request that a JSON value stands for. -/
def decode (v : Json) : Except Decode.Mismatch Request := do
  let s ← Decode.slots "JsonRpcRequest" 4 v
  let version := s.field "jsonrpc" 0 Decode.string none
  let id := s.field "id" 1 (Decode.optional RequestId.decode) (some none)
  let method := s.field "method" 2 Decode.string none
  let params := s.field "params" 3 (Decode.optional Decode.anything) (some none)
  match version.value, id.value, method.value, params.value with
  | .ok version, .ok id, .ok method, .ok params =>
    s.exhausted 4
    return ⟨version, id, method, params⟩
  | _, _, _, _ =>
    throw (s.firstFault [version.fault?, id.fault?, method.fault?, params.fault?])

end Request

/-! ### Responses -/

/-- A response: a result or an error. -/
structure Response where
  version : String
  id : Option RequestId
  result : Option Json
  error : Option RpcError
  deriving BEq, Repr, Inhabited

namespace Response

/-- The response with a result. -/
def success (id : Option RequestId) (result : Json) : Response :=
  ⟨messageVersion, id, some result, none⟩

/-- The response with an error. -/
def failure (id : Option RequestId) (error : RpcError) : Response :=
  ⟨messageVersion, id, none, some error⟩

/-- The response with one or the other. -/
def ofResult (id : Option RequestId) : Except RpcError Json → Response
  | .ok result => success id result
  | .error error => failure id error

/-- Whether there is no error. -/
def isSuccess (r : Response) : Bool :=
  r.error.isNone

/-- The error, or the result, which is null if there is none. -/
def toResult (r : Response) : Except RpcError Json :=
  match r.error with
  | some e => .error e
  | none => .ok (r.result.getD .null)

/-- A response as a JSON value; the identifier is null if there is none, and
what else is absent is left out. -/
def toJson (r : Response) : Json :=
  .object <| [("jsonrpc", .string r.version), ("id", (r.id.map RequestId.toJson).getD .null)]
    ++ (r.result.map fun v => ("result", v)).toList
    ++ (r.error.map fun e => ("error", e.toJson)).toList

/-- The response that a JSON value stands for. -/
def decode (v : Json) : Except Decode.Mismatch Response := do
  let s ← Decode.slots "JsonRpcResponse" 4 v
  let version := s.field "jsonrpc" 0 Decode.string none
  let id := s.omissible "id" 1 (Decode.optional RequestId.decode) none
  let result := s.field "result" 2 (Decode.optional Decode.anything) (some none)
  let error := s.field "error" 3 (Decode.optional RpcError.decode) (some none)
  match version.value, id.value, result.value, error.value with
  | .ok version, .ok id, .ok result, .ok error =>
    s.exhausted 4
    return ⟨version, id, result, error⟩
  | _, _, _, _ =>
    throw (s.firstFault [version.fault?, id.fault?, result.fault?, error.fault?])

end Response

/-! ### Tools in answers -/

/-- What is told about a tool. -/
structure ToolInfo where
  name : String
  description : String
  inputSchema : Json
  deriving BEq, Repr, Inhabited

/-- A tool's description as a JSON value. -/
def ToolInfo.toJson (t : ToolInfo) : Json :=
  .object [("name", .string t.name), ("description", .string t.description),
    ("inputSchema", t.inputSchema)]

/-- The tool's description that a JSON value stands for. -/
def ToolInfo.decode (v : Json) : Except Decode.Mismatch ToolInfo := do
  let s ← Decode.slots "ToolInfo" 3 v
  let name := s.field "name" 0 Decode.string none
  let description := s.field "description" 1 Decode.string none
  let schema := s.field "inputSchema" 2 Decode.anything none
  match name.value, description.value, schema.value with
  | .ok name, .ok description, .ok schema =>
    s.exhausted 3
    return ⟨name, description, schema⟩
  | _, _, _ => throw (s.firstFault [name.fault?, description.fault?, schema.fault?])

/-- A piece of the content of a result. -/
structure ContentItem where
  type : String
  text : Option String
  deriving DecidableEq, Repr, Inhabited

/-- A piece of content as a JSON value; an absent text is left out. -/
def ContentItem.toJson (c : ContentItem) : Json :=
  .object <| [("type", .string c.type)] ++ (c.text.map fun t => ("text", Json.string t)).toList

/-- The piece of content that a JSON value stands for. -/
def ContentItem.decode (v : Json) : Except Decode.Mismatch ContentItem := do
  let s ← Decode.slots "ContentItem" 2 v
  let type := s.field "type" 0 Decode.string none
  let text := s.field "text" 1 (Decode.optional Decode.string) (some none)
  match type.value, text.value with
  | .ok type, .ok text =>
    s.exhausted 2
    return ⟨type, text⟩
  | _, _ => throw (s.firstFault [type.fault?, text.fault?])

/-- The result of a tool call. -/
structure CallResult where
  content : List ContentItem
  isError : Bool
  deriving DecidableEq, Repr, Inhabited

namespace CallResult

/-- The result whose content is the JSON text of a value. -/
def ofValue (v : Json) : CallResult :=
  ⟨[⟨"text", some v.text⟩], false⟩

/-- A result as a JSON value; the mark of an error is left out if there is none. -/
def toJson (r : CallResult) : Json :=
  .object <| [("content", .array (r.content.map ContentItem.toJson))]
    ++ if r.isError then [("isError", .bool true)] else []

/-- The result that a JSON value stands for. -/
def decode (v : Json) : Except Decode.Mismatch CallResult := do
  let s ← Decode.slots "ToolCallResult" 2 v
  let content := s.field "content" 0 (Decode.list ContentItem.decode) none
  let isError := s.field "isError" 1 Decode.bool (some false)
  match content.value, isError.value with
  | .ok content, .ok isError =>
    s.exhausted 2
    return ⟨content, isError⟩
  | _, _ => throw (s.firstFault [content.fault?, isError.fault?])

end CallResult

end ToolServer
