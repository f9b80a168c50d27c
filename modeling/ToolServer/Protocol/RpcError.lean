/-
The error objects of the protocol:

* `RpcError`: a code, a message and optional data;
* `parseError`, `invalidRequest`, `methodNotFound`, `invalidParams`,
  `internalError`, `toolFailed`: the errors that the server answers with;
* `RpcError.toJson`, `RpcError.decode`: an error as a document and back.
-/
import ToolServer.Json.Decode

namespace ToolServer

/-- An error object. -/
structure RpcError where
  /-- The code, a number of 32 bits. -/
  code : Int
  /-- What has gone wrong, in a few words. -/
  message : String
  /-- More about it. -/
  data : Option Json := none
  deriving BEq, Repr, Inhabited

namespace RpcError

/-! ### The server's errors -/

/-- The request is no JSON. -/
def parseError (detail : String) : RpcError :=
  ⟨-32700, "Parse error", some (.string detail)⟩

/-- The request is JSON, but no request. -/
def invalidRequest (detail : String) : RpcError :=
  ⟨-32600, "Invalid request", some (.string detail)⟩

/-- The request asks for a method that does not exist. -/
def methodNotFound (method : String) : RpcError :=
  ⟨-32601, "Method not found", some (.string method)⟩

/-- The parameters do not fit the method. -/
def invalidParams (detail : String) : RpcError :=
  ⟨-32602, "Invalid params", some (.string detail)⟩

/-- The server itself has failed. -/
def internalError (detail : String) : RpcError :=
  ⟨-32603, "Internal error", some (.string detail)⟩

/-- A tool has failed. -/
def toolFailed (message : String) (retryable : Bool) : RpcError :=
  ⟨-32603, "Internal error",
    some (.object [("message", .string message), ("retryable", .bool retryable)])⟩

/-- The error in words. -/
def shown (e : RpcError) : String :=
  s!"{e.message} (code {e.code})"

/-! ### Documents -/

/-- An error as a JSON value; absent data is left out. -/
def toJson (e : RpcError) : Json :=
  .object <| [("code", Json.ofInt e.code), ("message", .string e.message)]
    ++ (e.data.map fun d => ("data", d)).toList

/-- A code: an integer of 32 bits. -/
def decodeCode : Decode.Decoder Json Int :=
  Decode.integerIn (-0x80000000) 0x7FFFFFFF "i32"

/-- The error that a JSON value stands for. -/
def decode (v : Json) : Except Decode.Mismatch RpcError := do
  let s ← Decode.slots "RpcError" 3 v
  let code := s.field "code" 0 decodeCode none
  let message := s.field "message" 1 Decode.string none
  let data := s.field "data" 2 (Decode.optional Decode.anything) (some none)
  match code.value, message.value, data.value with
  | .ok code, .ok message, .ok data =>
    s.exhausted 3
    return ⟨code, message, data⟩
  | _, _, _ => throw (s.firstFault [code.fault?, message.fault?, data.fault?])

end RpcError

end ToolServer
