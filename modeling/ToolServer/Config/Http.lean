/-
How the server is reached over HTTP:

* `HttpConfig`: the address, the bound of a request's size and the origins
  that may read answers;
* `validate`, `toJson`, `decode`: its rules, and the same as a document.
-/
import ToolServer.Error
import ToolServer.Json.Decode
import ToolServer.Text.Blank

namespace ToolServer

/-- How the server is reached over HTTP. -/
structure HttpConfig where
  address : String := "127.0.0.1:8080"
  /-- The largest size of a request's body, in bytes. -/
  maxRequestSize : Nat := 10485760
  /-- The origins that may read answers; a star stands for all. -/
  allowedOrigins : List String := []
  deriving DecidableEq, Repr, Inhabited

namespace HttpConfig

/-- Refuses an empty address and a size of zero. -/
def validate (c : HttpConfig) : Except ServerError Unit :=
  if Text.isBlankString c.address then .error (.config "http address must not be empty")
  else if c.maxRequestSize = 0 then
    .error (.config "http max_request_size must be greater than 0")
  else .ok ()

/-- A configuration as a JSON value. -/
def toJson (c : HttpConfig) : Json :=
  .object [("address", .string c.address), ("max_request_size", .ofNat c.maxRequestSize),
    ("allowed_origins", .array (c.allowedOrigins.map Json.string))]

/-- The configuration that a document stands for; fields that are left out have
their defaults. -/
def decode {α : Type} [Decode.Document α] (d : α) :
    Except Decode.Mismatch HttpConfig := do
  let unset : HttpConfig := {}
  let s ← Decode.slots "HttpConfig" 3 d
  let address := s.field "address" 0 Decode.string (some unset.address)
  let size := s.field "max_request_size" 1 (Decode.natural "usize") (some unset.maxRequestSize)
  let origins :=
    s.field "allowed_origins" 2 (Decode.list Decode.string) (some unset.allowedOrigins)
  match address.value, size.value, origins.value with
  | .ok address, .ok size, .ok origins =>
    s.exhausted 3
    return ⟨address, size, origins⟩
  | _, _, _ => throw (s.firstFault [address.fault?, size.fault?, origins.fault?])

end HttpConfig

end ToolServer
