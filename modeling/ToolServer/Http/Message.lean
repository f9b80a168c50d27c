/-
HTTP messages:

* `Request`, `Response`, `Body`: what comes in and goes out;
* `Request.path`, `Request.query?`, `Request.header?`: parts of a request;
* `formFields`: the fields of a query;
* `formField`: the one value of a field.
-/
import ToolServer.Execution.Token
import ToolServer.Text.Digits
import ToolServer.Text.Utf8

namespace ToolServer.Http

open ToolServer.Text (Bytes)

/-! ### Messages -/

/-- A request. -/
structure Request where
  method : String
  /-- The target: a path, and a query behind a question mark. -/
  target : String
  /-- The header fields, in their order. -/
  headers : List (String × String)
  body : Bytes
  deriving Repr, Inhabited

/-- The body of a response. -/
inductive Body
  /-- Some bytes. -/
  | whole (bytes : Bytes)
  /-- The events of an invocation, under the identifier of its request. Its token is
  to be fired when the body is given up. -/
  | events (run : Nat) (scope : Execution.Token) (id : String)
  deriving Repr, Inhabited

/-- A response. -/
structure Response where
  status : Nat
  headers : List (String × String)
  body : Body
  deriving Repr, Inhabited

/-- A target without the scheme and the host in front of its path, which it may
name. -/
def withoutHost (target : List Char) : List Char :=
  match target.head?, target.dropWhile (· != ':') with
  | some '/', _ => target
  | _, ':' :: '/' :: '/' :: rest =>
    match rest.dropWhile fun c => c != '/' && c != '?' && c != '#' with
    | '/' :: path => '/' :: path
    | rest => '/' :: rest
  | _, _ => target

namespace Request

/-- The path of a request. -/
def path (r : Request) : String :=
  String.ofList ((withoutHost r.target.toList).takeWhile fun c => c != '?' && c != '#')

/-- The query of a request. -/
def query? (r : Request) : Option String :=
  match (r.target.toList.takeWhile (· != '#')).dropWhile (· != '?') with
  | _ :: query => some (String.ofList query)
  | [] => none

/-- The first value of a header field. The case of letters in its name does not
matter; `name` is in small letters. -/
def header? (r : Request) (name : String) : Option String :=
  (r.headers.find? fun h => h.1.map Char.toLower == name).map (·.2)

end Request

/-! ### Queries -/

/-- The bytes that a part of a query stands for: plus signs are spaces, and a
percent sign with two hexadecimal digits is a byte. -/
def decodePart : Bytes → Bytes
  | 0x25 :: a :: b :: rest =>
    match Text.hexByte? a, Text.hexByte? b with
    | some a, some b => (a * 16 + b).toUInt8 :: decodePart rest
    | _, _ => 0x25 :: decodePart (a :: b :: rest)
  | b :: rest => (if b = 0x2B then 0x20 else b) :: decodePart rest
  | [] => []

/-- The text that a part of a query stands for. -/
def decodeText (part : List Char) : String :=
  String.ofList (Text.decodeLossy (decodePart (Text.encode part)))

/-- The fields of a query, in their order; a field without a value has an empty
one. -/
def formFields (query : String) : List (String × String) :=
  (query.toList.splitOn '&').filterMap fun part =>
    if part.isEmpty then none
    else
      let name := part.takeWhile (· != '=')
      some (decodeText name, decodeText (part.drop (name.length + 1)))

/-- The value of a field that may be given once. -/
def formField (name : String) (fields : List (String × String)) :
    Except String (Option String) :=
  match fields.filter fun f => f.1 == name with
  | [] => .ok none
  | [f] => .ok (some f.2)
  | _ => .error s!"duplicate field `{name}`"

end ToolServer.Http
