/-
The keys under which results are stored:

* `keyMaterial`: the bytes that stand for a tool's name and arguments, equal
  for arguments that differ in the order of object members only;
* `keyOf`: the digest of these bytes;
* `plainKey`: the key of a tool without arguments.
-/
import ToolServer.Digest.Sha256
import ToolServer.Json.Printer

namespace ToolServer.Cache

/-- The bytes that stand for a call: the JSON text of its tool and of its
arguments, their objects sorted by key. -/
def keyMaterial (tool : String) (args : Json) : Text.Bytes :=
  Text.encode (Json.object [("tool", .string tool), ("args", args.canonical)]).chars

/-- The key of a call. -/
def keyOf (tool : String) (args : Json) : String :=
  Sha256.hex (keyMaterial tool args)

/-- The key of a tool by its name alone. -/
def plainKey (tool : String) : String :=
  "tool:" ++ tool

end ToolServer.Cache
