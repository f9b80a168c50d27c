/-
How the results of a tool are cached:

* `Caching`: whether they are, for how long, and the tags of the tool;
* `Caching.toJson`, `Caching.decode`: the same as a document and back.
-/
import ToolServer.Duration.Decode

namespace ToolServer.Tool

/-- Puts a text in its place among different texts in increasing order. -/
def insertTag (tag : String) : List String → List String
  | [] => [tag]
  | t :: rest =>
    if tag < t then tag :: t :: rest
    else if tag = t then t :: rest
    else t :: insertTag tag rest

/-- How the results of a tool are cached. -/
structure Caching where
  /-- Whether results are kept. -/
  cacheable : Bool := false
  /-- How long a result is kept, if the tool says so itself. -/
  ttl : Option Nat := none
  /-- The tags of the tool, in increasing order. -/
  tags : List String := []
  deriving DecidableEq, Repr, Inhabited

namespace Caching

/-- How long a result is kept, where the tool does not say so itself. -/
def ttlOr (c : Caching) (unset : Nat) : Nat :=
  c.ttl.getD unset

/-- Adds a tag. -/
def tag (c : Caching) (tag : String) : Caching :=
  { c with tags := insertTag tag c.tags }

/-- The rules of caching as a JSON value; what is absent is left out. -/
def toJson (c : Caching) : Json :=
  .object <| [("cacheable", .bool c.cacheable)]
    ++ (c.ttl.map fun d => ("ttl", Duration.toJson d)).toList
    ++ if c.tags.isEmpty then [] else [("tags", .array (c.tags.map Json.string))]

/-- The rules of caching that a JSON value stands for. -/
def decode (v : Json) : Except Decode.Mismatch Caching := do
  let s ← Decode.slots "ToolCacheMetadata" 3 v
  let cacheable := s.field "cacheable" 0 Decode.bool none
  let ttl := s.field "ttl" 1 (Decode.optional Duration.decode) (some none)
  let tags := s.field "tags" 2 (Decode.list Decode.string) (some [])
  match cacheable.value, ttl.value, tags.value with
  | .ok cacheable, .ok ttl, .ok tags =>
    s.exhausted 3
    return ⟨cacheable, ttl, tags.foldl (fun sorted t => insertTag t sorted) []⟩
  | _, _, _ => throw (s.firstFault [cacheable.fault?, ttl.fault?, tags.fault?])

end Caching

end ToolServer.Tool
