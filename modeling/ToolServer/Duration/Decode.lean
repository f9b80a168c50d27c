/-
Spans of time in documents: strings such as `1m 30s`.
-/
import ToolServer.Duration.Words
import ToolServer.Json.Decode

namespace ToolServer.Duration

/-- A span as a JSON value. -/
def toJson (d : Nat) : Json :=
  .string (words d)

/-- A document that is a span in words. -/
def decode {α : Type} [Decode.Document α] : Decode.Decoder α Nat :=
  fun d => match Decode.Document.string? d with
    | some s =>
      match Duration.ofWords s with
      | .ok span => .ok span
      | .error _ => .error (.wrongValue (.string s) "a duration")
    | none => .error (.wrongType (Decode.found d) "a duration")

end ToolServer.Duration
