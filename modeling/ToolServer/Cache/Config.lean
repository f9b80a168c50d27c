/-
How results are cached:

* `StoreKind`, `CacheConfig`: the kind and the limits of the store;
* `ttlFor`: how long the results of a tool are kept;
* `validate`: what an enabled store needs;
* `toJson`, `decode`: a configuration as a document and back.
-/
import ToolServer.Duration.Decode
import ToolServer.Error

namespace ToolServer

/-- The kinds of stores. -/
inductive StoreKind
  | memory | durable
  deriving DecidableEq, Repr, Inhabited

/-- The name of a kind of store. -/
def StoreKind.name : StoreKind → String
  | .memory => "memory"
  | .durable => "durable"

/-- The kind of store that a document names. -/
def StoreKind.decode {α : Type} [Decode.Document α] : Decode.Decoder α StoreKind :=
  Decode.choice [("memory", .memory), ("durable", .durable)]

/-- Puts the value of a name in its place among values by increasing name. -/
def insertNamed {β : Type} (name : String) (value : β) :
    List (String × β) → List (String × β)
  | [] => [(name, value)]
  | (n, v) :: rest =>
    if name < n then (name, value) :: (n, v) :: rest
    else if name = n then (name, value) :: rest
    else (n, v) :: insertNamed name value rest

/-- How results are cached. -/
structure CacheConfig where
  enabled : Bool := false
  store : StoreKind := .memory
  /-- How long results are kept where nothing else is said. -/
  defaultTtl : Nat := Duration.secs 60
  /-- The largest number of results. -/
  maxEntries : Nat := 1000
  /-- The time between two sweeps. -/
  cleanupInterval : Nat := Duration.secs 30
  /-- How long the results of some tools are kept, by increasing name. -/
  toolTtls : List (String × Nat) := []
  deriving DecidableEq, Repr, Inhabited

namespace CacheConfig

/-- An enabled store with all else unset. -/
def inMemory : CacheConfig :=
  { enabled := true }

/-- Sets how long the results of a tool are kept. -/
def withToolTtl (c : CacheConfig) (tool : String) (ttl : Nat) : CacheConfig :=
  { c with toolTtls := insertNamed tool ttl c.toolTtls }

/-- How long the results of a tool are kept, if that is set for it. -/
def toolTtl? (c : CacheConfig) (tool : String) : Option Nat :=
  (c.toolTtls.find? fun t => t.1 = tool).map (·.2)

/-- How long the results of a tool are kept. -/
def ttlFor (c : CacheConfig) (tool : String) : Nat :=
  (c.toolTtl? tool).getD c.defaultTtl

/-- Refuses an enabled store without room or with results that are kept for no
time. -/
def validate (c : CacheConfig) : Except CacheError Unit :=
  if !c.enabled then .ok ()
  else if c.maxEntries = 0 then .error (.invalidConfig "max_entries must be positive")
  else if c.defaultTtl = 0 then .error (.invalidConfig "default_ttl must be non-zero")
  else match c.toolTtls.find? fun t => t.2 = 0 with
    | some (tool, _) =>
      .error (.invalidConfig s!"ttl override for '{tool}' must be non-zero")
    | none => .ok ()

/-- A configuration as a JSON value. -/
def toJson (c : CacheConfig) : Json :=
  .object [("enabled", .bool c.enabled), ("store", .string c.store.name),
    ("default_ttl", Duration.toJson c.defaultTtl), ("max_entries", .ofNat c.maxEntries),
    ("cleanup_interval", Duration.toJson c.cleanupInterval),
    ("tool_ttls", .object (c.toolTtls.map fun t => (t.1, Duration.toJson t.2)))]

/-- The configuration that a document stands for; fields that are left out have
their defaults. -/
def decode {α : Type} [Decode.Document α] (d : α) :
    Except Decode.Mismatch CacheConfig := do
  let unset : CacheConfig := {}
  let s ← Decode.slots "CacheConfig" 6 d
  let enabled := s.field "enabled" 0 Decode.bool (some unset.enabled)
  let store := s.field "store" 1 StoreKind.decode (some unset.store)
  let defaultTtl := s.field "default_ttl" 2 Duration.decode (some unset.defaultTtl)
  let maxEntries := s.field "max_entries" 3 (Decode.natural "usize") (some unset.maxEntries)
  let cleanup := s.field "cleanup_interval" 4 Duration.decode (some unset.cleanupInterval)
  let toolTtls := s.field "tool_ttls" 5 (Decode.table Duration.decode) (some unset.toolTtls)
  match enabled.value, store.value, defaultTtl.value, maxEntries.value, cleanup.value,
      toolTtls.value with
  | .ok enabled, .ok store, .ok defaultTtl, .ok maxEntries, .ok cleanup, .ok toolTtls =>
    s.exhausted 6
    return ⟨enabled, store, defaultTtl, maxEntries, cleanup,
      toolTtls.foldl (fun sorted t => insertNamed t.1 t.2 sorted) []⟩
  | _, _, _, _, _, _ =>
    throw (s.firstFault [enabled.fault?, store.fault?, defaultTtl.fault?, maxEntries.fault?,
      cleanup.fault?, toolTtls.fault?])

end CacheConfig

end ToolServer
