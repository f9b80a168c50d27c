/-
What a server keeps its results in:

* `ResultCache`: what a server needs of a store;
* `Backend`: no store at all, or a store in memory;
* `CacheConfig.create`: the store that a configuration asks for.
-/
import ToolServer.Cache.Config
import ToolServer.Cache.Sweep

namespace ToolServer

open ToolServer.Text (Bytes)

/-- What a server needs of a store of results. -/
class ResultCache (σ : Type) where
  /-- Looks a key up at some time. -/
  get : σ → (now : Nat) → (key : String) → Except CacheError Cache.Entry × σ
  /-- Sets a key at some time. -/
  set : σ → (now : Nat) → (key : String) → (value : Bytes) → (ttl : Nat) →
    Except CacheError Unit × σ
  /-- The counts of the store. -/
  stats : σ → Cache.Stats
  /-- Gives up everything stored. -/
  close : σ → Except CacheError Unit × σ
  /-- Lets the clock run from one time to another. -/
  pass : σ → (start now : Nat) → σ

namespace Cache

/-- What results are kept in. -/
inductive Backend
  /-- Nothing is kept; the number of look-ups is counted. -/
  | disabled (misses : Nat)
  /-- A store in memory. -/
  | memory (s : Swept)
  deriving Repr, Inhabited

namespace Backend

/-- Looks a key up. -/
def get (b : Backend) (now : Nat) (key : String) : Except CacheError Entry × Backend :=
  match b with
  | .disabled misses => (.error .disabled, .disabled (misses + 1))
  | .memory s =>
    let (found, store) := s.store.get now key
    (found, .memory { s with store })

/-- Sets a key. -/
def set (b : Backend) (now : Nat) (key : String) (value : Bytes) (ttl : Nat) : Backend :=
  match b with
  | .disabled misses => .disabled misses
  | .memory s => .memory { s with store := s.store.set now key value ttl }

/-- Takes a key out. -/
def delete (b : Backend) (key : String) : Except CacheError Unit × Backend :=
  match b with
  | .disabled misses => (.error .notFound, .disabled misses)
  | .memory s =>
    let (deleted, store) := s.store.delete key
    (deleted, .memory { s with store })

/-- Takes everything out. -/
def clear : Backend → Backend
  | .disabled misses => .disabled misses
  | .memory s => .memory { s with store := s.store.clear }

/-- The counts. -/
def stats : Backend → Stats
  | .disabled misses => { counters := { misses } }
  | .memory s => s.store.stats

/-- Gives everything up. -/
def close : Backend → Backend
  | .disabled misses => .disabled misses
  | .memory s => .memory s.close

/-- Lets the clock run from one time to another. -/
def pass (b : Backend) (start now : Nat) : Backend :=
  match b with
  | .disabled misses => .disabled misses
  | .memory s => .memory (s.pass start now)

/-- Sets the clock from one time to another. -/
def skip (b : Backend) (start now : Nat) : Backend :=
  match b with
  | .disabled misses => .disabled misses
  | .memory s => .memory (s.skip start now)

instance : ResultCache Backend where
  get := get
  set b now key value ttl := (.ok (), b.set now key value ttl)
  stats := stats
  close b := (.ok (), b.close)
  pass := pass

end Backend

end Cache

/-- The store that a configuration asks for. -/
def CacheConfig.create (c : CacheConfig) : Except CacheError Cache.Backend :=
  if !c.enabled then .ok (.disabled 0)
  else match c.validate with
    | .error e => .error e
    | .ok () =>
      match c.store with
      | .memory =>
        .ok (.memory { store := .new c.maxEntries c.defaultTtl, interval := c.cleanupInterval })
      | .durable => .error (.unsupported c.store.name)

end ToolServer
