/-
The store of results:

* `Entry`: a stored value, with the time of its expiry and its hits;
* `Store`: a store of bounded size, its entries in the order of last touch,
  the most recent one first;
* `Store.get`, `set`, `delete`, `clear`, `cleanExpired`: its operations;
* `Store.stats`: the counts that it keeps.

An entry is touched when its key is set and when a look-up finds it alive. A
key that is set in a full store takes the place of the entry that was touched
least recently.
-/
import ToolServer.Duration.Basic
import ToolServer.Error
import ToolServer.Json.Value
import ToolServer.Text.Utf8

namespace ToolServer.Cache

open ToolServer.Text (Bytes)

/-- A stored value. -/
structure Entry where
  key : String
  value : Bytes
  createdAt : Nat
  expiresAt : Nat
  hits : Nat := 0
  deriving DecidableEq, Repr, Inhabited

namespace Entry

/-- A new entry that lives for some time. -/
def new (key : String) (value : Bytes) (now ttl : Nat) : Entry :=
  { key, value, createdAt := now, expiresAt := Duration.deadlineAfter now ttl }

/-- Whether the entry is past its time. -/
def isExpired (e : Entry) (now : Nat) : Bool :=
  decide (e.expiresAt ≤ now)

end Entry

/-- The counts that a store keeps. -/
structure Counters where
  hits : Nat := 0
  misses : Nat := 0
  sets : Nat := 0
  deletes : Nat := 0
  evictions : Nat := 0
  deriving DecidableEq, Repr, Inhabited

/-- The counts of a store, with its size and the bound of its size. -/
structure Stats where
  counters : Counters := {}
  size : Nat := 0
  maxSize : Nat := 0
  deriving DecidableEq, Repr, Inhabited

namespace Stats

/-- The part of look-ups that found an entry; zero if there were none. -/
def hitRate (c : Counters) : Binary64 :=
  if c.hits + c.misses = 0 then .zero
  else (Binary64.ofNat64 c.hits.toUInt64).div (.ofNat64 (c.hits + c.misses).toUInt64)

/-- The counts as a JSON value. -/
def toJson (s : Stats) : Json :=
  .object [("hits", .ofNat s.counters.hits), ("misses", .ofNat s.counters.misses),
    ("sets", .ofNat s.counters.sets), ("deletes", .ofNat s.counters.deletes),
    ("evictions", .ofNat s.counters.evictions), ("size", .ofNat s.size),
    ("max_size", .ofNat s.maxSize), ("hit_rate", .ofBinary64 (hitRate s.counters))]

end Stats

/-- A store of bounded size. -/
structure Store where
  /-- The largest number of entries. -/
  capacity : Nat
  /-- The life of an entry that is set without one. -/
  defaultTtl : Nat
  /-- The entries, the most recently touched first. -/
  entries : List Entry := []
  counters : Counters := {}
  deriving DecidableEq, Repr, Inhabited

namespace Store

/-- An empty store for a number of entries, at least one. -/
def new (maxEntries defaultTtl : Nat) : Store :=
  { capacity := max maxEntries 1, defaultTtl }

/-- The entry of a key, whether alive or not. -/
def find? (s : Store) (key : String) : Option Entry :=
  s.entries.find? fun e => e.key = key

/-- The entries of all other keys. -/
def others (s : Store) (key : String) : List Entry :=
  s.entries.filter fun e => e.key ≠ key

/-- Looks a key up. An entry that is alive is touched and counts a hit; one
that is past its time is taken out. -/
def get (s : Store) (now : Nat) (key : String) : Except CacheError Entry × Store :=
  let c := s.counters
  match s.find? key with
  | none => (.error .notFound, { s with counters := { c with misses := c.misses + 1 } })
  | some e =>
    if e.isExpired now then
      (.error .expired,
        { s with
            entries := s.others key
            counters := { c with misses := c.misses + 1, evictions := c.evictions + 1 } })
    else
      let e := { e with hits := e.hits + 1 }
      (.ok e,
        { s with
            entries := e :: s.others key
            counters := { c with hits := c.hits + 1 } })

/-- The life of an entry that is set with some life; zero stands for none. -/
def effectiveTtl (s : Store) (ttl : Nat) : Nat :=
  if ttl = 0 then s.defaultTtl else ttl

/-- Whether setting a key takes another entry's place. -/
def mustEvict (s : Store) (key : String) : Bool :=
  (s.find? key).isNone && decide (s.capacity ≤ s.entries.length)

/-- Sets a key. -/
def set (s : Store) (now : Nat) (key : String) (value : Bytes) (ttl : Nat) : Store :=
  let e := Entry.new key value now (s.effectiveTtl ttl)
  let c := { s.counters with sets := s.counters.sets + 1 }
  if s.mustEvict key then
    { s with
        entries := e :: s.entries.dropLast
        counters := { c with evictions := c.evictions + 1 } }
  else { s with entries := e :: s.others key, counters := c }

/-- Takes a key out. -/
def delete (s : Store) (key : String) : Except CacheError Unit × Store :=
  match s.find? key with
  | none => (.error .notFound, s)
  | some _ =>
    (.ok (),
      { s with
          entries := s.others key
          counters := { s.counters with deletes := s.counters.deletes + 1 } })

/-- Takes everything out. -/
def clear (s : Store) : Store :=
  { s with entries := [] }

/-- Takes all entries out that are past their time, and tells how many. -/
def cleanExpired (s : Store) (now : Nat) : Nat × Store :=
  let expired := s.entries.countP fun e => e.isExpired now
  (expired,
    { s with
        entries := s.entries.filter fun e => !e.isExpired now
        counters := { s.counters with evictions := s.counters.evictions + expired } })

/-- The counts of a store. -/
def stats (s : Store) : Stats :=
  ⟨s.counters, s.entries.length, s.capacity⟩

end Store

end ToolServer.Cache
