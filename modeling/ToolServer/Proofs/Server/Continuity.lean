/-
What stays as it is while a server goes on:

* `Run.SameWork`, `Engine.Extends`: the tool and the arguments of an invocation,
  which keeps its place; the clock does not run back;
* `Backend.entries`, `Backend.life`: what a store holds, and how long it keeps a
  result; `get_entries`, `set_entries`, `pass_entries`: where its entries are from;
* `Server.Later`: a later state of a server. Its tools and its rules of caching
  are the same.
-/
import ToolServer.Proofs.Cache.Sweeping
import ToolServer.Proofs.Execution.Stream
import ToolServer.Server.Call

namespace ToolServer

open ToolServer.Text (Bytes)

/-! ### Invocations -/

namespace Execution

/-- Whether two states are those of one invocation of a tool. -/
def Run.SameWork (r r' : Run) : Prop :=
  r'.tool = r.tool ∧ r'.args = r.args ∧ r'.body = r.body

lemma Run.SameWork.refl (r : Run) : r.SameWork r := ⟨rfl, rfl, rfl⟩

lemma Run.SameWork.trans {r r' r'' : Run} (h : r.SameWork r') (h' : r'.SameWork r'') :
    r.SameWork r'' :=
  ⟨h'.1.trans h.1, h'.2.1.trans h.2.1, h'.2.2.trans h.2.2⟩

lemma Run.sameWork_publish (maxEvents capacity : ℕ) (cancelled : Bool) (x : Emission) (r : Run) :
    r.SameWork (r.publish maxEvents capacity cancelled x).1 := by
  rcases r.publish_cases maxEvents capacity cancelled x with same | ⟨-, lost⟩ | ⟨-, -, queued⟩
  · rw [same]
    exact .refl r
  · rw [lost]
    exact .refl r
  · rw [queued]
    exact .refl r

/-- No change makes an invocation one of something else. -/
lemma Run.Change.sameWork {e : Engine} {r r' : Run} {reading : Option Engine.Reading}
    (change : r.Change e reading r') : r.SameWork r' := by
  cases change with
  | emitted => exact Run.sameWork_publish ..
  | emittedOutside x => exact Run.sameWork_publish ..
  | refused | begun | queued | moved | concluded | finished | read | foundNothing | dropped =>
      exact .refl r

namespace Engine

/-- Whether an executor is a later state of another. -/
structure Extends (e e' : Engine) : Prop where
  now : e.now ≤ e'.now
  runs : ∀ (id : ℕ) (r : Run), e.runs[id]? = some r → ∃ r', e'.runs[id]? = some r' ∧ r.SameWork r'

lemma Extends.refl (e : Engine) : e.Extends e :=
  ⟨le_rfl, fun _ r hr => ⟨r, hr, .refl r⟩⟩

lemma Extends.trans {e e' e'' : Engine} (h : e.Extends e') (h' : e'.Extends e'') :
    e.Extends e'' := by
  refine ⟨h.now.trans h'.now, ?_⟩
  intro id r hr
  obtain ⟨r', hr', same⟩ := h.runs id r hr
  obtain ⟨r'', hr'', same'⟩ := h'.runs id r' hr'
  exact ⟨r'', hr'', same.trans same'⟩

/-- An executor after an action is a later state of it. -/
lemma Extends.of_act {e e' : Engine} {a : Action} (h : e.act a = some e') : e.Extends e' := by
  refine ⟨act_now h, ?_⟩
  intro id r hr
  obtain ⟨r', hr', ⟨rfl, -⟩ | change⟩ := act_run h hr
  · exact ⟨r', hr', .refl r'⟩
  · exact ⟨r', hr', change.sameWork⟩

lemma extends_take (e : Engine) (id : ℕ) : e.Extends (e.take id).2 := by
  by_cases there : id < e.runs.length
  · exact .of_act (a := .take id) (if_pos there)
  · have absent : e.runs[id]? = none := List.getElem?_eq_none_iff.mpr (not_lt.mp there)
    rw [take, absent]
    exact .refl e

lemma extends_drop (e : Engine) (id : ℕ) : e.Extends (e.drop id) := by
  by_cases there : id < e.runs.length
  · exact .of_act (a := .drop id) (if_pos there)
  · have absent : e.runs[id]? = none := List.getElem?_eq_none_iff.mpr (not_lt.mp there)
    rw [drop, absent]
    exact .refl e

end Engine

end Execution

/-! ### Stores -/

namespace Cache

/-- Whether two entries differ in their hits only. -/
def Entry.SameContent (e e' : Entry) : Prop :=
  e'.key = e.key ∧ e'.value = e.value ∧ e'.expiresAt = e.expiresAt

lemma Entry.SameContent.refl (e : Entry) : e.SameContent e := ⟨rfl, rfl, rfl⟩

namespace Backend

/-- What a store holds. -/
def entries : Backend → List Entry
  | .disabled _ => []
  | .memory s => s.store.entries

/-- How long a result is kept that is set with some life. -/
def life : Backend → ℕ → ℕ
  | .disabled _, ttl => ttl
  | .memory s, ttl => s.store.effectiveTtl ttl

/-- A look-up puts nothing in. -/
lemma get_entries (b : Backend) (now : ℕ) (key : String) :
    ∀ e' ∈ (b.get now key).2.entries, ∃ e ∈ b.entries, e.SameContent e' := by
  intro e' there
  cases b with
  | disabled misses => simp [get, entries] at there
  | memory s =>
      change e' ∈ (s.store.get now key).2.entries at there
      rcases s.store.get_cases now key with ⟨-, -, left⟩ | ⟨e, -, -, -, left⟩ |
        ⟨e, found, -, -, left⟩
      · rw [left] at there
        exact ⟨e', there, .refl e'⟩
      · rw [left] at there
        exact ⟨e', (Store.mem_others.mp there).1, .refl e'⟩
      · rw [left] at there
        rcases List.mem_cons.mp there with rfl | there
        · exact ⟨e, Store.mem_of_find? found, rfl, rfl, rfl⟩
        · exact ⟨e', (Store.mem_others.mp there).1, .refl e'⟩

/-- What a look-up finds is an entry of its key that is alive. -/
lemma get_found {b : Backend} {now : ℕ} {key : String} {e' : Entry}
    (found : (b.get now key).1 = .ok e') :
    ∃ e ∈ b.entries, e.SameContent e' ∧ e.key = key ∧ now < e.expiresAt := by
  cases b with
  | disabled misses => cases found
  | memory s =>
      change (s.store.get now key).1 = .ok e' at found
      rcases s.store.get_cases now key with ⟨-, result, -⟩ | ⟨e, -, -, result, -⟩ |
        ⟨e, there, alive, result, -⟩
      · rw [result] at found
        cases found
      · rw [result] at found
        cases found
      · rw [result] at found
        cases found
        refine ⟨e, Store.mem_of_find? there, ⟨rfl, rfl, rfl⟩, Store.key_of_find? there, ?_⟩
        exact not_le.mp (of_decide_eq_false alive)

/-- Setting a key puts one entry in. -/
lemma set_entries (b : Backend) (now : ℕ) (key : String) (value : Bytes) (ttl : ℕ) :
    ∀ e ∈ (b.set now key value ttl).entries,
      e ∈ b.entries ∨ e = .new key value now (b.life ttl) := by
  intro e there
  cases b with
  | disabled misses => exact .inl there
  | memory s =>
      change e ∈ (s.store.set now key value ttl).entries at there
      cases evict : s.store.mustEvict key with
      | true =>
          rw [Store.set_entries_of_mustEvict evict] at there
          rcases List.mem_cons.mp there with rfl | there
          · exact .inr rfl
          · exact .inl (List.mem_of_mem_dropLast there)
      | false =>
          rw [Store.set_entries_of_room evict] at there
          rcases List.mem_cons.mp there with rfl | there
          · exact .inr rfl
          · exact .inl (Store.mem_others.mp there).1

/-- Time puts nothing in. -/
lemma pass_entries (b : Backend) (start now : ℕ) :
    ∀ e ∈ (b.pass start now).entries, e ∈ b.entries := by
  intro e there
  cases b with
  | disabled misses => exact there
  | memory s =>
      change e ∈ (s.pass start now).store.entries at there
      rcases s.pass_store start now with same | ⟨_, -, swept⟩
      · rw [same] at there
        exact there
      · rw [swept] at there
        exact (Store.mem_cleanExpired.mp there).1

lemma close_entries (b : Backend) : b.close.entries = [] := by
  cases b <;> rfl

lemma get_life (b : Backend) (now : ℕ) (key : String) (ttl : ℕ) :
    (b.get now key).2.life ttl = b.life ttl := by
  cases b with
  | disabled misses => rfl
  | memory s =>
      show (s.store.get now key).2.effectiveTtl ttl = s.store.effectiveTtl ttl
      rw [Store.get]
      split
      · rfl
      · split_ifs <;> rfl

lemma set_life (b : Backend) (now : ℕ) (key : String) (value : Bytes) (ttl ttl' : ℕ) :
    (b.set now key value ttl).life ttl' = b.life ttl' := by
  cases b with
  | disabled misses => rfl
  | memory s =>
      show (s.store.set now key value ttl).effectiveTtl ttl' = s.store.effectiveTtl ttl'
      rw [Store.set]
      split_ifs <;> rfl

lemma pass_life (b : Backend) (start now ttl : ℕ) :
    (b.pass start now).life ttl = b.life ttl := by
  cases b with
  | disabled misses => rfl
  | memory s =>
      show (s.pass start now).store.effectiveTtl ttl = s.store.effectiveTtl ttl
      rcases s.pass_store start now with same | ⟨_, -, swept⟩
      · rw [same]
      · rw [swept]
        rfl

lemma close_life (b : Backend) (ttl : ℕ) : b.close.life ttl = b.life ttl := by
  cases b <;> rfl

end Backend

end Cache

/-! ### Servers -/

namespace Server

open ToolServer.Cache (Backend)
open ToolServer.Execution (Engine Token)

/-- Whether a server is a later state of another. -/
structure Later (s s' : Server Backend) : Prop where
  tools : s'.tools = s.tools
  cacheConfig : s'.cacheConfig = s.cacheConfig
  life : ∀ ttl, s'.cache.life ttl = s.cache.life ttl
  engine : s.engine.Extends s'.engine

variable {s s' s'' : Server Backend}

lemma Later.refl (s : Server Backend) : s.Later s :=
  ⟨rfl, rfl, fun _ => rfl, .refl _⟩

lemma Later.trans (h : s.Later s') (h' : s'.Later s'') : s.Later s'' :=
  ⟨h'.tools.trans h.tools, h'.cacheConfig.trans h.cacheConfig,
    fun ttl => (h'.life ttl).trans (h.life ttl), h.engine.trans h'.engine⟩

lemma Later.now_le (h : s.Later s') : s.now ≤ s'.now :=
  h.engine.now

lemma Later.ttlOf (h : s.Later s') (tool : Tool.Definition) : s'.ttlOf tool = s.ttlOf tool := by
  rw [Server.ttlOf, Server.ttlOf, h.cacheConfig]

/-- A server whose executor has gone on. -/
lemma Later.of_engine {engine : Engine} (h : s.engine.Extends engine) :
    s.Later { s with engine } :=
  ⟨rfl, rfl, fun _ => rfl, h⟩

lemma later_checkCredentials (s : Server Backend) (tool : String) (credentials : Option Json) :
    s.Later (s.checkCredentials tool credentials) := by
  rw [checkCredentials]
  split
  · exact ⟨rfl, rfl, fun _ => rfl, .refl _⟩
  · exact .refl s

lemma later_lookUp (s : Server Backend) (tool : Tool.Definition) (args : Json) :
    s.Later (s.lookUp tool args).1 :=
  ⟨rfl, rfl, Backend.get_life _ _ _, .refl _⟩

lemma later_invoke (s : Server Backend) (tool : Tool.Definition) (args : Json) (caller : Token)
    (keep : Option (String × ℕ)) : s.Later (s.invoke tool args caller keep).1 := by
  have branched : s.engine.Extends (s.engine.childOf caller).2 := .of_act (a := .branch caller) rfl
  exact .of_engine (branched.trans (.of_act (a := .submit _ _ _ _ _) rfl))

lemma later_keepResult (s : Server Backend) (c : Call) (result : Except RpcError Json) :
    s.Later (s.keepResult c result) := by
  rw [keepResult.eq_def]
  split
  · split
    · exact ⟨rfl, rfl, Backend.set_life _ _ _ _ _, .refl _⟩
    · exact .refl s
  · exact .refl s

lemma later_setClock {now : ℕ} (h : s.now ≤ now) : s.Later (s.setClock now) :=
  ⟨rfl, rfl, Backend.pass_life _ _ _, ⟨h, fun _ r hr => ⟨r, hr, .refl r⟩⟩⟩

/-- What is looked up is read from an entry of its key that is alive. -/
lemma lookUp_found {tool : Tool.Definition} {args result : Json}
    (h : (s.lookUp tool args).2 = some result) :
    ∃ e ∈ s.cache.entries, e.key = Cache.keyOf tool.name args ∧ s.now < e.expiresAt ∧
      Json.read e.value = .ok result := by
  obtain ⟨e', found, read⟩ := Option.bind_eq_some_iff.mp h
  have got : (s.cache.get s.now (Cache.keyOf tool.name args)).1 = .ok e' := by
    change (s.cache.get s.now (Cache.keyOf tool.name args)).1.toOption = some e' at found
    cases got : (s.cache.get s.now (Cache.keyOf tool.name args)).1 with
    | ok e => rw [got] at found; exact congrArg _ (Option.some.inj found)
    | error err => rw [got] at found; cases found
  obtain ⟨e, there, ⟨-, value, -⟩, key, alive⟩ := Backend.get_found got
  refine ⟨e, there, key, alive, ?_⟩
  rw [← value]
  cases value : Json.read e'.value with
  | ok v => rw [value] at read; exact congrArg _ (Option.some.inj read)
  | error fault => rw [value] at read; cases read

/-- An entry of its key that is alive is what is found. -/
lemma lookUp_of_alive {w : Cache.Swept} {tool : Tool.Definition} {args v : Json}
    {e : Cache.Entry} (cache : s.cache = .memory w)
    (there : w.store.find? (Cache.keyOf tool.name args) = some e) (alive : s.now < e.expiresAt)
    (read : Json.read e.value = .ok v) : (s.lookUp tool args).2 = some v := by
  rcases w.store.get_cases s.now (Cache.keyOf tool.name args) with ⟨absent, -⟩ | ⟨x, found, past, -⟩ |
    ⟨x, found, -, result, -⟩
  · rw [there] at absent
    cases absent
  · obtain rfl := Option.some.inj (found.symm.trans there)
    exact absurd alive (not_lt.mpr (of_decide_eq_true past))
  · obtain rfl := Option.some.inj (found.symm.trans there)
    have got : (s.cache.get s.now (Cache.keyOf tool.name args)).1
        = .ok { x with hits := x.hits + 1 } := by
      rw [cache]
      exact result
    show ((s.cache.get s.now (Cache.keyOf tool.name args)).1.toOption.bind fun entry =>
      (Json.read entry.value).toOption) = some v
    rw [got]
    show (Json.read x.value).toOption = some v
    rw [read]
    rfl

/-- What a result that is kept puts in. -/
lemma keepResult_entries (s : Server Backend) (c : Call) (result : Except RpcError Json) :
    ∀ e ∈ (s.keepResult c result).cache.entries, e ∈ s.cache.entries ∨
      ∃ v key ttl, result = .ok v ∧ c.keep = some (key, ttl) ∧
        e = .new key (Text.bytesOf v.text) s.now (s.cache.life ttl) := by
  intro e there
  rw [keepResult.eq_def] at there
  split at there
  · next v =>
      split at there
      · next key ttl keep =>
          rcases Backend.set_entries _ _ _ _ _ e there with there | new
          · exact .inl there
          · exact .inr ⟨v, key, ttl, rfl, keep, new⟩
      · exact .inl there
  · exact .inl there

end Server

end ToolServer
