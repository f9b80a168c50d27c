/-
How long results are kept, by the configuration:

* `CacheConfig.lifetimeOf`: the life of a tool's results, as the tool says, as it is set for
  the tool or as it is for all tools;
* `CacheConfig.IsLasting`, `create_memory`: no store is created that keeps results for no
  time;
* `lifeOf_eq`: the life that a server gives to results is this one;
* `Server.KeepsFor`, `keepsFor_keepResult`: a result that has been kept is found from that
  time on, up to the end of its life;
* `results_live_as_configured`: so it is at any time, for every tool.

The life is worked out in two places. The server takes what the tool says, or what is set for
the tool, and zero if there is neither; the store takes its own default for a zero, and cuts
off what is longer than thirty years. A tool that says zero gets the default of the store
though another life may be set for it.
-/
import ToolServer.Proofs.Cache.Lookup
import ToolServer.Proofs.Server.Reuse

namespace ToolServer

open ToolServer.Cache (Backend)

/-! ### Configurations -/

namespace CacheConfig

/-- How long the results of a tool are kept: as the tool says, zero being the default for all
tools; or else as it is set for the tool; or else the default. -/
def lifetimeOf (c : CacheConfig) (tool : Tool.Definition) : ℕ :=
  match tool.caching.ttl with
  | none => c.ttlFor tool.name
  | some ttl => if ttl = 0 then c.defaultTtl else ttl

/-- Whether no results are kept for no time. -/
structure IsLasting (c : CacheConfig) : Prop where
  default : 0 < c.defaultTtl
  overrides : ∀ t ∈ c.toolTtls, 0 < t.2

variable {c : CacheConfig} {store : Backend}

/-- A configuration that is enabled and valid keeps no results for no time. -/
lemma isLasting_of_validate (enabled : c.enabled = true) (valid : c.validate = .ok ()) :
    c.IsLasting := by
  rw [validate, enabled, if_neg (by decide)] at valid
  split_ifs at valid with empty short
  split at valid
  · cases valid
  · next none =>
      refine ⟨Nat.pos_of_ne_zero short, fun t ht => Nat.pos_of_ne_zero ?_⟩
      simpa using List.find?_eq_none.mp none t ht

/-- The store that an enabled configuration asks for is a new one in memory. -/
lemma create_memory (enabled : c.enabled = true) (created : c.create = .ok store) :
    c.IsLasting ∧ ∃ w, store = .memory w ∧ w.store = .new c.maxEntries c.defaultTtl := by
  rw [create, enabled, if_neg (by decide)] at created
  split at created
  · cases created
  · next valid =>
      split at created
      · exact ⟨isLasting_of_validate enabled valid, _, (Except.ok.inj created).symm, rfl⟩
      · cases created

/-- What is set for a tool is not zero. -/
lemma IsLasting.toolTtl_pos (h : c.IsLasting) {tool : String} {ttl : ℕ}
    (there : c.toolTtl? tool = some ttl) : 0 < ttl := by
  obtain ⟨t, found, rfl⟩ := Option.map_eq_some_iff.mp there
  exact h.overrides t (List.mem_of_find?_eq_some found)

lemma IsLasting.ttlFor_pos (h : c.IsLasting) (tool : String) : 0 < c.ttlFor tool := by
  rw [ttlFor]
  cases there : c.toolTtl? tool with
  | none => exact h.default
  | some ttl => exact h.toolTtl_pos there

/-- Every tool's results are kept for some time. -/
lemma IsLasting.lifetimeOf_pos (h : c.IsLasting) (tool : Tool.Definition) :
    0 < c.lifetimeOf tool := by
  rw [lifetimeOf]
  split
  · exact h.ttlFor_pos tool.name
  · split_ifs with zero
    · exact h.default
    · exact Nat.pos_of_ne_zero zero

end CacheConfig

/-! ### Servers -/

namespace Server

variable {s : Server Backend} {w : Cache.Swept}

/-- **The server and the store together give a result the life that the configuration
says.** -/
lemma lifeOf_eq {c : CacheConfig} (lasting : c.IsLasting) (config : s.cacheConfig = c)
    (cache : s.cache = .memory w) (fresh : w.store = .new c.maxEntries c.defaultTtl)
    (tool : Tool.Definition) : s.lifeOf tool = c.lifetimeOf tool := by
  rw [← effectiveTtl_eq cache, ttlOf, fresh, config, Cache.Store.effectiveTtl,
    CacheConfig.lifetimeOf]
  cases own : tool.caching.ttl with
  | some ttl => rfl
  | none =>
      dsimp only
      rw [CacheConfig.ttlFor]
      cases there : c.toolTtl? tool.name with
      | some ttl => exact if_neg (lasting.toolTtl_pos there).ne'
      | none => rfl

/-- Whether a server keeps a value under a key from now on, for some time. -/
structure KeepsFor (s : Server Backend) (key : String) (value : Text.Bytes) (life : ℕ) :
    Prop where
  positive : 0 < life
  /-- It is found at once. -/
  found : ∃ e, (ResultCache.get s.cache s.now key).1 = .ok e ∧ e.value = value ∧
    e.createdAt = s.now ∧ e.expiresAt = s.now + life
  /-- It is found until its life is over. -/
  lasts : ∀ later, (∃ e, (ResultCache.get s.cache later key).1 = .ok e) ↔ later < s.now + life

/-- **A result that is kept is found at once**, and as long as its life is not over. -/
lemma keepsFor_keepResult (cache : s.cache = .memory w) {call : Call} {key : String} {ttl : ℕ}
    (keep : call.keep = some (key, ttl)) (positive : 0 < w.store.effectiveTtl ttl)
    (result : Json) :
    (s.keepResult call (.ok result)).KeepsFor key (Text.bytesOf result.text)
      (min (w.store.effectiveTtl ttl) Duration.farFuture) := by
  have kept : s.keepResult call (.ok result) = { s with cache := .memory { w with
      store := w.store.set s.now key (Text.bytesOf result.text) ttl } } := by
    rw [keepResult, keep, cache]
    rfl
  have there := w.store.find?_set_self s.now key (Text.bytesOf result.text) ttl
  have life : 0 < min (w.store.effectiveTtl ttl) Duration.farFuture :=
    lt_min positive (by decide)
  rw [kept]
  refine ⟨life, ⟨_, Cache.Store.get_ok_iff.mpr ⟨_, there, ?_, rfl⟩, rfl, rfl, rfl⟩, fun later => ?_⟩
  · exact Nat.lt_add_of_pos_right life
  · constructor
    · rintro ⟨e, found⟩
      obtain ⟨x, there', alive, -⟩ := Cache.Store.get_ok_iff.mp found
      obtain rfl := Option.some.inj (there'.symm.trans there)
      exact alive
    · exact fun alive => ⟨_, Cache.Store.get_ok_iff.mpr ⟨_, there, alive, rfl⟩⟩

/-- The same call is answered with a result that is kept for it, if the text of the result
can be read. -/
lemma KeepsFor.lookUp {tool : Tool.Definition} {args result : Json} {life : ℕ}
    (h : s.KeepsFor (Cache.keyOf tool.name args) (Text.bytesOf result.text) life)
    (read : Json.read (Text.bytesOf result.text) = .ok result) :
    (s.lookUp tool args).2 = some result := by
  obtain ⟨e, got, value, -⟩ := h.found
  simp only [Server.lookUp, got, Except.toOption, Option.bind_some, value, read]

end Server

/-- **Results are kept as long as the configuration says.** Let a server have an enabled
configuration and the store that was created for it, and let it take messages of any kind,
streams, steps of its calls, and whatever happens in the executor and to the clock, in any
order. At any time:

* a result of a tool that is kept is found at once, and until its life is over: the life
  that the configuration gives to the tool, but no more than thirty years;
* so it is with the answer that an invocation has given to a call, which is found by the
  same call from then on;
* the life of a tool that says nothing itself is what the configuration says for its
  name. -/
theorem results_live_as_configured (c : CacheConfig) (enabled : c.enabled = true)
    {store : Backend} (created : c.create = .ok store) (s : Server Backend)
    (cache : s.cache = store) (config : s.cacheConfig = c) (acts : List Traffic.Action) :
    let t := Traffic.run ⟨⟨s, []⟩, []⟩ acts
    (∀ (tool : Tool.Definition) (args result : Json) (call : Call),
        call.keep = some (Cache.keyOf tool.name args, t.server.ttlOf tool) →
        (t.server.keepResult call (.ok result)).KeepsFor (Cache.keyOf tool.name args)
          (Text.bytesOf result.text) (min (c.lifetimeOf tool) Duration.farFuture))
    ∧ (∀ (i : ℕ) (d : Conversation) (call : Call) (result : Json), t.calls[i]? = some d →
        d.tool.caching.cacheable = true → d.progress = .ended call (.ok result) →
        let after := (t.next (.advance i)).server
        after.now = t.server.now ∧
          after.KeepsFor d.key (Text.bytesOf result.text)
            (min (c.lifetimeOf d.tool) Duration.farFuture) ∧
          (after.lookUp d.tool d.args).2 = some result)
    ∧ ∀ tool, tool.caching.ttl = none → t.server.lifeOf tool = c.ttlFor tool.name := by
  intro t
  obtain ⟨lasting, w, rfl, fresh⟩ := CacheConfig.create_memory enabled created
  obtain ⟨regular, life, w', cache', -, -⟩ := Traffic.retained_run cache fresh acts
  have lives (tool : Tool.Definition) : t.server.lifeOf tool = c.lifetimeOf tool :=
    (life tool).trans (Server.lifeOf_eq lasting config cache fresh tool)
  have keeps (tool : Tool.Definition) (args result : Json) (call : Call)
      (keep : call.keep = some (Cache.keyOf tool.name args, t.server.ttlOf tool)) :
      (t.server.keepResult call (.ok result)).KeepsFor (Cache.keyOf tool.name args)
        (Text.bytesOf result.text) (min (c.lifetimeOf tool) Duration.farFuture) := by
    have effective : w'.store.effectiveTtl (t.server.ttlOf tool) = c.lifetimeOf tool :=
      (Server.effectiveTtl_eq cache' tool).trans (lives tool)
    rw [← effective]
    exact Server.keepsFor_keepResult cache' keep
      (effective ▸ lasting.lifetimeOf_pos tool) result
  refine ⟨keeps, ?_, fun tool own => ?_⟩
  · intro i d call result there cacheable ended after
    have keep := regular.settles d (List.mem_of_getElem? there) call (.inr ⟨_, ended⟩)
    rw [if_pos cacheable] at keep
    have after_eq : after = t.server.keepResult call (.ok result) := by
      simp only [after, Traffic.next, Traffic.act, there, Conversation.advance, ended]
      rfl
    have kept := keeps d.tool d.args result call keep
    have fits := (regular.sound.calls d (List.mem_of_getElem? there)).fits
    rw [ended] at fits
    obtain ⟨-, comes, -⟩ := fits
    have same : (t.server.keepResult call (.ok result)).now = t.server.now := by
      rw [Server.now, Server.keepResult, keep]
      rfl
    rw [after_eq]
    exact ⟨same, kept, Server.KeepsFor.lookUp kept comes.read_ok⟩
  · rw [lives, CacheConfig.lifetimeOf, own]

/-- Results are kept for one second, but for two seconds those of the constant tool. -/
def hastyConfig : CacheConfig :=
  { enabled := true, maxEntries := 1, defaultTtl := Duration.secs 1,
    toolTtls := [("constant", Duration.secs 2)] }

/-- The constant tool, which says that its results are kept for no time. -/
def hastyTool : Tool.Definition :=
  { constantTool with caching := { cacheable := true, ttl := some 0 } }

theorem results_live_as_configured_hasty :
    ∃ store, hastyConfig.create = .ok store ∧
      let s : Server Backend := { constantServer with cache := store, cacheConfig := hastyConfig }
      let life (tool : Tool.Definition) := min (hastyConfig.lifetimeOf tool) Duration.farFuture
      life constantTool = Duration.secs 2 ∧ life hastyTool = Duration.secs 1 ∧
        ∀ tool, (s.keepResult
            { run := 0, keep := some (Cache.keyOf tool.name (.object []), s.ttlOf tool) }
            (.ok constantResult)).KeepsFor
          (Cache.keyOf tool.name (.object [])) (Text.bytesOf constantResult.text) (life tool) := by
  refine ⟨_, rfl, rfl, rfl, fun tool => ?_⟩
  exact (results_live_as_configured hastyConfig rfl rfl
    { constantServer with cache := _, cacheConfig := hastyConfig } rfl rfl []).1 tool _ _ _ rfl

end ToolServer
