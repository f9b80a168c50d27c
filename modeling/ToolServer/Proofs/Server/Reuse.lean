/-
How long a result that has been stored is used again:

* `touched`: the keys that have been stored or found, the latest first;
* `LastStored`: a result is the last one that has been stored under its key, and nothing
  has been emptied since;
* `Traffic.Retained`, `StoreStep.retained`: the invariant. Of every such result there is
  left what is left after that many other keys;
* `Retained.get_ok`, `lookUp_hit`: it is found as long as its time is not over and as
  fewer other keys have been touched than there is room for;
* `stored_results_are_used_again`: requests for the same call are answered with it, and
  nothing is invoked.
-/
import ToolServer.Proofs.Cache.Survival
import ToolServer.Proofs.Server.Storage

namespace ToolServer

open ToolServer.Cache (Backend since)
open ToolServer.Execution (Token)

/-! ### What has been stored last -/

/-- The key that is stored or found. -/
def Occurrence.touched? : Occurrence → Option String
  | .hit _ key => some key
  | .stored d => some d.key
  | .reached .. | .missed _ | .started _ | .streamed | .emptied => none

/-- The keys that have been stored or found, the latest first. -/
def touched (log : List Occurrence) : List String :=
  log.filterMap Occurrence.touched?

/-- Whether a result is the last one that has been stored under its key, and the store has
not been emptied since. -/
inductive LastStored (d : Deposit) : List Occurrence → Prop
  /-- It has just been stored. -/
  | now (log : List Occurrence) : LastStored d (.stored d :: log)
  /-- Something else has happened since. -/
  | since {o : Occurrence} {log : List Occurrence} (kept : o ≠ .emptied)
      (other : ∀ d', o = .stored d' → d'.key ≠ d.key) (before : LastStored d log) :
      LastStored d (o :: log)

namespace LastStored

variable {d : Deposit} {log notes : List Occurrence}

/-- It has been stored. -/
lemma mem (h : LastStored d log) : .stored d ∈ log := by
  induction h with
  | now => exact List.mem_cons_self
  | since _ _ _ ih => exact List.mem_cons_of_mem _ ih

/-- What is noted of other things does not count. -/
lemma of_silent (h : LastStored d (notes ++ log)) (other : ∀ d', .stored d' ∉ notes) :
    LastStored d log := by
  induction notes with
  | nil => exact h
  | cons o notes ih =>
      cases h with
      | now => exact absurd List.mem_cons_self (other d)
      | since _ _ before => exact ih before fun d' hd' => other d' (List.mem_cons_of_mem _ hd')

end LastStored

/-! ### What is left of it -/

/-- Whether of everything that has been stored last there is left what should be, if the
results of the tools live as long as `life` says. -/
structure Retained (life : Tool.Definition → ℕ) (log : List Occurrence) (now : ℕ)
    (store : Cache.Store) : Prop where
  positive : 0 < store.capacity
  recent : store.Recent (touched log)
  retains : ∀ d, LastStored d log → store.Retains (touched log) now d.key
    (Text.bytesOf d.result.text) (Duration.deadlineAfter d.time (life d.tool))

lemma touched_of_silent {notes : List Occurrence} (silent : ∀ o ∈ notes, o.IsSilent)
    (log : List Occurrence) : touched (notes ++ log) = touched log := by
  have none : notes.filterMap Occurrence.touched? = [] := by
    refine List.filterMap_eq_nil_iff.mpr fun o ho => ?_
    have quiet := silent o ho
    cases o with
    | reached | started | streamed => rfl
    | hit | missed | stored | emptied => exact quiet.elim
  rw [touched, List.filterMap_append, none]
  rfl

/-- **Nothing that is done to the store breaks this.** -/
lemma StoreStep.retained {life : Tool.Definition → ℕ} {s : Server Backend}
    {store store' : Cache.Store} {log notes : List Occurrence} {now : ℕ}
    (step : StoreStep s store notes now store') (h : Retained life log s.now store)
    (lives : ∀ tool, store.effectiveTtl (s.ttlOf tool) = life tool) :
    Retained life (notes ++ log) now store' := by
  obtain ⟨positive, recent, retains⟩ := h
  cases step with
  | quiet le silent =>
      have same := touched_of_silent silent log
      refine ⟨positive, same ▸ recent, fun d last => ?_⟩
      rw [same]
      refine (retains d (last.of_silent fun d' hd' => silent _ hd')).of_entries le rfl ?_ ?_
      · exact fun e he _ => .inl he
      · exact fun e he _ => he
  | @found i tool key e found =>
      have touched' : store.touched? s.now (.get key) = some key := by
        simp only [Cache.Store.touched?, found]
      have first := recent.get s.now key
      rw [touched'] at first
      refine ⟨by rwa [Cache.Store.get_capacity], first, fun d last => ?_⟩
      have before := last.of_silent (by simp)
      have left := (retains d before).get recent key
      rwa [touched'] at left
  | @missed i tool key err failed =>
      have untouched : store.touched? s.now (.get key) = none := by
        simp only [Cache.Store.touched?, failed]
      have first := recent.get s.now key
      rw [untouched] at first
      refine ⟨by rwa [Cache.Store.get_capacity], first, fun d last => ?_⟩
      have before := last.of_silent (by simp)
      have left := (retains d before).get recent key
      rwa [untouched] at left
  | @stored d time =>
      refine ⟨by rwa [Cache.Store.set_capacity], recent.set positive .., fun d' last => ?_⟩
      cases last with
      | now =>
          have holds := store.holds_set s.now d.key (Text.bytesOf d.result.text) (s.ttlOf d.tool)
          rw [lives, ← time] at holds
          exact .there (time ▸ holds)
      | since kept other before => exact (retains d' before).set_other recent (other d rfl) ..
  | swept le done =>
      exact ⟨positive, recent.sublist rfl List.filter_sublist,
        fun d last => (retains d last).cleanExpired le done⟩
  | emptied =>
      refine ⟨positive, recent.sublist rfl (List.nil_sublist _), fun d last => ?_⟩
      cases last with
      | since kept => exact absurd rfl kept

/-- The bound of the size of the store stays the same. -/
lemma StoreStep.capacity_eq {s : Server Backend} {store store' : Cache.Store}
    {notes : List Occurrence} {now : ℕ} (step : StoreStep s store notes now store') :
    store'.capacity = store.capacity := by
  cases step with
  | quiet | swept | emptied => rfl
  | found | missed => exact Cache.Store.get_capacity ..
  | stored => exact Cache.Store.set_capacity ..

/-- In memory the results of a tool live as long as the store says. -/
lemma Server.effectiveTtl_eq {s : Server Backend} {w : Cache.Swept} (cache : s.cache = .memory w)
    (tool : Tool.Definition) : w.store.effectiveTtl (s.ttlOf tool) = s.lifeOf tool := by
  rw [lifeOf, cache, Backend.life]

namespace Traffic

/-- **At any time there is left what should be.** -/
theorem retained_run {s : Server Backend} {w : Cache.Swept} {maxEntries defaultTtl : ℕ}
    (cache : s.cache = .memory w) (fresh : w.store = .new maxEntries defaultTtl)
    (acts : List Action) :
    let t := run ⟨⟨s, []⟩, []⟩ acts
    t.Regular ∧ (∀ tool, t.server.lifeOf tool = s.lifeOf tool) ∧
      ∃ w, t.server.cache = .memory w ∧ w.store.capacity = max maxEntries 1 ∧
        Retained s.lifeOf t.log t.server.now w.store := by
  have empty : s.cache.entries = [] := by rw [cache, Backend.entries, fresh]; rfl
  have positive : 0 < max maxEntries 1 := Nat.lt_of_lt_of_le Nat.zero_lt_one (le_max_right _ _)
  refine run_induct (P := fun t => t.Regular ∧ (∀ tool, t.server.lifeOf tool = s.lifeOf tool) ∧
    ∃ w, t.server.cache = .memory w ∧ w.store.capacity = max maxEntries 1 ∧
      Retained s.lifeOf t.log t.server.now w.store) ?_ acts
    ⟨regular_start empty, fun _ => rfl, w, cache, by rw [fresh]; rfl, ?_⟩
  · rintro t a t' ⟨regular, life, w, cache, capacity, retained⟩ act
    have step := step_of_act act
    obtain ⟨w', notes, cache', log, stored⟩ := step.store regular cache
    have lives : ∀ tool, w.store.effectiveTtl (t.server.ttlOf tool) = s.lifeOf tool := fun tool =>
      (Server.effectiveTtl_eq cache tool).trans (life tool)
    refine ⟨regular.step step, fun tool => (step.later.lifeOf tool).trans (life tool), w', cache',
      stored.capacity_eq.trans capacity, ?_⟩
    rw [log]
    exact stored.retained retained lives
  · rw [fresh]
    refine ⟨positive, ⟨⟨fun k hk => absurd hk List.not_mem_nil, .nil⟩, Nat.zero_le _⟩, ?_⟩
    exact fun d last => absurd last.mem List.not_mem_nil

end Traffic

/-! ### Using it again -/

/-- What has been stored last is found, if its time is not over and fewer other keys have
been touched since than there is room for. -/
lemma Retained.get_ok {life : Tool.Definition → ℕ} {log : List Occurrence} {now : ℕ}
    {store : Cache.Store} (h : Retained life log now store) {d : Deposit} (last : LastStored d log)
    (alive : now < d.time + min (life d.tool) Duration.farFuture)
    (few : (since (touched log) d.key).length < store.capacity) :
    ∃ e, (store.get now d.key).1 = .ok e ∧ e.value = Text.bytesOf d.result.text := by
  obtain ⟨e, found, value, ends⟩ := ((h.retains d last).holds alive few).find? h.recent
  rcases store.get_cases now d.key with ⟨absent, -⟩ | ⟨x, there, past, -⟩ | ⟨x, there, -, got, -⟩
  · rw [found] at absent
    cases absent
  · obtain rfl := Option.some.inj (found.symm.trans there)
    have over' := of_decide_eq_true past
    rw [ends] at over'
    exact absurd alive (not_lt.mpr over')
  · obtain rfl := Option.some.inj (found.symm.trans there)
    exact ⟨_, got, value⟩

namespace Server

variable {s : Server Backend} {w : Cache.Swept} {tool : Tool.Definition} {args v : Json}
  {e : Cache.Entry}

/-- Whether a server has found one more result than another, and is the same in what it has
invoked. -/
structure HasFound (s s' : Server Backend) : Prop where
  engine : s'.engine = s.engine
  hits : s'.cache.stats.counters.hits = s.cache.stats.counters.hits + 1

/-- A look-up that finds a result counts a hit. -/
lemma lookUp_hit (cache : s.cache = .memory w)
    (found : (w.store.get s.now (Cache.keyOf tool.name args)).1 = .ok e)
    (read : Json.read e.value = .ok v) :
    (s.lookUp tool args).2 = some v ∧ s.HasFound (s.lookUp tool args).1 := by
  rw [lookUp_memory cache, found]
  refine ⟨?_, rfl, ?_⟩
  · show (Json.read e.value).toOption = some v
    rw [read]
    rfl
  · show (w.store.get s.now _).2.counters.hits = _
    rw [Cache.Store.get_counters_of_ok found, cache]
    rfl

/-- What a request asks for by its parameters. -/
lemma target_eq {members : List (String × Json)}
    (named : Json.lookup "name" members = some (.string tool.name))
    (arguments : argumentsOf members = .ok args) (known : s.tools.get? tool.name = some tool) :
    s.target (.object members) = .ok (tool, args) := by
  simp only [target, named, Option.bind_some, Json.string?, arguments, known, bind, Except.bind]
  rfl

/-- A request whose result is found is answered with it. -/
lemma handle_found {r : Request} {members : List (String × Json)} (caller : Token)
    (version : r.version = messageVersion) (method : r.method = "tools/call")
    (params : r.params = some (.object members))
    (target : s.target (.object members) = .ok (tool, args))
    (cacheable : tool.caching.cacheable = true) (cache : s.cache = .memory w)
    (found : (w.store.get s.now (Cache.keyOf tool.name args)).1 = .ok e)
    (read : Json.read e.value = .ok v) :
    (s.handle r caller).2 = .ready (respond r.id (.ok v)) ∧ s.HasFound (s.handle r caller).1 := by
  obtain ⟨checked, same⟩ := s.checkCredentials_eq tool.name
    (((Json.object members).get? "_meta").bind (Json.get? "credentials"))
  obtain ⟨looked, hit⟩ := lookUp_hit (s := { s with checked }) cache found read
  have called : s.callTool (.object members) caller
      = (({ s with checked } : Server Backend).lookUp tool args |>.1, .ready (.ok v)) := by
    rw [callTool, target]
    simp only [same, cacheable, if_true, invokeCached]
    split
    · next s' result h =>
        rw [h] at looked
        obtain rfl := Option.some.inj looked
        rw [h]
    · next s' h =>
        rw [h] at looked
        cases looked
  have answered : s.answer r.method (r.params.getD .null) caller
      = s.callTool (.object members) caller := by
    rw [answer, method, params]
    simp
  rw [handle, if_neg (not_not.mpr version), answered, called]
  exact ⟨rfl, hit.engine, hit.hits⟩

end Server

/-- What has been stored is read back as it was. -/
lemma Traffic.Regular.read_ok {t : Traffic} (h : t.Regular) {d : Deposit}
    (stored : .stored d ∈ t.log) :
    Json.read (Text.bytesOf d.result.text) = .ok d.result ∧ d.args.WellFormed ∧
      d.tool.caching.cacheable = true ∧ t.server.tools.get? d.tool.name = some d.tool := by
  obtain ⟨cacheable, c, hc, id, tool, args, answered⟩ := (h.deposits d).mp stored
  obtain ⟨known, wellFormed, fits⟩ := h.sound.calls c hc
  rw [answered] at fits
  exact ⟨fits.2.2.read_ok, args ▸ wellFormed, cacheable, tool ▸ known⟩

/-- **A result that has been stored is used again.** Let a server with a new store take
messages of any kind, streams, steps of its calls, and whatever happens in the executor and
to the clock, in any order. What has been stored are the results that invocations gave to calls of
tools whose results may be kept. As long as

* nothing else has been stored under the key of such a result, and the store has not been
  cleared or given up since;
* less time has passed than the life of the tool's results, and less than thirty years;
* fewer other keys have been stored or found than there is room for since the key has
  been stored or found last,

every call of the tool with arguments that are the same up to the order of object members
is answered with this result. It counts one hit, and the executor stays as it is. So it is
with requests that are handled at one go, and with calls that have waited for the check of
their credentials. -/
theorem stored_results_are_used_again (s : Server Backend) {w : Cache.Swept}
    {maxEntries defaultTtl : ℕ} (cache : s.cache = .memory w)
    (fresh : w.store = .new maxEntries defaultTtl) (acts : List Traffic.Action) :
    let t := Traffic.run ⟨⟨s, []⟩, []⟩ acts
    (∀ d, .stored d ∈ t.log ↔ t.Deposited d) ∧
    ∀ d, LastStored d t.log →
      t.server.now < d.time + min (s.lifeOf d.tool) Duration.farFuture →
      (since (touched t.log) d.key).length < max maxEntries 1 →
      (∀ (r : Request) (caller : Token) (members : List (String × Json)) (args : Json),
        r.version = messageVersion → r.method = "tools/call" → r.params = some (.object members) →
        Json.lookup "name" members = some (.string d.tool.name) →
        Server.argumentsOf members = .ok args → args.Same d.args →
        (t.server.handle r caller).2 = .ready (respond r.id (.ok d.result)) ∧
          t.server.HasFound (t.server.handle r caller).1)
      ∧ ∀ i c, t.calls[i]? = some c → c.progress = .asked → c.tool.name = d.tool.name →
          c.args.Same d.args →
          (t.next (.advance i)).calls[i]?
              = some { c with progress := .answered t.server.now .store (.ok d.result) } ∧
            t.server.HasFound (t.next (.advance i)).server := by
  intro t
  obtain ⟨regular, life, w, cache, capacity, retained⟩ := Traffic.retained_run cache fresh acts
  refine ⟨regular.deposits, fun d last alive few => ?_⟩
  obtain ⟨read, wellFormed, cacheable, known⟩ := regular.read_ok last.mem
  obtain ⟨e, found, value⟩ := retained.get_ok last alive (capacity ▸ few)
  rw [← value] at read
  have key : ∀ {args : Json}, args.Same d.args → Cache.keyOf d.tool.name args = d.key := by
    intro args same
    rw [Deposit.key, Cache.keyOf, Cache.keyOf, Cache.keyMaterial, Cache.keyMaterial,
      same.canonical_eq wellFormed]
  refine ⟨?_, ?_⟩
  · intro r caller members args version method params named arguments same
    exact Server.handle_found caller version method params
      (Server.target_eq named arguments known) cacheable cache (by rw [key same]; exact found) read
  · intro i c there asked name same
    have tool : c.tool = d.tool := by
      have known' := (regular.sound.calls c (List.mem_of_getElem? there)).known
      rw [name] at known'
      exact Option.some.inj (known'.symm.trans known)
    have found : (w.store.get t.server.now (Cache.keyOf c.tool.name c.args)).1 = .ok e := by
      rw [tool, key same]
      exact found
    obtain ⟨looked, hit⟩ := Server.lookUp_hit cache found read
    have advanced : c.advance t.server = some ((t.server.lookUp c.tool c.args).1,
        { c with progress := .answered t.server.now .store (.ok d.result) }) := by
      simp only [Conversation.advance, asked, tool, cacheable, if_true]
      rw [Conversation.lookUp_of_found looked, tool]
    have hi : i < t.calls.length := (List.getElem?_eq_some_iff.mp there).1
    simp only [Traffic.next, Traffic.act, there, advanced]
    exact ⟨List.getElem?_set_self hi, hit⟩

/-- The result of the constant tool, as it has been stored. -/
def constantDeposit : Deposit :=
  ⟨constantTool, .object [], 0, constantResult⟩

theorem stored_results_are_used_again_constant :
    LastStored constantDeposit constantTraffic.log ∧
      constantTraffic.server.now
        < constantDeposit.time + min (constantServer.lifeOf constantTool) Duration.farFuture ∧
      (since (touched constantTraffic.log) constantDeposit.key).length < max 1 1 ∧
      (constantTraffic.server.handle (constantRequest "3") (.named "")).2
        = .ready (respond (some (.string "3")) (.ok constantResult)) := by
  obtain ⟨before, log⟩ : ∃ before, constantTraffic.log = .stored constantDeposit :: before :=
    ⟨_, rfl⟩
  have last : LastStored constantDeposit constantTraffic.log := log ▸ .now before
  have alive : constantTraffic.server.now
      < constantDeposit.time + min (constantServer.lifeOf constantTool) Duration.farFuture := by
    decide
  have few : (since (touched constantTraffic.log) constantDeposit.key).length < max 1 1 := by
    rw [log]
    show (since (constantDeposit.key :: touched before) _).length < _
    rw [Cache.since_touch_self]
    decide
  have same : (Json.object []).Same constantDeposit.args := .object .nil .nil
  exact ⟨last, alive, few,
    (((stored_results_are_used_again constantServer rfl rfl constantActions).2 constantDeposit last
      alive few).1 (constantRequest "3") (.named "") _ (.object []) rfl rfl rfl rfl rfl same).1⟩

end ToolServer
