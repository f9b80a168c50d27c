/-
What goes through a server with a store in memory, as the store sees it:

* `StoreStep`: what an action does to the store, with what is noted of it;
* `Conversation.Turn.store`: what a step of a call does. A look-up is a hit exactly if an
  entry is found alive, since all entries can be read;
* `Step.store`: every action does one of these things.

Nothing is said about messages, invocations and answers here: only look-ups, results that
are stored, sweeps, and clearing the store.
-/
import ToolServer.Proofs.Server.Traffic

namespace ToolServer

open ToolServer.Cache (Backend)

/-! ### What is done to a store -/

/-- Whether what is noted has nothing to do with the store. -/
def Occurrence.IsSilent : Occurrence → Prop
  | .reached .. | .started _ | .streamed => True
  | .hit .. | .missed _ | .stored _ | .emptied => False

/-- What an action does to a store in memory, with what is noted of it and the time that
it is then. -/
inductive StoreStep (s : Server Backend) (store : Cache.Store) :
    List Occurrence → ℕ → Cache.Store → Prop
  /-- Nothing is done to it. -/
  | quiet {notes : List Occurrence} {now : ℕ} (le : s.now ≤ now)
      (silent : ∀ o ∈ notes, o.IsSilent) : StoreStep s store notes now store
  /-- A look-up finds a result. -/
  | found {i : ℕ} {tool : Tool.Definition} {key : String} {e : Cache.Entry}
      (found : (store.get s.now key).1 = .ok e) :
      StoreStep s store [.hit i key, .reached i tool] s.now (store.get s.now key).2
  /-- A look-up finds none. -/
  | missed {i : ℕ} {tool : Tool.Definition} {key : String} {err : CacheError}
      (failed : (store.get s.now key).1 = .error err) :
      StoreStep s store [.missed i, .reached i tool] s.now (store.get s.now key).2
  /-- A result is stored, for as long as its tool says. -/
  | stored {d : Deposit} (time : d.time = s.now) :
      StoreStep s store [.stored d] s.now
        (store.set s.now d.key (Text.bytesOf d.result.text) (s.ttlOf d.tool))
  /-- It is swept. -/
  | swept {now time : ℕ} (le : s.now ≤ now) (done : time ≤ now) :
      StoreStep s store [] now (store.cleanExpired time).2
  /-- It is emptied. -/
  | emptied : StoreStep s store [.emptied] s.now store.clear

namespace Cache.Store

lemma get_counters_of_ok {s : Store} {now : ℕ} {key : String} {e : Entry}
    (found : (s.get now key).1 = .ok e) :
    (s.get now key).2.counters = { s.counters with hits := s.counters.hits + 1 } := by
  rw [get] at found ⊢
  split at found
  · cases found
  · split_ifs at found ⊢
    rfl

lemma get_counters_of_error {s : Store} {now : ℕ} {key : String} {err : CacheError}
    (failed : (s.get now key).1 = .error err) :
    ∃ evictions, (s.get now key).2.counters
      = { s.counters with misses := s.counters.misses + 1, evictions } := by
  rw [get] at failed ⊢
  split at failed
  · exact ⟨_, rfl⟩
  · split_ifs at failed ⊢
    exact ⟨_, rfl⟩

lemma set_counters (s : Store) (now : ℕ) (key : String) (value : Text.Bytes) (ttl : ℕ) :
    ∃ evictions, (s.set now key value ttl).counters
      = { s.counters with sets := s.counters.sets + 1, evictions } := by
  rw [set]
  split_ifs <;> exact ⟨_, rfl⟩

end Cache.Store

/-- What a look-up in memory does. -/
lemma Server.lookUp_memory {s : Server Backend} {w : Cache.Swept} (cache : s.cache = .memory w)
    (tool : Tool.Definition) (args : Json) :
    s.lookUp tool args = ({ s with cache := .memory { w with
        store := (w.store.get s.now (Cache.keyOf tool.name args)).2 } },
      (w.store.get s.now (Cache.keyOf tool.name args)).1.toOption.bind fun e =>
        (Json.read e.value).toOption) := by
  rw [lookUp, cache]
  rfl

/-- What is found is read, since all entries are answers. -/
lemma Router.Sound.lookUp_some {t : Router} (h : t.Sound) {w : Cache.Swept}
    (cache : t.server.cache = .memory w) {tool : Tool.Definition} {args : Json} {e : Cache.Entry}
    (found : (w.store.get t.server.now (Cache.keyOf tool.name args)).1 = .ok e) :
    ∃ v, (t.server.lookUp tool args).2 = some v := by
  have got : (t.server.cache.get t.server.now (Cache.keyOf tool.name args)).1 = .ok e := by
    rw [cache]
    exact found
  obtain ⟨x, hx, ⟨-, same, -⟩, -⟩ := Cache.Backend.get_found got
  obtain ⟨d, hd, time, id, v, -, answered, -, value, -⟩ := h.entries x hx
  have fits := (h.calls d hd).fits
  rw [answered] at fits
  refine ⟨v, ?_⟩
  rw [Server.lookUp_memory cache, found]
  show (Json.read e.value).toOption = some v
  rw [same, value, fits.2.2.read_ok]
  rfl

/-- What a turn of a call does to the store. -/
lemma Conversation.Turn.store {t : Router} {i : ℕ} {c c' : Conversation} {s' : Server Backend}
    {notes : List Occurrence} (turn : c.Turn t.server i s' c' notes) (h : t.Sound)
    (settles : c.Settles t.server) (le : t.server.now ≤ s'.now) {w : Cache.Swept}
    (cache : t.server.cache = .memory w) :
    ∃ w', s'.cache = .memory w' ∧ StoreStep t.server w.store notes s'.now w'.store := by
  cases turn with
  | @found result asked cacheable there =>
      rw [Server.lookUp_memory cache] at there ⊢
      refine ⟨_, rfl, ?_⟩
      cases got : (w.store.get t.server.now (Cache.keyOf c.tool.name c.args)).1 with
      | ok e => exact .found got
      | error err =>
          rw [got] at there
          cases there
  | missed asked cacheable absent =>
      cases got : (w.store.get t.server.now (Cache.keyOf c.tool.name c.args)).1 with
      | ok e =>
          obtain ⟨v, looked⟩ := h.lookUp_some cache got
          rw [looked] at absent
          cases absent
      | error err =>
          rw [Server.lookUp_memory cache]
          exact ⟨_, rfl, .missed got⟩
  | launched asked plain => exact ⟨w, cache, .quiet le (by simp [Occurrence.IsSilent])⟩
  | worked missed => exact ⟨w, cache, .quiet le (by simp [Occurrence.IsSilent])⟩
  | followed underWay => exact ⟨w, cache, .quiet le (by simp)⟩
  | @stored call v ended cacheable =>
      have keep : call.keep = some (c.key, t.server.ttlOf c.tool) := by
        rw [settles call (.inr ⟨_, ended⟩), if_pos cacheable]
      rw [Server.keepResult, keep]
      refine ⟨_, congrArg (Cache.Backend.set · _ _ _ _) cache, ?_⟩
      exact .stored (d := ⟨c.tool, c.args, t.server.now, v⟩) rfl
  | @returned call result ended barren =>
      have same : t.server.keepResult call result = t.server := by
        rcases barren with plain | ⟨e, rfl⟩
        · have keep : call.keep = none := by
            rw [settles call (.inr ⟨_, ended⟩), plain, if_neg Bool.false_ne_true]
          cases result with
          | ok v => rw [Server.keepResult, keep]
          | error e => rfl
        · rfl
      rw [same]
      exact ⟨w, cache, .quiet le_rfl (by simp)⟩

namespace Traffic

variable {t t' : Traffic}

/-- **What an action does to the store.** -/
theorem Step.store (step : t.Step t') (h : t.Regular) {w : Cache.Swept}
    (cache : t.server.cache = .memory w) :
    ∃ w' notes, t'.server.cache = .memory w' ∧ t'.log = notes ++ t.log ∧
      StoreStep t.server w.store notes t'.server.now w'.store := by
  have le : t.server.now ≤ t'.server.now := step.later.server.now_le
  cases step with
  | idle => exact ⟨w, [], cache, rfl, .quiet le (by simp)⟩
  | asked wellFormed asked =>
      obtain ⟨tool, args, checked, rfl⟩ := Router.ask_added asked
      exact ⟨w, [], cache, rfl, .quiet le (by simp)⟩
  | streamed accepted =>
      obtain ⟨engine, rfl, -⟩ := Server.stream_ok accepted
      exact ⟨w, [.streamed], cache, rfl, .quiet le (by simp [Occurrence.IsSilent])⟩
  | @turned i c c' s' notes there change turn =>
      have hc := List.mem_of_getElem? there
      obtain ⟨w', cache', step⟩ := turn.store h.sound (h.settles c hc) le cache
      exact ⟨w', notes, cache', rfl, step⟩
  | left | executed => exact ⟨w, [], cache, rfl, .quiet le (by simp)⟩
  | @passed now later whole =>
      refine ⟨w.pass t.server.now now, [], ?_, rfl, ?_⟩
      · show t.server.cache.pass t.server.engine.now now = _
        rw [cache]
        rfl
      · rcases w.pass_store t.server.now now with same | ⟨deadline, due, swept⟩
        · rw [same]
          exact .quiet le (by simp)
        · rw [swept]
          exact .swept le (max_le le (Cache.timeAtTick_le due whole))
  | swept =>
      refine ⟨w.apply t.server.now .cleanExpired, [], ?_, rfl, .swept le le_rfl⟩
      show t.server.cache.sweep t.server.now = _
      rw [cache]
      rfl
  | emptied cleared =>
      rcases cleared with rfl | rfl
      · refine ⟨{ w with store := w.store.clear }, [.emptied], ?_, rfl, .emptied⟩
        show t.server.cache.clear = _
        rw [cache]
        rfl
      · refine ⟨w.close, [.emptied], ?_, rfl, .emptied⟩
        show t.server.cache.close = _
        rw [cache]
        rfl

end Traffic

end ToolServer
