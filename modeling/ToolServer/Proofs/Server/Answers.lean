/-
The answers to calls whose results are kept:

* `ComesTo`: what the events of an invocation come to;
* `Conversation.WorkedOnBy`: an invocation of a call's tool with its arguments;
* `Router.Stored`, `Router.Served`: an entry that holds the answer to a call, and
  an answer that was read from such an entry in time;
* `Conversation.Fits`, `Router.Sound`: the invariant. It ties every entry of the
  store to a call that was answered by an invocation of its own;
* `Conversation.Change.sound`, `sound_run`: no step of a call and no other action
  breaks it;
* `Router.Separate`, `Sound.same_call`: calls that have keys of their own.

Keys are compared as they are. Only in the last lemma they have to tell calls apart.
-/
import ToolServer.Proofs.Cache.Key
import ToolServer.Proofs.Json.ReadBack
import ToolServer.Proofs.Server.Continuity
import ToolServer.Proofs.Server.Router

namespace ToolServer

open ToolServer.Cache (Backend Entry)
open ToolServer.Execution (Engine)

/-! ### What an invocation comes to -/

/-- The piece of data in an event. -/
def Event.chunk? : Event → Option Json
  | .data chunk _ => some chunk
  | .start .. | .progress .. | .done .. | .error .. => none

/-- Whether none of some events is the last one of an invocation. -/
def Going (es : List Event) : Prop :=
  ∀ e ∈ es, e.isTerminal = false

/-- What the events of an invocation come to. -/
inductive ComesTo (es : List Event) : Except RpcError Json → Prop
  /-- It ends well, with a value of its own or with the pieces of data. -/
  | done {before : List Event} {duration count : ℕ} {summary : Option String}
      {value : Option Json} (events : es = before ++ [.done duration count summary value])
      (going : Going before) :
      ComesTo es (.ok
        (CallResult.ofValue (resultOf (before.filterMap Event.chunk?) value)).toJson.canonical)
  /-- It fails. -/
  | failed {before : List Event} {message : String} {retryable : Bool}
      (events : es = before ++ [.error message retryable]) (going : Going before) :
      ComesTo es (.error (.toolFailed message retryable))
  /-- Its events end too early. -/
  | cut (going : Going es) : ComesTo es (.error streamClosed)

/-- The canonical form of a tool's result. -/
lemma canonical_callResult (v : Json) :
    (CallResult.ofValue v).toJson.canonical = .object [("content",
      .array [.object [("text", .string v.text), ("type", .string "text")]])] := by
  have order : "text" < "type" := by decide
  have sorted : Json.sortMembers [("type", .string "text"), ("text", .string v.text)]
      = [("text", .string v.text), ("type", .string "text")] :=
    if_pos order
  rw [← sorted]
  rfl

/-- The value of a tool's result is read back from its text. -/
lemma read_callResult (v : Json) :
    Json.read (Text.bytesOf (CallResult.ofValue v).toJson.canonical.text)
      = .ok (CallResult.ofValue v).toJson.canonical := by
  have order : ¬ "type" < "text" := by decide
  have other : "type" ≠ "text" := by decide
  have sorted : Json.sortMembers [("text", .string v.text), ("type", .string "text")]
      = [("text", .string v.text), ("type", .string "text")] :=
    (if_neg order).trans (if_neg other)
  have again : (Json.object [("content",
      .array [.object [("text", .string v.text), ("type", .string "text")]])]).canonical
      = .object [("content",
        .array [.object [("text", .string v.text), ("type", .string "text")]])] := by
    conv_rhs => rw [← sorted]
    rfl
  rw [canonical_callResult, Json.read_text, again]
  · simp [Json.IsWhole, Json.AreWhole, Json.HaveWhole]
  · simp [Json.depth, Json.depthOfItems, Json.depthOfMembers, Json.maxNesting]

/-- **What ended well is read back from the text of its result.** -/
lemma ComesTo.read_ok {es : List Event} {v : Json} (h : ComesTo es (.ok v)) :
    Json.read (Text.bytesOf v.text) = .ok v := by
  cases h with
  | done => exact read_callResult _

/-- What a call does with an event that is not the last one. -/
lemma Call.read_going {c c' : Call} {e : Event} (h : c.read e = .inl c') :
    e.isTerminal = false ∧ c'.run = c.run ∧ c'.keep = c.keep ∧
      c'.chunks.reverse = c.chunks.reverse ++ e.chunk?.toList := by
  cases e with
  | data chunk sequence =>
      obtain rfl := Sum.inl.inj h
      exact ⟨rfl, rfl, rfl, List.reverse_cons⟩
  | start | progress =>
      obtain rfl := Sum.inl.inj h
      exact ⟨rfl, rfl, rfl, (List.append_nil _).symm⟩
  | done | error => cases h

/-- What a call does with the last event. -/
lemma Call.read_last {c : Call} {e : Event} {result : Except RpcError Json} {es : List Event}
    (h : c.read e = .inr result) (going : Going es)
    (chunks : c.chunks.reverse = es.filterMap Event.chunk?) : ComesTo (es ++ [e]) result := by
  cases e with
  | start | data | progress => cases h
  | done duration count summary value =>
      obtain rfl := Sum.inr.inj h
      rw [chunks]
      exact .done rfl going
  | error message retryable =>
      obtain rfl := Sum.inr.inj h
      exact .failed rfl going

/-! ### What is asked for -/

lemma Json.wellFormed_of_lookup {key : String} {members : List (String × Json)} {v : Json}
    (h : lookup key members = some v) (wellFormed : HaveWellFormed members) : v.WellFormed := by
  obtain ⟨m, found, rfl⟩ := Option.map_eq_some_iff.mp h
  exact haveWellFormed_iff.mp wellFormed m (List.mem_of_find?_eq_some found)

namespace Server

lemma argumentsOf_wellFormed {members : List (String × Json)} {args : Json}
    (h : argumentsOf members = .ok args) (wellFormed : Json.HaveWellFormed members) :
    args.WellFormed := by
  have none : (Json.object []).WellFormed := ⟨List.nodup_nil, trivial⟩
  rw [argumentsOf] at h
  split at h
  · exact Except.ok.inj h ▸ none
  · exact Except.ok.inj h ▸ none
  · next found => exact Except.ok.inj h ▸ Json.wellFormed_of_lookup found wellFormed
  · cases h

/-- What a request asks for is a known tool with well-formed arguments. -/
lemma target_ok {s : Server Backend} {params args : Json} {tool : Tool.Definition}
    (h : s.target params = .ok (tool, args)) (wellFormed : params.WellFormed) :
    s.tools.get? tool.name = some tool ∧ args.WellFormed := by
  cases params with
  | object members =>
      simp only [target] at h
      split at h
      · cases h
      · next name named =>
          cases arguments : argumentsOf members with
          | error e => simp [arguments, bind, Except.bind] at h
          | ok args' =>
              cases there : s.tools.get? name with
              | none => simp [arguments, there, bind, Except.bind] at h
              | some tool' =>
                  simp only [arguments, there, bind, Except.bind, pure, Except.pure,
                    Except.ok.injEq, Prod.mk.injEq] at h
                  obtain ⟨rfl, rfl⟩ := h
                  refine ⟨?_, argumentsOf_wellFormed arguments wellFormed.2⟩
                  have same : tool'.name = name := by simpa using List.find?_some there
                  rw [same, there]
  | null | bool | number | string | array => cases h

end Server

/-! ### The invariant -/

/-- Whether an invocation in an executor is one of a call's tool with its
arguments. -/
def Conversation.WorkedOnBy (c : Conversation) (e : Engine) (id : ℕ) : Prop :=
  ∃ r, e.runs[id]? = some r ∧ r.tool = c.tool.name ∧ r.args = c.args ∧
    r.body = c.tool.handler c.args

/-- How long the results of a tool are kept. -/
def Server.lifeOf (s : Server Backend) (tool : Tool.Definition) : ℕ :=
  s.cache.life (s.ttlOf tool)

namespace Router

/-- Whether an entry holds the answer that an invocation gave to a call. -/
def Stored (t : Router) (e : Entry) : Prop :=
  ∃ d ∈ t.calls, ∃ time id v, d.tool.caching.cacheable = true ∧
    d.progress = .answered time (.run id) (.ok v) ∧
    e.key = d.key ∧ e.value = Text.bytesOf v.text ∧
    e.expiresAt = Duration.deadlineAfter time (t.server.lifeOf d.tool)

/-- Whether the result that was answered to a call with some key is the one that an
invocation gave earlier, and not too long ago, to a call with the same key. -/
def Served (t : Router) (key : String) (time : ℕ) (result : Except RpcError Json) : Prop :=
  ∃ d ∈ t.calls, ∃ stored id v, result = .ok v ∧ d.tool.caching.cacheable = true ∧
    d.progress = .answered stored (.run id) (.ok v) ∧ d.key = key ∧
    stored ≤ time ∧ time < stored + min (t.server.lifeOf d.tool) Duration.farFuture

end Router

namespace Conversation

/-- Whether the result of a call is to be kept as it should: not at all, or under
the call's own key if the tool allows it. -/
def Keeps (s : Server Backend) (c : Conversation) (call : Call) : Prop :=
  ∀ k ∈ call.keep, c.tool.caching.cacheable = true ∧ k = (c.key, s.ttlOf c.tool)

/-- What has come of a call so far. -/
def Fits (t : Router) (c : Conversation) : Progress → Prop
  | .asked => c.events = []
  | .missed => c.events = [] ∧ c.tool.caching.cacheable = true
  | .underWay call =>
    c.WorkedOnBy t.server.engine call.run ∧ Going c.events ∧
      call.chunks.reverse = c.events.filterMap Event.chunk? ∧ c.Keeps t.server call
  | .ended call result =>
    c.WorkedOnBy t.server.engine call.run ∧ ComesTo c.events result ∧ c.Keeps t.server call
  | .answered time (.run id) result =>
    time ≤ t.server.now ∧ c.WorkedOnBy t.server.engine id ∧ ComesTo c.events result
  | .answered time .store result =>
    c.tool.caching.cacheable = true ∧ t.Served c.key time result
  | .abandoned => True

/-- A call of a known tool with well-formed arguments that stands as it should. -/
structure Sound (t : Router) (c : Conversation) : Prop where
  known : t.server.tools.get? c.tool.name = some c.tool
  wellFormed : c.args.WellFormed
  fits : c.Fits t c.progress

end Conversation

namespace Router

/-- A server all of whose calls stand as they should, and all of whose entries are
answers that invocations gave. -/
structure Sound (t : Router) : Prop where
  calls : ∀ c ∈ t.calls, c.Sound t
  entries : ∀ e ∈ t.server.cache.entries, t.Stored e

/-- Whether a server with calls is a later state of another. What has been answered
stays answered. -/
structure Later (t t' : Router) : Prop where
  server : t.server.Later t'.server
  answers : ∀ d ∈ t.calls, d.IsAnswered → d ∈ t'.calls

variable {t t' : Router}

lemma Later.lifeOf (h : t.Later t') (tool : Tool.Definition) :
    t'.server.lifeOf tool = t.server.lifeOf tool := by
  rw [Server.lifeOf, Server.lifeOf, h.server.ttlOf, h.server.life]

lemma Stored.later {e : Entry} (h : t.Stored e) (later : t.Later t') : t'.Stored e := by
  obtain ⟨d, hd, time, id, v, cacheable, answered, key, value, expires⟩ := h
  refine ⟨d, later.answers d hd ⟨_, _, _, answered⟩, time, id, v, cacheable, answered, key, value,
    ?_⟩
  rw [expires, later.lifeOf]

lemma Served.later {key : String} {time : ℕ} {result : Except RpcError Json}
    (h : t.Served key time result) (later : t.Later t') : t'.Served key time result := by
  obtain ⟨d, hd, stored, id, v, rfl, cacheable, answered, same, le, lt⟩ := h
  refine ⟨d, later.answers d hd ⟨_, _, _, answered⟩, stored, id, v, rfl, cacheable, answered, same,
    le, ?_⟩
  rwa [later.lifeOf]

/-- What is kept of an entry makes it as good as the entry. -/
lemma Stored.of_sameContent {e e' : Entry} (h : t.Stored e) (same : e.SameContent e') :
    t.Stored e' := by
  obtain ⟨d, hd, time, id, v, cacheable, answered, key, value, expires⟩ := h
  obtain ⟨key', value', expires'⟩ := same
  exact ⟨d, hd, time, id, v, cacheable, answered, key'.trans key, value'.trans value,
    expires'.trans expires⟩

end Router

namespace Conversation

variable {t t' : Router} {c : Conversation}

lemma WorkedOnBy.later {e e' : Engine} {id : ℕ} (h : c.WorkedOnBy e id) (later : e.Extends e') :
    c.WorkedOnBy e' id := by
  obtain ⟨r, hr, tool, args, body⟩ := h
  obtain ⟨r', hr', tool', args', body'⟩ := later.runs id r hr
  exact ⟨r', hr', tool'.trans tool, args'.trans args, body'.trans body⟩

lemma Keeps.later {s s' : Server Backend} {call : Call} (h : c.Keeps s call) (later : s.Later s') :
    c.Keeps s' call :=
  fun k hk => ⟨(h k hk).1, by rw [later.ttlOf, (h k hk).2]⟩

/-- What has come of a call stays as it is while other things happen. -/
lemma Fits.later {p : Progress} (h : c.Fits t p) (later : t.Later t') : c.Fits t' p := by
  cases p with
  | asked | missed | abandoned => exact h
  | underWay call =>
      obtain ⟨work, going, chunks, keep⟩ := h
      exact ⟨work.later later.server.engine, going, chunks, keep.later later.server⟩
  | ended call result =>
      obtain ⟨work, outcome, keep⟩ := h
      exact ⟨work.later later.server.engine, outcome, keep.later later.server⟩
  | answered time source result =>
      cases source with
      | store => exact ⟨h.1, h.2.later later⟩
      | run id =>
          obtain ⟨le, work, outcome⟩ := h
          exact ⟨le.trans later.server.now_le, work.later later.server.engine, outcome⟩

lemma Sound.later (h : c.Sound t) (later : t.Later t') : c.Sound t' :=
  ⟨by rw [later.server.tools, h.known], h.wellFormed, h.fits.later later⟩

/-! ### Steps of a call -/

variable {s s' : Server Backend} {c' : Conversation}

/-- The server after a step of a call is a later state of it. -/
lemma Change.server_later (change : Change s c s' c') : s.Later s' := by
  cases change with
  | found | missed => exact Server.later_lookUp ..
  | launched => exact Server.later_invoke ..
  | read => exact .of_engine (Engine.extends_take ..)
  | finished => exact .of_engine ((Engine.extends_take ..).trans (Engine.extends_drop ..))
  | closed | dropped => exact .of_engine (Engine.extends_drop ..)
  | kept => exact Server.later_keepResult ..
  | given => exact .refl s

lemma mem_set_of_ne {α : Type} {as : List α} {i : ℕ} {a x : α} (there : as[i]? = some a)
    (hx : x ∈ as) (ne : x ≠ a) (b : α) : x ∈ as.set i b := by
  obtain ⟨j, hj⟩ := List.mem_iff_getElem?.mp hx
  have other : i ≠ j := by
    rintro rfl
    exact ne (Option.some.inj (hj.symm.trans there))
  exact List.mem_iff_getElem?.mpr ⟨j, (List.getElem?_set_ne other).trans hj⟩

/-- A step of a call leaves all answers as they are. -/
lemma Change.later {i : ℕ} (there : t.calls[i]? = some c) (change : Change t.server c s' c') :
    t.Later ⟨s', t.calls.set i c'⟩ := by
  refine ⟨change.server_later, fun d hd answered => mem_set_of_ne there hd ?_ c'⟩
  rintro rfl
  exact change.waiting answered

/-- A result that is found is one that an invocation gave to a call with the same
key, not too long ago. -/
lemma served_of_found (h : t.Sound) {result : Json}
    (found : (t.server.lookUp c.tool c.args).2 = some result) :
    t.Served c.key t.server.now (.ok result) := by
  obtain ⟨e, there, key, alive, read⟩ := Server.lookUp_found found
  obtain ⟨d, hd, time, id, v, cacheable, answered, key', value, expires⟩ := h.entries e there
  have fits := (h.calls d hd).fits
  rw [answered] at fits
  obtain ⟨le, -, outcome⟩ := fits
  obtain rfl : v = result := by
    rw [value, outcome.read_ok] at read
    exact Except.ok.inj read
  refine ⟨d, hd, time, id, v, rfl, cacheable, answered, key'.symm.trans key, le, ?_⟩
  rwa [expires] at alive

/-- The invocation that is started for a call is one of its tool. -/
lemma workedOnBy_invoke (s : Server Backend) (c : Conversation) (keep : Option (String × ℕ)) :
    c.WorkedOnBy (s.invoke c.tool c.args c.caller keep).1.engine
      (s.invoke c.tool c.args c.caller keep).2.run :=
  ⟨_, List.getElem?_concat_length, rfl, rfl, rfl⟩

/-- A call whose invocation has just been started stands as it should. -/
lemma Change.fits_launched {keep : Option (String × ℕ)}
    (idle : c.progress = .asked ∧ keep = none ∨
      c.progress = .missed ∧ keep = some (c.key, t.server.ttlOf c.tool))
    (fits : c.Fits t c.progress) :
    c.Fits ⟨(t.server.invoke c.tool c.args c.caller keep).1, t.calls⟩
      (.underWay (t.server.invoke c.tool c.args c.caller keep).2) := by
  have start : c.events = [] ∧ c.Keeps t.server ⟨0, [], keep⟩ := by
    rcases idle with ⟨asked, rfl⟩ | ⟨missed, rfl⟩
    · rw [asked] at fits
      exact ⟨fits, fun k hk => nomatch hk⟩
    · rw [missed] at fits
      exact ⟨fits.1, fun k hk => ⟨fits.2, (Option.some.inj hk).symm⟩⟩
  obtain ⟨none, keeps⟩ := start
  refine ⟨workedOnBy_invoke t.server c _, ?_, ?_, keeps⟩
  · exact fun e he => absurd (none ▸ he) List.not_mem_nil
  · show [] = c.events.filterMap Event.chunk?
    rw [none]
    rfl

/-- So does a call that has read a piece. -/
lemma Fits.read {call call' : Call} {e : Event} (fits : c.Fits t (.underWay call))
    (next : call.read e = .inl call') :
    Fits t { c with events := c.events ++ [e] } (.underWay call') := by
  obtain ⟨work, going, chunks, keep⟩ := fits
  obtain ⟨last, run, keep', chunks'⟩ := Call.read_going next
  refine ⟨run.symm ▸ work, ?_, ?_, fun k hk => keep k (keep' ▸ hk)⟩
  · intro e' he'
    rcases List.mem_append.mp he' with he' | he'
    · exact going e' he'
    · rw [List.mem_singleton.mp he', last]
  · show call'.chunks.reverse = (c.events ++ [e]).filterMap Event.chunk?
    rw [chunks', chunks, List.filterMap_append]
    cases h : e.chunk? <;> simp [h]

/-- **A call stands as it should after each of its steps.** -/
lemma Change.fits {calls' : List Conversation} (h : t.Sound) (hc : c.Sound t)
    (change : Change t.server c s' c') (later : t.Later ⟨s', calls'⟩) :
    c'.Fits ⟨s', calls'⟩ c'.progress := by
  have fits := hc.fits.later later
  cases change with
  | found asked cacheable there => exact ⟨cacheable, (served_of_found h there).later later⟩
  | missed asked cacheable absent =>
      rw [asked] at fits
      exact ⟨fits, cacheable⟩
  | launched idle => exact Change.fits_launched (c := c) idle hc.fits
  | read underWay taken next =>
      rw [underWay] at fits
      exact Fits.read fits next
  | finished underWay taken last =>
      rw [underWay] at fits
      obtain ⟨work, going, chunks, keep⟩ := fits
      exact ⟨work, Call.read_last last going chunks, keep⟩
  | closed underWay taken =>
      rw [underWay] at fits
      obtain ⟨work, going, -, keep⟩ := fits
      exact ⟨work, .cut going, keep⟩
  | kept ended =>
      rw [ended] at fits
      obtain ⟨work, outcome, -⟩ := fits
      exact ⟨later.server.now_le, work, outcome⟩
  | given | dropped => trivial

/-- What a step of a call puts into the store: nothing, or the answer to the call. -/
lemma Change.entries (change : Change s c s' c') :
    ∀ e' ∈ s'.cache.entries, (∃ e ∈ s.cache.entries, e.SameContent e') ∨
      ∃ call v key ttl, c.progress = .ended call (.ok v) ∧ call.keep = some (key, ttl) ∧
        c'.progress = .answered s.now (.run call.run) (.ok v) ∧
        e' = .new key (Text.bytesOf v.text) s.now (s.cache.life ttl) := by
  intro e' there
  cases change with
  | found | missed => exact .inl (Cache.Backend.get_entries _ _ _ e' there)
  | launched | read | finished | closed | given | dropped => exact .inl ⟨e', there, .refl e'⟩
  | @kept call result ended =>
      rcases s.keepResult_entries call result e' there with there | ⟨v, key, ttl, rfl, keep, new⟩
      · exact .inl ⟨e', there, .refl e'⟩
      · exact .inr ⟨call, v, key, ttl, ended, keep, rfl, new⟩

/-- **No step of a call breaks the invariant.** -/
lemma Change.sound {i : ℕ} (h : t.Sound) (there : t.calls[i]? = some c)
    (change : Change t.server c s' c') : Router.Sound ⟨s', t.calls.set i c'⟩ := by
  have later := change.later there
  have hc := h.calls c (List.mem_of_getElem? there)
  obtain ⟨tool, args⟩ := change.same_call
  refine ⟨?_, ?_⟩
  · intro d hd
    rcases List.mem_or_eq_of_mem_set hd with hd | rfl
    · exact (h.calls d hd).later later
    · refine ⟨?_, args ▸ hc.wellFormed, change.fits h hc later⟩
      rw [tool, later.server.tools, hc.known]
  · intro e' he'
    rcases change.entries e' he' with ⟨e, he, same⟩ | ⟨call, v, key, ttl, ended, keep, answered, rfl⟩
    · exact ((h.entries e he).of_sameContent same).later later
    · have fits := hc.fits
      rw [ended] at fits
      obtain ⟨-, -, kept⟩ := fits
      obtain ⟨cacheable, pair⟩ := kept _ keep
      obtain ⟨rfl, rfl⟩ := Prod.mk.inj pair
      have hi : i < t.calls.length := (List.getElem?_eq_some_iff.mp there).1
      refine ⟨c', List.mem_set hi c', _, _, v, tool ▸ cacheable, answered, ?_, rfl, ?_⟩
      · show c.key = c'.key
        rw [Conversation.key, Conversation.key, tool, args]
      · rw [tool, later.lifeOf]
        rfl

end Conversation

/-! ### Everything else -/

namespace Router

/-- A server with its calls after something else than a step of a call is as sound
as before. -/
lemma Sound.of_server {t : Router} {s' : Server Backend} (h : t.Sound)
    (later : t.server.Later s') (entries : ∀ e ∈ s'.cache.entries, e ∈ t.server.cache.entries) :
    Router.Sound ⟨s', t.calls⟩ := by
  have later : t.Later ⟨s', t.calls⟩ := ⟨later, fun d hd _ => hd⟩
  exact ⟨fun d hd => (h.calls d hd).later later,
    fun e he => (h.entries e (entries e he)).later later⟩

/-- No action takes an answer back. -/
lemma act_later {t t' : Router} {a : Action} (act : t.act a = some t') : t.Later t' := by
  have step : ∀ {i f}, (∀ s c s' c', f s c = some (s', c') → c.Change s s' c') →
      t.step i f = some t' → t.Later t' := by
    intro i f change step
    rw [Router.step] at step
    split at step
    · cases step
    · next c there =>
        obtain ⟨⟨s', c'⟩, next, rfl⟩ := Option.map_eq_some_iff.mp step
        exact (change _ _ _ _ next).later there
  cases a with
  | ask params wellFormed caller =>
      simp only [Router.act, Router.ask] at act
      split at act
      · cases act
      · obtain rfl := Option.some.inj act
        exact ⟨t.server.later_checkCredentials .., fun d hd _ => List.mem_append_left _ hd⟩
  | advance i => exact step (fun _ _ _ _ => Conversation.advance_change) act
  | abandon i => exact step (fun _ _ _ _ => Conversation.abandon_change) act
  | execute a =>
      obtain ⟨engine, done, rfl⟩ := Option.map_eq_some_iff.mp act
      exact ⟨.of_engine (.of_act done), fun d hd _ => hd⟩
  | pass now =>
      simp only [Router.act] at act
      split_ifs at act with le
      obtain rfl := Option.some.inj act
      exact ⟨Server.later_setClock le, fun d hd _ => hd⟩
  | close =>
      obtain rfl := Option.some.inj act
      exact ⟨⟨rfl, rfl, Cache.Backend.close_life _, .refl _⟩, fun d hd _ => hd⟩

/-- What is answered stays answered. -/
lemma run_later (t : Router) (acts : List Action) : t.Later (t.run acts) :=
  run_induct (P := fun t' => t.Later t')
    (fun _ _ _ later act => ⟨later.server.trans (act_later act).server,
      fun d hd answered => (act_later act).answers d (later.answers d hd answered) answered⟩)
    acts ⟨.refl _, fun _ hd _ => hd⟩

lemma step_sound {t t' : Router} {i : ℕ}
    {f : Server Backend → Conversation → Option (Server Backend × Conversation)}
    (change : ∀ s c s' c', f s c = some (s', c') → c.Change s s' c') (h : t.Sound)
    (step : t.step i f = some t') : t'.Sound := by
  rw [Router.step] at step
  split at step
  · cases step
  · next c there =>
      obtain ⟨⟨s', c'⟩, next, rfl⟩ := Option.map_eq_some_iff.mp step
      exact (change _ _ _ _ next).sound h there

lemma ask_sound {t t' : Router} {params : Json} (wellFormed : params.WellFormed)
    {caller : Execution.Token} (h : t.Sound) (ask : t.ask params caller = some t') : t'.Sound := by
  have later := act_later (a := .ask params wellFormed caller) ask
  rw [Router.ask] at ask
  split at ask
  · cases ask
  · next tool args target =>
      obtain rfl := Option.some.inj ask
      obtain ⟨known, arguments⟩ := Server.target_ok target wellFormed
      refine ⟨?_, ?_⟩
      · intro d hd
        rcases List.mem_append.mp hd with hd | hd
        · exact (h.calls d hd).later later
        · rw [List.mem_singleton.mp hd]
          exact ⟨later.server.tools.symm ▸ known, arguments, rfl⟩
      · intro e he
        have same : (t.server.checkCredentials tool.name
            ((params.get? "_meta").bind (Json.get? "credentials"))).cache = t.server.cache := by
          rw [Server.checkCredentials]
          split <;> rfl
        exact (h.entries e (same ▸ he)).later later

/-- **No action breaks the invariant.** -/
lemma act_sound {t t' : Router} {a : Action} (h : t.Sound) (act : t.act a = some t') :
    t'.Sound := by
  cases a with
  | ask params wellFormed caller => exact ask_sound wellFormed h act
  | advance i => exact step_sound (fun _ _ _ _ => Conversation.advance_change) h act
  | abandon i => exact step_sound (fun _ _ _ _ => Conversation.abandon_change) h act
  | execute a =>
      obtain ⟨engine, done, rfl⟩ := Option.map_eq_some_iff.mp act
      exact h.of_server (.of_engine (.of_act done)) fun e he => he
  | pass now =>
      simp only [Router.act] at act
      split_ifs at act with le
      obtain rfl := Option.some.inj act
      exact h.of_server (Server.later_setClock le) (Cache.Backend.pass_entries _ _ _)
  | close =>
      obtain rfl := Option.some.inj act
      refine h.of_server ⟨rfl, rfl, Cache.Backend.close_life _, .refl _⟩ ?_
      intro e he
      change e ∈ t.server.cache.close.entries at he
      rw [Cache.Backend.close_entries] at he
      cases he

/-- **At any time the invariant holds.** -/
theorem sound_run {s : Server Backend} (empty : s.cache.entries = []) (acts : List Action) :
    (run ⟨s, []⟩ acts).Sound := by
  refine run_induct (fun t a t' => act_sound) acts ⟨fun c hc => absurd hc List.not_mem_nil, ?_⟩
  intro e he
  change e ∈ s.cache.entries at he
  rw [empty] at he
  cases he

/-- Whether no two calls whose results may be kept have different bytes with one
digest. -/
def Separate (t : Router) : Prop :=
  ∀ c ∈ t.calls, ∀ d ∈ t.calls,
    c.tool.caching.cacheable = true → d.tool.caching.cacheable = true →
    Sha256.digest (Cache.keyMaterial c.tool.name c.args)
        = Sha256.digest (Cache.keyMaterial d.tool.name d.args) →
      Cache.keyMaterial c.tool.name c.args = Cache.keyMaterial d.tool.name d.args

/-- Calls with one key are of one tool and have the same arguments. -/
lemma Sound.same_call {t : Router} (h : t.Sound) (separate : t.Separate) {c d : Conversation}
    (hc : c ∈ t.calls) (hd : d ∈ t.calls) (hc' : c.tool.caching.cacheable = true)
    (hd' : d.tool.caching.cacheable = true) (key : d.key = c.key) :
    d.tool = c.tool ∧ d.args.Same c.args := by
  have known := (h.calls d hd).known
  have material := separate d hd c hc hd' hc' (Sha256.digest_eq_of_hex_eq key)
  obtain ⟨name, canonical⟩ := Cache.keyMaterial_injective material
  rw [name, (h.calls c hc).known] at known
  exact ⟨(Option.some.inj known).symm,
    (Json.same_iff (h.calls d hd).wellFormed (h.calls c hc).wellFormed).mpr canonical⟩

end Router

/-- A tool that always gives the same value, which may be kept. -/
def constantTool : Tool.Definition where
  name := "constant"
  description := ""
  parameters := []
  streaming := false
  caching := { cacheable := true }
  handler _ := .done (.ok .null)

/-- A server with that tool and an empty store. -/
def constantServer : Server Backend where
  tools := ⟨[constantTool]⟩
  engine := .new {}
  cache := .memory { store := .new 1 (Duration.secs 1), interval := 0 }

/-- The result of the tool. -/
def constantResult : Json := (CallResult.ofValue .null).toJson.canonical

/-- A call of the tool. -/
def askConstant : Router.Action :=
  .ask (.object [("name", .string "constant")]) ⟨by decide, trivial, trivial⟩ (.named "")

/-- The first call, whose result has been kept. -/
def constantKept (events : List Event) : Conversation :=
  { Conversation.new constantTool (.object []) (.named "") with
    events, progress := .answered 0 (.run 0) (.ok constantResult) }

end ToolServer
