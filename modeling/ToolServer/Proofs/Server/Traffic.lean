/-
Everything that goes through a server, with a note of what has happened:

* `Deposit`, `Occurrence`: a result that has been stored, and what is noted;
* `Conversation.notes`, `Conversation.Turn`: what is noted of a step of a call, and
  what the step is; `turn_of_advance`: every step is such a turn;
* `Traffic`, `Traffic.act`, `Traffic.run`: a server with its calls and its notes, and
  what comes of messages of any kind, streams, steps of calls, the executor, time,
  and of clearing the store;
* `Traffic.Step`, `step_of_act`: everything that one action does;
* `Traffic.Regular`, `regular_run`: the calls are sound, and a result is kept exactly
  if the tool allows it;
* `receive_reached`, `pursue_reached`: what the server does at one go is a list of these
  actions.

A call may be given up while it waits: for the check of its credentials, or for an
event. It does not wait between a look-up and the start of its invocation, nor between
the last event and the keeping of the result.
-/
import ToolServer.Proofs.Execution.Counts
import ToolServer.Proofs.Server.Answers

namespace ToolServer

open ToolServer.Cache (Backend)
open ToolServer.Execution (Engine Token foldl_getD_induct)

/-! ### Notes -/

/-- A result that has been stored for a call. -/
structure Deposit where
  tool : Tool.Definition
  args : Json
  time : ℕ
  result : Json

/-- The key under which it has been stored. -/
def Deposit.key (d : Deposit) : String :=
  Cache.keyOf d.tool.name d.args

/-- Something that has happened; calls are told by their numbers. -/
inductive Occurrence
  /-- A call has come to its tool. -/
  | reached (i : ℕ) (tool : Tool.Definition)
  /-- A look-up has found a result. -/
  | hit (i : ℕ) (key : String)
  /-- A look-up has found none. -/
  | missed (i : ℕ)
  /-- An invocation has been started. -/
  | started (i : ℕ)
  /-- A result has been stored. -/
  | stored (d : Deposit)
  /-- A stream has been accepted. -/
  | streamed
  /-- Everything has been taken out of the store. -/
  | emptied

namespace Conversation

/-- What there is to note of the step of a call from one state to the next. -/
def notes (s : Server Backend) (i : ℕ) (c c' : Conversation) : List Occurrence :=
  match c.progress, c'.progress with
  | .asked, .answered .. => [.hit i c.key, .reached i c.tool]
  | .asked, .missed => [.missed i, .reached i c.tool]
  | .asked, _ => [.started i, .reached i c.tool]
  | .missed, _ => [.started i]
  | .ended _ (.ok v), _ =>
    if c.tool.caching.cacheable then [.stored ⟨c.tool, c.args, s.now, v⟩] else []
  | _, _ => []

/-- Whether a call waits for something: for the check of its credentials, or for an
event. -/
def IsWaiting (c : Conversation) : Prop :=
  c.progress = .asked ∨ ∃ call, c.progress = .underWay call

instance (c : Conversation) : Decidable c.IsWaiting :=
  match h : c.progress with
  | .asked => .isTrue (.inl h)
  | .underWay call => .isTrue (.inr ⟨call, h⟩)
  | .missed | .ended .. | .answered .. | .abandoned => .isFalse (by simp [IsWaiting, h])

/-! ### Steps of a call -/

/-- A step of a call, with what is noted of it. -/
inductive Turn (s : Server Backend) (i : ℕ) (c : Conversation) :
    Server Backend → Conversation → List Occurrence → Prop
  /-- The result is in the store. -/
  | found {result : Json} (asked : c.progress = .asked)
      (cacheable : c.tool.caching.cacheable = true)
      (there : (s.lookUp c.tool c.args).2 = some result) :
      Turn s i c (s.lookUp c.tool c.args).1
        { c with progress := .answered s.now .store (.ok result) }
        [.hit i c.key, .reached i c.tool]
  /-- The result is not in the store. -/
  | missed (asked : c.progress = .asked) (cacheable : c.tool.caching.cacheable = true)
      (absent : (s.lookUp c.tool c.args).2 = none) :
      Turn s i c (s.lookUp c.tool c.args).1 { c with progress := .missed }
        [.missed i, .reached i c.tool]
  /-- An invocation is started whose result is not to be kept. -/
  | launched (asked : c.progress = .asked) (plain : c.tool.caching.cacheable = false) :
      Turn s i c (s.invoke c.tool c.args c.caller none).1
        { c with progress := .underWay (s.invoke c.tool c.args c.caller none).2 }
        [.started i, .reached i c.tool]
  /-- An invocation is started whose result is to be kept. -/
  | worked (missed : c.progress = .missed) :
      Turn s i c (s.invoke c.tool c.args c.caller (some (c.key, s.ttlOf c.tool))).1
        { c with
            progress :=
              .underWay (s.invoke c.tool c.args c.caller (some (c.key, s.ttlOf c.tool))).2 }
        [.started i]
  /-- An event is read, or there are no more. -/
  | followed {call call' : Call} {engine : Engine} {events : List Event} {progress : Progress}
      (underWay : c.progress = .underWay call) (keep : call'.keep = call.keep)
      (goes : progress = .underWay call' ∨ ∃ result, progress = .ended call' result)
      (counters : engine.counters = s.engine.counters) :
      Turn s i c { s with engine } { c with events, progress } []
  /-- A result is stored and the answer given. -/
  | stored {call : Call} {v : Json} (ended : c.progress = .ended call (.ok v))
      (cacheable : c.tool.caching.cacheable = true) :
      Turn s i c (s.keepResult call (.ok v))
        { c with progress := .answered s.now (.run call.run) (.ok v) }
        [.stored ⟨c.tool, c.args, s.now, v⟩]
  /-- The answer is given, and there is nothing to store. -/
  | returned {call : Call} {result : Except RpcError Json} (ended : c.progress = .ended call result)
      (barren : c.tool.caching.cacheable = false ∨ ∃ e, result = .error e) :
      Turn s i c (s.keepResult call result)
        { c with progress := .answered s.now (.run call.run) result } []

end Conversation

namespace Execution.Engine

@[simp] lemma take_counters (e : Engine) (id : ℕ) : (e.take id).2.counters = e.counters := by
  rw [take]
  split
  · rfl
  · split <;> rfl

@[simp] lemma drop_counters (e : Engine) (id : ℕ) : (e.drop id).counters = e.counters := by
  rw [drop]
  split <;> rfl

end Execution.Engine

namespace Conversation

variable {s s' : Server Backend} {c c' : Conversation} {i : ℕ}

lemma lookUp_turn (asked : c.progress = .asked) (cacheable : c.tool.caching.cacheable = true) :
    Turn s i c (c.lookUp s).1 (c.lookUp s).2 (c.notes s i (c.lookUp s).2) := by
  cases looked : (s.lookUp c.tool c.args).2 with
  | some result =>
      rw [lookUp_of_found looked]
      have turn : Turn s i c _ _ _ := .found asked cacheable looked
      simpa only [notes, asked] using turn
  | none =>
      have missed : c.lookUp s = ((s.lookUp c.tool c.args).1, { c with progress := .missed }) := by
        rw [lookUp]
        split
        · next s' result h => simp [h] at looked
        · next s' h => rw [h]
      rw [missed]
      have turn : Turn s i c _ _ _ := .missed asked cacheable looked
      simpa only [notes, asked] using turn

lemma poll_turn {call : Call} (underWay : c.progress = .underWay call)
    (h : c.poll s call = some (s', c')) : Turn s i c s' c' [] := by
  rw [poll] at h
  split at h
  · cases h
  · next engine taken =>
      cases h
      exact .followed underWay rfl (.inr ⟨_, rfl⟩) (Engine.drop_counters ..)
  · next e engine taken =>
      have counters : engine.counters = s.engine.counters := by
        rw [show engine = (s.engine.take call.run).2 by rw [taken], Engine.take_counters]
      cases next : call.read e with
      | inl call' =>
          simp only [next, Option.some.injEq, Prod.mk.injEq] at h
          obtain ⟨rfl, rfl⟩ := h
          exact .followed underWay (Call.read_going next).2.2.1 (.inl rfl) counters
      | inr result =>
          simp only [next, Option.some.injEq, Prod.mk.injEq] at h
          obtain ⟨rfl, rfl⟩ := h
          exact .followed underWay rfl (.inr ⟨result, rfl⟩)
            ((Engine.drop_counters ..).trans counters)

/-- **Every step of a call is such a turn.** -/
lemma turn_of_advance (h : c.advance s = some (s', c')) : Turn s i c s' c' (c.notes s i c') := by
  cases progress : c.progress with
  | asked =>
      simp only [advance, progress, Option.some.injEq] at h
      cases cacheable : c.tool.caching.cacheable with
      | true =>
          have turn := lookUp_turn (s := s) (i := i) progress cacheable
          rw [cacheable, if_pos rfl] at h
          rwa [h] at turn
      | false =>
          rw [cacheable, if_neg Bool.false_ne_true] at h
          simp only [launch, Prod.mk.injEq] at h
          obtain ⟨rfl, rfl⟩ := h
          simpa only [notes, progress] using Turn.launched progress cacheable
  | missed =>
      simp only [advance, progress, launch, Option.some.injEq, Prod.mk.injEq] at h
      obtain ⟨rfl, rfl⟩ := h
      simpa only [notes, progress] using Turn.worked progress
  | underWay call =>
      have turn := poll_turn (i := i) progress (by simpa only [advance, progress] using h)
      simpa only [notes, progress] using turn
  | ended call result =>
      simp only [advance, progress, Option.some.injEq, Prod.mk.injEq] at h
      obtain ⟨rfl, rfl⟩ := h
      cases result with
      | error e => simpa only [notes, progress] using Turn.returned progress (.inr ⟨e, rfl⟩)
      | ok v =>
          cases cacheable : c.tool.caching.cacheable with
          | true =>
              simpa only [notes, progress, cacheable, if_true] using Turn.stored progress cacheable
          | false =>
              simpa only [notes, progress, cacheable, Bool.false_eq_true, if_false] using
                Turn.returned progress (.inl cacheable)
  | answered time source result => simp [advance, progress] at h
  | abandoned => simp [advance, progress] at h

end Conversation

/-! ### Everything that goes through a server -/

/-- Takes everything out that is past its time, as the sweeper does. -/
def Cache.Backend.sweep (b : Backend) (now : ℕ) : Backend :=
  match b with
  | .disabled misses => .disabled misses
  | .memory w => .memory (w.apply now .cleanExpired)

/-- Something that happens to a server. -/
inductive Traffic.Action
  /-- A message comes. -/
  | message (data : Text.Bytes) (caller : Token)
  /-- A request comes that has been read elsewhere. -/
  | request (r : Request) (wellFormed : (r.params.getD .null).WellFormed) (caller : Token)
  /-- A stream is asked for. -/
  | stream (tool : String) (args : Json) (requestId : String) (caller : Token)
  /-- A call takes its next step. -/
  | advance (i : ℕ)
  /-- A call that waits is given up. -/
  | abandon (i : ℕ)
  /-- Something happens in the executor. -/
  | execute (a : Execution.Action)
  /-- The clock runs on in whole milliseconds, and the store is swept if that is due. -/
  | pass (now : ℕ)
  /-- The store is swept. -/
  | sweep
  /-- The store is cleared. -/
  | clear
  /-- The store is given up. -/
  | close

/-- A server with its calls, and what has happened to it, the latest first. -/
structure Traffic where
  router : Router
  log : List Occurrence := []

namespace Traffic

/-- The server. -/
abbrev server (t : Traffic) : Server Backend :=
  t.router.server

/-- The calls. -/
abbrev calls (t : Traffic) : List Conversation :=
  t.router.calls

/-- Another store in place of the server's. -/
def setCache (t : Traffic) (cache : Backend) (notes : List Occurrence) : Traffic :=
  ⟨⟨{ t.server with cache }, t.calls⟩, notes ++ t.log⟩

/-- What comes of a request. One for a call begins it, if it asks for a tool. -/
def request (t : Traffic) (r : Request) (caller : Token) : Traffic :=
  if r.version = messageVersion ∧ r.method = "tools/call" then
    ⟨(t.router.ask (r.params.getD .null) caller).getD t.router, t.log⟩
  else ⟨⟨(t.server.handle r caller).1, t.calls⟩, t.log⟩

/-- What comes of an action, if it can happen. -/
def act (t : Traffic) : Action → Option Traffic
  | .message data caller =>
    match readRequest data with
    | .error _ => some ⟨⟨(t.server.receive data caller).1, t.calls⟩, t.log⟩
    | .ok r => some (t.request r caller)
  | .request r _ caller => some (t.request r caller)
  | .stream tool args requestId caller =>
    match t.server.stream tool args requestId caller with
    | .error _ => none
    | .ok (_, s) => some ⟨⟨s, t.calls⟩, .streamed :: t.log⟩
  | .advance i =>
    match t.calls[i]? with
    | none => none
    | some c =>
      (c.advance t.server).map fun next =>
        ⟨⟨next.1, t.calls.set i next.2⟩, c.notes t.server i next.2 ++ t.log⟩
  | .abandon i =>
    match t.calls[i]? with
    | none => none
    | some c =>
      if c.IsWaiting then
        (c.abandon t.server).map fun next => ⟨⟨next.1, t.calls.set i next.2⟩, t.log⟩
      else none
  | .execute a =>
    if a.isSubmission then none
    else (t.server.engine.act a).map fun engine =>
      ⟨⟨{ t.server with engine }, t.calls⟩, t.log⟩
  | .pass now =>
    if t.server.now ≤ now ∧ now % Execution.tickLength = t.server.now % Execution.tickLength then
      some ⟨⟨t.server.setClock now, t.calls⟩, t.log⟩
    else none
  | .sweep => some (t.setCache (t.server.cache.sweep t.server.now) [])
  | .clear => some (t.setCache t.server.cache.clear [.emptied])
  | .close => some (t.setCache t.server.cache.close [.emptied])

/-- What comes of an action; one that cannot happen changes nothing. -/
def next (t : Traffic) (a : Action) : Traffic :=
  (t.act a).getD t

/-- What comes of a list of actions. -/
def run (t : Traffic) (acts : List Action) : Traffic :=
  acts.foldl next t

/-- What is kept by every action is kept by all. -/
lemma run_induct {P : Traffic → Prop} (step : ∀ t a t', P t → t.act a = some t' → P t')
    (acts : List Action) {t : Traffic} (start : P t) : P (t.run acts) :=
  foldl_getD_induct step acts start

/-! ### What an action does -/

/-- Everything that one action does. -/
inductive Step (t : Traffic) : Traffic → Prop
  /-- Nothing changes. -/
  | idle : Step t t
  /-- A call is asked for. -/
  | asked {params : Json} {caller : Token} {router : Router} (wellFormed : params.WellFormed)
      (asked : t.router.ask params caller = some router) : Step t ⟨router, t.log⟩
  /-- A stream is accepted. -/
  | streamed {tool requestId : String} {args : Json} {caller : Token} {id : ℕ}
      {s : Server Backend} (accepted : t.server.stream tool args requestId caller = .ok (id, s)) :
      Step t ⟨⟨s, t.calls⟩, .streamed :: t.log⟩
  /-- A call takes its next step. -/
  | turned {i : ℕ} {c c' : Conversation} {s : Server Backend} {notes : List Occurrence}
      (there : t.calls[i]? = some c) (change : c.Change t.server s c')
      (turn : c.Turn t.server i s c' notes) : Step t ⟨⟨s, t.calls.set i c'⟩, notes ++ t.log⟩
  /-- A call that waits is given up. -/
  | left {i : ℕ} {c : Conversation} {engine : Engine} (there : t.calls[i]? = some c)
      (waiting : c.IsWaiting)
      (change : c.Change t.server { t.server with engine } { c with progress := .abandoned })
      (counters : engine.counters = t.server.engine.counters) :
      Step t ⟨⟨{ t.server with engine }, t.calls.set i { c with progress := .abandoned }⟩, t.log⟩
  /-- Something happens in the executor, but for a new invocation. -/
  | executed {engine : Engine} (later : t.server.engine.Extends engine)
      (total : engine.counters.total = t.server.engine.counters.total) :
      Step t ⟨⟨{ t.server with engine }, t.calls⟩, t.log⟩
  /-- The clock runs on. -/
  | passed {now : ℕ} (le : t.server.now ≤ now)
      (whole : now % Execution.tickLength = t.server.now % Execution.tickLength) :
      Step t ⟨⟨t.server.setClock now, t.calls⟩, t.log⟩
  /-- The store is swept. -/
  | swept : Step t (t.setCache (t.server.cache.sweep t.server.now) [])
  /-- The store is emptied. -/
  | emptied {cache : Backend}
      (cleared : cache = t.server.cache.clear ∨ cache = t.server.cache.close) :
      Step t (t.setCache cache [.emptied])

variable {t t' : Traffic}

lemma step_of_request {r : Request} (wellFormed : (r.params.getD .null).WellFormed)
    (caller : Token) : t.Step (t.request r caller) := by
  rw [request]
  split_ifs with call
  · cases asked : t.router.ask (r.params.getD .null) caller with
    | none => exact .idle
    | some router => exact .asked wellFormed asked
  · rw [Router.handle_other _ _ _ (not_and_or.mp call)]
    exact .idle

lemma step_of_abandon {i : ℕ} (act : t.act (.abandon i) = some t') : t.Step t' := by
  simp only [Traffic.act] at act
  split at act
  · cases act
  · next c there =>
      split_ifs at act with waiting
      obtain ⟨⟨s', c'⟩, gone, rfl⟩ := Option.map_eq_some_iff.mp act
      have change := Conversation.abandon_change gone
      rcases waiting with asked | ⟨call, underWay⟩
      · simp only [Conversation.abandon, asked, Option.some.injEq, Prod.mk.injEq] at gone
        obtain ⟨rfl, rfl⟩ := gone
        exact .left there (.inl asked) change rfl
      · simp only [Conversation.abandon, underWay, Option.some.injEq, Prod.mk.injEq] at gone
        obtain ⟨rfl, rfl⟩ := gone
        exact .left there (.inr ⟨call, underWay⟩) change (Engine.drop_counters ..)

/-- **Every action that can happen is a step.** -/
theorem step_of_act {a : Action} (act : t.act a = some t') : t.Step t' := by
  cases a with
  | message data caller =>
      simp only [Traffic.act] at act
      split at act
      · next response unread =>
          obtain rfl := Option.some.inj act
          rw [Server.receive, unread]
          exact .idle
      · next r read =>
          obtain rfl := Option.some.inj act
          exact step_of_request (wellFormed_of_readRequest read) caller
  | request r wellFormed caller =>
      obtain rfl := Option.some.inj act
      exact step_of_request wellFormed caller
  | stream tool args requestId caller =>
      simp only [Traffic.act] at act
      split at act
      · cases act
      · next id s accepted =>
          obtain rfl := Option.some.inj act
          exact .streamed accepted
  | advance i =>
      simp only [Traffic.act] at act
      split at act
      · cases act
      · next c there =>
          obtain ⟨⟨s', c'⟩, moved, rfl⟩ := Option.map_eq_some_iff.mp act
          exact .turned there (Conversation.advance_change moved)
            (Conversation.turn_of_advance moved)
  | abandon i => exact step_of_abandon act
  | execute a =>
      simp only [Traffic.act] at act
      split_ifs at act with submission
      obtain ⟨engine, done, rfl⟩ := Option.map_eq_some_iff.mp act
      have total := (Engine.act_step done).total
      rw [if_neg submission] at total
      exact .executed (.of_act done) total
  | pass now =>
      simp only [Traffic.act] at act
      split_ifs at act with possible
      obtain rfl := Option.some.inj act
      exact .passed possible.1 possible.2
  | sweep =>
      obtain rfl := Option.some.inj act
      exact .swept
  | clear =>
      obtain rfl := Option.some.inj act
      exact .emptied (.inl rfl)
  | close =>
      obtain rfl := Option.some.inj act
      exact .emptied (.inr rfl)

end Traffic

/-! ### What stays as it is -/

namespace Cache.Backend

/-- A sweep puts nothing in. -/
lemma sweep_entries (b : Backend) (now : ℕ) : ∀ e ∈ (b.sweep now).entries, e ∈ b.entries := by
  intro e there
  cases b with
  | disabled misses => exact there
  | memory w => exact (List.mem_filter.mp there).1

lemma sweep_life (b : Backend) (now ttl : ℕ) : (b.sweep now).life ttl = b.life ttl := by
  cases b <;> rfl

lemma clear_entries (b : Backend) : b.clear.entries = [] := by
  cases b <;> rfl

lemma clear_life (b : Backend) (ttl : ℕ) : b.clear.life ttl = b.life ttl := by
  cases b <;> rfl

end Cache.Backend

/-- A stream that is accepted is one more submission. -/
lemma Server.stream_ok {s s' : Server Backend} {tool requestId : String} {args : Json}
    {caller : Token} {id : ℕ} (h : s.stream tool args requestId caller = .ok (id, s')) :
    ∃ engine, s' = { s with engine } ∧ s.engine.Extends engine ∧
      engine.counters.total = s.engine.counters.total + 1 := by
  rw [stream] at h
  split at h
  · cases h
  · next known =>
      split_ifs at h
      cases h
      have branched : s.engine.Extends (s.engine.childOf caller).2 :=
        .of_act (a := .branch caller) rfl
      exact ⟨_, rfl, branched.trans (.of_act (a := .submit _ _ _ _ _) rfl), rfl⟩

/-- Whether the result of a call's invocation is to be kept exactly if its tool allows it. -/
def Conversation.Settles (s : Server Backend) (c : Conversation) : Prop :=
  ∀ call, (c.progress = .underWay call ∨ ∃ result, c.progress = .ended call result) →
    call.keep = if c.tool.caching.cacheable then some (c.key, s.ttlOf c.tool) else none

/-- Whether a result is the answer that an invocation gave to a call of a tool whose results
may be kept. -/
def Traffic.Deposited (t : Traffic) (d : Deposit) : Prop :=
  d.tool.caching.cacheable = true ∧ ∃ c ∈ t.calls, ∃ id, c.tool = d.tool ∧ c.args = d.args ∧
    c.progress = .answered d.time (.run id) (.ok d.result)

/-- Whether the calls are sound, their results are kept as they should, and what has been
stored are the answers to them. -/
structure Traffic.Regular (t : Traffic) : Prop where
  sound : t.router.Sound
  settles : ∀ c ∈ t.calls, c.Settles t.server
  deposits : ∀ d, .stored d ∈ t.log ↔ t.Deposited d

namespace Conversation

variable {s s' : Server Backend} {c c' : Conversation} {i : ℕ} {notes : List Occurrence}

lemma Settles.later (h : c.Settles s) (later : s.Later s') : c.Settles s' := by
  intro call at'
  rw [h call at', later.ttlOf]

/-- A call without an invocation keeps nothing. -/
lemma settles_of_idle (underWay : ∀ call, c.progress ≠ .underWay call)
    (unended : ∀ call result, c.progress ≠ .ended call result) : c.Settles s := by
  rintro call (going | ⟨result, ended⟩)
  · exact absurd going (underWay call)
  · exact absurd ended (unended call result)

/-- A call settles after each of its steps. -/
lemma Turn.settles (turn : c.Turn s i s' c' notes) (h : c.Settles s)
    (looked : c.progress = .missed → c.tool.caching.cacheable = true) : c'.Settles s := by
  cases turn with
  | found | missed | stored | returned => exact settles_of_idle (by simp) (by simp)
  | launched asked plain =>
      rintro call (going | ⟨result, ended⟩)
      · obtain rfl := Progress.underWay.inj going
        rw [if_neg (by rw [plain]; exact Bool.false_ne_true)]
        rfl
      · cases ended
  | worked missed =>
      rintro call (going | ⟨result, ended⟩)
      · obtain rfl := Progress.underWay.inj going
        rw [if_pos (looked missed)]
        rfl
      · cases ended
  | @followed before after engine events progress underWay keep goes =>
      have kept := h before (.inl underWay)
      rintro call (going | ⟨result, ended⟩)
      · obtain rfl : after = call := by
          rcases goes with rfl | ⟨result, rfl⟩
          · exact Progress.underWay.inj going
          · cases going
        exact keep.trans kept
      · obtain rfl : after = call := by
          rcases goes with rfl | ⟨result, rfl⟩
          · cases ended
          · exact (Progress.ended.inj ended).1
        exact keep.trans kept

end Conversation

namespace Traffic

variable {t t' : Traffic}

/-- No action takes an answer back. -/
lemma Step.later (step : t.Step t') : t.router.Later t'.router := by
  have of_cache : ∀ {cache : Backend}, (∀ ttl, cache.life ttl = t.server.cache.life ttl) →
      t.router.Later ⟨{ t.server with cache }, t.calls⟩ := fun life =>
    ⟨⟨rfl, rfl, life, .refl _⟩, fun _ hd _ => hd⟩
  cases step with
  | idle => exact ⟨.refl _, fun _ hd _ => hd⟩
  | asked wellFormed asked => exact Router.act_later (a := .ask _ wellFormed _) asked
  | streamed accepted =>
      obtain ⟨engine, rfl, extends', -⟩ := Server.stream_ok accepted
      exact ⟨.of_engine extends', fun _ hd _ => hd⟩
  | turned there change turn => exact change.later there
  | left there waiting change => exact change.later there
  | executed later => exact ⟨.of_engine later, fun _ hd _ => hd⟩
  | passed le => exact ⟨Server.later_setClock le, fun _ hd _ => hd⟩
  | swept => exact of_cache (Cache.Backend.sweep_life _ _)
  | emptied cleared =>
      rcases cleared with rfl | rfl
      · exact of_cache (Cache.Backend.clear_life _)
      · exact of_cache (Cache.Backend.close_life _)

/-- No action breaks what holds of the calls and the entries. -/
lemma Step.sound (step : t.Step t') (h : t.router.Sound) : t'.router.Sound := by
  have later := step.later.server
  cases step with
  | idle => exact h
  | asked wellFormed asked => exact Router.ask_sound wellFormed h asked
  | streamed accepted =>
      obtain ⟨engine, rfl, -⟩ := Server.stream_ok accepted
      exact h.of_server later fun _ he => he
  | turned there change turn => exact change.sound h there
  | left there waiting change => exact change.sound h there
  | executed => exact h.of_server later fun _ he => he
  | passed => exact h.of_server later (Cache.Backend.pass_entries _ _ _)
  | swept => exact h.of_server later (Cache.Backend.sweep_entries _ _)
  | emptied cleared =>
      refine h.of_server later fun e he => ?_
      rcases cleared with rfl | rfl
      · exact absurd ((Cache.Backend.clear_entries t.server.cache) ▸ he) List.not_mem_nil
      · exact absurd ((Cache.Backend.close_entries t.server.cache) ▸ he) List.not_mem_nil

/-- What becomes of a call that was there. -/
lemma Step.settles (step : t.Step t') (h : t.Regular) : ∀ c ∈ t'.calls, c.Settles t'.server := by
  have later := step.later.server
  have kept : ∀ c ∈ t.calls, c.Settles t'.server := fun c hc => (h.settles c hc).later later
  cases step with
  | idle | streamed | executed | passed | swept | emptied => exact kept
  | asked wellFormed asked =>
      intro c hc
      obtain ⟨tool, args, checked, rfl⟩ := Router.ask_added asked
      rcases List.mem_append.mp hc with hc | hc
      · exact kept c hc
      · rw [List.mem_singleton.mp hc]
        exact Conversation.settles_of_idle (by simp [Conversation.new])
          (by simp [Conversation.new])
  | @turned i c c' s notes there change turn =>
      intro d hd
      rcases List.mem_or_eq_of_mem_set hd with hd | rfl
      · exact kept d hd
      · have settles := h.settles c (List.mem_of_getElem? there)
        refine (turn.settles settles fun missed => ?_).later later
        have fits := (h.sound.calls c (List.mem_of_getElem? there)).fits
        rw [missed] at fits
        exact fits.2
  | left there waiting change =>
      intro d hd
      rcases List.mem_or_eq_of_mem_set hd with hd | rfl
      · exact kept d hd
      · exact Conversation.settles_of_idle (by simp) (by simp)

/-- What has been stored are answers to calls. -/
lemma Step.deposited_of_stored (step : t.Step t')
    (h : ∀ d, .stored d ∈ t.log → t.Deposited d) :
    ∀ d, .stored d ∈ t'.log → t'.Deposited d := by
  have kept : ∀ d, .stored d ∈ t.log → t'.Deposited d := by
    intro d hd
    obtain ⟨cacheable, c, hc, id, tool, args, answered⟩ := h d hd
    exact ⟨cacheable, c, step.later.answers c hc ⟨_, _, _, answered⟩, id, tool, args, answered⟩
  intro d hd
  cases step with
  | idle | asked | left | executed | passed | swept => exact kept d hd
  | streamed | emptied => exact kept d ((List.mem_cons.mp hd).resolve_left (by simp))
  | @turned i c c' s notes there change turn =>
      rcases List.mem_append.mp hd with new | hd
      · cases turn with
        | found | missed | launched | worked | followed | returned => simp at new
        | @stored call v ended cacheable =>
            obtain rfl : d = ⟨c.tool, c.args, t.server.now, v⟩ := by simpa using new
            have hi : i < t.calls.length := (List.getElem?_eq_some_iff.mp there).1
            exact ⟨cacheable, _, List.mem_set hi _, call.run, rfl, rfl, rfl⟩
      · exact kept d hd

/-- Answers to calls that may be kept have been stored. -/
lemma Step.stored_of_deposited (step : t.Step t')
    (h : ∀ d, t.Deposited d → .stored d ∈ t.log) :
    ∀ d, t'.Deposited d → .stored d ∈ t'.log := by
  rintro d ⟨cacheable, c, hc, id, tool, args, answered⟩
  have kept : c ∈ t.calls → .stored d ∈ t.log := fun old =>
    h d ⟨cacheable, c, old, id, tool, args, answered⟩
  cases step with
  | idle | executed | passed | swept => exact kept hc
  | streamed | emptied => exact List.mem_cons_of_mem _ (kept hc)
  | asked wellFormed asked =>
      obtain ⟨_, _, _, rfl⟩ := Router.ask_added asked
      rcases List.mem_append.mp hc with old | new
      · exact kept old
      · rw [List.mem_singleton.mp new] at answered
        cases answered
  | left there waiting change =>
      rcases List.mem_or_eq_of_mem_set hc with old | rfl
      · exact kept old
      · cases answered
  | turned there change turn =>
      rcases List.mem_or_eq_of_mem_set hc with old | rfl
      · exact List.mem_append_right _ (kept old)
      · refine List.mem_append_left _ ?_
        cases turn with
        | found =>
            obtain ⟨-, origin, -⟩ := Progress.answered.inj answered
            cases origin
        | missed | launched | worked => cases answered
        | followed underWay keep goes => rcases goes with rfl | ⟨result, rfl⟩ <;> cases answered
        | stored ended =>
            obtain ⟨time, -, result⟩ := Progress.answered.inj answered
            obtain ⟨tool', args', time', result'⟩ := d
            dsimp only at tool args time result
            rw [← tool, ← args, ← time, Except.ok.inj result]
            exact List.mem_singleton_self _
        | returned ended barren =>
            rcases barren with plain | ⟨e, rfl⟩
            · rw [← tool] at cacheable
              exact absurd (plain.symm.trans cacheable) Bool.false_ne_true
            · obtain ⟨-, -, result⟩ := Progress.answered.inj answered
              cases result

/-- **No action breaks the invariant.** -/
lemma Regular.step (h : t.Regular) (step : t.Step t') : t'.Regular :=
  ⟨step.sound h.sound, step.settles h, fun d =>
    ⟨step.deposited_of_stored (fun d => (h.deposits d).mp) d,
      step.stored_of_deposited (fun d => (h.deposits d).mpr) d⟩⟩

/-- A server without calls and entries. -/
lemma regular_start {s : Server Backend} (empty : s.cache.entries = []) :
    Regular ⟨⟨s, []⟩, []⟩ := by
  refine ⟨⟨fun c hc => absurd hc List.not_mem_nil, fun e he => ?_⟩,
    fun c hc => absurd hc List.not_mem_nil, fun d => ⟨fun hd => absurd hd List.not_mem_nil, ?_⟩⟩
  · change e ∈ s.cache.entries at he
    exact absurd (empty ▸ he) List.not_mem_nil
  · rintro ⟨-, c, hc, -⟩
    exact absurd hc List.not_mem_nil

/-- **At any time the invariant holds.** -/
theorem regular_run {s : Server Backend} (empty : s.cache.entries = []) (acts : List Action) :
    (run ⟨⟨s, []⟩, []⟩ acts).Regular :=
  run_induct (fun _ _ _ h act => h.step (step_of_act act)) acts (regular_start empty)

/-! ### What the server does at one go -/

/-- A request for a call or a step of one, as the router has it, is an action. -/
lemma next_of_own (t : Traffic) {a : Router.Action} (own : a.IsOwn) :
    ∃ a' : Action, (t.next a').router = t.router.next a := by
  cases a with
  | ask params wellFormed caller =>
      refine ⟨.request ⟨messageVersion, none, "tools/call", some params⟩ wellFormed caller, ?_⟩
      simp only [next, act, request, and_self, if_true, Option.getD_some]
      rfl
  | advance i =>
      refine ⟨.advance i, ?_⟩
      simp only [next, Router.next, act, Router.act, Router.step]
      cases t.calls[i]? with
      | none => rfl
      | some c =>
          dsimp only
          cases c.advance t.server <;> rfl
  | abandon | execute | pass | close => exact own.elim

/-- So are several of them. -/
lemma run_of_reaches (t : Traffic) {r : Router} (h : t.router.Reaches r) :
    ∃ acts : List Action, (t.run acts).router = r := by
  obtain ⟨acts, own, rfl⟩ := h
  induction acts generalizing t with
  | nil => exact ⟨[], rfl⟩
  | cons a acts ih =>
      obtain ⟨a', first⟩ := t.next_of_own (own a List.mem_cons_self)
      obtain ⟨rest, last⟩ := ih (t.next a') fun b hb => own b (List.mem_cons_of_mem _ hb)
      exact ⟨a' :: rest, last.trans (by rw [first]; rfl)⟩

/-- Whether a reply is there, or is that of a call under way. -/
def Follows (t : Traffic) : Reply → Prop
  | .ready _ => True
  | .underWay _ call => ∃ c ∈ t.calls, c.progress = .underWay call

/-- What asks for no tool is answered at once, and changes nothing. -/
lemma handle_idle {s : Server Backend} {r : Request} (caller : Token)
    (idle : r.version = messageVersion → r.method = "tools/call" →
      ∃ e, s.target (r.params.getD .null) = .error e) :
    ∃ response, s.handle r caller = (s, .ready response) := by
  rw [Server.handle]
  split_ifs with version
  · exact ⟨_, rfl⟩
  · by_cases call : r.method = "tools/call"
    · obtain ⟨e, refused⟩ := idle (not_not.mp version) call
      simp only [Server.answer, call, Server.callTool, refused]
      exact ⟨_, rfl⟩
    · simp only [Server.answer, if_neg call]
      split_ifs <;> exact ⟨_, rfl⟩

/-- **What the server does with a message at one go is a list of actions.** -/
theorem receive_reached (t : Traffic) (data : Text.Bytes) (caller : Token) :
    ∃ acts : List Action, (t.run acts).server = (t.server.receive data caller).1 ∧
      (t.run acts).Follows (t.server.receive data caller).2 := by
  simp only [Server.receive]
  cases read : readRequest data with
  | error response => exact ⟨[], rfl, trivial⟩
  | ok r =>
      by_cases call : r.version = messageVersion ∧ r.method = "tools/call" ∧
        ∃ pair, t.server.target (r.params.getD .null) = .ok pair
      · obtain ⟨version, method, ⟨tool, args⟩, target⟩ := call
        obtain ⟨progress, reaches, shown⟩ := t.router.handle_reaches caller version method
          (wellFormed_of_readRequest read) target
        obtain ⟨acts, reached⟩ := t.run_of_reaches reaches
        refine ⟨acts, congrArg Router.server reached, ?_⟩
        cases handled : (t.server.handle r caller).2 with
        | ready response => trivial
        | underWay id call =>
            rw [handled] at shown
            refine ⟨{ Conversation.new tool args caller with progress }, ?_, shown.2⟩
            rw [calls, reached]
            simp
      · have idle : r.version = messageVersion → r.method = "tools/call" →
            ∃ e, t.server.target (r.params.getD .null) = .error e := by
          intro version method
          cases target : t.server.target (r.params.getD .null) with
          | error e => exact ⟨e, rfl⟩
          | ok pair => exact absurd ⟨version, method, pair, target⟩ call
        obtain ⟨response, same⟩ := handle_idle caller idle
        exact ⟨[], by simp only [same]; rfl, by simp only [same]; trivial⟩

/-- **What the server does to go on with a reply at one go is a list of actions.** -/
theorem pursue_reached (t : Traffic) {reply : Reply} (follows : t.Follows reply) :
    ∃ acts : List Action, (t.run acts).server = (t.server.pursue reply).1 ∧
      (t.run acts).Follows (t.server.pursue reply).2 := by
  cases reply with
  | ready response => exact ⟨[], rfl, trivial⟩
  | underWay id call =>
      obtain ⟨c, hc, underWay⟩ := follows
      obtain ⟨i, there⟩ := List.mem_iff_getElem?.mp hc
      obtain ⟨c', reaches, -, -, shown⟩ := t.router.pursue_reaches there underWay id
      obtain ⟨acts, reached⟩ := t.run_of_reaches reaches
      refine ⟨acts, congrArg Router.server reached, ?_⟩
      cases pursued : (t.server.pursue (.underWay id call)).2 with
      | ready response => trivial
      | underWay id' call' =>
          rw [pursued] at shown
          refine ⟨c', ?_, shown.2⟩
          rw [calls, reached]
          exact List.mem_set (List.getElem?_eq_some_iff.mp there).1 c'

end Traffic

/-- A request for a call of the constant tool. -/
def constantRequest (id : String) : Request :=
  .new (.string id) "tools/call" (some (.object [("name", .string "constant")]))

lemma constantRequest_wellFormed (id : String) :
    ((constantRequest id).params.getD .null).WellFormed :=
  ⟨by decide, trivial, trivial⟩

/-- A call of the constant tool that is carried out, and other messages. -/
def constantActions : List Traffic.Action :=
  [.message [] (.named ""),
    .request (constantRequest "1") (constantRequest_wellFormed "1") (.named ""),
    .advance 0, .advance 0, .stream "constant" .null "2" (.named ""), .execute (.advance 0),
    .execute (.advance 0), .execute (.advance 0), .advance 0, .advance 0, .advance 0]

/-- What comes of it. -/
def constantTraffic : Traffic :=
  Traffic.run ⟨⟨constantServer, []⟩, []⟩ constantActions

lemma constantTraffic_calls : ∃ events, constantTraffic.calls = [constantKept events] :=
  ⟨_, rfl⟩

end ToolServer
