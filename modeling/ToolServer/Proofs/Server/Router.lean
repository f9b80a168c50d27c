/-
Calls of tools that are under way at the same time, one step after another:

* `Conversation`: a call with its past, and how far it has come;
* `Conversation.advance`, `Conversation.abandon`: its next step, and its end when
  nobody waits for the answer any more;
* `Router`, `Router.act`, `Router.run`: a server with all its calls, and what
  comes of any list of actions;
* `Conversation.Change`: what a step of a call does to the server and to the call;
* `handle_reaches`, `pursue_reaches`: what the server does at one go with a request
  and with a reply is one way among many to order these steps;
* `wellFormed_of_readRequest`: the parameters of a message are well-formed.

Other calls, the executor and the clock may come in between any two steps of a
call, also between a look-up and the start of an invocation, and between the end
of an invocation and the keeping of its result.
-/
import ToolServer.Cache.Backend
import ToolServer.Proofs.Execution.Transition
import ToolServer.Proofs.Json.Canonical
import ToolServer.Server.Request

namespace ToolServer

open ToolServer.Cache (Backend)
open ToolServer.Execution (Engine Token foldl_getD_induct set_of_getElem?)

/-- The check of credentials changes nothing but the list of those checked. -/
lemma Server.checkCredentials_eq {σ : Type} (s : Server σ) (tool : String)
    (credentials : Option Json) :
    ∃ checked, s.checkCredentials tool credentials = { s with checked } := by
  rw [checkCredentials]
  split
  · exact ⟨_, rfl⟩
  · exact ⟨s.checked, rfl⟩

/-! ### One call -/

/-- Where an answer is from. -/
inductive Source
  /-- The store of results. -/
  | store
  /-- An invocation of the tool. -/
  | run (id : ℕ)
  deriving DecidableEq

/-- How far a call has come. -/
inductive Progress
  /-- Nothing has been done. -/
  | asked
  /-- Its result has been looked up, and is not there. -/
  | missed
  /-- Its invocation is under way. -/
  | underWay (call : Call)
  /-- Its invocation has ended. -/
  | ended (call : Call) (result : Except RpcError Json)
  /-- It has been answered at some time. -/
  | answered (time : ℕ) (source : Source) (result : Except RpcError Json)
  /-- Nobody waits for the answer any more. -/
  | abandoned

/-- A call of a tool with its past. -/
structure Conversation where
  tool : Tool.Definition
  args : Json
  /-- The token of the caller. -/
  caller : Token
  /-- The events that have been read of its invocation, the first one first. -/
  events : List Event := []
  progress : Progress := .asked

namespace Conversation

/-- A call that has just been asked for. -/
def new (tool : Tool.Definition) (args : Json) (caller : Token) : Conversation :=
  { tool, args, caller }

/-- The key under which the result of a call is stored. -/
def key (c : Conversation) : String :=
  Cache.keyOf c.tool.name c.args

/-- The result of a call is looked up. -/
def lookUp (s : Server Backend) (c : Conversation) : Server Backend × Conversation :=
  match s.lookUp c.tool c.args with
  | (s', some result) => (s', { c with progress := .answered s.now .store (.ok result) })
  | (s', none) => (s', { c with progress := .missed })

/-- The invocation of a call is started. -/
def launch (s : Server Backend) (c : Conversation) (keep : Option (String × ℕ)) :
    Server Backend × Conversation :=
  let (s, call) := s.invoke c.tool c.args c.caller keep
  (s, { c with progress := .underWay call })

/-- The next event of a call's invocation is read, if there is one. -/
def poll (s : Server Backend) (c : Conversation) (call : Call) :
    Option (Server Backend × Conversation) :=
  match s.engine.take call.run with
  | (.pending, _) => none
  | (.ended, _) =>
    some ({ s with engine := s.engine.drop call.run },
      { c with progress := .ended call (.error streamClosed) })
  | (.event e, engine) =>
    match call.read e with
    | .inl call =>
      some ({ s with engine }, { c with events := c.events ++ [e], progress := .underWay call })
    | .inr result =>
      some ({ s with engine := engine.drop call.run },
        { c with events := c.events ++ [e], progress := .ended call result })

/-- The next step of a call, if it can take one. A result is kept and the answer
given in one step. -/
def advance (s : Server Backend) (c : Conversation) : Option (Server Backend × Conversation) :=
  match c.progress with
  | .asked => some (if c.tool.caching.cacheable then c.lookUp s else c.launch s none)
  | .missed => some (c.launch s (some (c.key, s.ttlOf c.tool)))
  | .underWay call => c.poll s call
  | .ended call result =>
    some (s.keepResult call result, { c with progress := .answered s.now (.run call.run) result })
  | .answered .. | .abandoned => none

/-- Nobody waits for the answer to a call any more, whose events are given up. -/
def abandon (s : Server Backend) (c : Conversation) : Option (Server Backend × Conversation) :=
  match c.progress with
  | .asked | .missed | .ended .. => some (s, { c with progress := .abandoned })
  | .underWay call =>
    some ({ s with engine := s.engine.drop call.run }, { c with progress := .abandoned })
  | .answered .. | .abandoned => none

/-- Whether a call has been answered. -/
def IsAnswered (c : Conversation) : Prop :=
  ∃ time source result, c.progress = .answered time source result

/-- What a step of a call does to the server and to the call. -/
inductive Change (s : Server Backend) (c : Conversation) : Server Backend → Conversation → Prop
  /-- The result is in the store. -/
  | found {result : Json} (asked : c.progress = .asked)
      (cacheable : c.tool.caching.cacheable = true)
      (there : (s.lookUp c.tool c.args).2 = some result) :
      Change s c (s.lookUp c.tool c.args).1
        { c with progress := .answered s.now .store (.ok result) }
  /-- The result is not in the store. -/
  | missed (asked : c.progress = .asked) (cacheable : c.tool.caching.cacheable = true)
      (absent : (s.lookUp c.tool c.args).2 = none) :
      Change s c (s.lookUp c.tool c.args).1 { c with progress := .missed }
  /-- An invocation is started. Its result is to be kept if it was looked up. -/
  | launched {keep : Option (String × ℕ)}
      (idle : c.progress = .asked ∧ keep = none ∨
        c.progress = .missed ∧ keep = some (c.key, s.ttlOf c.tool)) :
      Change s c (s.invoke c.tool c.args c.caller keep).1
        { c with progress := .underWay (s.invoke c.tool c.args c.caller keep).2 }
  /-- An event is read after which the invocation goes on. -/
  | read {call call' : Call} {e : Event} (underWay : c.progress = .underWay call)
      (taken : (s.engine.take call.run).1 = .event e) (next : call.read e = .inl call') :
      Change s c { s with engine := (s.engine.take call.run).2 }
        { c with events := c.events ++ [e], progress := .underWay call' }
  /-- An event is read that ends the invocation. -/
  | finished {call : Call} {e : Event} {result : Except RpcError Json}
      (underWay : c.progress = .underWay call)
      (taken : (s.engine.take call.run).1 = .event e) (last : call.read e = .inr result) :
      Change s c { s with engine := (s.engine.take call.run).2.drop call.run }
        { c with events := c.events ++ [e], progress := .ended call result }
  /-- There are no more events. -/
  | closed {call : Call} (underWay : c.progress = .underWay call)
      (taken : (s.engine.take call.run).1 = .ended) :
      Change s c { s with engine := s.engine.drop call.run }
        { c with progress := .ended call (.error streamClosed) }
  /-- The result is kept and the answer given. -/
  | kept {call : Call} {result : Except RpcError Json} (ended : c.progress = .ended call result) :
      Change s c (s.keepResult call result)
        { c with progress := .answered s.now (.run call.run) result }
  /-- Nobody waits for the answer any more, before there is an invocation or after
  it has ended. -/
  | given (waiting : ¬ c.IsAnswered) : Change s c s { c with progress := .abandoned }
  /-- Nobody waits for the answer any more, and the invocation goes on without a
  reader. -/
  | dropped {call : Call} (underWay : c.progress = .underWay call) :
      Change s c { s with engine := s.engine.drop call.run } { c with progress := .abandoned }

variable {s s' : Server Backend} {c c' : Conversation}

lemma lookUp_of_found {result : Json}
    (found : (s.lookUp c.tool c.args).2 = some result) :
    c.lookUp s = ((s.lookUp c.tool c.args).1,
      { c with progress := .answered s.now .store (.ok result) }) := by
  rw [lookUp]
  split
  · next s' result' h =>
      rw [h] at found ⊢
      obtain rfl := Option.some.inj found
      rfl
  · next s' h =>
      rw [h] at found
      cases found

lemma lookUp_change (asked : c.progress = .asked) (cacheable : c.tool.caching.cacheable = true) :
    Change s c (c.lookUp s).1 (c.lookUp s).2 := by
  rw [lookUp]
  split
  · next s' result h =>
      have change : Change s c (s.lookUp c.tool c.args).1 _ := .found asked cacheable (by rw [h])
      rwa [h] at change
  · next s' h =>
      have change : Change s c (s.lookUp c.tool c.args).1 _ := .missed asked cacheable (by rw [h])
      rwa [h] at change

lemma poll_change {call : Call} (underWay : c.progress = .underWay call)
    (h : c.poll s call = some (s', c')) : Change s c s' c' := by
  rw [poll] at h
  split at h
  · cases h
  · next engine taken =>
      cases h
      exact .closed underWay (by rw [taken])
  · next e engine taken =>
      have engine_eq : engine = (s.engine.take call.run).2 := by rw [taken]
      subst engine_eq
      cases next : call.read e with
      | inl call' =>
          simp only [next, Option.some.injEq, Prod.mk.injEq] at h
          obtain ⟨rfl, rfl⟩ := h
          exact .read underWay (by rw [taken]) next
      | inr result =>
          simp only [next, Option.some.injEq, Prod.mk.injEq] at h
          obtain ⟨rfl, rfl⟩ := h
          exact .finished underWay (by rw [taken]) next

/-- What the next step of a call does. -/
lemma advance_change (h : c.advance s = some (s', c')) : Change s c s' c' := by
  cases progress : c.progress with
  | asked =>
      simp only [advance, progress, Option.some.injEq] at h
      cases cacheable : c.tool.caching.cacheable with
      | true =>
          have change := lookUp_change (s := s) progress cacheable
          simp only [cacheable, if_true] at h
          rwa [h] at change
      | false =>
          simp only [cacheable, Bool.false_eq_true, if_false, launch, Prod.mk.injEq] at h
          obtain ⟨rfl, rfl⟩ := h
          exact .launched (.inl ⟨progress, rfl⟩)
  | missed =>
      simp only [advance, progress, launch, Option.some.injEq, Prod.mk.injEq] at h
      obtain ⟨rfl, rfl⟩ := h
      exact .launched (.inr ⟨progress, rfl⟩)
  | underWay call => exact poll_change progress (by simpa only [advance, progress] using h)
  | ended call result =>
      simp only [advance, progress, Option.some.injEq, Prod.mk.injEq] at h
      obtain ⟨rfl, rfl⟩ := h
      exact .kept progress
  | answered time source result => simp [advance, progress] at h
  | abandoned => simp [advance, progress] at h

/-- What it does when nobody waits for the answer any more. -/
lemma abandon_change (h : c.abandon s = some (s', c')) : Change s c s' c' := by
  have given : s = s' ∧ { c with progress := .abandoned } = c' → ¬ c.IsAnswered →
      Change s c s' c' := by
    rintro ⟨rfl, rfl⟩ waiting
    exact .given waiting
  cases progress : c.progress with
  | asked =>
      exact given (by simpa [abandon, progress] using h) (by simp [IsAnswered, progress])
  | missed =>
      exact given (by simpa [abandon, progress] using h) (by simp [IsAnswered, progress])
  | ended call result =>
      exact given (by simpa [abandon, progress] using h) (by simp [IsAnswered, progress])
  | underWay call =>
      simp only [abandon, progress, Option.some.injEq, Prod.mk.injEq] at h
      obtain ⟨rfl, rfl⟩ := h
      exact .dropped progress
  | answered time source result => simp [abandon, progress] at h
  | abandoned => simp [abandon, progress] at h

/-- A call that has been answered takes no more steps. -/
lemma Change.waiting (change : Change s c s' c') : ¬ c.IsAnswered := by
  rintro ⟨time, source, result, answered⟩
  cases change with
  | found asked | missed asked => simp [answered] at asked
  | launched idle => simp [answered] at idle
  | read underWay | finished underWay | closed underWay | dropped underWay =>
      simp [answered] at underWay
  | kept ended => simp [answered] at ended
  | given waiting => exact waiting ⟨_, _, _, answered⟩

/-- A call keeps its tool and its arguments. -/
lemma Change.same_call (change : Change s c s' c') : c'.tool = c.tool ∧ c'.args = c.args := by
  cases change <;> exact ⟨rfl, rfl⟩

end Conversation

/-! ### All calls -/

/-- Something that happens to a server with calls. -/
inductive Router.Action
  /-- A call is asked for by the parameters of a request. -/
  | ask (params : Json) (wellFormed : params.WellFormed) (caller : Token)
  /-- A call takes its next step. -/
  | advance (i : ℕ)
  /-- Nobody waits for the answer to a call any more. -/
  | abandon (i : ℕ)
  /-- Something happens in the executor. -/
  | execute (a : Execution.Action)
  /-- The clock runs on, and the store is swept if that is due. -/
  | pass (now : ℕ)
  /-- The store is given up. -/
  | close

/-- A server with all calls that it has been asked for, the first one first. -/
structure Router where
  server : Server Backend
  calls : List Conversation := []

namespace Router

/-- A call is asked for. What asks for no tool is refused, and no call begins. -/
def ask (t : Router) (params : Json) (caller : Token) : Option Router :=
  match t.server.target params with
  | .error _ => none
  | .ok (tool, args) =>
    let credentials := (params.get? "_meta").bind (Json.get? "credentials")
    some
      { server := t.server.checkCredentials tool.name credentials
        calls := t.calls ++ [.new tool args caller] }

/-- A call takes a step, if it can. -/
def step (t : Router) (i : ℕ)
    (f : Server Backend → Conversation → Option (Server Backend × Conversation)) :
    Option Router :=
  match t.calls[i]? with
  | none => none
  | some c => (f t.server c).map fun next => ⟨next.1, t.calls.set i next.2⟩

/-- What comes of an action, if it can happen. -/
def act (t : Router) : Action → Option Router
  | .ask params _ caller => t.ask params caller
  | .advance i => t.step i fun s c => c.advance s
  | .abandon i => t.step i fun s c => c.abandon s
  | .execute a =>
    (t.server.engine.act a).map fun engine => { t with server := { t.server with engine } }
  | .pass now =>
    if t.server.now ≤ now then some { t with server := t.server.setClock now } else none
  | .close =>
    some { t with server := { t.server with cache := (ResultCache.close t.server.cache).2 } }

/-- What comes of an action; one that cannot happen changes nothing. -/
def next (t : Router) (a : Action) : Router :=
  (t.act a).getD t

/-- What comes of a list of actions. -/
def run (t : Router) (acts : List Action) : Router :=
  acts.foldl next t

/-- What is kept by every action is kept by all. -/
lemma run_induct {P : Router → Prop} (step : ∀ t a t', P t → t.act a = some t' → P t')
    (acts : List Action) {t : Router} (start : P t) : P (t.run acts) :=
  foldl_getD_induct step acts start

/-- The check of credentials is all that asking for a call does to the server, if the
call can be asked for. -/
lemma ask_added {t t' : Router} {params : Json} {caller : Token}
    (h : t.ask params caller = some t') :
    ∃ tool args checked, t' = ⟨{ t.server with checked }, t.calls ++ [.new tool args caller]⟩ := by
  rw [ask] at h
  split at h
  · cases h
  · next tool args target =>
      obtain ⟨checked, same⟩ := t.server.checkCredentials_eq tool.name
        ((params.get? "_meta").bind (Json.get? "credentials"))
      exact ⟨tool, args, checked, by rw [← Option.some.inj h, same]⟩

/-! ### What the server does at one go -/

/-- Whether an action is a request for a call or a step of one. -/
def Action.IsOwn : Action → Prop
  | .ask .. | .advance _ => True
  | .abandon _ | .execute _ | .pass _ | .close => False

/-- Whether requests and steps of calls lead from one state to another. -/
def Reaches (t t' : Router) : Prop :=
  ∃ acts : List Action, (∀ a ∈ acts, a.IsOwn) ∧ t.run acts = t'

lemma Reaches.refl (t : Router) : t.Reaches t :=
  ⟨[], fun _ ha => absurd ha List.not_mem_nil, rfl⟩

lemma Reaches.trans {t t' t'' : Router} (h : t.Reaches t') (h' : t'.Reaches t'') :
    t.Reaches t'' := by
  obtain ⟨acts, own, rfl⟩ := h
  obtain ⟨more, own', rfl⟩ := h'
  refine ⟨acts ++ more, fun a ha => ?_, List.foldl_append⟩
  exact (List.mem_append.mp ha).elim (own a) (own' a)

lemma Reaches.of_act {t t' : Router} {a : Action} (own : a.IsOwn) (h : t.act a = some t') :
    t.Reaches t' :=
  ⟨[a], fun _ hb => List.mem_singleton.mp hb ▸ own, by simp [run, next, h]⟩

/-- A step of a call that is there. -/
lemma Reaches.of_advance {t : Router} {i : ℕ} {c c' : Conversation} {s' : Server Backend}
    (there : t.calls[i]? = some c) (h : c.advance t.server = some (s', c')) :
    t.Reaches ⟨s', t.calls.set i c'⟩ :=
  .of_act (a := .advance i) trivial (by simp [act, step, there, h])

/-- A step of the latest call. -/
lemma Reaches.of_advance_last {s s' : Server Backend} {calls : List Conversation}
    {c c' : Conversation} (h : c.advance s = some (s', c')) :
    Reaches ⟨s, calls ++ [c]⟩ ⟨s', calls ++ [c']⟩ := by
  have reaches := Reaches.of_advance (t := ⟨s, calls ++ [c]⟩) (i := calls.length)
    List.getElem?_concat_length h
  simpa using reaches

lemma checkCredentials_engine (s : Server Backend) (tool : String) (credentials : Option Json) :
    (s.checkCredentials tool credentials).engine = s.engine := by
  rw [Server.checkCredentials]
  split <;> rfl

/-- **What the server does with a new call at one go is a list of steps.** The call
is answered from the store, or its invocation is under way. -/
theorem callTool_reaches (t : Router) {params : Json} (wellFormed : params.WellFormed)
    (caller : Token) {tool : Tool.Definition} {args : Json}
    (target : t.server.target params = .ok (tool, args)) :
    ∃ progress, t.Reaches ⟨(t.server.callTool params caller).1,
        t.calls ++ [{ Conversation.new tool args caller with progress }]⟩ ∧
      match (t.server.callTool params caller).2 with
      | .ready result => progress = .answered t.server.now .store result
      | .underWay call => progress = .underWay call := by
  obtain ⟨s, hs⟩ : ∃ s, s = t.server.checkCredentials tool.name
    ((params.get? "_meta").bind (Json.get? "credentials")) := ⟨_, rfl⟩
  have asked : t.Reaches ⟨s, t.calls ++ [.new tool args caller]⟩ :=
    .of_act (a := .ask params wellFormed caller) trivial (by simp only [act, ask, target, hs])
  have now : t.server.now = s.now := by
    rw [Server.now, Server.now, hs, checkCredentials_engine]
  have called : t.server.callTool params caller
      = if tool.caching.cacheable then s.invokeCached tool args caller
        else (s.invoke tool args caller none).map id .underWay := by
    rw [Server.callTool, target, hs]
  rw [called]
  by_cases cacheable : tool.caching.cacheable = true
  · rw [if_pos cacheable, Server.invokeCached]
    split
    · next s' result found =>
        refine ⟨_, asked.trans (.of_advance_last ?_), rfl⟩
        simp [Conversation.advance, Conversation.new, cacheable, Conversation.lookUp, found, now]
    · next s' missed =>
        have looked : Reaches ⟨s, t.calls ++ [.new tool args caller]⟩
            ⟨s', t.calls ++ [{ Conversation.new tool args caller with progress := .missed }]⟩ :=
          .of_advance_last (by
            simp [Conversation.advance, Conversation.new, cacheable, Conversation.lookUp, missed])
        exact ⟨_, (asked.trans looked).trans (.of_advance_last rfl), rfl⟩
  · rw [if_neg cacheable]
    have launched : (Conversation.new tool args caller).advance s
        = some ((Conversation.new tool args caller).launch s none) := by
      rw [Conversation.advance, Conversation.new]
      exact congrArg some (if_neg cacheable)
    exact ⟨_, asked.trans (.of_advance_last launched), rfl⟩

/-- What a call does with an event leaves its invocation as it is. -/
lemma run_of_read {call call' : Call} {e : Event} (h : call.read e = .inl call') :
    call'.run = call.run := by
  cases e <;> simp only [Call.read, Sum.inl.injEq, reduceCtorEq] at h <;> rw [← h]

/-- An invocation that has ended is followed by the answer. -/
lemma Reaches.of_ended {t : Router} {i : ℕ} {c c' : Conversation} {call : Call}
    {result : Except RpcError Json} {s' : Server Backend} (there : t.calls[i]? = some c)
    (h : c.advance t.server = some (s', c')) (ended : c'.progress = .ended call result) :
    t.Reaches ⟨s'.keepResult call result,
      t.calls.set i { c' with progress := .answered s'.now (.run call.run) result }⟩ := by
  have hi : i < t.calls.length := (List.getElem?_eq_some_iff.mp there).1
  have kept : Reaches ⟨s', t.calls.set i c'⟩ _ :=
    .of_advance (i := i) (List.getElem?_set_self hi) (by rw [Conversation.advance, ended])
  rw [List.set_set] at kept
  exact (Reaches.of_advance there h).trans kept

lemma advanceCall_reaches (fuel : ℕ) (t : Router) {i : ℕ} {c : Conversation} {call : Call}
    (there : t.calls[i]? = some c) (underWay : c.progress = .underWay call) :
    ∃ c', t.Reaches ⟨(Server.advanceCall fuel t.server call).1, t.calls.set i c'⟩ ∧
      c'.tool = c.tool ∧ c'.args = c.args ∧
      match (Server.advanceCall fuel t.server call).2 with
      | .inl call' => c'.progress = .underWay call'
      | .inr result => ∃ time, c'.progress = .answered time (.run call.run) result := by
  induction fuel generalizing t c call with
  | zero =>
      refine ⟨c, ?_, rfl, rfl, underWay⟩
      rw [set_of_getElem? there]
      exact .refl t
  | succ fuel ih =>
      have hi : i < t.calls.length := (List.getElem?_eq_some_iff.mp there).1
      rw [Server.advanceCall]
      split
      · refine ⟨c, ?_, rfl, rfl, underWay⟩
        rw [set_of_getElem? there]
        exact .refl t
      · next engine taken =>
          have ended : c.advance t.server
              = some ({ t.server with engine := t.server.engine.drop call.run },
                { c with progress := .ended call (.error streamClosed) }) := by
            simp only [Conversation.advance, underWay, Conversation.poll, taken]
          exact ⟨_, Reaches.of_ended there ended rfl, rfl, rfl, _, rfl⟩
      · next e engine taken =>
          cases next : call.read e with
          | inl call' =>
              have read : t.Reaches ⟨{ t.server with engine }, t.calls.set i
                  { c with events := c.events ++ [e], progress := .underWay call' }⟩ :=
                .of_advance there (by
                  simp only [Conversation.advance, underWay, Conversation.poll, taken, next])
              obtain ⟨c', more, tool, args, shown⟩ := ih
                ⟨{ t.server with engine }, t.calls.set i
                  { c with events := c.events ++ [e], progress := .underWay call' }⟩
                (List.getElem?_set_self hi) rfl
              rw [List.set_set] at more
              rw [run_of_read next] at shown
              exact ⟨c', read.trans more, tool, args, shown⟩
          | inr result =>
              have ended : c.advance t.server
                  = some ({ t.server with engine := engine.drop call.run },
                    { c with events := c.events ++ [e], progress := .ended call result }) := by
                simp only [Conversation.advance, underWay, Conversation.poll, taken, next]
              exact ⟨_, Reaches.of_ended there ended rfl, rfl, rfl, _, rfl⟩

/-- **What the server does with the events of a call at one go is a list of steps.**
The call is answered, or its invocation is still under way. -/
theorem resume_reaches (t : Router) {i : ℕ} {c : Conversation} {call : Call}
    (there : t.calls[i]? = some c) (underWay : c.progress = .underWay call) :
    ∃ c', t.Reaches ⟨(t.server.resume call).1, t.calls.set i c'⟩ ∧
      c'.tool = c.tool ∧ c'.args = c.args ∧
      match (t.server.resume call).2 with
      | .inl call' => c'.progress = .underWay call'
      | .inr result => ∃ time, c'.progress = .answered time (.run call.run) result :=
  advanceCall_reaches _ t there underWay

/-! ### Requests -/

/-- A request for something else than a call changes nothing. -/
theorem handle_other (s : Server Backend) (r : Request) (caller : Token)
    (other : r.version ≠ messageVersion ∨ r.method ≠ "tools/call") :
    (s.handle r caller).1 = s := by
  rw [Server.handle]
  split_ifs with version
  · rfl
  · have other : r.method ≠ "tools/call" := other.resolve_left version
    simp only [Server.answer, if_neg other]
    split_ifs <;> rfl

/-- **What the server does with a request for a call at one go is a list of steps**,
and the response is the answer to the call. -/
theorem handle_reaches (t : Router) {r : Request} (caller : Token)
    (version : r.version = messageVersion) (method : r.method = "tools/call")
    (wellFormed : (r.params.getD .null).WellFormed) {tool : Tool.Definition} {args : Json}
    (target : t.server.target (r.params.getD .null) = .ok (tool, args)) :
    ∃ progress, t.Reaches ⟨(t.server.handle r caller).1,
        t.calls ++ [{ Conversation.new tool args caller with progress }]⟩ ∧
      match (t.server.handle r caller).2 with
      | .ready response => ∃ result, response = respond r.id result ∧
          progress = .answered t.server.now .store result
      | .underWay id call => id = r.id ∧ progress = .underWay call := by
  obtain ⟨progress, reaches, shown⟩ := callTool_reaches t wellFormed caller target
  have answered : t.server.answer r.method (r.params.getD .null) caller
      = t.server.callTool (r.params.getD .null) caller := by
    rw [Server.answer, method]
    simp
  rw [Server.handle, if_neg (not_not.mpr version), answered]
  rcases called : t.server.callTool (r.params.getD .null) caller with ⟨s, result | call⟩
  · rw [called] at reaches shown
    exact ⟨progress, reaches, result, rfl, shown⟩
  · rw [called] at reaches shown
    exact ⟨progress, reaches, rfl, shown⟩

/-- **What the server does to go on with a reply at one go is a list of steps**, and
the response is the answer to the call. -/
theorem pursue_reaches (t : Router) {i : ℕ} {c : Conversation} {call : Call}
    (there : t.calls[i]? = some c) (underWay : c.progress = .underWay call)
    (id : Option RequestId) :
    ∃ c', t.Reaches ⟨(t.server.pursue (.underWay id call)).1, t.calls.set i c'⟩ ∧
      c'.tool = c.tool ∧ c'.args = c.args ∧
      match (t.server.pursue (.underWay id call)).2 with
      | .ready response => ∃ time result, response = respond id result ∧
          c'.progress = .answered time (.run call.run) result
      | .underWay id' call' => id' = id ∧ c'.progress = .underWay call' := by
  obtain ⟨c', reaches, tool, args, shown⟩ := resume_reaches t there underWay
  rw [Server.pursue]
  rcases resumed : t.server.resume call with ⟨s, call' | result⟩
  · rw [resumed] at reaches shown
    exact ⟨c', reaches, tool, args, rfl, shown⟩
  · rw [resumed] at reaches shown
    obtain ⟨time, shown⟩ := shown
    exact ⟨c', reaches, tool, args, time, result, rfl, shown⟩

end Router

lemma Json.wellFormed_of_read {data : Text.Bytes} {v : Json} (h : read data = .ok v) :
    v.WellFormed := by
  rw [read] at h
  cases written : readAsWritten data with
  | error fault =>
      rw [written] at h
      cases h
  | ok w =>
      rw [written] at h
      obtain rfl := Except.ok.inj h
      exact wellFormed_canonical w

/-- An optional field of an object is absent or the value of a member. -/
lemma Decode.field_value {members : List (String × Json)} {expected name : String} {index : ℕ}
    {v : Option Json}
    (h : ((Slots.mk (.named members) expected).field name index (optional anything)
      (some none)).value = .ok v) : ∀ p ∈ v, ∃ m ∈ members, p = m.2 := by
  rw [Slots.field] at h
  simp only at h
  split at h
  · obtain rfl := Except.ok.inj h
    exact fun p hp => nomatch hp
  · next m only =>
      have there : m ∈ members := (List.mem_filter.mp (only ▸ List.mem_singleton_self m)).1
      simp only [optional, anything] at h
      split_ifs at h
      · obtain rfl := Except.ok.inj h
        exact fun p hp => nomatch hp
      · obtain rfl := Except.ok.inj h
        exact fun p hp => ⟨m, there, (Option.some.inj hp).symm⟩
  · cases h

/-- The parameters of a request are absent or the value of a member. -/
lemma Request.params_of_decode {members : List (String × Json)} {r : Request}
    (h : decode (.object members) = .ok r) : ∀ p ∈ r.params, ∃ m ∈ members, p = m.2 := by
  simp only [decode, Decode.slots, Decode.Document.record?, bind, Except.bind] at h
  split at h
  · next version id method params hv hi hm hp =>
      simp only [Decode.Slots.exhausted, pure, Except.pure, Except.ok.injEq] at h
      obtain rfl := h
      exact Decode.field_value hp
  · cases h

/-- **The parameters of a request that has been read are well-formed.** -/
theorem wellFormed_of_readRequest {data : Text.Bytes} {r : Request}
    (h : readRequest data = .ok r) : (r.params.getD .null).WellFormed := by
  rw [readRequest] at h
  split at h
  · cases h
  · next message written =>
      have wellFormed := Json.wellFormed_of_read written
      split_ifs at h with isObject
      cases message with
      | object members =>
          split at h
          · next request decoded =>
              obtain rfl := Except.ok.inj h
              cases params : request.params with
              | none => exact trivial
              | some p =>
                  obtain ⟨m, there, rfl⟩ := Request.params_of_decode decoded p params
                  exact Json.haveWellFormed_iff.mp wellFormed.2 m there
          · cases h
      | null | bool | number | string | array => exact absurd rfl isObject

end ToolServer
