/-
Requests over HTTP and the tokens that they fire:

* `Engine.Stable`: what is kept by every action that is about no token; everything that a
  server does while it waits keeps it;
* `receive_engine`: a message starts one invocation below its caller, or nothing;
* `Exchanges.Leads`, `Exchanges.pending`: what requests come to, and the tokens of those
  that have not ended;
* `serves_request`: a request is a list of actions that begin and end it. What has not
  ended is the body of its response;
* `leads_closeBody`: giving the body up ends it, and ends nothing else;
* `cancellation_comes_from_above`: a context is cancelled from above or by its own
  deadline, and cancels nothing but itself.
-/
import ToolServer.Http.Service
import ToolServer.Proofs.Execution.Exchanges
import ToolServer.Proofs.Server.Waiting

namespace ToolServer

open ToolServer.Execution

/-! ### What is about no token -/

/-- A quiet action is about no token. -/
lemma Execution.Action.IsQuiet.token?_eq {mine : ℕ → Prop} {a : Action} (h : a.IsQuiet mine) :
    a.token? = none := by
  cases a with
  | advance | expire | take | drop | wait => rfl
  | branch | submit | cancel | emit | meddle => exact h.elim

namespace Execution.Engine

/-- Whether something is kept by every action that is about no token. -/
def Stable (P : Engine → Prop) : Prop :=
  ∀ (e e' : Engine) (a : Action), a.token? = none → P e → e.act a = some e' → P e'

variable {P : Engine → Prop} {mine : ℕ → Prop}

lemma Stable.of_does (stable : Stable P) {e e' : Engine} (h : e.Does mine e') (start : P e) :
    P e' :=
  h.induct (fun e a e' quiet => stable e e' a quiet.token?_eq) start

/-- What a server does while it waits is about no token. -/
lemma Stable.of_server {σ : Type} (stable : Stable P) {s s' : Server σ}
    (h : s.Does (fun _ => True) s') (start : P s.engine) : P s'.engine :=
  stable.of_does (h fun _ _ => trivial).1 start

end Execution.Engine

/-! ### What a server starts -/

/-- Whether an invocation is started under a token that is made below a caller. -/
def Execution.Engine.Invokes (e : Engine) (caller : Token) (e' : Engine) : Prop :=
  ∃ tool requestId args handler,
    e' = ((e.childOf caller).2.submit tool requestId args (e.childOf caller).1 handler).2

namespace Server

variable {σ : Type} {s : Server σ} {caller : Token}

lemma invoke_engine (tool : Tool.Definition) (args : Json) (keep : Option (String × ℕ)) :
    s.engine.Invokes caller (s.invoke tool args caller keep).1.engine :=
  ⟨_, _, _, _, rfl⟩

lemma stream_engine {s' : Server σ} {tool requestId : String} {args : Json} {id : ℕ}
    (h : s.stream tool args requestId caller = .ok (id, s')) :
    s.engine.Invokes caller s'.engine ∧ ∃ r, s'.engine.runs[id]? = some r ∧
      r.caller = (s.engine.childOf caller).1 := by
  rw [stream] at h
  split at h
  · cases h
  · split_ifs at h
    cases h
    exact ⟨⟨_, _, _, _, rfl⟩, _, List.getElem?_concat_length, rfl⟩

variable [ResultCache σ]

lemma invokeCached_engine (tool : Tool.Definition) (args : Json) :
    (s.invokeCached tool args caller).1.engine = s.engine ∨
      s.engine.Invokes caller (s.invokeCached tool args caller).1.engine := by
  have looked : (s.lookUp tool args).1.engine = s.engine := rfl
  rw [invokeCached]
  split
  · next h => exact .inl (by rwa [h] at looked)
  · next s' h =>
      rw [h] at looked
      rw [← looked]
      exact .inr (invoke_engine tool args (some (Cache.keyOf tool.name args, s'.ttlOf tool)))

lemma callTool_engine (params : Json) : (s.callTool params caller).1.engine = s.engine ∨
    s.engine.Invokes caller (s.callTool params caller).1.engine := by
  rw [callTool]
  split
  · exact .inl rfl
  · next tool args target =>
      obtain ⟨checked, same⟩ := s.checkCredentials_eq tool.name
        ((params.get? "_meta").bind (Json.get? "credentials"))
      rw [same]
      dsimp only
      split
      · exact invokeCached_engine (s := { s with checked }) tool args
      · exact .inr (invoke_engine (s := { s with checked }) tool args none)

lemma answer_engine (s : Server σ) (caller : Token) (method : String) (params : Json) :
    (s.answer method params caller).1.engine = s.engine ∨
      s.engine.Invokes caller (s.answer method params caller).1.engine := by
  rw [answer]
  split_ifs <;> first | exact .inl rfl | exact callTool_engine params

/-- A message starts one invocation below its caller, or nothing. -/
theorem receive_engine (data : Text.Bytes) (caller : Token) :
    (s.receive data caller).1.engine = s.engine ∨
      s.engine.Invokes caller (s.receive data caller).1.engine := by
  rw [receive]
  split
  · exact .inl rfl
  · next request read =>
      rw [handle]
      split
      · exact .inl rfl
      · have answered := s.answer_engine caller request.method (request.params.getD .null)
        split
        · next h => rwa [h] at answered
        · next h => rwa [h] at answered

end Server

/-! ### What requests come to -/

namespace Execution.Exchanges

/-- Whether some actions lead to an executor and its requests. -/
def Leads (x : Exchanges) (engine : Engine) (list : List Exchange) : Prop :=
  ∃ acts, (x.run acts).engine = engine ∧ (x.run acts).list = list

/-- The tokens of the requests that have not ended. -/
def pending (list : List Exchange) : List Token :=
  (list.filter fun q => !q.isOver).map Exchange.scope

variable {x : Exchanges} {engine engine' : Engine} {list list' : List Exchange}

lemma Leads.refl (x : Exchanges) : x.Leads x.engine x.list :=
  ⟨[], rfl, rfl⟩

/-- One more action. -/
lemma Leads.act (h : x.Leads engine list) (a : Action)
    (does : ∀ y : Exchanges, y.engine = engine → y.list = list →
      ∃ y', y.act a = some y' ∧ y'.engine = engine' ∧ y'.list = list') :
    x.Leads engine' list' := by
  obtain ⟨acts, atEngine, atList⟩ := h
  obtain ⟨y', happens, reached⟩ := does _ atEngine atList
  have last : x.run (acts ++ [a]) = y' := by
    rw [run_concat, next, happens]
    rfl
  exact ⟨acts ++ [a], by rwa [last]⟩

lemma leads_begin {under : Token} (free : x.isFree under = true) :
    x.Leads (x.engine.childOf under).2
      (x.list ++ [{ scope := (x.engine.childOf under).1 }]) := by
  refine ⟨[.begin under], ?_⟩
  simp [run, next, Exchanges.act, free]

lemma Leads.invoke (h : x.Leads engine list) {q : Exchange} (there : q ∈ list)
    (invokes : engine.Invokes q.scope engine') : x.Leads engine' list := by
  obtain ⟨i, there⟩ := List.mem_iff_getElem?.mp there
  obtain ⟨tool, requestId, args, handler, rfl⟩ := invokes
  refine h.act (.invoke i tool requestId args handler) ?_
  rintro y rfl rfl
  exact ⟨_, Option.map_eq_some_iff.mpr ⟨q, there, rfl⟩, rfl, rfl⟩

lemma Leads.close (h : x.Leads engine list) {i : ℕ} {q : Exchange} (there : list[i]? = some q) :
    x.Leads (engine.fire q.scope) (list.set i { q with isOver := true }) := by
  refine h.act (.close i) ?_
  rintro y rfl rfl
  exact ⟨_, Option.map_eq_some_iff.mpr ⟨q, there, rfl⟩, rfl, rfl⟩

/-- What is about no token happens in the executor only. -/
lemma leads_stable (x : Exchanges) (list : List Exchange) :
    Engine.Stable fun engine => x.Leads engine list := by
  intro engine engine' a quiet h happens
  refine h.act (.execute a) ?_
  rintro y rfl rfl
  have admitted : a.token?.all y.isFree = true := by rw [quiet]; rfl
  exact ⟨_, (if_pos admitted).trans (Option.map_eq_some_iff.mpr ⟨engine', happens, rfl⟩), rfl, rfl⟩

end Execution.Exchanges

/-- The token that is fired when a body is given up. -/
def Http.Body.scope? : Http.Body → Option Token
  | .whole _ => none
  | .events _ scope _ => some scope

@[simp] lemma Http.Body.scope?_whole (bytes : Text.Bytes) : (whole bytes).scope? = none := rfl

@[simp] lemma Http.Body.scope?_events (run : ℕ) (scope : Token) (id : String) :
    (events run scope id).scope? = some scope := rfl

/-- Whether some actions lead to an executor in which no other request is under way than
before, but for one whose response has some body. Its events are those of an invocation
below the token of the request. -/
def Execution.Exchanges.Serves (x : Exchanges) (engine : Engine) (body : Option Http.Body) :
    Prop :=
  ∃ list, x.Leads engine list ∧ x.list <+: list ∧
    Exchanges.pending list
      = Exchanges.pending x.list ++ (body.bind Http.Body.scope?).toList ∧
    ∀ run scope id, body = some (.events run scope id) →
      ∃ r, engine.runs[run]? = some r ∧ scope.covers r.caller = true

lemma Execution.Exchanges.serves_idle {x : Exchanges} (bytes : Text.Bytes) :
    x.Serves x.engine (some (.whole bytes)) :=
  ⟨x.list, .refl x, List.prefix_rfl, by simp, by simp⟩

namespace Server

open ToolServer.Execution.Exchanges (leads_begin leads_stable pending serves_idle)
open ToolServer.Http (Route StreamFault streamTarget)

variable {σ : Type} [ResultCache σ] {s : Server σ} {x : Exchanges}

/-- A message is answered below its caller. -/
lemma leads_response {list : List Exchange} {q : Exchange}
    (h : x.Leads s.engine list) (there : q ∈ list) (body : Text.Bytes) :
    x.Leads (s.response body q.scope).1.engine list := by
  have received : x.Leads (s.receive body q.scope).1.engine list := by
    rcases s.receive_engine body q.scope with same | invokes
    · rwa [same]
    · exact h.invoke there invokes
  have stable := leads_stable x list
  have awaited : x.Leads (s.responses [body] q.scope).1.engine list := by
    rw [responses, List.foldl_cons, List.foldl_nil]
    dsimp only
    generalize s.receive body q.scope = reply at received
    exact stable.of_server
      (does_await (does_pursueAll fun _ => trivial) reply.1 [] _) received
  rw [response]
  generalize s.responses [body] q.scope = found at awaited
  exact awaited

variable {shutdown : Token}

/-- A message begins a request below the token that stops the service, and ends it. -/
lemma serves_message (same : s.engine = x.engine) (free : x.isFree shutdown = true)
    (body : Text.Bytes) :
    x.Serves (s.serveMessage body shutdown).1.engine
      ((s.serveMessage body shutdown).2.map Http.Response.body) := by
  generalize begun : s.engine.childOf shutdown = child
  obtain ⟨scope, engine⟩ := child
  have started : x.Leads engine (x.list ++ [Exchange.mk scope false]) := by
    have leads := leads_begin free
    rwa [← same, begun] at leads
  have answered := leads_response (s := { s with engine }) (q := { scope }) started (by simp) body
  rw [serveMessage, begun]
  dsimp only at answered ⊢
  generalize { s with engine }.response body scope = done at answered
  obtain ⟨s', found⟩ := done
  refine ⟨_, answered.close (i := x.list.length) List.getElem?_concat_length, ?_, ?_, ?_⟩
  · simp
  · rcases found with _ | _ | response <;> simp [pending, Http.document, Http.empty]
  · rcases found with _ | _ | response <;> simp [Http.document, Http.empty]

omit [ResultCache σ] in
/-- A request for the events of a tool begins a request, which lasts as long as the body of
its response. -/
lemma serves_stream (same : s.engine = x.engine) (free : x.isFree shutdown = true)
    (tool : Option String) (body : Text.Bytes) :
    x.Serves (s.serveStream tool body shutdown).1.engine
      (some (s.serveStream tool body shutdown).2.body) := by
  rw [serveStream]
  split
  · rw [same]
    exact serves_idle _
  · next name args target =>
      generalize begun : s.engine.childOf shutdown = child
      obtain ⟨scope, engine⟩ := child
      have started : x.Leads engine (x.list ++ [Exchange.mk scope false]) := by
        have leads := leads_begin free
        rwa [← same, begun] at leads
      dsimp only
      split
      · next run s' accepted =>
          obtain ⟨invokes, r, there, caller⟩ := stream_engine accepted
          refine ⟨_, started.invoke (q := { scope }) (by simp) invokes, ?_, ?_, ?_⟩
          · simp
          · simp [pending]
          · rintro run' scope' id' events
            obtain ⟨rfl, rfl, rfl⟩ := Http.Body.events.inj (Option.some.inj events)
            exact ⟨r, there, by rw [caller]; exact Token.covers_child (Token.covers_self _) _⟩
      · rw [same]
        exact serves_idle _

/-- The body of a response stays as it is on its way out, unless only the head was asked
for. -/
lemma serves_finish {engine : Engine} {response : Option Http.Response} {origins : List String}
    {r : Http.Request} (h : x.Serves engine (response.map Http.Response.body))
    (kept : r.method ≠ "HEAD" ∨ ∀ found ∈ response, found.body.scope? = none) :
    x.Serves engine ((response.map (Http.finish origins r)).map Http.Response.body) := by
  cases response with
  | none => exact h
  | some found =>
      by_cases head : r.method = "HEAD"
      · have whole := kept.resolve_left (not_not.mpr head) found rfl
        have body : (Http.finish origins r found).body = .whole [] := if_pos head
        obtain ⟨list, leads, more, ended, -⟩ := h
        refine ⟨list, leads, more, ?_, by simp [body]⟩
        simpa [body, whole] using ended
      · have body : (Http.finish origins r found).body = found.body := if_neg head
        rwa [Option.map_some, Option.map_some, body]

/-- What a route makes of a request that has one of its methods. -/
lemma serves_route (same : s.engine = x.engine) (free : x.isFree shutdown = true)
    (config : HttpConfig) (r : Http.Request) (route : Route) :
    x.Serves (s.serveRoute config shutdown r route).1.engine
      ((s.serveRoute config shutdown r route).2.map Http.Response.body) := by
  have idle (bytes : Text.Bytes) : x.Serves s.engine (some (.whole bytes)) :=
    same ▸ serves_idle bytes
  cases route with
  | health => exact idle _
  | message =>
      rw [serveRoute]
      split_ifs
      · exact idle _
      · exact serves_message same free r.body
  | stream =>
      rw [serveRoute]
      split
      · exact idle _
      · split_ifs
        · exact idle _
        · exact serves_stream same free _ r.body

/-- **Every request over HTTP is a list of actions.** What it has begun has ended with its
response, but for the body. -/
theorem serves_request (same : s.engine = x.engine) (free : x.isFree shutdown = true)
    (config : HttpConfig) (r : Http.Request) :
    x.Serves (s.serveRequest config shutdown r).1.engine
      ((s.serveRequest config shutdown r).2.map Http.Response.body) := by
  have idle (status : ℕ) : x.Serves s.engine
      (((some (Http.empty status)).map (Http.finish config.allowedOrigins r)).map
        Http.Response.body) :=
    serves_finish (same ▸ serves_idle []) (.inr (by simp [Http.empty]))
  rw [serveRequest]
  split_ifs with options
  · exact idle 200
  · cases Route.ofPath? r.path with
    | none => exact idle 404
    | some route =>
        dsimp only
        split_ifs with admits
        · refine serves_finish (serves_route same free config r route) ?_
          cases route with
          | health => exact .inr (by simp [serveRoute, Http.document])
          | message | stream =>
              left
              rw [of_decide_eq_true admits]
              decide
        · exact idle 405

/-- Reading a body begins and ends no request. -/
lemma leads_nextFrame (same : s.engine = x.engine) (body : Http.Body) :
    x.Leads (s.nextFrame body).1.engine x.list := by
  have start : x.Leads s.engine x.list := same ▸ .refl x
  rcases body with (_ | _) | ⟨run, scope, id⟩
  · exact start
  · exact start
  · have does : s.Does (fun _ => True) (s.nextEvent run).1 := s.does_nextEvent trivial
    have asked := (leads_stable x x.list).of_server does start
    rw [nextFrame]
    generalize s.nextEvent run = found at asked
    exact asked

omit [ResultCache σ] in
/-- **Giving a body up ends its own request and no other.** -/
theorem leads_closeBody (same : s.engine = x.engine) {i : ℕ} {q : Exchange}
    (there : x.list[i]? = some q) (run : ℕ) (id : String) :
    x.Leads (s.closeBody (.events run q.scope id)).engine
      (x.list.set i { q with isOver := true }) := by
  have start : x.Leads s.engine x.list := same ▸ .refl x
  have dropped : s.engine.Does (fun _ => True) (s.engine.drop run) := s.engine.does_drop trivial
  exact ((leads_stable x x.list).of_does dropped start).close there

end Server

/-! ### Cancellation -/

/-- Whether everything that a server does over HTTP in an executor is a list of actions. -/
structure Execution.Exchanges.Hosts {σ : Type} [ResultCache σ] (x : Exchanges) (s : Server σ) :
    Prop where
  /-- A request below a token that is held elsewhere begins at most one request, which has
  ended with the response unless the body is still to come. -/
  request : ∀ (config : HttpConfig) (shutdown : Token) (r : Http.Request),
    x.isFree shutdown = true → x.Serves (s.serveRequest config shutdown r).1.engine
      ((s.serveRequest config shutdown r).2.map Http.Response.body)
  /-- Reading a body begins and ends nothing. -/
  frame : ∀ body : Http.Body, x.Leads (s.nextFrame body).1.engine x.list
  /-- Giving a body up ends its own request. -/
  close : ∀ (i run : ℕ) (id : String) (q : Exchange), x.list[i]? = some q →
    x.Leads (s.closeBody (.events run q.scope id)).engine (x.list.set i { q with isOver := true })

/-- **Cancellation comes from above.** At any time the context of an invocation that is not
over is cancelled exactly if the token of its caller is, or its own deadline has gone off;
once it is over, its context is cancelled. Neither an invocation nor the end of a request
cancels anything above itself or beside itself, whatever tokens they share. The requests of
a service over HTTP are such requests, up to the end of their bodies. -/
theorem cancellation_comes_from_above (config : ExecutorConfig)
    (acts : List Exchanges.Action) :
    let x := (Exchanges.new config).run acts
    x.Lawful ∧ x.Confined ∧ x.engine.config = config ∧
      (∀ name, x.isFree (.named name) = true) ∧
      ∀ (σ : Type) [ResultCache σ] (s : Server σ), s.engine = x.engine → x.Hosts s := by
  have sound := Exchanges.sound_run config acts
  refine ⟨sound.lawful, sound.confined, Exchanges.config_run config acts,
    Exchanges.isFree_named config acts, fun σ _ s same => ?_⟩
  exact
    { request := fun web _ r free => s.serves_request same free web r
      frame := s.leads_nextFrame same
      close := fun _ run id _ there => s.leads_closeBody same there run id }

end ToolServer
