/-
Messages that are refused:

* `RpcError.Refuses`, `Response.IsRefusal`: an error that says that a message cannot be
  read, is no request, or asks for what there is not, and a response with such an error;
* `answer_of_refuses`: what is refused is refused before anything is done;
* `code_of_underWay`: a call that has been started is never refused any more;
* `Server.openStream`: the start of a stream, step by step, each step changing the
  server at once; `openStream_run` says that it is the start of a stream;
* `refusals_change_nothing`: a message that is refused, or a stream, leaves the server
  as it was.

Nothing is said about what was wrong with the message; that is a matter of `Handled`.
-/
import ToolServer.Proofs.Server.Responses

namespace ToolServer

open ToolServer.Execution (Token)

/-! ### Refusals -/

/-- Whether an error says that a message cannot be read, is no request, asks for a
method that there is not, or has parameters that do not fit. -/
def RpcError.Refuses (e : RpcError) : Prop :=
  e.code ∈ [-32700, -32600, -32601, -32602]

/-- Whether a response carries such an error. -/
def Response.IsRefusal (r : Response) : Prop :=
  ∃ e, r.error = some e ∧ e.Refuses

lemma Response.isRefusal_ofResult {id : Option RequestId} {outcome : Except RpcError Json} :
    (Response.ofResult id outcome).IsRefusal ↔ ∃ e, outcome = .error e ∧ e.Refuses := by
  cases outcome <;> simp [IsRefusal, ofResult, success, failure]

/-- A refusal that answers a request comes from a refused outcome. -/
lemma refused_of_respond {id : Option RequestId} {outcome : Except RpcError Json} {r : Response}
    (answered : respond id outcome = some r) (refusal : r.IsRefusal) :
    ∃ e, outcome = .error e ∧ e.Refuses := by
  obtain ⟨id, -, rfl⟩ := Option.map_eq_some_iff.mp answered
  exact Response.isRefusal_ofResult.mp refusal

/-! ### Before anything is done -/

namespace Server

variable {σ : Type} [ResultCache σ]

/-- A call that fails at once has not been started: a result that is found is no
failure. -/
lemma callTool_of_error {s : Server σ} {params : Json} {caller : Token} {e : RpcError}
    (failed : (s.callTool params caller).2 = .ready (.error e)) :
    (s.callTool params caller).1 = s := by
  rw [callTool] at failed ⊢
  split at failed
  · rfl
  · dsimp only at failed
    split_ifs at failed
    · rw [invokeCached] at failed
      split at failed <;> cases failed
    · cases failed

/-- **What fails at once changes nothing.** -/
lemma answer_of_error {s : Server σ} {method : String} {params : Json} {caller : Token}
    {e : RpcError} (failed : (s.answer method params caller).2 = .ready (.error e)) :
    (s.answer method params caller).1 = s := by
  rw [answer] at failed ⊢
  split_ifs at failed ⊢ with _ _ _ called
  all_goals first | rfl | exact callTool_of_error failed

/-! ### After a call has been started -/

omit [ResultCache σ] in
/-- A call whose invocation has ended with a failure tells that the server has failed. -/
lemma code_of_read {c : Call} {event : Event} {e : RpcError} (h : c.read event = .inr (.error e)) :
    e.code = -32603 := by
  cases event with
  | error message retryable =>
      obtain rfl := Except.error.inj (Sum.inr.inj h)
      rfl
  | start | data | progress | done => cases h

lemma code_of_advanceCall {fuel : ℕ} {s : Server σ} {c : Call} {e : RpcError}
    (h : (advanceCall fuel s c).2 = .inr (.error e)) : e.code = -32603 := by
  induction fuel generalizing s c with
  | zero => cases h
  | succ fuel ih =>
      rw [advanceCall] at h
      split at h
      · cases h
      · obtain rfl := Except.error.inj (Sum.inr.inj h)
        rfl
      · split at h
        · exact ih h
        · next read =>
            obtain rfl := Sum.inr.inj h
            exact code_of_read read

end Server

/-- **A call that has been started is never refused any more**, whatever the server
does until the response is there. -/
lemma code_of_underWay {σ : Type} [ResultCache σ] {reply : Reply} {id : Option RequestId}
    {call : Call} {response : Option Response} (h : reply.ComesTo σ response)
    (underWay : reply = .underWay id call) :
    ∃ outcome, response = respond id outcome ∧ ∀ e, outcome = .error e → e.code = -32603 := by
  induction h generalizing call with
  | ready response => cases underWay
  | @pursued id' call' response s later ih =>
      obtain ⟨rfl, rfl⟩ := Reply.underWay.inj underWay
      rcases resumed : s.resume call' with ⟨s', call'' | outcome⟩
      · exact @ih call'' (by rw [Server.pursue, resumed])
      · have pursued : (s.pursue (.underWay id' call')).2 = .ready (respond id' outcome) := by
          rw [Server.pursue, resumed]
        rw [pursued] at later
        cases later
        refine ⟨outcome, rfl, ?_⟩
        rintro e rfl
        exact Server.code_of_advanceCall (congrArg Prod.snd resumed)

/-! ### Messages -/

/-- A reply that is there comes to nothing else. -/
lemma Reply.ComesTo.eq_of_ready {σ : Type} [ResultCache σ] {response response' : Option Response}
    (h : (Reply.ready response).ComesTo σ response') : response' = response := by
  cases h
  rfl

namespace Server

variable {σ : Type} [ResultCache σ]

/-- A request that is refused is refused at once, and nothing has been done. -/
lemma handle_of_refused {s : Server σ} {request : Request} {caller : Token} {r : Response}
    (come : (s.handle request caller).2.ComesTo σ (some r)) (refusal : r.IsRefusal) :
    s.handle request caller = (s, .ready (some r)) := by
  rw [handle] at come ⊢
  split_ifs at come ⊢ with version
  · rw [come.eq_of_ready]
  · rcases answered : s.answer request.method (request.params.getD .null) caller
      with ⟨s', outcome | call⟩
    · rw [answered] at come
      have given : some r = respond request.id outcome := come.eq_of_ready
      obtain ⟨e, rfl, -⟩ := refused_of_respond given.symm refusal
      have same := answer_of_error (congrArg Prod.snd answered)
      rw [answered] at same
      obtain rfl : s' = s := same
      rw [given]
    · rw [answered] at come
      obtain ⟨outcome, given, failed⟩ := code_of_underWay come rfl
      obtain ⟨e, rfl, refuses⟩ := refused_of_respond given.symm refusal
      simp [RpcError.Refuses, failed e rfl] at refuses

/-- **A message that is refused is refused at once, and nothing has been done.** -/
theorem receive_of_refused {s : Server σ} {data : Text.Bytes} {caller : Token} {r : Response}
    (come : (s.receive data caller).2.ComesTo σ (some r)) (refusal : r.IsRefusal) :
    s.receive data caller = (s, .ready (some r)) := by
  rw [receive] at come ⊢
  split at come
  · rw [come.eq_of_ready]
  · exact handle_of_refused come refusal

/-- A response that is there is not waited for. -/
lemma await_of_ready (s : Server σ) (alarms : List ℕ) (response : Option Response) :
    s.await alarms [.ready response] pursueAll = (s, some [response]) := by
  rw [await, show Execution.patience = 999999999 + 1 from rfl, awaitWithin]
  rfl

/-- The response to a message is one that its reply comes to. -/
lemma comesTo_of_response {s : Server σ} {data : Text.Bytes} {caller : Token}
    {response : Option Response} (given : (s.response data caller).2 = some response) :
    (s.receive data caller).2.ComesTo σ response := by
  obtain ⟨all, answered, rfl⟩ := exists_responses given
  have come : List.Forall₂ (Reply.ComesTo σ) [(s.receive data caller).2] all :=
    comesTo_of_await answered
  cases come with
  | cons first rest =>
      cases rest
      exact first

/-- A message that is refused is answered in the state in which it comes. -/
lemma response_of_refused {s : Server σ} {data : Text.Bytes} {caller : Token} {r : Response}
    (given : (s.response data caller).2 = some (some r)) (refusal : r.IsRefusal) :
    (s.response data caller).1 = s := by
  have received := receive_of_refused (comesTo_of_response given) refusal
  simp only [response, responses, List.foldl_cons, List.foldl_nil, received, List.nil_append,
    await_of_ready]

/-! ### Streams -/

/-- The start of a stream, step by step: what one step changes is changed also if a
later one fails. -/
def openStream (tool : String) (args : Json) (requestId : String) (caller : Token) :
    StateM (Server σ) (Except RpcError ℕ) := do
  let s : Server σ ← get
  match s.tools.get? tool with
  | none => return .error (.invalidParams s!"tool not found: {tool}")
  | some t =>
    if t.streaming then
      let scope ← modifyGet fun s : Server σ =>
        ((s.engine.childOf caller).1, { s with engine := (s.engine.childOf caller).2 })
      let run ← modifyGet fun s : Server σ =>
        let (run, engine) := s.engine.submit t.name requestId args scope t.handler
        (run, { s with engine })
      return .ok run
    else return .error (.invalidParams s!"tool '{tool}' does not support streaming")

omit [ResultCache σ] in
/-- **The steps make up the start of a stream**, and one that fails changes nothing. -/
lemma openStream_run (s : Server σ) (tool : String) (args : Json) (requestId : String)
    (caller : Token) :
    (openStream tool args requestId caller).run s
      = match s.stream tool args requestId caller with
        | .ok (run, s') => (.ok run, s')
        | .error e => (.error e, s) := by
  cases found : s.tools.get? tool with
  | none =>
      simp only [openStream, stream, StateT.run_bind, StateT.run_get, pure_bind, found]
      rfl
  | some t =>
      cases streams : t.streaming <;>
      · simp only [openStream, stream, StateT.run_bind, StateT.run_get, pure_bind, found, streams]
        rfl

end Server

/-- **Refusals change nothing.** Whatever the state of the server:

* a message whose response says that it cannot be read, is no request, asks for a
  method that there is not or has parameters that do not fit is answered at once, and
  the server is left as it was: no credentials have been checked, nothing has been
  looked up, no invocation has been started and nothing has been counted;
* so it is if the message is attended to alone and its response waited for;
* so it is with a stream that is refused, whatever has been done on the way.

This holds of every response that a message may come to while the server does
something else, so a call that has been started is never answered in this way. -/
theorem refusals_change_nothing {σ : Type} [ResultCache σ] (s : Server σ) (caller : Token) :
    (∀ data r, (s.receive data caller).2.ComesTo σ (some r) → r.IsRefusal →
        s.receive data caller = (s, .ready (some r)))
    ∧ (∀ data r, (s.response data caller).2 = some (some r) → r.IsRefusal →
        (s.response data caller).1 = s)
    ∧ ∀ tool args requestId e s',
        (Server.openStream tool args requestId caller).run s = (.error e, s') →
        s' = s ∧ s.stream tool args requestId caller = .error e := by
  refine ⟨fun data r => Server.receive_of_refused, fun data r => Server.response_of_refused, ?_⟩
  intro tool args requestId e s' opened
  rw [Server.openStream_run] at opened
  split at opened
  · cases opened
  · next failed =>
      obtain ⟨⟨⟩, rfl⟩ := Prod.mk.inj opened
      exact ⟨rfl, failed⟩

/-- A call of a tool that there is not, with credentials. -/
def strayCall : Json :=
  .object [("id", .ofNat 7), ("jsonrpc", .string "2.0"), ("method", .string "tools/call"),
    ("params", .object [("_meta", .object [("credentials", .string "secret")]),
      ("name", .string "absent")])]

/-- A server with one tool, whose results are kept, and a check of credentials. -/
def guardedServer : Server Cache.Backend :=
  { bareServer with
    tools := ⟨[{ name := "echo", description := "", parameters := [], streaming := false,
                 caching := { cacheable := true }, handler := fun args => .done (.ok args) }]⟩
    validator := some fun _ _ => .error "unknown" }

lemma strayCall_read : Json.read (Text.bytesOf strayCall.text) = .ok strayCall :=
  Json.read_text ⟨rfl, trivial, trivial, ⟨⟨trivial, trivial⟩, trivial, trivial⟩, trivial⟩ (by decide)

lemma strayCall_response :
    (guardedServer.response (Text.bytesOf strayCall.text) (.named "")).2
      = some (some (.failure (some (.number 7)) (.invalidParams "tool not found: absent"))) := by
  have request : readRequest (Text.bytesOf strayCall.text)
      = .ok (.new (.number 7) "tools/call"
          (some (.object [("_meta", .object [("credentials", .string "secret")]),
            ("name", .string "absent")]))) := by
    rw [readRequest, strayCall_read]
    rfl
  have received : guardedServer.receive (Text.bytesOf strayCall.text) (.named "")
      = (guardedServer, .ready
          (some (.failure (some (.number 7)) (.invalidParams "tool not found: absent")))) := by
    rw [Server.receive, request]
    rfl
  simp only [Server.response, Server.responses, List.foldl_cons, received]
  rfl

theorem refusals_change_nothing_stray :
    let data := Text.bytesOf strayCall.text
    ∃ r, guardedServer.response data (.named "") = (guardedServer, some (some r)) ∧
      r.IsRefusal := by
  intro data
  have refusal : (Response.failure (some (.number 7))
      (.invalidParams "tool not found: absent")).IsRefusal :=
    ⟨_, rfl, by simp [RpcError.Refuses, RpcError.invalidParams]⟩
  have same := (refusals_change_nothing guardedServer (.named "")).2.1 data _
    strayCall_response refusal
  exact ⟨_, Prod.ext same strayCall_response, refusal⟩

end ToolServer
