/-
Requests for the events of a tool:

* `Http.objectIn?`: the arguments in a body, if there are any;
* `Http.streamChecks`, `Http.firstFault?`: what is checked of such a request, in this
  order, and the code of the first check that fails;
* `streamTarget_ok`, `streamTarget_error`: a request has a tool and arguments if no check
  fails, and is refused with the code of the first one that does;
* `Server.queued`: a server with one more invocation;
* `Shows`, `readFrames_reaches`: the pieces of a body are what the reader of its invocation
  gets, as blocks with the identifier of the request;
* `streams_or_refuses`: a request starts one invocation of its tool and is answered with
  its events, or changes nothing and is answered with one event that names the check.

The checks are made twice, once for the request and once when the invocation is started.
Both know the same tools, so nothing fails the second time.
-/
import ToolServer.Proofs.Event.ReadBack
import ToolServer.Proofs.Http.Exchanges
import ToolServer.Proofs.Server.Collected

namespace ToolServer

open ToolServer.Execution (Engine Run Timeline Token readings)
open ToolServer.Text (Bytes bytesOf)

/-! ### Checks -/

namespace Http

/-- The arguments in a body: the object in it, which may be left out. -/
def objectIn? (body : Bytes) : Option Json :=
  if body.all isBlankByte then some (.object [])
  else match Json.read body with
    | .ok (.object members) => some (.object members)
    | _ => none

/-- What is checked of a request for the events of a tool, each check with its code. -/
def streamChecks (tools : Tool.Registry) (tool : Option String) (body : Bytes) :
    List (String × Bool) :=
  [("invalid_request", (objectIn? body).isSome),
   ("missing_tool", tool.any (!·.isEmpty)),
   ("tool_not_found", (tool.bind tools.get?).isSome),
   ("not_streaming", (tool.bind tools.get?).any (·.streaming))]

/-- The code of the first check that fails. -/
def firstFault? (checks : List (String × Bool)) : Option String :=
  (checks.find? (!·.2)).map (·.1)

lemma argumentsOf_cases (body : Bytes) :
    (∃ args, objectIn? body = some args ∧ argumentsOf body = .ok args) ∨
      objectIn? body = none ∧ ∃ detail, argumentsOf body = .error (.invalidArguments detail) := by
  rw [objectIn?, argumentsOf]
  split_ifs
  · exact .inl ⟨_, rfl, rfl⟩
  · split
    · next read => exact .inl ⟨_, rfl, by rw [read]⟩
    · next other =>
        refine .inr ⟨rfl, ?_⟩
        split
        · next members read => exact absurd read (other members)
        · exact ⟨_, rfl⟩
        · exact ⟨_, rfl⟩

/-- **A request that passes all checks has a tool and arguments**, and one that does not is
refused with the code of the first check that fails. -/
lemma streamTarget_cases (tools : Tool.Registry) (tool : Option String) (body : Bytes) :
    (∃ name args t, tool = some name ∧ objectIn? body = some args ∧ tools.get? name = some t ∧
        t.streaming = true ∧ firstFault? (streamChecks tools tool body) = none ∧
        streamTarget tools tool body = .ok (name, args)) ∨
      ∃ fault, firstFault? (streamChecks tools tool body) = some fault.code ∧
        streamTarget tools tool body = .error fault := by
  obtain ⟨args, object, read⟩ | ⟨missing, detail, read⟩ := argumentsOf_cases body
  · rw [streamTarget, read, streamChecks, object]
    simp only [bind, Except.bind]
    cases tool with
    | none => exact .inr ⟨.missingTool, rfl, rfl⟩
    | some name =>
        rw [Option.filter_some, Option.any_some]
        cases empty : name.isEmpty with
        | true => exact .inr ⟨.missingTool, rfl, rfl⟩
        | false =>
            rw [Bool.not_false, if_pos rfl, Option.bind_some]
            dsimp only
            cases found : tools.get? name with
            | none => exact .inr ⟨.unknownTool name, rfl, rfl⟩
            | some t =>
                dsimp only [Option.isSome_some, Option.any_some]
                cases streams : t.streaming with
                | false => exact .inr ⟨.notStreaming name, rfl, rfl⟩
                | true => exact .inl ⟨name, args, t, rfl, rfl, found, streams, rfl, rfl⟩
  · refine .inr ⟨.invalidArguments detail, ?_, ?_⟩
    · rw [streamChecks, missing]
      rfl
    · rw [streamTarget, read]
      rfl

end Http

/-! ### Invocations and their events -/

namespace Server

open ToolServer.Http

variable {σ : Type}

/-- The invocation of a tool that a request starts: below a token of its own, which is below
that of the request. -/
def streamRun (s : Server σ) (shutdown : Token) (t : Tool.Definition) (args : Json) : Run :=
  let caller := Token.child (.child shutdown s.engine.children) (s.engine.children + 1)
  { tool := t.name, requestId := madeUpId, args, caller,
    scope := .child caller (s.engine.children + 2), body := t.handler args }

/-- A server with one more invocation, which waits for its turn. -/
def queued (s : Server σ) (r : Run) : Server σ :=
  { s with
    engine := { s.engine with
      runs := s.engine.runs ++ [r]
      children := s.engine.children + 3
      counters := { s.engine.counters with total := s.engine.counters.total + 1 } } }

lemma serveStream_ok {s : Server σ} {tool : Option String} {body : Bytes} {name : String}
    {args : Json} {t : Tool.Definition} (shutdown : Token)
    (target : streamTarget s.tools tool body = .ok (name, args))
    (found : s.tools.get? name = some t) (streams : t.streaming = true) :
    s.serveStream tool body shutdown
      = (s.queued (s.streamRun shutdown t args),
        ⟨200, streamHeaders,
          .events s.engine.runs.length (.child shutdown s.engine.children)
            (s.streamRun shutdown t args).requestId⟩) := by
  have started : ({ s with engine := (s.engine.childOf shutdown).2 } : Server σ).stream name args
      madeUpId (s.engine.childOf shutdown).1
        = .ok (s.engine.runs.length, s.queued (s.streamRun shutdown t args)) := by
    simp only [stream, found, streams, Bool.not_true, Bool.false_eq_true, if_false]
    rfl
  rw [serveStream, target]
  dsimp only
  rw [started]
  rfl

variable [ResultCache σ]

/-- The piece of a body for what its reader gets: a block with an identifier, or the end. -/
def frame? (id : String) : Engine.Reading → Option (Option Bytes)
  | .event e => some (some (bytesOf (e.block id)))
  | .ended => some none
  | .pending => none

/-- Whether the pieces of a body, up to a number and up to its end, are what its reader got. If
there are no such pieces the reader has found nothing in the end. -/
def Shows (id : String) (count : ℕ) (got : List Engine.Reading) :
    Option (List (Option Bytes)) → Prop
  | some frames => frames = got.filterMap (frame? id) ∧
      (frames.length = count ∨ frames.getLast? = some none)
  | none => got.getLast? = some .pending

/-- A reader that has waited shows what it got in the end. -/
lemma filterMap_waited (id : String) (k : ℕ) (got : Engine.Reading) :
    (List.replicate k Engine.Reading.pending ++ [got]).filterMap (frame? id)
      = (frame? id got).toList := by
  have waited : (List.replicate k Engine.Reading.pending).filterMap (frame? id) = [] :=
    List.filterMap_eq_nil_iff.mpr fun got among => by rw [List.eq_of_mem_replicate among]; rfl
  rw [List.filterMap_append, waited, List.nil_append]
  cases frame : frame? id got <;> simp [frame]

/-- What a reader gets after it has waited for its first piece. -/
lemma Shows.cons {id : String} {count : ℕ} {got : List Engine.Reading} (k : ℕ) (e : Event)
    {frames : Option (List (Option Bytes))} (h : Shows id count got frames) :
    Shows id (count + 1) ((List.replicate k .pending ++ [.event e]) ++ got)
      (frames.map (some (bytesOf (e.block id)) :: ·)) := by
  cases frames with
  | none =>
      have last : got.getLast? = some .pending := h
      simp [Shows, List.getLast?_append, List.getLast?_cons, last]
  | some frames =>
      obtain ⟨eq, bound⟩ := h
      refine ⟨?_, bound.imp (congrArg Nat.succ) fun last => ?_⟩
      · rw [eq, List.filterMap_append, filterMap_waited]
        rfl
      · simp [List.getLast?_cons, last]

/-- **The pieces of a body are what the reader of its invocation gets**, each event as a block
with the identifier of the body, up to the end. -/
lemma readFrames_reaches (count : ℕ) (s : Server σ) {run : ℕ} (scope : Token) (id : String)
    (there : run < s.engine.runs.length) (apart : ∀ c ∈ s.orphans, c.run ≠ run) :
    ∃ acts, (∀ a ∈ acts, a.IsQuiet fun _ => True)
      ∧ (Timeline.run s.engine acts).now = (s.readFrames count (.events run scope id)).1.engine
      ∧ (s.readFrames count (.events run scope id)).2.1 = .events run scope id
      ∧ Shows id count (readings run (Timeline.run s.engine acts).past)
        (s.readFrames count (.events run scope id)).2.2 := by
  induction count generalizing s with
  | zero => exact ⟨[], by simp, rfl, rfl, rfl, .inl rfl⟩
  | succ count ih =>
      obtain ⟨k, acts, awaits, waited⟩ := s.nextEvent_reaches there apart
      rw [readFrames, nextFrame]
      generalize s.nextEvent run = next at awaits waited
      obtain ⟨s', _ | _ | e⟩ := next
      · refine ⟨acts, awaits.quiet, awaits.now, rfl, ?_⟩
        rw [awaits.readings_eq]
        simp [Shows, seen, List.getLast?_replicate, (waited rfl).ne']
      · refine ⟨acts, awaits.quiet, awaits.now, rfl, ?_⟩
        rw [awaits.readings_eq]
        exact ⟨(filterMap_waited id k .ended).symm, .inr rfl⟩
      · have does : s.engine.Does (fun _ => True) s'.engine := ⟨acts, awaits.quiet, awaits.now⟩
        have there' : run < s'.engine.runs.length := does.length.symm ▸ there
        obtain ⟨more, quiet, now, same, shows⟩ := ih s' there' awaits.apart
        refine ⟨acts ++ more, ?_, ?_, same, ?_⟩
        · exact fun a among => (List.mem_append.mp among).elim (awaits.quiet a) (quiet a)
        · rw [Timeline.run_append, awaits.now]
          exact now
        · rw [readings_append, awaits.readings_eq, awaits.now]
          exact shows.cons k e

/-! ### Requests -/

/-- A response with the events of an invocation that a request has started. -/
structure Opens (s s' : Server σ) (shutdown : Token) (t : Tool.Definition) (args : Json)
    (body : Body) : Prop where
  /-- The invocation is all that is new. -/
  server : s' = s.queued (s.streamRun shutdown t args)
  /-- The body belongs to it, and has the identifier of its request. -/
  events : body = .events s.engine.runs.length (.child shutdown s.engine.children)
    (s.streamRun shutdown t args).requestId
  /-- Whenever it is read, the pieces of the body are what the reader of the invocation gets,
  each event as a block with that identifier, as long as nobody else reads it. The body stays
  the same. -/
  pieces : ∀ later : Server σ, s.engine.runs.length < later.engine.runs.length →
    (∀ c ∈ later.orphans, c.run ≠ s.engine.runs.length) → ∀ count,
    ∃ acts, (∀ a ∈ acts, a.IsQuiet fun _ => True)
      ∧ (Timeline.run later.engine acts).now = (later.readFrames count body).1.engine
      ∧ (later.readFrames count body).2.1 = body
      ∧ Shows (s.streamRun shutdown t args).requestId count
        (readings s.engine.runs.length (Timeline.run later.engine acts).past)
        (later.readFrames count body).2.2
  /-- Each block is read as one message, with the same identifier. -/
  messages : ∀ (e : Event) (rest : List Char), let id := (s.streamRun shutdown t args).requestId
    EventStream.messagesFrom {} (EventStream.lines ((e.block id).toList ++ rest))
      = ⟨some e.kind.name, some id, e.payload.text⟩
        :: EventStream.messagesFrom {} (EventStream.lines rest)

/-- A response to a request that has been refused: one event, with a code as its
identifier. -/
structure RefusesStream (s s' : Server σ) (code : String) (body : Body) : Prop where
  server : s' = s
  event : ∃ message, body = .whole (bytesOf ((Event.error message false).block code)) ∧
    EventStream.messages ((Event.error message false).block code)
      = [⟨some "error", some code, (Event.error message false).payload.text⟩]

/-- The block of an event is read as one message. -/
lemma messages_event (e : Event) {id : String} (unbroken : EventStream.Unbroken id.toList)
    (named : id ≠ "") (rest : List Char) :
    EventStream.messagesFrom {} (EventStream.lines ((e.block id).toList ++ rest))
      = ⟨some e.kind.name, some id, e.payload.text⟩
        :: EventStream.messagesFrom {} (EventStream.lines rest) := by
  rw [Event.block, EventStream.messages_block (EventStream.sound_ofEvent e unbroken),
    EventStream.messageOf_ofEvent, EventStream.messageOfEvent, if_neg named]

/-- A request for the events of a tool that a route has taken in. -/
lemma serveRequest_stream {s : Server σ} {config : HttpConfig} {shutdown : Token} {r : Http.Request}
    {tool : Option String} (method : r.method = "POST") (path : r.path = "/stream")
    (query : formField "tool" (formFields (r.query?.getD "")) = .ok tool)
    (fits : r.body.length ≤ config.maxRequestSize) :
    s.serveRequest config shutdown r
      = ((s.serveStream tool r.body shutdown).1,
        some (finish config.allowedOrigins r (s.serveStream tool r.body shutdown).2)) := by
  have route : Route.ofPath? r.path = some .stream := by rw [path]; rfl
  have admits : Route.admits .stream r.method = true := by rw [method]; rfl
  rw [serveRequest, if_neg (by rw [method]; decide), route]
  simp only [admits, if_true, serveRoute, query, if_neg (not_lt.mpr fits), Option.map_some]

/-- The response to such a request is an event stream. -/
lemma finish_stream {r : Http.Request} (method : r.method = "POST") (path : r.path = "/stream")
    (origins : List String) (body : Body) :
    let response := finish origins r ⟨200, streamHeaders, body⟩
    response.status = 200 ∧ response.body = body ∧
      response.headers.filter (fun h => h.1 = "content-type")
        = [("content-type", "text/event-stream")] := by
  have route : Route.ofPath? r.path = some .stream := by rw [path]; rfl
  have admits : Route.admits .stream r.method = true := by rw [method]; rfl
  refine ⟨rfl, if_neg (by rw [method]; decide), ?_⟩
  have granted : ∀ granted : Option String,
      ((granted.map originHeaders).getD []).filter (fun h => h.1 = "content-type") = [] := by
    rintro (_ | origin)
    · rfl
    · simp [originHeaders]
  simp only [finish, route, admits, if_true, List.filter_append, granted]
  cases body <;> simp [streamHeaders]

end Server

/-! ### Refusals -/

namespace Http

/-- The code of a check that fails is one of four. -/
lemma firstFault?_code {tools : Tool.Registry} {tool : Option String} {body : Bytes}
    {code : String} (h : firstFault? (streamChecks tools tool body) = some code) :
    code ∈ ["invalid_request", "missing_tool", "tool_not_found", "not_streaming"] := by
  obtain ⟨check, failed, rfl⟩ := Option.map_eq_some_iff.mp h
  exact List.mem_map_of_mem (List.mem_of_find?_eq_some failed)

namespace StreamFault

/-- A refusal is read as one message, with its code as the identifier. -/
lemma messages_block (f : StreamFault) :
    EventStream.messages ((Event.error f.message false).block f.code)
      = [⟨some "error", some f.code, (Event.error f.message false).payload.text⟩] := by
  have plain : ∀ code ∈ ["invalid_request", "missing_tool", "tool_not_found", "not_streaming",
      "internal_error"], EventStream.Unbroken code.toList ∧ code ≠ "" := by decide
  obtain ⟨unbroken, named⟩ := plain f.code (by cases f <;> simp [code])
  have event := Server.messages_event (.error f.message false) unbroken named []
  rwa [List.append_nil] at event

/-- The body of a refusal tells its code. -/
lemma code_of_body {f g : StreamFault} (h : f.response.body = g.response.body) :
    f.code = g.code := by
  have texts := congrArg Text.stringOf? (Body.whole.inj h)
  rw [Text.stringOf?_bytesOf, Text.stringOf?_bytesOf] at texts
  have read := congrArg EventStream.messages (Option.some.inj texts)
  rw [messages_block, messages_block] at read
  exact Option.some.inj (Message.mk.inj (List.head_eq_of_cons_eq read)).2.1

end StreamFault

end Http

/-! ### Requests for events -/

/-- **A request for the events of a tool starts one invocation or changes nothing.** The
request is checked in a fixed order. If no check fails, one invocation of the tool is put in
line, with the object in the body or an empty one as its arguments, and the response is its
events. Or else the response is one event, with the code of the first check that fails.
Nothing fails once the request has been checked. -/
theorem streams_or_refuses {σ : Type} [ResultCache σ] (s : Server σ) (config : HttpConfig)
    (shutdown : Token) (r : Http.Request) (tool : Option String) (method : r.method = "POST")
    (path : r.path = "/stream")
    (query : Http.formField "tool" (Http.formFields (r.query?.getD "")) = .ok tool)
    (fits : r.body.length ≤ config.maxRequestSize) :
    ∃ s' response, s.serveRequest config shutdown r = (s', some response) ∧ response.status = 200 ∧
      response.headers.filter (fun h => h.1 = "content-type")
        = [("content-type", "text/event-stream")] ∧
      (∀ detail, (Http.StreamFault.internal detail).response.body ≠ response.body) ∧
      ((Http.firstFault? (Http.streamChecks s.tools tool r.body) = none ∧
          ∃ name args t, tool = some name ∧ Http.objectIn? r.body = some args ∧
            s.tools.get? name = some t ∧ t.streaming = true ∧
            s.Opens s' shutdown t args response.body) ∨
        ∃ code, Http.firstFault? (Http.streamChecks s.tools tool r.body) = some code ∧
          s.RefusesStream s' code response.body) := by
  have checked := Http.streamTarget_cases s.tools tool r.body
  rw [Server.serveRequest_stream method path query fits]
  obtain ⟨name, args, t, named, object, found, streams, passed, target⟩ |
    ⟨fault, failed, target⟩ := checked
  · obtain ⟨status, body, type⟩ := Server.finish_stream method path config.allowedOrigins
      (.events s.engine.runs.length (.child shutdown s.engine.children)
        (s.streamRun shutdown t args).requestId)
    rw [Server.serveStream_ok shutdown target found streams]
    refine ⟨_, _, rfl, status, type, ?_,
      .inl ⟨passed, name, args, t, named, object, found, streams, ?_⟩⟩
    · intro detail same
      rw [body] at same
      cases same
    · have unbroken : EventStream.Unbroken madeUpId.toList := by decide
      rw [body]
      exact ⟨rfl, rfl, fun later there apart count => later.readFrames_reaches count _ _ there apart,
        fun e rest => Server.messages_event e unbroken (by decide : madeUpId ≠ "") rest⟩
  · obtain ⟨status, body, type⟩ := Server.finish_stream method path config.allowedOrigins
      fault.response.body
    have refused : s.serveStream tool r.body shutdown = (s, fault.response) := by
      rw [Server.serveStream, target]
    rw [refused]
    refine ⟨_, _, rfl, status, type, ?_,
      .inr ⟨fault.code, failed, rfl, fault.message, body, fault.messages_block⟩⟩
    intro detail same
    have proper : ∀ code ∈ ["invalid_request", "missing_tool", "tool_not_found", "not_streaming"],
        "internal_error" ≠ code := by decide
    exact proper _ (Http.firstFault?_code failed) (Http.StreamFault.code_of_body (same.trans body))

/-- A request without a body, for a tool whose events can be followed. -/
theorem streams_or_refuses_followed :
    let s := soleServer {} speaker
    let r : Http.Request := ⟨"POST", "/stream?tool=sole", [], []⟩
    let config : HttpConfig := {}
    (r.method = "POST" ∧ r.path = "/stream" ∧
      Http.formField "tool" (Http.formFields (r.query?.getD "")) = .ok (some "sole") ∧
      r.body.length ≤ config.maxRequestSize) ∧
    ∃ s' response, s.serveRequest config (.named "") r = (s', some response) ∧
      s'.engine.runs.map Run.tool = ["sole"] ∧ s'.engine.runs.map Run.args = [.object []] := by
  intro s r config
  have path : r.path = "/stream" := by decide
  have asked : r.query? = some "tool=sole" := by decide
  have fields : Http.formFields "tool=sole" = [("tool", "sole")] := by decide +kernel
  have query : Http.formField "tool" (Http.formFields (r.query?.getD "")) = .ok (some "sole") := by
    rw [asked, Option.getD_some, fields]
    rfl
  have passed : Http.firstFault? (Http.streamChecks s.tools (some "sole") r.body) = none := by
    decide
  have there : s.tools.get? "sole" = some (soleTool speaker) := by rfl
  obtain ⟨s', response, served, -, -, -, ⟨-, name, args, t, named, object, found, -, opens⟩ |
      ⟨code, failed, -⟩⟩ :=
    streams_or_refuses s config (.named "") r (some "sole") rfl path query (Nat.zero_le _)
  · obtain rfl := Option.some.inj named
    obtain rfl := Option.some.inj (there.symm.trans found)
    obtain rfl := Option.some.inj object
    refine ⟨⟨rfl, path, query, Nat.zero_le _⟩, s', response, served, ?_, ?_⟩
    · rw [opens.server]
      rfl
    · rw [opens.server]
      rfl
  · rw [passed] at failed
    cases failed

end ToolServer
