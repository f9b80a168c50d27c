/-
What messages are answered with:

* `memberOf`, `IsNotification`, `IsRequest`, `echoed`: what a message asks for, read
  off its bytes;
* `Reply.ComesTo`: the responses that a reply may come to, whatever the server does
  in between;
* `Answers`: the response that a message should get, and `Handled`, whether it
  should get one;
* `handled_of_comesTo`: every message is handled so; `comesTo_of_responses`: also
  many at a time.

The identifier of a response is found in two ways: in a message that need not be a
request, and in the request that was decoded. Both give the same.
-/
import ToolServer.Proofs.Json.OneLine
import ToolServer.Proofs.Protocol.Request
import ToolServer.Proofs.Server.Router
import ToolServer.Server.Waiting

namespace ToolServer

open ToolServer.Execution (Token)

/-! ### Messages -/

/-- The value of a key of a message that is an object. -/
def memberOf (key : String) (data : Text.Bytes) : Option Json :=
  (Json.read data).toOption.bind (Json.get? key)

/-- Whether a member of a message is a string. -/
def HasString (key : String) (data : Text.Bytes) : Prop :=
  ∃ s, memberOf key data = some (.string s)

/-- Whether a message is a request that wants no answer: an object with a version
and a method, and without an identifier. -/
def IsNotification (data : Text.Bytes) : Prop :=
  HasString "jsonrpc" data ∧ HasString "method" data ∧
    (memberOf "id" data = none ∨ memberOf "id" data = some .null)

/-- Whether a message is a request of the version that is spoken here. -/
def IsRequest (data : Text.Bytes) : Prop :=
  memberOf "jsonrpc" data = some (.string "2.0") ∧ HasString "method" data ∧
    ∀ v, memberOf "id" data = some v → v = .null ∨ v.isIdentifier = true

/-- The identifier that the response to a message carries: that of the message, or
null if it has none that may be one. -/
def echoed (data : Text.Bytes) : Json :=
  ((memberOf "id" data).filter Json.isIdentifier).getD .null

/-- The member of a response that tells the outcome. -/
def Response.member : Except RpcError Json → String × Json
  | .ok result => ("result", result)
  | .error e => ("error", e.toJson)

/-- The response that a message should get: one object on one line, with the
version, the identifier and either a result or an error, whose code tells what is
wrong with the message. -/
structure Answers (data : Text.Bytes) (r : Response) (outcome : Except RpcError Json) : Prop where
  members : r.toJson
    = .object [("jsonrpc", .string "2.0"), ("id", echoed data), Response.member outcome]
  oneLine : 0x0A ∉ Text.bytesOf r.text
  unread : (∃ e, outcome = .error e ∧ e.code = -32700) ↔ ∃ fault, Json.read data = .error fault
  malformed : (∃ e, outcome = .error e ∧ e.code = -32600)
    ↔ (∃ v, Json.read data = .ok v) ∧ ¬ IsRequest data

/-- What should come of a message: a response, unless it wants none. -/
structure Handled (data : Text.Bytes) (response : Option Response) : Prop where
  silent : response = none ↔ IsNotification data
  answered : ∀ r, response = some r → ∃ outcome, Answers data r outcome

/-! ### Replies -/

/-- The responses that a reply may come to, the server being in any state whenever
it goes on with it. -/
inductive Reply.ComesTo (σ : Type) [ResultCache σ] : Reply → Option Response → Prop
  | ready (response : Option Response) : ComesTo σ (.ready response) response
  | pursued {id : Option RequestId} {call : Call} {response : Option Response} (s : Server σ)
      (later : ComesTo σ (s.pursue (.underWay id call)).2 response) :
      ComesTo σ (.underWay id call) response

/-! ### Outcomes of requests -/

/-- Whether an outcome says nothing about the form of a message: its error is about
the method, the parameters or the server, if it is one. -/
def IsProper (outcome : Except RpcError Json) : Prop :=
  ∀ e, outcome = .error e → e.code ∈ [-32601, -32602, -32603]

lemma IsProper.code_ne {outcome : Except RpcError Json} (h : IsProper outcome) {code : ℤ}
    (other : code ∉ [-32601, -32602, -32603]) : ¬ ∃ e, outcome = .error e ∧ e.code = code := by
  rintro ⟨e, rfl, rfl⟩
  exact other (h e rfl)

lemma isProper_ok (v : Json) : IsProper (.ok v) :=
  fun _ h => nomatch h

lemma isProper_error {e : RpcError} (h : e.code ∈ [-32601, -32602, -32603]) :
    IsProper (.error e) := by
  rintro _ ⟨⟩
  exact h

lemma isProper_invalidParams (detail : String) : IsProper (.error (.invalidParams detail)) :=
  isProper_error (by simp [RpcError.invalidParams])

/-- The end of a call says nothing about its request. -/
lemma Call.isProper_of_read {c : Call} {event : Event} {outcome : Except RpcError Json}
    (h : c.read event = .inr outcome) : IsProper outcome := by
  cases event with
  | done duration count summary result =>
      obtain rfl := Sum.inr.inj h
      exact isProper_ok _
  | error message retryable =>
      obtain rfl := Sum.inr.inj h
      exact isProper_error (by simp [RpcError.toolFailed])
  | start | data | progress => cases h

namespace Server

variable {σ : Type} [ResultCache σ]

lemma isProper_of_argumentsOf {members : List (String × Json)} {e : RpcError}
    (h : argumentsOf members = .error e) : IsProper (.error e) := by
  rw [argumentsOf] at h
  split at h
  · cases h
  · cases h
  · cases h
  · obtain rfl := Except.error.inj h
    exact isProper_invalidParams _

omit [ResultCache σ] in
lemma isProper_of_target {s : Server σ} {params : Json} {e : RpcError}
    (h : s.target params = .error e) : IsProper (.error e) := by
  cases params with
  | object members =>
      rw [target] at h
      split at h
      · obtain rfl := Except.error.inj h
        exact isProper_invalidParams _
      · cases given : argumentsOf members with
        | error e' =>
            simp only [given, bind, Except.bind] at h
            obtain rfl := Except.error.inj h
            exact isProper_of_argumentsOf given
        | ok args =>
            simp only [given, bind, Except.bind] at h
            split at h
            · cases h
            · obtain rfl := Except.error.inj h
              exact isProper_invalidParams _
  | null | bool | number | string | array =>
      obtain rfl := Except.error.inj h
      exact isProper_invalidParams _

lemma isProper_of_callTool {s : Server σ} {params : Json} {caller : Token}
    {outcome : Except RpcError Json} (h : (s.callTool params caller).2 = .ready outcome) :
    IsProper outcome := by
  rw [callTool] at h
  split at h
  · next refused =>
      obtain rfl := Answer.ready.inj h
      exact isProper_of_target refused
  · dsimp only at h
    split_ifs at h
    · rw [invokeCached] at h
      split at h
      · obtain rfl := Answer.ready.inj h
        exact isProper_ok _
      · cases h
    · cases h

/-- What is answered at once says nothing about the form of the request. -/
lemma isProper_of_answer {s : Server σ} {method : String} {params : Json} {caller : Token}
    {outcome : Except RpcError Json} (h : (s.answer method params caller).2 = .ready outcome) :
    IsProper outcome := by
  rw [answer] at h
  split_ifs at h
  · obtain rfl := Answer.ready.inj h
    exact isProper_ok _
  · obtain rfl := Answer.ready.inj h
    exact isProper_ok _
  · obtain rfl := Answer.ready.inj h
    exact isProper_ok _
  · exact isProper_of_callTool h
  · obtain rfl := Answer.ready.inj h
    exact isProper_ok _
  · obtain rfl := Answer.ready.inj h
    exact isProper_ok _
  · obtain rfl := Answer.ready.inj h
    exact isProper_error (by simp [RpcError.methodNotFound])

lemma isProper_of_advanceCall {fuel : ℕ} {s : Server σ} {c : Call}
    {outcome : Except RpcError Json} (h : (advanceCall fuel s c).2 = .inr outcome) :
    IsProper outcome := by
  induction fuel generalizing s c with
  | zero => cases h
  | succ fuel ih =>
      rw [advanceCall] at h
      split at h
      · cases h
      · obtain rfl := Sum.inr.inj h
        exact isProper_error (by simp [streamClosed, RpcError.internalError])
      · split at h
        · exact ih h
        · next read =>
            obtain rfl := Sum.inr.inj h
            exact Call.isProper_of_read read

end Server

/-- A reply that is under way comes to a response with the identifier of its request
and with a proper outcome. -/
lemma Reply.ComesTo.of_underWay {σ : Type} [ResultCache σ] {reply : Reply} {id : Option RequestId}
    {call : Call} {response : Option Response} (h : reply.ComesTo σ response)
    (underWay : reply = .underWay id call) :
    ∃ outcome, IsProper outcome ∧ response = respond id outcome := by
  induction h generalizing call with
  | ready response => cases underWay
  | @pursued id' call' response s later ih =>
      obtain ⟨rfl, rfl⟩ := Reply.underWay.inj underWay
      rcases resumed : s.resume call' with ⟨s', call'' | outcome⟩
      · exact @ih call'' (by rw [Server.pursue, resumed])
      · have proper : IsProper outcome := Server.isProper_of_advanceCall (congrArg Prod.snd resumed)
        have pursued : (s.pursue (.underWay id' call')).2 = .ready (respond id' outcome) := by
          rw [Server.pursue, resumed]
        rw [pursued] at later
        cases later
        exact ⟨outcome, proper, rfl⟩

/-- What comes of a request: an error about the version, or a proper outcome. -/
lemma Server.outcome_of_handle {σ : Type} [ResultCache σ] {s : Server σ} {r : Request}
    {caller : Token} {response : Option Response}
    (h : (s.handle r caller).2.ComesTo σ response) :
    ∃ outcome, response = respond r.id outcome ∧
      ((r.version = messageVersion ∧ IsProper outcome) ∨
        (r.version ≠ messageVersion ∧ ∃ detail, outcome = .error (.invalidRequest detail))) := by
  rw [handle] at h
  split_ifs at h with version
  · cases h
    exact ⟨_, rfl, .inr ⟨version, _, rfl⟩⟩
  · rcases answered : s.answer r.method (r.params.getD .null) caller with ⟨s', outcome | call⟩
    · rw [answered] at h
      cases h
      exact ⟨outcome, rfl, .inl ⟨not_not.mp version,
        isProper_of_answer (congrArg Prod.snd answered)⟩⟩
    · rw [answered] at h
      obtain ⟨outcome, proper, rfl⟩ := Reply.ComesTo.of_underWay h rfl
      exact ⟨outcome, rfl, .inl ⟨not_not.mp version, proper⟩⟩

/-! ### Responses to messages -/

section Message

variable {data : Text.Bytes} {message : Json}

lemma memberOf_of_unread {fault : Json.Fault} (h : Json.read data = .error fault) (key : String) :
    memberOf key data = none := by
  rw [memberOf, h]
  rfl

lemma memberOf_of_read (h : Json.read data = .ok message) (key : String) :
    memberOf key data = message.get? key := by
  rw [memberOf, h]
  rfl

/-- The identifier of a message is echoed as it was written. -/
lemma echoed_of_read (h : Json.read data = .ok message) :
    echoed data = ((idOf message).map RequestId.toJson).getD .null := by
  rw [echoed, memberOf_of_read h, idOf]
  cases message.get? "id" with
  | none => rfl
  | some v =>
      have identifier := RequestId.isSome_ofJson? v
      rw [Option.filter_some, ← identifier, Option.bind_some]
      cases read : RequestId.ofJson? v with
      | none => rfl
      | some id => exact (RequestId.toJson_of_ofJson? read).symm

/-- The identifier of a request that was decoded is that of its message. -/
lemma Request.IsRead.id_eq {members : List (String × Json)} {r : Request}
    (h : IsRead members r) : r.id = idOf (.object members) := by
  have id := h.id
  rw [idOf, Json.get?]
  cases found : Json.lookup "id" members with
  | none =>
      rw [found] at id
      exact Option.map_eq_none_iff.mp id.symm
  | some v =>
      rw [found, Option.filter_some] at id
      cases null : v.isNull with
      | true =>
          have nothing : RequestId.ofJson? v = none := by
            cases v <;> first | rfl | cases null
          rw [null] at id
          rw [Option.bind_some, nothing]
          exact Option.map_eq_none_iff.mp id.symm
      | false =>
          rw [null] at id
          obtain ⟨i, hi, read⟩ := Option.map_eq_some_iff.mp id.symm
          rw [hi, Option.bind_some, read]

/-- The text of a response has the members that it should have. -/
lemma Answers.of_outcome {id : Option RequestId} {outcome : Except RpcError Json}
    (echoes : echoed data = (id.map RequestId.toJson).getD .null)
    (unread : (∃ e, outcome = .error e ∧ e.code = -32700) ↔ ∃ fault, Json.read data = .error fault)
    (malformed : (∃ e, outcome = .error e ∧ e.code = -32600)
      ↔ (∃ v, Json.read data = .ok v) ∧ ¬ IsRequest data) :
    Answers data (.ofResult id outcome) outcome := by
  refine ⟨?_, Json.lineFeed_not_mem_bytesOf_text _, unread, malformed⟩
  rw [echoes]
  cases outcome <;> rfl

/-- Members that a request may have stand for one. -/
lemma Request.exists_isRead {members : List (String × Json)} {version method : String}
    (hv : Json.lookup "jsonrpc" members = some (.string version))
    (hm : Json.lookup "method" members = some (.string method))
    (hi : ∀ v, Json.lookup "id" members = some v → v = .null ∨ v.isIdentifier = true) :
    ∃ r, IsRead members r := by
  refine ⟨⟨version, idOf (.object members), method,
    (Json.lookup "params" members).filter fun v => !v.isNull⟩, hv, ?_, hm, rfl⟩
  rw [idOf, Json.get?]
  cases found : Json.lookup "id" members with
  | none => rfl
  | some v =>
      rcases hi v found with rfl | identifier
      · rfl
      · have read := RequestId.isSome_ofJson? v
        rw [identifier] at read
        obtain ⟨id, read⟩ := Option.isSome_iff_exists.mp read
        have there : v.isNull = false := by
          cases v <;> first | rfl | cases identifier
        simp [Option.filter_some, there, read]

/-- A message that is a request wants no answer exactly if the request has no
identifier, and is of this version exactly if the request is. -/
lemma Request.IsRead.wants {members : List (String × Json)} {r : Request}
    (h : IsRead members r) (read : Json.read data = .ok (.object members)) :
    (IsNotification data ↔ r.id = none) ∧ (IsRequest data ↔ r.version = messageVersion) := by
  have version : memberOf "jsonrpc" data = some (.string r.version) :=
    (memberOf_of_read read _).trans h.version
  have method : HasString "method" data := ⟨r.method, (memberOf_of_read read _).trans h.method⟩
  have member : memberOf "id" data = Json.lookup "id" members := memberOf_of_read read _
  have id := h.id
  rw [← member] at id
  refine ⟨⟨?_, ?_⟩, ⟨?_, ?_⟩⟩
  · rintro ⟨-, -, absent | null⟩
    · rw [absent] at id
      exact Option.map_eq_none_iff.mp id.symm
    · rw [null] at id
      exact Option.map_eq_none_iff.mp id.symm
  · intro none
    refine ⟨⟨_, version⟩, method, ?_⟩
    rw [none, Option.map_none, Option.map_eq_none_iff, Option.filter_eq_none_iff] at id
    cases found : memberOf "id" data with
    | none => exact .inl rfl
    | some v =>
        have null := id v found
        cases v <;> simp_all [Json.isNull]
  · rintro ⟨current, -, -⟩
    rw [version] at current
    exact Json.string.inj (Option.some.inj current)
  · intro current
    refine ⟨by rw [version, current]; rfl, method, ?_⟩
    intro v found
    rw [found, Option.filter_some] at id
    cases null : v.isNull with
    | true => exact .inl (by cases v <;> first | rfl | cases null)
    | false =>
        rw [null] at id
        obtain ⟨i, -, read⟩ := Option.map_eq_some_iff.mp id.symm
        rw [← RequestId.isSome_ofJson?, ← read]
        exact .inr rfl

/-- A message that is no request wants an answer, and is of no version. -/
lemma not_of_undecoded {e : Decode.Mismatch} {members : List (String × Json)}
    (read : Json.read data = .ok (.object members))
    (undecoded : Request.decode (.object members) = .error e) :
    ¬ IsNotification data ∧ ¬ IsRequest data := by
  have distinct : (members.map Prod.fst).Nodup := (Json.wellFormed_of_read read).1
  have unread : ∀ r, ¬ Request.IsRead members r := by
    intro r isRead
    rw [(Request.decode_eq_ok_iff distinct).mpr isRead] at undecoded
    cases undecoded
  have member : ∀ key, memberOf key data = Json.lookup key members := memberOf_of_read read
  refine ⟨?_, ?_⟩
  · rintro ⟨⟨version, hv⟩, ⟨method, hm⟩, id⟩
    rw [member] at hv hm id
    obtain ⟨r, isRead⟩ := Request.exists_isRead hv hm (by
      intro v found
      rw [found] at id
      exact .inl (by simpa using id))
    exact unread r isRead
  · rintro ⟨hv, ⟨method, hm⟩, id⟩
    rw [member] at hv hm
    obtain ⟨r, isRead⟩ := Request.exists_isRead hv hm fun v found => id v (by rw [member, found])
    exact unread r isRead

/-- Reading a message fails at its text, at its kind or at its members, or gives the
request that it is. -/
lemma readRequest_cases (data : Text.Bytes) :
    (∃ fault, Json.read data = .error fault ∧
      readRequest data = .error (.failure none (.parseError fault.message)))
    ∨ (∃ message detail, Json.read data = .ok message ∧ message.isObject = false ∧
      readRequest data = .error (.failure none (.invalidRequest detail)))
    ∨ (∃ members e, Json.read data = .ok (.object members) ∧
      Request.decode (.object members) = .error e ∧
      readRequest data = .error (.failure (idOf (.object members)) (.invalidRequest e.message)))
    ∨ ∃ members r, Json.read data = .ok (.object members) ∧
      Request.decode (.object members) = .ok r ∧ readRequest data = .ok r := by
  rw [readRequest]
  cases Json.read data with
  | error fault => exact .inl ⟨fault, rfl, rfl⟩
  | ok message =>
      cases message with
      | object members =>
          cases decoded : Request.decode (.object members) with
          | error e =>
              refine .inr (.inr (.inl ⟨members, e, rfl, decoded, ?_⟩))
              simp [Json.isObject, decoded]
          | ok r =>
              refine .inr (.inr (.inr ⟨members, r, rfl, decoded, ?_⟩))
              simp [Json.isObject, decoded]
      | null | bool | number | string | array => exact .inr (.inl ⟨_, _, rfl, rfl, rfl⟩)

/-- A message whose response tells that it is no request. -/
lemma Handled.of_malformed {id : Option RequestId} {detail : String}
    (read : ∃ v, Json.read data = .ok v) (unasked : ¬ IsNotification data)
    (malformed : ¬ IsRequest data)
    (echoes : echoed data = (id.map RequestId.toJson).getD .null) :
    Handled data (some (.ofResult id (.error (.invalidRequest detail)))) := by
  refine ⟨by simpa using unasked, ?_⟩
  rintro r ⟨⟩
  refine ⟨.error (.invalidRequest detail), .of_outcome echoes ?_ ?_⟩
  · obtain ⟨v, read⟩ := read
    simp [read, RpcError.invalidRequest]
  · simp [read, malformed, RpcError.invalidRequest]

end Message

/-- **Every message is handled as it should be.** -/
theorem handled_of_comesTo {σ : Type} [ResultCache σ] {s : Server σ} {data : Text.Bytes}
    {caller : Token} {response : Option Response}
    (h : (s.receive data caller).2.ComesTo σ response) : Handled data response := by
  rw [Server.receive] at h
  rcases readRequest_cases data with ⟨fault, unread, given⟩ |
    ⟨message, detail, read, other, given⟩ | ⟨members, e, read, undecoded, given⟩ |
    ⟨members, r, read, decoded, given⟩ <;> rw [given] at h
  · cases h
    have nothing := memberOf_of_unread unread
    refine ⟨by simp [IsNotification, HasString, nothing], ?_⟩
    rintro r ⟨⟩
    have echoes : echoed data = .null := by
      rw [echoed, nothing]
      rfl
    have answers : Answers data (.ofResult none (.error (.parseError fault.message))) _ :=
      .of_outcome echoes ?_ ?_
    · exact ⟨_, answers⟩
    · simp [unread, RpcError.parseError]
    · simp [unread, RpcError.parseError]
  · cases h
    have nothing : ∀ key, memberOf key data = none := by
      intro key
      rw [memberOf_of_read read]
      cases message <;> first | rfl | cases other
    refine .of_malformed ⟨message, read⟩ ?_ ?_ ?_
    · simp [IsNotification, HasString, nothing]
    · simp [IsRequest, nothing]
    · rw [echoed, nothing]
      rfl
  · cases h
    obtain ⟨unasked, malformed⟩ := not_of_undecoded read undecoded
    exact .of_malformed ⟨_, read⟩ unasked malformed (echoed_of_read read)
  · have distinct : (members.map Prod.fst).Nodup := (Json.wellFormed_of_read read).1
    have isRead := (Request.decode_eq_ok_iff distinct).mp decoded
    obtain ⟨silent, current⟩ := isRead.wants read
    have echoes := echoed_of_read read
    rw [← isRead.id_eq] at echoes
    obtain ⟨outcome, rfl, told⟩ := Server.outcome_of_handle h
    refine ⟨?_, ?_⟩
    · rw [silent, respond, Option.map_eq_none_iff]
    · intro response answered
      obtain ⟨id, hid, rfl⟩ := Option.map_eq_some_iff.mp answered
      rw [hid] at echoes
      refine ⟨outcome, .of_outcome echoes ?_ ?_⟩
      · rcases told with ⟨-, proper⟩ | ⟨-, detail, rfl⟩
        · simp [read, proper.code_ne]
        · simp [read, RpcError.invalidRequest]
      · rcases told with ⟨version, proper⟩ | ⟨version, detail, rfl⟩
        · simp [read, current, version, proper.code_ne]
        · simp [read, current, version, RpcError.invalidRequest]

/-! ### Many messages at a time -/

/-- Going through a list with a state does something for every item, in some state. -/
lemma foldl_each {τ α β : Type} (f : τ → α → τ × β) {xs : List α} {s s' : τ}
    {done ys : List β}
    (h : xs.foldl (fun d x => ((f d.1 x).1, d.2 ++ [(f d.1 x).2])) (s, done) = (s', ys)) :
    ∃ zs, ys = done ++ zs ∧ List.Forall₂ (fun x y => ∃ s, (f s x).2 = y) xs zs := by
  induction xs generalizing s done with
  | nil =>
      obtain ⟨-, rfl⟩ := Prod.mk.inj h
      exact ⟨[], (List.append_nil _).symm, .nil⟩
  | cons x xs ih =>
      obtain ⟨zs, rfl, each⟩ := ih h
      exact ⟨(f s x).2 :: zs, by simp, .cons ⟨s, rfl⟩ each⟩

/-- What holds of the items of two lists carries over along a third. -/
lemma forall₂_of_forall₂ {α β γ : Type} {R : α → β → Prop} {S : β → γ → Prop}
    {T : α → γ → Prop} (carry : ∀ a b c, R a b → S b c → T a c) {as : List α} {bs : List β}
    {cs : List γ} (h : List.Forall₂ R as bs) (h' : List.Forall₂ S bs cs) :
    List.Forall₂ T as cs := by
  induction h generalizing cs with
  | nil =>
      cases h'
      exact .nil
  | cons first rest ih =>
      cases h' with
      | cons first' rest' => exact .cons (carry _ _ _ first first') (ih rest')

/-- What is asked of all items is asked of each of them. -/
lemma forall₂_of_mapM {α β : Type} {f : α → Option β} {xs : List α} {ys : List β}
    (h : xs.mapM f = some ys) : List.Forall₂ (fun x y => f x = some y) xs ys := by
  induction xs generalizing ys with
  | nil =>
      obtain rfl := Option.some.inj h
      exact .nil
  | cons x xs ih =>
      simp only [List.mapM_cons, Option.bind_eq_bind, Option.pure_def, Option.bind_eq_some_iff] at h
      obtain ⟨y, first, rest, others, eq⟩ := h
      obtain rfl := Option.some.inj eq
      exact .cons first (ih others)

namespace Server

variable {σ : Type} [ResultCache σ]

/-- Going on with a reply leads to no other responses. -/
lemma comesTo_of_pursue {s : Server σ} {reply : Reply} {response : Option Response}
    (h : (s.pursue reply).2.ComesTo σ response) : reply.ComesTo σ response := by
  cases reply with
  | ready other => exact h
  | underWay id call => exact .pursued s h

/-- Going on with all replies gives their responses, or replies that lead to no
others. -/
lemma comesTo_of_pursueAll (s : Server σ) (replies : List Reply) :
    match (s.pursueAll replies).2 with
    | .inl later => ∀ responses, List.Forall₂ (Reply.ComesTo σ) later responses →
        List.Forall₂ (Reply.ComesTo σ) replies responses
    | .inr responses => List.Forall₂ (Reply.ComesTo σ) replies responses := by
  simp only [pursueAll]
  generalize folded : replies.foldl _ (s, []) = done
  obtain ⟨s', later⟩ := done
  obtain ⟨_, rfl, each⟩ := foldl_each (fun (s : Server σ) reply => s.pursue reply) folded
  have carried : ∀ responses, List.Forall₂ (Reply.ComesTo σ) later responses →
      List.Forall₂ (Reply.ComesTo σ) replies responses := by
    intro responses come
    refine forall₂_of_forall₂ ?_ each come
    rintro reply _ response ⟨s, rfl⟩ h
    exact comesTo_of_pursue h
  split
  · next later' found =>
      split at found
      · cases found
      · obtain rfl := Sum.inl.inj found
        exact carried
  · next responses found =>
      split at found
      · next responses' there =>
          obtain rfl := Sum.inr.inj found
          refine carried _ ((forall₂_of_mapM there).imp ?_)
          intro reply response ready
          cases reply with
          | ready other =>
              obtain rfl := Option.some.inj ready
              exact .ready other
          | underWay => cases ready
      · cases found

/-- Waiting for all replies gives responses that they come to. -/
lemma comesTo_of_await {fuel : ℕ} {s : Server σ} {alarms : List ℕ} {replies : List Reply}
    {responses : List (Option Response)}
    (h : (awaitWithin pursueAll alarms fuel s replies).2 = some responses) :
    List.Forall₂ (Reply.ComesTo σ) replies responses := by
  induction fuel generalizing s replies with
  | zero => cases h
  | succ fuel ih =>
      have gone := comesTo_of_pursueAll s replies
      rw [awaitWithin] at h
      rcases pursued : s.pursueAll replies with ⟨s', later | found⟩
      · rw [pursued] at h gone
        dsimp only at h gone
        split at h
        · exact gone _ (ih h)
        · cases h
      · rw [pursued] at h gone
        obtain rfl := Option.some.inj h
        exact gone

/-- **The responses to many messages are those that their replies come to**, each
message being received by the server in some state. -/
theorem comesTo_of_responses {s : Server σ} {messages : List Text.Bytes} {caller : Token}
    {responses : List (Option Response)} (h : (s.responses messages caller).2 = some responses) :
    List.Forall₂ (fun data response =>
      ∃ s : Server σ, (s.receive data caller).2.ComesTo σ response) messages responses := by
  simp only [Server.responses, await] at h
  generalize folded : messages.foldl _ (s, []) = done at h
  obtain ⟨s', replies⟩ := done
  obtain ⟨_, rfl, each⟩ := foldl_each (fun (s : Server σ) data => s.receive data caller) folded
  refine forall₂_of_forall₂ ?_ each (comesTo_of_await h)
  rintro data _ response ⟨s, rfl⟩ come
  exact ⟨s, come⟩

end Server

/-- The response to one message is that of a list of one. -/
lemma Server.exists_responses {σ : Type} [ResultCache σ] {s : Server σ} {data : Text.Bytes}
    {caller : Token} {response : Option Response} (h : (s.response data caller).2 = some response) :
    ∃ all, (s.responses [data] caller).2 = some all ∧ response = all.head?.getD none := by
  obtain ⟨all, given, rfl⟩ := Option.map_eq_some_iff.mp h
  exact ⟨all, given, rfl⟩

/-- **Every message gets the response that it should get, or none if it wants none.**
Whatever the state of the server, and whatever happens in it until the response is
there:

* there is no response exactly if the message is an object with a version and a
  method that are strings, and without an identifier;
* every response is one object on one line, with the version, the identifier of the
  message, or null if that has none that may be one, and either a result or an error;
* its code tells that the message cannot be read exactly if it cannot, and that the
  message is no request of this version exactly if it can be read and is none.

This holds of a message that the server attends to alone, of messages that are
carried out at the same time, and whatever else the server does meanwhile. -/
theorem messages_are_handled {σ : Type} [ResultCache σ] (s : Server σ) (caller : Token) :
    (∀ data response, (s.response data caller).2 = some response → Handled data response)
    ∧ (∀ messages responses, (s.responses messages caller).2 = some responses →
        List.Forall₂ Handled messages responses)
    ∧ ∀ data response, (s.receive data caller).2.ComesTo σ response → Handled data response := by
  have many : ∀ messages responses, (s.responses messages caller).2 = some responses →
      List.Forall₂ Handled messages responses := by
    intro messages responses h
    refine (Server.comesTo_of_responses h).imp ?_
    rintro data response ⟨s, come⟩
    exact handled_of_comesTo come
  refine ⟨?_, many, fun data response come => handled_of_comesTo come⟩
  intro data response h
  obtain ⟨all, given, rfl⟩ := Server.exists_responses h
  cases many _ _ given with
  | cons first rest =>
      cases rest
      exact first

/-- A notice that is sent with an identifier, and so is answered. -/
def numberedNotice : Json :=
  .object [("id", .ofNat 7), ("jsonrpc", .string "2.0"),
    ("method", .string "notifications/initialized")]

/-- A server without tools. -/
def bareServer : Server Cache.Backend where
  tools := ⟨[]⟩
  engine := .new {}
  cache := .memory { store := .new 1 (Duration.secs 1), interval := 0 }

lemma numberedNotice_read : Json.read (Text.bytesOf numberedNotice.text) = .ok numberedNotice :=
  Json.read_text ⟨rfl, trivial, trivial, trivial⟩ (by decide)

lemma numberedNotice_response :
    (bareServer.response (Text.bytesOf numberedNotice.text) (.named "")).2
      = some (some (.success (some (.number 7)) .null)) := by
  have request : readRequest (Text.bytesOf numberedNotice.text)
      = .ok (.new (.number 7) "notifications/initialized" none) := by
    rw [readRequest, numberedNotice_read]
    rfl
  have received : bareServer.receive (Text.bytesOf numberedNotice.text) (.named "")
      = (bareServer, .ready (some (.success (some (.number 7)) .null))) := by
    rw [Server.receive, request]
    rfl
  simp only [Server.response, Server.responses, List.foldl_cons, received]
  rfl

theorem messages_are_handled_numbered :
    let data := Text.bytesOf numberedNotice.text
    ∃ r, (bareServer.response data (.named "")).2 = some (some r) ∧ ¬ IsNotification data ∧
      ∃ outcome, Answers data r outcome ∧ r.toJson = .object
        [("jsonrpc", .string "2.0"), ("id", .ofNat 7), ("result", .null)] := by
  intro data
  have handled := (messages_are_handled bareServer (.named "")).1 data _ numberedNotice_response
  obtain ⟨outcome, answers⟩ := handled.answered _ rfl
  refine ⟨_, numberedNotice_response, ?_, outcome, answers, rfl⟩
  simpa using handled.silent.not.mp (by simp)

end ToolServer
