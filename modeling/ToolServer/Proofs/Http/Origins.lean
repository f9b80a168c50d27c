/-
Who may read a response:

* `valuesOf`: the values of a header field;
* `Grants`: whether an origin may read the response to a request, which
  `grantedOrigin?_eq_some_iff` finds in the code;
* `Bare`: responses that no origin may read, and `Server.bare_serveRoute`: the routes give
  no others;
* `values_finish`: what is added to a response in the end;
* `responses_open_to_listed_origins`: a response may be read by the origin of its request if
  that is listed, and by no origin otherwise.

What lets an origin read a response is added after the response has been made, so it does not
matter where the response is from.
-/
import Mathlib.Tactic
import ToolServer.Http.Service

namespace ToolServer

open ToolServer.Execution (Token)
open ToolServer.Text (Bytes)

namespace Http

/-! ### Header fields -/

/-- The values of a header field, in their order. The case of letters in its name does not
matter; `name` is in small letters. -/
def valuesOf (headers : List (String × String)) (name : String) : List String :=
  (headers.filter fun h => h.1.map Char.toLower == name).map (·.2)

/-- The header fields that let an origin read a response. -/
def originFields : List String :=
  ["access-control-allow-origin", "access-control-allow-methods", "access-control-allow-headers"]

lemma valuesOf_append (headers more : List (String × String)) (name : String) :
    valuesOf (headers ++ more) name = valuesOf headers name ++ valuesOf more name := by
  rw [valuesOf, List.filter_append, List.map_append]
  rfl

lemma Request.header?_eq_head? (r : Request) (name : String) :
    r.header? name = (valuesOf r.headers name).head? := by
  rw [header?, valuesOf, List.head?_map, List.head?_filter]

/-- Whether no field of some names is among some header fields. -/
def Lacks (headers : List (String × String)) (names : List String) : Prop :=
  ∀ h ∈ headers, h.1.map Char.toLower ∉ names

lemma Lacks.valuesOf_eq_nil {headers : List (String × String)} {names : List String}
    (h : Lacks headers names) {name : String} (mem : name ∈ names) : valuesOf headers name = [] := by
  rw [valuesOf, List.map_eq_nil_iff, List.filter_eq_nil_iff]
  intro field there same
  exact h field there (eq_of_beq same ▸ mem)

/-! ### Origins -/

/-- Whether an origin may read the response to a request. -/
structure Grants (origins : List String) (r : Request) (origin : String) : Prop where
  /-- It is what the request says of its origin, the first time that it says so. -/
  first : (valuesOf r.headers "origin").head? = some origin
  /-- It is text: visible characters, spaces and tabs of ASCII. -/
  readable : ∀ c ∈ origin.toList, c = '\t' ∨ (' ' ≤ c ∧ c ≤ '~')
  /-- It is listed itself, or all origins are. -/
  listed : "*" ∈ origins ∨ origin ∈ origins

lemma isVisible_iff {s : String} :
    isVisible s = true ↔ ∀ c ∈ s.toList, c = '\t' ∨ (' ' ≤ c ∧ c ≤ '~') := by
  rw [isVisible, List.all_eq_true]
  refine forall₂_congr fun c _ => ?_
  have low : ' ' ≤ c ↔ 0x20 ≤ c.toNat := Iff.rfl
  have high : c ≤ '~' ↔ c.toNat < 0x7F := Nat.lt_succ_iff.symm
  rw [low, high, Bool.or_eq_true, Bool.and_eq_true, decide_eq_true_iff, decide_eq_true_iff,
    decide_eq_true_iff]

lemma grantedOrigin?_eq_some_iff {origins : List String} {r : Request} {origin : String} :
    grantedOrigin? origins r = some origin ↔ Grants origins r origin := by
  have listed : (origins.any fun allowed => allowed = "*" || allowed = origin) = true
      ↔ "*" ∈ origins ∨ origin ∈ origins := by
    simp only [List.any_eq_true, Bool.or_eq_true, decide_eq_true_iff, and_or_left, exists_or,
      exists_eq_right]
  rw [grantedOrigin?, Option.filter_eq_some_iff, r.header?_eq_head?, Bool.and_eq_true,
    isVisible_iff, listed]
  exact ⟨fun ⟨first, readable, listed⟩ => ⟨first, readable, listed⟩,
    fun ⟨first, readable, listed⟩ => ⟨first, readable, listed⟩⟩

/-! ### What is added to a response -/

/-- A response that no origin may read. -/
def Response.Bare (response : Response) : Prop :=
  Lacks response.headers originFields

/-- A response that an origin may read. -/
structure Response.OpenTo (response : Response) (origin : String) : Prop where
  /-- The origin is named as it has named itself. -/
  origin : valuesOf response.headers "access-control-allow-origin" = [origin]
  methods : valuesOf response.headers "access-control-allow-methods" = ["POST, OPTIONS"]
  headers : valuesOf response.headers "access-control-allow-headers" = ["Content-Type"]

lemma lacks_of_names {headers : List (String × String)}
    (h : ∀ field ∈ headers, field.1 ∈ ["content-type", "cache-control", "x-accel-buffering",
      "allow", "content-length"]) :
    Lacks headers originFields := by
  have other : ∀ name ∈ ["content-type", "cache-control", "x-accel-buffering", "allow",
      "content-length"], name.map Char.toLower ∉ originFields := by decide +kernel
  exact fun field mem => other _ (h field mem)

lemma bare_document (status : ℕ) (type : String) (bytes : Bytes) :
    (document status type bytes).Bare :=
  lacks_of_names (by simp [document])

lemma bare_empty (status : ℕ) : (empty status).Bare :=
  lacks_of_names (by simp [empty])

lemma bare_stream (body : Body) : (Response.mk 200 streamHeaders body).Bare :=
  lacks_of_names (by simp [streamHeaders])

/-- What is added to a response in the end: fields that let no origin read it, and then those
for the origin of the request. -/
lemma finish_headers (origins : List String) (r : Request) (response : Response) :
    ∃ more, Lacks more originFields ∧ (finish origins r response).headers
      = response.headers ++ more ++ ((grantedOrigin? origins r).map originHeaders).getD [] := by
  refine ⟨_, ?_, congrArg (· ++ _) (List.append_assoc response.headers _ _)⟩
  refine List.forall_mem_append.mpr ⟨?_, ?_⟩
  · refine lacks_of_names fun field there => ?_
    split at there
    · split_ifs at there <;> simp_all
    · simp at there
  · refine lacks_of_names fun field there => ?_
    split at there <;> simp_all

/-- As far as origins go, what is added to a response is all that it has in the end. -/
lemma valuesOf_finish {origins : List String} {r : Request} {response : Response}
    (bare : response.Bare) {name : String} (mem : name ∈ originFields) :
    valuesOf (finish origins r response).headers name
      = valuesOf (((grantedOrigin? origins r).map originHeaders).getD []) name := by
  obtain ⟨more, lacks, headers⟩ := finish_headers origins r response
  rw [headers, valuesOf_append, valuesOf_append, bare.valuesOf_eq_nil mem,
    lacks.valuesOf_eq_nil mem, List.nil_append, List.nil_append]

lemma openTo_finish {origins : List String} {r : Request} {response : Response} {origin : String}
    (bare : response.Bare) (granted : Grants origins r origin) :
    (finish origins r response).OpenTo origin := by
  have fields {name : String} (mem : name ∈ originFields) :
      valuesOf (finish origins r response).headers name = valuesOf (originHeaders origin) name := by
    rw [valuesOf_finish bare mem, grantedOrigin?_eq_some_iff.mpr granted]
    rfl
  have small : "access-control-allow-origin".map Char.toLower = "access-control-allow-origin" ∧
      "access-control-allow-methods".map Char.toLower = "access-control-allow-methods" ∧
      "access-control-allow-headers".map Char.toLower = "access-control-allow-headers" := by
    decide +kernel
  constructor <;>
    · rw [fields (by decide)]
      simp [valuesOf, originHeaders, small]

lemma bare_finish {origins : List String} {r : Request} {response : Response}
    (bare : response.Bare) (foreign : ∀ origin, ¬ Grants origins r origin) {name : String}
    (mem : name ∈ originFields) : valuesOf (finish origins r response).headers name = [] := by
  have none : grantedOrigin? origins r = none :=
    Option.eq_none_iff_forall_ne_some.mpr fun origin granted =>
      foreign origin (grantedOrigin?_eq_some_iff.mp granted)
  rw [valuesOf_finish bare mem, none]
  rfl

end Http

namespace Server

open ToolServer.Http

variable {σ : Type}

/-! ### Where responses are from -/

lemma bare_serveStream (s : Server σ) (tool : Option String) (body : Bytes) (shutdown : Token) :
    (s.serveStream tool body shutdown).2.Bare := by
  rw [serveStream]
  split
  · exact bare_stream _
  · dsimp only
    split
    · exact bare_stream _
    · exact bare_stream _

variable [ResultCache σ]

lemma bare_serveMessage (s : Server σ) (body : Bytes) (shutdown : Token) :
    ∀ response ∈ (s.serveMessage body shutdown).2, response.Bare := by
  intro response h
  rw [serveMessage] at h
  obtain ⟨found, -, rfl⟩ := Option.map_eq_some_iff.mp h
  cases found with
  | none => exact bare_empty 204
  | some answer => exact bare_document 200 _ _

/-- **No route lets an origin read its responses.** -/
lemma bare_serveRoute (s : Server σ) (config : HttpConfig) (shutdown : Token) (r : Http.Request)
    (route : Route) : ∀ response ∈ (s.serveRoute config shutdown r route).2, response.Bare := by
  cases route with
  | health =>
      rintro response ⟨⟩
      exact bare_document _ _ _
  | message =>
      rw [serveRoute]
      split_ifs
      · rintro response ⟨⟩
        exact bare_document _ _ _
      · exact bare_serveMessage s r.body shutdown
  | stream =>
      rw [serveRoute]
      split
      · rintro response ⟨⟩
        exact bare_document _ _ _
      · split_ifs
        · rintro response ⟨⟩
          exact bare_document _ _ _
        · rintro response ⟨⟩
          exact bare_serveStream s _ r.body shutdown

/-- A route gives no response only to a message that has none. -/
lemma serveRoute_none {s : Server σ} {config : HttpConfig} {shutdown : Token} {r : Http.Request}
    {route : Route} (h : (s.serveRoute config shutdown r route).2 = none) :
    route = .message ∧ (s.serveMessage r.body shutdown).2 = none := by
  cases route with
  | health => cases h
  | message =>
      rw [serveRoute] at h
      split_ifs at h
      exact ⟨rfl, h⟩
  | stream =>
      rw [serveRoute] at h
      split at h
      · cases h
      · split_ifs at h

/-- A request for options is answered at once. -/
lemma serveRequest_options (s : Server σ) (config : HttpConfig) (shutdown : Token)
    {r : Http.Request} (options : r.method = "OPTIONS") :
    s.serveRequest config shutdown r = (s, some (finish config.allowedOrigins r (empty 200))) := by
  rw [serveRequest, if_pos options]
  rfl

/-- A response is one that no origin may read, with what is added to it in the end. It is
missing only if a message has none. -/
lemma serveRequest_bare (s : Server σ) (config : HttpConfig) (shutdown : Token)
    (r : Http.Request) :
    ∃ bare : Option Http.Response, (∀ response ∈ bare, response.Bare) ∧
      (s.serveRequest config shutdown r).2 = bare.map (finish config.allowedOrigins r) ∧
      (bare = none → r.method = "POST" ∧ Route.ofPath? r.path = some .message ∧
        (s.serveMessage r.body shutdown).2 = none) := by
  have instead (status : ℕ) : ∀ response ∈ some (empty status), response.Bare := by
    rintro response ⟨⟩
    exact bare_empty status
  by_cases options : r.method = "OPTIONS"
  · refine ⟨some (empty 200), instead 200, ?_, nofun⟩
    rw [serveRequest_options s config shutdown options, Option.map_some]
  · cases found : Route.ofPath? r.path with
    | none =>
        refine ⟨some (empty 404), instead 404, ?_, nofun⟩
        rw [serveRequest, if_neg options, found]
    | some route =>
        by_cases admits : route.admits r.method = true
        · refine ⟨(s.serveRoute config shutdown r route).2,
            bare_serveRoute s config shutdown r route, ?_, fun none => ?_⟩
          · rw [serveRequest, if_neg options, found]
            simp only [if_pos admits]
          · obtain ⟨rfl, unanswered⟩ := serveRoute_none none
            exact ⟨of_decide_eq_true admits, rfl, unanswered⟩
        · refine ⟨some (empty 405), instead 405, ?_, nofun⟩
          rw [serveRequest, if_neg options, found]
          simp only [if_neg admits, Option.map_some]

end Server

/-! ### All responses -/

/-- **A response may be read by the origin of its request if that is listed, and by no other.**
Whatever a request asks for, and whatever comes of it, the fields that let an origin read the
response are there if and only if the first origin that the request names is readable and
listed, or all origins are. They name that origin as it is. A request for options is answered
at once and changes nothing; only a message may go without a response. -/
theorem responses_open_to_listed_origins {σ : Type} [ResultCache σ] (s : Server σ)
    (config : HttpConfig) (shutdown : Token) (r : Http.Request) :
    (∀ response ∈ (s.serveRequest config shutdown r).2,
      ((∀ name ∈ Http.originFields, Http.valuesOf response.headers name ≠ [])
        ↔ ∃ origin, Http.Grants config.allowedOrigins r origin) ∧
      (∀ origin, Http.Grants config.allowedOrigins r origin → response.OpenTo origin) ∧
      ((∀ origin, ¬ Http.Grants config.allowedOrigins r origin) →
        ∀ name ∈ Http.originFields, Http.valuesOf response.headers name = [])) ∧
    ((s.serveRequest config shutdown r).2 = none → r.method = "POST" ∧
      Http.Route.ofPath? r.path = some .message ∧ (s.serveMessage r.body shutdown).2 = none) ∧
    (r.method = "OPTIONS" → ∃ response,
      s.serveRequest config shutdown r = (s, some response) ∧ response.status = 200) := by
  obtain ⟨bare, plain, served, missing⟩ := s.serveRequest_bare config shutdown r
  refine ⟨fun response h => ?_, fun none => ?_, fun options => ?_⟩
  · rw [served] at h
    obtain ⟨made, there, rfl⟩ := Option.map_eq_some_iff.mp h
    have lets : ∀ origin, Http.Grants config.allowedOrigins r origin →
        (Http.finish config.allowedOrigins r made).OpenTo origin :=
      fun origin granted => Http.openTo_finish (plain made there) granted
    have none : (∀ origin, ¬ Http.Grants config.allowedOrigins r origin) →
        ∀ name ∈ Http.originFields,
          Http.valuesOf (Http.finish config.allowedOrigins r made).headers name = [] :=
      fun foreign name mem => Http.bare_finish (plain made there) foreign mem
    refine ⟨⟨fun all => ?_, fun ⟨origin, granted⟩ name mem => ?_⟩, lets, none⟩
    · by_contra foreign
      exact all _ List.mem_cons_self (none (not_exists.mp foreign) _ List.mem_cons_self)
    · have opened := lets origin granted
      simp only [Http.originFields, List.mem_cons, List.not_mem_nil, or_false] at mem
      rcases mem with rfl | rfl | rfl
      · simp [opened.origin]
      · simp [opened.methods]
      · simp [opened.headers]
  · exact missing (Option.map_eq_none_iff.mp (served.symm.trans none))
  · exact ⟨_, s.serveRequest_options config shutdown options, rfl⟩

end ToolServer
