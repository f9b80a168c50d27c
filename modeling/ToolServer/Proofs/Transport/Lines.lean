/-
Requests that come line by line and are carried out at the same time:

* `requestIn`, `requestsIn`: the request in a line, and those in many;
* `Task`, `Parcel`, `State`: what carries a request out, a response on its way, and the
  service with all of them;
* `State.act`, `State.run`: what the service, its tasks and their surroundings do, in any
  order;
* `Kept`, `kept_run`: the invariant. Every response that is there is in one place;
* `linesOf_flatten`: lines that are written one behind the other are read as they are;
* `lines_are_answered_once`: every request is handed over once and answered by one line.

The channel between tasks and service has a bounded size. A task that finds it full waits
until there is room, while the service may read, write or stop.
-/
import ToolServer.Proofs.Server.Responses
import ToolServer.Transport.Lines

namespace ToolServer.Lines

open ToolServer.Text (Bytes)
open ToolServer.Execution (Token foldl_getD_induct)

/-! ### The service -/

/-- The request in a line, if the line is text: what stands between its blanks, if there
is anything. -/
def requestIn (line : Bytes) : Except ServerError (Option Bytes) :=
  match Text.decode? line with
  | .error fault => .error (.io fault.message)
  | .ok cs =>
    let request := Text.trim (String.ofList cs)
    .ok (if request.isEmpty then none else some (Text.bytesOf request))

/-- The requests in some lines. -/
def requestsIn (lines : List Bytes) : List Bytes :=
  lines.filterMap fun line => (requestIn line).toOption.join

/-- How far a task has come. -/
inductive Stage
  /-- It has not begun. -/
  | spawned
  /-- It waits for the end of a call. -/
  | underWay (id : Option RequestId) (call : Call)
  /-- The request has been carried out. -/
  | ended (response : Option Response)

/-- What carries a request out. -/
structure Task where
  request : Bytes
  stage : Stage := .spawned

/-- Whether a task is over. -/
def Task.isOver (t : Task) : Bool :=
  match t.stage with
  | .ended _ => true
  | .spawned | .underWay .. => false

/-- A response with the number of its request. -/
structure Parcel where
  number : ℕ
  response : Response

/-- The line for a response. -/
def Parcel.line (p : Parcel) : Bytes :=
  Text.bytesOf (p.response.text ++ "\n")

/-- How far a task has come with a reply. -/
def Stage.of : Reply → Stage
  | .ready response => .ended response
  | .underWay id call => .underWay id call

/-- The response in the reply to a request, if there is one. -/
def parcelsOf (i : ℕ) : Reply → List Parcel
  | .ready (some r) => [⟨i, r⟩]
  | .ready none | .underWay .. => []

/-- What a service does. -/
inductive Phase
  /-- It waits for something to read, for a response to write, or for the end. -/
  | choosing
  /-- It writes a line, of which there is a rest. -/
  | writing (p : Parcel) (rest : Bytes)
  /-- It has returned. -/
  | returned (result : Except ServerError Unit)

/-- The number of responses that the channel has room for. -/
def room : ℕ := 64

/-- A service that reads requests and writes responses line by line. -/
structure State (σ : Type) where
  server : Server σ
  /-- The lines that have not been read. -/
  lines : List Bytes
  /-- Whether there is nothing more to read. -/
  closing : Bool := false
  /-- A task for each request, in the order of the requests. -/
  tasks : List Task := []
  /-- The responses whose tasks wait for room in the channel. -/
  sending : List Parcel := []
  /-- The responses in the channel. -/
  queue : List Parcel := []
  phase : Phase := .choosing
  /-- What has been written. -/
  output : Bytes := []
  /-- The responses whose lines have been written. -/
  written : List Parcel := []
  /-- The responses that nobody takes any more. -/
  lost : List Parcel := []
  /-- The numbers of the requests that have been handed to the server. -/
  handed : List ℕ := []
  /-- Whether the service is to stop. -/
  cancelled : Bool := false

/-- Something that happens to a service. -/
inductive Action (σ : Type)
  /-- Something else happens in the server. -/
  | meanwhile (s : Server σ)
  /-- The service is told to stop. -/
  | cancel
  /-- A line is read, or the end of the input. -/
  | read
  /-- A task hands its request to the server. -/
  | start (i : ℕ)
  /-- A task goes on with its call. -/
  | pursue (i : ℕ)
  /-- A task puts its response into the channel. -/
  | send (k : ℕ)
  /-- A response is taken from the channel. -/
  | receive
  /-- Some bytes of a line are written. -/
  | write (n : ℕ)
  /-- The service stops since it has been told to. -/
  | stop
  /-- The service returns since all tasks are over. -/
  | finish

/-- Whether the service does something by itself, or one of its tasks that waits for no
call. -/
def Action.IsOwn {σ : Type} : Action σ → Prop
  | .read | .start _ | .send _ | .receive | .write _ | .finish => True
  | .meanwhile _ | .cancel | .pursue _ | .stop => False

namespace State

variable {σ : Type} [ResultCache σ]

/-- A service at its start. -/
def new (s : Server σ) (input : Bytes) : State σ :=
  { server := s, lines := linesOf input }

/-- A task has come to a reply, and sends the response if there is one. -/
def proceed (v : State σ) (i : ℕ) (request : Bytes) (done : Server σ × Reply) : State σ :=
  { v with
      server := done.1
      tasks := v.tasks.set i ⟨request, .of done.2⟩
      sending := v.sending ++ parcelsOf i done.2 }

/-- Whether the service has returned. -/
def hasReturned (v : State σ) : Bool :=
  match v.phase with
  | .returned _ => true
  | .choosing | .writing .. => false

/-- A line is read, or the end of the input. -/
def read (v : State σ) : State σ :=
  match v.lines with
  | [] => { v with closing := true }
  | line :: lines =>
    match requestIn line with
    | .error e => { v with lines, phase := .returned (.error e) }
    | .ok none => { v with lines }
    | .ok (some request) => { v with lines, tasks := v.tasks ++ [{ request }] }

/-- Some bytes of a line are written; the service goes on when the line is complete. -/
def write (v : State σ) (p : Parcel) (rest : Bytes) (n : ℕ) : State σ :=
  if rest.length ≤ n then
    { v with output := v.output ++ rest, phase := .choosing, written := v.written ++ [p] }
  else { v with output := v.output ++ rest.take n, phase := .writing p (rest.drop n) }

/-- A response is put into the channel if there is room, or lost if the service has
returned. -/
def send (v : State σ) (k : ℕ) (p : Parcel) : Option (State σ) :=
  if v.hasReturned then
    some { v with sending := v.sending.eraseIdx k, lost := v.lost ++ [p] }
  else if v.queue.length < room then
    some { v with sending := v.sending.eraseIdx k, queue := v.queue ++ [p] }
  else none

/-- What comes of an action under a caller's token, if it can happen. -/
def act (caller : Token) (v : State σ) : Action σ → Option (State σ)
  | .meanwhile server => some { v with server }
  | .cancel => some { v with cancelled := true }
  | .read =>
    match v.phase with
    | .choosing => if v.closing then none else some v.read
    | .writing .. | .returned _ => none
  | .start i =>
    match v.tasks[i]? with
    | some ⟨request, .spawned⟩ =>
      some <| { v with handed := v.handed ++ [i] }.proceed i request
        (v.server.receive request caller)
    | some ⟨_, .underWay ..⟩ | some ⟨_, .ended _⟩ | none => none
  | .pursue i =>
    match v.tasks[i]? with
    | some ⟨request, .underWay id call⟩ =>
      some (v.proceed i request (v.server.pursue (.underWay id call)))
    | some ⟨_, .spawned⟩ | some ⟨_, .ended _⟩ | none => none
  | .send k =>
    match v.sending[k]? with
    | some p => v.send k p
    | none => none
  | .receive =>
    match v.phase, v.queue with
    | .choosing, p :: queue => some { v with queue, phase := .writing p p.line }
    | _, _ => none
  | .write n =>
    match v.phase with
    | .writing p rest => if n = 0 then none else some (v.write p rest n)
    | .choosing | .returned _ => none
  | .stop =>
    match v.phase with
    | .choosing => if v.cancelled then some { v with phase := .returned (.ok ()) } else none
    | .writing .. | .returned _ => none
  | .finish =>
    match v.phase with
    | .choosing =>
      if v.closing && v.sending.isEmpty && v.queue.isEmpty && v.tasks.all Task.isOver then
        some { v with phase := .returned (.ok ()) }
      else none
    | .writing .. | .returned _ => none

/-- What comes of an action; one that cannot happen changes nothing. -/
def next (caller : Token) (v : State σ) (a : Action σ) : State σ :=
  (v.act caller a).getD v

/-- What comes of a list of actions. -/
def run (caller : Token) (v : State σ) (acts : List (Action σ)) : State σ :=
  acts.foldl (next caller) v

/-- What is kept by every action is kept by all. -/
lemma run_induct {caller : Token} {P : State σ → Prop}
    (step : ∀ v a v', P v → v.act caller a = some v' → P v') (acts : List (Action σ))
    {v : State σ} (start : P v) : P (v.run caller acts) :=
  foldl_getD_induct step acts start

/-! ### Where responses are -/

/-- The response whose line is being written. -/
def current (v : State σ) : List Parcel :=
  match v.phase with
  | .writing p _ => [p]
  | .choosing | .returned _ => []

/-- What is left of this line. -/
def rest (v : State σ) : Bytes :=
  match v.phase with
  | .writing _ rest => rest
  | .choosing | .returned _ => []

/-- All responses that are there: those whose tasks wait for room, those in the channel,
the one that is being written, and those that have been written or lost. -/
def parcels (v : State σ) : List Parcel :=
  v.sending ++ v.queue ++ v.current ++ v.written ++ v.lost

variable {v : State σ}

omit [ResultCache σ] in
/-- Where no line is being written, none is left to write. -/
lemma rest_eq_nil (between : v.current = []) : v.rest = [] := by
  rw [rest]
  split
  · next p rest writing =>
      rw [current, writing] at between
      cases between
  · rfl
  · rfl

omit [ResultCache σ] in
/-- A service that has returned writes no line. -/
lemma current_eq_nil (returned : v.hasReturned = true) : v.current = [] := by
  rw [current]
  split
  · next p rest writing =>
      rw [hasReturned, writing] at returned
      cases returned
  · rfl
  · rfl

end State

/-! ### The invariant -/

/-- Whether a task stands as it should: its response is one that the server may give to
its request, whatever it does in between. -/
def Task.Fits (σ : Type) [ResultCache σ] (caller : Token) (t : Task) : Prop :=
  match t.stage with
  | .spawned => True
  | .underWay id call => ∀ response, (Reply.underWay id call).ComesTo σ response →
      ∃ s : Server σ, (s.receive t.request caller).2.ComesTo σ response
  | .ended response => ∃ s : Server σ, (s.receive t.request caller).2.ComesTo σ response

variable {σ : Type} [ResultCache σ] {caller : Token} {requests : List Bytes} {v v' : State σ}

/-- A service all of whose requests and responses are in one place. -/
structure Kept (caller : Token) (requests : List Bytes) (v : State σ) : Prop where
  asked : v.tasks.map Task.request ++ requestsIn v.lines = requests
  readable : ∀ line ∈ v.lines, ∃ request, requestIn line = .ok request
  fits : ∀ t ∈ v.tasks, t.Fits σ caller
  once : v.handed.Nodup
  handed : ∀ i, i ∈ v.handed ↔ ∃ t, v.tasks[i]? = some t ∧ t.stage ≠ .spawned
  apart : (v.parcels.map Parcel.number).Nodup
  parcels : ∀ p, p ∈ v.parcels ↔
    ∃ request, v.tasks[p.number]? = some ⟨request, .ended (some p.response)⟩
  output : v.output ++ v.rest = ((v.written ++ v.current).map Parcel.line).flatten
  closed : v.closing = true → v.lines = []
  sound : ∀ e, v.phase ≠ .returned (.error e)
  waits : v.hasReturned = false → v.lost = []
  done : v.hasReturned = true → v.cancelled = false → v.closing = true ∧ v.sending = [] ∧
    v.queue = [] ∧ v.lost = [] ∧ v.tasks.all Task.isOver = true

/-- The response in the reply to a request has the number of the request. -/
lemma number_of_mem {i : ℕ} {reply : Reply} {p : Parcel} (h : p ∈ parcelsOf i reply) :
    p.number = i := by
  cases reply with
  | underWay id call => cases h
  | ready response =>
      cases response with
      | none => cases h
      | some r => rw [List.mem_singleton.mp h]

/-- A response is sent exactly if the task has ended with it. -/
lemma mem_parcelsOf {i : ℕ} {r : Response} {request : Bytes} {reply : Reply} :
    ⟨i, r⟩ ∈ parcelsOf i reply
      ↔ ∃ q, some (Task.mk request (.of reply)) = some ⟨q, .ended (some r)⟩ := by
  cases reply with
  | underWay id call => simp [parcelsOf, Stage.of]
  | ready response => cases response <;> simp [parcelsOf, Stage.of, eq_comm]

/-- What is in a list with one item more. -/
lemma getElem?_concat_iff {α : Type} {as : List α} {a b : α} {i : ℕ} :
    (as ++ [a])[i]? = some b ↔ as[i]? = some b ∨ i = as.length ∧ b = a := by
  rcases Nat.lt_trichotomy i as.length with lt | rfl | gt
  · simp [List.getElem?_append_left lt, lt.ne]
  · simp [eq_comm]
  · simp [List.getElem?_eq_none_iff.mpr, gt.le, gt.ne', Nat.succ_le_of_lt gt]

namespace Kept

/-- Responses change their places, and nothing else happens to requests and responses. -/
lemma shift (h : Kept caller requests v) (tasks : v'.tasks = v.tasks) (lines : v'.lines = v.lines)
    (handed : v'.handed = v.handed) (parcels : v'.parcels.Perm v.parcels)
    (output : v'.output ++ v'.rest = ((v'.written ++ v'.current).map Parcel.line).flatten)
    (closing : v'.closing = true → v'.lines = []) (sound : ∀ e, v'.phase ≠ .returned (.error e))
    (waits : v'.hasReturned = false → v'.lost = [])
    (done : v'.hasReturned = true → v'.cancelled = false → v'.closing = true ∧ v'.sending = [] ∧
      v'.queue = [] ∧ v'.lost = [] ∧ v'.tasks.all Task.isOver = true) :
    Kept caller requests v' where
  asked := by rw [tasks, lines]; exact h.asked
  readable := by rw [lines]; exact h.readable
  fits := by rw [tasks]; exact h.fits
  once := by rw [handed]; exact h.once
  handed := by rw [handed, tasks]; exact h.handed
  apart := (parcels.map _).nodup_iff.mpr h.apart
  parcels p := by rw [parcels.mem_iff, tasks]; exact h.parcels p
  output := output
  closed := closing
  sound := sound
  waits := waits
  done := done

/-- A task goes on with its request. -/
lemma proceed (h : Kept caller requests v) {i : ℕ} {t : Task} (there : v.tasks[i]? = some t)
    (going : t.isOver = false) {hs : List ℕ} (once : hs.Nodup)
    (handed : ∀ j, j ∈ hs ↔ j = i ∨ j ∈ v.handed) {done : Server σ × Reply}
    (comes : ∀ response, done.2.ComesTo σ response →
      ∃ s : Server σ, (s.receive t.request caller).2.ComesTo σ response) :
    Kept caller requests ({ v with handed := hs }.proceed i t.request done) := by
  have hi : i < v.tasks.length := (List.getElem?_eq_some_iff.mp there).1
  have unended : ∀ p ∈ v.parcels, p.number ≠ i := by
    rintro p hp rfl
    obtain ⟨request, ended⟩ := (h.parcels p).mp hp
    obtain rfl := Option.some.inj (ended.symm.trans there)
    cases going
  have parcels : ({ v with handed := hs }.proceed i t.request done).parcels.Perm
      (parcelsOf i done.2 ++ v.parcels) := by
    simp only [State.parcels, State.proceed, List.append_assoc]
    exact (List.perm_append_comm_assoc _ _ _)
  refine ⟨?_, h.readable, ?_, once, fun j => ?_, ?_, fun p => ?_, h.output, h.closed, h.sound,
    h.waits, fun returned uncancelled => ?_⟩
  · have same : (v.tasks.map Task.request)[i]? = some t.request := by
      rw [List.getElem?_map, there]
      rfl
    show (v.tasks.set i _).map Task.request ++ _ = _
    rw [List.map_set, Execution.set_of_getElem? same]
    exact h.asked
  · intro u hu
    rcases List.mem_or_eq_of_mem_set hu with hu | rfl
    · exact h.fits u hu
    · cases reply : done.2 with
      | ready response => exact comes response (reply ▸ .ready response)
      | underWay id call => exact fun response later => comes response (reply ▸ later)
  · show j ∈ hs ↔ ∃ u, (v.tasks.set i _)[j]? = some u ∧ u.stage ≠ .spawned
    rw [handed j]
    by_cases same : j = i
    · subst same
      rw [List.getElem?_set_self hi]
      refine iff_of_true (.inl rfl) ⟨_, rfl, ?_⟩
      cases done.2 <;> simp [Stage.of]
    · rw [List.getElem?_set_ne (Ne.symm same), or_iff_right same]
      exact h.handed j
  · refine (parcels.map _).nodup_iff.mpr ?_
    rw [List.map_append]
    refine List.nodup_append.mpr ⟨?_, h.apart, ?_⟩
    · cases done.2 with
      | ready response => cases response <;> simp [parcelsOf]
      | underWay id call => simp [parcelsOf]
    · intro m hm n hn
      obtain ⟨p, hp, rfl⟩ := List.mem_map.mp hn
      have number : m = i := by
        obtain ⟨q, hq, rfl⟩ := List.mem_map.mp hm
        exact number_of_mem hq
      rw [number]
      exact (unended p hp).symm
  · show _ ↔ ∃ request, (v.tasks.set i _)[p.number]? = some ⟨request, .ended (some p.response)⟩
    rw [parcels.mem_iff, List.mem_append]
    by_cases same : p.number = i
    · rw [same, List.getElem?_set_self hi, or_iff_left fun old => unended p old same]
      obtain ⟨n, r⟩ := p
      obtain rfl : n = i := same
      exact mem_parcelsOf
    · rw [List.getElem?_set_ne (Ne.symm same), or_iff_right fun new => same (number_of_mem new)]
      exact h.parcels p
  · have over' := (h.done returned uncancelled).2.2.2.2
    have ended := List.all_eq_true.mp over' t (List.mem_of_getElem? there)
    rw [going] at ended
    cases ended

/-- The requests in the lines that are left, one of which is read. -/
lemma asked_of_line (h : Kept caller requests v) {line : Bytes} {lines : List Bytes}
    (unread : v.lines = line :: lines) {request : Option Bytes}
    (read : requestIn line = .ok request) :
    v.tasks.map Task.request ++ (request.toList ++ requestsIn lines) = requests := by
  have asked := h.asked
  rw [unread, requestsIn, List.filterMap_cons, read] at asked
  cases request <;> exact asked

/-- A line is read in which there is no request. -/
lemma skip (h : Kept caller requests v) {line : Bytes} {lines : List Bytes}
    (unread : v.lines = line :: lines) (read : requestIn line = .ok none)
    (open' : v.hasReturned = false) : Kept caller requests { v with lines } :=
  ⟨h.asked_of_line unread read, fun l hl => h.readable l (unread ▸ List.mem_cons_of_mem _ hl),
    h.fits, h.once, h.handed, h.apart, h.parcels, h.output,
    fun closing => absurd (unread ▸ h.closed closing) (List.cons_ne_nil _ _), h.sound, h.waits,
    fun returned => nomatch open'.symm.trans returned⟩

/-- A line is read, and a task begins with its request. -/
lemma spawn (h : Kept caller requests v) {line request : Bytes} {lines : List Bytes}
    (unread : v.lines = line :: lines) (read : requestIn line = .ok (some request))
    (open' : v.hasReturned = false) :
    Kept caller requests { v with lines, tasks := v.tasks ++ [{ request }] } := by
  refine ⟨?_, fun l hl => h.readable l (unread ▸ List.mem_cons_of_mem _ hl), ?_, h.once,
    fun i => ?_, h.apart, fun p => ?_, h.output,
    fun closing => absurd (unread ▸ h.closed closing) (List.cons_ne_nil _ _), h.sound, h.waits,
    fun returned => nomatch open'.symm.trans returned⟩
  · rw [List.map_append, List.append_assoc]
    exact h.asked_of_line unread read
  · intro t ht
    rcases List.mem_append.mp ht with old | new
    · exact h.fits t old
    · rw [List.mem_singleton.mp new]
      trivial
  · refine (h.handed i).trans ⟨?_, ?_⟩
    · rintro ⟨t, there, begun⟩
      exact ⟨t, getElem?_concat_iff.mpr (.inl there), begun⟩
    · rintro ⟨t, there, begun⟩
      rcases getElem?_concat_iff.mp there with there | ⟨-, rfl⟩
      · exact ⟨t, there, begun⟩
      · exact absurd rfl begun
  · refine (h.parcels p).trans ⟨?_, ?_⟩
    · rintro ⟨q, there⟩
      exact ⟨q, getElem?_concat_iff.mpr (.inl there)⟩
    · rintro ⟨q, there⟩
      rcases getElem?_concat_iff.mp there with there | ⟨-, new⟩
      · exact ⟨q, there⟩
      · cases new

/-- A line is read, or the end of the input. -/
lemma read (h : Kept caller requests v) (open' : v.hasReturned = false) :
    Kept caller requests v.read := by
  rw [State.read]
  split
  · next none =>
      exact h.shift rfl rfl rfl (.refl _) h.output (fun _ => none) h.sound h.waits
        fun returned => nomatch open'.symm.trans returned
  · next line lines unread =>
      obtain ⟨request, read⟩ := h.readable line (unread ▸ List.mem_cons_self)
      rw [read]
      cases request with
      | none => exact h.skip unread read open'
      | some request => exact h.spawn unread read open'

/-- A response is put into the channel, or lost. -/
lemma send (h : Kept caller requests v) {k : ℕ} {p : Parcel} (there : v.sending[k]? = some p)
    (sent : v.send k p = some v') : Kept caller requests v' := by
  have moved : (p :: v.sending.eraseIdx k).Perm v.sending := by
    obtain ⟨hk, rfl⟩ := List.getElem?_eq_some_iff.mp there
    exact List.getElem_cons_eraseIdx_perm hk
  rw [State.send] at sent
  split_ifs at sent with returned full
  · obtain rfl := Option.some.inj sent
    refine h.shift rfl rfl rfl ?_ h.output h.closed h.sound ?_ ?_
    · show (v.sending.eraseIdx k ++ v.queue ++ v.current ++ v.written ++ (v.lost ++ [p])).Perm _
      rw [← List.append_assoc]
      exact (List.perm_append_singleton p _).trans
        ((((moved.append_right _).append_right _).append_right _).append_right _)
    · exact fun open' => nomatch open'.symm.trans returned
    · intro _ uncancelled
      rw [(h.done returned uncancelled).2.1] at there
      cases there
  · obtain rfl := Option.some.inj sent
    refine h.shift rfl rfl rfl ?_ h.output h.closed h.sound h.waits
      fun returned' => absurd returned' returned
    show (v.sending.eraseIdx k ++ (v.queue ++ [p]) ++ v.current ++ v.written ++ v.lost).Perm _
    rw [← List.append_assoc]
    exact ((((List.perm_append_singleton p _).trans (moved.append_right _)).append_right _
      ).append_right _).append_right _

/-- A response is taken from the channel. -/
lemma receive (h : Kept caller requests v) (choosing : v.phase = .choosing) {p : Parcel}
    {queue : List Parcel} (there : v.queue = p :: queue) :
    Kept caller requests { v with queue, phase := .writing p p.line } := by
  have output := h.output
  have waits := h.waits
  rw [State.rest, State.current, choosing, List.append_nil, List.append_nil] at output
  rw [State.hasReturned, choosing] at waits
  refine h.shift rfl rfl rfl ?_ ?_ h.closed (fun _ => nofun) waits nofun
  · have current : v.current = [] := by rw [State.current, choosing]
    show (v.sending ++ queue ++ [p] ++ v.written ++ v.lost).Perm
      (v.sending ++ v.queue ++ v.current ++ v.written ++ v.lost)
    rw [current, there, List.append_nil]
    refine List.Perm.append_right _ (List.Perm.append_right _ ?_)
    rw [List.append_assoc]
    exact (List.perm_append_singleton p queue).append_left _
  · simp only [State.rest, State.current]
    rw [output, List.map_append, List.flatten_append, List.map_singleton, List.flatten_singleton]

/-- Some bytes of a line are written. -/
lemma write (h : Kept caller requests v) {p : Parcel} {rest : Bytes}
    (writing : v.phase = .writing p rest) (n : ℕ) : Kept caller requests (v.write p rest n) := by
  have output := h.output
  have waits := h.waits
  rw [State.rest, State.current, writing] at output
  rw [State.hasReturned, writing] at waits
  have current : v.current = [p] := by rw [State.current, writing]
  rw [State.write]
  split_ifs with all
  · refine h.shift rfl rfl rfl ?_ ?_ h.closed (fun _ => nofun) waits nofun
    · show (v.sending ++ v.queue ++ [] ++ (v.written ++ [p]) ++ v.lost).Perm
        (v.sending ++ v.queue ++ v.current ++ v.written ++ v.lost)
      rw [current, List.append_nil]
      have swap : (v.sending ++ v.queue ++ (v.written ++ [p])).Perm
          (v.sending ++ v.queue ++ ([p] ++ v.written)) := .append_left _ List.perm_append_comm
      rw [← List.append_assoc _ [p]] at swap
      exact swap.append_right _
    · show v.output ++ rest ++ [] = ((v.written ++ [p] ++ []).map Parcel.line).flatten
      rw [List.append_nil, List.append_nil]
      exact output
  · refine h.shift rfl rfl rfl ?_ ?_ h.closed (fun _ => nofun) waits nofun
    · rw [State.parcels, State.parcels, current]
      exact .refl _
    · show v.output ++ rest.take n ++ rest.drop n = ((v.written ++ [p]).map Parcel.line).flatten
      rw [List.append_assoc, List.take_append_drop]
      exact output

/-- The service returns. -/
lemma leave (h : Kept caller requests v) (choosing : v.phase = .choosing)
    (done : v.cancelled = false → v.closing = true ∧ v.sending = [] ∧ v.queue = [] ∧
      v.tasks.all Task.isOver = true) :
    Kept caller requests { v with phase := .returned (.ok ()) } := by
  have output := h.output
  rw [State.rest, State.current, choosing] at output
  have current : v.current = [] := by rw [State.current, choosing]
  refine h.shift rfl rfl rfl ?_ output h.closed (fun e => nofun) nofun fun _ uncancelled => ?_
  · rw [State.parcels, State.parcels, current]
    exact .refl _
  · obtain ⟨closing, sending, queue, over'⟩ := done uncancelled
    exact ⟨closing, sending, queue, h.waits (by rw [State.hasReturned, choosing]), over'⟩

/-- **No action breaks the invariant.** -/
lemma act {a : Action σ} (h : Kept caller requests v) (act : v.act caller a = some v') :
    Kept caller requests v' := by
  cases a with
  | meanwhile s =>
      obtain rfl := Option.some.inj act
      exact h.shift rfl rfl rfl (.refl _) h.output h.closed h.sound h.waits h.done
  | cancel =>
      obtain rfl := Option.some.inj act
      exact h.shift rfl rfl rfl (.refl _) h.output h.closed h.sound h.waits fun _ => nofun
  | read =>
      simp only [State.act] at act
      split at act
      · next choosing =>
          split_ifs at act
          obtain rfl := Option.some.inj act
          exact h.read (by rw [State.hasReturned, choosing])
      · cases act
      · cases act
  | start i =>
      simp only [State.act] at act
      split at act
      · next request there =>
          obtain rfl := Option.some.inj act
          have new : i ∉ v.handed := by
            rw [h.handed i]
            rintro ⟨t, there', begun⟩
            obtain rfl := Option.some.inj (there'.symm.trans there)
            exact begun rfl
          have once : (v.handed ++ [i]).Nodup := List.concat_eq_append ▸ h.once.concat new
          refine h.proceed there rfl once (fun j => ?_) fun response comes => ⟨v.server, comes⟩
          rw [List.mem_append, List.mem_singleton, or_comm]
      · cases act
      · cases act
      · cases act
  | pursue i =>
      simp only [State.act] at act
      split at act
      · next request id call there =>
          obtain rfl := Option.some.inj act
          have begun : i ∈ v.handed := (h.handed i).mpr ⟨_, there, nofun⟩
          have fits := h.fits _ (List.mem_of_getElem? there)
          refine h.proceed there rfl h.once (fun j => ?_)
            fun response comes => fits response (Server.comesTo_of_pursue comes)
          exact ⟨.inr, fun hj => hj.elim (fun same => same ▸ begun) fun old => old⟩
      · cases act
      · cases act
      · cases act
  | send k =>
      simp only [State.act] at act
      split at act
      · next p there => exact h.send there act
      · cases act
  | receive =>
      simp only [State.act] at act
      split at act
      · next p queue choosing there =>
          obtain rfl := Option.some.inj act
          exact h.receive choosing there
      · cases act
  | write n =>
      simp only [State.act] at act
      split at act
      · next p rest writing =>
          split_ifs at act
          obtain rfl := Option.some.inj act
          exact h.write writing n
      · cases act
      · cases act
  | stop =>
      simp only [State.act] at act
      split at act
      · next choosing =>
          split_ifs at act with cancelled
          obtain rfl := Option.some.inj act
          exact h.leave choosing fun uncancelled => nomatch uncancelled.symm.trans cancelled
      · cases act
      · cases act
  | finish =>
      simp only [State.act] at act
      split at act
      · next choosing =>
          split_ifs at act with all
          obtain rfl := Option.some.inj act
          simp only [Bool.and_eq_true, List.isEmpty_iff] at all
          obtain ⟨⟨⟨closing, sending⟩, queue⟩, over'⟩ := all
          exact h.leave choosing fun _ => ⟨closing, sending, queue, over'⟩
      · cases act
      · cases act

end Kept

/-! ### Lines -/

lemma consByte_lineFeed (lines : List Bytes) : consByte 0x0A lines = [0x0A] :: lines :=
  if_pos rfl

lemma consByte_other {b : UInt8} (h : b ≠ 0x0A) (lines : List Bytes) :
    consByte b lines = match lines with
      | [] => [[b]]
      | l :: rest => (b :: l) :: rest := by
  cases lines with
  | nil => exact if_neg h
  | cons l rest => exact if_neg h

/-- Bytes without a line feed, and the line feed behind them, are one line. -/
lemma linesOf_line {bytes : Bytes} (h : 0x0A ∉ bytes) (rest : Bytes) :
    linesOf (bytes ++ 0x0A :: rest) = (bytes ++ [0x0A]) :: linesOf rest := by
  induction bytes with
  | nil => exact consByte_lineFeed (linesOf rest)
  | cons b bytes ih =>
      have other : b ≠ 0x0A := fun eq => h (eq ▸ List.mem_cons_self)
      have split := ih fun there => h (List.mem_cons_of_mem _ there)
      show consByte b (linesOf (bytes ++ 0x0A :: rest)) = _
      rw [split, consByte_other other]
      rfl

/-- A response is written as one line. -/
lemma Parcel.line_eq (p : Parcel) : p.line = Text.bytesOf p.response.text ++ [0x0A] := by
  rw [Parcel.line, Text.bytesOf, String.toList_append, Text.encode_append]
  rfl

/-- **Lines that are written one behind the other are read as they are.** -/
lemma linesOf_flatten (ps : List Parcel) :
    linesOf (ps.map Parcel.line).flatten = ps.map Parcel.line := by
  induction ps with
  | nil => rfl
  | cons p ps ih =>
      rw [List.map_cons, List.flatten_cons, p.line_eq, List.append_assoc]
      refine (linesOf_line (Json.lineFeed_not_mem_bytesOf_text p.response.toJson) _).trans ?_
      exact congrArg (_ :: ·) ih

/-- No other character has the byte of the line feed. -/
lemma lineFeed_not_mem_encodeChar {c : Char} (h : c ≠ '\n') : 0x0A ∉ Text.encodeChar c := by
  intro there
  by_cases ascii : c.toNat < 0x80
  · rw [Json.encodeChar_of_ascii ascii, List.mem_singleton] at there
    have number := congrArg UInt8.toNat there
    rw [Text.toNat_byte (by omega)] at number
    exact h (Char.toNat_inj.mp number.symm)
  · exact absurd (Json.byte_ge_of_mem_encodeChar (not_lt.mp ascii) _ there) (by decide)

/-- What stands in front of a line belongs to it. -/
lemma linesOf_append {bytes : Bytes} (h : 0x0A ∉ bytes) (nonempty : bytes ≠ []) (rest : Bytes) :
    linesOf (bytes ++ rest)
      = match linesOf rest with
        | [] => [bytes]
        | line :: lines => (bytes ++ line) :: lines := by
  induction bytes with
  | nil => exact absurd rfl nonempty
  | cons b bytes ih =>
      have other : b ≠ 0x0A := fun eq => h (eq ▸ List.mem_cons_self)
      show consByte b (linesOf (bytes ++ rest)) = _
      cases bytes with
      | nil =>
          rw [List.nil_append, consByte_other other]
          cases linesOf rest <;> rfl
      | cons b' bytes =>
          rw [ih (fun there => h (List.mem_cons_of_mem _ there)) (List.cons_ne_nil _ _),
            consByte_other other]
          cases linesOf rest <;> rfl

/-- **The lines of a text are texts.** -/
lemma line_of_encode {cs : List Char} {line : Bytes} (h : line ∈ linesOf (Text.encode cs)) :
    ∃ ds, line = Text.encode ds := by
  induction cs generalizing line with
  | nil => cases h
  | cons c cs ih =>
      rw [Text.encode_cons] at h
      by_cases feed : c = '\n'
      · subst feed
        have h : line ∈ [0x0A] :: linesOf (Text.encode cs) :=
          (consByte_lineFeed (linesOf (Text.encode cs))) ▸ h
        rcases List.mem_cons.mp h with rfl | h
        · exact ⟨['\n'], rfl⟩
        · exact ih h
      · have nonempty : Text.encodeChar c ≠ [] := by
          rw [Text.encodeChar]
          split_ifs <;> exact List.cons_ne_nil _ _
        rw [linesOf_append (lineFeed_not_mem_encodeChar feed) nonempty] at h
        split at h
        · refine ⟨[c], ?_⟩
          rw [List.mem_singleton.mp h, Text.encode_cons, Text.encode_nil, List.append_nil]
        · next first rest lines =>
            rcases List.mem_cons.mp h with rfl | h
            · obtain ⟨ds, rfl⟩ := ih (lines ▸ List.mem_cons_self)
              exact ⟨c :: ds, (Text.encode_cons c ds).symm⟩
            · exact ih (lines ▸ List.mem_cons_of_mem _ h)

/-- A line of a text can be read. -/
lemma requestIn_of_text {text : String} {line : Bytes} (h : line ∈ linesOf (Text.bytesOf text)) :
    ∃ request, requestIn line = .ok request := by
  obtain ⟨ds, rfl⟩ := line_of_encode h
  rw [requestIn, Text.decode?_encode]
  exact ⟨_, rfl⟩

/-- A service at its start, for the lines of a text. -/
lemma kept_new (s : Server σ) (caller : Token) (text : String) :
    Kept caller (requestsIn (linesOf (Text.bytesOf text))) (State.new s (Text.bytesOf text)) where
  asked := rfl
  readable _ h := requestIn_of_text h
  fits _ h := absurd h List.not_mem_nil
  once := List.nodup_nil
  handed _ := ⟨fun h => absurd h List.not_mem_nil, fun ⟨_, there, _⟩ => nomatch there⟩
  apart := List.nodup_nil
  parcels _ := ⟨fun h => absurd h List.not_mem_nil, fun ⟨_, there⟩ => nomatch there⟩
  output := rfl
  closed := nofun
  sound := nofun
  waits _ := rfl
  done := nofun

/-- **At any time every request and every response is in one place.** -/
theorem kept_run (s : Server σ) (caller : Token) (text : String) (acts : List (Action σ)) :
    Kept caller (requestsIn (linesOf (Text.bytesOf text)))
      ((State.new s (Text.bytesOf text)).run caller acts) :=
  State.run_induct (fun _ _ _ h act => h.act act) acts (kept_new s caller text)

namespace Kept

/-- The response that has come of a request is one that it should get. -/
lemma handled (h : Kept caller requests v) {i : ℕ} {request : Bytes} {response : Option Response}
    (there : v.tasks[i]? = some ⟨request, .ended response⟩) : Handled request response := by
  obtain ⟨s, comes⟩ := h.fits _ (List.mem_of_getElem? there)
  exact handled_of_comesTo comes

/-- The requests that have been read are the first ones. -/
lemma request_eq (h : Kept caller requests v) {i : ℕ} {t : Task} (there : v.tasks[i]? = some t) :
    requests[i]? = some t.request := by
  have hi : i < (v.tasks.map Task.request).length := by
    rw [List.length_map]
    exact (List.getElem?_eq_some_iff.mp there).1
  rw [← h.asked, List.getElem?_append_left hi, List.getElem?_map, there]
  rfl

/-- A response that has been written is one that its request should get. -/
lemma handled_of_written (h : Kept caller requests v) {p : Parcel} (hp : p ∈ v.written) :
    ∃ request, requests[p.number]? = some request ∧ Handled request (some p.response) := by
  have there : p ∈ v.parcels := by
    simp only [State.parcels, List.mem_append]
    exact .inl (.inr hp)
  obtain ⟨request, ended⟩ := (h.parcels p).mp there
  exact ⟨request, h.request_eq ended, h.handled ended⟩

/-- No response is written twice. -/
lemma nodup_written (h : Kept caller requests v) : (v.written.map Parcel.number).Nodup := by
  refine h.apart.sublist (List.Sublist.map _ ?_)
  simp only [State.parcels, List.append_assoc]
  exact (List.sublist_append_left _ _).trans (List.sublist_append_right _ _) |>.trans
    (List.sublist_append_right _ _) |>.trans (List.sublist_append_right _ _)

/-- While no line is being written, what has been written are complete lines. -/
lemma lines_written (h : Kept caller requests v) (between : v.current = []) :
    v.output = (v.written.map Parcel.line).flatten ∧
      linesOf v.output = v.written.map Parcel.line := by
  have output := h.output
  rw [between, State.rest_eq_nil between, List.append_nil, List.append_nil] at output
  exact ⟨output, output ▸ linesOf_flatten v.written⟩

/-- When the service has returned without having been told to stop, all has been done. -/
lemma complete (h : Kept caller requests v) (returned : v.hasReturned = true)
    (uncancelled : v.cancelled = false) :
    v.handed.Perm (List.range requests.length) ∧
      ∀ (i : ℕ) (request : Bytes), requests[i]? = some request →
        ∃ response, Handled request response ∧
          ∀ r, ⟨i, r⟩ ∈ v.written ↔ response = some r := by
  obtain ⟨closing, sending, queue, lost, over'⟩ := h.done returned uncancelled
  have all : v.tasks.map Task.request = requests := by
    have asked := h.asked
    rwa [h.closed closing, requestsIn, List.filterMap_nil, List.append_nil] at asked
  have ended : ∀ (i : ℕ) (t : Task), v.tasks[i]? = some t →
      ∃ response, t.stage = .ended response := by
    intro i t there
    have isOver := List.all_eq_true.mp over' t (List.mem_of_getElem? there)
    rw [Task.isOver] at isOver
    split at isOver
    · next response stage => exact ⟨response, stage⟩
    · cases isOver
    · cases isOver
  refine ⟨?_, ?_⟩
  · refine (List.perm_ext_iff_of_nodup h.once List.nodup_range).mpr fun i => ?_
    rw [h.handed i, List.mem_range, ← all, List.length_map]
    refine ⟨fun ⟨t, there, _⟩ => (List.getElem?_eq_some_iff.mp there).1, fun hi => ?_⟩
    obtain ⟨response, stage⟩ := ended i _ (List.getElem?_eq_getElem hi)
    exact ⟨_, List.getElem?_eq_getElem hi, by rw [stage]; nofun⟩
  · intro i request there
    rw [← all, List.getElem?_map] at there
    obtain ⟨t, ht, rfl⟩ := Option.map_eq_some_iff.mp there
    obtain ⟨response, stage⟩ := ended i t ht
    obtain ⟨request, stage'⟩ := t
    obtain rfl : stage' = .ended response := stage
    refine ⟨response, h.handled ht, fun r => ?_⟩
    have only : v.parcels = v.written := by
      rw [State.parcels, sending, queue, State.current_eq_nil returned, lost]
      simp
    rw [← only, h.parcels ⟨i, r⟩, ht]
    simp

end Kept

/-- A service that has not returned can go on, unless all that is left are calls under
way. -/
lemma State.exists_isOwn (caller : Token) {v : State σ} (open' : v.hasReturned = false)
    (idle : ∀ t ∈ v.tasks, ∀ id call, t.stage ≠ .underWay id call) :
    ∃ a : Action σ, a.IsOwn ∧ (v.act caller a).isSome = true := by
  cases phase : v.phase with
  | writing p rest => exact ⟨.write 1, trivial, by simp [State.act, phase]⟩
  | returned result => simp [State.hasReturned, phase] at open'
  | choosing =>
      by_cases closing : v.closing = true
      · cases queue : v.queue with
        | cons p queue => exact ⟨.receive, trivial, by simp [State.act, phase, queue]⟩
        | nil =>
            cases sending : v.sending with
            | cons p sending =>
                refine ⟨.send 0, trivial, ?_⟩
                simp [State.act, State.send, sending, open', queue, room]
            | nil =>
                by_cases over' : v.tasks.all Task.isOver = true
                · refine ⟨.finish, trivial, ?_⟩
                  simp [State.act, phase, closing, queue, sending, over']
                · rw [List.all_eq_true] at over'
                  obtain ⟨t, not⟩ := not_forall.mp over'
                  obtain ⟨ht, going⟩ := Classical.not_imp.mp not
                  obtain ⟨i, there⟩ := List.mem_iff_getElem?.mp ht
                  refine ⟨.start i, trivial, ?_⟩
                  obtain ⟨request, stage⟩ := t
                  cases stage with
                  | spawned => simp [State.act, there]
                  | underWay id call => exact absurd rfl (idle _ ht id call)
                  | ended response => exact absurd rfl going
      · exact ⟨.read, trivial, by simp [State.act, phase, closing]⟩

/-- **Every request is handed over once and answered by one line.** Let a service read the
lines of a text and carry their requests out at the same time, and let everything happen in
any order: reading and writing, the steps of the tasks, and whatever else the server does.
At any time:

* no request has been handed to the server twice, and no response written twice; each is
  one that its request should get;
* what has been written are complete lines, one for each of these responses, but for the
  rest of the line that is being written; a reader finds these lines and no others;
* the service has not failed;
* if it has returned and has not been told to stop, every line that is not blank has been
  handed over exactly once, in its own task, and its response, if there is one, has been
  written;
* if it has not returned, it can go on by itself, or a call is under way. -/
theorem lines_are_answered_once (s : Server σ) (caller : Token) (text : String)
    (acts : List (Action σ)) :
    let requests := requestsIn (linesOf (Text.bytesOf text))
    let v := (State.new s (Text.bytesOf text)).run caller acts
    (v.handed.Nodup ∧ (∀ i ∈ v.handed, i < requests.length) ∧
      (v.written.map Parcel.number).Nodup ∧ ∀ p ∈ v.written, ∃ request,
        requests[p.number]? = some request ∧ Handled request (some p.response))
    ∧ (v.output ++ v.rest = ((v.written ++ v.current).map Parcel.line).flatten ∧
      ((∀ p rest, v.phase ≠ .writing p rest) →
        v.output = (v.written.map Parcel.line).flatten ∧
          linesOf v.output = v.written.map Parcel.line))
    ∧ (∀ e, v.phase ≠ .returned (.error e))
    ∧ (v.phase = .returned (.ok ()) → v.cancelled = false →
        v.handed.Perm (List.range requests.length) ∧
          ∀ (i : ℕ) (request : Bytes), requests[i]? = some request →
            ∃ response, Handled request response ∧
              ∀ r, ⟨i, r⟩ ∈ v.written ↔ response = some r)
    ∧ (v.phase ≠ .returned (.ok ()) →
        (∀ t ∈ v.tasks, ∀ id call, t.stage ≠ .underWay id call) →
        ∃ a : Action σ, a.IsOwn ∧ (v.act caller a).isSome = true) := by
  intro requests v
  have kept : Kept caller requests v := kept_run s caller text acts
  refine ⟨⟨kept.once, fun i hi => ?_, kept.nodup_written, fun p hp => kept.handled_of_written hp⟩,
    ⟨kept.output, fun between => kept.lines_written ?_⟩, kept.sound,
    fun returned uncancelled => kept.complete ?_ uncancelled,
    fun unreturned idle => State.exists_isOwn caller ?_ idle⟩
  · obtain ⟨t, there, -⟩ := (kept.handed i).mp hi
    exact (List.getElem?_eq_some_iff.mp (kept.request_eq there)).1
  · rw [State.current]
    split
    · next p rest writing => exact absurd writing (between p rest)
    · rfl
    · rfl
  · rw [State.hasReturned, returned]
  · rw [State.hasReturned]
    split
    · next result returned =>
        cases result with
        | ok => exact absurd returned unreturned
        | error e => exact absurd returned (kept.sound e)
    · rfl
    · rfl

/-- A blank line and one that is no message, read and answered. -/
def strayActions : List (Action Cache.Backend) :=
  [.read, .read, .start 0, .send 0, .receive, .write 7, .write 1000, .read, .finish]

/-- The answer to the line that is no message. -/
def strayAnswer : Response :=
  .failure none (.parseError "expected value at line 1 column 1")

lemma strayLines : linesOf (Text.bytesOf "\n x\n") = [[10], [32, 120, 10]] := by
  decide

lemma requestIn_blank : requestIn [10] = .ok none := by
  decide +kernel

lemma requestIn_stray : requestIn [32, 120, 10] = .ok (some [120]) := by
  decide +kernel

lemma strayActions_run :
    (State.new bareServer (Text.bytesOf "\n x\n")).run (.named "") strayActions
      = { server := bareServer, lines := [], closing := true, phase := .returned (.ok ())
          tasks := [⟨[120], .ended (some strayAnswer)⟩], handed := [0]
          output := Parcel.line ⟨0, strayAnswer⟩, written := [⟨0, strayAnswer⟩] } := by
  have received : bareServer.receive [120] (.named "")
      = (bareServer, .ready (some strayAnswer)) := rfl
  have length : (Parcel.line ⟨0, strayAnswer⟩).length = 119 := by decide +kernel
  simp [State.run, strayActions, State.new, State.next, State.act, State.read, strayLines,
    requestIn_blank, requestIn_stray, State.proceed, received, parcelsOf, Stage.of, State.send,
    State.hasReturned, room, State.write, length, Task.isOver]

theorem lines_are_answered_once_stray :
    let v := (State.new bareServer (Text.bytesOf "\n x\n")).run (.named "") strayActions
    v.phase = .returned (.ok ()) ∧ v.cancelled = false ∧ v.handed.Perm [0] ∧
      linesOf v.output = [Parcel.line ⟨0, strayAnswer⟩] ∧ Handled [120] (some strayAnswer) := by
  intro v
  have ran : v = _ := strayActions_run
  have returned : v.phase = .returned (.ok ()) := by rw [ran]
  have uncancelled : v.cancelled = false := by rw [ran]
  have one : v.written = [⟨0, strayAnswer⟩] := by rw [ran]
  have requests : requestsIn (linesOf (Text.bytesOf "\n x\n")) = [[120]] := by
    simp only [strayLines, requestsIn, List.filterMap_cons, List.filterMap_nil, requestIn_blank,
      requestIn_stray]
    rfl
  obtain ⟨-, ⟨-, written⟩, -, complete, -⟩ :=
    lines_are_answered_once bareServer (.named "") "\n x\n" strayActions
  obtain ⟨handed, answered⟩ := complete returned uncancelled
  obtain ⟨response, handled, there⟩ := answered 0 [120] (by rw [requests]; rfl)
  obtain rfl : response = some strayAnswer := (there _).mp (one ▸ List.mem_singleton_self _)
  rw [requests] at handed
  refine ⟨returned, uncancelled, handed, ?_, handled⟩
  refine (written fun p rest writing => ?_).2.trans (congrArg (List.map Parcel.line) one)
  exact nomatch returned.symm.trans writing

end ToolServer.Lines
