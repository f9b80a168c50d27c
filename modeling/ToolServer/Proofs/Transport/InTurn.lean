/-
The service that does one thing after the other is one of those whose tasks go on at the
same time:

* `State.Reaches`: what comes of some actions;
* `Mirrors`: the invariant. The tasks of a service have come as far as some replies;
* `Mirrors.takeLines`, `Mirrors.write`, `Mirrors.await`: taking lines in, a round of
  writing, and all rounds are actions of the service and its tasks;
* `serveLines_reached`: serving lines is one of the runs;
* `serveLines_answers`: so every request is answered by one line.
-/
import ToolServer.Proofs.Transport.Lines

namespace ToolServer.Lines

open ToolServer.Text (Bytes)
open ToolServer.Execution (Token)

variable {σ : Type} {caller : Token}

/-! ### What a service comes to -/

namespace State

variable [ResultCache σ]

/-- Whether a service comes from one state to another. -/
def Reaches (caller : Token) (v v' : State σ) : Prop :=
  ∃ acts, v.run caller acts = v'

variable {v v' v'' : State σ}

lemma Reaches.refl (v : State σ) : v.Reaches caller v :=
  ⟨[], rfl⟩

lemma Reaches.trans (h : v.Reaches caller v') (h' : v'.Reaches caller v'') :
    v.Reaches caller v'' := by
  obtain ⟨acts, rfl⟩ := h
  obtain ⟨acts', rfl⟩ := h'
  exact ⟨acts ++ acts', List.foldl_append⟩

lemma Reaches.of_act {a : Action σ} (h : v.act caller a = some v') : v.Reaches caller v' :=
  ⟨[a], congrArg (Option.getD · v) h⟩

/-- A response that waits for room is put into the channel and written as a whole. -/
lemma deliver_reaches (choosing : v.phase = .choosing) (queue : v.queue = []) {p : Parcel}
    {others : List Parcel} (waits : v.sending.Perm (p :: others)) :
    ∃ sending, sending.Perm others ∧
      v.Reaches caller { v with
        sending, output := v.output ++ p.line, written := v.written ++ [p] } := by
  obtain ⟨k, there⟩ := List.mem_iff_getElem?.mp (waits.mem_iff.mpr List.mem_cons_self)
  have rest : (v.sending.eraseIdx k).Perm others := by
    obtain ⟨hk, rfl⟩ := List.getElem?_eq_some_iff.mp there
    exact List.Perm.cons_inv ((List.getElem_cons_eraseIdx_perm hk).trans waits)
  refine ⟨_, rest, ?_⟩
  have sent : v.act caller (.send k)
      = some { v with sending := v.sending.eraseIdx k, queue := [p] } := by
    simp [act, there, send, hasReturned, choosing, queue, room]
  have received : State.act caller { v with sending := v.sending.eraseIdx k, queue := [p] } .receive
      = some { v with sending := v.sending.eraseIdx k, phase := .writing p p.line } := by
    simp [act, choosing, queue]
  have nonempty : p.line ≠ [] := by
    rw [p.line_eq]
    exact List.append_ne_nil_of_right_ne_nil _ (List.cons_ne_nil _ _)
  refine (Reaches.of_act sent).trans <| (Reaches.of_act received).trans <|
    .of_act (a := .write p.line.length) ?_
  simp [act, nonempty, write, choosing]

end State

/-! ### As far as some replies -/

/-- Whether the tasks of a service have come as far as some numbered replies of a server,
while some lines have not been read and some texts have been written. -/
structure Mirrors (v : State σ) (lines : List Bytes) (s : Server σ) (replies : List (ℕ × Reply))
    (texts : List String) : Prop where
  server : v.server = s
  lines : v.lines = lines
  unclosed : v.closing = false
  uncancelled : v.cancelled = false
  choosing : v.phase = .choosing
  queue : v.queue = []
  tasks : ∀ o ∈ replies, ∃ request, v.tasks[o.1]? = some ⟨request, .of o.2⟩
  apart : (replies.map Prod.fst).Nodup
  done : ∀ i t, v.tasks[i]? = some t → i ∈ replies.map Prod.fst ∨ t.isOver = true
  sending : v.sending.Perm (replies.flatMap fun o => parcelsOf o.1 o.2)
  written : v.written.map (fun p => p.response.text) = texts

namespace Mirrors

variable {v : State σ} {lines : List Bytes} {s s' : Server σ}
  {replies replies' : List (ℕ × Reply)} {texts : List String} {i : ℕ} {response : Response}

lemma new (s : Server σ) (input : Bytes) : Mirrors (.new s input) (linesOf input) s [] [] where
  server := rfl
  lines := rfl
  unclosed := rfl
  uncancelled := rfl
  choosing := rfl
  queue := rfl
  tasks := nofun
  apart := List.nodup_nil
  done := nofun
  sending := .refl _
  written := rfl

/-- The order of the replies does not matter. -/
lemma perm (h : Mirrors v lines s replies texts) (order : replies.Perm replies') :
    Mirrors v lines s replies' texts where
  server := h.server
  lines := h.lines
  unclosed := h.unclosed
  uncancelled := h.uncancelled
  choosing := h.choosing
  queue := h.queue
  tasks o ho := h.tasks o (order.mem_iff.mpr ho)
  apart := (order.map _).nodup_iff.mp h.apart
  done i t there := (h.done i t there).imp_left (order.map _).mem_iff.mp
  sending := h.sending.trans (order.flatMap_right _)
  written := h.written

/-- The task of a reply that is ready is over. -/
lemma done_of_ready {response : Option Response}
    (h : Mirrors v lines s ((i, .ready response) :: replies) texts) (j : ℕ) (t : Task)
    (there : v.tasks[j]? = some t) : j ∈ replies.map Prod.fst ∨ t.isOver = true := by
  rcases h.done j t there with told | isOver
  · rcases List.mem_cons.mp told with rfl | told
    · obtain ⟨request, ended⟩ := h.tasks _ List.mem_cons_self
      obtain rfl := Option.some.inj (ended.symm.trans there)
      exact .inr rfl
    · exact .inl told
  · exact .inr isOver

/-- Where there is no response, nothing is left to do. -/
lemma drop (h : Mirrors v lines s ((i, .ready none) :: replies) texts) :
    Mirrors v lines s replies texts :=
  { h with
    tasks := fun o ho => h.tasks o (List.mem_cons_of_mem _ ho)
    apart := (List.nodup_cons.mp h.apart).2
    done := h.done_of_ready
    sending := h.sending }

variable [ResultCache σ]

/-- A line without a request is read. -/
lemma skip (caller : Token) {line : Bytes} (h : Mirrors v (line :: lines) s replies texts)
    (blank : requestIn line = .ok none) :
    ∃ v', v.Reaches caller v' ∧ Mirrors v' lines s replies texts := by
  refine ⟨{ v with lines }, .of_act (a := .read) ?_, { h with lines := rfl }⟩
  simp [State.act, h.choosing, h.unclosed, State.read, h.lines, blank]

/-- A request is read and handed to the server. -/
lemma start (caller : Token) {line request : Bytes}
    (h : Mirrors v (line :: lines) s replies texts)
    (asked : requestIn line = .ok (some request)) :
    ∃ v' i, v.Reaches caller v' ∧ Mirrors v' lines (s.receive request caller).1
      (replies ++ [(i, (s.receive request caller).2)]) texts := by
  obtain rfl := h.server
  generalize received : v.server.receive request caller = done
  have read : v.act caller .read = some { v with lines, tasks := v.tasks ++ [{ request }] } := by
    simp [State.act, h.choosing, h.unclosed, State.read, h.lines, asked]
  have started : State.act caller { v with lines, tasks := v.tasks ++ [{ request }] }
      (.start v.tasks.length) = some { v with
        lines, server := done.1, tasks := v.tasks ++ [⟨request, .of done.2⟩]
        handed := v.handed ++ [v.tasks.length]
        sending := v.sending ++ parcelsOf v.tasks.length done.2 } := by
    simp [State.act, State.proceed, received]
  have old : ∀ o ∈ replies, o.1 ≠ v.tasks.length := by
    intro o ho same
    obtain ⟨request, there⟩ := h.tasks o ho
    exact absurd (List.getElem?_eq_some_iff.mp there).1 (by omega)
  refine ⟨_, v.tasks.length, (State.Reaches.of_act read).trans (.of_act started), ?_⟩
  refine { h with server := rfl, lines := rfl, tasks := ?_, apart := ?_, done := ?_, sending := ?_ }
  · intro o ho
    rcases List.mem_append.mp ho with ho | ho
    · obtain ⟨request, there⟩ := h.tasks o ho
      exact ⟨request, getElem?_concat_iff.mpr (.inl there)⟩
    · rw [List.mem_singleton.mp ho]
      exact ⟨request, getElem?_concat_iff.mpr (.inr ⟨rfl, rfl⟩)⟩
  · rw [List.map_append, List.map_singleton, ← List.concat_eq_append]
    refine h.apart.concat fun there => ?_
    obtain ⟨o, ho, same⟩ := List.mem_map.mp there
    exact old o ho same
  · intro j t there
    rw [List.map_append, List.mem_append, List.map_singleton, List.mem_singleton]
    rcases getElem?_concat_iff.mp there with there | ⟨last, -⟩
    · exact (h.done j t there).imp_left .inl
    · exact .inl (.inr last)
  · rw [List.flatMap_append, List.flatMap_singleton]
    exact h.sending.append_right _

/-- A task goes on with its call, if there is one. -/
lemma pursue (caller : Token) {reply : Reply}
    (h : Mirrors v lines s ((i, reply) :: replies) texts) :
    ∃ v', v.Reaches caller v' ∧
      Mirrors v' lines (s.pursue reply).1 ((i, (s.pursue reply).2) :: replies) texts := by
  obtain rfl := h.server
  obtain ⟨request, there⟩ := h.tasks _ List.mem_cons_self
  cases reply with
  | ready response => exact ⟨v, .refl v, h⟩
  | underWay id call =>
      generalize pursued : v.server.pursue (.underWay id call) = done
      have gone : v.act caller (.pursue i) = some (v.proceed i request done) := by
        rw [← pursued]
        simp [State.act, there, Stage.of]
      have apart : i ∉ replies.map Prod.fst := (List.nodup_cons.mp h.apart).1
      refine ⟨_, .of_act gone, { h with server := rfl, tasks := ?_, done := ?_, sending := ?_ }⟩
      · intro o ho
        rcases List.mem_cons.mp ho with rfl | ho
        · exact ⟨request, List.getElem?_set_self (List.getElem?_eq_some_iff.mp there).1⟩
        · obtain ⟨request', there'⟩ := h.tasks o (List.mem_cons_of_mem _ ho)
          have other : i ≠ o.1 := fun same => apart (same ▸ List.mem_map_of_mem ho)
          exact ⟨request', (List.getElem?_set_ne other).trans there'⟩
      · intro j t ht
        by_cases same : i = j
        · exact .inl (same ▸ List.mem_cons_self)
        · exact h.done j t ((List.getElem?_set_ne same).symm.trans ht)
      · exact (h.sending.append_right _).trans List.perm_append_comm

/-- A response is written. -/
lemma deliver (caller : Token)
    (h : Mirrors v lines s ((i, .ready (some response)) :: replies) texts) :
    ∃ v', v.Reaches caller v' ∧ Mirrors v' lines s replies (texts ++ [response.text]) := by
  obtain ⟨sending, waits, reached⟩ := State.deliver_reaches h.choosing h.queue h.sending
  have written : (v.written ++ [Parcel.mk i response]).map (fun p => p.response.text)
      = texts ++ [response.text] := by
    rw [List.map_append, h.written]
    rfl
  exact ⟨_, reached, { h with
    tasks := fun o ho => h.tasks o (List.mem_cons_of_mem _ ho)
    apart := (List.nodup_cons.mp h.apart).2
    done := h.done_of_ready
    sending := waits
    written }⟩

/-- Something else happens in the server. -/
lemma meanwhile (caller : Token) (h : Mirrors v lines s replies texts) (s' : Server σ) :
    ∃ v', v.Reaches caller v' ∧ Mirrors v' lines s' replies texts :=
  ⟨{ v with server := s' }, .of_act (a := .meanwhile s') rfl, { h with server := rfl }⟩

/-- **Taking lines in is a run.** -/
lemma takeLines {later : List Reply} {result : Except ServerError Unit}
    (h : Mirrors v lines s replies texts)
    (taken : s.takeLines caller lines (replies.map Prod.snd) = (s', later, result)) :
    ∃ v', v.Reaches caller v' ∧
      (result = .ok () →
        ∃ replies', replies'.map Prod.snd = later ∧ Mirrors v' [] s' replies' texts) ∧
      ∀ e, result = .error e → v'.phase = .returned (.error e) ∧ v'.cancelled = false := by
  -- Nothing is written while lines are left; responses that are ready wait for room.
  induction lines generalizing v s replies with
  | nil =>
      obtain ⟨rfl, rfl, rfl⟩ : s = s' ∧ replies.map Prod.snd = later ∧ .ok () = result := by
        simpa only [Server.takeLines, Prod.mk.injEq] using taken
      exact ⟨v, .refl v, fun _ => ⟨replies, rfl, h⟩, fun e failed => by cases failed⟩
  | cons line lines ih =>
      have read := requestIn.eq_def line
      rw [Server.takeLines.eq_def] at taken
      dsimp only at taken read
      split at taken
      · next fault undecoded =>
          rw [undecoded] at read
          obtain ⟨rfl, rfl, rfl⟩ := by simpa only [Prod.mk.injEq] using taken
          have act : v.act caller .read = some { v with
              lines, phase := .returned (.error (.io fault.message)) } := by
            simp [State.act, h.choosing, h.unclosed, State.read, h.lines, read]
          refine ⟨_, .of_act act, (by cases ·), fun e failed => ⟨?_, h.uncancelled⟩⟩
          rw [Except.error.inj failed]
      · next cs decoded =>
          rw [decoded] at read
          dsimp only at read
          split_ifs at taken read with empty
          · obtain ⟨v₁, reached, h⟩ := h.skip caller read
            exact (ih h taken).imp fun v₂ => And.imp_left reached.trans
          · obtain ⟨v₁, i, reached, h⟩ := h.start caller read
            generalize s.receive _ caller = received at taken h
            refine (ih h ?_).imp fun v₂ => And.imp_left reached.trans
            rwa [List.map_append]

omit [ResultCache σ] in
/-- A sink without a bound takes everything. -/
lemma sink_write_of_unbounded {sink : Sink} (unbounded : sink.room = none) (bytes : Bytes) :
    sink.write bytes = ({ sink with parts := bytes :: sink.parts }, .ok ()) := by
  rw [Sink.write]
  split
  · rfl
  · next bounded => cases unbounded.symm.trans bounded

/-- **A round of writing is a run.** -/
lemma write (caller : Token) {kept pending : List (ℕ × Reply)} {w w' : Server.LineService}
    {result : Except ServerError Unit} (h : Mirrors v [] s (kept ++ pending) w.written.reverse)
    (keeps : kept.map Prod.snd = w.replies) (unbounded : w.sink.room = none)
    (done : w.write (pending.map Prod.snd) s = (s', w', result)) :
    result = .ok () ∧ w'.sink.room = none ∧ ∃ v' replies', replies'.map Prod.snd = w'.replies ∧
      v.Reaches caller v' ∧ Mirrors v' [] s' replies' w'.written.reverse := by
  -- Replies that stay under way go over to `kept`, all others are done with.
  induction pending generalizing v s kept w with
  | nil =>
      obtain ⟨rfl, rfl, rfl⟩ : s = s' ∧ w = w' ∧ .ok () = result := by
        simpa only [List.map_nil, Server.LineService.write, Prod.mk.injEq] using done
      exact ⟨rfl, unbounded, v, kept, keeps, .refl v, (List.append_nil kept) ▸ h⟩
  | cons o pending ih =>
      obtain ⟨i, reply⟩ := o
      obtain ⟨v₁, reached, h⟩ := (h.perm List.perm_middle).pursue caller
      rw [List.map_cons, Server.LineService.write] at done
      dsimp only at done
      generalize s.pursue reply = gone at done h
      obtain ⟨s₁, ⟨none | r⟩ | ⟨id, call⟩⟩ := gone <;> dsimp only at done h
      · obtain ⟨ok, bounds, v₂, later, rest⟩ := ih h.drop keeps unbounded done
        exact ⟨ok, bounds, v₂, later, rest.imp_right <| .imp_left reached.trans⟩
      · rw [sink_write_of_unbounded unbounded] at done
        dsimp only at done
        obtain ⟨v₂, reached', h⟩ := h.deliver caller
        rw [← List.reverse_cons] at h
        generalize sunk : Sink.mk w.sink.room (Text.bytesOf (r.text ++ "\n") :: w.sink.parts) = sink
          at done
        obtain ⟨ok, bounds, v₃, later, rest⟩ :=
          ih (w := ⟨w.replies, sink, r.text :: w.written⟩) h keeps (sunk ▸ unbounded) done
        exact ⟨ok, bounds, v₃, later, rest.imp_right <| .imp_left (reached.trans reached').trans⟩
      · have moved : ((i, Reply.underWay id call) :: (kept ++ pending)).Perm
            (kept ++ [(i, Reply.underWay id call)] ++ pending) := by
          rw [List.append_assoc]
          exact List.perm_middle.symm
        have keeps' : (kept ++ [(i, Reply.underWay id call)]).map Prod.snd
            = w.replies ++ [.underWay id call] := by
          rw [List.map_append, keeps]
          rfl
        obtain ⟨ok, bounds, v₂, later, rest⟩ :=
          ih (w := ⟨w.replies ++ [.underWay id call], w.sink, w.written⟩) (h.perm moved) keeps'
            unbounded done
        exact ⟨ok, bounds, v₂, later, rest.imp_right <| .imp_left reached.trans⟩

/-- When nothing is under way any more, the service returns. -/
lemma finish (caller : Token) (h : Mirrors v [] s [] texts) :
    ∃ v', v.Reaches caller v' ∧ v'.phase = .returned (.ok ()) ∧ v'.cancelled = false ∧
      v'.written.map (fun p => p.response.text) = texts := by
  have sending : v.sending = [] := h.sending.eq_nil
  have all : v.tasks.all Task.isOver = true := by
    refine List.all_eq_true.mpr fun t ht => ?_
    obtain ⟨i, there⟩ := List.mem_iff_getElem?.mp ht
    exact (h.done i t there).resolve_left List.not_mem_nil
  have read : v.act caller .read = some { v with closing := true } := by
    simp [State.act, h.choosing, h.unclosed, State.read, h.lines]
  refine ⟨{ v with closing := true, phase := .returned (.ok ()) },
    (State.Reaches.of_act read).trans (.of_act (a := .finish) ?_), rfl, h.uncancelled, h.written⟩
  simp [State.act, h.choosing, sending, h.queue, all]

end Mirrors

/-! ### Serving lines -/

section Serving

variable [ResultCache σ]

/-- A round of serving lines: the replies go on, and the responses that are there are
written. -/
def round (s : Server σ) (w : Server.LineService) :
    Server σ × (Server.LineService ⊕ Except ServerError (List String)) :=
  match Server.LineService.write { w with replies := [] } w.replies s with
  | (s, w, .error e) => (s.abandon w.replies, .inr (.error e))
  | (s, w, .ok ()) =>
    if w.replies.isEmpty then (s, .inr (.ok w.written.reverse)) else (s, .inl w)

/-- Serving lines is taking them in, and then one round after the other. -/
lemma serveLines_eq (s : Server σ) (input : Bytes) (sink : Sink) (caller : Token) :
    s.serveLines input sink caller
      = if s.engine.isCancelled caller then (s, some (.ok []))
        else match Server.takeLines caller (linesOf input) s [] with
          | (s, replies, .error e) => (s.abandon replies, some (.error e))
          | (s, replies, .ok ()) => s.await [] ⟨replies, sink, []⟩ round :=
  rfl

/-- **All rounds are a run.** -/
lemma Mirrors.await (caller : Token) {fuel : ℕ} {v : State σ} {s : Server σ}
    {replies : List (ℕ × Reply)} {w : Server.LineService} {result : Except ServerError (List String)}
    (h : Mirrors v [] s replies w.written.reverse) (same : replies.map Prod.snd = w.replies)
    (unbounded : w.sink.room = none)
    (awaited : (Server.awaitWithin round [] fuel s w).2 = some result) :
    ∃ responses, result = .ok responses ∧ ∃ v', v.Reaches caller v' ∧
      v'.phase = .returned (.ok ()) ∧ v'.cancelled = false ∧
      v'.written.map (fun p => p.response.text) = responses := by
  induction fuel generalizing v s replies w with
  | zero => cases awaited
  | succ fuel ih =>
      rw [Server.awaitWithin, round] at awaited
      rcases written : Server.LineService.write { w with replies := [] } w.replies s
        with ⟨s', w', outcome⟩
      have h : Mirrors v [] s ([] ++ replies) w.written.reverse := h
      obtain ⟨rfl, bounds, v₁, later, same', reached, h⟩ :=
        h.write caller (w := { w with replies := [] }) rfl unbounded (same ▸ written)
      rw [written] at awaited
      dsimp only at awaited
      split_ifs at awaited with empty
      · obtain rfl := Option.some.inj awaited
        rw [List.isEmpty_iff.mp empty, List.map_eq_nil_iff] at same'
        obtain ⟨v₂, reached', returned⟩ := (same' ▸ h).finish caller
        exact ⟨_, rfl, v₂, reached.trans reached', returned⟩
      · dsimp only at awaited
        split at awaited
        · next s₁ turned =>
            obtain ⟨v₂, reached', h⟩ := h.meanwhile caller s₁
            obtain ⟨responses, ok, v₃, reached'', returned⟩ := ih h same' bounds awaited
            exact ⟨responses, ok, v₃, (reached.trans reached').trans reached'', returned⟩
        · cases awaited

/-- **Serving lines is one of the runs.** What is written are the responses, and the
service has been told to stop exactly if its caller had been cancelled. -/
theorem serveLines_reached {s : Server σ} {input : Bytes} {sink : Sink}
    {result : Except ServerError (List String)} (unbounded : sink.room = none)
    (served : (s.serveLines input sink caller).2 = some result) :
    ∃ v : State σ, (State.new s input).Reaches caller v ∧
      v.phase = .returned (result.map fun _ => ()) ∧
      v.cancelled = s.engine.isCancelled caller ∧
      ∀ responses, result = .ok responses →
        v.written.map (fun p => p.response.text) = responses := by
  rw [serveLines_eq] at served
  split_ifs at served with cancelled
  · obtain rfl := Option.some.inj served
    refine ⟨{ State.new s input with cancelled := true, phase := .returned (.ok ()) },
      ⟨[.cancel, .stop], rfl⟩, rfl, cancelled.symm, fun responses ok => ?_⟩
    exact Except.ok.inj ok
  · rw [Bool.not_eq_true] at cancelled
    rw [cancelled]
    rcases taken : Server.takeLines caller (linesOf input) s [] with ⟨s', replies, result'⟩
    obtain ⟨v, reached, took, failed⟩ := (Mirrors.new s input).takeLines taken
    rw [taken] at served
    cases result' with
    | error e =>
        obtain rfl := Option.some.inj served
        obtain ⟨returned, uncancelled⟩ := failed e rfl
        exact ⟨v, reached, returned, uncancelled, nofun⟩
    | ok =>
        obtain ⟨numbered, rfl, h⟩ := took rfl
        obtain ⟨responses, rfl, v', reached', returned, uncancelled, written⟩ :=
          h.await caller (w := ⟨_, sink, []⟩) rfl unbounded served
        exact ⟨v', reached.trans reached', returned, uncancelled,
          fun _ ok => written.trans (Except.ok.inj ok)⟩

/-- **Serving the lines of a text answers every request by one line.** It does not fail,
and the lines that it writes, apart from their order, are those of the responses that the
requests should get. -/
theorem serveLines_answers {s : Server σ} {text : String} {sink : Sink}
    {result : Except ServerError (List String)} (unbounded : sink.room = none)
    (uncancelled : s.engine.isCancelled caller = false)
    (served : (s.serveLines (Text.bytesOf text) sink caller).2 = some result) :
    ∃ written : List Parcel, result = .ok (written.map fun p => p.response.text) ∧
      (written.map Parcel.number).Nodup ∧
      ∀ (i : ℕ) (request : Bytes), (requestsIn (linesOf (Text.bytesOf text)))[i]? = some request →
        ∃ response, Handled request response ∧ ∀ r, ⟨i, r⟩ ∈ written ↔ response = some r := by
  obtain ⟨v, ⟨acts, rfl⟩, returned, cancelled, written⟩ := serveLines_reached unbounded served
  have kept := kept_run s caller text acts
  cases result with
  | error e => exact absurd returned (kept.sound e)
  | ok responses =>
      have closed : (State.run caller (State.new s (Text.bytesOf text)) acts).hasReturned = true := by
        rw [State.hasReturned, returned]
      have complete := kept.complete closed (cancelled.trans uncancelled)
      exact ⟨_, (congrArg Except.ok (written _ rfl)).symm, kept.nodup_written, complete.2⟩

end Serving

end ToolServer.Lines
