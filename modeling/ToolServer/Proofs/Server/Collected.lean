/-
What the answer to a call has to do with its invocation:

* `Call.collect`: what events come to, one after another;
* `accepted`, `chunks_received`: the pieces of data whose emission did not fail are what a
  reader gets;
* `Execution.Decided.collected`: what a reader that reads to the end makes of the outcome;
* `resume_of_finished`: a call is answered once its invocation is over;
* `ReadOut`, `readOut_run`: a call that is answered has read its invocation out;
* `answers_are_collected`: the theorem;
* `value_unanswered`: a value is not answered if the last event is given up.

A call goes away with the last event, and so it never asks for the end. The reader that it is
compared with has done what it has done, and asks once more.
-/
import ToolServer.Proofs.Server.Attendance

namespace ToolServer

open ToolServer.Cache (Backend)
open ToolServer.Execution (Engine Timeline Run Outcome Emission Attempt readings received attempts
  lossesOf Called Judged Stalled Decided)

/-! ### What events come to -/

/-- What a call comes to that gets some more events and then no more. -/
def Call.collect (c : Call) : List Event → Except RpcError Json
  | [] => .error streamClosed
  | e :: es =>
    match c.read e with
    | .inl c => c.collect es
    | .inr result => result

/-- What a call makes of events none of which is the last one. -/
lemma Call.collect_going (c : Call) {before : List Event} (going : Going before)
    (rest : List Event) :
    ∃ c' : Call, c.collect (before ++ rest) = c'.collect rest ∧
      c'.chunks.reverse = c.chunks.reverse ++ before.filterMap Event.chunk? := by
  induction before generalizing c with
  | nil => exact ⟨c, rfl, (List.append_nil _).symm⟩
  | cons e before ih =>
      obtain ⟨c', next⟩ : ∃ c', c.read e = .inl c' := by
        have notLast := going e List.mem_cons_self
        cases e with
        | start | data | progress => exact ⟨_, rfl⟩
        | done | error => cases notLast
      obtain ⟨c'', same, chunks⟩ := ih c' fun e he => going e (List.mem_cons_of_mem _ he)
      refine ⟨c'', ?_, ?_⟩
      · rw [List.cons_append, Call.collect, next]
        exact same
      · rw [chunks, (Call.read_going next).2.2.2, List.append_assoc]
        cases chunk : e.chunk? <;> simp [chunk]

/-- **What the events of an invocation come to is what they are collected to.** -/
lemma ComesTo.collect {es : List Event} {result : Except RpcError Json} (h : ComesTo es result)
    {c : Call} (fresh : c.chunks = []) : c.collect es = result := by
  cases h with
  | done events going =>
      obtain ⟨c', same, chunks⟩ := c.collect_going going [_]
      rw [events, same, Call.collect, Call.read]
      simp [chunks, fresh]
  | failed events going =>
      obtain ⟨c', same, -⟩ := c.collect_going going [_]
      rw [events, same, Call.collect, Call.read]
  | cut going =>
      obtain ⟨c', same, -⟩ := c.collect_going going []
      rw [List.append_nil] at same
      exact same

/-- The result of a call that gives a value: a single text. -/
def textResult (v : Json) : Json :=
  .object [("content", .array [.object [("text", .string v.text), ("type", .string "text")]])]

/-! ### Pieces of data -/

namespace Execution

/-- The piece of data in an emission. -/
def Emission.chunk? : Emission → Option Json
  | .data chunk => some chunk
  | .progress .. => none

/-- The piece of data in a call of an emitter that did not fail. -/
def Attempt.accepted? (c : Attempt) : Option Json :=
  if c.answer = none then c.emission.chunk? else none

/-- The pieces of data of an invocation whose emission did not fail. -/
def accepted (id : ℕ) (past : List (Engine × Action)) : List Json :=
  (attempts id past).filterMap Attempt.accepted?

lemma chunk?_event (x : Emission) (n : ℕ) : (x.event n).chunk? = x.chunk? := by
  cases x <;> rfl

/-- Only pieces carry data. -/
lemma chunks_pieces (es : List Event) :
    (pieces es).filterMap Event.chunk? = es.filterMap Event.chunk? := by
  rw [pieces, List.filterMap_filter]
  refine List.filterMap_congr fun e _ => ?_
  cases e <;> rfl

/-- **The data that a reader gets is what was accepted.** -/
lemma Run.Accounted.chunks {maxEvents : ℕ} {es : List Event} {calls : List Attempt} {r : Run}
    (h : r.Accounted maxEvents es calls) (reading : r.reading = true) :
    (es ++ r.queue).filterMap Event.chunk? = calls.filterMap Attempt.accepted? := by
  have queued := h.queued reading
  calc (es ++ r.queue).filterMap Event.chunk?
      = ((pieces (es ++ r.queue)).map some).filterMap (Option.bind · Event.chunk?) := by
        rw [← chunks_pieces, List.filterMap_map]
        rfl
    _ = (calls.filter (·.answer = none)).filterMap fun c => c.event?.bind Event.chunk? := by
        rw [queued, List.filterMap_map]
        rfl
    _ = (calls.filter (·.answer = none)).filterMap Attempt.accepted? := by
        refine List.filterMap_congr fun c hc => ?_
        -- a call that did not fail got a number
        have listed : c.event? ∈ (pieces (es ++ r.queue)).map some :=
          queued ▸ List.mem_map_of_mem hc
        obtain ⟨event, -, eq⟩ := List.mem_map.mp listed
        obtain ⟨n, -, same⟩ := Option.map_eq_some_iff.mp eq.symm
        rw [← eq, Option.bind_some, ← same, chunk?_event, Attempt.accepted?,
          if_pos (of_decide_eq_true (List.mem_filter.mp hc).2)]
    _ = calls.filterMap Attempt.accepted? := by
        rw [List.filterMap_filter]
        refine List.filterMap_congr fun c _ => ?_
        by_cases succeeded : c.answer = none <;> simp [Attempt.accepted?, succeeded]

/-- A handler that has returned does not come back to work. -/
lemma Run.Change.isPast {e : Engine} {r r' : Run} {reading : Option Engine.Reading}
    (change : r.Change e reading r') (past : r.stage.isPast = true) : r'.stage.isPast = true := by
  have begun : r.stage.isEntering = false := by
    cases stage : r.stage <;> simp_all [Stage.isPast, Stage.isEntering]
  have begun' := change.continues.begun begun
  have idle : r'.stage.isHandling = false := Bool.eq_false_iff.mpr fun handling => by
    simp [change.isEntering_of_isHandling handling (Stage.not_isHandling_of_isPast past)] at begun
  cases stage : r'.stage <;> simp_all [Stage.isPast, Stage.isEntering, Stage.isHandling]

/-- **Nothing is accepted any more once the handler has returned.** -/
lemma accepted_of_isPast (config : ExecutorConfig) (acts more : List Action) {id : ℕ} {r : Run}
    (there : (Timeline.run (.new config) acts).now.runs[id]? = some r)
    (past : r.stage.isPast = true) :
    accepted id (Timeline.run (.new config) (acts ++ more)).past
      = accepted id (Timeline.run (.new config) acts).past := by
  refine (Timeline.run_later (P := fun t => (∃ r, t.now.runs[id]? = some r ∧
    r.stage.isPast = true) ∧ accepted id t.past
      = accepted id (Timeline.run (.new config) acts).past) ⟨⟨r, there, past⟩, rfl⟩ ?_ more).2
  rintro acts' a e' ⟨⟨r, there, past⟩, same⟩ happens
  have closed := (orderly_run config acts' there).closed past
  refine ⟨?_, ?_⟩
  · obtain ⟨r', there', ⟨rfl, -⟩ | change⟩ := Engine.act_run happens there
    · exact ⟨r', there', past⟩
    · exact ⟨r', there', change.isPast past⟩
  · have refused : (((Timeline.run (.new config) acts').now.attempt? a id).toList).filterMap
        Attempt.accepted? = [] := by
      obtain ⟨r', -, -, ⟨-, -, none⟩ | move⟩ := Engine.act_move happens there
      · rw [none]
        rfl
      · generalize (Timeline.run (.new config) acts').now.attempt? a id = call,
          (Timeline.run (.new config) acts').now.reading? a id = reading at move
        cases move with
        | called x =>
            simp [Engine.attempt, Run.attempt, Run.publish_of_closed closed, Attempt.accepted?]
        | changed => rfl
    rw [accepted, attempts_concat, List.filterMap_append, refused, List.append_nil]
    exact same

/-- A reader that asks leaves an invocation at its stage. -/
lemma stage_of_take {e : Engine} (acts : List Action) {id : ℕ} {r : Run}
    (there : (Timeline.run e (acts ++ [.take id])).now.runs[id]? = some r) :
    ∃ q, (Timeline.run e acts).now.runs[id]? = some q ∧ q.stage = r.stage := by
  rw [Timeline.run_concat] at there
  cases happens : (Timeline.run e acts).now.act (.take id) with
  | none =>
      rw [Timeline.next_of_none happens] at there
      exact ⟨r, there, rfl⟩
  | some e' =>
      rw [Timeline.next_of_some happens] at there
      have bound : id < (Timeline.run e acts).now.runs.length := by
        by_contra absent
        simp [Engine.act, absent] at happens
      have atPlace := List.getElem?_eq_getElem bound
      obtain ⟨q, there', same⟩ := Engine.act_stage_of_other happens atPlace (by simp)
      obtain rfl := Option.some.inj (there'.symm.trans there)
      exact ⟨_, atPlace, same.symm⟩

end Execution

/-! ### What the outcome comes to -/

namespace Execution

/-- The last event that an outcome decides is a last event. -/
lemma Judged.isTerminal {e : Engine} {r : Run} {o : Outcome} {s : RunState} {last : Event}
    {c : Counters} (h : Judged e r o s last c) : last.isTerminal = true := by
  cases h <;> rfl

/-- **What a reader that reads to the end makes of the outcome**: a value, or else the pieces of
data that were accepted, or a failure; and nothing if the last event was given up. -/
lemma Decided.collected {config : ExecutorConfig} {acts : List Action} {id : ℕ} {r : Run}
    {e : Engine} {q : Run} {o : Outcome} {last : Event} {before since : List (Engine × Action)}
    (h : Decided config id (Timeline.run (.new config) acts) r e q o last before since)
    (there : (Timeline.run (.new config) acts).now.runs[id]? = some r) (kept : .drop id ∉ acts)
    (drained : .ended ∈ readings id (Timeline.run (.new config) acts).past) {c : Call}
    (fresh : c.chunks = []) :
    let result := c.collect (received id (Timeline.run (.new config) acts).past)
    let pieces := accepted id (Timeline.run (.new config) acts).past
    (lossesOf id since = 0
      ∧ (∀ v, o = .ok v → v ≠ .null → result = .ok (textResult v))
      ∧ (o = .ok .null →
          result = .ok (textResult (if pieces.isEmpty then .null else .array pieces)))
      ∧ (∀ message retryable, last = .error message retryable →
          result = .error (.toolFailed message retryable)))
    ∨ (Stalled config.capacity (timerAfter e.now config.terminalTimeout) id since
      ∧ lossesOf id since = 1 ∧ result = .error streamClosed) := by
  intro result pieces
  have orderly := orderly_run config acts there
  have terminal := h.verdict.isTerminal
  rcases h.drained there kept drained with ⟨opening, got, lossless⟩ | ⟨stalled, once⟩
  · refine .inl ⟨lossless, ?_⟩
    have going : Going opening := by
      have incipient := orderly.incipient
      rw [got] at incipient
      exact (incipient.over terminal).1
    have chunks : opening.filterMap Event.chunk? = pieces := by
      have reading := reading_of_kept config acts kept there
      have account := (accounted_run config acts there).chunks reading
      rw [((final_run config acts there).closed drained).2, List.append_nil, got,
        List.filterMap_append] at account
      have none : last.chunk? = none := by
        cases last with
        | data | start | progress => cases terminal
        | done | error => rfl
      simpa [none, pieces, accepted] using account
    have value : ∀ v, o = .ok v → result
        = .ok (textResult (resultOf pieces (if v.isNull then none else some v))) := by
      rintro v rfl
      have verdict := h.verdict
      generalize r.state = shown, (e.after (.advance id)).counters = counts at verdict
      cases verdict with
      | value returned =>
          obtain rfl := Outcome.ok.inj returned
          have comes := (ComesTo.done got going).collect fresh
          rwa [chunks, canonical_callResult] at comes
      | cancelled failed | timedOut failed | failed failed => cases failed
    refine ⟨fun v returned solid => ?_, fun returned => ?_, ?_⟩
    · have isValue : v.isNull = false := by
        cases v with
        | null => exact absurd rfl solid
        | bool | number | string | array | object => rfl
      rw [value v returned, isValue]
      rfl
    · rw [value .null returned]
      rfl
    · rintro message retryable rfl
      exact (ComesTo.failed got going).collect fresh
  · have going : Going (received id (Timeline.run (.new config) acts).past) := by
      intro event seen
      refine Bool.eq_false_iff.mpr fun terminal => ?_
      simp [(h.eq_last seen terminal).2] at once
    exact .inr ⟨stalled, once, (ComesTo.cut going).collect fresh⟩

/-- A reader that reads to the end of an invocation that was turned away gets an error. -/
lemma collected_of_uncalled {config : ExecutorConfig} {acts : List Action} {id : ℕ} {r : Run}
    (there : (Timeline.run (.new config) acts).now.runs[id]? = some r) (kept : .drop id ∉ acts)
    (drained : .ended ∈ readings id (Timeline.run (.new config) acts).past)
    (uncalled : ¬ Called id (Timeline.run (.new config) acts)) {c : Call} :
    c.collect (received id (Timeline.run (.new config) acts).past)
      = .error (.toolFailed Engine.cancelledEarly false) := by
  obtain ⟨ended, empty⟩ := (final_run config acts there).closed drained
  have refusal := (greeted_run config acts there).refusal uncalled (by rw [ended]; rfl)
  have got := refusal.2 (reading_of_kept config acts kept there)
  rw [empty, List.append_nil] at got
  rw [got]
  rfl

end Execution

/-! ### Calls that are answered -/

namespace Server

/-- A call takes all events of an invocation that is over. -/
lemma advanceCall_of_finished {s : Server Backend} {call : Call} (fuel : ℕ) {r : Run}
    (there : s.engine.runs[call.run]? = some r) (ended : r.stage = .finished)
    (enough : r.queue.length < fuel) : ∃ result, (advanceCall fuel s call).2 = .inr result := by
  induction fuel generalizing s call r with
  | zero => omega
  | succ fuel ih =>
      have bound := (List.getElem?_eq_some_iff.mp there).1
      rw [advanceCall]
      cases queue : r.queue with
      | nil =>
          have taken : s.engine.take call.run = (.ended, s.engine) := by
            simp [Engine.take, there, queue, Execution.Run.isFinished_of_stage ended]
          rw [taken]
          exact ⟨_, rfl⟩
      | cons event rest =>
          have taken : s.engine.take call.run
              = (.event event, s.engine.setRun call.run { r with queue := rest }) := by
            simp [Engine.take, there, queue]
          rw [taken]
          dsimp only
          cases next : call.read event with
          | inr result => exact ⟨_, rfl⟩
          | inl call' =>
              refine ih (r := { r with queue := rest }) ?_ ended ?_
              · simp [Router.run_of_read next, bound]
              · rw [queue, List.length_cons] at enough
                exact Nat.lt_of_succ_lt_succ enough

/-- **A call is answered as soon as it goes on once its invocation is over.** -/
lemma resume_of_finished {s : Server Backend} {call : Call} {r : Run}
    (there : s.engine.runs[call.run]? = some r) (ended : r.stage = .finished) :
    ∃ result, (s.resume call).2 = .inr result := by
  refine advanceCall_of_finished _ there ended ?_
  rw [there]
  exact Nat.lt_succ_of_lt (Nat.lt_succ_self _)

end Server

/-- An invocation has been read out by a call that came to some result: `before` is what had
happened when the call went away, and a reader that asks once more gets the end. -/
structure ReadOut (config : ExecutorConfig) (id : ℕ) (deeds before after : List Execution.Action)
    (r : Run) (result : Except RpcError Json) : Prop where
  split : deeds = before ++ .drop id :: after
  kept : .drop id ∉ before
  there : (Timeline.run (.new config) (before ++ [.take id])).now.runs[id]? = some r
  ended : .ended ∈ readings id (Timeline.run (.new config) (before ++ [.take id])).past
  collected : result = Call.collect { run := id }
    (received id (Timeline.run (.new config) (before ++ [.take id])).past)
  past : r.stage.isPast = true
  pieces : Execution.accepted id (Timeline.run (.new config) deeds).past
    = Execution.accepted id (Timeline.run (.new config) (before ++ [.take id])).past

/-- **A call that an invocation has answered has read it out.** -/
theorem Router.readOut_run {config : ExecutorConfig} {s : Server Backend}
    (new : s.engine = .new config) (empty : s.cache.entries = []) (acts : List Router.Action)
    {c : Conversation} (hc : c ∈ (Router.run ⟨s, []⟩ acts).calls) {time id : ℕ}
    {result : Except RpcError Json} (answered : c.progress = .answered time (.run id) result)
    (unshared : Router.Unshared id acts) :
    ∃ before after r, ReadOut config id (Router.chronicle ⟨s, []⟩ acts) before after r result := by
  have attends := (Router.attended_run new empty acts unshared).attends c hc
    (by rw [answered]; rfl)
  rw [Conversation.Attends.eq_def, answered] at attends
  obtain ⟨before, after, split, kept, got, ended⟩ := attends
  have fits := ((Router.sound_run empty acts).calls c hc).fits
  rw [answered] at fits
  obtain ⟨-, -, comes⟩ := fits
  cases there : (Timeline.run (.new config) (before ++ [.take id])).now.runs[id]? with
  | none =>
      rw [Execution.readings_of_absent _ there] at ended
      cases ended
  | some r =>
      have past : r.stage.isPast = true := by
        rw [((Execution.final_run config _ there).closed ended).1]
        rfl
      refine ⟨before, after, r, split, kept, there, ended, ?_, past, ?_⟩
      · rw [got]
        exact (comes.collect rfl).symm
      · -- nothing is accepted after the call has gone away
        obtain ⟨q, atPlace, same⟩ := Execution.stage_of_take before there
        rw [← same] at past
        rw [split, Execution.accepted_of_isPast config before _ atPlace past,
          Execution.accepted_of_isPast config before _ atPlace past]

/-- **The answer to a call is what the events of its invocation come to.** Let a new server take
any actions, its executor with them.

* A call that an invocation has answered has started it, with the handler and the arguments that
  were asked for. The answer is what a reader of the same invocation collects that reads up to
  the end, provided that nobody but the call reads it.
* If the invocation was turned away the answer is an error that says so.
* If the handler has been called, it has returned, and its outcome at that moment decides the
  last event. A value other than null is the answer, whatever was emitted. For null it is the
  pieces of data that were emitted without failure, in the order of their emission, or null if
  there are none. For an error it is that error.
* Only if the last event was given up, since the queue was full until the timer went off, the
  answer is that the events have ended too early.
* A call whose invocation is over is answered as soon as it goes on. -/
theorem answers_are_collected (config : ExecutorConfig) (s : Server Backend)
    (new : s.engine = .new config) (empty : s.cache.entries = []) (acts : List Router.Action) :
    let t := Router.run ⟨s, []⟩ acts
    let deeds := Router.chronicle ⟨s, []⟩ acts
    (Timeline.run (.new config) deeds).now = t.server.engine
    ∧ (∀ c ∈ t.calls, ∀ time id result, c.progress = .answered time (.run id) result →
        Router.Unshared id acts →
        c.WorkedOnBy t.server.engine id
        ∧ ∃ before after, deeds = before ++ .drop id :: after ∧ .drop id ∉ before ∧
          let drained := Timeline.run (.new config) (before ++ [.take id])
          .ended ∈ readings id drained.past
          ∧ result = Call.collect { run := id } (received id drained.past)
          ∧ (¬ Called id drained → result = .error ⟨-32603, "Internal error", some (.object
              [("message", .string "invocation cancelled before it started"),
                ("retryable", .bool false)])⟩)
          ∧ (Called id drained → ∃ r e q o last earlier since,
              drained.now.runs[id]? = some r ∧ drained.past = earlier ++ (e, .advance id) :: since
              ∧ e.runs[id]? = some q ∧ q.stage = .active (.done o)
              ∧ Judged e q o r.state last (e.after (.advance id)).counters
              ∧ ((lossesOf id since = 0
                  ∧ (∀ v, o = .ok v → v ≠ .null → result = .ok (textResult v))
                  ∧ (o = .ok .null →
                      let pieces := Execution.accepted id (Timeline.run (.new config) deeds).past
                      result = .ok (textResult (if pieces.isEmpty then .null else .array pieces)))
                  ∧ (∀ message retryable, last = .error message retryable →
                      result = .error ⟨-32603, "Internal error", some (.object
                        [("message", .string message), ("retryable", .bool retryable)])⟩))
                ∨ (Stalled config.capacity (Execution.timerAfter e.now config.terminalTimeout) id
                    since
                  ∧ lossesOf id since = 1 ∧ result = .error streamClosed))))
    ∧ ∀ c ∈ t.calls, ∀ call, c.progress = .underWay call →
        ∀ r, t.server.engine.runs[call.run]? = some r → r.stage = .finished →
          ∃ result, (t.server.resume call).2 = .inr result := by
  intro t deeds
  have now : (Timeline.run (.new config) deeds).now = t.server.engine := by
    rw [← new]
    exact Router.chronicle_now ⟨s, []⟩ acts
  refine ⟨now, fun c hc time id result answered unshared => ?_,
    fun c _ call _ r there ended => Server.resume_of_finished there ended⟩
  have work := (Router.sound_run empty acts).exists_worker hc (by rw [answered]; rfl)
  obtain ⟨before, after, r, read⟩ := Router.readOut_run new empty acts hc answered unshared
  have kept : .drop id ∉ before ++ [.take id] := by simp [read.kept]
  refine ⟨work, before, after, read.split, read.kept, read.ended, read.collected,
    fun uncalled => ?_, fun called => ?_⟩
  · rw [read.collected]
    exact Execution.collected_of_uncalled read.there kept read.ended uncalled
  · obtain ⟨e, q, o, last, earlier, since, decided⟩ :=
      Execution.decided_run config _ read.there called read.past
    have fate := decided.collected read.there kept read.ended (c := { run := id }) rfl
    dsimp only at fate
    rw [← read.collected, ← read.pieces] at fate
    exact ⟨r, e, q, o, last, earlier, since, read.there, decided.split, decided.there,
      decided.active, decided.verdict, fate⟩

/-- A tool that does as some handler does. -/
def soleTool (handler : Execution.Handler) : Tool.Definition where
  name := "sole"
  description := ""
  parameters := []
  streaming := true
  caching := {}
  handler

/-- A server with that tool only, which is asked for by its name. -/
def soleServer (config : ExecutorConfig) (handler : Execution.Handler) : Server Backend where
  tools := ⟨[soleTool handler]⟩
  engine := .new config
  cache := .disabled 0

/-- A call of that tool, which takes some steps once its invocation has taken some. -/
def callSole (steps reads : ℕ) : List Router.Action :=
  [.ask (.object [("name", .string "sole")]) ⟨by decide, trivial, trivial⟩ (.named ""),
    .advance 0] ++ List.replicate steps (.execute (.advance 0)) ++ List.replicate reads (.advance 0)

lemma unshared_callSole (steps reads : ℕ) : Router.Unshared 0 (callSole steps reads) := by
  intro a there
  simp only [callSole, List.mem_append, List.mem_cons, List.mem_replicate, reduceCtorEq,
    Router.Action.execute.injEq, List.not_mem_nil, or_false, false_or, and_false] at there
  rw [there.2]
  simp

/-- A handler that emits two pieces of data, and how far it has come in between. -/
def speaker : Execution.Handler := fun _ =>
  .emit (.data (.bool true)) fun _ => .emit (.progress 1 2 "") fun _ =>
    .emit (.data (.bool false)) fun _ => .done (.ok .null)

theorem answers_are_collected_spoken :
    let acts := callSole 6 6
    let t := Router.run ⟨soleServer {} speaker, []⟩ acts
    Router.Unshared 0 acts ∧ ∃ c ∈ t.calls, ∃ result,
      c.progress = .answered 0 (.run 0) (.ok result)
        ∧ result = textResult (.array [.bool true, .bool false])
        ∧ ∃ before, let drained := Timeline.run (.new {}) (before ++ [.take 0])
          .ended ∈ readings 0 drained.past
            ∧ .ok result = Call.collect { run := 0 } (received 0 drained.past) := by
  intro acts t
  have unshared : Router.Unshared 0 acts := unshared_callSole 6 6
  obtain ⟨c, hc, answered⟩ : ∃ c ∈ t.calls, c.progress = .answered 0 (.run 0)
      (.ok (CallResult.ofValue (.array [.bool true, .bool false])).toJson.canonical) :=
    ⟨_, List.mem_of_getElem? (i := 0) rfl, rfl⟩
  obtain ⟨-, calls, -⟩ := answers_are_collected {} (soleServer {} speaker) rfl rfl acts
  obtain ⟨-, before, -, -, -, ended, collected, -⟩ := calls c hc 0 0 _ answered unshared
  exact ⟨unshared, c, hc, _, answered, canonical_callResult _, before, ended, collected⟩

/-- An executor whose queues hold one event, and none waits for room. -/
def hasty : ExecutorConfig :=
  { bufferSize := 1, terminalTimeout := 0 }

/-- A value is not answered if the last event is given up, though the handler has returned it and
the call reads all that there is. -/
theorem value_unanswered :
    let acts := callSole 3 3
    let t := Router.run ⟨soleServer hasty fun _ => .done (.ok (.ofNat 1)), []⟩ acts
    let deeds := Router.chronicle ⟨soleServer hasty fun _ => .done (.ok (.ofNat 1)), []⟩ acts
    Router.Unshared 0 acts
      ∧ (∃ (e : Engine) (q : Run), (e, .advance 0) ∈ (Timeline.run (.new hasty) deeds).past
        ∧ e.runs[0]? = some q ∧ q.stage = .active (.done (.ok (.ofNat 1))))
      ∧ ∃ c ∈ t.calls, ∃ result, c.progress = .answered 0 (.run 0) result
        ∧ result = .error streamClosed ∧ result ≠ .ok (textResult (.ofNat 1)) := by
  refine ⟨unshared_callSole 3 3, ⟨_, _, List.mem_of_getElem? (i := 3) rfl, rfl, rfl⟩, ?_⟩
  exact ⟨_, List.mem_of_getElem? (i := 0) rfl, _, rfl, rfl, by simp⟩

end ToolServer
