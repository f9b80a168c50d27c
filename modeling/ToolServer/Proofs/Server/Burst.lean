/-
Calls whose handlers emit their result in a row:

* `Router.Answerable`, `answerable_of_pours`: such a call is answered if its invocation and calls
  go on;
* `Poured`, `poured_run`: what it is answered;
* `Filled`, `ReturnedUnread`, `BurstAnswer`, `Router.Returns`: the parts of the theorem;
* `bursts_succeed_if_they_fit`: the theorem;
* `fitting_burst_unanswered`: a call fails though all pieces of data have found room, if the last
  event is given up.

A call may read between two emissions of its handler, which then finds more room. What is said of
answers here is about calls that have read nothing when the handler returns: all pieces of data
have to wait at once then, behind the start.
-/
import ToolServer.Proofs.Server.Pouring

namespace ToolServer

open ToolServer.Cache (Backend)
open ToolServer.Execution (Engine Timeline Run Behaviour Emission Attempt readings received attempts
  heard droppedBy lossesOf Called Stalled)

/-! ### Calls that go on -/

namespace Router

/-- What an executor does at a server leaves all calls where they are. -/
lemma run_execute (t : Router) (acts : List Execution.Action) :
    t.run (acts.map .execute)
      = ⟨{ t.server with engine := (Timeline.run t.server.engine acts).now }, t.calls⟩ := by
  induction acts generalizing t with
  | nil => rfl
  | cons a acts ih =>
      have first : t.next (.execute a)
          = ⟨{ t.server with engine := (Timeline.run t.server.engine [a]).now }, t.calls⟩ := by
        simp only [next, act, Timeline.run, List.foldl_cons, List.foldl_nil, Timeline.next]
        cases t.server.engine.act a <;> rfl
      rw [List.map_cons, run, List.foldl_cons, ← run, first, ih, ← Timeline.run_append]
      rfl

/-- Whether an invocation answers a call if nothing goes on but that invocation and calls. -/
def Answerable (t : Router) (i id : ℕ) : Prop :=
  ∃ more : List Action, (∀ a ∈ more, a.IsOwn ∨ a = .execute (.advance id)) ∧
    ∃ c time result, (t.run more).calls[i]? = some c ∧
      c.progress = .answered time (.run id) result

section Answerable

variable {t t' : Router} {i : ℕ} {c : Conversation} {call : Call} {r : Run}

lemma Answerable.of_run {id : ℕ} {acts : List Action}
    (own : ∀ a ∈ acts, a.IsOwn ∨ a = .execute (.advance id)) (h : (t.run acts).Answerable i id) :
    t.Answerable i id := by
  obtain ⟨more, own', answered⟩ := h
  refine ⟨acts ++ more, fun a ha => (List.mem_append.mp ha).elim (own a) (own' a), ?_⟩
  rwa [run, List.foldl_append]

lemma Answerable.of_reaches {id : ℕ} (reaches : t.Reaches t') (h : t'.Answerable i id) :
    t.Answerable i id := by
  obtain ⟨acts, own, rfl⟩ := reaches
  exact h.of_run fun a ha => .inl (own a ha)

/-- An invocation that is over answers its call. -/
lemma answerable_of_finished (there : t.calls[i]? = some c) (underWay : c.progress = .underWay call)
    (atPlace : t.server.engine.runs[call.run]? = some r) (ended : r.stage = .finished) :
    t.Answerable i call.run := by
  obtain ⟨result, resumed⟩ := Server.resume_of_finished atPlace ended
  obtain ⟨c', ⟨acts, own, reached⟩, -, -, shown⟩ := resume_reaches t there underWay
  rw [resumed] at shown
  obtain ⟨time, answered⟩ := shown
  refine ⟨acts, fun a ha => .inl (own a ha), c', time, result, ?_, answered⟩
  rw [reached]
  exact List.getElem?_set_self (List.getElem?_eq_some_iff.mp there).1

/-- An invocation whose last event can be settled answers its call. -/
lemma answerable_of_able {last : Event} {giveUp : ℕ} (there : t.calls[i]? = some c)
    (underWay : c.progress = .underWay call)
    (atPlace : t.server.engine.runs[call.run]? = some r)
    (delivering : r.stage = .delivering last giveUp)
    (able : r.reading = false ∨ r.queue.length < t.server.engine.config.capacity
      ∨ Execution.isDue giveUp t.server.engine.now = true) : t.Answerable i call.run := by
  obtain ⟨e', settled, -⟩ := Engine.advance_of_delivering atPlace delivering able
  have now : (Timeline.run t.server.engine [.advance call.run]).now = e' := by
    simp [Timeline.run, Timeline.next, Engine.act, settled]
  have reached := run_execute t [.advance call.run]
  rw [now] at reached
  refine .of_run (List.forall_mem_singleton.mpr (.inr rfl)) ?_
  rw [show t.run [.execute (.advance call.run)] = _ from reached]
  exact answerable_of_finished there underWay
    (Engine.settle_cases atPlace delivering settled).1 rfl

/-- **An invocation whose last event waits answers its call**, which makes room for it. -/
lemma answerable_of_delivering {last : Event} {giveUp : ℕ} (there : t.calls[i]? = some c)
    (underWay : c.progress = .underWay call)
    (atPlace : t.server.engine.runs[call.run]? = some r)
    (delivering : r.stage = .delivering last giveUp) : t.Answerable i call.run := by
  induction queue : r.queue generalizing t c call r with
  | nil =>
      refine answerable_of_able there underWay atPlace delivering (.inr (.inl ?_))
      rw [queue]
      exact Nat.lt_of_lt_of_le Nat.zero_lt_one (Nat.le_max_right _ _)
  | cons event rest ih =>
      have bound := (List.getElem?_eq_some_iff.mp there).1
      have taken : t.server.engine.take call.run
          = (.event event, t.server.engine.setRun call.run { r with queue := rest }) := by
        simp [Engine.take, atPlace, queue]
      cases next : call.read event with
      | inl call' =>
          have read : c.advance t.server = some
              ({ t.server with
                  engine := t.server.engine.setRun call.run { r with queue := rest } },
                { c with events := c.events ++ [event], progress := .underWay call' }) := by
            simp only [Conversation.advance, underWay, Conversation.poll, taken, next]
          have same := run_of_read next
          refine .of_reaches (.of_advance there read) ?_
          rw [← same]
          refine ih (r := { r with queue := rest }) (List.getElem?_set_self bound) rfl ?_ delivering
            rfl
          rw [same]
          exact List.getElem?_set_self (List.getElem?_eq_some_iff.mp atPlace).1
      | inr result =>
          have read : c.advance t.server = some
              ({ t.server with
                  engine := (t.server.engine.setRun call.run { r with queue := rest }).drop
                    call.run },
                { c with events := c.events ++ [event], progress := .ended call result }) := by
            simp only [Conversation.advance, underWay, Conversation.poll, taken, next]
          obtain ⟨acts, own, reached⟩ := Reaches.of_ended there read rfl
          refine ⟨acts, fun a ha => .inl (own a ha), ?_⟩
          rw [reached]
          exact ⟨_, _, result, List.getElem?_set_self bound, rfl⟩

end Answerable

end Router

/-! ### What becomes of a burst -/

/-- What comes of a call whose handler pours out `n` pieces of data, if nothing was read of its
invocation when the handler returned, and the invocation was not cancelled: `calls` are the calls
of the emitter, and `since` is what happened after the return until the call had read to the end. -/
inductive Poured (config : ExecutorConfig) (n id giveUp : ℕ) (calls : List Attempt)
    (since : List (Engine × Execution.Action)) (result : Except RpcError Json) : Prop
  /-- All pieces have found room. -/
  | whole {chunks : List Json} (fits : n ≤ min config.maxEvents (config.capacity - 1))
      (lossless : lossesOf id since = 0) (all : chunks.length = n)
      (emitted : calls.map Attempt.emission = chunks.map .data)
      (answer : result = .ok (textResult (if chunks.isEmpty then .null else .array chunks)))
  /-- All pieces have found room and filled the queue, and the last event was given up. -/
  | givenUp (fits : n ≤ min config.maxEvents (config.capacity - 1))
      (full : n = config.capacity - 1) (stalled : Stalled config.capacity giveUp id since)
      (once : lossesOf id since = 1) (answer : result = .error streamClosed)
  /-- There was no room for all pieces. -/
  | spilt {error : RpcError} (exceeds : min config.maxEvents (config.capacity - 1) < n)
      (answer : result = .error error)

section Poured

variable {config : ExecutorConfig} {n id giveUp : ℕ} {calls : List Attempt}
  {since : List (Engine × Execution.Action)} {result : Except RpcError Json}

/-- **A burst succeeds exactly if there was room for all pieces** and the last event. -/
lemma Poured.succeeds_iff (h : Poured config n id giveUp calls since result) :
    (∃ v, result = .ok v) ↔
      n ≤ min config.maxEvents (config.capacity - 1) ∧ lossesOf id since = 0 := by
  cases h with
  | whole fits lossless all emitted answer =>
      exact ⟨fun _ => ⟨fits, lossless⟩, fun _ => ⟨_, answer⟩⟩
  | givenUp fits full stalled once answer => simp [answer, once]
  | spilt exceeds answer => simp [answer, not_le.mpr exceeds]

/-- What a burst comes to that succeeds. -/
lemma Poured.value {v : Json} (h : Poured config n id giveUp calls since (.ok v)) :
    ∃ chunks : List Json, chunks.length = n ∧ calls.map Attempt.emission = chunks.map .data
      ∧ v = textResult (if chunks.isEmpty then .null else .array chunks) := by
  cases h with
  | whole fits lossless all emitted answer => exact ⟨_, all, emitted, Except.ok.inj answer⟩
  | givenUp fits full stalled once answer => cases answer
  | spilt exceeds answer => cases answer

/-- **Only a burst that fills the queue loses the last event.** -/
lemma Poured.full (h : Poured config n id giveUp calls since result)
    (fits : n ≤ min config.maxEvents (config.capacity - 1)) (lossy : lossesOf id since ≠ 0) :
    n = config.capacity - 1 ∧ Stalled config.capacity giveUp id since
      ∧ result = .error streamClosed := by
  cases h with
  | whole fits lossless => exact absurd lossless lossy
  | givenUp fits full stalled once answer => exact ⟨full, stalled, answer⟩
  | spilt exceeds => exact absurd fits (not_le.mpr exceeds)

end Poured

namespace Execution

/-- The last event that a failure decides is an error. -/
lemma Judged.of_failed {e : Engine} {r : Run} {error : ToolError} {s : RunState} {last : Event}
    {counts : Counters} (h : Judged e r (.failed error) s last counts) :
    ∃ message retryable, last = .error message retryable := by
  cases h with
  | value returned => cases returned
  | cancelled | timedOut | failed => exact ⟨_, _, rfl⟩

/-- **What a reader that reads to the end makes of pieces of data that are poured out.** -/
lemma Decided.poured {config : ExecutorConfig} {acts : List Action} {id n : ℕ} {r : Run}
    {e : Engine} {q : Run} {o : Outcome} {last : Event} {before since : List (Engine × Action)}
    (h : Decided config id (Timeline.run (.new config) acts) r e q o last before since)
    (there : (Timeline.run (.new config) acts).now.runs[id]? = some r) (kept : .drop id ∉ acts)
    (drained : .ended ∈ readings id (Timeline.run (.new config) acts).past)
    (pours : q.body.Pours n) (alone : ∀ x, .emit id x ∉ acts) (unread : received id before = [])
    (wanted : e.isCancelled q.scope = false) {c : Call} (fresh : c.chunks = []) :
    Poured config n id (timerAfter e.now config.terminalTimeout) (attempts id before) since
      (c.collect (received id (Timeline.run (.new config) acts).past)) := by
  -- what had been done when the handler returned
  obtain ⟨earlier, later, rfl, moment⟩ := Timeline.run_of_past h.split
  have atPlace : (Timeline.run (.new config) earlier).now.runs[id]? = some q := by
    rw [moment]
    exact h.there
  have reading := reading_of_kept config earlier
    (fun dropped => kept (List.mem_append_left _ dropped)) atPlace
  have outcome := outcome_of_unread config earlier atPlace h.active pours
    (fun m hm x emits => alone x (List.mem_append_left _ (emits ▸ Timeline.mem_of_past hm)))
    reading (by rw [moment]; exact unread) (by rw [moment]; exact wanted)
  have fate := h.collected there kept drained fresh
  rw [moment] at outcome
  rw [accepted_of_returned h.split h.there h.active] at fate
  rcases outcome with ⟨fits, rfl, all, good⟩ | ⟨exceeds, rfl⟩
  · have emissions := emissions_of_accepted good
    rcases fate with ⟨lossless, -, value, -⟩ | ⟨stalled, once, cut⟩
    · have length := congrArg List.length emissions
      rw [List.length_map, List.length_map, all] at length
      exact .whole fits lossless length.symm emissions (value rfl)
    · -- the start and all pieces waited when the handler returned
      have orderly := orderly_run config earlier atPlace
      have account := accounted_run config earlier atPlace
      rw [moment, show received id before = [] from unread] at orderly account
      have length := orderly.length_queue account (by rw [h.active]; rfl) reading
      have delivered : q.delivered = n := by
        rw [account.delivered, ← all, List.countP_eq_length]
        exact fun c hc => by simp [(good c hc).1]
      have full := h.full stalled
      exact .givenUp fits (by omega) stalled once cut
  · obtain ⟨error, failed⟩ : ∃ error, c.collect (received id (Timeline.run (.new config)
        (earlier ++ .advance id :: later)).past) = .error error := by
      rcases fate with ⟨-, -, -, failure⟩ | ⟨-, -, cut⟩
      · obtain ⟨message, retryable, same⟩ := h.verdict.of_failed
        exact ⟨_, failure message retryable same⟩
      · exact ⟨_, cut⟩
    exact .spilt exceeds failed

end Execution

/-! ### Answers -/

namespace Router

/-- No step of a call calls an emitter. -/
lemma emit_of_mem_chronicle {id : ℕ} {x : Emission} (acts : List Action) {t : Router}
    (there : .emit id x ∈ t.chronicle acts) : .execute (.emit id x) ∈ acts := by
  have silent (s : Server Backend) (c c' : Conversation) : .emit id x ∉ c.deeds s c' := by
    rw [Conversation.deeds.eq_def]
    split <;> simp
  have quiet (t : Router) (i : ℕ)
      (f : Server Backend → Conversation → Option (Server Backend × Conversation)) :
      .emit id x ∉ t.deedsOfStep i f := by
    rw [deedsOfStep]
    split
    · exact List.not_mem_nil
    · split
      · exact List.not_mem_nil
      · exact silent _ _ _
  induction acts generalizing t with
  | nil => cases there
  | cons a acts ih =>
      rcases List.mem_append.mp there with now | later
      · refine List.mem_cons.mpr (.inl ?_)
        cases a with
        | execute a => rw [List.mem_singleton.mp now]
        | advance i | abandon i => exact (quiet _ _ _ now).elim
        | ask | pass | close => simp [deeds] at now
      · exact List.mem_cons_of_mem _ (ih later)

section Bursts

variable {config : ExecutorConfig} {s : Server Backend} {acts : List Action} {c : Conversation}
  {n : ℕ}

/-- **What is answered to a call whose handler pours out pieces of data.** -/
lemma poured_run (new : s.engine = .new config) (empty : s.cache.entries = [])
    (hc : c ∈ (run ⟨s, []⟩ acts).calls) {time id : ℕ} {result : Except RpcError Json}
    (answered : c.progress = .answered time (.run id) result)
    (pours : (c.tool.handler c.args).Pours n) (unshared : Unshared id acts)
    (alone : ∀ x, .execute (.emit id x) ∉ acts) :
    ∃ before after, chronicle ⟨s, []⟩ acts = before ++ .drop id :: after ∧ .drop id ∉ before ∧
      ∀ e q o earlier since,
        (Timeline.run (.new config) (before ++ [.take id])).past
          = earlier ++ (e, .advance id) :: since →
        e.runs[id]? = some q → q.stage = .active (.done o) → received id earlier = [] →
        e.isCancelled q.scope = false →
        Poured config n id (Execution.timerAfter e.now config.terminalTimeout)
          (attempts id earlier) since result := by
  obtain ⟨before, after, r, read⟩ := readOut_run new empty acts hc answered unshared
  refine ⟨before, after, read.split, read.kept, ?_⟩
  intro e q o earlier since split atPlace active unread wanted
  have called : Called id (Timeline.run (.new config) (before ++ [.take id])) := by
    refine ⟨e, List.mem_append_left _ ?_, q, atPlace, by rw [active]; rfl⟩
    rw [split]
    simp
  obtain ⟨e', q', o', last, earlier', since', decided⟩ :=
    Execution.decided_run config _ read.there called read.past
  obtain ⟨rfl, rfl, rfl⟩ := Execution.returns_once split atPlace active decided.split decided.there
    decided.active
  obtain rfl := Option.some.inj (decided.there.symm.trans atPlace)
  have body : q'.body.Pours n := by
    obtain ⟨w, there, -, -, handler⟩ := (sound_run empty acts).exists_worker hc
      (by rw [answered]; rfl)
    obtain ⟨first, later, eq, moment⟩ := Timeline.run_of_past split
    -- the call went away after the return
    obtain ⟨later, rfl⟩ : ∃ later', before = first ++ .advance id :: later' := by
      rcases List.eq_nil_or_concat later with rfl | ⟨later, a, rfl⟩
      · cases (List.append_inj' eq rfl).2
      · rw [List.concat_eq_append, ← List.cons_append, ← List.append_assoc] at eq
        exact ⟨later, (List.append_inj' eq rfl).1⟩
    rw [← chronicle_now, new, read.split, List.append_assoc] at there
    have kept := Execution.body_later first _ (by rw [moment]; exact atPlace) there
    rwa [← kept, handler]
  have silent : ∀ x, .emit id x ∉ before ++ [.take id] := fun x emits => by
    refine alone x (emit_of_mem_chronicle acts (t := ⟨s, []⟩) ?_)
    rw [read.split]
    exact List.mem_append_left _ (by simpa using emits)
  rw [read.collected]
  exact decided.poured read.there (by simp [read.kept]) read.ended body silent unread wanted rfl

/-- **A handler that pours out pieces of data returns by the steps of its invocation alone, and
then its call is answered** if that invocation and calls go on. -/
lemma answerable_of_pours (new : s.engine = .new config) (empty : s.cache.entries = []) {i : ℕ}
    {call : Call} {r : Run} (there : (run ⟨s, []⟩ acts).calls[i]? = some c)
    (underWay : c.progress = .underWay call)
    (atPlace : (run ⟨s, []⟩ acts).server.engine.runs[call.run]? = some r)
    (begun : r.stage.isEntering = false) (pours : (c.tool.handler c.args).Pours n)
    (alone : ∀ x, .execute (.emit call.run x) ∉ acts) :
    ∃ k, let t := run ⟨s, []⟩ (acts ++ List.replicate k (.execute (.advance call.run)))
      (∃ r, t.server.engine.runs[call.run]? = some r ∧ r.stage.isPast = true)
        ∧ t.Answerable i call.run := by
  have work : c.WorkedOnBy (run ⟨s, []⟩ acts).server.engine call.run :=
    (sound_run empty acts).exists_worker (List.mem_of_getElem? there) (by rw [underWay]; rfl)
  obtain ⟨w, atPlace', -, -, handler⟩ := work
  obtain rfl := Option.some.inj (atPlace'.symm.trans atPlace)
  have now := chronicle_now ⟨s, []⟩ acts
  rw [new] at now
  have sofar := Execution.pouring_run config (chronicle ⟨s, []⟩ acts)
    (by rw [now]; exact atPlace) (n := n) (by rwa [handler]) fun m hm x emits =>
      alone x (emit_of_mem_chronicle acts (emits ▸ Timeline.mem_of_past hm))
  cases stage : w.stage with
  | arriving | waiting => simp [stage, Execution.Stage.isEntering] at begun
  | asleep =>
      rw [stage] at sofar
      exact sofar.elim
  | delivering last giveUp =>
      refine ⟨0, ?_⟩
      rw [List.replicate_zero, List.append_nil]
      exact ⟨⟨w, atPlace, by rw [stage]; rfl⟩,
        answerable_of_delivering there underWay atPlace stage⟩
  | finished =>
      refine ⟨0, ?_⟩
      rw [List.replicate_zero, List.append_nil]
      exact ⟨⟨w, atPlace, by rw [stage]; rfl⟩,
        answerable_of_finished there underWay atPlace stage⟩
  | active b =>
      rw [stage] at sofar
      have returning : (run ⟨s, []⟩ acts).server.engine.Returning call.run := by
        cases sofar with
        | flows rest => exact rest.returning atPlace stage
        | stops stopped => exact Engine.returning_of_done atPlace (stopped ▸ stage)
      obtain ⟨k, r', last, giveUp, returned, delivering⟩ := returning
      refine ⟨k, ?_⟩
      have reached := run_execute (run ⟨s, []⟩ acts) (List.replicate k (.advance call.run))
      rw [List.map_replicate] at reached
      rw [run, List.foldl_append, ← run, ← run, reached]
      exact ⟨⟨r', returned, by rw [delivering]; rfl⟩,
        answerable_of_delivering there underWay returned delivering⟩

end Bursts

end Router

/-! ### Bursts -/

/-- How the emissions of an invocation fill its queue while nothing is read: those that have found
its emitter open are accepted up to the limit of events or the last free place, and refused from
then on. Its own handler always finds the emitter open. -/
structure Filled (config : ExecutorConfig) (t : Timeline) (id : ℕ) (r : Run) : Prop where
  answers : let n := (heard (attempts id t.past)).length
    let kept := min config.maxEvents (config.capacity - 1)
    (heard (attempts id t.past)).map Attempt.answer
      = List.replicate (min n kept) none
        ++ List.replicate (n - kept) (some (if config.maxEvents ≤ config.capacity - 1
          then .limitExceeded config.maxEvents else .channelFull))
  lost : droppedBy id t.past = (if config.maxEvents ≤ config.capacity - 1 then 0
    else (heard (attempts id t.past)).length - (config.capacity - 1))
  opened : ∀ x next, r.stage = .active (.emit x next) → (t.now.attempt r x).answer ≠ some .closed

/-- **Emissions fill the queue while nothing is read.** -/
lemma Execution.filled_run (config : ExecutorConfig) (acts : List Execution.Action) {id : ℕ}
    {r : Run} (there : (Timeline.run (.new config) acts).now.runs[id]? = some r)
    (kept : .drop id ∉ acts) (unread : received id (Timeline.run (.new config) acts).past = [])
    (wanted : (Timeline.run (.new config) acts).now.isCancelled r.scope = false) :
    Filled config (Timeline.run (.new config) acts) id r := by
  have answers := unread_run config acts there (reading_of_kept config acts kept there) unread wanted
  refine ⟨answers, ?_, fun x next active => ?_⟩
  · rw [droppedBy_run, ← countP_heard _ (by simp), answers, countP_full_answersUnread]
  · have opened := (orderly_run config acts there).emitting
    rw [active] at opened
    exact Run.publish_ne_closed opened _ _ _ _

/-- The moment at which the handler of an invocation returned, before anything was read and while
it was not cancelled: what the executor was then, what had happened and what has happened since. -/
structure ReturnedUnread (id : ℕ) (past : List (Engine × Execution.Action)) (e : Engine)
    (earlier since : List (Engine × Execution.Action)) : Prop where
  split : past = earlier ++ (e, .advance id) :: since
  returned : ∃ q o, e.runs[id]? = some q ∧ q.stage = .active (.done o)
    ∧ e.isCancelled q.scope = false
  unread : received id earlier = []

/-- The answer to a call whose handler has poured out `n` pieces of data, with the last event to be
given up at some time: it is a success exactly if there was room for all pieces and the last event
was not given up, and then holds all of them. The last event is given up only if the pieces have
filled the queue. -/
structure BurstAnswer (config : ExecutorConfig) (n id giveUp : ℕ)
    (earlier since : List (Engine × Execution.Action)) (result : Except RpcError Json) : Prop where
  succeeds_iff : (∃ v, result = .ok v) ↔
    n ≤ min config.maxEvents (config.capacity - 1) ∧ lossesOf id since = 0
  value : ∀ v, result = .ok v → ∃ chunks : List Json, chunks.length = n
    ∧ (attempts id earlier).map Attempt.emission = chunks.map .data
    ∧ v = textResult (if chunks.isEmpty then .null else .array chunks)
  full : n ≤ min config.maxEvents (config.capacity - 1) → lossesOf id since ≠ 0 →
    n = config.capacity - 1 ∧ Stalled config.capacity giveUp id since
      ∧ result = .error streamClosed

/-- Whether a handler returns by the steps of its invocation alone, and its call is then answered
if only the invocation and calls go on. -/
def Router.Returns (s : Server Backend) (acts : List Router.Action) (i id : ℕ) : Prop :=
  ∃ k, let t := run ⟨s, []⟩ (acts ++ List.replicate k (.execute (.advance id)))
    (∃ r, t.server.engine.runs[id]? = some r ∧ r.stage.isPast = true) ∧ t.Answerable i id

/-- **Pieces of data in a row.** As long as an invocation has a reader that has read nothing, and
is not cancelled, its emissions fill its queue, whatever has been submitted, cancelled and read
elsewhere.

Let a new server take any actions, and a handler emit a number of pieces of data in a row, pass a
failure on, and end without a value.

* If its call has been answered by the invocation, and nothing had been read when the handler
  returned, the answer is that to a burst.
* Once the handler has started, it returns, and its call is answered. -/
theorem bursts_succeed_if_they_fit (config : ExecutorConfig) :
    (∀ (acts : List Execution.Action) (id : ℕ) (r : Run),
      let t := Timeline.run (.new config) acts
      t.now.runs[id]? = some r → .drop id ∉ acts → received id t.past = [] →
      t.now.isCancelled r.scope = false → Filled config t id r)
    ∧ ∀ s : Server Backend, s.engine = .new config → s.cache.entries = [] →
      ∀ (acts : List Router.Action),
      let t := Router.run ⟨s, []⟩ acts
      ∀ c ∈ t.calls, ∀ n, (c.tool.handler c.args).Pours n →
        (∀ time id result, c.progress = .answered time (.run id) result →
          Router.Unshared id acts → (∀ x, .execute (.emit id x) ∉ acts) →
          ∃ before after, Router.chronicle ⟨s, []⟩ acts = before ++ .drop id :: after
            ∧ .drop id ∉ before
            ∧ ∀ e earlier since,
              ReturnedUnread id (Timeline.run (.new config) (before ++ [.take id])).past e
                earlier since →
              BurstAnswer config n id (Execution.timerAfter e.now config.terminalTimeout)
                earlier since result)
        ∧ ∀ i call r, t.calls[i]? = some c → c.progress = .underWay call →
          t.server.engine.runs[call.run]? = some r → r.stage.isEntering = false →
          (∀ x, .execute (.emit call.run x) ∉ acts) → Router.Returns s acts i call.run := by
  refine ⟨fun acts id r => Execution.filled_run config acts,
    fun s new empty acts c hc n pours => ⟨fun time id result answered unshared alone => ?_,
      fun i call r there underWay atPlace begun alone =>
        Router.answerable_of_pours new empty there underWay atPlace begun pours alone⟩⟩
  obtain ⟨before, after, split, kept, poured⟩ :=
    Router.poured_run new empty hc answered pours unshared alone
  refine ⟨before, after, split, kept, fun e earlier since moment => ?_⟩
  obtain ⟨q, o, atPlace, active, wanted⟩ := moment.returned
  have fate := poured e q o earlier since moment.split atPlace active moment.unread wanted
  exact ⟨fate.succeeds_iff, fun v same => (same ▸ fate).value, fate.full⟩

/-- A handler that emits some pieces of data in a row, and passes a failure on. -/
def pour : List Json → Behaviour
  | [] => .done (.ok .null)
  | chunk :: chunks => .emit (.data chunk) fun
    | none => pour chunks
    | some error => .done (.failed (.ofEmit error))

lemma pours_pour (chunks : List Json) : (pour chunks).Pours chunks.length := by
  induction chunks with
  | nil => exact .ends
  | cons chunk chunks ih => exact .emits ih fun _ => rfl

/-- Three pieces of data where there is room for two. -/
def spilling : List Execution.Action :=
  .submit "t" "r" .null (.named "caller") (fun _ => pour [.null, .null, .null])
    :: List.replicate 4 (.advance 0)

/-- A call of a handler whose pieces of data fill the queue, so that the last event waits until
the call has read one. -/
def filling : List Router.Action :=
  callSole 5 1 ++ .execute (.advance 0) :: List.replicate 4 (.advance 0)

lemma eq_of_execute_filling {a : Execution.Action} (there : .execute a ∈ filling) :
    a = .advance 0 := by
  simpa [filling, callSole] using there

theorem bursts_succeed_if_they_fit_filling :
    let spilt := Timeline.run (.new { bufferSize := 3 }) spilling
    let t := Router.run
      ⟨soleServer { bufferSize := 3 } fun _ => pour [.null, .bool true], []⟩ filling
    ((heard (attempts 0 spilt.past)).map Attempt.answer = [none, none, some .channelFull]
      ∧ droppedBy 0 spilt.past = 1)
    ∧ ∃ c ∈ t.calls, ∃ v, c.progress = .answered 0 (.run 0) (.ok v)
      ∧ ∃ chunks, chunks.length = 2 ∧ v = textResult (.array chunks) := by
  intro spilt t
  obtain ⟨emissions, calls⟩ := bursts_succeed_if_they_fit { bufferSize := 3 }
  refine ⟨?_, ?_⟩
  · obtain ⟨r, there⟩ : ∃ r, spilt.now.runs[0]? = some r := ⟨_, rfl⟩
    have wanted : spilt.now.isCancelled r.scope = false := by
      obtain rfl := Option.some.inj there
      rfl
    have filled := emissions spilling 0 r there (by simp [spilling]) rfl wanted
    exact ⟨filled.answers, filled.lost⟩
  · obtain ⟨c, hc, tool, answered⟩ : ∃ c ∈ t.calls,
        c.tool = soleTool (fun _ => pour [.null, .bool true]) ∧ c.progress = .answered 0 (.run 0)
        (.ok (CallResult.ofValue (.array [.null, .bool true])).toJson.canonical) :=
      ⟨_, List.mem_of_getElem? (i := 0) rfl, rfl, rfl⟩
    obtain ⟨whole, -⟩ := calls (soleServer { bufferSize := 3 } fun _ => pour [.null, .bool true])
      rfl rfl filling c hc 2 (by rw [tool]; exact pours_pour [.null, .bool true])
    obtain ⟨before, after, split, kept, fate⟩ := whole 0 0 _ answered
      (fun a there => by simp [eq_of_execute_filling there])
      (fun x there => by simpa using eq_of_execute_filling there)
    have deeds : Router.chronicle
        ⟨soleServer { bufferSize := 3 } fun _ => pour [.null, .bool true], []⟩ filling
        = [_, _, .advance 0, .advance 0, .advance 0, .advance 0, .advance 0, .take 0, .advance 0,
          .take 0, .take 0, .take 0] ++ .drop 0 :: [] := rfl
    obtain ⟨rfl, -, rfl⟩ := (List.append_cons_inj_of_notMem (by simp) (by simp)).mp
      (deeds.symm.trans split)
    have answer := fate _ [_, _, _, _, _] [_, _, _, _, _, _]
      ⟨rfl, ⟨_, _, rfl, rfl, rfl⟩, rfl⟩
    obtain ⟨chunks, all, -, same⟩ := answer.value _ rfl
    have some_there : chunks.isEmpty = false := by
      cases chunks with
      | nil => cases all
      | cons => rfl
    rw [some_there] at same
    exact ⟨c, hc, _, answered, chunks, all, same⟩

/-- An executor whose queues hold two events, and none waits for room. -/
def brisk : ExecutorConfig :=
  { bufferSize := 2, terminalTimeout := 0 }

/-- A call fails though all pieces of data have found room, nothing has been read and nothing
cancelled, since the last event is given up. -/
theorem fitting_burst_unanswered :
    let s := soleServer brisk fun _ => pour [.ofNat 7]
    let acts := callSole 4 4
    let t := Router.run ⟨s, []⟩ acts
    (pour [.ofNat 7]).Pours 1 ∧ 1 ≤ min brisk.maxEvents (max brisk.bufferSize 1 - 1)
      ∧ (∃ (e : Engine) (q : Run) (earlier since : List (Engine × Execution.Action)),
        (Timeline.run (.new brisk) (Router.chronicle ⟨s, []⟩ acts)).past
            = earlier ++ (e, .advance 0) :: since
          ∧ e.runs[0]? = some q ∧ q.stage = .active (.done (.ok .null)) ∧ received 0 earlier = []
          ∧ e.isCancelled q.scope = false)
      ∧ ∃ c ∈ t.calls, ∃ result, c.progress = .answered 0 (.run 0) result
        ∧ result = .error streamClosed ∧ ¬ ∃ v, result = .ok v := by
  refine ⟨pours_pour [.ofNat 7], by decide, ⟨_, _, [_, _, _, _], _, rfl, rfl, rfl, rfl, rfl⟩, ?_⟩
  exact ⟨_, List.mem_of_getElem? (i := 0) rfl, _, rfl, rfl, by simp⟩

end ToolServer
