/-
Counting down:

* `steps`: all that is emitted when somebody counts down from some number;
* `recites_countDown`: the handler emits that, one thing after another;
* `Accepts`: what is made of the arguments;
* `Emitted`, `Returned`, `EmitsFrom`, `CountsDown`: how an invocation counts down, at any time
  (`countsDown_run`); `CountAnswer`: what its call is answered;
* `countdowns_are_told_in_order`: the theorem;
* `countdown_without_end`: a count down to the end need not be seen to end.

The numbers of the steps go up while what is left goes down. So the steps are counted from the
bottom, and the induction is on what is left.
-/
import ToolServer.Demo.Tools
import ToolServer.Proofs.Server.Recital

namespace ToolServer.Demo

open ToolServer.Cache (Backend)
open ToolServer.Execution (Engine Timeline Run Behaviour Emission Attempt Called Decided Stalled
  Recited announced attempts pieces readings received lossesOf)
open ToolServer.Tool (Definition)

/-! ### What is emitted -/

/-- What is emitted in a step of a count down from some number, `k` steps having been taken. -/
def step (n k : ℕ) : List Emission :=
  [.progress (k + 1).toUInt64 n.toUInt64 s!"{n - (k + 1)} left", .data (.ofNat (n - (k + 1)))]

/-- All that is emitted when somebody counts down from some number. -/
def steps (n : ℕ) : List Emission :=
  (List.range n).flatMap (step n)

lemma length_steps (n : ℕ) : (steps n).length = 2 * n := by
  rw [steps, List.length_flatMap]
  simp [step, mul_comm]

/-- The pieces of data are the numbers below, the largest one first. -/
lemma chunks_steps (n : ℕ) :
    (steps n).filterMap Emission.chunk? = (List.range n).reverse.map Json.ofNat := by
  have one (k : ℕ) : (step n k).filterMap Emission.chunk? = [.ofNat (n - 1 - k)] := by
    rw [Nat.sub_sub, Nat.add_comm 1 k]
    rfl
  have down : (List.range n).reverse = (List.range n).map (n - 1 - ·) := by
    have numbers := List.reverse_range' (s := 0) (n := n)
    rwa [← List.range_eq_range', Nat.zero_add] at numbers
  simp only [steps, List.filterMap_flatMap, one]
  rw [← List.map_eq_flatMap, down, List.map_map]
  rfl

/-- **What is left to emit** when some steps are left. -/
lemma recites_countDown (total interval : ℕ) {left : ℕ} (le : left ≤ total) :
    (countDown total interval left).Recites
      ((List.range' (total - left) left).flatMap (step total)) := by
  induction left with
  | zero => exact .ends
  | succ left ih =>
      have rest := ih (Nat.le_of_succ_le le)
      have next : total - (left + 1) + 1 = total - left := by omega
      have below : total - (total - left) = left := by omega
      rw [List.range'_succ, List.flatMap_cons, step, next, below]
      refine .emits (.emits ?_ fun _ => rfl) fun _ => rfl
      show Behaviour.Recites _ (if left = 0 then _ else _)
      cases left with
      | zero => exact rest
      | succ left =>
          rw [List.range'_succ, List.flatMap_cons, step] at rest ⊢
          exact .pauses rest rfl

/-! ### What is asked for -/

/-- Whether arguments ask for a count down from some number, with some milliseconds in between. -/
structure Accepts (args : Json) (start interval : UInt64) : Prop where
  counted : naturalArg args "from" 5 = .ok start
  bounded : start ≤ maxFrom
  paced : naturalArg args "interval_ms" 200 = .ok interval

/-- The tool that counts down, put together. -/
def countdownTool : Definition where
  name := countdown.name
  description := countdown.description
  parameters := countdown.parameters
  streaming := countdown.streaming
  caching := countdown.caching
  handler := countdown.handler.get rfl

lemma build_countdown : countdown.build = .ok countdownTool := rfl

/-- **The handler emits all steps** one after another. -/
lemma recites_countdown {tool : Definition} (built : countdown.build = .ok tool) {args : Json}
    {start interval : UInt64} (accepts : Accepts args start interval) :
    (tool.handler args).Recites (steps start.toNat) := by
  obtain rfl := Except.ok.inj (build_countdown.symm.trans built)
  have behaviour : countdownTool.handler args
      = countDown start.toNat (Duration.millis interval.toNat) start.toNat := by
    have small : ¬ maxFrom < start := UInt64.not_lt.mpr accepts.bounded
    simp [countdownTool, countdown, Tool.Draft.handle, accepts.counted, accepts.paced, small]
  have all := recites_countDown start.toNat (Duration.millis interval.toNat) (le_refl _)
  rwa [Nat.sub_self, ← List.range_eq_range', ← behaviour] at all

/-! ### What comes of it -/

/-- What a count down from some number has emitted: the first steps of all of them, with the
numbers `1`, `2` and so on, and maybe one more that has failed. Its reader has got the beginning of
what was emitted. -/
structure Emitted (n id : ℕ) (t : Timeline) (r : Run) : Prop where
  bound : r.delivered ≤ 2 * n
  recited : Recited (steps n) ((steps n).take r.delivered) (attempts id t.past)
  heard : pieces (received id t.past) <+: announced ((steps n).take r.delivered)
  part : announced ((steps n).take r.delivered) <+: announced (steps n)

/-- What comes of a count down whose handler has returned: it is done and the last event is an end
exactly if all was emitted, and otherwise it is an error. No other last event is ever seen. A reader
that reads to the end sees the start, what was emitted and that last event, unless this is given up
since the queue was full until the timer went off. -/
structure Returned (config : ExecutorConfig) (n id : ℕ) (acts : List Execution.Action)
    (t : Timeline) (r : Run) (e : Engine) (q : Run) (last : Event)
    (since : List (Engine × Execution.Action)) : Prop where
  verdict : (r.delivered = 2 * n ∧ r.state = .done
      ∧ last = .done (e.now - q.started) (2 * n) (some (r.tool ++ " completed")) none)
    ∨ (r.delivered < 2 * n ∧ r.state ≠ .done
      ∧ ∃ message retryable, last = .error message retryable)
  only : ∀ event ∈ received id t.past, event.isTerminal = true → event = last
  whole : .drop id ∉ acts → .ended ∈ readings id t.past →
    let opening := .start r.tool r.requestId r.args :: announced ((steps n).take r.delivered)
    (received id t.past = opening ++ [last] ∧ lossesOf id since = 0)
    ∨ (received id t.past = opening
      ∧ Stalled config.capacity (Execution.timerAfter e.now config.terminalTimeout) id since
      ∧ lossesOf id since = 1)

/-- What holds of an emission at some moment and of those that come after it: every one fails once
the invocation is cancelled, and there is none after one that has failed, for the limit of events or
for a full queue as well. One that does not fail although the timer of the deadline has gone off is
ahead of what that timer does, which is to cancel. -/
structure EmitsFrom (config : ExecutorConfig) (id : ℕ) (m : Engine × Execution.Action)
    (since : List (Engine × Execution.Action)) (q : Run) : Prop where
  cancelled : m.1.isCancelled q.scope = true → ∀ c ∈ attempts id (m :: since), c.answer ≠ none
  failed : ∀ c, m.1.attempt? m.2 id = some c → c.answer ≠ none → attempts id since = []
  room : ∀ c, m.1.attempt? m.2 id = some c → c.answer = none →
    q.delivered < config.maxEvents ∧ q.queue.length < config.capacity
  ahead : ∀ c, m.1.attempt? m.2 id = some c → c.answer = none →
    Execution.isDue q.deadline m.1.now = true → m.1.expire id = some (m.1.fire q.scope)

/-- How an invocation counts down from some number. -/
structure CountsDown (config : ExecutorConfig) (n id : ℕ) (acts : List Execution.Action)
    (t : Timeline) (r : Run) : Prop where
  emitted : Emitted n id t r
  /-- If its handler is not called, it emits nothing, and no end is seen. -/
  uncalled : ¬ Called id t → r.delivered = 0 ∧ r.state ≠ .done
    ∧ ∀ event ∈ received id t.past, event.kind ≠ .done
  /-- As soon as all is emitted, its next step shows that it is done. -/
  ends : r.stage.isHandling = true → r.delivered = 2 * n → ∃ e' r', t.now.advance id = some e'
    ∧ e'.runs[id]? = some r' ∧ r'.state = .done
  returned : Called id t → r.stage.isPast = true → ∃ e q o last before since,
    Decided config id t r e q o last before since
      ∧ Returned config n id acts t r e q last since
  emits : ∀ before m since q, t.past = before ++ m :: since → m.1.runs[id]? = some q →
    EmitsFrom config id m since q

/-- **How an invocation counts down**, at any time. -/
lemma countsDown_run (config : ExecutorConfig) (acts : List Execution.Action) {n id : ℕ} {r : Run}
    (there : (Timeline.run (.new config) acts).now.runs[id]? = some r)
    (entrusted : (Timeline.run (.new config) acts).Entrusted) (recites : r.body.Recites (steps n)) :
    CountsDown config n id acts (Timeline.run (.new config) acts) r := by
  have recited := Execution.recited_run there recites entrusted
  have length : (steps n).length = 2 * n := length_steps n
  refine ⟨⟨?_, recited, ?_, ?_⟩, fun uncalled => ?_, fun handling all => ?_,
    fun called past => ?_, fun before m since q split atPlace => ?_⟩
  · exact length ▸ Execution.delivered_le_length there recites entrusted
  · have heard := (Execution.announced_run there recites entrusted).1
    rw [Execution.pieces_append] at heard
    exact (List.prefix_append _ _).trans heard
  · exact Execution.announced_isPrefix (List.take_prefix _ _)
  · obtain ⟨nothing, state⟩ := Execution.uncalled_run config acts there uncalled
    have unended : r.state ≠ .done := by rcases state with same | same <;> simp [same]
    refine ⟨nothing, unended, fun event got ends => unended ?_⟩
    exact ((Execution.telling_run config acts there).told event (List.mem_append_left _ got)
      (by rw [Event.isTerminal, ends]; rfl)).2.mpr ends
  · have active := Execution.stage_of_all_delivered there recites entrusted handling
      (all.trans length.symm)
    have bound := (List.getElem?_eq_some_iff.mp there).1
    exact ⟨_, _, Execution.Engine.act_of_active there active, List.getElem?_set_self bound, rfl⟩
  · obtain ⟨e, q, o, last, before, since, decided⟩ :=
      Execution.decided_run config acts there called past
    exact ⟨e, q, o, last, before, since, decided,
      length ▸ decided.recited there recites entrusted,
      fun event got terminal => (decided.eq_last got terminal).1,
      decided.told there recites entrusted⟩
  · obtain ⟨earlier, later, -, moment⟩ := Timeline.run_of_past split
    have able (c : Attempt) (call : m.1.attempt? m.2 id = some c) (accepted : c.answer = none) := by
      have limits := Execution.config_run config earlier
      have obtains := Engine.able_of_accepted atPlace call accepted
      rw [moment] at limits
      rwa [limits] at obtains
    refine ⟨fun cancelled c hc => Execution.refused_of_cancelled split atPlace cancelled hc,
      fun c call => recited.last (Execution.attempts_of_split split call),
      fun c call accepted => (able c call accepted).2.2, fun c call accepted => ?_⟩
    have there : (Timeline.run (.new config) earlier).now.runs[id]? = some q := by
      rw [moment]
      exact atPlace
    have orderly := Execution.orderly_run config earlier there
    rw [moment] at orderly
    exact Engine.expire_of_accepted atPlace orderly call accepted

/-- What a call is answered whose invocation counts down from some number: an error if the handler
was not called, or if not all was emitted, and otherwise the numbers below in decreasing order, or
null for zero, unless the last event was given up. -/
structure CountAnswer (config : ExecutorConfig) (n id : ℕ) (t : Timeline) (r : Run)
    (result : Except RpcError Json) : Prop where
  uncalled : ¬ Called id t → r.delivered = 0
    ∧ result = .error (.toolFailed Engine.cancelledEarly false)
  called : Called id t → ∃ e q o last earlier since,
    Decided config id t r e q o last earlier since
    ∧ ((r.delivered = 2 * n ∧ lossesOf id since = 0
        ∧ result = .ok (textResult
          (if n = 0 then .null else .array ((List.range n).reverse.map .ofNat))))
      ∨ (r.delivered = 2 * n
        ∧ Stalled config.capacity (Execution.timerAfter e.now config.terminalTimeout) id since
        ∧ lossesOf id since = 1 ∧ result = .error streamClosed)
      ∨ (r.delivered < 2 * n ∧ ∃ error, result = .error error))

/-- **Counting down.** At any time, whatever has been submitted, cancelled and read, and however
small the queues and the limits are, every invocation that counts down from some number, with any
pauses, emits progress `1`, data `n - 1`, ..., progress `n`, data `0` in this order, as long as
nobody calls an emitter that no handler has laid aside.

Let a new server take any actions. If a call of the tool has been answered by the invocation that
it started, the answer is what was counted down. Once the handler has returned, the call is answered
if only the invocation and calls go on. -/
theorem countdowns_are_told_in_order (config : ExecutorConfig) (tool : Definition)
    (built : countdown.build = .ok tool) :
    (∀ (acts : List Execution.Action) (id : ℕ) (r : Run) (start interval : UInt64),
      let t := Timeline.run (.new config) acts
      t.Entrusted → t.now.runs[id]? = some r → r.body = tool.handler r.args →
      Accepts r.args start interval → CountsDown config start.toNat id acts t r)
    ∧ ∀ s : Server Backend, s.engine = .new config → s.cache.entries = [] →
      ∀ acts : List Router.Action,
      (Timeline.run (.new config) (Router.chronicle ⟨s, []⟩ acts)).Entrusted →
      let t := Router.run ⟨s, []⟩ acts
      ∀ c ∈ t.calls, c.tool = tool → ∀ start interval, Accepts c.args start interval →
      (∀ time id result, c.progress = .answered time (.run id) result → Router.Unshared id acts →
        ∃ before after r, Router.chronicle ⟨s, []⟩ acts = before ++ .drop id :: after
          ∧ .drop id ∉ before ∧
          let drained := Timeline.run (.new config) (before ++ [.take id])
          drained.now.runs[id]? = some r ∧ CountAnswer config start.toNat id drained r result)
      ∧ ∀ i call r, t.calls[i]? = some c → c.progress = .underWay call →
        t.server.engine.runs[call.run]? = some r → r.stage.isPast = true →
        t.Answerable i call.run := by
  refine ⟨?_, ?_⟩
  · intro acts id r start interval t entrusted there body accepts
    exact countsDown_run config acts there entrusted
      (body ▸ recites_countdown built accepts)
  · intro s new empty acts entrusted t c hc same start interval accepts
    have recites : (c.tool.handler c.args).Recites (steps start.toNat) :=
      same ▸ recites_countdown built accepts
    refine ⟨fun time id result answered unshared => ?_, fun i call r there underWay atPlace past =>
      Router.answerable_of_isPast there underWay atPlace past⟩
    obtain ⟨before, after, r, split, kept, there, uncalled, called⟩ :=
      Router.recital_run new empty entrusted hc answered unshared recites
    refine ⟨before, after, r, split, kept, there, uncalled, fun now => ?_⟩
    have answer := called now
    simp only [length_steps, chunks_steps] at answer
    have none_at_zero (n : ℕ) : ((List.range n).reverse.map Json.ofNat).isEmpty = true ↔ n = 0 := by
      simp
    simpa only [none_at_zero] using answer

/-- Arguments that ask for a count down without pauses. -/
def countFrom (start : UInt64) : Json :=
  .object [("from", .number (.natural start)), ("interval_ms", .number (.natural 0))]

lemma accepts_countFrom {start : UInt64} (bounded : start ≤ maxFrom) :
    Accepts (countFrom start) start 0 :=
  ⟨rfl, bounded, rfl⟩

lemma wellFormed_countFrom (start : UInt64) : (countFrom start).WellFormed :=
  ⟨by simp, trivial, trivial, trivial⟩

/-- An invocation that counts down from two and is read to the end. -/
def countTwo : List Execution.Action :=
  .submit "countdown" "r" (countFrom 2) (.named "caller") countdownTool.handler
    :: List.replicate 9 (.advance 0) ++ List.replicate 7 (.take 0)

/-- A server whose only tool counts down. -/
def countdownServer (config : ExecutorConfig) : Server Backend where
  tools := ⟨[countdownTool]⟩
  engine := .new config
  cache := .disabled 0

/-- A call of that tool, which takes some steps once its invocation has taken some. -/
def callCountdown (start : UInt64) (steps reads : ℕ) : List Router.Action :=
  [.ask (.object [("arguments", countFrom start), ("name", .string "countdown")])
      ⟨by simp, wellFormed_countFrom start, trivial, trivial⟩ (.named ""), .advance 0]
    ++ List.replicate steps (.execute (.advance 0)) ++ List.replicate reads (.advance 0)

theorem countdowns_are_told_in_order_from_two :
    let t := Timeline.run (.new {}) countTwo
    let calls := (Router.run ⟨countdownServer {}, []⟩ (callCountdown 2 9 8)).calls
    (∃ duration, received 0 t.past = .start "countdown" "r" (countFrom 2) :: announced (steps 2)
      ++ [.done duration 4 (some "countdown completed") none])
    ∧ ∃ c ∈ calls, c.progress = .answered 0 (.run 0) (.ok (textResult (.array [.ofNat 1, .ofNat 0])))
    := by
  intro t calls
  obtain ⟨alone, called⟩ := countdowns_are_told_in_order {} countdownTool build_countdown
  refine ⟨?_, ?_⟩
  · obtain ⟨r, there⟩ : ∃ r, t.now.runs[0]? = some r := ⟨_, rfl⟩
    obtain ⟨body, args, past, all⟩ : r.body = countdownTool.handler r.args ∧ r.args = countFrom 2
        ∧ r.stage.isPast = true ∧ r.delivered = 4 := by
      obtain rfl := Option.some.inj there
      exact ⟨rfl, rfl, rfl, rfl⟩
    have entrusted : t.Entrusted := Timeline.entrusted_of_silent (by simp [countTwo])
    have counts := alone countTwo 0 r 2 0 entrusted there body
      (args ▸ accepts_countFrom (by decide))
    obtain ⟨e, q, o, last, before, since, -, verdict, -, whole⟩ :=
      counts.returned ⟨_, List.mem_of_getElem? (i := 2) rfl, _, rfl, rfl⟩ past
    obtain ⟨tool, requestId⟩ : r.tool = "countdown" ∧ r.requestId = "r" := by
      obtain rfl := Option.some.inj there
      exact ⟨rfl, rfl⟩
    obtain ⟨-, -, rfl⟩ := verdict.resolve_right fun short => by simp [all] at short
    have read := whole (by simp [countTwo]) (List.mem_of_getElem? (i := 6) rfl)
    rw [tool, requestId, args, all] at read
    refine ⟨_, (read.resolve_right fun cut => ?_).1⟩
    -- the reader has got six events
    have seen : (received 0 t.past).length = 6 := rfl
    rw [cut.1] at seen
    cases seen
  · obtain ⟨c, hc, tool, args, answered⟩ : ∃ c ∈ calls, c.tool = countdownTool
        ∧ c.args = countFrom 2 ∧ c.progress = .answered 0 (.run 0)
          (.ok (CallResult.ofValue (.array [.ofNat 1, .ofNat 0])).toJson.canonical) :=
      ⟨_, List.mem_of_getElem? (i := 0) rfl, rfl, rfl, rfl⟩
    have entrusted : (Timeline.run (.new {})
        (Router.chronicle ⟨countdownServer {}, []⟩ (callCountdown 2 9 8))).Entrusted :=
      Timeline.entrusted_of_silent fun id x emits => by
        simpa [callCountdown] using Router.emit_of_mem_chronicle _ emits
    have unshared : Router.Unshared 0 (callCountdown 2 9 8) := by
      simp [Router.Unshared, callCountdown]
    obtain ⟨whole, -⟩ := called (countdownServer {}) rfl rfl (callCountdown 2 9 8) entrusted c hc
      tool 2 0 (args ▸ accepts_countFrom (by decide))
    obtain ⟨before, -, r, -, -, -, answer⟩ := whole 0 0 _ answered unshared
    refine ⟨c, hc, answered.trans (congrArg _ ?_)⟩
    by_cases now : Called 0 (Timeline.run (.new {}) (before ++ [.take 0]))
    · obtain ⟨_, _, _, _, _, _, -, ⟨-, -, value⟩ | ⟨-, -, -, cut⟩ | ⟨-, error, failed⟩⟩ :=
        answer.called now
      · exact value
      · cases cut
      · cases failed
    · cases (answer.uncalled now).2

/-- An executor whose queues hold three events, and none waits for room. -/
def tight : ExecutorConfig :=
  { bufferSize := 3, terminalTimeout := 0 }

/-- An invocation that counts down from zero, and whose caller cancels before it has a slot. -/
def countCancelled : List Execution.Action :=
  [.submit "countdown" "r" (countFrom 0) (.named "caller") countdownTool.handler,
    .cancel (.named "caller"), .advance 0, .take 0, .take 0]

/-- An invocation that counts down from one, and whose time is over after the first emission. -/
def countLate : List Execution.Action :=
  [.submit "countdown" "r" (countFrom 1) (.named "caller") countdownTool.handler, .advance 0,
    .advance 0, .wait 1, .advance 0, .advance 0, .advance 0] ++ List.replicate 5 (.take 0)

/-- **The end may be missing.** If the queue is full when the last event is given up, all has been
emitted, and the invocation is done, but no end is seen, and the call gets no value. If the caller
cancels while a count down from zero has no slot, all has been emitted as well, since there is
nothing to be emitted, but the invocation ends with an error.

The deadline keeps nothing from being emitted before its timer has cancelled: if a nanosecond is
allowed and passes between the emissions, the second one does not fail, and the end comes. -/
theorem countdown_without_end :
    (let t := Router.run ⟨countdownServer tight, []⟩ (callCountdown 1 5 6)
      ∃ c ∈ t.calls, c.tool = countdownTool ∧ Accepts c.args 1 0
        ∧ (∃ r, t.server.engine.runs[0]? = some r ∧ r.delivered = (steps 1).length
          ∧ r.state = .done)
        ∧ (∃ id, c.events = .start "countdown" id (countFrom 1) :: announced (steps 1))
        ∧ ∃ result, c.progress = .answered 0 (.run 0) result ∧ ¬ ∃ v, result = .ok v)
    ∧ (let t := Timeline.run (.new {}) countCancelled
      ∃ r, t.now.runs[0]? = some r ∧ Accepts r.args 0 0 ∧ r.delivered = (steps 0).length
        ∧ readings 0 t.past = [.event (.error Engine.cancelledEarly false), .ended])
    ∧ (let t := Timeline.run (.new { timeout := 1 }) countLate
      (∃ (m : Engine × Execution.Action) (q : Run) (c : Attempt), m ∈ t.past
        ∧ m.1.runs[0]? = some q ∧ q.deadline ≤ m.1.now ∧ m.1.attempt? m.2 0 = some c
        ∧ c.answer = none)
      ∧ received 0 t.past = .start "countdown" "r" (countFrom 1) :: announced (steps 1)
        ++ [.done 1 2 (some "countdown completed") none]) := by
  refine ⟨⟨_, List.mem_of_getElem? (i := 0) rfl, rfl, accepts_countFrom (by decide),
    ⟨_, rfl, rfl, rfl⟩, ⟨_, rfl⟩, _, rfl, by simp⟩, ⟨_, rfl, accepts_countFrom (by decide), rfl, rfl⟩,
    ⟨_, _, _, List.mem_of_getElem? (i := 4) rfl, rfl, ?_, rfl, rfl⟩, rfl⟩
  decide

end ToolServer.Demo
