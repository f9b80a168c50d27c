/-
What the outcome of a handler decides:

* `Judged`: the state, the last event and the counts that an outcome leads to at some moment,
  a value whatever has happened before, a failure by the caller first, then by the clock, and
  only then by itself;
* `Admitted`, `admitted_run`: an invocation starts when it obtains its slot;
* `Sealed`, `sealed_run`: what is seen of the last event since the handler has returned, also
  by a reader that goes away;
* `Decided`, `decided_run`: all of this together;
* `outcome_decides_ending`: the theorem;
* `retryable_error_unseen`: a last event that is given up is not seen.

The clock decides and not the timer: a deadline that has been reached counts, whether or not it
has fired the token of the invocation.
-/
import ToolServer.Proofs.Execution.Delivery

namespace ToolServer.Execution

/-! ### Verdicts -/

/-- What a panic is reported as. -/
def panicDetail : Option String → String
  | some message => "handler panicked: " ++ message
  | none => "handler panicked"

/-- The moment from which on an invocation is late. -/
def Run.dueTime (timeout : ℕ) (r : Run) : ℕ :=
  r.started + min timeout Duration.farFuture

/-- What an outcome means for an invocation at some moment: the state that it shows, its last
event and the counts afterwards. -/
inductive Judged (e : Engine) (r : Run) (o : Outcome) : RunState → Event → Counters → Prop
  /-- A value counts whatever has happened. -/
  | value {v : Json} (returned : o = .ok v) :
      Judged e r o .done
        (.done (e.now - r.started) r.delivered (some (r.tool ++ " completed"))
          (if v.isNull then none else some v))
        { e.counters with succeeded := e.counters.succeeded + 1 }
  /-- A failure after the caller has cancelled. -/
  | cancelled {error : ToolError} (failed : o.error? = some error)
      (unwanted : e.isCancelled r.caller = true) :
      Judged e r o .canceled (.error error.message false)
        { e.counters with cancellations := e.counters.cancellations + 1 }
  /-- A failure when the time is over. -/
  | timedOut {error : ToolError} (failed : o.error? = some error)
      (wanted : e.isCancelled r.caller = false) (late : r.dueTime e.config.timeout ≤ e.now) :
      Judged e r o .error
        (.error ("execution timeout after " ++ Duration.brief e.config.timeout) false)
        { e.counters with
          failed := e.counters.failed + 1
          timeouts := e.counters.timeouts + 1 }
  /-- Any other failure. -/
  | failed {error : ToolError} (failed : o.error? = some error)
      (wanted : e.isCancelled r.caller = false) (early : e.now < r.dueTime e.config.timeout) :
      Judged e r o .error (.error error.message error.isRetryable)
        { e.counters with failed := e.counters.failed + 1 }

section Judged

variable {e : Engine} {r : Run} {o : Outcome} {s : RunState} {last : Event} {c : Counters}

lemma judged_of_failure {error : ToolError} (failed : o.error? = some error)
    (deadline : r.deadline = r.dueTime e.config.timeout) :
    let x := r.conclude e.config.timeout e.now (e.isCancelled r.caller) o
    Judged e r o x.state x.last (Engine.Counters.conclude e.counters x) := by
  have conclusion : r.conclude e.config.timeout e.now (e.isCancelled r.caller) o
      = if e.isCancelled r.caller then ⟨.canceled, .error error.message false, false⟩
        else if r.deadline ≤ e.now then
          ⟨.error, .error ("execution timeout after " ++ Duration.brief e.config.timeout) false,
            true⟩
        else ⟨.error, .error error.message error.isRetryable, false⟩ := by
    cases o with
    | ok v => cases failed
    | failed | panicked =>
        simp only [Run.conclude, failed]
        rfl
  rw [conclusion, deadline]
  split_ifs with unwanted late
  · exact .cancelled failed unwanted
  · exact .timedOut failed (by simpa using unwanted) late
  · exact .failed failed (by simpa using unwanted) (not_le.mp late)

/-- **The conclusion of an invocation is the verdict on its outcome.** -/
lemma judged_conclude (o : Outcome) (deadline : r.deadline = r.dueTime e.config.timeout) :
    let x := r.conclude e.config.timeout e.now (e.isCancelled r.caller) o
    Judged e r o x.state x.last (Engine.Counters.conclude e.counters x) := by
  cases o with
  | ok v => exact .value rfl
  | failed error => exact judged_of_failure rfl deadline
  | panicked message => cases message <;> exact judged_of_failure rfl deadline

/-- A panic is judged as the failure that it is reported as. -/
lemma Judged.of_panicked {message : Option String} (h : Judged e r (.panicked message) s last c) :
    Judged e r (.failed (.executionFailed (panicDetail message))) s last c := by
  have same : (Outcome.panicked message).error?
      = (Outcome.failed (.executionFailed (panicDetail message))).error? := by
    cases message <;> rfl
  cases h with
  | value returned => cases returned
  | cancelled failed unwanted => exact .cancelled (same ▸ failed) unwanted
  | timedOut failed wanted late => exact .timedOut (same ▸ failed) wanted late
  | failed failed wanted early => exact .failed (same ▸ failed) wanted early

/-- **Another attempt may succeed** exactly if the handler says so in time, and the caller has
not cancelled. -/
lemma Judged.retryable_iff (h : Judged e r o s last c) :
    (∃ message, last = .error message true) ↔
      o = .failed .timeout ∧ e.isCancelled r.caller = false
        ∧ e.now < r.dueTime e.config.timeout := by
  cases h with
  | value returned => simp [returned]
  | cancelled failed unwanted => simp [unwanted]
  | timedOut failed wanted late => simp [not_lt.mpr late]
  | @failed error failed wanted early =>
      have same : error.isRetryable = true ↔ o = .failed .timeout := by
        cases o with
        | ok v => cases failed
        | failed err =>
            obtain rfl := Option.some.inj failed
            cases err <;> simp [ToolError.isRetryable]
        | panicked message =>
            cases message <;> obtain rfl := Option.some.inj failed <;>
              simp [ToolError.isRetryable]
      simp [wanted, early, same]

end Judged

/-! ### Moments in the past -/

/-- An invocation that has obtained its slot at some moment, from which its time counts. -/
def Admitted (timeout id : ℕ) (past : List (Engine × Action)) (r : Run) : Prop :=
  ∃ m ∈ past, m.1.Obtains m.2 id ∧ r.started = m.1.now ∧ r.deadline = r.dueTime timeout

/-- The start of an invocation sets its times. -/
lemma Run.Change.times_of_entering {e : Engine} {r r' : Run} {reading : Option Engine.Reading}
    (change : r.Change e reading r') (entering : r.stage.isEntering = true)
    (handling : r'.stage.isHandling = true) :
    r'.started = e.now ∧ r'.deadline = r'.dueTime e.config.timeout := by
  have idle := Stage.not_isHandling_of_isEntering entering
  cases change with
  | begun => exact ⟨rfl, rfl⟩
  | refused | queued | finished | concluded => cases handling
  | emitted active => simp [active, Stage.isEntering] at entering
  | emittedOutside x => simp [publish_stage, idle] at handling
  | moved follows => simp [follows.isHandling.1] at idle
  | read | foundNothing | dropped => simp [idle] at handling

/-- **An invocation that has been called starts when it obtains its slot.** -/
lemma admitted_run (config : ExecutorConfig) (acts : List Action) {id : ℕ} {r : Run}
    (there : (Timeline.run (.new config) acts).now.runs[id]? = some r)
    (called : Called id (Timeline.run (.new config) acts)) :
    Admitted config.timeout id (Timeline.run (.new config) acts).past r := by
  revert r called
  refine Timeline.run_invariant (P := fun t => ∀ {r : Run}, t.now.runs[id]? = some r →
    Called id t → Admitted config.timeout id t.past r) (by simp [Engine.new]) ?_ acts
  intro acts a e' ih happens r' there' called
  have limits := config_run config acts
  by_cases before : Called id (Timeline.run (.new config) acts)
  · -- the times stay as they are
    cases there : (Timeline.run (.new config) acts).now.runs[id]? with
    | none => exact absurd before (uncalled_of_absent config acts there)
    | some r =>
        have begun : r.stage.isEntering = false := Bool.eq_false_iff.mpr fun entering =>
          (greeted_run config acts there).waits entering before
        obtain ⟨m, hm, obtains, started, deadline⟩ := ih there before
        obtain ⟨q, atPlace, ⟨rfl, -⟩ | change⟩ := Engine.act_run happens there
        · obtain rfl := Option.some.inj (atPlace.symm.trans there')
          exact ⟨m, List.mem_append_left _ hm, obtains, started, deadline⟩
        · obtain rfl := Option.some.inj (atPlace.symm.trans there')
          have going := change.continues
          refine ⟨m, List.mem_append_left _ hm, obtains, (going.started begun).trans started, ?_⟩
          rw [going.deadline begun, deadline, Run.dueTime, Run.dueTime, going.started begun]
  · -- it has just been called
    obtain ⟨q, atPlace, handling⟩ := ((called_next ..).mp called).resolve_left before
    obtain rfl := Option.some.inj (atPlace.symm.trans there')
    have idle : ∀ r, (Timeline.run (.new config) acts).now.runs[id]? = some r →
        r.stage.isHandling = false := fun r there => Bool.eq_false_iff.mpr fun atWork =>
      before (called_of_isHandling there atWork)
    obtain ⟨rfl, r, there, entering, wanted, offers⟩ :=
      Engine.obtains_of_isHandling happens there' handling idle
    obtain ⟨q', atPlace, ⟨rfl, -⟩ | change⟩ := Engine.act_run happens there
    · obtain rfl := Option.some.inj (atPlace.symm.trans there')
      simp [idle _ there] at handling
    · obtain rfl := Option.some.inj (atPlace.symm.trans there')
      have times := change.times_of_entering entering handling
      rw [limits] at times
      exact ⟨_, List.mem_append_right _ (List.mem_singleton_self _),
        ⟨rfl, r, there, entering, wanted, offers⟩, times⟩

/-! ### What is seen of the last event -/

/-- What can be seen of the last event of an invocation since its handler returned, `es` being
the events that its reader has got, until it went away if it did. -/
inductive Sealed (id : ℕ) (last : Event) (es : List Event) (since : List (Engine × Action))
    (r : Run) : Prop
  /-- It waits. -/
  | waits {giveUp : ℕ} (stage : r.stage = .delivering last giveUp)
      (untold : ∀ event ∈ es ++ r.queue, event.isTerminal = false)
      (lossless : lossesOf id since = 0)
  /-- It has been queued, or nobody would have read it. -/
  | queued (stage : r.stage = .finished)
      (told : ∀ event ∈ es ++ r.queue, event.isTerminal = true → event = last)
      (lossless : lossesOf id since = 0)
  /-- It is lost. -/
  | lost (stage : r.stage = .finished)
      (untold : ∀ event ∈ es ++ r.queue, event.isTerminal = false) (once : lossesOf id since = 1)

/-- After the handler nothing comes to be seen but the last event. -/
lemma Run.Change.seen_of_isPast {e : Engine} {es : List Event} {r r' : Run}
    {reading : Option Engine.Reading} (change : r.Change e reading r') (orderly : r.Orderly es)
    (past : r.stage.isPast = true) (same : r'.stage = r.stage) {event : Event}
    (there : event ∈ es ++ (reading.bind Engine.Reading.event?).toList ++ r'.queue) :
    event ∈ es ++ r.queue := by
  cases change with
  | refused entering | begun entering | queued entering =>
      cases stage : r.stage <;> simp_all [Stage.isPast, Stage.isEntering]
  | emitted active | concluded active => simp [active, Stage.isPast] at past
  | emittedOutside x =>
      rw [publish_of_closed (orderly.closed past)] at there
      simpa using there
  | moved follows => simpa [Stage.not_isHandling_of_isPast past] using follows.isHandling.1
  | finished delivering => simp [delivering] at same
  | @read event' rest queue => simpa [queue, Engine.Reading.event?] using there
  | foundNothing empty =>
      rw [events_nothing] at there
      exact there
  | dropped =>
      rw [events_silent, List.append_nil] at there
      exact List.mem_append_left _ there

section Sealed

variable {id : ℕ} {last : Event} {since : List (Engine × Action)} {t : Timeline} {r : Run}
  {a : Action} {e' : Engine}

/-- What is not the next step of an invocation leaves nothing more to be seen of it. -/
lemma seen_of_other (orderly : r.Orderly (received id t.past)) (there : t.now.runs[id]? = some r)
    (happens : t.now.act a = some e') (past : r.stage.isPast = true) (other : a ≠ .advance id) :
    ∃ r', e'.runs[id]? = some r' ∧ r'.stage = r.stage ∧
      ∀ event ∈ received id (t.past ++ [(t.now, a)]) ++ r'.queue,
        event ∈ received id t.past ++ r.queue := by
  obtain ⟨q, atPlace, same⟩ := Engine.act_stage_of_other happens there other
  refine ⟨q, atPlace, same, fun event seen => ?_⟩
  rw [received_concat] at seen
  obtain ⟨r', there', ⟨rfl, unread⟩ | change⟩ := Engine.act_run happens there
  · obtain rfl := Option.some.inj (atPlace.symm.trans there')
    rwa [unread, events_silent] at seen
  · obtain rfl := Option.some.inj (atPlace.symm.trans there')
    exact change.seen_of_isPast orderly past same seen

/-- The step of a last event that waits queues it or gives it up. -/
lemma Sealed.settle {giveUp : ℕ} (there : t.now.runs[id]? = some r)
    (happens : t.now.advance id = some e') (stage : r.stage = .delivering last giveUp)
    (untold : ∀ event ∈ received id t.past ++ r.queue, event.isTerminal = false)
    (counted : lossesOf id (since ++ [(t.now, .advance id)])
      = if t.now.abandons (.advance id) then 1 else 0) :
    ∃ r', e'.runs[id]? = some r' ∧ Sealed id last (received id (t.past ++ [(t.now, .advance id)]))
      (since ++ [(t.now, .advance id)]) r' := by
  obtain ⟨there', settled⟩ := Engine.settle_cases there stage happens
  rw [received_concat, show t.now.reading? (.advance id) id = none from rfl, events_silent]
  refine ⟨_, there', ?_⟩
  rcases settled with ⟨kept, -⟩ | ⟨lost, -, -, full, -⟩
  · refine .queued rfl (fun event seen terminal => ?_) (by simpa [kept] using counted)
    have before : event ∈ received id t.past ++ r.queue ∨ event = last := by
      rcases Run.offered_cases t.now.config.capacity last r with more | same
      · simpa [more, or_assoc] using seen
      · exact .inl (same ▸ seen)
    refine before.resolve_left fun earlier => ?_
    simp [untold event earlier] at terminal
  · refine .lost rfl (fun event seen => untold event ?_) (by simpa [lost] using counted)
    rwa [Run.offered, if_neg fun room => absurd room.2 (not_lt.mpr full)] at seen

/-- **Every action keeps what is seen of the last event.** -/
lemma Sealed.next (orderly : r.Orderly (received id t.past)) (there : t.now.runs[id]? = some r)
    (happens : t.now.act a = some e') (h : Sealed id last (received id t.past) since r) :
    ∃ r', e'.runs[id]? = some r' ∧ Sealed id last (received id (t.past ++ [(t.now, a)]))
      (since ++ [(t.now, a)]) r' := by
  have past : r.stage.isPast = true := by
    cases h with
    | waits stage | queued stage | lost stage => rw [stage]; rfl
  have counted := lossesOf_concat id since t.now a
  rw [Engine.losesOf_of_closed happens there (orderly.closed past)] at counted
  by_cases own : a = .advance id
  · subst own
    cases h with
    | waits stage untold lossless =>
        rw [lossless, Nat.zero_add] at counted
        exact Sealed.settle there happens stage untold (by simpa [Action.isStepOf] using counted)
    | queued stage | lost stage =>
        -- an invocation that is over takes no step
        simp [Engine.act, Engine.advance, there, Engine.advanceRun, stage] at happens
  · obtain ⟨r', there', same, seen⟩ := seen_of_other orderly there happens past own
    have idle := isStepOf_of_ne own
    refine ⟨r', there', ?_⟩
    cases h with
    | waits stage untold lossless =>
        exact .waits (same.trans stage) (fun event new => untold event (seen event new))
          (by simpa [idle, lossless] using counted)
    | queued stage told lossless =>
        exact .queued (same.trans stage) (fun event new => told event (seen event new))
          (by simpa [idle, lossless] using counted)
    | lost stage untold once =>
        exact .lost (same.trans stage) (fun event new => untold event (seen event new))
          (by simpa [idle, once] using counted)

end Sealed

/-- **At any time after the handler has returned, nothing is seen as the last event but the one
that it has decided**, and nothing at all if that is lost. -/
lemma sealed_run (config : ExecutorConfig) (acts : List Action) {id : ℕ} {e : Engine}
    {x : Run.Conclusion} {before since : List (Engine × Action)}
    (split : (Timeline.run (.new config) acts).past = before ++ (e, .advance id) :: since)
    (returns : e.Returns id x) :
    ∃ r, (Timeline.run (.new config) acts).now.runs[id]? = some r ∧
      Sealed id x.last (received id (Timeline.run (.new config) acts).past) since r := by
  obtain ⟨earlier, later, rfl, moment⟩ := Timeline.run_of_past split
  obtain ⟨q, o, there, active, rfl⟩ := returns
  have bound := (List.getElem?_eq_some_iff.mp there).1
  have happens : e.act (.advance id) = some (e.conclude id q o) := by
    simp [Engine.act, Engine.advance, there, Engine.advanceRun, active, Engine.perform]
  have returned : (e.conclude id q o).runs[id]? = some
      { q with
        emitting := false
        state := (q.conclude e.config.timeout e.now (e.isCancelled q.caller) o).state
        stage := .delivering (q.conclude e.config.timeout e.now (e.isCancelled q.caller) o).last
          (timerAfter e.now e.config.terminalTimeout) } := by
    simp [Engine.conclude, bound]
  -- the past of the run, and with it what has happened since
  have grows : ∀ more, ∃ since',
      (Timeline.run (.new config) (earlier ++ [.advance id] ++ more)).past
        = before ++ (e, .advance id) :: since' ∧
      ∃ r, (Timeline.run (.new config) (earlier ++ [.advance id] ++ more)).now.runs[id]? = some r ∧
        Sealed id (q.conclude e.config.timeout e.now (e.isCancelled q.caller) o).last
          (received id (Timeline.run (.new config) (earlier ++ [.advance id] ++ more)).past)
          since' r := by
    refine Timeline.run_later (P := fun t => ∃ since', t.past = before ++ (e, .advance id) :: since'
      ∧ ∃ r, t.now.runs[id]? = some r ∧ Sealed id
        (q.conclude e.config.timeout e.now (e.isCancelled q.caller) o).last (received id t.past)
        since' r) ?_ ?_
    · rw [Timeline.run_concat, moment, Timeline.next_of_some happens]
      have telling : q.Telling (received id (Timeline.run (.new config) earlier).past) :=
        telling_run config earlier (by rw [moment]; exact there)
      have live : q.state.isTerminal = false := by
        rw [(Stage.shows_of_isHandling (by rw [active]; rfl)).mp telling.shows]
        rfl
      rw [moment] at telling
      refine ⟨[], rfl, _, returned, .waits rfl ?_ rfl⟩
      rw [received_concat, show e.reading? (.advance id) id = none from rfl, events_silent]
      exact fun event seen => telling.unended live seen
    · rintro acts a e' ⟨since', past, r, there, h⟩ happens
      obtain ⟨r', there', h'⟩ := h.next (orderly_run config acts there) there happens
      exact ⟨_, by rw [past, List.append_assoc, List.cons_append], r', there', h'⟩
  obtain ⟨since', past, r, there, h⟩ := grows later
  rw [List.append_assoc] at past there h
  obtain rfl : since' = since := by
    have same := past.symm.trans split
    simpa using same
  exact ⟨r, there, h⟩

/-! ### What the outcome decides -/

/-- An invocation whose handler has not returned shows that it goes on. -/
lemma Run.Telling.live {es : List Event} {r : Run} (h : r.Telling es)
    (going : r.stage.isPast = false) : r.state.isTerminal = false := by
  have shows := h.shows
  cases stage : r.stage with
  | arriving | waiting | active | asleep =>
      rw [stage] at shows
      rw [show r.state = _ from shows]
      rfl
  | delivering | finished =>
      rw [stage] at going
      cases going

/-- How the handler of an invocation has ended: `e` is the executor just before, `q` the
invocation as it was then, `o` the outcome, `last` the last event that follows from it, and
`since` what has happened afterwards. -/
structure Decided (config : ExecutorConfig) (id : ℕ) (t : Timeline) (r : Run) (e : Engine)
    (q : Run) (o : Outcome) (last : Event) (before since : List (Engine × Action)) : Prop where
  split : t.past = before ++ (e, .advance id) :: since
  there : e.runs[id]? = some q
  active : q.stage = .active (.done o)
  admitted : ∃ m ∈ before, m.1.Obtains m.2 id ∧ q.started = m.1.now
  limits : e.config = config
  verdict : Judged e q o r.state last (e.after (.advance id)).counters
  closing : Closing config.capacity (timerAfter e.now config.terminalTimeout) id last
    (received id t.past) since r
  seen : Sealed id last (received id t.past) since r

/-- **At any time the outcome of a handler that has been called and is no more at work has
decided how its invocation ends.** -/
theorem decided_run (config : ExecutorConfig) (acts : List Action) {id : ℕ} {r : Run}
    (there : (Timeline.run (.new config) acts).now.runs[id]? = some r)
    (called : Called id (Timeline.run (.new config) acts)) (past : r.stage.isPast = true) :
    ∃ e q o last before since,
      Decided config id (Timeline.run (.new config) acts) r e q o last before since := by
  obtain ⟨e, x, since, ⟨before, split⟩, returns, counted, state, closing⟩ :=
    returned_run config acts there called past
  obtain ⟨r', there', seen⟩ := sealed_run config acts split returns
  obtain rfl : r = r' := Option.some.inj (there.symm.trans there')
  -- the moment of the return, and what holds then
  obtain ⟨earlier, later, -, moment⟩ := Timeline.run_of_past split
  obtain ⟨q, o, atPlace, active, rfl⟩ := returns
  have limits : e.config = config := by
    have := config_run config earlier
    rwa [moment] at this
  have atWork : (Timeline.run (.new config) earlier).now.runs[id]? = some q := by
    rw [moment]
    exact atPlace
  obtain ⟨m, hm, obtains, started, deadline⟩ := admitted_run config earlier atWork
    (called_of_isHandling atWork (by rw [active]; rfl))
  rw [moment] at hm
  rw [← limits] at deadline
  have verdict := judged_conclude o deadline
  dsimp only at verdict
  rw [← counted, ← state] at verdict
  exact ⟨e, q, o, _, before, since, split, atPlace, active, ⟨m, hm, obtains, started⟩, limits,
    verdict, closing, seen⟩

section Decided

variable {config : ExecutorConfig} {id : ℕ} {r : Run} {e : Engine} {q : Run} {o : Outcome}
  {last : Event} {before since : List (Engine × Action)}

/-- No other last event is seen than the one that the outcome has decided, which is not lost
then. -/
lemma Decided.eq_last {t : Timeline} (h : Decided config id t r e q o last before since)
    {event : Event} (got : event ∈ received id t.past) (terminal : event.isTerminal = true) :
    event = last ∧ lossesOf id since = 0 := by
  have among := List.mem_append_left r.queue got
  cases h.seen with
  | waits _ untold | lost _ untold => simp [untold event among] at terminal
  | queued _ told lossless => exact ⟨told event among terminal, lossless⟩

/-- **A reader that reads to the end sees the last event that the outcome has decided**, and
no last event at all if that one is given up. -/
lemma Decided.drained {acts : List Action}
    (h : Decided config id (Timeline.run (.new config) acts) r e q o last before since)
    (there : (Timeline.run (.new config) acts).now.runs[id]? = some r) (kept : .drop id ∉ acts)
    (drained : .ended ∈ readings id (Timeline.run (.new config) acts).past) :
    (∃ opening, received id (Timeline.run (.new config) acts).past = opening ++ [last]
        ∧ lossesOf id since = 0)
      ∨ (Stalled config.capacity (timerAfter e.now config.terminalTimeout) id since
        ∧ lossesOf id since = 1) := by
  obtain ⟨ended, empty⟩ := (final_run config acts there).closed drained
  cases h.closing with
  | waits stage => simp [stage] at ended
  | queued _ told lossless =>
      obtain ⟨opening, got⟩ := told (reading_of_kept config acts kept there)
      rw [empty, List.append_nil] at got
      exact .inl ⟨opening, got, lossless⟩
  | lost _ stalled once => exact .inr ⟨stalled, once⟩

end Decided

/-- **The outcome decides how an invocation ends.** At any time, for every invocation whose
handler has been called, whatever has been submitted, cancelled and read before and since:

* as long as the handler is at work nothing is seen of the last event, and once it has an
  outcome it can return;
* once it is no more at work, it has returned at some moment, the time counting from the moment
  at which the slot was obtained. The state, the last event and the counts are the verdict on
  its outcome at that moment, a panic being judged as the failure that it is reported as;
* no other last event is ever seen, and it is one after which another attempt may succeed
  exactly if the handler has said so, the caller not having cancelled and the time not over;
* a reader that reads to the end sees it there, and so sees that another attempt may succeed
  exactly in that case; unless the queue was full until the timer went off, and the last event
  is lost. -/
theorem outcome_decides_ending (config : ExecutorConfig) (acts : List Action) (id : ℕ) :
    let t := Timeline.run (.new config) acts
    ∀ r, t.now.runs[id]? = some r → Called id t →
      (r.stage.isPast = false → ∀ event ∈ received id t.past, event.isTerminal = false)
      ∧ (∀ o, r.stage = .active (.done o) → ∃ e', t.now.advance id = some e')
      ∧ (r.stage.isPast = true → ∃ e q o last before since,
          t.past = before ++ (e, .advance id) :: since
          ∧ e.runs[id]? = some q ∧ q.stage = .active (.done o)
          ∧ (∃ m ∈ before, m.1.Obtains m.2 id ∧ q.started = m.1.now)
          ∧ (let counts := (e.after (.advance id)).counters
            Judged e q o r.state last counts ∧ ∀ message, o = .panicked message →
              Judged e q (.failed (.executionFailed (panicDetail message))) r.state last counts)
          ∧ (∀ event ∈ received id t.past, event.isTerminal = true → event = last)
          ∧ (let mayRetry := o = .failed .timeout ∧ e.isCancelled q.caller = false ∧
              e.now < q.started + min config.timeout Duration.farFuture
            ((∃ message, last = .error message true) ↔ mayRetry)
            ∧ ((∃ message, .error message true ∈ received id t.past) → mayRetry)
            ∧ (.drop id ∉ acts → .ended ∈ readings id t.past →
              ((∃ message, .error message true ∈ received id t.past)
                ↔ mayRetry ∧ lossesOf id since = 0)
              ∧ (((∃ opening, received id t.past = opening ++ [last]) ∧ lossesOf id since = 0)
                ∨ (Stalled config.capacity (timerAfter e.now config.terminalTimeout) id since
                  ∧ lossesOf id since = 1))))) := by
  intro t r there called
  have telling := telling_run config acts there
  refine ⟨fun going event seen => ?_, fun o active => ?_, fun past => ?_⟩
  · exact telling.unended (telling.live going) (List.mem_append_left _ seen)
  · exact ⟨t.now.conclude id r o, by
      simp [t, Engine.advance, there, Engine.advanceRun, active, Engine.perform]⟩
  obtain ⟨e, q, o, last, before, since, decided⟩ := decided_run config acts there called past
  have verdict := decided.verdict
  have retryable := verdict.retryable_iff
  rw [Run.dueTime, decided.limits] at retryable
  refine ⟨e, q, o, last, before, since, decided.split, decided.there, decided.active,
    decided.admitted, ⟨verdict, fun message panicked => Judged.of_panicked (panicked ▸ verdict)⟩,
    fun event got terminal => (decided.eq_last got terminal).1, retryable, ?_, ?_⟩
  · rintro ⟨message, got⟩
    exact retryable.mp ⟨message, (decided.eq_last got rfl).1.symm⟩
  · intro kept drained
    rcases decided.drained there kept drained with ⟨opening, got, lossless⟩ | ⟨stalled, once⟩
    · refine ⟨⟨?_, ?_⟩, .inl ⟨⟨opening, got⟩, lossless⟩⟩
      · rintro ⟨message, seen⟩
        exact ⟨retryable.mp ⟨message, (decided.eq_last seen rfl).1.symm⟩, lossless⟩
      · rintro ⟨may, -⟩
        obtain ⟨message, same⟩ := retryable.mpr may
        exact ⟨message, by rw [show received id t.past = _ from got, ← same]; simp⟩
    · refine ⟨⟨?_, fun h => by simp [once] at h⟩, .inr ⟨stalled, once⟩⟩
      rintro ⟨message, seen⟩
      simp [(decided.eq_last seen rfl).2] at once

/-- An invocation that fails in such a way that another attempt may succeed, and whose reader
reads to the end. -/
def advised : List Action :=
  [.submit "t" "r" .null (.named "caller") fun _ => .done (.failed .timeout), .advance 0,
    .advance 0, .advance 0, .take 0, .take 0, .take 0]

theorem outcome_decides_ending_advised :
    let t := Timeline.run (.new { bufferSize := 2 }) advised
    received 0 t.past = [.start "t" "r" .null, .error "Tool execution timeout" true]
      ∧ ∃ (e : Engine) (q : Run), e.runs[0]? = some q
        ∧ q.stage = .active (.done (.failed .timeout)) ∧ e.isCancelled q.caller = false
        ∧ e.now < q.started + min ({ bufferSize := 2 } : ExecutorConfig).timeout
          Duration.farFuture := by
  intro t
  obtain ⟨r, there⟩ : ∃ r, t.now.runs[0]? = some r := ⟨_, rfl⟩
  have ended : r.stage = .finished := by
    obtain rfl := Option.some.inj there
    rfl
  have called : Called 0 t := ⟨_, List.mem_of_getElem? (i := 2) rfl, _, rfl, rfl⟩
  obtain ⟨-, -, account⟩ := outcome_decides_ending { bufferSize := 2 } advised 0 r there called
  obtain ⟨e, q, o, _, _, _, -, atPlace, active, -, -, -, -, -, whole⟩ :=
    account (by rw [ended]; rfl)
  have drained : .ended ∈ readings 0 t.past := List.mem_of_getElem? (i := 2) rfl
  have seen : .error "Tool execution timeout" true ∈ received 0 t.past :=
    List.mem_of_getElem? (i := 1) rfl
  obtain ⟨⟨rfl, wanted, early⟩, -⟩ := (whole (by simp [advised]) drained).1.mp ⟨_, seen⟩
  exact ⟨rfl, e, q, atPlace, active, wanted, early⟩

/-- An invocation that fails in such a way that another attempt may succeed, and whose reader
takes nothing before the last event is given up. -/
def unadvised : List Action :=
  [.submit "t" "r" .null (.named "caller") fun _ => .done (.failed .timeout), .advance 0,
    .advance 0, .wait 1000000, .advance 0, .take 0, .take 0]

/-- A last event that is given up is not seen, even if the handler says that another attempt
may succeed, the caller has not cancelled, the time is not over, and the reader reads to the
end. -/
theorem retryable_error_unseen :
    let t := Timeline.run (.new narrow) unadvised
    .drop 0 ∉ unadvised
      ∧ readings 0 t.past = [.event (.start "t" "r" .null), .ended]
      ∧ (∃ (e : Engine) (q : Run) (before since : List (Engine × Action)),
        t.past = before ++ (e, .advance 0) :: since ∧ e.runs[0]? = some q
          ∧ q.stage = .active (.done (.failed .timeout)) ∧ e.isCancelled q.caller = false
          ∧ e.now < q.started + min narrow.timeout Duration.farFuture)
      ∧ ¬ ∃ message, .error message true ∈ received 0 t.past := by
  refine ⟨by simp [unadvised], rfl, ⟨_, _, [_, _], [_, _, _, _], rfl, rfl, rfl, rfl, ?_⟩, ?_⟩
  · decide
  · rintro ⟨message, seen⟩
    cases List.mem_singleton.mp seen

end ToolServer.Execution
