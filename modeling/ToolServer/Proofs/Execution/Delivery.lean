/-
The first and the last event of an invocation:

* `Greeted`, `greeted_run`: the first event is always queued;
* `Engine.Returns`: the moment at which a handler comes to its end;
* `Stalled`: the queue was full from then on until the timer went off;
* `Closing`, `Returned`, `returned_run`: what has become of the last event since then;
* `advance_of_delivering`, `ticks_nextTime_le`: a slot is not held after that timer;
* `last_event_is_lost_only_if_stalled`: all of this together.

Once a handler has returned nothing more is put into its queue, so a queue that is full
when the last event is given up has been full all the time.
-/
import ToolServer.Proofs.Execution.Admission
import ToolServer.Proofs.Execution.Cancellation
import ToolServer.Proofs.Execution.Emission

namespace ToolServer.Execution

/-! ### The first event -/

section Changes

variable {e : Engine} {r r' : Run} {reading : Option Engine.Reading}

/-- An invocation stays the one that was asked for. -/
lemma Run.Change.request (change : r.Change e reading r') :
    r'.tool = r.tool ∧ r'.requestId = r.requestId ∧ r'.args = r.args := by
  cases change with
  | @emitted x | emittedOutside x =>
      obtain ⟨_, _, _, eq⟩ := publish_fst e.config.maxEvents e.config.capacity
        (e.isCancelled r.scope) x r
      simp [eq]
  | _ => exact ⟨rfl, rfl, rfl⟩

/-- What is to be read of an invocation only grows at its end. -/
lemma Run.Change.seen_prefix (es : List Event) (change : r.Change e reading r')
    (there : r'.reading = true) :
    r.reading = true ∧
      es ++ r.queue <+: es ++ (reading.bind Engine.Reading.event?).toList ++ r'.queue := by
  have offered (event : Event) : es ++ r.queue <+: es ++ r.offered e.config.capacity event := by
    rcases offered_cases e.config.capacity event r with more | same
    · rw [more, ← List.append_assoc]
      exact List.prefix_append _ _
    · rw [same]
  have published (x : Emission) : es ++ r.queue <+: es ++
      (r.publish e.config.maxEvents e.config.capacity (e.isCancelled r.scope) x).1.queue := by
    rcases publish_cases e.config.maxEvents e.config.capacity (e.isCancelled r.scope) x r with
      same | ⟨-, lost⟩ | ⟨-, -, queued⟩
    · rw [same]
    · rw [lost]
    · rw [queued, ← List.append_assoc]
      exact List.prefix_append _ _
  cases change with
  | refused | begun | finished =>
      rw [events_silent]
      exact ⟨there, offered _⟩
  | queued | moved | concluded =>
      rw [events_silent]
      exact ⟨there, List.prefix_rfl⟩
  | @emitted x =>
      rw [events_silent]
      exact ⟨(publish_reading ..).symm.trans there, published x⟩
  | emittedOutside x =>
      rw [events_silent]
      exact ⟨(publish_reading ..).symm.trans there, published x⟩
  | @read event rest queue => exact ⟨there, by simp [queue, Engine.Reading.event?]⟩
  | foundNothing =>
      rw [events_nothing]
      exact ⟨there, List.prefix_rfl⟩
  | dropped => cases there

end Changes

/-- What the reader of an invocation gets first: nothing as long as there is no slot, the
start once its handler has been called, and an error if it never is. -/
structure Greeted (id : ℕ) (t : Timeline) (r : Run) : Prop where
  waits : r.stage.isEntering = true → ¬ Called id t
  start : Called id t → r.reading = true →
    (received id t.past ++ r.queue).head? = some (.start r.tool r.requestId r.args)
  refusal : ¬ Called id t → r.stage.isEntering = false → r.stage = .finished ∧
    (r.reading = true → received id t.past ++ r.queue = [.error Engine.cancelledEarly false])

/-- A handler that is at work has been called. -/
lemma called_of_isHandling {id : ℕ} {t : Timeline} {r : Run} (there : t.now.runs[id]? = some r)
    (handling : r.stage.isHandling = true) : Called id t :=
  ⟨t.now, List.mem_append_right _ (List.mem_singleton_self _), r, there, handling⟩

section Greeted

variable {id : ℕ} {t : Timeline} {r r' : Run} {a : Action} {e' : Engine}

/-- A handler has been called if it was so before or is at work now. -/
lemma called_next_iff (there' : e'.runs[id]? = some r') :
    Called id ⟨e', t.past ++ [(t.now, a)]⟩ ↔ Called id t ∨ r'.stage.isHandling = true := by
  rw [called_next]
  simp [there']

/-- The first event of an invocation that has no slot: none as long as it waits, and then
an error if it is turned away, or the start if it begins. -/
lemma Greeted.of_entering (h : Greeted id t r) (orderly : r.Orderly (received id t.past))
    (there' : e'.runs[id]? = some r') (change : r.Change t.now (t.now.reading? a id) r')
    (entering : r.stage.isEntering = true) : Greeted id ⟨e', t.past ++ [(t.now, a)]⟩ r' := by
  have called : Called id ⟨e', t.past ++ [(t.now, a)]⟩ ↔ r'.stage.isHandling = true :=
    (called_next_iff there').trans (or_iff_right (h.waits entering))
  have fates := change.of_entering orderly entering
  rw [← received_concat] at fates
  rcases fates with ⟨still, -⟩ | ⟨-, ended, -, told⟩ | ⟨-, handling, told⟩
  · simp only [Stage.not_isHandling_of_isEntering still, Bool.false_eq_true, iff_false] at called
    exact ⟨fun _ => called, fun now => absurd now called,
      fun _ begun => by simp [still] at begun⟩
  · simp only [ended, Stage.isHandling, Bool.false_eq_true, iff_false] at called
    exact ⟨fun _ => called, fun now => absurd now called, fun _ _ => ⟨ended, told⟩⟩
  · refine ⟨fun waits => ?_, fun _ reading => ?_, fun never => ?_⟩
    · simp [Stage.not_isHandling_of_isEntering waits] at handling
    · obtain ⟨tool, requestId, args⟩ := change.request
      rw [told reading, tool, requestId, args]
      rfl
    · exact absurd (called.mpr handling) never

/-- The first event of an invocation that has had a slot, or was turned away, stays what it
is. -/
lemma Greeted.of_begun (h : Greeted id t r) (orderly : r.Orderly (received id t.past))
    (there' : e'.runs[id]? = some r') (change : r.Change t.now (t.now.reading? a id) r')
    (begun : r.stage.isEntering = false) : Greeted id ⟨e', t.past ++ [(t.now, a)]⟩ r' := by
  have begun' : r'.stage.isEntering = false := change.continues.begun begun
  have same : Called id ⟨e', t.past ++ [(t.now, a)]⟩ ↔ Called id t := by
    refine (called_next_iff there').trans (or_iff_left_of_imp fun handling => ?_)
    by_contra uncalled
    have ended := (change.of_finished orderly (h.refusal uncalled begun).1).1
    simp [ended, Stage.isHandling] at handling
  refine ⟨fun waits => by simp [begun'] at waits, ?_, ?_⟩ <;> rw [same]
  · intro now reading
    have grows := change.seen_prefix (received id t.past) reading
    rw [← received_concat] at grows
    obtain ⟨before, more, grown⟩ := grows
    obtain ⟨tool, requestId, args⟩ := change.request
    rw [← grown, tool, requestId, args, List.head?_append, h.start now before]
    rfl
  · intro uncalled _
    obtain ⟨ended, told⟩ := h.refusal uncalled begun
    have stays := change.of_finished orderly ended
    rw [← received_concat] at stays
    obtain ⟨ended', -, kept⟩ := stays
    exact ⟨ended', fun reading => (kept reading).2.trans (told (kept reading).1)⟩

/-- **Every action keeps the first event.** -/
lemma Greeted.next (h : Greeted id t r) (orderly : r.Orderly (received id t.past))
    (there : t.now.runs[id]? = some r) (happens : t.now.act a = some e') :
    ∃ r', e'.runs[id]? = some r' ∧ Greeted id ⟨e', t.past ++ [(t.now, a)]⟩ r' := by
  obtain ⟨r', there', ⟨rfl, unread⟩ | change⟩ := Engine.act_run happens there
  · have same : Called id ⟨e', t.past ++ [(t.now, a)]⟩ ↔ Called id t :=
      (called_next_iff there').trans (or_iff_left_of_imp (called_of_isHandling there))
    refine ⟨r', there', ?_, ?_, ?_⟩ <;> rw [same]
    · exact h.waits
    · rw [received_concat, unread, events_silent]
      exact h.start
    · rw [received_concat, unread, events_silent]
      exact h.refusal
  · cases entering : r.stage.isEntering with
    | true => exact ⟨r', there', h.of_entering orderly there' change entering⟩
    | false => exact ⟨r', there', h.of_begun orderly there' change entering⟩

end Greeted

/-- The handler of an invocation that is not there has not been called. -/
lemma uncalled_of_absent (config : ExecutorConfig) (acts : List Action) {id : ℕ}
    (absent : (Timeline.run (.new config) acts).now.runs[id]? = none) :
    ¬ Called id (Timeline.run (.new config) acts) := by
  intro called
  have ran := running_of_called config acts id called
  have last := (shown_run config acts id).last
  rw [absent, Option.map_none, List.getLast?_eq_none_iff] at last
  simp [last] at ran

/-- **At any time the first event is the one that it should be.** -/
theorem greeted_run (config : ExecutorConfig) (acts : List Action) {id : ℕ} {r : Run}
    (there : (Timeline.run (.new config) acts).now.runs[id]? = some r) :
    Greeted id (Timeline.run (.new config) acts) r := by
  revert r
  refine Timeline.run_invariant (P := fun t => ∀ {r : Run}, t.now.runs[id]? = some r →
    Greeted id t r) (by simp [Engine.new]) ?_ acts
  intro acts a e' ih happens r' there'
  cases there : (Timeline.run (.new config) acts).now.runs[id]? with
  | none =>
      obtain ⟨-, _, _, _, _, _, rfl⟩ := Engine.act_new happens there there'
      have uncalled : ¬ Called id ⟨e', (Timeline.run (.new config) acts).past ++
          [((Timeline.run (.new config) acts).now, a)]⟩ := by
        rw [called_next]
        rintro (called | ⟨q, atPlace, handling⟩)
        · exact uncalled_of_absent config acts there called
        · obtain rfl := Option.some.inj (atPlace.symm.trans there')
          cases handling
      exact ⟨fun _ => uncalled, fun called => absurd called uncalled,
        fun _ begun => by cases begun⟩
  | some r =>
      obtain ⟨q, atPlace, greeted⟩ := (ih there).next (orderly_run config acts there) there happens
      obtain rfl := Option.some.inj (atPlace.symm.trans there')
      exact greeted


/-! ### The last event -/

lemma Run.deliver_settled_iff (capacity : ℕ) (late : Bool) (event : Event) (r : Run) :
    (r.deliver capacity late event).2 = .settled ↔
      (r.reading = true → r.queue.length < capacity) := by
  rw [deliver]
  split_ifs <;> simp_all

lemma Run.deliver_abandoned_iff (capacity : ℕ) (late : Bool) (event : Event) (r : Run) :
    (r.deliver capacity late event).2 = .abandoned ↔
      r.reading = true ∧ capacity ≤ r.queue.length ∧ late = true := by
  rw [deliver]
  split_ifs <;> simp_all

lemma Run.deliver_blocked_iff (capacity : ℕ) (late : Bool) (event : Event) (r : Run) :
    (r.deliver capacity late event).2 = .blocked ↔
      r.reading = true ∧ capacity ≤ r.queue.length ∧ late = false := by
  rw [deliver]
  split_ifs <;> simp_all

/-- Whether an action is a step of an invocation. -/
def Action.isStepOf (id : ℕ) : Action → Bool
  | .advance i => decide (i = id)
  | .branch _ | .submit .. | .expire _ | .cancel _ | .take _ | .drop _ | .emit .. | .wait _
  | .meddle _ => false

namespace Engine

variable {e e' : Engine} {a : Action} {id : ℕ} {r r' : Run} {last : Event} {giveUp : ℕ}

/-- Whether the handler of an invocation comes to some conclusion with the next step of
the invocation. -/
def Returns (e : Engine) (id : ℕ) (x : Run.Conclusion) : Prop :=
  ∃ r o, e.runs[id]? = some r ∧ r.stage = .active (.done o) ∧
    x = r.conclude e.config.timeout e.now (e.isCancelled r.caller) o

/-- Whether an action loses an event of an invocation: an emission that finds no room, or
the last event when it is given up. -/
def losesOf (e : Engine) (a : Action) (id : ℕ) : Bool :=
  (e.attempt? a id).any (·.answer = some .channelFull) || a.isStepOf id && e.abandons a

/-- An invocation whose emitter is closed loses at most its last event. -/
lemma losesOf_of_closed (h : e.act a = some e') (there : e.runs[id]? = some r)
    (closed : r.emitting = false) : e.losesOf a id = (a.isStepOf id && e.abandons a) := by
  have refused : (e.attempt? a id).any (·.answer = some .channelFull) = false := by
    obtain ⟨r', -, -, ⟨-, -, none⟩ | move⟩ := act_move h there
    · rw [none]
      rfl
    · generalize e.attempt? a id = call, e.reading? a id = reading at move
      cases move with
      | called x => simp [attempt, Run.attempt, Run.publish_of_closed closed]
      | changed => rfl
  rw [losesOf, refused, Bool.false_or]

/-- A last event is settled: it is queued unless nobody would read it, or it is given up
since the queue is full and the timer has gone off. -/
lemma settle_cases (there : e.runs[id]? = some r) (delivering : r.stage = .delivering last giveUp)
    (h : e.advance id = some e') :
    e'.runs[id]? = some { r with queue := r.offered e.config.capacity last, stage := .finished }
    ∧ ((e.abandons (.advance id) = false
          ∧ (r.reading = true → r.queue.length < e.config.capacity))
      ∨ (e.abandons (.advance id) = true
          ∧ e'.counters = { e.counters with dropped := e.counters.dropped + 1 }
          ∧ r.reading = true ∧ e.config.capacity ≤ r.queue.length
          ∧ isDue giveUp e.now = true)) := by
  have bound := (List.getElem?_eq_some_iff.mp there).1
  have queue := Run.deliver_fst e.config.capacity (isDue giveUp e.now) last r
  have settles := Run.deliver_settled_iff e.config.capacity (isDue giveUp e.now) last r
  have abandons := Run.deliver_abandoned_iff e.config.capacity (isDue giveUp e.now) last r
  simp only [advance, there, advanceRun, delivering, settle] at h
  rw [abandons_of_delivering there delivering]
  split at h
  · next r' settled =>
      obtain rfl := Option.some.inj h
      rw [settled] at queue settles ⊢
      obtain rfl : r' = _ := queue
      exact ⟨by simp [finish, bound], .inl ⟨rfl, settles.mp rfl⟩⟩
  · next r' abandoned =>
      obtain rfl := Option.some.inj h
      rw [abandoned] at queue abandons ⊢
      obtain rfl : r' = _ := queue
      exact ⟨by simp [finish, bound], .inr ⟨rfl, by simp [finish], abandons.mp rfl⟩⟩
  · cases h

/-- A last event that nobody would read, that finds room or that has waited long enough
is settled by the next step, which gives the slot back. -/
lemma advance_of_delivering (there : e.runs[id]? = some r)
    (delivering : r.stage = .delivering last giveUp)
    (able : r.reading = false ∨ r.queue.length < e.config.capacity ∨ isDue giveUp e.now = true) :
    ∃ e', e.advance id = some e' ∧ e'.holds id = false := by
  have settled : ∃ e', e.advance id = some e' := by
    simp only [advance, there, advanceRun, delivering, settle]
    have blocked := Run.deliver_blocked_iff e.config.capacity (isDue giveUp e.now) last r
    obtain ⟨r', verdict, delivered⟩ : ∃ r' verdict,
        r.deliver e.config.capacity (isDue giveUp e.now) last = (r', verdict) := ⟨_, _, rfl⟩
    rw [delivered] at blocked ⊢
    cases verdict with
    | settled | abandoned => exact ⟨_, rfl⟩
    | blocked =>
        obtain ⟨reading, full, early⟩ := blocked.mp rfl
        rcases able with gone | room | due
        · simp [reading] at gone
        · omega
        · simp [early] at due
  obtain ⟨e', h⟩ := settled
  refine ⟨e', h, ?_⟩
  rw [holds, (settle_cases there delivering h).1]
  rfl

/-- When all have to wait, a last event that waits has a reader, finds no room and has not
waited long enough. -/
lemma waits_of_quiet (quiet : e.canStep = false) (there : e.runs[id]? = some r)
    (delivering : r.stage = .delivering last giveUp) :
    r.reading = true ∧ e.config.capacity ≤ r.queue.length ∧ isDue giveUp e.now = false := by
  have stuck := advanceRun_of_quiet quiet there
  by_contra able
  have able : r.reading = false ∨ r.queue.length < e.config.capacity ∨
      isDue giveUp e.now = true := by
    simp only [not_and_or, Bool.not_eq_true, Bool.not_eq_false, not_le] at able
    exact able
  obtain ⟨e', h, -⟩ := advance_of_delivering there delivering able
  rw [advance, there] at h
  exact absurd (stuck.symm.trans h) (by simp)

/-- The clock does not jump past the timer of a last event that waits. -/
lemma ticks_nextTime_le (there : e.runs[id]? = some r)
    (delivering : r.stage = .delivering last giveUp) (early : isDue giveUp e.now = false)
    {alarms : List ℕ} {later : ℕ} (jump : e.nextTime alarms = some later) :
    ticks later ≤ tickOf giveUp := by
  obtain ⟨tick, next, rfl⟩ := Option.map_eq_some_iff.mp jump
  have timer : giveUp ∈ e.timers := by
    refine List.mem_flatMap.mpr ⟨r, List.mem_of_getElem? there, ?_⟩
    simp only [timersOf, delivering]
    split_ifs <;> simp
  have ahead : tickOf giveUp ∈ ((alarms ++ e.timers).map tickOf).filter (ticks e.now < ·) :=
    List.mem_filter.mpr ⟨List.mem_map_of_mem (List.mem_append_right _ timer),
      by simpa [isDue] using early⟩
  have least : tick ≤ tickOf giveUp := (List.min?_eq_some_iff.mp next).2 _ ahead
  simp only [ticks, timeAtTick, tickLength]
  omega

end Engine

/-! ### What has become of the last event -/

/-- How many events of an invocation have been lost. -/
def lossesOf (id : ℕ) (past : List (Engine × Action)) : ℕ :=
  past.countP fun m => m.1.losesOf m.2 id

lemma lossesOf_concat (id : ℕ) (past : List (Engine × Action)) (e : Engine) (a : Action) :
    lossesOf id (past ++ [(e, a)]) = lossesOf id past + if e.losesOf a id then 1 else 0 := by
  simp [lossesOf]

/-- Whether, in what has happened since its handler returned, the queue of an invocation
was full all the time until the timer went off, and then the last event was given up. -/
def Stalled (capacity giveUp id : ℕ) (since : List (Engine × Action)) : Prop :=
  ∃ waiting late rest, since = waiting ++ (late, .advance id) :: rest
    ∧ (∀ e ∈ waiting.map (·.1) ++ [late], ∃ r, e.runs[id]? = some r ∧ r.reading = true ∧
        capacity ≤ r.queue.length)
    ∧ isDue giveUp late.now = true
    ∧ (late.after (.advance id)).counters
      = { late.counters with dropped := late.counters.dropped + 1 }

lemma Stalled.concat {capacity giveUp id : ℕ} {since : List (Engine × Action)}
    (h : Stalled capacity giveUp id since) (m : Engine × Action) :
    Stalled capacity giveUp id (since ++ [m]) := by
  obtain ⟨waiting, late, rest, rfl, full, due, counted⟩ := h
  exact ⟨waiting, late, rest ++ [m], by simp, full, due, counted⟩

/-- What has become of the last event of an invocation since its handler returned, `es`
being the events that its reader has got: it waits, and the queue has been no shorter than
it is; or it is the last one that was queued; or it is lost. -/
inductive Closing (capacity giveUp id : ℕ) (last : Event) (es : List Event)
    (since : List (Engine × Action)) (r : Run) : Prop
  | waits (stage : r.stage = .delivering last giveUp)
      (longer : r.reading = true → ∀ e ∈ since.map (·.1), ∃ q, e.runs[id]? = some q ∧
        q.reading = true ∧ r.queue.length ≤ q.queue.length)
      (lossless : lossesOf id since = 0)
  | queued (stage : r.stage = .finished)
      (told : r.reading = true → ∃ opening, es ++ r.queue = opening ++ [last])
      (lossless : lossesOf id since = 0)
  | lost (stage : r.stage = .finished) (stalled : Stalled capacity giveUp id since)
      (once : lossesOf id since = 1)

section Closing

variable {capacity giveUp id : ℕ} {last : Event} {since : List (Engine × Action)} {t : Timeline}
  {r : Run} {a : Action} {e' : Engine}

lemma isStepOf_of_ne (other : a ≠ .advance id) : a.isStepOf id = false := by
  cases a with
  | advance i => exact decide_eq_false fun same => other (congrArg Action.advance same)
  | branch | submit | expire | cancel | take | drop | emit | wait | meddle => rfl

/-- A last event that waits goes on waiting unless its invocation takes a step. -/
lemma Closing.wait (orderly : r.Orderly (received id t.past)) (there : t.now.runs[id]? = some r)
    (happens : t.now.act a = some e') (other : a ≠ .advance id)
    (stage : r.stage = .delivering last giveUp)
    (longer : r.reading = true → ∀ e ∈ since.map (·.1), ∃ q, e.runs[id]? = some q ∧
      q.reading = true ∧ r.queue.length ≤ q.queue.length)
    (lossless : lossesOf id (since ++ [(t.now, a)]) = 0) (es : List Event) :
    ∃ r', e'.runs[id]? = some r' ∧ r'.state = r.state ∧
      Closing capacity giveUp id last es (since ++ [(t.now, a)]) r' := by
  have past : r.stage.isPast = true := by rw [stage]; rfl
  obtain ⟨r', there', change⟩ := Engine.act_run happens there
  obtain ⟨q, atPlace, same⟩ := Engine.act_stage_of_other happens there other
  obtain rfl := Option.some.inj (atPlace.symm.trans there')
  obtain ⟨state, kept⟩ : q.state = r.state ∧ (q.reading = true → r.reading = true ∧
      q.queue.length ≤ r.queue.length) := by
    rcases change with ⟨rfl, -⟩ | change
    · exact ⟨rfl, fun reading => ⟨reading, le_rfl⟩⟩
    · rcases change.of_isPast orderly past with ⟨-, state, kept⟩ | ⟨_, _, -, rfl⟩
      · exact ⟨state, fun reading => ⟨(kept reading).1, (kept reading).2.2⟩⟩
      · simp [stage] at same
  refine ⟨q, there', state, .waits (same.trans stage) (fun reading e he => ?_) lossless⟩
  obtain ⟨before, le⟩ := kept reading
  rw [List.map_append, List.mem_append] at he
  rcases he with earlier | now
  · obtain ⟨q', atPlace', reads, ge⟩ := longer before e earlier
    exact ⟨q', atPlace', reads, le.trans ge⟩
  · obtain rfl : e = t.now := by simpa using now
    exact ⟨r, there, before, le⟩

/-- A last event that waits is queued by the step that its invocation takes, or lost. -/
lemma Closing.settle (there : t.now.runs[id]? = some r)
    (happens : t.now.advance id = some e') (stage : r.stage = .delivering last giveUp)
    (longer : r.reading = true → ∀ e ∈ since.map (·.1), ∃ q, e.runs[id]? = some q ∧
      q.reading = true ∧ r.queue.length ≤ q.queue.length)
    (counted : lossesOf id (since ++ [(t.now, .advance id)])
      = if t.now.abandons (.advance id) then 1 else 0) :
    ∃ r', e'.runs[id]? = some r' ∧ r'.state = r.state ∧
      Closing t.now.config.capacity giveUp id last
        (received id (t.past ++ [(t.now, .advance id)])) (since ++ [(t.now, .advance id)]) r' := by
  obtain ⟨there', settled⟩ := Engine.settle_cases there stage happens
  rw [received_concat, show t.now.reading? (.advance id) id = none from rfl, events_silent]
  refine ⟨_, there', rfl, ?_⟩
  rcases settled with ⟨kept, room⟩ | ⟨lost, counters, reading, full, due⟩
  · refine .queued rfl (fun reading => ⟨received id t.past ++ r.queue, ?_⟩)
      (by simpa [kept] using counted)
    rw [Run.offered, if_pos ⟨reading, room reading⟩, List.append_assoc]
  · refine .lost rfl ⟨since, t.now, [], rfl, ?_, due, ?_⟩ (by simpa [lost] using counted)
    · intro e he
      rcases List.mem_append.mp he with earlier | now
      · obtain ⟨q, atPlace, reads, ge⟩ := longer reading e earlier
        exact ⟨q, atPlace, reads, full.trans ge⟩
      · obtain rfl := List.mem_singleton.mp now
        exact ⟨r, there, reading, full⟩
    · rw [Engine.after, Engine.act, happens]
      exact counters

/-- An invocation that is over takes no step, and nothing more is to be read of it. -/
lemma finished_next (orderly : r.Orderly (received id t.past)) (there : t.now.runs[id]? = some r)
    (happens : t.now.act a = some e') (ended : r.stage = .finished) :
    a.isStepOf id = false ∧ ∃ r', e'.runs[id]? = some r' ∧ r'.stage = .finished ∧
      r'.state = r.state ∧ (r'.reading = true → r.reading = true ∧
        received id (t.past ++ [(t.now, a)]) ++ r'.queue = received id t.past ++ r.queue) := by
  refine ⟨isStepOf_of_ne ?_, ?_⟩
  · rintro rfl
    simp [Engine.act, Engine.advance, there, Engine.advanceRun, ended] at happens
  · rw [received_concat]
    obtain ⟨r', there', ⟨rfl, unread⟩ | change⟩ := Engine.act_run happens there
    · rw [unread, events_silent]
      exact ⟨r', there', ended, rfl, fun reading => ⟨reading, rfl⟩⟩
    · exact ⟨r', there', change.of_finished orderly ended⟩

/-- **Every action keeps the account of the last event.** -/
lemma Closing.next (orderly : r.Orderly (received id t.past)) (there : t.now.runs[id]? = some r)
    (happens : t.now.act a = some e') (limit : t.now.config.capacity = capacity)
    (h : Closing capacity giveUp id last (received id t.past) since r) :
    ∃ r', e'.runs[id]? = some r' ∧ r'.state = r.state ∧
      Closing capacity giveUp id last (received id (t.past ++ [(t.now, a)]))
        (since ++ [(t.now, a)]) r' := by
  subst limit
  have past : r.stage.isPast = true := by
    cases h with
    | waits stage | queued stage | lost stage => rw [stage]; rfl
  have counted := lossesOf_concat id since t.now a
  rw [Engine.losesOf_of_closed happens there (orderly.closed past)] at counted
  cases h with
  | waits stage longer lossless =>
      rw [lossless, Nat.zero_add] at counted
      by_cases own : a = .advance id
      · subst own
        exact Closing.settle there happens stage longer (by simpa [Action.isStepOf] using counted)
      · exact Closing.wait orderly there happens own stage longer
          (by simpa [isStepOf_of_ne own] using counted) _
  | queued stage told lossless =>
      obtain ⟨idle, r', there', ended, state, kept⟩ := finished_next orderly there happens stage
      refine ⟨r', there', state, .queued ended (fun reading => ?_)
        (by simpa [idle, lossless] using counted)⟩
      rw [(kept reading).2]
      exact told (kept reading).1
  | lost stage stalled once =>
      obtain ⟨idle, r', there', ended, state, kept⟩ := finished_next orderly there happens stage
      exact ⟨r', there', state, .lost ended (stalled.concat _)
        (by simpa [idle, once] using counted)⟩

end Closing

/-! ### Handlers that have returned -/

/-- A handler stops being at work only by returning. -/
lemma Run.Change.of_isHandling {e : Engine} {r r' : Run} {reading : Option Engine.Reading}
    (change : r.Change e reading r') (handling : r.stage.isHandling = true)
    (past : r'.stage.isPast = true) : ∃ o, r.stage = .active (.done o) := by
  by_contra going
  have still := change.isHandling_of_going handling fun o active => going ⟨o, active⟩
  simp [Stage.not_isHandling_of_isPast past] at still

/-- The handler of an invocation has returned in the past: `e` is the executor just before,
`x` the conclusion that it came to, and `since` what has happened afterwards. -/
structure Returned (config : ExecutorConfig) (id : ℕ) (t : Timeline) (r : Run) (e : Engine)
    (x : Run.Conclusion) (since : List (Engine × Action)) : Prop where
  past : ∃ before, t.past = before ++ (e, .advance id) :: since
  returns : e.Returns id x
  counted : (e.after (.advance id)).counters = Engine.Counters.conclude e.counters x
  state : r.state = x.state
  closing : Closing config.capacity (timerAfter e.now config.terminalTimeout) id x.last
    (received id t.past) since r

/-- A handler that returns has only just returned. -/
lemma returned_now {config : ExecutorConfig} {id : ℕ} {t : Timeline} {r r' : Run} {a : Action}
    {e' : Engine} (limits : t.now.config = config) (there : t.now.runs[id]? = some r)
    (happens : t.now.act a = some e') (there' : e'.runs[id]? = some r')
    (handling : r.stage.isHandling = true) (past : r'.stage.isPast = true) :
    ∃ e x since, Returned config id ⟨e', t.past ++ [(t.now, a)]⟩ r' e x since := by
  have bound := (List.getElem?_eq_some_iff.mp there).1
  have moved : r'.stage ≠ r.stage := by
    intro same
    rw [same] at past
    simp [Stage.not_isHandling_of_isPast past] at handling
  obtain rfl : a = .advance id := by
    by_contra other
    obtain ⟨q, atPlace, same⟩ := Engine.act_stage_of_other happens there other
    obtain rfl := Option.some.inj (atPlace.symm.trans there')
    exact moved same
  obtain ⟨o, active⟩ : ∃ o, r.stage = .active (.done o) := by
    obtain ⟨q, atPlace, ⟨rfl, -⟩ | change⟩ := Engine.act_run happens there
    · obtain rfl := Option.some.inj (atPlace.symm.trans there')
      exact absurd rfl moved
    · obtain rfl := Option.some.inj (atPlace.symm.trans there')
      exact change.of_isHandling handling past
  obtain rfl : t.now.conclude id r o = e' := by
    simpa [Engine.act, Engine.advance, there, Engine.advanceRun, active, Engine.perform]
      using happens
  have now := there'
  simp only [Engine.conclude, Engine.countUp_runs, Engine.setRun_runs,
    List.getElem?_set_self bound, Option.some.injEq] at now
  subst now
  refine ⟨t.now, _, [], ⟨t.past, rfl⟩, ⟨r, o, there, active, rfl⟩, ?_, rfl,
    .waits (by rw [limits]) (by simp) rfl⟩
  rw [Engine.after, happens]
  rfl

/-- **At any time the handler of an invocation that was called and is no more at work has
returned**, and the account of its last event is right. -/
theorem returned_run (config : ExecutorConfig) (acts : List Action) {id : ℕ} {r : Run}
    (there : (Timeline.run (.new config) acts).now.runs[id]? = some r)
    (called : Called id (Timeline.run (.new config) acts)) (past : r.stage.isPast = true) :
    ∃ e x since, Returned config id (Timeline.run (.new config) acts) r e x since := by
  revert r
  revert called
  refine Timeline.run_invariant (P := fun t => Called id t → ∀ {r : Run},
    t.now.runs[id]? = some r → r.stage.isPast = true →
      ∃ e x since, Returned config id t r e x since) (by simp [Engine.new]) ?_ acts
  intro acts a e' ih happens called r' there' past
  have idle := Stage.not_isHandling_of_isPast past
  have before : Called id (Timeline.run (.new config) acts) := by
    refine ((called_next ..).mp called).resolve_right ?_
    rintro ⟨q, atPlace, handling⟩
    obtain rfl := Option.some.inj (atPlace.symm.trans there')
    simp [idle] at handling
  have limits := config_run config acts
  cases there : (Timeline.run (.new config) acts).now.runs[id]? with
  | none => exact absurd before (uncalled_of_absent config acts there)
  | some r =>
      by_cases handling : r.stage.isHandling = true
      · exact returned_now limits there happens there' handling past
      · have ended : r.stage.isPast = true := by
          have begun : r.stage.isEntering ≠ true := fun waits =>
            (greeted_run config acts there).waits waits before
          cases stage : r.stage <;>
            simp_all [Stage.isPast, Stage.isHandling, Stage.isEntering]
        obtain ⟨e, x, since, ⟨earlier, split⟩, returns, counted, state, closing⟩ :=
          ih before there ended
        obtain ⟨q, atPlace, same, closing⟩ := closing.next (orderly_run config acts there) there
          happens (congrArg ExecutorConfig.capacity limits)
        obtain rfl := Option.some.inj (atPlace.symm.trans there')
        refine ⟨e, x, since ++ [((Timeline.run (.new config) acts).now, a)], ⟨earlier, ?_⟩,
          returns, counted, same.trans state, closing⟩
        simp [split]

/-- **The first event always comes, and the last one unless its reader stalls.** At any
time, for every invocation, whatever has been submitted, cancelled and read, whatever the
handlers do and however small the queues and the time allowed for a last event are:

* a reader that never goes away is there; at its end the invocation is over and nothing is
  left to be read; and an invocation that is over, with nothing left, lets its reader see
  the end;
* if the handler has been called, what the reader has got or will get begins with the start,
  and if the invocation was turned away it is a single error;
* a handler that is no more at work has returned at some moment. Then its conclusion was
  counted, and the invocation has shown the state of that conclusion ever since;
* once the invocation is over, what the reader has got or will get ends with the last event
  of that conclusion, and no event has been lost since; or else the queue was full from that
  moment until the timer went off, and exactly one event has been lost since, which changed
  no other count;
* while the slot is still held, a reader that goes away or the timer lets the invocation give
  it back with its next step. So when all have to wait the timer has not gone off, and the
  clock does not jump past it. -/
theorem last_event_is_lost_only_if_stalled (config : ExecutorConfig) (acts : List Action)
    (id : ℕ) :
    let t := Timeline.run (.new config) acts
    ∀ r, t.now.runs[id]? = some r →
      ((.drop id ∉ acts → r.reading = true)
        ∧ (.ended ∈ readings id t.past → r.stage = .finished ∧ r.queue = [])
        ∧ (r.stage = .finished → r.queue = [] → (t.now.take id).1 = .ended))
      ∧ (Called id t → r.reading = true →
          (received id t.past ++ r.queue).head? = some (.start r.tool r.requestId r.args))
      ∧ (¬ Called id t → r.stage.isEntering = false → r.stage = .finished ∧ (r.reading = true →
          received id t.past ++ r.queue = [.error Engine.cancelledEarly false]))
      ∧ (Called id t → r.stage.isPast = true →
          ∃ e x before since, t.past = before ++ (e, .advance id) :: since ∧ e.Returns id x
            ∧ (e.after (.advance id)).counters = Engine.Counters.conclude e.counters x
            ∧ r.state = x.state
            ∧ (let giveUp := timerAfter e.now config.terminalTimeout
              (r.stage = .finished →
                ((r.reading = true → ∃ opening,
                    received id t.past ++ r.queue = opening ++ [x.last]) ∧ lossesOf id since = 0)
                ∨ (Stalled config.capacity giveUp id since ∧ lossesOf id since = 1))
              ∧ (t.now.holds id = true →
                (r.reading = false ∨ isDue giveUp t.now.now = true →
                  ∃ e', t.now.advance id = some e' ∧ e'.holds id = false)
                ∧ (t.now.canStep = false → r.reading = true ∧ isDue giveUp t.now.now = false ∧
                  ∀ alarms later, t.now.nextTime alarms = some later →
                    ticks later ≤ tickOf giveUp)))) := by
  intro t r there
  have greeted := greeted_run config acts there
  refine ⟨⟨fun kept => reading_of_kept config acts kept there,
    fun drained => (final_run config acts there).closed drained, fun ended empty => ?_⟩,
    greeted.start, greeted.refusal, fun called past => ?_⟩
  · simp [t, Engine.take, there, empty, Run.isFinished_of_stage ended]
  obtain ⟨e, x, since, ⟨before, split⟩, returns, counted, state, closing⟩ :=
    returned_run config acts there called past
  refine ⟨e, x, before, since, split, returns, counted, state, ?_, ?_⟩
  · intro ended
    cases closing with
    | waits stage => simp [stage] at ended
    | queued _ told lossless => exact .inl ⟨told, lossless⟩
    | lost _ stalled once => exact .inr ⟨stalled, once⟩
  · intro holds
    cases closing with
    | queued stage | lost stage => simp [t, Engine.holds, there, Run.holdsSlot, stage] at holds
    | waits stage =>
        refine ⟨fun able => Engine.advance_of_delivering there stage (able.imp_right .inr), ?_⟩
        intro quiet
        obtain ⟨reading, -, early⟩ := Engine.waits_of_quiet quiet there stage
        exact ⟨reading, early, fun alarms later =>
          Engine.ticks_nextTime_le there stage early⟩

/-- An executor whose queues hold one event, for a millisecond if it is the last one. -/
def narrow : ExecutorConfig :=
  { bufferSize := 1, terminalTimeout := 1000000 }

/-- An invocation whose reader takes nothing before the last event is given up. -/
def unread : List Action :=
  [.submit "t" "r" .null (.named "caller") fun _ => .done (.ok .null), .advance 0, .advance 0,
    .advance 0, .wait 1000000, .advance 0, .take 0, .take 0]

theorem last_event_is_lost_only_if_stalled_unread :
    let t := Timeline.run (.new narrow) unread
    readings 0 t.past = [.event (.start "t" "r" .null), .ended]
      ∧ ∃ (e : Engine) (x : Run.Conclusion) (since : List (Engine × Action)), e.Returns 0 x
        ∧ Stalled 1 (timerAfter e.now 1000000) 0 since ∧ lossesOf 0 since = 1 := by
  intro t
  obtain ⟨r, there⟩ : ∃ r, t.now.runs[0]? = some r := ⟨_, rfl⟩
  obtain ⟨reading, empty, ended⟩ : r.reading = true ∧ r.queue = [] ∧ r.stage = .finished := by
    obtain rfl := Option.some.inj there
    exact ⟨rfl, rfl, rfl⟩
  have called : Called 0 t := ⟨_, List.mem_of_getElem? (i := 2) rfl, _, rfl, rfl⟩
  obtain ⟨-, -, -, account⟩ := last_event_is_lost_only_if_stalled narrow unread 0 r there
  obtain ⟨e, x, -, since, -, ⟨r', o, there', stage, rfl⟩, -, -, last, -⟩ :=
    account called (by rw [ended]; rfl)
  refine ⟨rfl, e, _, since, ⟨r', o, there', stage, rfl⟩, (last ended).resolve_left ?_⟩
  -- the reader has got the start only, which is no last event
  rintro ⟨told, -⟩
  obtain ⟨opening, told⟩ := told reading
  have start : received 0 t.past ++ r.queue = [] ++ [.start "t" "r" .null] := by
    rw [empty]
    rfl
  have same := List.singleton_inj.mp (List.append_inj' (start.symm.trans told) rfl).2
  have terminal := Run.isTerminal_conclude e.config.timeout e.now (e.isCancelled r'.caller) o r'
  rw [← same] at terminal
  cases terminal

end ToolServer.Execution
