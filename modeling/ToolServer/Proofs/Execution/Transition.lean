/-
What can happen in an executor, one action after another:

* `Action`, `Engine.act`: an action, and the executor after it if it can happen;
* `Timeline`, `Timeline.run`: an executor with its past, after any list of
  actions; `Timeline.run_of_past`: what has been done up to a moment in the past;
* `Engine.reading?`, `readings`, `received`: what the reader of an invocation
  gets;
* `Run.Change`: what one action does to one invocation; `act_runs` says that
  every action does this to at most one invocation or adds a new one;
* `invocation_induct`: what every change keeps holds of all invocations at any
  time;
* `quiesce_induct`, `quiesce_reaches`: the scheduler is one way among many to order
  actions.

An action is what happens without an interruption: readers, callers, the clock
and other invocations may come in between any two of them.
An emission is one action; `Run.publish_eq` says what becomes of it.
-/
import Mathlib.Tactic
import ToolServer.Execution.Schedule

namespace ToolServer.Execution

/-- An entry that is put in its own place changes nothing. -/
lemma set_of_getElem? {α : Type} {as : List α} {i : ℕ} {a : α} (h : as[i]? = some a) :
    as.set i a = as := by
  obtain ⟨hi, rfl⟩ := List.getElem?_eq_some_iff.mp h
  exact List.set_getElem_self hi

/-- What is kept by every action that can happen is kept by all, if those that cannot
change nothing. -/
lemma foldl_getD_induct {α β : Type} {act : α → β → Option α} {P : α → Prop}
    (step : ∀ a b a', P a → act a b = some a' → P a') (bs : List β) {a : α} (start : P a) :
    P (bs.foldl (fun a b => (act a b).getD a) a) := by
  induction bs generalizing a with
  | nil => exact start
  | cons b bs ih =>
      refine ih ?_
      dsimp only
      cases h : act a b with
      | none => exact start
      | some a' => exact step a b a' start h

/-! ### Actions -/

/-- Something that happens in an executor. -/
inductive Action
  /-- A token is made below another. -/
  | branch (t : Token)
  /-- A new invocation of a handler under a caller's token. -/
  | submit (tool requestId : String) (args : Json) (caller : Token) (handler : Handler)
  /-- An invocation takes a step. -/
  | advance (id : Nat)
  /-- The deadline of an invocation fires its token. -/
  | expire (id : Nat)
  /-- A token is fired from outside. -/
  | cancel (t : Token)
  /-- The reader of an invocation asks for the next event. -/
  | take (id : Nat)
  /-- The reader of an invocation goes away. -/
  | drop (id : Nat)
  /-- An emission from outside through the emitter of an invocation. -/
  | emit (id : Nat) (x : Emission)
  /-- The clock runs on. -/
  | wait (now : Nat)
  /-- Something outside changes the counters that handlers look at. -/
  | meddle (tally : List (String × Nat))

namespace Engine

/-- The executor after an action, if that can happen. -/
def act (e : Engine) : Action → Option Engine
  | .branch t => some (e.childOf t).2
  | .submit tool requestId args caller handler =>
    some (e.submit tool requestId args caller handler).2
  | .advance id => e.advance id
  | .expire id => e.expire id
  | .cancel t => some (e.fire t)
  | .take id => if id < e.runs.length then some (e.take id).2 else none
  | .drop id => if id < e.runs.length then some (e.drop id) else none
  | .emit id x => e.runs[id]?.map fun r => (e.publish id r x).1
  | .wait now => if e.now ≤ now then some { e with now } else none
  | .meddle tally => some { e with tally }

/-- What an action lets the reader of an invocation see. -/
def reading? (e : Engine) (a : Action) (id : Nat) : Option Reading :=
  match a with
  | .take i => if i = id then some (e.take id).1 else none
  | _ => none

end Engine

/-- An executor and what has happened in it: every action with the executor
before it, the latest one last. -/
structure Timeline where
  now : Engine
  past : List (Engine × Action) := []

namespace Timeline

/-- What comes of an action; one that cannot happen changes nothing. -/
def next (t : Timeline) (a : Action) : Timeline :=
  match t.now.act a with
  | some e => ⟨e, t.past ++ [(t.now, a)]⟩
  | none => t

/-- What comes of a list of actions. -/
def run (e : Engine) (acts : List Action) : Timeline :=
  acts.foldl next { now := e }

lemma next_of_some {t : Timeline} {a : Action} {e : Engine} (h : t.now.act a = some e) :
    t.next a = ⟨e, t.past ++ [(t.now, a)]⟩ := by
  simp only [next, h]

lemma next_of_none {t : Timeline} {a : Action} (h : t.now.act a = none) : t.next a = t := by
  simp only [next, h]

lemma run_concat (e : Engine) (acts : List Action) (a : Action) :
    run e (acts ++ [a]) = (run e acts).next a := by
  rw [run, List.foldl_append]
  rfl

/-- What holds at some time and is kept by every action holds from then on. Of the
executor before the action, all may be used that is known to hold at any time. -/
lemma run_later {P : Timeline → Prop} {e : Engine} {acts : List Action} (start : P (run e acts))
    (step : ∀ (acts : List Action) (a : Action) (e' : Engine), P (run e acts) →
      (run e acts).now.act a = some e' → P ⟨e', (run e acts).past ++ [((run e acts).now, a)]⟩)
    (more : List Action) : P (run e (acts ++ more)) := by
  induction more using List.reverseRecOn with
  | nil => rwa [List.append_nil]
  | append_singleton more a ih =>
      rw [← List.append_assoc, run_concat]
      cases h : (run e (acts ++ more)).now.act a with
      | none => rw [next_of_none h]; exact ih
      | some e' => rw [next_of_some h]; exact step (acts ++ more) a e' ih h

/-- What holds at the start and is kept by every action holds at any time. -/
lemma run_invariant {P : Timeline → Prop} {e : Engine} (start : P { now := e })
    (step : ∀ (acts : List Action) (a : Action) (e' : Engine), P (run e acts) →
      (run e acts).now.act a = some e' → P ⟨e', (run e acts).past ++ [((run e acts).now, a)]⟩)
    (acts : List Action) : P (run e acts) :=
  @run_later P e [] start step acts

/-- What holds at the start and is kept by every action in every timeline holds at
any time. -/
lemma run_induct {P : Timeline → Prop} {e : Engine} (start : P { now := e })
    (step : ∀ (t : Timeline) (a : Action) (e' : Engine), P t → t.now.act a = some e' →
      P ⟨e', t.past ++ [(t.now, a)]⟩) (acts : List Action) : P (run e acts) :=
  run_invariant start (fun acts a e' => step (run e acts) a e') acts

lemma run_append (e : Engine) (acts more : List Action) :
    (run e (acts ++ more)).now = (run (run e acts).now more).now := by
  have key : ∀ (s t : Timeline), s.now = t.now →
      (more.foldl next s).now = (more.foldl next t).now := by
    induction more with
    | nil => exact fun s t h => h
    | cons a more ih =>
        intro s t h
        refine ih (s.next a) (t.next a) ?_
        simp only [next, h]
        split
        · rfl
        · exact h
  rw [run, List.foldl_append]
  exact key _ _ rfl

lemma past_append (e : Engine) (acts more : List Action) :
    (run e (acts ++ more)).past = (run e acts).past ++ (run (run e acts).now more).past := by
  induction more using List.reverseRecOn with
  | nil => simp [run]
  | append_singleton more a ih =>
      have now := run_append e acts more
      rw [← List.append_assoc, run_concat, run_concat, next, next, now]
      cases (run (run e acts).now more).now.act a with
      | none => exact ih
      | some e' => simp only [ih, List.append_assoc]

/-- What has been done up to a moment in the past of a run. -/
lemma run_of_past {e : Engine} {acts : List Action} {m : Engine × Action}
    {before since : List (Engine × Action)} (split : (run e acts).past = before ++ m :: since) :
    ∃ earlier later, acts = earlier ++ m.2 :: later ∧ run e earlier = ⟨m.1, before⟩ := by
  induction acts using List.reverseRecOn generalizing since with
  | nil => simp [run] at split
  | append_singleton acts a ih =>
      rw [run_concat] at split
      cases happens : (run e acts).now.act a with
      | none =>
          rw [next_of_none happens] at split
          obtain ⟨earlier, later, rfl, eq⟩ := ih split
          exact ⟨earlier, later ++ [a], by simp, eq⟩
      | some e' =>
          rw [next_of_some happens] at split
          rcases List.eq_nil_or_concat since with rfl | ⟨since, m', rfl⟩
          · obtain ⟨rfl, now⟩ := List.append_inj' split rfl
            obtain rfl := (List.singleton_inj.mp now).symm
            exact ⟨acts, [], rfl, rfl⟩
          · rw [List.concat_eq_append, ← List.cons_append, ← List.append_assoc] at split
            obtain ⟨split, -⟩ := List.append_inj' split rfl
            obtain ⟨earlier, later, rfl, eq⟩ := ih split
            exact ⟨earlier, later ++ [a], by simp, eq⟩

/-- What has been done in a run was to be done. -/
lemma mem_of_past {e : Engine} {acts : List Action} {m : Engine × Action}
    (there : m ∈ (run e acts).past) : m.2 ∈ acts := by
  obtain ⟨_, _, split⟩ := List.append_of_mem there
  obtain ⟨_, _, rfl, -⟩ := run_of_past split
  simp

end Timeline

/-- What the reader of an invocation has got, one answer for each time that it
asked. -/
def readings (id : Nat) (past : List (Engine × Action)) : List Engine.Reading :=
  past.filterMap fun m => m.1.reading? m.2 id

/-- The event in what a reader gets. -/
def Engine.Reading.event? : Engine.Reading → Option Event
  | .event e => some e
  | .pending | .ended => none

/-- The events that the reader of an invocation has got. -/
def received (id : Nat) (past : List (Engine × Action)) : List Event :=
  (readings id past).filterMap Engine.Reading.event?

@[simp] lemma readings_nil (id : Nat) : readings id [] = [] := rfl

@[simp] lemma received_nil (id : Nat) : received id [] = [] := rfl

lemma readings_concat (id : Nat) (past : List (Engine × Action)) (e : Engine) (a : Action) :
    readings id (past ++ [(e, a)]) = readings id past ++ (e.reading? a id).toList := by
  rw [readings, List.filterMap_append, ← readings]
  cases h : e.reading? a id <;> simp [h]

/-! ### What an action does to an invocation -/

/-- Whether a handler is at work: between the start of an invocation and the end
of its handler. -/
def Stage.isHandling : Stage → Bool
  | .active _ | .asleep .. => true
  | .arriving | .waiting | .delivering .. | .finished => false

/-- Whether an invocation has not yet got a slot. -/
def Stage.isEntering : Stage → Bool
  | .arriving | .waiting => true
  | .active _ | .asleep .. | .delivering .. | .finished => false

/-- The steps of a handler that neither emit nor end it: the stage before and
the stage after. -/
inductive Stage.Follows (e : Engine) (r : Run) : Stage → Stage → Prop
  | looked (next : View → Behaviour) :
      Follows e r (.active (.look next)) (.active (next (e.view r)))
  | paused (span : Option Nat) (watching : Bool) (next : Wake → Behaviour) :
      Follows e r (.active (.pause span watching next))
        (.asleep (span.map (timerAfter e.now)) watching next)
  | counted (counter : String) (next : Nat → Behaviour) :
      Follows e r (.active (.count counter next)) (.active (next (e.bump counter).1))
  | shared (name : String) (next : Behaviour) :
      Follows e r (.active (.share name next)) (.active next)
  | cancelled (wakeAt : Option Nat) (next : Wake → Behaviour)
      (fired : e.isCancelled r.scope = true) :
      Follows e r (.asleep wakeAt true next) (.active (next .cancelled))
  | elapsed (wakeAt : Nat) (watching : Bool) (next : Wake → Behaviour)
      (due : isDue wakeAt e.now = true) :
      Follows e r (.asleep (some wakeAt) watching next) (.active (next .elapsed))

lemma Stage.Follows.isHandling {e : Engine} {r : Run} {s s' : Stage} (h : Follows e r s s') :
    s.isHandling = true ∧ s'.isHandling = true := by
  cases h <;> exact ⟨rfl, rfl⟩

namespace Run

/-- An emission at once: the first check that it does not pass answers it, and only
one that passes all of them gets a number. -/
lemma publish_eq (maxEvents capacity : Nat) (cancelled : Bool) (x : Emission) (r : Run) :
    r.publish maxEvents capacity cancelled x =
      if !r.emitting then (r, some .closed)
      else if cancelled then (r, some .cancelled)
      else if maxEvents ≤ r.delivered then (r, some (.limitExceeded maxEvents))
      else if !r.reading then ({ r with sequence := r.sequence + 1 }, some .channelClosed)
      else if capacity ≤ r.queue.length then
        ({ r with sequence := r.sequence + 1 }, some .channelFull)
      else
        ({ r with
            sequence := r.sequence + 1
            delivered := r.delivered + 1
            queue := r.queue ++ [x.event (r.sequence + 1)] }, none) := by
  by_cases emitting : r.emitting = true
  · cases cancelled with
    | true => simp [publish, emitSteps, emitStep, Emission.Phase.answer?, emitting]
    | false =>
        by_cases limit : maxEvents ≤ r.delivered
        · simp [publish, emitSteps, emitStep, Emission.Phase.answer?, emitting, limit]
        · cases reading : r.reading <;> by_cases full : capacity ≤ r.queue.length <;>
            simp [publish, emitSteps, emitStep, Emission.Phase.answer?, emitting, limit,
              reading, full]
  · simp [publish, emitSteps, emitStep, Emission.Phase.answer?, emitting]

/-- The queue after an event was offered that may wait for room. -/
def offered (capacity : Nat) (e : Event) (r : Run) : List Event :=
  if r.reading = true ∧ r.queue.length < capacity then r.queue ++ [e] else r.queue

lemma deliver_fst (capacity : Nat) (late : Bool) (e : Event) (r : Run) :
    (r.deliver capacity late e).1 = { r with queue := r.offered capacity e } := by
  cases r
  simp only [deliver, offered]
  split_ifs <;> simp_all

/-- What one action in an executor does to an invocation, and what it lets the
reader of that invocation see. -/
inductive Change (e : Engine) (r : Run) : Option Engine.Reading → Run → Prop
  /-- The caller has cancelled before there was a slot. -/
  | refused (entering : r.stage.isEntering = true) (cancelled : e.isCancelled r.caller = true) :
      Change e r none
        { r with
            queue := r.offered e.config.capacity (.error Engine.cancelledEarly false)
            state := .canceled
            stage := .finished }
  /-- There is a slot. -/
  | begun (entering : r.stage.isEntering = true) (wanted : e.isCancelled r.caller = false) :
      Change e r none
        { r with
            queue := r.offered e.config.capacity (.start r.tool r.requestId r.args)
            state := .running
            stage := .active r.body
            emitting := true
            started := e.now
            deadline := Duration.deadlineAfter e.now e.config.timeout }
  /-- There is no slot. -/
  | queued (entering : r.stage.isEntering = true) : Change e r none { r with stage := .waiting }
  /-- The handler emits something. -/
  | emitted {x : Emission} {next : Option EmitError → Behaviour}
      (active : r.stage = .active (.emit x next)) :
      Change e r none
        { (r.publish e.config.maxEvents e.config.capacity (e.isCancelled r.scope) x).1 with
            stage := .active (next
              (r.publish e.config.maxEvents e.config.capacity (e.isCancelled r.scope) x).2) }
  /-- Something is emitted from outside. -/
  | emittedOutside (x : Emission) :
      Change e r none
        (r.publish e.config.maxEvents e.config.capacity (e.isCancelled r.scope) x).1
  /-- The handler takes another step. -/
  | moved {s : Stage} (follows : Stage.Follows e r r.stage s) : Change e r none { r with stage := s }
  /-- The handler ends. -/
  | concluded {o : Outcome} (active : r.stage = .active (.done o)) :
      Change e r none
        { r with
            emitting := false
            state := (r.conclude e.config.timeout e.now (e.isCancelled r.caller) o).state
            stage := .delivering
              (r.conclude e.config.timeout e.now (e.isCancelled r.caller) o).last
              (timerAfter e.now e.config.terminalTimeout) }
  /-- The last event is queued or given up. -/
  | finished {last : Event} {giveUp : Nat} (delivering : r.stage = .delivering last giveUp)
      (free : (r.deliver e.config.capacity (isDue giveUp e.now) last).2 ≠ .blocked) :
      Change e r none
        { r with queue := r.offered e.config.capacity last, stage := .finished }
  /-- The reader gets the first event that waits for it. -/
  | read {event : Event} {rest : List Event} (there : r.queue = event :: rest) :
      Change e r (some (.event event)) { r with queue := rest }
  /-- The reader gets nothing. -/
  | foundNothing (empty : r.queue = []) :
      Change e r (some (if r.isFinished then .ended else .pending)) r
  /-- The reader goes away. -/
  | dropped : Change e r none { r with reading := false, queue := [] }

end Run

namespace Engine

/-! ### What is left alone -/

@[simp] lemma setRun_runs (e : Engine) (id : Nat) (r : Run) :
    (e.setRun id r).runs = e.runs.set id r := rfl

@[simp] lemma countUp_runs (e : Engine) (f : Counters → Counters) :
    (e.countUp f).runs = e.runs := rfl

@[simp] lemma fire_runs (e : Engine) (t : Token) : (e.fire t).runs = e.runs := rfl

@[simp] lemma release_runs (e : Engine) : e.release.runs = e.runs := by
  rw [release]
  split <;> rfl

@[simp] lemma leaveLine_runs (e : Engine) (id : Nat) : (e.leaveLine id).runs = e.runs := by
  rw [leaveLine]
  dsimp only
  split <;> simp

@[simp] lemma leaveLine_config (e : Engine) (id : Nat) :
    (e.leaveLine id).config = e.config := by
  rw [leaveLine, release]
  dsimp only
  split
  · split <;> rfl
  · rfl

/-- An emission changes the invocation that it belongs to and no other. -/
lemma publish_runs (e : Engine) (id : Nat) (r : Run) (x : Emission) :
    (e.publish id r x).1.runs = e.runs.set id
      (r.publish e.config.maxEvents e.config.capacity (e.isCancelled r.scope) x).1 := by
  rw [publish]
  dsimp only
  split <;> rfl

lemma publish_snd (e : Engine) (id : Nat) (r : Run) (x : Emission) :
    (e.publish id r x).2
      = r.publish e.config.maxEvents e.config.capacity (e.isCancelled r.scope) x := rfl

/-! ### One step of an invocation -/

lemma askForSlot_change {e e' : Engine} {id : Nat} {r : Run}
    (entering : r.stage.isEntering = true) (h : e.askForSlot id r = some e') :
    ∃ r', e'.runs = e.runs.set id r' ∧ r.Change e none r' := by
  rw [askForSlot] at h
  split_ifs at h with cancelled granted inLine free
  · obtain rfl := Option.some.inj h
    refine ⟨_, ?_, .refused entering cancelled⟩
    simp [turnAway, Run.deliver_fst]
  · obtain rfl := Option.some.inj h
    refine ⟨_, ?_, .begun entering (by simpa using cancelled)⟩
    simp [begin, Run.deliver_fst]
  · obtain rfl := Option.some.inj h
    refine ⟨_, ?_, .begun entering (by simpa using cancelled)⟩
    simp [begin, Run.deliver_fst]
  · obtain rfl := Option.some.inj h
    exact ⟨_, rfl, .queued entering⟩

lemma perform_change (e : Engine) (id : Nat) (r : Run) (b : Behaviour)
    (active : r.stage = .active b) :
    ∃ r', (e.perform id r b).runs = e.runs.set id r' ∧ r.Change e none r' := by
  cases b with
  | done o => exact ⟨_, rfl, .concluded active⟩
  | emit x next =>
      refine ⟨_, ?_, .emitted active⟩
      simp [perform, publish_runs, publish_snd, List.set_set]
  | look next => exact ⟨_, rfl, .moved (active ▸ .looked next)⟩
  | pause span watching next => exact ⟨_, rfl, .moved (active ▸ .paused span watching next)⟩
  | count counter next => exact ⟨_, rfl, .moved (active ▸ .counted counter next)⟩
  | share name next => exact ⟨_, rfl, .moved (active ▸ .shared name next)⟩

lemma settle_change {e e' : Engine} {id giveUp : Nat} {r : Run} {last : Event}
    (delivering : r.stage = .delivering last giveUp)
    (h : e.settle id r last giveUp = some e') :
    ∃ r', e'.runs = e.runs.set id r' ∧ r.Change e none r' := by
  obtain ⟨r', d, hd⟩ : ∃ r' d, r.deliver e.config.capacity (isDue giveUp e.now) last = (r', d) :=
    ⟨_, _, rfl⟩
  have hr' : r' = { r with queue := r.offered e.config.capacity last } := by
    rw [← Run.deliver_fst e.config.capacity (isDue giveUp e.now) last r, hd]
  have free : d ≠ .blocked → (r.deliver e.config.capacity (isDue giveUp e.now) last).2 ≠ .blocked :=
    fun hne => by rw [hd]; exact hne
  subst hr'
  simp only [settle, hd] at h
  cases d with
  | settled =>
      obtain rfl := Option.some.inj h
      exact ⟨_, by simp [finish], .finished delivering (free (by simp))⟩
  | abandoned =>
      obtain rfl := Option.some.inj h
      exact ⟨_, by simp [finish], .finished delivering (free (by simp))⟩
  | blocked => simp at h

/-- A timer that has gone off was set. -/
lemma exists_due {wakeAt : Option Nat} {now : Nat} (h : wakeAt.any (isDue · now) = true) :
    ∃ deadline, wakeAt = some deadline ∧ isDue deadline now = true := by
  cases wakeAt with
  | none => simp at h
  | some deadline =>
      rw [Option.any_some] at h
      exact ⟨deadline, rfl, h⟩

lemma wake_change {e e' : Engine} {id : Nat} {r : Run} {wakeAt : Option Nat} {watching : Bool}
    {next : Wake → Behaviour} (asleep : r.stage = .asleep wakeAt watching next)
    (h : e.advanceRun id r = some e') :
    ∃ r', e'.runs = e.runs.set id r' ∧ r.Change e none r' := by
  simp only [advanceRun, asleep] at h
  split_ifs at h with fired due
  · obtain rfl := Option.some.inj h
    obtain ⟨rfl, fired⟩ := Bool.and_eq_true_iff.mp fired
    exact ⟨_, setRun_runs .., .moved (asleep ▸ .cancelled wakeAt next fired)⟩
  · obtain rfl := Option.some.inj h
    obtain ⟨deadline, rfl, passed⟩ := exists_due due
    exact ⟨_, setRun_runs .., .moved (asleep ▸ .elapsed deadline watching next passed)⟩

/-- A step of an invocation changes that invocation and no other. -/
lemma advanceRun_change {e e' : Engine} {id : Nat} {r : Run}
    (h : e.advanceRun id r = some e') :
    ∃ r', e'.runs = e.runs.set id r' ∧ r.Change e none r' := by
  cases stage : r.stage with
  | arriving =>
      exact askForSlot_change (by rw [stage]; rfl) (by simpa [advanceRun, stage] using h)
  | waiting =>
      exact askForSlot_change (by rw [stage]; rfl) (by simpa [advanceRun, stage] using h)
  | active b =>
      obtain rfl : e.perform id r b = e' := by simpa [advanceRun, stage] using h
      exact perform_change e id r b stage
  | asleep wakeAt watching next => exact wake_change stage h
  | delivering last giveUp => exact settle_change stage (by simpa [advanceRun, stage] using h)
  | finished => simp [advanceRun, stage] at h

/-! ### Every action -/

/-- The invocation that a submission adds. -/
def fresh (e : Engine) (tool requestId : String) (args : Json) (caller : Token)
    (handler : Handler) : Run :=
  { tool, requestId, args, caller, scope := .child caller e.children, body := handler args }

/-- A reader that gets no event leaves everything as it is. -/
lemma take_of_nothing {e : Engine} {id : ℕ} (h : ∀ event, (e.take id).1 ≠ .event event) :
    (e.take id).2 = e := by
  rw [take] at h ⊢
  split
  · rfl
  · next r there =>
      split
      · next event rest queue => simp [there, queue] at h
      · rfl

/-- A reader that asks changes its own invocation, by what it gets. -/
lemma take_change {e : Engine} {id : Nat} {r : Run} (hr : e.runs[id]? = some r) :
    ∃ r', (e.take id).2.runs = e.runs.set id r' ∧ r.Change e (e.reading? (.take id) id) r' := by
  cases queue : r.queue with
  | nil =>
      refine ⟨r, ?_, ?_⟩
      · have stays : (e.take id).2 = e := by simp [take, hr, queue]
        rw [stays, set_of_getElem? hr]
      · have seen : e.reading? (.take id) id = some (if r.isFinished then .ended else .pending) := by
          simp [reading?, take, hr, queue]
        rw [seen]
        exact .foundNothing queue
  | cons event rest =>
      refine ⟨{ r with queue := rest }, ?_, ?_⟩
      · simp [take, hr, queue]
      · have seen : e.reading? (.take id) id = some (.event event) := by
          simp [reading?, take, hr, queue]
        rw [seen]
        exact .read queue

/-- Every action leaves all invocations alone, adds a new one, or changes one of
them, whose reader is the only one that may see anything. -/
lemma act_runs {e e' : Engine} {a : Action} (h : e.act a = some e') :
    (e'.runs = e.runs ∧ ∀ id, e.reading? a id = none)
    ∨ (∃ tool requestId args caller handler,
        a = .submit tool requestId args caller handler ∧
        e'.runs = e.runs ++ [e.fresh tool requestId args caller handler])
    ∨ ∃ i r r', e.runs[i]? = some r ∧ e'.runs = e.runs.set i r' ∧
        r.Change e (e.reading? a i) r' ∧ ∀ id, id ≠ i → e.reading? a id = none := by
  cases a with
  | branch t => exact .inl ⟨by obtain rfl := Option.some.inj h; rfl, fun _ => rfl⟩
  | submit tool requestId args caller handler =>
      obtain rfl := Option.some.inj h
      exact .inr (.inl ⟨_, _, _, _, _, rfl, rfl⟩)
  | advance id =>
      simp only [act, advance] at h
      split at h
      · next r hr =>
          obtain ⟨r', hruns, change⟩ := advanceRun_change h
          exact .inr (.inr ⟨id, r, r', hr, hruns, change, fun _ _ => rfl⟩)
      · simp at h
  | expire id =>
      simp only [act, expire] at h
      split at h
      · split_ifs at h
        obtain rfl := Option.some.inj h
        exact .inl ⟨rfl, fun _ => rfl⟩
      · simp at h
  | cancel t => exact .inl ⟨by obtain rfl := Option.some.inj h; rfl, fun _ => rfl⟩
  | take id =>
      simp only [act] at h
      split_ifs at h with hid
      obtain rfl := Option.some.inj h
      have hr : e.runs[id]? = some e.runs[id] := List.getElem?_eq_getElem hid
      obtain ⟨r', hruns, change⟩ := take_change hr
      exact .inr (.inr ⟨id, _, r', hr, hruns, change, fun j hj => by simp [reading?, hj.symm]⟩)
  | drop id =>
      simp only [act] at h
      split_ifs at h with hid
      obtain rfl := Option.some.inj h
      have hr : e.runs[id]? = some e.runs[id] := List.getElem?_eq_getElem hid
      exact .inr (.inr ⟨id, _, _, hr, by simp [drop, hr], .dropped, fun _ _ => rfl⟩)
  | emit id x =>
      obtain ⟨r, hr, rfl⟩ := Option.map_eq_some_iff.mp h
      exact .inr (.inr ⟨id, r, _, hr, publish_runs e id r x, .emittedOutside x, fun _ _ => rfl⟩)
  | wait now =>
      simp only [act] at h
      split_ifs at h
      obtain rfl := Option.some.inj h
      exact .inl ⟨rfl, fun _ => rfl⟩
  | meddle tally => exact .inl ⟨by obtain rfl := Option.some.inj h; rfl, fun _ => rfl⟩

/-- What an action does to an invocation that is there: nothing, and its reader
sees nothing, or a change of its own. -/
lemma act_run {e e' : Engine} {a : Action} {id : Nat} {r : Run} (h : e.act a = some e')
    (hr : e.runs[id]? = some r) :
    ∃ r', e'.runs[id]? = some r' ∧
      ((r' = r ∧ e.reading? a id = none) ∨ r.Change e (e.reading? a id) r') := by
  have hid : id < e.runs.length := (List.getElem?_eq_some_iff.mp hr).1
  rcases act_runs h with ⟨same, unseen⟩ | ⟨_, _, _, _, _, rfl, more⟩ |
    ⟨i, s, s', hs, hset, change, unseen⟩
  · exact ⟨r, by rw [same, hr], .inl ⟨rfl, unseen id⟩⟩
  · exact ⟨r, by rw [more, List.getElem?_append_left hid, hr], .inl ⟨rfl, rfl⟩⟩
  · by_cases hi : id = i
    · subst hi
      obtain rfl : s = r := Option.some.inj (hs.symm.trans hr)
      exact ⟨s', by rw [hset, List.getElem?_set_self hid], .inr change⟩
    · exact ⟨r, by rw [hset, List.getElem?_set_ne (Ne.symm hi), hr], .inl ⟨rfl, unseen id hi⟩⟩

/-- An invocation that an action adds is a new one, and nobody has read of it. -/
lemma act_new {e e' : Engine} {a : Action} {id : Nat} {r : Run} (h : e.act a = some e')
    (absent : e.runs[id]? = none) (hr : e'.runs[id]? = some r) :
    e.reading? a id = none ∧ ∃ tool requestId args caller handler,
      r = e.fresh tool requestId args caller handler := by
  rcases act_runs h with ⟨same, -⟩ | ⟨tool, requestId, args, caller, handler, rfl, more⟩ |
    ⟨i, s, s', -, hset, -, -⟩
  · rw [same, absent] at hr
    simp at hr
  · refine ⟨rfl, tool, requestId, args, caller, handler, ?_⟩
    rw [more, List.getElem?_append_right (List.getElem?_eq_none_iff.mp absent)] at hr
    exact (List.mem_singleton.mp (List.mem_of_getElem? hr))
  · have hid := (List.getElem?_eq_some_iff.mp hr).1
    rw [hset, List.length_set] at hid
    exact absurd (List.getElem?_eq_none_iff.mp absent) (by omega)

/-! ### Time -/

@[simp] lemma setRun_now (e : Engine) (id : Nat) (r : Run) : (e.setRun id r).now = e.now := rfl

@[simp] lemma countUp_now (e : Engine) (f : Counters → Counters) : (e.countUp f).now = e.now := rfl

@[simp] lemma fire_now (e : Engine) (t : Token) : (e.fire t).now = e.now := rfl

@[simp] lemma release_now (e : Engine) : e.release.now = e.now := by
  rw [release]
  split <;> rfl

@[simp] lemma leaveLine_now (e : Engine) (id : Nat) : (e.leaveLine id).now = e.now := by
  simp only [leaveLine]
  split_ifs <;> simp

@[simp] lemma publish_now (e : Engine) (id : Nat) (r : Run) (x : Emission) :
    (e.publish id r x).1.now = e.now := by
  simp only [publish, setRun_now]
  split_ifs <;> rfl

@[simp] lemma take_now (e : Engine) (id : Nat) : (e.take id).2.now = e.now := by
  rw [take]
  split
  · rfl
  · split <;> rfl

@[simp] lemma drop_now (e : Engine) (id : Nat) : (e.drop id).now = e.now := by
  rw [drop]
  split <;> rfl

lemma askForSlot_now {e e' : Engine} {id : Nat} {r : Run} (h : e.askForSlot id r = some e') :
    e'.now = e.now := by
  rw [askForSlot] at h
  split_ifs at h <;> obtain rfl := Option.some.inj h
  · simp [turnAway]
  · rfl
  · rfl
  · rfl

lemma settle_now {e e' : Engine} {id giveUp : Nat} {r : Run} {last : Event}
    (h : e.settle id r last giveUp = some e') : e'.now = e.now := by
  rw [settle] at h
  split at h
  · obtain rfl := Option.some.inj h
    simp [finish]
  · obtain rfl := Option.some.inj h
    simp [finish]
  · cases h

lemma perform_now (e : Engine) (id : Nat) (r : Run) (b : Behaviour) :
    (e.perform id r b).now = e.now := by
  cases b with
  | emit x next => simp [perform]
  | done | look | pause | count | share => rfl

lemma advanceRun_now {e e' : Engine} {id : Nat} {r : Run} (h : e.advanceRun id r = some e') :
    e'.now = e.now := by
  rw [advanceRun] at h
  split at h
  · exact askForSlot_now h
  · exact askForSlot_now h
  · obtain rfl := Option.some.inj h
    exact perform_now ..
  · split_ifs at h <;> obtain rfl := Option.some.inj h <;> rfl
  · exact settle_now h
  · cases h

/-- No action turns the clock back. -/
lemma act_now {e e' : Engine} {a : Action} (h : e.act a = some e') : e.now ≤ e'.now := by
  cases a with
  | branch | submit | cancel | meddle =>
      obtain rfl := Option.some.inj h
      exact le_rfl
  | advance id =>
      simp only [act, advance] at h
      split at h
      · exact (advanceRun_now h).ge
      · cases h
  | expire id =>
      simp only [act, expire] at h
      split at h
      · split_ifs at h
        obtain rfl := Option.some.inj h
        exact le_rfl
      · cases h
  | take id =>
      simp only [act] at h
      split_ifs at h
      obtain rfl := Option.some.inj h
      exact (take_now e id).ge
  | drop id =>
      simp only [act] at h
      split_ifs at h
      obtain rfl := Option.some.inj h
      exact (drop_now e id).ge
  | emit id x =>
      obtain ⟨r, -, rfl⟩ := Option.map_eq_some_iff.mp h
      exact (publish_now e id r x).ge
  | wait now =>
      simp only [act] at h
      split_ifs at h with later
      obtain rfl := Option.some.inj h
      exact later

/-! ### Invocations that are not there -/

/-- Nobody reads of an invocation that is not there. -/
lemma reading?_of_absent {e e' : Engine} {a : Action} {id : Nat} (h : e.act a = some e')
    (absent : e.runs[id]? = none) : e.reading? a id = none := by
  rcases act_runs h with ⟨-, unseen⟩ | ⟨_, _, _, _, _, rfl, -⟩ | ⟨i, s, -, hs, -, -, unseen⟩
  · exact unseen id
  · rfl
  · exact unseen id fun hi => by simp [hi ▸ absent] at hs

end Engine

/-! ### Invariants of an invocation -/

/-- Of an invocation that is not there nobody has read. -/
lemma readings_of_absent {e : Engine} (acts : List Action) {id : Nat}
    (absent : (Timeline.run e acts).now.runs[id]? = none) :
    readings id (Timeline.run e acts).past = [] := by
  revert absent
  refine Timeline.run_induct (P := fun t => t.now.runs[id]? = none → readings id t.past = [])
    (fun _ => rfl) ?_ acts
  intro t a e' ih h absent
  have before : t.now.runs[id]? = none := by
    cases there : t.now.runs[id]? with
    | none => rfl
    | some r =>
        obtain ⟨r', hr', -⟩ := Engine.act_run h there
        simp [absent] at hr'
  rw [readings_concat, ih before, Engine.reading?_of_absent h before]
  rfl

/-- What holds of every new invocation that nobody has read of, and is kept by
every change, holds of all invocations at any time. The first argument of the
invariant is what the reader has got. -/
theorem invocation_induct (Inv : List Engine.Reading → Run → Prop)
    (fresh : ∀ (e : Engine) tool requestId args caller handler,
      Inv [] (e.fresh tool requestId args caller handler))
    (change : ∀ (e : Engine) (r r' : Run) (reading : Option Engine.Reading) seen,
      r.Change e reading r' → Inv seen r → Inv (seen ++ reading.toList) r')
    (config : ExecutorConfig) (acts : List Action) {id : Nat} {r : Run}
    (hr : (Timeline.run (.new config) acts).now.runs[id]? = some r) :
    Inv (readings id (Timeline.run (.new config) acts).past) r := by
  induction acts using List.reverseRecOn generalizing r with
  | nil => simp [Timeline.run, Engine.new] at hr
  | append_singleton acts a ih =>
      rw [Timeline.run_concat] at hr ⊢
      cases h : (Timeline.run (.new config) acts).now.act a with
      | none =>
          rw [Timeline.next_of_none h] at hr ⊢
          exact ih hr
      | some e' =>
          rw [Timeline.next_of_some h] at hr ⊢
          rw [readings_concat]
          cases before : (Timeline.run (.new config) acts).now.runs[id]? with
          | none =>
              obtain ⟨unseen, _, _, _, _, _, rfl⟩ := Engine.act_new h before hr
              rw [readings_of_absent acts before, unseen]
              exact fresh _ _ _ _ _ _
          | some r₀ =>
              obtain ⟨r', hr', ⟨rfl, unseen⟩ | changed⟩ := Engine.act_run h before
              · obtain rfl := Option.some.inj (hr'.symm.trans hr)
                rw [unseen, Option.toList_none, List.append_nil]
                exact ih before
              · obtain rfl := Option.some.inj (hr'.symm.trans hr)
                exact change _ _ _ _ _ changed (ih before)

namespace Engine

/-! ### The scheduler -/

/-- Whether some actions lead from an executor to another. -/
def Reaches (e e' : Engine) : Prop :=
  ∃ acts, (Timeline.run e acts).now = e'

lemma Reaches.refl (e : Engine) : e.Reaches e := ⟨[], rfl⟩

lemma Reaches.trans {e e' e'' : Engine} (h : e.Reaches e') (h' : e'.Reaches e'') :
    e.Reaches e'' := by
  obtain ⟨acts, rfl⟩ := h
  obtain ⟨more, rfl⟩ := h'
  exact ⟨acts ++ more, Timeline.run_append e acts more⟩

lemma Reaches.of_act {e e' : Engine} {a : Action} (h : e.act a = some e') : e.Reaches e' :=
  ⟨[a], by simp [Timeline.run, Timeline.next, h]⟩

/-- A turn of an invocation: its deadline first, then its own steps. -/
def turn (e : Engine) (id : Nat) : Engine :=
  runOut patience id ((e.expire id).getD e)

section Scheduler

variable {P : Engine → Prop} {e : Engine}
  (advance : ∀ (e e' : Engine) (id : Nat), P e → e.advance id = some e' → P e')
  (expire : ∀ (e e' : Engine) (id : Nat), P e → e.expire id = some e' → P e')

include advance

lemma runOut_induct (fuel id : Nat) (start : P e) : P (runOut fuel id e) := by
  induction fuel generalizing e with
  | zero => exact start
  | succ fuel ih =>
      rw [runOut]
      split
      · next e' h => exact ih (advance e e' id start h)
      · exact start

include expire

lemma turn_induct (id : Nat) (start : P e) : P (e.turn id) := by
  refine runOut_induct advance patience id ?_
  cases h : e.expire id with
  | none => exact start
  | some e' => exact expire e e' id start h

lemma round_induct (start : P e) : P e.round := by
  have key : ∀ (ids : List Nat) (e : Engine), P e → P (ids.foldl turn e) := by
    intro ids
    induction ids with
    | nil => exact fun e start => start
    | cons id ids ih => exact fun e start => ih _ (turn_induct advance expire id start)
  exact key _ e start

lemma quiesceWithin_induct (fuel : Nat) (start : P e) : P (quiesceWithin fuel e) := by
  induction fuel generalizing e with
  | zero => exact start
  | succ fuel ih =>
      rw [quiesceWithin]
      split
      · exact ih (round_induct advance expire start)
      · exact start

/-- What is kept by every step of an invocation and by every deadline is kept by the
scheduler. -/
theorem quiesce_induct (start : P e) : P e.quiesce :=
  quiesceWithin_induct advance expire patience start

end Scheduler

/-- What the scheduler does until all have to wait is a list of actions. -/
theorem quiesce_reaches (e : Engine) : e.Reaches e.quiesce :=
  quiesce_induct (P := e.Reaches)
    (fun _ _ id reached h => reached.trans (.of_act (a := .advance id) h))
    (fun _ _ id reached h => reached.trans (.of_act (a := .expire id) h)) (.refl e)

end Engine

end ToolServer.Execution
