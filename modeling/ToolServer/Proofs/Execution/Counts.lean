/-
The counts of an executor:

* `Engine.Tallied`: the invariant of the counts. Those of ended invocations are the
  numbers of invocations that show these states;
* `Step.tallied`, `tallied_run`: no step breaks the invariant, so that it holds at
  any time;
* `Step.total`: nothing but a submission counts as one;
* `Engine.overflows`, `Engine.abandons`: the actions that lose an event;
* `Step.counts_losses`: exactly these add to the count of lost events;
* `counts_add_up`: what holds of the counts and the states at any time.

A state and the count that goes with it change in one step, whatever becomes of
the last event afterwards.
-/
import ToolServer.Proofs.Execution.States

namespace ToolServer.Execution

namespace Engine

/-- The states that all invocations show. -/
def states (e : Engine) : List RunState :=
  e.runs.map Run.state

section Fields

variable (e : Engine) (id : ℕ) (r : Run)

@[simp] lemma setRun_states : (e.setRun id r).states = e.states.set id r.state := by
  simp [states, List.map_set]

@[simp] lemma countUp_states (f : Counters → Counters) : (e.countUp f).states = e.states := rfl

@[simp] lemma fire_states (t : Token) : (e.fire t).states = e.states := rfl

@[simp] lemma release_states : e.release.states = e.states := by simp [states]

@[simp] lemma leaveLine_states : (e.leaveLine id).states = e.states := by simp [states]

end Fields

variable {e e' : Engine} {a : Action} {id : ℕ} {r : Run}

lemma states_of_there (there : e.runs[id]? = some r) : e.states[id]? = some r.state := by
  simp [states, there]

/-- An invocation that keeps its state changes no states. -/
lemma states_set_self {s : RunState} (there : e.runs[id]? = some r) (same : s = r.state) :
    e.states.set id s = e.states := by
  rw [same, set_of_getElem? (states_of_there there)]

lemma publish_states (there : e.runs[id]? = some r) (x : Emission) :
    (e.publish id r x).1.states = e.states := by
  rw [publish_engine, setRun_states, countUp_states]
  exact states_set_self there (by rw [publish_snd, Run.publish_state])

/-! ### The counts of invocations -/

/-- An executor whose counts are right. -/
structure Tallied (e : Engine) : Prop where
  total : e.counters.total = e.states.length
  succeeded : e.counters.succeeded = e.states.count .done
  failed : e.counters.failed = e.states.count .error
  cancellations : e.counters.cancellations = e.states.count .canceled
  timeouts : e.counters.timeouts ≤ e.counters.failed

lemma tallied_new (config : ExecutorConfig) : (new config).Tallied :=
  ⟨rfl, rfl, rfl, rfl, le_rfl⟩

/-- Losing an event changes no count of invocations. -/
lemma Tallied.congr (h : e.Tallied) (states : e'.states = e.states) (lost : ℕ)
    (counters : e'.counters = { e.counters with dropped := lost }) : e'.Tallied := by
  refine ⟨?_, ?_, ?_, ?_, ?_⟩ <;> rw [counters]
  · rw [states]; exact h.total
  · rw [states]; exact h.succeeded
  · rw [states]; exact h.failed
  · rw [states]; exact h.cancellations
  · exact h.timeouts

/-- An invocation makes a move, and the count of its new state goes up. -/
lemma Tallied.move {s t : RunState} (h : e.Tallied) (there : e.states[id]? = some s)
    (live : s.isTerminal = false) (states : e'.states = e.states.set id t)
    (total : e'.counters.total = e.counters.total)
    (succeeded : e'.counters.succeeded = e.counters.succeeded + if t = .done then 1 else 0)
    (failed : e'.counters.failed = e.counters.failed + if t = .error then 1 else 0)
    (cancellations : e'.counters.cancellations
      = e.counters.cancellations + if t = .canceled then 1 else 0)
    (timeouts : e'.counters.timeouts ≤ e'.counters.failed) : e'.Tallied := by
  have count := fun z => count_set (y := t) z there
  have other : ∀ z : RunState, z.isTerminal = true → s ≠ z := by
    rintro z terminal rfl
    simp [live] at terminal
  refine ⟨?_, ?_, ?_, ?_, timeouts⟩
  · rw [total, h.total, states, List.length_set]
  · have before := h.succeeded
    have counted := count .done
    rw [if_neg (other .done rfl)] at counted
    rw [states]
    omega
  · have before := h.failed
    have counted := count .error
    rw [if_neg (other .error rfl)] at counted
    rw [states]
    omega
  · have before := h.cancellations
    have counted := count .canceled
    rw [if_neg (other .canceled rfl)] at counted
    rw [states]
    omega

/-- The end of a handler counts as what its state says. -/
lemma Tallied.conclude (h : e.Tallied) (there : e.runs[id]? = some r)
    (running : r.state = .running) (o : Outcome) : (e.conclude id r o).Tallied := by
  have ended : (r.conclude e.config.timeout e.now (e.isCancelled r.caller) o).state.isTerminal
      = true := (Run.conclude_shows _ _ _ o r 0).1
  have timeouts := h.timeouts
  have live : r.state.isTerminal = false := by rw [running]; rfl
  refine h.move (t := (r.conclude e.config.timeout e.now (e.isCancelled r.caller) o).state)
    (states_of_there there) live ?_ ?_ ?_ ?_ ?_ ?_
  · simp [Engine.conclude]
  all_goals
    simp only [Engine.conclude, countUp_counters, setRun_counters, Counters.conclude]
    cases state : (r.conclude e.config.timeout e.now (e.isCancelled r.caller) o).state <;>
      simp_all [RunState.isTerminal]
  split_ifs <;> omega

/-- An emission counts if it finds no room, and changes no other count. -/
lemma publish_counters (e : Engine) (id : ℕ) (r : Run) (x : Emission) :
    (e.publish id r x).1.counters = { e.counters with
      dropped := e.counters.dropped +
        if (e.publish id r x).2.2 = some .channelFull then 1 else 0 } := by
  rw [publish_engine]
  rfl

/-- Sending an event leaves an invocation in its state. -/
lemma state_of_deliver {capacity : ℕ} {late : Bool} {event : Event} {r' : Run} {d : Run.Delivery}
    (h : r.deliver capacity late event = (r', d)) : r'.state = r.state := by
  rw [show r' = (r.deliver capacity late event).1 by rw [h], Run.deliver_fst]

lemma finish_states {r' : Run} (there : e.runs[id]? = some r) (same : r'.state = r.state) :
    (e.finish id r').states = e.states := by
  simp only [finish, release_states, fire_states, setRun_states]
  exact states_set_self there same

lemma finish_counters (r' : Run) : (e.finish id r').counters = e.counters := by
  simp [finish]

/-- A new invocation shows the first state. -/
lemma Tallied.submit (h : e.Tallied) (tool requestId : String) (args : Json) (caller : Token)
    (handler : Handler) : (e.submit tool requestId args caller handler).2.Tallied := by
  have states : (e.submit tool requestId args caller handler).2.states = e.states ++ [.init] :=
    List.map_append
  refine ⟨?_, ?_, ?_, ?_, h.timeouts⟩ <;> rw [states]
  · rw [List.length_append]
    exact congrArg (· + 1) h.total
  · exact h.succeeded.trans (by simp)
  · exact h.failed.trans (by simp)
  · exact h.cancellations.trans (by simp)

/-- **Every step keeps the counts right.** -/
theorem Step.tallied (step : e.Step a e') (h : e.Tallied)
    (shows : ∀ (id : ℕ) (r : Run), e.runs[id]? = some r → r.stage.Shows r.state) :
    e'.Tallied := by
  have live : ∀ (id : ℕ) (r : Run), e.runs[id]? = some r → r.stage.isEntering = true →
      r.state.isTerminal = false := by
    intro id r there entering
    rw [(Stage.shows_of_isEntering entering).mp (shows id r there)]
    rfl
  cases step with
  | branched | expired | cancelled | waited | meddled | foundNothing =>
      exact h.congr rfl e.counters.dropped rfl
  | submitted tool requestId args caller handler =>
      exact h.submit tool requestId args caller handler
  | @refused id r there entering =>
      refine h.move (t := .canceled) (states_of_there there) (live id r there entering)
        ?_ ?_ ?_ ?_ ?_ ?_
      all_goals simp [turnAway]
      exact h.timeouts
  | admitted there entering | begun there entering =>
      exact h.move (t := .running) (states_of_there there) (live _ _ there entering)
        (setRun_states _ _ _) rfl rfl rfl rfl h.timeouts
  | queued there | moved _ _ there | read there | dropped there =>
      refine h.congr ?_ e.counters.dropped rfl
      rw [setRun_states]
      exact states_set_self there rfl
  | @emitted id r x next there active =>
      refine h.congr ?_ _ (publish_counters e id r x)
      rw [setRun_states, publish_states there]
      exact states_set_self there (by rw [publish_snd, Run.publish_state])
  | @emittedOutside id r x there =>
      exact h.congr (publish_states there x) _ (publish_counters e id r x)
  | @concluded id r o there active =>
      have running : r.state = .running :=
        (Stage.shows_of_isHandling (by rw [active]; rfl)).mp (shows id r there)
      exact h.conclude there running o
  | finished there delivering settled =>
      exact h.congr (finish_states there (state_of_deliver settled)) e.counters.dropped
        (finish_counters _)
  | gaveUp there delivering abandoned =>
      refine h.congr (finish_states there (state_of_deliver abandoned)) (e.counters.dropped + 1) ?_
      rw [countUp_counters, finish_counters]

/-! ### The count of submissions -/

end Engine

/-- Whether an action brings a new invocation. -/
def Action.isSubmission : Action → Bool
  | .submit .. => true
  | .branch _ | .advance _ | .expire _ | .cancel _ | .take _ | .drop _ | .emit .. | .wait _
  | .meddle _ => false

namespace Engine

variable {e e' : Engine} {a : Action}

lemma conclude_total (e : Engine) (id : ℕ) (r : Run) (o : Outcome) :
    (e.conclude id r o).counters.total = e.counters.total := by
  simp only [conclude, countUp_counters, setRun_counters, Counters.conclude]
  split <;> rfl

/-- **Nothing but a submission counts as one.** -/
lemma Step.total (step : e.Step a e') :
    e'.counters.total = e.counters.total + if a.isSubmission then 1 else 0 := by
  cases step with
  | branched | submitted | expired | cancelled | waited | meddled | foundNothing => rfl
  | refused => simp [turnAway, Action.isSubmission]
  | admitted | begun | queued | moved | read | dropped => rfl
  | emitted | emittedOutside => simp [publish_counters, Action.isSubmission]
  | concluded => exact conclude_total ..
  | finished => exact congrArg Counters.total (finish_counters _)
  | gaveUp => rw [countUp_counters, finish_counters]; rfl

/-! ### The count of lost events -/

variable {id : ℕ} {r : Run}

/-- Whether an action is a call of an emitter that finds no room. -/
def overflows (e : Engine) (a : Action) : Bool :=
  (e.call? a).any fun c => c.2.answer = some .channelFull

/-- Whether an action gives up a last event that has waited long enough. -/
def abandons (e : Engine) : Action → Bool
  | .advance id =>
    match e.runs[id]? with
    | some r =>
      match r.stage with
      | .delivering last giveUp =>
        (r.deliver e.config.capacity (isDue giveUp e.now) last).2 = .abandoned
      | _ => false
    | none => false
  | _ => false

lemma overflows_of_silent (h : e.call? a = none) : e.overflows a = false := by
  rw [overflows, h]
  rfl

lemma abandons_of_other (there : e.runs[id]? = some r)
    (other : ∀ last giveUp, r.stage ≠ .delivering last giveUp) :
    e.abandons (.advance id) = false := by
  cases stage : r.stage <;> simp_all [abandons]

lemma abandons_of_delivering {last : Event} {giveUp : ℕ} (there : e.runs[id]? = some r)
    (delivering : r.stage = .delivering last giveUp) :
    e.abandons (.advance id)
      = decide ((r.deliver e.config.capacity (isDue giveUp e.now) last).2 = .abandoned) := by
  simp [abandons, there, delivering]

/-- The number of events that an action loses. -/
def losses (e : Engine) (a : Action) : ℕ :=
  (if e.overflows a then 1 else 0) + if e.abandons a then 1 else 0

/-- A step of an invocation that neither emits nor has a last event loses none. -/
lemma losses_of_other (there : e.runs[id]? = some r)
    (silent : ∀ x next, r.stage ≠ .active (.emit x next))
    (other : ∀ last giveUp, r.stage ≠ .delivering last giveUp) : e.losses (.advance id) = 0 := by
  simp [losses, overflows_of_silent (call?_of_other there silent), abandons_of_other there other]

/-- A call of an emitter loses an event if it finds no room. -/
lemma losses_of_call {x : Emission} (call : e.call? a = some (id, e.attempt r x))
    (going : e.abandons a = false) :
    e.losses a = if (e.publish id r x).2.2 = some .channelFull then 1 else 0 := by
  have answer : (e.attempt r x).answer = (e.publish id r x).2.2 := rfl
  simp [losses, overflows, call, going, answer]

/-- The settling of a last event loses it if it is given up. -/
lemma losses_of_settle {last : Event} {giveUp : ℕ} (there : e.runs[id]? = some r)
    (delivering : r.stage = .delivering last giveUp) :
    e.losses (.advance id) =
      if (r.deliver e.config.capacity (isDue giveUp e.now) last).2 = .abandoned then 1 else 0 := by
  rw [losses, overflows_of_silent (call?_of_other there (by simp [delivering])),
    abandons_of_delivering there delivering]
  simp

/-- **Exactly the losses are counted.** -/
theorem Step.counts_losses (step : e.Step a e') :
    e'.counters.dropped = e.counters.dropped + e.losses a := by
  cases step with
  | branched | submitted | expired | cancelled | waited | meddled | foundNothing | read | dropped =>
      rfl
  | refused there entering =>
      rw [losses_of_other there (ne_emit_of_isEntering entering)
        (by rintro last giveUp h; rw [h] at entering; cases entering)]
      simp [turnAway]
  | admitted there entering | begun there entering | queued there entering =>
      rw [losses_of_other there (ne_emit_of_isEntering entering)
        (by rintro last giveUp h; rw [h] at entering; cases entering)]
      rfl
  | @emitted id r x next there active =>
      rw [losses_of_call (call?_of_emit there active)
        (abandons_of_other there (by simp [active])), setRun_counters, publish_counters]
  | @emittedOutside id r x there =>
      have call : e.call? (.emit id x) = some (id, e.attempt r x) := by simp [call?, there]
      rw [losses_of_call call rfl, publish_counters]
  | moved tally shared there follows =>
      rw [losses_of_other there (ne_emit_of_follows follows)
        (by rintro last giveUp h; rw [h] at follows; cases follows)]
      rfl
  | @concluded id r o there active =>
      rw [losses_of_other there (by simp [active]) (by simp [active])]
      simp only [conclude, countUp_counters, setRun_counters, Counters.conclude]
      split <;> rfl
  | finished there delivering settled =>
      rw [losses_of_settle there delivering, settled, finish_counters]
      rfl
  | gaveUp there delivering abandoned =>
      rw [losses_of_settle there delivering, abandoned, countUp_counters, finish_counters]
      rfl

end Engine

/-- **At any time the counts are right.** -/
theorem tallied_run (config : ExecutorConfig) (acts : List Action) :
    (Timeline.run (.new config) acts).now.Tallied :=
  Timeline.run_invariant (P := fun t => t.now.Tallied) (Engine.tallied_new config)
    (fun acts _ _ ih h =>
      (Engine.act_step h).tallied ih fun _ _ there => (telling_run config acts there).shows) acts

/-- **At any time the lost events are counted.** -/
theorem dropped_run (config : ExecutorConfig) (acts : List Action) :
    let t := Timeline.run (.new config) acts
    t.now.counters.dropped
      = (t.past.countP fun m => m.1.overflows m.2) + t.past.countP fun m => m.1.abandons m.2 := by
  refine Timeline.run_induct (P := fun t => t.now.counters.dropped
    = (t.past.countP fun m => m.1.overflows m.2) + t.past.countP fun m => m.1.abandons m.2)
    rfl ?_ acts
  intro t a e' ih h
  have step := (Engine.act_step h).counts_losses
  rw [Engine.losses] at step
  simp only [List.countP_append, List.countP_singleton]
  omega

/-- The first event of an invocation never has to wait. -/
lemma Run.Orderly.deliver_first {es : List Event} {r : Run} (h : r.Orderly es)
    (entering : r.stage.isEntering = true) (config : ExecutorConfig) (late : Bool) (event : Event) :
    (r.deliver config.capacity late event).2 = .settled := by
  cases reading : r.reading with
  | false => simp [deliver, reading]
  | true =>
      have room : 0 < config.capacity := by
        rw [ExecutorConfig.capacity]
        omega
      simp [deliver, reading, (h.unread entering reading).2, room]

/-- Every invocation shows one of the five states. -/
lemma length_states (ss : List RunState) :
    ss.length = ss.count .done + ss.count .error + ss.count .canceled
      + (ss.count .init + ss.count .running) := by
  induction ss with
  | nil => rfl
  | cons s ss ih => cases s <;> simp <;> omega

/-- **Counts and states.** At any time, whatever has been submitted, cancelled and
read, and whatever the handlers do:

* all invocations are those that have succeeded, failed or been cancelled, and those
  that are still in one of the first two states, and no more have passed their
  deadline than have failed;
* the lost events are the emissions that found no room and the last events that were
  given up; first events never have to wait;
* an ended invocation shows one of the last three states, and each of the three
  counts is the number of invocations that show its state;
* the states of an invocation are a chain of moves from the first one, and none of
  the last three is ever left;
* a reader that has got a last event sees one of these three, and sees that the
  invocation is done exactly if the event was an end. -/
theorem counts_add_up (config : ExecutorConfig) (acts : List Action) :
    let t := Timeline.run (.new config) acts
    let c := t.now.counters
    let n := fun s => t.now.states.count s
    (c.total = c.succeeded + c.failed + c.cancellations + (n .init + n .running)
      ∧ c.timeouts ≤ c.failed)
    ∧ (c.dropped
        = (t.past.countP fun m => m.1.overflows m.2) + (t.past.countP fun m => m.1.abandons m.2)
      ∧ ∀ r ∈ t.now.runs, r.stage.isEntering = true → ∀ late event,
          (r.deliver config.capacity late event).2 = .settled)
    ∧ ((∀ r ∈ t.now.runs, r.stage = .finished → r.state.isTerminal = true)
      ∧ c.succeeded = n .done ∧ c.failed = n .error ∧ c.cancellations = n .canceled)
    ∧ ∀ id,
      ((∀ s ∈ (shown id t).head?, s = .init)
        ∧ ((shown id t).IsChain fun s s' => s' = s ∨ s.Next s')
        ∧ (shown id t).Pairwise fun s s' => s.isTerminal = true → s' = s)
      ∧ ∀ event ∈ received id t.past, event.isTerminal = true →
          ∃ r, t.now.runs[id]? = some r ∧ r.state.isTerminal = true ∧
            (r.state = .done ↔ event.kind = .done) := by
  intro t c n
  have tallied : t.now.Tallied := tallied_run config acts
  have five := length_states t.now.states
  obtain ⟨total, succeeded, failed, cancellations, timeouts⟩ := tallied
  refine ⟨⟨?_, timeouts⟩, ⟨dropped_run config acts, ?_⟩,
    ⟨?_, succeeded, failed, cancellations⟩, fun id => ⟨?_, ?_⟩⟩
  · show t.now.counters.total = _
    rw [total, succeeded, failed, cancellations]
    exact five
  · intro r hr entering late event
    obtain ⟨id, there⟩ := List.getElem?_of_mem hr
    exact (orderly_run config acts there).deliver_first entering config late event
  · intro r hr finished
    obtain ⟨id, there⟩ := List.getElem?_of_mem hr
    have shows := (telling_run config acts there).shows
    rwa [finished] at shows
  · exact ⟨(shown_run config acts id).first, (shown_run config acts id).moves,
      (shown_run config acts id).forever⟩
  · intro event got terminal
    cases there : t.now.runs[id]? with
    | none =>
        rw [received, readings_of_absent acts there] at got
        cases got
    | some r =>
        exact ⟨r, rfl, (telling_run config acts there).told event
          (List.mem_append_left _ got) terminal⟩

end ToolServer.Execution
