/-
Everything that one action does in an executor:

* `Engine.Step`: an executor, an action and the executor after it, with the
  condition under which the action does this;
* `act_step`: every action that can happen is such a step;
* what a step leaves alone: `publish_config` and the lemmas beside it.

`Run.Change` says what becomes of one invocation and `Engine.Step` what becomes
of the whole executor, of the slots and the counts in particular.
-/
import ToolServer.Proofs.Execution.Transition

namespace ToolServer.Execution

/-- What a change of one entry does to a count. -/
lemma count_set {α : Type} [DecidableEq α] {l : List α} {i : ℕ} {x y : α} (z : α)
    (h : l[i]? = some x) :
    (l.set i y).count z + (if x = z then 1 else 0) = l.count z + if y = z then 1 else 0 := by
  induction l generalizing i with
  | nil => simp at h
  | cons a l ih =>
      cases i with
      | zero =>
          obtain rfl : a = x := by simpa using h
          simp only [List.set_cons_zero, List.count_cons, beq_iff_eq]
          omega
      | succ i =>
          have rest := ih (by simpa using h)
          simp only [List.set_cons_succ, List.count_cons, beq_iff_eq]
          omega

namespace Engine

/-! ### What is left alone -/

section Fields

variable (e : Engine) (id : ℕ) (r : Run)

@[simp] lemma setRun_config : (e.setRun id r).config = e.config := rfl

@[simp] lemma setRun_fired : (e.setRun id r).fired = e.fired := rfl

@[simp] lemma setRun_free : (e.setRun id r).free = e.free := rfl

@[simp] lemma setRun_line : (e.setRun id r).line = e.line := rfl

@[simp] lemma setRun_granted : (e.setRun id r).granted = e.granted := rfl

@[simp] lemma setRun_counters : (e.setRun id r).counters = e.counters := rfl

@[simp] lemma countUp_config (f : Counters → Counters) : (e.countUp f).config = e.config := rfl

@[simp] lemma countUp_fired (f : Counters → Counters) : (e.countUp f).fired = e.fired := rfl

@[simp] lemma countUp_counters (f : Counters → Counters) :
    (e.countUp f).counters = f e.counters := rfl

@[simp] lemma fire_config (t : Token) : (e.fire t).config = e.config := rfl

@[simp] lemma fire_fired (t : Token) : (e.fire t).fired = t :: e.fired := rfl

@[simp] lemma fire_counters (t : Token) : (e.fire t).counters = e.counters := rfl

@[simp] lemma release_config : e.release.config = e.config := by
  rw [release]
  split <;> rfl

@[simp] lemma release_fired : e.release.fired = e.fired := by
  rw [release]
  split <;> rfl

@[simp] lemma release_counters : e.release.counters = e.counters := by
  rw [release]
  split <;> rfl

@[simp] lemma leaveLine_fired : (e.leaveLine id).fired = e.fired := by
  simp only [leaveLine]
  split_ifs <;> simp

@[simp] lemma leaveLine_counters : (e.leaveLine id).counters = e.counters := by
  simp only [leaveLine]
  split_ifs <;> simp

/-- An emission counts if it finds no room, and changes nothing else outside its
invocation. -/
lemma publish_engine (x : Emission) :
    (e.publish id r x).1
      = (e.countUp fun c => { c with
          dropped := c.dropped +
            if (e.publish id r x).2.2 = some .channelFull then 1 else 0 }).setRun id
        (e.publish id r x).2.1 := by
  by_cases full : (r.publish e.config.maxEvents e.config.capacity (e.isCancelled r.scope) x).2
      = some .channelFull
  · simp [publish, full]
  · simp [publish, full, countUp]

@[simp] lemma publish_config (x : Emission) : (e.publish id r x).1.config = e.config := by
  rw [publish_engine]
  rfl

@[simp] lemma publish_fired (x : Emission) : (e.publish id r x).1.fired = e.fired := by
  rw [publish_engine]
  rfl

@[simp] lemma publish_free (x : Emission) : (e.publish id r x).1.free = e.free := by
  rw [publish_engine]
  rfl

@[simp] lemma publish_line (x : Emission) : (e.publish id r x).1.line = e.line := by
  rw [publish_engine]
  rfl

@[simp] lemma publish_granted (x : Emission) : (e.publish id r x).1.granted = e.granted := by
  rw [publish_engine]
  rfl

end Fields

/-! ### Steps -/

/-- Everything that one action does in an executor. -/
inductive Step (e : Engine) : Action → Engine → Prop
  /-- A token is made. -/
  | branched (t : Token) : Step e (.branch t) { e with children := e.children + 1 }
  /-- A new invocation comes. -/
  | submitted (tool requestId : String) (args : Json) (caller : Token) (handler : Handler) :
      Step e (.submit tool requestId args caller handler)
        { e with
            children := e.children + 1
            runs := e.runs ++ [e.fresh tool requestId args caller handler]
            counters := { e.counters with total := e.counters.total + 1 } }
  /-- The caller has cancelled before there was a slot. -/
  | refused {id : ℕ} {r : Run} (there : e.runs[id]? = some r)
      (entering : r.stage.isEntering = true) (cancelled : e.isCancelled r.caller = true) :
      Step e (.advance id) (e.turnAway id r)
  /-- A slot has been given to an invocation in line. -/
  | admitted {id : ℕ} {r : Run} (there : e.runs[id]? = some r)
      (entering : r.stage.isEntering = true) (wanted : e.isCancelled r.caller = false)
      (granted : id ∈ e.granted) :
      Step e (.advance id) ({ e with granted := e.granted.erase id }.begin id r)
  /-- There is a free slot. -/
  | begun {id : ℕ} {r : Run} (there : e.runs[id]? = some r)
      (entering : r.stage.isEntering = true) (wanted : e.isCancelled r.caller = false)
      (ungranted : id ∉ e.granted) (unlisted : id ∉ e.line) (free : 0 < e.free) :
      Step e (.advance id) ({ e with free := e.free - 1 }.begin id r)
  /-- There is no free slot. -/
  | queued {id : ℕ} {r : Run} (there : e.runs[id]? = some r)
      (entering : r.stage.isEntering = true) (wanted : e.isCancelled r.caller = false)
      (ungranted : id ∉ e.granted) (unlisted : id ∉ e.line) (full : e.free = 0) :
      Step e (.advance id)
        ({ e with line := e.line ++ [id] }.setRun id { r with stage := .waiting })
  /-- The handler emits something. -/
  | emitted {id : ℕ} {r : Run} {x : Emission} {next : Option EmitError → Behaviour}
      (there : e.runs[id]? = some r) (active : r.stage = .active (.emit x next)) :
      Step e (.advance id)
        ((e.publish id r x).1.setRun id
          { (e.publish id r x).2.1 with stage := .active (next (e.publish id r x).2.2) })
  /-- The handler takes another step. -/
  | moved {id : ℕ} {r : Run} {s : Stage} (tally : List (String × ℕ)) (shared : List (String × ℕ))
      (there : e.runs[id]? = some r) (follows : Stage.Follows e r r.stage s) :
      Step e (.advance id) ({ e with tally, shared }.setRun id { r with stage := s })
  /-- The handler ends. -/
  | concluded {id : ℕ} {r : Run} {o : Outcome} (there : e.runs[id]? = some r)
      (active : r.stage = .active (.done o)) : Step e (.advance id) (e.conclude id r o)
  /-- The last event is queued, or nobody would read it. -/
  | finished {id giveUp : ℕ} {r r' : Run} {last : Event} (there : e.runs[id]? = some r)
      (delivering : r.stage = .delivering last giveUp)
      (settled : r.deliver e.config.capacity (isDue giveUp e.now) last = (r', .settled)) :
      Step e (.advance id) (e.finish id r')
  /-- The last event has waited long enough and is lost. -/
  | gaveUp {id giveUp : ℕ} {r r' : Run} {last : Event} (there : e.runs[id]? = some r)
      (delivering : r.stage = .delivering last giveUp)
      (abandoned : r.deliver e.config.capacity (isDue giveUp e.now) last = (r', .abandoned)) :
      Step e (.advance id)
        ((e.finish id r').countUp fun c => { c with dropped := c.dropped + 1 })
  /-- A deadline fires a token. -/
  | expired {id : ℕ} {r : Run} (there : e.runs[id]? = some r) (due : e.mustExpire r = true) :
      Step e (.expire id) (e.fire r.scope)
  /-- A token is fired from outside. -/
  | cancelled (t : Token) : Step e (.cancel t) (e.fire t)
  /-- The reader gets the first event that waits for it. -/
  | read {id : ℕ} {r : Run} {event : Event} {rest : List Event} (there : e.runs[id]? = some r)
      (queue : r.queue = event :: rest) :
      Step e (.take id) (e.setRun id { r with queue := rest })
  /-- The reader gets nothing. -/
  | foundNothing {id : ℕ} {r : Run} (there : e.runs[id]? = some r) (empty : r.queue = []) :
      Step e (.take id) e
  /-- The reader goes away. -/
  | dropped {id : ℕ} {r : Run} (there : e.runs[id]? = some r) :
      Step e (.drop id) (e.setRun id { r with reading := false, queue := [] })
  /-- Something is emitted from outside. -/
  | emittedOutside {id : ℕ} {r : Run} (x : Emission) (there : e.runs[id]? = some r) :
      Step e (.emit id x) (e.publish id r x).1
  /-- Time passes. -/
  | waited {now : ℕ} (later : e.now ≤ now) : Step e (.wait now) { e with now }
  /-- The counters of handlers are changed from outside. -/
  | meddled (tally : List (String × ℕ)) : Step e (.meddle tally) { e with tally }

variable {e e' : Engine}

lemma askForSlot_step {id : ℕ} {r : Run} (there : e.runs[id]? = some r)
    (entering : r.stage.isEntering = true) (h : e.askForSlot id r = some e') :
    e.Step (.advance id) e' := by
  rw [askForSlot] at h
  split_ifs at h with cancelled granted listed free
  · obtain rfl := Option.some.inj h
    exact .refused there entering cancelled
  · obtain rfl := Option.some.inj h
    exact .admitted there entering (by simpa using cancelled) granted
  · obtain rfl := Option.some.inj h
    exact .begun there entering (by simpa using cancelled) granted listed free
  · obtain rfl := Option.some.inj h
    exact .queued there entering (by simpa using cancelled) granted listed (by omega)

lemma perform_step {id : ℕ} {r : Run} {b : Behaviour} (there : e.runs[id]? = some r)
    (active : r.stage = .active b) : e.Step (.advance id) (e.perform id r b) := by
  cases b with
  | done o => exact .concluded there active
  | emit x next => exact .emitted there active
  | look next => exact .moved e.tally e.shared there (active ▸ .looked next)
  | pause span watching next =>
      exact .moved e.tally e.shared there (active ▸ .paused span watching next)
  | count counter next => exact .moved _ e.shared there (active ▸ .counted counter next)
  | share name next => exact .moved e.tally _ there (active ▸ .shared name next)

lemma advanceRun_step {id : ℕ} {r : Run} (there : e.runs[id]? = some r)
    (h : e.advanceRun id r = some e') : e.Step (.advance id) e' := by
  cases stage : r.stage with
  | arriving =>
      exact askForSlot_step there (by rw [stage]; rfl) (by simpa [advanceRun, stage] using h)
  | waiting =>
      exact askForSlot_step there (by rw [stage]; rfl) (by simpa [advanceRun, stage] using h)
  | active b =>
      obtain rfl : e.perform id r b = e' := by simpa [advanceRun, stage] using h
      exact perform_step there stage
  | asleep wakeAt watching next =>
      simp only [advanceRun, stage] at h
      split_ifs at h with fired due
      · obtain rfl := Option.some.inj h
        obtain ⟨rfl, fired⟩ := Bool.and_eq_true_iff.mp fired
        exact .moved e.tally e.shared there (stage ▸ .cancelled wakeAt next fired)
      · obtain rfl := Option.some.inj h
        obtain ⟨deadline, rfl, passed⟩ := exists_due due
        exact .moved e.tally e.shared there (stage ▸ .elapsed deadline watching next passed)
  | delivering last giveUp =>
      simp only [advanceRun, stage, settle] at h
      split at h
      · next r' settled =>
          obtain rfl := Option.some.inj h
          exact .finished there stage settled
      · next r' abandoned =>
          obtain rfl := Option.some.inj h
          exact .gaveUp there stage abandoned
      · cases h
  | finished => simp [advanceRun, stage] at h

/-- **Every action that can happen is a step.** -/
theorem act_step {a : Action} (h : e.act a = some e') : e.Step a e' := by
  cases a with
  | branch t =>
      obtain rfl := Option.some.inj h
      exact .branched t
  | submit tool requestId args caller handler =>
      obtain rfl := Option.some.inj h
      exact .submitted tool requestId args caller handler
  | advance id =>
      simp only [act, advance] at h
      split at h
      · next r there => exact advanceRun_step there h
      · cases h
  | expire id =>
      simp only [act, expire] at h
      split at h
      · next r there =>
          split_ifs at h with due
          obtain rfl := Option.some.inj h
          exact .expired there due
      · cases h
  | cancel t =>
      obtain rfl := Option.some.inj h
      exact .cancelled t
  | take id =>
      simp only [act] at h
      split_ifs at h with hid
      obtain rfl := Option.some.inj h
      have there : e.runs[id]? = some e.runs[id] := List.getElem?_eq_getElem hid
      cases queue : e.runs[id].queue with
      | nil =>
          have same : (e.take id).2 = e := by simp [take, there, queue]
          rw [same]
          exact .foundNothing there queue
      | cons event rest =>
          have taken : (e.take id).2 = e.setRun id { e.runs[id] with queue := rest } := by
            simp [take, there, queue]
          rw [taken]
          exact .read there queue
  | drop id =>
      simp only [act] at h
      split_ifs at h with hid
      obtain rfl := Option.some.inj h
      have there : e.runs[id]? = some e.runs[id] := List.getElem?_eq_getElem hid
      have gone : e.drop id = e.setRun id { e.runs[id] with reading := false, queue := [] } := by
        simp [drop, there]
      rw [gone]
      exact .dropped there
  | emit id x =>
      obtain ⟨r, there, rfl⟩ := Option.map_eq_some_iff.mp h
      exact .emittedOutside x there
  | wait now =>
      simp only [act] at h
      split_ifs at h with later
      obtain rfl := Option.some.inj h
      exact .waited later
  | meddle tally =>
      obtain rfl := Option.some.inj h
      exact .meddled tally

end Engine

end ToolServer.Execution
