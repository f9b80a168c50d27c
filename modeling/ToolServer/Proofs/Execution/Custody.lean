/-
Who calls the emitter of an invocation, and what becomes of that:

* `Timeline.Entrusted`: who calls an emitter from outside has it from a handler that has laid it
  aside;
* `Engine.mem_shared_act`, `shared_run`: an emitter is laid aside by a step of its own handler;
* `Engine.exists_attempt`, `Run.able_of_accepted`: what an emission finds that does not fail;
* `refused_of_cancelled`: from the moment on at which an invocation is cancelled, all emissions
  fail;
* `Engine.expire_of_accepted`: an emission that comes too late is ahead of the timer only;
* `heard_run`: a reader has got the beginning of what was emitted, even if it goes away.

The deadline of an invocation refuses no emission by itself. It fires the token of the invocation,
when its timer has gone off and nothing else is in the middle of a step.
-/
import ToolServer.Proofs.Execution.Outcome

namespace ToolServer.Execution

/-! ### Emitters that are laid aside -/

/-- Whether every emitter that is called from outside has been laid aside by its handler. -/
def Timeline.Entrusted (t : Timeline) : Prop :=
  ∀ m ∈ t.past, ∀ id x, m.2 = .emit id x → ∃ name, (name, id) ∈ m.1.shared

/-- What has happened in a run has happened in what the run goes on to. -/
lemma Timeline.past_isPrefix (e : Engine) (acts more : List Action) :
    (run e acts).past <+: (run e (acts ++ more)).past :=
  run_later (P := fun t => (run e acts).past <+: t.past) List.prefix_rfl
    (fun _ _ _ ih _ => ih.trans (List.prefix_append _ _)) more

lemma Timeline.Entrusted.of_isPrefix {s t : Timeline} (h : t.Entrusted) (le : s.past <+: t.past) :
    s.Entrusted :=
  fun m hm => h m (le.subset hm)

namespace Engine

variable {e e' : Engine} {a : Action} {id : ℕ} {r : Run}

section Fields

variable (e : Engine) (id : ℕ) (r : Run)

@[simp] lemma setRun_shared : (e.setRun id r).shared = e.shared := rfl

@[simp] lemma countUp_shared (f : Counters → Counters) : (e.countUp f).shared = e.shared := rfl

@[simp] lemma fire_shared (t : Token) : (e.fire t).shared = e.shared := rfl

@[simp] lemma release_shared : e.release.shared = e.shared := by
  rw [release]
  split <;> rfl

@[simp] lemma leaveLine_shared : (e.leaveLine id).shared = e.shared := by
  simp only [leaveLine]
  split_ifs <;> simp

@[simp] lemma publish_shared (x : Emission) : (e.publish id r x).1.shared = e.shared := by
  rw [publish_engine]
  rfl

@[simp] lemma take_shared : (e.take id).2.shared = e.shared := by
  rw [take]
  split
  · rfl
  · split <;> rfl

@[simp] lemma drop_shared : (e.drop id).shared = e.shared := by
  rw [drop]
  split <;> rfl

end Fields

lemma shared_askForSlot (h : e.askForSlot id r = some e') : e'.shared = e.shared := by
  rw [askForSlot] at h
  split_ifs at h <;> obtain rfl := Option.some.inj h
  · simp [turnAway]
  · rfl
  · rfl
  · rfl

lemma shared_settle {last : Event} {giveUp : ℕ} (h : e.settle id r last giveUp = some e') :
    e'.shared = e.shared := by
  rw [settle] at h
  split at h
  · obtain rfl := Option.some.inj h
    simp [finish]
  · obtain rfl := Option.some.inj h
    simp [finish]
  · cases h

/-- A step of a handler lays at most its own emitter aside. -/
lemma mem_shared_perform {b : Behaviour} {p : String × ℕ} (there : p ∈ (e.perform id r b).shared) :
    p ∈ e.shared ∨ p.2 = id ∧ ∃ name next, b = .share name next := by
  cases b with
  | share name next =>
      rcases List.mem_cons.mp there with rfl | others
      · exact .inr ⟨rfl, name, next, rfl⟩
      · exact .inl (List.mem_of_mem_filter others)
  | emit x next => exact .inl (by simpa [perform] using there)
  | done | look | pause | count => exact .inl there

/-- A step of an invocation lays at most its own emitter aside. -/
lemma mem_shared_advance {p : String × ℕ} (there : e.runs[id]? = some r)
    (h : e.advance id = some e') (held : p ∈ e'.shared) :
    p ∈ e.shared ∨ p.2 = id ∧ ∃ name next, r.stage = .active (.share name next) := by
  simp only [advance, there, advanceRun] at h
  split at h
  · exact .inl (shared_askForSlot h ▸ held)
  · exact .inl (shared_askForSlot h ▸ held)
  · next b active =>
      obtain rfl := Option.some.inj h
      rcases mem_shared_perform held with before | ⟨own, name, next, rfl⟩
      · exact .inl before
      · exact .inr ⟨own, name, next, active⟩
  · split_ifs at h <;> obtain rfl := Option.some.inj h <;> exact .inl held
  · exact .inl (shared_settle h ▸ held)
  · cases h

/-- **An emitter is laid aside by a step of its own handler only.** -/
lemma mem_shared_act {p : String × ℕ} (h : e.act a = some e') (held : p ∈ e'.shared) :
    p ∈ e.shared ∨ a = .advance p.2 ∧ ∃ r name next, e.runs[p.2]? = some r ∧
      r.stage = .active (.share name next) := by
  cases a with
  | advance i =>
      cases there : e.runs[i]? with
      | none => simp [act, advance, there] at h
      | some r =>
          rcases mem_shared_advance there h held with before | ⟨rfl, name, next, active⟩
          · exact .inl before
          · exact .inr ⟨rfl, r, name, next, there, active⟩
  | expire i =>
      simp only [act, expire] at h
      split at h
      · split_ifs at h
        obtain rfl := Option.some.inj h
        exact .inl held
      · cases h
  | take i =>
      simp only [act] at h
      split_ifs at h
      obtain rfl := Option.some.inj h
      exact .inl (by simpa using held)
  | drop i =>
      simp only [act] at h
      split_ifs at h
      obtain rfl := Option.some.inj h
      exact .inl (by simpa using held)
  | emit i x =>
      obtain ⟨q, -, rfl⟩ := Option.map_eq_some_iff.mp h
      exact .inl (by simpa using held)
  | wait now =>
      simp only [act] at h
      split_ifs at h
      obtain rfl := Option.some.inj h
      exact .inl held
  | branch | submit | cancel | meddle =>
      obtain rfl := Option.some.inj h
      exact .inl held

end Engine

/-- At any time the emitters that have been laid aside are those of invocations. -/
lemma shared_run (config : ExecutorConfig) (acts : List Action) :
    ∀ p ∈ (Timeline.run (.new config) acts).now.shared,
      ∃ r, (Timeline.run (.new config) acts).now.runs[p.2]? = some r := by
  refine Timeline.run_induct (P := fun t => ∀ p ∈ t.now.shared, ∃ r, t.now.runs[p.2]? = some r)
    (by simp [Engine.new]) ?_ acts
  intro t a e' ih happens p held
  obtain ⟨r, there⟩ : ∃ r, t.now.runs[p.2]? = some r := by
    rcases Engine.mem_shared_act happens held with before | ⟨-, r, -, -, there, -⟩
    · exact ih p before
    · exact ⟨r, there⟩
  obtain ⟨r', there', -⟩ := Engine.act_run happens there
  exact ⟨r', there'⟩

/-! ### What an emission finds -/

/-- The calls of an emitter around one of them. -/
lemma attempts_of_split {id : ℕ} {past before since : List (Engine × Action)} {m : Engine × Action}
    {c : Attempt} (split : past = before ++ m :: since) (call : m.1.attempt? m.2 id = some c) :
    attempts id past = attempts id before ++ c :: attempts id since := by
  rw [split, attempts, List.filterMap_append]
  have now : attempts id (m :: since) = c :: attempts id since := List.filterMap_cons_some call
  exact congrArg _ now

section Accepted

variable {maxEvents capacity : ℕ} {cancelled : Bool} {x : Emission} {r : Run}

/-- **An emission that does not fail** has found the emitter open, the invocation not cancelled,
fewer events than the limit, a reader and room. -/
lemma Run.able_of_accepted (accepted : (r.attempt maxEvents capacity cancelled x).answer = none) :
    r.emitting = true ∧ cancelled = false ∧ r.delivered < maxEvents ∧ r.reading = true
      ∧ r.queue.length < capacity := by
  simp only [attempt, publish_eq] at accepted
  split_ifs at accepted with closed fired limit gone full
  exact ⟨by simpa using closed, by simpa using fired, not_le.mp limit, by simpa using gone,
    not_le.mp full⟩

/-- An emission that does not fail gets the next number. -/
lemma Run.number_of_accepted (accepted : (r.attempt maxEvents capacity cancelled x).answer = none) :
    (r.attempt maxEvents capacity cancelled x).number = some (r.sequence + 1) := by
  obtain ⟨emitting, rfl, room, reading, space⟩ := able_of_accepted accepted
  simp [attempt, publish_eq, emitting, not_le.mpr room, reading, not_le.mpr space]

end Accepted

namespace Engine

variable {e : Engine} {a : Action} {id : ℕ} {c : Attempt} {q : Run}

/-- A call of the emitter of an invocation that is there. -/
lemma exists_attempt (call : e.attempt? a id = some c) :
    ∃ r x, e.runs[id]? = some r ∧ c = e.attempt r x := by
  obtain ⟨⟨i, c'⟩, calls, own⟩ := Option.bind_eq_some_iff.mp call
  split_ifs at own with same
  obtain rfl : i = id := same
  obtain rfl : c' = c := Option.some.inj own
  cases a with
  | advance j =>
      simp only [call?] at calls
      split at calls
      · next r there =>
          split at calls
          · next x next active =>
              obtain ⟨rfl, rfl⟩ := Prod.mk.inj (Option.some.inj calls)
              exact ⟨r, x, there, rfl⟩
          · cases calls
      · cases calls
  | emit j x =>
      obtain ⟨r, there, same⟩ := Option.map_eq_some_iff.mp calls
      obtain ⟨rfl, rfl⟩ := Prod.mk.inj same
      exact ⟨r, x, there, rfl⟩
  | branch | submit | expire | cancel | take | drop | wait | meddle => cases calls

/-- What a call finds that does not fail. -/
lemma able_of_accepted (there : e.runs[id]? = some q) (call : e.attempt? a id = some c)
    (accepted : c.answer = none) :
    q.emitting = true ∧ e.isCancelled q.scope = false ∧ q.delivered < e.config.maxEvents
      ∧ q.queue.length < e.config.capacity := by
  obtain ⟨r, x, atPlace, rfl⟩ := exists_attempt call
  obtain rfl := Option.some.inj (atPlace.symm.trans there)
  obtain ⟨emitting, wanted, room, -, space⟩ := Run.able_of_accepted accepted
  exact ⟨emitting, wanted, room, space⟩

/-- **An emission that does not fail although the timer of the deadline has gone off** is just
ahead of what the timer does: it is about to fire the token of the invocation. -/
lemma expire_of_accepted {es : List Event} (there : e.runs[id]? = some q) (orderly : q.Orderly es)
    (call : e.attempt? a id = some c) (accepted : c.answer = none)
    (due : isDue q.deadline e.now = true) : e.expire id = some (e.fire q.scope) := by
  obtain ⟨emitting, wanted, -⟩ := able_of_accepted there call accepted
  have holds : q.holdsSlot = true := by
    have handling := orderly.emitting.symm.trans emitting
    cases stage : q.stage <;> simp_all [Run.holdsSlot, Stage.isHandling]
  simp [expire, there, mustExpire, holds, due, wanted]

end Engine

/-! ### Cancelled invocations -/

/-- An invocation that is cancelled stays so. -/
lemma cancelled_later {e : Engine} (acts more : List Action) {id : ℕ} {q : Run}
    (there : (Timeline.run e acts).now.runs[id]? = some q)
    (cancelled : (Timeline.run e acts).now.isCancelled q.scope = true) :
    ∃ r, (Timeline.run e (acts ++ more)).now.runs[id]? = some r ∧
      (Timeline.run e (acts ++ more)).now.isCancelled r.scope = true := by
  refine Timeline.run_later (P := fun t => ∃ r, t.now.runs[id]? = some r ∧
    t.now.isCancelled r.scope = true) ⟨q, there, cancelled⟩ ?_ more
  rintro acts' a e' ⟨r, there, cancelled⟩ happens
  obtain ⟨r', there', going⟩ := Engine.act_continues happens there
  refine ⟨r', there', ?_⟩
  rw [going.scope]
  exact Token.isCancelled_mono (Engine.act_step happens).fired cancelled

/-- **From the moment on at which an invocation is cancelled all emissions fail.** -/
lemma refused_of_cancelled {e : Engine} {acts : List Action} {id : ℕ} {m : Engine × Action}
    {before since : List (Engine × Action)} (split : (Timeline.run e acts).past = before ++ m :: since)
    {q : Run} (there : m.1.runs[id]? = some q) (cancelled : m.1.isCancelled q.scope = true)
    {c : Attempt} (hc : c ∈ attempts id (m :: since)) : c.answer ≠ none := by
  obtain ⟨m', hm', call⟩ := List.mem_filterMap.mp hc
  -- the moment of the call is that of the cancellation or a later one
  obtain ⟨r, there', cancelled'⟩ : ∃ r, m'.1.runs[id]? = some r ∧
      m'.1.isCancelled r.scope = true := by
    rcases List.mem_cons.mp hm' with rfl | later
    · exact ⟨q, there, cancelled⟩
    · obtain ⟨mid, after, rfl⟩ := List.append_of_mem later
      obtain ⟨acts', -, -, moment'⟩ := Timeline.run_of_past
        (split.trans (List.append_assoc before (m :: mid) (m' :: after)).symm)
      obtain ⟨earlier, more, rfl, moment⟩ :=
        Timeline.run_of_past (congrArg Timeline.past moment')
      have later := cancelled_later earlier (m.2 :: more) (by rw [moment]; exact there)
        (by rw [moment]; exact cancelled)
      rwa [moment'] at later
  intro accepted
  simp [(Engine.able_of_accepted there' call accepted).2.1] at cancelled'

/-! ### Readers that go away -/

/-- The calls of an emitter that have not failed. -/
def accomplished (calls : List Attempt) : List Attempt :=
  calls.filter (·.answer = none)

/-- **At any time what a reader has got of the pieces and will get is the beginning of what was
emitted**, also if it goes away. -/
theorem heard_run (config : ExecutorConfig) (acts : List Action) {id : ℕ} {r : Run}
    (there : (Timeline.run (.new config) acts).now.runs[id]? = some r) :
    (pieces (received id (Timeline.run (.new config) acts).past ++ r.queue)).map some
      <+: (accomplished (attempts id (Timeline.run (.new config) acts).past)).map
        Attempt.event? := by
  revert r
  refine Timeline.run_invariant (P := fun t => ∀ {r : Run}, t.now.runs[id]? = some r →
    (pieces (received id t.past ++ r.queue)).map some
      <+: (accomplished (attempts id t.past)).map Attempt.event?) (by simp [Engine.new]) ?_ acts
  intro acts a e' ih happens r' there'
  have next : Timeline.run (.new config) (acts ++ [a]) = _ :=
    (Timeline.run_concat ..).trans (Timeline.next_of_some happens)
  have atPlace : (Timeline.run (.new config) (acts ++ [a])).now.runs[id]? = some r' := by
    rw [next]
    exact there'
  cases reading : r'.reading with
  | true =>
      have account := (accounted_run config (acts ++ [a]) atPlace).queued reading
      rw [next] at account
      exact account ▸ List.prefix_rfl
  | false =>
      -- what a reader has got that has gone away stays the same
      have empty := ((orderly_run config (acts ++ [a]) atPlace).gone reading).1
      have grows : accomplished (attempts id (Timeline.run (.new config) acts).past) <+:
          accomplished (attempts id ((Timeline.run (.new config) acts).past
            ++ [((Timeline.run (.new config) acts).now, a)])) := by
        rw [attempts_concat, accomplished, accomplished, List.filter_append]
        exact List.prefix_append _ _
      rw [empty, List.append_nil, received_concat]
      cases before : (Timeline.run (.new config) acts).now.runs[id]? with
      | none =>
          rw [received, readings_of_absent acts before, Engine.reading?_of_absent happens before]
          exact List.nil_prefix
      | some r =>
          refine List.IsPrefix.trans ?_ ((ih before).trans (grows.map _))
          refine List.IsPrefix.map some (List.IsPrefix.filter _ ?_)
          obtain ⟨q, atPlace', ⟨-, unread⟩ | change⟩ := Engine.act_run happens before
          · rw [unread, events_silent]
            exact List.prefix_append _ _
          · obtain rfl := Option.some.inj (atPlace'.symm.trans there')
            generalize (Timeline.run (.new config) acts).now.reading? a id = seen at change
            cases change with
            | read queue => simp [queue, Engine.Reading.event?]
            | foundNothing =>
                rw [events_nothing]
                exact List.prefix_append _ _
            | refused | begun | queued | emitted | emittedOutside | moved | concluded | finished
            | dropped =>
                rw [events_silent]
                exact List.prefix_append _ _

end ToolServer.Execution
