/-
The calls of emitters in the history of an executor:

* `Attempt`: a call of an emitter, with its answer and the number that it got;
* `Engine.attempt?`, `attempts`: the call that an action makes, and all calls of
  the emitter of an invocation;
* `Run.Move`: what one action does to an invocation, its reader and its emitter;
  `act_move` says that every action does this;
* `history_induct`: what every move keeps holds of all invocations at any time,
  with all that has been read of them and all calls of their emitters.

A call is one step: the counters, the queue and the answer change together.
-/
import ToolServer.Proofs.Execution.Step
import ToolServer.Proofs.Execution.Stream

namespace ToolServer.Execution

/-! ### Calls of an emitter -/

/-- A call of an emitter. -/
structure Attempt where
  emission : Emission
  /-- The failure, if it failed. -/
  answer : Option EmitError
  /-- The number that the emission got, if it got one. -/
  number : Option ℕ

/-- The event of a call, if the emission got a number. -/
def Attempt.event? (c : Attempt) : Option Event :=
  c.number.map fun n => c.emission.event n

/-- A call of the emitter of an invocation. -/
def Run.attempt (maxEvents capacity : ℕ) (cancelled : Bool) (x : Emission) (r : Run) : Attempt :=
  let (r', answer) := r.publish maxEvents capacity cancelled x
  ⟨x, answer, if r.sequence < r'.sequence then some r'.sequence else none⟩

namespace Engine

/-- A call of the emitter of an invocation as the executor stands. -/
def attempt (e : Engine) (r : Run) (x : Emission) : Attempt :=
  r.attempt e.config.maxEvents e.config.capacity (e.isCancelled r.scope) x

/-- The call of an emitter that an action makes, with the invocation that the
emitter belongs to. -/
def call? (e : Engine) : Action → Option (ℕ × Attempt)
  | .advance id =>
    match e.runs[id]? with
    | some r =>
      match r.stage with
      | .active (.emit x _) => some (id, e.attempt r x)
      | _ => none
    | none => none
  | .emit id x => e.runs[id]?.map fun r => (id, e.attempt r x)
  | _ => none

/-- The call of the emitter of an invocation that an action makes. -/
def attempt? (e : Engine) (a : Action) (id : ℕ) : Option Attempt :=
  (e.call? a).bind fun c => if c.1 = id then some c.2 else none

end Engine

/-- All calls of the emitter of an invocation. -/
def attempts (id : ℕ) (past : List (Engine × Action)) : List Attempt :=
  past.filterMap fun m => m.1.attempt? m.2 id

@[simp] lemma attempts_nil (id : ℕ) : attempts id [] = [] := rfl

lemma attempts_concat (id : ℕ) (past : List (Engine × Action)) (e : Engine) (a : Action) :
    attempts id (past ++ [(e, a)]) = attempts id past ++ (e.attempt? a id).toList := by
  rw [attempts, List.filterMap_append, ← attempts]
  cases h : e.attempt? a id <;> simp [h]

/-! ### What an action does to an invocation and its emitter -/

/-- A reader that asks gets at most one event more. -/
lemma events_concat (seen : List Engine.Reading) (reading : Option Engine.Reading) :
    (seen ++ reading.toList).filterMap Engine.Reading.event?
      = seen.filterMap Engine.Reading.event? ++ (reading.bind Engine.Reading.event?).toList := by
  rw [List.filterMap_append]
  cases reading with
  | none => rfl
  | some x => cases x <;> rfl

lemma received_concat (id : ℕ) (past : List (Engine × Action)) (e : Engine) (a : Action) :
    received id (past ++ [(e, a)])
      = received id past ++ ((e.reading? a id).bind Engine.Reading.event?).toList := by
  rw [received, readings_concat, events_concat, ← received]

/-- Without a reading there is no event. -/
lemma events_silent (es : List Event) :
    es ++ ((none : Option Engine.Reading).bind Engine.Reading.event?).toList = es :=
  List.append_nil es

/-- A reader that gets nothing gets no event. -/
lemma events_nothing (es : List Event) (ended : Bool) :
    es ++ (Option.bind (some (if ended then Engine.Reading.ended else .pending))
      Engine.Reading.event?).toList = es := by
  cases ended <;> exact List.append_nil es

/-- Before an invocation has its slot there is nothing to read. -/
lemma Run.Orderly.unread {es : List Event} {r : Run} (h : r.Orderly es)
    (entering : r.stage.isEntering = true) (reading : r.reading = true) :
    es = [] ∧ r.queue = [] :=
  List.append_eq_nil_iff.mp ((Stage.fits_of_isEntering entering).mp (h.fits reading))

/-- An emission changes the numbers and the queue of an invocation, and nothing else. -/
lemma Run.publish_fst (maxEvents capacity : ℕ) (cancelled : Bool) (x : Emission) (r : Run) :
    ∃ sequence delivered queue, (r.publish maxEvents capacity cancelled x).1
      = { r with sequence, delivered, queue } := by
  rcases publish_cases maxEvents capacity cancelled x r with same | ⟨-, lost⟩ | ⟨-, -, queued⟩
  · exact ⟨_, _, _, same⟩
  · exact ⟨_, _, _, lost⟩
  · exact ⟨_, _, _, queued⟩

/-- An emission leaves the reader of an invocation where it is. -/
lemma Run.publish_reading (maxEvents capacity : ℕ) (cancelled : Bool) (x : Emission) (r : Run) :
    (r.publish maxEvents capacity cancelled x).1.reading = r.reading := by
  obtain ⟨_, _, _, eq⟩ := publish_fst maxEvents capacity cancelled x r
  rw [eq]

/-- What one action does to an invocation, what it lets the reader see, and the
call of the emitter that it makes. -/
inductive Run.Move (e : Engine) (r : Run) :
    Option Engine.Reading → Option Attempt → Run → Prop
  /-- Something is emitted, by the handler or from outside. -/
  | called (x : Emission) (s : Stage)
      (goesOn : s = r.stage ∨ r.stage.isHandling = true ∧ s.isHandling = true) :
      Move e r none (some (e.attempt r x))
        { (r.publish e.config.maxEvents e.config.capacity (e.isCancelled r.scope) x).1 with
            stage := s }
  /-- Nothing is emitted. -/
  | changed {reading : Option Engine.Reading} {r' : Run} (change : r.Change e reading r')
      (silent : r'.sequence = r.sequence) : Move e r reading none r'

namespace Engine

variable {e e' : Engine} {a : Action}

lemma call?_of_emit {id : ℕ} {r : Run} {x : Emission} {next : Option EmitError → Behaviour}
    (there : e.runs[id]? = some r) (active : r.stage = .active (.emit x next)) :
    e.call? (.advance id) = some (id, e.attempt r x) := by
  simp [call?, there, active]

/-- An invocation that does not emit calls no emitter. -/
lemma call?_of_other {id : ℕ} {r : Run} (there : e.runs[id]? = some r)
    (other : ∀ x next, r.stage ≠ .active (.emit x next)) : e.call? (.advance id) = none := by
  simp [call?, there]

lemma attempt?_of_call {id : ℕ} {c : Attempt} (h : e.call? a = some (id, c)) (i : ℕ) :
    e.attempt? a i = if id = i then some c else none := by
  simp [attempt?, h]

lemma attempt?_of_silent (h : e.call? a = none) (i : ℕ) : e.attempt? a i = none := by
  simp [attempt?, h]

lemma ne_emit_of_isEntering {s : Stage} (entering : s.isEntering = true) :
    ∀ x next, s ≠ .active (.emit x next) := by
  rintro x next rfl
  cases entering

lemma ne_emit_of_follows {r : Run} {s s' : Stage} (follows : Stage.Follows e r s s') :
    ∀ x next, s ≠ .active (.emit x next) := by
  rintro x next rfl
  cases follows

/-- An action moves one invocation. Nobody else reads anything or calls an emitter. -/
structure MovesOne (e : Engine) (a : Action) (e' : Engine) (id : ℕ) (r r' : Run) : Prop where
  there : e.runs[id]? = some r
  set : e'.runs = e.runs.set id r'
  move : r.Move e (e.reading? a id) (e.attempt? a id) r'
  kept : a = .drop id ∨ r'.reading = r.reading
  others : ∀ i, i ≠ id → e.reading? a i = none ∧ e.attempt? a i = none

/-- A step of an invocation that does not emit. -/
lemma MovesOne.of_advance {id : ℕ} {r r' : Run} (there : e.runs[id]? = some r)
    (set : e'.runs = e.runs.set id r') (other : ∀ x next, r.stage ≠ .active (.emit x next))
    (change : r.Change e none r') (silent : r'.sequence = r.sequence)
    (kept : r'.reading = r.reading) : MovesOne e (.advance id) e' id r r' := by
  have none := call?_of_other there other
  refine ⟨there, set, ?_, .inr kept, fun i _ => ⟨rfl, attempt?_of_silent none i⟩⟩
  rw [attempt?_of_silent none]
  exact .changed change silent

/-- A call of an emitter. -/
lemma MovesOne.of_call {id : ℕ} {r : Run} {x : Emission} {s : Stage}
    (there : e.runs[id]? = some r) (call : e.call? a = some (id, e.attempt r x))
    (unread : ∀ i, e.reading? a i = none)
    (goesOn : s = r.stage ∨ r.stage.isHandling = true ∧ s.isHandling = true)
    (set : e'.runs = e.runs.set id
      { (r.publish e.config.maxEvents e.config.capacity (e.isCancelled r.scope) x).1 with
          stage := s }) :
    MovesOne e a e' id r
      { (r.publish e.config.maxEvents e.config.capacity (e.isCancelled r.scope) x).1 with
          stage := s } := by
  refine ⟨there, set, ?_, .inr (Run.publish_reading ..), fun i hi => ⟨unread i, ?_⟩⟩
  · rw [unread, attempt?_of_call call, if_pos rfl]
    exact .called x s goesOn
  · rw [attempt?_of_call call, if_neg (Ne.symm hi)]

/-- A reader that asks. -/
lemma MovesOne.of_take {id : ℕ} {r r' : Run} {reading : Reading} (there : e.runs[id]? = some r)
    (set : e'.runs = e.runs.set id r') (seen : e.reading? (.take id) id = some reading)
    (change : r.Change e (some reading) r') (silent : r'.sequence = r.sequence)
    (kept : r'.reading = r.reading) : MovesOne e (.take id) e' id r r' := by
  refine ⟨there, set, ?_, .inr kept, fun i hi => ⟨?_, rfl⟩⟩
  · rw [seen]
    exact .changed change silent
  · simp [reading?, hi.symm]

/-- Every action leaves all invocations and emitters alone, adds a new invocation,
or moves one of them. -/
lemma step_runs (step : e.Step a e') :
    (e'.runs = e.runs ∧ ∀ id, e.reading? a id = none ∧ e.attempt? a id = none)
    ∨ (∃ tool requestId args caller handler,
        a = .submit tool requestId args caller handler ∧
        e'.runs = e.runs ++ [e.fresh tool requestId args caller handler])
    ∨ ∃ id r r', MovesOne e a e' id r r' := by
  cases step with
  | branched | expired | cancelled | waited | meddled =>
      exact .inl ⟨rfl, fun id => ⟨rfl, rfl⟩⟩
  | submitted tool requestId args caller handler =>
      exact .inr (.inl ⟨_, _, _, _, _, rfl, rfl⟩)
  | refused there entering cancelled =>
      refine .inr (.inr ⟨_, _, _, .of_advance there ?_ (ne_emit_of_isEntering entering)
        (.refused entering cancelled) rfl rfl⟩)
      simp [turnAway, Run.deliver_fst]
  | admitted there entering wanted =>
      refine .inr (.inr ⟨_, _, _, .of_advance there ?_ (ne_emit_of_isEntering entering)
        (.begun entering wanted) rfl rfl⟩)
      simp [begin, Run.deliver_fst]
  | begun there entering wanted =>
      refine .inr (.inr ⟨_, _, _, .of_advance there ?_ (ne_emit_of_isEntering entering)
        (.begun entering wanted) rfl rfl⟩)
      simp [begin, Run.deliver_fst]
  | queued there entering =>
      exact .inr (.inr ⟨_, _, _, .of_advance there rfl (ne_emit_of_isEntering entering)
        (.queued entering) rfl rfl⟩)
  | @emitted id r x next there active =>
      refine .inr (.inr ⟨_, _, _, .of_call (s := .active (next (e.publish id r x).2.2)) there
        (call?_of_emit there active) (fun _ => rfl) (.inr ⟨by rw [active]; rfl, rfl⟩) ?_⟩)
      rw [setRun_runs, publish_runs, List.set_set]
      rfl
  | moved tally shared there follows =>
      exact .inr (.inr ⟨_, _, _, .of_advance there rfl (ne_emit_of_follows follows)
        (.moved follows) rfl rfl⟩)
  | concluded there active =>
      exact .inr (.inr ⟨_, _, _, .of_advance there rfl (by simp [active])
        (.concluded active) rfl rfl⟩)
  | @finished id giveUp r r' last there delivering settled =>
      have hr' : r' = { r with queue := r.offered e.config.capacity last } := by
        rw [← Run.deliver_fst e.config.capacity (isDue giveUp e.now) last r, settled]
      refine .inr (.inr ⟨_, _, _, .of_advance there ?_ (by simp [delivering])
        (.finished delivering (by simp [settled])) rfl rfl⟩)
      simp [finish, hr']
  | @gaveUp id giveUp r r' last there delivering abandoned =>
      have hr' : r' = { r with queue := r.offered e.config.capacity last } := by
        rw [← Run.deliver_fst e.config.capacity (isDue giveUp e.now) last r, abandoned]
      refine .inr (.inr ⟨_, _, _, .of_advance there ?_ (by simp [delivering])
        (.finished delivering (by simp [abandoned])) rfl rfl⟩)
      simp [finish, hr']
  | read there queue =>
      exact .inr (.inr ⟨_, _, _, .of_take there rfl (by simp [reading?, take, there, queue])
        (.read queue) rfl rfl⟩)
  | @foundNothing id r there empty =>
      exact .inr (.inr ⟨_, _, _, .of_take there (set_of_getElem? there).symm
        (by simp [reading?, take, there, empty]) (.foundNothing empty) rfl rfl⟩)
  | dropped there =>
      exact .inr (.inr ⟨_, _, _, there, rfl, .changed .dropped rfl, .inl rfl,
        fun i _ => ⟨rfl, rfl⟩⟩)
  | @emittedOutside id r x there =>
      have call : e.call? (.emit id x) = some (id, e.attempt r x) := by simp [call?, there]
      refine .inr (.inr ⟨_, _, _, .of_call there call (fun _ => rfl) (.inl rfl) ?_⟩)
      rw [publish_runs, ← Run.publish_stage e.config.maxEvents e.config.capacity
        (e.isCancelled r.scope) x r]

/-- What an action does to an invocation that is there: nothing, and nobody reads
of it or calls its emitter, or a move of its own. -/
lemma act_move {id : ℕ} {r : Run} (h : e.act a = some e') (hr : e.runs[id]? = some r) :
    ∃ r', e'.runs[id]? = some r' ∧ (a = .drop id ∨ r'.reading = r.reading) ∧
      ((r' = r ∧ e.reading? a id = none ∧ e.attempt? a id = none) ∨
        r.Move e (e.reading? a id) (e.attempt? a id) r') := by
  have hid : id < e.runs.length := (List.getElem?_eq_some_iff.mp hr).1
  rcases step_runs (act_step h) with ⟨same, silent⟩ | ⟨_, _, _, _, _, rfl, more⟩ |
    ⟨i, s, s', there, set, move, kept, others⟩
  · exact ⟨r, by rw [same, hr], .inr rfl, .inl ⟨rfl, silent id⟩⟩
  · exact ⟨r, by rw [more, List.getElem?_append_left hid, hr], .inr rfl, .inl ⟨rfl, rfl, rfl⟩⟩
  · by_cases hi : id = i
    · subst hi
      obtain rfl : s = r := Option.some.inj (there.symm.trans hr)
      exact ⟨s', by rw [set, List.getElem?_set_self hid], kept, .inr move⟩
    · exact ⟨r, by rw [set, List.getElem?_set_ne (Ne.symm hi), hr], .inr rfl,
        .inl ⟨rfl, others id hi⟩⟩

/-- Nobody calls the emitter of an invocation that is not there. -/
lemma attempt?_of_absent {id : ℕ} (h : e.act a = some e') (absent : e.runs[id]? = none) :
    e.attempt? a id = none := by
  rcases step_runs (act_step h) with ⟨-, silent⟩ | ⟨_, _, _, _, _, rfl, -⟩ |
    ⟨i, s, s', there, -, -, -, others⟩
  · exact (silent id).2
  · rfl
  · refine (others id ?_).2
    rintro rfl
    rw [absent] at there
    cases there

end Engine

/-! ### Invariants with a history -/

/-- No action changes the limits. -/
lemma Engine.act_config {e e' : Engine} {a : Action} (h : e.act a = some e') :
    e'.config = e.config := by
  cases act_step h with
  | refused => simp [turnAway]
  | emitted | emittedOutside => simp
  | finished | gaveUp => simp [finish]
  | _ => rfl

/-- The limits stay as they were at the start. -/
lemma config_run (config : ExecutorConfig) (acts : List Action) :
    (Timeline.run (.new config) acts).now.config = config :=
  Timeline.run_induct (P := fun t => t.now.config = config) rfl
    (fun _ _ _ ih h => (Engine.act_config h).trans ih) acts

/-- The emitter of an invocation that is not there has not been called. -/
lemma attempts_of_absent {e : Engine} (acts : List Action) {id : ℕ}
    (absent : (Timeline.run e acts).now.runs[id]? = none) :
    attempts id (Timeline.run e acts).past = [] := by
  revert absent
  refine Timeline.run_induct (P := fun t => t.now.runs[id]? = none → attempts id t.past = [])
    (fun _ => rfl) ?_ acts
  intro t a e' ih h absent
  have before : t.now.runs[id]? = none := by
    cases there : t.now.runs[id]? with
    | none => rfl
    | some r =>
        obtain ⟨r', hr', -⟩ := Engine.act_move h there
        simp [absent] at hr'
  rw [attempts_concat, ih before, Engine.attempt?_of_absent h before]
  rfl

/-- What holds of every new invocation and is kept by every move holds of all
invocations at any time. The invariant speaks of what the reader has got and of
the calls of the emitter. -/
theorem history_induct (config : ExecutorConfig)
    (Inv : List Engine.Reading → List Attempt → Run → Prop)
    (fresh : ∀ (e : Engine) tool requestId args caller handler,
      Inv [] [] (e.fresh tool requestId args caller handler))
    (move : ∀ (e : Engine) (r r' : Run) (reading : Option Engine.Reading) (call : Option Attempt)
      seen calls, e.config = config → r.Move e reading call r' → Inv seen calls r →
      Inv (seen ++ reading.toList) (calls ++ call.toList) r')
    (acts : List Action) {id : ℕ} {r : Run}
    (hr : (Timeline.run (.new config) acts).now.runs[id]? = some r) :
    Inv (readings id (Timeline.run (.new config) acts).past)
      (attempts id (Timeline.run (.new config) acts).past) r := by
  revert r
  refine Timeline.run_invariant (P := fun t => ∀ {r : Run}, t.now.runs[id]? = some r →
    Inv (readings id t.past) (attempts id t.past) r) (by simp [Engine.new]) ?_ acts
  intro acts a e' ih h r hr
  rw [readings_concat, attempts_concat]
  cases before : (Timeline.run (.new config) acts).now.runs[id]? with
  | none =>
      obtain ⟨unseen, _, _, _, _, _, rfl⟩ := Engine.act_new h before hr
      rw [readings_of_absent acts before, unseen, attempts_of_absent acts before,
        Engine.attempt?_of_absent h before]
      exact fresh _ _ _ _ _ _
  | some r₀ =>
      obtain ⟨r', hr', -, ⟨rfl, unseen, uncalled⟩ | moved⟩ := Engine.act_move h before
      · obtain rfl := Option.some.inj (hr'.symm.trans hr)
        rw [unseen, uncalled, Option.toList_none, Option.toList_none, List.append_nil,
          List.append_nil]
        exact ih before
      · obtain rfl := Option.some.inj (hr'.symm.trans hr)
        exact move _ _ _ _ _ _ _ (config_run config acts) moved (ih before)

end ToolServer.Execution
