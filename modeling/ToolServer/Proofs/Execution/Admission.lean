/-
Which handlers are called:

* `Engine.Offers`, `Engine.Obtains`: whether there is a slot for an invocation, and
  whether an action is its step to that slot in time;
* `act_stage_of_other`: only a step of its own takes an invocation any further;
* `Called`, `called_iff`: a handler is called exactly if its invocation has obtained a
  slot in time;
* `Change.of_entering`, `Change.of_finished`: what becomes of an invocation that has no
  slot, and of one that is over;
* `Unwanted`, `unwanted_run`: what is seen of an invocation whose caller cancels before it
  has a slot;
* `Balanced.offers_leaveLine`: what becomes of the slot that it may just have been given;
* `called_iff_slot_in_time`: all of this together.

The caller may cancel at any time up to the step itself. So a slot that is given to an
invocation in line is not yet obtained: it passes on to the next in line if that
invocation finds itself cancelled.
-/
import ToolServer.Proofs.Execution.Counts
import ToolServer.Proofs.Execution.Slots

namespace ToolServer.Execution

/-- Who comes to be at work has not had a slot before: a handler that has ended is at
work no more. -/
lemma Run.Change.isEntering_of_isHandling {e : Engine} {r r' : Run}
    {reading : Option Engine.Reading} (change : r.Change e reading r')
    (handling : r'.stage.isHandling = true) (idle : r.stage.isHandling = false) :
    r.stage.isEntering = true := by
  cases change with
  | begun entering => exact entering
  | refused | queued | concluded | finished => cases handling
  | emitted active => simp [active, Stage.isHandling] at idle
  | emittedOutside x =>
      rw [publish_stage] at handling
      simp [handling] at idle
  | moved follows => simp [follows.isHandling.1] at idle
  | read | foundNothing | dropped => simp [handling] at idle

/-- A handler is at work until it returns. -/
lemma Run.Change.isHandling_of_going {e : Engine} {r r' : Run} {reading : Option Engine.Reading}
    (change : r.Change e reading r') (handling : r.stage.isHandling = true)
    (going : ∀ o, r.stage ≠ .active (.done o)) : r'.stage.isHandling = true := by
  cases change with
  | refused entering | begun entering | queued entering =>
      simp [Stage.not_isHandling_of_isEntering entering] at handling
  | emitted => rfl
  | emittedOutside x => rwa [publish_stage]
  | moved follows => exact follows.isHandling.2
  | concluded active => exact absurd active (going _)
  | finished delivering => simp [delivering, Stage.isHandling] at handling
  | read | foundNothing | dropped => exact handling

namespace Engine

/-! ### Steps of an invocation -/

variable {e e' : Engine} {a : Action} {id : ℕ} {r r' : Run}

/-- An invocation that stays at its stage does so wherever another one is put. -/
lemma exists_stage_of_set {i : ℕ} {q q' : Run} (there : e.runs[id]? = some r)
    (atPlace : e.runs[i]? = some q) (set : e'.runs = e.runs.set i q')
    (same : q'.stage = q.stage) : ∃ r', e'.runs[id]? = some r' ∧ r'.stage = r.stage := by
  by_cases here : i = id
  · subst here
    obtain rfl := Option.some.inj (atPlace.symm.trans there)
    have bound := (List.getElem?_eq_some_iff.mp there).1
    exact ⟨q', by rw [set, List.getElem?_set_self bound], same⟩
  · exact ⟨r, by rw [set, List.getElem?_set_ne here, there], rfl⟩

/-- A step of an invocation leaves all others where they are. -/
lemma runs_of_advance {i : ℕ} (h : e.act (.advance i) = some e') (apart : i ≠ id) :
    e'.runs[id]? = e.runs[id]? := by
  simp only [act, advance] at h
  split at h
  · obtain ⟨q', set, -⟩ := advanceRun_change h
    rw [set, List.getElem?_set_ne apart]
  · cases h

/-- **Only a step of its own takes an invocation to another stage.** -/
lemma act_stage_of_other (h : e.act a = some e') (there : e.runs[id]? = some r)
    (other : a ≠ .advance id) : ∃ r', e'.runs[id]? = some r' ∧ r'.stage = r.stage := by
  cases act_step h with
  | branched | expired | cancelled | foundNothing | waited | meddled => exact ⟨r, there, rfl⟩
  | submitted =>
      have bound := (List.getElem?_eq_some_iff.mp there).1
      exact ⟨r, (List.getElem?_append_left bound).trans there, rfl⟩
  | refused | admitted | begun | queued | emitted | moved | concluded | finished | gaveUp =>
      have apart := runs_of_advance h fun same => other (congrArg Action.advance same)
      exact ⟨r, apart.trans there, rfl⟩
  | read atPlace | dropped atPlace => exact exists_stage_of_set there atPlace rfl rfl
  | emittedOutside x atPlace =>
      exact exists_stage_of_set there atPlace (publish_runs ..) (Run.publish_stage ..)

lemma turnAway_run (there : e.runs[id]? = some r) :
    (e.turnAway id r).runs[id]? = some { r with
      queue := r.offered e.config.capacity (.error cancelledEarly false)
      state := .canceled
      stage := .finished } := by
  have bound := (List.getElem?_eq_some_iff.mp there).1
  simp [turnAway, Run.deliver_fst, bound]

/-- An invocation whose caller has cancelled is turned away by its next step. -/
lemma advanceRun_of_cancelled (entering : r.stage.isEntering = true)
    (cancelled : e.isCancelled r.caller = true) :
    e.advanceRun id r = some (e.turnAway id r) := by
  rw [advanceRun_of_entering entering, askForSlot, if_pos cancelled]

lemma begin_run (there : e.runs[id]? = some r) :
    (e.begin id r).runs[id]? = some { r with
      queue := r.offered e.config.capacity (.start r.tool r.requestId r.args)
      state := .running
      stage := .active r.body
      emitting := true
      started := e.now
      deadline := Duration.deadlineAfter e.now e.config.timeout } := by
  have bound := (List.getElem?_eq_some_iff.mp there).1
  simp [begin, Run.deliver_fst, bound]

/-! ### Slots in time -/

/-- Whether there is a slot for an invocation that has none: one that has been given to
it, or a free one. -/
def Offers (e : Engine) (id : ℕ) : Prop :=
  id ∈ e.granted ∨ 0 < e.free

/-- Whether an action is the step of an invocation to a slot that there is for it, its
caller not having cancelled. -/
def Obtains (e : Engine) (a : Action) (id : ℕ) : Prop :=
  a = .advance id ∧ ∃ r, e.runs[id]? = some r ∧ r.stage.isEntering = true ∧
    e.isCancelled r.caller = false ∧ e.Offers id

/-- Who gets past the line without being over has obtained a slot. -/
lemma obtains_of_left (h : e.act a = some e') (there : e.runs[id]? = some r)
    (entering : r.stage.isEntering = true) (there' : e'.runs[id]? = some r')
    (left : r'.stage.isEntering = false) (going : r'.stage ≠ .finished) : e.Obtains a id := by
  obtain rfl : a = .advance id := by
    by_contra other
    obtain ⟨q, atPlace, same⟩ := act_stage_of_other h there other
    obtain rfl := Option.some.inj (atPlace.symm.trans there')
    simp [same, entering] at left
  have asked : e.askForSlot id r = some e' := by
    simpa [act, advance, there, advanceRun_of_entering entering] using h
  refine ⟨rfl, r, there, entering, ?_⟩
  rw [askForSlot] at asked
  split_ifs at asked with cancelled granted listed free
  · obtain rfl := Option.some.inj asked
    obtain rfl := Option.some.inj ((turnAway_run there).symm.trans there')
    exact absurd rfl going
  · exact ⟨by simpa using cancelled, .inl granted⟩
  · exact ⟨by simpa using cancelled, .inr free⟩
  · obtain rfl := Option.some.inj asked
    have bound := (List.getElem?_eq_some_iff.mp there).1
    rw [setRun_runs, List.getElem?_set_self bound] at there'
    obtain rfl := Option.some.inj there'
    cases left

/-- Whose handler comes to be at work has obtained a slot. -/
lemma obtains_of_isHandling (h : e.act a = some e') (there' : e'.runs[id]? = some r')
    (handling : r'.stage.isHandling = true)
    (idle : ∀ r, e.runs[id]? = some r → r.stage.isHandling = false) : e.Obtains a id := by
  cases there : e.runs[id]? with
  | none =>
      obtain ⟨-, _, _, _, _, _, rfl⟩ := act_new h there there'
      cases handling
  | some r =>
      have idle := idle r there
      obtain ⟨q, atPlace, ⟨rfl, -⟩ | change⟩ := act_run h there
      · obtain rfl := Option.some.inj (atPlace.symm.trans there')
        simp [handling] at idle
      obtain rfl := Option.some.inj (atPlace.symm.trans there')
      refine obtains_of_left h there (change.isEntering_of_isHandling handling idle) there' ?_ ?_
      · exact Bool.eq_false_iff.mpr fun still =>
          absurd handling (by simp [Stage.not_isHandling_of_isEntering still])
      · intro ended
        simp [ended, Stage.isHandling] at handling

/-- **Who finds a slot in time is admitted by its next step, and its handler starts.** -/
lemma Balanced.advance_of_offers (h : e.Balanced) (there : e.runs[id]? = some r)
    (entering : r.stage.isEntering = true) (wanted : e.isCancelled r.caller = false)
    (offers : e.Offers id) :
    ∃ e' r', e.advance id = some e' ∧ e'.runs[id]? = some r' ∧ r'.stage = .active r.body ∧
      r'.state = .running := by
  simp only [advance, there, advanceRun_of_entering entering, askForSlot, wanted]
  by_cases granted : id ∈ e.granted
  · exact ⟨{ e with granted := e.granted.erase id }.begin id r, _, by simp [granted],
      begin_run there, rfl, rfl⟩
  · have free : 0 < e.free := offers.resolve_left granted
    have unlisted : id ∉ e.line := by simp [h.eager free]
    exact ⟨{ e with free := e.free - 1 }.begin id r, _, by simp [granted, unlisted, free],
      begin_run there, rfl, rfl⟩

lemma holds_iff : e.holds id = true ↔ ∃ r, e.runs[id]? = some r ∧ r.stage.standing = .inside := by
  cases there : e.runs[id]? <;> simp [holds, there, Run.holdsSlot_eq]

/-- Who had no slot and has one after an action has obtained it. -/
lemma obtains_of_holds (h : e.act a = some e') (unheld : e.holds id = false)
    (held : e'.holds id = true) : e.Obtains a id := by
  obtain ⟨r', there', inside⟩ := holds_iff.mp held
  cases there : e.runs[id]? with
  | none =>
      obtain ⟨-, _, _, _, _, _, rfl⟩ := act_new h there there'
      cases inside
  | some r =>
      have outside : r.stage.standing ≠ .inside := fun before => by
        simp [holds_iff.mpr ⟨r, there, before⟩] at unheld
      have entering : r.stage.isEntering = true := by
        -- who was past the line before can only have got further
        have le : r.stage.standing.rank ≤ r'.stage.standing.rank := by
          simpa [standing, standings, there, there'] using act_rank h id
        rw [inside] at le
        cases stage : r.stage <;> simp_all [Stage.standing, Standing.rank, Stage.isEntering]
      refine obtains_of_left h there entering there' ?_ fun ended => ?_
      · cases stage : r'.stage <;> simp_all [Stage.standing, Stage.isEntering]
      · simp [ended, Stage.standing] at inside

/-- **Slots are got exactly by these steps.** -/
lemma Balanced.admits_iff (h : e.Balanced) (a : Action) (id : ℕ) :
    e.admits a id = true ↔ e.Obtains a id := by
  simp only [admits, Bool.and_eq_true, Bool.not_eq_true']
  constructor
  · rintro ⟨unheld, held⟩
    cases happens : e.act a with
    | none => simp [after, happens, unheld] at held
    | some e' =>
        rw [after, happens] at held
        exact obtains_of_holds happens unheld held
  · rintro ⟨rfl, r, there, entering, wanted, offers⟩
    obtain ⟨e', r', happens, there', stage, -⟩ := h.advance_of_offers there entering wanted offers
    refine ⟨Bool.eq_false_iff.mpr fun held => ?_, ?_⟩
    · obtain ⟨q, atPlace, inside⟩ := holds_iff.mp held
      obtain rfl := Option.some.inj (atPlace.symm.trans there)
      rcases Stage.standing_of_isEntering entering with s | s <;> simp [s] at inside
    · rw [after, act, happens]
      exact holds_iff.mpr ⟨r', there', by rw [stage]; rfl⟩

end Engine

/-! ### Handlers that are called -/

/-- Whether the handler of an invocation has been called: whether it is at work now or
was so before. -/
def Called (id : ℕ) (t : Timeline) : Prop :=
  ∃ e ∈ t.past.map (·.1) ++ [t.now], ∃ r, e.runs[id]? = some r ∧ r.stage.isHandling = true

lemma called_next (id : ℕ) (t : Timeline) (a : Action) (e' : Engine) :
    Called id ⟨e', t.past ++ [(t.now, a)]⟩ ↔
      Called id t ∨ ∃ r, e'.runs[id]? = some r ∧ r.stage.isHandling = true := by
  simp [Called, or_and_right, exists_or, or_assoc]

/-- **A handler has been called exactly if its invocation has obtained a slot in time.** -/
theorem called_iff (config : ExecutorConfig) (acts : List Action) (id : ℕ) :
    let t := Timeline.run (.new config) acts
    Called id t ↔ ∃ m ∈ t.past, m.1.Obtains m.2 id := by
  refine Timeline.run_invariant (P := fun t => Called id t ↔ ∃ m ∈ t.past, m.1.Obtains m.2 id)
    ?_ ?_ acts
  · simp [Called, Engine.new]
  intro acts a e' ih happens
  rw [called_next, ih]
  simp only [List.mem_append, List.mem_singleton, or_and_right, exists_or, exists_eq_left]
  refine or_congr_right' fun uncalled => ?_
  constructor
  · rintro ⟨r', there', handling⟩
    refine Engine.obtains_of_isHandling happens there' handling fun r there => ?_
    by_contra atWork
    refine uncalled (ih.mp ⟨_, List.mem_append_right _ (List.mem_singleton_self _), r, there, ?_⟩)
    simpa using atWork
  · rintro ⟨rfl, r, there, entering, wanted, offers⟩
    obtain ⟨e'', r', advanced, there', stage, -⟩ :=
      (balanced_run config acts).advance_of_offers there entering wanted offers
    obtain rfl : e'' = e' := Option.some.inj (advanced.symm.trans happens)
    exact ⟨r', there', by rw [stage]; rfl⟩

/-! ### Invocations that are cancelled before -/

lemma Run.isFinished_of_stage {r : Run} (ended : r.stage = .finished) : r.isFinished = true := by
  rw [isFinished, ended]

lemma Run.isFinished_of_isEntering {r : Run} (entering : r.stage.isEntering = true) :
    r.isFinished = false := by
  cases stage : r.stage <;> simp_all [isFinished, Stage.isEntering]

section Changes

variable {e : Engine} {es : List Event} {r r' : Run} {reading : Option Engine.Reading}

/-- What becomes of an invocation that has no slot: it stays without one and nothing is to
be read of it, or it is turned away with an error, or it begins with its start. -/
lemma Run.Change.of_entering (change : r.Change e reading r') (orderly : r.Orderly es)
    (entering : r.stage.isEntering = true) :
    (r'.stage.isEntering = true ∧ r'.state = r.state ∧ (r'.reading = true →
      es ++ (reading.bind Engine.Reading.event?).toList ++ r'.queue = []))
    ∨ (e.isCancelled r.caller = true ∧ r'.stage = .finished ∧ r'.state = .canceled ∧
      (r'.reading = true → es ++ (reading.bind Engine.Reading.event?).toList ++ r'.queue
        = [.error Engine.cancelledEarly false]))
    ∨ (e.isCancelled r.caller = false ∧ r'.stage.isHandling = true ∧ (r'.reading = true →
      es ++ (reading.bind Engine.Reading.event?).toList ++ r'.queue
        = [.start r.tool r.requestId r.args])) := by
  have unread := orderly.unread entering
  have silent : r.stage.isHandling = false := Stage.not_isHandling_of_isEntering entering
  cases change with
  | refused _ cancelled =>
      refine .inr (.inl ⟨cancelled, rfl, rfl, fun there => ?_⟩)
      obtain ⟨rfl, empty⟩ := unread there
      exact offered_of_empty e.config _ there empty
  | begun _ wanted =>
      refine .inr (.inr ⟨wanted, rfl, fun there => ?_⟩)
      obtain ⟨rfl, empty⟩ := unread there
      exact offered_of_empty e.config _ there empty
  | queued => exact .inl ⟨rfl, rfl, fun there => by simpa using unread there⟩
  | emitted active | concluded active => simp [active, Stage.isEntering] at entering
  | emittedOutside x =>
      -- nobody emits through an emitter that is not open
      rw [publish_of_closed (orderly.emitting.trans silent)]
      exact .inl ⟨entering, rfl, fun there => by simpa using unread there⟩
  | moved follows => simp [follows.isHandling.1] at silent
  | finished delivering => simp [delivering, Stage.isEntering] at entering
  | @read event rest queue =>
      refine .inl ⟨entering, rfl, fun there => ?_⟩
      simp [queue] at unread
      simp [unread] at there
  | foundNothing empty =>
      refine .inl ⟨entering, rfl, fun there => ?_⟩
      rw [events_nothing]
      simpa using unread there
  | dropped => exact .inl ⟨entering, rfl, fun there => by cases there⟩

/-- What becomes of an invocation whose handler has ended, or that was turned away: it stays
at its stage and nothing more is to be read of it, or its last event is settled. -/
lemma Run.Change.of_isPast (change : r.Change e reading r') (orderly : r.Orderly es)
    (past : r.stage.isPast = true) :
    (r'.stage = r.stage ∧ r'.state = r.state ∧ (r'.reading = true → r.reading = true ∧
      es ++ (reading.bind Engine.Reading.event?).toList ++ r'.queue = es ++ r.queue ∧
      r'.queue.length ≤ r.queue.length))
    ∨ ∃ last giveUp, r.stage = .delivering last giveUp ∧
      r' = { r with queue := r.offered e.config.capacity last, stage := .finished } := by
  cases change with
  | refused entering | begun entering | queued entering =>
      cases stage : r.stage <;> simp_all [Stage.isPast, Stage.isEntering]
  | emitted active | concluded active => simp [active, Stage.isPast] at past
  | emittedOutside x =>
      rw [events_silent, publish_of_closed (orderly.closed past)]
      exact .inl ⟨rfl, rfl, fun there => ⟨there, rfl, le_rfl⟩⟩
  | moved follows => simpa [Stage.not_isHandling_of_isPast past] using follows.isHandling.1
  | finished delivering => exact .inr ⟨_, _, delivering, rfl⟩
  | @read event rest queue =>
      exact .inl ⟨rfl, rfl, fun there => ⟨there, by simp [queue, Engine.Reading.event?],
        by simp [queue]⟩⟩
  | foundNothing empty =>
      rw [events_nothing]
      exact .inl ⟨rfl, rfl, fun there => ⟨there, rfl, le_rfl⟩⟩
  | dropped => exact .inl ⟨rfl, rfl, fun there => by cases there⟩

/-- What becomes of an invocation that is over: it stays so, and so does what is to be
read of it. -/
lemma Run.Change.of_finished (change : r.Change e reading r') (orderly : r.Orderly es)
    (ended : r.stage = .finished) :
    r'.stage = .finished ∧ r'.state = r.state ∧ (r'.reading = true → r.reading = true ∧
      es ++ (reading.bind Engine.Reading.event?).toList ++ r'.queue = es ++ r.queue) := by
  rcases change.of_isPast orderly (by rw [ended]; rfl) with ⟨stage, state, kept⟩ |
    ⟨last, giveUp, delivering, -⟩
  · exact ⟨stage.trans ended, state, fun there => ⟨(kept there).1, (kept there).2.1⟩⟩
  · simp [ended] at delivering

end Changes

/-- An invocation whose caller has cancelled before it had a slot, and what has been seen
of it up to now: no event and the first state, and once it is over an error and the state
that goes with it. -/
structure Unwanted (id : ℕ) (t : Timeline) (r : Run) : Prop where
  barred : r.Barred t.now
  state : r.state = if r.isFinished then .canceled else .init
  told : r.reading = true → received id t.past ++ r.queue
    = if r.isFinished then [.error Engine.cancelledEarly false] else []
  shows : ∃ n m, shown id t = List.replicate n .init ++ List.replicate m .canceled ∧
    (r.isFinished = false → m = 0)

/-- An invocation that still shows the first state has shown no other. -/
lemma Shown.eq_replicate {id : ℕ} {t : Timeline} (h : Shown id t) {r : Run}
    (there : t.now.runs[id]? = some r) (init : r.state = .init) :
    ∃ n, shown id t = List.replicate n .init := by
  have back : Trans (fun s s' : RunState => s' = .init → s = .init)
      (fun s s' : RunState => s' = .init → s = .init)
      (fun s s' : RunState => s' = .init → s = .init) :=
    ⟨fun first second init => first (second init)⟩
  have pairs : (shown id t).Pairwise fun s s' => s' = .init → s = .init := by
    refine List.IsChain.pairwise (h.moves.imp fun s s' move first => ?_)
    rcases move with same | next
    · exact same ▸ first
    · cases next <;> cases first
  have last := h.last
  rw [there, Option.map_some, init] at last
  obtain ⟨before, split⟩ := List.getLast?_eq_some_iff.mp last
  rw [split] at pairs ⊢
  refine ⟨before.length + 1, ?_⟩
  rw [List.replicate_succ']
  congr 1
  exact List.eq_replicate_iff.mpr ⟨rfl, fun s hs =>
    (List.pairwise_append.mp pairs).2.2 s hs .init (List.mem_singleton_self _) rfl⟩

/-- An invocation is unwanted as soon as its caller cancels while it has no slot. -/
lemma unwanted_of_cancelled (config : ExecutorConfig) (acts : List Action) {id : ℕ} {r : Run}
    (there : (Timeline.run (.new config) acts).now.runs[id]? = some r)
    (entering : r.stage.isEntering = true)
    (cancelled : (Timeline.run (.new config) acts).now.isCancelled r.caller = true) :
    Unwanted id (Timeline.run (.new config) acts) r := by
  have unfinished := Run.isFinished_of_isEntering entering
  have init : r.state = .init :=
    (Stage.shows_of_isEntering entering).mp (telling_run config acts there).shows
  refine ⟨.inr ⟨entering, cancelled⟩, by simp [unfinished, init], fun reading => ?_, ?_⟩
  · obtain ⟨unread, empty⟩ := (orderly_run config acts there).unread entering reading
    simp [unread, empty, unfinished]
  · obtain ⟨n, shows⟩ := (shown_run config acts id).eq_replicate there init
    exact ⟨n, 0, by simpa using shows, fun _ => rfl⟩

/-- **Who is unwanted stays so**, whatever happens. -/
lemma Unwanted.next {id : ℕ} {t : Timeline} {r : Run} (h : Unwanted id t r)
    (orderly : r.Orderly (received id t.past)) (there : t.now.runs[id]? = some r) {a : Action}
    {e' : Engine} (happens : t.now.act a = some e') :
    ∃ r', e'.runs[id]? = some r' ∧ Unwanted id ⟨e', t.past ++ [(t.now, a)]⟩ r' := by
  have fired := (Engine.act_step happens).fired
  have state := h.state
  have told := h.told
  obtain ⟨r', there', barred, state, told, back⟩ : ∃ r', e'.runs[id]? = some r' ∧ r'.Barred e' ∧
      (r'.state = if r'.isFinished then .canceled else .init) ∧
      (r'.reading = true → received id (t.past ++ [(t.now, a)]) ++ r'.queue
        = if r'.isFinished then [.error Engine.cancelledEarly false] else []) ∧
      (r'.isFinished = false → r.isFinished = false) := by
    rw [received_concat]
    obtain ⟨r', there', ⟨rfl, unread⟩ | change⟩ := Engine.act_run happens there
    · refine ⟨r', there', h.barred.imp_right fun waits =>
        ⟨waits.1, Token.isCancelled_mono fired waits.2⟩, state, fun reading => ?_, fun ended => ended⟩
      rw [unread, events_silent]
      exact told reading
    · refine ⟨r', there', h.barred.change change fired, ?_⟩
      rcases h.barred with ended | ⟨waits, cancelled⟩
      · obtain ⟨ended', same, kept⟩ := change.of_finished orderly ended
        rw [Run.isFinished_of_stage ended] at state told
        rw [Run.isFinished_of_stage ended']
        exact ⟨same.trans state, fun reading => (kept reading).2.trans (told (kept reading).1),
          fun never => by cases never⟩
      · have unfinished := Run.isFinished_of_isEntering waits
        rw [unfinished] at state
        rcases change.of_entering orderly waits with ⟨still, same, unread⟩ |
          ⟨-, ended', refused, told⟩ | ⟨wanted, -⟩
        · rw [Run.isFinished_of_isEntering still]
          exact ⟨same.trans state, unread, fun _ => unfinished⟩
        · rw [Run.isFinished_of_stage ended']
          exact ⟨refused, told, fun _ => unfinished⟩
        · simp [wanted] at cancelled
  obtain ⟨n, m, shows, never⟩ := h.shows
  refine ⟨r', there', barred, state, told, ?_⟩
  rw [shown_next, there', shows, Option.map_some, Option.toList_some, state]
  cases ended : r'.isFinished with
  | true =>
      refine ⟨n, m + 1, ?_, fun unended => by cases unended⟩
      rw [if_pos rfl, List.append_assoc, List.replicate_succ']
  | false =>
      refine ⟨n + 1, 0, ?_, fun _ => rfl⟩
      rw [never (back ended), List.replicate_succ']
      simp

/-- **At any later time an unwanted invocation is unwanted.** -/
theorem unwanted_run (config : ExecutorConfig) (acts more : List Action) {id : ℕ} {r : Run}
    (there : (Timeline.run (.new config) acts).now.runs[id]? = some r)
    (entering : r.stage.isEntering = true)
    (cancelled : (Timeline.run (.new config) acts).now.isCancelled r.caller = true) :
    ∃ r', (Timeline.run (.new config) (acts ++ more)).now.runs[id]? = some r' ∧
      Unwanted id (Timeline.run (.new config) (acts ++ more)) r' := by
  refine Timeline.run_later (P := fun t => ∃ r', t.now.runs[id]? = some r' ∧ Unwanted id t r')
    ⟨r, there, unwanted_of_cancelled config acts there entering cancelled⟩ ?_ more
  rintro acts a e' ⟨r, there, unwanted⟩ happens
  exact unwanted.next (orderly_run config acts there) there happens

/-- How an unwanted invocation and its stream end: when all have to wait it is over. -/
lemma Unwanted.outcome {id : ℕ} {t : Timeline} {r : Run} (h : Unwanted id t r)
    (there : t.now.runs[id]? = some r) :
    (r.stage.isEntering = true ∧ r.state = .init
        ∧ (r.reading = true → received id t.past = [] ∧ r.queue = [])
      ∨ r.stage = .finished ∧ r.state = .canceled
        ∧ (r.reading = true → received id t.past ++ r.queue
            = [.error Engine.cancelledEarly false])
        ∧ (r.queue = [] → (t.now.take id).1 = .ended) ∧ t.now.advance id = none)
    ∧ (t.now.canStep = false → r.stage = .finished) := by
  have state := h.state
  have told := h.told
  rcases h.barred with ended | ⟨waits, cancelled⟩
  · have finished := Run.isFinished_of_stage ended
    rw [if_pos finished] at state told
    refine ⟨.inr ⟨ended, state, told, fun empty => ?_, ?_⟩, fun _ => ended⟩
    · simp [Engine.take, there, empty, finished]
    · simp [Engine.advance, there, Engine.advanceRun, ended]
  · rw [Run.isFinished_of_isEntering waits, if_neg Bool.false_ne_true] at state told
    refine ⟨.inl ⟨waits, state, fun reading => List.append_eq_nil_iff.mp (told reading)⟩, ?_⟩
    intro quiet
    have stuck := Engine.advanceRun_of_quiet quiet there
    rw [Engine.advanceRun_of_cancelled waits cancelled] at stuck
    cases stuck

/-- An invocation whose handler has been called has shown that it runs. -/
lemma running_of_called (config : ExecutorConfig) (acts : List Action) (id : ℕ) :
    let t := Timeline.run (.new config) acts
    Called id t → .running ∈ shown id t := by
  refine Timeline.run_invariant (P := fun t => Called id t → .running ∈ shown id t) ?_ ?_ acts
  · simp [Called, Engine.new]
  intro acts a e' ih happens called
  rw [shown_next]
  rcases (called_next ..).mp called with before | ⟨r', there', handling⟩
  · exact List.mem_append_left _ (ih before)
  · have now : (Timeline.run (.new config) (acts ++ [a])).now = e' := by
      rw [Timeline.run_concat, Timeline.next_of_some happens]
    have shows := (telling_run config (acts ++ [a]) (now ▸ there')).shows
    rw [Stage.shows_of_isHandling handling] at shows
    simp [there', shows]

namespace Engine

/-! ### The slots of others -/

section Others

variable {e : Engine} {id other : ℕ}

/-- Whoever leaves the line takes no slot away from another one. -/
lemma Offers.leaveLine (offers : e.Offers other) (apart : other ≠ id) :
    (e.leaveLine id).Offers other := by
  simp only [Engine.leaveLine, release]
  split_ifs with granted
  · split
    · exact .inr (Nat.succ_pos _)
    · refine offers.imp (fun given => List.mem_append_left _ ?_) fun free => free
      exact (List.mem_erase_of_ne apart).mpr given
  · exact offers

/-- **A slot that is not used passes on** to the first in line, and to whoever comes if
nobody is in line. -/
lemma Balanced.offers_leaveLine (h : e.Balanced) (offers : e.Offers id)
    (next : e.line.head? = some other ∨ e.line = []) : (e.leaveLine id).Offers other := by
  simp only [Engine.leaveLine, release]
  split_ifs with granted
  · have unlisted : id ∉ e.line := (List.nodup_append'.mp h.once).2.2 granted
    rw [List.erase_of_not_mem unlisted]
    split
    · exact .inr (Nat.succ_pos _)
    · next first rest line =>
        rw [line] at next
        obtain rfl : first = other := by simpa using next
        exact .inl (List.mem_append_right _ (List.mem_singleton_self _))
  · exact .inr (offers.resolve_left granted)

end Others

end Engine

/-- **Handlers are called exactly if a slot comes before the cancellation.** At any time,
whatever has been submitted, cancelled and read, and whatever the handlers do:

* the handler of an invocation has been called exactly if the invocation has taken a step
  to a slot that there was for it while its caller had not cancelled, and slots are got
  by these steps only; one that finds a slot in time gets it and calls its handler;
* an invocation whose caller has cancelled before that is over with its next step, which
  adds one to the cancellations and changes no other count;
* a slot that there was for it goes to the first in line, and to whoever comes if nobody
  is in line, and no other invocation loses one;
* its handler is never called, it shows the first state up to then and the cancelled one
  from then on, and its reader gets a single error that is not to be retried, and the end. -/
theorem called_iff_slot_in_time (config : ExecutorConfig) (acts : List Action) (id : ℕ) :
    let t := Timeline.run (.new config) acts
    (Called id t ↔ ∃ m ∈ t.past, m.1.Obtains m.2 id)
    ∧ (∀ a, t.now.admits a id = true ↔ t.now.Obtains a id)
    ∧ ∀ r, t.now.runs[id]? = some r → r.stage.isEntering = true →
      (t.now.isCancelled r.caller = false → t.now.Offers id →
        ∃ e' r', t.now.advance id = some e' ∧ e'.runs[id]? = some r' ∧
          r'.stage = .active r.body ∧ r'.state = .running)
      ∧ (t.now.isCancelled r.caller = true →
        (∃ e', t.now.advance id = some e'
          ∧ e'.counters =
            { t.now.counters with cancellations := t.now.counters.cancellations + 1 }
          ∧ e'.available = t.now.available ∧ id ∉ e'.asking
          ∧ (t.now.Offers id → ∀ next, t.now.line.head? = some next ∨ t.now.line = [] →
              e'.Offers next)
          ∧ ∀ other, other ≠ id → t.now.Offers other → e'.Offers other)
        ∧ ∀ more,
          let t' := Timeline.run (.new config) (acts ++ more)
          ¬ Called id t'
          ∧ (∃ n m, shown id t' = List.replicate n .init ++ List.replicate m .canceled)
          ∧ ∃ r', t'.now.runs[id]? = some r'
            ∧ (r'.stage.isEntering = true ∧ r'.state = .init
                ∧ (r'.reading = true → received id t'.past = [] ∧ r'.queue = [])
              ∨ r'.stage = .finished ∧ r'.state = .canceled
                ∧ (r'.reading = true → received id t'.past ++ r'.queue
                    = [.error Engine.cancelledEarly false])
                ∧ (r'.queue = [] → (t'.now.take id).1 = .ended)
                ∧ t'.now.advance id = none)
            ∧ (t'.now.canStep = false → r'.stage = .finished)) := by
  intro t
  have balanced : t.now.Balanced := balanced_run config acts
  refine ⟨called_iff config acts id, fun a => balanced.admits_iff a id, ?_⟩
  intro r there entering
  refine ⟨balanced.advance_of_offers there entering, fun cancelled => ⟨?_, fun more => ?_⟩⟩
  · have asking : (t.now.turnAway id r).asking = t.now.asking.erase id :=
      Engine.leaveLine_asking balanced.once
    refine ⟨t.now.turnAway id r, ?_, by simp [Engine.turnAway], Engine.leaveLine_available, ?_,
      fun offers next => balanced.offers_leaveLine offers, fun other apart offers =>
        offers.leaveLine apart⟩
    · rw [Engine.advance, there]
      exact Engine.advanceRun_of_cancelled entering cancelled
    · rw [asking]
      exact balanced.once.not_mem_erase
  · intro t'
    obtain ⟨r', there', unwanted⟩ := unwanted_run config acts more there entering cancelled
    obtain ⟨n, m, shows, -⟩ := unwanted.shows
    refine ⟨fun called => ?_, ⟨n, m, shows⟩, r', there', unwanted.outcome there'⟩
    have ran := running_of_called config (acts ++ more) id called
    rw [shows] at ran
    simp [List.mem_replicate] at ran

/-- An invocation at work and two in line. The first in line is given the slot that comes
back, and its caller cancels at the same moment. -/
def raced : List Action :=
  [.submit "t" "first" .null (.named "first") fun _ => .done (.ok .null),
    .submit "t" "second" .null (.named "second") fun _ => .done (.ok .null),
    .submit "t" "third" .null (.named "third") fun _ => .done (.ok .null),
    .advance 0, .advance 1, .advance 2, .advance 0, .advance 0, .cancel (.named "second")]

theorem called_iff_slot_in_time_raced :
    let t := Timeline.run (.new { maxConcurrent := 1 }) raced
    let t' := Timeline.run (.new { maxConcurrent := 1 }) (raced ++ [.advance 1, .advance 2])
    t.now.Offers 1 ∧ ¬ t.now.Offers 2
      ∧ (∃ e', t.now.advance 1 = some e' ∧ e'.Offers 2)
      ∧ ¬ Called 1 t' ∧ ∃ m ∈ t'.past, m.1.Obtains m.2 2 := by
  intro t t'
  have slots : t.now.granted = [1] ∧ t.now.free = 0 := ⟨rfl, rfl⟩
  have offers : t.now.Offers 1 := by simp [Engine.Offers, slots]
  have none : ¬ t.now.Offers 2 := by simp [Engine.Offers, slots]
  obtain ⟨-, -, fates⟩ := called_iff_slot_in_time { maxConcurrent := 1 } raced 1
  obtain ⟨-, turnedAway⟩ := fates _ rfl rfl
  obtain ⟨⟨e', advances, -, -, -, passes, -⟩, later⟩ := turnedAway rfl
  obtain ⟨obtained, -⟩ :=
    called_iff_slot_in_time { maxConcurrent := 1 } (raced ++ [.advance 1, .advance 2]) 2
  refine ⟨offers, none, ⟨e', advances, passes offers 2 (.inl rfl)⟩, (later _).1,
    obtained.mp ⟨_, List.mem_of_getElem? (i := 11) rfl, _, rfl, rfl⟩⟩

end ToolServer.Execution
