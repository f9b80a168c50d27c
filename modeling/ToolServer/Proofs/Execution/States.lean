/-
The states that invocations show:

* `Stage.Shows`: the states that go with a stage;
* `Run.Telling`: the invariant of an invocation. Its state goes with its stage, and
  with the last event once that is to be seen;
* `RunState.Next`: the moves from one state to another;
* `Telling.change`, `telling_run`: no change breaks the invariant or makes any other
  move, so that the invariant holds at any time;
* `shown`, `shown_run`: the states that an invocation has shown are a chain of moves.

A state is shown before the last event is sent, and whatever becomes of that event.
-/
import ToolServer.Proofs.Execution.History

namespace ToolServer.Execution

/-! ### States -/

/-- The states that an invocation at some stage may show. -/
def Stage.Shows (s : RunState) : Stage → Prop
  | .arriving | .waiting => s = .init
  | .active _ | .asleep .. => s = .running
  | .delivering last _ =>
    s.isTerminal = true ∧ last.isTerminal = true ∧ (s = .done ↔ last.kind = .done)
  | .finished => s.isTerminal = true

lemma Stage.shows_of_isEntering {s : RunState} {stage : Stage}
    (entering : stage.isEntering = true) : stage.Shows s ↔ s = .init := by
  cases stage <;> simp_all [isEntering, Shows]

lemma Stage.shows_of_isHandling {s : RunState} {stage : Stage}
    (handling : stage.isHandling = true) : stage.Shows s ↔ s = .running := by
  cases stage <;> simp_all [isHandling, Shows]

/-- The moves from one state to another. -/
inductive RunState.Next : RunState → RunState → Prop
  | started : Next .init .running
  | refused : Next .init .canceled
  | succeeded : Next .running .done
  | failed : Next .running .error
  | cancelled : Next .running .canceled

lemma RunState.Next.of_running {s : RunState} (h : s.isTerminal = true) :
    RunState.Next .running s := by
  cases s with
  | done => exact .succeeded
  | error => exact .failed
  | canceled => exact .cancelled
  | init | running => cases h

namespace Run

/-- An invocation whose state tells how it ends, `es` being the events that its
reader has got. -/
structure Telling (es : List Event) (r : Run) : Prop where
  shows : r.stage.Shows r.state
  told : ∀ event ∈ es ++ r.queue, event.isTerminal = true →
    r.state.isTerminal = true ∧ (r.state = .done ↔ event.kind = .done)

lemma Telling.fresh (e : Engine) (tool requestId : String) (args : Json) (caller : Token)
    (handler : Handler) : (e.fresh tool requestId args caller handler).Telling [] :=
  ⟨rfl, by simp [Engine.fresh]⟩

/-- While an invocation is under way its last event is not yet to be seen. -/
lemma Telling.unended {es : List Event} {r : Run} (h : r.Telling es)
    (live : r.state.isTerminal = false) {event : Event} (there : event ∈ es ++ r.queue) :
    event.isTerminal = false := by
  by_contra terminal
  have ended := (h.told event there (by simpa using terminal)).1
  simp [live] at ended

lemma isTerminal_event (x : Emission) (n : ℕ) : (x.event n).isTerminal = false := by
  cases x <;> rfl

/-- An emission leaves an invocation in its state. -/
lemma publish_state (maxEvents capacity : ℕ) (cancelled : Bool) (x : Emission) (r : Run) :
    (r.publish maxEvents capacity cancelled x).1.state = r.state := by
  obtain ⟨_, _, _, eq⟩ := publish_fst maxEvents capacity cancelled x r
  rw [eq]

/-- The state that an outcome leads to is one of an ended invocation, and goes with
the last event. -/
lemma conclude_shows (timeout now : ℕ) (cancelled : Bool) (o : Outcome) (r : Run) (giveUp : ℕ) :
    (Stage.delivering (r.conclude timeout now cancelled o).last giveUp).Shows
      (r.conclude timeout now cancelled o).state := by
  refine ⟨?_, isTerminal_conclude timeout now cancelled o r, ?_⟩
  · cases o with
    | ok v => rfl
    | failed error | panicked message =>
        simp only [conclude]
        split_ifs <;> rfl
  · cases o with
    | ok v => simp [conclude, Event.kind]
    | failed error | panicked message =>
        simp only [conclude]
        split_ifs <;> simp [Event.kind]

/-- What an emission adds to a queue is no last event. -/
lemma Telling.publish {es : List Event} {r : Run} (h : r.Telling es) (maxEvents capacity : ℕ)
    (cancelled : Bool) (x : Emission) :
    (r.publish maxEvents capacity cancelled x).1.Telling es := by
  refine ⟨?_, ?_⟩
  · rw [publish_stage, publish_state]
    exact h.shows
  · rcases publish_cases maxEvents capacity cancelled x r with same | ⟨-, lost⟩ | ⟨-, -, queued⟩
    · rw [same]
      exact h.told
    · rw [lost]
      exact h.told
    · rw [queued]
      intro event there terminal
      rw [← List.append_assoc] at there
      rcases List.mem_append.mp there with before | now
      · exact h.told event before terminal
      · rw [List.mem_singleton.mp now, isTerminal_event] at terminal
        cases terminal

/-- The first or the last event of an invocation: the state has to go with it, and
with what was to be seen before. -/
lemma Telling.offer {es : List Event} {r r' : Run} {capacity : ℕ} {event : Event}
    (queue : r'.queue = r.offered capacity event) (shows : r'.stage.Shows r'.state)
    (before : ∀ other ∈ es ++ r.queue, other.isTerminal = true →
      r'.state.isTerminal = true ∧ (r'.state = .done ↔ other.kind = .done))
    (now : event.isTerminal = true →
      r'.state.isTerminal = true ∧ (r'.state = .done ↔ event.kind = .done)) :
    r'.Telling es := by
  refine ⟨shows, ?_⟩
  intro other there terminal
  rw [queue] at there
  rcases offered_cases capacity event r with more | same
  · rw [more, ← List.append_assoc] at there
    rcases List.mem_append.mp there with earlier | latest
    · exact before other earlier terminal
    · obtain rfl := List.mem_singleton.mp latest
      exact now terminal
  · exact before other (same ▸ there) terminal

/-- A change of stage and state while no end is to be seen. -/
lemma Telling.goOn {es : List Event} {r r' : Run} (h : r.Telling es)
    (live : r.state.isTerminal = false) (queue : r'.queue = r.queue)
    (shows : r'.stage.Shows r'.state) : r'.Telling es := by
  refine ⟨shows, ?_⟩
  intro event there terminal
  rw [queue] at there
  simp [h.unended live there] at terminal

/-- **Every change keeps the state telling**, and makes at most one move. -/
lemma Telling.change {e : Engine} {es : List Event} {r r' : Run} {reading : Option Engine.Reading}
    (h : r.Telling es) (change : r.Change e reading r') :
    r'.Telling (es ++ (reading.bind Engine.Reading.event?).toList) ∧
      (r'.state = r.state ∨ r.state.Next r'.state) := by
  cases change with
  | refused entering =>
      have init := (Stage.shows_of_isEntering entering).mp h.shows
      rw [events_silent, init]
      refine ⟨.offer rfl rfl ?_ (by simp [RunState.isTerminal, Event.kind]), .inr .refused⟩
      intro other there terminal
      simp [h.unended (by rw [init]; rfl) there] at terminal
  | begun entering =>
      have init := (Stage.shows_of_isEntering entering).mp h.shows
      rw [events_silent, init]
      refine ⟨.offer rfl rfl ?_ (by simp [Event.isTerminal, Event.kind, EventKind.isTerminal]),
        .inr .started⟩
      intro other there terminal
      simp [h.unended (by rw [init]; rfl) there] at terminal
  | queued entering =>
      have init := (Stage.shows_of_isEntering entering).mp h.shows
      rw [events_silent]
      exact ⟨h.goOn (by rw [init]; rfl) rfl init, .inl rfl⟩
  | @emitted x next active =>
      rw [events_silent]
      have running : r.state = .running :=
        (Stage.shows_of_isHandling (by rw [active]; rfl)).mp h.shows
      have kept := h.publish e.config.maxEvents e.config.capacity (e.isCancelled r.scope) x
      have state := publish_state e.config.maxEvents e.config.capacity (e.isCancelled r.scope) x r
      refine ⟨kept.goOn (by rw [state, running]; rfl) rfl (state.trans running), .inl state⟩
  | emittedOutside x =>
      rw [events_silent]
      exact ⟨h.publish _ _ _ x, .inl (publish_state ..)⟩
  | moved follows =>
      rw [events_silent]
      obtain ⟨before, after⟩ := follows.isHandling
      have running := (Stage.shows_of_isHandling before).mp h.shows
      exact ⟨h.goOn (by rw [running]; rfl) rfl ((Stage.shows_of_isHandling after).mpr running),
        .inl rfl⟩
  | @concluded o active =>
      rw [events_silent]
      have running : r.state = .running :=
        (Stage.shows_of_isHandling (by rw [active]; rfl)).mp h.shows
      have shows := conclude_shows e.config.timeout e.now (e.isCancelled r.caller) o r
        (timerAfter e.now e.config.terminalTimeout)
      exact ⟨h.goOn (by rw [running]; rfl) rfl shows, .inr (running ▸ .of_running shows.1)⟩
  | finished delivering =>
      rw [events_silent]
      have shows := h.shows
      rw [delivering] at shows
      exact ⟨.offer rfl shows.1 h.told fun _ => ⟨shows.1, shows.2.2⟩, .inl rfl⟩
  | @read event rest queue =>
      have same : es ++ [event] ++ rest = es ++ r.queue := by simp [queue]
      refine ⟨⟨h.shows, ?_⟩, .inl rfl⟩
      show ∀ other ∈ es ++ [event] ++ rest, _
      rw [same]
      exact h.told
  | foundNothing empty =>
      rw [events_nothing]
      exact ⟨h, .inl rfl⟩
  | dropped =>
      rw [events_silent]
      refine ⟨⟨h.shows, ?_⟩, .inl rfl⟩
      intro event there
      rw [List.append_nil] at there
      exact h.told event (List.mem_append_left _ there)

end Run

/-- **At any time the state of every invocation is telling.** -/
theorem telling_run (config : ExecutorConfig) (acts : List Action) {id : ℕ} {r : Run}
    (hr : (Timeline.run (.new config) acts).now.runs[id]? = some r) :
    r.Telling (received id (Timeline.run (.new config) acts).past) := by
  refine invocation_induct (fun seen r => r.Telling (seen.filterMap Engine.Reading.event?))
    (fun e _ _ _ _ _ => .fresh e _ _ _ _ _) ?_ config acts hr
  intro e r r' reading seen change h
  rw [events_concat]
  exact (h.change change).1

/-! ### The states over time -/

/-- The states that an invocation has shown, one for every moment. -/
def shown (id : ℕ) (t : Timeline) : List RunState :=
  (t.past.map (·.1) ++ [t.now]).filterMap fun e => e.runs[id]?.map Run.state

lemma shown_next (id : ℕ) (t : Timeline) (a : Action) (e' : Engine) :
    shown id ⟨e', t.past ++ [(t.now, a)]⟩
      = shown id t ++ (e'.runs[id]?.map Run.state).toList := by
  simp only [shown, List.map_append, List.filterMap_append, List.map_cons, List.map_nil]
  congr 1

/-- The states of an invocation up to now: a chain of moves from the first state to
the one that it shows. -/
structure Shown (id : ℕ) (t : Timeline) : Prop where
  first : ∀ s ∈ (shown id t).head?, s = .init
  moves : (shown id t).IsChain fun s s' => s' = s ∨ s.Next s'
  last : (shown id t).getLast? = t.now.runs[id]?.map Run.state

/-- An invocation that comes shows its first state, and goes on by a move. -/
lemma Shown.next {id : ℕ} {t : Timeline} {a : Action} {e' : Engine} (h : Shown id t)
    (stays : ∀ r, t.now.runs[id]? = some r → ∃ r', e'.runs[id]? = some r' ∧
      (r'.state = r.state ∨ r.state.Next r'.state))
    (comes : ∀ r', t.now.runs[id]? = none → e'.runs[id]? = some r' → r'.state = .init) :
    Shown id ⟨e', t.past ++ [(t.now, a)]⟩ := by
  have grown := shown_next id t a e'
  have last := h.last
  cases before : t.now.runs[id]? with
  | none =>
      rw [before, Option.map_none, List.getLast?_eq_none_iff] at last
      rw [last, List.nil_append] at grown
      cases there : e'.runs[id]? with
      | none =>
          rw [there] at grown
          refine ⟨?_, ?_, ?_⟩ <;> simp [grown, there]
      | some r' =>
          rw [there] at grown
          refine ⟨?_, ?_, ?_⟩ <;> simp [grown, there, comes r' before there]
  | some r =>
      obtain ⟨r', there, moves⟩ := stays r before
      rw [before, Option.map_some] at last
      rw [there, Option.map_some, Option.toList_some] at grown
      refine ⟨?_, ?_, ?_⟩
      · rw [grown, List.head?_append]
        cases head : (shown id t).head? with
        | none => simp [List.head?_eq_none_iff.mp head] at last
        | some s => simpa using h.first s head
      · rw [grown]
        refine List.isChain_append.mpr ⟨h.moves, List.isChain_singleton _, ?_⟩
        intro s hs s' hs'
        obtain rfl : r.state = s := by simpa [last] using hs
        obtain rfl : r'.state = s' := by simpa using hs'
        exact moves
      · simp [grown, there]

/-- **At any time the states that an invocation has shown are a chain of moves.** -/
theorem shown_run (config : ExecutorConfig) (acts : List Action) (id : ℕ) :
    Shown id (Timeline.run (.new config) acts) := by
  refine Timeline.run_invariant (P := Shown id) ?_ ?_ acts
  · refine ⟨?_, ?_, ?_⟩ <;> simp [shown, Engine.new]
  · intro acts a e' ih h
    refine ih.next ?_ ?_
    · intro r there
      obtain ⟨r', there', ⟨rfl, -⟩ | change⟩ := Engine.act_run h there
      · exact ⟨r', there', .inl rfl⟩
      · exact ⟨r', there', ((telling_run config acts there).change change).2⟩
    · intro r' absent there
      obtain ⟨-, _, _, _, _, _, rfl⟩ := Engine.act_new h absent there
      rfl

/-- A state that is never left is the last one shown. -/
lemma Shown.forever {id : ℕ} {t : Timeline} (h : Shown id t) :
    (shown id t).Pairwise fun s s' => s.isTerminal = true → s' = s := by
  have stays : Trans (fun s s' : RunState => s.isTerminal = true → s' = s)
      (fun s s' => s.isTerminal = true → s' = s) (fun s s' => s.isTerminal = true → s' = s) :=
    ⟨fun {a b c} first second terminal => by
      obtain rfl := first terminal
      exact second terminal⟩
  refine List.IsChain.pairwise (h.moves.imp fun s s' move terminal => ?_)
  rcases move with same | next
  · exact same
  · cases next <;> cases terminal

end ToolServer.Execution
