/-
The events that the reader of an invocation gets:

* `Opening`: a start and pieces of data and progress with numbers in some order;
* `Complete`, `Incipient`: a whole stream, and the beginning of one;
* `Run.InOrder`: the invariant of an invocation. What has been read of it and what
  waits to be read, put together, is as far as its stage says; `Run.Orderly` says
  that its numbers increase besides;
* `Change.inOrder`, `orderly_run`: no change breaks the invariant, so that it holds
  at any time;
* `Run.Final`, `final_run`: a reader that has got to the end stays there;
* `publish_of_isPast`, `take_of_delivering`: emitters that outlive their handler.

Emissions are made at once here: a number and a place in the queue are given out
together. With other emissions in between, the order of numbers is a weaker one.
-/
import ToolServer.Proofs.Execution.Transition

namespace ToolServer.Execution

/-! ### Streams -/

/-- A start, and pieces of data and progress with numbers up to `n`, each of which stands
in the relation `R` to the later ones. -/
def Opening (R : ℕ → ℕ → Prop) (n : ℕ) (es : List Event) : Prop :=
  ∃ tool requestId args pieces, es = .start tool requestId args :: pieces ∧
    ∃ ns : List ℕ, pieces.map Event.sequence? = ns.map some ∧ ns.Pairwise R ∧ ∀ k ∈ ns, k ≤ n

/-- A whole stream of events. -/
inductive Complete (R : ℕ → ℕ → Prop) : List Event → Prop
  /-- A single error. -/
  | refused (message : String) (retryable : Bool) : Complete R [.error message retryable]
  /-- A start, numbered pieces, and an end or an error. -/
  | served {n : ℕ} {es : List Event} {last : Event} (opening : Opening R n es)
      (terminal : last.isTerminal = true) : Complete R (es ++ [last])

/-- The beginning of a stream of events. -/
def Incipient (R : ℕ → ℕ → Prop) (es : List Event) : Prop :=
  ∃ full, Complete R full ∧ es <+: full

/-- The numbers of the pieces among some events. -/
def numbers (es : List Event) : List ℕ :=
  es.filterMap Event.sequence?

lemma numbers_append (es fs : List Event) : numbers (es ++ fs) = numbers es ++ numbers fs :=
  List.filterMap_append

variable {R : ℕ → ℕ → Prop} {n : ℕ} {es : List Event}

lemma Opening.start (n : ℕ) (tool requestId : String) (args : Json) :
    Opening R n [.start tool requestId args] :=
  ⟨tool, requestId, args, [], rfl, [], rfl, .nil, by simp⟩

lemma Opening.mono {m : ℕ} (h : Opening R n es) (le : n ≤ m) : Opening R m es := by
  obtain ⟨tool, requestId, args, pieces, rfl, ns, hns, order, bound⟩ := h
  exact ⟨tool, requestId, args, pieces, rfl, ns, hns, order, fun k hk => (bound k hk).trans le⟩

/-- A start has no number, and every piece has one. -/
lemma numbers_of_pieces {tool requestId : String} {args : Json} {pieces : List Event}
    {ns : List ℕ} (h : pieces.map Event.sequence? = ns.map some) :
    numbers (.start tool requestId args :: pieces) = ns := by
  calc numbers (.start tool requestId args :: pieces)
      = (pieces.map Event.sequence?).filterMap id := by
        rw [List.filterMap_map]
        exact List.filterMap_cons_none rfl
    _ = ns := by rw [h, List.filterMap_map, Function.id_comp, List.filterMap_some]

lemma Opening.le_of_mem (h : Opening R n es) {k : ℕ} (there : k ∈ numbers es) : k ≤ n := by
  obtain ⟨tool, requestId, args, pieces, rfl, ns, hns, -, bound⟩ := h
  exact bound k (numbers_of_pieces hns ▸ there)

/-- A piece goes behind an opening. -/
lemma Opening.concat {m : ℕ} {e : Event} (h : Opening R n es) (number : e.sequence? = some m)
    (le : m ≤ n) (behind : ∀ k ∈ numbers es, R k m) : Opening R n (es ++ [e]) := by
  obtain ⟨tool, requestId, args, pieces, rfl, ns, hns, order, bound⟩ := h
  rw [numbers_of_pieces hns] at behind
  refine ⟨tool, requestId, args, pieces ++ [e], rfl, ns ++ [m], ?_, ?_, ?_⟩
  · rw [List.map_append, List.map_append, hns]
    simp [number]
  · refine List.pairwise_append.mpr ⟨order, List.pairwise_singleton _ _, ?_⟩
    intro k hk l hl
    rw [List.mem_singleton.mp hl]
    exact behind k hk
  · intro k hk
    rcases List.mem_append.mp hk with hk | hk
    · exact bound k hk
    · exact (List.mem_singleton.mp hk).trans_le le

lemma Complete.incipient (h : Complete R es) : Incipient R es :=
  ⟨es, h, List.prefix_rfl⟩

lemma Opening.incipient (h : Opening R n es) : Incipient R es :=
  ⟨es ++ [.error "" false], .served h rfl, List.prefix_append _ _⟩

lemma Incipient.nil : Incipient R [] :=
  ⟨_, .refused "" false, List.nil_prefix⟩

lemma Incipient.of_isPrefix {fs : List Event} (h : Incipient R fs) (le : es <+: fs) :
    Incipient R es := by
  obtain ⟨full, complete, hfs⟩ := h
  exact ⟨full, complete, le.trans hfs⟩

lemma Opening.imp {S : ℕ → ℕ → Prop} (h : Opening R n es) (weak : ∀ k l, R k l → S k l) :
    Opening S n es := by
  obtain ⟨tool, requestId, args, pieces, rfl, ns, hns, order, bound⟩ := h
  exact ⟨tool, requestId, args, pieces, rfl, ns, hns, order.imp (weak _ _), bound⟩

lemma Incipient.imp {S : ℕ → ℕ → Prop} (h : Incipient R es) (weak : ∀ k l, R k l → S k l) :
    Incipient S es := by
  obtain ⟨full, complete, le⟩ := h
  refine ⟨full, ?_, le⟩
  cases complete with
  | refused message retryable => exact .refused message retryable
  | served opening terminal => exact .served (opening.imp weak) terminal

/-! ### The invariant -/

/-- How far the events of an invocation have come at a stage, where `n` is the
number of the last piece. -/
def Stage.Fits (R : ℕ → ℕ → Prop) (n : ℕ) (es : List Event) : Stage → Prop
  | .arriving | .waiting => es = []
  | .active _ | .asleep .. => Opening R n es
  | .delivering last _ => Opening R n es ∧ last.isTerminal = true
  | .finished => Incipient R es

lemma Stage.fits_of_isEntering {s : Stage} (entering : s.isEntering = true) :
    s.Fits R n es ↔ es = [] := by
  cases s <;> simp_all [isEntering, Fits]

lemma Stage.fits_of_isHandling {s : Stage} (handling : s.isHandling = true) :
    s.Fits R n es ↔ Opening R n es := by
  cases s <;> simp_all [isHandling, Fits]

lemma Stage.Fits.incipient {s : Stage} (h : s.Fits R n es) : Incipient R es := by
  cases s with
  | arriving | waiting => exact h ▸ Incipient.nil
  | active | asleep => exact Opening.incipient h
  | delivering => exact h.1.incipient
  | finished => exact h

lemma Stage.not_isHandling_of_isEntering {s : Stage} (entering : s.isEntering = true) :
    s.isHandling = false := by
  cases s <;> simp_all [isEntering, isHandling]

lemma Emission.sequence?_event (x : Emission) (n : Nat) :
    (x.event n).sequence? = some n := by
  cases x <;> rfl

namespace Run

/-- An invocation in good order, `es` being the events that its reader has got and `R` the
order of its numbers: its emitter is open while the handler is at work, and the events fit
the stage. An invocation without a reader gets no further. -/
structure InOrder (R : ℕ → ℕ → Prop) (es : List Event) (r : Run) : Prop where
  emitting : r.emitting = r.stage.isHandling
  fits : r.reading = true → r.stage.Fits R r.sequence (es ++ r.queue)
  gone : r.reading = false → r.queue = [] ∧ Incipient R es

/-- An invocation in good order, whose numbers increase. -/
abbrev Orderly (es : List Event) (r : Run) : Prop :=
  r.InOrder (· < ·) es

variable {r : Run}

lemma InOrder.incipient (h : r.InOrder R es) : Incipient R es := by
  cases reading : r.reading with
  | true => exact (h.fits reading).incipient.of_isPrefix (List.prefix_append _ _)
  | false => exact (h.gone reading).2

/-! ### Emissions -/

/-- A closed emitter refuses everything. -/
lemma publish_of_closed {maxEvents capacity : Nat} {cancelled : Bool} {x : Emission} {r : Run}
    (closed : r.emitting = false) :
    r.publish maxEvents capacity cancelled x = (r, some .closed) := by
  simp [publish_eq, closed]

/-- An emission is refused and changes nothing, or gets the next number and is
lost, or gets the next number and is queued for a reader. -/
lemma publish_cases (maxEvents capacity : Nat) (cancelled : Bool) (x : Emission) (r : Run) :
    (r.publish maxEvents capacity cancelled x).1 = r
    ∨ (r.emitting = true ∧
        (r.publish maxEvents capacity cancelled x).1 = { r with sequence := r.sequence + 1 })
    ∨ (r.emitting = true ∧ r.reading = true ∧
        (r.publish maxEvents capacity cancelled x).1 =
          { r with
              sequence := r.sequence + 1
              delivered := r.delivered + 1
              queue := r.queue ++ [x.event (r.sequence + 1)] }) := by
  rw [publish_eq]
  split_ifs with h1 h2 h3 h4 h5 <;> simp_all

/-- An emission leaves an invocation at its stage. -/
lemma publish_stage (maxEvents capacity : Nat) (cancelled : Bool) (x : Emission) (r : Run) :
    (r.publish maxEvents capacity cancelled x).1.stage = r.stage := by
  rcases publish_cases maxEvents capacity cancelled x r with same | ⟨-, lost⟩ | ⟨-, -, queued⟩
  · rw [same]
  · rw [lost]
  · rw [queued]

/-- A number that is given out keeps an invocation in good order. -/
lemma InOrder.number (h : r.InOrder R es) (handling : r.stage.isHandling = true) :
    Run.InOrder R es { r with sequence := r.sequence + 1 } := by
  refine ⟨h.emitting, ?_, h.gone⟩
  intro (reading : r.reading = true)
  refine (Stage.fits_of_isHandling handling).mpr ?_
  exact ((Stage.fits_of_isHandling handling).mp (h.fits reading)).mono (Nat.le_succ _)

/-- A piece that is queued keeps an invocation in good order, if its number may come
behind those of the pieces before. -/
lemma InOrder.enqueue (h : r.InOrder R es) (handling : r.stage.isHandling = true)
    (reading : r.reading = true) {e : Event} {m : ℕ} (number : e.sequence? = some m)
    (le : m ≤ r.sequence) (behind : ∀ k ∈ numbers (es ++ r.queue), R k m) :
    Run.InOrder R es { r with queue := r.queue ++ [e] } := by
  refine ⟨h.emitting, ?_, fun (gone : r.reading = false) => by simp [reading] at gone⟩
  intro _
  refine (Stage.fits_of_isHandling handling).mpr ?_
  rw [← List.append_assoc]
  exact ((Stage.fits_of_isHandling handling).mp (h.fits reading)).concat number le behind

/-- An emission at once keeps an invocation in good order. -/
lemma InOrder.publish (weak : ∀ k m, k < m → R k m) (h : r.InOrder R es)
    (maxEvents capacity : ℕ) (cancelled : Bool) (x : Emission) :
    (r.publish maxEvents capacity cancelled x).1.InOrder R es := by
  rcases publish_cases maxEvents capacity cancelled x r with same | ⟨emitting, lost⟩ |
    ⟨emitting, reading, queued⟩
  · rw [same]
    exact h
  · rw [lost]
    exact h.number (h.emitting ▸ emitting)
  · have handling : r.stage.isHandling = true := h.emitting ▸ emitting
    have opening := (Stage.fits_of_isHandling handling).mp (h.fits reading)
    have kept := (h.number handling).enqueue handling reading (x.sequence?_event _) le_rfl
      fun k there => weak k _ (Nat.lt_succ_of_le (opening.le_of_mem there))
    rw [queued]
    exact ⟨kept.emitting, kept.fits, kept.gone⟩

/-! ### Changes -/

/-- An event that may wait for room is queued or not. -/
lemma offered_cases (capacity : Nat) (e : Event) (r : Run) :
    r.offered capacity e = r.queue ++ [e] ∨ r.offered capacity e = r.queue := by
  rw [offered]
  split_ifs
  · exact .inl rfl
  · exact .inr rfl

/-- An empty queue has room. -/
lemma offered_of_empty (config : ExecutorConfig) (e : Event) {r : Run}
    (reading : r.reading = true) (empty : r.queue = []) :
    r.offered config.capacity e = [e] := by
  have room : 0 < config.capacity := by
    rw [ExecutorConfig.capacity]
    omega
  rw [offered, if_pos ⟨reading, by simpa [empty] using room⟩, empty, List.nil_append]

/-- Nothing is queued for a reader that has gone away. -/
lemma offered_of_gone (capacity : Nat) (e : Event) {r : Run} (gone : r.reading = false) :
    r.offered capacity e = r.queue := by
  rw [offered, if_neg (by simp [gone])]

/-- The last event of a handler is an end or an error. -/
lemma isTerminal_conclude (timeout now : Nat) (cancelled : Bool) (o : Outcome) (r : Run) :
    (r.conclude timeout now cancelled o).last.isTerminal = true := by
  cases o with
  | ok v => rfl
  | failed error | panicked message =>
      simp only [conclude]
      split_ifs <;> rfl

/-- A refused invocation is in good order: its only event is an error. -/
lemma InOrder.refused (h : r.InOrder R es) (entering : r.stage.isEntering = true)
    (config : ExecutorConfig) (message : String) :
    Run.InOrder R es
      { r with
          queue := r.offered config.capacity (.error message false)
          state := .canceled
          stage := .finished } := by
  refine ⟨?_, ?_, ?_⟩
  · exact h.emitting.trans (Stage.not_isHandling_of_isEntering entering)
  · intro (reading : r.reading = true)
    have none : es ++ r.queue = [] := (Stage.fits_of_isEntering entering).mp (h.fits reading)
    obtain ⟨rfl, empty⟩ := List.append_eq_nil_iff.mp none
    show Incipient R ([] ++ r.offered config.capacity (.error message false))
    rw [offered_of_empty config _ reading empty]
    exact (Complete.refused message false).incipient
  · intro (gone : r.reading = false)
    rw [offered_of_gone _ _ gone]
    exact h.gone gone

/-- The start of a handler is the first event. -/
lemma InOrder.begun (h : r.InOrder R es) (entering : r.stage.isEntering = true)
    (config : ExecutorConfig) (started deadline : ℕ) :
    Run.InOrder R es
      { r with
          queue := r.offered config.capacity (.start r.tool r.requestId r.args)
          state := .running
          stage := .active r.body
          emitting := true
          started
          deadline } := by
  refine ⟨rfl, ?_, ?_⟩
  · intro (reading : r.reading = true)
    have none : es ++ r.queue = [] := (Stage.fits_of_isEntering entering).mp (h.fits reading)
    obtain ⟨rfl, empty⟩ := List.append_eq_nil_iff.mp none
    show Opening R r.sequence
      ([] ++ r.offered config.capacity (.start r.tool r.requestId r.args))
    rw [offered_of_empty config _ reading empty]
    exact Opening.start _ _ _ _
  · intro (gone : r.reading = false)
    rw [offered_of_gone _ _ gone]
    exact h.gone gone

/-- The last event of an invocation closes its stream; without it the stream is
left as it is. -/
lemma InOrder.finished (h : r.InOrder R es) {last : Event} {giveUp : ℕ}
    (delivering : r.stage = .delivering last giveUp) (capacity : ℕ) :
    Run.InOrder R es { r with queue := r.offered capacity last, stage := .finished } := by
  refine ⟨?_, ?_, ?_⟩
  · exact h.emitting.trans (by rw [delivering]; rfl)
  · intro (reading : r.reading = true)
    have fits := h.fits reading
    rw [delivering] at fits
    show Incipient R (es ++ r.offered capacity last)
    rcases offered_cases capacity last r with queued | lost
    · rw [queued, ← List.append_assoc]
      exact (Complete.served fits.1 fits.2).incipient
    · rw [lost]
      exact fits.1.incipient
  · intro (gone : r.reading = false)
    rw [offered_of_gone _ _ gone]
    exact h.gone gone

/-- A step from one stage of a handler to another. -/
lemma InOrder.moved {s : Stage} (h : r.InOrder R es) (before : r.stage.isHandling = true)
    (after : s.isHandling = true) : Run.InOrder R es { r with stage := s } := by
  refine ⟨h.emitting.trans (before.trans after.symm), ?_, h.gone⟩
  intro (reading : r.reading = true)
  exact (Stage.fits_of_isHandling after).mpr
    ((Stage.fits_of_isHandling before).mp (h.fits reading))

/-- What a reader gets is no longer in the queue. -/
lemma InOrder.read {rest : List Event} {event : Event} (h : r.InOrder R es)
    (queue : r.queue = event :: rest) :
    Run.InOrder R (es ++ [event]) { r with queue := rest } := by
  have same : es ++ [event] ++ rest = es ++ r.queue := by
    calc es ++ [event] ++ rest = es ++ event :: rest := List.append_assoc ..
      _ = es ++ r.queue := by rw [queue]
  refine ⟨h.emitting, ?_, ?_⟩
  · intro (reading : r.reading = true)
    exact same ▸ h.fits reading
  · intro (gone : r.reading = false)
    rw [(h.gone gone).1] at queue
    cases queue

/-- **Every change keeps good order**, what the reader gets being added to what it
has got before. -/
lemma Change.inOrder {e : Engine} {r' : Run} {reading : Option Engine.Reading}
    (weak : ∀ k m, k < m → R k m) (change : r.Change e reading r') (h : r.InOrder R es) :
    r'.InOrder R (es ++ (reading.bind Engine.Reading.event?).toList) := by
  have quiet : es ++ ((none : Option Engine.Reading).bind Engine.Reading.event?).toList = es :=
    List.append_nil es
  cases change with
  | refused entering =>
      rw [quiet]
      exact h.refused entering _ _
  | begun entering =>
      rw [quiet]
      exact h.begun entering _ _ _
  | queued entering =>
      rw [quiet]
      refine ⟨h.emitting.trans (Stage.not_isHandling_of_isEntering entering), ?_,
        h.gone⟩
      intro there
      exact (Stage.fits_of_isEntering entering).mp (h.fits there)
  | @emitted x next active =>
      rw [quiet]
      have kept := h.publish weak e.config.maxEvents e.config.capacity (e.isCancelled r.scope) x
      exact kept.moved (by rw [publish_stage, active]; rfl) rfl
  | emittedOutside x =>
      rw [quiet]
      exact h.publish weak _ _ _ x
  | moved follows =>
      rw [quiet]
      obtain ⟨before, after⟩ := follows.isHandling
      exact h.moved before after
  | concluded active =>
      rw [quiet]
      refine ⟨rfl, fun there => ⟨?_, isTerminal_conclude _ _ _ _ _⟩, h.gone⟩
      exact (Stage.fits_of_isHandling (by rw [active]; rfl)).mp (h.fits there)
  | finished delivering =>
      rw [quiet]
      exact h.finished delivering _
  | read queue => exact h.read queue
  | foundNothing empty =>
      have none : (Option.bind (some (if r.isFinished then Engine.Reading.ended else .pending))
          Engine.Reading.event?).toList = [] := by
        split_ifs <;> rfl
      rw [none, List.append_nil]
      exact h
  | dropped =>
      rw [quiet]
      exact ⟨h.emitting, fun there => by simp at there, fun _ => ⟨rfl, h.incipient⟩⟩

/-- The same, `seen` being the answers that the reader has got. -/
lemma Change.inOrder_seen {e : Engine} {r' : Run} {reading : Option Engine.Reading}
    {seen : List Engine.Reading} (weak : ∀ k m, k < m → R k m) (change : r.Change e reading r')
    (h : r.InOrder R (seen.filterMap Engine.Reading.event?)) :
    r'.InOrder R ((seen ++ reading.toList).filterMap Engine.Reading.event?) := by
  have kept := change.inOrder weak h
  rw [List.filterMap_append]
  cases reading with
  | none => exact kept
  | some x => cases x <;> exact kept

end Run

/-- A new invocation is in good order. -/
lemma Engine.inOrder_fresh (e : Engine) (tool requestId : String) (args : Json) (caller : Token)
    (handler : Handler) : (e.fresh tool requestId args caller handler).InOrder R [] :=
  ⟨rfl, fun _ => rfl, fun gone => by simp [fresh] at gone⟩

/-- **At any time every invocation is in good order**, if each emission is made at once. -/
theorem orderly_run (config : ExecutorConfig) (acts : List Action) {id : Nat} {r : Run}
    (hr : (Timeline.run (.new config) acts).now.runs[id]? = some r) :
    r.Orderly (received id (Timeline.run (.new config) acts).past) :=
  invocation_induct (fun seen r => r.Orderly (seen.filterMap Engine.Reading.event?))
    (fun e _ _ _ _ _ => e.inOrder_fresh _ _ _ _ _)
    (fun _ _ _ _ _ change h => change.inOrder_seen (fun _ _ lt => lt) h) config acts hr

/-! ### The end of a stream -/

/-- An invocation that is over and has no event left. -/
def Run.Closed (r : Run) : Prop :=
  r.stage = .finished ∧ r.queue = []

/-- A reader that has got to the end stays there: its invocation is closed, and
whatever it gets afterwards is the end again. -/
structure Run.Final (seen : List Engine.Reading) (r : Run) : Prop where
  closed : .ended ∈ seen → r.Closed
  forever : seen.Pairwise fun earlier later => earlier = .ended → later = .ended

namespace Run

/-- A closed invocation stays closed, and its reader gets the end. -/
lemma Closed.change {e : Engine} {r r' : Run} {reading : Option Engine.Reading} (h : r.Closed)
    (silent : r.emitting = false) (change : r.Change e reading r') :
    r'.Closed ∧ ∀ x ∈ reading.toList, x = .ended := by
  obtain ⟨stage, queue⟩ := h
  cases change with
  | refused entering => simp [stage, Stage.isEntering] at entering
  | begun entering => simp [stage, Stage.isEntering] at entering
  | queued entering => simp [stage, Stage.isEntering] at entering
  | emitted active => simp [stage] at active
  | emittedOutside x =>
      rw [publish_of_closed silent]
      exact ⟨⟨stage, queue⟩, by simp⟩
  | moved follows =>
      have handling := follows.isHandling.1
      simp [stage, Stage.isHandling] at handling
  | concluded active => simp [stage] at active
  | finished delivering => simp [stage] at delivering
  | read there => simp [queue] at there
  | foundNothing empty => exact ⟨⟨stage, queue⟩, by simp [isFinished, stage]⟩
  | dropped => exact ⟨⟨stage, rfl⟩, by simp⟩

/-- Only a closed invocation lets its reader see the end. -/
lemma Change.closed_of_ended {e : Engine} {r r' : Run} {reading : Option Engine.Reading}
    (change : r.Change e reading r') (seen : .ended ∈ reading.toList) : r'.Closed := by
  cases change with
  | foundNothing empty =>
      refine ⟨?_, empty⟩
      cases stage : r.stage <;> simp_all [isFinished]
  | _ => simp at seen

/-- **Every change keeps readers at the end.** -/
lemma Change.final {e : Engine} {r r' : Run} {reading : Option Engine.Reading}
    {seen : List Engine.Reading} (change : r.Change e reading r')
    (emitting : r.emitting = r.stage.isHandling) (h : r.Final seen) :
    r'.Final (seen ++ reading.toList) := by
  have after : .ended ∈ seen → r'.Closed ∧ ∀ x ∈ reading.toList, x = .ended := fun there => by
    have closed := h.closed there
    exact closed.change (emitting.trans (by rw [closed.1]; rfl)) change
  refine ⟨?_, ?_⟩
  · intro there
    rcases List.mem_append.mp there with before | now
    · exact (after before).1
    · exact change.closed_of_ended now
  · refine List.pairwise_append.mpr ⟨h.forever, ?_, ?_⟩
    · cases reading with
      | none => exact .nil
      | some x => exact List.pairwise_singleton _ x
    · rintro earlier before later now rfl
      exact (after before).2 later now

end Run

/-- At any time a reader that has got to the end stays there. -/
theorem final_run (config : ExecutorConfig) (acts : List Action) {id : Nat} {r : Run}
    (hr : (Timeline.run (.new config) acts).now.runs[id]? = some r) :
    r.Final (readings id (Timeline.run (.new config) acts).past) := by
  refine (invocation_induct
    (fun seen r => r.Orderly (seen.filterMap Engine.Reading.event?) ∧ r.Final seen)
    ?_
    ?_ config acts hr).2
  · intro e tool requestId args caller handler
    exact ⟨e.inOrder_fresh _ _ _ _ _, by simp, .nil⟩
  · intro e r r' reading seen change h
    exact ⟨change.inOrder_seen (fun _ _ lt => lt) h.1, change.final h.1.emitting h.2⟩

/-! ### Emitters that outlive their handler -/

/-- Whether the handler of an invocation has come to its end. -/
def Stage.isPast : Stage → Bool
  | .delivering .. | .finished => true
  | .arriving | .waiting | .active _ | .asleep .. => false

lemma Stage.not_isHandling_of_isPast {s : Stage} (past : s.isPast = true) :
    s.isHandling = false := by
  cases s <;> simp_all [isPast, isHandling]

/-- The emitter of a handler that has come to its end is closed. -/
lemma Run.InOrder.closed {r : Run} (h : r.InOrder R es) (past : r.stage.isPast = true) :
    r.emitting = false :=
  h.emitting.trans (Stage.not_isHandling_of_isPast past)

/-- An emitter that outlives its handler refuses everything. -/
lemma publish_of_isPast {e : Engine} {id : ℕ} {r : Run} (h : r.InOrder R es)
    (hr : e.runs[id]? = some r) (returned : r.stage.isPast = true) (x : Emission) :
    e.publish id r x = (e, r, some .closed) := by
  have same : e.setRun id r = e := by
    rw [Engine.setRun, set_of_getElem? hr]
  simp [Engine.publish, Run.publish_of_closed (h.closed returned), same]

/-- A reader that has taken everything gets the last event and then the end. -/
lemma take_of_delivering {e : Engine} {id : Nat} {r : Run} {last : Event} {giveUp : Nat}
    (hr : e.runs[id]? = some r) (delivering : r.stage = .delivering last giveUp)
    (reading : r.reading = true) (empty : r.queue = []) :
    ∃ e', e.advance id = some e' ∧ (e'.take id).1 = .event last ∧
      ((e'.take id).2.take id).1 = .ended := by
  have hid : id < e.runs.length := (List.getElem?_eq_some_iff.mp hr).1
  have room : 0 < e.config.capacity := by
    rw [ExecutorConfig.capacity]
    omega
  have delivered : r.deliver e.config.capacity (isDue giveUp e.now) last
      = ({ r with queue := [last] }, .settled) := by
    simp [Run.deliver, reading, empty, room]
  refine ⟨e.finish id { r with queue := [last] }, ?_, ?_, ?_⟩
  · simp [Engine.advance, hr, Engine.advanceRun, delivering, Engine.settle, delivered]
  · simp [Engine.take, Engine.finish, hid]
  · simp [Engine.take, Engine.finish, hid, Run.isFinished]

end ToolServer.Execution
