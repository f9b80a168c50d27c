/-
What becomes of the emissions of an invocation:

* `Run.Called`: the four ways in which a call of an emitter can go;
* `Run.Accounted`: the invariant of an invocation and the calls of its emitter.
  The numbers, the count of what was queued and the pieces that the reader has
  got or will get follow from the calls and their answers;
* `Move.accounted`, `accounted_run`: no move breaks the invariant, so that it
  holds at any time;
* `pieces_are_emissions`: a reader that reads to the end gets exactly the
  emissions that did not fail.

A number goes to every emission that passes the checks, also to one that then
finds no room; so the numbers that a reader misses are those of the lost ones.
-/
import ToolServer.Proofs.Execution.History

namespace ToolServer.Execution

/-- The pieces of data and progress among some events. -/
def pieces (es : List Event) : List Event :=
  es.filter (·.sequence?.isSome)

lemma pieces_append (es fs : List Event) : pieces (es ++ fs) = pieces es ++ pieces fs :=
  List.filter_append ..

/-- An event without a number is no piece. -/
lemma pieces_of_unnumbered {e : Event} (h : e.sequence? = none) : pieces [e] = [] := by
  simp [pieces, h]

lemma pieces_of_emission (x : Emission) (n : ℕ) : pieces [x.event n] = [x.event n] := by
  simp [pieces, x.sequence?_event]

lemma sequence?_of_isTerminal {e : Event} (h : e.isTerminal = true) : e.sequence? = none := by
  cases e <;> first | rfl | cases h

namespace Run

/-! ### Calls -/

/-- What a call of its emitter makes of an invocation. -/
inductive Called (maxEvents : ℕ) (r : Run) : Attempt → Run → Prop
  /-- The emitter is closed, or the invocation is cancelled or has emitted enough. -/
  | refused (x : Emission) {error : EmitError}
      (early : error = .closed ∨ error = .cancelled ∨ ∃ limit, error = .limitExceeded limit) :
      Called maxEvents r ⟨x, some error, none⟩ r
  /-- Nobody reads any more. -/
  | unread (x : Emission) (emitting : r.emitting = true) (gone : r.reading = false) :
      Called maxEvents r ⟨x, some .channelClosed, some (r.sequence + 1)⟩
        { r with sequence := r.sequence + 1 }
  /-- There is no room. -/
  | lost (x : Emission) (emitting : r.emitting = true) :
      Called maxEvents r ⟨x, some .channelFull, some (r.sequence + 1)⟩
        { r with sequence := r.sequence + 1 }
  /-- The event is queued. -/
  | queued (x : Emission) (emitting : r.emitting = true) (room : r.delivered < maxEvents) :
      Called maxEvents r ⟨x, none, some (r.sequence + 1)⟩
        { r with
            sequence := r.sequence + 1
            delivered := r.delivered + 1
            queue := r.queue ++ [x.event (r.sequence + 1)] }

lemma attempt_called (maxEvents capacity : ℕ) (cancelled : Bool) (x : Emission) (r : Run) :
    r.Called maxEvents (r.attempt maxEvents capacity cancelled x)
      (r.publish maxEvents capacity cancelled x).1 := by
  rw [attempt, publish_eq]
  split_ifs with closed fired limit gone full
  · simpa using Called.refused x (.inl rfl)
  · simpa using Called.refused x (.inr (.inl rfl))
  · simpa using Called.refused x (.inr (.inr ⟨maxEvents, rfl⟩))
  · simpa using Called.unread x (by simpa using closed) (by simpa using gone)
  · simpa using Called.lost x (by simpa using closed)
  · simpa using Called.queued x (by simpa using closed) (by omega)

/-- An emission that gets no number changes nothing. -/
lemma publish_of_silent {maxEvents capacity : ℕ} {cancelled : Bool} {x : Emission} {r : Run}
    (silent : (r.publish maxEvents capacity cancelled x).1.sequence = r.sequence) :
    (r.publish maxEvents capacity cancelled x).1 = r := by
  rcases publish_cases maxEvents capacity cancelled x r with same | ⟨-, lost⟩ | ⟨-, -, queued⟩
  · exact same
  · simp [lost] at silent
  · simp [queued] at silent

/-! ### The account -/

/-- The last event of an invocation whose handler has ended, as long as it waits
for room. -/
def owed (r : Run) : List Event :=
  match r.stage with
  | .delivering last _ => [last]
  | _ => []

/-- An invocation whose account is right: `es` are the events that its reader has
got, and `calls` the calls of its emitter. -/
structure Accounted (maxEvents : ℕ) (es : List Event) (calls : List Attempt) (r : Run) :
    Prop where
  /-- Numbers are given out one after another. -/
  numbers : calls.filterMap Attempt.number = List.range' 1 r.sequence
  /-- Exactly the calls that pass the checks get one. -/
  numbered : ∀ c ∈ calls, c.number = none ↔
    c.answer = some .closed ∨ c.answer = some .cancelled ∨
      ∃ limit, c.answer = some (.limitExceeded limit)
  delivered : r.delivered = calls.countP (·.answer = none)
  bounded : r.delivered ≤ maxEvents
  /-- What was queued is what the reader has got or will get. -/
  queued : r.reading = true →
    (pieces (es ++ r.queue)).map some = (calls.filter (·.answer = none)).map Attempt.event?
  /-- What has a number and was not queued found no room. -/
  lost : r.reading = true →
    r.sequence = r.delivered + calls.countP (·.answer = some .channelFull)
  /-- The end tells how many emissions were queued. -/
  ends : r.reading = true → ∀ duration count summary result,
    .done duration count summary result ∈ es ++ r.queue ++ r.owed →
      count = r.delivered ∧ r.emitting = false

variable {maxEvents : ℕ} {es : List Event} {calls : List Attempt} {r : Run}

lemma accounted_fresh (e : Engine) (tool requestId : String) (args : Json) (caller : Token)
    (handler : Handler) :
    (e.fresh tool requestId args caller handler).Accounted maxEvents [] [] := by
  refine ⟨rfl, by simp, rfl, Nat.zero_le _, fun _ => rfl, fun _ => rfl, ?_⟩
  simp [Engine.fresh, owed]

/-- While the emitter is open no end is in sight. -/
lemma Accounted.endless (h : r.Accounted maxEvents es calls) (reading : r.reading = true)
    (emitting : r.emitting = true) {duration count : ℕ} {summary : Option String}
    {result : Option Json} : .done duration count summary result ∉ es ++ r.queue ++ r.owed := by
  intro there
  have closed := (h.ends reading _ _ _ _ there).2
  simp [emitting] at closed

/-- **A call of the emitter keeps the account.** -/
lemma Accounted.call {c : Attempt} {r' : Run} (h : r.Accounted maxEvents es calls)
    (called : r.Called maxEvents c r') : r'.Accounted maxEvents es (calls ++ [c]) := by
  cases called with
  | @refused x error early =>
      have passed : (some error : Option EmitError) ≠ some .channelFull := by
        rcases early with rfl | rfl | ⟨limit, rfl⟩ <;> simp
      refine ⟨by simpa using h.numbers, ?_, by simpa using h.delivered, h.bounded,
        by simpa using h.queued, by simpa [passed] using h.lost, h.ends⟩
      simpa [or_imp, forall_and, early] using h.numbered
  | unread x emitting gone =>
      refine ⟨?_, by simpa [or_imp, forall_and] using h.numbered, by simpa using h.delivered,
        h.bounded, ?_, ?_, ?_⟩
      · simp [h.numbers, List.range'_concat, Nat.add_comm]
      all_goals exact fun there => by simp [gone] at there
  | lost x emitting =>
      refine ⟨?_, by simpa [or_imp, forall_and] using h.numbered, by simpa using h.delivered,
        h.bounded, by simpa using h.queued, ?_, ?_⟩
      · simp [h.numbers, List.range'_concat, Nat.add_comm]
      · intro reading
        have before := h.lost reading
        simp only [List.countP_append, List.countP_singleton, decide_true, if_true]
        omega
      · exact fun reading _ _ _ _ there => absurd there (h.endless reading emitting)
  | queued x emitting room =>
      refine ⟨?_, by simpa [or_imp, forall_and] using h.numbered, ?_, room, ?_, ?_, ?_⟩
      · simp [h.numbers, List.range'_concat, Nat.add_comm]
      · simp [h.delivered]
      · intro reading
        rw [← List.append_assoc, pieces_append, List.map_append, h.queued reading,
          pieces_of_emission]
        simp [Attempt.event?]
      · intro reading
        have before := h.lost reading
        have passed : (none : Option EmitError) ≠ some .channelFull := by simp
        simp only [List.countP_append, List.countP_singleton, passed, decide_false,
          Bool.false_eq_true, if_false]
        omega
      · intro reading duration count summary result there
        -- a piece is no end, so one would have been in sight before
        have other : .done duration count summary result ≠ x.event (r.sequence + 1) := by
          cases x <;> simp [Emission.event]
        exact absurd (by simpa [owed, other] using there) (h.endless reading emitting)

/-- What does not call the emitter keeps the account, if it leaves the reader the
same pieces and the end tells what it should. -/
lemma Accounted.keep {r' : Run} {es' : List Event} (h : r.Accounted maxEvents es calls)
    (sequence : r'.sequence = r.sequence) (delivered : r'.delivered = r.delivered)
    (back : r'.reading = true → r.reading = true)
    (same : r.reading = true → pieces (es' ++ r'.queue) = pieces (es ++ r.queue))
    (ends : r.reading = true → ∀ duration count summary result,
      .done duration count summary result ∈ es' ++ r'.queue ++ r'.owed →
        count = r.delivered ∧ r'.emitting = false) :
    r'.Accounted maxEvents es' calls := by
  refine ⟨sequence ▸ h.numbers, h.numbered, delivered ▸ h.delivered, delivered ▸ h.bounded,
    ?_, ?_, ?_⟩
  · intro reading
    rw [same (back reading)]
    exact h.queued (back reading)
  · intro reading
    rw [sequence, delivered]
    exact h.lost (back reading)
  · intro reading
    rw [delivered]
    exact ends (back reading)

/-- A step from one stage of a handler to another keeps the account. -/
lemma Accounted.goOn (h : r.Accounted maxEvents es calls) {s : Stage}
    (goesOn : s = r.stage ∨ r.stage.isHandling = true ∧ s.isHandling = true) :
    Run.Accounted maxEvents es calls { r with stage := s } := by
  refine h.keep rfl rfl id (fun _ => rfl) ?_
  rcases goesOn with rfl | ⟨-, handling⟩
  · exact h.ends
  · intro reading duration count summary result there
    refine h.ends reading duration count summary result (List.mem_append_left _ ?_)
    cases s <;> simp_all [owed, Stage.isHandling]

/-- The first event of an invocation keeps the account, be it a start or an error. -/
lemma Accounted.first (h : r.Accounted maxEvents es calls) (orderly : r.Orderly es)
    (entering : r.stage.isEntering = true) (config : ExecutorConfig) {event : Event}
    (unnumbered : event.sequence? = none) (endless : event.kind ≠ .done) {r' : Run}
    (sequence : r'.sequence = r.sequence) (delivered : r'.delivered = r.delivered)
    (reading : r'.reading = r.reading) (queue : r'.queue = r.offered config.capacity event)
    (unowed : r'.owed = []) : r'.Accounted maxEvents es calls := by
  have first : r.reading = true → es ++ r.queue = [] ∧ es ++ r'.queue = [event] := by
    intro there
    obtain ⟨rfl, empty⟩ := orderly.unread entering there
    rw [queue, offered_of_empty config event there empty, empty]
    exact ⟨rfl, rfl⟩
  refine h.keep sequence delivered (reading ▸ id) ?_ ?_
  · intro there
    rw [(first there).1, (first there).2, pieces_of_unnumbered unnumbered]
    rfl
  · intro there duration count summary result last
    rw [(first there).2, unowed, List.append_nil, List.mem_singleton] at last
    exact absurd (congrArg Event.kind last).symm endless

/-- The count in the last event of a handler is the number of its queued emissions. -/
lemma count_conclude {timeout now : ℕ} {cancelled : Bool} {o : Outcome}
    {duration count : ℕ} {summary : Option String} {result : Option Json}
    (h : (r.conclude timeout now cancelled o).last = .done duration count summary result) :
    count = r.delivered := by
  cases o with
  | ok v =>
      simp only [Run.conclude, Event.done.injEq] at h
      exact h.2.1.symm
  | failed error | panicked message =>
      simp only [Run.conclude] at h
      split_ifs at h

/-- The end of a handler keeps the account. -/
lemma Accounted.conclude (h : r.Accounted maxEvents es calls) (emitting : r.emitting = true)
    (timeout now giveUp : ℕ) (cancelled : Bool) (o : Outcome) :
    Run.Accounted maxEvents es calls
      { r with
          emitting := false
          state := (r.conclude timeout now cancelled o).state
          stage := .delivering (r.conclude timeout now cancelled o).last giveUp } := by
  refine h.keep rfl rfl id (fun _ => rfl) ?_
  intro there duration count summary result last
  refine ⟨?_, rfl⟩
  rcases List.mem_append.mp last with before | now
  · exact absurd (List.mem_append_left _ before) (h.endless there emitting)
  · exact count_conclude (List.mem_singleton.mp now).symm

/-- The last event of an invocation keeps the account, whether it is queued or lost. -/
lemma Accounted.finish (h : r.Accounted maxEvents es calls) (orderly : r.Orderly es)
    {last : Event} {giveUp : ℕ} (delivering : r.stage = .delivering last giveUp)
    (capacity : ℕ) :
    Run.Accounted maxEvents es calls
      { r with queue := r.offered capacity last, stage := .finished } := by
  have owes : r.owed = [last] := by rw [owed, delivering]
  refine h.keep rfl rfl id ?_ ?_
  · intro reading
    have terminal : last.isTerminal = true := by
      have fits := orderly.fits reading
      rw [delivering] at fits
      exact fits.2
    rcases offered_cases capacity last r with queued | lost
    · simp only [queued, ← List.append_assoc]
      rw [pieces_append, pieces_of_unnumbered (sequence?_of_isTerminal terminal), List.append_nil]
    · simp only [lost]
  · intro reading duration count summary result there
    have left : (.done duration count summary result : Event) ∈ es ++ r.offered capacity last := by
      simpa [owed] using there
    refine h.ends reading duration count summary result ?_
    rw [owes]
    rcases offered_cases capacity last r with queued | lost
    · simpa [queued] using left
    · exact List.mem_append_left _ (lost ▸ left)

/-- **Every change that calls no emitter keeps the account.** -/
lemma Accounted.change {e : Engine} {r' : Run} {reading : Option Engine.Reading}
    (h : r.Accounted maxEvents es calls) (change : r.Change e reading r')
    (silent : r'.sequence = r.sequence) (orderly : r.Orderly es) :
    r'.Accounted maxEvents (es ++ (reading.bind Engine.Reading.event?).toList) calls := by
  cases change with
  | refused entering =>
      rw [events_silent]
      exact h.first orderly entering e.config rfl (by decide) rfl rfl rfl rfl rfl
  | begun entering =>
      rw [events_silent]
      exact h.first orderly entering e.config rfl (by simp [Event.kind]) rfl rfl rfl rfl rfl
  | queued entering =>
      rw [events_silent]
      refine h.keep rfl rfl id (fun _ => rfl) ?_
      intro there duration count summary result last
      obtain ⟨rfl, empty⟩ := orderly.unread entering there
      simp [empty, owed] at last
  | @emitted x next active =>
      rw [events_silent]
      rw [publish_of_silent silent]
      exact h.goOn (.inr ⟨by rw [active]; rfl, rfl⟩)
  | emittedOutside x =>
      rw [events_silent, publish_of_silent silent]
      exact h
  | moved follows =>
      rw [events_silent]
      exact h.goOn (.inr follows.isHandling)
  | concluded active =>
      rw [events_silent]
      exact h.conclude (by rw [orderly.emitting, active]; rfl) _ _ _ _ _
  | finished delivering =>
      rw [events_silent]
      exact h.finish orderly delivering _
  | @read event rest queue =>
      have same : es ++ [event] ++ rest = es ++ r.queue := by simp [queue]
      refine h.keep rfl rfl id (fun _ => congrArg pieces same) ?_
      intro there
      show ∀ duration count summary result,
        .done duration count summary result ∈ es ++ [event] ++ rest ++ r.owed → _
      rw [same]
      exact h.ends there
  | foundNothing empty =>
      rw [events_nothing]
      exact h
  | dropped =>
      rw [events_silent]
      exact ⟨h.numbers, h.numbered, h.delivered, h.bounded, by simp, by simp, by simp⟩

/-- **Every move keeps the account.** -/
lemma Move.accounted {e : Engine} {r' : Run} {reading : Option Engine.Reading}
    {call : Option Attempt} {seen : List Engine.Reading} (move : r.Move e reading call r')
    (orderly : r.Orderly (seen.filterMap Engine.Reading.event?))
    (h : r.Accounted e.config.maxEvents (seen.filterMap Engine.Reading.event?) calls) :
    r'.Orderly ((seen ++ reading.toList).filterMap Engine.Reading.event?) ∧
      r'.Accounted e.config.maxEvents ((seen ++ reading.toList).filterMap Engine.Reading.event?)
        (calls ++ call.toList) := by
  cases move with
  | called x s goesOn =>
      rw [Option.toList_none, List.append_nil]
      have called := attempt_called e.config.maxEvents e.config.capacity (e.isCancelled r.scope) x r
      have goesOn' := publish_stage e.config.maxEvents e.config.capacity (e.isCancelled r.scope) x r
      rw [← goesOn'] at goesOn
      refine ⟨?_, (h.call called).goOn goesOn⟩
      have kept := orderly.publish (fun _ _ lt => lt) e.config.maxEvents e.config.capacity
        (e.isCancelled r.scope) x
      rcases goesOn with rfl | ⟨before, after⟩
      · exact kept
      · exact kept.moved before after
  | changed change silent =>
      rw [Option.toList_none, List.append_nil]
      refine ⟨change.inOrder_seen (fun _ _ lt => lt) orderly, ?_⟩
      rw [events_concat]
      exact h.change change silent orderly

end Run

/-- **At any time the account of every invocation is right.** -/
theorem accounted_run (config : ExecutorConfig) (acts : List Action) {id : ℕ} {r : Run}
    (hr : (Timeline.run (.new config) acts).now.runs[id]? = some r) :
    r.Accounted config.maxEvents (received id (Timeline.run (.new config) acts).past)
      (attempts id (Timeline.run (.new config) acts).past) := by
  refine (history_induct config
    (fun seen calls r => r.Orderly (seen.filterMap Engine.Reading.event?) ∧
      r.Accounted config.maxEvents (seen.filterMap Engine.Reading.event?) calls)
    ?_ ?_ acts hr).2
  · intro e tool requestId args caller handler
    exact ⟨e.inOrder_fresh _ _ _ _ _, Run.accounted_fresh e _ _ _ _ _⟩
  · rintro e r r' reading call seen calls rfl move ⟨orderly, accounted⟩
    exact move.accounted orderly accounted

/-! ### Readers that stay to the end -/

/-- A reader that never goes away is there. -/
lemma reading_of_kept (config : ExecutorConfig) (acts : List Action) {id : ℕ}
    (kept : .drop id ∉ acts) {r : Run}
    (hr : (Timeline.run (.new config) acts).now.runs[id]? = some r) : r.reading = true := by
  induction acts using List.reverseRecOn generalizing r with
  | nil => simp [Timeline.run, Engine.new] at hr
  | append_singleton acts a ih =>
      have ih := @ih fun dropped => kept (List.mem_append_left _ dropped)
      rw [Timeline.run_concat] at hr
      cases h : (Timeline.run (.new config) acts).now.act a with
      | none =>
          rw [Timeline.next_of_none h] at hr
          exact ih hr
      | some e' =>
          rw [Timeline.next_of_some h] at hr
          cases before : (Timeline.run (.new config) acts).now.runs[id]? with
          | none =>
              obtain ⟨-, _, _, _, _, _, rfl⟩ := Engine.act_new h before hr
              rfl
          | some r₀ =>
              obtain ⟨r', hr', rfl | same, -⟩ := Engine.act_move h before
              · exact absurd (List.mem_append_right _ (List.mem_singleton_self _)) kept
              · obtain rfl := Option.some.inj (hr'.symm.trans hr)
                exact same.trans (ih before)

namespace Run.Accounted

variable {maxEvents : ℕ} {es : List Event} {calls : List Attempt} {r : Run}

/-- No two calls get the same number. -/
lemma apart (h : r.Accounted maxEvents es calls) :
    calls.Pairwise fun c d => ∀ n, c.number = some n → d.number ≠ some n := by
  have distinct : (calls.filterMap Attempt.number).Pairwise (· ≠ ·) :=
    h.numbers ▸ List.nodup_range'
  refine (List.pairwise_filterMap.mp distinct).imp ?_
  intro c d ne n hc hd
  exact ne n hc n hd rfl

/-- An emission that failed is not among what was queued. -/
lemma failed_not_mem (h : r.Accounted maxEvents es calls) (reading : r.reading = true)
    {c : Attempt} (hc : c ∈ calls) (failed : c.answer ≠ none) {event : Event}
    (numbered : c.event? = some event) : event ∉ es ++ r.queue := by
  intro there
  obtain ⟨n, hn, rfl⟩ := Option.map_eq_some_iff.mp numbered
  have piece : c.emission.event n ∈ pieces (es ++ r.queue) :=
    List.mem_filter.mpr ⟨there, by rw [Emission.sequence?_event]; rfl⟩
  have listed : some (c.emission.event n) ∈ (pieces (es ++ r.queue)).map some :=
    List.mem_map_of_mem piece
  rw [h.queued reading] at listed
  obtain ⟨d, hd, eq⟩ := List.mem_map.mp listed
  obtain ⟨hd, succeeded⟩ := List.mem_filter.mp hd
  obtain ⟨m, hm, eq⟩ := Option.map_eq_some_iff.mp eq
  -- events with the same number come from calls with the same number
  have same : m = n := by
    have := congrArg Event.sequence? eq
    rw [Emission.sequence?_event, Emission.sequence?_event] at this
    exact Option.some.inj this
  have other : c ≠ d := by
    rintro rfl
    exact failed (of_decide_eq_true succeeded)
  have symmetric : Std.Symm fun c d : Attempt => ∀ n, c.number = some n → d.number ≠ some n :=
    ⟨fun c d ne n hd hc => ne n hc hd⟩
  exact h.apart.forall hc hd other n hn (same ▸ hm)

end Run.Accounted

/-- **A reader that reads to the end gets exactly the emissions that did not fail.**
Whatever happens around an invocation whose reader never goes away, once that
reader has got to the end:

* the pieces of data and progress that it has got are the emissions that did not
  fail, in the order of the calls and with their contents;
* no emission that failed is among them, even if it had a number;
* they are no more than the limit, and as many as the end says, if there is one;
* the numbers were given out one after another from 1, to exactly the calls that
  found the emitter open, the invocation not cancelled and the limit not reached;
* the numbers that the reader misses are as many as the calls that found no room. -/
theorem pieces_are_emissions (config : ExecutorConfig) (acts : List Action) (id : ℕ)
    (kept : .drop id ∉ acts)
    (drained : .ended ∈ readings id (Timeline.run (.new config) acts).past) :
    let t := Timeline.run (.new config) acts
    let calls := attempts id t.past
    let got := pieces (received id t.past)
    got.map some = (calls.filter (·.answer = none)).map Attempt.event?
    ∧ (∀ c ∈ calls, c.answer ≠ none → ∀ event, c.event? = some event →
        event ∉ received id t.past)
    ∧ got.length ≤ config.maxEvents
    ∧ (∀ duration count summary result,
        .done duration count summary result ∈ received id t.past → count = got.length)
    ∧ (∀ c ∈ calls, c.number = none ↔
        c.answer = some .closed ∨ c.answer = some .cancelled ∨
          ∃ limit, c.answer = some (.limitExceeded limit))
    ∧ ∃ highest, calls.filterMap Attempt.number = List.range' 1 highest ∧
        highest = got.length + calls.countP (·.answer = some .channelFull) := by
  intro t calls got
  cases there : t.now.runs[id]? with
  | none =>
      rw [readings_of_absent acts there] at drained
      cases drained
  | some r =>
      have account := accounted_run config acts there
      have reading := reading_of_kept config acts kept there
      have empty : r.queue = [] := ((final_run config acts there).closed drained).2
      have queued := account.queued reading
      have failed := @Run.Accounted.failed_not_mem _ _ _ _ account reading
      have ends := account.ends reading
      rw [empty, List.append_nil] at queued failed ends
      have length : got.length = r.delivered := by
        have lengths := congrArg List.length queued
        rw [List.length_map, List.length_map, ← List.countP_eq_length_filter] at lengths
        exact lengths.trans account.delivered.symm
      refine ⟨queued, fun c hc bad event numbered => failed hc bad numbered,
        length ▸ account.bounded, ?_, account.numbered, r.sequence, account.numbers, ?_⟩
      · intro duration count summary result last
        rw [length]
        exact (ends _ _ _ _ (List.mem_append_left _ last)).1
      · rw [length]
        exact account.lost reading

/-- A handler that emits four pieces, whatever becomes of them. -/
def talkative : Behaviour :=
  .emit (.data .null) fun _ => .emit (.data (.bool true)) fun _ =>
    .emit (.data (.bool false)) fun _ => .emit (.data .null) fun _ => .done (.ok .null)

/-- An invocation of it whose first piece finds no room, and whose last one is
over the limit. -/
def talkativeRun : Timeline :=
  Timeline.run (.new { bufferSize := 1, maxEvents := 2 })
    [.submit "talk" "r" .null (.named "caller") fun _ => talkative, .advance 0, .advance 0,
      .take 0, .advance 0, .take 0, .advance 0, .take 0, .advance 0, .advance 0, .advance 0,
      .take 0, .take 0]

theorem pieces_are_emissions_talkative :
    let calls := attempts 0 talkativeRun.past
    let got := pieces (received 0 talkativeRun.past)
    calls.map Attempt.answer = [some .channelFull, none, none, some (.limitExceeded 2)] ∧
      got.map some = (calls.filter (·.answer = none)).map Attempt.event? ∧
      ∃ highest, calls.filterMap Attempt.number = List.range' 1 highest ∧
        highest = got.length + 1 := by
  have drained : .ended ∈ readings 0 talkativeRun.past := List.mem_of_getElem? (i := 4) rfl
  obtain ⟨same, -, -, -, -, highest, numbers, missing⟩ := pieces_are_emissions
    { bufferSize := 1, maxEvents := 2 } _ 0 (by simp) drained
  exact ⟨rfl, same, highest, numbers, missing⟩

end ToolServer.Execution
