/-
Handlers that recite:

* `Behaviour.Recites`: a handler that emits given things one after another and ends without a
  value, passing the first failure on. It may pause in between;
* `spoken`, `announced`: the calls of its emitter, and the events, as long as nothing fails;
* `Behaviour.Reciting`, `reciting_run`: how far such a handler has come, which is as far as the
  calls of its emitter;
* `recited_run`, `announced_run`: what has been emitted, and what its reader has got;
* `uncalled_run`: what an invocation comes to whose handler is never called;
* `Decided.recited`, `Decided.told`: it ends well exactly if all was emitted, and what a reader
  gets that reads to the end;
* `Decided.reported`, `Router.recital_run`: what a call makes of that.

Such a handler never lays its emitter aside. So nobody else can call it, and the calls of the
emitter are those of the handler.
-/
import ToolServer.Proofs.Execution.Custody
import ToolServer.Proofs.Server.Burst

namespace ToolServer.Execution

/-! ### Handlers that recite -/

/-- Whether a handler emits given things one after another, and then ends without a value. It
passes the first failure of an emission on, and fails if it is cancelled while it pauses. -/
inductive Behaviour.Recites : List Emission → Behaviour → Prop
  | ends : Recites [] (.done (.ok .null))
  | emits {x : Emission} {left : List Emission} {next : Option EmitError → Behaviour}
      (goesOn : Recites left (next none))
      (passesOn : ∀ error, next (some error) = .done (.failed (.ofEmit error))) :
      Recites (x :: left) (.emit x next)
  | pauses {x : Emission} {left : List Emission} {span : Option ℕ} {watching : Bool}
      {next : Wake → Behaviour} (goesOn : Recites (x :: left) (next .elapsed))
      (stops : next .cancelled = .done (.failed .cancelled)) :
      Recites (x :: left) (.pause span watching next)

/-- The calls of an emitter that emit given things if none fails. -/
def spoken (xs : List Emission) : List Attempt :=
  xs.mapIdx fun i x => ⟨x, none, some (i + 1)⟩

/-- The events of some emissions that are numbered one after another. -/
def announced (xs : List Emission) : List Event :=
  xs.mapIdx fun i x => x.event (i + 1)

section Spoken

variable (xs : List Emission)

lemma spoken_concat (x : Emission) :
    spoken (xs ++ [x]) = spoken xs ++ [⟨x, none, some (xs.length + 1)⟩] :=
  List.mapIdx_concat

lemma announced_concat (x : Emission) :
    announced (xs ++ [x]) = announced xs ++ [x.event (xs.length + 1)] :=
  List.mapIdx_concat

lemma answer_of_mem_spoken {c : Attempt} (there : c ∈ spoken xs) : c.answer = none := by
  obtain ⟨i, bound, rfl⟩ := List.mem_mapIdx.mp there
  rfl

@[simp] lemma length_spoken : (spoken xs).length = xs.length :=
  List.length_mapIdx

lemma countP_spoken : (spoken xs).countP (·.answer = none) = xs.length := by
  rw [List.countP_eq_length.mpr fun c hc => by simp [answer_of_mem_spoken xs hc], length_spoken]

/-- All of these calls get a number. -/
lemma length_numbers_spoken : ((spoken xs).filterMap Attempt.number).length = xs.length := by
  induction xs using List.reverseRecOn with
  | nil => rfl
  | append_singleton xs x ih => simp [spoken_concat, ih]

/-- The pieces of data in these calls. -/
lemma accepted_spoken : (spoken xs).filterMap Attempt.accepted? = xs.filterMap Emission.chunk? := by
  induction xs using List.reverseRecOn with
  | nil => rfl
  | append_singleton xs x ih =>
      rw [spoken_concat, List.filterMap_append, List.filterMap_append, ih]
      cases x <;> rfl

/-- Their events are numbered one after another. -/
lemma events_spoken : (spoken xs).map Attempt.event? = (announced xs).map some := by
  induction xs using List.reverseRecOn with
  | nil => rfl
  | append_singleton xs x ih =>
      rw [spoken_concat, announced_concat, List.map_append, List.map_append, ih]
      rfl

lemma announced_isPrefix {xs ys : List Emission} (le : xs <+: ys) :
    announced xs <+: announced ys := by
  obtain ⟨rest, rfl⟩ := le
  rw [announced, announced, List.mapIdx_append]
  exact List.prefix_append _ _

end Spoken

/-- What has become of things that are to be emitted one after another: the calls of the emitter
have emitted the first ones, and there may be one more, which has failed. -/
def Recited (xs said : List Emission) (calls : List Attempt) : Prop :=
  ∃ (left : List Emission) (refusal : Option Attempt), xs = said ++ left
    ∧ calls = spoken said ++ refusal.toList
    ∧ ∀ c ∈ refusal, left.head? = some c.emission ∧ c.answer ≠ none

section Recited

variable {xs said : List Emission} {calls : List Attempt}

/-- The calls that have not failed. -/
lemma Recited.accomplished (h : Recited xs said calls) : accomplished calls = spoken said := by
  obtain ⟨left, refusal, rfl, rfl, refused⟩ := h
  have failed : accomplished refusal.toList = [] :=
    List.filter_eq_nil_iff.mpr fun c hc => by simpa using (refused c (by simpa using hc)).2
  rw [Execution.accomplished, List.filter_append, ← Execution.accomplished,
    ← Execution.accomplished, failed, List.append_nil]
  exact List.filter_eq_self.mpr fun c hc => by simp [answer_of_mem_spoken said hc]

/-- They are as many as what has been emitted. -/
lemma Recited.countP (h : Recited xs said calls) :
    calls.countP (·.answer = none) = said.length := by
  rw [List.countP_eq_length_filter, ← Execution.accomplished, h.accomplished, length_spoken]

lemma Recited.eq_take (h : Recited xs said calls) : said = xs.take said.length := by
  obtain ⟨left, -, rfl, -⟩ := h
  rw [List.take_left]

/-- Nothing is called after a call that has failed. -/
lemma Recited.last {earlier later : List Attempt} {c : Attempt} (h : Recited xs said calls)
    (split : calls = earlier ++ c :: later) (failed : c.answer ≠ none) : later = [] := by
  obtain ⟨left, refusal, rfl, rfl, -⟩ := h
  rcases List.eq_nil_or_concat later with rfl | ⟨later, d, rfl⟩
  · rfl
  · -- the calls before the last one have not failed
    have there : c ∈ spoken said := by
      cases refusal with
      | none =>
          rw [Option.toList_none, List.append_nil] at split
          rw [split]
          simp
      | some x =>
          rw [Option.toList_some, List.concat_eq_append, ← List.cons_append, ← List.append_assoc]
            at split
          rw [(List.append_inj' split rfl).1]
          simp
    exact absurd (answer_of_mem_spoken said there) failed

/-- If all is emitted, these are the pieces of data in it. -/
lemma Recited.chunks (h : Recited xs xs calls) :
    calls.filterMap Attempt.accepted? = xs.filterMap Emission.chunk? := by
  obtain ⟨left, refusal, all, rfl, refused⟩ := h
  obtain rfl : left = [] := List.self_eq_append_right.mp all
  cases refusal with
  | none => rw [Option.toList_none, List.append_nil, accepted_spoken]
  | some c => simpa using (refused c rfl).1

end Recited

/-- How far a handler has come that emits given things one after another, after some calls of its
emitter. -/
inductive Behaviour.Reciting (xs : List Emission) (calls : List Attempt) (b : Behaviour) : Prop
  /-- None has failed, and the other things are to come. -/
  | speaks {said left : List Emission} (all : xs = said ++ left) (rest : b.Recites left)
      (sofar : calls = spoken said)
  /-- One has failed, or the invocation was cancelled. -/
  | stops {said : List Emission} {error : ToolError} (stopped : b = .done (.failed error))
      (recited : Recited xs said calls) (short : said.length < xs.length)

/-- Where an invocation stands whose handler emits given things one after another, after some
calls of its emitter. -/
def Stage.Reciting (xs : List Emission) (calls : List Attempt) : Stage → Prop
  | .arriving | .waiting => calls = []
  | .active b => b.Reciting xs calls
  | .asleep _ watching next => Behaviour.Reciting xs calls (.pause none watching next)
  | .delivering .. | .finished => ∃ said, Recited xs said calls

section Reciting

variable {xs : List Emission} {calls : List Attempt}

lemma Behaviour.Reciting.recited {b : Behaviour} (h : b.Reciting xs calls) :
    ∃ said, Recited xs said calls := by
  cases h with
  | speaks all rest sofar => exact ⟨_, _, none, all, by simpa using sofar, by simp⟩
  | stops stopped recited short => exact ⟨_, recited⟩

lemma Stage.Reciting.recited {s : Stage} (h : s.Reciting xs calls) :
    ∃ said, Recited xs said calls := by
  cases s with
  | arriving | waiting => exact ⟨[], xs, none, rfl, h, by simp⟩
  | active | asleep => exact Behaviour.Reciting.recited h
  | delivering | finished => exact h

/-- Before an invocation has its slot its emitter has not been called by its handler. -/
lemma Stage.reciting_of_isEntering {s : Stage} (entering : s.isEntering = true) :
    s.Reciting xs calls ↔ calls = [] := by
  cases s with
  | arriving | waiting => exact Iff.rfl
  | active | asleep | delivering | finished => cases entering

/-- What has been emitted stays so once the handler has returned. -/
lemma Stage.reciting_of_isPast {s : Stage} (past : s.isPast = true) :
    s.Reciting xs calls ↔ ∃ said, Recited xs said calls := by
  cases s with
  | delivering | finished => exact Iff.rfl
  | arriving | waiting | active | asleep => cases past

/-- An emission takes such a handler one thing further, or stops it. -/
lemma Behaviour.Reciting.emit {x : Emission} {next : Option EmitError → Behaviour}
    (h : Reciting xs calls (.emit x next)) {c : Attempt} (emission : c.emission = x) {n : ℕ}
    (numbers : calls.filterMap Attempt.number = List.range' 1 n)
    (number : c.answer = none → c.number = some (n + 1)) :
    Reciting xs (calls ++ [c]) (next c.answer) := by
  cases h with
  | stops stopped => cases stopped
  | @speaks said left all rest sofar =>
      cases rest with
      | @emits _ left _ goesOn passesOn =>
          cases answer : c.answer with
          | none =>
              -- no number has been left out, since nothing has failed
              have length : said.length = n := by
                rw [← length_numbers_spoken said, ← sofar, numbers, List.length_range']
              have further : xs = (said ++ [x]) ++ left := by rw [all, List.append_assoc]; rfl
              refine .speaks further goesOn ?_
              rw [sofar, spoken_concat, length, ← number answer, ← emission, ← answer]
          | some error =>
              have recited : Recited xs said (calls ++ [c]) := by
                refine ⟨x :: left, some c, all, by rw [sofar, Option.toList_some], ?_⟩
                rintro _ ⟨⟩
                exact ⟨by rw [emission, List.head?_cons], by simp [answer]⟩
              exact .stops (passesOn error) recited (by simp [all])

/-- Such a handler fails if it is cancelled while it pauses, and otherwise it goes on. -/
lemma Behaviour.Reciting.wake {span : Option ℕ} {watching : Bool} {next : Wake → Behaviour}
    (h : Reciting xs calls (.pause span watching next)) (w : Wake) :
    Reciting xs calls (next w) := by
  cases h with
  | stops stopped => cases stopped
  | @speaks said left all rest sofar =>
      cases rest with
      | @pauses x left _ _ _ goesOn stops =>
          cases w with
          | elapsed => exact .speaks all goesOn sofar
          | cancelled =>
              have recited : Recited xs said calls :=
                ⟨x :: left, none, all, by rw [sofar, Option.toList_none, List.append_nil], by simp⟩
              exact .stops stops recited (by simp [all])

/-- No step but an emission takes such a handler anywhere else. -/
lemma Stage.Follows.reciting {e : Engine} {r : Run} {s s' : Stage} (follows : Follows e r s s')
    (h : s.Reciting xs calls) : s'.Reciting xs calls := by
  cases follows with
  | cancelled | elapsed => exact Behaviour.Reciting.wake h _
  | paused span watching next =>
      cases h with
      | stops stopped => cases stopped
      | speaks all rest sofar =>
          cases rest with
          | pauses goesOn stops => exact .speaks all (.pauses goesOn stops) sofar
  | looked | counted | shared =>
      cases h with
      | stops stopped => cases stopped
      | speaks all rest => cases rest

/-- Such a handler does not lay its emitter aside. -/
lemma Behaviour.Reciting.ne_share {name : String} {next : Behaviour} :
    ¬ Reciting xs calls (.share name next) := by
  rintro (⟨-, rest, -⟩ | ⟨stopped, -, -⟩)
  · cases rest
  · cases stopped

end Reciting

/-- A step of an invocation takes its handler one thing further at most. -/
lemma Engine.reciting_advance {e e' : Engine} {id : ℕ} {r r' : Run} {xs : List Emission}
    {calls : List Attempt} (happens : e.act (.advance id) = some e')
    (there : e.runs[id]? = some r) (there' : e'.runs[id]? = some r') (recites : r.body.Recites xs)
    (numbers : calls.filterMap Attempt.number = List.range' 1 r.sequence)
    (h : r.stage.Reciting xs calls) :
    r'.stage.Reciting xs (calls ++ (e.attempt? (.advance id) id).toList) := by
  refine stage_advance (P := fun calls s => s.Reciting xs calls) happens there there' ?_ ?_ ?_
    (fun _ follows => follows.reciting h) fun _ past => (Stage.reciting_of_isPast past).mpr h.recited
  · exact fun entering => .speaks (List.nil_append xs).symm recites
      ((Stage.reciting_of_isEntering entering).mp h)
  · exact fun entering => (Stage.reciting_of_isEntering entering).mp h
  · intro x next active
    rw [active] at h
    exact Behaviour.Reciting.emit h (c := e.attempt r x) rfl numbers Run.number_of_accepted

/-- **At any time a handler that emits given things one after another has come as far as the calls
of its emitter**, which nobody else has. -/
lemma reciting_run (config : ExecutorConfig) (acts : List Action) {id : ℕ} {r : Run}
    {xs : List Emission} (there : (Timeline.run (.new config) acts).now.runs[id]? = some r)
    (recites : r.body.Recites xs) (entrusted : (Timeline.run (.new config) acts).Entrusted) :
    r.stage.Reciting xs (attempts id (Timeline.run (.new config) acts).past)
      ∧ ∀ name, (name, id) ∉ (Timeline.run (.new config) acts).now.shared := by
  revert r
  revert entrusted
  refine Timeline.run_invariant (P := fun t => t.Entrusted → ∀ {r : Run},
    t.now.runs[id]? = some r → r.body.Recites xs → r.stage.Reciting xs (attempts id t.past)
      ∧ ∀ name, (name, id) ∉ t.now.shared) (by simp [Engine.new]) ?_ acts
  intro acts a e' ih happens entrusted r' there' recites'
  rw [attempts_concat]
  cases there : (Timeline.run (.new config) acts).now.runs[id]? with
  | none =>
      refine ⟨?_, fun name held => ?_⟩
      · obtain ⟨-, _, _, _, _, _, rfl⟩ := Engine.act_new happens there there'
        rw [attempts_of_absent acts there, Engine.attempt?_of_absent happens there]
        rfl
      · -- what has been laid aside is of an invocation that was there
        rcases Engine.mem_shared_act happens held with before | ⟨-, r, -, -, atPlace, -⟩
        · obtain ⟨r, atPlace⟩ := shared_run config acts _ before
          simp [there] at atPlace
        · simp [there] at atPlace
  | some r =>
      have recites : r.body.Recites xs := by
        obtain ⟨q, atPlace, same⟩ := (Engine.Extends.of_act happens).runs id r there
        obtain rfl := Option.some.inj (atPlace.symm.trans there')
        exact same.2.2 ▸ recites'
      obtain ⟨sofar, own⟩ := ih (entrusted.of_isPrefix (List.prefix_append _ _)) there recites
      refine ⟨?_, fun name held => ?_⟩
      · by_cases steps : a = .advance id
        · subst steps
          exact Engine.reciting_advance happens there there' recites
            (accounted_run config acts there).numbers sofar
        · obtain ⟨q, atPlace, same⟩ := Engine.act_stage_of_other happens there steps
          obtain rfl := Option.some.inj (atPlace.symm.trans there')
          have silent : (Timeline.run (.new config) acts).now.attempt? a id = none := by
            refine Engine.attempt?_of_other steps ?_
            rintro x rfl
            obtain ⟨name, held⟩ := entrusted _
              (List.mem_append_right _ (List.mem_singleton_self _)) id x rfl
            exact own name held
          rw [silent, Option.toList_none, List.append_nil, same]
          exact sofar
      · rcases Engine.mem_shared_act happens held with before | ⟨-, q, _, _, atPlace, active⟩
        · exact own name before
        · obtain rfl := Option.some.inj (atPlace.symm.trans there)
          rw [active] at sofar
          exact Behaviour.Reciting.ne_share sofar

/-! ### What is emitted and heard -/

/-- A stream that begins with a start consists of that, of the pieces, and maybe of a last
event. -/
lemma Incipient.of_start {R : ℕ → ℕ → Prop} {es : List Event} {tool requestId : String}
    {args : Json} (h : Incipient R es) (first : es.head? = some (.start tool requestId args)) :
    ∃ ending : Option Event, es = .start tool requestId args :: pieces es ++ ending.toList
      ∧ ∀ e ∈ ending, e.isTerminal = true := by
  obtain ⟨full, complete, le⟩ := h
  cases es with
  | nil => cases first
  | cons start rest =>
      obtain rfl := Option.some.inj first
      cases complete with
      | refused message retryable => cases (List.cons_prefix_cons.mp le).1
      | @served n _ last opening terminal =>
          obtain ⟨tool', requestId', args', ps, rfl, ns, numbers, -⟩ := opening
          have numbered {e : Event} (there : e ∈ ps) : e.sequence?.isSome = true := by
            have listed : e.sequence? ∈ ns.map some := numbers ▸ List.mem_map_of_mem there
            obtain ⟨n, -, eq⟩ := List.mem_map.mp listed
            rw [← eq, Option.isSome_some]
          have le := (List.cons_prefix_cons.mp le).2
          rcases List.prefix_concat_iff.mp le with rfl | shorter
          · refine ⟨some last, ?_, by simpa using terminal⟩
            have all : pieces ps = ps := List.filter_eq_self.mpr fun e he => numbered he
            rw [← List.singleton_append, pieces_append, pieces_append, all,
              pieces_of_unnumbered (sequence?_of_isTerminal terminal), List.append_nil]
            rfl
          · refine ⟨none, ?_, by simp⟩
            have all : pieces rest = rest :=
              List.filter_eq_self.mpr fun e he => numbered (shorter.subset he)
            rw [← List.singleton_append, pieces_append, all]
            simp [pieces, Event.sequence?]

/-- A closed emitter emits nothing. -/
lemma Run.Change.delivered {e : Engine} {r r' : Run} {reading : Option Engine.Reading}
    (change : r.Change e reading r') (closed : r.emitting = false) : r'.delivered = r.delivered := by
  cases change with
  | emitted | emittedOutside => rw [publish_of_closed closed]
  | refused | begun | queued | moved | concluded | finished | read | foundNothing | dropped => rfl

/-- **An invocation whose handler is not called** emits nothing, and does not end well. -/
lemma uncalled_run (config : ExecutorConfig) (acts : List Action) {id : ℕ} {r : Run}
    (there : (Timeline.run (.new config) acts).now.runs[id]? = some r)
    (uncalled : ¬ Called id (Timeline.run (.new config) acts)) :
    r.delivered = 0 ∧ (r.state = .init ∨ r.state = .canceled) := by
  revert r
  revert uncalled
  refine Timeline.run_invariant (P := fun t => ¬ Called id t → ∀ {r : Run},
    t.now.runs[id]? = some r → r.delivered = 0 ∧ (r.state = .init ∨ r.state = .canceled))
    (by simp [Engine.new]) ?_ acts
  intro acts a e' ih happens uncalled r' there'
  obtain ⟨before, idle⟩ := not_or.mp (mt (called_next ..).mpr uncalled)
  cases there : (Timeline.run (.new config) acts).now.runs[id]? with
  | none =>
      obtain ⟨-, _, _, _, _, _, rfl⟩ := Engine.act_new happens there there'
      exact ⟨rfl, .inl rfl⟩
  | some r =>
      obtain ⟨none_so_far, state⟩ := ih before there
      have orderly := orderly_run config acts there
      have closed : r.emitting = false := orderly.emitting.trans <|
        Bool.eq_false_iff.mpr fun atWork => before (called_of_isHandling there atWork)
      obtain ⟨q, atPlace, ⟨rfl, -⟩ | change⟩ := Engine.act_run happens there
      · obtain rfl := Option.some.inj (atPlace.symm.trans there')
        exact ⟨none_so_far, state⟩
      · obtain rfl := Option.some.inj (atPlace.symm.trans there')
        refine ⟨(change.delivered closed).trans none_so_far, ?_⟩
        cases entering : r.stage.isEntering with
        | true =>
            rcases change.of_entering orderly entering with ⟨-, same, -⟩ | ⟨-, -, canceled, -⟩ |
              ⟨-, handling, -⟩
            · exact same ▸ state
            · exact .inr canceled
            · exact absurd ⟨q, there', handling⟩ idle
        | false =>
            have ended := ((greeted_run config acts there).refusal before entering).1
            exact (change.of_finished orderly ended).2.1 ▸ state

section Told

variable {config : ExecutorConfig} {acts : List Action} {id : ℕ} {r : Run} {xs : List Emission}

/-- **The calls of the emitter** are the first ones of those that should be made, none of which
has failed, and maybe one more, which has. -/
lemma recited_run (there : (Timeline.run (.new config) acts).now.runs[id]? = some r)
    (recites : r.body.Recites xs) (entrusted : (Timeline.run (.new config) acts).Entrusted) :
    Recited xs (xs.take r.delivered) (attempts id (Timeline.run (.new config) acts).past) := by
  obtain ⟨said, recited⟩ := (reciting_run config acts there recites entrusted).1.recited
  rwa [(accounted_run config acts there).delivered, recited.countP, ← recited.eq_take]

/-- No more is emitted than there is. -/
lemma delivered_le_length (there : (Timeline.run (.new config) acts).now.runs[id]? = some r)
    (recites : r.body.Recites xs) (entrusted : (Timeline.run (.new config) acts).Entrusted) :
    r.delivered ≤ xs.length := by
  have count := (accounted_run config acts there).delivered
  rw [(recited_run there recites entrusted).countP] at count
  exact count ▸ List.length_take_le' ..

/-- **What a reader has got and will get** is what was emitted, if it is still there, and the
beginning of that if it is not. -/
lemma announced_run (there : (Timeline.run (.new config) acts).now.runs[id]? = some r)
    (recites : r.body.Recites xs) (entrusted : (Timeline.run (.new config) acts).Entrusted) :
    let got := pieces (received id (Timeline.run (.new config) acts).past ++ r.queue)
    got <+: announced (xs.take r.delivered)
      ∧ (r.reading = true → got = announced (xs.take r.delivered)) := by
  have recited := recited_run there recites entrusted
  have events := congrArg (List.map Attempt.event?) recited.accomplished
  rw [events_spoken] at events
  refine ⟨?_, fun reading => ?_⟩
  · have heard := heard_run config acts there
    rw [events] at heard
    exact (List.prefix_map_iff_of_injective (Option.some_injective _)).mp heard
  · have queued := (accounted_run config acts there).queued reading
    rw [← accomplished, events] at queued
    exact (List.map_injective_iff.mpr (Option.some_injective _)) queued

/-- **A handler that has emitted all is at its end.** -/
lemma stage_of_all_delivered (there : (Timeline.run (.new config) acts).now.runs[id]? = some r)
    (recites : r.body.Recites xs) (entrusted : (Timeline.run (.new config) acts).Entrusted)
    (handling : r.stage.isHandling = true) (all : r.delivered = xs.length) :
    r.stage = .active (.done (.ok .null)) := by
  have sofar := (reciting_run config acts there recites entrusted).1
  have count := (accounted_run config acts there).delivered
  -- otherwise there would be something left
  have none_left {b : Behaviour} (h : b.Reciting xs
      (attempts id (Timeline.run (.new config) acts).past)) : b.Recites [] := by
    cases h with
    | @speaks said left eq rest calls =>
        rw [calls, countP_spoken] at count
        obtain rfl : left = [] := by
          have length := congrArg List.length eq
          rw [List.length_append] at length
          exact List.eq_nil_of_length_eq_zero (by omega)
        exact rest
    | stops stopped recited short =>
        rw [recited.countP] at count
        omega
  cases stage : r.stage with
  | arriving | waiting | delivering | finished => simp [stage, Stage.isHandling] at handling
  | active b =>
      rw [stage] at sofar
      cases none_left sofar
      rfl
  | asleep wakeAt watching next =>
      rw [stage] at sofar
      cases none_left sofar

/-- The count of what was emitted stays as it is once the handler has returned. -/
lemma delivered_later (config : ExecutorConfig) (acts more : List Action) {q : Run}
    (there : (Timeline.run (.new config) acts).now.runs[id]? = some q)
    (past : q.stage.isPast = true) :
    ∃ r, (Timeline.run (.new config) (acts ++ more)).now.runs[id]? = some r
      ∧ r.stage.isPast = true ∧ r.delivered = q.delivered := by
  refine Timeline.run_later (P := fun t => ∃ r, t.now.runs[id]? = some r ∧ r.stage.isPast = true
    ∧ r.delivered = q.delivered) ⟨q, there, past, rfl⟩ ?_ more
  rintro acts' a e' ⟨r, there, past, same⟩ happens
  obtain ⟨r', there', ⟨rfl, -⟩ | change⟩ := Engine.act_run happens there
  · exact ⟨r', there', past, same⟩
  · have closed := (orderly_run config acts' there).closed past
    exact ⟨r', there', change.isPast past, (change.delivered closed).trans same⟩

section Return

variable {e : Engine} {q : Run} {o : Outcome} {last : Event} {before since : List (Engine × Action)}

/-- **The outcome says whether all was emitted.** -/
lemma Decided.outcome
    (h : Decided config id (Timeline.run (.new config) acts) r e q o last before since)
    (there : (Timeline.run (.new config) acts).now.runs[id]? = some r)
    (recites : r.body.Recites xs) (entrusted : (Timeline.run (.new config) acts).Entrusted) :
    (q.delivered = r.delivered ∧ r.tool = q.tool) ∧ ((r.delivered = xs.length ∧ o = .ok .null)
      ∨ (r.delivered < xs.length ∧ ∃ error, o = .failed error)) := by
  obtain ⟨earlier, later, rfl, moment⟩ := Timeline.run_of_past h.split
  have atPlace : (Timeline.run (.new config) earlier).now.runs[id]? = some q := by
    rw [moment]
    exact h.there
  have unchanged : q.delivered = r.delivered := by
    obtain ⟨before', later', same, returned⟩ := returned_of_past h.split h.there h.active
    have bound := (List.getElem?_eq_some_iff.mp h.there).1
    rw [same] at there
    obtain ⟨q', after, past, same⟩ : ∃ q',
        (Timeline.run (.new config) (before' ++ [.advance id])).now.runs[id]? = some q'
          ∧ q'.stage.isPast = true ∧ q'.delivered = q.delivered := by
      rw [returned]
      exact ⟨_, List.getElem?_set_self bound, rfl, rfl⟩
    obtain ⟨r', atPlace', -, kept⟩ := delivered_later config _ later' after past
    obtain rfl := Option.some.inj (atPlace'.symm.trans there)
    exact (kept.trans same).symm
  obtain ⟨tool, -, body⟩ := sameWork_later earlier (.advance id :: later) atPlace there
  refine ⟨⟨unchanged, tool⟩, ?_⟩
  have earlierRecites : q.body.Recites xs := body ▸ recites
  have sofar := (reciting_run config earlier atPlace earlierRecites
    (entrusted.of_isPrefix (Timeline.past_isPrefix _ earlier _))).1
  have count := (accounted_run config earlier atPlace).delivered
  rw [h.active] at sofar
  rw [← unchanged]
  cases sofar with
  | speaks all rest calls =>
      cases rest with
      | ends =>
          rw [calls, countP_spoken] at count
          rw [all, List.append_nil]
          exact .inl ⟨count, rfl⟩
  | @stops said error stopped recited short =>
      obtain rfl : o = .failed error := Behaviour.done.inj stopped
      rw [recited.countP] at count
      exact .inr ⟨count ▸ short, error, rfl⟩

/-- **An invocation ends well exactly if all was emitted.** -/
lemma Decided.recited
    (h : Decided config id (Timeline.run (.new config) acts) r e q o last before since)
    (there : (Timeline.run (.new config) acts).now.runs[id]? = some r)
    (recites : r.body.Recites xs) (entrusted : (Timeline.run (.new config) acts).Entrusted) :
    (r.delivered = xs.length ∧ r.state = .done
      ∧ last = .done (e.now - q.started) xs.length (some (r.tool ++ " completed")) none)
    ∨ (r.delivered < xs.length ∧ r.state ≠ .done
      ∧ ∃ message retryable, last = .error message retryable) := by
  obtain ⟨⟨same, tool⟩, ⟨all, rfl⟩ | ⟨few, error, rfl⟩⟩ := h.outcome there recites entrusted
  · have verdict := h.verdict
    generalize r.state = shown, (e.after (.advance id)).counters = counts at verdict ⊢
    cases verdict with
    | value returned =>
        obtain rfl := Outcome.ok.inj returned
        exact .inl ⟨all, rfl, by rw [same, all, tool]; rfl⟩
    | cancelled failed | timedOut failed | failed failed => cases failed
  · refine .inr ⟨few, ?_, h.verdict.of_failed⟩
    have verdict := h.verdict
    generalize r.state = shown, (e.after (.advance id)).counters = counts at verdict ⊢
    cases verdict with
    | value returned => cases returned
    | cancelled | timedOut | failed => simp

/-- **All that a reader gets that reads to the end**: the start, what was emitted, and the last
event, unless that is given up. -/
lemma Decided.told
    (h : Decided config id (Timeline.run (.new config) acts) r e q o last before since)
    (there : (Timeline.run (.new config) acts).now.runs[id]? = some r)
    (recites : r.body.Recites xs) (entrusted : (Timeline.run (.new config) acts).Entrusted)
    (kept : .drop id ∉ acts)
    (drained : .ended ∈ readings id (Timeline.run (.new config) acts).past) :
    let got := received id (Timeline.run (.new config) acts).past
    let opening := .start r.tool r.requestId r.args :: announced (xs.take r.delivered)
    (got = opening ++ [last] ∧ lossesOf id since = 0)
      ∨ (got = opening ∧ Stalled config.capacity (timerAfter e.now config.terminalTimeout) id since
        ∧ lossesOf id since = 1) := by
  intro got opening
  have reading := reading_of_kept config acts kept there
  have empty := ((final_run config acts there).closed drained).2
  have called : Called id (Timeline.run (.new config) acts) := by
    refine ⟨e, List.mem_append_left _ ?_, q, h.there, by rw [h.active]; rfl⟩
    rw [h.split]
    simp
  have first := (greeted_run config acts there).start called reading
  have heard := (announced_run there recites entrusted).2 reading
  rw [empty, List.append_nil] at first heard
  obtain ⟨ending, shape, terminal⟩ := (orderly_run config acts there).incipient.of_start first
  rw [heard] at shape
  cases ending with
  | some x =>
      have seen : x ∈ received id (Timeline.run (.new config) acts).past := by
        rw [shape]
        simp
      obtain ⟨rfl, lossless⟩ := h.eq_last seen (terminal x rfl)
      exact .inl ⟨shape, lossless⟩
  | none =>
      rw [Option.toList_none, List.append_nil] at shape
      rcases h.drained there kept drained with ⟨before', got', -⟩ | lost
      · -- the last event is neither the start nor a piece
        have seen : last ∈ opening := by
          rw [show opening = _ from shape.symm, got']
          simp
        have silent := sequence?_of_isTerminal h.verdict.isTerminal
        rcases List.mem_cons.mp seen with rfl | among
        · cases h.verdict.isTerminal
        · rw [← heard] at among
          simp [pieces, silent] at among
      · exact .inr ⟨shape, lost⟩

/-- **What a call makes of all that**: if all was emitted, the pieces of data in it, unless the
last event is given up, and otherwise an error. -/
lemma Decided.reported
    (h : Decided config id (Timeline.run (.new config) acts) r e q o last before since)
    (there : (Timeline.run (.new config) acts).now.runs[id]? = some r)
    (recites : r.body.Recites xs) (entrusted : (Timeline.run (.new config) acts).Entrusted)
    (kept : .drop id ∉ acts)
    (drained : .ended ∈ readings id (Timeline.run (.new config) acts).past) {c : Call}
    (fresh : c.chunks = []) :
    let result := c.collect (received id (Timeline.run (.new config) acts).past)
    let chunks := xs.filterMap Emission.chunk?
    (r.delivered = xs.length ∧ lossesOf id since = 0
        ∧ result = .ok (textResult (if chunks.isEmpty then .null else .array chunks)))
      ∨ (r.delivered = xs.length
        ∧ Stalled config.capacity (timerAfter e.now config.terminalTimeout) id since
        ∧ lossesOf id since = 1 ∧ result = .error streamClosed)
      ∨ (r.delivered < xs.length ∧ ∃ error, result = .error error) := by
  intro result chunks
  have fate := h.collected there kept drained fresh
  rcases (h.outcome there recites entrusted).2 with ⟨all, value⟩ | ⟨few, failure, failed⟩
  · rcases fate with ⟨lossless, -, answer, -⟩ | lost
    · have recited := recited_run there recites entrusted
      rw [all, List.take_length] at recited
      have answer := answer value
      rw [accepted, recited.chunks] at answer
      exact .inl ⟨all, lossless, answer⟩
    · exact .inr (.inl ⟨all, lost⟩)
  · refine .inr (.inr ⟨few, ?_⟩)
    rcases fate with ⟨-, -, -, failure⟩ | ⟨-, -, cut⟩
    · obtain ⟨message, retryable, same⟩ := (failed ▸ h.verdict).of_failed
      exact ⟨_, failure message retryable same⟩
    · exact ⟨_, cut⟩

end Return

end Told

/-- If nobody calls an emitter from outside, nobody does so without having it. -/
lemma Timeline.entrusted_of_silent {e : Engine} {acts : List Action}
    (silent : ∀ id x, .emit id x ∉ acts) : (run e acts).Entrusted :=
  fun _ hm id x emits => absurd (emits ▸ mem_of_past hm) (silent id x)

/-- A reader that asks calls no emitter. -/
lemma Timeline.Entrusted.take {e : Engine} {acts : List Action} (h : (run e acts).Entrusted)
    (id : ℕ) : (run e (acts ++ [.take id])).Entrusted := by
  rw [run_concat]
  cases happens : (run e acts).now.act (.take id) with
  | none =>
      rw [next_of_none happens]
      exact h
  | some e' =>
      rw [next_of_some happens]
      intro m hm i x emits
      rcases List.mem_append.mp hm with before | now
      · exact h m before i x emits
      · obtain rfl := List.mem_singleton.mp now
        cases emits

end ToolServer.Execution

/-! ### Calls -/

namespace ToolServer.Router

open ToolServer.Cache (Backend)
open ToolServer.Execution (Timeline Emission Decided Called Stalled lossesOf)

section Calls

variable {config : ExecutorConfig} {s : Server Backend} {acts : List Action} {c : Conversation}

/-- **What is answered to a call whose handler emits given things one after another.** -/
lemma recital_run (new : s.engine = .new config) (empty : s.cache.entries = [])
    (entrusted : (Timeline.run (.new config) (chronicle ⟨s, []⟩ acts)).Entrusted)
    (hc : c ∈ (run ⟨s, []⟩ acts).calls) {time id : ℕ} {result : Except RpcError Json}
    (answered : c.progress = .answered time (.run id) result) (unshared : Unshared id acts)
    {xs : List Emission} (recites : (c.tool.handler c.args).Recites xs) :
    ∃ before after r, chronicle ⟨s, []⟩ acts = before ++ .drop id :: after ∧ .drop id ∉ before ∧
      let drained := Timeline.run (.new config) (before ++ [.take id])
      let chunks := xs.filterMap Emission.chunk?
      drained.now.runs[id]? = some r
      ∧ (¬ Called id drained → r.delivered = 0
        ∧ result = .error (.toolFailed Execution.Engine.cancelledEarly false))
      ∧ (Called id drained → ∃ e q o last earlier since,
        Decided config id drained r e q o last earlier since
        ∧ ((r.delivered = xs.length ∧ lossesOf id since = 0
            ∧ result = .ok (textResult (if chunks.isEmpty then .null else .array chunks)))
          ∨ (r.delivered = xs.length
            ∧ Stalled config.capacity (Execution.timerAfter e.now config.terminalTimeout) id since
            ∧ lossesOf id since = 1 ∧ result = .error streamClosed)
          ∨ (r.delivered < xs.length ∧ ∃ error, result = .error error))) := by
  obtain ⟨before, after, r, read⟩ := readOut_run new empty acts hc answered unshared
  have kept : .drop id ∉ before ++ [.take id] := by simp [read.kept]
  have body : r.body.Recites xs := by
    obtain ⟨w, there, -, -, handler⟩ := (sound_run empty acts).exists_worker hc
      (by rw [answered]; rfl)
    obtain ⟨q, atPlace, -⟩ := Execution.stage_of_take before read.there
    rw [← chronicle_now, new, read.split] at there
    rwa [Execution.body_later before _ atPlace read.there,
      ← Execution.body_later before _ atPlace there, handler]
  have entrusted : (Timeline.run (.new config) (before ++ [.take id])).Entrusted := by
    refine (entrusted.of_isPrefix ?_).take id
    rw [read.split]
    exact Timeline.past_isPrefix _ before _
  refine ⟨before, after, r, read.split, read.kept, read.there, fun uncalled => ?_, fun called => ?_⟩
  · refine ⟨(Execution.uncalled_run config _ read.there uncalled).1, ?_⟩
    rw [read.collected]
    exact Execution.collected_of_uncalled read.there kept read.ended uncalled
  · obtain ⟨e, q, o, last, earlier, since, decided⟩ :=
      Execution.decided_run config _ read.there called read.past
    refine ⟨e, q, o, last, earlier, since, decided, ?_⟩
    rw [read.collected]
    exact decided.reported read.there body entrusted kept read.ended rfl

/-- **Once its handler has returned, a call is answered** if only its invocation and calls
go on. -/
lemma answerable_of_isPast {t : Router} {i : ℕ} {call : Call} {r : Execution.Run}
    (there : t.calls[i]? = some c) (underWay : c.progress = .underWay call)
    (atPlace : t.server.engine.runs[call.run]? = some r) (past : r.stage.isPast = true) :
    t.Answerable i call.run := by
  cases stage : r.stage with
  | delivering last giveUp => exact answerable_of_delivering there underWay atPlace stage
  | finished => exact answerable_of_finished there underWay atPlace stage
  | arriving | waiting | active | asleep => simp [stage, Execution.Stage.isPast] at past

end Calls

end ToolServer.Router
