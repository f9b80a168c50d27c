/-
Handlers that pour out their result:

* `Behaviour.Pours`: a handler that emits a number of pieces of data in a row, passes the first
  failure on, and ends without a value;
* `Engine.stage_advance`: what a step does to a handler and to the calls of its emitter;
* `Behaviour.Pouring`, `pouring_run`: how far such a handler has come, which is as far as the
  calls of its emitter;
* `outcome_of_unread`: its outcome, if nothing has been read so far;
* `Engine.Returning`, `Behaviour.Pours.returning`: it returns by steps of its own;
* `Timeline.act_of_past`, `returns_once`, `Decided.full`: the moment of the return, of which
  there is only one, and what the queue holds then if the last event is given up.

Looking at the invocation, counting and sharing may come in between the emissions, but no pause.
-/
import ToolServer.Proofs.Execution.Crowding
import ToolServer.Proofs.Server.Collected

namespace ToolServer.Execution

/-! ### Handlers that pour out their result -/

/-- Whether a handler emits some number of pieces of data in a row, whatever it sees, and then
ends without a value. It passes the first failure of an emission on. -/
inductive Behaviour.Pours : ℕ → Behaviour → Prop
  | ends : Pours 0 (.done (.ok .null))
  | emits {n : ℕ} {chunk : Json} {next : Option EmitError → Behaviour}
      (goesOn : Pours n (next none))
      (passesOn : ∀ error, next (some error) = .done (.failed (.ofEmit error))) :
      Pours (n + 1) (.emit (.data chunk) next)
  | looks {n : ℕ} {next : View → Behaviour} (goesOn : ∀ view, Pours n (next view)) :
      Pours n (.look next)
  | counts {n : ℕ} {counter : String} {next : ℕ → Behaviour} (goesOn : ∀ sum, Pours n (next sum)) :
      Pours n (.count counter next)
  | shares {n : ℕ} {name : String} {next : Behaviour} (goesOn : Pours n next) :
      Pours n (.share name next)

/-- How far a handler has come that pours out some number of pieces of data, after some calls of
its emitter. -/
inductive Behaviour.Pouring (n : ℕ) (calls : List Attempt) (b : Behaviour) : Prop
  /-- None has failed, and the other pieces are to come. -/
  | flows {left : ℕ} (rest : b.Pours left) (all : calls.length + left = n)
      (accepted : ∀ c ∈ calls, c.answer = none ∧ ∃ chunk, c.emission = .data chunk)
  /-- One has failed. -/
  | stops {error : EmitError} (stopped : b = .done (.failed (.ofEmit error)))
      (few : calls.length ≤ n) (unclosed : ∀ c ∈ calls, c.answer ≠ some .closed)
      (failed : some error ∈ calls.map Attempt.answer)

/-- Where an invocation stands whose handler pours out some number of pieces of data, after some
calls of its emitter. It never pauses. -/
def Stage.Pouring (n : ℕ) (calls : List Attempt) : Stage → Prop
  | .arriving | .waiting => calls = []
  | .active b => b.Pouring n calls
  | .asleep .. => False
  | .delivering .. | .finished => True

/-- Before an invocation has its slot its emitter has not been called by its handler. -/
lemma Stage.pouring_of_isEntering {s : Stage} {n : ℕ} {calls : List Attempt}
    (entering : s.isEntering = true) : s.Pouring n calls ↔ calls = [] := by
  cases s with
  | arriving | waiting => exact Iff.rfl
  | active | asleep | delivering | finished => cases entering

/-- Once the handler has returned nothing more is asked. -/
lemma Stage.pouring_of_isPast {s : Stage} {n : ℕ} {calls : List Attempt}
    (past : s.isPast = true) : s.Pouring n calls := by
  cases s with
  | delivering | finished => trivial
  | arriving | waiting | active | asleep => cases past

/-- An emission takes such a handler one piece further, or stops it. -/
lemma Behaviour.Pouring.emit {n : ℕ} {calls : List Attempt} {x : Emission}
    {next : Option EmitError → Behaviour} (h : Pouring n calls (.emit x next)) {c : Attempt}
    (emission : c.emission = x) (unclosed : c.answer ≠ some .closed) :
    Pouring n (calls ++ [c]) (next c.answer) := by
  cases h with
  | stops stopped => cases stopped
  | @flows left rest all accepted =>
      cases rest with
      | @emits left chunk _ goesOn passesOn =>
          cases answer : c.answer with
          | none =>
              refine .flows goesOn (by rw [List.length_append, List.length_singleton]; omega) ?_
              intro d hd
              rcases List.mem_append.mp hd with before | now
              · exact accepted d before
              · obtain rfl := List.mem_singleton.mp now
                exact ⟨answer, chunk, emission⟩
          | some error =>
              refine .stops (passesOn error)
                (by rw [List.length_append, List.length_singleton]; omega) ?_ (by simp [answer])
              intro d hd
              rcases List.mem_append.mp hd with before | now
              · simp [(accepted d before).1]
              · obtain rfl := List.mem_singleton.mp now
                exact unclosed

/-- No other step takes such a handler anywhere else. -/
lemma Stage.Follows.pouring {e : Engine} {r : Run} {s s' : Stage} (follows : Follows e r s s')
    {n : ℕ} {calls : List Attempt} (h : s.Pouring n calls) : s'.Pouring n calls := by
  cases follows with
  | cancelled | elapsed => exact h.elim
  | looked next =>
      cases h with
      | stops stopped => cases stopped
      | flows rest all accepted =>
          cases rest with
          | looks goesOn => exact .flows (goesOn _) all accepted
  | counted counter next =>
      cases h with
      | stops stopped => cases stopped
      | flows rest all accepted =>
          cases rest with
          | counts goesOn => exact .flows (goesOn _) all accepted
  | shared name next =>
      cases h with
      | stops stopped => cases stopped
      | flows rest all accepted =>
          cases rest with
          | shares goesOn => exact .flows goesOn all accepted
  | paused span watching next =>
      cases h with
      | stops stopped => cases stopped
      | flows rest => cases rest

/-- **What a step of an invocation does to its handler and to the calls of its emitter**: the
handler starts, or goes on waiting for its slot, it calls the emitter, it takes another step, or it
is over. -/
lemma Engine.stage_advance {e e' : Engine} {id : ℕ} {r r' : Run} {calls : List Attempt}
    {P : List Attempt → Stage → Prop} (happens : e.act (.advance id) = some e')
    (there : e.runs[id]? = some r) (there' : e'.runs[id]? = some r')
    (starts : r.stage.isEntering = true → P calls (.active r.body))
    (waits : r.stage.isEntering = true → P calls .waiting)
    (emits : ∀ x next, r.stage = .active (.emit x next) →
      P (calls ++ [e.attempt r x]) (.active (next (e.attempt r x).answer)))
    (moves : ∀ s, Stage.Follows e r r.stage s → P calls s)
    (ends : ∀ s : Stage, s.isPast = true → P calls s) :
    P (calls ++ (e.attempt? (.advance id) id).toList) r'.stage := by
  have bound := (List.getElem?_eq_some_iff.mp there).1
  have silent (other : ∀ x next, r.stage ≠ .active (.emit x next)) :
      calls ++ (e.attempt? (.advance id) id).toList = calls := by
    rw [attempt?_of_silent (call?_of_other there other), Option.toList_none, List.append_nil]
  cases act_step happens with
  | refused atPlace entering =>
      obtain rfl := Option.some.inj (atPlace.symm.trans there)
      obtain rfl := Option.some.inj ((turnAway_run atPlace).symm.trans there')
      rw [silent (ne_emit_of_isEntering entering)]
      exact ends _ rfl
  | admitted atPlace entering | begun atPlace entering =>
      obtain rfl := Option.some.inj (atPlace.symm.trans there)
      obtain rfl := Option.some.inj ((begin_run atPlace).symm.trans there')
      rw [silent (ne_emit_of_isEntering entering)]
      exact starts entering
  | queued atPlace entering =>
      obtain rfl := Option.some.inj (atPlace.symm.trans there)
      obtain rfl : r' = _ := by simpa [bound] using there'.symm
      rw [silent (ne_emit_of_isEntering entering)]
      exact waits entering
  | @emitted _ _ x next atPlace active =>
      obtain rfl := Option.some.inj (atPlace.symm.trans there)
      obtain rfl : r' = _ := by simpa [publish_runs, bound] using there'.symm
      rw [attempt?_of_call (call?_of_emit atPlace active), if_pos rfl, Option.toList_some]
      exact emits x next active
  | moved tally shared atPlace follows =>
      obtain rfl := Option.some.inj (atPlace.symm.trans there)
      obtain rfl : r' = _ := by simpa [bound] using there'.symm
      rw [silent (ne_emit_of_follows follows)]
      exact moves _ follows
  | concluded atPlace active =>
      obtain rfl := Option.some.inj (atPlace.symm.trans there)
      obtain rfl : r' = _ := by simpa [conclude, bound] using there'.symm
      rw [silent (by simp [active])]
      exact ends _ rfl
  | finished atPlace delivering settled | gaveUp atPlace delivering settled =>
      obtain rfl := Option.some.inj (atPlace.symm.trans there)
      rw [silent (by simp [delivering])]
      refine ends _ ?_
      obtain rfl := Option.some.inj ((settle_cases atPlace delivering happens).1.symm.trans there')
      rfl

/-- A step of an invocation takes its handler one piece further at most. -/
lemma Engine.pouring_advance {e e' : Engine} {id n : ℕ} {r r' : Run} {calls : List Attempt}
    (happens : e.act (.advance id) = some e') (there : e.runs[id]? = some r)
    (there' : e'.runs[id]? = some r') (pours : r.body.Pours n)
    (opened : r.stage.isHandling = true → r.emitting = true) (h : r.stage.Pouring n calls) :
    r'.stage.Pouring n (calls ++ (e.attempt? (.advance id) id).toList) := by
  refine stage_advance (P := fun calls s => s.Pouring n calls) happens there there' ?_ ?_ ?_
    (fun _ follows => follows.pouring h) fun _ => Stage.pouring_of_isPast
  · intro entering
    obtain rfl := (Stage.pouring_of_isEntering entering).mp h
    exact .flows pours (Nat.zero_add n) (by simp)
  · exact fun entering => (Stage.pouring_of_isEntering entering).mp h
  · intro x next active
    rw [active] at h opened
    exact Behaviour.Pouring.emit h (c := e.attempt r x) rfl
      (Run.publish_ne_closed (opened rfl) _ _ _ _)

/-- An emitter is called by a step of its invocation or from outside. -/
lemma Engine.attempt?_of_other {e : Engine} {a : Action} {id : ℕ} (own : a ≠ .advance id)
    (outside : ∀ x, a ≠ .emit id x) : e.attempt? a id = none := by
  cases a with
  | advance i =>
      have apart : i ≠ id := fun same => own (congrArg Action.advance same)
      simp only [attempt?, call?]
      split
      · split
        · exact if_neg apart
        · rfl
      · rfl
  | emit i x =>
      have apart : i ≠ id := by
        rintro rfl
        exact outside x rfl
      simp only [attempt?, call?]
      cases e.runs[i]? with
      | none => rfl
      | some r => exact if_neg apart
  | branch | submit | expire | cancel | take | drop | wait | meddle => rfl

/-- **At any time a handler that pours out pieces of data has come as far as the calls of its
emitter**, if nobody else calls it. -/
lemma pouring_run (config : ExecutorConfig) (acts : List Action) {id n : ℕ} {r : Run}
    (there : (Timeline.run (.new config) acts).now.runs[id]? = some r) (pours : r.body.Pours n)
    (alone : ∀ m ∈ (Timeline.run (.new config) acts).past, ∀ x, m.2 ≠ .emit id x) :
    r.stage.Pouring n (attempts id (Timeline.run (.new config) acts).past) := by
  revert r alone
  refine Timeline.run_invariant (P := fun t => ∀ {r : Run}, t.now.runs[id]? = some r →
    r.body.Pours n → (∀ m ∈ t.past, ∀ x, m.2 ≠ .emit id x) →
      r.stage.Pouring n (attempts id t.past)) (by simp [Engine.new]) ?_ acts
  intro acts a e' ih happens r' there' pours' alone
  rw [attempts_concat]
  cases there : (Timeline.run (.new config) acts).now.runs[id]? with
  | none =>
      obtain ⟨-, _, _, _, _, _, rfl⟩ := Engine.act_new happens there there'
      rw [attempts_of_absent acts there, Engine.attempt?_of_absent happens there]
      rfl
  | some r =>
      have pours : r.body.Pours n := by
        obtain ⟨q, atPlace, same⟩ := (Engine.Extends.of_act happens).runs id r there
        obtain rfl := Option.some.inj (atPlace.symm.trans there')
        exact same.2.2 ▸ pours'
      have sofar := ih there pours fun m hm => alone m (List.mem_append_left _ hm)
      by_cases own : a = .advance id
      · subst own
        exact Engine.pouring_advance happens there there' pours
          (fun handling => (orderly_run config acts there).emitting.trans handling) sofar
      · obtain ⟨q, atPlace, same⟩ := Engine.act_stage_of_other happens there own
        obtain rfl := Option.some.inj (atPlace.symm.trans there')
        have silent : (Timeline.run (.new config) acts).now.attempt? a id = none :=
          Engine.attempt?_of_other own
            (alone _ (List.mem_append_right _ (List.mem_singleton_self _)))
        rw [silent, Option.toList_none, List.append_nil, same]
        exact sofar

/-- **The outcome of a handler that pours out pieces of data before anything is read**: no value
if all find room, and otherwise the failure of the first one that does not. -/
lemma outcome_of_unread (config : ExecutorConfig) (acts : List Action) {id n : ℕ} {r : Run}
    {o : Outcome} (there : (Timeline.run (.new config) acts).now.runs[id]? = some r)
    (active : r.stage = .active (.done o)) (pours : r.body.Pours n)
    (alone : ∀ m ∈ (Timeline.run (.new config) acts).past, ∀ x, m.2 ≠ .emit id x)
    (reading : r.reading = true)
    (unread : received id (Timeline.run (.new config) acts).past = [])
    (wanted : (Timeline.run (.new config) acts).now.isCancelled r.scope = false) :
    let calls := attempts id (Timeline.run (.new config) acts).past
    let room := config.capacity - 1
    (n ≤ min config.maxEvents room ∧ o = .ok .null ∧ calls.length = n
        ∧ ∀ c ∈ calls, c.answer = none ∧ ∃ chunk, c.emission = .data chunk)
      ∨ (min config.maxEvents room < n ∧ o = .failed (.ofEmit
        (if config.maxEvents ≤ room then .limitExceeded config.maxEvents else .channelFull))) := by
  intro calls room
  have sofar : r.stage.Pouring n calls := pouring_run config acts there pours alone
  have answers : (heard calls).map Attempt.answer
      = answersUnread config.maxEvents room (heard calls).length :=
    unread_run config acts there reading unread wanted
  clear_value calls room
  rw [active] at sofar
  cases sofar with
  | flows rest all accepted =>
      cases rest with
      | ends =>
          have same : heard calls = calls := List.filter_eq_self.mpr fun c hc => by
            simp [(accepted c hc).1]
          rw [same] at answers
          have succeeded := countP_answersUnread config.maxEvents room calls.length
          have none_failed : (calls.map Attempt.answer).countP (· = none) = calls.length := by
            rw [List.countP_map, List.countP_eq_length]
            exact fun c hc => by simp [(accepted c hc).1]
          rw [← answers, none_failed] at succeeded
          exact .inl ⟨by omega, rfl, all, accepted⟩
  | stops stopped few unclosed failed =>
      have same : heard calls = calls := List.filter_eq_self.mpr fun c hc => by
        simpa using unclosed c hc
      rw [same] at answers
      rw [answers, answersUnread, List.mem_append, List.mem_replicate, List.mem_replicate] at failed
      obtain ⟨-, none⟩ | ⟨some_left, same⟩ := failed
      · cases none
      · rw [Option.some.inj same] at stopped
        exact .inr ⟨by omega, by simpa using stopped⟩

/-! ### Handlers that return -/

/-- Whether the steps of an invocation alone lead to the return of its handler. -/
def Engine.Returning (e : Engine) (id : ℕ) : Prop :=
  ∃ k r last giveUp, (Timeline.run e (List.replicate k (.advance id))).now.runs[id]? = some r ∧
    r.stage = .delivering last giveUp

lemma Engine.Returning.of_act {e e' : Engine} {id : ℕ} (happens : e.act (.advance id) = some e')
    (h : e'.Returning id) : e.Returning id := by
  obtain ⟨k, r, last, giveUp, there, stage⟩ := h
  refine ⟨k + 1, r, last, giveUp, ?_, stage⟩
  have first : (Timeline.run e [.advance id]).now = e' := by
    simp [Timeline.run, Timeline.next, happens]
  rwa [List.replicate_succ, ← List.singleton_append, Timeline.run_append, first]

section Returning

variable {e : Engine} {id : ℕ} {r : Run} {b : Behaviour}

/-- A handler that is at work takes its next step. -/
lemma Engine.act_of_active (there : e.runs[id]? = some r) (active : r.stage = .active b) :
    e.act (.advance id) = some (e.perform id r b) := by
  simp [act, advance, there, advanceRun, active]

lemma Engine.returning_of_done {o : Outcome} (there : e.runs[id]? = some r)
    (active : r.stage = .active (.done o)) : e.Returning id := by
  have bound := (List.getElem?_eq_some_iff.mp there).1
  exact .of_act (act_of_active there active) ⟨0, _, _, _, List.getElem?_set_self bound, rfl⟩

/-- **A handler that pours out pieces of data returns**, by steps of its own. -/
lemma Behaviour.Pours.returning {n : ℕ} (pours : b.Pours n) (there : e.runs[id]? = some r)
    (active : r.stage = .active b) : e.Returning id := by
  induction pours generalizing e r with
  | ends => exact Engine.returning_of_done there active
  | @emits n chunk next goesOn passesOn ih =>
      have bound := (List.getElem?_eq_some_iff.mp there).1
      refine .of_act (Engine.act_of_active there active) ?_
      have there' : (e.perform id r (.emit (.data chunk) next)).runs[id]?
          = some { (e.publish id r (.data chunk)).2.1 with
            stage := .active (next (e.publish id r (.data chunk)).2.2) } := by
        simp [Engine.perform, Engine.publish_runs, bound]
      cases answer : (e.publish id r (.data chunk)).2.2 with
      | none => exact ih there' (by rw [answer])
      | some error => exact Engine.returning_of_done there' (by rw [answer, passesOn])
  | looks goesOn ih | counts goesOn ih =>
      have bound := (List.getElem?_eq_some_iff.mp there).1
      exact .of_act (Engine.act_of_active there active) (ih _ (List.getElem?_set_self bound) rfl)
  | shares goesOn ih =>
      have bound := (List.getElem?_eq_some_iff.mp there).1
      exact .of_act (Engine.act_of_active there active) (ih (List.getElem?_set_self bound) rfl)

end Returning

/-! ### The moment of the return -/

/-- What an action in the past of a run led to is what came next. -/
lemma Timeline.act_of_past {e : Engine} {acts : List Action} {m : Engine × Action}
    {before since : List (Engine × Action)} (split : (run e acts).past = before ++ m :: since) :
    m.1.act m.2 = (since.map (·.1) ++ [(run e acts).now]).head? := by
  induction acts using List.reverseRecOn generalizing since with
  | nil => simp [run] at split
  | append_singleton acts a ih =>
      rw [run_concat] at split ⊢
      cases happens : (run e acts).now.act a with
      | none =>
          rw [next_of_none happens] at split ⊢
          exact ih split
      | some e' =>
          rw [next_of_some happens] at split ⊢
          rcases List.eq_nil_or_concat since with rfl | ⟨since, m', rfl⟩
          · obtain ⟨-, now⟩ := List.append_inj' split rfl
            obtain rfl := (List.singleton_inj.mp now).symm
            exact happens
          · rw [List.concat_eq_append, ← List.cons_append, ← List.append_assoc] at split
            obtain ⟨earlier, now⟩ := List.append_inj' split rfl
            obtain rfl := (List.singleton_inj.mp now).symm
            rw [ih earlier]
            cases since <;> simp

/-- A handler that has returned is not at work again. -/
lemma isPast_later (config : ExecutorConfig) (acts more : List Action) {id : ℕ} {r : Run}
    (there : (Timeline.run (.new config) acts).now.runs[id]? = some r)
    (past : r.stage.isPast = true) :
    ∃ r', (Timeline.run (.new config) (acts ++ more)).now.runs[id]? = some r' ∧
      r'.stage.isPast = true := by
  refine Timeline.run_later (P := fun t => ∃ r, t.now.runs[id]? = some r ∧ r.stage.isPast = true)
    ⟨r, there, past⟩ ?_ more
  rintro acts' a e' ⟨r, there, past⟩ happens
  obtain ⟨r', there', ⟨rfl, -⟩ | change⟩ := Engine.act_run happens there
  · exact ⟨r', there', past⟩
  · exact ⟨r', there', change.isPast past⟩

section Return

variable {config : ExecutorConfig} {acts : List Action} {id : ℕ} {e e' : Engine} {q q' : Run}
  {o o' : Outcome} {before before' mid since since' : List (Engine × Action)}

/-- What a run was right after the return of a handler in its past. -/
lemma returned_of_past
    (split : (Timeline.run (.new config) acts).past = before ++ (e, .advance id) :: since)
    (there : e.runs[id]? = some q) (active : q.stage = .active (.done o)) :
    ∃ earlier later, acts = (earlier ++ [.advance id]) ++ later ∧
      Timeline.run (.new config) (earlier ++ [.advance id])
        = ⟨e.perform id q (.done o), before ++ [(e, .advance id)]⟩ := by
  obtain ⟨earlier, later, rfl, moment⟩ := Timeline.run_of_past split
  refine ⟨earlier, later, by simp, ?_⟩
  rw [Timeline.run_concat, moment, Timeline.next_of_some (Engine.act_of_active there active)]

/-- A handler does not return again. -/
lemma not_returns_again
    (split : (Timeline.run (.new config) acts).past
      = (before ++ (e, .advance id) :: mid) ++ (e', .advance id) :: since)
    (there : e.runs[id]? = some q) (active : q.stage = .active (.done o))
    (there' : e'.runs[id]? = some q') (active' : q'.stage = .active (.done o')) : False := by
  obtain ⟨until', -, -, moment'⟩ := Timeline.run_of_past split
  obtain ⟨earlier, later, rfl, returned⟩ :=
    returned_of_past (congrArg Timeline.past moment') there active
  have bound := (List.getElem?_eq_some_iff.mp there).1
  obtain ⟨r', stands, past⟩ := isPast_later config (earlier ++ [.advance id]) later
    (by rw [returned]; exact List.getElem?_set_self bound) rfl
  rw [moment'] at stands
  obtain rfl := Option.some.inj (stands.symm.trans there')
  simp [active', Stage.isPast] at past

/-- **A handler returns once.** -/
lemma returns_once
    (split : (Timeline.run (.new config) acts).past = before ++ (e, .advance id) :: since)
    (there : e.runs[id]? = some q) (active : q.stage = .active (.done o))
    (split' : (Timeline.run (.new config) acts).past = before' ++ (e', .advance id) :: since')
    (there' : e'.runs[id]? = some q') (active' : q'.stage = .active (.done o')) :
    before = before' ∧ e = e' ∧ since = since' := by
  rcases List.append_eq_append_iff.mp (split.symm.trans split') with
    ⟨mid, rfl, rest⟩ | ⟨mid, rfl, rest⟩
  · cases mid with
    | nil => simpa using rest
    | cons m mid =>
        obtain ⟨rfl, -⟩ := List.cons.inj rest
        exact (not_returns_again split' there active there' active').elim
  · cases mid with
    | nil => simpa [eq_comm] using rest
    | cons m mid =>
        obtain ⟨rfl, -⟩ := List.cons.inj rest
        exact (not_returns_again split there' active' there active).elim

/-- If the last event was given up, there was no room when the handler returned. -/
lemma Decided.full {r : Run} {last : Event} {giveUp : ℕ}
    (h : Decided config id (Timeline.run (.new config) acts) r e q o last before since)
    (stalled : Stalled config.capacity giveUp id since) : config.capacity ≤ q.queue.length := by
  obtain ⟨waiting, late, rest, rfl, full, -⟩ := stalled
  have bound := (List.getElem?_eq_some_iff.mp h.there).1
  have next := Timeline.act_of_past h.split
  rw [Engine.act_of_active h.there h.active] at next
  have first : e.perform id q (.done o) ∈ waiting.map (·.1) ++ [late] := by
    refine List.mem_of_mem_head? ?_
    cases waiting <;> simpa using next.symm
  obtain ⟨r', there, -, le⟩ := full _ first
  obtain rfl := Option.some.inj ((List.getElem?_set_self bound).symm.trans there)
  exact le

/-- Nothing is accepted after the return. -/
lemma accepted_of_returned
    (split : (Timeline.run (.new config) acts).past = before ++ (e, .advance id) :: since)
    (there : e.runs[id]? = some q) (active : q.stage = .active (.done o)) :
    accepted id (Timeline.run (.new config) acts).past = accepted id before := by
  obtain ⟨earlier, later, rfl, returned⟩ := returned_of_past split there active
  have bound := (List.getElem?_eq_some_iff.mp there).1
  have silent : e.attempt? (.advance id) id = none :=
    Engine.attempt?_of_silent (Engine.call?_of_other there (by simp [active])) id
  have closed := accepted_of_isPast config (earlier ++ [.advance id]) later
    (by rw [returned]; exact List.getElem?_set_self bound) rfl
  rw [closed, returned, accepted, attempts_concat, silent, Option.toList_none, List.append_nil,
    accepted]

end Return

/-- An invocation stays at its work. -/
lemma sameWork_later {e : Engine} (acts more : List Action) {id : ℕ} {r r' : Run}
    (there : (Timeline.run e acts).now.runs[id]? = some r)
    (there' : (Timeline.run e (acts ++ more)).now.runs[id]? = some r') : r.SameWork r' := by
  have later : (Timeline.run e acts).now.Extends (Timeline.run e (acts ++ more)).now :=
    Timeline.run_later (P := fun t => (Timeline.run e acts).now.Extends t.now) (.refl _)
      (fun _ _ _ ih happens => ih.trans (.of_act happens)) more
  obtain ⟨q, atPlace, same⟩ := later.runs id r there
  obtain rfl := Option.some.inj (atPlace.symm.trans there')
  exact same

/-- An invocation keeps its handler. -/
lemma body_later {e : Engine} (acts more : List Action) {id : ℕ} {r r' : Run}
    (there : (Timeline.run e acts).now.runs[id]? = some r)
    (there' : (Timeline.run e (acts ++ more)).now.runs[id]? = some r') : r'.body = r.body :=
  (sameWork_later acts more there there').2.2

/-- Pieces of data all of which are accepted are those that are emitted. -/
lemma emissions_of_accepted {calls : List Attempt}
    (all : ∀ c ∈ calls, c.answer = none ∧ ∃ chunk, c.emission = .data chunk) :
    calls.map Attempt.emission = (calls.filterMap Attempt.accepted?).map .data := by
  induction calls with
  | nil => rfl
  | cons c calls ih =>
      obtain ⟨succeeded, chunk, emission⟩ := all c List.mem_cons_self
      have first : c.accepted? = some chunk := by
        simp [Attempt.accepted?, succeeded, emission, Emission.chunk?]
      rw [List.filterMap_cons_some first, List.map_cons, List.map_cons, emission,
        ih fun d hd => all d (List.mem_cons_of_mem _ hd)]

end ToolServer.Execution
