/-
How calls attend to their invocations:

* `Incipient.over`, `Orderly.over`: after the last event of a stream nothing is left;
* `Conversation.deeds`, `Router.deeds`, `Router.chronicle`: the actions in the executor that a
  step of a call, an action and a list of actions come to;
* `chronicle_now`: they lead the executor to where the server has it;
* `ReadToEnd`, `Conversation.Attends`: a reader to which nothing but the end was left when it
  went away, and a call that is such a reader or still reads;
* `Router.Unshared`, `Attended`, `attended_run`: a call is the only reader of its invocation,
  and what it has read is what its invocation let its reader see.

The reader of an invocation belongs to the call that has started it. So nobody else takes an
event of that invocation or gives its events up, whatever else goes on in the executor.
-/
import ToolServer.Proofs.Execution.Outcome
import ToolServer.Proofs.Server.Traffic

namespace ToolServer

open ToolServer.Cache (Backend)
open ToolServer.Execution (Engine Timeline Token readings received)

/-! ### Streams that are over -/

namespace Execution

/-- An opening has no last event. -/
lemma Opening.going {R : ℕ → ℕ → Prop} {n : ℕ} {es : List Event} (h : Opening R n es) :
    ∀ e ∈ es, e.isTerminal = false := by
  obtain ⟨tool, requestId, args, pieces, rfl, ns, numbers, -⟩ := h
  intro e he
  rcases List.mem_cons.mp he with rfl | piece
  · rfl
  · have numbered : e.sequence? ∈ ns.map some := numbers ▸ List.mem_map_of_mem piece
    obtain ⟨n, -, eq⟩ := List.mem_map.mp numbered
    refine Bool.eq_false_iff.mpr fun terminal => ?_
    simp [sequence?_of_isTerminal terminal] at eq

/-- **Nothing comes after a last event**, and none before. -/
lemma Incipient.over {R : ℕ → ℕ → Prop} {before after : List Event} {last : Event}
    (h : Incipient R (before ++ last :: after)) (terminal : last.isTerminal = true) :
    (∀ e ∈ before, e.isTerminal = false) ∧ after = [] := by
  obtain ⟨full, complete, more, rfl⟩ := h
  generalize whole : before ++ last :: after ++ more = full at complete
  cases complete with
  | refused message retryable =>
      cases before with
      | nil => exact ⟨by simp, by simp_all⟩
      | cons => simp at whole
  | @served n es end_ opening _ =>
      have going := opening.going
      -- a last event among the first ones would be no last event
      have apart : after ++ more = [] := by
        rcases List.eq_nil_or_concat (after ++ more) with none | ⟨rest, x, eq⟩
        · exact none
        · have split : (before ++ last :: rest) ++ [x] = es ++ [end_] := by
            rw [← whole, List.append_assoc, List.append_assoc, List.cons_append, List.cons_append,
              eq, List.concat_eq_append]
          obtain ⟨rfl, -⟩ := List.append_inj' split rfl
          simp [going last (by simp)] at terminal
      obtain ⟨rfl, rfl⟩ := List.append_eq_nil_iff.mp apart
      rw [List.append_nil] at whole
      obtain ⟨rfl, -⟩ := List.append_inj' whole rfl
      exact ⟨going, rfl⟩

/-- An invocation whose last event has been read is over, and nothing is left to be read. -/
lemma Run.Orderly.over {es : List Event} {r : Run} (h : r.Orderly es) (reading : r.reading = true)
    {last : Event} (got : last ∈ es) (terminal : last.isTerminal = true) : r.Closed := by
  have fits := h.fits reading
  obtain ⟨before, after, rfl⟩ := List.append_of_mem got
  have among : last ∈ before ++ last :: after ++ r.queue := by simp
  have left : r.queue = [] := by
    have incipient := fits.incipient
    rw [List.append_assoc, List.cons_append] at incipient
    exact (List.append_eq_nil_iff.mp (incipient.over terminal).2).2
  refine ⟨?_, left⟩
  cases stage : r.stage with
  | arriving | waiting => simp [stage, Stage.Fits] at fits
  | active | asleep =>
      rw [stage] at fits
      simp [Opening.going fits last among] at terminal
  | delivering =>
      rw [stage] at fits
      simp [Opening.going fits.1 last among] at terminal
  | finished => rfl

/-! ### Readers that went away -/

/-- An executor does not take an event of an invocation unless it is asked to. -/
lemma received_of_untouched {e : Engine} {id : ℕ} (acts : List Action) {more : List Action}
    (untouched : .take id ∉ more) :
    received id (Timeline.run e (acts ++ more)).past = received id (Timeline.run e acts).past := by
  induction more using List.reverseRecOn with
  | nil => rw [List.append_nil]
  | append_singleton more a ih =>
      rw [← List.append_assoc, Timeline.run_concat]
      have ih := ih fun there => untouched (List.mem_append_left _ there)
      cases happens : (Timeline.run e (acts ++ more)).now.act a with
      | none => rwa [Timeline.next_of_none happens]
      | some e' =>
          have silent : (Timeline.run e (acts ++ more)).now.reading? a id = none := by
            cases a with
            | take i =>
                refine if_neg ?_
                rintro rfl
                exact untouched (List.mem_append_right _ (List.mem_singleton_self _))
            | branch | submit | advance | expire | cancel | drop | emit | wait | meddle => rfl
          rw [Timeline.next_of_some happens, received_concat, silent, events_silent, ih]

/-- What a reader gets when it asks once more. -/
lemma take_next {e : Engine} (acts : List Action) {id : ℕ} {r : Run}
    (there : (Timeline.run e acts).now.runs[id]? = some r) :
    (Timeline.run e (acts ++ [.take id])).now = ((Timeline.run e acts).now.take id).2
    ∧ readings id (Timeline.run e (acts ++ [.take id])).past
      = readings id (Timeline.run e acts).past ++ [((Timeline.run e acts).now.take id).1] := by
  have happens : (Timeline.run e acts).now.act (.take id)
      = some ((Timeline.run e acts).now.take id).2 :=
    if_pos (List.getElem?_eq_some_iff.mp there).1
  have seen : (Timeline.run e acts).now.reading? (.take id) id
      = some ((Timeline.run e acts).now.take id).1 := if_pos rfl
  rw [Timeline.run_concat, Timeline.next_of_some happens, readings_concat, seen]
  exact ⟨rfl, rfl⟩

/-- Whether the reader of an invocation had got some events when it went away, and would have
got the end if it had asked once more. -/
def ReadToEnd (config : ExecutorConfig) (id : ℕ) (deeds : List Action) (events : List Event) :
    Prop :=
  ∃ before after, deeds = before ++ .drop id :: after ∧ .drop id ∉ before ∧
    let t := Timeline.run (.new config) (before ++ [.take id])
    received id t.past = events ∧ .ended ∈ readings id t.past

lemma ReadToEnd.append {config : ExecutorConfig} {id : ℕ} {deeds : List Action}
    {events : List Event} (h : ReadToEnd config id deeds events) (more : List Action) :
    ReadToEnd config id (deeds ++ more) events := by
  obtain ⟨before, after, rfl, kept, got, drained⟩ := h
  exact ⟨before, after ++ more, by simp, kept, got, drained⟩

/-- A reader of a closed invocation has read to the end. -/
lemma ReadToEnd.of_closed {config : ExecutorConfig} {id : ℕ} {deeds : List Action} {r : Run}
    (there : (Timeline.run (.new config) deeds).now.runs[id]? = some r) (closed : r.Closed)
    (kept : .drop id ∉ deeds) :
    ReadToEnd config id (deeds ++ [.drop id])
      (received id (Timeline.run (.new config) deeds).past) := by
  have ended : ((Timeline.run (.new config) deeds).now.take id).1 = .ended := by
    simp [Engine.take, there, closed.2, Run.isFinished_of_stage closed.1]
  have seen := (take_next deeds there).2
  rw [ended] at seen
  refine ⟨deeds, [], rfl, kept, ?_, ?_⟩
  · rw [received, seen, List.filterMap_append, ← received]
    exact List.append_nil _
  · rw [seen]
    exact List.mem_append_right _ (List.mem_singleton_self _)

end Execution

open Execution (ReadToEnd)

/-! ### What calls do in the executor -/

/-- The invocation that works, or has worked, for a call. -/
def Progress.worker? : Progress → Option ℕ
  | .underWay call | .ended call _ => some call.run
  | .answered _ (.run id) _ => some id
  | .asked | .missed | .answered _ .store _ | .abandoned => none

/-- What a step of a call from one state to the next does in the executor. -/
def Conversation.deeds (s : Server Backend) (c c' : Conversation) : List Execution.Action :=
  match c.progress, c'.progress with
  | .asked, .underWay _ | .missed, .underWay _ =>
    [.branch c.caller,
      .submit c.tool.name madeUpId c.args (s.engine.childOf c.caller).1 c.tool.handler]
  | .underWay call, .underWay _ => [.take call.run]
  | .underWay call, .ended .. => [.take call.run, .drop call.run]
  | .underWay call, .abandoned => [.drop call.run]
  | _, _ => []

namespace Router

/-- What a step of a call does in the executor, if it can take that step. -/
def deedsOfStep (t : Router) (i : ℕ)
    (f : Server Backend → Conversation → Option (Server Backend × Conversation)) :
    List Execution.Action :=
  match t.calls[i]? with
  | none => []
  | some c =>
    match f t.server c with
    | none => []
    | some (_, c') => c.deeds t.server c'

/-- What an action does in the executor. -/
def deeds (t : Router) : Action → List Execution.Action
  | .ask .. | .close => []
  | .advance i => t.deedsOfStep i fun s c => c.advance s
  | .abandon i => t.deedsOfStep i fun s c => c.abandon s
  | .execute a => [a]
  | .pass now => [.wait now]

/-- What a list of actions does in the executor. -/
def chronicle (t : Router) : List Action → List Execution.Action
  | [] => []
  | a :: acts => t.deeds a ++ (t.next a).chronicle acts

lemma run_concat (t : Router) (acts : List Action) (a : Action) :
    t.run (acts ++ [a]) = (t.run acts).next a :=
  List.foldl_append

lemma chronicle_concat (t : Router) (acts : List Action) (a : Action) :
    t.chronicle (acts ++ [a]) = t.chronicle acts ++ (t.run acts).deeds a := by
  induction acts generalizing t with
  | nil => simp [chronicle, run]
  | cons b acts ih =>
      rw [List.cons_append, chronicle, chronicle, ih, List.append_assoc]
      rfl

end Router

namespace Conversation

variable {s s' : Server Backend} {c c' : Conversation}

lemma keepResult_engine (s : Server Backend) (call : Call) (result : Except RpcError Json) :
    (s.keepResult call result).engine = s.engine := by
  rw [Server.keepResult.eq_def]
  split
  · split <;> rfl
  · rfl

/-- A step of a call does not give it up. -/
lemma advance_going (h : c.advance s = some (s', c')) : c'.progress ≠ .abandoned := by
  have turn := turn_of_advance (i := 0) h
  generalize c.notes s 0 c' = notes at turn
  cases turn with
  | found | missed | launched | worked | stored | returned => simp
  | followed _ _ goes => rcases goes with rfl | ⟨result, rfl⟩ <;> simp

lemma run_take (e : Engine) (id : ℕ) :
    (Timeline.run e [.take id]).now = (e.take id).2 := by
  by_cases there : id < e.runs.length
  · simp [Timeline.run, Timeline.next, Engine.act, there]
  · simp [Timeline.run, Timeline.next, Engine.act, there, Engine.take]

lemma run_drop (e : Engine) (id : ℕ) : (Timeline.run e [.drop id]).now = e.drop id := by
  by_cases there : id < e.runs.length
  · simp [Timeline.run, Timeline.next, Engine.act, there]
  · simp [Timeline.run, Timeline.next, Engine.act, there, Engine.drop]

lemma run_take_drop (e : Engine) (id : ℕ) :
    (Timeline.run e [.take id, .drop id]).now = (e.take id).2.drop id := by
  rw [show [Execution.Action.take id, .drop id] = [.take id] ++ [.drop id] from rfl,
    Timeline.run_append, run_take, run_drop]

/-- **A step of a call does in the executor what its deeds do.** -/
lemma Change.deeds_now (change : Change s c s' c') (going : c'.progress ≠ .abandoned) :
    (Timeline.run s.engine (c.deeds s c')).now = s'.engine := by
  cases change with
  | found asked | missed asked => simp [deeds, asked, Server.lookUp, Timeline.run]
  | launched idle =>
      rcases idle with ⟨asked, rfl⟩ | ⟨missed, rfl⟩
      · simp only [deeds, asked]
        rfl
      · simp only [deeds, missed]
        rfl
  | read underWay =>
      simp only [deeds, underWay]
      exact run_take ..
  | finished underWay =>
      simp only [deeds, underWay]
      exact run_take_drop ..
  | closed underWay ended =>
      simp only [deeds, underWay]
      rw [run_take_drop, Engine.take_of_nothing (by simp [ended])]
  | kept ended =>
      simp only [deeds, ended]
      exact (keepResult_engine ..).symm
  | given | dropped => exact absurd rfl going

/-- A call that is given up does in the executor what its deeds do. -/
lemma deeds_of_abandon (h : c.abandon s = some (s', c')) :
    c'.progress = .abandoned ∧ (Timeline.run s.engine (c.deeds s c')).now = s'.engine := by
  cases progress : c.progress with
  | asked | missed | ended =>
      simp only [abandon, progress, Option.some.injEq, Prod.mk.injEq] at h
      obtain ⟨rfl, rfl⟩ := h
      exact ⟨rfl, by simp [deeds, progress, Timeline.run]⟩
  | underWay call =>
      simp only [abandon, progress, Option.some.injEq, Prod.mk.injEq] at h
      obtain ⟨rfl, rfl⟩ := h
      refine ⟨rfl, ?_⟩
      simp only [deeds, progress]
      exact run_drop ..
  | answered time source result => simp [abandon, progress] at h
  | abandoned => simp [abandon, progress] at h

end Conversation

namespace Router

lemma deedsOfStep_now {t : Router} {i : ℕ}
    {f : Server Backend → Conversation → Option (Server Backend × Conversation)}
    (agrees : ∀ s c s' c', f s c = some (s', c') →
      (Timeline.run s.engine (c.deeds s c')).now = s'.engine) :
    (Timeline.run t.server.engine (t.deedsOfStep i f)).now
      = ((t.step i f).getD t).server.engine := by
  rw [deedsOfStep, step]
  cases there : t.calls[i]? with
  | none => rfl
  | some c =>
      cases next : f t.server c with
      | none => simp [next, Timeline.run]
      | some x => simpa [next] using agrees _ _ _ _ next

/-- **An action does in the executor what its deeds do.** -/
lemma deeds_now (t : Router) (a : Action) :
    (Timeline.run t.server.engine (t.deeds a)).now = (t.next a).server.engine := by
  cases a with
  | ask params wellFormed caller =>
      simp only [deeds, next, act]
      cases asked : t.ask params caller with
      | none => rfl
      | some t' =>
          obtain ⟨tool, args, checked, rfl⟩ := ask_added asked
          rfl
  | advance i =>
      exact deedsOfStep_now fun _ _ _ _ h =>
        (Conversation.advance_change h).deeds_now (Conversation.advance_going h)
  | abandon i => exact deedsOfStep_now fun _ _ _ _ h => (Conversation.deeds_of_abandon h).2
  | execute a =>
      simp only [deeds, next, act, Timeline.run, List.foldl_cons, List.foldl_nil, Timeline.next]
      cases t.server.engine.act a <;> rfl
  | pass now =>
      by_cases later : t.server.engine.now ≤ now <;>
        simp [deeds, next, act, Timeline.run, Timeline.next, Engine.act, Server.now, later,
          Server.setClock]
  | close => rfl

/-- **The deeds of all actions lead the executor to where the server has it.** -/
theorem chronicle_now (t : Router) (acts : List Action) :
    (Timeline.run t.server.engine (t.chronicle acts)).now = (t.run acts).server.engine := by
  induction acts generalizing t with
  | nil => rfl
  | cons a acts ih =>
      rw [chronicle, Timeline.run_append, deeds_now, ih]
      rfl

end Router

/-! ### Calls and their invocations -/

/-- How a call has attended to its invocation: as the only reader, from the first event on,
and up to the end once it has a result. -/
def Conversation.Attends (config : ExecutorConfig) (deeds : List Execution.Action)
    (c : Conversation) : Prop :=
  match c.progress with
  | .underWay call => .drop call.run ∉ deeds ∧
      received call.run (Timeline.run (.new config) deeds).past = c.events
  | .ended call _ => ReadToEnd config call.run deeds c.events
  | .answered _ (.run id) _ => ReadToEnd config id deeds c.events
  | .asked | .missed | .answered _ .store _ | .abandoned => True

/-- Whether nobody but the call that has started an invocation reads its events or gives
them up. -/
def Router.Unshared (id : ℕ) (acts : List Router.Action) : Prop :=
  ∀ a, .execute a ∈ acts → a ≠ .take id ∧ a ≠ .drop id

namespace Conversation

variable {config : ExecutorConfig} {deeds : List Execution.Action} {s s' : Server Backend}
  {c c' : Conversation} {id : ℕ}

/-- An event that leads to the result of a call is a last one. -/
lemma isTerminal_of_read {call : Call} {e : Event} {result : Except RpcError Json}
    (h : call.read e = .inr result) : e.isTerminal = true := by
  cases e with
  | start | data | progress => cases h
  | done | error => rfl

/-- What others do in the executor leaves alone what a call has read. -/
lemma Attends.append (h : c.Attends config deeds) (worker : c.progress.worker? = some id)
    {more : List Execution.Action} (untaken : .take id ∉ more) (kept : .drop id ∉ more) :
    c.Attends config (deeds ++ more) := by
  rw [Attends.eq_def] at h ⊢
  cases progress : c.progress with
  | underWay call =>
      rw [progress] at h worker
      obtain rfl := Option.some.inj worker
      exact ⟨by simp [h.1, kept], (Execution.received_of_untouched deeds untaken).trans h.2⟩
  | ended call result =>
      rw [progress] at h
      exact h.append more
  | answered time source result =>
      rw [progress] at h
      cases source with
      | store => trivial
      | run id => exact h.append more
  | asked | missed | abandoned => trivial

/-- A call whose invocation has just been started has read nothing yet. -/
lemma attends_launched {keep : Option (String × ℕ)}
    (now : (Timeline.run (.new config) deeds).now = s.engine) (none : c.events = [])
    (unborn : .drop s.engine.runs.length ∉ deeds) {first second : Execution.Action}
    (untouched : ∀ a ∈ [first, second], a ≠ .take s.engine.runs.length
      ∧ a ≠ .drop s.engine.runs.length) :
    Attends config (deeds ++ [first, second])
      { c with progress := .underWay (s.invoke c.tool c.args c.caller keep).2 } := by
  have absent :
      (Timeline.run (.new config) deeds).now.runs[s.engine.runs.length]? = Option.none := by
    rw [now]
    exact List.getElem?_eq_none_iff.mpr le_rfl
  have untaken : .take s.engine.runs.length ∉ [first, second] := fun there =>
    (untouched _ there).1 rfl
  refine ⟨?_, ?_⟩
  · intro dropped
    rcases List.mem_append.mp dropped with before | later
    · exact unborn before
    · exact (untouched _ later).2 rfl
  · show received s.engine.runs.length _ = c.events
    rw [Execution.received_of_untouched deeds untaken, received,
      Execution.readings_of_absent deeds absent, none]
    rfl

section Reading

variable {r : Execution.Run}

/-- What a call reads is what its invocation lets its reader see. -/
lemma received_take {event : Event}
    (there : (Timeline.run (.new config) deeds).now.runs[id]? = some r)
    (taken : ((Timeline.run (.new config) deeds).now.take id).1 = .event event) :
    received id (Timeline.run (.new config) (deeds ++ [.take id])).past
      = received id (Timeline.run (.new config) deeds).past ++ [event] := by
  rw [received, (Execution.take_next deeds there).2, taken, List.filterMap_append, ← received]
  rfl

/-- A call that has read the last event has read to the end. -/
lemma readToEnd_finished {event : Event}
    (there : (Timeline.run (.new config) deeds).now.runs[id]? = some r)
    (kept : .drop id ∉ deeds)
    (taken : ((Timeline.run (.new config) deeds).now.take id).1 = .event event)
    (terminal : event.isTerminal = true) :
    ReadToEnd config id (deeds ++ [.take id, .drop id])
      (received id (Timeline.run (.new config) deeds).past ++ [event]) := by
  have kept' : .drop id ∉ deeds ++ [.take id] := by simp [kept]
  have got := received_take there taken
  obtain ⟨r', there', -⟩ := (Engine.extends_take _ id).runs id r there
  rw [← (Execution.take_next deeds there).1] at there'
  have orderly := Execution.orderly_run config (deeds ++ [.take id]) there'
  have closed := orderly.over (Execution.reading_of_kept config _ kept' there')
    (by rw [got]; exact List.mem_append_right _ (List.mem_singleton_self _)) terminal
  have read := ReadToEnd.of_closed there' closed kept'
  rwa [got, List.append_assoc] at read

/-- A call that has found nothing more to read has read to the end. -/
lemma readToEnd_closed (there : (Timeline.run (.new config) deeds).now.runs[id]? = some r)
    (kept : .drop id ∉ deeds)
    (taken : ((Timeline.run (.new config) deeds).now.take id).1 = .ended) :
    ReadToEnd config id (deeds ++ [.take id, .drop id])
      (received id (Timeline.run (.new config) deeds).past) := by
  have kept' : .drop id ∉ deeds ++ [.take id] := by simp [kept]
  have seen := (Execution.take_next deeds there).2
  rw [taken] at seen
  have got : received id (Timeline.run (.new config) (deeds ++ [.take id])).past
      = received id (Timeline.run (.new config) deeds).past := by
    rw [received, seen, List.filterMap_append, ← received]
    exact List.append_nil _
  obtain ⟨r', there', -⟩ := (Engine.extends_take _ id).runs id r there
  rw [← (Execution.take_next deeds there).1] at there'
  have closed := (Execution.final_run config (deeds ++ [.take id]) there').closed
    (by rw [seen]; exact List.mem_append_right _ (List.mem_singleton_self _))
  have read := ReadToEnd.of_closed there' closed kept'
  rwa [got, List.append_assoc] at read

end Reading

/-- A step of a call leaves alone the invocations that do not work for it. -/
lemma untouched_of_other (other : c.progress.worker? ≠ some id) :
    ∀ a ∈ c.deeds s c', a ≠ .take id ∧ a ≠ .drop id := by
  intro a ha
  rw [Conversation.deeds.eq_def] at ha
  have apart {call : Call} (progress : c.progress = .underWay call) : call.run ≠ id := by
    rintro rfl
    exact other (by rw [progress]; rfl)
  split at ha
  · simp only [List.mem_cons, List.not_mem_nil, or_false] at ha
    rcases ha with rfl | rfl <;> simp
  · simp only [List.mem_cons, List.not_mem_nil, or_false] at ha
    rcases ha with rfl | rfl <;> simp
  · next progress _ =>
      obtain rfl := List.mem_singleton.mp ha
      simpa using apart progress
  · next progress _ =>
      simp only [List.mem_cons, List.not_mem_nil, or_false] at ha
      rcases ha with rfl | rfl <;> simpa using apart progress
  · next progress _ =>
      obtain rfl := List.mem_singleton.mp ha
      simpa using apart progress
  · cases ha

/-- **A step of a call attends to the invocation that works for it afterwards**, be it that it
did so before or has just been started. -/
lemma Change.attends (change : Change s c s' c') (going : c'.progress ≠ .abandoned)
    (now : (Timeline.run (.new config) deeds).now = s.engine)
    (idle : c.progress = .asked ∨ c.progress = .missed → c.events = [])
    (there : ∀ call, c.progress = .underWay call → ∃ r, s.engine.runs[call.run]? = some r)
    (attended : c.progress.worker? = some id → c.Attends config deeds)
    (unborn : s.engine.runs.length ≤ id → .drop id ∉ deeds)
    (worker : c'.progress.worker? = some id) :
    (c.progress.worker? = some id ∨ s.engine.runs.length ≤ id)
      ∧ c'.Attends config (deeds ++ c.deeds s c') := by
  rw [Attends.eq_def] at attended
  cases change with
  | found | missed => cases worker
  | @launched keep launching =>
      obtain rfl : s.engine.runs.length = id := Option.some.inj worker
      have unborn := unborn le_rfl
      refine ⟨.inr le_rfl, ?_⟩
      rcases launching with ⟨asked, rfl⟩ | ⟨missed, rfl⟩
      · simp only [Conversation.deeds, asked]
        exact attends_launched now (idle (.inl asked)) unborn (by simp)
      · simp only [Conversation.deeds, missed]
        exact attends_launched now (idle (.inr missed)) unborn (by simp)
  | @read call call' e underWay taken next =>
      have same := Router.run_of_read next
      obtain rfl : call.run = id := same.symm.trans (Option.some.inj worker)
      rw [underWay] at attended
      obtain ⟨kept, got⟩ := attended rfl
      obtain ⟨r, there⟩ := there call underWay
      rw [← now] at there taken
      refine ⟨.inl (by rw [underWay]; rfl), ?_⟩
      simp only [Conversation.deeds, underWay]
      refine ⟨by simp [kept, same], ?_⟩
      rw [same, received_take there taken, got]
  | @finished call e result underWay taken last =>
      obtain rfl : call.run = id := Option.some.inj worker
      rw [underWay] at attended
      obtain ⟨kept, got⟩ := attended rfl
      obtain ⟨r, there⟩ := there call underWay
      rw [← now] at there taken
      have read := readToEnd_finished there kept taken (isTerminal_of_read last)
      rw [got] at read
      refine ⟨.inl (by rw [underWay]; rfl), ?_⟩
      simp only [Conversation.deeds, underWay]
      exact read
  | @closed call underWay taken =>
      obtain rfl : call.run = id := Option.some.inj worker
      rw [underWay] at attended
      obtain ⟨kept, got⟩ := attended rfl
      obtain ⟨r, there⟩ := there call underWay
      rw [← now] at there taken
      have read := readToEnd_closed there kept taken
      rw [got] at read
      refine ⟨.inl (by rw [underWay]; rfl), ?_⟩
      simp only [Conversation.deeds, underWay]
      exact read
  | @kept call result ended =>
      obtain rfl : call.run = id := Option.some.inj worker
      rw [ended] at attended
      refine ⟨.inl (by rw [ended]; rfl), ?_⟩
      simp only [Conversation.deeds, ended, List.append_nil]
      exact attended rfl
  | given | dropped => exact absurd rfl going

end Conversation

namespace Router

/-- An invocation that works for a call is there. -/
lemma Sound.exists_worker {t : Router} {c : Conversation} {id : ℕ} (h : t.Sound)
    (there : c ∈ t.calls) (worker : c.progress.worker? = some id) :
    c.WorkedOnBy t.server.engine id := by
  have fits := (h.calls c there).fits
  cases progress : c.progress with
  | underWay call | ended call =>
      rw [progress] at fits worker
      obtain rfl := Option.some.inj worker
      exact fits.1
  | answered time source result =>
      rw [progress] at fits worker
      cases source with
      | store => cases worker
      | run i =>
          obtain rfl := Option.some.inj worker
          exact fits.2.1
  | asked | missed | abandoned =>
      rw [progress] at worker
      cases worker

/-- A call that has no invocation yet has read nothing. -/
lemma Sound.events_of_idle {t : Router} {c : Conversation} (h : t.Sound) (there : c ∈ t.calls)
    (idle : c.progress = .asked ∨ c.progress = .missed) : c.events = [] := by
  have fits := (h.calls c there).fits
  rcases idle with asked | missed
  · rw [asked] at fits
    exact fits
  · rw [missed] at fits
    exact fits.1

/-- An invocation works for one call at most, which attends to it. -/
structure Attended (config : ExecutorConfig) (id : ℕ) (deeds : List Execution.Action)
    (t : Router) : Prop where
  now : (Timeline.run (.new config) deeds).now = t.server.engine
  unborn : t.server.engine.runs.length ≤ id → .drop id ∉ deeds
  alone : ∀ (i j : ℕ) (c d : Conversation), t.calls[i]? = some c → t.calls[j]? = some d →
    c.progress.worker? = some id → d.progress.worker? = some id → i = j
  attends : ∀ c ∈ t.calls, c.progress.worker? = some id → c.Attends config deeds

section Attended

variable {config : ExecutorConfig} {id : ℕ} {deeds more : List Execution.Action}
  {t t' : Router}

/-- What leaves alone an invocation and the call that it works for. -/
lemma Attended.elsewhere (h : Attended config id deeds t)
    (now : (Timeline.run t.server.engine more).now = t'.server.engine)
    (untouched : ∀ a ∈ more, a ≠ .take id ∧ a ≠ .drop id)
    (older : t.server.engine.Extends t'.server.engine)
    (calls : ∀ (i : ℕ) (c : Conversation), t'.calls[i]? = some c →
      c.progress.worker? = some id → t.calls[i]? = some c) :
    Attended config id (deeds ++ more) t' := by
  have untaken : .take id ∉ more := fun there => (untouched _ there).1 rfl
  have kept : .drop id ∉ more := fun there => (untouched _ there).2 rfl
  refine ⟨by rw [Timeline.run_append, h.now, now], fun young => ?_, ?_, ?_⟩
  · have young : t.server.engine.runs.length ≤ id := by
      by_contra old
      obtain ⟨r, there, -⟩ := older.runs id _ (List.getElem?_eq_getElem (not_le.mp old))
      exact absurd (List.getElem?_eq_some_iff.mp there).1 (not_lt.mpr young)
    simp [h.unborn young, kept]
  · intro i j c d hi hj worker worker'
    exact h.alone i j c d (calls i c hi worker) (calls j d hj worker') worker worker'
  · intro c hc worker
    obtain ⟨i, hi⟩ := List.mem_iff_getElem?.mp hc
    exact (h.attends c (List.mem_of_getElem? (calls i c hi worker)) worker).append worker untaken
      kept

/-- A step of a call leaves it so that the call attends to the invocation that works for it. -/
lemma Attended.step (h : Attended config id deeds t) (sound : t.Sound) {i : ℕ}
    {c c' : Conversation} {s' : Server Backend} (there : t.calls[i]? = some c)
    (now : (Timeline.run t.server.engine (c.deeds t.server c')).now = s'.engine)
    (older : t.server.engine.Extends s'.engine)
    (attends : c'.progress.worker? = some id →
      (c.progress.worker? = some id ∨ t.server.engine.runs.length ≤ id)
        ∧ id < s'.engine.runs.length ∧ c'.Attends config (deeds ++ c.deeds t.server c')) :
    Attended config id (deeds ++ c.deeds t.server c') ⟨s', t.calls.set i c'⟩ := by
  have bound := (List.getElem?_eq_some_iff.mp there).1
  have itself : ∀ d, (t.calls.set i c')[i]? = some d → d = c' := fun d hd =>
    Option.some.inj (hd.symm.trans (List.getElem?_set_self bound))
  by_cases mine : c.progress.worker? = some id ∨ c'.progress.worker? = some id
  · -- then it works for no other call
    have others : ∀ (j : ℕ) (d : Conversation), (t.calls.set i c')[j]? = some d →
        d.progress.worker? = some id → j = i := by
      intro j d hj worker
      by_contra apart
      rw [List.getElem?_set_ne (Ne.symm apart)] at hj
      rcases mine.elim .inl fun worker' => (attends worker').1 with mine | young
      · exact apart (h.alone j i d c hj there worker mine)
      · obtain ⟨r, atPlace, -⟩ := sound.exists_worker (List.mem_of_getElem? hj) worker
        exact absurd (List.getElem?_eq_some_iff.mp atPlace).1 (not_lt.mpr young)
    have born : id < s'.engine.runs.length := by
      rcases mine with mine | worker
      · obtain ⟨r, atPlace, -⟩ := sound.exists_worker (List.mem_of_getElem? there) mine
        obtain ⟨r', atPlace', -⟩ := older.runs id r atPlace
        exact (List.getElem?_eq_some_iff.mp atPlace').1
      · exact (attends worker).2.1
    refine ⟨by rw [Timeline.run_append, h.now, now], fun young => absurd born (not_lt.mpr young),
      ?_, ?_⟩
    · intro j k d d' hj hk worker worker'
      rw [others j d hj worker, others k d' hk worker']
    · intro d hd worker
      obtain ⟨j, hj⟩ := List.mem_iff_getElem?.mp hd
      obtain rfl := others j d hj worker
      obtain rfl := itself d hj
      exact (attends worker).2.2
  · obtain ⟨other, other'⟩ := not_or.mp mine
    refine h.elsewhere now (Conversation.untouched_of_other other) older ?_
    intro j d hj worker
    have apart : i ≠ j := by
      rintro rfl
      exact other' (itself d hj ▸ worker)
    rwa [List.getElem?_set_ne apart] at hj

/-- What a step of a call leaves as it should be, a step that cannot be taken does too. -/
lemma Attended.deedsOfStep (h : Attended config id deeds t) {i : ℕ}
    {f : Server Backend → Conversation → Option (Server Backend × Conversation)}
    (step : ∀ c s' c', t.calls[i]? = some c → f t.server c = some (s', c') →
      Attended config id (deeds ++ c.deeds t.server c') ⟨s', t.calls.set i c'⟩) :
    Attended config id (deeds ++ t.deedsOfStep i f) ((t.step i f).getD t) := by
  rw [Router.deedsOfStep, Router.step]
  cases there : t.calls[i]? with
  | none => simpa using h
  | some c =>
      cases next : f t.server c with
      | none => simpa [next] using h
      | some x => simpa [next] using step c x.1 x.2 there next

/-- **Every action leaves an invocation attended.** -/
lemma Attended.next (h : Attended config id deeds t) (sound : t.Sound) {a : Router.Action}
    (unshared : ∀ b, a = .execute b → b ≠ .take id ∧ b ≠ .drop id) :
    Attended config id (deeds ++ t.deeds a) (t.next a) := by
  have later : t.server.engine.Extends (t.next a).server.engine :=
    (run_later t [a]).server.engine
  cases a with
  | advance i =>
      refine h.deedsOfStep fun c s' c' there next => ?_
      have change := Conversation.advance_change next
      have going := Conversation.advance_going next
      have member := List.mem_of_getElem? there
      have bound := (List.getElem?_eq_some_iff.mp there).1
      refine h.step sound there (change.deeds_now going) change.server_later.engine fun worker => ?_
      obtain ⟨mine, attends⟩ := change.attends going h.now (sound.events_of_idle member)
        (fun call underWay => by
          have work : c.WorkedOnBy t.server.engine call.run :=
            sound.exists_worker member (by rw [underWay]; rfl)
          obtain ⟨r, atPlace, -⟩ := work
          exact ⟨r, atPlace⟩)
        (h.attends c member) h.unborn worker
      obtain ⟨r, atPlace, -⟩ := (change.sound sound there).exists_worker
        (List.mem_set bound c') worker
      exact ⟨mine, (List.getElem?_eq_some_iff.mp atPlace).1, attends⟩
  | abandon i =>
      refine h.deedsOfStep fun c s' c' there next => ?_
      obtain ⟨left, now⟩ := Conversation.deeds_of_abandon next
      refine h.step sound there now (Conversation.abandon_change next).server_later.engine ?_
      rw [left]
      exact fun worker => nomatch worker
  | ask params wellFormed caller =>
      refine h.elsewhere (deeds_now t _) (by simp [Router.deeds]) later ?_
      intro i c hi worker
      simp only [Router.next, act] at hi
      cases asked : t.ask params caller with
      | none => simpa [asked] using hi
      | some t' =>
          obtain ⟨tool, args, checked, rfl⟩ := ask_added asked
          rw [asked, Option.getD_some] at hi
          rcases List.mem_append.mp (List.mem_of_getElem? hi) with _ | new
          · by_cases old : i < t.calls.length
            · rwa [List.getElem?_append_left old] at hi
            · rw [List.getElem?_append_right (not_lt.mp old)] at hi
              obtain rfl := List.mem_singleton.mp (List.mem_of_getElem? hi)
              cases worker
          · obtain rfl := List.mem_singleton.mp new
            cases worker
  | execute b =>
      refine h.elsewhere (deeds_now t _) ?_ later ?_
      · intro b' there
        obtain rfl := List.mem_singleton.mp there
        exact unshared _ rfl
      · intro i c hi _
        simp only [Router.next, act] at hi
        cases done : t.server.engine.act b <;> simpa [done] using hi
  | pass now =>
      refine h.elsewhere (deeds_now t _) (by simp [Router.deeds]) later ?_
      intro i c hi _
      simp only [Router.next, act] at hi
      split_ifs at hi <;> exact hi
  | close => exact h.elsewhere (deeds_now t _) (by simp [Router.deeds]) later fun i c hi _ => hi

end Attended

/-- **At any time an invocation that nobody else reads works for one call at most, which
attends to it.** -/
theorem attended_run {config : ExecutorConfig} {s : Server Backend} (new : s.engine = .new config)
    (empty : s.cache.entries = []) {id : ℕ} (acts : List Action) (unshared : Unshared id acts) :
    Attended config id (chronicle ⟨s, []⟩ acts) (run ⟨s, []⟩ acts) := by
  induction acts using List.reverseRecOn with
  | nil =>
      refine ⟨new.symm, fun _ => List.not_mem_nil, ?_, ?_⟩
      · intro i j c d hi
        simp [run] at hi
      · exact fun c hc => absurd hc List.not_mem_nil
  | append_singleton acts a ih =>
      rw [chronicle_concat, run_concat]
      refine (ih fun b there => unshared b (List.mem_append_left _ there)).next
        (sound_run empty acts) ?_
      rintro b rfl
      exact unshared b (List.mem_append_right _ (List.mem_singleton_self _))

end Router

end ToolServer
