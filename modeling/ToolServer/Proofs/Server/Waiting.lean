/-
What a server does while it waits:

* `Action.IsQuiet`: an action that is about no token, and about no queue but those of some
  invocations;
* `Engine.Does`, `Server.Does`: such actions lead from one state to another. All that a server
  does while it waits is of this kind, from `does_resume` to `does_await`;
* `nextEvent_reaches`: the next event of an invocation is what its reader gets.

The queue of an invocation is left alone unless it belongs to a call that somebody or nobody
waits for.
-/
import ToolServer.Proofs.Server.Router
import ToolServer.Server.Waiting

namespace ToolServer

open ToolServer.Execution (Action Engine Timeline readings patience ticks tickLength timeAtTick)

/-! ### Quiet actions -/

namespace Execution

variable {mine : ℕ → Prop}

/-- Whether an action is about no token, and about no queue but those of some invocations. -/
def Action.IsQuiet (mine : ℕ → Prop) : Action → Prop
  | .advance _ | .expire _ | .wait _ => True
  | .take id | .drop id => mine id
  | .branch _ | .submit .. | .cancel _ | .emit .. | .meddle _ => False

lemma Action.IsQuiet.mono {mine' : ℕ → Prop} {a : Action} (h : a.IsQuiet mine)
    (more : ∀ id, mine id → mine' id) : a.IsQuiet mine' := by
  cases a <;> first | exact more _ h | exact h

/-- The reader of another invocation gets nothing. -/
lemma readings_of_quiet {e : Engine} {acts : List Action} {id : ℕ}
    (quiet : ∀ a ∈ acts, a.IsQuiet mine) (other : ¬ mine id) :
    readings id (Timeline.run e acts).past = [] := by
  refine List.filterMap_eq_nil_iff.mpr fun m there => ?_
  have quiet := quiet m.2 (Timeline.mem_of_past there)
  cases act : m.2 with
  | take i =>
      rw [act] at quiet
      have apart : i ≠ id := fun same => other (same ▸ quiet)
      simp [Engine.reading?, apart]
  | branch | submit | advance | expire | cancel | drop | emit | wait | meddle => rfl

namespace Engine

variable {e e' e'' : Engine}

/-- Whether some quiet actions lead from one state to another. -/
def Does (mine : ℕ → Prop) (e e' : Engine) : Prop :=
  ∃ acts : List Action, (∀ a ∈ acts, a.IsQuiet mine) ∧ (Timeline.run e acts).now = e'

lemma Does.refl (e : Engine) : e.Does mine e := ⟨[], by simp, rfl⟩

lemma Does.trans (h : e.Does mine e') (h' : e'.Does mine e'') : e.Does mine e'' := by
  obtain ⟨acts, quiet, rfl⟩ := h
  obtain ⟨more, quiet', rfl⟩ := h'
  exact ⟨acts ++ more, fun a there => (List.mem_append.mp there).elim (quiet a) (quiet' a),
    Timeline.run_append e acts more⟩

lemma Does.of_act {a : Action} (quiet : a.IsQuiet mine) (h : e.act a = some e') :
    e.Does mine e' :=
  ⟨[a], by simpa using quiet, by simp [Timeline.run, Timeline.next, h]⟩

/-- What every quiet action keeps is kept. -/
lemma Does.induct {P : Engine → Prop} (h : e.Does mine e')
    (step : ∀ e a e', a.IsQuiet mine → P e → e.act a = some e' → P e') (start : P e) : P e' := by
  obtain ⟨acts, quiet, rfl⟩ := h
  induction acts using List.reverseRecOn with
  | nil => exact start
  | append_singleton acts a ih =>
      simp only [List.mem_append, List.mem_singleton] at quiet
      have ih := ih fun b there => quiet b (.inl there)
      rw [Timeline.run_concat]
      cases happens : (Timeline.run e acts).now.act a with
      | none => rwa [Timeline.next_of_none happens]
      | some e' =>
          rw [Timeline.next_of_some happens]
          exact step _ a e' (quiet a (.inr rfl)) ih happens

/-- No invocation comes and none goes. -/
lemma Does.length (h : e.Does mine e') : e'.runs.length = e.runs.length := by
  refine h.induct (P := fun e' => e'.runs.length = e.runs.length) ?_ rfl
  intro before a after quiet same happens
  rcases act_runs happens with ⟨kept, -⟩ | ⟨_, _, _, _, _, rfl, -⟩ | ⟨i, r, r', -, changed, -⟩
  · rw [kept, same]
  · exact quiet.elim
  · rw [changed, List.length_set, same]

lemma does_take {id : ℕ} (e : Engine) (own : mine id) : e.Does mine (e.take id).2 := by
  by_cases there : id < e.runs.length
  · exact .of_act (a := .take id) own (if_pos there)
  · rw [take, List.getElem?_eq_none (not_lt.mp there)]
    exact .refl e

lemma does_drop {id : ℕ} (e : Engine) (own : mine id) : e.Does mine (e.drop id) := by
  by_cases there : id < e.runs.length
  · exact .of_act (a := .drop id) own (if_pos there)
  · rw [drop, List.getElem?_eq_none (not_lt.mp there)]
    exact .refl e

lemma does_quiesce (e : Engine) : e.Does mine e.quiesce :=
  quiesce_induct (P := e.Does mine)
    (fun _ _ id does h => does.trans (.of_act (a := .advance id) trivial h))
    (fun _ _ id does h => does.trans (.of_act (a := .expire id) trivial h)) (.refl e)

/-- The clock jumps ahead. -/
lemma le_nextTime {alarms : List ℕ} {now : ℕ} (h : e.nextTime alarms = some now) :
    e.now ≤ now := by
  obtain ⟨tick, next, rfl⟩ := Option.map_eq_some_iff.mp h
  have ahead : ticks e.now < tick := of_decide_eq_true (List.mem_filter.mp (List.min?_mem next)).2
  simp only [ticks, timeAtTick, tickLength] at ahead ⊢
  omega

lemma does_jump {alarms : List ℕ} {now : ℕ} (h : e.nextTime alarms = some now) :
    e.Does mine { e with now } :=
  .of_act (a := .wait now) trivial (if_pos (le_nextTime h))

end Engine

end Execution

/-! ### What a server does while it waits -/

namespace Server

variable {σ : Type} {mine : ℕ → Prop} {s s' s'' : Server σ}

/-- Whether some quiet actions lead from one state to another, if the calls for which nobody
waits read those invocations only. They read no others afterwards. -/
def Does (mine : ℕ → Prop) (s s' : Server σ) : Prop :=
  (∀ c ∈ s.orphans, mine c.run) → s.engine.Does mine s'.engine ∧ ∀ c ∈ s'.orphans, mine c.run

lemma Does.refl (s : Server σ) : s.Does mine s := fun own => ⟨.refl s.engine, own⟩

lemma Does.trans (h : s.Does mine s') (h' : s'.Does mine s'') : s.Does mine s'' := by
  intro own
  obtain ⟨does, own⟩ := h own
  obtain ⟨does', own⟩ := h' own
  exact ⟨does.trans does', own⟩

lemma Does.of_engine (does : s.engine.Does mine s'.engine) (same : s'.orphans = s.orphans) :
    s.Does mine s' :=
  fun own => ⟨does, same ▸ own⟩

variable [ResultCache σ]

lemma does_endCall {c : Call} (own : mine c.run) (s : Server σ) (result : Except RpcError Json) :
    s.Does mine (s.endCall c result) := by
  have gone := s.engine.does_drop own
  cases result with
  | error e => exact .of_engine gone rfl
  | ok v =>
      rw [endCall, keepResult]
      split <;> exact .of_engine gone rfl

/-- A call goes on with what its invocation has sent. -/
lemma does_advanceCall (fuel : ℕ) (s : Server σ) {c : Call} (own : mine c.run) :
    s.Does mine (advanceCall fuel s c).1 ∧
      ∀ c', (advanceCall fuel s c).2 = .inl c' → c'.run = c.run := by
  induction fuel generalizing s c with
  | zero => exact ⟨.refl s, by rintro c' ⟨⟩; rfl⟩
  | succ fuel ih =>
      have taken := s.engine.does_take own
      rw [advanceCall]
      generalize s.engine.take c.run = found at taken
      obtain ⟨reading, engine⟩ := found
      cases reading with
      | pending => exact ⟨.refl s, by rintro c' ⟨⟩; rfl⟩
      | ended => exact ⟨does_endCall own s _, by rintro c' ⟨⟩⟩
      | event e =>
          have read : s.Does mine { s with engine } := .of_engine taken rfl
          dsimp only
          cases next : c.read e with
          | inl c' =>
              have same := Router.run_of_read next
              obtain ⟨goesOn, kept⟩ := ih { s with engine } (c := c') (same.symm ▸ own)
              exact ⟨read.trans goesOn, fun c'' eq => (kept c'' eq).trans same⟩
          | inr result =>
              exact ⟨read.trans (does_endCall own _ result), by rintro c' ⟨⟩⟩

lemma does_resume (s : Server σ) {c : Call} (own : mine c.run) :
    s.Does mine (s.resume c).1 ∧ ∀ c', (s.resume c).2 = .inl c' → c'.run = c.run :=
  does_advanceCall _ s own

/-- The calls for which nobody waits go on. -/
lemma does_tendOrphans (s : Server σ) : s.Does mine s.tendOrphans := by
  intro own
  rw [tendOrphans]
  refine List.foldlRecOn (motive := fun s' : Server σ =>
    s.engine.Does mine s'.engine ∧ ∀ c ∈ s'.orphans, mine c.run) _ _ ⟨.refl s.engine, by simp⟩ ?_
  rintro s' ⟨does, own'⟩ c there
  obtain ⟨goesOn, kept⟩ := s'.does_resume (own c there)
  generalize s'.resume c = found at goesOn kept
  obtain ⟨done, own''⟩ := goesOn own'
  obtain ⟨s'', c' | result⟩ := found
  · refine ⟨does.trans done, fun d hd => ?_⟩
    rcases List.mem_append.mp hd with old | new
    · exact own'' d old
    · rw [List.mem_singleton.mp new, kept c' rfl]
      exact own c there
  · exact ⟨does.trans done, own''⟩

/-- Everything goes on that can. -/
lemma does_settle (s : Server σ) : s.Does mine s.settle := by
  have key : ∀ (fuel : ℕ) (s : Server σ), s.Does mine (settleWithin fuel s) := by
    intro fuel
    induction fuel with
    | zero => exact .refl
    | succ fuel ih =>
        intro s
        have ran : s.Does mine s.runAll := .of_engine s.engine.does_quiesce rfl
        have tended := ran.trans s.runAll.does_tendOrphans
        rw [settleWithin]
        split
        · exact tended.trans (ih _)
        · exact tended
  exact key patience s

/-- Everything goes on that can, or the clock jumps. -/
lemma does_turn {alarms : List ℕ} (h : s.turn alarms = some s') : s.Does mine s' := by
  rw [turn] at h
  split at h
  · obtain rfl := Option.some.inj h
    exact s.does_settle
  · obtain ⟨later, elapsed, rfl⟩ := Option.map_eq_some_iff.mp h
    obtain ⟨now, next, rfl⟩ := Option.map_eq_some_iff.mp elapsed
    have jumped : s.Does mine (s.setClock now) := .of_engine (Engine.does_jump next) rfl
    exact jumped.trans (does_settle _)

/-- To wait for something is quiet if to ask for it is. -/
lemma does_await {α β : Type} {ask : Server σ → α → Server σ × (α ⊕ β)}
    (asks : ∀ (s : Server σ) (a : α), s.Does mine (ask s a).1) (s : Server σ) (alarms : List ℕ)
    (a : α) : s.Does mine (s.await alarms a ask).1 := by
  have key : ∀ (fuel : ℕ) (s : Server σ) (a : α),
      s.Does mine (awaitWithin ask alarms fuel s a).1 := by
    intro fuel
    induction fuel with
    | zero => exact fun s _ => .refl s
    | succ fuel ih =>
        intro s a
        have asked := asks s a
        rw [awaitWithin]
        split
        · next h => rwa [h] at asked
        · next s' a' h =>
            rw [h] at asked
            split
            · next turned => exact asked.trans ((does_turn turned).trans (ih _ _))
            · exact asked
  exact key patience s a

/-- Replies go on, whatever they read. -/
lemma does_pursue (all : ∀ id, mine id) (s : Server σ) (reply : Reply) :
    s.Does mine (s.pursue reply).1 := by
  cases reply with
  | ready response => exact .refl s
  | underWay id call =>
      obtain ⟨resumed, -⟩ := s.does_resume (all call.run)
      rw [pursue]
      split
      · next h => rwa [h] at resumed
      · next h => rwa [h] at resumed

lemma does_pursueAll (all : ∀ id, mine id) (s : Server σ) (replies : List Reply) :
    s.Does mine (s.pursueAll replies).1 := by
  rw [pursueAll]
  generalize gone : replies.foldl _ (s, []) = done
  have each : s.Does mine done.1 := by
    rw [← gone]
    refine List.foldlRecOn (motive := fun done : Server σ × List Reply => s.Does mine done.1)
      _ _ (.refl s) ?_
    exact fun done does r _ => does.trans (does_pursue all _ r)
  dsimp only
  split <;> exact each

lemma does_nextEvent {run : ℕ} (own : mine run) (s : Server σ) :
    s.Does mine (s.nextEvent run).1 := by
  refine does_await (fun s _ => ?_) s [] ()
  have taken := s.engine.does_take own
  rw [askEvent]
  split
  · next h => exact .of_engine (by rwa [h] at taken) rfl
  · exact .refl s
  · exact .refl s

/-! ### The next event -/

/-- What the reader of an invocation gets in the end that waits for its next event. -/
def seen : Option (Option Event) → List Engine.Reading
  | none => []
  | some none => [.ended]
  | some (some e) => [.event e]

/-- What a reader gets that asks once. -/
lemma readings_take {e : Engine} {run : ℕ} (there : run < e.runs.length) :
    (Timeline.run e [.take run]).now = (e.take run).2
      ∧ readings run (Timeline.run e [.take run]).past = [(e.take run).1] := by
  simp [Timeline.run, Timeline.next, Engine.act, there, readings, Engine.reading?]

/-- What a reader gets that asks, before others go on. -/
lemma readings_append (e : Engine) (run : ℕ) (acts more : List Action) :
    readings run (Timeline.run e (acts ++ more)).past
      = readings run (Timeline.run e acts).past
        ++ readings run (Timeline.run (Timeline.run e acts).now more).past := by
  rw [Timeline.past_append, readings, List.filterMap_append]
  rfl

/-- Whether a reader of an invocation gets something, after it has found nothing for a while. -/
structure Awaits (run : ℕ) (s : Server σ) (k : ℕ) (acts : List Action)
    (found : Server σ × Option (Option Event)) : Prop where
  quiet : ∀ a ∈ acts, a.IsQuiet fun _ => True
  now : (Timeline.run s.engine acts).now = found.1.engine
  apart : ∀ c ∈ found.1.orphans, c.run ≠ run
  readings_eq : readings run (Timeline.run s.engine acts).past
    = List.replicate k .pending ++ seen found.2

/-- **The next event of an invocation is what its reader gets.** The reader asks until there is
an event or the end, and others go on in between, which leave the queue alone. The server gives
up only after the reader has found nothing. -/
theorem nextEvent_reaches (s : Server σ) {run : ℕ} (there : run < s.engine.runs.length)
    (apart : ∀ c ∈ s.orphans, c.run ≠ run) :
    ∃ k acts, Awaits run s k acts (s.nextEvent run) ∧ ((s.nextEvent run).2 = none → 0 < k) := by
  have key : ∀ (fuel : ℕ) (s : Server σ), run < s.engine.runs.length →
      (∀ c ∈ s.orphans, c.run ≠ run) →
      ∃ k acts, Awaits run s k acts (awaitWithin (askEvent run) [] fuel s ())
        ∧ ((awaitWithin (askEvent run) [] fuel s ()).2 = none → 0 < fuel → 0 < k) := by
    intro fuel
    induction fuel with
    | zero =>
        exact fun s there apart => ⟨0, [], ⟨by simp, rfl, apart, rfl⟩, fun _ some => some⟩
    | succ fuel ih =>
        intro s there apart
        obtain ⟨now, got⟩ := readings_take there
        have nothing (h : ∀ event, (s.engine.take run).1 ≠ .event event) :
            (Timeline.run s.engine [.take run]).now = s.engine :=
          now.trans (Engine.take_of_nothing h)
        rw [awaitWithin, askEvent]
        cases taken : s.engine.take run with
        | mk reading engine =>
        rw [taken] at now got nothing
        cases reading with
        | event e => exact ⟨0, [.take run], ⟨by simp [Action.IsQuiet], now, apart, got⟩, nofun⟩
        | ended =>
            exact ⟨0, [.take run], ⟨by simp [Action.IsQuiet], nothing (by simp), apart, got⟩, nofun⟩
        | pending =>
            have same := nothing (by simp)
            dsimp only
            cases turned : s.turn [] with
            | none =>
                exact ⟨1, [.take run], ⟨by simp [Action.IsQuiet], same, apart, got⟩, fun _ _ =>
                  Nat.one_pos⟩
            | some s' =>
                have goesOn : s.Does (· ≠ run) s' := does_turn turned
                obtain ⟨does, apart'⟩ := goesOn apart
                have there' : run < s'.engine.runs.length := does.length.symm ▸ there
                obtain ⟨acts, quiet, now'⟩ := does
                obtain ⟨k, more, awaits, -⟩ := ih s' there' apart'
                refine ⟨k + 1, [.take run] ++ (acts ++ more), ⟨fun a among => ?_, ?_, awaits.apart,
                  ?_⟩, fun _ _ => Nat.succ_pos k⟩
                · rcases List.mem_append.mp among with asked | among
                  · rw [List.mem_singleton.mp asked]
                    exact trivial
                  · exact (List.mem_append.mp among).elim
                      (fun among => (quiet a among).mono fun _ _ => trivial) (awaits.quiet a)
                · rw [Timeline.run_append, same, Timeline.run_append, now', awaits.now]
                · rw [readings_append, got, same, readings_append, now', awaits.readings_eq,
                    Execution.readings_of_quiet quiet (by simp), List.replicate_succ]
                  rfl
  obtain ⟨k, acts, awaits, waited⟩ := key patience s there apart
  exact ⟨k, acts, awaits, fun none => waited none (by decide)⟩

end Server

end ToolServer
