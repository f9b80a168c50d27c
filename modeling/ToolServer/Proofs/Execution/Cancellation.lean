/-
What cancels the context of an invocation, and what an invocation cancels:

* `Token.covers`: a token covers itself and all below it; `isCancelled_iff`: it is
  cancelled if a token that covers it has been fired;
* `Engine.isHeld`, `Action.token?`: the tokens that are held outside the invocations,
  which are the ones that actions from outside may be about;
* `Engine.Rooted`, `Rooted.act`: every invocation has a token of its own, right below
  one that is held;
* `Signal`: what fires a token before its invocation is over, its holder or a deadline;
* `Engine.Scoped`, `Scoped.act`: the invariant. Every token that has been fired has been
  fired by such a signal or at the end of its invocation;
* `Scoped.scope_cancelled_iff`, `Scoped.held_cancelled_iff`: so a context is cancelled
  through its caller or by its own deadline, and a token that is held only by holders;
* `isCancelled_act`: an action cancels nothing but what is below the token that it is
  about.

A token counts as made if all numbers on the way to it have been given out. A token
that has not been made may not be fired: it may become that of an invocation.
-/
import ToolServer.Proofs.Execution.Slots

namespace ToolServer.Execution

/-! ### Tokens above others -/

namespace Token

/-- Whether a token is another one or stands above it. -/
def covers (t : Token) : Token → Bool
  | .named name => t == .named name
  | .child parent index => t == .child parent index || t.covers parent

@[simp] lemma covers_self (t : Token) : t.covers t = true := by
  cases t <;> simp [covers]

lemma covers_child_iff {t parent : Token} {index : ℕ} :
    t.covers (.child parent index) = true ↔ t = .child parent index ∨ t.covers parent = true := by
  simp [covers]

lemma covers_child {t parent : Token} (h : t.covers parent = true) (index : ℕ) :
    t.covers (.child parent index) = true :=
  covers_child_iff.mpr (.inr h)

lemma covers_trans {s t u : Token} (h : s.covers t = true) (h' : t.covers u = true) :
    s.covers u = true := by
  induction u with
  | named name =>
      obtain rfl : t = .named name := by simpa [covers] using h'
      exact h
  | child parent index ih =>
      rcases covers_child_iff.mp h' with rfl | above
      · exact h
      · exact covers_child (ih above) index

/-- Of two tokens that cover a third, one covers the other. -/
lemma covers_total {s t u : Token} (hs : s.covers u = true) (ht : t.covers u = true) :
    s.covers t = true ∨ t.covers s = true := by
  induction u with
  | named name =>
      obtain rfl : s = .named name := by simpa [covers] using hs
      exact .inr ht
  | child parent index ih =>
      rcases covers_child_iff.mp hs with rfl | hs
      · exact .inr ht
      · rcases covers_child_iff.mp ht with rfl | ht
        · exact .inl (covers_child hs index)
        · exact ih hs ht

/-- **A token is cancelled if one that covers it has been fired.** -/
theorem isCancelled_iff {fired : List Token} {t : Token} :
    t.isCancelled fired = true ↔ ∃ a ∈ fired, a.covers t = true := by
  induction t with
  | named name => simp [isCancelled, covers]
  | child parent index ih =>
      rw [isCancelled, Bool.or_eq_true, ih, List.contains_iff_mem]
      constructor
      · rintro (there | ⟨a, there, above⟩)
        · exact ⟨_, there, covers_self _⟩
        · exact ⟨a, there, covers_child above index⟩
      · rintro ⟨a, there, above⟩
        rcases covers_child_iff.mp above with rfl | above
        · exact .inl there
        · exact .inr ⟨a, there, above⟩

end Token

/-! ### Tokens that are held -/

/-- The token that an action from outside is about. -/
def Action.token? : Action → Option Token
  | .cancel t => some t
  | .submit _ _ _ caller _ => some caller
  | .branch _ | .advance _ | .expire _ | .take _ | .drop _ | .emit .. | .wait _ | .meddle _ => none

namespace Engine

/-- Whether a token has been made. -/
def made (e : Engine) : Token → Bool
  | .named _ => true
  | .child parent index => e.made parent && decide (index < e.children)

/-- The callers of the invocations and their own tokens. -/
def places (e : Engine) : List (Token × Token) :=
  e.runs.map fun r => (r.caller, r.scope)

/-- Whether a token is held outside the invocations: it has been made, and it is not
that of an invocation nor below it. -/
def isHeld (e : Engine) (t : Token) : Bool :=
  e.made t && e.places.all fun p => !p.2.covers t

variable {e e' : Engine} {a : Action} {s t : Token} {id : ℕ} {r : Run}

lemma isHeld_iff :
    e.isHeld t = true ↔ e.made t = true ∧ ∀ p ∈ e.places, p.2.covers t = false := by
  simp [isHeld]

lemma made_mono (le : e.children ≤ e'.children) (h : e.made t = true) : e'.made t = true := by
  induction t with
  | named name => rfl
  | child parent index ih =>
      simp only [made, Bool.and_eq_true, decide_eq_true_eq] at h ⊢
      exact ⟨ih h.1, lt_of_lt_of_le h.2 le⟩

lemma made_of_covers (above : s.covers t = true) (h : e.made t = true) : e.made s = true := by
  induction t with
  | named name =>
      obtain rfl : s = .named name := by simpa [Token.covers] using above
      rfl
  | child parent index ih =>
      rcases Token.covers_child_iff.mp above with rfl | above
      · exact h
      · simp only [made, Bool.and_eq_true] at h
        exact ih above h.1

/-- The next token to be made covers none that has been made. -/
lemma fresh_not_covers (parent : Token) (h : e.made t = true) :
    (Token.child parent e.children).covers t = false := by
  by_contra above
  have before := made_of_covers (by simpa using above) h
  simp [made] at before

/-- The next token to be made is covered through its parent only. -/
lemma covers_fresh_iff (h : e.made s = true) (parent : Token) :
    s.covers (.child parent e.children) = true ↔ s.covers parent = true := by
  rw [Token.covers_child_iff]
  refine or_iff_right ?_
  rintro rfl
  simp [made] at h

lemma mem_places (there : e.runs[id]? = some r) : (r.caller, r.scope) ∈ e.places :=
  List.mem_map_of_mem (List.mem_of_getElem? there)

/-! ### Where invocations stand -/

section Fields

variable (e : Engine) (id : ℕ) (r : Run)

@[simp] lemma setRun_children : (e.setRun id r).children = e.children := rfl

@[simp] lemma countUp_children (f : Counters → Counters) :
    (e.countUp f).children = e.children := rfl

@[simp] lemma fire_children (t : Token) : (e.fire t).children = e.children := rfl

@[simp] lemma release_children : e.release.children = e.children := by
  rw [release]
  split <;> rfl

@[simp] lemma leaveLine_children : (e.leaveLine id).children = e.children := by
  simp only [leaveLine]
  split_ifs <;> simp

@[simp] lemma publish_children (x : Emission) : (e.publish id r x).1.children = e.children := by
  rw [publish_engine]
  rfl

end Fields

/-- Numbers of tokens are given out one after the other. -/
lemma Step.children_le (step : e.Step a e') : e.children ≤ e'.children := by
  cases step with
  | refused => simp [turnAway]
  | emitted | emittedOutside => simp
  | finished | gaveUp => simp [finish]
  | branched | submitted => exact Nat.le_succ _
  | _ => exact le_rfl

end Engine

lemma Run.isFinished_of_isHandling {r : Run} (handling : r.stage.isHandling = true) :
    r.isFinished = false := by
  cases stage : r.stage <;> simp_all [isFinished, Stage.isHandling]

/-- What stays as it is while an invocation goes on: its place, its times once it has begun,
and that it is over. -/
structure Run.Continues (r r' : Run) : Prop where
  caller : r'.caller = r.caller
  scope : r'.scope = r.scope
  begun : r.stage.isEntering = false → r'.stage.isEntering = false
  started : r.stage.isEntering = false → r'.started = r.started
  deadline : r.stage.isEntering = false → r'.deadline = r.deadline
  finished : r.isFinished = true → r'.isFinished = true

lemma Run.Continues.refl (r : Run) : r.Continues r :=
  ⟨rfl, rfl, id, fun _ => rfl, fun _ => rfl, id⟩

lemma Run.continues_publish (maxEvents capacity : ℕ) (cancelled : Bool) (x : Emission) (r : Run) :
    r.Continues (r.publish maxEvents capacity cancelled x).1 := by
  obtain ⟨_, _, _, eq⟩ := publish_fst maxEvents capacity cancelled x r
  rw [eq]
  exact ⟨rfl, rfl, id, fun _ => rfl, fun _ => rfl, id⟩

/-- Every change lets an invocation go on. -/
lemma Run.Change.continues {e : Engine} {r r' : Run} {reading : Option Engine.Reading}
    (change : r.Change e reading r') : r.Continues r' := by
  have entered {p : Prop} (entering : r.stage.isEntering = true) :
      r.stage.isEntering = false → p := fun begun => by simp [entering] at begun
  have unfinished (entering : r.stage.isEntering = true) : r.isFinished = false := by
    cases stage : r.stage <;> simp_all [isFinished, Stage.isEntering]
  cases change with
  | refused entering =>
      exact ⟨rfl, rfl, entered entering, entered entering, entered entering, fun _ => rfl⟩
  | begun entering =>
      exact ⟨rfl, rfl, entered entering, entered entering, entered entering,
        fun finished => by simp [unfinished entering] at finished⟩
  | queued entering =>
      exact ⟨rfl, rfl, entered entering, entered entering, entered entering,
        fun finished => by simp [unfinished entering] at finished⟩
  | @emitted x next active =>
      have going := r.continues_publish e.config.maxEvents e.config.capacity
        (e.isCancelled r.scope) x
      exact ⟨going.caller, going.scope, fun _ => rfl, going.started, going.deadline,
        fun finished => by simp [isFinished, active] at finished⟩
  | emittedOutside x => exact r.continues_publish ..
  | moved follows =>
      refine ⟨rfl, rfl, fun _ => ?_, fun _ => rfl, fun _ => rfl, fun finished => ?_⟩
      · exact Bool.eq_false_iff.mpr fun entering =>
          absurd follows.isHandling.2 (by simp [Stage.not_isHandling_of_isEntering entering])
      · simp [isFinished_of_isHandling follows.isHandling.1] at finished
  | concluded active =>
      exact ⟨rfl, rfl, fun _ => rfl, fun _ => rfl, fun _ => rfl,
        fun finished => by simp [isFinished, active] at finished⟩
  | finished => exact ⟨rfl, rfl, fun _ => rfl, fun _ => rfl, fun _ => rfl, fun _ => rfl⟩
  | read | foundNothing | dropped =>
      exact ⟨rfl, rfl, id, fun _ => rfl, fun _ => rfl, id⟩

/-- Whether the deadline of an invocation that has a slot is as far ahead as the limits say. -/
def Run.Timed (timeout : ℕ) (r : Run) : Prop :=
  r.holdsSlot = true → r.deadline = Duration.deadlineAfter r.started timeout

lemma Run.Change.timed {e : Engine} {r r' : Run} {reading : Option Engine.Reading}
    (change : r.Change e reading r') (timed : r.Timed e.config.timeout) :
    r'.Timed e.config.timeout := by
  have going := change.continues
  intro holds
  by_cases had : r.holdsSlot = true
  · have begun : r.stage.isEntering = false := by
      cases stage : r.stage <;> simp_all [holdsSlot, Stage.isEntering]
    rw [going.deadline begun, going.started begun]
    exact timed had
  · -- the only change that gives a slot sets the times
    cases change with
    | begun => rfl
    | refused | queued | finished => cases holds
    | emitted active | concluded active => simp [holdsSlot, active] at had
    | emittedOutside x =>
        rw [holdsSlot, publish_stage] at holds
        exact absurd holds had
    | moved follows =>
        have handling := follows.isHandling.1
        cases stage : r.stage <;> simp_all [holdsSlot, Stage.isHandling]
    | read | foundNothing | dropped => exact absurd holds had

namespace Engine

variable {e e' : Engine} {a : Action} {s t : Token} {id : ℕ} {r : Run}

/-- Every action leaves the invocations in their places, and may add one below a caller. -/
lemma act_places (h : e.act a = some e') :
    (e'.places = e.places ∧ e.children ≤ e'.children)
    ∨ ∃ caller, a.token? = some caller
        ∧ e'.places = e.places ++ [(caller, .child caller e.children)]
        ∧ e'.children = e.children + 1 := by
  have children := (act_step h).children_le
  rcases act_runs h with ⟨same, -⟩ | ⟨tool, requestId, args, caller, handler, rfl, -⟩ |
    ⟨i, r, r', there, set, change, -⟩
  · exact .inl ⟨by rw [places, same, places], children⟩
  · obtain rfl := Option.some.inj h
    exact .inr ⟨caller, rfl, List.map_append, rfl⟩
  · refine .inl ⟨?_, children⟩
    have place : (e.runs.map fun r => (r.caller, r.scope))[i]? = some (r'.caller, r'.scope) := by
      rw [List.getElem?_map, there, change.continues.caller, change.continues.scope]
      rfl
    rw [places, set, List.map_set, set_of_getElem? place, places]

/-- **What is held stays held.** -/
lemma isHeld_act (h : e.act a = some e') (held : e.isHeld t = true) : e'.isHeld t = true := by
  obtain ⟨made, apart⟩ := isHeld_iff.mp held
  rcases act_places h with ⟨places, children⟩ | ⟨caller, -, places, children⟩
  · exact isHeld_iff.mpr ⟨made_mono children made, by rwa [places]⟩
  · refine isHeld_iff.mpr ⟨made_mono (by omega) made, ?_⟩
    rw [places]
    intro p hp
    rcases List.mem_append.mp hp with old | new
    · exact apart p old
    · rw [List.mem_singleton.mp new]
      exact fresh_not_covers caller made

/-- An executor whose invocations have tokens of their own, each right below a token that
is held. -/
structure Rooted (e : Engine) : Prop where
  child : ∀ p ∈ e.places, ∃ i, p.2 = .child p.1 i
  made : ∀ p ∈ e.places, e.made p.2 = true
  held : ∀ p ∈ e.places, e.isHeld p.1 = true
  apart : (e.places.map Prod.snd).Nodup

lemma rooted_new (config : ExecutorConfig) : (new config).Rooted where
  child := nofun
  made := nofun
  held := nofun
  apart := List.nodup_nil

theorem Rooted.act (rooted : e.Rooted) (admitted : a.token?.all e.isHeld = true)
    (h : e.act a = some e') : e'.Rooted := by
  have stays : ∀ t, e.isHeld t = true → e'.isHeld t = true := fun _ => isHeld_act h
  rcases act_places h with ⟨places, children⟩ | ⟨caller, token, places, children⟩
  · exact
      { child := places ▸ rooted.child
        made := fun p hp => made_mono children (rooted.made p (places ▸ hp))
        held := fun p hp => stays _ (rooted.held p (places ▸ hp))
        apart := places ▸ rooted.apart }
  · have callerHeld : e.isHeld caller = true := by simpa [token] using admitted
    have made : e'.made (.child caller e.children) = true := by
      have parent : e'.made caller = true := made_mono (by omega) (isHeld_iff.mp callerHeld).1
      simp [Engine.made, parent, children]
    have new : Token.child caller e.children ∉ e.places.map Prod.snd := by
      intro old
      obtain ⟨p, hp, same⟩ := List.mem_map.mp old
      have before := rooted.made p hp
      rw [same] at before
      simp [Engine.made] at before
    constructor
    · rw [places]
      exact List.forall_mem_append.mpr ⟨rooted.child, by simp⟩
    · rw [places]
      exact List.forall_mem_append.mpr
        ⟨fun p hp => made_mono (by omega) (rooted.made p hp), by simpa using made⟩
    · rw [places]
      exact List.forall_mem_append.mpr
        ⟨fun p hp => stays _ (rooted.held p hp), by simpa using stays _ callerHeld⟩
    · rw [places, List.map_append]
      exact List.nodup_append.mpr ⟨rooted.apart, List.nodup_singleton _, by
        intro t ht u hu same
        obtain rfl : u = .child caller e.children := List.mem_singleton.mp hu
        exact new (same ▸ ht)⟩

namespace Rooted

/-- A token that is made below one that is held is held. -/
lemma held_fresh (rooted : e.Rooted) (held : e.isHeld t = true) :
    (e.childOf t).2.isHeld (e.childOf t).1 = true := by
  obtain ⟨made, apart⟩ := isHeld_iff.mp held
  have made' : (e.childOf t).2.made t = true := made_mono (Nat.le_succ _) made
  refine isHeld_iff.mpr ⟨by simp [Engine.made, childOf] at made' ⊢; exact made', ?_⟩
  intro p hp
  refine Bool.eq_false_iff.mpr fun above => ?_
  have above := (covers_fresh_iff (rooted.made p hp) t).mp above
  simp [apart p hp] at above

lemma scope_eq (rooted : e.Rooted) (there : e.runs[id]? = some r) :
    ∃ i, r.scope = .child r.caller i :=
  rooted.child _ (mem_places there)

lemma caller_held (rooted : e.Rooted) (there : e.runs[id]? = some r) :
    e.isHeld r.caller = true :=
  rooted.held _ (mem_places there)

/-- No two invocations have the same token. -/
lemma scope_injective (rooted : e.Rooted) {id' : ℕ} {r' : Run} (there : e.runs[id]? = some r)
    (there' : e.runs[id']? = some r') (same : r.scope = r'.scope) : id = id' := by
  have scope : (e.places.map Prod.snd)[id]? = some r.scope := by
    simp [places, there]
  have scope' : (e.places.map Prod.snd)[id']? = some r.scope := by
    simp [places, there', same]
  have bound := (List.getElem?_eq_some_iff.mp scope).1
  exact (List.getElem?_inj bound rooted.apart).mp (scope.trans scope'.symm)

/-- The token of an invocation covers that of no other. -/
lemma scope_not_covers (rooted : e.Rooted) {id' : ℕ} {r' : Run} (there : e.runs[id]? = some r)
    (there' : e.runs[id']? = some r') (other : id ≠ id') : r.scope.covers r'.scope = false := by
  by_contra above
  obtain ⟨i, scope⟩ := rooted.scope_eq there'
  have above : r.scope.covers (.child r'.caller i) = true := by simpa [scope] using above
  rcases Token.covers_child_iff.mp above with same | above
  · exact other (rooted.scope_injective there there' (same.trans scope.symm))
  · have apart := (isHeld_iff.mp (rooted.caller_held there')).2 _ (mem_places there)
    simp [apart] at above

end Rooted

/-! ### What fires tokens -/

/-- The end of an invocation fires its token. -/
lemma finish_fired {giveUp : ℕ} {r' : Run} {last : Event} {delivery : Run.Delivery}
    (delivered : r.deliver e.config.capacity (isDue giveUp e.now) last = (r', delivery)) :
    (e.finish id r').fired = r.scope :: e.fired := by
  have scope : r'.scope = r.scope := by
    rw [show r' = _ from (congrArg Prod.fst delivered).symm, Run.deliver_fst]
  simp [finish, scope]

/-- What one action adds to the tokens that have been fired: nothing, a token that is fired
from outside, or that of an invocation at its deadline or its end. -/
lemma Step.fired_cases (step : e.Step a e') :
    e'.fired = e.fired
    ∨ ∃ t, e'.fired = t :: e.fired ∧ (a = .cancel t
      ∨ ∃ id r, e.runs[id]? = some r ∧ t = r.scope ∧ (a = .expire id ∧ e.mustExpire r = true
        ∨ a = .advance id ∧ ∃ r', e'.runs[id]? = some r' ∧ r'.isFinished = true)) := by
  have finished {id : ℕ} {r r' : Run} (there : e.runs[id]? = some r) :
      ∃ q, (e.finish id r').runs[id]? = some q ∧ q.isFinished = true := by
    have bound := (List.getElem?_eq_some_iff.mp there).1
    exact ⟨{ r' with stage := .finished }, by simp [finish, bound], rfl⟩
  cases step with
  | refused => exact .inl (by simp [turnAway])
  | emitted | emittedOutside => exact .inl (by simp)
  | finished there _ delivered | gaveUp there _ delivered =>
      exact .inr ⟨_, finish_fired delivered, .inr ⟨_, _, there, rfl, .inr ⟨rfl, finished there⟩⟩⟩
  | expired there due => exact .inr ⟨_, rfl, .inr ⟨_, _, there, rfl, .inl ⟨rfl, due⟩⟩⟩
  | cancelled t => exact .inr ⟨t, rfl, .inl rfl⟩
  | _ => exact .inl rfl

/-- An invocation that is over has been refused, since its caller had cancelled, or its
token has been fired at its end. -/
lemma Step.finished_cases (step : e.Step a e') (there : e.runs[id]? = some r) {r' : Run}
    (there' : e'.runs[id]? = some r') (finished : r'.isFinished = true) :
    r.isFinished = true ∨ e.isCancelled r.caller = true ∨ r.scope ∈ e'.fired := by
  have bound : id < e.runs.length := (List.getElem?_eq_some_iff.mp there).1
  have same (eq : e'.runs = e.runs) : r.isFinished = true := by
    rw [eq, there] at there'
    cases there'
    exact finished
  -- a step that changes one invocation leaves the others as they are
  have changed {i : ℕ} {q q' : Run} (atPlace : e.runs[i]? = some q)
      (set : e'.runs = e.runs.set i q') : q = r ∧ q'.isFinished = true ∨ r.isFinished = true := by
    by_cases here : i = id
    · subst here
      rw [set, List.getElem?_set_self bound] at there'
      cases there'
      exact .inl ⟨Option.some.inj (atPlace.symm.trans there), finished⟩
    · rw [set, List.getElem?_set_ne here, there] at there'
      cases there'
      exact .inr finished
  cases step with
  | branched | expired | cancelled | foundNothing | waited | meddled => exact .inl (same rfl)
  | submitted =>
      rw [List.getElem?_append_left bound, there] at there'
      cases there'
      exact .inl finished
  | refused atPlace _ cancelled =>
      rcases changed atPlace (by simp [turnAway]; rfl) with ⟨rfl, -⟩ | before
      · exact .inr (.inl cancelled)
      · exact .inl before
  | finished atPlace _ delivered | gaveUp atPlace _ delivered =>
      rcases changed atPlace (by simp [finish]; rfl) with ⟨rfl, -⟩ | before
      · exact .inr (.inr (by
          show _ ∈ (e.finish _ _).fired
          rw [finish_fired delivered]
          exact List.mem_cons_self))
      · exact .inl before
  | admitted atPlace | begun atPlace | queued atPlace | concluded atPlace =>
      rcases changed atPlace rfl with ⟨-, never⟩ | before
      · cases never
      · exact .inl before
  | emitted atPlace =>
      rcases changed atPlace (by rw [setRun_runs, publish_runs, List.set_set]) with
        ⟨-, never⟩ | before
      · cases never
      · exact .inl before
  | moved _ _ atPlace follows =>
      rcases changed atPlace rfl with ⟨-, never⟩ | before
      · rw [Run.isFinished_of_isHandling follows.isHandling.2] at never
        cases never
      · exact .inl before
  | read atPlace | dropped atPlace =>
      rcases changed atPlace rfl with ⟨rfl, before⟩ | before
      · exact .inl before
      · exact .inl before
  | emittedOutside x atPlace =>
      rcases changed atPlace (by rw [publish_runs]) with ⟨rfl, before⟩ | before
      · rw [Run.isFinished, Run.publish_stage] at before
        exact .inl before
      · exact .inl before

/-- An action lets every invocation go on. -/
lemma act_continues (h : e.act a = some e') (there : e.runs[id]? = some r) :
    ∃ r', e'.runs[id]? = some r' ∧ r.Continues r' := by
  obtain ⟨r', there', ⟨rfl, -⟩ | change⟩ := act_run h there
  · exact ⟨r', there', .refl r'⟩
  · exact ⟨r', there', change.continues⟩

/-- The token that an action may fire. -/
def firing? (e : Engine) : Action → Option Token
  | .cancel t => some t
  | .advance id | .expire id => e.runs[id]?.map Run.scope
  | .branch _ | .submit .. | .take _ | .drop _ | .emit .. | .wait _ | .meddle _ => none

/-- What is not below a token is not cancelled by it. -/
lemma isCancelled_cons {fired : List Token} (apart : s.covers t = false) :
    t.isCancelled (s :: fired) = t.isCancelled fired := by
  rw [Bool.eq_iff_iff, Token.isCancelled_iff, Token.isCancelled_iff]
  simp [apart]

/-- **An action cancels nothing but what is below the token that it is about.** -/
theorem isCancelled_act (h : e.act a = some e')
    (apart : ∀ u ∈ e.firing? a, u.covers t = false) : e'.isCancelled t = e.isCancelled t := by
  rw [isCancelled, isCancelled]
  rcases (act_step h).fired_cases with same | ⟨u, more, why⟩
  · rw [same]
  · rw [more, isCancelled_cons (apart u ?_)]
    rcases why with rfl | ⟨id, r, there, rfl, ⟨rfl, -⟩ | ⟨rfl, -⟩⟩
    · rfl
    · simp [firing?, there]
    · simp [firing?, there]

end Engine

/-! ### Signals -/

/-- What fires a token before its invocation is over. -/
inductive Signal
  /-- Who holds a token fires it. -/
  | cancelled (t : Token)
  /-- The deadline of an invocation fires its token at some time. -/
  | expired (id now : ℕ)

/-- The signal that an action is. -/
def Engine.signal? (e : Engine) : Action → Option Signal
  | .cancel t => some (.cancelled t)
  | .expire id => some (.expired id e.now)
  | .branch _ | .submit .. | .advance _ | .take _ | .drop _ | .emit .. | .wait _ | .meddle _ => none

/-- Whether a token or one above it has been fired by who holds it. -/
def Token.Cancelled (signals : List Signal) (t : Token) : Prop :=
  ∃ a : Token, a.covers t = true ∧ .cancelled a ∈ signals

/-- Whether the deadline of an invocation has gone off. -/
def Signal.Expired (signals : List Signal) (id : ℕ) : Prop :=
  ∃ now, .expired id now ∈ signals

namespace Engine

/-- An executor in which every token that has been fired has been fired by a signal or at
the end of its invocation. -/
structure Scoped (signals : List Signal) (e : Engine) : Prop where
  rooted : e.Rooted
  fired : ∀ t ∈ e.fired, .cancelled t ∈ signals ∨ ∃ id r, e.runs[id]? = some r ∧ t = r.scope ∧
    (r.isFinished = true ∨ Signal.Expired signals id)
  cancelled : ∀ t, .cancelled t ∈ signals → t ∈ e.fired ∧ e.isHeld t = true
  expired : ∀ id now, .expired id now ∈ signals → now ≤ e.now ∧ ∃ r, e.runs[id]? = some r ∧
    r.scope ∈ e.fired ∧ r.stage.isEntering = false ∧ isDue r.deadline now = true
  finished : ∀ (id : ℕ) (r : Run), e.runs[id]? = some r → r.isFinished = true →
    e.isCancelled r.scope = true
  timed : ∀ (id : ℕ) (r : Run), e.runs[id]? = some r → r.Timed e.config.timeout

lemma scoped_new (config : ExecutorConfig) : (new config).Scoped [] where
  rooted := rooted_new config
  fired := nofun
  cancelled := nofun
  expired := nofun
  finished := nofun
  timed := nofun

namespace Scoped

variable {e e' : Engine} {a : Action} {t : Token} {id : ℕ} {r : Run} {signals : List Signal}

lemma fired_act (h : e.Scoped signals) (happens : e.act a = some e') :
    ∀ t ∈ e'.fired, .cancelled t ∈ signals ++ (e.signal? a).toList ∨ ∃ id r,
      e'.runs[id]? = some r ∧ t = r.scope ∧
        (r.isFinished = true ∨ Signal.Expired (signals ++ (e.signal? a).toList) id) := by
  have before : ∀ t ∈ e.fired, .cancelled t ∈ signals ++ (e.signal? a).toList ∨ ∃ id r,
      e'.runs[id]? = some r ∧ t = r.scope ∧
        (r.isFinished = true ∨ Signal.Expired (signals ++ (e.signal? a).toList) id) := by
    intro t ht
    rcases h.fired t ht with signal | ⟨id, r, there, rfl, why⟩
    · exact .inl (List.mem_append_left _ signal)
    · obtain ⟨r', there', going⟩ := act_continues happens there
      refine .inr ⟨id, r', there', going.scope.symm, why.imp going.finished ?_⟩
      exact fun ⟨now, signal⟩ => ⟨now, List.mem_append_left _ signal⟩
  intro t ht
  rcases (act_step happens).fired_cases with same | ⟨u, more, why⟩
  · exact before t (same ▸ ht)
  · rw [more] at ht
    rcases List.mem_cons.mp ht with rfl | ht
    · rcases why with rfl | ⟨id, r, there, rfl, ⟨rfl, -⟩ | ⟨rfl, r', there', finished⟩⟩
      · exact .inl (List.mem_append_right _ List.mem_cons_self)
      · obtain ⟨r', there', going⟩ := act_continues happens there
        exact .inr ⟨id, r', there', going.scope.symm,
          .inr ⟨e.now, List.mem_append_right _ List.mem_cons_self⟩⟩
      · obtain ⟨r'', there'', going⟩ := act_continues happens there
        obtain rfl := Option.some.inj (there'.symm.trans there'')
        exact .inr ⟨id, r', there', going.scope.symm, .inl finished⟩
    · exact before t ht

lemma cancelled_act (h : e.Scoped signals) (admitted : a.token?.all e.isHeld = true)
    (happens : e.act a = some e') : ∀ t, .cancelled t ∈ signals ++ (e.signal? a).toList →
      t ∈ e'.fired ∧ e'.isHeld t = true := by
  intro t signal
  rcases List.mem_append.mp signal with old | new
  · obtain ⟨fired, held⟩ := h.cancelled t old
    exact ⟨(act_step happens).fired fired, isHeld_act happens held⟩
  · cases a with
    | cancel u =>
        obtain rfl : t = u := by simpa [signal?] using new
        have held : e.isHeld t = true := by simpa [Action.token?] using admitted
        refine ⟨?_, isHeld_act happens held⟩
        obtain rfl := Option.some.inj happens
        exact List.mem_cons_self
    | expire => simp [signal?] at new
    | branch | submit | advance | take | drop | emit | wait | meddle => simp [signal?] at new

/-- A deadline goes off when it is time, and only if its invocation has begun. -/
lemma due_of_expire {i : ℕ} (happens : e.act (.expire i) = some e') :
    ∃ r, e'.runs[i]? = some r ∧ r.scope ∈ e'.fired ∧ r.stage.isEntering = false ∧
      isDue r.deadline e.now = true := by
  cases act_step happens with
  | @expired _ r there due =>
      obtain ⟨⟨holds, due⟩, -⟩ := by simpa only [mustExpire, Bool.and_eq_true] using due
      refine ⟨r, there, List.mem_cons_self, ?_, due⟩
      cases stage : r.stage <;> simp_all [Run.holdsSlot, Stage.isEntering]

lemma expired_act (h : e.Scoped signals) (happens : e.act a = some e') :
    ∀ id now, .expired id now ∈ signals ++ (e.signal? a).toList → now ≤ e'.now ∧
      ∃ r, e'.runs[id]? = some r ∧ r.scope ∈ e'.fired ∧ r.stage.isEntering = false ∧
        isDue r.deadline now = true := by
  have later := act_now happens
  intro id now signal
  rcases List.mem_append.mp signal with old | new
  · obtain ⟨before, r, there, fired, begun, due⟩ := h.expired id now old
    obtain ⟨r', there', going⟩ := act_continues happens there
    exact ⟨before.trans later, r', there', going.scope ▸ (act_step happens).fired fired,
      going.begun begun, by rwa [going.deadline begun]⟩
  · cases a with
    | expire i =>
        obtain ⟨rfl, rfl⟩ : id = i ∧ now = e.now := by simpa [signal?] using new
        exact ⟨later, due_of_expire happens⟩
    | cancel => simp [signal?] at new
    | branch | submit | advance | take | drop | emit | wait | meddle => simp [signal?] at new

/-- What holds of the invocations that go on and of new ones holds of all after an action. -/
lemma runs_act {P Q : Run → Prop} (h : ∀ (id : ℕ) (r : Run), e.runs[id]? = some r → P r)
    (happens : e.act a = some e')
    (goes : ∀ (id : ℕ) (r r' : Run), e.runs[id]? = some r → e'.runs[id]? = some r' → P r → Q r')
    (fresh : ∀ tool requestId args caller handler,
      Q (e.fresh tool requestId args caller handler)) :
    ∀ (id : ℕ) (r : Run), e'.runs[id]? = some r → Q r := by
  intro id r there
  cases before : e.runs[id]? with
  | none =>
      obtain ⟨-, _, _, _, _, _, rfl⟩ := act_new happens before there
      exact fresh ..
  | some q => exact goes id q r before there (h id q before)

lemma finished_act (h : e.Scoped signals) (happens : e.act a = some e') :
    ∀ (id : ℕ) (r : Run), e'.runs[id]? = some r → r.isFinished = true →
      e'.isCancelled r.scope = true := by
  have fired := (act_step happens).fired
  refine runs_act h.finished happens ?_ fun _ _ _ _ _ never => by cases never
  intro id r r' there there' known finished
  obtain ⟨r'', there'', going⟩ := act_continues happens there
  obtain rfl := Option.some.inj (there'.symm.trans there'')
  rw [going.scope]
  rcases (act_step happens).finished_cases there there' finished with before | above | own
  · exact Token.isCancelled_mono fired (known before)
  · obtain ⟨i, scope⟩ := h.rooted.scope_eq there
    rw [scope]
    exact Token.isCancelled_mono fired (Token.isCancelled_child i above)
  · exact Token.isCancelled_of_mem own

lemma timed_act (h : e.Scoped signals) (happens : e.act a = some e') :
    ∀ (id : ℕ) (r : Run), e'.runs[id]? = some r → r.Timed e'.config.timeout := by
  rw [act_config happens]
  refine runs_act h.timed happens ?_ fun _ _ _ _ _ never => by cases never
  intro id r r' there there' timed
  obtain ⟨r'', there'', ⟨rfl, -⟩ | change⟩ := act_run happens there
  · obtain rfl := Option.some.inj (there'.symm.trans there'')
    exact timed
  · obtain rfl := Option.some.inj (there'.symm.trans there'')
    exact change.timed timed

/-- **No action breaks the invariant**, if it is about a token that is held or about none. -/
theorem act (h : e.Scoped signals) (admitted : a.token?.all e.isHeld = true)
    (happens : e.act a = some e') : e'.Scoped (signals ++ (e.signal? a).toList) where
  rooted := h.rooted.act admitted happens
  fired := h.fired_act happens
  cancelled := h.cancelled_act admitted happens
  expired := h.expired_act happens
  finished := h.finished_act happens
  timed := h.timed_act happens

/-! ### What cancels a context -/

/-- **A token that is held is cancelled only by who holds it or one above it.** -/
theorem held_cancelled_iff (h : e.Scoped signals) (held : e.isHeld t = true) :
    e.isCancelled t = true ↔ t.Cancelled signals := by
  rw [isCancelled, Token.isCancelled_iff]
  constructor
  · rintro ⟨a, fired, above⟩
    rcases h.fired a fired with signal | ⟨id, r, there, rfl, -⟩
    · exact ⟨a, above, signal⟩
    · have apart := (isHeld_iff.mp held).2 _ (mem_places there)
      simp [apart] at above
  · rintro ⟨a, above, signal⟩
    exact ⟨a, (h.cancelled a signal).1, above⟩

/-- **An invocation that is not over is cancelled only through its caller or by its own
deadline.** -/
theorem scope_cancelled_iff (h : e.Scoped signals) (there : e.runs[id]? = some r)
    (unfinished : r.isFinished = false) :
    e.isCancelled r.scope = true ↔ r.caller.Cancelled signals ∨ Signal.Expired signals id := by
  obtain ⟨i, scope⟩ := h.rooted.scope_eq there
  constructor
  · intro cancelled
    obtain ⟨a, fired, above⟩ := Token.isCancelled_iff.mp cancelled
    rcases h.fired a fired with signal | ⟨id', r', there', rfl, why⟩
    · -- the token of an invocation is not held, so what was fired is above it
      rw [scope] at above
      rcases Token.covers_child_iff.mp above with same | above
      · have apart := (isHeld_iff.mp (h.cancelled a signal).2).2 _ (mem_places there)
        simp [scope, same] at apart
      · exact .inl ⟨a, above, signal⟩
    · obtain rfl : id' = id := by
        by_contra other
        simp [h.rooted.scope_not_covers there' there other] at above
      obtain rfl := Option.some.inj (there'.symm.trans there)
      exact .inr (why.resolve_left (by simp [unfinished]))
  · rintro (⟨a, above, signal⟩ | ⟨now, signal⟩)
    · rw [scope]
      exact Token.isCancelled_iff.mpr ⟨a, (h.cancelled a signal).1, Token.covers_child above i⟩
    · obtain ⟨-, r', there', fired, -⟩ := h.expired id now signal
      obtain rfl := Option.some.inj (there'.symm.trans there)
      exact Token.isCancelled_of_mem fired

/-- What is cancelled above an invocation cancels it. -/
theorem scope_cancelled_of_covers (h : e.Scoped signals) (there : e.runs[id]? = some r)
    (above : t.covers r.caller = true) (cancelled : e.isCancelled t = true) :
    e.isCancelled r.scope = true := by
  obtain ⟨i, scope⟩ := h.rooted.scope_eq there
  obtain ⟨a, fired, above'⟩ := Token.isCancelled_iff.mp cancelled
  rw [scope]
  exact Token.isCancelled_iff.mpr
    ⟨a, fired, Token.covers_child (Token.covers_trans above' above) i⟩

/-- A deadline that has gone off has been reached. -/
theorem due_of_expired (h : e.Scoped signals) (there : e.runs[id]? = some r)
    (expired : Signal.Expired signals id) : isDue r.deadline e.now = true := by
  obtain ⟨now, signal⟩ := expired
  obtain ⟨le, r', there', -, -, due⟩ := h.expired id now signal
  obtain rfl := Option.some.inj (there'.symm.trans there)
  exact isDue_mono le due

end Scoped

/-- A deadline that has nothing left to fire has gone off if it is time. -/
lemma cancelled_of_due {e : Engine} {id : ℕ} {r : Run} (there : e.runs[id]? = some r)
    (holds : r.holdsSlot = true) (quiet : e.expire id = none)
    (due : isDue r.deadline e.now = true) : e.isCancelled r.scope = true := by
  by_contra uncancelled
  simp [expire, there, mustExpire, holds, due, uncancelled] at quiet

end Engine

end ToolServer.Execution
