/-
Requests that things are invoked for, each below a token of its own:

* `Exchange`, `Exchanges`: a token that is fired in the end, and an executor with all
  such tokens and what else has been fired;
* `Exchanges.act`, `Exchanges.run`: requests that come and end, what is invoked for them,
  and whatever else happens in the executor;
* `Exchanges.isFree`: the tokens that are held by somebody else, such as the one that
  stops the service;
* `Exchanges.Step`, `Sound`, `Sound.step`: what one action does, and the invariant. No
  request has its token below that of another one;
* `Exchanges.Lawful`, `Exchanges.Confined`: what cancels a context, and what it does not
  cancel.

Requests and invocations may share the tokens above them in any way. A request may end
at any time, whether it has been answered or given up.
-/
import ToolServer.Proofs.Execution.Cancellation

namespace ToolServer.Execution

/-! ### Requests and their tokens -/

/-- What is done for a request, below a token of its own. -/
structure Exchange where
  scope : Token
  /-- Whether it has ended. -/
  isOver : Bool := false

/-- An executor, the requests that have come to it, and what has fired tokens. -/
structure Exchanges where
  engine : Engine
  list : List Exchange := []
  /-- The tokens that have been fired by somebody else. -/
  outside : List Token := []
  /-- Everything that has fired a token before its invocation was over. -/
  signals : List Signal := []

/-- Something that happens to an executor and to requests. -/
inductive Exchanges.Action
  /-- A request comes, and its token is made below another. -/
  | begin (under : Token)
  /-- Something is invoked for a request. -/
  | invoke (i : ℕ) (tool requestId : String) (args : Json) (handler : Handler)
  /-- A request is over, or is given up: its token is fired. -/
  | close (i : ℕ)
  /-- Something happens in the executor. -/
  | execute (a : Execution.Action)

/-- The token that an action fires from outside. -/
def Action.fired? : Action → Option Token
  | .cancel t => some t
  | .branch _ | .submit .. | .advance _ | .expire _ | .take _ | .drop _ | .emit .. | .wait _
  | .meddle _ => none

namespace Exchanges

/-- Whether a token is held by somebody else: it is neither that of a request or an
invocation nor below one. -/
def isFree (x : Exchanges) (t : Token) : Bool :=
  x.engine.isHeld t && x.list.all fun q => !q.scope.covers t

/-- What comes of an action, if it can happen. Who fires a token or submits an invocation
below one holds it. -/
def act (x : Exchanges) : Action → Option Exchanges
  | .begin under =>
    if x.isFree under then
      let (scope, engine) := x.engine.childOf under
      some { x with engine, list := x.list ++ [{ scope }] }
    else none
  | .invoke i tool requestId args handler =>
    x.list[i]?.map fun q =>
      let (caller, engine) := x.engine.childOf q.scope
      { x with engine := (engine.submit tool requestId args caller handler).2 }
  | .close i =>
    x.list[i]?.map fun q =>
      { x with
        engine := x.engine.fire q.scope
        list := x.list.set i { q with isOver := true }
        signals := x.signals ++ [.cancelled q.scope] }
  | .execute a =>
    if a.token?.all x.isFree then
      (x.engine.act a).map fun engine =>
        { x with
          engine
          outside := x.outside ++ a.fired?.toList
          signals := x.signals ++ (x.engine.signal? a).toList }
    else none

/-- What comes of an action; one that cannot happen changes nothing. -/
def next (x : Exchanges) (a : Action) : Exchanges :=
  (x.act a).getD x

/-- What comes of a list of actions. -/
def run (x : Exchanges) (acts : List Action) : Exchanges :=
  acts.foldl next x

/-- An executor that nothing has come to yet. -/
def new (config : ExecutorConfig) : Exchanges :=
  { engine := .new config }

variable {x x' : Exchanges} {a : Action} {t : Token}

/-- What is kept by every action is kept by all. -/
lemma run_induct {P : Exchanges → Prop} (step : ∀ x a x', P x → x.act a = some x' → P x')
    (acts : List Action) (start : P x) : P (x.run acts) :=
  foldl_getD_induct step acts start

lemma run_concat (x : Exchanges) (acts : List Action) (a : Action) :
    x.run (acts ++ [a]) = (x.run acts).next a := by
  rw [run, List.foldl_append]
  rfl

/-- Everything that one action does. -/
inductive Step (x : Exchanges) : Exchanges → Prop
  | begun {under : Token} (free : x.isFree under = true) :
      Step x { x with
        engine := (x.engine.childOf under).2
        list := x.list ++ [{ scope := (x.engine.childOf under).1 }] }
  | invoked {q : Exchange} (there : q ∈ x.list) (tool requestId : String) (args : Json)
      (handler : Handler) :
      Step x { x with
        engine := ((x.engine.childOf q.scope).2.submit tool requestId args
          (x.engine.childOf q.scope).1 handler).2 }
  | closed {i : ℕ} {q : Exchange} (there : x.list[i]? = some q) :
      Step x { x with
        engine := x.engine.fire q.scope
        list := x.list.set i { q with isOver := true }
        signals := x.signals ++ [.cancelled q.scope] }
  | executed {a : Execution.Action} {engine : Engine} (admitted : a.token?.all x.isFree = true)
      (does : x.engine.act a = some engine) :
      Step x { x with
        engine
        outside := x.outside ++ a.fired?.toList
        signals := x.signals ++ (x.engine.signal? a).toList }

lemma act_step (happens : x.act a = some x') : x.Step x' := by
  cases a with
  | begin under =>
      simp only [act] at happens
      split_ifs at happens with free
      obtain rfl := Option.some.inj happens
      exact .begun free
  | invoke i tool requestId args handler =>
      obtain ⟨q, there, rfl⟩ := Option.map_eq_some_iff.mp happens
      exact .invoked (List.mem_of_getElem? there) tool requestId args handler
  | close i =>
      obtain ⟨q, there, rfl⟩ := Option.map_eq_some_iff.mp happens
      exact .closed there
  | execute a =>
      simp only [act] at happens
      split_ifs at happens with admitted
      obtain ⟨engine, does, rfl⟩ := Option.map_eq_some_iff.mp happens
      exact .executed admitted does

/-- The tokens of the requests. -/
def scopes (x : Exchanges) : List Token :=
  x.list.map Exchange.scope

lemma isFree_iff :
    x.isFree t = true ↔ x.engine.isHeld t = true ∧ ∀ s ∈ x.scopes, s.covers t = false := by
  simp [isFree, scopes]

/-! ### Tokens of requests are apart -/

/-- Requests and invocations whose tokens are fired only by their own end or deadline, or
by who holds one above. -/
structure Sound (x : Exchanges) : Prop where
  engine : x.engine.Scoped x.signals
  held : ∀ s ∈ x.scopes, x.engine.isHeld s = true
  apart : x.scopes.Pairwise fun s t => s.covers t = false ∧ t.covers s = false
  cancelled : ∀ t, .cancelled t ∈ x.signals ↔
    t ∈ x.outside ∨ ∃ q ∈ x.list, q.isOver = true ∧ t = q.scope
  free : ∀ t ∈ x.outside, x.isFree t = true

lemma sound_new (config : ExecutorConfig) : (new config).Sound where
  engine := Engine.scoped_new config
  held := nofun
  apart := .nil
  cancelled t := by simp [new]
  free := nofun

/-- A request that ends keeps its token. -/
lemma scopes_set {i : ℕ} {q : Exchange} (there : x.list[i]? = some q) :
    (x.list.set i { q with isOver := true }).map Exchange.scope = x.scopes :=
  List.map_set.trans (set_of_getElem? (by simp [there]))

/-- The tokens of the requests that have ended, after one more has. -/
lemma ended_set {i : ℕ} {q : Exchange} (there : x.list[i]? = some q) :
    (∃ p ∈ x.list.set i { q with isOver := true }, p.isOver = true ∧ t = p.scope) ↔
      (∃ p ∈ x.list, p.isOver = true ∧ t = p.scope) ∨ t = q.scope := by
  have bound := (List.getElem?_eq_some_iff.mp there).1
  constructor
  · rintro ⟨p, hp, ended, rfl⟩
    rcases List.mem_or_eq_of_mem_set hp with old | rfl
    · exact .inl ⟨p, old, ended, rfl⟩
    · exact .inr rfl
  · rintro (⟨p, hp, ended, rfl⟩ | rfl)
    · obtain ⟨j, hj⟩ := List.mem_iff_getElem?.mp hp
      by_cases here : i = j
      · subst here
        obtain rfl := Option.some.inj (hj.symm.trans there)
        exact ⟨_, List.mem_set bound _, rfl, rfl⟩
      · refine ⟨p, List.mem_of_getElem? (i := j) ?_, ended, rfl⟩
        rw [List.getElem?_set_ne here, hj]
    · exact ⟨_, List.mem_set bound _, rfl, rfl⟩

/-- What is held by somebody else stays so while no request comes. -/
lemma isFree_of_scopes (stays : ∀ t, x.engine.isHeld t = true → x'.engine.isHeld t = true)
    (scopes : x'.scopes = x.scopes) (free : x.isFree t = true) : x'.isFree t = true := by
  obtain ⟨held, above⟩ := isFree_iff.mp free
  exact isFree_iff.mpr ⟨stays t held, by rwa [scopes]⟩

/-- The token of a request that comes covers none that has been made. -/
lemma isFree_begin (under : Token) (free : x.isFree t = true) :
    isFree { x with
      engine := (x.engine.childOf under).2
      list := x.list ++ [{ scope := (x.engine.childOf under).1 }] } t = true := by
  obtain ⟨held, above⟩ := isFree_iff.mp free
  refine isFree_iff.mpr ⟨Engine.isHeld_act (a := .branch under) rfl held, ?_⟩
  rw [scopes, List.map_append]
  refine List.forall_mem_append.mpr ⟨above, List.forall_mem_singleton.mpr ?_⟩
  exact Engine.fresh_not_covers under (Engine.isHeld_iff.mp held).1

namespace Sound

/-- The invariant as long as no request comes. -/
lemma of_scopes (h : x.Sound) (engine : x'.engine.Scoped x'.signals)
    (stays : ∀ t, x.engine.isHeld t = true → x'.engine.isHeld t = true)
    (scopes : x'.scopes = x.scopes)
    (cancelled : ∀ t, .cancelled t ∈ x'.signals ↔
      t ∈ x'.outside ∨ ∃ q ∈ x'.list, q.isOver = true ∧ t = q.scope)
    (free : ∀ t ∈ x'.outside, t ∈ x.outside ∨ x.isFree t = true) : x'.Sound where
  engine := engine
  held s hs := stays s (h.held s (scopes ▸ hs))
  apart := scopes ▸ h.apart
  cancelled := cancelled
  free t ht := isFree_of_scopes stays scopes ((free t ht).elim (h.free t) id)

/-- A request that comes gets a token below one that is held by somebody else. -/
lemma begin (h : x.Sound) {under : Token} (free : x.isFree under = true) :
    Sound { x with
      engine := (x.engine.childOf under).2
      list := x.list ++ [{ scope := (x.engine.childOf under).1 }] } := by
  obtain ⟨held, above⟩ := isFree_iff.mp free
  have branched : x.engine.act (.branch under) = some (x.engine.childOf under).2 := rfl
  have stays {t : Token} : x.engine.isHeld t = true → (x.engine.childOf under).2.isHeld t = true :=
    Engine.isHeld_act branched
  have scopes : (x.list ++ [Exchange.mk (x.engine.childOf under).1 false]).map Exchange.scope
      = x.scopes ++ [(x.engine.childOf under).1] := List.map_append
  constructor
  · simpa [Engine.signal?] using h.engine.act rfl branched
  · rw [Exchanges.scopes, scopes]
    refine List.forall_mem_append.mpr ⟨fun s hs => stays (h.held s hs), ?_⟩
    simpa using h.engine.rooted.held_fresh held
  · rw [Exchanges.scopes, scopes]
    refine List.pairwise_append.mpr ⟨h.apart, List.pairwise_singleton _ _, ?_⟩
    -- the new token covers nothing that has been made, and is covered through `under` only
    intro s hs t ht
    obtain rfl := List.mem_singleton.mp ht
    have made := (Engine.isHeld_iff.mp (h.held s hs)).1
    refine ⟨Bool.eq_false_iff.mpr fun covers => ?_, Engine.fresh_not_covers under made⟩
    have covers := (Engine.covers_fresh_iff made under).mp covers
    simp [above s hs] at covers
  · intro t
    rw [h.cancelled t]
    simp
  · exact fun t ht => isFree_begin under (h.free t ht)

/-- What is invoked for a request has its token as a caller. -/
lemma invoke (h : x.Sound) {q : Exchange} (there : q ∈ x.list) (tool requestId : String)
    (args : Json) (handler : Handler) :
    Sound { x with
      engine := ((x.engine.childOf q.scope).2.submit tool requestId args
        (x.engine.childOf q.scope).1 handler).2 } := by
  have held : x.engine.isHeld q.scope = true := h.held _ (List.mem_map_of_mem there)
  have branched : x.engine.act (.branch q.scope) = some (x.engine.childOf q.scope).2 := rfl
  have submitted : (x.engine.childOf q.scope).2.act
      (.submit tool requestId args (x.engine.childOf q.scope).1 handler)
      = some ((x.engine.childOf q.scope).2.submit tool requestId args
          (x.engine.childOf q.scope).1 handler).2 := rfl
  refine h.of_scopes ?_ (fun t held => ?_) rfl h.cancelled fun t ht => .inl ht
  · have first := h.engine.act rfl branched
    have admitted := h.engine.rooted.held_fresh held
    have second := first.act (a := .submit tool requestId args _ handler) admitted submitted
    simpa [Engine.signal?] using second
  · exact Engine.isHeld_act submitted (Engine.isHeld_act branched held)

/-- A request that ends fires its token and no other. -/
lemma close (h : x.Sound) {i : ℕ} {q : Exchange} (there : x.list[i]? = some q) :
    Sound { x with
      engine := x.engine.fire q.scope
      list := x.list.set i { q with isOver := true }
      signals := x.signals ++ [.cancelled q.scope] } := by
  have fired : x.engine.act (.cancel q.scope) = some (x.engine.fire q.scope) := rfl
  have held : x.engine.isHeld q.scope = true :=
    h.held _ (List.mem_map_of_mem (List.mem_of_getElem? there))
  refine h.of_scopes (h.engine.act (a := .cancel q.scope) held fired)
    (fun t => Engine.isHeld_act fired) (scopes_set there) (fun t => ?_) fun t ht => .inl ht
  rw [ended_set there, List.mem_append, h.cancelled t, List.mem_singleton, or_assoc]
  simp

/-- Nothing else in the executor is about the tokens of requests. -/
lemma execute (h : x.Sound) {a : Execution.Action} {engine : Engine}
    (admitted : a.token?.all x.isFree = true) (happens : x.engine.act a = some engine) :
    Sound { x with
      engine
      outside := x.outside ++ a.fired?.toList
      signals := x.signals ++ (x.engine.signal? a).toList } := by
  have held : a.token?.all x.engine.isHeld = true := by
    cases token : a.token? with
    | none => rfl
    | some t => exact (isFree_iff.mp (by simpa [token] using admitted)).1
  refine h.of_scopes (h.engine.act held happens) (fun t => Engine.isHeld_act happens) rfl ?_ ?_
  · intro t
    rw [List.mem_append, List.mem_append, h.cancelled t]
    cases a <;> simp [Engine.signal?, Action.fired?, or_right_comm]
  · intro t ht
    rcases List.mem_append.mp ht with old | new
    · exact .inl old
    · cases a with
      | cancel u =>
          obtain rfl : t = u := by simpa [Action.fired?] using new
          exact .inr (by simpa [Action.token?] using admitted)
      | branch | submit | advance | expire | take | drop | emit | wait | meddle =>
          simp [Action.fired?] at new

/-- **No action breaks the invariant.** -/
theorem step (h : x.Sound) (step : x.Step x') : x'.Sound := by
  cases step with
  | begun free => exact h.begin free
  | invoked there tool requestId args handler => exact h.invoke there tool requestId args handler
  | closed there => exact h.close there
  | executed admitted does => exact h.execute admitted does

end Sound

/-- **At any time the invariant holds.** -/
theorem sound_run (config : ExecutorConfig) (acts : List Action) : ((new config).run acts).Sound :=
  run_induct (fun _ _ _ h happens => h.step (act_step happens)) acts (sound_new config)

/-- What is held by somebody else stays so. -/
lemma Step.isFree (step : x.Step x') (free : x.isFree t = true) : x'.isFree t = true := by
  cases step with
  | @begun under => exact isFree_begin under free
  | @invoked q there tool requestId args handler =>
      refine isFree_of_scopes (x := x) (fun t held => ?_) rfl free
      have branched := Engine.isHeld_act (a := .branch q.scope) rfl held
      exact Engine.isHeld_act (a := .submit tool requestId args _ handler) rfl branched
  | @closed i q there =>
      exact isFree_of_scopes (fun t => Engine.isHeld_act (a := .cancel q.scope) rfl)
        (scopes_set there) free
  | executed admitted does => exact isFree_of_scopes (fun t => Engine.isHeld_act does) rfl free

/-- A token that is not below another one, such as the one that stops the service, is never
that of a request or an invocation. -/
lemma isFree_named (config : ExecutorConfig) (acts : List Action) (name : String) :
    ((new config).run acts).isFree (.named name) = true :=
  run_induct (P := fun x => x.isFree (.named name) = true)
    (fun _ _ _ free happens => (act_step happens).isFree free) acts rfl

/-- No action changes the limits. -/
lemma config_run (config : ExecutorConfig) (acts : List Action) :
    ((new config).run acts).engine.config = config := by
  refine run_induct (P := fun x => x.engine.config = config) ?_ acts rfl
  intro x a x' same happens
  cases act_step happens with
  | executed admitted does => exact (Engine.act_config does).trans same
  | begun | invoked | closed => exact same

/-! ### What cancels what -/

/-- Whether a token has been fired, or one above it, by somebody else or at the end of a
request. -/
def Cancelled (x : Exchanges) (t : Token) : Prop :=
  (∃ a ∈ x.outside, a.covers t = true) ∨
    ∃ q ∈ x.list, q.isOver = true ∧ q.scope.covers t = true

/-- What cancels the tokens of invocations, of their callers and of requests. -/
structure Lawful (x : Exchanges) : Prop where
  /-- As long as an invocation is not over, in particular while its handler runs, its
  context is cancelled exactly if its caller is, or its own deadline has gone off. -/
  context : ∀ (id : ℕ) (r : Run), x.engine.runs[id]? = some r → r.isFinished = false →
    ((x.engine.view r).cancelled = true ↔
      x.engine.isCancelled r.caller = true ∨ Signal.Expired x.signals id)
  /-- So there is a reason that the handler can see. -/
  reason : ∀ (id : ℕ) (r : Run), x.engine.runs[id]? = some r → r.isFinished = false →
    (x.engine.view r).cancelled = true →
      x.engine.isCancelled r.caller = true ∨ (x.engine.view r).deadlineExceeded = true
  /-- The deadline is where the limits say, and does not go off before the first tick from
  there on. -/
  deadline : ∀ (id : ℕ) (r : Run), x.engine.runs[id]? = some r → r.holdsSlot = true →
    r.deadline = r.started + min x.engine.config.timeout Duration.farFuture ∧
      (Signal.Expired x.signals id → isDue r.deadline x.engine.now = true)
  /-- It has gone off at that tick as soon as it has nothing left to do. -/
  punctual : ∀ (id : ℕ) (r : Run), x.engine.runs[id]? = some r → r.holdsSlot = true →
    x.engine.expire id = none → ((x.engine.view r).cancelled = true ↔
      x.engine.isCancelled r.caller = true ∨ isDue r.deadline x.engine.now = true)
  /-- Once an invocation is over, its context is cancelled. -/
  ended : ∀ (id : ℕ) (r : Run), x.engine.runs[id]? = some r → r.isFinished = true →
    (x.engine.view r).cancelled = true
  /-- What is cancelled above an invocation cancels its context. -/
  below : ∀ (id : ℕ) (r : Run) (t : Token), x.engine.runs[id]? = some r →
    t.covers r.caller = true → x.engine.isCancelled t = true →
      (x.engine.view r).cancelled = true
  /-- The token of a caller is cancelled only through who holds it, or at the end of the
  request that it was made for. -/
  caller : ∀ (id : ℕ) (r : Run), x.engine.runs[id]? = some r →
    (x.engine.isCancelled r.caller = true ↔ x.Cancelled r.caller)
  /-- A token that somebody else holds is cancelled only from outside. -/
  free : ∀ t, x.isFree t = true →
    (x.engine.isCancelled t = true ↔ ∃ a ∈ x.outside, a.covers t = true)
  /-- The token of a request is cancelled only at its own end or from outside. -/
  request : ∀ q ∈ x.list, x.engine.isCancelled q.scope = true ↔
    q.isOver = true ∨ ∃ a ∈ x.outside, a.covers q.scope = true

/-- The token that an action may fire. -/
def firing? (x : Exchanges) : Action → Option Token
  | .begin _ | .invoke .. => none
  | .close i => x.list[i]?.map Exchange.scope
  | .execute a => x.engine.firing? a

/-- Nothing that happens to an invocation or a request cancels anything above it or beside
it. -/
structure Confined (x : Exchanges) : Prop where
  /-- An action cancels nothing but what is below the token that it is about. -/
  action : ∀ (a : Action) (t : Token), (∀ u ∈ x.firing? a, u.covers t = false) →
    (x.next a).engine.isCancelled t = x.engine.isCancelled t
  /-- Below the token of an invocation there is no caller, no request, nothing that somebody
  else holds and no other invocation. -/
  invocation : ∀ (id : ℕ) (r : Run), x.engine.runs[id]? = some r →
    (∀ (id' : ℕ) (r' : Run), x.engine.runs[id']? = some r' → r.scope.covers r'.caller = false ∧
      (id ≠ id' → r.scope.covers r'.scope = false)) ∧
    (∀ q ∈ x.list, r.scope.covers q.scope = false) ∧
    ∀ t, x.isFree t = true → r.scope.covers t = false
  /-- Below the token of a request there is nothing that somebody else holds. -/
  free : ∀ q ∈ x.list, ∀ t, x.isFree t = true → q.scope.covers t = false
  /-- Nothing is below the tokens of two requests. -/
  apart : ∀ (i j : ℕ) (p q : Exchange) (t : Token), x.list[i]? = some p → x.list[j]? = some q →
    p.scope.covers t = true → q.scope.covers t = true → i = j

/-- An action cancels nothing but what is below the token that it is about. -/
lemma isCancelled_act (happens : x.act a = some x')
    (apart : ∀ u ∈ x.firing? a, u.covers t = false) :
    x'.engine.isCancelled t = x.engine.isCancelled t := by
  cases a with
  | begin under =>
      simp only [act] at happens
      split_ifs at happens
      obtain rfl := Option.some.inj happens
      rfl
  | invoke i tool requestId args handler =>
      obtain ⟨q, there, rfl⟩ := Option.map_eq_some_iff.mp happens
      rfl
  | close i =>
      obtain ⟨q, there, rfl⟩ := Option.map_eq_some_iff.mp happens
      exact Engine.isCancelled_cons (apart q.scope (by simp [firing?, there]))
  | execute a =>
      simp only [act] at happens
      split_ifs at happens
      obtain ⟨engine, does, rfl⟩ := Option.map_eq_some_iff.mp happens
      exact Engine.isCancelled_act does apart

namespace Sound

lemma cancelled_iff (h : x.Sound) : t.Cancelled x.signals ↔ x.Cancelled t := by
  constructor
  · rintro ⟨a, above, signal⟩
    rcases (h.cancelled a).mp signal with outside | ⟨q, hq, ended, rfl⟩
    · exact .inl ⟨a, outside, above⟩
    · exact .inr ⟨q, hq, ended, above⟩
  · rintro (⟨a, outside, above⟩ | ⟨q, hq, ended, above⟩)
    · exact ⟨a, above, (h.cancelled a).mpr (.inl outside)⟩
    · exact ⟨q.scope, above, (h.cancelled q.scope).mpr (.inr ⟨q, hq, ended, rfl⟩)⟩

/-- Two requests have nothing below the tokens of both. -/
lemma apart_of_covers (h : x.Sound) {i j : ℕ} {p q : Exchange} (hp : x.list[i]? = some p)
    (hq : x.list[j]? = some q) (below : p.scope.covers t = true)
    (below' : q.scope.covers t = true) : i = j := by
  have apart : ∀ {i j : ℕ} {p q : Exchange}, x.list[i]? = some p → x.list[j]? = some q → i < j →
      p.scope.covers q.scope = false ∧ q.scope.covers p.scope = false := by
    intro i j p q hp hq less
    have there : x.scopes[i]? = some p.scope := by simp [scopes, hp]
    have there' : x.scopes[j]? = some q.scope := by simp [scopes, hq]
    obtain ⟨hi, there⟩ := List.getElem?_eq_some_iff.mp there
    obtain ⟨hj, there'⟩ := List.getElem?_eq_some_iff.mp there'
    have pair := List.pairwise_iff_getElem.mp h.apart i j hi hj less
    rwa [there, there'] at pair
  rcases lt_trichotomy i j with less | same | less
  · have pair := apart hp hq less
    rcases Token.covers_total below below' with covers | covers <;> simp [pair] at covers
  · exact same
  · have pair := apart hq hp less
    rcases Token.covers_total below below' with covers | covers <;> simp [pair] at covers

/-- **The invariant says what cancels what.** -/
theorem lawful (h : x.Sound) : x.Lawful where
  context id r there unfinished := by
    rw [h.engine.held_cancelled_iff (h.engine.rooted.caller_held there)]
    exact h.engine.scope_cancelled_iff there unfinished
  reason id r there unfinished cancelled := by
    rw [h.engine.held_cancelled_iff (h.engine.rooted.caller_held there)]
    have why := (h.engine.scope_cancelled_iff there unfinished).mp cancelled
    exact why.imp_right fun expired =>
      decide_eq_true (le_of_isDue (h.engine.due_of_expired there expired))
  deadline id r there holds := ⟨h.engine.timed id r there holds, h.engine.due_of_expired there⟩
  punctual id r there holds quiet := by
    have unfinished : r.isFinished = false := by
      cases stage : r.stage <;> simp_all [Run.holdsSlot, Run.isFinished]
    constructor
    · rw [h.engine.held_cancelled_iff (h.engine.rooted.caller_held there)]
      intro cancelled
      have why := (h.engine.scope_cancelled_iff there unfinished).mp cancelled
      exact why.imp_right (h.engine.due_of_expired there)
    · rintro (above | due)
      · exact h.engine.scope_cancelled_of_covers there (Token.covers_self _) above
      · exact Engine.cancelled_of_due there holds quiet due
  ended := h.engine.finished
  below _ _ _ := h.engine.scope_cancelled_of_covers
  caller id r there := by
    rw [← h.cancelled_iff]
    exact h.engine.held_cancelled_iff (h.engine.rooted.caller_held there)
  free t free := by
    obtain ⟨held, above⟩ := isFree_iff.mp free
    rw [h.engine.held_cancelled_iff held, h.cancelled_iff]
    refine or_iff_left ?_
    rintro ⟨q, hq, -, covers⟩
    simp [above _ (List.mem_map_of_mem hq)] at covers
  request q hq := by
    rw [h.engine.held_cancelled_iff (h.held _ (List.mem_map_of_mem hq)), h.cancelled_iff]
    constructor
    · rintro (outside | ⟨p, hp, ended, covers⟩)
      · exact .inr outside
      · obtain ⟨i, hi⟩ := List.mem_iff_getElem?.mp hp
        obtain ⟨j, hj⟩ := List.mem_iff_getElem?.mp hq
        obtain rfl := h.apart_of_covers hi hj covers (Token.covers_self _)
        obtain rfl := Option.some.inj (hi.symm.trans hj)
        exact .inl ended
    · rintro (ended | outside)
      · exact .inr ⟨q, hq, ended, Token.covers_self _⟩
      · exact .inl outside

/-- **And it says what is out of reach.** -/
theorem confined (h : x.Sound) : x.Confined where
  action a t apart := by
    rw [next]
    cases happens : x.act a with
    | none => rfl
    | some x' => exact isCancelled_act happens apart
  invocation id r there := by
    have above {t : Token} (held : x.engine.isHeld t = true) : r.scope.covers t = false :=
      (Engine.isHeld_iff.mp held).2 _ (Engine.mem_places there)
    exact ⟨fun id' r' there' => ⟨above (h.engine.rooted.caller_held there'),
      h.engine.rooted.scope_not_covers there there'⟩,
      fun q hq => above (h.held _ (List.mem_map_of_mem hq)),
      fun t free => above (isFree_iff.mp free).1⟩
  free q hq t free := (isFree_iff.mp free).2 _ (List.mem_map_of_mem hq)
  apart _ _ _ _ _ := h.apart_of_covers

end Sound

/-- Of two requests that share a token above them, one ends; the other one goes on. -/
example : (fun x : Exchanges => x.engine.runs.map fun r => (x.engine.view r).cancelled)
    ((new {}).run [.begin (.named "stop"), .begin (.named "stop"),
      .invoke 0 "t" "1" .null fun _ => .done (.ok .null),
      .invoke 1 "t" "2" .null fun _ => .done (.ok .null),
      .execute (.advance 0), .execute (.advance 1), .close 0]) = [true, false] := by
  decide

end Exchanges

end ToolServer.Execution
