/-
Emissions of several tasks at once:

* `Flight`: an emission under way, as far as it has come;
* `Parallel`, `Parallel.run`: an executor with the emissions under way in it, after
  any list of moves. One move is an action of the executor, a call of an emitter or
  one step of an emission;
* `Run.Passes`, `Parallel.Step`: everything that one move does;
* `timeline_reaches`: executors in which every emission is made at once are among
  these.

The emissions through one emitter share a lock that its closing takes alone: from
the check that it is open to its answer an emission keeps the emitter open, and
the handler does not return. Nothing else keeps the steps of two emissions apart.
-/
import ToolServer.Proofs.Execution.History

namespace ToolServer.Execution

/-! ### Emissions under way -/

/-- The number of an emission that has one and is not yet queued. -/
def Emission.Phase.number? : Emission.Phase → Option ℕ
  | .numbered n => some n
  | .called | .admitted | .wanted | .allowed | .queued | .answered _ => none

/-- Whether an emission keeps its emitter open. -/
def Emission.Phase.holds : Emission.Phase → Bool
  | .admitted | .wanted | .allowed | .numbered _ | .queued => true
  | .called | .answered _ => false

lemma Emission.Phase.eq_of_answer? {p : Emission.Phase} {failure : Option EmitError}
    (h : p.answer? = some failure) : p = .answered failure := by
  cases p <;> simp_all [answer?]

/-- An emission under way. -/
structure Flight where
  /-- The invocation that the emitter belongs to. -/
  id : ℕ
  /-- Whether the handler of the invocation waits for the answer. -/
  own : Bool
  emission : Emission
  phase : Emission.Phase := .called

namespace Flight

/-- An invocation after an emission through its emitter has got an answer: a handler
that has waited for it goes on. -/
def resume (f : Flight) (r : Run) (failure : Option EmitError) : Run :=
  match f.own, r.stage with
  | true, .active (.emit _ next) => { r with stage := .active (next failure) }
  | _, _ => r

/-- The executor after an emission has got its answer: one that has found no room
counts. -/
def land (f : Flight) (e : Engine) (r : Run) (failure : Option EmitError) : Engine :=
  (if failure = some .channelFull then
      e.countUp fun c => { c with dropped := c.dropped + 1 }
    else e).setRun f.id (f.resume r failure)

lemma land_runs (f : Flight) (e : Engine) (r : Run) (failure : Option EmitError) :
    (f.land e r failure).runs = e.runs.set f.id (f.resume r failure) := by
  rw [land]
  split <;> rfl

end Flight

/-- The numbers that emissions under way have and have not yet brought to the queue. -/
def awaiting (fs : List Flight) : List ℕ :=
  fs.filterMap (·.phase.number?)

/-- An executor with the emissions under way in it and the actions of the past. -/
structure Parallel where
  now : Engine
  flights : List Flight := []
  past : List (Engine × Action) := []

namespace Parallel

/-- Something that happens in an executor in which emissions are under way. -/
inductive Move
  /-- An action of the executor that emits nothing. -/
  | act (a : Action)
  /-- The handler of an invocation calls its emitter. -/
  | emit (id : ℕ)
  /-- Another task calls the emitter of an invocation. -/
  | call (id : ℕ) (x : Emission)
  /-- An emission under way takes its next step. -/
  | step (i : ℕ)

/-- The emissions under way through the emitter of an invocation. -/
def through (t : Parallel) (id : ℕ) : List Flight :=
  t.flights.filter (·.id = id)

/-- Whether an action has to wait for emissions under way: the handler of an invocation
returns only when nobody keeps its emitter open. -/
def holdsUp (t : Parallel) : Action → Bool
  | .advance id =>
    match (t.now.runs[id]?).map Run.stage with
    | some (.active (.done _)) => (t.through id).any (·.phase.holds)
    | _ => false
  | _ => false

/-- An emission under way takes its next step. -/
def advance (t : Parallel) (i : ℕ) (f : Flight) (r : Run) : Parallel :=
  let (r, phase) := r.emitStep t.now.config.maxEvents t.now.config.capacity
    (t.now.isCancelled r.scope) f.emission f.phase
  match phase.answer? with
  | some failure => { t with now := f.land t.now r failure, flights := t.flights.eraseIdx i }
  | none => { t with now := t.now.setRun f.id r, flights := t.flights.set i { f with phase } }

/-- What comes of a move; one that cannot be made changes nothing. -/
def next (t : Parallel) : Move → Parallel
  | .act a =>
    match t.now.act a with
    | some e =>
      if (t.now.call? a).isNone && !t.holdsUp a then ⟨e, t.flights, t.past ++ [(t.now, a)]⟩ else t
    | none => t
  | .emit id =>
    match (t.now.runs[id]?).map Run.stage with
    | some (.active (.emit x _)) =>
      if (t.through id).any Flight.own then t
      else { t with flights := t.flights ++ [⟨id, true, x, .called⟩] }
    | _ => t
  | .call id x => { t with flights := t.flights ++ [⟨id, false, x, .called⟩] }
  | .step i =>
    match t.flights[i]? with
    | some f =>
      match t.now.runs[f.id]? with
      | some r => t.advance i f r
      | none => t
    | none => t

/-- What comes of a list of moves in a new executor. -/
def run (config : ExecutorConfig) (moves : List Move) : Parallel :=
  moves.foldl next { now := .new config }

/-- Whether the emissions through an emitter are made one at a time. -/
def OneAtATime (config : ExecutorConfig) (moves : List Move) (id : ℕ) : Prop :=
  ∀ earlier, earlier <+: moves → ((run config earlier).through id).length ≤ 1

lemma run_concat (config : ExecutorConfig) (moves : List Move) (m : Move) :
    run config (moves ++ [m]) = (run config moves).next m := by
  rw [run, List.foldl_append]
  rfl

end Parallel

/-! ### What a move does -/

/-- What one step of an emission makes of the invocation and of itself. -/
inductive Run.Passes (r : Run) (x : Emission) : Emission.Phase → Run → Emission.Phase → Prop
  /-- It goes through a check or is refused. -/
  | checked {p q : Emission.Phase} (unnumbered : q.number? = none)
      (gate : q.holds = true → p.holds = true ∨ r.emitting = true) : Passes r x p r q
  /-- It gets the next number. -/
  | numbered :
      Passes r x .allowed { r with sequence := r.sequence + 1 } (.numbered (r.sequence + 1))
  /-- It is queued. -/
  | queued {n : ℕ} (reading : r.reading = true) :
      Passes r x (.numbered n) { r with queue := r.queue ++ [x.event n] } .queued
  /-- It is counted. -/
  | counted : Passes r x .queued { r with delivered := r.delivered + 1 } (.answered none)

lemma Run.emitStep_passes (maxEvents capacity : ℕ) (cancelled : Bool) (x : Emission) (r : Run)
    (p : Emission.Phase) :
    r.Passes x p (r.emitStep maxEvents capacity cancelled x p).1
      (r.emitStep maxEvents capacity cancelled x p).2 := by
  cases p with
  | called =>
      cases emitting : r.emitting <;> simp only [emitStep, emitting]
      · exact .checked rfl (by simp [Emission.Phase.holds])
      · exact .checked rfl fun _ => .inr emitting
  | admitted => cases cancelled <;> exact .checked rfl fun _ => .inl rfl
  | wanted =>
      simp only [emitStep]
      split_ifs <;> exact .checked rfl fun _ => .inl rfl
  | allowed => exact .numbered
  | numbered n =>
      simp only [emitStep]
      split_ifs with gone
      · exact .checked rfl fun _ => .inl rfl
      · exact .checked rfl fun _ => .inl rfl
      · exact .queued (by simpa using gone)
  | queued => exact .counted
  | answered failure => exact .checked rfl .inl

namespace Parallel

/-- Everything that one move does. -/
inductive Step (t : Parallel) : Parallel → Prop
  /-- Nothing. -/
  | idle : Step t t
  /-- The executor takes an action that emits nothing. -/
  | acted {a : Action} {e : Engine} (happens : t.now.act a = some e)
      (silent : t.now.call? a = none) (free : t.holdsUp a = false) :
      Step t ⟨e, t.flights, t.past ++ [(t.now, a)]⟩
  /-- An emission sets out. -/
  | called {f : Flight} (new : f.phase = .called) : Step t { t with flights := t.flights ++ [f] }
  /-- An emission goes on. -/
  | passed {i : ℕ} {f : Flight} {r r' : Run} {p : Emission.Phase} (under : t.flights[i]? = some f)
      (there : t.now.runs[f.id]? = some r) (passes : r.Passes f.emission f.phase r' p)
      (going : p.answer? = none) :
      Step t
        { t with now := t.now.setRun f.id r', flights := t.flights.set i { f with phase := p } }
  /-- An emission gets its answer. -/
  | answered {i : ℕ} {f : Flight} {r r' : Run} {failure : Option EmitError}
      (under : t.flights[i]? = some f) (there : t.now.runs[f.id]? = some r)
      (passes : r.Passes f.emission f.phase r' (.answered failure)) :
      Step t { t with now := f.land t.now r' failure, flights := t.flights.eraseIdx i }

lemma next_step (t : Parallel) (m : Move) : t.Step (t.next m) := by
  cases m with
  | act a =>
      simp only [next]
      split
      · next e happens =>
          split_ifs with free
          · simp only [Bool.and_eq_true, Option.isNone_iff_eq_none, Bool.not_eq_true'] at free
            exact .acted happens free.1 free.2
          · exact .idle
      · exact .idle
  | emit id =>
      simp only [next]
      split
      · split_ifs
        · exact .idle
        · exact .called rfl
      · exact .idle
  | call id x => exact .called rfl
  | step i =>
      simp only [next]
      split
      · next f under =>
          split
          · next r there =>
              have passes := r.emitStep_passes t.now.config.maxEvents t.now.config.capacity
                (t.now.isCancelled r.scope) f.emission f.phase
              simp only [advance]
              split
              · next failure answer =>
                  rw [Emission.Phase.eq_of_answer? answer] at passes
                  exact .answered under there passes
              · next going => exact .passed under there passes going
          · exact .idle
      · exact .idle

end Parallel

/-! ### Emissions at once -/

namespace Emission.Phase

/-- The number of steps that an emission has before it, at most. -/
def left : Emission.Phase → ℕ
  | .called => 6
  | .admitted => 5
  | .wanted => 4
  | .allowed => 3
  | .numbered _ => 2
  | .queued => 1
  | .answered _ => 0

end Emission.Phase

namespace Run

variable (maxEvents capacity : ℕ) (cancelled : Bool) (x : Emission)

lemma left_emitStep (r : Run) (p : Emission.Phase) :
    (r.emitStep maxEvents capacity cancelled x p).2.left ≤ p.left - 1 := by
  cases p with
  | called | admitted | wanted | numbered =>
      simp only [emitStep]
      split_ifs <;> simp [Emission.Phase.left]
  | allowed | queued | answered => simp [emitStep, Emission.Phase.left]

lemma emitStep_scope (r : Run) (p : Emission.Phase) :
    (r.emitStep maxEvents capacity cancelled x p).1.scope = r.scope := by
  cases p <;> simp only [emitStep]
  split_ifs <;> rfl

/-- An emission that has its answer stays as it is. -/
lemma emitSteps_of_answered (n : ℕ) (r : Run) (failure : Option EmitError) :
    emitSteps maxEvents capacity cancelled x n r (.answered failure) = (r, .answered failure) := by
  induction n with
  | zero => rfl
  | succ n ih => exact ih

/-- An emission has its answer after as many steps as it has before it. -/
lemma exists_answer (n : ℕ) (r : Run) (p : Emission.Phase) (enough : p.left ≤ n) :
    ∃ failure, (emitSteps maxEvents capacity cancelled x n r p).2 = .answered failure := by
  induction n generalizing r p with
  | zero => cases p <;> simp_all [Emission.Phase.left, emitSteps]
  | succ n ih =>
      refine ih _ _ ((left_emitStep maxEvents capacity cancelled x r p).trans ?_)
      omega

end Run

namespace Engine

@[simp] lemma setRun_setRun (e : Engine) (id : ℕ) (r r' : Run) :
    (e.setRun id r).setRun id r' = e.setRun id r' := by
  simp [setRun, List.set_set]

@[simp] lemma setRun_isCancelled (e : Engine) (id : ℕ) (r : Run) (t : Token) :
    (e.setRun id r).isCancelled t = e.isCancelled t := rfl

lemma setRun_countUp (e : Engine) (id : ℕ) (r : Run) (f : Counters → Counters) :
    (e.setRun id r).countUp f = (e.countUp f).setRun id r := rfl

end Engine

namespace Parallel

/-- An emission with an answer leaves nothing of its own steps but the invocation. -/
lemma land_setRun (f : Flight) (e : Engine) (r r' : Run) (failure : Option EmitError) :
    f.land (e.setRun f.id r) r' failure = f.land e r' failure := by
  simp only [Flight.land]
  split_ifs <;> simp [Engine.setRun_countUp]

variable {e : Engine} {past : List (Engine × Action)} {f : Flight} {r r' : Run}

lemma foldl_idle (n : ℕ) :
    (List.replicate n (Move.step 0)).foldl next ⟨e, [], past⟩ = ⟨e, [], past⟩ := by
  induction n with
  | zero => rfl
  | succ n ih => exact ih

/-- The steps of an emission, if it is the only one under way and nothing comes between. -/
lemma foldl_steps {failure : Option EmitError} (n : ℕ) (bound : f.id < e.runs.length)
    (waits : f.phase.answer? = none)
    (answered : Run.emitSteps e.config.maxEvents e.config.capacity (e.isCancelled r.scope)
      f.emission n r f.phase = (r', .answered failure)) :
    (List.replicate n (Move.step 0)).foldl next ⟨e.setRun f.id r, [f], past⟩
      = ⟨f.land e r' failure, [], past⟩ := by
  induction n generalizing r f with
  | zero =>
      rw [Run.emitSteps] at answered
      rw [(Prod.mk.inj answered).2] at waits
      cases waits
  | succ n ih =>
      obtain ⟨r₁, p, step⟩ : ∃ r₁ p, r.emitStep e.config.maxEvents e.config.capacity
        (e.isCancelled r.scope) f.emission f.phase = (r₁, p) := ⟨_, _, rfl⟩
      have scope : r₁.scope = r.scope := by
        rw [← Run.emitStep_scope e.config.maxEvents e.config.capacity (e.isCancelled r.scope)
          f.emission r f.phase, step]
      simp only [Run.emitSteps, step] at answered
      have under : next ⟨e.setRun f.id r, [f], past⟩ (.step 0)
          = advance ⟨e.setRun f.id r, [f], past⟩ 0 f r := by simp [next, bound]
      rw [List.replicate_succ, List.foldl_cons, under]
      cases answer : p.answer? with
      | some early =>
          obtain rfl := Emission.Phase.eq_of_answer? answer
          rw [Run.emitSteps_of_answered] at answered
          obtain ⟨rfl, same⟩ := Prod.mk.inj answered
          obtain rfl := Emission.Phase.answered.inj same
          have once : advance ⟨e.setRun f.id r, [f], past⟩ 0 f r
              = ⟨f.land e r₁ early, [], past⟩ := by
            simp [advance, step, answer, land_setRun]
          rw [once]
          exact foldl_idle n
      | none =>
          have once : advance ⟨e.setRun f.id r, [f], past⟩ 0 f r
              = ⟨e.setRun f.id r₁, [{ f with phase := p }], past⟩ := by
            simp [advance, step, answer]
          rw [once]
          exact ih (f := { f with phase := p }) bound answer (by rw [scope]; exact answered)

/-- An emission that nothing comes between is one at once. -/
lemma foldl_atOnce (past : List (Engine × Action)) (there : e.runs[f.id]? = some r) (new : f.phase = .called) :
    (List.replicate 6 (Move.step 0)).foldl next ⟨e, [f], past⟩
      = ⟨f.land e (e.publish f.id r f.emission).2.1 (e.publish f.id r f.emission).2.2,
        [], past⟩ := by
  have bound := (List.getElem?_eq_some_iff.mp there).1
  have same : e.setRun f.id r = e := by rw [Engine.setRun, set_of_getElem? there]
  obtain ⟨failure, answer⟩ := r.exists_answer e.config.maxEvents e.config.capacity
    (e.isCancelled r.scope) f.emission 6 f.phase (by rw [new]; exact le_rfl)
  obtain ⟨r', steps⟩ : ∃ r', Run.emitSteps e.config.maxEvents e.config.capacity
      (e.isCancelled r.scope) f.emission 6 r f.phase = (r', .answered failure) :=
    ⟨_, Prod.ext rfl answer⟩
  rw [← same, foldl_steps 6 bound (by rw [new]; rfl) steps, same, Engine.publish_snd, Run.publish,
    ← new, steps]
  rfl

/-- An emission from outside that is over. -/
lemma land_of_other (e : Engine) (id : ℕ) (r : Run) (x : Emission) :
    Flight.land ⟨id, false, x, .called⟩ e (e.publish id r x).2.1 (e.publish id r x).2.2
      = (e.publish id r x).1 := by
  rw [Engine.publish_snd, Engine.publish]
  rfl

/-- An emission of the handler itself that is over. -/
lemma land_of_own {id : ℕ} {x : Emission} {proceed : Option EmitError → Behaviour}
    (active : r.stage = .active (.emit x proceed)) :
    Flight.land ⟨id, true, x, .called⟩ e (e.publish id r x).2.1 (e.publish id r x).2.2
      = e.perform id r (.emit x proceed) := by
  obtain ⟨r', failure, answer⟩ : ∃ r' failure, r.publish e.config.maxEvents e.config.capacity
    (e.isCancelled r.scope) x = (r', failure) := ⟨_, _, rfl⟩
  have still : r'.stage = .active (.emit x proceed) := by
    rw [← active, ← Run.publish_stage e.config.maxEvents e.config.capacity (e.isCancelled r.scope)
      x r, answer]
  simp [Engine.perform, Engine.publish, answer, Flight.land, Flight.resume, still]

/-- Whether there is at most one emission under way from some state on. -/
def Lonely (t : Parallel) : List Move → Prop
  | [] => t.flights.length ≤ 1
  | m :: moves => t.flights.length ≤ 1 ∧ Lonely (t.next m) moves

section Lonely

variable {t : Parallel} {moves more : List Move}

lemma Lonely.append (h : t.Lonely moves) (h' : (moves.foldl next t).Lonely more) :
    t.Lonely (moves ++ more) := by
  induction moves generalizing t with
  | nil => exact h'
  | cons m moves ih => exact ⟨h.1, ih h.2 h'⟩

lemma Lonely.of_isPrefix {earlier : List Move} (h : t.Lonely moves) (le : earlier <+: moves) :
    (earlier.foldl next t).flights.length ≤ 1 := by
  induction earlier generalizing t moves with
  | nil => cases moves <;> simp_all [Lonely]
  | cons m earlier ih =>
      obtain ⟨rest, rfl⟩ := le
      exact ih h.2 (List.prefix_append _ _)

/-- A step of an emission sets no other off. -/
lemma length_step (t : Parallel) (i : ℕ) :
    (t.next (.step i)).flights.length ≤ t.flights.length := by
  simp only [next]
  split
  · split
    · simp only [advance]
      split
      · exact (List.eraseIdx_sublist ..).length_le
      · exact (List.length_set ..).le
    · exact le_rfl
  · exact le_rfl

lemma lonely_steps (n : ℕ) (few : t.flights.length ≤ 1) :
    t.Lonely (List.replicate n (.step 0)) := by
  induction n generalizing t with
  | zero => exact few
  | succ n ih => exact ⟨few, ih ((length_step t 0).trans few)⟩

end Lonely

/-- Nothing has to wait where nothing is under way. -/
lemma holdsUp_of_idle {t : Parallel} (idle : t.flights = []) (a : Action) :
    t.holdsUp a = false := by
  cases a <;> simp only [holdsUp]
  split <;> simp [through, idle]

/-- An emission where nothing else is under way: the moves that it takes. -/
lemma exists_steps {now : Engine} {m : Move} {id : ℕ} {own : Bool} {x : Emission}
    (there : now.runs[id]? = some r)
    (called : next ⟨now, [], past⟩ m = ⟨now, [⟨id, own, x, .called⟩], past⟩)
    (lands : Flight.land ⟨id, own, x, .called⟩ now (now.publish id r x).2.1
      (now.publish id r x).2.2 = e) :
    ∃ moves : List Move, moves.foldl next ⟨now, [], past⟩ = ⟨e, [], past⟩
      ∧ Lonely ⟨now, [], past⟩ moves := by
  have steps := foldl_atOnce (f := ⟨id, own, x, .called⟩) past there rfl
  dsimp only at steps
  refine ⟨m :: List.replicate 6 (.step 0), ?_, Nat.zero_le 1, lonely_steps 6 ?_⟩
  · rw [List.foldl_cons, called, steps, lands]
  · rw [called]
    exact le_rfl

/-- An action where nothing is under way: the moves that it takes, and what they let
readers see. -/
lemma exists_moves {now : Engine} {a : Action} (past : List (Engine × Action)) (happens : now.act a = some e) :
    ∃ (moves : List Move) (past' : List (Engine × Action)),
      moves.foldl next ⟨now, [], past⟩ = ⟨e, [], past'⟩ ∧ Lonely ⟨now, [], past⟩ moves
      ∧ ∀ id, readings id past' = readings id past ++ (now.reading? a id).toList := by
  cases call : now.call? a with
  | none =>
      have moved : next ⟨now, [], past⟩ (.act a) = ⟨e, [], past ++ [(now, a)]⟩ := by
        simp [next, happens, call, holdsUp_of_idle]
      exact ⟨[.act a], _, moved, ⟨Nat.zero_le 1, by rw [moved]; exact Nat.zero_le 1⟩,
        fun id => readings_concat id past now a⟩
  | some c =>
      cases a with
      | advance id =>
          simp only [Engine.call?] at call
          split at call
          · next r there =>
              split at call
              · next x proceed active =>
                  have called : next ⟨now, [], past⟩ (.emit id)
                      = ⟨now, [⟨id, true, x, .called⟩], past⟩ := by
                    simp [next, there, active, through]
                  have performed : now.perform id r (.emit x proceed) = e := by
                    simpa [Engine.act, Engine.advance, there, Engine.advanceRun, active]
                      using happens
                  obtain ⟨moves, leads, lonely⟩ := exists_steps there called
                    ((land_of_own active).trans performed)
                  exact ⟨moves, past, leads, lonely, fun _ => (List.append_nil _).symm⟩
              · cases call
          · cases call
      | emit id x =>
          obtain ⟨r, there, rfl⟩ := Option.map_eq_some_iff.mp happens
          have called : next ⟨now, [], past⟩ (.call id x)
              = ⟨now, [⟨id, false, x, .called⟩], past⟩ := rfl
          obtain ⟨moves, leads, lonely⟩ := exists_steps there called (land_of_other now id r x)
          exact ⟨moves, past, leads, lonely, fun _ => (List.append_nil _).symm⟩
      | _ => cases call

/-- **An executor in which every emission is made at once is one of these**, with one
emission at a time: whatever it does can also come of moves, and readers get the same. -/
theorem timeline_reaches (config : ExecutorConfig) (acts : List Action) :
    ∃ moves, (run config moves).now = (Timeline.run (.new config) acts).now
      ∧ (∀ id, OneAtATime config moves id)
      ∧ ∀ id, readings id (run config moves).past
        = readings id (Timeline.run (.new config) acts).past := by
  suffices ∃ (moves : List Move) (past : List (Engine × Action)),
      run config moves = ⟨(Timeline.run (.new config) acts).now, [], past⟩
      ∧ Lonely { now := .new config } moves
      ∧ ∀ id, readings id past = readings id (Timeline.run (.new config) acts).past by
    obtain ⟨moves, past, leads, lonely, same⟩ := this
    refine ⟨moves, by rw [leads], fun id earlier le => ?_, by rw [leads]; exact same⟩
    exact (List.length_filter_le ..).trans (lonely.of_isPrefix le)
  induction acts using List.reverseRecOn with
  | nil => exact ⟨[], [], rfl, Nat.zero_le 1, fun _ => rfl⟩
  | append_singleton acts a ih =>
      obtain ⟨moves, past, leads, lonely, same⟩ := ih
      rw [Timeline.run_concat]
      cases happens : (Timeline.run (.new config) acts).now.act a with
      | none =>
          rw [Timeline.next_of_none happens]
          exact ⟨moves, past, leads, lonely, same⟩
      | some e =>
          obtain ⟨more, past', goesOn, alone, sees⟩ := exists_moves past happens
          rw [Timeline.next_of_some happens]
          rw [run] at leads
          refine ⟨moves ++ more, past', ?_, lonely.append (by rw [leads]; exact alone), fun id => ?_⟩
          · rw [run, List.foldl_append, leads]
            exact goesOn
          · rw [sees, same, readings_concat]

end Parallel

end ToolServer.Execution
