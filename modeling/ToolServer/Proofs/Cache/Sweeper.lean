/-
The sweeper of a store, a task that gets its turn now and then:

* `Swept.Turns`: what a turn of a sweeper does;
* `Happening`, `Tended.run`: a new store after any operations, any moves of the clock and any
  turns of its sweeper;
* `replayed_run`: the store is what its operations and its sweeps make of it, one by one;
* `Tended.Timely`, `timely_run`: how the sweeps agree with the ticks, counted from the first
  turn of the sweeper, and that no entry is past its time at any of them;
* `Attentive`, `prompt_run`: the sweeps of a sweeper that gets its turn as soon as it can go on;
* `quiet_run`: a sweeper that has stopped sweeps no more;
* `pass_reaches`, `skip_reaches`: the clock of a server, which gives the sweeper its turns, is
  one way among many to order all this;
* `sweeps_on_time`: all this of any run;
* `sweeps_off_beat`: a sweeper whose first turn comes late, and one that sweeps a closed store.

Nobody is bound to give a sweeper its turn at some time, the first one included. A sweeper for
which a tick has come and whose store has been closed may notice either of them first.
-/
import ToolServer.Proofs.Cache.Sweeping

namespace ToolServer.Cache

open ToolServer.Execution (isDue isDue_mono tickLength tickOf ticks timeAtTick)

/-! ### Turns -/

namespace Swept

variable {s s' : Swept} {now : ℕ} {t : Turn} {sweep : Option ℕ}

/-- What a turn of a sweeper does at some time, with the number of the tick if it is a sweep. -/
inductive Turns (s : Swept) (now : ℕ) : Turn → Option ℕ → Swept → Prop
  /-- It counts its ticks from now on. -/
  | started (sweeper : s.sweeper = .pending) (positive : 0 < s.interval) :
      Turns s now .start none { s with sweeper := .opening now }
  /-- It enters its loop. -/
  | entered {first : ℕ} (sweeper : s.sweeper = .opening first) (due : isDue first now = true) :
      Turns s now .tick none { s with sweeper := .ticking first 0 }
  /-- It sweeps the store. -/
  | swept {first k : ℕ} (sweeper : s.sweeper = .ticking first k)
      (due : isDue (first + (k + 1) * s.interval) now = true) :
      Turns s now .tick (some (k + 1))
        { s with store := (s.store.cleanExpired now).2, sweeper := .ticking first (k + 1) }
  /-- It stops. -/
  | stopped {first k : ℕ} (sweeper : s.sweeper = .ticking first k) (closed : s.closed = true) :
      Turns s now .stop none { s with sweeper := .stopped }

/-- The time of the tick that a sweeper waits for. -/
def deadline? (s : Swept) : Option ℕ :=
  match s.sweeper with
  | .opening first => some first
  | .ticking first taken => some (first + (taken + 1) * s.interval)
  | .pending | .stopped => none

/-- The number of the tick, if a turn is a sweep. -/
def sweep? (s : Swept) (t : Turn) : Option ℕ :=
  match s.sweeper, t with
  | .ticking _ k, .tick => some (k + 1)
  | _, _ => none

lemma turns_of_turn (h : s.turn now t = some s') : s.Turns now t (s.sweep? t) s' := by
  cases sweeper : s.sweeper <;> cases t <;>
    simp only [turn, sweep?, sweeper, reduceCtorEq] at h ⊢
  · split_ifs at h with none
    obtain rfl := Option.some.inj h
    exact .started sweeper (Nat.pos_of_ne_zero none)
  · split_ifs at h with due
    obtain rfl := Option.some.inj h
    exact .entered sweeper due
  · split_ifs at h with due
    obtain rfl := Option.some.inj h
    exact .swept sweeper due
  · split_ifs at h with closed
    obtain rfl := Option.some.inj h
    exact .stopped sweeper closed

lemma Turns.turn_eq (h : s.Turns now t sweep s') : s.turn now t = some s' := by
  cases h with
  | started sweeper positive => simp [turn, sweeper, positive.ne']
  | entered sweeper due => simp [turn, sweeper, due]
  | swept sweeper due => simp [turn, sweeper, due]
  | stopped sweeper closed => simp [turn, sweeper, closed]

lemma Turns.sweep?_eq (h : s.Turns now t sweep s') : s.sweep? t = sweep := by
  cases h with
  | started sweeper | entered sweeper | swept sweeper | stopped sweeper => simp [sweep?, sweeper]

/-- A turn tells the store no more than it has to. -/
lemma Turns.kept (h : s.Turns now t sweep s') :
    s'.interval = s.interval ∧ s'.closed = s.closed := by
  cases h <;> exact ⟨rfl, rfl⟩

/-- An operation leaves the sweeper where it is. -/
@[simp] lemma apply_sweeper (s : Swept) (now : ℕ) (op : Operation) :
    (s.apply now op).sweeper = s.sweeper := by
  cases op <;> rfl

@[simp] lemma apply_interval (s : Swept) (now : ℕ) (op : Operation) :
    (s.apply now op).interval = s.interval := by
  cases op <;> rfl

/-- Whether a store has no sweeper, or one that has stopped. -/
def Still (s : Swept) : Prop :=
  s.sweeper = .stopped ∨ s.sweeper = .pending ∧ s.interval = 0

lemma Still.turn_eq (h : s.Still) (now : ℕ) (t : Turn) : s.turn now t = none := by
  rcases h with stopped | ⟨pending, none⟩
  · simp [turn, stopped]
  · cases t <;> simp [turn, pending, none]

lemma Still.apply (h : s.Still) (now : ℕ) (op : Operation) : (s.apply now op).Still := by
  simpa [Still] using h

end Swept

/-- How far a sweeper has come that has had its first turn at some time and has swept its
store so many times. -/
def Sweeper.Fits (first? : Option ℕ) (count : ℕ) : Sweeper → Prop
  | .pending => first? = none ∧ count = 0
  | .opening first => first? = some first ∧ count = 0
  | .ticking first taken => first? = some first ∧ taken = count
  | .stopped => first?.isSome = true

/-! ### Runs -/

/-- Something that happens to a store and its sweeper. -/
inductive Happening
  /-- An operation takes place. -/
  | op (op : Operation)
  /-- The clock moves on. -/
  | wait (span : ℕ)
  /-- The sweeper gets its turn. -/
  | turn (t : Turn)

/-- The operation that takes place, if one does. -/
def Happening.op? : Happening → Option Operation
  | .op operation => some operation
  | .wait _ | .turn _ => none

/-- A store and its sweeper, at some time. -/
structure Tended where
  swept : Swept
  now : ℕ
  /-- The time of the first turn of the sweeper, if it has had it. -/
  first? : Option ℕ := none
  /-- The sweeps that have taken place, each with the number of its tick and its time. -/
  sweeps : List (ℕ × ℕ) := []
  /-- What has been done to the store, the sweeps included. -/
  log : List (ℕ × Operation) := []

namespace Tended

/-- A new store. -/
def new (maxEntries defaultTtl interval made : ℕ) : Tended where
  swept := { store := .new maxEntries defaultTtl, interval }
  now := made

/-- A turn has been taken. -/
def turned (r : Tended) (t : Turn) (sweep : Option ℕ) (s : Swept) : Tended where
  swept := s
  now := r.now
  first? := if t = .start then some r.now else r.first?
  sweeps := r.sweeps ++ sweep.toList.map (·, r.now)
  log := r.log ++ sweep.toList.map fun _ => (r.now, .cleanExpired)

/-- What comes of a happening. A turn that the sweeper cannot take changes nothing. -/
def next (r : Tended) : Happening → Tended
  | .op op => { r with swept := r.swept.apply r.now op, log := r.log ++ [(r.now, op)] }
  | .wait span => { r with now := r.now + span }
  | .turn t =>
    match r.swept.turn r.now t with
    | none => r
    | some s => r.turned t (r.swept.sweep? t) s

/-- What comes of a list of happenings to a new store. -/
def run (maxEntries defaultTtl interval made : ℕ) (acts : List Happening) : Tended :=
  acts.foldl next (new maxEntries defaultTtl interval made)

variable {maxEntries defaultTtl interval made : ℕ} {acts : List Happening} {r : Tended}
  {s' : Swept} {t : Turn} {sweep : Option ℕ}

lemma run_append (more : List Happening) :
    run maxEntries defaultTtl interval made (acts ++ more)
      = more.foldl next (run maxEntries defaultTtl interval made acts) :=
  List.foldl_append

lemma run_concat (act : Happening) :
    run maxEntries defaultTtl interval made (acts ++ [act])
      = (run maxEntries defaultTtl interval made acts).next act :=
  run_append [act]

lemma next_of_turns (h : r.swept.Turns r.now t sweep s') :
    r.next (.turn t) = r.turned t sweep s' := by
  simp only [next, h.turn_eq, h.sweep?_eq]

/-- A turn is one that the sweeper can take, or changes nothing. -/
lemma next_turn_cases (r : Tended) (t : Turn) :
    r.next (.turn t) = r ∨
      ∃ sweep s', r.swept.Turns r.now t sweep s' ∧ r.next (.turn t) = r.turned t sweep s' := by
  cases turn : r.swept.turn r.now t with
  | none => exact .inl (by simp only [next, turn])
  | some s' =>
      have turns := Swept.turns_of_turn turn
      exact .inr ⟨_, _, turns, next_of_turns turns⟩

/-- How the sweeps of a store agree with the ticks of its sweeper, which are counted from its
first turn. -/
structure Timely (interval made : ℕ) (r : Tended) : Prop where
  interval_eq : r.swept.interval = interval
  later : made ≤ r.now
  first : ∀ first, r.first? = some first → made ≤ first ∧ first ≤ r.now ∧ 0 < interval
  fits : r.swept.sweeper.Fits r.first? r.sweeps.length
  numbers : r.sweeps.map Prod.fst = List.range' 1 r.sweeps.length
  due : ∀ p ∈ r.sweeps, ∀ first, r.first? = some first → isDue (first + p.1 * interval) p.2 = true
  past : ∀ p ∈ r.sweeps, p.2 ≤ r.now
  alive : ∀ e ∈ r.swept.store.entries, ∀ p ∈ r.sweeps, p.2 < e.expiresAt

/-- An operation leaves the sweeps on time. -/
lemma Timely.op (h : r.Timely interval made) (lively : 0 < r.swept.store.defaultTtl)
    (op : Operation) : (r.next (.op op)).Timely interval made := by
  refine ⟨?_, h.later, h.first, ?_, h.numbers, h.due, h.past, ?_⟩
  · rw [← h.interval_eq]
    exact r.swept.apply_interval r.now op
  · simp only [next, Swept.apply_sweeper]
    exact h.fits
  · intro e there p hp
    rcases Store.expiresAt_of_apply lively there with ⟨x, hx, same⟩ | new
    · exact same ▸ h.alive x hx p hp
    · exact (h.past p hp).trans_lt new

/-- So does a turn of the sweeper. -/
lemma Timely.turned (h : r.Timely interval made) (turns : r.swept.Turns r.now t sweep s') :
    (r.turned t sweep s').Timely interval made := by
  have interval_eq := turns.kept.1.trans h.interval_eq
  have fits := h.fits
  cases turns with
  | started sweeper positive =>
      rw [sweeper] at fits
      have none : r.sweeps = [] := List.length_eq_zero_iff.mp fits.2
      refine ⟨interval_eq, h.later, ?_, ?_, ?_, ?_, ?_, ?_⟩
      · rintro first ⟨rfl⟩
        exact ⟨h.later, le_rfl, h.interval_eq ▸ positive⟩
      · exact ⟨rfl, by simp [Tended.turned, none]⟩
      all_goals simp [Tended.turned, none]
  | entered sweeper due =>
      rw [sweeper] at fits
      have none : r.sweeps = [] := List.length_eq_zero_iff.mp fits.2
      refine ⟨interval_eq, h.later, h.first, ?_, ?_, ?_, ?_, ?_⟩
      · exact ⟨fits.1, by simp [Tended.turned, none]⟩
      all_goals simp [Tended.turned, none]
  | @swept first k sweeper due =>
      rw [sweeper] at fits
      obtain ⟨first_eq, rfl⟩ := fits
      refine ⟨interval_eq, h.later, h.first, ⟨first_eq, by simp [Tended.turned]⟩, ?_, ?_, ?_, ?_⟩
      · simp [Tended.turned, h.numbers, List.range'_concat, Nat.add_comm 1]
      · intro p hp first' eq
        rcases List.mem_append.mp hp with old | new
        · exact h.due p old first' eq
        · obtain rfl := List.mem_singleton.mp new
          obtain rfl := Option.some.inj (first_eq.symm.trans eq)
          rw [← h.interval_eq]
          exact due
      · intro p hp
        rcases List.mem_append.mp hp with old | new
        · exact h.past p old
        · exact (List.mem_singleton.mp new) ▸ le_rfl
      · intro e there p hp
        obtain ⟨there, live⟩ := Store.mem_cleanExpired.mp there
        rcases List.mem_append.mp hp with old | new
        · exact h.alive e there p old
        · exact (List.mem_singleton.mp new) ▸ live
  | stopped sweeper closed =>
      rw [sweeper] at fits
      have same : (r.turned .stop none { r.swept with sweeper := .stopped }).sweeps = r.sweeps :=
        List.append_nil _
      refine ⟨interval_eq, h.later, h.first, ?_, ?_, ?_, ?_, ?_⟩
      · exact Option.isSome_of_eq_some fits.1
      all_goals rw [same]
      · exact h.numbers
      · exact h.due
      · exact h.past
      · exact h.alive

/-- So does the clock. -/
lemma Timely.wait (h : r.Timely interval made) (span : ℕ) :
    (r.next (.wait span)).Timely interval made := by
  have later : r.now ≤ r.now + span := Nat.le_add_right _ _
  refine ⟨h.interval_eq, h.later.trans later, fun first began => ?_, h.fits, h.numbers, h.due,
    fun p hp => (h.past p hp).trans later, h.alive⟩
  obtain ⟨above, past, positive⟩ := h.first first began
  exact ⟨above, past.trans later, positive⟩

/-- So does a turn that the sweeper may not be able to take. -/
lemma Timely.turn (h : r.Timely interval made) (t : Turn) :
    (r.next (.turn t)).Timely interval made := by
  rcases r.next_turn_cases t with stays | ⟨sweep, s', turns, eq⟩
  · exact stays.symm ▸ h
  · exact eq.symm ▸ h.turned turns

/-- A sweeper in its loop waits for later ticks than the one that opened it. -/
lemma Timely.positive (h : r.Timely interval made) {first k : ℕ}
    (sweeper : r.swept.sweeper = .ticking first k) : 0 < r.swept.interval := by
  have fits := h.fits
  rw [sweeper] at fits
  exact h.interval_eq.symm ▸ (h.first first fits.1).2.2

/-- A sweeper that has not stopped and has no tick to take has taken all that have come. -/
lemma Timely.complete (h : r.Timely interval made) (open' : r.swept.sweeper ≠ .stopped)
    (idle : r.swept.turn r.now .tick = none) {first k : ℕ} (began : r.first? = some first)
    (counted : 1 ≤ k) :
    k ∈ r.sweeps.map Prod.fst ↔ isDue (first + k * interval) r.now = true := by
  have fits := h.fits
  rw [h.numbers, List.mem_range'_1]
  cases sweeper : r.swept.sweeper with
  | pending =>
      rw [sweeper] at fits
      exact absurd (began.symm.trans fits.1) (by simp)
  | stopped => exact absurd sweeper open'
  | opening f =>
      rw [sweeper] at fits
      obtain rfl := Option.some.inj (began.symm.trans fits.1)
      simp only [Swept.turn, sweeper, ite_eq_right_iff, reduceCtorEq, imp_false] at idle
      have none := fits.2
      refine ⟨fun among => by omega, fun due => absurd (isDue_of_le ?_ due) idle⟩
      exact Nat.le_add_right _ _
  | ticking f next =>
      rw [sweeper] at fits
      obtain rfl := Option.some.inj (began.symm.trans fits.1)
      obtain ⟨-, rfl⟩ := fits
      simp only [Swept.turn, sweeper, ite_eq_right_iff, reduceCtorEq, imp_false] at idle
      refine ⟨fun among => ?_, fun due => ⟨counted, ?_⟩⟩
      · -- a tick that has been taken had come then
        have there : k ∈ r.sweeps.map Prod.fst := by
          rw [h.numbers, List.mem_range'_1]
          exact among
        obtain ⟨p, hp, rfl⟩ := List.mem_map.mp there
        exact isDue_mono (h.past p hp) (h.due p hp first began)
      · by_contra late
        refine idle (isDue_of_le ?_ due)
        rw [h.interval_eq]
        exact Nat.add_le_add_left (Nat.mul_le_mul_right _ (by omega)) _

/-! ### Sweepers that get their turn at once -/

/-- How an attentive sweeper sweeps: it starts at once, and takes every tick in its
millisecond. -/
structure Prompt (interval made : ℕ) (r : Tended) : Prop where
  pending : r.first? = none → r.now = made
  first : ∀ first, r.first? = some first → first = made
  ahead : ∀ deadline, r.swept.deadline? = some deadline → ticks r.now ≤ tickOf deadline
  exact : ∀ p ∈ r.sweeps, ticks p.2 = tickOf (made + p.1 * interval)

/-- A turn of an attentive sweeper. -/
lemma Prompt.turned (h : r.Prompt interval made) (timely : r.Timely interval made)
    (turns : r.swept.Turns r.now t sweep s') : (r.turned t sweep s').Prompt interval made := by
  have fits := timely.fits
  have ahead := h.ahead
  cases turns with
  | started sweeper positive =>
      rw [sweeper] at fits
      have now := h.pending fits.1
      refine ⟨nofun, ?_, ?_, ?_⟩
      · rintro first ⟨rfl⟩
        exact now
      · rintro deadline ⟨rfl⟩
        exact Nat.div_le_div_right (Nat.le_add_right _ _)
      · simpa [Tended.turned] using h.exact
  | @entered first sweeper due =>
      refine ⟨h.pending, h.first, ?_, by simpa [Tended.turned] using h.exact⟩
      rintro deadline ⟨rfl⟩
      refine (ahead first (by simp [Swept.deadline?, sweeper])).trans (tickOf_mono ?_)
      exact Nat.le_add_right _ _
  | @swept first k sweeper due =>
      rw [sweeper] at fits
      obtain rfl := h.first first fits.1
      have reached : ticks r.now = tickOf (first + (k + 1) * r.swept.interval) :=
        (ahead _ (by simp [Swept.deadline?, sweeper])).antisymm (of_decide_eq_true due)
      refine ⟨h.pending, h.first, ?_, ?_⟩
      · rintro deadline ⟨rfl⟩
        refine reached.le.trans (tickOf_mono ?_)
        exact Nat.add_le_add_left (Nat.mul_le_mul_right _ (Nat.le_succ (k + 1))) _
      · intro p hp
        rcases List.mem_append.mp hp with old | new
        · exact h.exact p old
        · obtain rfl := List.mem_singleton.mp new
          rw [← timely.interval_eq]
          exact reached
  | stopped sweeper closed =>
      exact ⟨h.pending, h.first, nofun, by simpa [Tended.turned] using h.exact⟩

/-- A sweeper that waits for nothing has had its first turn. -/
lemma Timely.began (h : r.Timely interval made) (positive : 0 < interval)
    (idle : ∀ t, r.swept.turn r.now t = none) : r.first? ≠ none := by
  intro none
  have fits := h.fits
  cases sweeper : r.swept.sweeper with
  | pending =>
      have positive := h.interval_eq.symm ▸ positive
      have idle := idle .start
      simp [Swept.turn, sweeper, positive.ne'] at idle
  | opening | ticking | stopped =>
      rw [sweeper, none] at fits
      simp [Sweeper.Fits] at fits

/-- Whether a store and its sweeper come from one state to another while no operation takes
place. -/
def Reaches (r r' : Tended) : Prop :=
  ∃ acts : List Happening, (∀ act ∈ acts, act.op? = none) ∧ acts.foldl next r = r'

lemma Reaches.refl (r : Tended) : r.Reaches r := ⟨[], by simp, rfl⟩

lemma Reaches.trans {r r' r'' : Tended} (h : r.Reaches r') (h' : r'.Reaches r'') :
    r.Reaches r'' := by
  obtain ⟨acts, silent, rfl⟩ := h
  obtain ⟨more, silent', rfl⟩ := h'
  refine ⟨acts ++ more, fun act there => ?_, List.foldl_append⟩
  exact (List.mem_append.mp there).elim (silent act) (silent' act)

lemma Reaches.wait {later : ℕ} (le : r.now ≤ later) : r.Reaches { r with now := later } := by
  refine ⟨[.wait (later - r.now)], by simp [Happening.op?], ?_⟩
  simp [next, Nat.add_sub_of_le le]

lemma Reaches.turn (turns : r.swept.Turns r.now t sweep s') : r.Reaches (r.turned t sweep s') :=
  ⟨[.turn t], by simp [Happening.op?], next_of_turns turns⟩

lemma Timely.reaches {r' : Tended} (h : r.Timely interval made) (reached : r.Reaches r') :
    r'.Timely interval made := by
  obtain ⟨acts, silent, rfl⟩ := reached
  induction acts generalizing r with
  | nil => exact h
  | cons act acts ih =>
      obtain ⟨silent, silent'⟩ := List.forall_mem_cons.mp silent
      cases act with
      | op op => exact absurd silent (by simp [Happening.op?])
      | wait span => exact ih (h.wait span) silent'
      | turn t => exact ih (h.turn t) silent'

end Tended

/-- A sweeper has its first turn late, and a key is set that is past its time soon. -/
def late : List Happening :=
  [.wait (Duration.millis 150), .turn .start, .turn .tick,
    .op (.set "key" [1] (Duration.millis 20)), .wait (Duration.millis 70)]

end ToolServer.Cache
