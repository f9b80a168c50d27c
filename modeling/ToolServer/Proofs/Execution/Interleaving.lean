/-
The events that a reader gets while several tasks emit at once:

* `Run.Among`: the invariant of an invocation and the emissions under way through its
  emitter. Every number that is on its way to the queue may come behind all that are
  there;
* `Among.passes`, `Among.change`: neither a step of an emission nor an action breaks it;
* `sound_run`: it holds at any time, in every order in which the numbers that are under
  way at the same time may come;
* `Parallel.Spent`: what is left of an emitter whose handler has returned;
* `stream_well_formed`: what a reader gets is the beginning of a whole stream, whoever
  keeps an emitter. Its numbers increase, but for emissions that were under way at once;
* `numbers_overtaken`: a number that is read before a smaller one.
-/
import ToolServer.Proofs.Execution.Admission
import ToolServer.Proofs.Execution.Emission
import ToolServer.Proofs.Execution.Parallel

namespace ToolServer.Execution

/-! ### Numbers in order -/

/-- The numbers of a stream stand in its order. -/
lemma Incipient.pairwise_numbers {R : ℕ → ℕ → Prop} {es : List Event} (h : Incipient R es) :
    (numbers es).Pairwise R := by
  obtain ⟨full, complete, le⟩ := h
  refine List.Pairwise.sublist (le.sublist.filterMap _) ?_
  cases complete with
  | refused => exact .nil
  | @served n es last opening terminal =>
      obtain ⟨tool, requestId, args, pieces, rfl, ns, hns, order, -⟩ := opening
      have whole : (Event.start tool requestId args :: pieces ++ [last]).filterMap Event.sequence?
          = ns := by
        rw [List.filterMap_append, ← numbers, numbers_of_pieces hns]
        simp [sequence?_of_isTerminal terminal]
      rwa [whole]

/-! ### An invocation among emissions -/

section Awaiting

variable {f : Flight} {fs gs : List Flight} {n : ℕ}

lemma awaiting_cons : awaiting (f :: fs) = f.phase.number?.toList ++ awaiting fs := by
  simp only [awaiting, List.filterMap_cons]
  cases f.phase.number? <;> rfl

lemma awaiting_concat (fs : List Flight) (new : f.phase = .called) : awaiting (fs ++ [f]) = awaiting fs := by
  simp [awaiting, new, Emission.Phase.number?]

lemma awaiting_sublist : (awaiting fs).Sublist (awaiting (f :: fs)) :=
  (List.sublist_cons_self f fs).filterMap _

/-- Who awaits the queue keeps the emitter open. -/
lemma exists_holds_of_awaiting (h : n ∈ awaiting fs) : ∃ f ∈ fs, f.phase.holds = true := by
  obtain ⟨f, there, number⟩ := List.mem_filterMap.mp h
  refine ⟨f, there, ?_⟩
  cases phase : f.phase <;> simp_all [Emission.Phase.number?, Emission.Phase.holds]

lemma awaiting_of_idle (idle : ∀ f ∈ fs, f.phase.holds = false) : awaiting fs = [] := by
  refine List.eq_nil_iff_forall_not_mem.mpr fun n waits => ?_
  obtain ⟨f, among, holds⟩ := exists_holds_of_awaiting waits
  simp [idle f among] at holds

end Awaiting

namespace Run

variable {R : ℕ → ℕ → Prop} {f : Flight} {fs gs : List Flight} {seen : List Engine.Reading}
  {r r' : Run}

/-- An invocation in good order among the emissions `fs` under way through its emitter,
`seen` being what its reader has got. -/
structure Among (R : ℕ → ℕ → Prop) (fs : List Flight) (seen : List Engine.Reading) (r : Run) :
    Prop where
  order : r.InOrder R (seen.filterMap Engine.Reading.event?)
  final : r.Final seen
  /-- The handler is at work as long as somebody keeps the emitter open. -/
  held : ∀ f ∈ fs, f.phase.holds = true → r.stage.isHandling = true
  /-- Who awaits the queue has got a number of its own. -/
  given : ∀ n ∈ awaiting fs, n ≤ r.sequence
  apart : (awaiting fs).Nodup
  /-- Its number may come behind all that are queued. -/
  behind : r.reading = true → ∀ n ∈ awaiting fs,
    ∀ k ∈ numbers (seen.filterMap Engine.Reading.event? ++ r.queue), R k n

lemma Among.perm (h : r.Among R fs seen) (perm : fs.Perm gs) : r.Among R gs seen := by
  have same : (awaiting fs).Perm (awaiting gs) := perm.filterMap _
  exact ⟨h.order, h.final, fun f there => h.held f (perm.mem_iff.mpr there),
    fun n there => h.given n (same.mem_iff.mpr there), same.nodup_iff.mp h.apart,
    fun reading n there => h.behind reading n (same.mem_iff.mpr there)⟩

/-- Once a handler is at work its reader has not got to the end. -/
lemma Final.of_isHandling (h : r.Final seen) (handling : r.stage.isHandling = true) :
    r'.Final seen :=
  ⟨fun there => by simp [(h.closed there).1, Stage.isHandling] at handling, h.forever⟩

/-- A call changes nothing yet. -/
lemma Among.call (h : r.Among R fs seen) (new : f.phase = .called) :
    r.Among R (fs ++ [f]) seen := by
  have same := awaiting_concat fs new
  refine ⟨h.order, h.final, ?_, same ▸ h.given, same ▸ h.apart, same ▸ h.behind⟩
  intro g there holds
  rcases List.mem_append.mp there with before | now
  · exact h.held g before holds
  · rw [List.mem_singleton.mp now, new] at holds
    cases holds

/-- An emission that has its answer is no longer under way. -/
lemma Among.tail (h : r.Among R (f :: fs) seen) : r.Among R fs seen where
  order := h.order
  final := h.final
  held g there := h.held g (List.mem_cons_of_mem f there)
  given n there := h.given n (awaiting_sublist.subset there)
  apart := awaiting_sublist.nodup h.apart
  behind reading n there := h.behind reading n (awaiting_sublist.subset there)

/-- A handler goes on with the answer that it has waited for. -/
lemma Among.resume (h : r.Among R fs seen) (f : Flight) (failure : Option EmitError) :
    (f.resume r failure).Among R fs seen := by
  rw [Flight.resume]
  split
  · next active =>
      have handling : r.stage.isHandling = true := by rw [active]; rfl
      exact ⟨h.order.moved handling rfl, h.final.of_isHandling handling, fun _ _ _ => rfl,
        h.given, h.apart, h.behind⟩
  · exact h

/-- **A step of an emission keeps good order**, if its number may come before those of the
others that await the queue. -/
lemma Among.passes {p : Emission.Phase} (weak : ∀ k m, k < m → R k m)
    (h : r.Among R (f :: fs) seen) (passes : r.Passes f.emission f.phase r' p)
    (before : ∀ m, f.phase = .numbered m → ∀ n ∈ awaiting fs, R m n) :
    r'.Among R ({ f with phase := p } :: fs) seen := by
  obtain ⟨id, own, x, phase⟩ := f
  have rest := h.tail
  have held := h.held _ List.mem_cons_self
  cases passes with
  | checked unnumbered gate =>
      have same : awaiting (⟨id, own, x, p⟩ :: fs) = awaiting fs := by
        simp [awaiting_cons, unnumbered]
      refine ⟨h.order, h.final, ?_, same ▸ rest.given, same ▸ rest.apart, same ▸ rest.behind⟩
      intro g there holds
      rcases List.mem_cons.mp there with rfl | other
      · rcases gate holds with before | emitting
        · exact held before
        · exact h.order.emitting ▸ emitting
      · exact rest.held g other holds
  | numbered =>
      have handling := held rfl
      have same : awaiting (⟨id, own, x, .numbered (r.sequence + 1)⟩ :: fs)
          = (r.sequence + 1) :: awaiting fs := awaiting_cons
      refine ⟨h.order.number handling, h.final.of_isHandling handling, fun _ _ _ => handling, ?_,
        ?_, ?_⟩
      · intro n there
        rcases List.mem_cons.mp (same ▸ there) with rfl | other
        · exact le_rfl
        · exact (rest.given n other).trans (Nat.le_succ _)
      · rw [same]
        refine List.nodup_cons.mpr ⟨fun there => ?_, rest.apart⟩
        exact absurd (rest.given _ there) (Nat.not_succ_le_self _)
      · intro reading n there k earlier
        rcases List.mem_cons.mp (same ▸ there) with rfl | other
        · have opening := (Stage.fits_of_isHandling handling).mp (h.order.fits reading)
          exact weak k _ (Nat.lt_succ_of_le (opening.le_of_mem earlier))
        · exact rest.behind reading n other k earlier
  | @queued n reading =>
      have handling := held rfl
      have first : n ∈ awaiting (⟨id, own, x, .numbered n⟩ :: fs) := by
        simp [awaiting_cons, Emission.Phase.number?]
      have same : awaiting (⟨id, own, x, .queued⟩ :: fs) = awaiting fs := awaiting_cons
      refine ⟨h.order.enqueue handling reading (x.sequence?_event n) (h.given n first)
        (h.behind reading n first), h.final.of_isHandling handling, fun _ _ _ => handling,
        same ▸ rest.given, same ▸ rest.apart, ?_⟩
      intro _ m there k earlier
      rw [same] at there
      rw [← List.append_assoc, numbers_append] at earlier
      rcases List.mem_append.mp earlier with earlier | now
      · exact rest.behind reading m there k earlier
      · obtain rfl : k = n := by simpa [numbers, x.sequence?_event] using now
        exact before k rfl m there
  | counted =>
      have handling := held rfl
      have same : awaiting (⟨id, own, x, .answered none⟩ :: fs) = awaiting fs := awaiting_cons
      exact ⟨⟨h.order.emitting, h.order.fits, h.order.gone⟩, h.final.of_isHandling handling,
        fun _ _ _ => handling, same ▸ rest.given, same ▸ rest.apart, same ▸ rest.behind⟩

/-- Between two stages of a handler at work an action that emits nothing moves pieces only
from the queue to the reader. -/
lemma Change.pieces_of_isHandling {e : Engine} {reading : Option Engine.Reading} (es : List Event)
    (change : r.Change e reading r') (silent : r'.sequence = r.sequence)
    (before : r.stage.isHandling = true) (after : r'.stage.isHandling = true)
    (there : r'.reading = true) :
    r.reading = true ∧
      es ++ (reading.bind Engine.Reading.event?).toList ++ r'.queue = es ++ r.queue := by
  cases change with
  | refused entering | begun entering | queued entering =>
      simp [Stage.not_isHandling_of_isEntering entering] at before
  | emitted active =>
      rw [publish_of_silent silent] at there ⊢
      exact ⟨there, by rw [events_silent]⟩
  | emittedOutside x =>
      rw [publish_of_silent silent] at there ⊢
      exact ⟨there, by rw [events_silent]⟩
  | moved => exact ⟨there, by rw [events_silent]⟩
  | concluded => cases after
  | finished delivering => simp [delivering, Stage.isHandling] at before
  | @read event rest queue => exact ⟨there, by simp [queue, Engine.Reading.event?]⟩
  | foundNothing => exact ⟨there, by rw [events_nothing]⟩
  | dropped => cases there

/-- **An action that emits nothing keeps good order**, if the handler goes on as long as
somebody keeps its emitter open. -/
lemma Among.change {e : Engine} {reading : Option Engine.Reading} (weak : ∀ k m, k < m → R k m)
    (h : r.Among R fs seen) (change : r.Change e reading r') (silent : r'.sequence = r.sequence)
    (goesOn : (∃ f ∈ fs, f.phase.holds = true) → r'.stage.isHandling = true) :
    r'.Among R fs (seen ++ reading.toList) where
  order := change.inOrder_seen weak h.order
  final := change.final h.order.emitting h.final
  held f there holds := goesOn ⟨f, there, holds⟩
  given n there := silent ▸ h.given n there
  apart := h.apart
  behind there n waits k earlier := by
    obtain ⟨f, among, holds⟩ := exists_holds_of_awaiting waits
    obtain ⟨back, same⟩ := change.pieces_of_isHandling (seen.filterMap Engine.Reading.event?)
      silent (h.held f among holds) (goesOn ⟨f, among, holds⟩) there
    rw [events_concat, same] at earlier
    exact h.behind back n waits k earlier

end Run

/-- A new invocation is in good order if nobody keeps its emitter open. -/
lemma Run.among_fresh {R : ℕ → ℕ → Prop} {fs : List Flight} (e : Engine) (tool requestId : String)
    (args : Json) (caller : Token) (handler : Handler) (idle : ∀ f ∈ fs, f.phase.holds = false) :
    (e.fresh tool requestId args caller handler).Among R fs [] := by
  refine ⟨e.inOrder_fresh _ _ _ _ _, ⟨by simp, .nil⟩, fun f among holds => ?_, ?_, ?_, ?_⟩
  · simp [idle f among] at holds
  all_goals simp [awaiting_of_idle idle]

namespace Parallel

variable {R : ℕ → ℕ → Prop} {id : ℕ} {t t' : Parallel}

/-- An invocation in good order as things stand. One that is not there has no reader, and
nobody keeps its emitter open. -/
structure Sound (R : ℕ → ℕ → Prop) (id : ℕ) (t : Parallel) : Prop where
  present : ∀ r, t.now.runs[id]? = some r → r.Among R (t.through id) (readings id t.past)
  absent : t.now.runs[id]? = none →
    readings id t.past = [] ∧ ∀ f ∈ t.through id, f.phase.holds = false

/-- What is under way through the emitter of an invocation, apart from one emission. -/
def besides (t : Parallel) (i id : ℕ) : List Flight :=
  (t.flights.eraseIdx i).filter (·.id = id)

section Places

variable {i : ℕ} {f : Flight} (under : t.flights[i]? = some f)

include under

lemma flights_perm : t.flights.Perm (f :: t.flights.eraseIdx i) := by
  obtain ⟨bound, rfl⟩ := List.getElem?_eq_some_iff.mp under
  exact (List.getElem_cons_eraseIdx_perm bound).symm

lemma through_perm (own : f.id = id) : (t.through id).Perm (f :: t.besides i id) := by
  have perm := (flights_perm under).filter (·.id = id)
  rwa [List.filter_cons_of_pos (by simpa using own)] at perm

lemma through_perm_of_other (other : f.id ≠ id) : (t.through id).Perm (t.besides i id) := by
  have perm := (flights_perm under).filter (·.id = id)
  rwa [List.filter_cons_of_neg (by simpa using other)] at perm

lemma set_perm (f' : Flight) : (f' :: t.flights.eraseIdx i).Perm (t.flights.set i f') :=
  (List.set_perm_cons_eraseIdx (List.getElem?_eq_some_iff.mp under).1 f').symm

/-- An emission that goes on stays under way. -/
lemma besides_perm {f' : Flight} (own : f'.id = id) :
    (f' :: t.besides i id).Perm ((t.flights.set i f').filter (·.id = id)) := by
  have perm := (set_perm under f').filter (·.id = id)
  rwa [List.filter_cons_of_pos (by simpa using own)] at perm

lemma besides_perm_of_other {f' : Flight} (other : f'.id ≠ id) :
    (t.besides i id).Perm ((t.flights.set i f').filter (·.id = id)) := by
  have perm := (set_perm under f').filter (·.id = id)
  rwa [List.filter_cons_of_neg (by simpa using other)] at perm

end Places

section Step

variable (weak : ∀ k m, k < m → R k m) (h : t.Sound R id)

include h

/-- A call of an emitter keeps good order. -/
lemma Sound.called {f : Flight} (new : f.phase = .called) :
    Sound R id { t with flights := t.flights ++ [f] } := by
  by_cases own : f.id = id
  · have more : through { t with flights := t.flights ++ [f] } id = t.through id ++ [f] := by
      simp [through, own]
    refine ⟨fun r there => more ▸ (h.present r there).call new, fun absent => ?_⟩
    refine ⟨(h.absent absent).1, fun g among => ?_⟩
    rw [more] at among
    rcases List.mem_append.mp among with before | now
    · exact (h.absent absent).2 g before
    · rw [List.mem_singleton.mp now, new]
      rfl
  · have same : through { t with flights := t.flights ++ [f] } id = t.through id := by
      simp [through, own]
    exact ⟨fun r there => same ▸ h.present r there, fun absent => same ▸ h.absent absent⟩

include weak

/-- An action that emits nothing keeps good order. -/
lemma Sound.act {a : Action} {e : Engine} (happens : t.now.act a = some e)
    (silent : t.now.call? a = none) (free : t.holdsUp a = false) :
    Sound R id ⟨e, t.flights, t.past ++ [(t.now, a)]⟩ := by
  refine ⟨fun r' there' => ?_, fun absent' => ?_⟩
  · show r'.Among R (t.through id) (readings id (t.past ++ [(t.now, a)]))
    rw [readings_concat]
    cases there : t.now.runs[id]? with
    | none =>
        obtain ⟨unread, idle⟩ := h.absent there
        obtain ⟨unseen, _, _, _, _, _, rfl⟩ := Engine.act_new happens there there'
        rw [unseen, unread]
        exact Run.among_fresh t.now _ _ _ _ _ idle
    | some r =>
        have before := h.present r there
        obtain ⟨q, atPlace, -, ⟨rfl, unseen, -⟩ | move⟩ := Engine.act_move happens there
        · obtain rfl := Option.some.inj (atPlace.symm.trans there')
          rw [unseen, Option.toList_none, List.append_nil]
          exact before
        · obtain rfl := Option.some.inj (atPlace.symm.trans there')
          rw [Engine.attempt?_of_silent silent] at move
          generalize t.now.reading? a id = reading at move ⊢
          cases move with
          | changed change quiet =>
              refine before.change weak change quiet ?_
              rintro ⟨f, among, holds⟩
              have handling := before.held f among holds
              by_cases own : a = .advance id
              · refine change.isHandling_of_going handling fun o active => ?_
                simp only [own, holdsUp, there, Option.map_some, active] at free
                simpa [holds] using List.any_eq_false.mp free f among
              · obtain ⟨q', atPlace', same⟩ := Engine.act_stage_of_other happens there own
                obtain rfl := Option.some.inj (atPlace'.symm.trans atPlace)
                rwa [same]
  · have absent : t.now.runs[id]? = none := by
      cases there : t.now.runs[id]? with
      | none => rfl
      | some r =>
          obtain ⟨r', there', -⟩ := Engine.act_run happens there
          rw [absent'] at there'
          cases there'
    rw [readings_concat, (h.absent absent).1, Engine.reading?_of_absent happens absent]
    exact ⟨rfl, (h.absent absent).2⟩

omit weak in
/-- What other invocations do is of no account. -/
lemma Sound.of_perm (runs : t'.now.runs[id]? = t.now.runs[id]?) (past : t'.past = t.past)
    (perm : (t.through id).Perm (t'.through id)) : t'.Sound R id := by
  refine ⟨fun r there => ?_, fun absent => ?_⟩
  · rw [past]
    exact (h.present r (runs ▸ there)).perm perm
  · rw [past]
    obtain ⟨unread, idle⟩ := h.absent (runs ▸ absent)
    exact ⟨unread, fun f among => idle f (perm.mem_iff.mpr among)⟩

/-- A step of an emission keeps good order, if the numbers that await the queue may come one
before another. -/
lemma Sound.passes {i : ℕ} {f : Flight} {r r' : Run} {p : Emission.Phase}
    (apart : (awaiting (t.through id)).Pairwise fun m n => R m n ∧ R n m)
    (under : t.flights[i]? = some f) (own : f.id = id) (there : t.now.runs[id]? = some r)
    (passes : r.Passes f.emission f.phase r' p) :
    r'.Among R ({ f with phase := p } :: t.besides i id) (readings id t.past) := by
  have perm := through_perm under own
  refine ((h.present r there).perm perm).passes weak passes fun m number n waits => ?_
  have numbers : (awaiting (t.through id)).Perm (m :: awaiting (t.besides i id)) := by
    have same := perm.filterMap (·.phase.number?)
    simpa [awaiting, number, Emission.Phase.number?] using same
  have apart' := (numbers.pairwise_iff (fun h => ⟨h.2, h.1⟩)).mp apart
  exact ((List.pairwise_cons.mp apart').1 n waits).1

/-- **Every move keeps good order**, if the numbers that await the queue may come one before
another. -/
lemma Sound.step (apart : (awaiting (t.through id)).Pairwise fun m n => R m n ∧ R n m)
    (step : t.Step t') : t'.Sound R id := by
  cases step with
  | idle => exact h
  | acted happens silent free => exact h.act weak happens silent free
  | called new => exact h.called new
  | @passed i f r r' p under there passes =>
      by_cases own : f.id = id
      · subst own
        have bound := (List.getElem?_eq_some_iff.mp there).1
        refine ⟨fun q there' => ?_, fun absent => ?_⟩
        · obtain rfl : r' = q := by simpa [bound] using there'
          exact (h.passes weak apart under rfl there passes).perm (besides_perm under rfl)
        · simp [bound] at absent
      · refine h.of_perm ?_ rfl ?_
        · simp [own]
        · exact (through_perm_of_other under own).trans (besides_perm_of_other under own)
  | @answered i f r r' failure under there passes =>
      by_cases own : f.id = id
      · subst own
        have bound := (List.getElem?_eq_some_iff.mp there).1
        refine ⟨fun q there' => ?_, fun absent => ?_⟩
        · obtain rfl : f.resume r' failure = q := by simpa [bound, Flight.land_runs] using there'
          exact (h.passes weak apart under rfl there passes).tail.resume f failure
        · simp [bound, Flight.land_runs] at absent
      · refine h.of_perm ?_ rfl (through_perm_of_other under own)
        simp [own, Flight.land_runs]

end Step

/-! ### Runs -/

section Runs

variable (config : ExecutorConfig) (moves : List Move) (id : ℕ)

/-- **At any time every invocation is in good order**, if at no time numbers awaited the queue
that may not come one before another. -/
theorem sound_run (weak : ∀ k m, k < m → R k m)
    (apart : ∀ earlier, earlier <+: moves →
      (awaiting ((run config earlier).through id)).Pairwise fun m n => R m n ∧ R n m) :
    (run config moves).Sound R id := by
  induction moves using List.reverseRecOn with
  | nil => exact ⟨by simp [run, Engine.new], by simp [run, through]⟩
  | append_singleton moves m ih =>
      have before := ih fun earlier le => apart earlier (le.trans (List.prefix_append _ _))
      rw [run_concat]
      exact before.step weak (apart moves (List.prefix_append _ _)) (next_step _ m)

/-- No two emissions through one emitter have the same number. -/
lemma nodup_awaiting : (awaiting ((run config moves).through id)).Nodup := by
  have sound : (run config moves).Sound (fun _ _ => True) id :=
    sound_run config moves id (fun _ _ _ => trivial) fun _ _ => List.pairwise_of_forall (by simp)
  cases there : (run config moves).now.runs[id]? with
  | some r => exact (sound.present r there).apart
  | none =>
      rw [awaiting_of_idle (sound.absent there).2]
      exact .nil

/-- An emission that has its answer is no longer under way. -/
lemma unanswered_run {f : Flight} (under : f ∈ (run config moves).flights) :
    f.phase.answer? = none := by
  induction moves using List.reverseRecOn generalizing f with
  | nil => cases under
  | append_singleton moves m ih =>
      rw [run_concat] at under
      generalize run config moves = t at ih under
      have step := next_step t m
      generalize t.next m = t' at step under
      cases step with
      | idle | acted => exact ih under
      | called new =>
          rcases List.mem_append.mp under with before | now
          · exact ih before
          · rw [List.mem_singleton.mp now, new]
            rfl
      | passed _ _ _ going =>
          rcases List.mem_or_eq_of_mem_set under with before | rfl
          · exact ih before
          · exact going
      | answered => exact ih (List.mem_of_mem_eraseIdx under)

/-- Whether two numbers were once under way at the same time, both given out and neither
queued. -/
def Together (k l : ℕ) : Prop :=
  ∃ earlier, earlier <+: moves ∧ k ∈ awaiting ((run config earlier).through id)
    ∧ l ∈ awaiting ((run config earlier).through id)

/-- The order of numbers: a smaller one comes first, unless both were under way at the same
time. -/
def InTurn (k l : ℕ) : Prop :=
  k < l ∨ l < k ∧ Together config moves id k l

lemma sound_inTurn : (run config moves).Sound (InTurn config moves id) id := by
  refine sound_run config moves id (fun k m lt => .inl lt) fun earlier le => ?_
  refine (nodup_awaiting config earlier id).imp_of_mem fun {m n} waits waits' apart => ?_
  have together : Together config moves id m n := ⟨earlier, le, waits, waits'⟩
  have together' : Together config moves id n m := ⟨earlier, le, waits', waits⟩
  rcases lt_or_gt_of_ne apart with lt | gt
  · exact ⟨.inl lt, .inr ⟨lt, together'⟩⟩
  · exact ⟨.inr ⟨gt, together⟩, .inl gt⟩

/-- Emissions that are made one at a time are numbered in the order of the queue. -/
lemma lt_of_inTurn {k l : ℕ} (alone : OneAtATime config moves id)
    (inTurn : InTurn config moves id k l) : k < l := by
  rcases inTurn with lt | ⟨lt, earlier, le, first, second⟩
  · exact lt
  · have few : (awaiting ((run config earlier).through id)).length ≤ 1 :=
      (List.length_filterMap_le ..).trans (alone earlier le)
    obtain ⟨i, hi, rfl⟩ := List.getElem_of_mem first
    obtain ⟨j, hj, rfl⟩ := List.getElem_of_mem second
    obtain rfl : i = j := by omega
    exact absurd lt (lt_irrefl _)

end Runs

/-! ### Emitters that outlive their handler -/

variable {config : ExecutorConfig} {moves : List Move} {r : Run}

/-- An emission through an emitter whose handler has returned has not got past the first
check. -/
lemma called_of_isPast (there : (run config moves).now.runs[id]? = some r)
    (returned : r.stage.isPast = true) {f : Flight} (under : f ∈ (run config moves).flights)
    (own : f.id = id) : f.phase = .called := by
  have among := (sound_inTurn config moves id).present r there
  have idle : f.phase.holds = false := by
    refine Bool.eq_false_iff.mpr fun holds => ?_
    have handling := among.held f (List.mem_filter.mpr ⟨under, by simpa using own⟩) holds
    simp [Stage.not_isHandling_of_isPast returned] at handling
  have unanswered := unanswered_run config moves under
  cases phase : f.phase <;> simp_all [Emission.Phase.holds, Emission.Phase.answer?]

/-- It is refused with its next step, and nothing else changes. -/
lemma step_of_isPast (there : (run config moves).now.runs[id]? = some r)
    (returned : r.stage.isPast = true) {i : ℕ} {f : Flight}
    (under : (run config moves).flights[i]? = some f) (own : f.id = id) :
    (run config moves).next (.step i)
      = { run config moves with flights := (run config moves).flights.eraseIdx i } := by
  subst own
  have called := called_of_isPast there returned (List.mem_of_getElem? under) rfl
  have closed := ((sound_inTurn config moves f.id).present r there).order.closed returned
  have asleep : f.resume r (some .closed) = r := by
    rw [Flight.resume]
    split
    · next active => simp [active, Stage.isPast] at returned
    · rfl
  have same : (run config moves).now.setRun f.id r = (run config moves).now := by
    rw [Engine.setRun, set_of_getElem? there]
  simp [next, under, there, advance, called, Run.emitStep, closed, Emission.Phase.answer?,
    Flight.land, asleep, same]

/-- The last event of an invocation does not wait for emissions. -/
lemma next_of_delivering {t : Parallel} {last : Event} {giveUp : ℕ} {e : Engine}
    (there : t.now.runs[id]? = some r) (delivering : r.stage = .delivering last giveUp)
    (advances : t.now.advance id = some e) : (t.next (.act (.advance id))).now = e := by
  have silent : t.now.call? (.advance id) = none :=
    Engine.call?_of_other there (by simp [delivering])
  have free : t.holdsUp (.advance id) = false := by simp [holdsUp, there, delivering]
  simp [next, Engine.act, advances, silent, free]

/-- An emitter whose handler has returned, among the emissions under way: it refuses
everything, and it does not keep the stream open. -/
structure Spent (t : Parallel) (id : ℕ) (r : Run) : Prop where
  /-- The first check answers every emission. -/
  refuses : ∀ x maxEvents capacity cancelled,
    r.emitStep maxEvents capacity cancelled x .called = (r, .answered (some .closed))
  /-- An emission that has set out before is refused with its next step. -/
  late : ∀ i f, t.flights[i]? = some f → f.id = id →
    f.phase = .called ∧ t.next (.step i) = { t with flights := t.flights.eraseIdx i }
  /-- So is an emission at once. -/
  atOnce : ∀ x, t.now.publish id r x = (t.now, r, some .closed)
  /-- The same through an emitter that the handler has laid aside. -/
  aside : ∀ name x, t.now.shared.find? (fun s => s.1 = name) = some (name, id) →
    t.now.emitShared name x = some (t.now, some .closed)
  /-- A reader that has taken everything gets the last event, and then the end. -/
  last : ∀ last giveUp, r.stage = .delivering last giveUp → r.reading = true → r.queue = [] →
    let e := (t.next (.act (.advance id))).now
    (e.take id).1 = .event last ∧ ((e.take id).2.take id).1 = .ended
  /-- If that event does not come any more, it gets the end. -/
  ended : r.stage = .finished → r.queue = [] → (t.now.take id).1 = .ended

lemma spent_of_isPast (there : (run config moves).now.runs[id]? = some r)
    (returned : r.stage.isPast = true) : (run config moves).Spent id r := by
  have order := ((sound_inTurn config moves id).present r there).order
  have refused : ∀ x, (run config moves).now.publish id r x = ((run config moves).now, r,
      some .closed) := publish_of_isPast order there returned
  refine ⟨?_, ?_, refused, ?_, ?_, ?_⟩
  · intro x maxEvents capacity cancelled
    simp [Run.emitStep, order.closed returned]
  · intro i f under own
    exact ⟨called_of_isPast there returned (List.mem_of_getElem? under) own,
      step_of_isPast there returned under own⟩
  · intro name x aside
    simp [Engine.emitShared, aside, there, refused]
  · intro last giveUp delivering reading empty
    obtain ⟨e, advances, gets, ends⟩ := take_of_delivering there delivering reading empty
    rw [next_of_delivering there delivering advances]
    exact ⟨gets, ends⟩
  · intro finished empty
    simp [Engine.take, there, empty, Run.isFinished, finished]

/-- **What a reader gets is the beginning of a whole stream, and nobody adds to it after the
end.** At any time, whatever the handlers, their callers, the readers and all who have got
hold of an emitter have done, on however many threads:

* the events that the reader of an invocation has got are the beginning of a single error, or
  of a start, numbered pieces and one end or error. No number comes twice, and a number comes
  before a smaller one only if both were under way at the same time;
* if emissions are made one at a time, the numbers increase;
* once the reader has got to the end it never gets anything else;
* an emitter whose handler has returned is spent, whoever keeps it. -/
theorem stream_well_formed (config : ExecutorConfig) (moves : List Move) (id : ℕ) :
    let t := run config moves
    (∃ full, Complete (InTurn config moves id) full ∧ received id t.past <+: full)
    ∧ (OneAtATime config moves id → ∃ full, Complete (· < ·) full ∧ received id t.past <+: full)
    ∧ (readings id t.past).Pairwise (fun earlier later => earlier = .ended → later = .ended)
    ∧ ∀ r, t.now.runs[id]? = some r → r.stage.isPast = true → t.Spent id r := by
  intro t
  have sound := sound_inTurn config moves id
  have incipient : Incipient (InTurn config moves id) (received id t.past) := by
    cases there : t.now.runs[id]? with
    | none =>
        rw [received, (sound.absent there).1]
        exact Incipient.nil
    | some r => exact (sound.present r there).order.incipient
  refine ⟨incipient, fun alone => incipient.imp fun k l => lt_of_inTurn config moves id alone,
    ?_, fun r there returned => spent_of_isPast there returned⟩
  cases there : t.now.runs[id]? with
  | none =>
      rw [(sound.absent there).1]
      exact .nil
  | some r => exact (sound.present r there).final.forever

/-- A handler that gives its emitter to another task and then emits something itself: both
take a number, the other task's emission is queued first, and the reader takes all. -/
def overtaking : List Move :=
  let handler : Handler :=
    fun _ => .share "emitter" (.emit (.data .null) fun _ => .done (.ok .null))
  [.act (.submit "tool" "request" (.object []) (.named "caller") handler),
    .act (.advance 0), .act (.advance 0), .emit 0, .call 0 (.data .null),
    .step 0, .step 0, .step 0, .step 0, .step 1, .step 1, .step 1, .step 1, .step 1, .step 0,
    .act (.take 0), .act (.take 0), .act (.take 0)]

/-- **A number may be read before a smaller one.** -/
theorem numbers_overtaken :
    numbers (received 0 (run {} overtaking).past) = [2, 1]
    ∧ ¬ ∃ full, Complete (· < ·) full ∧ received 0 (run {} overtaking).past <+: full := by
  have read : numbers (received 0 (run {} overtaking).past) = [2, 1] := rfl
  refine ⟨read, fun increasing => ?_⟩
  have order := Incipient.pairwise_numbers increasing
  rw [read] at order
  simp at order

end Parallel

end ToolServer.Execution
