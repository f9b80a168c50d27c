/-
The counts of a server that other things go through at the same time:

* `Traffic.reached`, `hits`, `misses`, `starts`, `streams`: what has been noted, by the
  numbers of the calls;
* `Booked`, `Step.booked`: what has been noted of one call goes together;
* `Traffic.Counted`, `counted_run`: the counts of the executor and of the store are
  those of the notes;
* `traffic_adds_up`: the invocations are those of calls whose results are not kept, of
  look-ups that failed and of streams; the look-ups are those of the calls whose results
  may be kept; and what has been stored are the results of those that ended well.

The notes say which step a call has taken; that they agree with what executor and store
have counted is what is proved.
-/
import ToolServer.Proofs.Server.Storage

namespace ToolServer

open ToolServer.Cache (Backend)

/-! ### What has been noted -/

namespace Occurrence

/-- The number of the call that has come to a tool whose results may be kept, or may not. -/
def reached? (cacheable : Bool) : Occurrence → Option ℕ
  | .reached i tool => if tool.caching.cacheable = cacheable then some i else none
  | _ => none

/-- The number of the call whose look-up has found a result. -/
def hit? : Occurrence → Option ℕ
  | .hit i _ => some i
  | _ => none

/-- The number of the call whose look-up has found none. -/
def missed? : Occurrence → Option ℕ
  | .missed i => some i
  | _ => none

/-- The number of the call whose invocation has been started. -/
def started? : Occurrence → Option ℕ
  | .started i => some i
  | _ => none

/-- The number of the call that something is noted of, unless it goes without saying. -/
def call? : Occurrence → Option ℕ
  | .reached i _ | .hit i _ | .missed i | .started i => some i
  | .stored _ | .streamed | .emptied => none

/-- Where a call comes to its tool, this is noted of the call. -/
lemma call?_of_reached {cacheable : Bool} {o : Occurrence} {i : ℕ}
    (h : o.reached? cacheable = some i) : o.call? = some i := by
  cases o with
  | reached j tool =>
      rw [reached?] at h
      split_ifs at h
      exact h
  | hit | missed | started | stored | streamed | emptied => cases h

/-- Whether a stream has been accepted. -/
def isStreamed : Occurrence → Bool
  | .streamed => true
  | _ => false

/-- Whether a result has been stored. -/
def isStored : Occurrence → Bool
  | .stored _ => true
  | _ => false

end Occurrence

namespace Traffic

variable (t : Traffic)

/-- The calls that have come to a tool whose results may be kept, or may not. -/
def reached (cacheable : Bool) : List ℕ :=
  t.log.filterMap (Occurrence.reached? cacheable)

/-- The calls whose look-ups have found a result. -/
def hits : List ℕ :=
  t.log.filterMap Occurrence.hit?

/-- The calls whose look-ups have found none. -/
def misses : List ℕ :=
  t.log.filterMap Occurrence.missed?

/-- The calls whose invocations have been started. -/
def starts : List ℕ :=
  t.log.filterMap Occurrence.started?

/-- The number of streams that have been accepted. -/
def streams : ℕ :=
  t.log.countP Occurrence.isStreamed

end Traffic

/-! ### One call -/

namespace Conversation

/-- Whether a call stands between a look-up and the start of its invocation. -/
def isMissed (c : Conversation) : Bool :=
  match c.progress with
  | .missed => true
  | _ => false

/-- Whether a call has been answered by an invocation of its own. -/
def hasReturned (c : Conversation) : Bool :=
  match c.progress with
  | .answered _ (.run _) _ => true
  | _ => false

/-- Whether the last event of a call's invocation says that it ended well. -/
def endedWell (c : Conversation) : Bool :=
  c.events.getLast?.any fun e => decide (e.kind = .done)

/-- Whether a result of a call has been stored. -/
def hasDeposited (c : Conversation) : Bool :=
  c.tool.caching.cacheable &&
    match c.progress with
    | .answered _ (.run _) (.ok _) => true
    | _ => false

end Conversation

/-- How often something has been noted of a call. -/
def tally (f : Occurrence → Option ℕ) (i : ℕ) (log : List Occurrence) : ℕ :=
  (log.filterMap f).count i

lemma tally_cons (f : Occurrence → Option ℕ) (i : ℕ) (o : Occurrence) (log : List Occurrence) :
    tally f i (o :: log) = tally f i log + if f o = some i then 1 else 0 := by
  rw [tally, List.filterMap_cons]
  cases noted : f o with
  | none => simp [tally]
  | some j => by_cases same : j = i <;> simp [tally, same]

/-- What is noted of no call does not count. -/
lemma tally_append {f : Occurrence → Option ℕ} {i : ℕ} {notes : List Occurrence}
    (other : ∀ o ∈ notes, f o ≠ some i) (log : List Occurrence) :
    tally f i (notes ++ log) = tally f i log := by
  induction notes with
  | nil => rfl
  | cons o notes ih =>
      rw [List.cons_append, tally_cons, if_neg (other o List.mem_cons_self), Nat.add_zero]
      exact ih fun x hx => other x (List.mem_cons_of_mem _ hx)

/-- Whether what has been noted of a call goes together with how far it has come: it comes
to its tool once, and then it is looked up or its invocation is started, which is started
after a look-up as well if that has found nothing. -/
structure Booked (log : List Occurrence) (i : ℕ) (c : Option Conversation) : Prop where
  once : tally (Occurrence.reached? true) i log + tally (Occurrence.reached? false) i log ≤ 1
  fresh : (∀ d ∈ c, d.progress = .asked) →
    tally (Occurrence.reached? true) i log = 0 ∧ tally (Occurrence.reached? false) i log = 0
  looked : tally Occurrence.hit? i log + tally Occurrence.missed? i log
    = tally (Occurrence.reached? true) i log
  begun : tally Occurrence.started? i log + (if c.any Conversation.isMissed then 1 else 0)
    = tally Occurrence.missed? i log + tally (Occurrence.reached? false) i log

namespace Booked

open Occurrence Conversation

variable {log notes : List Occurrence} {i j : ℕ} {c c' : Conversation} {d d' : Option Conversation}
  {s s' : Server Backend}

/-- Nothing is noted of a call that comes neither to its tool nor to its invocation. -/
lemma keep (h : Booked log i d) (notes : List Occurrence) (other : ∀ o ∈ notes, o.call? ≠ some i)
    (missed : d'.any isMissed = d.any isMissed)
    (asked : (∀ c ∈ d', c.progress = .asked) → ∀ c ∈ d, c.progress = .asked) :
    Booked (notes ++ log) i d' := by
  have same : ∀ f, (∀ o, f o = some i → o.call? = some i) →
      tally f i (notes ++ log) = tally f i log := fun f told =>
    tally_append (fun o ho noted => other o ho (told o noted)) log
  have reached : ∀ b, tally (reached? b) i (notes ++ log) = tally (reached? b) i log := by
    exact fun b => same _ fun o => call?_of_reached
  have hit := same hit? fun o noted => by cases o <;> first | exact noted | cases noted
  have missed' := same missed? fun o noted => by cases o <;> first | exact noted | cases noted
  have started := same started? fun o noted => by cases o <;> first | exact noted | cases noted
  obtain ⟨once, fresh, looked, begun⟩ := h
  refine ⟨?_, fun all => ?_, ?_, ?_⟩
  · rw [reached, reached]
    exact once
  · rw [reached, reached]
    exact fresh (asked all)
  · rw [reached, hit, missed']
    exact looked
  · rw [reached, started, missed', missed]
    exact begun

/-- What is noted of a step of a call goes together with the step. -/
lemma turn (h : Booked log i (some c)) (turn : c.Turn s i s' c' notes) :
    Booked (notes ++ log) i (some c') := by
  obtain ⟨once, fresh, looked, begun⟩ := id h
  cases turn with
  | found asked cacheable | missed asked cacheable =>
      obtain ⟨none, none'⟩ := fresh (by simpa using asked)
      rw [Option.any_some, isMissed, asked] at begun
      constructor <;>
        simp [tally_cons, reached?, hit?, missed?, started?, isMissed, cacheable] <;> omega
  | launched asked plain =>
      obtain ⟨none, none'⟩ := fresh (by simpa using asked)
      rw [Option.any_some, isMissed, asked] at begun
      constructor <;>
        simp [tally_cons, reached?, hit?, missed?, started?, isMissed, plain] <;> omega
  | worked missed =>
      rw [Option.any_some, isMissed, missed, if_pos rfl] at begun
      constructor <;>
        simp [tally_cons, reached?, hit?, missed?, started?, isMissed] <;> omega
  | followed underWay keep goes =>
      rcases goes with rfl | ⟨result, rfl⟩ <;>
        exact h.keep [] (by simp) (by simp [isMissed, underWay]) (by simp)
  | stored ended | returned ended =>
      exact h.keep _ (by simp [call?]) (by simp [isMissed, ended]) (by simp)

/-- A look-up that found a result has led to no invocation. -/
lemma started_of_hit (h : Booked log i d) (hit : 0 < tally hit? i log) :
    tally started? i log = 0 := by
  obtain ⟨once, -, looked, begun⟩ := h
  omega

/-- One that found nothing has led to one. -/
lemma started_of_missed (h : Booked log i d) (rest : d.any isMissed = false)
    (missed : 0 < tally missed? i log) : tally started? i log = 1 := by
  obtain ⟨once, -, looked, begun⟩ := h
  rw [rest, if_neg Bool.false_ne_true] at begun
  omega

end Booked

/-- What is noted of a step of a call is noted of this call. -/
lemma Conversation.Turn.call?_eq {s s' : Server Backend} {c c' : Conversation} {i j : ℕ}
    {notes : List Occurrence} (turn : c.Turn s i s' c' notes) :
    ∀ o ∈ notes, o.call? = some j → j = i := by
  cases turn <;> simp [Occurrence.call?, eq_comm]

namespace Traffic

variable {t t' : Traffic}

/-- **What has been noted of each call goes together with how far it has come.** -/
lemma Step.booked (step : t.Step t') (h : ∀ i, Booked t.log i t.calls[i]?) (i : ℕ) :
    Booked t'.log i t'.calls[i]? := by
  cases step with
  | idle | executed | passed | swept => exact h i
  | streamed accepted => exact (h i).keep [.streamed] (by simp [Occurrence.call?]) rfl id
  | emptied => exact (h i).keep [.emptied] (by simp [Occurrence.call?]) rfl id
  | asked wellFormed asked =>
      obtain ⟨tool, args, checked, rfl⟩ := Router.ask_added asked
      rcases lt_or_ge i t.calls.length with old | new
      · show Booked _ i (t.calls ++ [_])[i]?
        rw [List.getElem?_append_left old]
        exact h i
      · have absent : t.calls[i]? = none := List.getElem?_eq_none_iff.mpr new
        refine (h i).keep [] (by simp) ?_ (by simp [absent])
        show (t.calls ++ [_])[i]?.any _ = _
        rw [List.getElem?_append_right new, absent]
        cases i - t.calls.length <;> rfl
  | @turned k c c' s notes there change turn =>
      by_cases same : i = k
      · subst same
        have hi := (List.getElem?_eq_some_iff.mp there).1
        show Booked _ i (t.calls.set i c')[i]?
        rw [List.getElem?_set_self hi]
        exact Booked.turn (there ▸ h i) turn
      · refine (h i).keep notes (fun o ho told => same (turn.call?_eq o ho told)) ?_ ?_ <;>
          simp only [calls, List.getElem?_set_ne (Ne.symm same)]
        exact id
  | @left k c engine there waiting change =>
      by_cases same : i = k
      · subst same
        have hi := (List.getElem?_eq_some_iff.mp there).1
        have waits : c.isMissed = false := by
          rcases waiting with asked | ⟨call, underWay⟩
          · rw [Conversation.isMissed, asked]
          · rw [Conversation.isMissed, underWay]
        show Booked _ i (t.calls.set i { c with progress := .abandoned })[i]?
        rw [List.getElem?_set_self hi]
        refine Booked.keep (there ▸ h i) [] (by simp) ?_ (by simp)
        rw [Option.any_some, Option.any_some, waits]
        rfl
      · refine (h i).keep [] (by simp) ?_ ?_ <;>
          simp only [calls, List.getElem?_set_ne (Ne.symm same)]
        exact id

end Traffic

/-! ### The counts of the executor and of the store -/

/-- A step of a call is a submission exactly if an invocation is noted. -/
lemma Conversation.Turn.total {s s' : Server Backend} {c c' : Conversation} {i : ℕ}
    {notes : List Occurrence} (turn : c.Turn s i s' c' notes) :
    s'.engine.counters.total
      = s.engine.counters.total + (notes.filterMap Occurrence.started?).length := by
  cases turn with
  | found | missed | launched | worked => rfl
  | followed underWay keep goes counters => exact congrArg Execution.Counters.total counters
  | @stored call v | @returned call v =>
      have same : ∀ result, (s.keepResult call result).engine = s.engine := by
        intro result
        rw [Server.keepResult.eq_def]
        split
        · split <;> rfl
        · rfl
      rw [same]
      rfl

/-- Exactly the results that are stored are noted. -/
lemma Conversation.Turn.countP_isStored {s s' : Server Backend} {c c' : Conversation} {i : ℕ}
    {notes : List Occurrence} (turn : c.Turn s i s' c' notes) :
    notes.countP Occurrence.isStored = if c'.hasDeposited then 1 else 0 := by
  cases turn with
  | found | missed | launched | worked => simp [Occurrence.isStored, hasDeposited]
  | followed underWay keep goes => rcases goes with rfl | ⟨result, rfl⟩ <;> simp [hasDeposited]
  | stored ended cacheable => simp [Occurrence.isStored, hasDeposited, cacheable]
  | returned ended barren =>
      rcases barren with plain | ⟨e, rfl⟩
      · simp [hasDeposited, plain]
      · simp [hasDeposited]

/-- What a change of one entry does to a count. -/
lemma countP_set {α : Type} {p : α → Bool} {l : List α} {i : ℕ} {x : α} (y : α)
    (h : l[i]? = some x) :
    (l.set i y).countP p + (if p x then 1 else 0) = l.countP p + if p y then 1 else 0 := by
  have there : (l.map p)[i]? = some (p x) := by rw [List.getElem?_map, h]; rfl
  have counted := Execution.count_set (y := p y) true there
  simpa only [← List.map_set, List.count_eq_countP, List.countP_map, Function.comp_def,
    beq_true] using counted

/-- **The store counts what is noted.** -/
lemma StoreStep.counters {s : Server Backend} {store store' : Cache.Store}
    {notes : List Occurrence} {now : ℕ} (step : StoreStep s store notes now store') :
    store'.counters.hits = store.counters.hits + (notes.filterMap Occurrence.hit?).length ∧
    store'.counters.misses = store.counters.misses + (notes.filterMap Occurrence.missed?).length ∧
    store'.counters.sets = store.counters.sets + notes.countP Occurrence.isStored := by
  cases step with
  | quiet le silent =>
      have none : notes.filterMap Occurrence.hit? = [] ∧ notes.filterMap Occurrence.missed? = [] ∧
          notes.countP Occurrence.isStored = 0 := by
        refine ⟨List.filterMap_eq_nil_iff.mpr fun o ho => ?_,
          List.filterMap_eq_nil_iff.mpr fun o ho => ?_, List.countP_eq_zero.mpr fun o ho => ?_⟩ <;>
          · have := silent o ho
            cases o <;> first | rfl | exact Bool.false_ne_true | exact this.elim
      rw [none.1, none.2.1, none.2.2]
      exact ⟨rfl, rfl, rfl⟩
  | found found =>
      rw [Cache.Store.get_counters_of_ok found]
      exact ⟨rfl, rfl, rfl⟩
  | missed failed =>
      obtain ⟨evictions, counters⟩ := Cache.Store.get_counters_of_error failed
      rw [counters]
      exact ⟨rfl, rfl, rfl⟩
  | @stored d time =>
      obtain ⟨evictions, counters⟩ := store.set_counters s.now d.key
        (Text.bytesOf d.result.text) (s.ttlOf d.tool)
      rw [counters]
      exact ⟨rfl, rfl, rfl⟩
  | swept | emptied => exact ⟨rfl, rfl, rfl⟩

namespace Traffic

variable {t t' : Traffic}

/-- The executor counts an invocation for each that is noted of a call, and one for each
stream. -/
lemma Step.total (step : t.Step t')
    (h : t.server.engine.counters.total = t.starts.length + t.streams) :
    t'.server.engine.counters.total = t'.starts.length + t'.streams := by
  cases step with
  | idle | passed | swept | emptied => exact h
  | left there waiting change counters => exact (congrArg Execution.Counters.total counters).trans h
  | executed later total => exact total.trans h
  | asked wellFormed asked =>
      obtain ⟨tool, args, checked, rfl⟩ := Router.ask_added asked
      exact h
  | streamed accepted =>
      obtain ⟨engine, rfl, -, total⟩ := Server.stream_ok accepted
      calc engine.counters.total = t.server.engine.counters.total + 1 := total
        _ = t.starts.length + (t.streams + 1) := by rw [h, Nat.add_assoc]
        _ = t.starts.length + (Occurrence.streamed :: t.log).countP Occurrence.isStreamed := by
            rw [List.countP_cons_of_pos rfl, streams]
  | @turned i c c' s notes there change turn =>
      have none : notes.countP Occurrence.isStreamed = 0 := by
        cases turn <;> simp [Occurrence.isStreamed]
      have counted := turn.total
      simp only [starts, streams, List.filterMap_append, List.length_append, List.countP_append]
        at h ⊢
      rw [none, counted]
      omega

/-- What has been stored are the results that calls have returned from invocations of their
own. -/
lemma Step.deposited (step : t.Step t')
    (h : t.log.countP Occurrence.isStored = t.calls.countP Conversation.hasDeposited) :
    t'.log.countP Occurrence.isStored = t'.calls.countP Conversation.hasDeposited := by
  have waits : ∀ {c : Conversation}, ¬ c.IsAnswered → c.hasDeposited = false := by
    intro c waiting
    rw [Conversation.hasDeposited, Bool.and_eq_false_iff]
    refine .inr ?_
    split
    · next answered => exact absurd ⟨_, _, _, answered⟩ waiting
    · rfl
  cases step with
  | idle | executed | passed | swept => exact h
  | streamed | emptied => simpa [Occurrence.isStored, setCache] using h
  | asked wellFormed asked =>
      obtain ⟨tool, args, checked, rfl⟩ := Router.ask_added asked
      have new : ∀ tool args caller,
          (Conversation.new tool args caller).hasDeposited = false := fun _ _ _ =>
        waits (by simp [Conversation.new, Conversation.IsAnswered])
      simpa [new, calls] using h
  | @turned i c c' s notes there change turn =>
      have changed := countP_set (p := Conversation.hasDeposited) c' there
      rw [waits change.waiting] at changed
      rw [if_neg Bool.false_ne_true] at changed
      show (notes ++ t.log).countP _ = (t.calls.set i c').countP _
      rw [List.countP_append, h, turn.countP_isStored]
      omega
  | @left i c engine there waiting change =>
      have changed := countP_set (p := Conversation.hasDeposited) { c with progress := .abandoned }
        there
      rw [waits change.waiting, waits (by simp [Conversation.IsAnswered])] at changed
      exact h.trans changed.symm

/-- Whether what has been counted is what has been noted. -/
structure Counted (t : Traffic) (store : Cache.Store) : Prop where
  booked : ∀ i, Booked t.log i t.calls[i]?
  total : t.server.engine.counters.total = t.starts.length + t.streams
  hits : store.counters.hits = t.hits.length
  misses : store.counters.misses = t.misses.length
  sets : store.counters.sets = t.log.countP Occurrence.isStored
  deposited : t.log.countP Occurrence.isStored = t.calls.countP Conversation.hasDeposited

/-- **No action breaks the balance.** -/
lemma Counted.step {w : Cache.Swept} (h : t.Counted w.store) (regular : t.Regular)
    (cache : t.server.cache = .memory w) (step : t.Step t') :
    ∃ w', t'.server.cache = .memory w' ∧ t'.Counted w'.store := by
  obtain ⟨w', notes, cache', log, stored⟩ := step.store regular cache
  obtain ⟨hits, misses, sets⟩ := stored.counters
  refine ⟨w', cache', step.booked h.booked, step.total h.total, ?_, ?_, ?_,
    step.deposited h.deposited⟩
  · rw [hits, h.hits, Traffic.hits, Traffic.hits, log, List.filterMap_append, List.length_append,
      Nat.add_comm]
  · rw [misses, h.misses, Traffic.misses, Traffic.misses, log, List.filterMap_append,
      List.length_append, Nat.add_comm]
  · rw [sets, h.sets, log, List.countP_append, Nat.add_comm]

/-- **At any time what has been counted is what has been noted.** -/
theorem counted_run {s : Server Backend} {w : Cache.Swept} {maxEntries defaultTtl : ℕ}
    (cache : s.cache = .memory w) (fresh : w.store = .new maxEntries defaultTtl)
    (idle : s.engine.counters.total = 0) (acts : List Action) :
    let t := run ⟨⟨s, []⟩, []⟩ acts
    t.Regular ∧ ∃ w, t.server.cache = .memory w ∧ t.Counted w.store := by
  have empty : s.cache.entries = [] := by rw [cache, Backend.entries, fresh]; rfl
  refine run_induct (P := fun t => t.Regular ∧ ∃ w, t.server.cache = .memory w ∧ t.Counted w.store)
    ?_ acts ⟨regular_start empty, w, cache, ?_⟩
  · rintro t a t' ⟨regular, w, cache, counted⟩ act
    have step := step_of_act act
    exact ⟨regular.step step, counted.step regular cache step⟩
  · refine ⟨fun i => ⟨Nat.zero_le _, fun _ => ⟨rfl, rfl⟩, rfl, rfl⟩, idle, ?_, ?_, ?_, rfl⟩ <;>
      rw [fresh] <;> rfl

end Traffic

/-! ### The balance -/

/-- Events that come to a result end well, those that come to an error do not. -/
lemma ComesTo.endedWell {c : Conversation} {result : Except RpcError Json}
    (h : ComesTo c.events result) : c.endedWell = result.toOption.isSome := by
  rw [Conversation.endedWell]
  cases h with
  | done events => rw [events, List.getLast?_concat]; rfl
  | failed events => rw [events, List.getLast?_concat]; rfl
  | cut going =>
      cases last : c.events.getLast? with
      | none => rfl
      | some e =>
          have goes := going e (List.mem_of_getLast? last)
          cases e with
          | start | data | progress => rfl
          | done | error => cases goes

/-- What has been stored are the results of invocations that ended well, of calls that have
returned. -/
lemma Conversation.Sound.hasDeposited {t : Router} {c : Conversation} (h : c.Sound t) :
    c.hasDeposited = (c.tool.caching.cacheable && c.hasReturned && c.endedWell) := by
  have fits := h.fits
  rw [Conversation.hasDeposited, Bool.and_assoc]
  congr 1
  cases progress : c.progress with
  | asked | missed | underWay | ended | abandoned => simp [hasReturned, progress]
  | answered time source result =>
      cases source with
      | store => simp [hasReturned, progress]
      | run id =>
          rw [progress] at fits
          rw [fits.2.2.endedWell, hasReturned, progress]
          cases result <;> rfl

/-- A call whose result may not be kept leaves the store alone. -/
lemma Conversation.Turn.cache_of_plain {s s' : Server Backend} {c c' : Conversation} {i : ℕ}
    {notes : List Occurrence} (turn : c.Turn s i s' c' notes) (settles : c.Settles s)
    (plain : c.tool.caching.cacheable = false) (unasked : c.progress ≠ .missed) :
    s'.cache = s.cache := by
  cases turn with
  | found asked cacheable | missed asked cacheable | stored ended cacheable =>
      exact absurd (plain.symm.trans cacheable) Bool.false_ne_true
  | launched | followed => rfl
  | worked missed => exact absurd missed unasked
  | @returned call result ended =>
      have keep : call.keep = none := by
        rw [settles call (.inr ⟨_, ended⟩), plain, if_neg Bool.false_ne_true]
      cases result with
      | ok v => rw [Server.keepResult, keep]
      | error e => rfl

namespace Traffic

variable {t : Traffic} {store : Cache.Store}

/-- The next step of a call whose result may not be kept leaves the store alone. -/
lemma Regular.cache_of_plain (h : t.Regular) {i : ℕ} {c : Conversation}
    (there : t.calls[i]? = some c) (plain : c.tool.caching.cacheable = false) :
    (t.next (.advance i)).server.cache = t.server.cache := by
  have hc := List.mem_of_getElem? there
  simp only [next, act, there]
  cases moved : c.advance t.server with
  | none => rfl
  | some pair =>
      obtain ⟨s', c'⟩ := pair
      refine (Conversation.turn_of_advance (i := i) moved).cache_of_plain (h.settles c hc) plain ?_
      intro missed
      have fits := (h.sound.calls c hc).fits
      rw [missed] at fits
      exact Bool.false_ne_true (plain.symm.trans fits.2)

/-- So does a stream. -/
lemma cache_of_stream (t : Traffic) (tool : String) (args : Json) (requestId : String)
    (caller : Execution.Token) :
    (t.next (.stream tool args requestId caller)).server.cache = t.server.cache := by
  simp only [next, act]
  cases accepted : t.server.stream tool args requestId caller with
  | error e => rfl
  | ok pair =>
      obtain ⟨id, s'⟩ := pair
      obtain ⟨engine, rfl, -⟩ := Server.stream_ok accepted
      rfl

/-- Each call is looked up once if it has come to a tool whose results may be kept. -/
lemma Counted.looked (h : t.Counted store) : (t.hits ++ t.misses).Perm (t.reached true) := by
  refine List.perm_iff_count.mpr fun i => ?_
  rw [List.count_append]
  exact (h.booked i).looked

/-- No call comes to its tool twice. -/
lemma Counted.once (h : t.Counted store) : (t.reached true ++ t.reached false).Nodup := by
  refine List.nodup_iff_count_le_one.mpr fun i => ?_
  rw [List.count_append]
  exact (h.booked i).once

/-- At rest no call stands between a look-up and the start of its invocation. -/
lemma any_isMissed (rest : ∀ c ∈ t.calls, c.progress ≠ .missed) (i : ℕ) :
    (t.calls[i]?).any Conversation.isMissed = false := by
  cases there : t.calls[i]? with
  | none => rfl
  | some c =>
      have other := rest c (List.mem_of_getElem? there)
      rw [Option.any_some, Conversation.isMissed]
      split
      · next missed => exact absurd missed other
      · rfl

/-- The invocations are those of the calls whose results are not kept, and of those whose
look-ups have found nothing. -/
lemma Counted.begun (h : t.Counted store) (rest : ∀ c ∈ t.calls, c.progress ≠ .missed) :
    t.starts.Perm (t.misses ++ t.reached false) := by
  refine List.perm_iff_count.mpr fun i => ?_
  have begun := (h.booked i).begun
  rw [any_isMissed rest] at begun
  rw [List.count_append]
  exact begun

end Traffic

/-- **The counts of the executor and of the store stay in step.** Let a server with a new
store and a new executor take messages of any kind, streams, steps of its calls, and
whatever happens in the executor and to the clock, in any order. At any time:

* no call comes to its tool twice, and the look-ups that the store counts are those of the
  calls that have come to a tool whose results may be kept;
* if no call stands between a look-up and the start of its invocation, the invocations
  that the executor counts are those of the calls that have come to a tool whose results may
  not be kept, of the look-ups that found nothing, and of the streams; and each look-up
  that found nothing has led to one invocation;
* a look-up that found a result has led to none;
* the results that the store has been given are those of the calls of tools whose results
  may be kept that have returned from an invocation that ended well, and every entry is
  such a result;
* a call whose result may not be kept and a stream leave the store as it is. -/
theorem traffic_adds_up (s : Server Backend) {w : Cache.Swept} {maxEntries defaultTtl : ℕ}
    (cache : s.cache = .memory w) (fresh : w.store = .new maxEntries defaultTtl)
    (idle : s.engine.counters.total = 0) (acts : List Traffic.Action) :
    let t := Traffic.run ⟨⟨s, []⟩, []⟩ acts
    ∃ w, t.server.cache = .memory w ∧
      ((t.reached true ++ t.reached false).Nodup ∧
        w.store.counters.hits = t.hits.length ∧ w.store.counters.misses = t.misses.length ∧
        w.store.counters.hits + w.store.counters.misses = (t.reached true).length)
      ∧ ((∀ c ∈ t.calls, c.progress ≠ .missed) →
          t.server.engine.counters.total
            = (t.reached false).length + w.store.counters.misses + t.streams
          ∧ ∀ i ∈ t.misses, t.starts.count i = 1)
      ∧ (∀ i ∈ t.hits, i ∉ t.starts)
      ∧ w.store.counters.sets
          = t.calls.countP (fun c => c.tool.caching.cacheable && c.hasReturned && c.endedWell)
      ∧ (∀ e ∈ w.store.entries, ∃ c ∈ t.calls, ∃ v, c.tool.caching.cacheable = true ∧
          c.hasReturned = true ∧ ComesTo c.events (.ok v) ∧ e.key = c.key ∧
          e.value = Text.bytesOf v.text)
      ∧ (∀ i c, t.calls[i]? = some c → c.tool.caching.cacheable = false →
          (t.next (.advance i)).server.cache = t.server.cache)
      ∧ ∀ tool args requestId caller,
          (t.next (.stream tool args requestId caller)).server.cache = t.server.cache := by
  intro t
  obtain ⟨regular, w, cache, counted⟩ := Traffic.counted_run cache fresh idle acts
  have looked : w.store.counters.hits + w.store.counters.misses = (t.reached true).length := by
    rw [counted.hits, counted.misses, ← List.length_append]
    exact counted.looked.length_eq
  have deposited : t.calls.countP Conversation.hasDeposited
      = t.calls.countP fun c => c.tool.caching.cacheable && c.hasReturned && c.endedWell :=
    List.countP_congr fun c hc => by rw [(regular.sound.calls c hc).hasDeposited]
  refine ⟨w, cache, ⟨counted.once, counted.hits, counted.misses, looked⟩, fun rest => ⟨?_, ?_⟩, ?_,
    ?_, ?_, fun i c there plain => regular.cache_of_plain there plain, t.cache_of_stream⟩
  · calc t.server.engine.counters.total = t.starts.length + t.streams := counted.total
      _ = (t.misses.length + (t.reached false).length) + t.streams := by
          rw [(counted.begun rest).length_eq, List.length_append]
      _ = (t.reached false).length + w.store.counters.misses + t.streams := by
          rw [counted.misses, Nat.add_comm t.misses.length]
  · intro i hi
    exact (counted.booked i).started_of_missed (Traffic.any_isMissed rest i)
      (List.count_pos_iff.mpr hi)
  · intro i hi started
    have none := (counted.booked i).started_of_hit (List.count_pos_iff.mpr hi)
    exact absurd (List.count_pos_iff.mpr started) (Nat.not_lt_of_le none.le)
  · rw [counted.sets, counted.deposited, deposited]
  · intro e he
    obtain ⟨c, hc, time, id, v, cacheable, answered, key, value, -⟩ :=
      regular.sound.entries e (by rw [cache]; exact he)
    have fits := (regular.sound.calls c hc).fits
    rw [answered] at fits
    exact ⟨c, hc, v, cacheable, by rw [Conversation.hasReturned, answered], fits.2.2, key, value⟩

theorem traffic_adds_up_constant :
    (∀ c ∈ constantTraffic.calls, c.progress ≠ .missed) ∧
      ∃ w, constantTraffic.server.cache = .memory w ∧
        constantTraffic.server.engine.counters.total
          = (constantTraffic.reached false).length + w.store.counters.misses
            + constantTraffic.streams ∧
        constantTraffic.server.engine.counters.total = 1 ∧ w.store.counters.sets = 1 := by
  obtain ⟨events, calls⟩ := constantTraffic_calls
  have rest : ∀ c ∈ constantTraffic.calls, c.progress ≠ .missed := by
    intro c hc
    rw [calls] at hc
    rw [List.mem_singleton.mp hc]
    simp [constantKept]
  obtain ⟨w, cache, -, total, -, sets, -⟩ :=
    traffic_adds_up constantServer rfl rfl rfl constantActions
  exact ⟨rest, w, cache, (total rest).1, rfl, sets⟩

end ToolServer
