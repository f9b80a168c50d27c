/-
Emissions that nobody reads:

* `droppedBy`, `droppedBy_run`: the calls of an emitter add to the count of lost events what
  finds no room, and nothing else;
* `length_queue`: what waits for a reader that has read nothing;
* `heard`, `answersUnread`: the calls that find the emitter open, and what they are answered;
* `unread_run`: these are the answers, whatever else happens in between.

The start of an invocation waits in the queue before all else, so there is room for one
emission less than the queue holds. An emission that is refused leaves everything as it is, so
from the first refusal on all answers are the same.
-/
import ToolServer.Proofs.Execution.Delivery

namespace ToolServer.Execution

/-! ### Losses of an emitter -/

/-- How much the calls of the emitter of an invocation have added to the count of lost events. -/
def droppedBy (id : ℕ) (past : List (Engine × Action)) : ℕ :=
  (past.map fun m =>
    if (m.1.attempt? m.2 id).isSome then
      (m.1.after m.2).counters.dropped - m.1.counters.dropped
    else 0).sum

/-- A call of an emitter loses an event exactly if it finds no room. -/
lemma Engine.losses_of_attempt {e : Engine} {a : Action} {id : ℕ} {c : Attempt}
    (call : e.attempt? a id = some c) :
    e.losses a = if c.answer = some .channelFull then 1 else 0 := by
  obtain ⟨⟨i, c'⟩, calls, own⟩ := Option.bind_eq_some_iff.mp call
  obtain rfl : c' = c := by
    split_ifs at own
    exact Option.some.inj own
  have going : e.abandons a = false := by
    cases a with
    | advance j =>
        simp only [call?] at calls
        split at calls
        · next r there =>
            split at calls
            · next x next active => exact abandons_of_other there (by simp [active])
            · cases calls
        · cases calls
    | branch | submit | expire | cancel | take | drop | emit | wait | meddle => rfl
  simp [losses, overflows, calls, going]

/-- **The calls of an emitter are counted as lost exactly if they find no room.** -/
lemma droppedBy_run (config : ExecutorConfig) (acts : List Action) (id : ℕ) :
    droppedBy id (Timeline.run (.new config) acts).past
      = (attempts id (Timeline.run (.new config) acts).past).countP
        (·.answer = some .channelFull) := by
  refine Timeline.run_induct (P := fun t => droppedBy id t.past
    = (attempts id t.past).countP (·.answer = some .channelFull)) rfl ?_ acts
  intro t a e' ih happens
  have grows := (Engine.act_step happens).counts_losses
  have after : t.now.after a = e' := by rw [Engine.after, happens]; rfl
  rw [droppedBy, List.map_append, List.sum_append, ← droppedBy, ih, attempts_concat,
    List.countP_append]
  cases call : t.now.attempt? a id with
  | none => simp [call]
  | some c =>
      rw [Engine.losses_of_attempt call] at grows
      simp [call, after, grows]

/-! ### What they are answered -/

/-- The calls of an emitter that find it open. -/
def heard (calls : List Attempt) : List Attempt :=
  calls.filter (·.answer ≠ some .closed)

/-- The calls with some other answer are among those. -/
lemma countP_heard (calls : List Attempt) {answer : Option EmitError}
    (unclosed : answer ≠ some .closed) :
    ((heard calls).map Attempt.answer).countP (· = answer)
      = calls.countP (·.answer = answer) := by
  rw [List.countP_map, heard, List.countP_filter]
  refine List.countP_congr fun c _ => ?_
  simp only [Function.comp_apply, decide_eq_true_eq, Bool.and_eq_true]
  exact ⟨And.left, fun same => ⟨same, same ▸ unclosed⟩⟩

/-- What some emissions in a row are answered if nobody reads, the queue having room for some
number of them. -/
def answersUnread (maxEvents room n : ℕ) : List (Option EmitError) :=
  List.replicate (min n (min maxEvents room)) none
    ++ List.replicate (n - min maxEvents room)
      (some (if maxEvents ≤ room then .limitExceeded maxEvents else .channelFull))

lemma answersUnread_zero (maxEvents room : ℕ) : answersUnread maxEvents room 0 = [] := by
  simp [answersUnread]

/-- One more emission is answered by what was accepted before. -/
lemma answersUnread_succ (maxEvents room n : ℕ) :
    answersUnread maxEvents room (n + 1) = answersUnread maxEvents room n
      ++ [if n < min maxEvents room then none
        else some (if maxEvents ≤ room then .limitExceeded maxEvents else .channelFull)] := by
  rw [answersUnread, answersUnread]
  by_cases early : n < min maxEvents room
  · have none_left : n + 1 - min maxEvents room = 0 ∧ n - min maxEvents room = 0 := by omega
    rw [if_pos early, none_left.1, none_left.2, Nat.min_eq_left early, Nat.min_eq_left early.le,
      List.replicate_succ']
    simp
  · have all : min maxEvents room ≤ n := not_lt.mp early
    rw [if_neg early, Nat.min_eq_right all, Nat.min_eq_right (all.trans (Nat.le_succ n)),
      Nat.succ_sub all, List.replicate_succ', List.append_assoc]

/-- How many of the emissions are accepted. -/
lemma countP_answersUnread (maxEvents room n : ℕ) :
    (answersUnread maxEvents room n).countP (· = none) = min n (min maxEvents room) := by
  simp [answersUnread, List.countP_replicate]

/-- How many of the emissions find no room. -/
lemma countP_full_answersUnread (maxEvents room n : ℕ) :
    (answersUnread maxEvents room n).countP (· = some .channelFull)
      = if maxEvents ≤ room then 0 else n - room := by
  by_cases scarce : maxEvents ≤ room
  · simp [answersUnread, List.countP_replicate, scarce]
  · have least : min maxEvents room = room := Nat.min_eq_right (not_le.mp scarce).le
    simp [answersUnread, List.countP_replicate, scarce, least]

/-- What waits for a reader that has read nothing: the start, and all that was accepted. -/
lemma Run.Orderly.length_queue {r : Run} {maxEvents : ℕ} {calls : List Attempt}
    (h : r.Orderly []) (account : r.Accounted maxEvents [] calls)
    (handling : r.stage.isHandling = true) (reading : r.reading = true) :
    r.queue.length = r.delivered + 1 := by
  have opening := (Stage.fits_of_isHandling handling).mp (h.fits reading)
  obtain ⟨tool, requestId, args, ps, queue, ns, numbers, -⟩ := opening
  rw [List.nil_append] at queue
  have all : pieces r.queue = ps := by
    rw [queue, pieces, List.filter_cons_of_neg (by simp [Event.sequence?]), List.filter_eq_self]
    intro e he
    have numbered : e.sequence? ∈ ns.map some := numbers ▸ List.mem_map_of_mem he
    obtain ⟨n, -, eq⟩ := List.mem_map.mp numbered
    rw [← eq]
    rfl
  have lengths := congrArg List.length (account.queued reading)
  rw [List.nil_append, all, List.length_map, List.length_map, ← List.countP_eq_length_filter]
    at lengths
  rw [queue, List.length_cons, lengths, account.delivered]

/-- What an emission is answered while nobody has read anything. -/
lemma Run.publish_unread {r : Run} (maxEvents capacity : ℕ) (x : Emission)
    (emitting : r.emitting = true) (reading : r.reading = true)
    (length : r.queue.length = r.delivered + 1) :
    (r.publish maxEvents capacity false x).2
      = if maxEvents ≤ r.delivered then some (.limitExceeded maxEvents)
        else if capacity - 1 ≤ r.delivered then some .channelFull else none := by
  have full : capacity ≤ r.queue.length ↔ capacity - 1 ≤ r.delivered := by omega
  simp only [publish_eq, emitting, reading, full]
  split_ifs <;> simp_all

/-- An open emitter does not say that it is closed. -/
lemma Run.publish_ne_closed {r : Run} (emitting : r.emitting = true) (maxEvents capacity : ℕ)
    (cancelled : Bool) (x : Emission) :
    (r.publish maxEvents capacity cancelled x).2 ≠ some .closed := by
  simp only [publish_eq, emitting]
  split_ifs <;> simp_all

/-! ### Emissions in a row -/

/-- What is not cancelled has not been so before. -/
lemma Engine.wanted_before {e e' : Engine} {a : Action} {s : Token} (happens : e.act a = some e')
    (wanted : e'.isCancelled s = false) : e.isCancelled s = false := by
  refine Bool.eq_false_iff.mpr fun cancelled => ?_
  rw [isCancelled, Token.isCancelled_mono (act_step happens).fired cancelled] at wanted
  cases wanted

/-- A call that finds the emitter open is answered by what was accepted before. -/
lemma Run.Accounted.answer_unread {config : ExecutorConfig} {calls : List Attempt} {r : Run}
    (account : r.Accounted config.maxEvents [] calls) (orderly : r.Orderly [])
    (reading : r.reading = true) (emitting : r.emitting = true) (x : Emission)
    (answers : (heard calls).map Attempt.answer
      = answersUnread config.maxEvents (config.capacity - 1) (heard calls).length) :
    (r.publish config.maxEvents config.capacity false x).2
      = if (heard calls).length < min config.maxEvents (config.capacity - 1) then none
        else some (if config.maxEvents ≤ config.capacity - 1 then
          .limitExceeded config.maxEvents else .channelFull) := by
  have handling : r.stage.isHandling = true := orderly.emitting ▸ emitting
  have accepted : r.delivered
      = min (heard calls).length (min config.maxEvents (config.capacity - 1)) := by
    rw [account.delivered, ← countP_answersUnread, ← answers, countP_heard calls (by simp)]
  rw [publish_unread _ _ x emitting reading (orderly.length_queue account handling reading),
    accepted]
  generalize (heard calls).length = n, config.capacity - 1 = room, config.maxEvents = limit
  split_ifs <;> first | rfl | omega

/-- **The emissions of an invocation whose reader has read nothing**, and which has not been
cancelled: the first ones are accepted, up to the limit of events or to the last free place in
the queue, and all others are refused for the one of these that is met first. -/
theorem unread_run (config : ExecutorConfig) (acts : List Action) {id : ℕ} {r : Run}
    (there : (Timeline.run (.new config) acts).now.runs[id]? = some r) (reading : r.reading = true)
    (unread : received id (Timeline.run (.new config) acts).past = [])
    (wanted : (Timeline.run (.new config) acts).now.isCancelled r.scope = false) :
    let calls := heard (attempts id (Timeline.run (.new config) acts).past)
    calls.map Attempt.answer
      = answersUnread config.maxEvents (config.capacity - 1) calls.length := by
  revert r unread
  refine Timeline.run_invariant (P := fun t => ∀ {r : Run}, t.now.runs[id]? = some r →
    r.reading = true → received id t.past = [] → t.now.isCancelled r.scope = false →
      (heard (attempts id t.past)).map Attempt.answer = answersUnread config.maxEvents
        (config.capacity - 1) (heard (attempts id t.past)).length) (by simp [Engine.new]) ?_ acts
  intro acts a e' ih happens r' there' reading' unread' wanted'
  rw [attempts_concat]
  cases there : (Timeline.run (.new config) acts).now.runs[id]? with
  | none =>
      rw [attempts_of_absent acts there, Engine.attempt?_of_absent happens there]
      exact (answersUnread_zero _ _).symm
  | some r =>
      -- what is asked of the invocation now has held before
      rw [received_concat] at unread'
      have unread := (List.append_eq_nil_iff.mp unread').1
      obtain ⟨q, atPlace, going⟩ := Engine.act_continues happens there
      obtain rfl := Option.some.inj (atPlace.symm.trans there')
      rw [going.scope] at wanted'
      have wanted := Engine.wanted_before happens wanted'
      have reading : r.reading = true := by
        obtain ⟨q, atPlace, ⟨rfl, -⟩ | change⟩ := Engine.act_run happens there
        · obtain rfl := Option.some.inj (atPlace.symm.trans there')
          exact reading'
        · obtain rfl := Option.some.inj (atPlace.symm.trans there')
          exact (change.seen_prefix [] reading').1
      have answers := ih there reading unread wanted
      have orderly := orderly_run config acts there
      have account := accounted_run config acts there
      rw [unread] at orderly account
      obtain ⟨q, -, -, ⟨-, -, silent⟩ | move⟩ := Engine.act_move happens there
      · rw [silent, Option.toList_none, List.append_nil]
        exact answers
      · generalize (Timeline.run (.new config) acts).now.attempt? a id = call,
          (Timeline.run (.new config) acts).now.reading? a id = seen at move
        cases move with
        | changed =>
            rw [Option.toList_none, List.append_nil]
            exact answers
        | called x =>
            have answer : ((Timeline.run (.new config) acts).now.attempt r x).answer
                = (r.publish config.maxEvents config.capacity false x).2 := by
              have limits := config_run config acts
              rw [← wanted]
              show (r.publish (Timeline.run (.new config) acts).now.config.maxEvents
                (Timeline.run (.new config) acts).now.config.capacity _ x).2 = _
              rw [limits]
            rw [heard, Option.toList_some, List.filter_append, ← heard]
            cases emitting : r.emitting with
            | false =>
                rw [Run.publish_of_closed emitting] at answer
                simpa [answer] using answers
            | true =>
                rw [account.answer_unread orderly reading emitting x answers] at answer
                have open_ : ((Timeline.run (.new config) acts).now.attempt r x).answer
                    ≠ some .closed := by
                  rw [answer]
                  split_ifs <;> simp
                rw [List.filter_cons_of_pos (by simpa using open_), List.filter_nil,
                  List.map_append, answers, List.length_append, List.length_singleton,
                  answersUnread_succ, List.map_singleton, answer]

end ToolServer.Execution
