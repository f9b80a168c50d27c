/-
What calls are answered with:

* `Router.ResultOf`: an invocation of the tool of a call, with arguments that are the same, has
  come to a result, as the events say that were taken of it up to its end;
* `answers_are_results`: what is answered is the result of such an invocation, one that is not
  out of date.

An answer from the store is the result of an earlier call, which has read its own invocation.
-/
import ToolServer.Proofs.Server.Attendance

namespace ToolServer

open ToolServer.Cache (Backend)
open ToolServer.Execution (ReadToEnd)

namespace Router

variable {s : Server Backend} {acts : List Action}

/-- A call that an invocation has answered has read it to the end. -/
lemma readToEnd_of_answered (empty : s.cache.entries = []) {d : Conversation}
    (hd : d ∈ (run ⟨s, []⟩ acts).calls) {time id : ℕ} {result : Except RpcError Json}
    (answered : d.progress = .answered time (.run id) result) {config : ExecutorConfig}
    (new : s.engine = .new config) (unshared : Unshared id acts) :
    ReadToEnd config id (chronicle ⟨s, []⟩ acts) d.events := by
  have attends := (attended_run new empty acts unshared).attends d hd (by rw [answered]; rfl)
  rwa [Conversation.Attends.eq_def, answered] at attends

/-- Whether a result is what an invocation has come to that worked for a call `d`: an invocation
of the tool of the call `c`, with arguments that are the same. The events that it came to are
those that were taken of it up to its end, if the executor was new and nobody else has read it. -/
structure ResultOf (s : Server Backend) (acts : List Action) (c d : Conversation) (id : ℕ)
    (result : Except RpcError Json) : Prop where
  tool : d.tool = c.tool
  args : d.args.Same c.args
  work : d.WorkedOnBy (run ⟨s, []⟩ acts).server.engine id
  comes : ComesTo d.events result
  read : ∀ config, s.engine = .new config → Unshared id acts →
    ReadToEnd config id (chronicle ⟨s, []⟩ acts) d.events

end Router

/-- **Every answer is the result of an invocation.** Let a server with an empty
store take any actions, and let no two of its calls have keys that collide.

* A result that is answered to a call is what an invocation of the same tool, with
  arguments that are the same, came to when it ended well: by the events that were
  taken of it.
* If the answer is from the store, that result was kept and answered earlier, and
  its time is not over: it was kept for the life that the tool's results have,
  but for no more than thirty years.
* If it is not, then the invocation is the call's own. So it is with an error,
  which is never from the store. -/
theorem answers_are_results (s : Server Backend) (empty : s.cache.entries = [])
    (acts : List Router.Action) (separate : (Router.run ⟨s, []⟩ acts).Separate) :
    let t := Router.run ⟨s, []⟩ acts
    ∀ c ∈ t.calls, ∀ time source result, c.progress = .answered time source result →
      (∀ v, result = .ok v → ∃ d ∈ t.calls, ∃ id, Router.ResultOf s acts c d id (.ok v) ∧
        (∀ own, source = .run own → d = c ∧ id = own) ∧
        (source = .store → ∃ stored, d.progress = .answered stored (.run id) (.ok v) ∧
          stored ≤ time ∧ time < stored + min (s.lifeOf c.tool) Duration.farFuture))
      ∧ ∀ e, result = .error e → ∃ own, source = .run own ∧
          Router.ResultOf s acts c c own (.error e) := by
  intro t c hc time source result answered
  have sound : t.Sound := Router.sound_run empty acts
  have fits := (sound.calls c hc).fits
  rw [answered] at fits
  cases source with
  | run own =>
      obtain ⟨-, work, outcome⟩ := fits
      have same : c.args.Same c.args :=
        (Json.same_iff (sound.calls c hc).wellFormed (sound.calls c hc).wellFormed).mpr rfl
      have itself : Router.ResultOf s acts c c own result :=
        ⟨rfl, same, work, outcome, fun _ => Router.readToEnd_of_answered empty hc answered⟩
      refine ⟨?_, fun e he => ⟨own, rfl, he ▸ itself⟩⟩
      intro v hv
      exact ⟨c, hc, own, hv ▸ itself, fun _ eq => ⟨rfl, Source.run.inj eq⟩, fun eq => nomatch eq⟩
  | store =>
      obtain ⟨cacheable, d, hd, stored, id, v, rfl, cacheable', given, key, le, lt⟩ := fits
      refine ⟨?_, fun e he => nomatch he⟩
      intro v' hv
      obtain rfl := Except.ok.inj hv
      obtain ⟨tool, same⟩ := sound.same_call separate hc hd cacheable cacheable' key
      have fits := (sound.calls d hd).fits
      rw [given] at fits
      obtain ⟨-, work, outcome⟩ := fits
      have life : t.server.lifeOf d.tool = s.lifeOf c.tool := by
        calc t.server.lifeOf d.tool = t.server.lifeOf c.tool := by rw [tool]
          _ = s.lifeOf c.tool := (Router.run_later ⟨s, []⟩ acts).lifeOf c.tool
      have other : Router.ResultOf s acts c d id (.ok v) :=
        ⟨tool, same, work, outcome, fun _ => Router.readToEnd_of_answered empty hd given⟩
      exact ⟨d, hd, id, other, (fun _ eq => nomatch eq), fun _ => ⟨stored, given, le, life ▸ lt⟩⟩

/-- A call of the constant tool is carried out, and there is another one later. -/
def constantActs : List Router.Action :=
  [askConstant, .advance 0, .advance 0, .execute (.advance 0), .execute (.advance 0),
    .execute (.advance 0), .advance 0, .advance 0, .advance 0, .pass 1, askConstant]

/-- What they come to. -/
def constantAsked : Router :=
  Router.run ⟨constantServer, []⟩ constantActs

/-- The entry of the first call in the store. -/
def constantEntry : Cache.Entry :=
  .new (Cache.keyOf "constant" (.object [])) (Text.bytesOf constantResult.text) 0
    (Duration.secs 1)

/-- The second call, answered from the store. -/
def constantAgain : Conversation :=
  { Conversation.new constantTool (.object []) (.named "") with
    progress := .answered 1 .store (.ok constantResult) }

lemma constantAsked_calls : ∃ events, constantAsked.calls
    = [constantKept events, .new constantTool (.object []) (.named "")] :=
  ⟨_, rfl⟩

lemma constantAsked_found :
    (constantAsked.server.lookUp constantTool (.object [])).2 = some constantResult := by
  have cache : constantAsked.server.cache = .memory
      { store :=
          { capacity := 1, defaultTtl := Duration.secs 1, entries := [constantEntry],
            counters := { misses := 1, sets := 1 } },
        interval := 0 } := rfl
  refine Server.lookUp_of_alive cache (e := constantEntry) ?_ ?_ (read_callResult .null)
  · exact List.find?_cons_of_pos (decide_eq_true rfl)
  · decide

lemma constantAsked_next : ∃ events, (constantAsked.next (.advance 1)).calls
    = [constantKept events, constantAgain] := by
  obtain ⟨events, calls⟩ := constantAsked_calls
  refine ⟨events, ?_⟩
  have looked := Conversation.lookUp_of_found (c := .new constantTool (.object []) (.named ""))
    constantAsked_found
  have advanced : (Conversation.new constantTool (.object []) (.named "")).advance
      constantAsked.server = some _ := congrArg some looked
  simp only [Router.next, Router.act, Router.step, calls, List.getElem?_cons_succ,
    List.getElem?_cons_zero, advanced]
  rfl

theorem answers_are_results_kept :
    let t := Router.run constantAsked [.advance 1]
    t.Separate ∧ ∃ c ∈ t.calls, c.progress = .answered 1 .store (.ok constantResult) ∧
      ∃ d ∈ t.calls, ∃ id, d.args.Same c.args ∧ ComesTo d.events (.ok constantResult) ∧
        ReadToEnd {} id (Router.chronicle ⟨constantServer, []⟩ (constantActs ++ [.advance 1]))
          d.events ∧
        ∃ stored, stored ≤ 1 ∧ 1 < stored + min (constantServer.lifeOf c.tool) Duration.farFuture := by
  intro t
  obtain ⟨events, calls⟩ := constantAsked_next
  have ht : t = Router.run ⟨constantServer, []⟩ (constantActs ++ [.advance 1]) :=
    (List.foldl_append (f := Router.next) (b := ⟨constantServer, []⟩)).symm
  have same : ∀ c ∈ t.calls, c.tool.name = "constant" ∧ c.args = .object [] := by
    intro c hc
    rw [show t.calls = _ from calls] at hc
    simp only [List.mem_cons, List.not_mem_nil, or_false] at hc
    rcases hc with rfl | rfl <;> exact ⟨rfl, rfl⟩
  have separate : t.Separate := by
    intro c hc d hd _ _ _
    rw [(same c hc).1, (same c hc).2, (same d hd).1, (same d hd).2]
  have there : constantAgain ∈ t.calls := by
    rw [show t.calls = _ from calls]
    exact List.mem_cons_of_mem _ List.mem_cons_self
  obtain ⟨d, hd, id, stems, -, store⟩ :=
    (answers_are_results constantServer rfl _ (ht ▸ separate) constantAgain (ht ▸ there) 1 .store _
      rfl).1 _ rfl
  obtain ⟨stored, -, le, lt⟩ := store rfl
  have unshared : Router.Unshared id (constantActs ++ [.advance 1]) := by
    intro a there
    obtain rfl : a = .advance 0 := by simpa [constantActs, askConstant] using there
    simp
  exact ⟨separate, _, there, rfl, d, ht ▸ hd, id, stems.args, stems.comes,
    stems.read {} rfl unshared, stored, le, lt⟩

end ToolServer
