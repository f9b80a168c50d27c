/-
The slots of an executor:

* `Standing`: where an invocation stands as far as slots are concerned;
* `Engine.holders`, `Engine.available`, `Engine.asking`: who has a slot, how many
  slots nobody has, and who has asked for one;
* `Engine.Balanced`: the invariant. Every slot is accounted for, who has asked is
  in line once, and no slot is free while somebody is in line;
* `Step.balanced`, `balanced_run`: no step breaks the invariant, so that it holds
  at any time;
* `Run.Barred`: an invocation that never gets a slot any more.

A slot that has been given to an invocation in line is not free, and is in use
only from the next step of that invocation on.
-/
import ToolServer.Proofs.Execution.History

namespace ToolServer.Execution

/-! ### Standings -/

/-- Where an invocation stands as far as slots are concerned. -/
inductive Standing
  /-- It has not asked for a slot. -/
  | outside
  /-- It has asked for a slot and stands in line. -/
  | inLine
  /-- It has a slot. -/
  | inside
  /-- It needs no slot any more. -/
  | over
  deriving DecidableEq

/-- Where an invocation at some stage stands. -/
def Stage.standing : Stage → Standing
  | .arriving => .outside
  | .waiting => .inLine
  | .active _ | .asleep .. | .delivering .. => .inside
  | .finished => .over

lemma Stage.standing_of_isHandling {s : Stage} (h : s.isHandling = true) :
    s.standing = .inside := by
  cases s <;> first | rfl | cases h

lemma Stage.standing_of_isEntering {s : Stage} (h : s.isEntering = true) :
    s.standing = .outside ∨ s.standing = .inLine := by
  cases s <;> first | exact .inl rfl | exact .inr rfl | cases h

lemma Run.holdsSlot_eq (r : Run) : r.holdsSlot = decide (r.stage.standing = .inside) := by
  rw [holdsSlot]
  cases r.stage <;> rfl

namespace Engine

/-- Where all invocations stand. -/
def standings (e : Engine) : List Standing :=
  e.runs.map fun r => r.stage.standing

/-- The number of invocations that have a slot. -/
def holders (e : Engine) : ℕ :=
  e.runs.countP Run.holdsSlot

/-- The number of handlers that are at work. -/
def handlers (e : Engine) : ℕ :=
  e.runs.countP fun r => r.stage.isHandling

/-- The number of slots that nobody uses: the free ones, and those that have been
given to somebody in line. -/
def available (e : Engine) : ℕ :=
  e.free + e.granted.length

/-- The invocations that have asked for a slot, those first that have been given one. -/
def asking (e : Engine) : List ℕ :=
  e.granted ++ e.line

/-- Whether an invocation has a slot. -/
def holds (e : Engine) (id : ℕ) : Bool :=
  e.runs[id]?.any Run.holdsSlot

section Fields

variable (e : Engine) (id : ℕ) (r : Run)

@[simp] lemma setRun_standings :
    (e.setRun id r).standings = e.standings.set id r.stage.standing := by
  simp [standings, List.map_set]

@[simp] lemma countUp_standings (f : Counters → Counters) :
    (e.countUp f).standings = e.standings := rfl

@[simp] lemma fire_standings (t : Token) : (e.fire t).standings = e.standings := rfl

@[simp] lemma release_standings : e.release.standings = e.standings := by
  simp [standings]

@[simp] lemma leaveLine_standings : (e.leaveLine id).standings = e.standings := by
  simp [standings]

end Fields

lemma holders_eq (e : Engine) : e.holders = e.standings.count .inside := by
  rw [holders, standings, List.count, List.countP_map]
  exact List.countP_congr fun r _ => by simp [Run.holdsSlot_eq]

lemma holds_eq (e : Engine) (id : ℕ) :
    e.holds id = decide (e.standings[id]? = some .inside) := by
  rw [holds, standings, List.getElem?_map]
  cases e.runs[id]? with
  | none => rfl
  | some r => simp [Run.holdsSlot_eq]

lemma handlers_le (e : Engine) : e.handlers ≤ e.holders := by
  refine List.countP_mono_left fun r _ handling => ?_
  rw [Run.holdsSlot_eq, Stage.standing_of_isHandling handling]
  rfl

lemma standings_of_there {e : Engine} {id : ℕ} {r : Run} (there : e.runs[id]? = some r) :
    e.standings[id]? = some r.stage.standing := by
  simp [standings, there]

/-- An invocation that stands where it stood changes no standings. -/
lemma standings_set_self {e : Engine} {id : ℕ} {r : Run} {s : Stage}
    (there : e.runs[id]? = some r) (same : s.standing = r.stage.standing) :
    e.standings.set id s.standing = e.standings := by
  rw [same, set_of_getElem? (standings_of_there there)]

end Engine

namespace Engine

/-! ### The balance -/

/-- An executor whose slots are all accounted for. -/
structure Balanced (e : Engine) : Prop where
  /-- Every slot is available or in use. -/
  slots : e.available + e.standings.count .inside = e.config.slots
  /-- Nobody asks twice. -/
  once : e.asking.Nodup
  /-- Those who ask are those who stand in line. -/
  inLine : ∀ id, id ∈ e.asking ↔ e.standings[id]? = some .inLine
  /-- No slot is free while somebody is in line without one. -/
  eager : 0 < e.free → e.line = []

/-- What touches neither slots nor standings keeps the balance. -/
lemma Balanced.congr {e e' : Engine} (h : e.Balanced) (config : e'.config = e.config)
    (free : e'.free = e.free) (granted : e'.granted = e.granted) (line : e'.line = e.line)
    (standings : e'.standings = e.standings) : e'.Balanced := by
  refine ⟨?_, ?_, ?_, ?_⟩
  · rw [available, free, granted, standings, config]
    exact h.slots
  · rw [asking, granted, line]
    exact h.once
  · rw [asking, granted, line, standings]
    exact h.inLine
  · rw [free, line]
    exact h.eager

lemma balanced_new (config : ExecutorConfig) : (new config).Balanced :=
  ⟨rfl, .nil, fun id => by simp [asking, new, standings], fun _ => rfl⟩

/-! ### Giving slots back -/

section Release

variable (e : Engine)

/-- A slot that is given back is available, be it to the first in line. -/
@[simp] lemma release_available : e.release.available = e.available + 1 := by
  rw [release]
  split <;> simp [available] <;> omega

/-- Who has been given the slot still asks for it. -/
@[simp] lemma release_asking : e.release.asking = e.asking := by
  rw [release]
  split
  · rfl
  · next id rest line => simp [asking, line]

/-- A slot goes to the free ones only if nobody is in line. -/
lemma release_eager (h : 0 < e.free → e.line = []) : 0 < e.release.free → e.release.line = [] := by
  rw [release]
  split
  · next empty => exact fun _ => empty
  · next id rest line =>
      intro (free : 0 < e.free)
      rw [h free] at line
      cases line

variable {e} {id : ℕ}

/-- Who leaves the line asks no more. -/
lemma leaveLine_asking (once : e.asking.Nodup) :
    (e.leaveLine id).asking = e.asking.erase id := by
  simp only [leaveLine]
  split_ifs with granted
  · have unlisted : id ∉ e.line := (List.nodup_append'.mp once).2.2 granted
    rw [release_asking, asking, asking, List.erase_append_left _ granted]
    simp only [List.erase_of_not_mem unlisted]
  · rw [asking, asking, List.erase_append_right _ granted]

/-- Who leaves the line takes no slot along, even if one has just been given to it. -/
lemma leaveLine_available : (e.leaveLine id).available = e.available := by
  simp only [leaveLine]
  split_ifs with granted
  · rw [release_available]
    simp only [available, List.length_erase_of_mem granted]
    have some : 0 < e.granted.length := List.length_pos_of_mem granted
    omega
  · rfl

lemma leaveLine_eager (h : 0 < e.free → e.line = []) :
    0 < (e.leaveLine id).free → (e.leaveLine id).line = [] := by
  have erased : 0 < e.free → e.line.erase id = [] := fun free => by rw [h free, List.erase_nil]
  simp only [leaveLine]
  split_ifs
  · exact release_eager _ erased
  · exact erased

end Release

/-! ### Steps -/

section Steps

variable {e : Engine} {id : ℕ} {r : Run}

/-- One invocation comes to stand elsewhere: the balance is kept if a slot becomes
available when it leaves one and is used when it gets one, and if it asks exactly
when it then stands in line. -/
lemma Balanced.set {e' : Engine} {s t : Standing} (h : e.Balanced)
    (there : e.standings[id]? = some s) (config : e'.config = e.config)
    (standings : e'.standings = e.standings.set id t)
    (slots : e'.available + (if t = .inside then 1 else 0)
      = e.available + if s = .inside then 1 else 0)
    (once : e'.asking.Nodup)
    (asks : ∀ i, i ∈ e'.asking ↔ i = id ∧ t = .inLine ∨ i ≠ id ∧ i ∈ e.asking)
    (eager : 0 < e'.free → e'.line = []) : e'.Balanced := by
  refine ⟨?_, once, ?_, eager⟩
  · have count := count_set (y := t) .inside there
    have before := h.slots
    rw [standings, config]
    omega
  · intro i
    have hid : id < e.standings.length := (List.getElem?_eq_some_iff.mp there).1
    rw [asks, standings]
    by_cases hi : i = id
    · subst hi
      simp [hid]
    · simp [hi, List.getElem?_set_ne (Ne.symm hi), h.inLine i]

/-- Who asks no more is not in line. -/
lemma mem_erase_asking (h : e.Balanced) {s : Standing} (elsewhere : s ≠ .inLine) (i : ℕ) :
    i ∈ e.asking.erase id ↔ i = id ∧ s = .inLine ∨ i ≠ id ∧ i ∈ e.asking := by
  rw [h.once.mem_erase_iff]
  simp [elsewhere]

/-- Who never asked is not in line either. -/
lemma mem_asking_of_not_mem (unasked : id ∉ e.asking) {s : Standing} (elsewhere : s ≠ .inLine)
    (i : ℕ) : i ∈ e.asking ↔ i = id ∧ s = .inLine ∨ i ≠ id ∧ i ∈ e.asking := by
  have apart : i ∈ e.asking → i ≠ id := by
    rintro listed rfl
    exact unasked listed
  simpa [elsewhere] using apart

lemma Balanced.turnAway (h : e.Balanced) (there : e.runs[id]? = some r)
    (entering : r.stage.isEntering = true) : (e.turnAway id r).Balanced := by
  have outside : r.stage.standing ≠ .inside := by
    rcases Stage.standing_of_isEntering entering with s | s <;> simp [s]
  have available : (e.turnAway id r).available = e.available := leaveLine_available
  have asking : (e.turnAway id r).asking = e.asking.erase id := leaveLine_asking h.once
  refine h.set (t := .over) (standings_of_there there) ?_ ?_ ?_ ?_ ?_ (leaveLine_eager h.eager)
  · simp [Engine.turnAway]
  · simp [Engine.turnAway, Stage.standing]
  · simp [available, outside]
  · exact asking ▸ h.once.erase id
  · exact asking ▸ mem_erase_asking h (by simp)

/-- Who is in line is not inside. -/
lemma Balanced.standing_of_asking (h : e.Balanced) (there : e.runs[id]? = some r)
    (asks : id ∈ e.asking) : r.stage.standing = .inLine :=
  Option.some.inj ((standings_of_there there).symm.trans ((h.inLine id).mp asks))

/-- An invocation gets the slot that it has been given. -/
lemma Balanced.admit (h : e.Balanced) (there : e.runs[id]? = some r)
    (granted : id ∈ e.granted) :
    ({ e with granted := e.granted.erase id }.begin id r).Balanced := by
  have waited := h.standing_of_asking there (List.mem_append_left _ granted)
  have asking : ({ e with granted := e.granted.erase id }.begin id r).asking = e.asking.erase id :=
    (List.erase_append_left _ granted).symm
  refine h.set (t := .inside) (standings_of_there there) rfl ?_ ?_ ?_ ?_ h.eager
  · exact setRun_standings _ _ _
  · have some : 0 < e.granted.length := List.length_pos_of_mem granted
    simp only [waited, available, begin, setRun_free, setRun_granted,
      List.length_erase_of_mem granted, reduceCtorEq, if_true, if_false]
    omega
  · exact asking ▸ h.once.erase id
  · exact asking ▸ mem_erase_asking h (by simp)

/-- An invocation that has not asked before gets a free slot. -/
lemma Balanced.enter (h : e.Balanced) (there : e.runs[id]? = some r)
    (entering : r.stage.isEntering = true) (unasked : id ∉ e.asking) (free : 0 < e.free) :
    ({ e with free := e.free - 1 }.begin id r).Balanced := by
  have outside : r.stage.standing ≠ .inside := by
    rcases Stage.standing_of_isEntering entering with s | s <;> simp [s]
  refine h.set (t := .inside) (standings_of_there there) rfl (setRun_standings _ _ _) ?_ h.once
    (mem_asking_of_not_mem unasked (by simp)) fun _ => h.eager free
  simp only [outside, available, begin, setRun_free, setRun_granted, if_true, if_false]
  omega

/-- An invocation that finds no free slot gets in line. -/
lemma Balanced.queue (h : e.Balanced) (there : e.runs[id]? = some r)
    (entering : r.stage.isEntering = true) (unasked : id ∉ e.asking) (full : e.free = 0) :
    ({ e with line := e.line ++ [id] }.setRun id { r with stage := .waiting }).Balanced := by
  have outside : r.stage.standing ≠ .inside := by
    rcases Stage.standing_of_isEntering entering with s | s <;> simp [s]
  have asking : ({ e with line := e.line ++ [id] }.setRun id { r with stage := .waiting }).asking
      = e.asking ++ [id] := (List.append_assoc ..).symm
  refine h.set (t := .inLine) (standings_of_there there) rfl (setRun_standings _ _ _) ?_ ?_ ?_ ?_
  · simp [outside, available]
  · rw [asking, ← List.concat_eq_append]
    exact h.once.concat unasked
  · intro i
    have apart : i ∈ e.asking → i ≠ id := by
      rintro listed rfl
      exact unasked listed
    rw [asking, List.mem_append, List.mem_singleton]
    tauto
  · intro (free : 0 < e.free)
    omega

/-- An invocation that is over gives its slot back. -/
lemma Balanced.finish (h : e.Balanced) (there : e.runs[id]? = some r)
    (inside : r.stage.standing = .inside) (r' : Run) : (e.finish id r').Balanced := by
  have unasked : id ∉ e.asking := by
    intro asks
    have waited := h.standing_of_asking there asks
    rw [inside] at waited
    cases waited
  have asking : (e.finish id r').asking = e.asking := release_asking _
  refine h.set (t := .over) (standings_of_there there) ?_ ?_ ?_ ?_ ?_ (release_eager _ h.eager)
  · simp [Engine.finish]
  · simp [Engine.finish, Stage.standing]
  · have available : (e.finish id r').available = e.available + 1 := release_available _
    simp [available, inside]
  · exact asking ▸ h.once
  · exact asking ▸ mem_asking_of_not_mem unasked (by simp)

/-- A new invocation has not asked for a slot. -/
lemma Balanced.submit (h : e.Balanced) (tool requestId : String) (args : Json) (caller : Token)
    (handler : Handler) : (e.submit tool requestId args caller handler).2.Balanced := by
  have standings : (e.submit tool requestId args caller handler).2.standings
      = e.standings ++ [.outside] := List.map_append
  refine ⟨?_, h.once, ?_, h.eager⟩
  · rw [standings, List.count_append]
    exact h.slots
  · intro i
    rw [standings]
    refine (h.inLine i).trans ?_
    rcases Nat.lt_trichotomy i e.standings.length with before | rfl | after
    · rw [List.getElem?_append_left before]
    · simp
    · rw [List.getElem?_eq_none after.le, List.getElem?_eq_none (by simpa using after)]

/-- An emission moves nobody. -/
lemma publish_standings (there : e.runs[id]? = some r) (x : Emission) :
    (e.publish id r x).1.standings = e.standings := by
  rw [publish_engine, setRun_standings, countUp_standings]
  exact standings_set_self there (by rw [publish_snd, Run.publish_stage])

/-- **Every step keeps the balance.** -/
theorem Step.balanced {e' : Engine} {a : Action} (step : e.Step a e') (h : e.Balanced) :
    e'.Balanced := by
  cases step with
  | branched | expired | cancelled | waited | meddled | foundNothing =>
      exact h.congr rfl rfl rfl rfl rfl
  | submitted tool requestId args caller handler =>
      exact h.submit tool requestId args caller handler
  | refused there entering => exact h.turnAway there entering
  | admitted there entering wanted granted => exact h.admit there granted
  | begun there entering wanted ungranted unlisted free =>
      exact h.enter there entering (by simp [asking, ungranted, unlisted]) free
  | queued there entering wanted ungranted unlisted full =>
      exact h.queue there entering (by simp [asking, ungranted, unlisted]) full
  | @emitted id r x next there active =>
      refine h.congr (by simp) (by simp) (by simp) (by simp) ?_
      rw [setRun_standings, publish_standings there]
      exact standings_set_self there (by rw [active]; rfl)
  | moved tally shared there follows =>
      obtain ⟨before, after⟩ := follows.isHandling
      refine h.congr rfl rfl rfl rfl ?_
      rw [setRun_standings]
      refine standings_set_self there ?_
      rw [Stage.standing_of_isHandling before, Stage.standing_of_isHandling after]
  | concluded there active =>
      refine h.congr rfl rfl rfl rfl ?_
      rw [conclude, countUp_standings, setRun_standings]
      exact standings_set_self there (by rw [active]; rfl)
  | finished there delivering => exact h.finish there (by rw [delivering]; rfl) _
  | gaveUp there delivering =>
      exact (h.finish there (by rw [delivering]; rfl) _).congr rfl rfl rfl rfl rfl
  | read there => exact h.congr rfl rfl rfl rfl (by simpa using standings_set_self there rfl)
  | dropped there => exact h.congr rfl rfl rfl rfl (by simpa using standings_set_self there rfl)
  | emittedOutside x there =>
      exact h.congr (by simp) (by simp) (by simp) (by simp) (publish_standings there x)

end Steps

end Engine

/-- **At any time all slots are accounted for.** -/
theorem balanced_run (config : ExecutorConfig) (acts : List Action) :
    (Timeline.run (.new config) acts).now.Balanced :=
  Timeline.run_induct (P := fun t => t.now.Balanced) (Engine.balanced_new config)
    (fun _ _ _ ih h => (Engine.act_step h).balanced ih) acts

namespace Engine

/-! ### When all have to wait -/

section Quiet

variable {e : Engine} {id : ℕ} {r : Run}

lemma advanceRun_of_quiet (quiet : e.canStep = false) (there : e.runs[id]? = some r) :
    e.advanceRun id r = none := by
  have hid : id < e.runs.length := (List.getElem?_eq_some_iff.mp there).1
  simp only [canStep, List.any_eq_false, List.mem_range] at quiet
  have still : e.expire id = none ∧ e.advance id = none := by
    simpa [canStepAt] using quiet id hid
  simpa [advance, there] using still.2

/-- Who has not got a slot asks for one in its next step. -/
lemma advanceRun_of_entering (entering : r.stage.isEntering = true) :
    e.advanceRun id r = e.askForSlot id r := by
  rw [advanceRun]
  cases stage : r.stage <;> first | rfl | simp [stage, Stage.isEntering] at entering

lemma isEntering_of_standing (inLine : r.stage.standing = .inLine) : r.stage.isEntering = true := by
  cases stage : r.stage <;> first | rfl | simp [stage, Stage.standing] at inLine

lemma Balanced.exists_of_granted (h : e.Balanced) (granted : id ∈ e.granted) :
    ∃ r, e.runs[id]? = some r ∧ r.stage.standing = .inLine := by
  have asks := (h.inLine id).mp (List.mem_append_left _ granted)
  rw [standings, List.getElem?_map] at asks
  exact Option.map_eq_some_iff.mp asks

/-- Who has been given a slot can take a step, so nobody is left with one unused. -/
lemma Balanced.granted_of_quiet (h : e.Balanced) (quiet : e.canStep = false) :
    e.granted = [] := by
  refine List.eq_nil_iff_forall_not_mem.mpr fun id granted => ?_
  obtain ⟨r, there, inLine⟩ := h.exists_of_granted granted
  have stuck := advanceRun_of_quiet quiet there
  rw [advanceRun_of_entering (isEntering_of_standing inLine), askForSlot] at stuck
  split_ifs at stuck

/-- Who is still in line keeps all slots in use. -/
lemma Balanced.free_of_quiet (h : e.Balanced) (quiet : e.canStep = false)
    (there : e.runs[id]? = some r) (entering : r.stage.isEntering = true) : e.free = 0 := by
  have stuck := advanceRun_of_quiet quiet there
  rw [advanceRun_of_entering entering, askForSlot] at stuck
  split_ifs at stuck with cancelled granted listed
  by_contra free
  rw [h.eager (by omega)] at listed
  cases listed

end Quiet

/-! ### Getting a slot and giving it back -/

/-- The executor after an action; one that cannot happen changes nothing. -/
def after (e : Engine) (a : Action) : Engine :=
  (e.act a).getD e

/-- Whether an action gives an invocation its slot. -/
def admits (e : Engine) (a : Action) (id : ℕ) : Bool :=
  !e.holds id && (e.after a).holds id

/-- Whether an action takes the slot of an invocation back. -/
def dismisses (e : Engine) (a : Action) (id : ℕ) : Bool :=
  e.holds id && !(e.after a).holds id

/-- Where an invocation stands; one that has not come yet is outside. -/
def standing (e : Engine) (id : ℕ) : Standing :=
  e.standings[id]?.getD .outside

end Engine

/-- The standings in the order in which an invocation goes through them. -/
def Standing.rank : Standing → ℕ
  | .outside => 0
  | .inLine => 1
  | .inside => 2
  | .over => 3

/-- No change takes an invocation back to where it stood before. -/
lemma Run.Change.rank_le {e : Engine} {r r' : Run} {reading : Option Engine.Reading}
    (change : r.Change e reading r') : r.stage.standing.rank ≤ r'.stage.standing.rank := by
  cases change with
  | refused entering | begun entering | queued entering =>
      cases stage : r.stage <;> simp_all [Stage.isEntering, Stage.standing, Standing.rank]
  | emitted active | concluded active => simp [active, Stage.standing]
  | emittedOutside x => rw [publish_stage]
  | moved follows =>
      obtain ⟨before, after⟩ := follows.isHandling
      simp [Stage.standing_of_isHandling before, Stage.standing_of_isHandling after]
  | finished delivering => simp [delivering, Stage.standing, Standing.rank]
  | read | foundNothing | dropped => exact le_rfl

namespace Engine

lemma holds_eq_standing (e : Engine) (id : ℕ) :
    e.holds id = decide (e.standing id = .inside) := by
  rw [holds_eq, standing]
  cases e.standings[id]? with
  | none => rfl
  | some s => cases s <;> rfl

lemma act_rank {e e' : Engine} {a : Action} (h : e.act a = some e') (id : ℕ) :
    (e.standing id).rank ≤ (e'.standing id).rank := by
  cases there : e.runs[id]? with
  | none => simp [standing, standings, there, Standing.rank]
  | some r =>
      obtain ⟨r', there', ⟨rfl, -⟩ | change⟩ := act_run h there
      · simp [standing, standings, there, there']
      · simpa [standing, standings, there, there'] using change.rank_le

end Engine

/-- How often an invocation has got a slot. -/
def admissions (id : ℕ) (past : List (Engine × Action)) : ℕ :=
  past.countP fun m => m.1.admits m.2 id

/-- How often an invocation has given a slot back. -/
def dismissals (id : ℕ) (past : List (Engine × Action)) : ℕ :=
  past.countP fun m => m.1.dismisses m.2 id

/-- How often an invocation that stands somewhere has got a slot and given it back. -/
def Standing.Fits (admitted dismissed : ℕ) : Standing → Prop
  | .outside | .inLine => admitted = 0 ∧ dismissed = 0
  | .inside => admitted = 1 ∧ dismissed = 0
  | .over => admitted = dismissed ∧ dismissed ≤ 1

lemma Standing.Fits.next {s s' : Standing} {admitted dismissed : ℕ}
    (h : s.Fits admitted dismissed) (le : s.rank ≤ s'.rank) :
    s'.Fits (admitted + if s ≠ .inside ∧ s' = .inside then 1 else 0)
      (dismissed + if s = .inside ∧ s' ≠ .inside then 1 else 0) := by
  cases s <;> cases s' <;> simp_all [Fits, rank]

lemma standing_run (config : ExecutorConfig) (acts : List Action) (id : ℕ) :
    let t := Timeline.run (.new config) acts
    (t.now.standing id).Fits (admissions id t.past) (dismissals id t.past) := by
  refine Timeline.run_induct (e := .new config) (P := fun t =>
    (t.now.standing id).Fits (admissions id t.past) (dismissals id t.past)) ?_ ?_ acts
  · exact ⟨rfl, rfl⟩
  intro t a e' ih h
  have after : t.now.after a = e' := by rw [Engine.after, h, Option.getD_some]
  have admitted : admissions id (t.past ++ [(t.now, a)]) = admissions id t.past +
      if t.now.standing id ≠ .inside ∧ e'.standing id = .inside then 1 else 0 := by
    simp [admissions, Engine.admits, after, Engine.holds_eq_standing]
  have dismissed : dismissals id (t.past ++ [(t.now, a)]) = dismissals id t.past +
      if t.now.standing id = .inside ∧ e'.standing id ≠ .inside then 1 else 0 := by
    simp [dismissals, Engine.dismisses, after, Engine.holds_eq_standing]
  rw [admitted, dismissed]
  exact ih.next (Engine.act_rank h id)

/-- **Nobody gets a slot twice, and every slot comes back once.** Up to any time an
invocation has got a slot at most once, and has given back what it does not hold. -/
theorem admitted_once (config : ExecutorConfig) (acts : List Action) (id : ℕ) :
    let t := Timeline.run (.new config) acts
    admissions id t.past ≤ 1 ∧
      admissions id t.past = dismissals id t.past + if t.now.holds id then 1 else 0 := by
  intro t
  have fits : (t.now.standing id).Fits (admissions id t.past) (dismissals id t.past) :=
    standing_run config acts id
  rw [Engine.holds_eq_standing]
  cases standing : t.now.standing id <;>
  · rw [standing] at fits
    obtain ⟨admitted, dismissed⟩ := fits
    simp only [reduceCtorEq, decide_true, decide_false, if_true, Bool.false_eq_true, if_false]
    omega

/-! ### Invocations that get no slot any more -/

/-- An invocation that is over, or whose caller has cancelled before it had a slot. -/
def Run.Barred (e : Engine) (r : Run) : Prop :=
  r.stage = .finished ∨ r.stage.isEntering = true ∧ e.isCancelled r.caller = true

namespace Engine

/-- What has been fired stays fired. -/
lemma Step.fired {e e' : Engine} {a : Action} (step : e.Step a e') : e.fired ⊆ e'.fired := by
  cases step with
  | refused => simp [turnAway]
  | emitted | emittedOutside => simp
  | finished | gaveUp => simp [finish]
  | expired | cancelled => exact List.subset_cons_self _ _
  | _ => exact List.Subset.refl _

end Engine

/-- An emission leaves an invocation to its caller. -/
lemma Run.publish_caller (maxEvents capacity : ℕ) (cancelled : Bool) (x : Emission) (r : Run) :
    (r.publish maxEvents capacity cancelled x).1.caller = r.caller := by
  obtain ⟨_, _, _, eq⟩ := publish_fst maxEvents capacity cancelled x r
  rw [eq]

/-- Who is over stays over, and who is refused gets no slot. -/
lemma Run.Barred.change {e e' : Engine} {r r' : Run} {reading : Option Engine.Reading}
    (barred : r.Barred e) (change : r.Change e reading r') (more : e.fired ⊆ e'.fired) :
    r'.Barred e' := by
  rcases barred with finished | ⟨entering, cancelled⟩
  · have le := change.rank_le
    rw [finished] at le
    left
    cases stage : r'.stage <;> simp_all [Stage.standing, Standing.rank]
  · have still : e'.isCancelled r.caller = true := Token.isCancelled_mono more cancelled
    cases change with
    | refused => exact .inl rfl
    | begun _ wanted => simp [wanted] at cancelled
    | queued => exact .inr ⟨rfl, still⟩
    | emitted active | concluded active => simp [active, Stage.isEntering] at entering
    | emittedOutside x => exact .inr ⟨by rwa [publish_stage], by rwa [publish_caller]⟩
    | moved follows =>
        have handling := follows.isHandling.1
        simp [Stage.not_isHandling_of_isEntering entering] at handling
    | finished delivering => exact .inl rfl
    | read | foundNothing | dropped => exact .inr ⟨entering, still⟩

/-- **Who is barred never has a slot again.** -/
theorem holds_of_barred {e e' : Engine} {id : ℕ} {r : Run} (there : e.runs[id]? = some r)
    (barred : r.Barred e) (later : e.Reaches e') : e'.holds id = false := by
  obtain ⟨acts, rfl⟩ := later
  have still : ∃ r', (Timeline.run e acts).now.runs[id]? = some r' ∧
      r'.Barred (Timeline.run e acts).now := by
    refine Timeline.run_induct (P := fun t => ∃ r', t.now.runs[id]? = some r' ∧ r'.Barred t.now)
      ⟨r, there, barred⟩ ?_ acts
    rintro t a e' ⟨r, there, barred⟩ h
    have more := (Engine.act_step h).fired
    obtain ⟨r', there', ⟨rfl, -⟩ | change⟩ := Engine.act_run h there
    · exact ⟨r', there', barred.imp_right fun waits =>
        ⟨waits.1, Token.isCancelled_mono more waits.2⟩⟩
    · exact ⟨r', there', barred.change change more⟩
  obtain ⟨r', there', finished | ⟨entering, -⟩⟩ := still
  · simp [Engine.holds, there', Run.holdsSlot, finished]
  · rw [Engine.holds, there', Option.any_some, Run.holdsSlot_eq]
    rcases Stage.standing_of_isEntering entering with s | s <;> simp [s]

namespace Engine

/-- Who is cancelled before it has a slot is over with its next step, leaves the
line, and leaves a slot that it has just been given to the others. -/
lemma Balanced.advance_of_cancelled {e : Engine} (h : e.Balanced) {id : ℕ} {r : Run}
    (there : e.runs[id]? = some r) (entering : r.stage.isEntering = true)
    (cancelled : e.isCancelled r.caller = true) :
    ∃ e' r', e.advance id = some e' ∧ e'.runs[id]? = some r' ∧ r'.stage = .finished ∧
      r'.state = .canceled ∧ e'.available = e.available ∧ id ∉ e'.asking := by
  have hid : id < e.runs.length := (List.getElem?_eq_some_iff.mp there).1
  have asking : (e.turnAway id r).asking = e.asking.erase id := leaveLine_asking h.once
  refine ⟨e.turnAway id r,
    { r with
        queue := r.offered e.config.capacity (.error cancelledEarly false)
        state := .canceled
        stage := .finished }, ?_, ?_, rfl, rfl, leaveLine_available, ?_⟩
  · simp only [advance, there, advanceRun_of_entering entering, askForSlot, cancelled, if_true]
  · simp [Engine.turnAway, Run.deliver_fst, hid]
  · rw [asking]
    exact h.once.not_mem_erase

end Engine

/-- **Slots.** At any time, whatever has been submitted, cancelled and read, and
whatever the handlers do:

* no more invocations have a slot, and no more handlers are at work, than there
  are slots, and the slots that nobody uses make up the rest;
* when all have to wait, the number shown as running is that of the invocations
  that have a slot, and it is the number of slots if anybody still waits for one;
* when all invocations are over, nothing is shown as running;
* every invocation has got a slot at most once, and has given it back as often
  unless it has it now;
* one that is cancelled before it has a slot is over with its next step, leaves no
  slot unused that it may just have been given, and never has one afterwards. -/
theorem slots_are_kept (config : ExecutorConfig) (acts : List Action) :
    let t := Timeline.run (.new config) acts
    (t.now.handlers ≤ t.now.holders ∧ t.now.holders ≤ max config.maxConcurrent 1
      ∧ t.now.available + t.now.holders = max config.maxConcurrent 1)
    ∧ (t.now.canStep = false → t.now.running = t.now.holders ∧
        ∀ r ∈ t.now.runs, r.stage.isEntering = true → t.now.running = max config.maxConcurrent 1)
    ∧ ((∀ r ∈ t.now.runs, r.stage = .finished) → t.now.running = 0)
    ∧ (∀ id, admissions id t.past ≤ 1 ∧
        admissions id t.past = dismissals id t.past + if t.now.holds id then 1 else 0)
    ∧ ∀ id r, t.now.runs[id]? = some r → r.stage.isEntering = true →
        t.now.isCancelled r.caller = true →
        (∃ e' r', t.now.advance id = some e' ∧ e'.runs[id]? = some r' ∧ r'.stage = .finished ∧
          r'.state = .canceled ∧ e'.available = t.now.available ∧ id ∉ e'.asking)
        ∧ ∀ e', t.now.Reaches e' → e'.holds id = false := by
  intro t
  have balanced : t.now.Balanced := balanced_run config acts
  have slots : t.now.free + t.now.granted.length + t.now.holders = max config.maxConcurrent 1 := by
    have slots := balanced.slots
    rw [← Engine.holders_eq, show t.now.config = config from config_run config acts] at slots
    exact slots
  have running : t.now.running = max config.maxConcurrent 1 - t.now.free := by
    rw [Engine.running, show t.now.config = config from config_run config acts]
    rfl
  have handlers := t.now.handlers_le
  refine ⟨⟨handlers, by omega, slots⟩, ?_, ?_, fun id => admitted_once config acts id, ?_⟩
  · intro quiet
    have none := balanced.granted_of_quiet quiet
    rw [none, List.length_nil] at slots
    refine ⟨by omega, ?_⟩
    intro r hr entering
    obtain ⟨id, there⟩ := List.getElem?_of_mem hr
    have full := balanced.free_of_quiet quiet there entering
    omega
  · intro ended
    have nobody : t.now.holders = 0 := by
      refine List.countP_eq_zero.mpr fun r hr => ?_
      simp [Run.holdsSlot, ended r hr]
    have none : t.now.granted = [] := by
      refine List.eq_nil_iff_forall_not_mem.mpr fun id granted => ?_
      obtain ⟨r, there, inLine⟩ := balanced.exists_of_granted granted
      simp [ended r (List.mem_of_getElem? there), Stage.standing] at inLine
    rw [none, List.length_nil] at slots
    omega
  · intro id r there entering cancelled
    exact ⟨balanced.advance_of_cancelled there entering cancelled,
      fun e' later => holds_of_barred there (.inr ⟨entering, cancelled⟩) later⟩

end ToolServer.Execution
