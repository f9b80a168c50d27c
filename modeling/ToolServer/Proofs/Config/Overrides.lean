/-
What the variables that are set do to a configuration:

* `Variable`: the variables in their order, each with the field that it controls,
  `Variable.get` and `Variable.put`;
* `overrides_eq`: the overrides are those of the variables;
* `SameElsewhere`, `eq_of_sameElsewhere`: what no variable controls. With the controlled
  fields it is all that a configuration has;
* `Applies`: variables are applied one after the other, up to one whose value cannot be read;
* `TakesEffect`, `StopsShort`: what that comes to, by `Applies.takesEffect` and
  `Applies.stopsShort`;
* `Applies.again`: nothing changes when the variables are applied once more;
* `variables_take_effect_in_order`: a configuration after all variables that are set.

Each field belongs to one variable, so what one variable puts into its field is still there
after the others.
-/
import Mathlib.Tactic
import ToolServer.Config.Environment

namespace ToolServer

namespace Environment

/-! ### Variables and their fields -/

/-- The variables that control a field of a configuration. -/
inductive Variable
  | cacheEnabled | cacheMaxEntries | cacheTtl | maxConcurrent | timeout | httpAddress
  | httpMaxRequestSize | logLevel | logFormat
  deriving DecidableEq, Repr

namespace Variable

/-- All variables, in the order in which they are applied. -/
def all : List Variable :=
  [cacheEnabled, cacheMaxEntries, cacheTtl, maxConcurrent, timeout, httpAddress,
    httpMaxRequestSize, logLevel, logFormat]

/-- The name of a variable behind the common front part. -/
def name : Variable → String
  | cacheEnabled => "CACHE_ENABLED"
  | cacheMaxEntries => "CACHE_MAX_ENTRIES"
  | cacheTtl => "CACHE_TTL"
  | maxConcurrent => "MAX_CONCURRENT"
  | timeout => "TIMEOUT"
  | httpAddress => "HTTP_ADDR"
  | httpMaxRequestSize => "HTTP_MAX_REQUEST_SIZE"
  | logLevel => "LOG_LEVEL"
  | logFormat => "LOG_FORMAT"

/-- What the field of a variable holds. -/
abbrev Value : Variable → Type
  | cacheEnabled => Bool
  | cacheMaxEntries | cacheTtl | maxConcurrent | timeout | httpMaxRequestSize => ℕ
  | httpAddress | logLevel => String
  | logFormat => LogFormat

/-- How the text of a variable of some name is read. -/
def reader : (v : Variable) → (name text : String) → Except ServerError v.Value
  | cacheEnabled => bool
  | cacheMaxEntries | maxConcurrent | httpMaxRequestSize => natural
  | cacheTtl | timeout => duration
  | httpAddress | logLevel => fun _ text => .ok text
  | logFormat => fun _ text => LogFormat.ofText text

/-- The value that a text spells, or why there is none. -/
def read (v : Variable) (text : String) : Except ServerError v.Value :=
  v.reader v.name text

/-- The field that a variable controls. -/
def get : (v : Variable) → ServerConfig → v.Value
  | cacheEnabled, c => c.cache.enabled
  | cacheMaxEntries, c => c.cache.maxEntries
  | cacheTtl, c => c.cache.defaultTtl
  | maxConcurrent, c => c.executor.maxConcurrent
  | timeout, c => c.executor.timeout
  | httpAddress, c => c.http.address
  | httpMaxRequestSize, c => c.http.maxRequestSize
  | logLevel, c => c.logging.level
  | logFormat, c => c.logging.format

/-- The configuration with another value in the field that a variable controls. -/
def put : (v : Variable) → v.Value → ServerConfig → ServerConfig
  | cacheEnabled, x, c => { c with cache := { c.cache with enabled := x } }
  | cacheMaxEntries, x, c => { c with cache := { c.cache with maxEntries := x } }
  | cacheTtl, x, c => { c with cache := { c.cache with defaultTtl := x } }
  | maxConcurrent, x, c => { c with executor := { c.executor with maxConcurrent := x } }
  | timeout, x, c => { c with executor := { c.executor with timeout := x } }
  | httpAddress, x, c => { c with http := { c.http with address := x } }
  | httpMaxRequestSize, x, c => { c with http := { c.http with maxRequestSize := x } }
  | logLevel, x, c => { c with logging := { c.logging with level := x } }
  | logFormat, x, c => { c with logging := { c.logging with format := x } }

/-- The text of a variable, if it is set. -/
def text? (v : Variable) (lookup : String → Option String) : Option String :=
  lookup (variablePrefix ++ v.name)

lemma mem_all (v : Variable) : v ∈ all := by
  cases v <;> decide

lemma nodup_all : all.Nodup := by decide

lemma get_put (v : Variable) (x : v.Value) (c : ServerConfig) : v.get (v.put x c) = x := by
  cases v <;> rfl

/-- What is put into one field leaves the others as they are. -/
lemma get_put_of_ne {v w : Variable} (other : w ≠ v) (x : v.Value) (c : ServerConfig) :
    w.get (v.put x c) = w.get c := by
  cases v <;> cases w <;> first | exact absurd rfl other | rfl

/-- The override of a variable. -/
def override (v : Variable) : Override :=
  .of v.name v.reader v.put

end Variable

lemma overrides_eq : overrides = Variable.all.map Variable.override := rfl

/-! ### What no variable controls -/

/-- Whether two configurations agree in all that no variable controls. -/
structure SameElsewhere (c c' : ServerConfig) : Prop where
  store : c'.cache.store = c.cache.store
  cleanupInterval : c'.cache.cleanupInterval = c.cache.cleanupInterval
  toolTtls : c'.cache.toolTtls = c.cache.toolTtls
  bufferSize : c'.executor.bufferSize = c.executor.bufferSize
  maxEvents : c'.executor.maxEvents = c.executor.maxEvents
  terminalTimeout : c'.executor.terminalTimeout = c.executor.terminalTimeout
  allowedOrigins : c'.http.allowedOrigins = c.http.allowedOrigins

namespace SameElsewhere

lemma refl (c : ServerConfig) : SameElsewhere c c :=
  ⟨rfl, rfl, rfl, rfl, rfl, rfl, rfl⟩

lemma trans {c d e : ServerConfig} (first : SameElsewhere c d) (second : SameElsewhere d e) :
    SameElsewhere c e where
  store := second.store.trans first.store
  cleanupInterval := second.cleanupInterval.trans first.cleanupInterval
  toolTtls := second.toolTtls.trans first.toolTtls
  bufferSize := second.bufferSize.trans first.bufferSize
  maxEvents := second.maxEvents.trans first.maxEvents
  terminalTimeout := second.terminalTimeout.trans first.terminalTimeout
  allowedOrigins := second.allowedOrigins.trans first.allowedOrigins

lemma put (v : Variable) (x : v.Value) (c : ServerConfig) : SameElsewhere c (v.put x c) := by
  cases v <;> exact ⟨rfl, rfl, rfl, rfl, rfl, rfl, rfl⟩

end SameElsewhere

/-- **There is nothing else in a configuration**: it is known from the fields that variables
control and from what they do not control. -/
lemma eq_of_sameElsewhere {c c' : ServerConfig} (elsewhere : SameElsewhere c c')
    (fields : ∀ v : Variable, v.get c' = v.get c) : c' = c := by
  obtain ⟨⟨_, _, _, _, _, _⟩, ⟨_, _, _, _, _⟩, ⟨_, _⟩, ⟨_, _, _⟩⟩ := c
  obtain ⟨⟨_, _, _, _, _, _⟩, ⟨_, _, _, _, _⟩, ⟨_, _⟩, ⟨_, _, _⟩⟩ := c'
  obtain ⟨rfl, rfl, rfl, rfl, rfl, rfl, rfl⟩ := elsewhere
  obtain rfl := fields .cacheEnabled
  obtain rfl := fields .cacheMaxEntries
  obtain rfl := fields .cacheTtl
  obtain rfl := fields .maxConcurrent
  obtain rfl := fields .timeout
  obtain rfl := fields .httpAddress
  obtain rfl := fields .httpMaxRequestSize
  obtain rfl := fields .logLevel
  obtain rfl := fields .logFormat
  rfl

/-- Nothing changes if a field gets the value that it has. -/
lemma Variable.put_get (v : Variable) (c : ServerConfig) : v.put (v.get c) c = c := by
  refine eq_of_sameElsewhere (.put v _ c) fun w => ?_
  by_cases same : w = v
  · subst same
    exact w.get_put _ c
  · exact get_put_of_ne same _ c

/-! ### One variable after the other -/

/-- What becomes of a configuration when some variables are applied, in their order and up
to one whose value cannot be read. -/
inductive Applies (lookup : String → Option String) :
    List Variable → ServerConfig → ServerConfig → Except ServerError Unit → Prop
  /-- There are no more variables. -/
  | done (c : ServerConfig) : Applies lookup [] c c (.ok ())
  /-- The next variable is not set. -/
  | unset {v : Variable} {vs : List Variable} {c c' : ServerConfig}
      {outcome : Except ServerError Unit} (text : v.text? lookup = none)
      (rest : Applies lookup vs c c' outcome) : Applies lookup (v :: vs) c c' outcome
  /-- The next variable has a value. -/
  | set {v : Variable} {vs : List Variable} {c c' : ServerConfig}
      {outcome : Except ServerError Unit} {t : String} {x : v.Value}
      (text : v.text? lookup = some t) (value : v.read t = .ok x)
      (rest : Applies lookup vs (v.put x c) c' outcome) : Applies lookup (v :: vs) c c' outcome
  /-- The value of the next variable cannot be read. -/
  | fault {v : Variable} {vs : List Variable} {c : ServerConfig} {t : String} {e : ServerError}
      (text : v.text? lookup = some t) (value : v.read t = .error e) :
      Applies lookup (v :: vs) c c (.error e)

variable {lookup : String → Option String}

lemma applyAll_cons (v : Variable) (vs : List Variable) (c : ServerConfig) :
    applyAll lookup ((v :: vs).map Variable.override) c
      = match v.text? lookup with
        | none => applyAll lookup (vs.map Variable.override) c
        | some t =>
          match v.read t with
          | .ok x => applyAll lookup (vs.map Variable.override) (v.put x c)
          | .error e => (c, .error e) := by
  have apply (t : String) : v.override.apply t c = (v.read t).map fun x => v.put x c := rfl
  rw [List.map_cons, applyAll]
  change (match v.text? lookup with | none => _ | some t => _) = _
  cases v.text? lookup with
  | none => rfl
  | some t =>
      simp only [apply]
      cases v.read t <;> rfl

/-- The overrides apply their variables one after the other. -/
lemma applies_applyAll (lookup : String → Option String) (vs : List Variable)
    (c : ServerConfig) :
    Applies lookup vs c (applyAll lookup (vs.map Variable.override) c).1
      (applyAll lookup (vs.map Variable.override) c).2 := by
  induction vs generalizing c with
  | nil => exact .done c
  | cons v vs ih =>
      rw [applyAll_cons]
      cases text : v.text? lookup with
      | none => exact .unset text (ih c)
      | some t =>
          dsimp only
          cases value : v.read t with
          | ok x => exact .set text value (ih _)
          | error e => exact .fault text value

/-- Whether a variable has taken effect: its field has the value that the variable spells,
and its old value if the variable is not set. -/
def TakesEffect (lookup : String → Option String) (c c' : ServerConfig) (v : Variable) : Prop :=
  match v.text? lookup with
  | some text => v.read text = .ok (v.get c')
  | none => v.get c' = v.get c

/-- Whether some variables have been applied up to one whose value cannot be read: those in
front of it have taken effect, and its own field and those behind it are as they were. -/
def StopsShort (lookup : String → Option String) (vs : List Variable) (c c' : ServerConfig)
    (e : ServerError) : Prop :=
  ∃ before v after text, vs = before ++ v :: after ∧
    v.text? lookup = some text ∧ v.read text = .error e ∧
    (∀ w ∈ before, TakesEffect lookup c c' w) ∧ ∀ w ∈ v :: after, w.get c' = w.get c

/-- A variable takes effect whatever has been put into the field of another one before. -/
lemma TakesEffect.of_put {c c' : ServerConfig} {v w : Variable} (other : w ≠ v) {x : v.Value}
    (h : TakesEffect lookup (v.put x c) c' w) : TakesEffect lookup c c' w := by
  rw [TakesEffect, Variable.get_put_of_ne other] at h
  exact h

namespace Applies

variable {vs : List Variable} {c c' : ServerConfig} {outcome : Except ServerError Unit}

/-- What is applied is what the overrides of the variables do. -/
lemma applyAll_eq (h : Applies lookup vs c c' outcome) :
    applyAll lookup (vs.map Variable.override) c = (c', outcome) := by
  induction h with
  | done c => rfl
  | unset text rest ih => rw [applyAll_cons, text, ← ih]
  | set text value rest ih => rw [applyAll_cons, text, ← ih]; simp only [value]
  | fault text value => rw [applyAll_cons, text]; simp only [value]

lemma sameElsewhere (h : Applies lookup vs c c' outcome) : SameElsewhere c c' := by
  induction h with
  | done c => exact .refl c
  | unset text rest ih => exact ih
  | set text value rest ih => exact (SameElsewhere.put _ _ _).trans ih
  | fault text value => exact .refl _

/-- The fields of other variables stay as they are. -/
lemma get_of_notMem (h : Applies lookup vs c c' outcome) {w : Variable} (other : w ∉ vs) :
    w.get c' = w.get c := by
  induction h with
  | done c => rfl
  | unset text rest ih => exact ih (List.not_mem_of_not_mem_cons other)
  | set text value rest ih =>
      rw [ih (List.not_mem_of_not_mem_cons other)]
      exact Variable.get_put_of_ne (List.ne_of_not_mem_cons other) _ _
  | fault text value => rfl

/-- What is put into a field is there in the end. -/
lemma get_of_put {v : Variable} {x : v.Value} (fresh : v ∉ vs)
    (h : Applies lookup vs (v.put x c) c' outcome) : v.get c' = x :=
  (h.get_of_notMem fresh).trans (v.get_put x c)

/-- If all values can be read, all variables take effect. -/
lemma takesEffect (h : Applies lookup vs c c' (.ok ())) (distinct : vs.Nodup) :
    ∀ v ∈ vs, TakesEffect lookup c c' v := by
  generalize ok : (.ok () : Except ServerError Unit) = outcome at h
  induction h with
  | done c => exact fun v none => absurd none List.not_mem_nil
  | unset text rest ih =>
      obtain ⟨fresh, distinct⟩ := List.nodup_cons.mp distinct
      refine List.forall_mem_cons.mpr ⟨?_, ih distinct ok⟩
      rw [TakesEffect, text]
      exact rest.get_of_notMem fresh
  | set text value rest ih =>
      obtain ⟨fresh, distinct⟩ := List.nodup_cons.mp distinct
      refine List.forall_mem_cons.mpr ⟨?_, fun w hw => ?_⟩
      · rw [TakesEffect, text]
        exact value.trans (congrArg _ (rest.get_of_put fresh).symm)
      · exact (ih distinct ok w hw).of_put (ne_of_mem_of_not_mem hw fresh)
  | fault text value => cases ok

/-- If there is a failure, one value cannot be read. -/
lemma stopsShort {e : ServerError} (h : Applies lookup vs c c' (.error e)) (distinct : vs.Nodup) :
    StopsShort lookup vs c c' e := by
  generalize failed : (.error e : Except ServerError Unit) = outcome at h
  induction h with
  | done c => cases failed
  | unset text rest ih =>
      obtain ⟨fresh, distinct⟩ := List.nodup_cons.mp distinct
      obtain ⟨before, v, after, t, rfl, set, fault, taken, kept⟩ := ih distinct failed
      refine ⟨_ :: before, v, after, t, rfl, set, fault, List.forall_mem_cons.mpr ⟨?_, taken⟩, kept⟩
      rw [TakesEffect, text]
      exact rest.get_of_notMem fresh
  | set text value rest ih =>
      obtain ⟨fresh, distinct⟩ := List.nodup_cons.mp distinct
      obtain ⟨before, v, after, t, rfl, set, fault, taken, kept⟩ := ih distinct failed
      have other {w : Variable} (hw : w ∈ before ++ v :: after) : w ≠ _ :=
        ne_of_mem_of_not_mem hw fresh
      refine ⟨_ :: before, v, after, t, rfl, set, fault,
        List.forall_mem_cons.mpr ⟨?_, fun w hw => ?_⟩, fun w hw => ?_⟩
      · rw [TakesEffect, text]
        exact value.trans (congrArg _ (rest.get_of_put fresh).symm)
      · exact (taken w hw).of_put (other (List.mem_append_left _ hw))
      · rw [kept w hw, Variable.get_put_of_ne (other (List.mem_append_right _ hw))]
  | fault text value =>
      cases failed
      exact ⟨[], _, _, _, rfl, text, value, fun w none => absurd none List.not_mem_nil,
        fun w _ => rfl⟩

/-- **Nothing changes when variables are applied once more**: each finds its own value in its
field, and the same value cannot be read. -/
lemma again (h : Applies lookup vs c c' outcome) (distinct : vs.Nodup) :
    Applies lookup vs c' c' outcome := by
  induction h with
  | done c => exact .done c
  | unset text rest ih => exact .unset text (ih (List.nodup_cons.mp distinct).2)
  | @set v vs c c' outcome t x text value rest ih =>
      obtain ⟨fresh, distinct⟩ := List.nodup_cons.mp distinct
      have there : v.put x c' = c' := by
        rw [← rest.get_of_put fresh, v.put_get]
      refine .set text value ?_
      rw [there]
      exact ih distinct
  | fault text value => exact .fault text value

end Applies

/-! ### All variables -/

/-- **The variables that are set take effect in their order.** If all of them can be read, each
field that a variable controls has the value of the variable, or its old value where the
variable is not set. Or else the first variable that cannot be read is the failure: those in
front of it have taken effect, and its own field and those behind it have their old values.
All other fields are as they were, and nothing changes if the same variables are applied
again. -/
theorem variables_take_effect_in_order (c : ServerConfig) (lookup : String → Option String) :
    ∃ c' outcome, c.override lookup = (c', outcome) ∧ SameElsewhere c c' ∧
      ((outcome = .ok () ∧ ∀ v : Variable, TakesEffect lookup c c' v) ∨
        ∃ e, outcome = .error e ∧ StopsShort lookup Variable.all c c' e) ∧
      c'.override lookup = (c', outcome) := by
  have same (d : ServerConfig) :
      d.override lookup = applyAll lookup (Variable.all.map Variable.override) d := by
    rw [ServerConfig.override, overrides_eq]
  have applies := applies_applyAll lookup Variable.all c
  simp only [same]
  generalize applyAll lookup (Variable.all.map Variable.override) c = result at applies
  obtain ⟨c', outcome⟩ := result
  refine ⟨c', outcome, rfl, applies.sameElsewhere, ?_,
    (applies.again Variable.nodup_all).applyAll_eq⟩
  cases outcome with
  | ok =>
      exact .inl ⟨rfl, fun v => applies.takesEffect Variable.nodup_all v v.mem_all⟩
  | error e => exact .inr ⟨e, rfl, applies.stopsShort Variable.nodup_all⟩

/-- What is in front of a number that cannot be read is in force, and what is behind it is
not. -/
example :
    let lookup (name : String) := [("TOOLGATE_CACHE_ENABLED", " ON "),
      ("TOOLGATE_MAX_CONCURRENT", "many"), ("TOOLGATE_LOG_LEVEL", "debug")].lookup name
    ({} : ServerConfig).override lookup
      = ({ cache := { enabled := true } },
        .error (.config "invalid TOOLGATE_MAX_CONCURRENT value 'many'")) := by
  decide +kernel

end Environment

end ToolServer
