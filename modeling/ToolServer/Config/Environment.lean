/-
Settings from the environment:

* `Override`: a variable and what its value does to a configuration;
* `overrides`: the variables, in the order in which they are applied;
* `ServerConfig.override`: a configuration after all variables that are set.

A value that cannot be read stops the overrides; the ones before it stay in
force.
-/
import ToolServer.Config.Server

namespace ToolServer

/-- The front part of the names of all variables. -/
def variablePrefix : String := "TOOLGATE_"

namespace Environment

/-! ### Reading values -/

/-- The truth value that a text spells. -/
def bool? (value : String) : Option Bool :=
  let word := Text.lowerAscii (Text.trim value)
  if word ∈ ["1", "true", "yes", "on"] then some true
  else if word ∈ ["0", "false", "no", "off"] then some false
  else none

/-- The natural number below `2^64` that a text spells. -/
def natural? (value : String) : Option Nat :=
  (Text.numeral? (Text.trim value).toList).filter (· < 0x10000000000000000)

/-- The failure of a variable. -/
def invalid {α : Type} (name value reason : String) : Except ServerError α :=
  .error (.config s!"invalid {variablePrefix}{name} value '{value}'{reason}")

/-- The truth value of a variable. -/
def bool (name value : String) : Except ServerError Bool :=
  match bool? value with
  | some b => .ok b
  | none => invalid name value ""

/-- The natural number of a variable. -/
def natural (name value : String) : Except ServerError Nat :=
  match natural? value with
  | some n => .ok n
  | none => invalid name value ""

/-- The span of time of a variable. -/
def duration (name value : String) : Except ServerError Nat :=
  match Duration.ofWords (Text.trim value) with
  | .ok d => .ok d
  | .error e => invalid name value (": " ++ e.message)

/-! ### Overrides -/

/-- What a variable does to a configuration. -/
structure Override where
  /-- The name of the variable behind the common front part. -/
  name : String
  /-- The configuration with the variable's value in it. -/
  apply : String → ServerConfig → Except ServerError ServerConfig

/-- The override that reads a value and then puts it in its place. -/
def Override.of {α : Type} (name : String) (read : String → String → Except ServerError α)
    (put : α → ServerConfig → ServerConfig) : Override where
  name := name
  apply value c := (read name value).map fun v => put v c

/-- All overrides, in their order. -/
def overrides : List Override :=
  [.of "CACHE_ENABLED" bool fun v c => { c with cache := { c.cache with enabled := v } },
    .of "CACHE_MAX_ENTRIES" natural fun v c =>
      { c with cache := { c.cache with maxEntries := v } },
    .of "CACHE_TTL" duration fun v c => { c with cache := { c.cache with defaultTtl := v } },
    .of "MAX_CONCURRENT" natural fun v c =>
      { c with executor := { c.executor with maxConcurrent := v } },
    .of "TIMEOUT" duration fun v c => { c with executor := { c.executor with timeout := v } },
    .of "HTTP_ADDR" (fun _ v => .ok v) fun v c => { c with http := { c.http with address := v } },
    .of "HTTP_MAX_REQUEST_SIZE" natural fun v c =>
      { c with http := { c.http with maxRequestSize := v } },
    .of "LOG_LEVEL" (fun _ v => .ok v) fun v c =>
      { c with logging := { c.logging with level := v } },
    .of "LOG_FORMAT" (fun _ v => LogFormat.ofText v) fun v c =>
      { c with logging := { c.logging with format := v } }]

/-- Applies some overrides in their order, up to the first that fails. -/
def applyAll (lookup : String → Option String) :
    List Override → ServerConfig → ServerConfig × Except ServerError Unit
  | [], c => (c, .ok ())
  | o :: rest, c =>
    match lookup (variablePrefix ++ o.name) with
    | none => applyAll lookup rest c
    | some value =>
      match o.apply value c with
      | .ok c => applyAll lookup rest c
      | .error e => (c, .error e)

end Environment

/-- The configuration after the variables that are set, and whether all of them
could be read. -/
def ServerConfig.override (c : ServerConfig) (lookup : String → Option String) :
    ServerConfig × Except ServerError Unit :=
  Environment.applyAll lookup Environment.overrides c

end ToolServer
