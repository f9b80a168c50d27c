/-
The whole configuration of a server:

* `ServerConfig`: its four sections;
* `validate`: the rules of the sections, in their order;
* `toJson`, `decode`: the configuration as a document and back.
-/
import ToolServer.Cache.Config
import ToolServer.Config.Http
import ToolServer.Config.Logging
import ToolServer.Execution.Config

namespace ToolServer

/-- The configuration of a server. -/
structure ServerConfig where
  cache : CacheConfig := {}
  executor : ExecutorConfig := {}
  logging : LoggingConfig := {}
  http : HttpConfig := {}
  deriving DecidableEq, Repr, Inhabited

namespace ServerConfig

/-- Refuses what one of the sections refuses, and an empty filter. -/
def validate (c : ServerConfig) : Except ServerError Unit :=
  match c.cache.validate with
  | .error e => .error (.cache e)
  | .ok () =>
    match c.executor.validate with
    | .error e => .error e
    | .ok () =>
      match c.http.validate with
      | .error e => .error e
      | .ok () =>
        if Text.isBlankString c.logging.level then
          .error (.config "log level must not be empty")
        else .ok ()

/-- A configuration as a JSON value. -/
def toJson (c : ServerConfig) : Json :=
  .object [("cache", c.cache.toJson), ("executor", c.executor.toJson),
    ("logging", c.logging.toJson), ("http", c.http.toJson)]

/-- The configuration that a document stands for; sections that are left out
have their defaults. -/
def decode {α : Type} [Decode.Document α] (d : α) :
    Except Decode.Mismatch ServerConfig := do
  let unset : ServerConfig := {}
  let s ← Decode.slots "ServerConfig" 4 d
  let cache := s.field "cache" 0 CacheConfig.decode (some unset.cache)
  let executor := s.field "executor" 1 ExecutorConfig.decode (some unset.executor)
  let logging := s.field "logging" 2 LoggingConfig.decode (some unset.logging)
  let http := s.field "http" 3 HttpConfig.decode (some unset.http)
  match cache.value, executor.value, logging.value, http.value with
  | .ok cache, .ok executor, .ok logging, .ok http =>
    s.exhausted 4
    return ⟨cache, executor, logging, http⟩
  | _, _, _, _ =>
    throw (s.firstFault [cache.fault?, executor.fault?, logging.fault?, http.fault?])

end ServerConfig

end ToolServer
