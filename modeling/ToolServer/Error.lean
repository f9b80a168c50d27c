/-
What can go wrong, with the code and the words of each failure:

* `EmitError`: an event that a handler could not emit;
* `ToolError`: a tool that did not deliver a result;
* `CacheError`: a store that did not do what was asked, `isMiss` telling the
  answers of a sound store apart from faults;
* `ServerError`: any of these, or a fault of the server around them.
-/

namespace ToolServer

/-! ### Emitting -/

/-- Why an event was not emitted. -/
inductive EmitError
  /-- The invocation of the emitter is over. -/
  | closed
  /-- The invocation is cancelled. -/
  | cancelled
  /-- The queue of events has no room. -/
  | channelFull
  /-- Nobody will read the events. -/
  | channelClosed
  /-- The invocation has emitted as many events as it may. -/
  | limitExceeded (limit : Nat)
  deriving Repr, DecidableEq

/-- The failure in words. -/
def EmitError.message : EmitError → String
  | .closed => "emitter is closed"
  | .cancelled => "invocation cancelled"
  | .channelFull => "event channel full, event dropped"
  | .channelClosed => "event channel closed"
  | .limitExceeded limit => s!"event limit of {limit} reached"

/-! ### Tools -/

/-- Why a tool did not deliver a result. -/
inductive ToolError
  | invalidArguments (detail : String)
  | executionFailed (detail : String)
  | notFound (name : String)
  | cancelled
  | timeout
  | other (detail : String)
  deriving Repr, DecidableEq

namespace ToolError

/-- The failure in words. -/
def message : ToolError → String
  | .invalidArguments detail => "Invalid arguments: " ++ detail
  | .executionFailed detail => "Execution failed: " ++ detail
  | .notFound name => "Tool not found: " ++ name
  | .cancelled => "Tool execution cancelled"
  | .timeout => "Tool execution timeout"
  | .other detail => "Other error: " ++ detail

/-- The code of the failure. -/
def code : ToolError → String
  | .invalidArguments _ => "TOOL_INVALID_ARGUMENTS"
  | .executionFailed _ => "TOOL_EXECUTION_FAILED"
  | .notFound _ => "TOOL_NOT_FOUND"
  | .cancelled => "TOOL_CANCELLED"
  | .timeout => "TOOL_TIMEOUT"
  | .other _ => "TOOL_OTHER"

/-- Whether another attempt may succeed: after a timeout only. -/
def isRetryable : ToolError → Bool
  | .timeout => true
  | _ => false

/-- The failure of a tool that passes a failed emit on. -/
def ofEmit : EmitError → ToolError
  | .cancelled => .cancelled
  | e => .other e.message

end ToolError

/-! ### Stores -/

/-- Why a store did not do what was asked. -/
inductive CacheError
  | notFound
  | expired
  | disabled
  | serialization (detail : String)
  | invalidConfig (detail : String)
  | unsupported (store : String)
  deriving Repr, DecidableEq

namespace CacheError

/-- The failure in words. -/
def message : CacheError → String
  | .notFound => "cache miss: key not found"
  | .expired => "cache miss: entry expired"
  | .disabled => "cache disabled"
  | .serialization detail => "cache serialization failed: " ++ detail
  | .invalidConfig detail => "invalid cache config: " ++ detail
  | .unsupported store => "unsupported cache store: " ++ store

/-- The code of the failure. -/
def code : CacheError → String
  | .notFound => "CACHE_NOT_FOUND"
  | .expired => "CACHE_EXPIRED"
  | .disabled => "CACHE_DISABLED"
  | .serialization _ => "CACHE_SERIALIZATION"
  | .invalidConfig _ => "CACHE_INVALID_CONFIG"
  | .unsupported _ => "CACHE_UNSUPPORTED"

/-- Whether the store is sound and just has no entry to give. -/
def isMiss : CacheError → Bool
  | .notFound | .expired | .disabled => true
  | _ => false

end CacheError

/-! ### The server -/

/-- Any failure of the server. -/
inductive ServerError
  | config (detail : String)
  | cache (error : CacheError)
  | tool (name detail : String)
  | protocol (detail : String)
  | io (detail : String)
  | json (detail : String)
  | timeout (seconds : Nat)
  | cancelled
  | other (detail : String)
  deriving Repr, DecidableEq

namespace ServerError

/-- The failure in words. -/
def message : ServerError → String
  | .config detail => "Configuration error: " ++ detail
  | .cache e => "Cache error: " ++ e.message
  | .tool name detail => "Tool error: " ++ name ++ ": " ++ detail
  | .protocol detail => "Protocol error: " ++ detail
  | .io detail => "IO error: " ++ detail
  | .json detail => "JSON error: " ++ detail
  | .timeout seconds => s!"Execution timeout after {seconds} seconds"
  | .cancelled => "Execution was cancelled"
  | .other detail => "Error: " ++ detail

/-- The code of the failure. -/
def code : ServerError → String
  | .config _ => "CONFIG"
  | .cache e => e.code
  | .tool _ _ => "TOOL"
  | .protocol _ => "PROTOCOL"
  | .io _ => "IO"
  | .json _ => "JSON"
  | .timeout _ => "TIMEOUT"
  | .cancelled => "CANCELLED"
  | .other _ => "OTHER"

/-- The server's view of a tool's failure. -/
def ofTool : ToolError → ServerError
  | .cancelled => .cancelled
  | .notFound name => .tool name "Tool not found"
  | e => .tool "unknown" e.message

end ServerError

end ToolServer
