/-
What the program does:

* `Exit`: its status, its output and its error;
* `configure`: the configuration that it runs with;
* `toolTable`, `callTool`, `streamTool`, `serve`: its commands;
* `run`: all of it, from an invocation to the end.

An error ends the program with its first line.
-/
import ToolServer.Cli.Arguments
import ToolServer.Config.Environment
import ToolServer.Config.File
import ToolServer.Demo.Tools
import ToolServer.Http.Service
import ToolServer.Transport.Blocks
import ToolServer.Transport.Lines

namespace ToolServer.Cli

open ToolServer.Text (Bytes)

/-- How the program ends. -/
structure Exit where
  status : Nat
  /-- What it has written. -/
  output : Bytes := []
  /-- The error that it ends with, if it is one of its own. -/
  error : Option String := none
  deriving Repr, Inhabited

/-- The end after a command line that asks for nothing. -/
def Exit.usage : Exit :=
  { status := 2 }

/-- What the program finds around itself. -/
structure Surroundings where
  /-- The variables of the environment. -/
  lookup : String → Option String
  /-- What is found under a path. -/
  file : String → StoredFile
  input : Bytes
  /-- The time at which the program starts, in nanoseconds after the beginning of
  1970. -/
  epoch : Nat := 0

/-- The variable with the path of the configuration file. -/
def configVariable : String := variablePrefix ++ "CONFIG"

/-- The variable with a filter that goes before the configured one. -/
def filterVariable : String := "RUST_LOG"

/-! ### Configuration -/

/-- The filter in force: that of the surroundings if it is sound, or else that of
the configuration, which has to be sound. -/
def checkFilter (c : LoggingConfig) (around : Option String) : Except String Unit :=
  if around.any LogFilter.accepts then .ok ()
  else match LogFilter.check c.level with
    | .ok () => .ok ()
    | .error fault =>
      let e := ServerError.config s!"invalid log level '{c.level}': {fault.message}"
      .error e.message

/-- The words of the failure to load a configuration. -/
def loadingFailed : Option String → String
  | some path => s!"loading configuration from {path}"
  | none => "loading configuration"

/-- The configuration in a file, or the one without a file. -/
def loadFile (around : Surroundings) : Option String → Except ServerError ServerConfig
  | some path => ServerConfig.ofFile path (around.file path)
  | none => .ok {}

/-- The configuration that the program runs with: a file's, changed by variables
and then by options. -/
def configure (around : Surroundings) (options : Options) (command : Command) :
    Except String ServerConfig := do
  let c ← match loadFile around options.config with
    | .error _ => throw (loadingFailed options.config)
    | .ok c =>
      match c.override around.lookup with
      | (_, .error _) => throw (loadingFailed options.config)
      | (c, .ok ()) => pure c
  let logging : LoggingConfig :=
    ⟨options.logLevel.getD c.logging.level, options.logFormat.getD c.logging.format⟩
  let http := match command with
    | .serve (some (some address)) => { c.http with address }
    | _ => c.http
  let c := { c with logging, http }
  match c.validate with
  | .ok () =>
    checkFilter c.logging (around.lookup filterVariable)
    return c
  | .error _ => throw "invalid configuration"

/-! ### Commands -/

/-- A text with blanks behind it, up to some width. -/
def padded (width : Nat) (s : String) : String :=
  s ++ String.ofList (List.replicate (width - s.length) ' ')

/-- A line of the table of tools. -/
def tableLine (name streaming cache description : String) : String :=
  s!"{padded 12 name} {padded 10 streaming} {padded 10 cache} {description}\n"

/-- How long the results of a tool are kept, in a word. -/
def cacheWord (c : Tool.Caching) : String :=
  if !c.cacheable then "off"
  else match c.ttl with
    | some ttl => s!"{Duration.wholeSecs ttl}s"
    | none => "default"

/-- The table of tools. -/
def toolTable (tools : Tool.Registry) : String :=
  let line (t : Tool.Definition) : String :=
    tableLine t.name (if t.streaming then "yes" else "no") (cacheWord t.caching) t.description
  tableLine "NAME" "STREAMING" "CACHE" "DESCRIPTION" ++ String.join (tools.list.map line)
    ++ s!"\nTotal tools available: {tools.size}\n"

/-- The token that cancels everything. -/
def interrupt : Execution.Token := .named "interrupt"

/-- The arguments of a tool, which have to be an object. -/
def toolArguments (raw : String) : Except String Json :=
  match Json.ofText raw with
  | .error _ => .error "--args must be valid JSON"
  | .ok (.object members) => .ok (.object members)
  | .ok _ => .error s!"--args must be a JSON object, got {raw}"

/-- What a command has written, and how it ends. -/
abbrev Outcome := Bytes × Except String Unit

/-- Calls a tool and writes the response. -/
def callTool (s : Server Cache.Backend) (tool raw : String) : Outcome :=
  match toolArguments raw with
  | .error e => ([], .error e)
  | .ok args =>
    let params := Json.object [("name", .string tool), ("arguments", args)]
    match (s.responseTo (.new (.number 1) "tools/call" (some params)) interrupt).2 with
    | some (some response) =>
      (Text.bytesOf (response.toJson.prettyText ++ "\n"),
        if response.isSuccess then .ok () else .error s!"tool '{tool}' failed")
    | _ => ([], .ok ())

/-- Follows a tool and writes its events. -/
def streamTool (s : Server Cache.Backend) (tool raw : String) : Outcome :=
  match toolArguments raw with
  | .error e => ([], .error e)
  | .ok args =>
    match s.stream tool args madeUpId interrupt with
    | .error e => ([], .error e.shown)
    | .ok (run, s) =>
      let (s, sink, written) := s.writeBlocks run madeUpId {}
      match written, s.engine.runs[run]? with
      | some (.error e), _ => (sink.content, .error e.message)
      | _, some r =>
        (sink.content, if r.state = .done then .ok ()
          else .error s!"tool '{tool}' finished in state {r.state.name}")
      | _, none => (sink.content, .ok ())

/-- Serves the lines of the input. -/
def serve (s : Server Cache.Backend) (input : Bytes) : Outcome :=
  match (s.serveLines input {} interrupt).2 with
  | some (.ok lines) => (Text.bytesOf (String.join (lines.map (· ++ "\n"))), .ok ())
  | some (.error e) => ([], .error e.message)
  | none => ([], .ok ())

/-- Serves over HTTP at an address. -/
def serveHttp (address : String) : Outcome :=
  ([], (HttpConfig.bind address).mapError ServerError.message)

/-! ### The program -/

/-- Carries a command out. -/
def perform (around : Surroundings) (c : ServerConfig) (command : Command) : Outcome :=
  match Demo.registry around.epoch with
  | .error e => ([], .error e.message)
  | .ok tools =>
    if command = .tools then (Text.bytesOf (toolTable tools), .ok ())
    else match c.cache.create with
      | .error _ => ([], .error "creating response cache")
      | .ok cache =>
        let s : Server Cache.Backend :=
          { tools, engine := .new c.executor, cache, cacheConfig := c.cache }
        match command with
        | .serve none => serve s around.input
        | .serve (some _) => serveHttp c.http.address
        | .call tool args => callTool s tool args
        | .stream tool args => streamTool s tool args
        | .tools => ([], .ok ())

/-- The first line of a text. -/
def firstLine (s : String) : String :=
  String.ofList (s.toList.takeWhile (· != '\n'))

/-- The program's version. -/
def versionText : String :=
  let info : ServerInfo := {}
  s!"{info.name} {info.version}\n"

/-- The program, from its arguments to its end. -/
def run (around : Surroundings) (arguments : List String) : Exit :=
  match parse arguments (around.lookup configVariable) with
  | .error _ => .usage
  | .ok .help => { status := 0 }
  | .ok .version => { status := 0, output := Text.bytesOf versionText }
  | .ok (.run options command) =>
    match configure around options command with
    | .error e => { status := 1, error := some (firstLine e) }
    | .ok c =>
      match perform around c command with
      | (output, .ok ()) => { status := 0, output }
      | (output, .error e) => { status := 1, output, error := some (firstLine e) }

end ToolServer.Cli
