/-
The arguments of the command line:

* `Command`, `Invocation`: what the program is asked to do, and with which
  options;
* `Arguments.parse`: what a list of arguments asks for.

The options that say how the program is configured may stand in front of the
command and behind it; behind it they count more. What looks like an option is
never the value of one, unless it is attached by an equals sign.
-/
import ToolServer.Config.Logging

namespace ToolServer.Cli

/-! ### Invocations -/

/-- What the program is asked to do. -/
inductive Command
  /-- Serves requests: line by line, or over HTTP at an address if one is given. -/
  | serve (http : Option (Option String))
  /-- Lists the tools. -/
  | tools
  /-- Calls a tool. -/
  | call (tool args : String)
  /-- Follows the events of a tool. -/
  | stream (tool args : String)
  deriving DecidableEq, Repr, Inhabited

/-- The options that say how the program is configured. -/
structure Options where
  /-- The path of the configuration file. -/
  config : Option String := none
  /-- The filter of the log. -/
  logLevel : Option String := none
  /-- The form of the log. -/
  logFormat : Option LogFormat := none
  deriving DecidableEq, Repr, Inhabited

/-- Options, where some others count more. -/
def Options.overlay (o more : Options) : Options :=
  ⟨more.config <|> o.config, more.logLevel <|> o.logLevel, more.logFormat <|> o.logFormat⟩

/-- What a list of arguments asks for. -/
inductive Invocation
  | run (options : Options) (command : Command)
  /-- The program's usage. -/
  | help
  /-- The program's version. -/
  | version
  deriving DecidableEq, Repr, Inhabited

/-! ### Options -/

/-- The options with a value. -/
inductive Key
  | config | logLevel | logFormat | args | http
  deriving DecidableEq, Repr

/-- The commands by name. -/
inductive CommandName
  | serve | tools | call | stream
  deriving DecidableEq, Repr

/-- The command of a name. -/
def CommandName.ofText? (s : String) : Option CommandName :=
  if s = "serve" then some .serve
  else if s = "tools" then some .tools
  else if s = "call" then some .call
  else if s = "stream" then some .stream
  else none

/-- The option of a name, in front of the command or behind it. -/
def Key.ofName? (command : Option CommandName) (name : String) : Option Key :=
  if name = "config" then some .config
  else if name = "log-level" then some .logLevel
  else if name = "log-format" then some .logFormat
  else if name = "args" && (command = some .call || command = some .stream) then some .args
  else if name = "http" && command = some .serve then some .http
  else none

/-- The arguments read so far. -/
structure Arguments where
  /-- The options in front of the command. -/
  outer : Options := {}
  /-- The options behind it. -/
  inner : Options := {}
  command : Option CommandName := none
  /-- The tool. -/
  tool : Option String := none
  /-- The arguments of the tool. -/
  args : Option String := none
  /-- Whether to serve over HTTP, and where. -/
  http : Option (Option String) := none
  deriving Repr, Inhabited

/-- Why a list of arguments asks for nothing. -/
inductive UsageFault
  | unknownArgument (argument : String)
  | unknownCommand (name : String)
  | missingValue (key : Key)
  | invalidValue (key : Key)
  | repeated (key : Key)
  | missingTool
  deriving DecidableEq, Repr

namespace Arguments

/-- Gives an option its value, which it must not have yet. -/
def put {α : Type} (key : Key) (value : α) : Option α → Except UsageFault (Option α)
  | none => .ok (some value)
  | some _ => .error (.repeated key)

/-- Gives a configuring option its value. -/
def setOption (o : Options) (key : Key) (value : String) : Except UsageFault Options :=
  match key with
  | .config =>
    if value.isEmpty then .error (.missingValue key)
    else (put key value o.config).map fun config => { o with config }
  | .logLevel => (put key value o.logLevel).map fun logLevel => { o with logLevel }
  | _ =>
    match LogFormat.ofText value with
    | .ok format => (put key format o.logFormat).map fun logFormat => { o with logFormat }
    | .error _ => .error (.invalidValue key)

/-- Gives an option its value, which only the option for HTTP can do without. -/
def set (a : Arguments) (key : Key) (value : Option String) : Except UsageFault Arguments :=
  match key, value with
  | .http, address => (put key address a.http).map fun http => { a with http }
  | _, none => .error (.missingValue key)
  | .args, some value => (put key value a.args).map fun args => { a with args }
  | key, some value =>
    if a.command.isSome then (setOption a.inner key value).map fun inner => { a with inner }
    else (setOption a.outer key value).map fun outer => { a with outer }

/-- Takes in an argument that is no option. `escaped` says whether options have
been ruled out. -/
def positional (a : Arguments) (escaped : Bool) (argument : String) :
    Except UsageFault Arguments :=
  match a.command with
  | none =>
    if escaped then .error (.unknownArgument argument)
    else match CommandName.ofText? argument with
      | some name => .ok { a with command := some name }
      | none => .error (.unknownCommand argument)
  | some .call | some .stream =>
    if a.tool.isNone then .ok { a with tool := some argument }
    else .error (.unknownArgument argument)
  | some .serve | some .tools => .error (.unknownArgument argument)

/-! ### Reading -/

/-- What an argument is. -/
inductive Shape
  /-- No option. -/
  | plain
  /-- Rules options out from here on. -/
  | escape
  /-- The name of an option, with the value that is attached to it. -/
  | option (name : String) (value : Option String)

/-- The value attached to an option, behind an equals sign. -/
def attached : List Char → Option String
  | [] => none
  | _ :: value => some (String.ofList value)

/-- What an argument is. A short name may have its value right behind it. -/
def shape (argument : String) : Shape :=
  match argument.toList with
  | ['-', '-'] => .escape
  | '-' :: '-' :: rest =>
    .option (String.ofList (rest.takeWhile (· != '='))) (attached (rest.dropWhile (· != '=')))
  | '-' :: 'c' :: rest =>
    .option "config" <| match rest with
      | [] => none
      | '=' :: value => some (String.ofList value)
      | value => some (String.ofList value)
  | ['-', 'h'] => .option "help" none
  | ['-', 'V'] => .option "version" none
  | '-' :: c :: rest => .option (String.ofList ('-' :: c :: rest)) none
  | _ => .plain

/-- Whether an argument may be the value of the option in front of it. -/
def isValue (argument : String) : Bool :=
  match shape argument with
  | .plain => true
  | _ => false

/-- Whether the program's usage or its version is asked for. -/
def notice? (a : Arguments) (name : String) : Option Invocation :=
  if name = "help" then some .help
  else if name = "version" && a.command.isNone then some .version
  else none

/-- Takes in the remaining arguments, up to a request for a notice. -/
def readAll : (escaped : Bool) → Arguments → List String →
    Except UsageFault (Arguments ⊕ Invocation)
  | _, a, [] => .ok (.inl a)
  | true, a, argument :: rest => do readAll true (← a.positional true argument) rest
  | false, a, argument :: rest =>
    match shape argument with
    | .escape => readAll true a rest
    | .plain =>
      if argument = "help" && a.command.isNone then .ok (.inr .help)
      else do readAll false (← a.positional false argument) rest
    | .option name value =>
      match a.notice? name, Key.ofName? a.command name with
      | some notice, _ => .ok (.inr notice)
      | none, none => .error (.unknownArgument argument)
      | none, some key =>
        match value, rest with
        | some value, rest => do readAll false (← a.set key (some value)) rest
        | none, next :: rest =>
          if isValue next then do readAll false (← a.set key (some next)) rest
          else do readAll false (← a.set key none) (next :: rest)
        | none, [] => do readAll false (← a.set key none) []

/-- The command that the arguments ask for: to serve, unless they say more. -/
def toCommand (a : Arguments) : Except UsageFault Command :=
  match a.command, a.tool with
  | none, _ => .ok (.serve none)
  | some .serve, _ => .ok (.serve a.http)
  | some .tools, _ => .ok .tools
  | some .call, some tool => .ok (.call tool (a.args.getD "\x7b\x7d"))
  | some .stream, some tool => .ok (.stream tool (a.args.getD "\x7b\x7d"))
  | _, none => .error .missingTool

/-- The options of the arguments, where the path of the configuration file may
also come from the surroundings. -/
def toOptions (a : Arguments) (config : Option String) : Except UsageFault Options :=
  let options := a.outer.overlay a.inner
  if config = some "" && options.config.isNone then .error (.missingValue .config)
  else .ok { options with config := options.config <|> config }

end Arguments

/-- What a list of arguments asks for; `config` is the path of the configuration
file that the surroundings give. -/
def parse (arguments : List String) (config : Option String) :
    Except UsageFault Invocation := do
  match ← Arguments.readAll false {} arguments with
  | .inr notice => return notice
  | .inl a => return .run (← a.toOptions config) (← a.toCommand)

end ToolServer.Cli
