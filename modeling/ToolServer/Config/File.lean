/-
Configuration files:

* `FileFormat.ofPath`: the format that the ending of a file's name asks for;
* `StoredFile`: what a reader of files finds under a path;
* `ServerConfig.ofFile`: the configuration in a file.

A file that is not there stands for a configuration with all its defaults.
-/
import ToolServer.Config.Server
import ToolServer.Json.Reader
import ToolServer.Toml.Reader
import ToolServer.Yaml.Reader

namespace ToolServer

/-! ### Formats -/

/-- The formats of configuration files. -/
inductive FileFormat
  | json | yaml | toml
  deriving DecidableEq, Repr, Inhabited

namespace FileFormat

/-- The name of a format. -/
def name : FileFormat → String
  | .json => "JSON"
  | .yaml => "YAML"
  | .toml => "TOML"

/-- The ending of the last name of a path, behind its last dot. A dot in front of
everything else starts no ending. -/
def ending? (path : List Char) : Option (List Char) :=
  let reversed := path.reverse.dropWhile (· == '/')
  let file := reversed.takeWhile (· != '/')
  let last := file.takeWhile (· != '.')
  if file.length ≤ last.length + 1 then none else some last.reverse

/-- The format that the ending of a path asks for: JSON, unless it is that of
another format. -/
def ofPath (path : String) : FileFormat :=
  match ending? path.toList with
  | some ending =>
    if ending = "toml".toList then .toml
    else if ending = "yaml".toList ∨ ending = "yml".toList then .yaml
    else .json
  | none => .json

/-- The configuration that a text of some format stands for. -/
def decode (format : FileFormat) (text : String) : Option ServerConfig :=
  match format with
  | .json => (Json.readAsWritten (Text.bytesOf text)).toOption.bind
      fun document => (ServerConfig.decode document).toOption
  | .yaml => (Yaml.Node.ofText? text.toList).bind
      fun document => (ServerConfig.decode document).toOption
  | .toml => (Toml.ofText? text.toList).bind
      fun document => (ServerConfig.decode document).toOption

end FileFormat

/-! ### Files -/

/-- What is found under a path. -/
inductive StoredFile
  | absent
  | directory
  | content (bytes : Text.Bytes)
  deriving Repr, Inhabited

/-- The configuration in a file. -/
def ServerConfig.ofFile (path : String) : StoredFile → Except ServerError ServerConfig
  | .absent => .ok {}
  | .directory => .error (.config "failed to read config file")
  | .content bytes =>
    match Text.stringOf? bytes with
    | none => .error (.config "failed to read config file")
    | some text =>
      let format := FileFormat.ofPath path
      match format.decode text with
      | some config => .ok config
      | none => .error (.config s!"failed to parse {format.name} config")

end ToolServer
