import CodeAtlas.Environment.Assignment
import CodeAtlas.FileSystem
import CodeAtlas.Text.ByteLines

/-!
# Settings files

A settings file adds variables to an environment, line by line, and never changes one
that is already there. Its first malformed line ends it; what stood before that line
stays in effect. A value that no variable can hold is worse: it ends the program. Two
files are looked at, in the working directory and in the user's configuration directory,
and the second one counts only if the first one is missing or does not load.
-/

namespace CodeAtlas

/-- How the loading of a settings file ends. -/
inductive Loading where
  /-- Every line was read. -/
  | complete (environment : Environment)
  /-- A line could not be read. -/
  | stopped (environment : Environment)
  /-- A variable was given a value that it cannot hold. -/
  | refused
  deriving DecidableEq, Repr

namespace Environment

/-- Adds the variables of lines. -/
def loadLines : Environment → List (List UInt8) → Loading
  | environment, [] => .complete environment
  | environment, bytes :: rest =>
    match textOfBytes? bytes with
    | none => .stopped environment
    | some line =>
      match SettingsLine.read environment.expand line.toList with
      | .malformed => .stopped environment
      | .blank => environment.loadLines rest
      | .assignment name value =>
        match environment.setDefault? name value with
        | some environment => environment.loadLines rest
        | none => .refused

/-- Adds the variables of a file's content. -/
def load (environment : Environment) (content : ByteArray) : Loading :=
  environment.loadLines (byteLines content.data.toList)

/-- Adds the variables of files until one loads; none when a value is refused. A file that
is not there is none; one that cannot be read is an error. -/
def loadFirst? : Environment → List (Option (Except PathError ByteArray)) → Option Environment
  | environment, [] => some environment
  | environment, none :: rest => environment.loadFirst? rest
  | environment, some (.error _) :: rest => environment.loadFirst? rest
  | environment, some (.ok content) :: rest =>
    match environment.load content with
    | .complete environment => some environment
    | .stopped environment => environment.loadFirst? rest
    | .refused => none

/-- The name of a settings file. -/
def settingsName : String := ".env"

/-- The directory of this program among those of a user's configuration. -/
def settingsDirectory : String := "code-extractor-mcp"

/-- The directory of a user's configuration. -/
def configurationHome? (environment : Environment) : Option String :=
  match environment.get? "XDG_CONFIG_HOME" with
  | some directory => some directory
  | none => (environment.get? "HOME").map fun home => Path.join home ".config"

/-- The settings files that are looked at, in order. -/
def settingsPaths (environment : Environment) : List String :=
  [settingsName] ++
    (environment.configurationHome?.map fun home =>
      Path.join (Path.join home settingsDirectory) settingsName).toList

end Environment

/-- The content of a file, if there is anything under its path. -/
def FileSystem.probe (fs : FileSystem) (path : String) : Option (Except PathError ByteArray) :=
  if fs.pathExists path then some (fs.read path) else none

/-- The environment with the variables of its settings files; none when a value in them is
refused. -/
def Environment.settled? (environment : Environment) (fs : FileSystem) : Option Environment :=
  environment.loadFirst? (environment.settingsPaths.map fs.probe)

end CodeAtlas
