import CodeAtlas.Environment.Settings
import CodeAtlas.Server.Session

/-!
# Workspaces

A workspace is everything a server finds around itself: the files, the repositories
among them and the parser of their texts. With an environment it makes an engine, and
with an input a session. A session that cannot be set up ends with a code of its own and
writes nothing.
-/

namespace CodeAtlas

/-- What a server works on. -/
structure Workspace where
  files : FileSystem := {}
  repositories : Repositories := []
  /-- The options that its user keeps for all repositories. -/
  userOptions : UserOptions := {}
  parser : Parser

/-- How a run of the program ends: the exit code and the lines it wrote. -/
structure Run where
  code : Nat
  lines : List String
  deriving DecidableEq, Repr

/-- The exit code of a run that was given up. -/
def Run.givenUpCode : Nat := 101

/-- The options that the user of an environment keeps for all repositories: a file in the
directory of the user's configuration, and one in the user's own, which counts more. -/
def Environment.userOptions (environment : Environment) : UserOptions :=
  let home? := (environment.get? "HOME").filter (· ≠ "")
  let configured := environment.configurationHome?.map (Path.join · "git/config")
  let own := home?.map (Path.join · ".gitconfig")
  { home?, paths := configured.toList ++ own.toList }

namespace Workspace

/-- The engine of a workspace under a configuration. -/
def engine (workspace : Workspace) (config : Config) : Engine where
  config := config
  analyzer := { parser := workspace.parser }
  files := workspace.files
  source := workspaceSource workspace.files workspace.userOptions workspace.repositories

/-- The lines a server writes for an input, configured by an environment. -/
def serve (workspace : Workspace) (environment : Environment) (input : ByteArray) :
    List String :=
  Session.run (workspace.engine (Config.ofEnvironment environment.get?)) input

/-- A run on an input: the settings files are loaded, then the input is served. -/
def run (workspace : Workspace) (environment : Environment) (input : ByteArray) : Run :=
  match environment.settled? workspace.files with
  | none => ⟨Run.givenUpCode, []⟩
  | some environment =>
    let workspace := { workspace with userOptions := environment.userOptions }
    ⟨0, workspace.serve environment input⟩

end Workspace

end CodeAtlas
