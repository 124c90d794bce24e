import CodeAtlas.Repository.Basic
import CodeAtlas.Repository.Reference
import CodeAtlas.Repository.WorkTree
import CodeAtlas.SearchError

/-!
# Files at a revision

A file is read at a revision from the repository around it: the repository is found from
the directory of the file, and the file by its path from the top of the working files.
-/

namespace CodeAtlas

/-- Where a file is or was: the names that lead to it from the root, and the directory that
holds it, if that is there. A file that is not there may be recorded in a commit. -/
structure Whereabouts where
  names : Location
  directory? : Option Location

/-- Where the file of a path is or was. -/
def Whereabouts.ofPath (fs : FileSystem) (path : String) : Whereabouts :=
  match fs.resolve path with
  | .ok location => ⟨location, some location.dropLast⟩
  | .error _ =>
    let given := (Path.parts path).filterMap fun
      | .name name => some name
      | .up => some ".."
      | _ => none
    let names := FileSystem.start path fs.workingDirectory ++ given
    match names.getLast? with
    | none => ⟨[], none⟩
    | some last =>
      match fs.below [] names.dropLast with
      | .error _ => ⟨names, none⟩
      | .ok directory => ⟨if last = ".." then names else directory ++ [last], some directory⟩

/-- The bytes of a file of a repository at a revision. -/
def fileAtRevision? (fs : FileSystem) (repositories : Repositories) (place : RepositoryPlace)
    (revision path : String) : Option ByteArray := do
  let commitId ← Reference.id? fs place (Repository.referencePart revision)
  let steps ← Repository.steps? revision
  let commit ← (repositories.ofDirectory place.shared).commitAfter? commitId steps
  commit.file? path

/-- Reads a file at a revision from the repository around it. -/
def readRevision (fs : FileSystem) (user : UserOptions) (repositories : Repositories)
    (path revision : String) : Except SearchError ByteArray :=
  let file := Whereabouts.ofPath fs path
  let opened := do
    let place ← fs.repositoryPlace? (← file.directory?)
    return (place, ← place.workTree? fs user)
  let outside : SearchError := .notFound (path ++ " is outside the repository")
  match opened with
  | none => .error (.notFound ("no repository for " ++ path))
  | some (_, .bare) => .error (.notFound "bare repository")
  | some (_, .missing) => .error outside
  | some (place, .located workTree) =>
    match FileSystem.namesBelow? workTree file.names with
    | none => .error outside
    | some names =>
      let inside := Text.replaceChar '\\' '/' (Text.join "/" names)
      match fileAtRevision? fs repositories place revision inside with
      | some content => .ok content
      | none => .error (.notFound (revision ++ ":" ++ inside))

end CodeAtlas
