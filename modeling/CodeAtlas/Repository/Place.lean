import CodeAtlas.FileSystem
import CodeAtlas.Repository.Record

/-!
# Where repositories are

The repository of a file is looked for from the file's directory upwards: a directory
belongs to one if it has an entry `.git` that is the directory of a repository, or a file
that links to one, and it may be the directory of a repository itself. What is found is
looked at once more.

A working tree may have a directory of its own and share the rest with others. Its own
directory then has a file `commondir` that says where the shared one is. The path in it is
taken from the directory if it begins with one or two dots and a separator, and from the
working directory if not.
-/

namespace CodeAtlas

/-- Where a repository is. -/
structure RepositoryPlace where
  /-- The directory of the working tree's own records. -/
  own : Location
  /-- The directory of what working trees share. -/
  shared : Location
  /-- The directory that holds the repository or the link to it. -/
  around : Location
  deriving DecidableEq, Repr

/-- What a directory says about the repository around it. -/
inductive Clue where
  | found (place : RepositoryPlace)
  /-- There is something that does not lead to a repository. -/
  | broken
  /-- Nothing: the directory above is asked. -/
  | nothing
  deriving DecidableEq, Repr

namespace FileSystem

/-- The content of a file with a name in a directory. -/
def fileIn? (fs : FileSystem) (directory : Location) (name : String) : Option ByteArray :=
  ((fs.below directory [name]).bind fs.contentAt).toOption

/-- Whether a name in a directory leads to a directory. -/
def hasDirectory (fs : FileSystem) (directory : Location) (name : String) : Bool :=
  match fs.below directory [name] with
  | .ok location => fs.isDirectoryAt location
  | .error _ => false

/-- What a path leads to from a directory. -/
def lookUp? (fs : FileSystem) (directory : Location) (path : String) : Option Location :=
  (fs.below (start path directory) (Text.splitAt '/' path)).toOption

/-- Whether the path in a record is taken from the directory of the record. -/
def isDotted (path : String) : Bool := Text.startsWith "./" path || Text.startsWith "../" path

/-- The directory of what a repository shares: the one its record names, or itself; none
if the record leads nowhere. -/
def sharedDirectory? (fs : FileSystem) (directory : Location) : Option Location :=
  match fs.fileIn? directory "commondir" with
  | none => some directory
  | some content =>
    (RepositoryRecord.text? content).bind fun path =>
      if isDotted path then fs.lookUp? directory path
      else if path = "" then none
      else fs.lookUp? fs.workingDirectory path

/-- What a directory says by what it holds, when it was come upon from `around`. -/
def ownClue (fs : FileSystem) (directory around : Location) : Clue :=
  match fs.sharedDirectory? directory with
  | none => .broken
  | some shared =>
    if (fs.fileIn? directory "HEAD").isSome ∧ fs.hasDirectory shared "objects"
        ∧ fs.hasDirectory shared "refs" then
      .found ⟨directory, shared, around⟩
    else .nothing

/-- The path that a file links to in place of the directory of a repository. -/
def repositoryLink? (content : ByteArray) : Option String :=
  (RepositoryRecord.after? "gitdir:" (RepositoryRecord.trimmed content)).bind fun bytes =>
    if bytes.isEmpty then none
    else RepositoryRecord.spelled? (bytes.dropWhile RepositoryRecord.isSpace)

/-- What the link in a directory says. -/
def linkClue (fs : FileSystem) (location : Location) (content : ByteArray) : Clue :=
  match (repositoryLink? content).bind (fs.lookUp? location) with
  | none => .broken
  | some directory =>
    match fs.ownClue directory location with
    | .nothing => .broken
    | clue => clue

/-- What a directory says: its entry `.git` first, then the directory itself. -/
def clueAt (fs : FileSystem) (location : Location) : Clue :=
  let itself := fs.ownClue location location.dropLast
  match fs.below location [".git"] with
  | .error _ => itself
  | .ok inner =>
    match fs.entry? inner with
    | some (.file content) => fs.linkClue location content
    | some (.directory _) =>
      match fs.ownClue inner location with
      | .nothing => itself
      | clue => clue
    | _ => itself

/-- The directory of the repository around a location. The names that lead to the location
are given last first. -/
def repositoryAround? (fs : FileSystem) (names : List String) : Option Location :=
  match fs.clueAt names.reverse, names with
  | .found place, _ => some place.own
  | .broken, _ => none
  | .nothing, [] => none
  | .nothing, _ :: above => fs.repositoryAround? above

/-- The place of the repository around a directory: the one that is found, looked at once
more. -/
def repositoryPlace? (fs : FileSystem) (directory : Location) : Option RepositoryPlace :=
  (fs.repositoryAround? directory.reverse).bind fun own =>
    match fs.clueAt own with
    | .found place => some place
    | _ => none

end FileSystem

end CodeAtlas
