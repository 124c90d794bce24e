import CodeAtlas.Repository.Options
import CodeAtlas.Repository.Place
import CodeAtlas.Wildcard

/-!
# Options in several files

An option of a repository may name a file to be read in its place, with or without a
condition on the directory of the repository or on the branch it is on. The options of the
file then stand behind that option. The file may name others in turn, to `levelLimit` levels.
A file that is not there is passed over. A user may keep options for all repositories in
files as well.
-/

namespace CodeAtlas

/-- The options that a user keeps for all repositories. -/
structure UserOptions where
  /-- The directory of the user, which a tilde stands for. -/
  home? : Option String := none
  /-- The paths of the files; what a file says counts more than what those before it say. -/
  paths : List String := []
  deriving DecidableEq, Repr

namespace RepositoryPlace

/-- The number of levels that options are read on. -/
def levelLimit : Nat := 10

/-- The path of the directory that holds the file of a path. -/
def directoryOf (path : String) : String :=
  let names := ((Text.splitAt '/' path).filter (· ≠ "")).dropLast
  if Text.startsWith "/" path then FileSystem.pathOf names
  else if names.isEmpty then "."
  else Text.join "/" names

/-- The characters that stand for the bytes of a text. -/
def written (text : String) : List Char := RepositoryRecord.charsOf text.toUTF8.data.toList

/-- A pattern from a condition: one that ends in a separator means all that is below. -/
def withBelow (condition pattern : List Char) : List Char :=
  if condition.getLast? = some '/' then pattern ++ ['*', '*'] else pattern

/-- The pattern of a condition on the directory of a repository, which stands in the file of
a path. One that begins with a dot begins at the directory of the file, one that is not
absolute matches at any depth, and one in the home of the user matches nothing. -/
def directoryPattern? (path : String) (condition : List Char) : Option (List Char) :=
  let pattern? := match condition with
    | '~' :: '/' :: _ => none
    | '.' :: '/' :: rest =>
      let directory := directoryOf path
      let rest := rest.dropWhile (· = '/')
      if directory = "/" then some ('/' :: rest) else some (written directory ++ '/' :: rest)
    | '/' :: _ => some condition
    | _ => some ('*' :: '*' :: '/' :: condition)
  pattern?.map (withBelow condition)

/-- The name of the branch that a repository is on, in bytes. -/
def branch? (fs : FileSystem) (place : RepositoryPlace) : Option (List UInt8) := do
  let head := RepositoryRecord.trimmed (← fs.fileIn? place.own "HEAD")
  let reference ← RepositoryRecord.after? "ref: " head
  let branch ← RepositoryRecord.after? "refs/heads/" reference
  return branch.takeWhile (· ≠ 0)

/-- Whether a condition in the file of a path holds; one of an unknown kind does not. -/
def meets (fs : FileSystem) (place : RepositoryPlace) (path : String) (condition : List Char) :
    Bool :=
  let inDirectory (ignoringCase : Bool) (condition : List Char) : Bool :=
    (directoryPattern? path condition).any fun pattern =>
      let directory := (FileSystem.pathOf place.own).toUTF8.data.toList
      Wildcard.isMatch ignoringCase pattern directory
  let after? (mark : String) := Chars.stripPrefix? mark.toList condition
  match after? "gitdir:", after? "gitdir/i:", after? "onbranch:" with
  | some condition, _, _ => inDirectory false condition
  | _, some condition, _ => inDirectory true condition
  | _, _, some condition =>
    (place.branch? fs).any fun branch =>
      Wildcard.isMatch false (withBelow condition condition) branch
  | _, _, _ => false

/-- Whether an option in the file of a path names a file to be read. -/
def isInclusion (fs : FileSystem) (place : RepositoryPlace) (path : String)
    (option : RepositoryOption) : Bool :=
  let condition? := (Chars.stripPrefix? "includeif.".toList option.name.toList).bind
    (Chars.stripSuffix? ".path".toList)
  option.name = "include.path" || condition?.any (place.meets fs path)

/-- The path that a value in the file of a path stands for. -/
def fullPath? (user : UserOptions) (path value : String) : Option String := do
  let named ← textOfBytes? (RepositoryRecord.bytesOf value.toList)
  match Text.stripPrefix? "~/" named with
  | some rest => return Path.join (← user.home?) rest
  | none => return if Text.startsWith "/" named then named else Path.join (directoryOf path) named

/-- The path of the file that an option in the file of a path names. -/
def includedPath? (fs : FileSystem) (user : UserOptions) (place : RepositoryPlace)
    (path : String) (option : RepositoryOption) : Option String :=
  if place.isInclusion fs path option then option.value.bind (fullPath? user path) else none

/-- The options in the content of the file of a path and in those it names, on at most this
many levels; none when one of the files is malformed or cannot be reached. -/
def optionsIn? (fs : FileSystem) (user : UserOptions) (place : RepositoryPlace) :
    (levels : Nat) → (path : String) → (content : ByteArray) → Option RepositoryOptions
  | 0, _, _ => none
  | levels + 1, path, content => do
    let options ← RepositoryOptions.read? content
    let expanded ← options.mapM fun option =>
      match place.includedPath? fs user path option with
      | none => some [option]
      | some named =>
        match PathError.orNothing (fs.read named) with
        | .error _ => none
        | .ok none => some [option]
        | .ok (some content) =>
          (optionsIn? fs user place levels named content).map (option :: ·)
    return expanded.flatten

/-- The options in the file of a path; there need not be one. -/
def optionsAt? (fs : FileSystem) (user : UserOptions) (place : RepositoryPlace)
    (path : String) : Option RepositoryOptions :=
  match PathError.orNothing (fs.read path) with
  | .error _ => none
  | .ok none => some []
  | .ok (some content) => place.optionsIn? fs user levelLimit path content

end RepositoryPlace

end CodeAtlas
