import CodeAtlas.Repository.Format
import CodeAtlas.Repository.Graft
import CodeAtlas.Repository.Inclusion

/-!
# Working trees

A repository that has been found is opened: its options and its grafts are read, and they
say where its working files are. A working tree with a directory of its own has a file
`gitdir` there that names an entry of the tree. The path in it is taken from the directory if
it begins with one or two dots and a separator, and from the working directory if not.
-/

namespace CodeAtlas

/-- Where the working files of a repository are. -/
inductive WorkTree where
  /-- There are none. -/
  | bare
  | located (directory : Location)
  /-- In a directory that is not there. -/
  | missing
  deriving DecidableEq, Repr

namespace RepositoryPlace

/-- The options of a repository: those of the user, behind them those that are shared, and
last those of the working tree, where it may have its own. None when they cannot be used. -/
def options? (fs : FileSystem) (user : UserOptions) (place : RepositoryPlace) :
    Option RepositoryOptions := do
  let kept ← user.paths.mapM (place.optionsAt? fs user)
  let shared ← place.optionsAt? fs user (FileSystem.pathOf (place.shared ++ ["config"]))
  let ownPath := FileSystem.pathOf (place.own ++ ["config.worktree"])
  let own ← if shared.areSplit then place.optionsAt? fs user ownPath else some []
  let options : RepositoryOptions := kept.flatten ++ shared ++ own
  if options.areUsable then some options else none

/-- Whether the grafts in a file of a directory can be used; there need not be one. -/
def hasUsableGrafts (fs : FileSystem) (directory : Location) (names : List String) : Bool :=
  match PathError.orNothing ((fs.below directory names).bind fs.contentAt) with
  | .error _ => false
  | .ok none => true
  | .ok (some content) => Graft.areWellFormed content

/-- The options of a repository that can be opened. -/
def openedOptions? (fs : FileSystem) (user : UserOptions) (place : RepositoryPlace) :
    Option RepositoryOptions := do
  let options ← place.options? fs user
  if hasUsableGrafts fs place.shared ["info", "grafts"] ∧ hasUsableGrafts fs place.own ["shallow"]
  then some options
  else none

/-- Whether the repository is one of several working trees that share their records. -/
def isLinked (fs : FileSystem) (place : RepositoryPlace) : Bool :=
  place.own ≠ place.shared && (fs.below place.own ["gitdir"]).isOk

/-- The names of a path with dots taken out as they stand; none above the root. -/
def plainNames? (above : Location) : List String → Option Location
  | [] => some above
  | name :: names =>
    if name = "" ∨ name = "." then plainNames? above names
    else if name = ".." then
      if above.isEmpty then none else plainNames? above.dropLast names
    else plainNames? (above ++ [name]) names

/-- The names of the directory that a path names something in. -/
def namesAbove (path : String) : List String :=
  ((Text.splitAt '/' path).reverse.dropWhile (· = "")).reverse.dropLast

/-- The working tree that is at a location. -/
def treeAt : Except PathError Location → WorkTree
  | .ok directory => .located directory
  | .error _ => .missing

/-- The working tree that the record of a linked repository names by an entry of it. -/
def linkedTree? (fs : FileSystem) (place : RepositoryPlace) : Option WorkTree := do
  let path ← RepositoryRecord.text? (← fs.fileIn? place.own "gitdir")
  if FileSystem.isDotted path then
    let names ← plainNames? place.own (Text.splitAt '/' path)
    return treeAt (fs.below [] names.dropLast)
  else
    let start := FileSystem.start path fs.workingDirectory
    return treeAt (fs.below start (namesAbove path))

/-- Where the working files of a repository are; none when it cannot be opened. -/
def workTree? (fs : FileSystem) (user : UserOptions) (place : RepositoryPlace) :
    Option WorkTree := do
  let options ← place.openedOptions? fs user
  let bare ← options.bare?
  if place.isLinked fs then place.linkedTree? fs
  else if bare then return .bare
  else
    match options.workTree? with
    | none => return .located place.around
    | some [] => none
    | some bytes => return .located (← fs.lookUp? place.own (← textOfBytes? bytes))

end RepositoryPlace

end CodeAtlas
