import CodeAtlas.Path

/-!
# File systems

A file system is a tree of entries under names. A location is the list of names from the
root down, without links and dots, and the root itself is the empty location. A relative
path begins at the working directory. A path is resolved name by name, following at most
forty links.

Names are texts. A name whose bytes are not UTF-8, which a listing would show with the bad
bytes replaced, cannot be expressed.
-/

namespace CodeAtlas

/-- The names that lead from the root to an entry. -/
abbrev Location := List String

/-- What stands under a name. -/
inductive Entry where
  | file (content : ByteArray)
  /-- A directory and what it holds, each entry under a name of its own. -/
  | directory (held : List (String × Entry))
  /-- A symbolic link and the path it leads to. -/
  | link (target : String)

namespace Entry

/-- What an entry holds by name; only directories hold anything. -/
def held : Entry → List (String × Entry)
  | .directory held => held
  | _ => []

/-- Whether an entry is a directory. -/
def isDirectory : Entry → Bool
  | .directory _ => true
  | _ => false

/-- Whether an entry is a regular file. -/
def isFile : Entry → Bool
  | .file _ => true
  | _ => false

/-- What an entry holds under a name. -/
def child? (entry : Entry) (name : String) : Option Entry :=
  (entry.held.find? fun inner => inner.1 = name).map Prod.snd

/-- What stands where names lead from an entry, links not followed. -/
def at? : Entry → Location → Option Entry
  | entry, [] => some entry
  | entry, name :: names => (entry.child? name).bind fun inner => inner.at? names

/-- A directory that holds what an entry held, and another entry under a name. -/
def holding (entry : Entry) (name : String) (inner : Entry) : Entry :=
  .directory ((entry.held.filter fun old => old.1 ≠ name) ++ [(name, inner)])

/-- Puts an entry where names lead, in the place of what stood there; directories that are
missing on the way are made. -/
def put : Entry → Location → Entry → Entry
  | _, [], new => new
  | entry, name :: names, new =>
    entry.holding name (((entry.child? name).getD (.directory [])).put names new)

/-- Takes away what stands where names lead. -/
def erase : Entry → Location → Entry
  | entry, [] => entry
  | entry, [name] => .directory (entry.held.filter fun old => old.1 ≠ name)
  | entry, name :: names =>
    match entry.child? name with
    | some inner => entry.holding name (inner.erase names)
    | none => entry

mutual

/-- The regular files at or below an entry, by the names that lead to them. Links are not
followed, and nothing at or below a name `.git` is listed. -/
def files : Entry → List Location
  | .file _ => [[]]
  | .directory held => filesHeld held
  | .link _ => []

/-- The regular files at or below what a directory holds. -/
def filesHeld : List (String × Entry) → List Location
  | [] => []
  | (name, entry) :: others =>
    (if name = ".git" then [] else entry.files.map (name :: ·)) ++ filesHeld others

end

mutual

/-- The directories at or below an entry, by the names that lead to them. -/
def directories : Entry → List Location
  | .directory held => [] :: directoriesHeld held
  | _ => []

/-- The directories at or below what a directory holds. -/
def directoriesHeld : List (String × Entry) → List Location
  | [] => []
  | (name, entry) :: others => entry.directories.map (name :: ·) ++ directoriesHeld others

end

end Entry

/-- Why a path cannot be used. -/
inductive PathError where
  | noEntry
  | notDirectory
  | isDirectory
  | nameTooLong
  | tooManyLinks
  | zeroByte
  deriving DecidableEq, Repr

/-- The operating system's words for a path error. -/
def PathError.message : PathError → String
  | .noEntry => "No such file or directory (os error 2)"
  | .notDirectory => "Not a directory (os error 20)"
  | .isDirectory => "Is a directory (os error 21)"
  | .nameTooLong => "File name too long (os error 36)"
  | .tooManyLinks => "Too many levels of symbolic links (os error 40)"
  | .zeroByte => "file name contained an unexpected NUL byte"

/-- What reading a file gives where it need not be there: nothing if there is no file. Any
other fault stays one. -/
def PathError.orNothing : Except PathError ByteArray → Except PathError (Option ByteArray)
  | .ok content => .ok (some content)
  | .error .noEntry => .ok none
  | .error .notDirectory => .ok none
  | .error .isDirectory => .ok none
  | .error fault => .error fault

/-- A finite file system. -/
structure FileSystem where
  /-- Where relative paths begin. -/
  workingDirectory : Location := []
  /-- The directory that holds everything. -/
  root : Entry := .directory []

namespace FileSystem

/-- The number of links one path may lead through. -/
def linkLimit : Nat := 40

/-- The largest number of bytes in a name. -/
def nameLimit : Nat := 255

/-- The number of bytes a whole path has to stay below. -/
def pathLimit : Nat := 4096

/-- A file system with a working directory and nothing in it. -/
def startingAt (workingDirectory : Location) : FileSystem where
  workingDirectory := workingDirectory
  root := (Entry.directory []).put workingDirectory (.directory [])

/-- What stands at a location. -/
def entry? (fs : FileSystem) (location : Location) : Option Entry := fs.root.at? location

/-- Whether a directory stands at a location. -/
def isDirectoryAt (fs : FileSystem) (location : Location) : Bool :=
  (fs.entry? location).any Entry.isDirectory

/-- What the last name of a path may lead to. -/
inductive Ending where
  /-- Something that is there. -/
  | present
  /-- Something that is there, or the place for it in a directory that is there. -/
  | creatable
  deriving DecidableEq, Repr

/-- Where a path begins that is looked up from a directory. -/
def start (path : String) (directory : Location) : Location :=
  if Text.startsWith "/" path then [] else directory

/-- The location that names lead to from another location, following links. -/
def resolveNames (fs : FileSystem) (ending : Ending) (links : Nat) (current : Location) :
    List String → Except PathError Location
  | [] => .ok current
  | name :: rest =>
    if !fs.isDirectoryAt current then .error .notDirectory
    else if name = "" ∨ name = "." then fs.resolveNames ending links current rest
    else if name = ".." then fs.resolveNames ending links current.dropLast rest
    else if nameLimit < Text.byteSize name then .error .nameTooLong
    else
      match fs.entry? (current ++ [name]) with
      | none =>
        if rest.isEmpty ∧ ending = .creatable then .ok (current ++ [name]) else .error .noEntry
      | some (.link target) =>
        match links with
        | 0 => .error .tooManyLinks
        | links + 1 =>
          fs.resolveNames ending links (start target current) (Text.splitAt '/' target ++ rest)
      | some _ => fs.resolveNames ending links (current ++ [name]) rest
  termination_by names => (links, names.length)

/-- The location that names lead to from a directory, if there is something. -/
def below (fs : FileSystem) (directory : Location) (names : List String) :
    Except PathError Location :=
  fs.resolveNames .present linkLimit directory names

/-- The names between the separators of a path that can be looked up. -/
def namesOf (path : String) : Except PathError (List String) :=
  if path.toList.contains (Char.ofNat 0) then .error .zeroByte
  else if path = "" then .error .noEntry
  else if pathLimit ≤ Text.byteSize path then .error .nameTooLong
  else .ok (Text.splitAt '/' path)

/-- The location a path leads to. -/
def resolve (fs : FileSystem) (path : String) : Except PathError Location :=
  (namesOf path).bind (fs.below (start path fs.workingDirectory))

/-- The path that leads to a location. -/
def pathOf (location : Location) : String := "/" ++ Text.join "/" location

/-- Whether a path leads to a directory. -/
def isDirectory (fs : FileSystem) (path : String) : Bool :=
  match fs.resolve path with
  | .ok location => fs.isDirectoryAt location
  | .error _ => false

/-- Whether a path leads to something. -/
def pathExists (fs : FileSystem) (path : String) : Bool :=
  match fs.resolve path with
  | .ok _ => true
  | .error _ => false

/-- The bytes of the file at a location. -/
def contentAt (fs : FileSystem) (location : Location) : Except PathError ByteArray :=
  match fs.entry? location with
  | some (.file content) => .ok content
  | some (.directory _) => .error .isDirectory
  | _ => .error .noEntry

/-- The bytes of the file a path leads to. -/
def read (fs : FileSystem) (path : String) : Except PathError ByteArray :=
  (fs.resolve path).bind fs.contentAt

/-- Puts an entry at a location, in the place of what stood there. -/
def put (fs : FileSystem) (location : Location) (entry : Entry) : FileSystem :=
  { fs with root := fs.root.put location entry }

/-- Makes sure that names lead to directories, and gives the location they lead to. -/
def makeDirectories (fs : FileSystem) (current : Location) : List String → FileSystem × Location
  | [] => (fs, current)
  | name :: rest =>
    match fs.below current [name] with
    | .ok location => fs.makeDirectories location rest
    | .error _ =>
      let location := current ++ [name]
      (fs.put location (.directory [])).makeDirectories location rest

/-- Puts an entry into a directory under a name. A file is written through a link that
stands there, also one that leads to nothing yet; a directory that is there stays. -/
def putInto (fs : FileSystem) (directory : Location) (name : String) (entry : Entry) :
    FileSystem :=
  match entry with
  | .file _ =>
    match fs.resolveNames .creatable linkLimit directory [name] with
    | .ok location => if fs.isDirectoryAt location then fs else fs.put location entry
    | .error _ => fs
  | .directory _ => (fs.makeDirectories directory [name]).1
  | .link _ => fs.put (directory ++ [name]) entry

/-- Puts an entry where a path leads, making the directories above it. -/
def write (fs : FileSystem) (path : String) (entry : Entry) : FileSystem :=
  let names := (Text.splitAt '/' path).filter fun name => name ≠ "" ∧ name ≠ "."
  match names.getLast? with
  | none => fs
  | some name =>
    let (fs, directory) := fs.makeDirectories (start path fs.workingDirectory) names.dropLast
    fs.putInto directory name entry

/-- Removes the file or link that stands in a directory under a name. A path that ended in
a separator is `slashed` and can only have meant a directory. -/
def removeFrom (fs : FileSystem) (directory : Location) (name : String) (slashed : Bool) :
    Except PathError FileSystem :=
  if !fs.isDirectoryAt directory then .error .notDirectory
  else if name = "." ∨ name = ".." then .error .isDirectory
  else if nameLimit < Text.byteSize name then .error .nameTooLong
  else
    let location := directory ++ [name]
    match fs.entry? location with
    | none => .error .noEntry
    | some (.directory _) => .error .isDirectory
    | some _ =>
      if slashed then .error .notDirectory
      else .ok { fs with root := fs.root.erase location }

/-- Removes the file or link a path leads to. A link at the end of the path is not
followed. -/
def remove (fs : FileSystem) (path : String) : Except PathError FileSystem := do
  let names ← namesOf path
  let named := (names.reverse.dropWhile (· = "")).reverse
  match named.getLast? with
  | none => .error .isDirectory
  | some name =>
    let directory ← fs.below (start path fs.workingDirectory) named.dropLast
    fs.removeFrom directory name (named.length < names.length)

/-- The names that lead from one location to another, when they do. -/
def namesBelow? (root location : Location) : Option Location :=
  if root.isPrefixOf location then some (location.drop root.length) else none

/-- The regular files below a location, by the names that lead to them from there. -/
def filesBelow (fs : FileSystem) (location : Location) : List Location :=
  match fs.entry? location with
  | some (.directory held) => Entry.filesHeld held
  | _ => []

/-- The directories at or below a location, by the names that lead to them from there. -/
def directoriesFrom (fs : FileSystem) (location : Location) : List Location :=
  match fs.entry? location with
  | some entry => entry.directories
  | none => []

end FileSystem

end CodeAtlas
