import CodeAtlas.Text.Basic

/-!
# Paths

A path is kept as it was written, because messages repeat it. Its parts are the
names between separators: empty names and dots are dropped, except for one dot at
the very start of a relative path.
-/

namespace CodeAtlas.Path

/-- One part of a path. -/
inductive Part where
  /-- The separator that begins an absolute path. -/
  | root
  /-- A dot at the start of a relative path. -/
  | here
  /-- Two dots. -/
  | up
  | name (name : String)
  deriving DecidableEq, Repr

/-- The part that a name between separators stands for, if any. -/
def part? (name : String) : Option Part :=
  if name = "" ∨ name = "." then none
  else if name = ".." then some .up
  else some (.name name)

/-- The parts of a path in order. -/
def parts (path : String) : List Part :=
  match Text.splitAt '/' path with
  | [] => []
  | "" :: names => (if names.isEmpty then [] else [.root]) ++ names.filterMap part?
  | "." :: names => .here :: names.filterMap part?
  | names => names.filterMap part?

/-- The name of the file a path leads to, when its last part is a name. -/
def fileName? (path : String) : Option String :=
  match (parts path).getLast? with
  | some (.name name) => some name
  | _ => none

/-- What follows the last dot of a file name, when something precedes the dot. -/
def extension? (path : String) : Option String :=
  (fileName? path).bind fun name =>
    match (Text.splitAt '.' name).reverse with
    | ext :: before =>
      if before.all (· = "") ∧ before.length ≤ 1 then none else some ext
    | [] => none

/-- A path below a directory, written after the directory's own path. -/
def join (directory below : String) : String :=
  if directory = "" ∨ Text.endsWith "/" directory then directory ++ below
  else directory ++ "/" ++ below

/-- The path that names lead to from a directory. -/
def below (directory : String) (names : List String) : String :=
  if names.isEmpty then directory else join directory (Text.join "/" names)

/-- What follows the last separator of a path. -/
def baseName (path : String) : String :=
  ((Text.splitAt '/' path).getLast?).getD path

end CodeAtlas.Path
