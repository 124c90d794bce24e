import CodeAtlas.FileSystem
import CodeAtlas.Glob.Expression
import CodeAtlas.Text.ByteLines

/-!
# Ignore files

An ignore file holds one rule to a line: a glob, relative to the directory the file is for,
that ignores what it matches or, after an exclamation mark, keeps it. The last matching
rule of a file decides, and the deepest directory whose file has a matching rule decides
over those above it. The `.ignore` files as a group decide before the `.gitignore` files,
and those before the `info/exclude` files of repositories. Hidden names are ignored unless
a rule keeps them.

The rules of all directories that a listing may ask are read once, before anything is
asked. Below the root of a listing the rules of a directory see paths as the listing writes
them: what the path of the directory takes up at the front is cut off. A dot and a separator
at the front of a path are dropped once more than at the front of a directory, so behind two
of them the cut may fail; the rules then see more of the path.
-/

namespace CodeAtlas

/-- One rule of an ignore file. -/
structure IgnoreRule where
  glob : Glob
  /-- Whether the rule keeps what it matches. -/
  keeps : Bool
  /-- Whether the rule applies to directories only. -/
  directoryOnly : Bool

namespace IgnoreRule

/-- The text of a rule without its marks, whether it is anchored, and whether it
keeps. -/
def unmark (line : List Char) : List Char × Bool × Bool :=
  match line with
  | '\\' :: '!' :: rest => ('!' :: rest, false, false)
  | '\\' :: '#' :: rest => ('#' :: rest, false, false)
  | '!' :: '/' :: rest => (rest, true, true)
  | '!' :: rest => (rest, false, true)
  | '/' :: rest => (rest, true, false)
  | line => (line, false, false)

/-- The text of a rule without a final separator, and whether it had one. An escaped
final separator loses its escape as well. -/
def stripFinalSeparator (text : List Char) : List Char × Bool :=
  match text.reverse with
  | '/' :: '\\' :: before => (before.reverse, true)
  | '/' :: before => (before.reverse, true)
  | _ => (text, false)

/-- The glob of a rule: one without a separator matches at any depth, and everything
below a directory does not include the directory. -/
def globText (anchored : Bool) (text : List Char) : String :=
  let written := String.ofList text
  let anywhere := !anchored && !text.contains '/' && !(written == "**")
  let full := if anywhere then "**/" ++ written else written
  if Text.endsWith "/**" full then full ++ "/*" else full

/-- The rule of a line; none for a comment, an empty line or a bad glob. Blanks at the
end count only after a backslash. -/
def parse? (line : String) : Option IgnoreRule :=
  if Text.startsWith "#" line then none
  else
    let line := if Text.endsWith "\\ " line then line else Text.trimEnd line
    if line = "" then none
    else
      let (text, anchored, keeps) := unmark line.toList
      let (text, directoryOnly) := stripFinalSeparator text
      match Glob.parseLenient (globText anchored text) with
      | .ok glob => some { glob, keeps, directoryOnly }
      | .error _ => none

/-- Whether a rule applies to an entry, given by its path below the rule's directory. -/
def applies (rule : IgnoreRule) (path : String) (isDirectory : Bool) : Bool :=
  (!rule.directoryOnly || isDirectory) && rule.glob.isMatch true path

end IgnoreRule

namespace IgnoreRules

/-- The text of an ignore file, up to the first line that is not text. -/
def readableText (content : ByteArray) : String :=
  match String.fromUTF8? content with
  | some text => text
  | none =>
    Text.join "" ((textsUntilInvalid (byteLines content.data.toList)).map fun line => line ++ "\n")

/-- The rules of an ignore file. Byte-order marks at its start are no part of it. A file
with a glob whose expression is nested too deep has no rules. -/
def ofContent (content : ByteArray) : List IgnoreRule :=
  let text := (readableText content).toList.dropWhile (· = '\uFEFF')
  let rules := (Text.lines (String.ofList text)).filterMap IgnoreRule.parse?
  if rules.any fun rule => rule.glob.isTooDeep true then [] else rules

/-- The kinds of ignore files. -/
inductive Kind where
  /-- The file `.ignore` of a directory. -/
  | plain
  /-- The file `.gitignore` of a directory. -/
  | tracked
  /-- The file `info/exclude` of the repository of a directory. -/
  | exclude
  deriving DecidableEq, Repr

/-- All kinds; those of a kind decide before those of the next. -/
def Kind.all : List Kind := [.plain, .tracked, .exclude]

/-- The first line of some content, when there is one and it is text. -/
def firstLine? (content : ByteArray) : Option String := (Text.lines (readableText content)).head?

/-- The `info/exclude` file that the link file of a working tree leads to: through the
directory after the mark and the file `commondir` in it. The path in that file is relative
to the directory if it begins with a dot. -/
def linkedExclude? (fs : FileSystem) (link : ByteArray) : Option ByteArray := do
  let own ← Text.stripPrefix? "gitdir: " (← firstLine? link)
  let shared ← firstLine? (← (fs.read (Path.join own "commondir")).toOption)
  let directory := if Text.startsWith "." shared then Path.join own shared else shared
  (fs.read (Path.join directory "info/exclude")).toOption

/-- The content of the ignore file of a kind for a directory. -/
def Kind.content? (fs : FileSystem) (directory : Location) (kind : Kind) : Option ByteArray :=
  let found (names : List String) : Option ByteArray :=
    ((fs.below directory names).bind fs.contentAt).toOption
  match kind with
  | .plain => found [".ignore"]
  | .tracked => found [".gitignore"]
  | .exclude =>
    match found [".git"] with
    | some link => linkedExclude? fs link
    | none => found [".git", "info", "exclude"]

/-- The rules of one kind for a directory. -/
structure Page where
  directory : Location
  rules : List IgnoreRule

/-- The rules of a kind for every directory from the root of the file system down to a
location and below it, deepest first. Directories without rules are left out. -/
def pages (fs : FileSystem) (location : Location) (kind : Kind) : List Page :=
  let above := (List.range location.length).map fun depth => location.take depth
  let below := (fs.directoriesFrom location).map fun names => location ++ names
  let pages := (above ++ below).filterMap fun directory =>
    (kind.content? fs directory).map fun content => (⟨directory, ofContent content⟩ : Page)
  (pages.filter fun page => !page.rules.isEmpty).mergeSort fun a b =>
    b.directory.length ≤ a.directory.length

/-- What the last rule that applies says: whether to keep the entry. -/
def verdict? (rules : List IgnoreRule) (path : String) (isDirectory : Bool) : Option Bool :=
  (rules.reverse.find? fun rule => rule.applies path isDirectory).map IgnoreRule.keeps

/-- A path without a dot and a separator at its front. -/
def dropHere (path : String) : String := (Text.stripPrefix? "./" path).getD path

/-- What the rules of a directory see of a path, both as a listing writes them. -/
def seenFrom (directory path : String) : String :=
  let base := dropHere directory
  let path := dropHere (dropHere path)
  if Path.parts base = [.here] ∨ ¬ path.toList.contains '/' then path
  else
    match Text.stripPrefix? base path with
    | none => path
    | some rest => (Text.stripPrefix? "/" rest).getD rest

/-- What a page sees of an entry below the root of a listing, given by the names that lead
to it from there; nothing if the entry is not below the page's directory. -/
def Page.sees? (root : String) (location : Location) (names : List String) (page : Page) :
    Option String :=
  match FileSystem.namesBelow? location page.directory with
  | some above =>
    if above.isPrefixOf names ∧ above ≠ names then
      some (seenFrom (Path.below root above) (Path.below root names))
    else none
  | none =>
    (FileSystem.namesBelow? page.directory location).map fun inside =>
      Text.join "/" (inside ++ names)

/-- A listing and the rules it asks. -/
structure Listing where
  /-- The root of the listing, as it was given. -/
  root : String
  /-- Where the root is. -/
  location : Location
  files : FileSystem
  /-- The pages of each kind, in the order in which kinds decide. -/
  pages : List (List Page)

/-- The listing below a root that is at a location. -/
def Listing.ofRoot (fs : FileSystem) (root : String) (location : Location) : Listing :=
  ⟨root, location, fs, Kind.all.map (IgnoreRules.pages fs location)⟩

namespace Listing

/-- What the pages of a kind say about an entry; the first page with a rule that applies
decides. -/
def decide? (listing : Listing) (names : List String) (isDirectory : Bool)
    (pages : List Page) : Option Bool :=
  pages.findSome? fun page =>
    (page.sees? listing.root listing.location names).bind fun path =>
      verdict? page.rules path isDirectory

/-- Whether an entry is left out. -/
def ignores (listing : Listing) (names : List String) : Bool :=
  let isDirectory := listing.files.isDirectoryAt (listing.location ++ names)
  match listing.pages.findSome? (listing.decide? names isDirectory) with
  | some keep => !keep
  | none => (names.getLast?.map (Text.startsWith ".")).getD false

/-- Whether an entry or a directory between it and the root is left out; the root is not
asked about. -/
def hides (listing : Listing) (names : List String) : Bool :=
  (List.range names.length).any fun i => listing.ignores (names.take (i + 1))

end Listing

end IgnoreRules

end CodeAtlas
