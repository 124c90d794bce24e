import CodeAtlas.Repository.Record
import CodeAtlas.Text.Basic

/-!
# Options of a repository

A repository has a file of options: sections in brackets, and under each the options of the
section, with or without a value. Two marks begin a comment. A value may be quoted in parts,
a backslash escapes a character, and one at the end of a line continues the value on the
next. A file that cannot be read this way makes the repository unusable.

The file is read with a character for each byte, so names and values may hold bytes that are
no text. A zero byte ends what is seen of its line.
-/

namespace CodeAtlas

/-- An option under its full name, the section in front, and its value. -/
structure RepositoryOption where
  name : String
  value : Option String
  deriving DecidableEq, Repr

namespace RepositoryOption

/-- Whether a character is white space. -/
def isSpace (c : Char) : Bool := c = ' ' || ('\t' ≤ c && c ≤ '\r')

/-- Drops the white space at the end of a line. -/
def trimEnd (line : List Char) : List Char := (line.reverse.dropWhile isSpace).reverse

/-- Whether a character may stand in the name of an option. -/
def inName (c : Char) : Bool := c.isAlphanum || c = '-'

/-- What is seen of a line. -/
def seen (line : List Char) : List Char := line.takeWhile (· ≠ '\x00')

/-- Reads the quoted second part of a section's name and the closing bracket. -/
def readQuoted : List Char → Option (List Char × List Char)
  | '"' :: ']' :: rest => some ([], rest)
  | '"' :: _ => none
  | '\x00' :: _ => none
  | '\\' :: '\x00' :: _ => none
  | '\\' :: c :: rest => (readQuoted rest).map fun (name, rest) => (c :: name, rest)
  | c :: rest => (readQuoted rest).map fun (name, rest) => (c :: name, rest)
  | [] => none

/-- Reads the name of a section behind its opening bracket, and gives what follows the
closing one. -/
def readSection (cs : List Char) : Option (List Char × List Char) :=
  let name := cs.takeWhile fun c => inName c || c = '.'
  match cs.drop name.length with
  | ']' :: rest => if name.isEmpty then none else some (Chars.lower name, rest)
  | c :: rest =>
    if isSpace c then
      match rest.dropWhile isSpace with
      | '"' :: rest =>
        (readQuoted rest).map fun (inner, rest) => (Chars.lower name ++ '.' :: inner, rest)
      | _ => none
    else none
  | [] => none

/-- Where the reader of a line is. -/
structure Quoting where
  /-- Whether quotes are open. -/
  opened : Bool := false
  /-- Whether the character before is a backslash. -/
  slashed : Bool := false
  /-- Whether the character before is a backslash that escapes. -/
  escaping : Bool := false
  deriving DecidableEq, Repr

/-- A line without its comment, and whether quotes are open at its end. -/
def withoutComment (quoting : Quoting) : List Char → List Char × Bool
  | [] => ([], quoting.opened)
  | c :: rest =>
    let opened := if c = '"' ∧ ¬ quoting.slashed then !quoting.opened else quoting.opened
    if (c = ';' ∨ c = '#') ∧ ¬ opened ∧ ¬ quoting.escaping then ([], opened)
    else
      let slashed := c = '\\'
      let (kept, opened) := withoutComment ⟨opened, slashed, slashed && !quoting.escaping⟩ rest
      (c :: kept, opened)

/-- What a backslash and a character stand for in a value. -/
def escape? : Char → Option Char
  | 'n' => some '\n'
  | 't' => some '\t'
  | 'b' => some '\x08'
  | '"' => some '"'
  | '\\' => some '\\'
  | _ => none

/-- The text of a piece of a value, and whether the next line continues it. -/
def unescape : List Char → Option (List Char × Bool)
  | [] => some ([], false)
  | '"' :: rest => unescape rest
  | ['\\'] => some ([], true)
  | '\\' :: c :: rest => do
    let (text, continues) ← unescape rest
    return ((← escape? c) :: text, continues)
  | c :: rest => do
    let (text, continues) ← unescape rest
    return (c :: text, continues)

/-- The rest of a value that a line continues, and the lines after it. A line of which
nothing is seen ends the value. -/
def readContinued (opened : Bool) :
    List (List Char) → Option (List Char × List (List Char))
  | [] => some ([], [])
  | line :: lines =>
    let (kept, opened) := withoutComment { opened } (seen line)
    let kept := trimEnd kept
    if line.head? = some '\x00' then some ([], lines)
    else if kept.isEmpty then readContinued opened lines
    else do
      let (text, continues) ← unescape kept
      if continues then
        let (more, lines) ← readContinued opened lines
        return (text ++ more, lines)
      else return (text, lines)

/-- Reads an option of a section from its line and, if need be, the lines after it. -/
def readOption (sectionName line : List Char) (lines : List (List Char)) :
    Option (RepositoryOption × List (List Char)) :=
  let (kept, opened) := withoutComment {} (seen line)
  let kept := trimEnd kept
  let key := kept.takeWhile inName
  let lead := if sectionName.isEmpty then [] else sectionName ++ ['.']
  let name := String.ofList (lead ++ Chars.lower key)
  if key.isEmpty then none
  else
    match (kept.drop key.length).dropWhile isSpace with
    | [] => some (⟨name, none⟩, lines)
    | '=' :: value => do
      let (text, continues) ← unescape (value.dropWhile isSpace)
      if continues then
        let (more, lines) ← readContinued opened lines
        return (⟨name, some (String.ofList (text ++ more))⟩, lines)
      else return (⟨name, some (String.ofList text)⟩, lines)
    | _ => none

/-- Whether a line of white space is malformed: it begins with a mark of vertical space. -/
def isVertical (line : List Char) : Bool :=
  line.head?.any fun c => c = '\x0b' || c = '\x0c'

/-- Reads lines of options. Each of the `turns` takes up a section's name or a whole line,
so their number is at most that of the characters and lines. -/
def readLines : (turns : Nat) → (sectionName : List Char) → List (List Char) →
    Option (List RepositoryOption)
  | 0, _, _ => some []
  | _ + 1, _, [] => some []
  | turns + 1, sectionName, line :: lines =>
    match line.dropWhile isSpace with
    | [] => if isVertical line then none else readLines turns sectionName lines
    | '[' :: rest => do
      let (sectionName, rest) ← readSection rest
      readLines turns sectionName (if rest.all isSpace then lines else rest :: lines)
    | c :: rest =>
      if c = '#' ∨ c = ';' then readLines turns sectionName lines
      else do
        let (option, lines) ← readOption sectionName (c :: rest) lines
        return option :: (← readLines turns sectionName lines)

end RepositoryOption

/-- The options of a repository, in the order of the file. -/
abbrev RepositoryOptions := List RepositoryOption

namespace RepositoryOptions

/-- Reads the content of an options file; none when it is malformed. A byte-order mark at
its start is no part of it, and nothing follows a zero byte there. -/
def read? (content : ByteArray) : Option RepositoryOptions :=
  let bytes := content.data.toList
  if bytes.head? = some 0 then some []
  else
    let text := RepositoryRecord.charsOf ((RepositoryRecord.after? "\uFEFF" bytes).getD bytes)
    let lines := Chars.splitAt '\n' text
    RepositoryOption.readLines (text.length + lines.length + 1) [] lines

/-- The option of a name that counts: the last one. -/
def get? (options : RepositoryOptions) (name : String) : Option RepositoryOption :=
  options.reverse.find? fun option => option.name = name

end RepositoryOptions

end CodeAtlas
