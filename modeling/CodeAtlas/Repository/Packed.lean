import CodeAtlas.Repository.Record
import CodeAtlas.Text.Chars

/-!
# Packed references

References may be packed into one file: after comments at its start, a line for each has the
id of a commit, a space and the name of the reference. A line behind it that begins with a
caret has the id that a tag leads to in the end, and is passed over.

A first comment may say that the names are sorted. Then only the line of the name that is
asked for is looked at. Otherwise the whole file is read, and nothing is found in one that is
malformed.
-/

namespace CodeAtlas.Reference

/-- Why a reference does not lead to a commit. -/
inductive Fault where
  | missing
  /-- There is something, but it cannot be read. -/
  | corrupt
  deriving DecidableEq, Repr

namespace Packed

/-- What the first comment begins with. -/
def mark : List Char := "# pack-refs with:".toList

/-- Whether a line begins with a character. -/
def begins (c : Char) (line : List Char) : Bool := line.head? = some c

/-- Reads the line of a reference: its name and its id. A return at the end of the line is
dropped. -/
def readLine? (line : List Char) : Option (List Char × String) := do
  let (id, rest) ← RepositoryRecord.readId? line
  match rest with
  | ' ' :: name => some (if name.getLast? = some '\r' then name.dropLast else name, id)
  | _ => none

/-- Whether a line is the one with the final id of a tag; the last line of the file ends with
the id. -/
def isFinal (line : List Char) (last : Bool) : Bool :=
  begins '^' line && (RepositoryRecord.readId? (line.drop 1)).any fun read =>
    !last || read.2.isEmpty

/-- Reads the lines of all references. What follows the last line end comes last, and is
empty unless it is the final id of a tag. -/
def readAll? : List (List Char) → Option (List (List Char × String))
  | [] => some []
  | [rest] => if rest.isEmpty then some [] else none
  | line :: next :: lines =>
    if begins '^' next then
      if isFinal next lines.isEmpty then do return (← readLine? line) :: (← readAll? lines)
      else none
    else do return (← readLine? line) :: (← readAll? (next :: lines))

/-- The id under a name in the lines of all references. The last line of a name counts. -/
def findInAll (lines : List (List Char)) (name : List Char) : Except Fault String :=
  match readAll? lines with
  | none => .error .corrupt
  | some read =>
    match read.reverse.find? fun entry => entry.1 = name with
    | some (_, id) => .ok id
    | none => .error .missing

/-- The id under a name in lines that are sorted. -/
def findInSorted (name : List Char) : List (List Char) → Except Fault String
  | [] => .error .missing
  | [_] => .error .missing
  | line :: next :: lines =>
    if line.drop (RepositoryRecord.idLength + 1) = name ∧ !begins '^' line then
      match RepositoryRecord.readId? line with
      | none => .error .corrupt
      | some (id, _) =>
        if begins '^' next ∧ (RepositoryRecord.readId? (next.drop 1)).isNone then .error .corrupt
        else .ok id
    else findInSorted name (next :: lines)

/-- The id under a name in a file of packed references. -/
def find (content : ByteArray) (name : String) : Except Fault String :=
  let cs := RepositoryRecord.charsOf content.data.toList
  let name := RepositoryRecord.charsOf name.toUTF8.data.toList
  let lines := Chars.splitAt '\n' cs
  let first := (Chars.stripPrefix? mark (lines.headD [])).getD []
  let isSorted := Chars.contains " sorted ".toList first
  match lines.dropWhile (begins '#') with
  | [] => .error .corrupt
  | lines =>
    if isSorted then findInSorted name lines
    else if cs.contains '\x00' then .error .corrupt
    else findInAll lines name

end Packed

end CodeAtlas.Reference
