import CodeAtlas.FileSystem
import CodeAtlas.Repository.Record

/-!
# Repositories

A repository records one line of commits, oldest first. Every commit has an id, by which
references name it, and a revision is a reference followed by steps to ancestors. What the
references say is not recorded here: they are files.
-/

namespace CodeAtlas

/-- One commit: its files by path from the top of the working files, and its tag. -/
structure Commit where
  files : List (String × ByteArray)
  tag : Option String := none

/-- The bytes of a file in a commit. Of several files under a path the last one counts. -/
def Commit.file? (commit : Commit) (path : String) : Option ByteArray :=
  (commit.files.reverse.find? fun file => file.1 = path).map Prod.snd

/-- A repository with a single branch. -/
structure Repository where
  /-- The directory that holds what the repository records. -/
  directory : Location
  /-- The commits of the branch, oldest first. -/
  commits : List Commit := []

namespace Repository

/-- The name of the branch. -/
def branch : String := "master"

/-- The number of the first commit's id. Any number of as many digits would do; this one
is not likely to be written by hand. -/
def firstId : Nat := 0xb7e151628aed2a6abf7158809cf4f3c762e7160f

/-- The id of the commit at a position, in hexadecimal digits. Ids are numbers in a row. -/
def id (position : Nat) : String := String.ofList (Nat.toDigits 16 (firstId + position))

/-- The position of the commit with an id. -/
def position? (repository : Repository) (commitId : String) : Option Nat :=
  (List.range repository.commits.length).find? fun position => id position = commitId

/-- One step from a commit to an ancestor. -/
inductive Step where
  /-- The commit that is this many first parents back. -/
  | back (count : Nat)
  /-- The parent of this number; the commit itself for zero. -/
  | parent (number : Nat)
  deriving DecidableEq, Repr

/-- The commit a step leads to; on a single branch there is one parent at most. -/
def Step.apply? : Step → Nat → Option Nat
  | .back count, position => if count ≤ position then some (position - count) else none
  | .parent 0, position => some position
  | .parent 1, position => if 1 ≤ position then some (position - 1) else none
  | .parent _, _ => none

/-- The value of decimal digits. -/
def countValue (digits : List Char) : Nat :=
  digits.foldl (fun n c => n * 10 + (c.toNat - 48)) 0

/-- Reads the steps after a reference; a step without a number counts one. The digits met
so far belong to the open step, if there is one. -/
def readSteps : (opened : Option Char) → (digits : List Char) → List Char → Option (List Step)
  | opened, digits, rest =>
    let count := if digits.isEmpty then 1 else countValue digits.reverse
    let done : List Step := match opened with
      | some '~' => [.back count]
      | some _ => [.parent count]
      | none => []
    match rest with
    | [] => some done
    | c :: rest =>
      if c = '~' ∨ c = '^' then (readSteps (some c) [] rest).map (done ++ ·)
      else if c.isDigit ∧ opened.isSome then readSteps opened (c :: digits) rest
      else none

/-- The reference that a revision begins with. -/
def referencePart (revision : String) : String :=
  String.ofList (revision.toList.takeWhile fun c => !(c = '~' || c = '^'))

/-- The steps that follow the reference of a revision. -/
def steps? (revision : String) : Option (List Step) :=
  readSteps none [] (revision.toList.dropWhile fun c => !(c = '~' || c = '^'))

/-- The commit that steps lead to from the commit with an id. -/
def commitAfter? (repository : Repository) (commitId : String) (steps : List Step) :
    Option Commit :=
  let position := steps.foldl (fun position step => position.bind step.apply?)
    (repository.position? commitId)
  position.bind fun position => repository.commits[position]?

end Repository

/-- The repositories of a workspace. -/
abbrev Repositories := List Repository

/-- The repository recorded in a directory; one that nobody recorded is empty. -/
def Repositories.ofDirectory (repositories : Repositories) (directory : Location) :
    Repository :=
  (repositories.find? fun repository => repository.directory = directory).getD { directory }

end CodeAtlas
