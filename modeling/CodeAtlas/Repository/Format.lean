import CodeAtlas.Repository.Options

/-!
# The format of a repository

What the options of a repository say about its format: whether it has working files, where
they are, and the version with its extensions. Values are words or integers. An option whose
value cannot be read, or that asks for more than is known here, makes the repository
unusable.
-/

namespace CodeAtlas

namespace RepositoryOptions

/-! ## Values -/

/-- The value of a digit in a base. -/
def digit? (base : Nat) (c : Char) : Option Nat :=
  let value :=
    if c.isDigit then c.toNat - 48
    else if c.isAlpha then c.toLower.toNat - 87
    else base
  if value < base then some value else none

/-- The base that a number is written in, and the number without the mark for it. Zero
marks base eight, and zero and an x before more base sixteen. -/
def based (cs : List Char) : Nat × List Char :=
  match cs with
  | '0' :: x :: c :: rest => if x.toLower = 'x' then (16, c :: rest) else (8, cs)
  | '0' :: _ => (8, cs)
  | _ => (10, cs)

/-- Whether an integer can be kept in a number of bits. -/
def fits (bits : Nat) (n : Int) : Bool := -Int.pow 2 (bits - 1) ≤ n && n < Int.pow 2 (bits - 1)

/-- The sign of a number, and the number without it. -/
def signed (cs : List Char) : Int × List Char :=
  match cs with
  | '-' :: cs => (-1, cs)
  | '+' :: cs => (1, cs)
  | cs => (1, cs)

/-- The power of 1024 that the letter after a number stands for. -/
def scale? (cs : List Char) : Option Int :=
  match Chars.lower cs with
  | [] => some 1
  | ['k'] => some 1024
  | ['m'] => some (Int.pow 1024 2)
  | ['g'] => some (Int.pow 1024 3)
  | _ => none

/-- The integer that a value is, after white space. The digits are kept in 64 bits, and
scaling wraps there; the outcome has to fit 32 bits. -/
def integer? (text : String) : Option Int :=
  let (sign, cs) := signed (text.toList.dropWhile RepositoryOption.isSpace)
  let (base, cs) := based cs
  let digits := cs.takeWhile fun c => (digit? base c).isSome
  let value : Nat := digits.foldl (fun n c => n * base + (digit? base c).getD 0) 0
  if digits.isEmpty ∨ !fits 64 (sign * value) then none
  else do
    let scaled := Int.bmod (sign * value * (← scale? (cs.drop digits.length))) (Nat.pow 2 64)
    if fits 32 scaled then some scaled else none

/-- Whether a value says yes; an option without a value does. -/
def truth? (value : Option String) : Option Bool :=
  match value with
  | none => some true
  | some word =>
    if ["true", "yes", "on"].contains (Text.lower word) then some true
    else if ["false", "no", "off", ""].contains (Text.lower word) then some false
    else (integer? word).map fun n => n ≠ 0

/-! ## What the options say -/

/-- Whether the repository has no working files; none when the option is unreadable. -/
def bare? (options : RepositoryOptions) : Option Bool :=
  match options.get? "core.bare" with
  | none => some false
  | some option => truth? option.value

/-- The path of the working files in bytes, where the options name one. -/
def workTree? (options : RepositoryOptions) : Option (List UInt8) :=
  (options.get? "core.worktree").bind fun option =>
    option.value.map fun value => RepositoryRecord.bytesOf value.toList

/-- Whether a working tree has options of its own. -/
def areSplit (options : RepositoryOptions) : Bool :=
  (options.get? "extensions.worktreeconfig").any fun option => truth? option.value = some true

/-- The version of the format; none when it is unreadable. -/
def version? (options : RepositoryOptions) : Option Int :=
  match options.get? "core.repositoryformatversion" with
  | none => some 0
  | some option => option.value.bind integer?

/-- The extensions of the format that are known. -/
def knownExtensions : List String :=
  ["extensions.noop", "extensions.objectformat", "extensions.worktreeconfig"]

/-- Whether an option asks for no unknown extension. -/
def isKnown (option : RepositoryOption) : Bool :=
  !Text.startsWith "extensions." option.name || knownExtensions.contains option.name

/-- Whether ids are of the kind that is known. -/
def haveKnownIds (options : RepositoryOptions) : Bool :=
  (options.get? "extensions.objectformat").all fun option => option.value = some "sha1"

/-- Whether the repository is of a format that is known. Extensions count from version one
on. -/
def areUsable (options : RepositoryOptions) : Bool :=
  match options.version? with
  | none => false
  | some version =>
    version < 1 || (version = 1 && options.all isKnown && options.haveKnownIds)

end RepositoryOptions

end CodeAtlas
