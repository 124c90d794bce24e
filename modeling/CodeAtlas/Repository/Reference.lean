import CodeAtlas.Repository.Packed
import CodeAtlas.Repository.Place
import CodeAtlas.Text.Basic

/-!
# References

A reference is a file of a repository that names a commit by its id, or another reference
that it stands for. References under `refs/` are shared by the working trees of a
repository, all others are a tree's own. One that has no file may be packed with others. A
short name is tried in the places where references usually are.
-/

namespace CodeAtlas.Reference

/-- What a reference says. -/
inductive Target where
  /-- The id of a commit. -/
  | id (text : String)
  /-- The reference it stands for. -/
  | reference (name : String)
  deriving DecidableEq, Repr

/-! ## Names -/

/-- Whether a character may stand in a name. -/
def isNameChar (c : Char) : Bool :=
  ' ' < c && !(['~', '^', ':', '\\', '?', '[', '*'].contains c)

/-- Whether a text may stand between the separators of a name. -/
def isSegment (segment : String) : Bool :=
  segment ≠ "" && segment.toList.all isNameChar && !Text.startsWith "." segment
    && !Text.contains ".." segment && !Text.contains "@\x7b" segment
    && !Text.endsWith ".lock" segment

/-- Whether a segment is of the kind that stands alone. -/
def isCapital (segment : String) : Bool :=
  (segment.toList.all fun c => c.isUpper || c = '_')
    && !Text.startsWith "_" segment && !Text.endsWith "_" segment

/-- Whether a text is the name of a reference. A name of one segment is in capitals, and
one of several does not begin with such a segment. -/
def isName (name : String) : Bool :=
  let segments := Text.splitAt '/' name
  segments.all isSegment && !Text.endsWith "." name
    && (segments.length == 1) == isCapital (segments.headD "")

/-- The full names that a short name may stand for, in the order they are tried. -/
def candidates (short : String) : List String :=
  ["", "refs/", "refs/tags/", "refs/heads/", "refs/remotes/"].map (· ++ short)
    ++ ["refs/remotes/" ++ short ++ "/HEAD"]

/-! ## Reading -/

/-- The directory that a reference is kept in. -/
def home (place : RepositoryPlace) (name : String) : Location :=
  if Text.startsWith "refs/" name ∧ ¬ Text.startsWith "refs/bisect/" name then place.shared
  else place.own

/-- What the content of a reference says. Behind an id only white space counts as its
end. -/
def target? (content : ByteArray) : Option Target :=
  match RepositoryRecord.after? "ref: " content.data.toList with
  | some _ =>
    (RepositoryRecord.after? "ref: " (RepositoryRecord.trimmed content)).bind fun bytes =>
      if bytes.isEmpty then none else (RepositoryRecord.spelled? bytes).map .reference
  | none => do
    let (id, rest) ← RepositoryRecord.readId? (RepositoryRecord.charsOf content.data.toList)
    if (RepositoryRecord.bytesOf rest).head?.all fun b => b = 0 || RepositoryRecord.isSpace b then
      some (.id id)
    else none

/-- What the packed references say of one. -/
def readPacked (fs : FileSystem) (place : RepositoryPlace) (name : String) :
    Except Fault Target :=
  match (fs.below place.shared ["packed-refs"]).bind fs.contentAt with
  | .ok content => (Packed.find content name).map .id
  | .error .noEntry => .error .missing
  | .error .notDirectory => .error .missing
  | .error _ => .error .corrupt

/-- What a reference says. -/
def read (fs : FileSystem) (place : RepositoryPlace) (name : String) : Except Fault Target :=
  let content := (fs.below (home place name) (Text.splitAt '/' name)).bind fs.contentAt
  match PathError.orNothing content with
  | .error _ => .error .corrupt
  | .ok none => readPacked fs place name
  | .ok (some content) =>
    match target? content with
    | some target => .ok target
    | none => .error .corrupt

/-- The number of references that one may lead through. -/
def levelLimit : Nat := 5

/-- The id that a reference leads to through a number of others at most. -/
def resolve (fs : FileSystem) (place : RepositoryPlace) : (levels : Nat) → (name : String) →
    Except Fault String
  | levels, name =>
    match read fs place name with
    | .error fault => .error fault
    | .ok (.id text) => .ok text
    | .ok (.reference next) =>
      match levels with
      | 0 => .error .corrupt
      | levels + 1 => resolve fs place levels next

/-- The id that the first of some names leads to. Names that nothing is kept under, and
texts that are no names, are passed over. -/
def firstId? (fs : FileSystem) (place : RepositoryPlace) : List String → Option String
  | [] => none
  | name :: names =>
    if isName name then
      match resolve fs place levelLimit name with
      | .ok text => some text
      | .error .missing => firstId? fs place names
      | .error .corrupt => none
    else firstId? fs place names

/-- The id that a short name leads to. -/
def id? (fs : FileSystem) (place : RepositoryPlace) (short : String) : Option String :=
  firstId? fs place (candidates short)

end CodeAtlas.Reference
