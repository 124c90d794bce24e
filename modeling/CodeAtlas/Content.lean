import CodeAtlas.Revision

/-!
# Content sources

A content source gives the bytes of a path, now or at a revision. The usual source is
the workspace: its files, and the repositories among them. Bytes are text when they are
valid UTF-8 and the first of them hold no zero byte.
-/

namespace CodeAtlas

/-- Gives the bytes of a path at a revision, or now. -/
abbrev ContentSource := (path : String) → (revision : Option String) → Except SearchError ByteArray

/-- Reads from the files of a workspace, or from the repository around them. -/
def workspaceSource (fs : FileSystem) (user : UserOptions) (repositories : Repositories) :
    ContentSource :=
  fun path revision =>
    match revision with
    | some revision => readRevision fs user repositories path revision
    | none =>
      match fs.read path with
      | .ok content => .ok content
      | .error .noEntry => .error (.notFound path)
      | .error error => .error (.io error.message)

/-- A prepared answer of a content source. -/
structure Recorded where
  path : String
  revision : Option String := none
  answer : Except SearchError ByteArray

/-- Answers from a list: the first answer recorded for the path, compared part by part,
and for the revision. -/
def recordedSource (answers : List Recorded) : ContentSource :=
  fun path revision =>
    match answers.find? fun recorded =>
        Path.parts recorded.path = Path.parts path ∧ recorded.revision = revision with
    | some recorded => recorded.answer
    | none => .error (.notFound path)

/-- The number of leading bytes in which a zero byte shows binary content. -/
def binaryWindow : Nat := 8192

/-- Whether content looks binary. -/
def isBinary (content : ByteArray) : Bool :=
  (content.data.toList.take binaryWindow).contains 0

/-- The text of some content; content that is not text is binary. -/
def decodeText (path : String) (content : ByteArray) : Except SearchError String :=
  if isBinary content then .error (.binary path)
  else
    match String.fromUTF8? content with
    | some text => .ok text
    | none => .error (.binary path)

end CodeAtlas
