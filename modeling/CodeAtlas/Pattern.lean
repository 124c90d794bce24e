import CodeAtlas.Grammar.Builtin
import CodeAtlas.Query
import CodeAtlas.Sha256

/-!
# Structural patterns

A pattern lists node kinds, one to a line, each with the name its matches are captured
under: `(call) @call`. A capture is numbered by the first line that uses its name.
A pattern is compiled for a language, whose grammar has to know every kind it lists.
-/

namespace CodeAtlas

/-- A node kind and the name its matches are captured under. -/
structure Capture where
  kind : String
  name : String
  deriving DecidableEq, Repr

namespace Capture

/-- A line of a pattern. -/
def render (capture : Capture) : String := "(" ++ capture.kind ++ ") @" ++ capture.name

/-- Reads a line of a pattern. -/
def parse? (line : String) : Option Capture :=
  (Text.stripPrefix? "(" line).bind fun rest =>
    let kind := rest.toList.takeWhile (· ≠ ')')
    (Chars.stripPrefix? ") @".toList (rest.toList.drop kind.length)).map fun name =>
      ⟨String.ofList kind, String.ofList name⟩

end Capture

/-- The pattern that finds the calls of a language: every kind of call, captured as
`call`. -/
def Language.callPattern (language : Language) : String :=
  Text.join "\n" (language.grammar.callKinds.map fun kind => Capture.render ⟨kind, "call"⟩)

/-- The fixed pattern of a search kind; definitions are found by walking the tree. -/
def Language.patternText (language : Language) : SearchKind → Option String
  | .functionCalls => some language.callPattern
  | .symbolDefinitions => none

/-- A pattern that fits the grammar of a language. -/
structure CompiledPattern where
  language : Language
  captures : List Capture
  deriving DecidableEq, Repr

namespace CompiledPattern

/-- The names of the captures, each once, in order of appearance. -/
def names (pattern : CompiledPattern) : List String :=
  (pattern.captures.map Capture.name).eraseDups

/-- The number of a capture. -/
def index? (pattern : CompiledPattern) (name : String) : Option Nat :=
  pattern.names.findIdx? (· = name)

/-- Whether a node is matched and captured under a name. -/
def captures? (pattern : CompiledPattern) (name : String) (node : Node) : Bool :=
  node.named && pattern.captures.any fun capture => capture.kind = node.kind && capture.name = name

end CompiledPattern

namespace Pattern

/-- The words for a position in a pattern that cannot be compiled. -/
def faultMessage (row column offset : Nat) (message fault : String) : String :=
  "QueryError \x7b row: " ++ toString row ++ ", column: " ++ toString column ++ ", offset: "
    ++ toString offset ++ ", message: \"" ++ message ++ "\", kind: " ++ fault ++ " \x7d"

/-- Reads the lines of a pattern, given the row and byte offset of the first; says what
is wrong with the first line that cannot be read or names an unknown kind. -/
def readLines (knows : String → Bool) : (row offset : Nat) → List String →
    Except String (List Capture)
  | _, _, [] => .ok []
  | row, offset, line :: lines =>
    match Capture.parse? line with
    | none => .error (faultMessage row 0 offset line "Syntax")
    | some capture =>
      if knows capture.kind then
        match readLines knows (row + 1) (offset + Text.byteSize line + 1) lines with
        | .ok captures => .ok (capture :: captures)
        | .error message => .error message
      else .error (faultMessage row 1 (offset + 1) capture.kind "NodeType")

/-- Compiles a pattern for a language whose grammar knows the given kinds. -/
def compile (knows : String → Bool) (language : Language) (text : String) :
    Except SearchError CompiledPattern :=
  match readLines knows 0 0 (Text.splitAt '\n' text) with
  | .ok captures => .ok ⟨language, captures⟩
  | .error message => .error (.invalidPattern language.id message)

/-- The cache key of a pattern, in hexadecimal. -/
def key (text : String) : String :=
  Sha256.hex (Sha256.digest (text.toList.flatMap String.utf8EncodeChar))

end Pattern

end CodeAtlas
