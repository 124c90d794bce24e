import CodeAtlas.Path
import CodeAtlas.SearchError

/-!
# Languages

The nine languages whose declarations and calls are known, the names they go by
and the file extensions they are recognised by.
-/

namespace CodeAtlas

/-- A supported language. -/
inductive Language where
  | python
  | javaScript
  | typeScript
  | tsx
  | rust
  | go
  | java
  | cpp
  | cSharp
  deriving DecidableEq, Repr

namespace Language

/-- Every language, in listing order. -/
def all : List Language :=
  [.python, .javaScript, .typeScript, .tsx, .rust, .go, .java, .cpp, .cSharp]

/-- The identifier of a language. -/
def id : Language → String
  | .python => "python"
  | .javaScript => "javascript"
  | .typeScript => "typescript"
  | .tsx => "tsx"
  | .rust => "rust"
  | .go => "go"
  | .java => "java"
  | .cpp => "cpp"
  | .cSharp => "c_sharp"

/-- The names a request may use for a language, in lower case. -/
def names : Language → List String
  | .python => ["python", "py"]
  | .javaScript => ["javascript", "js", "jsx"]
  | .typeScript => ["typescript", "ts"]
  | .tsx => ["tsx"]
  | .rust => ["rust", "rs"]
  | .go => ["go", "golang"]
  | .java => ["java"]
  | .cpp => ["cpp", "c++", "cxx"]
  | .cSharp => ["c_sharp", "csharp", "c#", "cs"]

/-- The file extensions of a language, in lower case. -/
def extensions : Language → List String
  | .python => ["py", "pyi"]
  | .javaScript => ["js", "mjs", "cjs", "jsx"]
  | .typeScript => ["ts", "mts", "cts"]
  | .tsx => ["tsx"]
  | .rust => ["rs"]
  | .go => ["go"]
  | .java => ["java"]
  | .cpp => ["cpp", "cc", "cxx", "hpp", "hh", "hxx", "h"]
  | .cSharp => ["cs"]

/-- The language a name stands for. White space around the name and the case of its
ASCII letters do not matter. -/
def ofName (name : String) : Except SearchError Language :=
  let key := Text.lower (Text.trim name)
  match all.find? fun language => language.names.contains key with
  | some language => .ok language
  | none => .error (.unsupportedLanguage key)

/-- The language with exactly this identifier. -/
def ofId? (id : String) : Option Language :=
  all.find? fun language => language.id = id

/-- The language of a file, by its extension. -/
def detect? (path : String) : Option Language :=
  (Path.extension? path).bind fun ext =>
    all.find? fun language => language.extensions.contains (Text.lower ext)

end Language

end CodeAtlas
